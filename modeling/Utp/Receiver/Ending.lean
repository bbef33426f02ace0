import Utp.Conn.Terminal

/-! # The end of the stream for readers

What a read finds once the connection has terminated. The receive buffer has to
be drained on every way into a terminal state, with no read left behind in it.
-/

namespace Utp

open Async (Config Guard)

/-! ## Reading a drained buffer -/

namespace BlockingBuffer

/-- Nothing is pending once no more data may come, and only an empty buffer is closed. -/
structure Drainable (recv : BlockingBuffer) : Prop where
  readers : recv.closedForWriting = true → recv.readResolvers = []
  closed : recv.closed = true → recv.buffer = [] ∧ recv.closedForWriting = true

theorem ReadMove.drainable {self next : BlockingBuffer} (hmove : self.ReadMove next)
    (hself : self.Drainable) : next.Drainable := by
  cases hmove with
  | serve size hdata =>
      refine ⟨fun h => ?_, fun h => ?_⟩
      · show self.readResolvers.tail = []
        rw [hself.readers h]
        rfl
      · exact absurd (List.length_eq_zero_iff.mpr (hself.closed h).1) hdata
  | settle => exact ⟨hself.readers, hself.closed⟩
  | take size hdata =>
      refine ⟨hself.readers, fun h => ?_⟩
      have hempty := (hself.closed h).1
      simp [length, hempty] at hdata
  | finish hempty hdrained =>
      exact ⟨hself.readers, fun _ => ⟨List.length_eq_zero_iff.mp hempty, hdrained⟩⟩
  | wait size _ _ hundrained =>
      refine ⟨fun h => ?_, hself.closed⟩
      rw [show self.closedForWriting = true from h] at hundrained
      cases hundrained

theorem Drainable.drain {self : BlockingBuffer} (hself : self.Drainable)
    (hserved : self.buffer ≠ [] → self.readResolvers = []) :
    self.drain.Drainable ∧ self.drain.closedForWriting = true := by
  refine ⟨?_, drain_closedForWriting fun h => (hself.closed h).2⟩
  unfold BlockingBuffer.drain
  split
  next => exact hself
  next hopen =>
    simp only [Bool.or_eq_true, not_or] at hopen
    split
    next hempty => exact ⟨fun _ => rfl, fun _ => ⟨List.length_eq_zero_iff.mp hempty, rfl⟩⟩
    next hdata =>
      exact ⟨fun _ => hserved fun h => hdata (List.length_eq_zero_iff.mpr h),
        fun h => absurd h hopen.1⟩

theorem Drainable.append {self : BlockingBuffer} (hself : self.Drainable) {data : Bytes}
    (hopen : self.closed = true → data = []) : (self.append data).Drainable := by
  refine ⟨hself.readers, fun h => ?_⟩
  obtain ⟨hempty, hdrained⟩ := hself.closed h
  exact ⟨by simp [BlockingBuffer.append, hempty, hopen h], hdrained⟩

/-- What reads of the given sizes return, one after the other: the bytes that are
left, and then the end. -/
def pieces : Bytes → List Nat → List (Option Bytes)
  | _, [] => []
  | buffer, size :: rest =>
      (if buffer = [] then none else some (buffer.take size)) :: pieces (buffer.drop size) rest

/-- A read of a drained buffer returns without waiting. -/
theorem run_read {self : BlockingBuffer} (hself : self.Drainable)
    (hdrained : self.closedForWriting = true) (size : Nat) :
    ∃ next, (read size).run self =
        some (next, .ok (if self.buffer = [] then none else some (self.buffer.take size))) ∧
      next.Drainable ∧ next.closedForWriting = true ∧ next.buffer = self.buffer.drop size := by
  cases hclosed : self.closed with
  | true =>
      obtain ⟨hempty, -⟩ := hself.closed hclosed
      refine ⟨self, ?_, hself, hdrained, by simp [hempty]⟩
      simp [read, Async.run_bind, hclosed, hself.readers hdrained, length, hempty]
  | false =>
      by_cases hempty : self.buffer = []
      · refine ⟨{ self with closed := true }, ?_, ⟨hself.readers, fun _ => ⟨hempty, hdrained⟩⟩,
          hdrained, by simp [hempty]⟩
        simp [read, Async.run_bind, hclosed, hdrained, length, hempty]
      · have hdata : 0 < self.length := List.length_pos_iff.mpr hempty
        refine ⟨self.take size, ?_, ⟨hself.readers, fun h => ?_⟩, hdrained, rfl⟩
        · simp [read, Async.run_bind, hclosed, hdata, hempty]
        · rw [show self.closed = true from h] at hclosed
          cases hclosed

end BlockingBuffer

namespace UtpConn

/-- Reads of the given sizes, each started when the one before has returned. -/
def readAll : List Nat → ConnM (List (Option Bytes))
  | [] => pure []
  | size :: rest => do
      let result ← read size
      let more ← readAll rest
      pure (result :: more)

end UtpConn

namespace World

/-- No read is pending, and reads from here on return what is buffered and then the
end of the stream. -/
structure ReadsEnd (world : World) : Prop where
  pending : world.conn.recvBuffer.readResolvers = []
  reads : ∀ sizes, ∃ final, (UtpConn.readAll sizes).run world =
    some (final, .ok (BlockingBuffer.pieces world.conn.recvBuffer.buffer sizes))

/-- The buffer is fit to be drained, and drained in a terminal state. -/
structure Ends (world : World) : Prop where
  drainable : world.conn.recvBuffer.Drainable
  drained : world.Terminal → world.conn.recvBuffer.closedForWriting = true

theorem run_read {world : World} (hdrainable : world.conn.recvBuffer.Drainable)
    (hdrained : world.conn.recvBuffer.closedForWriting = true) (size : Nat) :
    ∃ next, (UtpConn.read size).run world = some (next, .ok
        (if world.conn.recvBuffer.buffer = [] then none
          else some (world.conn.recvBuffer.buffer.take size))) ∧
      next.conn.recvBuffer.Drainable ∧ next.conn.recvBuffer.closedForWriting = true ∧
      next.conn.recvBuffer.buffer = world.conn.recvBuffer.buffer.drop size := by
  obtain ⟨buffer, hrun, hnext⟩ := BlockingBuffer.run_read hdrainable hdrained size
  have hzoom : (onRecvBuffer (BlockingBuffer.read size)).run world =
      ((BlockingBuffer.read size).run world.conn.recvBuffer).map fun result =>
        (world.onConn fun conn => { conn with recvBuffer := result.1 }, result.2) :=
    Async.run_zoom (fun world : World => world.conn.recvBuffer)
      (fun world buffer => world.onConn fun conn => { conn with recvBuffer := buffer })
      (fun _ _ => rfl) (fun _ => rfl) (fun _ _ _ => rfl) (BlockingBuffer.read size) world
  let next := (world.onConn fun conn => { conn with recvBuffer := buffer }).logRead
    (if world.conn.recvBuffer.buffer = [] then none
      else some (world.conn.recvBuffer.buffer.take size))
  refine ⟨next, ?_, hnext⟩
  simp only [UtpConn.read, Async.bind_eq, Async.run_bind, Async.run_awaited, hzoom, hrun,
    Option.map_some, Option.bind_some, Async.run_modify, Async.pure_eq, Async.run_pure]
  rfl

theorem run_readAll {world : World} (hdrainable : world.conn.recvBuffer.Drainable)
    (hdrained : world.conn.recvBuffer.closedForWriting = true) (sizes : List Nat) :
    ∃ final, (UtpConn.readAll sizes).run world =
      some (final, .ok (BlockingBuffer.pieces world.conn.recvBuffer.buffer sizes)) := by
  induction sizes generalizing world with
  | nil => exact ⟨world, rfl⟩
  | cons size rest ih =>
      obtain ⟨next, hread, hnext, hstill, hbuffer⟩ := run_read hdrainable hdrained size
      obtain ⟨final, hrest⟩ := ih hnext hstill
      refine ⟨final, ?_⟩
      simp only [UtpConn.readAll, Async.bind_eq, Async.run_bind, hread, hrest, hbuffer,
        Option.bind_some, Async.pure_eq, Async.run_pure, BlockingBuffer.pieces]

theorem readsEnd_of_drained {world : World} (hdrainable : world.conn.recvBuffer.Drainable)
    (hdrained : world.conn.recvBuffer.closedForWriting = true) : world.ReadsEnd :=
  ⟨hdrainable.readers hdrained, run_readAll hdrainable hdrained⟩

/-! ## The ways into a terminal state -/

/-- The writes that leave readers behind: a reset or a release without a drain, a
drain between the arrival of data and the service of the reads that wait for it, and
data for a buffer that has been closed. -/
inductive Strands (world : World) : World → Prop
  | resetNow (hopen : world.conn.recvBuffer.closedForWriting = false) :
      Strands world world.resetNow
  | release (hopen : world.conn.recvBuffer.closedForWriting = false) :
      Strands world world.release
  | drain (hdata : world.conn.recvBuffer.buffer ≠ [])
      (hpending : world.conn.recvBuffer.readResolvers ≠ []) : Strands world world.drain
  | forceClose (hdata : world.conn.recvBuffer.buffer ≠ [])
      (hpending : world.conn.recvBuffer.readResolvers ≠ []) : Strands world world.forceClose
  | append (data : Bytes) (hdata : data ≠ []) (hclosed : world.conn.recvBuffer.closed = true) :
      Strands world
        (world.onConn fun conn => { conn with recvBuffer := conn.recvBuffer.append data })

theorem Ends.same {world next : World} (hends : world.Ends)
    (hbuffer : next.conn.recvBuffer = world.conn.recvBuffer)
    (hterminal : next.Terminal → world.Terminal) : next.Ends := by
  refine ⟨?_, fun h => ?_⟩
  · rw [hbuffer]
    exact hends.drainable
  · rw [hbuffer]
    exact hends.drained (hterminal h)

theorem Ends.of_drain {world next : World} (hends : world.Ends)
    (hserved : world.conn.recvBuffer.buffer ≠ [] → world.conn.recvBuffer.readResolvers = [])
    (hbuffer : next.conn.recvBuffer = world.conn.recvBuffer.drain) : next.Ends := by
  obtain ⟨hdrainable, hdrained⟩ := hends.drainable.drain hserved
  refine ⟨?_, fun _ => ?_⟩
  · rw [hbuffer]
    exact hdrainable
  · rw [hbuffer]
    exact hdrained

theorem Act.ends {receiving closing writing : Bool} {world next : World} (hends : world.Ends)
    (hact : Act receiving closing writing world next) (hkept : ¬ world.Strands next) :
    next.Ends := by
  cases hact with
  | env henv =>
      refine hends.same ?_ fun h => ?_
      · rw [henv.conn]
      · simpa only [Terminal, henv.conn] using h
  | readBuffer buffer hmove =>
      refine ⟨hmove.drainable hends.drainable, fun h => ?_⟩
      exact hmove.closed.1.trans (hends.drained h)
  | beginClose => exact hends.same rfl fun h => (h.ne rfl nofun nofun).elim
  | resetNow =>
      refine ⟨hends.drainable, fun _ => ?_⟩
      exact Bool.eq_false_imp_eq_true.mp fun hopen => absurd (.resetNow hopen) hkept
  | release =>
      refine ⟨hends.drainable, fun _ => ?_⟩
      exact Bool.eq_false_imp_eq_true.mp fun hopen => absurd (.release hopen) hkept
  | forceClose =>
      refine hends.of_drain (fun hdata => ?_) rfl
      exact not_not.mp fun hpending => hkept (.forceClose hdata hpending)
  | drain =>
      refine hends.of_drain (fun hdata => ?_) rfl
      exact not_not.mp fun hpending => hkept (.drain hdata hpending)
  | append data =>
      refine ⟨hends.drainable.append fun hclosed => ?_, hends.drained⟩
      exact not_not.mp fun hdata => hkept (.append data hdata hclosed)
  | acceptHandshake => exact hends.same rfl fun h => (h.ne rfl nofun nofun).elim
  | acceptFirstData => exact hends.same rfl fun h => (h.ne rfl nofun nofun).elim
  | acceptFin => exact hends.same rfl fun h => (h.ne rfl nofun nofun).elim
  | _ => exact hends.same rfl id

/-- A drain is never undone. -/
theorem Act.closedForWriting {receiving closing writing : Bool} {world next : World}
    (hact : Act receiving closing writing world next)
    (hdrained : world.conn.recvBuffer.closedForWriting = true) :
    next.conn.recvBuffer.closedForWriting = true := by
  have hdrain : world.conn.recvBuffer.drain = world.conn.recvBuffer := by
    simp [BlockingBuffer.drain, hdrained]
  cases hact with
  | env henv =>
      rw [henv.conn]
      exact hdrained
  | readBuffer buffer hmove => exact hmove.closed.1.trans hdrained
  | forceClose =>
      show world.conn.recvBuffer.drain.closedForWriting = true
      rw [hdrain]
      exact hdrained
  | drain =>
      show world.conn.recvBuffer.drain.closedForWriting = true
      rw [hdrain]
      exact hdrained
  | _ => exact hdrained

/-- No write leaves a reader behind. -/
def strandsNobody : Guard World Label := fun _ _ start target => ¬ start.Strands target

/-- In the runs in which every way into a terminal state drains the receive buffer in
time, no read is left pending on a terminated connection, and from then on reads
return the buffered bytes and then the end. -/
theorem reads_end {self : Nat} {utp : UtpSocket} {isInitiator : Bool}
    {remoteAddr : UtpAddr} {sendId recvId seqNr ackNr : Nat} (hseqNr : seqNr < 65536)
    {config later : Config World Label}
    (hconfig : (connSystem anyLabel anyPacket).Guarded strandsNobody
      (connectTo self utp isInitiator remoteAddr sendId recvId seqNr ackNr) config)
    (hterminal : config.state.Terminal)
    (hlater : (connSystem anyLabel anyPacket).Guarded strandsNobody config later) :
    later.state.ReadsEnd := by
  have hact : ∀ others label start target, start.Ends → Label.Acts label start target →
      strandsNobody others label start target → target.Ends :=
    fun _ _ _ _ hends hact hkept => Act.ends hends hact hkept
  have henv : ∀ start target : World, start.Ends → start.Environment target →
      target.Ends := by
    intro start target hends henv
    refine hends.same ?_ fun h => ?_
    · rw [henv.conn]
    · simpa only [Terminal, henv.conn] using h
  have hbegun :
      (connectTo self utp isInitiator remoteAddr sendId recvId seqNr ackNr).state.Ends := by
    have hconn := connectTo_conn self utp isInitiator remoteAddr sendId recvId seqNr ackNr
    refine ⟨?_, fun h => ?_⟩
    · rw [hconn]
      cases isInitiator <;> exact ⟨nofun, nofun⟩
    · rw [Terminal, hconn] at h
      cases isInitiator <;> rcases h with h | h <;> cases h
  have hends := guarded_keeps hseqNr .refl hconfig Ends hact henv hbegun
  -- the drain outlives a return from the terminal state
  have hkept := guarded_keeps hseqNr hconfig.reachable hlater
    (fun world => world.Ends ∧ world.conn.recvBuffer.closedForWriting = true) ?_ ?_
    ⟨hends, hends.drained hterminal⟩
  · exact readsEnd_of_drained hkept.1.drainable hkept.2
  · intro others label start target h hwrite hallowed
    exact ⟨Act.ends h.1 hwrite hallowed, Act.closedForWriting hwrite h.2⟩
  · intro start target h hmove
    refine ⟨henv _ _ h.1 hmove, ?_⟩
    rw [hmove.conn]
    exact h.2

/-! ## Concrete runs -/

/-- A write on an open buffer that drains no data beside a pending read, resets nothing and
closes with a drain. -/
def drains (start target : World) : Bool :=
  (decide (start.conn.recvBuffer.buffer = []) || start.conn.recvBuffer.readResolvers.isEmpty ||
      !target.conn.recvBuffer.closedForWriting) && !start.conn.recvBuffer.closed &&
    decide (target.conn.localState ≠ .CS_RESET) &&
    (target.conn.recvBuffer.closedForWriting || decide (target.conn.localState ≠ .CS_CLOSED))

theorem not_strands {start target : World} (hdrains : drains start target = true) :
    ¬ start.Strands target := by
  simp only [drains, Bool.and_eq_true, Bool.or_eq_true, decide_eq_true_eq, List.isEmpty_iff,
    Bool.not_eq_true'] at hdrains
  obtain ⟨⟨⟨hserved, hopen⟩, hreset⟩, hdrained⟩ := hdrains
  have hends : start.conn.recvBuffer.drain.closedForWriting = true :=
    BlockingBuffer.drain_closedForWriting fun h => absurd (hopen.symm.trans h) nofun
  intro hstrands
  cases hstrands with
  | resetNow => exact hreset rfl
  | release hundrained =>
      rcases hdrained with h | h
      · exact absurd (hundrained.symm.trans h) nofun
      · exact h rfl
  | drain hdata hpending =>
      exact (hserved.resolve_right fun h => absurd (h.symm.trans hends) nofun).elim hdata hpending
  | forceClose hdata hpending =>
      exact (hserved.resolve_right fun h => absurd (h.symm.trans hends) nofun).elim hdata hpending
  | append _ _ hclosed => exact absurd (hopen.symm.trans hclosed) nofun

theorem launch_drains {config : Config World Label} {label : Label} {task : ConnM Unit}
    (hspawns : Spawns anyPacket config.state label task)
    (hfree : config.tasks.all (fun other => decide (other.1 ≠ .receive)) = true)
    (hdrains : (task.writes config.state).all (fun write => drains write.1 write.2) = true) :
    (connSystem anyLabel anyPacket).GuardedStep strandsNobody config
    (config.launch label task) := by
  refine .launch ⟨trivial, hspawns⟩ (fun hreceive other hother => ?_) fun write hwrite =>
    not_strands (List.all_eq_true.mp hdrains write hwrite)
  rw [show label = .receive from hreceive]
  exact of_decide_eq_true (List.all_eq_true.mp hfree other hother)

theorem resumes_drains {config : Config World Label} {positions : List Nat}
    (hdrains : (Async.TaskSystem.resumesWrites config positions).all
      (fun write => drains write.1 write.2) = true) :
    (connSystem anyLabel anyPacket).Guarded strandsNobody config (config.resumes positions) :=
  .resumes _ fun write hwrite _ _ => not_strands (List.all_eq_true.mp hdrains write hwrite)

/-- A read waits for the first byte of the peer, -/
def served : Config World Label :=
  (((established 0 .sample (.localhost 9000) 1 100).launch .read
    (Async.discard (UtpConn.read 10))).launch .receive (handling
      { type := .ST_DATA, connId := 1, seqNr := 100, data := some [65] })).resumes
    (List.replicate 9 1 ++ [0])

/-- a second byte is not read, -/
def unread : Config World Label :=
  (served.launch .receive (handling
    { type := .ST_DATA, connId := 1, seqNr := 101, data := some [66] })).resumes
      (List.replicate 9 0)

/-- and the peer ends the stream. -/
def endedUnread : Config World Label :=
  (unread.launch .receive (handling { type := .ST_FIN, connId := 1, seqNr := 102 })).resumes
    (List.replicate 9 0)

theorem endedUnread_drains : (connSystem anyLabel anyPacket).Guarded strandsNobody
    (connectTo 0 .sample true (.localhost 9000) 2 1 1 0) endedUnread := by
  have hsyn : (connSystem anyLabel anyPacket).Guarded strandsNobody
      (connectTo 0 .sample true (.localhost 9000) 2 1 1 0)
      ((connectTo 0 .sample true (.localhost 9000) 2 1 1 0).resumes [0, 0, 0, 0]) :=
    resumes_drains (by decide +kernel)
  have hanswer := hsyn.tail
    (launch_drains (.receive (synAck 1 100) trivial) (by decide +kernel) (by decide +kernel))
  have hopen : (connSystem anyLabel anyPacket).Guarded strandsNobody
      (connectTo 0 .sample true (.localhost 9000) 2 1 1 0)
      (established 0 .sample (.localhost 9000) 1 100) :=
    hanswer.trans (resumes_drains (by decide +kernel))
  have hread := hopen.tail
    (launch_drains (.read 10 sample_resolved) (by decide +kernel) (by decide +kernel))
  have hfirst := (hread.tail (launch_drains (.receive _ trivial) (by decide +kernel)
    (by decide +kernel))).trans (resumes_drains (by decide +kernel) :
      (connSystem anyLabel anyPacket).Guarded strandsNobody _ served)
  have hsecond := (hfirst.tail (launch_drains (.receive _ trivial) (by decide +kernel)
    (by decide +kernel))).trans (resumes_drains (by decide +kernel) :
      (connSystem anyLabel anyPacket).Guarded strandsNobody _ unread)
  exact (hsecond.tail (launch_drains (.receive _ trivial) (by decide +kernel)
    (by decide +kernel))).trans (resumes_drains (by decide +kernel))

/-- The waiting read has its byte, and the other byte can still be read. -/
theorem reads_end_sample : endedUnread.state.conn.reads = [some [65]] ∧
    endedUnread.state.conn.recvBuffer.buffer = [66] ∧ endedUnread.state.ReadsEnd := by
  have hclosed : endedUnread.state.conn.localState = .CS_CLOSED := by decide +kernel
  refine ⟨by decide +kernel, by decide +kernel, ?_⟩
  exact reads_end (by decide) endedUnread_drains (.inl hclosed) .refl

/-- A reset leaves the read that waits for data pending for ever. -/
theorem reset_strands_reader :
    ¬ ∀ config, (connSystem anyLabel anyPacket).Reachable
        (connectTo 0 .sample true (.localhost 9000) 2 1 1 0) config →
      (∀ entry ∈ config.tasks, entry.1 = .read) → config.state.Terminal →
        config.state.ReadsEnd := by
  intro hclaim
  let reading := (established 0 .sample (.localhost 9000) 1 100).launch .read
    (Async.discard (UtpConn.read 10))
  have hreading : (connSystem anyLabel anyPacket).Reachable
      (connectTo 0 .sample true (.localhost 9000) 2 1 1 0) reading :=
    sample_established.step (.launch ⟨trivial, .read 10 (by decide +kernel)⟩ nofun)
  have hreset : (connSystem anyLabel anyPacket).Reachable
      (connectTo 0 .sample true (.localhost 9000) 2 1 1 0) (reading.launch .reset UtpConn.reset) :=
    hreading.step (.launch ⟨trivial, .reset⟩ nofun)
  have honly : (reading.launch .reset UtpConn.reset).tasks.all
      (fun entry => decide (entry.1 = .read)) = true := by decide +kernel
  have hends := hclaim _ hreset (fun entry h => of_decide_eq_true
    (List.all_eq_true.mp honly entry h))
    (.inr (by decide +kernel))
  have hpending : (reading.launch .reset UtpConn.reset).state.conn.recvBuffer.readResolvers.length =
      1 := by decide +kernel
  rw [hends.pending] at hpending
  cases hpending

end World

end Utp
