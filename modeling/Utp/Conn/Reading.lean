import Utp.Conn.Writes
import Utp.Receiver.Reorder

/-! # What reads report

A read reports the end of the stream only once the receive buffer is closed. Every
byte that was written to the buffer has been handed to a read or is still in it.
-/

namespace Utp

open Async (Chain Config)

/-! ## The buffer -/

namespace BlockingBuffer

/-- A pending read is told of the end only by what closes the buffer. -/
def EndsClosed (self : BlockingBuffer) : Prop :=
  ∀ entry ∈ self.settled, entry.2 = none → self.closed = true

/-- What was appended since, handed over or still buffered. -/
def Keeps (start self : BlockingBuffer) : Prop :=
  ∃ more, self.appended = start.appended ++ more ∧
    self.taken ++ self.buffer = start.taken ++ start.buffer ++ more

variable {self next : BlockingBuffer}

/-- A read that takes bytes or waits tells nobody of the end. -/
theorem ReadMove.endsClosed (hmove : self.ReadMove next) (hself : self.EndsClosed) :
    next.EndsClosed := by
  cases hmove with
  | settle id bytes =>
      intro entry hentry hnone
      rcases List.mem_append.mp hentry with hold | hnew
      · exact hself entry hold hnone
      · rw [List.mem_singleton.mp hnew] at hnone
        cases hnone
  | finish => exact fun _ _ _ => rfl
  | _ => exact hself

theorem ReadMove.closes (hmove : self.ReadMove next) (hclosed : self.closed = true) :
    next.closed = true := by
  cases hmove with
  | finish => rfl
  | _ => exact hclosed

/-- Draining tells of the end, and closes the buffer. -/
theorem EndsClosed.drain (hself : self.EndsClosed) : self.drain.EndsClosed := by
  unfold BlockingBuffer.drain
  split
  next => exact hself
  next =>
    split
    next => exact fun _ _ _ => rfl
    next => exact hself

theorem drain_closes (hclosed : self.closed = true) : self.drain.closed = true := by
  simp [drain, hclosed]

theorem Keeps.refl (self : BlockingBuffer) : self.Keeps self :=
  ⟨[], (List.append_nil _).symm, (List.append_nil _).symm⟩

variable {start : BlockingBuffer}

/-- What a read takes from the buffer goes to the caller. -/
theorem Keeps.readMove (hstart : start.Keeps self) (hmove : self.ReadMove next) :
    start.Keeps next := by
  obtain ⟨more, happended, htaken⟩ := hstart
  refine ⟨more, hmove.appended.trans happended, ?_⟩
  rw [← htaken]
  cases hmove with
  | serve size =>
      show self.taken ++ self.buffer.take size ++ self.buffer.drop size = _
      rw [List.append_assoc, List.take_append_drop]
  | take size =>
      show self.taken ++ self.buffer.take size ++ self.buffer.drop size = _
      rw [List.append_assoc, List.take_append_drop]
  | _ => rfl

/-- Appended data is kept behind the rest. -/
theorem Keeps.append (hstart : start.Keeps self) (data : Bytes) :
    start.Keeps (self.append data) := by
  obtain ⟨more, happended, htaken⟩ := hstart
  refine ⟨more ++ data, ?_, ?_⟩
  · rw [← List.append_assoc, ← happended]
    rfl
  · rw [← List.append_assoc, ← htaken, List.append_assoc]
    rfl

/-- Draining keeps the data. -/
theorem Keeps.drain (hstart : start.Keeps self) : start.Keeps self.drain := by
  have hbytes : self.drain.taken ++ self.drain.buffer = self.taken ++ self.buffer := by
    unfold BlockingBuffer.drain
    split
    next => rfl
    next => split <;> rfl
  obtain ⟨more, happended, htaken⟩ := hstart
  exact ⟨more, (drain_appended self).trans happended, hbytes.trans htaken⟩

/-- A read that returns the end leaves a closed buffer. -/
theorem read_closes (size : Nat) (hself : self.EndsClosed) :
    (read size).Moves (fun start later => start.EndsClosed → later.EndsClosed) (fun _ _ => True)
      (fun result later => result = .ok none → later.closed = true) self := by
  simp only [read, Async.bind_eq, Async.moves_bind, Async.moves_get]
  split
  next hclosed =>
    split
    next => rintro ⟨⟩
    next =>
      split
      next => rintro ⟨⟩
      next => exact fun _ => hclosed
  next =>
    split
    next =>
      refine ⟨trivial, ?_⟩
      rintro - - - ⟨⟩
    next =>
      split
      next => exact ⟨trivial, fun _ => rfl⟩
      next =>
        refine ⟨trivial, fun later hlater hready hnone => ?_⟩
        -- The promise is settled, so the end it reports is on record.
        simp only [Except.ok.injEq] at hnone
        have hsome : (later.settled.lookup self.nextRead).isSome = true := by
          rw [List.lookup_isSome_iff]
          simpa [List.any_eq_true] using hready
        obtain ⟨result, hresult⟩ := Option.isSome_iff_exists.mp hsome
        rw [hresult, Option.getD_some] at hnone
        rw [hnone] at hresult
        obtain ⟨front, rest, hsplit, -⟩ := List.lookup_eq_some_iff.mp hresult
        apply hlater (by exact hself) (self.nextRead, none)
        · rw [hsplit]
          simp
        · rfl

/-- What a connection does to its receive buffer. -/
inductive Touches (self : BlockingBuffer) : BlockingBuffer → Prop
  | nothing : Touches self self
  | read {next : BlockingBuffer} (hmove : self.ReadMove next) : Touches self next
  | append (data : Bytes) : Touches self (self.append data)
  | drain : Touches self self.drain

/-- Nothing that a connection does tells of the end before the buffer is closed. -/
theorem Touches.endsClosed (htouches : self.Touches next) (hself : self.EndsClosed) :
    next.EndsClosed := by
  cases htouches with
  | nothing => exact hself
  | read hmove => exact hmove.endsClosed hself
  | append => exact hself
  | drain => exact hself.drain

/-- A closed buffer stays closed. -/
theorem Touches.closes (htouches : self.Touches next) (hclosed : self.closed = true) :
    next.closed = true := by
  cases htouches with
  | nothing => exact hclosed
  | read hmove => exact hmove.closes hclosed
  | append => exact hclosed
  | drain => exact drain_closes hclosed

/-- Nothing that a connection does loses data of the buffer. -/
theorem Touches.keeps (htouches : self.Touches next) (hstart : start.Keeps self) :
    start.Keeps next := by
  cases htouches with
  | nothing => exact hstart
  | read hmove => exact hstart.readMove hmove
  | append data => exact hstart.append data
  | drain => exact hstart.drain

end BlockingBuffer

namespace World

variable {receiving closing writing : Bool} {world next : World}

/-- Every write of the connection does one of these things to the buffer. -/
theorem Act.touches (hact : Act receiving closing writing world next) :
    world.conn.recvBuffer.Touches next.conn.recvBuffer := by
  cases hact with
  | env henv =>
      rw [henv.conn]
      exact .nothing
  | readBuffer buffer hmove => exact .read hmove
  | forceClose => exact .drain
  | drain => exact .drain
  | append data => exact .append data
  | _ => exact .nothing

/-- What survives every change of the buffer survives a chain of acts. -/
theorem buffer_of_chain (keep : BlockingBuffer → Prop)
    (hkeep : ∀ self next : BlockingBuffer, self.Touches next → keep self → keep next)
    (hchain : Chain (Act receiving closing writing) world next)
    (hworld : keep world.conn.recvBuffer) : keep next.conn.recvBuffer := by
  induction hchain with
  | refl => exact hworld
  | tail _ hact ih => exact hkeep _ _ (Act.touches hact) ih

/-! ## Only reads report -/

/-- The write records no result of a read, or the end of a closed buffer. -/
def Reports (world next : World) : Prop :=
  none ∈ next.conn.reads → none ∈ world.conn.reads ∨ world.conn.recvBuffer.closed = true

/-- What is built without `write` carries nothing. -/
theorem Writes.created {reading : Bool} (hwrites : Writes reading false world next) : ∃ packets,
    next.conn.created = world.conn.created ++ packets ∧
      packets.flatMap UtpPacket.payload = [] := by
  cases hwrites with
  | own conn _ hcreated => exact ⟨[], hcreated.trans (List.append_nil _).symm, rfl⟩
  | enter conn _ hcreated => exact ⟨[], hcreated.trans (List.append_nil _).symm, rfl⟩
  | leave conn _ hcreated => exact ⟨[], hcreated.trans (List.append_nil _).symm, rfl⟩
  | logRead => exact ⟨[], (List.append_nil _).symm, rfl⟩
  | takeFin => exact ⟨[world.finPacket], rfl, rfl⟩
  | takeData packet hwriting => cases hwriting
  | transmit => exact ⟨[], (List.append_nil _).symm, rfl⟩

/-- A read puts the end on record only when it found or left a closed buffer. -/
theorem read_reports (size : Nat) (hends : world.conn.recvBuffer.EndsClosed) :
    (UtpConn.read size).Moves (Chain (Act true true true)) Reports (fun _ _ => True) world := by
  have hrely : ∀ start later : World, Chain (Act true true true) start later →
      start.conn.recvBuffer.EndsClosed → later.conn.recvBuffer.EndsClosed :=
    fun _ _ => buffer_of_chain _ fun _ _ htouches => htouches.endsClosed
  have hput : ∀ (world : World) (buffer : BlockingBuffer), True →
      Reports world (world.onConn fun conn => { conn with recvBuffer := buffer }) :=
    fun _ _ _ => .inl
  have hread : (onRecvBuffer (BlockingBuffer.read size)).Moves (Chain (Act true true true)) Reports
      (fun result later => result = .ok none → later.conn.recvBuffer.closed = true) world := by
    have hview : ∀ (world : World) (buffer : BlockingBuffer),
        (world.onConn fun conn => { conn with recvBuffer := buffer }).conn.recvBuffer = buffer :=
      fun _ _ => rfl
    exact @Async.Moves.zoom _ _ _ _ World (fun world => world.conn.recvBuffer) _ _ _
      (fun result buffer => result = .ok none → buffer.closed = true) hview hrely hput _ _
      (BlockingBuffer.read_closes size hends)
  refine Async.moves_bind.mpr (Async.moves_awaited.mpr (hread.post ?_))
  rintro (error | value) returned hreturned later hlater
  · trivial
  · have hclosed : value = none → later.conn.recvBuffer.closed = true := by
      intro hnone
      apply buffer_of_chain (fun self => self.closed = true) _ hlater
      · exact hreturned (by rw [hnone])
      · exact fun _ _ htouches => htouches.closes
    refine ⟨fun hreads => ?_, trivial⟩
    rcases List.mem_append.mp hreads with hold | hnew
    · exact .inl hold
    · exact .inr (hclosed (List.mem_singleton.mp hnew).symm)

/-- Code that leaves the list of reads alone reports nothing. -/
theorem reports_of_same {task : ConnM Unit}
    (htask : task.MovesAlways fun world next => next.conn.reads = world.conn.reads) :
    task.Moves (Chain (Act true true true)) Reports (fun _ _ => True) world := by
  apply Async.MovesAlways.moves
  apply htask.mono
  intro start target hsame hread
  rw [hsame] at hread
  exact .inl hread

/-- A task reports the end only of a closed buffer. -/
theorem spawns_reports {admits : World → UtpPacket → Prop} {label : Label} {task : ConnM Unit}
    (hends : world.conn.recvBuffer.EndsClosed) (hspawns : Spawns admits world label task) :
    task.Moves (Chain (Act true true true)) Reports (fun _ _ => True) world := by
  by_cases hread : label = .read
  · subst hread
    cases hspawns with
    | read size =>
        apply Async.moves_bind.mpr
        apply (read_reports size hends).post
        intro result _ _
        cases result <;> trivial
  · have hwrites := spawns_writes hspawns
    rw [decide_eq_false hread] at hwrites
    exact reports_of_same (hwrites.mono fun _ _ => Writes.reads)

/-- The end of the stream is on record only for a closed buffer. -/
structure Truthful (world : World) : Prop where
  pending : world.conn.recvBuffer.EndsClosed
  reads : none ∈ world.conn.reads → world.conn.recvBuffer.closed = true

/-- The step lemma: a report that is true keeps the record truthful. -/
theorem Truthful.act (htruthful : world.Truthful) (hact : Act receiving closing writing world next)
    (hreports : world.Reports next) : next.Truthful where
  pending := (Act.touches hact).endsClosed htruthful.pending
  reads hread := (Act.touches hact).closes ((hreports hread).elim htruthful.reads id)

/-- The write of a task, with what it puts on record. -/
abbrev Recording (world next : World) : Prop := Act true true true world next ∧ Reports world next

theorem acts_of_recording {later : World} (hchain : Chain Recording world later) :
    Chain (Act true true true) world later :=
  hchain.lift id fun _ _ hmove => hmove.1

/-- Both facts on the writes of a task are taken together. -/
theorem moves_recording {task : ConnM Unit}
    (hacts : task.Moves (Chain (Act true true true)) (Act true true true) (fun _ _ => True) world)
    (hreports : task.Moves (Chain (Act true true true)) Reports (fun _ _ => True) world) :
    task.Moves (Chain Recording) Recording (fun _ _ => True) world :=
  (hacts.both hreports).mono (fun _ _ => acts_of_recording) (fun _ _ => id) fun _ _ => id

/-- Tracking and truth are kept together. -/
theorem Truthful.recording {first : Nat} (hworld : world.Tracked first ∧ world.Truthful)
    (hmove : Recording world next) : next.Tracked first ∧ next.Truthful :=
  ⟨hmove.1.tracked hworld.1, hworld.2.act hmove.1 hmove.2⟩

/-- Every task of a connection keeps its record truthful. -/
theorem connSystem_recording (labels : Label → Prop) (admits : World → UtpPacket → Prop)
    (first : Nat) : (connSystem labels admits).MovesBy Recording
      (fun world => world.Tracked first ∧ world.Truthful) := by
  refine ⟨fun _ _ => Truthful.recording, ?_, ?_⟩
  · intro world label task hworld hspawn
    exact moves_recording (spawns_acts hworld.1 hspawn.2 (fun _ => rfl) (fun _ => rfl) fun _ => rfl)
      (spawns_reports hworld.2.pending hspawn.2)
  · intro world next hworld henv
    refine ⟨.env henv, fun hread => .inl ?_⟩
    rwa [World.Environment.conn henv] at hread

/-- The handshake records nothing. -/
theorem handshake_recording {first : Nat} {packet : UtpPacket} (htracked : world.Tracked first)
    (htruthful : world.Truthful)
    (hacts : (UtpConn.sendHandshake packet).Moves (Chain (Act true true true)) (Act true true true)
      (fun _ _ => True) world) :
    (Config.launch ⟨world, []⟩ Label.connect (UtpConn.sendHandshake packet)).Moving Recording
      (fun world => world.Tracked first ∧ world.Truthful) := by
  have hquiet : (UtpConn.sendHandshake packet).MovesAlways fun world next =>
      next.conn.reads = world.conn.reads :=
    (sendHandshake_writes packet).mono fun _ _ => @Writes.reads false _ _
  have hstart : Config.Moving Recording (fun world => world.Tracked first ∧ world.Truthful)
      (⟨world, []⟩ : Config World Label) := .start ⟨htracked, htruthful⟩
  have hpreserves : ∀ start target : World, start.Tracked first ∧ start.Truthful →
      Recording start target → target.Tracked first ∧ target.Truthful :=
    fun _ _ => Truthful.recording
  exact (hstart.launch hpreserves (moves_recording hacts (reports_of_same hquiet)) Label.connect).2

/-- A connection starts with an empty record. -/
theorem connectTo_recording {self : Nat} {utp : UtpSocket} {isInitiator : Bool}
    {remoteAddr : UtpAddr} {sendId recvId seqNr ackNr : Nat} (hseqNr : seqNr < 65536) :
    (connectTo self utp isInitiator remoteAddr sendId recvId seqNr ackNr).Moving Recording
      (fun world => world.Tracked (firstSeqNr isInitiator seqNr) ∧ world.Truthful) := by
  have hcreated := create_tracked self utp isInitiator remoteAddr sendId recvId seqNr ackNr hseqNr
  cases isInitiator with
  | true =>
      have htracked := hcreated.takeSyn rfl rfl
      rw [connectTo_initiator]
      apply handshake_recording htracked ⟨nofun, nofun⟩
      exact sendHandshake_acts htracked (sendable_syn _ _ _) nofun
  | false =>
      rw [connectTo_responder]
      apply handshake_recording hcreated ⟨nofun, nofun⟩
      exact sendHandshake_acts hcreated (sendable_synAck rfl) nofun

end World

end Utp
