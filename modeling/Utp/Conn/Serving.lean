import Utp.Conn.Reading

/-! # Reads that follow one another

Each call of `read` starts once the one before has returned. Beside it run the handlers of
packets, which serve a read that waits: they take its bytes from the buffer at one turn and
tell it at the next. So the bytes taken are at any time those that were returned and those
owed to the read under way.
-/

namespace Utp

open Async (Chain Config Contract Outline TaskSystem)

namespace BlockingBuffer

variable {returned owed : Bytes} {id : Nat} {recv : BlockingBuffer}

/-- No read waits, and `owed` was taken for the one under way. -/
structure Owes (returned owed : Bytes) (recv : BlockingBuffer) : Prop where
  pending : recv.readResolvers = []
  told : ∀ other, (recv.settled.lookup other).isSome = true ↔ other < recv.nextRead
  taken : returned ++ owed = recv.taken

/-- The latest read to wait has been told nothing, unlike all others. -/
structure Untold (id : Nat) (recv : BlockingBuffer) : Prop where
  next : recv.nextRead = id + 1
  told : ∀ other, (recv.settled.lookup other).isSome = true ↔ other < id

/-- The bytes for the read were taken, and a write is about to hand them over. -/
structure Served (returned : Bytes) (id : Nat) (bytes : Bytes) (recv : BlockingBuffer) : Prop
    extends recv.Untold id where
  pending : recv.readResolvers = []
  taken : returned ++ bytes = recv.taken

/-- How far a read that waits has come. -/
inductive Awaits (returned : Bytes) (id : Nat) (recv : BlockingBuffer) : Prop
  | waits (size : Nat) (huntold : recv.Untold id) (hpending : recv.readResolvers = [⟨id, size⟩])
      (htaken : returned = recv.taken) : Awaits returned id recv
  | served (bytes : Bytes) (hserved : recv.Served returned id bytes) : Awaits returned id recv
  | told (result : Option Bytes) (hnext : recv.nextRead = id + 1)
      (hresult : recv.settled.lookup id = some result)
      (howes : recv.Owes returned (result.getD []))
      (hend : result = none → recv.closed = true) : Awaits returned id recv

/-- What has been told nothing has no result on record. -/
theorem Untold.lookup (huntold : recv.Untold id) : recv.settled.lookup id = none := by
  have hnot := mt (huntold.told id).mp (Nat.lt_irrefl id)
  rwa [Bool.not_eq_true, Option.isSome_eq_false_iff, Option.isNone_iff_eq_none] at hnot

/-- The read under way, if any, has been told something. -/
theorem Owes.not_untold (howes : recv.Owes returned owed) : ¬ recv.Untold id := by
  intro huntold
  have hsome := (howes.told id).mpr (huntold.next ▸ Nat.lt_succ_self id)
  rw [huntold.lookup] at hsome
  cases hsome

/-- The read that waits is the latest one. -/
theorem Awaits.next (hawaits : recv.Awaits returned id) : recv.nextRead = id + 1 := by
  cases hawaits with
  | waits size huntold hpending htaken => exact huntold.next
  | served bytes hserved => exact hserved.next
  | told result hnext => exact hnext

/-- The number of the read is known from the buffer. -/
theorem Awaits.unique {other : Nat} (hawaits : recv.Awaits returned id)
    (hother : recv.Awaits returned other) : id = other :=
  Nat.succ.inj (hawaits.next.symm.trans hother.next)

/-- A result that is recorded is found under its number. -/
theorem isSome_lookup_append (settled : List (Nat × Option Bytes)) (entry : Nat × Option Bytes)
    (other : Nat) : ((settled ++ [entry]).lookup other).isSome = true ↔
      (settled.lookup other).isSome = true ∨ other = entry.1 := by
  rw [List.lookup_append, Option.isSome_or, Bool.or_eq_true]
  by_cases hsame : other = entry.1
  · simp [hsame]
  · simp [hsame]

/-- A read that is told of what was taken for it, or of the end. -/
theorem Untold.tell (huntold : recv.Untold id) {next : BlockingBuffer} (result : Option Bytes)
    (hsettled : next.settled = recv.settled ++ [(id, result)])
    (hnext : next.nextRead = recv.nextRead)
    (hpending : next.readResolvers = []) (htaken : returned ++ result.getD [] = next.taken)
    (hend : result = none → next.closed = true) : next.Awaits returned id := by
  have hlookup : next.settled.lookup id = some result := by
    rw [hsettled, List.lookup_append, huntold.lookup]
    simp
  refine .told result (hnext.trans huntold.next) hlookup ⟨hpending, fun other => ?_, htaken⟩ hend
  rw [hsettled, isSome_lookup_append, huntold.told, hnext, huntold.next]
  dsimp only
  omega

/-! ## What others may do -/

/-- Beside a read: what is owed to it stays so. -/
structure Lets (returned : Bytes) (recv next : BlockingBuffer) : Prop where
  owes : ∀ owed, recv.Owes returned owed → next.Owes returned owed
  awaits : ∀ id, recv.Awaits returned id → next.Awaits returned id
  closed : recv.closed = true → next.closed = true

theorem Lets.refl (returned : Bytes) (recv : BlockingBuffer) : Lets returned recv recv :=
  ⟨fun _ h => h, fun _ h => h, fun h => h⟩

/-- Data that is appended is owed to nobody yet. -/
theorem lets_append (returned data : Bytes) : Lets returned recv (recv.append data) where
  owes := fun _ howes => ⟨howes.pending, howes.told, howes.taken⟩
  awaits := by
    intro id hawaits
    cases hawaits with
    | waits size huntold hpending htaken =>
        exact .waits size ⟨huntold.next, huntold.told⟩ hpending htaken
    | served bytes hserved =>
        exact .served bytes ⟨⟨hserved.next, hserved.told⟩, hserved.pending, hserved.taken⟩
    | told result hnext hresult howes hend =>
        exact .told result hnext hresult ⟨howes.pending, howes.told, howes.taken⟩ hend
  closed := fun h => h

/-- A drain without reads that wait. -/
theorem drain_of_nobody (hpending : recv.readResolvers = []) :
    recv.drain.readResolvers = [] ∧ recv.drain.settled = recv.settled ∧
      recv.drain.nextRead = recv.nextRead ∧ recv.drain.taken = recv.taken := by
  unfold BlockingBuffer.drain
  split
  next => exact ⟨hpending, rfl, rfl, rfl⟩
  next =>
    split
    next => exact ⟨rfl, by simp [settleAll, hpending], rfl, rfl⟩
    next => exact ⟨hpending, rfl, rfl, rfl⟩

/-- What is owed stays so when the buffer is drained. -/
theorem Owes.drain (howes : recv.Owes returned owed) : recv.drain.Owes returned owed := by
  obtain ⟨hpending, hsettled, hnext, htaken⟩ := drain_of_nobody howes.pending
  exact ⟨hpending, by rw [hsettled, hnext]; exact howes.told, by rw [htaken]; exact howes.taken⟩

/-- What was taken stays so when the buffer is drained. -/
theorem Served.drain {bytes : Bytes} (hserved : recv.Served returned id bytes) :
    recv.drain.Served returned id bytes := by
  obtain ⟨hpending, hsettled, hnext, htaken⟩ := drain_of_nobody hserved.pending
  refine ⟨⟨?_, ?_⟩, hpending, ?_⟩
  · rw [hnext, hserved.next]
  · rw [hsettled]
    exact hserved.told
  · rw [htaken, hserved.taken]

/-- A buffer that is drained tells a pending read of the end, if it is empty. -/
theorem lets_drain (returned : Bytes) (recv : BlockingBuffer) : Lets returned recv recv.drain where
  owes := fun _ => Owes.drain
  awaits := by
    intro id hawaits
    cases hawaits with
    | waits size huntold hpending htaken =>
        unfold BlockingBuffer.drain
        split
        next => exact .waits size huntold hpending htaken
        next =>
          split
          next =>
            apply huntold.tell none
            · simp [settleAll, hpending]
            · rfl
            · rfl
            · simpa [settleAll] using htaken
            · exact fun _ => rfl
          next => exact .waits size ⟨huntold.next, huntold.told⟩ hpending htaken
    | served bytes hserved => exact .served bytes hserved.drain
    | told result hnext hresult howes hend =>
        obtain ⟨-, hsettled, hsame, -⟩ := drain_of_nobody howes.pending
        exact .told result (hsame.trans hnext) (by rw [hsettled, hresult]) howes.drain
          fun hnone => drain_closes (hend hnone)
  closed := drain_closes

/-- The first turn at which a write serves the read that waits. -/
theorem Awaits.serve (hawaits : recv.Awaits returned id) {read : PendingRead}
    {rest : List PendingRead} (hreads : recv.readResolvers = read :: rest) :
    read.id = id ∧ (recv.popReader.take read.size).Served returned id
      (recv.buffer.take read.size) := by
  cases hawaits with
  | waits size huntold hpending htaken =>
      rw [hpending] at hreads
      cases hreads
      refine ⟨rfl, ⟨huntold.next, huntold.told⟩, ?_, ?_⟩
      · simp [popReader, take, hpending]
      · rw [htaken]
        rfl
  | served bytes hserved =>
      exact absurd (hserved.pending.symm.trans hreads) (List.cons_ne_nil _ _).symm
  | told result hnext hresult howes hend =>
      exact absurd (howes.pending.symm.trans hreads) (List.cons_ne_nil _ _).symm

/-- A pending read is served with what it takes. -/
theorem lets_serve {read : PendingRead} {rest : List PendingRead} (returned : Bytes)
    (hreads : recv.readResolvers = read :: rest) :
    Lets returned recv (recv.popReader.take read.size) where
  owes := fun _ howes => absurd (howes.pending.symm.trans hreads) (List.cons_ne_nil _ _).symm
  awaits := fun _ hawaits => .served _ (hawaits.serve hreads).2
  closed := fun h => h

/-- The turn at which it is told. -/
theorem lets_settle {bytes : Bytes} (hserved : recv.Served returned id bytes) :
    Lets returned recv (recv.settle id (some bytes)) where
  owes := fun _ howes => absurd hserved.toUntold howes.not_untold
  awaits := by
    intro other hawaits
    obtain rfl := hawaits.unique (.served bytes hserved)
    exact hserved.toUntold.tell (some bytes) rfl rfl hserved.pending hserved.taken nofun
  closed := fun h => h

end BlockingBuffer

namespace World

variable {world next : World}

/-- What the reads have returned. -/
def returned (world : World) : Bytes := world.conn.reads.flatMap fun result => result.getD []

/-- No read is under way: all that was taken has been returned. -/
abbrev BetweenReads (world : World) : Prop := world.conn.recvBuffer.Owes world.returned []

/-- At most one read is under way, and only a closed buffer has reported the end. -/
structure Reading (world : World) : Prop where
  phase : (∃ owed, world.conn.recvBuffer.Owes world.returned owed) ∨
    ∃ id, world.conn.recvBuffer.Awaits world.returned id
  ended : none ∈ world.conn.reads →
    world.conn.recvBuffer.closed = true ∧ world.BetweenReads

/-- Beside a read. -/
structure LetsRead (world next : World) : Prop where
  reads : next.conn.reads = world.conn.reads
  lets : world.conn.recvBuffer.Lets world.returned next.conn.recvBuffer

/-- Beside a handler: what it is about to hand over stays so. -/
def LeavesServed (world next : World) : Prop := ∀ id bytes,
  world.conn.recvBuffer.Served world.returned id bytes →
    next.conn.recvBuffer.Served next.returned id bytes

/-- What reads have returned does not change beside a read. -/
theorem LetsRead.returned (hlets : world.LetsRead next) : next.returned = world.returned := by
  rw [World.returned, hlets.reads, World.returned]

theorem LetsRead.refl (world : World) : world.LetsRead world := ⟨rfl, .refl _ _⟩

theorem LetsRead.trans {later : World} (hfirst : world.LetsRead later)
    (hsecond : later.LetsRead next) : world.LetsRead next := by
  have hlets := hsecond.lets
  rw [hfirst.returned] at hlets
  exact ⟨hsecond.reads.trans hfirst.reads, fun owed h => hlets.owes owed (hfirst.lets.owes owed h),
    fun id h => hlets.awaits id (hfirst.lets.awaits id h),
    fun h => hlets.closed (hfirst.lets.closed h)⟩

/-- What is owed to a read stays so. -/
theorem LetsRead.owes (hlets : world.LetsRead next) {owed : Bytes}
    (howes : world.conn.recvBuffer.Owes world.returned owed) :
    next.conn.recvBuffer.Owes next.returned owed :=
  hlets.returned ▸ hlets.lets.owes owed howes

/-- A read that waits goes on waiting or is told. -/
theorem LetsRead.awaits (hlets : world.LetsRead next) {id : Nat}
    (hawaits : world.conn.recvBuffer.Awaits world.returned id) :
    next.conn.recvBuffer.Awaits next.returned id :=
  hlets.returned ▸ hlets.lets.awaits id hawaits

theorem Reading.lets (hreading : world.Reading) (hlets : world.LetsRead next) : next.Reading where
  phase := hreading.phase.imp (fun ⟨owed, howes⟩ => ⟨owed, hlets.owes howes⟩)
    fun ⟨id, hawaits⟩ => ⟨id, hlets.awaits hawaits⟩
  ended := by
    intro hread
    rw [hlets.reads] at hread
    exact ⟨hlets.lets.closed (hreading.ended hread).1, hlets.owes (hreading.ended hread).2⟩

/-- A change of the buffer alone. -/
theorem letsRead_onBuffer {buffer : BlockingBuffer}
    (hlets : world.conn.recvBuffer.Lets world.returned buffer) :
    world.LetsRead (world.onConn fun conn => { conn with recvBuffer := buffer }) := ⟨rfl, hlets⟩

/-- The bytes taken are those returned and those under way. -/
theorem Reading.prefix_taken (hreading : world.Reading) :
    world.returned <+: world.conn.recvBuffer.taken := by
  rcases hreading.phase with ⟨owed, howes⟩ | ⟨id, hawaits⟩
  · exact ⟨owed, howes.taken⟩
  · cases hawaits with
    | waits size huntold hpending htaken => exact htaken ▸ List.prefix_rfl
    | served bytes hserved => exact ⟨bytes, hserved.taken⟩
    | told result hnext hresult howes hend => exact ⟨_, howes.taken⟩

/-! ## Tasks that neither read nor write to the buffer -/

/-- The buffer stays as it is or is drained, and no result is put on record. -/
structure Apart (world next : World) : Prop where
  reads : next.conn.reads = world.conn.reads
  buffer : next.conn.recvBuffer = world.conn.recvBuffer ∨
    next.conn.recvBuffer = world.conn.recvBuffer.drain

/-- Who keeps apart from the buffer is beside a read. -/
theorem Apart.lets (hapart : world.Apart next) : world.LetsRead next := by
  refine ⟨hapart.reads, ?_⟩
  rcases hapart.buffer with hsame | hdrained
  · rw [hsame]
    exact .refl _ _
  · rw [hdrained]
    exact BlockingBuffer.lets_drain _ _

/-- Who keeps apart from the buffer is beside a handler. -/
theorem Apart.leaves (hapart : world.Apart next) : world.LeavesServed next := by
  intro id bytes hserved
  rw [World.returned, hapart.reads]
  rcases hapart.buffer with hsame | hdrained
  · rw [hsame]
    exact hserved
  · rw [hdrained]
    exact hserved.drain

/-- Code that neither reads nor writes to the buffer. -/
abbrev Abstains {α : Type} (task : ConnM α) : Prop := task.MovesAlways Apart

/-- A write to other parts of the connection keeps apart. -/
theorem abstains_modify {change : World → World} (hreads : ∀ world : World,
    (change world).conn.reads = world.conn.reads) (hbuffer : ∀ world : World,
      (change world).conn.recvBuffer = world.conn.recvBuffer) : Abstains (Async.modify change) :=
  .modify fun world => ⟨hreads world, .inl (hbuffer world)⟩

/-- Handing a packet to the socket keeps apart. -/
theorem udpSend_abstains (calledIn : Option UtpConnState) (packet : UtpPacket)
    (remoteAddr : UtpAddr) : Abstains (UtpSocket.sendUtpPacket calledIn packet remoteAddr) := by
  refine .reads fun world => .ite .pure (.bind (abstains_modify (fun _ => rfl) fun _ => rfl)
    fun _ => .bind .waitUntil fun _ => ?_)
  split
  next => exact .throw
  next => exact .ite .pure .throw

/-- Waiting for room in the window keeps apart. -/
theorem waitForAck_abstains (packet : UtpPacket) (remoteAddr : UtpAddr) :
    Abstains (UtpSendWindow.waitForAck packet remoteAddr) := by
  refine .reads fun world => (Async.MovesAlways.any.zoom (fun _ _ => rfl) ?_).awaited
  exact fun _ _ _ => ⟨rfl, .inl rfl⟩

/-- Sending again what is due keeps apart. -/
theorem resendLoop_abstains (now : Nat) (seqNrs : List Nat) :
    Abstains (UtpSendWindow.resendLoop now seqNrs) := by
  induction seqNrs with
  | nil => exact .pure
  | cons seqNr rest ih =>
      refine .reads fun world => .bind (abstains_modify (fun _ => rfl) fun _ => rfl) fun _ => ?_
      split
      next => exact ih
      next => exact (udpSend_abstains _ _ _).awaited.discard.bind fun _ => ih

theorem resend_abstains : Abstains UtpSendWindow.timeoutCheck :=
  .awaited (.reads fun _ => resendLoop_abstains _ _)

/-- `sendUtpPacket` keeps apart. -/
theorem sendUtpPacket_abstains (packet : UtpPacket) : Abstains (UtpConn.sendUtpPacket packet) := by
  refine .bind (abstains_modify (fun _ => rfl) fun _ => rfl) fun _ => .reads fun world =>
    .ite .throw ?_
  have hsend := (udpSend_abstains (some world.conn.localState) packet world.conn.remoteAddr).awaited
  exact .ite ((waitForAck_abstains _ _).awaited.bind fun _ => hsend) hsend

/-- `writeLoop` keeps apart. -/
theorem writeLoop_abstains (data : Bytes) (rounds offset : Nat) :
    Abstains (UtpConn.writeLoop data rounds offset) := by
  induction rounds generalizing offset with
  | zero => exact .pure
  | succ rounds ih =>
      exact .ite (.reads fun world => .bind (abstains_modify (fun _ => rfl) fun _ => rfl) fun _ =>
        (sendUtpPacket_abstains _).awaited.bind fun _ => .ite (ih _) .throw) .pure

theorem setConnecting_abstains (promise : ConnectPromise) :
    Abstains (Async.modify fun world : World => world.setConnecting promise) :=
  abstains_modify (fun _ => rfl) fun _ => rfl

theorem sendHandshake_abstains (packet : UtpPacket) : Abstains (UtpConn.sendHandshake packet) :=
  .attempt ((sendUtpPacket_abstains packet).awaited.discard.bind fun _ => setConnecting_abstains _)
    fun _ => setConnecting_abstains _

theorem waitForConnecting_abstains : Abstains UtpConn.waitForConnecting :=
  .reads fun _ => .ite (setConnecting_abstains _) (.ite (.bind (abstains_modify (fun _ => rfl)
    fun _ => rfl) fun _ => sendHandshake_abstains _) (sendHandshake_abstains _))

/-- A FIN is built and sent. -/
theorem takeFin_abstains {α : Type} {next : Unit → ConnM α}
    (hnext : ∀ value, Abstains (next value)) :
    Abstains ((Async.modify takeFin).bind next) :=
  .bind (abstains_modify (fun _ => rfl) fun _ => rfl) hnext

/-- Closing by force drains the buffer. -/
theorem forceClose_abstains : Abstains (Async.modify forceClose) := .modify fun _ => ⟨rfl, .inr rfl⟩

theorem finishClose_abstains : Abstains (Async.modify finishClose) :=
  abstains_modify (fun _ => rfl) fun _ => rfl

/-- `trySafeRelease` drains the buffer if it closes. -/
theorem trySafeRelease_abstains : Abstains UtpConn.trySafeRelease :=
  .reads fun _ => .ite .throw (.ite forceClose_abstains (.ite forceClose_abstains (.ite .pure (.ite
    (takeFin_abstains fun _ => (sendUtpPacket_abstains _).awaited.discard)
    (abstains_modify (fun _ => rfl) fun _ => rfl)))))

/-- `close` waits for its interval and keeps apart. -/
theorem close_abstains : Abstains UtpConn.close := by
  have hpolling : Abstains (Async.modify startPolling) :=
    abstains_modify (fun _ => rfl) fun _ => rfl
  refine .reads fun _ => .ite .pure (.ite .pure (.ite .pure (.bind (abstains_modify
    (fun _ => rfl) fun _ => rfl) fun _ => .reads fun _ => .ite hpolling ?_)))
  exact takeFin_abstains fun _ => (sendUtpPacket_abstains _).awaited.discard.bind fun _ => hpolling

/-- The interval of `close` may close by force. -/
theorem closePoll_abstains : Abstains UtpConn.closePoll := by
  have hforce : Abstains ((Async.modify forceClose).bind fun _ => Async.modify finishClose) :=
    forceClose_abstains.bind fun _ => finishClose_abstains
  refine .attempt (.reads fun _ => .ite finishClose_abstains (.ite hforce ?_)) fun _ => hforce
  exact trySafeRelease_abstains.awaited.bind fun _ => .reads fun _ =>
    .ite finishClose_abstains .pure

/-- The timer may close by force. -/
theorem timeoutCheck_abstains : Abstains UtpConn.timeoutCheck := by
  have hresend : Abstains UtpSendWindow.timeoutCheck.awaited := resend_abstains.awaited
  have hopen : ∀ world : World, Abstains (if UtpConn.KEEP_ALIVE_INTERVAL <
      world.utp.performanceNow - world.conn.lastLiveTime then
        (Async.discard (Async.awaited (UtpConn.sendUtpPacket world.ackPacket))).bind fun _ =>
          (Async.modify fun now => now.setLastLiveTime world.utp.performanceNow).bind fun _ =>
            Async.awaited UtpSendWindow.timeoutCheck
      else Async.awaited UtpSendWindow.timeoutCheck) := fun _ =>
    .ite ((sendUtpPacket_abstains _).awaited.discard.bind fun _ =>
      .bind (abstains_modify (fun _ => rfl) fun _ => rfl) fun _ => hresend) hresend
  refine .read fun world => ?_
  split
  next => exact Async.MovesAlways.ite forceClose_abstains .pure world
  next => exact hopen world world
  next => exact hopen world world
  next => exact (hresend.bind fun _ => trySafeRelease_abstains.awaited) world
  next => trivial
  next => trivial

/-- Only the handler and reads touch the buffer's data. -/
theorem spawns_abstains {admits : World → UtpPacket → Prop} {label : Label} {task : ConnM Unit}
    (hspawns : Spawns admits world label task) (hreceive : label ≠ .receive)
    (hread : label ≠ .read) : Abstains task := by
  cases hspawns with
  | receive => exact absurd rfl hreceive
  | read => exact absurd rfl hread
  | write data => exact .discard ((writeLoop_abstains _ _ _).bind fun _ => .ite .pure .throw)
  | close => exact close_abstains
  | closePoll => exact closePoll_abstains
  | reset =>
      exact .bind (abstains_modify (fun _ => rfl) fun _ => rfl) fun _ => .reads fun _ =>
        (sendUtpPacket_abstains _).detached
  | timeoutCheck => exact timeoutCheck_abstains
  | connectTimeout => exact setConnecting_abstains _

/-! ## The handler of a packet -/

/-- What the handler may count on at its awaits. -/
def AmongReads (world next : World) : Prop :=
  (world.Reading → next.Reading) ∧ world.LeavesServed next

/-- What the handler does to a read. -/
abbrev Serves {α : Type} (task : ConnM α) : Prop := task.MovesFrom AmongReads LetsRead Reading

/-- At the awaits of the handler, what it counts on is kept by the others. -/
theorem serves_stable : Async.Stable AmongReads LetsRead Reading :=
  ⟨fun _ _ hreading hamong => hamong.1 hreading, fun _ _ => Reading.lets⟩

/-- Code that keeps apart does nothing to a read. -/
theorem Abstains.serves {α : Type} {task : ConnM α} (htask : task.MovesAlways Apart) :
    Serves task := .of_always (htask.mono fun _ _ => Apart.lets)

/-- The loop of `write` serves a read that waits, and tells it of its bytes when it goes on. -/
theorem resolveReaders_serves (laps : Nat) :
    Serves (onRecvBuffer (BlockingBuffer.resolveReaders laps)) := by
  induction laps with
  | zero => exact .pure
  | succ laps ih =>
      intro world hreading
      unfold BlockingBuffer.resolveReaders
      dsimp only [onRecvBuffer, Async.get, Async.bind_eq, Async.bind, Async.zoom, Async.Moves]
      cases hreads : world.conn.recvBuffer.readResolvers with
      | nil => trivial
      | cons read rest =>
          dsimp only
          split
          next => trivial
          next =>
            have hserve := letsRead_onBuffer (BlockingBuffer.lets_serve world.returned hreads)
            refine ⟨hserve, fun later hamong _ => ?_⟩
            -- Whoever was served has still to be told.
            have hserved : later.conn.recvBuffer.Served later.returned read.id
                (world.conn.recvBuffer.buffer.take read.size) := by
              apply hamong.2
              rcases hreading.phase with ⟨owed, howes⟩ | ⟨id, hawaits⟩
              · exact absurd (howes.pending.symm.trans hreads) (List.cons_ne_nil _ _).symm
              · obtain ⟨rfl, hserved⟩ := hawaits.serve hreads
                exact hserved
            have htell := letsRead_onBuffer (BlockingBuffer.lets_settle hserved)
            exact ⟨htell, ih _ ((hamong.1 (hreading.lets hserve)).lets htell)⟩

/-- Data is appended, and pending reads are told. -/
theorem writeRecvBuffer_serves (data : Bytes) : Serves (UtpConn.writeRecvBuffer data) := by
  have hwrite : Serves (onRecvBuffer (BlockingBuffer.write data)) := by
    intro world hreading
    have happend := letsRead_onBuffer (BlockingBuffer.lets_append world.returned data)
    refine ⟨happend, fun later hamong _ => ?_⟩
    have hloop : Serves (onRecvBuffer ((BlockingBuffer.resolveReaders
        later.conn.recvBuffer.readResolvers.length).bind fun _ => Async.pure data.length)) := by
      rw [onRecvBuffer, Async.zoom_bind]
      exact .bind serves_stable (resolveReaders_serves _) fun _ => .pure
    exact hloop later (hamong.1 (hreading.lets happend))
  exact .discard serves_stable hwrite.awaited

theorem modify_serves {change : World → World} (hreads : ∀ world : World,
    (change world).conn.reads = world.conn.reads) (hbuffer : ∀ world : World,
      (change world).conn.recvBuffer = world.conn.recvBuffer) : Serves (Async.modify change) :=
  Abstains.serves (abstains_modify hreads hbuffer)

/-- A pass writes one payload after the other. -/
theorem processKeys_serves (keys : List Nat) : Serves (UtpConn.processKeys keys) := by
  induction keys with
  | nil => exact .pure
  | cons seq rest ih =>
      refine .reads fun world => .ite ih (.bind serves_stable (modify_serves (fun _ => rfl)
        fun _ => rfl) fun _ => ?_)
      split
      next => exact ih
      next packet _ =>
        refine .bind serves_stable ?_ fun _ => ih
        unfold UtpConn.deliver
        split
        next => exact .pure
        next data _ =>
          exact .ite (.attempt serves_stable (writeRecvBuffer_serves data) fun _ => .pure) .pure

theorem sendAck_abstains : Abstains UtpConn.sendAck :=
  .reads fun _ => .ite .pure (.attempt (sendUtpPacket_abstains _).awaited.discard fun _ => .pure)

/-- The handler of a FIN drains the buffer. -/
theorem handleFin_abstains (packet : UtpPacket) : Abstains (UtpConn.handleFin packet) := by
  have hdrain : Abstains (Async.modify drain) := .modify fun _ => ⟨rfl, .inr rfl⟩
  have hreply : Abstains UtpConn.replyFin := .reads fun _ => .ite (.attempt
    (takeFin_abstains fun _ => (sendUtpPacket_abstains _).awaited.discard) fun _ => .pure) .pure
  exact .bind (abstains_modify (fun _ => rfl) fun _ => rfl) fun _ => hreply.bind fun _ =>
    hdrain.bind fun _ => trySafeRelease_abstains.awaited

/-- In `CS_CONNECTED` a packet may bring data for a read. -/
theorem handleAtConnected_serves (packet : UtpPacket) :
    Serves (UtpConn.handleAtConnected packet) := by
  have hpass : Serves UtpConn.processReceivedPackets.awaited :=
    .awaited (.reads fun _ => processKeys_serves _)
  have hanswer : Serves (Async.bind UtpConn.sendAck fun _ => Async.pure true) :=
    .bind serves_stable (Abstains.serves sendAck_abstains) fun _ => .pure
  have hinsert : Serves (UtpConn.insertPacket packet) :=
    .bind serves_stable (modify_serves (fun _ => rfl) fun _ => rfl) fun _ =>
      .bind serves_stable hpass fun _ => .ite (.bind serves_stable
        (Abstains.serves (handleFin_abstains packet)) fun _ => hanswer) hanswer
  exact .reads fun _ => .ite .pure (.ite .pure (.ite .pure
    (.ite (.bind serves_stable hpass fun _ => hinsert) hinsert)))

/-- The first data packet may bring data for a read. -/
theorem handleAtSynReceived_serves (packet : UtpPacket) :
    Serves (UtpConn.handleAtSynReceived packet) := by
  have hanswer : Serves ((Async.get : ConnM World).bind fun world =>
      (Async.discard (Async.awaited (UtpConn.sendUtpPacket world.ackPacket))).bind fun _ =>
        Async.pure true) :=
    .reads fun _ => Abstains.serves ((sendUtpPacket_abstains _).awaited.discard.bind fun _ => .pure)
  refine .reads fun _ => .ite .pure (.ite .pure (.bind serves_stable (modify_serves (fun _ => rfl)
    fun _ => rfl) fun _ => ?_))
  split
  next => exact hanswer
  next data _ => exact .bind serves_stable (writeRecvBuffer_serves data) fun _ => hanswer

/-- The handler of a packet serves the read that waits. -/
theorem handling_serves (packet : UtpPacket) :
    Serves (Async.discard (UtpConn.handleIncomingPacket packet)) := by
  have hack : Serves (UtpConn.awaitHandleAck packet) :=
    .awaited (modify_serves (fun _ => rfl) fun _ => rfl)
  have hstates : ∀ state, Serves (UtpConn.handleInState packet state) := by
    intro state
    cases state with
    | CS_SYN_SENT =>
        exact .awaited (.ite .pure (.bind serves_stable (modify_serves (fun _ => rfl)
          fun _ => rfl) fun _ => .pure))
    | CS_SYN_RECV => exact (handleAtSynReceived_serves packet).awaited
    | CS_CONNECTED => exact (handleAtConnected_serves packet).awaited
    | CS_CLOSE_WAIT => exact .ite (.bind serves_stable hack fun _ => .pure) .pure
    | CS_CLOSED => exact .pure
    | CS_RESET => exact .pure
  have hrest : Serves ((Async.get : ConnM World).bind fun world =>
      (UtpConn.handleInState packet world.conn.localState).bind fun handled =>
        if handled = true then (Async.modify World.noteHandled).bind fun _ => Async.pure handled
        else Async.pure handled) :=
    .reads fun world => .bind serves_stable (hstates _) fun _ =>
      .ite (.bind serves_stable (modify_serves (fun _ => rfl) fun _ => rfl) fun _ => .pure) .pure
  refine .discard serves_stable ?_
  simp only [UtpConn.handleIncomingPacket, Async.bind_eq]
  split
  next => exact .bind serves_stable hack fun _ => hrest
  next => exact hrest

/-! ## A read -/

/-- Besides the tasks of `connSystem`: a read starts once the one before has returned. -/
def oneReader (labels : Label → Prop) (admits : World → UtpPacket → Prop) :
    TaskSystem World Label :=
  { connSystem labels admits with exclusive := fun label => label = .receive ∨ label = .read }

/-- A reader is promised what is owed to it, a handler that it may tell those it has served, and
between two reads everything taken has been returned. -/
def inTurn : Outline World Label where
  inv := Reading
  rely label world next :=
    (label = .read → world.LetsRead next) ∧ (label = .receive → world.AmongReads next)
  guar label world next :=
    (label ≠ .read → world.LetsRead next) ∧ (label ≠ .receive → world.LeavesServed next)
  rest label world := label = .read → world.BetweenReads

/-- The read under way has its result. -/
structure HasResult (result : Option Bytes) (world : World) : Prop where
  owes : world.conn.recvBuffer.Owes world.returned (result.getD [])
  ended : result = none → world.conn.recvBuffer.closed = true

/-- A result stays until the read returns it. -/
theorem HasResult.lets {result : Option Bytes} (hdue : world.HasResult result)
    (hlets : world.LetsRead next) :
    next.HasResult result :=
  ⟨hlets.owes hdue.owes, fun hnone => hlets.lets.closed (hdue.ended hnone)⟩

/-- Recording a result appends what the read returns. -/
theorem returned_logRead (world : World) (result : Option Bytes) :
    (world.logRead result).returned = world.returned ++ result.getD [] := by
  simp [returned, logRead, World.onConn]

/-- The read returns. -/
theorem HasResult.log {result : Option Bytes} (hdue : world.HasResult result)
    (hreading : world.Reading) :
    (world.logRead result).Reading ∧ (world.logRead result).BetweenReads := by
  have howes : (world.logRead result).BetweenReads := by
    refine ⟨hdue.owes.pending, hdue.owes.told, ?_⟩
    rw [returned_logRead, List.append_nil]
    exact hdue.owes.taken
  refine ⟨⟨.inl ⟨[], howes⟩, fun hread => ⟨?_, howes⟩⟩, howes⟩
  rcases List.mem_append.mp hread with hold | hnew
  · exact (hreading.ended hold).1
  · exact hdue.ended (List.mem_singleton.mp hnew).symm

/-- With a read that was told, no handler is about to tell it. -/
theorem leavesServed_of_owes {owed : Bytes}
    (howes : world.conn.recvBuffer.Owes world.returned owed) : world.LeavesServed next :=
  fun _ _ hserved => absurd hserved.toUntold howes.not_untold

/-- What the others do beside the read. -/
theorem lets_of_rely (hrely : inTurn.rely .read world next) : world.LetsRead next := hrely.1 rfl

/-- A turn of a read that leaves the handler's reads alone keeps its promise. -/
theorem guar_read (hleaves : world.LeavesServed next) : inTurn.guar .read world next :=
  ⟨fun hother => absurd rfl hother, fun _ => hleaves⟩

/-- How the call of the buffer's `read` comes back. -/
def comesBack (result : Except String (Option Bytes)) (world : World) : Prop :=
  match result with
  | .ok result => world.HasResult result
  | .error _ => world.BetweenReads

/-- The buffer's `read`, called when no other read is under way, comes back with what was taken
for it. -/
theorem bufferRead_meets (size : Nat) (hreading : world.Reading)
    (howes : world.BetweenReads) :
    (onRecvBuffer (BlockingBuffer.read size)).Meets (inTurn.contract .read)
      (fun result start state => state.Reading ∧ start.LeavesServed state ∧ comesBack result state)
      world world := by
  change Async.Meets _ _ (Async.zoom _ _ (if world.conn.recvBuffer.closed = true then _ else
    if 0 < world.conn.recvBuffer.length then _ else
      if world.conn.recvBuffer.closedForWriting = true then _ else _)) world world
  have hkeeps : ∀ next : World, world.LeavesServed next := fun _ => leavesServed_of_owes howes
  have hopen : world.conn.recvBuffer.closed ≠ true → none ∉ world.conn.reads :=
    fun hnot hread => hnot (hreading.ended hread).1
  split
  next hclosed =>
    have hend : world.HasResult none := ⟨howes, fun _ => hclosed⟩
    split
    next => exact ⟨hreading, hkeeps _, howes⟩
    next =>
      split
      next => exact ⟨hreading, hkeeps _, howes⟩
      next => exact ⟨hreading, hkeeps _, hend⟩
  next hnot =>
    split
    next =>
      -- The bytes are taken at once, and returned at the next turn.
      let now := world.onConn fun conn => { conn with recvBuffer := conn.recvBuffer.take size }
      have hdue : now.HasResult (some (world.conn.recvBuffer.buffer.take size)) := by
        refine ⟨⟨howes.pending, howes.told, ?_⟩, nofun⟩
        exact congrArg (· ++ _) ((List.append_nil _).symm.trans howes.taken)
      have hnow : now.Reading := ⟨.inl ⟨_, hdue.owes⟩, fun hread => absurd hread (hopen hnot)⟩
      refine ⟨hnow, guar_read (hkeeps _), fun later hlater hrely _ => ⟨hlater, fun _ _ h => h, ?_⟩⟩
      exact hdue.lets (lets_of_rely hrely)
    next =>
      split
      next =>
        have hend : (world.onConn fun conn =>
            { conn with recvBuffer := { conn.recvBuffer with closed := true } }).HasResult none :=
          ⟨⟨howes.pending, howes.told, howes.taken⟩, fun _ => rfl⟩
        exact ⟨⟨.inl ⟨_, hend.owes⟩, fun _ => ⟨rfl, hend.owes⟩⟩, hkeeps _, hend⟩
      next =>
        let now := world.onConn fun conn =>
          { conn with recvBuffer := conn.recvBuffer.pushReader size }
        have hwaits : now.conn.recvBuffer.Awaits now.returned world.conn.recvBuffer.nextRead := by
          refine .waits size ⟨rfl, howes.told⟩ ?_ ((List.append_nil _).symm.trans howes.taken)
          change world.conn.recvBuffer.readResolvers ++ _ = _
          rw [howes.pending, List.nil_append]
        have hnow : now.Reading := ⟨.inr ⟨_, hwaits⟩, fun hread => absurd hread (hopen hnot)⟩
        refine ⟨hnow, guar_read (hkeeps _), fun later hlater hrely hready =>
          ⟨hlater, fun _ _ h => h, ?_⟩⟩
        -- The read goes on once it has been told.
        have hsome : (later.conn.recvBuffer.settled.lookup
            world.conn.recvBuffer.nextRead).isSome = true := by
          rw [List.lookup_isSome_iff]
          simpa [List.any_eq_true] using hready
        have hnone : ¬ later.conn.recvBuffer.Untold world.conn.recvBuffer.nextRead := by
          intro huntold
          rw [huntold.lookup] at hsome
          cases hsome
        cases (lets_of_rely hrely).awaits hwaits with
        | waits size huntold => exact absurd huntold hnone
        | served bytes hserved => exact absurd hserved.toUntold hnone
        | told result hnext hresult howes hend =>
            change later.HasResult ((later.conn.recvBuffer.settled.lookup _).getD none)
            rw [hresult]
            exact ⟨howes, hend⟩

/-- Called when no read is under way, `read` keeps its promises and returns what was taken for
it. -/
theorem read_meets (size : Nat) (hreading : world.Reading) (howes : world.BetweenReads) :
    (Async.discard (UtpConn.read size)).Meets (inTurn.contract .read) (inTurn.post .read)
      world world := by
  apply Async.meets_bind.mpr
  apply Async.meets_bind.mpr
  apply Async.meets_awaited.mpr
  apply (bufferRead_meets size hreading howes).mono
  rintro result start state ⟨hreading, hleaves, hback⟩
  refine ⟨hreading, guar_read hleaves, fun later hreading hrely => ?_⟩
  have hlets := lets_of_rely hrely
  cases result with
  | error error => exact ⟨hreading, guar_read fun _ _ h => h, fun _ => hlets.owes hback⟩
  | ok result =>
      obtain ⟨hlogged, hidle⟩ := (HasResult.lets hback hlets).log hreading
      exact ⟨hlogged, guar_read (leavesServed_of_owes (HasResult.lets hback hlets).owes),
        fun _ => hidle⟩

/-! ## Runs -/

/-- Code that keeps apart keeps the promises between a reader and the handler. -/
theorem abstains_meets {label : Label} {task : ConnM Unit} (htask : task.MovesAlways Apart)
    (hread : label ≠ .read) (hreading : world.Reading) :
    task.Meets (inTurn.contract label) (inTurn.post label) world world := by
  have hmoves : task.Moves (fun _ _ => True) Apart (fun _ _ => True) world := htask.moves world
  have hstart : (inTurn.contract label).guar world world := ⟨fun _ => .refl world, fun _ _ _ h => h⟩
  have hmeets := hmoves.meets (inTurn.contract label) (fun _ => True)
    (fun _ _ hstate hapart => hstate.lets hapart.lets)
    (fun _ _ _ hguar hapart => ⟨fun h => (hguar.1 h).trans hapart.lets,
      fun h id bytes hserved => hapart.leaves id bytes (hguar.2 h id bytes hserved)⟩)
    (fun state => ⟨fun _ => .refl state, fun _ _ _ h => h⟩) (fun _ _ _ => trivial)
    ⟨fun _ _ _ _ => trivial, fun _ _ _ _ => trivial⟩ hreading hstart trivial
  exact hmeets.mono fun _ _ _ h => ⟨h.1, h.2.1, fun hlabel => absurd hlabel hread⟩

/-- The handler keeps the promises between a reader and itself. -/
theorem handling_meets (packet : UtpPacket) (hreading : world.Reading) :
    (Async.discard (UtpConn.handleIncomingPacket packet)).Meets (inTurn.contract .receive)
      (inTurn.post .receive) world world := by
  have hstart : (inTurn.contract .receive).guar world world :=
    ⟨fun _ => .refl world, fun h => absurd rfl h⟩
  have hmeets := (handling_serves packet world hreading).meets (inTurn.contract .receive)
    (fun _ => True) (fun _ _ => Reading.lets)
    (fun _ _ _ hguar hlets => ⟨fun h => (hguar.1 h).trans hlets, fun h => absurd rfl h⟩)
    (fun state => ⟨fun _ => .refl state, fun h => absurd rfl h⟩) (fun _ _ hrely => hrely.2 rfl)
    ⟨fun _ _ _ _ => trivial, fun _ _ _ _ => trivial⟩ hreading hstart trivial
  exact hmeets.mono fun _ _ _ h => ⟨h.1, h.2.1, nofun⟩

/-- All tasks keep the promises between a reader and the handler. -/
theorem inTurn_sound (labels : Label → Prop) (admits : World → UtpPacket → Prop) :
    inTurn.Sound (oneReader labels admits) where
  refl := fun _ world => ⟨fun _ => .refl world, fun _ => ⟨id, fun _ _ h => h⟩⟩
  trans := by
    intro label first second third hfirst hsecond
    refine ⟨fun h => (hfirst.1 h).trans (hsecond.1 h), fun h => ⟨?_, fun id bytes hserved => ?_⟩⟩
    · exact (hsecond.2 h).1 ∘ (hfirst.2 h).1
    · exact (hsecond.2 h).2 id bytes ((hfirst.2 h).2 id bytes hserved)
  compatible := by
    intro mover waiter start state hdistinct _ hstate hguar
    refine ⟨?_, ?_⟩
    · rintro rfl
      exact hguar.1 fun hsame => hdistinct hsame (.inr hsame)
    · rintro rfl
      exact ⟨fun _ => hstate, hguar.2 fun hsame => hdistinct hsame (.inl hsame)⟩
  rest := by
    rintro mover label start state hdistinct - - hguar howes rfl
    exact (hguar.1 hdistinct).owes (howes rfl)
  idle := fun _ _ hother hlabel => absurd (.inr hlabel) hother
  env := by
    intro start state hreading henv
    have hlets : start.LetsRead state := by
      refine ⟨by rw [henv.conn], ?_⟩
      rw [henv.conn]
      exact .refl _ _
    refine ⟨hreading.lets hlets, fun _ => ⟨fun _ => hlets, fun _ => ⟨fun h => h.lets hlets, ?_⟩⟩,
      fun _ howes hlabel => hlets.owes (howes hlabel)⟩
    intro id bytes hserved
    rw [World.returned, henv.conn]
    exact hserved
  spawn := by
    intro state label task hreading hrest hspawn
    by_cases hread : label = .read
    · subst hread
      cases hspawn.2 with
      | read size => exact read_meets size hreading (hrest rfl)
    · by_cases hreceive : label = .receive
      · subst hreceive
        cases hspawn.2 with
        | receive packet => exact handling_meets packet hreading
      · exact abstains_meets (spawns_abstains hspawn.2 hreceive hread) hread hreading

/-- The reads have returned a beginning of what was taken, all of it when none is under way or
the end was reported. -/
theorem returned_of_holds {system : TaskSystem World Label} {config : Config World Label}
    (hconfig : inTurn.Holds system config) :
    config.state.returned <+: config.state.conn.recvBuffer.taken ∧
      ((∀ entry ∈ config.tasks, entry.1 ≠ .read) ∨ none ∈ config.state.conn.reads →
        config.state.returned = config.state.conn.recvBuffer.taken) := by
  have hall : config.state.BetweenReads →
      config.state.returned = config.state.conn.recvBuffer.taken :=
    fun howes => (List.append_nil _).symm.trans howes.taken
  refine ⟨Reading.prefix_taken hconfig.inv, ?_⟩
  rintro (hnone | hread)
  · exact hall (hconfig.rest .read hnone rfl)
  · exact hall (hconfig.inv.ended hread).2

/-- With one reader at a time the runs are runs of the connection. -/
theorem oneReader_reachable {labels : Label → Prop} {admits : World → UtpPacket → Prop}
    {start config : Config World Label} (hrun : (oneReader labels admits).Reachable start config) :
    (connSystem labels admits).Reachable start config := by
  apply TaskSystem.Reachable.mono _ _ _ hrun
  · exact fun _ _ _ hspawn => hspawn
  · exact fun _ _ henv => henv
  · exact fun _ hreceive => Or.inl hreceive

section Run

variable {self : Nat} {utp : UtpSocket} {isInitiator : Bool} {remoteAddr : UtpAddr}
  {sendId recvId seqNr ackNr : Nat} {labels : Label → Prop} {admits : World → UtpPacket → Prop}
  {config : Config World Label}

/-- A new connection has no read under way. -/
theorem connectTo_inTurn : inTurn.Holds (oneReader labels admits)
    (connectTo self utp isInitiator remoteAddr sendId recvId seqNr ackNr) := by
  generalize hfirst : create self utp isInitiator remoteAddr sendId recvId seqNr ackNr = first
  have howes : first.BetweenReads := by
    rw [← hfirst]
    exact ⟨rfl, fun other => by simp [create, addConn, UtpConn.create, BlockingBuffer.create], rfl⟩
  have hreading : first.Reading := by
    refine ⟨.inl ⟨[], howes⟩, fun hread => ?_⟩
    rw [← hfirst] at hread
    cases hread
  have hstart : inTurn.Holds (oneReader labels admits) (⟨first, []⟩ : Config World Label) :=
    .start hreading fun _ _ => howes
  rw [connectTo, hfirst]
  apply hstart.launch (inTurn_sound labels admits)
  · exact abstains_meets waitForConnecting_abstains (by decide) hreading
  · rintro (hlabel | hlabel) <;> cases hlabel

/-- In every run, whatever else goes on: a read returns the end of the stream only once the
receive buffer is closed, and the reads take from the front of what was written to the
buffer, of which the rest is still there. Where each read is called after the one before has
returned, they return what they take in that order. -/
theorem reads_truthful (hseqNr : seqNr < 65536)
    (hrun : (connSystem labels admits).Reachable
      (connectTo self utp isInitiator remoteAddr sendId recvId seqNr ackNr) config) :
    (none ∈ config.state.conn.reads → config.state.conn.recvBuffer.closed = true) ∧
      config.state.conn.recvBuffer.taken ++ config.state.conn.recvBuffer.buffer =
        config.state.conn.recvBuffer.appended ∧
      ((oneReader labels admits).Reachable
        (connectTo self utp isInitiator remoteAddr sendId recvId seqNr ackNr) config →
          config.state.returned <+: config.state.conn.recvBuffer.taken ∧
            ((∀ entry ∈ config.tasks, entry.1 ≠ .read) →
              config.state.returned = config.state.conn.recvBuffer.taken)) := by
  obtain ⟨hchain, hconfig⟩ := (connSystem_recording labels admits _).reachable
    (connectTo_recording hseqNr) hrun
  refine ⟨hconfig.inv.2.reads, ?_, fun hturns => ?_⟩
  · have hfirst := (connectTo_acts self utp isInitiator remoteAddr sendId recvId seqNr ackNr
      hseqNr).1
    have hkeeps := buffer_of_chain (begun self utp isInitiator remoteAddr sendId recvId seqNr
      ackNr).conn.recvBuffer.Keeps (fun _ _ htouches => htouches.keeps)
      (hfirst.trans (acts_of_recording hchain)) (.refl _)
    obtain ⟨more, happended, hbytes⟩ := hkeeps
    cases isInitiator <;> exact hbytes.trans happended.symm
  · obtain ⟨hbegins, hall⟩ :=
      returned_of_holds (connectTo_inTurn.reachable (inTurn_sound labels admits) hturns)
    exact ⟨hbegins, fun hnone => hall (.inl hnone)⟩

end Run

/-! ## Concrete runs -/

/-- A packet is handled to its end. -/
def thenReceive (config : Config World Label) (packet : UtpPacket) : Config World Label :=
  (config.launch .receive (Async.discard (UtpConn.handleIncomingPacket packet))).resumes
    (List.replicate 9 0)

def thenRead (config : Config World Label) (size : Nat) : Config World Label :=
  (config.launch .read (Async.discard (UtpConn.read size))).resumes (List.replicate 9 0)

section Steps

variable {labels : Label → Prop} {admits : World → UtpPacket → Prop}
  {start config : Config World Label}

/-- An idle connection handles a packet to its end. -/
theorem thenReceive_reachable (packet : UtpPacket)
    (hrun : (oneReader labels admits).Reachable start config) (hlabel : labels .receive)
    (hadmits : admits config.state packet) (hidle : config.tasks.length = 0) :
    (oneReader labels admits).Reachable start (thenReceive config packet) := by
  refine (hrun.step (.launch ⟨hlabel, .receive packet hadmits⟩ ?_)).resumes _
  rw [List.length_eq_zero_iff.mp hidle]
  rintro - _ ⟨⟩

/-- An idle connection reads. -/
theorem thenRead_reachable (hrun : (oneReader labels admits).Reachable start config)
    (hlabel : labels .read) (hresolved : config.state.conn.connecting = .resolved) (size : Nat)
    (hidle : config.tasks.length = 0) :
    (oneReader labels admits).Reachable start (thenRead config size) := by
  refine (hrun.step (.launch ⟨hlabel, .read size hresolved⟩ ?_)).resumes _
  rw [List.length_eq_zero_iff.mp hidle]
  rintro - _ ⟨⟩

end Steps

/-- A packet with one byte. -/
def bytePacket (seqNr : Nat) (byte : UInt8) : UtpPacket :=
  { type := .ST_DATA, connId := 1, seqNr := seqNr, data := some [byte] }

/-- The handshake of an initiator that reads nothing meanwhile. -/
theorem sample_unread : (oneReader anyLabel anyPacket).Reachable
    (connectTo 0 .sample true (.localhost 9000) 2 1 1 0)
    (established 0 .sample (.localhost 9000) 1 100) := by
  refine TaskSystem.Reachable.resumes (.step (.resumes .refl _) (.launch ?_ ?_)) _
  · exact ⟨trivial, .receive _ trivial⟩
  · rw [List.length_eq_zero_iff.mp sample_synSent]
    rintro - _ ⟨⟩

/-- A packet and a FIN come to an initiator, which reads until the end. -/
def readOut : Config World Label :=
  let received := thenReceive (established 0 .sample (.localhost 9000) 1 100) (bytePacket 100 65)
  thenRead (thenRead (thenReceive received { type := .ST_FIN, connId := 1, seqNr := 101 }) 10) 10

/-- A byte is read, and then the end of the stream. -/
theorem reads_truthful_sample : readOut.state.conn.reads = [some [65], none] ∧
    readOut.state.conn.recvBuffer.closed = true ∧
    readOut.state.conn.recvBuffer.taken ++ readOut.state.conn.recvBuffer.buffer =
      readOut.state.conn.recvBuffer.appended ∧
    readOut.state.returned = readOut.state.conn.recvBuffer.taken := by
  have hreads : readOut.state.conn.reads = [some [65], none] := by decide +kernel
  have hidle : readOut.tasks.length = 0 := by decide +kernel
  have hreceived := thenReceive_reachable (bytePacket 100 65) sample_unread trivial
    trivial (by decide +kernel)
  have hended := thenReceive_reachable { type := .ST_FIN, connId := 1, seqNr := 101 } hreceived
    trivial trivial (by decide +kernel)
  have hread := thenRead_reachable hended trivial (by decide +kernel) 10 (by decide +kernel)
  have hrun : (oneReader anyLabel anyPacket).Reachable
      (connectTo 0 .sample true (.localhost 9000) 2 1 1 0) readOut :=
    thenRead_reachable hread trivial (by decide +kernel) 10 (by decide +kernel)
  obtain ⟨hclosed, htaken, hreturned⟩ := reads_truthful (by decide) (oneReader_reachable hrun)
  refine ⟨hreads, hclosed ?_, htaken, (hreturned hrun).2 ?_⟩
  · rw [hreads]
    exact List.mem_cons_of_mem _ List.mem_cons_self
  · rw [List.length_eq_zero_iff.mp hidle]
    rintro _ ⟨⟩

end World

end Utp
