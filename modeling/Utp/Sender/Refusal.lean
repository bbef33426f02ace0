import Utp.Foundation.Outcome
import Utp.Conn.Terminal

/-! # Writing on a connection that is over

`write` tests the state only when it hands a packet to `sendUtpPacket`, and only for
`CS_CLOSED`. There, or on a closed socket, the packet is refused and the call fails. A call
that has taken up its packet before the connection was over tests nothing more.
-/

namespace Utp

open Async (Config Guard)

namespace World

/-! ## Connected no more -/

/-- The connection was connected, or given up before, and will not be connected again. -/
def Over (world : World) : Prop :=
  world.conn.localState ≠ .CS_SYN_SENT ∧ world.conn.localState ≠ .CS_SYN_RECV ∧
    world.conn.localState ≠ .CS_CONNECTED

/-- A terminal state is behind the established one. -/
theorem Terminal.over {world : World} (hterminal : world.Terminal) : world.Over :=
  ⟨fun h => hterminal.ne h nofun nofun, fun h => hterminal.ne h nofun nofun,
    fun h => hterminal.ne h nofun nofun⟩

theorem Over.of_state {world next : World} (hover : world.Over)
    (hstate : next.conn.localState = world.conn.localState) : next.Over := by
  unfold Over
  rw [hstate]
  exact hover

/-- No write brings an ended connection back. -/
theorem Act.over {receiving closing writing : Bool} {world next : World}
    (hact : Act receiving closing writing world next) (hover : world.Over) : next.Over := by
  cases hact with
  | env henv => exact hover.of_state (by rw [henv.conn])
  | beginClose => exact ⟨nofun, nofun, nofun⟩
  | resetNow => exact ⟨nofun, nofun, nofun⟩
  | release => exact ⟨nofun, nofun, nofun⟩
  | forceClose => exact ⟨nofun, nofun, nofun⟩
  | acceptHandshake _ hstate => exact absurd hstate hover.1
  | acceptFirstData _ hstate => exact absurd hstate hover.2.1
  | acceptFin => exact ⟨nofun, nofun, nofun⟩
  | _ => exact hover

/-- A condition under which the connection is over, and which depends on the state only. -/
structure Ongoing (stays : World → Prop) : Prop where
  ended : ∀ world, stays world → world.Over
  kept : ∀ world next : World, next.conn.localState = world.conn.localState → stays world →
    stays next

/-- Being over is such a condition, -/
theorem ongoing_over : Ongoing Over := ⟨fun _ => id, fun _ _ hsame hover => hover.of_state hsame⟩

/-- and so is being terminal. -/
theorem ongoing_terminal : Ongoing Terminal :=
  ⟨fun _ => Terminal.over, fun _ _ hsame hterminal => hterminal.of_state hsame⟩

/-! ## Refusing to send -/

/-- The connection is closed, or its socket: `sendUtpPacket` refuses what it is given. -/
def Refuses (world : World) : Prop :=
  world.conn.localState = .CS_CLOSED ∨ world.utp.state = .CLOSED

instance (world : World) : Decidable world.Refuses :=
  inferInstanceAs (Decidable (world.conn.localState = .CS_CLOSED ∨ world.utp.state = .CLOSED))

/-- A packet is handed to the UDP socket. -/
def HandsOver (world next : World) : Prop :=
  ∃ calledIn packet remoteAddr, next = world.transmit calledIn packet remoteAddr

/-- A write by which nothing is sent hands nothing over. -/
theorem not_handsOver {world next : World} (hsent : next.utp.sent = world.utp.sent) :
    ¬ world.HandsOver next := by
  rintro ⟨calledIn, packet, remoteAddr, rfl⟩
  simp [World.transmit] at hsent

/-- A `write` takes up its next packet. -/
def TakesUp (world next : World) : Prop := ∃ data, next = world.consumeSeqNr (world.dataPacket data)

/-- The state is kept, and nothing is sent where everything is refused. -/
def Withheld (world next : World) : Prop :=
  next.conn.localState = world.conn.localState ∧ (world.Refuses → ¬ world.HandsOver next)

/-- Such a write withholds what it should. -/
theorem withheld_of_same {world next : World}
    (hstate : next.conn.localState = world.conn.localState)
    (hsent : next.utp.sent = world.utp.sent) : Withheld world next :=
  ⟨hstate, fun _ => not_handsOver hsent⟩

/-- The writes of a task that goes on while a condition holds. -/
abbrev Withholding (stays : World → Prop) {α : Type} (task : ConnM α) : Prop :=
  task.MovesFrom (fun start target => stays start → stays target) Withheld stays

/-- The task only writes where it is refused. -/
abbrev refusing (start _ : World) : Prop := start.Refuses

section Stays

variable {stays : World → Prop}

/-- The condition is stable while the writes withhold. -/
theorem Ongoing.stable (hongoing : Ongoing stays) :
    Async.Stable (fun start target : World => stays start → stays target) Withheld stays :=
  ⟨fun _ _ h hrely => hrely h, fun _ _ h hheld => hongoing.kept _ _ hheld.1 h⟩

/-- Where the connection is over, `sendUtpPacket` tests the state and sends in one turn. -/
theorem sendUtpPacket_withholding (hongoing : Ongoing stays) (packet : UtpPacket) :
    Withholding stays (UtpConn.sendUtpPacket packet) := by
  intro world hstays
  have hover := hongoing.ended world hstays
  refine Async.moves_bind.mpr (Async.moves_modify.mpr ⟨withheld_of_same rfl rfl, ?_⟩)
  refine Async.moves_bind.mpr (Async.moves_get.mpr ?_)
  show Async.Moves _ _ _ (ite _ _ _) world.touch
  split
  next => trivial
  next hopen =>
    rw [if_neg (by simp [UtpConn.isConnected, show world.touch.conn.localState ≠ _ from hover.2.2])]
    refine Async.moves_awaited.mpr (Async.moves_bind.mpr (Async.moves_get.mpr ?_))
    show Async.Moves _ _ _ (ite _ _ _) world.touch
    split
    next => exact fun _ _ => trivial
    next hsocket =>
      have hsends : ¬ world.touch.Refuses := by
        rintro (hclosed | hclosed)
        · exact hopen (by simp [UtpConn.isClosed, hclosed])
        · exact hsocket hclosed
      refine Async.moves_bind.mpr (Async.moves_modify.mpr
        ⟨⟨rfl, fun hrefuses => absurd hrefuses hsends⟩, fun _ _ _ => ?_⟩)
      split
      next => exact fun _ _ => trivial
      next => split <;> exact fun _ _ => trivial

/-- From between two packets on, the loop sends nothing where it is refused. -/
theorem writeLoop_withholding (hongoing : Ongoing stays) (data : Bytes) (rounds offset : Nat) :
    Withholding stays (UtpConn.writeLoop data rounds offset) := by
  induction rounds generalizing offset with
  | zero => exact .pure
  | succ rounds ih =>
      unfold UtpConn.writeLoop
      split
      next =>
        intro world hstays
        refine Async.moves_bind.mpr (Async.moves_get.mpr (Async.moves_bind.mpr
          (Async.moves_modify.mpr ⟨withheld_of_same rfl rfl, ?_⟩)))
        have hsent := sendUtpPacket_withholding hongoing
          (world.dataPacket (UtpConn.chunkAt data offset))
        have hrest : ∀ n, Withholding stays (if n =
            (world.dataPacket (UtpConn.chunkAt data offset)).length then
              UtpConn.writeLoop data rounds (offset + (UtpConn.chunkAt data offset).length)
            else .throw "发送的数据包长度不等于要发送的数据包长度") := by
          intro n
          split
          next => exact ih _
          next => exact fun _ _ => trivial
        exact Async.MovesFrom.bind hongoing.stable hsent.awaited hrest _
          (hongoing.kept world _ rfl hstays)
      next => exact .pure

/-- What a `write` does where the connection is over. -/
theorem write_withholding (hongoing : Ongoing stays) (data : Bytes) :
    Withholding stays (Async.discard (UtpConn.write data)) := by
  refine .discard hongoing.stable
    (.bind hongoing.stable (writeLoop_withholding hongoing data _ _) ?_)
  intro offset
  split
  next => exact .pure
  next => exact fun _ _ => trivial

/-! ## What becomes of a `write` -/

/-- The task writes nothing more, whatever happens. -/
def Idle {α : Type} (task : ConnM α) : Prop := task.MovesAlways fun _ _ => False

/-- A task that writes nothing withholds everything. -/
theorem Idle.withholding {α : Type} {task : ConnM α} (hidle : Idle task) : Withholding stays task :=
  .of_always (Async.MovesAlways.mono (fun _ _ h => h.elim) hidle)

/-- A `write` in progress has nothing left to send, or it can only fail where it is refused. -/
def Fated (stays : World → Prop) {α : Type} (task : ConnM α) : Prop :=
  Idle task ∨ ∀ world, stays world → task.Fails stays refusing world

/-- A `write` in progress that waits between two of its packets, or behind the last one. -/
structure Between (stays : World → Prop) {α : Type} (task : ConnM α) : Prop where
  withholding : Withholding stays task
  fated : Fated stays task

/-- The socket takes packets. -/
def SocketOpen (world : World) : Prop := world.utp.state ≠ .CLOSED

/-- A `write` in progress that has a packet to hand over. -/
def Underway {α : Type} (task : ConnM α) : Prop :=
  ∀ world, world.SocketOpen → ¬ task.Begins TakesUp world

/-- How a `write` goes on after a call it awaits: it comes to nothing more, or it fails. -/
structure Settles (stays : World → Prop) {α β : Type} (next : α → ConnM β) : Prop where
  withholding : ∀ value, Withholding stays (next value)
  fated : (∀ value, Idle (next value)) ∨
    ∀ value world, stays world → (next value).Fails stays refusing world

/-- A call that comes to nothing leaves the caller between two packets. -/
theorem between_bind (hongoing : Ongoing stays) {α β : Type} {task : ConnM α} {next : α → ConnM β}
    (hidle : Idle task) (hnext : Settles stays next) : Between stays (task.bind next) := by
  refine ⟨hidle.withholding.bind hongoing.stable hnext.withholding, ?_⟩
  rcases hnext.fated with hfated | hfated
  · exact .inl (Async.MovesAlways.bind hidle hfated)
  · refine .inr fun world hstays => Async.yields_bind.mpr ?_
    refine (Async.Yields.of_idle (hidle world) hstays).mono fun result later hlater => ?_
    cases result with
    | ok value => exact hfated value later hlater
    | error error => rfl

/-- A refused packet has length zero. -/
theorem sendUtpPacket_refused {here : World → Prop} {allowed : World → World → Prop}
    {packet : UtpPacket} {world : World} (hover : world.Over) (hrefuses : world.Refuses) :
    (UtpConn.sendUtpPacket packet).Yields here allowed (fun result _ =>
      ∀ n, result = .ok n → n = 0) world := by
  refine Async.yields_bind.mpr fun _ => Async.yields_bind.mpr ?_
  show Async.Yields here allowed _ (ite _ _ _) world.touch
  split
  next => exact nofun
  next hopen =>
    rw [if_neg (by simp [UtpConn.isConnected, show world.touch.conn.localState ≠ _ from hover.2.2])]
    refine Async.yields_awaited.mpr (Async.yields_bind.mpr ?_)
    show Async.Yields here allowed _ (ite _ _ _) world.touch
    have hsocket : world.touch.utp.state = .CLOSED := hrefuses.resolve_left fun hclosed =>
      hopen (by simp [UtpConn.isClosed, show world.touch.conn.localState = _ from hclosed])
    rw [if_pos hsocket]
    intro _ _ n hn
    cases hn
    rfl

/-- The rest of a call that writes nothing more, up to its result. -/
theorem idle_finished {α : Type} (result : Except String α) :
    Idle (.await (fun _ => true) (Async.finished result) : ConnM α) := by
  cases result with
  | ok value => exact fun _ _ _ _ => trivial
  | error error => exact fun _ _ _ _ => trivial

/-! ## Where a `write` waits -/

/-- Once a datagram is handed over, `sendUtpPacket` writes nothing more. -/
theorem udpSend_suspends (calledIn : Option UtpConnState) (packet : UtpPacket)
    (remoteAddr : UtpAddr) :
    (UtpSocket.sendUtpPacket calledIn packet remoteAddr).Suspends Idle fun _ => True := by
  refine Async.suspends_bind.mpr fun world => ?_
  show Async.Suspends _ _ (ite _ _ _)
  split
  next => trivial
  next =>
    refine fun _ => ⟨?_, ?_⟩
    · intro _ _ _ _
      dsimp only [Async.bind]
      split
      next => trivial
      next => split <;> trivial
    · dsimp only [Async.bind]
      split
      next => trivial
      next => split <;> trivial

/-- Every connection can find its socket open. -/
theorem exists_socketOpen (world : World) :
    ∃ later : World, later.SocketOpen ∧ later.conn = world.conn :=
  ⟨{ world with utp := { world.utp with state := .ACTIVE } }, nofun, rfl⟩

/-- A writer that waits for room passes once it has been let in. -/
theorem waitForAck_suspends (packet : UtpPacket) (remoteAddr : UtpAddr) :
    (UtpSendWindow.waitForAck packet remoteAddr).Suspends (Async.Passes SocketOpen)
      fun result => result = .ok () := by
  refine fun world => Async.suspends_awaited.mpr ?_
  obtain ⟨later, hlater, -⟩ := exists_socketOpen world
  have hfinished : Async.Passes SocketOpen
      (.await (fun _ => true) (Async.finished (.ok ())) : ConnM Unit) :=
    ⟨⟨later, hlater, rfl⟩, trivial⟩
  refine fun whole => ?_
  show Async.Suspends _ _
    ((ite _ _ _ : Async (BlockingMap Nat UtpPacketWithExtraInfo) Unit).zoom _ _)
  split
  next => exact fun _ _ => ⟨hfinished, rfl⟩
  next =>
    refine fun _ _ => ⟨⟨⟨later.setPacketMap (BlockingMap.create 1), hlater, rfl⟩, ?_⟩,
      hfinished, rfl⟩
    exact ⟨⟨later, hlater, rfl⟩, trivial⟩

/-- What is left of a call that is about to hand its packet over. -/
theorem underway_of_passes {α β : Type} {task : ConnM α} {calledIn : Option UtpConnState}
    {packet : UtpPacket} {remoteAddr : UtpAddr} {next : Nat → ConnM β}
    (hpasses : task.Passes SocketOpen) :
    Underway ((task.bind fun _ => Async.awaited
      (UtpSocket.sendUtpPacket calledIn packet remoteAddr)).awaited.bind next) := by
  intro world hworld hbegins
  obtain ⟨_, later, hlater, hsend⟩ := hbegins.of_bind.of_awaited.of_passes hpasses hworld
  have hfirst : Async.Begins TakesUp (UtpSocket.sendUtpPacket calledIn packet remoteAddr) later :=
    hsend.of_awaited
  have hopen : later.utp.state ≠ .CLOSED := hlater
  simp only [UtpSocket.sendUtpPacket, Async.bind_eq, Async.get, Async.bind, Async.Begins,
    if_neg hopen, Async.modify] at hfirst
  obtain ⟨data, htaken⟩ := hfirst
  have hsent := congrArg (fun world => world.utp.sent.length) htaken
  simp [World.transmit, consumeSeqNr, onConn] at hsent

/-- While `sendUtpPacket` is awaited, a `write` has a packet to hand over, or what follows
settles it. -/
theorem sendUtpPacket_suspends (hongoing : Ongoing stays) {β : Type} {packet : UtpPacket}
    {next : Nat → ConnM β} (hnext : Settles stays next) :
    (Async.awaited (UtpConn.sendUtpPacket packet)).Suspends
      (fun rest => Between stays (rest.bind next) ∨ Underway (rest.bind next)) fun _ => True := by
  have hlast : ∀ calledIn remoteAddr, (Async.awaited
      (UtpSocket.sendUtpPacket calledIn packet remoteAddr)).Suspends
        (fun rest => Between stays (rest.awaited.bind next) ∨ Underway (rest.awaited.bind next))
        fun result => (Between stays ((Async.await (fun _ => true)
          (Async.finished result)).bind next) ∨ Underway ((Async.await (fun _ => true)
            (Async.finished result)).bind next)) ∧ True := by
    intro calledIn remoteAddr
    refine Async.suspends_awaited.mpr ((udpSend_suspends calledIn packet remoteAddr).mono
      (fun rest hidle => .inl (between_bind hongoing hidle.awaited.awaited hnext))
      fun result _ => ?_)
    exact ⟨.inl (between_bind hongoing (Async.MovesAlways.awaited (idle_finished result)) hnext),
      .inl (between_bind hongoing (idle_finished result) hnext), trivial⟩
  refine Async.suspends_awaited.mpr fun _ world => ?_
  obtain ⟨later, hlater, -⟩ := exists_socketOpen world
  show Async.Suspends _ _ (ite _ _ _)
  split
  next => exact ⟨.inl (between_bind hongoing (idle_finished _) hnext), trivial⟩
  next =>
    split
    next =>
      -- a writer that waits for room, or has been let in, tests nothing when it goes on
      refine Async.suspends_bind.mpr (Async.suspends_awaited.mpr ?_)
      refine (waitForAck_suspends _ _).mono
        (fun rest hpasses => .inr (underway_of_passes (hpasses.awaited hlater))) ?_
      rintro _ rfl
      exact ⟨.inr (underway_of_passes ⟨⟨later, hlater, rfl⟩, trivial⟩), hlast _ _⟩
    next => exact hlast _ _

/-- A packet is longer than nothing, so a call that sent nothing is an error. -/
theorem dataPacket_length (world : World) (data : Bytes) : (world.dataPacket data).length ≠ 0 := by
  have hheader : UtpPacket.HEADER_SIZE ≤ (world.dataPacket data).length := Nat.le_add_right _ _
  have hsize : 0 < UtpPacket.HEADER_SIZE := by decide
  omega

/-- A `write` that has something left to send fails where it is refused. -/
theorem writeLoop_refused {here : World → Prop} {allowed : World → World → Prop} {data : Bytes}
    {rounds offset : Nat} (hleft : offset < data.length) {world : World} (hover : world.Over)
    (hrefuses : world.Refuses) :
    (UtpConn.writeLoop data (rounds + 1) offset).Fails here allowed world := by
  have hconsumed : (world.consumeSeqNr (world.dataPacket (UtpConn.chunkAt data offset))).Over :=
    hover
  unfold UtpConn.writeLoop
  rw [if_pos hleft]
  refine Async.yields_bind.mpr (Async.yields_bind.mpr fun _ => Async.yields_bind.mpr
    (Async.yields_awaited.mpr ((sendUtpPacket_refused hconsumed hrefuses).mono ?_)))
  intro result _ hzero later _
  cases result with
  | error error => rfl
  | ok n =>
      have hshort : n ≠ (world.dataPacket (UtpConn.chunkAt data offset)).length := by
        rw [hzero n rfl]
        exact (dataPacket_length world _).symm
      dsimp only
      rw [if_neg hshort]
      rfl

/-- Where it goes on only to be refused, it fails. -/
theorem writeLoop_fails (hongoing : Ongoing stays) {data : Bytes} {rounds offset : Nat}
    (hleft : offset < data.length) {world : World} (hstays : stays world) :
    (UtpConn.writeLoop data (rounds + 1) offset).Fails stays refusing world := by
  by_cases hrefuses : world.Refuses
  · exact writeLoop_refused hleft (hongoing.ended world hstays) hrefuses
  · unfold UtpConn.writeLoop
    rw [if_pos hleft]
    exact Async.yields_bind.mpr (Async.yields_bind.mpr fun hrefused => absurd hrefused hrefuses)

/-- After each packet the loop of `write` comes to nothing more, or fails. -/
theorem writeLoop_settles (hongoing : Ongoing stays) {β : Type} (data : Bytes)
    (rounds offset : Nat) {last : Nat → ConnM β} (hlast : ∀ offset, Idle (last offset))
    (length : Nat) :
    Settles stays fun n => (if n = length then UtpConn.writeLoop data rounds offset
      else Async.throw "发送的数据包长度不等于要发送的数据包长度").bind last := by
  have hidle : UtpConn.writeLoop data rounds offset = .pure offset →
      ∀ n, Idle ((if n = length then UtpConn.writeLoop data rounds offset
        else Async.throw "发送的数据包长度不等于要发送的数据包长度").bind last) := by
    intro hpure n
    rw [hpure]
    split
    next => exact hlast offset
    next => exact fun _ => trivial
  refine ⟨fun n => ?_, ?_⟩
  · refine .bind hongoing.stable ?_ fun offset => (hlast offset).withholding
    split
    next => exact writeLoop_withholding hongoing data rounds offset
    next => exact fun _ _ => trivial
  · cases rounds with
    | zero => exact .inl (hidle rfl)
    | succ rounds =>
        by_cases hleft : offset < data.length
        · refine .inr fun n world hstays => Async.yields_bind.mpr ?_
          split
          next =>
            refine (writeLoop_fails hongoing hleft hstays).mono fun result _ hfailed => ?_
            cases result with
            | error error => rfl
            | ok value => cases hfailed
          next => rfl
        · exact .inl (hidle (by rw [UtpConn.writeLoop, if_neg hleft]; rfl))

/-- The loop of `write`, with what follows it, at each of its awaits. -/
theorem writeLoop_suspends (hongoing : Ongoing stays) {β : Type} {data : Bytes}
    {rounds offset : Nat} {last : Nat → ConnM β} (hlast : ∀ offset, Idle (last offset))
    (hdone : ∀ offset, (last offset).Suspends (fun rest => Between stays rest ∨ Underway rest)
      fun _ => True) :
    ((UtpConn.writeLoop data rounds offset).bind last).Suspends
      (fun rest => Between stays rest ∨ Underway rest) fun _ => True := by
  induction rounds generalizing offset with
  | zero => exact hdone offset
  | succ rounds ih =>
      unfold UtpConn.writeLoop
      split
      next hleft =>
        intro world _
        show Async.Suspends _ _ (((Async.awaited (UtpConn.sendUtpPacket _)).bind _).bind last)
        rw [Async.bind_assoc]
        refine Async.suspends_bind.mpr ((sendUtpPacket_suspends hongoing
          (writeLoop_settles hongoing data rounds _ hlast _)).mono (fun _ => id) fun result _ => ?_)
        cases result with
        | error error => trivial
        | ok n =>
            dsimp only
            split
            next => exact ih
            next => trivial
      next => exact hdone offset

/-- What follows the loop in a `write` that nobody asks for its result. -/
theorem discard_write (data : Bytes) : Async.discard (UtpConn.write data) =
    (UtpConn.writeLoop data data.length 0).bind fun offset => Async.discard
      (if data.length = offset then Async.pure data.length
        else .throw "发送的数据长度不等于要发送的数据长度") := by
  unfold Async.discard UtpConn.write
  rw [Async.bind_eq, Async.bind_assoc]
  rfl

/-- A suspended `write` waits between two packets, or has one to hand over. -/
theorem write_suspends (hongoing : Ongoing stays) (data : Bytes) :
    (Async.discard (UtpConn.write data)).Suspends
      (fun rest => Between stays rest ∨ Underway rest) fun _ => True := by
  rw [discard_write]
  refine writeLoop_suspends hongoing (fun offset => ?_) fun offset => ?_
  · split
    next => exact fun _ => trivial
    next => exact fun _ => trivial
  · split
    next => trivial
    next => trivial

/-- A `write` fails if its loop does. -/
theorem write_fails_of_loop {here : World → Prop} {allowed : World → World → Prop} {data : Bytes}
    (hdata : data ≠ []) {world : World} (hloop : ∀ rounds,
      (UtpConn.writeLoop data (rounds + 1) 0).Fails here allowed world) :
    (Async.discard (UtpConn.write data)).Fails here allowed world := by
  rw [discard_write]
  obtain ⟨rounds, hrounds⟩ := Nat.exists_eq_succ_of_ne_zero
    (List.length_pos_iff.mpr hdata).ne'
  rw [hrounds]
  refine Async.yields_bind.mpr ((hloop rounds).mono fun result _ hfailed => ?_)
  cases result with
  | error error => rfl
  | ok value => cases hfailed

/-- A new `write` that has something to send fails where it is refused, whatever happens. -/
theorem write_refused {here : World → Prop} {allowed : World → World → Prop} {data : Bytes}
    (hdata : data ≠ []) {world : World} (hover : world.Over) (hrefuses : world.Refuses) :
    (Async.discard (UtpConn.write data)).Fails here allowed world :=
  write_fails_of_loop hdata fun _ =>
    writeLoop_refused (List.length_pos_iff.mpr hdata) hover hrefuses

/-- At every await a `write` has nothing left to send, or fails where it is refused. -/
theorem write_fated (hongoing : Ongoing stays) (data : Bytes) :
    Fated stays (Async.discard (UtpConn.write data)) := by
  by_cases hdata : data = []
  · subst hdata
    exact .inl fun _ => trivial
  · exact .inr fun _ hstays => write_fails_of_loop hdata fun _ =>
      writeLoop_fails hongoing (List.length_pos_iff.mpr hdata) hstays

/-- A turn of a `write` in progress that is refused all it sends leaves it as it was. -/
theorem fated_suspended {task : ConnM Unit} {state : World}
    (hfated : task.Moves (fun _ _ => True) (fun _ _ => False) (fun _ _ => True) state ∨
      task.Fails stays refusing state)
    (hallowed : ∀ write ∈ task.writes state, refusing write.1 write.2) {label : Label}
    {entry : Label × ConnM Unit} (hentry : entry ∈ Config.suspended label (task.turn state).2) :
    Fated stays entry.2 := by
  rcases hfated with hidle | hfails
  · exact .inl (Async.Moves.suspended hidle hentry)
  · exact .inr fun later _ => Async.Yields.suspended hfails hallowed hentry later

/-! ## The first turn of a `write` -/

/-- A new `write` takes up its first packet and hands it to `sendUtpPacket` in one turn. -/
theorem write_turn {data : Bytes} (hdata : data ≠ []) (world : World) :
    ∃ rest : Nat → ConnM Unit, ((Async.discard (UtpConn.write data)).turn world).1 =
      (((Async.awaited (UtpConn.sendUtpPacket
        (world.dataPacket (UtpConn.chunkAt data 0)))).bind rest).turn
          (world.consumeSeqNr (world.dataPacket (UtpConn.chunkAt data 0)))).1 := by
  obtain ⟨rounds, hrounds⟩ := Nat.exists_eq_succ_of_ne_zero
    (List.length_pos_iff.mpr hdata).ne'
  rw [discard_write, hrounds, UtpConn.writeLoop, if_pos (List.length_pos_iff.mpr hdata)]
  simp only [Async.bind_eq, Async.bind_assoc]
  exact ⟨_, rfl⟩

/-- A packet that is not refused is handed over at once. -/
theorem sends_of_not_refused {data : Bytes} (hdata : data ≠ []) {world : World} (hover : world.Over)
    (hsends : ¬ world.Refuses) : ∃ datagram : Datagram,
      ((Async.discard (UtpConn.write data)).turn world).1.utp.sent =
        world.utp.sent ++ [datagram] ∧
      datagram.packet.type = .ST_DATA ∧ datagram.calledIn.isSome = true := by
  obtain ⟨rest, hturn⟩ := write_turn hdata world
  have hopen : ∀ packet, (world.consumeSeqNr packet).touch.conn.isClosed = false := fun packet =>
    decide_eq_false fun hclosed => hsends (.inl hclosed)
  have hconnected : ∀ packet, (world.consumeSeqNr packet).touch.conn.isConnected = false :=
    fun packet => decide_eq_false hover.2.2
  have hsocket : ∀ packet, ¬ (world.consumeSeqNr packet).touch.utp.state = .CLOSED :=
    fun packet hclosed => hsends (.inr hclosed)
  rw [hturn]
  simp only [UtpConn.sendUtpPacket, UtpSocket.sendUtpPacket, Async.bind_eq, Async.bind, Async.get,
    Async.modify, Async.awaited, Async.turn, Async.waitUntil, hopen, hconnected, hsocket,
    Bool.false_eq_true, if_false, Bool.false_and, Async.pure_eq]
  exact ⟨_, rfl, rfl, rfl⟩

/-- A `write` that is called on an ended connection sends nothing in its first turn if it is
refused. -/
theorem sends_nothing_of_refused {data : Bytes} (hdata : data ≠ []) {world : World}
    (hover : world.Over) (hrefuses : world.Refuses) :
    ((Async.discard (UtpConn.write data)).turn world).1.utp.sent = world.utp.sent := by
  obtain ⟨rest, hturn⟩ := write_turn hdata world
  have hconnected : ∀ packet, (world.consumeSeqNr packet).touch.conn.isConnected = false :=
    fun packet => decide_eq_false hover.2.2
  rw [hturn]
  by_cases hclosed : world.conn.localState = .CS_CLOSED
  · have hopen : ∀ packet, (world.consumeSeqNr packet).touch.conn.isClosed = true :=
      fun packet => decide_eq_true hclosed
    simp only [UtpConn.sendUtpPacket, Async.bind_eq, Async.bind, Async.get, Async.modify,
      Async.awaited, Async.turn, hopen, if_true]
    rfl
  · have hopen : ∀ packet, (world.consumeSeqNr packet).touch.conn.isClosed = false :=
      fun packet => decide_eq_false hclosed
    have hsocket : ∀ packet, (world.consumeSeqNr packet).touch.utp.state = .CLOSED :=
      fun packet => hrefuses.resolve_left hclosed
    simp only [UtpConn.sendUtpPacket, UtpSocket.sendUtpPacket, Async.bind_eq, Async.bind, Async.get,
      Async.modify, Async.awaited, Async.turn, hopen, hconnected, hsocket,
      Bool.false_eq_true, if_false, Bool.false_and, Async.pure_eq, if_true]
    rfl

/-! ## In a run -/

/-- No `write` in progress has taken up a packet that it has yet to hand over. -/
def BetweenPackets (tasks : List (Label × ConnM Unit)) : Prop :=
  ∀ entry ∈ tasks, entry.1 = .write → ∀ world, entry.2.Begins TakesUp world

/-- In a run, a `write` that waits between two packets is one of the task list with nothing under
way. -/
theorem BetweenPackets.between (hongoing : Ongoing stays) {labels : Label → Prop}
    {admits : World → UtpPacket → Prop} {self : Nat} {utp : UtpSocket} {isInitiator : Bool}
    {remoteAddr : UtpAddr} {sendId recvId seqNr ackNr : Nat} {config : Config World Label}
    (hconfig : (connSystem labels admits).Reachable
      (connectTo self utp isInitiator remoteAddr sendId recvId seqNr ackNr) config)
    (hbetween : BetweenPackets config.tasks) :
    ∀ entry ∈ config.tasks, entry.1 = .write → Between stays entry.2 := by
  intro entry hentry hlabel
  have hspawn : ∀ world task, (connSystem labels admits).spawn world .write task →
      task.Suspends (fun rest => Between stays rest ∨ Underway rest) fun _ => True := by
    rintro world task ⟨-, hspawns⟩
    cases hspawns with
    | write data => exact write_suspends hongoing data
  have hinitial : ∀ entry ∈ (connectTo self utp isInitiator remoteAddr sendId recvId seqNr
      ackNr).tasks, entry.1 ≠ .write := by
    intro entry hfirst hwrite
    have hconnect := connectTo_labels self utp isInitiator remoteAddr sendId recvId seqNr ackNr
      entry hfirst
    rw [hwrite] at hconnect
    cases hconnect
  obtain ⟨later, hlater, -⟩ := exists_socketOpen config.state
  exact (Async.TaskSystem.suspended hspawn hinitial hconfig entry hentry hlabel).1.resolve_right
    fun hunderway => hunderway later hlater (hbetween entry hentry hlabel later)

/-- The writes of a `write`. -/
def writesWithheld (label : Label) (start target : World) : Prop :=
  label = .write → Withheld start target

/-- A call on an ended connection withholds, except for what other labels send. -/
theorem spawns_withheld (hongoing : Ongoing stays) {admits : World → UtpPacket → Prop}
    {world : World} {label : Label} {task : ConnM Unit} (hstays : stays world)
    (hspawns : Spawns admits world label task) :
    Onward stays (writesWithheld label) task world := by
  cases hspawns with
  | write data =>
      exact (write_withholding hongoing data world hstays).mono (fun _ _ => id)
        (fun _ _ hheld _ => hheld) fun _ _ => id
  | _ =>
      refine Async.MovesAlways.moves (Async.MovesAlways.any.mono ?_) world
      rintro _ _ - ⟨⟩

/-- So does a `write` that goes on from between two packets. -/
theorem Between.onward {entry : Label × ConnM Unit}
    (hbetween : entry.1 = .write → Between stays entry.2) (world : World) (hstays : stays world) :
    Onward stays (writesWithheld entry.1) entry.2 world := by
  by_cases hlabel : entry.1 = .write
  · exact ((hbetween hlabel).withholding world hstays).mono (fun _ _ => id)
      (fun _ _ hheld _ => hheld) fun _ _ => id
  · exact Async.MovesAlways.moves (Async.MovesAlways.any.mono fun _ _ _ h => absurd h hlabel) world

end Stays

/-- Every `write` that goes on is refused what it sends. -/
def writesRefused : Guard World Label := fun _ label start _ => label = .write → start.Refuses

end World

end Utp
