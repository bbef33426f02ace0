import Utp.Conn.Writes
import Utp.Socket.Endpoint
import Utp.Socket.Responder

/-! # What the endpoint's tasks write

A single write creates a connection, or is one of a connection's own, or changes the endpoint
around them. Every invariant of the endpoint follows from this list.
-/

namespace Utp

open Async (Chain)

namespace Socket

/-- A write of the code of one connection. -/
structure OwnChange (id : Nat) (socket next : Socket) : Prop where
  lt : id < socket.count
  leaves : (worldOf id socket).Leaves (worldOf id next)
  writes : (worldOf id socket).Writes true true (worldOf id next)
  next : next = putWorld id socket (worldOf id next)

/-- A connection that answers a SYN is created only if its id is not in the table. -/
inductive Change (socket : Socket) : Socket → Prop
  | create (isInitiator : Bool) (remoteAddr : UtpAddr) (sendId recvId seqNr ackNr : Nat)
      (hfresh : isInitiator = false →
        socket.findConn (UtpConn.generateUniqueId remoteAddr sendId recvId) = none) :
      Change socket (newConn isInitiator remoteAddr sendId recvId seqNr ackNr socket)
  | own (id : Nat) {next : Socket} (hown : socket.OwnChange id next) : Change socket next

variable {socket next : Socket} {id other : Nat}

/-- The code of a connection creates no other one. -/
theorem OwnChange.count (hown : socket.OwnChange id next) : next.count = socket.count := by
  rw [hown.next]
  rfl

/-- The code of a connection changes no other one. -/
theorem OwnChange.objects (hown : socket.OwnChange id next) (hother : other ≠ id) :
    next.objects other = socket.objects other := by
  rw [hown.next]
  exact objects_putWorld_of_ne hother socket _

/-- What the code of a connection does is a move of the socket. -/
theorem OwnChange.move (hown : socket.OwnChange id next) : socket.Move next := by
  have hmove : socket.Move (putWorld id socket (worldOf id next)) :=
    .own id (worldOf id next) hown.lt hown.leaves
  rwa [← hown.next] at hmove

/-- Every change is a move of the socket. -/
theorem Change.move (hchange : socket.Change next) : socket.Move next := by
  cases hchange with
  | create _ _ _ _ _ _ hfresh => exact .create _ _ _ _ _ _ hfresh
  | own id hown => exact hown.move

/-- A new connection leaves the others as they are. -/
theorem newConn_objects_of_ne {isInitiator : Bool} {remoteAddr : UtpAddr}
    {sendId recvId seqNr ackNr : Nat} (hother : other ≠ socket.count) :
    (newConn isInitiator remoteAddr sendId recvId seqNr ackNr socket).objects other =
      socket.objects other :=
  objects_putWorld_of_ne hother socket _

/-- The state of the socket is not changed by its connections. -/
theorem Change.utpState (hchange : socket.Change next) : next.utp.state = socket.utp.state := by
  cases hchange with
  | create => rfl
  | own id hown => exact hown.writes.utpState

/-- A connection belongs to one peer for good. -/
structure SamePeer (conn later : UtpConn) : Prop where
  remoteAddr : later.remoteAddr = conn.remoteAddr
  localSendId : later.localSendId = conn.localSendId
  localRecvId : later.localRecvId = conn.localRecvId

theorem SamePeer.refl (conn : UtpConn) : SamePeer conn conn := ⟨rfl, rfl, rfl⟩

theorem SamePeer.trans {conn later last : UtpConn} (hfirst : SamePeer conn later)
    (hsecond : SamePeer later last) : SamePeer conn last :=
  ⟨hsecond.remoteAddr.trans hfirst.remoteAddr, hsecond.localSendId.trans hfirst.localSendId,
    hsecond.localRecvId.trans hfirst.localRecvId⟩

/-- A connection that exists keeps its peer. -/
theorem Change.samePeer (hchange : socket.Change next) (hother : other < socket.count) :
    SamePeer (socket.objects other).conn (next.objects other).conn := by
  cases hchange with
  | create =>
      rw [newConn_objects_of_ne (Nat.ne_of_lt hother)]
      exact .refl _
  | own id hown =>
      by_cases hsame : other = id
      · subst hsame
        exact ⟨hown.leaves.remoteAddr, hown.leaves.localSendId, hown.leaves.localRecvId⟩
      · rw [hown.objects hsame]
        exact .refl _

/-! ## Code of one connection -/

variable {rely : Socket → Socket → Prop}

/-- The code of one connection, whatever the others do meanwhile. -/
theorem onConn_changes {α : Type} {task : ConnM α} (hleaves : World.LeavesTable task)
    (hwrites : World.Writing true true task)
    (hrely : ∀ start later : Socket, rely start later → start.count ≤ later.count)
    (hid : id < socket.count) : (onConn id task).Moves rely (OwnChange id)
      (fun _ later => socket.count ≤ later.count) socket := by
  have hboth : ∀ world : World, task.Moves (fun _ _ => True)
      (fun start target => start.Leaves target ∧ start.Writes true true target)
      (fun _ _ => True) world := fun world => (hleaves world).and (hwrites world)
  have hzoom : ∀ {task : ConnM α} {later : Socket}, task.Moves (fun _ _ => True)
      (fun start target => start.Leaves target ∧ start.Writes true true target) (fun _ _ => True)
      (worldOf id later) → socket.count ≤ later.count → (onConn id task).Moves rely (OwnChange id)
        (fun _ later => socket.count ≤ later.count) later := by
    intro task
    induction task with
    | pure => exact fun _ hlater => hlater
    | throw => exact fun _ hlater => hlater
    | read task ih => exact fun htask hlater => ih _ htask hlater
    | write target task ih =>
        intro later htask hlater
        refine ⟨⟨Nat.lt_of_lt_of_le hid hlater, ?_, ?_, ?_⟩, ih ?_ hlater⟩
        · rw [worldOf_putWorld]
          exact htask.1.1
        · rw [worldOf_putWorld]
          exact htask.1.2
        · rw [worldOf_putWorld]
        · rw [worldOf_putWorld]
          exact htask.2
    | await ready task ih =>
        intro later htask hlater final hfinal hready
        exact ih (htask _ trivial hready) (hlater.trans (hrely _ _ hfinal))
  exact hzoom (hboth _) (Nat.le_refl _)

/-! ## Code of the socket -/

/-- What the others leave to a task that knows connections by their identities. -/
structure Onward (socket later : Socket) : Prop where
  count : socket.count ≤ later.count
  refers : socket.Refers → later.Refers
  samePeer : ∀ id < socket.count, SamePeer (socket.objects id).conn (later.objects id).conn

theorem Onward.refl (socket : Socket) : socket.Onward socket :=
  ⟨Nat.le_refl _, fun hrefers => hrefers, fun _ _ => .refl _⟩

theorem Onward.trans {later last : Socket} (hfirst : socket.Onward later)
    (hsecond : later.Onward last) : socket.Onward last where
  count := hfirst.count.trans hsecond.count
  refers := hsecond.refers ∘ hfirst.refers
  samePeer id hid := (hfirst.samePeer id hid).trans
    (hsecond.samePeer id (Nat.lt_of_lt_of_le hid hfirst.count))

/-- Every change leaves to others what they know. -/
theorem Change.onward (hchange : socket.Change next) : socket.Onward next :=
  ⟨hchange.move.count_le, hchange.move.refers, fun _ hid => hchange.samePeer hid⟩

/-- The connection that a pair of ids was given out for. -/
structure Serves (remoteAddr : UtpAddr) (sendId recvId : Nat) (conn : UtpConn) : Prop where
  remoteAddr : conn.remoteAddr = remoteAddr
  localSendId : conn.localSendId = sendId
  localRecvId : conn.localRecvId = recvId

/-- A connection goes on serving the pair of ids that it was made for. -/
theorem Serves.later {remoteAddr : UtpAddr} {sendId recvId : Nat} {conn later : UtpConn}
    (hserves : Serves remoteAddr sendId recvId conn) (hsame : SamePeer conn later) :
    Serves remoteAddr sendId recvId later :=
  ⟨hsame.remoteAddr.trans hserves.remoteAddr, hsame.localSendId.trans hserves.localSendId,
    hsame.localRecvId.trans hserves.localRecvId⟩

/-- A write leaves the connections alone that it is not about. -/
structure Only (about : Nat → UtpConn → Prop) (socket next : Socket) : Prop where
  change : socket.Change next
  about : ∀ id < socket.count, next.objects id ≠ socket.objects id →
    about id (socket.objects id).conn

/-- What is about some connections is about more. -/
theorem Only.mono {about weaker : Nat → UtpConn → Prop}
    (hweaker : ∀ id conn, about id conn → weaker id conn) (honly : Only about socket next) :
    Only weaker socket next :=
  ⟨honly.change, fun other hother hne => hweaker _ _ (honly.about other hother hne)⟩

/-- Code of a connection, known by its peer. -/
theorem OwnChange.only {about : Nat → UtpConn → Prop} (hown : socket.OwnChange id next)
    (habout : about id (socket.objects id).conn) : Only about socket next := by
  refine ⟨.own id hown, fun other _ hne => ?_⟩
  have hsame : other = id := by
    by_contra hother
    exact hne (hown.objects hother)
  rw [hsame]
  exact habout

/-- What is known of a connection by its peer stays known while its code runs. -/
theorem onConn_only {α : Type} {task : ConnM α} (hleaves : World.LeavesTable task)
    (hwrites : World.Writing true true task) {about : UtpConn → Prop}
    (hstable : ∀ conn later, SamePeer conn later → about conn → about later)
    (hid : id < socket.count) (habout : about (socket.objects id).conn) :
    (onConn id task).Moves Onward (Only fun other conn => other = id ∧ about conn)
      (fun _ later => id < later.count ∧ about (later.objects id).conn) socket := by
  have hmoves := onConn_changes hleaves hwrites (fun _ _ => Onward.count) hid
  have honward : ∀ start later : Socket, id < start.count ∧ about (start.objects id).conn →
      start.Onward later → id < later.count ∧ about (later.objects id).conn :=
    fun start later hstart hlater => ⟨Nat.lt_of_lt_of_le hstart.1 hlater.count,
      hstable _ _ (hlater.samePeer id hstart.1) hstart.2⟩
  have hown : ∀ start target : Socket, id < start.count ∧ about (start.objects id).conn →
      start.OwnChange id target → id < target.count ∧ about (target.objects id).conn :=
    fun start target hstart hown => honward start target hstart (Change.own id hown).onward
  apply ((hmoves.keep _ honward hown ⟨hid, habout⟩).under ⟨honward, hown⟩ ⟨hid, habout⟩).mono
  · exact fun _ _ h => h
  · exact fun start target h => h.2.only ⟨rfl, h.1.2⟩
  · exact fun _ _ h => h.2

/-- A connection is created, and then waited for. -/
theorem connectTo_changes {isInitiator : Bool} {remoteAddr : UtpAddr} {sendId recvId : Nat}
    (seqNr ackNr : Nat) (hfresh : isInitiator = false →
      socket.findConn (UtpConn.generateUniqueId remoteAddr sendId recvId) = none) :
    (connectTo isInitiator remoteAddr sendId recvId seqNr ackNr).Moves Onward
      (Only fun _ => Serves remoteAddr sendId recvId)
      (fun _ later => socket.count < later.count ∧
        Serves remoteAddr sendId recvId (later.objects socket.count).conn) socket := by
  refine ⟨⟨.create _ _ _ _ _ _ hfresh, fun other hother hne => ?_⟩, ?_⟩
  · exact absurd (newConn_objects_of_ne (Nat.ne_of_lt hother)) hne
  · apply (onConn_only (World.Rests.leavesTable World.waitForConnecting_rests)
      World.waitForConnecting_writes (fun _ _ hsame hserves => Serves.later hserves hsame)
      (Nat.lt_succ_self _) _).mono
    · exact fun _ _ h => h
    · exact fun _ _ honly => honly.mono fun _ _ h => h.2
    · exact fun _ _ h => h
    · constructor <;> simp [newConn, putWorld, World.create, World.addConn, UtpConn.create]

/-- The packet is handled by the connections that were found for it. -/
theorem handlePacket_changes (packet : UtpPacket) {about : UtpConn → Prop}
    (hstable : ∀ conn later, SamePeer conn later → about conn → about later) {targets : List Nat}
    (htargets : ∀ id ∈ targets, id < socket.count ∧ about (socket.objects id).conn) :
    (handlePacket packet targets).Moves Onward (Only fun _ => about) (fun _ _ => True) socket := by
  induction targets generalizing socket with
  | nil => trivial
  | cons id rest ih =>
      obtain ⟨hid, habout⟩ := htargets id List.mem_cons_self
      -- What is left of the targets is known later, too.
      have hrest : ∀ {later : Socket}, socket.Onward later →
          (handlePacket packet rest).Moves Onward (Only fun _ => about)
            (fun _ _ => True) later := by
        intro later hlater
        refine ih fun other hother => ?_
        obtain ⟨hlt, hpeer⟩ := htargets other (List.mem_cons_of_mem _ hother)
        exact ⟨Nat.lt_of_lt_of_le hlt hlater.count, hstable _ _ (hlater.samePeer other hlt) hpeer⟩
      have honward : ∀ start later : Socket, socket.Onward start → start.Onward later →
          socket.Onward later := fun _ _ hstart hlater => hstart.trans hlater
      have honly : ∀ start target : Socket, socket.Onward start →
          Only (fun other conn => other = id ∧ about conn) start target → socket.Onward target :=
        fun _ _ hstart honly => hstart.trans honly.change.onward
      have hweaker : ∀ start target : Socket,
          Only (fun other conn => other = id ∧ about conn) start target →
            Only (fun _ => about) start target := fun _ _ honly => honly.mono fun _ _ h => h.2
      unfold handlePacket
      split
      next =>
        apply Async.moves_bind.mpr
        apply ((onConn_only (World.EndsFor.leavesTable (@World.reset_ends .reset))
          World.reset_writes hstable hid habout).keep _ honward honly (.refl socket)).mono
            (fun _ _ h => h) hweaker
        rintro (error | _) later ⟨-, hlater⟩
        · trivial
        · exact hrest hlater
      next =>
        apply Async.moves_bind.mpr
        apply Async.moves_awaited.mpr
        apply ((onConn_only
          (World.EndsFor.leavesTable (@World.handleIncomingPacket_ends .receive packet))
          (World.handleIncomingPacket_writes packet) hstable hid habout).keep _ honward honly
            (.refl socket)).mono (fun _ _ h => h) hweaker
        rintro (error | handled) later ⟨-, hlater⟩ final hfinal
        · trivial
        · dsimp only
          split
          next => trivial
          next => exact hrest (hlater.trans hfinal)

/-- The loop checks connections of the table. -/
theorem timeoutCheckLoop_changes (rounds : Nat) (seen : List String) (hrefers : socket.Refers) :
    (timeoutCheckLoop rounds seen).Moves Onward (Only fun _ _ => True)
    (fun _ _ => True) socket := by
  induction rounds generalizing socket seen with
  | zero => trivial
  | succ rounds ih =>
      unfold timeoutCheckLoop
      apply Async.moves_bind.mpr
      apply Async.moves_get.mpr
      dsimp only
      cases hnext : socket.nextConn seen with
      | none => trivial
      | some entry =>
          obtain ⟨uniqueId, id⟩ := entry
          have hfind : socket.findConn uniqueId = some id :=
            OrderedMap.get?_eq_some.mpr (List.mem_of_find?_eq_some hnext)
          dsimp only
          split
          next => exact ih _ hrefers
          next =>
            apply Async.moves_bind.mpr
            apply Async.moves_awaited.mpr
            have hcheck := (onConn_changes
              (World.EndsFor.leavesTable (@World.timeoutCheck_ends .timeoutCheck))
              World.timeoutCheck_writes (fun _ _ => Onward.count) (hrefers _ _ hfind))
            have hkept := hcheck.keep Refers (fun _ _ h hrely => hrely.refers h)
              (fun _ _ h hown => hown.move.refers h) hrefers
            apply hkept.mono (fun _ _ h => h) fun _ _ hown => hown.only trivial
            rintro (error | _) later ⟨-, hlater⟩ final hfinal
            · trivial
            · exact ih _ (hfinal.refers hlater)

end Socket

/-! ## Code of the endpoint -/

namespace Endpoint

variable {endpoint next : Endpoint}

/-- A write of the socket's code, which runs once there is a UDP socket. -/
structure SocketChange (move : Socket → Socket → Prop) (endpoint next : Endpoint) : Prop where
  opened : endpoint.udpSocket ≠ .none
  socket : move endpoint.socket next.socket
  next : next = endpoint.setSocket next.socket

/-- A write around the socket. A call of `close` in vain, and a poll, leave all as it is. -/
inductive OwnChange (endpoint : Endpoint) : Endpoint → Prop
  | bind (hnone : endpoint.udpSocket = .none) : OwnChange endpoint endpoint.bind
  | listener (listener : UTPListener Nat)
      (hclosed : endpoint.listener.isClosed = true → listener.isClosed = true) :
      OwnChange endpoint (endpoint.setListener listener)
  | stay : OwnChange endpoint endpoint
  | beginClose (hactive : endpoint.isActive) (hbusy : endpoint.socket.connSize ≠ 0) :
      OwnChange endpoint { endpoint.beginClose with checkInterval := true }
  | closeUnused (hactive : endpoint.isActive) (hnone : endpoint.udpSocket = .none) :
      OwnChange endpoint endpoint.beginClose.stopTimeoutCheck
  | closeNow (hactive : endpoint.isActive) (hempty : endpoint.socket.connSize = 0)
      (hopen : endpoint.udpSocket ≠ .none) :
      OwnChange endpoint
        { endpoint.beginClose.stopTimeoutCheck.closeUdpSocket with closeResolved := true }
  | closeLater (hinterval : endpoint.checkInterval = true)
      (hempty : endpoint.socket.connSize = 0) (hopen : endpoint.udpSocket ≠ .none) :
      OwnChange endpoint
        { endpoint.stopTimeoutCheck.closeUdpSocket with
          checkInterval := false
          closeResolved := true }

/-- A write of any task, or of the environment. -/
inductive Change (endpoint : Endpoint) : Endpoint → Prop
  | socket {next : Endpoint} (hsocket : SocketChange Socket.Change endpoint next) :
      Change endpoint next
  | own {next : Endpoint} (hown : endpoint.OwnChange next) : Change endpoint next
  | env {next : Endpoint} (henv : endpoint.Environment next) : Change endpoint next

theorem isActive.not_isCloseWait (hactive : endpoint.isActive) : ¬ endpoint.isCloseWait :=
  fun hwait => nomatch hactive.symm.trans hwait

theorem isActive.not_isClosed (hactive : endpoint.isActive) : ¬ endpoint.isClosed :=
  fun hclosed => nomatch hactive.symm.trans hclosed

theorem isCloseWait.not_isClosed (hwait : endpoint.isCloseWait) : ¬ endpoint.isClosed :=
  fun hclosed => nomatch hwait.symm.trans hclosed

/-- `close` of the endpoint changes what goes with its state. -/
theorem close_change (endpoint : Endpoint) : endpoint.OwnChange endpoint.close.1 := by
  by_cases hactive : endpoint.isActive
  · rw [close, if_neg hactive.not_isClosed, if_neg hactive.not_isCloseWait, tryCloseSocket]
    by_cases hempty : endpoint.socket.connSize = 0
    · have hempty' : endpoint.beginClose.socket.connSize = 0 := hempty
      rw [if_neg (not_not.mpr hempty')]
      by_cases hnone : endpoint.udpSocket = .none
      · have hnone' : endpoint.beginClose.udpSocket = .none := hnone
        rw [if_pos hnone']
        exact .closeUnused hactive hnone
      · have hopen' : endpoint.beginClose.udpSocket ≠ .none := hnone
        rw [if_neg hopen']
        exact .closeNow hactive hempty hnone
    · have hbusy' : endpoint.beginClose.socket.connSize ≠ 0 := hempty
      rw [if_pos hbusy']
      exact .beginClose hactive hempty
  · have hsame : endpoint.close.1 = endpoint := by
      unfold close
      split
      next => rfl
      next hclosed =>
        split
        next => rfl
        next hwait =>
          cases hstate : endpoint.socket.utp.state with
          | ACTIVE => exact absurd hstate hactive
          | CLOSE_WAIT => exact absurd hstate hwait
          | CLOSED => exact absurd hstate hclosed
    rw [hsame]
    exact .stay

/-- A poll of the interval closes the endpoint once it has no connections. -/
theorem closePoll_change (hinterval : endpoint.checkInterval = true)
    (hopen : endpoint.udpSocket ≠ .none) : endpoint.OwnChange endpoint.closePoll.1 := by
  rw [closePoll, tryCloseSocket]
  by_cases hempty : endpoint.socket.connSize = 0
  · rw [if_neg (not_not.mpr hempty), if_neg hopen]
    exact .closeLater hinterval hempty hopen
  · rw [if_pos hempty]
    exact .stay

/-! ### What every write keeps -/

/-- Around the socket nobody touches connections or their table. -/
theorem OwnChange.objects (hown : endpoint.OwnChange next) :
    next.socket.objects = endpoint.socket.objects ∧ next.socket.count = endpoint.socket.count ∧
      next.socket.utp.connTable = endpoint.socket.utp.connTable := by
  cases hown <;> exact ⟨rfl, rfl, rfl⟩

/-- Whatever the endpoint does, its connections keep what others know of them. -/
theorem Change.onward (hchange : endpoint.Change next) : endpoint.socket.Onward next.socket := by
  have hsame : ∀ {socket later : Socket}, later.objects = socket.objects →
      later.count = socket.count → later.utp.connTable = socket.utp.connTable →
        socket.Onward later := by
    intro socket later hobjects hcount hconnTable
    refine ⟨Nat.le_of_eq hcount.symm, fun hrefers uniqueId id hfind => ?_, fun id _ => ?_⟩
    · rw [hcount]
      apply hrefers uniqueId id
      rwa [Socket.findConn, hconnTable] at hfind
    · rw [hobjects]
      exact .refl _
  cases hchange with
  | socket hsocket => exact hsocket.socket.onward
  | own hown => exact hsame hown.objects.1 hown.objects.2.1 hown.objects.2.2
  | env henv => exact hsame henv.objects henv.count henv.connTable

/-- After any number of changes the connections keep what others know of them. -/
theorem chain_onward (hchain : Chain Change endpoint next) :
    endpoint.socket.Onward next.socket := by
  induction hchain with
  | refl => exact .refl _
  | tail _ hchange ih => exact ih.trans hchange.onward

/-- The UDP socket is never forgotten. -/
theorem Change.opened (hchange : endpoint.Change next) (hopen : endpoint.udpSocket ≠ .none) :
    next.udpSocket ≠ .none := by
  cases hchange with
  | socket hsocket =>
      rw [hsocket.next]
      exact hopen
  | own hown =>
      cases hown with
      | bind | closeNow | closeLater => nofun
      | _ => exact hopen
  | env henv =>
      rw [henv.socket]
      exact hopen

/-- A UDP socket that was there does not go away. -/
theorem chain_opened (hopen : endpoint.udpSocket ≠ .none) (hchain : Chain Change endpoint next) :
    next.udpSocket ≠ .none := by
  induction hchain with
  | refl => exact hopen
  | tail _ hchange ih => exact hchange.opened ih

/-! ### The endpoint keeps account -/

/-- The UDP socket, the timer and the interval of `close` go with the state. The listener is
closed with the endpoint, if the application has not closed it before. Without a UDP socket there
are no connections. -/
structure Accounted (endpoint : Endpoint) : Prop where
  closed : endpoint.udpSocket = .closed ↔ endpoint.isClosed
  timer : endpoint.timeoutCheckTimer = true ↔ endpoint.udpSocket = .bound
  listener : ¬ endpoint.isActive → endpoint.listener.isClosed = true
  interval : endpoint.checkInterval = true → endpoint.isCloseWait ∧ endpoint.udpSocket = .bound
  resolved : endpoint.closeResolved = true ↔ endpoint.isClosed
  unused : endpoint.udpSocket = .none → endpoint.socket.count = 0

/-- An endpoint that has a connection and is not closed is bound. -/
theorem Accounted.bound_of_conn (haccounted : endpoint.Accounted)
    (hopen : ¬ endpoint.isClosed) (hconn : 0 < endpoint.socket.count) :
    endpoint.udpSocket = .bound := by
  cases hudp : endpoint.udpSocket with
  | none => exact absurd (haccounted.unused hudp) (Nat.ne_of_gt hconn)
  | bound => rfl
  | closed => exact absurd (haccounted.closed.mp hudp) hopen

/-- A table that is not empty lists a connection. -/
theorem count_pos_of_connSize {socket : Socket} (hrefers : socket.Refers)
    (hbusy : socket.connSize ≠ 0) : 0 < socket.count := by
  obtain ⟨entry, hentry⟩ : ∃ entry, entry ∈ socket.utp.connTable.entries :=
    List.exists_mem_of_ne_nil _ fun hnil => hbusy
      (by rw [Socket.connSize, OrderedMap.size, hnil]; rfl)
  have hfind : socket.findConn entry.1 = some entry.2 := OrderedMap.get?_eq_some.mpr hentry
  exact Nat.lt_of_le_of_lt (Nat.zero_le _) (hrefers _ _ hfind)

/-- A listener that is closed is closed. -/
theorem close_isClosed (listener : UTPListener Nat) : listener.close.isClosed = true := by
  unfold UTPListener.close
  split <;> rfl

/-- A write around the socket keeps the resources with the state. -/
theorem OwnChange.accounted (hown : endpoint.OwnChange next) (hrefers : endpoint.socket.Refers)
    (haccounted : endpoint.Accounted) : next.Accounted := by
  cases hown with
  | bind hnone =>
      have hclosed : ¬ endpoint.isClosed := fun hclosed =>
        nomatch hnone.symm.trans (haccounted.closed.mpr hclosed)
      have hinterval : endpoint.checkInterval = true → False := fun h =>
        nomatch hnone.symm.trans (haccounted.interval h).2
      exact ⟨⟨nofun, fun h => absurd h hclosed⟩, ⟨fun _ => rfl, fun _ => rfl⟩, haccounted.listener,
        fun h => (hinterval h).elim, haccounted.resolved, nofun⟩
  | listener listener hclosed =>
      exact ⟨haccounted.closed, haccounted.timer, hclosed ∘ haccounted.listener,
        haccounted.interval, haccounted.resolved, haccounted.unused⟩
  | stay => exact haccounted
  | beginClose hactive hbusy =>
      have hbound := haccounted.bound_of_conn hactive.not_isClosed
        (count_pos_of_connSize hrefers hbusy)
      refine ⟨⟨fun hudp => ?_, nofun⟩, haccounted.timer,
        fun _ => close_isClosed _, fun _ => ⟨rfl, hbound⟩,
        ⟨fun hresolved => ?_, nofun⟩, haccounted.unused⟩
      · exact absurd (haccounted.closed.mp hudp) hactive.not_isClosed
      · exact absurd (haccounted.resolved.mp hresolved) hactive.not_isClosed
  | closeUnused hactive hnone =>
      have hnotBound : endpoint.udpSocket ≠ .bound := fun hbound => nomatch hnone.symm.trans hbound
      refine ⟨⟨fun hudp => ?_, nofun⟩, ⟨nofun, fun hbound => absurd hbound hnotBound⟩,
        fun _ => close_isClosed _, fun h => ?_, ⟨fun hresolved => ?_, nofun⟩,
        haccounted.unused⟩
      · exact absurd (haccounted.closed.mp hudp) hactive.not_isClosed
      · exact absurd (haccounted.interval h).1 hactive.not_isCloseWait
      · exact absurd (haccounted.resolved.mp hresolved) hactive.not_isClosed
  | closeNow hactive hempty hopen =>
      refine ⟨⟨fun _ => rfl, fun _ => rfl⟩, ⟨nofun, nofun⟩,
        fun _ => close_isClosed _, fun h => ?_, ⟨fun _ => rfl, fun _ => rfl⟩, nofun⟩
      exact absurd (haccounted.interval h).1 hactive.not_isCloseWait
  | closeLater hinterval hempty hopen =>
      have hwait := (haccounted.interval hinterval).1
      have hclosed := haccounted.listener fun hactive => hactive.not_isCloseWait hwait
      exact ⟨⟨fun _ => rfl, fun _ => rfl⟩, ⟨nofun, nofun⟩, fun _ => hclosed,
        nofun, ⟨fun _ => rfl, fun _ => rfl⟩, nofun⟩

/-- Every change keeps the resources with the state. -/
theorem Change.accounted (hchange : endpoint.Change next) (hrefers : endpoint.socket.Refers)
    (haccounted : endpoint.Accounted) : next.Accounted := by
  cases hchange with
  | own hown => exact hown.accounted hrefers haccounted
  | socket hsocket =>
      have hstate := hsocket.socket.utpState
      rw [hsocket.next]
      have hopen := hsocket.opened
      obtain ⟨hclosed, htimer, hlistener, hinterval, hresolved, -⟩ := haccounted
      unfold isClosed isActive isCloseWait at *
      rw [← hstate] at hclosed hlistener hinterval hresolved
      exact ⟨hclosed, htimer, hlistener, hinterval, hresolved, fun hnone => absurd hnone hopen⟩
  | env henv =>
      obtain ⟨hclosed, htimer, hlistener, hinterval, hresolved, hunused⟩ := haccounted
      rw [henv.socket]
      unfold isClosed isActive isCloseWait at *
      rw [← henv.state] at hclosed hlistener hinterval hresolved
      rw [← henv.count] at hunused
      exact ⟨hclosed, htimer, hlistener, hinterval, hresolved, hunused⟩

/-- The invariant of the endpoint. -/
structure Orderly (endpoint : Endpoint) : Prop where
  keyed : endpoint.socket.Keyed
  accounted : endpoint.Accounted

theorem Orderly.refers (horderly : endpoint.Orderly) : endpoint.socket.Refers :=
  fun _ _ hfind => (horderly.keyed _ _ hfind).1

/-- Every change keeps the table's keys. -/
theorem Change.keyed (hchange : endpoint.Change next) (hkeyed : endpoint.socket.Keyed) :
    next.socket.Keyed := by
  cases hchange with
  | socket hsocket => exact hsocket.socket.move.keyed hkeyed
  | own hown =>
      obtain ⟨hobjects, hcount, hconnTable⟩ := hown.objects
      exact Socket.Move.keyed (.env ⟨hobjects, hcount, hconnTable⟩) hkeyed
  | env henv => exact Socket.Move.keyed (.env ⟨henv.objects, henv.count, henv.connTable⟩) hkeyed

/-- Every change keeps the endpoint in order. -/
theorem Change.orderly (hchange : endpoint.Change next) (horderly : endpoint.Orderly) :
    next.Orderly :=
  ⟨hchange.keyed horderly.keyed, hchange.accounted horderly.refers horderly.accounted⟩

/-- A new endpoint is in order. -/
theorem create_orderly (utp : UtpSocket) : (create utp).Orderly := by
  refine ⟨fun _ _ hfind => ?_, ?_⟩
  · cases hfind
  · constructor <;> simp [create, isClosed, isActive, UTPListener.create, Socket.create]

/-! ### Tasks -/

/-- A write of a call that has to do with some connections only. -/
structure Only (about : Nat → UtpConn → Prop) (endpoint next : Endpoint) : Prop where
  change : endpoint.Change next
  about : ∀ id < endpoint.socket.count, next.socket.objects id ≠ endpoint.socket.objects id →
    about id (endpoint.socket.objects id).conn

variable {about : Nat → UtpConn → Prop}

theorem OwnChange.only (hown : endpoint.OwnChange next) : Only about endpoint next :=
  ⟨.own hown, fun _ _ hne => absurd (congrFun hown.objects.1 _) hne⟩

/-- The socket's code makes its own writes only. -/
theorem onSocket_changes {α : Type} {task : Async Socket α}
    {post : Except String α → Socket → Prop}
    (htask : task.Moves Socket.Onward (Socket.Only about) post endpoint.socket)
    (hopen : endpoint.udpSocket ≠ .none) : (onSocket task).Moves (Chain Change) (Only about)
      (fun result later => post result later.socket ∧ later.udpSocket ≠ .none) endpoint := by
  have hzoom : (onSocket task).Moves (Chain Change) (fun start target =>
      Socket.Only about start.socket target.socket ∧ target = start.setSocket target.socket)
      (fun result later => post result later.socket) endpoint :=
    @Async.Moves.zoom _ _ Socket.Onward (Socket.Only about) Endpoint socket setSocket _ _ post
      (fun _ _ => rfl) (fun _ _ => chain_onward) (fun _ _ h => ⟨h, rfl⟩) _ _ htask
  have hrely : ∀ start later : Endpoint, start.udpSocket ≠ .none → Chain Change start later →
      later.udpSocket ≠ .none := fun _ _ => chain_opened
  have hkeep : ∀ start target : Endpoint, start.udpSocket ≠ .none →
      Socket.Only about start.socket target.socket ∧ target = start.setSocket target.socket →
        target.udpSocket ≠ .none := by
    intro start target hstart hmove
    rw [hmove.2]
    exact hstart
  apply ((hzoom.keep _ hrely hkeep hopen).under ⟨hrely, hkeep⟩ hopen).mono
  · exact fun _ _ h => h
  · exact fun start target h => ⟨.socket ⟨h.1, h.2.1.change, h.2.2⟩, h.2.1.about⟩
  · exact fun _ _ h => h

end Endpoint

end Utp
