import Utp.Conn.Effects
import Utp.Foundation.Guarded
import Utp.Socket.Dispatch

/-! # The connection table over all runs

Connections enter the table when they are created and leave it when they are ended.
Both go by the id of the connection, which more than one connection may have.
-/

namespace Utp

open Async (Chain Config Guard TaskSystem)

/-- What a task of the socket was started for. -/
inductive SocketLabel where
  | connect
  | receive
  | own (id : Nat) (label : Label)
  deriving DecidableEq

namespace Socket

/-! ## Runs of a socket -/

/-- The tasks that may start. A SYN is answered without waiting for other packets to
be handled; all else that connections do is started by the application and timers. -/
inductive Spawns (socket : Socket) : SocketLabel → Async Socket Unit → Prop
  | connect (drawn : Fin 65535) (port : Nat) (hostname : String) :
      Spawns socket .connect (connect drawn port hostname)
  | syn (drawn : Fin 65535) (packet : UtpPacket) (remoteAddr : UtpAddr) :
      Spawns socket .connect (acceptSyn drawn packet remoteAddr)
  | packet (drawn : Fin 65535) (packet : UtpPacket) (remoteAddr : UtpAddr)
      (htype : packet.type ≠ .ST_SYN) :
      Spawns socket .receive (dispatchPacket drawn packet remoteAddr)
  | own (id : Nat) (label : Label) (task : ConnM Unit) (hid : id < socket.count)
      (hlabel : label ≠ .receive)
      (hspawns : Utp.Spawns anyPacket (worldOf id socket) label task) :
      Spawns socket (.own id label) (onConn id task)

/-- Clocks, the state of the socket and the runtime's `send` may change on their own. -/
structure Environment (socket next : Socket) : Prop where
  objects : next.objects = socket.objects
  count : next.count = socket.count
  connTable : next.utp.connTable = socket.utp.connTable

/-- A socket with all its tasks. Packets other than SYN are handled one at a time. -/
def socketSystem : TaskSystem Socket SocketLabel where
  spawn := Spawns
  env := Environment
  exclusive label := label = .receive

/-! ## What a write does -/

/-- A write creates a connection, or is one of a connection's own. A connection that
answers a SYN is created only if its id is not in the table. -/
inductive Move (socket : Socket) : Socket → Prop
  | create (isInitiator : Bool) (remoteAddr : UtpAddr) (sendId recvId seqNr ackNr : Nat)
      (hfresh : isInitiator = false →
        socket.findConn (UtpConn.generateUniqueId remoteAddr sendId recvId) = none) :
      Move socket (newConn isInitiator remoteAddr sendId recvId seqNr ackNr socket)
  | own (id : Nat) (world : World) (hid : id < socket.count)
      (hleaves : (worldOf id socket).Leaves world) : Move socket (putWorld id socket world)
  | env {next : Socket} (henv : socket.Environment next) : Move socket next

theorem Move.count_le {socket next : Socket} (hmove : socket.Move next) :
    socket.count ≤ next.count := by
  cases hmove with
  | create => exact Nat.le_succ _
  | own => exact Nat.le_refl _
  | env henv => exact Nat.le_of_eq henv.count.symm

theorem chain_count_le {socket next : Socket} (hchain : Chain Move socket next) :
    socket.count ≤ next.count :=
  hchain.preserves (fun _ _ h hmove => Nat.le_trans h hmove.count_le) (Nat.le_refl _)

/-- Connection code on one of the connections. -/
theorem onConn_moves {α : Type} {id : Nat} {task : ConnM α} (htask : World.LeavesTable task)
    {socket : Socket} (hid : id < socket.count) : (onConn id task).Moves (Chain Move) Move
      (fun _ later => socket.count ≤ later.count) socket := by
  have hcount : ∀ {task : ConnM α} {later : Socket},
      task.Moves (fun _ _ => True) World.Leaves (fun _ _ => True) (worldOf id later) →
      socket.count ≤ later.count → (onConn id task).Moves (Chain Move) Move
        (fun _ later => socket.count ≤ later.count) later := by
    intro task
    induction task with
    | pure => exact fun _ h => h
    | throw => exact fun _ h => h
    | read task ih => exact fun htask h => ih _ htask h
    | write target task ih =>
        intro later htask h
        refine ⟨.own id target (Nat.lt_of_lt_of_le hid h) htask.1, ih ?_ h⟩
        rw [worldOf_putWorld]
        exact htask.2
    | await ready task ih =>
        intro later htask h final hfinal hready
        exact ih (htask _ trivial hready) (Nat.le_trans h (chain_count_le hfinal))
  exact hcount (htask _) (Nat.le_refl _)

theorem connectTo_moves {isInitiator : Bool} {remoteAddr : UtpAddr} {sendId recvId : Nat}
    (seqNr ackNr : Nat) {socket : Socket} (hfresh : isInitiator = false →
      socket.findConn (UtpConn.generateUniqueId remoteAddr sendId recvId) = none) :
    (connectTo isInitiator remoteAddr sendId recvId seqNr ackNr).Moves (Chain Move) Move
      (fun _ _ => True) socket := by
  refine ⟨.create _ _ _ _ _ _ hfresh, ?_⟩
  exact (onConn_moves (World.Rests.leavesTable World.waitForConnecting_rests)
    (Nat.lt_succ_self socket.count)).post fun _ _ _ => trivial

theorem handlePacket_moves (packet : UtpPacket) {targets : List Nat} {socket : Socket}
    (htargets : ∀ id ∈ targets, id < socket.count) :
    (handlePacket packet targets).Moves (Chain Move) Move (fun _ _ => True) socket := by
  induction targets generalizing socket with
  | nil => trivial
  | cons id rest ih =>
      have hid := htargets id List.mem_cons_self
      have hrest : ∀ later : Socket, socket.count ≤ later.count →
          ∀ other ∈ rest, other < later.count := fun later hlater other hother =>
        Nat.lt_of_lt_of_le (htargets other (List.mem_cons_of_mem _ hother)) hlater
      unfold handlePacket
      split
      next =>
        refine Async.moves_bind.mpr ((onConn_moves
          (World.EndsFor.leavesTable (@World.reset_ends .reset)) hid).post
          fun result later hlater => ?_)
        cases result with
        | ok => exact ih (hrest later hlater)
        | error => trivial
      next =>
        refine Async.moves_bind.mpr (Async.moves_awaited.mpr ((onConn_moves
          (World.EndsFor.leavesTable (@World.handleIncomingPacket_ends .receive packet)) hid).post
            fun result later hlater final hfinal => ?_))
        cases result with
        | ok handled =>
            show Async.Moves _ _ _ (ite _ _ _) final
            split
            next => trivial
            next => exact ih (hrest final (Nat.le_trans hlater (chain_count_le hfinal)))
        | error => trivial

/-! ## The table refers to connections -/

/-- The table refers only to connections that were created. -/
def Refers (socket : Socket) : Prop :=
  ∀ uniqueId id, socket.findConn uniqueId = some id → id < socket.count

theorem Move.refers {socket next : Socket} (hmove : socket.Move next) (hrefers : socket.Refers) :
    next.Refers := by
  intro uniqueId id hfind
  cases hmove with
  | create isInitiator remoteAddr sendId recvId seqNr ackNr hfresh =>
      change (socket.utp.connTable.set _ socket.count).get? uniqueId = some id at hfind
      rw [OrderedMap.get?_set] at hfind
      split at hfind
      next =>
        cases hfind
        exact Nat.lt_succ_self _
      next => exact Nat.lt_succ_of_lt (hrefers uniqueId id hfind)
  | own owner world hid hleaves =>
      change world.utp.connTable.get? uniqueId = some id at hfind
      rcases hleaves.connTable with hsame | hends
      · rw [hsame] at hfind
        exact hrefers uniqueId id hfind
      · rw [hends.connTable, OrderedMap.get?_erase] at hfind
        split at hfind
        next => cases hfind
        next => exact hrefers uniqueId id hfind
  | env henv =>
      rw [henv.count]
      unfold findConn at hfind
      rw [henv.connTable] at hfind
      exact hrefers uniqueId id hfind

theorem spawns_moves {socket : Socket} (hrefers : socket.Refers) {label : SocketLabel}
    {task : Async Socket Unit} (hspawns : socket.Spawns label task) :
    task.Moves (Chain Move) Move (fun _ _ => True) socket := by
  cases hspawns with
  | connect drawn port hostname =>
      unfold connect
      split
      next => trivial
      next => exact connectTo_moves _ _ nofun
  | syn drawn packet remoteAddr =>
      show Async.Moves _ _ _ (ite _ _ _) socket
      split
      next => trivial
      next hnew =>
        refine connectTo_moves _ _ fun _ => ?_
        simpa [hasConn] using hnew
  | packet drawn packet remoteAddr htype =>
      unfold dispatchPacket
      rw [if_neg htype]
      refine handlePacket_moves packet fun id hid => ?_
      obtain ⟨sendId, -, hfind⟩ := List.mem_filterMap.mp hid
      exact hrefers _ id hfind
  | own id label task hid hlabel hspawns =>
      exact (onConn_moves (World.EndsFor.leavesTable (World.spawns_ends hspawns)) hid).post
        fun _ _ _ => trivial

theorem socketSystem_moves : socketSystem.MovesPer Move (fun _ => Move) Refers where
  preserves _ _ hrefers hmove := hmove.refers hrefers
  spawn _ _ _ hrefers hspawns := spawns_moves hrefers hspawns
  weaken _ _ _ hmove := hmove
  env _ _ _ henv := .env henv

/-! ## Live connections are in the table -/

/-- Every connection that is not closed or reset is in the table under its own id. -/
def Stored (socket : Socket) : Prop :=
  ∀ id < socket.count, ¬ (worldOf id socket).Terminal →
    socket.findConn (socket.objects id).conn.uniqueId = some id

/-- Two connections with the same id, of which the second is live. -/
def Collides (socket : Socket) (uniqueId : String) (other : Nat) : Prop :=
  other < socket.count ∧ ¬ (worldOf other socket).Terminal ∧
    (socket.objects other).conn.uniqueId = uniqueId

/-- What a write must not do: take the id of a live connection for a new one with
`connect`, end a connection again while a live one has its id, or undo an end. -/
structure Orderly (start target : Socket) : Prop where
  draws : start.count < target.count →
    (target.objects start.count).conn.isInitiator = true →
      ∀ other, ¬ start.Collides (target.objects start.count).conn.uniqueId other
  ends : ∀ id < start.count, (worldOf id start).Terminal → ∀ world,
    (worldOf id start).Terminates world → target = putWorld id start world →
      ∀ other, ¬ start.Collides (start.objects id).conn.uniqueId other
  stays : ∀ id < start.count, (worldOf id start).Terminal → (worldOf id target).Terminal

def orderly : Guard Socket SocketLabel := fun _ _ => Orderly

theorem worldOf_putWorld_of_ne {id other : Nat} (hother : other ≠ id) (socket : Socket)
    (world : World) : (worldOf other (putWorld id socket world)).Terminal ↔
      (worldOf other socket).Terminal := by
  unfold World.Terminal worldOf
  simp only [objects_putWorld_of_ne hother]

theorem Environment.stored {socket next : Socket} (henv : socket.Environment next)
    (hstored : socket.Stored) : next.Stored := by
  intro id hid hlive
  have hobjects := henv.objects
  rw [henv.count] at hid
  unfold findConn worldOf World.Terminal at *
  rw [henv.connTable, hobjects]
  rw [hobjects] at hlive
  exact hstored id hid hlive

theorem create_stored {start : Socket} (hstored : start.Stored) {isInitiator : Bool}
    {remoteAddr : UtpAddr} {sendId recvId seqNr ackNr : Nat}
    (hfree : ∀ other, ¬ start.Collides
      (UtpConn.generateUniqueId remoteAddr sendId recvId) other) :
    (newConn isInitiator remoteAddr sendId recvId seqNr ackNr start).Stored := by
  intro id hid hlive
  change (start.utp.connTable.set (UtpConn.generateUniqueId remoteAddr sendId recvId)
    start.count).get? _ = some id
  rw [OrderedMap.get?_set]
  by_cases hnew : id = start.count
  · subst hnew
    simp [newConn, putWorld, World.create, World.addConn, UtpConn.create, UtpConn.uniqueId]
  · have hobjects := objects_putWorld_of_ne hnew start
      (.create start.count start.utp isInitiator remoteAddr sendId recvId seqNr ackNr)
    have hliveStart : ¬ (worldOf id start).Terminal := fun hterminal =>
      hlive ((worldOf_putWorld_of_ne hnew start _).mpr hterminal)
    have hidStart : id < start.count := Nat.lt_of_le_of_ne (Nat.le_of_lt_succ hid) hnew
    have hconn : ((newConn isInitiator remoteAddr sendId recvId seqNr ackNr start).objects
      id).conn =
        (start.objects id).conn := congrArg ConnObject.conn hobjects
    rw [hconn]
    split
    next hsame => exact absurd ⟨hidStart, hliveStart, hsame⟩ (hfree id)
    next => exact hstored id hidStart hliveStart

theorem own_stored {start : Socket} (hstored : start.Stored) {owner : Nat} {world : World}
    (howner : owner < start.count) (hleaves : (worldOf owner start).Leaves world)
    (horderly : start.Orderly (putWorld owner start world)) :
    (putWorld owner start world).Stored := by
  intro id hid hlive
  have hliveStart : ¬ (worldOf id start).Terminal :=
    fun hterminal => hlive (horderly.stays id hid hterminal)
  have hfound := hstored id hid hliveStart
  have huniqueId : ((putWorld owner start world).objects id).conn.uniqueId =
      (start.objects id).conn.uniqueId := by
    by_cases hsame : id = owner
    · subst hsame
      rw [objects_putWorld_self]
      exact hleaves.uniqueId
    · rw [objects_putWorld_of_ne hsame]
  rw [huniqueId]
  change world.utp.connTable.get? _ = some id
  rcases hleaves.connTable with hkept | hends
  · rw [hkept]
    exact hfound
  · have hother : id ≠ owner := by
      rintro rfl
      refine hlive ?_
      rw [worldOf_putWorld]
      exact hends.terminal
    rw [hends.connTable, OrderedMap.get?_erase]
    split
    next hsame =>
      -- A live owner would be in the table itself, under the id that it shares.
      by_cases howned : (worldOf owner start).Terminal
      · exact absurd ⟨hid, hliveStart, hsame⟩ (horderly.ends owner howner howned world hends rfl id)
      · have hentry := hstored owner howner howned
        have hkey : (start.objects owner).conn.uniqueId = (start.objects id).conn.uniqueId :=
          hsame.symm
        rw [hkey, hfound] at hentry
        exact absurd (Option.some.inj hentry) hother
    next => exact hfound

theorem Move.stored {start target : Socket} (hmove : start.Move target)
    (horderly : start.Orderly target) (hstored : start.Stored) : target.Stored := by
  cases hmove with
  | create isInitiator remoteAddr sendId recvId seqNr ackNr hfresh =>
      refine create_stored hstored fun other hcollides => ?_
      cases isInitiator with
      | true =>
          refine horderly.draws (Nat.lt_succ_self _) ?_ other ?_
          · simp [newConn, putWorld, World.create, World.addConn, UtpConn.create]
          · simpa [newConn, putWorld, World.create, World.addConn, UtpConn.create,
              UtpConn.uniqueId] using hcollides
      | false =>
          have hfound := hstored other hcollides.1 hcollides.2.1
          rw [hcollides.2.2, hfresh rfl] at hfound
          cases hfound
  | own owner world howner hleaves => exact own_stored hstored howner hleaves horderly
  | env henv => exact henv.stored hstored

/-- In every run in which no write takes the id of a live connection, ends a connection
again while a live one has its id, or undoes an end, every live connection is in the
table under its own id. -/
theorem live_stored (utp : UtpSocket) {config : Config Socket SocketLabel}
    (hrun : socketSystem.Guarded orderly ⟨create utp, []⟩ config) : config.state.Stored := by
  have hrefers : (create utp).Refers := fun _ _ hfind => by cases hfind
  have hstored : (create utp).Stored := fun _ hid => absurd hid (Nat.not_lt_zero _)
  have hwrites := (socketSystem_moves.guarded (.start hrefers) hrun).1
  refine hwrites.preserves (fun start target h hwrite => ?_) hstored
  cases hwrite with
  | turn others label hmove horderly => exact hmove.stored horderly h
  | env henv => exact henv.stored h

/-! ## Concrete runs -/

/-- A socket that has started to connect with a given number drawn. -/
def connecting (config : Config Socket SocketLabel) (drawn : Fin 65535) :
    Config Socket SocketLabel := config.launch .connect (connect drawn 9000 "localhost")

/-- The connections have ids of their own, a new one included, and ends are kept. -/
def KeepsApart (start target : Socket) : Prop :=
  (∀ id < start.count, ∀ other < start.count, id ≠ other →
    (start.objects id).conn.uniqueId ≠ (start.objects other).conn.uniqueId) ∧
  (start.count < target.count → ∀ other < start.count,
    (start.objects other).conn.uniqueId ≠ (target.objects start.count).conn.uniqueId) ∧
  ∀ id < start.count, (worldOf id start).Terminal → (worldOf id target).Terminal

instance (start target : Socket) : Decidable (start.KeepsApart target) :=
  inferInstanceAs (Decidable (_ ∧ _ ∧ _))

theorem KeepsApart.orderly {start target : Socket} (hapart : start.KeepsApart target) :
    start.Orderly target := by
  obtain ⟨hdistinct, hdraws, hstays⟩ := hapart
  refine ⟨fun hcount _ other hcollides => hdraws hcount other hcollides.1 hcollides.2.2,
    fun id hid hterminal _ _ _ other hcollides => ?_, hstays⟩
  have hother : id ≠ other := by
    rintro rfl
    exact hcollides.2.1 hterminal
  exact hdistinct id hid other hcollides.1 hother hcollides.2.2.symm

/-- Of two connections the first is closed while it still connects, -/
def closingFirst : Config Socket SocketLabel :=
  ((connecting (connecting ⟨create .sample, []⟩ 5) 7).launch (.own 0 .close)
    (onConn 0 UtpConn.close)).resumes [2, 2, 2, 2]

/-- and the interval of its `close` ends it. -/
def closedFirst : Config Socket SocketLabel :=
  closingFirst.launch (.own 0 .closePoll) (onConn 0 UtpConn.closePoll)

theorem launch_orderly {config : Config Socket SocketLabel} {label : SocketLabel}
    {task : Async Socket Unit} (hspawns : Spawns config.state label task)
    (hlabel : label ≠ .receive) (hapart : (task.writes config.state).all
      (fun write => decide (write.1.KeepsApart write.2)) = true) :
    socketSystem.GuardedStep orderly config (config.launch label task) :=
  .launch hspawns (fun hreceive => absurd hreceive hlabel) fun write hwrite =>
    (of_decide_eq_true (List.all_eq_true.mp hapart write hwrite)).orderly

theorem resumes_orderly {config : Config Socket SocketLabel} (positions : List Nat)
    (hapart : (TaskSystem.resumesWrites config positions).all
      (fun write => decide (write.1.KeepsApart write.2)) = true) :
    socketSystem.Guarded orderly config (config.resumes positions) :=
  .resumes positions fun write hwrite _ _ =>
    (of_decide_eq_true (List.all_eq_true.mp hapart write hwrite)).orderly

theorem closedFirst_orderly : socketSystem.Guarded orderly ⟨create .sample, []⟩ closedFirst := by
  have hfirst : socketSystem.Guarded orderly ⟨create .sample, []⟩
      (connecting ⟨create .sample, []⟩ 5) :=
    .single (launch_orderly (.connect 5 9000 "localhost") nofun (by decide +kernel))
  have hsecond := hfirst.tail
    (launch_orderly (.connect 7 9000 "localhost") nofun (by decide +kernel))
  have hclose := hsecond.tail
    (launch_orderly (.own 0 .close UtpConn.close (by decide +kernel) nofun .close) nofun
      (by decide +kernel))
  have hclosing := hclose.trans (resumes_orderly [2, 2, 2, 2] (by decide +kernel))
  exact hclosing.tail (launch_orderly (.own 0 .closePoll UtpConn.closePoll (by decide +kernel)
    nofun (.closePoll (by decide +kernel))) nofun (by decide +kernel))

/-- The connection that goes on connecting is found, the other one has left the table. -/
theorem live_stored_sample : closedFirst.state.count = 2 ∧
    closedFirst.state.findConn (closedFirst.state.objects 0).conn.uniqueId = none ∧
    closedFirst.state.Stored :=
  ⟨by decide +kernel, by decide +kernel, live_stored .sample closedFirst_orderly⟩

/-- The second of two connections drawn under one id takes the place of the first. -/
theorem connect_overwrites : ¬ ∀ config, socketSystem.Reachable ⟨create .sample, []⟩ config →
    config.state.Stored := by
  intro hclaim
  have hstored := hclaim (connecting (connecting ⟨create .sample, []⟩ 5) 5)
    (.step (.step .refl (.launch (.connect 5 9000 "localhost") nofun))
      (.launch (.connect 5 9000 "localhost") nofun))
  have hsent : ((connecting (connecting ⟨create .sample, []⟩ 5) 5).state.objects
      0).conn.localState = .CS_SYN_SENT := by decide +kernel
  have hfound := hstored 0 (by decide +kernel) fun hterminal => by
    rcases hterminal with hclosed | hreset
    · cases hsent.symm.trans hclosed
    · cases hsent.symm.trans hreset
  have hother : (connecting (connecting ⟨create .sample, []⟩ 5) 5).state.findConn
      ((connecting (connecting ⟨create .sample, []⟩ 5) 5).state.objects 0).conn.uniqueId =
        some 1 := by decide +kernel
  rw [hother] at hfound
  cases hfound

end Socket

end Utp
