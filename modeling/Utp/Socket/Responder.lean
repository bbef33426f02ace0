import Utp.Conn.Stamp
import Utp.Socket.Routing
import Utp.Socket.Table
import Utp.Wire.Codec

/-! # The connections that answer a SYN

A SYN carries the send id of the connection that answers it. The receive id is one
more, and is the id of the peer's later packets, which have 16 bits for it.
-/

namespace Utp

open Async (Chain Config TaskSystem)

namespace Socket

variable {remoteAddr : UtpAddr} {connId : Nat}

/-- The id of the connection that answers a SYN. -/
def responderId (remoteAddr : UtpAddr) (connId : Nat) : String :=
  UtpConn.generateUniqueId remoteAddr connId (connId + 1)

/-- The id of a connection that was initiated here, with the same receive id. -/
def twinId (remoteAddr : UtpAddr) (connId : Nat) : String :=
  UtpConn.generateUniqueId remoteAddr (connId + 2) (connId + 1)

/-- The packet gets to the connection: `dispatch` finds it, and what it tries before that
does not keep the packet. -/
def HandsTo (packet : UtpPacket) (remoteAddr : UtpAddr) (id : Nat) (socket : Socket) : Prop :=
  ∃ before after, socket.targetConns packet remoteAddr = before ++ id :: after ∧
    ∀ other ∈ before, packet.type = .ST_RESET ∨
      ∃ world, (UtpConn.handleIncomingPacket packet).run (worldOf other socket) =
        some (world, .ok false)

/-- The later packets of the peer, as they arrive. -/
structure Later (connId : Nat) (packet : UtpPacket) : Prop where
  type : packet.type ≠ .ST_SYN
  connId : packet.connId = (connId + 1) % 65536

/-! ## The table lists connections under their own ids -/

def Keyed (socket : Socket) : Prop :=
  ∀ uniqueId id, socket.findConn uniqueId = some id →
    id < socket.count ∧ (socket.objects id).conn.uniqueId = uniqueId

theorem Move.keyed {socket next : Socket} (hmove : socket.Move next) (hkeyed : socket.Keyed) :
    next.Keyed := by
  intro uniqueId id hfind
  cases hmove with
  | create isInitiator remoteAddr sendId recvId seqNr ackNr hfresh =>
      change (socket.utp.connTable.set _ socket.count).get? uniqueId = some id at hfind
      rw [OrderedMap.get?_set] at hfind
      split at hfind
      next hsame =>
        cases hfind
        refine ⟨Nat.lt_succ_self _, ?_⟩
        rw [hsame]
        simp [newConn, putWorld, World.create, World.addConn]
      next =>
        obtain ⟨hid, hown⟩ := hkeyed uniqueId id hfind
        refine ⟨Nat.lt_succ_of_lt hid, ?_⟩
        have hother := objects_putWorld_of_ne (Nat.ne_of_lt hid) socket
          (.create socket.count socket.utp isInitiator remoteAddr sendId recvId seqNr ackNr)
        rw [← hown]
        exact congrArg (fun object => object.conn.uniqueId) hother
  | own owner world hid hleaves =>
      have hbefore : socket.findConn uniqueId = some id := by
        change world.utp.connTable.get? uniqueId = some id at hfind
        rcases hleaves.connTable with hsame | hends
        · rw [hsame] at hfind
          exact hfind
        · rw [hends.connTable, OrderedMap.get?_erase] at hfind
          split at hfind
          next => cases hfind
          next => exact hfind
      obtain ⟨hlt, hown⟩ := hkeyed uniqueId id hbefore
      refine ⟨hlt, ?_⟩
      by_cases howner : id = owner
      · subst howner
        rw [objects_putWorld_self]
        exact hleaves.uniqueId.trans hown
      · rw [objects_putWorld_of_ne howner]
        exact hown
  | env henv =>
      unfold findConn at hfind
      rw [henv.connTable] at hfind
      rw [henv.count, henv.objects]
      exact hkeyed uniqueId id hfind

theorem reachable_keyed (utp : UtpSocket) {config : Config Socket SocketLabel}
    (hrun : socketSystem.Reachable ⟨create utp, []⟩ config) : config.state.Keyed := by
  have hrefers : (create utp).Refers := fun _ _ hfind => by cases hfind
  have hkeyed : (create utp).Keyed := fun _ _ hfind => by cases hfind
  have hwrites := (socketSystem_moves.guarded (.start hrefers) hrun.guarded).1
  refine hwrites.preserves (fun start target h hwrite => ?_) hkeyed
  cases hwrite with
  | turn others label hmove hallowed => exact hmove.keyed h
  | env henv => exact Move.keyed (.env henv) h

/-! ## What the packets of the peer find -/

/-- Below the last id, the later packets are looked up under the id that the SYN stored. -/
theorem targetConns_later (hconnId : connId < 65535) {packet : UtpPacket}
    (hlater : Later connId packet) (socket : Socket) :
    socket.targetConns packet remoteAddr = (socket.findConn (twinId remoteAddr connId)).toList ++
      (socket.findConn (responderId remoteAddr connId)).toList := by
  have hwire : packet.connId = connId + 1 := by
    rw [hlater.connId]
    exact Nat.mod_eq_of_lt (by omega)
  have htwin : UtpConn.generateUniqueId remoteAddr ((connId + 1 : Nat) + 1) (connId + 1 : Nat) =
      twinId remoteAddr connId := by
    rw [twinId, Int.natCast_add, Int.add_assoc]
    rfl
  have hown : UtpConn.generateUniqueId remoteAddr ((connId + 1 : Nat) - 1) (connId + 1 : Nat) =
      responderId remoteAddr connId := by
    rw [responderId, Int.natCast_add, Int.natCast_one, Int.add_sub_cancel]
  simp only [targetConns, localSendIds, hwire, List.filterMap_cons, List.filterMap_nil, htwin, hown]
  cases socket.findConn (twinId remoteAddr connId) with
  | none => cases socket.findConn (responderId remoteAddr connId) <;> rfl
  | some twin => cases socket.findConn (responderId remoteAddr connId) <;> rfl

/-- The same connections, none of which has been answered. -/
def unanswered (socket : Socket) : Socket :=
  { socket with objects := fun id => ⟨id, .create true (.localhost 0) 0 0 0 0 0, []⟩ }

/-- An acknowledgement by the peer. -/
def laterAck (connId : Nat) : UtpPacket :=
  { type := .ST_STATE, connId := (connId + 1) % 65536 }

theorem handsTo_of_alone (hconnId : connId < 65535) {id : Nat} {socket : Socket}
    (hfound : socket.findConn (responderId remoteAddr connId) = some id)
    (halone : ∀ twin, socket.findConn (twinId remoteAddr connId) = some twin → twin = id)
    {packet : UtpPacket} (hlater : Later connId packet) : HandsTo packet remoteAddr id socket := by
  have htargets := @targetConns_later remoteAddr _ hconnId _ hlater socket
  rw [hfound] at htargets
  cases htwin : socket.findConn (twinId remoteAddr connId) with
  | none =>
      rw [htwin] at htargets
      exact ⟨[], [], htargets, nofun⟩
  | some twin =>
      rw [htwin, halone twin htwin] at htargets
      exact ⟨[], [id], htargets, nofun⟩

/-- A connection that waits for its handshake to be answered keeps what acknowledges it. -/
theorem alone_of_handsTo (hconnId : connId < 65535) {id : Nat} {socket : Socket}
    (hfound : socket.findConn (responderId remoteAddr connId) = some id)
    (hhands : HandsTo (laterAck connId) remoteAddr id (unanswered socket)) :
    ∀ twin, socket.findConn (twinId remoteAddr connId) = some twin → twin = id := by
  intro twin htwin
  have hlater : Later connId (laterAck connId) := ⟨nofun, rfl⟩
  have htargets : (unanswered socket).targetConns (laterAck connId) remoteAddr = [twin, id] := by
    have h := @targetConns_later remoteAddr _ hconnId _ hlater (unanswered socket)
    have htwin' : (unanswered socket).findConn (twinId remoteAddr connId) = some twin := htwin
    have hfound' : (unanswered socket).findConn (responderId remoteAddr connId) = some id := hfound
    rw [htwin', hfound'] at h
    exact h
  obtain ⟨before, after, hsplit, hpasses⟩ := hhands
  rw [htargets] at hsplit
  cases before with
  | nil => exact (List.cons.inj hsplit).1
  | cons first rest =>
      obtain rfl : twin = first := (List.cons.inj hsplit).1
      rcases hpasses twin List.mem_cons_self with hreset | ⟨world, hrun⟩
      · cases hreset
      · obtain ⟨next, hack, -⟩ := World.run_handleIncomingPacket_ack
          (show (laterAck connId).type = .ST_STATE from rfl) (worldOf twin (unanswered socket))
        have habsorbs : World.Absorbs (worldOf twin (unanswered socket)).conn.localState := .inl rfl
        rw [hack, decide_eq_true habsorbs] at hrun
        cases hrun

/-- The receive id after the last one does not fit the wire. -/
theorem not_handsTo_last {id : Nat} {socket : Socket} (hkeyed : socket.Keyed)
    (hfound : socket.findConn (responderId remoteAddr 65535) = some id) {packet : UtpPacket}
    (hlater : Later 65535 packet) : ¬ HandsTo packet remoteAddr id socket := by
  rintro ⟨before, after, hsplit, -⟩
  have hmem : id ∈ socket.targetConns packet remoteAddr := by
    rw [hsplit]
    simp
  have hwire : packet.connId = 0 := hlater.connId
  obtain ⟨sendId, hsendId, hother⟩ := List.mem_filterMap.mp hmem
  have hsame := (hkeyed _ _ hfound).2.symm.trans (hkeyed _ _ hother).2
  rw [hwire] at hsendId hsame
  have hlength := congrArg String.length hsame
  have hlast : (Nat.repr 65535).length = 5 := by decide
  have hnext : (Int.repr 65536).length = 5 := by decide
  have hother : (Int.repr sendId).length ≤ 2 := by
    simp only [localSendIds, List.mem_cons, List.not_mem_nil, or_false] at hsendId
    rcases hsendId with rfl | rfl <;> decide
  have hzero : (Int.repr 0).length = 1 := by decide
  simp [responderId, UtpConn.generateUniqueId] at hlength
  omega

/-! ## The answer to a SYN -/

section Answer

variable {drawn : Fin 65535} {syn : UtpPacket} {config later : Config Socket SocketLabel}

/-- A SYN starts to be answered. -/
def answering (drawn : Fin 65535) (syn : UtpPacket) (remoteAddr : UtpAddr)
    (config : Config Socket SocketLabel) : Config Socket SocketLabel :=
  config.launch .connect (acceptSyn drawn syn remoteAddr)

/-- The new connection has begun as every connection does, and the table refers to it. -/
theorem answering_begins
    (hnew : config.state.findConn (responderId remoteAddr syn.connId) = none) :
    worldOf config.state.count (answering drawn syn remoteAddr config).state =
        (World.connectTo config.state.count config.state.utp false remoteAddr syn.connId
          (syn.connId + 1) drawn syn.seqNr).state ∧
      (answering drawn syn remoteAddr config).state.findConn
        (responderId remoteAddr syn.connId) = some config.state.count := by
  let created := newConn false remoteAddr syn.connId (syn.connId + 1) drawn syn.seqNr config.state
  have hturn : (answering drawn syn remoteAddr config).state =
      putWorld config.state.count created
        (UtpConn.waitForConnecting.turn (worldOf config.state.count created)).1 := by
    have hunknown : config.state.hasConn
        (UtpConn.generateUniqueId remoteAddr syn.connId (syn.connId + 1)) = false := by
      rw [responderId] at hnew
      simp [hasConn, hnew]
    show ((ite _ _ _ : Async Socket Unit).turn config.state).1 = _
    rw [if_neg (by simp [hunknown])]
    exact Async.turn_zoom _ _ (worldOf_putWorld _) (putWorld_worldOf _) (putWorld_putWorld _) _ _
  have hcreated : worldOf config.state.count created = World.create config.state.count
      config.state.utp false remoteAddr syn.connId (syn.connId + 1) drawn syn.seqNr := by
    simp [created, newConn, worldOf, putWorld, World.create, World.addConn]
  have hfind : ∀ world uniqueId, (putWorld config.state.count created world).findConn uniqueId =
      world.utp.connTable.get? uniqueId := fun _ _ => rfl
  rw [hturn, worldOf_putWorld, hfind, hcreated]
  refine ⟨rfl, ?_⟩
  have hspares := World.turn_rests World.waitForConnecting_rests (World.create config.state.count
      config.state.utp false remoteAddr syn.connId (syn.connId + 1) drawn syn.seqNr)
  rw [hspares.connTable]
  simp [World.create, World.addConn, UtpConn.uniqueId, UtpConn.create, responderId]

/-- As long as the table refers to the connection that answers a SYN, the peer's later
packets get to it, whatever states the connections are in, if and only if its receive id
fits the wire and no other connection with that receive id is in the table. Meanwhile a
repeated SYN changes nothing, and all that the connection ever sends carries the id of
the SYN. -/
theorem responder_routed_iff (utp : UtpSocket) (hconnId : syn.connId < 65536)
    (hrun : socketSystem.Reachable ⟨create utp, []⟩ config)
    (hnew : config.state.findConn (responderId remoteAddr syn.connId) = none)
    (hlater : socketSystem.Reachable (answering drawn syn remoteAddr config) later)
    (hkept : later.state.findConn (responderId remoteAddr syn.connId) = some config.state.count) :
    (worldOf config.state.count (answering drawn syn remoteAddr config).state =
        (World.connectTo config.state.count config.state.utp false remoteAddr syn.connId
          (syn.connId + 1) drawn syn.seqNr).state ∧
      (answering drawn syn remoteAddr config).state.findConn
        (responderId remoteAddr syn.connId) = some config.state.count) ∧
    ((∀ packet (socket : Socket), Later syn.connId packet →
        socket.utp.connTable = later.state.utp.connTable →
        HandsTo packet remoteAddr config.state.count socket) ↔
      syn.connId ≠ 65535 ∧ ∀ twin,
        later.state.findConn (twinId remoteAddr syn.connId) = some twin →
          twin = config.state.count) ∧
    (∀ redrawn again, again.type = .ST_SYN → again.connId = syn.connId →
      (dispatchPacket redrawn again remoteAddr).run later.state = some (later.state, .ok ())) ∧
    ∀ conn : Config World Label, (connSystem anyLabel anyPacket).Reachable
      (World.connectTo config.state.count config.state.utp false remoteAddr syn.connId
        (syn.connId + 1) drawn syn.seqNr) conn →
      ∀ datagram ∈ conn.state.utp.sent,
        UtpPacket.getUint16 datagram.packet.toBytes 2 = .ok syn.connId := by
  have hanswering : socketSystem.Reachable ⟨create utp, []⟩
    (answering drawn syn remoteAddr config) :=
    hrun.step (.launch (.syn drawn syn remoteAddr) nofun)
  have hkeyed : later.state.Keyed := reachable_keyed utp (hanswering.trans hlater)
  refine ⟨answering_begins hnew, ⟨fun hclaim => ?_, ?_⟩, fun redrawn again htype hagain => ?_, ?_⟩
  · have hfits : syn.connId ≠ 65535 := by
      intro hlast
      rw [hlast] at hclaim hkept
      have hack : Later 65535 (laterAck 65535) := ⟨nofun, rfl⟩
      exact not_handsTo_last hkeyed hkept hack (hclaim _ _ hack rfl)
    have hack : Later syn.connId (laterAck syn.connId) := ⟨nofun, rfl⟩
    exact ⟨hfits, alone_of_handsTo (by omega) hkept (hclaim _ (unanswered later.state) hack rfl)⟩
  · rintro ⟨hfits, halone⟩ packet socket hpacket htable
    have hfind : ∀ uniqueId, socket.findConn uniqueId = later.state.findConn uniqueId := by
      intro uniqueId
      unfold findConn
      rw [htable]
    refine handsTo_of_alone (by omega) ((hfind _).trans hkept) (fun twin htwin => ?_) hpacket
    exact halone twin ((hfind _).symm.trans htwin)
  · have hknown : later.state.hasConn
        (UtpConn.generateUniqueId remoteAddr again.connId (again.connId + 1)) = true := by
      rw [responderId] at hkept
      simp [hasConn, hagain, hkept]
    rw [dispatchPacket, if_pos htype]
    show (ite _ _ _ : Async Socket Unit).detached.run later.state = _
    rw [if_pos hknown]
    rfl
  · intro conn hconn datagram hdatagram
    rw [UtpPacket.getUint16_connId, (World.responder_stamped hconn).sent datagram hdatagram,
      Nat.mod_eq_of_lt hconnId]

end Answer

/-! ## Concrete SYNs -/

/-- A SYN of a peer. -/
def synFrom (connId : Nat) : UtpPacket := { type := .ST_SYN, connId := connId, seqNr := 1 }

theorem responder_routed_iff_sample : HandsTo (peerPacket .ST_DATA) (.localhost 9000) 0
    (answering 7 (synFrom 4) (.localhost 9000) ⟨create .sample, []⟩).state := by
  have hnew : (create .sample).findConn (responderId (.localhost 9000) 4) = none := rfl
  have hkept := (@answering_begins (.localhost 9000) 7 (synFrom 4) ⟨create .sample, []⟩ hnew).2
  have halone : (answering 7 (synFrom 4) (.localhost 9000) ⟨create .sample, []⟩).state.findConn
      (twinId (.localhost 9000) 4) = none := by decide +kernel
  have hiff := (@responder_routed_iff (.localhost 9000) 7 (synFrom 4) ⟨create .sample, []⟩ _ .sample
    (by decide) .refl hnew .refl hkept).2.1
  refine hiff.mpr ⟨by decide, fun twin htwin => ?_⟩ _ _ ⟨nofun, rfl⟩ rfl
  rw [show (synFrom 4).connId = 4 from rfl, halone] at htwin
  cases htwin

/-- The peer's packets after a SYN with the last id carry the id zero, under which the
connection is not looked up. -/
theorem last_id_unrouted : ¬ ∀ (drawn : Fin 65535) (syn : UtpPacket) (remoteAddr : UtpAddr)
    (config later : Config Socket SocketLabel), syn.type = .ST_SYN → syn.connId < 65536 →
    socketSystem.Reachable ⟨create .sample, []⟩ config →
    config.state.findConn (responderId remoteAddr syn.connId) = none →
    socketSystem.Reachable (answering drawn syn remoteAddr config) later →
    later.state.findConn (responderId remoteAddr syn.connId) = some config.state.count →
    ∀ packet, Later syn.connId packet →
      HandsTo packet remoteAddr config.state.count later.state := by
  intro hclaim
  have hnew : (create .sample).findConn (responderId (.localhost 9000) 65535) = none := rfl
  have hkept := (@answering_begins (.localhost 9000) 7 (synFrom 65535) ⟨create .sample, []⟩ hnew).2
  have hanswering : socketSystem.Reachable ⟨create .sample, []⟩
      (answering 7 (synFrom 65535) (.localhost 9000) ⟨create .sample, []⟩) :=
    .step .refl (.launch (.syn 7 (synFrom 65535) (.localhost 9000)) nofun)
  have hack : Later 65535 (laterAck 65535) := ⟨nofun, rfl⟩
  exact not_handsTo_last (reachable_keyed .sample hanswering) hkept hack
    (hclaim 7 (synFrom 65535) (.localhost 9000) _ _ rfl (by decide) .refl hnew .refl hkept _ hack)

end Socket

end Utp
