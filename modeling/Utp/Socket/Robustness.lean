import Utp.Socket.Routing
import Utp.Socket.Table
import Utp.Wire.Grammar

/-! # Datagrams that do no harm

Which byte strings `dispatch` takes without failing, whatever connections there are,
and without taking notice of what is no packet of the protocol.
-/

namespace Utp

namespace UtpPacket

/-- The header is of version 1 and has an assigned type. -/
def HeaderFits (bytes : Bytes) : Prop :=
  ∃ first, getUint8 bytes 0 = .ok first ∧ first % 2 ^ 4 = 1 ∧ first / 2 ^ 4 ≤ 4

/-- The size of a packet. -/
def SizeFits (bytes : Bytes) : Prop :=
  MIN_PACKET_SIZE ≤ bytes.length ∧ bytes.length ≤ MAX_PACKET_SIZE

/-- A packet of the protocol, in full. -/
structure IsUtp (bytes : Bytes) : Prop where
  size : SizeFits bytes
  header : HeaderFits bytes
  chain : WellFormed bytes

/-- What the decoder has read from the header, and the ranges of the fields. -/
structure Read (bytes : Bytes) (packet : UtpPacket) : Prop where
  first : ∃ first, getUint8 bytes 0 = .ok first ∧ first < 256 ∧
    packet.type = .ofNibble (first / 2 ^ 4) ∧ packet.version = first % 2 ^ 4
  connId : getUint16 bytes 2 = .ok packet.connId
  extension_le : packet.extension ≤ 255
  connId_le : packet.connId ≤ 65535
  seqNr_le : packet.seqNr ≤ 65535
  ackNr_le : packet.ackNr ≤ 65535
  timestamp : 0 ≤ packet.timestampMicroseconds
  difference : 0 ≤ packet.timestampDifferenceMicroseconds

theorem read_of_fromBytes {bytes : Bytes} {packet : UtpPacket} (hsize : HEADER_SIZE ≤ bytes.length)
    (hdecodes : fromBytes bytes = .ok packet) : Read bytes packet := by
  obtain ⟨header, hheader, hbytes⟩ := fromBytes_eq hsize
  have hconnId : getUint16 bytes 2 = .ok packet.connId := by
    unfold fromBytes at hdecodes
    obtain ⟨_, -, hdecodes⟩ := bind_eq_ok.mp hdecodes
    obtain ⟨_, -, hdecodes⟩ := bind_eq_ok.mp hdecodes
    obtain ⟨connId, hconnId, hdecodes⟩ := bind_eq_ok.mp hdecodes
    obtain ⟨_, -, hdecodes⟩ := bind_eq_ok.mp hdecodes
    obtain ⟨_, -, hdecodes⟩ := bind_eq_ok.mp hdecodes
    obtain ⟨_, -, hdecodes⟩ := bind_eq_ok.mp hdecodes
    obtain ⟨_, -, hdecodes⟩ := bind_eq_ok.mp hdecodes
    obtain ⟨_, -, hdecodes⟩ := bind_eq_ok.mp hdecodes
    obtain ⟨_, -, hdecodes⟩ := bind_eq_ok.mp hdecodes
    cases hdecodes
    exact hconnId
  rw [hbytes] at hdecodes
  cases hchain : decodeExtensions bytes header.ackNr bytes.length header.extension HEADER_SIZE with
  | error => rw [hchain] at hdecodes; cases hdecodes
  | ok tail =>
      rw [hchain] at hdecodes
      cases hdecodes
      obtain ⟨first, hfirst, htype, hversion⟩ := hheader.first
      exact ⟨⟨first, hfirst, getUint8_lt_256 hfirst, htype, hversion⟩, hconnId,
        Nat.le_of_lt_succ (getUint8_lt_256 hheader.extension), Nat.le_of_lt_succ hheader.connId,
        Nat.le_of_lt_succ hheader.seqNr, Nat.le_of_lt_succ hheader.ackNr, hheader.timestamp,
        hheader.difference⟩

/-- A packet with a fitting header has one of the five types. -/
theorem Read.headerFits_iff {bytes : Bytes} {packet : UtpPacket} (hread : Read bytes packet) :
    HeaderFits bytes ↔ packet.version = 1 ∧ packet.type.toNat ≤ 4 := by
  obtain ⟨first, hfirst, hlt, htype, hversion⟩ := hread.first
  have hnibble : packet.type.toNat = first / 2 ^ 4 := by
    rw [htype]
    exact toNat_ofNibble (by omega)
  rw [hversion, hnibble]
  constructor
  · rintro ⟨other, hother, hfits⟩
    cases hfirst.symm.trans hother
    exact hfits
  · exact fun hfits => ⟨first, hfirst, hfits⟩

/-! ## The validator -/

theorem isPacket_of_size {bytes : Bytes} (hsize : ¬ SizeFits bytes) :
    isPacket bytes = .ok false := by
  unfold SizeFits at hsize
  unfold isPacket
  split
  next => rfl
  next hshort =>
    rw [if_pos (by omega)]

theorem isPacket_of_error {bytes : Bytes} {error : String} (hsize : SizeFits bytes)
    (herror : fromBytes bytes = .error error) : isPacket bytes = .error error := by
  unfold isPacket
  rw [if_neg (Nat.not_lt.mpr hsize.1), if_neg (Nat.not_lt.mpr hsize.2), herror]
  rfl

theorem isPacket_of_ok {bytes : Bytes} {packet : UtpPacket} (hsize : SizeFits bytes)
    (hdecodes : fromBytes bytes = .ok packet) :
    ∃ fits, isPacket bytes = .ok fits ∧ (fits = true ↔ HeaderFits bytes) := by
  have hread := read_of_fromBytes hsize.1 hdecodes
  unfold isPacket
  rw [if_neg (Nat.not_lt.mpr hsize.1), if_neg (Nat.not_lt.mpr hsize.2), hdecodes]
  refine ⟨_, rfl, ?_⟩
  rw [hread.headerFits_iff]
  simp [hread.extension_le, hread.connId_le, hread.seqNr_le, hread.ackNr_le, hread.timestamp,
    hread.difference]

end UtpPacket

namespace Socket

open UtpPacket (IsUtp HeaderFits SizeFits WellFormed Overrun)

variable {drawn : Fin 65535} {udpBytes : Bytes} {remoteUdpAddr : DenoAddr} {socket : Socket}

/-! ## How far a datagram gets -/

theorem run_finished {σ α : Type} (result : Except String α) (state : σ) :
    (Async.finished result : Async σ α).run state = some (state, result) := by
  cases result <;> rfl

/-- A datagram that the validator turns down is ignored. -/
theorem run_dispatch_refused (hrefused : UtpPacket.isPacket udpBytes = .ok false) :
    (dispatch drawn udpBytes remoteUdpAddr).run socket = some (socket, .ok ()) := by
  unfold dispatch
  rw [Async.bind_eq, Async.run_bind, run_finished, hrefused]
  rfl

/-- A failure of the validator is not caught. -/
theorem run_dispatch_error {error : String}
    (herror : UtpPacket.isPacket udpBytes = .error error) :
    (dispatch drawn udpBytes remoteUdpAddr).run socket = some (socket, .error error) := by
  unfold dispatch
  rw [Async.bind_eq, Async.run_bind, run_finished, herror]
  rfl

theorem run_dispatch_decoded {packet : UtpPacket} (hvalid : UtpPacket.isPacket udpBytes = .ok true)
    (hdecodes : UtpPacket.fromBytes udpBytes = .ok packet) :
    (dispatch drawn udpBytes remoteUdpAddr).run socket =
      match UtpAddr.fromDenoAddr remoteUdpAddr with
      | .ok remoteAddr => (dispatchPacket drawn packet remoteAddr).run socket
      | .error error => some (socket, .error error) := by
  unfold dispatch
  rw [Async.bind_eq, Async.run_bind, run_finished, hvalid, Option.bind_some]
  simp only [Bool.not_true, Bool.false_eq_true, if_false, Async.bind_eq, Async.run_bind,
    run_finished, hdecodes, Option.bind_some]
  cases UtpAddr.fromDenoAddr remoteUdpAddr <;> rfl

/-! ## Every decoded packet is handled -/

theorem run_handlePacket_ok (packet : UtpPacket) (targets : List Nat) {socket : Socket}
    (hsend : socket.utp.SendsWhole) :
    ∃ next, (handlePacket packet targets).run socket = some (next, .ok ()) := by
  induction targets generalizing socket with
  | nil => exact ⟨socket, rfl⟩
  | cons id rest ih =>
      by_cases hreset : packet.type = .ST_RESET
      · obtain ⟨world, hworld, hrun⟩ := run_handlePacket_reset hreset id rest socket
        rw [hrun]
        refine ih fun bytes remoteAddr => ?_
        have hudpSend : world.utp.udpSend = socket.utp.udpSend := hworld.udpSend
        show world.utp.udpSend bytes remoteAddr = _
        rw [hudpSend]
        exact hsend bytes remoteAddr
      · obtain ⟨handled, world, hrun, hworld⟩ := World.handleIncomingPacket_completes packet
          (worldOf id socket) hsend (worldOf id socket) rfl
        rw [run_handlePacket hreset, hrun, Option.bind_some]
        cases handled with
        | true => exact ⟨putWorld id socket world, rfl⟩
        | false => exact ih hworld.able

theorem run_dispatchPacket_ok (packet : UtpPacket) (remoteAddr : UtpAddr)
    (hsend : socket.utp.SendsWhole) :
    ∃ next, (dispatchPacket drawn packet remoteAddr).run socket = some (next, .ok ()) := by
  by_cases htype : packet.type = .ST_SYN
  · unfold dispatchPacket
    rw [if_pos htype]
    exact ⟨_, Async.run_detached _ socket⟩
  · rw [run_dispatchPacket htype]
    exact run_handlePacket_ok packet _ hsend

/-! ## Packets that reach a connection -/

/-- The header is that of a SYN for a connection the table does not have, or of another
packet for one that it has. -/
def Reaches (table : OrderedMap String Nat) (udpBytes : Bytes) (remoteAddr : UtpAddr) : Prop :=
  ∃ first connId, UtpPacket.getUint8 udpBytes 0 = .ok first ∧
    UtpPacket.getUint16 udpBytes 2 = .ok connId ∧
      if first / 2 ^ 4 = 4 then
        table.get? (UtpConn.generateUniqueId remoteAddr connId (connId + 1)) = none
      else ∃ sendId ∈ localSendIds connId,
        table.get? (UtpConn.generateUniqueId remoteAddr sendId connId) ≠ none

theorem isSyn_iff {packet : UtpPacket} {first : Nat} (hfirst : first < 256)
    (htype : packet.type = .ofNibble (first / 2 ^ 4)) :
    packet.type = .ST_SYN ↔ first / 2 ^ 4 = 4 := by
  constructor
  · intro hsyn
    have hnibble := UtpPacket.toNat_ofNibble (show first / 2 ^ 4 < 16 by omega)
    rw [← htype, hsyn] at hnibble
    exact hnibble.symm
  · intro hnibble
    rw [htype, hnibble]
    rfl

theorem reaches_iff {packet : UtpPacket} (hread : UtpPacket.Read udpBytes packet)
    (remoteAddr : UtpAddr) : Reaches socket.utp.connTable udpBytes remoteAddr ↔
      if packet.type = .ST_SYN then socket.hasConn
        (UtpConn.generateUniqueId remoteAddr packet.connId (packet.connId + 1)) = false
      else socket.targetConns packet remoteAddr ≠ [] := by
  obtain ⟨first, hfirst, hlt, htype, -⟩ := hread.first
  have hsyn := isSyn_iff hlt htype
  have htargets : socket.targetConns packet remoteAddr ≠ [] ↔
      ∃ sendId ∈ localSendIds packet.connId, socket.utp.connTable.get?
        (UtpConn.generateUniqueId remoteAddr sendId packet.connId) ≠ none := by
    simp only [targetConns, findConn, ne_eq, List.filterMap_eq_nil_iff, not_forall, exists_prop]
  constructor
  · rintro ⟨other, connId, hother, hconnId, hreaches⟩
    cases hfirst.symm.trans hother
    cases hread.connId.symm.trans hconnId
    by_cases hcase : packet.type = .ST_SYN
    · rw [if_pos (hsyn.mp hcase)] at hreaches
      simp [hcase, hasConn, findConn, hreaches]
    · rw [if_neg fun h => hcase (hsyn.mpr h)] at hreaches
      rw [if_neg hcase]
      exact htargets.mpr hreaches
  · intro hreaches
    refine ⟨first, packet.connId, hfirst, hread.connId, ?_⟩
    by_cases hcase : packet.type = .ST_SYN
    · rw [if_pos hcase] at hreaches
      rw [if_pos (hsyn.mp hcase)]
      simpa [hasConn, findConn] using hreaches
    · rw [if_neg hcase] at hreaches
      rw [if_neg fun h => hcase (hsyn.mpr h)]
      exact htargets.mp hreaches

/-- A packet that reaches no connection changes nothing. -/
theorem run_dispatchPacket_lost {packet : UtpPacket} (hread : UtpPacket.Read udpBytes packet)
    {remoteAddr : UtpAddr} (hlost : ¬ Reaches socket.utp.connTable udpBytes remoteAddr) :
    (dispatchPacket drawn packet remoteAddr).run socket = some (socket, .ok ()) := by
  rw [reaches_iff hread] at hlost
  by_cases htype : packet.type = .ST_SYN
  · rw [if_pos htype, Bool.not_eq_false] at hlost
    unfold dispatchPacket
    rw [if_pos htype, Async.run_detached]
    show some ((Async.detached (ite _ _ _ : Async Socket Unit)).turn socket |>.1, _) = _
    rw [if_pos hlost]
    rfl
  · rw [if_neg htype, not_not] at hlost
    rw [run_dispatchPacket htype, hlost]
    rfl

/-! ## Packets that change a connection -/

/-- What every handling of the packet brings about, a connection that was tried has. -/
theorem run_handlePacket_brings {packet : UtpPacket} (brings : UtpConn → Prop)
    (hreset : packet.type = .ST_RESET → ∀ world next : World, world.resetNow.Rests next →
      brings next.conn)
    (hhandle : packet.type ≠ .ST_RESET → ∀ world next result,
      (UtpConn.handleIncomingPacket packet).run world = some (next, result) → brings next.conn)
    {id : Nat} {targets : List Nat} {socket next : Socket} {result : Except String Unit}
    (htried : brings (socket.objects id).conn ∨ ∃ rest, targets = id :: rest)
    (hrun : (handlePacket packet targets).run socket = some (next, result)) :
    brings (next.objects id).conn := by
  induction targets generalizing socket with
  | nil =>
      cases hrun
      exact htried.resolve_right nofun
  | cons target rest ih =>
      have hput : ∀ world : World, brings world.conn → (brings (socket.objects id).conn ∨
          ∃ rest', target :: rest = id :: rest') →
            brings ((putWorld target socket world).objects id).conn := by
        intro world hworld hcase
        by_cases hsame : id = target
        · subst hsame
          rwa [objects_putWorld_self]
        · rw [objects_putWorld_of_ne hsame]
          refine hcase.resolve_right ?_
          rintro ⟨rest', heq⟩
          exact hsame (List.cons.inj heq).1.symm
      by_cases htype : packet.type = .ST_RESET
      · obtain ⟨world, hworld, hstep⟩ := run_handlePacket_reset htype target rest socket
        rw [hstep] at hrun
        exact ih (.inl (hput world (hreset htype _ _ hworld) htried)) hrun
      · rw [run_handlePacket htype] at hrun
        obtain ⟨⟨world, handled⟩, hworld, hstep⟩ := Option.bind_eq_some_iff.mp hrun
        have hbrought := hput world (hhandle htype _ _ _ hworld) htried
        split at hstep
        next =>
          cases hstep
          exact hbrought
        next => exact ih (.inl hbrought) hstep
        next =>
          cases hstep
          exact hbrought

/-- A socket with a given table, all of whose connections are alike. -/
def uniform (table : OrderedMap String Nat) (conn : UtpConn) : Socket where
  utp := { UtpSocket.sample with connTable := table }
  objects id := ⟨id, conn, []⟩
  count := 0

theorem uniform_send (table : OrderedMap String Nat) (conn : UtpConn) :
    (uniform table conn).utp.SendsWhole := fun _ _ => rfl

/-- A connection that a packet of a type changes. -/
def ready (packet : UtpPacket) (remoteAddr : UtpAddr) : UtpConn :=
  match packet.type with
  | .ST_DATA => .create false remoteAddr 0 0 (Seq.add packet.ackNr 1) 0 0
  | .ST_FIN =>
      { UtpConn.create true remoteAddr 0 0 0 (packet.seqNr + 1) 0 with
        localState := .CS_CONNECTED }
  | _ => stockedConn .CS_CONNECTED packet remoteAddr

theorem ready_advances {packet : UtpPacket} {remoteAddr : UtpAddr}
    (htype : packet.type = .ST_DATA ∨ packet.type = .ST_FIN) (hackNr : packet.ackNr ≤ 65535)
    {world : World} (hconn : world.conn = ready packet remoteAddr) :
    World.Advances packet world := by
  rcases htype with hdata | hfin
  · have hready : world.conn = .create false remoteAddr 0 0 (Seq.add packet.ackNr 1) 0 0 := by
      rw [hconn, ready, hdata]
    refine .inl ⟨by rw [hready]; rfl, hdata, ?_⟩
    rw [hready]
    show packet.ackNr = Seq.add (Seq.add packet.ackNr 1) (-1)
    unfold Seq.add
    omega
  · have hready : world.conn = { UtpConn.create true remoteAddr 0 0 0 (packet.seqNr + 1) 0 with
        localState := .CS_CONNECTED } := by
      rw [hconn, ready, hfin]
    refine .inr ⟨by rw [hready], hfin, ?_⟩
    rw [hready]
    simp [UtpConn.isRefused, UtpConn.create]

/-- Data and FINs change the first connection that is tried, if it is ready for them. -/
theorem advances_changes {packet : UtpPacket} {remoteAddr : UtpAddr}
    {table : OrderedMap String Nat} (htype : packet.type = .ST_DATA ∨ packet.type = .ST_FIN)
    (hackNr : packet.ackNr ≤ 65535) {id : Nat} {rest : List Nat} {next : Socket}
    {result : Except String Unit} (hrun : (handlePacket packet (id :: rest)).run
      (uniform table (ready packet remoteAddr)) = some (next, result)) :
    next ≠ uniform table (ready packet remoteAddr) := by
  have hreset : packet.type ≠ .ST_RESET := by
    rcases htype with h | h <;> simp [h]
  obtain ⟨handled, world, hhandle, hconcludes⟩ := World.handleIncomingPacket_completes packet
    (worldOf id (uniform table (ready packet remoteAddr)))
    (uniform_send table (ready packet remoteAddr))
    (worldOf id (uniform table (ready packet remoteAddr))) rfl
  obtain ⟨rfl, hstate⟩ := hconcludes.advances (ready_advances htype hackNr rfl)
  rw [run_handlePacket hreset, hhandle] at hrun
  cases hrun
  intro hsame
  refine hstate ?_
  rw [← objects_putWorld_self id (uniform table (ready packet remoteAddr)) world, hsame]
  rfl

/-- Acknowledgements and resets change the first connection that is tried, if it is ready. -/
theorem touches_changes {packet : UtpPacket} {remoteAddr : UtpAddr}
    {table : OrderedMap String Nat} (htype : packet.type = .ST_STATE ∨ packet.type = .ST_RESET)
    {id : Nat} {rest : List Nat} {next : Socket}
    {result : Except String Unit} (hrun : (handlePacket packet (id :: rest)).run
      (uniform table (ready packet remoteAddr)) = some (next, result)) :
    next ≠ uniform table (ready packet remoteAddr) := by
  have hready : ready packet remoteAddr = stockedConn .CS_CONNECTED packet remoteAddr := by
    unfold ready
    rcases htype with h | h <;> rw [h]
  rw [hready] at hrun ⊢
  rintro rfl
  rcases htype with hack | hreset
  · have hseen := run_handlePacket_brings
      (fun conn => conn.sendWindow.latestSeqReceivedOfOtherSide.isSome = true)
      (fun hreset => by cases hack.symm.trans hreset) (fun _ world later result hhandle => by
        obtain ⟨final, hfinal, hacked⟩ := World.run_handleIncomingPacket_ack hack world
        cases hhandle.symm.trans hfinal
        exact hacked) (.inr ⟨rest, rfl⟩) hrun
    cases hseen
  · refine stockedConn_queue .CS_CONNECTED packet remoteAddr ?_
    exact run_handlePacket_brings (fun conn => conn.recvPacketQueue.items = ∅)
      (fun _ world later hspares => by rw [hspares.recvPacketQueue]; rfl)
      (fun hother => absurd hreset hother) (.inr ⟨rest, rfl⟩) hrun

/-- A SYN for a new connection creates it. -/
theorem syn_changes {packet : UtpPacket} (htype : packet.type = .ST_SYN) {remoteAddr : UtpAddr}
    (hnew : socket.hasConn
      (UtpConn.generateUniqueId remoteAddr packet.connId (packet.connId + 1)) = false)
    {next : Socket} {result : Except String Unit}
    (hrun : (dispatchPacket drawn packet remoteAddr).run socket = some (next, result)) :
    next ≠ socket := by
  have hcreates : socket.count + 1 ≤
      ((acceptSyn drawn packet remoteAddr).detached.turn socket).1.count := by
    show _ ≤ ((Async.detached (ite _ _ _ : Async Socket Unit)).turn socket).1.count
    rw [if_neg (by simp [hnew])]
    let grown := newConn false remoteAddr packet.connId
      (packet.connId + 1) drawn packet.seqNr socket
    have hid : socket.count < grown.count := Nat.lt_succ_self socket.count
    have hmoves := onConn_moves (World.Rests.leavesTable World.waitForConnecting_rests) hid
    exact chain_count_le (Async.turn_chain hmoves.detached).1
  unfold dispatchPacket at hrun
  rw [if_pos htype, Async.run_detached] at hrun
  cases hrun
  intro hsame
  rw [hsame] at hcreates
  omega

/-! ## Safe datagrams -/

/-- `dispatch` does not fail on the datagram, and takes no notice of it unless it is a
packet of the protocol. -/
def Survives (drawn : Fin 65535) (udpBytes : Bytes) (remoteUdpAddr : DenoAddr)
    (socket : Socket) : Prop :=
  ∃ next, (dispatch drawn udpBytes remoteUdpAddr).run socket = some (next, .ok ()) ∧
    (¬ IsUtp udpBytes → next = socket)

/-- The size is not that of a packet; or the chain of extensions does not end inside a
header or in an ill-sized extension, and then: the header is not that of a packet, or the
source is one that `UtpAddr` accepts, and a chain that overruns the datagram reaches
no connection. -/
def Safe (table : OrderedMap String Nat) (udpBytes : Bytes) (remoteUdpAddr : DenoAddr) : Prop :=
  SizeFits udpBytes → (WellFormed udpBytes ∨ Overrun udpBytes) ∧ (HeaderFits udpBytes →
    ∃ remoteAddr, UtpAddr.fromDenoAddr remoteUdpAddr = .ok remoteAddr ∧
      (WellFormed udpBytes ∨ ¬ Reaches table udpBytes remoteAddr))

theorem survives_of_safe (hsend : socket.utp.SendsWhole)
    (hsafe : Safe socket.utp.connTable udpBytes remoteUdpAddr) :
    Survives drawn udpBytes remoteUdpAddr socket := by
  by_cases hsize : SizeFits udpBytes
  · obtain ⟨hchain, hheader⟩ := hsafe hsize
    obtain ⟨packet, hdecodes⟩ := (UtpPacket.fromBytes_accepts hsize.1).mpr hchain
    obtain ⟨fits, hvalid, hfits⟩ := UtpPacket.isPacket_of_ok hsize hdecodes
    cases fits with
    | false => exact ⟨socket, run_dispatch_refused hvalid, fun _ => rfl⟩
    | true =>
        obtain ⟨remoteAddr, hremoteAddr, hcase⟩ := hheader (hfits.mp rfl)
        have hrun := @run_dispatch_decoded drawn udpBytes remoteUdpAddr socket packet hvalid
          hdecodes
        rw [hremoteAddr] at hrun
        rcases hcase with hwell | hlost
        · obtain ⟨next, hnext⟩ := @run_dispatchPacket_ok drawn socket packet remoteAddr hsend
          exact ⟨next, hrun.trans hnext, fun hother => absurd ⟨hsize, hfits.mp rfl, hwell⟩ hother⟩
        · have hread := UtpPacket.read_of_fromBytes hsize.1 hdecodes
          exact ⟨socket, hrun.trans (run_dispatchPacket_lost hread hlost), fun _ => rfl⟩
  · exact ⟨socket, run_dispatch_refused (UtpPacket.isPacket_of_size hsize), fun _ => rfl⟩

/-- A packet that reaches a connection changes some socket with this table. -/
theorem reaches_changes {table : OrderedMap String Nat} {packet : UtpPacket}
    (hread : UtpPacket.Read udpBytes packet) (htype : packet.type.toNat ≤ 4)
    {remoteAddr : UtpAddr} (hreaches : Reaches table udpBytes remoteAddr) {next : Socket}
    {result : Except String Unit} (hrun : (dispatchPacket drawn packet remoteAddr).run
      (uniform table (ready packet remoteAddr)) = some (next, result)) :
    next ≠ uniform table (ready packet remoteAddr) := by
  have hcase := (@reaches_iff udpBytes (uniform table (ready packet remoteAddr)) packet hread
    remoteAddr).mp hreaches
  by_cases hsyn : packet.type = .ST_SYN
  · rw [if_pos hsyn] at hcase
    exact syn_changes hsyn hcase hrun
  · rw [if_neg hsyn] at hcase
    obtain ⟨id, rest, htargets⟩ := List.exists_cons_of_ne_nil hcase
    rw [run_dispatchPacket hsyn, htargets] at hrun
    cases hkind : packet.type with
    | ST_DATA => exact advances_changes (.inl hkind) hread.ackNr_le hrun
    | ST_FIN => exact advances_changes (.inr hkind) hread.ackNr_le hrun
    | ST_STATE => exact touches_changes (.inl hkind) hrun
    | ST_RESET => exact touches_changes (.inr hkind) hrun
    | ST_SYN => exact absurd hkind hsyn
    | reserved code =>
        rw [hkind] at htype
        simp only [UtpPacketType.toNat] at htype
        omega

/-- Whatever the connections under a table are and hold, `dispatch` survives a datagram
and ignores it unless it is a packet, if and only if the datagram is safe for the table. -/
theorem survives_iff (drawn : Fin 65535) (udpBytes : Bytes) (remoteUdpAddr : DenoAddr)
    (table : OrderedMap String Nat) :
    (∀ socket : Socket, socket.utp.connTable = table → socket.utp.SendsWhole →
      Survives drawn udpBytes remoteUdpAddr socket) ↔ Safe table udpBytes remoteUdpAddr := by
  constructor
  · intro hsurvives hsize
    have hany : ∀ conn, Survives drawn udpBytes remoteUdpAddr (uniform table conn) :=
      fun conn => hsurvives _ rfl (uniform_send table conn)
    cases hdecodes : UtpPacket.fromBytes udpBytes with
    | error error =>
        obtain ⟨next, hrun, -⟩ := hany (.create false (.localhost 0) 0 0 0 0 0)
        rw [run_dispatch_error (UtpPacket.isPacket_of_error hsize hdecodes)] at hrun
        cases hrun
    | ok packet =>
        obtain ⟨fits, hvalid, hfits⟩ := UtpPacket.isPacket_of_ok hsize hdecodes
        refine ⟨(UtpPacket.fromBytes_accepts hsize.1).mp ⟨packet, hdecodes⟩, fun hheader => ?_⟩
        obtain rfl := hfits.mpr hheader
        cases hremoteAddr : UtpAddr.fromDenoAddr remoteUdpAddr with
        | error error =>
            obtain ⟨next, hrun, -⟩ := hany (.create false (.localhost 0) 0 0 0 0 0)
            rw [run_dispatch_decoded hvalid hdecodes, hremoteAddr] at hrun
            cases hrun
        | ok remoteAddr =>
            refine ⟨remoteAddr, rfl, ?_⟩
            by_contra hunsafe
            obtain ⟨hill, hreaches⟩ := not_or.mp hunsafe
            obtain ⟨next, hrun, hignored⟩ := hany (ready packet remoteAddr)
            rw [run_dispatch_decoded hvalid hdecodes, hremoteAddr] at hrun
            have hread := UtpPacket.read_of_fromBytes hsize.1 hdecodes
            exact reaches_changes hread (hread.headerFits_iff.mp hheader).2 (not_not.mp hreaches)
              hrun (hignored fun hutp => hill hutp.chain)
  · intro hsafe socket htable hsend
    subst htable
    exact survives_of_safe hsend hsafe

/-! ## Concrete datagrams -/

/-- A header that announces an extension, and nothing behind it. -/
def truncated : Bytes := 0x01 :: 1 :: List.replicate 18 0

/-- The announced extension is read behind the end of the datagram, and the failure ends
the receive loop. -/
theorem truncated_throws : ¬ ∀ (drawn : Fin 65535) (udpBytes : Bytes) (hostname : String)
    (port : Nat) (socket : Socket), Util.isIPv4 hostname = true → port ≤ 65535 →
      socket.utp.SendsWhole → Survives drawn udpBytes (.net hostname port) socket := by
  intro hclaim
  obtain ⟨next, hrun, -⟩ := hclaim 0 truncated "127.0.0.1" 9000 (create .sample)
    (by decide +kernel) (by decide) fun _ _ => rfl
  have hthrows : UtpPacket.isPacket truncated =
      .error "Offset is outside the bounds of the DataView" := by decide +kernel
  rw [run_dispatch_error hthrows] at hrun
  cases hrun

end Socket

end Utp
