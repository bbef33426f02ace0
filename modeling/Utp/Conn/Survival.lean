import Utp.Conn.System
import Utp.Wire.Grammar
import Utp.Wire.Selective

/-! # Packets on the wire

Whether the packets a connection builds come through the codec unharmed. The
length of an extension has one byte, and nothing bounds how far ahead of the
acknowledgement number the reorder queue reaches.
-/

namespace Utp

open Async (Chain)

/-! ## The reach of a selective acknowledgement -/

namespace UtpSelectiveAckExtension

/-- What is known of an extension that the received numbers give. -/
theorem create_spec {localAckNr : Nat} {seqNrs : List Nat} {sack : UtpSelectiveAckExtension}
    (hsack : create localAckNr seqNrs = some sack) :
    sack.base = localAckNr ∧ sack.bitmask.length % 4 = 0 ∧
      (sack.bitmask.length ≤ 252 ↔
        ∀ seqNr ∈ seqNrs, Seq.diff seqNr (Seq.add localAckNr 2) < 2016) := by
  unfold create at hsack
  simp only at hsack
  split at hsack
  next => cases hsack
  next last hlast =>
    cases hsack
    obtain ⟨hmem, hmax⟩ := sortFrom_last hlast
    rw [foldl_markReceived_length, List.length_replicate]
    refine ⟨rfl, bitmaskLength_mod _, bitmaskLength_le.trans
      ⟨fun h seqNr hseqNr => ?_, fun h => ?_⟩⟩
    · exact Nat.lt_of_le_of_lt (hmax seqNr hseqNr) h
    · exact h last hmem

theorem create_eq_none {localAckNr : Nat} {seqNrs : List Nat}
    (hnone : create localAckNr seqNrs = none) : seqNrs = [] := by
  unfold create at hnone
  simp only at hnone
  split at hnone
  next hlast =>
    have hempty : sortFrom (Seq.add localAckNr 2) seqNrs = [] := List.getLast?_eq_none_iff.mp hlast
    have hlength : (sortFrom (Seq.add localAckNr 2) seqNrs).length = seqNrs.length :=
      List.length_insertionSort _ _
    rw [hempty] at hlength
    exact List.length_eq_zero_iff.mp hlength.symm
  next => cases hnone

end UtpSelectiveAckExtension

/-! ## What a packet is on the other side -/

namespace UtpPacket

/-- The packet as it is decoded, apart from its clocks. -/
structure SameOnWire (packet decoded : UtpPacket) : Prop where
  type : decoded.type = packet.type
  connId : decoded.connId = packet.connId
  seqNr : decoded.seqNr = packet.seqNr
  ackNr : decoded.ackNr = packet.ackNr
  windowSize : decoded.windowSize = packet.windowSize
  extensions : decoded.extensions = packet.extensions
  data : decoded.data = packet.data

/-- The packet comes through the codec. -/
def Survives (packet : UtpPacket) : Prop :=
  ∃ decoded, fromBytes packet.toBytes = .ok decoded ∧ packet.SameOnWire decoded

/-- Every decoded extension had its length in one byte. -/
theorem decodeExtensions_length {bytes : Bytes} {ackNr rounds type offset last : Nat}
    {extensions : List Extension}
    (hdecodes : decodeExtensions bytes ackNr rounds type offset = .ok (extensions, last)) :
    ∀ extension ∈ extensions, extension.toBytes.length < 256 := by
  induction rounds generalizing type offset extensions with
  | zero =>
      unfold decodeExtensions at hdecodes
      split at hdecodes
      next =>
        cases hdecodes
        simp
      next => cases hdecodes
  | succ rounds ih =>
      by_cases htype : type = 0
      · subst htype
        rw [decodeExtensions_done] at hdecodes
        cases hdecodes
        simp
      · obtain ⟨next, length, rest, hheader, -, hrest, rfl⟩ :=
          (decodeExtensions_succ_eq_ok htype).mp hdecodes
        have hshort : (slice bytes (offset + EXTENSION_HEADER_SIZE) length).length < 256 := by
          obtain ⟨value, hvalue, hlt⟩ := exists_getUint8 (getUint8_lt hheader.2)
          rw [hheader.2] at hvalue
          cases hvalue
          rw [slice_length]
          omega
        intro extension hextension
        unfold listed at hextension
        split at hextension
        next =>
          rcases List.mem_cons.mp hextension with rfl | hlater
          · exact hshort
          · exact ih hrest extension hlater
        next =>
          rcases List.mem_cons.mp hextension with rfl | hlater
          · exact hshort
          · exact ih hrest extension hlater
        next => exact ih hrest extension hextension

theorem Survives.length_lt {packet : UtpPacket} (hsurvives : packet.Survives) :
    ∀ extension ∈ packet.extensions, extension.toBytes.length < 256 := by
  obtain ⟨decoded, hdecoded, hsame⟩ := hsurvives
  have hheader : HEADER_SIZE ≤ packet.toBytes.length := by
    rw [toBytes_length, length]
    exact Nat.le_add_right _ _
  obtain ⟨header, -, hbytes⟩ := fromBytes_eq hheader
  rw [hbytes] at hdecoded
  cases hdecodes : decodeExtensions packet.toBytes header.ackNr packet.toBytes.length
      header.extension HEADER_SIZE with
  | error => rw [hdecodes] at hdecoded; cases hdecoded
  | ok tail =>
      rw [hdecodes] at hdecoded
      cases hdecoded
      rw [← hsame.extensions]
      exact decodeExtensions_length hdecodes

/-- A packet whose fields fit, with extensions that fit, comes through. -/
theorem survives_of_fits {packet : UtpPacket} (hversion : packet.version < 16)
    (hconnId : packet.connId < 65536) (hseqNr : packet.seqNr < 65536)
    (hackNr : packet.ackNr < 65536) (hwindow : packet.windowSize < 2 ^ 32)
    (hannounced : packet.extension = announced packet.extensions)
    (hfits : ∀ extension ∈ packet.extensions, ExtensionFits packet.ackNr extension)
    (hdata : packet.data ≠ some []) : packet.Survives := by
  have hannounced' : packet.extension % 256 = announced packet.extensions := by
    rw [hannounced, Nat.mod_eq_of_lt (announced_lt packet.extensions)]
  have hfits' := hfits
  rw [← Nat.mod_eq_of_lt hackNr] at hfits'
  exact ⟨packet.narrow, fromBytes_toBytes packet hversion hannounced' hfits' hdata, rfl,
    Nat.mod_eq_of_lt hconnId, Nat.mod_eq_of_lt hseqNr, Nat.mod_eq_of_lt hackNr,
    Nat.mod_eq_of_lt hwindow, rfl, rfl⟩

end UtpPacket

/-! ## The packets of a connection -/

namespace UtpConn

/-- Every packet that the connection may build now comes through the codec. Only an
initiator builds a SYN. -/
structure PacketsSurvive (conn : UtpConn) : Prop where
  syn : ∀ now, conn.isInitiator = true → (UtpPacket.createSynPacket conn now).Survives
  ack : ∀ now, (UtpPacket.createAckPacket conn now
    (UtpSelectiveAckExtension.createFromConn conn)).Survives
  data : ∀ now data, data ≠ [] → (UtpPacket.createDataPacket conn now data).Survives
  fin : ∀ now, (UtpPacket.createFinPacket conn now).Survives
  reset : ∀ now, (UtpPacket.createResetPacket conn now).Survives

/-- The ids and counters are in the ranges of their fields. -/
structure Ranged (conn : UtpConn) : Prop where
  localRecvId : conn.isInitiator = true → conn.localRecvId < 65536
  localSendId : conn.localSendId < 65536
  localSeqNr : conn.localSeqNr < 65536
  localAckNr : conn.localAckNr < 65536
  maxBytes : conn.recvBuffer.maxBytes < 2 ^ 32

theorem Ranged.windowSize {conn : UtpConn} (hranged : conn.Ranged) :
    conn.getIncomingBufferLeftBytes < 2 ^ 32 :=
  Nat.lt_of_le_of_lt (Nat.sub_le _ _) hranged.maxBytes

/-- An acknowledgement comes through if and only if its bitmask is short. -/
theorem Ranged.ack_survives_iff {conn : UtpConn} (hranged : conn.Ranged) (now : Nat) :
    (UtpPacket.createAckPacket conn now
      (UtpSelectiveAckExtension.createFromConn conn)).Survives ↔
        ∀ key ∈ conn.recvPacketQueue.items.keys,
          Seq.diff key (Seq.add conn.localAckNr 2) < 2016 := by
  have hkeys : (∀ key ∈ conn.recvPacketQueue.items.keys,
      Seq.diff key (Seq.add conn.localAckNr 2) < 2016) ↔
        ∀ key ∈ conn.recvPacketQueue.keys, Seq.diff key (Seq.add conn.localAckNr 2) < 2016 := by
    simp only [CircularQueue.mem_keys]
  rw [hkeys]
  cases hsack : UtpSelectiveAckExtension.createFromConn conn with
  | none =>
      rw [UtpSelectiveAckExtension.create_eq_none hsack]
      exact ⟨fun _ => nofun, fun _ => UtpPacket.survives_of_fits (show 1 < 16 by decide)
        hranged.localSendId hranged.localSeqNr hranged.localAckNr hranged.windowSize rfl
          nofun nofun⟩
  | some sack =>
      obtain ⟨hbase, hgroups, hshort⟩ := UtpSelectiveAckExtension.create_spec hsack
      rw [← hshort]
      constructor
      · intro hsurvives
        have hlength : sack.bitmask.length < 256 :=
          hsurvives.length_lt (.selectiveAck sack) List.mem_cons_self
        omega
      · intro hlength
        refine UtpPacket.survives_of_fits (show 1 < 16 by decide) hranged.localSendId
          hranged.localSeqNr hranged.localAckNr hranged.windowSize rfl ?_ nofun
        intro extension hextension
        rw [List.mem_singleton.mp hextension]
        exact ⟨hbase, hgroups, hlength⟩

theorem Ranged.packetsSurvive_iff {conn : UtpConn} (hranged : conn.Ranged) :
    conn.PacketsSurvive ↔ ∀ key ∈ conn.recvPacketQueue.items.keys,
      Seq.diff key (Seq.add conn.localAckNr 2) < 2016 := by
  refine ⟨fun hsurvive => (hranged.ack_survives_iff 0).mp (hsurvive.ack 0), fun hnear => ?_⟩
  have hversion : 1 < 16 := by decide
  refine ⟨fun now hinitiator => ?_, fun now => (hranged.ack_survives_iff now).mpr hnear,
    fun now data hdata => ?_, fun now => ?_, fun now => ?_⟩
  · refine UtpPacket.survives_of_fits hversion (hranged.localRecvId hinitiator) hranged.localSeqNr
      (Nat.zero_lt_succ _) (Nat.two_pow_pos 32) rfl ?_ nofun
    intro extension hextension
    rw [List.mem_singleton.mp hextension]
    rfl
  · exact UtpPacket.survives_of_fits hversion hranged.localSendId hranged.localSeqNr
      hranged.localAckNr hranged.windowSize rfl nofun fun h => hdata (Option.some.inj h)
  · exact UtpPacket.survives_of_fits hversion hranged.localSendId hranged.localSeqNr
      hranged.localAckNr hranged.windowSize rfl nofun nofun
  · exact UtpPacket.survives_of_fits hversion hranged.localSendId hranged.localSeqNr
      hranged.localAckNr (Nat.two_pow_pos 32) rfl nofun nofun

end UtpConn

/-! ## In every run -/

theorem BlockingBuffer.ReadMove.maxBytes {self next : BlockingBuffer}
    (hmove : self.ReadMove next) : next.maxBytes = self.maxBytes := by
  cases hmove <;> rfl

@[simp] theorem BlockingBuffer.drain_maxBytes (self : BlockingBuffer) :
    self.drain.maxBytes = self.maxBytes := by
  unfold drain
  split
  next => rfl
  next => split <;> rfl

namespace World

variable {labels : Label → Prop} {admits : World → UtpPacket → Prop} {first : Nat}

/-- The ids stay as they were drawn, and the numbers stay in range. -/
structure Steady (isInitiator : Bool) (sendId recvId : Nat) (world : World) : Prop where
  isInitiator : world.conn.isInitiator = isInitiator
  localSendId : world.conn.localSendId = sendId
  localRecvId : world.conn.localRecvId = recvId
  localAckNr : world.conn.localAckNr < 65536
  maxBytes : world.conn.recvBuffer.maxBytes = 256 * 1024

theorem Act.steady {receiving closing writing isInitiator : Bool} {sendId recvId : Nat}
    {world next : World} (hsteady : world.Steady isInitiator sendId recvId)
    (hact : Act receiving closing writing world next) : next.Steady isInitiator sendId recvId := by
  obtain ⟨hinitiator, hsendId, hrecvId, hackNr, hmaxBytes⟩ := hsteady
  have hmod : ∀ number, number % 65536 < 65536 := fun _ => Nat.mod_lt _ (by decide)
  cases hact with
  | env henv =>
      rw [← henv.conn] at hinitiator hsendId hrecvId hackNr hmaxBytes
      exact ⟨hinitiator, hsendId, hrecvId, hackNr, hmaxBytes⟩
  | readBuffer buffer hmove =>
      exact ⟨hinitiator, hsendId, hrecvId, hackNr, hmove.maxBytes.trans hmaxBytes⟩
  | forceClose =>
      exact ⟨hinitiator, hsendId, hrecvId, hackNr,
        (BlockingBuffer.drain_maxBytes _).trans hmaxBytes⟩
  | drain =>
      exact ⟨hinitiator, hsendId, hrecvId, hackNr,
        (BlockingBuffer.drain_maxBytes _).trans hmaxBytes⟩
  | acceptHandshake => exact ⟨hinitiator, hsendId, hrecvId, hmod _, hmaxBytes⟩
  | acceptFirstData => exact ⟨hinitiator, hsendId, hrecvId, hmod _, hmaxBytes⟩
  | advanceTo => exact ⟨hinitiator, hsendId, hrecvId, hmod _, hmaxBytes⟩
  | _ => exact ⟨hinitiator, hsendId, hrecvId, hackNr, hmaxBytes⟩

theorem connectTo_steady (self : Nat) (utp : UtpSocket) (isInitiator : Bool)
    (remoteAddr : UtpAddr) (sendId recvId seqNr ackNr : Nat) (hseqNr : seqNr < 65536)
    (hackNr : ackNr < 65536) :
    (connectTo self utp isInitiator remoteAddr sendId recvId seqNr ackNr).state.Steady
      isInitiator sendId recvId := by
  have hchain := (connectTo_acts self utp isInitiator remoteAddr sendId recvId seqNr ackNr
    hseqNr).1
  refine hchain.preserves (fun _ _ hsteady hact => hact.steady hsteady) ?_
  cases isInitiator <;> exact ⟨rfl, rfl, rfl, hackNr, rfl⟩

theorem ranged_of_reachable {self : Nat} {utp : UtpSocket} {isInitiator : Bool}
    {remoteAddr : UtpAddr} {sendId recvId seqNr ackNr : Nat} (hsendId : sendId < 65536)
    (hrecvId : isInitiator = true → recvId < 65536) (hseqNr : seqNr < 65536)
    (hackNr : ackNr < 65536) {config : Async.Config World Label}
    (hrun : (connSystem labels admits).Reachable
      (connectTo self utp isInitiator remoteAddr sendId recvId seqNr ackNr) config) :
    config.state.conn.Ranged := by
  obtain ⟨hchain, hmoving⟩ := connSystem_acts.reachable
    (connectTo_moving self utp isInitiator remoteAddr sendId recvId seqNr ackNr hseqNr) hrun
  have hsteady := hchain.preserves (fun _ _ hsteady hact => hact.steady hsteady)
    (connectTo_steady self utp isInitiator remoteAddr sendId recvId seqNr ackNr hseqNr hackNr)
  refine ⟨fun hinitiator => ?_, ?_, ?_, hsteady.localAckNr, ?_⟩
  · rw [hsteady.localRecvId]
    exact hrecvId (hsteady.isInitiator.symm.trans hinitiator)
  · rw [hsteady.localSendId]
    exact hsendId
  · rw [hmoving.inv.localSeqNr]
    exact Nat.mod_lt _ (by decide)
  · rw [hsteady.maxBytes]
    decide

/-- In every state of every run, the packets that the connection may build come through
the codec, if and only if no queued number lies 2016 or more behind the first number of
the bitmask. -/
theorem packets_survive_iff {self : Nat} {utp : UtpSocket} {isInitiator : Bool}
    {remoteAddr : UtpAddr} {sendId recvId seqNr ackNr : Nat} (hsendId : sendId < 65536)
    (hrecvId : isInitiator = true → recvId < 65536) (hseqNr : seqNr < 65536)
    (hackNr : ackNr < 65536) {config : Async.Config World Label}
    (hrun : (connSystem anyLabel anyPacket).Reachable
      (connectTo self utp isInitiator remoteAddr sendId recvId seqNr ackNr) config) :
    config.state.conn.PacketsSurvive ↔ ∀ key ∈ config.state.conn.recvPacketQueue.items.keys,
      Seq.diff key (Seq.add config.state.conn.localAckNr 2) < 2016 :=
  (ranged_of_reachable hsendId hrecvId hseqNr hackNr hrun).packetsSurvive_iff

/-- A packet far ahead of the first one, whose number is 100. -/
def farPacket : UtpPacket :=
  { type := .ST_DATA, connId := 1, seqNr := 101 + 2016, data := some [65] }

/-- The packet has come to an initiator. -/
def receivedFar : Async.Config World Label :=
  ((established 0 .sample (.localhost 9000) 1 100).launch .receive
    (Async.discard (UtpConn.handleIncomingPacket farPacket))).resumes [0, 0, 0, 0, 0, 0]

theorem receivedFar_reachable : (connSystem anyLabel anyPacket).Reachable
    (connectTo 0 .sample true (.localhost 9000) 2 1 1 0) receivedFar :=
  (sample_receiving farPacket).resumes _

/-- A packet shortly ahead has come. -/
def receivedAhead : Async.Config World Label :=
  ((established 0 .sample (.localhost 9000) 1 100).launch .receive
    (Async.discard (UtpConn.handleIncomingPacket
      { type := .ST_DATA, connId := 1, seqNr := 105, data := some [65] }))).resumes
    [0, 0, 0, 0, 0, 0]

/-- It is reported with every acknowledgement from then on. -/
theorem packets_survive_iff_sample :
    receivedAhead.state.conn.recvPacketQueue.items.keys = [105] ∧
      receivedAhead.state.conn.PacketsSurvive := by
  have hkeys : receivedAhead.state.conn.recvPacketQueue.items.keys = [105] := by decide +kernel
  have hbits : Seq.diff 105 (Seq.add receivedAhead.state.conn.localAckNr 2) < 2016 := by
    decide +kernel
  have hrun : (connSystem anyLabel anyPacket).Reachable
      (connectTo 0 .sample true (.localhost 9000) 2 1 1 0) receivedAhead :=
    (sample_receiving _).resumes _
  have hsurvive := packets_survive_iff (by decide) (fun _ => by decide) (by decide) (by decide) hrun
  refine ⟨hkeys, hsurvive.mpr fun key hkey => ?_⟩
  rw [hkeys, List.mem_singleton] at hkey
  rwa [hkey]

/-- The bitmask then has 256 bytes, and its length byte says 0. -/
theorem far_packet_breaks_ack :
    ¬ ∀ config, (connSystem anyLabel anyPacket).Reachable
        (connectTo 0 .sample true (.localhost 9000) 2 1 1 0) config →
      config.state.conn.PacketsSurvive := by
  intro hclaim
  have hshort := ((hclaim _ receivedFar_reachable).ack 0).length_lt
  have hlong : (UtpPacket.createAckPacket receivedFar.state.conn 0
      (UtpSelectiveAckExtension.createFromConn receivedFar.state.conn)).extensions.any
        (fun extension => decide (256 ≤ extension.toBytes.length)) = true := by decide +kernel
  obtain ⟨extension, hextension, hlength⟩ := List.any_eq_true.mp hlong
  exact absurd (hshort extension hextension) (Nat.not_lt.mpr (of_decide_eq_true hlength))

end World

end Utp
