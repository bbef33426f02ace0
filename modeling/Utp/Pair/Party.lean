import Utp.Conn.Effects
import Utp.Conn.Speech

/-! # One end of a connection

A connection with its tasks, on a socket that is closed only when it has no connections
left. Whatever packets are handed to it, what it builds and sends has a fixed shape.
-/

namespace Utp

open Async (Chain Config TaskSystem)

namespace World

/-- The connection is in the table of its socket. -/
def Listed (world : World) : Prop :=
  world.utp.connTable.get? world.conn.uniqueId = some world.self

instance (world : World) : Decidable world.Listed :=
  inferInstanceAs (Decidable (world.utp.connTable.get? world.conn.uniqueId = some world.self))

/-- What the rest of the process may do to the socket: as `Environment`, but a socket is
closed only when it has no connections left, stays closed then, and no connection enters
the table a second time. -/
structure Runtime (world next : World) : Prop extends world.Environment next where
  self : next.self = world.self
  closed : world.utp.state = .CLOSED → next.utp.state = .CLOSED
  closes : next.utp.state = .CLOSED → next.Listed → world.utp.state = .CLOSED
  enters : next.Listed → world.Listed

end World

/-- A connection to which only packets in `heard` are handed. -/
def partySystem (labels : Label → Prop) (heard : World → UtpPacket → Prop) :
    TaskSystem World Label where
  spawn world label task := labels label ∧ Spawns heard world label task
  env := World.Runtime
  exclusive label := label = .receive

namespace World

variable {first sendId : Nat} {syn : UtpPacket}

/-- A data or FIN packet as it is built. -/
structure Shaped (sendId : Nat) (packet : UtpPacket) : Prop where
  reliable : packet.isReliable = true
  version : packet.version = 1
  extension : packet.extension = 0
  extensions : packet.extensions = []
  connId : packet.connId = sendId
  data : packet.type = .ST_DATA → ∃ chunk, packet.data = some chunk ∧ 0 < chunk.length ∧
    chunk.length ≤ UtpConn.chunkSize

/-- What holds of all that the connection has built and sent. -/
structure Recorded (first sendId : Nat) (syn : UtpPacket) (world : World) : Prop where
  tracked : world.Tracked first
  localSendId : world.conn.localSendId = sendId
  shaped : ∀ packet ∈ world.conn.created, Shaped sendId packet
  said : ∀ datagram ∈ world.utp.sent, datagram.packet.isReliable = false →
    Spoken syn datagram.packet
  fins : world.conn.created.filter (fun packet => packet.type = .ST_FIN) =
    world.conn.localFinPacket.toList

/-- A closed socket does not have the connection in its table. -/
def Emptied (world : World) : Prop := world.utp.state = .CLOSED → ¬ world.Listed

/-- A write of the connection's code or of the runtime. -/
def Word (syn : UtpPacket) (world next : World) : Prop :=
  Act true true true world next ∧
    (Speaks syn true world next ∧ world.Leaves next ∨ world.Runtime next)

theorem shaped_data (world : World) {chunk : Bytes} (hpos : 0 < chunk.length)
    (hfits : chunk.length ≤ UtpConn.chunkSize) :
    Shaped world.conn.localSendId (world.dataPacket chunk) :=
  ⟨rfl, rfl, rfl, rfl, rfl, fun _ => ⟨chunk, rfl, hpos, hfits⟩⟩

theorem shaped_fin (world : World) : Shaped world.conn.localSendId world.finPacket :=
  ⟨rfl, rfl, rfl, rfl, rfl, nofun⟩

/-- A write sends nothing or one packet. -/
theorem Act.sent {receiving closing writing : Bool} {world next : World}
    (hact : Act receiving closing writing world next) :
    next.utp.sent = world.utp.sent ∨ ∃ datagram, next.utp.sent = world.utp.sent ++ [datagram] ∧
      world.Transmits datagram.calledIn datagram.packet := by
  cases hact with
  | transmit calledIn packet remoteAddr htransmits => exact .inr ⟨_, rfl, htransmits⟩
  | env henv => exact .inl henv.sent
  | _ => exact .inl rfl

/-- What is sent again has been built. -/
theorem Recorded.resent {world next : World} (hworld : world.Recorded first sendId syn)
    (hact : Act true true true world next) {datagram : Datagram}
    (hsent : next.utp.sent = world.utp.sent ++ [datagram]) (hagain : datagram.calledIn = none) :
    datagram.packet.isReliable = true := by
  rcases hact.sent with hsame | ⟨other, hother, htransmits⟩
  · have hlength := congrArg List.length (hsame.symm.trans hsent)
    simp at hlength
  · obtain rfl : datagram = other := by simpa using hsent.symm.trans hother
    obtain ⟨seqNr, info, hget, hpacket⟩ := htransmits.resent hagain
    have howns := (hworld.tracked.window.present (seqNr, info) (OrderedMap.get?_eq_some.mp hget)).1
    exact hpacket ▸ howns.1

theorem Recorded.utter {world next : World} (hworld : world.Recorded first sendId syn)
    (hact : Act true true true world next) (hutters : Utters syn world next)
    (hleaves : world.Leaves next) : next.Recorded first sendId syn where
  tracked := hact.tracked hworld.tracked
  localSendId := hleaves.localSendId.trans hworld.localSendId
  shaped := by
    rw [hutters.created]
    exact hworld.shaped
  said datagram hdatagram hreliable := by
    rcases hutters.sent with hsame | ⟨other, hmore, hother⟩
    · exact hworld.said datagram (hsame ▸ hdatagram) hreliable
    · rw [hmore, List.mem_append, List.mem_singleton] at hdatagram
      rcases hdatagram with hold | rfl
      · exact hworld.said datagram hold hreliable
      · rcases hother with hagain | hspoken
        · rw [hworld.resent hact hmore hagain] at hreliable
          cases hreliable
        · exact hspoken
  fins := by
    rw [hutters.created, hutters.localFinPacket]
    exact hworld.fins

theorem Recorded.word {world next : World} (hworld : world.Recorded first sendId syn)
    (hword : Word syn world next) : next.Recorded first sendId syn := by
  obtain ⟨hact, ⟨hspeaks, hleaves⟩ | hruntime⟩ := hword
  · cases hspeaks with
    | utter hutters => exact hworld.utter hact hutters hleaves
    | data chunk hpos hfits =>
        refine ⟨hact.tracked hworld.tracked, hworld.localSendId, fun packet hpacket => ?_,
          hworld.said, ?_⟩
        · rcases List.mem_append.mp hpacket with hold | hnew
          · exact hworld.shaped packet hold
          · rw [List.mem_singleton.mp hnew, ← hworld.localSendId]
            exact shaped_data world hpos hfits
        · have hfins := hworld.fins
          simp only [consumeSeqNr, onConn, UtpConn.consumeSeqNr, List.filter_append, hfins]
          exact List.append_nil _
    | fin hfirst _ =>
        refine ⟨hact.tracked hworld.tracked, hworld.localSendId, fun packet hpacket => ?_,
          hworld.said, ?_⟩
        · rcases List.mem_append.mp hpacket with hold | hnew
          · exact hworld.shaped packet hold
          · rw [List.mem_singleton.mp hnew, ← hworld.localSendId]
            exact shaped_fin world
        · have hfins := hworld.fins
          rw [hfirst] at hfins
          simp only [takeFin, consumeSeqNr, onConn, UtpConn.consumeSeqNr, List.filter_append, hfins]
          rfl
  · have hconn := hruntime.conn
    refine ⟨hact.tracked hworld.tracked, ?_, ?_, ?_, ?_⟩
    · rw [hconn]
      exact hworld.localSendId
    · rw [hconn]
      exact hworld.shaped
    · rw [hruntime.sent]
      exact hworld.said
    · rw [hconn]
      exact hworld.fins

theorem Speaks.state {fins : Bool} {world next : World} (hspeaks : Speaks syn fins world next) :
    next.utp.state = world.utp.state := by
  cases hspeaks with
  | utter hutters => exact hutters.state
  | data => rfl
  | fin => rfl

/-- Once out of the table, the connection stays out. -/
theorem Word.listed {world next : World} (hword : Word syn world next) (hlisted : next.Listed) :
    world.Listed := by
  obtain ⟨-, ⟨-, hleaves⟩ | hruntime⟩ := hword
  · unfold Listed at hlisted
    rw [hleaves.self, hleaves.uniqueId] at hlisted
    rcases hleaves.connTable with hsame | hends
    · rwa [hsame] at hlisted
    · rw [hends.connTable, OrderedMap.get?_erase, if_pos rfl] at hlisted
      cases hlisted
  · exact hruntime.enters hlisted

theorem Word.emptied {world next : World} (hword : Word syn world next) (hworld : world.Emptied) :
    next.Emptied := by
  intro hstate hlisted
  have hbefore := hword.listed hlisted
  obtain ⟨-, ⟨hspeaks, -⟩ | hruntime⟩ := hword
  · exact hworld (hspeaks.state.symm.trans hstate) hbefore
  · exact hworld (hruntime.closes hstate hlisted) hbefore

/-! ## Every run is a chain of words -/

theorem acts_of_words {world later : World} (hchain : Chain (Word syn) world later) :
    Chain (Act true true true) world later :=
  hchain.lift id fun _ _ hword => hword.1

/-- Acts that speak are words. -/
theorem moves_words {task : ConnM Unit} {world : World}
    (hacts : task.Moves (Chain (Act true true true)) (Act true true true) (fun _ _ => True) world)
    (hspeaks : Speaking syn true task) (hleaves : LeavesTable task) :
    task.Moves (Chain (Word syn)) (Word syn) (fun _ _ => True) world :=
  ((hacts.and (hspeaks world)).and (hleaves world)).mono (fun _ _ => acts_of_words)
    (fun _ _ hmove => ⟨hmove.1.1, .inl ⟨hmove.1.2, hmove.2⟩⟩) fun _ _ => id

theorem partySystem_words (labels : Label → Prop) (heard : World → UtpPacket → Prop) :
    (partySystem labels heard).MovesBy (Word syn) (Recorded first sendId syn) where
  preserves _ _ := Recorded.word
  spawn _ _ _ hworld hspawn :=
    moves_words (spawns_acts hworld.tracked hspawn.2 (fun _ => rfl) (fun _ => rfl) fun _ => rfl)
      (spawns_speaking hspawn.2) (EndsFor.leavesTable (spawns_ends hspawn.2))
  env _ _ _ hruntime := ⟨.env hruntime.toEnvironment, .inr hruntime⟩

/-! ## From the first packet on -/

/-- Whose connection it is, and what it was created with. -/
structure Wired (object : Nat) (role : Bool) (peer : UtpAddr) (sendId recvId : Nat)
    (world : World) : Prop where
  itself : world.self = object
  isInitiator : world.conn.isInitiator = role
  remoteAddr : world.conn.remoteAddr = peer
  localSendId : world.conn.localSendId = sendId
  localRecvId : world.conn.localRecvId = recvId

section Start

variable {self : Nat} {utp : UtpSocket} {isInitiator : Bool} {remoteAddr : UtpAddr}
  {recvId seqNr ackNr : Nat} {heard : World → UtpPacket → Prop} {config : Config World Label}

theorem Word.wired {world next : World} (hword : Word syn world next)
    (hworld : Wired self isInitiator remoteAddr sendId recvId world) :
    Wired self isInitiator remoteAddr sendId recvId next := by
  have hrole := hword.1.grows.initiator.trans hworld.isInitiator
  obtain ⟨-, ⟨-, hleaves⟩ | hruntime⟩ := hword
  · exact ⟨hleaves.self.trans hworld.itself, hrole, hleaves.remoteAddr.trans hworld.remoteAddr,
      hleaves.localSendId.trans hworld.localSendId, hleaves.localRecvId.trans hworld.localRecvId⟩
  · refine ⟨hruntime.self.trans hworld.itself, hrole, ?_, ?_, ?_⟩
    all_goals rw [hruntime.conn]
    · exact hworld.remoteAddr
    · exact hworld.localSendId
    · exact hworld.localRecvId

/-- The SYN of a new connection. -/
def synOf (self : Nat) (utp : UtpSocket) (isInitiator : Bool) (remoteAddr : UtpAddr)
    (sendId recvId seqNr ackNr : Nat) : UtpPacket :=
  let created := create self utp isInitiator remoteAddr sendId recvId seqNr ackNr
  .createSynPacket created.conn created.utp.currentMicroseconds

theorem begun_recorded (hseqNr : seqNr < 65536) :
    Recorded (firstSeqNr isInitiator seqNr) sendId syn
      (begun self utp isInitiator remoteAddr sendId recvId seqNr ackNr) := by
  have htracked := create_tracked self utp isInitiator remoteAddr sendId recvId seqNr ackNr hseqNr
  have hcreated : (begun self utp isInitiator remoteAddr sendId recvId seqNr ackNr).conn.created =
      [] := by
    cases isInitiator <;> rfl
  have hsent : (begun self utp isInitiator remoteAddr sendId recvId seqNr ackNr).utp.sent = [] := by
    cases isInitiator <;> rfl
  constructor
  · cases isInitiator with
    | true =>
        rw [begun_initiator, firstSeqNr_initiator]
        exact htracked.takeSyn rfl rfl
    | false =>
        rw [begun_responder, firstSeqNr_responder]
        exact htracked
  · cases isInitiator <;> rfl
  · simp [hcreated]
  · simp [hsent]
  · rw [hcreated]
    cases isInitiator <;> rfl

theorem connectTo_words (hseqNr : seqNr < 65536) :
    Chain (Word (synOf self utp isInitiator remoteAddr sendId recvId seqNr ackNr))
        (begun self utp isInitiator remoteAddr sendId recvId seqNr ackNr)
        (connectTo self utp isInitiator remoteAddr sendId recvId seqNr ackNr).state ∧
      (connectTo self utp isInitiator remoteAddr sendId recvId seqNr ackNr).Moving
        (Word (synOf self utp isInitiator remoteAddr sendId recvId seqNr ackNr))
        (Recorded (firstSeqNr isInitiator seqNr) sendId
          (synOf self utp isInitiator remoteAddr sendId recvId seqNr ackNr)) := by
  generalize hsyn : synOf self utp isInitiator remoteAddr sendId recvId seqNr ackNr = syn
  have hbegun := @begun_recorded sendId syn self utp isInitiator remoteAddr recvId seqNr
    ackNr hseqNr
  have hstart : Config.Moving (Word syn) (Recorded (firstSeqNr isInitiator seqNr) sendId syn)
      (⟨begun self utp isInitiator remoteAddr sendId recvId seqNr ackNr, []⟩ :
        Config World Label) :=
    .start hbegun
  have hpreserves : ∀ world next : World,
      Recorded (firstSeqNr isInitiator seqNr) sendId syn world → Word syn world next →
        Recorded (firstSeqNr isInitiator seqNr) sendId syn next := fun _ _ => Recorded.word
  have hpacket : ∀ {packet : UtpPacket}, Spoken syn packet →
      Speaking syn true (UtpConn.sendHandshake packet) :=
    fun hspoken => Uttering.speaking (sendHandshake_uttering hspoken)
  cases isInitiator with
  | true =>
      have hspoken : Spoken syn (synOf self utp true remoteAddr sendId recvId seqNr ackNr) :=
        ⟨rfl, fun _ => hsyn⟩
      rw [connectTo_initiator]
      exact hstart.launch hpreserves (moves_words (sendHandshake_acts hbegun.tracked
        (sendable_syn _ _ _) nofun) (hpacket hspoken) (Rests.leavesTable (sendHandshake_rests _)))
        Label.connect
  | false =>
      rw [connectTo_responder]
      exact hstart.launch hpreserves (moves_words (sendHandshake_acts hbegun.tracked
        (sendable_synAck rfl) nofun) (hpacket ⟨rfl, nofun⟩)
        (Rests.leavesTable (sendHandshake_rests _))) Label.connect

end Start

/-! ## No FIN is kept back -/

theorem waitForConnecting_paid : UtpConn.waitForConnecting.Upholds Paid := by
  have hresolved : (Async.modify fun world : World => world.setConnecting .resolved).Upholds Paid :=
    fun _ hpaid _ => hpaid
  have htakeSyn : (Async.modify takeSyn).Upholds Paid := fun _ hpaid _ => hpaid
  have hhandshake : ∀ packet : UtpPacket, packet.version = 1 →
      (UtpConn.sendHandshake packet).Upholds Paid := fun packet hversion =>
    Uttering.paid (@sendHandshake_uttering packet packet ⟨hversion, fun _ => rfl⟩)
  refine .read fun world hpaid => Async.Upholds.ite hresolved (.ite ?_ ?_) world hpaid
  · exact htakeSyn.bind fun _ => hhandshake _ rfl
  · exact hhandshake _ rfl

theorem partySystem_paid (labels : Label → Prop) (heard : World → UtpPacket → Prop) :
    (Async.turns Paid).Sound (partySystem labels heard) := by
  refine Async.turns_sound (fun world label task hpaid hspawn => ?_)
    fun world next hpaid hruntime => ?_
  · exact spawns_paid world.ackPacket hspawn.2 world hpaid
  · unfold Paid
    rw [hruntime.conn, hruntime.sent]
    exact hpaid.imp_left hruntime.closed

/-! ## Every run -/

section Run

variable {self : Nat} {utp : UtpSocket} {isInitiator : Bool} {remoteAddr : UtpAddr}
  {recvId seqNr ackNr : Nat} {labels : Label → Prop} {heard : World → UtpPacket → Prop}
  {config : Config World Label}

theorem begun_wired : Wired self isInitiator remoteAddr sendId recvId
    (begun self utp isInitiator remoteAddr sendId recvId seqNr ackNr) := by
  cases isInitiator <;> exact ⟨rfl, rfl, rfl, rfl, rfl⟩

theorem begun_state : (begun self utp isInitiator remoteAddr sendId recvId seqNr ackNr).utp.state =
    utp.state := by
  cases isInitiator <;> rfl

/-- What holds of an end at any time, and of what its tasks go on to do. -/
structure Regular (syn : UtpPacket) (first : Nat) (role : Bool) (peer : UtpAddr)
    (sendId recvId : Nat) (config : Config World Label) : Prop where
  moving : config.Moving (Word syn) (Recorded first sendId syn)
  wired : ∃ object, Wired object role peer sendId recvId config.state
  paid : config.state.Paid

theorem party_regular (hseqNr : seqNr < 65536) (hrun : (partySystem labels heard).Reachable
      (connectTo self utp isInitiator remoteAddr sendId recvId seqNr ackNr) config) :
    Regular (synOf self utp isInitiator remoteAddr sendId recvId seqNr ackNr)
      (firstSeqNr isInitiator seqNr) isInitiator remoteAddr sendId recvId config := by
  obtain ⟨hfirst, hmoving⟩ := @connectTo_words sendId self utp isInitiator remoteAddr recvId
    seqNr ackNr hseqNr
  obtain ⟨hchain, hmoving⟩ := (partySystem_words labels heard).reachable hmoving hrun
  refine ⟨hmoving, ⟨self, ?_⟩, ?_⟩
  · generalize synOf self utp isInitiator remoteAddr sendId recvId seqNr ackNr =
      syn at hfirst hchain
    have hkeeps : ∀ start target, Wired self isInitiator remoteAddr sendId recvId start →
        Word syn start target → Wired self isInitiator remoteAddr sendId recvId target :=
      fun _ _ hworld hword => hword.wired hworld
    exact Chain.preserves hkeeps begun_wired (hfirst.trans hchain)
  · have hcreated : (create self utp isInitiator remoteAddr sendId recvId seqNr ackNr).Paid :=
      .inr nofun
    exact (partySystem_paid labels heard).upheld hcreated (waitForConnecting_paid _ hcreated) hrun

/-- A run only acts, from the creation of the connection on. -/
theorem party_acts (hseqNr : seqNr < 65536) (hrun : (partySystem labels heard).Reachable
      (connectTo self utp isInitiator remoteAddr sendId recvId seqNr ackNr) config) :
    Chain (Act true true true) (begun self utp isInitiator remoteAddr sendId recvId seqNr ackNr)
      config.state := by
  obtain ⟨hfirst, hmoving⟩ := @connectTo_words sendId self utp isInitiator remoteAddr recvId
    seqNr ackNr hseqNr
  exact acts_of_words (hfirst.trans ((partySystem_words labels heard).reachable hmoving hrun).1)

theorem party_emptied (hseqNr : seqNr < 65536) (hopen : utp.state ≠ .CLOSED)
    (hrun : (partySystem labels heard).Reachable
      (connectTo self utp isInitiator remoteAddr sendId recvId seqNr ackNr) config) :
    config.state.Emptied := by
  obtain ⟨hfirst, hmoving⟩ := @connectTo_words sendId self utp isInitiator remoteAddr recvId
    seqNr ackNr hseqNr
  have hchain := ((partySystem_words labels heard).reachable hmoving hrun).1
  have hbegun : (begun self utp isInitiator remoteAddr sendId recvId seqNr ackNr).Emptied :=
    fun hstate => absurd (begun_state.symm.trans hstate) hopen
  generalize synOf self utp isInitiator remoteAddr sendId recvId seqNr ackNr = syn at hfirst hchain
  have hkeeps : ∀ start target, Emptied start → Word syn start target → Emptied target :=
    fun _ _ hworld hword => hword.emptied hworld
  exact Chain.preserves hkeeps hbegun (hfirst.trans hchain)

end Run

end World

end Utp
