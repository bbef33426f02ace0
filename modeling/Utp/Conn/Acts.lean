import Utp.Conn.Receive

/-! # What connection code can do

`Act` lists every single write of a connection's code, with what the code knows
when it writes. Invariants of all runs are proved once per act. Its flags tell
whose code it is: `receiving` admits the acts of the packet handler, `closing`
those of `close`, its interval, and `reset`, and `writing` those of `write`.
-/

namespace Utp

namespace World

/-! ## What the code knows -/

/-- The connection has been established at some time. -/
def Started (world : World) : Prop :=
  world.conn.localState ≠ .CS_SYN_SENT ∧ world.conn.localState ≠ .CS_SYN_RECV

/-- An initiator, or a responder that has taken its first data packet. -/
def Joined (world : World) : Prop := world.conn.isInitiator = true ∨ 0 < world.conn.advanced

/-- A reliable packet that this connection built. -/
def Owns (world : World) (packet : UtpPacket) : Prop :=
  packet.isReliable = true ∧ packet ∈ world.conn.created

/-- The packet has entered the send window at some time. -/
def Registered (world : World) (packet : UtpPacket) : Prop :=
  ∃ entry ∈ world.conn.sendWindow.packetMap.entered, entry.2.packet = packet

/-- An acknowledgement built in the present state. -/
structure Acknowledges (world : World) (packet : UtpPacket) : Prop where
  connId : packet.connId = world.conn.localSendId
  seqNr : packet.seqNr = world.conn.localSeqNr
  ackNr : packet.ackNr = world.conn.localAckNr
  windowSize : packet.windowSize = world.conn.recvBuffer.freeSpace
  sack : packet.sackExtension = none ∨
    packet.sackExtension = UtpSelectiveAckExtension.createFromConn world.conn
  connected : world.conn.localState = .CS_SYN_RECV ∨ world.Joined

/-- What is known of a packet that is handed to the UDP socket. -/
structure Transmits (world : World) (calledIn : Option UtpConnState) (packet : UtpPacket) :
    Prop where
  owned : packet.isReliable = true → packet ∈ world.conn.created
  registered : calledIn = some .CS_CONNECTED → packet.isReliable = true → world.Registered packet
  acknowledges : packet.type = .ST_STATE → world.Acknowledges packet
  fin : packet.type = .ST_FIN → calledIn.isSome = true →
    world.conn.localState = .CS_CLOSE_WAIT
  resent : calledIn = none → ∃ seqNr info,
    world.conn.sendWindow.packetMap.get seqNr = some info ∧ info.packet = packet

/-- The failures of the runtime's `send` have other texts than the one this code
throws itself. -/
def HonestSend (world : World) : Prop :=
  ∀ bytes remoteAddr, world.utp.udpSend bytes remoteAddr ≠
    .error "Connection is not in CLOSE_WAIT state"

/-- What else may happen while the connection's code waits: clocks advance, the
socket and its table change, and sending may begin or cease to work. -/
structure Environment (world next : World) : Prop where
  conn : next.conn = world.conn
  sent : next.utp.sent = world.utp.sent
  honest : world.HonestSend → next.HonestSend

def window (world : World) : BlockingMap Nat UtpPacketWithExtraInfo :=
  world.conn.sendWindow.packetMap

/-! ## The acts -/

inductive Act (receiving closing writing : Bool) (world : World) : World → Prop
  | env {next : World} (henv : world.Environment next) :
      Act receiving closing writing world next
  | touch : Act receiving closing writing world world.touch
  | setLastLiveTime (now : Nat) : Act receiving closing writing world (world.setLastLiveTime now)
  | setConnecting (promise : ConnectPromise) (hpromise : promise = .resolved → world.Started) :
      Act receiving closing writing world (world.setConnecting promise)
  | logRead (result : Option Bytes) : Act receiving closing writing world (world.logRead result)
  | transmit (calledIn : Option UtpConnState) (packet : UtpPacket) (remoteAddr : UtpAddr)
      (htransmits : world.Transmits calledIn packet)
      (hwriting : packet.type = .ST_DATA → calledIn.isSome = true → writing = true) :
      Act receiving closing writing world (world.transmit calledIn packet remoteAddr)
  | takeData (data : Bytes) (hstarted : world.Started) (hwriting : writing = true) :
      Act receiving closing writing world (world.consumeSeqNr (world.dataPacket data))
  | takeFin (hstate : world.conn.localState = .CS_CLOSE_WAIT) :
      Act receiving closing writing world world.takeFin
  | register (info : UtpPacketWithExtraInfo) (howns : world.Owns info.packet)
      (hconnected : world.conn.localState = .CS_CONNECTED) (hroom : world.window.hasRoom = true) :
      Act receiving closing writing world
        (world.setPacketMap (world.window.put info.packet.seqNr info).resolveNextSetter)
  | waitForRoom (info : UtpPacketWithExtraInfo) (howns : world.Owns info.packet)
      (hconnected : world.conn.localState = .CS_CONNECTED)
      (hfull : world.window.hasRoom = false) :
      Act receiving closing writing world
        (world.setPacketMap (world.window.enqueueSetter info.packet.seqNr info))
  | resendOne (now seqNr : Nat) :
      Act receiving closing writing world
        (world.setWindow (world.conn.sendWindow.resendOne now seqNr).1)
  | readBuffer (buffer : BlockingBuffer) (hmove : world.conn.recvBuffer.ReadMove buffer) :
      Act receiving closing writing world
        (world.onConn fun conn => { conn with recvBuffer := buffer })
  | beginClose (hclosed : world.conn.localState ≠ .CS_CLOSED)
      (hreset : world.conn.localState ≠ .CS_RESET) (hclosing : closing = true) :
      Act receiving closing writing world world.beginClose
  | startPolling : Act receiving closing writing world world.startPolling
  | finishClose : Act receiving closing writing world world.finishClose
  | resetNow (hclosing : closing = true) : Act receiving closing writing world world.resetNow
  | release (hstate : world.conn.localState = .CS_CLOSE_WAIT) :
      Act receiving closing writing world world.release
  | forceClose (hstate : world.conn.localState = .CS_SYN_SENT ∨
        world.conn.localState = .CS_CLOSE_WAIT ∨ closing = true) :
      Act receiving closing writing world world.forceClose
  | handleAck (packet : UtpPacket) (hreceiving : receiving = true)
      (htype : packet.type = .ST_STATE) :
      Act receiving closing writing world (world.handleAck packet)
  | acceptHandshake (ackNr : Nat) (hstate : world.conn.localState = .CS_SYN_SENT)
      (hinitiator : world.conn.isInitiator = true) (hreceiving : receiving = true) :
      Act receiving closing writing world (world.acceptHandshake ackNr)
  | acceptFirstData (seqNr : Nat) (hstate : world.conn.localState = .CS_SYN_RECV)
      (hreceiving : receiving = true) :
      Act receiving closing writing world (world.acceptFirstData seqNr)
  | enqueue (packet : UtpPacket) (hreceiving : receiving = true) :
      Act receiving closing writing world (world.enqueue packet)
  | advanceTo (seq : Nat) (hseq : Seq.add world.conn.localAckNr 1 = seq)
      (hreceiving : receiving = true) : Act receiving closing writing world (world.advanceTo seq)
  | append (data : Bytes) (hreceiving : receiving = true) :
      Act receiving closing writing world
        (world.onConn fun conn => { conn with recvBuffer := conn.recvBuffer.append data })
  | acceptFin (packet : UtpPacket) (hreceiving : receiving = true) :
      Act receiving closing writing world (world.acceptFin packet)
  | drain (hreceiving : receiving = true) : Act receiving closing writing world world.drain
  | noteHandled (hreceiving : receiving = true) :
      Act receiving closing writing world world.noteHandled

/-! ## What no act undoes -/

/-- What every act leaves in place. -/
structure Grows (world next : World) : Prop where
  created : world.conn.created <+: next.conn.created
  sent : world.utp.sent <+: next.utp.sent
  window : world.window.Evolves next.window
  initiator : next.conn.isInitiator = world.conn.isInitiator
  advanced : world.conn.advanced ≤ next.conn.advanced
  started : world.Started → next.Started

theorem Grows.joined {world next : World} (hgrows : world.Grows next) (hjoined : world.Joined) :
    next.Joined := by
  rcases hjoined with hinitiator | hadvanced
  · exact .inl (hgrows.initiator.trans hinitiator)
  · exact .inr (hadvanced.trans_le hgrows.advanced)

theorem Grows.owns {world next : World} (hgrows : world.Grows next) {packet : UtpPacket}
    (howns : world.Owns packet) : next.Owns packet := ⟨howns.1, hgrows.created.subset howns.2⟩

theorem Grows.registered {world next : World} (hgrows : world.Grows next) {packet : UtpPacket}
    (hregistered : world.Registered packet) : next.Registered packet := by
  obtain ⟨entry, hentry, hpacket⟩ := hregistered
  exact ⟨entry, hgrows.window.entered entry hentry, hpacket⟩

theorem Grows.refl (world : World) : world.Grows world :=
  ⟨List.prefix_rfl, List.prefix_rfl, .refl _, rfl, le_rfl, id⟩

theorem Grows.trans {first second third : World} (hfirst : first.Grows second)
    (hsecond : second.Grows third) : first.Grows third where
  created := hfirst.created.trans hsecond.created
  sent := hfirst.sent.trans hsecond.sent
  window := hfirst.window.trans hsecond.window
  initiator := hsecond.initiator.trans hfirst.initiator
  advanced := hfirst.advanced.trans hsecond.advanced
  started := hsecond.started ∘ hfirst.started

/-- A write that leaves the histories, the window and the state alone. -/
theorem Grows.of_same {world next : World} (hcreated : next.conn.created = world.conn.created)
    (hsent : next.utp.sent = world.utp.sent) (hwindow : next.window = world.window)
    (hinitiator : next.conn.isInitiator = world.conn.isInitiator)
    (hadvanced : world.conn.advanced ≤ next.conn.advanced)
    (hstarted : world.Started → next.Started) : world.Grows next where
  created := hcreated ▸ List.prefix_rfl
  sent := hsent ▸ List.prefix_rfl
  window := hwindow ▸ .refl _
  initiator := hinitiator
  advanced := hadvanced
  started := hstarted

theorem Grows.of_window {world next : World} (hcreated : next.conn.created = world.conn.created)
    (hsent : next.utp.sent = world.utp.sent) (hwindow : world.window.Evolves next.window)
    (hinitiator : next.conn.isInitiator = world.conn.isInitiator)
    (hadvanced : world.conn.advanced ≤ next.conn.advanced)
    (hstarted : world.Started → next.Started) : world.Grows next where
  created := hcreated ▸ List.prefix_rfl
  sent := hsent ▸ List.prefix_rfl
  window := hwindow
  initiator := hinitiator
  advanced := hadvanced
  started := hstarted

theorem Act.grows {receiving closing writing : Bool} {world next : World}
    (hact : Act receiving closing writing world next) : world.Grows next := by
  cases hact with
  | env henv =>
      refine .of_same ?_ henv.sent ?_ ?_ ?_ ?_
      all_goals simp only [window, Started, henv.conn]
      · exact le_rfl
      · exact id
  | touch => exact .of_same rfl rfl rfl rfl le_rfl id
  | setLastLiveTime => exact .of_same rfl rfl rfl rfl le_rfl id
  | setConnecting => exact .of_same rfl rfl rfl rfl le_rfl id
  | logRead => exact .of_same rfl rfl rfl rfl le_rfl id
  | transmit => exact ⟨List.prefix_rfl, List.prefix_append _ _, .refl _, rfl, le_rfl, id⟩
  | takeData => exact ⟨List.prefix_append _ _, List.prefix_rfl, .refl _, rfl, le_rfl, id⟩
  | takeFin => exact ⟨List.prefix_append _ _, List.prefix_rfl, .refl _, rfl, le_rfl, id⟩
  | register =>
      exact .of_window rfl rfl
        ((BlockingMap.evolves_put _ _ _).trans (BlockingMap.evolves_resolveNextSetter _))
        rfl le_rfl id
  | waitForRoom =>
      exact .of_window rfl rfl (BlockingMap.evolves_enqueueSetter _ _ _) rfl le_rfl id
  | resendOne =>
      exact .of_window rfl rfl (UtpSendWindow.resendOne_evolves _ _ _) rfl le_rfl id
  | readBuffer => exact .of_same rfl rfl rfl rfl le_rfl id
  | beginClose => exact .of_same rfl rfl rfl rfl le_rfl fun _ => ⟨nofun, nofun⟩
  | startPolling => exact .of_same rfl rfl rfl rfl le_rfl id
  | finishClose => exact .of_same rfl rfl rfl rfl le_rfl id
  | resetNow =>
      exact .of_window rfl rfl (UtpSendWindow.reset_evolves _) rfl le_rfl
        fun _ => ⟨nofun, nofun⟩
  | release => exact .of_same rfl rfl rfl rfl le_rfl fun _ => ⟨nofun, nofun⟩
  | forceClose => exact .of_same rfl rfl rfl rfl le_rfl fun _ => ⟨nofun, nofun⟩
  | handleAck =>
      exact .of_window rfl rfl (UtpSendWindow.handleAck_evolves _ _ _) rfl le_rfl id
  | acceptHandshake => exact .of_same rfl rfl rfl rfl le_rfl fun _ => ⟨nofun, nofun⟩
  | acceptFirstData =>
      exact .of_same rfl rfl rfl rfl (Nat.le_succ _) fun _ => ⟨nofun, nofun⟩
  | enqueue => exact .of_same rfl rfl rfl rfl le_rfl id
  | advanceTo => exact .of_same rfl rfl rfl rfl (Nat.le_succ _) id
  | append => exact .of_same rfl rfl rfl rfl le_rfl id
  | acceptFin => exact .of_same rfl rfl rfl rfl le_rfl fun _ => ⟨nofun, nofun⟩
  | drain => exact .of_same rfl rfl rfl rfl le_rfl id
  | noteHandled => exact .of_same rfl rfl rfl rfl le_rfl id

/-! ## The invariant of every run -/

/-- What holds of a connection whose first reliable packet gets the number `first`:
its packets are numbered in sequence, only they are sent and kept in the window,
and those sent while connected were registered before. -/
structure Tracked (first : Nat) (world : World) : Prop where
  localSeqNr : world.conn.localSeqNr = (first + world.conn.created.length) % 65536
  numbered : ∀ index packet, world.conn.created[index]? = some packet →
    packet.seqNr = (first + index) % 65536
  window : world.window.Every fun key info => world.Owns info.packet ∧ key = info.packet.seqNr
  sent : ∀ datagram ∈ world.utp.sent, datagram.packet.isReliable = true →
    datagram.packet ∈ world.conn.created
  registered : ∀ datagram ∈ world.utp.sent, datagram.calledIn = some .CS_CONNECTED →
    datagram.packet.isReliable = true → datagram.registered = true
  initiator : world.conn.localState = .CS_SYN_SENT → world.conn.isInitiator = true
  joined : world.conn.localState = .CS_CONNECTED → world.Joined
  started : world.conn.connecting = .resolved → world.Started
  unstarted : ¬ world.Started → world.conn.created = []
  acknowledged : ∀ datagram ∈ world.utp.sent, datagram.packet.type = .ST_STATE →
    datagram.packet.seqNr = first % 65536 ∨ world.Joined

theorem Every.owns {world next : World} (hgrows : world.Grows next)
    {map : BlockingMap Nat UtpPacketWithExtraInfo}
    (hmap : map.Every fun key info => world.Owns info.packet ∧ key = info.packet.seqNr) :
    map.Every fun key info => next.Owns info.packet ∧ key = info.packet.seqNr where
  present entry hentry := (hmap.present entry hentry).imp_left hgrows.owns
  entered entry hentry := (hmap.entered entry hentry).imp_left hgrows.owns
  waiting waiter hwaiter := (hmap.waiting waiter hwaiter).imp_left hgrows.owns

/-- A write that builds and sends nothing. -/
theorem Tracked.quiet {first : Nat} {world next : World} (htracked : world.Tracked first)
    (hgrows : world.Grows next) (hcreated : next.conn.created = world.conn.created)
    (hseqNr : next.conn.localSeqNr = world.conn.localSeqNr)
    (hsent : next.utp.sent = world.utp.sent)
    (hwindow : ∀ property, world.window.Every property → next.window.Every property)
    (hsynSent : next.conn.localState = .CS_SYN_SENT → world.conn.localState = .CS_SYN_SENT)
    (hconnected : next.conn.localState = .CS_CONNECTED →
      world.conn.localState = .CS_CONNECTED ∨ next.Joined)
    (hresolved : next.conn.connecting = .resolved →
      world.conn.connecting = .resolved ∨ next.Started) : next.Tracked first where
  localSeqNr := by rw [hseqNr, hcreated, htracked.localSeqNr]
  numbered := by rw [hcreated]; exact htracked.numbered
  window := hwindow _ (Every.owns hgrows htracked.window)
  sent := by rw [hsent, hcreated]; exact htracked.sent
  registered := by rw [hsent]; exact htracked.registered
  initiator hstate := hgrows.initiator.trans (htracked.initiator (hsynSent hstate))
  joined hstate := (hconnected hstate).elim (fun h => hgrows.joined (htracked.joined h)) id
  started hpromise := (hresolved hpromise).elim (fun h => hgrows.started (htracked.started h)) id
  unstarted hstarted := by rw [hcreated]; exact htracked.unstarted (mt hgrows.started hstarted)
  acknowledged := by
    rw [hsent]
    exact fun datagram hdatagram htype =>
      (htracked.acknowledged datagram hdatagram htype).imp_right hgrows.joined

/-- A new reliable packet takes the next number. -/
theorem Tracked.consumeSeqNr {first : Nat} {world : World} {packet : UtpPacket}
    (htracked : world.Tracked first) (hseqNr : packet.seqNr = world.conn.localSeqNr)
    (hstarted : world.Started) : (world.consumeSeqNr packet).Tracked first where
  localSeqNr := by
    simp only [World.consumeSeqNr, onConn, UtpConn.consumeSeqNr, List.length_append,
      List.length_singleton, htracked.localSeqNr]
    omega
  numbered index other hother := by
    simp only [World.consumeSeqNr, onConn, UtpConn.consumeSeqNr] at hother
    rw [List.getElem?_append] at hother
    split at hother
    next => exact htracked.numbered index other hother
    next hlast =>
      rw [List.getElem?_singleton] at hother
      split at hother
      next hindex =>
        cases hother
        rw [hseqNr, htracked.localSeqNr]
        have : index = world.conn.created.length := by omega
        rw [this]
      next => cases hother
  window := by
    have hgrows : world.Grows (world.consumeSeqNr packet) :=
      ⟨List.prefix_append _ _, List.prefix_rfl, .refl _, rfl, le_rfl, id⟩
    exact Every.owns hgrows htracked.window
  sent datagram hdatagram hreliable :=
    List.mem_append_left _ (htracked.sent datagram hdatagram hreliable)
  registered := htracked.registered
  initiator := htracked.initiator
  joined := htracked.joined
  started := htracked.started
  unstarted h := absurd hstarted h
  acknowledged := htracked.acknowledged

theorem Tracked.transmit {first : Nat} {world : World} {calledIn : Option UtpConnState}
    {packet : UtpPacket} {remoteAddr : UtpAddr} (htracked : world.Tracked first)
    (htransmits : world.Transmits calledIn packet) :
    (world.transmit calledIn packet remoteAddr).Tracked first := by
  refine ⟨htracked.localSeqNr, htracked.numbered, htracked.window, ?_, ?_, htracked.initiator,
    htracked.joined, htracked.started, htracked.unstarted, ?_⟩
  · intro datagram hdatagram hreliable
    rcases List.mem_append.mp hdatagram with hold | hnew
    · exact htracked.sent datagram hold hreliable
    · rw [List.mem_singleton.mp hnew] at hreliable ⊢
      exact htransmits.owned hreliable
  · intro datagram hdatagram hcalled hreliable
    rcases List.mem_append.mp hdatagram with hold | hnew
    · exact htracked.registered datagram hold hcalled hreliable
    · rw [List.mem_singleton.mp hnew] at hcalled hreliable ⊢
      obtain ⟨entry, hentry, hpacket⟩ := htransmits.registered hcalled hreliable
      exact List.any_eq_true.mpr ⟨entry, hentry, by simpa using hpacket⟩
  · intro datagram hdatagram htype
    rcases List.mem_append.mp hdatagram with hold | hnew
    · exact htracked.acknowledged datagram hold htype
    · rw [List.mem_singleton.mp hnew] at htype ⊢
      have hacknowledges := htransmits.acknowledges htype
      refine hacknowledges.connected.imp_left fun hstate => ?_
      have hempty := htracked.unstarted fun hstarted => hstarted.2 hstate
      rw [hacknowledges.seqNr, htracked.localSeqNr, hempty]
      rfl

theorem Act.tracked {first : Nat} {receiving closing writing : Bool} {world next : World}
    (htracked : world.Tracked first) (hact : Act receiving closing writing world next) :
    next.Tracked first := by
  have hgrows := hact.grows
  cases hact with
  | env henv =>
      refine htracked.quiet hgrows ?_ ?_ henv.sent ?_ ?_ ?_ ?_
      all_goals simp only [World.window, henv.conn]
      · exact fun _ => id
      · exact id
      · exact .inl
      · exact .inl
  | touch => exact htracked.quiet hgrows rfl rfl rfl (fun _ => id) id .inl .inl
  | setLastLiveTime => exact htracked.quiet hgrows rfl rfl rfl (fun _ => id) id .inl .inl
  | setConnecting promise hpromise =>
      exact htracked.quiet hgrows rfl rfl rfl (fun _ => id) id .inl (.inr ∘ hpromise)
  | logRead => exact htracked.quiet hgrows rfl rfl rfl (fun _ => id) id .inl .inl
  | transmit calledIn packet remoteAddr htransmits => exact htracked.transmit htransmits
  | takeData data hstarted _ => exact htracked.consumeSeqNr rfl hstarted
  | takeFin hstate =>
      have hstarted : world.Started := ⟨by simp [hstate], by simp [hstate]⟩
      have hconsumed : (world.consumeSeqNr world.finPacket).Tracked first :=
        htracked.consumeSeqNr rfl hstarted
      exact ⟨hconsumed.localSeqNr, hconsumed.numbered, hconsumed.window, hconsumed.sent,
        hconsumed.registered, hconsumed.initiator, hconsumed.joined, hconsumed.started,
        hconsumed.unstarted, hconsumed.acknowledged⟩
  | register info howns _ =>
      have hwindow := BlockingMap.every_resolveNextSetter (BlockingMap.every_put
        (Every.owns hgrows htracked.window) ⟨hgrows.owns howns, rfl⟩)
      exact { htracked with window := hwindow }
  | waitForRoom info howns =>
      exact { htracked with
        window := BlockingMap.every_enqueueSetter (Every.owns hgrows htracked.window)
          ⟨hgrows.owns howns, rfl⟩ }
  | resendOne now seqNr =>
      have hwindow := UtpSendWindow.resendOne_preserves
        (BlockingMap.Every fun key info => world.Owns info.packet ∧ key = info.packet.seqNr)
        now seqNr (fun _ _ _ _ => BlockingMap.every_delete seqNr)
        (fun _ capacity _ => BlockingMap.every_updateCapacity capacity)
        (fun info _ _ hinfo => BlockingMap.every_update htracked.window
          (htracked.window.present (seqNr, info) (OrderedMap.get?_eq_some.mp hinfo)))
        htracked.window
      exact { htracked with window := Every.owns hgrows hwindow }
  | readBuffer => exact htracked.quiet hgrows rfl rfl rfl (fun _ => id) id .inl .inl
  | beginClose =>
      exact htracked.quiet hgrows rfl rfl rfl (fun _ => id) nofun nofun
        fun _ => .inr ⟨nofun, nofun⟩
  | startPolling => exact htracked.quiet hgrows rfl rfl rfl (fun _ => id) id .inl .inl
  | finishClose => exact htracked.quiet hgrows rfl rfl rfl (fun _ => id) id .inl .inl
  | resetNow =>
      refine htracked.quiet hgrows rfl rfl rfl (fun property hevery => ?_) nofun nofun
        fun _ => .inr ⟨nofun, nofun⟩
      exact UtpSendWindow.reset_preserves (BlockingMap.Every property)
        (fun _ => BlockingMap.every_clear)
        (fun _ capacity _ => BlockingMap.every_updateCapacity capacity) hevery
  | release =>
      exact htracked.quiet hgrows rfl rfl rfl (fun _ => id) nofun nofun
        fun _ => .inr ⟨nofun, nofun⟩
  | forceClose =>
      exact htracked.quiet hgrows rfl rfl rfl (fun _ => id) nofun nofun
        fun _ => .inr ⟨nofun, nofun⟩
  | handleAck packet =>
      exact htracked.quiet hgrows rfl rfl rfl (fun property hevery =>
        UtpSendWindow.handleAck_preserves (BlockingMap.Every property) _ packet
          (fun _ seqNr _ => BlockingMap.every_delete seqNr)
          (fun _ capacity _ => BlockingMap.every_updateCapacity capacity) hevery)
        id .inl .inl
  | acceptHandshake ackNr hstate hinitiator =>
      exact htracked.quiet hgrows rfl rfl rfl (fun _ => id) nofun
        (fun _ => .inr (.inl hinitiator)) fun _ => .inr ⟨nofun, nofun⟩
  | acceptFirstData seqNr =>
      exact htracked.quiet hgrows rfl rfl rfl (fun _ => id) nofun
        (fun _ => .inr (.inr (Nat.succ_pos _))) fun _ => .inr ⟨nofun, nofun⟩
  | enqueue => exact htracked.quiet hgrows rfl rfl rfl (fun _ => id) id .inl .inl
  | advanceTo => exact htracked.quiet hgrows rfl rfl rfl (fun _ => id) id .inl .inl
  | append => exact htracked.quiet hgrows rfl rfl rfl (fun _ => id) id .inl .inl
  | acceptFin =>
      exact htracked.quiet hgrows rfl rfl rfl (fun _ => id) nofun nofun
        fun _ => .inr ⟨nofun, nofun⟩
  | drain => exact htracked.quiet hgrows rfl rfl rfl (fun _ => id) id .inl .inl
  | noteHandled => exact htracked.quiet hgrows rfl rfl rfl (fun _ => id) id .inl .inl

end World

end Utp
