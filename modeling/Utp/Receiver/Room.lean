import Utp.Conn.Survival

/-! # The room that a receiver tells

What was put into the receive buffer has been handed to reads or is in the buffer. So the free
space that an acknowledgement tells, counted from what had been put in by then, ends where the
buffer would, were it empty but for what has been read since.
-/

namespace Utp

namespace BlockingBuffer

variable {self next : BlockingBuffer}

theorem take_held (self : BlockingBuffer) (size : Nat) :
    (self.take size).buffer.length + (self.take size).taken.length =
      self.buffer.length + self.taken.length := by
  simp only [take, List.length_drop, List.length_append, List.length_take]
  omega

theorem ReadMove.held (hmove : self.ReadMove next) :
    next.buffer.length + next.taken.length = self.buffer.length + self.taken.length := by
  cases hmove with
  | serve size => exact self.popReader.take_held size
  | take size => exact self.take_held size
  | _ => rfl

theorem ReadMove.taken (hmove : self.ReadMove next) : self.taken <+: next.taken := by
  cases hmove with
  | serve size => exact List.prefix_append _ _
  | take size => exact List.prefix_append _ _
  | _ => exact List.prefix_rfl

theorem drain_held (self : BlockingBuffer) :
    self.drain.buffer = self.buffer ∧ self.drain.taken = self.taken := by
  unfold drain
  split
  next => exact ⟨rfl, rfl⟩
  next => split <;> exact ⟨rfl, rfl⟩

end BlockingBuffer

namespace World

variable {receiving closing writing : Bool} {world next : World}

/-- Where the receive buffer ends, in the stream of what was put into it. -/
def edge (world : World) : Nat := 256 * 1024 + world.conn.recvBuffer.taken.length

/-- An acknowledgement that was sent tells no room behind the edge. -/
def TellsRoom (world : World) (datagram : Datagram) : Prop :=
  datagram.packet.type = .ST_STATE → datagram.packet.windowSize = 0 ∨
    datagram.delivered + datagram.packet.windowSize ≤ world.edge

/-- What the buffer holds was appended, and has not been read yet. -/
structure Held (world : World) : Prop where
  maxBytes : world.conn.recvBuffer.maxBytes = 256 * 1024
  length : world.conn.recvBuffer.buffer.length + world.conn.recvBuffer.taken.length =
    world.conn.recvBuffer.appended.length
  told : ∀ datagram ∈ world.utp.sent, world.TellsRoom datagram

theorem Act.taken (hact : Act receiving closing writing world next) :
    world.conn.recvBuffer.taken <+: next.conn.recvBuffer.taken := by
  have hdrain := world.conn.recvBuffer.drain_held.2
  cases hact with
  | env henv => exact henv.conn ▸ List.prefix_rfl
  | readBuffer buffer hmove => exact hmove.taken
  | forceClose => exact hdrain.symm ▸ List.prefix_rfl
  | drain => exact hdrain.symm ▸ List.prefix_rfl
  | _ => exact List.prefix_rfl

theorem Act.edge_le (hact : Act receiving closing writing world next) :
    world.edge ≤ next.edge := Nat.add_le_add_left hact.taken.length_le _

theorem edge_le_of_acts (hchain : Async.Chain (Act receiving closing writing) world next) :
    world.edge ≤ next.edge := by
  induction hchain with
  | refl => exact le_rfl
  | tail _ hact ih => exact ih.trans hact.edge_le

theorem TellsRoom.mono {datagram : Datagram} (htells : world.TellsRoom datagram)
    (hedge : world.edge ≤ next.edge) : next.TellsRoom datagram :=
  fun htype => (htells htype).imp_right fun hroom => hroom.trans hedge

theorem Held.transmit (hheld : world.Held) {calledIn : Option UtpConnState} {packet : UtpPacket}
    (htransmits : world.Transmits calledIn packet) (remoteAddr : UtpAddr) :
    (world.transmit calledIn packet remoteAddr).Held where
  maxBytes := hheld.maxBytes
  length := hheld.length
  told datagram hdatagram := by
    rcases List.mem_append.mp hdatagram with hold | hnew
    · exact hheld.told datagram hold
    · rw [List.mem_singleton.mp hnew]
      intro htype
      have hwindow : packet.windowSize = world.conn.recvBuffer.maxBytes -
        world.conn.recvBuffer.buffer.length := (htransmits.acknowledges htype).windowSize
      have hlength := hheld.length
      have hedge : (world.transmit calledIn packet remoteAddr).edge =
        256 * 1024 + world.conn.recvBuffer.taken.length := rfl
      rw [hheld.maxBytes] at hwindow
      rw [hedge]
      dsimp only
      omega

theorem Act.held (hact : Act receiving closing writing world next) (hheld : world.Held) :
    next.Held := by
  have hedge := hact.edge_le
  have htold : ∀ datagram ∈ world.utp.sent, next.TellsRoom datagram :=
    fun datagram hdatagram => (hheld.told datagram hdatagram).mono hedge
  obtain ⟨hsame, htaken⟩ := world.conn.recvBuffer.drain_held
  have hdrained : world.conn.recvBuffer.drain.buffer.length +
      world.conn.recvBuffer.drain.taken.length =
        world.conn.recvBuffer.drain.appended.length := by
    rw [hsame, htaken, BlockingBuffer.drain_appended]
    exact hheld.length
  have hmaxBytes := (BlockingBuffer.drain_maxBytes _).trans hheld.maxBytes
  cases hact with
  | env henv =>
      refine ⟨?_, ?_, henv.sent ▸ htold⟩
      all_goals rw [henv.conn]
      · exact hheld.maxBytes
      · exact hheld.length
  | transmit calledIn packet remoteAddr htransmits => exact hheld.transmit htransmits remoteAddr
  | readBuffer buffer hmove =>
      refine ⟨hmove.maxBytes.trans hheld.maxBytes, hmove.held.trans ?_, htold⟩
      exact hheld.length.trans (congrArg List.length hmove.appended.symm)
  | append data =>
      refine ⟨hheld.maxBytes, ?_, htold⟩
      have hlength := hheld.length
      simp only [onConn, BlockingBuffer.append, List.length_append]
      omega
  | forceClose => exact ⟨hmaxBytes, hdrained, htold⟩
  | drain => exact ⟨hmaxBytes, hdrained, htold⟩
  | _ => exact ⟨hheld.maxBytes, hheld.length, htold⟩

theorem begun_held {self : Nat} {utp : UtpSocket} {isInitiator : Bool} {remoteAddr : UtpAddr}
    {sendId recvId seqNr ackNr : Nat} :
    (begun self utp isInitiator remoteAddr sendId recvId seqNr ackNr).Held := by
  have hsent : (begun self utp isInitiator remoteAddr sendId recvId seqNr ackNr).utp.sent = [] := by
    cases isInitiator <;> rfl
  refine ⟨?_, ?_, fun datagram hdatagram => ?_⟩
  · cases isInitiator <;> rfl
  · cases isInitiator <;> rfl
  · rw [hsent] at hdatagram
    cases hdatagram

end World

end Utp
