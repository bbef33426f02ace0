import Utp.Conn.System

/-! # How packets leave the send window

A registered packet stays in the window until the peer acknowledges it, the
connection ends, or the last of its retransmissions has timed out. A later
packet with the same number may take its place.
-/

namespace Utp

open Async (Chain Config TaskSystem)

/-- Why the entry of a packet goes in a single write. -/
inductive Leaves (world next : World) (seqNr : Nat) (info : UtpPacketWithExtraInfo) : Prop
  | acknowledged (ackPacket : UtpPacket)
      (hhandled : next.conn.sendWindow.handledAcks =
        world.conn.sendWindow.handledAcks ++ [ackPacket])
      (hcovers : world.conn.sendWindow.Covers ackPacket seqNr)
  | terminated (hstate : next.conn.localState = .CS_RESET ∨ next.conn.localState = .CS_CLOSED)
  | exhausted (now : Nat) (hexhausted : world.conn.sendWindow.IsExhausted now info)
      (hresend : next = world.setWindow (world.conn.sendWindow.resendOne now seqNr).1)

/-- The window after a write still has every packet, except those that leave for
one of the reasons and those whose number a later packet took. -/
def Retains (world next : World) : Prop :=
  ∀ seqNr info, world.window.get seqNr = some info →
    Leaves world next seqNr info ∨
      ∃ stored, next.window.get seqNr = some stored ∧
        (stored.packet = info.packet ∨
          (seqNr, stored) ∈ next.window.entered.drop world.window.entered.length)

/-- The entries hold the same packet. -/
def SamePacket (old new : UtpPacketWithExtraInfo) : Prop := new.packet = old.packet

theorem SamePacket.refl (info : UtpPacketWithExtraInfo) : SamePacket info info := rfl

theorem Retains.of_keeps {world next : World} (gone : Nat → Prop)
    (hkeeps : world.window.Keeps SamePacket gone next.window)
    (hgone : ∀ seqNr info, world.window.get seqNr = some info → gone seqNr →
      Leaves world next seqNr info) : Retains world next := fun seqNr info hinfo =>
  (hkeeps.entries seqNr info hinfo).imp_left (hgone seqNr info hinfo)

theorem Retains.of_same {world next : World} (hwindow : next.window = world.window) :
    Retains world next :=
  .of_keeps (fun _ => False) (hwindow ▸ .refl SamePacket.refl _) fun _ _ _ => False.elim

theorem retains_resendOne (world : World) (now seqNr : Nat) :
    Retains world (world.setWindow (world.conn.sendWindow.resendOne now seqNr).1) := by
  refine .of_keeps (fun other => other = seqNr ∧ ∃ info,
    world.window.get seqNr = some info ∧ world.conn.sendWindow.IsExhausted now info) ?_ ?_
  · exact UtpSendWindow.resendOne_preserves _ now seqNr
      (fun map info hinfo hexhausted h => h.delete ⟨rfl, info, hinfo, hexhausted⟩)
      (fun map capacity _ h => h.updateCapacity capacity)
      (fun info _ _ hinfo => .overwrite SamePacket.refl hinfo rfl) (.refl SamePacket.refl _)
  · rintro other info hinfo ⟨rfl, stored, hstored, hexhausted⟩
    rw [hstored] at hinfo
    cases hinfo
    exact .exhausted now hexhausted rfl

theorem handledAcks_handleAck (self : UtpSendWindow) (now : Nat) (ackPacket : UtpPacket) :
    (self.handleAck now ackPacket).handledAcks = self.handledAcks ++ [ackPacket] := by
  have hack := UtpSendWindow.ackLoop_keeps (fun window => window.handledAcks) (fun _ _ => rfl)
    (fun _ _ => rfl) now
  have hsack := UtpSendWindow.sackLoop_keeps (fun window => window.handledAcks) (fun _ _ => rfl)
    (fun _ _ => rfl) now
  exact (hack _ _).trans (hsack _ _)

theorem retains_handleAck (world : World) (ackPacket : UtpPacket) :
    Retains world (world.handleAck ackPacket) := by
  refine .of_keeps (world.conn.sendWindow.Covers ackPacket) ?_ ?_
  · exact UtpSendWindow.handleAck_preserves _ _ ackPacket
      (fun map seqNr hcovers h => h.delete hcovers)
      (fun map capacity _ h => h.updateCapacity capacity) (.refl SamePacket.refl _)
  · exact fun seqNr info _ hcovers =>
      .acknowledged ackPacket (handledAcks_handleAck _ _ _) hcovers

/-- Every single write retains the window. -/
theorem World.Act.retains {receiving closing writing : Bool} {world next : World}
    (hact : World.Act receiving closing writing world next) : Retains world next := by
  cases hact with
  | env henv => exact .of_same (by rw [World.window, henv.conn]; rfl)
  | register info =>
      exact .of_keeps (fun _ => False)
        (((BlockingMap.Keeps.refl SamePacket.refl world.window).put _ _).admitWaiting)
        fun _ _ _ => False.elim
  | waitForRoom => exact fun _ info hinfo => .inr ⟨info, hinfo, .inl rfl⟩
  | resendOne now seqNr => exact retains_resendOne world now seqNr
  | handleAck packet => exact retains_handleAck world packet
  | resetNow _ => exact fun _ _ _ => .inl (.terminated (.inl rfl))
  | _ => exact .of_same rfl

/-- Every single write of every run retains the window: a registered packet leaves
it only because an acknowledgement covers it, because the connection is reset or
closed, or because its retransmissions are used up. -/
theorem registered_packet_retained {self : Nat} {utp : UtpSocket} {isInitiator : Bool}
    {remoteAddr : UtpAddr} {sendId recvId seqNr ackNr : Nat} (hseqNr : seqNr < 65536)
    {world next : World}
    (hwrite : (connSystem anyLabel anyPacket).Write
      (World.connectTo self utp isInitiator remoteAddr sendId recvId seqNr ackNr) world next) :
    Retains world next :=
  (connSystem_acts.write (World.connectTo_moving self utp isInitiator remoteAddr sendId recvId
    seqNr ackNr hseqNr) hwrite).retains

/-! ## A packet that is given up -/

def World.later (world : World) : World :=
  { world with utp := { world.utp with dateNow := world.utp.dateNow + 2000 } }

/-- Two seconds pass. -/
def twoSeconds (config : Config World Label) : Config World Label :=
  { config with state := config.state.later }

/-- The timer of the socket fires after two seconds. -/
def timerFires (config : Config World Label) : Config World Label :=
  ((twoSeconds config).launch .timeoutCheck UtpConn.timeoutCheck).resumes [0, 0, 0, 0, 0, 0]

theorem twoSeconds_reachable {initial config : Config World Label}
    (hrun : (connSystem anyLabel anyPacket).Reachable initial config) :
    (connSystem anyLabel anyPacket).Reachable initial (twoSeconds config) :=
  hrun.step (.env ⟨rfl, rfl, id⟩)

theorem timerFires_reachable {initial config : Config World Label}
    (hrun : (connSystem anyLabel anyPacket).Reachable initial config) :
    (connSystem anyLabel anyPacket).Reachable initial (timerFires config) :=
  ((twoSeconds_reachable hrun).step (.launch ⟨trivial, .timeoutCheck⟩ nofun)).resumes _

/-- The timer is about to find the packet for the fourth time. -/
def unanswered : Config World Label :=
  twoSeconds (timerFires (timerFires (timerFires World.wroteByte)))

theorem unanswered_reachable : (connSystem anyLabel anyPacket).Reachable
    (World.connectTo 0 .sample true (.localhost 9000) 2 1 1 0) unanswered :=
  twoSeconds_reachable (timerFires_reachable (timerFires_reachable (timerFires_reachable
    World.wroteByte_reachable)))

/-- The write of that check in which the packet goes. -/
theorem unanswered_drops : (UtpConn.timeoutCheck.writes unanswered.state).any
    (fun write => (write.1.window.get 2).isSome && (write.2.window.get 2).isNone &&
      decide (write.2.conn.localState = .CS_CONNECTED) &&
      decide (write.2.conn.sendWindow.handledAcks.length =
        write.1.conn.sendWindow.handledAcks.length)) = true := by
  decide +kernel

theorem registered_packet_retained_sample :
    ∃ write ∈ UtpConn.timeoutCheck.writes unanswered.state, Retains write.1 write.2 ∧
      (write.1.window.get 2).isSome = true ∧ (write.2.window.get 2).isNone = true := by
  obtain ⟨write, hwrite, hdrops⟩ := List.any_eq_true.mp unanswered_drops
  simp only [Bool.and_eq_true] at hdrops
  refine ⟨write, hwrite, registered_packet_retained (by decide)
    (.launch unanswered_reachable ⟨trivial, .timeoutCheck⟩
      (by intro hreceive; cases hreceive) hwrite), ?_, ?_⟩
  · exact hdrops.1.1.1
  · exact hdrops.1.1.2

/-- An unacknowledged packet leaves the window of a connected connection. -/
theorem unacknowledged_packet_dropped :
    ¬ ∀ world next, (connSystem anyLabel anyPacket).Write
      (World.connectTo 0 .sample true (.localhost 9000) 2 1 1 0) world next →
      ∀ seqNr info, world.window.get seqNr = some info →
        (∃ ackPacket, next.conn.sendWindow.handledAcks =
          world.conn.sendWindow.handledAcks ++ [ackPacket] ∧
            world.conn.sendWindow.Covers ackPacket seqNr) ∨
        (next.conn.localState = .CS_RESET ∨ next.conn.localState = .CS_CLOSED) ∨
        ∃ stored, next.window.get seqNr = some stored := by
  intro hclaim
  obtain ⟨⟨world, next⟩, hwrite, hdrops⟩ := List.any_eq_true.mp unanswered_drops
  simp only [Bool.and_eq_true, decide_eq_true_eq, Option.isNone_iff_eq_none] at hdrops
  obtain ⟨⟨⟨hpresent, hgone⟩, hstate⟩, hacks⟩ := hdrops
  obtain ⟨info, hinfo⟩ := Option.isSome_iff_exists.mp hpresent
  have hcause := hclaim world next
    (.launch unanswered_reachable ⟨trivial, .timeoutCheck⟩
      (by intro hreceive; cases hreceive) hwrite) 2 info hinfo
  rcases hcause with ⟨ackPacket, hhandled, _⟩ | hend | ⟨stored, hstored⟩
  · rw [hhandled, List.length_append, List.length_singleton] at hacks
    omega
  · rw [hstate] at hend
    rcases hend with hend | hend <;> cases hend
  · rw [hgone] at hstored
    cases hstored

end Utp
