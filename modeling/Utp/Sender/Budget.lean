import Utp.Sender.Graceful
import Utp.Window.Credit

/-! # How much a sender sends

An acknowledgement tells how much room there is at the other end, counted from what it had put
into its receive buffer by then. What entered the send window so far has left it again or is in
flight, so a sender keeps to that room as long as nothing leaves the window but what had arrived,
and as long as nothing enters below the one packet that the window always admits.
-/

namespace Utp

open Async (Guard)

namespace BlockingMap

variable {κ ν : Type} [DecidableEq κ] {self : BlockingMap κ ν}

/-- A deletion lets in only who waits. -/
theorem delete_entered {entered : List (κ × ν)} (key : κ)
    (hself : self.waitingSetters = [] ∧ self.entered = entered) :
    (self.delete key).waitingSetters = [] ∧ (self.delete key).entered = entered := by
  refine ⟨delete_unblocked key hself.1, ?_⟩
  unfold delete
  split
  next =>
    rw [resolveNextSetter_unblocked (by exact hself.1)]
    exact hself.2
  next => exact hself.2

theorem updateCapacity_entered {entered : List (κ × ν)} (capacity : ℚ)
    (hself : self.waitingSetters = [] ∧ self.entered = entered) :
    (self.updateCapacity capacity).waitingSetters = [] ∧
      (self.updateCapacity capacity).entered = entered := by
  rw [updateCapacity_unblocked capacity hself.1]
  exact hself

end BlockingMap

namespace World

variable {receiving closing writing : Bool} {world next : World}

/-- What a write does to the send window is one of its operations. -/
theorem Act.sendWindow (hact : Act receiving closing writing world next) :
    next.conn.sendWindow = world.conn.sendWindow ∨
      world.conn.sendWindow.Step next.conn.sendWindow := by
  cases hact with
  | env henv => exact .inl (congrArg UtpConn.sendWindow henv.conn)
  | register info _ _ hroom =>
      have hturn : (BlockingMap.set info.packet.seqNr info).turn world.conn.sendWindow.packetMap =
          _ := BlockingMap.turn_set_room info.packet.seqNr info hroom
      have hstep := @UtpSendWindow.Step.register world.conn.sendWindow info.packet.seqNr info
      rw [hturn] at hstep
      exact .inr hstep
  | waitForRoom info _ _ hfull =>
      have hturn : (BlockingMap.set info.packet.seqNr info).turn world.conn.sendWindow.packetMap =
          _ := BlockingMap.turn_set_full info.packet.seqNr info hfull
      have hstep := @UtpSendWindow.Step.register world.conn.sendWindow info.packet.seqNr info
      rw [hturn] at hstep
      exact .inr hstep
  | resendOne now seqNr => exact .inr (.resendOne now seqNr)
  | resetNow => exact .inr .reset
  | handleAck packet => exact .inr (.handleAck _ packet)
  | _ => exact .inl rfl

/-! ## When nothing enters any more -/

/-- The connection has left `CS_CONNECTED`, and nobody waits to enter the window. -/
structure Spent (world : World) : Prop where
  started : world.Started
  unconnected : world.conn.localState ≠ .CS_CONNECTED
  unblocked : world.window.waitingSetters = []

theorem Act.unconnected (hact : Act receiving closing writing world next)
    (hspent : world.Spent) : next.conn.localState ≠ .CS_CONNECTED := by
  cases hact with
  | env henv => exact henv.conn ▸ hspent.unconnected
  | beginClose => exact nofun
  | resetNow => exact nofun
  | release => exact nofun
  | forceClose => exact nofun
  | acceptHandshake ackNr hstate => exact absurd hstate hspent.started.1
  | acceptFirstData seqNr hstate => exact absurd hstate hspent.started.2
  | acceptFin => exact nofun
  | _ => exact hspent.unconnected

theorem Act.spent (hact : Act receiving closing writing world next) (hspent : world.Spent) :
    next.Spent ∧ next.window.entered = world.window.entered := by
  have hunconnected := hact.unconnected hspent
  have hstarted := hact.grows.started hspent.started
  let property (map : BlockingMap Nat UtpPacketWithExtraInfo) : Prop :=
    map.waitingSetters = [] ∧ map.entered = world.window.entered
  have hworld : property world.window := ⟨hspent.unblocked, rfl⟩
  have hdelete : ∀ map seqNr, property map → property (map.delete seqNr) :=
    fun _ seqNr => BlockingMap.delete_entered seqNr
  have hcapacity : ∀ map capacity, property map → property (map.updateCapacity capacity) :=
    fun _ capacity => BlockingMap.updateCapacity_entered capacity
  have hwindow : property next.window := by
    cases hact with
    | env henv =>
        unfold window
        rw [henv.conn]
        exact hworld
    | register _ _ hconnected => exact absurd hconnected hspent.unconnected
    | waitForRoom _ _ hconnected => exact absurd hconnected hspent.unconnected
    | resendOne now seqNr =>
        exact UtpSendWindow.resendOne_preserves property now seqNr
          (fun map _ _ _ => hdelete map seqNr) (fun map capacity _ => hcapacity map capacity)
          (fun _ _ _ _ => hworld) hworld
    | resetNow =>
        exact UtpSendWindow.reset_preserves property (fun _ => id)
          (fun map capacity _ => hcapacity map capacity) hworld
    | handleAck packet =>
        exact UtpSendWindow.handleAck_preserves property _ packet
          (fun map seqNr _ => hdelete map seqNr) (fun map capacity _ => hcapacity map capacity)
          hworld
    | _ => exact hworld
  exact ⟨⟨hstarted, hunconnected, hwindow.1⟩, hwindow.2⟩

/-! ## What a sender heeds -/

/-- The write lets a packet into the send window. -/
def LetsIn (start target : World) : Prop := target.window.entered ≠ start.window.entered

/-- An acknowledgement, of which the datagrams of the other end have a copy, covers no more than
what that end had put into its receive buffer when it was sent. What it lets in already under
the old capacity fits into the window that it tells. -/
def Confirms (heard : List Datagram) (start target : World) (packet : UtpPacket) : Prop :=
  (∃ datagram ∈ heard, UtpPacket.fromBytes datagram.packet.toBytes = .ok packet ∧
    start.conn.sendWindow.released + start.conn.sendWindow.coveredBytes packet ≤
      datagram.delivered) ∧
  (LetsIn start target → start.window.capacity ≤ (packet.windowSize / DEFAULT_MTU : Nat))

/-- The writes by which a sender keeps to the room that the other end, whose datagrams are
`heard`, has told. -/
structure Heeds (heard : List Datagram) (start target : World) : Prop where
  /-- Packets enter only where there is room for one. -/
  room : LetsIn start target → DEFAULT_MTU ≤ target.conn.sendWindow.remoteWindow
  /-- A packet enters, or comes to wait, under a number of its own. -/
  fresh : ∀ info : UtpPacketWithExtraInfo,
    target = start.setPacketMap (start.window.put info.packet.seqNr info).resolveNextSetter ∨
      target = start.setPacketMap (start.window.enqueueSetter info.packet.seqNr info) →
    info.packet.seqNr ∉ start.window.backlog
  /-- No packet is given up. -/
  retried : ∀ now seqNr info,
    target = start.setWindow (start.conn.sendWindow.resendOne now seqNr).1 →
      start.window.get seqNr = some info → ¬ start.conn.sendWindow.IsExhausted now info
  /-- Nobody waits to enter when the window is reset. -/
  reset : target = start.resetNow → start.window.waitingSetters = []
  acked : ∀ packet, target = start.handleAck packet → Confirms heard start target packet

/-- Once nothing enters any more, there is nothing to heed. -/
def heeds (heard : List Datagram) : Guard World Label := fun _ _ start target =>
  start.Spent ∨ Heeds heard start target

variable {heard : List Datagram}

/-- What a write does to the window and to what the other end has told. -/
theorem Act.accounts (hact : Act receiving closing writing world next)
    (hheeds : Heeds heard world next) (hdistinct : world.window.backlog.Nodup) :
    (next.conn.sendWindow.remoteWindow = world.conn.sendWindow.remoteWindow ∧
      BlockingMap.Balances UtpSendWindow.size (fun _ => 0) world.window next.window) ∨
    (∃ packet, packet.type = .ST_STATE ∧ next = world.handleAck packet) ∨
    next = world.resetNow := by
  cases hact with
  | env henv =>
      unfold window
      rw [henv.conn]
      exact .inl ⟨rfl, .refl hdistinct⟩
  | register info =>
      exact .inl ⟨rfl, BlockingMap.balances_put hdistinct (hheeds.fresh info (.inl rfl)) rfl⟩
  | waitForRoom info =>
      exact .inl ⟨rfl,
        BlockingMap.balances_enqueueSetter hdistinct (hheeds.fresh info (.inr rfl)) rfl⟩
  | resendOne now seqNr =>
      exact .inl ⟨UtpSendWindow.resendOne_remoteWindow _ now seqNr,
        UtpSendWindow.resendOne_balances now seqNr hdistinct fun info =>
          hheeds.retried now seqNr info rfl⟩
  | resetNow => exact .inr (.inr rfl)
  | handleAck packet _ htype => exact .inr (.inl ⟨packet, htype, rfl⟩)
  | _ => exact .inl ⟨rfl, .refl hdistinct⟩

/-! ## The ledger of a sender -/

/-- What an acknowledgement from `heard` tells fits, behind what was delivered, into `limit`. -/
def Tells (limit : Nat) (heard : List Datagram) : Prop :=
  ∀ datagram ∈ heard, ∀ packet, UtpPacket.fromBytes datagram.packet.toBytes = .ok packet →
    packet.type = .ST_STATE →
      packet.windowSize = 0 ∨ datagram.delivered + packet.windowSize ≤ limit

/-- All that entered the window fits into `limit`, and so does what the other end has room for
behind what has left it. -/
structure Ledger (limit : Nat) (world : World) : Prop where
  limited : world.conn.sendWindow.Limited
  entered : world.conn.sendWindow.enteredBytes ≤ limit
  room : world.Spent ∨ world.window.backlog.Nodup ∧
    (DEFAULT_MTU ≤ world.conn.sendWindow.remoteWindow →
      world.conn.sendWindow.released + world.conn.sendWindow.remoteWindow ≤ limit)

variable {limit : Nat}

theorem Ledger.mono {more : Nat} (hledger : world.Ledger limit) (hmore : limit ≤ more) :
    world.Ledger more where
  limited := hledger.limited
  entered := hledger.entered.trans hmore
  room := hledger.room.imp_right fun ⟨hdistinct, hroom⟩ =>
    ⟨hdistinct, fun hmtu => (hroom hmtu).trans hmore⟩

theorem Ledger.of_conn (hledger : world.Ledger limit) (hconn : next.conn = world.conn) :
    next.Ledger limit := by
  obtain ⟨hlimited, hentered, hroom⟩ := hledger
  refine ⟨hconn ▸ hlimited, hconn ▸ hentered, ?_⟩
  unfold window
  rw [hconn]
  refine hroom.imp_left fun hspent => ⟨?_, ?_, ?_⟩
  · unfold Started
    rw [hconn]
    exact hspent.started
  · exact hconn ▸ hspent.unconnected
  · unfold window
    rw [hconn]
    exact hspent.unblocked

theorem enteredBytes_of_same (hentered : next.window.entered = world.window.entered) :
    next.conn.sendWindow.enteredBytes = world.conn.sendWindow.enteredBytes := by
  have hcharged : (next.window.entered.map fun entry => UtpSendWindow.size entry.2).sum =
      (world.window.entered.map fun entry => UtpSendWindow.size entry.2).sum := by rw [hentered]
  exact hcharged

/-- What enters fits in where there is room behind what has left. -/
theorem Act.entered_le (hact : Act receiving closing writing world next)
    (hentered : world.conn.sendWindow.enteredBytes ≤ limit)
    (hmtu : LetsIn world next → DEFAULT_MTU ≤ next.conn.sendWindow.remoteWindow)
    (hcapacity : LetsIn world next →
      world.window.capacity ≤ (next.conn.sendWindow.remoteWindow / DEFAULT_MTU : Nat))
    (hfits : ∀ entry ∈ next.window.map.entries,
      entry.2.packet.payload.length ≤ DEFAULT_MTU)
    (hroom : DEFAULT_MTU ≤ next.conn.sendWindow.remoteWindow →
      next.conn.sendWindow.released + next.conn.sendWindow.remoteWindow ≤ limit) :
    next.conn.sendWindow.enteredBytes ≤ limit := by
  by_cases hsame : next.window.entered = world.window.entered
  · exact (enteredBytes_of_same hsame).trans_le hentered
  · have hchanged : next.conn.sendWindow ≠ world.conn.sendWindow := fun h =>
      hsame (congrArg (fun window => window.packetMap.entered) h)
    have hstep := hact.sendWindow.resolve_left hchanged
    have hflight := hstep.inFlight_le hsame (hmtu hsame) (hcapacity hsame) hfits
    have hbehind := hroom (hmtu hsame)
    have hsplit := next.conn.sendWindow.enteredBytes_le
    omega

theorem Ledger.act (hledger : world.Ledger limit) (hact : Act receiving closing writing world next)
    (hkeyed : world.window.Every fun key info => key = info.packet.seqNr)
    (hfits : ∀ entry ∈ next.window.map.entries, entry.2.packet.payload.length ≤ DEFAULT_MTU)
    (htells : Tells limit heard) (hheeds : world.Spent ∨ Heeds heard world next) :
    next.Ledger limit := by
  obtain ⟨hlimited, hentered, hroom⟩ := hledger
  have hafter : next.conn.sendWindow.Limited := by
    rcases hact.sendWindow with hsame | hstep
    · exact hsame ▸ hlimited
    · exact hlimited.step hstep
  by_cases hspent : world.Spent
  · obtain ⟨hnext, hsame⟩ := hact.spent hspent
    exact ⟨hafter, (enteredBytes_of_same hsame).trans_le hentered, .inl hnext⟩
  · have hheeded := hheeds.resolve_left hspent
    obtain ⟨hdistinct, hopen⟩ := hroom.resolve_left hspent
    rcases hact.accounts hheeded hdistinct with
      ⟨hremote, hbalances⟩ | ⟨packet, htype, rfl⟩ | rfl
    · -- The other end has told nothing, and nothing leaves.
      have hreleased : next.conn.sendWindow.released ≤ world.conn.sendWindow.released :=
        UtpSendWindow.released_le_of_none hbalances
      have hbehind : DEFAULT_MTU ≤ next.conn.sendWindow.remoteWindow →
          next.conn.sendWindow.released + next.conn.sendWindow.remoteWindow ≤ limit := by
        intro hmtu
        have hbefore := hopen (hremote ▸ hmtu)
        omega
      refine ⟨hafter, hact.entered_le hentered hheeded.room (fun hletsIn => ?_) hfits hbehind,
        .inr ⟨hbalances.distinct, hbehind⟩⟩
      have hone : 1 ≤ world.conn.sendWindow.remoteWindow / DEFAULT_MTU :=
        (Nat.one_le_div_iff (by decide)).mpr (hremote ▸ hheeded.room hletsIn)
      have hallowance : world.conn.sendWindow.allowance =
          world.conn.sendWindow.remoteWindow / DEFAULT_MTU := max_eq_right hone
      rw [hremote, ← hallowance]
      exact hlimited.capacity_le
    · -- An acknowledgement counts from what had been delivered.
      obtain ⟨⟨datagram, hdatagram, hdecodes, hcovered⟩, hcapacity⟩ := hheeded.acked packet rfl
      have hbalances := UtpSendWindow.handleAck_balances world.utp.dateNow packet hdistinct hkeyed
      have hreleased : (world.handleAck packet).conn.sendWindow.released ≤
          world.conn.sendWindow.released + world.conn.sendWindow.coveredBytes packet :=
        UtpSendWindow.released_le hbalances
      have hremote : (world.handleAck packet).conn.sendWindow.remoteWindow = packet.windowSize :=
        UtpSendWindow.handleAck_remoteWindow _ _ _
      have hbehind : DEFAULT_MTU ≤ (world.handleAck packet).conn.sendWindow.remoteWindow →
          (world.handleAck packet).conn.sendWindow.released +
            (world.handleAck packet).conn.sendWindow.remoteWindow ≤ limit := by
        rw [hremote]
        intro hmtu
        have hpos : packet.windowSize ≠ 0 := by
          unfold DEFAULT_MTU at hmtu
          omega
        have htold := (htells datagram hdatagram packet hdecodes htype).resolve_left hpos
        omega
      refine ⟨hafter, hact.entered_le hentered hheeded.room (fun hletsIn => ?_) hfits hbehind,
        .inr ⟨hbalances.distinct, hbehind⟩⟩
      rw [hremote]
      exact hcapacity hletsIn
    · -- Nothing enters behind a reset.
      have hunblocked := hheeded.reset rfl
      have hcleared : world.window.clear.waitingSetters = [] ∧
          world.window.clear.entered = world.window.entered := ⟨hunblocked, rfl⟩
      have hreset := BlockingMap.updateCapacity_entered UtpSendWindow.MIN_WINDOW_SIZE hcleared
      have hsame : world.resetNow.window.entered = world.window.entered := hreset.2
      exact ⟨hafter, (enteredBytes_of_same hsame).trans_le hentered,
        .inl ⟨⟨nofun, nofun⟩, nofun, hreset.1⟩⟩

end World

end Utp
