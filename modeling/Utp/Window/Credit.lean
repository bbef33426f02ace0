import Utp.Buffer.Backlog
import Utp.Window.Limits
import Utp.Window.Outstanding

/-! # What the other end has room for

The bytes in flight are those that entered the window and have not left it. The capacity counts
packets, and so do the full packets that the other end has room for: where it has room for one
at all, what is in flight after a packet enters fits into what the other end has told.
-/

namespace Utp

open Relation (ReflTransGen)

namespace BlockingMap

variable {κ ν : Type} [DecidableEq κ] {before after : BlockingMap κ ν}

/-- If anything enters below a bound on the capacity, the map keeps to the bound then. -/
theorem size_of_entered {bound : Nat} (hchain : ReflTransGen (EntersWithin bound) before after) :
    after.entered = before.entered ∨ after.size ≤ bound := by
  induction hchain with
  | refl => exact .inl rfl
  | @tail middle after _ hstep ih =>
      by_cases hsize : middle.size ≤ bound
      · exact .inr (hstep.enters.size hsize hstep.capacity)
      · have hsame := ih.resolve_right hsize
        refine .inl (Eq.trans ?_ hsame)
        cases hstep.enters with
        | admits hadmits =>
            cases hadmits with
            | enters key value hroom =>
                have hlt : middle.size < bound := by exact_mod_cast hroom.trans_le hstep.capacity
                exact absurd hlt.le hsize
            | lines _ hentered => exact hentered
        | quiet _ hentered => exact hentered
        | capacity _ hentered => exact hentered

/-! ## What leaves the map -/

variable {weight covered : ν → Nat} {self : BlockingMap κ ν} {key : κ} {value : ν}

omit [DecidableEq κ] in
/-- The values that have entered, each with its weight, taken together. -/
def charged (weight : ν → Nat) (self : BlockingMap κ ν) : Nat :=
  (self.entered.map fun entry => weight entry.2).sum

/-- Between two maps nothing has left but what is covered, and no key stands for two values. -/
structure Balances (weight covered : ν → Nat) (before after : BlockingMap κ ν) : Prop where
  distinct : after.backlog.Nodup
  balance : after.charged weight + before.map.total weight + after.total covered ≤
    before.charged weight + after.map.total weight + before.total covered

omit [DecidableEq κ] in
theorem Balances.refl (hdistinct : self.backlog.Nodup) : Balances weight covered self self :=
  ⟨hdistinct, le_rfl⟩

theorem charged_put : (self.put key value).charged weight = self.charged weight + weight value := by
  simp [charged, put]

theorem total_put_fresh (hkey : key ∉ self.map.keys) :
    (self.put key value).map.total weight = self.map.total weight + weight value := by
  change (self.map.set key value).total weight = _
  rw [OrderedMap.total_set, OrderedMap.erase_eq_self hkey]

theorem keys_put_fresh (hkey : key ∉ self.map.keys) :
    (self.put key value).map.keys = self.map.keys ++ [key] := by
  change (self.map.set key value).keys = _
  rw [OrderedMap.keys_set, if_neg hkey]

/-- Who is let in counts as entered and as present. -/
theorem admitWaiting_balance {waiting : List (κ × ν × Nat)}
    (hdistinct : (self.map.keys ++ waiting.map Prod.fst).Nodup) :
    (admitWaiting waiting self).backlog.Nodup ∧
      (admitWaiting waiting self).charged weight + self.map.total weight +
          (admitWaiting waiting self).total covered =
        self.charged weight + (admitWaiting waiting self).map.total weight +
          (self.map.total covered + (waiting.map fun waiter => covered waiter.2.1).sum) := by
  induction waiting generalizing self with
  | nil => exact ⟨hdistinct, rfl⟩
  | cons waiter rest ih =>
      obtain ⟨key, value, id⟩ := waiter
      simp only [admitWaiting]
      split
      next =>
        have hkey : key ∉ self.map.keys := fun hmem =>
          (List.nodup_append.mp hdistinct).2.2 key hmem key (by simp) rfl
        have hrest : ((self.put key value).map.keys ++ rest.map Prod.fst).Nodup := by
          rw [keys_put_fresh hkey, List.append_assoc]
          exact hdistinct
        obtain ⟨hafter, hbalance⟩ := ih hrest
        refine ⟨hafter, ?_⟩
        rw [charged_put, total_put_fresh hkey, total_put_fresh hkey] at hbalance
        simp only [List.map_cons, List.sum_cons]
        omega
      next => exact ⟨hdistinct, rfl⟩

theorem Balances.updateCapacity (hbalances : Balances weight covered before after)
    (capacity : ℚ) : Balances weight covered before (after.updateCapacity capacity) := by
  obtain ⟨hdistinct, hbalance⟩ := hbalances
  obtain ⟨hafter, hadmits⟩ := @admitWaiting_balance κ ν _ weight covered
    { after with capacity := capacity } after.waitingSetters hdistinct
  refine ⟨hafter, ?_⟩
  unfold BlockingMap.updateCapacity resolveNextSetter
  unfold total charged at hbalance hadmits ⊢
  dsimp only at hadmits ⊢
  omega

/-- What is deleted must be covered. -/
theorem Balances.delete (hbalances : Balances weight covered before after) (key : κ)
    (hcovered : ∀ value, after.get key = some value → covered value = weight value) :
    Balances weight covered before (after.delete key) := by
  unfold BlockingMap.delete
  split
  next hkey =>
    obtain ⟨hdistinct, hbalance⟩ := hbalances
    obtain ⟨value, hget⟩ := OrderedMap.exists_get? hkey
    have hweight := @OrderedMap.total_of_get _ _ _ weight _ _ _ hget
    have hcover := @OrderedMap.total_of_get _ _ _ covered _ _ _ hget
    rw [hcovered value hget] at hcover
    have herased : ((after.map.erase key).keys ++ after.waitingSetters.map Prod.fst).Nodup := by
      rw [OrderedMap.keys_erase]
      exact hdistinct.sublist (List.filter_sublist.append_right _)
    obtain ⟨hafter, hadmits⟩ := @admitWaiting_balance κ ν _ weight covered
      { after with map := after.map.erase key } after.waitingSetters herased
    refine ⟨hafter, ?_⟩
    unfold resolveNextSetter
    unfold total charged at hbalance hadmits ⊢
    dsimp only at hadmits ⊢
    omega
  next => exact hbalances

/-- A new value enters, under a key of its own. -/
theorem balances_put (hdistinct : self.backlog.Nodup) (hkey : key ∉ self.backlog)
    (hnone : covered value = 0) :
    Balances weight covered self (self.put key value).resolveNextSetter := by
  have hfresh : key ∉ self.map.keys := fun hmem => hkey (List.mem_append_left _ hmem)
  have hput : ((self.put key value).map.keys ++ self.waitingSetters.map Prod.fst).Nodup := by
    rw [keys_put_fresh hfresh, List.append_assoc]
    apply List.perm_middle.nodup_iff.mpr
    exact List.nodup_cons.mpr ⟨hkey, hdistinct⟩
  obtain ⟨hafter, hadmits⟩ := @admitWaiting_balance κ ν _ weight covered
    (self.put key value) self.waitingSetters hput
  rw [charged_put, total_put_fresh hfresh, total_put_fresh hfresh, hnone] at hadmits
  refine ⟨hafter, ?_⟩
  have hresolve : (self.put key value).resolveNextSetter =
      admitWaiting self.waitingSetters (self.put key value) := rfl
  have htotal : self.total covered = self.map.total covered +
      (self.waitingSetters.map fun waiter => covered waiter.2.1).sum := rfl
  rw [hresolve]
  omega

omit [DecidableEq κ] in
/-- A new setter comes to wait, under a key of its own. -/
theorem balances_enqueueSetter (hdistinct : self.backlog.Nodup) (hkey : key ∉ self.backlog)
    (hnone : covered value = 0) :
    Balances weight covered self (self.enqueueSetter key value) := by
  refine ⟨?_, ?_⟩
  · have happend : (self.enqueueSetter key value).backlog = self.backlog ++ [key] := by
      simp [backlog, enqueueSetter]
    rw [happend]
    simpa using hdistinct.concat hkey
  · have htotal : (self.enqueueSetter key value).total covered = self.total covered := by
      simp [total, enqueueSetter, hnone]
    rw [htotal]
    exact le_rfl

/-- A value is replaced by one that weighs the same. -/
theorem balances_update {old : ν} (hdistinct : self.backlog.Nodup) (hget : self.get key = some old)
    (hweight : weight value = weight old) (hcovered : covered value = covered old) :
    Balances weight covered self (self.update key value) := by
  have hweights := @total_update _ _ _ weight _ _ value _ hget
  have hcovers := @total_update _ _ _ covered _ _ value _ hget
  refine ⟨?_, ?_⟩
  · have hkeys : (self.update key value).backlog = self.backlog := by
      unfold backlog update
      rw [OrderedMap.keys_set, if_pos (OrderedMap.mem_keys_of_get? hget)]
    rw [hkeys]
    exact hdistinct
  · unfold total update at hweights hcovers
    unfold total charged update
    dsimp only at hweights hcovers ⊢
    omega

end BlockingMap

namespace UtpSendWindow

variable {self next : UtpSendWindow}

/-! ## Bytes -/

/-- The data of a packet. -/
def size (info : UtpPacketWithExtraInfo) : Nat := info.packet.payload.length

/-- The data that has entered the window. -/
def enteredBytes (self : UtpSendWindow) : Nat := self.packetMap.charged size

/-- The data in the window. -/
def inFlight (self : UtpSendWindow) : Nat :=
  self.packetMap.map.total size

/-- The data that has left the window again. -/
def released (self : UtpSendWindow) : Nat := self.enteredBytes - self.inFlight

/-- The data of a packet, if an acknowledgement covers it. -/
def coveredSize (self : UtpSendWindow) (ackPacket : UtpPacket) (info : UtpPacketWithExtraInfo) :
    Nat := if self.Covers ackPacket info.packet.seqNr then size info else 0

/-- The data that an acknowledgement covers, in the window and in the line before it. -/
def coveredBytes (self : UtpSendWindow) (ackPacket : UtpPacket) : Nat :=
  self.packetMap.total (self.coveredSize ackPacket)

/-- What the other end has told last. Its buffer is empty at first. -/
def remoteWindow (self : UtpSendWindow) : Nat := self.remoteWindowBytes.getD (256 * 1024)

/-- The packets that there is room for at the other end. -/
def allowance (self : UtpSendWindow) : Nat := max 1 (self.remoteWindow / DEFAULT_MTU)

theorem enteredBytes_le (self : UtpSendWindow) :
    self.enteredBytes ≤ self.released + self.inFlight := by
  unfold released
  omega

theorem windowCapacity_le_allowance (self : UtpSendWindow) :
    self.windowCapacity ≤ self.allowance := by
  cases hbytes : self.remoteWindowBytes with
  | none =>
      have hinitial : (MAX_WINDOW_SIZE : ℚ) ≤ ((max 1 (256 * 1024 / DEFAULT_MTU) : Nat) : ℚ) := by
        decide +kernel
      unfold allowance remoteWindow
      rw [hbytes]
      exact self.windowCapacity_le.trans hinitial
  | some bytes =>
      have hremote := windowCapacity_le_remote hbytes
      unfold allowance remoteWindow
      rw [hbytes, Option.getD_some]
      rw [remotePackets] at hremote
      exact_mod_cast hremote

/-- The capacity never exceeds the packets that the other end has room for. -/
theorem Limited.capacity_le (hself : self.Limited) :
    self.packetMap.capacity ≤ self.allowance := by
  cases hbytes : self.remoteWindowBytes with
  | none =>
      have hinitial : (64 : ℚ) ≤ ((max 1 (256 * 1024 / DEFAULT_MTU) : Nat) : ℚ) := by
        decide +kernel
      unfold allowance remoteWindow
      rw [hbytes]
      exact hself.most.trans hinitial
  | some bytes =>
      have hremote := hself.remote bytes hbytes
      unfold allowance remoteWindow
      rw [hbytes, Option.getD_some]
      rw [remotePackets] at hremote
      exact_mod_cast hremote

/-! ## Operations -/

theorem resendOne_remoteWindow (self : UtpSendWindow) (now seqNr : Nat) :
    (self.resendOne now seqNr).1.remoteWindow = self.remoteWindow := by
  unfold remoteWindow
  rw [(self.resendOne_cases now seqNr).1]

theorem handleAck_remoteWindow (self : UtpSendWindow) (now : Nat) (ackPacket : UtpPacket) :
    (self.handleAck now ackPacket).remoteWindow = ackPacket.windowSize := by
  unfold remoteWindow
  rw [self.handleAck_remote]
  rfl

/-- What leaves a window is covered. -/
theorem released_le {covered : UtpPacketWithExtraInfo → Nat}
    (hbalances : BlockingMap.Balances size covered self.packetMap next.packetMap) :
    next.released ≤ self.released + self.packetMap.total covered := by
  have hbalance := hbalances.balance
  unfold released enteredBytes inFlight
  omega

theorem released_le_of_none
    (hbalances : BlockingMap.Balances size (fun _ => 0) self.packetMap next.packetMap) :
    next.released ≤ self.released := by
  have hmap : self.packetMap.map.total (fun _ => 0) ≤ 0 * self.packetMap.map.size :=
    OrderedMap.total_le fun _ _ => le_rfl
  have hnone : self.packetMap.total (fun _ => 0) = 0 := by
    simp only [BlockingMap.total, List.map_const', List.sum_replicate, nsmul_zero]
    omega
  exact (released_le hbalances).trans_eq (by rw [hnone, Nat.add_zero])

theorem handleAck_balances (now : Nat) (ackPacket : UtpPacket)
    (hdistinct : self.packetMap.backlog.Nodup)
    (hkeyed : self.packetMap.Every fun key info => key = info.packet.seqNr) :
    BlockingMap.Balances size (self.coveredSize ackPacket) self.packetMap
      (self.handleAck now ackPacket).packetMap := by
  let property (map : BlockingMap Nat UtpPacketWithExtraInfo) : Prop :=
    BlockingMap.Balances size (self.coveredSize ackPacket) self.packetMap map ∧
      map.Every fun key info => key = info.packet.seqNr
  refine (handleAck_preserves property now ackPacket ?_ ?_ ⟨.refl hdistinct, hkeyed⟩).1
  · rintro map seqNr hcovers ⟨hbalances, hevery⟩
    refine ⟨hbalances.delete seqNr fun info hinfo => ?_, BlockingMap.every_delete seqNr hevery⟩
    have hkey : seqNr = info.packet.seqNr :=
      hevery.present (seqNr, info) (OrderedMap.get?_eq_some.mp hinfo)
    exact if_pos (hkey ▸ hcovers)
  · rintro map capacity - ⟨hbalances, hevery⟩
    exact ⟨hbalances.updateCapacity capacity, BlockingMap.every_updateCapacity capacity hevery⟩

/-- A round that gives no packet up takes none out of the window. -/
theorem resendOne_balances (now seqNr : Nat) (hdistinct : self.packetMap.backlog.Nodup)
    (hretried : ∀ info, self.packetMap.get seqNr = some info → ¬ self.IsExhausted now info) :
    BlockingMap.Balances size (fun _ => 0) self.packetMap
      (self.resendOne now seqNr).1.packetMap := by
  apply resendOne_preserves (BlockingMap.Balances size (fun _ => 0) self.packetMap) now seqNr
  · exact fun _ info hinfo hexhausted _ => absurd hexhausted (hretried info hinfo)
  · exact fun _ capacity _ hbalances => hbalances.updateCapacity capacity
  · exact fun info _ _ hinfo => BlockingMap.balances_update hdistinct hinfo rfl rfl
  · exact .refl hdistinct

/-- An operation lets packets in below the capacity that was, or below the one that the other
end has room for now. -/
theorem Step.within {bound : ℚ} (hstep : self.Step next)
    (hbefore : self.packetMap.capacity ≤ bound) (hafter : (next.allowance : ℚ) ≤ bound) :
    ReflTransGen (BlockingMap.EntersWithin bound) self.packetMap next.packetMap := by
  cases hstep with
  | register seqNr info => exact BlockingMap.turn_set_within hbefore seqNr info
  | handleAck now ackPacket =>
      obtain ⟨hchain, hcapacity⟩ := self.acknowledged_within now ackPacket hbefore
      have hremote : (self.acknowledged now ackPacket).adjusted.remoteWindow =
          (self.handleAck now ackPacket).remoteWindow := rfl
      have hwindow := (self.acknowledged now ackPacket).adjusted.windowCapacity_le_allowance
      unfold allowance at hwindow hafter
      rw [hremote] at hwindow
      exact hchain.trans (BlockingMap.updateCapacity_within hcapacity (hwindow.trans hafter))
  | resendOne now seqNr =>
      refine (resendOne_within hbefore (fun lossy hlossy => ?_) now seqNr).1
      have hwindow := lossy.windowCapacity_le_allowance
      unfold allowance at hwindow hafter
      rw [resendOne_remoteWindow] at hafter
      unfold remoteWindow at hwindow hafter
      rw [hlossy] at hwindow
      exact hwindow.trans hafter
  | reset =>
      have hclear : BlockingMap.EntersWithin bound self.packetMap self.packetMap.clear :=
        ⟨hbefore, .quiet nofun rfl rfl⟩
      have hinitial : (MIN_WINDOW_SIZE : ℚ) ≤ (self.reset.allowance : ℚ) := by
        have hallowance : self.reset.allowance = max 1 (256 * 1024 / DEFAULT_MTU) := rfl
        rw [hallowance]
        decide +kernel
      have hcleared : self.packetMap.clear.capacity ≤ bound := hbefore
      exact .head hclear (BlockingMap.updateCapacity_within hcleared (hinitial.trans hafter))

/-- If anything enters, and the other end has room for a packet and for all that the capacity
let in before, what is in flight fits into what the other end has told. -/
theorem Step.inFlight_le (hstep : self.Step next)
    (henters : next.packetMap.entered ≠ self.packetMap.entered)
    (hroom : DEFAULT_MTU ≤ next.remoteWindow)
    (hcapacity : self.packetMap.capacity ≤ (next.remoteWindow / DEFAULT_MTU : Nat))
    (hfits : ∀ entry ∈ next.packetMap.map.entries,
      entry.2.packet.payload.length ≤ DEFAULT_MTU) :
    next.inFlight ≤ next.remoteWindow := by
  have hone : 1 ≤ next.remoteWindow / DEFAULT_MTU :=
    (Nat.one_le_div_iff (by decide)).mpr hroom
  have hallowance : next.allowance = next.remoteWindow / DEFAULT_MTU := max_eq_right hone
  have hchain := hstep.within hcapacity (by rw [hallowance])
  have hsize := (BlockingMap.size_of_entered hchain).resolve_left henters
  calc next.inFlight
    _ ≤ DEFAULT_MTU * next.packetMap.map.size := OrderedMap.total_le hfits
    _ ≤ DEFAULT_MTU * (next.remoteWindow / DEFAULT_MTU) := Nat.mul_le_mul_left _ hsize
    _ ≤ next.remoteWindow := Nat.mul_div_le _ _

end UtpSendWindow

end Utp
