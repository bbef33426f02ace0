import Mathlib.Data.List.Forall2
import Mathlib.Data.List.Induction
import Utp.Buffer.BlockingMap

/-! # Who enters the bounded map, and when

Setters wait in line. A setter that finds room finds nobody waiting, as every operation lets
setters in for as long as there is room. So entries come in the order of the calls, and a
setter waits only while the map is full.
-/

namespace Utp

open Relation (ReflTransGen)

namespace BlockingMap

variable {κ ν : Type} [DecidableEq κ]

/-! ## Sequences of calls -/

/-- The calls of a map. -/
inductive Call (κ ν : Type) where
  | set (key : κ) (value : ν)
  | delete (key : κ)
  | updateCapacity (capacity : ℚ)

/-- A call of `set`, and what is left of it after its first turn. -/
structure Setter (κ ν : Type) where
  key : κ
  value : ν
  pending : Option (Async (BlockingMap κ ν) Unit)

namespace Setter

def entry (setter : Setter κ ν) : κ × ν := (setter.key, setter.value)

/-- The promise that the call returned is resolved. -/
def resolved (setter : Setter κ ν) (self : BlockingMap κ ν) : Bool :=
  match setter.pending with
  | some (.await ready _) => ready self
  | _ => true

end Setter

/-- The map with the calls of `set` so far. -/
structure Line (κ ν : Type) where
  map : BlockingMap κ ν
  setters : List (Setter κ ν)

namespace Line

def call (line : Line κ ν) : Call κ ν → Line κ ν
  | .set key value =>
      { map := ((BlockingMap.set key value).turn line.map).1
        setters := line.setters ++
          [⟨key, value, ((BlockingMap.set key value).turn line.map).2⟩] }
  | .delete key => { line with map := line.map.delete key }
  | .updateCapacity capacity => { line with map := line.map.updateCapacity capacity }

def calls (capacity : ℚ) (calls : List (Call κ ν)) : Line κ ν :=
  calls.foldl call ⟨.create capacity, []⟩

end Line

/-- The entries that calls of `set` bring. -/
def Call.entry : Call κ ν → Option (κ × ν)
  | .set key value => some (key, value)
  | _ => none

/-- What a call does before it lets setters in: a deletion makes room, and a change of the
capacity decides how much room there is. -/
def Call.begin (map : BlockingMap κ ν) : Call κ ν → BlockingMap κ ν
  | .set _ _ => map
  | .delete key => { map with map := map.map.erase key }
  | .updateCapacity capacity => { map with capacity := capacity }

/-! ## Entering -/

/-- An entry is let in, for which there is room below the capacity at that moment, or only the
line of the setters changes. -/
inductive LetsIn (before after : BlockingMap κ ν) : Prop
  | enters (key : κ) (value : ν) (hroom : (before.size : ℚ) < before.capacity)
      (hmap : after.map = before.map.set key value)
      (hentered : after.entered = before.entered ++ [(key, value)])
      (hcapacity : after.capacity = before.capacity) : LetsIn before after
  | lines (hmap : after.map = before.map) (hentered : after.entered = before.entered)
      (hcapacity : after.capacity = before.capacity) : LetsIn before after

/-- A change of the map: entries are let in, or change and go, or the capacity is set. -/
inductive Enters (before after : BlockingMap κ ν) : Prop
  | admits (hadmits : LetsIn before after) : Enters before after
  | quiet (hmap : ∀ key ∈ after.map.keys, key ∈ before.map.keys)
      (hentered : after.entered = before.entered) (hcapacity : after.capacity = before.capacity) :
      Enters before after
  | capacity (hmap : after.map = before.map) (hentered : after.entered = before.entered) :
      Enters before after

/-- As `Enters`, with a capacity that is not above a bound. -/
structure EntersWithin (bound : ℚ) (before after : BlockingMap κ ν) : Prop where
  capacity : before.capacity ≤ bound
  enters : Enters before after

variable {map : BlockingMap κ ν} {bound : ℚ}

theorem LetsIn.capacity {after : BlockingMap κ ν} (hadmits : LetsIn map after) :
    after.capacity = map.capacity := by
  cases hadmits with
  | enters _ _ _ _ _ hcapacity => exact hcapacity
  | lines _ _ hcapacity => exact hcapacity

/-- Letting setters in leaves the capacity, so it stays below every bound. -/
theorem within_of_letsIn {after : BlockingMap κ ν} (hbound : map.capacity ≤ bound)
    (hchain : ReflTransGen LetsIn map after) : ReflTransGen (EntersWithin bound) map after := by
  induction hchain using ReflTransGen.head_induction_on with
  | refl => exact .refl
  | head hadmits _ ih =>
      have hnext := hadmits.capacity.trans_le hbound
      exact .head ⟨hbound, .admits hadmits⟩ (ih hnext)

/-- Every setter that is let in finds room at that moment. -/
theorem admitWaiting_letsIn (waiting : List (κ × ν × Nat)) (map : BlockingMap κ ν) :
    ReflTransGen LetsIn map (BlockingMap.admitWaiting waiting map) := by
  induction waiting generalizing map with
  | nil => exact .single (.lines rfl rfl rfl)
  | cons waiter rest ih =>
      obtain ⟨key, value, number⟩ := waiter
      simp only [BlockingMap.admitWaiting]
      split
      next hroom =>
        have hput : LetsIn map (map.put key value) :=
          .enters key value (of_decide_eq_true hroom) rfl rfl rfl
        exact .head hput (ih _)
      next => exact .single (.lines rfl rfl rfl)

/-- After `resolveNextSetter` entries have been let in one at a time, each with room at that
moment. -/
theorem resolveNextSetter_letsIn (map : BlockingMap κ ν) :
    ReflTransGen LetsIn map map.resolveNextSetter := admitWaiting_letsIn _ _

/-- A deletion lets setters in the same way, once the entry is gone. -/
theorem delete_letsIn (map : BlockingMap κ ν) (key : κ) :
    ReflTransGen LetsIn { map with map := map.map.erase key } (map.delete key) := by
  unfold BlockingMap.delete
  split
  next => exact resolveNextSetter_letsIn _
  next hkey => exact .single (.lines (OrderedMap.erase_eq_self hkey).symm rfl rfl)

/-- A deletion stays within any bound on the capacity. -/
theorem delete_within (hbound : map.capacity ≤ bound) (key : κ) :
    ReflTransGen (EntersWithin bound) map (map.delete key) := by
  have herase : EntersWithin bound map { map with map := map.map.erase key } :=
    ⟨hbound, .quiet (fun _ hother => (OrderedMap.mem_keys_erase.mp hother).1) rfl rfl⟩
  have hadmits : ReflTransGen (EntersWithin bound) { map with map := map.map.erase key } _ :=
    within_of_letsIn hbound (delete_letsIn map key)
  exact .head herase hadmits

/-- A change of the capacity stays within a bound on both capacities. -/
theorem updateCapacity_within (hbound : map.capacity ≤ bound) {capacity : ℚ}
    (hcapacity : capacity ≤ bound) :
    ReflTransGen (EntersWithin bound) map (map.updateCapacity capacity) := by
  have hchange : EntersWithin bound map { map with capacity := capacity } :=
    ⟨hbound, .capacity rfl rfl⟩
  have hadmits : ReflTransGen (EntersWithin bound) { map with capacity := capacity } _ :=
    within_of_letsIn hcapacity (resolveNextSetter_letsIn _)
  exact .head hchange hadmits

/-- The capacity is only changed by the call that sets it. -/
theorem admitWaiting_capacity (waiting : List (κ × ν × Nat)) (map : BlockingMap κ ν) :
    (BlockingMap.admitWaiting waiting map).capacity = map.capacity := by
  induction waiting generalizing map with
  | nil => rfl
  | cons waiter rest ih =>
      obtain ⟨key, value, number⟩ := waiter
      simp only [BlockingMap.admitWaiting]
      split
      next => exact ih _
      next => rfl

@[simp] theorem delete_capacity (map : BlockingMap κ ν) (key : κ) :
    (map.delete key).capacity = map.capacity := by
  unfold BlockingMap.delete
  split
  next => exact admitWaiting_capacity _ _
  next => rfl

@[simp] theorem updateCapacity_capacity (map : BlockingMap κ ν) (capacity : ℚ) :
    (map.updateCapacity capacity).capacity = capacity := admitWaiting_capacity _ _

/-! ## The first turn of `set` -/

/-- What `set` awaits when the map is full. -/
def promise (id : Nat) : Async (BlockingMap κ ν) Unit :=
  .await (fun now => now.isResolved id) (.pure ())

/-- With room, `set` puts its entry and returns. -/
theorem turn_set_room (key : κ) (value : ν) (hroom : map.hasRoom = true) :
    (BlockingMap.set key value).turn map = ((map.put key value).resolveNextSetter, none) := by
  simp [BlockingMap.set, Async.get, Async.bind, Async.turn, Async.modify, hroom]

/-- Without room, `set` joins the line and waits. -/
theorem turn_set_full (key : κ) (value : ν) (hfull : map.hasRoom = false) :
    (BlockingMap.set key value).turn map =
      (map.enqueueSetter key value, some (promise map.nextSetter)) := by
  simp [BlockingMap.set, Async.get, Async.bind, Async.turn, Async.modify, Async.waitUntil, hfull,
    promise]

/-- The entry of `set` comes only where there is room. -/
theorem turn_set_letsIn (map : BlockingMap κ ν) (key : κ) (value : ν) :
    ReflTransGen LetsIn map ((BlockingMap.set key value).turn map).1 := by
  cases hroom : map.hasRoom with
  | true =>
      rw [turn_set_room key value hroom]
      have hput : LetsIn map (map.put key value) :=
        .enters key value (of_decide_eq_true hroom) rfl rfl rfl
      exact .head hput (resolveNextSetter_letsIn _)
  | false =>
      rw [turn_set_full key value hroom]
      exact .single (.lines rfl rfl rfl)

theorem turn_set_within (hbound : map.capacity ≤ bound) (key : κ) (value : ν) :
    ReflTransGen (EntersWithin bound) map ((BlockingMap.set key value).turn map).1 :=
  within_of_letsIn hbound (turn_set_letsIn map key value)

/-- `set` leaves the capacity as it is. -/
theorem turn_set_capacity (map : BlockingMap κ ν) (key : κ) (value : ν) :
    ((BlockingMap.set key value).turn map).1.capacity = map.capacity := by
  cases hroom : map.hasRoom with
  | true =>
      rw [turn_set_room key value hroom]
      exact admitWaiting_capacity _ _
  | false => rw [turn_set_full key value hroom]; rfl

/-! ## One setter after the other -/

/-- The setter stands in line. -/
structure Waits (setter : Setter κ ν) (waiter : κ × ν × Nat) : Prop where
  entry : setter.entry = (waiter.1, waiter.2.1)
  pending : setter.pending = some (promise waiter.2.2)

/-- The setter has been let in, under a number that nobody has in line. -/
def Left (map : BlockingMap κ ν) (setter : Setter κ ν) : Prop :=
  setter.pending = none ∨ ∃ id < map.nextSetter, setter.pending = some (promise id) ∧
    ∀ waiter ∈ map.waitingSetters, waiter.2.2 ≠ id

/-- The calls that have been let in are the first ones, and the others stand in line in their
order. -/
structure Queues (past present : List (Setter κ ν)) (map : BlockingMap κ ν) : Prop where
  entered : past.map Setter.entry = map.entered
  left : ∀ setter ∈ past, map.Left setter
  waiting : List.Forall₂ Waits present map.waitingSetters
  ids : map.waitingSetters.Pairwise fun first second => first.2.2 ≠ second.2.2
  fresh : ∀ waiter ∈ map.waitingSetters, waiter.2.2 < map.nextSetter

variable {past present : List (Setter κ ν)}

/-- The first in line is let in: it leaves the line and takes nobody else's number. -/
theorem Queues.letIn {setter : Setter κ ν} {key : κ} {value : ν} {number : Nat}
    {rest : List (κ × ν × Nat)}
    (hqueues : Queues past (setter :: present)
      { map with waitingSetters := (key, value, number) :: rest }) :
    Queues (past ++ [setter]) present { map.put key value with waitingSetters := rest } := by
  obtain ⟨hhead, hrest⟩ := List.forall₂_cons.mp hqueues.waiting
  obtain ⟨hfirst, hlater⟩ := List.pairwise_cons.mp hqueues.ids
  refine ⟨?_, ?_, hrest, hlater, ?_⟩
  · have hentered : past.map Setter.entry = map.entered := hqueues.entered
    rw [List.map_append, hentered, List.map_singleton, hhead.entry]
    rfl
  · intro other hother
    rcases List.mem_append.mp hother with hold | hnew
    · refine (hqueues.left other hold).imp_right ?_
      rintro ⟨earlier, hlt, hpending, hunused⟩
      exact ⟨earlier, hlt, hpending, fun waiter hwaiter =>
        hunused waiter (List.mem_cons_of_mem _ hwaiter)⟩
    · rw [List.mem_singleton.mp hnew]
      exact .inr ⟨number, hqueues.fresh _ List.mem_cons_self, hhead.pending,
        fun waiter hwaiter => Ne.symm (hfirst waiter hwaiter)⟩
  · exact fun waiter hwaiter => hqueues.fresh waiter (List.mem_cons_of_mem _ hwaiter)

/-- Nobody waits while there is room. -/
def Packed (map : BlockingMap κ ν) : Prop := map.waitingSetters = [] ∨ map.hasRoom = false

/-- Letting setters in keeps the order, and ends when the map is full or nobody waits. -/
theorem Queues.admitWaiting {waiting : List (κ × ν × Nat)}
    (hqueues : Queues past present { map with waitingSetters := waiting }) :
    (∃ more later, present = more ++ later ∧
      Queues (past ++ more) later (BlockingMap.admitWaiting waiting map)) ∧
    (BlockingMap.admitWaiting waiting map).Packed := by
  induction waiting generalizing past present map with
  | nil =>
      refine ⟨⟨[], present, rfl, ?_⟩, .inl rfl⟩
      rw [List.append_nil]
      exact hqueues
  | cons waiter rest ih =>
      obtain ⟨key, value, number⟩ := waiter
      simp only [BlockingMap.admitWaiting]
      split
      next hroom =>
        cases present with
        | nil => cases hqueues.waiting
        | cons setter present =>
            obtain ⟨⟨more, later, rfl, hlater⟩, hpacked⟩ := ih hqueues.letIn
            refine ⟨⟨setter :: more, later, rfl, ?_⟩, hpacked⟩
            simpa using hlater
      next hfull =>
        refine ⟨⟨[], present, rfl, ?_⟩, .inr (Bool.not_eq_true _ ▸ hfull)⟩
        rw [List.append_nil]
        exact hqueues

/-- A call that finds room stands in front of an empty line. -/
theorem Queues.put (hqueues : Queues past [] map) {setter : Setter κ ν}
    (hpending : setter.pending = none) :
    Queues (past ++ [setter]) [] (map.put setter.key setter.value) where
  entered := by
    rw [List.map_append, hqueues.entered]
    rfl
  left other hother := by
    rcases List.mem_append.mp hother with hold | hnew
    · exact hqueues.left other hold
    · rw [List.mem_singleton.mp hnew]
      exact .inl hpending
  waiting := hqueues.waiting
  ids := hqueues.ids
  fresh := hqueues.fresh

omit [DecidableEq κ] in
/-- A call that finds none stands at the end of the line. -/
theorem Queues.enqueueSetter (hqueues : Queues past present map) {setter : Setter κ ν}
    (hpending : setter.pending = some (promise map.nextSetter)) :
    Queues past (present ++ [setter]) (map.enqueueSetter setter.key setter.value) where
  entered := hqueues.entered
  left other hother := by
    refine (hqueues.left other hother).imp_right ?_
    rintro ⟨number, hlt, hother, hunused⟩
    refine ⟨number, Nat.lt_succ_of_lt hlt, hother, fun waiter hwaiter => ?_⟩
    rcases List.mem_append.mp hwaiter with hold | hnew
    · exact hunused waiter hold
    · rw [List.mem_singleton.mp hnew]
      exact Nat.ne_of_gt hlt
  waiting := List.rel_append hqueues.waiting (.cons ⟨rfl, hpending⟩ .nil)
  ids := by
    apply List.pairwise_append.mpr
    refine ⟨hqueues.ids, List.pairwise_singleton _ _, fun waiter hwaiter other hother => ?_⟩
    rw [List.mem_singleton.mp hother]
    exact Nat.ne_of_lt (hqueues.fresh waiter hwaiter)
  fresh waiter hwaiter := by
    rcases List.mem_append.mp hwaiter with hold | hnew
    · exact Nat.lt_succ_of_lt (hqueues.fresh waiter hold)
    · rw [List.mem_singleton.mp hnew]
      exact Nat.lt_succ_self _

/-! ## One call after the other -/

/-- What holds after every sequence of calls. -/
structure Orderly (line : Line κ ν) : Prop where
  queues : ∃ past present, line.setters = past ++ present ∧ Queues past present line.map
  packed : line.map.Packed

variable {line : Line κ ν}

/-- Once the line has moved up, the state is orderly. -/
theorem Orderly.resolve (map : BlockingMap κ ν)
    (hqueues : ∃ past present, line.setters = past ++ present ∧ Queues past present map)
    (hmap : line.map = map.resolveNextSetter) : Orderly line := by
  obtain ⟨past, present, hsetters, hqueues⟩ := hqueues
  obtain ⟨⟨more, later, rfl, hlater⟩, hpacked⟩ := Queues.admitWaiting hqueues
  refine ⟨⟨past ++ more, later, ?_, ?_⟩, ?_⟩
  · rw [hsetters, List.append_assoc]
  · rw [hmap]
    exact hlater
  · rw [hmap]
    exact hpacked

/-- Every call keeps the order. -/
theorem Orderly.call (horderly : Orderly line) (call : Call κ ν) : Orderly (line.call call) := by
  obtain ⟨⟨past, present, hsetters, hqueues⟩, hpacked⟩ := horderly
  cases call with
  | set key value =>
      cases hroom : line.map.hasRoom with
      | true =>
          have hempty : line.map.waitingSetters = [] := by
            simpa [Packed, hroom] using hpacked
          have hnone : present = [] := by
            have hwaiting := hqueues.waiting
            rw [hempty] at hwaiting
            exact List.forall₂_nil_right_iff.mp hwaiting
          subst hnone
          have hturn := turn_set_room key value hroom
          apply Orderly.resolve (line.map.put key value)
          · refine ⟨past ++ [⟨key, value, none⟩], [], ?_, hqueues.put rfl⟩
            simp [Line.call, hturn, hsetters]
          · simp [Line.call, hturn]
      | false =>
          have hturn := turn_set_full key value hroom
          refine ⟨⟨past, present ++ [⟨key, value, some (promise line.map.nextSetter)⟩], ?_, ?_⟩,
            .inr ?_⟩
          all_goals simp only [Line.call, hturn]
          · rw [hsetters, List.append_assoc]
          · exact hqueues.enqueueSetter rfl
          · exact hroom
  | delete key =>
      by_cases hkey : key ∈ line.map.map.keys
      · apply Orderly.resolve { line.map with map := line.map.map.erase key }
        · exact ⟨past, present, hsetters, ⟨hqueues.entered, hqueues.left, hqueues.waiting,
            hqueues.ids, hqueues.fresh⟩⟩
        · exact if_pos hkey
      · have hdelete : line.call (.delete key) = line := by
          simp [Line.call, BlockingMap.delete, hkey]
        rw [hdelete]
        exact ⟨⟨past, present, hsetters, hqueues⟩, hpacked⟩
  | updateCapacity capacity =>
      apply Orderly.resolve { line.map with capacity := capacity }
      · exact ⟨past, present, hsetters, ⟨hqueues.entered, hqueues.left, hqueues.waiting,
          hqueues.ids, hqueues.fresh⟩⟩
      · rfl

/-- Who enters at a call finds room, below the capacity that the call finds or sets. -/
theorem Line.call_letsIn (line : Line κ ν) (call : Call κ ν) :
    ReflTransGen LetsIn (call.begin line.map) (line.call call).map := by
  cases call with
  | set key value => exact turn_set_letsIn line.map key value
  | delete key => exact delete_letsIn line.map key
  | updateCapacity capacity => exact resolveNextSetter_letsIn _

/-! ## All calls -/

/-- One more call is a call after the others. -/
theorem Line.calls_append (capacity : ℚ) (calls : List (Call κ ν)) (call : Call κ ν) :
    Line.calls capacity (calls ++ [call]) = (Line.calls capacity calls).call call := by
  rw [Line.calls, List.foldl_append]
  rfl

/-- The run lemma: every sequence of calls leaves the map orderly. -/
theorem orderly_calls (capacity : ℚ) (calls : List (Call κ ν)) :
    Orderly (Line.calls capacity calls) := by
  induction calls using List.reverseRecOn with
  | nil => exact ⟨⟨[], [], rfl, ⟨rfl, nofun, .nil, .nil, nofun⟩⟩, .inl rfl⟩
  | append_singleton calls call ih =>
      rw [Line.calls_append]
      exact ih.call call

/-- The setters are the calls of `set`, in their order. -/
theorem setters_calls (capacity : ℚ) (calls : List (Call κ ν)) :
    (Line.calls capacity calls).setters.map Setter.entry = calls.filterMap Call.entry := by
  induction calls using List.reverseRecOn with
  | nil => rfl
  | append_singleton calls call ih =>
      rw [Line.calls_append, List.filterMap_append, ← ih]
      cases call <;> simp [Line.call, Call.entry, Setter.entry]

/-- Entries come in the order of the calls of `set`, one each, and only where there is room at
that moment; the calls that are resolved are those whose entry has come; and nobody waits for
nothing. -/
structure Fair (capacity : ℚ) (calls : List (Call κ ν)) : Prop where
  order : (Line.calls capacity calls).map.entered <+: calls.filterMap Call.entry
  once : (Line.calls capacity calls).map.entered.Nodup
  admits : ∀ before call, before ++ [call] <+: calls →
    ReflTransGen LetsIn (call.begin (Line.calls capacity before).map)
      (Line.calls capacity (before ++ [call])).map
  resolved : ∀ setter ∈ (Line.calls capacity calls).setters,
    setter.resolved (Line.calls capacity calls).map = true ↔
      setter.entry ∈ (Line.calls capacity calls).map.entered
  full : ∀ setter ∈ (Line.calls capacity calls).setters,
    setter.resolved (Line.calls capacity calls).map = false →
      (Line.calls capacity calls).map.capacity ≤ (Line.calls capacity calls).map.size

omit [DecidableEq κ] in
/-- A setter that was let in has its promise resolved. -/
theorem Left.resolved {setter : Setter κ ν} (hleft : map.Left setter) :
    setter.resolved map = true := by
  unfold Setter.resolved
  rcases hleft with hnone | ⟨number, -, hpending, hunused⟩
  · rw [hnone]
  · rw [hpending]
    exact List.all_eq_true.mpr fun waiter hwaiter => decide_eq_true (hunused waiter hwaiter)

omit [DecidableEq κ] in
/-- A setter in line has not. -/
theorem Waits.unresolved {setter : Setter κ ν} {waiter : κ × ν × Nat} (hwaits : Waits setter waiter)
    (hwaiter : waiter ∈ map.waitingSetters) : setter.resolved map = false := by
  unfold Setter.resolved
  rw [hwaits.pending]
  apply Bool.eq_false_iff.mpr
  intro hall
  exact of_decide_eq_true (List.all_eq_true.mp hall waiter hwaiter) rfl

omit [DecidableEq κ] in
theorem exists_waiter {setter : Setter κ ν} {waiting : List (κ × ν × Nat)}
    (hwaiting : List.Forall₂ Waits present waiting) (hsetter : setter ∈ present) :
    ∃ waiter ∈ waiting, Waits setter waiter := by
  induction hwaiting with
  | nil => cases hsetter
  | cons hfirst _ ih =>
      rcases List.mem_cons.mp hsetter with rfl | hrest
      · exact ⟨_, List.mem_cons_self, hfirst⟩
      · obtain ⟨waiter, hwaiter, hwaits⟩ := ih hrest
        exact ⟨waiter, List.mem_cons_of_mem _ hwaiter, hwaits⟩

/-- The map is fair to its setters, whatever is called. -/
theorem calls_fair (capacity : ℚ) (calls : List (Call κ ν))
    (hdistinct : ((calls.filterMap Call.entry).map Prod.fst).Nodup) : Fair capacity calls := by
  obtain ⟨⟨past, present, hsetters, hqueues⟩, hpacked⟩ := orderly_calls capacity calls
  have hentries : (Line.calls capacity calls).map.entered ++ present.map Setter.entry =
      calls.filterMap Call.entry := by
    rw [← setters_calls capacity, hsetters, List.map_append, hqueues.entered]
  have hnodup := hdistinct.of_map
  rw [← hentries, List.nodup_append] at hnodup
  obtain ⟨honce, -, hdisjoint⟩ := hnodup
  have hwaits : ∀ setter ∈ present, setter.resolved (Line.calls capacity calls).map = false ∧
      (Line.calls capacity calls).map.waitingSetters ≠ [] := by
    intro setter hsetter
    obtain ⟨waiter, hwaiter, hwaits⟩ := exists_waiter hqueues.waiting hsetter
    exact ⟨hwaits.unresolved hwaiter, List.ne_nil_of_mem hwaiter⟩
  refine ⟨?_, honce, ?_, ?_, ?_⟩
  · rw [← hentries]
    exact List.prefix_append _ _
  · intro before call _
    rw [Line.calls_append]
    exact Line.call_letsIn _ call
  · intro setter hsetter
    rw [hsetters] at hsetter
    rcases List.mem_append.mp hsetter with hpast | hpresent
    · refine ⟨fun _ => ?_, fun _ => (hqueues.left setter hpast).resolved⟩
      rw [← hqueues.entered]
      exact List.mem_map_of_mem hpast
    · refine ⟨fun hresolved => ?_, fun hentered => ?_⟩
      · rw [(hwaits setter hpresent).1] at hresolved
        cases hresolved
      · exact absurd rfl (hdisjoint _ hentered _ (List.mem_map_of_mem hpresent))
  · intro setter hsetter hunresolved
    rw [hsetters] at hsetter
    rcases List.mem_append.mp hsetter with hpast | hpresent
    · rw [(hqueues.left setter hpast).resolved] at hunresolved
      cases hunresolved
    · have hfull := hpacked.resolve_left (hwaits setter hpresent).2
      exact not_lt.mp (of_decide_eq_false hfull)

/-- Three setters for two places, of which one is given up. -/
theorem calls_fair_sample :
    Fair 2 [.set 1 10, .set 2 20, .set 3 30, .delete 1, .updateCapacity (1 / 2)] :=
  calls_fair 2 _ (by decide)

end BlockingMap

end Utp
