import Mathlib.Data.List.Basic
import Mathlib.Data.List.Induction
import Mathlib.Tactic.Common

/-! # The listener

A listener hands the connections that arrive to the calls of `accept`. It has room for one
waiting call: a second one takes the place of the first, which then waits forever. A call that
waits when the listener is closed is given `null`, and an iterator passes that on as a
connection.
-/

namespace Utp

/-- `accept` returns a promise: resolved, or the one under a number. -/
inductive AcceptPromise (α : Type) where
  | resolved (conn : α)
  | waits (id : Nat)
  deriving DecidableEq

/-- `value` is `none` for `null`. -/
structure IteratorResult (α : Type) where
  value : Option α
  done : Bool
  deriving DecidableEq

/-- `settled` is the history of the promises that were resolved and `closeCalls` that of the
calls of a connection's `close`. -/
structure UTPListener (α : Type) where
  connections : List α
  pendingConnections : List α
  isClosed : Bool
  resolveNext : Option Nat
  nextPromise : Nat
  settled : List (Nat × Option α)
  closeCalls : List α

namespace UTPListener

variable {α : Type}

def create : UTPListener α where
  connections := []
  pendingConnections := []
  isClosed := false
  resolveNext := none
  nextPromise := 0
  settled := []
  closeCalls := []

/-- `this.resolveNext(conn)`, after which the slot is free. -/
def resolve (self : UTPListener α) (id : Nat) (conn : Option α) : UTPListener α :=
  { self with settled := self.settled ++ [(id, conn)], resolveNext := none }

def addConnection (self : UTPListener α) (conn : α) : UTPListener α :=
  if self.isClosed then { self with closeCalls := self.closeCalls ++ [conn] }
  else
    let listed := { self with connections := self.connections ++ [conn] }
    match self.resolveNext with
    | some id => listed.resolve id (some conn)
    | none => { listed with pendingConnections := self.pendingConnections ++ [conn] }

def accept (self : UTPListener α) : UTPListener α × Except String (AcceptPromise α) :=
  if self.isClosed then (self, .error "Listener is closed")
  else
    match self.pendingConnections with
    | conn :: rest => ({ self with pendingConnections := rest }, .ok (.resolved conn))
    | [] =>
        ({ self with resolveNext := some self.nextPromise, nextPromise := self.nextPromise + 1 },
          .ok (.waits self.nextPromise))

def close (self : UTPListener α) : UTPListener α :=
  let closed :=
    { self with
      isClosed := true
      closeCalls := self.closeCalls ++ self.connections
      connections := []
      pendingConnections := [] }
  match self.resolveNext with
  | some id => closed.resolve id none
  | none => closed

end UTPListener

/-- A call of `accept`, or of an iterator's `next`, and what `accept` returned or threw. -/
structure Caller (α : Type) where
  iterates : Bool
  accepted : Except String (AcceptPromise α)

namespace Caller

variable {α : Type}

/-- What has come of the call of `accept`; `none` while it waits. -/
def outcome (caller : Caller α) (listener : UTPListener α) : Option (Except String (Option α)) :=
  match caller.accepted with
  | .error error => some (.error error)
  | .ok (.resolved conn) => some (.ok (some conn))
  | .ok (.waits id) => (listener.settled.lookup id).map .ok

/-- What `next` makes of it. -/
def iterated (caller : Caller α) (listener : UTPListener α) : Option (IteratorResult α) :=
  (caller.outcome listener).map fun
    | .ok conn => ⟨conn, false⟩
    | .error _ => ⟨none, true⟩

/-- The connection that the call has been given. -/
def received (caller : Caller α) (listener : UTPListener α) : Option α :=
  match caller.outcome listener with
  | some (.ok conn) => conn
  | _ => none

end Caller

/-! ## Runs -/

inductive ListenerEvent (α : Type) where
  | add (conn : α)
  | accept (iterates : Bool)
  | close
  deriving DecidableEq

/-- A listener with all calls so far. -/
structure Lobby (α : Type) where
  listener : UTPListener α
  callers : List (Caller α)

namespace Lobby

variable {α : Type}

def step (lobby : Lobby α) : ListenerEvent α → Lobby α
  | .add conn => { lobby with listener := lobby.listener.addConnection conn }
  | .accept iterates =>
      { listener := lobby.listener.accept.1
        callers := lobby.callers ++ [⟨iterates, lobby.listener.accept.2⟩] }
  | .close => { lobby with listener := lobby.listener.close }

def run (events : List (ListenerEvent α)) : Lobby α := events.foldl step ⟨.create, []⟩

theorem run_append (events : List (ListenerEvent α)) (event : ListenerEvent α) :
    run (events ++ [event]) = (run events).step event := by
  rw [run, List.foldl_append]
  rfl

/-- The connections that are added before the listener is closed. -/
def arrivals : List (ListenerEvent α) → List α
  | [] => []
  | .add conn :: rest => conn :: arrivals rest
  | .accept _ :: rest => arrivals rest
  | .close :: _ => []

theorem arrivals_of_open {events : List (ListenerEvent α)} (hopen : .close ∉ events)
    (event : ListenerEvent α) :
    arrivals (events ++ [event]) = arrivals events ++ arrivals [event] := by
  induction events with
  | nil => rfl
  | cons first rest ih =>
      have hrest : .close ∉ rest := fun hclose => hopen (List.mem_cons_of_mem _ hclose)
      cases first with
      | add conn => simpa [arrivals] using ih hrest
      | accept iterates => simpa [arrivals] using ih hrest
      | close => exact absurd List.mem_cons_self hopen

theorem arrivals_of_closed {events : List (ListenerEvent α)} (hclosed : .close ∈ events)
    (event : ListenerEvent α) : arrivals (events ++ [event]) = arrivals events := by
  induction events with
  | nil => cases hclosed
  | cons first rest ih =>
      cases first with
      | add conn => simpa [arrivals] using ih (by simpa using hclosed)
      | accept iterates => simpa [arrivals] using ih (by simpa using hclosed)
      | close => rfl

/-- Every connection that was added goes to one call, in the order of arrival; no call waits
while a connection does or after the end; no iterator yields `null`, and all of its calls that
wait at the end or come after it are done. -/
structure Handled (events : List (ListenerEvent α)) : Prop where
  order : (run events).callers.filterMap (Caller.received · (run events).listener) <+:
    arrivals events
  complete : (run events).listener.isClosed = false →
    (run events).callers.filterMap (Caller.received · (run events).listener) ++
      (run events).listener.pendingConnections = arrivals events
  waits : ∀ caller ∈ (run events).callers, caller.outcome (run events).listener = none →
    (run events).listener.pendingConnections = [] ∧ (run events).listener.isClosed = false
  yields : ∀ caller ∈ (run events).callers, caller.iterates = true →
    caller.iterated (run events).listener ≠ some ⟨none, false⟩
  ends : ∀ before after : List (ListenerEvent α), events = before ++ .close :: after →
    ∀ (index : Nat) (caller : Caller α), (run events).callers[index]? = some caller →
      caller.iterates = true →
      ((run before).callers[index]? = none ∨ caller.outcome (run before).listener = none) →
        ∃ value, caller.iterated (run events).listener = some ⟨value, true⟩

/-- A call that would wait finds no other one waiting, and no iterator waits at the end. -/
def Permits (lobby : Lobby α) : ListenerEvent α → Prop
  | .add _ => True
  | .accept _ => lobby.listener.isClosed = true ∨ lobby.listener.pendingConnections ≠ [] ∨
      lobby.listener.resolveNext = none
  | .close => ∀ caller ∈ lobby.callers, caller.iterates = true →
      caller.outcome lobby.listener ≠ none

def Attended (events : List (ListenerEvent α)) : Prop :=
  ∀ before event, before ++ [event] <+: events → (run before).Permits event

/-! ## What the calls get -/

end Lobby

namespace Caller

variable {α : Type} {caller : Caller α} {listener later : UTPListener α}

/-- What has come of a call stays. -/
theorem outcome_mono (hsettled : listener.settled <+: later.settled)
    (hanswered : caller.outcome listener ≠ none) :
    caller.outcome later = caller.outcome listener := by
  obtain ⟨more, hmore⟩ := hsettled
  unfold outcome at hanswered ⊢
  cases haccepted : caller.accepted with
  | error error => rfl
  | ok promise =>
      cases promise with
      | resolved conn => rfl
      | waits id =>
          cases hlookup : listener.settled.lookup id with
          | none => simp [haccepted, hlookup] at hanswered
          | some conn => simp [← hmore, List.lookup_append, hlookup]

theorem received_congr (houtcome : caller.outcome later = caller.outcome listener) :
    caller.received later = caller.received listener := by
  unfold received
  rw [houtcome]

end Caller

namespace Lobby

variable {α : Type} {lobby : Lobby α} {events : List (ListenerEvent α)}

/-- The call that waits, if any, is the last one. -/
inductive Line (lobby : Lobby α) : Prop
  | idle (hanswered : ∀ caller ∈ lobby.callers, caller.outcome lobby.listener ≠ none)
      (hslot : lobby.listener.resolveNext = none) : Line lobby
  | waits (done : List (Caller α)) (last : Caller α) (id : Nat)
      (hcallers : lobby.callers = done ++ [last])
      (hanswered : ∀ caller ∈ done, caller.outcome lobby.listener ≠ none)
      (hlast : last.accepted = .ok (.waits id)) (hslot : lobby.listener.resolveNext = some id)
      (hunsettled : lobby.listener.settled.lookup id = none)
      (hpending : lobby.listener.pendingConnections = [])
      (hopen : lobby.listener.isClosed = false) : Line lobby

def given (lobby : Lobby α) : List α :=
  lobby.callers.filterMap (Caller.received · lobby.listener)

/-- What holds after attended events. -/
structure Serves (events : List (ListenerEvent α)) (lobby : Lobby α) : Prop where
  line : lobby.Line
  closed : lobby.listener.isClosed = true ↔ .close ∈ events
  settled : ∀ entry ∈ lobby.listener.settled, entry.1 < lobby.listener.nextPromise
  slot : ∀ id, lobby.listener.resolveNext = some id → id < lobby.listener.nextPromise
  order : lobby.given <+: arrivals events
  complete : lobby.listener.isClosed = false →
    lobby.given ++ lobby.listener.pendingConnections = arrivals events
  dropped : lobby.listener.isClosed = true → lobby.listener.pendingConnections = []
  yields : ∀ caller ∈ lobby.callers, caller.iterates = true →
    caller.outcome lobby.listener ≠ some (.ok none)

theorem Serves.not_closed (hserves : Serves events lobby)
    (hopen : lobby.listener.isClosed = false) : .close ∉ events := fun hclose => by
  rw [hserves.closed.mpr hclose] at hopen
  cases hopen

/-- A later listener tells the same of the calls that have been answered. -/
theorem given_congr {callers : List (Caller α)} {listener later : UTPListener α}
    (hsettled : listener.settled <+: later.settled)
    (hanswered : ∀ caller ∈ callers, caller.outcome listener ≠ none) :
    callers.filterMap (Caller.received · later) = callers.filterMap (Caller.received · listener) :=
  List.filterMap_congr fun caller hcaller =>
    Caller.received_congr (Caller.outcome_mono hsettled (hanswered caller hcaller))

/-! ## One event -/

/-- The slot is resolved: the call that waited has its answer. -/
theorem Line.resolve (hline : lobby.Line) {id : Nat} (hslot : lobby.listener.resolveNext = some id)
    (conn : Option α) {next : Lobby α} (hcallers : next.callers = lobby.callers)
    (hsettled : next.listener.settled = lobby.listener.settled ++ [(id, conn)]) :
    (∀ caller ∈ next.callers, caller.outcome next.listener ≠ none) ∧
      next.given = lobby.given ++ conn.toList ∧
        ∃ last ∈ lobby.callers, lobby.listener.pendingConnections = [] ∧
          last.outcome lobby.listener = none ∧ ∀ caller ∈ next.callers,
            caller.outcome next.listener = caller.outcome lobby.listener ∨
              caller = last ∧ caller.outcome next.listener = some (.ok conn) := by
  cases hline with
  | idle _ hfree => cases hfree.symm.trans hslot
  | waits done last other hline hanswered hlast hother hunsettled hpending hopen =>
      cases hother.symm.trans hslot
      have hbeginning : lobby.listener.settled <+: next.listener.settled := by
        rw [hsettled]
        exact List.prefix_append _ _
      have hnow : last.outcome next.listener = some (.ok conn) := by
        simp [Caller.outcome, hlast, hsettled, List.lookup_append, hunsettled]
      have hbefore : last.outcome lobby.listener = none := by
        simp [Caller.outcome, hlast, hunsettled]
      have hdone : ∀ caller ∈ done, caller.outcome next.listener = caller.outcome lobby.listener :=
        fun caller hcaller => Caller.outcome_mono hbeginning (hanswered caller hcaller)
      refine ⟨fun caller hcaller => ?_, ?_, last, ?_, hpending, hbefore, fun caller hcaller => ?_⟩
      · rw [hcallers, hline] at hcaller
        rcases List.mem_append.mp hcaller with hold | hnew
        · rw [hdone caller hold]
          exact hanswered caller hold
        · rw [List.mem_singleton.mp hnew, hnow]
          nofun
      · have hunreceived : last.received lobby.listener = none := by
          simp [Caller.received, hbefore]
        have hreceived : last.received next.listener = conn := by simp [Caller.received, hnow]
        rw [given, given, hcallers, hline, List.filterMap_append, List.filterMap_append,
          given_congr hbeginning hanswered]
        cases conn <;> simp [hunreceived, hreceived]
      · rw [hline]
        exact List.mem_append_right _ (List.mem_singleton.mpr rfl)
      · rw [hcallers, hline] at hcaller
        rcases List.mem_append.mp hcaller with hold | hnew
        · exact .inl (hdone caller hold)
        · rw [List.mem_singleton.mp hnew]
          exact .inr ⟨rfl, hnow⟩

/-- The call that waited is answered, with a connection or at the end. -/
theorem Serves.settle (hserves : Serves events lobby) {id : Nat}
    (hslot : lobby.listener.resolveNext = some id) {conn : Option α} {next : Lobby α}
    {later : List (ListenerEvent α)} (hcallers : next.callers = lobby.callers)
    (hsettled : next.listener.settled = lobby.listener.settled ++ [(id, conn)])
    (hfree : next.listener.resolveNext = none)
    (hnextPromise : next.listener.nextPromise = lobby.listener.nextPromise)
    (hpending : lobby.listener.pendingConnections = [] → next.listener.pendingConnections = [])
    (hclosed : next.listener.isClosed = true ↔ .close ∈ later)
    (harrivals : arrivals later = arrivals events ++ conn.toList)
    (hiterates : conn = none → ∀ caller ∈ lobby.callers, caller.iterates = true →
      caller.outcome lobby.listener ≠ none) : Serves later next := by
  obtain ⟨hanswered, hgiven, last, hlast, hnone, hbefore, houtcome⟩ :=
    hserves.line.resolve hslot conn hcallers hsettled
  have hopen : lobby.listener.isClosed = false := by
    cases hserves.line with
    | idle _ hother => cases hslot.symm.trans hother
    | waits _ _ _ _ _ _ _ _ _ hopen => exact hopen
  have hcomplete : next.given = arrivals later := by
    rw [hgiven, harrivals, ← hserves.complete hopen, hnone, List.append_nil]
  refine ⟨.idle hanswered hfree, hclosed, ?_, ?_, ?_, fun _ => ?_, fun _ => hpending hnone, ?_⟩
  · intro entry hentry
    rw [hsettled] at hentry
    rw [hnextPromise]
    rcases List.mem_append.mp hentry with hold | hnew
    · exact hserves.settled entry hold
    · rw [List.mem_singleton.mp hnew]
      exact hserves.slot id hslot
  · intro other hother
    cases hfree.symm.trans hother
  · exact hcomplete ▸ List.prefix_rfl
  · rw [hpending hnone, List.append_nil, hcomplete]
  · intro caller hcaller hnext
    rcases houtcome caller hcaller with hsame | ⟨rfl, hnow⟩
    · rw [hsame]
      exact hserves.yields caller (hcallers ▸ hcaller) hnext
    · rw [hnow]
      rintro ⟨⟩
      exact hiterates rfl caller hlast hnext hbefore

/-- A connection of which no call has been told. -/
theorem Serves.keep (hserves : Serves events lobby) {next : Lobby α}
    {later : List (ListenerEvent α)} (hcallers : next.callers = lobby.callers)
    (hsettled : next.listener.settled = lobby.listener.settled)
    (hfree : lobby.listener.resolveNext = none) (hslot : next.listener.resolveNext = none)
    (hnextPromise : next.listener.nextPromise = lobby.listener.nextPromise)
    (hclosed : next.listener.isClosed = true ↔ .close ∈ later)
    (harrivals : lobby.given <+: arrivals later)
    (hcomplete : next.listener.isClosed = false →
      lobby.given ++ next.listener.pendingConnections = arrivals later)
    (hdropped : next.listener.isClosed = true → next.listener.pendingConnections = []) :
    Serves later next := by
  have houtcome : ∀ caller : Caller α,
      caller.outcome next.listener = caller.outcome lobby.listener := by
    intro caller
    unfold Caller.outcome
    rw [hsettled]
  have hgiven : next.given = lobby.given := by
    unfold given Caller.received
    rw [hcallers]
    simp only [houtcome]
  have hanswered : ∀ caller ∈ next.callers, caller.outcome next.listener ≠ none := by
    intro caller hcaller
    rw [houtcome]
    cases hserves.line with
    | idle hanswered _ => exact hanswered caller (hcallers ▸ hcaller)
    | waits _ _ _ _ _ _ hother => cases hfree.symm.trans hother
  refine ⟨.idle hanswered hslot, hclosed, ?_, ?_, ?_, ?_, hdropped, ?_⟩
  · rw [hsettled, hnextPromise]
    exact hserves.settled
  · intro other hother
    cases hslot.symm.trans hother
  · rwa [hgiven]
  · rwa [hgiven]
  · intro caller hcaller
    rw [houtcome]
    exact hserves.yields caller (hcallers ▸ hcaller)

theorem Serves.free_of_closed (hserves : Serves events lobby)
    (hclosed : lobby.listener.isClosed = true) : lobby.listener.resolveNext = none := by
  cases hserves.line with
  | idle _ hslot => exact hslot
  | waits _ _ _ _ _ _ _ _ _ hopen => cases hclosed.symm.trans hopen

theorem Serves.add (hserves : Serves events lobby) (conn : α) :
    Serves (events ++ [.add conn]) (lobby.step (.add conn)) := by
  have hclosing : .close ∈ events ++ [ListenerEvent.add conn] ↔ .close ∈ events := by simp
  cases hclosed : lobby.listener.isClosed with
  | true =>
      have hfree := hserves.free_of_closed hclosed
      have harrivals := arrivals_of_closed (hserves.closed.mp hclosed) (.add conn)
      have hnext : (lobby.step (.add conn)).listener =
          { lobby.listener with closeCalls := lobby.listener.closeCalls ++ [conn] } := by
        simp [step, UTPListener.addConnection, hclosed]
      apply @Serves.keep _ _ _ hserves (lobby.step (.add conn)) _ rfl _ hfree
      · rw [hnext]
        exact hfree
      · rw [hnext]
      · rw [hclosing, hnext]
        exact hserves.closed
      · rw [harrivals]
        exact hserves.order
      · rw [hnext]
        intro hopen
        cases hclosed.symm.trans hopen
      · rw [hnext]
        exact hserves.dropped
      · rw [hnext]
  | false =>
      have harrivals := arrivals_of_open (hserves.not_closed hclosed) (.add conn)
      cases hslot : lobby.listener.resolveNext with
      | none =>
          have hnext : (lobby.step (.add conn)).listener =
              { lobby.listener with
                connections := lobby.listener.connections ++ [conn]
                pendingConnections := lobby.listener.pendingConnections ++ [conn] } := by
            simp [step, UTPListener.addConnection, hclosed, hslot]
          have hgiven : lobby.given ++ (lobby.listener.pendingConnections ++ [conn]) =
              arrivals (events ++ [.add conn]) := by
            rw [harrivals, ← hserves.complete hclosed, List.append_assoc]
            rfl
          apply @Serves.keep _ _ _ hserves (lobby.step (.add conn)) _ rfl _ hslot
          · rw [hnext]
            exact hslot
          · rw [hnext]
          · rw [hclosing, hnext]
            exact hserves.closed
          · rw [← hgiven]
            exact List.prefix_append _ _
          · rw [hnext]
            exact fun _ => hgiven
          · rw [hnext]
            intro hother
            cases hclosed.symm.trans hother
          · rw [hnext]
      | some id =>
          have hnext : (lobby.step (.add conn)).listener =
              ({ lobby.listener with
                 connections := lobby.listener.connections ++ [conn] }).resolve id (some conn) := by
            simp [step, UTPListener.addConnection, hclosed, hslot]
          apply @Serves.settle _ _ _ hserves _ hslot (some conn) (lobby.step (.add conn)) _ rfl
          · rw [hnext]
            rfl
          · rw [hnext]
            rfl
          · rw [hnext]
            rfl
          · rw [hnext]
            intro hnone
            exact hnone
          · rw [hclosing, hnext]
            exact hserves.closed
          · exact harrivals
          · nofun

theorem Serves.close (hserves : Serves events lobby) (hpermits : lobby.Permits .close) :
    Serves (events ++ [.close]) (lobby.step .close) := by
  have harrivals : arrivals (events ++ [.close]) = arrivals events := by
    by_cases hclose : .close ∈ events
    · exact arrivals_of_closed hclose _
    · rw [arrivals_of_open hclose]
      exact List.append_nil _
  have hclosing : .close ∈ events ++ [ListenerEvent.close] := by simp
  cases hslot : lobby.listener.resolveNext with
  | none =>
      have hnext : (lobby.step .close).listener =
          { lobby.listener with
            isClosed := true
            closeCalls := lobby.listener.closeCalls ++ lobby.listener.connections
            connections := []
            pendingConnections := [] } := by
        simp [step, UTPListener.close, hslot]
      apply @Serves.keep _ _ _ hserves (lobby.step .close) _ rfl _ hslot
      · rw [hnext]
        exact hslot
      · rw [hnext]
      · rw [hnext]
        exact iff_of_true rfl hclosing
      · rw [harrivals]
        exact hserves.order
      · rw [hnext]
        nofun
      · rw [hnext]
        exact fun _ => rfl
      · rw [hnext]
  | some id =>
      have hnext : (lobby.step .close).listener =
          ({ lobby.listener with
             isClosed := true
             closeCalls := lobby.listener.closeCalls ++ lobby.listener.connections
             connections := []
             pendingConnections := [] }).resolve id none := by
        simp [step, UTPListener.close, hslot]
      apply @Serves.settle _ _ _ hserves _ hslot none (lobby.step .close) _ rfl
      · rw [hnext]
        rfl
      · rw [hnext]
        rfl
      · rw [hnext]
        rfl
      · rw [hnext]
        exact fun _ => rfl
      · rw [hnext]
        exact iff_of_true rfl hclosing
      · rw [harrivals]
        exact (List.append_nil _).symm
      · exact fun _ => hpermits

/-- A new call that has its answer at once. -/
theorem Serves.answer (hserves : Serves events lobby) {caller : Caller α} {next : Lobby α}
    {event : ListenerEvent α} {pending : List α}
    (hfree : lobby.listener.resolveNext = none)
    (hcallers : next.callers = lobby.callers ++ [caller])
    (hlistener : next.listener = { lobby.listener with pendingConnections := pending })
    (hanswered : caller.outcome lobby.listener ≠ none)
    (hyields : caller.outcome lobby.listener ≠ some (.ok none))
    (hclosing : .close ∈ events ++ [event] ↔ .close ∈ events)
    (harrivals : arrivals (events ++ [event]) = arrivals events)
    (hpending : lobby.listener.pendingConnections =
      (caller.received lobby.listener).toList ++ pending) :
    Serves (events ++ [event]) next := by
  have houtcome : ∀ caller : Caller α,
      caller.outcome next.listener = caller.outcome lobby.listener := by
    intro caller
    unfold Caller.outcome
    rw [hlistener]
  have hgiven : next.given = lobby.given ++ (caller.received lobby.listener).toList := by
    unfold given
    rw [hcallers, List.filterMap_append]
    unfold Caller.received
    simp only [houtcome]
    cases hreceived : caller.received lobby.listener with
    | none => simp_all [Caller.received]
    | some conn => simp_all [Caller.received]
  have hold : ∀ caller ∈ lobby.callers, caller.outcome lobby.listener ≠ none := by
    cases hserves.line with
    | idle hanswered _ => exact hanswered
    | waits _ _ _ _ _ _ hother => cases hfree.symm.trans hother
  have hall {P : Caller α → Prop} (hpast : ∀ caller ∈ lobby.callers, P caller) (hnew : P caller) :
      ∀ caller ∈ next.callers, P caller := by
    intro other hother
    rw [hcallers] at hother
    rcases List.mem_append.mp hother with hmem | hmem
    · exact hpast other hmem
    · rwa [List.mem_singleton.mp hmem]
  have hcomplete : lobby.listener.isClosed = false →
      next.given ++ pending = arrivals (events ++ [event]) := by
    intro hopen
    rw [hgiven, harrivals, List.append_assoc, ← hpending]
    exact hserves.complete hopen
  refine ⟨.idle ?_ ?_, ?_, ?_, ?_, ?_, ?_, ?_, ?_⟩
  · simp only [houtcome]
    exact hall hold hanswered
  · rw [hlistener]
    exact hfree
  · rw [hclosing, hlistener]
    exact hserves.closed
  · rw [hlistener]
    exact hserves.settled
  · rw [hlistener]
    exact hserves.slot
  · cases hclosed : lobby.listener.isClosed with
    | false =>
        rw [← hcomplete hclosed]
        exact List.prefix_append _ _
    | true =>
        have hnone : (caller.received lobby.listener).toList = [] :=
          (List.append_eq_nil_iff.mp (hpending.symm.trans (hserves.dropped hclosed))).1
        rw [hgiven, hnone, List.append_nil, harrivals]
        exact hserves.order
  · rw [hlistener]
    exact hcomplete
  · rw [hlistener]
    intro hclosed
    exact (List.append_eq_nil_iff.mp (hpending.symm.trans (hserves.dropped hclosed))).2
  · simp only [houtcome]
    exact hall hserves.yields fun _ => hyields

/-- A new call that waits, when no other one does. -/
theorem Serves.wait (hserves : Serves events lobby) {caller : Caller α} {next : Lobby α}
    {event : ListenerEvent α}
    (hfree : lobby.listener.resolveNext = none)
    (hpending : lobby.listener.pendingConnections = [])
    (hopen : lobby.listener.isClosed = false)
    (haccepted : caller.accepted = .ok (.waits lobby.listener.nextPromise))
    (hcallers : next.callers = lobby.callers ++ [caller])
    (hlistener : next.listener = { lobby.listener with
      resolveNext := some lobby.listener.nextPromise
      nextPromise := lobby.listener.nextPromise + 1 })
    (hclosing : .close ∈ events ++ [event] ↔ .close ∈ events)
    (harrivals : arrivals (events ++ [event]) = arrivals events) :
    Serves (events ++ [event]) next := by
  have houtcome : ∀ caller : Caller α,
      caller.outcome next.listener = caller.outcome lobby.listener := by
    intro caller
    unfold Caller.outcome
    rw [hlistener]
  -- the promise is new, so that nothing can have resolved it
  have hunsettled : lobby.listener.settled.lookup lobby.listener.nextPromise = none := by
    apply List.lookup_eq_none_iff.mpr
    intro entry hentry
    have hbelow := hserves.settled entry hentry
    exact bne_iff_ne.mpr (Nat.ne_of_gt hbelow)
  have hnone : caller.outcome lobby.listener = none := by
    simp [Caller.outcome, haccepted, hunsettled]
  have hgiven : next.given = lobby.given := by
    have hunreceived : caller.received lobby.listener = none := by simp [Caller.received, hnone]
    unfold given
    rw [hcallers, List.filterMap_append]
    unfold Caller.received at hunreceived ⊢
    simp only [houtcome]
    simp [hunreceived]
  have hold : ∀ caller ∈ lobby.callers, caller.outcome lobby.listener ≠ none := by
    cases hserves.line with
    | idle hanswered _ => exact hanswered
    | waits _ _ _ _ _ _ hother => cases hfree.symm.trans hother
  refine ⟨.waits lobby.callers caller lobby.listener.nextPromise hcallers ?_ haccepted ?_ ?_ ?_ ?_,
    ?_, ?_, ?_, ?_, ?_, ?_, ?_⟩
  · simp only [houtcome]
    exact hold
  · rw [hlistener]
  · rw [hlistener]
    exact hunsettled
  · rw [hlistener]
    exact hpending
  · rw [hlistener]
    exact hopen
  · rw [hclosing, hlistener]
    exact hserves.closed
  · rw [hlistener]
    intro entry hentry
    exact Nat.lt_succ_of_lt (hserves.settled entry hentry)
  · rw [hlistener]
    intro id hid
    cases hid
    exact Nat.lt_succ_self _
  · rw [hgiven, harrivals]
    exact hserves.order
  · rw [hgiven, harrivals, hlistener]
    exact hserves.complete
  · rw [hlistener]
    exact hserves.dropped
  · intro other hother
    rw [hcallers] at hother
    rw [houtcome]
    rcases List.mem_append.mp hother with hmem | hmem
    · exact hserves.yields other hmem
    · rw [List.mem_singleton.mp hmem, hnone]
      exact fun _ => nofun

theorem Serves.accept (hserves : Serves events lobby) (iterates : Bool)
    (hpermits : lobby.Permits (.accept iterates)) :
    Serves (events ++ [.accept iterates]) (lobby.step (.accept iterates)) := by
  have hclosing : .close ∈ events ++ [ListenerEvent.accept iterates] ↔ .close ∈ events := by simp
  have harrivals : arrivals (events ++ [.accept iterates]) = arrivals events := by
    by_cases hclose : .close ∈ events
    · exact arrivals_of_closed hclose _
    · rw [arrivals_of_open hclose]
      exact List.append_nil _
  cases hclosed : lobby.listener.isClosed with
  | true =>
      have haccept : lobby.listener.accept = (lobby.listener, .error "Listener is closed") := by
        simp [UTPListener.accept, hclosed]
      apply @Serves.answer _ _ _ hserves ⟨iterates, lobby.listener.accept.2⟩
        (lobby.step (.accept iterates)) _ lobby.listener.pendingConnections
        (hserves.free_of_closed hclosed) rfl _ _ _ hclosing harrivals
      all_goals simp [step, haccept, Caller.received, Caller.outcome]
  | false =>
      cases hpending : lobby.listener.pendingConnections with
      | cons conn rest =>
          have hfree : lobby.listener.resolveNext = none := by
            cases hserves.line with
            | idle _ hslot => exact hslot
            | waits _ _ _ _ _ _ _ _ hnone _ => cases hpending.symm.trans hnone
          have haccept : lobby.listener.accept =
              ({ lobby.listener with pendingConnections := rest }, .ok (.resolved conn)) := by
            simp [UTPListener.accept, hclosed, hpending]
          apply @Serves.answer _ _ _ hserves ⟨iterates, lobby.listener.accept.2⟩
            (lobby.step (.accept iterates)) _ rest hfree rfl _ _ _ hclosing harrivals
          all_goals simp [step, haccept, Caller.received, Caller.outcome, hpending]
      | nil =>
          have hfree : lobby.listener.resolveNext = none := by
            rcases hpermits with hother | hother | hfree
            · cases hclosed.symm.trans hother
            · exact absurd hpending hother
            · exact hfree
          have haccept : lobby.listener.accept =
              ({ lobby.listener with
                 resolveNext := some lobby.listener.nextPromise
                 nextPromise := lobby.listener.nextPromise + 1 },
                .ok (.waits lobby.listener.nextPromise)) := by
            simp [UTPListener.accept, hclosed, hpending]
          apply @Serves.wait _ _ _ hserves ⟨iterates, lobby.listener.accept.2⟩
            (lobby.step (.accept iterates)) _ hfree hpending hclosed _ rfl _ hclosing harrivals
          all_goals simp [step, haccept]

/-! ## Every run -/

theorem Attended.before {before : List (ListenerEvent α)} {event : ListenerEvent α}
    (hattended : Attended (before ++ [event])) : Attended before := by
  intro earlier first hbeginning
  exact hattended earlier first (hbeginning.trans (List.prefix_append _ _))

theorem attended_nil : Attended ([] : List (ListenerEvent α)) := by
  intro before event hbeginning
  simp at hbeginning

theorem Attended.snoc {before : List (ListenerEvent α)} (hattended : Attended before)
    {event : ListenerEvent α} (hpermits : (run before).Permits event) :
    Attended (before ++ [event]) := by
  intro earlier other hbeginning
  rcases List.prefix_concat_iff.mp hbeginning with heq | hearlier
  · obtain ⟨rfl, hsame⟩ := List.append_inj' heq rfl
    cases hsame
    exact hpermits
  · exact hattended earlier other hearlier

theorem serves_run (events : List (ListenerEvent α)) (hattended : Attended events) :
    Serves events (run events) := by
  induction events using List.reverseRecOn with
  | nil =>
      refine ⟨.idle ?_ rfl, ?_, ?_, ?_, List.prefix_rfl, fun _ => rfl, ?_, ?_⟩
      all_goals simp [run, UTPListener.create]
  | append_singleton before event ih =>
      have hserves := ih hattended.before
      have hpermits : (run before).Permits event := hattended before event List.prefix_rfl
      rw [run_append]
      cases event with
      | add conn => exact hserves.add conn
      | accept iterates => exact hserves.accept iterates hpermits
      | close => exact hserves.close hpermits

/-- A call that comes after the end is told so. -/
theorem callers_of_closed (before after : List (ListenerEvent α)) :
    (run (before ++ .close :: after)).listener.isClosed = true ∧
      ∃ late, (run (before ++ .close :: after)).callers = (run before).callers ++ late ∧
        ∀ caller ∈ late, caller.accepted = .error "Listener is closed" := by
  induction after using List.reverseRecOn with
  | nil =>
      rw [run_append]
      refine ⟨?_, [], (List.append_nil _).symm, by simp⟩
      simp only [step, UTPListener.close]
      split <;> rfl
  | append_singleton middle event ih =>
      obtain ⟨hclosed, late, hcallers, hlate⟩ := ih
      have hevents : before ++ .close :: (middle ++ [event]) =
          (before ++ .close :: middle) ++ [event] := by simp
      rw [hevents, run_append]
      cases event with
      | add conn =>
          refine ⟨?_, late, hcallers, hlate⟩
          simp [step, UTPListener.addConnection, hclosed]
      | accept iterates =>
          have haccept : (run (before ++ .close :: middle)).listener.accept =
              ((run (before ++ .close :: middle)).listener, .error "Listener is closed") := by
            simp [UTPListener.accept, hclosed]
          refine ⟨?_, late ++ [⟨iterates, .error "Listener is closed"⟩], ?_, ?_⟩
          · simp [step, haccept, hclosed]
          · simp [step, haccept, hcallers]
          · intro caller hcaller
            rcases List.mem_append.mp hcaller with hmem | hmem
            · exact hlate caller hmem
            · rw [List.mem_singleton.mp hmem]
      | close =>
          refine ⟨?_, late, hcallers, hlate⟩
          simp only [step, UTPListener.close]
          split <;> rfl

/-- Events that leave room for every call that waits are handled as they should be. -/
theorem attended_handled (events : List (ListenerEvent α)) (hattended : Attended events) :
    Handled events := by
  have hserves := serves_run events hattended
  refine ⟨hserves.order, hserves.complete, ?_, ?_, ?_⟩
  · intro caller hcaller hnone
    cases hserves.line with
    | idle hanswered _ => exact absurd hnone (hanswered caller hcaller)
    | waits _ _ _ _ _ _ _ _ hpending hopen => exact ⟨hpending, hopen⟩
  · intro caller hcaller hiterates hyields
    apply hserves.yields caller hcaller hiterates
    unfold Caller.iterated at hyields
    cases houtcome : caller.outcome (run events).listener with
    | none => simp [houtcome] at hyields
    | some result =>
        cases result with
        | error error => simp [houtcome] at hyields
        | ok conn => simpa [houtcome] using hyields
  · intro before after hevents index caller hcaller hiterates hlate
    obtain ⟨-, late, hcallers, herrors⟩ := callers_of_closed before after
    have hpermits : (run before).Permits .close := by
      apply hattended before .close
      rw [hevents]
      simp
    rw [hevents, hcallers] at hcaller
    rw [List.getElem?_append] at hcaller
    split at hcaller
    next hindex =>
      -- no iterator waited when the listener was closed
      rcases hlate with hnone | hnone
      · cases hcaller.symm.trans hnone
      · exact absurd hnone (hpermits caller (List.mem_of_getElem? hcaller) hiterates)
    next =>
      have herror := herrors caller (List.mem_of_getElem? hcaller)
      exact ⟨none, by simp [Caller.iterated, Caller.outcome, herror]⟩

/-- Two connections for two calls, the first of which is an iterator's. -/
theorem attended_handled_sample :
    Handled [ListenerEvent.add 1, .accept true, .accept false, .add 2, .close] := by
  have hadd := @Attended.snoc Nat [] attended_nil (.add 1) trivial
  have hiterate := @Attended.snoc Nat _ hadd (.accept true) (.inr (.inl nofun))
  have haccept := @Attended.snoc Nat _ hiterate (.accept false) (.inr (.inr rfl))
  have hagain := @Attended.snoc Nat _ haccept (.add 2) trivial
  have hclose := @Attended.snoc Nat _ hagain .close (by
    intro caller hcaller hiterates
    rcases List.mem_cons.mp hcaller with rfl | hcaller
    · nofun
    · cases List.mem_singleton.mp hcaller
      cases hiterates)
  exact attended_handled _ hclose

/-- An iterator that waits when the listener is closed yields `null`. -/
theorem handled_fails : ¬ ∀ events : List (ListenerEvent Nat), Handled events := by
  intro hall
  have hyields := (hall [.accept true, .close]).yields ⟨true, .ok (.waits 0)⟩
  exact hyields List.mem_cons_self rfl rfl

end Lobby

end Utp
