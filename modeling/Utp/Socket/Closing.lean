import Utp.Conn.Draining
import Utp.Socket.Shutdown

/-! # Closing comes to an end

After `close` the timers alone empty the table: a tick of the interval closes the connections
that are still open, and every timeout check takes some of what is left to do from the first
connection of the table, or the connection itself. The next tick then closes the endpoint.
-/

namespace Utp

open Async (Chain Config TaskSystem)

namespace Socket

variable {socket next : Socket} {uniqueId : String} {id : Nat}

/-! ## The table lists live connections -/

def Live (socket : Socket) : Prop :=
  ∀ uniqueId id, socket.findConn uniqueId = some id → ¬ (worldOf id socket).Terminal

/-- A connection leaves the table when it ends. -/
theorem Change.live (hchange : socket.Change next) (hkeyed : socket.Keyed) (hlive : socket.Live) :
    next.Live := by
  intro uniqueId id hfind
  cases hchange with
  | create isInitiator remoteAddr sendId recvId seqNr ackNr hfresh =>
      change (socket.utp.connTable.set _ socket.count).get? uniqueId = some id at hfind
      rw [OrderedMap.get?_set] at hfind
      split at hfind
      next =>
        cases hfind
        cases isInitiator <;> simp [World.Terminal, worldOf, newConn, putWorld, World.create,
          World.addConn, UtpConn.create, UtpConn.initState]
      next =>
        have hold := (hkeyed uniqueId id hfind).1
        have hsame := @newConn_objects_of_ne socket id isInitiator remoteAddr sendId recvId seqNr
          ackNr (Nat.ne_of_lt hold)
        unfold World.Terminal worldOf
        rw [hsame]
        exact hlive uniqueId id hfind
  | own owner hown =>
      obtain ⟨hlt, hleaves, hwrites, hnext⟩ := hown
      generalize worldOf owner next = world at hleaves hwrites hnext
      subst hnext
      change world.utp.connTable.get? uniqueId = some id at hfind
      by_cases howner : id = owner
      · subst howner
        rw [worldOf_putWorld]
        have hstays : world.utp.connTable = socket.utp.connTable →
            world.conn.localState = (worldOf id socket).conn.localState → ¬ world.Terminal := by
          intro htable hstate
          rw [World.Terminal, hstate]
          apply hlive uniqueId id
          rwa [htable] at hfind
        cases hwrites with
        | own conn hreads hcreated hstate => exact hstays rfl hstate
        | enter conn hreads hcreated hstate =>
            rintro (hend | hend) <;> rcases hstate with hstate | hstate <;>
              cases hstate.symm.trans hend
        | leave conn =>
            -- It was listed under its own id, which is erased.
            change (socket.utp.connTable.erase _).get? uniqueId = some id at hfind
            rw [OrderedMap.get?_erase] at hfind
            split at hfind
            next => cases hfind
            next hother => exact absurd (hkeyed uniqueId id hfind).2.symm hother
        | logRead | takeFin | takeData | transmit => exact hstays rfl rfl
      · have hbefore : socket.findConn uniqueId = some id := by
          rcases hleaves.connTable with hsame | hends
          · rwa [hsame] at hfind
          · rw [hends.connTable, OrderedMap.get?_erase] at hfind
            split at hfind
            next => cases hfind
            next => exact hfind
        rw [worldOf_putWorld_of_ne howner]
        exact hlive uniqueId id hbefore

/-! ## Running alone -/

/-- Code of one connection that completes, seen from the socket. -/
theorem onConn_completes {α : Type} {task : ConnM α} {post : World → Prop}
    (htask : task.Completes (fun now => now = worldOf id socket) fun _ => post) :
    (onConn id task).Completes (fun now => now = socket) fun _ next =>
      ∃ world, post world ∧ next = putWorld id socket world := by
  rintro now rfl
  obtain ⟨value, world, hrun, hpost⟩ := htask _ rfl
  refine ⟨value, putWorld id now world, ?_, world, hpost, rfl⟩
  rw [run_onConn, hrun]
  rfl

/-- What the connections in the table have yet to do; an open one has yet to be closed. -/
def work (socket : Socket) (id : Nat) : Nat :=
  (worldOf id socket).remaining +
    if (socket.objects id).conn.localState = .CS_CLOSE_WAIT then 0 else 1

def backlog (socket : Socket) : Nat := socket.utp.connTable.total socket.work

/-- The socket of an endpoint that is closing. -/
structure Closing (socket : Socket) : Prop where
  keyed : socket.Keyed
  live : socket.Live
  send : socket.utp.SendsWhole

/-- One connection has gone on, or left the table. -/
structure Settles (socket : Socket) (id : Nat) (next : Socket) : Prop where
  others : ∀ other, other ≠ id → next.objects other = socket.objects other
  uniqueId : (next.objects id).conn.uniqueId = (socket.objects id).conn.uniqueId
  count : next.count = socket.count
  utp : next.utp = socket.utp ∧ (next.objects id).conn.localState = .CS_CLOSE_WAIT ∧
      (worldOf id next).remaining ≤ (worldOf id socket).remaining ∨
    next.utp = { socket.utp with
      connTable := socket.utp.connTable.erase (socket.objects id).conn.uniqueId }

/-- A connection that waits, with no more to do than before, has gone on. -/
theorem Settles.of_waits {world : World} (hwaits : World.Waits (worldOf id socket) world)
    (hremaining : world.remaining ≤ (worldOf id socket).remaining) :
    socket.Settles id (putWorld id socket world) := by
  refine ⟨fun other hother => objects_putWorld_of_ne hother socket world, ?_, rfl,
    .inl ⟨?_, ?_, ?_⟩⟩
  · rw [objects_putWorld_self]
    exact hwaits.uniqueId
  · change { world.utp with sent := socket.utp.sent } = socket.utp
    rw [hwaits.utp]
    rfl
  · rw [objects_putWorld_self]
    exact hwaits.localState
  · rwa [worldOf_putWorld]

/-- A connection that is gone has left the table. -/
theorem Settles.of_gone {world : World} (hgone : World.Departed (worldOf id socket) world) :
    socket.Settles id (putWorld id socket world) := by
  refine ⟨fun other hother => objects_putWorld_of_ne hother socket world, ?_, rfl, .inr ?_⟩
  · rw [objects_putWorld_self]
    exact hgone.uniqueId
  · change { world.utp with sent := socket.utp.sent } = _
    rw [hgone.utp]
    rfl

section Settles

variable (hclosing : socket.Closing) (hsettles : socket.Settles id next)
include hclosing hsettles

/-- Nothing enters the table. -/
theorem Settles.find {other : Nat} (hfind : next.findConn uniqueId = some other) :
    socket.findConn uniqueId = some other ∧ (other = id → next.utp = socket.utp ∧
      (next.objects id).conn.localState = .CS_CLOSE_WAIT) := by
  rcases hsettles.utp with ⟨hutp, hstate, -⟩ | hutp
  · rw [findConn, hutp] at hfind
    exact ⟨hfind, fun _ => ⟨hutp, hstate⟩⟩
  · rw [findConn, hutp] at hfind
    change (socket.utp.connTable.erase _).get? uniqueId = some other at hfind
    rw [OrderedMap.get?_erase] at hfind
    split at hfind
    next => cases hfind
    next hother =>
      refine ⟨hfind, ?_⟩
      rintro rfl
      exact absurd (hclosing.keyed _ _ hfind).2.symm hother

/-- The socket goes on closing. -/
theorem Settles.closing : next.Closing := by
  refine ⟨fun uniqueId other hfind => ?_, fun uniqueId other hfind => ?_, ?_⟩
  · obtain ⟨hold, -⟩ := hsettles.find hclosing hfind
    obtain ⟨hlt, hown⟩ := hclosing.keyed _ _ hold
    rw [hsettles.count]
    refine ⟨hlt, ?_⟩
    by_cases hother : other = id
    · subst hother
      exact hsettles.uniqueId.trans hown
    · rw [hsettles.others other hother]
      exact hown
  · obtain ⟨hold, hwaits⟩ := hsettles.find hclosing hfind
    by_cases hother : other = id
    · subst hother
      obtain ⟨-, hstate⟩ := hwaits rfl
      rintro (hclosed | hreset)
      · exact nomatch hstate.symm.trans hclosed
      · exact nomatch hstate.symm.trans hreset
    · unfold World.Terminal worldOf
      rw [hsettles.others other hother]
      exact hclosing.live uniqueId other hold
  · intro bytes remoteAddr
    rcases hsettles.utp with ⟨hutp, -⟩ | hutp
    · rw [hutp]
      exact hclosing.send bytes remoteAddr
    · rw [hutp]
      exact hclosing.send bytes remoteAddr

/-- The other connections of the table have as much to do as before. -/
theorem Settles.backlog (hfind : socket.findConn uniqueId = some id) :
    socket.backlog = (socket.utp.connTable.erase uniqueId).total next.work + socket.work id := by
  have hothers : (socket.utp.connTable.erase uniqueId).total socket.work =
      (socket.utp.connTable.erase uniqueId).total next.work := by
    apply OrderedMap.total_congr
    intro entry hentry
    obtain ⟨hlisted, hkey⟩ := OrderedMap.mem_entries_erase.mp hentry
    have hother : entry.2 ≠ id := by
      intro hsame
      have hentryFind : socket.findConn entry.1 = some entry.2 :=
        OrderedMap.get?_eq_some.mpr hlisted
      have hown := (hclosing.keyed _ _ hentryFind).2
      rw [hsame, (hclosing.keyed _ _ hfind).2] at hown
      exact hkey hown.symm
    unfold work World.remaining worldOf
    rw [hsettles.others _ hother]
  rw [Socket.backlog, OrderedMap.total_of_get hfind, hothers]

/-- The backlog does not grow, and shrinks unless nothing was done. -/
theorem Settles.backlog_le (hfind : socket.findConn uniqueId = some id) :
    next.backlog ≤ socket.backlog ∧ ((next.utp = socket.utp → next.work id < socket.work id) →
      next.backlog < socket.backlog) := by
  rw [hsettles.backlog hclosing hfind]
  rcases hsettles.utp with ⟨hutp, hstate, hremaining⟩ | hutp
  · have hnext : next.utp.connTable.get? uniqueId = some id := by
      rw [hutp]
      exact hfind
    rw [Socket.backlog, OrderedMap.total_of_get hnext, hutp]
    have hwork : next.work id ≤ socket.work id := by
      rw [work, if_pos hstate]
      exact hremaining.trans (Nat.le_add_right _ _)
    exact ⟨Nat.add_le_add_left hwork _, fun hless => Nat.add_lt_add_left (hless rfl) _⟩
  · have hpos : 0 < socket.work id := Nat.lt_of_lt_of_le (Nat.succ_pos _) (Nat.le_add_right _ _)
    rw [Socket.backlog, hutp, (hclosing.keyed _ _ hfind).2]
    exact ⟨Nat.le_add_right _ _, fun _ => Nat.lt_add_of_pos_right hpos⟩

end Settles

/-! ## The timeout check -/

/-- Every connection in the table waits for its release. -/
def Waiting (socket : Socket) : Prop :=
  ∀ uniqueId id, socket.findConn uniqueId = some id →
    (socket.objects id).conn.localState = .CS_CLOSE_WAIT

/-- The check of a connection that waits; one whose packets are due has less to do afterwards. -/
theorem timeoutCheck_settles (hclosing : socket.Closing)
    (hfind : socket.findConn uniqueId = some id)
    (hwait : (socket.objects id).conn.localState = .CS_CLOSE_WAIT) :
    (onConn id UtpConn.timeoutCheck).Completes (fun now => now = socket) fun _ next =>
      socket.Settles id next ∧ ((worldOf id socket).Due → next.backlog < socket.backlog) := by
  by_cases hdue : (worldOf id socket).Due
  · have hcheck := @World.timeoutCheck_checks (worldOf id socket) hclosing.send hwait
      ((worldOf id socket).remaining - 1) (fun _ => Nat.le_add_of_sub_le (Nat.le_refl _))
      (fun hnot => absurd hdue hnot)
    apply (onConn_completes hcheck).mono (fun _ h => h)
    rintro - next ⟨world, hgone | ⟨hwaits, hremaining⟩, rfl⟩
    · have hsettles : socket.Settles id (putWorld id socket world) := .of_gone hgone
      refine ⟨hsettles, fun _ => (hsettles.backlog_le hclosing hfind).2 fun hutp => ?_⟩
      -- The table has the connection no longer.
      have hlost : (putWorld id socket world).findConn uniqueId = none := by
        change world.utp.connTable.get? uniqueId = none
        rw [hgone.utp]
        change (socket.utp.connTable.erase (socket.objects id).conn.uniqueId).get? uniqueId = none
        rw [OrderedMap.get?_erase, if_pos (hclosing.keyed _ _ hfind).2.symm]
      rw [findConn, hutp] at hlost
      cases hfind.symm.trans hlost
    · have hsettles : socket.Settles id (putWorld id socket world) :=
        .of_waits hwaits (hremaining.trans (Nat.sub_le _ _))
      refine ⟨hsettles, fun _ => (hsettles.backlog_le hclosing hfind).2 fun _ => ?_⟩
      have hstate : ((putWorld id socket world).objects id).conn.localState = .CS_CLOSE_WAIT := by
        rw [objects_putWorld_self]
        exact hwaits.localState
      rw [work, if_pos hstate, work, if_pos hwait, worldOf_putWorld]
      exact Nat.lt_of_le_of_lt hremaining (Nat.sub_lt (Nat.succ_pos _) Nat.one_pos)
  · have hcheck := @World.timeoutCheck_checks (worldOf id socket) hclosing.send hwait
      (worldOf id socket).remaining (fun h => absurd h hdue) (fun _ => Nat.le_refl _)
    apply (onConn_completes hcheck).mono (fun _ h => h)
    rintro - next ⟨world, hgone | ⟨hwaits, hremaining⟩, rfl⟩
    · exact ⟨.of_gone hgone, fun h => absurd h hdue⟩
    · exact ⟨.of_waits hwaits hremaining, fun h => absurd h hdue⟩

/-- What a timeout check leaves. -/
structure Proceeds (socket next : Socket) : Prop where
  closing : next.Closing
  waiting : next.Waiting
  state : next.utp.state = socket.utp.state
  backlog : next.backlog ≤ socket.backlog

/-- Checks can be put one after the other. -/
theorem Proceeds.trans {later : Socket} (hfirst : socket.Proceeds next)
    (hsecond : next.Proceeds later) : socket.Proceeds later :=
  ⟨hsecond.closing, hsecond.waiting, hsecond.state.trans hfirst.state,
    hsecond.backlog.trans hfirst.backlog⟩

/-- One connection of the table has gone on. -/
theorem Settles.proceeds (hclosing : socket.Closing) (hwaiting : socket.Waiting)
    (hfind : socket.findConn uniqueId = some id) (hsettles : socket.Settles id next) :
    socket.Proceeds next := by
  refine ⟨hsettles.closing hclosing, fun uniqueId other hlisted => ?_, ?_,
    (hsettles.backlog_le hclosing hfind).1⟩
  · obtain ⟨hold, hwaits⟩ := hsettles.find hclosing hlisted
    by_cases hother : other = id
    · rw [hother]
      exact (hwaits hother).2
    · rw [hsettles.others other hother]
      exact hwaiting uniqueId other hold
  · rcases hsettles.utp with ⟨hutp, -⟩ | hutp
    · rw [hutp]
    · rw [hutp]

/-- One round of the loop, and the others after it. -/
theorem timeoutCheckRound_completes (hclosing : socket.Closing) (hwaiting : socket.Waiting)
    {rounds : Nat} {seen : List String} {post : Socket → Prop}
    (hnext : socket.nextConn seen = some (uniqueId, id))
    (hrest : ∀ next, socket.Proceeds next →
      ((worldOf id socket).Due → next.backlog < socket.backlog) →
        (timeoutCheckLoop rounds (uniqueId :: seen)).Completes (fun now => now = next)
          fun _ => post) :
    (timeoutCheckLoop (rounds + 1) seen).Completes (fun now => now = socket) fun _ => post := by
  have hfind : socket.findConn uniqueId = some id :=
    OrderedMap.get?_eq_some.mpr (List.mem_of_find?_eq_some hnext)
  have hwait := hwaiting _ _ hfind
  refine .read fun now hnow => ?_
  subst hnow
  rw [hnext]
  dsimp only
  rw [if_neg (by rw [hwait]; exact nofun)]
  have hcheck := (timeoutCheck_settles hclosing hfind hwait).awaited
  refine hcheck.bind fun _ next hsettles => ?_
  exact hrest next (hsettles.1.proceeds hclosing hwaiting hfind) hsettles.2 next rfl

/-- The loop comes to the end of the table. -/
theorem timeoutCheckLoop_completes (hclosing : socket.Closing) (hwaiting : socket.Waiting)
    (rounds : Nat) (seen : List String) :
    (timeoutCheckLoop rounds seen).Completes (fun now => now = socket)
      fun _ => socket.Proceeds := by
  have hdone : ∀ now, now = socket → socket.Proceeds now := by
    rintro now rfl
    exact ⟨hclosing, hwaiting, rfl, Nat.le_refl _⟩
  induction rounds generalizing socket seen with
  | zero => exact .pure hdone
  | succ rounds ih =>
      cases hnext : socket.nextConn seen with
      | none =>
          refine .read fun now hnow => ?_
          subst hnow
          rw [hnext]
          exact .pure hdone
      | some entry =>
          apply timeoutCheckRound_completes hclosing hwaiting hnext
          intro next hproceeds _
          apply (ih hproceeds.closing hproceeds.waiting _ _).mono (fun _ h => h)
          · exact fun _ _ hlater => hproceeds.trans hlater
          · rintro now rfl
            exact ⟨hproceeds.closing, hproceeds.waiting, rfl, Nat.le_refl _⟩

/-- A check that finds the packets of the first connection due makes headway. -/
theorem timeoutCheckLoop_makes_headway (hclosing : socket.Closing) (hwaiting : socket.Waiting)
    (rounds : Nat) (hnext : socket.nextConn [] = some (uniqueId, id))
    (hdue : (worldOf id socket).Due) :
    (timeoutCheckLoop (rounds + 1) []).Completes (fun now => now = socket)
      fun _ next => socket.Proceeds next ∧ next.backlog < socket.backlog := by
  apply timeoutCheckRound_completes hclosing hwaiting hnext
  intro next hproceeds hless
  apply (timeoutCheckLoop_completes hproceeds.closing hproceeds.waiting _ _).mono (fun _ h => h)
  exact fun _ _ hlater => ⟨hproceeds.trans hlater, Nat.lt_of_le_of_lt hlater.backlog (hless hdue)⟩

end Socket

namespace Socket

variable {socket : Socket} {uniqueId : String} {id : Nat}

/-- The call of `close` that a tick of the interval makes. -/
theorem close_settles (hclosing : socket.Closing) (hfind : socket.findConn uniqueId = some id)
    (hopen : (socket.objects id).conn.localState ≠ .CS_CLOSE_WAIT) :
    (onConn id UtpConn.close).Completes (fun now => now = socket) fun _ next =>
      next.Closing ∧ next.utp.state = socket.utp.state ∧ next.backlog < socket.backlog := by
  have hlive := hclosing.live _ _ hfind
  have hclose := @World.close_waits (worldOf id socket) hclosing.send
    ⟨hopen, fun h => hlive (.inl h), fun h => hlive (.inr h)⟩
  apply (onConn_completes hclose).mono (fun _ h => h)
  rintro - next ⟨world, ⟨hwaits, hremaining⟩, rfl⟩
  have hsettles : socket.Settles id (putWorld id socket world) := .of_waits hwaits hremaining
  refine ⟨hsettles.closing hclosing, ?_, (hsettles.backlog_le hclosing hfind).2 fun _ => ?_⟩
  · change world.utp.state = socket.utp.state
    rw [hwaits.utp]
    rfl
  · have hstate : ((putWorld id socket world).objects id).conn.localState = .CS_CLOSE_WAIT := by
      rw [objects_putWorld_self]
      exact hwaits.localState
    rw [work, if_pos hstate, work, if_neg hopen, worldOf_putWorld]
    exact Nat.lt_succ_of_le hremaining

/-- The clocks go on. -/
def atTime (socket : Socket) (dateNow performanceNow : Nat) : Socket :=
  { socket with utp := { socket.utp with dateNow := dateNow, performanceNow := performanceNow } }

end Socket

/-! ## The timers alone -/

namespace Endpoint

variable {endpoint : Endpoint}

/-- The timers of an endpoint. The timeout check comes to the end of the table, and a tick of the
interval closes the connections that are in the way. -/
inductive Ticks (endpoint : Endpoint) : EndpointLabel → Async Endpoint Unit → Prop
  | timeoutCheck (rounds : Nat) (hall : endpoint.socket.connSize ≤ rounds)
      (htimer : endpoint.timeoutCheckTimer = true) :
      Ticks endpoint .timer (onSocket (Socket.timeoutCheckLoop rounds []))
  | closePoll (hinterval : endpoint.checkInterval = true) :
      Ticks endpoint .timer (synchronous closePoll)
  | close (id : Nat) (hinterval : endpoint.checkInterval = true)
      (hid : id ∈ endpoint.socket.canCloseConns) :
      Ticks endpoint (.own id .close) (onSocket (Socket.onConn id UtpConn.close))

/-- Nothing but time passes. -/
inductive Elapses (endpoint : Endpoint) : Endpoint → Prop
  | to (dateNow performanceNow : Nat) (hdate : endpoint.socket.utp.dateNow ≤ dateNow)
      (hperformance : endpoint.socket.utp.performanceNow ≤ performanceNow) :
      Elapses endpoint (endpoint.setSocket (endpoint.socket.atTime dateNow performanceNow))

end Endpoint

/-- Only the timers run: no call of the application, and no datagram. -/
def tickSystem : TaskSystem Endpoint EndpointLabel where
  spawn := Endpoint.Ticks
  env := Endpoint.Elapses
  exclusive label := label = .receive

namespace Endpoint

variable {endpoint : Endpoint}

/-- Only connections that do not wait for a release can be closed. -/
theorem mem_canCloseConns {socket : Socket} {id : Nat} (hid : id ∈ socket.canCloseConns) :
    (∃ uniqueId, socket.findConn uniqueId = some id) ∧
      (socket.objects id).conn.localState ≠ .CS_CLOSE_WAIT := by
  obtain ⟨hvalue, hstate⟩ := List.mem_filter.mp hid
  obtain ⟨entry, hentry, rfl⟩ := List.mem_map.mp hvalue
  have hfind : socket.findConn entry.1 = some entry.2 := OrderedMap.get?_eq_some.mpr hentry
  exact ⟨⟨entry.1, hfind⟩, (of_decide_eq_true hstate).1⟩

/-- The timers are part of the system. -/
theorem tickSystem_reachable {utp : UtpSocket} {config later : Config Endpoint EndpointLabel}
    (hrun : endpointSystem.Reachable ⟨create utp, []⟩ config)
    (hlater : tickSystem.Reachable config later) : endpointSystem.Reachable config later := by
  induction hlater with
  | refl => exact .refl
  | @step middle next _ hstep ih =>
      have horderly := reachable_orderly (hrun.trans ih)
      have hspawn : ∀ label task, middle.state.Ticks label task →
          middle.state.Spawns label task := by
        rintro label task (⟨rounds, hall, htimer⟩ | hinterval | ⟨id, hinterval, hid⟩)
        · exact .timeoutCheck rounds htimer
        · exact .closePoll hinterval
        · obtain ⟨⟨uniqueId, hfind⟩, -⟩ := mem_canCloseConns hid
          exact .own id .close UtpConn.close (horderly.keyed _ _ hfind).1 nofun .close
      have henv : ∀ state, middle.state.Elapses state → middle.state.Environment state := by
        rintro state ⟨dateNow, performanceNow, hdate, hperformance⟩
        exact ⟨rfl, rfl, rfl, rfl, rfl⟩
      exact ih.step (@TaskSystem.Step.mono _ _ tickSystem endpointSystem _ _ hspawn henv
        (fun _ h => h) hstep)

/-! ## The way to the end -/

/-- The endpoint waits for its connections. -/
structure Closing (endpoint : Endpoint) : Prop where
  socket : endpoint.socket.Closing
  wait : endpoint.isCloseWait
  interval : endpoint.checkInterval = true
  timer : endpoint.timeoutCheckTimer = true
  opened : endpoint.udpSocket ≠ .none

/-- The socket's code runs on its part of the endpoint. -/
theorem run_onSocket {task : Async Socket Unit} {post : Socket → Prop}
    (htask : task.Completes (fun now => now = endpoint.socket) fun _ => post) :
    ∃ next, (onSocket task).run endpoint = some (endpoint.setSocket next, .ok ()) ∧ post next := by
  obtain ⟨value, next, hrun, hpost⟩ := htask _ rfl
  refine ⟨next, ?_, hpost⟩
  have hzoom := Async.run_zoom socket setSocket (fun _ _ => rfl) (fun _ => rfl) (fun _ _ _ => rfl)
    task endpoint
  rw [hrun] at hzoom
  exact hzoom

/-- A synchronous call runs to its end. -/
theorem run_synchronous (change : Endpoint → Endpoint × Except String Unit) :
    (synchronous change).run endpoint = some ((change endpoint).1, (change endpoint).2) := by
  change (Async.finished (change endpoint).2).run (change endpoint).1 = _
  cases (change endpoint).2 <;> rfl

/-- With an empty table the next tick is the last. -/
theorem closePoll_isClosed (hclosing : endpoint.Closing) (hempty : endpoint.socket.connSize = 0) :
    endpoint.closePoll.1.isClosed := by
  rw [closePoll, tryCloseSocket, if_neg (not_not.mpr hempty), if_neg hclosing.opened]
  rfl

/-- A change of the socket keeps the endpoint closing. -/
theorem Closing.setSocket (hclosing : endpoint.Closing) {next : Socket} (hnext : next.Closing)
    (hstate : next.utp.state = endpoint.socket.utp.state) :
    (endpoint.setSocket next).Closing :=
  ⟨hnext, hstate.trans hclosing.wait, hclosing.interval, hclosing.timer, hclosing.opened⟩

/-- The connections that nobody has closed come first. -/
theorem Closing.waiting (hclosing : endpoint.Closing) (hnone : endpoint.socket.canCloseConns = []) :
    endpoint.socket.Waiting := by
  intro uniqueId id hfind
  by_contra hstate
  have hlive := hclosing.socket.live _ _ hfind
  have hvalue : id ∈ endpoint.socket.utp.connTable.values :=
    List.mem_map.mpr ⟨(uniqueId, id), OrderedMap.get?_eq_some.mp hfind, rfl⟩
  have hid : id ∈ endpoint.socket.canCloseConns :=
    List.mem_filter.mpr ⟨hvalue, decide_eq_true ⟨hstate, fun h => hlive (.inl h)⟩⟩
  rw [hnone] at hid
  cases hid

/-- Some time later the timeout check makes headway. -/
theorem Closing.headway (hclosing : endpoint.Closing) (hnone : endpoint.socket.canCloseConns = [])
    (hbusy : endpoint.socket.connSize ≠ 0) : ∃ dateNow next,
      endpoint.socket.utp.dateNow ≤ dateNow ∧
        (onSocket (Socket.timeoutCheckLoop endpoint.socket.connSize [])).run
          (endpoint.setSocket (endpoint.socket.atTime dateNow
            endpoint.socket.utp.performanceNow)) = some (endpoint.setSocket next, .ok ()) ∧
        (endpoint.setSocket next).Closing ∧ next.backlog < endpoint.socket.backlog := by
  obtain ⟨rounds, hrounds⟩ := Nat.exists_eq_succ_of_ne_zero hbusy
  cases hentries : endpoint.socket.utp.connTable.entries with
  | nil => exact absurd (congrArg List.length hentries) hbusy
  | cons entry rest =>
      obtain ⟨uniqueId, id⟩ := entry
      obtain ⟨dateNow, hdate, hdue⟩ :=
        (endpoint.socket.objects id).conn.sendWindow.exists_due endpoint.socket.utp.dateNow
      -- Time changes none of what the check looks at, but makes the packets due.
      have hlater : (endpoint.socket.atTime dateNow endpoint.socket.utp.performanceNow).Closing :=
        ⟨hclosing.socket.keyed, hclosing.socket.live, hclosing.socket.send⟩
      have hnext : (endpoint.socket.atTime dateNow
          endpoint.socket.utp.performanceNow).nextConn [] = some (uniqueId, id) := by
        change endpoint.socket.utp.connTable.entries.find? _ = _
        rw [hentries]
        rfl
      have hcheck := Socket.timeoutCheckLoop_makes_headway hlater (hclosing.waiting hnone) rounds
        hnext hdue
      obtain ⟨next, hrun, hproceeds, hless⟩ := @run_onSocket (endpoint.setSocket
        (endpoint.socket.atTime dateNow endpoint.socket.utp.performanceNow)) _ _ hcheck
      rw [hrounds]
      exact ⟨dateNow, next, hdate, hrun, hclosing.setSocket hproceeds.closing hproceeds.state,
        hless⟩

/-- With so much left to do the timers come to the end. -/
theorem closes_of_backlog (bound : Nat) {initial config : Config Endpoint EndpointLabel}
    (hrun : tickSystem.Reachable initial config) (hclosing : config.state.Closing)
    (hbound : config.state.socket.backlog < bound) :
    ∃ later, tickSystem.Reachable initial later ∧ later.state.isClosed := by
  induction bound generalizing config with
  | zero => exact absurd hbound (Nat.not_lt_zero _)
  | succ bound ih =>
      cases hopen : config.state.socket.canCloseConns with
      | cons id others =>
          have hid : id ∈ config.state.socket.canCloseConns := by
            rw [hopen]
            exact List.mem_cons_self
          obtain ⟨⟨uniqueId, hfind⟩, hstate⟩ := mem_canCloseConns hid
          obtain ⟨next, hclose, hnext, hkept, hless⟩ :=
            run_onSocket (Socket.close_settles hclosing.socket hfind hstate)
          exact ih (hrun.of_run_among (.close id hclosing.interval hid) nofun hclose)
            (hclosing.setSocket hnext hkept) (by dsimp only [setSocket]; omega)
      | nil =>
          by_cases hempty : config.state.socket.connSize = 0
          · exact ⟨_, hrun.of_run_among (.closePoll hclosing.interval) nofun (run_synchronous _),
              closePoll_isClosed hclosing hempty⟩
          · obtain ⟨dateNow, next, hdate, hcheck, hnext, hless⟩ := hclosing.headway hopen hempty
            have hwaited := hrun.step (.env (.to dateNow
              config.state.socket.utp.performanceNow hdate (Nat.le_refl _)))
            exact ih (hwaited.of_run_among (.timeoutCheck _ (Nat.le_refl _) hclosing.timer) nofun
              hcheck) hnext (by dsimp only [setSocket]; omega)

/-! ## Which endpoints get closed -/

/-- An endpoint that was closed before its first use: nothing polls for its end. -/
def Abandoned (endpoint : Endpoint) : Prop := endpoint.isCloseWait ∧ endpoint.checkInterval = false

/-- The first call of `close` abandons an endpoint if and only if it has not been used, and then
the call fails. -/
theorem close_abandons_iff (horderly : endpoint.Orderly) (hactive : endpoint.isActive) :
    (endpoint.close.1.Abandoned ↔ endpoint.udpSocket = .none) ∧
      (endpoint.udpSocket = .none → ∃ error, endpoint.close.2 = .error error) := by
  rw [close, if_neg hactive.not_isClosed, if_neg hactive.not_isCloseWait, tryCloseSocket]
  by_cases hempty : endpoint.socket.connSize = 0
  · have hempty' : endpoint.beginClose.socket.connSize = 0 := hempty
    rw [if_neg (not_not.mpr hempty')]
    by_cases hnone : endpoint.udpSocket = .none
    · have hinterval : endpoint.checkInterval = false := eq_false_of_ne_true fun hpolls =>
        hactive.not_isCloseWait (horderly.accounted.interval hpolls).1
      have hnone' : endpoint.beginClose.udpSocket = .none := hnone
      rw [if_pos hnone']
      exact ⟨⟨fun _ => hnone, fun _ => ⟨rfl, hinterval⟩⟩, fun _ => ⟨_, rfl⟩⟩
    · have hopen' : endpoint.beginClose.udpSocket ≠ .none := hnone
      rw [if_neg hopen']
      refine ⟨⟨?_, fun h => absurd h hnone⟩, fun h => absurd h hnone⟩
      rintro ⟨hwait, -⟩
      cases hwait
  · -- A connection was made over the UDP socket, and its end is polled for.
    have hconn := count_pos_of_connSize horderly.refers hempty
    have hopen : endpoint.udpSocket ≠ .none := fun hnone =>
      absurd (horderly.accounted.unused hnone) (Nat.ne_of_gt hconn)
    have hbusy' : endpoint.beginClose.socket.connSize ≠ 0 := hempty
    rw [if_pos hbusy']
    refine ⟨⟨?_, fun h => absurd h hopen⟩, fun h => absurd h hopen⟩
    rintro ⟨-, hpolls⟩
    cases hpolls

/-- A later call finds the endpoint closing. -/
theorem close_of_isCloseWait (hwait : endpoint.isCloseWait) :
    endpoint.close = (endpoint, .ok ()) := by
  rw [close, if_neg hwait.not_isClosed, if_pos hwait]

/-- No later call leads out of an abandoned endpoint. -/
theorem Change.abandoned {next : Endpoint} (hchange : endpoint.Change next)
    (habandoned : endpoint.Abandoned) : next.Abandoned := by
  obtain ⟨hwait, hinterval⟩ := habandoned
  cases hchange with
  | socket hsocket =>
      rw [hsocket.next]
      exact ⟨hsocket.socket.utpState.trans hwait, hinterval⟩
  | own hown =>
      cases hown with
      | bind | listener | stay => exact ⟨hwait, hinterval⟩
      | beginClose hactive | closeUnused hactive | closeNow hactive =>
          exact absurd hwait hactive.not_isCloseWait
      | closeLater hpolls => exact nomatch hinterval.symm.trans hpolls
  | env henv =>
      rw [henv.socket]
      exact ⟨henv.state.trans hwait, hinterval⟩

/-- An abandoned endpoint stays so in every continuation of the run. -/
theorem Abandoned.later {utp : UtpSocket} {config later : Config Endpoint EndpointLabel}
    (habandoned : config.state.Abandoned)
    (hrun : endpointSystem.Reachable ⟨create utp, []⟩ config)
    (hlater : endpointSystem.Reachable config later) : later.state.Abandoned := by
  have hchain := later_of_reachable hrun hlater
  generalize later.state = final at hchain ⊢
  induction hchain with
  | refl => exact habandoned
  | tail _ hchange ih => exact hchange.abandoned ih

/-- Whatever is called later, and whatever else happens, such an endpoint is never closed: the
promise of its `close`, which has failed, is never resolved, and the next calls of `close` do
nothing. -/
theorem abandoned_forever {utp : UtpSocket} {config later : Config Endpoint EndpointLabel}
    (hrun : endpointSystem.Reachable ⟨create utp, []⟩ config)
    (habandoned : config.state.Abandoned) (hlater : endpointSystem.Reachable config later) :
    later.state.Abandoned ∧ later.state.closeResolved = false ∧
      later.state.udpSocket ≠ .closed ∧ later.state.close = (later.state, .ok ()) := by
  have haccounted := (reachable_orderly (hrun.trans hlater)).accounted
  have hstays := habandoned.later hrun hlater
  have hopen := isCloseWait.not_isClosed hstays.1
  refine ⟨hstays, ?_, fun hclosed => hopen (haccounted.closed.mp hclosed),
    close_of_isCloseWait hstays.1⟩
  exact eq_false_of_ne_true fun hresolved => hopen (haccounted.resolved.mp hresolved)

/-- Every change keeps the live connections within the table. -/
theorem Change.live {next : Endpoint} (hchange : endpoint.Change next)
    (hkeyed : endpoint.socket.Keyed) (hlive : endpoint.socket.Live) : next.socket.Live := by
  have hsame : next.socket.objects = endpoint.socket.objects →
      next.socket.utp.connTable = endpoint.socket.utp.connTable → next.socket.Live := by
    intro hobjects hconnTable uniqueId id hfind
    unfold World.Terminal Socket.worldOf
    rw [hobjects]
    apply hlive uniqueId id
    rwa [Socket.findConn, hconnTable] at hfind
  cases hchange with
  | socket hsocket => exact hsocket.socket.live hkeyed hlive
  | own hown => exact hsame hown.objects.1 hown.objects.2.2
  | env henv => exact hsame henv.objects henv.connTable

theorem reachable_live {utp : UtpSocket} {config : Config Endpoint EndpointLabel}
    (hrun : endpointSystem.Reachable ⟨create utp, []⟩ config) : config.state.socket.Live := by
  have hchain := later_of_reachable .refl hrun
  suffices hall : config.state.socket.Keyed ∧ config.state.socket.Live from hall.2
  generalize config.state = final at hchain ⊢
  induction hchain with
  | refl => exact ⟨(create_orderly utp).keyed, fun _ _ hfind => nomatch hfind⟩
  | tail _ hchange ih => exact ⟨hchange.keyed ih.1, hchange.live ih.1 ih.2⟩

/-- From every state of every run that `close` has left waiting, with any connections in the
table and any data in flight, the timers alone come to the end, if and only if the interval
runs. -/
theorem close_completes_iff {utp : UtpSocket} {config : Config Endpoint EndpointLabel}
    (hrun : endpointSystem.Reachable ⟨create utp, []⟩ config)
    (hsend : config.state.socket.utp.SendsWhole) (hwait : config.state.isCloseWait) :
    (∃ later, tickSystem.Reachable config later ∧ later.state.isClosed) ↔
      config.state.checkInterval = true := by
  constructor
  · rintro ⟨later, hlater, hclosed⟩
    by_contra hinterval
    have habandoned : config.state.Abandoned := ⟨hwait, eq_false_of_ne_true hinterval⟩
    have hstays := habandoned.later hrun (tickSystem_reachable hrun hlater)
    exact hstays.1.not_isClosed hclosed
  · intro hinterval
    have horderly := reachable_orderly hrun
    have hbound := (horderly.accounted.interval hinterval).2
    have hclosing : config.state.Closing :=
      ⟨⟨horderly.keyed, reachable_live hrun, hsend⟩, hwait, hinterval,
        horderly.accounted.timer.mpr hbound, fun hnone => nomatch hbound.symm.trans hnone⟩
    exact closes_of_backlog _ .refl hclosing (Nat.lt_succ_self _)

/-! ## Concrete runs -/

/-- An endpoint is closed while it connects. -/
def closedWhileConnecting : Config Endpoint EndpointLabel :=
  ((⟨create .sample, []⟩ : Config Endpoint EndpointLabel).launch .call
    (connect (.ok ()) 5 9000 "localhost")).launch .call (synchronous close)

/-- The sample is a state of a run. -/
theorem closedWhileConnecting_reachable :
    endpointSystem.Reachable ⟨create .sample, []⟩ closedWhileConnecting :=
  .step (.step .refl (.launch (.connect (.ok ()) 5 9000 "localhost") nofun)) (.launch .close nofun)

/-- An endpoint that is closed while it connects. -/
theorem close_completes_sample :
    ∃ later, tickSystem.Reachable closedWhileConnecting later ∧ later.state.isClosed := by
  have hwait : closedWhileConnecting.state.isCloseWait := by decide +kernel
  have hsend : closedWhileConnecting.state.socket.utp.SendsWhole := fun _ _ => rfl
  exact (close_completes_iff closedWhileConnecting_reachable hsend hwait).mpr (by decide +kernel)

/-- An endpoint that is closed first and listens then. -/
def closedUnused : Config Endpoint EndpointLabel :=
  (⟨create .sample, []⟩ : Config Endpoint EndpointLabel).launch .call (synchronous close)

def listensAfterwards : Config Endpoint EndpointLabel :=
  closedUnused.launch .call (listen (.ok ()) 9000 "0.0.0.0")

/-- An endpoint that is closed first and then listens. -/
theorem abandoned_forever_sample : listensAfterwards.state.udpSocket = .bound ∧
    listensAfterwards.state.Abandoned := by
  have hrun : endpointSystem.Reachable ⟨create .sample, []⟩ closedUnused :=
    .step .refl (.launch .close nofun)
  have hfirst := close_abandons_iff (create_orderly .sample) rfl
  have habandoned : closedUnused.state.Abandoned := hfirst.1.mpr rfl
  have hlater : endpointSystem.Reachable closedUnused listensAfterwards :=
    .step .refl (.launch (.listen (.ok ()) 9000 "0.0.0.0") nofun)
  exact ⟨by decide +kernel, (abandoned_forever hrun habandoned hlater).1⟩

end Endpoint

end Utp
