import Utp.Buffer.BlockingBuffer

/-! # Overlapping calls of a buffer

`write` gives way once when it has appended and once for every waiting read it serves, and
any other call may run in between. A session keeps the writes that are under way and, for
the statements, what every call of `read` has been given.
-/

namespace Utp

/-- Where a write has stopped: at `await this.buffer.write(data)`, or at
`await this.buffer.read(buf)` for the read it has taken from `readResolvers`. -/
inductive WriteStage where
  | wrote
  | serving (id : Nat) (readBytes : Bytes)
  deriving DecidableEq

/-- What a call of `read` has been given so far. -/
inductive ReadResult where
  | waiting
  | data (bytes : Bytes)
  | ended
  | failed
  deriving DecidableEq

def ReadResult.bytes : ReadResult → Bytes
  | .data bytes => bytes
  | _ => []

/-- A buffer with the writes under way, the results of all calls of `read` in the order of
the calls, and the calls to which the entries of `readResolvers` belong. -/
structure Session where
  buffer : BlockingBuffer
  writes : List WriteStage
  calls : List ReadResult
  owners : List Nat
  deriving DecidableEq

/-- The calls of the methods, and the continuation of a write. -/
inductive SessionEvent where
  | write (data : Bytes)
  | read (size : Nat)
  | resume (position : Nat)
  | drain
  | close

namespace Session

def start (maxBytes : Nat) : Session := ⟨.create maxBytes, [], [], []⟩

/-- The head of the loop in `write`: serve the first waiting read, or return. -/
def serveNext (session : Session) (position : Nat) : Session :=
  match session.buffer.readResolvers, session.owners with
  | read :: _, owner :: owners =>
      if session.buffer.length = 0 then
        { session with writes := session.writes.eraseIdx position }
      else
        let readBytes := session.buffer.buffer.take read.size
        { buffer := session.buffer.popReader.take read.size
          writes := session.writes.set position (.serving read.id readBytes)
          calls := session.calls.set owner (.data readBytes)
          owners := owners }
  | _, _ => { session with writes := session.writes.eraseIdx position }

/-- A write goes on after an await. -/
def resume (session : Session) (position : Nat) : Session :=
  match session.writes[position]? with
  | none => session
  | some .wrote => session.serveNext position
  | some (.serving id readBytes) =>
      { session with buffer := session.buffer.settle id (some readBytes) }.serveNext position

def write (session : Session) (data : Bytes) : Session :=
  { session with
    buffer := session.buffer.append data
    writes := session.writes ++ [.wrote] }

def read (session : Session) (size : Nat) : Session :=
  if session.buffer.closed then
    if session.buffer.readResolvers.length ≠ 0 ∨ session.buffer.length ≠ 0 then
      { session with calls := session.calls ++ [.failed] }
    else { session with calls := session.calls ++ [.ended] }
  else if 0 < session.buffer.length then
    { session with
      buffer := session.buffer.take size
      calls := session.calls ++ [.data (session.buffer.buffer.take size)] }
  else if session.buffer.closedForWriting then
    { session with
      buffer := { session.buffer with closed := true }
      calls := session.calls ++ [.ended] }
  else
    { session with
      buffer := session.buffer.pushReader size
      calls := session.calls ++ [.waiting]
      owners := session.owners ++ [session.calls.length] }

/-- All waiting reads return `null`. -/
def endWaiting (session : Session) : Session :=
  { session with
    calls := session.owners.foldl (fun calls owner => calls.set owner .ended) session.calls
    owners := [] }

def drain (session : Session) : Session :=
  if session.buffer.closed || session.buffer.closedForWriting || session.buffer.length ≠ 0 then
    { session with buffer := session.buffer.drain }
  else { session.endWaiting with buffer := session.buffer.drain }

def close (session : Session) : Session :=
  { session.endWaiting with buffer := session.buffer.close }

def step (session : Session) : SessionEvent → Session
  | .write data => session.write data
  | .read size => session.read size
  | .resume position => session.resume position
  | .drain => session.drain
  | .close => session.close

/-- The sessions that allowed events lead to. -/
inductive Run (allowed : Session → SessionEvent → Prop) (first : Session) : Session → Prop
  | start : Run allowed first first
  | step {session : Session} {event : SessionEvent} (hrun : Run allowed first session)
      (hallowed : allowed session event) : Run allowed first (session.step event)

theorem Run.trans {allowed : Session → SessionEvent → Prop} {first middle last : Session}
    (hfirst : Run allowed first middle) (hlast : Run allowed middle last) :
    Run allowed first last := by
  induction hlast with
  | start => exact hfirst
  | step _ hallowed ih => exact ih.step hallowed

/-- What every allowed step keeps holds in every session of a run. -/
theorem Run.invariant {allowed : Session → SessionEvent → Prop} {first session : Session}
    {inv : Session → Prop} (hfirst : inv first)
    (hstep : ∀ session event, inv session → allowed session event → inv (session.step event))
    (hrun : Run allowed first session) : inv session := by
  induction hrun with
  | start => exact hfirst
  | step _ hallowed ih => exact hstep _ _ ih hallowed

/-! ## Waiting reads -/

/-- The waiting calls are those in `owners`, in the order of the calls. -/
structure Tidy (session : Session) : Prop where
  aligned : session.owners.length = session.buffer.readResolvers.length
  ordered : session.owners.Pairwise (· < ·)
  waiting : ∀ call, session.calls[call]? = some .waiting ↔ call ∈ session.owners

variable {session : Session}

/-- A waiting call is one of the calls. -/
theorem Tidy.owner_lt (htidy : session.Tidy) {owner : Nat} (howner : owner ∈ session.owners) :
    owner < session.calls.length :=
  (List.getElem?_eq_some_iff.mp ((htidy.waiting owner).mpr howner)).1

theorem start_tidy (maxBytes : Nat) : (start maxBytes).Tidy :=
  ⟨rfl, .nil, fun _ => by simp [start]⟩

/-- What `serveNext` does: the write returns, or the first waiting read is served. -/
inductive Serves (session : Session) (position : Nat) : Session → Prop
  | returns (hidle : session.buffer.readResolvers = [] ∨ session.buffer.length = 0) :
      Serves session position { session with writes := session.writes.eraseIdx position }
  | serve (read : PendingRead) (reads : List PendingRead) (owner : Nat) (owners : List Nat)
      (hreads : session.buffer.readResolvers = read :: reads)
      (howners : session.owners = owner :: owners) (hdata : session.buffer.length ≠ 0) :
      Serves session position
        { buffer := session.buffer.popReader.take read.size
          writes := session.writes.set position
            (.serving read.id (session.buffer.buffer.take read.size))
          calls := session.calls.set owner (.data (session.buffer.buffer.take read.size))
          owners := owners }

/-- The head of the loop serves the first waiting read, if there is one and there is data. -/
theorem serveNext_serves (htidy : session.Tidy) (position : Nat) :
    session.Serves position (session.serveNext position) := by
  have haligned := htidy.aligned
  unfold serveNext
  split
  next read reads owner owners hreads howners =>
    split
    next hempty => exact .returns (.inr hempty)
    next hdata => exact .serve read reads owner owners hreads howners hdata
  next hneither =>
    apply Serves.returns
    left
    cases hreads : session.buffer.readResolvers with
    | nil => rfl
    | cons read reads =>
        cases howners : session.owners with
        | nil => simp [hreads, howners] at haligned
        | cons owner owners => exact absurd howners (hneither read reads owner owners hreads)

/-- Serving a read leaves the others in their order. -/
theorem Serves.tidy {position : Nat} {next : Session} (htidy : session.Tidy)
    (hserves : session.Serves position next) : next.Tidy := by
  cases hserves with
  | returns => exact ⟨htidy.aligned, htidy.ordered, htidy.waiting⟩
  | serve read reads owner owners hreads howners hdata =>
      have haligned := htidy.aligned
      have hordered := htidy.ordered
      have hlt := htidy.owner_lt (howners ▸ List.mem_cons_self)
      rw [howners] at hordered haligned
      obtain ⟨hfirst, hrest⟩ := List.pairwise_cons.mp hordered
      refine ⟨?_, hrest, fun call => ?_⟩
      · simpa [BlockingBuffer.take, BlockingBuffer.popReader, hreads] using haligned
      · by_cases hcall : call = owner
        · subst hcall
          simp only [List.getElem?_set_self hlt, Option.some.injEq, reduceCtorEq, false_iff]
          exact fun hmem => Nat.lt_irrefl _ (hfirst _ hmem)
        · rw [List.getElem?_set_ne (Ne.symm hcall), htidy.waiting call, howners, List.mem_cons]
          simp [hcall]

/-- Settling a promise changes nothing that the calls see. -/
theorem settle_tidy (htidy : session.Tidy) (id : Nat) (readBytes : Bytes) :
    Tidy { session with buffer := session.buffer.settle id (some readBytes) } :=
  ⟨htidy.aligned, htidy.ordered, htidy.waiting⟩

/-- A write that goes on leaves the waiting calls in order. -/
theorem resume_tidy (htidy : session.Tidy) (position : Nat) : (session.resume position).Tidy := by
  unfold resume
  split
  next => exact htidy
  next => exact (serveNext_serves htidy position).tidy htidy
  next id readBytes _ =>
    have hsettled := settle_tidy htidy id readBytes
    exact (serveNext_serves hsettled position).tidy hsettled

theorem waiting_append (calls : List ReadResult) (result : ReadResult) (call : Nat) :
    (calls ++ [result])[call]? = some .waiting ↔
      calls[call]? = some .waiting ∨ (call = calls.length ∧ result = .waiting) := by
  rcases Nat.lt_trichotomy call calls.length with hlt | rfl | hgt
  · simp [List.getElem?_append_left hlt, Nat.ne_of_lt hlt]
  · simp
  · have hnone : (calls ++ [result])[call]? = none := by simp; omega
    have hnone' : calls[call]? = none := by simp; omega
    simp [hnone, hnone', Nat.ne_of_gt hgt]

/-- A call that does not wait. -/
theorem Tidy.call (htidy : session.Tidy) {buffer : BlockingBuffer} {result : ReadResult}
    (hreads : buffer.readResolvers = session.buffer.readResolvers) (hresult : result ≠ .waiting) :
    Tidy { session with buffer := buffer, calls := session.calls ++ [result] } := by
  refine ⟨htidy.aligned.trans (congrArg List.length hreads.symm), htidy.ordered, fun call => ?_⟩
  simp only [waiting_append, htidy.waiting call, hresult, and_false, or_false]

/-- A call of `read` that waits comes last. -/
theorem read_tidy (htidy : session.Tidy) (size : Nat) : (session.read size).Tidy := by
  unfold read
  split
  next => split <;> exact htidy.call rfl nofun
  next =>
    split
    next => exact htidy.call rfl nofun
    next =>
      split
      next => exact htidy.call rfl nofun
      next =>
        refine ⟨?_, ?_, fun call => ?_⟩
        · simp [BlockingBuffer.pushReader, htidy.aligned]
        · refine List.pairwise_append.mpr ⟨htidy.ordered, List.pairwise_singleton _ _, ?_⟩
          intro owner howner last hlast
          rw [List.mem_singleton.mp hlast]
          exact htidy.owner_lt howner
        · simp only [waiting_append, htidy.waiting call, and_true, List.mem_append,
            List.mem_singleton]

/-- The calls that wait are ended, and the others stay as they are. -/
theorem getElem?_foldl_set (owners : List Nat) (calls : List ReadResult) (call : Nat) :
    (owners.foldl (fun calls owner => calls.set owner .ended) calls)[call]? =
      if call ∈ owners ∧ call < calls.length then some .ended else calls[call]? := by
  induction owners generalizing calls with
  | nil => simp
  | cons owner rest ih =>
      rw [List.foldl_cons, ih, List.length_set, List.getElem?_set]
      by_cases hcall : call = owner
      · subst hcall
        by_cases hlt : call < calls.length
        · simp [hlt]
        · simp [hlt]
      · simp [hcall, Ne.symm hcall]

/-- When the end is told, nobody waits any more. -/
theorem endWaiting_waiting (htidy : session.Tidy) (call : Nat) :
    session.endWaiting.calls[call]? ≠ some .waiting := by
  intro hwaiting
  simp only [endWaiting, getElem?_foldl_set] at hwaiting
  split at hwaiting
  next => cases hwaiting
  next hother =>
    have howner := (htidy.waiting call).mp hwaiting
    exact hother ⟨howner, htidy.owner_lt howner⟩

/-- Ending all waiting calls leaves none to keep in order. -/
theorem endWaiting_tidy (htidy : session.Tidy) {buffer : BlockingBuffer}
    (hreads : buffer.readResolvers = []) : Tidy { session.endWaiting with buffer := buffer } := by
  refine ⟨?_, .nil, fun call => ?_⟩
  · simp [endWaiting, hreads]
  · have hwaiting := endWaiting_waiting htidy call
    constructor
    · exact fun h => absurd h hwaiting
    · exact nofun

/-! ## The end of the stream -/

/-- `drain` or `close` has been called. -/
def Ended (session : Session) : Prop :=
  session.buffer.closed = true ∨ session.buffer.closedForWriting = true

/-- No write starts after the end of the stream. -/
def EndsLast (session : Session) : SessionEvent → Prop
  | .write _ => ¬ session.Ended
  | _ => True

/-- Besides, `drain` finds no read that waits for the bytes of a write under way. -/
def DrainsIdle (session : Session) : SessionEvent → Prop
  | .write _ => ¬ session.Ended
  | .drain => session.buffer.length = 0 ∨ session.buffer.readResolvers = []
  | _ => True

/-- A read that waits after all writes have returned waits for data that may come. -/
def Awake (session : Session) : Prop :=
  session.writes = [] → session.buffer.readResolvers ≠ [] →
    session.buffer.length = 0 ∧ ¬ session.Ended

/-- What holds between the steps of a session whose drains leave no read behind. -/
structure Wakeful (session : Session) : Prop extends session.Tidy where
  ended : session.Ended → session.buffer.readResolvers = []
  closed : session.buffer.closed = true → session.buffer.buffer = []
  owing : session.buffer.readResolvers ≠ [] → session.buffer.length ≠ 0 → session.writes ≠ []
  unfailed : .failed ∉ session.calls

/-- At the start nobody reads and nobody writes. -/
theorem start_wakeful (maxBytes : Nat) : (start maxBytes).Wakeful :=
  ⟨start_tidy maxBytes, fun _ => rfl, nofun, fun h => absurd rfl h, nofun⟩

/-- Whoever is served leaves the rest awake. -/
theorem Serves.wakeful {position : Nat} {next : Session} (hwakeful : session.Wakeful)
    (hposition : position < session.writes.length) (hserves : session.Serves position next) :
    next.Wakeful := by
  have htidy := hserves.tidy hwakeful.toTidy
  cases hserves with
  | returns hidle =>
      refine ⟨htidy, hwakeful.ended, hwakeful.closed, fun hreads hdata => ?_, hwakeful.unfailed⟩
      exact (hidle.elim hreads hdata).elim
  | serve read reads owner owners hreads howners hdata =>
      have hopen : ¬ session.Ended := fun hended => by
        have hnone := hwakeful.ended hended
        rw [hreads] at hnone
        cases hnone
      refine ⟨htidy, fun hended => absurd hended hopen, fun hclosed => absurd (.inl hclosed) hopen,
        fun _ _ => ?_, fun hfailed => ?_⟩
      · apply List.ne_nil_of_length_pos
        rw [List.length_set]
        omega
      · rcases List.mem_or_eq_of_mem_set hfailed with hold | hnew
        · exact hwakeful.unfailed hold
        · cases hnew

/-- A write that goes on leaves nobody behind who could be served. -/
theorem resume_wakeful (hwakeful : session.Wakeful) (position : Nat) :
    (session.resume position).Wakeful := by
  unfold resume
  split
  next => exact hwakeful
  next hstage =>
    have hposition := (List.getElem?_eq_some_iff.mp hstage).1
    exact (serveNext_serves hwakeful.toTidy position).wakeful hwakeful hposition
  next id readBytes hstage =>
    have hposition := (List.getElem?_eq_some_iff.mp hstage).1
    have hsettled : Wakeful { session with buffer := session.buffer.settle id (some readBytes) } :=
      ⟨settle_tidy hwakeful.toTidy id readBytes, hwakeful.ended, hwakeful.closed, hwakeful.owing,
        hwakeful.unfailed⟩
    exact (serveNext_serves hsettled.toTidy position).wakeful hsettled hposition

/-- A read that waits finds the buffer open. -/
theorem read_wakeful (hwakeful : session.Wakeful) (size : Nat) : (session.read size).Wakeful := by
  have htidy := read_tidy hwakeful.toTidy size
  have hunfailed : ∀ result, result ≠ .failed → .failed ∉ session.calls ++ [result] := by
    intro result hresult hfailed
    rcases List.mem_append.mp hfailed with hold | hnew
    · exact hwakeful.unfailed hold
    · exact hresult (List.mem_singleton.mp hnew).symm
  unfold read at htidy ⊢
  split at htidy
  next hclosed =>
    have hassert : ¬ (session.buffer.readResolvers.length ≠ 0 ∨ session.buffer.length ≠ 0) := by
      simp [hwakeful.ended (.inl hclosed), BlockingBuffer.length, hwakeful.closed hclosed]
    rw [if_neg hassert] at htidy
    rw [if_pos hclosed, if_neg hassert]
    exact ⟨htidy, hwakeful.ended, hwakeful.closed, hwakeful.owing, hunfailed _ (by simp)⟩
  next hopen =>
    rw [if_neg hopen]
    split at htidy
    next hdata =>
      rw [if_pos hdata]
      refine ⟨htidy, hwakeful.ended, fun hclosed => absurd hclosed hopen, fun hreads _ => ?_,
        hunfailed _ (by simp)⟩
      exact hwakeful.owing hreads (by omega)
    next hempty =>
      have hlength : session.buffer.length = 0 := by omega
      rw [if_neg hempty]
      split at htidy
      next hdrained =>
        rw [if_pos hdrained]
        refine ⟨htidy, fun _ => hwakeful.ended (.inr hdrained), fun _ => ?_, hwakeful.owing,
          hunfailed _ (by simp)⟩
        exact List.length_eq_zero_iff.mp hlength
      next hundrained =>
        rw [if_neg hundrained]
        refine ⟨htidy, fun hended => ?_, fun hclosed => absurd hclosed hopen,
          fun _ hdata => absurd hlength hdata, hunfailed _ (by simp)⟩
        exact (hended.elim hopen hundrained).elim

/-- A write under way is there for those that wait. -/
theorem write_wakeful (hwakeful : session.Wakeful) (hopen : ¬ session.Ended) (data : Bytes) :
    (session.write data).Wakeful :=
  ⟨⟨hwakeful.aligned, hwakeful.ordered, hwakeful.waiting⟩, hwakeful.ended,
    fun hclosed => absurd (.inl hclosed) hopen, fun _ _ => by simp [write], hwakeful.unfailed⟩

/-- Who is ended has not failed. -/
theorem endWaiting_unfailed (hunfailed : .failed ∉ session.calls) :
    .failed ∉ session.endWaiting.calls := by
  intro hfailed
  obtain ⟨call, hcall⟩ := List.mem_iff_getElem?.mp hfailed
  simp only [endWaiting, getElem?_foldl_set] at hcall
  split at hcall
  next => cases hcall
  next => exact hunfailed (List.mem_of_getElem? hcall)

/-- Closing ends all reads that wait. -/
theorem close_wakeful (hwakeful : session.Wakeful) : session.close.Wakeful :=
  ⟨endWaiting_tidy hwakeful.toTidy rfl, fun _ => rfl, fun _ => rfl, fun h => absurd rfl h,
    endWaiting_unfailed hwakeful.unfailed⟩

/-- Draining ends all reads that wait where there is nothing to read, or nobody waits. -/
theorem drain_wakeful (hwakeful : session.Wakeful)
    (hidle : session.buffer.length = 0 ∨ session.buffer.readResolvers = []) :
    session.drain.Wakeful := by
  unfold drain
  by_cases hended : session.Ended
  · have hflags : (session.buffer.closed || session.buffer.closedForWriting) = true :=
      Bool.or_eq_true_iff.mpr hended
    have hsame : session.buffer.drain = session.buffer := by
      rw [BlockingBuffer.drain, if_pos hflags]
    rw [if_pos (by simp [hflags]), hsame]
    exact hwakeful
  · have hflags : (session.buffer.closed || session.buffer.closedForWriting) = false :=
      Bool.eq_false_iff.mpr (mt Bool.or_eq_true_iff.mp hended)
    have hopen : session.buffer.closed = false := (Bool.or_eq_false_iff.mp hflags).1
    by_cases hempty : session.buffer.length = 0
    · have hbuffer : session.buffer.buffer = [] := List.length_eq_zero_iff.mp hempty
      have hdrain : session.buffer.drain =
          { session.buffer.settleAll session.buffer.readResolvers none with
            closedForWriting := true
            closed := true
            readResolvers := [] } := by
        rw [BlockingBuffer.drain, if_neg (by simp [hflags]), if_pos hempty]
      rw [if_neg (by simp [hflags, hempty]), hdrain]
      exact ⟨endWaiting_tidy hwakeful.toTidy rfl, fun _ => rfl, fun _ => hbuffer,
        fun h => absurd rfl h, endWaiting_unfailed hwakeful.unfailed⟩
    · have hreads := hidle.resolve_left hempty
      have hdrain : session.buffer.drain = { session.buffer with closedForWriting := true } := by
        rw [BlockingBuffer.drain, if_neg (by simp [hflags]), if_neg hempty]
      rw [if_pos (by simp [hempty]), hdrain]
      refine ⟨⟨hwakeful.aligned, hwakeful.ordered, hwakeful.waiting⟩, fun _ => hreads,
        fun hclosed => ?_, hwakeful.owing, hwakeful.unfailed⟩
      exact absurd (hopen.symm.trans hclosed) nofun

/-- Every step of the kind in question keeps readers awake. -/
theorem step_wakeful (event : SessionEvent) (hwakeful : session.Wakeful)
    (hallowed : session.DrainsIdle event) : (session.step event).Wakeful := by
  cases event with
  | write data => exact write_wakeful hwakeful hallowed data
  | read size => exact read_wakeful hwakeful size
  | resume position => exact resume_wakeful hwakeful position
  | drain => exact drain_wakeful hwakeful hallowed
  | close => exact close_wakeful hwakeful

/-- The fast path of `read`. -/
theorem read_fast (hclosed : session.buffer.closed = false) (hdata : session.buffer.length ≠ 0)
    (size : Nat) : session.read size =
      { session with
        buffer := session.buffer.take size
        calls := session.calls ++ [.data (session.buffer.buffer.take size)] } := by
  rw [read, if_neg (by simp [hclosed]), if_pos (Nat.pos_of_ne_zero hdata)]

/-- In an empty buffer the writes under way return one after another and serve nobody. -/
theorem resume_empty {allowed : Session → SessionEvent → Prop}
    (hallowed : ∀ now, allowed now (.resume 0)) (htidy : session.Tidy)
    (hempty : session.buffer.length = 0) :
    ∃ settled, Run allowed session
      { session with buffer := { session.buffer with settled := settled }, writes := [] } := by
  obtain ⟨buffer, writes, calls, owners⟩ := session
  induction writes generalizing buffer with
  | nil => exact ⟨buffer.settled, .start⟩
  | cons stage rest ih =>
      have hreturns : ∀ next : Session, next.Tidy → next.buffer.length = 0 →
          next.writes = stage :: rest → next.serveNext 0 = { next with writes := rest } := by
        intro next hnext hlength hwrites
        generalize hserved : next.serveNext 0 = served
        have hserves := serveNext_serves hnext 0
        rw [hserved] at hserves
        cases hserves with
        | returns => rw [hwrites, List.eraseIdx_cons_zero]
        | serve _ _ _ _ _ _ hdata => exact absurd hlength hdata
      have hresumed : ∃ settled, (⟨buffer, stage :: rest, calls, owners⟩ : Session).resume 0 =
          ⟨{ buffer with settled := settled }, rest, calls, owners⟩ := by
        cases stage with
        | wrote => exact ⟨buffer.settled, hreturns _ htidy hempty rfl⟩
        | serving id readBytes => exact ⟨_, hreturns _ (settle_tidy htidy id readBytes) hempty rfl⟩
      obtain ⟨settled, hnext⟩ := hresumed
      have hnextTidy := resume_tidy htidy 0
      rw [hnext] at hnextTidy
      obtain ⟨later, hlater⟩ := ih { buffer with settled := settled } hnextTidy hempty
      have hresume : Run allowed ⟨buffer, stage :: rest, calls, owners⟩
          ⟨{ buffer with settled := settled }, rest, calls, owners⟩ :=
        hnext ▸ @Run.step allowed _ _ (.resume 0) .start (hallowed _)
      exact ⟨later, hresume.trans hlater⟩

/-- A drain that finds reads waiting beside data can leave them behind: a new read takes the
data first. -/
theorem drain_strands (hwakeful : session.Wakeful) (hdata : session.buffer.length ≠ 0)
    (hreads : session.buffer.readResolvers ≠ []) :
    ∃ later, Run EndsLast session.drain later ∧ ¬ later.Awake := by
  have hopen : ¬ session.Ended := fun hended => hreads (hwakeful.ended hended)
  have hclosed : session.buffer.closed = false := Bool.eq_false_iff.mpr fun h => hopen (.inl h)
  have hundrained : session.buffer.closedForWriting = false :=
    Bool.eq_false_iff.mpr fun h => hopen (.inr h)
  have hdrain : session.drain =
      { session with buffer := { session.buffer with closedForWriting := true } } := by
    rw [drain, if_pos (by simp [hdata]), BlockingBuffer.drain, if_neg
      (by simp [hclosed, hundrained]),
      if_neg hdata]
  rw [hdrain]
  generalize hbusy : ({ session with buffer := { session.buffer with closedForWriting := true } } :
    Session) = busy
  have hbusyTidy : busy.Tidy := hbusy ▸ ⟨hwakeful.aligned, hwakeful.ordered, hwakeful.waiting⟩
  have hbusyClosed : busy.buffer.closed = false := hbusy ▸ hclosed
  have hbusyData : busy.buffer.length ≠ 0 := hbusy ▸ hdata
  -- The read takes the fast path and leaves nothing.
  have hread : (busy.read busy.buffer.length).buffer = busy.buffer.take busy.buffer.length := by
    rw [read_fast hbusyClosed hbusyData]
  have hempty : (busy.read busy.buffer.length).buffer.length = 0 := by
    rw [hread]
    simp [BlockingBuffer.length, BlockingBuffer.take]
  obtain ⟨settled, hlater⟩ :=
    @resume_empty _ EndsLast (fun _ => trivial) (read_tidy hbusyTidy busy.buffer.length) hempty
  have hfirst : Run EndsLast busy (busy.read busy.buffer.length) :=
    @Run.step EndsLast _ _ (.read _) .start trivial
  refine ⟨_, hfirst.trans hlater, fun hawake => ?_⟩
  have hwaiting : (busy.read busy.buffer.length).buffer.readResolvers ≠ [] := by
    rw [hread, ← hbusy]
    exact hreads
  have hended : (busy.read busy.buffer.length).buffer.closedForWriting = true := by
    rw [hread, ← hbusy]
    rfl
  exact (hawake rfl hwaiting).2 (.inr hended)

/-- If no drain comes while reads wait for bytes that a write still owes them, then no read
waits in vain, no assertion of `read` fails, and after the end no read waits. Any other drain
can leave a read behind. -/
theorem drains_idle_awake {maxBytes : Nat} (hrun : Run DrainsIdle (start maxBytes) session) :
    session.Awake ∧ .failed ∉ session.calls ∧ (session.Ended → .waiting ∉ session.calls) ∧
      (¬ session.DrainsIdle .drain → ∃ later, Run EndsLast session.drain later ∧
        ¬ later.Awake) := by
  have hwakeful := hrun.invariant (start_wakeful maxBytes) fun session event hwakeful hallowed =>
    step_wakeful event hwakeful hallowed
  refine ⟨fun hwrites hreads => ⟨?_, fun hended => hreads (hwakeful.ended hended)⟩,
    hwakeful.unfailed, fun hended hwaiting => ?_, fun hbusy => ?_⟩
  · exact Decidable.not_not.mp fun hdata => hwakeful.owing hreads hdata hwrites
  · obtain ⟨call, hcall⟩ := List.mem_iff_getElem?.mp hwaiting
    have howner := (hwakeful.waiting call).mp hcall
    have haligned := hwakeful.aligned
    rw [hwakeful.ended hended, List.length_nil, List.length_eq_zero_iff] at haligned
    rw [haligned] at howner
    cases howner
  · obtain ⟨hdata, hreads⟩ := not_or.mp hbusy
    exact drain_strands hwakeful hdata hreads

/-- Two reads wait, a byte is written and the stream drained. -/
def drained : Session :=
  [.read 1, .read 1, .write [7], .drain, .resume 0, .resume 0].foldl step (start 10)

/-- A read that waits when the empty buffer is drained is ended. -/
theorem drains_idle_awake_sample :
    (step (step (start 10) (.read 1)) .drain).Awake := by
  have hread : Run DrainsIdle (start 10) (step (start 10) (.read 1)) := Run.start.step trivial
  exact (drains_idle_awake (@Run.step DrainsIdle _ _ .drain hread (Or.inl rfl))).1

/-- A drain in the middle of a write leaves a read waiting for ever. -/
theorem drained_waits : ¬ ∀ session, Run EndsLast (start 10) session → session.Awake := by
  intro hawake
  have hreads : Run EndsLast (start 10) (step (step (start 10) (.read 1)) (.read 1)) :=
    (Run.start.step trivial).step trivial
  have hwrite : Run EndsLast (start 10) (step (step (step (start 10) (.read 1)) (.read 1))
      (.write [7])) := hreads.step (by rintro (h | h) <;> cases h)
  have hdrain : Run EndsLast (start 10) (step (step (step (step (start 10) (.read 1)) (.read 1))
      (.write [7])) .drain) := hwrite.step trivial
  have hrun : Run EndsLast (start 10) drained :=
    @Run.step EndsLast _ _ (.resume 0) (@Run.step EndsLast _ _ (.resume 0) hdrain trivial) trivial
  exact (hawake drained hrun rfl (by decide)).2 (.inr rfl)

/-! ## The order of the bytes -/

/-- The bytes that the reads have been given, in the order of the calls. -/
def given (session : Session) : Bytes := (session.calls.map ReadResult.bytes).flatten

/-- Writes one after another, and reads with room for at least one byte. -/
def Reading (session : Session) : SessionEvent → Prop
  | .write _ => session.writes = []
  | .read size => 0 < size
  | .resume _ => True
  | .drain | .close => False

/-- Any writes, and reads of which none is called while another one waits beside data. -/
def InTurn (session : Session) : SessionEvent → Prop
  | .write _ | .resume _ => True
  | .read size => 0 < size ∧
      (session.buffer.length = 0 ∨ session.buffer.readResolvers = [])
  | .drain | .close => False

/-- What holds as long as no read overtakes another: behind a waiting read nothing has been
given yet. -/
structure Queued (session : Session) : Prop extends session.Tidy where
  opened : ¬ session.Ended
  sizes : ∀ read ∈ session.buffer.readResolvers, 0 < read.size
  stream : session.buffer.taken ++ session.buffer.buffer = session.buffer.appended
  given : session.given = session.buffer.taken
  behind : ∀ owner ∈ session.owners, ∀ result ∈ session.calls.drop owner, result.bytes = []

/-- At the start nothing has been given. -/
theorem start_queued (maxBytes : Nat) : (start maxBytes).Queued :=
  ⟨start_tidy maxBytes, by simp [Ended, start, BlockingBuffer.create], nofun, rfl, rfl, nofun⟩

/-- Calls that have been given nothing have been given no bytes. -/
theorem bytes_flatten_eq_nil {calls : List ReadResult}
    (hnone : ∀ result ∈ calls, result.bytes = []) :
    (calls.map ReadResult.bytes).flatten = [] := by
  simpa [List.flatten_eq_nil_iff] using hnone

/-- The bytes for a waiting read come behind all others if nothing was given behind it. -/
theorem bytes_set {calls : List ReadResult} {owner : Nat} (howner : owner < calls.length)
    (hbehind : ∀ result ∈ calls.drop owner, result.bytes = []) (readBytes : Bytes) :
    ((calls.set owner (.data readBytes)).map ReadResult.bytes).flatten =
      (calls.map ReadResult.bytes).flatten ++ readBytes := by
  have hrest : ∀ result ∈ calls.drop (owner + 1), result.bytes = [] := fun result hresult =>
    hbehind result ((List.drop_subset_drop_left calls (Nat.le_succ owner)) hresult)
  have hsplit : calls.map ReadResult.bytes =
      (calls.take owner).map ReadResult.bytes ++ (calls.drop owner).map ReadResult.bytes := by
    rw [← List.map_append, List.take_append_drop]
  rw [List.set_eq_take_append_cons_drop, if_pos howner, hsplit, List.map_append, List.map_cons,
    List.flatten_append, List.flatten_append, List.flatten_cons, bytes_flatten_eq_nil hrest,
    bytes_flatten_eq_nil hbehind]
  simp [ReadResult.bytes]

/-- The first waiting read is given the first bytes. -/
theorem Serves.queued {position : Nat} {next : Session} (hqueued : session.Queued)
    (hserves : session.Serves position next) : next.Queued := by
  have htidy := hserves.tidy hqueued.toTidy
  cases hserves with
  | returns =>
      exact ⟨htidy, hqueued.opened, hqueued.sizes, hqueued.stream, hqueued.given, hqueued.behind⟩
  | serve read reads owner owners hreads howners hdata =>
      have hmem : owner ∈ session.owners := howners ▸ List.mem_cons_self
      have hordered := hqueued.ordered
      rw [howners] at hordered
      refine ⟨htidy, hqueued.opened, fun other hother => ?_, ?_, ?_,
        fun later hlater result hresult => ?_⟩
      · exact hqueued.sizes other (List.mem_of_mem_tail hother)
      · show (session.buffer.taken ++ session.buffer.buffer.take read.size) ++
          session.buffer.buffer.drop read.size = session.buffer.appended
        rw [List.append_assoc, List.take_append_drop]
        exact hqueued.stream
      · have hset := bytes_set (hqueued.owner_lt hmem) (hqueued.behind owner hmem)
          (session.buffer.buffer.take read.size)
        exact hset.trans (congrArg (· ++ session.buffer.buffer.take read.size) hqueued.given)
      · have hlt := (List.pairwise_cons.mp hordered).1 later hlater
        rw [List.drop_set_of_lt hlt] at hresult
        exact hqueued.behind later (howners ▸ List.mem_cons_of_mem _ hlater) result hresult

/-- A write that goes on serves reads in their order. -/
theorem resume_queued (hqueued : session.Queued) (position : Nat) :
    (session.resume position).Queued := by
  unfold resume
  split
  next => exact hqueued
  next => exact (serveNext_serves hqueued.toTidy position).queued hqueued
  next id readBytes _ =>
    have hsettled : Queued { session with buffer := session.buffer.settle id (some readBytes) } :=
      ⟨settle_tidy hqueued.toTidy id readBytes, hqueued.opened, hqueued.sizes, hqueued.stream,
        hqueued.given, hqueued.behind⟩
    exact (serveNext_serves hsettled.toTidy position).queued hsettled

/-- What another call has been given comes behind what the others have. -/
theorem given_append (calls : List ReadResult) (result : ReadResult) :
    ((calls ++ [result]).map ReadResult.bytes).flatten =
      (calls.map ReadResult.bytes).flatten ++ result.bytes := by
  simp

/-- A call that is given nothing. -/
theorem Queued.behind_append (hqueued : session.Queued) {result : ReadResult}
    (hresult : result.bytes = []) : ∀ owner ∈ session.owners,
      ∀ other ∈ (session.calls ++ [result]).drop owner, other.bytes = [] := by
  intro owner howner other hother
  rw [List.drop_append_of_le_length (Nat.le_of_lt (hqueued.owner_lt howner)), List.mem_append]
    at hother
  rcases hother with hold | hnew
  · exact hqueued.behind owner howner other hold
  · rw [List.mem_singleton.mp hnew]
    exact hresult

/-- A read that finds data finds nobody waiting before it. -/
theorem read_queued (hqueued : session.Queued) {size : Nat} (hsize : 0 < size)
    (hturn : session.buffer.length = 0 ∨ session.buffer.readResolvers = []) :
    (session.read size).Queued := by
  have htidy := read_tidy hqueued.toTidy size
  have hopened := not_or.mp hqueued.opened
  rw [read, if_neg hopened.1] at htidy ⊢
  by_cases hdata : 0 < session.buffer.length
  · rw [if_pos hdata] at htidy ⊢
    -- Nobody waits, so there is nothing behind which the bytes could come too early.
    have hreads := hturn.resolve_left (Nat.ne_of_gt hdata)
    have howners : session.owners = [] := by
      have haligned := hqueued.aligned
      rw [hreads] at haligned
      exact List.length_eq_zero_iff.mp haligned
    refine ⟨htidy, hqueued.opened, hqueued.sizes, ?_, ?_, fun owner howner => ?_⟩
    · show (session.buffer.taken ++ session.buffer.buffer.take size) ++
        session.buffer.buffer.drop size = session.buffer.appended
      rw [List.append_assoc, List.take_append_drop]
      exact hqueued.stream
    · exact (given_append _ _).trans
        (congrArg (· ++ session.buffer.buffer.take size) hqueued.given)
    · have hnobody : owner ∈ session.owners := howner
      rw [howners] at hnobody
      cases hnobody
  · rw [if_neg hdata, if_neg hopened.2] at htidy ⊢
    refine ⟨htidy, hqueued.opened, fun read hread => ?_, hqueued.stream, ?_, fun owner howner => ?_⟩
    · rcases List.mem_append.mp hread with hold | hnew
      · exact hqueued.sizes read hold
      · rw [List.mem_singleton.mp hnew]
        exact hsize
    · exact (given_append _ _).trans ((List.append_nil _).trans hqueued.given)
    · rcases List.mem_append.mp howner with hold | hnew
      · exact hqueued.behind_append rfl owner hold
      · rw [List.mem_singleton.mp hnew, List.drop_left]
        simp [ReadResult.bytes]

/-- A write gives nothing yet. -/
theorem write_queued (hqueued : session.Queued) (data : Bytes) : (session.write data).Queued := by
  refine ⟨⟨hqueued.aligned, hqueued.ordered, hqueued.waiting⟩, hqueued.opened, hqueued.sizes, ?_,
    hqueued.given, hqueued.behind⟩
  show session.buffer.taken ++ (session.buffer.buffer ++ data) = session.buffer.appended ++ data
  rw [← List.append_assoc, hqueued.stream]

/-- Every step of the kind in question keeps reads in their order. -/
theorem step_queued (event : SessionEvent) (hqueued : session.Queued)
    (hallowed : session.InTurn event) : (session.step event).Queued := by
  cases event with
  | write data => exact write_queued hqueued data
  | read size => exact read_queued hqueued hallowed.1 hallowed.2
  | resume position => exact resume_queued hqueued position
  | drain => cases hallowed
  | close => cases hallowed

/-- A write serves a waiting read behind which only the last call was given anything. -/
theorem served_late (hempty : session.buffer.buffer = [])
    {read : PendingRead} {reads : List PendingRead} {owner : Nat} {owners : List Nat}
    (hreads : session.buffer.readResolvers = read :: reads)
    (howners : session.owners = owner :: owners)
    (hwrites : session.writes = []) (hsize : 0 < read.size) (byte : UInt8) :
    ((session.write [byte]).resume 0).calls = session.calls.set owner (.data [byte]) ∧
      ((session.write [byte]).resume 0).buffer.appended = session.buffer.appended ++ [byte] := by
  have hone : List.take read.size [byte] = [byte] := List.take_of_length_le hsize
  have hstage : (session.write [byte]).writes[0]? = some .wrote := by simp [write, hwrites]
  have hlength : (session.write [byte]).buffer.length ≠ 0 := by
    simp [write, BlockingBuffer.append, BlockingBuffer.length]
  have hreads' : (session.write [byte]).buffer.readResolvers = read :: reads := hreads
  have howners' : (session.write [byte]).owners = owner :: owners := howners
  have hbuffer : (session.write [byte]).buffer.buffer = [byte] := by
    simp [write, BlockingBuffer.append, hempty]
  simp only [resume, hstage, serveNext, hreads', howners', if_neg hlength, hbuffer, hone]
  exact ⟨rfl, rfl⟩

/-- A read that overtakes a waiting one can be given bytes out of order. -/
theorem overtakes (hqueued : session.Queued) (hdata : session.buffer.length ≠ 0)
    (hreads : session.buffer.readResolvers ≠ []) :
    ∃ later, Run Reading (session.read session.buffer.length) later ∧
      ¬ later.given <+: later.buffer.appended := by
  have hclosed : session.buffer.closed = false :=
    Bool.eq_false_iff.mpr (not_or.mp hqueued.opened).1
  obtain ⟨first, rest, hbuffer⟩ := List.exists_cons_of_ne_nil (mt List.length_eq_zero_iff.mpr hdata)
  obtain ⟨read, reads, hreads⟩ := List.exists_cons_of_ne_nil hreads
  have haligned := hqueued.aligned
  rw [hreads] at haligned
  obtain ⟨owner, owners, howners⟩ := List.exists_cons_of_length_eq_add_one haligned
  have hmem : owner ∈ session.owners := howners ▸ List.mem_cons_self
  have hlt := hqueued.owner_lt hmem
  obtain ⟨byte, hne⟩ : ∃ byte : UInt8, byte ≠ first := by
    by_cases hzero : first = 0
    · exact ⟨1, by rw [hzero]; decide⟩
    · exact ⟨0, Ne.symm hzero⟩
  -- The overtaking read empties the buffer, and the writes under way return.
  have htidy := read_tidy hqueued.toTidy session.buffer.length
  have htaken : session.buffer.buffer.take session.buffer.length = session.buffer.buffer :=
    List.take_length
  have hleft : session.buffer.buffer.drop session.buffer.length = [] := List.drop_length
  generalize hreading : session.read session.buffer.length = reading at htidy
  rw [read_fast hclosed hdata, htaken] at hreading
  have hempty : reading.buffer.buffer = [] := by
    rw [← hreading]
    exact hleft
  obtain ⟨settled, hidle⟩ :=
    @resume_empty _ Reading (fun _ => trivial) htidy (by rw [BlockingBuffer.length, hempty]; rfl)
  generalize hnext : ({ reading with
    buffer := { reading.buffer with settled := settled }, writes := [] } : Session) = next at hidle
  -- The next write serves the waiting read with another byte.
  have hserved := @served_late next (by rw [← hnext]; exact hempty) read reads owner owners
    (by rw [← hnext, ← hreading]; exact hreads) (by rw [← hnext, ← hreading]; exact howners)
    (by rw [← hnext]) (hqueued.sizes read (hreads ▸ List.mem_cons_self)) byte
  have hcalls : next.calls = session.calls ++ [.data session.buffer.buffer] := by
    rw [← hnext, ← hreading]
  have happended : next.buffer.appended = session.buffer.taken ++ session.buffer.buffer := by
    rw [← hnext, ← hreading]
    exact hqueued.stream.symm
  have hwritten : Run Reading next (next.write [byte]) :=
    @Run.step Reading _ _ (.write [byte]) .start (by rw [← hnext]; rfl)
  have hrun : Run Reading next ((next.write [byte]).resume 0) :=
    @Run.step Reading _ _ (.resume 0) hwritten trivial
  refine ⟨_, hidle.trans hrun, ?_⟩
  have hgiven : ((next.write [byte]).resume 0).given =
      session.buffer.taken ++ [byte] ++ session.buffer.buffer := by
    rw [Session.given, hserved.1, hcalls, List.set_append_left _ _ hlt, given_append,
      bytes_set hlt (hqueued.behind owner hmem) [byte]]
    exact congrArg (· ++ [byte] ++ session.buffer.buffer) hqueued.given
  rw [hgiven, hserved.2, happended, List.append_assoc, List.append_assoc,
    List.prefix_append_right_inj, hbuffer]
  exact fun hbeginning => hne (List.cons_prefix_cons.mp hbeginning).1

/-- Two bytes are written while a read waits, and another read is called before the write
goes on. -/
def overtaken : Session :=
  [.read 1, .write [1, 2], .read 1, .resume 0].foldl step (start 10)

/-- As long as no read is called while another one waits beside data, the bytes given to the
reads in the order of their calls are a prefix of the bytes written. Where a read is called
so, a read large enough can be given bytes out of order. -/
theorem reads_in_turn {maxBytes : Nat} (hrun : Run InTurn (start maxBytes) session) :
    session.given <+: session.buffer.appended ∧
      (session.buffer.length ≠ 0 → session.buffer.readResolvers ≠ [] →
        ∃ later, Run Reading (session.read session.buffer.length) later ∧
          ¬ later.given <+: later.buffer.appended) := by
  have hqueued := hrun.invariant (start_queued maxBytes) fun session event hqueued hallowed =>
    step_queued event hqueued hallowed
  refine ⟨?_, overtakes hqueued⟩
  rw [hqueued.given, ← hqueued.stream]
  exact List.prefix_append _ _

/-- Two reads wait, and three bytes are written: the first read has been given its byte. -/
def served : Session := [.read 1, .read 2, .write [1, 2, 3], .resume 0].foldl step (start 10)

/-- The other two bytes are still there for the second read, and a third one may overtake it. -/
theorem reads_in_turn_sample :
    served.given = [1] ∧ served.given <+: [1, 2, 3] ∧
      ∃ later, Run Reading (served.read 2) later ∧ ¬ later.given <+: later.buffer.appended := by
  have hfirst : Run InTurn (start 10) (step (start 10) (.read 1)) :=
    @Run.step InTurn _ _ (.read 1) .start ⟨Nat.one_pos, Or.inl rfl⟩
  have hsecond : Run InTurn (start 10) (step (step (start 10) (.read 1)) (.read 2)) :=
    @Run.step InTurn _ _ (.read 2) hfirst ⟨Nat.two_pos, Or.inl rfl⟩
  have hwrite := @Run.step InTurn _ _ (.write [1, 2, 3]) hsecond trivial
  have hrun : Run InTurn (start 10) served := @Run.step InTurn _ _ (.resume 0) hwrite trivial
  obtain ⟨hgiven, hovertakes⟩ := reads_in_turn hrun
  exact ⟨by decide, hgiven, hovertakes (by decide) (by decide)⟩

/-- A second read overtakes one that waits beside data. -/
theorem overtaken_order : ¬ ∀ session, Run Reading (start 10) session →
    session.given <+: session.buffer.appended := by
  intro hbeginning
  have hread : Run Reading (start 10) (step (start 10) (.read 1)) :=
    @Run.step Reading _ _ (.read 1) .start Nat.one_pos
  have hwrite : Run Reading (start 10) (step (step (start 10) (.read 1)) (.write [1, 2])) :=
    @Run.step Reading _ _ (.write [1, 2]) hread rfl
  have hsecond : Run Reading (start 10)
      (step (step (step (start 10) (.read 1)) (.write [1, 2])) (.read 1)) :=
    @Run.step Reading _ _ (.read 1) hwrite Nat.one_pos
  have hrun : Run Reading (start 10) overtaken := @Run.step Reading _ _ (.resume 0) hsecond trivial
  exact absurd (hbeginning overtaken hrun) (by decide)

end Session

end Utp
