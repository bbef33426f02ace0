import Utp.Conn.Reading
import Utp.Sender.Fragments

/-! # What each call contributes to the stream

However the calls overlap, and whether or not they come to their ends: all that the packets of
a connection carry was put there by calls of `write`, and each of them has put in a beginning
of its own data. Calls that follow one another make up one stream.
-/

namespace Utp

open Async (Config Trace)

namespace World

/-! ## One call -/

/-- A call that has put a beginning of `data` into packets, and nothing else, at any time. -/
def Contributes (data : Bytes) (task : ConnM Unit) : Prop :=
  ∀ state, task.LogsThrough (fun own => carried own <+: data) (fun _ _ _ => True) [] state

theorem carried_same {writes : List (World × World)}
    (hwrites : ∀ write ∈ writes, write.2.conn.created = write.1.conn.created) :
    carried writes = [] := by
  simp only [carried, List.flatMap_eq_nil_iff]
  intro packet hpacket
  obtain ⟨write, hwrite, hbuilt⟩ := List.mem_flatMap.mp hpacket
  rw [built, hwrites write hwrite, List.drop_length] at hbuilt
  cases hbuilt

theorem carried_writes {reading : Bool} {writes : List (World × World)}
    (hwrites : ∀ write ∈ writes, Writes reading false write.1 write.2) : carried writes = [] := by
  simp only [carried, List.flatMap_eq_nil_iff]
  intro packet hpacket
  obtain ⟨write, hwrite, hbuilt⟩ := List.mem_flatMap.mp hpacket
  obtain ⟨packets, hcreated, hempty⟩ := (hwrites write hwrite).created
  rw [built, hcreated, List.drop_left] at hbuilt
  exact List.flatMap_eq_nil_iff.mp hempty packet hbuilt

/-- Code whose writes carry nothing. -/
theorem contributes_nil {move : World → World → Prop} {task : ConnM Unit}
    (hcarried : ∀ writes : List (World × World), (∀ write ∈ writes, move write.1 write.2) →
      carried writes = []) (htask : task.MovesAlways move) : Contributes [] task := by
  intro state
  apply Async.LogsThrough.mono _ (htask.logsThrough _)
  · exact fun _ _ _ _ => trivial
  · intro more hmore
    have hnil : carried ([] ++ more) = [] := hcarried more hmore
    exact hnil ▸ List.prefix_rfl

/-- What is cut off so far, with what was there before, begins the data. -/
theorem writeLoop_through (data : Bytes) (rounds offset : Nat) (own : List (World × World))
    (state : World) : (UtpConn.writeLoop data rounds offset).LogsThrough
      (fun later => carried later <+: carried own ++ data.drop offset)
      (fun _ _ _ => True) own state := by
  induction rounds generalizing offset own state with
  | zero => exact ⟨List.prefix_append _ _, trivial⟩
  | succ rounds ih =>
      unfold UtpConn.writeLoop
      by_cases hoffset : offset < data.length
      · rw [if_pos hoffset]
        generalize hchunk : UtpConn.chunkAt data offset = chunk
        have hsplit : data.drop offset = chunk ++ data.drop (offset + chunk.length) := by
          rw [← hchunk, chunkAt_drop]
        have hsend : (UtpConn.sendUtpPacket (state.dataPacket chunk)).awaited.MovesAlways
            (Utters (state.dataPacket chunk)) :=
          (sendUtpPacket_uttering (spoken_data state chunk)).awaited
        -- Whatever else happens in the pause, the packets carry one chunk more.
        have hmore : ∀ more : List (World × World),
            (∀ write ∈ more, Utters (state.dataPacket chunk) write.1 write.2) →
            carried (own ++ [(state, state.consumeSeqNr (state.dataPacket chunk))] ++ more) =
              carried own ++ chunk := by
          intro more hmore
          rw [carried_append, carried_append, carried_data, carried_quiet hmore, List.append_nil]
        change Async.LogsThrough _ _
          (Async.bind (UtpConn.sendUtpPacket (state.dataPacket chunk)).awaited _)
          (own ++ [(state, state.consumeSeqNr (state.dataPacket chunk))])
          (state.consumeSeqNr (state.dataPacket chunk))
        apply Async.LogsThrough.bind
        apply Async.LogsThrough.mono _ (hsend.logsThrough _)
        · rintro later result final ⟨more, rfl, hwrites⟩
          cases result with
          | error error => trivial
          | ok n =>
              by_cases hlength : n = (state.dataPacket chunk).length
              · simp only [if_pos hlength]
                have hrest := ih (offset + chunk.length)
                  (own ++ [(state, state.consumeSeqNr (state.dataPacket chunk))] ++ more) final
                rw [hmore more hwrites, List.append_assoc, ← hsplit] at hrest
                exact hrest
              · simp only [if_neg hlength]
                refine ⟨?_, trivial⟩
                dsimp only
                rw [hmore more hwrites, hsplit, ← List.append_assoc]
                exact List.prefix_append _ _
        · intro more hwrites
          rw [hmore more hwrites, hsplit, ← List.append_assoc]
          exact List.prefix_append _ _
      · rw [if_neg hoffset]
        exact ⟨List.prefix_append _ _, trivial⟩

theorem write_contributes (data : Bytes) :
    Contributes data (Async.discard (UtpConn.write data)) := by
  intro state
  have hloop : (UtpConn.writeLoop data data.length 0).LogsThrough (fun own => carried own <+: data)
      (fun _ _ _ => True) [] state := writeLoop_through data data.length 0 [] state
  apply Async.LogsThrough.bind
  apply Async.LogsThrough.bind
  apply hloop.kept.mono
  rintro own (error | offset) later ⟨hown, -⟩
  · trivial
  · dsimp only
    split
    next => exact ⟨hown, hown, trivial⟩
    next => exact ⟨hown, trivial⟩

theorem spawns_contributes {admits : World → UtpPacket → Prop} {world : World} {label : Label}
    {task : ConnM Unit} (hspawns : Spawns admits world label task) (hlabel : label ≠ .write) :
    Contributes [] task := by
  have hwrites := spawns_writes hspawns
  rw [decide_eq_false hlabel] at hwrites
  exact contributes_nil (fun _ => carried_writes) hwrites

theorem connect_contributes : Contributes [] UtpConn.waitForConnecting :=
  contributes_nil (fun _ => @carried_writes false _) waitForConnecting_writes

/-! ## All calls -/

/-- What the packets carry that a call has built. -/
theorem carried_writesOf (trace : Trace World Label) (number : Nat) :
    carried (trace.writesOf number) = (authoredBy trace number).flatMap UtpPacket.payload := by
  rw [authoredBy_eq]
  rfl

section Run

variable {self : Nat} {utp : UtpSocket} {isInitiator : Bool} {remoteAddr : UtpAddr}
  {sendId recvId seqNr ackNr : Nat} {trace : Trace World Label}

/-- The first turn of `connectTo` is the first call's. -/
theorem connecting_authored : ∀ write ∈
    (connecting self utp isInitiator remoteAddr sendId recvId seqNr ackNr).writes,
      write.1 ≠ none := by
  intro write hwrite
  obtain ⟨own, -, rfl⟩ := List.mem_map.mp hwrite
  nofun

theorem carried_created (hseqNr : seqNr < 65536)
    (hrun : (connSystem anyLabel anyPacket).Traced
      (connecting self utp isInitiator remoteAddr sendId recvId seqNr ackNr) trace) :
    carried (trace.writes.map Prod.snd) =
      trace.config.state.conn.created.flatMap UtpPacket.payload := by
  rw [← authored_created hseqNr hrun, authored_packets, carried, List.flatMap_map]

theorem calls_contribute
    (hrun : (connSystem anyLabel anyPacket).Traced
      (connecting self utp isInitiator remoteAddr sendId recvId seqNr ackNr) trace)
    {number : Nat} {label : Label} {task : ConnM Unit}
    (hcall : trace.calls[number]? = some (label, task)) :
    (∃ data, label = .write ∧ task = Async.discard (UtpConn.write data)) ∨
      label ≠ .write ∧ Contributes [] task := by
  rcases hrun.spawned (List.mem_of_getElem? hcall) with hfirst | ⟨world, -, hspawns⟩
  · obtain ⟨rfl, rfl⟩ := Prod.mk.inj (List.mem_singleton.mp hfirst)
    exact .inr ⟨nofun, connect_contributes⟩
  · by_cases hlabel : label = .write
    · subst hlabel
      cases hspawns with
      | write data => exact .inl ⟨data, rfl, rfl⟩
    · exact .inr ⟨hlabel, spawns_contributes hspawns hlabel⟩

/-- In every run, however the calls overlap and whether or not they succeed: what a
connection's packets carry was put there by calls of `write`, and each of these calls has put a
beginning of its own data into its packets. -/
theorem write_portions (hseqNr : seqNr < 65536)
    (hrun : (connSystem anyLabel anyPacket).Traced
      (connecting self utp isInitiator remoteAddr sendId recvId seqNr ackNr) trace) :
    (authored trace).map Prod.snd = trace.config.state.conn.created ∧
    (∀ entry ∈ authored trace, entry.2.payload ≠ [] → ∃ number data, entry.1 = some number ∧
      trace.calls[number]? = some (.write, Async.discard (UtpConn.write data))) ∧
    ∀ number data, trace.calls[number]? = some (.write, Async.discard (UtpConn.write data)) →
      (authoredBy trace number).flatMap UtpPacket.payload <+: data := by
  have hfaithful := hrun.faithful ((Trace.start_faithful _).launch _ _)
  have hportion : ∀ {number label task data}, trace.calls[number]? = some (label, task) →
      Contributes data task → (authoredBy trace number).flatMap UtpPacket.payload <+: data := by
    intro number label task data hcall hcontributes
    obtain ⟨rest, hplayed, -⟩ := hfaithful.played number label task hcall
    rw [← carried_writesOf]
    exact hplayed.through hcontributes
  refine ⟨authored_created hseqNr hrun, ?_, fun number data hcall =>
    hportion hcall (write_contributes data)⟩
  rintro ⟨author, packet⟩ hentry hpayload
  obtain ⟨write, hwrite, hbuilt⟩ := List.mem_flatMap.mp hentry
  obtain ⟨built', hmem, hsame⟩ := List.mem_map.mp hbuilt
  obtain ⟨rfl, rfl⟩ := Prod.mk.inj hsame
  cases hauthor : write.1 with
  | none =>
      -- The environment builds nothing.
      have hconn : write.2.2.conn = write.2.1.conn :=
        World.Environment.conn (hrun.unauthored connecting_authored hwrite hauthor)
      rw [built, hconn, List.drop_length] at hmem
      cases hmem
  | some number =>
      have hknown := hfaithful.writes write hwrite number hauthor
      obtain ⟨⟨label, task⟩, hcall⟩ : ∃ call, trace.calls[number]? = some call :=
        ⟨_, List.getElem?_eq_getElem hknown⟩
      rcases calls_contribute hrun hcall with ⟨data, rfl, rfl⟩ | ⟨-, hnothing⟩
      · exact ⟨number, data, rfl, hcall⟩
      · have hnil := List.prefix_nil.mp (hportion hcall hnothing)
        have hown : built' ∈ authoredBy trace number := by
          apply List.mem_map.mpr
          exact ⟨(write.1, built'), List.mem_filter.mpr ⟨hentry, by simpa using hauthor⟩, rfl⟩
        exact absurd (List.flatMap_eq_nil_iff.mp hnil built' hown) hpayload

end Run

theorem write_portions_sample :
    twoWriters.calls[2]? = some (.write, Async.discard (UtpConn.write [65])) ∧
    (authoredBy twoWriters 2).flatMap UtpPacket.payload <+: [65] := by
  obtain ⟨-, -, hportion⟩ := write_portions (by decide) twoWriters_traced
  have hcall : twoWriters.calls[2]? = some (.write, Async.discard (UtpConn.write [65])) := by
    rw [twoWriters, Trace.resumes_calls]
    rfl
  exact ⟨hcall, hportion 2 [65] hcall⟩

/-! ## Calls one after the other -/

/-- All calls but the latest have all of their data in packets, and the latest has `left` to
go. `share` is what each call may put into packets. -/
structure InTurn (written : Bytes) (trace : Trace World Label) (share : Nat → Bytes)
    (latest : Nat) (left : Bytes) : Prop where
  faithful : trace.Faithful
  known : left = [] ∨ latest < trace.calls.length
  contributes : ∀ number label task, trace.calls[number]? = some (label, task) →
    Contributes (share number) task
  shares : ∀ number < trace.calls.length,
    carried (trace.writesOf number) ++ (if number = latest then left else []) = share number
  written : carried (trace.writes.map Prod.snd) ++ left = written

/-- What a call has put in, with what it puts in now, is no more than its share. -/
theorem left_of_prefix {before new left data : Bytes} (hall : before ++ left = data)
    (hkeep : before ++ new <+: data) : ∃ rest, left = new ++ rest := by
  rw [← hall, List.prefix_append_right_inj] at hkeep
  obtain ⟨rest, hrest⟩ := hkeep
  exact ⟨rest, hrest.symm⟩

namespace InTurn

variable {written : Bytes} {trace : Trace World Label} {share : Nat → Bytes} {latest : Nat}
  {left : Bytes}

/-- What has been put into packets is a beginning of what was written. -/
theorem cut (hturn : InTurn written trace share latest left) :
    carried (trace.writes.map Prod.snd) <+: written :=
  ⟨left, hturn.written⟩

theorem carried_record (trace : Trace World Label) (number : Nat) (task : ConnM Unit)
    (config : Config World (Label × Nat)) :
    carried ((trace.record number task config).writes.map Prod.snd) =
      carried (trace.writes.map Prod.snd) ++ carried (task.writes trace.config.state) := by
  have hown : ((task.writes trace.config.state).map fun write => (some number, write)).map
      Prod.snd = task.writes trace.config.state := by
    rw [List.map_map]
    exact List.map_id _
  simp only [Trace.record, List.map_append, hown, carried_append]

/-- Another turn of a call. -/
theorem resume (hturn : InTurn written trace share latest left) (position : Nat) :
    ∃ left, InTurn written (trace.resume position) share latest left := by
  have hfaithful := hturn.faithful.resume position
  rcases trace.resume_cases position with hsame | ⟨number, task, hsame⟩
  · rw [hsame]
    exact ⟨left, hturn⟩
  · rw [hsame] at hfaithful ⊢
    have hknown : number < trace.calls.length :=
      hfaithful.turns (number, trace.config.state) (List.mem_append_right _ List.mem_cons_self)
    obtain ⟨⟨label, first⟩, hcall⟩ : ∃ call, trace.calls[number]? = some call :=
      ⟨_, List.getElem?_eq_getElem hknown⟩
    obtain ⟨rest, hplayed, -⟩ := hfaithful.played number label first hcall
    have hkeep := hplayed.through (hturn.contributes number label first hcall)
    rw [Trace.writesOf_record, if_pos rfl, carried_append] at hkeep
    obtain ⟨remains, hremains⟩ := left_of_prefix (hturn.shares number hknown) hkeep
    by_cases hlatest : number = latest
    · rw [if_pos hlatest] at hremains
      refine ⟨remains, hfaithful, .inr (hlatest ▸ hknown), hturn.contributes, ?_, ?_⟩
      · intro other hother
        have hshare := hturn.shares other hother
        rw [Trace.writesOf_record]
        by_cases hsame : other = number
        · rw [if_pos hsame, if_pos (hsame.trans hlatest), carried_append, List.append_assoc,
            ← hremains]
          rwa [if_pos (hsame.trans hlatest)] at hshare
        · have hother' : other ≠ latest := fun h => hsame (h.trans hlatest.symm)
          rw [if_neg hsame, if_neg hother']
          rwa [if_neg hother'] at hshare
      · rw [carried_record, List.append_assoc, ← hremains]
        exact hturn.written
    · -- The earlier calls have nothing left.
      rw [if_neg hlatest] at hremains
      have hnothing := (List.append_eq_nil_iff.mp hremains.symm).1
      refine ⟨left, hfaithful, hturn.known, hturn.contributes, ?_, ?_⟩
      · intro other hother
        have hshare := hturn.shares other hother
        rw [Trace.writesOf_record]
        by_cases hsame : other = number
        · rw [if_pos hsame, carried_append, hnothing, List.append_nil]
          exact hshare
        · rw [if_neg hsame]
          exact hshare
      · rw [carried_record, hnothing, List.append_nil]
        exact hturn.written

/-- The environment contributes nothing. -/
theorem move (hturn : InTurn written trace share latest left) {state : World}
    (hconn : state.conn = trace.config.state.conn) :
    InTurn written (trace.move state) share latest left := by
  have hsilent : carried [(trace.config.state, state)] = [] := by
    apply carried_same
    intro write hwrite
    rw [List.mem_singleton.mp hwrite, hconn]
  refine ⟨hturn.faithful.move state, hturn.known, hturn.contributes, ?_, ?_⟩
  · intro number hnumber
    have hown : (trace.move state).writesOf number = trace.writesOf number := by
      simp [Trace.writesOf, Trace.move]
    rw [hown]
    exact hturn.shares number hnumber
  · have hwrites : (trace.move state).writes.map Prod.snd =
        trace.writes.map Prod.snd ++ [(trace.config.state, state)] := List.map_append
    rw [hwrites, carried_append, hsilent, List.append_nil]
    exact hturn.written

/-- The shares of the calls after one more has been made. -/
theorem shares_launch (hturn : InTurn written trace share latest left) {label : Label}
    {task : ConnM Unit} {data now : Bytes} {next : Nat}
    (hnew : carried (task.writes trace.config.state) ++
      (if trace.calls.length = next then now else []) = data)
    (hold : ∀ number < trace.calls.length, (if number = next then now else []) =
      if number = latest then left else []) :
    ∀ number < (trace.launch label task).calls.length,
      carried ((trace.launch label task).writesOf number) ++
        (if number = next then now else []) =
          Function.update share trace.calls.length data number := by
  have hfresh : trace.writesOf trace.calls.length = [] := by
    simp only [Trace.writesOf, List.map_eq_nil_iff, List.filter_eq_nil_iff, decide_eq_true_eq]
    intro write hwrite hnumber
    exact absurd (hturn.faithful.writes write hwrite _ hnumber) (Nat.lt_irrefl _)
  intro number hnumber
  change carried ((trace.record trace.calls.length task
    (trace.config.launch (label, trace.calls.length) task)).writesOf number) ++ _ = _
  rw [Trace.writesOf_record]
  by_cases hlast : number = trace.calls.length
  · rw [hlast, if_pos rfl, Function.update_self, hfresh, List.nil_append]
    exact hnew
  · have hbefore : number < trace.calls.length := by
      have hlength : (trace.launch label task).calls.length = trace.calls.length + 1 :=
        List.length_append
      omega
    rw [if_neg hlast, Function.update_of_ne hlast, hold number hbefore]
    exact hturn.shares number hbefore

/-- A new call, when nothing is left of the latest one or the new one contributes nothing. -/
theorem launch (hturn : InTurn written trace share latest left) (label : Label) {data : Bytes}
    {task : ConnM Unit} (hcontributes : Contributes data task) (hdone : left = [] ∨ data = []) :
    ∃ share latest left, InTurn (written ++ data) (trace.launch label task) share latest left := by
  have hfaithful := hturn.faithful.launch label task
  have hcalls : (trace.launch label task).calls = trace.calls ++ [(label, task)] := rfl
  have hlength : (trace.launch label task).calls.length = trace.calls.length + 1 :=
    List.length_append
  have hall : ∀ number label' task',
      (trace.launch label task).calls[number]? = some (label', task') →
        Contributes (Function.update share trace.calls.length data number) task' := by
    intro number label' task' hcall
    rw [hcalls, List.getElem?_append] at hcall
    by_cases hold : number < trace.calls.length
    · rw [if_pos hold] at hcall
      rw [Function.update_of_ne (Nat.ne_of_lt hold)]
      exact hturn.contributes number label' task' hcall
    · rw [if_neg hold, List.getElem?_singleton] at hcall
      split at hcall
      next hlast =>
        obtain ⟨rfl, rfl⟩ := Prod.mk.inj (Option.some.inj hcall)
        have hnumber : number = trace.calls.length := by omega
        rw [hnumber, Function.update_self]
        exact hcontributes
      next => cases hcall
  have hkeep : carried (task.writes trace.config.state) <+: data := by
    have hstart := @Async.Played.start _ _ task trace.config.state
    exact hstart.through hcontributes
  have hcarried : carried ((trace.launch label task).writes.map Prod.snd) =
      carried (trace.writes.map Prod.snd) ++ carried (task.writes trace.config.state) :=
    carried_record trace trace.calls.length task
      (trace.config.launch (label, trace.calls.length) task)
  by_cases hnothing : left = []
  · obtain ⟨now, hnow⟩ := hkeep
    refine ⟨_, trace.calls.length, now, hfaithful, .inr (by omega), hall, ?_, ?_⟩
    · apply hturn.shares_launch (by rw [if_pos rfl, hnow])
      intro number hnumber
      rw [if_neg (Nat.ne_of_lt hnumber), hnothing, ite_self]
    · have hwritten := hturn.written
      rw [hnothing, List.append_nil] at hwritten
      rw [hcarried, List.append_assoc, hnow, hwritten]
  · rw [hdone.resolve_left hnothing] at hkeep hall ⊢
    have hsilent := List.prefix_nil.mp hkeep
    have hknown := hturn.known.resolve_left hnothing
    refine ⟨_, latest, left, hfaithful, .inr (by omega), hall, ?_, ?_⟩
    · apply hturn.shares_launch _ (fun _ _ => rfl)
      rw [hsilent, if_neg (by omega)]
      rfl
    · rw [hcarried, hsilent, List.append_nil, List.append_nil]
      exact hturn.written

/-- A new connection has written nothing. -/
theorem start (self : Nat) (utp : UtpSocket) (isInitiator : Bool) (remoteAddr : UtpAddr)
    (sendId recvId seqNr ackNr : Nat) : ∃ share latest left,
      InTurn [] (connecting self utp isInitiator remoteAddr sendId recvId seqNr ackNr) share latest
        left := by
  have hempty : InTurn [] (Trace.start (create self utp isInitiator remoteAddr sendId recvId seqNr
      ackNr)) (fun _ => []) 0 [] := by
    refine ⟨Trace.start_faithful _, .inl rfl, ?_, ?_, rfl⟩
    · intro number label task hcall
      cases hcall
    · intro number hnumber
      cases hnumber
  exact hempty.launch .connect connect_contributes (.inl rfl)

end InTurn

end World

end Utp
