import Utp.Sender.Ending

/-! # After the end of the stream

What a `write` still does once its connection has built a FIN or has terminated: one that is
between two of its packets fails where it is refused, and sends on where it is not.
-/

namespace Utp

open Async (Config)

namespace World

/-- The connection has built its own FIN, or was reset or closed. -/
def Ended (world : World) : Prop := world.conn.localFinPacket.isSome = true ∨ world.Terminal

/-! ## What is sent -/

/-- A FIN is only built by a connection that is over. -/
theorem Act.fin_over {receiving closing writing : Bool} {world next : World}
    (hact : Act receiving closing writing world next)
    (hfin : world.conn.localFinPacket.isSome = true → world.Over) :
    next.conn.localFinPacket.isSome = true → next.Over := by
  have hkept := fun h => hact.over (hfin h)
  cases hact with
  | env henv =>
      rw [henv.conn]
      exact hkept
  | takeFin hstate =>
      intro _
      refine ⟨?_, ?_, ?_⟩
      all_goals
        show world.conn.localState ≠ _
        rw [hstate]
        exact nofun
  | _ => exact hkept

/-- No data was sent for the first time since there were `count` datagrams. -/
def NoNewData (count : Nat) (world : World) : Prop :=
  ∀ datagram ∈ world.utp.sent.drop count, datagram.packet.type = .ST_DATA →
    datagram.calledIn = none

theorem NoNewData.transmit {count : Nat} {world : World} (hnone : world.NoNewData count)
    {calledIn : Option UtpConnState} {packet : UtpPacket} {remoteAddr : UtpAddr}
    (hagain : packet.type = .ST_DATA → calledIn = none) :
    (world.transmit calledIn packet remoteAddr).NoNewData count := by
  intro datagram hdatagram htype
  simp only [World.transmit, List.drop_append] at hdatagram
  rcases List.mem_append.mp hdatagram with hold | hnew
  · exact hnone datagram hold htype
  · have hlast := List.mem_of_mem_drop hnew
    rw [List.mem_singleton] at hlast
    subst hlast
    exact hagain htype

theorem Act.noNewData {count : Nat} {receiving closing writing : Bool} {world next : World}
    (hact : Act receiving closing writing world next) (hnone : world.NoNewData count)
    (hwriting : writing = true → ¬ world.HandsOver next) : next.NoNewData count := by
  cases hact with
  | env henv =>
      unfold NoNewData
      rw [henv.sent]
      exact hnone
  | transmit calledIn packet remoteAddr _ hwrite =>
      refine hnone.transmit fun htype => ?_
      cases hcalled : calledIn with
      | none => rfl
      | some state =>
          exact absurd ⟨_, _, _, rfl⟩ (hwriting (hwrite htype (by rw [hcalled]; rfl)))
  | _ => exact hnone

/-- A connection that has built its FIN or has terminated is over. -/
theorem over_of_ended {self : Nat} {utp : UtpSocket} {isInitiator : Bool}
    {remoteAddr : UtpAddr} {sendId recvId seqNr ackNr : Nat} (hseqNr : seqNr < 65536)
    {config : Config World Label}
    (hconfig : (connSystem anyLabel anyPacket).Reachable
      (connectTo self utp isInitiator remoteAddr sendId recvId seqNr ackNr) config)
    (hended : config.state.Ended) : config.state.Over := by
  have hfin := guarded_keeps hseqNr .refl hconfig.guarded
    (fun world => world.conn.localFinPacket.isSome = true → world.Over)
    (fun _ _ _ _ h hact _ => Act.fin_over hact h)
    (fun _ _ h henv => Act.fin_over (.env henv : Act true true true _ _) h) ?_
  · exact hended.elim hfin Terminal.over
  · rw [connectTo_conn]
    cases isInitiator <;> exact nofun

/-- The first turn of a `write` sends new data exactly if it is not refused. -/
theorem write_noNewData_iff {data : Bytes} (hdata : data ≠ []) {world : World}
    (hover : world.Over) :
    ((Async.discard (UtpConn.write data)).turn world).1.NoNewData world.utp.sent.length ↔
      world.Refuses := by
  constructor
  · intro hnone
    by_contra hsends
    obtain ⟨datagram, hsent, htype, hcalled⟩ := sends_of_not_refused hdata hover hsends
    have hagain := hnone datagram (by rw [hsent, List.drop_left]; exact .head _) htype
    rw [hagain] at hcalled
    cases hcalled
  · intro hrefuses datagram hdatagram
    rw [sends_nothing_of_refused hdata hover hrefuses, List.drop_length] at hdatagram
    cases hdatagram

/-- Let a connection have built its FIN or have been reset or closed while no `write` had a
packet to hand over, and let every `write` that goes on be refused. Then no data packet is sent
for the first time, and each `write` in progress has sent all it had or can only fail. A new
one with something to send fails if it is refused, whatever happens then, and sends its data
if it is not. -/
theorem nothing_after_end {self : Nat} {utp : UtpSocket} {isInitiator : Bool}
    {remoteAddr : UtpAddr} {sendId recvId seqNr ackNr : Nat} (hseqNr : seqNr < 65536)
    {config later : Config World Label}
    (hconfig : (connSystem anyLabel anyPacket).Reachable
      (connectTo self utp isInitiator remoteAddr sendId recvId seqNr ackNr) config)
    (hended : config.state.Ended) (hbetween : BetweenPackets config.tasks)
    (hlater : (connSystem anyLabel anyPacket).Guarded writesRefused config later) :
    later.state.NoNewData config.state.utp.sent.length ∧
    (∀ entry ∈ later.tasks, entry.1 = .write → Fated Over entry.2) ∧
    ∀ data ≠ [],
      (later.state.Refuses → (Async.discard (UtpConn.write data)).Fails (fun _ => True)
        (fun _ _ => True) later.state) ∧
      (((Async.discard (UtpConn.write data)).turn later.state).1.NoNewData
        later.state.utp.sent.length ↔ later.state.Refuses) := by
  have hover := over_of_ended hseqNr hconfig hended
  have hbetweenOver := hbetween.between ongoing_over hconfig
  have hfirst : ∀ packet, (UtpConn.sendHandshake packet).MovesAlways (ExitsBy .connect) := by
    intro packet
    refine Async.MovesAlways.any.mono ?_
    rintro _ _ - ⟨⟩
  have hspawns : ∀ world label task, world.Over → Spawns anyPacket world label task →
      Onward Over (fun start target => writesWithheld label start target) task world :=
    fun _ _ _ => spawns_withheld ongoing_over
  have hkept : ∀ middle, (connSystem anyLabel anyPacket).Guarded writesRefused config middle →
      middle.state.Over ∧ middle.state.NoNewData config.state.utp.sent.length := by
    intro middle hmiddle
    refine onward_keeps hseqNr hfirst (fun _ _ _ hspawn => spawns_also hspawn) hspawns
      (fun _ _ _ h hact _ => Act.over hact h) (fun _ _ hconn h => h.of_state (by rw [hconn]))
      hconfig hover
      (fun entry hentry world => Between.onward (hbetweenOver entry hentry) world) hmiddle _
        ?_ ?_ ?_
    · intro _ label start target _ hnone hact _ hheld hallowed
      refine Act.noNewData hact hnone fun hwriting => ?_
      have hlabel := of_decide_eq_true hwriting
      exact (hheld hlabel).2 (hallowed hlabel)
    · intro start target hnone henv
      have hact : Act true true false start target := .env henv
      exact hact.noNewData hnone nofun
    · intro datagram hdatagram
      rw [List.drop_length] at hdatagram
      cases hdatagram
  refine ⟨(hkept later hlater).2, ?_, fun data hdata => ⟨write_refused hdata (hkept later hlater).1,
    write_noNewData_iff hdata (hkept later hlater).1⟩⟩
  refine Async.TaskSystem.Guarded.fates ?_ ?_ (fun middle hmiddle => (hkept middle hmiddle).1)
    (fun entry hentry hlabel => (hbetweenOver entry hentry hlabel).fated) hlater
  · rintro others state task hstays ⟨-, hspawned⟩ hallowed entry hentry
    cases hspawned with
    | write data =>
        refine fated_suspended ?_ (fun write hwrite => hallowed write hwrite rfl) hentry
        exact (write_fated ongoing_over data).imp (fun hidle => hidle state) fun h => h state hstays
  · intro others state ready task hstays hfated hready hallowed entry hentry
    refine fated_suspended ?_ (fun write hwrite => hallowed write hwrite rfl) hentry
    exact hfated.imp (fun hidle => hidle state state trivial hready)
      fun h => h state hstays state hstays hready

/-! ## Concrete runs -/

/-- One packet is in flight when the connection is closed. -/
def closing : Config World Label := wroteByte.launch .close UtpConn.close

/-- The peer acknowledges the packet and the FIN. -/
def finAcked : Config World Label :=
  ((closing.resumes [0, 0, 0, 0, 0, 0]).launch .receive (handling
    { type := .ST_STATE, connId := 1, seqNr := 100, ackNr := 3 })).resumes [0, 0, 0, 0]

/-- The interval of `close` finds the window empty. -/
def closedWell : Config World Label := finAcked.launch .closePoll UtpConn.closePoll

example : closedWell.state.conn.localState = .CS_CLOSED := by decide +kernel

theorem closing_reachable : (connSystem anyLabel anyPacket).Reachable
    (connectTo 0 .sample true (.localhost 9000) 2 1 1 0) closing :=
  wroteByte_reachable.step (.launch ⟨trivial, .close⟩ nofun)

theorem closing_tasks : ∀ entry ∈ closing.tasks, entry.1 = .close := by
  intro entry hentry
  rcases List.mem_append.mp hentry with hold | hnew
  · have hidle : wroteByte.tasks = [] := List.length_eq_zero_iff.mp (by decide +kernel)
    rw [hidle] at hold
    cases hold
  · exact Config.label_of_suspended hnew

/-- No `write` goes on until the connection is closed. -/
theorem closedWell_guarded :
    (connSystem anyLabel anyPacket).Guarded writesRefused closing closedWell := by
  have hspared : ∀ others label start target, label ≠ Label.write →
      writesRefused others label start target := fun _ _ _ _ hlabel hwrite => absurd hwrite hlabel
  have hclosing : (connSystem anyLabel anyPacket).Guarded writesRefused closing
      (closing.resumes [0, 0, 0, 0, 0, 0]) := by
    refine .resumes_of_label hspared (fun entry hentry => ?_) _
    rw [closing_tasks entry hentry]
    exact nofun
  have hidle : (closing.resumes [0, 0, 0, 0, 0, 0]).tasks = [] :=
    List.length_eq_zero_iff.mp (by decide +kernel)
  have hheard := hclosing.tail (.launch ⟨trivial, .receive
    { type := .ST_STATE, connId := 1, seqNr := 100, ackNr := 3 } trivial⟩
    (fun _ other hother => by rw [hidle] at hother; cases hother) fun _ _ => nofun)
  have hacked : (connSystem anyLabel anyPacket).Guarded writesRefused closing finAcked := by
    refine hheard.trans (Async.TaskSystem.Guarded.resumes_of_label hspared
      (fun entry hentry => ?_) [0, 0, 0, 0])
    rcases List.mem_append.mp hentry with hold | hnew
    · rw [hidle] at hold
      cases hold
    · rw [Config.label_of_suspended hnew]
      exact nofun
  exact hacked.tail (.launch ⟨trivial, .closePoll (by decide +kernel)⟩ nofun fun _ _ => nofun)

/-- A `write` then is refused: it is suspended once, and fails. -/
theorem nothing_after_end_sample :
    closing.state.conn.localFinPacket.isSome = true ∧ closing.state.utp.sent.length = 3 ∧
    (writing closedWell 66).state.NoNewData closing.state.utp.sent.length ∧
    ∀ entry ∈ (writing closedWell 66).tasks, entry.1 = .write → Fated Over entry.2 := by
  have hbuilt : closing.state.conn.localFinPacket.isSome = true := by decide +kernel
  have hsent : closing.state.utp.sent.length = 3 := by decide +kernel
  have hrefused : ((Async.discard (UtpConn.write [66])).writes closedWell.state).all
      (fun write => decide write.1.Refuses) = true := by decide +kernel
  have hresolved : closedWell.state.conn.connecting = .resolved := by decide +kernel
  have hrun := closedWell_guarded.tail (.launch ⟨trivial, .write [66] hresolved⟩ nofun
    fun write hwrite _ => of_decide_eq_true (List.all_eq_true.mp hrefused write hwrite))
  have hbetween : BetweenPackets closing.tasks := by
    intro entry hentry hlabel
    rw [closing_tasks entry hentry] at hlabel
    cases hlabel
  obtain ⟨hnone, hfated, -⟩ :=
    nothing_after_end (by decide) closing_reachable (.inl hbuilt) hbetween hrun
  exact ⟨hbuilt, hsent, hnone, hfated⟩

/-- A `write` after `close` sends its data behind the FIN. -/
theorem data_after_fin :
    ¬ ∀ config later fin, (connSystem anyLabel anyPacket).Reachable
        (connectTo 0 .sample true (.localhost 9000) 2 1 1 0) config →
      config.state.conn.localFinPacket = some fin →
      (connSystem anyLabel anyPacket).Reachable config later →
      ∀ datagram ∈ later.state.utp.sent.drop config.state.utp.sent.length,
        datagram.packet.type = .ST_DATA → datagram.calledIn.isSome = true →
          Seq.gt datagram.packet.seqNr fin.seqNr = false := by
  intro hclaim
  let closing := (established 0 .sample (.localhost 9000) 1 100).launch .close UtpConn.close
  have hclosing : (connSystem anyLabel anyPacket).Reachable
      (connectTo 0 .sample true (.localhost 9000) 2 1 1 0) closing :=
    sample_established.step (.launch ⟨trivial, .close⟩ nofun)
  have hbuilt : closing.state.conn.localFinPacket.isSome = true := by decide +kernel
  obtain ⟨fin, hfin⟩ := Option.isSome_iff_exists.mp hbuilt
  have hlater : (connSystem anyLabel anyPacket).Reachable closing (writing closing 65) :=
    .step .refl (.launch ⟨trivial, .write [65] (by decide +kernel)⟩ nofun)
  have hsent : (((writing closing 65).state.utp.sent.drop closing.state.utp.sent.length).any
      fun datagram => decide (datagram.packet.type = .ST_DATA) && datagram.calledIn.isSome &&
        closing.state.conn.localFinPacket.any fun fin =>
          Seq.gt datagram.packet.seqNr fin.seqNr) = true := by decide +kernel
  obtain ⟨datagram, hdatagram, hafter⟩ := List.any_eq_true.mp hsent
  rw [hfin] at hafter
  simp only [Bool.and_eq_true, decide_eq_true_eq, Option.any_some] at hafter
  have hbefore := hclaim closing _ fin hclosing hfin hlater datagram hdatagram hafter.1.1
    hafter.1.2
  rw [hafter.2] at hbefore
  cases hbefore

end World

end Utp
