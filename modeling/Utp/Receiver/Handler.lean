import Utp.Conn.Exits
import Utp.Receiver.Stream

/-! # The packet handler among the other tasks

The contract of `handleIncomingPacket`, and the proof outline in which all other
tasks of the connection leave the receiving side alone.
-/

namespace Utp

open Async (Chain Contract Outline)

namespace World

variable {closing clearing : Bool} {contract : Contract World}

/-! ## The contract of the handler -/

/-- What the handler has to know of its invariant in the state it finds. -/
structure Handles (closing clearing : Bool) (contract : Contract World) (world : World)
    (packet : UtpPacket) : Prop where
  synSent : packet.type = .ST_STATE → world.conn.localState = .CS_SYN_SENT →
    contract.inv (world.acceptHandshake (Seq.add packet.seqNr (-1))) ∧
      (world.acceptHandshake (Seq.add packet.seqNr (-1))).Settled
  synRecv : packet.type = .ST_DATA → world.conn.localState = .CS_SYN_RECV →
    packet.ackNr = Seq.add world.conn.localSeqNr (-1) →
      contract.inv ((world.acceptFirstData packet.seqNr).append packet.payload) ∧
        ((world.acceptFirstData packet.seqNr).append packet.payload).Settled
  takes : world.conn.localState = .CS_CONNECTED → packet.isReliable = true →
    world.conn.isRefused packet = false → Takes closing clearing contract world packet

theorem Started.aside {world next : World} (hstarted : world.Started)
    (haside : Aside closing world next) : next.Started := by
  rcases haside.state with hsame | hgone
  · rw [Started, hsame]
    exact hstarted
  · exact hgone.1

/-- A live packet may be taken: the pass keeps to the stream. -/
theorem Good.takes {stream : Stream} {world : World} {packet : UtpPacket}
    (hgood : world.Good stream) (hstate : world.conn.localState = .CS_CONNECTED)
    (hpacket : ∃ i, stream.live world.conn.advanced i ∧ packet.payload = stream.payload i ∧
      packet.seqNr = stream.number i)
    (hinv : ∀ next : World, next.Started → next.Phase stream →
      (clearing = false → next.Level stream) → contract.inv next) :
    Takes closing clearing contract world packet := by
  have hpass : ∀ later done next, Aside closing world later →
      done <+: (later.enqueue packet).conn.recvPacketQueue.keys →
      Passed closing (later.enqueue packet) done next →
      (clearing = false → WritesAll (later.enqueue packet) done next) →
      next.Started ∧ next.Phase stream ∧ (clearing = false → next.Level stream) := by
    intro later done next haside hdone hpassed hcomplete
    have hlater : later.Started := Started.aside (by simp [Started, hstate]) haside
    have hbefore : (later.enqueue packet).Good stream := by
      refine (hgood.aside haside).enqueue hlater.2 ?_
      rw [haside.advanced]
      exact hpacket
    refine ⟨?_, hbefore.passed hdone hpassed, fun hspare =>
      hbefore.passed_level hdone hpassed (hcomplete hspare)⟩
    rcases hpassed.state with hsame | hgone
    · rw [Started, hsame]
      exact hlater
    · exact hgone.1
  refine ⟨hgood.localAckNr_lt, fun later done next haside hdone hpassed hcomplete => ?_,
    fun _ later next haside hpassed hcomplete => ?_⟩
  · obtain ⟨hstarted, hphase, hlevel⟩ := hpass later done next haside hdone hpassed hcomplete
    exact hinv next hstarted hphase hlevel
  · obtain ⟨-, hphase, hlevel⟩ := hpass later _ next haside List.prefix_rfl hpassed hcomplete
    exact hinv _ (gone_acceptFin next packet).1 (hphase.acceptFin packet)
      fun hspare => (hlevel hspare).acceptFin packet

variable {rest : World → Prop}

/-- The same for what a pass establishes. -/
structure HandlesTo (closing clearing : Bool) (contract : Contract World) (rest : World → Prop)
    (world : World) (packet : UtpPacket) : Prop where
  synSent : packet.type = .ST_STATE → world.conn.localState = .CS_SYN_SENT →
    contract.inv (world.acceptHandshake (Seq.add packet.seqNr (-1))) ∧
      rest (world.acceptHandshake (Seq.add packet.seqNr (-1)))
  synRecv : packet.type = .ST_DATA → world.conn.localState = .CS_SYN_RECV →
    packet.ackNr = Seq.add world.conn.localSeqNr (-1) →
      contract.inv ((world.acceptFirstData packet.seqNr).append packet.payload) ∧
        rest ((world.acceptFirstData packet.seqNr).append packet.payload)
  idle : world.conn.localState = .CS_CONNECTED →
    world.conn.recvPacketQueue.capacity ≤ world.conn.recvPacketQueue.size →
      Seq.add world.conn.localAckNr 1 ∉ world.conn.recvPacketQueue.keys
  takes : world.conn.localState = .CS_CONNECTED → packet.isReliable = true →
    world.conn.isRefused packet = false →
      Takes closing clearing contract world packet ∧ PassesTo closing rest world packet

theorem Handles.settled {world : World} {packet : UtpPacket}
    (hhandles : Handles closing clearing contract world packet) (hsettled : world.Settled) :
    HandlesTo closing clearing contract Settled world packet where
  synSent := hhandles.synSent
  synRecv := hhandles.synRecv
  idle _ := hsettled.idle
  takes hstate hreliable hrefused :=
    have htakes := hhandles.takes hstate hreliable hrefused
    ⟨htakes, passesTo_settled htakes.ackNr⟩

theorem handleAtSynReceived_rests (htolerant : Tolerant closing clearing contract)
    (hresting : Resting closing rest) {packet : UtpPacket} {start world : World}
    (hworld : contract.inv world) (hrest : rest world)
    (haccepted : packet.type = .ST_DATA → packet.ackNr = Seq.add world.conn.localSeqNr (-1) →
      contract.inv ((world.acceptFirstData packet.seqNr).append packet.payload) ∧
        rest ((world.acceptFirstData packet.seqNr).append packet.payload)) :
    (UtpConn.handleAtSynReceived packet).Meets contract (fun _ _ next =>
      contract.inv next ∧ rest next) start world := by
  have hanswer : ∀ {start next : World}, contract.inv next → rest next →
      ((Async.get : ConnM World).bind fun world =>
        (Async.discard (Async.awaited (UtpConn.sendUtpPacket world.ackPacket))).bind fun _ =>
          Async.pure true).Meets contract (fun _ _ next => contract.inv next ∧ rest next)
        start next := by
    intro start next hnext hrest
    refine Async.meets_bind.mpr (Async.meets_get.mpr (Async.meets_bind.mpr
      ((htolerant.meets (send_aside next.ackPacket) hnext).mono ?_)))
    rintro (error | _) _ later ⟨hlater, haside⟩ <;>
      exact ⟨hlater, hresting.aside _ _ hrest haside.toAside⟩
  simp only [UtpConn.handleAtSynReceived, Async.bind_eq, Async.meets_bind, Async.meets_get]
  split
  next => exact ⟨hworld, hrest⟩
  next htype =>
    split
    next => exact ⟨hworld, hrest⟩
    next hack =>
      rw [ne_eq, not_not] at htype hack
      obtain ⟨hinv, hrest'⟩ := haccepted htype hack
      refine Async.meets_bind.mpr (Async.meets_modify.mpr ?_)
      simp only
      cases hdata : packet.data with
      | none =>
        have hpayload : packet.payload = [] := by simp [UtpPacket.payload, hdata]
        rw [hpayload, append_nil] at hinv hrest'
        exact hanswer hinv hrest'
      | some data =>
        have hpayload : packet.payload = data := by simp [UtpPacket.payload, htype, hdata]
        rw [hpayload] at hinv hrest'
        refine Async.meets_bind.mpr ((writeRecvBuffer_meets htolerant hinv).mono ?_)
        rintro (error | _) _ later ⟨hlater, haside⟩
        · exact ⟨hlater, hresting.aside _ _ hrest' haside.toAside⟩
        · exact hanswer hlater (hresting.aside _ _ hrest' haside.toAside)

theorem handleInState_rests (htolerant : Tolerant closing clearing contract)
    (hresting : Resting closing rest) {packet : UtpPacket} {start world : World}
    (hworld : contract.inv world) (hrest : rest world)
    (hhandles : HandlesTo closing clearing contract rest world packet) :
    (UtpConn.handleInState packet world.conn.localState).Meets contract (fun _ _ next =>
      contract.inv next ∧ rest next) start world := by
  have hawaited : ∀ {task : ConnM Bool}, task.Meets contract (fun _ _ next =>
      contract.inv next ∧ rest next) start world →
      (Async.awaited task).Meets contract (fun _ _ next => contract.inv next ∧ rest next)
        start world := fun htask => htolerant.awaited (htask.mono fun _ _ _ h =>
          ⟨h.1, fun _ hlater haside => ⟨hlater, hresting.aside _ _ h.2 haside.toAside⟩⟩)
  cases hstate : world.conn.localState with
  | CS_SYN_SENT =>
      refine hawaited ?_
      unfold UtpConn.handleAtSynSent
      split
      next => exact ⟨hworld, hrest⟩
      next htype => exact hhandles.synSent (not_not.mp htype) hstate
  | CS_SYN_RECV =>
      exact hawaited (handleAtSynReceived_rests htolerant hresting hworld hrest fun htype =>
        hhandles.synRecv htype hstate)
  | CS_CONNECTED =>
      exact hawaited (handleAtConnected_rests htolerant hresting hworld hrest
        (hhandles.idle hstate) (hhandles.takes hstate))
  | CS_CLOSE_WAIT =>
      simp only [UtpConn.handleInState]
      split
      next =>
        refine Async.meets_bind.mpr ((htolerant.meets (handleAck_aside packet) hworld).mono ?_)
        rintro (error | _) _ later ⟨hlater, haside⟩ <;>
          exact ⟨hlater, hresting.aside _ _ hrest haside.toAside⟩
      next => exact ⟨hworld, hrest⟩
  | CS_CLOSED => exact ⟨hworld, hrest⟩
  | CS_RESET => exact ⟨hworld, hrest⟩

/-- Only an acknowledgement is awaited before the handler looks at the state. -/
theorem handleIncomingPacket_rests (htolerant : Tolerant closing clearing contract)
    (hresting : Resting closing rest) {packet : UtpPacket} {start world : World}
    (hworld : contract.inv world) (hrest : rest world)
    (hhandles : ∀ later, contract.inv later → rest later → Aside closing world later →
      (packet.type ≠ .ST_STATE → later = world) → HandlesTo closing clearing contract rest later
        packet) :
    (UtpConn.handleIncomingPacket packet).Meets contract (fun _ _ next =>
      contract.inv next ∧ rest next) start world := by
  have hhandle : ∀ {start later : World}, contract.inv later → rest later →
      HandlesTo closing clearing contract rest later packet →
      ((Async.get : ConnM World).bind fun world =>
        (UtpConn.handleInState packet world.conn.localState).bind fun handled =>
          if handled = true then (Async.modify World.noteHandled).bind fun _ => Async.pure handled
          else Async.pure handled).Meets contract (fun _ _ next =>
            contract.inv next ∧ rest next) start later := by
    intro start later hlater hrest hhandles
    refine Async.meets_bind.mpr (Async.meets_get.mpr (Async.meets_bind.mpr
      ((handleInState_rests htolerant hresting hlater hrest hhandles).mono ?_)))
    rintro (error | handled) _ next ⟨hnext, hafter⟩
    · exact ⟨hnext, hafter⟩
    · have hnoted : Aside closing next next.noteHandled := .of_same rfl rfl rfl rfl rfl rfl
      simp only
      split
      next => exact ⟨htolerant.inv _ _ hnext hnoted, hresting.aside _ _ hafter hnoted⟩
      next => exact ⟨hnext, hafter⟩
  simp only [UtpConn.handleIncomingPacket, Async.bind_eq]
  split
  next htype =>
    refine Async.meets_bind.mpr ((htolerant.meets (handleAck_aside packet) hworld).mono ?_)
    rintro (error | _) _ later ⟨hlater, haside⟩
    · exact ⟨hlater, hresting.aside _ _ hrest haside.toAside⟩
    · have hafter := hresting.aside _ _ hrest haside.toAside
      exact hhandle hlater hafter (hhandles later hlater hafter haside.toAside fun h =>
        absurd htype h)
  next => exact hhandle hworld hrest (hhandles world hworld hrest (.refl world) fun _ => rfl)

/-- What every pass leaves behind is always there between packets. -/
theorem handleIncomingPacket_meets (htolerant : Tolerant closing clearing contract)
    {packet : UtpPacket}
    {start world : World} (hworld : contract.inv world) (hsettled : world.Settled)
    (hhandles : ∀ later, contract.inv later → Aside closing world later →
      (packet.type ≠ .ST_STATE → later = world) → Handles closing clearing contract later packet) :
    (UtpConn.handleIncomingPacket packet).Meets contract (fun _ _ next =>
      contract.inv next ∧ next.Settled) start world :=
  handleIncomingPacket_rests htolerant resting_settled hworld hsettled
    fun later hlater hrest haside hsame => (hhandles later hlater haside hsame).settled hrest

/-- Behind the handshake only the connected state takes packets. -/
theorem Started.handles {world : World} {packet : UtpPacket} (hstarted : world.Started)
    (htakes : world.conn.localState = .CS_CONNECTED → packet.isReliable = true →
      world.conn.isRefused packet = false → Takes closing clearing contract world packet) :
    Handles closing clearing contract world packet :=
  ⟨fun _ hstate => absurd hstate hstarted.1, fun _ hstate => absurd hstate hstarted.2, htakes⟩

/-! ## The outline -/

/-- The handler is the only task that touches the receiving side; all tasks act. -/
def outline (closing clearing : Bool) (first : Nat) (inv : World → Prop) : Outline World Label where
  inv world := world.Tracked first ∧ inv world
  rely label world next := (label = .receive → Among closing clearing world next) ∧
    Chain (Act true closing true) world next
  guar label world next := (label ≠ .receive → Among closing clearing world next) ∧
    Chain (Act true closing true) world next
  rest label world := label = .receive → world.Settled

/-- The same outline with another condition between packets. -/
def outlineTo (closing clearing : Bool) (first : Nat) (inv rest : World → Prop) :
    Outline World Label :=
  { outline closing clearing first inv with
    rest := fun label world => label = .receive → rest world }

variable {first : Nat} {inv : World → Prop} {labels : Label → Prop}
  {admits : World → UtpPacket → Prop}

/-- The contract under which the handler itself is verified. -/
def quietly (closing clearing : Bool) (inv : World → Prop) : Contract World where
  inv := inv
  rely := Among closing clearing
  guar _ _ := True

theorem tolerant_quietly (hinv : ∀ world next, inv world → Aside closing world next → inv next) :
    Tolerant closing clearing (quietly closing clearing inv) :=
  ⟨hinv, fun _ _ => id, fun _ _ => trivial⟩

/-- The handler meets its part of the outline if it keeps the invariant. -/
theorem receive_meets {world : World} {packet : UtpPacket} (htracked : world.Tracked first)
    (hmeets : (UtpConn.handleIncomingPacket packet).Meets (quietly closing clearing inv)
      (fun _ _ next => inv next ∧ rest next) world world) :
    (Async.discard (UtpConn.handleIncomingPacket packet)).Meets
      ((outlineTo closing clearing first inv rest).contract .receive)
      ((outlineTo closing clearing first inv rest).post .receive) world world := by
  have hboth : (UtpConn.handleIncomingPacket packet).Meets
      ((outlineTo closing clearing first inv rest).contract .receive) (fun _ start next =>
        (inv next ∧ rest next) ∧
          (outlineTo closing clearing first inv rest).guar .receive start next ∧
            next.Tracked first) world world :=
    Async.Meets.and_moves ((outlineTo closing clearing first inv rest).contract .receive)
      (Tracked first) (fun _ => ⟨fun h => ⟨h.2, h.1⟩, fun h => ⟨h.2, h.1⟩⟩)
      (fun _ _ h => ⟨h.1 rfl, h.2⟩)
      (fun _ _ _ h hmove => ⟨fun hne => absurd rfl hne, h.2.tail hmove⟩)
      (fun _ => ⟨fun hne => absurd rfl hne, .refl⟩) (fun _ _ h hmove => hmove.tracked h) hmeets
      (moves_among (handleIncomingPacket_acts packet world htracked))
      ⟨fun hne => absurd rfl hne, .refl⟩ htracked
  refine Async.meets_bind.mpr (hboth.mono ?_)
  rintro (error | handled) start next ⟨⟨hnext, hrest⟩, hguar, htracked⟩
  · exact ⟨⟨htracked, hnext⟩, hguar, fun _ => hrest⟩
  · exact ⟨⟨htracked, hnext⟩, hguar, fun _ => hrest⟩

/-- What the other tasks do. -/
def Elsewhere (closing clearing : Bool) (world next : World) : Prop :=
  Act false closing true world next ∧ Among closing clearing world next

/-- The other tasks keep to the outline by what they do. -/
theorem other_meets
    (hothers : ∀ world next, inv world → Act false closing true world next → inv next)
    {world : World} {label : Label} {task : ConnM Unit} (hlabel : label ≠ .receive)
    (hworld : world.Tracked first ∧ inv world)
    (hmoves : task.Moves (Chain (Act true closing true)) (Elsewhere closing clearing)
      (fun _ _ => True) world) :
    task.Meets ((outlineTo closing clearing first inv rest).contract label)
      ((outlineTo closing clearing first inv rest).post label) world world := by
  refine (Async.Moves.meets ((outlineTo closing clearing first inv rest).contract label)
    (fun _ => True)
    (fun _ _ h hact => ⟨hact.1.tracked h.1, hothers _ _ h.2 hact.1⟩)
    (fun _ _ _ h hact => ⟨fun hne => (h.1 hne).trans hact.2, h.2.tail (hact.1.widen id)⟩)
    (fun _ => ⟨fun _ => .refl _, .refl⟩) (fun _ _ h => h.2)
    ⟨fun _ _ _ _ => trivial, fun _ _ _ _ => trivial⟩ hmoves hworld
    ⟨fun _ => .refl _, .refl⟩ trivial).mono ?_
  exact fun _ _ _ h => ⟨h.1, h.2.1, fun heq => absurd heq hlabel⟩

/-- Acts that neither handle packets nor end the connection leave the queue alone. -/
theorem Act.elsewhere {writing : Bool} {world next : World}
    (hact : Act false false writing world next) : Elsewhere closing clearing world next :=
  have hwider : Act false closing true world next := hact.weaken id
    (fun h : false = true => absurd h Bool.false_ne_true) fun _ => rfl
  ⟨hwider, hwider.aside.among hact.queue⟩

/-- So do the other tasks, where a reset counts as `clearing`. -/
theorem spawns_elsewhere {world : World} {label : Label} {task : ConnM Unit}
    (htracked : world.Tracked first) (hspawns : Spawns admits world label task)
    (hreceive : label ≠ .receive) (hclosing : label.isClosing = true → closing = true)
    (hreset : clearing = false → label ≠ .reset) :
    task.Moves (Chain (Act true closing true)) (Elsewhere closing clearing) (fun _ _ => True)
      world := by
  have hacts : task.Moves (Chain (Act true closing true)) label.Acts (fun _ _ => True) world :=
    spawns_acts htracked hspawns decide_eq_true id decide_eq_true
  refine (hacts.and (spawns_also hspawns world)).mono (fun _ _ => id) ?_ fun _ _ => id
  rintro start target ⟨hact, hends⟩
  have hwider : Act false closing true start target :=
    hact.weaken (fun h => absurd (of_decide_eq_true h) hreceive) hclosing fun _ => rfl
  cases clearing with
  | true => exact ⟨hwider, hwider.aside.anyhow⟩
  | false => exact ⟨hwider, hwider.aside.among (acts_queue hact hends hreceive (hreset rfl))⟩

/-- A reset may come where a pass has nothing more to take. -/
theorem reset_elsewhere {world : World} (htracked : world.Tracked first) (hrested : world.Rested)
    (hclosing : closing = true) :
    UtpConn.reset.Moves (Chain (Act true closing true)) (Elsewhere closing clearing)
      (fun _ _ => True) world := by
  subst hclosing
  have hacts : UtpConn.reset.Moves (Chain (Act true true true)) (Act false true true)
      (fun _ _ => True) world := reset_acts world htracked
  have hact : Act false true true world world.resetNow := .resetNow rfl
  have hsend : (Async.read fun next : World => Async.detached (UtpConn.sendUtpPacket
      (.createResetPacket next.conn next.utp.currentMicroseconds))).MovesAlways
        (Among true clearing) := .reads fun _ => (sendUtpPacket_aside _).detached
  exact hacts.and ⟨⟨hact.aside, fun _ => .inr hrested⟩, hsend _⟩

theorem outlineTo_sound (hresting : Resting closing rest)
    (hclosing : ∀ label, labels label → label.isClosing = true → closing = true)
    (hclearing : clearing = false → ¬ labels .reset)
    (hothers : ∀ world next, inv world → Act false closing true world next → inv next)
    (hreceive : ∀ world packet, world.Tracked first → inv world → rest world →
      admits world packet →
      (Async.discard (UtpConn.handleIncomingPacket packet)).Meets
        ((outlineTo closing clearing first inv rest).contract .receive)
        ((outlineTo closing clearing first inv rest).post .receive) world world) :
    (outlineTo closing clearing first inv rest).Sound (connSystem labels admits) where
  refl _ world := ⟨fun _ => .refl world, .refl⟩
  trans _ _ _ _ hfirst hsecond :=
    ⟨fun h => (hfirst.1 h).trans (hsecond.1 h), hfirst.2.trans hsecond.2⟩
  compatible mover waiter _ _ hdiffer _ _ hguar := by
    refine ⟨fun hwaiter => hguar.1 fun hmover => ?_, hguar.2⟩
    exact hdiffer (hmover.trans hwaiter.symm) hmover
  rest mover label _ _ hdiffer _ _ hguar hrest hlabel :=
    hresting.aside _ _ (hrest hlabel)
      (hguar.1 fun hmover => hdiffer (hmover.trans hlabel.symm)).toAside
  idle label _ hexclusive hlabel := absurd hlabel hexclusive
  env start state hstart henv := by
    have hact : Act false closing true start state := .env henv
    exact ⟨⟨hact.tracked hstart.1, hothers _ _ hstart.2 hact⟩,
      fun _ => ⟨fun _ => .of_conn henv.conn, .single (hact.widen id)⟩,
      fun _ hrest hlabel => hresting.aside _ _ (hrest hlabel) hact.aside⟩
  spawn world label task hworld hrest hspawn := by
    by_cases hlabel : label = .receive
    · subst hlabel
      obtain ⟨-, hspawns⟩ := hspawn
      cases hspawns with
      | receive packet hadmits =>
          exact hreceive world packet hworld.1 hworld.2 (hrest rfl) hadmits
    · exact other_meets hothers hlabel hworld (spawns_elsewhere hworld.1 hspawn.2 hlabel
        (hclosing label hspawn.1) fun hspare heq => hclearing hspare (heq ▸ hspawn.1))

/-- A connection starts in the outline if it is begun in it. -/
theorem connectTo_holds {self : Nat} {utp : UtpSocket} {isInitiator : Bool} {remoteAddr : UtpAddr}
    {sendId recvId seqNr ackNr : Nat} (hseqNr : seqNr < 65536)
    (hsound : (outlineTo closing clearing (firstSeqNr isInitiator seqNr) inv rest).Sound
      (connSystem labels admits))
    (hothers : ∀ world next, inv world → Act false closing true world next → inv next)
    (hinv : inv (begun self utp isInitiator remoteAddr sendId recvId seqNr ackNr))
    (hrest : rest (begun self utp isInitiator remoteAddr sendId recvId seqNr ackNr)) :
    (outlineTo closing clearing (firstSeqNr isInitiator seqNr) inv rest).Holds
      (connSystem labels admits)
      (connectTo self utp isInitiator remoteAddr sendId recvId seqNr ackNr) := by
  have hcreated := create_tracked self utp isInitiator remoteAddr sendId recvId seqNr ackNr hseqNr
  have hstart : ∀ {first : Nat} {world : World}, world.Tracked first → inv world → rest world →
      (outlineTo closing clearing first inv rest).Holds (connSystem labels admits) ⟨world, []⟩ :=
    fun htracked hworld hidle => .start ⟨htracked, hworld⟩ fun _ _ => hidle
  have hquiet : ∀ {world : World} {task : ConnM Unit},
      task.Moves (Chain (Act true true true)) (Act false false false) (fun _ _ => True) world →
      task.Moves (Chain (Act true closing true)) (Elsewhere closing clearing) (fun _ _ => True)
        world := fun hmoves =>
    (moves_among hmoves).mono (fun _ _ => id) (fun _ _ hact => hact.elsewhere) fun _ _ => id
  cases isInitiator with
  | true =>
      have htracked := hcreated.takeSyn rfl rfl
      rw [connectTo_initiator]
      exact (hstart htracked hinv hrest).launch hsound (other_meets hothers nofun ⟨htracked, hinv⟩
        (hquiet (sendHandshake_acts htracked (sendable_syn _ _ _) nofun))) nofun
  | false =>
      rw [connectTo_responder]
      exact (hstart hcreated hinv hrest).launch hsound (other_meets hothers nofun ⟨hcreated, hinv⟩
        (hquiet (sendHandshake_acts hcreated (sendable_synAck rfl) nofun))) nofun

theorem outline_sound (hclosing : ∀ label, labels label → label.isClosing = true → closing = true)
    (hclearing : clearing = false → ¬ labels .reset)
    (hothers : ∀ world next, inv world → Act false closing true world next → inv next)
    (hreceive : ∀ world packet, world.Tracked first → inv world → world.Settled →
      admits world packet →
      (Async.discard (UtpConn.handleIncomingPacket packet)).Meets
        ((outline closing clearing first inv).contract .receive)
        ((outline closing clearing first inv).post .receive) world world) :
    (outline closing clearing first inv).Sound (connSystem labels admits) :=
  outlineTo_sound resting_settled hclosing hclearing hothers hreceive

/-! ## Keeping to a stream -/

/-- The connection is established and keeps to the stream. -/
def Receiving (stream : Stream) (world : World) : Prop := world.Started ∧ world.Phase stream

variable {stream : Stream}

theorem Receiving.aside {world next : World} (hworld : world.Receiving stream)
    (haside : Aside closing world next) : next.Receiving stream :=
  ⟨hworld.1.aside haside, hworld.2.aside haside⟩

/-- Moreover the acknowledgement number tells how far it is in the stream. -/
structure Abreast (stream : Stream) (world : World) : Prop where
  receiving : world.Receiving stream
  level : world.Level stream

theorem Abreast.aside {world next : World} (hworld : world.Abreast stream)
    (haside : Aside closing world next) : next.Abreast stream :=
  ⟨hworld.receiving.aside haside, hworld.level.aside haside⟩

/-- A packet that is live whenever it is taken keeps the receiver abreast of the stream, as
long as nobody empties the queue in the middle of a pass. -/
theorem Abreast.receive {world : World} {packet : UtpPacket} (hworld : world.Abreast stream)
    (htracked : world.Tracked first) (hsettled : world.Settled)
    (hlive : world.conn.localState = .CS_CONNECTED → world.Good stream →
      packet.isReliable = true → world.conn.isRefused packet = false → ∃ i,
        stream.live world.conn.advanced i ∧ packet.payload = stream.payload i ∧
          packet.seqNr = stream.number i) :
    (Async.discard (UtpConn.handleIncomingPacket packet)).Meets
      ((outline closing false first (Abreast stream)).contract .receive)
      ((outline closing false first (Abreast stream)).post .receive) world world := by
  refine receive_meets htracked (handleIncomingPacket_meets
    (tolerant_quietly fun _ _ h => h.aside) hworld hsettled fun later hlater _ hsame => ?_)
  refine hlater.receiving.1.handles fun hstate hreliable hrefused => ?_
  have htype : packet.type ≠ .ST_STATE := fun h => by
    simp [UtpPacket.isReliable, h] at hreliable
  rw [hsame htype] at hstate hrefused ⊢
  have hgood := hworld.receiving.2.connected hstate
  exact hgood.takes hstate (hlive hstate hgood hreliable hrefused) fun _ hstarted hphase hlevel =>
    ⟨⟨hstarted, hphase⟩, hlevel rfl⟩

end World

end Utp
