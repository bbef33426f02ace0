import Utp.Conn.Key
import Utp.Foundation.Authorship
import Utp.Socket.Changes

/-! # Who may write to a connection

A datagram reaches the connections of its sender only. In every run each write to a connection
that exists was made by a call that has to do with it: one of its own, the call that created it,
a packet from its peer to its receive id, or the timer.
-/

namespace Utp

open Async (Chain Config TaskSystem Trace)

namespace Socket

variable {socket : Socket}

/-- What a packet must say to be handed to a connection. -/
structure Receives (packet : UtpPacket) (remoteAddr : UtpAddr) (conn : UtpConn) : Prop where
  remoteAddr : conn.remoteAddr = remoteAddr
  localRecvId : conn.localRecvId = packet.connId
  localSendId : (conn.localSendId : Int) ∈ localSendIds packet.connId

theorem Receives.later {packet : UtpPacket} {remoteAddr : UtpAddr} {conn later : UtpConn}
    (hsame : SamePeer conn later) (hreceives : Receives packet remoteAddr conn) :
    Receives packet remoteAddr later := by
  refine ⟨hsame.remoteAddr.trans hreceives.remoteAddr,
    hsame.localRecvId.trans hreceives.localRecvId, ?_⟩
  rw [hsame.localSendId]
  exact hreceives.localSendId

/-- The lookup by id finds the connections of the sender only. -/
theorem Keyed.receives (hkeyed : socket.Keyed) {packet : UtpPacket} {remoteAddr : UtpAddr}
    {id : Nat} (htarget : id ∈ socket.targetConns packet remoteAddr) :
    id < socket.count ∧ Receives packet remoteAddr (socket.objects id).conn := by
  obtain ⟨sendId, hsendId, hfind⟩ := List.mem_filterMap.mp htarget
  obtain ⟨hlt, hkey⟩ := hkeyed _ id hfind
  obtain ⟨hhostname, hport, hsend, hrecv⟩ := (Key.generateUniqueId_eq_iff _ _ _ _ _ _).mp hkey
  refine ⟨hlt, ?_, by exact_mod_cast hrecv, by rwa [hsend]⟩
  cases hconn : (socket.objects id).conn.remoteAddr
  cases remoteAddr
  rw [hconn] at hhostname hport
  cases hhostname
  cases hport
  rfl

end Socket

namespace Endpoint

open Socket (Receives Serves)

/-- The calls that have to do with a connection. -/
inductive Entitled (id : Nat) (conn : UtpConn) : EndpointLabel → Async Endpoint Unit → Prop
  | own (label : Label) (task : ConnM Unit) :
      Entitled id conn (.own id label) (onSocket (Socket.onConn id task))
  | connect (listened : Except String Unit) (drawn : Fin 65535) (port : Nat) (hostname : String)
      {remoteAddr : UtpAddr} (haddr : UtpAddr.create port hostname = .ok remoteAddr)
      (hserves : Serves remoteAddr (drawn + 1) drawn conn) :
      Entitled id conn .call (connect listened drawn port hostname)
  | syn (drawn : Fin 65535) (packet : UtpPacket) {remoteAddr : UtpAddr}
      (hserves : Serves remoteAddr packet.connId (packet.connId + 1) conn) :
      Entitled id conn .syn (acceptSyn drawn packet remoteAddr)
  | packet (drawn : Fin 65535) (packet : UtpPacket) {remoteAddr : UtpAddr}
      (hreceives : Receives packet remoteAddr conn) :
      Entitled id conn .receive (onSocket (Socket.dispatchPacket drawn packet remoteAddr))
  | timer (rounds : Nat) : Entitled id conn .timer (onSocket (Socket.timeoutCheckLoop rounds []))

variable {endpoint next : Endpoint} {about : Nat → UtpConn → Prop}

theorem Only.mono {weaker : Nat → UtpConn → Prop}
    (hweaker : ∀ id conn, about id conn → weaker id conn) (honly : Only about endpoint next) :
    Only weaker endpoint next :=
  ⟨honly.change, fun id hid hne => hweaker _ _ (honly.about id hid hne)⟩

/-! ## Opening -/

theorem createUdpSocketIfNone_changes (listened : Except String Unit) :
    (createUdpSocketIfNone listened).Moves (Chain Change) (Only about)
      (fun result later => result = .ok () → later.udpSocket ≠ .none) endpoint := by
  unfold createUdpSocketIfNone
  apply Async.moves_bind.mpr
  apply Async.moves_get.mpr
  dsimp only
  split
  next hopen => exact fun _ => hopen
  next hnone =>
    cases listened with
    | error error => exact nofun
    | ok value => exact ⟨(OwnChange.bind (not_not.mp hnone)).only, fun _ => nofun⟩

theorem connect_changes (listened : Except String Unit) (drawn : Fin 65535) (port : Nat)
    (hostname : String) : (connect listened drawn port hostname).Moves (Chain Change)
      (Only fun id conn => Entitled id conn .call (connect listened drawn port hostname))
      (fun _ _ => True) endpoint := by
  suffices hmoves : (connect listened drawn port hostname).Moves (Chain Change)
      (Only fun _ conn => ∃ remoteAddr, UtpAddr.create port hostname = .ok remoteAddr ∧
        Serves remoteAddr (drawn + 1) drawn conn) (fun _ _ => True) endpoint from by
    apply hmoves.mono (fun _ _ h => h) _ fun _ _ _ => trivial
    rintro start target honly
    apply honly.mono
    rintro id conn ⟨remoteAddr, haddr, hserves⟩
    exact .connect listened drawn port hostname haddr hserves
  unfold connect
  apply Async.moves_bind.mpr
  apply (createUdpSocketIfNone_changes listened).post
  rintro (error | value) later hopen
  · trivial
  · dsimp only
    unfold Socket.connect
    split
    next => trivial
    next remoteAddr haddr =>
      have hconnect := @Socket.connectTo_changes later.socket true remoteAddr (drawn + 1) drawn 1 0
        nofun
      apply (onSocket_changes hconnect (hopen rfl)).mono
      · exact fun _ _ h => h
      · exact fun _ _ honly => honly.mono fun _ _ hserves => ⟨remoteAddr, haddr, hserves⟩
      · exact fun _ _ _ => trivial

theorem listen_changes (listened : Except String Unit) (port : Nat) (hostname : String) :
    (listen listened port hostname).Moves (Chain Change) (Only about)
    (fun _ _ => True) endpoint := by
  unfold listen
  split
  next => trivial
  next => exact (createUdpSocketIfNone_changes listened).post fun _ _ _ => trivial

/-! ## The listener -/

theorem accept_changes : accept.Moves (Chain Change) (Only about) (fun _ _ => True) endpoint := by
  refine ⟨OwnChange.only (.listener _ fun hclosed => ?_), trivial⟩
  rw [UTPListener.accept, if_pos hclosed]
  exact hclosed

theorem closeListener_changes :
    closeListener.Moves (Chain Change) (Only about) (fun _ _ => True) endpoint :=
  ⟨OwnChange.only (.listener _ fun _ => close_isClosed _), trivial⟩

theorem addConnection_changes {id : Nat} {about : UtpConn → Prop}
    (hstable : ∀ conn later, Socket.SamePeer conn later → about conn → about later)
    (hopen : endpoint.udpSocket ≠ .none) (hid : id < endpoint.socket.count)
    (habout : about (endpoint.socket.objects id).conn) :
    (addConnection id).Moves (Chain Change) (Only fun _ => about) (fun _ _ => True) endpoint := by
  have hclosed : (endpoint.listener.addConnection id).isClosed = endpoint.listener.isClosed := by
    unfold UTPListener.addConnection
    split
    next => rfl
    next =>
      dsimp only
      split <;> rfl
  unfold addConnection
  apply Async.moves_bind.mpr
  apply Async.moves_get.mpr
  apply Async.moves_bind.mpr
  refine ⟨OwnChange.only (.listener _ fun h => hclosed.trans h), ?_⟩
  dsimp only
  split
  next =>
    have hclose := @Socket.onConn_only
      (endpoint.setListener (endpoint.listener.addConnection id)).socket
      id Unit _ (World.EndsFor.leavesTable (@World.close_ends .close)) World.close_writes _ hstable
      hid habout
    apply (onSocket_changes hclose hopen).mono
    · exact fun _ _ h => h
    · exact fun _ _ honly => honly.mono fun _ _ h => h.2
    · exact fun _ _ _ => trivial
  next => trivial

theorem acceptSyn_changes (drawn : Fin 65535) (packet : UtpPacket) (remoteAddr : UtpAddr)
    (hopen : endpoint.udpSocket ≠ .none) : (acceptSyn drawn packet remoteAddr).Moves (Chain Change)
      (Only fun id conn => Entitled id conn .syn (acceptSyn drawn packet remoteAddr))
      (fun _ _ => True) endpoint := by
  have hentitled : ∀ start target : Endpoint,
      Only (fun _ => Serves remoteAddr packet.connId (packet.connId + 1)) start target →
        Only (fun id conn => Entitled id conn .syn (acceptSyn drawn packet remoteAddr)) start
          target :=
    fun _ _ honly => honly.mono fun _ _ hserves => .syn drawn packet hserves
  suffices hmoves : (acceptSyn drawn packet remoteAddr).Moves (Chain Change)
      (Only fun _ => Serves remoteAddr packet.connId (packet.connId + 1)) (fun _ _ => True)
      endpoint from hmoves.mono (fun _ _ h => h) hentitled fun _ _ _ => trivial
  unfold acceptSyn
  apply Async.moves_bind.mpr
  apply Async.moves_get.mpr
  dsimp only
  split
  next => trivial
  next hnew =>
    have hfresh : endpoint.socket.findConn (UtpConn.generateUniqueId remoteAddr packet.connId
        (packet.connId + 1 : Nat)) = none := by simpa [Socket.hasConn] using hnew
    apply Async.moves_bind.mpr
    apply (onSocket_changes (@Socket.connectTo_changes endpoint.socket false remoteAddr
      packet.connId
      (packet.connId + 1) drawn packet.seqNr fun _ => hfresh) hopen).post
    rintro (error | value) later ⟨⟨hcreated, hserves⟩, hopen⟩
    · trivial
    · apply Async.moves_bind.mpr
      intro final hfinal _
      apply Async.moves_bind.mpr
      apply Async.moves_get.mpr
      dsimp only
      split
      next =>
        have honward := chain_onward hfinal
        exact addConnection_changes (fun _ _ hsame hserves => hserves.later hsame)
          (chain_opened hopen hfinal) (Nat.lt_of_lt_of_le hcreated honward.count)
          (hserves.later (honward.samePeer _ hcreated))
      next => trivial

/-! ## All tasks -/

theorem synchronous_changes {change : Endpoint → Endpoint × Except String Unit}
    (hchange : endpoint.OwnChange (change endpoint).1) : (synchronous change).Moves (Chain Change)
      (Only about) (fun _ _ => True) endpoint := by
  refine ⟨hchange.only, ?_⟩
  dsimp only
  cases (change endpoint).2 <;> trivial

theorem spawns_changes (horderly : endpoint.Orderly) {label : EndpointLabel}
    {task : Async Endpoint Unit} (hspawns : endpoint.Spawns label task) :
    task.Moves (Chain Change) (Only fun id conn => Entitled id conn label task)
      (fun _ _ => True) endpoint := by
  have hbound : endpoint.udpSocket = .bound → endpoint.udpSocket ≠ .none := fun hbound hnone =>
    nomatch hbound.symm.trans hnone
  cases hspawns with
  | connect listened drawn port hostname => exact connect_changes listened drawn port hostname
  | listen listened port hostname => exact listen_changes listened port hostname
  | accept => exact accept_changes
  | closeListener => exact closeListener_changes
  | close => exact synchronous_changes (close_change endpoint)
  | syn drawn packet remoteAddr hudp htype =>
      exact acceptSyn_changes drawn packet remoteAddr (hbound hudp)
  | packet drawn packet remoteAddr hudp htype =>
      have hhandle := @Socket.handlePacket_changes endpoint.socket packet
        (Receives packet remoteAddr) (fun _ _ => Receives.later)
        (endpoint.socket.targetConns packet remoteAddr) fun id htarget =>
          horderly.keyed.receives htarget
      have hdispatch : (Socket.dispatchPacket drawn packet remoteAddr).Moves Socket.Onward
          (Socket.Only fun _ => Receives packet remoteAddr) (fun _ _ => True) endpoint.socket := by
        rw [Socket.dispatchPacket, if_neg htype]
        exact hhandle
      apply (onSocket_changes hdispatch (hbound hudp)).mono
      · exact fun _ _ h => h
      · exact fun _ _ honly => honly.mono fun _ _ hreceives => .packet drawn packet hreceives
      · exact fun _ _ _ => trivial
  | timeoutCheck rounds htimer =>
      have hopen := hbound (horderly.accounted.timer.mp htimer)
      apply (onSocket_changes (Socket.timeoutCheckLoop_changes rounds [] horderly.refers)
        hopen).mono
      · exact fun _ _ h => h
      · exact fun _ _ honly => honly.mono fun _ _ _ => .timer rounds
      · exact fun _ _ _ => trivial
  | closePoll hinterval =>
      have hopen := hbound (horderly.accounted.interval hinterval).2
      exact synchronous_changes (closePoll_change hinterval hopen)
  | own id label task hid hlabel hspawns =>
      have hopen : endpoint.udpSocket ≠ .none := fun hnone =>
        absurd (horderly.accounted.unused hnone)
          (Nat.ne_of_gt (Nat.lt_of_le_of_lt (Nat.zero_le _) hid))
      have hleaves := World.EndsFor.leavesTable (World.spawns_ends hspawns)
      have hwrites : World.Writing true true task := (World.spawns_writes hspawns).mono
        fun _ _ => World.Writes.any
      have hown := @Socket.onConn_only endpoint.socket id Unit task hleaves hwrites (fun _ => True)
        (fun _ _ _ _ => trivial) hid trivial
      apply (onSocket_changes hown hopen).mono
      · exact fun _ _ h => h
      · rintro start target honly
        apply honly.mono
        rintro other conn ⟨rfl, -⟩
        exact .own label task
      · exact fun _ _ _ => trivial

theorem endpointSystem_movesEach : endpointSystem.MovesEach Change
    (fun label task => Only fun id conn => Entitled id conn label task) Orderly where
  preserves _ _ horderly hchange := hchange.orderly horderly
  spawn _ _ _ horderly hspawns := spawns_changes horderly hspawns
  weaken _ _ _ _ honly := honly.change
  env _ _ _ henv := .env henv

/-! ## Every run -/

/-- Whatever happens, a write to a connection that exists is made by a call that has to do with
it. -/
theorem isolated (utp : UtpSocket) {trace : Trace Endpoint EndpointLabel}
    (hrun : endpointSystem.Traced (.start (create utp)) trace) {author : Option Nat}
    {start target : Endpoint} (hwrite : (author, start, target) ∈ trace.writes) {id : Nat}
    (hid : id < start.socket.count) (hne : target.socket.objects id ≠ start.socket.objects id) :
    ∃ number label task, author = some number ∧ trace.calls[number]? = some (label, task) ∧
      Entitled id (start.socket.objects id).conn label task := by
  have hauthored := (endpointSystem_movesEach.traced (create_orderly utp) hrun).writes _ hwrite
  cases author with
  | none =>
      have henv : Environment start target := hauthored
      exact absurd (congrFun henv.objects id) hne
  | some number =>
      obtain ⟨label, task, hcall, honly⟩ := hauthored
      exact ⟨number, label, task, rfl, hcall, honly.about id hid hne⟩

/-- An endpoint that has begun to connect. -/
def connecting : Trace Endpoint EndpointLabel :=
  (Trace.start (create .sample)).launch .call (connect (.ok ()) 5 9000 "localhost")

theorem isolated_sample : ∃ write ∈ connecting.writes, ∃ number label task,
    write.1 = some number ∧ connecting.calls[number]? = some (label, task) ∧
      Entitled 0 (write.2.1.socket.objects 0).conn label task := by
  have hnumbered : (connecting.writes.any fun write =>
      decide (0 < write.2.1.socket.count) && decide ((write.2.2.socket.objects 0).conn.localSeqNr ≠
        (write.2.1.socket.objects 0).conn.localSeqNr)) = true := by decide +kernel
  obtain ⟨⟨author, start, target⟩, hwrite, hcase⟩ := List.any_eq_true.mp hnumbered
  simp only [Bool.and_eq_true, decide_eq_true_eq] at hcase
  have hrun : endpointSystem.Traced (.start (create .sample)) connecting :=
    .launch .refl (.connect (.ok ()) 5 9000 "localhost") nofun
  refine ⟨_, hwrite, isolated .sample hrun hwrite hcase.1 fun hsame => hcase.2 ?_⟩
  rw [hsame]

end Endpoint

end Utp
