import Utp.Socket.Isolation

/-! # Closing the endpoint

The UDP socket, the timers and the listener go with the state of the endpoint, in every run. A
closed endpoint stays closed and silent. One that was closed before its first use never gets
there.
-/

namespace Utp

open Async (Chain Config)

namespace Socket

variable {socket next : Socket}

/-- On a closed socket no write sends anything. -/
theorem Change.sent (hchange : socket.Change next) (hclosed : socket.utp.state = .CLOSED) {id : Nat}
    (hid : id < next.count) : (next.objects id).sent =
      if id < socket.count then (socket.objects id).sent else [] := by
  cases hchange with
  | create isInitiator remoteAddr sendId recvId seqNr ackNr hfresh =>
      by_cases hnew : id = socket.count
      · subst hnew
        rw [if_neg (Nat.lt_irrefl _)]
        simp [newConn, putWorld, World.create, World.addConn]
      · rw [if_pos (Nat.lt_of_le_of_ne (Nat.le_of_lt_succ hid) hnew), newConn_objects_of_ne hnew]
  | own owner hown =>
      have hlt : id < socket.count := Nat.lt_of_lt_of_eq hid hown.count
      rw [if_pos hlt]
      by_cases howner : id = owner
      · subst howner
        exact hown.writes.sent hclosed
      · rw [hown.objects howner]

end Socket

namespace Endpoint

variable {endpoint next : Endpoint}

theorem endpointSystem_movesPer : endpointSystem.MovesPer Change (fun _ => Change) Orderly where
  preserves _ _ horderly hchange := hchange.orderly horderly
  spawn _ _ _ horderly hspawns := (spawns_changes horderly hspawns).mono (fun _ _ h => h)
    (fun _ _ honly => honly.change) fun _ _ h => h
  weaken _ _ _ hchange := hchange
  env _ _ _ henv := .env henv

/-- What the writes keep from a reachable configuration on, every later one has. -/
theorem later_of_reachable {utp : UtpSocket} {config later : Config Endpoint EndpointLabel}
    (hrun : endpointSystem.Reachable ⟨create utp, []⟩ config)
    (hlater : endpointSystem.Reachable config later) : Chain Change config.state later.state := by
  have hmoving := endpointSystem_movesPer.reachable (.start (create_orderly utp)) hrun
  apply (endpointSystem_movesPer.guarded hmoving hlater.guarded).1.lift id
  rintro start target (⟨_, _, hchange, _⟩ | henv)
  · exact hchange
  · exact .env henv

theorem reachable_orderly {utp : UtpSocket} {config : Config Endpoint EndpointLabel}
    (hrun : endpointSystem.Reachable ⟨create utp, []⟩ config) : config.state.Orderly :=
  (endpointSystem_movesPer.reachable (.start (create_orderly utp)) hrun).inv

/-! ## Resources -/

/-- The accounts of the endpoint are right in every run. -/
theorem reachable_accounted {utp : UtpSocket} {config : Config Endpoint EndpointLabel}
    (hrun : endpointSystem.Reachable ⟨create utp, []⟩ config) : config.state.Accounted :=
  (reachable_orderly hrun).accounted

/-! ## A closed endpoint is silent -/

/-- Nothing was handed to the UDP socket since: old connections have sent what they had sent, new
ones nothing. -/
def SilentSince (endpoint later : Endpoint) : Prop :=
  ∀ id < later.socket.count, (later.socket.objects id).sent =
    if id < endpoint.socket.count then (endpoint.socket.objects id).sent else []

theorem SilentSince.refl (endpoint : Endpoint) : endpoint.SilentSince endpoint := by
  intro id hid
  rw [if_pos hid]

/-- Closed is the last state. -/
theorem Change.isClosed (hchange : endpoint.Change next) (hclosed : endpoint.isClosed) :
    next.isClosed := by
  cases hchange with
  | socket hsocket => exact hsocket.socket.utpState.trans hclosed
  | own hown =>
      cases hown with
      | beginClose hactive | closeUnused hactive => exact absurd hclosed hactive.not_isClosed
      | closeNow | closeLater => rfl
      | _ => exact hclosed
  | env henv => exact henv.state.trans hclosed

theorem Change.silentSince (hchange : endpoint.Change next) (hclosed : endpoint.isClosed)
    {first : Endpoint} (hsilent : first.SilentSince endpoint)
    (hcount : first.socket.count ≤ endpoint.socket.count) : first.SilentSince next := by
  have hsame : next.socket.objects = endpoint.socket.objects →
      next.socket.count = endpoint.socket.count → first.SilentSince next := by
    intro hobjects hcount id hid
    rw [hobjects]
    exact hsilent id (Nat.lt_of_lt_of_eq hid hcount)
  cases hchange with
  | socket hsocket =>
      intro id hid
      rw [hsocket.socket.sent hclosed hid]
      by_cases hold : id < endpoint.socket.count
      · rw [if_pos hold]
        exact hsilent id hold
      · rw [if_neg hold, if_neg fun hfirst => hold (Nat.lt_of_lt_of_le hfirst hcount)]
  | own hown => exact hsame hown.objects.1 hown.objects.2.1
  | env henv => exact hsame henv.objects henv.count

/-- Once the endpoint is closed nothing is handed to its UDP socket any more, whatever the
connections, the timers and the calls that are under way do. -/
theorem closed_silent {utp : UtpSocket} {config later : Config Endpoint EndpointLabel}
    (hrun : endpointSystem.Reachable ⟨create utp, []⟩ config) (hclosed : config.state.isClosed)
    (hlater : endpointSystem.Reachable config later) :
    later.state.isClosed ∧ config.state.SilentSince later.state := by
  have hchain := later_of_reachable hrun hlater
  suffices hall : later.state.isClosed ∧ config.state.SilentSince later.state ∧
      config.state.socket.count ≤ later.state.socket.count from ⟨hall.1, hall.2.1⟩
  generalize later.state = final at hchain ⊢
  induction hchain with
  | refl => exact ⟨hclosed, .refl _, Nat.le_refl _⟩
  | tail _ hchange ih =>
      obtain ⟨hends, hsilent, hcount⟩ := ih
      exact ⟨hchange.isClosed hends, hchange.silentSince hends hsilent hcount,
        hcount.trans hchange.onward.count⟩

/-- An endpoint that listened and was closed. -/
def closedListening : Config Endpoint EndpointLabel :=
  ((⟨create .sample, []⟩ : Config Endpoint EndpointLabel).launch .call
    (listen (.ok ()) 9000 "0.0.0.0")).launch .call (synchronous close)

/-- It goes on to connect. -/
def connectsAfterwards : Config Endpoint EndpointLabel :=
  closedListening.launch .call (connect (.ok ()) 5 9000 "localhost")

theorem closedListening_reachable :
    endpointSystem.Reachable ⟨create .sample, []⟩ closedListening :=
  .step (.step .refl (.launch (.listen (.ok ()) 9000 "0.0.0.0") nofun)) (.launch .close nofun)

/-- An endpoint whose listener was closed, which goes on to be used. -/
def listenerClosed : Config Endpoint EndpointLabel :=
  ((⟨create .sample, []⟩ : Config Endpoint EndpointLabel).launch .call
    (listen (.ok ()) 9000 "0.0.0.0")).launch .call closeListener

theorem reachable_accounted_sample : listenerClosed.state.isActive ∧
    listenerClosed.state.listener.isClosed = true ∧ listenerClosed.state.Accounted ∧
      closedListening.state.Accounted := by
  have hrun : endpointSystem.Reachable ⟨create .sample, []⟩ listenerClosed :=
    .step (.step .refl (.launch (.listen (.ok ()) 9000 "0.0.0.0") nofun))
      (.launch .closeListener nofun)
  exact ⟨by decide +kernel, by decide +kernel, reachable_accounted hrun,
    reachable_accounted closedListening_reachable⟩

theorem closed_silent_sample : connectsAfterwards.state.socket.count = 1 ∧
    connectsAfterwards.state.isClosed ∧
      closedListening.state.SilentSince connectsAfterwards.state := by
  have hclosed : closedListening.state.isClosed := by decide +kernel
  have hlater : endpointSystem.Reachable closedListening connectsAfterwards :=
    .step .refl (.launch (.connect (.ok ()) 5 9000 "localhost") nofun)
  exact ⟨by decide +kernel, closed_silent closedListening_reachable hclosed hlater⟩

end Endpoint

end Utp
