import Utp.Conn.Tasks
import Utp.Foundation.Guarded

/-! # Runs of a connection

The tasks that run on one connection, and when each may start. The receive loop
of the socket awaits one packet before it takes the next, so packet handling is
exclusive; everything else may overlap in any way.
-/

namespace Utp

open Async (Chain Config TaskSystem)

/-- What a task was started for. -/
inductive Label where
  | connect
  | connectTimeout
  | receive
  | write
  | read
  | close
  | closePoll
  | reset
  | timeoutCheck
  deriving DecidableEq

/-- The tasks that end the connection from this side or on a reset packet. -/
def Label.isClosing : Label → Bool
  | .close | .closePoll | .reset => true
  | _ => false

/-- The tasks that may start in a state. `admits` says which packets the network
may hand over. The application has the connection once `connectTo` resolved. -/
inductive Spawns (admits : World → UtpPacket → Prop) (world : World) : Label → ConnM Unit → Prop
  | receive (packet : UtpPacket) (hadmits : admits world packet) :
      Spawns admits world .receive (Async.discard (UtpConn.handleIncomingPacket packet))
  | write (data : Bytes) (hresolved : world.conn.connecting = .resolved) :
      Spawns admits world .write (Async.discard (UtpConn.write data))
  | read (size : Nat) (hresolved : world.conn.connecting = .resolved) :
      Spawns admits world .read (Async.discard (UtpConn.read size))
  | close : Spawns admits world .close UtpConn.close
  | closePoll (hpolling : world.conn.closePolling = true) :
      Spawns admits world .closePoll UtpConn.closePoll
  | reset : Spawns admits world .reset UtpConn.reset
  | timeoutCheck : Spawns admits world .timeoutCheck UtpConn.timeoutCheck
  | connectTimeout (hpending : world.conn.connecting = .pending) :
      Spawns admits world .connectTimeout UtpConn.connectTimeout

theorem Spawns.mono {admits other : World → UtpPacket → Prop} {world : World} {label : Label}
    {task : ConnM Unit} (hspawns : Spawns admits world label task)
    (hmore : ∀ packet, admits world packet → other world packet) :
    Spawns other world label task := by
  cases hspawns with
  | receive packet hadmits => exact .receive packet (hmore packet hadmits)
  | write data hresolved => exact .write data hresolved
  | read size hresolved => exact .read size hresolved
  | close => exact .close
  | closePoll hpolling => exact .closePoll hpolling
  | reset => exact .reset
  | timeoutCheck => exact .timeoutCheck
  | connectTimeout hpending => exact .connectTimeout hpending

/-- A connection with the tasks under the given labels. -/
def connSystem (labels : Label → Prop) (admits : World → UtpPacket → Prop) :
    TaskSystem World Label where
  spawn world label task := labels label ∧ Spawns admits world label task
  env := World.Environment
  exclusive label := label = .receive

/-- Every packet at any time, and every task. -/
def anyPacket (_ : World) (_ : UtpPacket) : Prop := True

def anyLabel (_ : Label) : Prop := True

namespace World

/-- `new UtpConn(...)`, which enters the connection table. The history of
datagrams starts here. -/
def create (self : Nat) (utp : UtpSocket) (isInitiator : Bool) (remoteAddr : UtpAddr)
    (sendId recvId seqNr ackNr : Nat) : World :=
  (World.mk self (.create isInitiator remoteAddr sendId recvId seqNr ackNr utp.performanceNow)
    { utp with sent := [] }).addConn

/-- `UtpConn.connectTo(...)` after its first turn. -/
def connectTo (self : Nat) (utp : UtpSocket) (isInitiator : Bool) (remoteAddr : UtpAddr)
    (sendId recvId seqNr ackNr : Nat) : Config World Label :=
  Config.launch ⟨create self utp isInitiator remoteAddr sendId recvId seqNr ackNr, []⟩ .connect
    UtpConn.waitForConnecting

/-- The answer to the SYN of a connection with the receive id `connId`. -/
def synAck (connId seqNr : Nat) : UtpPacket :=
  { type := .ST_STATE, connId := connId, seqNr := seqNr, ackNr := 1 }

/-- An initiator that has nothing to do after the handshake. -/
def established (self : Nat) (utp : UtpSocket) (remoteAddr : UtpAddr) (recvId seqNr : Nat) :
    Config World Label :=
  let waiting := (connectTo self utp true remoteAddr (recvId + 1) recvId 1 0).resumes [0, 0, 0, 0]
  (waiting.launch .receive
    (Async.discard (UtpConn.handleIncomingPacket (synAck recvId seqNr)))).resumes [0, 0, 0, 0]

/-- The number of the first reliable packet: the SYN consumes one. -/
def firstSeqNr (isInitiator : Bool) (seqNr : Nat) : Nat :=
  if isInitiator then seqNr + 1 else seqNr

end World

/-! ## Every run is a chain of acts -/

variable {labels : Label → Prop} {admits : World → UtpPacket → Prop} {first : Nat}
  {receiving closing writing : Bool}

theorem spawns_acts {world : World} {label : Label} {task : ConnM Unit} {others : Bool}
    (htracked : world.Tracked first) (hspawns : Spawns admits world label task)
    (hreceiving : label = .receive → receiving = true)
    (hclosing : label.isClosing = true → closing = true)
    (hwriting : label = .write → writing = true) :
    task.Moves (Chain (World.Act true others true)) (World.Act receiving closing writing)
      (fun _ _ => True) world := by
  refine World.moves_among ?_
  cases hspawns with
  | receive packet =>
      cases hreceiving rfl
      exact Async.MovesFrom.discard World.lasting_tracked (World.handleIncomingPacket_acts packet)
        world htracked
  | write data hresolved =>
      cases hwriting rfl
      exact Async.MovesFrom.discard World.lasting_started (World.write_acts data) world
        ⟨htracked, htracked.started hresolved⟩
  | read size => exact ((World.read_acts size).discard).moves world
  | close =>
      cases hclosing rfl
      exact World.close_acts world htracked
  | closePoll =>
      cases hclosing rfl
      exact World.closePoll_acts world htracked
  | reset =>
      cases hclosing rfl
      exact World.reset_acts world htracked
  | timeoutCheck => exact World.timeoutCheck_acts world htracked
  | connectTimeout => exact World.connectTimeout_acts.moves world

/-- Every run is a chain of acts, without the closing ones if no task under those
labels may start. -/
theorem connSystem_moves (hclosing : ∀ label, labels label → label.isClosing = true →
    closing = true) :
    (connSystem labels admits).MovesBy (World.Act true closing true) (World.Tracked first) where
  preserves _ _ htracked hact := hact.tracked htracked
  spawn _ label _ htracked hspawn :=
    spawns_acts htracked hspawn.2 (fun _ => rfl) (hclosing label hspawn.1) fun _ => rfl
  env _ _ _ henv := .env henv

theorem connSystem_acts : (connSystem labels admits).MovesBy (World.Act true true true)
    (World.Tracked first) := connSystem_moves fun _ _ _ => rfl

/-- What the tasks under a label write. -/
def Label.Acts (label : Label) : World → World → Prop :=
  World.Act (decide (label = .receive)) label.isClosing (decide (label = .write))

/-- The acts under a label, of which more is known write by write. -/
theorem connSystem_movesPer_and {also : Label → World → World → Prop}
    (halso : ∀ world label task, Spawns admits world label task → task.MovesAlways (also label)) :
    (connSystem labels admits).MovesPer (World.Act true true true)
      (fun label start target => label.Acts start target ∧ also label start target)
      (World.Tracked first) where
  preserves _ _ htracked hact := hact.tracked htracked
  spawn world label task htracked hspawn :=
    (spawns_acts htracked hspawn.2 decide_eq_true id decide_eq_true).and
      (halso world label task hspawn.2 world)
  weaken _ _ _ hact := hact.1.widen fun _ => rfl
  env _ _ _ henv := .env henv

namespace World

/-- The handshake is a run, if the SYN is out when the answer arrives. -/
theorem established_reachable {self : Nat} {utp : UtpSocket} {remoteAddr : UtpAddr}
    {recvId seqNr : Nat} (hlabels : labels .receive)
    (hadmits : ∀ world, admits world (synAck recvId seqNr))
    (hidle : ((connectTo self utp true remoteAddr (recvId + 1) recvId 1 0).resumes
      [0, 0, 0, 0]).tasks.length = 0) :
    (connSystem labels admits).Reachable
    (connectTo self utp true remoteAddr (recvId + 1) recvId 1 0)
      (established self utp remoteAddr recvId seqNr) := by
  refine TaskSystem.Reachable.resumes (.step (.resumes .refl _) (.launch ?_ ?_)) _
  · exact ⟨hlabels, .receive _ (hadmits _)⟩
  · intro _ other hother
    rw [List.length_eq_zero_iff.mp hidle] at hother
    cases hother

theorem create_tracked (self : Nat) (utp : UtpSocket) (isInitiator : Bool)
    (remoteAddr : UtpAddr) (sendId recvId seqNr ackNr : Nat) (hseqNr : seqNr < 65536) :
    (create self utp isInitiator remoteAddr sendId recvId seqNr ackNr).Tracked seqNr where
  localSeqNr := (Nat.mod_eq_of_lt hseqNr).symm
  numbered _ _ h := by simp [create, addConn, UtpConn.create] at h
  window := BlockingMap.every_create _ _
  sent _ h := by simp [create, addConn] at h
  registered _ h := by simp [create, addConn] at h
  initiator hstate := by
    cases isInitiator with
    | true => rfl
    | false => simp [create, addConn, UtpConn.create, UtpConn.initState] at hstate
  joined hstate := by
    cases isInitiator <;> simp [create, addConn, UtpConn.create, UtpConn.initState] at hstate
  started h := by simp [create, addConn, UtpConn.create] at h
  unstarted _ := rfl
  acknowledged _ h := by simp [create, addConn] at h

/-- Nothing has been created yet, so the SYN moves the numbering on by one. -/
theorem Tracked.takeSyn {world : World} (htracked : world.Tracked first)
    (hcreated : world.conn.created = []) (hsent : world.utp.sent = []) :
    world.takeSyn.Tracked (first + 1) where
  localSeqNr := by
    have hseqNr := htracked.localSeqNr
    simp only [World.takeSyn, onConn, hcreated, hseqNr, List.length_nil]
    omega
  numbered index packet hpacket := by
    simp only [World.takeSyn, onConn, hcreated] at hpacket
    cases hpacket
  window := htracked.window
  sent := htracked.sent
  registered := htracked.registered
  initiator := htracked.initiator
  joined := htracked.joined
  started := htracked.started
  unstarted := htracked.unstarted
  acknowledged := by
    intro datagram hdatagram
    rw [show world.takeSyn.utp.sent = [] from hsent] at hdatagram
    cases hdatagram

/-- The state in which a new connection sends its first packet. -/
def begun (self : Nat) (utp : UtpSocket) (isInitiator : Bool) (remoteAddr : UtpAddr)
    (sendId recvId seqNr ackNr : Nat) : World :=
  let created := create self utp isInitiator remoteAddr sendId recvId seqNr ackNr
  if isInitiator then created.takeSyn else created

theorem begun_initiator {self : Nat} {utp : UtpSocket} {remoteAddr : UtpAddr}
    {sendId recvId seqNr ackNr : Nat} :
    begun self utp true remoteAddr sendId recvId seqNr ackNr =
      (create self utp true remoteAddr sendId recvId seqNr ackNr).takeSyn := rfl

theorem begun_responder {self : Nat} {utp : UtpSocket} {remoteAddr : UtpAddr}
    {sendId recvId seqNr ackNr : Nat} :
    begun self utp false remoteAddr sendId recvId seqNr ackNr =
      create self utp false remoteAddr sendId recvId seqNr ackNr := rfl

theorem firstSeqNr_initiator {seqNr : Nat} : firstSeqNr true seqNr = seqNr + 1 := rfl

theorem firstSeqNr_responder {seqNr : Nat} : firstSeqNr false seqNr = seqNr := rfl

/-- An initiator starts with its SYN. -/
theorem connectTo_initiator (self : Nat) (utp : UtpSocket) (remoteAddr : UtpAddr)
    (sendId recvId seqNr ackNr : Nat) :
    connectTo self utp true remoteAddr sendId recvId seqNr ackNr =
      Config.launch ⟨begun self utp true remoteAddr sendId recvId seqNr ackNr, []⟩ .connect
        (UtpConn.sendHandshake (.createSynPacket
          (create self utp true remoteAddr sendId recvId seqNr ackNr).conn
          utp.currentMicroseconds)) := by
  have hconnected : (create self utp true remoteAddr sendId recvId seqNr ackNr).conn.isConnected =
      false := rfl
  have hinitiator : (create self utp true remoteAddr sendId recvId seqNr ackNr).conn.isInitiator =
      true := rfl
  unfold connectTo UtpConn.waitForConnecting
  simp only [Async.bind_eq, Config.launch_get, hconnected, hinitiator, Bool.false_eq_true,
    if_false, if_true, Config.launch_modify]
  rfl

/-- A responder starts with an acknowledgement. -/
theorem connectTo_responder (self : Nat) (utp : UtpSocket) (remoteAddr : UtpAddr)
    (sendId recvId seqNr ackNr : Nat) :
    connectTo self utp false remoteAddr sendId recvId seqNr ackNr =
      Config.launch ⟨begun self utp false remoteAddr sendId recvId seqNr ackNr, []⟩ .connect
        (UtpConn.sendHandshake (.createAckPacket
          (create self utp false remoteAddr sendId recvId seqNr ackNr).conn
          utp.currentMicroseconds none)) := by
  have hconnected : (create self utp false remoteAddr sendId recvId seqNr ackNr).conn.isConnected =
      false := rfl
  have hinitiator : (create self utp false remoteAddr sendId recvId seqNr ackNr).conn.isInitiator =
      false := rfl
  unfold connectTo UtpConn.waitForConnecting
  simp only [Async.bind_eq, Config.launch_get, hconnected, hinitiator, Bool.false_eq_true,
    if_false]
  rfl

/-- The first turn of `connectTo` leaves the connection as it was created, but for its clock. -/
theorem connectTo_conn (self : Nat) (utp : UtpSocket) (isInitiator : Bool)
    (remoteAddr : UtpAddr) (sendId recvId seqNr ackNr : Nat) :
    (connectTo self utp isInitiator remoteAddr sendId recvId seqNr ackNr).state.conn =
      (begun self utp isInitiator remoteAddr sendId recvId seqNr ackNr).touch.conn := by
  cases utp with
  | mk state => cases isInitiator <;> cases state <;> rfl

/-- At first only `connectTo` itself is suspended. -/
theorem connectTo_labels (self : Nat) (utp : UtpSocket) (isInitiator : Bool)
    (remoteAddr : UtpAddr) (sendId recvId seqNr ackNr : Nat) :
    ∀ entry ∈ (connectTo self utp isInitiator remoteAddr sendId recvId seqNr ackNr).tasks,
      entry.1 = .connect := by
  intro entry hentry
  simp only [connectTo, Config.launch, List.nil_append] at hentry
  unfold Async.Config.suspended at hentry
  split at hentry
  next => cases hentry
  next => rw [List.mem_singleton.mp hentry]

/-- The first turn of `connectTo` only acts. -/
theorem connectTo_acts (self : Nat) (utp : UtpSocket) (isInitiator : Bool)
    (remoteAddr : UtpAddr) (sendId recvId seqNr ackNr : Nat) (hseqNr : seqNr < 65536) :
    Chain (Act true true true) (begun self utp isInitiator remoteAddr sendId recvId seqNr ackNr)
        (connectTo self utp isInitiator remoteAddr sendId recvId seqNr ackNr).state ∧
      (connectTo self utp isInitiator remoteAddr sendId recvId seqNr ackNr).Moving
        (Act true true true)
        (Tracked (firstSeqNr isInitiator seqNr)) := by
  have hcreated := create_tracked self utp isInitiator remoteAddr sendId recvId seqNr ackNr
    hseqNr
  have hpreserves : ∀ {first : Nat} (world next : World), world.Tracked first →
      Act true true true world next → next.Tracked first :=
    fun _ _ htracked hact => hact.tracked htracked
  cases isInitiator with
  | true =>
      have htracked := hcreated.takeSyn rfl rfl
      have hstart : Config.Moving (Act true true true) (Tracked (seqNr + 1))
          (⟨begun self utp true remoteAddr sendId recvId seqNr ackNr, []⟩ : Config World Label) :=
        .start htracked
      rw [connectTo_initiator]
      exact hstart.launch hpreserves
        (sendHandshake_acts htracked (sendable_syn _ _ _) nofun) .connect
  | false =>
      have hstart : Config.Moving (Act true true true) (Tracked seqNr)
          (⟨begun self utp false remoteAddr sendId recvId seqNr ackNr, []⟩ : Config World Label) :=
        .start hcreated
      rw [connectTo_responder]
      exact hstart.launch hpreserves
        (sendHandshake_acts hcreated (sendable_synAck rfl) nofun) .connect

theorem connectTo_moving (self : Nat) (utp : UtpSocket) (isInitiator : Bool)
    (remoteAddr : UtpAddr) (sendId recvId seqNr ackNr : Nat) (hseqNr : seqNr < 65536) :
    (connectTo self utp isInitiator remoteAddr sendId recvId seqNr ackNr).Moving
    (Act true true true)
      (Tracked (firstSeqNr isInitiator seqNr)) :=
  (connectTo_acts self utp isInitiator remoteAddr sendId recvId seqNr ackNr hseqNr).2

/-- In a reachable configuration every suspended task goes on to act under its label, and
whatever else is known of the writes under a label is known of its writes. -/
theorem reachable_movingPer {self : Nat} {utp : UtpSocket} {isInitiator : Bool}
    {remoteAddr : UtpAddr} {sendId recvId seqNr ackNr : Nat} (hseqNr : seqNr < 65536)
    {also : Label → World → World → Prop}
    (hfirst : ∀ packet, (UtpConn.sendHandshake packet).MovesAlways (also .connect))
    (halso : ∀ world label task, Spawns admits world label task → task.MovesAlways (also label))
    {config : Config World Label}
    (hconfig : (connSystem labels admits).Reachable
      (connectTo self utp isInitiator remoteAddr sendId recvId seqNr ackNr) config) :
    config.MovingPer (Act true true true)
      (fun label start target => label.Acts start target ∧ also label start target)
      (Tracked (firstSeqNr isInitiator seqNr)) := by
  have hsystem : ∀ {first : Nat}, (connSystem labels admits).MovesPer (Act true true true)
      (fun label start target => label.Acts start target ∧ also label start target)
      (Tracked first) := connSystem_movesPer_and halso
  have hlaunch : ∀ {first : Nat} {world : World} {packet : UtpPacket}, world.Tracked first →
      (UtpConn.sendHandshake packet).Moves (Chain (Act true true true)) (Label.Acts .connect)
        (fun _ _ => True) world →
      (Config.launch ⟨world, []⟩ Label.connect (UtpConn.sendHandshake packet)).MovingPer
        (Act true true true)
        (fun label start target => label.Acts start target ∧ also label start target)
        (Tracked first) := by
    intro first world packet htracked hacts
    have hstart : Config.MovingPer (Act true true true)
        (fun label start target => label.Acts start target ∧ also label start target)
        (Tracked first) (⟨world, []⟩ : Config World Label) := .start htracked
    exact hstart.launch hsystem (hacts.and (hfirst packet world))
  have hcreated := create_tracked self utp isInitiator remoteAddr sendId recvId seqNr ackNr hseqNr
  refine hsystem.reachable ?_ hconfig
  cases isInitiator with
  | true =>
      have htracked := hcreated.takeSyn rfl rfl
      rw [connectTo_initiator]
      exact hlaunch htracked (sendHandshake_acts htracked (sendable_syn _ _ _) nofun)
  | false =>
      rw [connectTo_responder]
      exact hlaunch hcreated (sendHandshake_acts hcreated (sendable_synAck rfl) nofun)

/-- What allowed acts and the environment preserve holds on along a guarded run that
goes on from a reachable configuration. More may be known of the acts under a label. -/
theorem guarded_keeps_and {self : Nat} {utp : UtpSocket} {isInitiator : Bool}
    {remoteAddr : UtpAddr} {sendId recvId seqNr ackNr : Nat} (hseqNr : seqNr < 65536)
    {also : Label → World → World → Prop}
    (hfirst : ∀ packet, (UtpConn.sendHandshake packet).MovesAlways (also .connect))
    (halso : ∀ world label task, Spawns admits world label task → task.MovesAlways (also label))
    {allowed : Async.Guard World Label} {config later : Config World Label}
    (hconfig : (connSystem labels admits).Reachable
      (connectTo self utp isInitiator remoteAddr sendId recvId seqNr ackNr) config)
    (hrun : (connSystem labels admits).Guarded allowed config later) (keep : World → Prop)
    (hact : ∀ others label start target, keep start → label.Acts start target →
      also label start target → allowed others label start target → keep target)
    (henv : ∀ start target, keep start → start.Environment target → keep target)
    (hstart : keep config.state) : keep later.state := by
  have hmoving := reachable_movingPer hseqNr hfirst halso hconfig
  refine ((connSystem_movesPer_and halso).guarded hmoving hrun).1.preserves
    (fun start target h hwrite => ?_) hstart
  cases hwrite with
  | turn others label hmove hallowed =>
      exact hact others label start target h hmove.1 hmove.2 hallowed
  | env hmove => exact henv start target h hmove

theorem guarded_keeps {self : Nat} {utp : UtpSocket} {isInitiator : Bool}
    {remoteAddr : UtpAddr} {sendId recvId seqNr ackNr : Nat} (hseqNr : seqNr < 65536)
    {allowed : Async.Guard World Label} {config later : Config World Label}
    (hconfig : (connSystem labels admits).Reachable
      (connectTo self utp isInitiator remoteAddr sendId recvId seqNr ackNr) config)
    (hrun : (connSystem labels admits).Guarded allowed config later) (keep : World → Prop)
    (hact : ∀ others label start target, keep start → label.Acts start target →
      allowed others label start target → keep target)
    (henv : ∀ start target, keep start → start.Environment target → keep target)
    (hstart : keep config.state) : keep later.state :=
  guarded_keeps_and hseqNr (fun _ => .any) (fun _ _ _ _ => .any) hconfig hrun keep
    (fun others label start target h hmove _ => hact others label start target h hmove) henv hstart

/-- The writes of a task as long as a condition holds, which the others keep. -/
abbrev Onward (stays : World → Prop) (move : World → World → Prop) (task : ConnM Unit)
    (world : World) : Prop :=
  task.Moves (fun start target => stays start → stays target) move (fun _ _ => True) world

/-- The same from a configuration in which `stays` holds, where that is known to hold on. Then
more is known of the writes of new tasks, if it is known of the suspended ones. -/
theorem onward_keeps {self : Nat} {utp : UtpSocket} {isInitiator : Bool}
    {remoteAddr : UtpAddr} {sendId recvId seqNr ackNr : Nat} (hseqNr : seqNr < 65536)
    {also more : Label → World → World → Prop} {stays : World → Prop}
    (hfirst : ∀ packet, (UtpConn.sendHandshake packet).MovesAlways (also .connect))
    (halso : ∀ world label task, Spawns admits world label task → task.MovesAlways (also label))
    (hmore : ∀ world label task, stays world → Spawns admits world label task →
      Onward stays (more label) task world)
    (hstays : ∀ label start target, stays start → label.Acts start target →
      more label start target → stays target)
    (hconn : ∀ start target : World, target.conn = start.conn → stays start → stays target)
    {allowed : Async.Guard World Label} {config later : Config World Label}
    (hconfig : (connSystem labels admits).Reachable
      (connectTo self utp isInitiator remoteAddr sendId recvId seqNr ackNr) config)
    (hstate : stays config.state)
    (hsuspended : ∀ entry ∈ config.tasks, ∀ world, stays world →
      Onward stays (more entry.1) entry.2 world)
    (hrun : (connSystem labels admits).Guarded allowed config later) (keep : World → Prop)
    (hact : ∀ others label start target, stays start → keep start → label.Acts start target →
      also label start target → more label start target → allowed others label start target →
        keep target)
    (henv : ∀ start target, keep start → start.Environment target → keep target)
    (hstart : keep config.state) : stays later.state ∧ keep later.state := by
  have hmoving := reachable_movingPer hseqNr hfirst halso hconfig
  have hrely : ∀ start target : World, Chain (fun start target =>
      Act true true true start target ∧ (stays start → stays target)) start target →
        stays start → stays target :=
    fun _ _ hchain => hchain.preserves fun _ _ h hmove => hmove.2 h
  have hacts : ∀ start target : World, Chain (fun start target =>
      Act true true true start target ∧ (stays start → stays target)) start target →
        Chain (Act true true true) start target :=
    fun _ _ hchain => hchain.lift id fun _ _ h => h.1
  have hsystem : (connSystem labels admits).MovesPer
      (fun start target => Act true true true start target ∧ (stays start → stays target))
      (fun label start target => (label.Acts start target ∧ also label start target) ∧
        more label start target)
      (fun world => world.Tracked (firstSeqNr isInitiator seqNr) ∧ stays world) := by
    refine ⟨fun _ _ h hmove => ⟨hmove.1.tracked h.1, hmove.2 h.2⟩, ?_, ?_, ?_⟩
    · intro world label task h hspawn
      have hknown := (connSystem_movesPer_and halso).spawn world label task h.1 hspawn
      exact (hknown.mono hacts (fun _ _ => id) fun _ _ => id).both
        ((hmore world label task h.2 hspawn.2).mono hrely (fun _ _ => id) fun _ _ => id)
    · exact fun label start target h =>
        ⟨h.1.1.widen fun _ => rfl, fun hstay => hstays label start target hstay h.1.1 h.2⟩
    · exact fun _ _ h henv => ⟨.env henv, hconn _ _ henv.conn⟩
  have honward : config.MovingPer
      (fun start target => Act true true true start target ∧ (stays start → stays target))
      (fun label start target => (label.Acts start target ∧ also label start target) ∧
        more label start target)
      (fun world => world.Tracked (firstSeqNr isInitiator seqNr) ∧ stays world) := by
    refine ⟨⟨hmoving.inv, hstate⟩, fun entry hentry middle hmiddle => ?_⟩
    have hknown := hmoving.tasks entry hentry middle (hacts _ _ hmiddle)
    exact (hknown.mono hacts (fun _ _ => id) fun _ _ => id).both
      ((hsuspended entry hentry middle (hrely _ _ hmiddle hstate)).mono hrely (fun _ _ => id)
        fun _ _ => id)
  have hwrites := (hsystem.guarded honward hrun).1
  have hboth : stays config.state ∧ keep config.state := ⟨hstate, hstart⟩
  clear hstate hstart honward hmoving
  refine hwrites.preserves (fun start target (h : stays start ∧ keep start) hwrite => ?_) hboth
  cases hwrite with
  | turn others label hmove hallowed =>
      exact ⟨hstays label start target h.1 hmove.1.1 hmove.2,
        hact others label start target h.1 h.2 hmove.1.1 hmove.1.2 hmove.2 hallowed⟩
  | env hmove => exact ⟨hconn start target hmove.conn h.1, henv start target h.2 hmove⟩

/-! ## A concrete run -/

/-- One byte written after the handshake. -/
def wroteByte : Config World Label :=
  ((established 0 .sample (.localhost 9000) 1 100).launch .write
    (Async.discard (UtpConn.write [65]))).resumes [0, 0, 0, 0, 0, 0]

/-- The SYN is out. -/
theorem sample_synSent :
    ((connectTo 0 .sample true (.localhost 9000) 2 1 1 0).resumes
      [0, 0, 0, 0]).tasks.length = 0 := by
  decide +kernel

theorem sample_established : (connSystem anyLabel anyPacket).Reachable
    (connectTo 0 .sample true (.localhost 9000) 2 1 1 0)
    (established 0 .sample (.localhost 9000) 1 100) :=
  established_reachable trivial (fun _ => trivial) sample_synSent

theorem sample_idle : (established 0 .sample (.localhost 9000) 1 100).tasks = [] :=
  List.length_eq_zero_iff.mp (by decide +kernel)

theorem sample_resolved :
    (established 0 .sample (.localhost 9000) 1 100).state.conn.connecting = .resolved := by
  decide +kernel

/-- Any packet may come after the handshake. -/
theorem sample_receiving (packet : UtpPacket) : (connSystem anyLabel anyPacket).Reachable
    (connectTo 0 .sample true (.localhost 9000) 2 1 1 0)
    ((established 0 .sample (.localhost 9000) 1 100).launch .receive
      (Async.discard (UtpConn.handleIncomingPacket packet))) := by
  refine sample_established.step (.launch ⟨trivial, .receive packet trivial⟩ ?_)
  intro _ other hother
  rw [sample_idle] at hother
  cases hother

theorem wroteByte_reachable : (connSystem anyLabel anyPacket).Reachable
    (connectTo 0 .sample true (.localhost 9000) 2 1 1 0) wroteByte :=
  (sample_established.step
    (.launch ⟨trivial, .write [65] sample_resolved⟩ nofun)).resumes _

end World

end Utp
