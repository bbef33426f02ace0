import Utp.Conn.History
import Utp.Conn.Speech
import Utp.Receiver.Reorder
import Utp.Sender.Silence
import Utp.Wire.Codec

/-! # What a call of `write` makes of its data

Several calls of `write` cut their data into packets and number them from one counter, with
a pause after every packet. Each call still gets all of its data into packets of its own.
-/

namespace Utp

open Async (Trace)

/-- The packets that a write has built. -/
def World.built (write : World × World) : List UtpPacket :=
  write.2.conn.created.drop write.1.conn.created.length

/-- What the packets carry that these writes have built. -/
def World.carried (writes : List (World × World)) : Bytes :=
  (writes.flatMap World.built).flatMap UtpPacket.payload

namespace World

/-- All packets that have been built, in order, each with the call that did. -/
def authored (trace : Trace World Label) : List (Option Nat × UtpPacket) :=
  trace.writes.flatMap fun write => (built write.2).map fun packet => (write.1, packet)

/-- The packets that a call has built. -/
def authoredBy (trace : Trace World Label) (number : Nat) : List UtpPacket :=
  ((authored trace).filter fun entry => entry.1 = some number).map Prod.snd

/-! ## One call -/

theorem carried_append (first second : List (World × World)) :
    carried (first ++ second) = carried first ++ carried second := by
  simp only [carried, List.flatMap_append]

theorem carried_quiet {syn : UtpPacket} {writes : List (World × World)}
    (hwrites : ∀ write ∈ writes, Utters syn write.1 write.2) : carried writes = [] := by
  simp only [carried, List.flatMap_eq_nil_iff]
  intro packet hpacket
  obtain ⟨write, hwrite, hbuilt⟩ := List.mem_flatMap.mp hpacket
  rw [built, (hwrites write hwrite).created, List.drop_length] at hbuilt
  cases hbuilt

theorem carried_data (world : World) (chunk : Bytes) :
    carried [(world, world.consumeSeqNr (world.dataPacket chunk))] = chunk := by
  simp [carried, built, consumeSeqNr, onConn, UtpConn.consumeSeqNr, UtpPacket.payload, dataPacket,
    UtpPacket.createDataPacket]

theorem chunkAt_drop (data : Bytes) (offset : Nat) :
    UtpConn.chunkAt data offset ++ data.drop (offset + (UtpConn.chunkAt data offset).length) =
      data.drop offset := by
  rw [← List.drop_drop]
  unfold UtpConn.chunkAt
  rw [List.length_take]
  by_cases hshort : UtpConn.chunkSize ≤ (data.drop offset).length
  · rw [Nat.min_eq_left hshort, List.take_append_drop]
  · rw [Nat.min_eq_right (by omega), List.take_of_length_le (by omega), List.drop_length,
      List.append_nil]

/-- What the packets carry and what is left of the data make up the data, in every round. -/
theorem writeLoop_logs (data : Bytes) (rounds offset : Nat) (own : List (World × World))
    (state : World) : (UtpConn.writeLoop data rounds offset).Logs (fun later result _ =>
      ∀ final, result = .ok final →
        carried later ++ data.drop final = carried own ++ data.drop offset) own state := by
  induction rounds generalizing offset own state with
  | zero =>
      rintro final hfinal
      cases hfinal
      rfl
  | succ rounds ih =>
      unfold UtpConn.writeLoop
      by_cases hoffset : offset < data.length
      · rw [if_pos hoffset]
        generalize hchunk : UtpConn.chunkAt data offset = chunk
        have hsend : (UtpConn.sendUtpPacket (state.dataPacket chunk)).awaited.MovesAlways
            (Utters (state.dataPacket chunk)) :=
          (sendUtpPacket_uttering (spoken_data state chunk)).awaited
        change Async.Logs _ (Async.bind (UtpConn.sendUtpPacket (state.dataPacket chunk)).awaited _)
          (own ++ [(state, state.consumeSeqNr (state.dataPacket chunk))])
          (state.consumeSeqNr (state.dataPacket chunk))
        apply Async.logs_bind.mpr
        apply hsend.logs.mono
        rintro later result final ⟨more, rfl, hmore⟩
        -- The pause adds nothing to what the packets carry, whoever else writes in it.
        have hlater : carried (own ++ [(state, state.consumeSeqNr (state.dataPacket chunk))] ++
            more) = carried own ++ chunk := by
          rw [carried_append, carried_append, carried_data, carried_quiet hmore, List.append_nil]
        cases result with
        | error error =>
            intro final hfinal
            cases hfinal
        | ok n =>
            by_cases hlength : n = (state.dataPacket chunk).length
            · simp only [if_pos hlength]
              apply (ih _ _ _).mono
              intro _ result _ hresult final hfinal
              rw [hresult final hfinal, hlater, ← hchunk, List.append_assoc, chunkAt_drop]
            · simp only [if_neg hlength]
              intro final hfinal
              cases hfinal
      · rw [if_neg hoffset]
        rintro final hfinal
        cases hfinal
        rfl

/-- A call that returns has put all of its data into packets. -/
theorem write_logs (data : Bytes) (state : World) :
    (UtpConn.write data).Logs (fun own result _ =>
      ∀ n, result = .ok n → n = data.length ∧ carried own = data) [] state := by
  apply Async.logs_bind.mpr
  apply (writeLoop_logs data data.length 0 [] state).mono
  intro own result final hresult
  cases result with
  | error error =>
      intro n hn
      cases hn
  | ok offset =>
      by_cases hall : data.length = offset
      · simp only [if_pos hall]
        intro n hn
        cases hn
        have hcarried := hresult offset rfl
        rw [← hall, List.drop_length, List.append_nil] at hcarried
        exact ⟨rfl, hcarried⟩
      · simp only [if_neg hall]
        intro n hn
        cases hn

/-! ## All packets -/

/-- A data packet as `write` builds it. -/
def Cut (packet : UtpPacket) : Prop :=
  ∃ (world : World) (chunk : Bytes), packet = world.dataPacket chunk ∧ 0 < chunk.length ∧
    chunk.length ≤ UtpConn.chunkSize

/-- Up to its FIN a connection builds data packets only. -/
def Uniform (world : World) : Prop :=
  world.conn.localFinPacket = none → ∀ packet ∈ world.conn.created, Cut packet

theorem Speaks.uniform {syn : UtpPacket} {fins : Bool} {world next : World}
    (hspeaks : Speaks syn fins world next) (hworld : world.Uniform) : next.Uniform := by
  cases hspeaks with
  | utter hutters =>
      unfold Uniform
      rw [hutters.created, hutters.localFinPacket]
      exact hworld
  | data chunk hpos hfits =>
      intro hfin packet hpacket
      rcases List.mem_append.mp hpacket with hold | hnew
      · exact hworld hfin packet hold
      · exact ⟨world, chunk, List.mem_singleton.mp hnew, hpos, hfits⟩
  | fin _ _ =>
      intro hfin
      cases hfin

/-- Only the code of `write` builds data packets. -/
theorem Act.uniform {receiving closing : Bool} {world next : World}
    (hact : Act receiving closing false world next) (hworld : world.Uniform) : next.Uniform := by
  cases hact with
  | env henv =>
      unfold Uniform
      rw [henv.conn]
      exact hworld
  | takeData _ _ hwriting => cases hwriting
  | takeFin =>
      intro hfin
      cases hfin
  | _ => exact hworld

/-- The packets of the writes so far are the packets of the connection. -/
theorem built_created {world next : World} {packets : List UtpPacket}
    (hpackets : packets = world.conn.created) (hgrows : world.conn.created <+: next.conn.created) :
    packets ++ built (world, next) = next.conn.created := by
  rw [hpackets]
  exact (List.prefix_iff_eq_append.mp hgrows)

theorem authored_packets (trace : Trace World Label) :
    (authored trace).map Prod.snd = trace.writes.flatMap fun write => built write.2 := by
  simp only [authored, List.map_flatMap, List.map_map]
  apply List.flatMap_congr
  intro write _
  simp [Function.comp_def]

/-- What a call has built is what its own writes have built. -/
theorem authoredBy_eq (trace : Trace World Label) (number : Nat) :
    authoredBy trace number = (trace.writesOf number).flatMap built := by
  simp only [authoredBy, authored, Trace.writesOf]
  induction trace.writes with
  | nil => rfl
  | cons write rest ih =>
      simp only [List.flatMap_cons, List.filter_append, List.map_append, ih, List.filter_cons]
      by_cases hauthor : write.1 = some number
      · simp [hauthor, List.filter_map, Function.comp_def]
      · simp [hauthor, List.filter_map, Function.comp_def]

/-! ## Every run -/

section Run

variable {self : Nat} {utp : UtpSocket} {isInitiator : Bool} {remoteAddr : UtpAddr}
  {sendId recvId seqNr ackNr : Nat} {trace : Trace World Label}

theorem connectTo_created :
    (connectTo self utp isInitiator remoteAddr sendId recvId seqNr
      ackNr).state.conn.created = [] := by
  rw [connectTo_conn]
  cases isInitiator <;> rfl

theorem authored_created (hseqNr : seqNr < 65536)
    (hrun : (connSystem anyLabel anyPacket).Traced
      (connecting self utp isInitiator remoteAddr sendId recvId seqNr ackNr) trace) :
    (authored trace).map Prod.snd = trace.config.state.conn.created := by
  rw [authored_packets]
  apply @connecting_recorded _ _ _ _ _ _ _ _ _ (fun writes (world : World) =>
    (writes.flatMap fun write => built write.2) = world.conn.created) hseqNr hrun
  · rfl
  · intro before author world hbefore
    rw [List.flatMap_append, List.flatMap_singleton]
    exact built_created hbefore List.prefix_rfl
  · intro before author start target hbefore hact
    rw [List.flatMap_append, List.flatMap_singleton]
    exact built_created hbefore hact.grows.created

/-- What is built on a connected connection. -/
theorem uniform_of_connected (hseqNr : seqNr < 65536) {config : Async.Config World Label}
    (hrun : (connSystem anyLabel anyPacket).Reachable
      (connectTo self utp isInitiator remoteAddr sendId recvId seqNr ackNr) config)
    (hconnected : config.state.conn.localState = .CS_CONNECTED) :
    ∀ packet ∈ config.state.conn.created, Cut packet := by
  have hfirst : ∀ packet, (UtpConn.sendHandshake packet).MovesAlways fun world next =>
      Label.connect = .write → Speaks config.state.ackPacket true world next := by
    intro packet
    have hany : (UtpConn.sendHandshake packet).MovesAlways fun _ _ => True := .any
    apply hany.mono
    intro _ _ _ hlabel
    cases hlabel
  have hspeaks : ∀ world label task, Spawns anyPacket world label task →
      task.MovesAlways fun world next =>
        label = .write → Speaks config.state.ackPacket true world next := by
    intro world label task hspawns
    exact (spawns_speaking hspawns).mono fun _ _ hspeaks _ => hspeaks
  have hkept := guarded_keeps_and hseqNr hfirst hspeaks .refl hrun.guarded
    (fun world => world.Uniform ∧ (world.conn.localFinPacket.isSome = true → world.Over))
    ?_ ?_ ?_
  · apply hkept.1
    cases hfin : config.state.conn.localFinPacket with
    | none => rfl
    | some fin =>
        have hover := hkept.2 (by rw [hfin]; rfl)
        exact absurd hconnected hover.2.2
  · rintro _ label start target hworld hact hwords -
    refine ⟨?_, Act.fin_over hact hworld.2⟩
    by_cases hlabel : label = .write
    · exact (hwords hlabel).uniform hworld.1
    · have hquiet : Act (decide (label = .receive)) label.isClosing false start target := by
        simpa [Label.Acts, hlabel] using hact
      exact hquiet.uniform hworld.1
  · intro start target hworld henv
    have hact : Act true true false start target := .env henv
    exact ⟨hact.uniform hworld.1, hact.fin_over hworld.2⟩
  · constructor
    · intro _ packet hpacket
      rw [connectTo_created] at hpacket
      cases hpacket
    · rw [connectTo_conn]
      intro hfin
      cases isInitiator <;> cases hfin

/-- What `write` builds fits into a datagram. -/
theorem Cut.fits {packet : UtpPacket} (hcut : Cut packet) :
    packet.type = .ST_DATA ∧ packet.payload ≠ [] ∧ packet.toBytes.length ≤ DEFAULT_MTU := by
  obtain ⟨world, chunk, rfl, hpos, hfits⟩ := hcut
  have hpayload : (world.dataPacket chunk).payload = chunk := rfl
  have hlength : (world.dataPacket chunk).toBytes.length = UtpPacket.HEADER_SIZE +
    chunk.length := by
    rw [UtpPacket.toBytes_length]
    simp [UtpPacket.length, dataPacket, UtpPacket.createDataPacket]
  have hmax : UtpPacket.HEADER_SIZE + UtpConn.chunkSize ≤ DEFAULT_MTU := by decide
  refine ⟨rfl, ?_, ?_⟩
  · rw [hpayload]
    exact List.length_pos_iff.mp hpos
  · rw [hlength]
    omega

/-- In every run up to a connected state, however the calls of `write` overlap: the packets
are data packets that fit into a datagram, numbered in the order of their creation. Each has
its author, and a call that returns has put its data, and nothing else, into its own packets. -/
theorem write_fragments (hseqNr : seqNr < 65536)
    (hrun : (connSystem anyLabel anyPacket).Traced
      (connecting self utp isInitiator remoteAddr sendId recvId seqNr ackNr) trace)
    (hconnected : trace.config.state.conn.localState = .CS_CONNECTED) :
    (authored trace).map Prod.snd = trace.config.state.conn.created ∧
    (∀ index packet, trace.config.state.conn.created[index]? = some packet →
      packet.type = .ST_DATA ∧ packet.seqNr = (firstSeqNr isInitiator seqNr + index) % 65536 ∧
        packet.payload ≠ [] ∧ packet.toBytes.length ≤ DEFAULT_MTU) ∧
    ∀ number label data,
      trace.calls[number]? = some (label, Async.discard (UtpConn.write data)) →
      ∃ rest, (UtpConn.write data).Played (trace.turnsOf number) (trace.writesOf number) rest ∧
        (rest.isAwait = true ↔ ∃ entry ∈ trace.config.tasks, entry.1.2 = number) ∧
        ∀ n, rest = .pure n →
          n = data.length ∧ (authoredBy trace number).flatMap UtpPacket.payload = data := by
  have hmoving := connectTo_moving self utp isInitiator remoteAddr sendId recvId seqNr ackNr hseqNr
  have hreach := hrun.reachable
  rw [connecting_untag] at hreach
  have htracked := (connSystem_acts.reachable hmoving hreach).2.inv
  have hfaithful := hrun.faithful ((Trace.start_faithful _).launch _ _)
  refine ⟨authored_created hseqNr hrun, ?_, ?_⟩
  · intro index packet hpacket
    have hcut := uniform_of_connected hseqNr hreach hconnected packet (List.mem_of_getElem? hpacket)
    obtain ⟨htype, hpayload, hsize⟩ := hcut.fits
    exact ⟨htype, htracked.numbered index packet hpacket, hpayload, hsize⟩
  · intro number label data hcall
    obtain ⟨later, hplayed, hsuspended, hdone⟩ := hfaithful.played number label _ hcall
    obtain ⟨rest, hrest, rfl⟩ := hplayed.of_discard
    rw [Async.isAwait_discard] at hsuspended hdone
    refine ⟨rest, hrest, ?_, ?_⟩
    · constructor
      · intro hawait
        exact ⟨_, hsuspended hawait, rfl⟩
      · rintro ⟨entry, hentry, hnumber⟩
        by_contra hawait
        exact hdone (Bool.eq_false_iff.mpr hawait) entry hentry hnumber
    · rintro n rfl
      obtain ⟨_, hlogs⟩ := hrest.logs (write_logs data)
      rw [authoredBy_eq]
      exact hlogs n rfl

end Run

/-! ## A concrete run -/

/-- Two calls at once. The first one returns while the second waits for room. -/
def twoWriters : Trace World Label :=
  ((shook.launch .write (Async.discard (UtpConn.write [65]))).launch .write
    (Async.discard (UtpConn.write [66, 67]))).resumes [0, 1, 0, 1, 0, 0, 0]

theorem twoWriters_traced : (connSystem anyLabel anyPacket).Traced
    (connecting 0 .sample true (.localhost 9000) 2 1 1 0) twoWriters := by
  apply Async.TaskSystem.Traced.resumes
  apply traced_write
  · apply traced_write _ shook_traced
    decide +kernel
  · decide +kernel

theorem write_fragments_sample : twoWriters.config.state.conn.created.length = 2 ∧
    (authored twoWriters).map Prod.snd = twoWriters.config.state.conn.created ∧
    ∃ rest, (UtpConn.write [65]).Played (twoWriters.turnsOf 2) (twoWriters.writesOf 2) rest ∧
      ∀ n, rest = .pure n → (authoredBy twoWriters 2).flatMap UtpPacket.payload = [65] := by
  obtain ⟨hcreated, -, hcalls⟩ :=
    write_fragments (by decide) twoWriters_traced (by decide +kernel)
  obtain ⟨rest, hplayed, -, hreturned⟩ := hcalls 2 .write [65] (by
    rw [twoWriters, Trace.resumes_calls]
    rfl)
  exact ⟨by decide +kernel, hcreated, rest, hplayed, fun n hn => (hreturned n hn).2⟩

end World

end Utp
