import Ak1Driver.Driver.Statistics
import Ak1Driver.Lib.Tally
import Ak1Driver.Proofs.Carriage

/-! The counters of an engine against what happened to it: what the card sent,
what it played, and what the framework refused. The control panel shows them for
the last engine that moved audio, however many came after it. -/

namespace Ak1Driver.Driver
open Proto Proto.Mode2 Lib Lib.Bytes Lib.Chunks Lib.Transition Proofs.Capture Engine

/-- The frames of a packet that is not lost. -/
def packetFrames (maxPacketBytes : Nat) (arrival : Arrival) : Nat :=
  if valid maxPacketBytes arrival.packet then framesIn arrival.data.length else 0

/-- The check bytes of a packet that are not what they should be. -/
def packetErrors (maxPacketBytes : Nat) (arrival : Arrival) : Nat :=
  if valid maxPacketBytes arrival.packet then (List.range (wholeBytes arrival.data)).countP (wrongCheck arrival.data) else 0

/-- The card complains in this packet of what it was to play. -/
def complains (maxPacketBytes : Nat) (arrival : Arrival) : Bool :=
  valid maxPacketBytes arrival.packet && (List.range (wholeBytes arrival.data)).any (rejects arrival.data)

/-- A packet that is answered with no frame. -/
def empty (maxPacketBytes : Nat) (arrival : Arrival) : Bool :=
  valid maxPacketBytes arrival.packet && framesIn arrival.data.length == 0

/-- What has happened to an engine. -/
structure Tallied where
  running : Bool := true
  captureTransfers : Nat := 0
  captureFailures : Nat := 0
  frames : Nat := 0
  checkErrors : Nat := 0
  rejectedPackets : Nat := 0
  playbackTransfers : Nat := 0
  playbackFailures : Nat := 0
  playbackOverruns : Nat := 0
  invalidPackets : Nat := 0
  /-- The playback transfers that the framework has. -/
  flying : Nat := 0

namespace Tallied

def note (maxPacketBytes : Nat) (arrivals : List Arrival) (tallied : Tallied) : Tallied :=
  { tallied with
    frames := tallied.frames + tally (packetFrames maxPacketBytes) arrivals
    checkErrors := tallied.checkErrors + tally (packetErrors maxPacketBytes) arrivals
    rejectedPackets := tallied.rejectedPackets + arrivals.countP (complains maxPacketBytes)
    invalidPackets := tallied.invalidPackets + losses maxPacketBytes arrivals }

/-- A capture transfer is answered, unless the framework still has every playback transfer. -/
def answer (maxPacketBytes : Nat) (arrivals : List Arrival) (sent : Bool) (tallied : Tallied) : Tallied :=
  if tallied.flying = transfers then
    { tallied with playbackOverruns := tallied.playbackOverruns + 1 }.note maxPacketBytes arrivals
  else
    let tallied := tallied.note maxPacketBytes arrivals
    if arrivals.all (empty maxPacketBytes) then tallied
    else if sent then { tallied with flying := tallied.flying + 1 }
    else { tallied with playbackFailures := tallied.playbackFailures + 1 }

def next (maxPacketBytes : Nat) (tallied : Tallied) : Counted.Event → Tallied
  | .captured results buffer qpc sent resubmitted =>
    let tallied := { tallied with captureTransfers := tallied.captureTransfers + 1 }
    if tallied.running then
      let tallied := tallied.answer maxPacketBytes (arrivals 0 results buffer qpc) sent
      if resubmitted then tallied else { tallied with captureFailures := tallied.captureFailures + 1 }
    else tallied
  | .captureFailed => { tallied with captureFailures := tallied.captureFailures + 1 }
  | .played _ => { tallied with playbackTransfers := tallied.playbackTransfers + 1, flying := tallied.flying - 1 }
  | .playbackFailed _ => { tallied with playbackFailures := tallied.playbackFailures + 1, flying := tallied.flying - 1 }
  | .lowered => { tallied with running := false }

/-- The counters of the engine itself. -/
def stats (tallied : Tallied) : Stats :=
  { frames := UInt32.ofNat tallied.frames
    checkErrors := UInt32.ofNat tallied.checkErrors
    rejectedPackets := UInt32.ofNat tallied.rejectedPackets
    playbackFailures := UInt32.ofNat tallied.playbackFailures
    playbackOverruns := UInt32.ofNat tallied.playbackOverruns
    invalidPackets := UInt32.ofNat tallied.invalidPackets }

def snapshot (tallied : Tallied) : Snapshot :=
  { captureTransfers := UInt32.ofNat tallied.captureTransfers
    captureFailures := UInt32.ofNat tallied.captureFailures
    frames := UInt32.ofNat tallied.frames
    checkErrors := UInt32.ofNat tallied.checkErrors
    rejectedPackets := UInt32.ofNat tallied.rejectedPackets
    playbackTransfers := UInt32.ofNat tallied.playbackTransfers
    playbackFailures := UInt32.ofNat tallied.playbackFailures
    playbackOverruns := UInt32.ofNat tallied.playbackOverruns
    invalidPackets := UInt32.ofNat tallied.invalidPackets }

theorem answer_keeps (maxPacketBytes : Nat) (arrivals : List Arrival) (sent : Bool) (tallied : Tallied) :
    (tallied.answer maxPacketBytes arrivals sent).running = tallied.running ∧
      (tallied.answer maxPacketBytes arrivals sent).captureTransfers = tallied.captureTransfers ∧
      (tallied.answer maxPacketBytes arrivals sent).captureFailures = tallied.captureFailures ∧
      (tallied.answer maxPacketBytes arrivals sent).playbackTransfers = tallied.playbackTransfers := by
  rw [answer]
  split
  · exact ⟨rfl, rfl, rfl, rfl⟩
  · dsimp only
    split
    · exact ⟨rfl, rfl, rfl, rfl⟩
    · split
      · exact ⟨rfl, rfl, rfl, rfl⟩
      · exact ⟨rfl, rfl, rfl, rfl⟩

end Tallied

namespace Engine
variable {σ : Type} {frames : Frames σ} {engine after : Engine σ} {maxPacketBytes : Nat}

/-- The counters after some packets. -/
structure Noted (maxPacketBytes : Nat) (arrivals : List Arrival) (before after : Stats) : Prop where
  frames : after.frames = before.frames + UInt32.ofNat (tally (packetFrames maxPacketBytes) arrivals)
  checkErrors : after.checkErrors = before.checkErrors + UInt32.ofNat (tally (packetErrors maxPacketBytes) arrivals)
  rejectedPackets : after.rejectedPackets = before.rejectedPackets + UInt32.ofNat (arrivals.countP (complains maxPacketBytes))
  invalidPackets : after.invalidPackets = before.invalidPackets + UInt32.ofNat (losses maxPacketBytes arrivals)
  playbackFailures : after.playbackFailures = before.playbackFailures
  playbackOverruns : after.playbackOverruns = before.playbackOverruns

theorem Noted.none (stats : Stats) : Noted maxPacketBytes [] stats stats :=
  ⟨(UInt32.add_zero _).symm, (UInt32.add_zero _).symm, (UInt32.add_zero _).symm, (UInt32.add_zero _).symm, rfl, rfl⟩

theorem Noted.append {first second : List Arrival} {before middle after : Stats} (earlier : Noted maxPacketBytes first before middle)
    (later : Noted maxPacketBytes second middle after) : Noted maxPacketBytes (first ++ second) before after := by
  refine ⟨?_, ?_, ?_, ?_, later.playbackFailures.trans earlier.playbackFailures, later.playbackOverruns.trans earlier.playbackOverruns⟩
  · rw [later.frames, earlier.frames, tally_append, UInt32.ofNat_add, UInt32.add_assoc]
  · rw [later.checkErrors, earlier.checkErrors, tally_append, UInt32.ofNat_add, UInt32.add_assoc]
  · rw [later.rejectedPackets, earlier.rejectedPackets, List.countP_append, UInt32.ofNat_add, UInt32.add_assoc]
  · have both : losses maxPacketBytes (first ++ second) = losses maxPacketBytes first + losses maxPacketBytes second :=
      List.countP_append
    rw [later.invalidPackets, earlier.invalidPackets, both, UInt32.ofNat_add, UInt32.add_assoc]

theorem rejected_any (packet : List UInt8) :
    (asChunks Mode2.frameBytes packet).any frameRejects = (List.range (wholeBytes packet)).any (rejects packet) := by
  rw [Bool.eq_iff_iff, outputRejected_iff, List.any_eq_true]
  simp only [List.mem_range]

/-- What one packet adds to the counters. -/
theorem receivePacket_noted (small : engine.maxPacketBytes ≤ maxPacketSize) (fast : microframesPerSecond ≤ engine.rateHz)
    {results : Vector (UInt32 × Int) packetsPerTransfer} {buffer : Buffer} {interval time qpc : UInt64} {i : Fin packetsPerTransfer}
    {arrival : Arrival} (arrives : arrival = arrivalAt interval results buffer time i) {progress received : Progress σ} {count : Nat}
    (ran : receivePacket frames engine (completed results buffer) qpc progress i = some (count, received)) :
    Noted engine.maxPacketBytes [arrival] progress.stats received.stats ∧ received.playback = progress.playback ∧
      received.offset = progress.offset ∧ (count = 0 ↔ empty engine.maxPacketBytes arrival = true) := by
  have place := completed_offset results buffer i
  have packetIs : arrival.packet = (completed results buffer).packets.get i := congrArg Arrival.packet arrives
  have data : arrival.data =
      ((buffer.bytes.drop (i * maxPacketSize)).take maxPacketSize).take arrival.packet.length.toNat := by rw [arrives]; rfl
  rw [← packetIs] at place
  cases correct : valid engine.maxPacketBytes arrival.packet with
  | true =>
    have fits : arrival.packet.length.toNat ≤ maxPacketSize := (valid_length correct).1.trans small
    obtain ⟨sliced, _⟩ := decode_data results buffer i fits data
    simp only [receivePacket, ← packetIs, correct, ↓reduceIte, place, sliced, decodeCapture_eq, Option.bind_eq_bind,
      Option.bind_some, Bool.true_and] at ran
    obtain ⟨decoded, _, ran⟩ := Option.bind_eq_some_iff.mp ran
    obtain ⟨taken, _, ran⟩ := Option.bind_eq_some_iff.mp ran
    cases ran
    refine ⟨⟨?_, ?_, ?_, ?_, rfl, rfl⟩, rfl, rfl, ?_⟩
    · rw [tally_cons, tally_nil, Nat.add_zero, packetFrames, if_pos correct]
      rfl
    · rw [tally_cons, tally_nil, Nat.add_zero, packetErrors, if_pos correct, checkErrors_count]
    · rw [List.countP_singleton, complains, correct, Bool.true_and, rejected_any]
      split
      · rfl
      · rfl
    · rw [losses_singleton, correct]
      exact (UInt32.add_zero _).symm
    · rw [empty, correct, Bool.true_and, beq_iff_eq]
      exact Iff.rfl
  | false =>
    obtain ⟨sliced, _⟩ := @decode_data results buffer i 0 (Nat.zero_le _) [] List.take_zero.symm
    simp only [receivePacket, ← packetIs, correct, Bool.false_eq_true, ↓reduceIte, place, sliced, decodeCapture_eq,
      Option.bind_eq_bind, Option.bind_some, Bool.false_and] at ran
    obtain ⟨decoded, _, ran⟩ := Option.bind_eq_some_iff.mp ran
    obtain ⟨taken, _, ran⟩ := Option.bind_eq_some_iff.mp ran
    cases ran
    refine ⟨⟨?_, ?_, ?_, ?_, rfl, rfl⟩, rfl, rfl, ?_⟩
    · rw [tally_cons, tally_nil, packetFrames, correct]
      rfl
    · rw [tally_cons, tally_nil, packetErrors, correct]
      rfl
    · rw [List.countP_singleton, complains, correct]
      rfl
    · rw [losses_singleton, correct]
      rfl
    · rw [empty, correct, Bool.false_and]
      have some : 0 < (progress.codec.nominalRemainder + engine.rateHz) / microframesPerSecond := by
        apply Nat.div_pos _ microframes_pos
        exact Nat.le_trans fast (Nat.le_add_left _ _)
      exact iff_of_false (Nat.ne_of_gt some) Bool.false_ne_true

/-- The loop over the packets of a transfer: the reply grows with every packet that is not empty. -/
structure Replies (maxPacketBytes : Nat) (arrivals : List Arrival) (before after : Progress σ) : Prop where
  noted : Noted maxPacketBytes arrivals before.stats after.stats
  playback : after.playback.isSome = before.playback.isSome
  busy : ∀ transfer, after.playback = some transfer → ∃ earlier, before.playback = some earlier ∧ transfer.busy = earlier.busy
  offset : before.playback.isSome →
    (after.offset = 0 ↔ before.offset = 0 ∧ ∀ arrival ∈ arrivals, empty maxPacketBytes arrival = true)

theorem replyPacket_replies {progress replied : Progress σ} {i : Fin packetsPerTransfer} {count : Nat}
    (ran : replyPacket frames progress i count = some replied) :
    replied.stats = progress.stats ∧ replied.playback.isSome = progress.playback.isSome ∧
      (∀ transfer, replied.playback = some transfer → ∃ earlier, progress.playback = some earlier ∧ transfer.busy = earlier.busy) ∧
      (progress.playback.isSome → (replied.offset = 0 ↔ progress.offset = 0 ∧ count = 0)) := by
  rw [replyPacket] at ran
  cases playing : progress.playback with
  | none =>
    rw [playing] at ran
    cases ran
    refine ⟨rfl, congrArg Option.isSome playing, ?_, ?_⟩
    · intro transfer impossible
      cases playing.symm.trans impossible
    · intro impossible
      cases impossible
  | some transfer =>
    simp only [playing, Option.bind_eq_bind] at ran
    obtain ⟨out, _, ran⟩ := Option.bind_eq_some_iff.mp ran
    obtain ⟨buffer, _, ran⟩ := Option.bind_eq_some_iff.mp ran
    cases ran
    refine ⟨rfl, rfl, ?_, ?_⟩
    · intro other same
      cases same
      exact ⟨transfer, rfl, rfl⟩
    · intro _
      apply Nat.add_eq_zero_iff.trans
      apply and_congr_right
      exact fun _ => Nat.mul_eq_zero.trans (or_iff_left (Nat.ne_of_gt frameBytes_pos))

theorem answerPacket_replies (small : engine.maxPacketBytes ≤ maxPacketSize) (fast : microframesPerSecond ≤ engine.rateHz)
    {results : Vector (UInt32 × Int) packetsPerTransfer} {buffer : Buffer} {interval time qpc : UInt64} {i : Fin packetsPerTransfer}
    {progress replied : Progress σ} (ran : answerPacket frames engine (completed results buffer) qpc progress i = some replied) :
    Replies engine.maxPacketBytes [arrivalAt interval results buffer time i] progress replied := by
  obtain ⟨⟨count, received⟩, receives, replies⟩ := Option.bind_eq_some_iff.mp ran
  obtain ⟨noted, playback, offset, nothing⟩ := receivePacket_noted small fast (rfl : _ = arrivalAt interval results buffer time i) receives
  obtain ⟨stats, isSome, busy, grown⟩ := replyPacket_replies replies
  rw [playback] at isSome busy grown
  refine ⟨stats ▸ noted, isSome, busy, ?_⟩
  intro plays
  rw [grown plays, offset, nothing, List.forall_mem_singleton]

theorem Replies.none (progress : Progress σ) : Replies maxPacketBytes [] progress progress := by
  refine ⟨.none _, rfl, fun transfer same => ⟨transfer, same, rfl⟩, fun _ => ?_⟩
  exact (and_iff_left (List.forall_mem_nil _)).symm

theorem Replies.append {first second : List Arrival} {before middle after : Progress σ}
    (earlier : Replies maxPacketBytes first before middle) (later : Replies maxPacketBytes second middle after) :
    Replies maxPacketBytes (first ++ second) before after := by
  refine ⟨earlier.noted.append later.noted, later.playback.trans earlier.playback, ?_, ?_⟩
  · intro transfer same
    obtain ⟨between, kept, busy⟩ := later.busy transfer same
    obtain ⟨original, first, also⟩ := earlier.busy between kept
    exact ⟨original, first, busy.trans also⟩
  · intro plays
    rw [later.offset (earlier.playback.trans plays), earlier.offset plays, List.forall_mem_append, and_assoc]

/-- By induction on the packets that are left. -/
theorem foldlM_replies (small : engine.maxPacketBytes ≤ maxPacketSize) (fast : microframesPerSecond ≤ engine.rateHz)
    {results : Vector (UInt32 × Int) packetsPerTransfer} {buffer : Buffer} {interval time qpc : UInt64}
    {places : List (Fin packetsPerTransfer)} {progress final : Progress σ}
    (ran : places.foldlM (answerPacket frames engine (completed results buffer) qpc) progress = some final) :
    Replies engine.maxPacketBytes (places.map (arrivalAt interval results buffer time)) progress final := by
  induction places generalizing progress with
  | nil =>
    cases ran
    exact .none _
  | cons place places ih =>
    obtain ⟨middle, first, rest⟩ := Option.bind_eq_some_iff.mp ran
    exact (answerPacket_replies small fast first).append (ih rest)

/-- The engine's counters are those of what happened, modulo 2³². -/
structure Tallies (maxPacketBytes : Nat) (engine : Engine σ) (tallied : Tallied) : Prop where
  stats : engine.stats = tallied.stats
  flying : engine.playbacks.countP (·.busy) = tallied.flying
  playbacks : engine.playbacks.length = transfers
  limit : engine.maxPacketBytes = maxPacketBytes
  small : maxPacketBytes ≤ maxPacketSize
  fast : microframesPerSecond ≤ engine.rateHz

theorem Noted.stats {tallied : Tallied} {arrivals : List Arrival} {before after : Stats} (noted : Noted maxPacketBytes arrivals before after)
    (same : before = tallied.stats) : after = (tallied.note maxPacketBytes arrivals).stats := by
  subst same
  obtain ⟨frames, checkErrors, rejectedPackets, invalidPackets, playbackFailures, playbackOverruns⟩ := noted
  rw [Tallied.note, Tallied.stats, Stats.mk.injEq]
  refine ⟨frames.trans ?_, checkErrors.trans ?_, rejectedPackets.trans ?_, playbackFailures, playbackOverruns, invalidPackets.trans ?_⟩
  · exact (UInt32.ofNat_add _ _).symm
  · exact (UInt32.ofNat_add _ _).symm
  · exact (UInt32.ofNat_add _ _).symm
  · exact (UInt32.ofNat_add _ _).symm

/-- Setting a transfer's busy flag changes the number that fly. -/
theorem countP_busy {playbacks : List Transfer} {index : Nat} {old : Transfer} (found : playbacks[index]? = some old) (new : Transfer) :
    (playbacks.set index new).countP (·.busy) + old.busy.toNat = playbacks.countP (·.busy) + new.busy.toNat := by
  obtain ⟨inside, rfl⟩ := List.getElem?_eq_some_iff.mp found
  have some : (if playbacks[index].busy = true then 1 else 0) ≤ playbacks.countP (·.busy) := List.boole_getElem_le_countP inside
  rw [List.countP_set inside]
  cases old : playbacks[index].busy with
  | false =>
    cases new.busy with
    | false => rfl
    | true => rfl
  | true =>
    rw [old] at some
    cases new.busy with
    | false => exact Nat.sub_add_cancel some
    | true =>
      simp only [↓reduceIte, Bool.toNat_true] at *
      omega

theorem Tallies.answer {tallied : Tallied} (tallies : Tallies maxPacketBytes engine tallied)
    {results : Vector (UInt32 × Int) packetsPerTransfer} {buffer : Buffer} {interval time qpc : UInt64} {sent : Bool}
    (ran : engine.answer frames (completed results buffer) qpc sent = some after) :
    Tallies maxPacketBytes after (tallied.answer maxPacketBytes (arrivals interval results buffer time) sent) := by
  obtain ⟨stats, flying, playbacks, limit, small, fast⟩ := tallies
  obtain ⟨final, folded, rest⟩ := Option.bind_eq_some_iff.mp ran
  have replies := @foldlM_replies _ frames engine (limit ▸ small) fast results buffer interval time qpc _ _ _ folded
  rw [limit] at replies
  change Replies maxPacketBytes (arrivals interval results buffer time) _ _ at replies
  cases foundIs : engine.playbacks.findIdx? (!·.busy) with
  | none =>
    rw [foundIs] at rest replies
    cases rest
    have full : tallied.flying = transfers := by
      rw [← flying, ← playbacks]
      apply List.countP_eq_length.mpr
      intro transfer member
      exact Bool.not_eq_eq_eq_not.mp (List.findIdx?_eq_none_iff.mp foundIs transfer member)
    have overrun : { engine.stats with playbackOverruns := engine.stats.playbackOverruns + 1 } =
        { tallied with playbackOverruns := tallied.playbackOverruns + 1 }.stats := by
      rw [stats, Tallied.stats, Tallied.stats, UInt32.ofNat_add]
      rfl
    rw [Tallied.answer, if_pos full]
    exact ⟨replies.noted.stats overrun, flying, playbacks, limit, small, fast⟩
  | some index =>
    obtain ⟨inside, idle, _⟩ := List.findIdx?_eq_some_iff_getElem.mp foundIs
    have found : engine.playbacks[index]? = some engine.playbacks[index] := List.getElem?_eq_getElem inside
    have room : tallied.flying ≠ transfers := by
      rw [← flying, ← playbacks]
      apply Nat.ne_of_lt
      apply List.countP_lt_length_iff.mpr
      exact ⟨_, List.getElem_mem inside, Bool.not_eq_eq_eq_not.mp idle⟩
    rw [foundIs] at rest replies
    simp only [Option.bind_some, found, Option.map_some] at rest replies
    obtain ⟨noted, isSome, busy, offset⟩ := replies
    obtain ⟨transfer, playing⟩ := Option.isSome_iff_exists.mp isSome
    obtain ⟨_, ⟨⟩, same⟩ := busy transfer playing
    have flies : transfer.busy = true := same
    rw [playing] at rest
    cases rest
    have counted := noted.stats stats
    have landed (other : Transfer) (rests : other.busy = false) : (engine.playbacks.set index other).countP (·.busy) = tallied.flying := by
      have changed := countP_busy found other
      rw [Bool.not_eq_eq_eq_not.mp idle, rests] at changed
      exact changed.trans flying
    rw [Tallied.answer, if_neg room, sendAnswer]
    by_cases nothing : (arrivals interval results buffer time).all (empty maxPacketBytes) = true
    · have still : final.offset = 0 := (offset rfl).mpr ⟨rfl, List.all_eq_true.mp nothing⟩
      rw [if_pos still]
      simp only [nothing, ↓reduceIte]
      exact ⟨counted, landed _ rfl, List.length_set.trans playbacks, limit, small, fast⟩
    · have grown : final.offset ≠ 0 := fun zero => nothing (List.all_eq_true.mpr ((offset rfl).mp zero).2)
      rw [if_neg grown]
      simp only [nothing, Bool.false_eq_true, ↓reduceIte]
      cases sent with
      | true =>
        have flown := countP_busy found { transfer with bufferLength := UInt32.ofNat final.offset }
        rw [Bool.not_eq_eq_eq_not.mp idle, flying] at flown
        simp only [↓reduceIte]
        refine ⟨counted, flown.trans ?_, List.length_set.trans playbacks, limit, small, fast⟩
        rw [flies]
        rfl
      | false =>
        simp only [Bool.false_eq_true, ↓reduceIte]
        refine ⟨?_, landed _ rfl, List.length_set.trans playbacks, limit, small, fast⟩
        rw [Tallied.stats, UInt32.ofNat_add]
        exact congrArg (fun stats : Stats => { stats with playbackFailures := stats.playbackFailures + 1 }) counted

end Engine

/-- The code's counters are those of what happened, modulo 2³². -/
structure Counts (maxPacketBytes : Nat) (counted : Counted σ) (tallied : Tallied) : Prop where
  engine : Tallies maxPacketBytes counted.engine tallied
  running : counted.running = tallied.running
  captureTransfers : counted.captureTransfers = UInt32.ofNat tallied.captureTransfers
  captureFailures : counted.captureFailures = UInt32.ofNat tallied.captureFailures
  playbackTransfers : counted.playbackTransfers = UInt32.ofNat tallied.playbackTransfers

namespace Counts
variable {σ : Type} {frames : Frames σ} {counted after : Counted σ} {tallied : Tallied} {maxPacketBytes : Nat}

theorem snapshot (counts : Counts maxPacketBytes counted tallied) : counted.snapshot = tallied.snapshot := by
  rw [Counted.snapshot, counts.engine.stats, counts.captureTransfers, counts.captureFailures, counts.playbackTransfers]
  rfl

theorem captured (counts : Counts maxPacketBytes counted tallied) {results : Vector (UInt32 × Int) packetsPerTransfer}
    {buffer : Buffer} {qpc : UInt64} {sent resubmitted : Bool}
    (ran : counted.captureComplete frames results buffer qpc sent resubmitted = some after) :
    Counts maxPacketBytes after (tallied.next maxPacketBytes (.captured results buffer qpc sent resubmitted)) := by
  obtain ⟨⟨stats, flying, playbacks, limit, small, fast⟩, running, captureTransfers, captureFailures, playbackTransfers⟩ := counts
  have one : counted.captureTransfers + 1 = UInt32.ofNat (tallied.captureTransfers + 1) := by
    rw [captureTransfers, UInt32.ofNat_add]
    rfl
  rw [Counted.captureComplete] at ran
  rw [Tallied.next]
  dsimp only
  cases streams : counted.running with
  | false =>
    simp only [streams, Bool.false_eq_true, ↓reduceIte] at ran
    cases ran
    rw [if_neg (ne_true_of_eq_false (running.symm.trans streams))]
    exact ⟨⟨stats, flying, playbacks, limit, small, fast⟩, streams.symm.trans running, one, captureFailures, playbackTransfers⟩
  | true =>
    simp only [streams, ↓reduceIte] at ran
    obtain ⟨engine, answered, ran⟩ := Option.bind_eq_some_iff.mp ran
    have noted : Tallies maxPacketBytes counted.engine { tallied with captureTransfers := tallied.captureTransfers + 1 } :=
      ⟨stats, flying, playbacks, limit, small, fast⟩
    have tallies := @Tallies.answer _ frames counted.engine engine maxPacketBytes _ noted results buffer 0 qpc qpc sent answered
    obtain ⟨kept, transfers, failures, played⟩ := Tallied.answer_keeps maxPacketBytes (arrivals 0 results buffer qpc) sent
      { tallied with captureTransfers := tallied.captureTransfers + 1 }
    rw [if_pos (running.symm.trans streams)]
    cases resubmitted with
    | true =>
      cases ran
      refine ⟨tallies, ?_, ?_, ?_, ?_⟩
      · exact (streams.symm.trans running).trans kept.symm
      · exact one.trans (congrArg UInt32.ofNat transfers.symm)
      · exact captureFailures.trans (congrArg UInt32.ofNat failures.symm)
      · exact playbackTransfers.trans (congrArg UInt32.ofNat played.symm)
    | false =>
      cases ran
      refine ⟨⟨tallies.stats, tallies.flying, tallies.playbacks, tallies.limit, tallies.small, tallies.fast⟩, ?_, ?_, ?_, ?_⟩
      · exact (streams.symm.trans running).trans kept.symm
      · exact one.trans (congrArg UInt32.ofNat transfers.symm)
      · simp only [Bool.false_eq_true, ↓reduceIte, failures, captureFailures, UInt32.ofNat_add]
        rfl
      · exact playbackTransfers.trans (congrArg UInt32.ofNat played.symm)

theorem returned (counts : Counts maxPacketBytes counted tallied) {index : Nat} {success : Bool} (flies : counted.flies index = true)
    (ran : counted.playbackComplete frames index success = some after) :
    Counts maxPacketBytes after (tallied.next maxPacketBytes (if success then .played index else .playbackFailed index)) := by
  obtain ⟨⟨stats, flying, playbacks, limit, small, fast⟩, running, captureTransfers, captureFailures, playbackTransfers⟩ := counts
  obtain ⟨transfer, found, busy⟩ := (Option.any_eq_true _ _).mp flies
  have set : counted.engine.playbacks.modify index ({ · with busy := false }) =
      counted.engine.playbacks.set index { transfer with busy := false } := by
    rw [List.modify_eq_set_getElem?, found]
    rfl
  have landed : (counted.engine.playbacks.modify index ({ · with busy := false })).countP (·.busy) = tallied.flying - 1 := by
    have changed := countP_busy found { transfer with busy := false }
    rw [busy, flying] at changed
    rw [set]
    exact Nat.eq_sub_of_add_eq changed
  have length : (counted.engine.playbacks.modify index ({ · with busy := false })).length = transfers := by
    rw [set, List.length_set]
    exact playbacks
  cases success with
  | true =>
    cases ran
    refine ⟨⟨stats, landed, length, limit, small, fast⟩, running, captureTransfers, captureFailures, ?_⟩
    exact (congrArg (· + 1) playbackTransfers).trans (UInt32.ofNat_add _ 1).symm
  | false =>
    cases ran
    have failed : { counted.engine.stats with playbackFailures := counted.engine.stats.playbackFailures + 1 } =
        { tallied with playbackFailures := tallied.playbackFailures + 1, flying := tallied.flying - 1 }.stats := by
      rw [stats, Tallied.stats, Tallied.stats, UInt32.ofNat_add]
      rfl
    exact ⟨⟨failed, landed, length, limit, small, fast⟩, running, captureTransfers, captureFailures, playbackTransfers⟩

theorem step {event : Counted.Event} (counts : Counts maxPacketBytes counted tallied) (stepped : counted.step frames event = some after) :
    Counts maxPacketBytes after (tallied.next maxPacketBytes event) := by
  cases event with
  | captured results buffer qpc sent resubmitted => exact counts.captured stepped
  | captureFailed =>
    cases stepped
    obtain ⟨⟨stats, flying, playbacks, limit, small, fast⟩, running, captureTransfers, captureFailures, playbackTransfers⟩ := counts
    refine ⟨⟨stats, flying, playbacks, limit, small, fast⟩, running, captureTransfers, ?_, playbackTransfers⟩
    exact (congrArg (· + 1) captureFailures).trans (UInt32.ofNat_add _ 1).symm
  | played index =>
    rw [Counted.step] at stepped
    split at stepped
    next flies => exact counts.returned flies stepped
    next => cases stepped
  | playbackFailed index =>
    rw [Counted.step] at stepped
    split at stepped
    next flies => exact counts.returned flies stepped
    next => cases stepped
  | lowered =>
    cases stepped
    obtain ⟨⟨stats, flying, playbacks, limit, small, fast⟩, _, captureTransfers, captureFailures, playbackTransfers⟩ := counts
    exact ⟨⟨stats, flying, playbacks, limit, small, fast⟩, rfl, captureTransfers, captureFailures, playbackTransfers⟩

theorem start (rate : SampleRate) (spec : DeviceSpec) (qpcPerMicroframe : UInt64) (audio : σ) :
    Counts (spec.maxPacketBytes rate)
      { engine := Engine.start rate (spec.maxPacketBytes rate) qpcPerMicroframe audio } {} := by
  have fast : microframesPerSecond ≤ rate.hz := by
    cases rate <;> decide
  refine ⟨⟨rfl, ?_, List.length_replicate, rfl, spec.maxPacketBytes_le rate, fast⟩, rfl, rfl, rfl, rfl⟩
  apply List.countP_eq_zero.mpr
  intro transfer member
  rw [List.eq_of_mem_replicate member]
  exact Bool.false_ne_true

end Counts

/-- What has happened to an engine that saw these events. -/
def tallied (maxPacketBytes : Nat) (events : List Counted.Event) : Tallied := events.foldl (Tallied.next maxPacketBytes) {}

namespace Streamed

def tallied (streamed : Streamed) : Tallied := Driver.tallied streamed.maxPacketBytes streamed.events

/-- The stream moved audio, and the key was in reach at its end. -/
def kept (streamed : Streamed) : Bool := streamed.reached && streamed.tallied.captureTransfers % 2 ^ 32 != 0

/-- What the panel says of a stream. -/
def shown (streamed : Streamed) : LastStream :=
  { captureTransfers := UInt32.ofNat streamed.tallied.captureTransfers
    lostPackets := UInt32.ofNat streamed.tallied.invalidPackets
    checkErrors := UInt32.ofNat streamed.tallied.checkErrors
    overruns := UInt32.ofNat streamed.tallied.playbackOverruns }

end Streamed

theorem word_decoded (word : UInt32) : UInt32.ofNat (decode (encode 4 word.toNat)) = word := by
  rw [decode_encode, Nat.mod_eq_of_lt (show word.toNat < 256 ^ 4 from word.toNat_lt), UInt32.ofNat_toNat]

/-- The panel finds the counters where the driver put them. -/
theorem lastStream_toBytes (snapshot : Snapshot) : lastStream (some snapshot.toBytes) = some
    { captureTransfers := snapshot.captureTransfers, lostPackets := snapshot.invalidPackets
      checkErrors := snapshot.checkErrors, overruns := snapshot.playbackOverruns } := by
  have size : readValue 36 (some snapshot.toBytes) = some snapshot.toBytes := rfl
  have transfers : (snapshot.toBytes.drop (4 * 0)).take 4 = encode 4 snapshot.captureTransfers.toNat := rfl
  have errors : (snapshot.toBytes.drop (4 * 3)).take 4 = encode 4 snapshot.checkErrors.toNat := rfl
  have overruns : (snapshot.toBytes.drop (4 * 7)).take 4 = encode 4 snapshot.playbackOverruns.toNat := rfl
  have invalid : (snapshot.toBytes.drop (4 * 8)).take 4 = encode 4 snapshot.invalidPackets.toNat := rfl
  rw [lastStream, size, Option.map_some]
  simp only [transfers, errors, overruns, invalid, word_decoded]

namespace Reporting
variable {σ : Type} {frames : Frames σ} {reporting after : Reporting σ} {initial : Option (List UInt8)}

/-- The value is that of the last stream that was kept. -/
structure Faithful (initial : Option (List UInt8)) (reporting : Reporting σ) : Prop where
  counts : ∀ counted, reporting.counted = some counted → Counts counted.engine.maxPacketBytes counted
    (tallied counted.engine.maxPacketBytes reporting.events)
  shown : lastStream reporting.value = ((reporting.past.filter Streamed.kept).getLast?.map Streamed.shown).or (lastStream initial)

theorem Faithful.engine {event : Counted.Event} (faithful : reporting.Faithful initial)
    (stepped : reporting.step frames (.engine event) = some after) : after.Faithful initial := by
  obtain ⟨counted, here, rest⟩ := Option.bind_eq_some_iff.mp stepped
  obtain ⟨next, moved, rest⟩ := Option.bind_eq_some_iff.mp rest
  cases rest
  refine ⟨?_, faithful.shown⟩
  intro other same
  cases same
  have counts := (faithful.counts counted here).step moved
  rw [counts.engine.limit, tallied, List.foldl_append]
  exact counts

theorem Faithful.stopped {reached : Bool} (faithful : reporting.Faithful initial)
    (stepped : reporting.step frames (.stopped reached) = some after) : after.Faithful initial := by
  obtain ⟨counted, here, rest⟩ := Option.bind_eq_some_iff.mp stepped
  split at rest
  next => cases rest
  next =>
    cases rest
    have snapshot := (faithful.counts counted here).snapshot
    refine ⟨?_, ?_⟩
    · intro other impossible
      cases impossible
    · rw [snapshot, recordStreamStats, List.filter_append]
      have idle : (tallied counted.engine.maxPacketBytes reporting.events).snapshot.captureTransfers = 0 ↔
          (tallied counted.engine.maxPacketBytes reporting.events).captureTransfers % 2 ^ 32 = 0 :=
        UInt32.ofNat_eq_iff_mod_eq_toNat _ 0
      generalize streamIs : Streamed.mk counted.engine.maxPacketBytes reporting.events reached = stream
      have told : stream.kept = (reached &&
          (tallied counted.engine.maxPacketBytes reporting.events).captureTransfers % 2 ^ 32 != 0) := by
        rw [← streamIs]
        rfl
      by_cases silent : (tallied counted.engine.maxPacketBytes reporting.events).captureTransfers % 2 ^ 32 = 0
      · rw [if_pos (idle.mpr silent)]
        rw [silent, bne_self_eq_false, Bool.and_false] at told
        rw [List.filter_singleton, told, cond_false, List.append_nil]
        exact faithful.shown
      · rw [if_neg (mt idle.mp silent)]
        rw [bne_iff_ne.mpr silent, Bool.and_true] at told
        cases reached with
        | false =>
          rw [List.filter_singleton, told, cond_false, List.append_nil]
          exact faithful.shown
        | true =>
          rw [List.filter_singleton, told, cond_true, List.getLast?_concat, ← streamIs]
          exact lastStream_toBytes _

theorem Faithful.step {event : Event σ} (faithful : reporting.Faithful initial) (stepped : reporting.step frames event = some after) :
    after.Faithful initial := by
  cases event with
  | started rate spec qpcPerMicroframe audio =>
    rw [Reporting.step] at stepped
    split at stepped
    next => cases stepped
    next =>
      cases stepped
      refine ⟨?_, faithful.shown⟩
      intro counted same
      cases same
      exact Counts.start rate spec qpcPerMicroframe audio
  | engine event => exact faithful.engine stepped
  | stopped reached => exact faithful.stopped stepped

def noFrames : Frames Unit := ⟨fun _ _ => (), fun _ _ => (), fun _ => (silence, ())⟩

/-- A stream of one transfer, whose first packet is lost, and one without any. -/
def twoStreams : List (Event Unit) :=
  [.started .hz48000 ⟨4, 2, 0, 0, 2⟩ 1 (),
    .engine (.captured ((Vector.replicate _ (0, 0)).set 0 (0, -1)) .zero 0 true true), .engine (.played 0), .engine .lowered,
    .stopped true, .started .hz96000 ⟨4, 2, 0, 0, 2⟩ 1 (), .engine .lowered, .stopped true]

end Reporting
end Ak1Driver.Driver
