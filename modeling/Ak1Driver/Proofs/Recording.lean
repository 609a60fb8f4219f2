import Ak1Driver.Proofs.Notification
import Ak1Driver.Proofs.PacketRing
import Ak1Driver.Proofs.Saturation

/-! A client that records. The ring keeps the newest frames, so the packets
that the stream completed stay as they were recorded until their places are
needed again. -/

namespace Ak1Driver.Driver
open Proto Proto.Mode2 Lib.Loop Lib.Pages Lib.Transition

namespace RtStream
variable {count packetBytes : Nat} {stream : RtStream}

theorem writeLe_byte (buffers : Packets) (index offset count : Nat) (value : Int) (other place : Nat) :
    writeLe buffers index offset count value other place =
      if other = index ∧ offset ≤ place ∧ place < offset + count then UInt8.ofNat (bits32 value / 256 ^ (place - offset))
      else buffers other place := by
  induction count with
  | zero =>
    have none : ¬ (other = index ∧ offset ≤ place ∧ place < offset + 0) := by omega
    rw [if_neg none]
    rfl
  | succ count ih =>
    rw [writeLe, List.range_succ, List.foldl_append, List.foldl_cons, List.foldl_nil, ← writeLe, writeByte]
    by_cases same : other = index
    · subst same
      rw [Function.update_self]
      by_cases last : place = offset + count
      · subst last
        rw [Function.update_self, Nat.add_sub_cancel_left, if_pos ⟨rfl, Nat.le_add_right _ _, Nat.lt_succ_self _⟩]
      · rw [Function.update_of_ne last, ih]
        exact if_congr (by omega) rfl rfl
    · rw [Function.update_of_ne same, ih, if_neg fun member => same member.1, if_neg fun member => same member.1]

/-- The value that a container of a sample holds. -/
def containerValue (containerBytes : Nat) (sample : Int) : Int := if containerBytes = 2 then sample / 2 ^ 8 else sample * 2 ^ 8

/-- A sample is read back as the container keeps it. -/
theorem sampleAt_value {containerBytes : Nat} (container : containerBytes = 2 ∨ containerBytes = 4) {sample : Int}
    (fits : Fits24 sample) :
    (sampleAt containerBytes fun place => UInt8.ofNat (bits32 (containerValue containerBytes sample) / 256 ^ place)) =
      contain containerBytes sample := by
  obtain ⟨least, most⟩ := fits
  rcases container with rfl | rfl
  · rw [sampleAt, containerValue, contain, if_pos rfl, if_pos rfl, if_pos rfl]
    congr 1
    simp only [fromLeBytes, List.foldr_cons, List.foldr_nil, UInt8.toNat_ofNat', bits32, signed16]
    omega
  · have wide : (4 : Nat) ≠ 2 := by omega
    rw [sampleAt, containerValue, contain, if_neg wide, if_neg wide, if_neg wide]
    simp only [fromLeBytes, List.foldr_cons, List.foldr_nil, UInt8.toNat_ofNat', bits32, signed32]
    omega

theorem writeSample_eq (stream : RtStream) (index offset : Nat) (sample : Int)
    (container : stream.containerBytes = 2 ∨ stream.containerBytes = 4) :
    stream.writeSample index offset sample = { stream with ring := { stream.ring with
      buffers := writeLe stream.ring.buffers index offset stream.containerBytes (containerValue stream.containerBytes sample) } } := by
  rcases container with two | four
  · rw [writeSample, containerValue, if_pos two, if_pos two, two]
  · have wide : stream.containerBytes ≠ 2 := by omega
    rw [writeSample, containerValue, if_neg wide, if_neg wide, four]

/-- Where the bytes of the next frame begin in its packet. -/
def place (packetBytes : Nat) (stream : RtStream) : Nat :=
  stream.cursor.frames % (packetBytes / (2 * stream.containerBytes)) * (2 * stream.containerBytes)

/-- The stream with a frame stored in a packet. -/
def storing (packetBytes index : Nat) (stream : RtStream) (samples : Frame 2) : RtStream :=
  let first := stream.base index + stream.place packetBytes
  let left := writeLe stream.ring.buffers index first stream.containerBytes (containerValue stream.containerBytes (samples.get ⟨0, Nat.zero_lt_two⟩))
  { stream with ring := { stream.ring with
    buffers := writeLe left index (first + stream.containerBytes) stream.containerBytes
      (containerValue stream.containerBytes (samples.get ⟨1, Nat.one_lt_two⟩)) } }

/-- A byte of a container's value. -/
def byteOf (containerBytes : Nat) (sample : Int) (place : Nat) : UInt8 :=
  UInt8.ofNat (bits32 (containerValue containerBytes sample) / 256 ^ place)

theorem storing_byte (stream : RtStream) (index : Nat) (samples : Frame 2) (other : Nat) {place : Nat} (inside : place < packetBytes) :
    ((stream.storing packetBytes index samples).packet packetBytes other)[place]?.getD 0 =
      if other = index ∧ stream.place packetBytes + stream.containerBytes ≤ place ∧
          place < stream.place packetBytes + stream.containerBytes + stream.containerBytes then
        byteOf stream.containerBytes samples[1] (place - (stream.place packetBytes + stream.containerBytes))
      else if other = index ∧ stream.place packetBytes ≤ place ∧ place < stream.place packetBytes + stream.containerBytes then
        byteOf stream.containerBytes samples[0] (place - stream.place packetBytes)
      else (stream.packet packetBytes other)[place]?.getD 0 := by
  rw [packet_byte _ _ inside, packet_byte _ _ inside]
  have base : (stream.storing packetBytes index samples).base other = stream.base other := rfl
  rw [base, storing]
  dsimp only
  rw [writeLe_byte, writeLe_byte]
  by_cases same : other = index
  · subst same
    rw [Nat.add_assoc (stream.base other), Nat.add_assoc (stream.base other)]
    simp only [Nat.add_le_add_iff_left, Nat.add_lt_add_iff_left, Nat.add_sub_add_left, byteOf]
    rfl
  · simp only [same, false_and, if_false]

theorem captureFrame_eq (ringed : Ringed count packetBytes stream) (samples : Frame 2) (qpc : UInt64) :
    stream.captureFrame samples qpc =
      advance { stream.storing packetBytes (stream.underway % count) samples with moved := stream.moved + 1 } qpc := by
  have ringed' : Ringed count packetBytes { stream with moved := stream.moved + 1 } := ringed.kept rfl rfl rfl
  have bytes := frameBytes_ringed ringed'
  have first := writeSample_eq { stream with moved := stream.moved + 1 } (stream.underway % count)
    (stream.base (stream.underway % count) + stream.place packetBytes) samples[0] ringed.container
  have second := writeSample_eq (writeSample { stream with moved := stream.moved + 1 } (stream.underway % count)
    (stream.base (stream.underway % count) + stream.place packetBytes) samples[0]) (stream.underway % count)
    (stream.base (stream.underway % count) + stream.place packetBytes + stream.containerBytes) samples[1]
  rw [first] at second
  simp only [captureFrame, bytes]
  apply congrArg (advance · qpc)
  apply Eq.trans (congrArg (writeSample · _ _ _) first)
  exact second ringed.container

theorem captureFrame_stores (ringed : Ringed count packetBytes stream) (samples : Frame 2) (qpc : UInt64) :
    (stream.captureFrame samples qpc).ring = (stream.storing packetBytes (stream.underway % count) samples).ring ∧
      (stream.captureFrame samples qpc).containerBytes = stream.containerBytes ∧
      (stream.captureFrame samples qpc).cursor.frames = stream.cursor.frames + 1 := by
  rw [captureFrame_eq ringed]
  obtain ⟨_, ring, _, _, frames⟩ := advance_kept
    { stream.storing packetBytes (stream.underway % count) samples with moved := stream.moved + 1 } qpc
  exact ⟨ring, advance_container _ _, frames⟩

/-- Where a frame is in the ring when its cells are counted through all packets. -/
def cell (packetBytes : Nat) (stream : RtStream) (number : Nat) : Frame 2 :=
  let framesPerPacket := packetBytes / (2 * stream.containerBytes)
  frameAt stream.containerBytes (stream.packet packetBytes (number / framesPerPacket)) (number % framesPerPacket)

theorem cell_after (ringed : Ringed count packetBytes stream) (samples : Frame 2) (qpc : UInt64) (number : Nat) :
    (stream.captureFrame samples qpc).cell packetBytes number =
      (stream.storing packetBytes (stream.underway % count) samples).cell packetBytes number := by
  obtain ⟨ring, container, _⟩ := captureFrame_stores ringed samples qpc
  have format : (stream.storing packetBytes (stream.underway % count) samples).containerBytes = stream.containerBytes := rfl
  simp only [cell, packet, base, ring, container, format]

/-- A frame stored is read back as its container keeps it. -/
theorem stored_here (ringed : Ringed count packetBytes stream) {samples : Frame 2} (fits : FrameFits24 samples) (qpc : UInt64) :
    (stream.captureFrame samples qpc).cell packetBytes
        (stream.cursor.frames % (packetBytes / (2 * stream.containerBytes) * count)) =
      samples.map (contain stream.containerBytes) := by
  have index : stream.cursor.frames / (packetBytes / (2 * stream.containerBytes)) = stream.underway := by
    rw [underway, ringed.perPacket]
  have format : (stream.storing packetBytes (stream.underway % count) samples).containerBytes = stream.containerBytes := rfl
  rw [cell_after ringed, cell, format, Nat.mod_mul_right_div_self, Nat.mod_mul_right_mod, index]
  have first : (sampleAt stream.containerBytes fun place =>
      ((stream.storing packetBytes (stream.underway % count) samples).packet packetBytes (stream.underway % count))[
        stream.place packetBytes + place]?.getD 0) = contain stream.containerBytes samples[0] := by
    rw [← sampleAt_value ringed.container (fits 0 (by omega))]
    apply sampleAt_congr ringed.container
    intro place within
    have inside : stream.place packetBytes + place < packetBytes := ringed.inside stream.cursor.frames (by omega)
    rw [storing_byte _ _ _ _ inside, if_neg (by omega), if_pos (by omega), Nat.add_sub_cancel_left]
    rfl
  have second : (sampleAt stream.containerBytes fun place =>
      ((stream.storing packetBytes (stream.underway % count) samples).packet packetBytes (stream.underway % count))[
        stream.place packetBytes + (stream.containerBytes + place)]?.getD 0) = contain stream.containerBytes samples[1] := by
    rw [← sampleAt_value ringed.container (fits 1 (by omega))]
    apply sampleAt_congr ringed.container
    intro place within
    have inside : stream.place packetBytes + (stream.containerBytes + place) < packetBytes :=
      ringed.inside stream.cursor.frames (by omega)
    rw [storing_byte _ _ _ _ inside, if_pos (by omega), ← Nat.add_assoc, Nat.add_sub_cancel_left]
    rfl
  apply Vector.ext
  intro channel inside
  have either : channel = 0 ∨ channel = 1 := by omega
  rw [Vector.getElem_map]
  rcases either with rfl | rfl
  · exact first
  · exact second

/-- The other frames of the ring stay as they are. -/
theorem stored_elsewhere (ringed : Ringed count packetBytes stream) (samples : Frame 2) (qpc : UInt64) {number : Nat}
    (other : number ≠ stream.cursor.frames % (packetBytes / (2 * stream.containerBytes) * count)) :
    (stream.captureFrame samples qpc).cell packetBytes number = stream.cell packetBytes number := by
  have index : stream.cursor.frames / (packetBytes / (2 * stream.containerBytes)) = stream.underway := by
    rw [underway, ringed.perPacket]
  have format : (stream.storing packetBytes (stream.underway % count) samples).containerBytes = stream.containerBytes := rfl
  -- Two cells of one packet are told apart by their offsets in it.
  have apart : number / (packetBytes / (2 * stream.containerBytes)) = stream.underway % count →
      number % (packetBytes / (2 * stream.containerBytes)) ≠ stream.cursor.frames % (packetBytes / (2 * stream.containerBytes)) := by
    intro packet offset
    apply other
    rw [← Nat.div_add_mod number (packetBytes / (2 * stream.containerBytes)), packet, offset, ← index, Nat.mod_mul, Nat.add_comm]
  have byte {place : Nat} (within : place < 2 * stream.containerBytes) :
      ((stream.storing packetBytes (stream.underway % count) samples).packet packetBytes
          (number / (packetBytes / (2 * stream.containerBytes))))[
        number % (packetBytes / (2 * stream.containerBytes)) * (2 * stream.containerBytes) + place]?.getD 0 =
      (stream.packet packetBytes (number / (packetBytes / (2 * stream.containerBytes))))[
        number % (packetBytes / (2 * stream.containerBytes)) * (2 * stream.containerBytes) + place]?.getD 0 := by
    rw [storing_byte _ _ _ _ (ringed.inside number within)]
    have outside : number / (packetBytes / (2 * stream.containerBytes)) = stream.underway % count →
        number % (packetBytes / (2 * stream.containerBytes)) * (2 * stream.containerBytes) + place < stream.place packetBytes ∨
          stream.place packetBytes + stream.containerBytes + stream.containerBytes ≤
            number % (packetBytes / (2 * stream.containerBytes)) * (2 * stream.containerBytes) + place := by
      intro same
      rw [RtStream.place]
      rcases Nat.lt_or_gt_of_ne (apart same) with before | after
      · have room := Nat.mul_le_mul_right (2 * stream.containerBytes) (Nat.succ_le_of_lt before)
        rw [Nat.succ_mul] at room
        omega
      · have room := Nat.mul_le_mul_right (2 * stream.containerBytes) (Nat.succ_le_of_lt after)
        rw [Nat.succ_mul] at room
        omega
    rw [if_neg, if_neg]
    · rintro ⟨same, least, most⟩
      have := outside same
      omega
    · rintro ⟨same, least, most⟩
      have := outside same
      omega
  rw [cell_after ringed, cell, cell, format]
  apply congrArg₂ fun left right => #v[left, right]
  · apply sampleAt_congr ringed.container
    intro place within
    exact byte (by omega)
  · apply sampleAt_congr ringed.container
    intro place within
    exact byte (by omega)

/-- The ring holds the newest of the frames stored since the stream's reset. -/
structure Holding (count packetBytes : Nat) (frames : List (Frame 2)) (stream : RtStream) : Prop
    extends Ringed count packetBytes stream where
  counted : stream.cursor.frames = frames.length
  recent : Recent (packetBytes / (2 * stream.containerBytes) * count)
    (frames.map fun frame => frame.map (contain stream.containerBytes)) (stream.cell packetBytes)
  current : stream.currentPacket = UInt32.ofNat stream.underway

namespace Holding
variable {frames : List (Frame 2)} {after : RtStream}

theorem start (ringed : Ringed count packetBytes stream) : Holding count packetBytes [] stream.reset := by
  refine ⟨ringed.kept rfl rfl rfl, rfl, .start _, ?_⟩
  have first : stream.reset.underway = 0 := Nat.zero_div _
  rw [first]
  rfl

theorem current_after (ringed : Ringed count packetBytes stream) (current : stream.currentPacket = UInt32.ofNat stream.underway)
    (qpc : UInt64) : (stream.advance qpc).currentPacket = UInt32.ofNat (stream.advance qpc).underway := by
  have allocated : stream.ring.count ≠ 0 := by
    rw [ringed.held]
    exact Nat.ne_of_gt ringed.positive
  have same : (stream.advance qpc).underway = (stream.cursor.frames + 1) / stream.framesPerPacket := by
    obtain ⟨_, ring, _, _, frames⟩ := advance_kept stream qpc
    rw [underway, framesPerPacket, blockAlign, ring, advance_container, frames]
    rfl
  rw [same, advance_allocated allocated]
  by_cases finished : (stream.cursor.frames + 1) % stream.framesPerPacket = 0
  · have next := Nat.succ_div_of_mod_eq_zero finished
    simp only [if_pos finished, next, Nat.add_sub_cancel]
  · have next := Nat.succ_div_of_mod_ne_zero finished
    simp only [if_neg finished, next]
    exact current

theorem capture (holding : Holding count packetBytes frames stream) {samples : Frame 2} (fits : FrameFits24 samples) (qpc : UInt64) :
    Holding count packetBytes (frames ++ [samples]) (stream.captureFrame samples qpc) := by
  have ringed := holding.toRinged
  obtain ⟨ring, container, moved⟩ := captureFrame_stores ringed samples qpc
  obtain ⟨positive, _⟩ := ringed.frames
  refine ⟨ringed.kept ?_ ?_ container, ?_, ?_, ?_⟩
  · rw [ring]
    rfl
  · rw [ring]
    rfl
  · rw [moved, holding.counted, List.length_append, List.length_singleton]
  · rw [container, List.map_append, List.map_singleton]
    apply holding.recent.store (Nat.mul_pos positive ringed.positive)
    · rw [List.length_map, ← holding.counted]
      exact stored_here ringed fits qpc
    · intro number _ other
      rw [List.length_map, ← holding.counted] at other
      exact stored_elsewhere ringed samples qpc other
  · rw [captureFrame_eq ringed]
    have storing : Ringed count packetBytes
        { stream.storing packetBytes (stream.underway % count) samples with moved := stream.moved + 1 } := ringed.kept rfl rfl rfl
    exact current_after storing holding.current qpc

theorem captures (holding : Holding count packetBytes frames stream) {more : List (Frame 2)} (fits : ∀ frame ∈ more, FrameFits24 frame)
    (qpc : UInt64) :
    Holding count packetBytes (frames ++ more) (more.foldl (fun stream frame => stream.captureFrame frame qpc) stream) ∧
      (more.foldl (fun stream frame => stream.captureFrame frame qpc) stream).containerBytes = stream.containerBytes := by
  induction more generalizing frames stream with
  | nil =>
    rw [List.append_nil]
    exact ⟨holding, rfl⟩
  | cons frame more ih =>
    obtain ⟨first, rest⟩ := List.forall_mem_cons.mp fits
    obtain ⟨all, container⟩ := ih (holding.capture first qpc) rest
    rw [List.append_assoc] at all
    exact ⟨all, container.trans (captureFrame_stores holding.toRinged frame qpc).2.1⟩

end Holding
end RtStream

namespace Recorder
variable {kernel : Kernel} {card rate : SampleRate} {containerBytes count packetBytes : Nat} {recorder after : Recorder}
  {frames : List (Frame 2)}

/-- The card's frames at a stream's rate: as they are, or what a fresh resampler
makes of them. -/
def Converts (kernel : Kernel) (rate card : SampleRate) (captured frames : List (Frame 2)) : Prop :=
  if rate.hz = card.hz then frames = captured
  else ∃ pieces resampler, Resampler.convert kernel captureTurns captured (.new card.hz rate.hz) = some (pieces, resampler) ∧
    frames = pieces.flatten

/-- The resampler that the next captured frame goes into, which the stream may have yet to reset. -/
structure Takes (kernel : Kernel) (rate card : SampleRate) (captured frames : List (Frame 2)) (stream : RtStream)
    (resampler : Resampler 2) : Prop where
  rates : resampler.rates = (card.hz, rate.hz)
  converted : ∃ pieces, Resampler.convert kernel captureTurns captured (.new card.hz rate.hz) = some (pieces, resampler) ∧
    frames = pieces.flatten
  next : stream.resampler = resampler ∨ (stream.resampler.rates ≠ (card.hz, rate.hz) ∧ resampler = .new card.hz rate.hz)

theorem Takes.capture {captured : List (Frame 2)} {stream : RtStream} {resampler : Resampler 2}
    (takes : Takes kernel rate card captured frames stream resampler) (differ : rate.hz ≠ card.hz) (atRate : stream.rate = rate)
    (fuel : Nat) (samples : Frame 2) (qpc : UInt64) :
    stream.capture kernel fuel samples card.hz qpc =
      loop (RtStream.captureTurn kernel qpc) fuel { stream with resampler := resampler.push samples } := by
  subst atRate
  rcases takes.next with same | ⟨other, fresh⟩
  · have rates := takes.rates
    rw [← same] at rates ⊢
    exact RtStream.capture_set kernel stream differ rates fuel samples qpc
  · rw [RtStream.capture_fresh kernel differ other, fresh]
    exact RtStream.capture_set kernel { stream with resampler := .new card.hz stream.rate.hz } differ rfl fuel samples qpc

structure Recording (kernel : Kernel) (rate card : SampleRate) (containerBytes count packetBytes : Nat) (frames : List (Frame 2))
    (recorder : Recorder) : Prop where
  holding : recorder.stream.Holding count packetBytes frames
  atRate : recorder.stream.rate = rate
  format : recorder.stream.containerBytes = containerBytes
  can : recorder.stream.CanCapture
  direct : rate.hz = card.hz → frames = recorder.captured
  converted : rate.hz ≠ card.hz → ∃ resampler, Takes kernel rate card recorder.captured frames recorder.stream resampler

theorem start_recording {stream : RtStream} (ringed : Ringed count packetBytes stream) :
    Recording kernel stream.rate card stream.containerBytes count packetBytes [] (start stream) := by
  refine ⟨.start ringed, rfl, rfl, RtStream.reset_canCapture stream, fun _ => rfl, ?_⟩
  intro _
  refine ⟨.new card.hz stream.rate.hz, rfl, ⟨[], rfl, rfl⟩, .inr ⟨?_, rfl⟩⟩
  intro set
  exact Nat.ne_of_lt (RtStream.hz_positive card) (congrArg Prod.fst set)

theorem drain_fits {fuel : Nat} {resampler last : Resampler 2} {drained : List (Frame 2)}
    (taken : Resampler.drain kernel fuel resampler = some (drained, last)) : ∀ frame ∈ drained, FrameFits24 frame := by
  induction fuel generalizing resampler drained with
  | zero => cases taken
  | succ fuel ih =>
    rw [Resampler.drain] at taken
    split at taken
    next frame next popped =>
      obtain ⟨⟨rest, final⟩, further, same⟩ := Option.map_eq_some_iff.mp taken
      cases same
      exact List.forall_mem_cons.mpr ⟨Proofs.NoOverflow.pop_fits _ (congrArg Prod.fst popped), ih further⟩
    next =>
      cases taken
      exact List.forall_mem_nil _

/-- Every captured frame is taken; what it makes is stored behind the frames before. -/
theorem step_recording (recording : Recording kernel rate card containerBytes count packetBytes frames recorder)
    {event : Frame 2 × UInt64} (fits : FrameFits24 event.1) :
    ∃ after more, recorder.step kernel card event = some after ∧ after.captured = recorder.captured ++ [event.1] ∧
      Recording kernel rate card containerBytes count packetBytes (frames ++ more) after := by
  obtain ⟨samples, qpc⟩ := event
  have enough : 200 ≤ captureTurns := Nat.le_add_right 200 312
  obtain ⟨stream, captured, can⟩ := recording.can.capture kernel card enough samples qpc
  have stepped : recorder.step kernel card (samples, qpc) =
      some { recorder with stream, captured := recorder.captured ++ [samples] } := by
    rw [step, captured]
    rfl
  by_cases equal : rate.hz = card.hz
  · have here : recorder.stream.rate.hz = card.hz := by
      rw [recording.atRate]
      exact equal
    rw [RtStream.capture, if_pos here] at captured
    cases Option.some.inj captured
    obtain ⟨moved, _⟩ := RtStream.captureFrame_moved recorder.stream samples qpc
    have container := (RtStream.captureFrame_stores recording.holding.toRinged samples qpc).2.1
    refine ⟨_, [samples], stepped, rfl, recording.holding.capture fits qpc, moved.rate.trans recording.atRate,
      container.trans recording.format, can, ?_, absurd equal⟩
    intro _
    exact congrArg (· ++ [samples]) (recording.direct equal)
  · obtain ⟨resampler, takes⟩ := recording.converted equal
    have looped := (takes.capture equal recording.atRate captureTurns samples qpc).symm.trans captured
    obtain ⟨more, next, drained, stored⟩ := RtStream.captureTurn_drains kernel qpc looped
    have rates := Resampler.drain_rates drained
    obtain ⟨pieces, converted, flat⟩ := takes.converted
    obtain ⟨holding, container⟩ := recording.holding.captures (drain_fits drained) qpc
    have atRate := RtStream.storeFrames_rate qpc more recorder.stream
    subst stored
    refine ⟨_, more, stepped, rfl, ⟨holding.toRinged.kept rfl rfl rfl, holding.counted, holding.recent, holding.current⟩,
      atRate.trans recording.atRate, container.trans recording.format, can, fun same => absurd same equal, ?_⟩
    intro _
    refine ⟨next, rates.trans takes.rates, ⟨pieces ++ [more], Resampler.convert_concat converted drained, ?_⟩, .inl rfl⟩
    rw [List.flatten_append, List.flatten_singleton, flat]

/-- By induction on the run. -/
theorem run_recording (recording : Recording kernel rate card containerBytes count packetBytes frames recorder)
    {events : List (Frame 2 × UInt64)} (fits : ∀ event ∈ events, FrameFits24 event.1) :
    ∃ after more, run (step kernel card) recorder events = some after ∧
      after.captured = recorder.captured ++ events.map Prod.fst ∧
      Recording kernel rate card containerBytes count packetBytes (frames ++ more) after := by
  induction events generalizing frames recorder with
  | nil =>
    refine ⟨recorder, [], rfl, (List.append_nil _).symm, ?_⟩
    rw [List.append_nil]
    exact recording
  | cons event events ih =>
    obtain ⟨first, rest⟩ := List.forall_mem_cons.mp fits
    obtain ⟨middle, more, stepped, captured, next⟩ := step_recording recording first
    obtain ⟨after, others, ran, all, last⟩ := ih next rest
    refine ⟨after, more ++ others, run_cons.mpr ⟨middle, stepped, ran⟩, ?_, ?_⟩
    · rw [all, captured, List.append_assoc]
      rfl
    · rw [← List.append_assoc]
      exact last

theorem Recording.converts (recording : Recording kernel rate card containerBytes count packetBytes frames recorder) :
    Converts kernel rate card recorder.captured frames := by
  by_cases equal : rate.hz = card.hz
  · rw [Converts, if_pos equal]
    exact recording.direct equal
  · obtain ⟨resampler, takes⟩ := recording.converted equal
    obtain ⟨pieces, converted, flat⟩ := takes.converted
    rw [Converts, if_neg equal]
    exact ⟨pieces, resampler, converted, flat⟩

/-- A packet that is complete and whose place is not needed again has its frames. -/
theorem Recording.packet (recording : Recording kernel rate card containerBytes count packetBytes frames recorder) {number : Nat}
    (complete : (number + 1) * (packetBytes / (2 * containerBytes)) ≤ frames.length)
    (recent : frames.length ≤ (number + count) * (packetBytes / (2 * containerBytes))) :
    recorder.frames packetBytes number = ((frames.drop (number * (packetBytes / (2 * containerBytes)))).take
      (packetBytes / (2 * containerBytes))).map fun frame => frame.map (contain containerBytes) := by
  have holding := recording.holding
  obtain ⟨positive, _⟩ := holding.frames
  rw [recording.format] at positive
  rw [Nat.succ_mul] at complete
  rw [Nat.add_mul, Nat.mul_comm count] at recent
  apply List.ext_getElem
  · rw [Recorder.frames, List.length_map, List.length_range, holding.perPacket, recording.format, List.length_map, List.length_take,
      List.length_drop]
    omega
  intro place inside _
  rw [Recorder.frames, List.length_map, List.length_range, holding.perPacket, recording.format] at inside
  have held := holding.recent (number * (packetBytes / (2 * containerBytes)) + place)
  rw [recording.format, List.length_map, List.getElem?_map] at held
  have within : number * (packetBytes / (2 * containerBytes)) + place < frames.length := by omega
  have found := held _ (congrArg _ (List.getElem?_eq_getElem within)) (by omega)
  have cut : (number * (packetBytes / (2 * containerBytes)) + place) / (packetBytes / (2 * containerBytes)) = number := by
    rw [Nat.add_comm, Nat.add_mul_div_right _ _ positive, Nat.div_eq_of_lt inside, Nat.zero_add]
  rw [RtStream.cell, recording.format, Nat.mod_mul_right_div_self, Nat.mod_mul_right_mod, cut, Nat.mul_add_mod_of_lt inside] at found
  simp only [Recorder.frames, List.getElem_map, List.getElem_range, List.getElem_take, List.getElem_drop, holding.held,
    recording.format]
  exact found

/-- Whatever is captured, a client that reads a packet after it is complete, and
before its place is needed again, finds the frames with its numbers: those of the
card, converted if the rates differ, as its format keeps them. -/
theorem records_packets (kernel : Kernel) (card : SampleRate) {mapped ready : Mapped} {pool : Pool} {packets : List RtPacket}
    (container : mapped.stream.containerBytes = 2 ∨ mapped.stream.containerBytes = 4)
    (allocated : mapped.allocatePackets pool count packetBytes = (.ok packets, ready)) {events : List (Frame 2 × UInt64)}
    (fits : ∀ event ∈ events, FrameFits24 event.1) :
    ∃ recorder frames, run (step kernel card) (start ready.stream) events = some recorder ∧
      Converts kernel mapped.stream.rate card (events.map Prod.fst) frames ∧
      recorder.stream.evtGetCapturePacket.1 =
        UInt32.ofNat (frames.length / (packetBytes / (2 * mapped.stream.containerBytes))) - 1 ∧
      ∀ number, (number + 1) * (packetBytes / (2 * mapped.stream.containerBytes)) ≤ frames.length →
        frames.length ≤ (number + count) * (packetBytes / (2 * mapped.stream.containerBytes)) →
        recorder.frames packetBytes number = ((frames.drop (number * (packetBytes / (2 * mapped.stream.containerBytes)))).take
          (packetBytes / (2 * mapped.stream.containerBytes))).map fun frame => frame.map (contain mapped.stream.containerBytes) := by
  obtain ⟨ringed, format, rate, _⟩ := Mapped.allocatePackets_ringed container allocated
  obtain ⟨recorder, frames, ran, captured, recording⟩ := run_recording (@start_recording kernel card count packetBytes _ ringed) fits
  rw [List.nil_append, rate, format] at recording
  have converts := recording.converts
  rw [captured] at converts
  refine ⟨recorder, frames, ran, converts, ?_, fun number complete recent => recording.packet complete recent⟩
  have current := recording.holding.current
  rw [RtStream.underway, recording.holding.perPacket, recording.holding.counted, recording.format] at current
  rw [RtStream.evtGetCapturePacket, current]

/-- Five frames in two packets of two: the second packet is complete, the first is reused. -/
theorem records_packets_five_frames : ∃ ready recorder,
    (Mapped.allocatePackets ⟨.new .input12 .hz48000 32, fun _ => none⟩ twoPagesEach 2 16).2 = ready ∧
      run (step (Vector.replicate _ 0) .hz48000) (start ready.stream)
        ([#v[1, -1], #v[2, -2], #v[3, -3], #v[4, -4], #v[5, -5]].map fun frame => (frame, 0)) = some recorder ∧
      recorder.stream.evtGetCapturePacket.1 = 1 ∧ recorder.frames 16 1 = [#v[3, -3], #v[4, -4]] := by
  have fits : ∀ event ∈ ([#v[1, -1], #v[2, -2], #v[3, -3], #v[4, -4], #v[5, -5]] : List (Frame 2)).map fun frame => (frame, (0 : UInt64)),
      FrameFits24 event.1 := by
    intro event member
    obtain ⟨frame, listed, rfl⟩ := List.mem_map.mp member
    simp only [List.mem_cons, List.not_mem_nil, or_false] at listed
    rcases listed with rfl | rfl | rfl | rfl | rfl <;> decide
  obtain ⟨recorder, frames, ran, converts, current, packet⟩ := @records_packets 2 16 (Vector.replicate _ 0) .hz48000
    ⟨.new .input12 .hz48000 32, fun _ => none⟩ _ twoPagesEach _ (.inr rfl) rfl _ fits
  have same : frames = [#v[1, -1], #v[2, -2], #v[3, -3], #v[4, -4], #v[5, -5]] := converts
  subst same
  exact ⟨_, recorder, rfl, ran, current, (packet 1 (by decide) (by decide)).trans (by decide +kernel)⟩

end Recorder
end Ak1Driver.Driver
