import Ak1Driver.Feeding
import Ak1Driver.Proofs.Drift

/-! The card's rate changes while a stream stays prepared. A change starts the
stream's conversion over unless the stream last converted between the same two
rates: while the card runs at the stream's own rate nothing is converted, and
the history from before stays. -/

namespace Ak1Driver.Driver
open Proto Lib.Loop

/-- The calls that a stream gets while the card keeps its rate. -/
structure Stretch (Call : Type) where
  card : SampleRate
  calls : List Call

/-- The card's rate when the stream last converted a frame. -/
def lastConverted {Call : Type} (rate : SampleRate) : List (Stretch Call) → Option SampleRate
  | [] => none
  | stretch :: stretches =>
    (lastConverted rate stretches).or (if stretch.card ≠ rate ∧ stretch.calls ≠ [] then some stretch.card else none)

/-- The calls differ in no more than the samples. -/
def Stretch.Alike {Samples : Type} (first second : Stretch (Samples × UInt64)) : Prop :=
  first.card = second.card ∧ List.Forall₂ (fun one other => one.2 = other.2) first.calls second.calls

theorem lastConverted_alike {Samples : Type} (rate : SampleRate) {first second : List (Stretch (Samples × UInt64))}
    (alike : List.Forall₂ Stretch.Alike first second) : lastConverted rate first = lastConverted rate second := by
  induction alike with
  | nil => rfl
  | @cons one other _ _ both _ ih =>
    obtain ⟨card, calls⟩ := both
    have empty : one.calls = [] ↔ other.calls = [] := by
      rw [← List.length_eq_zero_iff, ← List.length_eq_zero_iff, calls.length_eq]
    simp only [lastConverted, ih, card, ne_eq, empty]

namespace RtStream

def renderStretches (kernel : Kernel) (fuel : Nat) :
    RtStream → List (Stretch (Packets × UInt64)) → Option (List (Frame 2) × RtStream)
  | stream, [] => some ([], stream)
  | stream, stretch :: stretches => do
    let (frames, stream) ← stream.renderAll kernel fuel stretch.card.hz stretch.calls
    let (rest, stream) ← renderStretches kernel fuel stream stretches
    return (frames ++ rest, stream)

def captureStretches (kernel : Kernel) (fuel : Nat) : RtStream → List (Stretch (Frame 2 × UInt64)) → Option RtStream
  | stream, [] => some stream
  | stream, stretch :: stretches => do
    let stream ← stream.captureAll kernel fuel stretch.card.hz stretch.calls
    captureStretches kernel fuel stream stretches

/-- The next `count` frames of the packets. -/
def readFrames (qpc : UInt64) : Nat → RtStream → List (Frame 2) × RtStream
  | 0, stream => ([], stream)
  | count + 1, stream =>
    let (frame, stream) := stream.renderFrame qpc
    let (frames, stream) := readFrames qpc count stream
    (frame :: frames, stream)

/-- The frames of the packets, so many for each call. -/
def readCalls : RtStream → List ((Packets × UInt64) × Nat) → List (Frame 2) × RtStream
  | stream, [] => ([], stream)
  | stream, ((buffers, qpc), count) :: calls =>
    let (frames, stream) := (stream.refill buffers).readFrames qpc count
    let (rest, stream) := readCalls stream calls
    (frames ++ rest, stream)

/-- Stores frames in the packets, so many for each call. -/
def storeCalls : RtStream → List ((Frame 2 × UInt64) × List (Frame 2)) → RtStream
  | stream, [] => stream
  | stream, ((_, qpc), frames) :: calls =>
    storeCalls (frames.foldl (fun stream frame => stream.captureFrame frame qpc) stream) calls

/-- What is played is what a fresh resampler makes of the frames read from here on. -/
def RendersAfresh (kernel : Kernel) (stream : RtStream) (cardHz : Nat) (calls : List (Packets × UInt64))
    (frames : List (Frame 2)) (after : RtStream) : Prop :=
  ∃ (counts : List Nat) (resampler : Resampler 2), counts.length = calls.length ∧
    Resampler.pulls kernel calls.length (stream.readCalls (calls.zip counts)).1 (.new stream.rate.hz cardHz) =
      some (frames, [], resampler) ∧
    (calls ≠ [] → after = { (stream.readCalls (calls.zip counts)).2 with resampler })

/-- What is stored is what a fresh resampler makes of the frames captured from here on. -/
def CapturesAfresh (kernel : Kernel) (fuel : Nat) (stream : RtStream) (cardHz : Nat) (calls : List (Frame 2 × UInt64))
    (after : RtStream) : Prop :=
  ∃ (stored : List (List (Frame 2))) (resampler : Resampler 2),
    Resampler.convert kernel fuel (calls.map Prod.fst) (.new cardHz stream.rate.hz) = some (stored, resampler) ∧
    (calls ≠ [] → after = { stream.storeCalls (calls.zip stored) with resampler })

theorem advance_with (stream : RtStream) (resampler : Resampler 2) (qpc : UInt64) :
    { stream with resampler }.advance qpc = { stream.advance qpc with resampler } := by
  have same : { stream with resampler }.framesPerPacket = stream.framesPerPacket := rfl
  simp only [advance, same]
  by_cases empty : stream.ring.count = 0
  · rw [if_pos empty, if_pos empty]
  · rw [if_neg empty, if_neg empty]
    by_cases first : stream.cursor.frames % stream.framesPerPacket = 0
    · simp only [if_pos first]
      split <;> rfl
    · simp only [if_neg first]
      split <;> rfl

/-- Reading frames neither looks at the resampler nor changes it. -/
theorem renderFrame_with (stream : RtStream) (resampler : Resampler 2) (qpc : UInt64) :
    { stream with resampler }.renderFrame qpc =
      ((stream.renderFrame qpc).1, { (stream.renderFrame qpc).2 with resampler }) := by
  have same : frameBytes { stream with resampler, moved := stream.moved + 1 } =
      frameBytes { stream with moved := stream.moved + 1 } := rfl
  cases found : frameBytes { stream with moved := stream.moved + 1 } with
  | none => simp only [renderFrame, same, found]
  | some place =>
    simp only [renderFrame, same, found]
    exact Prod.ext rfl (advance_with { stream with moved := stream.moved + 1 } resampler qpc)

/-- Storing frames does neither. -/
theorem captureFrame_with (stream : RtStream) (resampler : Resampler 2) (samples : Frame 2) (qpc : UInt64) :
    { stream with resampler }.captureFrame samples qpc = { stream.captureFrame samples qpc with resampler } := by
  have same : frameBytes { stream with resampler, moved := stream.moved + 1 } =
      frameBytes { stream with moved := stream.moved + 1 } := rfl
  cases found : frameBytes { stream with moved := stream.moved + 1 } with
  | none =>
    simp only [captureFrame, same, found]
    exact advance_with { stream with moved := stream.moved + 1 } resampler qpc
  | some place =>
    simp only [captureFrame, same, found]
    exact advance_with ((writeSample { stream with moved := stream.moved + 1 } place.1 place.2 samples[0]).writeSample
      place.1 (place.2 + stream.containerBytes) samples[1]) resampler qpc

/-- The loop in `render` pulls one frame from the resampler, fed with what it reads. -/
theorem renderTurn_pulls (kernel : Kernel) (qpc : UInt64) {fuel : Nat} {stream after : RtStream}
    {resampler : Resampler 2} {frame : Frame 2}
    (looped : loop (renderTurn kernel qpc) fuel { stream with resampler } = some (frame, after)) :
    ∃ count next, Resampler.pull kernel (stream.readFrames qpc count).1 resampler = some (frame, [], next) ∧
      after = { (stream.readFrames qpc count).2 with resampler := next } := by
  induction fuel generalizing stream resampler with
  | zero => cases looped
  | succ fuel ih =>
    simp only [loop, renderTurn] at looped
    cases popped : resampler.pop kernel with
    | mk found next =>
      cases found with
      | some first =>
        simp only [popped] at looped
        cases looped
        exact ⟨0, next, by simp only [readFrames, Resampler.pull, popped], rfl⟩
      | none =>
        have kept := (renderFrame_moved { stream with resampler := next } qpc).2
        simp only [popped, renderFrame_with stream next qpc] at looped
        obtain ⟨count, last, pulled, same⟩ := ih looped
        refine ⟨count + 1, last, ?_, same⟩
        simp only [readFrames, Resampler.pull, popped]
        exact pulled

/-- The loop in `capture` stores whatever the resampler has got. -/
theorem captureTurn_drains (kernel : Kernel) (qpc : UInt64) {fuel : Nat} {stream after : RtStream}
    {resampler : Resampler 2} (looped : loop (captureTurn kernel qpc) fuel { stream with resampler } = some after) :
    ∃ frames next, Resampler.drain kernel fuel resampler = some (frames, next) ∧
      after = { frames.foldl (fun stream frame => stream.captureFrame frame qpc) stream with resampler := next } := by
  induction fuel generalizing stream resampler with
  | zero => cases looped
  | succ fuel ih =>
    simp only [loop, captureTurn] at looped
    cases popped : resampler.pop kernel with
    | mk found next =>
      cases found with
      | none =>
        simp only [popped] at looped
        cases looped
        exact ⟨[], next, by simp only [Resampler.drain, popped], rfl⟩
      | some first =>
        simp only [popped, captureFrame_with stream next first qpc] at looped
        obtain ⟨frames, last, drained, same⟩ := ih looped
        refine ⟨first :: frames, last, ?_, same⟩
        simp only [Resampler.drain, popped, drained, Option.map_some]

theorem readFrames_rate (qpc : UInt64) (count : Nat) (stream : RtStream) :
    (stream.readFrames qpc count).2.rate = stream.rate := by
  induction count generalizing stream with
  | zero => rfl
  | succ count ih => exact (ih _).trans (renderFrame_moved stream qpc).1.rate

theorem storeFrames_rate (qpc : UInt64) (frames : List (Frame 2)) (stream : RtStream) :
    (frames.foldl (fun stream frame => stream.captureFrame frame qpc) stream).rate = stream.rate := by
  induction frames generalizing stream with
  | nil => rfl
  | cons frame frames ih => exact (ih _).trans (captureFrame_moved stream frame qpc).1.rate

/-- A stream whose resampler is set to the rates at hand goes on converting. -/
theorem render_set (kernel : Kernel) (stream : RtStream) {cardHz : Nat} (differ : stream.rate.hz ≠ cardHz)
    (set : stream.resampler.rates = (stream.rate.hz, cardHz)) (fuel : Nat) (qpc : UInt64) :
    stream.render kernel fuel cardHz qpc = loop (renderTurn kernel qpc) fuel stream := by
  have kept : ¬ stream.resampler.rates ≠ (stream.rate.hz, cardHz) := not_not.mpr set
  simp only [render, if_neg differ, if_neg kept]

theorem capture_set (kernel : Kernel) (stream : RtStream) {cardHz : Nat} (differ : stream.rate.hz ≠ cardHz)
    (set : stream.resampler.rates = (cardHz, stream.rate.hz)) (fuel : Nat) (samples : Frame 2) (qpc : UInt64) :
    stream.capture kernel fuel samples cardHz qpc =
      loop (captureTurn kernel qpc) fuel { stream with resampler := stream.resampler.push samples } := by
  have kept : ¬ stream.resampler.rates ≠ (cardHz, stream.rate.hz) := not_not.mpr set
  simp only [capture, if_neg differ, if_neg kept]

/-- A stream that converts plays what its resampler makes of the frames it reads. -/
theorem renderAll_pulls (kernel : Kernel) {fuel cardHz : Nat} {calls : List (Packets × UInt64)} {stream after : RtStream}
    {resampler : Resampler 2} {frames : List (Frame 2)} (differ : stream.rate.hz ≠ cardHz)
    (set : resampler.rates = (stream.rate.hz, cardHz))
    (ran : { stream with resampler }.renderAll kernel fuel cardHz calls = some (frames, after)) :
    ∃ (counts : List Nat) (last : Resampler 2), counts.length = calls.length ∧
      Resampler.pulls kernel calls.length (stream.readCalls (calls.zip counts)).1 resampler = some (frames, [], last) ∧
      after = { (stream.readCalls (calls.zip counts)).2 with resampler := last } ∧
      last.rates = resampler.rates ∧ after.rate = stream.rate := by
  induction calls generalizing stream resampler frames with
  | nil =>
    cases ran
    exact ⟨[], resampler, rfl, rfl, rfl, rfl, rfl⟩
  | cons call calls ih =>
    obtain ⟨buffers, qpc⟩ := call
    simp only [renderAll, Option.bind_eq_bind, Option.bind_eq_some_iff] at ran
    obtain ⟨⟨frame, middle⟩, rendered, ⟨rest, final⟩, further, same⟩ := ran
    cases same
    have looped := (render_set kernel ({ stream with resampler }.refill buffers) differ set fuel qpc).symm.trans rendered
    obtain ⟨count, next, pulled, read⟩ := @renderTurn_pulls kernel qpc fuel (stream.refill buffers) _ _ _ looped
    have rates := Resampler.pull_rates pulled
    have rate : ((stream.refill buffers).readFrames qpc count).2.rate = stream.rate := readFrames_rate qpc count _
    rw [read] at further
    obtain ⟨counts, last, length, pulls, ended, kept, rated⟩ :=
      ih (by rw [rate]; exact differ) (by rw [rate, rates]; exact set) further
    refine ⟨count :: counts, last, congrArg Nat.succ length, ?_, ended, kept.trans rates, rated.trans rate⟩
    simp only [List.zip_cons_cons, readCalls, List.length_cons, Resampler.pulls]
    rw [Resampler.pull_append pulled]
    simp only [List.nil_append, Option.bind_eq_bind, Option.bind_some, pulls]
    rfl

/-- A stream that converts stores what its resampler makes of the frames captured. -/
theorem captureAll_converts (kernel : Kernel) {fuel cardHz : Nat} {calls : List (Frame 2 × UInt64)}
    {stream after : RtStream} {resampler : Resampler 2} (differ : stream.rate.hz ≠ cardHz)
    (set : resampler.rates = (cardHz, stream.rate.hz))
    (ran : { stream with resampler }.captureAll kernel fuel cardHz calls = some after) :
    ∃ (stored : List (List (Frame 2))) (last : Resampler 2),
      Resampler.convert kernel fuel (calls.map Prod.fst) resampler = some (stored, last) ∧
      after = { stream.storeCalls (calls.zip stored) with resampler := last } ∧
      last.rates = resampler.rates ∧ after.rate = stream.rate := by
  induction calls generalizing stream resampler with
  | nil =>
    cases ran
    exact ⟨[], resampler, rfl, rfl, rfl, rfl⟩
  | cons call calls ih =>
    obtain ⟨samples, qpc⟩ := call
    simp only [captureAll, Option.bind_eq_bind, Option.bind_eq_some_iff] at ran
    obtain ⟨middle, captured, further⟩ := ran
    have looped := (capture_set kernel { stream with resampler } differ set fuel samples qpc).symm.trans captured
    obtain ⟨frames, next, drained, kept⟩ := @captureTurn_drains kernel qpc fuel stream _ _ looped
    have rates := Resampler.drain_rates drained
    have rate := storeFrames_rate qpc frames stream
    rw [kept] at further
    obtain ⟨stored, last, converted, ended, same, rated⟩ :=
      ih (by rw [rate]; exact differ) (by rw [rate, rates]; exact set) further
    refine ⟨frames :: stored, last, ?_, ended, same.trans rates, rated.trans rate⟩
    simp only [List.map_cons, Resampler.convert, drained, Option.bind_eq_bind, Option.bind_some, converted]
    rfl

theorem renderAll_direct_rates (kernel : Kernel) {fuel : Nat} {calls : List (Packets × UInt64)} {stream after : RtStream}
    {frames : List (Frame 2)} (ran : stream.renderAll kernel fuel stream.rate.hz calls = some (frames, after)) :
    after.resampler = stream.resampler ∧ after.rate = stream.rate := by
  induction calls generalizing stream frames with
  | nil =>
    cases ran
    exact ⟨rfl, rfl⟩
  | cons call calls ih =>
    obtain ⟨buffers, qpc⟩ := call
    obtain ⟨moved, kept⟩ := renderFrame_moved (stream.refill buffers) qpc
    simp only [renderAll, Option.bind_eq_bind, Option.bind_eq_some_iff] at ran
    obtain ⟨⟨frame, middle⟩, rendered, ⟨rest, final⟩, further, same⟩ := ran
    cases same
    have direct : (stream.refill buffers).rate.hz = stream.rate.hz := rfl
    simp only [render, if_pos direct, Option.some.injEq] at rendered
    rw [rendered] at moved kept
    rw [← show middle.rate.hz = stream.rate.hz from congrArg SampleRate.hz moved.rate] at further
    obtain ⟨resampler, rate⟩ := ih further
    exact ⟨resampler.trans kept, rate.trans moved.rate⟩

theorem captureAll_direct_rates (kernel : Kernel) {fuel : Nat} {calls : List (Frame 2 × UInt64)} {stream after : RtStream}
    (ran : stream.captureAll kernel fuel stream.rate.hz calls = some after) :
    after.resampler = stream.resampler ∧ after.rate = stream.rate := by
  induction calls generalizing stream with
  | nil =>
    cases ran
    exact ⟨rfl, rfl⟩
  | cons call calls ih =>
    obtain ⟨samples, qpc⟩ := call
    obtain ⟨moved, kept⟩ := captureFrame_moved stream samples qpc
    simp only [captureAll, Option.bind_eq_bind, Option.bind_eq_some_iff] at ran
    obtain ⟨middle, captured, further⟩ := ran
    simp only [capture, if_true, Option.some.injEq] at captured
    rw [captured] at moved kept
    rw [← show middle.rate.hz = stream.rate.hz from congrArg SampleRate.hz moved.rate] at further
    obtain ⟨resampler, rate⟩ := ih further
    exact ⟨resampler.trans kept, rate.trans moved.rate⟩

/-- The rates a stream's resampler is set to after some calls. -/
theorem renderAll_rates (kernel : Kernel) {fuel cardHz : Nat} {calls : List (Packets × UInt64)} {stream after : RtStream}
    {frames : List (Frame 2)} (ran : stream.renderAll kernel fuel cardHz calls = some (frames, after)) :
    after.rate = stream.rate ∧ after.resampler.rates =
      if stream.rate.hz ≠ cardHz ∧ calls ≠ [] then (stream.rate.hz, cardHz) else stream.resampler.rates := by
  by_cases converts : stream.rate.hz ≠ cardHz ∧ calls ≠ []
  · rw [if_pos converts]
    by_cases fresh : stream.resampler.rates ≠ (stream.rate.hz, cardHz)
    · rw [renderAll_fresh kernel converts.1 fresh converts.2] at ran
      obtain ⟨_, last, _, _, same, kept, rate⟩ := renderAll_pulls kernel converts.1 rfl ran
      exact ⟨rate, by rw [same]; exact kept⟩
    · have set := not_not.mp fresh
      obtain ⟨_, last, _, _, same, kept, rate⟩ := @renderAll_pulls kernel fuel cardHz calls stream _ _ _ converts.1 set ran
      exact ⟨rate, by rw [same]; exact kept.trans set⟩
  · rw [if_neg converts]
    rcases Classical.not_and_iff_not_or_not.mp converts with direct | empty
    · have same := not_not.mp direct
      subst same
      obtain ⟨kept, rate⟩ := renderAll_direct_rates kernel ran
      exact ⟨rate, congrArg Resampler.rates kept⟩
    · rw [not_not.mp empty] at ran
      cases ran
      exact ⟨rfl, rfl⟩

theorem captureAll_rates (kernel : Kernel) {fuel cardHz : Nat} {calls : List (Frame 2 × UInt64)} {stream after : RtStream}
    (ran : stream.captureAll kernel fuel cardHz calls = some after) :
    after.rate = stream.rate ∧ after.resampler.rates =
      if stream.rate.hz ≠ cardHz ∧ calls ≠ [] then (cardHz, stream.rate.hz) else stream.resampler.rates := by
  by_cases converts : stream.rate.hz ≠ cardHz ∧ calls ≠ []
  · rw [if_pos converts]
    by_cases fresh : stream.resampler.rates ≠ (cardHz, stream.rate.hz)
    · rw [captureAll_fresh kernel converts.1 fresh converts.2] at ran
      obtain ⟨_, last, _, same, kept, rate⟩ := captureAll_converts kernel converts.1 rfl ran
      exact ⟨rate, by rw [same]; exact kept⟩
    · have set := not_not.mp fresh
      obtain ⟨_, last, _, same, kept, rate⟩ := @captureAll_converts kernel fuel cardHz calls stream _ _ converts.1 set ran
      exact ⟨rate, by rw [same]; exact kept.trans set⟩
  · rw [if_neg converts]
    rcases Classical.not_and_iff_not_or_not.mp converts with direct | empty
    · have same := not_not.mp direct
      subst same
      obtain ⟨kept, rate⟩ := captureAll_direct_rates kernel ran
      exact ⟨rate, congrArg Resampler.rates kept⟩
    · rw [not_not.mp empty] at ran
      cases ran
      exact ⟨rfl, rfl⟩

theorem renderAll_afresh (kernel : Kernel) {fuel cardHz : Nat} {calls : List (Packets × UInt64)} {stream after : RtStream}
    {frames : List (Frame 2)} (differ : stream.rate.hz ≠ cardHz)
    (fresh : stream.resampler.rates ≠ (stream.rate.hz, cardHz))
    (ran : stream.renderAll kernel fuel cardHz calls = some (frames, after)) :
    RendersAfresh kernel stream cardHz calls frames after := by
  by_cases empty : calls = []
  · subst empty
    cases ran
    exact ⟨[], _, rfl, rfl, absurd rfl⟩
  · rw [renderAll_fresh kernel differ fresh empty] at ran
    obtain ⟨counts, last, length, pulled, same, _⟩ := renderAll_pulls kernel differ rfl ran
    exact ⟨counts, last, length, pulled, fun _ => same⟩

theorem captureAll_afresh (kernel : Kernel) {fuel cardHz : Nat} {calls : List (Frame 2 × UInt64)} {stream after : RtStream}
    (differ : stream.rate.hz ≠ cardHz) (fresh : stream.resampler.rates ≠ (cardHz, stream.rate.hz))
    (ran : stream.captureAll kernel fuel cardHz calls = some after) :
    CapturesAfresh kernel fuel stream cardHz calls after := by
  by_cases empty : calls = []
  · subst empty
    exact ⟨[], _, rfl, absurd rfl⟩
  · rw [captureAll_fresh kernel differ fresh empty] at ran
    obtain ⟨stored, last, converted, same, _⟩ := captureAll_converts kernel differ rfl ran
    exact ⟨stored, last, converted, fun _ => same⟩

theorem hz_injective {first second : SampleRate} : first.hz = second.hz ↔ first = second := by
  cases first <;> cases second <;> simp [SampleRate.hz]

theorem hz_positive (rate : SampleRate) : 0 < rate.hz := by
  cases rate <;> decide

theorem renderStretches_rates (kernel : Kernel) {fuel : Nat} {stretches : List (Stretch (Packets × UInt64))}
    {stream after : RtStream} {frames : List (Frame 2)}
    (ran : stream.renderStretches kernel fuel stretches = some (frames, after)) :
    after.rate = stream.rate ∧ after.resampler.rates =
      match lastConverted stream.rate stretches with
      | some card => (stream.rate.hz, card.hz)
      | none => stream.resampler.rates := by
  induction stretches generalizing stream frames with
  | nil =>
    cases ran
    exact ⟨rfl, rfl⟩
  | cons stretch stretches ih =>
    simp only [renderStretches, Option.bind_eq_bind, Option.bind_eq_some_iff] at ran
    obtain ⟨⟨first, middle⟩, rendered, ⟨rest, final⟩, further, same⟩ := ran
    cases same
    obtain ⟨rate, rates⟩ := renderAll_rates kernel rendered
    obtain ⟨later, ended⟩ := ih further
    refine ⟨later.trans rate, ended.trans ?_⟩
    rw [rate]
    simp only [lastConverted]
    cases lastConverted stream.rate stretches with
    | some card => rfl
    | none =>
      simp only [Option.none_or]
      have same : stretch.card ≠ stream.rate ∧ stretch.calls ≠ [] ↔
          stream.rate.hz ≠ stretch.card.hz ∧ stretch.calls ≠ [] :=
        and_congr_left fun _ => not_congr (eq_comm.trans hz_injective.symm)
      by_cases converts : stretch.card ≠ stream.rate ∧ stretch.calls ≠ []
      · rw [rates, if_pos (same.mp converts), if_pos converts]
      · rw [rates, if_neg (mt same.mpr converts), if_neg converts]

theorem captureStretches_rates (kernel : Kernel) {fuel : Nat} {stretches : List (Stretch (Frame 2 × UInt64))}
    {stream after : RtStream} (ran : stream.captureStretches kernel fuel stretches = some after) :
    after.rate = stream.rate ∧ after.resampler.rates =
      match lastConverted stream.rate stretches with
      | some card => (card.hz, stream.rate.hz)
      | none => stream.resampler.rates := by
  induction stretches generalizing stream with
  | nil =>
    cases ran
    exact ⟨rfl, rfl⟩
  | cons stretch stretches ih =>
    simp only [captureStretches, Option.bind_eq_bind, Option.bind_eq_some_iff] at ran
    obtain ⟨middle, captured, further⟩ := ran
    obtain ⟨rate, rates⟩ := captureAll_rates kernel captured
    obtain ⟨later, ended⟩ := ih further
    refine ⟨later.trans rate, ended.trans ?_⟩
    rw [rate]
    simp only [lastConverted]
    cases lastConverted stream.rate stretches with
    | some card => rfl
    | none =>
      simp only [Option.none_or]
      have same : stretch.card ≠ stream.rate ∧ stretch.calls ≠ [] ↔
          stream.rate.hz ≠ stretch.card.hz ∧ stretch.calls ≠ [] :=
        and_congr_left fun _ => not_congr (eq_comm.trans hz_injective.symm)
      by_cases converts : stretch.card ≠ stream.rate ∧ stretch.calls ≠ []
      · rw [rates, if_pos (same.mp converts), if_pos converts]
      · rw [rates, if_neg (mt same.mpr converts), if_neg converts]

/-- Any two rates of the card, and turns that are enough for one frame. -/
theorem exists_terms (first second : SampleRate) : ∃ up down, LowestTerms first.hz second.hz up down ∧
    halfWidth up down + down / up + 1 < 200 ∧ up / down + 1 < 200 := by
  refine ⟨second.hz / Nat.gcd first.hz second.hz, first.hz / Nat.gcd first.hz second.hz, ⟨?_, ?_, ?_, ?_, ?_, ?_⟩, ?_⟩ <;>
    cases first <;> cases second <;> decide

/-- A stream whose next frame can be rendered at any rate of the card. -/
def CanRender (stream : RtStream) : Prop :=
  stream.resampler.rates = (0, 0) ∨ ∃ (card : SampleRate) (up down played : Nat),
    LowestTerms stream.rate.hz card.hz up down ∧ halfWidth up down + down / up + 1 < 200 ∧
    Tracks stream.rate.hz card.hz up down (taken up down (played + 1)) (played + 1) stream.resampler

/-- A stream whose next captured frame can be stored at any rate of the card. -/
def CanCapture (stream : RtStream) : Prop :=
  stream.resampler.rates = (0, 0) ∨ ∃ (card : SampleRate) (up down captured : Nat),
    LowestTerms card.hz stream.rate.hz up down ∧ up / down + 1 < 200 ∧
    Tracks card.hz stream.rate.hz up down (captured + 1) (due up down (captured + 1)) stream.resampler

theorem render_converting (kernel : Kernel) {stream : RtStream} {card : SampleRate} {up down played : Nat}
    (lowest : LowestTerms stream.rate.hz card.hz up down) (bounded : halfWidth up down + down / up + 1 < 200)
    (differ : stream.rate.hz ≠ card.hz)
    (tracks : Tracks stream.rate.hz card.hz up down (taken up down played) played stream.resampler) {fuel : Nat}
    (enough : 200 ≤ fuel) (qpc : UInt64) :
    ∃ frame after, stream.render kernel fuel card.hz qpc = some (frame, after) ∧ after.CanRender := by
  obtain ⟨short, within⟩ := taken_short lowest played
  obtain ⟨frame, after, looped, moved, next⟩ := renderTurn_loop lowest kernel qpc tracks short
    (show needed up down played - taken up down played < fuel by omega)
  refine ⟨frame, after, (render_set kernel stream differ tracks.rates fuel qpc).trans looped, .inr ?_⟩
  rw [moved.rate]
  exact ⟨card, up, down, played, lowest, bounded, next⟩

theorem CanRender.render (kernel : Kernel) {stream : RtStream} (can : stream.CanRender) (card : SampleRate) {fuel : Nat}
    (enough : 200 ≤ fuel) (qpc : UInt64) :
    ∃ frame after, stream.render kernel fuel card.hz qpc = some (frame, after) ∧ after.CanRender := by
  by_cases differ : stream.rate.hz = card.hz
  · obtain ⟨moved, kept⟩ := renderFrame_moved stream qpc
    refine ⟨(stream.renderFrame qpc).1, (stream.renderFrame qpc).2, by simp only [RtStream.render, if_pos differ], ?_⟩
    rw [CanRender, kept, moved.rate]
    exact can
  · by_cases fresh : stream.resampler.rates ≠ (stream.rate.hz, card.hz)
    · obtain ⟨up, down, lowest, bounded, _⟩ := exists_terms stream.rate card
      rw [render_fresh kernel differ fresh]
      exact @render_converting kernel { stream with resampler := .new stream.rate.hz card.hz } card up down 0 lowest bounded
        differ (Tracks.new lowest) fuel enough qpc
    · rcases can with unset | ⟨other, up, down, played, lowest, bounded, tracks⟩
      · have set := (not_not.mp fresh).symm.trans unset
        exact absurd (congrArg Prod.fst set) (Nat.ne_of_gt (hz_positive stream.rate))
      · have same : other = card := hz_injective.mp (congrArg Prod.snd (tracks.rates.symm.trans (not_not.mp fresh)))
        subst same
        exact render_converting kernel lowest bounded differ tracks enough qpc

theorem capture_converting (kernel : Kernel) {stream : RtStream} {card : SampleRate} {up down captured : Nat}
    (lowest : LowestTerms card.hz stream.rate.hz up down) (bounded : up / down + 1 < 200)
    (differ : stream.rate.hz ≠ card.hz)
    (tracks : Tracks card.hz stream.rate.hz up down captured (due up down captured) stream.resampler) {fuel : Nat}
    (enough : 200 ≤ fuel) (samples : Frame 2) (qpc : UInt64) :
    ∃ after, stream.capture kernel fuel samples card.hz qpc = some after ∧ after.CanCapture := by
  obtain ⟨short, within⟩ := due_succ lowest captured
  have pushed : Tracks card.hz stream.rate.hz up down (captured + 1) (due up down captured)
      { stream with resampler := stream.resampler.push samples }.resampler := tracks.push samples
  obtain ⟨after, looped, moved, next⟩ := captureTurn_loop lowest kernel qpc pushed short
    (show due up down (captured + 1) - due up down captured < fuel by omega)
  refine ⟨after, (capture_set kernel stream differ tracks.rates fuel samples qpc).trans looped, .inr ?_⟩
  rw [moved.rate]
  exact ⟨card, up, down, captured, lowest, bounded, next⟩

theorem CanCapture.capture (kernel : Kernel) {stream : RtStream} (can : stream.CanCapture) (card : SampleRate) {fuel : Nat}
    (enough : 200 ≤ fuel) (samples : Frame 2) (qpc : UInt64) :
    ∃ after, stream.capture kernel fuel samples card.hz qpc = some after ∧ after.CanCapture := by
  by_cases differ : stream.rate.hz = card.hz
  · obtain ⟨moved, kept⟩ := captureFrame_moved stream samples qpc
    refine ⟨stream.captureFrame samples qpc, by simp only [RtStream.capture, if_pos differ], ?_⟩
    rw [CanCapture, kept, moved.rate]
    exact can
  · by_cases fresh : stream.resampler.rates ≠ (card.hz, stream.rate.hz)
    · obtain ⟨up, down, lowest, _, bounded⟩ := exists_terms card stream.rate
      have none : due up down 0 = 0 := by simp [due]
      rw [capture_fresh kernel differ fresh]
      refine @capture_converting kernel { stream with resampler := .new card.hz stream.rate.hz } card up down 0 lowest bounded
        differ ?_ fuel enough samples qpc
      rw [none]
      exact Tracks.new lowest
    · rcases can with unset | ⟨other, up, down, captured, lowest, bounded, tracks⟩
      · have set := (not_not.mp fresh).symm.trans unset
        exact absurd (congrArg Prod.fst set) (Nat.ne_of_gt (hz_positive card))
      · have same : other = card := hz_injective.mp (congrArg Prod.fst (tracks.rates.symm.trans (not_not.mp fresh)))
        subst same
        exact capture_converting kernel lowest bounded differ tracks enough samples qpc

theorem CanRender.renderAll (kernel : Kernel) {stream : RtStream} (can : stream.CanRender) (card : SampleRate) {fuel : Nat}
    (enough : 200 ≤ fuel) (calls : List (Packets × UInt64)) :
    ∃ frames after, stream.renderAll kernel fuel card.hz calls = some (frames, after) ∧ after.CanRender := by
  induction calls generalizing stream with
  | nil => exact ⟨[], stream, rfl, can⟩
  | cons call calls ih =>
    have refilled : (stream.refill call.1).CanRender := can
    obtain ⟨frame, middle, rendered, next⟩ := refilled.render kernel card enough call.2
    obtain ⟨frames, after, ran, last⟩ := ih next
    refine ⟨frame :: frames, after, ?_, last⟩
    simp only [RtStream.renderAll, rendered, ran, Option.bind_eq_bind, Option.bind_some]
    rfl

theorem CanCapture.captureAll (kernel : Kernel) {stream : RtStream} (can : stream.CanCapture) (card : SampleRate)
    {fuel : Nat} (enough : 200 ≤ fuel) (calls : List (Frame 2 × UInt64)) :
    ∃ after, stream.captureAll kernel fuel card.hz calls = some after ∧ after.CanCapture := by
  induction calls generalizing stream with
  | nil => exact ⟨stream, rfl, can⟩
  | cons call calls ih =>
    obtain ⟨middle, captured, next⟩ := can.capture kernel card enough call.1 call.2
    obtain ⟨after, ran, last⟩ := ih next
    refine ⟨after, ?_, last⟩
    simp only [RtStream.captureAll, captured, ran, Option.bind_eq_bind, Option.bind_some]

theorem CanRender.renderStretches (kernel : Kernel) {stream : RtStream} (can : stream.CanRender) {fuel : Nat}
    (enough : 200 ≤ fuel) (stretches : List (Stretch (Packets × UInt64))) :
    ∃ frames after, stream.renderStretches kernel fuel stretches = some (frames, after) ∧ after.CanRender := by
  induction stretches generalizing stream with
  | nil => exact ⟨[], stream, rfl, can⟩
  | cons stretch stretches ih =>
    obtain ⟨first, middle, rendered, next⟩ := can.renderAll kernel stretch.card enough stretch.calls
    obtain ⟨rest, after, ran, last⟩ := ih next
    refine ⟨first ++ rest, after, ?_, last⟩
    simp only [RtStream.renderStretches, rendered, ran, Option.bind_eq_bind, Option.bind_some]
    rfl

theorem CanCapture.captureStretches (kernel : Kernel) {stream : RtStream} (can : stream.CanCapture) {fuel : Nat}
    (enough : 200 ≤ fuel) (stretches : List (Stretch (Frame 2 × UInt64))) :
    ∃ after, stream.captureStretches kernel fuel stretches = some after ∧ after.CanCapture := by
  induction stretches generalizing stream with
  | nil => exact ⟨stream, rfl, can⟩
  | cons stretch stretches ih =>
    obtain ⟨middle, captured, next⟩ := can.captureAll kernel stretch.card enough stretch.calls
    obtain ⟨after, ran, last⟩ := ih next
    refine ⟨after, ?_, last⟩
    simp only [RtStream.captureStretches, captured, ran, Option.bind_eq_bind, Option.bind_some]

/-- A stream that goes on with an earlier conversion does not start afresh: its
position is that of all the frames it played since the conversion began. -/
theorem CanRender.not_afresh (kernel : Kernel) {stream after : RtStream} (can : stream.CanRender) {card : SampleRate}
    (differ : stream.rate.hz ≠ card.hz) (set : stream.resampler.rates = (stream.rate.hz, card.hz)) {fuel : Nat}
    {calls : List (Packets × UInt64)} {frames : List (Frame 2)} (nonempty : calls ≠ [])
    (ran : stream.renderAll kernel fuel card.hz calls = some (frames, after)) :
    ¬ RendersAfresh kernel stream card.hz calls frames after := by
  rintro ⟨counts, fresh, _, pulled, ended⟩
  rcases can with unset | ⟨other, up, down, played, lowest, _, tracks⟩
  · exact absurd (congrArg Prod.fst (set.symm.trans unset)) (Nat.ne_of_gt (hz_positive stream.rate))
  · have same : other = card := hz_injective.mp (congrArg Prod.snd (tracks.rates.symm.trans set))
    subst same
    obtain ⟨_, last, _, pulls, kept, _⟩ := @renderAll_pulls kernel fuel other.hz calls stream after _ frames differ set ran
    obtain ⟨_, begun⟩ := Resampler.pulls_tracks lowest (Tracks.new lowest) pulled
    obtain ⟨_, went⟩ := Resampler.pulls_tracks lowest tracks pulls
    have resampler : fresh = last := congrArg RtStream.resampler ((ended nonempty).symm.trans kept)
    rw [resampler] at begun
    have position := Nat.eq_of_mul_eq_mul_right lowest.down_positive (begun.position.symm.trans went.position)
    omega

theorem CanCapture.not_afresh (kernel : Kernel) {stream after : RtStream} (can : stream.CanCapture) {card : SampleRate}
    (differ : stream.rate.hz ≠ card.hz) (set : stream.resampler.rates = (card.hz, stream.rate.hz)) {fuel : Nat}
    {calls : List (Frame 2 × UInt64)} (nonempty : calls ≠ [])
    (ran : stream.captureAll kernel fuel card.hz calls = some after) :
    ¬ CapturesAfresh kernel fuel stream card.hz calls after := by
  rintro ⟨stored, fresh, converted, ended⟩
  rcases can with unset | ⟨other, up, down, captured, _, _, tracks⟩
  · exact absurd (congrArg Prod.fst (set.symm.trans unset)) (Nat.ne_of_gt (hz_positive card))
  · obtain ⟨_, last, went, kept, _⟩ := @captureAll_converts kernel fuel card.hz calls stream after _ differ set ran
    have resampler : fresh = last := congrArg RtStream.resampler ((ended nonempty).symm.trans kept)
    have begun := Resampler.convert_pushed converted
    have total := Resampler.convert_pushed went
    have pushed := tracks.pushed
    have none : (Resampler.new card.hz stream.rate.hz : Resampler 2).pushed = 0 := rfl
    rw [resampler] at begun
    omega

/-- A stream but for the samples that went through it. -/
def blank (stream : RtStream) : RtStream :=
  { stream with ring := { stream.ring with buffers := fun _ _ => 0 }, resampler := stream.resampler.blank }

theorem advance_blank (stream : RtStream) (qpc : UInt64) : (stream.advance qpc).blank = stream.blank.advance qpc := by
  have same : stream.blank.framesPerPacket = stream.framesPerPacket := rfl
  have cursor : stream.blank.cursor = stream.cursor := rfl
  simp only [advance, same, cursor]
  by_cases empty : stream.ring.count = 0
  · rw [if_pos empty, if_pos (show stream.blank.ring.count = 0 from empty)]
    rfl
  · rw [if_neg empty, if_neg (show ¬ stream.blank.ring.count = 0 from empty)]
    by_cases first : stream.cursor.frames % stream.framesPerPacket = 0
    · simp only [if_pos first]
      split <;> rfl
    · simp only [if_neg first]
      split <;> rfl

theorem renderFrame_blank (stream : RtStream) (qpc : UInt64) :
    (stream.renderFrame qpc).2.blank = (stream.blank.renderFrame qpc).2 := by
  have same : frameBytes { stream.blank with moved := stream.blank.moved + 1 } =
      frameBytes { stream with moved := stream.moved + 1 } := rfl
  cases found : frameBytes { stream with moved := stream.moved + 1 } with
  | none =>
    simp only [renderFrame, same, found]
    rfl
  | some place =>
    simp only [renderFrame, same, found]
    exact advance_blank { stream with moved := stream.moved + 1 } qpc

theorem writeSample_blank (stream : RtStream) (packet offset : Nat) (sample : Int) :
    (stream.writeSample packet offset sample).blank = stream.blank := rfl

theorem captureFrame_blank (stream : RtStream) (samples other : Frame 2) (qpc : UInt64) :
    (stream.captureFrame samples qpc).blank = (stream.blank.captureFrame other qpc).blank := by
  have same : frameBytes { stream.blank with moved := stream.blank.moved + 1 } =
      frameBytes { stream with moved := stream.moved + 1 } := rfl
  have again : blank { stream.blank with moved := stream.blank.moved + 1 } =
      blank { stream with moved := stream.moved + 1 } := rfl
  cases found : frameBytes { stream with moved := stream.moved + 1 } with
  | none =>
    simp only [captureFrame, same, found]
    rw [advance_blank, advance_blank, again]
  | some place =>
    simp only [captureFrame, same, found]
    rw [advance_blank, advance_blank, writeSample_blank, writeSample_blank, writeSample_blank, writeSample_blank, again]

theorem renderFrame_alike {first second : RtStream} (same : first.blank = second.blank) (qpc : UInt64) :
    (first.renderFrame qpc).2.blank = (second.renderFrame qpc).2.blank := by
  rw [renderFrame_blank, renderFrame_blank, same]

theorem captureFrame_alike {first second : RtStream} (same : first.blank = second.blank) (samples other : Frame 2)
    (qpc : UInt64) : (first.captureFrame samples qpc).blank = (second.captureFrame other qpc).blank := by
  rw [captureFrame_blank first samples silence, captureFrame_blank second other silence, same]

theorem with_blank {first second : RtStream} (same : first.blank = second.blank) {left right : Resampler 2}
    (alike : left.blank = right.blank) :
    blank { first with resampler := left } = blank { second with resampler := right } := by
  have resampler : blank { second with resampler := left } = blank { second with resampler := right } := by
    simp only [blank, alike]
  exact (congrArg (fun stream : RtStream => { stream with resampler := left.blank }) same).trans resampler

theorem renderTurn_alike (kernel : Kernel) (qpc : UInt64) {first second : RtStream} (same : first.blank = second.blank) :
    (∃ next following, renderTurn kernel qpc first = .inl next ∧ renderTurn kernel qpc second = .inl following ∧
      next.blank = following.blank) ∨
    ∃ result outcome, renderTurn kernel qpc first = .inr result ∧ renderTurn kernel qpc second = .inr outcome ∧
      result.2.blank = outcome.2.blank := by
  have resampler : first.resampler.blank = second.resampler.blank := congrArg RtStream.resampler same
  obtain ⟨ready, left⟩ := @Resampler.pop_alike _ kernel _ _ resampler
  simp only [renderTurn]
  cases one : first.resampler.pop kernel with
  | mk frame after =>
    cases other : second.resampler.pop kernel with
    | mk played rest =>
      rw [one, other] at ready left
      cases frame with
      | some frame =>
        cases played with
        | some played => exact .inr ⟨_, _, rfl, rfl, with_blank same left⟩
        | none => cases ready
      | none =>
        cases played with
        | some played => cases ready
        | none =>
          refine .inl ⟨_, _, rfl, rfl, ?_⟩
          have read := renderFrame_alike (with_blank same left) qpc
          exact with_blank read (Resampler.push_blank (congrArg RtStream.resampler read) _ _)

theorem captureTurn_alike (kernel : Kernel) (qpc : UInt64) {first second : RtStream} (same : first.blank = second.blank) :
    (∃ next following, captureTurn kernel qpc first = .inl next ∧ captureTurn kernel qpc second = .inl following ∧
      next.blank = following.blank) ∨
    ∃ result outcome, captureTurn kernel qpc first = .inr result ∧ captureTurn kernel qpc second = .inr outcome ∧
      result.blank = outcome.blank := by
  have resampler : first.resampler.blank = second.resampler.blank := congrArg RtStream.resampler same
  obtain ⟨ready, left⟩ := @Resampler.pop_alike _ kernel _ _ resampler
  simp only [captureTurn]
  cases one : first.resampler.pop kernel with
  | mk frame after =>
    cases other : second.resampler.pop kernel with
    | mk played rest =>
      rw [one, other] at ready left
      cases frame with
      | some frame =>
        cases played with
        | some played => exact .inl ⟨_, _, rfl, rfl, captureFrame_alike (with_blank same left) _ _ qpc⟩
        | none => cases ready
      | none =>
        cases played with
        | some played => cases ready
        | none => exact .inr ⟨_, _, rfl, rfl, with_blank same left⟩

theorem rate_of_blank {first second : RtStream} (same : first.blank = second.blank) : first.rate.hz = second.rate.hz := by
  have rate : first.blank.rate = second.blank.rate := congrArg RtStream.rate same
  exact congrArg SampleRate.hz rate

/-- The resampler that a frame is converted with. -/
theorem reset_alike {first second : Resampler 2} (same : first.blank = second.blank) (fromHz toHz : Nat) :
    Resampler.blank (if first.rates ≠ (fromHz, toHz) then first.reset fromHz toHz else first) =
      Resampler.blank (if second.rates ≠ (fromHz, toHz) then second.reset fromHz toHz else second) := by
  have rates : first.blank.rates = second.blank.rates := congrArg Resampler.rates same
  by_cases fresh : first.rates ≠ (fromHz, toHz)
  · have also : second.rates ≠ (fromHz, toHz) := fun set => fresh (rates.trans set)
    rw [if_pos fresh, if_pos also]
    rfl
  · have also : ¬ second.rates ≠ (fromHz, toHz) := not_not.mpr (rates.symm.trans (not_not.mp fresh))
    rw [if_neg fresh, if_neg also]
    exact same

theorem render_alike (kernel : Kernel) {fuel cardHz : Nat} {qpc : UInt64} {first second after last : RtStream}
    {frame other : Frame 2} (same : first.blank = second.blank)
    (ran : first.render kernel fuel cardHz qpc = some (frame, after))
    (also : second.render kernel fuel cardHz qpc = some (other, last)) : after.blank = last.blank := by
  have rate := rate_of_blank same
  have resampler : first.resampler.blank = second.resampler.blank := congrArg RtStream.resampler same
  by_cases direct : first.rate.hz = cardHz
  · have read := renderFrame_alike same qpc
    simp only [render, if_pos direct, Option.some.injEq] at ran
    simp only [render, if_pos (rate.symm.trans direct), Option.some.injEq] at also
    rwa [ran, also] at read
  · simp only [render, if_neg direct] at ran
    simp only [render, if_neg (rate ▸ direct)] at also
    refine loop_relates (fun one two => one.blank = two.blank)
      (fun one two : Frame 2 × RtStream => one.2.blank = two.2.blank)
      (fun _ _ => renderTurn_alike kernel qpc) (with_blank same ?_) ran also
    rw [rate]
    exact reset_alike resampler _ _

theorem capture_alike (kernel : Kernel) {fuel cardHz : Nat} {qpc : UInt64} {first second after last : RtStream}
    {samples other : Frame 2} (same : first.blank = second.blank)
    (ran : first.capture kernel fuel samples cardHz qpc = some after)
    (also : second.capture kernel fuel other cardHz qpc = some last) : after.blank = last.blank := by
  have rate := rate_of_blank same
  have resampler : first.resampler.blank = second.resampler.blank := congrArg RtStream.resampler same
  by_cases direct : first.rate.hz = cardHz
  · simp only [capture, if_pos direct, Option.some.injEq] at ran
    simp only [capture, if_pos (rate.symm.trans direct), Option.some.injEq] at also
    rw [← ran, ← also]
    exact captureFrame_alike same samples other qpc
  · simp only [capture, if_neg direct] at ran
    simp only [capture, if_neg (rate ▸ direct)] at also
    refine loop_relates (fun one two => one.blank = two.blank) (fun one two : RtStream => one.blank = two.blank)
      (fun _ _ => captureTurn_alike kernel qpc) (with_blank same (Resampler.push_blank ?_ samples other)) ran also
    rw [rate]
    exact reset_alike resampler _ _

theorem renderAll_alike (kernel : Kernel) {fuel cardHz : Nat} {calls others : List (Packets × UInt64)}
    (times : List.Forall₂ (fun one other => one.2 = other.2) calls others) {first second after last : RtStream}
    {frames heard : List (Frame 2)} (same : first.blank = second.blank)
    (ran : first.renderAll kernel fuel cardHz calls = some (frames, after))
    (also : second.renderAll kernel fuel cardHz others = some (heard, last)) : after.blank = last.blank := by
  induction times generalizing first second frames heard with
  | nil =>
    cases ran
    cases also
    exact same
  | @cons one other _ _ time _ ih =>
    simp only [renderAll, Option.bind_eq_bind, Option.bind_eq_some_iff] at ran also
    obtain ⟨⟨frame, middle⟩, rendered, ⟨rest, final⟩, further, ended⟩ := ran
    cases ended
    obtain ⟨⟨sound, between⟩, played, ⟨others, outcome⟩, onward, ended⟩ := also
    cases ended
    rw [← time] at played
    have refilled : (first.refill one.1).blank = (second.refill other.1).blank := same
    exact ih (render_alike kernel refilled rendered played) further onward

theorem captureAll_alike (kernel : Kernel) {fuel cardHz : Nat} {calls others : List (Frame 2 × UInt64)}
    (times : List.Forall₂ (fun one other => one.2 = other.2) calls others) {first second after last : RtStream}
    (same : first.blank = second.blank) (ran : first.captureAll kernel fuel cardHz calls = some after)
    (also : second.captureAll kernel fuel cardHz others = some last) : after.blank = last.blank := by
  induction times generalizing first second with
  | nil =>
    cases ran
    cases also
    exact same
  | @cons one other _ _ time _ ih =>
    simp only [captureAll, Option.bind_eq_bind, Option.bind_eq_some_iff] at ran also
    obtain ⟨middle, captured, further⟩ := ran
    obtain ⟨between, stored, onward⟩ := also
    rw [← time] at stored
    exact ih (capture_alike kernel same captured stored) further onward

theorem renderStretches_alike (kernel : Kernel) {fuel : Nat} {stretches others : List (Stretch (Packets × UInt64))}
    (alike : List.Forall₂ Stretch.Alike stretches others) {first second after last : RtStream}
    {frames heard : List (Frame 2)} (same : first.blank = second.blank)
    (ran : first.renderStretches kernel fuel stretches = some (frames, after))
    (also : second.renderStretches kernel fuel others = some (heard, last)) : after.blank = last.blank := by
  induction alike generalizing first second frames heard with
  | nil =>
    cases ran
    cases also
    exact same
  | @cons one other _ _ both _ ih =>
    obtain ⟨card, times⟩ := both
    simp only [renderStretches, Option.bind_eq_bind, Option.bind_eq_some_iff] at ran also
    obtain ⟨⟨played, middle⟩, rendered, ⟨rest, final⟩, further, ended⟩ := ran
    cases ended
    obtain ⟨⟨sounded, between⟩, sounding, ⟨others, outcome⟩, onward, ended⟩ := also
    cases ended
    rw [← card] at sounding
    exact ih (renderAll_alike kernel times same rendered sounding) further onward

theorem captureStretches_alike (kernel : Kernel) {fuel : Nat} {stretches others : List (Stretch (Frame 2 × UInt64))}
    (alike : List.Forall₂ Stretch.Alike stretches others) {first second after last : RtStream}
    (same : first.blank = second.blank) (ran : first.captureStretches kernel fuel stretches = some after)
    (also : second.captureStretches kernel fuel others = some last) : after.blank = last.blank := by
  induction alike generalizing first second with
  | nil =>
    cases ran
    cases also
    exact same
  | @cons one other _ _ both _ ih =>
    obtain ⟨card, times⟩ := both
    simp only [captureStretches, Option.bind_eq_bind, Option.bind_eq_some_iff] at ran also
    obtain ⟨middle, captured, further⟩ := ran
    obtain ⟨between, stored, onward⟩ := also
    rw [← card] at stored
    exact ih (captureAll_alike kernel times same captured stored) further onward

theorem reset_canRender (stream : RtStream) : stream.reset.CanRender := .inl rfl

theorem reset_canCapture (stream : RtStream) : stream.reset.CanCapture := .inl rfl

/-- Whether the resampler is set to other rates when a stretch begins. -/
theorem stale_iff {Call : Type} {rate : SampleRate} {before : List (Stretch Call)} {card : SampleRate}
    {rates : Nat × Nat} (make : SampleRate → Nat × Nat) (injective : ∀ one other, make one = make other → one = other)
    (positive : ∀ one, make one ≠ (0, 0))
    (set : rates = match lastConverted rate before with
      | some other => make other
      | none => (0, 0)) :
    rates ≠ make card ↔ lastConverted rate before ≠ some card := by
  rw [set]
  cases lastConverted rate before with
  | none => exact ⟨fun _ => nofun, fun _ same => positive card same.symm⟩
  | some other =>
    exact not_congr ⟨fun same => congrArg some (injective other card same), fun same => congrArg make (Option.some.inj same)⟩

theorem render_stale_iff (kernel : Kernel) {fuel : Nat} {before : List (Stretch (Packets × UInt64))} {card : SampleRate}
    {prepared middle : RtStream} {played : List (Frame 2)}
    (ran : prepared.reset.renderStretches kernel fuel before = some (played, middle)) :
    middle.resampler.rates ≠ (prepared.rate.hz, card.hz) ↔ lastConverted prepared.rate before ≠ some card :=
  stale_iff (fun card => (prepared.rate.hz, card.hz)) (fun _ _ same => hz_injective.mp (congrArg Prod.snd same))
    (fun _ same => Nat.ne_of_gt (hz_positive prepared.rate) (congrArg Prod.fst same))
    (renderStretches_rates kernel ran).2

theorem capture_stale_iff (kernel : Kernel) {fuel : Nat} {before : List (Stretch (Frame 2 × UInt64))} {card : SampleRate}
    {prepared middle : RtStream} (ran : prepared.reset.captureStretches kernel fuel before = some middle) :
    middle.resampler.rates ≠ (card.hz, prepared.rate.hz) ↔ lastConverted prepared.rate before ≠ some card :=
  stale_iff (fun card => (card.hz, prepared.rate.hz)) (fun _ _ same => hz_injective.mp (congrArg Prod.fst same))
    (fun one same => Nat.ne_of_gt (hz_positive one) (congrArg Prod.fst same))
    (captureStretches_rates kernel ran).2

theorem renders_afresh_iff (kernel : Kernel) (prepared : RtStream) {fuel : Nat} (enough : 200 ≤ fuel)
    (before : List (Stretch (Packets × UInt64))) {now : Stretch (Packets × UInt64)} (converts : now.card ≠ prepared.rate)
    (nonempty : now.calls ≠ []) :
    ∃ played middle frames after, prepared.reset.renderStretches kernel fuel before = some (played, middle) ∧
      middle.renderAll kernel fuel now.card.hz now.calls = some (frames, after) ∧
      (RendersAfresh kernel middle now.card.hz now.calls frames after ↔ lastConverted prepared.rate before ≠ some now.card) := by
  obtain ⟨played, middle, ran, can⟩ := (reset_canRender prepared).renderStretches kernel enough before
  obtain ⟨frames, after, rendered, _⟩ := can.renderAll kernel now.card enough now.calls
  have rate : middle.rate = prepared.rate := (renderStretches_rates kernel ran).1
  have differ : middle.rate.hz ≠ now.card.hz := fun same => converts (hz_injective.mp (rate ▸ same)).symm
  refine ⟨played, middle, frames, after, ran, rendered, (Iff.trans ?_ (render_stale_iff kernel ran))⟩
  rw [← rate]
  constructor
  · intro afresh set
    exact can.not_afresh kernel differ set nonempty rendered afresh
  · intro fresh
    exact renderAll_afresh kernel differ fresh rendered

theorem captures_afresh_iff (kernel : Kernel) (prepared : RtStream) {fuel : Nat} (enough : 200 ≤ fuel)
    (before : List (Stretch (Frame 2 × UInt64))) {now : Stretch (Frame 2 × UInt64)} (converts : now.card ≠ prepared.rate)
    (nonempty : now.calls ≠ []) :
    ∃ middle after, prepared.reset.captureStretches kernel fuel before = some middle ∧
      middle.captureAll kernel fuel now.card.hz now.calls = some after ∧
      (CapturesAfresh kernel fuel middle now.card.hz now.calls after ↔ lastConverted prepared.rate before ≠ some now.card) := by
  obtain ⟨middle, ran, can⟩ := (reset_canCapture prepared).captureStretches kernel enough before
  obtain ⟨after, captured, _⟩ := can.captureAll kernel now.card enough now.calls
  have rate : middle.rate = prepared.rate := (captureStretches_rates kernel ran).1
  have differ : middle.rate.hz ≠ now.card.hz := fun same => converts (hz_injective.mp (rate ▸ same)).symm
  refine ⟨middle, after, ran, captured, (Iff.trans ?_ (capture_stale_iff kernel ran))⟩
  rw [← rate]
  constructor
  · intro afresh set
    exact can.not_afresh kernel differ set nonempty captured afresh
  · intro fresh
    exact captureAll_afresh kernel differ fresh captured

/-- What a stream plays after the change does not depend on what it played before. -/
theorem renders_alike (kernel : Kernel) (prepared : RtStream) {fuel : Nat} (enough : 200 ≤ fuel)
    {before other : List (Stretch (Packets × UInt64))} (alike : List.Forall₂ Stretch.Alike before other)
    {now : Stretch (Packets × UInt64)} (converts : now.card ≠ prepared.rate)
    (changed : lastConverted prepared.rate before ≠ some now.card) {played : List (Frame 2)} {middle : RtStream}
    (ran : prepared.reset.renderStretches kernel fuel before = some (played, middle)) :
    ∃ heard between, prepared.reset.renderStretches kernel fuel other = some (heard, between) ∧
      (between.renderAll kernel fuel now.card.hz now.calls).map Prod.fst =
        (middle.renderAll kernel fuel now.card.hz now.calls).map Prod.fst := by
  obtain ⟨heard, between, also, _⟩ := (reset_canRender prepared).renderStretches kernel enough other
  refine ⟨heard, between, also, ?_⟩
  have same : between.blank = middle.blank := (renderStretches_alike kernel alike rfl ran also).symm
  have rate : middle.rate = prepared.rate := (renderStretches_rates kernel ran).1
  have rated : between.rate = prepared.rate := (renderStretches_rates kernel also).1
  have differ : prepared.rate.hz ≠ now.card.hz := fun same => converts (hz_injective.mp same).symm
  have fresh := (render_stale_iff kernel ran).mpr changed
  have again := (render_stale_iff kernel also).mpr (lastConverted_alike prepared.rate alike ▸ changed)
  cases now.calls with
  | nil => rfl
  | cons call calls =>
    have nonempty := List.cons_ne_nil call calls
    have here := @renderAll_fresh _ kernel between (rated ▸ differ) (rated ▸ again) _ nonempty fuel
    have there := @renderAll_fresh _ kernel middle (rate ▸ differ) (rate ▸ fresh) _ nonempty fuel
    rw [here, there, rated, rate]
    have refilled := congrArg (fun stream : RtStream =>
      { stream with
        rate := prepared.rate
        ring := { stream.ring with buffers := call.1 }
        resampler := .new prepared.rate.hz now.card.hz }) same
    exact congrArg (fun stream : RtStream => (do
      let (frame, stream) ← stream.render kernel fuel now.card.hz call.2
      let (frames, stream) ← renderAll kernel fuel now.card.hz stream calls
      return (frame :: frames, stream)).map Prod.fst) refilled

/-- What it stores after the change does not depend on what it captured before, nor where. -/
theorem captures_alike (kernel : Kernel) (prepared : RtStream) {fuel : Nat} (enough : 200 ≤ fuel)
    {before other : List (Stretch (Frame 2 × UInt64))} (alike : List.Forall₂ Stretch.Alike before other)
    {now : Stretch (Frame 2 × UInt64)} (converts : now.card ≠ prepared.rate)
    (changed : lastConverted prepared.rate before ≠ some now.card) {middle after : RtStream}
    (ran : prepared.reset.captureStretches kernel fuel before = some middle)
    (captured : middle.captureAll kernel fuel now.card.hz now.calls = some after) :
    ∃ between last stored resampler, prepared.reset.captureStretches kernel fuel other = some between ∧
      between.captureAll kernel fuel now.card.hz now.calls = some last ∧
      (now.calls ≠ [] → after = { middle.storeCalls (now.calls.zip stored) with resampler } ∧
        last = { between.storeCalls (now.calls.zip stored) with resampler }) ∧ after.blank = last.blank := by
  obtain ⟨between, also, can⟩ := (reset_canCapture prepared).captureStretches kernel enough other
  obtain ⟨last, stored, _⟩ := can.captureAll kernel now.card enough now.calls
  have same : middle.blank = between.blank := captureStretches_alike kernel alike rfl ran also
  have rate : middle.rate = prepared.rate := (captureStretches_rates kernel ran).1
  have rated : between.rate = prepared.rate := (captureStretches_rates kernel also).1
  have differ : prepared.rate.hz ≠ now.card.hz := fun same => converts (hz_injective.mp same).symm
  have fresh := (capture_stale_iff kernel ran).mpr changed
  have again := (capture_stale_iff kernel also).mpr (lastConverted_alike prepared.rate alike ▸ changed)
  obtain ⟨frames, resampler, converted, ended⟩ := captureAll_afresh kernel (rate ▸ differ) (rate ▸ fresh) captured
  obtain ⟨others, final, repeated, finished⟩ := captureAll_afresh kernel (rated ▸ differ) (rated ▸ again) stored
  rw [rate] at converted
  rw [rated] at repeated
  obtain ⟨list, left⟩ := Prod.mk.inj (Option.some.inj (converted.symm.trans repeated))
  subst list left
  have times : List.Forall₂ (fun one other : Frame 2 × UInt64 => one.2 = other.2) now.calls now.calls :=
    List.forall₂_same.mpr fun _ _ => rfl
  exact ⟨between, last, frames, resampler, also, stored, fun nonempty => ⟨ended nonempty, finished nonempty⟩,
    captureAll_alike kernel times same captured stored⟩

end RtStream
/-- From the card's change to another rate on a stream converts as a fresh
resampler would, exactly when its last conversion since it was prepared was not
between the same two rates; then samples from before the change are never heard
or stored. -/
theorem converts_afresh_iff (kernel : Kernel) (prepared : RtStream) {fuel : Nat} (enough : 200 ≤ fuel) :
    (∀ (before : List (Stretch (Packets × UInt64))) (now : Stretch (Packets × UInt64)),
      now.card ≠ prepared.rate → now.calls ≠ [] →
      ∃ played middle frames after, prepared.reset.renderStretches kernel fuel before = some (played, middle) ∧
        middle.renderAll kernel fuel now.card.hz now.calls = some (frames, after) ∧
        (RtStream.RendersAfresh kernel middle now.card.hz now.calls frames after ↔
          lastConverted prepared.rate before ≠ some now.card) ∧
        (lastConverted prepared.rate before ≠ some now.card → ∀ other, List.Forall₂ Stretch.Alike before other →
          ∃ heard between, prepared.reset.renderStretches kernel fuel other = some (heard, between) ∧
            (between.renderAll kernel fuel now.card.hz now.calls).map Prod.fst = some frames)) ∧
    (∀ (before : List (Stretch (Frame 2 × UInt64))) (now : Stretch (Frame 2 × UInt64)),
      now.card ≠ prepared.rate → now.calls ≠ [] →
      ∃ middle after, prepared.reset.captureStretches kernel fuel before = some middle ∧
        middle.captureAll kernel fuel now.card.hz now.calls = some after ∧
        (RtStream.CapturesAfresh kernel fuel middle now.card.hz now.calls after ↔
          lastConverted prepared.rate before ≠ some now.card) ∧
        (lastConverted prepared.rate before ≠ some now.card → ∀ other, List.Forall₂ Stretch.Alike before other →
          ∃ between last stored resampler, prepared.reset.captureStretches kernel fuel other = some between ∧
            between.captureAll kernel fuel now.card.hz now.calls = some last ∧
            after = { middle.storeCalls (now.calls.zip stored) with resampler } ∧
            last = { between.storeCalls (now.calls.zip stored) with resampler } ∧ after.blank = last.blank)) := by
  constructor
  · intro before now converts nonempty
    obtain ⟨played, middle, frames, after, ran, rendered, exact⟩ :=
      RtStream.renders_afresh_iff kernel prepared enough before converts nonempty
    refine ⟨played, middle, frames, after, ran, rendered, exact, ?_⟩
    intro changed other alike
    obtain ⟨heard, between, also, same⟩ := RtStream.renders_alike kernel prepared enough alike converts changed ran
    exact ⟨heard, between, also, by rw [same, rendered]; rfl⟩
  · intro before now converts nonempty
    obtain ⟨middle, after, ran, captured, exact⟩ :=
      RtStream.captures_afresh_iff kernel prepared enough before converts nonempty
    refine ⟨middle, after, ran, captured, exact, ?_⟩
    intro changed other alike
    obtain ⟨between, last, stored, resampler, also, repeated, places, same⟩ :=
      RtStream.captures_alike kernel prepared enough alike converts changed ran captured
    obtain ⟨here, there⟩ := places nonempty
    exact ⟨between, last, stored, resampler, also, repeated, here, there, same⟩

/-- A 48 kHz stream with a packet of one frame. -/
def onePacket : RtStream :=
  { RtStream.new .output12 .hz48000 16 with
    ring := { buffers := fun _ _ => 0, count := 1, packetBytes := 4, firstOffset := 0 } }

/-- A call at a card rate while every byte of the packet is the same. -/
def level (card : SampleRate) (byte : UInt8) : Stretch (Packets × UInt64) := ⟨card, [(fun _ _ => byte, 0)]⟩

def constant : Kernel := Vector.replicate _ (2 ^ 24)

/-- A card at 44.1 kHz, at the stream's 48 kHz, and at 44.1 kHz again: other rates
than before at each change, but the last conversion goes on. The packet is silent
by then, and the next frame is made of loud ones from before. -/
theorem bypass_keeps_conversion :
    (¬ ∀ (kernel : Kernel) (prepared : RtStream) (before : List (Stretch (Packets × UInt64)))
      (last now : Stretch (Packets × UInt64)), now.card ≠ prepared.rate → now.calls ≠ [] → last.card ≠ now.card →
      ∀ played middle frames after,
        prepared.reset.renderStretches kernel 200 (before ++ [last]) = some (played, middle) →
        middle.renderAll kernel 200 now.card.hz now.calls = some (frames, after) →
        RtStream.RendersAfresh kernel middle now.card.hz now.calls frames after) ∧
    ∃ played middle frames after,
      onePacket.reset.renderStretches constant 200 ([level .hz44100 0x40] ++ [level .hz48000 0]) = some (played, middle) ∧
        middle.renderAll constant 200 44100 (level .hz44100 0).calls = some (frames, after) ∧
        after.resampler.frameAt after.resampler.center = #v[0x404000, 0x404000] := by
  obtain ⟨played, middle, frames, after, ran, rendered, exact⟩ := RtStream.renders_afresh_iff constant onePacket
    (Nat.le_refl 200) [level .hz44100 0x40, level .hz48000 0] (show (level .hz44100 0).card ≠ onePacket.rate by decide)
    (List.cons_ne_nil _ _)
  constructor
  · intro afresh
    have fresh := afresh constant onePacket [level .hz44100 0x40] (level .hz48000 0) (level .hz44100 0) (by decide)
      (List.cons_ne_nil _ _) (by decide) played middle frames after ran rendered
    exact exact.mp fresh rfl
  · have loud : (onePacket.reset.renderStretches constant 200 [level .hz44100 0x40, level .hz48000 0]).all (fun first =>
        (first.2.renderAll constant 200 44100 (level .hz44100 0).calls).all fun second =>
          decide (second.2.resampler.frameAt second.2.resampler.center = #v[0x404000, 0x404000])) = true := by decide +kernel
    have silenced := (Option.all_eq_true _ _).mp loud _ ran
    have kept := (Option.all_eq_true _ _).mp silenced _ rendered
    exact ⟨played, middle, frames, after, ran, rendered, of_decide_eq_true kept⟩

/-- A card that goes from 44.1 kHz to 88.2 kHz under a 48 kHz stream. -/
theorem converts_afresh_iff_two_rates :
    ∃ played middle frames after,
      onePacket.reset.renderStretches constant 200 [level .hz44100 0x40] = some (played, middle) ∧
      middle.renderAll constant 200 88200 (level .hz88200 0x20).calls = some (frames, after) ∧
      RtStream.RendersAfresh constant middle 88200 (level .hz88200 0x20).calls frames after := by
  obtain ⟨renders, _⟩ := converts_afresh_iff constant onePacket (Nat.le_refl 200)
  obtain ⟨played, middle, frames, after, ran, rendered, exact, _⟩ :=
    renders [level .hz44100 0x40] (level .hz88200 0x20) (by decide) (List.cons_ne_nil _ _)
  exact ⟨played, middle, frames, after, ran, rendered, exact.mpr (by decide)⟩

end Ak1Driver.Driver
