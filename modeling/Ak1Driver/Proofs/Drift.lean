import Ak1Driver.Conversion
import Ak1Driver.Driver.Rt

/-! Converted streams never drift: the frames a stream has taken or delivered
follow from the number of frames converted, exactly, for as long as the rates
stay. The loops end because the resampler's position is exact. -/

namespace Ak1Driver.Driver
open Proto Lib.Loop Lib.Transition

/-- The client has written the packets. -/
def RtStream.refill (stream : RtStream) (buffers : Packets) : RtStream :=
  { stream with ring := { stream.ring with buffers } }

/-- From `before` to `after` a stream moved `count` frames, which its cursor
counts while there are packets. -/
structure Moved (before after : RtStream) (count : Nat) : Prop where
  rate : after.rate = before.rate
  packets : after.ring.count = before.ring.count
  moved : after.moved = before.moved + count
  cursor : before.ring.count ≠ 0 → after.cursor.frames = before.cursor.frames + count

namespace Moved

theorem none (before : RtStream) (resampler : Resampler 2) : Moved before { before with resampler } 0 :=
  ⟨rfl, rfl, rfl, fun _ => rfl⟩

theorem refill (before : RtStream) (buffers : Packets) : Moved before (before.refill buffers) 0 :=
  ⟨rfl, rfl, rfl, fun _ => rfl⟩

theorem trans {before middle after : RtStream} {first second : Nat} (earlier : Moved before middle first)
    (later : Moved middle after second) : Moved before after (first + second) where
  rate := later.rate.trans earlier.rate
  packets := later.packets.trans earlier.packets
  moved := by rw [later.moved, earlier.moved, Nat.add_assoc]
  cursor some := by rw [later.cursor (earlier.packets ▸ some), earlier.cursor some, Nat.add_assoc]

end Moved

namespace RtStream
variable {fromHz toHz up down pushed popped : Nat}

theorem advance_kept (stream : RtStream) (qpc : UInt64) :
    (stream.advance qpc).rate = stream.rate ∧ (stream.advance qpc).ring = stream.ring ∧
      (stream.advance qpc).moved = stream.moved ∧ (stream.advance qpc).resampler = stream.resampler ∧
      (stream.advance qpc).cursor.frames = stream.cursor.frames + 1 := by
  unfold advance
  by_cases empty : stream.ring.count = 0
  · rw [if_pos empty]
    exact ⟨rfl, rfl, rfl, rfl, rfl⟩
  · rw [if_neg empty]
    by_cases first : stream.cursor.frames % stream.framesPerPacket = 0
    · simp only [if_pos first]
      split
      · exact ⟨rfl, rfl, rfl, rfl, rfl⟩
      · exact ⟨rfl, rfl, rfl, rfl, rfl⟩
    · simp only [if_neg first]
      split
      · exact ⟨rfl, rfl, rfl, rfl, rfl⟩
      · exact ⟨rfl, rfl, rfl, rfl, rfl⟩

theorem renderFrame_moved (stream : RtStream) (qpc : UInt64) :
    Moved stream (stream.renderFrame qpc).2 1 ∧ (stream.renderFrame qpc).2.resampler = stream.resampler := by
  cases found : frameBytes { stream with moved := stream.moved + 1 } with
  | none =>
    simp only [renderFrame, found]
    have empty : stream.ring.count = 0 := frameBytes_eq_none.mp found
    exact ⟨⟨rfl, rfl, rfl, absurd empty⟩, trivial⟩
  | some place =>
    simp only [renderFrame, found]
    obtain ⟨rate, ring, moved, resampler, frames⟩ := advance_kept { stream with moved := stream.moved + 1 } qpc
    exact ⟨⟨rate, congrArg Ring.count ring, moved, fun _ => frames⟩, resampler⟩

theorem captureFrame_moved (stream : RtStream) (samples : Frame 2) (qpc : UInt64) :
    Moved stream (stream.captureFrame samples qpc) 1 ∧
      (stream.captureFrame samples qpc).resampler = stream.resampler := by
  cases found : frameBytes { stream with moved := stream.moved + 1 } with
  | none =>
    simp only [captureFrame, found]
    obtain ⟨rate, ring, moved, resampler, frames⟩ := advance_kept { stream with moved := stream.moved + 1 } qpc
    exact ⟨⟨rate, congrArg Ring.count ring, moved, fun _ => frames⟩, resampler⟩
  | some place =>
    simp only [captureFrame, found]
    obtain ⟨rate, ring, moved, resampler, frames⟩ := advance_kept
      ((writeSample { stream with moved := stream.moved + 1 } place.1 place.2 samples[0]).writeSample place.1
        (place.2 + stream.containerBytes) samples[1]) qpc
    exact ⟨⟨rate, (congrArg Ring.count ring).trans rfl, moved, fun _ => frames⟩, resampler⟩

/-- The input that output frame number `popped` needs, and no more. -/
def needed (up down popped : Nat) : Nat := popped * down / up + halfWidth up down + 1

/-- A stream on its way to output frame number `popped`, since it was `before`
and had pushed `pushed` frames. -/
structure Pulling (fromHz toHz up down pushed popped : Nat) (before stream : RtStream) (taken : Nat) : Prop where
  moved : Moved before stream taken
  tracks : Tracks fromHz toHz up down (pushed + taken) popped stream.resampler
  short : pushed + taken ≤ needed up down popped

theorem renderTurn_cases (lowest : LowestTerms fromHz toHz up down) (kernel : Kernel) {before stream : RtStream}
    {taken : Nat} (qpc : UInt64) (pulling : Pulling fromHz toHz up down pushed popped before stream taken) :
    (∃ next, renderTurn kernel qpc stream = .inl next ∧ pushed + taken < needed up down popped ∧
      Pulling fromHz toHz up down pushed popped before next (taken + 1)) ∨
    (∃ frame after, renderTurn kernel qpc stream = .inr (frame, after) ∧ pushed + taken = needed up down popped ∧
      Moved before after taken ∧ Tracks fromHz toHz up down (pushed + taken) (popped + 1) after.resampler) := by
  rcases pulling.tracks.pop_cases lowest kernel with ⟨few, found⟩ | ⟨enough, frame, after, found, next, _⟩
  · left
    have room : pushed + taken < needed up down popped := Nat.lt_succ_of_le few
    obtain ⟨moved, kept⟩ := renderFrame_moved stream qpc
    simp only [renderTurn, found]
    refine ⟨_, rfl, room, ?_, ?_, room⟩
    · exact pulling.moved.trans (moved.trans (Moved.none _ _))
    · rw [kept]
      exact pulling.tracks.push _
  · right
    simp only [renderTurn, found]
    exact ⟨frame, _, rfl, Nat.le_antisymm pulling.short enough, pulling.moved.trans (Moved.none _ _), next⟩

/-- The loop in `render` takes exactly the input that the next output frame needs. -/
theorem renderTurn_loop (lowest : LowestTerms fromHz toHz up down) (kernel : Kernel) {stream : RtStream} (qpc : UInt64)
    (tracks : Tracks fromHz toHz up down pushed popped stream.resampler) (short : pushed ≤ needed up down popped)
    {fuel : Nat} (enough : needed up down popped - pushed < fuel) :
    ∃ frame after, loop (renderTurn kernel qpc) fuel stream = some (frame, after) ∧
      Moved stream after (needed up down popped - pushed) ∧
      Tracks fromHz toHz up down (needed up down popped) (popped + 1) after.resampler := by
  have ended : ∃ result, loop (renderTurn kernel qpc) fuel stream = some result ∧
      (Moved stream result.2 (needed up down popped - pushed) ∧
        Tracks fromHz toHz up down (needed up down popped) (popped + 1) result.2.resampler) := by
    refine loop_ends (fun state => ∃ taken, Pulling fromHz toHz up down pushed popped stream state taken) _
      (fun state => needed up down popped - state.resampler.pushed) ?_ ?_
      ⟨0, Moved.none stream stream.resampler, tracks, short⟩ (tracks.pushed ▸ enough)
    · rintro state next ⟨taken, pulling⟩ turned
      rcases renderTurn_cases lowest kernel qpc pulling with ⟨other, same, room, still⟩ | ⟨frame, after, same, _⟩
      · cases same.symm.trans turned
        have before := pulling.tracks.pushed
        have later := still.tracks.pushed
        exact ⟨⟨_, still⟩, by omega⟩
      · cases same.symm.trans turned
    · rintro state result ⟨taken, pulling⟩ turned
      rcases renderTurn_cases lowest kernel qpc pulling with ⟨other, same, _⟩ | ⟨frame, after, same, exact, moved, next⟩
      · cases same.symm.trans turned
      · cases same.symm.trans turned
        have all : needed up down popped - pushed = taken := by omega
        rw [all, ← exact]
        exact ⟨moved, next⟩
  obtain ⟨⟨frame, after⟩, looped, moved, next⟩ := ended
  exact ⟨frame, after, looped, moved, next⟩

/-- The output frames that `pushed` input frames are enough for. -/
def due (up down pushed : Nat) : Nat := ((pushed - halfWidth up down) * up) ⌈/⌉ down

theorem lt_due_iff (lowest : LowestTerms fromHz toHz up down) :
    popped < due up down pushed ↔ popped * down / up + halfWidth up down < pushed := by
  have reached : due up down pushed ≤ popped ↔ (pushed - halfWidth up down) * up ≤ popped * down := by
    rw [Nat.mul_comm popped]
    exact ceilDiv_le_iff_le_smul lowest.down_positive
  have steps : popped * down / up < pushed - halfWidth up down ↔ popped * down < (pushed - halfWidth up down) * up :=
    Nat.div_lt_iff_lt_mul lowest.up_positive
  rw [← Nat.not_le, reached, Nat.not_le, ← steps]
  exact Nat.lt_sub_iff_add_lt

/-- A stream that has delivered `given` output frames since it was `before` and
had popped `popped`. -/
structure Draining (fromHz toHz up down pushed popped : Nat) (before stream : RtStream) (given : Nat) : Prop where
  moved : Moved before stream given
  tracks : Tracks fromHz toHz up down pushed (popped + given) stream.resampler
  short : popped + given ≤ due up down pushed

theorem captureTurn_cases (lowest : LowestTerms fromHz toHz up down) (kernel : Kernel) {before stream : RtStream}
    {given : Nat} (qpc : UInt64) (draining : Draining fromHz toHz up down pushed popped before stream given) :
    (∃ next, captureTurn kernel qpc stream = .inl next ∧ popped + given < due up down pushed ∧
      Draining fromHz toHz up down pushed popped before next (given + 1)) ∨
    (∃ after, captureTurn kernel qpc stream = .inr after ∧ popped + given = due up down pushed ∧
      Moved before after given ∧ Tracks fromHz toHz up down pushed (popped + given) after.resampler) := by
  rcases draining.tracks.pop_cases lowest kernel with ⟨few, found⟩ | ⟨enough, frame, after, found, next, _⟩
  · right
    have all : due up down pushed ≤ popped + given :=
      Nat.le_of_not_lt fun room => Nat.not_le_of_lt ((lt_due_iff lowest).mp room) few
    simp only [captureTurn, found]
    exact ⟨_, rfl, Nat.le_antisymm draining.short all, draining.moved.trans (Moved.none _ _), draining.tracks⟩
  · left
    have room : popped + given < due up down pushed := (lt_due_iff lowest).mpr enough
    obtain ⟨moved, kept⟩ := captureFrame_moved { stream with resampler := after } frame qpc
    simp only [captureTurn, found]
    refine ⟨_, rfl, room, ?_, ?_, room⟩
    · exact draining.moved.trans ((Moved.none stream after).trans moved)
    · rw [kept]
      exact next

/-- The loop in `capture` delivers exactly the output that its input is enough for. -/
theorem captureTurn_loop (lowest : LowestTerms fromHz toHz up down) (kernel : Kernel) {stream : RtStream} (qpc : UInt64)
    (tracks : Tracks fromHz toHz up down pushed popped stream.resampler) (short : popped ≤ due up down pushed)
    {fuel : Nat} (enough : due up down pushed - popped < fuel) :
    ∃ after, loop (captureTurn kernel qpc) fuel stream = some after ∧ Moved stream after (due up down pushed - popped) ∧
      Tracks fromHz toHz up down pushed (due up down pushed) after.resampler := by
  refine loop_ends (fun state => ∃ given, Draining fromHz toHz up down pushed popped stream state given) _
    (fun state => stream.moved + (due up down pushed - popped) - state.moved) ?_ ?_
    ⟨0, Moved.none stream stream.resampler, tracks, short⟩ (by omega)
  · rintro state next ⟨given, draining⟩ turned
    rcases captureTurn_cases lowest kernel qpc draining with ⟨other, same, room, still⟩ | ⟨after, same, _⟩
    · cases same.symm.trans turned
      have before := draining.moved.moved
      have later := still.moved.moved
      exact ⟨⟨_, still⟩, by omega⟩
    · cases same.symm.trans turned
  · rintro state result ⟨given, draining⟩ turned
    rcases captureTurn_cases lowest kernel qpc draining with ⟨other, same, _⟩ | ⟨after, same, exact, moved, next⟩
    · cases same.symm.trans turned
    · cases same.symm.trans turned
      have all : due up down pushed - popped = given := by omega
      rw [all, ← exact]
      exact ⟨moved, next⟩

def renderAll (kernel : Kernel) (fuel cardHz : Nat) : RtStream → List (Packets × UInt64) → Option (List (Frame 2) × RtStream)
  | stream, [] => some ([], stream)
  | stream, (buffers, qpc) :: calls => do
    let (frame, stream) ← (stream.refill buffers).render kernel fuel cardHz qpc
    let (frames, stream) ← renderAll kernel fuel cardHz stream calls
    return (frame :: frames, stream)

def captureAll (kernel : Kernel) (fuel cardHz : Nat) : RtStream → List (Frame 2 × UInt64) → Option RtStream
  | stream, [] => some stream
  | stream, (samples, qpc) :: calls => do
    let stream ← stream.capture kernel fuel samples cardHz qpc
    captureAll kernel fuel cardHz stream calls

/-- A step of the ratio takes at most this much more input. -/
theorem needed_succ (lowest : LowestTerms fromHz toHz up down) (popped : Nat) :
    needed up down popped ≤ needed up down (popped + 1) ∧
      needed up down (popped + 1) ≤ needed up down popped + (down / up + 1) := by
  have split : (popped * down + down) / up =
      popped * down / up + down / up + if up ≤ popped * down % up + down % up then 1 else 0 :=
    Nat.add_div lowest.up_positive
  rw [needed, needed, Nat.succ_mul, split]
  generalize popped * down / up = before
  generalize down / up = whole
  by_cases carry : up ≤ popped * down % up + down % up
  · rw [if_pos carry]
    omega
  · rw [if_neg carry]
    omega

theorem due_succ (lowest : LowestTerms fromHz toHz up down) (pushed : Nat) :
    due up down pushed ≤ due up down (pushed + 1) ∧ due up down (pushed + 1) ≤ due up down pushed + (up / down + 1) := by
  have positive := lowest.down_positive
  constructor
  · apply (ceilDiv_le_iff_le_smul positive).mpr
    have enough : (pushed + 1 - halfWidth up down) * up ≤ down * due up down (pushed + 1) := le_smul_ceilDiv positive
    exact Nat.le_trans (Nat.mul_le_mul_right up (by omega)) enough
  · apply (ceilDiv_le_iff_le_smul positive).mpr
    have enough : (pushed - halfWidth up down) * up ≤ down * due up down pushed := le_smul_ceilDiv positive
    have more : up ≤ down * (up / down + 1) := (Nat.lt_mul_div_succ up positive).le
    calc (pushed + 1 - halfWidth up down) * up
        ≤ (pushed - halfWidth up down + 1) * up := Nat.mul_le_mul_right up (by omega)
      _ = (pushed - halfWidth up down) * up + up := Nat.succ_mul _ _
      _ ≤ down * due up down pushed + down * (up / down + 1) := Nat.add_le_add enough more
      _ = down * (due up down pushed + (up / down + 1)) := (Nat.mul_add _ _ _).symm

/-- The input a stream has taken once it has played so many frames. -/
def taken (up down : Nat) : Nat → Nat
  | 0 => 0
  | played + 1 => needed up down played

theorem taken_short (lowest : LowestTerms fromHz toHz up down) (played : Nat) :
    taken up down played ≤ needed up down played ∧
      needed up down played ≤ taken up down played + (halfWidth up down + down / up + 1) := by
  cases played with
  | zero =>
    simp only [taken, needed, Nat.zero_mul, Nat.zero_div]
    exact ⟨Nat.zero_le _, by generalize down / up = whole; omega⟩
  | succ played =>
    obtain ⟨grows, bounded⟩ := needed_succ lowest played
    exact ⟨grows, by simp only [taken]; generalize down / up = whole at *; omega⟩

/-- A stream that converts since it was `before`, and has played `played` frames. -/
structure Rendering (fromHz toHz up down played : Nat) (before stream : RtStream) : Prop where
  moved : Moved before stream (taken up down played)
  tracks : Tracks fromHz toHz up down (taken up down played) played stream.resampler

theorem render_rendering (lowest : LowestTerms fromHz toHz up down) (differ : fromHz ≠ toHz) (kernel : Kernel)
    {before stream : RtStream} (rate : before.rate.hz = fromHz) (qpc : UInt64) {fuel played : Nat}
    (enough : halfWidth up down + down / up + 1 < fuel) (rendering : Rendering fromHz toHz up down played before stream) :
    ∃ frame after, stream.render kernel fuel toHz qpc = some (frame, after) ∧
      Rendering fromHz toHz up down (played + 1) before after := by
  have hz : stream.rate.hz = fromHz := rendering.moved.rate ▸ rate
  have same : ¬ stream.resampler.rates ≠ (fromHz, toHz) := not_not.mpr rendering.tracks.rates
  obtain ⟨short, bounded⟩ := taken_short lowest played
  obtain ⟨frame, after, looped, moved, next⟩ := renderTurn_loop lowest kernel qpc rendering.tracks short
    (Nat.lt_of_le_of_lt (Nat.sub_le_iff_le_add'.mpr bounded) enough)
  refine ⟨frame, after, ?_, ?_, next⟩
  · simp only [render, hz, if_neg differ, if_neg same]
    exact looped
  · have all := rendering.moved.trans moved
    rwa [Nat.add_sub_cancel' short] at all

/-- A stream that converts since it was `before`, and has captured `captured` frames. -/
structure Capturing (fromHz toHz up down captured : Nat) (before stream : RtStream) : Prop where
  moved : Moved before stream (due up down captured)
  tracks : Tracks fromHz toHz up down captured (due up down captured) stream.resampler

theorem capture_capturing (lowest : LowestTerms fromHz toHz up down) (differ : fromHz ≠ toHz) (kernel : Kernel)
    {before stream : RtStream} (rate : before.rate.hz = toHz) (samples : Frame 2) (qpc : UInt64) {fuel captured : Nat}
    (enough : up / down + 1 < fuel) (capturing : Capturing fromHz toHz up down captured before stream) :
    ∃ after, stream.capture kernel fuel samples fromHz qpc = some after ∧
      Capturing fromHz toHz up down (captured + 1) before after := by
  have hz : stream.rate.hz = toHz := capturing.moved.rate ▸ rate
  have same : ¬ stream.resampler.rates ≠ (fromHz, toHz) := not_not.mpr capturing.tracks.rates
  obtain ⟨short, bounded⟩ := due_succ lowest captured
  let pushed : RtStream := { stream with resampler := stream.resampler.push samples }
  have tracks : Tracks fromHz toHz up down (captured + 1) (due up down captured) pushed.resampler :=
    capturing.tracks.push samples
  obtain ⟨after, looped, moved, next⟩ := captureTurn_loop lowest kernel qpc tracks short
    (Nat.lt_of_le_of_lt (Nat.sub_le_iff_le_add'.mpr bounded) enough)
  refine ⟨after, ?_, ?_, next⟩
  · simp only [capture, hz, if_neg (Ne.symm differ), if_neg same]
    exact looped
  · have all := (capturing.moved.trans (Moved.none stream _)).trans moved
    rwa [Nat.add_zero, Nat.add_sub_cancel' short] at all

theorem renderAll_rendering (lowest : LowestTerms fromHz toHz up down) (differ : fromHz ≠ toHz) (kernel : Kernel)
    {before stream : RtStream} (rate : before.rate.hz = fromHz) (calls : List (Packets × UInt64)) {fuel played : Nat}
    (enough : halfWidth up down + down / up + 1 < fuel) (rendering : Rendering fromHz toHz up down played before stream) :
    ∃ frames after, stream.renderAll kernel fuel toHz calls = some (frames, after) ∧ frames.length = calls.length ∧
      Rendering fromHz toHz up down (played + calls.length) before after := by
  induction calls generalizing stream played with
  | nil => exact ⟨[], stream, rfl, rfl, rendering⟩
  | cons call calls ih =>
    obtain ⟨buffers, qpc⟩ := call
    have refilled : Rendering fromHz toHz up down played before (stream.refill buffers) :=
      ⟨rendering.moved.trans (Moved.refill stream buffers), rendering.tracks⟩
    obtain ⟨frame, middle, rendered, next⟩ := render_rendering lowest differ kernel rate qpc enough refilled
    obtain ⟨frames, after, ran, counted, all⟩ := ih next
    refine ⟨frame :: frames, after, ?_, congrArg Nat.succ counted, ?_⟩
    · simp only [renderAll, rendered, ran, Option.bind_eq_bind, Option.bind_some]
      rfl
    · rwa [List.length_cons, Nat.add_comm calls.length, ← Nat.add_assoc]

theorem captureAll_capturing (lowest : LowestTerms fromHz toHz up down) (differ : fromHz ≠ toHz) (kernel : Kernel)
    {before stream : RtStream} (rate : before.rate.hz = toHz) (calls : List (Frame 2 × UInt64)) {fuel captured : Nat}
    (enough : up / down + 1 < fuel) (capturing : Capturing fromHz toHz up down captured before stream) :
    ∃ after, stream.captureAll kernel fuel fromHz calls = some after ∧
      Capturing fromHz toHz up down (captured + calls.length) before after := by
  induction calls generalizing stream captured with
  | nil => exact ⟨stream, rfl, capturing⟩
  | cons call calls ih =>
    obtain ⟨samples, qpc⟩ := call
    obtain ⟨middle, stored, next⟩ := capture_capturing lowest differ kernel rate samples qpc enough capturing
    obtain ⟨after, ran, all⟩ := ih next
    refine ⟨after, ?_, ?_⟩
    · simp only [captureAll, stored, ran, Option.bind_eq_bind, Option.bind_some]
    · rwa [List.length_cons, Nat.add_comm calls.length, ← Nat.add_assoc]

theorem renderAll_direct (kernel : Kernel) {stream : RtStream} (rate : stream.rate.hz = toHz)
    (calls : List (Packets × UInt64)) (fuel : Nat) :
    ∃ frames after, stream.renderAll kernel fuel toHz calls = some (frames, after) ∧ frames.length = calls.length ∧
      Moved stream after calls.length := by
  induction calls generalizing stream with
  | nil => exact ⟨[], stream, rfl, rfl, Moved.none stream stream.resampler⟩
  | cons call calls ih =>
    obtain ⟨buffers, qpc⟩ := call
    obtain ⟨moved, _⟩ := renderFrame_moved (stream.refill buffers) qpc
    have refilled : (stream.refill buffers).rate.hz = toHz := rate
    obtain ⟨frames, after, ran, counted, all⟩ := ih (moved.rate ▸ rate)
    refine ⟨((stream.refill buffers).renderFrame qpc).1 :: frames, after, ?_, congrArg Nat.succ counted, ?_⟩
    · simp only [renderAll, render, refilled, if_true, ran, Option.bind_eq_bind, Option.bind_some]
      rfl
    · rw [List.length_cons, Nat.add_comm]
      exact ((Moved.refill stream buffers).trans moved).trans all

theorem captureAll_direct (kernel : Kernel) {stream : RtStream} (rate : stream.rate.hz = fromHz)
    (calls : List (Frame 2 × UInt64)) (fuel : Nat) :
    ∃ after, stream.captureAll kernel fuel fromHz calls = some after ∧ Moved stream after calls.length := by
  induction calls generalizing stream with
  | nil => exact ⟨stream, rfl, Moved.none stream stream.resampler⟩
  | cons call calls ih =>
    obtain ⟨samples, qpc⟩ := call
    obtain ⟨moved, _⟩ := captureFrame_moved stream samples qpc
    obtain ⟨after, ran, all⟩ := ih (moved.rate ▸ rate)
    refine ⟨after, ?_, ?_⟩
    · simp only [captureAll, capture, rate, if_true, ran, Option.bind_eq_bind, Option.bind_some]
    · rw [List.length_cons, Nat.add_comm]
      exact moved.trans all

/-- The first frame at other rates starts the conversion over. -/
theorem render_fresh (kernel : Kernel) {stream : RtStream} (differ : stream.rate.hz ≠ toHz)
    (fresh : stream.resampler.rates ≠ (stream.rate.hz, toHz)) (fuel : Nat) (qpc : UInt64) :
    stream.render kernel fuel toHz qpc =
      { stream with resampler := .new stream.rate.hz toHz }.render kernel fuel toHz qpc := by
  have set : ¬ (Resampler.new stream.rate.hz toHz : Resampler 2).rates ≠ (stream.rate.hz, toHz) := not_not.mpr rfl
  simp only [render, if_neg differ, if_pos fresh, if_neg set]
  rfl

theorem capture_fresh (kernel : Kernel) {stream : RtStream} (differ : stream.rate.hz ≠ fromHz)
    (fresh : stream.resampler.rates ≠ (fromHz, stream.rate.hz)) (fuel : Nat) (samples : Frame 2) (qpc : UInt64) :
    stream.capture kernel fuel samples fromHz qpc =
      { stream with resampler := .new fromHz stream.rate.hz }.capture kernel fuel samples fromHz qpc := by
  have set : ¬ (Resampler.new fromHz stream.rate.hz : Resampler 2).rates ≠ (fromHz, stream.rate.hz) := not_not.mpr rfl
  simp only [capture, if_neg differ, if_pos fresh, if_neg set]
  rfl

theorem renderAll_fresh (kernel : Kernel) {stream : RtStream} (differ : stream.rate.hz ≠ toHz)
    (fresh : stream.resampler.rates ≠ (stream.rate.hz, toHz)) {calls : List (Packets × UInt64)} (nonempty : calls ≠ [])
    (fuel : Nat) : stream.renderAll kernel fuel toHz calls =
      { stream with resampler := .new stream.rate.hz toHz }.renderAll kernel fuel toHz calls := by
  cases calls with
  | nil => exact absurd rfl nonempty
  | cons call calls =>
    rw [renderAll, renderAll, @render_fresh toHz kernel (stream.refill call.1) differ fresh]
    rfl

theorem captureAll_fresh (kernel : Kernel) {stream : RtStream} (differ : stream.rate.hz ≠ fromHz)
    (fresh : stream.resampler.rates ≠ (fromHz, stream.rate.hz)) {calls : List (Frame 2 × UInt64)} (nonempty : calls ≠ [])
    (fuel : Nat) : stream.captureAll kernel fuel fromHz calls =
      { stream with resampler := .new fromHz stream.rate.hz }.captureAll kernel fuel fromHz calls := by
  cases calls with
  | nil => exact absurd rfl nonempty
  | cons call calls => rw [captureAll, captureAll, capture_fresh kernel differ fresh]

theorem renderAll_moved (lowest : LowestTerms fromHz toHz up down) (differ : fromHz ≠ toHz) (kernel : Kernel)
    {stream : RtStream} (rate : stream.rate.hz = fromHz) (fresh : stream.resampler.rates ≠ (fromHz, toHz))
    {calls : List (Packets × UInt64)} (nonempty : calls ≠ []) {fuel : Nat}
    (enough : halfWidth up down + down / up + 1 < fuel) :
    ∃ frames after, stream.renderAll kernel fuel toHz calls = some (frames, after) ∧ frames.length = calls.length ∧
      Moved stream after ((calls.length - 1) * down / up + halfWidth up down + 1) := by
  let ready : RtStream := { stream with resampler := .new fromHz toHz }
  have start : Rendering fromHz toHz up down 0 ready ready := ⟨Moved.none ready ready.resampler, Tracks.new lowest⟩
  obtain ⟨frames, after, ran, counted, all⟩ := renderAll_rendering lowest differ kernel (show ready.rate.hz = _ from rate) calls enough start
  subst rate
  refine ⟨frames, after, (renderAll_fresh kernel differ fresh nonempty fuel).trans ran, counted, ?_⟩
  cases calls with
  | nil => exact absurd rfl nonempty
  | cons call calls =>
    have moved := all.moved
    rw [Nat.zero_add, List.length_cons] at moved
    exact ⟨moved.rate, moved.packets, moved.moved, moved.cursor⟩

theorem captureAll_moved (lowest : LowestTerms fromHz toHz up down) (differ : fromHz ≠ toHz) (kernel : Kernel)
    {stream : RtStream} (rate : stream.rate.hz = toHz) (fresh : stream.resampler.rates ≠ (fromHz, toHz))
    (calls : List (Frame 2 × UInt64)) {fuel : Nat} (enough : up / down + 1 < fuel) :
    ∃ after, stream.captureAll kernel fuel fromHz calls = some after ∧
      Moved stream after (((calls.length - halfWidth up down) * up) ⌈/⌉ down) := by
  let ready : RtStream := { stream with resampler := .new fromHz toHz }
  have none : due up down 0 = 0 := by simp [due]
  have start : Capturing fromHz toHz up down 0 ready ready := by
    constructor
    · rw [none]
      exact Moved.none ready ready.resampler
    · rw [none]
      exact Tracks.new lowest
  obtain ⟨after, ran, all⟩ := captureAll_capturing lowest differ kernel (show ready.rate.hz = _ from rate) calls enough start
  subst rate
  cases calls with
  | nil =>
    rw [List.length_nil, Nat.zero_sub, Nat.zero_mul, zero_ceilDiv]
    exact ⟨stream, rfl, Moved.none stream stream.resampler⟩
  | cons call calls =>
    have moved := all.moved
    rw [Nat.zero_add] at moved
    refine ⟨after, ?_, ⟨moved.rate, moved.packets, moved.moved, moved.cursor⟩⟩
    exact (captureAll_fresh kernel (Ne.symm differ) fresh (List.cons_ne_nil call calls) fuel).trans ran

end RtStream

/-- The position of a conversion is exact for ever, so `render` and `capture`
always return, and take and deliver exactly the frames that the ratio gives. At
equal rates nothing is converted, and they move one frame for each. -/
theorem conversion_never_drifts {fromHz toHz up down : Nat} (lowest : LowestTerms fromHz toHz up down) (kernel : Kernel) :
    (∀ (channels : Nat) (events : List (Conversion.Event channels)) (final : Conversion channels),
      run (Conversion.step kernel) (.start fromHz toHz) events = some final →
        final.resampler.taps = halfWidth up down ∧
        final.resampler.center * up + final.resampler.phase = final.output.length * down ∧
        final.resampler.phase < up ∧
        ((final.resampler.pop kernel).1.isSome = true ↔
          final.output.length * down / up + halfWidth up down < final.input.length)) ∧
    (∀ (stream : RtStream) (calls : List (Packets × UInt64)) (fuel : Nat), fromHz ≠ toHz → stream.rate.hz = fromHz →
      stream.resampler.rates ≠ (fromHz, toHz) → calls ≠ [] → halfWidth up down + down / up + 1 < fuel →
        ∃ frames after, stream.renderAll kernel fuel toHz calls = some (frames, after) ∧ frames.length = calls.length ∧
          Moved stream after ((calls.length - 1) * down / up + halfWidth up down + 1)) ∧
    (∀ (stream : RtStream) (calls : List (Frame 2 × UInt64)) (fuel : Nat), fromHz ≠ toHz → stream.rate.hz = toHz →
      stream.resampler.rates ≠ (fromHz, toHz) → up / down + 1 < fuel →
        ∃ after, stream.captureAll kernel fuel fromHz calls = some after ∧
          Moved stream after (((calls.length - halfWidth up down) * up) ⌈/⌉ down)) ∧
    (∀ (stream : RtStream) (plays : List (Packets × UInt64)) (captures : List (Frame 2 × UInt64)) (fuel : Nat),
      stream.rate.hz = fromHz → fromHz = toHz →
        (∃ frames after, stream.renderAll kernel fuel toHz plays = some (frames, after) ∧
          frames.length = plays.length ∧ Moved stream after plays.length) ∧
        ∃ after, stream.captureAll kernel fuel toHz captures = some after ∧ Moved stream after captures.length) := by
  refine ⟨?_, ?_, ?_, ?_⟩
  · intro channels events final ran
    have tracks := Conversion.run_tracks lowest ran
    refine ⟨tracks.taps, tracks.position, tracks.within, ?_⟩
    rcases tracks.pop_cases lowest kernel with ⟨few, found⟩ | ⟨enough, frame, after, found, _⟩
    · rw [found]
      exact ⟨fun taken => absurd taken Bool.false_ne_true, fun more => absurd more (Nat.not_lt_of_le few)⟩
    · rw [found]
      exact ⟨fun _ => enough, fun _ => rfl⟩
  · intro stream calls fuel differ rate fresh nonempty enough
    exact RtStream.renderAll_moved lowest differ kernel rate fresh nonempty enough
  · intro stream calls fuel differ rate fresh enough
    exact RtStream.captureAll_moved lowest differ kernel rate fresh calls enough
  · intro stream plays captures fuel rate same
    subst same
    exact ⟨RtStream.renderAll_direct kernel rate plays fuel, RtStream.captureAll_direct kernel rate captures fuel⟩

/-- Three frames of a 48 kHz stream on a card at 44.1 kHz take 38 frames. -/
theorem conversion_never_drifts_three_frames :
    ∃ frames after, (RtStream.new .output12 .hz48000 16).renderAll (Vector.replicate _ (2 ^ 30)) 100 44100
        [(fun _ _ => 1, 7), (fun _ _ => 2, 8), (fun _ _ => 3, 9)] = some (frames, after) ∧
      frames.length = 3 ∧ after.moved = 38 := by
  have lowest : LowestTerms 48000 44100 147 160 := ⟨by decide, by decide, by decide, by decide, by decide, by decide⟩
  obtain ⟨_, renders, _⟩ := conversion_never_drifts lowest (Vector.replicate _ (2 ^ 30))
  obtain ⟨frames, after, ran, counted, moved⟩ := renders (.new .output12 .hz48000 16)
    [(fun _ _ => 1, 7), (fun _ _ => 2, 8), (fun _ _ => 3, 9)] 100 (by decide) rfl (by decide) (by decide) (by decide)
  exact ⟨frames, after, ran, counted, moved.moved⟩

end Ak1Driver.Driver
