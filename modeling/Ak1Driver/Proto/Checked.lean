import Ak1Driver.Lib.Checked
import Ak1Driver.Proto.Resample

/-! The resampler as a debug build runs it: an operation whose result does not
fit its type fails, and so do a division by zero, an index out of bounds and a
false assertion. -/

namespace Ak1Driver.Proto.Resampler.Checked
open Lib.Checked
variable {channels : Nat}

def Wide (values : Vector Int channels) : Prop := ∀ channel (_ : channel < channels), |values[channel]| < 2 ^ 63

instance (values : Vector Int channels) : Decidable (Wide values) := inferInstanceAs (Decidable (∀ _ _, _))

/-- One `i64` for each channel. -/
def wide (values : Vector Int channels) : Option (Vector Int channels) := if Wide values then some values else none

def taps (width up : Nat) : Option Nat := if up = 0 then none else unsigned 63 (width ⌈/⌉ up)

def gain (up down : Nat) : Option Nat :=
  if up < down then (signed 64 (up * 2 ^ 16)).bind fun scaled => quotient scaled.toNat down else some 0

def reset (resampler : Resampler channels) (fromHz toHz : Nat) : Option (Resampler channels) := do
  let common := gcd fromHz toHz
  let up ← quotient toHz common
  let down ← quotient fromHz common
  let scale := max up down
  let width ← unsigned 64 (zeroCrossings * scale)
  let taps ← taps width up
  let gain ← gain up down
  let reciprocal ← quotient (2 ^ 32) scale
  let step ← unsigned 64 (up * steps)
  let whole ← quotient step scale
  let part ← remainder step scale
  let after := { resampler with
    rates := (fromHz, toHz), up, down, scale, taps, gain, reciprocal
    step := (whole, part)
    pushed := 0
    center := 0
    phase := 0
    history := Vector.replicate historyFrames silence }
  if after.Asserted then some after else none

theorem next_lt (resampler : Resampler channels) : place resampler.pushed < historyFrames := place_lt _

def push (resampler : Resampler channels) (frame : Frame channels) : Option (Resampler channels) := do
  let pushed ← unsigned 63 (resampler.pushed + 1)
  some { resampler with history := resampler.history.set (place resampler.pushed) frame (next_lt resampler), pushed }

def coefficient (kernel : Kernel) (resampler : Resampler channels) (index fraction : Nat) : Option Int := do
  let left ← kernel[index]?
  let right ← kernel[index + 1]?
  let scaled ← unsigned 64 (fraction * resampler.reciprocal)
  let weight := scaled >>> 16
  let span ← signed 64 (right.toInt - left.toInt)
  let product ← signed 64 (span * weight)
  let between ← signed 64 (left.toInt + product / 2 ^ 16)
  if resampler.gain ≠ 0 then (signed 64 (between * resampler.gain)).map (· / 2 ^ 16) else some between

def nextTap (resampler : Resampler channels) (index fraction : Nat) : Option (Nat × Nat) := do
  let index ← unsigned 64 (index + resampler.step.1)
  let fraction ← unsigned 64 (fraction + resampler.step.2)
  if resampler.scale ≤ fraction then
    (unsigned 64 (index + 1)).bind fun index => (minus fraction resampler.scale).map fun fraction => (index, fraction)
  else some (index, fraction)

def addTaps (kernel : Kernel) (resampler : Resampler channels) (first direction : Int) :
    (left tap index fraction : Nat) → (sums : Vector Int channels) → Option (Vector Int channels)
  | 0, _, _, _, sums => some sums
  | left + 1, tap, index, fraction, sums =>
    if index < zeroCrossings * steps then do
      let coefficient ← coefficient kernel resampler index fraction
      let moved ← signed 64 (direction * tap)
      let position ← signed 64 (first + moved)
      let products ← wide ((resampler.frameAt position).map (· * coefficient))
      let sums ← wide (sums.zipWith (· + ·) products)
      let (index, fraction) ← nextTap resampler index fraction
      addTaps kernel resampler first direction left (tap + 1) index fraction sums
    else some sums

def first (resampler : Resampler channels) (direction : Int) : Option Int :=
  if direction < 0 then some resampler.center else signed 64 (resampler.center + 1)

def addSide (kernel : Kernel) (resampler : Resampler channels) (sums : Vector Int channels) (direction : Int)
    (distance : Nat) : Option (Vector Int channels) := do
  let position ← unsigned 64 (distance * steps)
  let index ← quotient position resampler.scale
  let fraction ← remainder position resampler.scale
  let first ← first resampler direction
  addTaps kernel resampler first direction resampler.taps 0 index fraction sums

def popped (kernel : Kernel) (resampler : Resampler channels) : Option (Frame channels × Resampler channels) := do
  let sums ← addSide kernel resampler (Vector.replicate channels 0) (-1) resampler.phase
  let distance ← minus resampler.up resampler.phase
  let sums ← addSide kernel resampler sums 1 distance
  let phase ← unsigned 32 (resampler.phase + resampler.down)
  let more ← quotient phase resampler.up
  let center ← unsigned 63 (resampler.center + more)
  let phase ← remainder phase resampler.up
  let sums ← wide (sums.map (· + 2 ^ 29))
  some (sums.map fun sum => clamp (sum / 2 ^ 30) minSample maxSample, { resampler with center, phase })

def pop (kernel : Kernel) (resampler : Resampler channels) : Option (Option (Frame channels) × Resampler channels) := do
  if resampler.up = 0 then some (none, resampler)
  else
    let needed ← unsigned 63 (resampler.center + resampler.taps)
    if resampler.pushed ≤ needed then some (none, resampler)
    else (popped kernel resampler).map fun (frame, resampler) => (some frame, resampler)

end Ak1Driver.Proto.Resampler.Checked
