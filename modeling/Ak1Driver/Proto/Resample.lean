import Ak1Driver.Proto.Buffers
import Mathlib.Algebra.Order.Floor.Div

/-! Sample rate conversion between the card's rates by band-limited
interpolation. The kernel's table comes from the build and is a parameter. The
source's `i64` counters start at zero and only grow, so they are `Nat`; the sums
wrap as its `i64` does, and shifting one right divides it, rounding down. -/

namespace Ak1Driver.Proto

abbrev zeroCrossings : Nat := 32
abbrev steps : Nat := 256
abbrev historyFrames : Nat := 512
abbrev maxSample : Int := 2 ^ 23 - 1
abbrev minSample : Int := -2 ^ 23

/-- One side of the kernel: `steps` values per zero crossing and a closing one. -/
abbrev Kernel := Vector Int32 (zeroCrossings * steps + 2)

def clamp (sample low high : Int) : Int := max low (min sample high)

def wrap64 (value : Int) : Int := value.bmod (2 ^ 64)

def gcd (a b : Nat) : Nat :=
  if b = 0 then a else gcd b (a % b)
termination_by b
decreasing_by exact Nat.mod_lt _ (Nat.pos_of_ne_zero ‹_›)

theorem gcd_eq (a b : Nat) : gcd a b = Nat.gcd a b := by
  fun_induction gcd a b with
  | case1 a => exact (Nat.gcd_zero_right a).symm
  | case2 a b nonzero ih => rw [ih, Nat.gcd_comm b, ← Nat.gcd_rec, Nat.gcd_comm]

structure Resampler (channels : Nat) where
  rates : Nat × Nat
  /-- Output rate and input rate in lowest terms. -/
  up : Nat
  down : Nat
  /-- Kernel positions are in units of 1/`scale` input samples. -/
  scale : Nat
  taps : Nat
  gain : Nat
  reciprocal : Nat
  step : Nat × Nat
  pushed : Nat
  /-- Input sample at or just before the next output, which lies `phase` / `up` past it. -/
  center : Nat
  phase : Nat
  history : Vector (Frame channels) historyFrames

namespace Resampler
variable {channels : Nat}

/-- Every field is zero, and zero rates mean no conversion. -/
def boxed : Resampler channels :=
  { rates := (0, 0), up := 0, down := 0, scale := 0, taps := 0, gain := 0, reciprocal := 0, step := (0, 0)
    pushed := 0, center := 0, phase := 0, history := Vector.replicate historyFrames silence }

/-- Stops converting until the next `reset`. -/
def clear (resampler : Resampler channels) : Resampler channels := { resampler with rates := (0, 0), up := 0 }

/-- Starts over converting from `fromHz` to `toHz`, neither of them zero. -/
def reset (resampler : Resampler channels) (fromHz toHz : Nat) : Resampler channels :=
  let common := gcd fromHz toHz
  let up := toHz / common
  let down := fromHz / common
  let scale := max up down
  let step := up * steps
  { resampler with
    rates := (fromHz, toHz)
    up := up
    down := down
    scale := scale
    taps := (zeroCrossings * scale) ⌈/⌉ up
    gain := if up < down then up * 2 ^ 16 / down else 0
    reciprocal := 2 ^ 32 / scale
    step := (step / scale, step % scale)
    pushed := 0
    center := 0
    phase := 0
    history := Vector.replicate historyFrames silence }

/-- What `reset` asserts in a debug build. -/
def Asserted (resampler : Resampler channels) : Prop :=
  2 * resampler.taps + resampler.down ⌈/⌉ resampler.up + 1 < historyFrames

instance (resampler : Resampler channels) : Decidable resampler.Asserted :=
  inferInstanceAs (Decidable (_ < _))

def new (fromHz toHz : Nat) : Resampler channels := boxed.reset fromHz toHz

/-- Where a frame number lies in the history, as a `usize` that may have wrapped. -/
def place (position : Int) : Nat := (position % 2 ^ 64).toNat % historyFrames

theorem place_lt (position : Int) : place position < historyFrames := Nat.mod_lt _ (by decide)

def frameAt (resampler : Resampler channels) (position : Int) : Frame channels :=
  resampler.history.get ⟨place position, place_lt position⟩

def push (resampler : Resampler channels) (frame : Frame channels) : Resampler channels :=
  { resampler with
    history := resampler.history.set (place resampler.pushed) frame (place_lt _)
    pushed := resampler.pushed + 1 }

/-- The weight of one tap: the kernel between two of its entries, times the gain. -/
def coefficient (kernel : Kernel) (resampler : Resampler channels) (index fraction : Nat)
    (inside : index < zeroCrossings * steps) : Int :=
  have next : index + 1 < zeroCrossings * steps + 2 := Nat.lt_succ_of_lt (Nat.succ_lt_succ inside)
  let left := kernel[index].toInt
  let right := kernel[index + 1].toInt
  let weight : Nat := (fraction * resampler.reciprocal) >>> 16
  let coefficient := left + (right - left) * weight / 2 ^ 16
  if resampler.gain ≠ 0 then coefficient * resampler.gain / 2 ^ 16 else coefficient

/-- The kernel position one input sample further from the output. -/
def nextTap (resampler : Resampler channels) (index fraction : Nat) : Nat × Nat :=
  let index := index + resampler.step.1
  let fraction := fraction + resampler.step.2
  if resampler.scale ≤ fraction then (index + 1, fraction - resampler.scale) else (index, fraction)

/-- The turns of the loop over taps that are left, which the kernel's end cuts short. -/
def addTaps (kernel : Kernel) (resampler : Resampler channels) (first direction : Int) :
    (left tap index fraction : Nat) → (sums : Vector Int channels) → Vector Int channels
  | 0, _, _, _, sums => sums
  | left + 1, tap, index, fraction, sums =>
    if inside : index < zeroCrossings * steps then
      let coefficient := resampler.coefficient kernel index fraction inside
      -- Before the first push the history is zero, the silence before the stream.
      let frame := resampler.frameAt (first + direction * tap)
      let sums := sums.zipWith (fun sum sample => wrap64 (sum + sample * coefficient)) frame
      let (index, fraction) := resampler.nextTap index fraction
      addTaps kernel resampler first direction left (tap + 1) index fraction sums
    else sums

/-- Adds the taps on one side of the output, the first `distance` / `up` input
samples away from it. -/
def addSide (kernel : Kernel) (resampler : Resampler channels) (sums : Vector Int channels) (direction : Int)
    (distance : Nat) : Vector Int channels :=
  let position := distance * steps
  let first : Int := if direction < 0 then resampler.center else resampler.center + 1
  resampler.addTaps kernel first direction resampler.taps 0 (position / resampler.scale) (position % resampler.scale) sums

/-- Rounds a sum of weighted samples to a sample. -/
def rounded (sum : Int) : Int := clamp (wrap64 (sum + 2 ^ 29) / 2 ^ 30) minSample maxSample

/-- The next output frame, once enough input has been pushed. -/
def pop (kernel : Kernel) (resampler : Resampler channels) : Option (Frame channels) × Resampler channels :=
  if resampler.up = 0 ∨ resampler.pushed ≤ resampler.center + resampler.taps then (none, resampler)
  else
    let sums := Vector.replicate channels 0
    let sums := resampler.addSide kernel sums (-1) resampler.phase
    let sums := resampler.addSide kernel sums 1 (resampler.up - resampler.phase)
    let phase := (resampler.phase + resampler.down) % 2 ^ 32
    (some (sums.map rounded),
      { resampler with
        center := resampler.center + phase / resampler.up
        phase := phase % resampler.up })

end Resampler
end Ak1Driver.Proto
