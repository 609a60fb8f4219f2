import Ak1Driver.Driver.Processing
import Ak1Driver.Proofs.RateChange
import Ak1Driver.Proofs.Saturation

/-! What a captured frame does to the audio, and what a rendered one does to the
session in place. Streams only capture or only play, by their slot, so no loop
of either kind runs out of turns. -/

namespace Ak1Driver.Driver
open Proto Proto.Mode2 Lib.Loop Lib.Transition

namespace RtStream
variable {kernel : Kernel} {stream after : RtStream}

theorem captureFrame_slot (stream : RtStream) (samples : Frame 2) (qpc : UInt64) :
    (stream.captureFrame samples qpc).slot = stream.slot := by
  cases found : frameBytes { stream with moved := stream.moved + 1 } with
  | none =>
    simp only [captureFrame, found]
    exact advance_slot _ _
  | some place =>
    simp only [captureFrame, found]
    exact advance_slot _ _

/-- A stream that captured converts from the card's rate, if at all, and so is
still ready to play: it would start afresh. -/
theorem capture_ready (ready : stream.Ready) {fuel : Nat} {card : SampleRate} {samples : Frame 2} {qpc : UInt64}
    (captured : stream.capture kernel fuel samples card.hz qpc = some after) : after.Ready ∧ after.slot = stream.slot := by
  by_cases same : stream.rate.hz = card.hz
  · obtain ⟨moved, kept⟩ := captureFrame_moved stream samples qpc
    have taken : stream.captureFrame samples qpc = after := by
      rw [capture, if_pos same] at captured
      exact Option.some.inj captured
    rw [← taken]
    refine ⟨?_, captureFrame_slot stream samples qpc⟩
    rw [Ready, kept, moved.rate]
    exact ready
  · rw [capture, if_neg same] at captured
    have kept : after.resampler.rates = (card.hz, stream.rate.hz) ∧ after.rate = stream.rate ∧ after.slot = stream.slot := by
      apply loop_keeps (fun state => state.resampler.rates = (card.hz, stream.rate.hz) ∧ state.rate = stream.rate ∧
        state.slot = stream.slot) _ _ _ _ captured
      · rintro state next ⟨rates, rate, slot⟩ turned
        have popped := Resampler.pop_rates kernel state.resampler
        rw [captureTurn] at turned
        split at turned
        next frame resampler found =>
          cases turned
          rw [found] at popped
          obtain ⟨moved, resampled⟩ := captureFrame_moved { state with resampler } frame qpc
          refine ⟨?_, moved.rate.trans rate, (captureFrame_slot _ _ _).trans slot⟩
          rw [resampled]
          exact popped.trans rates
        next => cases turned
      · rintro state result ⟨rates, rate, slot⟩ turned
        have popped := Resampler.pop_rates kernel state.resampler
        rw [captureTurn] at turned
        split at turned
        next => cases turned
        next resampler found =>
          cases turned
          rw [found] at popped
          exact ⟨popped.trans rates, rate, slot⟩
      · refine ⟨?_, rfl, rfl⟩
        rw [Resampler.push_rates]
        split
        · rfl
        next set => exact not_not.mp set
    obtain ⟨rates, rate, slot⟩ := kept
    refine ⟨?_, slot⟩
    intro other set
    rw [rates, rate] at set
    exact absurd (congrArg Prod.fst set).symm same

end RtStream

namespace Mixer
variable {kernel : Kernel} {mixer after : Mixer} {rateHz : Nat} {qpc : UInt64}

/-- Every stream is in its own slot, and those that capture can take a frame. -/
structure Tidy (mixer : Mixer) : Prop where
  slotted : ∀ slot address, mixer.running slot = some address → (mixer.streams address).slot = slot
  takes : ∀ address, (mixer.streams address).slot = .input12 → (mixer.streams address).CanCapture

theorem Tidy.update (tidy : Tidy mixer) {address : Nat} {stream : RtStream}
    (placed : ∀ slot, mixer.running slot = some address → stream.slot = slot)
    (takes : stream.slot = .input12 → stream.CanCapture) :
    Tidy { mixer with streams := Function.update mixer.streams address stream } := by
  constructor
  · intro slot other found
    dsimp only
    by_cases here : other = address
    · rw [here, Function.update_self]
      exact placed slot (here ▸ found)
    · rw [Function.update_of_ne here]
      exact tidy.slotted slot other found
  · intro other
    dsimp only
    by_cases here : other = address
    · rw [here, Function.update_self]
      exact takes
    · rw [Function.update_of_ne here]
      exact tidy.takes other

theorem addStream_kept {slot : Slot} (plays : slot ≠ .input12) {first : Nat} {inside : first + 1 < channels}
    {frame : Frame channels} {added : Frame channels × Mixer}
    (adds : mixer.addStream kernel rateHz qpc slot first inside frame = some added) (tidy : Tidy mixer) :
    added.2.asio = mixer.asio ∧ Tidy added.2 := by
  rw [addStream] at adds
  split at adds
  next =>
    cases adds
    exact ⟨rfl, tidy⟩
  next address runs =>
    obtain ⟨⟨pair, stream⟩, rendered, same⟩ := Option.bind_eq_some_iff.mp adds
    cases same
    have slot := (RtStream.render_fits rendered).2
    refine ⟨rfl, tidy.update ?_ ?_⟩
    · intro other found
      exact slot.trans (tidy.slotted other address found)
    · intro captures
      exact absurd ((tidy.slotted _ address runs).symm.trans (slot.symm.trans captures)) plays

theorem render_kept {frame : Frame channels} (rendered : mixer.render kernel rateHz qpc = some (frame, after)) (tidy : Tidy mixer) :
    after.asio = mixer.renderAsio.2.asio ∧ Tidy after := by
  obtain ⟨running, streams⟩ := mixer.renderAsio_kept
  have begun : Tidy mixer.renderAsio.2 := by
    constructor
    · rw [running, streams]
      exact tidy.slotted
    · rw [streams]
      exact tidy.takes
  obtain ⟨⟨half, middle⟩, first, rest⟩ := Option.bind_eq_some_iff.mp rendered
  obtain ⟨⟨whole, last⟩, second, same⟩ := Option.bind_eq_some_iff.mp rest
  cases same
  obtain ⟨held, next⟩ := addStream_kept (fun same => by cases same) first begun
  obtain ⟨also, final⟩ := addStream_kept (fun same => by cases same) second next
  exact ⟨also.trans held, final⟩

/-- A captured frame reaches the session, and the stream in the capture slot. -/
theorem capture_delivers (tidy : Tidy mixer) (sound : Sound mixer) (card : SampleRate) (samples : Frame 2) :
    ∃ after, mixer.capture kernel card.hz qpc samples = some after ∧ after.asio = mixer.asio.map (·.capture samples) ∧
      Tidy after ∧ Sound after := by
  have queued : Mixing.QueueFits (mixer.captureAsio samples).asio := Mixing.captured_fits sound.queued samples
  have begun : Tidy (mixer.captureAsio samples) := ⟨tidy.slotted, tidy.takes⟩
  have fine : Sound (mixer.captureAsio samples) := { sound with queued }
  cases runs : (mixer.captureAsio samples).running .input12 with
  | none => exact ⟨_, by rw [capture, captureStream, runs], rfl, begun, fine⟩
  | some address =>
    have placed := begun.slotted _ _ runs
    obtain ⟨stream, captured, can⟩ := (begun.takes address placed).capture kernel card (by decide : 200 ≤ captureTurns) samples qpc
    obtain ⟨ready, slot⟩ := RtStream.capture_ready (fine.ready address) captured
    have elsewhere : ∀ other, (mixer.captureAsio samples).running other = some address → stream.slot = other := by
      intro other found
      exact slot.trans (begun.slotted other address found)
    refine ⟨_, ?_, ?_, begun.update elsewhere fun _ => can, fine.update ready elsewhere⟩
    · simp only [capture, captureStream, runs, captured, Option.bind_eq_bind, Option.bind_some]
    · rfl

theorem delivered_kept (tidy : Tidy mixer) (sound : Sound mixer) (card : SampleRate) (samples : Frame 2) :
    (mixer.delivered kernel card.hz qpc samples).asio = mixer.asio.map (·.capture samples) ∧
      Tidy (mixer.delivered kernel card.hz qpc samples) ∧ Sound (mixer.delivered kernel card.hz qpc samples) := by
  obtain ⟨after, captured, kept⟩ := @capture_delivers kernel mixer qpc tidy sound card samples
  rw [delivered, captured]
  exact kept

theorem nextFrame_kept (tidy : Tidy mixer) (sound : Sound mixer) (card : SampleRate) :
    (mixer.nextFrame kernel card.hz qpc).2.asio = mixer.renderAsio.2.asio ∧ Tidy (mixer.nextFrame kernel card.hz qpc).2 := by
  obtain ⟨frame, after, rendered, _⟩ := render_mixes kernel sound card qpc
  rw [nextFrame, rendered]
  exact render_kept rendered tidy

end Mixer
end Ak1Driver.Driver
