import Ak1Driver.Proofs.WireFormat
import Ak1Driver.Proofs.PromptHost

/-! A session while others use the driver. The card moves its frames, the engine
counts them, and the driver's other clients open streams, ask for sessions and
send requests of their own; nothing of this passes for its host's own doing. -/

namespace Ak1Driver.Driver
open Proto Proto.Mode2 Proto.Property Lib.Bytes Lib.Chunks Lib.Transition Lib.Window Proofs Proofs.Capture Proofs.Playback

namespace Requests

/-- `last` is what has become of `session`. -/
structure Became (session last : Requests.Session) : Prop where
  owner : last.owner = session.owner
  sized : ∀ period transfer, session.buffers.Sized period transfer → last.buffers.Sized period transfer
  unbroken : last.buffers.silentFrames = 0 → session.buffers.silentFrames = 0

theorem Became.refl (session : Requests.Session) : Became session session := ⟨rfl, fun _ _ sized => sized, fun silent => silent⟩

theorem Became.trans {session middle last : Requests.Session} (early : Became session middle) (late : Became middle last) :
    Became session last := by
  refine ⟨late.owner.trans early.owner, ?_, fun silent => early.unbroken (late.unbroken silent)⟩
  exact fun period transfer sized => late.sized period transfer (early.sized period transfer sized)

theorem Became.capture (session : Requests.Session) (frame : Frame inputs) : Became session (session.capture frame) := by
  refine ⟨rfl, fun _ _ sized => sized.capture frame, ?_⟩
  exact fun silent => (Buffers.capture_silent session.buffers frame).symm.trans silent

theorem Became.render (session : Requests.Session) : Became session session.render.2 := by
  refine ⟨rfl, fun _ _ sized => sized.render, ?_⟩
  intro silent
  have counted := Buffers.render_silent session.buffers
  by_cases empty : session.buffers.queued = []
  · rw [if_pos empty] at counted
    exact absurd (counted.symm.trans silent) (Processing.saturatingAdd_one_ne _)
  · rw [if_neg empty] at counted
    exact counted.symm.trans silent

variable {reserve : Nat → Bool} {asio : Option Requests.Session} {request : Requests.Request} {last : Requests.Session}

/-- Who has a session after a request had it before. -/
theorem read_became (done : (read reserve asio request).2 = some last) : ∃ session, asio = some session ∧ Became session last := by
  cases asio with
  | none =>
    obtain ⟨status, result⟩ := @read_refused reserve none request fun session value served => by cases served.asio
    rw [result] at done
    cases done
  | some session =>
    refine ⟨session, rfl, ?_⟩
    rcases read_session reserve session request with same | ⟨frames, same⟩
    · cases same.symm.trans done
      exact .refl _
    · cases same.symm.trans done
      exact ⟨rfl, fun _ _ sized => sized.read frames, fun silent => (Buffers.read_silent _ _).symm.trans silent⟩

theorem write_became (done : (write reserve asio request).2 = some last) : ∃ session, asio = some session ∧ Became session last := by
  by_cases some : ∃ session value, Accepted reserve asio request session value
  · obtain ⟨session, value, accepted⟩ := some
    obtain ⟨after, result, _, kept, capacity⟩ := write_accepted accepted
    cases (congrArg Prod.snd result).symm.trans done
    refine ⟨session, accepted.asio, rfl, fun period transfer sized => ⟨?_, ?_, capacity.trans sized.outputFrames⟩, ?_⟩
    · rw [kept]
      exact sized.periodFrames
    · rw [kept]
      exact sized.inputFrames
    · rw [kept]
      exact fun silent => silent
  · obtain ⟨status, result⟩ := write_refused fun session value accepted => some ⟨session, value, accepted⟩
    rw [result] at done
    exact ⟨last, done, .refl last⟩

end Requests

namespace Processing
variable {kernel : Kernel} {rate : SampleRate} {owner : Owner} {first before middle after : Processing}

/-- A session that `owner` has afterwards it had before, and nothing has passed
to or from its host. -/
def Moved (owner : Owner) (before after : Processing) : Prop :=
  ∀ last, after.mixer.asio = some last → last.owner = owner → ∃ session, before.mixer.asio = some session ∧
    Requests.Became session last ∧ after.history.periods = before.history.periods ∧ after.history.answers = before.history.answers

theorem Moved.refl (owner : Owner) (processing : Processing) : Moved owner processing processing :=
  fun last known _ => ⟨last, known, .refl last, rfl, rfl⟩

theorem Moved.trans (early : Moved owner before middle) (late : Moved owner middle after) : Moved owner before after := by
  intro last known own
  obtain ⟨between, held, became, periods, answers⟩ := late last known own
  obtain ⟨session, had, first, handed, written⟩ := early between held (became.owner.symm.trans own)
  exact ⟨session, had, first.trans became, periods.trans handed, answers.trans written⟩

/-- The audio of an engine under way, as seen from a state before. -/
structure Underway (owner : Owner) (first processing : Processing) : Prop where
  tidy : processing.mixer.Tidy
  sound : processing.mixer.Sound
  moved : Moved owner first processing

theorem Underway.capture (underway : Underway owner first before) (samples : Frame 2) :
    Underway owner first (before.capture kernel rate.hz samples) := by
  obtain ⟨asio, tidy, sound⟩ := @Mixer.delivered_kept kernel before.mixer before.qpc underway.tidy underway.sound rate samples
  refine ⟨tidy, sound, underway.moved.trans ?_⟩
  intro last known own
  obtain ⟨session, held, rfl⟩ := Option.map_eq_some_iff.mp (asio.symm.trans known)
  exact ⟨session, held, .capture session samples, rfl, rfl⟩

theorem Underway.render (underway : Underway owner first before) : Underway owner first (before.render kernel rate.hz).2 := by
  obtain ⟨_, sound⟩ := Mixer.nextFrame_mixes kernel underway.sound rate before.qpc
  obtain ⟨asio, tidy⟩ := @Mixer.nextFrame_kept kernel before.mixer before.qpc underway.tidy underway.sound rate
  refine ⟨tidy, sound, underway.moved.trans ?_⟩
  intro last known own
  have rendered : before.mixer.renderAsio.2.asio = some last := asio.symm.trans known
  cases held : before.mixer.asio with
  | none =>
    rw [Mixer.renderAsio, held] at rendered
    cases held.symm.trans rendered
  | some session =>
    rw [Mixer.renderAsio, held] at rendered
    cases Option.some.inj rendered
    exact ⟨session, rfl, .render session, rfl, rfl⟩

theorem Underway.captures (underway : Underway owner first before) (frames : List (Frame 2)) :
    Underway owner first (frames.foldl (Processing.capture kernel rate.hz) before) := by
  induction frames generalizing before with
  | nil => exact underway
  | cons frame frames ih => exact ih (underway.capture frame)

theorem Underway.renders (underway : Underway owner first before) (count : Nat) :
    Underway owner first (drawn (Processing.render kernel rate.hz) count before).2 := by
  induction count generalizing before with
  | zero => exact underway
  | succ count ih => exact ih underway.render

/-- All packets of a transfer: by induction on those that are left. -/
theorem Underway.all {moves : List (UInt64 × List (Frame 2))} {progress : List (Frame channels) × Processing}
    (underway : Underway owner first progress.2) (free : Bool) :
    Underway owner first (moves.foldl (Engine.carry (Processing.frames kernel rate.hz) free) progress).2 := by
  induction moves generalizing progress with
  | nil => exact underway
  | cons move moves ih =>
    have stamped : Underway owner first { progress.2 with qpc := move.1 } := ⟨underway.tidy, underway.sound, underway.moved⟩
    have captured := @Underway.captures kernel rate owner first _ stamped move.2
    apply ih
    cases free with
    | true => exact captured.renders _
    | false => exact captured

/-- The client does not use the handle of `owner`. -/
def Apart (owner : Owner) : Event → Prop
  | .openAsio _ other _ => other ≠ owner
  | .read _ request | .write _ request => request.file ≠ some owner
  | _ => True

instance (owner : Owner) : ∀ event, Decidable (Apart owner event)
  | .openAsio _ other _ => inferInstanceAs (Decidable (other ≠ owner))
  | .read _ request | .write _ request => inferInstanceAs (Decidable (request.file ≠ some owner))
  | .closeAsio | .create .. | .packets .. | .reset .. | .run .. | .pause .. => inferInstanceAs (Decidable True)

theorem read_moved (processing : Processing) (reserve : Nat → Bool) {request : Requests.Request}
    (apart : request.file ≠ some owner) : Moved owner processing (processing.read reserve request) := by
  by_cases some : ∃ session value, Requests.Served reserve processing.mixer.asio request session value
  · obtain ⟨session, value, served⟩ := some
    intro last known own
    rw [read_asio] at known
    have other : session.owner ≠ owner := by
      intro same
      apply apart
      rw [served.request, same]
    rcases Requests.read_served served with ⟨_, result⟩ | ⟨_, after, result, _⟩
    · rw [result] at known
      cases known
      exact absurd own other
    · rw [result] at known
      cases known
      exact absurd own other
  · obtain ⟨status, result⟩ := Requests.read_refused fun session value served => some ⟨session, value, served⟩
    have same : processing.read reserve request = processing := by
      rw [read, result]
    rw [same]
    exact .refl owner processing

theorem write_moved (processing : Processing) (reserve : Nat → Bool) {request : Requests.Request}
    (apart : request.file ≠ some owner) : Moved owner processing (processing.write reserve request) := by
  by_cases some : ∃ session value, Requests.Accepted reserve processing.mixer.asio request session value
  · obtain ⟨session, value, accepted⟩ := some
    intro last known own
    rw [write_asio] at known
    obtain ⟨after, result, _⟩ := Requests.write_accepted accepted
    rw [result] at known
    cases known
    apply absurd own
    intro same
    apply apart
    rw [accepted.request, ← same]
  · obtain ⟨status, result⟩ := Requests.write_refused fun session value accepted => some ⟨session, value, accepted⟩
    have same : processing.write reserve request = processing := by
      rw [write, result]
    rw [same]
    exact .refl owner processing

theorem session_owner {allocate : Nat → Except TryReserveError Unit} {period : Nat} {session : Requests.Session}
    (made : Requests.Session.new allocate owner rate period = .ok session) : session.owner = owner := by
  rw [Requests.Session.new] at made
  split at made
  next =>
    cases made
    rfl
  next => cases made

theorem changed_moved {before after : Processing} {event : Mixing.Event} (stepped : before.changed kernel event = some after)
    (kept : ∀ mixing, Mixing.step kernel ⟨before.mixer, {}, [], []⟩ event = some mixing → mixing.mixer.asio = before.mixer.asio) :
    Moved owner before after := by
  obtain ⟨mixing, changed, rfl⟩ := Option.map_eq_some_iff.mp stepped
  intro last known _
  exact ⟨last, (kept mixing changed).symm.trans known, .refl last, rfl, rfl⟩

/-- Another client leaves the session alone. -/
theorem step_moved {event : Event} (apart : Apart owner event) (stepped : before.step kernel rate event = some after) :
    Moved owner before after := by
  cases event with
  | openAsio allocate other period =>
    simp only [Processing.step] at stepped
    split at stepped
    next =>
      cases stepped
      exact .refl owner before
    next =>
      split at stepped
      next made =>
        cases stepped
        intro last known own
        cases known
        exact absurd (own.symm.trans (session_owner made)).symm apart
      next =>
        cases stepped
        exact .refl owner before
  | closeAsio =>
    cases stepped
    intro last known
    cases known
  | read reserve request =>
    cases stepped
    exact read_moved before reserve apart
  | write reserve request =>
    cases stepped
    exact write_moved before reserve apart
  | create address slot streamRate containerBits =>
    apply changed_moved stepped
    intro mixing changed
    obtain ⟨_, same⟩ := Option.ite_none_left_eq_some.mp changed
    cases same
    rfl
  | packets address ring =>
    apply changed_moved stepped
    intro mixing changed
    cases changed
    rfl
  | reset address =>
    apply changed_moved stepped
    intro mixing changed
    cases changed
    rfl
  | run address =>
    apply changed_moved stepped
    intro mixing changed
    cases changed
    rfl
  | pause slot =>
    apply changed_moved stepped
    intro mixing changed
    cases changed
    rfl

end Processing

namespace Traffic
open Engine
variable {kernel : Kernel} {rate : SampleRate} {maxPacketBytes : Nat} {interval : UInt64} {engine after : Engine Processing}

def Apart (owner : Owner) : Event → Prop
  | .transfer _ => True
  | .client event => Processing.Apart owner event

instance (owner : Owner) : ∀ event, Decidable (Apart owner event)
  | .transfer _ => inferInstanceAs (Decidable True)
  | .client event => inferInstanceAs (Decidable (Processing.Apart owner event))

/-- The card moves a session's frames, and nobody but its host hands them over. -/
theorem step_moved {owner : Owner} (small : maxPacketBytes ≤ maxPacketSize) {arrived : List Arrival}
    (carrying : Carrying kernel rate maxPacketBytes interval arrived engine) {event : Event} (apart : Apart owner event)
    (stepped : step kernel rate engine event = some after) : Processing.Moved owner engine.audio after.audio := by
  cases event with
  | transfer event =>
    cases event with
    | captured results buffer qpc accepted =>
      obtain ⟨next, answer, _, carries⟩ := answer_carries carrying.settled small (Processing.frames kernel rate.hz) results buffer
        qpc accepted
      cases answer.symm.trans stepped
      have underway : Processing.Underway owner engine.audio engine.audio :=
        ⟨carrying.following.tidy, carrying.following.sound, .refl owner engine.audio⟩
      rw [carries.audio]
      exact (@Processing.Underway.all kernel rate owner _ _ ([], engine.audio) underway engine.free).moved
    | played index =>
      cases stepped
      exact .refl owner engine.audio
  | client event =>
    obtain ⟨audio, changed, rfl⟩ := Option.map_eq_some_iff.mp stepped
    exact Processing.step_moved apart changed

end Traffic
end Ak1Driver.Driver
