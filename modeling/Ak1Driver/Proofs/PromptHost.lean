import Ak1Driver.Proofs.WireToWire

/-! A host that keeps up. A session starts with two periods and a transfer of
silence to play, and a transfer has at most a few frames more than its nominal
count, so a host that never owes two whole periods hears no gap: nothing is
dropped and nothing is played that it did not write. -/

namespace Ak1Driver.Driver
open Proto Proto.Mode2 Lib.Chunks Lib.Transition Proofs Proofs.Capture Proofs.Playback

/-- By how many frames a transfer may exceed its nominal count. -/
def burst : Nat := packetsPerTransfer * clockDriftTolerance

namespace Engine
variable {rate : SampleRate} {spec : DeviceSpec}

/-- A card that is attached sends sixteen bytes a frame. -/
theorem attached_packet (attached : attaches spec = true) (rate : SampleRate) :
    spec.maxPacketBytes rate ≤ (rate.hz / microframesPerSecond + clockDriftTolerance) * frameBytes := by
  obtain ⟨aligned, two⟩ := Bool.and_eq_true_iff.mp attached
  have aligned := of_decide_eq_true aligned
  have two : spec.streams = 2 := of_decide_eq_true two
  have width : spec.wireBytesPerSample = 4 := by
    rw [DeviceSpec.wireBytesPerSample, aligned]
    rfl
  apply Nat.le_trans (Nat.min_le_left _ _)
  rw [width, two, Nat.mul_assoc, Nat.mul_assoc]
  exact Nat.le_refl _

/-- What a packet of such a card delivers. -/
theorem delivered_burst (attached : attaches spec = true) (lost : Nat) (arrival : Arrival) :
    (delivered rate.hz (spec.maxPacketBytes rate) lost arrival).length ≤ rate.hz / microframesPerSecond + clockDriftTolerance := by
  rw [delivered]
  split
  next correct =>
    have short : framesIn arrival.data.length ≤ rate.hz / microframesPerSecond + clockDriftTolerance := by
      apply Nat.div_le_of_le_mul
      rw [Arrival.data, List.length_take, Nat.mul_comm]
      apply Nat.le_trans (Nat.min_le_left _ _)
      exact Nat.le_trans (valid_length correct).1 (attached_packet attached rate)
    split
    · rw [List.length_map, decoded_eq, List.length_map, length_asChunks]
      exact short
    · rw [List.length_replicate]
      exact short
  next =>
    rw [List.length_replicate]
    apply Nat.le_trans (Lib.Carry.given_le microframes_pos lost)
    exact Nat.add_le_add_left (Nat.succ_le_succ (Nat.zero_le 4)) _

theorem moves_burst (attached : attaches spec = true) (lost : Nat) (arrivals : List Arrival) :
    ((moves rate.hz (spec.maxPacketBytes rate) lost arrivals).map fun move => move.2.length).sum ≤
      arrivals.length * (rate.hz / microframesPerSecond + clockDriftTolerance) := by
  induction arrivals generalizing lost with
  | nil => exact Nat.zero_le _
  | cons arrival arrivals ih =>
    rw [moves, List.map_cons, List.sum_cons, List.length_cons, Nat.succ_mul, Nat.add_comm]
    exact Nat.add_le_add (ih _) (delivered_burst attached lost arrival)

/-- A transfer has few frames more than a session reckons with. -/
theorem transfer_burst (attached : attaches spec = true) (lost : Nat) (interval : UInt64)
    (results : Vector (UInt32 × Int) packetsPerTransfer) (buffer : Buffer) (qpc : UInt64) :
    ((moves rate.hz (spec.maxPacketBytes rate) lost (arrivals interval results buffer qpc)).map fun move => move.2.length).sum ≤
      Processing.transferFrames rate + burst := by
  apply Nat.le_trans (moves_burst attached lost _)
  rw [arrivals, List.length_map, List.length_finRange, Nat.mul_add]
  apply Nat.add_le_add_right
  cases rate <;> decide

end Engine

namespace Processing
variable {kernel : Kernel} {rate : SampleRate} {processing after : Processing} {left : Nat}

/-- No frame of the session in place was played as silence, and `left` more can be played. -/
structure Fueled (left : Nat) (processing : Processing) : Prop where
  tidy : processing.mixer.Tidy
  sound : processing.mixer.Sound
  fuel : ∀ session, processing.mixer.asio = some session →
    session.buffers.silentFrames = 0 ∧ left ≤ session.buffers.queued.length

theorem Fueled.less {less : Nat} (fueled : Fueled left processing) (fewer : less ≤ left) : Fueled less processing := by
  refine ⟨fueled.tidy, fueled.sound, ?_⟩
  intro session known
  exact ⟨(fueled.fuel session known).1, Nat.le_trans fewer (fueled.fuel session known).2⟩

theorem Fueled.capture (fueled : Fueled left processing) (samples : Frame 2) :
    Fueled left (processing.capture kernel rate.hz samples) := by
  obtain ⟨asio, tidy, sound⟩ := @Mixer.delivered_kept kernel processing.mixer processing.qpc fueled.tidy fueled.sound rate samples
  refine ⟨tidy, sound, ?_⟩
  intro session known
  obtain ⟨before, held, rfl⟩ := Option.map_eq_some_iff.mp (asio.symm.trans known)
  obtain ⟨unbroken, enough⟩ := fueled.fuel before held
  constructor
  · apply Eq.trans (Buffers.capture_silent before.buffers samples)
    exact unbroken
  · apply Nat.le_trans enough
    exact Nat.le_of_eq (congrArg List.length (Buffers.capture_queued before.buffers samples).symm)

theorem Fueled.captures (fueled : Fueled left processing) (frames : List (Frame 2)) :
    Fueled left (frames.foldl (Processing.capture kernel rate.hz) processing) := by
  induction frames generalizing processing with
  | nil => exact fueled
  | cons frame frames ih => exact ih (fueled.capture frame)

theorem Fueled.render (fueled : Fueled (left + 1) processing) : Fueled left (processing.render kernel rate.hz).2 := by
  obtain ⟨_, sound⟩ := Mixer.nextFrame_mixes kernel fueled.sound rate processing.qpc
  obtain ⟨asio, tidy⟩ := @Mixer.nextFrame_kept kernel processing.mixer processing.qpc fueled.tidy fueled.sound rate
  refine ⟨tidy, sound, ?_⟩
  intro session known
  have rendered : processing.mixer.renderAsio.2.asio = some session := asio.symm.trans known
  cases held : processing.mixer.asio with
  | none =>
    rw [Mixer.renderAsio, held] at rendered
    cases held.symm.trans rendered
  | some before =>
    rw [Mixer.renderAsio, held] at rendered
    cases Option.some.inj rendered
    obtain ⟨unbroken, enough⟩ := fueled.fuel before held
    have plays : before.buffers.queued ≠ [] := List.ne_nil_of_length_pos (Nat.lt_of_lt_of_le (Nat.succ_pos left) enough)
    constructor
    · apply Eq.trans (Buffers.render_silent before.buffers)
      exact (if_neg plays).trans unbroken
    · change left ≤ before.buffers.render.2.queued.length
      rw [Buffers.render_queued, List.length_tail]
      exact Nat.le_sub_one_of_lt enough

theorem Fueled.renders {count : Nat} (fueled : Fueled (left + count) processing) :
    Fueled left (drawn (Processing.render kernel rate.hz) count processing).2 := by
  induction count generalizing processing with
  | zero => exact fueled
  | succ count ih => exact ih fueled.render

/-- One packet plays as many frames as it delivers, or none. -/
theorem Fueled.carry {progress : List (Frame channels) × Processing} {time : UInt64} {frames : List (Frame 2)}
    (fueled : Fueled (left + frames.length) progress.2) (free : Bool) :
    Fueled left (Engine.carry (Processing.frames kernel rate.hz) free progress (time, frames)).2 := by
  have stamped : Fueled (left + frames.length) { progress.2 with qpc := time } := ⟨fueled.tidy, fueled.sound, fueled.fuel⟩
  have captured := @Fueled.captures kernel rate _ _ stamped frames
  cases free with
  | true => exact captured.renders
  | false => exact captured.less (Nat.le_add_right _ _)

/-- All packets of a transfer: by induction on those that are left. -/
theorem Fueled.all {moves : List (UInt64 × List (Frame 2))} {progress : List (Frame channels) × Processing}
    (fueled : Fueled (left + (moves.map fun move => move.2.length).sum) progress.2) (free : Bool) :
    Fueled left (moves.foldl (Engine.carry (Processing.frames kernel rate.hz) free) progress).2 := by
  induction moves generalizing progress with
  | nil => exact fueled
  | cons move moves ih =>
    rw [List.map_cons, List.sum_cons, Nat.add_comm move.2.length, ← Nat.add_assoc] at fueled
    exact ih (fueled.carry free)

/-- No frame of the session in place was played as silence. -/
def Unbroken (processing : Processing) : Prop :=
  ∀ session, processing.mixer.asio = some session → session.buffers.silentFrames = 0

theorem Unbroken.kept (unbroken : processing.Unbroken) (same : after.mixer.asio = processing.mixer.asio) : after.Unbroken := by
  intro session known
  exact unbroken session (same.symm.trans known)

theorem read_asio (processing : Processing) (reserve : Nat → Bool) (request : Requests.Request) :
    (processing.read reserve request).mixer.asio = (Requests.read reserve processing.mixer.asio request).2 := by
  simp only [read]
  split
  · split
    · rfl
    · rfl
  · rfl

theorem write_asio (processing : Processing) (reserve : Nat → Bool) (request : Requests.Request) :
    (processing.write reserve request).mixer.asio = (Requests.write reserve processing.mixer.asio request).2 := by
  simp only [write]
  split
  · rfl
  · rfl

theorem Unbroken.read (unbroken : processing.Unbroken) (reserve : Nat → Bool) (request : Requests.Request) :
    (processing.read reserve request).Unbroken := by
  intro session known
  rw [read_asio] at known
  by_cases some : ∃ before value, Requests.Served reserve processing.mixer.asio request before value
  · obtain ⟨before, value, served⟩ := some
    rcases Requests.read_served served with ⟨_, result⟩ | ⟨_, last, result, _, kept⟩
    · rw [result] at known
      cases known
      exact unbroken session served.asio
    · rw [result] at known
      cases known
      rw [kept]
      exact unbroken before served.asio
  · obtain ⟨status, result⟩ := Requests.read_refused fun before value served => some ⟨before, value, served⟩
    rw [result] at known
    exact unbroken session known

theorem Unbroken.write (unbroken : processing.Unbroken) (reserve : Nat → Bool) (request : Requests.Request) :
    (processing.write reserve request).Unbroken := by
  intro session known
  rw [write_asio] at known
  by_cases some : ∃ before value, Requests.Accepted reserve processing.mixer.asio request before value
  · obtain ⟨before, value, accepted⟩ := some
    obtain ⟨last, result, _, kept, _⟩ := Requests.write_accepted accepted
    rw [result] at known
    cases known
    rw [kept]
    exact unbroken before accepted.asio
  · obtain ⟨status, result⟩ := Requests.write_refused fun before value accepted => some ⟨before, value, accepted⟩
    rw [result] at known
    exact unbroken session known

/-- No client makes silence. -/
theorem Unbroken.step (unbroken : processing.Unbroken) {event : Event} (stepped : processing.step kernel rate event = some after) :
    after.Unbroken := by
  cases event with
  | openAsio allocate owner period =>
    simp only [Processing.step] at stepped
    split at stepped
    next =>
      cases stepped
      exact unbroken
    next =>
      split at stepped
      next made =>
        cases stepped
        intro session same
        cases same
        exact (session_fresh made).silent
      next =>
        cases stepped
        exact unbroken
  | closeAsio =>
    cases stepped
    intro session impossible
    cases impossible
  | read reserve request =>
    cases stepped
    exact unbroken.read reserve request
  | write reserve request =>
    cases stepped
    exact unbroken.write reserve request
  | create address slot streamRate containerBits =>
    obtain ⟨mixing, changed, rfl⟩ := Option.map_eq_some_iff.mp stepped
    obtain ⟨_, same⟩ := Option.ite_none_left_eq_some.mp changed
    cases same
    exact unbroken.kept rfl
  | packets address ring =>
    cases stepped
    exact unbroken.kept rfl
  | reset address =>
    cases stepped
    exact unbroken.kept rfl
  | run address =>
    cases stepped
    exact unbroken.kept rfl
  | pause slot =>
    cases stepped
    exact unbroken.kept rfl

/-- How many captured frames the host has not answered for. -/
def owed (processing : Processing) (session : Requests.Session) : Nat :=
  session.buffers.unread.length +
    session.buffers.period * (processing.history.periods.length - processing.history.answers.length)

/-- What a host that owes less than two periods leaves to play. -/
theorem Following.enough (following : Following kernel rate 0 processing) {session : Requests.Session}
    (known : processing.mixer.asio = some session) (unbroken : session.buffers.silentFrames = 0)
    (prompt : processing.owed session + burst ≤ 2 * session.buffers.period) :
    transferFrames rate + burst ≤ session.buffers.queued.length := by
  obtain ⟨_, _, steady⟩ := following.session session known
  obtain ⟨input, output, answered⟩ := (steady unbroken).levels
  change session.buffers.period * processing.history.periods.length + session.buffers.unread.length = _ at input
  change _ + session.buffers.queued.length = _ + session.buffers.period * processing.history.answers.length at output
  change session.buffers.period * processing.history.answers.length ≤ session.buffers.period * processing.history.periods.length
    at answered
  rw [owed, Nat.mul_sub] at prompt
  omega

end Processing

namespace Traffic
open Processing Engine

variable {kernel : Kernel} {rate : SampleRate} {interval : UInt64} {engine after : Engine Processing}

/-- At every transfer the host owes at most two periods less the frames that a
transfer may have more than expected, and a transfer is free to answer it, which
the USB stack takes. -/
def Prompt (engine : Engine Processing) : Event → Prop
  | .transfer (.captured _ _ _ accepted) =>
    (∀ session ∈ engine.audio.mixer.asio, engine.free ∧ engine.audio.owed session + burst ≤ 2 * session.buffers.period) ∧
      (engine.free → accepted)
  | .transfer (.played _) => True
  | .client event => engine.audio.Honest event

instance : ∀ (engine : Engine Processing) (event : Event), Decidable (Prompt engine event)
  | engine, .transfer (.captured _ _ _ accepted) => inferInstanceAs (Decidable
      ((∀ session ∈ engine.audio.mixer.asio, engine.free ∧ engine.audio.owed session + burst ≤ 2 * session.buffers.period) ∧
        (engine.free → accepted)))
  | _, .transfer (.played _) => inferInstanceAs (Decidable True)
  | engine, .client event => inferInstanceAs (Decidable (engine.audio.Honest event))

theorem Prompt.answered {event : Event} (prompt : Prompt engine event) : Answered engine event := by
  cases event with
  | transfer event =>
    cases event with
    | captured results buffer qpc accepted =>
      refine ⟨fun some => ?_, prompt.2⟩
      obtain ⟨session, known⟩ := Option.isSome_iff_exists.mp some
      exact (prompt.1 session known).1
    | played index => exact prompt
  | client event => exact prompt

/-- A transfer of a host that keeps up makes no silence. -/
theorem step_unbroken {spec : DeviceSpec} (attached : attaches spec = true) {arrived : List Arrival}
    (carrying : Carrying kernel rate (spec.maxPacketBytes rate) interval arrived engine) {event : Event}
    (prompt : Prompt engine event) (stepped : step kernel rate engine event = some after) (unbroken : engine.audio.Unbroken) :
    after.audio.Unbroken := by
  cases event with
  | transfer event =>
    cases event with
    | captured results buffer qpc accepted =>
      obtain ⟨next, answer, _, carries⟩ := answer_carries carrying.settled (spec.maxPacketBytes_le rate)
        (Processing.frames kernel rate.hz) results buffer qpc accepted
      cases answer.symm.trans stepped
      have fueled : Fueled (transferFrames rate + burst) engine.audio := by
        refine ⟨carrying.following.tidy, carrying.following.sound, ?_⟩
        intro session known
        have silent := unbroken session known
        exact ⟨silent, carrying.following.enough known silent (prompt.1 session known).2⟩
      have short := @transfer_burst rate spec attached (losses (spec.maxPacketBytes rate) arrived) interval results buffer qpc
      have ended := @Fueled.all kernel rate 0 _ ([], engine.audio) (by
        rw [Nat.zero_add]
        exact fueled.less short) engine.free
      intro session known
      rw [carries.audio] at known
      exact (ended.fuel session known).1
    | played index =>
      cases stepped
      exact unbroken
  | client event =>
    obtain ⟨audio, changed, rfl⟩ := Option.map_eq_some_iff.mp stepped
    exact unbroken.step changed

/-- By induction on the run, together with what the engine has carried. -/
theorem run_unbroken {spec : DeviceSpec} (attached : attaches spec = true) {arrived : List Arrival}
    (carrying : Carrying kernel rate (spec.maxPacketBytes rate) interval arrived engine) {events : List Event}
    (prompt : Along (step kernel rate) Prompt engine events) (ran : run (step kernel rate) engine events = some after)
    (unbroken : engine.audio.Unbroken) :
    Carrying kernel rate (spec.maxPacketBytes rate) interval (arrived ++ arrivalsOf interval events) after ∧
      after.audio.Unbroken := by
  induction events generalizing arrived engine with
  | nil =>
    cases ran
    rw [arrivalsOf, List.append_nil]
    exact ⟨carrying, unbroken⟩
  | cons event events ih =>
    obtain ⟨middle, stepped, rest⟩ := run_cons.mp ran
    have carried := step_carrying (spec.maxPacketBytes_le rate) carrying prompt.1.answered stepped
    have next := ih carried (prompt.2 middle stepped) rest (step_unbroken attached carrying prompt.1 stepped unbroken)
    rw [List.append_assoc, ← arrivalsOf_append] at next
    exact next

/-- Two packets of ten frames. -/
def twentyFrames : Vector (UInt32 × Int) packetsPerTransfer := .ofFn fun i => if i.val < 2 then (160, 0) else (0, 0)

def tenFrames : List UInt8 := Layout.capture (List.replicate 10 silence)

/-- A session of twenty frames, which are read and answered between two transfers. -/
def kept : List Event :=
  let frames := wholeBuffer (tenFrames ++ List.replicate (maxPacketSize - 160) 0 ++ tenFrames)
  [.client (.openAsio (fun _ => .ok ()) 7 20),
    .transfer (.captured twentyFrames frames 0 true),
    .client (.read (fun _ => true) ⟨some 7, some (List.replicate 164 0)⟩),
    .client (.write (fun _ => true) ⟨some 7, some (List.replicate 320 0x7f)⟩),
    .transfer (.captured twentyFrames frames 0 true)]

end Traffic
end Ak1Driver.Driver
