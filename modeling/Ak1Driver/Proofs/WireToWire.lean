import Ak1Driver.Proofs.Bursts
import Ak1Driver.Proofs.Carriage
import Ak1Driver.Proofs.Delivery

/-! A session from wire to wire. Capture packets become the periods that the
host reads, and its answers become the playback packets, in order and without
loss, for as long as every transfer finds a free one to answer it, the host
answers only what it has read, and no frame was played as silence. -/

namespace Ak1Driver.Driver
open Proto Proto.Mode2 Proto.Property Lib.Bytes Lib.Chunks Lib.Transition Lib.Window Proofs Proofs.Capture Proofs.Playback

namespace Engine

theorem sample24_fits (b0 b1 b2 : UInt8) : Fits24 (Layout.sample24 b0 b1 b2) := by
  have h0 := b0.toNat_lt
  have h1 := b1.toNat_lt
  have h2 := b2.toNat_lt
  simp only [Fits24, Layout.sample24, Layout.signed24]
  split <;> omega

theorem inputPair_fits (bytes : Vector UInt8 Mode2.frameBytes) : FrameFits24 (inputPair (Layout.rightFirst bytes)) := by
  intro channel inside
  have either : channel = 0 ∨ channel = 1 := by omega
  rcases either with rfl | rfl
  · exact sample24_fits _ _ _
  · exact sample24_fits _ _ _

/-- Whatever bytes arrive, what a packet delivers fits the card. -/
theorem delivered_fits (rateHz maxPacketBytes lost : Nat) (arrival : Arrival) :
    ∀ frame ∈ delivered rateHz maxPacketBytes lost arrival, FrameFits24 frame := by
  intro frame member
  rw [delivered] at member
  split at member
  · split at member
    · rw [decoded_eq, List.map_map] at member
      obtain ⟨bytes, _, rfl⟩ := List.mem_map.mp member
      exact inputPair_fits bytes
    · rw [List.eq_of_mem_replicate member]
      exact RtStream.silence_fits
  · rw [List.eq_of_mem_replicate member]
    exact RtStream.silence_fits

end Engine

namespace Requests
variable {reserve : Nat → Bool} {request : Requests.Request} {session after : Requests.Session} {period transfer : Nat}

/-- A read leaves the session as it is, or reads from its buffers. -/
theorem read_session (reserve : Nat → Bool) (session : Requests.Session) (request : Requests.Request) :
    (read reserve (some session) request).2 = some session ∨
      ∃ frames, (read reserve (some session) request).2 = some { session with buffers := (session.buffers.read frames).2.2 } := by
  obtain ⟨file, value⟩ := request
  cases file with
  | none => exact .inl rfl
  | some owner =>
    cases value with
    | none => exact .inl rfl
    | some value =>
      by_cases header : value.length < headerBytes
      · exact .inl (by simp only [read, if_pos header])
      · cases granted : reserve (min ((value.length - headerBytes) / (inputs * sampleBytes)) maxPeriodFrames) with
        | false => exact .inl (by simp only [read, if_neg header, frameBuffer, granted, Bool.false_eq_true, ↓reduceIte])
        | true =>
          by_cases same : session.owner = owner
          · refine .inr ⟨List.replicate (min ((value.length - headerBytes) / (inputs * sampleBytes)) maxPeriodFrames) silence, ?_⟩
            simp only [read, if_neg header, frameBuffer, granted, ↓reduceIte, withAsio, if_pos same]
            generalize session.buffers.read _ = outcome
            obtain ⟨count, _, _⟩ := outcome
            cases count with
            | none => rfl
            | some count => rfl
          · exact .inl (by simp only [read, if_neg header, frameBuffer, granted, ↓reduceIte, withAsio, if_neg same])

theorem read_sized (sized : session.buffers.Sized period transfer)
    (done : (read reserve (some session) request).2 = some after) : after.buffers.Sized period transfer := by
  rcases read_session reserve session request with same | ⟨frames, same⟩
  · cases same.symm.trans done
    exact sized
  · cases same.symm.trans done
    exact sized.read frames

end Requests

namespace Processing
variable {kernel : Kernel} {rate : SampleRate} {processing : Processing} {ahead : Nat}

/-- The frames of a transfer, as a session reckons them. -/
def transferFrames (rate : SampleRate) : Nat := (rate.hz * packetsPerTransfer) ⌈/⌉ microframesPerSecond

theorem burst_fits (rate : SampleRate) : maxFramesPerPacket ≤ transferFrames rate := by
  cases rate <;> decide

/-- The frame that the card got from a source. -/
def mix (kernel : Kernel) (rate : SampleRate) (source : Mixer × UInt64) : Frame channels :=
  (source.1.nextFrame kernel rate.hz source.2).1

/-- The account of the audio is right, and the session in place has lost nothing
unless a frame was played as silence. -/
structure Following (kernel : Kernel) (rate : SampleRate) (ahead : Nat) (processing : Processing) : Prop where
  tidy : processing.mixer.Tidy
  sound : processing.mixer.Sound
  inside : ∀ frame ∈ processing.captured, FrameFits24 frame
  recent : processing.history.captured <:+ processing.captured
  played : processing.history.played = processing.sources.map fun source => source.1.renderAsio.1
  mixed : processing.sources.map (mix kernel rate) <:+ processing.mixed
  mixes : ∀ source ∈ processing.sources, Mixer.Mixes kernel rate.hz source.2 source.1 (mix kernel rate source)
  fits : ∀ frame ∈ processing.mixed, FrameFits24 frame
  session : ∀ session, processing.mixer.asio = some session → 1 ≤ session.buffers.period ∧
    session.buffers.period ≤ maxPeriodFrames ∧ (session.buffers.silentFrames = 0 →
      Exchange.Steady session.buffers.period (transferFrames rate) ahead ⟨session.buffers, processing.history⟩)

theorem Following.idle (following : Following kernel rate ahead processing) (none : processing.mixer.asio = none) (other : Nat) :
    Following kernel rate other processing :=
  { following with session := fun session some => by cases none.symm.trans some }

theorem suffix_extend {before all : List α} (suffix : before <:+ all) (more : List α) : before ++ more <:+ all ++ more := by
  obtain ⟨rest, rfl⟩ := suffix
  exact ⟨rest, (List.append_assoc _ _ _).symm⟩

theorem Following.capture (following : Following kernel rate ahead processing) {samples : Frame 2} (fits : FrameFits24 samples)
    (near : processing.mixer.asio ≠ none → ahead < maxFramesPerPacket) :
    Following kernel rate (ahead + 1) (processing.capture kernel rate.hz samples) := by
  obtain ⟨asio, tidy, sound⟩ := @Mixer.delivered_kept kernel processing.mixer processing.qpc following.tidy following.sound rate samples
  refine ⟨tidy, sound, List.forall_mem_append.mpr ⟨following.inside, List.forall_mem_singleton.mpr fits⟩, suffix_extend following.recent _,
    following.played, following.mixed, following.mixes, following.fits, ?_⟩
  intro session known
  obtain ⟨before, held, rfl⟩ := Option.map_eq_some_iff.mp (asio.symm.trans known)
  obtain ⟨positive, small, steady⟩ := following.session before held
  have period : (before.capture samples).buffers.period = before.buffers.period := by
    change (before.buffers.capture samples).2.period = _
    rw [Buffers.capture]
    dsimp only
    split
    · rfl
    · rfl
  rw [period]
  refine ⟨positive, small, ?_⟩
  intro unbroken
  have silent : before.buffers.silentFrames = 0 := (Buffers.capture_silent before.buffers samples).symm.trans unbroken
  apply (steady silent).capture
  have close := near (by rw [held]; exact Option.some_ne_none before)
  have burst := burst_fits rate
  omega

theorem Following.captures (following : Following kernel rate ahead processing) {frames : List (Frame 2)}
    (fits : ∀ frame ∈ frames, FrameFits24 frame)
    (near : processing.mixer.asio ≠ none → ahead + frames.length ≤ maxFramesPerPacket) :
    Following kernel rate (ahead + frames.length) (frames.foldl (Processing.capture kernel rate.hz) processing) ∧
      (frames.foldl (Processing.capture kernel rate.hz) processing).captured = processing.captured ++ frames ∧
      (frames.foldl (Processing.capture kernel rate.hz) processing).mixed = processing.mixed ∧
      ((frames.foldl (Processing.capture kernel rate.hz) processing).mixer.asio = none ↔ processing.mixer.asio = none) := by
  induction frames generalizing processing ahead with
  | nil => exact ⟨following, (List.append_nil _).symm, rfl, Iff.rfl⟩
  | cons frame frames ih =>
    obtain ⟨first, rest⟩ := List.forall_mem_cons.mp fits
    obtain ⟨asio, _⟩ := @Mixer.delivered_kept kernel processing.mixer processing.qpc following.tidy following.sound rate frame
    have same : (processing.capture kernel rate.hz frame).mixer.asio = none ↔ processing.mixer.asio = none := by
      apply Iff.trans (Eq.congr asio rfl)
      exact Option.map_eq_none_iff
    have next := following.capture first fun some => by
      have room := near some
      rw [List.length_cons] at room
      omega
    obtain ⟨followed, captured, mixed, also⟩ := ih next rest fun some => by
      have room := near (mt same.mpr some)
      rw [List.length_cons] at room
      omega
    rw [Nat.add_assoc, Nat.add_comm 1] at followed
    refine ⟨followed, captured.trans ?_, mixed, also.trans same⟩
    exact List.append_assoc _ _ _

theorem saturatingAdd_one_ne (count : Nat) : saturatingAdd count 1 ≠ 0 := by
  simp only [saturatingAdd, maxU32]
  omega

theorem Following.render (following : Following kernel rate (ahead + 1) processing) :
    Following kernel rate ahead (processing.render kernel rate.hz).2 := by
  obtain ⟨mixes, sound⟩ := Mixer.nextFrame_mixes kernel following.sound rate processing.qpc
  obtain ⟨asio, tidy⟩ := @Mixer.nextFrame_kept kernel processing.mixer processing.qpc following.tidy following.sound rate
  refine ⟨tidy, sound, following.inside, following.recent, ?_, ?_, ?_,
    List.forall_mem_append.mpr ⟨following.fits, List.forall_mem_singleton.mpr mixes.fits⟩, ?_⟩
  · change processing.history.played ++ [processing.mixer.renderAsio.1] = (processing.sources ++ [_]).map _
    rw [List.map_append, following.played]
    rfl
  · change (processing.sources ++ [_]).map _ <:+ processing.mixed ++ [_]
    rw [List.map_append]
    exact suffix_extend following.mixed _
  · change ∀ source ∈ processing.sources ++ [_], _
    exact List.forall_mem_append.mpr ⟨following.mixes, List.forall_mem_singleton.mpr mixes⟩
  · intro session known
    have rendered : processing.mixer.renderAsio.2.asio = some session := asio.symm.trans known
    cases held : processing.mixer.asio with
    | none =>
      rw [Mixer.renderAsio, held] at rendered
      exact absurd (held.symm.trans rendered) (Option.some_ne_none session).symm
    | some before =>
      rw [Mixer.renderAsio, held] at rendered
      cases Option.some.inj rendered
      obtain ⟨positive, small, steady⟩ := following.session before held
      have kept : before.render.2.buffers.period = before.buffers.period := by
        change before.buffers.render.2.period = _
        rcases Buffers.render_cases before.buffers with ⟨_, _, same⟩ | ⟨_, _, _, _, _, same⟩
        · rw [same]
        · rw [same]
      have silent : before.render.2.buffers.silentFrames = _ := Buffers.render_silent before.buffers
      rw [kept, silent]
      refine ⟨positive, small, ?_⟩
      by_cases empty : before.buffers.queued = []
      · rw [if_pos empty]
        exact fun impossible => absurd impossible (saturatingAdd_one_ne _)
      · rw [if_neg empty]
        intro unbroken
        have next := (steady unbroken).render empty
        have playedIs : processing.mixer.renderAsio.1 = before.buffers.render.1 := by
          rw [Mixer.renderAsio, held]
          rfl
        change Exchange.Steady _ _ _ ⟨before.buffers.render.2,
          { processing.history with played := processing.history.played ++ [processing.mixer.renderAsio.1] }⟩
        rw [playedIs]
        exact next

theorem render_asio (tidy : processing.mixer.Tidy) (sound : processing.mixer.Sound) :
    (processing.render kernel rate.hz).2.mixer.asio = none ↔ processing.mixer.asio = none := by
  obtain ⟨asio, _⟩ := @Mixer.nextFrame_kept kernel processing.mixer processing.qpc tidy sound rate
  apply Iff.trans (Eq.congr asio rfl)
  rw [Mixer.renderAsio]
  split
  next session held =>
    rw [held]
    exact iff_of_false (Option.some_ne_none _) (Option.some_ne_none _)
  next held => exact Iff.rfl

theorem Following.renders {count : Nat} (following : Following kernel rate (ahead + count) processing) :
    Following kernel rate ahead (drawn (Processing.render kernel rate.hz) count processing).2 ∧
      (drawn (Processing.render kernel rate.hz) count processing).2.captured = processing.captured ∧
      (drawn (Processing.render kernel rate.hz) count processing).2.mixed =
        processing.mixed ++ (drawn (Processing.render kernel rate.hz) count processing).1 ∧
      ((drawn (Processing.render kernel rate.hz) count processing).2.mixer.asio = none ↔ processing.mixer.asio = none) := by
  induction count generalizing processing with
  | zero => exact ⟨following, rfl, (List.append_nil _).symm, Iff.rfl⟩
  | succ count ih =>
    obtain ⟨followed, captured, mixed, also⟩ := ih following.render
    refine ⟨followed, captured, mixed.trans ?_, also.trans (render_asio following.tidy following.sound)⟩
    exact List.append_assoc _ _ _

/-- What a transfer does to the audio, in terms of what it delivers and plays. -/
structure Moves (kernel : Kernel) (rate : SampleRate) (before : Processing) (delivered : List (Frame 2))
    (progress : List (Frame channels) × Processing) : Prop where
  following : Following kernel rate 0 progress.2
  captured : progress.2.captured = before.captured ++ delivered
  mixed : progress.2.mixed = before.mixed ++ progress.1
  asio : progress.2.mixer.asio = none ↔ before.mixer.asio = none

/-- One packet: while a session is in place, as much is played as was captured. -/
theorem Moves.carry {before : Processing} {delivered : List (Frame 2)} {progress : List (Frame channels) × Processing}
    (moves : Moves kernel rate before delivered progress) {free : Bool} (answered : before.mixer.asio ≠ none → free = true)
    (time : UInt64) {frames : List (Frame 2)} (fits : ∀ frame ∈ frames, FrameFits24 frame)
    (short : frames.length ≤ maxFramesPerPacket) :
    Moves kernel rate before (delivered ++ frames)
      (Engine.carry (Processing.frames kernel rate.hz) free progress (time, frames)) := by
  have stamped : Following kernel rate 0 { progress.2 with qpc := time } := { moves.following with }
  obtain ⟨followed, captured, mixed, asio⟩ := stamped.captures fits fun _ => by rwa [Nat.zero_add]
  rw [Nat.zero_add] at followed
  cases free with
  | true =>
    obtain ⟨last, taken, played, also⟩ := @Following.renders kernel rate _ 0 frames.length (by rwa [Nat.zero_add])
    refine ⟨last, ?_, ?_, (also.trans asio).trans moves.asio⟩
    · apply taken.trans
      rw [captured]
      exact (congrArg (· ++ frames) moves.captured).trans (List.append_assoc _ _ _)
    · apply played.trans
      rw [mixed]
      exact (congrArg (· ++ _) moves.mixed).trans (List.append_assoc _ _ _)
  | false =>
    have none : before.mixer.asio = none := by
      by_contra some
      cases answered some
    refine ⟨followed.idle ((asio.trans moves.asio).mpr none) 0, ?_, ?_, asio.trans moves.asio⟩
    · exact captured.trans ((congrArg (· ++ frames) moves.captured).trans (List.append_assoc _ _ _))
    · apply mixed.trans
      apply moves.mixed.trans
      exact congrArg (before.mixed ++ ·) (List.append_nil _).symm

theorem Moves.all {before : Processing} {delivered : List (Frame 2)} {progress : List (Frame channels) × Processing}
    (moves : Moves kernel rate before delivered progress) {free : Bool} (answered : before.mixer.asio ≠ none → free = true)
    {rest : List (UInt64 × List (Frame 2))}
    (each : ∀ move ∈ rest, (∀ frame ∈ move.2, FrameFits24 frame) ∧ move.2.length ≤ maxFramesPerPacket) :
    Moves kernel rate before (delivered ++ rest.flatMap Prod.snd)
      (rest.foldl (Engine.carry (Processing.frames kernel rate.hz) free) progress) := by
  induction rest generalizing delivered progress with
  | nil =>
    rw [List.flatMap_nil, List.append_nil]
    exact moves
  | cons move rest ih =>
    obtain ⟨⟨fits, short⟩, others⟩ := List.forall_mem_cons.mp each
    rw [List.flatMap_cons, ← List.append_assoc]
    exact ih (moves.carry answered move.1 fits short) others

theorem moves_fit {maxPacketBytes : Nat} (small : maxPacketBytes ≤ maxPacketSize) (lost : Nat) (arrivals : List Engine.Arrival) :
    ∀ move ∈ Engine.moves rate.hz maxPacketBytes lost arrivals,
      (∀ frame ∈ move.2, FrameFits24 frame) ∧ move.2.length ≤ maxFramesPerPacket := by
  induction arrivals generalizing lost with
  | nil => exact List.forall_mem_nil _
  | cons arrival arrivals ih =>
    rw [Engine.moves, List.forall_mem_cons]
    refine ⟨⟨Engine.delivered_fits _ _ _ _, ?_⟩, ih _⟩
    exact Engine.length_delivered small rate lost arrival

section Client
variable {after : Processing} {session : Requests.Session}

theorem session_fresh {allocate : Nat → Except TryReserveError Unit} {owner : Owner} {period : Nat}
    (made : Requests.Session.new allocate owner rate period = .ok session) :
    session.buffers.Fresh period (transferFrames rate) := by
  rw [Requests.Session.new] at made
  split at made
  next buffers created =>
    cases made
    exact Buffers.new_fresh created
  next => cases made

theorem opened_following (following : Following kernel rate 0 processing) {allocate : Nat → Except TryReserveError Unit}
    {owner : Owner} {period : Nat} (valid : ¬ (period = 0 ∨ maxPeriodFrames < period))
    (made : Requests.Session.new allocate owner rate period = .ok session) :
    Following kernel rate 0 (processing.opened session) := by
  obtain ⟨positive, small⟩ := not_or.mp valid
  have fresh := session_fresh made
  refine ⟨⟨following.tidy.slotted, following.tidy.takes⟩, { following.sound with queued := Mixing.open_fits made }, following.inside,
    List.nil_suffix, rfl, List.nil_suffix, List.forall_mem_nil _, following.fits, ?_⟩
  intro other same
  cases same
  rw [fresh.periodFrames]
  refine ⟨Nat.one_le_iff_ne_zero.mpr positive, Nat.le_of_not_lt small, ?_⟩
  intro _
  exact Exchange.Steady.start fresh

/-- A change of the session's buffers and of what it handed out or was answered. -/
theorem Following.exchanged (following : Following kernel rate 0 processing) (known : processing.mixer.asio = some session)
    {buffers : Buffers} {periods : List (List (Frame inputs))} {answers : List (List (Frame outputs))}
    (queued : ∀ frame ∈ buffers.queued, FrameFits24 frame) (period : buffers.period = session.buffers.period)
    (silent : buffers.silentFrames = session.buffers.silentFrames)
    (steady : session.buffers.silentFrames = 0 →
      Exchange.Steady session.buffers.period (transferFrames rate) 0 ⟨session.buffers, processing.history⟩ →
      Exchange.Steady session.buffers.period (transferFrames rate) 0 ⟨buffers, { processing.history with periods, answers }⟩) :
    Following kernel rate 0 { processing with
      mixer := { processing.mixer with asio := some { session with buffers } }
      history := { processing.history with periods, answers } } := by
  refine ⟨⟨following.tidy.slotted, following.tidy.takes⟩, { following.sound with queued := ?_ }, following.inside, following.recent,
    following.played, following.mixed, following.mixes, following.fits, ?_⟩
  · intro other same
    cases same
    exact queued
  · intro other same
    cases same
    obtain ⟨positive, small, before⟩ := following.session session known
    rw [period, silent]
    exact ⟨positive, small, fun unbroken => steady unbroken (before unbroken)⟩

/-- What a read returns is what it took out of the session. -/
theorem readFrames_shown {frames : List (Frame inputs)} (fits : ∀ frame ∈ frames, FrameFits24 frame) (rest : List UInt8) :
    readFrames ((encode headerBytes frames.length ++ joined (Requests.shownFrames frames) ++ rest).take
      (readValueBytes frames.length)) = frames := by
  have width : (encode headerBytes frames.length ++ joined (Requests.shownFrames frames)).length = readValueBytes frames.length := by
    rw [List.length_append, length_encode, length_joined, Requests.shownFrames, List.length_map, readValueBytes, Nat.mul_assoc]
  have cut := asChunks_of_joined (Nat.mul_pos Nat.zero_lt_two (Nat.zero_lt_succ 3)) (Requests.shownFrames frames)
    (show ([] : List UInt8).length < inputs * sampleBytes from Nat.mul_pos Nat.zero_lt_two (Nat.zero_lt_succ 3))
  rw [List.append_nil] at cut
  rw [List.take_left' width, readFrames, List.drop_left' (length_encode _ _), cut, Requests.shownFrames, List.map_map]
  refine (List.map_congr_left ?_).trans (List.map_id _)
  intro frame member
  change (frameOf (Property.frameBytes (frame.map shiftUp))).map shiftDown = frame
  rw [frameOf_frameBytes]
  apply Vector.ext
  intro channel inside
  rw [Vector.getElem_map, Vector.getElem_map]
  exact shiftDown_shiftUp (fits frame member channel inside)

/-- A read that finds a period hands it over, and its client gets the very frames
that were captured for a session without silence. -/
theorem read_hands (following : Following kernel rate 0 processing) {reserve : Nat → Bool} {request : Requests.Request}
    {value : List UInt8} (served : Requests.Served reserve processing.mixer.asio request session value)
    (enough : session.buffers.period ≤ session.buffers.unread.length) :
    ∃ last, ∃ period, (Requests.read reserve processing.mixer.asio request).2 = some { session with buffers := last } ∧
      last.unread = session.buffers.unread.drop session.buffers.period ∧ last = { session.buffers with input := last.input } ∧
      processing.read reserve request = { processing with
        mixer := { processing.mixer with asio := some { session with buffers := last } }
        history := { processing.history with periods := processing.history.periods ++ [period] } } ∧
      (session.buffers.silentFrames = 0 → period = session.buffers.unread.take session.buffers.period) := by
  obtain ⟨positive, _, steady⟩ := following.session session served.asio
  rcases Requests.read_served served with ⟨few, _⟩ | ⟨_, last, result, left, kept⟩
  · exact absurd enough (Nat.not_le_of_lt few)
  · have counted : (session.buffers.unread.take session.buffers.period).length = session.buffers.period :=
      List.length_take_of_le enough
    have long : readValueBytes session.buffers.period ≠ headerBytes := by
      rw [readValueBytes, Nat.mul_assoc]
      apply Nat.ne_of_gt
      apply Nat.lt_add_of_pos_right
      exact Nat.mul_pos positive (Nat.mul_pos Nat.zero_lt_two (Nat.zero_lt_succ 3))
    refine ⟨last, readFrames ((encode headerBytes session.buffers.period ++
      joined (Requests.shownFrames (session.buffers.unread.take session.buffers.period)) ++
      value.drop (readValueBytes session.buffers.period)).take (readValueBytes session.buffers.period)), ?_, left, kept, ?_, ?_⟩
    · rw [result]
    · rw [read, result]
      exact if_neg long
    · intro unbroken
      have shown := @readFrames_shown (session.buffers.unread.take session.buffers.period) ?_
        (value.drop (readValueBytes session.buffers.period))
      · rw [counted] at shown
        exact shown
      · intro frame member
        apply following.inside
        apply following.recent.subset
        rw [← (steady unbroken).input]
        exact List.mem_append_right _ (List.mem_of_mem_take member)

theorem read_following (following : Following kernel rate 0 processing) (reserve : Nat → Bool) (request : Requests.Request) :
    Following kernel rate 0 (processing.read reserve request) := by
  by_cases some : ∃ session value, Requests.Served reserve processing.mixer.asio request session value
  · obtain ⟨session, value, served⟩ := some
    rcases Nat.lt_or_ge session.buffers.unread.length session.buffers.period with few | enough
    · rcases Requests.read_served served with ⟨_, result⟩ | ⟨enough, _⟩
      · have same : processing.read reserve request = processing := by
          rw [read, result, ← served.asio]
          rfl
        rw [same]
        exact following
      · exact absurd enough (Nat.not_le_of_lt few)
    · obtain ⟨last, period, result, left, kept, done, right⟩ := read_hands following served enough
      rw [done]
      apply following.exchanged served.asio
      · rw [kept]
        exact following.sound.queued session served.asio
      · rw [kept]
      · rw [kept]
      · intro unbroken steady
        rw [right unbroken]
        apply steady.hand enough _ left kept
        refine @Requests.read_sized reserve request session { session with buffers := last } _ _ steady.sized ?_
        rw [← served.asio, result]
  · obtain ⟨status, result⟩ := Requests.read_refused fun session value served => some ⟨session, value, served⟩
    have same : processing.read reserve request = processing := by
      rw [read, result]
    rw [same]
    exact following

/-- The host answers only what it has read. -/
theorem write_following (following : Following kernel rate 0 processing) (reserve : Nat → Bool) (request : Requests.Request)
    (honest : (Requests.write reserve processing.mixer.asio request).1.isOk →
      processing.history.answers.length < processing.history.periods.length) :
    Following kernel rate 0 (processing.write reserve request) := by
  by_cases some : ∃ session value, Requests.Accepted reserve processing.mixer.asio request session value
  · obtain ⟨session, value, accepted⟩ := some
    obtain ⟨last, result, held, kept, capacity⟩ := Requests.write_accepted accepted
    have queued := Mixing.write_fits following.sound.queued reserve request
    have done : processing.write reserve request = { processing with
        mixer := { processing.mixer with asio := Option.some { session with buffers := last } }
        history := { processing.history with answers := processing.history.answers ++ [Requests.writtenFrames value] } } := by
      rw [write, result, accepted.request]
      rfl
    rw [done]
    rw [result] at queued
    apply following.exchanged accepted.asio
    · exact queued _ rfl
    · rw [kept]
    · rw [kept]
    · intro unbroken steady
      have exact : (Requests.writtenFrames value).length = session.buffers.period := by
        rw [Requests.writtenFrames, List.length_map, length_asChunks, accepted.exact]
        exact Nat.mul_div_cancel _ (Nat.mul_pos (Nat.zero_lt_succ 3) (Nat.zero_lt_succ 3))
      have output : session.buffers.output.capacity = 2 * session.buffers.period + transferFrames rate := steady.sized.outputFrames
      rw [output] at held capacity
      refine steady.answer (honest (by rw [result]; rfl)) exact ⟨?_, ?_, capacity⟩ held kept
      · rw [kept]
      · have input := steady.sized.inputFrames
        rw [kept]
        exact input
  · obtain ⟨status, result⟩ := Requests.write_refused fun session value accepted => some ⟨session, value, accepted⟩
    have same : processing.write reserve request = processing := by
      rw [write, result]
    rw [same]
    exact following

/-- A change of the streams alone. -/
theorem changed_following (following : Following kernel rate 0 processing) {event : Mixing.Event}
    (stepped : processing.changed kernel event = some after)
    (kept : ∀ mixing, Mixing.step kernel ⟨processing.mixer, {}, [], []⟩ event = some mixing →
      mixing.mixer.asio = processing.mixer.asio ∧ mixing.mixer.Tidy) : Following kernel rate 0 after := by
  obtain ⟨mixing, changed, rfl⟩ := Option.map_eq_some_iff.mp stepped
  obtain ⟨asio, tidy⟩ := kept mixing changed
  have saturated : Mixing.Saturated ⟨processing.mixer, {}, [], []⟩ :=
    ⟨following.sound, List.forall_mem_nil _, .refl _⟩
  refine ⟨tidy, (Mixing.step_saturated saturated changed).sound, following.inside, following.recent, following.played,
    following.mixed, following.mixes, following.fits, ?_⟩
  intro session known
  exact following.session session (asio.symm.trans known)

theorem changed_kept {event : Mixing.Event} (stepped : processing.changed kernel event = some after) :
    after.captured = processing.captured ∧ after.mixed = processing.mixed := by
  obtain ⟨mixing, _, rfl⟩ := Option.map_eq_some_iff.mp stepped
  exact ⟨rfl, rfl⟩

theorem read_kept (processing : Processing) (reserve : Nat → Bool) (request : Requests.Request) :
    (processing.read reserve request).captured = processing.captured ∧
      (processing.read reserve request).mixed = processing.mixed := by
  simp only [read]
  split
  · split
    · exact ⟨rfl, rfl⟩
    · exact ⟨rfl, rfl⟩
  · exact ⟨rfl, rfl⟩

theorem write_kept (processing : Processing) (reserve : Nat → Bool) (request : Requests.Request) :
    (processing.write reserve request).captured = processing.captured ∧
      (processing.write reserve request).mixed = processing.mixed := by
  simp only [write]
  split
  · exact ⟨rfl, rfl⟩
  · exact ⟨rfl, rfl⟩

/-- What the host must keep to: it answers a period that it has read. -/
def Honest (processing : Processing) : Event → Prop
  | .write reserve request => (Requests.write reserve processing.mixer.asio request).1.isOk →
      processing.history.answers.length < processing.history.periods.length
  | _ => True

instance : ∀ (processing : Processing) (event : Event), Decidable (processing.Honest event)
  | processing, .write reserve request => inferInstanceAs (Decidable
      ((Requests.write reserve processing.mixer.asio request).1.isOk → processing.history.answers.length < processing.history.periods.length))
  | _, .openAsio .. | _, .closeAsio | _, .read .. | _, .create .. | _, .packets .. | _, .reset .. | _, .run .. | _, .pause .. =>
    inferInstanceAs (Decidable True)

theorem step_following (following : Following kernel rate 0 processing) {event : Event} (honest : processing.Honest event)
    (stepped : processing.step kernel rate event = some after) :
    Following kernel rate 0 after ∧ after.captured = processing.captured ∧ after.mixed = processing.mixed := by
  cases event with
  | openAsio allocate owner period =>
    simp only [step] at stepped
    split at stepped
    next =>
      cases stepped
      exact ⟨following, rfl, rfl⟩
    next valid =>
      split at stepped
      next made =>
        cases stepped
        exact ⟨opened_following following valid made, rfl, rfl⟩
      next =>
        cases stepped
        exact ⟨following, rfl, rfl⟩
  | closeAsio =>
    cases stepped
    refine ⟨⟨⟨following.tidy.slotted, following.tidy.takes⟩, { following.sound with queued := ?_ }, following.inside,
      following.recent, following.played, following.mixed, following.mixes, following.fits, ?_⟩, rfl, rfl⟩
    · intro session impossible
      cases impossible
    · intro session impossible
      cases impossible
  | read reserve request =>
    cases stepped
    exact ⟨read_following following reserve request, read_kept processing reserve request⟩
  | write reserve request =>
    cases stepped
    exact ⟨write_following following reserve request honest, write_kept processing reserve request⟩
  | create address slot streamRate containerBits =>
    refine ⟨changed_following following stepped ?_, changed_kept stepped⟩
    intro mixing changed
    obtain ⟨idle, same⟩ := Option.ite_none_left_eq_some.mp changed
    cases same
    refine ⟨rfl, following.tidy.update ?_ fun _ => .inl rfl⟩
    intro other runs
    exact absurd (Mixing.runs_iff.mpr ⟨other, runs⟩) idle
  | packets address ring =>
    refine ⟨changed_following following stepped ?_, changed_kept stepped⟩
    intro mixing changed
    cases changed
    exact ⟨rfl, following.tidy.update (fun slot => following.tidy.slotted slot address) (following.tidy.takes address)⟩
  | reset address =>
    refine ⟨changed_following following stepped ?_, changed_kept stepped⟩
    intro mixing changed
    cases changed
    exact ⟨rfl, following.tidy.update (fun slot => following.tidy.slotted slot address) fun _ => .inl rfl⟩
  | run address =>
    refine ⟨changed_following following stepped ?_, changed_kept stepped⟩
    intro mixing changed
    cases changed
    refine ⟨rfl, ?_, following.tidy.takes⟩
    intro slot other runs
    dsimp only at runs
    by_cases here : slot = (processing.mixer.streams address).slot
    · rw [here, Function.update_self] at runs
      cases runs
      exact here.symm
    · rw [Function.update_of_ne here] at runs
      exact following.tidy.slotted slot other runs
  | pause paused =>
    refine ⟨changed_following following stepped ?_, changed_kept stepped⟩
    intro mixing changed
    cases changed
    refine ⟨rfl, ?_, following.tidy.takes⟩
    intro slot other runs
    dsimp only at runs
    by_cases here : slot = paused
    · rw [here, Function.update_self] at runs
      cases runs
    · rw [Function.update_of_ne here] at runs
      exact following.tidy.slotted slot other runs

end Client

/-- The audio before the engine starts: no session, and no stream runs. -/
def idle : Processing := .start Mixing.start.mixer

theorem idle_following : Following kernel rate 0 idle := by
  refine ⟨⟨?_, fun _ _ => .inl rfl⟩, Mixing.start_saturated.sound, List.forall_mem_nil _, List.suffix_refl _, rfl,
    List.suffix_refl _, List.forall_mem_nil _, List.forall_mem_nil _, ?_⟩
  · intro slot address impossible
    cases impossible
  · intro session impossible
    cases impossible

end Processing

namespace Traffic
open Processing Engine

variable {kernel : Kernel} {rate : SampleRate} {maxPacketBytes : Nat} {interval : UInt64} {engine after : Engine Processing}

/-- While a session is in place every transfer finds one to answer it with, the USB
stack takes every answer, and the host is honest. -/
def Answered (engine : Engine Processing) : Event → Prop
  | .transfer (.captured _ _ _ accepted) =>
    (engine.audio.mixer.asio.isSome → engine.free) ∧ (engine.free → accepted)
  | .transfer (.played _) => True
  | .client event => engine.audio.Honest event

instance : ∀ (engine : Engine Processing) (event : Event), Decidable (Answered engine event)
  | engine, .transfer (.captured _ _ _ accepted) =>
    inferInstanceAs (Decidable ((engine.audio.mixer.asio.isSome → engine.free) ∧ (engine.free → accepted)))
  | _, .transfer (.played _) => inferInstanceAs (Decidable True)
  | engine, .client event => inferInstanceAs (Decidable (engine.audio.Honest event))

/-- The packets that arrived, in order. -/
def arrivalsOf (interval : UInt64) : List Event → List Arrival
  | [] => []
  | .transfer (.captured results buffer qpc _) :: events => arrivals interval results buffer qpc ++ arrivalsOf interval events
  | _ :: events => arrivalsOf interval events

/-- An engine that has answered the packets that `arrived`, and its audio. -/
structure Carrying (kernel : Kernel) (rate : SampleRate) (maxPacketBytes : Nat) (interval : UInt64) (arrived : List Arrival)
    (engine : Engine Processing) : Prop where
  settled : Settled rate maxPacketBytes interval (losses maxPacketBytes arrived) engine
  following : Processing.Following kernel rate 0 engine.audio
  captured : engine.audio.captured = (moves rate.hz maxPacketBytes 0 arrived).flatMap Prod.snd
  encoded : Encoded {} engine.codec.encoder engine.audio.mixed engine.wire

theorem step_carrying (small : maxPacketBytes ≤ maxPacketSize) {arrived : List Arrival}
    (carrying : Carrying kernel rate maxPacketBytes interval arrived engine) {event : Event} (answered : Answered engine event)
    (stepped : step kernel rate engine event = some after) :
    Carrying kernel rate maxPacketBytes interval (arrived ++ arrivalsOf interval [event]) after := by
  cases event with
  | transfer event =>
    cases event with
    | captured results buffer qpc accepted =>
      obtain ⟨next, answer, settled, carries⟩ := answer_carries carrying.settled small (Processing.frames kernel rate.hz)
        results buffer qpc accepted
      cases answer.symm.trans stepped
      have moved := @Moves.all kernel rate engine.audio [] ([], engine.audio)
        ⟨carrying.following, (List.append_nil _).symm, (List.append_nil _).symm, Iff.rfl⟩ engine.free
        (fun some => answered.1 (Option.isSome_iff_ne_none.mpr some)) _
        (@moves_fit rate _ small (losses maxPacketBytes arrived) (arrivals interval results buffer qpc))
      obtain ⟨bytes, wire, encoded⟩ := carries.wire answered.2
      rw [arrivalsOf, arrivalsOf, List.append_nil]
      refine ⟨?_, ?_, ?_, ?_⟩
      · rw [losses_append]
        exact settled
      · rw [carries.audio]
        exact moved.following
      · rw [carries.audio, moves_append, List.flatMap_append, ← carrying.captured, Nat.zero_add]
        exact moved.captured
      · rw [carries.audio, wire]
        exact (congrArg (Encoded _ _ · _) moved.mixed).mpr (carrying.encoded.trans encoded)
    | played index =>
      cases stepped
      have none : arrived ++ arrivalsOf interval [.transfer (.played index)] = arrived := List.append_nil _
      rw [none]
      exact ⟨⟨carrying.settled.atRate, carrying.settled.limit, carrying.settled.interval, carrying.settled.remainder⟩,
        carrying.following, carrying.captured, carrying.encoded⟩
  | client event =>
    obtain ⟨audio, changed, rfl⟩ := Option.map_eq_some_iff.mp stepped
    obtain ⟨following, captured, mixed⟩ := step_following carrying.following answered changed
    have none : arrived ++ arrivalsOf interval [.client event] = arrived := List.append_nil _
    rw [none]
    exact ⟨⟨carrying.settled.atRate, carrying.settled.limit, carrying.settled.interval, carrying.settled.remainder⟩, following,
      captured.trans carrying.captured, mixed.symm ▸ carrying.encoded⟩

theorem arrivalsOf_append (first second : List Event) :
    arrivalsOf interval (first ++ second) = arrivalsOf interval first ++ arrivalsOf interval second := by
  induction first with
  | nil => rfl
  | cons event first ih =>
    cases event with
    | transfer event =>
      cases event with
      | captured results buffer qpc accepted =>
        apply Eq.trans (congrArg (arrivals interval results buffer qpc ++ ·) ih)
        exact (List.append_assoc _ _ _).symm
      | played index => exact ih
    | client event => exact ih

/-- By induction on the run. -/
theorem run_carrying (small : maxPacketBytes ≤ maxPacketSize) {arrived : List Arrival}
    (carrying : Carrying kernel rate maxPacketBytes interval arrived engine) {events : List Event}
    (answered : Along (step kernel rate) Answered engine events) (ran : run (step kernel rate) engine events = some after) :
    Carrying kernel rate maxPacketBytes interval (arrived ++ arrivalsOf interval events) after := by
  induction events generalizing arrived engine with
  | nil =>
    cases ran
    rw [arrivalsOf, List.append_nil]
    exact carrying
  | cons event events ih =>
    obtain ⟨middle, stepped, rest⟩ := run_cons.mp ran
    have next := ih (step_carrying small carrying answered.1 stepped) (answered.2 middle stepped) rest
    rw [List.append_assoc, ← arrivalsOf_append] at next
    exact next

theorem start_carrying (kernel : Kernel) (rate : SampleRate) (maxPacketBytes : Nat) (interval : UInt64) :
    Carrying kernel rate maxPacketBytes interval [] (Engine.start rate maxPacketBytes interval idle) := by
  refine ⟨⟨rfl, rfl, rfl, ?_⟩, idle_following, rfl, .refl _⟩
  rw [losses, List.countP_nil, Nat.zero_mul]
  rfl

/-- What a session has moved since it began, against what came and went on the wire. -/
structure Faithful (kernel : Kernel) (rate : SampleRate) (delivered : List (Frame 2)) (wire : List UInt8)
    (session : Requests.Session) (audio : Processing) : Prop where
  captured : audio.history.captured <:+ delivered
  handed : audio.history.periods.flatten <+: audio.history.captured
  periods : ∀ period ∈ audio.history.periods, period.length = session.buffers.period
  played : audio.history.played <+:
    List.replicate (2 * session.buffers.period + transferFrames rate) silence ++ audio.history.answers.flatten
  paired : audio.history.played.length = audio.history.captured.length
  sources : audio.history.played = audio.sources.map fun source => source.1.renderAsio.1
  mixes : ∀ source ∈ audio.sources, Mixer.Mixes kernel rate.hz source.2 source.1 (mix kernel rate source)
  wire : ∃ mixed, Layout.readPlayback wire = mixed.dropLast ∧ audio.sources.map (mix kernel rate) <:+ mixed
  kept : session.buffers.droppedFrames = 0

theorem Carrying.faithful {arrived : List Arrival} (carrying : Carrying kernel rate maxPacketBytes interval arrived engine)
    {session : Requests.Session} (known : engine.audio.mixer.asio = some session) (unbroken : session.buffers.silentFrames = 0) :
    Faithful kernel rate ((moves rate.hz maxPacketBytes 0 arrived).flatMap Prod.snd) engine.wire session engine.audio := by
  have following := carrying.following
  obtain ⟨_, _, steady⟩ := following.session session known
  have steady := steady unbroken
  obtain ⟨handed, played⟩ := steady.lags
  have captured := following.recent
  rw [carrying.captured] at captured
  have stream := carrying.encoded.playback
  have cut : engine.wire = (Layout.playback engine.audio.mixed).take (engine.audio.mixed.length * Mode2.frameBytes) := by
    rw [← stream, ← carrying.encoded.length, List.take_left]
  refine ⟨captured, handed, steady.periods, played, steady.paired.symm, following.played, following.mixes,
    ⟨engine.audio.mixed, ?_, following.mixed⟩, steady.kept⟩
  rw [cut]
  exact readPlayback_take following.fits

/-- Four outputs, two inputs and two bytes of alignment, as the driver asks of a card. -/
def fourOutputs : DeviceSpec := ⟨4, 2, 0, 0, 2⟩

def wholeBuffer (bytes : List UInt8) : Buffer :=
  ⟨(bytes ++ List.replicate transferBytes 0).take transferBytes, by
    rw [List.length_take, List.length_append, List.length_replicate]
    exact Nat.min_eq_left (Nat.le_add_left _ _)⟩

/-- The first packet has two frames and the second is lost. -/
def twoPackets : Vector (UInt32 × Int) packetsPerTransfer :=
  .ofFn fun i => if i.val = 0 then (32, 0) else if i.val = 1 then (0, -1) else (0, 0)

/-- A session of two-frame periods, of which one is read and answered between two transfers. -/
def answeredOnce : List Event :=
  [.client (.openAsio (fun _ => .ok ()) 7 2),
    .transfer (.captured twoPackets (wholeBuffer (Layout.capture [#v[2, 1, -2, -1], #v[4, 3, -4, -3]])) 0 true),
    .client (.read (fun _ => true) ⟨some 7, some (List.replicate 20 0)⟩),
    .client (.write (fun _ => true) ⟨some 7, some (List.replicate 32 0x7f)⟩),
    .transfer (.captured twoPackets (wholeBuffer (Layout.capture [#v[6, 5, -6, -5], #v[8, 7, -8, -7]])) 0 true)]

end Traffic
end Ak1Driver.Driver
