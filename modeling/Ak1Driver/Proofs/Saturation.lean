import Ak1Driver.Driver.Mixing
import Ak1Driver.Proofs.Drift
import Ak1Driver.Proofs.NoOverflow
import Ak1Driver.Proofs.Playback
import Ak1Driver.Proofs.WireFormat

/-! Mixing saturates. Whatever the client and the host write, every source of a
frame gives 24-bit samples: a shift makes them so, or a clamp, or silence. A sum
of two of them is far from overflow, and clamped it can be encoded. -/

namespace Ak1Driver.Driver
open Proto Proto.Mode2 Proofs Lib.Loop Lib.Transition

namespace RtStream
variable {kernel : Kernel}

private theorem byte_small (byte : UInt8) : byte.toNat < 2 ^ 8 := byte.toNat_lt

theorem readSample_fits (stream : RtStream) (packet offset : Nat) : Fits24 (stream.readSample packet offset) := by
  have b0 := byte_small (stream.ring.buffers packet (offset + 0))
  have b1 := byte_small (stream.ring.buffers packet (offset + 1))
  have b2 := byte_small (stream.ring.buffers packet (offset + 2))
  have b3 := byte_small (stream.ring.buffers packet (offset + 3))
  simp only [readSample, fromLeBytes, List.foldr_cons, List.foldr_nil]
  split
  · simp only [Fits24, signed16]
    split <;> omega
  · simp only [Fits24, signed32]
    split <;> omega

theorem silence_fits {width : Nat} : FrameFits24 (silence : Frame width) := by
  intro channel inside
  rw [silence, Vector.getElem_replicate]
  decide

theorem advance_slot (stream : RtStream) (qpc : UInt64) : (stream.advance qpc).slot = stream.slot := by
  unfold advance
  split
  · rfl
  · dsimp only
    split <;> split <;> rfl

theorem renderFrame_fits (stream : RtStream) (qpc : UInt64) :
    FrameFits24 (stream.renderFrame qpc).1 ∧ (stream.renderFrame qpc).2.slot = stream.slot := by
  cases found : frameBytes { stream with moved := stream.moved + 1 } with
  | none =>
    simp only [renderFrame, found]
    exact ⟨silence_fits, trivial⟩
  | some place =>
    simp only [renderFrame, found]
    refine ⟨?_, advance_slot _ _⟩
    intro channel inside
    have either : channel = 0 ∨ channel = 1 := by omega
    rcases either with rfl | rfl
    · exact readSample_fits _ _ _
    · exact readSample_fits _ _ _

/-- Every frame that a stream gives fits the card, resampled or not. -/
theorem render_fits {fuel cardHz : Nat} {stream after : RtStream} {qpc : UInt64} {frame : Frame 2}
    (rendered : stream.render kernel fuel cardHz qpc = some (frame, after)) : FrameFits24 frame ∧ after.slot = stream.slot := by
  rw [render] at rendered
  split at rendered
  · have fits := renderFrame_fits stream qpc
    rwa [Option.some.inj rendered] at fits
  · refine loop_keeps (fun state => state.slot = stream.slot)
      (fun result : Frame 2 × RtStream => FrameFits24 result.1 ∧ result.2.slot = stream.slot) ?_ ?_ rfl rendered
    · intro state next same turned
      rw [renderTurn] at turned
      split at turned
      · cases turned
      · cases turned
        exact (renderFrame_fits _ qpc).2.trans same
    · intro state result same turned
      rw [renderTurn] at turned
      split at turned
      next popped =>
        cases turned
        exact ⟨NoOverflow.pop_fits _ (congrArg Prod.fst popped), same⟩
      next => cases turned

/-- A stream can be asked for its next frame at any of the card's rates: if it
converts to that rate already, it has taken what its last frame needed. -/
def Ready (stream : RtStream) : Prop :=
  ∀ card : SampleRate, stream.resampler.rates = (stream.rate.hz, card.hz) → ∃ up down played,
    LowestTerms stream.rate.hz card.hz up down ∧
    Tracks stream.rate.hz card.hz up down (taken up down played) played stream.resampler

theorem ready_cleared {stream : RtStream} (cleared : stream.resampler.rates = (0, 0)) : Ready stream := by
  intro card rates
  rw [cleared] at rates
  have zero : 0 = stream.rate.hz := congrArg Prod.fst rates
  exact absurd zero (Nat.ne_of_lt (NoOverflow.rate_positive _))

/-- A stream that is ready gives a frame and is ready again. -/
theorem render_ready (kernel : Kernel) {stream : RtStream} (ready : stream.Ready) (card : SampleRate) (qpc : UInt64) :
    ∃ frame after, stream.render kernel renderTurns card.hz qpc = some (frame, after) ∧ after.Ready := by
  by_cases same : stream.rate.hz = card.hz
  · obtain ⟨moved, kept⟩ := renderFrame_moved stream qpc
    refine ⟨(stream.renderFrame qpc).1, (stream.renderFrame qpc).2, if_pos same, ?_⟩
    rw [Ready, kept, moved.rate]
    exact ready
  · have started : ∃ resampler up down played,
        (if stream.resampler.rates ≠ (stream.rate.hz, card.hz) then stream.resampler.reset stream.rate.hz card.hz
          else stream.resampler) = resampler ∧
        LowestTerms stream.rate.hz card.hz up down ∧
        Tracks stream.rate.hz card.hz up down (taken up down played) played resampler := by
      by_cases fresh : stream.resampler.rates ≠ (stream.rate.hz, card.hz)
      · have lowest := NoOverflow.rates_lowest stream.rate card
        exact ⟨_, _, _, 0, if_pos fresh, lowest, Tracks.new lowest⟩
      · obtain ⟨up, down, played, lowest, tracks⟩ := ready card (not_not.mp fresh)
        exact ⟨_, up, down, played, if_neg fresh, lowest, tracks⟩
    obtain ⟨resampler, up, down, played, chosen, lowest, tracks⟩ := started
    obtain ⟨short, bounded⟩ := taken_short lowest played
    have narrow := Resampling.asserted_new tracks.toSettings lowest (NoOverflow.rates_asserted stream.rate card)
    have turns : needed up down played - taken up down played < renderTurns := by
      have positive := lowest.up_positive
      have pulls : down / up ≤ down ⌈/⌉ up := by
        rw [Nat.ceilDiv_eq_add_pred_div]
        exact Nat.div_le_div_right (by omega)
      rw [Resampler.Asserted, tracks.taps, tracks.upTerm, tracks.downTerm] at narrow
      simp only [renderTurns, historyFrames] at narrow ⊢
      omega
    obtain ⟨frame, after, looped, moved, next⟩ :=
      @renderTurn_loop _ _ up down _ played lowest kernel { stream with resampler } qpc tracks short _ turns
    refine ⟨frame, after, ?_, ?_⟩
    · rw [render, if_neg same, chosen]
      exact looped
    · intro other rates
      have rate : after.rate = stream.rate := moved.rate
      rw [next.rates, rate] at rates
      have hz : card.hz = other.hz := congrArg Prod.snd rates
      rw [rate, ← hz]
      exact ⟨up, down, played + 1, lowest, next⟩

end RtStream
namespace Mixer
variable {kernel : Kernel} {mixer after : Mixer} {rateHz : Nat} {qpc : UInt64}

/-- What every source of a frame keeps to. -/
structure Sound (mixer : Mixer) : Prop where
  queued : ∀ session, mixer.asio = some session → ∀ frame ∈ session.buffers.queued, FrameFits24 frame
  ready : ∀ address, (mixer.streams address).Ready
  slotted : ∀ slot address, mixer.running slot = some address → (mixer.streams address).slot = slot

theorem Sound.update (sound : Sound mixer) {address : Nat} {stream : RtStream} (ready : stream.Ready)
    (placed : ∀ slot, mixer.running slot = some address → stream.slot = slot) :
    Sound { mixer with streams := Function.update mixer.streams address stream } := by
  refine { sound with ready := ?_, slotted := ?_ }
  · intro other
    dsimp only
    by_cases here : other = address
    · rw [here, Function.update_self]
      exact ready
    · rw [Function.update_of_ne here]
      exact sound.ready other
  · intro slot place found
    dsimp only
    by_cases here : place = address
    · rw [here, Function.update_self]
      exact placed slot (here ▸ found)
    · rw [Function.update_of_ne here]
      exact sound.slotted slot place found

theorem renderAsio_fits (sound : Sound mixer) : FrameFits24 mixer.renderAsio.1 ∧ Sound mixer.renderAsio.2 := by
  cases known : mixer.asio with
  | none =>
    simp only [renderAsio, known]
    exact ⟨RtStream.silence_fits, sound⟩
  | some session =>
    have frames := sound.queued session known
    simp only [renderAsio, known, Requests.Session.render]
    constructor
    · rw [Buffers.render_frame]
      cases held : session.buffers.queued with
      | nil => exact RtStream.silence_fits
      | cons frame rest =>
        apply frames
        rw [held]
        exact List.mem_cons_self
    · refine { sound with queued := ?_ }
      intro other same
      cases same
      intro frame member
      rw [Buffers.render_queued] at member
      exact frames frame (List.mem_of_mem_tail member)

/-- What the stream that runs in a slot gives next. -/
def pair (kernel : Kernel) (rateHz : Nat) (qpc : UInt64) (slot : Slot) (mixer : Mixer) : Frame 2 :=
  match mixer.running slot with
  | some address => (((mixer.streams address).render kernel renderTurns rateHz qpc).map Prod.fst).getD silence
  | none => silence

theorem pair_fits (slot : Slot) : FrameFits24 (mixer.pair kernel rateHz qpc slot) := by
  rw [pair]
  split
  next address _ =>
    cases rendered : (mixer.streams address).render kernel renderTurns rateHz qpc with
    | none => exact RtStream.silence_fits
    | some result => exact (RtStream.render_fits rendered).1
  next => exact RtStream.silence_fits

theorem wrap32_sum {first second : Int} (one : Fits24 first) (other : Fits24 second) : wrap32 (first + second) = first + second := by
  obtain ⟨low, high⟩ := one
  obtain ⟨otherLow, otherHigh⟩ := other
  apply Int.bmod_eq_of_le <;> omega

/-- A stream added to two channels, and all that this leaves alone. -/
structure Added (slot : Slot) (first : Nat) (inside : first + 1 < channels) (given : Frame 2)
    (before after : Frame channels × Mixer) : Prop where
  left : after.1[first] = before.1[first] + left given
  right : after.1[first + 1] = before.1[first + 1] + right given
  rest : ∀ channel (_ : channel < channels), channel ≠ first → channel ≠ first + 1 → after.1[channel] = before.1[channel]
  sound : Sound after.2
  running : after.2.running = before.2.running
  others : ∀ address, before.2.running slot ≠ some address → after.2.streams address = before.2.streams address

theorem addStream_adds (kernel : Kernel) (sound : Sound mixer) (card : SampleRate) (qpc : UInt64) (slot : Slot) {first : Nat}
    (inside : first + 1 < channels) {frame : Frame channels}
    (fits : ∀ channel (_ : channel < channels), first ≤ channel → Fits24 frame[channel]) :
    ∃ after, mixer.addStream kernel card.hz qpc slot first inside frame = some after ∧
      Added slot first inside (mixer.pair kernel card.hz qpc slot) (frame, mixer) after := by
  have start : first < channels := Nat.lt_of_succ_lt inside
  have pairFits : FrameFits24 (mixer.pair kernel card.hz qpc slot) := pair_fits slot
  have one : wrap32 (frame.get ⟨first, start⟩ + left (mixer.pair kernel card.hz qpc slot)) =
      frame[first] + left (mixer.pair kernel card.hz qpc slot) :=
    wrap32_sum (fits first start (Nat.le_refl _)) (pairFits 0 Nat.zero_lt_two)
  have other : ∀ sample, wrap32 ((frame.set first sample start).get ⟨first + 1, inside⟩ +
      right (mixer.pair kernel card.hz qpc slot)) = frame[first + 1] + right (mixer.pair kernel card.hz qpc slot) := by
    intro sample
    have untouched : (frame.set first sample start).get ⟨first + 1, inside⟩ = frame[first + 1] :=
      Vector.getElem_set_ne start inside (Nat.ne_of_lt (Nat.lt_succ_self _))
    rw [untouched]
    exact wrap32_sum (fits (first + 1) inside (Nat.le_succ _)) (pairFits 1 Nat.one_lt_two)
  cases runs : mixer.running slot with
  | none =>
    have none : mixer.pair kernel card.hz qpc slot = silence := by rw [pair, runs]
    refine ⟨(frame, mixer), by rw [addStream, runs], ?_, ?_, fun _ _ _ _ => rfl, sound, rfl, fun _ _ => rfl⟩
    · rw [none]
      exact (Int.add_zero _).symm
    · rw [none]
      exact (Int.add_zero _).symm
  | some address =>
    obtain ⟨given, stream, rendered, ready⟩ := RtStream.render_ready kernel (sound.ready address) card qpc
    obtain ⟨_, place⟩ := RtStream.render_fits rendered
    have same : mixer.pair kernel card.hz qpc slot = given := by
      rw [pair, runs]
      simp only [rendered, Option.map_some, Option.getD_some]
    rw [same] at one other ⊢
    refine ⟨((frame.set first (frame[first] + Driver.left given) start).set (first + 1) (frame[first + 1] + Driver.right given),
      { mixer with streams := Function.update mixer.streams address stream }), ?_, ?_, ?_, ?_, ?_, rfl, ?_⟩
    · simp only [addStream, runs, rendered, Option.bind_eq_bind, Option.bind_some, one, other]
    · apply (Vector.getElem_set_ne inside start (by omega)).trans
      exact Vector.getElem_set_self _
    · exact Vector.getElem_set_self _
    · intro channel within notFirst notSecond
      apply (Vector.getElem_set_ne inside within (Ne.symm notSecond)).trans
      exact Vector.getElem_set_ne start within (Ne.symm notFirst)
    · apply sound.update ready
      intro other found
      rw [place]
      exact sound.slotted other address found
    · intro other elsewhere
      apply Function.update_of_ne
      exact fun here => elsewhere (by rw [here]; exact runs)

theorem pair_congr (alike : Mixer) {slot : Slot} (running : alike.running slot = mixer.running slot)
    (streams : ∀ address, mixer.running slot = some address → alike.streams address = mixer.streams address) :
    alike.pair kernel rateHz qpc slot = mixer.pair kernel rateHz qpc slot := by
  rw [pair, pair, running]
  cases runs : mixer.running slot with
  | none => rfl
  | some address => simp only [streams address runs]

/-- What the streams of both output pairs give next. -/
def pairs (kernel : Kernel) (rateHz : Nat) (qpc : UInt64) (mixer : Mixer) : Frame channels :=
  let first := mixer.pair kernel rateHz qpc .output12
  let second := mixer.pair kernel rateHz qpc .output34
  #v[left first, right first, left second, right second]

/-- A frame is the exact sum of its sources, clamped. -/
structure Mixes (kernel : Kernel) (rateHz : Nat) (qpc : UInt64) (mixer : Mixer) (frame : Frame channels) : Prop where
  asio : FrameFits24 mixer.renderAsio.1
  streams : FrameFits24 (mixer.pairs kernel rateHz qpc)
  small : ∀ channel (_ : channel < channels),
    -2 ^ 31 ≤ mixer.renderAsio.1[channel] + (mixer.pairs kernel rateHz qpc)[channel] ∧
      mixer.renderAsio.1[channel] + (mixer.pairs kernel rateHz qpc)[channel] < 2 ^ 31
  exact : ∀ channel (_ : channel < channels),
    frame[channel] = clamp (mixer.renderAsio.1[channel] + (mixer.pairs kernel rateHz qpc)[channel]) minSample maxSample
  fits : FrameFits24 frame

theorem pairs_fits (kernel : Kernel) (rateHz : Nat) (qpc : UInt64) (mixer : Mixer) :
    FrameFits24 (mixer.pairs kernel rateHz qpc) := by
  have first : FrameFits24 (mixer.pair kernel rateHz qpc .output12) := pair_fits _
  have second : FrameFits24 (mixer.pair kernel rateHz qpc .output34) := pair_fits _
  intro channel inside
  match channel, inside with
  | 0, _ => exact first 0 (by decide)
  | 1, _ => exact first 1 (by decide)
  | 2, _ => exact second 0 (by decide)
  | 3, _ => exact second 1 (by decide)

theorem mixes_of_exact (asio : FrameFits24 mixer.renderAsio.1) {frame : Frame channels}
    (exact : ∀ channel (_ : channel < channels),
      frame[channel] = clamp (mixer.renderAsio.1[channel] + (mixer.pairs kernel rateHz qpc)[channel]) minSample maxSample) :
    Mixes kernel rateHz qpc mixer frame := by
  have streams := mixer.pairs_fits kernel rateHz qpc
  refine ⟨asio, streams, ?_, exact, ?_⟩
  · intro channel inside
    obtain ⟨low, high⟩ := asio channel inside
    obtain ⟨otherLow, otherHigh⟩ := streams channel inside
    omega
  · intro channel inside
    rw [exact channel inside]
    exact NoOverflow.clamp_fits _

theorem renderAsio_kept (mixer : Mixer) :
    mixer.renderAsio.2.running = mixer.running ∧ mixer.renderAsio.2.streams = mixer.streams := by
  rw [renderAsio]
  split <;> exact ⟨rfl, rfl⟩

/-- A frame can be rendered whatever runs, and each of its values is a clamped sum. -/
theorem render_mixes (kernel : Kernel) (sound : Sound mixer) (card : SampleRate) (qpc : UInt64) :
    ∃ frame after, mixer.render kernel card.hz qpc = some (frame, after) ∧ Mixes kernel card.hz qpc mixer frame ∧ Sound after := by
  obtain ⟨asio, begun⟩ := renderAsio_fits sound
  obtain ⟨running, streams⟩ := mixer.renderAsio_kept
  have samples (channel : Nat) (inside : channel < channels) : Fits24 mixer.renderAsio.1[channel] := asio channel inside
  generalize played : mixer.renderAsio = begin at asio begun running streams samples
  obtain ⟨frame, middle⟩ := begin
  obtain ⟨⟨half, next⟩, first, added⟩ := addStream_adds kernel begun card qpc .output12 output12_inside
    fun channel inside _ => samples channel inside
  have firstPair : middle.pair kernel card.hz qpc .output12 = mixer.pair kernel card.hz qpc .output12 :=
    pair_congr middle (congrFun running _) fun address _ => congrFun streams address
  have secondPair : next.pair kernel card.hz qpc .output34 = mixer.pair kernel card.hz qpc .output34 := by
    apply pair_congr next
    · exact (congrFun added.running _).trans (congrFun running _)
    · intro address runs
      have apart : middle.running .output12 ≠ some address := by
        intro also
        rw [running] at also
        have one := sound.slotted _ _ also
        rw [sound.slotted _ _ runs] at one
        cases one
      exact (added.others address apart).trans (congrFun streams address)
  have second : ∀ channel (_ : channel < channels), 2 ≤ channel → half[channel] = frame[channel] :=
    fun channel inside late => added.rest channel inside (by omega) (by omega)
  obtain ⟨⟨whole, last⟩, rest, further⟩ := addStream_adds kernel added.sound card qpc .output34 output34_inside
    fun channel inside late => second channel inside late ▸ samples channel inside
  rw [firstPair] at added
  rw [secondPair] at further
  refine ⟨whole.map fun sample => clamp sample minSample maxSample, last, ?_,
    mixes_of_exact (by rw [played]; exact asio) ?_, further.sound⟩
  · simp only [render, played, first, rest, Option.bind_eq_bind, Option.bind_some]
  · intro channel inside
    rw [played, Vector.getElem_map]
    apply congrArg fun sample => clamp sample minSample maxSample
    match channel, inside with
    | 0, _ => exact (further.rest 0 (by decide) (by decide) (by decide)).trans added.left
    | 1, _ => exact (further.rest 1 (by decide) (by decide) (by decide)).trans added.right
    | 2, _ => exact further.left.trans (congrArg (· + _) (second 2 (by decide) (by decide)))
    | 3, _ => exact further.right.trans (congrArg (· + _) (second 3 (by decide) (by decide)))

theorem nextFrame_mixes (kernel : Kernel) (sound : Sound mixer) (card : SampleRate) (qpc : UInt64) :
    Mixes kernel card.hz qpc mixer (mixer.nextFrame kernel card.hz qpc).1 ∧ Sound (mixer.nextFrame kernel card.hz qpc).2 := by
  obtain ⟨frame, after, rendered, mixes, still⟩ := render_mixes kernel sound card qpc
  rw [nextFrame, rendered]
  exact ⟨mixes, still⟩

theorem drawn_sound (kernel : Kernel) (sound : Sound mixer) (card : SampleRate) (qpc : UInt64) (count : Nat) :
    Sound (Playback.drawn (nextFrame kernel card.hz qpc) count mixer).2 := by
  induction count generalizing mixer with
  | zero => exact sound
  | succ count ih => exact ih (nextFrame_mixes kernel sound card qpc).2

end Mixer

namespace Mixing
variable {kernel : Kernel} {mixing after : Mixing}

/-- The sources of frames are sound, and the bytes encoded are those of the frames mixed. -/
structure Saturated (mixing : Mixing) : Prop where
  sound : mixing.mixer.Sound
  fits : ∀ frame ∈ mixing.mixed, FrameFits24 frame
  encoded : Playback.Encoded {} mixing.encoder mixing.mixed mixing.wire

theorem recorded_drawn (kernel : Kernel) {mixer : Mixer} (sound : mixer.Sound) (card : SampleRate) (qpc : UInt64)
    (mixed : List (Frame channels)) (count : Nat) :
    let (frames, last, all) := Playback.drawn (recorded kernel card.hz qpc) count (mixer, mixed)
    all = mixed ++ frames ∧ last.Sound ∧ ∀ frame ∈ frames, FrameFits24 frame := by
  induction count generalizing mixer mixed with
  | zero => exact ⟨(List.append_nil _).symm, sound, by simp⟩
  | succ count ih =>
    obtain ⟨mixes, still⟩ := Mixer.nextFrame_mixes kernel sound card qpc
    obtain ⟨all, last, fits⟩ := ih still (mixed ++ [(mixer.nextFrame kernel card.hz qpc).1])
    refine ⟨?_, last, ?_⟩
    · rw [List.append_assoc] at all
      exact all
    · intro frame member
      rcases List.mem_cons.mp member with rfl | later
      · exact mixes.fits
      · exact fits frame later

theorem reply_saturated (saturated : Saturated mixing) (card : SampleRate) (qpc : UInt64) {packet : List UInt8}
    (whole : packet.length % frameBytes = 0) : Saturated (mixing.reply kernel card.hz qpc packet) := by
  obtain ⟨encoder, bytes, ran, more⟩ := Playback.encode_encoded whole mixing.encoder (recorded kernel card.hz qpc)
    (mixing.mixer, mixing.mixed)
  obtain ⟨all, sound, fits⟩ := recorded_drawn kernel saturated.sound card qpc mixing.mixed (framesIn packet.length)
  rw [reply, ran]
  refine ⟨sound, ?_, ?_⟩
  · intro frame member
    dsimp only at member
    rw [all] at member
    rcases List.mem_append.mp member with old | new
    · exact saturated.fits frame old
    · exact fits frame new
  · dsimp only
    rw [all]
    exact saturated.encoded.trans more

/-- A session's queue holds 24-bit samples. -/
def QueueFits (asio : Option Requests.Session) : Prop :=
  ∀ session, asio = some session → ∀ frame ∈ session.buffers.queued, FrameFits24 frame

theorem open_fits {allocate : Nat → Except TryReserveError Unit} {owner : Owner} {rate : SampleRate} {period : Nat}
    {session : Requests.Session} (made : Requests.Session.new allocate owner rate period = .ok session) :
    QueueFits (some session) := by
  intro other same frame member
  cases same
  rw [Requests.Session.new] at made
  split at made
  next buffers created =>
    cases made
    rw [(Buffers.new_fresh created).queued] at member
    rw [List.eq_of_mem_replicate member]
    exact RtStream.silence_fits
  next => cases made

theorem captured_fits {asio : Option Requests.Session} (fits : QueueFits asio) (frame : Frame inputs) :
    QueueFits (asio.map (·.capture frame)) := by
  intro session known other member
  obtain ⟨before, held, rfl⟩ := Option.map_eq_some_iff.mp known
  have same : (before.capture frame).buffers.queued = before.buffers.queued := Buffers.capture_queued _ _
  rw [same] at member
  exact fits before held other member

theorem read_fits {asio : Option Requests.Session} (fits : QueueFits asio) (reserve : Nat → Bool) (request : Requests.Request) :
    QueueFits (Requests.read reserve asio request).2 := by
  by_cases some : ∃ session value, Requests.Served reserve asio request session value
  · obtain ⟨session, value, served⟩ := some
    rcases Requests.read_served served with ⟨_, result⟩ | ⟨_, last, result, _, kept⟩
    · rw [result, ← served.asio]
      exact fits
    · rw [result]
      intro other same frame member
      cases same
      rw [kept] at member
      exact fits session served.asio frame member
  · obtain ⟨status, result⟩ := Requests.read_refused fun session value served => some ⟨session, value, served⟩
    rw [result]
    exact fits

/-- Whatever words the host writes, shifted down they fit. -/
theorem write_fits {asio : Option Requests.Session} (fits : QueueFits asio) (reserve : Nat → Bool) (request : Requests.Request) :
    QueueFits (Requests.write reserve asio request).2 := by
  by_cases some : ∃ session value, Requests.Accepted reserve asio request session value
  · obtain ⟨session, value, accepted⟩ := some
    obtain ⟨last, result, queued, _⟩ := Requests.write_accepted accepted
    rw [result]
    intro other same frame member
    cases same
    dsimp only at member
    rw [queued] at member
    rcases List.mem_append.mp (List.mem_of_mem_drop member) with old | new
    · exact fits session accepted.asio frame old
    · obtain ⟨bytes, _, rfl⟩ := List.mem_map.mp new
      intro channel inside
      rw [Vector.getElem_map]
      exact Property.shiftDown_fits _
  · obtain ⟨status, result⟩ := Requests.write_refused fun session value accepted => some ⟨session, value, accepted⟩
    rw [result]
    exact fits

theorem withAsio_saturated (saturated : Saturated mixing) {asio : Option Requests.Session} (fits : QueueFits asio) :
    Saturated (mixing.withAsio asio) :=
  { saturated with sound := { saturated.sound with queued := fits } }

theorem withStream_saturated (saturated : Saturated mixing) (address : Nat) {change : RtStream → RtStream}
    (ready : (change (mixing.mixer.streams address)).Ready)
    (placed : ∀ slot, mixing.mixer.running slot = some address → (change (mixing.mixer.streams address)).slot = slot) :
    Saturated (mixing.withStream address change) :=
  { saturated with sound := saturated.sound.update ready placed }

theorem runs_iff {mixer : Mixer} {address : Nat} : mixer.runs address = true ↔ ∃ slot, mixer.running slot = some address := by
  simp only [Mixer.runs, List.any_cons, List.any_nil, Bool.or_false, Bool.or_eq_true, decide_eq_true_eq]
  constructor
  · rintro (first | second | third)
    · exact ⟨_, first⟩
    · exact ⟨_, second⟩
    · exact ⟨_, third⟩
  · rintro ⟨slot, runs⟩
    cases slot with
    | output12 => exact Or.inl runs
    | output34 => exact Or.inr (Or.inl runs)
    | input12 => exact Or.inr (Or.inr runs)

theorem step_saturated (saturated : Saturated mixing) {event : Event} (stepped : mixing.step kernel event = some after) :
    Saturated after := by
  cases event with
  | openAsio allocate owner rate period =>
    simp only [step] at stepped
    split at stepped
    next made =>
      cases stepped
      exact withAsio_saturated saturated (open_fits made)
    next =>
      cases stepped
      exact saturated
  | closeAsio =>
    cases stepped
    exact withAsio_saturated saturated fun session known => by cases known
  | captured frame =>
    cases stepped
    exact withAsio_saturated saturated (captured_fits saturated.sound.queued frame)
  | read reserve request =>
    cases stepped
    exact withAsio_saturated saturated (read_fits saturated.sound.queued reserve request)
  | write reserve request =>
    cases stepped
    exact withAsio_saturated saturated (write_fits saturated.sound.queued reserve request)
  | create address slot rate containerBits =>
    simp only [step] at stepped
    split at stepped
    · cases stepped
    next idle =>
      cases stepped
      apply withStream_saturated saturated
      · exact RtStream.ready_cleared rfl
      · intro slot runs
        exact absurd (runs_iff.mpr ⟨slot, runs⟩) idle
  | packets address ring =>
    cases stepped
    exact withStream_saturated saturated address (saturated.sound.ready address) fun slot => saturated.sound.slotted slot address
  | reset address =>
    cases stepped
    exact withStream_saturated saturated address (RtStream.ready_cleared rfl) fun slot => saturated.sound.slotted slot address
  | run address =>
    cases stepped
    refine { saturated with sound := { saturated.sound with slotted := ?_ } }
    intro slot other runs
    dsimp only at runs
    by_cases here : slot = (mixing.mixer.streams address).slot
    · rw [here, Function.update_self] at runs
      cases runs
      exact here.symm
    · rw [Function.update_of_ne here] at runs
      exact saturated.sound.slotted slot other runs
  | pause paused =>
    cases stepped
    refine { saturated with sound := { saturated.sound with slotted := ?_ } }
    intro slot other runs
    dsimp only at runs
    by_cases here : slot = paused
    · rw [here, Function.update_self] at runs
      cases runs
    · rw [Function.update_of_ne here] at runs
      exact saturated.sound.slotted slot other runs
  | startEngine =>
    cases stepped
    exact ⟨saturated.sound, by simp, .refl _⟩
  | reply rate qpc packet =>
    obtain ⟨whole, same⟩ := Option.ite_none_right_eq_some.mp stepped
    cases same
    exact reply_saturated saturated rate qpc whole

theorem start_saturated : Saturated start where
  sound := ⟨nofun, fun _ => RtStream.ready_cleared rfl, nofun⟩
  fits := by simp [start]
  encoded := .refl _

/-- Whatever the host and the clients write, and at whatever rates, every frame
of the card is the sum of its 24-bit sources, clamped, and nothing of it is lost
on its way to the wire. -/
theorem mixing_saturates {events : List Event} {final : Mixing} (ran : Lib.Transition.run (step kernel) start events = some final)
    (card : SampleRate) (qpc : UInt64) (count : Nat) :
    (∃ frame after, (Playback.drawn (Mixer.nextFrame kernel card.hz qpc) count final.mixer).2.render kernel card.hz qpc =
        some (frame, after) ∧
      Mixer.Mixes kernel card.hz qpc (Playback.drawn (Mixer.nextFrame kernel card.hz qpc) count final.mixer).2 frame) ∧
    (∀ frame ∈ final.mixed, FrameFits24 frame) ∧
    Layout.readPlayback (final.wire ++ Playback.owed final.encoder) = final.mixed := by
  have saturated : Saturated final :=
    Reachable.invariant Saturated ⟨events, ran⟩ (fun _ _ _ stepped saturated => step_saturated saturated stepped) start_saturated
  have sound := Mixer.drawn_sound kernel saturated.sound card qpc count
  obtain ⟨frame, after, rendered, mixes, _⟩ := Mixer.render_mixes kernel sound card qpc
  refine ⟨⟨frame, after, rendered, mixes⟩, saturated.fits, ?_⟩
  rw [saturated.encoded.playback, ← List.append_nil (Layout.playback final.mixed)]
  exact Layout.readPlayback_playback saturated.fits (by decide)

/-- Loud words in every output until no silence is queued, and loud streams at two rates. -/
def loud : List Event :=
  .openAsio (fun _ => .ok ()) 7 .hz48000 2 ::
    List.replicate 26 (.write (fun _ => true) ⟨some 7, some (List.replicate 32 0x7f)⟩) ++
    [.create 1 .output12 .hz48000 16, .packets 1 ⟨fun _ _ => 0x7f, 1, 64, 0⟩, .run 1,
      .create 2 .output34 .hz44100 32, .packets 2 ⟨fun _ _ => 0x80, 1, 64, 0⟩, .run 2,
      .startEngine, .reply .hz48000 0 (List.replicate Mode2.frameBytes 0)]

/-- A kernel that weighs every sample alike. -/
def flat : Kernel := Vector.replicate _ (2 ^ 30)

theorem mixing_saturates_loud :
    ∃ final frame next after, run (step flat) start loud = some final ∧ final.mixed[0]? = some frame ∧ frame[0] = maxSample ∧
      Layout.readPlayback (final.wire ++ Playback.owed final.encoder) = final.mixed ∧
      final.mixer.render flat 48000 0 = some (next, after) ∧ Mixer.Mixes flat 48000 0 final.mixer next := by
  have runs : (run (step flat) start loud).any
      (fun final => final.mixed[0]?.any fun (frame : Frame channels) => decide (frame[0] = maxSample)) = true := by
    decide +kernel
  obtain ⟨final, ran, checked⟩ := (Option.any_eq_true _ _).mp runs
  obtain ⟨frame, first, loudest⟩ := (Option.any_eq_true _ _).mp checked
  obtain ⟨⟨next, after, rendered, mixes⟩, _, whole⟩ := mixing_saturates ran .hz48000 0 0
  exact ⟨final, frame, next, after, ran, first, of_decide_eq_true loudest, whole, rendered, mixes⟩

end Mixing
end Ak1Driver.Driver
