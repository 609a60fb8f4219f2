import Ak1Driver.Driver.Cyclic
import Ak1Driver.Proofs.Placement
import Ak1Driver.Proofs.RateChange

/-! What passes through the ring of packets. A client that writes its packets in
time hears them in order, and a client that records finds every frame of the
packets that were not yet reused. -/

namespace Ak1Driver.Driver
open Proto Proto.Mode2 Lib.Loop Lib.Pages Lib.Transition

/-- A ring of packets of whole frames in one of the formats that the circuits accept. -/
structure Ringed (count packetBytes : Nat) (stream : RtStream) : Prop where
  held : stream.ring.count = count
  size : stream.ring.packetBytes = packetBytes
  positive : 0 < count
  nonempty : 0 < packetBytes
  whole : packetBytes % (2 * stream.containerBytes) = 0
  container : stream.containerBytes = 2 ∨ stream.containerBytes = 4

namespace Ringed
variable {count packetBytes : Nat} {stream after : RtStream}

theorem block (ringed : Ringed count packetBytes stream) : 0 < 2 * stream.containerBytes := by
  rcases ringed.container with two | four
  · omega
  · omega

theorem frames (ringed : Ringed count packetBytes stream) :
    0 < packetBytes / (2 * stream.containerBytes) ∧
      packetBytes / (2 * stream.containerBytes) * (2 * stream.containerBytes) = packetBytes := by
  have whole := Nat.dvd_of_mod_eq_zero ringed.whole
  exact ⟨Nat.div_pos (Nat.le_of_dvd ringed.nonempty whole) ringed.block, Nat.div_mul_cancel whole⟩

theorem perPacket (ringed : Ringed count packetBytes stream) :
    stream.framesPerPacket = packetBytes / (2 * stream.containerBytes) := by
  rw [RtStream.framesPerPacket, ringed.size]
  rfl

theorem kept (ringed : Ringed count packetBytes stream) (held : after.ring.count = stream.ring.count)
    (size : after.ring.packetBytes = stream.ring.packetBytes) (container : after.containerBytes = stream.containerBytes) :
    Ringed count packetBytes after := by
  refine ⟨held.trans ringed.held, size.trans ringed.size, ringed.positive, ringed.nonempty, ?_, ?_⟩
  · rw [container]
    exact ringed.whole
  · rw [container]
    exact ringed.container

/-- A frame's bytes are those of its packet. -/
theorem inside (ringed : Ringed count packetBytes stream) (frames : Nat) {place : Nat} (within : place < 2 * stream.containerBytes) :
    frames % (packetBytes / (2 * stream.containerBytes)) * (2 * stream.containerBytes) + place < packetBytes := by
  obtain ⟨positive, whole⟩ := ringed.frames
  have least : frames % (packetBytes / (2 * stream.containerBytes)) + 1 ≤ packetBytes / (2 * stream.containerBytes) :=
    Nat.mod_lt _ positive
  have most := Nat.mul_le_mul_right (2 * stream.containerBytes) least
  rw [Nat.succ_mul, whole] at most
  omega

end Ringed

theorem sampleAt_congr {containerBytes : Nat} (container : containerBytes = 2 ∨ containerBytes = 4) {first second : Nat → UInt8}
    (same : ∀ place < containerBytes, first place = second place) : sampleAt containerBytes first = sampleAt containerBytes second := by
  rcases container with rfl | rfl
  · rw [sampleAt, sampleAt, if_pos rfl, if_pos rfl, same 0 (by omega), same 1 (by omega)]
  · have wide : (4 : Nat) ≠ 2 := by omega
    rw [sampleAt, sampleAt, if_neg wide, if_neg wide, same 0 (by omega), same 1 (by omega), same 2 (by omega), same 3 (by omega)]

namespace RtStream
variable {count packetBytes : Nat} {stream : RtStream}

theorem packet_byte (stream : RtStream) (index : Nat) {place : Nat} (inside : place < packetBytes) :
    (stream.packet packetBytes index)[place]?.getD 0 = stream.ring.buffers index (stream.base index + place) := by
  rw [packet, Vector.getElem?_ofFn, dif_pos inside]
  rfl

theorem frameBytes_ringed (ringed : Ringed count packetBytes stream) :
    stream.frameBytes = some (stream.underway % count, stream.base (stream.underway % count) +
      stream.cursor.frames % (packetBytes / (2 * stream.containerBytes)) * (2 * stream.containerBytes)) := by
  have some : stream.ring.count ≠ 0 := by
    rw [ringed.held]
    exact Nat.ne_of_gt ringed.positive
  rw [frameBytes, if_neg some, ringed.held, ringed.perPacket, underway, ringed.perPacket]
  rfl

theorem advance_container (stream : RtStream) (qpc : UInt64) : (stream.advance qpc).containerBytes = stream.containerBytes := by
  simp only [advance]
  split
  · rfl
  · split
    · split
      · rfl
      · rfl
    · split
      · rfl
      · rfl

theorem readSample_eq (stream : RtStream) (index offset : Nat) : stream.readSample index offset =
    sampleAt stream.containerBytes fun place => stream.ring.buffers index (offset + place) := rfl

/-- The next frame is read from the packet that is under way. -/
theorem renderFrame_reads (ringed : Ringed count packetBytes stream) (qpc : UInt64) :
    (stream.renderFrame qpc).1 = frameAt stream.containerBytes (stream.packet packetBytes (stream.underway % count))
        (stream.cursor.frames % (packetBytes / (2 * stream.containerBytes))) ∧
      (stream.renderFrame qpc).2.ring = stream.ring ∧
      (stream.renderFrame qpc).2.containerBytes = stream.containerBytes ∧
      (stream.renderFrame qpc).2.cursor.frames = stream.cursor.frames + 1 := by
  have ringed' : Ringed count packetBytes { stream with moved := stream.moved + 1 } := ringed.kept rfl rfl rfl
  have place := frameBytes_ringed ringed'
  obtain ⟨_, ring, _, _, frames⟩ := advance_kept { stream with moved := stream.moved + 1 } qpc
  simp only [renderFrame, place]
  refine ⟨?_, ring, advance_container _ _, frames⟩
  have first : readSample { stream with moved := stream.moved + 1 } (stream.underway % count) (stream.base (stream.underway % count) +
      stream.cursor.frames % (packetBytes / (2 * stream.containerBytes)) * (2 * stream.containerBytes)) =
        sampleAt stream.containerBytes fun place => (stream.packet packetBytes (stream.underway % count))[
          stream.cursor.frames % (packetBytes / (2 * stream.containerBytes)) * (2 * stream.containerBytes) + place]?.getD 0 := by
    rw [readSample_eq]
    apply sampleAt_congr ringed.container
    intro place within
    have inside : place < 2 * stream.containerBytes := by omega
    rw [packet_byte stream _ (ringed.inside _ inside), Nat.add_assoc]
  have second : readSample { stream with moved := stream.moved + 1 } (stream.underway % count) (stream.base (stream.underway % count) +
      stream.cursor.frames % (packetBytes / (2 * stream.containerBytes)) * (2 * stream.containerBytes) + stream.containerBytes) =
        sampleAt stream.containerBytes fun place => (stream.packet packetBytes (stream.underway % count))[
          stream.cursor.frames % (packetBytes / (2 * stream.containerBytes)) * (2 * stream.containerBytes) +
            (stream.containerBytes + place)]?.getD 0 := by
    rw [readSample_eq]
    apply sampleAt_congr ringed.container
    intro place within
    have inside : stream.containerBytes + place < 2 * stream.containerBytes := by omega
    rw [packet_byte stream _ (ringed.inside _ inside), Nat.add_assoc, Nat.add_assoc]
  exact congrArg₂ (fun left right => #v[left, right]) first second

/-- The packets from the one under way on are in their places. -/
structure Reading (count packetBytes : Nat) (initial : Nat → Vector UInt8 packetBytes)
    (packets : Nat → Option (Vector UInt8 packetBytes)) (stream : RtStream) : Prop extends Ringed count packetBytes stream where
  ahead : Ahead count initial packets stream.underway (stream.packet packetBytes)

namespace Reading
variable {initial : Nat → Vector UInt8 packetBytes} {packets : Nat → Option (Vector UInt8 packetBytes)} {after : RtStream}

theorem underway (reading : Reading count packetBytes initial packets stream) :
    stream.underway = stream.cursor.frames / (packetBytes / (2 * stream.containerBytes)) := by
  rw [RtStream.underway, reading.perPacket]

/-- A frame is moved and nothing written. -/
theorem move (reading : Reading count packetBytes initial packets stream) (ring : after.ring = stream.ring)
    (container : after.containerBytes = stream.containerBytes) (frames : after.cursor.frames = stream.cursor.frames + 1) :
    Reading count packetBytes initial packets after := by
  have ringed := reading.kept (congrArg Ring.count ring) (congrArg Ring.packetBytes ring) container
  refine ⟨ringed, ?_⟩
  have same : after.packet packetBytes = stream.packet packetBytes := by
    funext index
    simp only [packet, base, ring]
  obtain ⟨positive, _⟩ := reading.frames
  have step := @Nat.succ_div stream.cursor.frames (packetBytes / (2 * stream.containerBytes))
  have number : after.underway = stream.underway +
      if packetBytes / (2 * stream.containerBytes) ∣ stream.cursor.frames + 1 then 1 else 0 := by
    rw [RtStream.underway, ringed.perPacket, container, frames, reading.underway]
    exact step
  rw [same, number]
  split
  · exact reading.ahead.next reading.positive
  · exact reading.ahead

/-- The frames read are those of the packets in turn. -/
theorem readFrames (reading : Reading count packetBytes initial packets stream) (qpc : UInt64) (turns : Nat) :
    audible stream.containerBytes count initial packets (stream.cursor.frames + turns) =
        audible stream.containerBytes count initial packets stream.cursor.frames ++ (stream.readFrames qpc turns).1 ∧
      Reading count packetBytes initial packets (stream.readFrames qpc turns).2 ∧
      (stream.readFrames qpc turns).2.containerBytes = stream.containerBytes ∧
      (stream.readFrames qpc turns).2.cursor.frames = stream.cursor.frames + turns := by
  induction turns generalizing stream with
  | zero => exact ⟨(List.append_nil _).symm, reading, rfl, rfl⟩
  | succ turns ih =>
    obtain ⟨frame, ring, container, frames⟩ := renderFrame_reads reading.toRinged qpc
    obtain ⟨heard, last, format, moved⟩ := ih (reading.move ring container frames)
    rw [container, frames] at heard
    refine ⟨?_, last, format.trans container, ?_⟩
    · rw [← Nat.add_assoc, Nat.add_right_comm, heard]
      have first : audible stream.containerBytes count initial packets (stream.cursor.frames + 1) =
          audible stream.containerBytes count initial packets stream.cursor.frames ++ [(stream.renderFrame qpc).1] := by
        rw [audible, List.range_succ, List.map_append, List.map_singleton, frame, reading.ahead.use reading.positive,
          reading.underway]
        rfl
      rw [first, List.append_assoc]
      rfl
    · apply moved.trans
      rw [frames, Nat.add_assoc, Nat.add_comm 1]

theorem packet_putPacket (stream : RtStream) (index : Nat) (bytes : Vector UInt8 packetBytes) :
    (stream.putPacket index bytes).packet packetBytes = Function.update (stream.packet packetBytes) index bytes := by
  funext other
  have base : (stream.putPacket index bytes).base other = stream.base other := rfl
  apply Vector.ext
  intro place inside
  rw [packet, Vector.getElem_ofFn, base]
  by_cases same : other = index
  · subst same
    simp only [putPacket, Function.update_self, if_pos (Nat.le_add_right _ _), Nat.add_sub_cancel_left,
      Vector.getElem?_eq_getElem inside, Option.getD_some]
  · simp only [putPacket, Function.update_of_ne same, packet, Vector.getElem_ofFn]

/-- A packet is written in time. -/
theorem write (reading : Reading count packetBytes initial packets stream) {number : Nat} (soon : stream.underway ≤ number)
    (near : number < stream.underway + count) (bytes : Vector UInt8 packetBytes) :
    Reading count packetBytes initial (Function.update packets number (some bytes)) (stream.putPacket (number % count) bytes) := by
  refine ⟨reading.kept rfl rfl rfl, ?_⟩
  rw [packet_putPacket]
  exact reading.ahead.write soon near bytes

end Reading
/-- What was heard does not depend on packets of which no frame has moved. -/
theorem audible_congr {initial : Nat → Vector UInt8 packetBytes} {packets others : Nat → Option (Vector UInt8 packetBytes)}
    {containerBytes frames : Nat}
    (same : ∀ number, number * (packetBytes / (2 * containerBytes)) < frames → others number = packets number) :
    audible containerBytes count initial others frames = audible containerBytes count initial packets frames := by
  apply List.map_congr_left
  intro frame member
  have before := List.mem_range.mp member
  rw [shown_congr fun earlier least => same earlier ?_]
  apply Nat.lt_of_le_of_lt _ before
  exact Nat.le_trans (Nat.mul_le_mul_right _ least) (Nat.div_mul_le_self frame _)

end RtStream

namespace Mapped
variable {pool : Pool} {count packetBytes : Nat} {packets result : List RtPacket} {mapped after : Mapped}

/-- Packets are allocated blank, and nothing else of the stream changes. -/
theorem allocateFrom_blank {left index : Nat}
    (allocated : allocateFrom pool packetBytes left index packets mapped = (some result, after))
    (before : ∀ place < index, mapped.stream.ring.buffers place = fun _ => 0) :
    (∀ place < index + left, after.stream.ring.buffers place = fun _ => 0) ∧ after.stream.rate = mapped.stream.rate := by
  induction left generalizing index packets mapped with
  | zero =>
    cases allocated
    exact ⟨before, rfl⟩
  | succ left ih =>
    simp only [allocateFrom] at allocated
    split at allocated
    · cases allocated
    next buffer found =>
      split at allocated
      · obtain ⟨blank, rate⟩ := ih allocated (by
          intro place earlier
          rcases Nat.lt_or_eq_of_le (Nat.le_of_lt_succ earlier) with old | new
          · exact (Function.update_of_ne (Nat.ne_of_lt old) _ _).trans (before place old)
          · rw [new]
            exact Function.update_self _ _ _)
        exact ⟨fun place inside => blank place (by omega), rate⟩
      · cases allocated

theorem allocatePackets_ringed (container : mapped.stream.containerBytes = 2 ∨ mapped.stream.containerBytes = 4)
    (allocated : mapped.allocatePackets pool count packetBytes = (.ok packets, after)) :
    Ringed count packetBytes after.stream ∧ after.stream.containerBytes = mapped.stream.containerBytes ∧
      after.stream.rate = mapped.stream.rate ∧
      ∀ index < count, after.stream.packet packetBytes index = Vector.replicate packetBytes 0 := by
  obtain ⟨ring, format⟩ := allocatePackets_ok allocated
  obtain ⟨rate, blank⟩ : after.stream.rate = mapped.stream.rate ∧
      ∀ index < count, after.stream.ring.buffers index = fun _ => 0 := by
    simp only [allocatePackets] at allocated
    split at allocated
    · cases allocated
    · split at allocated
      · cases allocated
      · split at allocated
        · cases allocated
        next found =>
          cases allocated
          obtain ⟨blank, rate⟩ := allocateFrom_blank found fun place impossible => absurd impossible (Nat.not_lt_zero place)
          rw [Nat.zero_add] at blank
          exact ⟨rate, blank⟩
  refine ⟨⟨ring.ring.1, ring.ring.2.1, ring.positive, ring.size, ring.whole, ?_⟩, format, rate, ?_⟩
  · rw [format]
    exact container
  · intro index inside
    apply Vector.ext
    intro place within
    rw [RtStream.packet, Vector.getElem_ofFn, blank index inside, Vector.getElem_replicate]

end Mapped

namespace Player
variable {kernel : Kernel} {card rate : SampleRate} {containerBytes count packetBytes : Nat}
  {initial : Nat → Vector UInt8 packetBytes} {player after : Player packetBytes}

/-- Frames at a stream's rate as the card gets them: as they are, or as a fresh
resampler makes them of all of these. -/
def Converts (kernel : Kernel) (rate card : SampleRate) (source played : List (Frame 2)) : Prop :=
  if rate.hz = card.hz then played = source
  else ∃ resampler, Resampler.pulls kernel played.length source (.new rate.hz card.hz) = some (played, [], resampler)

/-- The resampler that the next frame comes from, which the stream may have yet to reset. -/
structure Turns (kernel : Kernel) (rate card : SampleRate) (source played : List (Frame 2)) (stream : RtStream)
    (resampler : Resampler 2) : Prop where
  rates : resampler.rates = (rate.hz, card.hz)
  pulled : Resampler.pulls kernel played.length source (.new rate.hz card.hz) = some (played, [], resampler)
  next : stream.resampler = resampler ∨ (stream.resampler.rates ≠ (rate.hz, card.hz) ∧ resampler = .new rate.hz card.hz)

/-- What a player has played is what its client wrote. -/
structure Playing (kernel : Kernel) (rate card : SampleRate) (containerBytes count : Nat) (initial : Nat → Vector UInt8 packetBytes)
    (player : Player packetBytes) : Prop where
  reading : player.stream.Reading count packetBytes initial player.packets
  atRate : player.stream.rate = rate
  format : player.stream.containerBytes = containerBytes
  can : player.stream.CanRender
  direct : rate.hz = card.hz →
    player.played = audible containerBytes count initial player.packets player.stream.cursor.frames
  converted : rate.hz ≠ card.hz → ∃ resampler,
    Turns kernel rate card (audible containerBytes count initial player.packets player.stream.cursor.frames) player.played
      player.stream resampler

theorem Turns.render {source played : List (Frame 2)} {stream : RtStream} {resampler : Resampler 2}
    (turns : Turns kernel rate card source played stream resampler) (differ : rate.hz ≠ card.hz) (atRate : stream.rate = rate)
    (fuel : Nat) (qpc : UInt64) :
    stream.render kernel fuel card.hz qpc = loop (RtStream.renderTurn kernel qpc) fuel { stream with resampler } := by
  subst atRate
  rcases turns.next with same | ⟨other, fresh⟩
  · have rates := turns.rates
    rw [← same] at rates ⊢
    exact RtStream.render_set kernel stream differ rates fuel qpc
  · rw [RtStream.render_fresh kernel differ other, fresh]
    exact RtStream.render_set kernel { stream with resampler := .new stream.rate.hz card.hz } differ rfl fuel qpc

theorem start_playing {stream : RtStream} (ringed : Ringed count packetBytes stream)
    (same : ∀ index < count, stream.packet packetBytes index = initial index) :
    Playing kernel stream.rate card stream.containerBytes count initial (start packetBytes stream) := by
  have first : stream.reset.underway = 0 := Nat.zero_div _
  refine ⟨⟨ringed.kept rfl rfl rfl, ?_⟩, rfl, rfl, RtStream.reset_canRender stream, fun _ => rfl, ?_⟩
  · change Ahead count initial (fun _ => none) stream.reset.underway (stream.packet packetBytes)
    rw [first]
    exact .start same
  · intro _
    refine ⟨.new stream.rate.hz card.hz, rfl, rfl, .inr ⟨?_, rfl⟩⟩
    intro set
    exact Nat.ne_of_lt (RtStream.hz_positive stream.rate) (congrArg Prod.fst set)

theorem write_playing (playing : Playing kernel rate card containerBytes count initial player) {number : Nat}
    {bytes : Vector UInt8 packetBytes} (timely : player.Timely (.write number bytes))
    (stepped : player.step kernel card (.write number bytes) = some after) :
    Playing kernel rate card containerBytes count initial after := by
  cases stepped
  obtain ⟨unmoved, near⟩ := timely
  have reading := playing.reading
  rw [reading.perPacket] at unmoved
  rw [reading.held] at near
  have soon : player.stream.underway ≤ number := by
    rw [reading.underway]
    exact Nat.div_le_of_le_mul (Nat.mul_comm number _ ▸ unmoved)
  have written := reading.write soon near bytes
  have same : audible containerBytes count initial (Function.update player.packets number (some bytes)) player.stream.cursor.frames =
      audible containerBytes count initial player.packets player.stream.cursor.frames := by
    apply RtStream.audible_congr
    intro earlier moved
    apply Function.update_of_ne
    rintro rfl
    rw [← playing.format] at moved
    exact Nat.not_lt_of_le unmoved moved
  refine ⟨?_, playing.atRate, playing.format, playing.can, ?_, ?_⟩
  · rw [reading.held]
    exact written
  · intro equal
    exact (playing.direct equal).trans same.symm
  · intro differ
    obtain ⟨resampler, turns⟩ := playing.converted differ
    refine ⟨resampler, turns.rates, ?_, turns.next⟩
    change Resampler.pulls kernel player.played.length (audible containerBytes count initial
      (Function.update player.packets number (some bytes)) player.stream.cursor.frames) _ = _
    rw [same]
    exact turns.pulled

/-- Every render returns a frame, read from the packets as far as it needs. -/
theorem render_playing (playing : Playing kernel rate card containerBytes count initial player) (qpc : UInt64) :
    ∃ after, player.step kernel card (.render qpc) = some after ∧ after.played.length = player.played.length + 1 ∧
      Playing kernel rate card containerBytes count initial after := by
  have enough : 200 ≤ renderTurns := Nat.le_add_right 200 312
  obtain ⟨frame, stream, rendered, can⟩ := playing.can.render kernel card enough qpc
  refine ⟨{ player with stream, played := player.played ++ [frame] }, ?_, List.length_append, ?_⟩
  · rw [step, rendered]
    rfl
  by_cases equal : rate.hz = card.hz
  · have here : player.stream.rate.hz = card.hz := by
      rw [playing.atRate]
      exact equal
    rw [RtStream.render, if_pos here] at rendered
    obtain ⟨heard, reading, format, _⟩ := playing.reading.readFrames qpc 1
    obtain ⟨moved, kept⟩ := RtStream.renderFrame_moved player.stream qpc
    obtain ⟨_, _, _, frames⟩ := RtStream.renderFrame_reads playing.reading.toRinged qpc
    obtain ⟨rfl, rfl⟩ := Prod.ext_iff.mp (Option.some.inj rendered)
    refine ⟨reading, moved.rate.trans playing.atRate, format.trans playing.format, can, ?_, absurd equal⟩
    intro _
    have before := playing.direct equal
    rw [playing.format] at heard
    change player.played ++ [(player.stream.renderFrame qpc).1] = audible containerBytes count initial player.packets
      (player.stream.renderFrame qpc).2.cursor.frames
    rw [frames, before]
    exact heard.symm
  · obtain ⟨resampler, turns⟩ := playing.converted equal
    have looped := (turns.render equal playing.atRate renderTurns qpc).symm.trans rendered
    obtain ⟨needed, next, pulled, read⟩ := RtStream.renderTurn_pulls kernel qpc looped
    obtain ⟨heard, reading, format, frames⟩ := playing.reading.readFrames qpc needed
    have rates := Resampler.pull_rates pulled
    have atRate := RtStream.readFrames_rate qpc needed player.stream
    subst read
    refine ⟨⟨reading.toRinged.kept rfl rfl rfl, reading.ahead⟩, atRate.trans playing.atRate, format.trans playing.format, can,
      fun same => absurd same equal, ?_⟩
    intro _
    refine ⟨next, rates.trans turns.rates, ?_, .inl rfl⟩
    rw [playing.format] at heard
    change Resampler.pulls kernel (player.played ++ [frame]).length (audible containerBytes count initial player.packets
      (player.stream.readFrames qpc needed).2.cursor.frames) _ = _
    rw [frames, heard, List.length_append, List.length_singleton]
    exact Resampler.pulls_concat turns.pulled pulled

def Event.renders : Event packetBytes → Bool
  | .render _ => true
  | .write .. => false

/-- By induction on the run. -/
theorem run_playing (playing : Playing kernel rate card containerBytes count initial player) {events : List (Event packetBytes)}
    (timely : Along (step kernel card) Timely player events) :
    ∃ after, run (step kernel card) player events = some after ∧
      after.played.length = player.played.length + events.countP Event.renders ∧
      Playing kernel rate card containerBytes count initial after := by
  induction events generalizing player with
  | nil => exact ⟨player, rfl, rfl, playing⟩
  | cons event events ih =>
    obtain ⟨middle, stepped, played, next⟩ : ∃ middle, player.step kernel card event = some middle ∧
        middle.played.length = player.played.length + (if event.renders then 1 else 0) ∧
        Playing kernel rate card containerBytes count initial middle := by
      cases event with
      | write number bytes => exact ⟨_, rfl, rfl, write_playing playing timely.1 rfl⟩
      | render qpc => exact render_playing playing qpc
    obtain ⟨after, ran, length, last⟩ := ih next (timely.2 middle stepped)
    refine ⟨after, run_cons.mpr ⟨middle, stepped, ran⟩, ?_, last⟩
    rw [length, played, List.countP_cons, Nat.add_assoc, Nat.add_comm (events.countP _)]

theorem Playing.converts (playing : Playing kernel rate card containerBytes count initial player) :
    Converts kernel rate card (audible containerBytes count initial player.packets player.stream.cursor.frames) player.played := by
  by_cases equal : rate.hz = card.hz
  · rw [Converts, if_pos equal]
    exact playing.direct equal
  · obtain ⟨resampler, turns⟩ := playing.converted equal
    rw [Converts, if_neg equal]
    exact ⟨resampler, turns.pulled⟩

/-- A client that writes every packet before a frame of it is moved, and only where
its place is no longer in use, is heard in order: the card gets the packets' frames, converted if
the rates differ, and where a packet is missing what its place held before. -/
theorem plays_packets (kernel : Kernel) (card : SampleRate) {mapped ready : Mapped} {pool : Pool} {packets : List RtPacket}
    (container : mapped.stream.containerBytes = 2 ∨ mapped.stream.containerBytes = 4)
    (allocated : mapped.allocatePackets pool count packetBytes = (.ok packets, ready)) {events : List (Event packetBytes)}
    (timely : Along (step kernel card) Timely (start packetBytes ready.stream) events) :
    ∃ player, run (step kernel card) (start packetBytes ready.stream) events = some player ∧
      player.played.length = events.countP Event.renders ∧
      Converts kernel mapped.stream.rate card
        (audible mapped.stream.containerBytes count (fun _ => Vector.replicate packetBytes 0) player.packets
          player.stream.cursor.frames) player.played := by
  obtain ⟨ringed, format, rate, blank⟩ := Mapped.allocatePackets_ringed container allocated
  obtain ⟨player, ran, length, playing⟩ := run_playing (start_playing ringed blank) timely
  refine ⟨player, ran, length.trans (Nat.zero_add _), ?_⟩
  rw [← rate, ← format]
  exact playing.converts

/-- Two packets of two frames take turns, both written before the first frame; the third is missing. -/
def twoTurns : List (Event 8) :=
  [.write 0 #v[1, 0, 2, 0, 3, 0, 4, 0], .write 1 #v[5, 0, 6, 0, 7, 0, 8, 0], .render 0, .render 1, .render 2, .render 3,
    .write 3 #v[9, 0, 10, 0, 11, 0, 12, 0], .render 4, .render 5, .write 4 #v[13, 0, 14, 0, 15, 0, 16, 0], .render 6,
    .render 7, .render 8]

theorem plays_packets_two_turns : ∃ ready player,
    (Mapped.allocatePackets ⟨.new .output12 .hz48000 16, fun _ => none⟩ twoPagesEach 2 8).2 = ready ∧
      run (step (Vector.replicate _ 0) .hz48000) (start 8 ready.stream) twoTurns = some player ∧
      player.played = [#v[1, 2], #v[3, 4], #v[5, 6], #v[7, 8], #v[1, 2], #v[3, 4], #v[9, 10], #v[11, 12], #v[13, 14]].map
        (·.map (· * 2 ^ 8)) ∧
      Converts (Vector.replicate _ 0) .hz48000 .hz48000
        (audible 2 2 (fun _ => Vector.replicate 8 0) player.packets player.stream.cursor.frames) player.played := by
  have timely : Along (step (Vector.replicate _ 0) .hz48000) Timely
      (start 8 (Mapped.allocatePackets ⟨.new .output12 .hz48000 16, fun _ => none⟩ twoPagesEach 2 8).2.stream) twoTurns := by
    decide +kernel
  have plays : (run (step (Vector.replicate _ 0) .hz48000)
      (start 8 (Mapped.allocatePackets ⟨.new .output12 .hz48000 16, fun _ => none⟩ twoPagesEach 2 8).2.stream) twoTurns).map
        (·.played) = some ([#v[1, 2], #v[3, 4], #v[5, 6], #v[7, 8], #v[1, 2], #v[3, 4], #v[9, 10], #v[11, 12], #v[13, 14]].map
          (·.map (· * 2 ^ 8))) := by decide +kernel
  obtain ⟨player, ran, _, converts⟩ := @plays_packets 2 8 (Vector.replicate _ 0) .hz48000
    ⟨.new .output12 .hz48000 16, fun _ => none⟩ _ twoPagesEach _ (.inl rfl) rfl twoTurns timely
  obtain ⟨other, also, played⟩ := Option.map_eq_some_iff.mp plays
  cases ran.symm.trans also
  exact ⟨_, player, rfl, ran, played, converts⟩

end Player
end Ak1Driver.Driver
