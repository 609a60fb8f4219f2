import Ak1Driver.Layout

/-! The playback encoder writes the documented stream, however the stream is
cut into packets. What it has not written yet is the tail it carries. -/

namespace Ak1Driver.Proofs.Playback
open Proto Proto.Mode2 Layout Lib.Chunks

/-- The bytes an encoder still owes the stream. -/
def owed (encoder : PlaybackEncoder) : List UInt8 :=
  [encoder.tail[0].1, encoder.tail[1].1, encoder.tail[0].2, encoder.tail[1].2]

private theorem set_block (block : Block) (a b c d e f g h : UInt8) :
    (((((((block.set 0 a).set 2 b).set 4 c).set 6 d).set 1 e).set 3 f).set 5 g).set 7 h = #v[a, e, b, f, c, g, d, h] := by
  apply Vector.ext
  intro place inside
  have bound : place < 8 := inside
  interval_cases place <;> simp

private theorem set_tail (tail : Vector α streams) (first second : α) :
    (tail.set 0 first).set 1 second = #v[first, second] := by
  apply Vector.ext
  intro place inside
  have bound : place < 2 := inside
  interval_cases place <;> simp

/-- A block takes the tail of the sample before it and leaves the tail of its own. -/
theorem encodeBlock_eq {samples : Frame channels} {side : Fin 2} {first second : Int}
    (sample0 : samples.get ⟨0 * channelsPerStream + side, channel_lt 0 side⟩ = first)
    (sample1 : samples.get ⟨1 * channelsPerStream + side, channel_lt 1 side⟩ = second)
    (index : Nat) (encoder : PlaybackEncoder) (block : Block) :
    encodeBlock samples index encoder block side =
      ({ tail := #v[(be24 first 1, be24 first 2), (be24 second 1, be24 second 2)] },
        #v[encoder.tail[0].1, encoder.tail[1].1, encoder.tail[0].2, encoder.tail[1].2, check 0 side, check 1 side,
          be24 first 0, be24 second 0]) := by
  have loop : List.finRange streams = [0, 1] := rfl
  have parity : ∀ stream < streams, checkByte stream (2 * index + side) = check stream side := by
    intro stream inside
    rw [checkByte_eq inside]
    simp [check, Nat.add_mod]
  have check0 := parity 0 (by decide)
  have check1 := parity 1 (by decide)
  have untouched : ∀ entry, (encoder.tail.set 0 entry)[1] = encoder.tail[1] := by simp
  subst sample0 sample1
  simp only [encodeBlock, loop, List.foldl_cons, List.foldl_nil, encodeStream, toBe24_eq, Fin.val_zero, Fin.val_one,
    check0, check1]
  apply Prod.ext
  · exact congrArg PlaybackEncoder.mk (set_tail _ _ _)
  · apply (set_block block _ _ _ _ _ _ _ _).trans
    simp only [untouched]
    rfl

theorem encodeFrame_owed (samples : Frame channels) (index : Nat) (encoder : PlaybackEncoder)
    (bytes : Vector UInt8 frameBytes) :
    owed encoder ++ playbackFrame samples =
      (encodeFrame samples index encoder bytes).2 ++ owed (encodeFrame samples index encoder bytes).1 := by
  have first := @encodeBlock_eq samples 0 samples[0] samples[2] rfl rfl
  have second := @encodeBlock_eq samples 1 samples[1] samples[3] rfl rfl
  simp only [encodeFrame, first, second]
  rfl

@[simp] theorem length_encodeFrame (samples : Frame channels) (index : Nat) (encoder : PlaybackEncoder)
    (bytes : Vector UInt8 frameBytes) : (encodeFrame samples index encoder bytes).2.length = frameBytes := by
  simp only [encodeFrame, List.length_append, Vector.length_toList]
  rfl

/-- The frames a source gives when it is asked `count` times, and what is left of it. -/
def drawn (nextFrame : σ → Frame channels × σ) : Nat → σ → List (Frame channels) × σ
  | 0, state => ([], state)
  | count + 1, state =>
    let (frame, state) := nextFrame state
    let (frames, state) := drawn nextFrame count state
    (frame :: frames, state)

@[simp] theorem length_drawn (nextFrame : σ → Frame channels × σ) (count : Nat) (state : σ) :
    (drawn nextFrame count state).1.length = count := by
  induction count generalizing state with
  | zero => rfl
  | succ count ih => simp [drawn, ih]

/-- What an encoder has done between two points of its stream. -/
structure Encoded (before after : PlaybackEncoder) (frames : List (Frame channels)) (bytes : List UInt8) : Prop where
  stream : owed before ++ frames.flatMap playbackFrame = bytes ++ owed after
  length : bytes.length = frames.length * frameBytes

theorem Encoded.refl (encoder : PlaybackEncoder) : Encoded encoder encoder [] [] := by
  constructor <;> simp

theorem Encoded.trans {before middle after : PlaybackEncoder} {frames others : List (Frame channels)}
    {bytes more : List UInt8} (first : Encoded before middle frames bytes) (second : Encoded middle after others more) :
    Encoded before after (frames ++ others) (bytes ++ more) where
  stream := by
    rw [List.flatMap_append, ← List.append_assoc, first.stream, List.append_assoc, second.stream, List.append_assoc]
  length := by
    rw [List.length_append, List.length_append, first.length, second.length, Nat.add_mul]

theorem encodeFrame_encoded (samples : Frame channels) (index : Nat) (encoder : PlaybackEncoder)
    (bytes : Vector UInt8 frameBytes) :
    Encoded encoder (encodeFrame samples index encoder bytes).1 [samples] (encodeFrame samples index encoder bytes).2 where
  stream := by
    rw [List.flatMap_singleton]
    exact encodeFrame_owed samples index encoder bytes
  length := by
    simp

/-- One packet: by induction on its frames, whatever the packet held before. -/
theorem encodeFrames_encoded (nextFrame : σ → Frame channels × σ) (chunks : List (Vector UInt8 frameBytes)) (index : Nat)
    (encoder : PlaybackEncoder) (written : List UInt8) (state : σ) :
    ∃ after bytes, (chunks.zipIdx index).foldl (encodeNext nextFrame) (encoder, written, state) =
        (after, written ++ bytes, (drawn nextFrame chunks.length state).2) ∧
      Encoded encoder after (drawn nextFrame chunks.length state).1 bytes := by
  induction chunks generalizing index encoder written state with
  | nil => exact ⟨encoder, [], by simp [drawn], .refl encoder⟩
  | cons chunk chunks ih =>
    have first := encodeFrame_encoded (nextFrame state).1 index encoder chunk
    obtain ⟨after, bytes, ran, rest⟩ := ih (index + 1) (encodeFrame (nextFrame state).1 index encoder chunk).1
      (written ++ (encodeFrame (nextFrame state).1 index encoder chunk).2) (nextFrame state).2
    refine ⟨after, (encodeFrame (nextFrame state).1 index encoder chunk).2 ++ bytes, ?_, first.trans rest⟩
    rw [List.zipIdx_cons, List.foldl_cons, ← List.append_assoc]
    exact ran

theorem encode_encoded {packet : List UInt8} (whole : packet.length % frameBytes = 0) (encoder : PlaybackEncoder)
    (nextFrame : σ → Frame channels × σ) (state : σ) :
    ∃ after bytes, encoder.encode packet nextFrame state =
        (after, bytes, (drawn nextFrame (framesIn packet.length) state).2) ∧
      Encoded encoder after (drawn nextFrame (framesIn packet.length) state).1 bytes := by
  obtain ⟨after, bytes, ran, encoded⟩ := encodeFrames_encoded nextFrame (asChunks frameBytes packet) 0 encoder [] state
  rw [length_asChunks] at ran encoded
  refine ⟨after, bytes, ?_, encoded⟩
  simp only [PlaybackEncoder.encode, ran, remainder_of_whole whole, List.nil_append, List.append_nil]
  rfl

def encodeAll (nextFrame : σ → Frame channels × σ) :
    PlaybackEncoder → List (List UInt8) → σ → PlaybackEncoder × List (List UInt8) × σ
  | encoder, [], state => (encoder, [], state)
  | encoder, packet :: packets, state =>
    let (encoder, packet, state) := encoder.encode packet nextFrame state
    let (encoder, packets, state) := encodeAll nextFrame encoder packets state
    (encoder, packet :: packets, state)

theorem drawn_add (nextFrame : σ → Frame channels × σ) (first second : Nat) (state : σ) :
    drawn nextFrame (first + second) state =
      ((drawn nextFrame first state).1 ++ (drawn nextFrame second (drawn nextFrame first state).2).1,
        (drawn nextFrame second (drawn nextFrame first state).2).2) := by
  induction first generalizing state with
  | zero => simp [drawn]
  | succ first ih =>
    rw [Nat.add_right_comm]
    simp only [drawn, ih]
    rfl

def framesAll (packets : List (List UInt8)) : Nat := (packets.map fun packet => framesIn packet.length).sum

theorem encodeAll_encoded (nextFrame : σ → Frame channels × σ) {packets : List (List UInt8)}
    (whole : ∀ packet ∈ packets, packet.length % frameBytes = 0) (encoder : PlaybackEncoder) (state : σ) :
    ∃ after written, encodeAll nextFrame encoder packets state =
        (after, written, (drawn nextFrame (framesAll packets) state).2) ∧
      written.map List.length = packets.map List.length ∧
      Encoded encoder after (drawn nextFrame (framesAll packets) state).1 written.flatten := by
  induction packets generalizing encoder state with
  | nil => exact ⟨encoder, [], rfl, rfl, .refl encoder⟩
  | cons packet packets ih =>
    obtain ⟨middle, bytes, ran, first⟩ := encode_encoded (whole packet (by simp)) encoder nextFrame state
    obtain ⟨after, written, rest, lengths, second⟩ := ih (fun other member => whole other (by simp [member])) middle
      (drawn nextFrame (framesIn packet.length) state).2
    have total : framesAll (packet :: packets) = framesIn packet.length + framesAll packets := rfl
    refine ⟨after, bytes :: written, ?_, ?_, ?_⟩
    · simp only [encodeAll, ran, rest, total, drawn_add]
    · rw [List.map_cons, List.map_cons, lengths, first.length, length_drawn, framesIn, 
        Nat.div_mul_cancel (Nat.dvd_of_mod_eq_zero (whole packet (by simp)))]
    · rw [total, drawn_add, List.flatten_cons]
      exact first.trans second

/-- The source that plays a list of frames, and silence after it. -/
def takeFrame : List (Frame channels) → Frame channels × List (Frame channels)
  | [] => (silence, [])
  | frame :: frames => (frame, frames)

theorem drawn_all (frames : List (Frame channels)) : drawn takeFrame frames.length frames = (frames, []) := by
  induction frames with
  | nil => rfl
  | cons frame frames ih => simp only [List.length_cons, drawn, takeFrame, ih]

theorem Encoded.playback {after : PlaybackEncoder} {frames : List (Frame channels)} {bytes : List UInt8}
    (encoded : Encoded {} after frames bytes) : bytes ++ owed after = playback frames := encoded.stream.symm

theorem Encoded.take_four {before after : PlaybackEncoder} {frames : List (Frame channels)} {bytes : List UInt8}
    (encoded : Encoded before after frames bytes) (some : frames ≠ []) : bytes.take 4 = owed before := by
  have long : 4 ≤ bytes.length := by
    have := List.length_pos_iff.mpr some
    rw [encoded.length]
    simp only [frameBytes, blockBytes]
    omega
  have same := congrArg (List.take 4) encoded.stream
  rw [List.take_append_of_le_length long] at same
  exact same.symm

/-- All but the last frame, whose right samples are not complete, can be read
from the bytes written so far. -/
theorem readPlayback_take {frames : List (Frame channels)} (fits : ∀ frame ∈ frames, FrameFits24 frame) :
    readPlayback ((playback frames).take (frames.length * frameBytes)) = frames.dropLast := by
  rcases List.eq_nil_or_concat frames with rfl | ⟨start, last, rfl⟩
  · rfl
  · have whole : playback (start.concat last) = playback start ++ playbackFrame last := by
      simp [playback]
    have length : (start.concat last).length * frameBytes = (playback start).length + 12 := by
      simp only [List.length_concat, length_playback, frameBytes, blockBytes]
      omega
    have short : ((playbackFrame last).take 12).length < frameBytes := show 12 < frameBytes by decide
    rw [whole, length, List.take_length_add_append, readPlayback_playback _ short]
    · simp
    · intro frame member
      exact fits frame (by simp [member])

/-- The encoder writes the documented stream independently of the packets it is
cut into, apart from the tail it holds back for the next packet. -/
theorem playback_stream (frames : List (Frame channels)) (packets : List (List UInt8))
    (whole : ∀ packet ∈ packets, packet.length % frameBytes = 0) (split : framesAll packets = frames.length) :
    ∃ after written, encodeAll takeFrame {} packets frames = (after, written, []) ∧
      written.map List.length = packets.map List.length ∧
      written.flatten ++ owed after = playback frames ∧
      written.flatten = (playback frames).take (frames.length * frameBytes) ∧
      (∀ packet, packet.length % frameBytes = 0 → packet ≠ [] → ∀ {σ : Type} (nextFrame : σ → Frame channels × σ) state,
        (after.encode packet nextFrame state).2.1.take 4 = owed after) ∧
      ((∀ frame ∈ frames, FrameFits24 frame) → readPlayback (written.flatten ++ owed after) = frames ∧
        readPlayback written.flatten = frames.dropLast) ∧
      (∀ index < 2 * frames.length, ∀ stream < streams,
        written.flatten[4 + (index * 8 + stream)]? = some (checkByte stream index)) := by
  obtain ⟨after, written, ran, lengths, encoded⟩ := encodeAll_encoded takeFrame whole {} frames
  rw [split, drawn_all] at ran encoded
  have stream := encoded.playback
  have cut : written.flatten = (playback frames).take (frames.length * frameBytes) := by
    rw [← stream, ← encoded.length, List.take_left]
  refine ⟨after, written, ran, lengths, stream, cut, ?_, ?_, ?_⟩
  · intro packet other some σ nextFrame state
    obtain ⟨last, bytes, ran, more⟩ := encode_encoded other after nextFrame state
    have positive : 0 < framesIn packet.length := by
      have := List.length_pos_iff.mpr some
      simp only [framesIn, frameBytes, blockBytes] at *
      omega
    rw [ran]
    apply more.take_four
    apply List.ne_nil_of_length_pos
    rwa [length_drawn]
  · intro fits
    have short : ([] : List UInt8).length < frameBytes := frameBytes_pos
    have readAll := readPlayback_playback fits short
    rw [List.append_nil] at readAll
    rw [stream, cut]
    exact ⟨readAll, readPlayback_take fits⟩
  · intro index inside stream known
    have bound : 4 + (index * 8 + stream) < frames.length * frameBytes := by
      simp only [frameBytes, blockBytes, streams] at *
      omega
    rw [cut, List.getElem?_take_of_lt bound, playback_check inside known, checkByte_eq known]

theorem playback_stream_three_packets :
    ∃ after written, encodeAll takeFrame {} [List.replicate 16 0xee, [], List.replicate 32 0xee]
        [#v[0x112233, 0x445566, 0x778899, -1], #v[1, 2, 3, 4], #v[-5, -6, -7, -8]] = (after, written, []) ∧
      written.flatten ++ owed after =
        playback [#v[0x112233, 0x445566, 0x778899, -1], #v[1, 2, 3, 4], #v[-5, -6, -7, -8]] := by
  obtain ⟨after, written, ran, _, stream, _⟩ := playback_stream
    [#v[0x112233, 0x445566, 0x778899, -1], #v[1, 2, 3, 4], #v[-5, -6, -7, -8]]
    [List.replicate 16 0xee, [], List.replicate 32 0xee] (by decide) (by decide)
  exact ⟨after, written, ran, stream⟩

end Ak1Driver.Proofs.Playback
