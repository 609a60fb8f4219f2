import Ak1Driver.Driver.Stream
import Ak1Driver.Lib.Carry
import Ak1Driver.Lib.Loop
import Ak1Driver.Proofs.Capture
import Ak1Driver.Proofs.Playback

/-! Every completed capture transfer is answered by a playback transfer of the
same packet lengths, and no access leaves its array or buffer, whatever lengths
and statuses the device reports. -/

namespace Ak1Driver.Driver
open Proto Proto.Mode2 Lib.Chunks Lib.Carry Lib.Loop Lib.Transition Proofs.Capture Proofs.Playback

/-- The operations the engine asks of the audio. -/
inductive Call where
  | stamp
  | capture
  | render
  deriving DecidableEq, Repr

/-- The same audio, keeping a record of what it is asked. -/
def Frames.recorded (frames : Frames σ) : Frames (σ × List Call) where
  stamp := fun (audio, calls) qpc => (frames.stamp audio qpc, calls ++ [.stamp])
  capture := fun (audio, calls) samples => (frames.capture audio samples, calls ++ [.capture])
  render := fun (audio, calls) =>
    let (frame, audio) := frames.render audio
    (frame, audio, calls ++ [.render])

namespace Engine

/-- What the audio is asked for a packet of `count` frames. -/
def packetCalls (free : Bool) (count : Nat) : List Call :=
  .stamp :: (List.replicate count .capture ++ if free then List.replicate count .render else [])

def invalidBefore (maxPacketBytes : Nat) (packets : List IsoPacket) (i : Nat) : Nat :=
  (packets.take i).countP (!valid maxPacketBytes ·)

/-- The number of frames packet `i` of all packets since the start moves. -/
def frameCount (rateHz maxPacketBytes : Nat) (packets : List IsoPacket) (i : Nat) : Nat :=
  match packets[i]? with
  | none => 0
  | some packet =>
    if valid maxPacketBytes packet then packet.length.toNat / frameBytes
    else given microframesPerSecond rateHz (invalidBefore maxPacketBytes packets i)

theorem invalidBefore_succ {maxPacketBytes : Nat} {packets : List IsoPacket} {i : Nat} {packet : IsoPacket}
    (found : packets[i]? = some packet) : invalidBefore maxPacketBytes packets (i + 1) =
      invalidBefore maxPacketBytes packets i + (!valid maxPacketBytes packet).toNat := by
  rw [invalidBefore, List.take_add_one, found, List.countP_append, Option.toList_some, List.countP_singleton]
  cases valid maxPacketBytes packet <;> rfl

theorem nominalFrames_eq {codec : Codec} {rateHz earlier : Nat}
    (remainder : codec.nominalRemainder = earlier * rateHz % microframesPerSecond) :
    codec.nominalFrames rateHz = (given microframesPerSecond rateHz earlier,
      { codec with nominalRemainder := (earlier + 1) * rateHz % microframesPerSecond }) := by
  obtain ⟨nominal, rest⟩ := @carry_step microframesPerSecond rateHz microframes_pos earlier
  rw [Codec.nominalFrames, remainder, nominal, rest]

theorem given_bound (rate : SampleRate) (count : Nat) : given microframesPerSecond rate.hz count ≤ 24 := by
  obtain ⟨same, _⟩ := @carry_step microframesPerSecond rate.hz microframes_pos count
  have remainder := Nat.mod_lt (count * rate.hz) microframes_pos
  have rates : rate.hz ≤ 192000 := by cases rate <;> decide
  rw [← same]
  simp only [microframesPerSecond] at *
  omega

theorem captures_recorded (frames : Frames σ) (captured : List (Frame channels)) (sample : Frame channels → Frame 2)
    (audio : σ) (calls : List Call) :
    ∃ after, captured.foldl (fun audio frame => frames.recorded.capture audio (sample frame)) (audio, calls) =
      (after, calls ++ List.replicate captured.length .capture) := by
  induction captured generalizing audio calls with
  | nil => exact ⟨audio, by simp⟩
  | cons frame captured ih =>
    obtain ⟨after, ran⟩ := ih (frames.capture audio (sample frame)) (calls ++ [.capture])
    refine ⟨after, ran.trans ?_⟩
    simp [List.replicate_succ]

theorem renders_recorded (frames : Frames σ) (count : Nat) (audio : σ) (calls : List Call) :
    ∃ after, (drawn frames.recorded.render count (audio, calls)).2 = (after, calls ++ List.replicate count .render) := by
  induction count generalizing audio calls with
  | zero => exact ⟨audio, by simp [drawn]⟩
  | succ count ih =>
    obtain ⟨after, ran⟩ := ih (frames.render audio).2 (calls ++ [.render])
    refine ⟨after, ran.trans ?_⟩
    simp [List.replicate_succ]

theorem store_fits (frames : List (Frame channels)) {decoded : Decoded}
    (room : decoded.len + frames.length ≤ maxFramesPerPacket) :
    ∃ after, frames.foldl Decoded.store (some decoded) = some after ∧ after.len = decoded.len + frames.length := by
  induction frames generalizing decoded with
  | nil => exact ⟨decoded, rfl, rfl⟩
  | cons frame frames ih =>
    rw [List.length_cons] at room
    have inside : decoded.len < maxFramesPerPacket := by omega
    have stored : Decoded.store (some decoded) frame =
        some { frames := decoded.frames.set decoded.len frame, len := decoded.len + 1 } := by
      simp [Decoded.store, inside]
    obtain ⟨after, ran, length⟩ := @ih { frames := decoded.frames.set decoded.len frame, len := decoded.len + 1 }
      (by simp only; omega)
    rw [List.foldl_cons, stored]
    refine ⟨after, ran, ?_⟩
    simp only [List.length_cons] at length ⊢
    omega

/-- Decoding `len` bytes of a packet stays within the buffer and the array. -/
theorem decode_slice (buffer : Buffer) {i : Fin packetsPerTransfer} {len : Nat} (small : len ≤ maxPacketSize) :
    ∃ data status decoded, buffer.slice (i * maxPacketSize) len = some data ∧
      decodeCapture data Decoded.store (some {}) = (status, some decoded) ∧ status.frames = len / frameBytes := by
  have inside := i.isLt
  have fits : i * maxPacketSize + len ≤ transferBytes := by
    simp only [transferBytes, packetsPerTransfer, maxPacketSize] at *
    omega
  have length : ((buffer.bytes.drop (i * maxPacketSize)).take len).length = len := by
    rw [List.length_take, List.length_drop, buffer.sized]
    omega
  have room : ({} : Decoded).len + ((asChunks frameBytes ((buffer.bytes.drop (i * maxPacketSize)).take len)).map
      Layout.rightFirst).length ≤ maxFramesPerPacket := by
    rw [List.length_map, length_asChunks, length, Nat.zero_add]
    exact Nat.div_le_div_right small
  obtain ⟨decoded, stored, _⟩ := store_fits _ room
  refine ⟨_, _, decoded, if_pos fits, (decodeCapture_eq _ _ _).trans (Prod.ext rfl stored), ?_⟩
  simp only [length]

theorem take_length (decoded : Decoded) {count : Nat} (small : count ≤ maxFramesPerPacket) :
    ∃ frames, decoded.take count = some frames ∧ frames.length = count := by
  refine ⟨_, if_pos small, ?_⟩
  rw [List.length_take, Vector.length_toList, Nat.min_eq_left small]

theorem completed_offset (results : Vector (UInt32 × Int) packetsPerTransfer) (buffer : Buffer) (i : Fin packetsPerTransfer) :
    ((completed results buffer).packets.get i).offset.toNat = i * maxPacketSize := by
  have laidOut : ((completed results buffer).packets.get i).offset = UInt32.ofNat (i * maxPacketSize) := by
    apply (congrArg IsoPacket.offset (Vector.getElem_zipWith i.isLt)).trans
    exact congrArg IsoPacket.offset (Vector.getElem_ofFn i.isLt)
  have inside : i.val < 8 := i.isLt
  rw [laidOut, UInt32.toNat_ofNat']
  exact Nat.mod_eq_of_lt (by simp only [maxPacketSize]; omega)

theorem valid_length {maxPacketBytes : Nat} {packet : IsoPacket} (correct : valid maxPacketBytes packet = true) :
    packet.length.toNat ≤ maxPacketBytes ∧ packet.length.toNat % frameBytes = 0 := by
  simp only [valid, Bool.and_eq_true, decide_eq_true_eq, beq_iff_eq] at correct
  exact ⟨correct.1.2, correct.2⟩

section Packet
variable {rate : SampleRate} {frames : Frames σ} {engine : Engine (σ × List Call)}

theorem receivePacket_eq (atRate : engine.rateHz = rate.hz) (small : engine.maxPacketBytes ≤ maxPacketSize) (qpc : UInt64)
    {results : Vector (UInt32 × Int) packetsPerTransfer} {buffer : Buffer} {progress : Progress (σ × List Call)}
    {packets : List IsoPacket} {earlier : Nat} {i : Fin packetsPerTransfer}
    (found : packets[earlier + i]? = some ((completed results buffer).packets.get i))
    (remainder : progress.codec.nominalRemainder =
      invalidBefore engine.maxPacketBytes packets (earlier + i) * rate.hz % microframesPerSecond) :
    ∃ after, receivePacket frames.recorded engine (completed results buffer) qpc progress i =
        some (frameCount rate.hz engine.maxPacketBytes packets (earlier + i), after) ∧
      after.audio.2 = progress.audio.2 ++ .stamp ::
        List.replicate (frameCount rate.hz engine.maxPacketBytes packets (earlier + i)) .capture ∧
      after.codec.nominalRemainder =
        invalidBefore engine.maxPacketBytes packets (earlier + i + 1) * rate.hz % microframesPerSecond ∧
      after.playback = progress.playback ∧ after.offset = progress.offset := by
  have place := completed_offset results buffer i
  have counted := @invalidBefore_succ engine.maxPacketBytes _ _ _ found
  generalize packetIs : (completed results buffer).packets.get i = packet at place found counted
  cases correct : valid engine.maxPacketBytes packet with
  | true =>
    obtain ⟨bounded, whole⟩ := valid_length correct
    have count : frameCount rate.hz engine.maxPacketBytes packets (earlier + i) = packet.length.toNat / frameBytes := by
      simp only [frameCount, found, correct, ↓reduceIte]
    have fits : packet.length.toNat ≤ maxPacketSize := bounded.trans small
    obtain ⟨data, status, decoded, sliced, decodes, framesAre⟩ := @decode_slice (completed results buffer).buffer i _ fits
    have held : status.frames ≤ maxFramesPerPacket := framesAre ▸ Nat.div_le_div_right fits
    obtain ⟨played, taken, length⟩ := take_length decoded held
    obtain ⟨audio, captured⟩ := captures_recorded frames played
      (fun frame => if status.checkErrors == 0 then #v[frame.get 0, frame.get 1] else silence)
      (frames.stamp progress.audio.1
        (qpc - (UInt64.ofNat packetsPerTransfer - 1 - UInt64.ofNat i) * engine.qpcPerMicroframe)) (progress.audio.2 ++ [.stamp])
    simp only [receivePacket, packetIs, correct, ↓reduceIte, place, sliced, decodes, taken, Option.bind_eq_bind,
      Option.bind_some, Bool.true_and]
    refine ⟨_, congrArg some (Prod.ext (framesAre.trans count.symm) rfl), ?_, ?_, rfl, rfl⟩
    · apply (congrArg Prod.snd captured).trans
      rw [length, framesAre, count, List.append_assoc]
      rfl
    · rw [counted, correct]
      exact remainder
  | false =>
    have count : frameCount rate.hz engine.maxPacketBytes packets (earlier + i) =
        given microframesPerSecond rate.hz (invalidBefore engine.maxPacketBytes packets (earlier + i)) := by
      simp only [frameCount, found, correct, Bool.false_eq_true, ↓reduceIte]
    have nominal := nominalFrames_eq remainder
    obtain ⟨data, status, decoded, sliced, decodes, framesAre⟩ :=
      @decode_slice (completed results buffer).buffer i 0 (Nat.zero_le _)
    have held : given microframesPerSecond rate.hz (invalidBefore engine.maxPacketBytes packets (earlier + i)) ≤
        maxFramesPerPacket := (given_bound rate _).trans (by decide)
    obtain ⟨played, taken, length⟩ := take_length decoded held
    obtain ⟨audio, captured⟩ := captures_recorded frames played (fun _ => silence)
      (frames.stamp progress.audio.1
        (qpc - (UInt64.ofNat packetsPerTransfer - 1 - UInt64.ofNat i) * engine.qpcPerMicroframe)) (progress.audio.2 ++ [.stamp])
    simp only [receivePacket, packetIs, correct, Bool.false_eq_true, ↓reduceIte, place, sliced, decodes, atRate, nominal,
      taken, Option.bind_eq_bind, Option.bind_some, Bool.false_and]
    refine ⟨_, congrArg some (Prod.ext count.symm rfl), ?_, ?_, rfl, rfl⟩
    · apply (congrArg Prod.snd captured).trans
      rw [length, count, List.append_assoc]
      rfl
    · rw [counted, correct]
      rfl

theorem replyPacket_some {progress : Progress (σ × List Call)} {transfer : Transfer} {count : Nat}
    (playing : progress.playback = some transfer) (room : progress.offset + count * frameBytes ≤ transferBytes)
    (i : Fin packetsPerTransfer) :
    ∃ after buffer, replyPacket frames.recorded progress i count = some after ∧
      after.audio.2 = progress.audio.2 ++ List.replicate count .render ∧
      after.codec.nominalRemainder = progress.codec.nominalRemainder ∧
      after.offset = progress.offset + count * frameBytes ∧
      after.playback = some { transfer with
        buffer
        packets := transfer.packets.set i { transfer.packets.get i with
          offset := UInt32.ofNat progress.offset, length := UInt32.ofNat (count * frameBytes) } } := by
  generalize outIs : (transfer.buffer.bytes.drop progress.offset).take (count * frameBytes) = out
  have sliced : transfer.buffer.slice progress.offset (count * frameBytes) = some out := outIs ▸ if_pos room
  have length : out.length = count * frameBytes := by
    rw [← outIs, List.length_take, List.length_drop, transfer.buffer.sized]
    omega
  have whole : out.length % frameBytes = 0 := by rw [length, Nat.mul_mod_left]
  have asked : framesIn out.length = count := by rw [framesIn, length, Nat.mul_div_cancel _ frameBytes_pos]
  obtain ⟨encoder, bytes, encoded, stream⟩ := encode_encoded whole progress.codec.encoder frames.recorded.render progress.audio
  obtain ⟨audio, rendered⟩ := renders_recorded frames count progress.audio.1 progress.audio.2
  rw [asked, rendered] at encoded
  have fits : progress.offset + bytes.length ≤ transferBytes := by
    rw [stream.length, length_drawn, asked]
    exact room
  have filled : transfer.buffer.fill progress.offset bytes = some _ := dif_pos fits
  simp only [replyPacket, playing, sliced, encoded, filled, Option.bind_eq_bind, Option.bind_some]
  exact ⟨_, _, rfl, rfl, rfl, rfl, rfl⟩

theorem frameCount_le {maxPacketBytes : Nat} (small : maxPacketBytes ≤ maxPacketSize) (packets : List IsoPacket) (i : Nat) :
    frameCount rate.hz maxPacketBytes packets i ≤ maxFramesPerPacket := by
  simp only [frameCount]
  split
  · exact Nat.zero_le _
  · split
    · rename_i packet _ correct
      exact Nat.div_le_div_right ((valid_length correct).1.trans small)
    · exact (given_bound rate _).trans (by decide)

end Packet

def framesBefore (counts : Nat → Nat) (i : Nat) : Nat := ((List.range i).map counts).sum

theorem framesBefore_succ (counts : Nat → Nat) (i : Nat) : framesBefore counts (i + 1) = framesBefore counts i + counts i := by
  simp [framesBefore, List.range_succ]

theorem framesBefore_le {counts : Nat → Nat} (small : ∀ i, counts i ≤ maxFramesPerPacket) (i : Nat) :
    framesBefore counts i ≤ i * maxFramesPerPacket := by
  induction i with
  | zero => exact Nat.le_refl _
  | succ i ih =>
    rw [framesBefore_succ, Nat.succ_mul]
    exact Nat.add_le_add ih (small i)

/-- Packet `i` of a playback transfer lies where the packets before it end. -/
structure Mirrors (counts : Nat → Nat) (transfer : Transfer) (i : Fin packetsPerTransfer) : Prop where
  offset : (transfer.packets.get i).offset = UInt32.ofNat (framesBefore counts i * frameBytes)
  length : (transfer.packets.get i).length = UInt32.ofNat (counts i * frameBytes)

theorem Mirrors.placed {counts : Nat → Nat} {i : Fin packetsPerTransfer} {offset : Nat}
    (start : offset = framesBefore counts i * frameBytes) (transfer : Transfer) (buffer : Buffer) :
    Mirrors counts { transfer with
      buffer
      packets := transfer.packets.set i { transfer.packets.get i with
        offset := UInt32.ofNat offset, length := UInt32.ofNat (counts i * frameBytes) } } i where
  offset := (congrArg IsoPacket.offset (Vector.getElem_set_self i.isLt)).trans (congrArg UInt32.ofNat start)
  length := congrArg IsoPacket.length (Vector.getElem_set_self i.isLt)

theorem Mirrors.untouched {counts : Nat → Nat} {transfer : Transfer} {i j : Fin packetsPerTransfer}
    (mirrors : Mirrors counts transfer j) (other : i.val ≠ j.val) (packet : IsoPacket) (buffer : Buffer) :
    Mirrors counts { transfer with buffer, packets := transfer.packets.set i packet i.isLt } j where
  offset := (congrArg IsoPacket.offset (Vector.getElem_set_ne i.isLt j.isLt other)).trans mirrors.offset
  length := (congrArg IsoPacket.length (Vector.getElem_set_ne i.isLt j.isLt other)).trans mirrors.length

theorem toNat_bytes {frames : Nat} (small : frames ≤ packetsPerTransfer * maxFramesPerPacket) :
    (UInt32.ofNat (frames * frameBytes)).toNat = frames * frameBytes := by
  have fits : frames * frameBytes < 2 ^ 32 := by
    simp only [packetsPerTransfer, maxFramesPerPacket, maxPacketSize, frameBytes, blockBytes] at *
    omega
  exact UInt32.toNat_ofNat_of_lt' fits

/-- No offset or length of a transfer is too large for its field. -/
theorem Mirrors.toNat {counts : Nat → Nat} {transfer : Transfer} {i : Fin packetsPerTransfer}
    (mirrors : Mirrors counts transfer i) (small : ∀ i, counts i ≤ maxFramesPerPacket) :
    (transfer.packets.get i).offset.toNat = framesBefore counts i * frameBytes ∧
      (transfer.packets.get i).length.toNat = counts i * frameBytes := by
  have after : (i + 1) * maxFramesPerPacket ≤ packetsPerTransfer * maxFramesPerPacket := Nat.mul_le_mul_right _ i.isLt
  have bound := (framesBefore_le small (i + 1)).trans after
  rw [framesBefore_succ] at bound
  constructor
  · exact (congrArg UInt32.toNat mirrors.offset).trans (toNat_bytes ((Nat.le_add_right _ _).trans bound))
  · exact (congrArg UInt32.toNat mirrors.length).trans (toNat_bytes ((Nat.le_add_left _ _).trans bound))

/-- The loop of `answer` after `i` packets. -/
structure Midway (counts remainders : Nat → Nat) (playback : Option Transfer) (calls : List Call) (i : Nat)
    (progress : Progress (σ × List Call)) : Prop where
  remainder : progress.codec.nominalRemainder = remainders i
  calls : progress.audio.2 = calls ++ (List.range i).flatMap fun j => packetCalls playback.isSome (counts j)
  offset : progress.offset = if playback.isSome then framesBefore counts i * frameBytes else 0
  idle : progress.playback.isSome = playback.isSome
  mirrored : ∀ transfer, progress.playback = some transfer → ∀ j, j.val < i → Mirrors counts transfer j

theorem answerPacket_midway (frames : Frames σ) {rate : SampleRate} {engine : Engine (σ × List Call)}
    {results : Vector (UInt32 × Int) packetsPerTransfer} {buffer : Buffer} {packets : List IsoPacket} {earlier : Nat}
    {playback : Option Transfer} {calls : List Call} {counts remainders : Nat → Nat}
    (atRate : engine.rateHz = rate.hz) (small : engine.maxPacketBytes ≤ maxPacketSize) (qpc : UInt64)
    (found : ∀ i : Fin packetsPerTransfer, packets[earlier + i]? = some ((completed results buffer).packets.get i))
    (counted : ∀ i, counts i = frameCount rate.hz engine.maxPacketBytes packets (earlier + i))
    (left : ∀ i, remainders i =
      invalidBefore engine.maxPacketBytes packets (earlier + i) * rate.hz % microframesPerSecond)
    (i : Fin packetsPerTransfer) (progress : Progress (σ × List Call))
    (midway : Midway counts remainders playback calls i progress) :
    ∃ after, answerPacket frames.recorded engine (completed results buffer) qpc progress i = some after ∧
      Midway counts remainders playback calls (i + 1) after := by
  have inside := i.isLt
  obtain ⟨received, ran, asked, remainder, kept, stays⟩ := @receivePacket_eq _ rate frames engine atRate small qpc
    results buffer progress packets earlier i (found i) (midway.remainder.trans (left i))
  rw [← counted] at ran asked
  rw [Nat.add_assoc, ← left] at remainder
  simp only [answerPacket, ran, Option.bind_eq_bind, Option.bind_some]
  cases playing : received.playback with
  | none =>
    have idle : playback.isSome = false := by
      rw [← midway.idle, ← kept, playing]
      rfl
    refine ⟨received, by simp only [replyPacket, playing]; rfl, remainder, ?_, ?_, ?_, ?_⟩
    · rw [asked, midway.calls, List.range_succ, List.flatMap_append, List.append_assoc]
      simp [packetCalls, idle]
    · rw [stays, midway.offset, idle]
      rfl
    · rw [playing, idle]
      rfl
    · intro transfer other
      rw [playing] at other
      cases other
  | some transfer =>
    have busy : playback.isSome = true := by
      rw [← midway.idle, ← kept, playing]
      rfl
    have start : received.offset = framesBefore counts i * frameBytes := by
      rw [stays, midway.offset, busy]
      rfl
    have room : received.offset + counts i * frameBytes ≤ transferBytes := by
      have bound : framesBefore counts (i + 1) ≤ (i + 1) * maxFramesPerPacket :=
        framesBefore_le (fun i => counted i ▸ frameCount_le small packets (earlier + i)) (i + 1)
      rw [framesBefore_succ] at bound
      rw [start]
      simp only [transferBytes, packetsPerTransfer, maxPacketSize, maxFramesPerPacket, frameBytes, blockBytes] at *
      omega
    obtain ⟨after, bytes, replied, rendered, same, moved, mirrored⟩ := @replyPacket_some _ frames received transfer _ playing room i
    refine ⟨after, replied, same.trans remainder, ?_, ?_, ?_, ?_⟩
    · rw [rendered, asked, midway.calls, List.range_succ, List.flatMap_append, List.append_assoc]
      simp [packetCalls, busy]
    · rw [moved, start, framesBefore_succ, busy, Nat.add_mul]
      rfl
    · rw [mirrored, busy]
      rfl
    · intro other found j before
      rw [mirrored] at found
      cases found
      by_cases same : j = i
      · subst same
        exact .placed start transfer bytes
      · have earlier := midway.mirrored transfer (kept ▸ playing) j (by omega)
        exact earlier.untouched (by omega) _ bytes

def packetsOf (results : Vector (UInt32 × Int) packetsPerTransfer) (buffer : Buffer) : List IsoPacket :=
  (completed results buffer).packets.toList

/-- What the answer to a capture transfer has done, when its packets move `counts` frames. -/
structure Answered (counts : Nat → Nat) (engine after : Engine (σ × List Call)) : Prop where
  asked : after.audio.2 = engine.audio.2 ++
    (List.range packetsPerTransfer).flatMap fun i => packetCalls (engine.playbacks.any (!·.busy)) (counts i)
  silent : engine.playbacks.any (!·.busy) = false ∨ framesBefore counts packetsPerTransfer = 0 → after.sent = engine.sent
  sent : engine.playbacks.any (!·.busy) = true → framesBefore counts packetsPerTransfer ≠ 0 →
    ∃ index transfer, after.sent = engine.sent ++ [⟨index, transfer⟩] ∧
      engine.playbacks[index]?.map Transfer.busy = some false ∧
      transfer.bufferLength.toNat = framesBefore counts packetsPerTransfer * frameBytes ∧
      ∀ i : Fin packetsPerTransfer, (transfer.packets.get i).offset.toNat = framesBefore counts i * frameBytes ∧
        (transfer.packets.get i).length.toNat = counts i * frameBytes

/-- An engine at `rate` that has answered `packets` since its start. -/
structure Ready (rate : SampleRate) (spec : DeviceSpec) (packets : List IsoPacket) (engine : Engine (σ × List Call)) : Prop where
  atRate : engine.rateHz = rate.hz
  limit : engine.maxPacketBytes = spec.maxPacketBytes rate
  remainder : engine.codec.nominalRemainder =
    invalidBefore (spec.maxPacketBytes rate) packets packets.length * rate.hz % microframesPerSecond

theorem packets_found (earlier : List IsoPacket) (results : Vector (UInt32 × Int) packetsPerTransfer) (buffer : Buffer)
    (i : Fin packetsPerTransfer) :
    (earlier ++ packetsOf results buffer)[earlier.length + i]? = some ((completed results buffer).packets.get i) := by
  rw [List.getElem?_append_right (Nat.le_add_right _ _), Nat.add_sub_cancel_left]
  exact List.getElem?_eq_getElem (by simp [packetsOf])

theorem invalidBefore_append (maxPacketBytes : Nat) (earlier more : List IsoPacket) :
    invalidBefore maxPacketBytes (earlier ++ more) earlier.length = invalidBefore maxPacketBytes earlier earlier.length := by
  rw [invalidBefore, invalidBefore, List.take_left, List.take_length]

theorem Ready.midway {rate : SampleRate} {spec : DeviceSpec} {earlier : List IsoPacket} {engine : Engine (σ × List Call)}
    (ready : Ready rate spec earlier engine) (counts : Nat → Nat) (more : List IsoPacket) (stats : Stats)
    (playback : Option Transfer) :
    Midway counts
      (fun i => invalidBefore engine.maxPacketBytes (earlier ++ more) (earlier.length + i) * rate.hz % microframesPerSecond)
      playback engine.audio.2 0 { codec := engine.codec, stats, audio := engine.audio, playback, offset := 0 } where
  remainder := by
    rw [Nat.add_zero, ready.limit, invalidBefore_append]
    exact ready.remainder
  calls := by simp
  offset := by simp [framesBefore]
  idle := rfl
  mirrored := by simp

theorem sendAnswer_keeps (engine : Engine σ) (index : Nat) (transfer : Transfer) (offset : Nat) (accepted : Bool) :
    ∃ playbacks stats, engine.sendAnswer index transfer offset accepted =
      { engine with
        playbacks, stats
        sent := if offset = 0 then engine.sent
          else engine.sent ++ [⟨index, { transfer with bufferLength := UInt32.ofNat offset }⟩]
        taken := if offset = 0 ∨ accepted = false then engine.taken
          else engine.taken ++ [{ transfer with bufferLength := UInt32.ofNat offset }] } := by
  by_cases empty : offset = 0
  · simp only [sendAnswer, empty, true_or, ↓reduceIte]
    exact ⟨_, _, rfl⟩
  · cases accepted with
    | true =>
      simp only [sendAnswer, empty, Bool.true_eq_false, or_self, ↓reduceIte]
      exact ⟨_, _, rfl⟩
    | false =>
      simp only [sendAnswer, empty, or_true, Bool.false_eq_true, ↓reduceIte]
      exact ⟨_, _, rfl⟩

theorem answer_ready {rate : SampleRate} {spec : DeviceSpec} {earlier : List IsoPacket} {engine : Engine (σ × List Call)}
    (ready : Ready rate spec earlier engine) (frames : Frames σ) (results : Vector (UInt32 × Int) packetsPerTransfer)
    (buffer : Buffer) (qpc : UInt64) (accepted : Bool) :
    ∃ after, engine.answer frames.recorded (completed results buffer) qpc accepted = some after ∧
      Ready rate spec (earlier ++ packetsOf results buffer) after ∧
      Answered (fun i => frameCount rate.hz (spec.maxPacketBytes rate) (earlier ++ packetsOf results buffer) (earlier.length + i))
        engine after := by
  have small : engine.maxPacketBytes ≤ maxPacketSize := ready.limit ▸ spec.maxPacketBytes_le rate
  generalize countsIs : (fun i => frameCount rate.hz (spec.maxPacketBytes rate) (earlier ++ packetsOf results buffer)
    (earlier.length + i)) = counts
  have counted : ∀ i, counts i =
      frameCount rate.hz engine.maxPacketBytes (earlier ++ packetsOf results buffer) (earlier.length + i) := by
    intro i
    rw [← countsIs, ready.limit]
  have held : ∀ i, counts i ≤ maxFramesPerPacket := by
    intro i
    rw [counted]
    exact frameCount_le small _ _
  generalize playbackIs : (engine.playbacks.findIdx? (!·.busy)).bind
    (fun index => engine.playbacks[index]?.map ({ · with busy := true })) = playback
  generalize statsAre : (if playback.isNone then { engine.stats with playbackOverruns := engine.stats.playbackOverruns + 1 }
    else engine.stats) = stats
  obtain ⟨final, ran, midway⟩ := foldlM_finRange _
    (answerPacket_midway frames ready.atRate small qpc (packets_found earlier results buffer) counted (fun _ => rfl))
    (ready.midway counts (packetsOf results buffer) stats playback)
  simp only [answer, playbackIs, statsAre, ran, Option.bind_eq_bind, Option.bind_some]
  have remainder : final.codec.nominalRemainder =
      invalidBefore (spec.maxPacketBytes rate) (earlier ++ packetsOf results buffer)
        (earlier ++ packetsOf results buffer).length * rate.hz % microframesPerSecond := by
    rw [midway.remainder, ready.limit]
    simp [packetsOf]
  have free : (engine.playbacks.findIdx? (!·.busy)).isSome = engine.playbacks.any (!·.busy) := List.findIdx?_isSome
  cases foundIs : engine.playbacks.findIdx? (!·.busy) with
  | none =>
    rw [foundIs] at playbackIs free
    subst playbackIs
    refine ⟨_, rfl, ⟨ready.atRate, ready.limit, remainder⟩, ?_, fun _ => rfl, ?_⟩
    · rw [← free]
      exact midway.calls
    · rw [← free]
      intro impossible
      cases impossible
  | some index =>
    obtain ⟨inside, idle, _⟩ := List.findIdx?_eq_some_iff_getElem.mp foundIs
    have busy : engine.playbacks[index]?.map Transfer.busy = some false := by
      simpa [inside] using idle
    have playing : playback.isSome = true := by
      rw [← playbackIs, foundIs]
      simp [inside]
    rw [foundIs] at free
    obtain ⟨transfer, transferIs⟩ := Option.isSome_iff_exists.mp (midway.idle.trans playing)
    have free : engine.playbacks.any (!·.busy) = true := free.symm
    have offset := midway.offset
    have asked := midway.calls
    have total := framesBefore_le held packetsPerTransfer
    rw [playing, if_pos rfl] at offset
    rw [playing, ← free] at asked
    simp only [transferIs]
    obtain ⟨playbacks, counters, kept⟩ := sendAnswer_keeps
      { engine with codec := final.codec, stats := final.stats, audio := final.audio } index transfer final.offset accepted
    rw [kept]
    refine ⟨_, rfl, ⟨ready.atRate, ready.limit, remainder⟩, asked, ?_, ?_⟩
    · rintro (none_free | none_moved)
      · rw [free] at none_free
        cases none_free
      · rw [offset, none_moved]
        rfl
    · intro _ moved
      have sent : final.offset ≠ 0 := by
        rw [offset]
        exact Nat.mul_ne_zero moved (Nat.ne_of_gt frameBytes_pos)
      refine ⟨index, _, if_neg sent, busy, ?_, ?_⟩
      · rw [offset]
        exact toNat_bytes total
      · exact fun i => (midway.mirrored transfer transferIs i i.isLt).toNat held

def packetsOfRun : List Event → List IsoPacket
  | [] => []
  | .captured results buffer _ _ :: events => packetsOf results buffer ++ packetsOfRun events
  | .played _ :: events => packetsOfRun events

theorem start_ready (rate : SampleRate) (spec : DeviceSpec) (qpcPerMicroframe : UInt64) (audio : σ × List Call) :
    Ready rate spec [] (start rate (spec.maxPacketBytes rate) qpcPerMicroframe audio) := by
  refine ⟨rfl, rfl, ?_⟩
  simp [start, invalidBefore]

/-- By induction on the run: every transfer is answered, whatever the device reports. -/
theorem run_ready {rate : SampleRate} {spec : DeviceSpec} (frames : Frames σ) {earlier : List IsoPacket}
    {engine : Engine (σ × List Call)} (ready : Ready rate spec earlier engine) (events : List Event) :
    ∃ after, run (step frames.recorded) engine events = some after ∧ Ready rate spec (earlier ++ packetsOfRun events) after := by
  induction events generalizing earlier engine with
  | nil => exact ⟨engine, rfl, by rwa [packetsOfRun, List.append_nil]⟩
  | cons event events ih =>
    cases event with
    | captured results buffer qpc accepted =>
      obtain ⟨middle, answered, still, _⟩ := answer_ready ready frames results buffer qpc accepted
      obtain ⟨after, ran, held⟩ := ih still
      refine ⟨after, run_cons.mpr ⟨middle, answered, ran⟩, ?_⟩
      rwa [packetsOfRun, ← List.append_assoc]
    | played index =>
      obtain ⟨after, ran, held⟩ := @ih earlier
        { engine with playbacks := engine.playbacks.modify index ({ · with busy := false }) }
        ⟨ready.atRate, ready.limit, ready.remainder⟩
      exact ⟨after, run_cons.mpr ⟨_, rfl, ran⟩, held⟩

theorem nominal_total (rateHz maxPacketBytes : Nat) (packets : List IsoPacket) (n : Nat) :
    (((List.range n).filter fun i => packets[i]?.any (!valid maxPacketBytes ·)).map
      (frameCount rateHz maxPacketBytes packets)).sum =
      invalidBefore maxPacketBytes packets n * rateHz / microframesPerSecond := by
  induction n with
  | zero => simp [invalidBefore]
  | succ n ih =>
    rw [List.range_succ, List.filter_append, List.map_append, List.sum_append, ih]
    cases found : packets[n]? with
    | none =>
      have same : invalidBefore maxPacketBytes packets (n + 1) = invalidBefore maxPacketBytes packets n := by
        rw [invalidBefore, List.take_add_one, found]
        simp [invalidBefore]
      simp [found, same]
    | some packet =>
      rw [invalidBefore_succ found]
      cases correct : valid maxPacketBytes packet with
      | true => simp [found, correct]
      | false =>
        have counted : frameCount rateHz maxPacketBytes packets n =
            given microframesPerSecond rateHz (invalidBefore maxPacketBytes packets n) := by
          simp only [frameCount, found, correct, Bool.false_eq_true, ↓reduceIte]
        simp only [List.filter_cons, found, Option.any_some, correct, Bool.not_false, ↓reduceIte, List.filter_nil,
          List.map_cons, List.map_nil, List.sum_cons, List.sum_nil, Nat.add_zero, counted]
        exact given_add microframesPerSecond rateHz (invalidBefore maxPacketBytes packets n)

/-- At every rate and in every run the engine answers each capture transfer by
its mirror image; no step of it leaves an array or a buffer. -/
theorem captures_are_mirrored (frames : Frames σ) (spec : DeviceSpec) (rate : SampleRate) (qpcPerMicroframe : UInt64)
    (audio : σ) (events : List Event) :
    ∃ engine, run (step frames.recorded) (start rate (spec.maxPacketBytes rate) qpcPerMicroframe (audio, [])) events =
        some engine ∧
      (∀ results buffer qpc accepted, ∃ after,
        step frames.recorded engine (.captured results buffer qpc accepted) = some after ∧
        Answered (fun i => frameCount rate.hz (spec.maxPacketBytes rate) (packetsOfRun events ++ packetsOf results buffer)
          ((packetsOfRun events).length + i)) engine after) ∧
      ∀ n, (((List.range n).filter fun i => (packetsOfRun events)[i]?.any (!valid (spec.maxPacketBytes rate) ·)).map
          (frameCount rate.hz (spec.maxPacketBytes rate) (packetsOfRun events))).sum =
        invalidBefore (spec.maxPacketBytes rate) (packetsOfRun events) n * rate.hz / microframesPerSecond := by
  obtain ⟨engine, ran, ready⟩ := run_ready frames (start_ready rate spec qpcPerMicroframe (audio, [])) events
  refine ⟨engine, ran, ?_, nominal_total _ _ _⟩
  intro results buffer qpc accepted
  obtain ⟨after, answered, _, mirrored⟩ := answer_ready ready frames results buffer qpc accepted
  exact ⟨after, answered, mirrored⟩

end Engine
end Ak1Driver.Driver
