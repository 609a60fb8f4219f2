import Ak1Driver.Proofs.Mirror

/-! The engine carries audio between the wire and whatever sits behind its lock.
An answered transfer is a plain program over that audio: for every packet its
frames are captured, then as many are played, and what was played is what the
bytes handed to the USB stack say. -/

namespace Ak1Driver.Driver
open Proto Proto.Mode2 Lib.Chunks Lib.Carry Lib.Loop Lib.Transition Proofs.Capture Proofs.Playback

/-- The bytes of a transfer's packets. -/
def Transfer.wire (transfer : Transfer) : List UInt8 :=
  transfer.packets.toList.flatMap fun packet =>
    (transfer.buffer.bytes.drop packet.offset.toNat).take packet.length.toNat

namespace Engine

/-- A packet of a capture transfer: what the device reports of it, its part of
the buffer, and the time that its frames are stamped with. -/
structure Arrival where
  packet : IsoPacket
  bytes : List UInt8
  time : UInt64

def arrivalAt (qpcPerMicroframe : UInt64) (results : Vector (UInt32 × Int) packetsPerTransfer) (buffer : Buffer) (qpc : UInt64)
    (i : Fin packetsPerTransfer) : Arrival where
  packet := (completed results buffer).packets.get i
  bytes := (buffer.bytes.drop (i * maxPacketSize)).take maxPacketSize
  time := qpc - (UInt64.ofNat packetsPerTransfer - 1 - UInt64.ofNat i) * qpcPerMicroframe

def arrivals (qpcPerMicroframe : UInt64) (results : Vector (UInt32 × Int) packetsPerTransfer) (buffer : Buffer)
    (qpc : UInt64) : List Arrival :=
  (List.finRange packetsPerTransfer).map (arrivalAt qpcPerMicroframe results buffer qpc)

def Arrival.data (arrival : Arrival) : List UInt8 := arrival.bytes.take arrival.packet.length.toNat

/-- No check byte of the packet is wrong. -/
def undamaged (packet : List UInt8) : Bool := (List.range (wholeBytes packet)).all fun position => !wrongCheck packet position

def inputPair (frame : Frame channels) : Frame 2 := #v[frame.get ⟨0, Nat.zero_lt_succ 3⟩, frame.get ⟨1, Nat.one_lt_succ_succ 2⟩]

/-- The frames that a packet delivers when `lost` packets were lost before it:
silence if a byte of it is damaged, or if it is lost itself. -/
def delivered (rateHz maxPacketBytes lost : Nat) (arrival : Arrival) : List (Frame 2) :=
  if valid maxPacketBytes arrival.packet then
    if undamaged arrival.data then (decoded arrival.data).map inputPair
    else List.replicate (framesIn arrival.data.length) silence
  else List.replicate (given microframesPerSecond rateHz lost) silence

def losses (maxPacketBytes : Nat) (arrivals : List Arrival) : Nat :=
  arrivals.countP fun arrival => !valid maxPacketBytes arrival.packet

/-- When and what each packet delivers if `lost` packets were lost before the first. -/
def moves (rateHz maxPacketBytes : Nat) : Nat → List Arrival → List (UInt64 × List (Frame 2))
  | _, [] => []
  | lost, arrival :: arrivals =>
    (arrival.time, delivered rateHz maxPacketBytes lost arrival) ::
      moves rateHz maxPacketBytes (lost + (!valid maxPacketBytes arrival.packet).toNat) arrivals

/-- What a packet does to the audio, and the frames played so far. -/
def carry (frames : Frames σ) (free : Bool) (progress : List (Frame channels) × σ) (move : UInt64 × List (Frame 2)) :
    List (Frame channels) × σ :=
  let audio := move.2.foldl frames.capture (frames.stamp progress.2 move.1)
  let (played, audio) := drawn frames.render (if free then move.2.length else 0) audio
  (progress.1 ++ played, audio)

/-- What the card gets: the bytes of the transfers that the USB stack took. -/
def wire (engine : Engine σ) : List UInt8 := engine.taken.flatMap Transfer.wire

theorem store_content (frames : List (Frame channels)) {decoded : Decoded}
    (room : decoded.len + frames.length ≤ maxFramesPerPacket) :
    ∃ after, frames.foldl Decoded.store (some decoded) = some after ∧
      after.frames.toList.take (decoded.len + frames.length) = decoded.frames.toList.take decoded.len ++ frames := by
  induction frames generalizing decoded with
  | nil => exact ⟨decoded, rfl, (List.append_nil _).symm⟩
  | cons frame frames ih =>
    rw [List.length_cons] at room
    have inside : decoded.len < maxFramesPerPacket := by omega
    have stored : Decoded.store (some decoded) frame =
        some { frames := decoded.frames.set decoded.len frame, len := decoded.len + 1 } := by
      simp [Decoded.store, inside]
    obtain ⟨after, ran, content⟩ := @ih { frames := decoded.frames.set decoded.len frame, len := decoded.len + 1 }
      (by simp only; omega)
    have grown : (decoded.frames.set decoded.len frame inside).toList.take (decoded.len + 1) =
        decoded.frames.toList.take decoded.len ++ [frame] := by
      have place : decoded.len < decoded.frames.toList.length := by
        rw [Vector.length_toList]
        exact inside
      rw [Vector.toList_set, List.take_add_one, List.take_set_of_le (Nat.le_refl _), List.getElem?_set_self place]
      rfl
    rw [List.foldl_cons, stored]
    refine ⟨after, ran, ?_⟩
    rw [grown, List.append_assoc] at content
    rw [List.length_cons, Nat.add_comm frames.length, ← Nat.add_assoc]
    exact content

section Packet
variable {σ : Type} {rate : SampleRate} {frames : Frames σ} {engine : Engine σ}

/-- A status without check errors is that of an undamaged packet. -/
theorem checkErrors_eq_zero (packet : List UInt8) (frame : σ → Frame channels → σ) (state : σ) :
    ((decodeCapture packet frame state).1.checkErrors == 0) = undamaged packet := by
  rw [decodeCapture_eq, Bool.eq_iff_iff, beq_iff_eq, checkErrors_count, List.countP_eq_zero, undamaged, List.all_eq_true]
  simp only [Bool.not_eq_true, Bool.not_eq_eq_eq_not, Bool.not_true]

/-- Decoding a packet's part of the buffer stays within it and within the array. -/
theorem decode_data (results : Vector (UInt32 × Int) packetsPerTransfer) (buffer : Buffer) (i : Fin packetsPerTransfer)
    {len : Nat} (small : len ≤ maxPacketSize) {data : List UInt8}
    (dataIs : data = ((buffer.bytes.drop (i * maxPacketSize)).take maxPacketSize).take len) :
    (completed results buffer).buffer.slice (i * maxPacketSize) len = some data ∧ framesIn data.length ≤ maxFramesPerPacket ∧
      ∃ status after, decodeCapture data Decoded.store (some {}) = (status, some after) ∧
        status.frames = framesIn data.length ∧ (status.checkErrors == 0) = undamaged data ∧
        after.take (framesIn data.length) = some (decoded data) := by
  have inside := i.isLt
  have fits : i * maxPacketSize + len ≤ transferBytes := by
    simp only [transferBytes, packetsPerTransfer, maxPacketSize] at *
    omega
  have cut : data = (buffer.bytes.drop (i * maxPacketSize)).take len := by
    rw [dataIs, List.take_take, Nat.min_eq_left small]
  have sliced : (completed results buffer).buffer.slice (i * maxPacketSize) len = some data := cut ▸ if_pos fits
  have held : framesIn data.length ≤ maxFramesPerPacket := by
    apply Nat.div_le_div_right
    rw [cut, List.length_take]
    exact Nat.le_trans (Nat.min_le_left _ _) small
  have room : ({} : Decoded).len + ((asChunks frameBytes data).map Layout.rightFirst).length ≤ maxFramesPerPacket := by
    rw [List.length_map, length_asChunks, Nat.zero_add]
    exact held
  obtain ⟨after, stored, content⟩ := store_content _ room
  refine ⟨sliced, held, _, after, (decodeCapture_eq _ _ _).trans (Prod.ext rfl stored), rfl, ?_, ?_⟩
  · have status := checkErrors_eq_zero data Decoded.store (some {})
    rwa [decodeCapture_eq] at status
  · rw [List.length_map, length_asChunks, Nat.zero_add] at content
    rw [Decoded.take, if_pos held, decoded_eq]
    exact congrArg some content

/-- A packet is received as it is delivered, and a lost one is counted. -/
theorem receivePacket_delivers (atRate : engine.rateHz = rate.hz) (small : engine.maxPacketBytes ≤ maxPacketSize)
    {results : Vector (UInt32 × Int) packetsPerTransfer} {buffer : Buffer} {qpc : UInt64} {i : Fin packetsPerTransfer}
    {arrival : Arrival} (arrives : arrival = arrivalAt engine.qpcPerMicroframe results buffer qpc i) {progress : Progress σ}
    {lost : Nat} (remainder : progress.codec.nominalRemainder = lost * rate.hz % microframesPerSecond) :
    ∃ stats, receivePacket frames engine (completed results buffer) qpc progress i =
      some ((delivered rate.hz engine.maxPacketBytes lost arrival).length, { progress with
        stats
        codec := { progress.codec with
          nominalRemainder := (lost + (!valid engine.maxPacketBytes arrival.packet).toNat) * rate.hz % microframesPerSecond }
        audio := (delivered rate.hz engine.maxPacketBytes lost arrival).foldl frames.capture
          (frames.stamp progress.audio arrival.time) }) := by
  have place := completed_offset results buffer i
  have packetIs : arrival.packet = (completed results buffer).packets.get i := congrArg Arrival.packet arrives
  have time : arrival.time = qpc - (UInt64.ofNat packetsPerTransfer - 1 - UInt64.ofNat i) * engine.qpcPerMicroframe :=
    congrArg Arrival.time arrives
  have data : arrival.data =
      ((buffer.bytes.drop (i * maxPacketSize)).take maxPacketSize).take arrival.packet.length.toNat := by rw [arrives]; rfl
  rw [← packetIs] at place
  cases correct : valid engine.maxPacketBytes arrival.packet with
  | true =>
    have fits : arrival.packet.length.toNat ≤ maxPacketSize := (valid_length correct).1.trans small
    obtain ⟨sliced, _, status, decoding, decodes, framesAre, clean, content⟩ := decode_data results buffer i fits data
    have count : (decoded arrival.data).length = framesIn arrival.data.length := by
      rw [decoded_eq, List.length_map, length_asChunks, framesIn]
    have given : delivered rate.hz engine.maxPacketBytes lost arrival =
        (decoded arrival.data).map fun frame => if undamaged arrival.data then inputPair frame else silence := by
      rw [delivered, if_pos correct]
      split
      · rfl
      · rw [List.map_const', count]
    apply Exists.intro
    · simp only [receivePacket, ← packetIs, ← time, correct, ↓reduceIte, place, sliced, decodes, framesAre, content, clean,
        Option.bind_eq_bind, Option.bind_some, Bool.true_and, Bool.not_true, Bool.toNat_false, Nat.add_zero, given,
        List.length_map, List.foldl_map, ← remainder]
      exact congrArg some (Prod.ext count.symm rfl)
  | false =>
    have nominal := nominalFrames_eq remainder
    obtain ⟨sliced, _, status, decoding, decodes, _⟩ := decode_data results buffer i (Nat.zero_le _) rfl
    have held : given microframesPerSecond rate.hz lost ≤ maxFramesPerPacket := (given_bound rate _).trans (by decide)
    obtain ⟨played, taken, count⟩ := take_length decoding held
    have given : delivered rate.hz engine.maxPacketBytes lost arrival = played.map fun _ => silence := by
      rw [delivered, correct, List.map_const', count]
      rfl
    apply Exists.intro
    · simp only [receivePacket, ← packetIs, ← time, correct, Bool.false_eq_true, ↓reduceIte, place, sliced, decodes, atRate, nominal,
        taken, Option.bind_eq_bind, Option.bind_some, Bool.false_and, Bool.not_false, Bool.toNat_true, given,
        List.length_map, List.foldl_map]
      exact congrArg some (Prod.ext count.symm rfl)

theorem length_delivered {maxPacketBytes : Nat} (small : maxPacketBytes ≤ maxPacketSize) (rate : SampleRate) (lost : Nat)
    (arrival : Arrival) : (delivered rate.hz maxPacketBytes lost arrival).length ≤ maxFramesPerPacket := by
  rw [delivered]
  split
  next correct =>
    have short : framesIn arrival.data.length ≤ maxFramesPerPacket := by
      apply Nat.div_le_div_right
      rw [Arrival.data, List.length_take]
      exact (Nat.min_le_left _ _).trans ((valid_length correct).1.trans small)
    split
    · rw [List.length_map, decoded_eq, List.length_map, length_asChunks]
      exact short
    · rw [List.length_replicate]
      exact short
  next =>
    rw [List.length_replicate]
    exact (given_bound rate _).trans (by decide)

/-- The bytes of the first `i` packets of a transfer. -/
def filled (i : Nat) (transfer : Transfer) : List UInt8 :=
  (transfer.packets.toList.take i).flatMap fun packet =>
    (transfer.buffer.bytes.drop packet.offset.toNat).take packet.length.toNat

/-- A reply leaves the bytes before it alone and puts those of its frames after them. -/
theorem replyPacket_encodes {progress : Progress σ} {transfer : Transfer} {count : Nat}
    (playing : progress.playback = some transfer) (room : progress.offset + count * frameBytes ≤ transferBytes)
    (i : Fin packetsPerTransfer) :
    ∃ encoder buffer bytes, replyPacket frames progress i count = some { progress with
        codec := { progress.codec with encoder }
        audio := (drawn frames.render count progress.audio).2
        playback := some { transfer with
          buffer
          packets := transfer.packets.set i { transfer.packets.get i with
            offset := UInt32.ofNat progress.offset, length := UInt32.ofNat (count * frameBytes) } }
        offset := progress.offset + count * frameBytes } ∧
      Encoded progress.codec.encoder encoder (drawn frames.render count progress.audio).1 bytes ∧
      ∃ rest, buffer.bytes = transfer.buffer.bytes.take progress.offset ++ bytes ++ rest := by
  generalize outIs : (transfer.buffer.bytes.drop progress.offset).take (count * frameBytes) = out
  have sliced : transfer.buffer.slice progress.offset (count * frameBytes) = some out := outIs ▸ if_pos room
  have length : out.length = count * frameBytes := by
    rw [← outIs, List.length_take, List.length_drop, transfer.buffer.sized]
    omega
  have whole : out.length % frameBytes = 0 := length ▸ Nat.mul_mod_left _ _
  have asked : framesIn out.length = count := by rw [framesIn, length, Nat.mul_div_cancel _ frameBytes_pos]
  obtain ⟨encoder, bytes, encodes, encoded⟩ := encode_encoded whole progress.codec.encoder frames.render progress.audio
  rw [asked] at encodes encoded
  have fits : progress.offset + bytes.length ≤ transferBytes := by
    rw [encoded.length, length_drawn]
    exact room
  obtain ⟨buffer, filled, content⟩ : ∃ buffer, transfer.buffer.fill progress.offset bytes = some buffer ∧
      buffer.bytes = transfer.buffer.bytes.take progress.offset ++ bytes ++
        transfer.buffer.bytes.drop (progress.offset + bytes.length) := ⟨_, dif_pos fits, rfl⟩
  refine ⟨encoder, buffer, bytes, ?_, encoded, _, content⟩
  simp only [replyPacket, playing, sliced, encodes, filled, Option.bind_eq_bind, Option.bind_some]
  rfl

theorem losses_append (maxPacketBytes : Nat) (first second : List Arrival) :
    losses maxPacketBytes (first ++ second) = losses maxPacketBytes first + losses maxPacketBytes second :=
  List.countP_append

theorem losses_singleton (maxPacketBytes : Nat) (arrival : Arrival) :
    losses maxPacketBytes [arrival] = (!valid maxPacketBytes arrival.packet).toNat := by
  rw [losses, List.countP_singleton]
  cases valid maxPacketBytes arrival.packet <;> rfl

theorem moves_append (rateHz maxPacketBytes lost : Nat) (first second : List Arrival) :
    moves rateHz maxPacketBytes lost (first ++ second) = moves rateHz maxPacketBytes lost first ++
      moves rateHz maxPacketBytes (lost + losses maxPacketBytes first) second := by
  induction first generalizing lost with
  | nil => rfl
  | cons arrival first ih =>
    have counted : losses maxPacketBytes (arrival :: first) =
        (!valid maxPacketBytes arrival.packet).toNat + losses maxPacketBytes first := by
      rw [← losses_singleton, ← losses_append]
      rfl
    rw [List.cons_append, moves, ih, counted, ← Nat.add_assoc]
    rfl

/-- The loop of `answer` after the packets that `moved`. -/
structure Carried (frames : Frames σ) (free : Bool) (encoder : PlaybackEncoder) (start : σ)
    (moved : List (UInt64 × List (Frame 2))) (i : Nat) (progress : Progress σ) : Prop where
  audio : progress.audio = (moved.foldl (carry frames free) ([], start)).2
  idle : progress.playback.isSome = free
  bounded : progress.offset ≤ i * maxPacketSize
  within : ∀ transfer, progress.playback = some transfer →
    ∀ packet ∈ transfer.packets.toList.take i, packet.offset.toNat + packet.length.toNat ≤ progress.offset
  encoded : Encoded encoder progress.codec.encoder (moved.foldl (carry frames free) ([], start)).1
    ((progress.playback.map (filled i)).getD [])
  offset : progress.offset = ((progress.playback.map (filled i)).getD []).length

/-- Slices of what lies before an offset do not see what comes after it. -/
theorem slices_congr {packets : List IsoPacket} {offset : Nat} {first second : List UInt8}
    (same : first.take offset = second.take offset)
    (within : ∀ packet ∈ packets, packet.offset.toNat + packet.length.toNat ≤ offset) :
    (packets.flatMap fun packet => (first.drop packet.offset.toNat).take packet.length.toNat) =
      packets.flatMap fun packet => (second.drop packet.offset.toNat).take packet.length.toNat := by
  apply List.flatMap_congr
  intro packet member
  have inside := within packet member
  have cut (bytes : List UInt8) : (bytes.drop packet.offset.toNat).take packet.length.toNat =
      ((bytes.take offset).drop packet.offset.toNat).take packet.length.toNat := by
    rw [List.drop_take, List.take_take, Nat.min_eq_left (by omega)]
  rw [cut first, cut second, same]

/-- The packets of a transfer up to the one that was set last. -/
theorem take_set (packets : Vector IsoPacket packetsPerTransfer) (i : Fin packetsPerTransfer) (packet : IsoPacket) :
    (packets.set i packet i.isLt).toList.take (i + 1) = packets.toList.take i ++ [packet] := by
  have place : i.val < packets.toList.length := by
    rw [Vector.length_toList]
    exact i.isLt
  rw [Vector.toList_set, List.take_add_one, List.take_set_of_le (Nat.le_refl _), List.getElem?_set_self place]
  rfl

/-- A reply appends its bytes to those of the packets before it. -/
theorem filled_reply {transfer : Transfer} {i : Fin packetsPerTransfer} {offset len : Nat} {buffer : Buffer}
    {bytes rest : List UInt8} (inside : offset + len ≤ transferBytes) (length : bytes.length = len)
    (content : buffer.bytes = transfer.buffer.bytes.take offset ++ bytes ++ rest)
    (within : ∀ packet ∈ transfer.packets.toList.take i, packet.offset.toNat + packet.length.toNat ≤ offset)
    (status : Int) :
    filled (i + 1) { transfer with
        buffer
        packets := transfer.packets.set i ⟨UInt32.ofNat offset, UInt32.ofNat len, status⟩ i.isLt } =
      filled i transfer ++ bytes := by
  have sized : (transfer.buffer.bytes.take offset).length = offset := by
    rw [List.length_take, transfer.buffer.sized]
    omega
  have fits : transferBytes < UInt32.size := by decide
  have start : (UInt32.ofNat offset).toNat = offset := UInt32.toNat_ofNat_of_lt' (by omega)
  have extent : (UInt32.ofNat len).toNat = len := UInt32.toNat_ofNat_of_lt' (by omega)
  have before : buffer.bytes.take offset = transfer.buffer.bytes.take offset := by
    rw [content, List.append_assoc, List.take_left' sized]
  have here : (buffer.bytes.drop offset).take len = bytes := by
    rw [content, List.append_assoc, List.drop_left' sized, List.take_left' length]
  simp only [filled, take_set, List.flatMap_append, List.flatMap_singleton, start, extent, here]
  exact congrArg (· ++ bytes) (slices_congr before within)

/-- One packet: its frames are moved, and the invariant of the loop is kept. -/
theorem answerPacket_carried (atRate : engine.rateHz = rate.hz) (small : engine.maxPacketBytes ≤ maxPacketSize)
    {results : Vector (UInt32 × Int) packetsPerTransfer} {buffer : Buffer} {qpc : UInt64} {i : Fin packetsPerTransfer}
    {arrival : Arrival} (arrives : arrival = arrivalAt engine.qpcPerMicroframe results buffer qpc i) {free : Bool}
    {encoder : PlaybackEncoder} {start : σ} {moved : List (UInt64 × List (Frame 2))} {progress : Progress σ} {lost : Nat}
    (remainder : progress.codec.nominalRemainder = lost * rate.hz % microframesPerSecond)
    (carried : Carried frames free encoder start moved i progress) :
    ∃ after, answerPacket frames engine (completed results buffer) qpc progress i = some after ∧
      after.codec.nominalRemainder =
        (lost + (!valid engine.maxPacketBytes arrival.packet).toNat) * rate.hz % microframesPerSecond ∧
      Carried frames free encoder start
        (moved ++ [(arrival.time, delivered rate.hz engine.maxPacketBytes lost arrival)]) (i + 1) after := by
  obtain ⟨stats, received⟩ := @receivePacket_delivers _ rate frames engine atRate small _ _ _ _ _ arrives _ _ remainder
  have short := length_delivered small rate lost arrival
  have audio := carried.audio
  have encoded := carried.encoded
  generalize delivered rate.hz engine.maxPacketBytes lost arrival = frameList at received short ⊢
  generalize soFar : moved.foldl (carry frames free) ([], start) = before at audio encoded
  have step : (moved ++ [(arrival.time, frameList)]).foldl (carry frames free) ([], start) =
      carry frames free before (arrival.time, frameList) := by
    rw [List.foldl_append, soFar]
    rfl
  simp only [answerPacket, received, Option.bind_eq_bind, Option.bind_some, audio]
  cases playing : progress.playback with
  | none =>
    have idle : free = false := by
      rw [← carried.idle, playing]
      rfl
    subst idle
    have nothing : carry frames false before (arrival.time, frameList) =
        (before.1, frameList.foldl frames.capture (frames.stamp before.2 arrival.time)) := by
      simp only [carry, Bool.false_eq_true, ↓reduceIte, drawn, List.append_nil]
    have offset := carried.offset
    rw [playing] at encoded offset
    refine ⟨_, rfl, rfl, ?_, rfl, ?_, ?_, ?_, offset⟩
    · rw [step, nothing]
    · exact Nat.le_trans carried.bounded (Nat.mul_le_mul_right _ (Nat.le_succ _))
    · intro transfer impossible
      cases impossible
    · rw [step, nothing]
      exact encoded
  | some transfer =>
    have busy : free = true := by
      rw [← carried.idle, playing]
      rfl
    subst busy
    have here := i.isLt
    have bounded := carried.bounded
    have bytesOf : frameList.length * frameBytes ≤ maxPacketSize := by
      simp only [maxFramesPerPacket, maxPacketSize, frameBytes, blockBytes] at *
      omega
    have room : progress.offset + frameList.length * frameBytes ≤ transferBytes := by
      simp only [transferBytes, packetsPerTransfer, maxPacketSize] at *
      omega
    obtain ⟨last, buffered, bytes, replied, more, rest, content⟩ := @replyPacket_encodes _ frames
      { progress with
        stats
        codec := { progress.codec with
          nominalRemainder := (lost + (!valid engine.maxPacketBytes arrival.packet).toNat) * rate.hz % microframesPerSecond }
        audio := frameList.foldl frames.capture (frames.stamp before.2 arrival.time) } transfer frameList.length playing room i
    have length : bytes.length = frameList.length * frameBytes := by rw [more.length, length_drawn]
    have within := carried.within transfer playing
    have grown := filled_reply room length content within (transfer.packets.get i).status
    have offset := carried.offset
    have carries : carry frames true before (arrival.time, frameList) =
        (before.1 ++ (drawn frames.render frameList.length
            (frameList.foldl frames.capture (frames.stamp before.2 arrival.time))).1,
          (drawn frames.render frameList.length
            (frameList.foldl frames.capture (frames.stamp before.2 arrival.time))).2) := by
      simp only [carry, ↓reduceIte]
    rw [playing] at encoded offset replied
    refine ⟨_, replied, rfl, ?_, rfl, ?_, ?_, ?_, ?_⟩
    · rw [step, carries]
    · rw [Nat.succ_mul]
      exact Nat.add_le_add bounded bytesOf
    · intro other same packet member
      cases same
      rw [take_set] at member
      rcases List.mem_append.mp member with earlier | this
      · exact Nat.le_trans (within packet earlier) (Nat.le_add_right _ _)
      · rw [List.mem_singleton.mp this]
        exact Nat.add_le_add (Nat.mod_le _ _) (Nat.mod_le _ _)
    · rw [step, carries]
      exact (congrArg (Encoded _ _ _) grown).mpr (encoded.trans more)
    · apply Eq.trans _ (congrArg List.length grown).symm
      rw [List.length_append, length, offset]
      rfl

end Packet

/-- An engine's settings, and how many of its capture packets were lost. -/
structure Settled (rate : SampleRate) (maxPacketBytes : Nat) (qpcPerMicroframe : UInt64) (lost : Nat) (engine : Engine σ) : Prop where
  atRate : engine.rateHz = rate.hz
  limit : engine.maxPacketBytes = maxPacketBytes
  interval : engine.qpcPerMicroframe = qpcPerMicroframe
  remainder : engine.codec.nominalRemainder = lost * rate.hz % microframesPerSecond

def free (engine : Engine σ) : Bool := engine.playbacks.any (!·.busy)

/-- The audio went through the program of the packets that `moved`, and what it
played went to the card if the USB stack took what it was sent. -/
structure Carries (frames : Frames σ) (moved : List (UInt64 × List (Frame 2))) (accepted : Bool) (engine after : Engine σ) :
    Prop where
  audio : after.audio = (moved.foldl (carry frames engine.free) ([], engine.audio)).2
  wire : (engine.free = true → accepted = true) → ∃ bytes, after.wire = engine.wire ++ bytes ∧
    Encoded engine.codec.encoder after.codec.encoder (moved.foldl (carry frames engine.free) ([], engine.audio)).1 bytes

section Answer
variable {σ : Type} {rate : SampleRate} {engine : Engine σ}

theorem arrivals_take (qpcPerMicroframe : UInt64) (results : Vector (UInt32 × Int) packetsPerTransfer) (buffer : Buffer)
    (qpc : UInt64) (i : Fin packetsPerTransfer) :
    (arrivals qpcPerMicroframe results buffer qpc).take (i + 1) =
      (arrivals qpcPerMicroframe results buffer qpc).take i ++ [arrivalAt qpcPerMicroframe results buffer qpc i] := by
  have place : i.val < (List.finRange packetsPerTransfer).length := by
    rw [List.length_finRange]
    exact i.isLt
  rw [List.take_add_one, arrivals, List.getElem?_map, List.getElem?_eq_getElem place, List.getElem_finRange]
  rfl

theorem free_playback (engine : Engine σ) :
    ((engine.playbacks.findIdx? (!·.busy)).bind
      fun index => engine.playbacks[index]?.map ({ · with busy := true })).isSome = engine.free := by
  rw [free, ← List.findIdx?_isSome]
  cases found : engine.playbacks.findIdx? (!·.busy) with
  | none => rfl
  | some index =>
    obtain ⟨inside, _⟩ := List.findIdx?_eq_some_iff_getElem.mp found
    rw [Option.bind_some, List.getElem?_eq_getElem inside]
    rfl

theorem sendAnswer_wire (engine : Engine σ) (index : Nat) {transfer : Transfer} {offset : Nat}
    (all : offset = (filled packetsPerTransfer transfer).length) :
    (engine.sendAnswer index transfer offset true).wire = engine.wire ++ filled packetsPerTransfer transfer := by
  obtain ⟨playbacks, stats, kept⟩ := sendAnswer_keeps engine index transfer offset true
  rw [kept]
  by_cases empty : offset = 0
  · have nothing := List.length_eq_zero_iff.mp (all.symm.trans empty)
    simp only [wire, if_pos (Or.inl empty), nothing, List.append_nil]
  · have sends : ¬ (offset = 0 ∨ true = false) := not_or.mpr ⟨empty, Bool.noConfusion⟩
    have whole : transfer.packets.toList.take packetsPerTransfer = transfer.packets.toList := by
      apply List.take_of_length_le
      rw [Vector.length_toList]
    simp only [wire, if_neg sends, List.flatMap_append, List.flatMap_singleton, Transfer.wire, filled, whole]

/-- All packets of a transfer: by induction on those that are done. -/
theorem packets_carried (atRate : engine.rateHz = rate.hz) (small : engine.maxPacketBytes ≤ maxPacketSize) (frames : Frames σ)
    (results : Vector (UInt32 × Int) packetsPerTransfer) (buffer : Buffer) (qpc : UInt64) {arrived : List Arrival}
    (arrive : arrivals engine.qpcPerMicroframe results buffer qpc = arrived) {lost : Nat} {progress : Progress σ}
    (remainder : progress.codec.nominalRemainder = lost * rate.hz % microframesPerSecond)
    {encoder : PlaybackEncoder} {start : σ} (begun : Carried frames engine.free encoder start [] 0 progress) :
    ∃ final, (List.finRange packetsPerTransfer).foldlM (answerPacket frames engine (completed results buffer) qpc) progress =
        some final ∧
      final.codec.nominalRemainder = (lost + losses engine.maxPacketBytes arrived) * rate.hz % microframesPerSecond ∧
      Carried frames engine.free encoder start (moves rate.hz engine.maxPacketBytes lost arrived) packetsPerTransfer final := by
  have whole : arrived.take packetsPerTransfer = arrived := by
    apply List.take_of_length_le
    rw [← arrive, arrivals, List.length_map, List.length_finRange]
  obtain ⟨final, ran, remains, carried⟩ := @foldlM_finRange _ _ (answerPacket frames engine (completed results buffer) qpc)
    (fun i progress => progress.codec.nominalRemainder =
        (lost + losses engine.maxPacketBytes (arrived.take i)) * rate.hz % microframesPerSecond ∧
      Carried frames engine.free encoder start (moves rate.hz engine.maxPacketBytes lost (arrived.take i)) i progress)
    (by
      rintro i progress ⟨remains, carried⟩
      obtain ⟨after, answered, next, still⟩ := answerPacket_carried atRate small
        (Eq.refl (arrivalAt engine.qpcPerMicroframe results buffer qpc i)) remains carried
      rw [← arrive, arrivals_take, arrive, losses_append, losses_singleton, ← Nat.add_assoc, moves_append]
      exact ⟨after, answered, next, still⟩)
    progress ⟨remainder, begun⟩
  rw [whole] at remains carried
  exact ⟨final, ran, remains, carried⟩

/-- Every completed capture transfer is carried, whatever the device reports. -/
theorem answer_carries {maxPacketBytes lost : Nat} {qpcPerMicroframe : UInt64}
    (settled : Settled rate maxPacketBytes qpcPerMicroframe lost engine) (small : maxPacketBytes ≤ maxPacketSize)
    (frames : Frames σ) (results : Vector (UInt32 × Int) packetsPerTransfer) (buffer : Buffer) (qpc : UInt64) (accepted : Bool) :
    ∃ after, engine.answer frames (completed results buffer) qpc accepted = some after ∧
      Settled rate maxPacketBytes qpcPerMicroframe
        (lost + losses maxPacketBytes (arrivals qpcPerMicroframe results buffer qpc)) after ∧
      Carries frames (moves rate.hz maxPacketBytes lost (arrivals qpcPerMicroframe results buffer qpc)) accepted engine after := by
  obtain ⟨atRate, rfl, rfl, remainder⟩ := settled
  have idle := engine.free_playback
  generalize playbackIs : (engine.playbacks.findIdx? (!·.busy)).bind
    (fun index => engine.playbacks[index]?.map ({ · with busy := true })) = playback at idle
  generalize statsAre : (if playback.isNone then { engine.stats with playbackOverruns := engine.stats.playbackOverruns + 1 }
    else engine.stats) = stats
  have begun : Carried frames engine.free engine.codec.encoder engine.audio [] 0
      { codec := engine.codec, stats, audio := engine.audio, playback, offset := 0 } := by
    have none : (playback.map (filled 0)).getD [] = [] := by cases playback <;> rfl
    refine ⟨rfl, idle, Nat.le_refl _, fun _ _ _ member => (List.not_mem_nil member).elim, ?_, ?_⟩
    · rw [none]
      exact .refl _
    · rw [none]
      rfl
  obtain ⟨final, ran, remains, carried⟩ := packets_carried atRate small frames results buffer qpc rfl remainder begun
  have encoded := carried.encoded
  have offset := carried.offset
  simp only [answer, playbackIs, statsAre, ran, Option.bind_eq_bind, Option.bind_some]
  cases foundIs : engine.playbacks.findIdx? (!·.busy) with
  | none =>
    have none : final.playback = none := by
      apply Option.isNone_iff_eq_none.mp
      rw [← Option.not_isSome, carried.idle, ← idle, ← playbackIs, foundIs]
      rfl
    rw [none] at encoded
    exact ⟨_, rfl, ⟨atRate, rfl, rfl, remains⟩, carried.audio, fun _ => ⟨[], (List.append_nil _).symm, encoded⟩⟩
  | some index =>
    obtain ⟨inside, _⟩ := List.findIdx?_eq_some_iff_getElem.mp foundIs
    have free : engine.free = true := by
      rw [← idle, ← playbackIs, foundIs, Option.bind_some, List.getElem?_eq_getElem inside]
      rfl
    obtain ⟨transfer, transferIs⟩ := Option.isSome_iff_exists.mp (carried.idle.trans free)
    rw [transferIs] at encoded offset
    simp only [transferIs]
    obtain ⟨playbacks, counters, kept⟩ := sendAnswer_keeps
      { engine with codec := final.codec, stats := final.stats, audio := final.audio } index transfer final.offset accepted
    have sent := sendAnswer_wire
      { engine with codec := final.codec, stats := final.stats, audio := final.audio } index offset
    rw [kept]
    refine ⟨_, rfl, ⟨atRate, rfl, rfl, remains⟩, carried.audio, fun takes => ?_⟩
    cases takes free
    rw [← kept]
    exact ⟨_, sent, (congrArg (fun after => Encoded _ after.codec.encoder _ _) kept).mpr encoded⟩

end Answer
end Engine
end Ak1Driver.Driver
