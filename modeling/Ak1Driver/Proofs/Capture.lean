import Ak1Driver.Layout

/-! Capture packets are decoded as they are laid out, and damage to their check
bytes is reported exactly, whatever bytes arrive. -/

namespace Ak1Driver.Proofs.Capture
open Proto Proto.Mode2 Layout Lib.Chunks

/-- What a check byte changes in the status of its packet. -/
def noteCheck (status : CaptureStatus) (byte expected : UInt8) : CaptureStatus :=
  { status with
    checkErrors := status.checkErrors + (byte &&& checkMask != expected).toNat
    outputRejected := status.outputRejected || byte &&& outputPanic != 0 }

def frameErrors (bytes : Vector UInt8 frameBytes) : Nat :=
  (bytes[0] &&& checkMask != check 0 0).toNat + (bytes[1] &&& checkMask != check 1 0).toNat +
  (bytes[8] &&& checkMask != check 0 1).toNat + (bytes[9] &&& checkMask != check 1 1).toNat

def frameRejects (bytes : Vector UInt8 frameBytes) : Bool :=
  bytes[0] &&& outputPanic != 0 || bytes[1] &&& outputPanic != 0 ||
  bytes[8] &&& outputPanic != 0 || bytes[9] &&& outputPanic != 0

theorem decodeStream_status (block : Block) (blockIndex : Nat) (blockInFrame : Fin 2)
    (decoded : CaptureStatus × Frame channels) (stream : Fin streams) :
    (decodeStream block blockIndex blockInFrame decoded stream).1 =
      noteCheck decoded.1 block[stream] (check stream blockIndex) := by
  simp only [decodeStream, noteCheck, Fin.getElem_fin, checkByte_eq stream.isLt]
  by_cases right : block[stream.val] &&& checkMask = check stream blockIndex
  · simp [right]
  · have wrong : (block[stream.val] &&& checkMask != check stream blockIndex) = true := by simpa using right
    simp [right, wrong]

theorem decodeStream_samples (block : Block) (blockIndex : Nat) (blockInFrame : Fin 2)
    (decoded : CaptureStatus × Frame channels) (stream : Fin streams) :
    (decodeStream block blockIndex blockInFrame decoded stream).2 =
      decoded.2.set (stream * channelsPerStream + blockInFrame)
        (sample24 (block.get ⟨2 + stream, by grind⟩) (block.get ⟨4 + stream, by grind⟩) (block.get ⟨6 + stream, by grind⟩))
        (channel_lt stream blockInFrame) := by
  rw [← fromBe24_eq]
  rfl

theorem decodeFrame_eq (index : Nat) (bytes : Vector UInt8 frameBytes) (status : CaptureStatus) :
    decodeFrame index bytes status =
      ({ status with
          checkErrors := status.checkErrors + frameErrors bytes
          outputRejected := status.outputRejected || frameRejects bytes }, rightFirst bytes) := by
  have loop : List.finRange streams = [0, 1] := rfl
  have heads : (firstBlock bytes)[0] = bytes[0] ∧ (firstBlock bytes)[1] = bytes[1] ∧
      (secondBlock bytes)[0] = bytes[8] ∧ (secondBlock bytes)[1] = bytes[9] := by
    simp [firstBlock, secondBlock, Vector.get]
    rfl
  apply Prod.ext
  · simp only [decodeFrame, loop, List.zipIdx_cons, List.zipIdx_nil, List.foldl_cons, List.foldl_nil, decodeStream_status]
    simp [noteCheck, frameErrors, frameRejects, heads]
    constructor
    · omega
    · ac_rfl
  · simp only [decodeFrame, loop, List.zipIdx_cons, List.zipIdx_nil, List.foldl_cons, List.foldl_nil, decodeStream_samples]
    simp only [firstBlock, secondBlock]
    rfl

theorem decodeFrames_eq (frame : σ → Frame channels → σ) (state : σ) (status : CaptureStatus) (index : Nat)
    (frames : List (Vector UInt8 frameBytes)) :
    (frames.zipIdx index).foldl (decodeNext frame) (status, state) =
      ({ frames := status.frames + frames.length
         checkErrors := status.checkErrors + (frames.map frameErrors).sum
         outputRejected := status.outputRejected || frames.any frameRejects },
        (frames.map rightFirst).foldl frame state) := by
  induction frames generalizing index status state with
  | nil => simp
  | cons bytes frames ih =>
    rw [List.zipIdx_cons, List.foldl_cons]
    simp only [decodeNext, decodeFrame_eq, ih]
    simp [Nat.add_assoc, Nat.add_comm 1, Bool.or_assoc]

theorem decodeCapture_eq (packet : List UInt8) (frame : σ → Frame channels → σ) (state : σ) :
    decodeCapture packet frame state =
      ({ frames := packet.length / frameBytes
         checkErrors := ((asChunks frameBytes packet).map frameErrors).sum
         outputRejected := (asChunks frameBytes packet).any frameRejects },
        ((asChunks frameBytes packet).map rightFirst).foldl frame state) := by
  apply (decodeFrames_eq frame state {} 0 (asChunks frameBytes packet)).trans
  simp

/-- The frames a packet decodes to, in order. -/
def decoded (packet : List UInt8) : List (Frame channels) :=
  (decodeCapture packet (fun frames frame => frames ++ [frame]) []).2

private theorem foldl_append_singleton (before items : List α) :
    items.foldl (fun all item => all ++ [item]) before = before ++ items := by
  induction items generalizing before with
  | nil => simp
  | cons item items ih => simp [ih]

theorem decoded_eq (packet : List UInt8) : decoded packet = (asChunks frameBytes packet).map rightFirst := by
  rw [decoded, decodeCapture_eq, foldl_append_singleton, List.nil_append]

theorem captureBytes_clean (frame : Frame channels) :
    frameErrors (captureBytes frame) = 0 ∧ frameRejects (captureBytes frame) = false := by
  have masked : ∀ stream < streams, ∀ block < 2, check stream block &&& checkMask = check stream block ∧
      check stream block &&& outputPanic = 0 := by decide
  have even0 := masked 0 (by decide) 0 (by decide)
  have odd0 := masked 0 (by decide) 1 (by decide)
  have even1 := masked 1 (by decide) 0 (by decide)
  have odd1 := masked 1 (by decide) 1 (by decide)
  simp [frameErrors, frameRejects, captureBytes, even0, odd0, even1, odd1]

theorem decodeCapture_capture {frames : List (Frame channels)} (fits : ∀ frame ∈ frames, FrameFits24 frame)
    (frame : σ → Frame channels → σ) (state : σ) :
    decodeCapture (capture frames) frame state =
      ({ frames := frames.length, checkErrors := 0, outputRejected := false }, frames.foldl frame state) := by
  have cut : asChunks frameBytes (capture frames) = frames.map captureBytes := by
    have short : ([] : List UInt8).length < frameBytes := frameBytes_pos
    have whole := asChunks_of_joined frameBytes_pos (frames.map captureBytes) short
    rwa [List.append_nil, ← capture_joined] at whole
  have correct : ((frames.map captureBytes).map frameErrors).sum = 0 := by
    rw [List.sum_eq_zero_iff_forall_eq_nat]
    intro errors member
    obtain ⟨bytes, among, rfl⟩ := List.mem_map.mp member
    obtain ⟨frame, _, rfl⟩ := List.mem_map.mp among
    exact (captureBytes_clean frame).1
  have accepted : (frames.map captureBytes).any frameRejects = false := by
    rw [List.any_map, List.any_eq_false]
    intro frame _
    simp [(captureBytes_clean frame).2]
  have read : (frames.map captureBytes).map rightFirst = frames := by
    rw [List.map_map]
    refine (List.map_congr_left ?_).trans (List.map_id frames)
    intro frame member
    exact rightFirst_captureBytes (fits frame member)
  have length : (capture frames).length / frameBytes = frames.length := by
    simp [capture_joined]
  rw [decodeCapture_eq, cut, correct, accepted, read, length]

def wholeBytes (packet : List UInt8) : Nat := framesIn packet.length * frameBytes

/-- A check byte of `packet` whose low six bits are not the expected ones. -/
def wrongCheck (packet : List UInt8) (position : Nat) : Bool :=
  position % 8 < streams && packet[position]?.any (· &&& checkMask != check (position % 8) (position / 8))

def rejects (packet : List UInt8) (position : Nat) : Bool :=
  position % 8 < streams && packet[position]?.any (· &&& outputPanic != 0)

/-- The bytes before the samples of `packet` are what the card sends when it has no complaint. -/
def CleanChecks (packet : List UInt8) : Prop :=
  ∀ position byte, position % 8 < streams → packet[position]? = some byte →
    byte &&& checkMask = check (position % 8) (position / 8) ∧ byte &&& 0xc0 = 0

theorem position_residue (index offset : Nat) : (index * frameBytes + offset) % 8 = offset % 8 := by
  simp only [frameBytes, blockBytes]
  omega

theorem check_position (index offset stream : Nat) :
    check stream ((index * frameBytes + offset) / 8) = check stream (offset / 8) := by
  have parity : (index * frameBytes + offset) / 8 % 2 = offset / 8 % 2 := by
    simp only [frameBytes, blockBytes]
    omega
  simp [check, parity]

private theorem offsets : List.range frameBytes = [0, 1, 2, 3, 4, 5, 6, 7, 8, 9, 10, 11, 12, 13, 14, 15] := rfl

/-- Only the first two bytes of each block can satisfy a predicate on check bytes. -/
theorem count_checks {holds : Nat → Bool}
    (checks : ∀ offset < frameBytes, streams ≤ offset % 8 → holds offset = false) :
    (List.range frameBytes).countP holds =
      (holds 0).toNat + (holds 1).toNat + (holds 8).toNat + (holds 9).toNat := by
  have counted : ∀ flag : Bool, (if flag = true then 1 else 0) = flag.toNat := by decide
  simp only [offsets, List.countP_cons, List.countP_nil, counted]
  simp [checks, frameBytes, blockBytes, streams]
  omega

theorem any_checks {holds : Nat → Bool}
    (checks : ∀ offset < frameBytes, streams ≤ offset % 8 → holds offset = false) :
    (List.range frameBytes).any holds = (holds 0 || holds 1 || holds 8 || holds 9) := by
  simp only [offsets, List.any_cons, List.any_nil]
  simp [checks, frameBytes, blockBytes, streams, Bool.or_assoc]

section Positions
variable {packet : List UInt8} {index : Nat} (inside : index < (asChunks frameBytes packet).length)
include inside

theorem wrongCheck_frame {offset : Nat} (within : offset < frameBytes) :
    wrongCheck packet (index * frameBytes + offset) = (offset % 8 < streams &&
      (asChunks frameBytes packet)[index][offset] &&& checkMask != check (offset % 8) (offset / 8)) := by
  rw [wrongCheck, position_residue, check_position, getElem?_asChunks inside within]
  rfl

theorem rejects_frame {offset : Nat} (within : offset < frameBytes) :
    rejects packet (index * frameBytes + offset) = (offset % 8 < streams &&
      (asChunks frameBytes packet)[index][offset] &&& outputPanic != 0) := by
  rw [rejects, position_residue, getElem?_asChunks inside within]
  rfl

theorem frameErrors_count : (List.range frameBytes).countP (fun offset => wrongCheck packet (index * frameBytes + offset)) =
    frameErrors (asChunks frameBytes packet)[index] := by
  rw [count_checks]
  · rw [wrongCheck_frame inside (show 0 < frameBytes by decide), wrongCheck_frame inside (show 1 < frameBytes by decide),
      wrongCheck_frame inside (show 8 < frameBytes by decide), wrongCheck_frame inside (show 9 < frameBytes by decide)]
    rfl
  · intro offset within data
    rw [wrongCheck_frame inside within, decide_eq_false (Nat.not_lt.mpr data), Bool.false_and]

theorem frameRejects_any : (List.range frameBytes).any (fun offset => rejects packet (index * frameBytes + offset)) =
    frameRejects (asChunks frameBytes packet)[index] := by
  rw [any_checks]
  · rw [rejects_frame inside (show 0 < frameBytes by decide), rejects_frame inside (show 1 < frameBytes by decide),
      rejects_frame inside (show 8 < frameBytes by decide), rejects_frame inside (show 9 < frameBytes by decide)]
    rfl
  · intro offset within data
    rw [rejects_frame inside within, decide_eq_false (Nat.not_lt.mpr data), Bool.false_and]

end Positions

theorem checkErrors_count (packet : List UInt8) :
    ((asChunks frameBytes packet).map frameErrors).sum = (List.range (wholeBytes packet)).countP (wrongCheck packet) := by
  rw [wholeBytes, framesIn, countP_range_mul]
  congr 1
  apply List.ext_getElem
  · simp
  · intro index first second
    have inside : index < (asChunks frameBytes packet).length := by simpa using first
    simp [frameErrors_count inside]

theorem outputRejected_iff (packet : List UInt8) :
    (asChunks frameBytes packet).any frameRejects = true ↔ ∃ position < wholeBytes packet, rejects packet position = true := by
  rw [List.any_eq_true]
  constructor
  · rintro ⟨bytes, member, rejected⟩
    obtain ⟨index, inside, rfl⟩ := List.getElem_of_mem member
    rw [← frameRejects_any inside, List.any_eq_true] at rejected
    obtain ⟨offset, within, rejected⟩ := rejected
    rw [length_asChunks] at inside
    exact ⟨index * frameBytes + offset, position_lt inside (List.mem_range.mp within), rejected⟩
  · rintro ⟨position, within, rejected⟩
    have inside : position / frameBytes < (asChunks frameBytes packet).length := by
      rw [length_asChunks]
      exact Nat.div_lt_of_lt_mul (by rwa [Nat.mul_comm])
    refine ⟨(asChunks frameBytes packet)[position / frameBytes], List.getElem_mem inside, ?_⟩
    rw [← frameRejects_any inside, List.any_eq_true]
    refine ⟨position % frameBytes, List.mem_range.mpr (Nat.mod_lt _ frameBytes_pos), ?_⟩
    rwa [Nat.div_add_mod']

theorem clean_byte {byte expected : UInt8} (masked : byte &&& checkMask = expected) (clear : byte &&& 0xc0 = 0) :
    byte = expected := by
  have parts : ∀ value < 256, UInt8.ofNat value &&& checkMask ||| UInt8.ofNat value &&& 0xc0 = UInt8.ofNat value := by
    decide +kernel
  have whole := parts byte.toNat byte.toNat_lt
  rw [UInt8.ofNat_toNat, masked, clear, UInt8.or_zero] at whole
  exact whole.symm

theorem capture_decoded {packet : List UInt8} (whole : packet.length % frameBytes = 0) (clean : CleanChecks packet) :
    capture (decoded packet) = packet := by
  have kept : ((asChunks frameBytes packet).map rightFirst).map captureBytes = asChunks frameBytes packet := by
    rw [List.map_map]
    refine (List.map_congr_left ?_).trans (List.map_id _)
    intro bytes member
    obtain ⟨index, inside, rfl⟩ := List.getElem_of_mem member
    have expected : ∀ offset (within : offset < frameBytes), offset % 8 < streams →
        (asChunks frameBytes packet)[index][offset] = check (offset % 8) (offset / 8) := by
      intro offset within checked
      have found := clean _ _ (by rwa [position_residue]) (getElem?_asChunks inside within)
      rw [position_residue, check_position] at found
      exact clean_byte found.1 found.2
    apply captureBytes_rightFirst
    · exact expected 0 (by decide) (by decide)
    · exact expected 1 (by decide) (by decide)
    · exact expected 8 (by decide) (by decide)
    · exact expected 9 (by decide) (by decide)
  rw [decoded_eq, capture_joined, kept, joined_of_whole whole]

theorem rightFirst_congr {first second : Vector UInt8 frameBytes}
    (same : ∀ offset (inside : offset < frameBytes), streams ≤ offset % 8 → first[offset] = second[offset]) :
    rightFirst first = rightFirst second := by
  simp only [rightFirst]
  rw [same 2 (by decide) (by decide), same 3 (by decide) (by decide), same 4 (by decide) (by decide),
    same 5 (by decide) (by decide), same 6 (by decide) (by decide), same 7 (by decide) (by decide),
    same 10 (by decide) (by decide), same 11 (by decide) (by decide), same 12 (by decide) (by decide),
    same 13 (by decide) (by decide), same 14 (by decide) (by decide), same 15 (by decide) (by decide)]

theorem decoded_congr {packet other : List UInt8} (frames : framesIn packet.length = framesIn other.length)
    (same : ∀ position < wholeBytes packet, streams ≤ position % 8 → packet[position]? = other[position]?) :
    decoded packet = decoded other := by
  rw [decoded_eq, decoded_eq]
  apply List.ext_getElem
  · simpa [framesIn] using frames
  · intro index first second
    have inside : index < (asChunks frameBytes packet).length := by simpa using first
    have within : index < (asChunks frameBytes other).length := by simpa using second
    rw [List.getElem_map, List.getElem_map]
    apply rightFirst_congr
    intro offset placed data
    have covered : index * frameBytes + offset < wholeBytes packet := by
      rw [length_asChunks] at inside
      exact position_lt inside placed
    have agree := same (index * frameBytes + offset) covered (by rwa [position_residue])
    rw [getElem?_asChunks inside placed, getElem?_asChunks within placed] at agree
    exact Option.some.inj agree

theorem decodeCapture_trailing {packet rest : List UInt8} (whole : packet.length % frameBytes = 0)
    (short : rest.length < frameBytes) (frame : σ → Frame channels → σ) (state : σ) :
    decodeCapture (packet ++ rest) frame state = decodeCapture packet frame state := by
  have cut : asChunks frameBytes (packet ++ rest) = asChunks frameBytes packet := by
    have found := asChunks_of_joined frameBytes_pos (asChunks frameBytes packet) short
    rwa [joined_of_whole whole] at found
  have length : (packet ++ rest).length / frameBytes = packet.length / frameBytes := by
    have := congrArg List.length cut
    simpa using this
  rw [decodeCapture_eq, decodeCapture_eq, cut, length]

/-- `decodeCapture` inverts the documented layout in both directions, and on any
bytes at all it reports each damaged check byte once. -/
theorem capture_decoding :
    (∀ {σ : Type} (frame : σ → Frame channels → σ) (state : σ) (frames : List (Frame channels)),
      (∀ frame ∈ frames, FrameFits24 frame) → decodeCapture (capture frames) frame state =
        ({ frames := frames.length, checkErrors := 0, outputRejected := false }, frames.foldl frame state)) ∧
    (∀ packet, packet.length % frameBytes = 0 → CleanChecks packet → capture (decoded packet) = packet) ∧
    (∀ packet other, framesIn packet.length = framesIn other.length →
      (∀ position < wholeBytes packet, streams ≤ position % 8 → packet[position]? = other[position]?) →
      decoded packet = decoded other) ∧
    (∀ {σ : Type} (frame : σ → Frame channels → σ) (state : σ) (packet rest : List UInt8),
      packet.length % frameBytes = 0 → rest.length < frameBytes →
      decodeCapture (packet ++ rest) frame state = decodeCapture packet frame state) ∧
    (∀ {σ : Type} (frame : σ → Frame channels → σ) (state : σ) (packet : List UInt8) (status : CaptureStatus) (after : σ),
      decodeCapture packet frame state = (status, after) →
      after = (decoded packet).foldl frame state ∧ status.frames = framesIn packet.length ∧
      status.checkErrors = (List.range (wholeBytes packet)).countP (wrongCheck packet) ∧
      (status.outputRejected = true ↔ ∃ position < wholeBytes packet, rejects packet position = true)) := by
  refine ⟨fun frame state _ fits => decodeCapture_capture fits frame state, fun _ => capture_decoded,
    fun _ _ => decoded_congr, fun frame state _ _ whole short => decodeCapture_trailing whole short frame state, ?_⟩
  intro σ frame state packet status after ran
  rw [decodeCapture_eq] at ran
  cases ran
  refine ⟨?_, rfl, checkErrors_count packet, outputRejected_iff packet⟩
  rw [decoded_eq]

theorem capture_decoding_two_frames :
    decodeCapture (capture [#v[2, 1, -2, -1], #v[4, 3, -4, -3]]) (fun frames frame => frames ++ [frame]) [] =
      ({ frames := 2, checkErrors := 0, outputRejected := false }, [#v[2, 1, -2, -1], #v[4, 3, -4, -3]]) :=
  capture_decoding.1 _ _ _ (by decide)

end Ak1Driver.Proofs.Capture
