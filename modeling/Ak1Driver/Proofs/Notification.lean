import Ak1Driver.Driver.Packets
import Ak1Driver.Proofs.Drift

/-! Each finished packet is reported once, in order, when its last frame has
moved. The counter that the client reads keeps the low bits of their number. -/

namespace Ak1Driver.Driver
open Proto Lib.Loop Lib.Transition

/-- A report for every whole packet of frames, with the time stamp of its last. -/
def reports (perPacket : Nat) (stamps : List UInt64) : List PacketComplete :=
  (List.range (stamps.length / perPacket)).map fun packet => ⟨packet, stamps.getD ((packet + 1) * perPacket - 1) 0⟩

variable {perPacket : Nat} {stamps : List UInt64} {qpc : UInt64}

theorem getD_concat_of_lt {index : Nat} (before : index < stamps.length) :
    (stamps ++ [qpc]).getD index 0 = stamps.getD index 0 := by
  rw [List.getD_eq_getElem?_getD, List.getD_eq_getElem?_getD, List.getElem?_append_left before]

theorem getD_concat_length : (stamps ++ [qpc]).getD stamps.length 0 = qpc := by
  rw [List.getD_eq_getElem?_getD, List.getElem?_concat_length]
  rfl

/-- The frames of a whole packet are among those moved. -/
theorem reports_inside {packet : Nat} (whole : packet < stamps.length / perPacket) :
    (packet + 1) * perPacket ≤ stamps.length ∧ 0 < (packet + 1) * perPacket := by
  have positive : 0 < perPacket := Nat.pos_of_ne_zero fun zero => by
    rw [zero, Nat.div_zero] at whole
    exact Nat.not_lt_zero _ whole
  exact ⟨(Nat.le_div_iff_mul_le positive).mp whole, Nat.mul_pos (Nat.succ_pos _) positive⟩

theorem reports_concat_of_ne (unfinished : (stamps.length + 1) % perPacket ≠ 0) :
    reports perPacket (stamps ++ [qpc]) = reports perPacket stamps := by
  rw [reports, reports, List.length_append, List.length_singleton, Nat.succ_div_of_mod_ne_zero unfinished]
  apply List.map_congr_left
  intro packet member
  have whole := reports_inside (List.mem_range.mp member)
  rw [getD_concat_of_lt (by omega)]

theorem reports_concat (finished : (stamps.length + 1) % perPacket = 0) :
    reports perPacket (stamps ++ [qpc]) = reports perPacket stamps ++ [⟨stamps.length / perPacket, qpc⟩] := by
  have next := Nat.succ_div_of_mod_eq_zero finished
  have last : (stamps.length / perPacket + 1) * perPacket = stamps.length + 1 := by
    rw [← next]
    exact Nat.div_mul_cancel (Nat.dvd_of_mod_eq_zero finished)
  rw [reports, reports, List.length_append, List.length_singleton, next, List.range_succ, List.map_append]
  congr 1
  · apply List.map_congr_left
    intro packet member
    have whole := reports_inside (List.mem_range.mp member)
    rw [getD_concat_of_lt (by omega)]
  · rw [List.map_singleton, last, Nat.add_sub_cancel, getD_concat_length]

/-- The time stamp of the first frame of the packet that the next frame is in. -/
def RtStream.packetStart (stream : RtStream) (qpc : UInt64) : UInt64 :=
  if stream.cursor.frames % stream.framesPerPacket = 0 then qpc else stream.cursor.packetStartQpc

theorem RtStream.advance_allocated {stream : RtStream} (allocated : stream.ring.count ≠ 0) (qpc : UInt64) :
    stream.advance qpc =
      let cursor : Cursor := ⟨stream.cursor.frames + 1, qpc, stream.packetStart qpc⟩
      if (stream.cursor.frames + 1) % stream.framesPerPacket = 0 then
        let completed := (stream.cursor.frames + 1) / stream.framesPerPacket - 1
        { stream with
          cursor := cursor
          currentPacket := UInt32.ofNat (completed + 1)
          lastPacketStartQpc := stream.packetStart qpc
          notified := stream.notified ++ [⟨completed, qpc⟩] }
      else { stream with cursor } := by
  unfold RtStream.advance packetStart
  rw [if_neg allocated]
  by_cases first : stream.cursor.frames % stream.framesPerPacket = 0
  · simp only [if_pos first]
  · simp only [if_neg first]

/-- What a stream with packets of `perPacket` frames has told of the frames moved
since its reset; `earlier` is what it told before. -/
structure Reported (earlier : List PacketComplete) (perPacket : Nat) (stamps : List UInt64) (stream : RtStream) : Prop where
  allocated : stream.ring.count ≠ 0
  size : stream.framesPerPacket = perPacket
  frames : stream.cursor.frames = stamps.length
  notified : stream.notified = earlier ++ reports perPacket stamps
  current : stream.currentPacket = UInt32.ofNat (stamps.length / perPacket)
  started : stamps.length % perPacket ≠ 0 →
    stream.cursor.packetStartQpc = stamps.getD (stamps.length / perPacket * perPacket) 0
  last : perPacket ≤ stamps.length →
    stream.lastPacketStartQpc = stamps.getD ((stamps.length / perPacket - 1) * perPacket) 0

namespace Reported
variable {earlier : List PacketComplete} {stream : RtStream}

theorem reset (allocated : stream.ring.count ≠ 0) : Reported stream.notified stream.framesPerPacket [] stream.reset where
  allocated := allocated
  size := rfl
  frames := rfl
  notified := by
    rw [reports, List.length_nil, Nat.zero_div, List.range_zero, List.map_nil, List.append_nil]
    rfl
  current := by
    rw [List.length_nil, Nat.zero_div]
    rfl
  started some := absurd (Nat.zero_mod _) some
  last _ := rfl

theorem advance (reported : Reported earlier perPacket stamps stream) (positive : 0 < perPacket) (qpc : UInt64) :
    Reported earlier perPacket (stamps ++ [qpc]) (stream.advance qpc) := by
  obtain ⟨allocated, size, frames, notified, current, started, last⟩ := reported
  have length : (stamps ++ [qpc]).length = stamps.length + 1 := List.length_append
  have start : stream.packetStart qpc = (stamps ++ [qpc]).getD (stamps.length / perPacket * perPacket) 0 := by
    rw [RtStream.packetStart, size, frames]
    by_cases first : stamps.length % perPacket = 0
    · rw [if_pos first, Nat.div_mul_cancel (Nat.dvd_of_mod_eq_zero first), getD_concat_length]
    · have whole := Nat.div_add_mod stamps.length perPacket
      rw [Nat.mul_comm] at whole
      rw [if_neg first, getD_concat_of_lt (by omega)]
      exact started first
  rw [RtStream.advance_allocated allocated, size, frames]
  by_cases finished : (stamps.length + 1) % perPacket = 0
  · have next := Nat.succ_div_of_mod_eq_zero finished
    simp only [if_pos finished, next, Nat.add_sub_cancel]
    refine ⟨allocated, size, length.symm, ?_, ?_, ?_, fun _ => ?_⟩
    · simp only
      rw [notified, reports_concat finished, List.append_assoc]
    · rw [length, next]
    · rw [length]
      exact absurd finished
    · rw [length, next, Nat.add_sub_cancel]
      exact start
  · have next := Nat.succ_div_of_mod_ne_zero finished
    simp only [if_neg finished]
    refine ⟨allocated, size, length.symm, ?_, ?_, fun _ => ?_, fun some => ?_⟩
    · rw [reports_concat_of_ne finished]
      exact notified
    · rw [length, next]
      exact current
    · rw [length, next]
      exact start
    · rw [length] at some
      have whole : perPacket ≤ stamps.length := by
        rcases Nat.lt_or_eq_of_le some with less | same
        · exact Nat.le_of_lt_succ less
        · exact absurd (same ▸ Nat.mod_self perPacket) finished
      have inside : (stamps.length / perPacket - 1) * perPacket < stamps.length := by
        have most := Nat.div_mul_le_self stamps.length perPacket
        have one := Nat.div_pos whole positive
        rw [Nat.sub_mul]
        omega
      rw [length, next, getD_concat_of_lt inside]
      exact last whole

theorem resampled (reported : Reported earlier perPacket stamps stream) (resampler : Resampler 2) :
    Reported earlier perPacket stamps { stream with resampler } :=
  ⟨reported.allocated, reported.size, reported.frames, reported.notified, reported.current, reported.started, reported.last⟩

theorem refilled (reported : Reported earlier perPacket stamps stream) (moved : Nat) (buffers : Packets) :
    Reported earlier perPacket stamps { stream with ring := { stream.ring with buffers }, moved } :=
  ⟨reported.allocated, reported.size, reported.frames, reported.notified, reported.current, reported.started, reported.last⟩

theorem renderFrame (reported : Reported earlier perPacket stamps stream) (positive : 0 < perPacket) (qpc : UInt64) :
    Reported earlier perPacket (stamps ++ [qpc]) (stream.renderFrame qpc).2 := by
  have counted := reported.refilled (stream.moved + 1) stream.ring.buffers
  cases found : RtStream.frameBytes { stream with moved := stream.moved + 1 } with
  | none => exact absurd (RtStream.frameBytes_eq_none.mp found) reported.allocated
  | some place =>
    simp only [RtStream.renderFrame, found]
    exact counted.advance positive qpc

theorem captureFrame (reported : Reported earlier perPacket stamps stream) (positive : 0 < perPacket)
    (samples : Frame 2) (qpc : UInt64) :
    Reported earlier perPacket (stamps ++ [qpc]) (stream.captureFrame samples qpc) := by
  cases found : RtStream.frameBytes { stream with moved := stream.moved + 1 } with
  | none => exact absurd (RtStream.frameBytes_eq_none.mp found) reported.allocated
  | some place =>
    simp only [RtStream.captureFrame, found]
    exact (reported.refilled (stream.moved + 1) _).advance positive qpc

/-- Some frames have moved since `moved` had, all in one call. -/
def During (earlier : List PacketComplete) (perPacket : Nat) (stamps : List UInt64) (moved : Nat) (qpc : UInt64)
    (stream : RtStream) : Prop :=
  ∃ count, Reported earlier perPacket (stamps ++ List.replicate count qpc) stream ∧ stream.moved = moved + count

variable {moved : Nat}

theorem during (reported : Reported earlier perPacket stamps stream) (qpc : UInt64) :
    During earlier perPacket stamps stream.moved qpc stream := by
  refine ⟨0, ?_, rfl⟩
  rw [List.replicate_zero, List.append_nil]
  exact reported

theorem During.more {after : RtStream} (during : During earlier perPacket stamps moved qpc stream)
    (one : Moved stream after 1)
    (moves : ∀ stamps, Reported earlier perPacket stamps stream → Reported earlier perPacket (stamps ++ [qpc]) after) :
    During earlier perPacket stamps moved qpc after := by
  obtain ⟨count, reported, counted⟩ := during
  refine ⟨count + 1, ?_, ?_⟩
  · rw [List.replicate_succ', ← List.append_assoc]
    exact moves _ reported
  · rw [one.moved, counted, Nat.add_assoc]

theorem During.resampled (during : During earlier perPacket stamps moved qpc stream) (resampler : Resampler 2) :
    During earlier perPacket stamps moved qpc { stream with resampler } := by
  obtain ⟨count, reported, counted⟩ := during
  exact ⟨count, reported.resampled resampler, counted⟩

theorem During.rendersFrame (during : During earlier perPacket stamps moved qpc stream) (positive : 0 < perPacket) :
    During earlier perPacket stamps moved qpc (stream.renderFrame qpc).2 :=
  during.more (RtStream.renderFrame_moved stream qpc).1 fun _ reported => reported.renderFrame positive qpc

theorem During.capturesFrame (during : During earlier perPacket stamps moved qpc stream) (positive : 0 < perPacket)
    (samples : Frame 2) : During earlier perPacket stamps moved qpc (stream.captureFrame samples qpc) :=
  during.more (RtStream.captureFrame_moved stream samples qpc).1 fun _ reported => reported.captureFrame positive samples qpc

theorem During.renderTurn {kernel : Kernel} {next : RtStream} (positive : 0 < perPacket)
    (during : During earlier perPacket stamps moved qpc stream) (turned : stream.renderTurn kernel qpc = .inl next) :
    During earlier perPacket stamps moved qpc next := by
  simp only [RtStream.renderTurn] at turned
  split at turned
  · cases turned
  · cases turned
    exact ((during.resampled _).rendersFrame positive).resampled _

theorem During.rendered {kernel : Kernel} {result : Frame 2 × RtStream} (during : During earlier perPacket stamps moved qpc stream)
    (turned : stream.renderTurn kernel qpc = .inr result) : During earlier perPacket stamps moved qpc result.2 := by
  simp only [RtStream.renderTurn] at turned
  split at turned
  · cases turned
    exact during.resampled _
  · cases turned

theorem render {kernel : Kernel} {fuel cardHz : Nat} {result : Frame 2 × RtStream} (positive : 0 < perPacket)
    (reported : Reported earlier perPacket stamps stream) (rendered : stream.render kernel fuel cardHz qpc = some result) :
    During earlier perPacket stamps stream.moved qpc result.2 := by
  simp only [RtStream.render] at rendered
  split at rendered
  · rw [← Option.some.inj rendered]
    exact (reported.during qpc).rendersFrame positive
  · exact loop_keeps (During earlier perPacket stamps stream.moved qpc) (fun result => During earlier perPacket stamps stream.moved qpc result.2)
      (fun _ _ during => during.renderTurn positive) (fun _ _ during => during.rendered)
      ((reported.during qpc).resampled _) rendered

theorem During.captureTurn {kernel : Kernel} {next : RtStream} (positive : 0 < perPacket)
    (during : During earlier perPacket stamps moved qpc stream) (turned : stream.captureTurn kernel qpc = .inl next) :
    During earlier perPacket stamps moved qpc next := by
  simp only [RtStream.captureTurn] at turned
  split at turned
  · cases turned
    exact (during.resampled _).capturesFrame positive _
  · cases turned

theorem During.captured {kernel : Kernel} {result : RtStream} (during : During earlier perPacket stamps moved qpc stream)
    (turned : stream.captureTurn kernel qpc = .inr result) : During earlier perPacket stamps moved qpc result := by
  simp only [RtStream.captureTurn] at turned
  split at turned
  · cases turned
  · cases turned
    exact during.resampled _

theorem capture {kernel : Kernel} {fuel cardHz : Nat} {samples : Frame 2} {after : RtStream} (positive : 0 < perPacket)
    (reported : Reported earlier perPacket stamps stream) (captured : stream.capture kernel fuel samples cardHz qpc = some after) :
    During earlier perPacket stamps stream.moved qpc after := by
  simp only [RtStream.capture] at captured
  split at captured
  · rw [← Option.some.inj captured]
    exact (reported.during qpc).capturesFrame positive samples
  · exact loop_keeps (During earlier perPacket stamps stream.moved qpc) (During earlier perPacket stamps stream.moved qpc)
      (fun _ _ during => during.captureTurn positive) (fun _ _ during => during.captured)
      ((reported.during qpc).resampled _) captured

theorem call {kernel : Kernel} {fuel : Nat} {call : RtStream.Call} {after : RtStream} (positive : 0 < perPacket)
    (reported : Reported earlier perPacket stamps stream) (called : stream.call kernel fuel call = some after) :
    During earlier perPacket stamps stream.moved call.qpc after := by
  cases call with
  | render cardHz qpc =>
    obtain ⟨result, rendered, same⟩ := Option.map_eq_some_iff.mp called
    exact same ▸ reported.render positive rendered
  | capture samples cardHz qpc => exact reported.capture positive called

end Reported

namespace Client
variable {kernel : Kernel} {fuel : Nat} {before after : Client} {earlier : List PacketComplete}

/-- What the client knows of a stream that had moved `moved` frames when it was reset. -/
structure Told (earlier : List PacketComplete) (perPacket moved : Nat) (client : Client) : Prop where
  reported : Reported earlier perPacket client.stamps client.stream
  moved : client.stream.moved = moved + client.stamps.length

variable {moved : Nat}

theorem step_told (positive : 0 < perPacket) {event : Event} (stepped : step kernel fuel before event = some after)
    (told : Told earlier perPacket moved before) : Told earlier perPacket moved after := by
  cases event with
  | call call =>
    obtain ⟨stream, called, same⟩ := Option.bind_eq_some_iff.mp stepped
    cases same
    obtain ⟨count, reported, counted⟩ := told.reported.call positive called
    rw [counted, Nat.add_sub_cancel_left]
    refine ⟨reported, ?_⟩
    rw [counted, told.moved, List.length_append, List.length_replicate, Nat.add_assoc]
  | fill buffers =>
    cases stepped
    exact ⟨told.reported.refilled before.stream.moved buffers, told.moved⟩
  | submit =>
    cases stepped
    exact ⟨told.reported, told.moved⟩

theorem start_told {stream : RtStream} (allocated : stream.ring.count ≠ 0) :
    Told stream.notified stream.framesPerPacket stream.moved (start stream) :=
  ⟨.reset allocated, rfl⟩

theorem run_told {stream : RtStream} (allocated : stream.ring.count ≠ 0) (positive : 0 < stream.framesPerPacket)
    {events : List Event} (ran : run (step kernel fuel) (start stream) events = some after) :
    Told stream.notified stream.framesPerPacket stream.moved after :=
  run_invariant (Told stream.notified stream.framesPerPacket stream.moved)
    (fun _ _ _ _ => step_told positive) (along_trivial _ events) ran (start_told allocated)

end Client

/-- Packet number `p` is reported with the time stamp of frame `(p + 1) * F`, once
that frame has moved, and with it the packet's start becomes known. -/
theorem packets_reported_once (kernel : Kernel) (fuel : Nat) {stream : RtStream} (allocated : stream.ring.count ≠ 0)
    (positive : 0 < stream.framesPerPacket) {events : List Client.Event} {client : Client}
    (ran : run (Client.step kernel fuel) (.start stream) events = some client) :
    client.stream.moved = stream.moved + client.stamps.length ∧
      client.stream.cursor.frames = client.stamps.length ∧
      client.stream.notified = stream.notified ++ reports stream.framesPerPacket client.stamps ∧
      client.stream.currentPacket = UInt32.ofNat (client.stamps.length / stream.framesPerPacket) ∧
      (stream.framesPerPacket ≤ client.stamps.length → client.stream.lastPacketStartQpc =
        client.stamps.getD ((client.stamps.length / stream.framesPerPacket - 1) * stream.framesPerPacket) 0) := by
  have told := Client.run_told allocated positive ran
  have reported := told.reported
  exact ⟨told.moved, reported.frames, reported.notified, reported.current, reported.last⟩

/-- Two packets of 35 frames of a stream at 96 kHz. -/
def convertedStream : RtStream :=
  { RtStream.new .output12 .hz96000 16 with
    ring := { buffers := fun _ _ => 1, count := 2, packetBytes := 140, firstOffset := 0 } }

/-- A frame played and one captured at the stream's rate, and the same at the
card's: a frame played then takes 65, and those captured give two each once
there are enough. -/
def convertedCalls : List Client.Event :=
  [.call (.render 96000 10), .call (.capture (Vector.replicate 2 5) 96000 11), .call (.render 48000 12)] ++
    List.replicate 32 (.call (.capture (Vector.replicate 2 6) 48000 13)) ++
    [.call (.capture (Vector.replicate 2 7) 48000 14), .call (.capture (Vector.replicate 2 8) 48000 15)]

theorem packets_reported_once_converted :
    ∃ client, run (Client.step (Vector.replicate _ (2 ^ 30)) 100) (.start convertedStream) convertedCalls = some client ∧
      client.stream.moved = 71 ∧ client.stream.notified = [⟨0, 12⟩, ⟨1, 15⟩] ∧ client.stream.lastPacketStartQpc = 12 := by
  have runs : (run (Client.step (Vector.replicate _ (2 ^ 30)) 100) (.start convertedStream) convertedCalls).any
      (fun client => client.stamps = [10, 11] ++ List.replicate 65 12 ++ [14, 14, 15, 15]) = true := by decide +kernel
  obtain ⟨client, ran, stamps⟩ := (Option.any_eq_true _ _).mp runs
  obtain ⟨moved, _, notified, _, last⟩ := packets_reported_once (Vector.replicate _ (2 ^ 30)) 100 (by decide) (by decide) ran
  rw [of_decide_eq_true stamps] at moved notified last
  exact ⟨client, ran, moved, notified, last (by decide)⟩

/-- A playback stream at 44.1 kHz with two packets of 16-bit frames. -/
def allocatedStream (packetBytes : Nat) : RtStream :=
  { RtStream.new .output12 .hz44100 16 with ring := { buffers := fun _ _ => 0, count := 2, packetBytes, firstOffset := 0 } }

namespace Client

/-- The packet under way does not have the last of all packet numbers. -/
def Unwrapped (client : Client) : Event → Prop
  | .submit => client.completed % 2 ^ 32 ≠ 2 ^ 32 - 1
  | _ => True

variable {kernel : Kernel} {fuel moved : Nat} {before after : Client} {earlier : List PacketComplete}

theorem accepted_iff (reported : Reported earlier perPacket before.stamps before.stream) :
    before.stream.evtSetRenderPacket (UInt32.ofNat (before.completed + 1)) = .success ↔
      before.completed % 2 ^ 32 ≠ 2 ^ 32 - 1 := by
  have current : before.stream.currentPacket = UInt32.ofNat before.completed := by
    rw [completed, reported.size]
    exact reported.current
  have late : UInt32.ofNat (before.completed + 1) ≤ UInt32.ofNat before.completed ↔
      before.completed % 2 ^ 32 = 2 ^ 32 - 1 := by
    rw [UInt32.le_iff_toNat_le, UInt32.toNat_ofNat', UInt32.toNat_ofNat']
    omega
  have next : UInt32.ofNat before.completed + 1 = UInt32.ofNat (before.completed + 1) := (UInt32.ofNat_add _ _).symm
  rw [RtStream.evtSetRenderPacket, current]
  by_cases wraps : before.completed % 2 ^ 32 = 2 ^ 32 - 1
  · simp only [if_pos (late.mpr wraps)]
    exact ⟨nofun, fun other => absurd wraps other⟩
  · simp only [if_neg (mt late.mp wraps), next, if_neg (UInt32.lt_irrefl _)]
    exact ⟨fun _ => wraps, fun _ => trivial⟩

theorem step_answers (reported : Reported earlier perPacket before.stamps before.stream) {event : Event}
    (stepped : step kernel fuel before event = some after) :
    (∀ answer ∈ after.answers, answer = .success) ↔
      (∀ answer ∈ before.answers, answer = .success) ∧ Unwrapped before event := by
  cases event with
  | call call =>
    obtain ⟨stream, called, same⟩ := Option.bind_eq_some_iff.mp stepped
    cases same
    exact (and_true _).symm ▸ Iff.rfl
  | fill buffers =>
    cases stepped
    exact (and_true _).symm ▸ Iff.rfl
  | submit =>
    cases stepped
    simp only [List.forall_mem_append, List.forall_mem_singleton]
    exact and_congr_right fun _ => accepted_iff reported

theorem run_answers (positive : 0 < perPacket) (told : Told earlier perPacket moved before)
    {events : List Event} (ran : run (step kernel fuel) before events = some after) :
    (∀ answer ∈ after.answers, answer = .success) ↔
      (∀ answer ∈ before.answers, answer = .success) ∧ Along (step kernel fuel) Unwrapped before events := by
  induction events generalizing before with
  | nil =>
    cases ran
    exact (and_true _).symm ▸ Iff.rfl
  | cons event events ih =>
    obtain ⟨middle, stepped, rest⟩ := run_cons.mp ran
    rw [ih (step_told positive stepped told) rest, step_answers told.reported stepped, and_assoc]
    apply and_congr_right
    intro _
    apply and_congr_right
    intro _
    constructor
    · intro along other same
      rw [stepped] at same
      exact Option.some.inj same ▸ along
    · intro along
      exact along middle stepped

theorem start_answers (stream : RtStream) : ∀ answer ∈ (start stream).answers, answer = .success := nofun

theorem call_direct {stream : RtStream} {cardHz : Nat} (same : stream.rate.hz = cardHz) (qpc : UInt64) :
    stream.call kernel fuel (.render cardHz qpc) = some (stream.renderFrame qpc).2 := by
  rw [RtStream.call, RtStream.render, if_pos same]
  rfl

/-- A stream at the card's rate can run for any number of frames. -/
theorem runs_on (kernel : Kernel) (fuel count : Nat) {stream : RtStream} {cardHz : Nat} (same : stream.rate.hz = cardHz)
    (qpc : UInt64) :
    ∃ client, run (step kernel fuel) (start stream) (List.replicate count (.call (.render cardHz qpc))) = some client ∧
      client.stamps.length = count ∧ client.stream.rate.hz = cardHz := by
  induction count with
  | zero => exact ⟨start stream, rfl, rfl, same⟩
  | succ count ih =>
    obtain ⟨client, ran, moved, rate⟩ := ih
    have stepped : step kernel fuel client (.call (.render cardHz qpc)) =
        some { client with
          stream := (client.stream.renderFrame qpc).2
          stamps := client.stamps ++
            List.replicate ((client.stream.renderFrame qpc).2.moved - client.stream.moved) qpc } := by
      rw [step, call_direct rate qpc]
      rfl
    have ranOn := run_append.mpr ⟨client, ran, run_cons.mpr ⟨_, stepped, run_nil _⟩⟩
    rw [← List.replicate_succ'] at ranOn
    have one := (RtStream.renderFrame_moved client.stream qpc).1
    refine ⟨_, ranOn, ?_, (congrArg SampleRate.hz one.rate).trans rate⟩
    rw [List.length_append, List.length_replicate, moved, one.moved, Nat.add_sub_cancel_left]

end Client

/-- Just after any run, the next packet is accepted unless its number wraps; and a
client that submits next packets is never told that one is late or has overrun
if it submits none whose number wraps. -/
theorem next_packet_accepted_iff (kernel : Kernel) (fuel : Nat) {stream : RtStream} (allocated : stream.ring.count ≠ 0)
    (positive : 0 < stream.framesPerPacket) {events : List Client.Event} {client : Client}
    (ran : run (Client.step kernel fuel) (.start stream) events = some client) :
    (client.stream.evtSetRenderPacket (UInt32.ofNat (client.completed + 1)) = .success ↔
      client.completed % 2 ^ 32 ≠ 2 ^ 32 - 1) ∧
    ((∀ answer ∈ client.answers, answer = .success) ↔
      Along (Client.step kernel fuel) Client.Unwrapped (.start stream) events) := by
  have answers := Client.run_answers positive (Client.start_told allocated) ran
  refine ⟨Client.accepted_iff (Client.run_told allocated positive ran).reported, answers.trans ?_⟩
  exact and_iff_right (Client.start_answers stream)

/-- Two packets of two frames, and then the third is submitted. -/
theorem next_packet_accepted_third :
    ∃ client, run (Client.step (Vector.replicate _ 0) 0) (.start (allocatedStream 8))
        (List.replicate 4 (.call (.render 44100 7)) ++ [.submit]) = some client ∧
      client.completed = 2 ∧ client.stream.evtSetRenderPacket 3 = .success := by
  have runs : (run (Client.step (Vector.replicate _ 0) 0) (.start (allocatedStream 8))
      (List.replicate 4 (.call (.render 44100 7)) ++ [.submit])).any (·.completed = 2) = true := by decide +kernel
  obtain ⟨client, ran, checked⟩ := (Option.any_eq_true _ _).mp runs
  have two : client.completed = 2 := of_decide_eq_true checked
  have accepted := (next_packet_accepted_iff (Vector.replicate _ 0) 0 (by decide) (by decide) ran).1
  rw [two] at accepted
  exact ⟨client, ran, two, accepted.mpr (by decide)⟩

/-- After the last packet number a client is told that its next packet is late. -/
theorem next_packet_late : ∃ (kernel : Kernel) (fuel : Nat) (stream : RtStream) (events : List Client.Event) (client : Client),
    stream.ring.count ≠ 0 ∧ 0 < stream.framesPerPacket ∧
      run (Client.step kernel fuel) (.start stream) events = some client ∧
      client.stream.evtSetRenderPacket (UInt32.ofNat (client.completed + 1)) ≠ .success := by
  obtain ⟨client, ran, moved, _⟩ := Client.runs_on (Vector.replicate _ 0) 0 (2 ^ 32 - 1)
    (show (allocatedStream 4).rate.hz = 44100 from rfl) 0
  have reported := (Client.run_told (by decide) (by decide) ran).reported
  have single : (allocatedStream 4).framesPerPacket = 1 := by decide
  refine ⟨_, _, _, _, client, ?_, ?_, ran, fun accepted => (Client.accepted_iff reported).mp accepted ?_⟩
  · decide
  · decide
  · rw [Client.completed, reported.size, single, moved, Nat.div_one]
    exact Nat.mod_eq_of_lt (by decide)

end Ak1Driver.Driver
