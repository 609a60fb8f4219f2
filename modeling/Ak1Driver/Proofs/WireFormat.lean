import Ak1Driver.Asio.Duplex

/-! The property set's values mean the same on both sides. A request is either
served whole or refused with the session's frames untouched; from there on the
bytes are those of a period, and the thread finds its samples where the kernel
put them. -/

namespace Ak1Driver.Driver.Requests
open Proto Proto.Property Lib.Bytes Lib.Chunks

variable {reserve : Nat → Bool} {asio : Option Session} {request : Request} {session : Session} {value : List UInt8}

theorem Session.new_sized {allocate : Nat → Except TryReserveError Unit} {owner : Owner} {rate : SampleRate} {period : Nat}
    (made : Session.new allocate owner rate period = .ok session) :
    session.buffers.Sized period ((rate.hz * packetsPerTransfer) ⌈/⌉ microframesPerSecond) := by
  rw [Session.new] at made
  split at made
  next buffers created =>
    cases made
    exact (Buffers.new_fresh created).toSized
  next => cases made

/-- A period as the client sees it. -/
def shownFrames (frames : List (Frame inputs)) : List (Vector UInt8 (inputs * sampleBytes)) :=
  frames.map fun frame => frameBytes (frame.map shiftUp)

theorem fill_eq {count : Nat} {frames : List (Frame inputs)} (counted : count ≤ frames.length)
    (inside : readValueBytes count ≤ value.length) :
    fill value count frames = encode headerBytes count ++ joined (shownFrames (frames.take count)) ++
      value.drop (readValueBytes count) := by
  have some : (shownFrames (frames.take count)).length = count := by
    rw [shownFrames, List.length_map, List.length_take, Nat.min_eq_left counted]
  have whole : (encode headerBytes count ++ joined (shownFrames (frames.take count))).length = readValueBytes count := by
    rw [List.length_append, length_encode, length_joined, some, readValueBytes, Nat.mul_assoc]
  have room : 0 + (encode headerBytes count).length + (joined (shownFrames (frames.take count))).length ≤ value.length := by
    rw [Nat.zero_add, ← List.length_append, whole]
    exact inside
  have header : (store value 0 (encode headerBytes count)).length = value.length :=
    length_store (Nat.le_trans (Nat.le_add_right _ _) room)
  have stored : fill value count frames = store (store value 0 (encode headerBytes count)) headerBytes
      (joined (shownFrames (frames.take count))) := by
    apply storeAll_eq
    change headerBytes + (shownFrames (frames.take count)).length * (inputs * sampleBytes) ≤ _
    rw [some, header, ← Nat.mul_assoc]
    exact inside
  have behind : store (store value 0 (encode headerBytes count)) headerBytes (joined (shownFrames (frames.take count))) =
      store value 0 (encode headerBytes count ++ joined (shownFrames (frames.take count))) := by
    have continued := store_store room
    rwa [Nat.zero_add, length_encode] at continued
  rw [stored, behind, store, whole, List.take_zero, List.nil_append, Nat.zero_add]

/-- The conditions for a read to be served. -/
structure Served (reserve : Nat → Bool) (asio : Option Session) (request : Request) (session : Session)
    (value : List UInt8) : Prop where
  asio : asio = some session
  request : request = ⟨some session.owner, some value⟩
  room : readValueBytes session.buffers.period ≤ value.length
  small : session.buffers.period ≤ maxPeriodFrames
  granted : reserve (min ((value.length - headerBytes) / (inputs * sampleBytes)) maxPeriodFrames) = true

/-- What a read that is served returns: a header alone, or the oldest period. -/
def Answers (session : Session) (value : List UInt8)
    (result : Except PropertyStatus (Nat × List UInt8) × Option Session) : Prop :=
  (session.buffers.unread.length < session.buffers.period ∧
    result = (.ok (headerBytes, encode headerBytes 0 ++ value.drop headerBytes), some session)) ∨
  (session.buffers.period ≤ session.buffers.unread.length ∧ ∃ after,
    result = (.ok (readValueBytes session.buffers.period, encode headerBytes session.buffers.period ++
      joined (shownFrames (session.buffers.unread.take session.buffers.period)) ++
      value.drop (readValueBytes session.buffers.period)), some { session with buffers := after }) ∧
    after.unread = session.buffers.unread.drop session.buffers.period ∧
    after = { session.buffers with input := after.input })

theorem frames_enough (room : readValueBytes session.buffers.period ≤ value.length)
    (small : session.buffers.period ≤ maxPeriodFrames) :
    session.buffers.period ≤ min ((value.length - headerBytes) / (inputs * sampleBytes)) maxPeriodFrames := by
  apply Nat.le_min.mpr
  refine ⟨?_, small⟩
  rw [Nat.le_div_iff_mul_le (by decide)]
  rw [readValueBytes, Nat.mul_assoc] at room
  omega

theorem read_short {buffers : Buffers} {into : List (Frame inputs)} (short : into.length < buffers.period) :
    buffers.read into = (none, into, buffers) := if_pos short

theorem read_served (served : Served reserve asio request session value) : Answers session value (read reserve asio request) := by
  have enough := frames_enough served.room served.small
  have header : ¬ value.length < headerBytes := by
    have := served.room
    rw [readValueBytes] at this
    omega
  generalize counted : min ((value.length - headerBytes) / (inputs * sampleBytes)) maxPeriodFrames = count at enough
  have granted := served.granted
  rw [counted] at granted
  have fits : session.buffers.period ≤ (List.replicate count (silence : Frame inputs)).length := by
    rwa [List.length_replicate]
  rw [read, served.request, served.asio]
  simp only [if_neg header, counted, frameBuffer, granted, withAsio, ↓reduceIte]
  rcases Nat.lt_or_ge session.buffers.unread.length session.buffers.period with few | some
  · left
    refine ⟨few, ?_⟩
    have bare := @fill_eq value 0 (List.replicate count silence) (Nat.zero_le _) (Nat.le_of_not_lt header)
    simp only [Buffers.read_incomplete fits few, bare]
    simp [shownFrames, readValueBytes]
  · right
    obtain ⟨count, filled, left, kept⟩ := Buffers.read_complete fits some
    refine ⟨some, (session.buffers.read (List.replicate _ silence)).2.2, ?_, left, kept⟩
    have held : (session.buffers.unread.take session.buffers.period).length = session.buffers.period := by
      rw [List.length_take, Nat.min_eq_left some]
    simp only [count, filled]
    rw [fill_eq (by rw [List.length_append, held]; exact Nat.le_add_right _ _) served.room, List.take_left' held,
      readValueBytes, Nat.mul_assoc]

theorem read_refused (refused : ∀ session value, ¬ Served reserve asio request session value) :
    ∃ status, read reserve asio request = (.error status, asio) := by
  obtain ⟨file, value⟩ := request
  cases file with
  | none => exact ⟨_, rfl⟩
  | some owner =>
    cases value with
    | none => exact ⟨_, rfl⟩
    | some value =>
      by_cases header : value.length < headerBytes
      · exact ⟨.bufferTooSmall, by simp only [read, if_pos header]⟩
      · cases granted : reserve (min ((value.length - headerBytes) / (inputs * sampleBytes)) maxPeriodFrames) with
        | false => exact ⟨.insufficientResources, by simp only [read, if_neg header, frameBuffer, granted, Bool.false_eq_true, ↓reduceIte]⟩
        | true =>
          cases asio with
          | none => exact ⟨.invalidDeviceState, by simp only [read, if_neg header, frameBuffer, granted, ↓reduceIte, withAsio]⟩
          | some session =>
            by_cases same : session.owner = owner
            · have short : min ((value.length - headerBytes) / (inputs * sampleBytes)) maxPeriodFrames <
                  session.buffers.period := by
                apply Nat.lt_of_not_le
                intro enough
                obtain ⟨room, small⟩ := Nat.le_min.mp enough
                rw [Nat.le_div_iff_mul_le (by decide)] at room
                refine refused session value ⟨rfl, by rw [same], ?_, small, granted⟩
                rw [readValueBytes, Nat.mul_assoc]
                omega
              have wanting := @read_short session.buffers (List.replicate _ silence) (by rwa [List.length_replicate])
              exact ⟨.bufferTooSmall, by simp only [read, if_neg header, frameBuffer, granted, ↓reduceIte, withAsio, if_pos same, wanting]⟩
            · exact ⟨.invalidDeviceState, by simp only [read, if_neg header, frameBuffer, granted, ↓reduceIte, withAsio, if_neg same]⟩

/-- A read that fails leaves every frame where it was. -/
theorem read_failed {status : PropertyStatus} (failed : (read reserve asio request).1 = .error status) :
    (read reserve asio request).2 = asio := by
  by_cases some : ∃ session value, Served reserve asio request session value
  · obtain ⟨session, value, served⟩ := some
    rcases read_served served with ⟨_, result⟩ | ⟨_, after, result, _⟩
    · rw [result] at failed
      cases failed
    · rw [result] at failed
      cases failed
  · obtain ⟨other, result⟩ := read_refused fun session value served => some ⟨session, value, served⟩
    rw [result]

/-- A read writes only inside the value. -/
theorem read_inside {filled : Nat} {after : List UInt8} (done : (read reserve asio request).1 = .ok (filled, after)) :
    ∃ value, request.value = some value ∧ after.length = value.length ∧ filled ≤ value.length ∧
      after.drop filled = value.drop filled := by
  by_cases some : ∃ session value, Served reserve asio request session value
  · obtain ⟨session, value, served⟩ := some
    have room := served.room
    have header : headerBytes ≤ value.length := by
      rw [readValueBytes] at room
      omega
    refine ⟨value, by rw [served.request], ?_⟩
    rcases read_served served with ⟨_, result⟩ | ⟨enough, last, result, _⟩
    · rw [result] at done
      cases done
      refine ⟨?_, header, List.drop_left' (length_encode _ _)⟩
      rw [List.length_append, length_encode, List.length_drop]
      omega
    · have width : (encode headerBytes session.buffers.period ++
          joined (shownFrames (session.buffers.unread.take session.buffers.period))).length =
            readValueBytes session.buffers.period := by
        rw [List.length_append, length_encode, length_joined, shownFrames, List.length_map, List.length_take,
          Nat.min_eq_left enough, readValueBytes, Nat.mul_assoc]
      rw [result] at done
      cases done
      refine ⟨?_, room, List.drop_left' width⟩
      rw [List.length_append, width, List.length_drop]
      omega
  · obtain ⟨status, result⟩ := read_refused fun session value served => some ⟨session, value, served⟩
    rw [result] at done
    cases done

/-- The conditions for a write to be accepted. -/
structure Accepted (reserve : Nat → Bool) (asio : Option Session) (request : Request) (session : Session)
    (value : List UInt8) : Prop where
  asio : asio = some session
  request : request = ⟨some session.owner, some value⟩
  exact : value.length = session.buffers.period * (outputs * sampleBytes)
  small : session.buffers.period ≤ maxPeriodFrames
  granted : reserve session.buffers.period = true

theorem write_accepted (accepted : Accepted reserve asio request session value) :
    ∃ after, write reserve asio request = (.ok (), some { session with buffers := after }) ∧
      after.queued = (session.buffers.queued ++ writtenFrames value).rtake session.buffers.output.capacity ∧
      after = { session.buffers with output := after.output } ∧
      after.output.capacity = session.buffers.output.capacity := by
  have count : value.length / (outputs * sampleBytes) = session.buffers.period := by
    rw [accepted.exact]
    exact Nat.mul_div_cancel _ (by decide)
  have sound : ¬ (value.length % (outputs * sampleBytes) ≠ 0 ∨ maxPeriodFrames < session.buffers.period) := by
    rw [accepted.exact, Nat.mul_mod_left]
    exact not_or.mpr ⟨fun other => other rfl, Nat.not_lt_of_le accepted.small⟩
  have period : (writtenFrames value).length = session.buffers.period := by
    rw [writtenFrames, List.length_map, length_asChunks, count]
  obtain ⟨queued, held, kept⟩ := Buffers.write_period period
  have capacity : (session.buffers.write (writtenFrames value)).2.output.capacity = session.buffers.output.capacity := by
    rw [Buffers.write, if_neg (not_not.mpr period)]
    exact (Fifo.pushOverAll_spec _ _).2
  refine ⟨(session.buffers.write (writtenFrames value)).2, ?_, held, kept, capacity⟩
  rw [accepted.request, accepted.asio]
  simp only [write, count, if_neg sound, frameBuffer, accepted.granted, withAsio, queued, ↓reduceIte]

theorem write_refused (refused : ∀ session value, ¬ Accepted reserve asio request session value) :
    ∃ status, write reserve asio request = (.error status, asio) := by
  obtain ⟨file, value⟩ := request
  cases file with
  | none => exact ⟨_, rfl⟩
  | some owner =>
    cases value with
    | none => exact ⟨_, rfl⟩
    | some value =>
      by_cases odd : value.length % (outputs * sampleBytes) ≠ 0 ∨ maxPeriodFrames < value.length / (outputs * sampleBytes)
      · exact ⟨.invalidBufferSize, by simp only [write, if_pos odd]⟩
      · cases granted : reserve (value.length / (outputs * sampleBytes)) with
        | false => exact ⟨.insufficientResources, by simp only [write, if_neg odd, frameBuffer, granted, Bool.false_eq_true, ↓reduceIte]⟩
        | true =>
          cases asio with
          | none => exact ⟨.invalidDeviceState, by simp only [write, if_neg odd, frameBuffer, granted, ↓reduceIte, withAsio]⟩
          | some session =>
            by_cases same : session.owner = owner
            · obtain ⟨whole, small⟩ := not_or.mp odd
              have wrong : (writtenFrames value).length ≠ session.buffers.period := by
                intro exact
                rw [writtenFrames, List.length_map, length_asChunks] at exact
                refine refused session value ⟨rfl, by rw [same], ?_, exact ▸ Nat.le_of_not_lt small, exact ▸ granted⟩
                rw [← exact]
                exact (Nat.div_mul_cancel (Nat.dvd_of_mod_eq_zero (not_not.mp whole))).symm
              have kept := Buffers.write_wrong wrong
              refine ⟨.invalidBufferSize, ?_⟩
              simp only [write, if_neg odd, frameBuffer, granted, withAsio, if_pos same, kept, Bool.false_eq_true, ↓reduceIte]
            · exact ⟨.invalidDeviceState, by simp only [write, if_neg odd, frameBuffer, granted, ↓reduceIte, withAsio, if_neg same]⟩

end Ak1Driver.Driver.Requests

namespace Ak1Driver.Duplex
open Proto Proto.Property Driver.Requests Lib.Bytes Lib.Chunks Lib.Transition

variable {reserve : Nat → Bool} {asio : Option Session}

theorem writtenFrames_joined (words : List (Vector Int32 outputs)) :
    writtenFrames (joined (words.map frameBytes)) = words.map fun frame => frame.map shiftDown := by
  have cut := asChunks_of_joined (by decide) (words.map frameBytes) (by decide : ([] : List UInt8).length < outputs * sampleBytes)
  rw [List.append_nil] at cut
  rw [writtenFrames, cut, List.map_map]
  apply List.map_congr_left
  intro frame _
  exact congrArg (Vector.map shiftDown) (frameOf_frameBytes frame)

theorem write_cases (device : Device) (reserve : Nat → Bool) (asio : Option Session) (words : List (Vector Int32 outputs)) :
    device.write reserve asio words = (false, asio) ∨
    ∃ session after, asio = some session ∧
      device.write reserve asio words = (true, some { session with buffers := after }) ∧
      after.queued =
        (session.buffers.queued ++ words.map fun frame => frame.map shiftDown).rtake session.buffers.output.capacity ∧
      after = { session.buffers with output := after.output } ∧
      after.output.capacity = session.buffers.output.capacity := by
  by_cases some : ∃ session value, Accepted reserve asio ⟨some device.owner, some (joined (words.map frameBytes))⟩ session value
  · obtain ⟨session, value, accepted⟩ := some
    obtain ⟨after, result, queued, kept⟩ := write_accepted accepted
    have same : value = joined (words.map frameBytes) := by
      have := accepted.request
      injection this with _ values
      exact (Option.some.inj values).symm
    rw [same, writtenFrames_joined] at queued
    exact Or.inr ⟨session, after, accepted.asio, by rw [Device.write, result], queued, kept⟩
  · obtain ⟨status, result⟩ := write_refused fun session value accepted => some ⟨session, value, accepted⟩
    exact Or.inl (by rw [Device.write, result])

theorem read_cases (device : Device) (reserve : Nat → Bool) (asio : Option Session) (value : List UInt8) :
    device.read reserve asio value = (none, value, asio) ∨
    (device.read reserve asio value = (some 0, encode headerBytes 0 ++ value.drop headerBytes, asio) ∧
      headerBytes ≤ value.length) ∨
    ∃ session after, asio = some session ∧ session.buffers.period ≤ session.buffers.unread.length ∧
      device.read reserve asio value = (some session.buffers.period, encode headerBytes session.buffers.period ++
        joined (shownFrames (session.buffers.unread.take session.buffers.period)) ++
        value.drop (readValueBytes session.buffers.period), some { session with buffers := after }) ∧
      after.unread = session.buffers.unread.drop session.buffers.period ∧
      after = { session.buffers with input := after.input } := by
  have header (count : Nat) (small : count ≤ maxPeriodFrames) (rest : List UInt8) :
      decode ((encode headerBytes count ++ rest).take headerBytes) = count := by
    rw [List.take_left' (length_encode _ _), decode_encode]
    exact Nat.mod_eq_of_lt (Nat.lt_of_le_of_lt small (by decide))
  by_cases some : ∃ session given, Served reserve asio ⟨some device.owner, some value⟩ session given
  · obtain ⟨session, given, served⟩ := some
    have same : given = value := by
      have := served.request
      injection this with _ values
      exact (Option.some.inj values).symm
    subst same
    rcases read_served served with ⟨_, result⟩ | ⟨enough, after, result, unread, kept⟩
    · refine Or.inr (Or.inl ⟨?_, ?_⟩)
      · rw [Device.read, result, served.asio]
        simp only [Nat.lt_irrefl, ↓reduceIte, header 0 (Nat.zero_le _)]
      · have room := served.room
        rw [readValueBytes] at room
        omega
    · refine Or.inr (Or.inr ⟨session, after, served.asio, enough, ?_, unread, kept⟩)
      have long : ¬ readValueBytes session.buffers.period < headerBytes := by
        rw [readValueBytes]
        omega
      rw [Device.read, result]
      simp only [if_neg long, List.append_assoc, header _ served.small]
  · obtain ⟨status, result⟩ := read_refused fun session given served => some ⟨session, given, served⟩
    exact Or.inl (by rw [Device.read, result])

theorem put_here (memory : Memory) (channel : Channel) (place : Nat) (word : Int32) :
    put memory channel place word channel place = word := by
  rw [put, Function.update_self, Function.update_self]

theorem put_elsewhere {memory : Memory} {channel other : Channel} {place elsewhere : Nat} {word : Int32}
    (apart : channel ≠ other ∨ place ≠ elsewhere) : put memory channel place word other elsewhere = memory other elsewhere := by
  by_cases same : other = channel
  · subst same
    rw [put, Function.update_self, Function.update_of_ne]
    exact (apart.resolve_left (fun different => different rfl)).symm
  · rw [put, Function.update_of_ne same]

variable {host : Host} {state : State}

theorem showFrame_here (memory : Memory) (frame : Vector UInt8 (inputs * sampleBytes)) (i : Nat) {channel : Fin inputs}
    (active : host.inputs.get channel = true) :
    showFrame host state memory frame i (.input channel) (half host state i) = (frameOf frame).get channel := by
  have both : List.finRange inputs = [0, 1] := rfl
  have apart : (Channel.input 1) ≠ .input 0 := by decide
  rw [showFrame, both, List.foldl_cons, List.foldl_cons, List.foldl_nil]
  match channel with
  | 0 =>
    rw [if_pos active]
    split
    · rw [put_elsewhere (Or.inl apart), put_here]
    · rw [put_here]
  | 1 => rw [if_pos active, put_here]

theorem showFrame_elsewhere (memory : Memory) (frame : Vector UInt8 (inputs * sampleBytes)) {i j : Nat} (apart : i ≠ j)
    (channel : Fin inputs) :
    showFrame host state memory frame i (.input channel) (half host state j) = memory (.input channel) (half host state j) := by
  have places : half host state i ≠ half host state j := fun same => apart (Nat.add_left_cancel same)
  have both : List.finRange inputs = [0, 1] := rfl
  rw [showFrame, both, List.foldl_cons, List.foldl_cons, List.foldl_nil]
  split
  · rw [put_elsewhere (Or.inr places)]
    split
    · rw [put_elsewhere (Or.inr places)]
    · rfl
  · split
    · rw [put_elsewhere (Or.inr places)]
    · rfl

/-- A loop over the frames of a period shows each in its place. -/
theorem showFrames (memory : Memory) (frames : List (Vector UInt8 (inputs * sampleBytes))) {i : Nat}
    {frame : Vector UInt8 (inputs * sampleBytes)} (known : frames[i]? = some frame) {channel : Fin inputs}
    (active : host.inputs.get channel = true) :
    frames.zipIdx.foldl (fun memory (frame, i) => showFrame host state memory frame i) memory (.input channel)
      (half host state i) = (frameOf frame).get channel := by
  induction frames using List.reverseRecOn with
  | nil => simp at known
  | append_singleton frames last ih =>
    rw [List.zipIdx_append, List.foldl_append, List.zipIdx_singleton, List.foldl_cons, List.foldl_nil, Nat.zero_add]
    rcases Nat.lt_trichotomy i frames.length with before | here | after
    · rw [List.getElem?_append_left before] at known
      exact (showFrame_elsewhere _ _ (Nat.ne_of_gt before) channel).trans (ih known)
    · rw [here, List.getElem?_concat_length] at known
      cases known
      rw [here]
      exact showFrame_here _ _ _ active
    · rw [List.getElem?_eq_none (by simp; omega)] at known
      cases known

theorem handOver_shown {frames : List (Frame inputs)} {count : Nat} (counted : frames.length = host.bufferFrames)
    (input : state.input = encode headerBytes count ++ joined (shownFrames frames)) (memory : Memory) {i : Nat}
    {frame : Frame inputs} (known : frames[i]? = some frame) {channel : Fin inputs} (active : host.inputs.get channel = true) :
    handOver host state memory (.input channel) (half host state i) = shiftUp (frame.get channel) := by
  have cut : asChunks (inputs * sampleBytes) (state.input.drop headerBytes) = shownFrames frames := by
    have whole := asChunks_of_joined (by decide) (shownFrames frames) (by decide : ([] : List UInt8).length < inputs * sampleBytes)
    have dropped : state.input.drop headerBytes = joined (shownFrames frames) := by
      rw [input]
      exact List.drop_left' (length_encode _ _)
    rwa [List.append_nil, ← dropped] at whole
  have all : (shownFrames frames).take host.bufferFrames = shownFrames frames := by
    apply List.take_of_length_le
    rw [shownFrames, List.length_map, counted]
  have bytes : (shownFrames frames)[i]? = some (frameBytes (frame.map shiftUp)) := by
    rw [shownFrames, List.getElem?_map, known]
    rfl
  rw [handOver, cut, all, showFrames memory _ bytes active, frameOf_frameBytes]
  exact Vector.getElem_map _ _

/-- The words in the half of switch number `k`, 0 where the host has no output. -/
def words (host : Host) (k : Nat) (memory : Memory) : List (Vector Int32 outputs) :=
  (List.range host.bufferFrames).map fun i => .ofFn fun channel =>
    if host.outputs.get channel then memory (.output channel) (k % 2 * host.bufferFrames + i) else 0

/-- The same words as samples. -/
def answer (host : Host) (k : Nat) (memory : Memory) : List (Frame outputs) :=
  (List.range host.bufferFrames).map fun i => .ofFn fun channel =>
    if host.outputs.get channel then shiftDown (memory (.output channel) (k % 2 * host.bufferFrames + i)) else 0

theorem words_answer (host : Host) (k : Nat) (memory : Memory) :
    (words host k memory).map (fun frame => frame.map shiftDown) = answer host k memory := by
  rw [words, answer, List.map_map]
  apply List.map_congr_left
  intro i _
  apply Vector.ext
  intro channel inside
  simp only [Function.comp_apply, Vector.getElem_map, Vector.getElem_ofFn]
  split
  · rfl
  · decide

/-- Switch number `k` showed the host the oldest unread period in its half. -/
structure ShownRight (host : Host) (k : Nat) (shown : Shown) : Prop where
  position : shown.position = k * host.bufferFrames
  enough : host.bufferFrames ≤ shown.unread.length
  remaining : shown.remaining = shown.unread.drop host.bufferFrames
  samples : ∀ i frame, i < host.bufferFrames → shown.unread[i]? = some frame → ∀ channel : Fin inputs,
    host.inputs.get channel = true → shown.memory (.input channel) (k % 2 * host.bufferFrames + i) = shiftUp (frame.get channel)

/-- The write of switch number `k` queued what the host had left in its half. -/
def WrittenRight (host : Host) (transfer k : Nat) (memory : Memory) (written : Written) : Prop :=
  written.after = (written.before ++ answer host k memory).rtake (2 * host.bufferFrames + transfer)

/-- What the session keeps of the sizes it was made with. -/
structure Room (host : Host) (transfer : Nat) (buffers : Buffers) : Prop where
  period : buffers.period = host.bufferFrames
  queue : buffers.output.capacity = 2 * host.bufferFrames + transfer

theorem Room.card {host : Host} {transfer : Nat} {session : Session} (room : Room host transfer session.buffers)
    (frame : Frame inputs) : Room host transfer (session.capture frame).render.2.buffers := by
  have captured : Room host transfer (session.buffers.capture frame).2 := by
    simp only [Buffers.capture]
    split
    · exact ⟨room.period, room.queue⟩
    · exact ⟨room.period, room.queue⟩
  change Room host transfer (session.buffers.capture frame).2.render.2
  have popped := Fifo.pop_capacity (session.buffers.capture frame).2.output
  rcases (session.buffers.capture frame).2.render_cases with ⟨_, _, same⟩ | ⟨_, _, _, _, _, same⟩
  · rw [same]
    exact ⟨captured.period, captured.queue⟩
  · rw [same]
    exact ⟨captured.period, popped.trans captured.queue⟩

/-- The thread's state between its steps, and what the switches so far did. -/
structure Turning (host : Host) (transfer : Nat) (duplex : Duplex) : Prop where
  fixed : duplex.host = host
  index : duplex.state.index = duplex.left.length % 2
  position : duplex.state.position = duplex.left.length * host.bufferFrames
  input : duplex.state.input.length = readValueBytes host.bufferFrames
  output : duplex.state.output.length = host.bufferFrames
  session : ∀ session, duplex.asio = some session → Room host transfer session.buffers
  shows : duplex.place ≠ .ended → duplex.shown.length = duplex.left.length + if duplex.place = .calling then 1 else 0
  writes : duplex.place ≠ .ended → duplex.written.length + (if duplex.place = .writing then 1 else 0) = duplex.left.length
  collected : duplex.place = .writing → ∃ memory, duplex.left[duplex.left.length - 1]? = some memory ∧
    duplex.state.output = words host (duplex.left.length - 1) memory
  shown : ∀ k shown, duplex.shown[k]? = some shown → ShownRight host k shown
  written : ∀ k memory written, duplex.left[k]? = some memory → duplex.written[k]? = some written →
    WrittenRight host transfer k memory written

namespace Turning
variable {host : Host} {transfer : Nat} {duplex after : Duplex}

theorem start {device : Device} {session : Session} {memory : Memory}
    (room : Room host transfer session.buffers) :
    Turning host transfer (Duplex.start device host session memory) where
  fixed := rfl
  index := rfl
  position := (Nat.zero_mul _).symm
  input := List.length_replicate
  output := List.length_replicate
  session other same := by
    cases same
    exact room
  shows _ := rfl
  writes _ := rfl
  collected writing := by cases writing
  shown k shown known := by simp [Duplex.start] at known
  written k memory written known := by simp [Duplex.start] at known

/-- Steps that leave the thread where it can be found: only the session or the place changes. -/
theorem rest {place : Place} (turning : Turning host transfer duplex)
    (same : place = duplex.place ∨ (duplex.place ≠ .calling ∧ duplex.place ≠ .writing ∧ duplex.place ≠ .ended ∧
      place ≠ .calling ∧ place ≠ .writing) ∨ place = .ended)
    {asio : Option Session} (room : ∀ session, asio = some session → Room host transfer session.buffers) :
    Turning host transfer { duplex with asio, place } := by
  refine { turning with session := room, shows := ?_, writes := ?_, collected := ?_ }
  · intro live
    rcases same with rfl | ⟨notCalling, _, notEnded, still, _⟩ | rfl
    · exact turning.shows live
    · have counted := turning.shows notEnded
      rw [if_neg notCalling] at counted
      simp only [if_neg still]
      exact counted
    · exact absurd rfl live
  · intro live
    rcases same with rfl | ⟨_, notWriting, notEnded, _, still⟩ | rfl
    · exact turning.writes live
    · have counted := turning.writes notEnded
      rw [if_neg notWriting] at counted
      simp only [if_neg still]
      exact counted
    · exact absurd rfl live
  · intro writing
    rcases same with rfl | ⟨_, _, _, _, still⟩ | rfl
    · exact turning.collected writing
    · exact absurd writing still
    · cases writing

theorem live_shown (turning : Turning host transfer duplex) (notEnded : duplex.place ≠ .ended)
    (notCalling : duplex.place ≠ .calling) : duplex.shown.length = duplex.left.length := by
  have counted := turning.shows notEnded
  rwa [if_neg notCalling] at counted

theorem live_written (turning : Turning host transfer duplex) (notEnded : duplex.place ≠ .ended)
    (notWriting : duplex.place ≠ .writing) : duplex.written.length = duplex.left.length := by
  have counted := turning.writes notEnded
  rwa [if_neg notWriting] at counted

/-- What was appended last, or before. -/
theorem getElem?_concat_cases {items : List α} {item found : α} {k : Nat} (known : (items ++ [item])[k]? = some found) :
    items[k]? = some found ∨ (k = items.length ∧ found = item) := by
  rcases Nat.lt_trichotomy k items.length with before | here | after
  · rw [List.getElem?_append_left before] at known
    exact Or.inl known
  · rw [here, List.getElem?_concat_length] at known
    exact Or.inr ⟨here, (Option.some.inj known).symm⟩
  · rw [List.getElem?_eq_none (by simp; omega)] at known
    cases known

theorem switch (turning : Turning host transfer duplex) (reading : duplex.place = .reading) {buffers : Buffers}
    {unread : List (Frame inputs)} (enough : host.bufferFrames ≤ unread.length)
    (remaining : buffers.unread = unread.drop host.bufferFrames) (room : Room host transfer buffers) (owner : Driver.Owner)
    (event : Bool) :
    Turning host transfer (Duplex.switch { duplex with
      asio := some ⟨owner, event, buffers⟩
      state := { duplex.state with
        input := encode headerBytes host.bufferFrames ++ joined (shownFrames (unread.take host.bufferFrames)) } } unread) := by
  have shows := turning.live_shown (by rw [reading]; decide) (by rw [reading]; decide)
  have writes := turning.live_written (by rw [reading]; decide) (by rw [reading]; decide)
  have held : (unread.take host.bufferFrames).length = host.bufferFrames := by
    rw [List.length_take, Nat.min_eq_left enough]
  constructor
  · exact turning.fixed
  · exact turning.index
  · exact turning.position
  · simp only [Duplex.switch, List.length_append, length_encode, length_joined, shownFrames, List.length_map, held,
      readValueBytes, Nat.mul_assoc]
  · exact turning.output
  · intro session same
    cases same
    exact room
  · intro _
    simp only [Duplex.switch, List.length_append, List.length_singleton, shows, ↓reduceIte]
  · intro _
    exact writes
  · intro writing
    cases writing
  · intro k shown known
    rcases getElem?_concat_cases known with old | ⟨last, rfl⟩
    · exact turning.shown k shown old
    · rw [last, shows]
      constructor
      · exact turning.position
      · exact enough
      · exact remaining
      · intro i frame inside found channel active
        have taken : (unread.take host.bufferFrames)[i]? = some frame := by
          rw [List.getElem?_take_of_lt inside]
          exact found
        have same := turning.fixed
        subst same
        have placed := @handOver_shown duplex.host { duplex.state with input := _ } _ duplex.host.bufferFrames held rfl duplex.memory _ _ taken _ active
        rw [← turning.index]
        exact placed
  · exact turning.written

theorem drain (turning : Turning host transfer duplex) (positive : 1 ≤ host.bufferFrames)
    (reading : duplex.place = .reading) (reserve : Nat → Bool) : Turning host transfer (duplex.drain reserve) := by
  have shows := turning.live_shown (by rw [reading]; decide) (by rw [reading]; decide)
  have writes := turning.live_written (by rw [reading]; decide) (by rw [reading]; decide)
  rcases read_cases duplex.device reserve duplex.asio duplex.state.input with
    failed | ⟨none, header⟩ | ⟨session, after, known, enough, some, unread, kept⟩
  · simp only [Duplex.drain, failed]
    exact turning.rest (Or.inr (Or.inr rfl)) turning.session
  · simp only [Duplex.drain, none, Nat.lt_irrefl, ↓reduceIte]
    refine { turning with input := ?_, shows := fun _ => shows, writes := fun _ => writes, collected := fun writing => by cases writing }
    have whole := turning.input
    simp only [List.length_append, length_encode, List.length_drop]
    omega
  · have room := turning.session session known
    have oldest : duplex.unread = session.buffers.unread := by
      rw [Duplex.unread, known]
      rfl
    rw [room.period] at enough some unread
    have held : (session.buffers.unread.take host.bufferFrames).length = host.bufferFrames := by
      rw [List.length_take, Nat.min_eq_left enough]
    have whole : duplex.state.input.drop (readValueBytes host.bufferFrames) = [] :=
      List.drop_of_length_le turning.input.le
    have found : host.bufferFrames > 0 := positive
    rw [whole, List.append_nil] at some
    simp only [Duplex.drain, some, if_pos found]
    rw [oldest]
    apply turning.switch reading enough unread
    rw [kept]
    exact ⟨room.period, room.queue⟩

theorem returns (turning : Turning host transfer duplex) (calling : duplex.place = .calling) (memory : Memory) :
    Turning host transfer { duplex with
      memory, state := collect duplex.host duplex.state memory, place := .writing, left := duplex.left ++ [memory] } := by
  have shows := turning.shows (by rw [calling]; decide)
  have writes := turning.live_written (by rw [calling]; decide) (by rw [calling]; decide)
  rw [if_pos calling] at shows
  have same := turning.fixed
  subst same
  constructor
  · rfl
  · have parity : duplex.left.length % 2 ^^^ 1 = (duplex.left.length + 1) % 2 := by
      rcases Nat.mod_two_eq_zero_or_one duplex.left.length with even | odd
      · rw [even, Nat.add_mod, even]
        decide
      · rw [odd, Nat.add_mod, odd]
        decide
    simp only [collect, turning.index, parity, List.length_append, List.length_singleton]
  · simp only [collect, turning.position, List.length_append, List.length_singleton, Nat.succ_mul]
  · exact turning.input
  · simp only [collect, List.length_mapIdx, turning.output]
  · exact turning.session
  · intro _
    simp only [shows, List.length_append, List.length_singleton]
    rfl
  · intro _
    simp only [writes, List.length_append, List.length_singleton]
    rfl
  · intro _
    refine ⟨memory, by simp, ?_⟩
    have last : (duplex.left ++ [memory]).length - 1 = duplex.left.length := by simp
    simp only [last]
    apply List.ext_getElem?
    intro i
    simp only [collect, words, List.getElem?_mapIdx, List.getElem?_map, half, turning.index]
    rcases Nat.lt_or_ge i duplex.host.bufferFrames with inside | outside
    · rw [List.getElem?_range inside, List.getElem?_eq_getElem (by rw [turning.output]; exact inside)]
      rfl
    · rw [List.getElem?_eq_none (by rw [turning.output]; exact outside),
        List.getElem?_eq_none (by rw [List.length_range]; exact outside)]
      rfl
  · exact turning.shown
  · intro k other written known wrote
    obtain ⟨bound, _⟩ := List.getElem?_eq_some_iff.mp wrote
    have old : k < duplex.left.length := writes ▸ bound
    rw [List.getElem?_append_left old] at known
    exact turning.written k other written known wrote

theorem send (turning : Turning host transfer duplex) (writing : duplex.place = .writing) (reserve : Nat → Bool) :
    Turning host transfer (duplex.send reserve) := by
  have shows := turning.live_shown (by rw [writing]; decide) (by rw [writing]; decide)
  have writes := turning.writes (by rw [writing]; decide)
  rw [if_pos writing] at writes
  rcases write_cases duplex.device reserve duplex.asio duplex.state.output with failed |
    ⟨session, after, known, sent, queued, kept, capacity⟩
  · simp only [Duplex.send, failed, Bool.false_eq_true, ↓reduceIte]
    exact turning.rest (Or.inr (Or.inr rfl)) turning.session
  · have room := turning.session session known
    obtain ⟨memory, latest, collected⟩ := turning.collected writing
    have before : duplex.queued = session.buffers.queued := by
      rw [Duplex.queued, known]
      rfl
    simp only [Duplex.send, sent, ↓reduceIte]
    refine ⟨turning.fixed, turning.index, turning.position, turning.input, turning.output, ?_, fun _ => shows, fun _ => ?_,
      fun other => (by cases other), turning.shown, ?_⟩
    · intro other same
      cases same
      rw [kept]
      exact ⟨room.period, capacity.trans room.queue⟩
    · simp only [List.length_append, List.length_singleton]
      exact writes
    · intro k other written leftThere wrote
      rcases getElem?_concat_cases wrote with old | ⟨last, rfl⟩
      · exact turning.written k other written leftThere old
      · have same : k = duplex.left.length - 1 := by omega
        rw [same, latest] at leftThere
        cases leftThere
        rw [WrittenRight, same, ← room.queue, ← words_answer, ← collected, before]
        exact queued

theorem step (turning : Turning host transfer duplex) (positive : 1 ≤ host.bufferFrames) {event : Event}
    (stepped : duplex.step event = some after) : Turning host transfer after := by
  cases event with
  | card frame =>
    cases stepped
    apply turning.rest (Or.inl rfl)
    intro session known
    obtain ⟨before, held, rfl⟩ := Option.map_eq_some_iff.mp known
    exact (turning.session before held).card frame
  | wake =>
    obtain ⟨waiting, same⟩ := Option.ite_none_right_eq_some.mp stepped
    cases same
    apply turning.rest (Or.inr (Or.inl _)) turning.session
    rw [waiting]
    decide
  | leave =>
    obtain ⟨_, same⟩ := Option.ite_none_right_eq_some.mp stepped
    cases same
    exact turning.rest (Or.inr (Or.inr rfl)) turning.session
  | read reserve =>
    obtain ⟨reading, same⟩ := Option.ite_none_right_eq_some.mp stepped
    cases same
    exact turning.drain positive reading reserve
  | returns memory =>
    obtain ⟨calling, same⟩ := Option.ite_none_right_eq_some.mp stepped
    cases same
    exact turning.returns calling memory
  | write reserve =>
    obtain ⟨writing, same⟩ := Option.ite_none_right_eq_some.mp stepped
    cases same
    exact turning.send writing reserve
  | close =>
    cases stepped
    apply turning.rest (Or.inl rfl)
    intro session known
    cases known

end Turning

/-- What a session handed out and got back, byte by byte, for periods of one length. -/
structure Agrees (period : Nat) : Prop where
  inside : ∀ reserve asio request filled after, (read reserve asio request).1 = .ok (filled, after) →
    ∃ value, request.value = some value ∧ after.length = value.length ∧ filled ≤ value.length ∧
      after.drop filled = value.drop filled
  untouched : ∀ reserve asio request status, (read reserve asio request).1 = .error status → (read reserve asio request).2 = asio
  short : ∀ reserve session request value, session.buffers.period = period → request.value = some value →
    value.length < readValueBytes period → ∃ status, read reserve (some session) request = (.error status, some session)
  long : ∀ reserve session value, session.buffers.period = period → readValueBytes period ≤ value.length →
    reserve (min ((value.length - headerBytes) / (inputs * sampleBytes)) maxPeriodFrames) = true →
    Answers session value (read reserve (some session) ⟨some session.owner, some value⟩)
  queues : ∀ reserve session (words : List (Vector Int32 outputs)), session.buffers.period = period →
    words.length = period → reserve period = true → ∃ after,
      write reserve (some session) ⟨some session.owner, some (joined (words.map frameBytes))⟩ =
        (.ok (), some { session with buffers := after }) ∧
      after.queued =
        (session.buffers.queued ++ words.map fun frame => frame.map shiftDown).rtake session.buffers.output.capacity
  otherwise : ∀ reserve session request value, session.buffers.period = period → request.value = some value →
    value.length ≠ period * (outputs * sampleBytes) → ∃ status, write reserve (some session) request = (.error status, some session)
  streams : ∀ device host session transfer memory events final, host.bufferFrames = period →
    session.buffers.Sized period transfer → run Duplex.step (.start device host session memory) events = some final →
    (∀ k shown, final.shown[k]? = some shown → ShownRight host k shown) ∧
    ∀ k memory written, final.left[k]? = some memory → final.written[k]? = some written →
      WrittenRight host transfer k memory written
  copies : ∀ device host session transfer memory events final, host.bufferFrames = period →
    session.buffers.Sized period transfer → run Duplex.step (.start device host session memory) events = some final →
    ∀ k shown memory, final.shown[k]? = some shown → final.left[k]? = some memory →
    ∀ (source : Fin inputs) (target : Fin outputs), host.inputs.get source = true → host.outputs.get target = true →
    (∀ i < period, memory (.output target) (k % 2 * period + i) = shown.memory (.input source) (k % 2 * period + i)) →
    ∀ i frame answered, i < period → shown.unread[i]? = some frame → Fits24 (frame.get source) →
    (answer host k memory)[i]? = some answered → answered.get target = frame.get source

/-- For every period a session may have, the kernel and the thread agree on what
the bytes mean, whatever the length of a value, and a host that copies its input
to its output gets every sample back. -/
theorem property_set_agrees {period : Nat} (positive : 1 ≤ period) (small : period ≤ maxPeriodFrames) : Agrees period := by
  have turning : ∀ device host session transfer memory events final, host.bufferFrames = period →
      session.buffers.Sized period transfer → run Duplex.step (.start device host session memory) events = some final →
      Turning host transfer final := by
    intro device host session transfer memory events final same sized ran
    subst same
    refine Reachable.invariant (Turning host transfer) ⟨events, ran⟩ ?_
      (Turning.start ⟨sized.periodFrames, sized.outputFrames⟩)
    exact fun before event after stepped turning => turning.step positive stepped
  constructor
  · exact fun _ _ _ _ _ done => read_inside done
  · exact fun _ _ _ _ failed => read_failed failed
  · intro reserve session request value same given few
    apply read_refused
    intro other wanted served
    cases served.asio
    have room := served.room
    rw [served.request] at given
    cases given
    rw [same] at room
    omega
  · intro reserve session value same room granted
    exact read_served ⟨rfl, rfl, same ▸ room, same ▸ small, granted⟩
  · intro reserve session words same counted granted
    have accepted : Accepted reserve (some session) ⟨some session.owner, some (joined (words.map frameBytes))⟩ session
        (joined (words.map frameBytes)) := by
      refine ⟨rfl, rfl, ?_, same ▸ small, same ▸ granted⟩
      rw [length_joined, List.length_map, counted, same]
    obtain ⟨after, result, queued, _⟩ := write_accepted accepted
    rw [writtenFrames_joined] at queued
    exact ⟨after, result, queued⟩
  · intro reserve session request value same given other
    apply write_refused
    intro another wanted accepted
    cases accepted.asio
    rw [accepted.request] at given
    cases given
    exact other (same ▸ accepted.exact)
  · intro device host session transfer memory events final same sized ran
    have holds := turning device host session transfer memory events final same sized ran
    exact ⟨holds.shown, holds.written⟩
  · intro device host session transfer first events final same sized ran k shown memory known left source target active
      used copied i frame answered inside found fits given
    have right := (turning device host session transfer first events final same sized ran).shown k shown known
    have seen := right.samples i frame (same ▸ inside) found source active
    rw [answer, List.getElem?_map, List.getElem?_range (same ▸ inside)] at given
    cases given
    rw [same] at seen
    have echoed : shiftDown (memory (.output target) (k % 2 * period + i)) = frame.get source := by
      rw [copied i inside, seen]
      exact shiftDown_shiftUp fits
    rw [← echoed, ← same]
    exact (Vector.getElem_ofFn _).trans (if_pos used)

/-- A session for periods of two frames, opened by handle 7. -/
def twoFrames : Except PropertyStatus Session := Session.new (fun _ => .ok ()) 7 .hz48000 2

/-- What a host that copies its input leaves: the same words in every channel. -/
def copied (frames : List Int) : Memory := fun _ place => shiftUp (frames.getD place 0)

def stereo : Host := ⟨2, Vector.replicate inputs true, Vector.replicate outputs true⟩

def firstCopy : List Event :=
  [.card #v[3, 3], .card #v[-5, -5], .card #v[8, 8], .wake, .read fun _ => true, .returns (copied [3, -5]), .write fun _ => true]

/-- The first half of an output is a copy of an input's. -/
def Echoed (source : Fin inputs) (target : Fin outputs) (shown : Shown) (memory : Memory) : Prop :=
  ∀ i < 2, memory (.output target) i = shown.memory (.input source) i

instance (source : Fin inputs) (target : Fin outputs) (shown : Shown) (memory : Memory) :
    Decidable (Echoed source target shown memory) := inferInstanceAs (Decidable (∀ _ < 2, _))

theorem property_set_agrees_copy :
    ∃ session final shown memory, twoFrames = .ok session ∧
      run Duplex.step (.start ⟨7⟩ stereo session (copied [])) firstCopy = some final ∧
      final.shown[0]? = some shown ∧ final.left[0]? = some memory ∧ final.written.length = 1 ∧
      ∀ answered, (answer stereo 0 memory)[1]? = some answered → answered[2] = -5 := by
  have passed : passes Duplex.step twoFrames (fun session => .start ⟨7⟩ stereo session (copied [])) firstCopy
      (fun (_ : Session) (final : Duplex) => decide (final.written.length = 1) && final.shown[0]?.any fun (shown : Shown) =>
        decide (shown.unread[1]? = some #v[-5, -5]) && final.left[0]?.any fun (memory : Memory) =>
          decide (Echoed 0 2 shown memory)) = true := by
    decide +kernel
  obtain ⟨session, final, made, ran, checked⟩ := exists_of_passes passed
  obtain ⟨one, rest⟩ := Bool.and_eq_true_iff.mp checked
  obtain ⟨shown, known, seen⟩ := (Option.any_eq_true _ _).mp rest
  obtain ⟨second, more⟩ := Bool.and_eq_true_iff.mp seen
  obtain ⟨memory, left, same⟩ := (Option.any_eq_true _ _).mp more
  have agrees := property_set_agrees (by decide : 1 ≤ 2) (by decide)
  refine ⟨session, final, shown, memory, made, ran, known, left, of_decide_eq_true one, ?_⟩
  intro answered given
  have copy : ∀ i < 2, memory (.output 2) (0 % 2 * 2 + i) = shown.memory (.input 0) (0 % 2 * 2 + i) := by
    intro i inside
    simpa only [Nat.zero_mod, Nat.zero_mul, Nat.zero_add] using of_decide_eq_true same i inside
  exact agrees.copies ⟨7⟩ stereo session _ _ _ final rfl (Session.new_sized made) ran 0 shown memory known left 0 2 (by decide)
    (by decide) copy 1 #v[-5, -5] answered (by decide) (of_decide_eq_true second) (by decide) given

end Ak1Driver.Duplex
