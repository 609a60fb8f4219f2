import Ak1Driver.Streaming
import Ak1Driver.Proofs.Conservation

/-! What a stall of the worker leaves behind. Unread input, queued output and
the period in the worker's hands are never less than the latency; once the
worker is prompt again only its first answer can push output out, and it cannot
remove what an incomplete period keeps in the input ring. -/

namespace Ak1Driver.Streaming
open Proto Lib.Transition Lib.Window

/-- Frames read whose answer is not written yet. -/
def held (period : Nat) (streaming : Streaming) : Nat := if streaming.phase = .answering then period else 0

/-- A prompt worker has answered every signal before the next card step. -/
def Prompt (streaming : Streaming) : Act → Prop
  | .card _ => streaming.phase = .waiting ∧ streaming.event = false
  | _ => True

/-- The read that ends the answer to a signal: it finds no period, and no
signal has arrived since the wake. -/
def Completes (period : Nat) (streaming : Streaming) : Act → Prop
  | .read => streaming.event = false ∧ streaming.exchange.unread.length < period
  | _ => False

instance (streaming : Streaming) (action : Act) : Decidable (Prompt streaming action) :=
  match action with
  | .card _ => inferInstanceAs (Decidable (_ ∧ _))
  | .wake | .read | .write _ => .isTrue trivial

instance (period : Nat) (streaming : Streaming) (action : Act) : Decidable (Completes period streaming action) :=
  match action with
  | .read => inferInstanceAs (Decidable (_ ∧ _))
  | .wake | .card _ | .write _ => .isFalse id

/-- Signals answered in full during a run. -/
def answers (period : Nat) : Streaming → List Act → Nat
  | _, [] => 0
  | streaming, action :: actions =>
    (if Completes period streaming action then 1 else 0) +
      match streaming.act action with
      | none => 0
      | some after => answers period after actions

/-- Every frame captured since `before` is played `latency` frames after its
capture: its rank among the frames read is the rank of its answer among those
written, and that answer is what the card plays then. -/
def Delayed (latency : Nat) (before after : Exchange) : Prop :=
  ∀ k, before.history.played.length + latency + k < after.history.played.length →
    before.handed.length + before.unread.length + k < after.written.length ∧
    after.handed[before.handed.length + before.unread.length + k]? =
      after.history.captured[before.history.captured.length + k]? ∧
    after.written[before.handed.length + before.unread.length + k]? =
      after.history.played[before.history.played.length + latency + k]?

/-- A worker that is prompt from `stalled` on has the latency back after its
second answer, at every card step and answer. -/
def Restored (period transfer : Nat) (stalled : Streaming) : Prop :=
  ∀ actions settled, Along act Prompt stalled actions → run act stalled actions = some settled →
    2 ≤ answers period stalled actions → settled.phase = .waiting →
    settled.exchange.unread.length + settled.exchange.queued.length = 2 * period + transfer ∧
    ∀ more later, Along act Prompt settled more → run act settled more = some later →
      Delayed (2 * period + transfer) settled.exchange later.exchange

/-- The state right after a card step that set the event, in some run. -/
def Signalled (buffers : Buffers) (stalled : Streaming) : Prop :=
  ∃ actions before frame, run act (start buffers) actions = some before ∧
    (before.exchange.card frame).1 = true ∧ stalled = before.card frame

variable {period transfer : Nat} {buffers : Buffers} {streaming after : Streaming} {action : Act}

/-- What holds in every state, however late the worker is. -/
structure Sound (period transfer : Nat) (streaming : Streaming) : Prop where
  sized : streaming.exchange.buffers.Sized period transfer
  within : streaming.exchange.buffers.captured < period
  level : 2 * period + transfer ≤ streaming.exchange.unread.length + streaming.exchange.queued.length + held period streaming
  paired : streaming.exchange.handed.length = streaming.exchange.written.length + held period streaming

private theorem card_levels (sized : streaming.exchange.buffers.Sized period transfer) (frame : Frame inputs) :
    (streaming.card frame).exchange.unread.length = min (4 * period + 2 * transfer) (streaming.exchange.unread.length + 1) ∧
      (streaming.card frame).exchange.queued.length = streaming.exchange.queued.length - 1 :=
  Exchange.card_levels sized frame

private theorem card_counts (sized : streaming.exchange.buffers.Sized period transfer) (frame : Frame inputs) :
    (streaming.exchange.buffers.captured + 1 < period ∧
      (streaming.card frame).exchange.buffers.captured = streaming.exchange.buffers.captured + 1 ∧
      (streaming.exchange.card frame).1 = false) ∨
    (period ≤ streaming.exchange.buffers.captured + 1 ∧
      (streaming.card frame).exchange.buffers.captured = 0 ∧ (streaming.exchange.card frame).1 = true) := by
  have counted : (streaming.card frame).exchange.buffers.captured = _ := Exchange.card_captured streaming.exchange frame
  have signal := Exchange.card_signals streaming.exchange frame
  rw [sized.periodFrames] at counted signal
  rcases Nat.lt_or_ge (streaming.exchange.buffers.captured + 1) period with counts | signals
  · exact .inl ⟨counts, by rw [counted, if_pos counts], by simp [signal, counts]⟩
  · exact .inr ⟨signals, by rw [counted, if_neg (by omega)], by simp [signal, signals]⟩

theorem act_sound (positive : 1 ≤ period) (acted : streaming.act action = some after)
    (kept : Sound period transfer streaming) : Sound period transfer after := by
  have level := kept.level
  have paired := kept.paired
  cases action with
  | card frame =>
    rw [act_card] at acted
    cases acted
    obtain ⟨input, output⟩ := card_levels kept.sized frame
    have same : held period (streaming.card frame) = held period streaming := rfl
    refine ⟨Exchange.card_sized kept.sized frame, ?_, by omega, paired⟩
    rcases card_counts kept.sized frame with ⟨counts, counted, _⟩ | ⟨_, zero, _⟩ <;> omega
  | wake =>
    rw [act_wake] at acted
    obtain ⟨waiting, _, rfl⟩ := wake_some acted
    simp only [held, waiting, reduceCtorEq, ↓reduceIte] at level paired
    exact ⟨kept.sized, kept.within, level, paired⟩
  | read =>
    rw [act_read] at acted
    obtain ⟨reading, found⟩ := read_some kept.sized positive acted
    simp only [held, reading, reduceCtorEq, ↓reduceIte] at level paired
    rcases found with ⟨_, rfl⟩ | ⟨complete, rfl⟩
    · exact ⟨kept.sized, kept.within, level, paired⟩
    · obtain ⟨input, output, counted, handed, written⟩ := Exchange.read_levels kept.sized positive complete
      refine ⟨Exchange.read_sized kept.sized, by rw [counted]; exact kept.within, ?_, ?_⟩
      · simp only [held, ↓reduceIte]
        rw [output]
        omega
      · simp only [held, ↓reduceIte]
        rw [written]
        omega
  | write answer =>
    rw [act_write] at acted
    obtain ⟨answering, exchange, accepted, rfl⟩ := write_some acted
    simp only [held, answering, ↓reduceIte] at level paired
    obtain ⟨input, output, counted, handed, written⟩ := Exchange.write_levels kept.sized accepted
    refine ⟨Exchange.write_sized kept.sized accepted, by rw [counted]; exact kept.within, ?_, ?_⟩
    · simp only [held, reduceCtorEq, ↓reduceIte]
      rw [input]
      omega
    · simp only [held, reduceCtorEq, ↓reduceIte]
      rw [handed]
      omega

theorem initial_sound (positive : 1 ≤ period) (fresh : buffers.Fresh period transfer) :
    Sound period transfer (start buffers) := by
  have input : (start buffers).exchange.unread = [] := fresh.unread
  have output : (start buffers).exchange.queued = List.replicate (2 * period + transfer) silence := fresh.queued
  refine ⟨fresh.toSized, ?_, by simp [input, output], rfl⟩
  change buffers.captured < period
  rw [fresh.captured]
  exact positive

/-- From a signal until it is answered. No card step intervenes, so neither
the incomplete period in the ring nor the output the answer ends with changes. -/
structure Answering (period transfer rest output : Nat) (streaming : Streaming) : Prop where
  sized : streaming.exchange.buffers.Sized period transfer
  signalled : streaming.exchange.buffers.captured = 0
  pending : streaming.phase = .waiting → streaming.event = true
  paired : streaming.exchange.handed.length = streaming.exchange.written.length + held period streaming
  rest : streaming.exchange.unread.length % period = rest
  output : min (2 * period + transfer) (streaming.exchange.queued.length + held period streaming +
    period * (streaming.exchange.unread.length / period)) = output

/-- Where a prompt worker can be after an answer that left `rest` frames unread,
with `total` frames unread, queued and in its hands. -/
structure Steady (period transfer rest total : Nat) (streaming : Streaming) : Prop where
  sized : streaming.exchange.buffers.Sized period transfer
  within : streaming.exchange.buffers.captured < period
  paired : streaming.exchange.handed.length = streaming.exchange.written.length + held period streaming
  level : streaming.exchange.unread.length + streaming.exchange.queued.length + held period streaming = total
  input : match streaming.phase, streaming.event with
    | .waiting, false => streaming.exchange.unread.length = rest + streaming.exchange.buffers.captured
    | .waiting, true => streaming.exchange.buffers.captured = 0 ∧ streaming.exchange.unread.length = rest + period
    | .reading, false => streaming.exchange.buffers.captured = 0 ∧
        (streaming.exchange.unread.length = rest + period ∨ streaming.exchange.unread.length = rest)
    | .answering, false => streaming.exchange.buffers.captured = 0 ∧ streaming.exchange.unread.length = rest
    | _, _ => False

variable {rest output total : Nat}

theorem act_answering (positive : 1 ≤ period) (prompt : Prompt streaming action) (acted : streaming.act action = some after)
    (kept : Answering period transfer rest output streaming) :
    (¬ Completes period streaming action → Answering period transfer rest output after) ∧
      (Completes period streaming action → Steady period transfer rest (rest + output) after) := by
  have paired := kept.paired
  have level := kept.output
  cases action with
  | card frame =>
    have pending := kept.pending prompt.1
    rw [prompt.2] at pending
    cases pending
  | wake =>
    rw [act_wake] at acted
    obtain ⟨waiting, _, rfl⟩ := wake_some acted
    simp only [held, waiting, reduceCtorEq, ↓reduceIte] at level paired
    refine ⟨fun _ => ⟨kept.sized, kept.signalled, fun waiting => (by cases waiting), paired, kept.rest, level⟩, fun completes => ?_⟩
    cases completes
  | read =>
    rw [act_read] at acted
    obtain ⟨reading, found⟩ := read_some kept.sized positive acted
    simp only [held, reading, reduceCtorEq, ↓reduceIte] at level paired
    rcases found with ⟨incomplete, rfl⟩ | ⟨complete, rfl⟩
    · constructor
      · intro unfinished
        refine ⟨kept.sized, kept.signalled, fun _ => ?_, paired, kept.rest, level⟩
        simpa [Completes, incomplete] using unfinished
      · intro completes
        have remaining := kept.rest
        have capacity := kept.sized.queued_le
        rw [Nat.mod_eq_of_lt incomplete] at remaining
        rw [Nat.div_eq_of_lt incomplete] at level
        refine ⟨kept.sized, by rw [kept.signalled]; exact positive, paired, ?_, ?_⟩
        · simp only [held, reduceCtorEq, ↓reduceIte]
          change streaming.exchange.queued.length ≤ _ at capacity
          omega
        · simp only [completes.1, kept.signalled]
          omega
    · obtain ⟨input, queued, counted, handed, written⟩ := Exchange.read_levels kept.sized positive complete
      have quotient : streaming.exchange.unread.length / period =
          (streaming.exchange.unread.length - period) / period + 1 := Nat.div_eq_sub_div positive complete
      refine ⟨fun _ => ⟨Exchange.read_sized kept.sized, counted.trans kept.signalled, fun waiting => (by cases waiting), ?_, ?_, ?_⟩,
        fun completes => ?_⟩
      · simp only [held, ↓reduceIte]
        rw [written]
        omega
      · rw [← kept.rest, input, ← Nat.mod_eq_sub_mod complete]
      · simp only [held, ↓reduceIte]
        rw [queued, input, ← level, quotient, Nat.mul_succ]
        omega
      · have incomplete := completes.2
        omega
  | write answer =>
    rw [act_write] at acted
    obtain ⟨answering, exchange, accepted, rfl⟩ := write_some acted
    simp only [held, answering, ↓reduceIte] at level paired
    obtain ⟨input, queued, counted, handed, written⟩ := Exchange.write_levels kept.sized accepted
    refine ⟨fun _ => ⟨Exchange.write_sized kept.sized accepted, counted.trans kept.signalled, fun waiting => (by cases waiting),
      ?_, ?_, ?_⟩, fun completes => ?_⟩
    · simp only [held, reduceCtorEq, ↓reduceIte]
      rw [handed]
      omega
    · rw [input]
      exact kept.rest
    · simp only [held, reduceCtorEq, ↓reduceIte]
      rw [input, queued, ← level]
      omega
    · cases completes

/-- Frames flow through without loss from `before` to `after`. -/
def Flows (before after : Exchange) : Prop :=
  ∃ captured handed played written, Exchange.Conserves before after captured handed played written

theorem Flows.trans {first second third : Exchange} (earlier : Flows first second) (later : Flows second third) :
    Flows first third := by
  obtain ⟨_, _, _, _, earlier⟩ := earlier
  obtain ⟨_, _, _, _, later⟩ := later
  exact ⟨_, _, _, _, earlier.trans later⟩

theorem Flows.refl (exchange : Exchange) : Flows exchange exchange := ⟨_, _, _, _, .refl exchange⟩

/-- A prompt worker loses nothing from its first answer on: the ring has room
for every write, and output to play at every card step. -/
theorem act_steady (positive : 1 ≤ period) (short : rest < period) (atLeast : 2 * period + transfer ≤ total)
    (atMost : total ≤ 2 * period + transfer + rest)
    (prompt : Prompt streaming action) (acted : streaming.act action = some after)
    (kept : Steady period transfer rest total streaming) :
    Steady period transfer rest total after ∧ Flows streaming.exchange after.exchange := by
  have paired := kept.paired
  have level := kept.level
  have input := kept.input
  cases action with
  | card frame =>
    rw [act_card] at acted
    cases acted
    obtain ⟨waiting, clear⟩ := prompt
    obtain ⟨unread, queued⟩ := card_levels kept.sized frame
    have within := kept.within
    simp only [waiting, clear, held, reduceCtorEq, ↓reduceIte] at input level paired
    have plays : streaming.exchange.queued ≠ [] := by
      intro empty
      rw [empty, List.length_nil] at level
      omega
    have nonempty := List.length_pos_of_ne_nil plays
    refine ⟨⟨Exchange.card_sized kept.sized frame, ?_, ?_, ?_, ?_⟩,
      ⟨_, _, _, _, Exchange.card_conserves kept.sized frame (by omega) plays⟩⟩
    · rcases card_counts kept.sized frame with ⟨counts, counted, _⟩ | ⟨_, zero, _⟩ <;> omega
    · simp only [held, card, waiting, reduceCtorEq, ↓reduceIte]
      exact paired
    · have same : held period (streaming.card frame) = 0 := by simp [held, card, waiting]
      omega
    · rcases card_counts kept.sized frame with ⟨counts, counted, silent⟩ | ⟨signals, zero, signal⟩
      · simp only [card, waiting, clear, silent, Bool.or_false] at counted unread ⊢
        omega
      · simp only [card, waiting, clear, signal, Bool.or_true] at zero unread ⊢
        omega
  | wake =>
    rw [act_wake] at acted
    obtain ⟨waiting, signalled, rfl⟩ := wake_some acted
    simp only [waiting, signalled, held, reduceCtorEq, ↓reduceIte] at input level paired
    exact ⟨⟨kept.sized, kept.within, paired, level, ⟨input.1, .inl input.2⟩⟩, .refl _⟩
  | read =>
    rw [act_read] at acted
    obtain ⟨reading, found⟩ := read_some kept.sized positive acted
    have clear : streaming.event = false := by
      cases event : streaming.event with
      | false => rfl
      | true => simp [reading, event] at input
    simp only [reading, clear, held, reduceCtorEq, ↓reduceIte] at input level paired
    rcases found with ⟨incomplete, rfl⟩ | ⟨complete, rfl⟩
    · refine ⟨⟨kept.sized, kept.within, paired, level, ?_⟩, .refl _⟩
      simp only [clear]
      omega
    · obtain ⟨unread, queued, counted, handed, written⟩ := Exchange.read_levels kept.sized positive complete
      refine ⟨⟨Exchange.read_sized kept.sized, by rw [counted]; exact kept.within, ?_, ?_, ?_⟩,
        ⟨_, _, _, _, Exchange.read_conserves kept.sized positive⟩⟩
      · simp only [held, ↓reduceIte]
        rw [written]
        omega
      · simp only [held, ↓reduceIte]
        rw [queued]
        omega
      · simp only [clear]
        omega
  | write answer =>
    rw [act_write] at acted
    obtain ⟨answering, exchange, accepted, rfl⟩ := write_some acted
    have clear : streaming.event = false := by
      cases event : streaming.event with
      | false => rfl
      | true => simp [answering, event] at input
    simp only [answering, clear, held, ↓reduceIte] at input level paired
    obtain ⟨unread, queued, counted, handed, written⟩ := Exchange.write_levels kept.sized accepted
    refine ⟨⟨Exchange.write_sized kept.sized accepted, by rw [counted]; exact kept.within, ?_, ?_, ?_⟩,
      ⟨_, _, _, _, Exchange.write_conserves kept.sized accepted (by omega)⟩⟩
    · simp only [held, reduceCtorEq, ↓reduceIte]
      rw [handed]
      omega
    · simp only [held, reduceCtorEq, ↓reduceIte]
      rw [unread]
      omega
    · simp only [clear]
      rw [unread]
      omega

/-- With nothing lost and every period answered, delay is level. -/
theorem Flows.delayed {before later : Exchange} (flows : Flows before later)
    (answered : before.handed.length = before.written.length) (covered : later.written.length ≤ later.handed.length) :
    Delayed (before.unread.length + before.queued.length) before later := by
  obtain ⟨captured, handed, rendered, written, conserved⟩ := flows
  have input := congrArg List.length conserved.input
  have output := congrArg List.length conserved.output
  simp only [List.length_append] at input output
  rw [conserved.nowWritten, conserved.nowHanded, List.length_append, List.length_append] at covered
  intro k played
  rw [conserved.nowPlayed, List.length_append] at played
  have ranked : ∀ index, index < handed.length → handed[index]? = (before.unread ++ captured)[index]? := by
    intro index inside
    rw [← conserved.input, List.getElem?_append_left inside]
  have plays : ∀ index, index < rendered.length → rendered[index]? = (before.queued ++ written)[index]? := by
    intro index inside
    rw [← conserved.output, List.getElem?_append_left inside]
  refine ⟨?_, ?_, ?_⟩
  · rw [conserved.nowWritten, List.length_append]
    omega
  · rw [conserved.nowHanded, conserved.nowCaptured, List.getElem?_append_right (by omega),
      List.getElem?_append_right (by omega), ranked _ (by omega), List.getElem?_append_right (by omega)]
    congr 1
    omega
  · rw [conserved.nowWritten, conserved.nowPlayed, List.getElem?_append_right (by omega),
      List.getElem?_append_right (by omega), plays _ (by omega), List.getElem?_append_right (by omega)]
    congr 1
    omega

theorem answers_append {first second : List Act} (ran : run act streaming first = some after) :
    answers period streaming (first ++ second) = answers period streaming first + answers period after second := by
  induction first generalizing streaming with
  | nil =>
    cases ran
    simp [answers]
  | cons action actions ih =>
    obtain ⟨middle, acted, rest⟩ := run_cons.mp ran
    simp only [List.cons_append, answers, acted, ih rest, Nat.add_assoc]

/-- A prompt run that answers at least `count` signals. -/
def Reaches (period count : Nat) (before after : Streaming) : Prop :=
  ∃ actions, Along act Prompt before actions ∧ run act before actions = some after ∧ count ≤ answers period before actions

theorem Reaches.trans {first second third : Streaming} {few more : Nat}
    (earlier : Reaches period few first second) (later : Reaches period more second third) :
    Reaches period (few + more) first third := by
  obtain ⟨actions, prompt, ran, answered⟩ := earlier
  obtain ⟨others, promptToo, ranOn, answeredToo⟩ := later
  refine ⟨actions ++ others, (along_append ran).mpr ⟨prompt, promptToo⟩, run_append.mpr ⟨second, ran, ranOn⟩, ?_⟩
  rw [answers_append ran]
  exact Nat.add_le_add answered answeredToo

theorem Reaches.act (prompt : Prompt streaming action) (acted : streaming.act action = some after) :
    Reaches period 0 streaming after := by
  refine ⟨[action], ⟨prompt, fun _ _ => trivial⟩, ?_, Nat.zero_le _⟩
  simp [run, acted]

theorem Reaches.weaken {few many : Nat} {before after : Streaming} (reached : Reaches period many before after)
    (fewer : few ≤ many) : Reaches period few before after := by
  obtain ⟨actions, prompt, ran, answered⟩ := reached
  exact ⟨actions, prompt, ran, Nat.le_trans fewer answered⟩

theorem Reaches.read (took : streaming.read = some after) : Reaches period 0 streaming after :=
  Reaches.act (show Prompt streaming .read from trivial) ((act_read streaming).trans took)

theorem Reaches.wake (woke : streaming.wake = some after) : Reaches period 0 streaming after :=
  Reaches.act (show Prompt streaming .wake from trivial) ((act_wake streaming).trans woke)

theorem Reaches.write {answer : List (Frame outputs)} (wrote : streaming.write answer = some after) :
    Reaches period 0 streaming after :=
  Reaches.act (show Prompt streaming (.write answer) from trivial) ((act_write streaming answer).trans wrote)

theorem Reaches.card (waiting : streaming.phase = .waiting) (clear : streaming.event = false) (frame : Frame inputs) :
    Reaches period 0 streaming (streaming.card frame) :=
  Reaches.act (show Prompt streaming (.card frame) from ⟨waiting, clear⟩) (act_card streaming frame)

theorem drain_finishes (positive : 1 ≤ period) (sized : streaming.exchange.buffers.Sized period transfer)
    (reading : streaming.phase = .reading) :
    ∃ after, Reaches period (if streaming.event = false then 1 else 0) streaming after ∧
      after.exchange.buffers.Sized period transfer ∧ after.phase = .waiting ∧ after.event = streaming.event := by
  generalize size : streaming.exchange.unread.length = unread
  induction unread using Nat.strongRecOn generalizing streaming with
  | ind unread ih =>
    obtain ⟨taken, took⟩ : ∃ taken, streaming.read = some taken := ⟨_, if_pos reading⟩
    obtain ⟨_, found⟩ := read_some sized positive took
    rcases found with ⟨incomplete, rfl⟩ | ⟨complete, rfl⟩
    · refine ⟨{ streaming with phase := .waiting }, ⟨[.read], ⟨trivial, fun _ _ => trivial⟩, ?_, ?_⟩, sized, rfl, rfl⟩
      · simp [run, took]
      · simp only [answers, Completes, incomplete, and_true]
        omega
    · obtain ⟨left, _, _, _, _⟩ := Exchange.read_levels sized positive complete
      have readSized := Exchange.read_sized sized
      obtain ⟨exchange, accepted⟩ : ∃ exchange,
          streaming.exchange.read.2.write (List.replicate period silence) = some exchange :=
        Exchange.write_ok (by rw [List.length_replicate, readSized.periodFrames])
      obtain ⟨_, _, same, _⟩ := Exchange.write_some readSized accepted
      let next : Streaming := ⟨exchange, streaming.event, .reading⟩
      have wrote : Streaming.write ⟨streaming.exchange.read.2, streaming.event, .answering⟩
          (List.replicate period silence) = some next := by
        simp [Streaming.write, accepted, next]
      have shorter : next.exchange.unread.length = streaming.exchange.unread.length - period := by
        rw [← left]
        simp only [next, Exchange.unread, Buffers.unread]
        rw [same]
      obtain ⟨final, reached, finalSized, waiting, event⟩ :=
        ih (streaming.exchange.unread.length - period) (by omega)
          (show next.exchange.buffers.Sized period transfer from Exchange.write_sized readSized accepted) rfl shorter
      exact ⟨final, (((Reaches.read took).trans (Reaches.write wrote)).trans reached).weaken (by simp [next]),
        finalSized, waiting, event⟩

theorem answer_finishes (positive : 1 ≤ period) (sized : streaming.exchange.buffers.Sized period transfer)
    (pending : streaming.phase = .waiting → streaming.event = true) :
    ∃ after, Reaches period 1 streaming after ∧ after.phase = .waiting ∧ after.event = false := by
  have fromWait : ∀ waiting : Streaming, waiting.exchange.buffers.Sized period transfer → waiting.phase = .waiting →
      waiting.event = true → ∃ after, Reaches period 1 waiting after ∧ after.phase = .waiting ∧ after.event = false := by
    intro waiting sized phase signalled
    have woke : waiting.wake = some ⟨waiting.exchange, false, .reading⟩ := by
      simp [wake, phase, signalled]
    obtain ⟨after, reached, _, done, clear⟩ := drain_finishes positive
      (show Buffers.Sized period transfer (Streaming.exchange ⟨waiting.exchange, false, .reading⟩).buffers from sized) rfl
    exact ⟨after, ((Reaches.wake woke).trans reached).weaken (by simp), done, clear⟩
  have fromRead : ∀ reading : Streaming, reading.exchange.buffers.Sized period transfer → reading.phase = .reading →
      ∃ after, Reaches period 1 reading after ∧ after.phase = .waiting ∧ after.event = false := by
    intro reading sized phase
    obtain ⟨drained, reached, drainedSized, waiting, event⟩ := drain_finishes positive sized phase
    cases clear : reading.event with
    | false => exact ⟨drained, reached.weaken (by simp [clear]), waiting, event.trans clear⟩
    | true =>
      obtain ⟨after, answered, done, clear⟩ := fromWait drained drainedSized waiting (event.trans clear)
      exact ⟨after, (reached.trans answered).weaken (Nat.le_add_left _ _), done, clear⟩
  cases phase : streaming.phase with
  | waiting => exact fromWait streaming sized phase (pending phase)
  | reading => exact fromRead streaming sized phase
  | answering =>
    obtain ⟨exchange, accepted⟩ : ∃ exchange,
        streaming.exchange.write (List.replicate period silence) = some exchange :=
      Exchange.write_ok (by rw [List.length_replicate, sized.periodFrames])
    have wrote : streaming.write (List.replicate period silence) = some ⟨exchange, streaming.event, .reading⟩ := by
      simp [write, phase, accepted]
    obtain ⟨after, answered, done, clear⟩ := fromRead ⟨exchange, streaming.event, .reading⟩
      (Exchange.write_sized sized accepted) rfl
    exact ⟨after, ((Reaches.write wrote).trans answered).weaken (Nat.le_add_left _ _), done, clear⟩

theorem card_signals_again (sized : streaming.exchange.buffers.Sized period transfer)
    (waiting : streaming.phase = .waiting) (clear : streaming.event = false)
    (missing : Nat) (counts : streaming.exchange.buffers.captured + 1 + missing = period) :
    ∃ after, Reaches period 0 streaming after ∧ after.exchange.buffers.Sized period transfer ∧
      after.phase = .waiting ∧ after.event = true := by
  induction missing generalizing streaming with
  | zero =>
    rcases card_counts sized silence with ⟨more, _, _⟩ | ⟨_, _, signal⟩
    · omega
    · exact ⟨_, Reaches.card waiting clear silence, Exchange.card_sized sized silence, waiting, by simp [card, signal]⟩
  | succ missing ih =>
    rcases card_counts sized silence with ⟨_, counted, silent⟩ | ⟨signals, _, _⟩
    · have stillClear : (streaming.card silence).event = false := by simp [card, clear, silent]
      obtain ⟨after, reached, rest⟩ := ih (Exchange.card_sized sized silence)
        (show (streaming.card silence).phase = .waiting from waiting) stillClear (by omega)
      exact ⟨after, (Reaches.card waiting clear silence).trans reached, rest⟩
    · omega

theorem run_steady (positive : 1 ≤ period) (short : rest < period) (atLeast : 2 * period + transfer ≤ total)
    (atMost : total ≤ 2 * period + transfer + rest) {actions : List Act} (prompt : Along act Prompt streaming actions)
    (ran : run act streaming actions = some after) (kept : Steady period transfer rest total streaming) :
    Steady period transfer rest total after ∧ Flows streaming.exchange after.exchange := by
  refine run_invariant (fun later => Steady period transfer rest total later ∧ Flows streaming.exchange later.exchange)
    ?_ prompt ran ⟨kept, .refl _⟩
  intro before action later prompt acted ⟨steady, flows⟩
  obtain ⟨steadyLater, flowsLater⟩ := act_steady positive short atLeast atMost prompt acted steady
  exact ⟨steadyLater, flows.trans flowsLater⟩

theorem run_answering (positive : 1 ≤ period) (short : rest < period) (atLeast : 2 * period + transfer ≤ rest + output)
    (atMost : output ≤ 2 * period + transfer) {actions : List Act} (prompt : Along act Prompt streaming actions)
    (ran : run act streaming actions = some after) (answered : 1 ≤ answers period streaming actions)
    (kept : Answering period transfer rest output streaming) :
    Steady period transfer rest (rest + output) after := by
  induction actions generalizing streaming with
  | nil => simp [answers] at answered
  | cons action actions ih =>
    obtain ⟨middle, acted, ranOn⟩ := run_cons.mp ran
    obtain ⟨unfinished, finished⟩ := act_answering positive prompt.1 acted kept
    simp only [answers, acted] at answered
    by_cases completes : Completes period streaming action
    · exact (run_steady positive short atLeast (by omega) (prompt.2 middle acted) ranOn (finished completes)).1
    · rw [if_neg completes, Nat.zero_add] at answered
      exact ih (prompt.2 middle acted) ranOn answered (unfinished completes)

/-- The exact condition for a prompt worker to get the latency back. -/
def Recoverable (period transfer : Nat) (stalled : Streaming) : Prop :=
  stalled.exchange.unread.length % period = 0 ∨
    stalled.exchange.unread.length + stalled.exchange.queued.length + held period stalled = 2 * period + transfer

instance (period transfer : Nat) (stalled : Streaming) : Decidable (Recoverable period transfer stalled) :=
  inferInstanceAs (Decidable (_ ∨ _))

theorem restored_iff (positive : 1 ≤ period) {stalled : Streaming} (sound : Sound period transfer stalled)
    (signalled : stalled.event = true) (counted : stalled.exchange.buffers.captured = 0) :
    Restored period transfer stalled ↔ Recoverable period transfer stalled := by
  unfold Recoverable
  generalize remaining : stalled.exchange.unread.length % period = rest
  generalize ends : min (2 * period + transfer) (stalled.exchange.queued.length + held period stalled +
    period * (stalled.exchange.unread.length / period)) = output
  have answering : Answering period transfer rest output stalled :=
    ⟨sound.sized, counted, fun _ => signalled, sound.paired, remaining, ends⟩
  have short : rest < period := remaining ▸ Nat.mod_lt _ positive
  have level := sound.level
  have whole := Nat.mod_add_div stalled.exchange.unread.length period
  rw [remaining] at whole
  have atLeast : 2 * period + transfer ≤ rest + output := by omega
  have atMost : output ≤ 2 * period + transfer := by omega
  have exactly : rest + output = 2 * period + transfer ↔ rest = 0 ∨
      stalled.exchange.unread.length + stalled.exchange.queued.length + held period stalled = 2 * period + transfer := by
    omega
  rw [← exactly]
  constructor
  · intro restored
    obtain ⟨first, reached, waiting, clear⟩ := answer_finishes positive sound.sized (fun _ => signalled)
    obtain ⟨actions, prompt, ran, answered⟩ := reached
    have steady := run_answering positive short atLeast atMost prompt ran answered answering
    have within := steady.within
    obtain ⟨again, signal, againSized, waitingAgain, signalledAgain⟩ :=
      card_signals_again steady.sized waiting clear (period - 1 - first.exchange.buffers.captured) (by omega)
    obtain ⟨second, reachedAgain, done, _⟩ := answer_finishes positive againSized (fun _ => signalledAgain)
    obtain ⟨others, promptOn, ranOn, answeredOn⟩ := signal.trans reachedAgain
    have steadyOn := (run_steady positive short atLeast (by omega) promptOn ranOn steady).1
    have latency := (restored (actions ++ others) second ((along_append ran).mpr ⟨prompt, promptOn⟩)
      (run_append.mpr ⟨first, ran, ranOn⟩) (by rw [answers_append ran]; omega) done).1
    have total := steadyOn.level
    simp only [held, done, reduceCtorEq, ↓reduceIte] at total
    omega
  · intro latency actions settled prompt ran answered waiting
    have steady := run_answering positive short atLeast atMost prompt ran (by omega) answering
    have total := steady.level
    have paired := steady.paired
    simp only [held, waiting, reduceCtorEq, ↓reduceIte, Nat.add_zero] at total paired
    refine ⟨total.trans latency, ?_⟩
    intro more later promptOn ranOn
    obtain ⟨steadyOn, flows⟩ := run_steady positive short atLeast (by omega) promptOn ranOn steady
    have covered := steadyOn.paired
    rw [← latency, ← total]
    exact flows.delayed paired (by omega)

theorem Signalled.sound (positive : 1 ≤ period) (fresh : buffers.Fresh period transfer) {stalled : Streaming}
    (signalled : Signalled buffers stalled) :
    Sound period transfer stalled ∧ stalled.event = true ∧ stalled.exchange.buffers.captured = 0 := by
  obtain ⟨actions, before, frame, ran, signal, rfl⟩ := signalled
  have kept : Sound period transfer before := Reachable.invariant (Sound period transfer) ⟨actions, ran⟩
    (fun _ _ _ acted kept => act_sound positive acted kept) (initial_sound positive fresh)
  refine ⟨act_sound positive (act_card before frame) kept, by simp [card, signal], ?_⟩
  rcases card_counts kept.sized frame with ⟨_, _, silent⟩ | ⟨_, zero, _⟩
  · rw [signal] at silent
    cases silent
  · exact zero

/-- A worker that sleeps through fifteen frames with periods of three and a
transfer of one is two frames late for good. -/
theorem latency_lost_after_drop :
    ¬ ∀ (period transfer : Nat) (buffers : Buffers) (stalled : Streaming), 1 ≤ period →
      Buffers.new (fun _ => .ok ()) period transfer = .ok buffers → Signalled buffers stalled →
      Restored period transfer stalled := by
  intro claim
  have sleeps : passes act (Buffers.new (fun _ => .ok ()) 3 1) start (List.replicate 14 (.card silence))
      (fun _ before => (before.exchange.card silence).1 && !decide (Recoverable 3 1 (before.card silence))) = true := by
    decide +kernel
  obtain ⟨buffers, before, created, ran, checked⟩ := exists_of_passes sleeps
  rw [Bool.and_eq_true, Bool.not_eq_true', decide_eq_false_iff_not] at checked
  have signalled : Signalled buffers (before.card silence) := ⟨_, before, silence, ran, checked.1, rfl⟩
  obtain ⟨sound, event, counted⟩ := signalled.sound (by decide) (Buffers.new_fresh created)
  exact checked.2 ((restored_iff (by decide) sound event counted).mp
    (claim 3 1 buffers (before.card silence) (by decide) created signalled))

/-- Whatever the stall, prompt answers restore the latency exactly if at the
signal they start from the unread input is a whole number of periods, or no
latency has been gained. -/
theorem latency_restored_iff {reserve : Nat → Except TryReserveError Unit} (positive : 1 ≤ period)
    (created : Buffers.new reserve period transfer = .ok buffers) {stalled : Streaming}
    (signalled : Signalled buffers stalled) :
    Restored period transfer stalled ↔ Recoverable period transfer stalled := by
  obtain ⟨sound, event, counted⟩ := signalled.sound positive (Buffers.new_fresh created)
  exact restored_iff positive sound event counted

/-- The same worker recovers from sleeping through nine frames, which drops none. -/
theorem latency_restored_iff_without_drop :
    ∃ buffers stalled, Buffers.new (fun _ => .ok ()) 3 1 = .ok buffers ∧ Signalled buffers stalled ∧
      stalled.exchange.buffers.silentFrames = 2 ∧ Restored 3 1 stalled := by
  have sleeps : passes act (Buffers.new (fun _ => .ok ()) 3 1) start (List.replicate 8 (.card silence))
      (fun _ before => (before.exchange.card silence).1 && decide ((before.card silence).exchange.buffers.silentFrames = 2 ∧
        Recoverable 3 1 (before.card silence))) = true := by
    decide +kernel
  obtain ⟨buffers, before, created, ran, checked⟩ := exists_of_passes sleeps
  rw [Bool.and_eq_true, decide_eq_true_eq] at checked
  have signalled : Signalled buffers (before.card silence) := ⟨_, before, silence, ran, checked.1, rfl⟩
  exact ⟨buffers, before.card silence, created, signalled, checked.2.1,
    (latency_restored_iff (by decide) created signalled).mpr checked.2.2⟩

end Ak1Driver.Streaming
