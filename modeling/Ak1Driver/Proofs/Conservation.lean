import Ak1Driver.Exchange

/-! Frames are conserved between two moments of a session if the input ring
drops none, the output ring pushes none out and no silence is inserted. The
frames that wait at the first moment then come before those that arrive. -/

namespace Ak1Driver.Exchange
open Proto Lib.Window

/-- Between `before` and `after` the given frames were captured, handed over,
played and written, and every frame is accounted for. -/
structure Conserves (before after : Exchange) (captured handed : List (Frame inputs))
    (played written : List (Frame outputs)) : Prop where
  nowCaptured : after.history.captured = before.history.captured ++ captured
  nowHanded : after.handed = before.handed ++ handed
  nowPlayed : after.history.played = before.history.played ++ played
  nowWritten : after.written = before.written ++ written
  input : handed ++ after.unread = before.unread ++ captured
  output : played ++ after.queued = before.queued ++ written

theorem Conserves.refl (exchange : Exchange) : Conserves exchange exchange [] [] [] [] := by
  constructor <;> simp

theorem Conserves.trans {first second third : Exchange}
    {captured₁ handed₁ captured₂ handed₂ : List (Frame inputs)} {played₁ written₁ played₂ written₂ : List (Frame outputs)}
    (earlier : Conserves first second captured₁ handed₁ played₁ written₁)
    (later : Conserves second third captured₂ handed₂ played₂ written₂) :
    Conserves first third (captured₁ ++ captured₂) (handed₁ ++ handed₂) (played₁ ++ played₂) (written₁ ++ written₂) := by
  constructor
  · rw [later.nowCaptured, earlier.nowCaptured, List.append_assoc]
  · rw [later.nowHanded, earlier.nowHanded, List.append_assoc]
  · rw [later.nowPlayed, earlier.nowPlayed, List.append_assoc]
  · rw [later.nowWritten, earlier.nowWritten, List.append_assoc]
  · rw [List.append_assoc, later.input, ← List.append_assoc, earlier.input, List.append_assoc]
  · rw [List.append_assoc, later.output, ← List.append_assoc, earlier.output, List.append_assoc]

variable {period transfer : Nat} {exchange : Exchange}

theorem card_levels (sized : exchange.buffers.Sized period transfer) (frame : Frame inputs) :
    (exchange.card frame).2.unread.length = min (4 * period + 2 * transfer) (exchange.unread.length + 1) ∧
      (exchange.card frame).2.queued.length = exchange.queued.length - 1 := by
  constructor
  · rw [card_unread, sized.inputFrames, length_rtake, List.length_append, List.length_singleton]
  · rw [card_queued, List.length_tail]

theorem read_levels (sized : exchange.buffers.Sized period transfer) (positive : 1 ≤ period)
    (complete : period ≤ exchange.unread.length) :
    exchange.read.2.unread.length = exchange.unread.length - period ∧
      exchange.read.2.queued = exchange.queued ∧
      exchange.read.2.buffers.captured = exchange.buffers.captured ∧
      exchange.read.2.handed.length = exchange.handed.length + period ∧
      exchange.read.2.written = exchange.written := by
  rcases read_cases sized positive with ⟨incomplete, _⟩ | ⟨_, _, left, same, logged⟩
  · omega
  · refine ⟨by rw [left, List.length_drop], ?_, by rw [same], ?_, ?_⟩
    · simp only [queued, Buffers.queued]
      rw [same]
    · simp only [handed, logged, List.flatten_append, List.length_append, List.flatten_singleton, List.length_take]
      omega
    · simp only [written, logged]

theorem write_levels {answer : List (Frame outputs)} {after : Exchange}
    (sized : exchange.buffers.Sized period transfer) (wrote : exchange.write answer = some after) :
    after.unread = exchange.unread ∧
      after.queued.length = min (2 * period + transfer) (exchange.queued.length + period) ∧
      after.buffers.captured = exchange.buffers.captured ∧
      after.handed = exchange.handed ∧
      after.written.length = exchange.written.length + period := by
  obtain ⟨exact, held, same, logged⟩ := write_some sized wrote
  refine ⟨?_, by rw [held, length_rtake, List.length_append, exact], by rw [same], ?_, ?_⟩
  · simp only [unread, Buffers.unread]
    rw [same]
  · simp only [handed, logged]
  · simp [written, logged, exact]

theorem card_conserves (sized : exchange.buffers.Sized period transfer) (frame : Frame inputs)
    (room : exchange.unread.length < 4 * period + 2 * transfer) (plays : exchange.queued ≠ []) :
    Conserves exchange (exchange.card frame).2 [frame] [] [exchange.queued.headD silence] [] := by
  have kept : (exchange.card frame).2.unread = exchange.unread ++ [frame] := by
    rw [card_unread, sized.inputFrames, rtake_of_fits]
    simpa using Nat.succ_le_of_lt room
  constructor
  · rw [card_history]
  · simp
  · rw [card_history]
  · simp
  · simp [kept]
  · rw [card_queued, List.append_nil]
    cases holds : exchange.queued with
    | nil => exact absurd holds plays
    | cons first rest => rfl

theorem read_conserves (sized : exchange.buffers.Sized period transfer) (positive : 1 ≤ period) :
    Conserves exchange exchange.read.2 [] (exchange.unread.take exchange.read.1) [] [] := by
  rcases read_cases sized positive with ⟨_, nothing⟩ | ⟨_, count, left, kept, logged⟩
  · rw [nothing]
    exact .refl exchange
  · constructor
    · simp [logged]
    · simp [handed, logged, count]
    · simp [logged]
    · simp [written, logged]
    · rw [left, count, List.take_append_drop, List.append_nil]
    · simp only [List.nil_append, List.append_nil, queued, Buffers.queued]
      rw [kept]

theorem write_conserves {answer : List (Frame outputs)} {after : Exchange}
    (sized : exchange.buffers.Sized period transfer) (wrote : exchange.write answer = some after)
    (room : exchange.queued.length + period ≤ 2 * period + transfer) :
    Conserves exchange after [] [] [] answer := by
  obtain ⟨exact, held, kept, logged⟩ := write_some sized wrote
  rw [rtake_of_fits (by simpa [exact] using room)] at held
  constructor
  · simp [logged]
  · simp [handed, logged]
  · simp [logged]
  · simp [written, logged]
  · simp only [List.nil_append, List.append_nil, unread, Buffers.unread]
    rw [kept]
  · simpa using held

theorem read_sized (sized : exchange.buffers.Sized period transfer) : exchange.read.2.buffers.Sized period transfer := by
  have kept := sized.read (List.replicate exchange.buffers.period silence)
  simp only [read]
  split <;> exact kept

theorem write_sized {answer : List (Frame outputs)} {after : Exchange}
    (sized : exchange.buffers.Sized period transfer) (wrote : exchange.write answer = some after) :
    after.buffers.Sized period transfer := by
  have kept := sized.write answer
  simp only [write] at wrote
  split at wrote
  · cases wrote
    exact kept
  · cases wrote

end Ak1Driver.Exchange
