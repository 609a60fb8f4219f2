import Ak1Driver.Lib.Ledger
import Ak1Driver.Lib.Machine
import Ak1Driver.Proto.Buffers

/-! What a session's buffers are for: two bounded lists of frames, one on its
way to the host and one on its way to the card, with an account of every frame
that left them. The rings are shown to behave as these lists do under any
sequence of calls. -/

namespace Ak1Driver
open Proto Lib Lib.Machine

inductive Request where
  | capture (frame : Frame inputs)
  | render
  | read (into : List (Frame inputs))
  | write (frames : List (Frame outputs))

inductive Reply where
  | captured (completed : Bool)
  | rendered (frame : Frame outputs)
  /-- The answer to a read, and what the slice it was given holds then. -/
  | read (count : Option Nat) (into : List (Frame inputs))
  | wrote (accepted : Bool)
  deriving DecidableEq

namespace Proto.Buffers

def answer (buffers : Buffers) : Request → Reply × Buffers
  | .capture frame =>
    let (completed, buffers) := buffers.capture frame
    (.captured completed, buffers)
  | .render =>
    let (frame, buffers) := buffers.render
    (.rendered frame, buffers)
  | .read into =>
    let (count, into, buffers) := buffers.read into
    (.read count into, buffers)
  | .write frames =>
    let (accepted, buffers) := buffers.write frames
    (.wrote accepted, buffers)

theorem read_short {buffers : Buffers} {into : List (Frame inputs)} (short : into.length < buffers.period) :
    buffers.read into = (none, into, buffers) := by
  simp [read, short]

end Proto.Buffers

structure Lists where
  input : Ledger (Frame inputs)
  output : Ledger (Frame outputs)
  /-- What was played: a frame of the list, or silence because it was empty. -/
  played : List (Option (Frame outputs))

namespace Lists

def start (period transfer : Nat) : Lists where
  input := { waiting := [] }
  output := { waiting := List.replicate (2 * period + transfer) silence }
  played := []

/-- Every period-th captured frame completes a period. -/
def capture (period transfer : Nat) (lists : Lists) (frame : Frame inputs) : Bool × Lists :=
  (decide (period ∣ lists.input.arrived.length + 1),
    { lists with input := lists.input.arrive (4 * period + 2 * transfer) frame })

def render (lists : Lists) : Frame outputs × Lists :=
  match lists.output.waiting with
  | [] => (silence, { lists with played := lists.played ++ [none] })
  | frame :: _ => (frame, { lists with output := lists.output.serve 1, played := lists.played ++ [some frame] })

def read (period : Nat) (lists : Lists) (into : List (Frame inputs)) : Option Nat × List (Frame inputs) × Lists :=
  if into.length < period then (none, into, lists)
  else if lists.input.waiting.length < period then (some 0, into, lists)
  else (some period, lists.input.waiting.take period ++ into.drop period, { lists with input := lists.input.serve period })

def write (period transfer : Nat) (lists : Lists) (frames : List (Frame outputs)) : Bool × Lists :=
  if frames.length = period then (true, { lists with output := lists.output.arriveAll (2 * period + transfer) frames })
  else (false, lists)

def answer (period transfer : Nat) (lists : Lists) : Request → Reply × Lists
  | .capture frame =>
    let (completed, lists) := lists.capture period transfer frame
    (.captured completed, lists)
  | .render =>
    let (frame, lists) := lists.render
    (.rendered frame, lists)
  | .read into =>
    let (count, into, lists) := lists.read period into
    (.read count into, lists)
  | .write frames =>
    let (accepted, lists) := lists.write period transfer frames
    (.wrote accepted, lists)

/-- Frames of silence played because the host was late. -/
def late (lists : Lists) : Nat := lists.played.count none

/-- Captured frames dropped because they were not read in time. -/
def unreadInTime (lists : Lists) : List (Frame inputs) := lists.input.withFate .lost

end Lists

/-- The lists a session's buffers stand for; its statistics saturate. -/
structure Represents (period transfer : Nat) (buffers : Buffers) (lists : Lists) : Prop where
  sized : buffers.Sized period transfer
  unread : lists.input.waiting = buffers.unread
  queued : lists.output.waiting = buffers.queued
  captured : buffers.captured = lists.input.arrived.length % period
  silent : buffers.silentFrames = min lists.late maxU32
  dropped : buffers.droppedFrames = min lists.unreadInTime.length maxU32

theorem mod_succ_of_pos {period : Nat} (positive : 0 < period) (count : Nat) :
    (count + 1) % period = if count % period + 1 < period then count % period + 1 else 0 := by
  have within := Nat.mod_lt count positive
  rw [← Nat.mod_add_mod]
  split
  case isTrue short => exact Nat.mod_eq_of_lt short
  case isFalse full =>
    have last : count % period + 1 = period := by omega
    rw [last, Nat.mod_self]

theorem saturatingAdd_min (count : Nat) : saturatingAdd (min count maxU32) 1 = min (count + 1) maxU32 := by
  simp only [saturatingAdd]
  omega

namespace Represents
variable {period transfer : Nat} {buffers : Buffers} {lists : Lists}

theorem unread_bounded (same : Represents period transfer buffers lists) :
    lists.input.waiting.length ≤ 4 * period + 2 * transfer := by
  rw [same.unread, ← same.sized.inputFrames]
  exact buffers.input.length_le

theorem queued_bounded (same : Represents period transfer buffers lists) :
    lists.output.waiting.length ≤ 2 * period + transfer := by
  rw [same.queued]
  exact same.sized.queued_le

theorem start (fresh : buffers.Fresh period transfer) : Represents period transfer buffers (Lists.start period transfer) where
  sized := fresh.toSized
  unread := fresh.unread.symm
  queued := fresh.queued.symm
  captured := by simp [fresh.captured, Lists.start, Ledger.arrived]
  silent := by simp [fresh.silent, Lists.start, Lists.late]
  dropped := by simp [fresh.dropped, Lists.start, Lists.unreadInTime, Ledger.withFate]

theorem capture (positive : 1 ≤ period) (same : Represents period transfer buffers lists) (frame : Frame inputs) :
    (buffers.capture frame).1 = (lists.capture period transfer frame).1 ∧
      Represents period transfer (buffers.capture frame).2 (lists.capture period transfer frame).2 := by
  have room : 0 < 4 * period + 2 * transfer := by omega
  have next := mod_succ_of_pos positive lists.input.arrived.length
  refine ⟨?_, same.sized.capture frame, ?_, ?_, ?_, ?_, ?_⟩
  · rw [Buffers.capture_signals, same.sized.periodFrames, same.captured]
    apply decide_eq_decide.mpr
    rw [Nat.dvd_iff_mod_eq_zero, next]
    split <;> omega
  · simp only [Lists.capture]
    rw [Ledger.arrive_waiting room same.unread_bounded, Buffers.capture_unread, same.unread, same.sized.inputFrames]
  · rw [Buffers.capture_queued]
    exact same.queued
  · rw [Buffers.capture_captured, same.sized.periodFrames, same.captured]
    simp only [Lists.capture, Ledger.arrive_arrived, List.length_append, List.length_singleton]
    exact next.symm
  · rw [Buffers.capture_silent]
    exact same.silent
  · simp only [Lists.capture, Lists.unreadInTime]
    rw [Buffers.capture_dropped, Ledger.arrive_lost room, same.unread, same.sized.inputFrames, same.dropped]
    split
    case isTrue full =>
      have oldest : (buffers.unread.take 1).length = 1 := by
        rw [List.length_take, full]
        omega
      rw [List.length_append, oldest, saturatingAdd_min, Lists.unreadInTime]
    case isFalse => rw [List.append_nil, Lists.unreadInTime]

theorem render (same : Represents period transfer buffers lists) :
    buffers.render.1 = lists.render.1 ∧ Represents period transfer buffers.render.2 lists.render.2 := by
  have queued := same.queued
  rcases Buffers.render_cases buffers with ⟨empty, played, after⟩ | ⟨frame, rest, holds, played, left, after⟩
  · rw [empty] at queued
    simp only [Lists.render, queued]
    refine ⟨played, same.sized.render, ?_, ?_, ?_, ?_, ?_⟩ <;> rw [after]
    · exact same.unread
    · exact queued.trans empty.symm
    · exact same.captured
    · rw [same.silent, saturatingAdd_min, Lists.late, Lists.late, List.count_append]
      rfl
    · exact same.dropped
  · rw [holds] at queued
    simp only [Lists.render, queued]
    refine ⟨played, same.sized.render, ?_, ?_, ?_, ?_, ?_⟩
    · rw [Buffers.render_unread]
      exact same.unread
    · rw [left, Ledger.serve, queued]
      rfl
    · rw [after]
      exact same.captured
    · rw [after, Lists.late, List.count_append]
      exact same.silent
    · rw [after]
      exact same.dropped

theorem read (same : Represents period transfer buffers lists) (into : List (Frame inputs)) :
    (buffers.read into).1 = (lists.read period into).1 ∧
      (buffers.read into).2.1 = (lists.read period into).2.1 ∧
      Represents period transfer (buffers.read into).2.2 (lists.read period into).2.2 := by
  have length := same.sized.periodFrames
  have unread := same.unread
  by_cases short : into.length < period
  · rw [Buffers.read_short (length.symm ▸ short)]
    simp only [Lists.read, short, ↓reduceIte]
    exact ⟨trivial, trivial, same⟩
  · have fits : buffers.period ≤ into.length := by omega
    by_cases incomplete : buffers.unread.length < period
    · rw [Buffers.read_incomplete fits (length.symm ▸ incomplete)]
      simp only [Lists.read, short, unread, incomplete, ↓reduceIte]
      exact ⟨trivial, trivial, same⟩
    · obtain ⟨count, filled, left, kept⟩ := Buffers.read_complete fits (by omega : buffers.period ≤ buffers.unread.length)
      simp only [Lists.read, short, unread, incomplete, ↓reduceIte]
      refine ⟨count.trans (congrArg some length), ?_, same.sized.read into, ?_, ?_, ?_, ?_, ?_⟩
      · rw [filled, length]
      · rw [left, length]
        simp only [Ledger.serve, unread]
      · rw [kept]
        exact same.queued
      · rw [kept, Ledger.serve_arrived]
        exact same.captured
      · rw [Buffers.read_silent]
        exact same.silent
      · rw [kept, Lists.unreadInTime, Ledger.serve_lost]
        exact same.dropped

theorem write (positive : 1 ≤ period) (same : Represents period transfer buffers lists) (frames : List (Frame outputs)) :
    (buffers.write frames).1 = (lists.write period transfer frames).1 ∧
      Represents period transfer (buffers.write frames).2 (lists.write period transfer frames).2 := by
  have length := same.sized.periodFrames
  have room : 0 < 2 * period + transfer := by omega
  by_cases exact : frames.length = period
  · obtain ⟨accepted, held, kept⟩ := Buffers.write_period (exact.trans length.symm)
    simp only [Lists.write, exact, ↓reduceIte]
    refine ⟨accepted, same.sized.write frames, ?_, ?_, ?_, ?_, ?_⟩
    · rw [kept]
      exact same.unread
    · rw [held, same.sized.outputFrames, Ledger.arriveAll_waiting room frames same.queued_bounded, same.queued]
    · rw [kept]
      exact same.captured
    · rw [kept]
      exact same.silent
    · rw [kept]
      exact same.dropped
  · rw [Buffers.write_wrong (length.symm ▸ exact)]
    simp only [Lists.write, exact, ↓reduceIte]
    exact ⟨trivial, same⟩

/-- Every call is answered as the lists answer it. -/
theorem answer (positive : 1 ≤ period) (same : Represents period transfer buffers lists) (request : Request) :
    (buffers.answer request).1 = (lists.answer period transfer request).1 ∧
      Represents period transfer (buffers.answer request).2 (lists.answer period transfer request).2 := by
  cases request with
  | capture frame =>
    obtain ⟨replied, after⟩ := same.capture positive frame
    exact ⟨congrArg Reply.captured replied, after⟩
  | render =>
    obtain ⟨replied, after⟩ := same.render
    exact ⟨congrArg Reply.rendered replied, after⟩
  | read into =>
    obtain ⟨counted, filled, after⟩ := same.read into
    refine ⟨?_, after⟩
    simp only [Buffers.answer, Lists.answer, counted, filled]
  | write frames =>
    obtain ⟨replied, after⟩ := same.write positive frames
    exact ⟨congrArg Reply.wrote replied, after⟩

end Represents

def capturedBy : Request → Reply → List (Frame inputs)
  | .capture frame, _ => [frame]
  | _, _ => []

def signalledBy : Request → Reply → List Bool
  | _, .captured completed => [completed]
  | _, _ => []

def handedBy : Request → Reply → List (Frame inputs)
  | _, .read (some count) into => into.take count
  | _, _ => []

def renderedBy : Request → Reply → List (Frame outputs)
  | _, .rendered frame => [frame]
  | _, _ => []

def writtenBy : Request → Reply → List (Frame outputs)
  | .write frames, .wrote true => frames
  | _, _ => []

/-- Where the frames of all calls so far went. -/
structure Accounts (period transfer : Nat) (requests : List Request) (replies : List Reply) (lists : Lists) : Prop where
  captured : lists.input.arrived = gathered capturedBy requests replies
  signalled : gathered signalledBy requests replies =
    (List.range lists.input.arrived.length).map fun index => decide (period ∣ index + 1)
  handed : lists.input.withFate .served = gathered handedBy requests replies
  supplied : lists.output.arrived =
    List.replicate (2 * period + transfer) silence ++ gathered writtenBy requests replies
  played : lists.output.withFate .served = lists.played.filterMap id
  rendered : lists.played.map (·.getD silence) = gathered renderedBy requests replies

namespace Lists
variable (period transfer : Nat)

theorem answer_captured (lists : Lists) (request : Request) :
    (lists.answer period transfer request).2.input.arrived =
      lists.input.arrived ++ capturedBy request (lists.answer period transfer request).1 := by
  cases request with
  | capture frame => exact Ledger.arrive_arrived _ _ _
  | render =>
    simp only [answer, render, capturedBy, List.append_nil]
    split <;> rfl
  | read into =>
    simp only [answer, read, capturedBy, List.append_nil]
    split
    · rfl
    · split
      · rfl
      · exact Ledger.serve_arrived _ _
  | write frames =>
    simp only [answer, write, capturedBy, List.append_nil]
    split <;> rfl

theorem answer_signalled (lists : Lists) (request : Request) :
    (List.range (lists.answer period transfer request).2.input.arrived.length).map (fun index => decide (period ∣ index + 1)) =
      (List.range lists.input.arrived.length).map (fun index => decide (period ∣ index + 1)) ++
        signalledBy request (lists.answer period transfer request).1 := by
  rw [answer_captured, List.length_append, List.range_add, List.map_append, List.map_map]
  cases request with
  | capture frame => simp [answer, capture, capturedBy, signalledBy]
  | render => rfl
  | read into => rfl
  | write frames => rfl

theorem answer_handed (lists : Lists) (request : Request) :
    (lists.answer period transfer request).2.input.withFate .served =
      lists.input.withFate .served ++ handedBy request (lists.answer period transfer request).1 := by
  cases request with
  | capture frame =>
    rw [handedBy, List.append_nil]
    · exact Ledger.arrive_served _ _ _
    · intro count into same
      cases same
  | render =>
    simp only [answer, render, handedBy, List.append_nil]
    split <;> rfl
  | read into =>
    simp only [answer, read]
    split
    · exact (List.append_nil _).symm
    · split
      · exact (List.append_nil _).symm
      · rw [handedBy, Ledger.serve_served]
        congr 1
        rw [List.take_append_of_le_length (by rw [List.length_take]; omega), List.take_take, Nat.min_self]
  | write frames =>
    simp only [answer, write, handedBy, List.append_nil]
    split <;> rfl

theorem answer_supplied (lists : Lists) (request : Request) :
    (lists.answer period transfer request).2.output.arrived =
      lists.output.arrived ++ writtenBy request (lists.answer period transfer request).1 := by
  cases request with
  | capture frame => exact (List.append_nil _).symm
  | render =>
    simp only [answer, render, writtenBy, List.append_nil]
    split
    · rfl
    · exact Ledger.serve_arrived _ _
  | read into =>
    simp only [answer, read, writtenBy, List.append_nil]
    split
    · rfl
    · split <;> rfl
  | write frames =>
    simp only [answer, write]
    split
    · exact Ledger.arriveAll_arrived _ _ _
    · exact (List.append_nil _).symm

theorem answer_rendered (lists : Lists) (request : Request) :
    (lists.answer period transfer request).2.played.map (·.getD silence) =
      lists.played.map (·.getD silence) ++ renderedBy request (lists.answer period transfer request).1 := by
  cases request with
  | capture frame => exact (List.append_nil _).symm
  | render =>
    simp only [answer, render, renderedBy]
    split <;> exact List.map_append
  | read into =>
    simp only [answer, read, renderedBy, List.append_nil]
    split
    · rfl
    · split <;> rfl
  | write frames =>
    simp only [answer, write, renderedBy, List.append_nil]
    split <;> rfl

/-- The frames played from the list are those that left it in their turn. -/
theorem answer_played (lists : Lists) (request : Request)
    (before : lists.output.withFate .served = lists.played.filterMap id) :
    (lists.answer period transfer request).2.output.withFate .served =
      (lists.answer period transfer request).2.played.filterMap id := by
  cases request with
  | capture frame => exact before
  | render =>
    simp only [answer, render]
    split
    case h_1 empty => rw [List.filterMap_append, before]; exact (List.append_nil _).symm
    case h_2 frame rest holds =>
      rw [Ledger.serve_served, holds, List.filterMap_append, before]
      rfl
  | read into =>
    simp only [answer, read]
    split
    · exact before
    · split <;> exact before
  | write frames =>
    simp only [answer, write]
    split
    · exact (Ledger.arriveAll_served _ _ _).trans before
    · exact before

theorem serve_accounts (requests : List Request) :
    Accounts period transfer requests (serve (answer period transfer) (start period transfer) requests).1
      (serve (answer period transfer) (start period transfer) requests).2 where
  captured := serve_gathers (fun lists : Lists => lists.input.arrived) _ (answer_captured period transfer) (start period transfer) requests
  signalled := by
    apply Eq.symm
    exact serve_gathers (fun lists : Lists => (List.range lists.input.arrived.length).map fun index => decide (period ∣ index + 1)) _
      (answer_signalled period transfer) (start period transfer) requests
  handed := serve_gathers (fun lists : Lists => lists.input.withFate .served) _ (answer_handed period transfer) (start period transfer) requests
  supplied := serve_gathers (fun lists : Lists => lists.output.arrived) _ (answer_supplied period transfer) (start period transfer) requests
  played := serve_keeps _ (answer_played period transfer) (start period transfer) requests rfl
  rendered := serve_gathers (fun lists : Lists => lists.played.map (·.getD silence)) _ (answer_rendered period transfer) (start period transfer) requests

end Lists

/-- The rings of a session behave as two bounded lists under any calls. -/
theorem buffers_are_two_lists {period transfer : Nat} {reserve : Nat → Except TryReserveError Unit} {buffers : Buffers}
    (created : Buffers.new reserve period transfer = .ok buffers) (positive : 1 ≤ period) (requests : List Request) :
    let final := (serve Buffers.answer buffers requests).2
    let lists := (serve (Lists.answer period transfer) (Lists.start period transfer) requests).2
    (serve Buffers.answer buffers requests).1 =
        (serve (Lists.answer period transfer) (Lists.start period transfer) requests).1 ∧
      final.unread = lists.input.waiting ∧ final.queued = lists.output.waiting ∧
      lists.input.waiting.length ≤ 4 * period + 2 * transfer ∧ lists.output.waiting.length ≤ 2 * period + transfer ∧
      final.stats = (min lists.late maxU32, min lists.unreadInTime.length maxU32) ∧
      Accounts period transfer requests (serve Buffers.answer buffers requests).1 lists := by
  obtain ⟨same, after⟩ := serve_simulates (Represents period transfer)
    (fun _ _ request related => related.answer positive request) requests (Represents.start (Buffers.new_fresh created))
  have accounts := Lists.serve_accounts period transfer requests
  rw [← same] at accounts
  exact ⟨same, after.unread.symm, after.queued.symm, after.unread_bounded, after.queued_bounded,
    Prod.ext after.silent after.dropped, accounts⟩

/-- A host that leaves five captured frames unread, and answers three times before a frame is played. -/
def neglected : List Request :=
  [.capture #v[1, -1], .capture #v[2, -2], .capture #v[3, -3], .capture #v[4, -4], .capture #v[5, -5], .read [silence],
    .write [#v[1, 2, 3, 4]], .write [#v[5, 6, 7, 8]], .write [#v[9, 10, 11, 12]], .render, .render, .render]

/-- The oldest captured frame is gone, and so is the first answer. -/
theorem buffers_are_two_lists_neglected :
    ∃ buffers, Buffers.new (fun _ => .ok ()) 1 0 = .ok buffers ∧
      (serve Buffers.answer buffers neglected).1 =
        List.replicate 5 (.captured true) ++ [.read (some 1) [#v[2, -2]]] ++ List.replicate 3 (.wrote true) ++
          [.rendered #v[5, 6, 7, 8], .rendered #v[9, 10, 11, 12], .rendered silence] ∧
      (serve Buffers.answer buffers neglected).2.stats = (1, 1) ∧
      (serve Buffers.answer buffers neglected).2.unread = [#v[3, -3], #v[4, -4], #v[5, -5]] := by
  have created : ∃ buffers, Buffers.new (fun _ => .ok ()) 1 0 = .ok buffers := ⟨_, rfl⟩
  obtain ⟨buffers, created⟩ := created
  obtain ⟨replies, unread, _, _, _, stats, _⟩ := buffers_are_two_lists created (Nat.le_refl 1) neglected
  refine ⟨buffers, created, replies.trans ?_, stats.trans ?_, unread.trans ?_⟩
  · decide
  · decide
  · decide

end Ak1Driver
