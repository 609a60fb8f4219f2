import Ak1Driver.Driver.Flight

/-! Stopping the engine is final: the count of transfers in flight is exact at
every operation of every thread, so once the stopping thread reads zero no
completion routine is left that could touch the engine or send a transfer. -/

namespace Ak1Driver.Driver.Flight
open Lib Lib.Transition

/-- A send that is counted and neither accepted nor taken back. -/
def SendPoint.undecided : SendPoint → Nat
  | .submit | .refused => 1
  | _ => 0

/-- The playback transfer that a capture transfer's routine has claimed. -/
def CapturePoint.claimed : CapturePoint → Option Nat
  | .filling claimed => claimed
  | .sending index _ | .releasing index => some index
  | _ => none

namespace Completion

def waiting : Completion → Nat
  | .accepted _ => 1
  | _ => 0

/-- A routine that has begun and not made its final decrement. -/
def begun : Completion → Nat
  | .capture .. | .playback .. => 1
  | _ => 0

def undecided : Completion → Nat
  | .capture _ (.sending _ point) | .capture _ (.resubmitting point) => point.undecided
  | _ => 0

def counted (completion : Completion) : Nat := completion.waiting + completion.begun + completion.undecided

@[simp] theorem counted_accepted (use : Use) : (accepted use).counted = 1 := rfl

@[simp] theorem counted_capture (index : Nat) (point : CapturePoint) :
    (capture index point).counted = 1 + (capture index point).undecided := rfl

@[simp] theorem counted_playback (index : Nat) (point : PlaybackPoint) : (playback index point).counted = 1 := rfl

@[simp] theorem counted_ended : ended.counted = 0 := rfl

/-- A use of a playback transfer, from its claim to its release. -/
def claims (index : Nat) : Completion → Nat
  | .accepted (.playback other) | .playback other .arrived => if other = index then 1 else 0
  | .capture _ point => if point.claimed = some index then 1 else 0
  | _ => 0

/-- A use of a capture transfer, until it is sent again or given up. -/
def owns (index : Nat) : Completion → Nat
  | .accepted (.capture other) => if other = index then 1 else 0
  | .capture other point => if point ≠ .leaving ∧ other = index then 1 else 0
  | _ => 0

end Completion

namespace Control

def undecided : Control → Nat
  | .submitting _ point => point.undecided
  | _ => 0

/-- Whether the starting thread has still to submit a capture transfer. -/
def owns (captures index : Nat) : Control → Nat
  | .fresh => if index < captures then 1 else 0
  | .submitting next _ => if next ≤ index ∧ index < captures then 1 else 0
  | _ => 0

theorem owns_le (control : Control) (captures index : Nat) : control.owns captures index ≤ 1 := by
  cases control with
  | fresh | submitting =>
    simp only [owns]
    split
    · exact Nat.le_refl 1
    · exact Nat.zero_le 1
  | _ => exact Nat.zero_le 1

/-- `stop` has read zero. -/
def past : Control → Bool
  | .restarting _ | .stopped | .freed => true
  | _ => false

/-- Nothing is in flight: it has not begun, or `stop` has read zero. -/
def quiet : Control → Bool
  | .fresh => true
  | control => control.past

def lowered : Control → Bool
  | .submitting .. | .started | .lowering => false
  | _ => true

end Control

/-- One for a busy playback transfer. -/
def held (busy : List Bool) (index : Nat) : Nat := if busy[index]? = some true then 1 else 0

theorem held_le (busy : List Bool) (index : Nat) : held busy index ≤ 1 := by
  rw [held]
  split
  · exact Nat.le_refl 1
  · exact Nat.zero_le 1

namespace Engine
open Completion

structure Sound (engine : Engine) : Prop where
  count : engine.inFlight = tally counted engine.completions + engine.control.undecided
  claimed : ∀ index, tally (claims index) engine.completions = held engine.busy index
  owned : ∀ index, tally (owns index) engine.completions + engine.control.owns engine.captures index ≤ 1
  inside : ∀ index point, engine.control = .submitting index point → index < engine.captures
  running : engine.running = !engine.control.lowered
  quiet : engine.control.quiet = true → engine.inFlight = 0

variable {before after : Engine}

theorem new_sound (captures playbacks : Nat) : (new captures playbacks).Sound where
  count := rfl
  claimed index := by
    have idle : (List.replicate playbacks false)[index]? ≠ some true := by
      rw [List.getElem?_replicate]
      split <;> nofun
    rw [held, new, if_neg idle]
    rfl
  owned index := by
    show 0 + Control.fresh.owns captures index ≤ 1
    rw [Nat.zero_add]
    exact Control.owns_le _ _ _
  inside _ _ same := by cases same
  running := rfl
  quiet _ := rfl

theorem Sound.active (sound : before.Sound) {place : Nat} {old : Completion} (found : before.completions[place]? = some old)
    (counts : 0 < old.counted) : 0 < before.inFlight ∧ before.control.quiet = false := by
  have least : old.counted ≤ tally counted before.completions := le_tally found
  have count := sound.count
  refine ⟨by omega, Bool.eq_false_iff.mpr fun quiet => ?_⟩
  have none := sound.quiet quiet
  omega

/-- One completion goes on, and may add one that the framework has accepted. -/
theorem Sound.goesOn (sound : before.Sound) {place : Nat} {old new : Completion} {more : List Completion} {inFlight : Nat}
    {busy : List Bool} (found : before.completions[place]? = some old) (counts : 0 < old.counted)
    (count : inFlight + old.counted = before.inFlight + new.counted + tally counted more)
    (claimed : ∀ index, claims index new + tally (claims index) more + held before.busy index =
      claims index old + held busy index)
    (owned : ∀ index, owns index new + tally (owns index) more ≤ owns index old) :
    Sound { before with inFlight, busy, completions := (before.completions ++ more).set place new } := by
  have inside : (before.completions ++ more)[place]? = some old := by
    rw [List.getElem?_append_left (List.getElem?_eq_some_iff.mp found).1]
    exact found
  have active := (sound.active found counts).2
  constructor
  · have balance := @tally_set _ (counted) _ _ _ inside new
    have earlier := sound.count
    rw [tally_append] at balance
    show inFlight = tally counted ((before.completions ++ more).set place new) + before.control.undecided
    omega
  · intro index
    have balance := @tally_set _ (claims index) _ _ _ inside new
    have earlier := sound.claimed index
    have change := claimed index
    rw [tally_append] at balance
    show tally (claims index) ((before.completions ++ more).set place new) = held busy index
    omega
  · intro index
    have balance := @tally_set _ (owns index) _ _ _ inside new
    have earlier := sound.owned index
    have change := owned index
    rw [tally_append] at balance
    show tally (owns index) ((before.completions ++ more).set place new) + before.control.owns before.captures index ≤ 1
    omega
  · exact sound.inside
  · exact sound.running
  · intro quiet
    exact absurd (active.symm.trans quiet) Bool.false_ne_true

/-- One completion goes on by itself. -/
theorem Sound.alone (sound : before.Sound) {place : Nat} {old new : Completion} {inFlight : Nat} {busy : List Bool}
    (found : before.completions[place]? = some old) (counts : 0 < old.counted)
    (count : inFlight + old.counted = before.inFlight + new.counted)
    (claimed : ∀ index, claims index new + held before.busy index = claims index old + held busy index)
    (owned : ∀ index, owns index new ≤ owns index old) :
    Sound { before with inFlight, busy, completions := before.completions.set place new } := by
  have kept := @goesOn before sound place old new [] inFlight busy found counts count claimed owned
  rwa [List.append_nil] at kept

/-- What one operation of a send changes. -/
structure Sends (use : Use) (point : SendPoint) (next : SendPoint ⊕ Bool) (before after : Engine)
    (more : List Completion) : Prop where
  same : after = { before with inFlight := after.inFlight, completions := before.completions ++ more }
  count : after.inFlight + point.undecided =
    before.inFlight + tally counted more + next.elim SendPoint.undecided fun _ => 0
  accepted : (more = [] ∧ next ≠ .inr true) ∨ (more = [.accepted use] ∧ next = .inr true ∧ point = .submit)

theorem send_cases {use : Use} {choice : Bool} {point : SendPoint} {next : SendPoint ⊕ Bool}
    (sent : before.send use choice point = some (after, next)) (counted : point.undecided ≤ before.inFlight) :
    ∃ more, Sends use point next before after more := by
  have unchanged : before = { before with inFlight := before.inFlight, completions := before.completions ++ [] } := by
    rw [List.append_nil]
  cases point with
  | prepare =>
    cases sent
    exact ⟨[], unchanged, rfl, .inl ⟨rfl, nofun⟩⟩
  | reuse =>
    cases sent
    cases choice
    · exact ⟨[], unchanged, rfl, .inl ⟨rfl, nofun⟩⟩
    · exact ⟨[], unchanged, rfl, .inl ⟨rfl, nofun⟩⟩
  | format =>
    cases sent
    cases choice
    · exact ⟨[], unchanged, rfl, .inl ⟨rfl, nofun⟩⟩
    · exact ⟨[], unchanged, rfl, .inl ⟨rfl, nofun⟩⟩
  | add =>
    cases sent
    exact ⟨[], by rw [List.append_nil], rfl, .inl ⟨rfl, nofun⟩⟩
  | submit =>
    simp only [send] at sent
    split at sent
    · cases sent
      exact ⟨[], unchanged, rfl, .inl ⟨rfl, nofun⟩⟩
    · obtain ⟨_, same⟩ := Option.ite_none_left_eq_some.mp sent
      cases same
      exact ⟨[.accepted use], rfl, rfl, .inr ⟨rfl, rfl, rfl⟩⟩
  | refused =>
    cases sent
    exact ⟨[], by rw [List.append_nil], Nat.sub_add_cancel counted, .inl ⟨rfl, nofun⟩⟩

theorem held_set_of_ne {busy : List Bool} {place index : Nat} (different : place ≠ index) (value : Bool) :
    held (busy.set place value) index = held busy index := by
  rw [held, held, List.getElem?_set_ne different]

theorem held_set_true {busy : List Bool} {index : Nat} {old : Bool} (found : busy[index]? = some old) :
    held (busy.set index true) index = 1 := by
  rw [held, List.getElem?_set_self (List.getElem?_eq_some_iff.mp found).1, if_pos rfl]

theorem held_set_false (busy : List Bool) (index : Nat) : held (busy.set index false) index = 0 := by
  rw [held, if_neg]
  intro found
  rw [List.getElem?_set] at found
  split at found
  · split at found <;> cases found
  · exact absurd rfl ‹¬ index = index›

/-- What a completion claims is busy. -/
theorem Sound.busy (sound : before.Sound) {place index : Nat} {completion : Completion}
    (found : before.completions[place]? = some completion) (claims : completion.claims index = 1) :
    held before.busy index = 1 := by
  have least : completion.claims index ≤ _ := le_tally found
  have claimed := sound.claimed index
  have most := held_le before.busy index
  omega

theorem owns_capture_le {index other : Nat} {old : CapturePoint} (stays : old ≠ .leaving) (new : CapturePoint) :
    owns index (.capture other new) ≤ owns index (.capture other old) := by
  by_cases same : other = index
  · rw [owns, owns, if_pos (⟨stays, same⟩ : old ≠ .leaving ∧ other = index)]
    split
    · exact Nat.le_refl 1
    · exact Nat.zero_le 1
  · rw [owns, if_neg fun both => same both.2]
    exact Nat.zero_le _

/-- A routine goes on, and neither sends nor claims nor releases. -/
theorem Sound.stays (sound : before.Sound) {place index : Nat} {old new : CapturePoint}
    (found : before.completions[place]? = some (.capture index old)) (active : old ≠ .leaving)
    (decided : (Completion.capture index old).undecided = 0 ∧ (Completion.capture index new).undecided = 0)
    (claimed : new.claimed = old.claimed) : (before.goesTo place (.capture index new)).Sound := by
  refine sound.alone found (by rw [counted_capture]; omega) ?_ ?_ fun other => owns_capture_le active new
  · rw [counted_capture, counted_capture, decided.1, decided.2]
  · intro other
    simp only [claims, claimed]

/-- A routine ends its sending of a transfer that it has claimed, or goes on with it. -/
theorem Sound.sending (sound : before.Sound) {place index playback : Nat} {choice : Bool} {point : SendPoint}
    (found : before.completions[place]? = some (.capture index (.sending playback point)))
    (stepped : before.captureComplete place index choice (.sending playback point) = some after) : after.Sound := by
  have active : CapturePoint.sending playback point ≠ .leaving := nofun
  have positive : 0 < (Completion.capture index (.sending playback point)).counted := by
    rw [counted_capture]
    omega
  obtain ⟨⟨middle, next⟩, sent, same⟩ := Option.bind_eq_some_iff.mp stepped
  have least : (Completion.capture index (.sending playback point)).counted ≤ _ := le_tally found
  have total := sound.count
  rw [counted_capture] at least
  obtain ⟨more, sends⟩ := send_cases sent (show point.undecided ≤ _ by simp only [undecided] at least; omega)
  have count := sends.count
  cases same
  rw [sends.same]
  rcases sends.accepted with ⟨rfl, unsent⟩ | ⟨rfl, rfl, rfl⟩
  · rw [tally_nil, Nat.add_zero] at count
    refine sound.goesOn found positive ?_ ?_ fun other => owns_capture_le active _
    · rw [counted_capture, counted_capture, tally_nil]
      cases next with
      | inl following =>
        simp only [undecided, Sum.elim_inl] at count ⊢
        omega
      | inr success =>
        cases success with
        | false =>
          simp only [undecided, Sum.elim_inr] at count ⊢
          omega
        | true => exact absurd rfl unsent
    · intro other
      cases next with
      | inl following => rfl
      | inr success =>
        cases success with
        | false => rfl
        | true => exact absurd rfl unsent
  · refine sound.goesOn found positive ?_ ?_ fun other => ?_
    · simp only [tally_cons, tally_nil, counted_capture, counted_accepted, undecided, SendPoint.undecided,
        Sum.elim_inr] at count ⊢
      omega
    · intro other
      simp only [tally_cons, tally_nil, claims, CapturePoint.claimed, Option.some.injEq, reduceCtorEq, if_false]
      omega
    · exact owns_capture_le active _

theorem Sound.resubmitting (sound : before.Sound) {place index : Nat} {choice : Bool} {point : SendPoint}
    (found : before.completions[place]? = some (.capture index (.resubmitting point)))
    (stepped : before.captureComplete place index choice (.resubmitting point) = some after) : after.Sound := by
  have active : CapturePoint.resubmitting point ≠ .leaving := nofun
  have positive : 0 < (Completion.capture index (.resubmitting point)).counted := by
    rw [counted_capture]
    omega
  obtain ⟨⟨middle, next⟩, sent, same⟩ := Option.bind_eq_some_iff.mp stepped
  have least : (Completion.capture index (.resubmitting point)).counted ≤ _ := le_tally found
  have total := sound.count
  rw [counted_capture] at least
  obtain ⟨more, sends⟩ := send_cases sent (show point.undecided ≤ _ by simp only [undecided] at least; omega)
  have count := sends.count
  cases same
  rw [sends.same]
  rcases sends.accepted with ⟨rfl, unsent⟩ | ⟨rfl, rfl, rfl⟩
  · rw [tally_nil, Nat.add_zero] at count
    refine sound.goesOn found positive ?_ ?_ fun other => owns_capture_le active _
    · rw [counted_capture, counted_capture, tally_nil]
      cases next with
      | inl following =>
        simp only [undecided, Sum.elim_inl] at count ⊢
        omega
      | inr success =>
        simp only [undecided, Sum.elim_inr] at count ⊢
        omega
    · intro other
      cases next <;> rfl
  · refine sound.goesOn found positive ?_ ?_ ?_
    · simp only [tally_cons, tally_nil, counted_capture, counted_accepted, undecided, SendPoint.undecided,
        Sum.elim_inr] at count ⊢
      omega
    · intro other
      rfl
    · intro other
      simp only [tally_cons, tally_nil, owns, ne_eq, not_true_eq_false, false_and, if_false, reduceCtorEq,
        not_false_eq_true, true_and]
      omega

theorem Sound.claiming (sound : before.Sound) {place index playback : Nat} (choice : Bool)
    (found : before.completions[place]? = some (.capture index (.claiming playback)))
    (stepped : before.captureComplete place index choice (.claiming playback) = some after) : after.Sound := by
  simp only [captureComplete] at stepped
  split at stepped
  · cases stepped
    exact sound.stays found nofun ⟨rfl, rfl⟩ rfl
  · cases stepped
    exact sound.stays found nofun ⟨rfl, rfl⟩ rfl
  · rename_i idle
    cases stepped
    refine sound.alone found (by rw [counted_capture]; omega) rfl ?_
      fun other => @owns_capture_le other index (.claiming playback) nofun _
    intro other
    simp only [claims, CapturePoint.claimed, Option.some.injEq, reduceCtorEq, if_false]
    by_cases same : playback = other
    · subst same
      have unheld : held before.busy playback = 0 := by
        rw [held, idle]
        rfl
      rw [held_set_true idle, unheld, if_pos rfl]
    · rw [held_set_of_ne same, if_neg same]

theorem Sound.releasing (sound : before.Sound) {place index playback : Nat}
    (found : before.completions[place]? = some (.capture index (.releasing playback))) :
    ({ before with busy := before.busy.set playback false }.goesTo place
      (.capture index (.resubmitting .prepare))).Sound := by
  refine sound.alone found (by rw [counted_capture]; omega) rfl ?_
    fun other => @owns_capture_le other index (.releasing playback) nofun _
  intro other
  simp only [claims, CapturePoint.claimed, Option.some.injEq, reduceCtorEq, if_false]
  by_cases same : playback = other
  · subst same
    rw [held_set_false, if_pos rfl, sound.busy found (if_pos rfl)]
  · rw [held_set_of_ne same, if_neg same]

theorem Sound.leaving (sound : before.Sound) {place index : Nat}
    (found : before.completions[place]? = some (.capture index .leaving) ∨
      before.completions[place]? = some (.playback index .leaving)) :
    ({ before with inFlight := before.inFlight - 1 }.goesTo place .ended).Sound := by
  rcases found with found | found
  · have positive := (sound.active found Nat.one_pos).1
    refine sound.alone found Nat.one_pos ?_ (fun _ => rfl) fun _ => Nat.zero_le _
    exact Nat.sub_add_cancel positive
  · have positive := (sound.active found Nat.one_pos).1
    refine sound.alone found Nat.one_pos ?_ (fun _ => rfl) fun _ => Nat.zero_le _
    exact Nat.sub_add_cancel positive

theorem Sound.captureComplete (sound : before.Sound) {place index : Nat} {choice : Bool} {point : CapturePoint}
    (found : before.completions[place]? = some (.capture index point))
    (stepped : before.captureComplete place index choice point = some after) : after.Sound := by
  cases point with
  | arrived success =>
    cases stepped
    by_cases goes : (success && before.running) = true
    · rw [if_pos goes]
      exact sound.stays found nofun ⟨rfl, rfl⟩ rfl
    · rw [if_neg goes]
      exact sound.stays found nofun ⟨rfl, rfl⟩ rfl
  | claiming playback => exact sound.claiming choice found stepped
  | filling claimed =>
    cases claimed with
    | none =>
      cases stepped
      exact sound.stays found nofun ⟨rfl, rfl⟩ rfl
    | some playback =>
      cases stepped
      cases choice
      · exact sound.stays found nofun ⟨rfl, rfl⟩ rfl
      · exact sound.stays found nofun ⟨rfl, rfl⟩ rfl
  | sending playback point => exact sound.sending found stepped
  | releasing playback =>
    cases stepped
    exact sound.releasing found
  | resubmitting point => exact sound.resubmitting found stepped
  | leaving =>
    cases stepped
    exact sound.leaving (.inl found)

theorem Sound.playbackComplete (sound : before.Sound) {place index : Nat} {point : PlaybackPoint}
    (found : before.completions[place]? = some (.playback index point)) :
    (before.playbackComplete place index point).Sound := by
  cases point with
  | arrived =>
    refine sound.alone found Nat.one_pos rfl ?_ fun _ => Nat.zero_le _
    intro other
    simp only [claims]
    by_cases same : index = other
    · subst same
      rw [held_set_false, if_pos rfl, sound.busy found (if_pos rfl)]
    · rw [held_set_of_ne same, if_neg same]
  | leaving => exact sound.leaving (.inr found)

theorem Sound.completed (sound : before.Sound) {place : Nat} {success : Bool}
    (stepped : before.step (.completed place success) = some after) : after.Sound := by
  simp only [step] at stepped
  split at stepped
  · rename_i index found
    cases stepped
    refine sound.alone found Nat.one_pos rfl (fun _ => rfl) fun other => ?_
    simp only [owns, ne_eq, reduceCtorEq, not_false_eq_true, true_and]
    exact Nat.le_refl _
  · rename_i index found
    cases stepped
    exact sound.alone found Nat.one_pos rfl (fun _ => rfl) fun _ => Nat.le_refl _
  · cases stepped

/-- The thread that starts and stops goes on. -/
theorem Sound.steers (sound : before.Sound) {inFlight : Nat} {control : Control} {more : List Completion} {running : Bool}
    {purged : Pipe → Bool}
    (count : inFlight + before.control.undecided = before.inFlight + tally counted more + control.undecided)
    (claimed : ∀ index, tally (claims index) more = 0)
    (owned : ∀ index, control.owns before.captures index + tally (owns index) more ≤
      before.control.owns before.captures index)
    (inside : ∀ index point, control = .submitting index point → index < before.captures)
    (raised : running = !control.lowered) (quiet : control.quiet = true → inFlight = 0) :
    Sound { before with inFlight, control, running, purged, completions := before.completions ++ more } := by
  constructor
  · have earlier := sound.count
    show inFlight = tally counted (before.completions ++ more) + control.undecided
    rw [tally_append]
    omega
  · intro index
    show tally (claims index) (before.completions ++ more) = held before.busy index
    rw [tally_append, claimed, sound.claimed]
    rfl
  · intro index
    have earlier := sound.owned index
    have change := owned index
    show tally (owns index) (before.completions ++ more) + control.owns before.captures index ≤ 1
    rw [tally_append]
    omega
  · exact inside
  · exact raised
  · exact quiet

/-- It goes on past its last submission. -/
theorem Sound.steersOn (sound : before.Sound) {control : Control} {purged : Pipe → Bool} {running : Bool}
    (decided : before.control.undecided = 0 ∧ control.undecided = 0) (owned : ∀ index, control.owns before.captures index = 0)
    (inside : ∀ index point, control = .submitting index point → index < before.captures)
    (raised : running = !control.lowered) (quiet : control.quiet = true → before.inFlight = 0) :
    Sound { before with control, running, purged } := by
  have kept := @steers before sound before.inFlight control [] running purged
    (by rw [decided.1, decided.2, tally_nil]) (fun _ => rfl)
    (fun index => by rw [owned, tally_nil]; exact Nat.zero_le _) inside raised quiet
  rwa [List.append_nil] at kept

/-- It goes on to the submission of the transfer at `index`, if there is one. -/
theorem Sound.submits (sound : before.Sound) {index inFlight : Nat} {more : List Completion} {running : Bool}
    (raised : running = true)
    (count : inFlight + before.control.undecided = before.inFlight + tally counted more)
    (claimed : ∀ index, tally (claims index) more = 0)
    (owned : ∀ other, (if index ≤ other ∧ other < before.captures then 1 else 0) + tally (owns other) more ≤
      before.control.owns before.captures other) :
    ({ before with inFlight, running, completions := before.completions ++ more }.submit index).Sound := by
  by_cases inside : index < before.captures
  · rw [submit, if_pos inside]
    refine sound.steers count claimed owned ?_ raised nofun
    intro other point same
    cases same
    exact inside
  · rw [submit, if_neg inside]
    refine sound.steers count claimed ?_ nofun raised nofun
    intro other
    have least := owned other
    show 0 + tally (owns other) more ≤ _
    omega

theorem Sound.submitting (sound : before.Sound) {choice : Bool} {index : Nat} {point : SendPoint}
    (now : before.control = .submitting index point)
    (stepped : before.controlled choice (.submitting index point) = some after) : after.Sound := by
  obtain ⟨⟨middle, next⟩, sent, same⟩ := Option.bind_eq_some_iff.mp stepped
  have inside := sound.inside index point now
  have raised : before.running = true := by
    rw [sound.running, now]
    rfl
  have owns : ∀ other, before.control.owns before.captures other = if index ≤ other ∧ other < before.captures then 1 else 0 := by
    intro other
    rw [now]
    rfl
  have undecided : before.control.undecided = point.undecided := by
    rw [now]
    rfl
  have total := sound.count
  rw [undecided] at total
  obtain ⟨more, sends⟩ := send_cases sent (by rw [total]; exact Nat.le_add_left _ _)
  have count := sends.count
  cases same
  rcases sends.accepted with ⟨none, unsent⟩ | ⟨one, taken, last⟩
  · cases next with
    | inl following =>
      rw [sends.same]
      refine sound.steers (by rw [undecided]; exact count) (by rw [none]; exact fun _ => rfl) ?_ ?_ raised nofun
      · intro other
        rw [none, owns]
        exact Nat.le_refl _
      · intro other point same
        cases same
        exact inside
    | inr success =>
      cases success with
      | false =>
        rw [sends.same]
        refine sound.steers (by rw [undecided]; exact count) (by rw [none]; exact fun _ => rfl) ?_ nofun raised nofun
        intro other
        rw [none]
        exact Nat.zero_le _
      | true => exact absurd rfl unsent
  · subst one taken
    rw [sends.same]
    refine sound.submits raised (by rw [undecided]; exact count) (fun _ => rfl) ?_
    intro other
    rw [owns]
    simp only [tally_cons, tally_nil, Completion.owns]
    by_cases same : index = other
    · subst same
      apply Nat.le_of_eq
      rw [if_neg (by omega), if_pos rfl, if_pos ⟨Nat.le_refl _, inside⟩]
    · rw [if_neg same]
      split
      · apply Nat.le_of_eq
        rw [if_pos (by omega)]
      · exact Nat.zero_le _

theorem Sound.controlled (sound : before.Sound) {choice : Bool}
    (stepped : before.controlled choice before.control = some after) : after.Sound := by
  have running := sound.running
  cases now : before.control with
  | fresh =>
    rw [now] at stepped running
    simp only [Engine.controlled] at stepped
    split at stepped
    · cases stepped
      have submitted := @submits before sound 0 before.inFlight [] true rfl (by rw [now]; rfl) (fun _ => rfl) fun other => by
        rw [now, Control.owns, tally_nil]
        simp only [Nat.zero_le, true_and, Nat.add_zero, Nat.le_refl]
      rwa [List.append_nil] at submitted
    · cases stepped
      have quiet := sound.quiet (by rw [now]; rfl)
      exact @steersOn before sound .freed before.purged before.running ⟨by rw [now]; rfl, rfl⟩ (fun _ => rfl) nofun running
        fun _ => quiet
  | submitting index point =>
    rw [now] at stepped
    exact sound.submitting now stepped
  | started =>
    rw [now] at stepped running
    have raised : before.running = true := running
    simp only [Engine.controlled] at stepped
    rw [if_pos raised] at stepped
    cases stepped
    exact @steersOn before sound .lowering before.purged before.running ⟨by rw [now]; rfl, rfl⟩ (fun _ => rfl) nofun
      running nofun
  | lowering =>
    rw [now] at stepped
    cases stepped
    exact @steersOn before sound (.purging .capture) before.purged false ⟨by rw [now]; rfl, rfl⟩ (fun _ => rfl) nofun rfl
      nofun
  | purging pipe =>
    rw [now] at stepped running
    cases pipe with
    | capture =>
      cases stepped
      exact sound.steersOn ⟨by rw [now]; rfl, rfl⟩ (fun _ => rfl) nofun running nofun
    | playback =>
      cases stepped
      exact sound.steersOn ⟨by rw [now]; rfl, rfl⟩ (fun _ => rfl) nofun running nofun
  | waiting =>
    rw [now] at stepped running
    simp only [Engine.controlled] at stepped
    cases stepped
    by_cases zero : before.inFlight = 0
    · rw [if_pos zero]
      exact @steersOn before sound (.restarting .capture) before.purged before.running ⟨by rw [now]; rfl, rfl⟩ (fun _ => rfl)
        nofun running fun _ => zero
    · rw [if_neg zero]
      exact @steersOn before sound .waiting before.purged before.running ⟨by rw [now]; rfl, rfl⟩ (fun _ => rfl) nofun running
        nofun
  | restarting pipe =>
    have quiet := sound.quiet (by rw [now]; rfl)
    rw [now] at stepped running
    cases pipe with
    | capture =>
      cases stepped
      exact sound.steersOn ⟨by rw [now]; rfl, rfl⟩ (fun _ => rfl) nofun running fun _ => quiet
    | playback =>
      cases stepped
      exact sound.steersOn ⟨by rw [now]; rfl, rfl⟩ (fun _ => rfl) nofun running fun _ => quiet
  | stopped =>
    have quiet := sound.quiet (by rw [now]; rfl)
    rw [now] at stepped running
    cases stepped
    exact @steersOn before sound .freed before.purged before.running ⟨by rw [now]; rfl, rfl⟩ (fun _ => rfl) nofun running
      fun _ => quiet
  | freed =>
    rw [now] at stepped
    cases stepped

theorem step_sound {event : Event} (sound : before.Sound) (stepped : before.step event = some after) : after.Sound := by
  cases event with
  | control choice => exact sound.controlled stepped
  | completed place success => exact sound.completed stepped
  | routine place choice =>
    simp only [step] at stepped
    split at stepped
    · rename_i index point found
      exact sound.captureComplete found stepped
    · rename_i index point found
      cases stepped
      exact sound.playbackComplete found
    · cases stepped

theorem reachable_sound {captures playbacks : Nat} (reached : Reachable step (new captures playbacks) before) :
    before.Sound :=
  reached.invariant Sound (fun _ _ _ stepped sound => step_sound sound stepped) (new_sound captures playbacks)

theorem Sound.final (sound : before.Sound) (past : before.control.past = true) :
    before.inFlight = 0 ∧ ∀ completion ∈ before.completions, completion = .ended := by
  have quiet : before.control.quiet = true := by
    cases now : before.control with
    | restarting | stopped | freed => rfl
    | _ =>
      rw [now] at past
      cases past
  have zero := sound.quiet quiet
  have count := sound.count
  refine ⟨zero, fun completion member => ?_⟩
  have none : completion.counted = 0 := tally_eq_zero.mp (by omega) completion member
  cases completion with
  | ended => rfl
  | capture index point =>
    rw [counted_capture] at none
    omega
  | _ => cases none

/-- After `stop` has read zero nothing happens but its own last steps. -/
theorem Sound.silent (sound : before.Sound) (past : before.control.past = true) {event : Event}
    (stepped : before.step event = some after) :
    after.control.past = true ∧ after.completions = before.completions := by
  have ended := (sound.final past).2
  cases event with
  | control choice =>
    simp only [step] at stepped
    cases now : before.control with
    | restarting pipe =>
      rw [now] at stepped
      cases pipe <;> cases stepped <;> exact ⟨rfl, rfl⟩
    | stopped =>
      rw [now] at stepped
      cases stepped
      exact ⟨rfl, rfl⟩
    | freed =>
      rw [now] at stepped
      cases stepped
    | _ =>
      rw [now] at past
      cases past
  | completed place success =>
    simp only [step] at stepped
    split at stepped
    · rename_i found
      cases ended _ (List.mem_of_getElem? found)
    · rename_i found
      cases ended _ (List.mem_of_getElem? found)
    · cases stepped
  | routine place choice =>
    simp only [step] at stepped
    split at stepped
    · rename_i found
      cases ended _ (List.mem_of_getElem? found)
    · rename_i found
      cases ended _ (List.mem_of_getElem? found)
    · cases stepped

theorem Sound.silence (sound : before.Sound) (past : before.control.past = true) {events : List Event}
    (ran : run step before events = some after) : after.control.past = true ∧ after.completions = before.completions := by
  have kept := run_invariant
    (fun engine => engine.Sound ∧ engine.control.past = true ∧ engine.completions = before.completions) ?_
    (along_trivial before events) ran ⟨sound, past, rfl⟩
  · exact kept.2
  · rintro state event next _ stepped ⟨sound, past, same⟩
    obtain ⟨still, unchanged⟩ := sound.silent past stepped
    exact ⟨step_sound sound stepped, still, unchanged.trans same⟩

/-- The thread and its operation that send a transfer: a capture transfer is sent
by `start` once and then by its own completion. -/
def SentBy (engine : Engine) (event : Event) : Use → Prop
  | .capture index =>
    (∃ choice, event = .control choice ∧ engine.control = .submitting index .submit) ∨
    ∃ place choice, event = .routine place choice ∧
      engine.completions[place]? = some (.capture index (.resubmitting .submit))
  | .playback index =>
    ∃ place choice capture, event = .routine place choice ∧
      engine.completions[place]? = some (.capture capture (.sending index .submit))

theorem getElem?_set_append {members more : List Completion} {place : Nat} (inside : place < members.length)
    (new : Completion) : ((members ++ more).set place new)[members.length]? = more[0]? := by
  rw [List.getElem?_set_ne (Nat.ne_of_lt inside), List.getElem?_append_right (Nat.le_refl _), Nat.sub_self]

theorem getElem?_goesTo {place : Nat} (new : Completion) :
    (before.goesTo place new).completions[before.completions.length]? = none := by
  apply List.getElem?_eq_none_iff.mpr
  apply Nat.le_of_eq
  rw [goesTo, List.length_set]

/-- The thread that starts and stops sends nothing but captures at its start. -/
theorem controlled_completions {choice : Bool} {control : Control}
    (other : ∀ index point, control ≠ .submitting index point) (stepped : before.controlled choice control = some after) :
    after.completions = before.completions := by
  cases control with
  | submitting index point => exact absurd rfl (other index point)
  | fresh =>
    simp only [controlled] at stepped
    split at stepped <;> cases stepped <;> rfl
  | purging pipe | restarting pipe => cases pipe <;> cases stepped <;> rfl
  | freed => cases stepped
  | _ =>
    cases stepped
    rfl

/-- A send that is accepted is its own last operation. -/
theorem Sends.sent {use other : Use} {point : SendPoint} {next : SendPoint ⊕ Bool} {more : List Completion}
    (sends : Sends use point next before after more) (accepted : more[0]? = some (.accepted other)) :
    other = use ∧ point = .submit := by
  rcases sends.accepted with ⟨none, _⟩ | ⟨one, _, last⟩
  · rw [none] at accepted
    cases accepted
  · rw [one] at accepted
    cases accepted
    exact ⟨rfl, last⟩

theorem Sound.startSends (sound : before.Sound) {choice : Bool} {use : Use}
    (stepped : before.controlled choice before.control = some after)
    (sent : after.completions[before.completions.length]? = some (.accepted use)) :
    before.SentBy (.control choice) use := by
  have none : before.completions[before.completions.length]? = none := List.getElem?_eq_none (Nat.le_refl _)
  cases now : before.control with
  | submitting index point =>
    rw [now] at stepped
    obtain ⟨⟨middle, next⟩, submitted, same⟩ := Option.bind_eq_some_iff.mp stepped
    have total := sound.count
    rw [now] at total
    obtain ⟨more, sends⟩ := send_cases submitted (by rw [total]; exact Nat.le_add_left _ _)
    have kept : after.completions = before.completions ++ more := by
      cases same
      rw [sends.same]
      cases next with
      | inl following => rfl
      | inr success => cases success <;> rfl
    rw [kept, List.getElem?_append_right (Nat.le_refl _), Nat.sub_self] at sent
    obtain ⟨same, last⟩ := sends.sent sent
    subst same last
    exact .inl ⟨choice, rfl, now⟩
  | _ =>
    have other : ∀ index point, before.control ≠ .submitting index point := by
      intro index point same
      cases now.symm.trans same
    rw [controlled_completions other stepped, none] at sent
    cases sent

theorem Sound.routineSends (sound : before.Sound) {place index : Nat} {choice : Bool} {point : CapturePoint} {use : Use}
    (found : before.completions[place]? = some (.capture index point))
    (stepped : before.captureComplete place index choice point = some after)
    (sent : after.completions[before.completions.length]? = some (.accepted use)) :
    before.SentBy (.routine place choice) use := by
  have inside : place < before.completions.length := (List.getElem?_eq_some_iff.mp found).1
  have least : (Completion.capture index point).counted ≤ _ := le_tally found
  have total := sound.count
  rw [counted_capture] at least
  cases point with
  | sending playback point =>
    obtain ⟨⟨middle, next⟩, submitted, same⟩ := Option.bind_eq_some_iff.mp stepped
    obtain ⟨more, sends⟩ := send_cases submitted (show point.undecided ≤ _ by simp only [undecided] at least; omega)
    cases same
    rw [sends.same] at sent
    obtain ⟨same, last⟩ := sends.sent ((getElem?_set_append inside _).symm.trans sent)
    subst same last
    exact ⟨place, choice, index, rfl, found⟩
  | resubmitting point =>
    obtain ⟨⟨middle, next⟩, submitted, same⟩ := Option.bind_eq_some_iff.mp stepped
    obtain ⟨more, sends⟩ := send_cases submitted (show point.undecided ≤ _ by simp only [undecided] at least; omega)
    cases same
    rw [sends.same] at sent
    obtain ⟨same, last⟩ := sends.sent ((getElem?_set_append inside _).symm.trans sent)
    subst same last
    exact .inr ⟨place, choice, rfl, found⟩
  | claiming playback =>
    simp only [Engine.captureComplete] at stepped
    split at stepped <;> cases stepped <;> exact absurd ((getElem?_goesTo _).symm.trans sent) nofun
  | filling claimed =>
    cases claimed <;> cases stepped <;> exact absurd ((getElem?_goesTo _).symm.trans sent) nofun
  | _ =>
    cases stepped
    exact absurd ((getElem?_goesTo _).symm.trans sent) nofun

theorem Sound.sentBy (sound : before.Sound) {event : Event} {use : Use} (stepped : before.step event = some after)
    (sent : after.completions[before.completions.length]? = some (.accepted use)) : before.SentBy event use := by
  cases event with
  | control choice => exact sound.startSends stepped sent
  | completed place success =>
    simp only [step] at stepped
    split at stepped
    · cases stepped
      exact absurd ((getElem?_goesTo _).symm.trans sent) nofun
    · cases stepped
      exact absurd ((getElem?_goesTo _).symm.trans sent) nofun
    · cases stepped
  | routine place choice =>
    simp only [step] at stepped
    split at stepped
    · rename_i index point found
      exact sound.routineSends found stepped sent
    · rename_i index point found
      cases stepped
      cases point <;> exact absurd ((getElem?_goesTo _).symm.trans sent) nofun
    · cases stepped

end Engine

/-- In any run, the count of transfers in flight is exact, a transfer is used for
one thing at a time, and after `stop` has read zero every completion routine has
ended and nothing is sent any more. -/
theorem stopping_is_final (captures playbacks : Nat) {events : List Engine.Event} {engine : Engine}
    (ran : run Engine.step (.new captures playbacks) events = some engine) :
    engine.inFlight = tally Completion.waiting engine.completions + tally Completion.begun engine.completions +
      (tally Completion.undecided engine.completions + engine.control.undecided) ∧
    (∀ index, tally (Completion.claims index) engine.completions = held engine.busy index) ∧
    (∀ (index place other : Nat) (completion second : Completion), place ≠ other →
      engine.completions[place]? = some completion → engine.completions[other]? = some second →
      completion.claims index = 1 → second.claims index = 0) ∧
    (∀ index, tally (Completion.owns index) engine.completions + engine.control.owns engine.captures index ≤ 1) ∧
    (∀ event after use, engine.step event = some after →
      after.completions[engine.completions.length]? = some (.accepted use) → engine.SentBy event use) ∧
    (engine.control.past = true → engine.running = false ∧ engine.inFlight = 0 ∧
      (∀ completion ∈ engine.completions, completion = .ended) ∧
      ∀ more later, run Engine.step engine more = some later →
        later.control.past = true ∧ later.completions = engine.completions) := by
  have sound := Engine.reachable_sound ⟨events, ran⟩
  refine ⟨?_, sound.claimed, ?_, sound.owned, ?_, ?_⟩
  · rw [← Nat.add_assoc, ← tally_add, ← tally_add]
    exact sound.count
  · intro index place other completion second different found also claims
    have both : completion.claims index + second.claims index ≤ _ := add_le_tally different found also
    have claimed := sound.claimed index
    have most := held_le engine.busy index
    omega
  · intro event after use stepped sent
    exact sound.sentBy stepped sent
  · intro past
    obtain ⟨zero, ended⟩ := sound.final past
    refine ⟨?_, zero, ended, fun more later ran => sound.silence past ran⟩
    rw [sound.running]
    cases now : engine.control with
    | restarting | stopped | freed => rfl
    | _ =>
      rw [now] at past
      cases past

/-- One transfer each way; `stop` begins while a routine sends, which then fails. -/
def stoppedWhileSending : List Engine.Event :=
  List.replicate 6 (.control true) ++ [.completed 0 true] ++ List.replicate 7 (.routine 0 true) ++
    List.replicate 4 (.control true) ++ [.routine 0 false, .routine 0 true, .routine 0 true] ++
    List.replicate 4 (.routine 0 true) ++ [.control true, .routine 0 false, .routine 0 true, .routine 0 true, .control true]

theorem stopping_is_final_while_sending :
    ∃ engine, run Engine.step (.new 1 1) stoppedWhileSending = some engine ∧ engine.control = .restarting .capture ∧
      engine.inFlight = 0 ∧ ∀ completion ∈ engine.completions, completion = .ended := by
  have stopped : (run Engine.step (.new 1 1) stoppedWhileSending).any (·.control = .restarting .capture) = true := by
    decide +kernel
  obtain ⟨engine, ran, checked⟩ := (Option.any_eq_true _ _).mp stopped
  have restarting : engine.control = .restarting .capture := of_decide_eq_true checked
  obtain ⟨_, _, _, _, _, final⟩ := stopping_is_final 1 1 ran
  have past : engine.control.past = true := by rw [restarting, Control.past]
  obtain ⟨_, zero, ended, _⟩ := final past
  exact ⟨engine, ran, restarting, zero, ended⟩

end Ak1Driver.Driver.Flight
