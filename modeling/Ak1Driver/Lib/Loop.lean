import Mathlib.Data.List.FinRange

/-! Loops that can fail and loops that may not end, and what they keep. -/

namespace Ak1Driver.Lib.Loop

/-- A loop over the indices below `n` does not fail if no turn does, and keeps
what every turn keeps. -/
theorem foldlM_finRange {n : Nat} {turn : σ → Fin n → Option σ} (holds : Nat → σ → Prop)
    (kept : ∀ (i : Fin n) state, holds i state → ∃ after, turn state i = some after ∧ holds (i + 1) after)
    {start : σ} (initial : holds 0 start) :
    ∃ final, (List.finRange n).foldlM turn start = some final ∧ holds n final := by
  have upTo : ∀ count ≤ n, ∃ final, ((List.finRange n).take count).foldlM turn start = some final ∧ holds count final := by
    intro count inside
    induction count with
    | zero => exact ⟨start, rfl, initial⟩
    | succ count ih =>
      obtain ⟨state, ran, held⟩ := ih (Nat.le_of_succ_le inside)
      obtain ⟨after, turned, still⟩ := kept ⟨count, inside⟩ state held
      refine ⟨after, ?_, still⟩
      have next : (List.finRange n)[count]? = some ⟨count, inside⟩ := by
        rw [List.getElem?_eq_getElem (by rw [List.length_finRange]; exact inside), List.getElem_finRange]
        rfl
      rw [List.take_add_one, next, List.foldlM_append, ran]
      simp [turned]
  obtain ⟨final, ran, held⟩ := upTo n (Nat.le_refl n)
  rw [List.take_of_length_le (by simp)] at ran
  exact ⟨final, ran, held⟩

/-- Turns until one gives a result, or `none` after `fuel` turns without one. -/
def loop (turn : σ → σ ⊕ ρ) : Nat → σ → Option ρ
  | 0, _ => none
  | fuel + 1, state =>
    match turn state with
    | .inl next => loop turn fuel next
    | .inr result => some result

/-- A loop with an invariant and a variant ends, with enough fuel for the
variant, and its result is that of a turn from a state with the invariant. -/
theorem loop_ends {turn : σ → σ ⊕ ρ} (holds : σ → Prop) (post : ρ → Prop) (variant : σ → Nat)
    (goesOn : ∀ state next, holds state → turn state = .inl next → holds next ∧ variant next < variant state)
    (stops : ∀ state result, holds state → turn state = .inr result → post result)
    {fuel : Nat} {state : σ} (start : holds state) (enough : variant state < fuel) :
    ∃ result, loop turn fuel state = some result ∧ post result := by
  induction fuel generalizing state with
  | zero => exact absurd enough (Nat.not_lt_zero _)
  | succ fuel ih =>
    cases turned : turn state with
    | inl next =>
      obtain ⟨held, less⟩ := goesOn state next start turned
      obtain ⟨result, looped, met⟩ := ih held (by omega)
      exact ⟨result, by rw [loop, turned]; exact looped, met⟩
    | inr result => exact ⟨result, by rw [loop, turned], stops state result start turned⟩

/-- What every turn keeps holds of the result of a loop that ends. -/
theorem loop_keeps {turn : σ → σ ⊕ ρ} (holds : σ → Prop) (post : ρ → Prop)
    (goesOn : ∀ state next, holds state → turn state = .inl next → holds next)
    (stops : ∀ state result, holds state → turn state = .inr result → post result)
    {fuel : Nat} {state : σ} {result : ρ} (start : holds state) (looped : loop turn fuel state = some result) :
    post result := by
  induction fuel generalizing state with
  | zero => cases looped
  | succ fuel ih =>
    cases turned : turn state with
    | inl next =>
      rw [loop, turned] at looped
      exact ih (goesOn state next start turned) looped
    | inr last =>
      rw [loop, turned] at looped
      rw [← Option.some.inj looped]
      exact stops state last start turned

/-- Two loops whose turns stay in step end alike. -/
theorem loop_relates {turn : σ → σ ⊕ ρ} {other : τ → τ ⊕ κ} (related : σ → τ → Prop) (ended : ρ → κ → Prop)
    (turns : ∀ first second, related first second →
      (∃ next following, turn first = .inl next ∧ other second = .inl following ∧ related next following) ∨
      ∃ result outcome, turn first = .inr result ∧ other second = .inr outcome ∧ ended result outcome)
    {fuel : Nat} {first : σ} {second : τ} {result : ρ} {outcome : κ} (start : related first second)
    (looped : loop turn fuel first = some result) (also : loop other fuel second = some outcome) :
    ended result outcome := by
  induction fuel generalizing first second with
  | zero => cases looped
  | succ fuel ih =>
    rcases turns first second start with ⟨next, following, left, right, again⟩ | ⟨last, final, left, right, both⟩
    · rw [loop, left] at looped
      rw [loop, right] at also
      exact ih again looped also
    · rw [loop, left] at looped
      rw [loop, right] at also
      cases looped
      cases also
      exact both

end Ak1Driver.Lib.Loop
