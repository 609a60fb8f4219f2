import Mathlib.Algebra.Ring.Nat
import Mathlib.Data.Nat.ModEq
import Mathlib.Logic.Function.Basic

/-! Numbered pages that take turns in a few slots. A reader uses the pages one
by one; a writer writes those that come next, each into the slot that it will be
used from. A page that was not written in time shows what its slot showed a turn
before. -/

namespace Ak1Driver.Lib.Pages
variable {Page : Type} {count current number : Nat} {initial slots : Nat → Page} {pages : Nat → Option Page}

/-- The page that a slot shows on its turns. -/
def latest (count : Nat) (initial : Nat → Page) (pages : Nat → Option Page) (slot : Nat) : Nat → Page
  | 0 => (pages slot).getD (initial slot)
  | turn + 1 => (pages ((turn + 1) * count + slot)).getD (latest count initial pages slot turn)

/-- What is used as the page with a number. -/
def shown (count : Nat) (initial : Nat → Page) (pages : Nat → Option Page) (number : Nat) : Page :=
  latest count initial pages (number % count) (number / count)

theorem latest_written {slot turn : Nat} {page : Page} (written : pages (turn * count + slot) = some page) :
    latest count initial pages slot turn = page := by
  cases turn with
  | zero =>
    rw [Nat.zero_mul, Nat.zero_add] at written
    rw [latest, written, Option.getD_some]
  | succ turn => rw [latest, written, Option.getD_some]

/-- A page that was written is used as it was written. -/
theorem shown_written {page : Page} (written : pages number = some page) : shown count initial pages number = page := by
  apply latest_written
  rw [Nat.div_add_mod']
  exact written

theorem shown_missing (positive : 0 < count) (missing : pages (number + count) = none) :
    shown count initial pages (number + count) = shown count initial pages number := by
  have place : (number / count + 1) * count + number % count = number + count := by
    rw [Nat.succ_mul, Nat.add_right_comm, Nat.div_add_mod']
  rw [shown, Nat.add_mod_right, Nat.add_div_right _ positive, latest, place, missing]
  rfl

theorem latest_congr {others : Nat → Option Page} {slot turn : Nat}
    (same : ∀ earlier ≤ turn, others (earlier * count + slot) = pages (earlier * count + slot)) :
    latest count initial others slot turn = latest count initial pages slot turn := by
  induction turn with
  | zero =>
    have first := same 0 (Nat.le_refl _)
    rw [Nat.zero_mul, Nat.zero_add] at first
    rw [latest, latest, first]
  | succ turn ih =>
    rw [latest, latest, same (turn + 1) (Nat.le_refl _), ih fun earlier before => same earlier (Nat.le_succ_of_le before)]

/-- What is used as a page does not depend on later ones. -/
theorem shown_congr {others : Nat → Option Page} (same : ∀ earlier ≤ number, others earlier = pages earlier) :
    shown count initial others number = shown count initial pages number := by
  apply latest_congr
  intro turn before
  apply same
  apply Nat.le_trans (Nat.add_le_add_right (Nat.mul_le_mul_right count before) _)
  exact Nat.le_of_eq (Nat.div_add_mod' number count)

/-- Numbers less than a round apart have slots of their own. -/
theorem apart {first second : Nat} (least : current ≤ first) (most : first < current + count) (also : current ≤ second)
    (bound : second < current + count) (same : first % count = second % count) : first = second := by
  have ordered {low high : Nat} (least : current ≤ low) (bound : high < current + count) (before : low ≤ high)
      (same : low % count = high % count) : low = high := by
    obtain ⟨turns, split⟩ := (Nat.modEq_iff_dvd' before).mp same
    have none : turns = 0 := by
      by_contra some
      have far : count * 1 ≤ count * turns := Nat.mul_le_mul_left count (Nat.pos_of_ne_zero some)
      omega
    rw [none, Nat.mul_zero] at split
    omega
  rcases Nat.le_total first second with before | after
  · exact ordered least bound before same
  · exact (ordered also most after same.symm).symm

/-- The slots hold the pages from the one in use on, and no page was written for
a turn that is further away. -/
structure Ahead (count : Nat) (initial : Nat → Page) (pages : Nat → Option Page) (current : Nat) (slots : Nat → Page) : Prop where
  shows : ∀ number, current ≤ number → number < current + count → slots (number % count) = shown count initial pages number
  unwritten : ∀ number, current + count ≤ number → pages number = none

namespace Ahead

theorem start (same : ∀ slot < count, slots slot = initial slot) : Ahead count initial (fun _ => none) 0 slots := by
  refine ⟨?_, fun _ _ => rfl⟩
  intro number _ within
  rw [Nat.zero_add] at within
  rw [shown, Nat.mod_eq_of_lt within, Nat.div_eq_of_lt within, same number within]
  rfl

theorem use (ahead : Ahead count initial pages current slots) (positive : 0 < count) :
    slots (current % count) = shown count initial pages current :=
  ahead.shows current (Nat.le_refl _) (Nat.lt_add_of_pos_right positive)

/-- A page is written whose turn is less than a round away. -/
theorem write (ahead : Ahead count initial pages current slots) (soon : current ≤ number) (near : number < current + count)
    (page : Page) :
    Ahead count initial (Function.update pages number (some page)) current (Function.update slots (number % count) page) := by
  constructor
  · intro other least most
    by_cases same : other = number
    · subst same
      rw [Function.update_self, shown_written (Function.update_self _ _ _)]
    · have elsewhere : other % count ≠ number % count := mt (apart least most soon near) same
      rw [Function.update_of_ne elsewhere, ahead.shows other least most]
      -- An earlier page in the same slot would be a page that this one might show.
      symm
      apply latest_congr
      intro turn _
      apply Function.update_of_ne
      intro clash
      apply elsewhere
      rw [← clash, Nat.mul_add_mod', Nat.mod_mod]
  · intro other far
    rw [Function.update_of_ne (Nat.ne_of_gt (Nat.lt_of_lt_of_le near far))]
    exact ahead.unwritten other far

/-- The reader goes on to the next page. -/
theorem next (ahead : Ahead count initial pages current slots) (positive : 0 < count) :
    Ahead count initial pages (current + 1) slots := by
  constructor
  · intro number least most
    rcases Nat.lt_or_ge number (current + count) with near | far
    · exact ahead.shows number (Nat.le_of_succ_le least) near
    · have last : number = current + count := by omega
      rw [last, Nat.add_mod_right, ahead.use positive, shown_missing positive (ahead.unwritten _ (Nat.le_refl _))]
  · intro number far
    exact ahead.unwritten number (by omega)

end Ahead

/-- A ring of cells into which items are stored one by one holds the newest. -/
def Recent {Item : Type} (size : Nat) (items : List Item) (cells : Nat → Item) : Prop :=
  ∀ place item, items[place]? = some item → items.length ≤ place + size → cells (place % size) = item

namespace Recent
variable {Item : Type} {size : Nat} {items : List Item} {cells : Nat → Item}

theorem start (cells : Nat → Item) : Recent size [] cells := by
  intro place item found
  cases found

theorem store {after : Nat → Item} {item : Item} (recent : Recent size items cells) (positive : 0 < size)
    (here : after (items.length % size) = item)
    (others : ∀ cell < size, cell ≠ items.length % size → after cell = cells cell) : Recent size (items ++ [item]) after := by
  intro place other found near
  rw [List.length_append, List.length_singleton] at near
  rcases Nat.lt_or_ge place items.length with old | new
  · rw [List.getElem?_append_left old] at found
    have elsewhere : place % size ≠ items.length % size := by
      intro same
      have clash := apart (Nat.le_refl place) (Nat.lt_add_of_pos_right positive) (Nat.le_of_lt old) (by omega) same
      exact Nat.ne_of_lt old clash
    rw [others _ (Nat.mod_lt _ positive) elsewhere]
    exact recent place other found (Nat.le_of_succ_le near)
  · obtain ⟨inside, _⟩ := List.getElem?_eq_some_iff.mp found
    rw [List.length_append, List.length_singleton] at inside
    have last : place = items.length := by omega
    subst last
    rw [List.getElem?_concat_length] at found
    exact here.trans (Option.some.inj found)

end Recent
end Ak1Driver.Lib.Pages
