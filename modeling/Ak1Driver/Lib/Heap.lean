import Mathlib.Data.List.Perm.Basic
import Mathlib.Data.List.Nodup

/-! Objects that are acquired and released by hand. An object may need another
one for as long as it lives, or belong to another one and go with it. Who owns
which objects is kept as blocks that refer to nothing outside themselves, so that
one block can be worked on while the others stay as they are. -/

namespace Ak1Driver.Lib

/-- How the objects of a kind depend on others. -/
class Dependent (κ : Type u) where
  /-- The object that has to live on. -/
  needs : κ → Option Nat
  /-- The object that takes this one with it. -/
  belongs : κ → Option Nat

abbrev Entry (κ : Type u) := Nat × κ

structure Heap (κ : Type u) where
  live : List (Entry κ) := []
  next : Nat := 0
  /-- Something was released that was not in use, or that was still needed. -/
  misused : Bool := false

namespace Heap
variable {κ : Type u}

def acquire (kind : κ) (heap : Heap κ) : Nat × Heap κ :=
  (heap.next, { heap with live := heap.live ++ [(heap.next, kind)], next := heap.next + 1 })

variable [Dependent κ]

/-- What is left of some objects without one of them. -/
def without (handle : Nat) (entries : List (Entry κ)) : List (Entry κ) :=
  entries.filter fun entry => entry.1 != handle && Dependent.belongs entry.2 != some handle

/-- Whether one of some objects can be released. -/
def releasable (handle : Nat) (entries : List (Entry κ)) : Bool :=
  entries.any (·.1 == handle) && entries.all fun entry => Dependent.needs entry.2 != some handle

def release (handle : Nat) (heap : Heap κ) : Heap κ :=
  { heap with live := without handle heap.live, misused := heap.misused || !releasable handle heap.live }

def handles (entries : List (Entry κ)) : List Nat := entries.map Prod.fst

/-- Whatever the objects refer to is among them. -/
def Closed (entries : List (Entry κ)) : Prop :=
  ∀ entry ∈ entries, ∀ handle, Dependent.needs entry.2 = some handle ∨ Dependent.belongs entry.2 = some handle →
    handle ∈ handles entries

/-- The heap holds the objects of these blocks and no others, and was never misused. -/
structure Owns (heap : Heap κ) (blocks : List (List (Entry κ))) : Prop where
  live : heap.live.Perm blocks.flatten
  distinct : (handles blocks.flatten).Nodup
  closed : ∀ block ∈ blocks, Closed block
  fresh : ∀ handle ∈ handles blocks.flatten, handle < heap.next
  proper : heap.misused = false

variable {heap : Heap κ} {blocks others : List (List (Entry κ))} {block : List (Entry κ)} {handle : Nat}

theorem owns_nothing : Owns ({} : Heap κ) [] := by
  refine ⟨.refl _, List.nodup_nil, ?_, ?_, rfl⟩
  · exact List.forall_mem_nil _
  · exact List.forall_mem_nil _

theorem Owns.perm (owns : Owns heap blocks) (same : blocks.Perm others) : Owns heap others := by
  have flat : blocks.flatten.Perm others.flatten := same.flatten
  have also : (handles blocks.flatten).Perm (handles others.flatten) := flat.map Prod.fst
  refine ⟨owns.live.trans flat, also.nodup_iff.mp owns.distinct, ?_, ?_, owns.proper⟩
  · exact fun block member => owns.closed block (same.mem_iff.mpr member)
  · exact fun handle member => owns.fresh handle (also.mem_iff.mpr member)

theorem closed_nil : Closed ([] : List (Entry κ)) := fun _ member => by cases member

theorem Owns.skip : Owns heap ([] :: blocks) ↔ Owns heap blocks := by
  constructor
  · intro owns
    exact ⟨owns.live, owns.distinct, fun block member => owns.closed block (List.mem_cons_of_mem _ member), owns.fresh, owns.proper⟩
  · intro owns
    refine ⟨owns.live, owns.distinct, ?_, owns.fresh, owns.proper⟩
    intro block member
    rcases List.mem_cons.mp member with rfl | later
    · exact closed_nil
    · exact owns.closed block later

/-- A new object goes into the first block, with whatever it depends on. -/
theorem Owns.acquire (owns : Owns heap (block :: blocks)) (kind : κ)
    (inside : ∀ other, Dependent.needs kind = some other ∨ Dependent.belongs kind = some other → other ∈ handles block) :
    Owns (heap.acquire kind).2 ((block ++ [((heap.acquire kind).1, kind)]) :: blocks) := by
  have moved : (heap.live ++ [(heap.next, kind)]).Perm ((block ++ [(heap.next, kind)]) :: blocks).flatten := by
    rw [List.flatten_cons, List.append_assoc]
    apply (owns.live.append_right _).trans
    rw [List.flatten_cons, List.append_assoc]
    exact (List.perm_append_comm).append_left block
  have held : (handles ((block ++ [(heap.next, kind)]) :: blocks).flatten).Perm
      (heap.next :: handles (block :: blocks).flatten) := by
    simp only [handles, List.flatten_cons, List.map_append, List.map_cons, List.append_assoc, List.singleton_append]
    exact List.perm_middle
  refine ⟨moved, held.nodup_iff.mpr (List.nodup_cons.mpr ⟨?_, owns.distinct⟩), ?_, ?_, owns.proper⟩
  · exact fun old => Nat.lt_irrefl _ (owns.fresh _ old)
  · intro other member
    rcases List.mem_cons.mp member with rfl | later
    · intro entry present handle refers
      rw [handles, List.map_append]
      apply List.mem_append_left
      rcases List.mem_append.mp present with old | new
      · exact owns.closed block (List.mem_cons_self ..) entry old handle refers
      · rw [List.mem_singleton.mp new] at refers
        exact inside handle refers
    · exact owns.closed other (List.mem_cons_of_mem _ later)
  · intro other member
    rcases List.mem_cons.mp (held.mem_iff.mp member) with rfl | old
    · exact Nat.lt_succ_self _
    · exact Nat.lt_succ_of_lt (owns.fresh other old)

/-- Nothing in another block has to do with an object of the first. -/
theorem Owns.apart (owns : Owns heap (block :: blocks)) (here : handle ∈ handles block) :
    ∀ entry ∈ blocks.flatten, entry.1 ≠ handle ∧ Dependent.needs entry.2 ≠ some handle ∧ Dependent.belongs entry.2 ≠ some handle := by
  have distinct := owns.distinct
  rw [handles, List.flatten_cons, List.map_append] at distinct
  have separate : ∀ other ∈ handles blocks.flatten, other ≠ handle := by
    intro other there same
    exact List.disjoint_of_nodup_append distinct here (same ▸ there)
  intro entry member
  obtain ⟨owner, owned, present⟩ := List.mem_flatten.mp member
  have refers : ∀ other, Dependent.needs entry.2 = some other ∨ Dependent.belongs entry.2 = some other → other ≠ handle := by
    intro other reference
    have inside := owns.closed owner (List.mem_cons_of_mem _ owned) entry present other reference
    obtain ⟨target, there, rfl⟩ := List.mem_map.mp inside
    exact separate _ (List.mem_map_of_mem (List.mem_flatten_of_mem owned there))
  refine ⟨separate _ (List.mem_map_of_mem member), ?_, ?_⟩
  · exact fun needed => refers handle (.inl needed) rfl
  · exact fun belonging => refers handle (.inr belonging) rfl

theorem without_of_apart {entries : List (Entry κ)}
    (apart : ∀ entry ∈ entries, entry.1 ≠ handle ∧ Dependent.needs entry.2 ≠ some handle ∧ Dependent.belongs entry.2 ≠ some handle) :
    without handle entries = entries := by
  apply List.filter_eq_self.mpr
  intro entry member
  obtain ⟨other, _, belongs⟩ := apart entry member
  exact Bool.and_eq_true_iff.mpr ⟨bne_iff_ne.mpr other, bne_iff_ne.mpr belongs⟩

theorem handles_without (handle : Nat) (entries : List (Entry κ)) :
    (handles (without handle entries)).Sublist (handles entries) := (List.filter_sublist).map Prod.fst

/-- An object that nothing needs can be released, and its block keeps the rest. -/
theorem Owns.release (owns : Owns heap (block :: blocks)) (here : handle ∈ handles block)
    (unneeded : ∀ entry ∈ block, Dependent.needs entry.2 ≠ some handle) (closed : Closed (without handle block)) :
    Owns (heap.release handle) (without handle block :: blocks) := by
  have apart := owns.apart here
  have kept : without handle (block :: blocks).flatten = (without handle block :: blocks).flatten := by
    rw [List.flatten_cons, List.flatten_cons, without, List.filter_append]
    exact congrArg (without handle block ++ ·) (without_of_apart apart)
  have fewer : (handles (without handle block :: blocks).flatten).Sublist (handles (block :: blocks).flatten) := by
    rw [← kept]
    exact handles_without handle _
  refine ⟨?_, owns.distinct.sublist fewer, ?_, ?_, ?_⟩
  · rw [← kept]
    exact owns.live.filter _
  · intro other member
    rcases List.mem_cons.mp member with rfl | later
    · exact closed
    · exact owns.closed other (List.mem_cons_of_mem _ later)
  · exact fun other member => owns.fresh other (fewer.subset member)
  · have allowed : releasable handle heap.live = true := by
      apply Bool.and_eq_true_iff.mpr
      constructor
      · obtain ⟨entry, present, rfl⟩ := List.mem_map.mp here
        apply List.any_eq_true.mpr
        refine ⟨entry, owns.live.mem_iff.mpr ?_, beq_self_eq_true _⟩
        exact List.mem_flatten_of_mem (List.mem_cons_self ..) present
      · apply List.all_eq_true.mpr
        intro entry present
        apply bne_iff_ne.mpr
        rcases List.mem_append.mp (owns.live.mem_iff.mp present) with mine | theirs
        · exact unneeded entry mine
        · exact (apart entry theirs).2.1
    rw [Heap.release, allowed, owns.proper]
    rfl

section Small
variable {kind other : κ} {first second : Nat}

/-- A new object that refers to nothing is a block of its own. -/
theorem Owns.begin (owns : Owns heap blocks) (kind : κ) (needs : Dependent.needs kind = none) (belongs : Dependent.belongs kind = none) :
    Owns (heap.acquire kind).2 ([((heap.acquire kind).1, kind)] :: blocks) := by
  apply (Owns.skip.mpr owns).acquire
  intro handle refers
  rw [needs, belongs] at refers
  rcases refers with impossible | impossible
  · cases impossible
  · cases impossible

theorem Owns.release_one (owns : Owns heap ([(first, kind)] :: blocks)) (needs : Dependent.needs kind = none) :
    Owns (heap.release first) blocks := by
  have gone : without first [(first, kind)] = [] := by
    simp [without]
  apply Owns.skip.mp
  rw [← gone]
  apply owns.release (List.mem_singleton_self first)
  · intro entry member
    rw [List.mem_singleton.mp member, needs]
    exact (Option.some_ne_none _).symm
  · rw [gone]
    exact closed_nil

/-- What belongs to an object goes with it. -/
theorem Owns.release_family (owns : Owns heap ([(first, kind), (second, other)] :: blocks)) (needs : Dependent.needs kind = none)
    (also : Dependent.needs other = none) (belongs : Dependent.belongs other = some first) : Owns (heap.release first) blocks := by
  have gone : without first [(first, kind), (second, other)] = [] := by
    simp [without, belongs]
  apply Owns.skip.mp
  rw [← gone]
  apply owns.release (List.mem_cons_self ..)
  · intro entry member
    rcases List.mem_pair.mp member with rfl | rfl
    · exact needs ▸ (Option.some_ne_none _).symm
    · exact also ▸ (Option.some_ne_none _).symm
  · rw [gone]
    exact closed_nil

/-- What needs an object is released before it. -/
theorem Owns.release_pair (owns : Owns heap ([(first, kind), (second, other)] :: blocks)) (needs : Dependent.needs kind = none)
    (belongs : Dependent.belongs kind = none) (also : Dependent.needs other = some first) :
    Owns ((heap.release second).release first) blocks := by
  have distinct := owns.distinct
  rw [handles, List.flatten_cons, List.map_append] at distinct
  have apart : first ≠ second := by
    intro same
    have twice := (List.nodup_append.mp distinct).1
    simp [same] at twice
  have left : without second [(first, kind), (second, other)] = [(first, kind)] := by
    simp [without, belongs, apart]
  apply Owns.release_one _ needs
  rw [← left]
  apply owns.release (List.mem_cons_of_mem _ (List.mem_singleton_self second))
  · intro entry member
    rcases List.mem_pair.mp member with rfl | rfl
    · exact needs ▸ (Option.some_ne_none _).symm
    · rw [also]
      exact fun same => apart (Option.some.inj same)
  · rw [left]
    intro entry member handle refers
    rw [List.mem_singleton.mp member, needs, belongs] at refers
    rcases refers with impossible | impossible
    · cases impossible
    · cases impossible

end Small
end Heap
end Ak1Driver.Lib
