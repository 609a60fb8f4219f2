import Mathlib.Data.List.Basic

/-! Readers of a list of items that know how far they have come. A reader that
takes certain items off the front of every list reads them wherever they stand,
and what two readers read one after the other they read together. -/

namespace Ak1Driver.Lib

structure Reader.Input (α : Type) where
  position : Nat
  rest : List α

abbrev Reader (α : Type) := StateT (Reader.Input α) Option

namespace Reader

variable {α β γ : Type}

/-- The next item. -/
def next : Reader α α := fun input =>
  match input.rest with
  | [] => none
  | item :: rest => some (item, ⟨input.position + 1, rest⟩)

/-- The next item, left where it is. -/
def peek : Reader α α := fun input => input.rest.head?.map (·, input)

/-- Steps over the items in front of the next multiple of `size`. -/
def align (size : Nat) : Reader α Unit := fun input =>
  let skipped := (size - input.position % size) % size
  if input.rest.length < skipped then none else some ((), ⟨input.position + skipped, input.rest.drop skipped⟩)

/-- A result of the items read, or a failure. -/
def give (value : Option β) : Reader α β := fun input => value.map (·, input)

/-- The items before the first `stop`, which is stepped over. -/
def upTo [DecidableEq α] (stop : α) : Reader α (List α) := fun input => go input.position input.rest
where
  go (position : Nat) : List α → Option (List α × Input α)
    | [] => none
    | item :: rest =>
      if item = stop then some ([], ⟨position + 1, rest⟩)
      else (go (position + 1) rest).map fun (items, input) => (item :: items, input)

/-- So many values, one after the other. -/
def times (reader : Reader α β) : Nat → Reader α (List β)
  | 0 => pure []
  | count + 1 => do
    let value ← reader
    let values ← times reader count
    pure (value :: values)

/-- At a position a reader takes exactly these items, whatever follows. -/
def Reads (reader : Reader α β) (position : Nat) (items : List α) (value : β) : Prop :=
  ∀ rest, reader ⟨position, items ++ rest⟩ = some (value, ⟨position + items.length, rest⟩)

variable {position : Nat} {items : List α}

theorem Reads.pure (value : β) : Reads (pure value : Reader α β) position [] value := fun _ => rfl

theorem Reads.bind {reader : Reader α β} {follow : β → Reader α γ} {more : List α} {value : β} {result : γ}
    (first : Reads reader position items value) (second : Reads (follow value) (position + items.length) more result) :
    Reads (reader >>= follow) position (items ++ more) result := by
  intro rest
  have begun := first (more ++ rest)
  have ended := second rest
  rw [List.append_assoc, List.length_append, ← Nat.add_assoc]
  exact (congrArg (·.bind fun read => follow read.1 read.2) begun).trans ended

/-- A reader whose result is a function of another's. -/
theorem Reads.map {reader : Reader α β} {value : β} (first : Reads reader position items value) (change : β → γ) :
    Reads (reader >>= fun value => Pure.pure (change value)) position items (change value) := by
  have both : Reads (reader >>= fun value => Pure.pure (change value)) position (items ++ []) (change value) :=
    first.bind (Reads.pure (change value))
  rwa [List.append_nil] at both

theorem Reads.at {reader : Reader α β} {other : Nat} {value : β} (same : position = other)
    (read : Reads reader other items value) : Reads reader position items value := same ▸ read

theorem next_reads (item : α) : Reads next position [item] item := fun _ => rfl

theorem give_reads (value : β) : Reads (give (some value) : Reader α β) position [] value := fun _ => rfl

/-- Looking ahead changes nothing if there is an item to see. -/
theorem Reads.peek {follow : α → Reader α γ} {item : α} {result : γ}
    (read : Reads (follow item) position (item :: items) result) :
    Reads (Reader.peek >>= follow) position (item :: items) result := fun rest => read rest

theorem align_reads {size : Nat} {padding : List α} (exact : padding.length = (size - position % size) % size) :
    Reads (align size) position padding () := by
  intro rest
  have enough : ¬(padding ++ rest).length < (size - position % size) % size := by
    rw [List.length_append]
    omega
  simp only [align, if_neg enough]
  rw [← exact, List.drop_left]

theorem upTo_reads [DecidableEq α] {stop : α} (clean : stop ∉ items) : Reads (upTo stop) position (items ++ [stop]) items := by
  intro rest
  change upTo.go stop position (items ++ [stop] ++ rest) = _
  induction items generalizing position with
  | nil => exact if_pos rfl
  | cons item items ih =>
    have other : item ≠ stop := fun same => clean (same ▸ List.mem_cons_self)
    have later := @ih (position + 1) fun member => clean (List.mem_cons_of_mem _ member)
    rw [List.cons_append, List.cons_append, upTo.go, if_neg other, later]
    simp only [Option.map_some, List.length_cons, Nat.add_assoc, Nat.add_comm 1]

theorem times_zero (reader : Reader α β) : Reads (times reader 0) position [] [] := Reads.pure []

theorem times_succ {reader : Reader α β} {count : Nat} {more : List α} {value : β} {values : List β}
    (first : Reads reader position items value) (later : Reads (times reader count) (position + items.length) more values) :
    Reads (times reader (count + 1)) position (items ++ more) (value :: values) :=
  first.bind (later.map (value :: ·))

end Reader
end Ak1Driver.Lib
