import Mathlib.Algebra.Order.BigOperators.Group.List
import Mathlib.Algebra.Order.Ring.Nat
import Ak1Driver.Asio.Server
import Ak1Driver.Lib.Tally

/-! An object lives as long as it is referred to, and the library stays loaded as
long as it has objects, in whatever order the operations of several threads come. -/

namespace Ak1Driver.Asio.Server
open Lib Lib.Transition

/-- What a call can have to do with an object. -/
inductive Stake where
  /-- It has references. -/
  | owns
  /-- It has the only reference, to an object that nobody else knows. -/
  | queries
  /-- It has taken the last reference. -/
  | drops
  /-- It has seen the watch end. -/
  | frees
  | uses

@[simp] def Releasing.stake (hands : Bool) : Releasing → Stake → Nat
  | .leaving, .owns => 1 + hands.toNat
  | .dropping, .drops | .freeing, .drops | .freeing, .frees => 1
  | _, _ => 0

@[simp] def Call.stake (call : Call) (place : Nat) (stake : Stake) : Nat :=
  match stake, call with
  | .owns, .querying object _ | .queries, .querying object _ | .uses, .method object _ => if object = place then 1 else 0
  | stake, .releasing object hands point => if object = place then point.stake hands stake else 0
  | _, _ => 0

/-- The call has an object counted that it has not made yet, or has freed. -/
@[simp] def Call.counts : Call → Nat
  | .creating _ | .releasing _ _ .uncounting => 1
  | _ => 0

/-- A call goes on, which changes what all calls have to do with an object. -/
structure Moved (place : Nat) (old new : Call) (before after : Stake → Nat) : Prop where
  goes : ∀ stake, after stake + old.stake place stake = before stake + new.stake place stake
  owned : after .queries ≤ after .owns
  dropped : after .frees ≤ after .drops

theorem Moved.each {place : Nat} {old new : Call} {before after : Stake → Nat} (moved : Moved place old new before after) :
    (after .owns + old.stake place .owns = before .owns + new.stake place .owns) ∧
      (after .queries + old.stake place .queries = before .queries + new.stake place .queries) ∧
      (after .drops + old.stake place .drops = before .drops + new.stake place .drops) ∧
      (after .frees + old.stake place .frees = before .frees + new.stake place .frees) ∧
      after .uses + old.stake place .uses = before .uses + new.stake place .uses :=
  ⟨moved.goes .owns, moved.goes .queries, moved.goes .drops, moved.goes .frees, moved.goes .uses⟩

def stakes (server : Server) (place : Nat) (stake : Stake) : Nat := tally (·.stake place stake) server.calls

/-- An object and what all calls have to do with it. -/
structure Kept (object : Object) (stakes : Stake → Nat) : Prop where
  refs : object.refs = UInt32.ofNat (object.held + stakes .owns)
  bounded : object.held + stakes .owns < 2 ^ 32
  life : stakes .drops + min 1 (object.held + stakes .owns) = object.alive.toNat
  fresh : 0 < stakes .queries → object.held + stakes .owns = 1
  owned : stakes .queries ≤ stakes .owns
  dropped : stakes .frees ≤ stakes .drops
  bare : 0 < stakes .frees → object.watch = none
  borrowed : 0 < stakes .uses → 0 < object.held

namespace Kept
variable {object : Object} {before after : Stake → Nat}

theorem refs_toNat (kept : Kept object before) : object.refs.toNat = object.held + before .owns := by
  rw [kept.refs]
  exact UInt32.toNat_ofNat_of_lt' kept.bounded

theorem alive_of_referred (kept : Kept object before) (referred : 0 < object.held + before .owns) :
    object.alive = true ∧ before .drops = 0 := by
  have life := kept.life
  have most := Bool.toNat_le object.alive
  exact ⟨Bool.toNat_eq_one.mp (by omega), by omega⟩

theorem alive_of_drops (kept : Kept object before) (drops : 0 < before .drops) :
    object.alive = true ∧ before .drops = 1 ∧ object.held + before .owns = 0 := by
  have life := kept.life
  have most := Bool.toNat_le object.alive
  exact ⟨Bool.toNat_eq_one.mp (by omega), by omega, by omega⟩

/-- The host has one more. -/
theorem addRef (kept : Kept object before) (held : 0 < object.held) (room : object.refs.toNat + 1 < 2 ^ 32) :
    Kept { object with refs := object.refs + 1, held := object.held + 1 } before := by
  have total := kept.refs_toNat
  obtain ⟨refs, bounded, life, fresh, owned, dropped, bare, borrowed⟩ := kept
  refine ⟨?_, ?_, ?_, ?_, owned, dropped, bare, fun _ => Nat.succ_pos _⟩
  · rw [Nat.add_right_comm, UInt32.ofNat_add, ← refs]
    rfl
  · dsimp only
    omega
  · dsimp only
    omega
  · dsimp only
    omega

variable {place : Nat} {old new : Call}

/-- The host begins to give one of its references back. -/
theorem release (kept : Kept object before) (moved : Moved place .returned (.releasing place false .leaving) before after)
    (held : 0 < object.held) (free : object.held = 1 → before .uses = 0) :
    Kept { object with held := object.held - 1 } after := by
  obtain ⟨owns, queries, drops, frees, uses⟩ := moved.each
  simp only [Call.stake, Releasing.stake, ↓reduceIte, Bool.toNat_false, Nat.add_zero] at owns queries drops frees uses
  obtain ⟨refs, bounded, life, fresh, owned, dropped, bare, borrowed⟩ := kept
  have total : object.held - 1 + after .owns = object.held + before .owns := by
    omega
  refine ⟨?_, ?_, ?_, ?_, ?_, ?_, ?_, ?_⟩
  · rw [total]
    exact refs
  · rw [total]
    exact bounded
  · rw [total, drops]
    exact life
  · rw [total, queries]
    exact fresh
  · exact moved.owned
  · exact moved.dropped
  · rw [frees]
    exact bare
  · dsimp only
    omega

/-- Only the methods under way change. -/
theorem lends (kept : Kept object before) (owns : after .owns = before .owns) (queries : after .queries = before .queries)
    (drops : after .drops = before .drops) (frees : after .frees = before .frees) (borrowed : 0 < after .uses → 0 < object.held) :
    Kept object after := by
  refine ⟨?_, ?_, ?_, ?_, ?_, ?_, ?_, borrowed⟩
  · rw [owns]
    exact kept.refs
  · rw [owns]
    exact kept.bounded
  · rw [owns, drops]
    exact kept.life
  · rw [owns, queries]
    exact kept.fresh
  · rw [owns, queries]
    exact kept.owned
  · rw [drops, frees]
    exact kept.dropped
  · rw [frees]
    exact kept.bare

theorem enter {init : Bool} (kept : Kept object before) (moved : Moved place .returned (.method place init) before after)
    (held : 0 < object.held) : Kept object after := by
  obtain ⟨owns, queries, drops, frees, _⟩ := moved.each
  simp only [Call.stake, Nat.add_zero] at owns queries drops frees
  exact kept.lends owns queries drops frees fun _ => held

theorem leave {init : Bool} (kept : Kept object before) (moved : Moved place (.method place init) .returned before after) :
    Kept object after := by
  obtain ⟨owns, queries, drops, frees, uses⟩ := moved.each
  simp only [Call.stake, ↓reduceIte, Nat.add_zero] at owns queries drops frees uses
  exact kept.lends owns queries drops frees fun used => kept.borrowed (uses ▸ Nat.lt_succ_of_lt used)

/-- `CreateInstance` asks the object that it has made for the interface. -/
theorem query {known : Bool} (kept : Kept object before)
    (moved : Moved place (.querying place known) (.releasing place known .leaving) before after) :
    Kept (if known then { object with refs := object.refs + 1 } else object) after := by
  obtain ⟨owns, queries, drops, frees, uses⟩ := moved.each
  simp only [Call.stake, Releasing.stake, ↓reduceIte, Nat.add_zero] at owns queries drops frees uses
  obtain ⟨refs, bounded, life, fresh, owned, dropped, bare, borrowed⟩ := kept
  have one := fresh (by omega)
  cases known with
  | true =>
    simp only [Bool.toNat_true, ↓reduceIte] at owns ⊢
    have total : object.held + after .owns = object.held + before .owns + 1 := by
      omega
    refine ⟨?_, ?_, ?_, ?_, ?_, ?_, ?_, ?_⟩
    · rw [total, UInt32.ofNat_add, ← refs]
      rfl
    · dsimp only
      omega
    · dsimp only
      omega
    · omega
    · exact moved.owned
    · exact moved.dropped
    · rw [frees]
      exact bare
    · rw [uses]
      exact borrowed
  | false =>
    simp only [Bool.toNat_false, Nat.add_zero, Bool.false_eq_true, ↓reduceIte] at owns ⊢
    have same : after .owns = before .owns := Nat.add_right_cancel owns
    refine ⟨?_, ?_, ?_, ?_, ?_, ?_, ?_, ?_⟩
    · rw [same]
      exact refs
    · rw [same]
      exact bounded
    · rw [same, drops]
      exact life
    · omega
    · exact moved.owned
    · exact moved.dropped
    · rw [frees]
      exact bare
    · rw [uses]
      exact borrowed

theorem refs_less (kept : Kept object before) (referred : 0 < object.held + before .owns) :
    object.refs - 1 = UInt32.ofNat (object.held + before .owns - 1) := by
  rw [kept.refs]
  apply UInt32.sub_eq_iff_eq_add.mpr
  rw [← show UInt32.ofNat 1 = 1 from rfl, ← UInt32.ofNat_add, Nat.sub_add_cancel referred]

/-- A reference is counted out that was not the last. -/
theorem leaveMore {hands : Bool} (kept : Kept object before)
    (moved : Moved place (.releasing place hands .leaving) .returned before after) (more : object.refs - 1 ≠ 0) :
    Kept { object with refs := object.refs - 1, held := object.held + hands.toNat } after := by
  obtain ⟨owns, queries, drops, frees, uses⟩ := moved.each
  simp only [Call.stake, Releasing.stake, ↓reduceIte, Nat.add_zero] at owns queries drops frees uses
  have less := kept.refs_less (by omega)
  obtain ⟨refs, bounded, life, fresh, owned, dropped, bare, borrowed⟩ := kept
  have several : object.held + before .owns ≠ 1 := by
    intro one
    rw [one] at less
    exact more less
  have total : object.held + hands.toNat + after .owns = object.held + before .owns - 1 := by
    omega
  refine ⟨?_, ?_, ?_, ?_, ?_, ?_, ?_, ?_⟩
  · rw [total]
    exact less
  · dsimp only
    omega
  · dsimp only
    omega
  · omega
  · exact moved.owned
  · exact moved.dropped
  · rw [frees]
    exact bare
  · dsimp only
    omega

/-- The last reference is counted out. -/
theorem leaveLast {hands : Bool} (kept : Kept object before)
    (moved : Moved place (.releasing place hands .leaving) (.releasing place hands .dropping) before after)
    (last : object.refs - 1 = 0) : Kept { object with refs := object.refs - 1 } after := by
  obtain ⟨owns, queries, drops, frees, uses⟩ := moved.each
  simp only [Call.stake, Releasing.stake, ↓reduceIte, Nat.add_zero] at owns queries drops frees uses
  have less := kept.refs_less (by omega)
  obtain ⟨refs, bounded, life, fresh, owned, dropped, bare, borrowed⟩ := kept
  have none : object.held + before .owns - 1 = 0 := by
    have small := UInt32.toNat_ofNat_of_lt' (Nat.lt_of_le_of_lt (Nat.sub_le (object.held + before .owns) 1) bounded)
    rw [less.symm.trans last] at small
    exact small.symm
  refine ⟨?_, ?_, ?_, ?_, ?_, ?_, ?_, ?_⟩
  · rw [last, show object.held + after .owns = 0 by omega]
    rfl
  · dsimp only
    omega
  · dsimp only
    omega
  · have most := moved.owned
    omega
  · exact moved.owned
  · exact moved.dropped
  · rw [frees]
    exact bare
  · dsimp only
    omega

/-- The watch has ended. -/
theorem bared {hands : Bool} (kept : Kept object before)
    (moved : Moved place (.releasing place hands .dropping) (.releasing place hands .freeing) before after) :
    Kept { object with watch := none } after := by
  obtain ⟨owns, queries, drops, frees, uses⟩ := moved.each
  simp only [Call.stake, Releasing.stake, ↓reduceIte, Nat.add_zero] at owns queries drops frees uses
  obtain ⟨refs, bounded, life, fresh, owned, dropped, bare, borrowed⟩ := kept
  refine ⟨?_, ?_, ?_, ?_, ?_, ?_, fun _ => rfl, ?_⟩
  · rw [owns]
    exact refs
  · rw [owns]
    exact bounded
  · dsimp only
    omega
  · rw [owns, queries]
    exact fresh
  · exact moved.owned
  · exact moved.dropped
  · rw [uses]
    exact borrowed

theorem freed {hands : Bool} (kept : Kept object before)
    (moved : Moved place (.releasing place hands .freeing) (.releasing place hands .uncounting) before after) :
    Kept { object with alive := false } after := by
  obtain ⟨owns, queries, drops, frees, uses⟩ := moved.each
  simp only [Call.stake, Releasing.stake, ↓reduceIte, Nat.add_zero] at owns queries drops frees uses
  obtain ⟨_, only, none⟩ := kept.alive_of_drops (Nat.lt_of_lt_of_le (show 0 < before .frees by omega) kept.dropped)
  obtain ⟨refs, bounded, life, fresh, owned, dropped, bare, borrowed⟩ := kept
  refine ⟨?_, ?_, ?_, ?_, ?_, ?_, ?_, ?_⟩
  · rw [owns]
    exact refs
  · rw [owns]
    exact bounded
  · dsimp only
    rw [Bool.toNat_false]
    omega
  · rw [owns, queries]
    exact fresh
  · exact moved.owned
  · exact moved.dropped
  · exact fun more => bare (by omega)
  · rw [uses]
    exact borrowed

end Kept
/-- What `OBJECTS` counts. -/
def total (server : Server) : Nat :=
  server.locks + tally (·.alive.toNat) server.objects + tally Call.counts server.calls

structure Sound (server : Server) : Prop where
  kept : ∀ place object, server.objects[place]? = some object → Kept object (server.stakes place)
  known : ∀ place, server.objects.length ≤ place → ∀ stake, server.stakes place stake = 0
  counted : server.count = UInt32.ofNat server.total
  room : server.total < 2 ^ 32
  watching : ∀ (number : Nat) (watcher : Watcher), server.watchers[number]? = some watcher → watcher.running = true →
    ∃ object : Object, server.objects[watcher.object]? = some object ∧ object.alive = true ∧ object.watch = some number
  faultless : server.faulted = false

section Stakes
variable {server after : Server} {place number : Nat} {old new : Call}

theorem stake_returned (place : Nat) (stake : Stake) : Call.returned.stake place stake = 0 := by
  cases stake <;> rfl

theorem stake_creating (known : Bool) (place : Nat) (stake : Stake) : (Call.creating known).stake place stake = 0 := by
  cases stake <;> rfl

/-- A call has to do with its own object only. -/
theorem stake_elsewhere {place other : Nat} (different : other ≠ place) (stake : Stake) :
    (∀ known, (Call.querying place known).stake other stake = 0) ∧
      (∀ hands point, (Call.releasing place hands point).stake other stake = 0) ∧
      ∀ init, (Call.method place init).stake other stake = 0 := by
  cases stake <;> simp [Call.stake, Ne.symm different]

theorem stake_owned (place : Nat) (call : Call) : call.stake place .queries ≤ call.stake place .owns := by
  cases call with
  | creating | method | returned => exact Nat.le_refl _
  | querying object known => exact Nat.le_refl _
  | releasing object hands point =>
    simp only [Call.stake]
    split
    · cases point <;> exact Nat.zero_le _
    · exact Nat.le_refl _

theorem stake_dropped (place : Nat) (call : Call) : call.stake place .frees ≤ call.stake place .drops := by
  cases call with
  | creating | method | returned => exact Nat.le_refl _
  | querying object known => exact Nat.le_refl _
  | releasing object hands point =>
    simp only [Call.stake]
    split
    · cases point <;> simp [Releasing.stake]
    · exact Nat.le_refl _

theorem moved_of_goes (goes : ∀ stake, after.stakes place stake + old.stake place stake =
    server.stakes place stake + new.stake place stake) : Moved place old new (server.stakes place) (after.stakes place) :=
  ⟨goes, List.sum_le_sum fun call _ => stake_owned place call, List.sum_le_sum fun call _ => stake_dropped place call⟩

theorem moved_of_set (found : server.calls[number]? = some old) (calls : after.calls = server.calls.set number new) (place : Nat) :
    Moved place old new (server.stakes place) (after.stakes place) := by
  apply moved_of_goes
  intro stake
  rw [stakes, calls]
  exact tally_set found new

theorem moved_of_append (calls : after.calls = server.calls ++ [new]) (place : Nat) :
    Moved place .returned new (server.stakes place) (after.stakes place) := by
  apply moved_of_goes
  intro stake
  rw [stakes, calls, tally_append, tally_cons, tally_nil, stake_returned]
  rfl

theorem Moved.same {before later : Stake → Nat} (moved : Moved place old new before later)
    (even : ∀ stake, old.stake place stake = new.stake place stake) : later = before := by
  funext stake
  have goes := moved.goes stake
  rw [even stake] at goes
  exact Nat.add_right_cancel goes

theorem stake_le {call : Call} (found : server.calls[number]? = some call) (place : Nat) (stake : Stake) :
    call.stake place stake ≤ server.stakes place stake :=
  @le_tally _ (fun call => call.stake place stake) server.calls number call found

end Stakes

namespace Sound
variable {server after : Server} {place number : Nat} {object changed : Object} {old new : Call}

/-- One object changes. -/
theorem change (sound : server.Sound) (here : server.objects[place]? = some object)
    (objects : after.objects = server.objects.set place changed) (kept : Kept changed (after.stakes place))
    (others : ∀ other, other ≠ place → after.stakes other = server.stakes other) (count : after.count = server.count)
    (total : after.total = server.total)
    (watching : ∀ (number : Nat) (watcher : Watcher), after.watchers[number]? = some watcher → watcher.running = true →
      watcher.object = place ∧ changed.alive = true ∧ changed.watch = some number ∨
        watcher.object ≠ place ∧ server.watchers[number]? = some watcher)
    (faultless : after.faulted = false) : after.Sound := by
  have inside := (List.getElem?_eq_some_iff.mp here).1
  refine ⟨?_, ?_, ?_, ?_, ?_, faultless⟩
  · intro other found present
    rw [objects] at present
    by_cases same : other = place
    · subst same
      rw [List.getElem?_set_self inside] at present
      cases present
      exact kept
    · rw [List.getElem?_set_ne (Ne.symm same)] at present
      rw [others other same]
      exact sound.kept other found present
  · intro other outside
    rw [objects, List.length_set] at outside
    rw [others other (Nat.ne_of_gt (Nat.lt_of_lt_of_le inside outside))]
    exact sound.known other outside
  · rw [count, total]
    exact sound.counted
  · rw [total]
    exact sound.room
  · intro number watcher present running
    rw [objects]
    obtain ⟨same, alive, watch⟩ | ⟨different, before⟩ := watching number watcher present running
    · rw [same, List.getElem?_set_self inside]
      exact ⟨changed, rfl, alive, watch⟩
    · rw [List.getElem?_set_ne (Ne.symm different)]
      exact sound.watching number watcher before running

theorem watched (sound : server.Sound) (here : server.objects[place]? = some object) {watcher : Watcher}
    (present : server.watchers[number]? = some watcher) (running : watcher.running = true) (same : watcher.object = place) :
    object.alive = true ∧ object.watch = some number := by
  obtain ⟨other, found, alive, watch⟩ := sound.watching number watcher present running
  rw [same, here] at found
  cases found
  exact ⟨alive, watch⟩

/-- A call goes on with an object. -/
theorem moves (sound : server.Sound) (here : server.objects[place]? = some object) (found : server.calls[number]? = some old)
    (alive : object.alive = true) (elsewhere : ∀ other, other ≠ place → ∀ stake, old.stake other stake = new.stake other stake)
    (kept : ∀ later, Moved place old new (server.stakes place) later → Kept changed later)
    (balance : changed.alive.toNat + new.counts = object.alive.toNat + old.counts)
    (watching : ∀ number, server.watches number = true → object.watch = some number →
      changed.alive = true ∧ changed.watch = some number) :
    ((server.use place object changed).goesTo number new).Sound := by
  have moved := @moved_of_set server ((server.use place object changed).goesTo number new) number old new found rfl
  apply sound.change here rfl (kept _ (moved place))
  · exact fun other different => (moved other).same (elsewhere other different)
  · rfl
  · have objects : tally (·.alive.toNat) (server.objects.set place changed) + object.alive.toNat =
        tally (·.alive.toNat) server.objects + changed.alive.toNat := tally_set here changed
    have calls : tally Call.counts (server.calls.set number new) + old.counts = tally Call.counts server.calls + new.counts :=
      tally_set found new
    simp only [total, goesTo, use]
    omega
  · intro watching' watcher present running
    by_cases same : watcher.object = place
    · obtain ⟨_, watch⟩ := sound.watched here present running same
      obtain ⟨lives, watched⟩ := watching watching' ((Option.any_eq_true _ _).mpr ⟨watcher, present, running⟩) watch
      exact .inl ⟨same, lives, watched⟩
    · exact .inr ⟨same, present⟩
  · rw [goesTo, use, alive]
    exact (Bool.or_false _).trans sound.faultless

/-- A call begins with an object. -/
theorem begins (sound : server.Sound) (here : server.objects[place]? = some object) (alive : changed.alive = object.alive)
    (watch : changed.watch = object.watch) (elsewhere : ∀ other, other ≠ place → ∀ stake, new.stake other stake = 0)
    (free : new.counts = 0) (kept : ∀ later, Moved place .returned new (server.stakes place) later → Kept changed later) :
    ({ server with objects := server.objects.set place changed }.enters new).Sound := by
  have moved := @moved_of_append server ({ server with objects := server.objects.set place changed }.enters new) new rfl
  apply sound.change here rfl (kept _ (moved place))
  · intro other different
    apply (moved other).same
    intro stake
    rw [elsewhere other different, stake_returned]
  · rfl
  · have objects : tally (·.alive.toNat) (server.objects.set place changed) + object.alive.toNat =
        tally (·.alive.toNat) server.objects + changed.alive.toNat := tally_set here changed
    rw [alive] at objects
    simp only [total, enters, tally_append, tally_cons, tally_nil, free]
    omega
  · intro number watcher present running
    by_cases same : watcher.object = place
    · obtain ⟨lives, watched⟩ := sound.watched here present running same
      exact .inl ⟨same, alive.trans lives, watch.trans watched⟩
    · exact .inr ⟨same, present⟩
  · exact sound.faultless

/-- The host's references change, and no call goes on. -/
theorem refers (sound : server.Sound) (here : server.objects[place]? = some object) (alive : object.alive = true)
    (lives : changed.alive = true) (watch : changed.watch = object.watch) (kept : Kept changed (server.stakes place)) :
    (server.use place object changed).Sound := by
  refine @change server (server.use place object changed) place object changed sound here rfl kept (fun _ _ => rfl) rfl ?_ ?_ ?_
  · have objects : tally (·.alive.toNat) (server.objects.set place changed) + object.alive.toNat =
        tally (·.alive.toNat) server.objects + changed.alive.toNat := tally_set here changed
    rw [alive, lives] at objects
    simp only [total, use]
    omega
  · intro number watcher present running
    by_cases same : watcher.object = place
    · exact .inl ⟨same, lives, watch.trans (sound.watched here present running same).2⟩
    · exact .inr ⟨same, present⟩
  · rw [use, alive]
    exact (Bool.or_false _).trans sound.faultless

/-- No object changes. -/
theorem recount (sound : server.Sound) (objects : after.objects = server.objects)
    (stakes : ∀ place, after.stakes place = server.stakes place) (counted : after.count = UInt32.ofNat after.total)
    (room : after.total < 2 ^ 32)
    (watchers : ∀ (number : Nat) (watcher : Watcher), after.watchers[number]? = some watcher → watcher.running = true →
      server.watchers[number]? = some watcher)
    (faultless : after.faulted = server.faulted) : after.Sound := by
  refine ⟨?_, ?_, counted, room, ?_, faultless.trans sound.faultless⟩
  · intro place object here
    rw [stakes place]
    exact sound.kept place object (objects ▸ here)
  · intro place outside
    rw [stakes place]
    exact sound.known place (objects ▸ outside)
  · intro number watcher present running
    rw [objects]
    exact sound.watching number watcher (watchers number watcher present running) running

theorem use_same (here : server.objects[place]? = some object) (alive : object.alive = true) :
    server.use place object object = server := by
  rw [use, alive]
  have same : server.objects.set place object = server.objects := by
    obtain ⟨inside, found⟩ := List.getElem?_eq_some_iff.mp here
    exact found ▸ List.set_getElem_self inside
  rw [same, Bool.not_true, Bool.or_false]

theorem count_toNat (sound : server.Sound) : server.count.toNat = server.total := by
  rw [sound.counted]
  exact UInt32.toNat_ofNat_of_lt' sound.room

theorem more (sound : server.Sound) (room : server.count.toNat + 1 < 2 ^ 32) :
    server.count + 1 = UInt32.ofNat (server.total + 1) ∧ server.total + 1 < 2 ^ 32 := by
  rw [sound.count_toNat] at room
  rw [UInt32.ofNat_add, ← sound.counted]
  exact ⟨rfl, room⟩

theorem fewer (sound : server.Sound) {less : Nat} (one : less + 1 = server.total) :
    server.count - 1 = UInt32.ofNat less ∧ less < 2 ^ 32 := by
  refine ⟨?_, Nat.lt_of_succ_lt (one.trans_lt sound.room)⟩
  apply UInt32.sub_eq_iff_eq_add.mpr
  rw [sound.counted, ← one, UInt32.ofNat_add]
  rfl

theorem createInstance (sound : server.Sound) (room : server.count.toNat + 1 < 2 ^ 32) (known : Bool) :
    ({ server with count := server.count + 1 }.enters (.creating known)).Sound := by
  have total : ({ server with count := server.count + 1 }.enters (.creating known)).total = server.total + 1 := by
    simp only [total, enters, tally_append, tally_cons, tally_nil, Call.counts]
    omega
  have more := sound.more room
  rw [← total] at more
  refine sound.recount rfl ?_ more.1 more.2 (fun _ _ present _ => present) rfl
  intro place
  apply Moved.same (moved_of_append rfl place)
  intro stake
  rw [stake_returned, stake_creating]

/-- `CreateInstance` makes the object, which nobody else knows. -/
theorem makes {known : Bool} (sound : server.Sound) (found : server.calls[number]? = some (.creating known)) :
    ({ server with objects := server.objects ++ [Object.create] }.goesTo number (.querying server.objects.length known)).Sound := by
  generalize goes : ({ server with objects := server.objects ++ [Object.create] } : Server).goesTo number
    (.querying server.objects.length known) = after
  have calls : after.calls = server.calls.set number (.querying server.objects.length known) := by
    rw [← goes]
    rfl
  have objects : after.objects = server.objects ++ [Object.create] := by
    rw [← goes]
    rfl
  have moved := moved_of_set found calls
  have others : ∀ other, other ≠ server.objects.length → after.stakes other = server.stakes other := by
    intro other different
    apply (moved other).same
    intro stake
    rw [stake_creating, (stake_elsewhere different stake).1]
  have total : after.total = server.total := by
    have counts : tally Call.counts (server.calls.set number (.querying server.objects.length known)) + 1 =
        tally Call.counts server.calls + 0 := tally_set found _
    have one : Object.create.alive.toNat = 1 := rfl
    rw [← goes]
    simp only [Server.total, goesTo, tally_append, tally_cons, tally_nil, one]
    omega
  refine ⟨?_, ?_, ?_, ?_, ?_, ?_⟩
  · intro place object here
    rw [objects] at here
    by_cases old : place < server.objects.length
    · rw [List.getElem?_append_left old] at here
      rw [others place (Nat.ne_of_lt old)]
      exact sound.kept place object here
    · rw [List.getElem?_append_right (Nat.le_of_not_lt old)] at here
      obtain ⟨inside, only⟩ := List.getElem?_eq_some_iff.mp here
      have same : place = server.objects.length := by
        rw [List.length_singleton] at inside
        omega
      subst same
      rw [List.getElem_singleton] at only
      subst only
      have nothing := sound.known _ (Nat.le_refl _)
      obtain ⟨owns, queries, drops, frees, uses⟩ := (moved server.objects.length).each
      simp only [nothing, Call.stake, ↓reduceIte, Nat.add_zero, Nat.zero_add] at owns queries drops frees uses
      refine ⟨?_, ?_, ?_, ?_, ?_, ?_, fun _ => rfl, ?_⟩
      · rw [owns]
        rfl
      · rw [owns]
        decide
      · rw [owns, drops]
        rfl
      · intro _
        rw [owns]
        rfl
      · rw [owns, queries]
      · rw [frees, drops]
      · intro used
        rw [uses] at used
        exact absurd used (Nat.lt_irrefl 0)
  · intro place outside stake
    rw [objects, List.length_append, List.length_singleton] at outside
    rw [others place (Nat.ne_of_gt outside)]
    exact sound.known place (Nat.le_of_succ_le outside) stake
  · rw [total, ← sound.counted, ← goes]
    rfl
  · rw [total]
    exact sound.room
  · intro other watcher present running
    rw [← goes] at present
    obtain ⟨object, here, alive, watch⟩ := sound.watching other watcher present running
    rw [objects]
    exact ⟨object, (List.getElem?_append_left (List.getElem?_eq_some_iff.mp here).1).trans here, alive, watch⟩
  · rw [← goes]
    exact sound.faultless

theorem drops_alive (sound : server.Sound) (here : server.objects[place]? = some object) {hands : Bool} {point : Releasing}
    (found : server.calls[number]? = some (.releasing place hands point)) (drops : point.stake hands .drops = 1) :
    object.alive = true := by
  have most : (Call.releasing place hands point).stake place .drops ≤ server.stakes place .drops := stake_le found _ _
  simp only [Call.stake, ↓reduceIte, drops] at most
  exact ((sound.kept place object here).alive_of_drops most).1

theorem owns_alive (sound : server.Sound) (here : server.objects[place]? = some object)
    (found : server.calls[number]? = some old) (owns : 0 < old.stake place .owns) : object.alive = true := by
  have most : old.stake place .owns ≤ server.stakes place .owns := stake_le found _ _
  exact ((sound.kept place object here).alive_of_referred (by omega)).1

/-- Each operation of a `release`. -/
theorem releases {hands : Bool} {point : Releasing} (sound : server.Sound) (here : server.objects[place]? = some object)
    (found : server.calls[number]? = some (.releasing place hands point))
    (went : server.releases number place object hands point = some after) : after.Sound := by
  have elsewhere (next : Releasing) : ∀ other, other ≠ place → ∀ stake,
      (Call.releasing place hands point).stake other stake = (Call.releasing place hands next).stake other stake := by
    intro other different stake
    rw [(stake_elsewhere different stake).2.1, (stake_elsewhere different stake).2.1]
  have returns : ∀ other, other ≠ place → ∀ stake,
      (Call.releasing place hands point).stake other stake = Call.returned.stake other stake := by
    intro other different stake
    rw [(stake_elsewhere different stake).2.1, stake_returned]
  have kept := sound.kept place object here
  cases point with
  | leaving =>
    have alive := sound.owns_alive here found (by simp [Call.stake, Releasing.stake])
    rw [Server.releases] at went
    dsimp only at went
    split at went
    next last =>
      cases went
      exact sound.moves here found alive (elsewhere .dropping) (fun later moved => kept.leaveLast moved last) rfl
        fun number _ watch => ⟨alive, watch⟩
    next more =>
      cases went
      exact sound.moves here found alive returns (fun later moved => kept.leaveMore moved more) rfl
        fun number _ watch => ⟨alive, watch⟩
  | dropping =>
    have alive := sound.drops_alive here found rfl
    rw [Server.releases] at went
    split at went
    next => cases went
    next ended =>
      cases went
      apply sound.moves here found alive (elsewhere .freeing) (fun later moved => kept.bared moved) rfl
      intro number runs watch
      rw [watch] at ended
      exact absurd runs ended
  | freeing =>
    have alive := sound.drops_alive here found rfl
    have bare : object.watch = none := by
      have most : (Call.releasing place hands .freeing).stake place .frees ≤ server.stakes place .frees :=
        stake_le found _ _
      simp only [Call.stake, ↓reduceIte, Releasing.stake] at most
      exact kept.bare most
    cases went
    apply sound.moves here found alive (elsewhere .uncounting) (fun later moved => kept.freed moved)
    · rw [alive]
      rfl
    · intro number runs watch
      rw [bare] at watch
      cases watch
  | uncounting =>
    cases went
    have counts : tally Call.counts (server.calls.set number .returned) + 1 = tally Call.counts server.calls + 0 :=
      tally_set found _
    have total : ({ server with count := server.count - 1 }.goesTo number .returned).total + 1 = server.total := by
      simp only [Server.total, goesTo]
      omega
    obtain ⟨counted, room⟩ := sound.fewer total
    refine sound.recount rfl ?_ counted room (fun _ _ present _ => present) rfl
    intro other
    apply Moved.same (moved_of_set found rfl other)
    intro stake
    rw [stake_returned]
    by_cases same : place = other
    · subst same
      cases stake <;> simp [Call.stake, Releasing.stake]
    · exact (stake_elsewhere (Ne.symm same) stake).2.1 _ _

theorem acts (sound : server.Sound) (found : server.calls[number]? = some old) (went : server.act number old = some after) :
    after.Sound := by
  cases old with
  | creating known =>
    cases went
    exact sound.makes found
  | querying place known =>
    obtain ⟨object, here, rest⟩ := Option.bind_eq_some_iff.mp went
    have kept := sound.kept place object here
    have alive := sound.owns_alive here found (by simp [Call.stake])
    have elsewhere : ∀ other, other ≠ place → ∀ stake,
        (Call.querying place known).stake other stake = (Call.releasing place known .leaving).stake other stake := by
      intro other different stake
      rw [(stake_elsewhere different stake).1, (stake_elsewhere different stake).2.1]
    have moves := @moves server place number object (if known then { object with refs := object.refs + 1 } else object)
      (.querying place known) (.releasing place known .leaving) sound here found alive elsewhere (fun later moved => kept.query moved)
    cases known with
    | true =>
      cases rest
      exact moves rfl fun number _ watch => ⟨alive, watch⟩
    | false =>
      cases rest
      have sound := moves rfl fun number _ watch => ⟨alive, watch⟩
      simp only [Bool.false_eq_true, ↓reduceIte, use_same here alive] at sound
      exact sound
  | releasing place hands point =>
    obtain ⟨object, here, rest⟩ := Option.bind_eq_some_iff.mp went
    exact sound.releases here found rest
  | method | returned => cases went

theorem uses_alive {init : Bool} (sound : server.Sound) (here : server.objects[place]? = some object)
    (found : server.calls[number]? = some (.method place init)) :
    object.alive = true ∧ server.stakes place .drops = 0 := by
  have kept := sound.kept place object here
  have uses := stake_le found place .uses
  simp only [Call.stake, ↓reduceIte] at uses
  exact kept.alive_of_referred (Nat.lt_of_lt_of_le (kept.borrowed uses) (Nat.le_add_right _ _))

theorem leaves {init : Bool} (sound : server.Sound) (found : server.calls[number]? = some (.method place init)) :
    (server.goesTo number .returned).Sound := by
  have uses := stake_le found place .uses
  simp only [Call.stake, ↓reduceIte] at uses
  have inside : place < server.objects.length := by
    by_contra outside
    have none := sound.known place (Nat.le_of_not_lt outside) .uses
    omega
  obtain ⟨object, here⟩ : ∃ object, server.objects[place]? = some object := ⟨_, List.getElem?_eq_getElem inside⟩
  obtain ⟨alive, _⟩ := sound.uses_alive here found
  rw [← use_same here alive]
  refine @moves server place number object object (.method place init) .returned sound here found alive ?_ ?_ rfl ?_
  · intro other different stake
    rw [(stake_elsewhere different stake).2.2, stake_returned]
  · exact fun later moved => (sound.kept place object here).leave moved
  · exact fun number _ watch => ⟨alive, watch⟩

/-- A method uses its object, which the host keeps. -/
theorem works {init starts : Bool} (sound : server.Sound) (here : server.objects[place]? = some object)
    (found : server.calls[number]? = some (.method place init)) : (server.works place object starts).Sound := by
  have kept := sound.kept place object here
  obtain ⟨alive, undropped⟩ := sound.uses_alive here found
  rw [Server.works]
  split
  next begins =>
    have unwatched : object.watch = none := Option.isNone_iff_eq_none.mp (Bool.and_eq_true_iff.mp begins).2
    refine @change server _ place object { object with watch := some server.watchers.length } sound here rfl ?_ (fun _ _ => rfl)
      rfl ?_ ?_ ?_
    · obtain ⟨refs, bounded, life, fresh, owned, dropped, bare, borrowed⟩ := kept
      refine ⟨refs, bounded, life, fresh, owned, dropped, ?_, borrowed⟩
      intro frees
      change server.stakes place .drops = 0 at undropped
      change 0 < server.stakes place .frees at frees
      omega
    · have objects : tally (·.alive.toNat) (server.objects.set place { object with watch := some server.watchers.length }) +
          object.alive.toNat = tally (·.alive.toNat) server.objects + object.alive.toNat := tally_set here _
      simp only [Server.total, use]
      omega
    · intro other watcher present running
      change (server.watchers ++ [{ object := place, running := true }])[other]? = some watcher at present
      by_cases old : other < server.watchers.length
      · rw [List.getElem?_append_left old] at present
        refine .inr ⟨?_, present⟩
        intro same
        have watch := (sound.watched here present running same).2
        rw [unwatched] at watch
        cases watch
      · rw [List.getElem?_append_right (Nat.le_of_not_lt old)] at present
        obtain ⟨inside, only⟩ := List.getElem?_eq_some_iff.mp present
        rw [List.length_singleton] at inside
        rw [List.getElem_singleton] at only
        refine .inl ⟨?_, alive, ?_⟩
        · rw [← only]
        · rw [show other = server.watchers.length by omega]
    · rw [use, alive]
      exact (Bool.or_false _).trans sound.faultless
  next =>
    rw [use_same here alive]
    exact sound

/-- The host uses an object of its own accord only by a reference that it has. -/
theorem addRef (sound : server.Sound) (here : server.objects[place]? = some object) (held : 0 < object.held)
    (room : object.refs.toNat + 1 < 2 ^ 32) :
    (server.use place object { object with refs := object.refs + 1, held := object.held + 1 }).Sound := by
  have kept := sound.kept place object here
  obtain ⟨alive, _⟩ := kept.alive_of_referred (Nat.lt_of_lt_of_le held (Nat.le_add_right _ _))
  exact sound.refers here alive alive rfl (kept.addRef held room)

theorem unused (free : ∀ init, .method place init ∉ server.calls) : server.stakes place .uses = 0 := by
  apply tally_eq_zero.mpr
  intro call member
  cases call with
  | creating | querying | returned => rfl
  | releasing other hands point =>
    simp only [Call.stake]
    split
    · cases point <;> rfl
    · rfl
  | method other init =>
    simp only [Call.stake]
    split
    next same =>
      subst same
      exact absurd member (free init)
    next => rfl

theorem step {event : Event} (sound : server.Sound) (permitted : server.Permitted event)
    (stepped : server.step event = some after) : after.Sound := by
  cases event with
  | createInstance null outer known =>
    rw [Server.step] at stepped
    split at stepped
    next =>
      cases stepped
      exact sound
    next =>
      cases stepped
      exact sound.createInstance permitted known
  | queryInterface place known =>
    obtain ⟨object, here, rest⟩ := Option.bind_eq_some_iff.mp stepped
    obtain ⟨held, room⟩ := permitted object here
    cases known with
    | true =>
      cases rest
      exact sound.addRef here held room
    | false =>
      cases rest
      exact sound
  | addRef place =>
    obtain ⟨object, here, rest⟩ := Option.bind_eq_some_iff.mp stepped
    obtain ⟨held, room⟩ := permitted object here
    cases rest
    exact sound.addRef here held room
  | release place =>
    obtain ⟨object, here, rest⟩ := Option.bind_eq_some_iff.mp stepped
    obtain ⟨held, free⟩ := permitted object here
    cases rest
    apply @begins server place object { object with held := object.held - 1 } (.releasing place false .leaving) sound here rfl rfl
    · exact fun other different stake => (stake_elsewhere different stake).2.1 _ _
    · rfl
    · exact fun later moved => (sound.kept place object here).release moved held fun one => unused (free one)
  | enter place init =>
    obtain ⟨object, here, rest⟩ := Option.bind_eq_some_iff.mp stepped
    cases rest
    have begun := sound.begins here rfl rfl (fun other different stake => (stake_elsewhere different stake).2.2 init) rfl
      fun later moved => (sound.kept place object here).enter moved (permitted object here)
    obtain ⟨inside, found⟩ := List.getElem?_eq_some_iff.mp here
    rw [← found, List.set_getElem_self inside] at begun
    exact begun
  | work number started =>
    rw [Server.step] at stepped
    split at stepped
    next place init found =>
      obtain ⟨object, here, rest⟩ := Option.bind_eq_some_iff.mp stepped
      cases rest
      exact sound.works here found
    next => cases stepped
  | leave number =>
    rw [Server.step] at stepped
    split at stepped
    next place init found =>
      cases stepped
      exact sound.leaves found
    next => cases stepped
  | go number =>
    obtain ⟨call, found, rest⟩ := Option.bind_eq_some_iff.mp stepped
    exact sound.acts found rest
  | noticed number =>
    obtain ⟨watcher, present, rest⟩ := Option.bind_eq_some_iff.mp stepped
    obtain ⟨object, here, rest⟩ := Option.bind_eq_some_iff.mp rest
    split at rest
    next running =>
      cases rest
      rw [use_same here (sound.watched here present running rfl).1]
      exact sound
    next => cases rest
  | ended number =>
    obtain ⟨watcher, present, rest⟩ := Option.bind_eq_some_iff.mp stepped
    cases rest
    refine sound.recount rfl (fun _ => rfl) sound.counted sound.room ?_ rfl
    intro other found here running
    by_cases same : number = other
    · subst same
      rw [List.getElem?_set_self (List.getElem?_eq_some_iff.mp present).1] at here
      cases here
      cases running
    · rw [List.getElem?_set_ne same] at here
      exact here
  | lockServer lock =>
    cases lock with
    | true =>
      cases stepped
      have more := sound.more permitted
      have total : server.total + 1 = { server with count := server.count + 1, locks := server.locks + 1 }.total := by
        simp only [Server.total]
        omega
      rw [total] at more
      exact sound.recount rfl (fun _ => rfl) more.1 more.2 (fun _ _ present _ => present) rfl
    | false =>
      cases stepped
      have total : { server with count := server.count - 1, locks := server.locks - 1 }.total + 1 = server.total := by
        have locked : 0 < server.locks := permitted
        simp only [Server.total]
        omega
      obtain ⟨counted, room⟩ := sound.fewer total
      exact sound.recount rfl (fun _ => rfl) counted room (fun _ _ present _ => present) rfl

theorem loaded : loaded.Sound := by
  refine ⟨?_, ?_, rfl, ?_, ?_, rfl⟩
  · intro place object here
    cases here
  · exact fun _ _ _ => rfl
  · exact Nat.two_pow_pos 32
  · intro number watcher present
    cases present

theorem canUnload (sound : server.Sound) : server.canUnloadNow = true ↔ server.total = 0 := by
  rw [canUnloadNow, beq_iff_eq, sound.counted, ← UInt32.toNat_inj, UInt32.toNat_ofNat_of_lt' sound.room]
  rfl

end Sound

/-- The lifetimes of the objects and of the library. -/
structure Lifetimes (server : Server) : Prop where
  /-- Nothing uses an object whose memory has been given back, or gives it back again. -/
  unfaulted : server.faulted = false
  /-- An object lives as long as the host or a call has a reference to it, and until the
  call that has taken the last one has freed it. -/
  lives : ∀ place object, server.objects[place]? = some object →
    (object.alive = true ↔ 0 < object.held + server.stakes place .owns ∨ 0 < server.stakes place .drops)
  /-- The library may be unloaded if nothing of it is left. -/
  unloads : server.canUnloadNow = true ↔
    server.locks = 0 ∧ (∀ object ∈ server.objects, object.alive = false) ∧ ∀ call ∈ server.calls, call.counts = 0
  still : server.canUnloadNow = true → ∀ watcher ∈ server.watchers, watcher.running = false

theorem Sound.unloads {server : Server} (sound : server.Sound) : server.canUnloadNow = true ↔
    server.locks = 0 ∧ (∀ object ∈ server.objects, object.alive = false) ∧ ∀ call ∈ server.calls, call.counts = 0 := by
  rw [sound.canUnload, total, Nat.add_eq_zero_iff, Nat.add_eq_zero_iff, tally_eq_zero, tally_eq_zero, and_assoc]
  simp only [Bool.toNat_eq_zero]

theorem Sound.lifetimes {server : Server} (sound : server.Sound) : server.Lifetimes := by
  refine ⟨sound.faultless, ?_, sound.unloads, ?_⟩
  · intro place object here
    have kept := sound.kept place object here
    constructor
    · intro alive
      have life := kept.life
      rw [alive, Bool.toNat_true] at life
      omega
    · rintro (referred | drops)
      · exact (kept.alive_of_referred referred).1
      · exact (kept.alive_of_drops drops).1
  · intro unloads watcher member
    obtain ⟨number, inside, found⟩ := List.getElem_of_mem member
    by_contra running
    obtain ⟨object, here, alive, _⟩ := sound.watching number watcher (List.getElem?_eq_some_iff.mpr ⟨inside, found⟩)
      (eq_true_of_ne_false running)
    have dead := (sound.unloads.mp unloads).2.1 object (List.mem_of_getElem? here)
    rw [alive] at dead
    cases dead

/-- In whatever order the operations of the host's threads, of the library's calls and of
its watch threads come, an object is freed once, when nothing needs it any more, and the
library may be unloaded just when it has no object, makes none and is not locked. -/
theorem lifetimes_kept {server : Server} {events : List Event} (along : Along step Permitted loaded events)
    (ran : run step loaded events = some server) : server.Lifetimes := by
  apply Sound.lifetimes
  apply run_invariant Sound _ along ran Sound.loaded
  exact fun before event after permitted stepped sound => sound.step permitted stepped

/-- An object that watches the settings, and one that the host asks for an interface
which it does not have. -/
def twoObjects : List Event :=
  [.createInstance false false true, .go 0, .go 0, .go 0, .enter 0 true, .work 1 true, .noticed 0, .leave 1,
    .createInstance false false false, .go 2, .go 2, .go 2, .go 2, .addRef 0, .release 0, .go 3, .go 2, .go 2, .release 0, .go 4,
    .ended 0, .go 4, .go 4, .go 4]

theorem lifetimes_kept_two_objects : ∃ server, run step loaded twoObjects = some server ∧ server.Lifetimes ∧
    server.objects.length = 2 ∧ server.canUnloadNow = true := by
  have along : Along step Permitted loaded twoObjects := by
    decide +kernel
  have unloads : (run step loaded twoObjects).any fun server => server.objects.length == 2 && server.canUnloadNow := by
    decide +kernel
  obtain ⟨server, ran, checked⟩ := (Option.any_eq_true _ _).mp unloads
  obtain ⟨two, unloaded⟩ := Bool.and_eq_true_iff.mp checked
  exact ⟨server, ran, lifetimes_kept along ran, beq_iff_eq.mp two, unloaded⟩

end Ak1Driver.Asio.Server
