import Ak1Driver.Asio.Threads

/-! Streaming threads do not overlap, provided that each has ended before the
host starts the next. The driver joins a thread only if the session still has
its handle; a stop from the thread's own callback gives the handle away. -/

namespace Ak1Driver.Threads
open Lib.Transition

variable {threads after : Threads}

/-- A start that will start streams finds no streaming thread in its loop, and
buffers disposed of from elsewhere no streaming thread but the one that the
session can join. -/
def alone (threads : Threads) : Event → Bool
  | .go index _ =>
    match threads.calls[index]? with
    | some ⟨_, .start, .entering⟩ =>
      !threads.present || threads.running || (List.range threads.workers.length).all (!threads.looping ·)
    | some ⟨.host, .disposeBuffers, .entering⟩ =>
      (List.range threads.workers.length).all fun number =>
        !threads.alive number || threads.present && threads.thread = some number
    | _ => true
  | _ => true

section Workers

theorem inside_of_any {check : Worker → Bool} {number : Nat} (some : threads.workers[number]?.any check = true) :
    number ∈ List.range threads.workers.length := by
  obtain ⟨worker, known, _⟩ := (Option.any_eq_true _ _).mp some
  exact List.mem_range.mpr (List.getElem?_eq_some_iff.mp known).1

theorem next_looping {number : Nat} {place later : Place} {outcome : Outcome}
    (went : threads.next number place outcome = some later) (loops : later.looping = true) : place.looping = true := by
  cases place with
  | resetting | ended => cases outcome <;> cases went <;> cases loops
  | _ => rfl

theorem next_alive {number : Nat} {place later : Place} {outcome : Outcome}
    (went : threads.next number place outcome = some later) : place ≠ .ended := by
  rintro rfl
  cases outcome <;> cases went

theorem call_step {caller : Caller} {method : Method} (stepped : step threads (.call caller method) = some after) :
    after = { threads with calls := threads.calls ++ [⟨caller, method, .entering⟩] } := by
  obtain ⟨_, same⟩ := Option.ite_none_right_eq_some.mp stepped
  exact (Option.some.inj same).symm

theorem work_step {number : Nat} {outcome : Outcome} (stepped : step threads (.work number outcome) = some after) :
    ∃ worker later, threads.workers[number]? = some worker ∧ threads.next number worker.place outcome = some later ∧
      after = { threads with workers := threads.workers.set number (moved worker later) } := by
  obtain ⟨worker, known, rest⟩ := Option.bind_eq_some_iff.mp stepped
  obtain ⟨later, went, same⟩ := Option.bind_eq_some_iff.mp rest
  exact ⟨worker, later, known, went, (Option.some.inj same).symm⟩

/-- What a step of a call does, and what it has found. -/
inductive Goes (threads : Threads) (caller : Caller) : Method → Point → Threads → Point → Prop where
  | starts (free : threads.locked = false) (present : threads.present = true) (idle : threads.running = false) :
    Goes threads caller .start .entering threads .clearing
  | startless : Goes threads caller .start .entering threads .returned
  | clears : Goes threads caller .start .clearing { threads with stop := false } .opening
  | opens (closed : threads.kernel = false) : Goes threads caller .start .opening { threads with kernel := true } .spawning
  | refused : Goes threads caller .start .opening threads .returned
  | spawns :
    Goes threads caller .start .spawning
      { threads with
        workers := threads.workers ++ [⟨.waiting, 0, false⟩]
        thread := some threads.workers.length
        running := true }
      .returned
  | stops (free : threads.locked = false) (present : threads.present = true) (running : threads.running = true) :
    Goes threads caller .stop .entering { threads with running := false, thread := none } (.signalling threads.thread)
  | stopless : Goes threads caller .stop .entering threads .returned
  | stopSignals (thread : Option Nat) :
    Goes threads caller .stop (.signalling thread) { threads with stop := threads.stop || thread.isSome } (.joining thread)
  | stopJoins (thread : Option Nat) (waited : threads.joins caller thread = true) :
    Goes threads caller .stop (.joining thread) threads .reentering
  | reenters (free : threads.locked = false) : Goes threads caller .stop .reentering threads .ending
  | disposed : Goes threads caller .stop .reentering threads .returned
  | stopEnds : Goes threads caller .stop .ending { threads with kernel := false } .returned
  | disposes (free : threads.locked = false) (present : threads.present = true) :
    Goes threads caller .disposeBuffers .entering { threads with present := false, thread := none }
      (.signalling threads.thread)
  | absent (gone : threads.present = false) : Goes threads caller .disposeBuffers .entering threads .returned
  | disposeSignals (thread : Option Nat) :
    Goes threads caller .disposeBuffers (.signalling thread) { threads with stop := threads.stop || thread.isSome }
      (.joining thread)
  | disposeJoins (thread : Option Nat) (waited : threads.joins caller thread = true) :
    Goes threads caller .disposeBuffers (.joining thread) threads .ending
  | disposeEnds : Goes threads caller .disposeBuffers .ending { threads with kernel := false } .freeing
  | frees : Goes threads caller .disposeBuffers .freeing { threads with freed := true } .returned

theorem goes_of_advance {caller : Caller} {granted : Bool} {method : Method} {point later : Point} {changed : Threads}
    (went : threads.advance caller granted method point = some (changed, later)) :
    Goes threads caller method point changed later := by
  cases method with
  | start =>
    cases point with
    | entering =>
      simp only [advance] at went
      split at went
      · cases went
      next locked =>
        cases went
        split
        next starts =>
          obtain ⟨present, idle⟩ := Bool.and_eq_true_iff.mp starts
          exact .starts (Bool.eq_false_iff.mpr locked) present (Bool.not_eq_true' _ ▸ idle)
        next => exact .startless
    | clearing =>
      cases went
      exact .clears
    | opening =>
      simp only [advance] at went
      split at went
      next grants =>
        cases went
        exact .opens (Bool.not_eq_true' _ ▸ (Bool.and_eq_true_iff.mp grants).2)
      next =>
        cases went
        exact .refused
    | spawning =>
      cases went
      exact .spawns
    | _ => cases went
  | stop =>
    cases point with
    | entering =>
      simp only [advance] at went
      split at went
      · cases went
      next locked =>
        split at went
        next stops =>
          cases went
          obtain ⟨present, running⟩ := Bool.and_eq_true_iff.mp stops
          exact .stops (Bool.eq_false_iff.mpr locked) present running
        next =>
          cases went
          exact .stopless
    | signalling thread =>
      cases went
      exact .stopSignals thread
    | joining thread =>
      obtain ⟨waited, same⟩ := Option.ite_none_right_eq_some.mp went
      cases same
      exact .stopJoins thread waited
    | reentering =>
      simp only [advance] at went
      split at went
      · cases went
      next locked =>
        cases went
        split
        · exact .reenters (Bool.eq_false_iff.mpr locked)
        · exact .disposed
    | ending =>
      cases went
      exact .stopEnds
    | _ => cases went
  | disposeBuffers =>
    cases point with
    | entering =>
      simp only [advance] at went
      split at went
      · cases went
      next locked =>
        split at went
        next present =>
          cases went
          exact .disposes (Bool.eq_false_iff.mpr locked) present
        next gone =>
          cases went
          exact .absent (Bool.eq_false_iff.mpr gone)
    | signalling thread =>
      cases went
      exact .disposeSignals thread
    | joining thread =>
      obtain ⟨waited, same⟩ := Option.ite_none_right_eq_some.mp went
      cases same
      exact .disposeJoins thread waited
    | ending =>
      cases went
      exact .disposeEnds
    | freeing =>
      cases went
      exact .frees
    | _ => cases went

theorem go_step {index : Nat} {granted : Bool} (stepped : step threads (.go index granted) = some after) :
    ∃ call changed point, threads.calls[index]? = some call ∧ Goes threads call.caller call.method call.point changed point ∧
      after = { changed with calls := threads.calls.set index { call with point } } := by
  obtain ⟨call, known, rest⟩ := Option.bind_eq_some_iff.mp stepped
  obtain ⟨⟨changed, point⟩, went, same⟩ := Option.bind_eq_some_iff.mp rest
  exact ⟨call, changed, point, known, goes_of_advance went, (Option.some.inj same).symm⟩

/-- No streaming thread comes to work anew. -/
structure Ages (threads after : Threads) : Prop where
  looping : ∀ number, after.looping number = true → threads.looping number = true
  alive : ∀ number, after.alive number = true → threads.alive number = true

theorem same_ages (same : after.workers = threads.workers) : Ages threads after := by
  constructor <;> intro number
  · rw [looping, looping, same]
    exact id
  · rw [alive, alive, same]
    exact id

theorem work_ages {number : Nat} {outcome : Outcome} (stepped : step threads (.work number outcome) = some after) :
    Ages threads after := by
  obtain ⟨worker, later, known, went, rfl⟩ := work_step stepped
  have inside := (List.getElem?_eq_some_iff.mp known).1
  constructor <;> intro other
  · intro loops
    by_cases here : other = number
    · subst here
      rw [looping, List.getElem?_set_self inside] at loops
      rw [looping, known]
      exact next_looping went loops
    · rwa [looping, List.getElem?_set_ne (Ne.symm here)] at loops
  · intro lives
    by_cases here : other = number
    · subst here
      rw [alive, known]
      exact decide_eq_true (next_alive went)
    · rwa [alive, List.getElem?_set_ne (Ne.symm here)] at lives

end Workers
section Calls
variable {call : Call}

/-- What holds while a call is under way or has returned. -/
def Fits (threads : Threads) (call : Call) : Prop :=
  match call.method, call.point with
  | .start, .clearing | .start, .opening | .start, .spawning =>
    threads.present = true ∧ ∀ number, threads.looping number = false
  | .disposeBuffers, .signalling thread | .disposeBuffers, .joining thread =>
    threads.present = false ∧ (call.caller = .host → ∀ number, threads.alive number = true → thread = some number)
  | .disposeBuffers, .ending | .disposeBuffers, .freeing | .disposeBuffers, .returned =>
    threads.present = false ∧ (call.caller = .host → ∀ number, threads.alive number = false)
  | _, _ => True

theorem not_of_ages {check later : Nat → Bool} (ages : ∀ number, later number = true → check number = true)
    (none : ∀ number, check number = false) (number : Nat) : later number = false := by
  cases held : later number with
  | false => rfl
  | true => exact absurd (ages number held) (by rw [none]; exact Bool.false_ne_true)

/-- What holds of a call, others keep. -/
theorem Fits.mono (fits : Fits threads call) (ages : Ages threads after)
    (present : after.present = threads.present ∨ after.present = false ∧ call.locks = false) : Fits after call := by
  obtain ⟨caller, method, point⟩ := call
  cases method with
  | start =>
    cases point with
    | clearing | opening | spawning =>
      rcases present with same | ⟨_, unlocked⟩
      · exact ⟨same.trans fits.1, not_of_ages ages.looping fits.2⟩
      · cases unlocked
    | _ => trivial
  | stop => cases point <;> trivial
  | disposeBuffers =>
    have absent : threads.present = false → after.present = false := by
      intro gone
      rcases present with same | ⟨same, _⟩
      · exact same.trans gone
      · exact same
    cases point with
    | signalling | joining => exact ⟨absent fits.1, fun host number lives => fits.2 host number (ages.alive number lives)⟩
    | ending | freeing | returned => exact ⟨absent fits.1, fun host => not_of_ages ages.alive (fits.2 host)⟩
    | _ => trivial

/-- Of a call without the lock nothing need hold while the session is there. -/
theorem Fits.free (fits : Fits threads call) (present : threads.present = true) (unlocked : call.locks = false)
    (after : Threads) : Fits after call := by
  obtain ⟨caller, method, point⟩ := call
  cases method with
  | start =>
    cases point with
    | clearing | opening | spawning => cases unlocked
    | _ => trivial
  | stop => cases point <;> trivial
  | disposeBuffers =>
    cases point with
    | signalling | joining | ending | freeing | returned => exact absurd (present.symm.trans fits.1) Bool.noConfusion
    | _ => trivial

theorem alone_start {index : Nat} {granted : Bool} {caller : Caller} (free : threads.alone (.go index granted) = true)
    (known : threads.calls[index]? = some ⟨caller, .start, .entering⟩) (present : threads.present = true)
    (idle : threads.running = false) (number : Nat) : threads.looping number = false := by
  rw [alone, known] at free
  simp only [present, idle, Bool.not_true, Bool.false_or, List.all_eq_true, Bool.not_eq_true'] at free
  cases loops : threads.looping number with
  | false => rfl
  | true => exact absurd (free number (inside_of_any loops)) (by rw [loops]; exact Bool.noConfusion)

theorem alone_dispose {index : Nat} {granted : Bool} (free : threads.alone (.go index granted) = true)
    (known : threads.calls[index]? = some ⟨.host, .disposeBuffers, .entering⟩) {number : Nat}
    (lives : threads.alive number = true) : threads.present = true ∧ threads.thread = some number := by
  rw [alone, known] at free
  have held := List.all_eq_true.mp free number (inside_of_any lives)
  rw [lives, Bool.not_true, Bool.false_or, Bool.and_eq_true, decide_eq_true_eq] at held
  exact held

variable {caller : Caller} {method : Method} {point later : Point} {changed : Threads}

/-- A call that has the lock had it, or took it when it was free. -/
theorem Goes.locks (goes : Goes threads caller method point changed later)
    (locks : (Call.mk caller method later).locks = true) :
    (Call.mk caller method point).locks = true ∨ threads.locked = false := by
  cases goes with
  | starts free | stops free | reenters free => exact Or.inr free
  | clears | opens | stopSignals => exact Or.inl rfl
  | _ => cases locks

/-- What a call does to the session and the streaming threads. -/
theorem Goes.shared (goes : Goes threads caller method point changed later) :
    (method = .start ∧ point = .spawning ∧ later = .returned ∧
      changed = { threads with
        workers := threads.workers ++ [⟨.waiting, 0, false⟩]
        thread := some threads.workers.length
        running := true }) ∨
    changed.workers = threads.workers ∧
      (changed.present = threads.present ∨ changed.present = false ∧ threads.locked = false) := by
  cases goes with
  | spawns => exact Or.inl ⟨rfl, rfl, rfl, rfl⟩
  | disposes free => exact Or.inr ⟨rfl, Or.inr ⟨rfl, free⟩⟩
  | _ => exact Or.inr ⟨rfl, Or.inl rfl⟩

/-- Another thread has waited for the streaming thread's end. -/
theorem joined_ended {number : Nat} (waited : threads.joins .host (some number) = true) : threads.alive number = false := by
  simpa only [joins, Option.all_some, reduceCtorEq, decide_false, Bool.false_or, Bool.not_eq_true'] using waited

theorem Goes.fits (goes : Goes threads caller method point changed later) {index : Nat} {granted : Bool}
    (known : threads.calls[index]? = some ⟨caller, method, point⟩) (fits : Fits threads ⟨caller, method, point⟩)
    (alone : threads.alone (.go index granted) = true) : Fits changed ⟨caller, method, later⟩ := by
  have only (starts : method = .disposeBuffers ∧ point = .entering) (host : caller = .host) (number : Nat)
      (lives : threads.alive number = true) : threads.present = true ∧ threads.thread = some number := by
    obtain ⟨rfl, rfl⟩ := starts
    subst host
    exact alone_dispose alone known lives
  cases goes with
  | starts free present idle => exact ⟨present, alone_start alone known present idle⟩
  | clears | opens | disposeSignals | disposeEnds | frees => exact fits
  | disposes free present => exact ⟨rfl, fun host number lives => (only ⟨rfl, rfl⟩ host number lives).2⟩
  | absent gone =>
    refine ⟨gone, fun host number => Bool.eq_false_iff.mpr fun lives => ?_⟩
    exact absurd ((only ⟨rfl, rfl⟩ host number lives).1.symm.trans gone) Bool.noConfusion
  | disposeJoins thread waited =>
    refine ⟨fits.1, fun host number => Bool.eq_false_iff.mpr fun lives => ?_⟩
    subst host
    rw [fits.2 rfl number lives] at waited
    exact absurd (lives.symm.trans (joined_ended waited)) Bool.noConfusion
  | _ => trivial

end Calls

/-- Streaming threads loop one at a time, one call has the driver locked, and
every call finds what it relies on. -/
structure Orderly (threads : Threads) : Prop where
  one : ∀ first second, threads.looping first = true → threads.looping second = true → first = second
  locks : ∀ (i j : Nat) (first second : Call), threads.calls[i]? = some first → threads.calls[j]? = some second →
    first.locks = true → second.locks = true → i = j
  fits : ∀ (i : Nat) call, threads.calls[i]? = some call → Fits threads call

theorem unlocked_of (free : threads.locked = false) {index : Nat} {call : Call} (known : threads.calls[index]? = some call) :
    call.locks = false := by
  have none := List.any_eq_false.mp free call (List.mem_of_getElem? known)
  exact Bool.eq_false_iff.mpr none

theorem Orderly.work (orderly : Orderly threads) {number : Nat} {outcome : Outcome}
    (stepped : step threads (.work number outcome) = some after) : Orderly after := by
  have ages := work_ages stepped
  obtain ⟨worker, later, _, _, rfl⟩ := work_step stepped
  exact {
    one := fun first second loops other => orderly.one first second (ages.looping first loops) (ages.looping second other)
    locks := orderly.locks
    fits := fun i call known => (orderly.fits i call known).mono ages (Or.inl rfl) }

theorem added_call {calls : List Call} {new call : Call} {i : Nat} (known : (calls ++ [new])[i]? = some call) :
    calls[i]? = some call ∨ call = new := by
  rw [List.getElem?_append] at known
  split at known
  · exact Or.inl known
  · rw [List.getElem?_singleton] at known
    split at known <;> cases known
    exact Or.inr rfl

theorem set_call {calls : List Call} {old new call : Call} {index i : Nat} (held : calls[index]? = some old)
    (known : (calls.set index new)[i]? = some call) : i = index ∧ call = new ∨ i ≠ index ∧ calls[i]? = some call := by
  by_cases here : i = index
  · rw [here, List.getElem?_set_self (List.getElem?_eq_some_iff.mp held).1] at known
    exact Or.inl ⟨here, (Option.some.inj known).symm⟩
  · rw [List.getElem?_set_ne (Ne.symm here)] at known
    exact Or.inr ⟨here, known⟩

theorem Orderly.call (orderly : Orderly threads) {caller : Caller} {method : Method}
    (stepped : step threads (.call caller method) = some after) : Orderly after := by
  have unlocked : (Call.mk caller method .entering).locks = false := by cases method <;> rfl
  obtain rfl := call_step stepped
  have ages : Ages threads { threads with calls := threads.calls ++ [⟨caller, method, .entering⟩] } := same_ages rfl
  refine ⟨orderly.one, ?_, ?_⟩
  · intro i j first second known other locked also
    rcases added_call known with old | rfl
    · rcases added_call other with older | rfl
      · exact orderly.locks i j first second old older locked also
      · exact absurd (also.symm.trans unlocked) Bool.noConfusion
    · exact absurd (locked.symm.trans unlocked) Bool.noConfusion
  · intro i call known
    rcases added_call known with old | rfl
    · exact (orderly.fits i call old).mono ages (Or.inl rfl)
    · cases method <;> trivial

/-- The streaming thread spawned is the only one in its loop. -/
theorem spawned_looping (none : ∀ number, threads.looping number = false) {number : Nat}
    (loops : looping { threads with workers := threads.workers ++ [⟨.waiting, 0, false⟩] } number = true) :
    number = threads.workers.length := by
  rw [looping, List.getElem?_append] at loops
  split at loops
  · exact absurd (loops.symm.trans (none number)) Bool.noConfusion
  · rw [List.getElem?_singleton] at loops
    split at loops
    · omega
    · cases loops

theorem Orderly.go (orderly : Orderly threads) {index : Nat} {granted : Bool} (free : threads.alone (.go index granted) = true)
    (stepped : step threads (.go index granted) = some after) : Orderly after := by
  obtain ⟨⟨caller, method, point⟩, changed, later, held, goes, rfl⟩ := go_step stepped
  have fits := orderly.fits index _ held
  have own : Fits changed ⟨caller, method, later⟩ := goes.fits held fits free
  have others : ∀ (i : Nat) (call : Call), i ≠ index → threads.calls[i]? = some call →
      (Call.mk caller method later).locks = true → call.locks = false := by
    intro i call elsewhere known locked
    rcases goes.locks locked with had | unlocked
    · cases also : call.locks with
      | false => rfl
      | true => exact absurd (orderly.locks i index _ _ known held also had) elsewhere
    · exact unlocked_of unlocked known
  have shared := goes.shared
  refine ⟨?_, ?_, ?_⟩
  · intro first second loops other
    rcases shared with ⟨rfl, rfl, _, rfl⟩ | ⟨workers, _⟩
    · rw [spawned_looping fits.2 loops, spawned_looping fits.2 other]
    · have ages : Ages threads { changed with calls := threads.calls.set index ⟨caller, method, later⟩ } := same_ages workers
      exact orderly.one first second (ages.looping first loops) (ages.looping second other)
  · intro i j first second known other locked also
    rcases set_call held known with ⟨rfl, rfl⟩ | ⟨elsewhere, old⟩
    · rcases set_call held other with ⟨rfl, _⟩ | ⟨apart, older⟩
      · rfl
      · exact absurd (also.symm.trans (others j second apart older locked)) Bool.noConfusion
    · rcases set_call held other with ⟨rfl, rfl⟩ | ⟨_, older⟩
      · exact absurd (locked.symm.trans (others i first elsewhere old also)) Bool.noConfusion
      · exact orderly.locks i j first second old older locked also
  · intro i call known
    rcases set_call held known with ⟨rfl, rfl⟩ | ⟨elsewhere, old⟩
    · exact own.mono (same_ages rfl) (Or.inl rfl)
    · have kept := orderly.fits i call old
      rcases shared with ⟨rfl, rfl, _, rfl⟩ | ⟨workers, present⟩
      · apply kept.free fits.1
        cases also : call.locks with
        | false => rfl
        | true => exact absurd (orderly.locks i index _ _ old held also rfl) elsewhere
      · apply kept.mono (same_ages workers)
        rcases present with same | ⟨gone, unlocked⟩
        · exact Or.inl same
        · exact Or.inr ⟨gone, unlocked_of unlocked old⟩

theorem Orderly.step (orderly : Orderly threads) {event : Event} (free : threads.alone event = true)
    (stepped : Threads.step threads event = some after) : Orderly after := by
  cases event with
  | call caller method => exact orderly.call stepped
  | go index granted => exact orderly.go free stepped
  | work number outcome => exact orderly.work stepped

theorem created_orderly : Orderly created := ⟨nofun, nofun, nofun⟩

/-- A call to dispose of the buffers, made by the host from elsewhere, has returned. -/
def disposed (threads : Threads) : Prop := ⟨.host, .disposeBuffers, .returned⟩ ∈ threads.calls

/-- If each streaming thread has ended, or can be joined, when the host starts the
next or disposes of the buffers, they do not overlap, and none is left at work. -/
theorem threads_apart {events : List Event} {final : Threads} (ran : run step created events = some final)
    (free : Along step (fun threads event => threads.alone event = true) created events) :
    (∀ first second, final.looping first = true → final.looping second = true → first = second) ∧
    (final.disposed → ∀ number, final.alive number = false) := by
  have orderly : Orderly final :=
    run_invariant Orderly (fun _ _ _ free stepped orderly => orderly.step free stepped) free ran created_orderly
  refine ⟨orderly.one, ?_⟩
  intro disposed
  obtain ⟨i, known⟩ := List.mem_iff_getElem?.mp disposed
  exact (orderly.fits i _ known).2 rfl

/-- So many steps of a call, granted what it asks for. -/
def goes (index count : Nat) : List Event := List.replicate count (.go index true)

def works (number count : Nat) : List Event := List.replicate count (.work number .went)

/-- The host stops and starts again in a callback, which then returns; the next
callbacks overlap. -/
def restartInCallback : List Event :=
  .call .host .start :: goes 0 4 ++ works 0 3 ++
    .call (.worker 0) .stop :: goes 1 5 ++ .call (.worker 0) .start :: goes 2 4 ++ works 0 5 ++ works 1 3

/-- Streaming threads overlap if the host restarts in a callback: both make callbacks at once. -/
theorem threads_overlap :
    ¬ ∀ events final, run step created events = some final →
      (∀ first second, final.looping first = true → final.looping second = true → first = second) ∧
      (final.disposed → ∀ number, final.alive number = false) := by
  intro claimed
  have both : (run step created restartInCallback).any (fun final =>
      decide (final.workers.map (·.place) = [.calling, .calling]) && final.looping 0 && final.looping 1) = true := by
    decide +kernel
  obtain ⟨final, ran, checked⟩ := (Option.any_eq_true _ _).mp both
  obtain ⟨rest, second⟩ := Bool.and_eq_true_iff.mp checked
  obtain ⟨_, first⟩ := Bool.and_eq_true_iff.mp rest
  cases (claimed _ _ ran).1 0 1 first second

/-- The host stops and starts again between callbacks, and disposes of the buffers
while the second thread waits for a period. -/
def restartAndDispose : List Event :=
  .call .host .start :: goes 0 4 ++ works 0 3 ++ .call .host .stop :: goes 1 2 ++ works 0 3 ++ .work 0 .empty :: works 0 1 ++
    goes 1 3 ++ .call .host .start :: goes 2 4 ++ .call .host .disposeBuffers :: goes 3 2 ++ works 1 1 ++ goes 3 3

theorem threads_apart_restart :
    ∃ final, run step created restartAndDispose = some final ∧ final.workers.map (·.switches) = [1, 0] ∧
      ∀ number, final.alive number = false := by
  have runs : (run step created restartAndDispose).any (fun final =>
      decide (final.workers.map (·.switches) = [1, 0]) && final.calls.any (· = ⟨.host, .disposeBuffers, .returned⟩)) = true := by
    decide +kernel
  obtain ⟨final, ran, checked⟩ := (Option.any_eq_true _ _).mp runs
  obtain ⟨switched, gone⟩ := Bool.and_eq_true_iff.mp checked
  have disposed : final.disposed := by
    obtain ⟨call, member, same⟩ := List.any_eq_true.mp gone
    rw [disposed, ← of_decide_eq_true same]
    exact member
  exact ⟨final, ran, of_decide_eq_true switched, (threads_apart ran (by decide +kernel)).2 disposed⟩

end Ak1Driver.Threads
