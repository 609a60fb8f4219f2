import Ak1Driver.Asio.Driver

/-! Host callbacks may re-enter the driver, because a thread that has it locked
makes no callback, with one exception, and joins no thread. -/

namespace Ak1Driver.Asio
open Lib.Transition

/-- Whether the driver is locked when a part begins. It is not when a part has
been done to its end. -/
def Part.locked : Part → Bool
  | .addRef | .release | .dropDriver | .startWatch _ => false
  | _ => true

namespace Action

/-- Locks and unlocks in turn, and in between a single callback. -/
def Balanced : Bool → List Action → Prop
  | locked, [] => locked = false
  | locked, .lock :: rest => locked = false ∧ Balanced true rest
  | locked, .unlock :: rest => locked = true ∧ Balanced false rest
  | locked, .callback made :: rest => (made = .supportsTimeInfo ↔ locked = true) ∧ Balanced locked rest
  | locked, .perform part :: rest => part.locked = locked ∧ Balanced false rest
  | locked, .join .. :: rest | locked, .stream :: rest | locked, .watch :: rest => locked = false ∧ Balanced false rest

/-- Neither locks the driver nor calls the host. -/
def aside : Action → Bool
  | .join .. => true
  | .perform part => !part.locked
  | _ => false

end Action

open Ak1Driver.Asio.Action

theorem Action.Balanced.append {locked : Bool} {actions rest : List Action} (balanced : Balanced locked actions)
    (after : Balanced false rest) : Balanced locked (actions ++ rest) := by
  induction actions generalizing locked with
  | nil =>
    cases balanced
    exact after
  | cons action actions ih =>
    cases action with
    | lock | unlock | callback | perform | join | stream | watch => exact ⟨balanced.1, ih balanced.2⟩

theorem Method.actions_balanced (method : Method) : Balanced false method.actions := by
  cases method with
  | queryInterface known => cases known <;> simp [Method.actions, Action.Balanced, Part.locked]
  | controlPanel spawned => cases spawned <;> simp [Method.actions, Action.Balanced, Part.locked]
  | _ => simp [Method.actions, Action.Balanced, Part.locked]

theorem Method.actions_aside (method : Method) (free : method.locks = false) : ∀ action ∈ method.actions, action.aside := by
  cases method with
  | queryInterface known => cases known <;> simp [Method.actions, aside, Part.locked]
  | controlPanel spawned => cases spawned <;> simp_all [Method.actions, Method.locks]
  | _ => simp_all [Method.actions, Method.locks, aside, Part.locked]

theorem Method.actions_joins (method : Method) (joined : Nat) : Action.join joined false ∉ method.actions := by
  cases method with
  | queryInterface known => cases known <;> simp [Method.actions]
  | controlPanel spawned => cases spawned <;> simp [Method.actions]
  | _ => simp [Method.actions]

namespace AsioObject

/-- A frame, and whether its code has the driver locked. -/
structure Placed (locked : Bool) (frame : Frame) : Prop where
  balanced : Balanced locked frame.rest
  calling : ∀ callback, frame.calling = some callback → (callback = .supportsTimeInfo ↔ locked = true)

/-- The calls under way on a thread that has the driver locked, or not. What goes
on in the host's answer to the one callback from a locked driver stays aside. -/
inductive Stacked : Bool → List Frame → Prop where
  | free {frames} (unlocked : ∀ frame ∈ frames, Placed false frame) : Stacked false frames
  | locking {frame frames} (locked : Placed true frame) (unlocked : ∀ frame ∈ frames, Placed false frame) :
      Stacked true (frame :: frames)
  | asking {top frame frames} (balanced : Balanced false top.rest) (idle : top.calling = none)
      (still : ∀ action ∈ top.rest, action.aside) (locked : Placed true frame) (asked : frame.calling = some .supportsTimeInfo)
      (unlocked : ∀ frame ∈ frames, Placed false frame) : Stacked true (top :: frame :: frames)

/-- No thread waits for the driver while it has it locked, nor for its own end. -/
def Unblocked (object : AsioObject) : Prop :=
  ∀ place thread action rest frames, object.threads[place]? = some thread →
    thread.stack = ⟨none, action :: rest⟩ :: frames →
      (action = .lock → object.owner ≠ some place) ∧ action ≠ .join place false

def top (object : AsioObject) (place : Nat) : Option Frame := object.threads[place]?.bind (·.stack.head?)

/-- The host is asked whether it takes time information, which happens while
buffers are made. -/
def asked (object : AsioObject) (place : Nat) : Bool := (object.top place).any (·.calling = some .supportsTimeInfo)

/-- The thread is about to release a reference. -/
def releases (object : AsioObject) (place : Nat) : Bool :=
  (object.top place).any fun
    | ⟨none, .perform .release :: _⟩ => true
    | _ => false

/-- The host calls no method that locks the driver from the query that comes
while buffers are made, and the watch thread does not release the object's last
reference. -/
def Permitted (object : AsioObject) : Event → Prop
  | .call place method => method.locks = true → object.asked place = false
  | .next place => object.releases place = true → object.refs = 1 → object.watch ≠ some place
  | _ => True

instance (object : AsioObject) : (event : Event) → Decidable (object.Permitted event)
  | .call .. | .next _ => inferInstanceAs (Decidable (_ → _))
  | .answer .. | .streamed .. | .watched .. => inferInstanceAs (Decidable True)

namespace Stacked
variable {held : Bool} {frames : List Frame} {rest : List Action}

theorem locks (stacked : Stacked held (⟨none, .lock :: rest⟩ :: frames)) :
    held = false ∧ Stacked true (⟨none, rest⟩ :: frames) := by
  cases stacked with
  | free unlocked =>
    have placed := unlocked _ List.mem_cons_self
    exact ⟨rfl, .locking ⟨placed.balanced.2, nofun⟩ fun frame member => unlocked frame (List.mem_cons_of_mem _ member)⟩
  | locking locked unlocked => cases locked.balanced.1
  | asking balanced idle still => cases still _ List.mem_cons_self

theorem unlocks (stacked : Stacked held (⟨none, .unlock :: rest⟩ :: frames)) :
    held = true ∧ Stacked false (⟨none, rest⟩ :: frames) := by
  cases stacked with
  | free unlocked => cases (unlocked _ List.mem_cons_self).balanced.1
  | locking locked unlocked =>
    refine ⟨rfl, .free fun frame member => ?_⟩
    rcases List.mem_cons.mp member with same | other
    · rw [same]
      exact ⟨locked.balanced.2, nofun⟩
    · exact unlocked frame other
  | asking balanced idle still => cases still _ List.mem_cons_self

theorem calls {callback : Callback} (stacked : Stacked held (⟨none, .callback callback :: rest⟩ :: frames)) :
    Stacked held (⟨some callback, rest⟩ :: frames) := by
  have placed : ∀ locked, Placed locked ⟨none, .callback callback :: rest⟩ → Placed locked ⟨some callback, rest⟩ := by
    intro locked placed
    refine ⟨placed.balanced.2, fun other same => ?_⟩
    cases same
    exact placed.balanced.1
  cases stacked with
  | free unlocked =>
    refine .free fun frame member => ?_
    rcases List.mem_cons.mp member with same | other
    · rw [same]
      exact placed false (unlocked _ List.mem_cons_self)
    · exact unlocked frame (List.mem_cons_of_mem _ other)
  | locking locked unlocked => exact .locking (placed true locked) unlocked
  | asking balanced idle still => cases still _ List.mem_cons_self

/-- Any other action goes on to what it leaves to do. -/
theorem goesOn {action : Action} {actions : List Action} (stacked : Stacked held (⟨none, action :: rest⟩ :: frames))
    (balanced : ∀ locked, Balanced locked (action :: rest) → Balanced locked (actions ++ rest))
    (still : action.aside = true → ∀ more ∈ actions, more.aside = true) :
    Stacked held (⟨none, actions ++ rest⟩ :: frames) := by
  cases stacked with
  | free unlocked =>
    refine .free fun frame member => ?_
    rcases List.mem_cons.mp member with same | other
    · rw [same]
      exact ⟨balanced false (unlocked _ List.mem_cons_self).balanced, nofun⟩
    · exact unlocked frame (List.mem_cons_of_mem _ other)
  | locking locked unlocked => exact .locking ⟨balanced true locked.balanced, nofun⟩ unlocked
  | asking before idle quiet locked asked unlocked =>
    refine .asking (balanced false before) rfl ?_ locked asked unlocked
    intro more member
    rcases List.mem_append.mp member with new | old
    · exact still (quiet _ List.mem_cons_self) more new
    · exact quiet more (List.mem_cons_of_mem _ old)

theorem pops (stacked : Stacked held (⟨none, []⟩ :: frames)) : Stacked held frames := by
  cases stacked with
  | free unlocked => exact .free fun frame member => unlocked frame (List.mem_cons_of_mem _ member)
  | locking locked unlocked => cases locked.balanced
  | asking balanced idle still locked asked unlocked => exact .locking locked unlocked

theorem answers {callback : Callback} {more : List Action} (stacked : Stacked held (⟨some callback, rest⟩ :: frames))
    (balanced : Balanced false more) (alone : callback = .supportsTimeInfo → more = []) :
    Stacked held (⟨none, more ++ rest⟩ :: frames) := by
  cases stacked with
  | free unlocked =>
    refine .free fun frame member => ?_
    rcases List.mem_cons.mp member with same | other
    · rw [same]
      exact ⟨balanced.append (unlocked _ List.mem_cons_self).balanced, nofun⟩
    · exact unlocked frame (List.mem_cons_of_mem _ other)
  | locking locked unlocked =>
    rw [alone ((locked.calling callback rfl).mpr rfl)]
    exact .locking ⟨locked.balanced, nofun⟩ unlocked
  | asking balanced idle => cases idle

/-- The host calls a method from where its own code runs. -/
theorem enters {thread : Thread} {method : Method} (stacked : Stacked held thread.stack) (host : inHost thread = true)
    (permitted : method.locks = true → thread.stack.head?.any (·.calling = some .supportsTimeInfo) = false) :
    Stacked held (⟨none, method.actions⟩ :: thread.stack) := by
  have called : Placed false ⟨none, method.actions⟩ := ⟨method.actions_balanced, nofun⟩
  obtain ⟨ours, stack⟩ := thread
  cases stacked with
  | free unlocked =>
    refine .free fun frame member => ?_
    rcases List.mem_cons.mp member with same | other
    · rw [same]
      exact called
    · exact unlocked frame other
  | @locking frame frames locked unlocked =>
    obtain ⟨callback, calling⟩ := Option.isSome_iff_exists.mp host
    have asked : frame.calling = some .supportsTimeInfo := by
      rw [calling, (locked.calling callback calling).mpr rfl]
    have free : method.locks = false := by
      refine Bool.eq_false_iff.mpr fun locks => ?_
      have none := permitted locks
      simp [asked] at none
    exact .asking method.actions_balanced rfl (method.actions_aside free) locked asked unlocked
  | @asking top frame frames balanced idle =>
    have calling : top.calling.isSome = true := host
    rw [idle] at calling
    cases calling

end Stacked

structure Sound (object : AsioObject) : Prop where
  stacked : ∀ place thread, object.threads[place]? = some thread → Stacked (object.owner == some place) thread.stack
  owned : ∀ place, object.owner = some place → place < object.threads.length
  joins : ∀ place thread, object.threads[place]? = some thread → ∀ frame ∈ thread.stack, Action.join place false ∉ frame.rest

variable {before after : AsioObject}

theorem Sound.goesTo (sound : before.Sound) {place : Nat} {thread : Thread} {stack : List Frame} {owner : Option Nat}
    (found : before.threads[place]? = some thread)
    (others : ∀ other, other ≠ place → (owner == some other) = (before.owner == some other))
    (stacked : Stacked (owner == some place) stack) (owned : ∀ other, owner = some other → other < before.threads.length)
    (joins : ∀ frame ∈ stack, Action.join place false ∉ frame.rest) :
    Sound ({ before with owner }.goesTo place thread stack) := by
  have inside : place < before.threads.length := (List.getElem?_eq_some_iff.mp found).1
  have cases : ∀ other current, (before.threads.set place { thread with stack })[other]? = some current →
      (other = place ∧ current.stack = stack) ∨ (other ≠ place ∧ before.threads[other]? = some current) := by
    intro other current at_
    by_cases same : other = place
    · subst same
      rw [List.getElem?_set_self inside] at at_
      cases at_
      exact .inl ⟨rfl, rfl⟩
    · rw [List.getElem?_set_ne (Ne.symm same)] at at_
      exact .inr ⟨same, at_⟩
  constructor
  · intro other current at_
    rcases cases other current at_ with ⟨same, new⟩ | ⟨different, old⟩
    · subst same
      rw [new]
      exact stacked
    · have kept := sound.stacked other current old
      rwa [← others other different] at kept
  · intro other owns
    rw [AsioObject.goesTo, List.length_set]
    exact owned other owns
  · intro other current at_
    rcases cases other current at_ with ⟨same, new⟩ | ⟨different, old⟩
    · subst same
      rw [new]
      exact joins
    · exact sound.joins other current old

/-- What doing a part changes: it may start a thread of the driver's, and leaves
actions that go with the lock as it is. -/
structure Performs (part : Part) (before after : AsioObject) (actions : List Action) : Prop where
  owner : after.owner = before.owner
  threads : after.threads = before.threads ∨
    ∃ action, Balanced false [action] ∧ (∀ joined, action ≠ .join joined false) ∧
      after.threads = before.threads ++ [⟨false, [⟨none, [action]⟩]⟩]
  balanced : Balanced part.locked actions
  still : part.locked = false → ∀ action ∈ actions, action.aside = true
  joins : ∀ joined, Action.join joined false ∈ actions → part = .release ∧ before.refs = 1 ∧ before.watch = some joined

theorem joinWorker_balanced (thread : Option Nat) : Balanced false (joinWorker thread) := by
  cases thread <;> simp [joinWorker, Action.Balanced]

theorem joinWorker_aside (thread : Option Nat) : ∀ action ∈ joinWorker thread, action.aside = true := by
  cases thread <;> simp [joinWorker, aside]

theorem joinWorker_joins (thread : Option Nat) (joined : Nat) : Action.join joined false ∉ joinWorker thread := by
  cases thread <;> simp [joinWorker]

/-- A part that ends with the driver unlocked and leaves nothing else but this. -/
theorem Performs.unlocks {part : Part} {rest : List Action} (locked : part.locked = true) (owner : after.owner = before.owner)
    (threads : after.threads = before.threads ∨ after.threads = before.threads ++ [⟨false, [⟨none, [.stream]⟩]⟩])
    (balanced : Balanced false rest) (joins : ∀ joined, Action.join joined false ∉ rest) :
    Performs part before after ([.unlock] ++ rest) where
  owner := owner
  threads := threads.imp_right fun same => ⟨.stream, ⟨rfl, rfl⟩, nofun, same⟩
  balanced := by
    rw [locked]
    exact ⟨rfl, balanced⟩
  still free := absurd (locked.symm.trans free) Bool.noConfusion
  joins joined member := by
    rcases List.mem_cons.mp member with same | other
    · cases same
    · exact absurd other (joins joined)

theorem requestReset_balanced : Balanced false requestReset := by
  simp [requestReset, Action.Balanced]

theorem requestReset_joins (joined : Nat) : Action.join joined false ∉ requestReset := by
  simp [requestReset]

theorem Performs.release (object : AsioObject) : Performs .release object (object.perform .release).1 (object.perform .release).2 := by
  simp only [perform]
  by_cases last : object.refs - 1 = 0
  · rw [if_pos last]
    have one : object.refs = 1 := by
      rw [← UInt32.sub_add_cancel object.refs 1, last]
      rfl
    refine ⟨rfl, .inl rfl, ?_, fun _ => ?_, ?_⟩
    · cases object.watch <;> simp [Action.Balanced, Part.locked]
    · cases object.watch <;> simp [aside, Part.locked]
    · intro joined member
      refine ⟨rfl, one, ?_⟩
      cases watched : object.watch with
      | none => simp [watched] at member
      | some thread =>
        simp only [watched, Option.map_some, Option.toList_some, List.cons_append, List.nil_append, List.mem_cons,
          Action.join.injEq, and_true, reduceCtorEq, List.not_mem_nil, or_false] at member
        rw [member]
  · rw [if_neg last]
    exact ⟨rfl, .inl rfl, rfl, fun _ => nofun, nofun⟩

theorem perform_cases (object : AsioObject) (part : Part) :
    Performs part object (object.perform part).1 (object.perform part).2 := by
  have plain : ∀ {part : Part} {after : AsioObject}, part.locked = true → after.owner = object.owner →
      after.threads = object.threads → Performs part object after [.unlock] :=
    fun locked owner threads => Performs.unlocks locked owner (.inl threads) rfl nofun
  have resets : ∀ {part : Part} {after : AsioObject}, part.locked = true → after.owner = object.owner →
      after.threads = object.threads → Performs part object after ([.unlock] ++ requestReset) :=
    fun locked owner threads => Performs.unlocks locked owner (.inl threads) requestReset_balanced requestReset_joins
  cases part with
  | addRef => exact ⟨rfl, .inl rfl, rfl, fun _ => nofun, nofun⟩
  | release => exact Performs.release object
  | dropDriver =>
    exact ⟨rfl, .inl rfl, joinWorker_balanced _, fun _ => joinWorker_aside _, fun joined member => absurd member (joinWorker_joins _ joined)⟩
  | startWatch started =>
    simp only [perform]
    split
    · exact ⟨rfl, .inr ⟨.watch, ⟨rfl, rfl⟩, nofun, rfl⟩, rfl, fun _ => nofun, nofun⟩
    · exact ⟨rfl, .inl rfl, rfl, fun _ => nofun, nofun⟩
  | findDevice found => exact plain rfl rfl rfl
  | start started =>
    simp only [perform]
    split
    · exact plain rfl rfl rfl
    · split
      · exact plain rfl rfl rfl
      · split
        · exact Performs.unlocks rfl rfl (.inr rfl) requestReset_balanced requestReset_joins
        · exact Performs.unlocks rfl rfl (.inr rfl) rfl nofun
  | signalStop =>
    simp only [perform]
    split
    · exact plain rfl rfl rfl
    · split
      · rw [List.append_assoc]
        refine Performs.unlocks rfl rfl (.inl rfl) ((joinWorker_balanced _).append ?_) ?_
        · simp [Action.Balanced, Part.locked]
        · intro joined member
          rcases List.mem_append.mp member with first | last
          · exact joinWorker_joins _ joined first
          · simp at last
      · exact plain rfl rfl rfl
  | stopStreams | read => exact plain rfl rfl rfl
  | listRate => exact plain rfl rfl rfl
  | setRate rate =>
    cases rate with
    | none => exact plain rfl rfl rfl
    | some rate =>
      simp only [perform]
      split
      · exact plain rfl rfl rfl
      · split
        · exact resets rfl rfl rfl
        · exact plain rfl rfl rfl
  | checkBuffers valid opened size =>
    simp only [perform]
    split
    · exact plain rfl rfl rfl
    · refine ⟨rfl, .inl rfl, ?_, nofun, ?_⟩
      · simp [Action.Balanced, Part.locked]
      · simp
  | openDuplex opened size =>
    simp only [perform]
    cases opened <;> exact plain rfl rfl rfl
  | takeSession => exact Performs.unlocks rfl rfl (.inl rfl) (joinWorker_balanced _) (joinWorker_joins _)
  | applyBufferSize settings =>
    simp only [perform]
    split
    · exact plain rfl rfl rfl
    · split
      · exact resets rfl rfl rfl
      · exact plain rfl rfl rfl

theorem Sound.spawned (sound : before.Sound) {action : Action} (balanced : Balanced false [action])
    (joins : ∀ joined, action ≠ .join joined false) (owner : after.owner = before.owner)
    (threads : after.threads = before.threads ++ [⟨false, [⟨none, [action]⟩]⟩]) : after.Sound := by
  have cases : ∀ place thread, after.threads[place]? = some thread →
      before.threads[place]? = some thread ∨ (place = before.threads.length ∧ thread = ⟨false, [⟨none, [action]⟩]⟩) := by
    intro place thread found
    rw [threads] at found
    by_cases inside : place < before.threads.length
    · rw [List.getElem?_append_left inside] at found
      exact .inl found
    · rw [List.getElem?_append_right (Nat.le_of_not_lt inside)] at found
      obtain ⟨last, same⟩ := List.getElem?_eq_some_iff.mp found
      have zero : place - before.threads.length = 0 := by
        rw [List.length_singleton] at last
        omega
      refine .inr ⟨by omega, ?_⟩
      rw [zero] at found
      exact (Option.some.inj found).symm
  constructor
  · intro place thread found
    rw [owner]
    rcases cases place thread found with old | ⟨last, same⟩
    · exact sound.stacked place thread old
    · have free : (before.owner == some place) = false := by
        refine Bool.eq_false_iff.mpr fun owns => ?_
        have inside := sound.owned place (beq_iff_eq.mp owns)
        omega
      rw [free, same]
      refine .free fun frame member => ?_
      rw [List.mem_singleton.mp member]
      exact ⟨balanced, nofun⟩
  · intro place owns
    rw [threads, List.length_append]
    exact Nat.lt_add_right _ (sound.owned place (owner ▸ owns))
  · intro place thread found frame member
    rcases cases place thread found with old | ⟨last, same⟩
    · exact sound.joins place thread old frame member
    · rw [same] at member
      rw [List.mem_singleton.mp member]
      intro joined
      exact joins place (List.mem_singleton.mp joined).symm

theorem Sound.same (sound : before.Sound) (owner : after.owner = before.owner) (threads : after.threads = before.threads) :
    after.Sound where
  stacked place thread found := by
    rw [owner]
    exact sound.stacked place thread (threads ▸ found)
  owned place owns := by
    rw [threads]
    exact sound.owned place (owner ▸ owns)
  joins place thread found := sound.joins place thread (threads ▸ found)

/-- What a thread does with the driver as it is, locked or not. -/
theorem Sound.keeps (sound : before.Sound) {place : Nat} {thread : Thread} {stack : List Frame}
    (found : before.threads[place]? = some thread) (stacked : Stacked (before.owner == some place) stack)
    (joins : ∀ frame ∈ stack, Action.join place false ∉ frame.rest) : (before.goesTo place thread stack).Sound :=
  sound.goesTo found (fun _ _ => rfl) stacked sound.owned joins

theorem create_sound (rate : Proto.SampleRate) (hosts : Nat) : (create rate hosts).Sound := by
  have idle : ∀ (place : Nat) (thread : Thread), (create rate hosts).threads[place]? = some thread → thread.stack = [] := by
    intro place thread found
    have member : thread ∈ List.replicate hosts ⟨true, []⟩ := List.mem_of_getElem? found
    rw [(List.mem_replicate.mp member).2]
  refine ⟨?_, nofun, ?_⟩
  · intro place thread found
    rw [idle place thread found]
    exact .free nofun
  · intro place thread found frame member
    rw [idle place thread found] at member
    cases member

theorem Performs.sound (sound : before.Sound) {part : Part} {actions : List Action}
    (performs : Performs part before after actions) : after.Sound := by
  rcases performs.threads with same | ⟨action, balanced, joins, spawned⟩
  · exact sound.same performs.owner same
  · exact sound.spawned balanced joins performs.owner spawned

theorem Performs.found {part : Part} {actions : List Action} (performs : Performs part before after actions)
    {place : Nat} {thread : Thread} (found : before.threads[place]? = some thread) : after.threads[place]? = some thread := by
  rcases performs.threads with same | ⟨action, _, _, spawned⟩
  · rwa [same]
  · rw [spawned, List.getElem?_append_left (List.getElem?_eq_some_iff.mp found).1]
    exact found

/-- What is left to do after an action, the locking itself apart. -/
theorem Sound.acts (sound : before.Sound) {place : Nat} {thread : Thread} {frames : List Frame} {action : Action}
    {rest : List Action} (found : before.threads[place]? = some thread) (stack : thread.stack = ⟨none, action :: rest⟩ :: frames)
    (permitted : before.releases place = true → before.refs = 1 → before.watch ≠ some place)
    (acted : before.act place thread frames rest action = some after) : after.Sound := by
  have stacked := sound.stacked place thread found
  have joins := sound.joins place thread found
  rw [stack] at stacked joins
  have kept : ∀ callback, ∀ frame ∈ (⟨callback, rest⟩ : Frame) :: frames, Action.join place false ∉ frame.rest := by
    intro callback frame member
    rcases List.mem_cons.mp member with same | other
    · rw [same]
      exact fun joined => joins _ List.mem_cons_self (List.mem_cons_of_mem _ joined)
    · exact joins frame (List.mem_cons_of_mem _ other)
  cases action with
  | lock =>
    obtain ⟨none, same⟩ := Option.ite_none_right_eq_some.mp acted
    cases same
    refine sound.goesTo found ?_ ?_ ?_ (kept _)
    · intro other different
      rw [none]
      simpa using Ne.symm different
    · rw [beq_self_eq_true]
      exact stacked.locks.2
    · intro other same
      cases same
      exact (List.getElem?_eq_some_iff.mp found).1
  | unlock =>
    cases acted
    obtain ⟨held, unlocked⟩ := stacked.unlocks
    refine sound.goesTo found ?_ unlocked nofun (kept _)
    intro other different
    rw [beq_iff_eq.mp held]
    simpa using Ne.symm different
  | callback made =>
    cases acted
    exact sound.keeps found stacked.calls (kept _)
  | join joined unlessSelf =>
    obtain ⟨_, same⟩ := Option.ite_none_right_eq_some.mp acted
    cases same
    have ended : Stacked (before.owner == some place) (⟨none, [] ++ rest⟩ :: frames) := by
      refine stacked.goesOn (fun locked balanced => ?_) nofun
      obtain ⟨free, after⟩ := balanced
      rwa [free]
    exact sound.keeps found ended (kept _)
  | perform part =>
    have performs := perform_cases before part
    have next : (before.perform part).1.owner = before.owner := performs.owner
    rw [← Option.some.inj acted]
    refine (performs.sound sound).keeps (performs.found found) ?_ ?_
    · rw [next]
      refine stacked.goesOn (fun locked balanced => ?_) fun quiet => performs.still ?_
      · obtain ⟨same, after⟩ := balanced
        rw [← same]
        exact performs.balanced.append after
      · simpa [Action.aside] using quiet
    · intro frame member joined
      rcases List.mem_cons.mp member with same | other
      · rw [same] at joined
        rcases List.mem_append.mp joined with new | old
        · obtain ⟨last, one, watched⟩ := performs.joins place new
          refine permitted ?_ one watched
          simp [releases, top, found, stack, last]
        · exact kept none _ List.mem_cons_self old
      · exact kept none frame (List.mem_cons_of_mem _ other) joined
  | stream | watch => cases acted

/-- What the environment gives a thread that waits in its loop, or in a callback. -/
theorem Sound.resumes (sound : before.Sound) {place : Nat} {thread : Thread} {frame : Frame} {frames : List Frame}
    {actions : List Action} (found : before.threads[place]? = some thread) (stack : thread.stack = frame :: frames)
    (stacked : Stacked (before.owner == some place) (⟨none, actions⟩ :: frames))
    (joins : Action.join place false ∈ actions → Action.join place false ∈ frame.rest) :
    (before.goesTo place thread (⟨none, actions⟩ :: frames)).Sound := by
  have before := sound.joins place thread found
  rw [stack] at before
  refine sound.keeps found stacked fun other member joined => ?_
  rcases List.mem_cons.mp member with same | old
  · rw [same] at joined
    exact before frame List.mem_cons_self (joins joined)
  · exact before other (List.mem_cons_of_mem _ old) joined

theorem step_sound {event : Event} (permitted : before.Permitted event) (stepped : before.step event = some after)
    (sound : before.Sound) : after.Sound := by
  cases event with
  | call place method =>
    obtain ⟨thread, found, called⟩ := Option.bind_eq_some_iff.mp stepped
    obtain ⟨host, same⟩ := Option.ite_none_right_eq_some.mp called
    cases same
    have joins := sound.joins place thread found
    refine sound.keeps found ((sound.stacked place thread found).enters host fun locks => ?_) ?_
    · have free := permitted locks
      simpa [asked, top, found] using free
    · intro frame member
      rcases List.mem_cons.mp member with new | old
      · rw [new]
        exact method.actions_joins place
      · exact joins frame old
  | answer place value =>
    obtain ⟨thread, found, answered⟩ := Option.bind_eq_some_iff.mp stepped
    have stacked := sound.stacked place thread found
    split at answered
    next callback rest frames stack =>
      cases answered
      rw [stack] at stacked
      refine sound.resumes found stack (stacked.answers ?_ ?_) fun joined => ?_
      · split
        · exact ⟨⟨nofun, nofun⟩, rfl⟩
        · rfl
      · intro query
        rw [query, if_neg (fun both => nomatch both.1)]
      · rcases List.mem_append.mp joined with more | old
        · split at more <;> simp at more
        · exact old
    next => cases answered
  | next place =>
    obtain ⟨thread, found, acted⟩ := Option.bind_eq_some_iff.mp stepped
    have stacked := sound.stacked place thread found
    split at acted
    next frames stack =>
      cases acted
      rw [stack] at stacked
      refine sound.keeps found stacked.pops fun frame member => ?_
      apply sound.joins place thread found
      rw [stack]
      exact List.mem_cons_of_mem _ member
    next action rest frames stack => exact sound.acts found stack permitted acted
    next => cases acted
  | streamed place outcome =>
    obtain ⟨thread, found, streamed⟩ := Option.bind_eq_some_iff.mp stepped
    have stacked := sound.stacked place thread found
    split at streamed
    next rest frames stack =>
      cases streamed
      rw [stack] at stacked
      refine sound.resumes found stack (stacked.goesOn (fun locked balanced => ?_) nofun) fun joined => ?_
      · obtain ⟨free, after⟩ := balanced
        rw [free]
        apply Balanced.append ?_ after
        cases outcome <;> simp [requestReset, Action.Balanced]
      · rcases List.mem_append.mp joined with more | old
        · cases outcome <;> simp [requestReset] at more
        · exact List.mem_cons_of_mem _ old
    next => cases streamed
  | watched place change =>
    obtain ⟨thread, found, watched⟩ := Option.bind_eq_some_iff.mp stepped
    have stacked := sound.stacked place thread found
    split at watched
    next rest frames stack =>
      cases watched
      rw [stack] at stacked
      refine sound.resumes found stack (stacked.goesOn (fun locked balanced => ?_) nofun) fun joined => ?_
      · obtain ⟨free, after⟩ := balanced
        rw [free]
        apply Balanced.append ?_ after
        cases change <;> simp [Action.Balanced, Part.locked]
      · rcases List.mem_append.mp joined with more | old
        · cases change <;> simp at more
        · exact List.mem_cons_of_mem _ old
    next => cases watched

theorem Sound.unblocked (sound : before.Sound) : before.Unblocked := by
  intro place thread action rest frames found stack
  have stacked := sound.stacked place thread found
  rw [stack] at stacked
  constructor
  · intro locks owns
    rw [locks, owns, beq_self_eq_true] at stacked
    cases stacked.locks.1
  · intro joins
    refine sound.joins place thread found ⟨none, action :: rest⟩ ?_ ?_
    · rw [stack]
      exact List.mem_cons_self
    · rw [joins]
      exact List.mem_cons_self

/-- What a thread is stuck at, decided. -/
def waitsForItself (object : AsioObject) (place : Nat) : Bool :=
  (object.top place).any fun
    | ⟨none, .lock :: _⟩ => object.owner == some place
    | ⟨none, .join joined false :: _⟩ => joined == place
    | _ => false

theorem Unblocked.not_waits (unblocked : before.Unblocked) (place : Nat) : before.waitsForItself place = false := by
  refine Bool.eq_false_iff.mpr fun waits => ?_
  obtain ⟨frame, found, waits⟩ := (Option.any_eq_true _ _).mp waits
  obtain ⟨thread, inside, head⟩ := Option.bind_eq_some_iff.mp found
  have stack : thread.stack = frame :: thread.stack.tail := (List.cons_head?_tail head).symm
  split at waits
  next rest =>
    exact (unblocked place thread .lock rest _ inside stack).1 rfl (beq_iff_eq.mp waits)
  next joined rest =>
    refine (unblocked place thread (.join joined false) rest _ inside stack).2 ?_
    rw [beq_iff_eq.mp waits]
  next => cases waits

end AsioObject

/-- In any run in which the host locks the driver from no query about time
information, and releases the object for the last time elsewhere than on the
watch thread, no thread waits for itself. -/
theorem callbacks_may_reenter (rate : Proto.SampleRate) (hosts : Nat) {events : List AsioObject.Event} {object : AsioObject}
    (along : Along AsioObject.step AsioObject.Permitted (.create rate hosts) events)
    (ran : run AsioObject.step (.create rate hosts) events = some object) : object.Unblocked := by
  refine AsioObject.Sound.unblocked (run_invariant AsioObject.Sound ?_ along ran (AsioObject.create_sound rate hosts))
  intro before event after permitted stepped sound
  exact AsioObject.step_sound permitted stepped sound

open Ak1Driver.Asio.AsioObject (Event)

/-- The host finds the card and makes buffers, as far as the query. -/
def makesBuffers (watched : Bool) : List Event :=
  [.call 0 (.init watched true)] ++ List.replicate 5 (.next 0) ++ [.call 0 (.createBuffers true true 64)] ++
    List.replicate 3 (.next 0)

/-- The host stops the driver from the first buffer switch. -/
def stopsInSwitch : List Event :=
  makesBuffers false ++ [.answer 0 true] ++ List.replicate 3 (.next 0) ++ [.call 0 (.start true)] ++
    List.replicate 4 (.next 0) ++ [.streamed 1 .switched, .next 1, .call 1 .stop] ++ List.replicate 8 (.next 1) ++ [.answer 1 true]

theorem callbacks_may_reenter_stopped : ∃ object, run AsioObject.step (.create .hz44100 1) stopsInSwitch = some object ∧
    object.driver.session.any (·.running = false) ∧ object.Unblocked := by
  have stops : (run AsioObject.step (.create .hz44100 1) stopsInSwitch).any (·.driver.session.any (·.running = false)) = true := by
    decide +kernel
  obtain ⟨object, ran, stopped⟩ := (Option.any_eq_true _ _).mp stops
  have along : Along AsioObject.step AsioObject.Permitted (.create .hz44100 1) stopsInSwitch := by decide +kernel
  exact ⟨object, ran, stopped, callbacks_may_reenter .hz44100 1 along ran⟩

/-- A host that asks for the rate while it is asked about time information waits
for itself, and so does the watch thread if the host lets go of the driver when
it is asked to take a new buffer size. -/
theorem callbacks_block : ∃ asking releasing : List Event, ∀ events ∈ [asking, releasing],
    ∃ object, run AsioObject.step (.create .hz44100 1) events = some object ∧ ¬ object.Unblocked := by
  have blocked : ∀ (events : List Event) (place : Nat),
      (run AsioObject.step (.create .hz44100 1) events).any (·.waitsForItself place) = true →
        ∃ object, run AsioObject.step (.create .hz44100 1) events = some object ∧ ¬ object.Unblocked := by
    intro events place waits
    obtain ⟨object, ran, waits⟩ := (Option.any_eq_true _ _).mp waits
    refine ⟨object, ran, fun unblocked => ?_⟩
    rw [unblocked.not_waits place] at waits
    cases waits
  let asking : List Event := makesBuffers false ++ [.call 0 .getSampleRate]
  let releasing : List Event := makesBuffers true ++ [.answer 0 true] ++ List.replicate 3 (.next 0) ++
    [.watched 1 (some ⟨2⟩)] ++ List.replicate 4 (.next 1) ++ [.call 1 .release, .next 1]
  refine ⟨asking, releasing, ?_⟩
  intro events member
  rcases List.mem_cons.mp member with first | rest
  · exact first ▸ blocked asking 0 (by decide +kernel)
  · exact List.mem_singleton.mp rest ▸ blocked releasing 1 (by decide +kernel)

end Ak1Driver.Asio
