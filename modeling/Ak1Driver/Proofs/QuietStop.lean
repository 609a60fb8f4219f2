import Ak1Driver.Proofs.OneThread

/-! A stop is quiet unless it comes from the streaming thread itself. A thread
loops only while the kernel driver has its session: whoever ends that session has
waited for the thread, but for a call from the thread's own callback. -/

namespace Ak1Driver.Threads
open Lib.Transition

variable {threads after : Threads}

/-- The kernel driver accepts the reads and writes of a session that it has, and
signals its periods in time. -/
def healthy (threads : Threads) : Event → Bool
  | .work _ .failed => !threads.kernel
  | _ => true

/-- No stop and no disposal of the buffers takes effect from a callback. -/
def outside (threads : Threads) : Event → Bool
  | .go index _ =>
    match threads.calls[index]? with
    | some ⟨.worker _, .stop, .entering⟩ => !(threads.present && threads.running)
    | some ⟨.worker _, .disposeBuffers, .entering⟩ => !threads.present
    | _ => true
  | _ => true

/-- A stop under way, or a start that has the kernel driver's session. -/
def Call.busy (call : Call) : Bool :=
  match call.method, call.point with
  | .start, .spawning | .stop, .signalling _ | .stop, .joining _ | .stop, .reentering | .stop, .ending => true
  | _, _ => false

section Calls
variable {call : Call}

/-- What holds while a stop is under way that is to wait for a thread. -/
structure Stops (threads : Threads) (caller : Caller) (thread : Option Nat) : Prop where
  host : caller = .host
  idle : threads.running = false
  kernel : threads.present = true → threads.kernel = true
  only : ∀ number, threads.looping number = true → thread = some number

/-- What holds while a call is under way. -/
def Heeds (threads : Threads) (call : Call) : Prop :=
  match call.method, call.point with
  | .start, .spawning => threads.kernel = true
  | .stop, .signalling thread => Stops threads call.caller thread
  | .stop, .joining thread =>
    Stops threads call.caller thread ∧ (threads.stop = true ∨ ∀ number, threads.looping number = false)
  | .stop, .reentering | .stop, .ending => Stops threads call.caller none
  | .disposeBuffers, .signalling _ | .disposeBuffers, .joining _ | .disposeBuffers, .ending | .disposeBuffers, .freeing =>
    call.caller = .host
  | _, _ => True

/-- Only a call that is busy relies on the state. -/
theorem Heeds.free (heeds : Heeds threads call) (idle : call.busy = false) (after : Threads) : Heeds after call := by
  obtain ⟨caller, method, point⟩ := call
  cases method with
  | start =>
    cases point with
    | spawning => cases idle
    | _ => trivial
  | stop =>
    cases point with
    | signalling | joining | reentering | ending => cases idle
    | _ => trivial
  | disposeBuffers =>
    cases point with
    | signalling | joining | ending | freeing => exact heeds
    | _ => trivial

/-- A change that no call under way minds. -/
structure Mild (threads after : Threads) : Prop where
  ages : Ages threads after
  running : threads.running = false → after.running = false
  session : after.present = true → threads.present = true ∧ (threads.kernel = true → after.kernel = true)
  stop : threads.stop = true → after.stop = true ∨ ∀ number, after.looping number = false

theorem Stops.mono {caller : Caller} {thread : Option Nat} (stops : Stops threads caller thread) (mild : Mild threads after) :
    Stops after caller thread where
  host := stops.host
  idle := mild.running stops.idle
  kernel := by
    intro present
    obtain ⟨before, kept⟩ := mild.session present
    exact kept (stops.kernel before)
  only := fun number loops => stops.only number (mild.ages.looping number loops)

theorem Heeds.mono (heeds : Heeds threads call) (mild : Mild threads after)
    (spawns : call.method = .start → call.point = .spawning → threads.kernel = true → after.kernel = true) : Heeds after call := by
  obtain ⟨caller, method, point⟩ := call
  cases method with
  | start =>
    cases point with
    | spawning => exact spawns rfl rfl heeds
    | _ => trivial
  | stop =>
    cases point with
    | signalling | reentering | ending => exact Stops.mono heeds mild
    | joining =>
      refine ⟨heeds.1.mono mild, ?_⟩
      rcases heeds.2 with set | none
      · exact mild.stop set
      · exact Or.inr (not_of_ages mild.ages.looping none)
    | _ => trivial
  | disposeBuffers =>
    cases point with
    | signalling | joining | ending | freeing => exact heeds
    | _ => trivial

end Calls

/-- A thread in its loop has a session to stream, and no thread asks for a reset. -/
structure Quiet (threads : Threads) : Prop where
  kernel : ∀ number, threads.looping number = true → threads.kernel = true
  never : ∀ worker ∈ threads.workers, worker.place ≠ .resetting ∧ worker.asked = false
  session : threads.present = true → threads.running = true → threads.kernel = true
  joinable : threads.present = true → threads.running = true → ∀ number, threads.looping number = true →
    threads.thread = some number
  freed : threads.freed = true → threads.present = false ∧ ∀ number, threads.looping number = false
  single : ∀ (i j : Nat) (first second : Call), threads.calls[i]? = some first → threads.calls[j]? = some second →
    first.busy = true → second.busy = true → i = j
  heeds : ∀ (i : Nat) call, threads.calls[i]? = some call → Heeds threads call

theorem next_resetting {number : Nat} {place : Place} {outcome : Outcome}
    (went : threads.next number place outcome = some .resetting) : outcome = .failed ∧ place.looping = true := by
  cases outcome with
  | failed =>
    cases place with
    | waiting | reading | writing => exact ⟨rfl, rfl⟩
    | _ => cases went
  | went =>
    cases place with
    | waiting =>
      simp only [next] at went
      split at went
      · cases went
      · split at went <;> cases went
    | reading | calling | writing =>
      simp only [next] at went
      split at went <;> cases went
    | _ => cases went
  | empty =>
    cases place with
    | reading =>
      simp only [next] at went
      split at went <;> cases went
    | _ => cases went

theorem Quiet.work (quiet : Quiet threads) {number : Nat} {outcome : Outcome}
    (healthy : threads.healthy (.work number outcome) = true) (stepped : step threads (.work number outcome) = some after) :
    Quiet after := by
  have ages := work_ages stepped
  obtain ⟨worker, later, known, went, rfl⟩ := work_step stepped
  have mild : Mild threads { threads with workers := threads.workers.set number (moved worker later) } :=
    ⟨ages, id, fun present => ⟨present, id⟩, Or.inl⟩
  have before := quiet.never worker (List.mem_of_getElem? known)
  have streams : worker.place.looping = true → threads.kernel = true := by
    intro loops
    apply quiet.kernel number
    rw [looping, known]
    exact loops
  have calm : later ≠ .resetting := by
    rintro rfl
    obtain ⟨rfl, loops⟩ := next_resetting went
    have gone : threads.kernel = false := Bool.not_eq_true' _ ▸ healthy
    exact absurd ((streams loops).symm.trans gone) Bool.noConfusion
  refine ⟨fun other loops => quiet.kernel other (ages.looping other loops), ?_, quiet.session, ?_, ?_, quiet.single, ?_⟩
  · intro other member
    rcases List.mem_or_eq_of_mem_set member with old | rfl
    · exact quiet.never other old
    · refine ⟨calm, ?_⟩
      rw [moved, before.2, Bool.false_or]
      exact decide_eq_false before.1
  · exact fun present running other loops => quiet.joinable present running other (ages.looping other loops)
  · exact fun freed => ⟨(quiet.freed freed).1, not_of_ages ages.looping (quiet.freed freed).2⟩
  · exact fun i call held => (quiet.heeds i call held).mono mild fun _ _ => id

theorem Quiet.call (quiet : Quiet threads) {caller : Caller} {method : Method}
    (stepped : step threads (.call caller method) = some after) : Quiet after := by
  have idle : (Call.mk caller method .entering).busy = false := by cases method <;> rfl
  obtain rfl := call_step stepped
  refine { quiet with single := ?_, heeds := ?_ }
  · intro i j first second known other one also
    rcases added_call known with old | rfl
    · rcases added_call other with older | rfl
      · exact quiet.single i j first second old older one also
      · exact absurd (also.symm.trans idle) Bool.noConfusion
    · exact absurd (one.symm.trans idle) Bool.noConfusion
  · intro i call known
    rcases added_call known with old | rfl
    · exact (quiet.heeds i call old).mono ⟨same_ages rfl, id, fun present => ⟨present, id⟩, Or.inl⟩ fun _ _ => id
    · cases method <;> trivial

theorem of_false {goal : Prop} (impossible : false = true) : goal := Bool.noConfusion impossible

section Steps
variable {index : Nat} {caller : Caller} {method : Method} {point later : Point} {changed : Threads}

/-- A call's step, from what it does and what that means to the other calls. -/
theorem Quiet.goes (quiet : Quiet threads) (held : threads.calls[index]? = some ⟨caller, method, point⟩)
    (kernel : ∀ number, changed.looping number = true → changed.kernel = true)
    (never : ∀ worker ∈ changed.workers, worker.place ≠ .resetting ∧ worker.asked = false)
    (session : changed.present = true → changed.running = true → changed.kernel = true)
    (joinable : changed.present = true → changed.running = true → ∀ number, changed.looping number = true →
      changed.thread = some number)
    (freed : changed.freed = true → changed.present = false ∧ ∀ number, changed.looping number = false)
    (single : (Call.mk caller method later).busy = true → ∀ (j : Nat) other, j ≠ index → threads.calls[j]? = some other →
      other.busy = false)
    (own : Heeds changed ⟨caller, method, later⟩)
    (others : ∀ (j : Nat) other, j ≠ index → threads.calls[j]? = some other → Heeds threads other → Heeds changed other) :
    Quiet { changed with calls := threads.calls.set index ⟨caller, method, later⟩ } := by
  have mild : Mild changed { changed with calls := threads.calls.set index ⟨caller, method, later⟩ } :=
    ⟨same_ages rfl, id, fun present => ⟨present, id⟩, Or.inl⟩
  refine ⟨kernel, never, session, joinable, freed, ?_, ?_⟩
  · intro i j first second known other one also
    rcases set_call held known with ⟨rfl, rfl⟩ | ⟨elsewhere, old⟩
    · rcases set_call held other with ⟨rfl, _⟩ | ⟨apart, older⟩
      · rfl
      · exact absurd (also.symm.trans (single one j second apart older)) Bool.noConfusion
    · rcases set_call held other with ⟨rfl, rfl⟩ | ⟨_, older⟩
      · exact absurd (one.symm.trans (single also i first elsewhere old)) Bool.noConfusion
      · exact quiet.single i j first second old older one also
  · intro i call known
    rcases set_call held known with ⟨rfl, rfl⟩ | ⟨elsewhere, old⟩
    · exact own.mono mild fun _ _ => id
    · exact (others i call elsewhere old (quiet.heeds i call old)).mono mild fun _ _ => id

/-- A busy call stays the only one. -/
theorem Quiet.still (quiet : Quiet threads) (held : threads.calls[index]? = some ⟨caller, method, point⟩)
    (busy : (Call.mk caller method point).busy = true) (j : Nat) (other : Call) (elsewhere : j ≠ index)
    (known : threads.calls[j]? = some other) : other.busy = false := by
  cases also : other.busy with
  | false => rfl
  | true => exact absurd (quiet.single j index _ _ known held also busy) elsewhere

/-- A step that changes nothing but where the call is. -/
theorem Quiet.stays (quiet : Quiet threads) (held : threads.calls[index]? = some ⟨caller, method, point⟩)
    (busy : (Call.mk caller method later).busy = true → (Call.mk caller method point).busy = true)
    (own : Heeds threads ⟨caller, method, later⟩) :
    Quiet { threads with calls := threads.calls.set index ⟨caller, method, later⟩ } :=
  quiet.goes held quiet.kernel quiet.never quiet.session quiet.joinable quiet.freed
    (fun now j other elsewhere known => quiet.still held (busy now) j other elsewhere known) own fun _ _ _ _ heeds => heeds

/-- A call is idle that starts nothing and of which nothing holds that holds while a stop waits. -/
theorem idle_of_heeds {other : Call} (heeds : Heeds threads other) (stopless : ∀ caller thread, ¬ Stops threads caller thread)
    (startless : other.locks = true → other.method ≠ .start) : other.busy = false := by
  obtain ⟨caller, method, point⟩ := other
  cases method with
  | start =>
    cases point with
    | spawning => exact absurd rfl (startless rfl)
    | _ => rfl
  | stop =>
    cases point with
    | signalling | reentering | ending => exact absurd heeds (stopless _ _)
    | joining => exact absurd heeds.1 (stopless _ _)
    | _ => rfl
  | disposeBuffers => cases point <;> rfl

theorem looping_alive {number : Nat} (loops : threads.looping number = true) : threads.alive number = true := by
  obtain ⟨worker, known, looping⟩ := (Option.any_eq_true _ _).mp loops
  rw [alive, known]
  apply decide_eq_true
  intro ended
  rw [ended] at looping
  cases looping

theorem Quiet.start (quiet : Quiet threads) (orderly : Orderly threads)
    (held : threads.calls[index]? = some ⟨caller, .start, point⟩) (goes : Goes threads caller .start point changed later) :
    Quiet { changed with calls := threads.calls.set index ⟨caller, .start, later⟩ } := by
  have fits := orderly.fits index _ held
  have own := quiet.heeds index _ held
  cases goes with
  | starts | startless | refused => exact quiet.stays held of_false trivial
  | clears =>
    have mild : Mild threads { threads with stop := false } :=
      ⟨same_ages rfl, id, fun present => ⟨present, id⟩, fun _ => Or.inr fits.2⟩
    exact quiet.goes held quiet.kernel quiet.never quiet.session quiet.joinable quiet.freed of_false trivial
      fun _ _ _ _ heeds => heeds.mono mild fun _ _ => id
  | opens closed =>
    have mild : Mild threads { threads with kernel := true } :=
      ⟨same_ages rfl, id, fun present => ⟨present, fun _ => rfl⟩, Or.inl⟩
    refine quiet.goes held (fun _ _ => rfl) quiet.never (fun _ _ => rfl) quiet.joinable quiet.freed ?_ rfl
      fun _ _ _ _ heeds => heeds.mono mild fun _ _ _ => rfl
    intro _ j other elsewhere known
    apply idle_of_heeds (quiet.heeds j other known)
    · exact fun _ _ stops => absurd ((stops.kernel fits.1).symm.trans closed) Bool.noConfusion
    · exact fun locks _ => absurd (orderly.locks j index _ _ known held locks rfl) elsewhere
  | spawns =>
    refine quiet.goes held (fun _ _ => own) ?_ (fun _ _ => own)
      (fun _ _ number loops => congrArg some (spawned_looping fits.2 loops).symm)
      (fun freed => absurd (fits.1.symm.trans (quiet.freed freed).1) Bool.noConfusion) of_false trivial
      fun j other elsewhere known heeds => heeds.free (quiet.still held rfl j other elsewhere known) _
    intro worker member
    rcases List.mem_append.mp member with old | new
    · exact quiet.never worker old
    · obtain rfl := List.mem_singleton.mp new
      exact ⟨Place.noConfusion, rfl⟩

theorem Quiet.stop (quiet : Quiet threads) (held : threads.calls[index]? = some ⟨caller, .stop, point⟩) {granted : Bool}
    (outside : threads.outside (.go index granted) = true) (goes : Goes threads caller .stop point changed later) :
    Quiet { changed with calls := threads.calls.set index ⟨caller, .stop, later⟩ } := by
  have own := quiet.heeds index _ held
  cases goes with
  | stops free present running =>
    have host : caller = .host := by
      cases caller with
      | host => rfl
      | worker number =>
        rw [Threads.outside, held] at outside
        simp only [present, running, Bool.and_self, Bool.not_true] at outside
        exact of_false outside
    have mild : Mild threads { threads with running := false, thread := none } :=
      ⟨same_ages rfl, fun _ => rfl, fun present => ⟨present, id⟩, Or.inl⟩
    refine quiet.goes held quiet.kernel quiet.never (fun _ => of_false) (fun _ => of_false) quiet.freed ?_
      ⟨host, rfl, fun _ => quiet.session present running, quiet.joinable present running⟩
      fun _ _ _ _ heeds => heeds.mono mild fun _ _ => id
    intro _ j other _ known
    apply idle_of_heeds (quiet.heeds j other known)
    · exact fun _ _ stops => absurd (running.symm.trans stops.idle) Bool.noConfusion
    · exact fun locks _ => absurd (locks.symm.trans (unlocked_of free known)) Bool.noConfusion
  | stopSignals thread =>
    have mild : Mild threads { threads with stop := threads.stop || thread.isSome } :=
      ⟨same_ages rfl, id, fun present => ⟨present, id⟩, fun set => Or.inl (by rw [set]; rfl)⟩
    refine quiet.goes held quiet.kernel quiet.never quiet.session quiet.joinable quiet.freed (fun _ => quiet.still held rfl)
      ⟨Stops.mono own mild, ?_⟩ fun _ _ _ _ heeds => heeds.mono mild fun _ _ => id
    cases thread with
    | none =>
      refine Or.inr fun number => Bool.eq_false_iff.mpr fun loops => ?_
      exact Option.some_ne_none number (Stops.only own number loops).symm
    | some number => exact Or.inl (Bool.or_true _)
  | stopJoins thread waited =>
    refine quiet.stays held (fun _ => rfl) { own.1 with only := fun number loops => ?_ }
    have host : caller = .host := own.1.host
    rw [own.1.only number loops, host] at waited
    exact absurd ((looping_alive loops).symm.trans (joined_ended waited)) Bool.noConfusion
  | reenters => exact quiet.stays held (fun _ => rfl) own
  | stopless | disposed => exact quiet.stays held of_false trivial
  | stopEnds =>
    have stops : Stops threads caller none := own
    refine quiet.goes held ?_ quiet.never ?_ quiet.joinable quiet.freed of_false trivial
      fun j other elsewhere known heeds => heeds.free (quiet.still held rfl j other elsewhere known) _
    · intro number loops
      exact absurd (stops.only number loops).symm (Option.some_ne_none number)
    · intro _ running
      exact absurd (running.symm.trans stops.idle) Bool.noConfusion

theorem Quiet.dispose (quiet : Quiet threads) (orderly : Orderly threads)
    (held : threads.calls[index]? = some ⟨caller, .disposeBuffers, point⟩) {granted : Bool}
    (outside : threads.outside (.go index granted) = true)
    (goes : Goes threads caller .disposeBuffers point changed later) :
    Quiet { changed with calls := threads.calls.set index ⟨caller, .disposeBuffers, later⟩ } := by
  have fits := orderly.fits index _ held
  have own := quiet.heeds index _ held
  cases goes with
  | disposes free present =>
    have host : caller = .host := by
      cases caller with
      | host => rfl
      | worker number =>
        rw [Threads.outside, held] at outside
        simp only [present, Bool.not_true] at outside
        exact of_false outside
    have mild : Mild threads { threads with present := false, thread := none } := ⟨same_ages rfl, id, of_false, Or.inl⟩
    exact quiet.goes held quiet.kernel quiet.never of_false of_false (fun freed => ⟨rfl, (quiet.freed freed).2⟩) of_false host
      fun _ _ _ _ heeds => heeds.mono mild fun _ _ => id
  | absent => exact quiet.stays held of_false trivial
  | disposeSignals thread =>
    have mild : Mild threads { threads with stop := threads.stop || thread.isSome } :=
      ⟨same_ages rfl, id, fun present => ⟨present, id⟩, fun set => Or.inl (by rw [set]; rfl)⟩
    exact quiet.goes held quiet.kernel quiet.never quiet.session quiet.joinable quiet.freed of_false own
      fun _ _ _ _ heeds => heeds.mono mild fun _ _ => id
  | disposeJoins => exact quiet.stays held of_false own
  | disposeEnds =>
    have absent : threads.present ≠ true := Bool.eq_false_iff.mp fits.1
    have mild : Mild threads { threads with kernel := false } :=
      ⟨same_ages rfl, id, fun present => absurd present absent, Or.inl⟩
    refine quiet.goes held ?_ quiet.never (fun present => absurd present absent) (fun present => absurd present absent) quiet.freed
      of_false own ?_
    · intro number loops
      exact absurd ((looping_alive loops).symm.trans (fits.2 own number)) Bool.noConfusion
    · intro j other _ known heeds
      refine heeds.mono mild fun starts spawns => ?_
      have fitting := orderly.fits j other known
      rw [Fits, starts, spawns] at fitting
      exact absurd fitting.1 absent
  | frees =>
    have mild : Mild threads { threads with freed := true } := ⟨same_ages rfl, id, fun present => ⟨present, id⟩, Or.inl⟩
    refine quiet.goes held quiet.kernel quiet.never quiet.session quiet.joinable ?_ of_false trivial
      fun _ _ _ _ heeds => heeds.mono mild fun _ _ => id
    intro _
    exact ⟨fits.1, fun number => Bool.eq_false_iff.mpr fun loops =>
      absurd ((looping_alive loops).symm.trans (fits.2 own number)) Bool.noConfusion⟩

end Steps

theorem Quiet.step (quiet : Quiet threads) (orderly : Orderly threads) {event : Event} (healthy : threads.healthy event = true)
    (outside : threads.outside event = true) (stepped : Threads.step threads event = some after) : Quiet after := by
  cases event with
  | call caller method => exact quiet.call stepped
  | go index granted =>
    obtain ⟨⟨caller, method, point⟩, changed, later, held, goes, rfl⟩ := go_step stepped
    cases method with
    | start => exact quiet.start orderly held goes
    | stop => exact quiet.stop held outside goes
    | disposeBuffers => exact quiet.dispose orderly held outside goes
  | work number outcome => exact quiet.work healthy stepped

theorem created_quiet : Quiet created := ⟨nofun, nofun, nofun, nofun, nofun, nofun, nofun⟩

/-- A step of a run that keeps streaming threads apart, without a failure of the
device and without a stop that takes effect from a callback. -/
structure Undisturbed (threads : Threads) (event : Event) : Prop where
  healthy : threads.healthy event = true
  alone : threads.alone event = true
  outside : threads.outside event = true

section Ends
variable {number : Nat} {event : Event}

theorem Goes.grown {caller : Caller} {method : Method} {point later : Point} {changed : Threads}
    (goes : Goes threads caller method point changed later) : ∃ spawned, changed.workers = threads.workers ++ spawned := by
  rcases goes.shared with ⟨_, _, _, rfl⟩ | ⟨same, _⟩
  · exact ⟨_, rfl⟩
  · exact ⟨[], same.trans (List.append_nil _).symm⟩

theorem workers_grow (stepped : step threads event = some after) : threads.workers.length ≤ after.workers.length := by
  cases event with
  | call caller method =>
    obtain rfl := call_step stepped
    exact Nat.le_refl _
  | go index granted =>
    obtain ⟨call, changed, later, _, goes, rfl⟩ := go_step stepped
    obtain ⟨spawned, grown⟩ := goes.grown
    simp only [grown, List.length_append, Nat.le_add_right]
  | work other outcome =>
    obtain ⟨worker, later, _, _, rfl⟩ := work_step stepped
    exact Nat.le_of_eq List.length_set.symm

/-- Only a streaming thread's own steps change where it is. -/
theorem worker_kept (stepped : step threads event = some after) (other : ∀ outcome, event ≠ .work number outcome)
    (inside : number < threads.workers.length) : after.workers[number]? = threads.workers[number]? := by
  cases event with
  | call caller method =>
    obtain rfl := call_step stepped
    rfl
  | go index granted =>
    obtain ⟨call, changed, later, _, goes, rfl⟩ := go_step stepped
    obtain ⟨spawned, grown⟩ := goes.grown
    simp only [grown]
    exact List.getElem?_append_left inside
  | work elsewhere outcome =>
    obtain ⟨worker, later, _, _, rfl⟩ := work_step stepped
    apply List.getElem?_set_ne
    rintro rfl
    exact other outcome rfl

/-- A streaming thread that has ended does not come back. -/
theorem ended_kept (stepped : step threads event = some after) (inside : number < threads.workers.length)
    (ended : threads.alive number = false) : after.alive number = false := by
  cases event with
  | work elsewhere outcome =>
    refine Bool.eq_false_iff.mpr fun lives => ?_
    exact absurd (((work_ages stepped).alive number lives).symm.trans ended) Bool.noConfusion
  | call | go =>
    rw [alive, worker_kept stepped (fun _ => Event.noConfusion) inside]
    exact ended

/-- The threads that are to be joined have been spawned. -/
structure Spawned (threads : Threads) : Prop where
  thread : ∀ number, threads.thread = some number → number < threads.workers.length
  calls : ∀ call ∈ threads.calls, ∀ number,
    call.point = .signalling (some number) ∨ call.point = .joining (some number) → number < threads.workers.length

theorem created_spawned : Spawned created :=
  ⟨fun _ same => absurd same (Option.some_ne_none _).symm, fun _ member => absurd member List.not_mem_nil⟩

theorem Goes.spawned {caller : Caller} {method : Method} {point later : Point} {changed : Threads}
    (goes : Goes threads caller method point changed later) (spawned : Spawned threads)
    (member : ⟨caller, method, point⟩ ∈ threads.calls) :
    (∀ number, changed.thread = some number → number < changed.workers.length) ∧
    ∀ number, later = .signalling (some number) ∨ later = .joining (some number) → number < changed.workers.length := by
  have own := spawned.calls _ member
  cases goes with
  | spawns =>
    refine ⟨fun number same => ?_, fun number points => points.elim Point.noConfusion Point.noConfusion⟩
    obtain rfl := Option.some.inj same
    simp only [List.length_append, List.length_cons, List.length_nil, Nat.lt_add_one]
  | stops | disposes =>
    refine ⟨fun number same => absurd same (Option.some_ne_none number).symm, fun number points => spawned.thread number ?_⟩
    rcases points with same | same
    · exact Point.signalling.inj same
    · cases same
  | stopSignals thread | disposeSignals thread =>
    refine ⟨spawned.thread, fun number points => own number (Or.inl ?_)⟩
    rcases points with same | same
    · cases same
    · rw [Point.joining.inj same]
  | _ => exact ⟨spawned.thread, fun number points => points.elim Point.noConfusion Point.noConfusion⟩

theorem Spawned.step (spawned : Spawned threads) (stepped : Threads.step threads event = some after) : Spawned after := by
  cases event with
  | call caller method =>
    obtain rfl := call_step stepped
    refine ⟨spawned.thread, fun call member => ?_⟩
    rcases List.mem_append.mp member with old | new
    · exact spawned.calls call old
    · obtain rfl := List.mem_singleton.mp new
      exact fun number points => points.elim Point.noConfusion Point.noConfusion
  | go index granted =>
    have longer := workers_grow stepped
    obtain ⟨call, changed, later, held, goes, rfl⟩ := go_step stepped
    obtain ⟨thread, own⟩ := goes.spawned spawned (List.mem_of_getElem? held)
    refine ⟨thread, fun other member number points => ?_⟩
    rcases List.mem_or_eq_of_mem_set member with old | rfl
    · exact Nat.lt_of_lt_of_le (spawned.calls other old number points) longer
    · exact own number points
  | work elsewhere outcome =>
    have longer := workers_grow stepped
    obtain ⟨worker, later, _, _, rfl⟩ := work_step stepped
    exact ⟨fun number same => Nat.lt_of_lt_of_le (spawned.thread number same) longer,
      fun call member number points => Nat.lt_of_lt_of_le (spawned.calls call member number points) longer⟩

/-- A stop has told the thread to end and waits for it, or it has ended. -/
structure Leaving (threads : Threads) (index number : Nat) : Prop where
  orderly : Orderly threads
  quiet : Quiet threads
  inside : number < threads.workers.length
  joins : (∃ caller, threads.calls[index]? = some ⟨caller, .stop, .joining (some number)⟩) ∨ threads.alive number = false

variable {index : Nat}

theorem Leaving.step (leaving : Leaving threads index number) (undisturbed : Undisturbed threads event)
    (stepped : Threads.step threads event = some after) : Leaving after index number where
  orderly := leaving.orderly.step undisturbed.alone stepped
  quiet := leaving.quiet.step leaving.orderly undisturbed.healthy undisturbed.outside stepped
  inside := Nat.lt_of_lt_of_le leaving.inside (workers_grow stepped)
  joins := by
    rcases leaving.joins with ⟨caller, held⟩ | ended
    · cases event with
      | call other method =>
        obtain rfl := call_step stepped
        refine Or.inl ⟨caller, ?_⟩
        rw [List.getElem?_append_left (List.getElem?_eq_some_iff.mp held).1]
        exact held
      | go other granted =>
        obtain ⟨call, changed, later, known, goes, rfl⟩ := go_step stepped
        by_cases here : other = index
        · subst here
          cases known.symm.trans held
          have heeds := leaving.quiet.heeds other _ held
          cases goes with
          | stopJoins thread waited =>
            rw [heeds.1.host] at waited
            exact Or.inr (joined_ended waited)
        · refine Or.inl ⟨caller, ?_⟩
          rw [List.getElem?_set_ne here]
          exact held
      | work other outcome =>
        obtain ⟨worker, later, _, _, rfl⟩ := work_step stepped
        exact Or.inl ⟨caller, held⟩
    · exact Or.inr (ended_kept stepped leaving.inside ended)

/-- While it loops, it is told to stop and has a session to finish with. -/
theorem Leaving.told (leaving : Leaving threads index number) (loops : threads.looping number = true) :
    threads.stop = true ∧ threads.kernel = true ∧ threads.freed = false := by
  refine ⟨?_, leaving.quiet.kernel number loops, Bool.eq_false_iff.mpr fun freed => ?_⟩
  · rcases leaving.joins with ⟨caller, held⟩ | ended
    · apply (leaving.quiet.heeds index _ held).2.resolve_right
      exact fun none => absurd (loops.symm.trans (none number)) Bool.noConfusion
    · exact absurd ((looping_alive loops).symm.trans ended) Bool.noConfusion
  · exact absurd (loops.symm.trans ((leaving.quiet.freed freed).2 number)) Bool.noConfusion

theorem ended_iff {worker : Worker} (known : threads.workers[number]? = some worker) :
    threads.alive number = false ↔ worker.place = .ended := by
  rw [alive, known, Option.any_some, decide_eq_false_iff_not]
  exact Decidable.not_not

/-- The only way out of a wait is the end. -/
theorem Leaving.waits (leaving : Leaving threads index number) {outcome : Outcome} {later : Place}
    {worker : Worker} (known : threads.workers[number]? = some worker) (waits : worker.place = .waiting)
    (healthy : threads.healthy (.work number outcome) = true)
    (went : threads.next number .waiting outcome = some later) : later = .ended := by
  have loops : threads.looping number = true := by
    rw [looping, known, Option.any_some, waits]
    rfl
  obtain ⟨told, session, kept⟩ := leaving.told loops
  cases outcome with
  | went =>
    simp only [next, kept, told, Bool.false_eq_true, ↓reduceIte] at went
    exact (Option.some.inj went).symm
  | empty => cases went
  | failed =>
    have gone : threads.kernel = false := Bool.not_eq_true' _ ▸ healthy
    exact absurd (session.symm.trans gone) Bool.noConfusion

/-- The thread waits for the stop event or a period, or has ended. -/
def rests (threads : Threads) (number : Nat) : Bool :=
  threads.workers[number]?.any fun worker => worker.place = .waiting || worker.place = .ended

theorem Leaving.last (leaving : Leaving threads index number) (rests : threads.rests number = true) {outcome : Outcome}
    (undisturbed : Undisturbed threads (.work number outcome))
    (stepped : Threads.step threads (.work number outcome) = some after) : after.alive number = false := by
  obtain ⟨worker, later, known, went, rfl⟩ := work_step stepped
  have here : worker.place = .waiting := by
    rw [Threads.rests, known, Option.any_some, Bool.or_eq_true, decide_eq_true_eq, decide_eq_true_eq] at rests
    exact rests.resolve_right (next_alive went)
  have ended := leaving.waits known here undisturbed.healthy (here ▸ went)
  apply (ended_iff (List.getElem?_set_self (List.getElem?_eq_some_iff.mp known).1)).mpr
  exact ended

/-- A thread that rests takes one more step at most, to its end. -/
theorem Leaving.run (leaving : Leaving threads index number) {events : List Event} {later : Threads}
    (ran : Lib.Transition.run Threads.step threads events = some later)
    (undisturbed : Along Threads.step Undisturbed threads events) (rests : threads.rests number = true)
    {outcome : Outcome} (acts : .work number outcome ∈ events) : later.alive number = false := by
  induction events generalizing threads with
  | nil => cases acts
  | cons event events ih =>
    obtain ⟨after, stepped, rest⟩ := run_cons.mp ran
    obtain ⟨allowed, onward⟩ := undisturbed
    have next := leaving.step allowed stepped
    by_cases own : ∃ outcome, event = .work number outcome
    · obtain ⟨own, rfl⟩ := own
      have gone := leaving.last rests allowed stepped
      have both : Leaving later index number ∧ later.alive number = false := by
        refine run_invariant (fun threads => Leaving threads index number ∧ threads.alive number = false) ?_
          (onward after stepped) rest ⟨next, gone⟩
        intro before event after allowed stepped ⟨leaving, ended⟩
        exact ⟨leaving.step allowed stepped, ended_kept stepped leaving.inside ended⟩
      exact both.2
    · have other : ∀ outcome, event ≠ .work number outcome := fun outcome same => own ⟨outcome, same⟩
      apply ih next rest (onward after stepped)
      · rw [Threads.rests, worker_kept stepped other leaving.inside]
        exact rests
      · rcases List.mem_cons.mp acts with same | later
        · exact absurd same.symm (other outcome)
        · exact later

/-- A thread out of the host's calls is never held up. -/
theorem Leaving.goes (leaving : Leaving threads index number) (lives : threads.alive number = true)
    (back : threads.calledFrom number = false) :
    ∃ outcome after, outcome ≠ .failed ∧ Threads.step threads (.work number outcome) = some after := by
  obtain ⟨worker, known⟩ : ∃ worker, threads.workers[number]? = some worker := ⟨_, List.getElem?_eq_getElem leaving.inside⟩
  have calm := (leaving.quiet.never worker (List.mem_of_getElem? known)).1
  have onward (outcome : Outcome) {later : Place} (apart : outcome ≠ .failed)
      (went : threads.next number worker.place outcome = some later) :
      ∃ outcome after, outcome ≠ .failed ∧ Threads.step threads (.work number outcome) = some after := by
    refine ⟨outcome, { threads with workers := threads.workers.set number (moved worker later) }, apart, ?_⟩
    simp only [Threads.step, known, Option.bind_eq_bind, Option.bind_some, went]
  cases loops : worker.place.looping with
  | false =>
    cases here : worker.place with
    | ended => exact absurd (lives.symm.trans ((ended_iff known).mpr here)) Bool.noConfusion
    | resetting => exact absurd here calm
    | _ =>
      rw [here] at loops
      cases loops
  | true =>
    have inside : threads.looping number = true := by
      rw [looping, known]
      exact loops
    obtain ⟨told, session, kept⟩ := leaving.told inside
    cases here : worker.place with
    | waiting => exact onward .went Outcome.noConfusion (by rw [here, next, kept, told]; rfl)
    | reading => exact onward .empty Outcome.noConfusion (by rw [here, next, session]; rfl)
    | switching => exact onward .went Outcome.noConfusion (by rw [here]; rfl)
    | calling => exact onward .went Outcome.noConfusion (by rw [here, next, back]; rfl)
    | copying => exact onward .went Outcome.noConfusion (by rw [here]; rfl)
    | writing => exact onward .went Outcome.noConfusion (by rw [here, next, session]; rfl)
    | resetting => exact absurd here calm
    | ended =>
      rw [here] at loops
      cases loops

/-- The streaming thread has ended and has not asked the host for a reset. -/
def Quits (threads : Threads) (number : Nat) : Prop :=
  ∃ worker, threads.workers[number]? = some worker ∧ worker.place = .ended ∧ worker.asked = false

/-- What a run does to the thread that a stop waits for. Its first step after a
read that finds no complete period is its last, as is its first step if it was
waiting; and only a call from its callback ever holds it up. -/
structure Ending (threads : Threads) (events : List Event) (later : Threads) (number : Nat) : Prop where
  drained : ∀ before between outcome, events = before ++ .work number .empty :: between → .work number outcome ∈ between →
    later.Quits number
  waits : ∀ worker outcome, threads.workers[number]? = some worker → worker.place = .waiting → .work number outcome ∈ events →
    later.Quits number
  goes : later.alive number = true → later.calledFrom number = false →
    ∃ outcome after, outcome ≠ .failed ∧ step later (.work number outcome) = some after

theorem Leaving.quits (leaving : Leaving threads index number) (ended : threads.alive number = false) :
    threads.Quits number := by
  have known := List.getElem?_eq_getElem leaving.inside
  exact ⟨_, known, (ended_iff known).mp ended, (leaving.quiet.never _ (List.mem_of_getElem? known)).2⟩

/-- A read that finds no complete period goes back to waiting. -/
theorem rests_of_empty (stepped : step threads (.work number .empty) = some after) : after.rests number = true := by
  obtain ⟨worker, later, known, went, rfl⟩ := work_step stepped
  have waiting : later = .waiting := by
    cases place : worker.place with
    | reading =>
      rw [place] at went
      simp only [next] at went
      split at went
      · exact (Option.some.inj went).symm
      · cases went
    | _ =>
      rw [place] at went
      cases went
  rw [rests, List.getElem?_set_self (List.getElem?_eq_some_iff.mp known).1, waiting]
  rfl

theorem Leaving.ending (leaving : Leaving threads index number) {events : List Event} {later : Threads}
    (ran : Lib.Transition.run Threads.step threads events = some later)
    (undisturbed : Along Threads.step Undisturbed threads events) : Ending threads events later number := by
  have kept {first : List Event} {middle : Threads} (ran : Lib.Transition.run Threads.step threads first = some middle)
      (undisturbed : Along Threads.step Undisturbed threads first) : Leaving middle index number :=
    run_invariant (fun threads => Leaving threads index number)
      (fun _ _ _ allowed stepped leaving => leaving.step allowed stepped) undisturbed ran leaving
  have last := kept ran undisturbed
  refine ⟨?_, ?_, last.goes⟩
  · rintro before between outcome rfl acts
    obtain ⟨middle, first, rest⟩ := run_append.mp ran
    obtain ⟨early, late⟩ := (along_append first).mp undisturbed
    obtain ⟨drained, stepped, onward⟩ := run_cons.mp rest
    have next := (kept first early).step late.1 stepped
    exact last.quits (next.run onward (late.2 drained stepped) (rests_of_empty stepped) acts)
  · intro worker outcome known waits acts
    refine last.quits (leaving.run ran undisturbed ?_ acts)
    rw [rests, known, Option.any_some, waits]
    rfl

end Ends

instance (threads : Threads) (event : Event) : Decidable (Undisturbed threads event) :=
  decidable_of_iff (threads.healthy event = true ∧ threads.alone event = true ∧ threads.outside event = true)
    ⟨fun ⟨healthy, alone, outside⟩ => ⟨healthy, alone, outside⟩, fun ⟨healthy, alone, outside⟩ => ⟨healthy, alone, outside⟩⟩

/-- The host stops in a callback, which then returns; the thread's write finds no session. -/
def stopInCallback : List Event :=
  .call .host .start :: goes 0 4 ++ works 0 3 ++ .call (.worker 0) .stop :: goes 1 5 ++ works 0 2 ++
    [.work 0 .failed, .work 0 .went]

/-- The host stops from elsewhere while the streaming thread is in a callback. -/
def stopMeanwhile : List Event :=
  .call .host .start :: goes 0 4 ++ works 0 3 ++ .call .host .stop :: goes 1 2

/-- The callback returns, one more period is complete and no other; the stop goes on when the thread has ended. -/
def stopAnswered : List Event :=
  works 0 8 ++ .work 0 .empty :: works 0 1 ++ goes 1 3

end Ak1Driver.Threads
