import Ak1Driver.Driver.Audio

/-! The counters of the audio agree with its users, in every state that any
calls reach, whether or not engines start. What the operation that holds the
control lock has claimed or not yet given up is counted with its section. -/

namespace Ak1Driver.Driver
open Proto Lib.Transition

/-- An operation that has returned relies on nothing. -/
theorem held_none {relies : Section → Prop} : ∀ entered, none = some entered → relies entered := by
  intro entered held
  cases held

theorem held_some {relies : Section → Prop} {next : Section} (known : relies next) :
    ∀ entered, some next = some entered → relies entered := by
  intro entered held
  cases held
  exact known

/-- Sessions the operation has counted as streams outside the session's slot. -/
def Section.claims : Section → Nat
  | .changeRate _ _ _ | .asioStart _ _ _ | .undoAsio _ | .setAsio _ _ | .leaveAsio | .releaseAsio => 1
  | _ => 0

/-- Sessions the operation has taken out of their slot but not out of `prepared`. -/
def Section.uses : Section → Nat
  | .leaveAsio => 1
  | _ => 0

/-- What the operation that holds the control lock relies on. -/
def Section.Sound (users : Users) : Section → Prop
  | .prepare stream => stream ∈ users.created ∧ stream ∉ users.prepared
  | .prepareStart stream _ => stream ∈ users.created ∧ stream ∉ users.prepared
  | .release stream => stream ∈ users.releasing
  | .claimAsio _ _ | .changeRate _ _ _ | .asioStart _ _ _ | .undoAsio _ | .restart _ | .setAsio _ _ | .leaveAsio
  | .releaseAsio => users.audio.asio = none
  | _ => True

/-- Where an operation may enter, and what its caller sees to: streams are prepared
once at a time and released only when prepared. -/
def Section.Allowed (users : Users) : Section → Prop
  | .prepare stream => stream ∈ users.created ∧ stream ∉ users.prepared
  | .release stream => stream ∈ users.releasing
  | .stopAsio owner => owner ∈ users.stopping
  | .startAsio _ _ | .suspend | .resume => True
  | _ => False

theorem Section.Allowed.accounts {users : Users} {entered : Section} (allowed : entered.Allowed users) :
    entered.claims = 0 ∧ entered.uses = 0 ∧ entered.Sound users := by
  cases entered with
  | prepare stream => exact ⟨rfl, rfl, allowed⟩
  | release stream => exact ⟨rfl, rfl, allowed⟩
  | startAsio owner rate => exact ⟨rfl, rfl, trivial⟩
  | stopAsio owner => exact ⟨rfl, rfl, trivial⟩
  | suspend => exact ⟨rfl, rfl, trivial⟩
  | resume => exact ⟨rfl, rfl, trivial⟩
  | _ => exact allowed.elim

namespace Users

/-- What a step does: it changes nothing that is counted, counts a stream or
releases it, takes the control lock, or is the holder's own. -/
inductive Took (users : Users) : Event → Users → Prop where
  | aside {event : Event} (audio : Audio) (releasing : Finset Endpoint) (stopping : List Owner)
      (shared : audio.shared = users.audio.shared) (asio : audio.asio = users.audio.asio)
      (engine : audio.hardware.engine = users.audio.hardware.engine)
      (prepared : audio.hardware.prepared = users.audio.hardware.prepared) (more : users.releasing ⊆ releasing)
      (inside : users.releasing ⊆ users.prepared → releasing ⊆ users.prepared) :
      Took users event { users with audio := audio, releasing := releasing, stopping := stopping }
  | claimRate {stream : Endpoint} (fresh : stream ∉ users.created) :
      Took users (.claimRate stream)
        { users with audio := users.audio.claimRate stream.rate, created := insert stream users.created }
  | releaseRate {stream : Endpoint} (known : stream ∈ users.created) (idle : stream ∉ users.prepared)
      (free : users.preparing stream = false) :
      Took users (.releaseRate stream)
        { users.noteStreams with audio := users.audio.releaseRate, created := users.created.erase stream }
  | lock (entered : Section) (free : users.control = none) (allowed : entered.Allowed users) (stopping : List Owner) :
      Took users (.lock entered) { users with control := some entered, stopping := stopping }
  | advance {entered : Section} (held : users.control = some entered) (started : Bool) :
      Took users (.advance started) (users.advance started entered)

theorem pause_kept (audio : Audio) (stream : Endpoint) :
    (audio.pause stream).shared = audio.shared ∧ (audio.pause stream).asio = audio.asio ∧
      (audio.pause stream).hardware = audio.hardware := by
  unfold Audio.pause
  split
  · exact ⟨rfl, rfl, rfl⟩
  · exact ⟨rfl, rfl, rfl⟩

theorem enter_allowed {users after : Users} {entered : Section} (locked : users.enter entered = some after) :
    entered.Allowed users ∧ ∃ stopping, after = { users with control := some entered, stopping := stopping } := by
  cases entered with
  | prepare stream =>
    obtain ⟨allowed, same⟩ := Option.ite_none_right_eq_some.mp locked
    cases same
    exact ⟨allowed, users.stopping, rfl⟩
  | release stream =>
    obtain ⟨allowed, same⟩ := Option.ite_none_right_eq_some.mp locked
    cases same
    exact ⟨allowed, users.stopping, rfl⟩
  | stopAsio owner =>
    obtain ⟨allowed, same⟩ := Option.ite_none_right_eq_some.mp locked
    cases same
    exact ⟨allowed, users.stopping.erase owner, rfl⟩
  | startAsio owner rate =>
    cases locked
    exact ⟨trivial, users.stopping, rfl⟩
  | suspend =>
    cases locked
    exact ⟨trivial, users.stopping, rfl⟩
  | resume =>
    cases locked
    exact ⟨trivial, users.stopping, rfl⟩
  | _ => cases locked

theorem enter_took {users after : Users} {entered : Section} (free : users.control = none)
    (locked : users.enter entered = some after) : Took users (.lock entered) after := by
  obtain ⟨allowed, stopping, rfl⟩ := enter_allowed locked
  exact .lock entered free allowed stopping

theorem step_took {users after : Users} {event : Event} (stepped : users.step event = some after) :
    Took users event after := by
  cases event with
  | attach =>
    obtain ⟨_, same⟩ := Option.ite_none_right_eq_some.mp stepped
    cases same
    exact .aside users.audio.attach users.releasing users.stopping rfl rfl rfl rfl (Finset.Subset.refl _) id
  | claimRate stream =>
    obtain ⟨fresh, same⟩ := Option.ite_none_right_eq_some.mp stepped
    cases same
    exact .claimRate fresh
  | releaseRate stream =>
    obtain ⟨⟨known, idle, free⟩, same⟩ := Option.ite_none_right_eq_some.mp stepped
    cases same
    exact .releaseRate known idle free
  | run stream =>
    obtain ⟨_, same⟩ := Option.ite_none_right_eq_some.mp stepped
    cases same
    exact .aside (users.audio.run stream) users.releasing users.stopping rfl rfl rfl rfl (Finset.Subset.refl _) id
  | pause stream =>
    obtain ⟨_, same⟩ := Option.ite_none_right_eq_some.mp stepped
    cases same
    obtain ⟨shared, asio, hardware⟩ := pause_kept users.audio stream
    exact .aside _ users.releasing users.stopping shared asio (congrArg Hardware.engine hardware)
      (congrArg Hardware.prepared hardware) (Finset.Subset.refl _) id
  | beginRelease stream =>
    obtain ⟨⟨prepared, _⟩, same⟩ := Option.ite_none_right_eq_some.mp stepped
    cases same
    obtain ⟨shared, asio, hardware⟩ := pause_kept users.audio stream
    exact .aside _ (insert stream users.releasing) users.stopping shared asio (congrArg Hardware.engine hardware)
      (congrArg Hardware.prepared hardware) (Finset.subset_insert _ _) (Finset.insert_subset prepared)
  | beginStop owner =>
    simp only [step] at stepped
    split at stepped
    · split at stepped
      · cases stepped
        exact .aside users.audio users.releasing (owner :: users.stopping) rfl rfl rfl rfl (Finset.Subset.refl _) id
      · cases stepped
        exact .aside users.audio users.releasing users.stopping rfl rfl rfl rfl (Finset.Subset.refl _) id
    · cases stepped
      exact .aside users.audio users.releasing users.stopping rfl rfl rfl rfl (Finset.Subset.refl _) id
  | lock entered =>
    obtain ⟨free, locked⟩ := Option.ite_none_right_eq_some.mp stepped
    exact enter_took free locked
  | advance started =>
    obtain ⟨entered, held, rfl⟩ := Option.map_eq_some_iff.mp stepped
    exact .advance held started

def sessions (users : Users) : Nat :=
  match users.audio.asio with
  | some _ => 1
  | none => 0

def claims (users : Users) : Nat :=
  match users.control with
  | some entered => entered.claims
  | none => 0

def uses (users : Users) : Nat :=
  match users.control with
  | some entered => entered.uses
  | none => 0

structure Counted (users : Users) : Prop where
  created : users.prepared ⊆ users.created
  releasing : users.releasing ⊆ users.prepared
  streams : users.audio.shared.streams = users.created.card + users.sessions + users.claims
  prepared : users.audio.hardware.prepared = users.prepared.card + users.sessions + users.uses
  holder : ∀ entered, users.control = some entered → entered.Sound users
  underflow : users.underflow = false

theorem counted_start : Counted start where
  created := Finset.Subset.refl _
  releasing := Finset.Subset.refl _
  streams := rfl
  prepared := rfl
  holder := held_none
  underflow := rfl

theorem decrement_positive {count : Nat} (positive : 0 < count) : decrement count = count - 1 :=
  if_neg (Nat.ne_of_gt positive)

theorem noteStreams_underflow {users : Users} (positive : 0 < users.audio.shared.streams) :
    users.noteStreams.underflow = users.underflow := by
  simp [noteStreams, Nat.ne_of_gt positive]

theorem notePrepared_underflow {users : Users} (positive : 0 < users.audio.hardware.prepared) :
    users.notePrepared.underflow = users.underflow := by
  simp [notePrepared, Nat.ne_of_gt positive]

/-- A step that is not the holder's own keeps what the holder relies on. -/
theorem Counted.claimRate {users : Users} (counted : Counted users) {stream : Endpoint} (fresh : stream ∉ users.created) :
    Counted { users with audio := users.audio.claimRate stream.rate, created := insert stream users.created } where
  created := counted.created.trans (Finset.subset_insert _ _)
  releasing := counted.releasing
  streams := by
    have before := counted.streams
    simp only [Audio.claimRate, Finset.card_insert_of_notMem fresh, sessions, claims] at *
    omega
  prepared := counted.prepared
  holder entered held := by
    have sound := counted.holder entered held
    cases entered with
    | prepare other => exact ⟨Finset.mem_insert_of_mem sound.1, sound.2⟩
    | prepareStart other rate => exact ⟨Finset.mem_insert_of_mem sound.1, sound.2⟩
    | _ => exact sound
  underflow := counted.underflow

theorem Counted.releaseRate {users : Users} (counted : Counted users) {stream : Endpoint} (known : stream ∈ users.created)
    (idle : stream ∉ users.prepared) (free : users.preparing stream = false) :
    Counted { users.noteStreams with audio := users.audio.releaseRate, created := users.created.erase stream } := by
  have positive : 0 < users.created.card := Finset.card_pos.mpr ⟨stream, known⟩
  have before := counted.streams
  constructor
  · intro other member
    exact Finset.mem_erase_of_ne_of_mem (fun same => idle (same ▸ member)) (counted.created member)
  · exact counted.releasing
  · have left : decrement users.audio.shared.streams = users.audio.shared.streams - 1 := decrement_positive (by omega)
    simp only [Audio.releaseRate, Finset.card_erase_of_mem known, left, sessions, claims, noteStreams] at *
    omega
  · exact counted.prepared
  · intro entered held
    have sound := counted.holder entered held
    have other : users.control = some entered := held
    cases entered with
    | prepare one =>
      simp only [preparing, other, decide_eq_false_iff_not] at free
      exact ⟨Finset.mem_erase_of_ne_of_mem (Ne.symm free) sound.1, sound.2⟩
    | prepareStart one rate =>
      simp only [preparing, other, decide_eq_false_iff_not] at free
      exact ⟨Finset.mem_erase_of_ne_of_mem (Ne.symm free) sound.1, sound.2⟩
    | _ => exact sound
  · exact (noteStreams_underflow (by omega)).trans counted.underflow

/-- What touches neither a counter nor the session changes no account. -/
theorem Counted.aside {users : Users} (counted : Counted users) {audio : Audio} {releasing : Finset Endpoint}
    (shared : audio.shared = users.audio.shared) (asio : audio.asio = users.audio.asio)
    (prepared : audio.hardware.prepared = users.audio.hardware.prepared) (more : users.releasing ⊆ releasing)
    (inside : releasing ⊆ users.prepared) (stopping : List Owner) :
    Counted { users with audio := audio, releasing := releasing, stopping := stopping } where
  created := counted.created
  releasing := inside
  streams := by
    have before := counted.streams
    simp only [sessions, claims, shared, asio] at before ⊢
    exact before
  prepared := by
    have before := counted.prepared
    simp only [sessions, uses, prepared, asio] at before ⊢
    exact before
  holder entered held := by
    have sound := counted.holder entered held
    cases entered <;> first | exact sound | exact asio.trans sound | exact more sound
  underflow := counted.underflow

theorem Counted.opened {users : Users} (counted : Counted users) (free : users.control = none) {entered : Section}
    (claims : entered.claims = 0) (uses : entered.uses = 0) (sound : entered.Sound users) (stopping : List Owner) :
    Counted { users with control := some entered, stopping := stopping } := by
  have streams := counted.streams
  have prepared := counted.prepared
  refine { counted with streams := ?_, prepared := ?_, holder := ?_ }
  · simp only [Users.claims, free, claims] at streams ⊢
    exact streams
  · simp only [Users.uses, free, uses] at prepared ⊢
    exact prepared
  · intro other held
    cases held
    cases entered <;> exact sound

theorem startEngine_kept (audio : Audio) (rate : SampleRate) (started : Bool) :
    (audio.startEngine rate started).2.shared = audio.shared ∧ (audio.startEngine rate started).2.asio = audio.asio ∧
      (audio.startEngine rate started).2.hardware.prepared = audio.hardware.prepared := by
  unfold Audio.startEngine
  split
  · exact ⟨rfl, rfl, rfl⟩
  · exact ⟨rfl, rfl, rfl⟩

theorem uncountPrepared_kept (audio : Audio) :
    audio.uncountPrepared.shared = audio.shared ∧ audio.uncountPrepared.asio = audio.asio ∧
      audio.uncountPrepared.hardware.prepared = audio.hardware.prepared - 1 := by
  simp only [Audio.uncountPrepared]
  split
  · exact ⟨rfl, rfl, rfl⟩
  · exact ⟨rfl, rfl, rfl⟩

theorem uncountPrepared_engine (audio : Audio) : audio.uncountPrepared.hardware.engine =
    if audio.hardware.prepared - 1 = 0 then none else audio.hardware.engine := by
  simp only [Audio.uncountPrepared]
  split
  · rfl
  · rfl

theorem Counted.went {users : Users} (counted : Counted users) (audio : Audio) {entered next : Section}
    (held : users.control = some entered) (shared : audio.shared = users.audio.shared)
    (asio : audio.asio = users.audio.asio) (prepared : audio.hardware.prepared = users.audio.hardware.prepared)
    (claims : next.claims = entered.claims) (uses : next.uses = entered.uses)
    (sound : next.Sound { users with audio := audio, control := some next }) : Counted (users.goOn audio next) where
  created := counted.created
  releasing := counted.releasing
  streams := by
    have before := counted.streams
    simp only [goOn, sessions, Users.claims, held, shared, asio, claims] at before ⊢
    exact before
  prepared := by
    have before := counted.prepared
    simp only [goOn, sessions, Users.uses, held, prepared, asio, uses] at before ⊢
    exact before
  holder other same := by
    cases same
    exact sound
  underflow := counted.underflow

theorem Counted.finished {users : Users} (counted : Counted users) (audio : Audio) {entered : Section}
    (held : users.control = some entered) (shared : audio.shared = users.audio.shared)
    (asio : audio.asio = users.audio.asio) (prepared : audio.hardware.prepared = users.audio.hardware.prepared)
    (claims : entered.claims = 0) (uses : entered.uses = 0) (suspended : Bool) :
    Counted { users.finish audio with suspended := suspended } where
  created := counted.created
  releasing := counted.releasing
  streams := by
    have before := counted.streams
    simp only [finish, sessions, Users.claims, held, shared, asio, claims] at before ⊢
    exact before
  prepared := by
    have before := counted.prepared
    simp only [finish, sessions, Users.uses, held, prepared, asio, uses] at before ⊢
    exact before
  holder := held_none
  underflow := counted.underflow

theorem Counted.prepareDone {users : Users} (counted : Counted users) {audio : Audio} {entered : Section}
    (held : users.control = some entered) (claims : entered.claims = 0) (uses : entered.uses = 0)
    (shared : audio.shared = users.audio.shared) (asio : audio.asio = users.audio.asio)
    (same : audio.hardware.prepared = users.audio.hardware.prepared) {stream : Endpoint} (known : stream ∈ users.created)
    (fresh : stream ∉ users.prepared) :
    Counted { users.finish audio.countPrepared with prepared := insert stream users.prepared } where
  created := Finset.insert_subset known counted.created
  releasing := counted.releasing.trans (Finset.subset_insert _ _)
  streams := by
    have before := counted.streams
    simp only [finish, Audio.countPrepared, sessions, Users.claims, held, shared, asio, claims] at before ⊢
    exact before
  prepared := by
    have before := counted.prepared
    simp only [finish, Audio.countPrepared, sessions, Users.uses, held, same, asio, uses,
      Finset.card_insert_of_notMem fresh] at before ⊢
    omega
  holder := held_none
  underflow := counted.underflow

theorem Counted.release {users : Users} (counted : Counted users) {stream : Endpoint}
    (held : users.control = some (.release stream)) :
    Counted { users.notePrepared.finish users.audio.uncountPrepared with
      prepared := users.prepared.erase stream
      releasing := users.releasing.erase stream } := by
  obtain ⟨shared, asio, same⟩ := uncountPrepared_kept users.audio
  have member := counted.releasing (counted.holder _ held)
  have positive : 0 < users.prepared.card := Finset.card_pos.mpr ⟨stream, member⟩
  have streams := counted.streams
  have prepared := counted.prepared
  simp only [Users.claims, Users.uses, held, Section.claims, Section.uses] at streams prepared
  constructor
  · exact (Finset.erase_subset _ _).trans counted.created
  · exact Finset.erase_subset_erase stream counted.releasing
  · simp only [finish, notePrepared, sessions, Users.claims, shared, asio]
    exact streams
  · simp only [finish, notePrepared, sessions, Users.uses, same, asio, Finset.card_erase_of_mem member] at prepared ⊢
    omega
  · exact held_none
  · exact (notePrepared_underflow (by omega)).trans counted.underflow

/-- The operation's own claim is the one that is taken back. -/
theorem Counted.unclaimed {users : Users} (counted : Counted users) {audio : Audio} {entered : Section}
    (held : users.control = some entered) (claims : entered.claims = 1) (uses : entered.uses = 0)
    (streams : audio.shared.streams = decrement users.audio.shared.streams) (asio : audio.asio = users.audio.asio)
    (prepared : audio.hardware.prepared = users.audio.hardware.prepared) : Counted (users.noteStreams.finish audio) := by
  have before := counted.streams
  have same := counted.prepared
  simp only [Users.claims, Users.uses, held, claims, uses] at before same
  constructor
  · exact counted.created
  · exact counted.releasing
  · simp only [finish, noteStreams, sessions, Users.claims, asio, streams,
      decrement_positive (show 0 < users.audio.shared.streams by omega)] at before ⊢
    omega
  · simp only [finish, noteStreams, sessions, Users.uses, asio, prepared] at same ⊢
    exact same
  · exact held_none
  · exact (noteStreams_underflow (by omega)).trans counted.underflow

theorem Counted.setAsio {users : Users} (counted : Counted users) {owner : Owner} {rate : SampleRate}
    (held : users.control = some (.setAsio owner rate)) :
    Counted (users.finish { users.audio.countPrepared with asio := some ⟨owner, rate⟩ }) := by
  have free : users.audio.asio = none := counted.holder _ held
  have streams := counted.streams
  have prepared := counted.prepared
  simp only [sessions, Users.claims, Users.uses, held, Section.claims, Section.uses, free] at streams prepared
  refine { counted with streams := ?_, prepared := ?_, holder := held_none }
  · simp only [finish, Audio.countPrepared, sessions, Users.claims]
    exact streams
  · simp only [finish, Audio.countPrepared, sessions, Users.uses]
    omega

theorem Counted.takeAsio {users : Users} (counted : Counted users) {owner : Owner} {session : Session}
    (held : users.control = some (.stopAsio owner)) (slot : users.audio.asio = some session) :
    Counted (users.goOn { users.audio with asio := none } .leaveAsio) := by
  have streams := counted.streams
  have prepared := counted.prepared
  simp only [sessions, Users.claims, Users.uses, held, Section.claims, Section.uses, slot] at streams prepared
  exact { counted with streams := streams, prepared := prepared, holder := held_some rfl }

theorem Counted.leaveAsio {users : Users} (counted : Counted users) (held : users.control = some .leaveAsio) :
    Counted (users.notePrepared.goOn users.audio.uncountPrepared .releaseAsio) := by
  obtain ⟨shared, asio, same⟩ := uncountPrepared_kept users.audio
  have free : users.audio.asio = none := counted.holder _ held
  have streams := counted.streams
  have prepared := counted.prepared
  simp only [Users.claims, Users.uses, held, Section.claims, Section.uses] at streams prepared
  constructor
  · exact counted.created
  · exact counted.releasing
  · simp only [goOn, notePrepared, sessions, Users.claims, Section.claims, shared, asio]
    exact streams
  · simp only [goOn, notePrepared, sessions, Users.uses, Section.uses, same, asio] at prepared ⊢
    omega
  · exact held_some (asio.trans free)
  · exact (notePrepared_underflow (by omega)).trans counted.underflow

theorem Counted.advance {users : Users} (counted : Counted users) {entered : Section}
    (held : users.control = some entered) (started : Bool) : Counted (users.advance started entered) := by
  have sound := counted.holder entered held
  cases entered with
  | prepare stream =>
    cases engine : users.audio.hardware.engine with
    | none =>
      simp only [Users.advance, engine]
      exact counted.went users.audio held rfl rfl rfl rfl rfl sound
    | some rate =>
      simp only [Users.advance, engine]
      exact counted.prepareDone held rfl rfl rfl rfl rfl sound.1 sound.2
  | prepareStart stream rate =>
    obtain ⟨shared, asio, same⟩ := startEngine_kept users.audio rate started
    cases outcome : users.audio.startEngine rate started with
    | mk success audio =>
      rw [outcome] at shared asio same
      cases success with
      | true =>
        simp only [Users.advance, outcome]
        exact counted.prepareDone held rfl rfl shared asio same sound.1 sound.2
      | false =>
        simp only [Users.advance, outcome]
        exact counted.finished audio held shared asio same rfl rfl users.suspended
  | release stream => exact counted.release held
  | startAsio owner rate =>
    simp only [Users.advance]
    split
    · exact counted.finished users.audio held rfl rfl rfl rfl rfl users.suspended
    · rename_i free
      exact counted.went users.audio held rfl rfl rfl rfl rfl (Option.not_isSome_iff_eq_none.mp free)
  | claimAsio owner rate =>
    have streams := counted.streams
    have prepared := counted.prepared
    simp only [Users.claims, Users.uses, held] at streams prepared
    refine { counted with streams := ?_, prepared := prepared, holder := held_some sound }
    simp only [Users.advance, goOn, Audio.claimAsio, sessions, Users.claims, Section.claims] at streams ⊢
    omega
  | changeRate owner rate previous =>
    simp only [Users.advance]
    split
    · exact counted.went users.audio.stopEngine held rfl rfl rfl rfl rfl sound
    · exact counted.went users.audio held rfl rfl rfl rfl rfl sound
  | asioStart owner rate previous =>
    cases engine : users.audio.hardware.engine with
    | some running =>
      simp only [Users.advance, engine]
      exact counted.went users.audio held rfl rfl rfl rfl rfl sound
    | none =>
      obtain ⟨shared, asio, same⟩ := startEngine_kept users.audio rate started
      cases outcome : users.audio.startEngine rate started with
      | mk success audio =>
        rw [outcome] at shared asio same
        cases success with
        | true =>
          simp only [Users.advance, engine, outcome]
          exact counted.went audio held shared asio same rfl rfl (asio.trans sound)
        | false =>
          simp only [Users.advance, engine, outcome]
          exact counted.went audio held shared asio same rfl rfl (asio.trans sound)
  | undoAsio previous =>
    have free : users.audio.asio = none := sound
    have undone : Counted (users.noteStreams.finish (users.audio.undoAsio previous)) :=
      counted.unclaimed held rfl rfl rfl rfl rfl
    cases rate : (users.audio.undoAsio previous).shared.rate with
    | none =>
      simp only [Users.advance, rate]
      exact undone
    | some restored =>
      simp only [Users.advance, rate]
      split
      · exact undone.opened rfl (show Section.claims (.restart restored) = 0 from rfl) rfl free users.stopping
      · exact undone
  | restart restored =>
    obtain ⟨shared, asio, same⟩ := startEngine_kept users.audio restored started
    exact counted.finished _ held shared asio same rfl rfl users.suspended
  | setAsio owner rate => exact counted.setAsio held
  | stopAsio owner =>
    cases slot : users.audio.asio with
    | none =>
      simp only [Users.advance, Audio.takeAsio, slot]
      exact counted.finished users.audio held rfl rfl rfl rfl rfl users.suspended
    | some session =>
      by_cases owned : session.owner = owner
      · simp only [Users.advance, Audio.takeAsio, slot, if_pos owned]
        exact counted.takeAsio held slot
      · simp only [Users.advance, Audio.takeAsio, slot, if_neg owned]
        exact counted.finished users.audio held rfl rfl rfl rfl rfl users.suspended
  | leaveAsio => exact counted.leaveAsio held
  | releaseAsio => exact counted.unclaimed held rfl rfl rfl rfl rfl
  | suspend => exact counted.finished users.audio.stopEngine held rfl rfl rfl rfl rfl true
  | resume =>
    cases rate : users.audio.shared.rate with
    | none =>
      simp only [Users.advance, rate]
      exact counted.finished users.audio held rfl rfl rfl rfl rfl false
    | some set =>
      simp only [Users.advance, rate]
      split
      · exact counted.went users.audio held rfl rfl rfl rfl rfl trivial
      · exact counted.finished users.audio held rfl rfl rfl rfl rfl false
  | resumeStart rate =>
    obtain ⟨shared, asio, same⟩ := startEngine_kept users.audio rate started
    exact counted.finished _ held shared asio same rfl rfl false

theorem Took.counted {users after : Users} {event : Event} (took : Took users event after) (counted : Counted users) :
    Counted after := by
  cases took with
  | aside audio releasing stopping shared asio engine prepared more inside =>
    exact counted.aside shared asio prepared more (inside counted.releasing) stopping
  | claimRate fresh => exact counted.claimRate fresh
  | releaseRate known idle free => exact counted.releaseRate known idle free
  | lock entered free allowed stopping =>
    obtain ⟨claims, uses, sound⟩ := allowed.accounts
    exact counted.opened free claims uses sound stopping
  | advance held started => exact counted.advance held started

theorem run_counted {events : List Event} {final : Users} (ran : run step start events = some final) : Counted final :=
  Reachable.invariant Counted ⟨events, ran⟩ (fun _ _ _ stepped => (step_took stepped).counted) counted_start

end Users
end Ak1Driver.Driver
