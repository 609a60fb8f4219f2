import Ak1Driver.Asio.Studio
import Ak1Driver.Proofs.Bystanders

/-! From the card to a host's own buffers and back. The streaming thread answers
only what it has read, so a session that its thread serves is the one of a host
that keeps to the rules, and what the host finds and leaves in its buffers is
what comes and goes on the wire. -/

namespace Ak1Driver.Studio
open Proto Proto.Mode2 Proto.Property Driver Driver.Requests Duplex Lib.Bytes Lib.Chunks Lib.Transition Lib.Window Proofs Proofs.Capture Proofs.Playback

variable {kernel : Kernel} {rate : SampleRate} {audio : Processing} {worker : Duplex} {session : Requests.Session}

/-- What a read of the thread does on both sides of the property set. -/
structure Reads (audio next : Processing) (worker after : Duplex) (session : Requests.Session) : Prop where
  answers : next.history.answers = audio.history.answers
  handed : (after.shown = worker.shown ∧ next.history.periods = audio.history.periods) ∨
    ∃ shown period, after.shown = worker.shown ++ [shown] ∧ next.history.periods = audio.history.periods ++ [period] ∧
      (session.buffers.silentFrames = 0 → period = shown.unread.take session.buffers.period)

theorem device_read (device : Device) (reserve : Nat → Bool) (asio : Option Requests.Session) (value : List UInt8) :
    (device.read reserve asio value).2.2 = (Requests.read reserve asio ⟨some device.owner, some value⟩).2 := by
  rw [Device.read]
  split
  next same => rw [same]
  next same =>
    rw [same]
    split
    · rfl
    · rfl

theorem drain_asio (worker : Duplex) (reserve : Nat → Bool) :
    (worker.drain reserve).asio = (Requests.read reserve worker.asio (readRequest worker)).2 := by
  simp only [Duplex.drain]
  split
  · exact device_read _ _ _ _
  · split
    · exact device_read _ _ _ _
    · exact device_read _ _ _ _

theorem drain_kept (worker : Duplex) (reserve : Nat → Bool) :
    (worker.drain reserve).left = worker.left ∧ (worker.drain reserve).written = worker.written ∧
      (worker.drain reserve).device = worker.device := by
  simp only [Duplex.drain]
  split
  · exact ⟨rfl, rfl, rfl⟩
  · split
    · exact ⟨rfl, rfl, rfl⟩
    · exact ⟨rfl, rfl, rfl⟩

theorem drain_shown {worker : Duplex} {reserve : Nat → Bool} {count : Nat}
    (found : (worker.device.read reserve worker.asio worker.state.input).1 = some count) (positive : count > 0) :
    ∃ shown, (worker.drain reserve).shown = worker.shown ++ [shown] ∧ shown.unread = worker.unread := by
  simp only [Duplex.drain, found, if_pos positive]
  exact ⟨_, rfl, rfl⟩

/-- A read that changes anything finds a period. -/
theorem read_found (known : audio.mixer.asio = some session)
    (reserve : Nat → Bool) (request : Requests.Request) :
    audio.read reserve request = audio ∨ ∃ value, Requests.Served reserve audio.mixer.asio request session value ∧
      session.buffers.period ≤ session.buffers.unread.length := by
  by_cases some : ∃ other value, Requests.Served reserve audio.mixer.asio request other value
  · obtain ⟨other, value, served⟩ := some
    cases known.symm.trans served.asio
    rcases Requests.read_served served with ⟨_, result⟩ | ⟨enough, _⟩
    · left
      rw [Processing.read, result, ← known]
      rfl
    · exact .inr ⟨value, served, enough⟩
  · obtain ⟨status, result⟩ := Requests.read_refused fun other value served => some ⟨other, value, served⟩
    left
    rw [Processing.read, result]

theorem drain_reads (following : Processing.Following kernel rate 0 audio) (known : audio.mixer.asio = some session)
    (worker : Duplex) (reserve : Nat → Bool) :
    Reads audio (audio.read reserve (readRequest worker)) worker (Duplex.drain { worker with asio := audio.mixer.asio } reserve)
      session := by
  obtain ⟨positive, _, _⟩ := following.session session known
  rcases read_found known reserve (readRequest worker) with same | ⟨value, served, enough⟩
  · rw [same]
    refine ⟨rfl, .inl ⟨?_, rfl⟩⟩
    rcases read_cases worker.device reserve audio.mixer.asio worker.state.input with
      failed | ⟨none, _⟩ | ⟨other, after, held, enough, some, unread, _⟩
    · simp only [Duplex.drain, failed]
    · simp only [Duplex.drain, none, Nat.lt_irrefl, ↓reduceIte]
    · exfalso
      cases known.symm.trans held
      have moved := device_read worker.device reserve audio.mixer.asio worker.state.input
      have still := Processing.read_asio audio reserve (readRequest worker)
      rw [same] at still
      rw [some] at moved
      have stays : after.unread = session.buffers.unread := by
        have one := Option.some.inj (moved.trans (still.symm.trans known))
        exact congrArg (·.buffers.unread) one
      have shorter := congrArg List.length (unread.symm.trans stays)
      rw [List.length_drop] at shorter
      omega
  · obtain ⟨last, period, result, left, kept, done, right⟩ := Processing.read_hands following served enough
    rw [done]
    refine ⟨rfl, .inr ?_⟩
    have moved := device_read worker.device reserve audio.mixer.asio worker.state.input
    have changes : (Requests.read reserve audio.mixer.asio (readRequest worker)).2 ≠ some session := by
      intro still
      have stays := congrArg (·.buffers.unread.length) (Option.some.inj (result.symm.trans still))
      simp only [left, List.length_drop] at stays
      omega
    rcases read_cases worker.device reserve audio.mixer.asio worker.state.input with
      failed | ⟨none, _⟩ | ⟨other, after, held, _, found, _, _⟩
    · rw [failed, known] at moved
      exact absurd moved.symm (known ▸ changes)
    · rw [none, known] at moved
      exact absurd moved.symm (known ▸ changes)
    · cases known.symm.trans held
      obtain ⟨shown, appended, unread⟩ := @drain_shown { worker with asio := audio.mixer.asio } reserve
        session.buffers.period (congrArg Prod.fst found) positive
      refine ⟨shown, period, appended, rfl, ?_⟩
      intro unbroken
      have oldest : shown.unread = session.buffers.unread := by
        rw [unread, Duplex.unread, known]
        rfl
      rw [oldest]
      exact right unbroken
theorem device_write (worker : Duplex) (reserve : Nat → Bool) :
    worker.device.write reserve worker.asio worker.state.output =
      ((Requests.write reserve worker.asio (writeRequest worker)).1.isOk, (Requests.write reserve worker.asio (writeRequest worker)).2) := by
  rw [Device.write, writeRequest]
  split
  next same =>
    rw [same]
    rfl
  next same =>
    rw [same]
    rfl

theorem send_asio (worker : Duplex) (reserve : Nat → Bool) :
    (worker.send reserve).asio = (Requests.write reserve worker.asio (writeRequest worker)).2 := by
  simp only [Duplex.send, device_write]
  split
  · rfl
  · rfl

/-- What a write of the thread does on both sides. -/
theorem send_writes (audio : Processing) (worker : Duplex) (reserve : Nat → Bool) :
    (audio.write reserve (writeRequest worker)).history.periods = audio.history.periods ∧
      (((Duplex.send { worker with asio := audio.mixer.asio } reserve).written = worker.written ∧
          (audio.write reserve (writeRequest worker)).history.answers = audio.history.answers) ∨
        (Duplex.send { worker with asio := audio.mixer.asio } reserve).written.length = worker.written.length + 1 ∧
          (audio.write reserve (writeRequest worker)).history.answers =
            audio.history.answers ++ [worker.state.output.map fun frame => frame.map shiftDown]) := by
  have answer : Requests.writtenFrames ((writeRequest worker).value.getD []) = worker.state.output.map fun frame => frame.map shiftDown :=
    writtenFrames_joined worker.state.output
  have sent := device_write { worker with asio := audio.mixer.asio } reserve
  have same : writeRequest { worker with asio := audio.mixer.asio } = writeRequest worker := rfl
  rw [same] at sent
  cases outcome : Requests.write reserve audio.mixer.asio (writeRequest worker) with
  | mk result asio =>
    rw [outcome] at sent
    cases result with
    | error status =>
      refine ⟨?_, .inl ⟨?_, ?_⟩⟩
      · rw [Processing.write, outcome]
      · rw [Duplex.send, sent]
        rfl
      · rw [Processing.write, outcome]
    | ok done =>
      refine ⟨?_, .inr ⟨?_, ?_⟩⟩
      · rw [Processing.write, outcome]
      · rw [Duplex.send, sent]
        exact List.length_append
      · rw [Processing.write, outcome, answer]

theorem send_kept (worker : Duplex) (reserve : Nat → Bool) :
    (worker.send reserve).left = worker.left ∧ (worker.send reserve).shown = worker.shown ∧
      (worker.send reserve).device = worker.device := by
  simp only [Duplex.send]
  split
  · exact ⟨rfl, rfl, rfl⟩
  · exact ⟨rfl, rfl, rfl⟩

variable {host : Host} {maxPacketBytes : Nat} {interval : UInt64} {studio after : Studio}

/-- While the thread's session is in place every transfer is answered, and the USB
stack takes the answers; the other clients answer only what they have read and
use handles of their own. -/
def Attended (studio : Studio) : Event → Prop
  | .kernel event => Traffic.Answered studio.engine event ∧ Traffic.Apart studio.worker.device.owner event
  | .worker _ => True

instance : ∀ (studio : Studio) (event : Event), Decidable (studio.Attended event)
  | studio, .kernel event =>
    inferInstanceAs (Decidable (Traffic.Answered studio.engine event ∧ Traffic.Apart studio.worker.device.owner event))
  | _, .worker _ => inferInstanceAs (Decidable True)

/-- What the thread's host was shown and left agrees with what its session has handed out and got back. -/
structure Live (host : Host) (rate : SampleRate) (studio : Studio) (session : Requests.Session) : Prop where
  turning : Turning host (Processing.transferFrames rate) studio.present
  sized : session.buffers.Sized host.bufferFrames (Processing.transferFrames rate)
  counted : studio.engine.audio.history.periods.length = studio.worker.shown.length
  periods : session.buffers.silentFrames = 0 →
    studio.engine.audio.history.periods = studio.worker.shown.map fun shown => shown.unread.take host.bufferFrames
  answers : studio.engine.audio.history.answers = (studio.worker.left.take studio.worker.written.length).mapIdx (answer host)

/-- The engine has answered the packets that `arrived`, and the thread with `owner`'s handle has served its session. -/
structure Presenting (kernel : Kernel) (rate : SampleRate) (maxPacketBytes : Nat) (interval : UInt64) (host : Host)
    (arrived : List Engine.Arrival) (studio : Studio) : Prop where
  carrying : Traffic.Carrying kernel rate maxPacketBytes interval arrived studio.engine
  live : ∀ session, studio.engine.audio.mixer.asio = some session → session.owner = studio.worker.device.owner →
    Live host rate studio session

theorem kernel_presenting (small : maxPacketBytes ≤ maxPacketSize) {arrived : List Engine.Arrival}
    (presenting : Presenting kernel rate maxPacketBytes interval host arrived studio) {event : Traffic.Event}
    (attended : studio.Attended (.kernel event)) (stepped : step kernel rate studio (.kernel event) = some after) :
    Presenting kernel rate maxPacketBytes interval host (arrived ++ Traffic.arrivalsOf interval [event]) after := by
  obtain ⟨engine, moved, rfl⟩ := Option.map_eq_some_iff.mp stepped
  refine ⟨Traffic.step_carrying small presenting.carrying attended.1 moved, ?_⟩
  intro last known own
  obtain ⟨session, held, became, periods, answers⟩ :=
    Traffic.step_moved small presenting.carrying attended.2 moved last known own
  have live := presenting.live session held (became.owner.symm.trans own)
  have sized := became.sized _ _ live.sized
  refine ⟨?_, sized, ?_, ?_, ?_⟩
  · apply live.turning.rest (Or.inl rfl)
    intro other same
    cases known.symm.trans same
    exact ⟨sized.periodFrames, sized.outputFrames⟩
  · exact (congrArg List.length periods).trans live.counted
  · exact fun unbroken => periods.trans (live.periods (became.unbroken unbroken))
  · exact answers.trans live.answers

/-- The thread answers only what it has read. -/
theorem serve_honest (presenting : Presenting kernel rate maxPacketBytes interval host arrived studio)
    (writing : studio.worker.place = .writing) (reserve : Nat → Bool) :
    studio.engine.audio.Honest (.write reserve (writeRequest studio.worker)) := by
  intro sent
  by_cases some : ∃ session value, Requests.Accepted reserve studio.engine.audio.mixer.asio (writeRequest studio.worker) session value
  · obtain ⟨session, value, accepted⟩ := some
    have own : session.owner = studio.worker.device.owner := by
      have same := accepted.request
      injection same with file _
      exact (Option.some.inj file).symm
    have live := presenting.live session accepted.asio own
    have shown := live.turning.live_shown (by rw [present, writing]; decide) (by rw [present, writing]; decide)
    have written := live.turning.writes (by rw [present, writing]; decide)
    rw [present, writing] at written
    have fewer : studio.worker.written.length + 1 = studio.worker.left.length := written
    have same : studio.worker.shown.length = studio.worker.left.length := shown
    rw [live.counted, live.answers, List.length_mapIdx, List.length_take]
    omega
  · obtain ⟨status, result⟩ := Requests.write_refused fun session value accepted => some ⟨session, value, accepted⟩
    rw [result] at sent
    cases sent

theorem present_of_asio (engine : Engine Processing) {worker : Duplex} (same : engine.audio.mixer.asio = worker.asio) :
    present ⟨engine, worker⟩ = worker := by
  rw [present, same]

/-- A step of the thread that asks nothing of the driver. -/
theorem quiet_presenting (positive : 1 ≤ host.bufferFrames) {arrived : List Engine.Arrival}
    (presenting : Presenting kernel rate maxPacketBytes interval host arrived studio) {event : Duplex.Event}
    (moved : studio.present.step event = some worker) (asio : studio.engine.audio.mixer.asio = worker.asio)
    (device : worker.device = studio.worker.device) (shown : worker.shown = studio.worker.shown)
    (taken : Turning host (Processing.transferFrames rate) studio.present →
      worker.left.take worker.written.length = studio.worker.left.take studio.worker.written.length) :
    Presenting kernel rate maxPacketBytes interval host arrived ⟨studio.engine, worker⟩ := by
  refine ⟨presenting.carrying, ?_⟩
  intro session known own
  have live := presenting.live session known (own.trans (congrArg Device.owner device))
  refine ⟨?_, live.sized, ?_, ?_, ?_⟩
  · rw [present_of_asio studio.engine asio]
    exact live.turning.step positive moved
  · exact live.counted.trans (congrArg List.length shown.symm)
  · intro unbroken
    apply (live.periods unbroken).trans
    exact congrArg (List.map _) shown.symm
  · apply live.answers.trans
    exact congrArg (List.mapIdx _) (taken live.turning).symm

theorem read_presenting (small : maxPacketBytes ≤ maxPacketSize) (positive : 1 ≤ host.bufferFrames) {arrived : List Engine.Arrival}
    (presenting : Presenting kernel rate maxPacketBytes interval host arrived studio) {reserve : Nat → Bool}
    (moved : studio.present.step (.read reserve) = some worker) :
    Presenting kernel rate maxPacketBytes interval host arrived
      ⟨{ studio.engine with audio := studio.engine.audio.read reserve (readRequest studio.worker) }, worker⟩ := by
  have carried := Traffic.step_carrying small presenting.carrying
    (show Traffic.Answered studio.engine (.client (.read reserve (readRequest studio.worker))) from trivial) rfl
  have none : arrived ++ Traffic.arrivalsOf interval [.client (.read reserve (readRequest studio.worker))] = arrived :=
    List.append_nil _
  rw [none] at carried
  refine ⟨carried, ?_⟩
  intro last known own
  obtain ⟨_, same⟩ := Option.ite_none_right_eq_some.mp moved
  cases same
  obtain ⟨left, written, device⟩ := drain_kept studio.present reserve
  have asio : (studio.engine.audio.read reserve (readRequest studio.worker)).mixer.asio = (studio.present.drain reserve).asio :=
    (Processing.read_asio _ _ _).trans (drain_asio studio.present reserve).symm
  obtain ⟨session, held, became⟩ := Requests.read_became ((Processing.read_asio _ _ _).symm.trans known)
  have live := presenting.live session held (became.owner.symm.trans (own.trans (congrArg Device.owner device)))
  have reads := drain_reads presenting.carrying.following held studio.worker reserve
  have period := live.sized.periodFrames
  refine ⟨?_, became.sized _ _ live.sized, ?_, ?_, ?_⟩
  · rw [present_of_asio _ asio]
    exact live.turning.step positive moved
  · rcases reads.handed with ⟨shown, same⟩ | ⟨one, period, shown, same, _⟩
    · exact (congrArg List.length same).trans (live.counted.trans (congrArg List.length shown.symm))
    · apply (congrArg List.length same).trans
      apply Eq.trans _ (congrArg List.length shown.symm)
      rw [List.length_append, List.length_append, live.counted]
      rfl
  · intro unbroken
    have silent := became.unbroken unbroken
    rcases reads.handed with ⟨shown, same⟩ | ⟨one, other, shown, same, right⟩
    · exact same.trans ((live.periods silent).trans (congrArg (List.map _) shown.symm))
    · apply same.trans
      apply Eq.trans _ (congrArg (List.map _) shown.symm)
      rw [live.periods silent, right silent, period, List.map_append, List.map_singleton]
  · apply reads.answers.trans
    apply live.answers.trans
    exact congrArg (List.mapIdx _) (congrArg₂ (fun left written => List.take (List.length written) left) left written).symm

theorem write_presenting (small : maxPacketBytes ≤ maxPacketSize) (positive : 1 ≤ host.bufferFrames) {arrived : List Engine.Arrival}
    (presenting : Presenting kernel rate maxPacketBytes interval host arrived studio) {reserve : Nat → Bool}
    (moved : studio.present.step (.write reserve) = some worker) :
    Presenting kernel rate maxPacketBytes interval host arrived
      ⟨{ studio.engine with audio := studio.engine.audio.write reserve (writeRequest studio.worker) }, worker⟩ := by
  obtain ⟨writing, same⟩ := Option.ite_none_right_eq_some.mp moved
  have carried := Traffic.step_carrying small presenting.carrying
    (show Traffic.Answered studio.engine (.client (.write reserve (writeRequest studio.worker))) from
      serve_honest presenting writing reserve) rfl
  have none : arrived ++ Traffic.arrivalsOf interval [.client (.write reserve (writeRequest studio.worker))] = arrived :=
    List.append_nil _
  rw [none] at carried
  refine ⟨carried, ?_⟩
  intro last known own
  cases same
  obtain ⟨left, shown, device⟩ := send_kept studio.present reserve
  have asio : (studio.engine.audio.write reserve (writeRequest studio.worker)).mixer.asio = (studio.present.send reserve).asio :=
    (Processing.write_asio _ _ _).trans (send_asio studio.present reserve).symm
  obtain ⟨session, held, became⟩ := Requests.write_became ((Processing.write_asio _ _ _).symm.trans known)
  have live := presenting.live session held (became.owner.symm.trans (own.trans (congrArg Device.owner device)))
  obtain ⟨periods, outcome⟩ := send_writes studio.engine.audio studio.worker reserve
  refine ⟨?_, became.sized _ _ live.sized, ?_, ?_, ?_⟩
  · rw [present_of_asio _ asio]
    exact live.turning.step positive moved
  · exact (congrArg List.length periods).trans (live.counted.trans (congrArg List.length shown.symm))
  · intro unbroken
    exact periods.trans ((live.periods (became.unbroken unbroken)).trans (congrArg (List.map _) shown.symm))
  · rcases outcome with ⟨written, answers⟩ | ⟨written, answers⟩
    · apply answers.trans
      apply live.answers.trans
      exact congrArg (List.mapIdx _) (congrArg₂ (fun left written => List.take (List.length written) left) left written).symm
    · have fewer := live.turning.writes (by rw [writing]; decide)
      rw [if_pos writing] at fewer
      have fewer : studio.worker.written.length + 1 = studio.worker.left.length := fewer
      obtain ⟨memory, latest, collected⟩ := live.turning.collected writing
      have place : studio.worker.left.length - 1 = studio.worker.written.length := by omega
      have latest : studio.worker.left[studio.worker.written.length]? = some memory := place ▸ latest
      have collected : studio.worker.state.output = words host studio.worker.written.length memory := place ▸ collected
      have grown : (studio.present.send reserve).left.take (studio.present.send reserve).written.length =
          studio.worker.left.take studio.worker.written.length ++ [memory] := by
        rw [left]
        apply Eq.trans (congrArg (List.take · _) written)
        apply Eq.trans List.take_add_one
        exact congrArg (studio.worker.left.take studio.worker.written.length ++ ·.toList) latest
      have taken : (studio.worker.left.take studio.worker.written.length).length = studio.worker.written.length := by
        rw [List.length_take]
        omega
      apply answers.trans
      apply Eq.trans _ (congrArg (List.mapIdx _) grown.symm)
      rw [live.answers, List.mapIdx_append, collected, words_answer, taken]
      simp only [List.mapIdx_cons, List.mapIdx_nil, Nat.zero_add]

/-- A step of the thread, which brings nothing from the card. -/
theorem worker_presenting (small : maxPacketBytes ≤ maxPacketSize) (positive : 1 ≤ host.bufferFrames) {arrived : List Engine.Arrival}
    (presenting : Presenting kernel rate maxPacketBytes interval host arrived studio) {event : Duplex.Event}
    (stepped : step kernel rate studio (.worker event) = some after) :
    Presenting kernel rate maxPacketBytes interval host arrived after := by
  cases event with
  | card frame => cases stepped
  | close => cases stepped
  | wake =>
    obtain ⟨worker, moved, rfl⟩ := Option.map_eq_some_iff.mp stepped
    obtain ⟨_, same⟩ := Option.ite_none_right_eq_some.mp moved
    cases same
    exact quiet_presenting positive presenting moved rfl rfl rfl fun _ => rfl
  | leave =>
    obtain ⟨worker, moved, rfl⟩ := Option.map_eq_some_iff.mp stepped
    obtain ⟨_, same⟩ := Option.ite_none_right_eq_some.mp moved
    cases same
    exact quiet_presenting positive presenting moved rfl rfl rfl fun _ => rfl
  | returns memory =>
    obtain ⟨worker, moved, rfl⟩ := Option.map_eq_some_iff.mp stepped
    obtain ⟨calling, same⟩ := Option.ite_none_right_eq_some.mp moved
    cases same
    apply quiet_presenting positive presenting moved rfl rfl rfl
    intro turning
    have all := turning.live_written (by rw [calling]; decide) (by rw [calling]; decide)
    exact List.take_append_of_le_length (Nat.le_of_eq all)
  | read reserve =>
    obtain ⟨worker, moved, rfl⟩ := Option.map_eq_some_iff.mp stepped
    exact read_presenting small positive presenting moved
  | write reserve =>
    obtain ⟨worker, moved, rfl⟩ := Option.map_eq_some_iff.mp stepped
    exact write_presenting small positive presenting moved

/-- What the card and the other clients did. -/
def kernelEvents : List Event → List Traffic.Event
  | [] => []
  | .kernel event :: events => event :: kernelEvents events
  | .worker _ :: events => kernelEvents events

/-- By induction on the run. -/
theorem run_presenting (small : maxPacketBytes ≤ maxPacketSize) (positive : 1 ≤ host.bufferFrames) {arrived : List Engine.Arrival}
    (presenting : Presenting kernel rate maxPacketBytes interval host arrived studio) {events : List Event}
    (attended : Along (step kernel rate) Attended studio events) (ran : run (step kernel rate) studio events = some after) :
    Presenting kernel rate maxPacketBytes interval host (arrived ++ Traffic.arrivalsOf interval (kernelEvents events)) after := by
  induction events generalizing arrived studio with
  | nil =>
    cases ran
    rw [kernelEvents, Traffic.arrivalsOf, List.append_nil]
    exact presenting
  | cons event events ih =>
    obtain ⟨middle, stepped, rest⟩ := run_cons.mp ran
    cases event with
    | kernel event =>
      have next := ih (kernel_presenting small presenting attended.1 stepped) (attended.2 middle stepped) rest
      rw [List.append_assoc, ← Traffic.arrivalsOf_append] at next
      exact next
    | worker event => exact ih (worker_presenting small positive presenting stepped) (attended.2 middle stepped) rest

variable {allocate : Nat → Except TryReserveError Unit} {engine : Engine Processing} {device : Device} {memory : Memory}

theorem start_cases (started : start allocate rate engine device host memory = some studio) :
    (1 ≤ host.bufferFrames ∧ host.bufferFrames ≤ maxPeriodFrames) ∧ engine.audio.mixer.asio = none ∧
      ∃ session, Requests.Session.new allocate device.owner rate host.bufferFrames = .ok session ∧
        studio = ⟨{ engine with audio := engine.audio.opened session }, Duplex.start device host session memory⟩ := by
  obtain ⟨valid, started⟩ := Option.ite_none_left_eq_some.mp started
  obtain ⟨positive, small⟩ := not_or.mp valid
  split at started
  next free made =>
    cases started
    exact ⟨⟨Nat.one_le_iff_ne_zero.mpr positive, Nat.le_of_not_lt small⟩, free, _, made, rfl⟩
  next => cases started

theorem start_presenting (small : maxPacketBytes ≤ maxPacketSize) {arrived : List Engine.Arrival}
    (carrying : Traffic.Carrying kernel rate maxPacketBytes interval arrived engine)
    (started : start allocate rate engine device host memory = some studio) :
    Presenting kernel rate maxPacketBytes interval host arrived studio := by
  obtain ⟨⟨positive, short⟩, free, session, made, rfl⟩ := start_cases started
  have opens : Traffic.step kernel rate engine (.client (.openAsio allocate device.owner host.bufferFrames)) =
      some { engine with audio := engine.audio.opened session } := by
    have valid : ¬ (host.bufferFrames = 0 ∨ maxPeriodFrames < host.bufferFrames) := by omega
    simp only [Traffic.step, Processing.step, if_neg valid, free, made]
    rfl
  have carried := Traffic.step_carrying small carrying
    (show Traffic.Answered engine (.client (.openAsio allocate device.owner host.bufferFrames)) from trivial) opens
  have none : arrived ++ Traffic.arrivalsOf interval [.client (.openAsio allocate device.owner host.bufferFrames)] = arrived :=
    List.append_nil _
  rw [none] at carried
  refine ⟨carried, ?_⟩
  intro other known _
  cases known
  have sized := Requests.Session.new_sized made
  exact ⟨Turning.start ⟨sized.periodFrames, sized.outputFrames⟩, sized, rfl, fun _ => rfl, rfl⟩

/-- The words that a host leaves in an output are those that it was shown in an input. -/
def Copies (host : Host) (source : Fin inputs) (target : Fin outputs) (worker : Duplex) : Prop :=
  ∀ k (shown : Shown) (memory : Memory), worker.shown[k]? = some shown → worker.left[k]? = some memory → ∀ i < host.bufferFrames,
    memory (.output target) (k % 2 * host.bufferFrames + i) = shown.memory (.input source) (k % 2 * host.bufferFrames + i)

/-- What the card has had of a host through its session, and the host of the card. -/
structure Linked (kernel : Kernel) (rate : SampleRate) (delivered : List (Frame 2)) (wire : List UInt8) (host : Host)
    (session : Requests.Session) (studio : Studio) : Prop where
  faithful : Traffic.Faithful kernel rate delivered wire session studio.engine.audio
  shown : ∀ k shown, studio.worker.shown[k]? = some shown → shown.position = k * host.bufferFrames ∧
    ∀ i < host.bufferFrames, ∃ frame, studio.engine.audio.history.captured[k * host.bufferFrames + i]? = some frame ∧
      ∀ channel, host.inputs.get channel = true →
        shown.memory (.input channel) (k % 2 * host.bufferFrames + i) = shiftUp (frame.get channel)
  played : studio.engine.audio.history.played <+:
    List.replicate (2 * host.bufferFrames + Processing.transferFrames rate) silence ++
      ((studio.worker.left.take studio.worker.written.length).mapIdx (answer host)).flatten
  loops : ∀ source target, host.inputs.get source = true → host.outputs.get target = true →
    Copies host source target studio.worker → ∀ n frame heard, studio.engine.audio.history.captured[n]? = some frame →
    studio.engine.audio.history.played[2 * host.bufferFrames + Processing.transferFrames rate + n]? = some heard →
    heard.get target = frame.get source

theorem getElem?_of_prefix {first all : List α} (starts : first <+: all) {n : Nat} {item : α} (known : first[n]? = some item) :
    all[n]? = some item := by
  obtain ⟨rest, rfl⟩ := starts
  obtain ⟨inside, _⟩ := List.getElem?_eq_some_iff.mp known
  rwa [List.getElem?_append_left inside]

section Live
variable {arrived : List Engine.Arrival} {delivered : List (Frame 2)} {wire : List UInt8}

/-- The switches show what was captured, period after period. -/
theorem Live.shown (live : Live host rate studio session)
    (faithful : Traffic.Faithful kernel rate delivered wire session studio.engine.audio) (unbroken : session.buffers.silentFrames = 0)
    {k : Nat} {shown : Shown} (known : studio.worker.shown[k]? = some shown) :
    shown.position = k * host.bufferFrames ∧ ∀ i < host.bufferFrames, ∃ frame,
      studio.engine.audio.history.captured[k * host.bufferFrames + i]? = some frame ∧
      ∀ channel, host.inputs.get channel = true →
        shown.memory (.input channel) (k % 2 * host.bufferFrames + i) = shiftUp (frame.get channel) := by
  have right := live.turning.shown k shown known
  refine ⟨right.position, ?_⟩
  intro i inside
  have within : i < shown.unread.length := Nat.lt_of_lt_of_le inside right.enough
  have found : shown.unread[i]? = some shown.unread[i] := List.getElem?_eq_getElem within
  refine ⟨shown.unread[i], ?_, right.samples i _ inside found⟩
  have block : studio.engine.audio.history.periods[k]? = some (shown.unread.take host.bufferFrames) := by
    rw [live.periods unbroken, List.getElem?_map, known]
    rfl
  have uniform := faithful.periods
  rw [live.sized.periodFrames] at uniform
  apply getElem?_of_prefix faithful.handed
  rw [getElem?_flatten_uniform uniform block inside, List.getElem?_take_of_lt inside]
  exact found

/-- A host that copies hears its input after the silence that its session began with. -/
theorem Live.loops (live : Live host rate studio session)
    (faithful : Traffic.Faithful kernel rate delivered wire session studio.engine.audio) (unbroken : session.buffers.silentFrames = 0)
    (positive : 1 ≤ host.bufferFrames)
    (answered : studio.engine.audio.history.answers.length ≤ studio.engine.audio.history.periods.length)
    (fits : ∀ frame ∈ studio.engine.audio.history.captured, FrameFits24 frame)
    {source : Fin inputs} {target : Fin outputs} (active : host.inputs.get source = true) (used : host.outputs.get target = true)
    (copies : Copies host source target studio.worker) {n : Nat} {frame : Frame inputs} {heard : Frame outputs}
    (captured : studio.engine.audio.history.captured[n]? = some frame)
    (known : studio.engine.audio.history.played[2 * host.bufferFrames + Processing.transferFrames rate + n]? = some heard) :
    heard.get target = frame.get source := by
  have played := faithful.played
  rw [live.sized.periodFrames, live.answers] at played
  have later := getElem?_of_prefix played known
  rw [List.getElem?_append_right (by rw [List.length_replicate]; exact Nat.le_add_right _ _), List.length_replicate,
    Nat.add_sub_cancel_left] at later
  generalize blocked : (studio.worker.left.take studio.worker.written.length).mapIdx (answer host) = blocks at later
  have uniform : ∀ block ∈ blocks, block.length = host.bufferFrames := by
    intro block member
    rw [← blocked] at member
    obtain ⟨k, _, rfl⟩ := List.mem_mapIdx.mp member
    rw [answer, List.length_map, List.length_range]
  -- The frame is number `i` of the answer to switch `k`.
  have split : n = n / host.bufferFrames * host.bufferFrames + n % host.bufferFrames := (Nat.div_add_mod' n host.bufferFrames).symm
  have inside : n % host.bufferFrames < host.bufferFrames := Nat.mod_lt n positive
  generalize n / host.bufferFrames = k at split
  generalize n % host.bufferFrames = i at split inside
  subst split
  have reached : k < blocks.length := by
    obtain ⟨bound, _⟩ := List.getElem?_eq_some_iff.mp later
    rw [length_flatten_uniform uniform, Nat.mul_comm host.bufferFrames blocks.length] at bound
    apply Nat.lt_of_mul_lt_mul_right (a := host.bufferFrames)
    exact Nat.lt_of_le_of_lt (Nat.le_add_right _ i) bound
  have there : k < studio.worker.shown.length := by
    rw [← live.counted]
    apply Nat.lt_of_lt_of_le reached
    rw [← blocked, ← live.answers]
    exact answered
  obtain ⟨memory, left, block⟩ : ∃ memory, studio.worker.left[k]? = some memory ∧ blocks[k]? = some (answer host k memory) := by
    rw [← blocked, List.length_mapIdx, List.length_take] at reached
    refine ⟨studio.worker.left[k], List.getElem?_eq_getElem (by omega), ?_⟩
    rw [← blocked, List.getElem?_mapIdx, List.getElem?_take_of_lt (by omega), List.getElem?_eq_getElem (by omega)]
    rfl
  have seen : studio.worker.shown[k]? = some studio.worker.shown[k] := List.getElem?_eq_getElem there
  obtain ⟨_, samples⟩ := live.shown faithful unbroken seen
  obtain ⟨other, same, words⟩ := samples i inside
  cases captured.symm.trans same
  rw [getElem?_flatten_uniform uniform block inside, answer, List.getElem?_map, List.getElem?_range inside] at later
  cases later
  have echoed := copies k _ memory seen left i inside
  rw [words source active] at echoed
  apply Eq.trans (Vector.getElem_ofFn _)
  apply Eq.trans (if_pos used)
  rw [echoed]
  exact shiftDown_shiftUp (fits frame (List.mem_of_getElem? captured) source source.isLt)

end Live

/-- A host of twenty frames that copies its first input to its last output. -/
def copier : Host := ⟨20, Vector.replicate inputs true, Vector.replicate outputs true⟩

def tens : List Int := [1, 2, 3, 4, 5, 6, 7, 8, 9, 10]

/-- Frames that count up to ten, twice a transfer. -/
def counting : Buffer :=
  let frames := Layout.capture (tens.map fun sample => #v[0, sample, 0, 0])
  Traffic.wholeBuffer (frames ++ List.replicate (maxPacketSize - 160) 0 ++ frames)

def transferred : Event := .kernel (.transfer (.captured Traffic.twentyFrames counting 0 true))

def copiedBack : Memory := fun _ place => shiftUp ((tens ++ tens ++ tens ++ tens).getD place 0)

def turn : List Event :=
  [transferred, .worker .wake, .worker (.read fun _ => true), .worker (.returns copiedBack), .worker (.write fun _ => true),
    .worker (.read fun _ => true)]

/-- Five transfers, after each of which the host has its turn. -/
def turns : List Event := turn ++ turn ++ turn ++ turn ++ turn

def fresh : Engine Processing := Engine.start .hz48000 (Traffic.fourOutputs.maxPacketBytes .hz48000) 1 Processing.idle

end Ak1Driver.Studio
