import Ak1Driver.Driver.Usb

/-! Acknowledgements carry nothing of the request that they answer. They belong
to their requests as long as no call begins while an earlier answer is unread or
still to come. -/

namespace Ak1Driver.Driver
open Proto Lib.Transition

namespace Ak1Usb

/-- The acknowledgements that wait in the pipe. -/
def unread (usb : Ak1Usb) : List Bool := usb.pipe.filterMap acknowledges

/-- What a call returns is what the card decided about that call's request. -/
def Acknowledged (usb : Ak1Usb) : Returned → Prop
  | .setAudioParams call (.ok ()) => ⟨call.request, true⟩ ∈ usb.verdicts
  | .setAudioParams call (.error status) => status = statusNotSupported → ⟨call.request, false⟩ ∈ usb.verdicts
  | .sync _ => True

def Truthful (usb : Ak1Usb) : Prop := ∀ outcome ∈ usb.returned, usb.Acknowledged outcome

/-- A call begins when every answer has come and been read, and the framework
itself does not fail its transfers as not supported. -/
def Settled (usb : Ak1Usb) : Event → Prop
  | .setAudioParams .. => usb.asked = [] ∧ usb.unread = []
  | .sendFailed status _ | .receiveFailed status => usb.caller.setting = true → status ≠ statusNotSupported
  | _ => True

instance (usb : Ak1Usb) : (event : Event) → Decidable (usb.Settled event)
  | .setAudioParams .. => inferInstanceAs (Decidable (_ ∧ _))
  | .sendFailed .. | .receiveFailed .. => inferInstanceAs (Decidable (_ → _))
  | .sync | .sent | .received | .answered _ | .reported _ => inferInstanceAs (Decidable True)

/-- The answer to the call's request, and no other, is still to come or waits. -/
def Outstanding (usb : Ak1Usb) (call : ParamsCall) : Prop :=
  (usb.unread = [] ∧ usb.asked = [call.request]) ∨
    ∃ accepted, usb.unread = [accepted] ∧ usb.asked = [] ∧ ⟨call.request, accepted⟩ ∈ usb.verdicts

/-- What `Settled` steps keep. -/
structure Orderly (usb : Ak1Usb) : Prop where
  sending : ∀ call, usb.caller = .sending call → usb.unread = [] ∧ usb.asked = []
  awaiting : ∀ call left, usb.caller = .awaiting call left → usb.Outstanding call
  truthful : usb.Truthful

theorem Acknowledged.mono {before after : Ak1Usb} (grown : before.verdicts ⊆ after.verdicts) {outcome : Returned}
    (acknowledged : before.Acknowledged outcome) : after.Acknowledged outcome := by
  cases outcome with
  | sync result => trivial
  | setAudioParams call result =>
    cases result with
    | ok done => exact grown acknowledged
    | error status => exact fun refused => grown (acknowledged refused)

theorem Truthful.finish {usb : Ak1Usb} (truthful : usb.Truthful) {outcome : Returned}
    (acknowledged : usb.Acknowledged outcome) : (usb.finish outcome).Orderly := by
  refine ⟨nofun, nofun, ?_⟩
  intro other member
  rcases List.mem_append.mp member with earlier | last
  · exact truthful other earlier
  · rw [List.mem_singleton.mp last]
    exact acknowledged

theorem Truthful.query {usb : Ak1Usb} (truthful : usb.Truthful) (left : Nat) : (usb.query left).Orderly := by
  cases left with
  | zero => exact truthful.finish trivial
  | succ left => exact ⟨nofun, nofun, truthful⟩

theorem Truthful.listen {usb : Ak1Usb} (truthful : usb.Truthful) (left : Nat) (message : List UInt8) :
    (usb.listen left message).Orderly := by
  simp only [Ak1Usb.listen]
  split
  · exact truthful.finish trivial
  · exact truthful.query left

theorem Truthful.await {usb : Ak1Usb} (truthful : usb.Truthful) {call : ParamsCall} (outstanding : usb.Outstanding call)
    (left : Nat) : (usb.await call left).Orderly := by
  cases left with
  | zero => exact truthful.finish (absurd · (by decide))
  | succ left =>
    refine ⟨nofun, ?_, truthful⟩
    intro other more waiting
    cases waiting
    exact outstanding

/-- What a call reads is some other message or the answer to its request. -/
theorem Outstanding.read {usb : Ak1Usb} {call : ParamsCall} (outstanding : usb.Outstanding call) {message : List UInt8}
    {pipe : List (List UInt8)} (next : usb.pipe = message :: pipe) :
    (acknowledges message = none ∧ Outstanding { usb with pipe } call) ∨
      ∃ accepted, acknowledges message = some accepted ∧ ⟨call.request, accepted⟩ ∈ usb.verdicts := by
  have unread : usb.unread = (acknowledges message).toList ++ pipe.filterMap acknowledges := by
    rw [Ak1Usb.unread, next]
    cases said : acknowledges message with
    | none => exact List.filterMap_cons_none said
    | some accepted => exact List.filterMap_cons_some said
  cases said : acknowledges message with
  | none =>
    rw [said] at unread
    refine .inl ⟨rfl, ?_⟩
    rcases outstanding with ⟨none, asked⟩ | ⟨accepted, one, asked, decided⟩
    · exact .inl ⟨unread.symm.trans none, asked⟩
    · exact .inr ⟨accepted, unread.symm.trans one, asked, decided⟩
  | some accepted =>
    rw [said] at unread
    rcases outstanding with ⟨none, _⟩ | ⟨only, one, _, decided⟩
    · cases unread.symm.trans none
    · obtain ⟨same, _⟩ := List.cons.inj (unread.symm.trans one)
      subst same
      exact .inr ⟨accepted, rfl, decided⟩

theorem Truthful.hear {usb : Ak1Usb} (truthful : usb.Truthful) {call : ParamsCall} (outstanding : usb.Outstanding call)
    {message : List UInt8} {pipe : List (List UInt8)} (next : usb.pipe = message :: pipe) (left : Nat) :
    ({ usb with pipe }.hear call left message).Orderly := by
  have kept : Truthful { usb with pipe } := truthful
  rw [hear_eq]
  rcases outstanding.read next with ⟨none, still⟩ | ⟨accepted, said, decided⟩
  · rw [none]
    exact kept.await still left
  · rw [said]
    cases accepted with
    | true => exact kept.finish decided
    | false => exact kept.finish fun _ => decided

/-- The card's answer is the one that the call waits for. -/
theorem Outstanding.answered {usb : Ak1Usb} {call : ParamsCall} (outstanding : usb.Outstanding call) {request : Request}
    {asked : List Request} {message : List UInt8} {accepted : Bool} (next : usb.asked = request :: asked)
    (said : acknowledges message = some accepted) :
    Outstanding { usb with
      asked, verdicts := usb.verdicts ++ [⟨request, accepted⟩], pipe := usb.pipe ++ [message] } call := by
  rcases outstanding with ⟨none, one⟩ | ⟨_, _, none, _⟩
  · obtain ⟨same, empty⟩ := List.cons.inj (next.symm.trans one)
    subst same empty
    refine .inr ⟨accepted, ?_, rfl, List.mem_append_right _ (List.mem_singleton.mpr rfl)⟩
    rw [unread, List.filterMap_append, List.filterMap_cons_some said]
    exact congrArg (· ++ [accepted]) none
  · cases next.symm.trans none

theorem Outstanding.reported {usb : Ak1Usb} {call : ParamsCall} (outstanding : usb.Outstanding call) {message : List UInt8}
    (other : acknowledges message = none) : Outstanding { usb with pipe := usb.pipe ++ [message] } call := by
  have unread : Ak1Usb.unread { usb with pipe := usb.pipe ++ [message] } = usb.unread := by
    rw [Ak1Usb.unread, List.filterMap_append, List.filterMap_cons_none other]
    exact List.append_nil _
  rwa [Outstanding, unread]

theorem step_orderly {before after : Ak1Usb} {event : Event} (settled : before.Settled event)
    (stepped : before.step event = some after) (orderly : before.Orderly) : after.Orderly := by
  have truthful := orderly.truthful
  cases event with
  | setAudioParams rate maxPacketBytes =>
    simp only [step] at stepped
    split at stepped <;> cases stepped
    refine ⟨?_, nofun, truthful⟩
    intro _ _
    exact ⟨settled.2, settled.1⟩
  | sync =>
    simp only [step] at stepped
    split at stepped <;> cases stepped
    exact truthful.query syncAttempts
  | sent =>
    simp only [step] at stepped
    split at stepped
    · rename_i call busy
      cases stepped
      obtain ⟨unread, asked⟩ := orderly.sending call busy
      refine @Truthful.await { before with asked := before.asked ++ [call.request] } truthful call (.inl ⟨unread, ?_⟩) _
      exact congrArg (· ++ [call.request]) asked
    · cases stepped
      exact ⟨nofun, nofun, truthful⟩
    · cases stepped
  | sendFailed status delivered =>
    obtain ⟨failed, stepped⟩ := Option.ite_none_left_eq_some.mp stepped
    split at stepped
    · rename_i call busy
      cases stepped
      have unsupported : status ≠ statusNotSupported := settled (by rw [busy]; rfl)
      apply Truthful.finish
      · exact truthful
      · exact (absurd · unsupported)
    · cases stepped
      exact truthful.finish trivial
    · cases stepped
  | received =>
    simp only [step] at stepped
    split at stepped
    · cases stepped
    · rename_i message pipe next
      split at stepped
      · rename_i call left busy
        cases stepped
        exact truthful.hear (orderly.awaiting call left busy) next left
      · cases stepped
        exact @Truthful.listen { before with pipe } truthful _ message
      · cases stepped
  | receiveFailed status =>
    obtain ⟨failed, stepped⟩ := Option.ite_none_left_eq_some.mp stepped
    split at stepped
    · rename_i call left busy
      cases stepped
      refine truthful.finish fun refused => ?_
      exact absurd refused (settled (by rw [busy]; rfl))
    · split at stepped
      · cases stepped
        exact truthful.query _
      · cases stepped
        exact truthful.finish trivial
    · cases stepped
  | answered message =>
    simp only [step] at stepped
    split at stepped
    · rename_i request asked accepted next said
      cases stepped
      refine ⟨?_, ?_, fun outcome member => (truthful outcome member).mono (List.subset_append_left _ _)⟩
      · intro call busy
        cases next.symm.trans (orderly.sending call busy).2
      · intro call left busy
        exact (orderly.awaiting call left busy).answered next said
    · cases stepped
  | reported message =>
    obtain ⟨other, same⟩ := Option.ite_none_right_eq_some.mp stepped
    cases same
    refine ⟨?_, ?_, truthful⟩
    · intro call busy
      obtain ⟨unread, asked⟩ := orderly.sending call busy
      refine ⟨?_, asked⟩
      rw [Ak1Usb.unread, List.filterMap_append, List.filterMap_cons_none other]
      exact congrArg (· ++ []) unread
    · intro call left busy
      exact (orderly.awaiting call left busy).reported other

theorem opened_orderly : opened.Orderly := ⟨nofun, nofun, nofun⟩

end Ak1Usb

/-- As long as no call begins before every earlier answer has been read, a call
that returns tells what the card decided about that very call's rate and packet
size. -/
theorem acknowledgements_belong {events : List Ak1Usb.Event} {final : Ak1Usb}
    (settled : Along Ak1Usb.step Ak1Usb.Settled .opened events) (ran : run Ak1Usb.step .opened events = some final) :
    final.Truthful :=
  (run_invariant Ak1Usb.Orderly (fun _ _ _ allowed stepped => Ak1Usb.step_orderly allowed stepped) settled ran
    Ak1Usb.opened_orderly).truthful

/-- Two calls, each answered while it waits, and a report that comes between. -/
def twoCalls : List Ak1Usb.Event :=
  [.setAudioParams .hz48000 348, .sent, .reported [4, 0], .answered [9, 1], .received, .received,
    .setAudioParams .hz192000 348, .sent, .answered [9, 0], .received]

theorem acknowledgements_belong_two_calls :
    ∃ final, run Ak1Usb.step .opened twoCalls = some final ∧ final.returned.length = 2 ∧ final.Truthful := by
  have settled : Along Ak1Usb.step Ak1Usb.Settled .opened twoCalls := by decide
  exact ⟨_, rfl, rfl, acknowledgements_belong settled rfl⟩

/-- A call whose time is up leaves its acknowledgement to the next one. -/
theorem late_acknowledgement_misleads :
    ¬ ∀ events final, run Ak1Usb.step .opened events = some final → final.Truthful := by
  intro truthful
  have ran := truthful [.setAudioParams .hz48000 348, .sent, .receiveFailed statusIoTimeout, .answered [9, 1],
    .setAudioParams .hz192000 348, .sent, .received, .answered [9, 0]] _ rfl
  have accepted : (⟨⟨1, [9, 3, 2, 92, 1, 1]⟩, true⟩ : Verdict) ∈ _ :=
    ran (.setAudioParams ⟨1, .hz192000, 348⟩ (.ok ())) (List.mem_cons_of_mem _ List.mem_cons_self)
  exact absurd accepted (by decide)

end Ak1Driver.Driver
