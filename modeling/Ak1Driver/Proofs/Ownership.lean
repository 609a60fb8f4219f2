import Ak1Driver.Driver.Resources

/-! Nothing that the driver gets is lost or given back twice. Whichever call
fails, what was acquired before is released, in an order that leaves no URB
without its request and no MDL without its buffer. -/

namespace Ak1Driver.Driver.Resources
open Proto Lib Lib.Heap Lib.Transition

abbrev Block := List (Entry Resource)

namespace System
variable {system after : System} {others : List Block} {block : Block} {resource : Resource} {handle : Nat} {status : NtStatus}

theorem call_owns (called : system.call = (status, after)) (owns : Owns system.heap others) : Owns after.heap others := by
  obtain ⟨heap, answers⟩ := system
  cases answers with
  | nil =>
    cases called
    exact owns
  | cons answer answers =>
    cases called
    exact owns

theorem acquire_begins (acquired : system.acquire resource = (handle, after)) (owns : Owns system.heap others)
    (needs : Dependent.needs resource = none) (belongs : Dependent.belongs resource = none) :
    Owns after.heap ([(handle, resource)] :: others) := by
  cases acquired
  exact owns.begin resource needs belongs

theorem acquire_joins (acquired : system.acquire resource = (handle, after)) (owns : Owns system.heap (block :: others))
    (inside : ∀ other, Dependent.needs resource = some other ∨ Dependent.belongs resource = some other → other ∈ handles block) :
    Owns after.heap ((block ++ [(handle, resource)]) :: others) := by
  cases acquired
  exact owns.acquire resource inside

end System

namespace Transfer

def requestBlock (transfer : Transfer) : List Block :=
  match transfer.request, transfer.urb with
  | some request, some urb => [[(request, .request), (urb, .urb request)]]
  | some request, none => [[(request, .request)]]
  | none, _ => []

def bufferBlock (transfer : Transfer) : List Block :=
  match transfer.buffer, transfer.mdl with
  | some buffer, some mdl => [[(buffer, .buffer), (mdl, .mdl buffer)]]
  | some buffer, none => [[(buffer, .buffer)]]
  | none, _ => []

def blocks (transfer : Transfer) : List Block := transfer.bufferBlock ++ transfer.requestBlock

/-- A transfer that has been allocated, perhaps in part. -/
structure Formed (transfer : Transfer) : Prop where
  urb : transfer.request = none → transfer.urb = none
  mdl : transfer.buffer = none → transfer.mdl = none

/-- Every pointer of the transfer is valid. -/
structure Whole (transfer : Transfer) : Prop where
  request : transfer.request.isSome
  urb : transfer.urb.isSome
  buffer : transfer.buffer.isSome
  mdl : transfer.mdl.isSome

variable {transfer : Transfer} {system : System} {others : List Block}

theorem Whole.formed (whole : transfer.Whole) : transfer.Formed := by
  constructor
  · intro null
    have some := whole.request
    rw [null] at some
    cases some
  · intro null
    have some := whole.buffer
    rw [null] at some
    cases some

/-- The MDL is freed before the buffer that it describes, the URB with its request. -/
theorem free_owns (formed : transfer.Formed) (owns : Owns system.heap (transfer.blocks ++ others)) :
    Owns (transfer.free system).heap others := by
  obtain ⟨request, urb, buffer, mdl⟩ := transfer
  have first : Owns ((system.free mdl).free buffer).heap (requestBlock ⟨request, urb, buffer, mdl⟩ ++ others) := by
    rw [blocks, List.append_assoc] at owns
    cases buffer with
    | none =>
      cases formed.mdl rfl
      exact owns
    | some buffer =>
      cases mdl with
      | none => exact owns.release_one rfl
      | some mdl => exact owns.release_pair rfl rfl rfl
  cases request with
  | none => exact first
  | some request =>
    cases urb with
    | none => exact first.release_one rfl
    | some urb => exact first.release_family rfl rfl rfl

/-- How an allocation ends: with a whole transfer, or with a failure and what was had until then. -/
structure Ends (others : List Block) (outcome : Except NtStatus Unit × Transfer × System) : Prop where
  formed : outcome.2.1.Formed
  owns : Owns outcome.2.2.heap (outcome.2.1.blocks ++ others)
  whole : outcome.1 = .ok () → outcome.2.1.Whole

theorem Ends.fails {status : NtStatus} (formed : transfer.Formed) (owns : Owns system.heap (transfer.blocks ++ others)) :
    Ends others (.error status, transfer, system) := by
  refine ⟨formed, owns, ?_⟩
  intro done
  cases done

theorem allocate_ends (owns : Owns system.heap others) : Ends others (allocate {} system) := by
  cases first : system.call with
  | mk status one =>
  have owns := System.call_owns first owns
  cases granted : ntSuccess status with
  | false =>
    simp only [allocate, first, granted, Bool.not_false, ↓reduceIte]
    exact .fails ⟨fun _ => rfl, fun _ => rfl⟩ owns
  | true =>
  cases second : one.acquire .request with
  | mk request two =>
  have owns := System.acquire_begins second owns rfl rfl
  cases third : two.call with
  | mk answer three =>
  have owns := System.call_owns third owns
  cases created : ntSuccess answer with
  | false =>
    simp only [allocate, first, granted, second, third, created, Bool.not_false, Bool.not_true, Bool.false_eq_true, ↓reduceIte]
    exact .fails ⟨fun _ => rfl, fun _ => rfl⟩ owns
  | true =>
  cases fourth : three.acquire (.urb request) with
  | mk urb four =>
  have owns := System.acquire_joins fourth owns (by
    intro other refers
    rcases refers with needs | belongs
    · cases needs
    · cases belongs
      exact List.mem_singleton_self request)
  cases fifth : four.acquire .buffer with
  | mk buffer five =>
  have owns := System.acquire_begins fifth owns rfl rfl
  cases sixth : five.call with
  | mk mapped six =>
  have owns := System.call_owns sixth owns
  cases described : ntSuccess mapped with
  | false =>
    simp only [allocate, first, granted, second, third, created, fourth, fifth, sixth, described, Bool.not_false, Bool.not_true,
      Bool.false_eq_true, ↓reduceIte]
    exact .fails ⟨fun null => (Option.some_ne_none _ null).elim, fun _ => rfl⟩ owns
  | true =>
  cases seventh : six.acquire (.mdl buffer) with
  | mk mdl seven =>
  have owns := System.acquire_joins seventh owns (by
    intro other refers
    rcases refers with needs | belongs
    · cases needs
      exact List.mem_singleton_self buffer
    · cases belongs)
  simp only [allocate, first, granted, second, third, created, fourth, fifth, sixth, described, seventh, Bool.not_true,
    Bool.false_eq_true, ↓reduceIte]
  have whole : Whole ⟨some request, some urb, some buffer, some mdl⟩ := ⟨rfl, rfl, rfl, rfl⟩
  exact ⟨whole.formed, owns, fun _ => whole⟩

theorem new_failed {status : NtStatus} {after : System} (owns : Owns system.heap others)
    (failed : new system = (.error status, after)) : Owns after.heap others := by
  have ends := allocate_ends owns
  rw [new] at failed
  cases outcome : allocate {} system with
  | mk result rest =>
    rw [outcome] at failed ends
    cases result with
    | ok done => cases failed
    | error other =>
      cases failed
      exact free_owns ends.formed ends.owns

theorem new_whole {after : System} (owns : Owns system.heap others) (done : new system = (.ok transfer, after)) :
    Owns after.heap (transfer.blocks ++ others) ∧ transfer.Whole := by
  have ends := allocate_ends owns
  rw [new] at done
  cases outcome : allocate {} system with
  | mk result rest =>
    rw [outcome] at done ends
    cases result with
    | error other => cases done
    | ok nothing =>
      cases done
      exact ⟨ends.owns, ends.whole rfl⟩

/-- Transfers are freed one by one. -/
theorem free_all {transfers : List Transfer} (whole : ∀ transfer ∈ transfers, transfer.Whole)
    (owns : Owns system.heap (transfers.flatMap blocks ++ others)) :
    Owns (transfers.foldl (fun system transfer => transfer.free system) system).heap others := by
  induction transfers generalizing system with
  | nil => exact owns
  | cons transfer transfers ih =>
    obtain ⟨first, rest⟩ := List.forall_mem_cons.mp whole
    rw [List.flatMap_cons, List.append_assoc] at owns
    exact ih rest (free_owns first.formed owns)

end Transfer

namespace Engine
variable {engine : Engine} {system after : System} {others : List Block}

def transfers (engine : Engine) : List Transfer := engine.captures ++ engine.playbacks

def blocks (engine : Engine) : List Block := engine.transfers.flatMap Transfer.blocks

theorem drop_owns (whole : ∀ transfer ∈ engine.transfers, transfer.Whole) (owns : Owns system.heap (engine.blocks ++ others)) :
    Owns (engine.drop system).heap others := by
  rw [drop]
  split
  · exact Transfer.free_all whole owns
  · exact Transfer.free_all whole owns

/-- An engine that is being filled: its captures run ahead of its playbacks by `ahead`. -/
structure Filling (others : List Block) (left ahead : Nat) (engine : Engine) (system : System) : Prop where
  whole : ∀ transfer ∈ engine.transfers, transfer.Whole
  owns : Owns system.heap (engine.blocks ++ others)
  captures : engine.captures.length + left = Driver.transfers + ahead
  playbacks : engine.playbacks.length + left = Driver.transfers

theorem Filling.capture {left : Nat} (filling : Filling others left 0 engine system) {capture : Transfer}
    (done : Transfer.new system = (.ok capture, after)) :
    Filling others left 1 { engine with captures := engine.captures ++ [capture] } after := by
  obtain ⟨owns, whole⟩ := Transfer.new_whole filling.owns done
  refine ⟨?_, owns.perm ?_, ?_, filling.playbacks⟩
  · intro transfer member
    rcases List.mem_append.mp member with early | late
    · rcases List.mem_append.mp early with old | new
      · exact filling.whole transfer (List.mem_append_left _ old)
      · rw [List.mem_singleton.mp new]
        exact whole
    · exact filling.whole transfer (List.mem_append_right _ late)
  · simp only [blocks, transfers, List.flatMap_append, List.flatMap_singleton, List.append_assoc]
    exact List.perm_append_comm_assoc _ _ _
  · have captures := filling.captures
    rw [List.length_append, List.length_singleton]
    omega

theorem Filling.playback {left : Nat} (filling : Filling others (left + 1) 1 engine system) {playback : Transfer}
    (done : Transfer.new system = (.ok playback, after)) :
    Filling others left 0 { engine with playbacks := engine.playbacks ++ [playback] } after := by
  obtain ⟨owns, whole⟩ := Transfer.new_whole filling.owns done
  refine ⟨?_, owns.perm ?_, ?_, ?_⟩
  · intro transfer member
    rcases List.mem_append.mp member with early | late
    · exact filling.whole transfer (List.mem_append_left _ early)
    · rcases List.mem_append.mp late with old | new
      · exact filling.whole transfer (List.mem_append_right _ old)
      · rw [List.mem_singleton.mp new]
        exact whole
  · simp only [blocks, transfers, List.flatMap_append, List.flatMap_singleton, List.append_assoc]
    apply (List.perm_append_comm_assoc _ _ _).trans
    exact (List.perm_append_comm_assoc _ _ _).append_left _
  · have captures := filling.captures
    dsimp only
    omega
  · have playbacks := filling.playbacks
    rw [List.length_append, List.length_singleton]
    omega

/-- An engine as it runs. -/
structure Filled (engine : Engine) : Prop where
  whole : ∀ transfer ∈ engine.transfers, transfer.Whole
  captures : engine.captures.length = Driver.transfers
  playbacks : engine.playbacks.length = Driver.transfers

/-- How starting an engine ends: with all its transfers, or with a failure and nothing. -/
structure Starts (others : List Block) (outcome : Except NtStatus Engine × System) : Prop where
  failed : ∀ status, outcome.1 = .error status → Owns outcome.2.heap others
  filled : ∀ engine, outcome.1 = .ok engine → Filling others 0 0 engine outcome.2

theorem Starts.fails {status : NtStatus} (owns : Owns system.heap others) : Starts others (.error status, system) := by
  refine ⟨fun _ _ => owns, ?_⟩
  intro engine impossible
  cases impossible

theorem Starts.ready (filling : Filling others 0 0 engine system) : Starts others (.ok engine, system) := by
  constructor
  · intro status impossible
    cases impossible
  · intro other same
    cases same
    exact filling

/-- By induction on the transfers that are left to allocate; a failure drops the engine with those that it has. -/
theorem fill_starts {left : Nat} (filling : Filling others left 0 engine system) : Starts others (fill left engine system) := by
  induction left generalizing engine system with
  | zero => exact .ready filling
  | succ left ih =>
    rw [fill]
    cases first : Transfer.new system with
    | mk result one =>
    cases result with
    | error status =>
      exact .fails (drop_owns filling.whole (Transfer.new_failed filling.owns first))
    | ok capture =>
    have captured := filling.capture first
    cases second : Transfer.new one with
    | mk result two =>
    simp only [second]
    cases result with
    | error status =>
      exact .fails (drop_owns captured.whole (Transfer.new_failed captured.owns second))
    | ok playback => exact ih (captured.playback second)

theorem submit_owns {left : Nat} (owns : Owns system.heap others) : Owns (submit left system).2.heap others := by
  induction left generalizing system with
  | zero => exact owns
  | succ left ih =>
    cases called : system.call with
    | mk status one =>
    have owns := System.call_owns called owns
    cases granted : ntSuccess status with
    | false =>
      simp only [submit, called, granted, Bool.not_false, ↓reduceIte]
      exact owns
    | true =>
      simp only [submit, called, granted, Bool.not_true, Bool.false_eq_true, ↓reduceIte]
      exact ih owns

/-- Wherever the start of an engine fails, it leaves nothing behind. -/
theorem start_starts (owns : Owns system.heap others) : Starts others (start system) := by
  rw [start]
  have asked := @submit_owns system others 3 owns
  cases first : submit 3 system with
  | mk result one =>
  rw [first] at asked
  cases result with
  | error status => exact .fails asked
  | ok nothing =>
  have filled := fill_starts (show Filling others Driver.transfers 0 ⟨[], [], false⟩ one from
    ⟨List.forall_mem_nil _, asked, Nat.zero_add _, Nat.zero_add _⟩)
  dsimp only
  cases second : fill Driver.transfers ⟨[], [], false⟩ one with
  | mk result two =>
  rw [second] at filled
  cases result with
  | error status => exact .fails (filled.failed status rfl)
  | ok engine =>
  have filling := filled.filled engine rfl
  have running : Filling others 0 0 { engine with running := true } two :=
    ⟨filling.whole, filling.owns, filling.captures, filling.playbacks⟩
  have sent := @submit_owns two _ (3 * engine.captures.length) running.owns
  dsimp only
  cases third : submit (3 * engine.captures.length) two with
  | mk result three =>
  rw [third] at sent
  cases result with
  | error status => exact .fails (@drop_owns (stop { engine with running := true }) three others running.whole sent)
  | ok nothing => exact .ready ⟨running.whole, sent, running.captures, running.playbacks⟩

end Engine

namespace Stream
variable {packets : Packets} {stream : Stream} {system after : System} {others : List Block}

def pair (packets : Packets) (stream : Stream) (index : Nat) : Block :=
  let buffer := (stream.buffers index).getD 0
  [(buffer, .pool), ((packets.mdls index).getD 0, .mdl buffer)]

/-- The memory and the MDLs of so many packets from one on. -/
def pairs (packets : Packets) (stream : Stream) (index left : Nat) : List Block :=
  (List.range' index left).map (pair packets stream)

/-- These packets have their memory, and the ring has no other address. -/
structure Filled (packets : Packets) (stream : Stream) (count : Nat) : Prop where
  buffers : ∀ index < count, (stream.buffers index).isSome
  mdls : ∀ index < count, (packets.mdls index).isSome
  others : ∀ index ≥ count, stream.buffers index = none

def blocks (stream : Stream) : List Block :=
  match stream.packets with
  | none => []
  | some (packets, count) => pairs packets stream 0 count ++ [[(packets.array, .pool)]]

/-- The ring has the addresses of the packets that ACX has, at most as many as it has room for. -/
def Kept (stream : Stream) : Prop :=
  match stream.packets with
  | none => stream.count = 0 ∧ ∀ index, stream.buffers index = none
  | some (packets, count) => stream.count = count ∧ 0 < count ∧ count ≤ maxPackets ∧ Filled packets stream count

theorem pairs_congr {other : Stream} {index left : Nat}
    (same : ∀ place, index ≤ place → stream.buffers place = other.buffers place) :
    pairs packets stream index left = pairs packets other index left := by
  apply List.map_congr_left
  intro place member
  rw [pair, pair, same place (List.mem_range'_1.mp member).1]

/-- By induction on the packets that are left. -/
theorem freeEach_owns {index left : Nat} (filled : ∀ place, index ≤ place → place < index + left →
      (stream.buffers place).isSome ∧ (packets.mdls place).isSome)
    (owns : Owns system.heap (pairs packets stream index left ++ others)) :
    Owns (freeEach packets left index stream system).2.heap others ∧
      (∀ place, (freeEach packets left index stream system).1.buffers place =
        if index ≤ place ∧ place < index + left then none else stream.buffers place) ∧
      (freeEach packets left index stream system).1.packets = stream.packets := by
  induction left generalizing index stream system with
  | zero =>
    refine ⟨owns, ?_, rfl⟩
    intro place
    rw [if_neg (by omega)]
    rfl
  | succ left ih =>
    obtain ⟨buffered, mapped⟩ := filled index (Nat.le_refl _) (by omega)
    obtain ⟨buffer, here⟩ := Option.isSome_iff_exists.mp buffered
    obtain ⟨mdl, described⟩ := Option.isSome_iff_exists.mp mapped
    have first : pair packets stream index = [(buffer, .pool), (mdl, .mdl buffer)] := by
      rw [pair, here, described]
      rfl
    have later : pairs packets stream (index + 1) left =
        pairs packets { stream with buffers := Function.update stream.buffers index none } (index + 1) left := by
      apply pairs_congr
      intro place beyond
      exact (Function.update_of_ne (Nat.ne_of_gt beyond) _ _).symm
    rw [pairs, List.range'_succ, List.map_cons, first] at owns
    have freed := owns.release_pair rfl rfl rfl
    change Owns _ (pairs packets stream (index + 1) left ++ others) at freed
    rw [later] at freed
    rw [freeEach, here, described]
    have remaining : ∀ place, index + 1 ≤ place → place < index + 1 + left →
        (Function.update stream.buffers index none place).isSome ∧ (packets.mdls place).isSome := by
      intro place beyond inside
      rw [Function.update_of_ne (Nat.ne_of_gt beyond)]
      exact filled place (by omega) (by omega)
    obtain ⟨rest, buffers, same⟩ := @ih { stream with buffers := Function.update stream.buffers index none }
      ((system.release mdl).release buffer) _ remaining freed
    refine ⟨rest, ?_, same⟩
    intro place
    apply (buffers place).trans
    by_cases here : place = index
    · subst here
      rw [if_neg (by omega), if_pos (by omega)]
      exact Function.update_self _ _ _
    · apply Eq.trans (congrArg (ite _ none) (Function.update_of_ne here _ _))
      exact if_congr (by omega) rfl rfl

/-- The stream has no packets, and no address of any. -/
structure Bare (stream : Stream) : Prop where
  packets : stream.packets = none
  count : stream.count = 0
  buffers : ∀ index, stream.buffers index = none

theorem freePackets_owns {count : Nat} (filled : Filled packets stream count)
    (owns : Owns system.heap (pairs packets stream 0 count ++ ([[(packets.array, .pool)]] ++ others))) :
    Owns (stream.freePackets packets count system).2.heap others ∧
      Bare { (stream.freePackets packets count system).1 with packets := none } ∧
      (stream.freePackets packets count system).1.packets = stream.packets := by
  have each : ∀ place, 0 ≤ place → place < 0 + count → (stream.buffers place).isSome ∧ (packets.mdls place).isSome := by
    intro place _ inside
    rw [Nat.zero_add] at inside
    exact ⟨filled.buffers place inside, filled.mdls place inside⟩
  obtain ⟨rest, buffers, same⟩ := freeEach_owns each owns
  refine ⟨rest.release_one rfl, ⟨rfl, rfl, ?_⟩, same⟩
  intro place
  apply (buffers place).trans
  rw [Nat.zero_add]
  split
  next => rfl
  next outside => exact filled.others place (Nat.not_lt.mp fun inside => outside ⟨Nat.zero_le _, inside⟩)

/-- How an allocation of packets ends: with the packets and their array, or with nothing. -/
structure Provides (others : List Block) (count : Nat) (outcome : Except NtStatus Packets × Stream × System) : Prop where
  packets : outcome.2.1.packets = none
  failed : ∀ status, outcome.1 = .error status → Owns outcome.2.2.heap others ∧ outcome.2.1.Bare
  filled : ∀ packets, outcome.1 = .ok packets → Filled packets outcome.2.1 count ∧
    Owns outcome.2.2.heap (pairs packets outcome.2.1 0 count ++ ([[(packets.array, .pool)]] ++ others))

theorem Provides.fails {status : NtStatus} {count : Nat} (bare : stream.Bare) (owns : Owns system.heap others) :
    Provides others count (.error status, stream, system) := by
  refine ⟨bare.packets, fun _ _ => ⟨owns, bare⟩, ?_⟩
  intro packets impossible
  cases impossible

/-- Gives back the packets before the one that failed. -/
theorem Provides.freed {status : NtStatus} {count index : Nat} (none : stream.packets = none) (filled : Filled packets stream index)
    (owns : Owns system.heap (pairs packets stream 0 index ++ ([[(packets.array, .pool)]] ++ others))) :
    Provides others count (.error status, stream.freePackets packets index system) := by
  obtain ⟨rest, bare, same⟩ := freePackets_owns filled owns
  exact .fails ⟨same.trans none, bare.count, bare.buffers⟩ rest

theorem isSome_update (pointers : Nat → Option Nat) (index handle place : Nat) :
    (Function.update pointers index (some handle) place).isSome = (decide (place = index) || (pointers place).isSome) := by
  by_cases here : place = index
  · subst here
    rw [Function.update_self, decide_eq_true rfl]
    rfl
  · rw [Function.update_of_ne here, decide_eq_false here, Bool.false_or]

/-- One packet more. -/
theorem Filled.next {index buffer mdl : Nat} (filled : Filled packets stream index) :
    Filled { packets with mdls := Function.update packets.mdls index (some mdl) }
      { stream with buffers := Function.update stream.buffers index (some buffer) } (index + 1) := by
  refine ⟨?_, ?_, ?_⟩
  · intro place inside
    apply (isSome_update _ _ _ _).trans
    rcases Nat.lt_succ_iff_lt_or_eq.mp inside with before | here
    · rw [filled.buffers place before, Bool.or_true]
    · rw [decide_eq_true here, Bool.true_or]
  · intro place inside
    apply (isSome_update _ _ _ _).trans
    rcases Nat.lt_succ_iff_lt_or_eq.mp inside with before | here
    · rw [filled.mdls place before, Bool.or_true]
    · rw [decide_eq_true here, Bool.true_or]
  · intro place beyond
    apply (Function.update_of_ne (Nat.ne_of_gt beyond) _ _).trans
    exact filled.others place (Nat.le_of_succ_le beyond)

theorem pairs_next (packets : Packets) (stream : Stream) (index buffer mdl : Nat) :
    pairs { packets with mdls := Function.update packets.mdls index (some mdl) }
      { stream with buffers := Function.update stream.buffers index (some buffer) } 0 (index + 1) =
      pairs packets stream 0 index ++ [[(buffer, .pool), (mdl, .mdl buffer)]] := by
  rw [pairs, List.range'_concat, List.map_append, List.map_singleton, pairs]
  congr 1
  · apply List.map_congr_left
    intro place member
    have before : place ≠ index := by
      have inside := (List.mem_range'_1.mp member).2
      omega
    simp only [pair, Function.update_of_ne before]
  · simp only [pair, Nat.zero_add, Nat.one_mul, Function.update_self, Option.getD_some]

/-- By induction on the packets that are left. -/
theorem allocateEach_provides {left index : Nat} (bare : stream.packets = none) (filled : Filled packets stream index)
    (owns : Owns system.heap (pairs packets stream 0 index ++ ([[(packets.array, .pool)]] ++ others))) :
    Provides others (index + left) (allocateEach left index packets stream system) := by
  induction left generalizing index packets stream system with
  | zero =>
    refine ⟨bare, ?_, ?_⟩
    · intro status impossible
      cases impossible
    · intro got same
      cases same
      exact ⟨filled, owns⟩
  | succ left ih =>
    cases first : system.call with
    | mk status one =>
    have owns := System.call_owns first owns
    cases granted : ntSuccess status with
    | false =>
      simp only [allocateEach, first, granted, Bool.not_false, ↓reduceIte]
      exact .freed bare filled owns
    | true =>
    cases second : one.acquire .pool with
    | mk buffer two =>
    have owns := System.acquire_begins second owns rfl rfl
    cases third : two.call with
    | mk status three =>
    have owns := System.call_owns third owns
    cases mapped : ntSuccess status with
    | false =>
      simp only [allocateEach, first, granted, second, third, mapped, Bool.not_false, Bool.not_true, Bool.false_eq_true, ↓reduceIte]
      exact .freed bare filled (owns.release_one rfl)
    | true =>
    cases fourth : three.acquire (.mdl buffer) with
    | mk mdl four =>
    have owns := System.acquire_joins fourth owns (by
      intro other refers
      rcases refers with needs | belongs
      · cases needs
        exact List.mem_singleton_self buffer
      · cases belongs)
    simp only [allocateEach, first, granted, second, third, mapped, fourth, Bool.not_true, Bool.false_eq_true, ↓reduceIte]
    rw [Nat.add_comm left 1, ← Nat.add_assoc]
    apply @ih { packets with mdls := Function.update packets.mdls index (some mdl) }
      { stream with buffers := Function.update stream.buffers index (some buffer) } four (index + 1) bare filled.next
    rw [pairs_next, List.append_assoc]
    apply owns.perm
    exact List.perm_middle.symm

/-- How a client's allocation ends: the stream has its packets, or still has none. -/
structure Settles (others : List Block) (count : Nat) (outcome : Except NtStatus Packets × Stream × System) : Prop where
  failed : ∀ status, outcome.1 = .error status → Owns outcome.2.2.heap others ∧ outcome.2.1.Bare
  settled : ∀ packets, outcome.1 = .ok packets → Kept { outcome.2.1 with packets := some (packets, count) } ∧
    Owns outcome.2.2.heap (blocks { outcome.2.1 with packets := some (packets, count) } ++ others)

theorem Settles.fails {status : NtStatus} {count : Nat} (bare : stream.Bare) (owns : Owns system.heap others) :
    Settles others count (.error status, stream, system) := by
  refine ⟨fun _ _ => ⟨owns, bare⟩, ?_⟩
  intro packets impossible
  cases impossible

theorem allocatePackets_settles (count packetBytes : Nat) (bare : stream.Bare) (owns : Owns system.heap others) :
    Settles others count (stream.allocatePackets count packetBytes system) := by
  rw [allocatePackets]
  split
  next => exact .fails bare owns
  next valid =>
    cases first : system.call with
    | mk status one =>
    have owns := System.call_owns first owns
    cases granted : ntSuccess status with
    | false =>
      simp only [granted, Bool.not_false, ↓reduceIte]
      exact .fails bare owns
    | true =>
    cases second : one.acquire .pool with
    | mk array two =>
    have owns := System.acquire_begins second owns rfl rfl
    have none : Filled { array } stream 0 := by
      refine ⟨?_, ?_, fun place _ => bare.buffers place⟩
      · intro index impossible
        cases impossible
      · intro index impossible
        cases impossible
    have provides := @allocateEach_provides { array } stream two others count 0 bare.packets none owns
    rw [Nat.zero_add] at provides
    simp only [granted, second, Bool.not_true, Bool.false_eq_true, ↓reduceIte]
    cases third : allocateEach count 0 { array } stream two with
    | mk result rest =>
    obtain ⟨given, three⟩ := rest
    rw [third] at provides
    cases result with
    | error status =>
      obtain ⟨owns, bare⟩ := provides.failed status rfl
      exact .fails bare owns
    | ok packets =>
      obtain ⟨filled, owns⟩ := provides.filled packets rfl
      refine ⟨?_, ?_⟩
      · intro status impossible
        cases impossible
      · intro other same
        cases same
        refine ⟨⟨rfl, ?_, ?_, filled.buffers, filled.mdls, filled.others⟩, ?_⟩
        · exact Nat.pos_of_ne_zero fun zero => valid (.inl zero)
        · exact Nat.le_of_not_lt fun many => valid (.inr (.inl many))
        · apply owns.perm
          rw [blocks, List.append_assoc]
          exact .refl _

theorem Bare.kept (bare : stream.Bare) : stream.Kept := by
  rw [Kept, bare.packets]
  exact ⟨bare.count, bare.buffers⟩

theorem Bare.blocks_nil (bare : stream.Bare) : stream.blocks = [] := by
  rw [blocks, bare.packets]

theorem Kept.bare (kept : stream.Kept) (none : stream.packets = none) : stream.Bare := by
  rw [Kept, none] at kept
  exact ⟨none, kept.1, kept.2⟩

/-- What a stream's addresses point to. -/
theorem Kept.backed (kept : stream.Kept) {index buffer : Nat} (points : stream.buffers index = some buffer) :
    index < stream.count ∧ (buffer, .pool) ∈ stream.blocks.flatten := by
  rw [Kept] at kept
  rw [blocks]
  split at kept
  next =>
    rw [kept.2 index] at points
    cases points
  next packets count given =>
    obtain ⟨counted, _, _, filled⟩ := kept
    have inside : index < count := by
      apply Nat.lt_of_not_le
      intro beyond
      rw [filled.others index beyond] at points
      cases points
    refine ⟨counted ▸ inside, ?_⟩
    apply List.mem_flatten_of_mem (l := pair packets stream index)
    · apply List.mem_append_left
      apply List.mem_map_of_mem
      exact List.mem_range'_1.mpr ⟨Nat.zero_le _, by omega⟩
    · rw [pair, points]
      exact List.mem_cons_self ..

theorem Kept.counted (kept : stream.Kept) : stream.count ≤ maxPackets ∧ ∀ index < stream.count, (stream.buffers index).isSome := by
  rw [Kept] at kept
  split at kept
  next =>
    rw [kept.1]
    refine ⟨Nat.zero_le _, ?_⟩
    intro index impossible
    cases impossible
  next packets count given =>
    rw [kept.1]
    exact ⟨kept.2.2.1, kept.2.2.2.buffers⟩

section Views
variable {stream : Stream} {mapped : Mapped} {system : System} {packetBytes : Nat}

/-- A stream's ring of packets as it is looked at where what it takes is accounted
for, and where its bytes are. -/
structure Views (stream : Stream) (mapped : Mapped) : Prop where
  block : stream.blockAlign = mapped.stream.blockAlign
  buffers : stream.buffers = mapped.buffers
  count : stream.count = mapped.stream.ring.count

/-- One allocation as it ends in both accounts. -/
inductive Agree : Except NtStatus Packets → Except RtStatus (List RtPacket) → Prop where
  | given (packets : Packets) (described : List RtPacket) : Agree (.ok packets) (.ok described)
  | invalid : Agree (.error statusInvalidParameter) (.error .invalidParameter)
  | exhausted : Agree (.error statusInsufficientResources) (.error .insufficientResources)

theorem freeEach_kept (packets : Packets) (left index : Nat) (stream : Stream) (system : System) :
    (freeEach packets left index stream system).1.blockAlign = stream.blockAlign ∧
      (freeEach packets left index stream system).1.buffers =
        fun place => if index ≤ place ∧ place < index + left then none else stream.buffers place := by
  induction left generalizing index stream system with
  | zero =>
    refine ⟨rfl, funext fun place => (if_neg ?_).symm⟩
    omega
  | succ left ih =>
    obtain ⟨block, buffers⟩ := ih (index + 1) { stream with buffers := Function.update stream.buffers index none }
      ((system.free (packets.mdls index)).free (stream.buffers index))
    refine ⟨block, buffers.trans (funext fun place => ?_)⟩
    by_cases here : place = index
    · subst here
      rw [if_neg (by omega), if_pos (by omega)]
      exact Function.update_self _ _ _
    · dsimp only
      rw [Function.update_of_ne here]
      have same : index + 1 ≤ place ∧ place < index + 1 + left ↔ index ≤ place ∧ place < index + (left + 1) := by omega
      simp only [same]

/-- Packets are freed alike. -/
theorem Views.freePackets (views : Views stream mapped) (packets : Packets) (count : Nat) (system : System) :
    Views (stream.freePackets packets count system).1 (mapped.freePackets count) := by
  obtain ⟨block, buffers⟩ := freeEach_kept packets count 0 stream system
  refine ⟨block.trans views.block, buffers.trans (funext fun place => ?_), rfl⟩
  have same : 0 ≤ place ∧ place < 0 + count ↔ place < count := by omega
  simp only [same, views.buffers, Mapped.freePackets]

/-- Only the answers for the packets that are left matter. -/
theorem allocateFrom_congr {pool other : Pool} {left index : Nat} {described : List RtPacket} {mapped : Mapped}
    (same : ∀ place, index ≤ place → pool.buffer place = other.buffer place ∧ pool.mapped place = other.mapped place) :
    Mapped.allocateFrom pool packetBytes left index described mapped =
      Mapped.allocateFrom other packetBytes left index described mapped := by
  induction left generalizing index described mapped with
  | zero => rfl
  | succ left ih =>
    obtain ⟨buffer, mdl⟩ := same index (Nat.le_refl _)
    simp only [Mapped.allocateFrom, buffer, mdl, ih fun place least => same place (Nat.le_of_succ_le least)]

/-- An outcome of an allocation, as both accounts have it. -/
structure Ends (outcome : Except NtStatus Packets × Stream × System) (result : Except RtStatus (List RtPacket)) (after : Mapped) :
    Prop where
  agree : Agree outcome.1 result
  views : Views outcome.2.1 after

def given : Option (List RtPacket) → Except RtStatus (List RtPacket)
  | some described => .ok described
  | none => .error .insufficientResources

/-- By induction on the packets that are left. -/
theorem allocateEach_ends {left index : Nat} (views : Views stream mapped) (packets : Packets) (described : List RtPacket)
    (system : System) : ∃ pool : Pool, Ends (allocateEach left index packets stream system)
      (given (Mapped.allocateFrom pool packetBytes left index described mapped).1)
      (Mapped.allocateFrom pool packetBytes left index described mapped).2 := by
  induction left generalizing index packets described stream mapped system with
  | zero => exact ⟨⟨true, fun _ => none, fun _ => false⟩, .given packets described, views⟩
  | succ left ih =>
    cases first : system.call with
    | mk status one =>
    cases granted : ntSuccess status with
    | false =>
      refine ⟨⟨true, fun _ => none, fun _ => false⟩, ?_⟩
      simp only [allocateEach, Mapped.allocateFrom, first, granted, Bool.not_false, ↓reduceIte]
      exact ⟨.exhausted, views.freePackets packets index one⟩
    | true =>
    cases second : one.acquire .pool with
    | mk buffer two =>
    cases third : two.call with
    | mk answer three =>
    cases accessible : ntSuccess answer with
    | false =>
      refine ⟨⟨true, fun _ => some buffer, fun _ => false⟩, ?_⟩
      simp only [allocateEach, Mapped.allocateFrom, first, granted, second, third, accessible, Bool.not_true, Bool.not_false,
        Bool.false_eq_true, ↓reduceIte]
      exact ⟨.exhausted, views.freePackets packets index (three.release buffer)⟩
    | true =>
    cases fourth : three.acquire (.mdl buffer) with
    | mk mdl four =>
    have next : Views { stream with buffers := Function.update stream.buffers index (some buffer) }
        { stream := { mapped.stream with
            ring := { mapped.stream.ring with buffers := Function.update mapped.stream.ring.buffers index fun _ => 0 } }
          buffers := Function.update mapped.buffers index (some buffer) } :=
      ⟨views.block, congrArg (Function.update · index (some buffer)) views.buffers, views.count⟩
    obtain ⟨pool, ends⟩ := @ih _ _ (index + 1) next { packets with mdls := Function.update packets.mdls index (some mdl) }
      (described ++ [describe packetBytes index buffer]) four
    let answers : Pool := { pool with
      buffer := Function.update pool.buffer index (some buffer)
      mapped := Function.update pool.mapped index true }
    have later (place : Nat) (least : index + 1 ≤ place) :
        answers.buffer place = pool.buffer place ∧ answers.mapped place = pool.mapped place := by
      have other : place ≠ index := by omega
      exact ⟨Function.update_of_ne other _ _, Function.update_of_ne other _ _⟩
    have here : answers.buffer index = some buffer ∧ answers.mapped index = true :=
      ⟨Function.update_self _ _ _, Function.update_self _ _ _⟩
    refine ⟨answers, ?_⟩
    simp only [allocateEach, Mapped.allocateFrom, first, granted, second, third, accessible, fourth, here, Bool.not_true,
      Bool.false_eq_true, ↓reduceIte, allocateFrom_congr later]
    exact ends

/-- Whatever the calls of an allocation return, it ends alike in both accounts. -/
theorem allocatePackets_ends (views : Views stream mapped) (count packetBytes : Nat) (system : System) :
    ∃ pool : Pool, Ends (stream.allocatePackets count packetBytes system) (mapped.allocatePackets pool count packetBytes).1
      (mapped.allocatePackets pool count packetBytes).2 := by
  by_cases refused : count = 0 ∨ maxPackets < count ∨ packetBytes = 0 ∨ packetBytes % stream.blockAlign ≠ 0
  · refine ⟨⟨true, fun _ => none, fun _ => false⟩, ?_⟩
    rw [allocatePackets, if_pos refused, Mapped.allocatePackets, ← views.block, if_pos refused]
    exact ⟨.invalid, views⟩
  · cases first : system.call with
    | mk status one =>
    cases granted : ntSuccess status with
    | false =>
      refine ⟨⟨false, fun _ => none, fun _ => false⟩, ?_⟩
      simp only [allocatePackets, if_neg refused, Mapped.allocatePackets, ← views.block, first, granted, Bool.not_false, ↓reduceIte]
      exact ⟨.exhausted, views⟩
    | true =>
    cases second : one.acquire .pool with
    | mk array two =>
    obtain ⟨pool, ends⟩ := @allocateEach_ends stream mapped packetBytes count 0 views { array } [] two
    refine ⟨{ pool with described := true }, ?_⟩
    have same : Mapped.allocateFrom { pool with described := true } packetBytes count 0 [] mapped =
        Mapped.allocateFrom pool packetBytes count 0 [] mapped := allocateFrom_congr fun _ _ => ⟨rfl, rfl⟩
    simp only [allocatePackets, if_neg refused, Mapped.allocatePackets, ← views.block, first, granted, second, same, Bool.not_true,
      Bool.false_eq_true, ↓reduceIte]
    obtain ⟨agree, kept⟩ := ends
    generalize allocateEach count 0 { array } stream two = outcome at agree kept ⊢
    generalize Mapped.allocateFrom pool packetBytes count 0 [] mapped = other at agree kept ⊢
    obtain ⟨result, after, last⟩ := outcome
    obtain ⟨described, others⟩ := other
    cases described with
    | none =>
      cases agree
      exact ⟨.exhausted, kept⟩
    | some described =>
      cases agree
      exact ⟨.given _ described, ⟨kept.block, kept.buffers, rfl⟩⟩

end Views

end Stream

namespace Card
variable {card after : Card} {others : List Block}

def engineBlocks (card : Card) : List Block :=
  match card.engine with
  | none => []
  | some engine => engine.blocks

def blocks (card : Card) : List Block := card.engineBlocks ++ card.streams.flatMap Stream.blocks

structure Kept (card : Card) : Prop where
  engine : ∀ engine, card.engine = some engine → engine.Filled
  streams : ∀ stream ∈ card.streams, stream.Kept
  owns : Owns card.heap card.blocks

/-- A stream can be worked on while everything else stays as it is. -/
theorem blocks_set {place : Nat} {stream : Stream} (found : card.streams[place]? = some stream) (other : Stream) :
    ∃ rest, card.blocks.Perm (stream.blocks ++ rest) ∧
      (card.engineBlocks ++ (card.streams.set place other).flatMap Stream.blocks).Perm (other.blocks ++ rest) := by
  obtain ⟨inside, rfl⟩ := List.getElem?_eq_some_iff.mp found
  refine ⟨card.engineBlocks ++ (card.streams.eraseIdx place).flatMap Stream.blocks, ?_, ?_⟩
  · apply (((List.getElem_cons_eraseIdx_perm inside).symm.flatMap_right Stream.blocks).append_left _).trans
    exact List.perm_append_comm_assoc _ _ _
  · apply (((List.set_perm_cons_eraseIdx inside other).flatMap_right Stream.blocks).append_left _).trans
    exact List.perm_append_comm_assoc _ _ _

theorem Kept.set {place : Nat} (kept : card.Kept) (other : Stream) (whole : other.Kept) (heap : Heap Resource)
    (owns : Owns heap (card.engineBlocks ++ (card.streams.set place other).flatMap Stream.blocks)) :
    Kept { card with heap, streams := card.streams.set place other } := by
  refine ⟨kept.engine, ?_, owns⟩
  intro stream member
  rcases List.mem_or_eq_of_mem_set member with old | rfl
  · exact kept.streams stream old
  · exact whole

theorem Kept.startEngine {answers : List NtStatus} (kept : card.Kept) (stepped : card.step (.startEngine answers) = some after) :
    after.Kept := by
  rw [step] at stepped
  split at stepped
  next => cases stepped
  next idle =>
    have starts := @Engine.start_starts ⟨card.heap, answers⟩ _ kept.owns
    cases outcome : Engine.start ⟨card.heap, answers⟩ with
    | mk result system =>
    rw [outcome] at starts stepped
    cases result with
    | error status =>
      cases stepped
      exact ⟨kept.engine, kept.streams, starts.failed status rfl⟩
    | ok engine =>
      cases stepped
      have filling := starts.filled engine rfl
      refine ⟨?_, kept.streams, filling.owns.perm ?_⟩
      · intro other same
        cases same
        exact ⟨filling.whole, filling.captures, filling.playbacks⟩
      · rw [blocks, engineBlocks, idle]
        exact .refl _

theorem Kept.stopEngine (kept : card.Kept) (stepped : card.step .stopEngine = some after) : after.Kept := by
  obtain ⟨engine, runs, rest⟩ := Option.bind_eq_some_iff.mp stepped
  cases rest
  refine ⟨?_, kept.streams, ?_⟩
  · intro other impossible
    cases impossible
  · have owns := kept.owns
    rw [blocks, engineBlocks, runs] at owns
    exact @Engine.drop_owns engine.stop ⟨card.heap, []⟩ _ (kept.engine engine runs).whole owns

theorem Kept.allocatePackets {place count packetBytes : Nat} {answers : List NtStatus} (kept : card.Kept)
    (stepped : card.step (.allocatePackets place count packetBytes answers) = some after) : after.Kept := by
  obtain ⟨stream, found, rest⟩ := Option.bind_eq_some_iff.mp stepped
  have bare := (kept.streams stream (List.mem_of_getElem? found)).bare
  split at rest
  next => cases rest
  next none =>
    have bare := bare none
    cases outcome : stream.allocatePackets count packetBytes ⟨card.heap, answers⟩ with
    | mk result given =>
    obtain ⟨other, system⟩ := given
    rw [outcome] at rest
    cases result with
    | error status =>
      cases rest
      obtain ⟨rest, before, set⟩ := blocks_set found other
      have owns := kept.owns.perm before
      rw [bare.blocks_nil] at owns
      have settles := @Stream.allocatePackets_settles stream ⟨card.heap, answers⟩ rest count packetBytes bare owns
      rw [outcome] at settles
      obtain ⟨owns, bare⟩ := settles.failed status rfl
      rw [bare.blocks_nil] at set
      exact kept.set other bare.kept _ (owns.perm set.symm)
    | ok packets =>
      cases rest
      obtain ⟨rest, before, set⟩ := blocks_set found { other with packets := some (packets, count) }
      have owns := kept.owns.perm before
      rw [bare.blocks_nil] at owns
      have settles := @Stream.allocatePackets_settles stream ⟨card.heap, answers⟩ rest count packetBytes bare owns
      rw [outcome] at settles
      obtain ⟨whole, owns⟩ := settles.settled packets rfl
      exact kept.set _ whole _ (owns.perm set.symm)

theorem Kept.freePackets {place : Nat} (kept : card.Kept) (stepped : card.step (.freePackets place) = some after) : after.Kept := by
  obtain ⟨stream, found, rest⟩ := Option.bind_eq_some_iff.mp stepped
  obtain ⟨⟨packets, count⟩, given, rest⟩ := Option.bind_eq_some_iff.mp rest
  cases rest
  have whole := kept.streams stream (List.mem_of_getElem? found)
  rw [Stream.Kept, given] at whole
  obtain ⟨rest, before, set⟩ := blocks_set found { (stream.freePackets packets count ⟨card.heap, []⟩).1 with packets := none }
  have owns := kept.owns.perm before
  rw [Stream.blocks, given, List.append_assoc] at owns
  obtain ⟨owns, bare, _⟩ := @Stream.freePackets_owns packets stream ⟨card.heap, []⟩ rest count whole.2.2.2 owns
  rw [bare.blocks_nil] at set
  exact kept.set _ bare.kept _ (owns.perm set.symm)

theorem Kept.step {event : Event} (kept : card.Kept) (stepped : card.step event = some after) : after.Kept := by
  cases event with
  | startEngine answers => exact kept.startEngine stepped
  | stopEngine => exact kept.stopEngine stepped
  | allocatePackets place count packetBytes answers => exact kept.allocatePackets stepped
  | freePackets place => exact kept.freePackets stepped

/-- The streams as they are created. -/
def new (blockAligns : List Nat) : Card := { streams := blockAligns.map fun blockAlign => { blockAlign } }

theorem kept_new (blockAligns : List Nat) : (new blockAligns).Kept := by
  have fresh : ∀ stream ∈ (new blockAligns).streams, stream.Bare := by
    intro stream member
    obtain ⟨blockAlign, _, rfl⟩ := List.mem_map.mp member
    exact ⟨rfl, rfl, fun _ => rfl⟩
  refine ⟨?_, fun stream member => (fresh stream member).kept, ?_⟩
  · intro engine impossible
    cases impossible
  · have nothing : (new blockAligns).blocks = [] := by
      apply List.flatMap_eq_nil_iff.mpr
      exact fun stream member => (fresh stream member).blocks_nil
    rw [nothing]
    exact owns_nothing

/-- What the driver has is what its engine and its streams refer to. -/
structure Accounted (card : Card) : Prop where
  /-- Nothing was given back twice, or while something needed it. -/
  proper : card.heap.misused = false
  distinct : (handles card.heap.live).Nodup
  live : card.heap.live.Perm card.blocks.flatten
  /-- An engine that runs has all its transfers, and each of them all its parts. -/
  engine : ∀ engine, card.engine = some engine → engine.Filled
  /-- The frames of a stream never go where there is no memory, or none of its own. -/
  inside : ∀ stream ∈ card.streams, stream.count ≤ maxPackets ∧ ∀ index < stream.count, (stream.buffers index).isSome
  backed : ∀ stream ∈ card.streams, ∀ index buffer, stream.buffers index = some buffer →
    index < stream.count ∧ (buffer, .pool) ∈ stream.blocks.flatten ∧ (buffer, .pool) ∈ card.heap.live
  idle : card.engine = none → (∀ stream ∈ card.streams, stream.packets = none) → card.heap.live = []

theorem Kept.summary (kept : card.Kept) : card.Accounted := by
  refine ⟨kept.owns.proper, ?_, kept.owns.live, kept.engine, fun stream member => (kept.streams stream member).counted, ?_, ?_⟩
  · exact (kept.owns.live.map Prod.fst).nodup_iff.mpr kept.owns.distinct
  · intro stream member index buffer points
    obtain ⟨inside, backed⟩ := (kept.streams stream member).backed points
    refine ⟨inside, backed, kept.owns.live.mem_iff.mpr ?_⟩
    obtain ⟨block, owned, present⟩ := List.mem_flatten.mp backed
    apply List.mem_flatten_of_mem _ present
    exact List.mem_append_right _ (List.mem_flatMap_of_mem member owned)
  · intro stopped packetless
    have nothing : card.blocks = [] := by
      rw [blocks, engineBlocks, stopped]
      apply List.flatMap_eq_nil_iff.mpr
      exact fun stream member => ((kept.streams stream member).bare (packetless stream member)).blocks_nil
    have live := kept.owns.live
    rw [nothing] at live
    exact List.perm_nil.mp live

/-- In any order of starts, stops, allocations and frees, whichever of their calls fail, the
driver loses nothing of what it was given and gives nothing back twice. -/
theorem accounted {blockAligns : List Nat} {events : List Event} (ran : run step (new blockAligns) events = some card) :
    card.Accounted := by
  apply Kept.summary
  apply Reachable.invariant Kept ⟨events, ran⟩ _ (kept_new blockAligns)
  exact fun before event after stepped kept => kept.step stepped

/-- There is no MDL for the tenth transfer, and then none for the second packet. -/
def exhausted : List Event :=
  [.startEngine (List.replicate 32 0 ++ [statusInsufficientResources]), .startEngine [],
    .allocatePackets 1 2 480 [0, 0, 0, 0, statusInsufficientResources], .allocatePackets 0 2 480 [], .stopEngine]

theorem accounted_exhausted : ∃ card, run step (new [4, 8]) exhausted = some card ∧ card.Accounted ∧
    card.engine.isNone ∧ card.heap.live.length = 5 ∧ card.heap.next = 176 := by
  have ran : (run step (new [4, 8]) exhausted).any fun card =>
      card.engine.isNone && card.heap.live.length == 5 && card.heap.next == 176 := by
    decide +kernel
  obtain ⟨card, ran, checked⟩ := (Option.any_eq_true _ _).mp ran
  obtain ⟨rest, next⟩ := Bool.and_eq_true_iff.mp checked
  obtain ⟨stopped, live⟩ := Bool.and_eq_true_iff.mp rest
  exact ⟨card, ran, accounted ran, stopped, beq_iff_eq.mp live, beq_iff_eq.mp next⟩

end Card
end Ak1Driver.Driver.Resources
