import Ak1Driver.Driver.Packets

/-! Every frame has its place in a packet of the client's, and the places are
those that the client was told of. -/

namespace Ak1Driver.Driver
open Proto

theorem le_allocBytes (packetBytes : Nat) : packetBytes ≤ allocBytes packetBytes ∧ allocBytes packetBytes < packetBytes + 4096 := by
  simp only [allocBytes, pageSize]
  omega

namespace Mapped
variable {pool : Pool} {packetBytes left index : Nat} {packets result : List RtPacket} {mapped after : Mapped}

theorem allocateFrom_none (failed : allocateFrom pool packetBytes left index packets mapped = (none, after)) :
    after.stream.ring.count = 0 := by
  induction left generalizing index packets mapped with
  | zero => cases failed
  | succ left ih =>
    simp only [allocateFrom] at failed
    split at failed
    · cases failed
      rfl
    · split at failed
      · exact ih failed
      · cases failed
        rfl

theorem allocateFrom_some (allocated : allocateFrom pool packetBytes left index packets mapped = (some result, after))
    (counted : packets.length = index) :
    result.length = index + left ∧ after.stream.containerBytes = mapped.stream.containerBytes ∧
      (∀ place < index, result[place]? = packets[place]? ∧ after.buffers place = mapped.buffers place) ∧
      ∀ place, index ≤ place → place < index + left → ∃ buffer, pool.buffer place = some buffer ∧
        result[place]? = some (describe packetBytes place buffer) ∧ after.buffers place = some buffer := by
  induction left generalizing index packets mapped with
  | zero =>
    cases allocated
    exact ⟨counted, rfl, fun _ _ => ⟨rfl, rfl⟩, fun place least most => absurd most (Nat.not_lt_of_le least)⟩
  | succ left ih =>
    simp only [allocateFrom] at allocated
    split at allocated
    · cases allocated
    next buffer found =>
      split at allocated
      · obtain ⟨length, container, before, new⟩ := ih allocated (by rw [List.length_append, counted]; rfl)
        refine ⟨by omega, container, fun place earlier => ?_, fun place least most => ?_⟩
        · obtain ⟨same, kept⟩ := before place (Nat.lt_succ_of_lt earlier)
          rw [List.getElem?_append_left (counted.symm ▸ earlier)] at same
          exact ⟨same, kept.trans (Function.update_of_ne (Nat.ne_of_lt earlier) _ _)⟩
        · rcases Nat.lt_or_eq_of_le least with later | same
          · exact new place later (by omega)
          · subst same
            obtain ⟨same, kept⟩ := before index (Nat.lt_succ_self index)
            rw [← counted, List.getElem?_concat_length, counted] at same
            exact ⟨buffer, found, same, kept.trans (Function.update_self _ _ _)⟩
      · cases allocated

/-- An allocated ring: every packet has its own whole pages, as it was described. -/
structure Allocated (pool : Pool) (count packetBytes : Nat) (packets : List RtPacket) (mapped : Mapped) : Prop where
  ring : mapped.stream.ring.count = count ∧ mapped.stream.ring.packetBytes = packetBytes ∧
    mapped.stream.ring.firstOffset = allocBytes packetBytes - packetBytes
  positive : 0 < count
  few : count ≤ maxPackets
  size : 0 < packetBytes
  whole : packetBytes % mapped.stream.blockAlign = 0
  length : packets.length = count
  packets : ∀ index < count, ∃ buffer, pool.buffer index = some buffer ∧
    packets[index]? = some (describe packetBytes index buffer) ∧ mapped.buffers index = some buffer

theorem allocatePackets_ok {count : Nat} (allocated : mapped.allocatePackets pool count packetBytes = (.ok packets, after)) :
    Allocated pool count packetBytes packets after ∧ after.stream.containerBytes = mapped.stream.containerBytes := by
  simp only [allocatePackets] at allocated
  split at allocated
  · cases allocated
  next accepted =>
    simp only [not_or, Nat.not_lt, ne_eq, Decidable.not_not] at accepted
    obtain ⟨some, few, size, whole⟩ := accepted
    split at allocated
    · cases allocated
    · split at allocated
      · cases allocated
      next result final found =>
        cases allocated
        obtain ⟨length, container, _, placed⟩ := allocateFrom_some found rfl
        rw [Nat.zero_add] at length placed
        refine ⟨⟨⟨rfl, rfl, rfl⟩, Nat.pos_of_ne_zero some, few, Nat.pos_of_ne_zero size, ?_, length, ?_⟩, container⟩
        · rw [RtStream.blockAlign] at whole ⊢
          rw [← container] at whole
          exact whole
        · intro index inside
          exact placed index (Nat.zero_le _) inside

/-- An allocation that fails at a packet leaves no ring. -/
theorem allocatePackets_error {count : Nat} {status : RtStatus}
    (failed : mapped.allocatePackets pool count packetBytes = (.error status, after)) :
    (count = 0 ∨ maxPackets < count ∨ packetBytes = 0 ∨ packetBytes % mapped.stream.blockAlign ≠ 0) ∨
      pool.described = false ∨ after.stream.ring.count = 0 := by
  simp only [allocatePackets] at failed
  split at failed
  next refused => exact .inl refused
  next =>
    split at failed
    next full =>
      simp only [Bool.not_eq_true'] at full
      exact .inr (.inl full)
    next =>
      split at failed
      next final found =>
        cases failed
        exact .inr (.inr (allocateFrom_none found))
      next => cases failed

end Mapped

/-- The memory that the pool gives to different packets does not overlap. -/
def Pool.Apart (pool : Pool) (count packetBytes : Nat) : Prop :=
  ∀ first second left right, first < count → second < count → first ≠ second → pool.buffer first = some left →
    pool.buffer second = some right → left + allocBytes packetBytes ≤ right ∨ right + allocBytes packetBytes ≤ left

/-- The frames in the packet with a number that a cursor designates. -/
structure Placed (count packetBytes block : Nat) (packets : List RtPacket) (frames address : Nat) : Prop where
  whole : packetBytes / block * block = packetBytes
  packet : ∃ packet, packets[frames / (packetBytes / block) % count]? = some packet ∧
    address = packet.buffer + packet.rtPacketOffset.toNat + frames % (packetBytes / block) * block ∧
    address + block ≤ packet.buffer + packet.rtPacketOffset.toNat + packet.rtPacketSize.toNat ∧
    packet.rtPacketOffset.toNat + packet.rtPacketSize.toNat ≤ allocBytes packetBytes

/-- Two frames in the same packet lie as far apart as they are counted. -/
theorem Placed.same {count packetBytes block first second left right : Nat} {packets : List RtPacket} (placed : Placed count packetBytes block packets first left)
    (other : Placed count packetBytes block packets second right)
    (index : first / (packetBytes / block) % count = second / (packetBytes / block) % count) :
    left + second % (packetBytes / block) * block = right + first % (packetBytes / block) * block := by
  obtain ⟨packet, found, address, _⟩ := placed.packet
  obtain ⟨another, also, otherAddress, _⟩ := other.packet
  rw [index, also] at found
  cases found
  omega

namespace Mapped
variable {pool : Pool} {count packetBytes : Nat} {packets : List RtPacket} {mapped : Mapped}

theorem Allocated.placed (allocated : Allocated pool count packetBytes packets mapped) (block : 0 < mapped.stream.blockAlign)
    (small : packetBytes < 2 ^ 32) (frames : Nat) :
    ∃ address, (mapped.seek frames).frameBytes = some address ∧
      Placed count packetBytes mapped.stream.blockAlign packets frames address := by
  obtain ⟨⟨ringCount, ringBytes, ringOffset⟩, positive, _, size, whole, _, packets⟩ := allocated
  obtain ⟨most, less⟩ := le_allocBytes packetBytes
  have filled : packetBytes / mapped.stream.blockAlign * mapped.stream.blockAlign = packetBytes :=
    Nat.div_mul_cancel (Nat.dvd_of_mod_eq_zero whole)
  have perPacket : 0 < packetBytes / mapped.stream.blockAlign := Nat.div_pos (Nat.le_of_dvd size (Nat.dvd_of_mod_eq_zero whole)) block
  have within : frames % (packetBytes / mapped.stream.blockAlign) * mapped.stream.blockAlign + mapped.stream.blockAlign ≤ packetBytes := by
    have last := Nat.mul_le_mul_right mapped.stream.blockAlign (Nat.succ_le_of_lt (Nat.mod_lt frames perPacket))
    rwa [filled, Nat.succ_mul] at last
  obtain ⟨buffer, _, described, backed⟩ := packets _ (Nat.mod_lt (frames / (packetBytes / mapped.stream.blockAlign)) positive)
  have offset : (describe packetBytes (frames / (packetBytes / mapped.stream.blockAlign) % count) buffer).rtPacketOffset.toNat =
      if frames / (packetBytes / mapped.stream.blockAlign) % count = 0 then allocBytes packetBytes - packetBytes else 0 := by
    simp only [describe]
    split
    · rw [UInt32.toNat_ofNat', Nat.mod_eq_of_lt (by omega)]
    · rfl
  have bytes : (describe packetBytes (frames / (packetBytes / mapped.stream.blockAlign) % count) buffer).rtPacketSize.toNat = packetBytes := by
    rw [describe, UInt32.toNat_ofNat', Nat.mod_eq_of_lt small]
  refine ⟨_, ?_, filled, _, described, rfl, ?_, ?_⟩
  · have located : (mapped.seek frames).stream.frameBytes = some (frames / (packetBytes / mapped.stream.blockAlign) % count,
        (if frames / (packetBytes / mapped.stream.blockAlign) % count = 0 then allocBytes packetBytes - packetBytes else 0) +
          frames % (packetBytes / mapped.stream.blockAlign) * mapped.stream.blockAlign) := by
      rw [← ringCount, ← ringOffset, ← ringBytes, RtStream.frameBytes]
      apply if_neg
      rw [← ringCount] at positive
      exact Nat.ne_of_gt positive
    rw [frameBytes, located, offset, Nat.add_assoc]
    exact congrArg (Option.bind · _) backed
  · rw [bytes]
    omega
  · rw [offset, bytes]
    split <;> omega

theorem Allocated.apart (allocated : Allocated pool count packetBytes packets mapped) (apart : pool.Apart count packetBytes)
    {block first second left right : Nat} (placed : Placed count packetBytes block packets first left)
    (other : Placed count packetBytes block packets second right)
    (different : first / (packetBytes / block) % count ≠ second / (packetBytes / block) % count) :
    left + block ≤ right ∨ right + block ≤ left := by
  obtain ⟨packet, found, address, inside, fits⟩ := placed.packet
  obtain ⟨another, also, otherAddress, otherInside, otherFits⟩ := other.packet
  obtain ⟨buffer, backed, described, _⟩ := allocated.packets _ (Nat.mod_lt (first / (packetBytes / block)) allocated.positive)
  obtain ⟨memory, held, told, _⟩ := allocated.packets _ (Nat.mod_lt (second / (packetBytes / block)) allocated.positive)
  rw [described] at found
  rw [told] at also
  cases found
  cases also
  have far := apart _ _ buffer memory (Nat.mod_lt _ allocated.positive) (Nat.mod_lt _ allocated.positive) different backed held
  simp only [describe] at address inside fits otherAddress otherInside otherFits
  omega

theorem Allocated.overlap_iff (allocated : Allocated pool count packetBytes packets mapped) (apart : pool.Apart count packetBytes)
    {block first second left right : Nat} (positive : 0 < block) (placed : Placed count packetBytes block packets first left)
    (other : Placed count packetBytes block packets second right) :
    (left < right + block ∧ right < left + block) ↔
      first % (packetBytes / block * count) = second % (packetBytes / block * count) := by
  constructor
  · rintro ⟨before, after⟩
    have index : first / (packetBytes / block) % count = second / (packetBytes / block) % count := by
      by_contra different
      have far := allocated.apart apart placed other different
      omega
    have same := placed.same other index
    have offset : first % (packetBytes / block) = second % (packetBytes / block) := by
      apply Nat.le_antisymm
      · apply Nat.le_of_lt_succ
        apply @Nat.lt_of_mul_lt_mul_right block
        rw [Nat.succ_mul]
        omega
      · apply Nat.le_of_lt_succ
        apply @Nat.lt_of_mul_lt_mul_right block
        rw [Nat.succ_mul]
        omega
    rw [Nat.mod_mul, Nat.mod_mul, index, offset]
  · intro congruent
    have offset := congrArg (· % (packetBytes / block)) congruent
    have index := congrArg (· / (packetBytes / block)) congruent
    simp only [Nat.mod_mul_right_mod, Nat.mod_mul_right_div_self] at offset index
    have same := placed.same other index
    rw [offset] at same
    omega

end Mapped

/-- In the ring that an allocation made, the bytes of every frame lie in the
packet it counts for, where the client was told; frames share bytes only a whole
ring apart. A failed allocation and freeing leave no place for any frame. -/
theorem frames_land_in_packets {before : Mapped} (container : before.stream.containerBytes = 2 ∨ before.stream.containerBytes = 4)
    (pool : Pool) (count : Nat) {packetBytes : Nat} (small : packetBytes < 2 ^ 32) (apart : pool.Apart count packetBytes) :
    (∀ packets after, before.allocatePackets pool count packetBytes = (.ok packets, after) →
      packets.length = count ∧
      (∀ frames, ∃ address, (after.seek frames).frameBytes = some address ∧
        Placed count packetBytes after.stream.blockAlign packets frames address) ∧
      (∀ frames address, (after.seek frames).frameBytes = some address →
        (frames + 1) % (packetBytes / after.stream.blockAlign) ≠ 0 →
          (after.seek (frames + 1)).frameBytes = some (address + after.stream.blockAlign)) ∧
      ∀ first second left right, (after.seek first).frameBytes = some left → (after.seek second).frameBytes = some right →
        ((left < right + after.stream.blockAlign ∧ right < left + after.stream.blockAlign) ↔
          first % (packetBytes / after.stream.blockAlign * count) = second % (packetBytes / after.stream.blockAlign * count))) ∧
    (∀ status after frames, before.allocatePackets pool count packetBytes = (.error status, after) →
      0 < count → count ≤ maxPackets → 0 < packetBytes → packetBytes % before.stream.blockAlign = 0 → pool.described = true →
        (after.seek frames).frameBytes = none) ∧
    ∀ freed frames, ((before.freePackets freed).seek frames).frameBytes = none := by
  have empty : ∀ (mapped : Mapped) (frames : Nat), mapped.stream.ring.count = 0 → (mapped.seek frames).frameBytes = none := by
    intro mapped frames none
    have lost : (mapped.seek frames).stream.frameBytes = .none := RtStream.frameBytes_eq_none.mpr none
    rw [Mapped.frameBytes, lost]
    rfl
  refine ⟨?_, ?_, fun freed frames => empty _ frames rfl⟩
  · intro packets after done
    obtain ⟨allocated, same⟩ := Mapped.allocatePackets_ok done
    have block : 0 < after.stream.blockAlign := by
      rw [RtStream.blockAlign, same]
      omega
    have place := allocated.placed block small
    have unique : ∀ frames address, (after.seek frames).frameBytes = some address →
        Placed count packetBytes after.stream.blockAlign packets frames address := by
      intro frames address found
      obtain ⟨other, also, placed⟩ := place frames
      rw [found] at also
      cases also
      exact placed
    refine ⟨allocated.length, place, ?_, ?_⟩
    · intro frames address found goesOn
      obtain ⟨other, next, placed⟩ := place (frames + 1)
      have quotient := Nat.succ_div_of_mod_ne_zero goesOn
      have before := Nat.div_add_mod frames (packetBytes / after.stream.blockAlign)
      have following := Nat.div_add_mod (frames + 1) (packetBytes / after.stream.blockAlign)
      rw [quotient] at following
      have offset : (frames + 1) % (packetBytes / after.stream.blockAlign) =
          frames % (packetBytes / after.stream.blockAlign) + 1 := by
        omega
      have same := (unique frames address found).same placed (by rw [quotient])
      rw [offset, Nat.succ_mul] at same
      rw [next]
      congr 1
      omega
    · intro first second left right found also
      exact allocated.overlap_iff apart block (unique first left found) (unique second right also)
  · intro status after frames failed some few size whole described
    rcases Mapped.allocatePackets_error failed with refused | full | none
    · omega
    · rw [described] at full
      cases full
    · exact empty after frames none

def twoPagesEach : Pool := ⟨true, fun index => some (2 ^ 16 + 8192 * index), fun _ => true⟩

/-- Three packets of 1500 frames: the first ends on a page boundary. -/
theorem frames_land_in_packets_three :
    ∃ packets after, Mapped.allocatePackets ⟨.new .output12 .hz44100 16, fun _ => none⟩ twoPagesEach 3 6000 = (.ok packets, after) ∧
      packets.length = 3 ∧ (after.seek 1499).frameBytes = some (2 ^ 16 + 8192 - 4) ∧
      (after.seek 1500).frameBytes = some (2 ^ 16 + 8192) ∧ ∀ frames, (after.seek frames).frameBytes.isSome := by
  have apart : twoPagesEach.Apart 3 6000 := by
    intro first second left right _ _ different found also
    cases found
    cases also
    have pages : allocBytes 6000 = 8192 := rfl
    omega
  obtain ⟨length, places, _⟩ := (@frames_land_in_packets ⟨.new .output12 .hz44100 16, fun _ => none⟩ (.inl rfl)
    twoPagesEach 3 6000 (by decide) apart).1 _ _ rfl
  refine ⟨_, _, rfl, length, rfl, rfl, fun frames => ?_⟩
  obtain ⟨address, found, _⟩ := places frames
  exact Option.isSome_of_eq_some found

end Ak1Driver.Driver
