import MachineManager.Nv.PowerLoss

/-!
# Rotated regions as variables

When every write completes, a region is a variable: reading returns the record that was written
last, under the sequence number that it was given. This holds also for a region that is only partly
on the device, and as long as the sequence numbers have not run out. A write to one region leaves
the others alone.
-/

open Nat

namespace Nv

open Buffer BlockDevice Region LawfulNvRecord

variable {dev : BlockDevice} {offset len m : Nat} {src : Buffer m}

theorem BlockDevice.read_store_of_disjoint {offset' : Nat}
    (apart : offset' + len ≤ offset ∨ offset + m ≤ offset') :
  (dev.store offset src).read offset' len = dev.read offset' len
  := by
  by_cases outside : offset' + len > dev.size
  · rw [read, read, if_pos outside]
    exact if_pos outside
  · have fits := Nat.le_of_not_lt outside
    have read : (dev.store offset src).read offset' len =
      .ok (slice (put dev.data offset src) offset' len) :=
      read_of_le fits
    rw [read_of_le fits, read, slice_put_of_disjoint _ _ apart]

theorem BlockDevice.read_store_inside {o : Nat} (fits : offset + m ≤ dev.size)
    (inside : o + len ≤ m) :
  (dev.store offset src).read (offset + o) len = .ok (slice src o len)
  := by
  have read : (dev.store offset src).read (offset + o) len =
    .ok (slice (put dev.data offset src) (offset + o) len) :=
    read_of_le (le_trans (by omega) fits)
  rw [read, ← slice_slice _ inside, slice_put_self _ _ fits]

theorem BlockDevice.read_store_self (fits : offset + m ≤ dev.size) :
  (dev.store offset src).read offset m = .ok src
  := by
  have read : (dev.store offset src).read offset m =
    .ok (slice (put dev.data offset src) offset m) :=
    read_of_le fits
  rw [read, slice_put_self _ _ fits]

section

variable {crc : List UInt8 → UInt32} {T : Type} [NvRecord T] {reg reg' : Region}
    {dev' : BlockDevice}
  {r r' : T}

def Region.targetAt (reg : Region) (T : Type) [NvRecord T] (dev : BlockDevice) : Nat :=
  reg.offset + reg.target T dev * SECTOR_SIZE

section

variable (ok : writeRecord crc dev reg.offset reg.numSectors r = .ok (dev', r'))
include ok

/-- A write that returns has written one sector of the region, and this sector is on the device. -/
theorem writeRecord_ok :
  r' = reg.stamp dev r ∧ reg.targetAt T dev + SECTOR_SIZE ≤ dev.size ∧
    dev' = dev.store (reg.targetAt T dev) (sectorImage crc (reg.stamp dev r))
  := by
  rw [writeRecord, write] at ok
  split at ok
  · cases ok
  next fits =>
    cases ok
    exact ⟨rfl, Nat.le_of_not_lt fits, rfl⟩

/-- Nothing differs but one sector of the region, which is on the device. -/
def Region.OneSector (reg : Region) (dev dev' : BlockDevice) : Prop :=
  dev'.size = dev.size ∧ ∃ off, reg.offset ≤ off ∧
    off + SECTOR_SIZE ≤ reg.offset + reg.numSectors * SECTOR_SIZE ∧ off + SECTOR_SIZE ≤ dev.size ∧
    ∀ i, i < off ∨ off + SECTOR_SIZE ≤ i → byte dev'.data i = byte dev.data i

theorem oneSector_of_write :
  reg.OneSector dev dev'
  := by
  obtain ⟨-, fits, rfl⟩ := writeRecord_ok ok
  have inside : (reg.target T dev + 1) * SECTOR_SIZE ≤ reg.numSectors * SECTOR_SIZE :=
    mul_le_mul_right SECTOR_SIZE (target_lt dev)
  rw [succ_mul] at inside
  refine ⟨rfl, reg.targetAt T dev, le_add_right _ _, ?_, fits, ?_⟩
  · rw [targetAt, add_assoc]
    exact Nat.add_le_add_left inside _
  · intro i outside
    apply byte_put_of_disjoint _ _ outside

end

variable {i j : Nat} {buf : Buffer SECTOR_SIZE}

section Other

variable {at' : Nat}
  (apart : offset + i * SECTOR_SIZE + SECTOR_SIZE ≤ at' ∨
    at' + SECTOR_SIZE ≤ offset + i * SECTOR_SIZE)

include apart

theorem sectorRecord_store_of_apart :
  (sectorRecord crc (dev.store at' buf) offset i : Option T) = sectorRecord crc dev offset i
  := by rw [sectorRecord, sectorRecord, read_store_of_disjoint apart]

theorem sectorHeader_store_of_apart :
  sectorHeader T (dev.store at' buf) offset i = sectorHeader T dev offset i
  := by
  have eight : 8 ≤ SECTOR_SIZE := by decide
  rw [sectorHeader, sectorHeader, read_store_of_disjoint (by omega)]

end Other

section Self

variable (fits : reg.offset + i * SECTOR_SIZE + SECTOR_SIZE ≤ dev.size)

include fits

theorem sectorRecord_store_self :
  (sectorRecord crc (dev.store (reg.offset + i * SECTOR_SIZE) buf) reg.offset i : Option T) =
    decodeSector crc buf
  := by rw [sectorRecord, read_store_self fits]

theorem sectorHeader_store_self :
  sectorHeader T (dev.store (reg.offset + i * SECTOR_SIZE) buf) reg.offset i = headerOf T buf
  := by
  have read : (dev.store _ buf).read _ 8 = .ok (slice buf 0 8) := read_store_inside fits (by decide)
  have window (o k : Nat) (h : o + k ≤ 8) : slice (slice buf 0 8) o k = slice buf o k := by
    rw [slice_slice _ h, zero_add]
  rw [add_zero] at read
  rw [sectorHeader, read]
  simp only [headerOf, getU32_congr (window 0 4 (by omega)), getU32_congr (window 4 4 (by omega))]

end Self

section Write

variable (ok : writeRecord crc dev reg.offset reg.numSectors r = .ok (dev', r'))

include ok

theorem sectorRecord_write (i : Nat) :
  (sectorRecord crc dev' reg.offset i : Option T) =
    if i = reg.target T dev then decodeSector crc (sectorImage crc (reg.stamp dev r))
    else sectorRecord crc dev reg.offset i
  := by
  obtain ⟨-, fits, rfl⟩ := writeRecord_ok ok
  split
  next here =>
    subst here
    apply sectorRecord_store_self fits
  next other => apply sectorRecord_store_of_apart (reg.sectors_apart other)

theorem sectorHeader_write (i : Nat) :
  sectorHeader T dev' reg.offset i =
    if i = reg.target T dev then headerOf T (sectorImage crc (reg.stamp dev r))
    else sectorHeader T dev reg.offset i
  := by
  obtain ⟨-, fits, rfl⟩ := writeRecord_ok ok
  split
  next here =>
    subst here
    apply sectorHeader_store_self fits
  next other => apply sectorHeader_store_of_apart (reg.sectors_apart other)

end Write

/-- A sector with a valid record shows its sequence number to the header scan, if not all of the
region is on the device either. -/
theorem sectorHeader_of_sectorRecord [LawfulNvRecord T] {c : T}
    (found : sectorRecord crc dev offset i = some c) :
  sectorHeader T dev offset i = .live (writeSeq c)
  := by
  rw [sectorRecord] at found
  split at found
  · cases found
  next buf read =>
    rw [BlockDevice.read] at read
    split at read
    · cases read
    next outside =>
      rw [← Except.ok.inj read] at found
      have fits := Nat.le_of_not_lt outside
      have eight : 8 ≤ SECTOR_SIZE := by decide
      have window (o k : Nat) (h : o + k ≤ 8) :
          slice (slice dev.data (offset + i * SECTOR_SIZE) 8) o k =
            slice (slice dev.data (offset + i * SECTOR_SIZE) SECTOR_SIZE) o k := by
        rw [slice_slice _ h, slice_slice _ (by omega)]
      have header := headerOf_of_decodeSector crc found
      rw [sectorHeader, read_of_le (by omega)]
      simp only [getU32_congr (window 0 4 (by omega)), getU32_congr (window 4 4 (by omega))]
      apply header

/-- While the last sequence number has not been given out, a write that returns leaves its record as
the newest. -/
theorem holdsNewest_of_write [LawfulNvRecord T]
    (unused : ∀ i < reg.numSectors, sectorHeader T dev reg.offset i ≠ .live 0xFFFFFFFF)
    (image : decodeSector crc (sectorImage crc (reg.stamp dev r)) = some (reg.stamp dev r))
    (ok : writeRecord crc dev reg.offset reg.numSectors r = .ok (dev', r')) :
  HoldsNewest crc reg dev' (reg.target T dev) (reg.stamp dev r)
  := by
  have seq : writeSeq (reg.stamp dev r) = (writeScan T dev reg.offset reg.numSectors).newSeq :=
    writeSeq_setWriteSeq r _
  refine ⟨target_lt dev, ?_, ?_⟩
  · rw [sectorRecord_write ok, if_pos rfl]
    apply image
  · intro j hj c found
    by_cases here : j = reg.target T dev
    · exact .inl here
    · rw [sectorRecord_write ok, if_neg here] at found
      have above := lt_newSeq unused hj (sectorHeader_of_sectorRecord found)
      right
      rw [seq]
      apply UInt32.lt_iff_toNat_lt.mp above

/-! ### What a region holds -/

variable (crc) in
/-- The region was written at most `k` times, and the last record was `v`. -/
structure Kept (reg : Region) (dev : BlockDevice) (k : Nat) (v : Option T) : Prop where
  bound : ∀ i < reg.numSectors, ∀ q, sectorHeader T dev reg.offset i = .live q → q.toNat ≤ k
  absent : v = none → ∀ i < reg.numSectors, (sectorRecord crc dev reg.offset i : Option T) = none
  newest : ∀ r, v = some r → ∃ i q, HoldsNewest crc reg dev i (setWriteSeq r q)

def Region.Apart (reg reg' : Region) : Prop :=
  reg.offset + reg.numSectors * SECTOR_SIZE ≤ reg'.offset ∨
    reg'.offset + reg'.numSectors * SECTOR_SIZE ≤ reg.offset

instance (reg reg' : Region) : Decidable (reg.Apart reg') :=
  inferInstanceAs (Decidable (_ ∨ _))

theorem Region.Apart.sector (apart : reg.Apart reg') (hi : i < reg.numSectors)
    (hj : j < reg'.numSectors) :
  reg.offset + i * SECTOR_SIZE + SECTOR_SIZE ≤ reg'.offset + j * SECTOR_SIZE ∨
    reg'.offset + j * SECTOR_SIZE + SECTOR_SIZE ≤ reg.offset + i * SECTOR_SIZE
  := by
  have before := mul_le_mul_right SECTOR_SIZE hi
  have before' := mul_le_mul_right SECTOR_SIZE hj
  rw [succ_mul] at before before'
  rcases apart with h | h <;> omega

theorem getU32_zeros (n off : Nat) :
  getU32 (zeros n) off = 0
  := by
  rw [getU32, slice_zeros]
  rfl

namespace Kept

variable {k : Nat} {v : Option T}

theorem read_none (kept : Kept crc reg dev k (none : Option T)) :
  (readRecord crc dev reg.offset reg.numSectors : Option T) = none
  := by
  apply newest_eq_none
  intro i mem
  apply kept.absent rfl i (List.mem_range.mp mem)

theorem read_some (kept : Kept crc reg dev k (some r)) :
  ∃ q, readRecord crc dev reg.offset reg.numSectors = some (setWriteSeq r q)
  := by
  obtain ⟨i, q, holds⟩ := kept.newest r rfl
  exact ⟨q, readRecord_of_holdsNewest holds⟩

/-- What is kept does not depend on the sequence number that a record came with. -/
theorem congr (kept : Kept crc reg dev k (some r))
    (same : ∀ q, setWriteSeq r q = setWriteSeq r' q) :
  Kept crc reg dev k (some r')
  := by
  refine ⟨kept.bound, nofun, ?_⟩
  rintro _ ⟨⟩
  obtain ⟨i, q, holds⟩ := kept.newest r rfl
  rw [same q] at holds
  exact ⟨i, q, holds⟩

/-- The region is written once more. -/
theorem write [LawfulNvRecord T] (kept : Kept crc reg dev k v) (room : k < 2 ^ 32 - 1)
    (round : RoundTrips r) (ok : writeRecord crc dev reg.offset reg.numSectors r = .ok (dev', r')) :
  Kept crc reg dev' (k + 1) (some r)
  := by
  have spec := scan_spec (sectorHeader T dev reg.offset) reg.numSectors
  have below : (writeScan T dev reg.offset reg.numSectors).maxSeq.toNat ≤ k := by
    rcases spec.maxSeq_mem with zero | ⟨i, hi, live⟩
    · rw [writeScan, zero]
      apply Nat.zero_le
    · apply kept.bound i hi _ live
  have given : (writeScan T dev reg.offset reg.numSectors).newSeq.toNat ≤ k + 1 := by
    rw [Scan.newSeq, UInt32.toNat_add]
    have := mod_le ((writeScan T dev reg.offset reg.numSectors).maxSeq.toNat + UInt32.toNat 1)
      (2 ^ 32)
    have one : UInt32.toNat 1 = 1 := rfl
    omega
  have unused : ∀ i < reg.numSectors, sectorHeader T dev reg.offset i ≠ .live 0xFFFFFFFF := by
    intro i hi last
    have := kept.bound i hi _ last
    have value : UInt32.toNat 0xFFFFFFFF = 2 ^ 32 - 1 := rfl
    omega
  have seq : writeSeq (reg.stamp dev r) = (writeScan T dev reg.offset reg.numSectors).newSeq :=
    writeSeq_setWriteSeq r _
  refine ⟨?_, by rintro ⟨⟩, ?_⟩
  · intro i hi q live
    rw [sectorHeader_write ok] at live
    split at live
    · rw [headerOf_sectorImage, seq] at live
      cases live
      apply given
    · have := kept.bound i hi q live
      omega
  · rintro _ ⟨⟩
    have image := decodeSector_sectorImage crc (roundTrips_setWriteSeq r
      (writeScan T dev reg.offset reg.numSectors).newSeq round)
    exact ⟨_, _, holdsNewest_of_write unused image ok⟩

/-- Another region is written. -/
theorem frame {U : Type} [NvRecord U] {u u' : U} (kept : Kept crc reg dev k v)
    (apart : reg.Apart reg')
    (ok : writeRecord crc dev reg'.offset reg'.numSectors u = .ok (dev', u')) :
  Kept crc reg dev' k v
  := by
  obtain ⟨-, -, rfl⟩ := writeRecord_ok ok
  have away {i : Nat} (hi : i < reg.numSectors) := apart.sector hi (target_lt (T := U) dev)
  refine ⟨?_, ?_, ?_⟩
  · intro i hi q live
    rw [targetAt, sectorHeader_store_of_apart (away hi)] at live
    apply kept.bound i hi q live
  · intro none i hi
    rw [targetAt, sectorRecord_store_of_apart (away hi)]
    apply kept.absent none i hi
  · intro r some
    obtain ⟨i, q, hi, found, above⟩ := kept.newest r some
    refine ⟨i, q, hi, (sectorRecord_store_of_apart (away hi)).trans found, ?_⟩
    intro j hj c other
    rw [targetAt, sectorRecord_store_of_apart (away hj)] at other
    apply above j hj c other

/-- Nothing was written to a device that is all zeros. -/
theorem zeroed (reg : Region) (size : Nat) (magic : NvRecord.magic T ≠ 0) :
  Kept crc reg { size, data := zeros size } 0 (none : Option T)
  := by
  have other (n : Nat) : getU32 (zeros n) 0 ≠ NvRecord.magic T := by
    rw [getU32_zeros]
    apply magic.symm
  refine ⟨?_, ?_, nofun⟩
  · intro i hi q live
    rw [sectorHeader, BlockDevice.read] at live
    split at live
    · cases live
    next header read =>
      split at read
      · cases read
      · rw [← Except.ok.inj read, slice_zeros, if_pos (other 8)] at live
        cases live
  · intro _ i hi
    rw [sectorRecord, BlockDevice.read]
    split
    · rfl
    next buf read =>
      split at read
      · cases read
      · rw [← Except.ok.inj read, slice_zeros, decodeSector, if_pos (other SECTOR_SIZE)]

end Kept

end

end Nv
