import MachineManager.Lib.Crc32
import MachineManager.Lib.Reachable
import MachineManager.Nv.Sector

/-!
# Power loss during a write

A region is written by calls that complete or are cut by a power loss when some part of their sector
has landed. The header scan and the checksum look at the region in different ways: a cut write
leaves a sector whose header may already carry a new sequence number while its checksum fails. As
long as every such cut finds another sector to write over than the one that holds the newest valid
record, that record survives.
-/

open Nat

namespace Nv

open Buffer Crc32 LawfulNvRecord NvRecord BlockDevice PlainNvRecord

/-- A region of at least two sectors. -/
structure Region where
  offset : Nat
  numSectors : Nat
  two_le : 2 ≤ numSectors

/-- The region lies on the device. -/
def Region.On (reg : Region) (dev : BlockDevice) : Prop :=
  reg.offset + reg.numSectors * SECTOR_SIZE ≤ dev.size

/-! ### The sectors of a region -/

variable {i : Nat} {reg : Region} {dev : BlockDevice}

section

variable (crc : List UInt8 → UInt32) {T : Type} [NvRecord T]

def Region.sector (reg : Region) (dev : BlockDevice) (i : Nat) : Buffer SECTOR_SIZE :=
  slice dev.data (reg.offset + i * SECTOR_SIZE) SECTOR_SIZE

def headerOf (T : Type) [NvRecord T] (buf : Buffer SECTOR_SIZE) : SectorHeader :=
  if getU32 buf 0 ≠ NvRecord.magic T then .empty else .live (getU32 buf 4)

theorem Region.sector_fits (on : reg.On dev) (hi : i < reg.numSectors) :
  reg.offset + i * SECTOR_SIZE + SECTOR_SIZE ≤ dev.size
  := by
  have : (i + 1) * SECTOR_SIZE ≤ reg.numSectors * SECTOR_SIZE := mul_le_mul_right _ hi
  rw [add_mul] at this
  rw [Region.On] at on
  omega

open Region

theorem sectorRecord_eq (on : reg.On dev) (hi : i < reg.numSectors) :
  (sectorRecord crc dev reg.offset i : Option T) = decodeSector crc (reg.sector dev i)
  := by
  rw [sectorRecord, read_of_le (sector_fits on hi)]
  rfl

theorem sectorHeader_eq (on : reg.On dev) (hi : i < reg.numSectors) :
  sectorHeader T dev reg.offset i = headerOf T (reg.sector dev i)
  := by
  have fits := sector_fits on hi
  have eight : 8 ≤ SECTOR_SIZE := by decide
  have window (o k : Nat) (h : o + k ≤ 8) :
      slice (slice dev.data (reg.offset + i * SECTOR_SIZE) 8) o k =
        slice (reg.sector dev i) o k := by
    rw [sector, slice_slice _ h, slice_slice _ (by omega)]
  rw [sectorHeader, read_of_le (by omega)]
  simp only [headerOf, getU32_congr (window 0 4 (by omega)), getU32_congr (window 4 4 (by omega))]

/-- The sectors of a region lie one after the other. -/
theorem Region.sectors_apart (reg : Region) {j : Nat} (h : i ≠ j) :
  reg.offset + i * SECTOR_SIZE + SECTOR_SIZE ≤ reg.offset + j * SECTOR_SIZE ∨
    reg.offset + j * SECTOR_SIZE + SECTOR_SIZE ≤ reg.offset + i * SECTOR_SIZE
  := by
  rcases lt_or_gt_of_ne h with h | h
  · have := mul_le_mul_right SECTOR_SIZE h
    rw [succ_mul] at this
    omega
  · have := mul_le_mul_right SECTOR_SIZE h
    rw [succ_mul] at this
    omega

/-- Writing over one sector leaves the others as they were. -/
theorem Region.sector_store (on : reg.On dev) {j : Nat} (hj : j < reg.numSectors)
    (buf : Buffer SECTOR_SIZE) (i : Nat) :
  reg.sector (dev.store (reg.offset + j * SECTOR_SIZE) buf) i = if i = j then buf
    else reg.sector dev i
  := by
  have fits := sector_fits on hj
  split
  next h =>
    subst h
    exact slice_put_self _ _ fits
  next h =>
    apply slice_put_of_disjoint
    exact reg.sectors_apart h

theorem Region.on_store (on : reg.On dev) (offset : Nat) (buf : Buffer SECTOR_SIZE) :
  reg.On (dev.store offset buf)
  := on

theorem slice_sectorImage (r : T) :
  slice (sectorImage crc r) 0 CRC_OFFSET = slice (serialize r (zeros SECTOR_SIZE)) 0 CRC_OFFSET
  := slice_put_of_disjoint _ _ (.inl (Nat.le_of_eq (Nat.zero_add _)))

theorem crcHolds_sectorImage (r : T) :
  crcHolds crc (sectorImage crc r) = true
  := by
  have stored : getU32 (sectorImage crc r) CRC_OFFSET =
      crc (slice (serialize r (zeros SECTOR_SIZE)) 0 CRC_OFFSET).toList :=
    getU32_put_leBytes _ _ (by decide)
  rw [crcHolds, stored, slice_sectorImage]
  exact beq_self_eq_true _

/-- Below the checksum a sector image is the serialised record. -/
theorem byte_sectorImage (r : T) (hi : i < CRC_OFFSET) :
  byte (sectorImage crc r) i = byte (serialize r (zeros SECTOR_SIZE)) i
  := byte_put_of_disjoint _ _ (.inl hi)

variable [LawfulNvRecord T] {r : T}

/-- A sector that holds a record shows its sequence number to the header scan. -/
theorem headerOf_of_decodeSector {buf : Buffer SECTOR_SIZE} (h : decodeSector crc buf = some r) :
  headerOf T buf = .live (writeSeq r)
  := by
  rw [decodeSector] at h
  split at h
  · cases h
  next magic =>
    split at h
    · cases h
    · rw [headerOf, if_neg magic, writeSeq_of_deserialize _ _ h]

theorem header_sectorImage (r : T) :
  getU32 (sectorImage crc r) 0 = magic T ∧ getU32 (sectorImage crc r) 4 = writeSeq r
  := by
  have window (o : Nat) (h : o + 4 ≤ 8) :
      slice (sectorImage crc r) o 4 = slice (serialize r (zeros SECTOR_SIZE)) o 4 :=
    slice_congr fun i _ hi => byte_sectorImage crc r (by rw [CRC_OFFSET, SECTOR_SIZE]; omega)
  rw [getU32_congr (window 0 (by omega)), getU32_congr (window 4 (by omega))]
  apply header_serialize
  have := size_le (T := T)
  rw [SECTOR_SIZE]
  omega

theorem headerOf_sectorImage (r : T) :
  headerOf T (sectorImage crc r) = .live (writeSeq r)
  := by
  obtain ⟨magic, seq⟩ := header_sectorImage crc r
  rw [headerOf, if_neg (not_not_intro magic), seq]

/-- A record that passes its own checks is read back from its sector. -/
theorem decodeSector_sectorImage (h : RoundTrips r) :
  decodeSector crc (sectorImage crc r) = some r
  := by
  have small : size T ≤ CRC_OFFSET := size_le
  have fits : size T ≤ SECTOR_SIZE := Nat.le_trans small (by decide)
  have read : (deserialize (sectorImage crc r) : Option T) =
    deserialize (serialize r (zeros SECTOR_SIZE)) :=
    deserialize_congr _ _ fits fits fun i hi =>
      byte_sectorImage crc r (Nat.lt_of_lt_of_le hi small)
  rw [decodeSector, if_neg (not_not_intro (header_sectorImage crc r).1), crcHolds_sectorImage, read]
  exact h _ fits

end

/-! ### Runs of completed and cut writes -/

/-- A write to a region: it completes, or power is lost when `k` bytes of its sector have landed. -/
inductive Write (T : Type)
  | completed (r : T)
  | cut (r : T) (k : Nat)

def Write.record {T : Type} : Write T → T
  | .completed r | .cut r _ => r

/-- The device, the record of the most recent completed write, and the records of the later writes
whose sector landed whole. -/
structure RegionState (T : Type) where
  dev : BlockDevice
  completed : Option T := none
  landed : List T := []

section

variable (crc : List UInt8 → UInt32) (reg : Region) {T : Type} [NvRecord T]

/-- The index of the sector that the next write goes to. -/
def Region.target (T : Type) [NvRecord T] (dev : BlockDevice) : Nat :=
  (writeScan T dev reg.offset reg.numSectors).targetIdx

def Region.stamp (dev : BlockDevice) (r : T) : T :=
  stamped dev reg.offset reg.numSectors r

/-- The checksum fails on a sector that mixes old and new bytes. -/
def MixFails (old new mix : Buffer SECTOR_SIZE) : Prop :=
  mix = old ∨ mix = new ∨ crcHolds crc mix = false

/-- One write to the region. A cut write is recorded as landed when its sector holds all the new
bytes. -/
inductive WriteStep : RegionState T → Write T → RegionState T → Prop
  | completed {s : RegionState T} {r r' : T} {dev : BlockDevice}
      (ok : writeRecord crc s.dev reg.offset reg.numSectors r = .ok (dev, r')) :
      WriteStep s (.completed r) { dev, completed := some r' }
  | cut {s : RegionState T} {r : T} {k : Nat} {dev : BlockDevice}
      (ok : cutRecord crc s.dev reg.offset reg.numSectors r k = .ok dev)
      (mixFails : MixFails crc (reg.sector s.dev (reg.target T s.dev))
        (sectorImage crc (reg.stamp s.dev r)) (reg.sector dev (reg.target T s.dev))) :
      WriteStep s (.cut r k)
        { s with
          dev
          landed :=
            if reg.sector dev (reg.target T s.dev) = sectorImage crc (reg.stamp s.dev r) then
              reg.stamp s.dev r :: s.landed
            else s.landed }

/-- Reading returns the most recent completed record, or one that landed whole after it. -/
def PowerLossSafe (s : RegionState T) : Prop :=
  s.completed.isSome → ∃ r : T, readRecord crc s.dev reg.offset reg.numSectors = some r ∧
    (s.completed = some r ∨ r ∈ s.landed)

/-- Sector `i` holds the valid record `r`, whose sequence number is above that of every other valid
record of the region. -/
def HoldsNewest (dev : BlockDevice) (i : Nat) (r : T) : Prop :=
  i < reg.numSectors ∧ sectorRecord crc dev reg.offset i = some r ∧
    ∀ j < reg.numSectors, ∀ c : T, sectorRecord crc dev reg.offset j = some c →
      j = i ∨ (writeSeq c).toNat < (writeSeq r).toNat

/-- The condition on a write under which the newest valid record survives: the record passes its own
checks, no header carries the last sequence number, and a cut that lands a proper part of its sector
finds a sector that comes before the one with the newest valid record. -/
structure SafeWrite (dev : BlockDevice) (w : Write T) : Prop where
  roundTrips : RoundTrips w.record
  room : ∀ i < reg.numSectors, sectorHeader T dev reg.offset i ≠ .live 0xFFFFFFFF
  spared : ∀ r k, w = .cut r k → 0 < k → k < SECTOR_SIZE → ∀ i (c : T),
    HoldsNewest crc reg dev i c →
    Spared (sectorHeader T dev reg.offset) reg.numSectors i (writeSeq c)

/-- The region lies on the device and nothing has been written to it yet, whatever it holds. -/
def RegionStart (s : RegionState T) : Prop :=
  reg.On s.dev ∧ s.completed = none ∧ s.landed = []

def WriteRun : RegionState T → Prop :=
  Reachable (RegionStart reg) fun s t => ∃ w, WriteStep crc reg s w t

/-- The states that writes under the condition `SafeWrite` lead to. -/
def SafeWriteRun : RegionState T → Prop :=
  Reachable (RegionStart reg) fun s t => ∃ w, SafeWrite crc reg s.dev w ∧ WriteStep crc reg s w t

/-! ### The newest record survives -/

variable {crc reg} {j : Nat} {r : T}

theorem readRecord_of_holdsNewest (h : HoldsNewest crc reg dev i r) :
  readRecord crc dev reg.offset reg.numSectors = some r
  := by
  obtain ⟨hi, hr, above⟩ := h
  refine newest_eq_some (List.mem_range.mpr hi) hr ?_
  intro j hj c hc
  exact above j (List.mem_range.mp hj) c hc

theorem Region.target_lt (dev : BlockDevice) :
  reg.target T dev < reg.numSectors
  := targetIdx_lt _ (Nat.lt_of_lt_of_le Nat.zero_lt_two reg.two_le)

theorem targetOffset_fits (on : reg.On dev) :
  targetOffset T dev reg.offset reg.numSectors + SECTOR_SIZE ≤ dev.size
  := Region.sector_fits on (Region.target_lt dev)

theorem writeRecord_eq (on : reg.On dev) (r : T) :
  writeRecord crc dev reg.offset reg.numSectors r =
    .ok (dev.store (reg.offset + reg.target T dev * SECTOR_SIZE)
      (sectorImage crc (reg.stamp dev r)), reg.stamp dev r)
  := by
  rw [writeRecord, write_of_le _ (targetOffset_fits on)]
  rfl

theorem cutRecord_eq (on : reg.On dev) (r : T) (k : Nat) :
  cutRecord crc dev reg.offset reg.numSectors r k =
    .ok (dev.store (reg.offset + reg.target T dev * SECTOR_SIZE)
      (splice k (sectorImage crc (reg.stamp dev r)) (reg.sector dev (reg.target T dev))))
  := by
  rw [cutRecord, read_of_le (targetOffset_fits on)]
  exact write_of_le _ (targetOffset_fits on)

theorem sectorRecord_store (on : reg.On dev) (hj : j < reg.numSectors) (buf : Buffer SECTOR_SIZE)
    (hi : i < reg.numSectors) :
  (sectorRecord crc (dev.store (reg.offset + j * SECTOR_SIZE) buf) reg.offset i : Option T) =
    if i = j then decodeSector crc buf else sectorRecord crc dev reg.offset i
  := by
  rw [sectorRecord_eq crc (Region.on_store on _ _) hi, sectorRecord_eq crc on hi,
    Region.sector_store on hj]
  split <;> rfl

/-- A write that lands whole becomes the newest record. -/
theorem holdsNewest_of_image [LawfulNvRecord T] (on : reg.On dev) (round : RoundTrips r)
    (room : ∀ i < reg.numSectors, sectorHeader T dev reg.offset i ≠ .live 0xFFFFFFFF) :
  HoldsNewest crc reg
    (dev.store (reg.offset + reg.target T dev * SECTOR_SIZE) (sectorImage crc (reg.stamp dev r)))
    (reg.target T dev) (reg.stamp dev r)
  := by
  have ht : reg.target T dev < reg.numSectors := Region.target_lt dev
  refine ⟨ht, ?_, ?_⟩
  · rw [sectorRecord_store on ht _ ht, if_pos rfl]
    exact decodeSector_sectorImage crc (roundTrips_setWriteSeq r _ round)
  · intro j hj c hc
    by_cases hjt : j = reg.target T dev
    · exact .inl hjt
    · rw [sectorRecord_store on ht _ hj, if_neg hjt, sectorRecord_eq crc on hj] at hc
      have live : sectorHeader T dev reg.offset j = .live (writeSeq c) := by
        rw [sectorHeader_eq on hj]
        exact headerOf_of_decodeSector crc hc
      have seq : writeSeq (reg.stamp dev r) = (writeScan T dev reg.offset reg.numSectors).newSeq :=
        writeSeq_setWriteSeq r _
      rw [seq]
      exact .inr (UInt32.lt_iff_toNat_lt.mp (lt_newSeq room hj live))

variable {buf : Buffer SECTOR_SIZE}

/-- Spoiling another sector leaves the newest record in place. -/
theorem holdsNewest_of_spoiled (on : reg.On dev) (h : HoldsNewest crc reg dev i r)
    (hj : j < reg.numSectors) (hij : j ≠ i) (spoiled : (decodeSector crc buf : Option T) = none) :
  HoldsNewest crc reg (dev.store (reg.offset + j * SECTOR_SIZE) buf) i r
  := by
  obtain ⟨hi, hr, above⟩ := h
  refine ⟨hi, ?_, ?_⟩
  · rw [sectorRecord_store on hj _ hi, if_neg hij.symm]
    exact hr
  · intro k hk c hc
    rw [sectorRecord_store on hj _ hk] at hc
    split at hc
    · rw [spoiled] at hc
      cases hc
    · exact above k hk c hc

/-- Writing a sector over itself leaves the newest record in place. -/
theorem holdsNewest_of_same (on : reg.On dev) (h : HoldsNewest crc reg dev i r)
    (hj : j < reg.numSectors) :
  HoldsNewest crc reg (dev.store (reg.offset + j * SECTOR_SIZE) (reg.sector dev j)) i r
  := by
  have same (k : Nat) (hk : k < reg.numSectors) :
      (sectorRecord crc (dev.store (reg.offset + j * SECTOR_SIZE) (reg.sector dev j)) reg.offset k :
        Option T) = sectorRecord crc dev reg.offset k := by
    rw [sectorRecord_store on hj _ hk]
    split
    next hkj => rw [hkj, sectorRecord_eq crc on hj]
    next => rfl
  obtain ⟨hi, hr, above⟩ := h
  refine ⟨hi, by rw [same i hi, hr], ?_⟩
  intro k hk c hc
  rw [same k hk] at hc
  exact above k hk c hc

theorem decodeSector_of_crc_fails (h : crcHolds crc buf = false) :
  (decodeSector crc buf : Option T) = none
  := by
  rw [decodeSector, h]
  split <;> rfl

/-- A safe cut that does not land whole leaves the newest record in place. -/
theorem holdsNewest_of_cut [LawfulNvRecord T] (on : reg.On dev) {c : T} {k : Nat}
    (safe : SafeWrite crc reg dev (.cut r k)) (h : HoldsNewest crc reg dev i c)
    {mix : Buffer SECTOR_SIZE}
    (hmix : mix = splice k (sectorImage crc (reg.stamp dev r)) (reg.sector dev (reg.target T dev)))
    (mixFails : MixFails crc (reg.sector dev (reg.target T dev))
      (sectorImage crc (reg.stamp dev r)) mix) (torn : mix ≠ sectorImage crc (reg.stamp dev r)) :
  HoldsNewest crc reg (dev.store (reg.offset + reg.target T dev * SECTOR_SIZE) mix) i c
  := by
  have ht : reg.target T dev < reg.numSectors := Region.target_lt dev
  by_cases same : mix = reg.sector dev (reg.target T dev)
  · rw [same]
    exact holdsNewest_of_same on h ht
  · have fails : crcHolds crc mix = false := by
      rcases mixFails with h | h | h
      · exact absurd h same
      · exact absurd h torn
      · exact h
    have some_landed : 0 < k := by
      apply Nat.pos_of_ne_zero
      rintro rfl
      rw [splice_zero] at hmix
      exact same hmix
    have not_all_landed : k < SECTOR_SIZE := by
      by_contra hk
      rw [splice_of_le _ _ (Nat.not_lt.mp hk)] at hmix
      exact torn hmix
    have live : sectorHeader T dev reg.offset i = .live (writeSeq c) := by
      have hc := h.2.1
      rw [sectorRecord_eq crc on h.1] at hc
      rw [sectorHeader_eq on h.1]
      exact headerOf_of_decodeSector crc hc
    have elsewhere : reg.target T dev ≠ i :=
      targetIdx_ne live (safe.spared r k rfl some_landed not_all_landed i c h)
    exact holdsNewest_of_spoiled on h ht elsewhere (decodeSector_of_crc_fails fails)

/-- The invariant of safe writes: once a write has completed, some sector holds the newest record,
and that record is one that reading may return. -/
def NewestAllowed (crc : List UInt8 → UInt32) (reg : Region) (s : RegionState T) : Prop :=
  reg.On s.dev ∧ (s.completed.isSome → ∃ i r, HoldsNewest crc reg s.dev i r ∧
    (s.completed = some r ∨ r ∈ s.landed))

theorem newestAllowed_step [LawfulNvRecord T] {s t : RegionState T} {w : Write T}
    (inv : NewestAllowed crc reg s) (safe : SafeWrite crc reg s.dev w)
    (step : WriteStep crc reg s w t) :
  NewestAllowed crc reg t
  := by
  obtain ⟨on, newest⟩ := inv
  have ht : reg.target T s.dev < reg.numSectors := Region.target_lt s.dev
  cases step with
  | @completed _ _ _ ok =>
    rw [writeRecord_eq on] at ok
    cases ok
    exact ⟨on, fun _ => ⟨_, _, holdsNewest_of_image on safe.roundTrips safe.room, .inl rfl⟩⟩
  | @cut _ _ _ ok mixFails =>
    rw [cutRecord_eq on] at ok
    cases ok
    rw [Region.sector_store on ht, if_pos rfl] at mixFails
    refine ⟨on, ?_⟩
    intro done
    simp only [Region.sector_store on ht, if_true]
    split
    next whole =>
      rw [whole]
      exact ⟨_, _, holdsNewest_of_image on safe.roundTrips safe.room, .inr List.mem_cons_self⟩
    next torn =>
      obtain ⟨i, c, holds, allowed⟩ := newest done
      exact ⟨i, c, holdsNewest_of_cut on safe holds rfl mixFails torn, allowed⟩

/-- In every run of safe writes, completed or cut, reading returns the most recent completed record
or one that landed whole after it. -/
theorem powerLossSafe_of_safeWriteRun [LawfulNvRecord T] {s : RegionState T}
    (run : SafeWriteRun crc reg s) :
  PowerLossSafe crc reg s
  := by
  have inv : NewestAllowed crc reg s := by
    apply Reachable.invariant _ _ run
    · rintro s ⟨on, none, _⟩
      exact ⟨on, by simp [none]⟩
    · rintro s t inv ⟨w, safe, step⟩
      exact newestAllowed_step inv safe step
  intro done
  obtain ⟨i, r, holds, allowed⟩ := inv.2 done
  exact ⟨r, readRecord_of_holdsNewest holds, allowed⟩

end

/-! ### A record lost to two cuts

The first cut lands the header of its sector only. Its checksum now fails, but the sequence number
in it is the highest, so that the next write goes to the sector with the last valid record. -/

section

variable {T : Type} [NvRecord T] {k : Nat} {s : RegionState NvVehicle}
  {p : UInt32}

theorem headerOf_splice (hk : 8 ≤ k) (new old : Buffer SECTOR_SIZE) :
  headerOf T (splice k new old) = headerOf T new
  := by
  simp only [headerOf, getU32_congr (slice_splice_of_le new old (show 0 + 4 ≤ k by omega)),
    getU32_congr (slice_splice_of_le new old (show 4 + 4 ≤ k by omega))]

/-- The checksum fails when the new bytes that have landed leave another state than the old ones. -/
theorem crcHolds_splice (hk : k ≤ CRC_OFFSET) {new old : Buffer SECTOR_SIZE}
    (valid : crcHolds crc32 old = true)
    (differ : state (slice new 0 k).toList ≠ state (slice old 0 k).toList) :
  crcHolds crc32 (splice k new old) = false
  := by
  obtain ⟨j, hj⟩ := Nat.exists_eq_add_of_le hk
  have stored : getU32 (splice k new old) CRC_OFFSET = getU32 old CRC_OFFSET :=
    getU32_congr (slice_splice_of_ge new old hk)
  have landed : (slice (splice k new old) 0 CRC_OFFSET).toList =
      (slice new 0 k).toList ++ (slice old k j).toList := by
    rw [hj, toList_slice_add, Nat.zero_add, slice_splice_of_le new old (by omega),
      slice_splice_of_ge new old (Nat.le_refl k)]
  have before : (slice old 0 CRC_OFFSET).toList = (slice old 0 k).toList ++
    (slice old k j).toList := by
    rw [hj, toList_slice_add, Nat.zero_add]
  rw [crcHolds, beq_iff_eq, before] at valid
  rw [crcHolds, stored, landed, valid]
  exact beq_false_of_ne (crc32_append_ne _ differ).symm

/-- The first eight bytes of a sector image. -/
theorem toList_header_sectorImage [LawfulNvRecord T] (crc : List UInt8 → UInt32) (r : T) :
  (slice (sectorImage crc r) 0 8).toList =
    (leBytes 4 (magic T).toNat).toList ++ (leBytes 4 (writeSeq r).toNat).toList
  := by
  obtain ⟨magic, seq⟩ := header_sectorImage crc r
  rw [show 8 = 4 + 4 from rfl, toList_slice_add, ← leBytes_getU32, ← leBytes_getU32, magic, seq]

def twoSectors : Region := ⟨0, 2, Nat.le_refl 2⟩

def vehicle (q : UInt32) : NvVehicle := { writeSeq := q, vehicleEpoch := 7 }

def vehicleSector (q : UInt32) : Buffer SECTOR_SIZE :=
  sectorImage crc32 (vehicle q)

def HasSectors (dev : BlockDevice) (a b : Buffer SECTOR_SIZE) : Prop :=
  twoSectors.On dev ∧ twoSectors.sector dev 0 = a ∧ twoSectors.sector dev 1 = b

theorem headerOf_zeros :
  headerOf NvVehicle (zeros SECTOR_SIZE) = .empty
  := by
  have zero : getU32 (zeros SECTOR_SIZE) 0 = getU32 (zeros 4) 0 := getU32_congr (by simp)
  rw [headerOf, zero, if_pos (by decide)]

theorem headerOf_vehicleSector (q : UInt32) :
  headerOf NvVehicle (vehicleSector q) = .live q
  := headerOf_sectorImage crc32 (vehicle q)

variable {a b : Buffer SECTOR_SIZE} {ha hb : SectorHeader}

theorem HasSectors.header (h : HasSectors dev a b) (eqa : headerOf NvVehicle a = ha)
    (eqb : headerOf NvVehicle b = hb) (hi : i < 2) :
  sectorHeader NvVehicle dev 0 i = if i = 0 then ha else hb
  := by
  obtain ⟨on, rfl, rfl⟩ := h
  refine (sectorHeader_eq on hi).trans ?_
  obtain rfl | rfl : i = 0 ∨ i = 1 := by omega
  · exact eqa
  · exact eqb

theorem HasSectors.writeScan (h : HasSectors dev a b) (eqa : headerOf NvVehicle a = ha)
    (eqb : headerOf NvVehicle b = hb) :
  writeScan NvVehicle dev 0 2 = scan (fun i => if i = 0 then ha else hb) 2
  := scan_congr 2 fun _ hi => h.header eqa eqb hi

variable {j : Nat} {q : UInt32}

theorem HasSectors.store (h : HasSectors dev a b) (hj : j < 2) (buf : Buffer SECTOR_SIZE) :
  HasSectors (dev.store (0 + j * SECTOR_SIZE) buf) (if 0 = j then buf else a)
    (if 1 = j then buf else b)
  := by
  obtain ⟨on, rfl, rfl⟩ := h
  have sector := Region.sector_store on hj buf
  exact ⟨on, sector 0, sector 1⟩

section

variable (h : HasSectors s.dev a b) (found : (Nv.writeScan NvVehicle s.dev 0 2).targetIdx = j)
  (given : (Nv.writeScan NvVehicle s.dev 0 2).newSeq = q) (hj : j < 2)
include h found given hj

/-- A completed write of a vehicle record, where the scan finds sector `j` and gives out `q`. -/
theorem HasSectors.completed :
  ∃ t, WriteStep crc32 twoSectors s (.completed (vehicle 0)) t ∧
    t.completed = some (vehicle q) ∧ t.landed = [] ∧
    HasSectors t.dev (if 0 = j then vehicleSector q else a) (if 1 = j then vehicleSector q else b)
  := by
  have write : writeRecord crc32 s.dev 0 2 (vehicle 0) = _ := writeRecord_eq h.1 (vehicle 0)
  have stamp : twoSectors.stamp s.dev (vehicle 0) = vehicle q := by rw [← given]; rfl
  have target : twoSectors.target NvVehicle s.dev = j := found
  rw [stamp, target] at write
  exact ⟨_, .completed write, rfl, rfl, h.store hj (vehicleSector q)⟩

/-- A write of a vehicle record that is cut when the header of its sector has landed. -/
theorem HasSectors.cut
    (fails : crcHolds crc32 (splice 8 (vehicleSector q) (twoSectors.sector s.dev j)) = false) :
  ∃ t, WriteStep crc32 twoSectors s (.cut (vehicle 0) 8) t ∧ t.completed = s.completed ∧
    HasSectors t.dev (if 0 = j then splice 8 (vehicleSector q) (twoSectors.sector s.dev j) else a)
      (if 1 = j then splice 8 (vehicleSector q) (twoSectors.sector s.dev j) else b)
  := by
  have cut : cutRecord crc32 s.dev 0 2 (vehicle 0) 8 = _ := cutRecord_eq h.1 (vehicle 0) 8
  have stamp : twoSectors.stamp s.dev (vehicle 0) = vehicle q := by rw [← given]; rfl
  have target : twoSectors.target NvVehicle s.dev = j := found
  rw [stamp, target] at cut
  refine ⟨_, .cut cut ?_, rfl, h.store hj _⟩
  rw [target, stamp]
  refine .inr (.inr ?_)
  rw [Region.sector_store h.1 hj, if_pos rfl]
  exact fails

end

theorem crcHolds_vehicleSector_splice
    (differ : state ((leBytes 4 MAGIC_VEHICLE.toNat).toList ++ (leBytes 4 q.toNat).toList) ≠
      state ((leBytes 4 MAGIC_VEHICLE.toNat).toList ++ (leBytes 4 p.toNat).toList)) :
  crcHolds crc32 (splice 8 (vehicleSector q) (vehicleSector p)) = false
  := by
  apply crcHolds_splice (by decide) (crcHolds_sectorImage _ _)
  simp only [vehicleSector, toList_header_sectorImage]
  exact differ

theorem HasSectors.safe_completed (h : HasSectors dev a b) (eqa : headerOf NvVehicle a = ha)
    (eqb : headerOf NvVehicle b = hb) (rooma : ha ≠ .live 0xFFFFFFFF)
    (roomb : hb ≠ .live 0xFFFFFFFF) (r : NvVehicle) :
  SafeWrite crc32 twoSectors dev (.completed r)
  := by
  refine ⟨roundTrips r, ?_, ?_⟩
  · intro i hi
    have header : sectorHeader NvVehicle dev twoSectors.offset i = _ := h.header eqa eqb hi
    rw [header]
    split
    · exact rooma
    · exact roomb
  · rintro _ _ ⟨⟩

/-- With two valid records the older one can be written over. -/
theorem HasSectors.safe_cut (h : HasSectors dev (vehicleSector p) (vehicleSector q)) (hpq : p < q)
    (hq : q ≠ 0xFFFFFFFF) (r : NvVehicle) (k : Nat) :
  SafeWrite crc32 twoSectors dev (.cut r k)
  := by
  have hp : p ≠ 0xFFFFFFFF := by grind
  have header {i : Nat} (hi : i < 2) :=
    h.header (headerOf_vehicleSector p) (headerOf_vehicleSector q) hi
  have room := (h.safe_completed (headerOf_vehicleSector p) (headerOf_vehicleSector q)
    (by simp [hp]) (by simp [hq]) r).room
  have second : sectorRecord crc32 dev twoSectors.offset 1 = some (vehicle q) := by
    rw [sectorRecord_eq _ h.1 (by decide), h.2.2]
    exact decodeSector_sectorImage _ (roundTrips _)
  refine ⟨roundTrips r, room, ?_⟩
  rintro _ _ - - - i c ⟨hi, hc, above⟩
  have live : sectorHeader NvVehicle dev twoSectors.offset i = .live (writeSeq c) := by
    rw [sectorRecord_eq _ h.1 hi] at hc
    rw [sectorHeader_eq h.1 hi]
    exact headerOf_of_decodeSector _ hc
  obtain rfl | hlt := above 1 (by decide) _ second
  · refine ⟨0, by decide, .inr ⟨p, header (by decide), .inl ?_⟩⟩
    have : writeSeq c = q := by
      have := live.symm.trans (header (by decide))
      simpa using this
    rwa [this]
  · exfalso
    obtain rfl | rfl : i = 0 ∨ i = 1 := by have : i < 2 := hi; omega
    · have : writeSeq c = p := by
        have := live.symm.trans (header (by decide))
        simpa using this
      rw [this] at hlt
      exact absurd (UInt32.lt_iff_toNat_lt.mpr hlt) (by simp only [vehicle, writeSeq]; grind)
    · rw [hc] at second
      cases second
      omega

/-- Two writes complete, and the next one is cut when its header has landed. -/
theorem one_cut_run :
  ∃ s : RegionState NvVehicle, SafeWriteRun crc32 twoSectors s ∧ s.completed = some (vehicle 2) ∧
    HasSectors s.dev (splice 8 (vehicleSector 3) (vehicleSector 1)) (vehicleSector 2)
  := by
  let s₀ : RegionState NvVehicle := { dev := ⟨8192, zeros 8192⟩ }
  have h₀ : HasSectors s₀.dev (zeros SECTOR_SIZE) (zeros SECTOR_SIZE) :=
    ⟨Nat.le_refl 8192, slice_zeros _ _ _, slice_zeros _ _ _⟩
  have w₀ := h₀.writeScan headerOf_zeros headerOf_zeros
  obtain ⟨_, step₁, -, -, h₁⟩ := h₀.completed (j := 0) (q := 1) (by rw [w₀]; rfl) (by rw [w₀]; rfl)
    (by decide)
  have w₁ := h₁.writeScan (headerOf_vehicleSector 1) headerOf_zeros
  obtain ⟨s₂, step₂, done₂, -, h₂⟩ := h₁.completed (j := 1) (q := 2) (by rw [w₁]; rfl)
    (by rw [w₁]; rfl) (by decide)
  have w₂ := h₂.writeScan (headerOf_vehicleSector 1) (headerOf_vehicleSector 2)
  obtain ⟨s₃, step₃, done₃, h₃⟩ := h₂.cut (j := 0) (q := 3) (by rw [w₂]; rfl) (by rw [w₂]; rfl)
    (by decide) (by
      rw [h₂.2.1]
      exact crcHolds_vehicleSector_splice (by decide +kernel))
  refine ⟨s₃, ?_, by rw [done₃, done₂], by rw [h₂.2.1] at h₃; exact h₃⟩
  have safe₀ := h₀.safe_completed headerOf_zeros headerOf_zeros (by decide) (by decide) (vehicle 0)
  have safe₁ := h₁.safe_completed (headerOf_vehicleSector 1) headerOf_zeros (by decide) (by decide)
    (vehicle 0)
  have safe₂ : SafeWrite crc32 twoSectors s₂.dev (.cut (vehicle 0) 8) :=
    HasSectors.safe_cut h₂ (by decide) (by decide) (vehicle 0) 8
  have start : SafeWriteRun crc32 twoSectors s₀ := .init ⟨h₀.1, rfl, rfl⟩
  exact .step (.step (.step start ⟨_, safe₀, step₁⟩) ⟨_, safe₁, step₂⟩) ⟨_, safe₂, step₃⟩

/-- After a single cut the completed record is still read. -/
theorem powerLossSafe_one_cut :
  ∃ s : RegionState NvVehicle, SafeWriteRun crc32 twoSectors s ∧
    s.completed = some (vehicle 2) ∧ PowerLossSafe crc32 twoSectors s
  := by
  obtain ⟨s, run, done, -⟩ := one_cut_run
  exact ⟨s, run, done, powerLossSafe_of_safeWriteRun run⟩

/-- After a second cut neither sector holds a valid record, and nothing is read although a write has
completed. -/
theorem record_lost_two_cuts :
  ∃ s : RegionState NvVehicle, WriteRun crc32 twoSectors s ∧ s.completed = some (vehicle 2) ∧
    (readRecord crc32 s.dev 0 2 : Option NvVehicle) = none ∧ ¬PowerLossSafe crc32 twoSectors s
  := by
  obtain ⟨s, run, done, h⟩ := one_cut_run
  have w := h.writeScan (headerOf_splice (by decide) _ _) (headerOf_vehicleSector 2)
  rw [headerOf_vehicleSector] at w
  have first : crcHolds crc32 (splice 8 (vehicleSector 3) (vehicleSector 1)) = false :=
    crcHolds_vehicleSector_splice (by decide +kernel)
  have second : crcHolds crc32 (splice 8 (vehicleSector 4) (vehicleSector 2)) = false :=
    crcHolds_vehicleSector_splice (by decide +kernel)
  obtain ⟨t, step, done', h'⟩ := h.cut (j := 1) (q := 4) (by rw [w]; rfl) (by rw [w]; rfl)
    (by decide) (by rw [h.2.2]; exact second)
  rw [h.2.2] at h'
  have none : (readRecord crc32 t.dev 0 2 : Option NvVehicle) = none := by
    apply newest_eq_none
    intro i hi
    have hi : i < 2 := List.mem_range.mp hi
    refine (sectorRecord_eq _ h'.1 hi).trans (decodeSector_of_crc_fails ?_)
    obtain rfl | rfl : i = 0 ∨ i = 1 := by omega
    · rw [h'.2.1]
      exact first
    · rw [h'.2.2]
      exact second
  have run' : WriteRun crc32 twoSectors s := run.mono fun _ _ ⟨w, _, step⟩ => ⟨w, step⟩
  refine ⟨t, .step run' ⟨_, step⟩, by rw [done', done], none, ?_⟩
  intro safe
  obtain ⟨r, read, -⟩ := safe (by rw [done', done]; rfl)
  rw [show readRecord _ _ twoSectors.offset twoSectors.numSectors = _ from none] at read
  cases read

end

end Nv
