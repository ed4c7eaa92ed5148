import MachineManager.Lib.Newest
import MachineManager.Nv.Types

/-!
# Rotated regions

A region is a run of 4 KB sectors that holds one record. `readRecord` returns the record of the
newest sector whose checksum is right; `writeRecord` scans the eight-byte headers only, and writes
over a sector without the magic or else over the one with the lowest sequence number. The checksum
is the parameter `crc`.
-/

namespace Nv

open Buffer

def SECTOR_SIZE : Nat := 4096

def CRC_OFFSET : Nat := SECTOR_SIZE - 4

/-! ### The block device -/

/-- The bytes of a block device. -/
structure BlockDevice where
  size : Nat
  data : Buffer size

inductive BlockError
  | io
  | outOfBounds (offset len size : Nat)
deriving DecidableEq

namespace BlockDevice

def read (dev : BlockDevice) (offset len : Nat) : Except BlockError (Buffer len) :=
  if offset + len > dev.size then .error (.outOfBounds offset len dev.size)
  else .ok (slice dev.data offset len)

def store (dev : BlockDevice) (offset : Nat) {m : Nat} (src : Buffer m) : BlockDevice :=
  { dev with data := put dev.data offset src }

def write (dev : BlockDevice) (offset : Nat) {m : Nat} (src : Buffer m) :
    Except BlockError BlockDevice :=
  if offset + m > dev.size then .error (.outOfBounds offset m dev.size)
  else .ok (dev.store offset src)

variable {dev : BlockDevice} {offset : Nat}

theorem read_of_le {len : Nat} (h : offset + len ≤ dev.size) :
  dev.read offset len = .ok (slice dev.data offset len)
  := if_neg (Nat.not_lt.mpr h)

theorem write_of_le {m : Nat} (src : Buffer m) (h : offset + m ≤ dev.size) :
  dev.write offset src = .ok (dev.store offset src)
  := if_neg (Nat.not_lt.mpr h)

end BlockDevice

/-! ### Reading -/

section

variable (crc : List UInt8 → UInt32) {T : Type} [NvRecord T]

/-- The checksum in the last four bytes is that of the bytes before it. -/
def crcHolds (buf : Buffer SECTOR_SIZE) : Bool :=
  getU32 buf CRC_OFFSET == crc (slice buf 0 CRC_OFFSET).toList

/-- The record of a sector whose magic and checksum are right. -/
def decodeSector (buf : Buffer SECTOR_SIZE) : Option T :=
  if getU32 buf 0 ≠ NvRecord.magic T then none
  else if !crcHolds crc buf then none
  else deserialize buf

/-- The record of the `i`-th sector of the region at `offset`, if the sector can be read. -/
def sectorRecord (dev : BlockDevice) (offset i : Nat) : Option T :=
  match dev.read (offset + i * SECTOR_SIZE) SECTOR_SIZE with
  | .error _ => none
  | .ok buf => decodeSector crc buf

/-- The latest valid record of a region. -/
def readRecord (dev : BlockDevice) (offset numSectors : Nat) : Option T :=
  newest (sectorRecord crc dev offset) (fun r : T => (writeSeq r).toNat) (List.range numSectors)

/-! ### Writing -/

/-- What the header of a sector says: it cannot be read, it has another magic, or it carries the
magic and a sequence number. -/
inductive SectorHeader
  | unreadable
  | empty
  | live (seq : UInt32)
deriving DecidableEq

/-- The first eight bytes of the `i`-th sector, read for records of type `T`. -/
def sectorHeader (T : Type) [NvRecord T] (dev : BlockDevice) (offset i : Nat) : SectorHeader :=
  match dev.read (offset + i * SECTOR_SIZE) 8 with
  | .error _ => .unreadable
  | .ok header =>
    if getU32 header 0 ≠ NvRecord.magic T then .empty else .live (getU32 header 4)

/-- The local variables of the header scan. -/
structure Scan where
  maxSeq : UInt32 := 0
  minSeq : UInt32 := 0xFFFFFFFF
  minIdx : Nat := 0
  emptyIdx : Option Nat := none
deriving DecidableEq

/-- One turn of the header scan. -/
def Scan.step (header : Nat → SectorHeader) (s : Scan) (i : Nat) : Scan :=
  match header i with
  | .unreadable => s
  | .empty => { s with emptyIdx := if s.emptyIdx.isNone then some i else s.emptyIdx }
  | .live seq =>
    { s with
      maxSeq := if seq > s.maxSeq then seq else s.maxSeq
      minSeq := if seq < s.minSeq then seq else s.minSeq
      minIdx := if seq < s.minSeq then i else s.minIdx }

def scan (header : Nat → SectorHeader) (n : Nat) : Scan :=
  (List.range n).foldl (Scan.step header) {}

/-- The sector that is written over. -/
def Scan.targetIdx (s : Scan) : Nat :=
  s.emptyIdx.getD s.minIdx

def Scan.newSeq (s : Scan) : UInt32 :=
  s.maxSeq + 1

/-- The sector of a record: the record, zero padding and the checksum. -/
def sectorImage (r : T) : Buffer SECTOR_SIZE :=
  let sector := serialize r (zeros SECTOR_SIZE)
  putU32 sector CRC_OFFSET (crc (slice sector 0 CRC_OFFSET).toList)

def writeScan (T : Type) [NvRecord T] (dev : BlockDevice) (offset numSectors : Nat) : Scan :=
  scan (sectorHeader T dev offset) numSectors

/-- The record as it goes into the sector, with the sequence number it was given. -/
def stamped (dev : BlockDevice) (offset numSectors : Nat) (r : T) : T :=
  setWriteSeq r (writeScan T dev offset numSectors).newSeq

def targetOffset (T : Type) [NvRecord T] (dev : BlockDevice) (offset numSectors : Nat) : Nat :=
  offset + (writeScan T dev offset numSectors).targetIdx * SECTOR_SIZE

/-- Write a record to the next sector of a region; the record comes back with its new sequence
number. -/
def writeRecord (dev : BlockDevice) (offset numSectors : Nat) (r : T) :
    Except BlockError (BlockDevice × T) := do
  let r := stamped dev offset numSectors r
  let dev ← dev.write (targetOffset T dev offset numSectors) (sectorImage crc r)
  return (dev, r)

/-- A write that power loss cuts when the first `k` bytes of its sector have landed. -/
def cutRecord (dev : BlockDevice) (offset numSectors : Nat) (r : T) (k : Nat) :
    Except BlockError BlockDevice := do
  let target := targetOffset T dev offset numSectors
  let old ← dev.read target SECTOR_SIZE
  dev.write target (splice k (sectorImage crc (stamped dev offset numSectors r)) old)

end

/-! ### What the header scan finds -/

/-- The scan `s` of the first `n` headers: bounds on the sequence numbers, the first sector without
the magic, and the first sector with the lowest sequence number. -/
structure ScanSpec (header : Nat → SectorHeader) (n : Nat) (s : Scan) : Prop where
  le_maxSeq : ∀ i < n, ∀ q, header i = .live q → q ≤ s.maxSeq
  maxSeq_mem : s.maxSeq = 0 ∨ ∃ i < n, header i = .live s.maxSeq
  minSeq_le : ∀ i < n, ∀ q, header i = .live q → s.minSeq ≤ q
  emptyIdx_none : s.emptyIdx = none → ∀ i < n, header i ≠ .empty
  emptyIdx_some : ∀ e, s.emptyIdx = some e → e < n ∧ header e = .empty
  minIdx : s.minIdx = 0 ∧ s.minSeq = 0xFFFFFFFF ∨
    s.minIdx < n ∧ header s.minIdx = .live s.minSeq ∧ ∀ j < s.minIdx, ∀ q,
      header j = .live q → s.minSeq < q

variable {header : Nat → SectorHeader} {n i : Nat} {q : UInt32}

theorem Scan.step_spec {s : Scan} (h : ScanSpec header n s) :
  ScanSpec header (n + 1) (s.step header n)
  := by
  obtain ⟨hmax, hmem, hmin, hnone, hsome, hidx⟩ := h
  have old {P : Nat → Prop} (hP : ∀ i < n, P i) (hn : P n) : ∀ i < n + 1, P i := by
    intro i hi
    rcases Nat.lt_succ_iff_lt_or_eq.mp hi with hi | rfl
    · exact hP i hi
    · exact hn
  have idx {m : Nat} {q : UInt32} (h : m < n ∧ header m = .live q ∧
      ∀ j < m, ∀ q', header j = .live q' → q < q') : m < n + 1 ∧ header m = .live q ∧
      ∀ j < m, ∀ q', header j = .live q' → q < q' := ⟨by omega, h.2⟩
  have mem {q : UInt32} : (q = 0 ∨ ∃ i < n, header i = .live q) →
      q = 0 ∨ ∃ i < n + 1, header i = .live q :=
    Or.imp_right fun ⟨i, hi, hq⟩ => ⟨i, by omega, hq⟩
  cases hd : header n with
  | unreadable =>
    simp only [Scan.step, hd]
    exact ⟨old hmax (by simp [hd]), mem hmem, old hmin (by simp [hd]),
      fun e => old (hnone e) (by simp [hd]),
      fun e he => ⟨by have := hsome e he; omega, (hsome e he).2⟩, hidx.imp_right idx⟩
  | empty =>
    simp only [Scan.step, hd]
    refine ⟨old hmax (by simp [hd]), mem hmem, old hmin (by simp [hd]), ?_, ?_, hidx.imp_right idx⟩
    · intro he
      cases hs : s.emptyIdx <;> simp [hs] at he
    · intro e he
      cases hs : s.emptyIdx with
      | none =>
        obtain rfl : n = e := by simpa [hs] using he
        exact ⟨by omega, hd⟩
      | some e' =>
        obtain rfl : e' = e := by simpa [hs] using he
        have := hsome e' hs
        exact ⟨by omega, this.2⟩
  | live q =>
    simp only [Scan.step, hd]
    refine ⟨old ?_ ?_, ?_, old ?_ ?_, fun e => old (hnone e) (by simp [hd]),
      fun e he => ⟨by have := hsome e he; omega, (hsome e he).2⟩, ?_⟩
    · intro i hi q' hq'
      have := hmax i hi q' hq'
      split <;> grind
    · intro q' hq'
      obtain rfl : q = q' := by simpa [hd] using hq'
      split <;> grind
    · split
      · exact .inr ⟨n, by omega, hd⟩
      · exact mem hmem
    · intro i hi q' hq'
      have := hmin i hi q' hq'
      split <;> grind
    · intro q' hq'
      obtain rfl : q = q' := by simpa [hd] using hq'
      split <;> grind
    · by_cases hq : q < s.minSeq
      · simp only [hq, if_true]
        refine .inr ⟨by omega, hd, ?_⟩
        intro j hj q' hq'
        have := hmin j hj q' hq'
        grind
      · simp only [hq, if_false]
        exact hidx.imp_right idx

theorem scan_spec (header : Nat → SectorHeader) (n : Nat) :
  ScanSpec header n (scan header n)
  := by
  induction n with
  | zero => constructor <;> simp [scan]
  | succ n ih =>
    rw [scan, List.range_succ, List.foldl_append]
    exact Scan.step_spec ih

theorem scan_congr {header' : Nat → SectorHeader} (n : Nat) (h : ∀ i < n, header i = header' i) :
  scan header n = scan header' n
  := by
  induction n with
  | zero => rfl
  | succ n ih =>
    have before : scan header n = scan header' n := ih fun i hi => h i (by omega)
    rw [scan] at before
    rw [scan, scan, List.range_succ, List.foldl_append, List.foldl_append, before]
    simp only [List.foldl_cons, List.foldl_nil, Scan.step, h n (Nat.lt_succ_self n)]
    rfl

/-- Some sector other than `i`, which carries the sequence number `q`, comes before `i` in the order
in which a write looks for a sector to write over. -/
def Spared (header : Nat → SectorHeader) (n i : Nat) (q : UInt32) : Prop :=
  ∃ j < n, header j = .empty ∨ ∃ q', header j = .live q' ∧ (q' < q ∨ q' = q ∧ j < i)

theorem targetIdx_lt (header : Nat → SectorHeader) (h : 0 < n) :
  (scan header n).targetIdx < n
  := by
  have spec := scan_spec header n
  rw [Scan.targetIdx]
  cases he : (scan header n).emptyIdx with
  | some e => exact (spec.emptyIdx_some e he).1
  | none =>
    rcases spec.minIdx with ⟨h0, _⟩ | ⟨hlt, _⟩
    · rw [h0]
      exact h
    · exact hlt

/-- A spared sector is not written over. -/
theorem targetIdx_ne (hi : header i = .live q) (spared : Spared header n i q) :
  (scan header n).targetIdx ≠ i
  := by
  have spec := scan_spec header n
  obtain ⟨j, hj, hempty | ⟨q', hq', hlt⟩⟩ := spared
  · cases he : (scan header n).emptyIdx with
    | none => exact absurd hempty (spec.emptyIdx_none he j hj)
    | some e =>
      intro heq
      obtain rfl : e = i := by simpa [Scan.targetIdx, he] using heq
      rw [(spec.emptyIdx_some e he).2] at hi
      cases hi
  · intro heq
    cases he : (scan header n).emptyIdx with
    | some e =>
      obtain rfl : e = i := by simpa [Scan.targetIdx, he] using heq
      rw [(spec.emptyIdx_some e he).2] at hi
      cases hi
    | none =>
      have hmin := spec.minSeq_le j hj q' hq'
      obtain rfl : (scan header n).minIdx = i := by simpa [Scan.targetIdx, he] using heq
      rcases spec.minIdx with ⟨h0, _⟩ | ⟨_, hlive, hfirst⟩
      · rw [h0] at hlt
        grind
      · rw [hlive] at hi
        cases hi
        rcases hlt with hlt | ⟨rfl, hlt⟩
        · grind
        · have := hfirst j hlt _ hq'
          grind

/-- The sequence number given out is above every one in the headers, unless one of them is the last
there is. -/
theorem lt_newSeq (room : ∀ i < n, header i ≠ .live 0xFFFFFFFF) (hi : i < n)
    (hq : header i = .live q) :
  q < (scan header n).newSeq
  := by
  have spec := scan_spec header n
  have bound := spec.le_maxSeq i hi q hq
  have last : (scan header n).maxSeq ≠ 0xFFFFFFFF := by
    rcases spec.maxSeq_mem with h | ⟨j, hj, h⟩
    · rw [h]
      decide
    · intro heq
      exact room j hj (heq ▸ h)
  rw [Scan.newSeq]
  grind

end Nv
