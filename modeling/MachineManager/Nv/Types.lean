import MachineManager.Lib.Buffer

/-!
# NV records

The typed records of the NV store and their wire formats. Every record carries its magic at
`[0..4]` and its write sequence at `[4..8]`; the checksum is a matter of the sector and not part of
a record. `LawfulNvRecord` collects what the sector code relies on, and every record type of the
store is shown to be lawful.
-/

namespace Nv

open Buffer

/-- Which of the two banks of a bank set. -/
inductive Bank
  | A
  | B
deriving DecidableEq

namespace Bank

def other : Bank → Bank
  | A => B
  | B => A

def toU8 : Bank → UInt8
  | A => 0
  | B => 1

def fromU8 (v : UInt8) : Option Bank :=
  if v = 0 then some A else if v = 1 then some B else none

variable (b : Bank)

@[simp]
theorem other_other :
  b.other.other = b
  := by cases b <;> rfl

@[simp]
theorem other_ne :
  b.other ≠ b
  := by cases b <;> decide

/-- There are only two banks. -/
theorem other_eq_of_ne {b b' : Bank} (ne : b ≠ b') :
  b.other = b'
  := by cases b <;> cases b' <;> first | rfl | exact absurd rfl ne

@[simp]
theorem fromU8_toU8 :
  fromU8 b.toU8 = some b
  := by cases b <;> rfl

end Bank

/-- A bank set, a bare slot index. -/
structure BankSet where
  val : UInt8
deriving DecidableEq

/-- The array index of a slot. -/
def BankSet.asIndex (set : BankSet) : Nat :=
  set.val.toNat

/-- The capacity of the boot-state record and the width of the reboot-owed mask. -/
def MAX_SLOTS : Nat := 64

def MAX_TRIAL_BOOTS : UInt8 := 10

def MAGIC_BOOT : UInt32 := 0x4E564231
def MAGIC_FACTORY : UInt32 := 0x4E564631
def MAGIC_FW_META : UInt32 := 0x4E564D32
def MAGIC_RUNTIME : UInt32 := 0x4E565231
def MAGIC_APP : UInt32 := 0x4E564131
def MAGIC_VEHICLE : UInt32 := 0x4E565631
def MAGIC_UPDATE_SESSION : UInt32 := 0x4E565531

/-- A record that is serialised into a sector and read back from one. -/
class NvRecord (T : Type) where
  /-- The magic that opens a sector of this record. -/
  magic : UInt32
  /-- The serialised size, without the padding and the checksum of the sector. -/
  size : Nat
  /-- The write sequence of a record. -/
  writeSeq : T → UInt32
  /-- The record with another write sequence. -/
  setWriteSeq : T → UInt32 → T
  /-- Write the record into a buffer. -/
  serialize : T → {n : Nat} → Buffer n → Buffer n
  /-- Read a record from a buffer, or refuse it. -/
  deserialize : {n : Nat} → Buffer n → Option T

export NvRecord (writeSeq setWriteSeq serialize deserialize)

open NvRecord

/-- A record that passes its own checks: what is serialised is read back. -/
def RoundTrips {T : Type} [NvRecord T] (r : T) : Prop :=
  ∀ {n : Nat} (b : Buffer n), size T ≤ n → deserialize (serialize r b) = some r

/-- A record of plain fields, one after the other: every one of them is read back. -/
class PlainNvRecord (T : Type) [NvRecord T] : Prop where
  roundTrips : ∀ r : T, RoundTrips r := by
    intro r n b hn
    simp only [size] at hn
    simp (disch := omega) only [deserialize, serialize, putU32, putU64, putByte,
      Nat.not_lt.mpr hn, if_false,
      getU32_put_of_disjoint, getU32_put_leBytes, getU64_put_of_disjoint, getU64_put_leBytes,
      slice_put_of_disjoint, slice_put_self, byte_put_singleton]

/-- Windows below a bound in which all bytes are the same. -/
theorem slice_eq_of_bytes {n m size off k : Nat} {b : Buffer n} {c : Buffer m}
    (h : ∀ i < size, byte b i = byte c i) (hk : off + k ≤ size) :
  slice b off k = slice c off k
  := slice_congr fun i _ hi => h i (by omega)

/-- The laws of a record type: where its header stands, that it leaves room for the checksum, and
that only the bytes below its size are read. The laws of a plain record are all proved in
the same way. -/
class LawfulNvRecord (T : Type) [NvRecord T] : Prop where
  eight_le_size : 8 ≤ size T := by decide
  size_le : size T ≤ 4092 := by decide
  writeSeq_setWriteSeq : ∀ (r : T) (q : UInt32), writeSeq (setWriteSeq r q) = q := by
    intro r q
    rfl
  header_serialize : ∀ (r : T) {n : Nat} (b : Buffer n), size T ≤ n →
    getU32 (serialize r b) 0 = magic T ∧ getU32 (serialize r b) 4 = writeSeq r := by
    intro r n b hn
    simp only [size] at hn
    simp (disch := omega) only [serialize, putU32, putU64, putByte, getU32_put_of_disjoint,
      getU32_put_leBytes, magic, writeSeq, and_self]
  writeSeq_of_deserialize : ∀ {n : Nat} (b : Buffer n) (r : T),
    deserialize b = some r → writeSeq r = getU32 b 4 := by
    intro n b r h
    simp only [deserialize, Option.ite_none_left_eq_some] at h
    cases h.2
    rfl
  deserialize_congr : ∀ {n m : Nat} (b : Buffer n) (c : Buffer m), size T ≤ n →
    size T ≤ m → (∀ i < size T, byte b i = byte c i) →
    (deserialize b : Option T) = deserialize c := by
    intro n m b c hb hc h
    simp only [size] at h hb hc
    simp (disch := omega) only [deserialize, Nat.not_lt.mpr hb, Nat.not_lt.mpr hc, if_false, getU32,
      getU64, slice_eq_of_bytes h, h]
  roundTrips_setWriteSeq : ∀ (r : T) (q : UInt32), RoundTrips r → RoundTrips (setWriteSeq r q) := by
    intro r q _
    apply PlainNvRecord.roundTrips

/-! ### Boot state -/

/-- The boot state of one bank set. -/
structure BankBootState where
  activeBank : Bank := .A
  committed : Bool := true
  bootCount : UInt8 := 0
deriving DecidableEq, Inhabited

def BankBootState.wire (bs : BankBootState) : Buffer 3 :=
  #v[bs.activeBank.toU8, bs.committed.toUInt8, bs.bootCount]

def BankBootState.read {n : Nat} (buf : Buffer n) (off : Nat) : Option BankBootState := do
  let activeBank ← Bank.fromU8 (byte buf off)
  return { activeBank, committed := byte buf (off + 1) ≠ 0, bootCount := byte buf (off + 2) }

/-- The boot state of every slot the record can carry. -/
structure NvBootState where
  writeSeq : UInt32 := 0
  banks : Vector BankBootState MAX_SLOTS := Vector.replicate MAX_SLOTS {}
deriving DecidableEq

open BankBootState

instance : NvRecord NvBootState where
  magic := MAGIC_BOOT
  size := 8 + 3 * MAX_SLOTS
  writeSeq r := r.writeSeq
  setWriteSeq r q := { r with writeSeq := q }
  serialize r _ buf :=
    putCells (putU32 (putU32 buf 0 MAGIC_BOOT) 4 r.writeSeq) 8 fun i => r.banks[i].wire
  deserialize {n} buf := do
    guard (8 + 3 * MAX_SLOTS ≤ n)
    let banks ← Vector.ofFnM fun i => read buf (8 + i * 3)
    return { writeSeq := getU32 buf 4, banks }

variable {n off : Nat}

theorem BankBootState.read_congr {m : Nat} {b : Buffer n} {c : Buffer m} {off' : Nat}
    (h : ∀ i < 3, byte b (off + i) = byte c (off' + i)) :
  read b off = read c off'
  := by
  have h₀ := h 0 (by omega)
  simp only [Nat.add_zero] at h₀
  simp only [read, h₀, h 1 (by omega), h 2 (by omega)]

@[simp]
theorem BankBootState.read_wire (bs : BankBootState) :
  read bs.wire 0 = some bs
  := by
  obtain ⟨_, committed, _⟩ := bs
  cases committed <;> simp [read, wire, byte, Bool.toUInt8]

/-- The entry at `off` is decided by the window of three bytes there. -/
theorem BankBootState.read_of_slice {b : Buffer n} {bs : BankBootState}
    (h : slice b off 3 = bs.wire) :
  read b off = some bs
  := by
  rw [← read_wire bs, ← h]
  apply read_congr
  intro i hi
  simp [byte_slice, hi]

theorem NvBootState.roundTrips (r : NvBootState) :
  RoundTrips r
  := by
  intro n b hn
  simp only [size, MAX_SLOTS] at hn
  simp only [deserialize, serialize]
  have entry (i : Fin MAX_SLOTS) :
      read (putCells (putU32 (putU32 b 0 MAGIC_BOOT) 4 r.writeSeq) 8 fun i => r.banks[i].wire)
        (8 + i * 3) = pure r.banks[i] :=
    read_of_slice (slice_putCells _ _ (by simp only [MAX_SLOTS]; omega) i)
  have seq : getU32 (putCells (putU32 (putU32 b 0 MAGIC_BOOT) 4 r.writeSeq) 8
      fun i => r.banks[i].wire) 4 = r.writeSeq := by
    rw [getU32_congr (slice_putCells_of_disjoint _ _ (by omega))]
    exact getU32_put_leBytes _ _ (by omega)
  have fits : 8 + 3 * MAX_SLOTS ≤ n := hn
  simp only [entry, Vector.ofFnM_pure, seq, guard, fits, if_true]
  simp

instance : LawfulNvRecord NvBootState where
  header_serialize r n b hn := by
    simp only [size, MAX_SLOTS] at hn
    simp only [serialize]
    constructor
    · rw [getU32_congr (slice_putCells_of_disjoint _ _ (by omega)), putU32,
        getU32_put_of_disjoint _ _ (by omega)]
      exact getU32_put_leBytes _ _ (by omega)
    · rw [getU32_congr (slice_putCells_of_disjoint _ _ (by omega))]
      exact getU32_put_leBytes _ _ (by omega)
  writeSeq_of_deserialize b r h := by
    simp only [deserialize, Option.bind_eq_bind, Option.bind_eq_some_iff] at h
    obtain ⟨_, _, _, _, h⟩ := h
    cases h
    rfl
  deserialize_congr b c hb hc h := by
    have seq : getU32 b 4 = getU32 c 4 :=
      getU32_congr (slice_congr fun i _ hi => h i (by simp only [size, MAX_SLOTS]; omega))
    have entry (i : Fin MAX_SLOTS) :
        read b (8 + i * 3) = read c (8 + i * 3) := by
      apply read_congr
      intro j hj
      have := i.isLt
      exact h _ (by simp only [size, MAX_SLOTS] at *; omega)
    simp only [size] at hb hc
    simp only [deserialize, seq, entry, hb, hc]
  roundTrips_setWriteSeq r q _ := NvBootState.roundTrips _

/-! ### Factory data -/

/-- The write-once factory data. -/
structure NvFactory where
  writeSeq : UInt32 := 0
  serialNumber : Buffer 32 := zeros 32
  manufacturingDate : Buffer 8 := zeros 8
  vin : Buffer 17 := zeros 17
  ecuHwNumber : Buffer 32 := zeros 32
  supplierHwNumber : Buffer 32 := zeros 32
  supplierHwVersion : Buffer 32 := zeros 32
  supplierId : Buffer 32 := zeros 32
  deviceType : UInt8 := 0
deriving DecidableEq

instance : NvRecord NvFactory where
  magic := MAGIC_FACTORY
  size := 200
  writeSeq r := r.writeSeq
  setWriteSeq r q := { r with writeSeq := q }
  serialize r _ buf :=
    let buf := putU32 buf 0 MAGIC_FACTORY
    let buf := putU32 buf 4 r.writeSeq
    let buf := put buf 8 r.serialNumber
    let buf := put buf 40 r.manufacturingDate
    let buf := put buf 48 r.vin
    let buf := put buf 65 r.ecuHwNumber
    let buf := put buf 97 r.supplierHwNumber
    let buf := put buf 129 r.supplierHwVersion
    let buf := put buf 161 r.supplierId
    putByte buf 193 r.deviceType
  deserialize {n} buf :=
    if n < 200 then none
    else some
      { writeSeq := getU32 buf 4
        serialNumber := slice buf 8 32
        manufacturingDate := slice buf 40 8
        vin := slice buf 48 17
        ecuHwNumber := slice buf 65 32
        supplierHwNumber := slice buf 97 32
        supplierHwVersion := slice buf 129 32
        supplierId := slice buf 161 32
        deviceType := byte buf 193 }

instance : PlainNvRecord NvFactory where

instance : LawfulNvRecord NvFactory where

/-! ### Firmware metadata -/

/-- The boot and install state of one bank. -/
structure NvFwMeta where
  writeSeq : UInt32 := 0
  fwSeq : UInt32 := 0
  fwSecver : UInt32 := 0
  fwCrc : UInt32 := 0
  imageSha256 : Buffer 32 := zeros 32
  minSecurityVer : UInt32 := 0
  gen : UInt64 := 0
deriving DecidableEq

instance : NvRecord NvFwMeta where
  magic := MAGIC_FW_META
  size := 64
  writeSeq r := r.writeSeq
  setWriteSeq r q := { r with writeSeq := q }
  serialize r _ buf :=
    let buf := putU32 buf 0 MAGIC_FW_META
    let buf := putU32 buf 4 r.writeSeq
    let buf := putU32 buf 8 r.fwSeq
    let buf := putU32 buf 12 r.fwSecver
    let buf := putU32 buf 16 r.fwCrc
    let buf := put buf 20 r.imageSha256
    let buf := putU32 buf 52 r.minSecurityVer
    putU64 buf 56 r.gen
  deserialize {n} buf :=
    if n < 64 then none
    else some
      { writeSeq := getU32 buf 4
        fwSeq := getU32 buf 8
        fwSecver := getU32 buf 12
        fwCrc := getU32 buf 16
        imageSha256 := slice buf 20 32
        minSecurityVer := getU32 buf 52
        gen := getU64 buf 56 }

instance : PlainNvRecord NvFwMeta where

instance : LawfulNvRecord NvFwMeta where

/-! ### Runtime data -/

def MAX_DIDS : Nat := 20

/-- The capacity of the trouble codes. -/
def MAX_DTCS : Nat := 16

/-- A writable identifier. -/
structure DidEntry where
  did : UInt16 := 0
  len : UInt8 := 0
  data : Buffer 32 := zeros 32
deriving DecidableEq

def DidEntry.wire (e : DidEntry) : Buffer 35 :=
  put (putByte (putU16 (zeros 35) 0 e.did) 2 e.len) 3 e.data

def DidEntry.read {n : Nat} (buf : Buffer n) (off : Nat) : DidEntry :=
  { did := getU16 buf off, len := byte buf (off + 2), data := slice buf (off + 3) 32 }

/-- A trouble code. -/
structure DtcEntry where
  dtcNumber : UInt32 := 0
  status : UInt8 := 0
deriving DecidableEq

def DtcEntry.wire (e : DtcEntry) : Buffer 5 :=
  putByte (putU32 (zeros 5) 0 e.dtcNumber) 4 e.status

def DtcEntry.read {n : Nat} (buf : Buffer n) (off : Nat) : DtcEntry :=
  { dtcNumber := getU32 buf off, status := byte buf (off + 4) }

/-- The writable identifiers and trouble codes of one bank. -/
structure NvRuntime where
  writeSeq : UInt32 := 0
  didCount : UInt8 := 0
  dids : Vector DidEntry MAX_DIDS := Vector.replicate MAX_DIDS {}
  dtcCount : UInt8 := 0
  dtcs : Vector DtcEntry MAX_DTCS := Vector.replicate MAX_DTCS {}
deriving DecidableEq

variable (r : NvRuntime)

instance : NvRecord NvRuntime where
  magic := MAGIC_RUNTIME
  size := 792
  writeSeq r := r.writeSeq
  setWriteSeq r q := { r with writeSeq := q }
  serialize r _ buf :=
    let buf := putU32 buf 0 MAGIC_RUNTIME
    let buf := putU32 buf 4 r.writeSeq
    let buf := putByte buf 8 r.didCount
    let buf := putCells buf 9 fun i => r.dids[i].wire
    let buf := putByte buf 709 r.dtcCount
    putCells buf 710 fun i => r.dtcs[i].wire
  deserialize {n} buf :=
    if n < 792 then none
    else if MAX_DIDS < (byte buf 8).toNat then none
    else if MAX_DTCS < (byte buf 709).toNat then none
    else some
      { writeSeq := getU32 buf 4
        didCount := byte buf 8
        dids := Vector.ofFn fun i => DidEntry.read buf (9 + i * 35)
        dtcCount := byte buf 709
        dtcs := Vector.ofFn fun i => DtcEntry.read buf (710 + i * 5) }

theorem DidEntry.read_of_slice {b : Buffer n} {e : DidEntry} (h : slice b off 35 = e.wire) :
  DidEntry.read b off = e
  := by
  have window (o k : Nat) (hk : o + k ≤ 35) : slice b (off + o) k = slice e.wire o k := by
    rw [← h, slice_slice b hk]
  have did : getU16 b off = e.did := by
    apply getU16_of_slice
    rw [← Nat.add_zero off, window 0 2 (by omega)]
    simp (disch := omega) only [DidEntry.wire, putU16, putByte, slice_put_of_disjoint,
      slice_put_self]
  have len : byte b (off + 2) = e.len := by
    have := congrArg (fun w => byte w 2) h
    rw [byte_slice, if_pos (by omega)] at this
    rw [this]
    simp (disch := omega) only [DidEntry.wire, putByte, byte_put_of_disjoint, byte_put_singleton]
  have data : slice b (off + 3) 32 = e.data := by
    rw [window 3 32 (by omega), DidEntry.wire, slice_put_self _ _ (by omega)]
  rw [DidEntry.read, did, len, data]

theorem DtcEntry.read_of_slice {b : Buffer n} {e : DtcEntry} (h : slice b off 5 = e.wire) :
  DtcEntry.read b off = e
  := by
  have number : getU32 b off = e.dtcNumber := by
    apply getU32_of_slice
    rw [← Nat.add_zero off, ← slice_slice b (show 0 + 4 ≤ 5 by omega), h]
    simp (disch := omega) only [DtcEntry.wire, putU32, putByte, slice_put_of_disjoint,
      slice_put_self]
  have status : byte b (off + 4) = e.status := by
    have := congrArg (fun w => byte w 4) h
    rw [byte_slice, if_pos (by omega)] at this
    rw [this]
    simp (disch := omega) only [DtcEntry.wire, putByte, byte_put_singleton]
  rw [DtcEntry.read, number, status]

/-- The lists stand after the header. -/
theorem NvRuntime.getU32_serialize (b : Buffer n) (header : off + 4 ≤ 8) :
  getU32 (serialize r b) off = getU32 (putU32 (putU32 b 0 MAGIC_RUNTIME) 4 r.writeSeq) off
  := by
  simp only [serialize]
  rw [getU32_congr (slice_putCells_of_disjoint _ _ (by omega)), putByte,
    getU32_put_of_disjoint _ _ (by omega), getU32_congr (slice_putCells_of_disjoint _ _ (by omega)),
    putByte, getU32_put_of_disjoint _ _ (by omega)]

/-- The counts are what a runtime record is refused for. -/
theorem NvRuntime.deserialize_serialize (b : Buffer n) (hn : 792 ≤ n) :
  (deserialize (serialize r b) : Option NvRuntime) =
    if r.didCount.toNat ≤ MAX_DIDS ∧ r.dtcCount.toNat ≤ MAX_DTCS then some r else none
  := by
  have did (i : Fin MAX_DIDS) : DidEntry.read (serialize r b) (9 + i * 35) = r.dids[i] := by
    have hi := i.isLt
    simp only [MAX_DIDS] at hi
    apply DidEntry.read_of_slice
    simp only [serialize]
    rw [slice_putCells_of_disjoint _ _ (by omega), putByte, slice_put_of_disjoint _ _ (by omega)]
    exact slice_putCells _ _ (by simp only [MAX_DIDS]; omega) i
  have dtc (i : Fin MAX_DTCS) : DtcEntry.read (serialize r b) (710 + i * 5) = r.dtcs[i] := by
    apply DtcEntry.read_of_slice
    simp only [serialize]
    exact slice_putCells _ _ (by simp only [MAX_DTCS]; omega) i
  have seq : getU32 (serialize r b) 4 = r.writeSeq := by
    rw [getU32_serialize r b (by omega)]
    exact getU32_put_leBytes _ _ (by omega)
  have didCount : byte (serialize r b) 8 = r.didCount := by
    simp only [serialize]
    rw [byte_putCells_of_disjoint _ _ (by omega), putByte, byte_put_of_disjoint _ _ (by omega),
      byte_putCells_of_disjoint _ _ (by omega)]
    exact byte_put_singleton _ _ (by omega)
  have dtcCount : byte (serialize r b) 709 = r.dtcCount := by
    simp only [serialize]
    rw [byte_putCells_of_disjoint _ _ (by omega)]
    exact byte_put_singleton _ _ (by omega)
  have fits : ¬n < 792 := by omega
  simp only [deserialize, did, dtc, seq, didCount, dtcCount, fits, if_false]
  by_cases hd : r.didCount.toNat ≤ MAX_DIDS
  · by_cases ht : r.dtcCount.toNat ≤ MAX_DTCS
    · rw [if_neg (Nat.not_lt.mpr hd), if_neg (Nat.not_lt.mpr ht), if_pos ⟨hd, ht⟩]
      simp
    · rw [if_neg (Nat.not_lt.mpr hd), if_pos (Nat.not_le.mp ht), if_neg fun h => ht h.2]
  · rw [if_pos (Nat.not_le.mp hd), if_neg fun h => hd h.1]

/-- A runtime record passes its own checks exactly when its counts are within capacity. -/
theorem NvRuntime.roundTrips_iff :
  RoundTrips r ↔ r.didCount.toNat ≤ MAX_DIDS ∧ r.dtcCount.toNat ≤ MAX_DTCS
  := by
  constructor
  · intro h
    have read := h (zeros 792) (Nat.le_refl 792)
    rw [NvRuntime.deserialize_serialize r _ (Nat.le_refl 792)] at read
    by_contra hc
    simp [hc] at read
  · intro h n b hn
    rw [NvRuntime.deserialize_serialize r b hn, if_pos h]

instance : LawfulNvRecord NvRuntime where
  header_serialize r n b hn := by
    simp only [size] at hn
    rw [r.getU32_serialize b (by omega), r.getU32_serialize b (by omega)]
    constructor
    · rw [putU32, getU32_put_of_disjoint _ _ (by omega)]
      exact getU32_put_leBytes _ _ (by omega)
    · exact getU32_put_leBytes _ _ (by omega)
  writeSeq_of_deserialize b r h := by
    simp only [deserialize, Option.ite_none_left_eq_some] at h
    exact congrArg NvRuntime.writeSeq (Option.some.inj h.2.2.2).symm
  deserialize_congr b c hb hc h := by
    simp only [size] at h hb hc
    have did (i : Fin MAX_DIDS) : DidEntry.read b (9 + i * 35) = DidEntry.read c (9 + i * 35) := by
      have hi := i.isLt
      simp only [MAX_DIDS] at hi
      simp (disch := omega) only [DidEntry.read, getU16, slice_eq_of_bytes h, h]
    have dtc (i : Fin MAX_DTCS) : DtcEntry.read b (710 + i * 5) =
      DtcEntry.read c (710 + i * 5) := by
      have hi := i.isLt
      simp only [MAX_DTCS] at hi
      simp (disch := omega) only [DtcEntry.read, getU32, slice_eq_of_bytes h, h]
    simp (disch := omega) only [deserialize, Nat.not_lt.mpr hb, Nat.not_lt.mpr hc, if_false, getU32,
      slice_eq_of_bytes h, did, dtc, h]
  roundTrips_setWriteSeq r q h := by
    rw [NvRuntime.roundTrips_iff] at h ⊢
    exact h

/-! ### Application data -/

/-- The shared application data. -/
structure NvApp where
  writeSeq : UInt32 := 0
  data : Buffer 2048 := zeros 2048
deriving DecidableEq

instance : NvRecord NvApp where
  magic := MAGIC_APP
  size := 2060
  writeSeq r := r.writeSeq
  setWriteSeq r q := { r with writeSeq := q }
  serialize r _ buf :=
    let buf := putU32 buf 0 MAGIC_APP
    let buf := putU32 buf 4 r.writeSeq
    put buf 8 r.data
  deserialize {n} buf :=
    if n < 2060 then none
    else some
      { writeSeq := getU32 buf 4
        data := slice buf 8 2048 }

instance : PlainNvRecord NvApp where

instance : LawfulNvRecord NvApp where

/-! ### Vehicle state -/

/-- The vehicle-wide freshness epoch. The bytes `[16..24]` are reserved and stay zero. -/
structure NvVehicle where
  writeSeq : UInt32 := 0
  vehicleEpoch : UInt64 := 0
deriving DecidableEq

instance : NvRecord NvVehicle where
  magic := MAGIC_VEHICLE
  size := 24
  writeSeq r := r.writeSeq
  setWriteSeq r q := { r with writeSeq := q }
  serialize r _ buf :=
    let buf := putU32 buf 0 MAGIC_VEHICLE
    let buf := putU32 buf 4 r.writeSeq
    putU64 buf 8 r.vehicleEpoch
  deserialize {n} buf :=
    if n < 24 then none
    else some
      { writeSeq := getU32 buf 4
        vehicleEpoch := getU64 buf 8 }

instance : PlainNvRecord NvVehicle where

instance : LawfulNvRecord NvVehicle where

/-! ### Update session -/

/-- The node update transaction: its provenance, the bank sets that owe the node reboot, and the
node boot id at arming. -/
structure NvUpdateSession where
  writeSeq : UInt32 := 0
  sessionId : Buffer 32 := zeros 32
  rebootOwed : UInt64 := 0
  armedBootId : Buffer 16 := zeros 16
deriving DecidableEq

instance : NvRecord NvUpdateSession where
  magic := MAGIC_UPDATE_SESSION
  size := 64
  writeSeq r := r.writeSeq
  setWriteSeq r q := { r with writeSeq := q }
  serialize r _ buf :=
    let buf := putU32 buf 0 MAGIC_UPDATE_SESSION
    let buf := putU32 buf 4 r.writeSeq
    let buf := put buf 8 r.sessionId
    let buf := putU64 buf 40 r.rebootOwed
    put buf 48 r.armedBootId
  deserialize {n} buf :=
    if n < 64 then none
    else some
      { writeSeq := getU32 buf 4
        sessionId := slice buf 8 32
        rebootOwed := getU64 buf 40
        armedBootId := slice buf 48 16 }

instance : PlainNvRecord NvUpdateSession where

instance : LawfulNvRecord NvUpdateSession where

end Nv
