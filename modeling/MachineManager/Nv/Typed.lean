import MachineManager.Nv.Rotation
import MachineManager.Nv.Store

/-!
# The typed store on its device

The store over the bytes of a device: every record has a region of its own, the header records at
the start of the device and those of the slots behind them. It refines a map from keys to records: a
read returns what was written last under its key, apart from the sequence number. The entries of the
boot state that the store has no slots for read as the default.
-/

namespace Nv

open Buffer Call

def BOOT_OFFSET : Nat := 0x000000

def BOOT_SECTORS : Nat := 2

def FACTORY_OFFSET : Nat := 0x002000

def FACTORY_SECTORS : Nat := 2

def APP_OFFSET : Nat := 0x004000

def APP_SECTORS : Nat := 2

def VEHICLE_OFFSET : Nat := 0x006000

def VEHICLE_SECTORS : Nat := 2

def UPDATE_SESSION_OFFSET : Nat := 0x008000

def UPDATE_SESSION_SECTORS : Nat := 2

def FW_META_A_REL : Nat := 0x000000

def FW_META_B_REL : Nat := 0x004000

def FW_META_SECTORS : Nat := 4

def RUNTIME_A_REL : Nat := 0x008000

def RUNTIME_B_REL : Nat := 0x010000

def RUNTIME_SECTORS : Nat := 8

def fwMetaOffset (set : BankSet) (bank : Bank) : Nat :=
  banksetOffset set +
    match bank with
    | .A => FW_META_A_REL
    | .B => FW_META_B_REL

def runtimeOffset (set : BankSet) (bank : Bank) : Nat :=
  banksetOffset set +
    match bank with
    | .A => RUNTIME_A_REL
    | .B => RUNTIME_B_REL

/-! ### The store -/

/-- The device, and how many slots the store found room for when it was opened. -/
structure DeviceStore where
  dev : BlockDevice
  slotCount : Nat

namespace DeviceStore

def new (dev : BlockDevice) : DeviceStore where
  dev
  slotCount := min MAX_SLOTS ((dev.size - BANKSET_BASE) / BANKSET_STRIDE)

section

variable (crc : List UInt8 → UInt32) (st : DeviceStore)

def slotInRange (set : BankSet) : Bool :=
  set.asIndex < st.slotCount

/-- The error of a write to a slot that the store cannot address. -/
def outOfRange (set : BankSet) : BlockError :=
  .outOfBounds (banksetOffset set) BANKSET_STRIDE st.dev.size

/-- The boot state, with the entries past the store's own slots reset. -/
def resetPast (s : NvBootState) : NvBootState :=
  { s with banks := Vector.ofFn fun i => if i.val < st.slotCount then s.banks.get i else {} }

def readBootState : Option NvBootState :=
  (readRecord crc st.dev BOOT_OFFSET BOOT_SECTORS).map st.resetPast

def readFactory : Option NvFactory :=
  readRecord crc st.dev FACTORY_OFFSET FACTORY_SECTORS

def readApp : Option NvApp :=
  readRecord crc st.dev APP_OFFSET APP_SECTORS

def readVehicleState : Option NvVehicle :=
  readRecord crc st.dev VEHICLE_OFFSET VEHICLE_SECTORS

def readUpdateSession : Option NvUpdateSession :=
  readRecord crc st.dev UPDATE_SESSION_OFFSET UPDATE_SESSION_SECTORS

def readFwMeta (set : BankSet) (bank : Bank) : Option NvFwMeta :=
  if st.slotInRange set then readRecord crc st.dev (fwMetaOffset set bank) FW_META_SECTORS else none

def readRuntime (set : BankSet) (bank : Bank) : Option NvRuntime :=
  if st.slotInRange set then readRecord crc st.dev (runtimeOffset set bank) RUNTIME_SECTORS
    else none

end

section

variable (crc : List UInt8 → UInt32)

def put {T : Type} [NvRecord T] (offset numSectors : Nat)
    (r : T) : Call DeviceStore BlockError Unit :=
  fun st =>
    match writeRecord crc st.dev offset numSectors r with
    | .ok (dev, _) => (.ok (), { st with dev })
    | .error e => (.err e, st)

def putSlot {T : Type} [NvRecord T] (set : BankSet) (offset numSectors : Nat) (r : T) :
    Call DeviceStore BlockError Unit := do
  let st ← get
  if !st.slotInRange set then fail (st.outOfRange set) else put crc offset numSectors r

def writeBootState (state : NvBootState) : Call DeviceStore BlockError Unit :=
  put crc BOOT_OFFSET BOOT_SECTORS state

def writeFactory (factory : NvFactory) : Call DeviceStore BlockError Unit :=
  put crc FACTORY_OFFSET FACTORY_SECTORS factory

def writeApp (app : NvApp) : Call DeviceStore BlockError Unit :=
  put crc APP_OFFSET APP_SECTORS app

def writeVehicleState (vehicle : NvVehicle) : Call DeviceStore BlockError Unit :=
  put crc VEHICLE_OFFSET VEHICLE_SECTORS vehicle

def writeUpdateSession (session : NvUpdateSession) : Call DeviceStore BlockError Unit :=
  put crc UPDATE_SESSION_OFFSET UPDATE_SESSION_SECTORS session

def writeFwMeta (set : BankSet) (bank : Bank)
    (fwMeta : NvFwMeta) : Call DeviceStore BlockError Unit :=
  putSlot crc set (fwMetaOffset set bank) FW_META_SECTORS fwMeta

def writeRuntime (set : BankSet) (bank : Bank)
    (runtime : NvRuntime) : Call DeviceStore BlockError Unit :=
  putSlot crc set (runtimeOffset set bank) RUNTIME_SECTORS runtime

/-- Copy the runtime data of one bank to another; a source without any gives the default. -/
def copyRuntime (set : BankSet) (src dst : Bank) : Call DeviceStore BlockError Unit := do
  let st ← get
  match st.readRuntime crc set src with
  | none => writeRuntime crc set dst {}
  | some runtime => writeRuntime crc set dst runtime

end

end DeviceStore

/-! ### Keys -/

/-- What a record is stored under. -/
inductive Key
  | bootState
  | factory
  | app
  | vehicle
  | updateSession
  | fwMeta (set : BankSet) (bank : Bank)
  | runtime (set : BankSet) (bank : Bank)
deriving DecidableEq

variable {k : Key} {set : BankSet} {st' : DeviceStore}

namespace Key

def Value : Key → Type
  | bootState => NvBootState
  | factory => NvFactory
  | app => NvApp
  | vehicle => NvVehicle
  | updateSession => NvUpdateSession
  | fwMeta _ _ => NvFwMeta
  | runtime _ _ => NvRuntime

instance : (k : Key) → NvRecord k.Value
  | bootState => inferInstanceAs (NvRecord NvBootState)
  | factory => inferInstanceAs (NvRecord NvFactory)
  | app => inferInstanceAs (NvRecord NvApp)
  | vehicle => inferInstanceAs (NvRecord NvVehicle)
  | updateSession => inferInstanceAs (NvRecord NvUpdateSession)
  | fwMeta _ _ => inferInstanceAs (NvRecord NvFwMeta)
  | runtime _ _ => inferInstanceAs (NvRecord NvRuntime)

instance : (k : Key) → LawfulNvRecord k.Value
  | bootState => inferInstanceAs (LawfulNvRecord NvBootState)
  | factory => inferInstanceAs (LawfulNvRecord NvFactory)
  | app => inferInstanceAs (LawfulNvRecord NvApp)
  | vehicle => inferInstanceAs (LawfulNvRecord NvVehicle)
  | updateSession => inferInstanceAs (LawfulNvRecord NvUpdateSession)
  | fwMeta _ _ => inferInstanceAs (LawfulNvRecord NvFwMeta)
  | runtime _ _ => inferInstanceAs (LawfulNvRecord NvRuntime)

def region : Key → Region
  | bootState => ⟨BOOT_OFFSET, BOOT_SECTORS, by decide⟩
  | factory => ⟨FACTORY_OFFSET, FACTORY_SECTORS, by decide⟩
  | app => ⟨APP_OFFSET, APP_SECTORS, by decide⟩
  | vehicle => ⟨VEHICLE_OFFSET, VEHICLE_SECTORS, by decide⟩
  | updateSession => ⟨UPDATE_SESSION_OFFSET, UPDATE_SESSION_SECTORS, by decide⟩
  | fwMeta set bank => ⟨fwMetaOffset set bank, FW_META_SECTORS, by decide⟩
  | runtime set bank => ⟨runtimeOffset set bank, RUNTIME_SECTORS, by decide⟩

def Checked : (k : Key) → k.Value → Prop
  | runtime _ _, r => (NvRuntime.didCount r).toNat ≤ MAX_DIDS ∧
      (NvRuntime.dtcCount r).toNat ≤ MAX_DTCS
  | _, _ => True

theorem magic_ne_zero (k : Key) :
  NvRecord.magic k.Value ≠ 0
  := by
  cases k with
  | bootState | factory | app | vehicle | updateSession => decide
  | fwMeta =>
    have magic : MAGIC_FW_META ≠ 0 := by decide
    apply magic
  | runtime =>
    have magic : MAGIC_RUNTIME ≠ 0 := by decide
    apply magic

variable {k' : Key}

theorem roundTrips {v : k.Value} (checked : k.Checked v) :
  RoundTrips v
  := by
  cases k with
  | bootState => apply NvBootState.roundTrips
  | factory => exact PlainNvRecord.roundTrips (T := NvFactory) v
  | app => exact PlainNvRecord.roundTrips (T := NvApp) v
  | vehicle => exact PlainNvRecord.roundTrips (T := NvVehicle) v
  | updateSession => exact PlainNvRecord.roundTrips (T := NvUpdateSession) v
  | fwMeta => exact PlainNvRecord.roundTrips (T := NvFwMeta) v
  | runtime => exact (NvRuntime.roundTrips_iff v).mpr checked

/-- The slot that a key belongs to, if it is none of a header record. -/
def slot? : Key → Option BankSet
  | fwMeta set _ | runtime set _ => some set
  | _ => none

/-- The header records come before the slots. -/
theorem region_le_base (header : k.slot? = none) :
  k.region.offset + k.region.numSectors * SECTOR_SIZE ≤ BANKSET_BASE
  := by
  cases k with
  | fwMeta | runtime => cases header
  | _ => decide

/-- A record of a slot is in the part of the device that the slot has. -/
theorem region_in_slot (slot : k.slot? = some set) :
  banksetOffset set ≤ k.region.offset ∧
    k.region.offset + k.region.numSectors * SECTOR_SIZE ≤ banksetOffset set + BANKSET_STRIDE
  := by
  cases k with
  | fwMeta _ bank =>
    cases slot
    simp only [region, fwMetaOffset, Nat.add_assoc, Nat.add_le_add_iff_left,
      Nat.le_add_right, true_and]
    cases bank <;> decide
  | runtime _ bank =>
    cases slot
    simp only [region, runtimeOffset, Nat.add_assoc, Nat.add_le_add_iff_left,
      Nat.le_add_right, true_and]
    cases bank <;> decide
  | _ => cases slot

theorem banksetOffset_apart {set' : BankSet} (h : set ≠ set') :
  banksetOffset set + BANKSET_STRIDE ≤ banksetOffset set' ∨
    banksetOffset set' + BANKSET_STRIDE ≤ banksetOffset set
  := by
  have ne : set.asIndex ≠ set'.asIndex := fun same => h (BankSet.asIndex_inj.mp same)
  rw [banksetOffset, banksetOffset, BANKSET_STRIDE]
  omega

theorem apart_of_headers (h : k ≠ k') (header : k.slot? = none) (header' : k'.slot? = none) :
  k.region.Apart k'.region
  := by
  cases k <;> cases k' <;>
    first | decide | exact absurd rfl h | (cases header; done) | cases header'

/-- Regions at two places of one slot. -/
theorem apart_at (base : Nat) {a b n m : Nat} {two : 2 ≤ n} {two' : 2 ≤ m}
    (h : a + n * SECTOR_SIZE ≤ b ∨ b + m * SECTOR_SIZE ≤ a) :
  Region.Apart ⟨base + a, n, two⟩ ⟨base + b, m, two'⟩
  := by
  have : base + a + n * SECTOR_SIZE ≤ base + b ∨ base + b + m * SECTOR_SIZE ≤ base + a := by omega
  apply this

/-- The four records of one slot. -/
theorem apart_of_slot (h : k ≠ k') (slot : k.slot? = some set) (slot' : k'.slot? = some set) :
  k.region.Apart k'.region
  := by
  cases k with
  | fwMeta _ bank =>
    cases slot
    cases k' with
    | fwMeta _ bank' =>
      cases slot'
      cases bank <;> cases bank' <;> first | exact absurd rfl h | exact apart_at _ (by decide)
    | runtime _ bank' =>
      cases slot'
      cases bank <;> cases bank' <;> exact apart_at _ (by decide)
    | _ => cases slot'
  | runtime _ bank =>
    cases slot
    cases k' with
    | fwMeta _ bank' =>
      cases slot'
      cases bank <;> cases bank' <;> exact apart_at _ (by decide)
    | runtime _ bank' =>
      cases slot'
      cases bank <;> cases bank' <;> first | exact absurd rfl h | exact apart_at _ (by decide)
    | _ => cases slot'
  | _ => cases slot

/-- The regions of two keys do not meet. -/
theorem region_apart (h : k ≠ k') :
  k.region.Apart k'.region
  := by
  cases slot : k.slot? with
  | none =>
    have before := region_le_base slot
    cases slot' : k'.slot? with
    | none => apply apart_of_headers h slot slot'
    | some set' =>
      left
      have base : BANKSET_BASE ≤ banksetOffset set' := Nat.le_add_right _ _
      exact Nat.le_trans before (Nat.le_trans base (region_in_slot slot').1)
  | some set =>
    obtain ⟨first, last⟩ := region_in_slot slot
    cases slot' : k'.slot? with
    | none =>
      right
      have base : BANKSET_BASE ≤ banksetOffset set := Nat.le_add_right _ _
      exact Nat.le_trans (region_le_base slot') (Nat.le_trans base first)
    | some set' =>
      obtain ⟨first', last'⟩ := region_in_slot slot'
      by_cases same : set = set'
      · subst same
        apply apart_of_slot h slot slot'
      · rcases banksetOffset_apart same with before | after
        · left
          exact Nat.le_trans last (Nat.le_trans before first')
        · right
          exact Nat.le_trans last' (Nat.le_trans after first)

end Key

/-! ### Reads and writes by key -/

namespace DeviceStore

section

variable (crc : List UInt8 → UInt32) (st : DeviceStore)

def addresses (k : Key) : Bool :=
  k.slot?.all st.slotInRange

/-- What a record reads as. -/
def shown : (k : Key) → k.Value → k.Value
  | .bootState, s => st.resetPast s
  | .factory, r | .app, r | .vehicle, r | .updateSession, r | .fwMeta _ _, r | .runtime _ _, r => r

def read : (k : Key) → Option k.Value
  | .bootState => st.readBootState crc
  | .factory => st.readFactory crc
  | .app => st.readApp crc
  | .vehicle => st.readVehicleState crc
  | .updateSession => st.readUpdateSession crc
  | .fwMeta set bank => st.readFwMeta crc set bank
  | .runtime set bank => st.readRuntime crc set bank

def write : (k : Key) → k.Value → Call DeviceStore BlockError Unit
  | .bootState, r => writeBootState crc r
  | .factory, r => writeFactory crc r
  | .app, r => writeApp crc r
  | .vehicle, r => writeVehicleState crc r
  | .updateSession, r => writeUpdateSession crc r
  | .fwMeta set bank, r => writeFwMeta crc set bank r
  | .runtime set bank, r => writeRuntime crc set bank r

theorem read_eq (k : Key) :
  st.read crc k =
    if st.addresses k then (readRecord crc st.dev k.region.offset k.region.numSectors).map
      (st.shown k)
    else none
  := by
  cases k with
  | bootState => rfl
  | fwMeta =>
    rw [read, readFwMeta, addresses, Key.slot?, Option.all_some]
    split
    · symm
      apply Option.map_id'
    · rfl
  | runtime =>
    rw [read, readRuntime, addresses, Key.slot?, Option.all_some]
    split
    · symm
      apply Option.map_id'
    · rfl
  | _ =>
    symm
    apply Option.map_id'

variable {crc st} {offset numSectors : Nat} {T : Type} {r : T} {e : BlockError}

theorem put_ok [NvRecord T] (call : put crc offset numSectors r st = (.ok (), st')) :
  ∃ dev' r', writeRecord crc st.dev offset numSectors r = .ok (dev', r') ∧
    st' = { st with dev := dev' }
  := by
  rw [put] at call
  split at call
  next dev' r' written =>
    cases call
    exact ⟨dev', r', written, rfl⟩
  next => cases call

theorem put_err [NvRecord T] (call : put crc offset numSectors r st = (.err e, st')) :
  st' = st
  := by
  rw [put] at call
  split at call
  next => cases call
  next =>
    cases call
    rfl

theorem putSlot_in_range [NvRecord T] (inRange : st.slotInRange set = true) :
  putSlot crc set offset numSectors r st = put crc offset numSectors r st
  := by
  rw [putSlot, run_get_bind, inRange]
  rfl

theorem putSlot_out_of_range [NvRecord T] (outside : st.slotInRange set = false) :
  putSlot crc set offset numSectors r st = (.err (st.outOfRange set), st)
  := by
  rw [putSlot, run_get_bind, outside]
  rfl

theorem write_addressed (addressed : st.addresses k = true) (v : k.Value) :
  write crc k v st = put crc k.region.offset k.region.numSectors v st
  := by
  cases k with
  | fwMeta | runtime => exact putSlot_in_range addressed
  | _ => rfl

/-- A record whose region is on the device can be written. -/
theorem write_on (addressed : st.addresses k = true) (on : k.region.On st.dev) (v : k.Value) :
  ∃ st', write crc k v st = (.ok (), st')
  := by
  rw [write_addressed addressed, put, writeRecord_eq on]
  exact ⟨_, rfl⟩

/-- A write to a slot that the store cannot address is refused. -/
theorem write_refused (crc : List UInt8 → UInt32) (outside : st.addresses k = false) (v : k.Value) :
  ∃ set, k.slot? = some set ∧ write crc k v st = (.err (st.outOfRange set), st)
  := by
  cases k with
  | fwMeta set bank | runtime set bank => exact ⟨set, rfl, putSlot_out_of_range outside⟩
  | _ => cases outside

variable {v : k.Value}

/-- A write that returns has written to the region of its key. -/
theorem write_ok (call : write crc k v st = (.ok (), st')) :
  st.addresses k = true ∧ ∃ dev' v', writeRecord crc st.dev k.region.offset k.region.numSectors v =
    .ok (dev', v') ∧ st' = { st with dev := dev' }
  := by
  cases addressed : st.addresses k with
  | false =>
    obtain ⟨_, -, refused⟩ := write_refused crc addressed v
    cases refused.symm.trans call
  | true =>
    rw [write_addressed addressed] at call
    exact ⟨rfl, put_ok call⟩

/-- A write that fails leaves the store as it was. -/
theorem write_err (call : write crc k v st = (.err e, st')) :
  st' = st
  := by
  cases addressed : st.addresses k with
  | false =>
    obtain ⟨_, -, refused⟩ := write_refused crc addressed v
    cases refused.symm.trans call
    rfl
  | true =>
    rw [write_addressed addressed] at call
    apply put_err call

theorem copyRuntime_eq (set : BankSet) (src dst : Bank) :
  copyRuntime crc set src dst st = write crc (.runtime set dst)
    ((st.readRuntime crc set src).getD {}) st
  := by
  rw [copyRuntime, run_get_bind]
  cases st.readRuntime crc set src <;> rfl

end

end DeviceStore

/-! ### The store at the level of records -/

/-- The store at the level of records, which has none of the factory, the app and the vehicle. -/
def DeviceStore.view (crc : List UInt8 → UInt32) (st : DeviceStore) : NvStore where
  deviceSize := st.dev.size
  bootState := readRecord crc st.dev BOOT_OFFSET BOOT_SECTORS
  fwMetas set bank := readRecord crc st.dev (fwMetaOffset set bank) FW_META_SECTORS
  runtimes set bank := readRecord crc st.dev (runtimeOffset set bank) RUNTIME_SECTORS
  updateSession := readRecord crc st.dev UPDATE_SESSION_OFFSET UPDATE_SESSION_SECTORS

/-- The key is one of those records. -/
def Key.recorded : Key → Bool
  | factory | app | vehicle => false
  | _ => true

namespace NvStore

variable (nv : NvStore)

def record : (k : Key) → Option k.Value
  | .bootState => nv.bootState
  | .updateSession => nv.updateSession
  | .fwMeta set bank => nv.fwMetas set bank
  | .runtime set bank => nv.runtimes set bank
  | .factory | .app | .vehicle => none

def put : (k : Key) → k.Value → NvStore
  | .bootState, v => nv.putBootState v
  | .updateSession, v => nv.putUpdateSession v
  | .fwMeta set bank, v => nv.putFwMeta set bank v
  | .runtime set bank, v => nv.putRuntime set bank v
  | .factory, _ | .app, _ | .vehicle, _ => nv

theorem record_put_self (recorded : k.recorded = true) (v : k.Value) :
  (nv.put k v).record k = some v
  := by
  cases k with
  | factory | app | vehicle => cases recorded
  | bootState | updateSession => rfl
  | fwMeta | runtime => exact if_pos ⟨rfl, rfl⟩

theorem record_put_of_ne {j : Key} (h : j ≠ k) (v : k.Value) :
  (nv.put k v).record j = nv.record j
  := by
  cases k <;> cases j <;> first
    | rfl
    | exact absurd rfl h
    | refine if_neg ?_
      rintro ⟨rfl, rfl⟩
      apply h rfl

end NvStore

/-! ### Runs of writes -/

/-- A typed write. -/
inductive TypedWrite
  | put (k : Key) (v : k.Value)
  | copyRuntime (set : BankSet) (src dst : Bank)

abbrev Contents : Type := (k : Key) → Option k.Value

namespace TypedWrite

def key : TypedWrite → Key
  | put k _ => k
  | copyRuntime set _ dst => .runtime set dst

/-- The record that is written, in terms of what was written before. -/
def value (contents : Contents) : (w : TypedWrite) → w.key.Value
  | put _ v => v
  | copyRuntime set src _ => (contents (.runtime set src)).getD ({} : NvRuntime)

def run (crc : List UInt8 → UInt32) : TypedWrite → Call DeviceStore BlockError Unit
  | put k v => DeviceStore.write crc k v
  | copyRuntime set src dst => DeviceStore.copyRuntime crc set src dst

/-- The record that a caller hands over is within its capacity. -/
def Checked : TypedWrite → Prop
  | put k v => k.Checked v
  | copyRuntime _ _ _ => True

variable (crc : List UInt8 → UInt32) {st : DeviceStore}

theorem run_eq (w : TypedWrite) (st : DeviceStore) :
  ∃ v, w.run crc st = DeviceStore.write crc w.key v st
  := by
  cases w with
  | put _ v => exact ⟨v, rfl⟩
  | copyRuntime set src dst => exact ⟨_, DeviceStore.copyRuntime_eq set src dst⟩

variable {crc} {w : TypedWrite}

theorem run_err {e : BlockError} (call : w.run crc st = (.err e, st')) :
  st' = st
  := by
  obtain ⟨v, run⟩ := w.run_eq crc st
  apply DeviceStore.write_err (run.symm.trans call)

/-- A write to a slot that the store cannot address is refused. -/
theorem run_refused (outside : st.addresses w.key = false) :
  ∃ set, w.key.slot? = some set ∧ w.run crc st = (.err (st.outOfRange set), st)
  := by
  obtain ⟨v, run⟩ := w.run_eq crc st
  rw [run]
  apply DeviceStore.write_refused crc outside

/-- A write that returns has changed one sector of the region of its key, which is on the device. -/
theorem run_ok (call : w.run crc st = (.ok (), st')) :
  st'.slotCount = st.slotCount ∧ w.key.region.OneSector st.dev st'.dev
  := by
  obtain ⟨v, run⟩ := w.run_eq crc st
  obtain ⟨-, _, _, written, rfl⟩ := DeviceStore.write_ok (run.symm.trans call)
  exact ⟨rfl, oneSector_of_write written⟩

end TypedWrite

/-- The store, what was written last under each key, and how often. -/
structure Logged where
  store : DeviceStore
  contents : Contents := fun _ => none
  writes : Key → Nat := fun _ => 0

def Logged.zeroed (size : Nat) : Logged where
  store := .new { size, data := zeros size }

namespace Logged

def wrote (x : Logged) (st' : DeviceStore) (k : Key) (v : k.Value) : Logged where
  store := st'
  contents := Function.update x.contents k (some v)
  writes := Function.update x.writes k (x.writes k + 1)

variable (x : Logged) (st' : DeviceStore) {j : Key} (v : k.Value)

@[simp]
theorem contents_wrote_self :
  (x.wrote st' k v).contents k = some v
  := Function.update_self ..

theorem contents_wrote_of_ne (h : j ≠ k) :
  (x.wrote st' k v).contents j = x.contents j
  := Function.update_of_ne h ..

@[simp]
theorem writes_wrote_self :
  (x.wrote st' k v).writes k = x.writes k + 1
  := Function.update_self ..

theorem writes_wrote_of_ne (h : j ≠ k) :
  (x.wrote st' k v).writes j = x.writes j
  := Function.update_of_ne h ..

theorem writes_le_wrote :
  x.writes j ≤ (x.wrote st' k v).writes j
  := by
  by_cases here : j = k
  · subst here
    rw [writes_wrote_self]
    omega
  · rw [writes_wrote_of_ne _ _ _ here]

theorem writes_wrote_le :
  (x.wrote st' k v).writes j ≤ x.writes j + 1
  := by
  by_cases here : j = k
  · subst here
    rw [writes_wrote_self]
  · rw [writes_wrote_of_ne _ _ _ here]
    omega

end Logged

/-- A write returns, or it fails. -/
inductive TypedStep (crc : List UInt8 → UInt32) (x : Logged) : Logged → Prop
  | wrote (w : TypedWrite) (checked : w.Checked) {st' : DeviceStore}
      (call : w.run crc x.store = (.ok (), st')) :
      TypedStep crc x (x.wrote st' w.key (w.value x.contents))
  | failed (w : TypedWrite) {e : BlockError} {st' : DeviceStore}
      (call : w.run crc x.store = (.err e, st')) : TypedStep crc x { x with store := st' }

/-- Writes to a device of the size that is all zeros at first. -/
def TypedRun (crc : List UInt8 → UInt32) (size : Nat) : Logged → Prop :=
  Reachable (· = .zeroed size) (TypedStep crc)

/-! ### The store refines the map -/

section Refinement

variable {crc : List UInt8 → UInt32} {x : Logged} {size : Nat}

/-- Every region holds what was written last under its key. -/
structure Refines (crc : List UInt8 → UInt32) (x : Logged) : Prop where
  kept : ∀ k : Key, Kept crc k.region x.store.dev (x.writes k) (x.contents k)
  checked : ∀ k v, x.contents k = some v → k.Checked v
  addressed : ∀ k v, x.contents k = some v → x.store.addresses k = true

theorem DeviceStore.shown_setWriteSeq (st : DeviceStore) (k : Key) (v : k.Value) (q : UInt32) :
  st.shown k (setWriteSeq v q) = setWriteSeq (st.shown k v) q
  := by cases k <;> rfl

namespace Refines

theorem zeroed (size : Nat) :
  Refines crc (.zeroed size)
  := ⟨fun k => Kept.zeroed k.region size k.magic_ne_zero, nofun, nofun⟩

variable (refines : Refines crc x)

include refines

variable (set : BankSet)

theorem read_none (never : x.contents k = none) :
  x.store.read crc k = none
  := by
  have kept := refines.kept k
  rw [never] at kept
  rw [DeviceStore.read_eq, kept.read_none]
  split <;> rfl

theorem read_some {v : k.Value} (last : x.contents k = some v) :
  ∃ q, x.store.read crc k = some (setWriteSeq (x.store.shown k v) q)
  := by
  have kept := refines.kept k
  rw [last] at kept
  obtain ⟨q, read⟩ := kept.read_some
  use q
  rw [DeviceStore.read_eq, refines.addressed k v last, if_pos rfl, read, Option.map_some,
    DeviceStore.shown_setWriteSeq]

/-- A record is written; the sequence number that it came with does not matter. -/
theorem write {v v' : k.Value} (room : x.writes k < 2 ^ 32 - 1) (checked : k.Checked v)
    (checked' : k.Checked v') (same : ∀ q, setWriteSeq v' q = setWriteSeq v q)
    (call : DeviceStore.write crc k v' x.store = (.ok (), st')) :
  Refines crc (x.wrote st' k v)
  := by
  obtain ⟨addressed, _, _, written, rfl⟩ := DeviceStore.write_ok call
  refine ⟨?_, ?_, ?_⟩
  · intro j
    by_cases here : j = k
    · subst here
      rw [Logged.contents_wrote_self, Logged.writes_wrote_self]
      apply ((refines.kept j).write room (Key.roundTrips checked') written).congr same
    · rw [Logged.contents_wrote_of_ne _ _ _ here, Logged.writes_wrote_of_ne _ _ _ here]
      apply (refines.kept j).frame (Key.region_apart here) written
  · intro j u last
    by_cases here : j = k
    · subst here
      rw [Logged.contents_wrote_self] at last
      cases last
      apply checked
    · rw [Logged.contents_wrote_of_ne _ _ _ here] at last
      apply refines.checked j u last
  · intro j u last
    by_cases here : j = k
    · subst here
      apply addressed
    · rw [Logged.contents_wrote_of_ne _ _ _ here] at last
      apply refines.addressed j u last

/-- The view has the records that were written last, up to their sequence numbers. -/
theorem view_record (recorded : k.recorded = true) :
  ((x.store.view crc).record k).map (setWriteSeq · 0) = (x.contents k).map (setWriteSeq · 0)
  := by
  have read : (x.store.view crc).record k =
      readRecord crc x.store.dev k.region.offset k.region.numSectors := by
    cases k with
    | factory | app | vehicle => cases recorded
    | _ =>
      simp only [DeviceStore.view, NvStore.record, Key.region]
      rfl
  have kept := refines.kept k
  rw [read]
  cases last : x.contents k with
  | none =>
    rw [last] at kept
    rw [kept.read_none]
  | some v =>
    rw [last] at kept
    obtain ⟨q, here⟩ := kept.read_some
    rw [here]
    cases k <;> rfl

/-- A write that returns does to the store at the level of records what the write of the record does
there, up to the sequence numbers. -/
theorem view_write {v : k.Value} (room : x.writes k < 2 ^ 32 - 1) (checked : k.Checked v)
    (call : DeviceStore.write crc k v x.store = (.ok (), st')) :
  (st'.view crc).deviceSize = (x.store.view crc).deviceSize ∧ ∀ j, j.recorded = true →
    ((st'.view crc).record j).map (setWriteSeq · 0) =
      (((x.store.view crc).put k v).record j).map (setWriteSeq · 0)
  := by
  refine ⟨(TypedWrite.run_ok (w := .put k v) call).2.1, ?_⟩
  intro j recorded
  have after := (refines.write room checked checked (fun _ => rfl) call).view_record recorded
  refine after.trans ?_
  by_cases here : j = k
  · subst here
    rw [Logged.contents_wrote_self, NvStore.record_put_self _ recorded]
  · rw [Logged.contents_wrote_of_ne _ _ _ here, NvStore.record_put_of_ne _ here]
    apply (refines.view_record recorded).symm

/-- What is copied is what was written last to the source. -/
theorem readRuntime_getD (src : Bank) :
  ∃ q, (x.store.readRuntime crc set src).getD {} =
    (setWriteSeq ((x.contents (.runtime set src)).getD ({} : NvRuntime)) q : NvRuntime)
  := by
  cases last : x.contents (.runtime set src) with
  | none =>
    have read : x.store.readRuntime crc set src = none := refines.read_none last
    rw [read]
    exact ⟨0, rfl⟩
  | some r =>
    obtain ⟨q, read⟩ := refines.read_some last
    have read : x.store.readRuntime crc set src = some (setWriteSeq (r : NvRuntime) q) := read
    rw [read]
    exact ⟨q, rfl⟩

theorem checked_getD (src dst : Bank) :
  (Key.runtime set dst).Checked ((x.contents (.runtime set src)).getD ({} : NvRuntime))
  := by
  cases last : x.contents (.runtime set src) with
  | none => exact ⟨Nat.zero_le _, Nat.zero_le _⟩
  | some r => exact refines.checked _ r last

theorem step {y : Logged} (step : TypedStep crc x y) (few : ∀ k, y.writes k < 2 ^ 32 - 1) :
  Refines crc y
  := by
  cases step with
  | wrote w checked call =>
    have room : x.writes w.key < 2 ^ 32 - 1 :=
      Nat.lt_of_le_of_lt (x.writes_le_wrote _ _) (few w.key)
    cases w with
    | put => exact refines.write room checked checked (fun _ => rfl) call
    | copyRuntime set src dst =>
      rw [TypedWrite.run, DeviceStore.copyRuntime_eq] at call
      obtain ⟨q, copied⟩ := refines.readRuntime_getD set src
      rw [copied] at call
      have checked := refines.checked_getD set src dst
      exact refines.write room checked checked (fun _ => rfl) call
  | failed _ call =>
    rw [TypedWrite.run_err call]
    apply refines

end Refines

theorem refines_of_typedRun (run : TypedRun crc size x) (few : ∀ k, x.writes k < 2 ^ 32 - 1) :
  Refines crc x
  := by
  revert few
  apply run.invariant
  · rintro _ rfl _
    apply Refines.zeroed
  · intro x y refines step few
    refine (refines fun k => ?_).step step few
    apply Nat.lt_of_le_of_lt _ (few k)
    cases step with
    | wrote => apply x.writes_le_wrote
    | failed => apply Nat.le_refl

theorem size_of_typedRun (run : TypedRun crc size x) :
  x.store.dev.size = size ∧ x.store.slotCount = min MAX_SLOTS
    ((size - BANKSET_BASE) / BANKSET_STRIDE)
  := by
  apply run.invariant
  · rintro _ rfl
    exact ⟨rfl, rfl⟩
  · rintro x y ⟨size, slots⟩ step
    cases step with
    | wrote _ _ call =>
      obtain ⟨sameSlots, sameSize, -⟩ := TypedWrite.run_ok call
      exact ⟨sameSize.trans size, sameSlots.trans slots⟩
    | failed _ call =>
      rw [TypedWrite.run_err call]
      exact ⟨size, slots⟩

/-- The store is a map: a read returns what was written last under its key, apart from the sequence
number and from the entries of the boot state that the store has no slots for, and a key that was
never written reads as nothing. A write to a slot that the store cannot address is refused, a write
that fails changes nothing, and one that returns changes one sector of the region of its key, which
is on the device. -/
theorem read_last_written {size : Nat} (run : TypedRun crc size x)
    (few : ∀ k, x.writes k < 2 ^ 32 - 1) :
  x.store.slotCount = min MAX_SLOTS ((size - BANKSET_BASE) / BANKSET_STRIDE) ∧
    (∀ k, x.contents k = none → x.store.read crc k = none) ∧
    (∀ k v, x.contents k = some v → ∃ q, x.store.read crc k =
      some (setWriteSeq (x.store.shown k v) q)) ∧
    (∀ w : TypedWrite, x.store.addresses w.key = false →
      ∃ set, w.key.slot? = some set ∧ w.run crc x.store =
        (.err (x.store.outOfRange set), x.store)) ∧
    (∀ (w : TypedWrite) e st', w.run crc x.store = (.err e, st') → st' = x.store) ∧
    ∀ (w : TypedWrite) st', w.run crc x.store = (.ok (), st') →
      w.key.region.OneSector x.store.dev st'.dev
  := by
  have refines := refines_of_typedRun run few
  refine ⟨(size_of_typedRun run).2, ?_, ?_, ?_, ?_, ?_⟩
  · intro k never
    apply refines.read_none never
  · intro k v last
    apply refines.read_some last
  · intro w outside
    apply TypedWrite.run_refused outside
  · intro w e st' call
    apply TypedWrite.run_err call
  · intro w st' call
    apply (TypedWrite.run_ok call).2

/-- A record of the vehicle is written, then one of the app, then another one of the vehicle. -/
theorem read_last_written_vehicle :
  ∃ x, TypedRun Crc32.crc32 0x8000 x ∧ x.writes .vehicle = 2 ∧ x.writes .app = 1 ∧
    ∃ q, x.store.readVehicleState Crc32.crc32 = some { vehicleEpoch := 9, writeSeq := q }
  := by
  have writes {x : Logged} (run : TypedRun Crc32.crc32 0x8000 x) {k : Key}
      (fits : k.region.offset + k.region.numSectors * SECTOR_SIZE ≤ 0x8000)
      (addressed : x.store.addresses k = true) (v : k.Value) (checked : k.Checked v) :
      ∃ st', TypedRun Crc32.crc32 0x8000 (x.wrote st' k v) := by
    have on : k.region.On x.store.dev := by
      rw [Region.On, (size_of_typedRun run).1]
      exact fits
    obtain ⟨st', call⟩ := DeviceStore.write_on addressed on v
    exact ⟨st', run.step (.wrote (.put k v) checked call)⟩
  obtain ⟨_, first⟩ := writes (.init rfl) (k := .vehicle) (by decide) rfl (vehicle 0) trivial
  obtain ⟨_, second⟩ := writes first (k := .app) (by decide) rfl ({} : NvApp) trivial
  obtain ⟨_, third⟩ := writes second (k := .vehicle) (by decide) rfl
    ({ vehicleEpoch := 9 } : NvVehicle) trivial
  have few : 0 + 1 + 1 + 1 < 2 ^ 32 - 1 := by decide
  obtain ⟨-, -, reads, -⟩ := read_last_written third fun k => by
    refine Nat.lt_of_le_of_lt (Logged.writes_wrote_le ..) ?_
    refine Nat.lt_of_le_of_lt (Nat.succ_le_succ (Logged.writes_wrote_le ..)) ?_
    exact Nat.lt_of_le_of_lt (Nat.succ_le_succ (Nat.succ_le_succ (Logged.writes_wrote_le ..))) few
  exact ⟨_, third, rfl, rfl, reads .vehicle _ (Logged.contents_wrote_self ..)⟩

end Refinement

end Nv
