import MachineManager.Lib.Call
import MachineManager.Nv.Sector

/-!
# The typed NV store

`NvStore` at the level of records: one value per key, where the key is a header record or a record
of one bank of one slot. A write replaces the value under its key, or fails and changes nothing. How
a record gets into its region, and the sequence number it is given there, is a matter of the
sectors.
-/

namespace Nv

open Call

def BANKSET_BASE : Nat := 0x010000

def BANKSET_STRIDE : Nat := 0x018000

def banksetOffset (set : BankSet) : Nat :=
  BANKSET_BASE + set.asIndex * BANKSET_STRIDE

/-! ### Records by slot -/

/-- The entry of a slot; there is none past the capacity of the record. -/
def NvBootState.bank? (s : NvBootState) (set : BankSet) : Option BankBootState :=
  s.banks[set.asIndex]?

def NvBootState.setBank (s : NvBootState) (set : BankSet) (bs : BankBootState) : NvBootState :=
  { s with banks := s.banks.setIfInBounds set.asIndex bs }

variable {set : BankSet}

theorem BankSet.asIndex_inj {set' : BankSet} :
  set.asIndex = set'.asIndex ↔ set = set'
  := by
  obtain ⟨v⟩ := set
  obtain ⟨_⟩ := set'
  simp [BankSet.asIndex, UInt8.toNat_inj]

theorem NvBootState.bank?_setBank {s : NvBootState} {bs : BankBootState}
    (old : s.bank? set = some bs) (new : BankBootState) (set' : BankSet) :
  (s.setBank set new).bank? set' = if set' = set then some new else s.bank? set'
  := by
  have hlt : set.asIndex < MAX_SLOTS := by
    obtain ⟨hlt, _⟩ := Vector.getElem?_eq_some_iff.mp old
    apply hlt
  simp only [NvBootState.bank?, NvBootState.setBank, Vector.getElem?_setIfInBounds]
  by_cases h : set' = set
  · subst h
    simp [hlt]
  · have : set.asIndex ≠ set'.asIndex := fun h' => h (BankSet.asIndex_inj.mp h'.symm)
    simp [h, this]

/-- The records of a store, and the size of the device they live on. -/
structure NvStore where
  deviceSize : Nat
  bootState : Option NvBootState := none
  fwMetas : BankSet → Bank → Option NvFwMeta := fun _ _ => none
  runtimes : BankSet → Bank → Option NvRuntime := fun _ _ => none
  updateSession : Option NvUpdateSession := none

/-- The writes that a call may see fail. -/
inductive NvWrite
  | bootState
  | fwMeta
  | runtime
  | updateSession
deriving DecidableEq

/-- Which writes of a call fail. No call writes one kind of record twice. -/
abbrev NvFaults : Type := NvWrite → Bool

def noNvFault : NvFaults := fun _ => false

namespace NvStore

variable (nv : NvStore) (set : BankSet)

/-- How many slots the device has room for, up to the capacity of the boot-state record. -/
def slotCount : Nat :=
  min MAX_SLOTS ((nv.deviceSize - BANKSET_BASE) / BANKSET_STRIDE)

def slotInRange (set : BankSet) : Bool :=
  set.asIndex < nv.slotCount

/-- The error of a write to a slot that the store cannot address. -/
def outOfRange (set : BankSet) : BlockError :=
  .outOfBounds (banksetOffset set) BANKSET_STRIDE nv.deviceSize

/-- The boot state, with the entries past the store's own slots reset. -/
def readBootState : Option NvBootState :=
  nv.bootState.map fun s =>
    { s with banks := Vector.ofFn fun i => if i.val < nv.slotCount then s.banks.get i else {} }

def readFwMeta (set : BankSet) (bank : Bank) : Option NvFwMeta :=
  if nv.slotInRange set then nv.fwMetas set bank else none

def readRuntime (set : BankSet) (bank : Bank) : Option NvRuntime :=
  if nv.slotInRange set then nv.runtimes set bank else none

def readUpdateSession : Option NvUpdateSession :=
  nv.updateSession

/-! ### Replacing a record -/

def putBootState (state : NvBootState) : NvStore :=
  { nv with bootState := some state }

def putUpdateSession (session : NvUpdateSession) : NvStore :=
  { nv with updateSession := some session }

def putFwMeta (set : BankSet) (bank : Bank) (fwMeta : NvFwMeta) : NvStore :=
  { nv with
    fwMetas := fun set' bank' =>
      if set' = set ∧ bank' = bank then some fwMeta else nv.fwMetas set' bank' }

def putRuntime (set : BankSet) (bank : Bank) (runtime : NvRuntime) : NvStore :=
  { nv with
    runtimes := fun set' bank' =>
      if set' = set ∧ bank' = bank then some runtime else nv.runtimes set' bank' }

@[simp]
theorem slotCount_putBootState (state : NvBootState) :
  (nv.putBootState state).slotCount = nv.slotCount
  := rfl

@[simp]
theorem slotInRange_putFwMeta (bank : Bank) (m : NvFwMeta) (set' : BankSet) :
  (nv.putFwMeta set bank m).slotInRange set' = nv.slotInRange set'
  := rfl

theorem fwMetas_putFwMeta (bank : Bank) (m : NvFwMeta) (set' : BankSet) (bank' : Bank) :
  (nv.putFwMeta set bank m).fwMetas set' bank' =
    if set' = set ∧ bank' = bank then some m else nv.fwMetas set' bank'
  := rfl

end NvStore

section

variable (faults : NvFaults)

def nvWrite (kind : NvWrite) (update : NvStore → NvStore) : Call NvStore BlockError Unit :=
  Call.write (if faults kind then .fails false else .none) .io update

def writeBootState (state : NvBootState) : Call NvStore BlockError Unit :=
  nvWrite faults .bootState fun nv => nv.putBootState state

def writeUpdateSession (session : NvUpdateSession) : Call NvStore BlockError Unit :=
  nvWrite faults .updateSession fun nv => nv.putUpdateSession session

def writeFwMeta (set : BankSet) (bank : Bank) (fwMeta : NvFwMeta) : Call NvStore BlockError Unit :=
    do
  let nv ← Call.get
  if !nv.slotInRange set then Call.fail (nv.outOfRange set)
  else nvWrite faults .fwMeta fun nv => nv.putFwMeta set bank fwMeta

def writeRuntime (set : BankSet) (bank : Bank) (runtime : NvRuntime) :
    Call NvStore BlockError Unit := do
  let nv ← Call.get
  if !nv.slotInRange set then Call.fail (nv.outOfRange set)
  else nvWrite faults .runtime fun nv => nv.putRuntime set bank runtime

/-- Copy the runtime data of one bank to another; a source without any gives the default. -/
def copyRuntime (set : BankSet) (src dst : Bank) : Call NvStore BlockError Unit := do
  let nv ← Call.get
  writeRuntime faults set dst ((nv.readRuntime set src).getD {})

/-! ### How a write ends -/

variable {faults} {ε : Type} {f : BlockError → ε} {nv : NvStore}
    {R : Ending ε Unit → NvStore → Prop}

theorem yields_nvWrite {kind : NvWrite} {update : NvStore → NvStore}
    (fails : faults kind = true → R (.err (f .io)) nv)
    (lands : faults kind = false → R (.ok ()) (update nv)) :
  Yields (mapErr f (nvWrite faults kind update)) nv R
  := by
  rw [Yields, mapErr, nvWrite]
  cases fault : faults kind with
  | true => exact fails fault
  | false => exact lands fault

/-- The boot state is written, or the store is as before. -/
theorem yields_writeBootState {state : NvBootState}
    (fails : faults .bootState = true → R (.err (f .io)) nv)
    (lands : faults .bootState = false → R (.ok ()) (nv.putBootState state)) :
  Yields (mapErr f (writeBootState faults state)) nv R
  := yields_nvWrite fails lands

/-- The metadata is written to a slot of the store, or the store is as before. -/
theorem yields_writeFwMeta {bank : Bank} {m : NvFwMeta}
    (fails : (!nv.slotInRange set || faults .fwMeta) = true → ∀ e, R (.err (f e)) nv)
    (lands : nv.slotInRange set = true → faults .fwMeta = false →
      R (.ok ()) (nv.putFwMeta set bank m)) :
  Yields (mapErr f (writeFwMeta faults set bank m)) nv R
  := by
  rw [Yields, mapErr, writeFwMeta, run_get_bind, run_ite]
  cases inRange : nv.slotInRange set with
  | false => exact fails (by rw [inRange]; rfl) _
  | true =>
    exact yields_nvWrite (fun fault => fails (by rw [fault, Bool.or_true]) _) (lands inRange)

/-- The runtime data is copied within a slot of the store, or the store is as before. -/
theorem yields_copyRuntime {src dst : Bank}
    (fails : (!nv.slotInRange set || faults .runtime) = true → ∀ e, R (.err (f e)) nv)
    (lands : nv.slotInRange set = true → faults .runtime = false → ∀ r,
      R (.ok ()) (nv.putRuntime set dst r)) :
  Yields (mapErr f (copyRuntime faults set src dst)) nv R
  := by
  rw [Yields, mapErr, copyRuntime, run_get_bind, writeRuntime, run_get_bind, run_ite]
  cases inRange : nv.slotInRange set with
  | false => exact fails (by rw [inRange]; rfl) _
  | true =>
    exact yields_nvWrite (fun fault => fails (by rw [fault, Bool.or_true]) _) fun fault =>
      lands inRange fault _

end

end Nv
