import MachineManager.Nv.Slot
import MachineManager.Nv.Store

/-!
# Installing, committing and rolling back

The NV side of the update flow: `install` stages an image on the other bank and puts it on trial,
`commit` and `rollback` end the trial, and the boot stage counts trial boots and gives a trial up
when they run out or the image does not verify. A single-bank slot is overwritten in place and stays
committed.

SHA-256 and the checksum of the image are the parameters `sha256` and `crc`. Counters wrap, as in a
release build; indexing the boot state past its capacity does not return.
-/

namespace Nv

open Buffer Call

inductive OtaError
  | inTrial
  | securityVersionTooLow (image floor : UInt32)
  | alreadyCommitted
  | notInTrial
  | noBootState
  | nvError (e : BlockError)
deriving DecidableEq

/-- What an incoming image says about itself, as far as it goes into NV. -/
structure ImageMeta where
  fwSeq : UInt32 := 0
  fwSecver : UInt32 := 0
deriving DecidableEq

/-- The result of an install. -/
structure InstallResult where
  targetBank : Bank
  imageSha256 : Buffer 32
  gen : UInt64
deriving DecidableEq

section

variable (faults : NvFaults)

/-! ### Install -/

def installedMeta (imageSha256 : Buffer 32) (fwCrc : UInt32) (info : ImageMeta)
    (minSecurityVer : UInt32) (gen : UInt64) : NvFwMeta :=
  { writeSeq := 0, fwSeq := info.fwSeq, fwSecver := info.fwSecver, fwCrc, imageSha256,
    minSecurityVer, gen }

/-- Write the metadata of the new image and then the boot entry that makes it count. -/
def installInner (set : BankSet) (state : NvBootState) (active : Bank) (imageSha256 : Buffer 32)
    (fwCrc : UInt32) (info : ImageMeta) (singleBank : Bool) :
    Call NvStore OtaError InstallResult := do
  let nv ← get
  if singleBank then
    let nextGen := genOf (nv.readFwMeta set .A) + 1
    mapErr .nvError
      (writeFwMeta faults set .A (installedMeta imageSha256 fwCrc info info.fwSecver nextGen))
    mapErr .nvError (writeBootState faults
      (state.setBank set { activeBank := .A, committed := true, bootCount := 0 }))
    return { targetBank := .A, imageSha256, gen := nextGen }
  else
    let target := active.other
    mapErr .nvError (copyRuntime faults set active target)
    let minSecurityVer := floorOf (nv.readFwMeta set active)
    let nextGen := genOf (nv.readFwMeta set active) + 1
    mapErr .nvError (writeFwMeta faults set target
      (installedMeta imageSha256 fwCrc info minSecurityVer nextGen))
    mapErr .nvError (writeBootState faults
      (state.setBank set { activeBank := target, committed := false, bootCount := 0 }))
    return { targetBank := target, imageSha256, gen := nextGen }

/-- The checks before an install, and the install: the slot must be committed and the image no older
than the floor of the active bank. -/
def installChecked (set : BankSet) (imageSha256 : Buffer 32) (fwCrc : UInt32) (info : ImageMeta)
    (singleBank : Bool) : Call NvStore OtaError InstallResult := do
  let nv ← get
  let state ← ofOption nv.readBootState .noBootState
  let bs ← orStop (state.bank? set)
  if !bs.committed then fail .inTrial
  else if info.fwSecver < floorOf (nv.readFwMeta set bs.activeBank) then
    fail (.securityVersionTooLow info.fwSecver (floorOf (nv.readFwMeta set bs.activeBank)))
  else installInner faults set state bs.activeBank imageSha256 fwCrc info singleBank

def install (sha256 : List UInt8 → Buffer 32) (crc : List UInt8 → UInt32) (set : BankSet)
    (imageData : List UInt8) (info : ImageMeta) (singleBank : Bool) :
    Call NvStore OtaError InstallResult :=
  installChecked faults set (sha256 imageData) (crc imageData) info singleBank

/-- Install an image that was streamed to its bank; the checksum is one of its size. -/
def installPrecomputed (crc : List UInt8 → UInt32) (set : BankSet) (imageSha256 : Buffer 32)
    (imageSize : UInt64) (info : ImageMeta) (singleBank : Bool) :
    Call NvStore OtaError InstallResult :=
  installChecked faults set imageSha256 (crc (leBytes 8 imageSize.toNat).toList) info singleBank

/-! ### Verdicts -/

/-- Raise the floor of the bank on trial to its security version. -/
def raiseFloor (set : BankSet) (active : Bank) : Call NvStore OtaError Unit := do
  let nv ← get
  match nv.readFwMeta set active with
  | none => return ()
  | some m =>
    if m.fwSecver > m.minSecurityVer then
      mapErr .nvError (writeFwMeta faults set active { m with minSecurityVer := m.fwSecver })
    else return ()

def commit (set : BankSet) : Call NvStore OtaError Unit := do
  let nv ← get
  let state ← ofOption nv.readBootState .noBootState
  let bs ← orStop (state.bank? set)
  if bs.committed then fail .alreadyCommitted
  else
    raiseFloor faults set bs.activeBank
    mapErr .nvError (writeBootState faults
      (state.setBank set { bs with committed := true, bootCount := 0 }))

def rollback (set : BankSet) : Call NvStore OtaError Bank := do
  let nv ← get
  let state ← ofOption nv.readBootState .noBootState
  let bs ← orStop (state.bank? set)
  if bs.committed then fail .notInTrial
  else
    let previous := bs.activeBank.other
    mapErr .nvError (writeBootState faults
      (state.setBank set { activeBank := previous, committed := true, bootCount := 0 }))
    return previous

/-! ### The boot stage -/

/-- What the boot stage reports for a slot. -/
inductive BootAction
  | boot (bank : Bank)
  | trialBoot (bank : Bank) (bootCount : UInt8)
  | autoRollback (src dst : Bank)
  | hashRollback (src dst : Bank)
  | hashFatal (bank : Bank)
  | firstBoot
deriving DecidableEq

inductive BootError
  | nv (e : BlockError)
deriving DecidableEq

def bootTurn (bs : BankBootState) : BootAction × BankBootState :=
  if bs.committed then (.boot bs.activeBank, bs)
  else
    let bootCount := bs.bootCount + 1
    if bootCount > MAX_TRIAL_BOOTS then
      (.autoRollback bs.activeBank bs.activeBank.other,
        { activeBank := bs.activeBank.other, committed := true, bootCount := 0 })
    else (.trialBoot bs.activeBank bootCount, { bs with bootCount })

/-- The boot state after every slot of the store has had its turn. -/
def bootedState (slots : Nat) (state : NvBootState) : NvBootState :=
  { state with
    banks := Vector.ofFn fun i =>
      if i.val < slots then (bootTurn (state.banks.get i)).2 else state.banks.get i }

def processBootNv : Call NvStore BootError (List BootAction) := do
  let nv ← get
  match nv.readBootState with
  | none =>
    mapErr .nv (writeBootState faults {})
    return List.replicate nv.slotCount .firstBoot
  | some state =>
    let turns := state.banks.toList.take nv.slotCount
    if turns.any fun bs => !bs.committed then
      mapErr .nv (writeBootState faults (bootedState nv.slotCount state))
      return turns.map fun bs => (bootTurn bs).1
    else return turns.map fun bs => (bootTurn bs).1

/-- The image of a slot did not verify: fatal when committed, else the trial is given up. -/
def handleHashFailure (set : BankSet) : Call NvStore BootError BootAction := do
  let nv ← get
  match nv.readBootState with
  | none => return .firstBoot
  | some state =>
    let bs ← orStop (state.bank? set)
    if bs.committed then return .hashFatal bs.activeBank
    else
      mapErr .nv (writeBootState faults (state.setBank set
          { activeBank := bs.activeBank.other, committed := true, bootCount := 0 }))
      return .hashRollback bs.activeBank bs.activeBank.other

end

end Nv
