import MachineManager.Component.Provider

/-!
# Components

A component of the node, as the registry sees it: what it can do, how far its update has come, and
the calls that end a trial. Two kinds are banked: a `ComponentBackend` behind its provider, whose
trial is that of the boot vector, and an `AppComponent`, whose trial is that of its NV slot. Every
component has a memory that is lost with the process; NV and the boot vector are shared.
-/

namespace ComponentMgr

open Call Nv Selector SystemBank

/-- How far the update of a component has come. -/
inductive FlashState
  | initial
  | preparing
  | transferring
  | validated
  | awaitingActivation
  | awaitingReboot
  | verifying
  | activated
  | committed
  | rolledBack
  | complete
  | failed
deriving DecidableEq

inductive BackendError
  | busy (message : String)
  | internal (message : String)
  | invalidRequest (message : String)
  | notSupported (message : String)
  | preconditionFailed (message : String)
deriving DecidableEq

inductive MachineError
  | notSupported (op : String)
  | notFound (id : String)
  | invalidArgument (message : String)
  | policyRejected (message : String)
  | busy (message : String)
  | manifestInvalid (message : String)
  | wrongTarget (message : String)
  | unknownFlashSession (id : String)
  | storage (message : String)
  | internal (message : String)
deriving DecidableEq

def MachineError.text : MachineError → String
  | notSupported op => s!"operation not supported: {op}"
  | notFound id => s!"component not found: {id}"
  | invalidArgument m => s!"invalid argument: {m}"
  | policyRejected m => s!"policy rejected: {m}"
  | busy m => s!"busy: {m}"
  | manifestInvalid m => s!"manifest invalid: {m}"
  | wrongTarget m => s!"wrong target: {m}"
  | unknownFlashSession id => s!"unknown flash session: {id}"
  | storage m => s!"storage error: {m}"
  | internal m => s!"internal error: {m}"

def MachineError.isBusy : MachineError → Bool
  | busy _ => true
  | _ => false

def mapBackendError : BackendError → MachineError
  | .busy m => .busy m
  | .internal m => .internal m
  | .invalidRequest m => .invalidArgument m
  | .notSupported _ => .notSupported "backend operation"
  | .preconditionFailed m => .busy m

def bankName : Bank → String
  | .A => "A"
  | .B => "B"

/-! ### Components, as the registry sees them -/

/-- What a component keeps in memory. The one phase of an upload is that it transfers. -/
structure Memory where
  uploadPhase : Bool := false
  flashTransfer : Option FlashState := none
  runningBank : Bank := .A
deriving DecidableEq

/-- What a component reaches: what all components share, and its own memory. -/
structure Local (σ : Type) where
  shared : Shared σ
  memory : Memory

/-- What a component that can be flashed is able to do. -/
structure FlashCaps where
  dualBank : Bool
  supportsRollback : Bool
  supportsTrialBoot : Bool
deriving DecidableEq

/-- What a node verdict uses of a component. -/
structure Component (σ : Type) where
  id : String
  flash : Option FlashCaps
  banks : Local σ → Option ComponentBanks
  activationState : Call (Local σ) MachineError (Option FlashState)
  preflightCommit : Call (Local σ) MachineError Unit
  commitInstall : Call (Local σ) MachineError Unit
  rollbackInstall : Call (Local σ) MachineError Unit

/-- What the calls of a component meet: the faults of its writes, whether the service of its machine
reports a fresh boot, and the error of the flip of its link if it fails. -/
structure World (σ : Type) where
  env : Environment σ
  freshHealth : Bool := false
  linkError : Option String := none

section Locals

variable {σ ε α : Type}

def onShared (c : Call (Shared σ) ε α) : Call (Local σ) ε α :=
  zoom Local.shared (fun shared l => { l with shared }) c

def isFlashed (nv : NvStore) (set : BankSet) (running : Bank) : Bool :=
  (nv.readFwMeta set running).isSome || (nv.readFwMeta set running.other).isSome

def Component.bare (id : String) (flash : Option FlashCaps) : Component σ where
  id
  flash
  banks _ := none
  activationState := pure none
  preflightCommit :=
    if flash.any fun f => f.dualBank || f.supportsTrialBoot then
      fail (.internal "banked component does not implement commit preflight")
    else pure ()
  commitInstall := fail (.notSupported "commit_install")
  rollbackInstall := fail (.notSupported "rollback_install")

end Locals

/-! ### Reboots that are owed -/

end ComponentMgr

namespace Nv.NvUpdateSession

def bit (set : BankSet) : Option UInt64 :=
  if set.asIndex < MAX_SLOTS then some (1 <<< UInt64.ofNat set.asIndex) else none

def owes (s : NvUpdateSession) (set : BankSet) : Bool :=
  (bit set).any fun b => s.rebootOwed &&& b != 0

/-- The record with the bit of a slot, armed in a boot; zero where the boot is not known. -/
def owe (s : NvUpdateSession) (set : BankSet) (armedBootId : Buffer 16) : NvUpdateSession :=
  { s with rebootOwed := (bit set).elim s.rebootOwed fun b => s.rebootOwed ||| b, armedBootId }

def clearOwed (s : NvUpdateSession) (set : BankSet) : NvUpdateSession :=
  { s with rebootOwed := (bit set).elim s.rebootOwed fun b => s.rebootOwed &&& ~~~b }

end Nv.NvUpdateSession

namespace ComponentMgr

open Call Nv Selector SystemBank

/-! ### The backend of a banked component -/

/-- What a backend is made with. Its id is the one under which its provider keeps its entry. -/
structure ComponentBackend where
  provider : IvdBankProvider
  singleBank : Bool := false
  supportsRollback : Bool := true
  vmServiceAddr : Bool := false

/-- A firmware package that is ready to be installed. -/
structure Package where
  imageSha256 : Buffer 32
  imageSize : UInt64
  imageMeta : ImageMeta
deriving DecidableEq

namespace ComponentBackend

variable {σ : Type} (b : ComponentBackend)

def nvBank : Call (Local σ) BackendError BankBootState := do
  let l ← get
  let state ← ofOption l.shared.nv.readBootState (.internal "no boot state")
  orStop (state.bank? b.provider.bankSet)

/-- A machine that is being verified is activated once its service reports a fresh boot. -/
def verify (w : World σ) : Call (Local σ) BackendError Unit := do
  let l ← get
  if l.memory.flashTransfer = some .verifying ∧ b.vmServiceAddr ∧ w.freshHealth then
    let bs ← b.nvBank
    modify fun l => { l with
      memory := { l.memory with runningBank := bs.activeBank, flashTransfer := some .activated } }
  else return ()

/-- The state of the update: of the upload, or of the transfer, or what the banks tell. -/
def stateOf (w : World σ) (l : Local σ) : FlashState :=
  if l.memory.uploadPhase then .transferring
  else
    match l.memory.flashTransfer with
    | some s => s
    | none =>
      let banks := b.provider.banks l.shared w.env.readBank
      if !isFlashed l.shared.nv b.provider.bankSet l.memory.runningBank then .initial
      else if banks.inTrial ∧ banks.pendingReset then .awaitingReboot
      else if banks.inTrial then .activated
      else .complete

def getActivationState (w : World σ) : Call (Local σ) BackendError FlashState := do
  b.verify w
  let l ← get
  return b.stateOf w l

/-- The bank that boots next. -/
def selected : Call (Local σ) BackendError Bank := do
  let l ← get
  match b.provider.selectedBank l.shared with
  | some bank => return bank
  | none => return (← b.nvBank).activeBank

def preflightCommit : Call (Local σ) BackendError Unit := do
  let l ← get
  if b.singleBank then return ()
  else if l.memory.flashTransfer = some .awaitingReboot then
    fail (.busy "commit refused: component is awaiting reboot")
  else
    let selected ← b.selected
    let running := l.memory.runningBank
    if selected ≠ running then
      fail (.busy ("commit refused: selected bank " ++ bankName selected ++
        " does not match running bank " ++ bankName running))
    else if b.provider.pendingReboot l.shared then
      fail (.busy "commit refused: bank provider reports a pending reboot")
    else return ()

/-- No reboot is owed any more; the record is written if it changes. -/
def resolveNodeTransaction (w : World σ) : Call (Local σ) BackendError Unit := do
  let l ← get
  let session := l.shared.nv.readUpdateSession.getD {}
  let cleared := session.clearOwed b.provider.bankSet
  if cleared.rebootOwed ≠ session.rebootOwed then
    mapErr (fun _ => .internal s!"nv write update-session: {w.env.ioError}")
      (onShared (onNv (writeUpdateSession w.env.nvFaults cleared)))
  else return ()

/-- A reboot is owed from now on; the record is written if it changes. -/
def setRebootOwed (κ : Signing) (w : World σ) : Call (Local σ) BackendError Unit := do
  let l ← get
  let session := l.shared.nv.readUpdateSession.getD {}
  let armed := session.owe b.provider.bankSet
    (b.provider.nodeBootId.elim (Buffer.zeros 16) (bootIdDigest κ))
  if armed.rebootOwed ≠ session.rebootOwed ∨ armed.armedBootId ≠ session.armedBootId then
    mapErr (fun _ => .internal s!"nv write update-session: {w.env.ioError}")
      (onShared (onNv (writeUpdateSession w.env.nvFaults armed)))
  else return ()

def onProvider (c : Call (Shared σ) BankError Unit) : Call (Local σ) BackendError Unit :=
  mapErr (fun e => .internal e.text) (onShared c)

def clearTransfer : Call (Local σ) BackendError Unit :=
  modify fun l => { l with memory := { l.memory with flashTransfer := none } }

def commitFlash (w : World σ) : Call (Local σ) BackendError Unit := do
  b.preflightCommit
  onProvider (b.provider.commit w.env)
  b.resolveNodeTransaction w
  clearTransfer

def rollbackFlash (w : World σ) : Call (Local σ) BackendError Unit := do
  if !b.supportsRollback then
    fail (.invalidRequest "rollback not supported for this component")
  else
    onProvider (b.provider.rollback w.env)
    b.resolveNodeTransaction w
    clearTransfer

/-- The package of a transfer, if it has one, is installed in NV; an error only shows in the log. -/
def installPackage (crc : List UInt8 → UInt32) (w : World σ) :
    Option Package → Call (Local σ) BackendError Unit
  | some package => do
    let _ ← attempt (onShared (onNv (installPrecomputed w.env.nvFaults crc b.provider.bankSet
      package.imageSha256 package.imageSize package.imageMeta b.singleBank)))
  | none => pure ()

def activateInstalled (κ : Signing) (w : World σ) : Call (Local σ) BackendError Unit := do
  let bs ← b.nvBank
  match ← attempt (onShared ((ProviderOp.activate bs.activeBank).run κ w.env b.provider)) with
  | .ok () => return ()
  | .error e =>
    let _ ← attempt (onShared (onNv (Nv.rollback w.env.nvFaults b.provider.bankSet)))
    fail (.internal s!"bank activation failed: {e.text}")

/-- What is left to do once the target bank is complete: install the package of the transfer,
activate the bank and wait for the reboot. -/
def installAndActivate (κ : Signing) (crc : List UInt8 → UInt32) (w : World σ)
    (package : Option Package) : Call (Local σ) BackendError Unit := do
  b.installPackage crc w package
  b.activateInstalled κ w
  modify fun l => { l with memory := { l.memory with
    flashTransfer := l.memory.flashTransfer.map fun _ =>
      if b.singleBank then .activated else .awaitingReboot } }
  if b.provider.resetKind = .requiresEcuReset then b.setRebootOwed κ w
  else return ()

def component (w : World σ) : Component σ where
  id := b.provider.componentId
  flash := some {
    dualBank := !b.singleBank
    supportsRollback := b.supportsRollback
    supportsTrialBoot := !b.singleBank }
  banks l := some (b.provider.banks l.shared w.env.readBank)
  activationState := mapErr mapBackendError do return some (← b.getActivationState w)
  preflightCommit := mapErr mapBackendError b.preflightCommit
  commitInstall := mapErr mapBackendError (b.commitFlash w)
  rollbackInstall := mapErr mapBackendError (b.rollbackFlash w)

end ComponentBackend

/-! ### Applications -/

/-- What an application is made with. -/
structure AppComponent where
  id : String
  slot : BankSet

namespace AppComponent

variable {σ : Type} (a : AppComponent)

def nvBank : Call (Local σ) MachineError (NvBootState × BankBootState) := do
  let l ← get
  let state ← ofOption l.shared.nv.readBootState (.internal "no boot state")
  let bs ← orStop (state.bank? a.slot)
  return (state, bs)

/-- Whether the slot is committed; it is without a boot state. -/
def committed (nv : NvStore) : Option Bool :=
  nv.readBootState.elim (some true) fun state => (state.bank? a.slot).map (·.committed)

def activationState : Call (Local σ) MachineError (Option FlashState) := do
  let l ← get
  let committed ← orStop (a.committed l.shared.nv)
  if !isFlashed l.shared.nv a.slot l.memory.runningBank then return some .initial
  else if committed then return some .committed
  else return some .activated

def preflightCommit : Call (Local σ) MachineError Unit := do
  let (_, bs) ← a.nvBank
  let l ← get
  if bs.committed = false ∧ bs.activeBank ≠ l.memory.runningBank then
    fail (.busy ("commit refused: selected bank " ++ bankName bs.activeBank ++
      " does not match running bank " ++ bankName l.memory.runningBank))
  else return ()

def writeBootState (w : World σ) (state : NvBootState) : Call (Local σ) MachineError Unit :=
  mapErr (fun e => .storage (e.text w.env.ioError))
    (onShared (onNv (Nv.writeBootState w.env.nvFaults state)))

/-- Raise the floor of the committed bank; an error goes unnoticed. -/
def raiseFloor (w : World σ) (bank : Bank) : Call (Local σ) MachineError Unit :=
  ignore (mapErr (fun e => .storage (e.text w.env.ioError))
    (onShared (onNv (Nv.raiseFloor w.env.nvFaults a.slot bank))))

def commitInstall (w : World σ) : Call (Local σ) MachineError Unit := do
  a.preflightCommit
  let (state, bs) ← a.nvBank
  if bs.committed then fail (.invalidArgument "already committed")
  else
    writeBootState w (state.setBank a.slot { bs with committed := true, bootCount := 0 })
    a.raiseFloor w bs.activeBank

/-- Let the link of the running application point to another bank. -/
def flipCurrentSymlink (w : World σ) : Call (Local σ) MachineError Unit :=
  match w.linkError with
  | some e => fail (.storage e)
  | none => pure ()

def rollbackInstall (w : World σ) : Call (Local σ) MachineError Unit := do
  let (state, bs) ← a.nvBank
  if bs.committed then fail (.policyRejected "cannot rollback committed boot")
  else
    writeBootState w (state.setBank a.slot
      { activeBank := bs.activeBank.other, committed := true, bootCount := 0 })
    flipCurrentSymlink w

def component (w : World σ) : Component σ where
  id := a.id
  flash := some { dualBank := true, supportsRollback := true, supportsTrialBoot := true }
  banks _ := none
  activationState := a.activationState
  preflightCommit := a.preflightCommit
  commitInstall := a.commitInstall w
  rollbackInstall := a.rollbackInstall w

end AppComponent

end ComponentMgr
