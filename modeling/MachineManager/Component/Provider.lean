import MachineManager.Nv.Ota
import MachineManager.SystemBank.Manager

/-!
# The provider of a component's banks

`IvdBankProvider` keeps the NV slot of a component and its entry of the boot vector together. The
NV store and the manager of the boot vector are shared by all components of the node: a provider
writes its own slot and its own entry, but it seals, commits and rolls back the vector as a whole.

An activation stages and seals the entry; the caller arms NV only when it returns. A commit writes
NV first and the vector second, a rollback the vector first and NV second.
-/

/-- The text of a device error; that of the I/O error behind it is given. -/
def Nv.BlockError.text (io : String) : Nv.BlockError → String
  | .io => s!"I/O error: {io}"
  | .outOfBounds offset len size => s!"access at {offset}+{len} exceeds device size {size}"

def Nv.OtaError.text (io : String) : Nv.OtaError → String
  | .inTrial => "bank set is in trial mode"
  | .securityVersionTooLow image floor => s!"image security version {image} below floor {floor}"
  | .alreadyCommitted => "bank set is already committed"
  | .notInTrial => "bank set is not in trial mode"
  | .noBootState => "NV boot state not initialized"
  | .nvError e => s!"NV error: {e.text io}"

def Selector.SelectorError.text : Selector.SelectorError → String
  | .io e => s!"boot vector store I/O error: {e}"
  | .serialize e => s!"boot vector serialize error: {e}"
  | .unreadable e => s!"boot vector record unreadable: {e}"
  | .noTrial => "nothing to roll back: the primary already is the committed copy"

namespace ComponentMgr

open Call Nv Selector SystemBank

inductive BankError
  | failed (message : String)
deriving DecidableEq

def BankError.text : BankError → String
  | failed message => s!"bank operation failed: {message}"

def vectorError (what : String) (e : SelectorError) : BankError :=
  .failed s!"{what}: {e.text}"

/-! ### What the components of a node share -/

/-- The NV store, and the boot vector with its manager. -/
structure Shared (σ : Type) where
  nv : NvStore
  running : Running σ

/-- What activation asks for before the new image runs. -/
inductive ResetKind
  | none
  | local
  | requiresEcuReset
deriving DecidableEq

/-- What the manifest of a bank records; nothing without a manifest. -/
structure BankContents where
  images : BTreeMap ImageEntry := ∅
  installBootId : Option String := none

/-- What a call of a provider meets: the store of the boot vector and the NV writes with their
faults, the text of an I/O error, the error of the activator if it fails, and the manifests. -/
structure Environment (σ : Type) where
  store : SelectorStore σ
  nvFaults : NvFaults := noNvFault
  ioError : String := ""
  activatorError : Option String := none
  readBank : Bank → BankContents := fun _ => {}

section Shared

variable {σ ε α : Type}

def onNv (c : Call NvStore ε α) : Call (Shared σ) ε α :=
  zoom Shared.nv (fun nv x => { x with nv }) c

def onVector (c : Call (Running σ) ε α) : Call (Shared σ) ε α :=
  zoom Shared.running (fun running x => { x with running }) c

end Shared

/-! ### The provider -/

/-- What a provider is made with. `bankActivator` is the reset that its activator asks for,
`selector` says whether the boot vector of the node is wired to it. -/
structure IvdBankProvider where
  bankSet : BankSet
  componentId : String
  singleBank : Bool := false
  imagesDir : Bool := true
  dirName : String
  bankActivator : Option ResetKind := none
  runningBank : Bank := .A
  selector : Bool := true
  nodeBootId : Option String := none

/-- How the banks of a component stand. -/
structure ComponentBanks where
  inTrial : Bool
  pendingReset : Bool
deriving DecidableEq

namespace IvdBankProvider

variable {σ : Type} (p : IvdBankProvider)

def resetKind : ResetKind :=
  p.bankActivator.getD .local

section Reads

variable (x : Shared σ)

def selectedBank : Option Bank :=
  if p.selector then x.running.manager.activeBank p.componentId else none

def activeBank : Bank :=
  (p.selectedBank x).getD p.runningBank

/-- The entry of the slot in the boot state; there is none before the first one is written. -/
def bootState (nv : NvStore) : Option BankBootState :=
  nv.readBootState.bind (·.bank? p.bankSet)

def fallbackTargetActive : Bank :=
  ((p.bootState x.nv).map (·.activeBank)).getD .A

/-- A reboot is owed: the vector selects another bank than NV. -/
def pendingReboot : Bool :=
  (p.selectedBank x).any (· != p.fallbackTargetActive x)

/-- The trial is the vector's with a vector, and NV's without one. -/
def inTrial : Bool :=
  if p.selector then x.running.manager.componentInTrial p.componentId
  else (p.bootState x.nv).any (!·.committed)

def banks (readBank : Bank → BankContents) : ComponentBanks where
  inTrial := p.inTrial x
  pendingReset :=
    let active := readBank (p.activeBank x)
    p.resetKind = .requiresEcuReset ∧ active.installBootId.isSome ∧
    active.installBootId = p.nodeBootId

end Reads

section Calls

variable (κ : Signing) (env : Environment σ)

def withSelector (what : String) (c : Call (Running σ) SelectorError Unit) :
    Call (Shared σ) BankError Unit :=
  if p.selector then mapErr (vectorError what) (onVector c)
  else pure ()

/-- The activator runs first, if there is one and there are banks on disk for it. -/
def runActivator : Call (Shared σ) BankError Unit :=
  match env.activatorError.filter fun _ => p.bankActivator.isSome && p.imagesDir with
  | some e => fail (.failed s!"bank activation failed: {e}")
  | none => pure ()

def sealEntry (bank : Bank) : Call (Running σ) SelectorError Unit := do
  stage p.componentId bank (env.readBank bank).images
  let _ ← sealPending κ env.store p.nodeBootId

def activate (bank : Bank) : Call (Shared σ) BankError ResetKind := do
  p.runActivator env
  p.withSelector s!"boot-vector write failed for {p.dirName}" (p.sealEntry κ env bank)
  return p.resetKind

/-- The commit of the slot, for which a committed slot is fine. -/
def commitNv : Call (Shared σ) BankError Unit := do
  match ← attempt (onNv (Nv.commit env.nvFaults p.bankSet)) with
  | .ok () | .error .alreadyCommitted => return ()
  | .error e => fail (.failed (e.text env.ioError))

def commit : Call (Shared σ) BankError Unit := do
  p.commitNv env
  p.withSelector "boot-vector commit failed" (SystemBank.commit env.store)

def rollbackTarget : Call (Shared σ) BankError Bank := do
  let x ← get
  let state ← ofOption x.nv.readBootState (.failed (OtaError.noBootState.text env.ioError))
  let bs ← orStop (state.bank? p.bankSet)
  if bs.committed then fail (.failed (OtaError.notInTrial.text env.ioError))
  else return bs.activeBank.other

def rollback : Call (Shared σ) BankError Unit := do
  let _ ← p.rollbackTarget env
  p.withSelector "boot-vector rollback failed" (SystemBank.rollback env.store .verdict)
  let _ ← mapErr (fun e => .failed (e.text env.ioError)) (onNv (Nv.rollback env.nvFaults p.bankSet))

end Calls

end IvdBankProvider

/-! ### Any of the calls -/

/-- A call of a provider that writes the boot vector. -/
inductive ProviderOp
  | activate (bank : Bank)
  | commit
  | rollback
deriving DecidableEq

def ProviderOp.run {σ : Type} (κ : Signing) (env : Environment σ) (p : IvdBankProvider) :
    ProviderOp → Call (Shared σ) BankError Unit
  | activate bank => do let _ ← p.activate κ env bank
  | commit => p.commit env
  | rollback => p.rollback env

/-! ### What the calls do -/

section Moves

variable {σ : Type} (κ : Signing) (env : Environment σ) (p : IvdBankProvider)

def IvdBankProvider.staged (bank : Bank) (n : Running σ) : Running σ :=
  { n with
    manager := n.manager.withStaged p.componentId { bank, images := (env.readBank bank).images } }

/-- How a call of a provider with a boot vector follows the calls of its manager and its NV
store. -/
inductive ProviderMove (x : Shared σ) : ProviderOp → Ending BankError Unit → Shared σ → Prop
  | unactivated (bank : Bank) (e : BankError) : ProviderMove x (.activate bank) (.err e) x
  | activates (bank : Bank) (res : Ending SelectorError Bool) (r : Running σ)
      (move : OpMove κ env.store (p.staged env bank x.running) (.sealPending p.nodeBootId)
        (res.map .sealed) r) (f : SelectorError → BankError) :
      ProviderMove x (.activate bank) ((res.map fun _ => ()).mapErr f) { x with running := r }
  | uncommitted (res : Ending OtaError Unit) (nv : NvStore)
      (call : Nv.commit env.nvFaults p.bankSet x.nv = (res, nv))
      (refused : res ≠ .ok () ∧ res ≠ .err .alreadyCommitted) (f : OtaError → BankError) :
      ProviderMove x .commit (res.mapErr f) { x with nv }
  | commits (nv : NvStore) (call : Nv.commit env.nvFaults p.bankSet x.nv = (.ok (), nv) ∨
        Nv.commit env.nvFaults p.bankSet x.nv = (.err .alreadyCommitted, nv))
      (res : Ending SelectorError Unit) (r : Running σ)
      (move : OpMove κ env.store x.running .commit (res.map fun _ => .done) r)
      (f : SelectorError → BankError) :
      ProviderMove x .commit (res.mapErr f) ⟨nv, r⟩
  | refused (res : Ending BankError Unit) (refused : res ≠ .ok ())
      (settled : ∀ bs, p.bootState x.nv = some bs → bs.committed = true) :
      ProviderMove x .rollback res x
  | unreturned (res : Ending SelectorError Unit) (r : Running σ)
      (move : OpMove κ env.store x.running (.rollback .verdict) (res.map fun _ => .done) r)
      (failed : res ≠ .ok ()) (f : SelectorError → BankError) :
      ProviderMove x .rollback (res.mapErr f) { x with running := r }
  | rollsBack (r : Running σ)
      (move : OpMove κ env.store x.running (.rollback .verdict) (.ok .done) r)
      (res : Ending OtaError Bank) (nv : NvStore)
      (call : Nv.rollback env.nvFaults p.bankSet x.nv = (res, nv)) (f : OtaError → BankError) :
      ProviderMove x .rollback ((res.map fun _ => ()).mapErr f) ⟨nv, r⟩

variable {κ env p} {x : Shared σ}

theorem IvdBankProvider.withSelector_wired (wired : p.selector = true) (what : String)
    {c : Call (Running σ) SelectorError Unit} {res : Ending SelectorError Unit} {r : Running σ}
    (call : c x.running = (res, r)) :
  p.withSelector what c x = (res.mapErr (vectorError what), { x with running := r })
  := by
  rw [withSelector, run_ite, if_pos wired]
  apply run_mapErr
  apply run_zoom call

theorem IvdBankProvider.runActivator_cases (env : Environment σ) (x : Shared σ) :
  (∃ e, p.runActivator env x = (.err e, x)) ∨ p.runActivator env x = (.ok (), x)
  := by
  rw [runActivator]
  cases env.activatorError.filter fun _ => p.bankActivator.isSome && p.imagesDir with
  | some =>
    left
    refine ⟨_, rfl⟩
  | none =>
    right
    rfl

theorem IvdBankProvider.commitNv_cases {res : Ending OtaError Unit} {nv : NvStore}
    (call : Nv.commit env.nvFaults p.bankSet x.nv = (res, nv)) :
  (res = .ok () ∨ res = .err .alreadyCommitted) ∧ p.commitNv env x = (.ok (), { x with nv }) ∨
  (res ≠ .ok () ∧ res ≠ .err .alreadyCommitted) ∧
    p.commitNv env x = (res.mapErr fun e => .failed (e.text env.ioError), { x with nv })
  := by
  have onNv_eq : onNv (Nv.commit env.nvFaults p.bankSet) x = (res, { x with nv }) :=
    run_zoom call
  rw [commitNv]
  cases res with
  | ok =>
    left
    use .inl rfl
    rw [run_bind_ok (run_attempt_ok onNv_eq)]
    rfl
  | err e =>
    rw [run_bind_ok (run_attempt_err onNv_eq)]
    by_cases committed : e = .alreadyCommitted
    · left
      subst committed
      use .inr rfl
      rfl
    · right
      constructor
      · use nofun
        rintro ⟨⟩
        apply committed rfl
      · cases e with
        | alreadyCommitted => apply absurd rfl committed
        | _ => rfl
  | stopped =>
    right
    use ⟨nofun, nofun⟩
    rw [run_bind_stopped (run_attempt_stopped onNv_eq)]
    rfl

theorem IvdBankProvider.rollbackTarget_cases (env : Environment σ) (x : Shared σ) :
  (∃ res : Ending BankError Bank, (∀ b, res ≠ .ok b) ∧
    (∀ bs, p.bootState x.nv = some bs → bs.committed = true) ∧ p.rollbackTarget env x = (res, x)) ∨
  ∃ bs, p.bootState x.nv = some bs ∧ bs.committed = false ∧
    p.rollbackTarget env x = (.ok bs.activeBank.other, x)
  := by
  rw [rollbackTarget, run_get_bind, bootState]
  cases x.nv.readBootState with
  | none =>
    left
    refine ⟨.err _, nofun, nofun, rfl⟩
  | some state =>
    rw [run_ofOption_some_bind, Option.bind_some]
    cases state.bank? p.bankSet with
    | none =>
      left
      refine ⟨.stopped, nofun, nofun, rfl⟩
    | some bs =>
      rw [run_orStop_some_bind, run_ite]
      cases committed : bs.committed with
      | true =>
        left
        refine ⟨.err _, nofun, ?_, if_pos rfl⟩
        rintro _ ⟨⟩
        apply committed
      | false =>
        right
        use bs, rfl, committed
        apply if_neg Bool.false_ne_true

section

variable (wired : p.selector = true)
include wired

/-- An activation whose activator did its work. -/
theorem IvdBankProvider.activate_eq {bank : Bank}
    (activated : p.runActivator env x = (.ok (), x)) {res : Ending SelectorError Bool}
    {r : Running σ}
    (call : sealPending κ env.store p.nodeBootId (p.staged env bank x.running) = (res, r)) :
  (ProviderOp.activate bank).run κ env p x =
    ((res.map fun _ => ()).mapErr (vectorError s!"boot-vector write failed for {p.dirName}"),
      { x with running := r })
  := by
  have sealed : p.sealEntry κ env bank x.running = (res.map fun _ => (), r) := by
    show (sealPending κ env.store p.nodeBootId >>= fun _ => pure ())
      (p.staged env bank x.running) = _
    rw [run_bind, call]
    cases res <;> rfl
  have written := withSelector_wired wired s!"boot-vector write failed for {p.dirName}" sealed
  rw [ProviderOp.run, activate, run_bind, run_bind_ok activated, run_bind, written]
  cases res <;> rfl

open ProviderMove

theorem IvdBankProvider.activate_moves (bank : Bank) :
  ProviderMove κ env p x (.activate bank) ((ProviderOp.activate bank).run κ env p x).1
    ((ProviderOp.activate bank).run κ env p x).2
  := by
  rcases p.runActivator_cases env x with ⟨e, failed⟩ | activated
  · rw [ProviderOp.run, activate, run_bind_err (run_bind_err failed _)]
    apply unactivated
  · rcases call : sealPending κ env.store p.nodeBootId (p.staged env bank x.running) with ⟨res, r⟩
    rw [activate_eq wired activated call]
    apply activates bank res r (Op.moves_of rfl call)

theorem IvdBankProvider.commit_moves :
  ProviderMove κ env p x .commit (ProviderOp.commit.run κ env p x).1
    (ProviderOp.commit.run κ env p x).2
  := by
  rw [ProviderOp.run, commit]
  rcases call : Nv.commit env.nvFaults p.bankSet x.nv with ⟨res, nv⟩
  rcases commitNv_cases call with ⟨committed, eq⟩ | ⟨refused, eq⟩
  · rcases vector : SystemBank.commit env.store x.running with ⟨answer, r⟩
    rw [run_bind_ok eq, withSelector_wired (x := { x with nv }) wired _ vector]
    apply commits nv _ answer r (Op.moves_of rfl vector)
    rcases committed with rfl | rfl
    · left
      apply call
    · right
      apply call
  · have move := uncommitted (κ := κ) res nv call refused fun e =>
      .failed (e.text env.ioError)
    rw [run_bind, eq]
    cases res with
    | ok => apply absurd rfl refused.1
    | err | stopped => apply move

theorem IvdBankProvider.rollback_moves :
  ProviderMove κ env p x .rollback (ProviderOp.rollback.run κ env p x).1
    (ProviderOp.rollback.run κ env p x).2
  := by
  rw [ProviderOp.run, rollback]
  rcases p.rollbackTarget_cases env x with ⟨res, failed, settled, eq⟩ | ⟨_, -, -, eq⟩
  · rw [run_bind, eq]
    cases res with
    | ok b => apply absurd rfl (failed b)
    | err e => apply refused (.err e) nofun settled
    | stopped => apply refused .stopped nofun settled
  · rcases vector : SystemBank.rollback env.store .verdict x.running with ⟨answer, r⟩
    have move : OpMove κ env.store x.running (.rollback .verdict) (answer.map fun _ => .done) r :=
      Op.moves_of rfl vector
    have eq' := withSelector_wired wired "boot-vector rollback failed" vector
    rw [run_bind_ok eq]
    cases answer with
    | ok =>
      rcases call : Nv.rollback env.nvFaults p.bankSet x.nv with ⟨res, nv⟩
      have onNv_eq : onNv (Nv.rollback env.nvFaults p.bankSet) { x with running := r } =
        (res, (⟨nv, r⟩ : Shared σ)) := run_zoom call
      have final := rollsBack r move res nv call fun e => .failed (e.text env.ioError)
      rw [run_bind_ok eq', run_bind, run_mapErr onNv_eq]
      cases res <;> apply final
    | err e =>
      rw [run_bind_err eq']
      apply unreturned (.err e) r move nofun
    | stopped =>
      rw [run_bind_stopped eq']
      apply unreturned .stopped r move nofun (vectorError "boot-vector rollback failed")

end

variable (κ env x)

/-- Every call of a provider with a boot vector is covered. -/
theorem ProviderOp.moves (wired : p.selector = true) (op : ProviderOp) :
  ProviderMove κ env p x op (op.run κ env p x).1 (op.run κ env p x).2
  := by
  cases op with
  | activate => apply p.activate_moves wired
  | commit => apply p.commit_moves wired
  | rollback => apply p.rollback_moves wired

end Moves

end ComponentMgr
