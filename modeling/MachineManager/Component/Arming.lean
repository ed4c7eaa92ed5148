import MachineManager.Component.Floor

/-!
# What a finalized update leaves

The end of an update installs its package in NV, and then activates the bank that NV names. An
install that fails only shows in the log: the call then activates the bank that was active before,
and succeeds. So a successful call leaves the update exactly if the install passes its checks and
none of its writes fails, or if the slot was armed like that already (`FlashOp.armed_iff`).
-/

open Option Nv

variable {set : BankSet} {nv nv' : NvStore}

namespace Nv

open Call

section Installs

variable {faults : NvFaults} {bs : BankBootState} {info : ImageMeta}
  {imageSha256 : Buffer 32} {fwCrc : UInt32} {r : InstallResult}

/-- An install with two banks passes its checks, and none of its writes fails. -/
structure Installs (faults : NvFaults) (set : BankSet) (info : ImageMeta) (nv : NvStore)
    (bs : BankBootState) : Prop where
  boot : (nv.slot set).boot = some bs
  committed : bs.committed = true
  inRange : nv.slotInRange set = true
  newer : (nv.slot set).floor ≤ info.fwSecver
  runtime : faults .runtime = false
  fwMeta : faults .fwMeta = false
  bootState : faults .bootState = false

def Slot.installed (s : Slot) (bs : BankBootState) (imageSha256 : Buffer 32) (fwCrc : UInt32)
    (info : ImageMeta) : Slot :=
  (s.setMeta bs.activeBank.other (installedMeta imageSha256 fwCrc info s.floor (s.gen + 1))).setBoot
    { activeBank := bs.activeBank.other, committed := false, bootCount := 0 }

theorem Slot.installed_fwMeta (s : Slot) :
  (s.installed bs imageSha256 fwCrc info).fwMeta bs.activeBank.other =
    some (installedMeta imageSha256 fwCrc info s.floor (s.gen + 1))
  := by
  rw [installed, setBoot, setMeta_fwMeta_self]

/-- An install that succeeds has passed its checks, and has armed the slot. -/
theorem installs_of_ok
    (call : installChecked faults set imageSha256 fwCrc info false nv = (.ok r, nv')) :
  ∃ bs, Installs faults set info nv bs ∧ nv'.slot set =
    (nv.slot set).installed bs imageSha256 fwCrc info
  := by
  obtain ⟨s, outcome, becomes⟩ := installChecked_outcome faults set imageSha256 fwCrc info false nv
  rw [call] at outcome becomes
  cases outcome with
  | absent _ ends => rcases ends with ends | ends <;> cases ends
  | @armed bs _ boot committed fresh lands booted =>
    have floor := Slot.floor_of_committed boot committed
    simp only [Bool.or_eq_false_iff, Bool.not_eq_false', Bool.not_false, Bool.true_and] at lands
    refine ⟨bs, ⟨boot, committed, lands.1.1, ?_, lands.1.2, lands.2, booted⟩, ?_⟩
    · rw [floor]
      exact UInt32.not_lt.mp fresh
    · rw [becomes.self, Slot.installed, floor, Slot.gen_of_committed boot committed]
      rfl

theorem Installs.ok (installs : Installs faults set info nv bs) (imageSha256 : Buffer 32)
    (fwCrc : UInt32) :
  ∃ r nv', installChecked faults set imageSha256 fwCrc info false nv = (.ok r, nv')
  := by
  obtain ⟨s, outcome, -⟩ := installChecked_outcome faults set imageSha256 fwCrc info false nv
  rcases call : installChecked faults set imageSha256 fwCrc info false nv with ⟨_, nv'⟩
  rw [call] at outcome
  cases outcome with
  | absent none => cases none.symm.trans installs.boot
  | onTrial boot trial =>
    cases installs.boot.symm.trans boot
    cases trial.symm.trans installs.committed
  | tooOld boot committed old =>
    cases installs.boot.symm.trans boot
    have newer := installs.newer
    rw [Slot.floor_of_committed boot committed] at newer
    exact absurd old (UInt32.not_lt.mpr newer)
  | unwritten _ _ _ fails => simp [installs.inRange, installs.runtime, installs.fwMeta] at fails
  | staged _ _ _ _ fails => cases fails.symm.trans installs.bootState
  | armed => exact ⟨_, nv', rfl⟩

/-- A slot on trial is left as it is. -/
theorem installChecked_of_trial (boot : (nv.slot set).boot = some bs) (trial : bs.committed = false)
    (imageSha256 : Buffer 32) (fwCrc : UInt32) (info : ImageMeta) (single : Bool) :
  installChecked faults set imageSha256 fwCrc info single nv = (.err .inTrial, nv)
  := by
  obtain ⟨_, read, entry⟩ := Option.bind_eq_some_iff.mp boot
  rw [installChecked, run_get_bind, read, run_ofOption_some_bind, entry,
    run_orStop_some_bind, run_ite, if_pos (by rw [trial]; decide)]
  rfl

end Installs

end Nv

namespace ComponentMgr

open Call Selector SystemBank

/-! ### Armed updates -/

/-- NV has the bank on trial, with the metadata of the package and the generation. -/
structure ArmedNv (set : BankSet) (package : Package) (bank : Bank) (gen : UInt64) (nv : NvStore) :
    Prop where
  boot : (nv.slot set).boot = some { activeBank := bank, committed := false, bootCount := 0 }
  installed : ∃ m, nv.readFwMeta set bank = some m ∧ m.fwSecver = package.imageMeta.fwSecver ∧
    m.imageSha256 = package.imageSha256 ∧ m.gen = gen

variable {package : Package} {bank : Bank} {gen : UInt64} {κ : Signing} {crc : List UInt8 → UInt32}

theorem ArmedNv.congr (same : nv'.slot set = nv.slot set)
    (armed : ArmedNv set package bank gen nv) :
  ArmedNv set package bank gen nv'
  := by
  obtain ⟨m, read, described⟩ := armed.installed
  refine ⟨?_, m, ?_, described⟩
  · rw [same, armed.boot]
  · rw [← NvStore.slot_fwMeta, same, NvStore.slot_fwMeta, read]

/-- What an install of the package leaves is armed for the other bank, with the next generation. -/
theorem armedNv_installed_iff {bs : BankBootState} {fwCrc : UInt32} (installed : nv'.slot set =
      (nv.slot set).installed bs package.imageSha256 fwCrc package.imageMeta) :
  ArmedNv set package bank gen nv' ↔ bank = bs.activeBank.other ∧ gen = (nv.slot set).gen + 1
  := by
  have written : nv'.readFwMeta set bs.activeBank.other = some
    (installedMeta package.imageSha256 fwCrc
      package.imageMeta (nv.slot set).floor ((nv.slot set).gen + 1)) := by
    rw [← NvStore.slot_fwMeta, installed, Slot.installed_fwMeta]
  have entry : (nv'.slot set).boot =
      some { activeBank := bs.activeBank.other, committed := false, bootCount := 0 } := by
    rw [installed]
    rfl
  constructor
  · rintro ⟨boot, m, read, -, -, sealed⟩
    obtain rfl : bs.activeBank.other = bank :=
      congrArg BankBootState.activeBank (some.inj (entry.symm.trans boot))
    rw [← some.inj (written.symm.trans read)] at sealed
    exact ⟨rfl, sealed.symm⟩
  · rintro ⟨rfl, rfl⟩
    exact ⟨entry, _, written, rfl, rfl, rfl⟩

section Backends

variable {σ : Type} (copies : σ → Copies) (b : ComponentBackend)

/-- The generation that is sealed in the manifest of the bank: the one after that of the committed
bank. -/
def ComponentBackend.installGenFor : Call (Shared σ) BackendError UInt64 := do
  let x ← get
  let state ← ofOption x.nv.readBootState (.internal "ivd sign: NV boot state missing")
  let bs ← orStop (state.bank? b.provider.bankSet)
  return genOf (x.nv.readFwMeta b.provider.bankSet bs.committedBank) + 1

/-- The update is armed: in NV, and in the boot vector. -/
structure Armed (package : Package) (bank : Bank) (gen : UInt64) (x : Shared σ) : Prop where
  nv : ArmedNv b.provider.bankSet package bank gen x.nv
  primary : (x.banksAt copies b.provider.componentId).1 = some bank

/-- The call is going to arm the update for the bank and the generation: the install passes its
checks and none of its writes fails, the bank is the one that it installs to, and the generation the
one that a seal would take now; or NV is armed already. A component that has no boot vector needs
one that names the bank. -/
structure Arms (faults : NvFaults) (package : Package) (bank : Bank) (gen : UInt64) (x : Shared σ) :
    Prop where
  nv : ArmedNv b.provider.bankSet package bank gen x.nv ∨
    ∃ bs, Installs faults b.provider.bankSet package.imageMeta x.nv bs ∧
      bank = bs.activeBank.other ∧ b.installGenFor x = (.ok gen, x)
  primary : b.provider.selector = true ∨ (x.banksAt copies b.provider.componentId).1 = some bank

namespace ComponentBackend

variable {copies b} {w : World σ} {l l' : Local σ} {x : Shared σ}

theorem installGenFor_eq {bs : BankBootState}
    (boot : (x.nv.slot b.provider.bankSet).boot = some bs) :
  b.installGenFor x = (.ok ((x.nv.slot b.provider.bankSet).gen + 1), x)
  := by
  obtain ⟨_, read, entry⟩ := bind_eq_some_iff.mp boot
  rw [installGenFor, run_get_bind, read, run_ofOption_some_bind, entry,
    run_orStop_some_bind, run_pure,
    Slot.gen, Slot.committedMeta, boot, Option.bind_some, NvStore.slot_fwMeta]

/-- What the install of a package makes of NV. -/
theorem installPackage_armed_iff (dual : b.singleBank = false)
    (call : b.installPackage crc w (some package) l = (.ok (), l')) (bank : Bank) (gen : UInt64) :
  l'.shared.running = l.shared.running ∧ (ArmedNv b.provider.bankSet package bank gen l'.shared.nv ↔
      ArmedNv b.provider.bankSet package bank gen l.shared.nv ∨
        ∃ bs, Installs w.env.nvFaults b.provider.bankSet package.imageMeta l.shared.nv bs ∧
          bank = bs.activeBank.other ∧ b.installGenFor l.shared = (.ok gen, l.shared))
  := by
  rcases installed : installPrecomputed w.env.nvFaults crc b.provider.bankSet package.imageSha256
    package.imageSize package.imageMeta b.singleBank l.shared.nv with ⟨res, nv⟩
  have called : onShared (onNv (installPrecomputed w.env.nvFaults crc b.provider.bankSet
      package.imageSha256 package.imageSize package.imageMeta b.singleBank)) l =
      (res, { l with shared := { l.shared with nv } }) := run_zoom (run_zoom installed)
  have left : l' = { l with shared := { l.shared with nv } } := by
    cases res with
    | ok =>
      cases (run_bind_ok (run_attempt_ok called) _).symm.trans call
      rfl
    | err =>
      cases (run_bind_ok (run_attempt_err called) _).symm.trans call
      rfl
    | stopped => cases (run_bind_stopped (run_attempt_stopped called) _).symm.trans call
  subst left
  refine ⟨rfl, ?_⟩
  rw [installPrecomputed, dual] at installed
  by_cases installs : ∃ bs, Installs w.env.nvFaults b.provider.bankSet package.imageMeta
      l.shared.nv bs
  · obtain ⟨bs, installs⟩ := installs
    obtain ⟨r, _, ok⟩ := installs.ok package.imageSha256
      (crc (Buffer.leBytes 8 package.imageSize.toNat).toList)
    cases ok.symm.trans installed
    obtain ⟨bs', again, slot⟩ := installs_of_ok ok
    cases installs.boot.symm.trans again.boot
    rw [armedNv_installed_iff slot]
    constructor
    · rintro ⟨rfl, rfl⟩
      exact .inr ⟨bs, installs, rfl, installGenFor_eq installs.boot⟩
    · rintro (armed | ⟨bs', again, rfl, sealed⟩)
      · cases armed.boot.symm.trans installs.boot
        cases installs.committed
      · cases installs.boot.symm.trans again.boot
        cases (installGenFor_eq installs.boot).symm.trans sealed
        exact ⟨rfl, rfl⟩
  · constructor
    · intro armed
      left
      rcases installChecked_boot installed with ⟨r, -, rfl, -⟩ | ⟨-, keeps⟩
      · obtain ⟨bs, installs', -⟩ := installs_of_ok installed
        exact absurd ⟨bs, installs'⟩ installs
      · have boot := (keeps b.provider.bankSet).symm.trans armed.boot
        cases (installChecked_of_trial boot rfl _ _ _ false).symm.trans installed
        exact armed
    · rintro (armed | ⟨bs, installs', -⟩)
      · cases (installChecked_of_trial armed.boot rfl _ _ _ false).symm.trans installed
        exact armed
      · exact absurd ⟨bs, installs'⟩ installs

/-- An activation that succeeds leaves NV as it is, and the boot vector names the bank if there is
one. -/
theorem activate_ok {p : IvdBankProvider} {env : Environment σ} (honours : Honours copies env.store)
    {y : Shared σ} (call : (ProviderOp.activate bank).run κ env p x = (.ok (), y)) :
  y.nv = x.nv ∧ (p.selector = true → (y.banksAt copies p.componentId).1 = some bank) ∧
    (p.selector = false → y.running = x.running)
  := by
  rcases p.runActivator_cases env x with ⟨e, failed⟩ | activated
  · rw [ProviderOp.run, IvdBankProvider.activate, run_bind_err (run_bind_err failed _)] at call
    cases call
  cases wired : p.selector with
  | true =>
    let pending := (x.running.manager.pending.getD x.running.manager.current).insert p.componentId
      { bank, images := (env.readBank bank).images }
    have staged : (p.staged env bank x.running).manager.pending = some pending := rfl
    rcases stored : env.store.activate pending (sealHeader κ p.nodeBootId) x.running.store with
      ⟨res, t⟩
    rw [IvdBankProvider.activate_eq wired activated (sealPending_some staged stored)] at call
    cases res with
    | err | stopped => cases call
    | ok =>
      cases call
      refine ⟨rfl, fun _ => ?_, by rintro ⟨⟩⟩
      rw [Shared.banksAt, Copies.banksAt, Copies.entriesAt, (honours.activate_ok stored).primary]
      change (pending[p.componentId]?).map (·.bank) = some bank
      rw [Std.ExtTreeMap.getElem?_insert_self]
      rfl
  | false =>
    have unwritten : p.withSelector s!"boot-vector write failed for {p.dirName}"
        (p.sealEntry κ env bank) x = (.ok (), x) := by
      rw [IvdBankProvider.withSelector, run_ite, if_neg (by rw [wired]; decide)]
      rfl
    rw [ProviderOp.run, IvdBankProvider.activate, run_bind, run_bind_ok activated,
      run_bind_ok unwritten] at call
    cases call
    exact ⟨rfl, by rintro ⟨⟩, fun _ => rfl⟩

/-- An activation of the active bank that succeeds. -/
theorem activateInstalled_ok (honours : Honours copies w.env.store)
    (call : b.activateInstalled κ w l = (.ok (), l')) :
  ∃ bs, (l.shared.nv.slot b.provider.bankSet).boot = some bs ∧ l'.shared.nv = l.shared.nv ∧
    (b.provider.selector = true → (l'.shared.banksAt copies b.provider.componentId).1 =
      some bs.activeBank) ∧ (b.provider.selector = false → l'.shared.running = l.shared.running)
  := by
  obtain ⟨bs, l₁, read, rest⟩ := ok_of_bind call
  obtain ⟨rfl, boot⟩ := b.nvBank_ok read
  rcases provided : (ProviderOp.activate bs.activeBank).run κ w.env b.provider l₁.shared
    with ⟨res, y⟩
  have called : onShared ((ProviderOp.activate bs.activeBank).run κ w.env b.provider) l₁ =
      (res, { l₁ with shared := y }) := run_zoom provided
  cases res with
  | ok =>
    rw [run_bind_ok (run_attempt_ok called)] at rest
    cases rest
    exact ⟨bs, boot, activate_ok honours provided⟩
  | err =>
    rw [run_bind_ok (run_attempt_err called)] at rest
    obtain ⟨_, _, -, failed⟩ := ok_of_bind rest
    cases failed
  | stopped =>
    rw [run_bind_stopped (run_attempt_stopped called)] at rest
    cases rest

/-- What is owed is no part of a slot. -/
theorem setRebootOwed_ok (call : b.setRebootOwed κ w l = (.ok (), l')) :
  l'.shared.running = l.shared.running ∧
    l'.shared.nv.slot b.provider.bankSet = l.shared.nv.slot b.provider.bankSet
  := by
  rw [setRebootOwed, run_get_bind, run_ite] at call
  split at call
  · rw [mapErr, onShared, onNv, zoom, zoom, writeUpdateSession, nvWrite] at call
    cases failed : w.env.nvFaults .updateSession with
    | true =>
      rw [failed] at call
      cases call
    | false =>
      rw [failed] at call
      cases call
      exact ⟨rfl, rfl⟩
  · cases call
    exact ⟨rfl, rfl⟩

/-- What a successful end of an update leaves is armed exactly if the call was going to arm it. -/
theorem installAndActivate_armed_iff (honours : Honours copies w.env.store)
    (dual : b.singleBank = false)
    (call : b.installAndActivate κ crc w (some package) l = (.ok (), l')) :
  Armed copies b package bank gen l'.shared ↔ Arms copies b w.env.nvFaults package bank gen l.shared
  := by
  obtain ⟨⟨⟩, l₁, installed, call⟩ := ok_of_bind call
  obtain ⟨⟨⟩, l₂, activated, call⟩ := ok_of_bind call
  obtain ⟨same, armed⟩ := installPackage_armed_iff dual installed bank gen
  obtain ⟨_, boot, nv, wired, unwired⟩ := activateInstalled_ok honours activated
  rw [run_modify_bind, run_ite] at call
  have left : l'.shared.running = l₂.shared.running ∧
      l'.shared.nv.slot b.provider.bankSet = l₁.shared.nv.slot b.provider.bankSet := by
    rw [← nv]
    split at call
    · have owed := setRebootOwed_ok call
      exact owed
    · cases call
      exact ⟨rfl, rfl⟩
  have banks : l'.shared.banksAt copies b.provider.componentId =
      l₂.shared.banksAt copies b.provider.componentId := by
    rw [Shared.banksAt, left.1, Shared.banksAt]
  constructor
  · rintro ⟨armedNv, primary⟩
    refine ⟨armed.mp (armedNv.congr left.2.symm), ?_⟩
    cases selects : b.provider.selector with
    | true => exact .inl rfl
    | false =>
      right
      rw [banks, Shared.banksAt, unwired selects, same] at primary
      exact primary
  · rintro ⟨armsNv, primary⟩
    have armedNv := armed.mpr armsNv
    refine ⟨armedNv.congr left.2, ?_⟩
    rw [banks]
    cases selects : b.provider.selector with
    | true =>
      rw [wired selects]
      exact congrArg (Option.map BankBootState.activeBank) (boot.symm.trans armedNv.boot)
    | false =>
      rw [selects] at primary
      rw [Shared.banksAt, unwired selects, same]
      rcases primary with impossible | named
      · cases impossible
      · exact named

end ComponentBackend

end Backends

/-! ### The end of an update -/

section Updates

variable {σ β δ : Type} {copies : σ → Copies} {b : FlashBackend} {d d' : Desk σ β δ}
    {op : FlashOp β δ}
  {hash : β → δ} {w : FlashWorld σ}

theorem FlashBackend.applyUpdate_ok (transfers : d.here.memory.flashTransfer.isSome = true)
    (given : d.flash.package = some package) (call : b.applyUpdate κ crc w d = (.ok (), d')) :
  ∃ l', b.installAndActivate κ crc w.toWorld (some package) d.here = (.ok (), l') ∧ d'.here = l'
  := by
  obtain ⟨_, transfer⟩ := isSome_iff_exists.mp transfers
  rw [applyUpdate, run_get_bind, transfer, bind_some, given] at call
  rcases installed : b.installAndActivate κ crc w.toWorld (some package) d.here with ⟨_, l'⟩
  rw [onHere, run_zoom installed] at call
  cases call
  exact ⟨l', rfl, rfl⟩

variable [DecidableEq δ]

open FlashBackend

/-- The calls before an update is applied leave the component as it is, up to the state of the
transfer. -/
theorem FlashOp.Applies.ok (applies : op.Applies b d)
    (transfers : d.here.memory.flashTransfer.isSome = true) (given : d.flash.package = some package)
    (call : op.run κ crc hash w b d = (.ok (), d')) :
  ∃ memory, b.installAndActivate κ crc w.toWorld (some package) { d.here with memory } =
    (.ok (), d'.here)
  := by
  cases applies with
  | finalizeFlash complete =>
    have applied := (finalizeFlash_of_complete complete).symm.trans call
    obtain ⟨_, installed, rfl⟩ := applyUpdate_ok transfers given applied
    exact ⟨d.here.memory, installed⟩
  | endReconcile reconciled =>
    change b.endReconcile hash κ crc w _ d = _ at call
    rw [FlashBackend.endReconcile, run_get_bind, reconciled] at call
    obtain ⟨⟨⟩, _, dropped, call⟩ := ok_of_bind call
    obtain ⟨⟨⟩, d₂, pushed, call⟩ := ok_of_bind call
    obtain ⟨⟨⟩, d₃, signed, call⟩ := ok_of_bind call
    obtain ⟨⟨⟩, _, completed, call⟩ := ok_of_bind call
    obtain ⟨⟨⟩, _, updated, applied⟩ := ok_of_bind call
    cases dropped
    cases completed
    cases updated
    let P : Desk σ β δ → Prop := fun e => e.here = d.here ∧ e.flash.package = some package
    have pushes : P d₂ := by
      refine (pushStreamed_keeps (P := P) (fun _ _ kept => kept) ?_).of_run pushed
      exact ⟨rfl, given⟩
    obtain ⟨here, package⟩ : P d₃ :=
      (ivdSignStagedBank_keeps (P := P) (fun _ _ _ kept => kept) pushes).of_run signed
    have transfers' : (d₃.here.memory.flashTransfer.map fun _ =>
      FlashState.awaitingActivation).isSome =
        true := by
      rw [Option.isSome_map, here, transfers]
    obtain ⟨_, installed, rfl⟩ := applyUpdate_ok (by exact transfers') (by exact package) applied
    dsimp only at installed
    rw [here] at installed
    exact ⟨_, installed⟩

/-- For any bank and any generation that were sealed in it: a call that applies an update and
succeeds leaves the update armed exactly if it was going to arm it. -/
theorem FlashOp.armed_iff (honours : Honours copies w.env.store) (dual : b.singleBank = false)
    (applies : op.Applies b d) (transfers : d.here.memory.flashTransfer.isSome = true)
    (given : d.flash.package = some package) (call : op.run κ crc hash w b d = (.ok (), d'))
    (bank : Bank) (gen : UInt64) :
  Armed copies b.toComponentBackend package bank gen d'.here.shared ↔
    Arms copies b.toComponentBackend w.env.nvFaults package bank gen d.here.shared
  := by
  obtain ⟨memory, installed⟩ := applies.ok transfers given call
  exact ComponentBackend.installAndActivate_armed_iff
    (l := { d.here with memory }) honours dual installed

end Updates

/-! ### A kernel whose install fails -/

namespace TwoMachines

def kernelSealed : Desk Store ℕ ℕ :=
  (perform site kernelStaged).desk "vm1"

def vm1Files : FlashBackend :=
  ComponentBackend.onFiles { provider := vm1 }

def finalized (faults : NvFaults) : Ending BackendError Unit × Desk Store ℕ ℕ :=
  FlashOp.finalizeFlash.run stubSigner (fun _ => 0) id
    { env := { working with nvFaults := faults } } vm1Files kernelSealed

theorem kernelSealed_applies :
  FlashOp.finalizeFlash.Applies vm1Files kernelSealed
  := by
  have complete : kernelSealed.flash.session = some .complete := by with_unfolding_all rfl
  refine .finalizeFlash fun m present session => ?_
  cases complete.symm.trans session

def kernelPackage : Package :=
  ⟨Buffer.zeros 32, 0, {}⟩

end TwoMachines

open TwoMachines in
/-- The boot state cannot be written: the call succeeds all the same, and the machine stays
committed on bank A. -/
theorem failed_install_reported :
  (kernelSealed.flash.area .B).signed = true ∧ FlashOp.finalizeFlash.Applies vm1Files kernelSealed ∧
    (finalized (· = .bootState)).1 = .ok () ∧
    ((finalized (· = .bootState)).2.here.shared.nv.slot vm1.bankSet).boot =
      some { activeBank := .A, committed := true, bootCount := 0 } ∧
    ((finalized (· = .bootState)).2.here.shared.banksAt InMemory.copies "vm1").1 = some .A ∧
    ∀ gen, ¬Armed InMemory.copies vm1Files.toComponentBackend kernelPackage .B gen
      (finalized (· = .bootState)).2.here.shared
  := by
  have boot : ((finalized (· = .bootState)).2.here.shared.nv.slot vm1.bankSet).boot =
      some { activeBank := .A, committed := true, bootCount := 0 } := by decide +kernel
  refine ⟨by decide +kernel, kernelSealed_applies, by decide +kernel, boot, by decide +kernel, ?_⟩
  intro gen armed
  cases boot.symm.trans armed.nv.boot

open TwoMachines in
/-- Nothing fails: the machine is armed for bank B, with the first generation. -/
theorem kernel_armed :
  kernelSealed.flash.package = some kernelPackage ∧ (finalized noNvFault).1 = .ok () ∧
    Armed InMemory.copies vm1Files.toComponentBackend kernelPackage .B 1
      (finalized noNvFault).2.here.shared
  := by
  have given : kernelSealed.flash.package = some kernelPackage := by decide +kernel
  have ok : (finalized noNvFault).1 = .ok () := by decide +kernel
  have boot : (kernelSealed.here.shared.nv.slot vm1.bankSet).boot = some {} := by decide +kernel
  have installs : Installs noNvFault vm1.bankSet kernelPackage.imageMeta kernelSealed.here.shared.nv
    {} :=
    ⟨boot, rfl, by decide +kernel, by decide +kernel, rfl, rfl, rfl⟩
  refine ⟨given, ok, ?_⟩
  refine (FlashOp.armed_iff (w := { env := working }) (b := vm1Files) InMemory.honours rfl
    kernelSealed_applies (by decide +kernel) given (Prod.ext ok rfl) .B 1).mpr ?_
  have gen : (kernelSealed.here.shared.nv.slot vm1.bankSet).gen + 1 = 1 := by decide +kernel
  refine ⟨.inr ⟨{}, installs, rfl, ?_⟩, .inl rfl⟩
  refine (ComponentBackend.installGenFor_eq boot).trans ?_
  rw [show vm1Files.provider.bankSet = vm1.bankSet from rfl, gen]

end ComponentMgr
