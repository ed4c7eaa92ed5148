import MachineManager.Component.Arming

/-!
# Disabling a component

A manifest may disable a component: its deactivator shuts it down, the bank that it serves from gets
a signed record of a new generation, and NV follows. The component is disabled while that bank holds
such a record, of the generation that NV has for the bank.

The component has to be committed for that, and without a reboot that is owed. This is read before
the deactivator runs, and nothing keeps an update from being finalized until the record is written.
So the call is cut here before each of its reads and writes, and while the deactivator runs.
-/

open Function List Option

namespace ComponentMgr

open Call Nv Selector SystemBank IvdBankProvider Upload FlashBackend ComponentBackend
  FlashOp NvStore

/-- A backend with a deactivator, or without one, and why its provider cannot persist a record if
that is so. -/
structure DisableBackend extends FlashBackend where
  deactivator : Bool := true
  unpersistable : Option BankError := none

/-- How the task of the deactivator ends. -/
inductive Deactivation
  | done (rebootRequired : Bool)
  | failed (message : String)
  | unjoined (message : String)
deriving DecidableEq

/-- How far a call has come that disables the component: the bank that it serves from is known, the
component was found idle, the deactivator is done, the record is written, and NV has followed. -/
inductive EnactPhase
  | called
  | idle
  | serving (bank : Bank)
  | admitted (bank : Bank) (gen : UInt64)
  | deactivated (bank : Bank) (gen : UInt64) (rebootRequired : Bool)
  | recorded (bank : Bank) (gen : UInt64) (rebootRequired : Bool)
  | ratcheted (bank : Bank) (gen : UInt64) (rebootRequired : Bool)
deriving DecidableEq

/-- What the calls of a component reach, with the generations of the records that disable it, bank
by bank, and the calls under way that disable it. -/
structure Premises (σ β δ : Type) where
  desk : Desk σ β δ
  records : Bank → Option UInt64 := fun _ => none
  enacts : ℕ → Option EnactPhase := fun _ => none

/-- The bank that the component serves from. -/
def ComponentBackend.servingBank {σ : Type} (b : ComponentBackend) (l : Local σ) : Bank :=
  (b.provider.selectedBank l.shared).getD l.memory.runningBank

def ComponentBackend.genOf {σ : Type} (b : ComponentBackend) (l : Local σ) (bank : Bank) :
    Option UInt64 :=
  (l.shared.nv.readFwMeta b.provider.bankSet bank).map (·.gen)

def disableBusy : BackendError :=
  .busy "disable refused: component is mid-trial or owes a reboot — retry when idle"

variable {σ β δ : Type} {hash : β → δ} {l l' : Local σ} {κ : Signing} {phase : EnactPhase}
  {s t : Premises σ β δ} {b : DisableBackend} {d : Desk σ β δ} {next : Option EnactPhase}

namespace DisableBackend

variable (b : DisableBackend)

def onLocal {α : Type} (c : Call (Local σ) BackendError α) : Call (Premises σ β δ) BackendError α :=
  zoom (fun s => s.desk.here) (fun here s => { s with desk := { s.desk with here } }) c

/-- The component can be disabled, and boots the bank that it serves from. -/
def admitIdle : Call (Local σ) BackendError Unit := do
  let l ← get
  if !b.deactivator then fail (.notSupported "component does not support administrative disable")
  else if b.provider.pendingReboot l.shared then fail disableBusy
  else return ()

def slotCommitted : Call (Local σ) BackendError Bool :=
  if b.singleBank then pure true
  else do return (← b.nvBank).committed

/-- The slot is committed and no reboot is owed; the generation of the bank is read along with
it. -/
def admitCommitted (bank : Bank) : Call (Local σ) BackendError UInt64 := do
  let l ← get
  let committed ← b.slotCommitted
  if !committed ∨ (l.shared.nv.readUpdateSession.getD {}).owes b.provider.bankSet then
    fail disableBusy
  else
    let gen ← ofOption (b.genOf l bank) (.preconditionFailed
      "no installed-firmware generation for the serving bank — nothing to disable")
    match b.unpersistable with
    | some e => fail (.preconditionFailed
        ("disable refused: the disable record cannot be persisted: " ++ e.text))
    | none => return gen

def deactivate : Deactivation → Call (Premises σ β δ) BackendError Bool
  | .done rebootRequired => pure rebootRequired
  | .failed message => fail (.internal ("deactivation failed: " ++ message))
  | .unjoined message => fail (.internal ("deactivator task join error: " ++ message))

def writeDisabledRecord (bank : Bank) (gen : UInt64) : Call (Premises σ β δ) BackendError Unit :=
  modify fun s => { s with records := Function.update s.records bank (some gen) }

def ratchet (w : World σ) (bank : Bank) (gen : UInt64) : Call (Local σ) BackendError Unit := do
  let l ← get
  let fwMeta ← ofOption (l.shared.nv.readFwMeta b.provider.bankSet bank)
    (.internal "nv fw meta vanished during disable")
  mapErr (fun _ => .internal s!"nv write fw meta: {w.env.ioError}")
    (onShared (onNv (writeFwMeta w.env.nvFaults b.provider.bankSet bank { fwMeta with gen })))

variable (κ : Signing) (w : World σ)

def oweReboot (rebootRequired : Bool) : Call (Local σ) BackendError Unit :=
  if rebootRequired then b.setRebootOwed κ w else pure ()

/-- What the call does from one point to the next at which another call can come in between; it
returns with the last step. -/
def enactDisableManifest (outcome : Deactivation) :
    EnactPhase → Call (Premises σ β δ) BackendError (Option EnactPhase)
  | .called => do
    onLocal b.admitIdle
    return some .idle
  | .idle => do
    let s ← get
    return some (.serving (b.servingBank s.desk.here))
  | .serving bank => do
    let gen ← onLocal (b.admitCommitted bank)
    return some (.admitted bank gen)
  | .admitted bank gen => do
    let rebootRequired ← deactivate outcome
    return some (.deactivated bank gen rebootRequired)
  | .deactivated bank gen rebootRequired => do
    writeDisabledRecord bank (gen + 1)
    return some (.recorded bank (gen + 1) rebootRequired)
  | .recorded bank gen rebootRequired => do
    onLocal (b.ratchet w bank gen)
    return some (.ratcheted bank gen rebootRequired)
  | .ratcheted _ _ rebootRequired => do
    onLocal (b.oweReboot κ w rebootRequired)
    return none

def adminDisabled (s : Premises σ β δ) : Bool :=
  let bank := b.servingBank s.desk.here
  b.deactivator && (s.records bank).any fun gen => b.genOf s.desk.here bank = some gen

end DisableBackend

/-! ### Runs -/

/-- Nothing is left of a record in a bank that was written to like this: a seal takes its place, and
with two banks it goes with what was signed before. -/
def Touch.unseals (singleBank : Bool) : Touch → Bool
  | wipe | prune => !singleBank
  | sign => true
  | stagedCommit | payload => false

/-- A call of the component, or a step of one that disables it. -/
inductive DisableAction (β δ : Type)
  | call (e : ℕ)
  | enact (e : ℕ) (outcome : Deactivation)
  | leave (e : ℕ)
  | flash (op : FlashOp β δ)
  | commitFlash
  | rollbackFlash

namespace Premises

variable (s : Premises σ β δ)

def Quiet : Prop :=
  ∀ e, s.enacts e = none

def setEnact (e : ℕ) (phase : Option EnactPhase) : Premises σ β δ :=
  { s with enacts := Function.update s.enacts e phase }

def fresh : Desk σ β δ :=
  { s.desk with touched := [] }

def after (singleBank : Bool) (d : Desk σ β δ) : Premises σ β δ :=
  { s with
    desk := d
    records := fun bank =>
      if d.touched.any fun t => t.1 = bank ∧ t.2.unseals singleBank then none else s.records bank }

/-- The step writes a record to the bank. -/
def Records (bank : Bank) : DisableAction β δ → Prop
  | .enact e _ => ∃ gen required, s.enacts e = some (.deactivated bank gen required)
  | _ => False

/-- The step is the last one of a call that has written its record to the bank. -/
def Returns (bank : Bank) : DisableAction β δ → Prop
  | .enact e _ => ∃ gen required, s.enacts e = some (.ratcheted bank gen required)
  | _ => False

end Premises

/-- The bank that the call writes to, if it writes to one. -/
def FlashOp.bank {σ β δ : Type} (b : FlashBackend) (d : Desk σ β δ) : FlashOp β δ → Option Bank
  | receivePackagePart _ | settleManifest _ _ => some (b.provider.targetBank d.here.shared)
  | writePart u _ _ => (d.flash.uploads u).bind Upload.target
  | landPart u _ => (d.flash.uploads u).bind Upload.target
  | sealUpload u => (d.flash.uploads u).bind Upload.target
  | reconcilePart u _ => (d.flash.uploads u).bind Upload.target
  | endReconcile u => (d.flash.uploads u).bind Upload.target
  | _ => none

namespace DisableBackend

section Runs

variable [DecidableEq δ] (κ : Signing) (crc : List UInt8 → UInt32) (hash : β → δ)
  (b : DisableBackend)

/-- A call of an update and the calls that end a trial are one step each. One that disables the
component takes its steps, and goes away with an error or with its client. -/
inductive Step (s : Premises σ β δ) : DisableAction β δ → Premises σ β δ → Prop
  | call (e : ℕ) (free : s.enacts e = none) : Step s (.call e) (s.setEnact e (some .called))
  | enacts (w : World σ) {e : ℕ} {outcome : Deactivation} {phase : EnactPhase}
      {next : Option EnactPhase} {t : Premises σ β δ} (found : s.enacts e = some phase)
      (run : b.enactDisableManifest κ w outcome phase s = (.ok next, t)) :
      Step s (.enact e outcome) (t.setEnact e next)
  | fails (w : World σ) {e : ℕ} {outcome : Deactivation} {phase : EnactPhase} {error : BackendError}
      {t : Premises σ β δ} (found : s.enacts e = some phase)
      (run : b.enactDisableManifest κ w outcome phase s = (.err error, t)) :
      Step s (.enact e outcome) (t.setEnact e none)
  | leave {e : ℕ} {phase : EnactPhase} (found : s.enacts e = some phase) :
      Step s (.leave e) (s.setEnact e none)
  | flash (w : FlashWorld σ) {op : FlashOp β δ} {res : Ending BackendError Unit} {d : Desk σ β δ}
      (run : op.run κ crc hash w b.toFlashBackend s.fresh = (res, d)) (returned : res ≠ .stopped) :
      Step s (.flash op) (s.after b.singleBank d)
  | commitFlash (w : World σ) {res : Ending BackendError Unit} {d : Desk σ β δ}
      (run : FlashBackend.onHere (b.commitFlash w) s.fresh = (res, d)) (returned : res ≠ .stopped) :
      Step s .commitFlash (s.after b.singleBank d)
  | rollbackFlash (w : FlashWorld σ) {res : Ending BackendError Unit} {d : Desk σ β δ}
      (run : b.toFlashBackend.rollbackFlash w s.fresh = (res, d)) (returned : res ≠ .stopped) :
      Step s .rollbackFlash (s.after b.singleBank d)

/-- The component is disabled by one call at a time, and while such a call is under way, no update
is applied, no trial is rolled back, and nothing is written to the bank that the component serves
from. -/
def Undisturbed (s : Premises σ β δ) : DisableAction β δ → Prop
  | .call _ => s.Quiet
  | .flash op => s.Quiet ∨ ¬op.Applies b.toFlashBackend s.fresh ∧
      op.bank b.toFlashBackend s.fresh ≠ some (b.servingBank s.desk.here)
  | .rollbackFlash => s.Quiet ∨ Settled s.desk.here.shared.nv b.provider.bankSet
  | _ => True

/-- The states of a run of allowed steps that begins with no call under way that disables the
component. -/
def Runs (allowed : Premises σ β δ → DisableAction β δ → Prop) : Premises σ β δ → Prop :=
  Reachable Premises.Quiet fun s t => ∃ action, allowed s action ∧ b.Step κ crc hash s action t

end Runs

end DisableBackend

/-! ### What is read of an idle component -/

/-- The slot of the component is committed. -/
def ComponentBackend.Committed {σ : Type} (b : ComponentBackend) (l : Local σ) : Prop :=
  ∃ bs, (l.shared.nv.slot b.provider.bankSet).boot = some bs ∧ bs.committed = true

/-- The component serves from the same bank, with the same generations, and it stays committed. -/
structure Serves {σ : Type} (b : ComponentBackend) (l l' : Local σ) : Prop where
  serving : b.servingBank l' = b.servingBank l
  gen : ∀ bank, b.genOf l' bank = b.genOf l bank
  committed : b.Committed l → b.Committed l'

section Serves

variable {b : ComponentBackend}

theorem Serves.refl (b : ComponentBackend) (l : Local σ) :
  Serves b l l
  := ⟨rfl, fun _ => rfl, id⟩

theorem Serves.trans {l'' : Local σ} (h : Serves b l l') (h' : Serves b l' l'') :
  Serves b l l''
  := ⟨h'.serving.trans h.serving, fun bank => (h'.gen bank).trans (h.gen bank),
    h'.committed ∘ h.committed⟩

/-- The call leaves what is read of the component, and it spares a bank. -/
def Spares (b : ComponentBackend) (l : Local σ) (spared : Bank) (d : Desk σ β δ) : Prop :=
  Serves b l d.here ∧ ∀ t ∈ d.touched, t.1 ≠ spared

theorem Serves.tends (tends : l.Tends l') :
  Serves b l l'
  where
  serving := by
    simp only [servingBank, selectedBank, tends.running, tends.runningBank]
  gen bank := by
    rw [ComponentBackend.genOf, ComponentBackend.genOf]
    rcases tends.nv with same | ⟨session, same⟩ <;> rw [same]
    rfl
  committed := by
    rw [ComponentBackend.Committed, ComponentBackend.Committed]
    rcases tends.nv with same | ⟨session, same⟩ <;> rw [same] <;> exact id

section Updates

variable [DecidableEq δ] {b : FlashBackend} {d d' : Desk σ β δ} {op : FlashOp β δ}

/-- A call writes to its bank only. -/
theorem FlashChange.bank {f : Flash β δ} {written : List (Bank × Touch)}
    (change : FlashChange b hash d op f written) :
  ∀ t ∈ written, op.bank b d = some t.1
  := by
  cases change with
  | legacy closed untried aims | settles upload aims keeps files =>
    exact forall_mem_singleton.mpr (congrArg some aims.target)
  | writes upload direct named | fetches upload | refuses upload =>
    refine forall_mem_singleton.mpr ?_
    rw [bank, upload]
    rfl
  | pours upload whole =>
    refine forall_mem_singleton.mpr ?_
    rw [bank, upload]
    obtain rfl | ⟨_, _, _, rfl⟩ := whole <;> rfl
  | lands lands =>
    rw [bank, lands.upload]
    obtain ⟨-, rfl, -⟩ | ⟨-, rfl, -⟩ := lands.place
    · exact forall_mem_singleton.mpr rfl
    · nofun
  | _ => nofun

/-- What a call does that applies no update and writes to other banks than one. -/
theorem FlashOutcome.spares {w : FlashWorld σ} {spared : Bank}
    (outcome : FlashOutcome b hash d w op d')
    (target : op.bank b d ≠ some spared) (untouched : d.touched = []) :
  Spares b.toComponentBackend d.here spared d'
  := by
  cases outcome with
  | changes tends change writes =>
    refine ⟨.tends tends, ?_⟩
    rintro t mem rfl
    rw [writes, untouched] at mem
    exact target (change.bank t mem)
  | seals kind upload =>
    refine ivdSignStagedBank_keeps (P := Spares b.toComponentBackend d.here spared) ?_
      ⟨.refl _ _, by rw [untouched]; nofun⟩
    intro d how area kept
    refine ⟨kept.1, forall_mem_append.mpr ⟨kept.2, forall_mem_singleton.mpr ?_⟩⟩
    rintro rfl
    apply target
    rw [kind, bank, upload]
    rfl

end Updates

variable {faults : NvFaults} {nv : NvStore} {res : Ending OtaError Unit} (w : World σ)

/-- A commit leaves the generations as they are. -/
theorem commit_gen {set : BankSet} {nv' : NvStore} (call : Nv.commit faults set nv = (res, nv'))
    (bank : Bank) :
  (nv'.readFwMeta set bank).map (·.gen) = (nv.readFwMeta set bank).map (·.gen)
  := by
  obtain ⟨s, outcome, becomes⟩ := commit_outcome faults set nv
  rw [call] at outcome becomes
  have raised {t : Slot} {active : Bank} (raise : (nv.slot set).raiseFloor faults active = some t) :
      (t.fwMeta bank).map (·.gen) = (nv.readFwMeta set bank).map (·.gen) := by
    obtain ⟨rfl, -⟩ | ⟨m, found, -, rfl⟩ := Slot.raiseFloor_cases raise
    · rfl
    · by_cases same : bank = active
      · subst same
        rw [Slot.setMeta_fwMeta_self, ← slot_fwMeta, found]
        rfl
      · rw [Slot.setMeta_fwMeta_of_ne _ _ same]
        rfl
  rw [← slot_fwMeta, becomes.self]
  cases outcome with
  | absent | settled | unraised => rfl
  | raised _ _ raise => exact raised raise
  | committed _ _ raise => exact (raised raise :)

/-- NV's part of a commit. -/
theorem Serves.commitNv (call : Nv.commit faults b.provider.bankSet l.shared.nv = (res, nv)) :
  Serves b l { l with shared := { l.shared with nv } }
  where
  serving := rfl
  gen bank := commit_gen call bank
  committed := by
    rintro ⟨bs, boot, committed⟩
    rcases commit_boot call with ⟨_, -, boot', trial, -⟩ | ⟨-, keeps⟩
    · cases boot.symm.trans boot'
      cases committed.symm.trans trial
    · exact ⟨bs, (keeps _).trans boot, committed⟩

/-- The vector's part of a commit. -/
theorem Serves.commitVector {r : Running σ}
    (same : r.manager.activeBank b.provider.componentId =
      l.shared.running.manager.activeBank b.provider.componentId) :
  Serves b l { l with shared := { l.shared with running := r } }
  where
  serving := by
    rw [servingBank, selectedBank, same]
    rfl
  gen _ := rfl
  committed := id

theorem vectorCommit_keeps (S : SelectorStore σ) (id : String) (bank : Option Bank) :
  Keeps (fun r => r.manager.activeBank id = bank) (SystemBank.commit S)
  := by
  refine keeps_bind ?_ fun _ => keeps_modify fun _ same => same
  intro r same
  exact same

theorem Serves.commit {env : Environment σ} {res : Ending BankError Unit} {x : Shared σ}
    (call : b.provider.commit env l.shared = (res, x)) :
  Serves b l { l with shared := x }
  := by
  rw [IvdBankProvider.commit] at call
  rcases nvCall : Nv.commit env.nvFaults b.provider.bankSet l.shared.nv with ⟨answer, nv⟩
  rcases commitNv_cases nvCall with ⟨-, eq⟩ | ⟨refused, eq⟩
  · rw [run_bind_ok eq] at call
    by_cases wired : b.provider.selector = true
    · rcases vector : SystemBank.commit env.store l.shared.running with ⟨_, r⟩
      have same := vectorCommit_keeps env.store b.provider.componentId _ l.shared.running rfl
      rw [vector] at same
      rw [withSelector_wired (x := { l.shared with nv }) wired _ vector] at call
      cases call
      exact (Serves.commitNv nvCall).trans
        (Serves.commitVector (l := { l with shared := { l.shared with nv } }) same)
    · rw [withSelector, if_neg wired, run_pure] at call
      cases call
      exact .commitNv nvCall
  · rw [run_bind, eq] at call
    cases answer with
    | ok => apply absurd rfl refused.1
    | err | stopped =>
      cases call
      exact .commitNv nvCall

theorem Serves.resolve :
  Serves b l (b.resolveNodeTransaction w l).2
  := by
  rcases b.resolveNodeTransaction_cases (w := w) (l := l) with eq | ⟨e, eq⟩
    | ⟨session, eq⟩ <;> rw [eq]
  · apply refl
  · apply refl
  · exact ⟨rfl, fun _ => rfl, id⟩

theorem commitFlash_serves :
  Keeps (Serves b l) (b.commitFlash w)
  := by
  refine keeps_bind b.keeps_preflightCommit fun _ => ?_
  refine keeps_bind (keeps_mapErr ?_ _) fun _ => ?_
  · intro l' h
    rcases call : b.provider.commit w.env l'.shared with ⟨_, x⟩
    rw [onShared, run_zoom call]
    exact h.trans (.commit call)
  refine keeps_bind ?_ fun _ => ?_
  · intro l' h
    exact h.trans (.resolve w)
  exact keeps_modify fun l' h => h.trans ⟨rfl, fun _ => rfl, id⟩

/-- A slot that is not on trial is not rolled back. -/
theorem rollbackFlash_settled {b : FlashBackend} {w : FlashWorld σ}
    (settled : Settled d.here.shared.nv b.provider.bankSet) :
  (b.rollbackFlash w d).2 = d
  := by
  rw [FlashBackend.rollbackFlash, run_ite]
  split
  · rfl
  · rcases b.provider.rollbackTarget_cases w.env d.here.shared with
      ⟨res, failed, -, eq⟩ | ⟨bs, boot, trial, -⟩
    · have refused : ∃ answer, b.provider.rollback w.env d.here.shared = (answer, d.here.shared) ∧
          answer ≠ .ok () := by
        rw [IvdBankProvider.rollback, run_bind, eq]
        cases res with
        | ok bank => apply absurd rfl (failed bank)
        | err | stopped => exact ⟨_, rfl, by rintro ⟨⟩⟩
      obtain ⟨answer, call, unreturned⟩ := refused
      have local' : onHere (onProvider (b.provider.rollback w.env)) d =
          (answer.mapErr fun e => .internal e.text, d) := by
        apply run_zoom
        apply run_mapErr
        apply run_zoom call
      rw [run_bind, local']
      cases answer with
      | ok => apply absurd rfl unreturned
      | err | stopped => rfl
    · cases (settled bs boot).symm.trans trial

end Serves

/-! ### The invariant of a run -/

/-- What a call that disables the component has found still holds, and what it has written is
there. -/
def EnactPhase.Holds {σ β δ : Type} (b : DisableBackend) (s : Premises σ β δ) : EnactPhase → Prop
  | called => True
  | idle => b.deactivator = true
  | serving bank => b.deactivator = true ∧ b.servingBank s.desk.here = bank
  | admitted bank _ => b.deactivator = true ∧ b.servingBank s.desk.here = bank ∧
      b.Committed s.desk.here
  | deactivated bank _ _ =>
    b.deactivator = true ∧ b.servingBank s.desk.here = bank ∧ b.Committed s.desk.here
  | recorded bank gen _ =>
    b.deactivator = true ∧ b.servingBank s.desk.here = bank ∧ s.records bank = some gen
  | ratcheted bank gen _ => b.deactivator = true ∧ b.servingBank s.desk.here = bank ∧
      s.records bank = some gen ∧ b.genOf s.desk.here bank = some gen

/-- At most one call disables the component, and it is right about it. -/
structure DisableBackend.Inv {σ β δ : Type} (b : DisableBackend) (s : Premises σ β δ) : Prop where
  single : ∀ e e' phase phase', s.enacts e = some phase → s.enacts e' = some phase' → e = e'
  holds : ∀ e phase, s.enacts e = some phase → phase.Holds b s

namespace EnactPhase

/-- The rest of the node moves on. -/
theorem Holds.congr (holds : phase.Holds b s)
    (serves : Serves b.toComponentBackend s.desk.here t.desk.here)
    (records : t.records (b.servingBank s.desk.here) = s.records (b.servingBank s.desk.here)) :
  phase.Holds b t
  := by
  cases phase with
  | called => trivial
  | idle => apply holds
  | serving => exact ⟨holds.1, serves.serving.trans holds.2⟩
  | admitted => exact ⟨holds.1, serves.serving.trans holds.2.1, serves.committed holds.2.2⟩
  | deactivated =>
    exact ⟨holds.1, serves.serving.trans holds.2.1, serves.committed holds.2.2⟩
  | recorded =>
    obtain ⟨deactivator, rfl, record⟩ := holds
    exact ⟨deactivator, serves.serving, records.trans record⟩
  | ratcheted _ gen =>
    obtain ⟨deactivator, rfl, record, ratcheted⟩ := holds
    exact ⟨deactivator, serves.serving, records.trans record, (serves.gen _).trans ratcheted⟩

end EnactPhase

namespace DisableBackend

variable {w : World σ}

theorem onLocal_eq {α : Type} {c : Call (Local σ) BackendError α} {res : Ending BackendError α}
    (call : onLocal c s = (res, t)) :
  ∃ here, c s.desk.here = (res, here) ∧ t = { s with desk := { s.desk with here } }
  := by
  rcases run : c s.desk.here with ⟨res', here⟩
  have moved : onLocal c s = (res', { s with desk := { s.desk with here } }) := run_zoom run
  cases moved.symm.trans call
  exact ⟨here, rfl, rfl⟩

variable {bank : Bank} {gen : UInt64} {outcome : Deactivation}

theorem admitIdle_ok (call : b.admitIdle l = (.ok (), l')) :
  l' = l ∧ b.deactivator = true
  := by
  rw [admitIdle, run_get_bind, run_ite, run_ite] at call
  split at call
  next => cases call
  next present =>
    split at call <;> cases call
    exact ⟨rfl, by simpa using present⟩

theorem slotCommitted_ok (dual : b.singleBank = false) {committed : Bool}
    (call : b.slotCommitted l = (.ok committed, l')) :
  l' = l ∧ ∃ bs, (l.shared.nv.slot b.provider.bankSet).boot = some bs ∧ bs.committed = committed
  := by
  rw [slotCommitted, dual, if_neg Bool.false_ne_true] at call
  obtain ⟨bs, _, found, returned⟩ := ok_of_bind call
  cases returned
  obtain ⟨rfl, boot⟩ := b.nvBank_ok found
  exact ⟨rfl, bs, boot, rfl⟩

/-- Only a committed component with two banks is admitted. -/
theorem admitCommitted_ok (dual : b.singleBank = false)
    (call : b.admitCommitted bank l = (.ok gen, l')) :
  l' = l ∧ b.Committed l
  := by
  rw [admitCommitted, run_get_bind] at call
  obtain ⟨committed, l₁, slot, call⟩ := ok_of_bind call
  obtain ⟨rfl, bs, boot, eq⟩ := slotCommitted_ok dual slot
  rw [run_ite] at call
  split at call
  next => cases call
  next idle =>
    have committed : bs.committed = true := by
      rw [eq]
      by_contra trial
      apply idle
      left
      rw [Bool.not_eq_true] at trial
      rw [trial]
      rfl
    obtain ⟨_, _, read, call⟩ := ok_of_bind call
    cases genOf : b.genOf l₁ bank with
    | none =>
      rw [genOf] at read
      cases read
    | some =>
      rw [genOf] at read
      cases read
      cases unpersistable : b.unpersistable with
      | some =>
        rw [unpersistable] at call
        cases call
      | none =>
        rw [unpersistable] at call
        cases call
        exact ⟨rfl, bs, boot, committed⟩

variable {required : Bool} {res : Ending BackendError (Option EnactPhase)}

theorem deactivate_ok (call : deactivate outcome s = (.ok required, t)) :
  t = s
  := by
  cases outcome <;> cases call
  rfl

/-- NV has the generation of the record, and the rest of it is as it was. -/
theorem ratchet_ok (call : b.ratchet w bank gen l = (.ok (), l')) :
  b.servingBank l' = b.servingBank l ∧ b.genOf l' bank = some gen
  := by
  rw [ratchet, run_get_bind] at call
  cases read : l.shared.nv.readFwMeta b.provider.bankSet bank with
  | none =>
    rw [read] at call
    cases call
  | some fwMeta =>
    rw [read, run_ofOption_some_bind] at call
    rcases write : writeFwMeta w.env.nvFaults b.provider.bankSet bank
      { fwMeta with gen } l.shared.nv with
      ⟨res, nv⟩
    have moved : onShared
      (onNv (writeFwMeta w.env.nvFaults b.provider.bankSet bank { fwMeta with gen })) l =
      (res, { l with shared := { l.shared with nv } }) := run_zoom (run_zoom write)
    rw [run_mapErr moved] at call
    cases res with
    | ok =>
      cases call
      have written : Yields
        (mapErr id (writeFwMeta w.env.nvFaults b.provider.bankSet bank { fwMeta with gen }))
          l.shared.nv fun res nv => res = .ok () →
            l.shared.nv.slotInRange b.provider.bankSet = true ∧
            nv = l.shared.nv.putFwMeta b.provider.bankSet bank { fwMeta with gen } :=
        yields_writeFwMeta (fun _ _ => nofun) fun inRange _ _ => ⟨inRange, rfl⟩
      rw [Yields, run_mapErr write id] at written
      obtain ⟨inRange, rfl⟩ := written rfl
      use rfl
      rw [ComponentBackend.genOf, readFwMeta, slotInRange_putFwMeta, if_pos inRange,
        fwMetas_putFwMeta, if_pos ⟨rfl, rfl⟩]
      rfl
    | err | stopped => cases call

theorem oweReboot_serves (required : Bool) :
  Keeps (Serves b.toComponentBackend l) (b.oweReboot κ w required)
  := by
  refine keeps_ite ?_ (keeps_pure ())
  refine keeps_bind keeps_get fun l' => keeps_ite (keeps_mapErr ?_ _) (keeps_pure ())
  intro l₁ h
  rw [writeUpdateSession, nvWrite]
  cases w.env.nvFaults .updateSession with
  | true => apply h
  | false => exact h.trans ⟨rfl, fun _ => rfl, id⟩

/-- The last step leaves the component disabled. -/
theorem adminDisabled_of_ratcheted (holds : (EnactPhase.ratcheted bank gen required).Holds b s)
    (call : b.enactDisableManifest κ w outcome (.ratcheted bank gen required) s = (res, t)) :
  b.servingBank t.desk.here = bank ∧ b.adminDisabled t = true
  := by
  obtain ⟨deactivator, rfl, record, ratcheted⟩ := holds
  rcases owed : onLocal (b.oweReboot κ w required) s with ⟨res', t'⟩
  obtain rfl : t' = t := by
    rw [enactDisableManifest, run_bind, owed] at call
    cases res' <;> cases call <;> rfl
  obtain ⟨here, run, rfl⟩ := onLocal_eq owed
  have serves := oweReboot_serves (κ := κ) (w := w) required s.desk.here
    (.refl b.toComponentBackend s.desk.here)
  rw [run] at serves
  use serves.serving
  rw [adminDisabled, deactivator, serves.serving]
  simp only [record, any_some, (serves.gen _).trans ratcheted, Bool.true_and, decide_true]

/-- A step of the call leads from one phase to the next, and to no other call. -/
theorem enactDisableManifest_holds (dual : b.singleBank = false)
    (holds : phase.Holds b s) (call : b.enactDisableManifest κ w outcome phase s = (.ok next, t)) :
  ∀ after, next = some after → after.Holds b t
  := by
  cases phase with
  | called =>
    rw [enactDisableManifest] at call
    obtain ⟨_, _, admitted, returned⟩ := ok_of_bind call
    obtain ⟨_, run, rfl⟩ := onLocal_eq admitted
    obtain ⟨rfl, deactivator⟩ := admitIdle_ok run
    cases returned
    rintro _ ⟨⟩
    exact deactivator
  | idle =>
    cases call
    rintro _ ⟨⟩
    exact ⟨holds, rfl⟩
  | serving =>
    rw [enactDisableManifest] at call
    obtain ⟨_, _, admitted, returned⟩ := ok_of_bind call
    obtain ⟨_, run, rfl⟩ := onLocal_eq admitted
    obtain ⟨rfl, committed⟩ := admitCommitted_ok dual run
    cases returned
    rintro _ ⟨⟩
    exact ⟨holds.1, holds.2, committed⟩
  | admitted =>
    rw [enactDisableManifest] at call
    obtain ⟨_, _, done, returned⟩ := ok_of_bind call
    obtain rfl := deactivate_ok done
    cases returned
    rintro _ ⟨⟩
    exact holds
  | deactivated =>
    rw [enactDisableManifest] at call
    obtain ⟨_, _, written, returned⟩ := ok_of_bind call
    cases written
    cases returned
    rintro _ ⟨⟩
    exact ⟨holds.1, holds.2.1, update_self ..⟩
  | recorded =>
    rw [enactDisableManifest] at call
    obtain ⟨_, _, ratcheted, returned⟩ := ok_of_bind call
    obtain ⟨_, run, rfl⟩ := onLocal_eq ratcheted
    obtain ⟨serving, followed⟩ := ratchet_ok run
    cases returned
    rintro _ ⟨⟩
    exact ⟨holds.1, serving.trans holds.2.1, holds.2.2, followed⟩
  | ratcheted =>
    rw [enactDisableManifest] at call
    obtain ⟨_, _, -, returned⟩ := ok_of_bind call
    cases returned
    nofun

/-- The step leaves the calls under way alone. -/
theorem enactDisableManifest_enacts (call : b.enactDisableManifest κ w outcome phase s = (res, t)) :
  t.enacts = s.enacts
  := by
  suffices keeps : Keeps (fun x : Premises σ β δ => x.enacts = s.enacts)
      (b.enactDisableManifest κ w outcome phase) by
    have kept := keeps s rfl
    rw [call] at kept
    exact kept
  have onLocal_keeps {α : Type} (c : Call (Local σ) BackendError α) :
      Keeps (fun x : Premises σ β δ => x.enacts = s.enacts) (onLocal c) := fun _ same => same
  cases phase with
  | called | serving | recorded | ratcheted =>
    exact keeps_bind (onLocal_keeps _) fun _ => keeps_pure _
  | idle => exact keeps_bind keeps_get fun _ => keeps_pure _
  | admitted =>
    refine keeps_bind ?_ fun _ => keeps_pure _
    cases outcome with
    | done => apply keeps_pure
    | failed | unjoined => apply keeps_fail
  | deactivated =>
    exact keeps_bind (keeps_modify fun _ same => same) fun _ => keeps_pure _

end DisableBackend

/-- The records of a bank that was spared stay. -/
theorem Premises.records_after {bank : Bank} (spared : ∀ t ∈ d.touched, t.1 ≠ bank)
    (singleBank : Bool) :
  (s.after singleBank d).records bank = s.records bank
  := by
  refine if_neg fun touched => ?_
  obtain ⟨t, mem, same⟩ := any_eq_true.mp touched
  rw [decide_eq_true_eq] at same
  apply spared t mem same.1

namespace DisableBackend

/-- Where no call is under way, there is nothing to show. -/
theorem inv_of_quiet (quiet : s.Quiet) :
  b.Inv s
  where
  single e _ _ _ found := by cases (quiet e).symm.trans found
  holds e _ found := by cases (quiet e).symm.trans found

/-- The calls under way stay as they are, and so does what they have found. -/
theorem Inv.serves (inv : b.Inv s) (serves : Serves b.toComponentBackend s.desk.here d.here)
    (spared : ∀ t ∈ d.touched, t.1 ≠ b.servingBank s.desk.here) :
  b.Inv (s.after b.singleBank d)
  where
  single := inv.single
  holds e phase found := (inv.holds e phase found).congr serves (Premises.records_after spared _)

variable {e : ℕ}

/-- The only call under way comes to another phase, or ends. -/
theorem inv_setEnact (alone : ∀ e', e' ≠ e → t.enacts e' = none)
    (holds : ∀ after, next = some after → after.Holds b t) :
  b.Inv (t.setEnact e next)
  := by
  have only (e' phase') (found : (t.setEnact e next).enacts e' = some phase') :
      e' = e ∧ next = some phase' := by
    rw [show (t.setEnact e next).enacts e' = _ from update_apply ..] at found
    split at found
    next same => exact ⟨same, found⟩
    next other => cases (alone e' other).symm.trans found
  constructor
  · intro e₁ e₂ phase₁ phase₂ found₁ found₂
    exact (only e₁ phase₁ found₁).1.trans (only e₂ phase₂ found₂).1.symm
  · intro e' phase' found
    apply (holds phase' (only e' phase' found).2).congr (.refl _ _) rfl

theorem Inv.alone (inv : b.Inv s) (found : s.enacts e = some phase) :
  ∀ e', e' ≠ e → s.enacts e' = none
  := by
  intro e' other
  by_contra busy
  obtain ⟨_, found'⟩ := ne_none_iff_exists'.mp busy
  apply other (inv.single e' e _ _ found' found)

variable [DecidableEq δ] {crc : List UInt8 → UInt32}
  {action : DisableAction β δ}

/-- Every step of an undisturbed run keeps the invariant. -/
theorem Inv.step (inv : b.Inv s) (dual : b.singleBank = false)
    (undisturbed : b.Undisturbed s action) (step : b.Step κ crc hash s action t) :
  b.Inv t
  := by
  cases step with
  | call =>
    apply inv_setEnact fun e' _ => undisturbed e'
    rintro _ ⟨⟩
    trivial
  | enacts _ found run =>
    apply inv_setEnact (enactDisableManifest_enacts run ▸ inv.alone found)
    apply enactDisableManifest_holds dual (inv.holds _ _ found) run
  | fails _ found run =>
    refine inv_setEnact (enactDisableManifest_enacts run ▸ inv.alone found) ?_
    nofun
  | leave found =>
    refine inv_setEnact (inv.alone found) ?_
    nofun
  | @flash _ _ _ d run =>
    rcases undisturbed with quiet | ⟨unapplied, target⟩
    · exact inv_of_quiet quiet
    · have spares : Spares b.toComponentBackend s.desk.here (b.servingBank s.desk.here) d :=
        ((outcome unapplied).of_run run).spares target rfl
      exact inv.serves spares.1 spares.2
  | @commitFlash w _ _ run =>
    rcases call : b.commitFlash w s.desk.here with ⟨res', here⟩
    have moved : onHere (b.commitFlash w) s.fresh = (res', { s.fresh with here }) :=
      run_zoom call
    cases moved.symm.trans run
    have serves := commitFlash_serves w s.desk.here (.refl b.toComponentBackend s.desk.here)
    rw [call] at serves
    exact inv.serves serves nofun
  | @rollbackFlash w _ d run =>
    rcases undisturbed with quiet | settled
    · exact inv_of_quiet quiet
    · have same := rollbackFlash_settled (w := w) (d := s.fresh) settled
      rw [run] at same
      subst same
      exact inv.serves (.refl _ _) nofun

theorem Runs.inv (dual : b.singleBank = false) (run : b.Runs κ crc hash b.Undisturbed s) :
  b.Inv s
  := by
  refine Reachable.invariant (P := b.Inv) (fun _ quiet => inv_of_quiet quiet) ?_ run
  rintro s t inv ⟨action, undisturbed, step⟩
  apply inv.step dual undisturbed step

/-- In an undisturbed run, a record is written while the component is committed, and when the call
returns, the component serves from the bank of the record, and is disabled. -/
theorem disabled_while_committed (dual : b.singleBank = false)
    (run : b.Runs κ crc hash b.Undisturbed s) (step : b.Step κ crc hash s action t) (bank : Bank) :
  (s.Records bank action → b.Committed s.desk.here) ∧
    (s.Returns bank action → b.servingBank t.desk.here = bank ∧ b.adminDisabled t = true)
  := by
  have inv := run.inv dual
  have recorded {e : ℕ} (outcome : Deactivation) :
      s.Records bank (.enact e outcome : DisableAction β δ) → b.Committed s.desk.here := by
    rintro ⟨gen, required, deactivated⟩
    exact (inv.holds e _ deactivated).2.2
  have returned {w : World σ} {e : ℕ} {phase : EnactPhase} (found : s.enacts e = some phase)
      {outcome : Deactivation} {res : Ending BackendError (Option EnactPhase)}
      {t : Premises σ β δ}
      (run : b.enactDisableManifest κ w outcome phase s = (res, t)) (next : Option EnactPhase) :
      s.Returns bank (.enact e outcome : DisableAction β δ) →
        b.servingBank t.desk.here = bank ∧ b.adminDisabled (t.setEnact e next) = true := by
    rintro ⟨gen, required, ratcheted⟩
    cases found.symm.trans ratcheted
    exact adminDisabled_of_ratcheted (inv.holds e _ ratcheted) run
  cases step with
  | enacts _ found run => exact ⟨recorded _, returned found run _⟩
  | fails _ found run => exact ⟨recorded _, returned found run none⟩
  | call | leave | flash | commitFlash | rollbackFlash => exact ⟨nofun, nofun⟩

end DisableBackend

/-! ### A machine that is updated while it is disabled -/

namespace TwoMachines

def vm1Disabler : DisableBackend where
  toFlashBackend := vm1Files

/-- The update of the first machine is staged and sealed in bank B, and bank A has its fourth
generation. -/
def kernelReady : Premises Store ℕ ℕ where
  desk := { kernelSealed with here := { kernelSealed.here with
    shared := { kernelSealed.here.shared with
      nv := kernelSealed.here.shared.nv.putFwMeta vm1.bankSet .A { gen := 4 } } } }

/-- A step of a run in which no write fails and the deactivator does its work. -/
def disableStep (s : Premises Store ℕ ℕ) : DisableAction ℕ ℕ → Option (Premises Store ℕ ℕ)
  | .call e => if s.enacts e = none then some (s.setEnact e (some .called)) else none
  | .enact e outcome => (s.enacts e).bind fun phase =>
    match vm1Disabler.enactDisableManifest stubSigner { env := working } outcome phase s with
    | (.ok next, t) => some (t.setEnact e next)
    | _ => none
  | .flash op =>
    match op.run stubSigner (fun _ => 0) id { env := working } vm1Files s.fresh with
    | (.ok _, d) => some (s.after false d)
    | _ => none
  | _ => none

variable {s t : Premises Store ℕ ℕ}

theorem step_of_disableStep {action : DisableAction ℕ ℕ} (step : disableStep s action = some t) :
  vm1Disabler.Step stubSigner (fun _ => 0) id s action t
  := by
  cases action with
  | call e =>
    rw [disableStep] at step
    split at step
    next free =>
      cases step
      exact .call e free
    next => cases step
  | enact =>
    rw [disableStep, bind_eq_some_iff] at step
    obtain ⟨_, found, step⟩ := step
    split at step
    next next t' run =>
      cases step
      exact .enacts { env := working } found run
    next => cases step
  | flash =>
    rw [disableStep] at step
    split at step
    next d run =>
      cases step
      exact .flash { env := working } run nofun
    next => cases step
  | leave | commitFlash | rollbackFlash => cases step

theorem runs_of_disableStep {allowed : Premises Store ℕ ℕ →
    DisableAction ℕ ℕ → Prop}
    {actions : List (DisableAction ℕ ℕ)} (admitted : ∀ s, ∀ action ∈ actions, allowed s action)
    (start : vm1Disabler.Runs stubSigner (fun _ => 0) id allowed s)
    (run : actions.foldlM disableStep s = some t) :
  vm1Disabler.Runs stubSigner (fun _ => 0) id allowed t
  := by
  induction actions generalizing s with
  | nil =>
    cases run
    apply start
  | cons action _ ih =>
    rw [foldlM_cons] at run
    obtain ⟨u, step, run⟩ := bind_eq_some_iff.mp run
    apply ih (fun s' action' mem => admitted s' action' (mem_cons_of_mem _ mem)) _ run
    exact .step start ⟨action, admitted s action mem_cons_self, step_of_disableStep step⟩

def enactStep : DisableAction ℕ ℕ :=
  .enact 0 (.done false)

def updatedMeanwhile : List (DisableAction ℕ ℕ) :=
  [.call 0, enactStep, enactStep, enactStep, .flash .finalizeFlash, enactStep]

def begunMeanwhile : List (DisableAction ℕ ℕ) :=
  [enactStep, enactStep, .flash .abortFlash, enactStep, .flash .startFlash, enactStep, enactStep,
    enactStep]

end TwoMachines

open TwoMachines in
/-- The update is finalized while the deactivator runs. The record is then written to bank A while
bank B is on trial, and when the call returns, the machine boots bank B and is not disabled. -/
theorem disabled_while_on_trial :
  (∃ s : Premises Store ℕ ℕ, vm1Disabler.Runs stubSigner (fun _ => 0) id (fun _ _ => True) s ∧
    s.Records .A enactStep ∧ ¬vm1Disabler.Committed s.desk.here) ∧
  ∃ s t : Premises Store ℕ ℕ, vm1Disabler.Runs stubSigner (fun _ => 0) id (fun _ _ => True) s ∧
    vm1Disabler.Step stubSigner (fun _ => 0) id s enactStep t ∧ s.Returns .A enactStep ∧
    vm1Disabler.servingBank t.desk.here = .B ∧ vm1Disabler.adminDisabled t = false
  := by
  have start : vm1Disabler.Runs stubSigner (fun _ => 0) id (fun _ _ => True) kernelReady :=
    .init fun _ => rfl
  constructor
  · have found : ((updatedMeanwhile.foldlM disableStep kernelReady).any fun s =>
        s.enacts 0 = some (.deactivated .A 4 false) ∧
          ((s.desk.here.shared.nv.slot vm1.bankSet).boot.any (·.committed)) = false) = true := by
      decide +kernel
    obtain ⟨s, run, holds⟩ := (Option.any_eq_true _ _).mp found
    rw [decide_eq_true_eq] at holds
    refine ⟨s, runs_of_disableStep (fun _ _ _ => trivial) start run, ⟨4, false, holds.1⟩, ?_⟩
    rintro ⟨bs, boot, committed⟩
    have trial := holds.2
    rw [show (s.desk.here.shared.nv.slot vm1.bankSet).boot = some bs from boot,
      Option.any_some] at trial
    cases committed.symm.trans trial
  · have found : (((updatedMeanwhile ++ [enactStep, enactStep]).foldlM disableStep kernelReady).any
      fun s =>
        s.enacts 0 = some (.ratcheted .A 5 false) ∧ (disableStep s enactStep).any fun t =>
          vm1Disabler.servingBank t.desk.here = .B ∧ vm1Disabler.adminDisabled t = false) =
            true := by
      decide +kernel
    obtain ⟨s, run, holds⟩ := (Option.any_eq_true _ _).mp found
    rw [decide_eq_true_eq] at holds
    obtain ⟨t, step, serves⟩ := (Option.any_eq_true _ _).mp holds.2
    rw [decide_eq_true_eq] at serves
    exact ⟨s, t, runs_of_disableStep (fun _ _ _ => trivial) start run, step_of_disableStep step,
      ⟨5, false, holds.1⟩, serves⟩

open TwoMachines in
/-- Meanwhile an update is aborted and another one is begun: the machine is disabled on bank A. -/
theorem disabled_undisturbed :
  ∃ s t : Premises Store ℕ ℕ,
    vm1Disabler.Runs stubSigner (fun _ => 0) id vm1Disabler.Undisturbed s ∧
    vm1Disabler.Step stubSigner (fun _ => 0) id s enactStep t ∧ s.Returns .A enactStep ∧
    vm1Disabler.servingBank t.desk.here = .A ∧ vm1Disabler.adminDisabled t = true
  := by
  have start : vm1Disabler.Runs stubSigner (fun _ => 0) id vm1Disabler.Undisturbed
      (kernelReady.setEnact 0 (some .called)) :=
    .step (.init fun _ => rfl) ⟨.call 0, fun _ => rfl, .call 0 rfl⟩
  have found : ((begunMeanwhile.foldlM disableStep
      (kernelReady.setEnact 0 (some .called))).any fun s =>
        s.enacts 0 = some (.ratcheted .A 5 false) ∧ (disableStep s enactStep).isSome) = true := by
    decide +kernel
  obtain ⟨s, run, holds⟩ := (Option.any_eq_true _ _).mp found
  rw [decide_eq_true_eq] at holds
  obtain ⟨t, step⟩ := Option.isSome_iff_exists.mp holds.2
  have undisturbed (s : Premises Store ℕ ℕ) :
      ∀ action ∈ begunMeanwhile, vm1Disabler.Undisturbed s action := by
    simp only [begunMeanwhile, List.forall_mem_cons]
    exact ⟨trivial, trivial, .inr ⟨nofun, nofun⟩, trivial, .inr ⟨nofun, nofun⟩, trivial, trivial,
      trivial, nofun⟩
  have runs := runs_of_disableStep undisturbed start run
  have returns : s.Returns .A enactStep := ⟨5, false, holds.1⟩
  exact ⟨s, t, runs, step_of_disableStep step, returns,
    (DisableBackend.disabled_while_committed rfl runs (step_of_disableStep step) .A).2 returns⟩

end ComponentMgr
