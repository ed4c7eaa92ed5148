import MachineManager.Component.Siblings
import MachineManager.Component.Trials

/-!
# Installs of an application

An application is installed into the bank it does not run from. The bank it runs from is read from
NV once, when the component is made; the boot check and a rollback move the bank of NV and leave the
memory as it is. As long as neither gives up a trial of the bank that the process was made on, no
install is aimed at the committed bank (`committed_bank_spared`); otherwise the next install wipes
it (`rolled_back_bank_wiped`).
-/

open List Option

namespace ComponentMgr

open Call Nv Selector SystemBank NvStore

/-- An install that was started: the bank it goes to, and the archive that was uploaded. -/
structure InstallSession where
  targetBank : Bank
  payload : Option (List UInt8) := none
deriving DecidableEq

/-- The process of an application: what its component reaches, the install session, the sessions
that uploads have taken out meanwhile, and the archive that the directory of each bank was filled
from. -/
structure AppProcess (σ : Type) where
  here : Local σ
  session : Option InstallSession := none
  uploading : List InstallSession := []
  dirs : Bank → Option (List UInt8)

inductive InstallError
  | unknownFlashSession (message : String)
  | manifestInvalid (message : String)
  | machine (e : MachineError)
deriving DecidableEq

/-- What an install meets on the disk: the error of the wipe of the directory, if it fails, and how
the archive is unpacked and checked. -/
structure InstallDisk where
  wipeError : Option String := none
  unpack : List UInt8 → Except InstallError Unit := fun _ => .ok ()

namespace AppComponent

variable {σ : Type} (a : AppComponent)

def onHere {α : Type} (c : Call (Local σ) MachineError α) : Call (AppProcess σ) InstallError α :=
  mapErr .machine (zoom AppProcess.here (fun here p => { p with here }) c)

/-- The bank that a component takes for the one it runs from when it is made: the active one of NV,
or the first one without a boot state. -/
def startingBank (nv : NvStore) : Option Bank :=
  nv.readBootState.elim (some .A) fun state => (state.bank? a.slot).map (·.activeBank)

def Constructed (p : AppProcess σ) : Prop :=
  a.startingBank p.here.shared.nv = some p.here.memory.runningBank ∧ p.session = none ∧
  p.uploading = []

/-- The check at boot: a boot on trial is counted, and the trial is given up after too many of them.
Errors of the writes are only logged. -/
def bootCheck (w : World σ) : Call (Local σ) MachineError Bank := do
  let l ← get
  match l.shared.nv.readBootState with
  | none => return .A
  | some state =>
    let bs ← orStop (state.bank? a.slot)
    if bs.committed then return bs.activeBank
    else if bs.bootCount + 1 > MAX_TRIAL_BOOTS then
      let _ ← ignore do
        writeBootState w (state.setBank a.slot
          { activeBank := bs.activeBank.other, committed := true, bootCount := 0 })
        flipCurrentSymlink w
      return bs.activeBank.other
    else
      ignore (writeBootState w (state.setBank a.slot { bs with bootCount := bs.bootCount + 1 }))
      return bs.activeBank

def startInstall : Call (AppProcess σ) InstallError Bank := do
  let p ← get
  let committed ← orStop (a.committed p.here.shared.nv)
  if !committed then
    fail (.machine
      (.policyRejected "cannot install while in trial mode — commit or rollback first"))
  else if p.session.isSome then
    fail (.machine (.invalidArgument "install session already active"))
  else
    let target := p.here.memory.runningBank.other
    modify fun p => { p with session := some { targetBank := target } }
    return target

def noSession : InstallError :=
  .unknownFlashSession "no active session"

/-- An upload takes the session out while it reads the stream. -/
def beginUpload : Call (AppProcess σ) InstallError Unit := do
  let p ← get
  let session ← ofOption p.session noSession
  modify fun p => { p with session := none, uploading := session :: p.uploading }

/-- An upload has read its stream, or failed, and puts its session back. -/
def endUpload (session : InstallSession) (received : Except MachineError (List UInt8)) :
    Call (AppProcess σ) InstallError Unit := do
  let putBack (session' : InstallSession) : Call (AppProcess σ) InstallError Unit :=
    modify fun p =>
      { p with session := some session', uploading := p.uploading.erase session }
  match received with
  | .error e =>
    putBack session
    fail (.machine e)
  | .ok [] =>
    putBack session
    fail (.machine (.invalidArgument "empty payload"))
  | .ok (b :: rest) => putBack { session with payload := some (b :: rest) }

def fillDir (bank : Bank) (content : Option (List UInt8)) : Call (AppProcess σ) InstallError Unit :=
  modify fun p => { p with dirs := fun b => if b = bank then content else p.dirs b }

/-- Wipe the directory of the bank and fill it from the archive. -/
def validatePayload (disk : InstallDisk) (session : InstallSession) :
    Call (AppProcess σ) InstallError Unit := do
  let payload ← ofOption session.payload (.machine (.invalidArgument "no payload uploaded"))
  fillDir session.targetBank none
  match disk.wipeError with
  | some e => fail (.machine (.storage e))
  | none =>
    match disk.unpack payload with
    | .error e => fail e
    | .ok () => fillDir session.targetBank (some payload)

def armBank (w : World σ) (target : Bank) : Call (Local σ) MachineError Unit := do
  let (state, _) ← a.nvBank
  writeBootState w
    (state.setBank a.slot { activeBank := target, committed := false, bootCount := 0 })

def finalizeInstall (w : World σ) (disk : InstallDisk) : Call (AppProcess σ) InstallError Unit := do
  let p ← get
  let session ← ofOption p.session noSession
  modify fun p => { p with session := none }
  validatePayload disk session
  onHere (flipCurrentSymlink w)
  onHere (a.armBank w session.targetBank)

def abortInstall : Call (AppProcess σ) InstallError Unit := do
  let p ← get
  if p.session.isSome then modify fun p => { p with session := none }
  else fail noSession

end AppComponent

/-- The operations on an application. -/
inductive AppOp (σ : Type)
  | bootCheck (w : World σ)
  | startInstall
  | beginUpload
  | endUpload (session : InstallSession) (received : Except MachineError (List UInt8))
  | finalizeInstall (w : World σ) (disk : InstallDisk)
  | commitInstall (w : World σ)
  | rollbackInstall (w : World σ)
  | abortInstall

namespace AppComponent

variable {σ : Type} (a : AppComponent)

/-- The call of an operation, without what it returns. An upload ends that has begun. -/
def perform : AppOp σ → Call (AppProcess σ) InstallError Unit
  | .bootCheck w => do
    let _ ← onHere (a.bootCheck w)
  | .startInstall => do
    let _ ← a.startInstall
  | .beginUpload => beginUpload
  | .endUpload session received => do
    let p ← get
    if session ∈ p.uploading then endUpload session received
  | .finalizeInstall w disk => a.finalizeInstall w disk
  | .commitInstall w => onHere (a.commitInstall w)
  | .rollbackInstall w => onHere (a.rollbackInstall w)
  | .abortInstall => abortInstall

/-- The bank that NV records as the committed active one. -/
def committedBank (p : AppProcess σ) : Option Bank :=
  (p.here.shared.nv.slot a.slot).boot.bind fun bs =>
    if bs.committed then some bs.activeBank else none

/-- The operation does not give up a trial of the bank that the process was made on: a rollback
finds another bank on trial, and so does a boot check that finds the last boot of a trial. -/
def Allowed (p : AppProcess σ) : AppOp σ → Prop
  | .rollbackInstall _ => ∀ bs, (p.here.shared.nv.slot a.slot).boot = some bs →
      bs.committed = false → bs.activeBank ≠ p.here.memory.runningBank
  | .bootCheck _ => ∀ bs, (p.here.shared.nv.slot a.slot).boot = some bs →
      bs.committed = false → bs.bootCount + 1 > MAX_TRIAL_BOOTS →
      bs.activeBank ≠ p.here.memory.runningBank
  | _ => True

/-- A step of the process that meets a condition. -/
def AppStep (allowed : AppProcess σ → AppOp σ → Prop) (p p' : AppProcess σ) : Prop :=
  ∃ op, allowed p op ∧ p' = (a.perform op p).2

/-! ### The committed bank is the one the process runs from -/

/-- If the slot is committed, then to the bank that the process takes for its own. -/
def RunsCommitted (l : Local σ) : Prop :=
  ∀ bs, (l.shared.nv.slot a.slot).boot = some bs → bs.committed = true →
    bs.activeBank = l.memory.runningBank

/-- What a call of the component keeps: its memory, and which bank may be committed. -/
def Stays (l l' : Local σ) : Prop :=
  l'.memory = l.memory ∧ a.RunsCommitted l'

variable {a} {w : World σ} {l : Local σ} {state : NvBootState} {bs : BankBootState}

theorem RunsCommitted.stays (runs : a.RunsCommitted l) :
  a.Stays l l
  := ⟨rfl, runs⟩

/-- A write of the boot state changes the entry of the slot to the new one, or not at all. -/
theorem boot_after_write {nv : NvStore} (read : nv.readBootState = some state)
    (entry : state.bank? a.slot = some bs) (new : BankBootState) :
  ((nv.putBootState (state.setBank a.slot new)).slot a.slot).boot = some new ∨
    ((nv.putBootState (state.setBank a.slot new)).slot a.slot).boot = (nv.slot a.slot).boot
  := by
  cases inRange : nv.slotInRange a.slot with
  | true =>
    left
    rw [boot_write_of_read read entry inRange new, if_pos rfl]
  | false =>
    right
    have within : a.slot.asIndex < MAX_SLOTS := (Vector.getElem?_eq_some_iff.mp entry).1
    rw [slot_boot read, entry, bank?_of_out_of_range read inRange entry,
      NvStore.slot, NvStore.bank?_readBootState_write, inRange, if_neg Bool.false_ne_true,
      if_pos within]

/-- A write keeps which bank may be committed if it commits no other one. -/
theorem writeBootState_stays (read : l.shared.nv.readBootState = some state)
    (entry : state.bank? a.slot = some bs) (runs : a.RunsCommitted l) (new : BankBootState)
    (harmless : new.committed = true → new.activeBank = l.memory.runningBank) :
  Yields (writeBootState w (state.setBank a.slot new)) l fun _ l' => a.Stays l l'
  := by
  apply yields_writeBootState
  · intro e
    exact runs.stays
  · use rfl
    intro bs' boot' committed
    rcases boot_after_write read entry new with changed | same
    · cases changed.symm.trans boot'
      apply harmless committed
    · apply runs bs' (same.symm.trans boot') committed

/-- The flip of the link leaves what the component reaches alone. -/
theorem flipCurrentSymlink_stays (runs : a.RunsCommitted l) :
  Yields (flipCurrentSymlink w) l fun _ l' => a.Stays l l'
  := by
  unfold flipCurrentSymlink
  split
  · apply yields_fail runs.stays
  · apply yields_pure runs.stays

/-- The floor is raised without a change of the boot entries. -/
theorem raiseFloor_stays {bank : Bank} (runs : a.RunsCommitted l) :
  Yields (a.raiseFloor w bank) l fun _ l' => a.Stays l l'
  := by
  apply yields_ignore
  apply yields_mapErr
  apply yields_zoom
  apply yields_zoom
  have stays {nv : NvStore} (same : (nv.slot a.slot).boot = (l.shared.nv.slot a.slot).boot) :
      a.Stays l { l with shared := { l.shared with nv } } := by
    use rfl
    intro bs boot committed
    apply runs bs (same.symm.trans boot) committed
  apply yields_raiseFloor
  · intro _ e
    exact ⟨stays rfl, fun _ => stays rfl⟩
  · intro s t raise becomes _
    have kept := stays ((congrArg Slot.boot becomes.self).trans (Slot.raiseFloor_boot raise))
    exact ⟨kept, fun _ => kept⟩

theorem Stays.trans {l' l'' : Local σ} (h : a.Stays l l') (h' : a.Stays l' l'') :
  a.Stays l l''
  := ⟨h'.1.trans h.1, h'.2⟩

/-- A call whose error is only logged. -/
theorem Stays.ignore {c : Call (Local σ) MachineError Unit}
    (h : Yields c l fun _ l' => a.Stays l l') :
  Yields (Call.ignore c) l fun _ l' => a.Stays l l'
  := yields_ignore (h.mono fun _ _ stays => ⟨stays, fun _ => stays⟩)

/-- Two calls in a row. -/
theorem Stays.bind {α β : Type} {c : Call (Local σ) MachineError α}
    {f : α → Call (Local σ) MachineError β} (first : Yields c l fun _ l' => a.Stays l l')
    (next : ∀ r l', a.RunsCommitted l' → Yields (f r) l' fun _ l'' => a.Stays l' l'') :
  Yields (c >>= f) l fun _ l' => a.Stays l l'
  := by
  refine yields_bind first (fun r l' stays => ?_) (fun _ _ h => h) (fun _ h => h)
  exact (next r l' stays.2).mono fun _ _ => stays.trans

/-- A commit that passes its preflight finds the bank on trial that the process runs from. -/
theorem preflightCommit_yields :
  Yields a.preflightCommit l fun res l' => l' = l ∧
    (res = .ok () → ∀ bs, (l.shared.nv.slot a.slot).boot = some bs → bs.committed = false →
      bs.activeBank = l.memory.runningBank)
  := by
  refine a.yields_nvBank_bind (fun _ failed => ⟨rfl, fun ok => absurd ok (failed ())⟩) ?_
  intro state bs read entry
  apply yields_get_bind
  split
  · apply yields_fail ⟨rfl, nofun⟩
  next passed =>
    refine yields_pure ⟨rfl, fun _ bs' boot' trial => ?_⟩
    rw [slot_boot read, entry] at boot'
    cases boot'
    by_contra other
    exact passed ⟨trial, other⟩

section

variable (runs : a.RunsCommitted l)
include runs

open Stays

/-- A commit is of the bank that the process runs from. -/
theorem commitInstall_stays :
  Yields (a.commitInstall w) l fun _ l' => a.Stays l l'
  := by
  refine yields_bind preflightCommit_yields ?_ (fun _ _ h => h.1 ▸ runs.stays)
    (fun _ h => h.1 ▸ runs.stays)
  rintro ⟨⟩ l ⟨rfl, passed⟩
  refine a.yields_nvBank_bind (fun _ _ => runs.stays) fun state bs read entry => ?_
  dsimp only
  split
  · apply yields_fail runs.stays
  next trial =>
    have boot : (l.shared.nv.slot a.slot).boot = some bs := by rw [slot_boot read, entry]
    have own := passed rfl bs boot (Bool.eq_false_of_not_eq_true trial)
    exact bind (writeBootState_stays read entry runs _ fun _ => own) fun _ _ => raiseFloor_stays

/-- A rollback of another bank's trial returns to the bank that the process runs from. -/
theorem rollbackInstall_stays
    (foreign : ∀ bs, (l.shared.nv.slot a.slot).boot = some bs → bs.committed = false →
      bs.activeBank ≠ l.memory.runningBank) :
  Yields (a.rollbackInstall w) l fun _ l' => a.Stays l l'
  := by
  refine a.yields_nvBank_bind (fun _ _ => runs.stays) fun state bs read entry => ?_
  dsimp only
  split
  · apply yields_fail runs.stays
  next trial =>
    have boot : (l.shared.nv.slot a.slot).boot = some bs := by rw [slot_boot read, entry]
    have own := Bank.other_eq_of_ne (foreign bs boot (Bool.eq_false_of_not_eq_true trial))
    exact bind (writeBootState_stays read entry runs _ fun _ => own) fun _ _ =>
      flipCurrentSymlink_stays

/-- A bank that is put on trial is not committed. -/
theorem armBank_stays {target : Bank} :
  Yields (a.armBank w target) l fun _ l' => a.Stays l l'
  := by
  refine a.yields_nvBank_bind (fun _ _ => runs.stays) fun state bs read entry => ?_
  exact writeBootState_stays read entry runs _ nofun

/-- A boot check that gives no trial of the process's own bank up keeps which bank may be
committed. -/
theorem bootCheck_stays
    (foreign : ∀ bs, (l.shared.nv.slot a.slot).boot = some bs → bs.committed = false →
      bs.bootCount + 1 > MAX_TRIAL_BOOTS → bs.activeBank ≠ l.memory.runningBank) :
  Yields (a.bootCheck w) l fun _ l' => a.Stays l l'
  := by
  apply yields_get_bind
  split
  · apply yields_pure runs.stays
  next state read =>
    refine yields_orStop_bind (fun bs entry => ?_) (fun _ => runs.stays)
    have boot : (l.shared.nv.slot a.slot).boot = some bs := by rw [slot_boot read, entry]
    split
    · apply yields_pure runs.stays
    next trial =>
      have trial := Bool.eq_false_of_not_eq_true trial
      split
      next last =>
        have own := Bank.other_eq_of_ne (foreign bs boot trial last)
        refine bind (ignore ?_) fun _ _ runs => yields_pure runs.stays
        exact bind (writeBootState_stays read entry runs _ fun _ => own) fun _ _ =>
          flipCurrentSymlink_stays
      · have counted := writeBootState_stays (w := w) read entry runs
          { bs with bootCount := bs.bootCount + 1 }
          (fun committed => absurd (committed.symm.trans trial) Bool.noConfusion)
        exact bind (ignore counted) fun _ _ runs => yields_pure runs.stays

end

/-! ### Whole runs -/

/-- Every session is aimed at the bank that the process does not run from, and the other one is the
only bank that may be committed. -/
structure Spared (a : AppComponent) (p : AppProcess σ) : Prop where
  runs : a.RunsCommitted p.here
  session : ∀ s, p.session = some s → s.targetBank = p.here.memory.runningBank.other
  uploading : ∀ s ∈ p.uploading, s.targetBank = p.here.memory.runningBank.other

variable {p : AppProcess σ}

section

variable (spared : a.Spared p)
include spared

/-- No session is aimed at the committed bank. -/
theorem Spared.committedBank_ne :
  a.committedBank p ≠ some p.here.memory.runningBank.other
  := by
  intro committed
  rw [committedBank, bind_eq_some_iff] at committed
  obtain ⟨bs, boot, active⟩ := committed
  split at active
  next isCommitted =>
    have own := spared.runs bs boot isCommitted
    exact Bank.other_ne _ ((some.inj active).symm.trans own)
  · cases active

/-- A call of the component keeps the sessions and the directories. -/
theorem Spared.onHere {α : Type} {c : Call (Local σ) MachineError α}
    (stays : Yields c p.here fun _ l' => a.Stays p.here l') :
  Yields (onHere c) p fun _ p' => a.Spared p' ∧ p'.dirs = p.dirs
  := by
  apply yields_mapErr
  apply yields_zoom
  refine stays.mono fun _ l' stays => ⟨?_, rfl⟩
  obtain ⟨memory, runs⟩ := stays
  constructor
  · exact runs
  · rw [memory]
    exact spared.session
  · rw [memory]
    exact spared.uploading

/-- The sessions after one of them was dropped. -/
theorem Spared.drop :
  a.Spared { p with session := none }
  := ⟨spared.runs, nofun, spared.uploading⟩

theorem startInstall_spared :
  Yields a.startInstall p fun res p' => a.Spared p' ∧
    ∀ target, res = .ok target → target = p.here.memory.runningBank.other
  := by
  apply yields_get_bind
  refine yields_orStop_bind (fun committed _ => ?_) (fun _ => ⟨spared, nofun⟩)
  split
  · apply yields_fail ⟨spared, nofun⟩
  · split
    · apply yields_fail ⟨spared, nofun⟩
    · apply yields_modify_bind
      refine yields_pure ⟨⟨spared.runs, ?_, spared.uploading⟩, ?_⟩
      · rintro s ⟨⟩
        rfl
      · rintro target ⟨⟩
        rfl

theorem beginUpload_spared :
  Yields beginUpload p fun _ p' => a.Spared p'
  := by
  apply yields_get_bind
  refine yields_ofOption_bind (fun session found => ?_) (fun _ => spared)
  refine ⟨spared.runs, nofun, fun s listed => ?_⟩
  rcases mem_cons.mp listed with rfl | earlier
  · exact spared.session s found
  · exact spared.uploading s earlier

theorem endUpload_spared {session : InstallSession} {received : Except MachineError (List UInt8)}
    (begun : session ∈ p.uploading) :
  Yields (endUpload session received) p fun _ p' => a.Spared p'
  := by
  have target := spared.uploading session begun
  have putBack (session' : InstallSession) (same : session'.targetBank = session.targetBank) :
      a.Spared { p with session := some session', uploading := p.uploading.erase session } := by
    refine ⟨spared.runs, ?_, fun s listed => spared.uploading s (mem_of_mem_erase listed)⟩
    rintro s ⟨⟩
    exact same.trans target
  rcases received with e | _ | ⟨b, _⟩
  · exact putBack session rfl
  · exact putBack session rfl
  · exact putBack _ rfl

theorem abortInstall_spared :
  Yields abortInstall p fun _ p' => a.Spared p'
  := by
  apply yields_get_bind
  split
  · exact spared.drop
  · apply yields_fail spared

end

/-- The wipe and the new content of a directory are no concern of the sessions. -/
theorem validatePayload_spared (disk : InstallDisk) (session : InstallSession)
    (spared : a.Spared p) :
  Yields (validatePayload disk session) p fun _ p' => a.Spared p' ∧
    ∀ bank, p'.dirs bank ≠ p.dirs bank → bank = session.targetBank
  := by
  have filled (p' : AppProcess σ) (spared : a.Spared p')
      (elsewhere : ∀ bank, p'.dirs bank ≠ p.dirs bank → bank = session.targetBank)
      (content : Option (List UInt8)) :
      Yields (fillDir session.targetBank content) p' fun _ p'' => a.Spared p'' ∧
        ∀ bank, p''.dirs bank ≠ p.dirs bank → bank = session.targetBank := by
    refine ⟨⟨spared.runs, spared.session, spared.uploading⟩, fun bank changed => ?_⟩
    by_contra other
    refine elsewhere bank (fun same => changed ?_) |> other
    exact (if_neg other).trans same
  refine yields_ofOption_bind (fun payload _ => ?_)
    (fun _ => ⟨spared, fun _ changed => absurd rfl changed⟩)
  refine yields_bind (filled p spared (fun _ changed => absurd rfl changed) none) ?_
    (fun _ _ h => h) (fun _ h => h)
  rintro ⟨⟩ p₁ ⟨spared₁, elsewhere⟩
  split
  · apply yields_fail ⟨spared₁, elsewhere⟩
  · split
    · apply yields_fail ⟨spared₁, elsewhere⟩
    · apply filled p₁ spared₁ elsewhere

/-- An install wipes and fills only the directory of the bank that the process does not run from. -/
theorem finalizeInstall_spared {disk : InstallDisk} (spared : a.Spared p) :
  Yields (a.finalizeInstall w disk) p fun _ p' => a.Spared p' ∧
    ∀ bank, p'.dirs bank ≠ p.dirs bank → bank = p.here.memory.runningBank.other
  := by
  apply yields_get_bind
  refine yields_ofOption_bind (fun session found => ?_)
    (fun _ => ⟨spared, fun _ changed => absurd rfl changed⟩)
  have target := spared.session session found
  apply yields_modify_bind
  have validated := validatePayload_spared disk session spared.drop
  rw [target] at validated
  refine yields_bind validated ?_ (fun _ _ h => h) (fun _ h => h)
  rintro ⟨⟩ p₁ ⟨spared₁, elsewhere⟩
  have next {p₂ : AppProcess σ} (same : p₂.dirs = p₁.dirs) (bank : Bank)
      (changed : p₂.dirs bank ≠ p.dirs bank) : bank = p.here.memory.runningBank.other :=
    elsewhere bank (same ▸ changed)
  refine yields_bind (spared₁.onHere (flipCurrentSymlink_stays spared₁.runs)) ?_
    (fun _ _ h => ⟨h.1, next h.2⟩) (fun _ h => ⟨h.1, next h.2⟩)
  rintro ⟨⟩ p₂ ⟨spared₂, same⟩
  exact (spared₂.onHere (armBank_stays spared₂.runs)).mono fun _ _ h => ⟨h.1, next (h.2.trans same)⟩

/-- Every operation that gives no trial of the process's own bank up keeps the committed bank
spared. -/
theorem perform_spared {op : AppOp σ} (spared : a.Spared p) (allowed : a.Allowed p op) :
  a.Spared (a.perform op p).2
  := by
  have dropped {α : Type} {c : Call (AppProcess σ) InstallError α}
      (h : Yields c p fun _ p' => a.Spared p') :
      Yields (c >>= fun _ => pure ()) p fun _ p' => a.Spared p' :=
    yields_bind h (fun _ _ h => yields_pure h) (fun _ _ h => h) (fun _ h => h)
  cases op with
  | bootCheck =>
    exact dropped ((spared.onHere (bootCheck_stays spared.runs allowed)).mono fun _ _ h => h.1)
  | startInstall => exact dropped ((startInstall_spared spared).mono fun _ _ h => h.1)
  | beginUpload => exact beginUpload_spared spared
  | endUpload session received =>
    have ended : Yields (a.perform (.endUpload session received)) p fun _ p' => a.Spared p' := by
      apply yields_get_bind
      split
      next begun => apply endUpload_spared spared begun
      · apply yields_pure spared
    exact ended
  | finalizeInstall => exact (finalizeInstall_spared spared).1
  | commitInstall => exact (spared.onHere (commitInstall_stays spared.runs)).1
  | rollbackInstall => exact (spared.onHere (rollbackInstall_stays spared.runs allowed)).1
  | abortInstall => exact abortInstall_spared spared

/-- A component that was just made runs from the bank that NV has active. -/
theorem Constructed.spared (made : a.Constructed p) :
  a.Spared p
  := by
  obtain ⟨running, noSession, noUpload⟩ := made
  refine ⟨?_, ?_, ?_⟩
  · intro bs boot _
    rw [startingBank] at running
    cases read : p.here.shared.nv.readBootState with
    | none =>
      rw [NvStore.slot, read] at boot
      cases boot
    | some =>
      rw [slot_boot read] at boot
      rw [read, elim_some, boot] at running
      exact some.inj running
  · rw [noSession]
    rintro _ ⟨⟩
  · rw [noUpload]
    rintro _ ⟨⟩

/-- In every run of allowed operations, no install that is started is aimed at the bank that NV
records as the committed one, and no install wipes or fills the directory of that bank. -/
theorem committed_bank_spared (a : AppComponent) {p : AppProcess σ}
    (run : Reachable a.Constructed (a.AppStep a.Allowed) p) :
  (∀ target p', a.startInstall p = (.ok target, p') → a.committedBank p ≠ some target) ∧
  ∀ w disk bank, (a.finalizeInstall w disk p).2.dirs bank ≠ p.dirs bank →
    a.committedBank p ≠ some bank
  := by
  have spared : a.Spared p := by
    apply run.invariant
    · intro p made
      exact made.spared
    · rintro p p' spared ⟨op, allowed, rfl⟩
      exact perform_spared spared allowed
  constructor
  · intro target p' started
    have started' := (startInstall_spared spared).2 target (congrArg Prod.fst started)
    rw [started']
    exact spared.committedBank_ne
  · intro w disk bank changed
    rw [(finalizeInstall_spared spared).2 bank changed]
    exact spared.committedBank_ne

end AppComponent

/-! ### One application -/

open TwoMachines (Store)

namespace OneApp

open AppComponent

def app : AppComponent where
  id := "app"
  slot := ⟨3⟩

def nvWith (bs : BankBootState) : NvStore where
  deviceSize := 0x70000
  bootState := some (({} : NvBootState).setBank app.slot bs)

/-- The process of the application, made on the active bank of the store. -/
def process (bs : BankBootState) : AppProcess Store where
  here :=
    { shared := { nv := nvWith bs, running := TwoMachines.start.running }
      memory := { runningBank := bs.activeBank } }
  dirs bank := some (match bank with | .A => [1] | .B => [2])

def working : World Store where
  env := TwoMachines.working

def after (p : AppProcess Store) : List (AppOp Store) → AppProcess Store
  | [] => p
  | op :: ops => after (app.perform op p).2 ops

def uploaded (target : Bank) : List (AppOp Store) :=
  [.startInstall, .beginUpload, .endUpload { targetBank := target } (.ok [3])]

def installing : List (AppOp Store) :=
  uploaded .B ++ [.finalizeInstall working {}]

/-- The process that runs from bank A after it installed into bank B. -/
def armed : AppProcess Store :=
  after (process {}) installing

def lastTrialBoot : BankBootState :=
  { activeBank := .B, committed := false, bootCount := MAX_TRIAL_BOOTS }

/-- Operations lead from a process that was made to one that is reached. -/
theorem reachable_after {allowed : AppProcess Store →
      AppOp Store → Prop} {p : AppProcess Store}
    (ops : List (AppOp Store)) (run : Reachable app.Constructed (app.AppStep allowed) p)
    (all : ∀ op ∈ ops, ∀ p, allowed p op) :
  Reachable app.Constructed (app.AppStep allowed) (after p ops)
  := by
  induction ops generalizing p with
  | nil => exact run
  | cons op _ ih =>
    apply ih (run.step ⟨op, all op mem_cons_self p, rfl⟩)
    intro op' listed
    apply all op' (mem_cons_of_mem op listed)

end OneApp

open OneApp

/-- A process that runs from bank A installs into bank B and gives its trial up: the next install
goes to bank B again. -/
theorem AppComponent.second_install_spares :
  ∃ p : AppProcess Store, (app.startInstall p).1 = .ok .B ∧ app.committedBank p = some .A ∧
    app.committedBank p ≠ some .B
  := by
  have made : app.Constructed (process {}) := ⟨by decide +kernel, rfl, rfl⟩
  have installed : Reachable app.Constructed (app.AppStep app.Allowed)
      armed := by
    apply reachable_after _ (.init made)
    intro op listed p
    simp only [installing, uploaded, List.cons_append, List.nil_append,
      List.mem_cons, List.not_mem_nil, or_false] at listed
    rcases listed with rfl | rfl | rfl | rfl <;> trivial
  have onTrial : (armed.here.shared.nv.slot app.slot).boot =
      some { activeBank := .B, committed := false } := by decide +kernel
  have foreign : app.Allowed armed (.rollbackInstall working) := by
    intro bs boot _
    cases onTrial.symm.trans boot
    decide +kernel
  have run := installed.step ⟨_, foreign, rfl⟩
  have started : (app.startInstall (app.perform (.rollbackInstall working) armed).2).1 =
    .ok .B := by
    decide +kernel
  use (app.perform (.rollbackInstall working) armed).2, started
  constructor
  · decide +kernel
  · apply (app.committed_bank_spared run).1 .B _ (Prod.ext started rfl)

/-- The process is made on bank B in the last boot of its trial, and the boot check gives the trial
up: bank A is committed. The next install that is started is aimed at bank A, and when it is
finalized, the directory of bank A is wiped and filled anew. -/
theorem AppComponent.rolled_back_bank_wiped :
  ∃ p p' : AppProcess Store, Reachable app.Constructed (app.AppStep fun _ _ => True) p ∧
    Reachable app.Constructed (app.AppStep fun _ _ => True) p' ∧
    app.committedBank p = some .A ∧ (app.startInstall p).1 = .ok .A ∧
    app.committedBank p' = some .A ∧ p'.dirs .A = some [1] ∧
    (app.finalizeInstall working {} p').2.dirs .A = some [3]
  := by
  have made : app.Constructed (process lastTrialBoot) :=
    ⟨by decide +kernel, rfl, rfl⟩
  use after (process lastTrialBoot) [.bootCheck working], after (process lastTrialBoot)
      (.bootCheck working :: uploaded .A), reachable_after _ (.init made) (fun _ _ _ => trivial),
    reachable_after _ (.init made) (fun _ _ _ => trivial)
  and_intros
  · decide +kernel
  · decide +kernel
  · decide +kernel
  · decide +kernel
  · decide +kernel

end ComponentMgr
