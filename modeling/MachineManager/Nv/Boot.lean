import MachineManager.Nv.AntiRollback

/-!
# What the calls do to the boot entries

An install, a commit, a rollback and a hash failure change the boot entry of one slot, and they
change it if and only if they succeed: the boot state is written last. A boot gives every slot of
the store its turn, or changes nothing. Where no write fails, only what the entries say decides
whether a call succeeds.
-/

namespace Nv

def SetsBoot (set : BankSet) (bs : BankBootState) (nv nv' : NvStore) : Prop :=
  ∀ set', (nv'.slot set').boot = if set' = set then some bs else (nv.slot set').boot

/-- No boot entry has changed. -/
def KeepsBoot (nv nv' : NvStore) : Prop :=
  ∀ set, (nv'.slot set).boot = (nv.slot set).boot

theorem KeepsBoot.refl (nv : NvStore) :
  KeepsBoot nv nv
  := fun _ => rfl

variable {nv nv' nv'' : NvStore} {set : BankSet} {bs : BankBootState}

theorem KeepsBoot.trans (h : KeepsBoot nv nv') (h' : KeepsBoot nv' nv'') :
  KeepsBoot nv nv''
  := fun set => (h' set).trans (h set)

section

variable (h : SetsBoot set bs nv nv')
include h

theorem SetsBoot.trans_keeps (h' : KeepsBoot nv' nv'') :
  SetsBoot set bs nv nv''
  := fun set' => (h' set').trans (h set')

theorem SetsBoot.self :
  (nv'.slot set).boot = some bs
  := (h set).trans (if_pos rfl)

theorem SetsBoot.other {set' : BankSet} (ne : set' ≠ set) :
  (nv'.slot set').boot = (nv.slot set').boot
  := (h set').trans (if_neg ne)

end

section Effects

variable {faults : NvFaults} {state : NvBootState}
  {s : Slot} {n : Nat} {bank : Bank}

/-- One slot has changed, and its boot entry with it. -/
theorem Becomes.setsBoot (becomes : Becomes set s nv nv') (boot : s.boot = some bs) :
  SetsBoot set bs nv nv'
  := by
  intro set'
  rw [becomes.slots set']
  split
  · apply boot
  · rfl

/-- One slot has changed, but not its boot entry. -/
theorem Becomes.keepsBoot (becomes : Becomes set s nv nv') (boot : s.boot = (nv.slot set).boot) :
  KeepsBoot nv nv'
  := by
  intro set'
  rw [becomes.slots set']
  split
  next same => rw [same, boot]
  next => rfl

theorem Slot.raiseFloor_boot {t : Slot} {active : Bank}
    (raise : s.raiseFloor faults active = some t) :
  t.boot = s.boot
  := by obtain ⟨rfl, -⟩ | ⟨m, -, -, rfl⟩ := raiseFloor_cases raise <;> rfl

/-- An install arms a committed slot, or it changes no boot entry. -/
theorem installChecked_boot {imageSha256 : Buffer 32} {fwCrc : UInt32} {info : ImageMeta}
    {single : Bool} {res : Ending OtaError InstallResult}
    (call : installChecked faults set imageSha256 fwCrc info single nv = (res, nv')) :
  (∃ r bs, res = .ok r ∧ (nv.slot set).boot = some bs ∧ bs.committed = true ∧
    SetsBoot set (installedBoot single bs) nv nv') ∨ (∀ r, res ≠ .ok r) ∧ KeepsBoot nv nv'
  := by
  obtain ⟨s, outcome, becomes⟩ := installChecked_outcome faults set imageSha256 fwCrc info single nv
  rw [call] at outcome becomes
  cases outcome with
  | absent _ ends => exact .inr ⟨by rcases ends with rfl | rfl <;> nofun, becomes.keepsBoot rfl⟩
  | onTrial | tooOld | unwritten => exact .inr ⟨nofun, becomes.keepsBoot rfl⟩
  | staged => exact .inr ⟨nofun, becomes.keepsBoot (by cases single <;> rfl)⟩
  | armed boot committed => exact .inl ⟨_, _, rfl, boot, committed, becomes.setsBoot rfl⟩

/-- A commit ends the trial of a slot, or it changes no boot entry. -/
theorem commit_boot {res : Ending OtaError Unit} (call : commit faults set nv = (res, nv')) :
  (∃ bs, res = .ok () ∧ (nv.slot set).boot = some bs ∧ bs.committed = false ∧
    SetsBoot set (committedBoot bs) nv nv') ∨ res ≠ .ok () ∧ KeepsBoot nv nv'
  := by
  obtain ⟨s, outcome, becomes⟩ := commit_outcome faults set nv
  rw [call] at outcome becomes
  cases outcome with
  | absent _ ends => exact .inr ⟨by rcases ends with rfl | rfl <;> nofun, becomes.keepsBoot rfl⟩
  | settled | unraised => exact .inr ⟨nofun, becomes.keepsBoot rfl⟩
  | raised _ _ raise => exact .inr ⟨nofun, becomes.keepsBoot (Slot.raiseFloor_boot raise)⟩
  | committed boot trial => exact .inl ⟨_, rfl, boot, trial, becomes.setsBoot rfl⟩

/-- A commit finds nothing to do for a slot that is committed. -/
theorem committed_of_commit (call : commit faults set nv = (.err .alreadyCommitted, nv')) :
  ∃ bs, (nv.slot set).boot = some bs ∧ bs.committed = true
  := by
  obtain ⟨s, outcome, -⟩ := commit_outcome faults set nv
  rw [call] at outcome
  cases outcome with
  | absent _ ends => rcases ends with ends | ends <;> cases ends
  | settled boot committed => exact ⟨_, boot, committed⟩

/-- A rollback ends the trial of a slot, or it changes no boot entry. -/
theorem rollback_boot {res : Ending OtaError Bank} (call : rollback faults set nv = (res, nv')) :
  (∃ bs, res = .ok bs.activeBank.other ∧ (nv.slot set).boot = some bs ∧ bs.committed = false ∧
    SetsBoot set (returnedBoot bs) nv nv') ∨ (∀ bank, res ≠ .ok bank) ∧ KeepsBoot nv nv'
  := by
  obtain ⟨s, outcome, becomes⟩ := rollback_outcome faults set nv
  rw [call] at outcome becomes
  cases outcome with
  | absent _ ends => exact .inr ⟨by rcases ends with rfl | rfl <;> nofun, becomes.keepsBoot rfl⟩
  | settled | failed => exact .inr ⟨nofun, becomes.keepsBoot rfl⟩
  | returned boot trial => exact .inl ⟨_, rfl, boot, trial, becomes.setsBoot rfl⟩

/-- Where no write fails, a rollback of a slot on trial succeeds. -/
theorem rollback_returns (boot : (nv.slot set).boot = some bs) (trial : bs.committed = false) :
  ∃ nv', rollback noNvFault set nv = (.ok bs.activeBank.other, nv')
  := by
  obtain ⟨s, outcome, -⟩ := rollback_outcome noNvFault set nv
  rcases call : rollback noNvFault set nv with ⟨_, nv'⟩
  rw [call] at outcome
  cases outcome with
  | absent none => cases none.symm.trans boot
  | settled boot' committed =>
    cases boot.symm.trans boot'
    cases trial.symm.trans committed
  | failed _ _ fails => cases fails
  | returned boot' =>
    cases boot.symm.trans boot'
    exact ⟨nv', rfl⟩

/-- A hash failure ends the trial of a slot, or it changes no boot entry. -/
theorem handleHashFailure_boot {res : Ending BootError BootAction}
    (call : handleHashFailure faults set nv = (res, nv')) :
  (∃ bs, res = .ok (.hashRollback bs.activeBank bs.activeBank.other) ∧
    (nv.slot set).boot = some bs ∧ bs.committed = false ∧ SetsBoot set (returnedBoot bs) nv nv') ∨
  ((∃ action, res = .ok action) → ∀ bs, (nv.slot set).boot = some bs → bs.committed = true) ∧
    KeepsBoot nv nv'
  := by
  obtain ⟨s, outcome, becomes⟩ := handleHashFailure_outcome faults set nv
  rw [call] at outcome becomes
  cases outcome with
  | absent none =>
    refine .inr ⟨?_, becomes.keepsBoot rfl⟩
    intro _ bs boot
    cases none.symm.trans boot
  | settled boot committed =>
    refine .inr ⟨?_, becomes.keepsBoot rfl⟩
    intro _ bs boot'
    cases boot.symm.trans boot'
    exact committed
  | failed => exact .inr ⟨nofun, becomes.keepsBoot rfl⟩
  | returned boot trial => exact .inl ⟨_, rfl, boot, trial, becomes.setsBoot rfl⟩

/-! ### Boots one after the other -/

def trialEntry (bank : Bank) (n : Nat) : BankBootState :=
  { activeBank := bank, committed := false, bootCount := UInt8.ofNat n }

/-- A trial boot is counted. -/
theorem bootTurn_trialEntry (bank : Bank) (room : n < MAX_TRIAL_BOOTS.toNat) :
  bootTurn (trialEntry bank n) = (.trialBoot bank (UInt8.ofNat (n + 1)), trialEntry bank (n + 1))
  := by
  have max : MAX_TRIAL_BOOTS.toNat = 10 := rfl
  have count : (trialEntry bank n).bootCount + 1 = UInt8.ofNat (n + 1) := (UInt8.ofNat_add n 1).symm
  have below : ¬UInt8.ofNat (n + 1) > MAX_TRIAL_BOOTS := by
    intro above
    have above := UInt8.lt_iff_toNat_lt.mp above
    rw [UInt8.toNat_ofNat', max] at above
    omega
  rw [bootTurn, if_neg (by simp [trialEntry])]
  simp only [count, if_neg below]
  rfl

/-- The boot after the last one that a trial may take gives the trial up. -/
theorem bootTurn_trialEntry_max (bank : Bank) :
  bootTurn (trialEntry bank MAX_TRIAL_BOOTS.toNat) =
    (.autoRollback bank bank.other, { activeBank := bank.other, committed := true, bootCount := 0 })
  := by cases bank <;> rfl

/-- From `nv`, `n` boots have returned, and any number of others have failed. -/
inductive BootRun (nv : NvStore) : Nat → NvStore → Prop
  | start : BootRun nv 0 nv
  | booted {n : Nat} {faults : NvFaults} {nv' nv'' : NvStore} {actions : List BootAction}
      (run : BootRun nv n nv') (call : processBootNv faults nv' = (.ok actions, nv'')) :
      BootRun nv (n + 1) nv''
  | failed {n : Nat} {faults : NvFaults} {nv' nv'' : NvStore} {e : BootError}
      (run : BootRun nv n nv') (call : processBootNv faults nv' = (.err e, nv'')) :
        BootRun nv n nv''

/-- Where no write fails, any number of boots return. -/
theorem exists_bootRun (nv : NvStore) (n : Nat) :
  ∃ nv', BootRun nv n nv'
  := by
  induction n with
  | zero => exact ⟨nv, .start⟩
  | succ _ ih =>
    obtain ⟨nv', run⟩ := ih
    obtain ⟨_, nv'', call⟩ := processBootNv_returns nv'
    exact ⟨nv'', run.booted call⟩

/-- A boot that returns. -/
theorem boots_of_call {actions : List BootAction}
    (call : processBootNv faults nv = (.ok actions, nv')) :
  Boots nv nv' actions
  := by
  rcases processBootNv_boot call with ⟨_, ⟨⟩, boots⟩ | ⟨failed, -⟩
  · apply boots
  · apply absurd rfl (failed actions)

/-- Boots without a verdict count a trial up. -/
theorem trialEntry_of_bootRun (start : (nv.slot set).boot = some (trialEntry bank 0))
    (run : BootRun nv n nv') (few : n ≤ MAX_TRIAL_BOOTS.toNat) :
  (nv'.slot set).boot = some (trialEntry bank n)
  := by
  induction run with
  | start => apply start
  | @booted _ _ _ _ _ _ call ih =>
    have entry := ih (by omega)
    rw [(boots_of_call call).entries set (asIndex_lt_of_entry entry), entry, bootedBoot,
      bootTurn_trialEntry bank few]
  | failed _ call ih =>
    rcases processBootNv_boot call with ⟨_, ⟨⟩, -⟩ | ⟨-, rfl⟩
    apply ih few

/-- A slot on trial is one that the store can address. -/
theorem slotInRange_of_trialEntry (entry : (nv.slot set).boot = some (trialEntry bank n)) :
  nv.slotInRange set = true
  := by
  cases read : nv.readBootState with
  | none =>
    rw [NvStore.slot, read] at entry
    cases entry
  | some =>
    rw [NvStore.slot_boot read] at entry
    apply NvStore.slotInRange_of_trial read entry rfl

end Effects

end Nv
