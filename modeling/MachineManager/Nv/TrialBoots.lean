import MachineManager.Nv.OlderRecords

/-!
# Trials are bounded

The calls of the update flow and of the boot stage on one store, in any order and with any of their
writes failing. A slot that an install has armed takes its trial boots, counted from one, and the
boot after the last of them returns it to the bank that was committed before; a slot that no install
has armed is never on trial.

All of this is for stores in which, at the start, every slot that is not committed has been armed by
an install. The boot state of an older writer is not one of them.
-/

open Function

namespace Nv

open Buffer

/-- A call of the update flow or of the boot stage; the digest and the checksum of an install are
those of its image. -/
inductive NvCall
  | install (set : BankSet) (imageSha256 : Buffer 32) (fwCrc : UInt32) (info : ImageMeta)
      (singleBank : Bool)
  | commit (set : BankSet)
  | rollback (set : BankSet)
  | handleHashFailure (set : BankSet)
  | processBootNv

def NvCall.run (faults : NvFaults) : NvCall → NvStore → NvStore
  | .install set imageSha256 fwCrc info singleBank, nv =>
    (installChecked faults set imageSha256 fwCrc info singleBank nv).2
  | .commit set, nv => (Nv.commit faults set nv).2
  | .rollback set, nv => (Nv.rollback faults set nv).2
  | .handleHashFailure set, nv => (Nv.handleHashFailure faults set nv).2
  | .processBootNv, nv => (Nv.processBootNv faults nv).2

/-! ### Each slot by itself -/

/-- What a call does to the slot `set`. -/
def NvCall.onSlot (faults : NvFaults) (set : BankSet) (inRange : Bool) : NvCall → Slot → Slot
  | .install target imageSha256 fwCrc info singleBank, s =>
    if set = target then s.install faults inRange imageSha256 fwCrc info singleBank else s
  | .commit target, s => if set = target then s.commit faults else s
  | .rollback target, s | .handleHashFailure target, s =>
    if set = target then s.giveUp faults else s
  | .processBootNv, s => s.booted faults (set.asIndex < MAX_SLOTS)

section Slots

variable {faults : NvFaults} {s t : Slot}

theorem InstallOutcome.eq {inRange singleBank : Bool} {imageSha256 : Buffer 32} {fwCrc : UInt32}
    {info : ImageMeta} {res : Ending OtaError InstallResult}
    (outcome : InstallOutcome faults s inRange imageSha256 fwCrc info singleBank res t) :
  t = s.install faults inRange imageSha256 fwCrc info singleBank
  := by
  cases outcome with
  | absent boot => simp only [Slot.install, boot]
  | onTrial boot trial => simp only [Slot.install, boot, trial, Bool.not_false, if_true]
  | tooOld boot committed old => simp [Slot.install, boot, committed, old]
  | unwritten boot committed fresh fails =>
    simp only [Slot.install, boot, committed, fresh, fails, Bool.not_true,
      Bool.false_eq_true, if_true, if_false]
  | staged boot committed fresh lands fails =>
    simp only [Slot.install, boot, committed, fresh, lands, fails,
      Bool.not_true, Bool.false_eq_true, if_true, if_false]
  | armed boot committed fresh lands booted =>
    simp only [Slot.install, boot, committed, fresh, lands, booted,
      Bool.not_true, Bool.false_eq_true, if_false]

theorem CommitOutcome.eq {res : Ending OtaError Unit} (outcome : CommitOutcome faults s res t) :
  t = s.commit faults
  := by cases outcome <;> simp_all [Slot.commit]

theorem ReturnOutcome.eq {ε α : Type} {fail : BlockError → ε} {absent : Ending ε α → Prop}
    {settled : BankBootState → Ending ε α} {done : BankBootState → α} {res : Ending ε α}
    (outcome : ReturnOutcome faults s fail absent settled done res t) :
  t = s.giveUp faults
  := by cases outcome <;> simp_all [Slot.giveUp]

/-- What a call does to a slot depends on the slot and the call only. -/
theorem NvCall.run_slot (c : NvCall) (faults : NvFaults) (nv : NvStore) (set : BankSet) :
  (c.run faults nv).slot set = c.onSlot faults set (nv.slotInRange set) (nv.slot set)
  := by
  cases c with
  | install target imageSha256 fwCrc info singleBank =>
    obtain ⟨s, outcome, becomes⟩ :=
      installChecked_outcome faults target imageSha256 fwCrc info singleBank nv
    rw [run, onSlot, becomes.slots set, outcome.eq]
    split
    next same => rw [same]
    next => rfl
  | commit target =>
    obtain ⟨s, outcome, becomes⟩ := commit_outcome faults target nv
    rw [run, onSlot, becomes.slots set, outcome.eq]
    split
    next same => rw [same]
    next => rfl
  | rollback target =>
    obtain ⟨s, outcome, becomes⟩ := rollback_outcome faults target nv
    rw [run, onSlot, becomes.slots set, outcome.eq]
    split
    next same => rw [same]
    next => rfl
  | handleHashFailure target =>
    obtain ⟨s, outcome, becomes⟩ := handleHashFailure_outcome faults target nv
    rw [run, onSlot, becomes.slots set, outcome.eq]
    split
    next same => rw [same]
    next => rfl
  | processBootNv => apply processBootNv_slot

/-- No call changes how many slots the store has. -/
theorem NvCall.run_deviceSize (c : NvCall) (faults : NvFaults) (nv : NvStore) :
  (c.run faults nv).deviceSize = nv.deviceSize
  := by
  cases c with
  | install target imageSha256 fwCrc info singleBank =>
    obtain ⟨_, -, becomes⟩ := installChecked_outcome faults target imageSha256 fwCrc
      info singleBank nv
    exact becomes.size
  | commit target =>
    obtain ⟨_, -, becomes⟩ := commit_outcome faults target nv
    exact becomes.size
  | rollback target =>
    obtain ⟨_, -, becomes⟩ := rollback_outcome faults target nv
    exact becomes.size
  | handleHashFailure target =>
    obtain ⟨_, -, becomes⟩ := handleHashFailure_outcome faults target nv
    exact becomes.size
  | processBootNv =>
    exact yields_processBootNv (R := fun _ t => t.deviceSize = nv.deviceSize) (fun _ _ => rfl)
      (fun _ _ _ _ => rfl) fun _ _ => rfl

end Slots

/-! ### Trials over a run -/

/-- A trial of a slot: the bank that was committed when an install armed the slot, and the boots
since. -/
structure Trial where
  previous : Bank
  boots : Nat
deriving DecidableEq

/-- The trial after one more boot; there is none when the boots have run out. -/
def Trial.next (t : Trial) : Option Trial :=
  if t.boots < MAX_TRIAL_BOOTS.toNat then some { t with boots := t.boots + 1 } else none

/-- The store, and the trials that installs have begun and that no verdict or boot has ended. -/
structure Watched where
  nv : NvStore
  trials : BankSet → Option Trial

namespace Watched

def armed (x : Watched) (set : BankSet) (nv : NvStore) : Watched where
  nv
  trials := Function.update x.trials set
    (some { previous := (x.nv.slot set).boot.elim .A BankBootState.committedBank, boots := 0 })

def resolved (x : Watched) (set : BankSet) (nv : NvStore) : Watched where
  nv
  trials := Function.update x.trials set none

def booted (x : Watched) (nv : NvStore) : Watched where
  nv
  trials set := (x.trials set).bind Trial.next

/-- What is watched after a call: only one that returns begins, counts or ends a trial. An install
into a slot of one bank leaves it committed. -/
def after (faults : NvFaults) (x : Watched) : NvCall → Watched
  | .install set imageSha256 fwCrc info singleBank =>
    match installChecked faults set imageSha256 fwCrc info singleBank x.nv with
    | (.ok _, nv) => if singleBank then { x with nv } else x.armed set nv
    | (_, nv) => { x with nv }
  | .commit set =>
    match commit faults set x.nv with
    | (.ok _, nv) => x.resolved set nv
    | (_, nv) => { x with nv }
  | .rollback set =>
    match rollback faults set x.nv with
    | (.ok _, nv) => x.resolved set nv
    | (_, nv) => { x with nv }
  | .handleHashFailure set =>
    match handleHashFailure faults set x.nv with
    | (.ok _, nv) => x.resolved set nv
    | (_, nv) => { x with nv }
  | .processBootNv =>
    match processBootNv faults x.nv with
    | (.ok _, nv) => x.booted nv
    | (_, nv) => { x with nv }

end Watched

/-- The states that calls lead to from `x`, with any of their writes failing. -/
def WatchedRun (x : Watched) : Watched → Prop :=
  Reachable (· = x) fun y z => ∃ faults c, z = y.after faults c

/-- The entry of a slot is that of its trial, or without one it is committed. -/
def Accounts : Option Trial → Option BankBootState → Prop
  | none, entry => ∀ bs, entry = some bs → bs.committed = true ∧ bs.bootCount ≤ MAX_TRIAL_BOOTS
  | some t, entry => entry = some (trialEntry t.previous.other t.boots) ∧
      t.boots ≤ MAX_TRIAL_BOOTS.toNat

/-- Every slot that is not committed has been armed by an install, and counts the boots since. -/
def Accounted (x : Watched) : Prop :=
  ∀ set, Accounts (x.trials set) (x.nv.slot set).boot

variable {set : BankSet} {nv' : NvStore} {x : Watched}

section Accounted

variable {bs : BankBootState} {t : Option Trial}

theorem Accounts.of_committed (accounts : Accounts t (some bs)) (committed : bs.committed = true) :
  t = none ∧ bs.bootCount ≤ MAX_TRIAL_BOOTS
  := by
  cases t with
  | none => exact ⟨rfl, (accounts bs rfl).2⟩
  | some =>
    obtain ⟨entry, -⟩ := accounts
    cases entry
    cases committed

/-- An entry as a verdict or an install into a slot of one bank leaves it. -/
theorem accounts_of_committed (committed : bs.committed = true) (zero : bs.bootCount = 0) :
  Accounts none (some bs)
  := by
  rintro _ ⟨⟩
  rw [zero]
  exact ⟨committed, UInt8.zero_le⟩

variable (accounted : Accounted x)

include accounted

/-- A call that changes no boot entry. -/
theorem accounted_of_keeps (keeps : KeepsBoot x.nv nv') :
  Accounted { x with nv := nv' }
  := by
  intro set
  rw [keeps set]
  apply accounted set

/-- A call that changes the entry of one slot, and what is known of its trial. -/
theorem accounted_of_sets (sets : SetsBoot set bs x.nv nv') (accounts : Accounts t (some bs)) :
  Accounted { nv := nv', trials := update x.trials set t }
  := by
  intro set'
  dsimp only
  by_cases same : set' = set
  · subst same
    rw [update_self, sets.self]
    apply accounts
  · rw [update_of_ne same, sets.other same]
    apply accounted set'

section

variable (faults : NvFaults)
include faults

theorem accounted_install (set : BankSet) (imageSha256 : Buffer 32) (fwCrc : UInt32)
    (info : ImageMeta) (singleBank : Bool) :
  Accounted (x.after faults (.install set imageSha256 fwCrc info singleBank))
  := by
  rw [Watched.after]
  rcases call : installChecked faults set imageSha256 fwCrc info singleBank x.nv with ⟨res, _⟩
  rcases installChecked_boot call with ⟨r, bs, rfl, entry, committed, sets⟩ | ⟨failed, keeps⟩
  · dsimp only
    have accounts := accounted set
    rw [entry] at accounts
    obtain ⟨none, -⟩ := accounts.of_committed committed
    cases singleBank with
    | true =>
      -- The slot had no trial and gets none.
      have next : Accounts (x.trials set) (some (installedBoot true bs)) := by
        rw [none]
        apply accounts_of_committed rfl rfl
      have accounted := accounted_of_sets accounted sets next
      rw [update_eq_self] at accounted
      apply accounted
    | false =>
      apply accounted_of_sets accounted sets
      rw [entry]
      refine ⟨?_, Nat.zero_le _⟩
      rw [Option.elim_some, BankBootState.committedBank, if_pos committed]
      rfl
  · cases res with
    | ok r => apply absurd rfl (failed r)
    | err | stopped => apply accounted_of_keeps accounted keeps

theorem accounted_commit (set : BankSet) :
  Accounted (x.after faults (.commit set))
  := by
  rw [Watched.after]
  rcases call : commit faults set x.nv with ⟨res, _⟩
  rcases commit_boot call with ⟨_, rfl, -, -, sets⟩ | ⟨failed, keeps⟩
  · apply accounted_of_sets accounted sets
    apply accounts_of_committed rfl rfl
  · cases res with
    | ok => apply absurd rfl failed
    | err | stopped => apply accounted_of_keeps accounted keeps

theorem accounted_rollback (set : BankSet) :
  Accounted (x.after faults (.rollback set))
  := by
  rw [Watched.after]
  rcases call : rollback faults set x.nv with ⟨res, _⟩
  rcases rollback_boot call with ⟨_, rfl, -, -, sets⟩ | ⟨failed, keeps⟩
  · apply accounted_of_sets accounted sets
    apply accounts_of_committed rfl rfl
  · cases res with
    | ok r => apply absurd rfl (failed r)
    | err | stopped => apply accounted_of_keeps accounted keeps

/-- A hash failure of a slot that is committed finds no trial and leaves none. -/
theorem accounted_handleHashFailure (set : BankSet) :
  Accounted (x.after faults (.handleHashFailure set))
  := by
  rw [Watched.after]
  rcases call : handleHashFailure faults set x.nv with ⟨res, _⟩
  rcases handleHashFailure_boot call with ⟨bs, rfl, -, -, sets⟩ | ⟨settled, keeps⟩
  · apply accounted_of_sets accounted sets
    apply accounts_of_committed rfl rfl
  · have kept := accounted_of_keeps accounted keeps
    cases res with
    | ok action =>
      intro set'
      by_cases same : set' = set
      · subst same
        have accounts := accounted set'
        dsimp only [Watched.resolved]
        rw [update_self, keeps set']
        intro bs entry
        have committed := settled ⟨action, rfl⟩ bs entry
        rw [entry] at accounts
        exact ⟨committed, (accounts.of_committed committed).2⟩
      · dsimp only [Watched.resolved]
        rw [update_of_ne same]
        apply kept set'
    | err | stopped => apply kept

theorem accounted_processBootNv :
  Accounted (x.after faults .processBootNv)
  := by
  rw [Watched.after]
  rcases call : processBootNv faults x.nv with ⟨res, nv'⟩
  rcases processBootNv_boot call with ⟨actions, rfl, boots⟩ | ⟨failed, rfl⟩
  · intro set
    dsimp only [Watched.booted]
    have accounts := accounted set
    by_cases hlt : set.asIndex < MAX_SLOTS
    · rw [boots.entries set hlt]
      cases trial : x.trials set with
      | none =>
        rw [trial] at accounts
        rintro _ ⟨⟩
        cases entry : (x.nv.slot set).boot with
        | none => exact ⟨rfl, by decide⟩
        | some bs =>
          obtain ⟨committed, few⟩ := accounts bs entry
          rw [bootedBoot, bootTurn_of_committed committed]
          exact ⟨committed, few⟩
      | some t =>
        rw [trial] at accounts
        obtain ⟨entry, few⟩ := accounts
        rw [entry, bootedBoot, Option.bind_some, Trial.next]
        split
        next more =>
          rw [bootTurn_trialEntry _ more]
          exact ⟨rfl, more⟩
        next last =>
          have last : t.boots = MAX_TRIAL_BOOTS.toNat := Nat.le_antisymm few (Nat.le_of_not_lt last)
          rw [last, bootTurn_trialEntry_max]
          apply accounts_of_committed rfl rfl
    · have past := Nat.le_of_not_lt hlt
      rw [slot_boot_of_le x.nv past] at accounts
      rw [slot_boot_of_le nv' past]
      cases trial : x.trials set with
      | none => rintro _ ⟨⟩
      | some =>
        rw [trial] at accounts
        cases accounts.1
  · cases res with
    | ok actions => apply absurd rfl (failed actions)
    | err | stopped => apply accounted

theorem accounted_after (c : NvCall) :
  Accounted (x.after faults c)
  := by
  cases c with
  | install => apply accounted_install accounted
  | commit => apply accounted_commit accounted
  | rollback => apply accounted_rollback accounted
  | handleHashFailure => apply accounted_handleHashFailure accounted
  | processBootNv => apply accounted_processBootNv accounted

end

theorem accounted_of_run {y : Watched} (run : WatchedRun x y) :
  Accounted y
  := by
  apply run.invariant
  · rintro _ rfl
    apply accounted
  · rintro y _ accounted ⟨faults, c, rfl⟩
    apply accounted_after accounted

end Accounted

/-! ### Every run -/

section Runs

variable {faults : NvFaults} {n : Nat}

/-- Whether a call is about the slot. -/
def NvCall.concerns (set : BankSet) : NvCall → Bool
  | .install target _ _ _ _ | .commit target | .rollback target | .handleHashFailure target =>
    set = target
  | .processBootNv => true

variable {actions : List BootAction}

/-- A call that is about another slot. -/
theorem NvCall.onSlot_of_not_concerns {c : NvCall} (other : c.concerns set = false) (inRange : Bool)
    (s : Slot) :
  c.onSlot faults set inRange s = s
  := by
  cases c with
  | processBootNv => cases other
  | _ => exact if_neg (of_decide_eq_false other)

/-- The store after several calls, each with its failing writes. -/
def runCalls (calls : List (NvFaults × NvCall)) (nv : NvStore) : NvStore :=
  calls.foldl (fun nv call => call.2.run call.1 nv) nv

def Slot.runCalls (set : BankSet) (inRange : Bool) (calls : List (NvFaults × NvCall))
    (s : Slot) : Slot :=
  calls.foldl (fun s call => call.2.onSlot call.1 set inRange s) s

/-- What becomes of a slot depends on the slot and the calls about it only. -/
theorem slot_runCalls (calls : List (NvFaults × NvCall)) (nv : NvStore) (set : BankSet) :
  (runCalls calls nv).slot set =
    (nv.slot set).runCalls set (nv.slotInRange set) (calls.filter fun call => call.2.concerns set)
  := by
  induction calls generalizing nv with
  | nil => rfl
  | cons call _ ih =>
    have inRange : (call.2.run call.1 nv).slotInRange set = nv.slotInRange set := by
      rw [NvStore.slotInRange, NvStore.slotCount, NvCall.run_deviceSize]
      rfl
    have ih := ih (call.2.run call.1 nv)
    rw [inRange, NvCall.run_slot] at ih
    refine ih.trans ?_
    cases concerns : call.2.concerns set with
    | true =>
      rw [List.filter_cons, concerns, if_pos rfl]
      rfl
    | false =>
      rw [List.filter_cons, concerns, if_neg Bool.false_ne_true,
        NvCall.onSlot_of_not_concerns concerns]

variable {x₀ : Watched}

section

variable (accounted : Accounted x)
include accounted

/-- The report for a slot that an install has armed. -/
theorem report_of_trial {t : Trial} (trial : x.trials set = some t)
    (boots : Boots x.nv nv' actions) :
  (t.boots < MAX_TRIAL_BOOTS.toNat →
      actions[set.asIndex]? = some (.trialBoot t.previous.other (UInt8.ofNat (t.boots + 1)))) ∧
    (t.boots = MAX_TRIAL_BOOTS.toNat →
      actions[set.asIndex]? = some (.autoRollback t.previous.other t.previous) ∧
        (nv'.slot set).boot = some { activeBank := t.previous, committed := true, bootCount := 0 })
  := by
  have accounts := accounted set
  rw [trial] at accounts
  obtain ⟨entry, -⟩ := accounts
  rw [boots.reports set (slotInRange_of_trialEntry entry),
    boots.entries set (asIndex_lt_of_entry entry), entry, bootReport, bootedBoot]
  constructor
  · intro more
    rw [bootTurn_trialEntry _ more]
  · intro last
    rw [last, bootTurn_trialEntry_max, Bank.other_other]
    exact ⟨rfl, rfl⟩

/-- The report for a slot that no install has armed. -/
theorem report_of_no_trial (none : x.trials set = none)
    (inRange : x.nv.slotInRange set = true) (boots : Boots x.nv nv' actions) :
  actions[set.asIndex]? = some .firstBoot ∨ ∃ bank, actions[set.asIndex]? = some (.boot bank)
  := by
  have accounts := accounted set
  rw [none] at accounts
  rw [boots.reports set inRange]
  cases entry : (x.nv.slot set).boot with
  | none =>
    left
    rfl
  | some bs =>
    right
    use bs.activeBank
    rw [bootReport, bootTurn_of_committed (accounts bs entry).1]

theorem bootCount_le {bs : BankBootState} (entry : (x.nv.slot set).boot = some bs) :
  bs.bootCount ≤ MAX_TRIAL_BOOTS
  := by
  have accounts := accounted set
  cases trial : x.trials set with
  | none =>
    rw [trial] at accounts
    apply (accounts bs entry).2
  | some =>
    rw [trial] at accounts
    obtain ⟨entry', few⟩ := accounts
    cases entry'.symm.trans entry
    have max : MAX_TRIAL_BOOTS.toNat = 10 := rfl
    rw [UInt8.le_iff_toNat_le, trialEntry, UInt8.toNat_ofNat', max]
    rw [max] at few
    omega

end

/-- A store in which every slot that is not committed has been armed by an install, and any calls,
with any of their writes failing: a boot that returns reports an armed slot with its trial boots,
counted from one, and returns it to the bank committed before when they have run out; it reports no
trial for other slots; no count exceeds the limit; and what becomes of a slot depends on the slot
and the calls about it only. -/
theorem trials_bounded (start : Accounted x₀) (run : WatchedRun x₀ x) :
  (∀ faults actions nv', processBootNv faults x.nv = (.ok actions, nv') → ∀ set,
    (∀ t, x.trials set = some t → (t.boots < MAX_TRIAL_BOOTS.toNat →
        actions[set.asIndex]? = some (.trialBoot t.previous.other (UInt8.ofNat (t.boots + 1)))) ∧
      (t.boots = MAX_TRIAL_BOOTS.toNat →
        actions[set.asIndex]? = some (.autoRollback t.previous.other t.previous) ∧
          (nv'.slot set).boot =
            some { activeBank := t.previous, committed := true, bootCount := 0 })) ∧
    (x.nv.slotInRange set = true → x.trials set = none →
      actions[set.asIndex]? = some .firstBoot ∨ ∃ bank, actions[set.asIndex]? = some (.boot bank)) ∧
    (x.nv.slotInRange set = true → actions[set.asIndex]? = some
      (bootReport (x.nv.slot set).boot))) ∧
  (∃ actions nv', processBootNv noNvFault x.nv = (.ok actions, nv')) ∧
  (∀ set t, x.trials set = some t → t.boots ≤ MAX_TRIAL_BOOTS.toNat) ∧
  (∀ set bs, (x.nv.slot set).boot = some bs → bs.bootCount ≤ MAX_TRIAL_BOOTS) ∧
  ∀ calls set, (runCalls calls x.nv).slot set = (x.nv.slot set).runCalls set (x.nv.slotInRange set)
      (calls.filter fun call => call.2.concerns set)
  := by
  have accounted := accounted_of_run start run
  refine ⟨?_, processBootNv_returns x.nv, ?_, ?_, ?_⟩
  · intro faults actions nv' call set
    have boots := boots_of_call call
    refine ⟨?_, ?_, ?_⟩
    · intro t trial
      apply report_of_trial accounted trial boots
    · intro inRange none
      apply report_of_no_trial accounted none inRange boots
    · intro inRange
      apply boots.reports set inRange
  · intro set t trial
    have accounts := accounted set
    rw [trial] at accounts
    apply accounts.2
  · intro set bs entry
    apply bootCount_le accounted entry
  · intro calls set
    apply slot_runCalls

def freshSlot : Watched where
  nv := { deviceSize := BANKSET_BASE + BANKSET_STRIDE }
  trials _ := none

theorem trials_bounded_fresh :
  ∃ x, WatchedRun freshSlot x ∧ x.trials ⟨0⟩ = some { previous := .A, boots := 0 } ∧
    ∃ actions nv', processBootNv noNvFault x.nv = (.ok actions, nv') ∧
      actions[0]? = some (.trialBoot .B 1)
  := by
  have start : Accounted freshSlot := fun _ => nofun
  have run : WatchedRun freshSlot freshSlot := .init rfl
  have run := run.step ⟨noNvFault, .processBootNv, rfl⟩
  have run := run.step ⟨noNvFault, .install ⟨0⟩ (zeros 32) 0 {} false, rfl⟩
  have trial : ((freshSlot.after noNvFault .processBootNv).after noNvFault
      (.install ⟨0⟩ (zeros 32) 0 {} false)).trials ⟨0⟩ = some { previous := .A, boots := 0 } := by
        decide +kernel
  obtain ⟨reports, ⟨actions, nv', call⟩, -⟩ := trials_bounded start run
  obtain ⟨trialBoot, -⟩ := (reports noNvFault actions nv' call ⟨0⟩).1 _ trial
  exact ⟨_, run, trial, actions, nv', call, trialBoot (by decide)⟩

/-- A slot that no install has armed is on trial, because the boot state is that of an older
writer. -/
theorem trial_without_install :
  ∃ (dev : BlockDevice) (r : OlderBootState 5), HoldsOlder Crc32.crc32 dev r ∧
    ∃ actions nv', processBootNv noNvFault ((DeviceStore.new dev).view Crc32.crc32) =
      (.ok actions, nv') ∧ actions[5]? = some (.trialBoot .A 1)
  := by
  obtain ⟨dev, r, holds, -, entry⟩ := exists_holdsOlder_fiveSlots Crc32.crc32
  have taken := takenForTrial_of_entry entry
  obtain ⟨actions, nv', call⟩ := processBootNv_returns ((DeviceStore.new dev).view Crc32.crc32)
  exact ⟨dev, r, holds, actions, nv', call, taken.counts 0 _ .start (by decide) _ _ _ call⟩

end Runs

end Nv
