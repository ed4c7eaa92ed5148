import MachineManager.Nv.Ota

/-!
# What the calls do to the slots

A call of the update flow or of the boot stage finds the boot entry of its slot, checks it and makes
its writes in a fixed order, the boot state last. Its outcomes are listed once, with what decides
between them: how the call ends, and what the slot is afterwards. No other slot is touched. A boot
gives every slot its turn, or changes nothing.
-/

open Option

namespace Nv

open Buffer Call NvStore NvBootState Vector

def installedBoot (single : Bool) (bs : BankBootState) : BankBootState :=
  if single then { activeBank := .A, committed := true, bootCount := 0 }
  else { activeBank := bs.activeBank.other, committed := false, bootCount := 0 }

def committedBoot (bs : BankBootState) : BankBootState :=
  { bs with committed := true, bootCount := 0 }

def returnedBoot (bs : BankBootState) : BankBootState :=
  { activeBank := bs.activeBank.other, committed := true, bootCount := 0 }

namespace Slot

variable (faults : NvFaults)

/-- The metadata of the new image, on the bank that it goes to. -/
def stage (imageSha256 : Buffer 32) (fwCrc : UInt32) (info : ImageMeta) (singleBank : Bool)
    (active : Bank) (s : Slot) : Slot :=
  if singleBank then
    s.setMeta .A (installedMeta imageSha256 fwCrc info info.fwSecver (genOf (s.fwMeta .A) + 1))
  else
    s.setMeta active.other (installedMeta imageSha256 fwCrc info (floorOf (s.fwMeta active))
      (genOf (s.fwMeta active) + 1))

def install (inRange : Bool) (imageSha256 : Buffer 32) (fwCrc : UInt32) (info : ImageMeta)
    (singleBank : Bool) (s : Slot) : Slot :=
  match s.boot with
  | none => s
  | some bs =>
    if !bs.committed then s
    else if info.fwSecver < floorOf (s.fwMeta bs.activeBank) then s
    else if !inRange || !singleBank && faults .runtime || faults .fwMeta then s
    else if faults .bootState then s.stage imageSha256 fwCrc info singleBank bs.activeBank
    else (s.stage imageSha256 fwCrc info singleBank bs.activeBank).setBoot
      (installedBoot singleBank bs)

/-- The bank on trial gets its floor raised; nothing when that fails. -/
def raiseFloor (active : Bank) (s : Slot) : Option Slot :=
  match s.fwMeta active with
  | none => some s
  | some m =>
    if m.fwSecver > m.minSecurityVer then
      if faults .fwMeta then none
        else some (s.setMeta active { m with minSecurityVer := m.fwSecver })
    else some s

def commit (s : Slot) : Slot :=
  match s.boot with
  | none => s
  | some bs =>
    if bs.committed then s
    else
      match s.raiseFloor faults bs.activeBank with
      | none => s
      | some raised => if faults .bootState then raised else raised.setBoot (committedBoot bs)

def giveUp (s : Slot) : Slot :=
  match s.boot with
  | none => s
  | some bs => if bs.committed || faults .bootState then s else s.setBoot (returnedBoot bs)

/-- What a boot does to a slot, which has an entry in the boot state or not. -/
def booted (hasEntry : Bool) (s : Slot) : Slot :=
  match s.boot with
  | none => if hasEntry && !faults .bootState then s.setBoot {} else s
  | some bs => if bs.committed || faults .bootState then s else s.setBoot (bootTurn bs).2

end Slot

/-- A floor that is raised was below the version of the image. -/
theorem Slot.raiseFloor_cases {faults : NvFaults} {s t : Slot} {active : Bank}
    (raise : s.raiseFloor faults active = some t) :
  t = s ∧ secverOf (s.fwMeta active) ≤ floorOf (s.fwMeta active) ∨
    ∃ m, s.fwMeta active = some m ∧ m.minSecurityVer < m.fwSecver ∧
      t = s.setMeta active { m with minSecurityVer := m.fwSecver }
  := by
  rw [raiseFloor] at raise
  cases found : s.fwMeta active with
  | none =>
    rw [found] at raise
    cases raise
    exact .inl ⟨rfl, UInt32.le_refl _⟩
  | some m =>
    simp only [found] at raise
    split at raise
    next higher =>
      split at raise
      next => cases raise
      next =>
        cases raise
        exact .inr ⟨m, rfl, higher, rfl⟩
    next low =>
      cases raise
      exact .inl ⟨rfl, UInt32.not_lt.mp low⟩

section Outcomes

variable (faults : NvFaults) (s : Slot)

/-- How an install ends, and its slot afterwards. -/
inductive InstallOutcome (inRange : Bool) (imageSha256 : Buffer 32) (fwCrc : UInt32)
    (info : ImageMeta)
    (singleBank : Bool) : Ending OtaError InstallResult → Slot → Prop
  | absent {res : Ending OtaError InstallResult} (boot : s.boot = none)
      (ends : res = .err .noBootState ∨ res = .stopped) : InstallOutcome _ _ _ _ _ res s
  | onTrial {bs : BankBootState} (boot : s.boot = some bs) (trial : bs.committed = false) :
      InstallOutcome _ _ _ _ _ (.err .inTrial) s
  | tooOld {bs : BankBootState} (boot : s.boot = some bs) (committed : bs.committed = true)
      (old : info.fwSecver < floorOf (s.fwMeta bs.activeBank)) :
      InstallOutcome _ _ _ _ _
        (.err (.securityVersionTooLow info.fwSecver (floorOf (s.fwMeta bs.activeBank)))) s
  | unwritten {bs : BankBootState} {e : BlockError} (boot : s.boot = some bs)
      (committed : bs.committed = true) (fresh : ¬info.fwSecver < floorOf (s.fwMeta bs.activeBank))
      (fails : (!inRange || !singleBank && faults .runtime || faults .fwMeta) = true) :
      InstallOutcome _ _ _ _ _ (.err (.nvError e)) s
  | staged {bs : BankBootState} {e : BlockError} (boot : s.boot = some bs)
      (committed : bs.committed = true) (fresh : ¬info.fwSecver < floorOf (s.fwMeta bs.activeBank))
      (lands : (!inRange || !singleBank && faults .runtime || faults .fwMeta) = false)
      (fails : faults .bootState = true) :
      InstallOutcome _ _ _ _ _ (.err (.nvError e))
        (s.stage imageSha256 fwCrc info singleBank bs.activeBank)
  | armed {bs : BankBootState} {r : InstallResult} (boot : s.boot = some bs)
      (committed : bs.committed = true) (fresh : ¬info.fwSecver < floorOf (s.fwMeta bs.activeBank))
      (lands : (!inRange || !singleBank && faults .runtime || faults .fwMeta) = false)
      (booted : faults .bootState = false) :
      InstallOutcome _ _ _ _ _ (.ok r)
        ((s.stage imageSha256 fwCrc info singleBank bs.activeBank).setBoot
          (installedBoot singleBank bs))

/-- How a commit ends, and its slot afterwards. -/
inductive CommitOutcome : Ending OtaError Unit → Slot → Prop
  | absent {res : Ending OtaError Unit} (boot : s.boot = none)
      (ends : res = .err .noBootState ∨ res = .stopped) : CommitOutcome res s
  | settled {bs : BankBootState} (boot : s.boot = some bs) (committed : bs.committed = true) :
      CommitOutcome (.err .alreadyCommitted) s
  | unraised {bs : BankBootState} {e : BlockError} (boot : s.boot = some bs)
      (trial : bs.committed = false)
      (raise : s.raiseFloor faults bs.activeBank = none) : CommitOutcome (.err (.nvError e)) s
  | raised {bs : BankBootState} {e : BlockError} {t : Slot} (boot : s.boot = some bs)
      (trial : bs.committed = false)
      (raise : s.raiseFloor faults bs.activeBank = some t) (fails : faults .bootState = true) :
      CommitOutcome (.err (.nvError e)) t
  | committed {bs : BankBootState} {t : Slot} (boot : s.boot = some bs)
      (trial : bs.committed = false)
      (raise : s.raiseFloor faults bs.activeBank = some t) (lands : faults .bootState = false) :
      CommitOutcome (.ok ()) (t.setBoot (committedBoot bs))

/-- How a call ends that gives a trial up, and its slot afterwards. -/
inductive ReturnOutcome {ε α : Type} (fail : BlockError → ε) (absent : Ending ε α → Prop)
    (settled : BankBootState → Ending ε α) (done : BankBootState → α) : Ending ε α → Slot → Prop
  | absent {res : Ending ε α} (boot : s.boot = none) (ends : absent res) :
      ReturnOutcome _ _ _ _ res s
  | settled {bs : BankBootState} (boot : s.boot = some bs) (committed : bs.committed = true) :
      ReturnOutcome _ _ _ _ (settled bs) s
  | failed {bs : BankBootState} {e : BlockError} (boot : s.boot = some bs)
      (trial : bs.committed = false)
      (fails : faults .bootState = true) : ReturnOutcome _ _ _ _ (.err (fail e)) s
  | returned {bs : BankBootState} (boot : s.boot = some bs) (trial : bs.committed = false)
      (lands : faults .bootState = false) :
      ReturnOutcome _ _ _ _ (.ok (done bs)) (s.setBoot (returnedBoot bs))

end Outcomes

/-! ### The slots of a store -/

variable {set : BankSet} {nv : NvStore} {state : NvBootState} {bs : BankBootState}

namespace NvStore

/-- A slot of the store, as the store reads it. -/
def slot (nv : NvStore) (set : BankSet) : Slot where
  boot := nv.readBootState.bind fun s => s.bank? set
  fwMeta := nv.readFwMeta set

theorem slotCount_le (nv : NvStore) :
  nv.slotCount ≤ MAX_SLOTS
  := Nat.min_le_left _ _

theorem slot_boot (h : nv.readBootState = some state) (set : BankSet) :
  (nv.slot set).boot = state.bank? set
  := by rw [slot, h, bind_some]

theorem slot_fwMeta (nv : NvStore) (set : BankSet) (bank : Bank) :
  (nv.slot set).fwMeta bank = nv.readFwMeta set bank
  := rfl

section

variable (h : nv.readBootState = some state)
include h

/-- Past the slots of the store every entry reads as the default. -/
theorem bank?_of_out_of_range (out : nv.slotInRange set = false) (hbs : state.bank? set = some bs) :
  bs = {}
  := by
  have out : ¬set.asIndex < nv.slotCount := of_decide_eq_false out
  rw [readBootState, Option.map_eq_some_iff] at h
  obtain ⟨_, -, rfl⟩ := h
  obtain ⟨_, hbs⟩ := Vector.getElem?_eq_some_iff.mp hbs
  simpa [out] using hbs.symm

/-- A slot that is on trial is one the store can address. -/
theorem slotInRange_of_trial (hbs : state.bank? set = some bs) (hc : bs.committed = false) :
  nv.slotInRange set = true
  := by
  cases hr : nv.slotInRange set with
  | true => rfl
  | false =>
    rw [bank?_of_out_of_range h hr hbs] at hc
    cases hc

end

/-- What is read back after the boot state was written. -/
theorem bank?_readBootState_write (nv : NvStore) (state : NvBootState) (set : BankSet) :
  (nv.putBootState state).readBootState.bind (fun s => s.bank? set) =
    if nv.slotInRange set then state.bank? set
    else if set.asIndex < MAX_SLOTS then some {} else none
  := by
  have hle := slotCount_le nv
  have stored : (nv.putBootState state).bootState = some state := rfl
  simp only [readBootState, stored, slotCount_putBootState, map_some, bind_some,
    bank?, slotInRange, decide_eq_true_eq, getElem?_ofFn]
  by_cases hlt : set.asIndex < nv.slotCount
  · have : set.asIndex < MAX_SLOTS := by omega
    simp [hlt, this]
    rfl
  · simp [hlt]

theorem boot_write_of_read (h : nv.readBootState = some state) (hbs : state.bank? set = some bs)
    (inRange : nv.slotInRange set = true) (new : BankBootState) (set' : BankSet) :
  ((nv.putBootState (state.setBank set new)).slot set').boot =
    if set' = set then some new else (nv.slot set').boot
  := by
  have read := bank?_readBootState_write nv (state.setBank set new) set'
  simp only [slot, read, bank?_setBank hbs, h, bind_some]
  by_cases hs : set' = set
  · subst hs
    simp [inRange]
  · simp only [hs, if_false]
    cases hr : nv.slotInRange set' with
    | true => rfl
    | false =>
      cases hb : state.bank? set' with
      | some =>
        have hlt : set'.asIndex < MAX_SLOTS := (Vector.getElem?_eq_some_iff.mp hb).1
        simp [hlt, bank?_of_out_of_range h hr hb]
      | none =>
        have hge : ¬set'.asIndex < MAX_SLOTS := by
          simpa [bank?] using hb
        simp [hge]

/-- Writing back the boot state with one entry changed changes that slot only. -/
theorem slot_setBank (h : nv.readBootState = some state) (hbs : state.bank? set = some bs)
    (inRange : nv.slotInRange set = true) (new : BankBootState) (set' : BankSet) :
  (nv.putBootState (state.setBank set new)).slot set' =
    if set' = set then (nv.slot set).setBoot new else nv.slot set'
  := by
  have boot := boot_write_of_read h hbs inRange new set'
  by_cases hs : set' = set
  · subst hs
    simp only [if_true] at boot ⊢
    rw [Slot.setBoot, ← boot]
    rfl
  · simp only [hs, if_false] at boot ⊢
    have : nv.slot set' = { nv.slot set' with boot := (nv.slot set').boot } := rfl
    rw [this, ← boot]
    rfl

/-- Writing the metadata of a bank changes that slot only. -/
theorem slot_setFwMeta (inRange : nv.slotInRange set = true) (bank : Bank) (m : NvFwMeta)
    (set' : BankSet) :
  (nv.putFwMeta set bank m).slot set' = if set' = set then (nv.slot set).setMeta bank m
    else nv.slot set'
  := by
  by_cases hs : set' = set
  · subst hs
    simp only [if_true, slot, Slot.setMeta, Slot.mk.injEq]
    constructor
    · rfl
    · funext b
      simp only [readFwMeta, slotInRange_putFwMeta, inRange, if_true, fwMetas_putFwMeta, true_and]
  · simp only [hs, if_false, slot, Slot.mk.injEq]
    constructor
    · rfl
    · funext b
      simp only [readFwMeta, slotInRange_putFwMeta, fwMetas_putFwMeta, hs, false_and, if_false]

/-- Writing metadata and then the boot state with the entry of one slot changed. -/
theorem slot_setFwMeta_setBank (h : nv.readBootState = some state) (hbs : state.bank? set = some bs)
    (inRange : nv.slotInRange set = true) (bank : Bank) (m : NvFwMeta) (new : BankBootState)
    (set' : BankSet) :
  ((nv.putFwMeta set bank m).putBootState (state.setBank set new)).slot set' =
    if set' = set then ((nv.slot set).setMeta bank m).setBoot new else nv.slot set'
  := by
  have h' : (nv.putFwMeta set bank m).readBootState = some state := h
  have inRange' : (nv.putFwMeta set bank m).slotInRange set = true := inRange
  rw [slot_setBank h' hbs inRange', slot_setFwMeta inRange, slot_setFwMeta inRange, if_pos rfl]
  split <;> rfl

end NvStore

/-- One slot of the store has changed. -/
structure Becomes (set : BankSet) (s : Slot) (nv nv' : NvStore) : Prop where
  slots : ∀ set', nv'.slot set' = if set' = set then s else nv.slot set'
  size : nv'.deviceSize = nv.deviceSize

section Calls

variable {faults : NvFaults} {nv' : NvStore}
  {s : Slot}

theorem Becomes.self (becomes : Becomes set s nv nv') :
  nv'.slot set = s
  := (becomes.slots set).trans (if_pos rfl)

theorem Becomes.other {set' : BankSet} (becomes : Becomes set s nv nv') (other : set' ≠ set) :
  nv'.slot set' = nv.slot set'
  := (becomes.slots set').trans (if_neg other)

theorem becomes_refl (set : BankSet) (nv : NvStore) :
  Becomes set (nv.slot set) nv nv
  := by
  refine ⟨?_, rfl⟩
  intro set'
  split
  next same => rw [same]
  next => rfl

/-- The call starts by finding the entry of its slot. -/
theorem yields_entry {ε α : Type} {e : ε}
    {k : NvStore → NvBootState → BankBootState → Call NvStore ε α} {R : Ending ε α → NvStore → Prop}
    (absent : (nv.slot set).boot = none → ∀ res, res = .err e ∨
      res = .stopped → R res nv)
    (found : ∀ state bs, nv.readBootState = some state → state.bank? set = some bs →
      (nv.slot set).boot = some bs → Yields (k nv state bs) nv R) :
  Yields (do
    let nv ← get
    let state ← ofOption nv.readBootState e
    let bs ← orStop (state.bank? set)
    k nv state bs) nv R
  := by
  apply yields_get_bind
  apply yields_ofOption_bind
  · intro state read
    have boot := slot_boot read set
    apply yields_orStop_bind
    · intro bs entry
      exact found state bs read entry (boot.trans entry)
    · intro none
      exact absent (boot.trans none) _ (.inr rfl)
  · intro none
    exact absent (by rw [slot, none, bind_none]) _ (.inl rfl)

theorem yields_installInner {imageSha256 : Buffer 32} {fwCrc : UInt32} {info : ImageMeta}
    {singleBank : Bool}
    {R : Ending OtaError InstallResult → NvStore → Prop} (read : nv.readBootState = some state)
    (entry : state.bank? set = some bs)
    (unwritten : (!nv.slotInRange set || !singleBank && faults .runtime || faults .fwMeta) = true →
      ∀ e t, Becomes set (nv.slot set) nv t → R (.err (.nvError e)) t)
    (staged : (!nv.slotInRange set || !singleBank && faults .runtime || faults .fwMeta) = false →
      faults .bootState = true → ∀ e t,
      Becomes set ((nv.slot set).stage imageSha256 fwCrc info singleBank bs.activeBank) nv t →
        R (.err (.nvError e)) t)
    (armed : (!nv.slotInRange set || !singleBank && faults .runtime || faults .fwMeta) = false →
      faults .bootState = false → ∀ r t,
      Becomes set (((nv.slot set).stage imageSha256 fwCrc info singleBank bs.activeBank).setBoot
        (installedBoot singleBank bs)) nv t → R (.ok r) t) :
  Yields (installInner faults set state bs.activeBank imageSha256 fwCrc info singleBank) nv R
  := by
  apply yields_get_bind
  cases singleBank with
  | true =>
    rw [if_pos rfl]
    refine yields_seq (yields_writeFwMeta (fun fails e => ?_) fun inRange lands => ?_)
    · exact unwritten (by simpa using fails) e nv (becomes_refl set nv)
    have lands : (!nv.slotInRange set || !true && faults .runtime || faults .fwMeta) = false := by
      simp [inRange, lands]
    refine yields_seq (yields_writeBootState (fun fails => ?_) fun booted => ?_)
    · exact staged lands fails _ _ ⟨slot_setFwMeta inRange .A _, rfl⟩
    · exact armed lands booted _ _ ⟨slot_setFwMeta_setBank read entry inRange .A _ _, rfl⟩
  | false =>
    rw [if_neg Bool.false_ne_true]
    refine yields_seq (yields_copyRuntime (fun fails e => ?_) fun inRange copied r => ?_)
    · exact unwritten (by rcases Bool.or_eq_true_iff.mp fails with out | fault <;> simp [*]) e nv
        (becomes_refl set nv)
    have inRange' : (nv.putRuntime set bs.activeBank.other r).slotInRange set = true := inRange
    refine yields_seq (yields_writeFwMeta (fun fails e => ?_) fun _ lands => ?_)
    · rw [inRange'] at fails
      exact unwritten (by simpa using .inr fails) e _ ⟨(becomes_refl set nv).slots, rfl⟩
    have lands : (!nv.slotInRange set || !false && faults .runtime || faults .fwMeta) = false := by
      simp [inRange, copied, lands]
    refine yields_seq (yields_writeBootState (fun fails => ?_) fun booted => ?_)
    · exact staged lands fails _ _ ⟨slot_setFwMeta inRange' bs.activeBank.other _, rfl⟩
    · have read' : (nv.putRuntime set bs.activeBank.other r).readBootState = some state := read
      exact armed lands booted _ _
        ⟨slot_setFwMeta_setBank read' entry inRange' bs.activeBank.other _ _, rfl⟩

theorem installChecked_outcome (faults : NvFaults) (set : BankSet) (imageSha256 : Buffer 32)
    (fwCrc : UInt32) (info : ImageMeta) (singleBank : Bool) (nv : NvStore) :
  Yields (installChecked faults set imageSha256 fwCrc info singleBank) nv fun res nv' =>
    ∃ s, InstallOutcome faults (nv.slot set) (nv.slotInRange set) imageSha256 fwCrc info
      singleBank res s ∧ Becomes set s nv nv'
  := by
  refine yields_entry (fun boot res ends => ⟨_, .absent boot ends, becomes_refl set nv⟩) ?_
  intro state bs read entry boot
  cases committed : bs.committed with
  | false => exact ⟨_, .onTrial boot committed, becomes_refl set nv⟩
  | true =>
    rw [if_neg (by simp)]
    split
    next old => exact ⟨_, .tooOld boot committed old, becomes_refl set nv⟩
    next fresh =>
      apply yields_installInner read entry
      · intro fails e t becomes
        exact ⟨_, .unwritten boot committed fresh fails, becomes⟩
      · intro lands fails e t becomes
        exact ⟨_, .staged boot committed fresh lands fails, becomes⟩
      · intro lands booted r t becomes
        exact ⟨_, .armed boot committed fresh lands booted, becomes⟩

/-- Raising the floor of the bank on trial. -/
theorem yields_raiseFloor {active : Bank} {R : Ending OtaError Unit → NvStore → Prop}
    (unraised : (nv.slot set).raiseFloor faults active = none → ∀ e, R (.err (.nvError e)) nv)
    (raised : ∀ s t, (nv.slot set).raiseFloor faults active = some s → Becomes set s nv t →
      t.readBootState = nv.readBootState → R (.ok ()) t) :
  Yields (raiseFloor faults set active) nv R
  := by
  apply yields_get_bind
  cases found : nv.readFwMeta set active with
  | none =>
    have raise : (nv.slot set).raiseFloor faults active = some (nv.slot set) := by
      rw [Slot.raiseFloor, slot_fwMeta, found]
    exact raised _ nv raise (becomes_refl set nv) rfl
  | some m =>
    have inRange : nv.slotInRange set = true := by
      by_contra out
      rw [readFwMeta, if_neg out] at found
      cases found
    dsimp only
    split
    next higher =>
      have raise : (nv.slot set).raiseFloor faults active =
          if faults .fwMeta then none
          else some ((nv.slot set).setMeta active { m with minSecurityVer := m.fwSecver }) := by
        rw [Slot.raiseFloor, slot_fwMeta, found]
        exact if_pos higher
      refine yields_writeFwMeta (fun fails e => ?_) fun _ lands => ?_
      · rw [inRange] at fails
        exact unraised (raise.trans (if_pos fails)) e
      · rw [lands, if_neg Bool.false_ne_true] at raise
        exact raised _ _ raise ⟨slot_setFwMeta inRange active _, rfl⟩ rfl
    next low =>
      have raise : (nv.slot set).raiseFloor faults active = some (nv.slot set) := by
        rw [Slot.raiseFloor, slot_fwMeta, found]
        exact if_neg low
      exact raised _ nv raise (becomes_refl set nv) rfl

theorem commit_outcome (faults : NvFaults) (set : BankSet) (nv : NvStore) :
  Yields (commit faults set) nv fun res nv' =>
    ∃ s, CommitOutcome faults (nv.slot set) res s ∧ Becomes set s nv nv'
  := by
  refine yields_entry (fun boot res ends => ⟨_, .absent boot ends, becomes_refl set nv⟩) ?_
  intro state bs read entry boot
  cases committed : bs.committed with
  | true => exact ⟨_, .settled boot committed, becomes_refl set nv⟩
  | false =>
    have inRange := slotInRange_of_trial read entry committed
    refine yields_seq (yields_raiseFloor ?_ ?_)
    · intro raise e
      exact ⟨_, .unraised boot committed raise, becomes_refl set nv⟩
    · intro s t raise becomes kept
      have inRange' : t.slotInRange set = true := by
        rw [slotInRange, slotCount, becomes.size]
        exact inRange
      refine yields_writeBootState (fun fails => ?_) fun lands => ?_
      · exact ⟨_, .raised boot committed raise fails, becomes⟩
      · refine ⟨_, .committed boot committed raise lands, ?_, becomes.size⟩
        intro set'
        refine (slot_setBank (kept.trans read) entry inRange' (committedBoot bs) set').trans ?_
        rw [becomes.self, becomes.slots set']
        split <;> rfl

/-- The trial of a slot is given up. -/
theorem yields_returnedBoot {ε α : Type} {fail : BlockError → ε} {absent : Ending ε α → Prop}
    {settled : BankBootState → Ending ε α} {done : BankBootState → α}
    (read : nv.readBootState = some state)
    (entry : state.bank? set = some bs) (trial : bs.committed = false) :
  Yields (mapErr fail (writeBootState faults (state.setBank set (returnedBoot bs))) >>= fun _ =>
    pure (done bs)) nv
    fun res nv' => ∃ s, ReturnOutcome faults (nv.slot set) fail absent settled done res s ∧
      Becomes set s nv nv'
  := by
  have boot := (slot_boot read set).trans entry
  refine yields_seq (yields_writeBootState (fun fails => ?_) fun lands => ?_)
  · exact ⟨_, .failed boot trial fails, becomes_refl set nv⟩
  · exact ⟨_, .returned boot trial lands,
      slot_setBank read entry (slotInRange_of_trial read entry trial) _, rfl⟩

theorem rollback_outcome (faults : NvFaults) (set : BankSet) (nv : NvStore) :
  Yields (rollback faults set) nv fun res nv' =>
    ∃ s, ReturnOutcome faults (nv.slot set) .nvError
      (fun res => res = .err .noBootState ∨ res = .stopped)
      (fun _ => .err .notInTrial) (fun bs => bs.activeBank.other) res s ∧ Becomes set s nv nv'
  := by
  refine yields_entry (fun boot res ends => ⟨_, .absent boot ends, becomes_refl set nv⟩) ?_
  intro state bs read entry boot
  cases committed : bs.committed with
  | true => exact ⟨_, .settled boot committed, becomes_refl set nv⟩
  | false => exact yields_returnedBoot read entry committed

theorem handleHashFailure_outcome (faults : NvFaults) (set : BankSet) (nv : NvStore) :
  Yields (handleHashFailure faults set) nv fun res nv' =>
    ∃ s, ReturnOutcome faults (nv.slot set) .nv (fun res => res = .ok .firstBoot ∨ res = .stopped)
      (fun bs => .ok (.hashFatal bs.activeBank))
        (fun bs => .hashRollback bs.activeBank bs.activeBank.other) res s ∧ Becomes set s nv nv'
  := by
  apply yields_get_bind
  cases read : nv.readBootState with
  | none =>
    have boot : (nv.slot set).boot = none := by rw [slot, read, bind_none]
    exact ⟨_, .absent boot (.inl rfl), becomes_refl set nv⟩
  | some =>
    apply yields_orStop_bind
    · intro bs entry
      have boot := (slot_boot read set).trans entry
      cases committed : bs.committed with
      | true => exact ⟨_, .settled boot committed, becomes_refl set nv⟩
      | false => exact yields_returnedBoot read entry committed
    · intro none
      exact ⟨_, .absent ((slot_boot read set).trans none) (.inr rfl), becomes_refl set nv⟩

/-! ### A boot -/

/-- What a boot reports for a slot with this entry. -/
def bootReport : Option BankBootState → BootAction
  | none => .firstBoot
  | some bs => (bootTurn bs).1

def bootedBoot : Option BankBootState → BankBootState
  | none => {}
  | some bs => (bootTurn bs).2

theorem bootTurn_of_committed (committed : bs.committed = true) :
  bootTurn bs = (.boot bs.activeBank, bs)
  := by rw [bootTurn, if_pos committed]

/-- Only the boot entry of a slot depends on the boot state. -/
theorem slot_of_boot_eq (state : NvBootState) {b : Option BankBootState}
    (h : ((nv.putBootState state).slot set).boot = b) :
  (nv.putBootState state).slot set = { nv.slot set with boot := b }
  := by
  subst h
  rfl

theorem bank?_bootedState (slots : Nat) (state : NvBootState) (h : set.asIndex < slots) :
  (bootedState slots state).bank? set = (state.bank? set).map fun bs => (bootTurn bs).2
  := by
  simp only [bank?, bootedState, getElem?_ofFn]
  by_cases hlt : set.asIndex < MAX_SLOTS
  · simp [hlt, h]
    rfl
  · simp [hlt]

/-- There is no entry past the capacity of the boot state. -/
theorem slot_boot_of_le (nv : NvStore) (past : MAX_SLOTS ≤ set.asIndex) :
  (nv.slot set).boot = none
  := by
  cases read : nv.readBootState with
  | none => rw [slot, read, bind_none]
  | some =>
    rw [slot_boot read, bank?]
    apply getElem?_eq_none past

theorem asIndex_lt_of_entry (entry : (nv.slot set).boot = some bs) :
  set.asIndex < MAX_SLOTS
  := by
  apply Nat.lt_of_not_le
  intro past
  rw [slot_boot_of_le nv past] at entry
  cases entry

variable (nv nv') in
/-- Every slot of the store has had its turn at boot. -/
structure Boots (actions : List BootAction) : Prop where
  length : actions.length = nv.slotCount
  reports : ∀ set, nv.slotInRange set = true → actions[set.asIndex]? =
    some (bootReport (nv.slot set).boot)
  entries : ∀ set, set.asIndex < MAX_SLOTS → (nv'.slot set).boot =
    some (bootedBoot (nv.slot set).boot)

theorem boots_first (read : nv.readBootState = none) :
  Boots nv (nv.putBootState {}) (List.replicate nv.slotCount .firstBoot)
  := by
  have none (set : BankSet) : (nv.slot set).boot = none := by rw [slot, read, bind_none]
  constructor
  · apply List.length_replicate
  · intro set inRange
    rw [List.getElem?_replicate, if_pos (of_decide_eq_true inRange), none]
    rfl
  · intro set hlt
    have entry : bank? {} set = some {} := by simp [bank?, hlt]
    rw [slot, bank?_readBootState_write, entry, if_pos hlt, none]
    split <;> rfl

section

variable (read : nv.readBootState = some state)
include read

/-- The actions are those of the slots, in their order. -/
theorem boots_of_read
    (entries : ∀ set bs, set.asIndex < MAX_SLOTS → state.bank? set = some bs →
      (nv'.slot set).boot = some (bootTurn bs).2) :
  Boots nv nv' ((state.banks.toList.take nv.slotCount).map fun bs => (bootTurn bs).1)
  := by
  have le := nv.slotCount_le
  constructor
  · simp only [List.length_map, List.length_take, Vector.length_toList]
    omega
  · intro set inRange
    have hlt : set.asIndex < nv.slotCount := of_decide_eq_true inRange
    obtain ⟨bs, entry⟩ : ∃ bs, state.bank? set = some bs :=
      ⟨_, getElem?_eq_getElem (Nat.lt_of_lt_of_le hlt le)⟩
    rw [slot_boot read, entry, List.getElem?_map, List.getElem?_take_of_lt hlt, getElem?_toList]
    rw [bank?] at entry
    rw [entry]
    rfl
  · intro set hlt
    obtain ⟨bs, entry⟩ : ∃ bs, state.bank? set = some bs := ⟨_, getElem?_eq_getElem hlt⟩
    rw [slot_boot read, entry, entries set bs hlt entry]
    rfl

theorem boots_counted :
  Boots nv (nv.putBootState (bootedState nv.slotCount state))
    ((state.banks.toList.take nv.slotCount).map fun bs => (bootTurn bs).1)
  := by
  apply boots_of_read read
  intro set bs hlt entry
  rw [slot, bank?_readBootState_write, if_pos hlt]
  cases inRange : nv.slotInRange set with
  | true =>
    rw [if_pos rfl, bank?_bootedState _ _ (of_decide_eq_true inRange), entry]
    rfl
  | false =>
    rw [bank?_of_out_of_range read inRange entry]
    rfl

theorem boots_unchanged
    (committed : (state.banks.toList.take nv.slotCount).any (fun bs => !bs.committed) = false) :
  Boots nv nv ((state.banks.toList.take nv.slotCount).map fun bs => (bootTurn bs).1)
  := by
  apply boots_of_read read
  intro set bs _ entry
  rw [slot_boot read, entry]
  have committed : bs.committed = true := by
    cases inRange : nv.slotInRange set with
    | true =>
      rw [List.any_eq_false] at committed
      have mem : bs ∈ state.banks.toList.take nv.slotCount := by
        apply List.mem_of_getElem? (i := set.asIndex)
        rw [List.getElem?_take_of_lt (of_decide_eq_true inRange), getElem?_toList]
        apply entry
      simpa using committed bs mem
    | false => rw [bank?_of_out_of_range read inRange entry]
  rw [bootTurn_of_committed committed]

end

/-- A boot gives every slot its turn, or it changes nothing. -/
theorem yields_processBootNv {R : Ending BootError (List BootAction) → NvStore → Prop}
    (fails : faults .bootState = true → ∀ e, R (.err e) nv)
    (written : faults .bootState = false → ∀ actions state,
      Boots nv (nv.putBootState state) actions →
      R (.ok actions) (nv.putBootState state))
    (unchanged : ∀ actions, Boots nv nv actions → R (.ok actions) nv) :
  Yields (processBootNv faults) nv R
  := by
  apply yields_get_bind
  cases read : nv.readBootState with
  | none =>
    exact yields_seq (yields_writeBootState (fun fault => fails fault _) fun lands =>
      written lands _ _ (boots_first read))
  | some =>
    dsimp only
    split
    · exact yields_seq (yields_writeBootState (fun fault => fails fault _) fun lands =>
        written lands _ _ (boots_counted read))
    next committed => exact unchanged _ (boots_unchanged read (by simpa using committed))

theorem processBootNv_boot {res : Ending BootError (List BootAction)}
    (call : processBootNv faults nv = (res, nv')) :
  (∃ actions, res = .ok actions ∧ Boots nv nv' actions) ∨
  (∀ actions, res ≠ .ok actions) ∧ nv' = nv
  := by
  have outcome : Yields (processBootNv faults) nv fun res nv' =>
      (∃ actions, res = .ok actions ∧ Boots nv nv' actions) ∨
      (∀ actions, res ≠ .ok actions) ∧ nv' = nv :=
    yields_processBootNv (fun _ e => .inr ⟨nofun, rfl⟩)
      (fun _ actions _ boots => .inl ⟨actions, rfl, boots⟩)
      fun actions boots => .inl ⟨actions, rfl, boots⟩
  rwa [Yields, call] at outcome

/-- Where no write fails, a boot returns. -/
theorem processBootNv_returns (nv : NvStore) :
  ∃ actions nv', processBootNv noNvFault nv = (.ok actions, nv')
  := by
  rw [processBootNv, Call.run_get_bind]
  cases nv.readBootState with
  | none => exact ⟨_, _, rfl⟩
  | some =>
    simp only [Call.run_ite]
    split
    · exact ⟨_, _, rfl⟩
    · exact ⟨_, _, rfl⟩

/-- Writing the entry that a slot has changes nothing. -/
theorem setBoot_self (entry : s.boot = some bs) :
  s.setBoot bs = s
  := by rw [Slot.setBoot, ← entry]

theorem booted_of_none (hasEntry : Bool) (none : s.boot = none) :
  s.booted faults hasEntry = if hasEntry && !faults .bootState then s.setBoot {} else s
  := by rw [Slot.booted, none]

theorem booted_of_some (hasEntry : Bool) (entry : s.boot = some bs) :
  s.booted faults hasEntry = if bs.committed || faults .bootState then s
    else s.setBoot (bootTurn bs).2
  := by rw [Slot.booted, entry]

/-- A slot that has had its turn. -/
theorem booted_of_entry (hasEntry : Bool) (entry : s.boot = some bs)
    (lands : faults .bootState = false) :
  s.booted faults hasEntry = s.setBoot (bootTurn bs).2
  := by
  rw [booted_of_some _ entry, lands, Bool.or_false]
  cases committed : bs.committed with
  | true =>
    rw [bootTurn_of_committed committed]
    exact (setBoot_self entry).symm
  | false => rfl

theorem putBootState_booted (lands : faults .bootState = false) {actions : List BootAction}
    (boots : Boots nv (nv.putBootState state) actions) (set : BankSet) :
  (nv.putBootState state).slot set = (nv.slot set).booted faults (set.asIndex < MAX_SLOTS)
  := by
  by_cases hlt : set.asIndex < MAX_SLOTS
  · rw [slot_of_boot_eq state (boots.entries set hlt)]
    cases entry : (nv.slot set).boot with
    | none =>
      rw [booted_of_none _ entry, lands, decide_eq_true hlt]
      rfl
    | some =>
      rw [booted_of_entry _ entry lands]
      rfl
  · have none := slot_boot_of_le nv (Nat.le_of_not_lt hlt)
    have none' := slot_boot_of_le (nv.putBootState state) (Nat.le_of_not_lt hlt)
    rw [slot_of_boot_eq state none', booted_of_none _ none, decide_eq_false hlt, ← none]
    rfl

theorem processBootNv_slot (faults : NvFaults) (nv : NvStore) (set : BankSet) :
  (processBootNv faults nv).2.slot set = (nv.slot set).booted faults (set.asIndex < MAX_SLOTS)
  := by
  refine yields_processBootNv (R := fun _ t => t.slot set = _) ?_ ?_ ?_
  · intro fault e
    cases entry : (nv.slot set).boot with
    | none => simp [booted_of_none _ entry, fault]
    | some => simp [booted_of_some _ entry, fault]
  · intro lands actions state boots
    apply putBootState_booted lands boots
  · -- Nothing is written, because every slot is committed.
    intro actions boots
    cases entry : (nv.slot set).boot with
    | none =>
      have past : ¬set.asIndex < MAX_SLOTS := by
        intro hlt
        rw [boots.entries set hlt] at entry
        cases entry
      rw [booted_of_none _ entry, decide_eq_false past]
      rfl
    | some bs =>
      have same : some (bootTurn bs).2 = some bs := by
        rw [← entry, boots.entries set (asIndex_lt_of_entry entry), entry]
        rfl
      cases lands : faults .bootState with
      | true => simp [booted_of_some _ entry, lands]
      | false =>
        rw [booted_of_entry _ entry lands, some.inj same]
        exact (setBoot_self entry).symm

end Calls

end Nv
