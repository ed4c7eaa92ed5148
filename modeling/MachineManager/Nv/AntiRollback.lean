import MachineManager.Lib.Crc32
import MachineManager.Lib.Reachable
import MachineManager.Nv.Calls

/-!
# The anti-rollback floor

Every call of the update flow and of the boot stage moves each slot of the store along a `SlotStep`,
whichever of its writes fails. Hence no run of calls lowers the floor or the committed generation of
a slot, as long as the store starts sound and no install starts from the last generation there is.
-/

namespace Nv

open Buffer Slot NvBootState

def MovesSlots (single : BankSet → Bool) (nv nv' : NvStore) : Prop :=
  ∀ set, SlotStep (single set) (nv.slot set) (nv'.slot set)

variable {set : BankSet} {nv nv' : NvStore} {faults : NvFaults} {imageSha256 : Buffer 32}

section

variable {single : BankSet → Bool}
  {s t : Slot}

theorem movesSlots_of_becomes (becomes : Becomes set s nv nv')
    (step : SlotStep (single set) (nv.slot set) s) :
  MovesSlots single nv nv'
  := by
  intro set'
  rw [becomes.slots set']
  split
  next same =>
    rw [same]
    exact step
  next => exact .stay _

theorem lt_add_one_of_ne_last {g : UInt64} (h : g ≠ 0xFFFFFFFFFFFFFFFF) :
  g < g + 1
  := by grind

theorem InstallOutcome.step {inRange single : Bool} {fwCrc : UInt32} {info : ImageMeta}
    {res : Ending OtaError InstallResult}
    (outcome : InstallOutcome faults s inRange imageSha256 fwCrc info single res t)
    (sound : s.Sound single) (room : s.gen ≠ 0xFFFFFFFFFFFFFFFF) :
  SlotStep single s t
  := by
  have newer {bs : BankBootState} (boot : s.boot = some bs) (committed : bs.committed = true) :
      genOf (s.fwMeta bs.activeBank) < genOf (s.fwMeta bs.activeBank) + 1 := by
    rw [gen_of_committed boot committed] at room
    exact lt_add_one_of_ne_last room
  have fits {bs : BankBootState} (boot : s.boot = some bs) (committed : bs.committed = true)
      (fresh : ¬info.fwSecver < floorOf (s.fwMeta bs.activeBank)) : s.floor ≤ info.fwSecver := by
    rw [floor_of_committed boot committed]
    exact UInt32.not_lt.mp fresh
  cases outcome with
  | absent | onTrial | tooOld | unwritten => exact .stay s
  | staged boot committed fresh =>
    cases single with
    | true =>
      have newer := newer boot committed
      rw [(sound.single_committed _ boot rfl).1] at newer
      exact .replace boot committed rfl (fits boot committed fresh) rfl newer
    | false =>
      refine .stage boot committed rfl (floor_of_committed boot committed).symm ?_
      rw [gen_of_committed boot committed]
      exact newer boot committed
  | armed boot committed fresh =>
    cases single with
    | true =>
      have newer := newer boot committed
      rw [(sound.single_committed _ boot rfl).1] at newer
      exact .reinstall boot committed rfl (fits boot committed fresh) rfl newer
    | false =>
      refine .arm boot committed rfl (floor_of_committed boot committed).symm ?_
      rw [gen_of_committed boot committed]
      exact newer boot committed

theorem CommitOutcome.step {single : Bool} {res : Ending OtaError Unit}
    (outcome : CommitOutcome faults s res t) :
  SlotStep single s t
  := by
  cases outcome with
  | absent | settled | unraised => exact .stay s
  | raised boot trial raise =>
    obtain ⟨rfl, -⟩ | ⟨m, found, higher, rfl⟩ := raiseFloor_cases raise
    · exact .stay _
    · exact .raise boot trial found higher
  | committed boot trial raise =>
    obtain ⟨rfl, -⟩ | ⟨m, found, higher, rfl⟩ := raiseFloor_cases raise
    · exact .commit boot trial
    · exact .raiseCommit boot trial found higher

theorem ReturnOutcome.step {ε α : Type} {single : Bool} {fail : BlockError → ε}
    {absent : Ending ε α → Prop}
    {settled : BankBootState → Ending ε α} {done : BankBootState → α} {res : Ending ε α}
    (outcome : ReturnOutcome faults s fail absent settled done res t) :
  SlotStep single s t
  := by
  cases outcome with
  | absent | settled | failed => exact .stay s
  | returned boot trial => exact .rollback boot trial

/-- A slot's turn at boot is one of the listed moves. -/
theorem bootTurn_step {bs : BankBootState} (single : Bool) (h : s.boot = some bs) :
  SlotStep single s (s.setBoot (bootTurn bs).2)
  := by
  rw [bootTurn]
  split
  · have same : s.setBoot bs = s := by rw [setBoot, ← h]
    rw [same]
    exact .stay s
  next hc =>
    have hc : bs.committed = false := by simpa using hc
    simp only
    split
    · exact .rollback h hc
    · exact .count _ h hc

theorem booted_step (single hasEntry : Bool) (s : Slot) :
  SlotStep single s (s.booted faults hasEntry)
  := by
  cases boot : s.boot with
  | none =>
    rw [booted_of_none _ boot]
    split
    · exact .firstBoot boot
    · exact .stay s
  | some =>
    rw [booted_of_some _ boot]
    split
    · exact .stay s
    · exact bootTurn_step single boot

end

/-! ### Runs of calls -/

/-- A call on the store. -/
inductive OtaCall
  | install (set : BankSet) (imageData : List UInt8) (info : ImageMeta)
  | installPrecomputed (set : BankSet) (imageSha256 : Buffer 32) (imageSize : UInt64)
      (info : ImageMeta)
  | commit (set : BankSet)
  | rollback (set : BankSet)
  | processBootNv
  | handleHashFailure (set : BankSet)

section

variable (sha256 : List UInt8 → Buffer 32) (crc : List UInt8 → UInt32) (single : BankSet → Bool)

/-- The store after a call whose failing writes are `faults`. -/
def OtaCall.run (faults : NvFaults) : OtaCall → NvStore → NvStore
  | .install set imageData info, nv =>
    (Nv.install faults sha256 crc set imageData info (single set) nv).2
  | .installPrecomputed set imageSha256 imageSize info, nv =>
    (Nv.installPrecomputed faults crc set imageSha256 imageSize info (single set) nv).2
  | .commit set, nv => (Nv.commit faults set nv).2
  | .rollback set, nv => (Nv.rollback faults set nv).2
  | .processBootNv, nv => (Nv.processBootNv faults nv).2
  | .handleHashFailure set, nv => (Nv.handleHashFailure faults set nv).2

/-- An install does not start from the last generation there is. -/
def OtaCall.HasRoom (nv : NvStore) : OtaCall → Prop
  | .install set _ _ | .installPrecomputed set _ _ _ => (nv.slot set).gen ≠ 0xFFFFFFFFFFFFFFFF
  | _ => True

def OtaStep (nv nv' : NvStore) : Prop :=
  ∃ (call : OtaCall) (faults : NvFaults), call.HasRoom nv ∧
    nv' = call.run sha256 crc single faults nv

/-- The stores that calls lead to from `nv`. -/
def OtaRun (nv : NvStore) : NvStore → Prop :=
  Reachable (· = nv) (OtaStep sha256 crc single)

def SoundStore (nv : NvStore) : Prop :=
  ∀ set, (nv.slot set).Sound (single set)

variable {sha256 crc single}

section

variable (sound : SoundStore single nv)
include sound

theorem movesSlots_of_otaStep (step : OtaStep sha256 crc single nv nv') :
  MovesSlots single nv nv'
  := by
  obtain ⟨call, faults, room, rfl⟩ := step
  cases call with
  | install set _ info =>
    obtain ⟨s, outcome, becomes⟩ := installChecked_outcome faults set _ _ info (single set) nv
    exact movesSlots_of_becomes becomes (outcome.step (sound set) room)
  | installPrecomputed set _ _ info =>
    obtain ⟨s, outcome, becomes⟩ := installChecked_outcome faults set _ _ info (single set) nv
    exact movesSlots_of_becomes becomes (outcome.step (sound set) room)
  | commit set =>
    obtain ⟨s, outcome, becomes⟩ := commit_outcome faults set nv
    exact movesSlots_of_becomes becomes outcome.step
  | rollback set =>
    obtain ⟨s, outcome, becomes⟩ := rollback_outcome faults set nv
    exact movesSlots_of_becomes becomes outcome.step
  | processBootNv =>
    intro set
    rw [OtaCall.run, processBootNv_slot]
    apply booted_step
  | handleHashFailure set =>
    obtain ⟨s, outcome, becomes⟩ := handleHashFailure_outcome faults set nv
    exact movesSlots_of_becomes becomes outcome.step

variable (run : OtaRun sha256 crc single nv nv')
include run

theorem soundStore_of_otaRun :
  SoundStore single nv'
  := by
  apply Reachable.invariant _ _ run
  · rintro _ rfl
    apply sound
  · intro nv nv' sound step set
    apply (movesSlots_of_otaStep sound step set).sound (sound set)

theorem floor_le_of_otaRun (set : BankSet) :
  (nv.slot set).floor ≤ (nv'.slot set).floor ∧ (nv.slot set).gen ≤ (nv'.slot set).gen
  := by
  induction run with
  | init h =>
    cases h
    use UInt32.le_refl _, UInt64.le_refl _
  | step run step ih =>
    have sound := soundStore_of_otaRun sound run
    obtain ⟨hf, hg⟩ := (movesSlots_of_otaStep sound step set).le (sound set)
    use UInt32.le_trans ih.1 hf, UInt64.le_trans ih.2 hg

end

/-- An install that succeeds has passed its checks. -/
theorem floor_le_of_installChecked {fwCrc : UInt32} {info : ImageMeta} {singleBank : Bool}
    {r : InstallResult}
    (ok : (installChecked faults set imageSha256 fwCrc info singleBank nv).1 = .ok r) :
  (nv.slot set).floor ≤ info.fwSecver
  := by
  obtain ⟨s, outcome, -⟩ := installChecked_outcome faults set imageSha256 fwCrc info singleBank nv
  rw [ok] at outcome
  cases outcome with
  | absent _ ends => rcases ends with ends | ends <;> cases ends
  | armed boot committed fresh =>
    rw [Slot.floor_of_committed boot committed]
    apply UInt32.not_lt.mp fresh

/-- A commit that succeeds leaves a floor no lower than the committed image's version. -/
theorem secver_le_of_commit (ok : (commit faults set nv).1 = .ok ()) :
  secverOf ((commit faults set nv).2.slot set).committedMeta ≤
    ((commit faults set nv).2.slot set).floor
  := by
  obtain ⟨s, outcome, becomes⟩ := commit_outcome faults set nv
  rw [ok] at outcome
  rw [becomes.self]
  cases outcome with
  | absent _ ends => rcases ends with ends | ends <;> cases ends
  | @committed bs t _ _ raise =>
    change secverOf (t.fwMeta bs.activeBank) ≤ floorOf (t.fwMeta bs.activeBank)
    obtain ⟨rfl, le⟩ | ⟨m, -, -, rfl⟩ := raiseFloor_cases raise
    · apply le
    · rw [setMeta_fwMeta_self]
      apply UInt32.le_refl

/-- The anti-rollback promise, for a store that starts sound and installs that do not start from the
last generation: no run lowers the floor or the committed generation of a slot, an install that
succeeds is no older than the floor, and a commit that succeeds leaves the floor at the committed
image's version or above. -/
theorem antiRollback {nv₀ : NvStore} (sound : SoundStore single nv₀)
    (run : OtaRun sha256 crc single nv₀ nv) :
  (∀ nv', OtaRun sha256 crc single nv nv' → ∀ set,
    (nv.slot set).floor ≤ (nv'.slot set).floor ∧ (nv.slot set).gen ≤ (nv'.slot set).gen) ∧
  (∀ faults set imageData info r,
    (install faults sha256 crc set imageData info (single set) nv).1 = .ok r →
      (nv.slot set).floor ≤ info.fwSecver) ∧
  (∀ faults set imageSha256 imageSize info r,
    (installPrecomputed faults crc set imageSha256 imageSize info (single set) nv).1 = .ok r →
      (nv.slot set).floor ≤ info.fwSecver) ∧
  (∀ faults set, (commit faults set nv).1 = .ok () →
    secverOf ((commit faults set nv).2.slot set).committedMeta ≤
      ((commit faults set nv).2.slot set).floor)
  := by
  have sound := soundStore_of_otaRun sound run
  refine ⟨?_, ?_, ?_, ?_⟩
  · intro nv' run' set
    apply floor_le_of_otaRun sound run' set
  · intro faults set imageData info r ok
    apply floor_le_of_installChecked ok
  · intro faults set imageSha256 imageSize info r ok
    apply floor_le_of_installChecked ok
  · intro faults set ok
    apply secver_le_of_commit ok

end

/-! ### One slot -/

def slotZero : BankSet := ⟨0⟩

def oneSlot (bs : BankBootState) (a b : Option NvFwMeta) : NvStore where
  deviceSize := BANKSET_BASE + BANKSET_STRIDE
  bootState := some (NvBootState.setBank {} slotZero bs)
  fwMetas _ bank :=
    match bank with
    | .A => a
    | .B => b

/-- An image of a given security version is installed on the first slot. -/
def installZero (fwSecver : UInt32) (nv : NvStore) : NvStore :=
  (installPrecomputed noNvFault Crc32.crc32 slotZero (zeros 32) 0 { fwSecver } false nv).2

def trialWithoutMeta : NvStore :=
  oneSlot { activeBank := .B, committed := false } (some { minSecurityVer := 5 }) none

def lastGeneration : NvStore :=
  oneSlot {} (some { gen := 0xFFFFFFFFFFFFFFFF }) none

/-- In a store that does not start sound a commit can lower the floor, and an install from the last
generation makes the next commit lower the generation. -/
theorem floor_and_gen_can_drop :
  ((commit noNvFault slotZero trialWithoutMeta).2.slot slotZero).floor <
    (trialWithoutMeta.slot slotZero).floor ∧
  ((commit noNvFault slotZero (installZero 0 lastGeneration)).2.slot slotZero).gen <
    (lastGeneration.slot slotZero).gen
  := by decide +kernel

def committedOnA : NvStore :=
  oneSlot {} (some { minSecurityVer := 5, gen := 1 }) none

theorem soundStore_committedOnA :
  SoundStore (fun _ => false) committedOnA
  := by
  intro set
  cases h : (committedOnA.slot set).boot with
  | none => constructor <;> simp [h]
  | some bs =>
    have entry : bs = {} := by
      have read : (committedOnA.slot set).boot = _ :=
        NvStore.bank?_readBootState_write committedOnA (setBank {} slotZero {}) set
      have old : bank? {} slotZero = some {} := by decide +kernel
      rw [read, bank?_setBank old] at h
      by_contra hne
      have default (bs : BankBootState) (hb : bank? {} set = some bs) : bs = {} := by
        obtain ⟨_, hb⟩ := Vector.getElem?_eq_some_iff.mp hb
        simpa using hb.symm
      split_ifs at h with h₁ h₂ h₃
      · exact hne (Option.some.inj h).symm
      · exact hne (default bs h)
      · exact hne (Option.some.inj h).symm
    apply sound_of_committed h
    · rw [entry]
    · rintro ⟨⟩

def emptyDigest : Buffer 32 :=
  #v[0xe3, 0xb0, 0xc4, 0x42, 0x98, 0xfc, 0x1c, 0x14, 0x9a, 0xfb, 0xf4, 0xc8, 0x99, 0x6f, 0xb9, 0x24,
    0x27, 0xae, 0x41, 0xe4, 0x64, 0x9b, 0x93, 0x4c, 0xa4, 0x95, 0x99, 0x1b, 0x78, 0x52, 0xb8, 0x55]

/-- An image of version 7 is installed over a floor of 5 and committed. -/
theorem antiRollback_install_commit :
  ∃ nv, OtaRun (fun _ => emptyDigest) Crc32.crc32 (fun _ => false) committedOnA nv ∧
    (nv.slot slotZero).floor = 5 ∧ (commit noNvFault slotZero nv).1 = .ok () ∧
    secverOf ((commit noNvFault slotZero nv).2.slot slotZero).committedMeta = 7 ∧
    secverOf ((commit noNvFault slotZero nv).2.slot slotZero).committedMeta ≤
      ((commit noNvFault slotZero nv).2.slot slotZero).floor
  := by
  have run : OtaRun (fun _ => emptyDigest) Crc32.crc32 (fun _ => false) committedOnA
      (installZero 7 committedOnA) := by
    refine .step (.init rfl)
      ⟨.installPrecomputed slotZero (zeros 32) 0 { fwSecver := 7 }, noNvFault, ?_, rfl⟩
    show (committedOnA.slot slotZero).gen ≠ _
    decide +kernel
  have ok : (commit noNvFault slotZero (installZero 7 committedOnA)).1 = .ok () := by decide +kernel
  refine ⟨_, run, by decide +kernel, ok, by decide +kernel, ?_⟩
  apply (antiRollback soundStore_committedOnA run).2.2.2 noNvFault slotZero ok

end Nv
