import MachineManager.Nv.Types

/-!
# The anti-rollback floor of a slot

A slot seen by itself: its boot entry and the firmware metadata of its two banks. The bank that is
trusted is the active one when the slot is committed, and the other one during a trial; the floor
and the committed generation are those of the trusted bank. `SlotStep` lists the ways in which a
slot may move, and along each of them neither number goes down.
-/

namespace Nv

open BankBootState

/-- The bank that carries the floor: the active one, or the other one during a trial. -/
def BankBootState.committedBank (bs : BankBootState) : Bank :=
  if bs.committed then bs.activeBank else bs.activeBank.other

def floorOf : Option NvFwMeta → UInt32
  | none => 0
  | some m => m.minSecurityVer

def genOf : Option NvFwMeta → UInt64
  | none => 0
  | some m => m.gen

/-- The security version of metadata, zero when there is none. -/
def secverOf : Option NvFwMeta → UInt32
  | none => 0
  | some m => m.fwSecver

/-- The boot entry of a slot, if there is a boot state, and the metadata of its banks. -/
structure Slot where
  boot : Option BankBootState
  fwMeta : Bank → Option NvFwMeta

namespace Slot

def committedMeta (s : Slot) : Option NvFwMeta :=
  s.boot.bind fun bs => s.fwMeta bs.committedBank

/-- The anti-rollback floor. -/
def floor (s : Slot) : UInt32 :=
  floorOf s.committedMeta

def gen (s : Slot) : UInt64 :=
  genOf s.committedMeta

def setMeta (s : Slot) (bank : Bank) (m : NvFwMeta) : Slot :=
  { s with fwMeta := fun b => if b = bank then some m else s.fwMeta b }

def setBoot (s : Slot) (bs : BankBootState) : Slot :=
  { s with boot := some bs }

variable (s : Slot)

@[simp]
theorem setMeta_boot (bank : Bank) (m : NvFwMeta) :
  (s.setMeta bank m).boot = s.boot
  := rfl

@[simp]
theorem setMeta_fwMeta_self (bank : Bank) (m : NvFwMeta) :
  (s.setMeta bank m).fwMeta bank = some m
  := if_pos rfl

theorem setMeta_fwMeta_of_ne {bank b : Bank} (m : NvFwMeta) (h : b ≠ bank) :
  (s.setMeta bank m).fwMeta b = s.fwMeta b
  := if_neg h

/-- A single-bank slot stays committed on bank A. The bank on trial has at least the floor and the
generation of the committed one. -/
structure Sound (single : Bool) (s : Slot) : Prop where
  single_committed : ∀ bs, s.boot = some bs → single = true → bs.activeBank = .A ∧
    bs.committed = true
  floor_le : ∀ bs, s.boot = some bs → bs.committed = false →
    floorOf (s.fwMeta bs.activeBank.other) ≤ floorOf (s.fwMeta bs.activeBank)
  gen_le : ∀ bs, s.boot = some bs → bs.committed = false →
    genOf (s.fwMeta bs.activeBank.other) ≤ genOf (s.fwMeta bs.activeBank)

end Slot

/-- The moves of a slot. Each listed move is what one call has done to the slot when it ends; a call
that an error stops half way has made one of the shorter moves. -/
inductive SlotStep (single : Bool) : Slot → Slot → Prop
  /-- Nothing has changed. -/
  | stay (s : Slot) : SlotStep single s s
  /-- The first boot writes the default entry. -/
  | firstBoot {s : Slot} : s.boot = none → SlotStep single s (s.setBoot {})
  /-- The other bank gets the metadata of a new image. -/
  | stage {s : Slot} {bs : BankBootState} {m : NvFwMeta} : s.boot = some bs → bs.committed = true →
      single = false → m.minSecurityVer = s.floor → s.gen < m.gen →
      SlotStep single s (s.setMeta bs.activeBank.other m)
  /-- The other bank gets the metadata of a new image and goes on trial. -/
  | arm {s : Slot} {bs : BankBootState} {m : NvFwMeta} : s.boot = some bs → bs.committed = true →
      single = false → m.minSecurityVer = s.floor → s.gen < m.gen →
      SlotStep single s ((s.setMeta bs.activeBank.other m).setBoot
        { activeBank := bs.activeBank.other, committed := false, bootCount := 0 })
  /-- The only bank gets the metadata of a new image. -/
  | replace {s : Slot} {bs : BankBootState} {m : NvFwMeta} : s.boot = some bs →
      bs.committed = true → single = true → s.floor ≤ m.fwSecver → m.minSecurityVer = m.fwSecver →
      genOf (s.fwMeta .A) < m.gen → SlotStep single s (s.setMeta .A m)
  /-- The only bank gets the metadata of a new image and a fresh boot entry. -/
  | reinstall {s : Slot} {bs : BankBootState} {m : NvFwMeta} : s.boot = some bs →
      bs.committed = true → single = true → s.floor ≤ m.fwSecver → m.minSecurityVer = m.fwSecver →
      genOf (s.fwMeta .A) < m.gen →
      SlotStep single s ((s.setMeta .A m).setBoot { activeBank := .A, committed := true })
  /-- The bank on trial gets a higher floor. -/
  | raise {s : Slot} {bs : BankBootState} {m : NvFwMeta} : s.boot = some bs →
      bs.committed = false → s.fwMeta bs.activeBank = some m → m.minSecurityVer < m.fwSecver →
      SlotStep single s (s.setMeta bs.activeBank { m with minSecurityVer := m.fwSecver })
  /-- The bank on trial is committed. -/
  | commit {s : Slot} {bs : BankBootState} : s.boot = some bs → bs.committed = false →
      SlotStep single s (s.setBoot { bs with committed := true, bootCount := 0 })
  /-- The bank on trial gets a higher floor and is committed. -/
  | raiseCommit {s : Slot} {bs : BankBootState} {m : NvFwMeta} : s.boot = some bs →
      bs.committed = false → s.fwMeta bs.activeBank = some m → m.minSecurityVer < m.fwSecver →
      SlotStep single s ((s.setMeta bs.activeBank { m with minSecurityVer := m.fwSecver }).setBoot
        { bs with committed := true, bootCount := 0 })
  /-- The trial is given up. -/
  | rollback {s : Slot} {bs : BankBootState} : s.boot = some bs → bs.committed = false →
      SlotStep single s
        (s.setBoot { activeBank := bs.activeBank.other, committed := true, bootCount := 0 })
  /-- A trial boot is counted. -/
  | count {s : Slot} {bs : BankBootState} (n : UInt8) : s.boot = some bs → bs.committed = false →
      SlotStep single s (s.setBoot { bs with bootCount := n })

variable {single : Bool} {s t : Slot}

namespace Slot

variable {bs : BankBootState}

section

variable (h : s.boot = some bs)
include h

theorem committedMeta_of_committed (hc : bs.committed = true) :
  s.committedMeta = s.fwMeta bs.activeBank
  := by
  rw [committedMeta, h, Option.bind_some, committedBank, hc, if_pos rfl]

theorem committedMeta_of_trial (hc : bs.committed = false) :
  s.committedMeta = s.fwMeta bs.activeBank.other
  := by
  rw [committedMeta, h, Option.bind_some, committedBank, hc]
  rfl

theorem floor_of_committed (hc : bs.committed = true) :
  s.floor = floorOf (s.fwMeta bs.activeBank)
  := by rw [floor, committedMeta_of_committed h hc]

theorem gen_of_committed (hc : bs.committed = true) :
  s.gen = genOf (s.fwMeta bs.activeBank)
  := by rw [gen, committedMeta_of_committed h hc]

theorem floor_of_trial (hc : bs.committed = false) :
  s.floor = floorOf (s.fwMeta bs.activeBank.other)
  := by rw [floor, committedMeta_of_trial h hc]

theorem gen_of_trial (hc : bs.committed = false) :
  s.gen = genOf (s.fwMeta bs.activeBank.other)
  := by rw [gen, committedMeta_of_trial h hc]

end

theorem floor_setBoot (s : Slot) (bs : BankBootState) :
  (s.setBoot bs).floor = floorOf (s.fwMeta bs.committedBank)
  := rfl

theorem gen_setBoot (s : Slot) (bs : BankBootState) :
  (s.setBoot bs).gen = genOf (s.fwMeta bs.committedBank)
  := rfl

/-- Metadata of a bank that is not trusted does not count. -/
theorem committedMeta_setMeta_of_ne {bank : Bank} (m : NvFwMeta)
    (h : ∀ bs, s.boot = some bs → bs.committedBank ≠ bank) :
  (s.setMeta bank m).committedMeta = s.committedMeta
  := by
  rw [committedMeta, committedMeta, setMeta_boot]
  cases hb : s.boot with
  | none => rfl
  | some bs => apply setMeta_fwMeta_of_ne s m (h bs hb)

/-- A slot that is committed is sound when a single-bank slot is on bank A. -/
theorem sound_of_committed (h : s.boot = some bs) (hc : bs.committed = true)
    (hA : single = true → bs.activeBank = .A) :
  s.Sound single
  := by
  constructor
  · intro bs' h' hs
    rw [h] at h'
    cases h'
    use hA hs, hc
  · intro bs' h' hc'
    rw [h] at h'
    cases h'
    rw [hc] at hc'
    cases hc'
  · intro bs' h' hc'
    rw [h] at h'
    cases h'
    rw [hc] at hc'
    cases hc'

/-- A slot on trial is sound when it is not a single-bank slot and the trial bank is no lower. -/
theorem sound_of_trial (h : s.boot = some bs) (hs : single = false)
    (hf : floorOf (s.fwMeta bs.activeBank.other) ≤ floorOf (s.fwMeta bs.activeBank))
    (hg : genOf (s.fwMeta bs.activeBank.other) ≤ genOf (s.fwMeta bs.activeBank)) :
  s.Sound single
  := by
  constructor
  · intro bs' _ hs'
    rw [hs] at hs'
    cases hs'
  · intro bs' h' _
    rw [h] at h'
    cases h'
    apply hf
  · intro bs' h' _
    rw [h] at h'
    cases h'
    apply hg

theorem Sound.not_single_of_trial (sound : s.Sound single) (h : s.boot = some bs)
    (hc : bs.committed = false) :
  single = false
  := by
  cases single with
  | false => rfl
  | true =>
    have := (sound.single_committed bs h rfl).2
    rw [hc] at this
    cases this

end Slot

namespace SlotStep

variable (step : SlotStep single s t)
include step

open Slot

/-- Every move keeps a slot sound. -/
theorem sound (sound : s.Sound single) :
  t.Sound single
  := by
  cases step with
  | stay => apply sound
  | firstBoot | reinstall => exact sound_of_committed rfl rfl fun _ => rfl
  | stage h hc hs =>
    exact sound_of_committed h hc fun h' => by rw [hs] at h'; cases h'
  | @arm bs m h hc hs hmin hgen =>
    have active : (s.setMeta bs.activeBank.other m).fwMeta bs.activeBank = s.fwMeta bs.activeBank :=
      setMeta_fwMeta_of_ne s m (Bank.other_ne _).symm
    have target : (s.setMeta bs.activeBank.other m).fwMeta bs.activeBank.other = some m :=
      setMeta_fwMeta_self s _ m
    apply sound_of_trial rfl hs
    · simp only [setBoot, Bank.other_other, active, target]
      rw [floor_of_committed h hc] at hmin
      apply UInt32.le_of_eq hmin.symm
    · simp only [setBoot, Bank.other_other, active, target]
      rw [gen_of_committed h hc] at hgen
      apply UInt64.le_of_lt hgen
  | replace h hc hs =>
    exact sound_of_committed h hc fun _ => (sound.single_committed _ h hs).1
  | @raise bs m h hc hm hlt =>
    have other := setMeta_fwMeta_of_ne s { m with minSecurityVer := m.fwSecver }
      (Bank.other_ne bs.activeBank)
    apply sound_of_trial (s := s.setMeta _ _) h (sound.not_single_of_trial h hc)
    · rw [other, setMeta_fwMeta_self]
      have := sound.floor_le bs h hc
      rw [hm] at this
      apply UInt32.le_trans this (UInt32.le_of_lt hlt)
    · rw [other, setMeta_fwMeta_self]
      have := sound.gen_le bs h hc
      rw [hm] at this
      apply this
  | commit h | raiseCommit h =>
    exact sound_of_committed rfl rfl fun hs => (sound.single_committed _ h hs).1
  | rollback h hc =>
    apply sound_of_committed rfl rfl
    intro hs
    rw [sound.not_single_of_trial h hc] at hs
    cases hs
  | count _ h hc =>
    apply sound_of_trial rfl (sound.not_single_of_trial h hc)
    · apply sound.floor_le _ h hc
    · apply sound.gen_le _ h hc

/-- No move of a sound slot lowers its floor or its committed generation. -/
theorem le (sound : s.Sound single) :
  s.floor ≤ t.floor ∧ s.gen ≤ t.gen
  := by
  cases step with
  | stay => use UInt32.le_refl _, UInt64.le_refl _
  | firstBoot h =>
    rw [floor, gen, committedMeta, h]
    use UInt32.zero_le, UInt64.zero_le
  | @stage bs m h hc =>
    have same : (s.setMeta bs.activeBank.other m).committedMeta = s.committedMeta := by
      apply committedMeta_setMeta_of_ne
      intro bs' h'
      rw [h] at h'
      cases h'
      rw [committedBank, hc]
      apply (Bank.other_ne _).symm
    rw [floor, gen, floor, gen, same]
    use UInt32.le_refl _, UInt64.le_refl _
  | @arm bs m h hc =>
    have active : (s.setMeta bs.activeBank.other m).fwMeta bs.activeBank = s.fwMeta bs.activeBank :=
      setMeta_fwMeta_of_ne s m (Bank.other_ne _).symm
    rw [floor_setBoot, gen_setBoot, floor_of_committed h hc, gen_of_committed h hc]
    simp only [committedBank, Bool.false_eq_true, if_false, Bank.other_other, active]
    use UInt32.le_refl _, UInt64.le_refl _
  | @replace bs m h hc hs hle hmin hgen =>
    have onA := (sound.single_committed bs h hs).1
    rw [floor_of_committed (s := s.setMeta .A m) h hc,
      gen_of_committed (s := s.setMeta .A m) h hc, gen_of_committed h hc, onA, setMeta_fwMeta_self]
    use UInt32.le_trans hle (UInt32.le_of_eq hmin.symm)
    apply UInt64.le_of_lt hgen
  | @reinstall bs _ h hc hs hle hmin hgen =>
    have onA := (sound.single_committed bs h hs).1
    rw [floor_setBoot, gen_setBoot, gen_of_committed h hc, onA]
    simp only [committedBank, if_true, setMeta_fwMeta_self]
    use UInt32.le_trans hle (UInt32.le_of_eq hmin.symm)
    apply UInt64.le_of_lt hgen
  | @raise bs m h hc =>
    have same : (s.setMeta bs.activeBank { m with minSecurityVer := m.fwSecver }).committedMeta =
        s.committedMeta := by
      apply committedMeta_setMeta_of_ne
      intro bs' h'
      rw [h] at h'
      cases h'
      rw [committedBank, hc]
      apply Bank.other_ne
    rw [floor, gen, floor, gen, same]
    use UInt32.le_refl _, UInt64.le_refl _
  | @commit bs h hc =>
    rw [floor_of_trial h hc, gen_of_trial h hc, floor_setBoot, gen_setBoot]
    use sound.floor_le bs h hc
    apply sound.gen_le bs h hc
  | @raiseCommit bs _ h hc hm hlt =>
    have hf := sound.floor_le bs h hc
    have hg := sound.gen_le bs h hc
    rw [hm] at hf hg
    rw [floor_of_trial h hc, gen_of_trial h hc, floor_setBoot, gen_setBoot]
    simp only [committedBank, if_true, setMeta_fwMeta_self]
    use UInt32.le_trans hf (UInt32.le_of_lt hlt)
    apply hg
  | @rollback _ h hc =>
    rw [floor_of_trial h hc, gen_of_trial h hc, floor_setBoot, gen_setBoot]
    use UInt32.le_refl _, UInt64.le_refl _
  | @count _ _ h hc =>
    rw [floor_of_trial h hc, gen_of_trial h hc, floor_setBoot, gen_setBoot]
    simp only [committedBank, hc, Bool.false_eq_true, if_false]
    use UInt32.le_refl _, UInt64.le_refl _

end SlotStep

end Nv
