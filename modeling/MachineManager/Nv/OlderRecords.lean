import MachineManager.Nv.Boot
import MachineManager.Nv.Typed

/-!
# Boot states of older writers

The boot state has grown in place: a writer with `k` slots leaves the entries from `k` on as the
zero padding of its sector. Zeros read as an entry of bank A that is not committed, and the store
resets only the entries that it has no slots for. So a slot that came with a later writer, on
a device with room for it, is on trial although no image was ever installed there: it takes its
trial boots and moves to bank B.
-/

open Nat

namespace Nv

open Buffer DeviceStore Key Crc32 NvStore

/-- The boot state of a writer with `k` slots. -/
structure OlderBootState (k : Nat) where
  writeSeq : UInt32 := 0
  banks : Vector BankBootState k

namespace OlderBootState

/-- The code of the boot state, with another number of slots. -/
instance (k : Nat) : NvRecord (OlderBootState k) where
  magic := MAGIC_BOOT
  size := 8 + 3 * k
  writeSeq r := r.writeSeq
  setWriteSeq r q := { r with writeSeq := q }
  serialize r _ buf :=
    putCells (putU32 (putU32 buf 0 MAGIC_BOOT) 4 r.writeSeq) 8 fun i => r.banks[i].wire
  deserialize {n} buf := do
    guard (8 + 3 * k ≤ n)
    let banks ← Vector.ofFnM fun i => BankBootState.read buf (8 + i * 3)
    return { writeSeq := getU32 buf 4, banks }

variable {k : Nat}

def grown (r : OlderBootState k) : NvBootState where
  writeSeq := r.writeSeq
  banks := Vector.ofFn fun i => if h : i.val < k then r.banks[i.val] else trialEntry .A 0

theorem bank?_grown_of_le (r : OlderBootState k) {set : BankSet} (past : k ≤ set.asIndex)
    (hlt : set.asIndex < MAX_SLOTS) :
  r.grown.bank? set = some (trialEntry .A 0)
  := by simp [NvBootState.bank?, grown, hlt, not_lt.mpr past]

/-- The header that a boot state starts with, in an empty buffer. -/
theorem byte_header {n : Nat} (q : UInt32) {i : Nat} (h : 8 ≤ i) :
  byte (putU32 (putU32 (zeros n) 0 MAGIC_BOOT) 4 q) i = 0
  := by
  rw [putU32, byte_put_of_disjoint _ _ (by omega), putU32,
    byte_put_of_disjoint _ _ (by omega), byte_zeros]

/-- The padding is what the further entries would be. -/
theorem serialize_grown {n : Nat} (r : OlderBootState k) (le : k ≤ MAX_SLOTS)
    (fits : NvRecord.size NvBootState ≤ n) :
  serialize r (zeros n) = serialize r.grown (zeros n)
  := by
  have fits : 8 + MAX_SLOTS * 3 ≤ n := by
    rw [mul_comm]
    apply fits
  have bound : k * 3 ≤ MAX_SLOTS * 3 := mul_le_mul_right 3 le
  apply ext_byte
  intro i hi
  simp only [serialize]
  by_cases before : i < 8
  · rw [byte_putCells_of_disjoint _ _ (.inl before), byte_putCells_of_disjoint _ _ (.inl before)]
    rfl
  · by_cases after : 8 + MAX_SLOTS * 3 ≤ i
    · rw [byte_putCells_of_disjoint _ _ (.inr after), byte_putCells_of_disjoint _ _ (by omega)]
      rfl
    · -- The byte belongs to an entry, which the older writer has or not.
      have cell : i = 8 + (i - 8) / 3 * 3 + (i - 8) % 3 := by omega
      have inside : (i - 8) / 3 < MAX_SLOTS := by omega
      have inCell : (i - 8) % 3 < 3 := mod_lt _ (by omega)
      by_cases own : (i - 8) / 3 < k
      · rw [cell, byte_putCells _ _ (by omega) ⟨_, own⟩ inCell,
          byte_putCells _ _ fits ⟨_, inside⟩ inCell]
        simp [grown, own]
      · rw [byte_putCells_of_disjoint _ _ (by omega), byte_header _ (by omega), cell,
          byte_putCells _ _ fits ⟨_, inside⟩ inCell]
        simp only [grown, Fin.getElem_fin, Vector.getElem_ofFn, own, dite_false]
        generalize (i - 8) % 3 = j at inCell
        match j, inCell with
        | 0, _ | 1, _ | 2, _ => rfl

variable (crc : List UInt8 → UInt32) (r : OlderBootState k)
include r

variable (le : k ≤ MAX_SLOTS)
include le

theorem sectorImage_grown :
  sectorImage crc r = sectorImage crc r.grown
  := by rw [sectorImage, sectorImage, serialize_grown r le (by decide)]

/-- A sector of an older writer is valid. -/
theorem decodeSector_older :
  decodeSector crc (sectorImage crc r) = some r.grown
  := by
  rw [sectorImage_grown crc r le]
  apply decodeSector_sectorImage crc (NvBootState.roundTrips _)

end OlderBootState

/-! ### A device with an older record -/

section Device

variable {crc : List UInt8 → UInt32} {dev dev' : BlockDevice} {k : Nat} {r r' : OlderBootState k}

variable (crc dev r) in
/-- The newest boot state on the device is the record `r` of a writer with `k` slots. -/
def HoldsOlder : Prop :=
  ∃ i < BOOT_SECTORS, dev.read (BOOT_OFFSET + i * SECTOR_SIZE) SECTOR_SIZE =
    .ok (sectorImage crc r) ∧
    ∀ j < BOOT_SECTORS, j ≠ i → ∀ c : NvBootState, sectorRecord crc dev BOOT_OFFSET j = some c →
      c.writeSeq < r.writeSeq

/-- A writer with `k` slots leaves its record so, as long as the last sequence number has not been
given out. -/
theorem holdsOlder_of_write
    (unused : ∀ i < BOOT_SECTORS, sectorHeader NvBootState dev BOOT_OFFSET i ≠ .live 0xFFFFFFFF)
    (ok : writeRecord crc dev BOOT_OFFSET BOOT_SECTORS r = .ok (dev', r')) :
  HoldsOlder crc dev' r'
  := by
  have ok : writeRecord crc dev bootState.region.offset bootState.region.numSectors r =
    .ok (dev', r') := ok
  have target : bootState.region.target (OlderBootState k) dev < BOOT_SECTORS :=
    Region.target_lt dev
  obtain ⟨rfl, fits, rfl⟩ := writeRecord_ok ok
  refine ⟨bootState.region.target (OlderBootState k) dev, target, ?_, ?_⟩
  · apply BlockDevice.read_store_self fits
  · intro j hj other c found
    have found : sectorRecord crc _ bootState.region.offset j = some c := found
    rw [Region.targetAt, sectorRecord_store_of_apart (bootState.region.sectors_apart other)]
      at found
    apply lt_newSeq unused hj (sectorHeader_of_sectorRecord found)

theorem readRecord_of_holdsOlder (le : k ≤ MAX_SLOTS) (holds : HoldsOlder crc dev r) :
  readRecord crc dev BOOT_OFFSET BOOT_SECTORS = some r.grown
  := by
  obtain ⟨i, hi, read, newest⟩ := holds
  have holds : HoldsNewest crc bootState.region dev i r.grown := by
    refine ⟨hi, ?_, ?_⟩
    · have read : dev.read (bootState.region.offset + i * SECTOR_SIZE) SECTOR_SIZE = _ := read
      rw [sectorRecord, read]
      apply OlderBootState.decodeSector_older crc r le
    · intro j hj c found
      by_cases same : j = i
      · exact .inl same
      · right
        apply UInt32.lt_iff_toNat_lt.mp (newest j hj same c found)
  apply readRecord_of_holdsNewest holds

/-- The slots that the writer did not have read as on trial, those past the store's own as
committed. -/
theorem slot_boot_of_holdsOlder (le : k ≤ MAX_SLOTS) (holds : HoldsOlder crc dev r) {set : BankSet}
    (past : k ≤ set.asIndex) (hlt : set.asIndex < MAX_SLOTS) :
  (((new dev).view crc).slot set).boot =
    if ((new dev).view crc).slotInRange set then some (trialEntry .A 0) else some {}
  := by
  have stored : ((new dev).view crc) = ((new dev).view crc).putBootState r.grown := by
    rw [putBootState, ← readRecord_of_holdsOlder le holds]
    rfl
  rw [stored, slot, bank?_readBootState_write, r.bank?_grown_of_le past hlt, if_pos hlt]
  rfl

end Device

/-! ### What such a slot does -/

section Slot

variable {nv nv' : NvStore} {set : BankSet} {bs : BankBootState}

variable (nv set) in
/-- The slot is one that no install has armed: it is committed on bank A, no boot counts a trial for
it or moves it to bank B, and no install finds it on trial. -/
structure Harmless : Prop where
  committed : ∃ bs, (nv.slot set).boot = some bs ∧ bs.activeBank = .A ∧ bs.committed = true
  reports : ∀ n nv', BootRun nv n nv' → ∀ faults actions nv'',
    processBootNv faults nv' = (.ok actions, nv'') → ∀ action, actions[set.asIndex]? = some action →
      action = .boot .A
  bank : ∀ n nv', BootRun nv n nv' → ∃ bs, (nv'.slot set).boot = some bs ∧ bs.activeBank = .A
  install : ∀ n nv', BootRun nv n nv' → ∀ faults imageSha256 fwCrc info single,
    (installChecked faults set imageSha256 fwCrc info single nv').1 ≠ .err .inTrial

section

variable (entry : (nv.slot set).boot = some bs)
include entry

/-- Boots leave a committed entry as it is. -/
theorem entry_of_bootRun {n : Nat} (committed : bs.committed = true) (run : BootRun nv n nv') :
  (nv'.slot set).boot = some bs
  := by
  induction run with
  | start => apply entry
  | booted _ call ih =>
    rw [(boots_of_call call).entries set (asIndex_lt_of_entry entry), ih, bootedBoot,
      bootTurn_of_committed committed]
  | failed _ call ih =>
    rcases processBootNv_boot call with ⟨_, ⟨⟩, -⟩ | ⟨-, rfl⟩
    apply ih

/-- An install into a slot finds it on trial exactly if its entry is not committed. -/
theorem installChecked_inTrial (faults : NvFaults) (imageSha256 : Buffer 32)
    (fwCrc : UInt32) (info : ImageMeta) (single : Bool) :
  (installChecked faults set imageSha256 fwCrc info single nv).1 = .err .inTrial ↔
    bs.committed = false
  := by
  obtain ⟨s, outcome, -⟩ := installChecked_outcome faults set imageSha256 fwCrc info single nv
  generalize (installChecked faults set imageSha256 fwCrc info single nv).1 = res at outcome ⊢
  cases outcome with
  | absent none => cases none.symm.trans entry
  | onTrial boot trial =>
    cases entry.symm.trans boot
    exact iff_of_true rfl trial
  | tooOld boot committed | unwritten boot committed | staged boot committed
      | armed boot committed =>
    cases entry.symm.trans boot
    exact iff_of_false nofun (by simp [committed])

/-- A slot that reads as committed on bank A is harmless. -/
theorem harmless_of_committed (onA : bs.activeBank = .A) (committed : bs.committed = true) :
  Harmless nv set
  := by
  refine ⟨⟨bs, entry, onA, committed⟩, ?_, ?_, ?_⟩
  · intro n nv' run faults actions nv'' call action found
    have entry := entry_of_bootRun entry committed run
    have boots := boots_of_call call
    have inRange : nv'.slotInRange set = true := by
      apply decide_eq_true
      rw [← boots.length]
      obtain ⟨inside, -⟩ := List.getElem?_eq_some_iff.mp found
      apply inside
    rw [boots.reports set inRange, entry, bootReport, bootTurn_of_committed committed, onA] at found
    cases found
    rfl
  · intro n nv' run
    exact ⟨bs, entry_of_bootRun entry committed run, onA⟩
  · intro n nv' run faults imageSha256 fwCrc info single refused
    have entry := entry_of_bootRun entry committed run
    have trial := (installChecked_inTrial entry faults imageSha256 fwCrc info single).mp refused
    rw [committed] at trial
    cases trial

end

variable (nv set) in
/-- The slot is taken for one on trial: every install is refused, the boots count up to the limit,
and the boot after that moves the slot to bank B. -/
structure TakenForTrial : Prop where
  entry : (nv.slot set).boot = some (trialEntry .A 0)
  install : ∀ faults imageSha256 fwCrc info single,
    (installChecked faults set imageSha256 fwCrc info single nv).1 = .err .inTrial
  counts : ∀ n nv', BootRun nv n nv' → n < MAX_TRIAL_BOOTS.toNat → ∀ faults actions nv'',
    processBootNv faults nv' = (.ok actions, nv'') →
      actions[set.asIndex]? = some (.trialBoot .A (UInt8.ofNat (n + 1)))
  moves : ∀ nv', BootRun nv MAX_TRIAL_BOOTS.toNat nv' → ∀ faults actions nv'',
    processBootNv faults nv' = (.ok actions, nv'') →
      actions[set.asIndex]? = some (.autoRollback .A .B) ∧
        (nv''.slot set).boot = some { activeBank := .B, committed := true, bootCount := 0 }

theorem takenForTrial_of_entry (entry : (nv.slot set).boot = some (trialEntry .A 0)) :
  TakenForTrial nv set
  := by
  refine ⟨entry, ?_, ?_, ?_⟩
  · intro faults imageSha256 fwCrc info single
    apply (installChecked_inTrial entry faults imageSha256 fwCrc info single).mpr rfl
  · intro n nv' run few faults actions nv'' call
    have entry := trialEntry_of_bootRun entry run (le_of_lt few)
    rw [(boots_of_call call).reports set (slotInRange_of_trialEntry entry), entry, bootReport,
      bootTurn_trialEntry .A few]
  · intro nv' run faults actions nv'' call
    have entry := trialEntry_of_bootRun entry run (le_refl _)
    have boots := boots_of_call call
    rw [boots.reports set (slotInRange_of_trialEntry entry),
      boots.entries set (asIndex_lt_of_entry entry), entry,
      bootReport, bootedBoot, bootTurn_trialEntry_max]
    exact ⟨rfl, rfl⟩

theorem TakenForTrial.not_harmless (taken : TakenForTrial nv set) :
  ¬Harmless nv set
  := by
  intro harmless
  obtain ⟨_, entry, -, committed⟩ := harmless.committed
  rw [taken.entry] at entry
  cases entry
  cases committed

end Slot

/-- The slots that an older writer did not have are harmless exactly if the store cannot address any
of them. Those that it can address are taken for slots on trial, and only those past its own are
harmless. -/
theorem older_slots_harmless_iff {crc : List UInt8 → UInt32} {dev : BlockDevice} {k : Nat}
    {r : OlderBootState k} (le : k ≤ MAX_SLOTS) (holds : HoldsOlder crc dev r) :
  ((∀ set, k ≤ set.asIndex → ((new dev).view crc).slotInRange set = true →
      Harmless ((new dev).view crc) set) ↔ (new dev).slotCount ≤ k) ∧
    (∀ set, k ≤ set.asIndex → ((new dev).view crc).slotInRange set = true →
      TakenForTrial ((new dev).view crc) set) ∧ ∀ set, k ≤ set.asIndex → set.asIndex < MAX_SLOTS →
      ((new dev).view crc).slotInRange set = false → Harmless ((new dev).view crc) set
  := by
  have taken (set : BankSet) (past : k ≤ set.asIndex)
      (inRange : ((new dev).view crc).slotInRange set = true) :
      TakenForTrial ((new dev).view crc) set := by
    have hlt : set.asIndex < MAX_SLOTS :=
      Nat.lt_of_lt_of_le (of_decide_eq_true inRange) (NvStore.slotCount_le _)
    apply takenForTrial_of_entry
    rw [slot_boot_of_holdsOlder le holds past hlt, inRange, if_pos rfl]
  refine ⟨⟨?_, ?_⟩, taken, ?_⟩
  · intro harmless
    apply Nat.le_of_not_lt
    intro more
    -- The first slot that the writer did not have.
    have few : (new dev).slotCount ≤ MAX_SLOTS := Nat.min_le_left _ _
    have small : k < 256 := by
      rw [MAX_SLOTS] at few
      omega
    have index : BankSet.asIndex ⟨UInt8.ofNat k⟩ = k := by
      rw [BankSet.asIndex, UInt8.toNat_ofNat', Nat.mod_eq_of_lt small]
    have inRange : ((new dev).view crc).slotInRange ⟨UInt8.ofNat k⟩ = true := by
      apply decide_eq_true
      rw [index]
      apply more
    apply (taken _ (Nat.le_of_eq index.symm) inRange).not_harmless
    apply harmless _ (Nat.le_of_eq index.symm) inRange
  · intro few set past inRange
    have := Nat.lt_of_lt_of_le (of_decide_eq_true inRange) few
    omega
  · intro set past hlt outside
    have entry := slot_boot_of_holdsOlder le holds past hlt
    rw [outside] at entry
    apply harmless_of_committed entry rfl rfl

/-! ### A device that was set up by a writer with five slots -/

/-- The record of a writer with five slots, all of them committed. -/
def fiveSlots : OlderBootState 5 := { banks := Vector.replicate 5 {} }

/-- A writer with five slots sets up a device that has room for a sixth. -/
theorem exists_holdsOlder_fiveSlots (crc : List UInt8 → UInt32) :
  ∃ (dev : BlockDevice) (r : OlderBootState 5), HoldsOlder crc dev r ∧
    ((new dev).view crc).slotInRange ⟨5⟩ = true ∧
    (((new dev).view crc).slot ⟨5⟩).boot = some (trialEntry .A 0)
  := by
  let size := BANKSET_BASE + 6 * BANKSET_STRIDE
  have on : bootState.region.On { size, data := zeros size } := by
    rw [Region.On]
    decide
  have written : writeRecord crc { size, data := zeros size } BOOT_OFFSET BOOT_SECTORS fiveSlots =
    _ :=
    writeRecord_eq on fiveSlots
  have nothing : Kept crc bootState.region { size, data := zeros size } 0
    (none : Option NvBootState) :=
    Kept.zeroed _ _ (by decide)
  have inRange : decide (5 < min MAX_SLOTS ((size - BANKSET_BASE) / BANKSET_STRIDE)) =
    true := by decide
  have holds := holdsOlder_of_write (fun i hi last => ?_) written
  · refine ⟨_, _, holds, inRange, ?_⟩
    rw [slot_boot_of_holdsOlder (by decide) holds (by decide) (by decide)]
    exact if_pos inRange
  · have zero : UInt32.toNat 0xFFFFFFFF ≤ 0 := nothing.bound i hi _ last
    cases zero

/-- The sixth slot reads as on trial, refuses an install, and is on bank B after eleven boots. -/
theorem sixth_slot_moves_to_B :
  ∃ (dev : BlockDevice) (r : OlderBootState 5), HoldsOlder Crc32.crc32 dev r ∧
    ((new dev).view Crc32.crc32).slotInRange ⟨5⟩ = true ∧
    (((new dev).view Crc32.crc32).slot ⟨5⟩).boot = some (trialEntry .A 0) ∧
    (installChecked noNvFault ⟨5⟩ (zeros 32) 0 {} false ((new dev).view Crc32.crc32)).1 =
      .err .inTrial ∧ ∃ nv', BootRun ((new dev).view Crc32.crc32) 11 nv' ∧
      (nv'.slot ⟨5⟩).boot = some { activeBank := .B, committed := true, bootCount := 0 }
  := by
  obtain ⟨dev, r, holds, inRange, entry⟩ := exists_holdsOlder_fiveSlots Crc32.crc32
  have taken := takenForTrial_of_entry entry
  obtain ⟨nv', run⟩ := exists_bootRun ((new dev).view Crc32.crc32) 10
  obtain ⟨actions, nv'', call⟩ := processBootNv_returns nv'
  obtain ⟨-, moved⟩ := taken.moves nv' run noNvFault actions nv'' call
  exact ⟨dev, r, holds, inRange, entry, taken.install _ _ _ _ _, nv'', run.booted call, moved⟩

theorem fiveSlots_taken_for_trial :
  ∃ (dev : BlockDevice) (r : OlderBootState 5), HoldsOlder Crc32.crc32 dev r ∧
    TakenForTrial ((new dev).view Crc32.crc32) ⟨5⟩
  := by
  obtain ⟨dev, r, holds, inRange, -⟩ := exists_holdsOlder_fiveSlots Crc32.crc32
  obtain ⟨-, taken, -⟩ := older_slots_harmless_iff (by decide) holds
  exact ⟨dev, r, holds, taken ⟨5⟩ (by decide) inRange⟩

end Nv
