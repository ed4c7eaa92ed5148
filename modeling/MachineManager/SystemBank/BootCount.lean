import MachineManager.SystemBank.Cache

/-!
# Boots of a trial

A trial is armed in one boot of the node and observed in the later ones. The header of the
transaction counts the boots in which it was observed. What it holds is a function of the history of
the trial: the boots since it was armed, and whether an observation returned in each.
-/

namespace SystemBank

open Selector Call SystemBankManager List

/-- A boot of the node, and whether the trial was observed in it. -/
structure Boot where
  id : String
  observed : Bool := false
deriving DecidableEq

/-- The boots of a trial: the one in which it was armed and, the latest first, those since then. -/
structure BootHistory where
  armed : String
  boots : List Boot := []
deriving DecidableEq

variable {id : String}

namespace BootHistory

variable (κ : Signing) (h : BootHistory)

def bootId : String :=
  h.boots.head?.elim h.armed (·.id)

/-- The number of boots, other than the arming one, in which the trial was observed. -/
def counted : Nat :=
  h.boots.countP (·.observed)

/-- The node boots. -/
def begin (id : String) : BootHistory :=
  { h with boots := { id } :: h.boots }

/-- The trial was observed in the running boot. -/
def mark : BootHistory :=
  { h with boots := h.boots.modifyHead fun b => { b with observed := true } }

/-- The header that belongs to the history. -/
def header : Transaction where
  armedBootId := bootIdDigest κ h.armed
  trialBoots := UInt8.ofNat (min 255 h.counted)
  countedBootId := (h.boots.find? (·.observed)).elim (Buffer.zeros 16) fun b => bootIdDigest κ b.id
  resolution := none

/-- The boots have different digests, of which none is zero. -/
def Distinct : Prop :=
  (Buffer.zeros 16 :: bootIdDigest κ h.armed :: h.boots.map fun b => bootIdDigest κ b.id).Nodup

/-- The digest of an id differs from those of all boots, and is not zero. -/
def Fresh (id : String) : Prop :=
  bootIdDigest κ id ≠ Buffer.zeros 16 ∧ bootIdDigest κ id ≠ bootIdDigest κ h.armed ∧
    ∀ b ∈ h.boots, bootIdDigest κ id ≠ bootIdDigest κ b.id

variable {κ h}

theorem trialBoots_header :
  (h.header κ).trialBoots.toNat = min 255 h.counted
  := by
  rw [header, UInt8.toNat_ofNat']
  omega

section

variable (distinct : h.Distinct κ)
include distinct

theorem distinct_begin (fresh : h.Fresh κ id) :
  (h.begin id).Distinct κ
  := by
  obtain ⟨nonzero, unarmed, others⟩ := fresh
  simp only [Distinct, begin, map_cons, nodup_cons, mem_cons, mem_map, not_or,
    not_exists, not_and] at distinct ⊢
  obtain ⟨⟨zero_armed, zero⟩, armed, nodup⟩ := distinct
  refine ⟨⟨zero_armed, nonzero.symm, zero⟩, ⟨unarmed.symm, armed⟩, ?_, nodup⟩
  intro b mem same
  apply others b mem same.symm

theorem distinct_mark :
  h.mark.Distinct κ
  := by
  obtain ⟨_, boots⟩ := h
  cases boots with
  | nil | cons => apply distinct

theorem armed_nonzero :
  (h.header κ).armedBootId ≠ Buffer.zeros 16
  := by
  have := (nodup_cons.mp distinct).1
  rw [mem_cons, not_or] at this
  apply Ne.symm this.1

/-- The header names the running boot if that is the arming one or was observed before, and then
there is nothing to mark. -/
theorem mark_of_named
    (named : bootIdDigest κ h.bootId = (h.header κ).armedBootId ∨
      bootIdDigest κ h.bootId = (h.header κ).countedBootId) :
  h.mark = h
  := by
  obtain ⟨armed, boots⟩ := h
  cases boots with
  | nil => rfl
  | cons b rest =>
    obtain ⟨id, observed⟩ := b
    cases observed with
    | true => rfl
    | false =>
      exfalso
      simp only [Distinct, map_cons, nodup_cons, mem_cons, mem_map, not_or, not_exists,
        not_and] at distinct
      obtain ⟨⟨-, zero, -⟩, ⟨unarmed, -⟩, others, -⟩ := distinct
      have running : (⟨armed, { id, observed := false } :: rest⟩ : BootHistory).bootId = id := rfl
      rw [running] at named
      rcases named with same | same
      · apply unarmed same.symm
      · simp only [header, find?_cons_of_neg, Bool.false_eq_true, not_false_eq_true] at same
        cases found : rest.find? (·.observed) with
        | none =>
          rw [found] at same
          apply zero same.symm
        | some b' =>
          rw [found] at same
          apply others b' (mem_of_find?_eq_some found) same.symm

end

/-- One more boot was observed. -/
theorem countBoot_header (unarmed : bootIdDigest κ h.bootId ≠ (h.header κ).armedBootId)
    (uncounted : bootIdDigest κ h.bootId ≠ (h.header κ).countedBootId) :
  countBoot (bootIdDigest κ h.bootId) (h.header κ) = h.mark.header κ
  := by
  obtain ⟨_, boots⟩ := h
  cases boots with
  | nil => apply absurd rfl unarmed
  | cons b rest =>
    obtain ⟨_, observed⟩ := b
    cases observed with
    | true => apply absurd rfl uncounted
    | false =>
      have count : (if UInt8.ofNat (min 255 (rest.countP (·.observed))) = 255 then 255
          else UInt8.ofNat (min 255 (rest.countP (·.observed))) + 1) =
          UInt8.ofNat (min 255 (rest.countP (·.observed) + 1)) := by
        split
        next full =>
          have := congrArg UInt8.toNat full
          rw [UInt8.toNat_ofNat'] at this
          have : min 255 (rest.countP (·.observed) + 1) = 255 := by
            have : (255 : UInt8).toNat = 255 := rfl
            omega
          rw [this]
          rfl
        next room =>
          have : min 255 (rest.countP (·.observed)) ≠ 255 := by
            intro eq
            rw [eq] at room
            apply room rfl
          have : min 255 (rest.countP (·.observed) + 1) = min 255
            (rest.countP (·.observed)) + 1 := by
            omega
          rw [this, UInt8.ofNat_add]
          rfl
      simp only [countBoot, header, counted, mark, modifyHead_cons, countP_cons_of_neg,
        countP_cons_of_pos, find?_cons_of_pos, Bool.false_eq_true, not_false_eq_true, count]
      rfl

end BootHistory

/-! ### Trials with a history -/

section Recorded

variable {σ : Type} {κ : Signing} {copies : σ → Copies} {S : SelectorStore σ} {start : Copies}
  {h : BootHistory} {n n' : Running σ}

/-- A trial was sealed over a committed copy, if there is one. -/
structure Copies.Trial (start : Copies) : Prop where
  differs : entriesOf start.primary ≠ entriesOf start.secondary
  above : generationOf start.secondary < generationOf start.primary

/-- The store and its manager hold the trial with its history, or what a rollback at the limit has
left of it. -/
structure Recorded (κ : Signing) (copies : σ → Copies) (start : Copies) (h : BootHistory)
    (n : Running σ) :
    Prop where
  cached : Cached (copies n.store) false n.manager
  distinct : h.Distinct κ
  trial : start.Trial
  floor : (copies n.store).secondary = start.secondary
  primary : (copies n.store).primary = if n.manager.isTrial then start.primary else start.secondary
  header : (copies n.store).headerAtPrimary =
    some (if n.manager.isTrial then h.header κ else rolledBack .trialBootLimit (h.header κ))

/-- Right after the trial was sealed, if its header landed. -/
theorem recorded_of_seal (honours : Honours copies S) {lost : Bool}
    (cached : Cached (copies n.store) lost n.manager)
    (call : sealPending κ S (some id) n = (.ok true, n')) (trial : n'.manager.isTrial = true)
    (landed : (copies n'.store).headerAtPrimary.isSome)
    (nonzero : bootIdDigest κ id ≠ Buffer.zeros 16) :
  Recorded κ copies (copies n'.store) ⟨id, []⟩ n'
  := by
  cases staged : n.manager.pending with
  | none => cases (sealPending_none staged (some id)).symm.trans call
  | some pending =>
    rcases store : S.activate pending (sealHeader κ (some id)) n.store with ⟨res, t⟩
    have eq := (sealPending_some staged store).symm.trans call
    cases res with
    | err | stopped => cases eq
    | ok =>
      cases eq
      have activated := honours.activate_ok store
      have cached' := cached.activated activated
      obtain ⟨_, header⟩ := Option.isSome_iff_exists.mp landed
      have lost : (copies t).headerAtPrimary.isNone = false := by
        rw [header]
        rfl
      rw [lost] at cached'
      have transaction := cached'.transaction
      rw [if_neg Bool.false_ne_true] at transaction
      constructor
      · apply cached'
      · simp only [BootHistory.Distinct, map_nil, nodup_cons, mem_singleton, not_mem_nil,
          not_false_eq_true, nodup_nil, and_true]
        apply nonzero.symm
      · constructor
        · have := cached'.isTrial.symm.trans trial
          rw [bne_iff_ne] at this
          apply this
        · rw [activated.secondary, activated.primary]
          apply activated.above_secondary
      · rfl
      · rw [if_pos trial]
      · rw [if_pos trial]
        apply transaction.symm

namespace Recorded

variable (recorded : Recorded κ copies start h n)

include recorded

theorem transaction :
  n.manager.transaction =
    some (if n.manager.isTrial then h.header κ else rolledBack .trialBootLimit (h.header κ))
  := by
  have eq := recorded.cached.transaction
  rw [if_neg Bool.false_ne_true] at eq
  rw [eq]
  apply recorded.header

theorem withPending (pending : Option Entries) :
  Recorded κ copies start h { n with manager := { n.manager with pending } }
  := ⟨recorded.cached.withPending pending, recorded.distinct, recorded.trial, recorded.floor,
    recorded.primary, recorded.header⟩

/-- Only what the store reads as matters of it. -/
theorem congr {t : σ} (same : copies t = copies n.store) :
  Recorded κ copies start h ⟨t, n.manager⟩
  := by
  obtain ⟨cached, distinct, trial, floor, primary, header⟩ := recorded
  rw [← same] at cached floor primary header
  exact ⟨cached, distinct, trial, floor, primary, header⟩

theorem begin (fresh : h.Fresh κ id) :
  Recorded κ copies start (h.begin id) n
  := ⟨recorded.cached, BootHistory.distinct_begin recorded.distinct fresh, recorded.trial,
    recorded.floor, recorded.primary, recorded.header⟩

variable (honours : Honours copies S)
include honours

/-- A process that starts holds the same trial. -/
theorem loaded (readable : S.readTransaction n.store = (.ok (copies n.store).header, n.store))
    {m : SystemBankManager} {t : σ} (loaded : load S n.store = (.ok m, t)) :
  Recorded κ copies start h ⟨t, m⟩ ∧ m.isTrial = n.manager.isTrial
  := by
  have primary : S.readPrimary n.store = (.ok (copies n.store).primary, n.store) := by
    rcases honours.readPrimary n.store with ok | ⟨-, e, err⟩
    · apply ok
    · rw [load, run_bind_err err] at loaded
      cases loaded
  have secondary : S.readSecondary n.store = (.ok (copies n.store).secondary, n.store) := by
    rcases honours.readSecondary n.store with ok | ⟨-, e, err⟩
    · apply ok
    · rw [load, run_bind_ok primary, run_bind_err err] at loaded
      cases loaded
  have eq := load_of_recorded primary secondary readable recorded.cached.unrecorded
  cases eq.symm.trans loaded
  have cached := recorded.cached
  have same : ((copies n.store).view (copies n.store).headerAtPrimary).isTrial =
    n.manager.isTrial := by
    rw [cached.isTrial]
    rfl
  refine ⟨⟨⟨rfl, rfl, rfl, rfl, cached.floor, cached.header, rfl⟩, recorded.distinct,
    recorded.trial, recorded.floor, ?_, ?_⟩, same⟩
  · rw [same]
    apply recorded.primary
  · rw [same]
    apply recorded.header

variable (trial : n.manager.isTrial = true)
include trial

/-- An observation in the running boot: it returns with the count of the marked history, unless the
write of the header fails, and then it changes nothing. -/
theorem observe {res : Ending SelectorError BootObservation}
    (call : observeNodeBoot κ S h.bootId n = (res, n')) :
  (∃ o, res = .ok o ∧
    (o = .alreadyCounted (h.mark.header κ).trialBoots ∨ o = .counted (h.mark.header κ).trialBoots) ∧
    Recorded κ copies start h.mark n' ∧ n'.manager.isTrial = true) ∨
  (∃ e, res = .err e ∧ n'.manager = n.manager ∧ copies n'.store = copies n.store) ∨
  res = .stopped
  := by
  have transaction := recorded.transaction
  rw [if_pos trial] at transaction
  have filtered : (n.manager.transaction.filter fun _ => n.manager.isTrial) =
    some (h.header κ) := by
    rw [transaction, Option.filter_some, if_pos trial]
  rw [observeNodeBoot, run_get_bind, filtered] at call
  dsimp only at call
  rw [if_neg (BootHistory.armed_nonzero recorded.distinct)] at call
  by_cases named : bootIdDigest κ h.bootId = (h.header κ).armedBootId ∨
      bootIdDigest κ h.bootId = (h.header κ).countedBootId
  · left
    rw [if_pos named] at call
    cases call
    rw [BootHistory.mark_of_named recorded.distinct named]
    exact ⟨_, rfl, .inl rfl, recorded, trial⟩
  · rw [if_neg named] at call
    obtain ⟨unarmed, uncounted⟩ := not_or.mp named
    rw [BootHistory.countBoot_header unarmed uncounted] at call
    rcases write : S.writeTransaction n.manager.generation
      (h.mark.header κ) n.store with ⟨answer, t⟩
    have eq := run_onStore_bind write (fun _ m => { m with transaction := some (h.mark.header κ) })
      (b := BootObservation.counted (h.mark.header κ).trialBoots)
      (k := fun _ => do
        remember fun m => { m with transaction := some (h.mark.header κ) }
        return .counted (h.mark.header κ).trialBoots) fun _ _ => rfl
    cases eq.symm.trans call
    cases answer with
    | ok =>
      left
      have landed := honours.writeTransaction_ok write
      refine ⟨_, rfl, .inr rfl, ?_, trial⟩
      have cached : Cached (copies t) false
        { n.manager with transaction := some (h.mark.header κ) } := by
        rw [landed]
        apply recorded.cached.recorded
      have trial' :
          ({ n.manager with transaction := some (h.mark.header κ) } : SystemBankManager).isTrial =
            true :=
        trial
      refine ⟨cached, BootHistory.distinct_mark recorded.distinct, recorded.trial, ?_, ?_, ?_⟩
      · show (copies t).secondary = _
        rw [landed]
        apply recorded.floor
      · show (copies t).primary = _
        rw [landed]
        apply recorded.primary
      · have header := cached.transaction
        rw [if_neg Bool.false_ne_true] at header
        show (copies t).headerAtPrimary = some (if isTrial
          { n.manager with transaction := some (h.mark.header κ) } then _ else _)
        rw [← header, if_pos trial']
    | err e =>
      right
      left
      use e, rfl, rfl, honours.writeTransaction_err write
    | stopped =>
      right
      right
      rfl

/-- A rollback at the limit. -/
theorem rollback {res : Ending SelectorError Unit}
    (call : SystemBank.rollback S .trialBootLimit n = (res, n')) :
  (res = .ok () ∧ Recorded κ copies start h n' ∧ n'.manager.isTrial = false) ∨
  (∃ e, res = .err e ∧ n'.manager = n.manager ∧ copies n'.store = copies n.store) ∨
  res = .stopped
  := by
  rcases restored : S.rollback (n.manager.rollbackHeader .trialBootLimit) n.store with ⟨answer, t⟩
  cases (rollback_trial trial restored).symm.trans call
  cases answer with
  | ok =>
    left
    obtain ⟨v, secondary, rfl, eq⟩ := honours.rollback_ok restored
    have cached := recorded.cached.restored secondary (n.manager.rollbackHeader .trialBootLimit)
    rw [← eq] at cached
    have settled : (n.manager.afterRollback v.generation
        (n.manager.rollbackHeader .trialBootLimit)).isTrial = false := by
      rw [isTrial, bne_eq_false_iff_eq]
      rfl
    refine ⟨rfl, ⟨cached, recorded.distinct, recorded.trial, ?_, ?_, ?_⟩, settled⟩
    · show (copies t).secondary = _
      rw [eq]
      apply recorded.floor
    · show (copies t).primary = if isTrial (n.manager.afterRollback _ _) then _ else _
      rw [settled, eq, ← recorded.floor, secondary]
      rfl
    · show (copies t).headerAtPrimary = some
        (if isTrial (n.manager.afterRollback _ _) then _ else _)
      rw [settled, eq]
      have header : n.manager.rollbackHeader .trialBootLimit = rolledBack .trialBootLimit
        (h.header κ) := by
        rw [rollbackHeader, recorded.transaction, if_pos trial]
        rfl
      apply Copies.headerAtPrimary_eq_some
      rw [header]
      rfl
  | err e =>
    right
    left
    use e, rfl, rfl, honours.rollback_err restored
  | stopped =>
    right
    right
    rfl

end Recorded

end Recorded

end SystemBank
