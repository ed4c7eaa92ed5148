import MachineManager.Component.Disable

/-!
# The cached answer whether a component is disabled

The answer is derived from the bank that the component serves from, the generation that NV has for
it, and the record in the bank. It is kept until the cache is cleared, which every write to NV does
before it releases NV. A call that finds no answer reads the epoch of the cache, NV and the record,
with nothing held in between, and keeps its answer only if the epoch is still the same.

So an answer that is found was derived after the last clear (`admin_state_current`), unless the
epoch, a counter of 64 bits, comes back to its value while a call is under way (`epoch_comes_back`).
-/

namespace ComponentMgr

open Nv Function Reachable

/-- What the answer is derived from: the bank that the component serves from, the generations in NV,
and the records of the banks. -/
structure AdminFacts where
  serving : Bank
  gen : Bank → Option UInt64
  record : Bank → Except BankError (Option UInt64)

/-- A record disables the component if it has the generation of NV. -/
def isDisabledAt (expectedGen : Option UInt64) : Option UInt64 → Bool
  | some gen => some gen == expectedGen
  | none => false

/-- The answer for a bank whose record can be read. -/
def AdminFacts.Derives (facts : AdminFacts) (bank : Bank) (disabled : Bool) : Prop :=
  ∃ record, facts.record bank = .ok record ∧ isDisabledAt (facts.gen bank) record = disabled

def DisableBackend.facts {σ β δ : Type} (b : DisableBackend) (s : Premises σ β δ) : AdminFacts :=
  { serving := b.servingBank s.desk.here
    gen := b.genOf s.desk.here
    record := fun bank => .ok (s.records bank) }

/-- What is derived is whether the component is disabled. -/
theorem DisableBackend.derives_adminDisabled {σ β δ : Type} {b : DisableBackend}
    {s : Premises σ β δ} (able : b.deactivator = true) :
  (b.facts s).Derives (b.facts s).serving (b.adminDisabled s)
  := by
  refine ⟨s.records (b.servingBank s.desk.here), rfl, ?_⟩
  rw [adminDisabled, able, Bool.true_and]
  cases s.records (b.servingBank s.desk.here) with
  | none => rfl
  | some =>
    rw [isDisabledAt, Option.any_some, Bool.eq_iff_iff, beq_iff_eq, decide_eq_true_iff]
    exact eq_comm

structure AdminStateCache where
  epoch : UInt64 := 0
  value : Option (Bank × Bool) := none

namespace AdminStateCache

def clear (cache : AdminStateCache) : AdminStateCache :=
  { epoch := cache.epoch + 1, value := none }

def storeIfEpoch (cache : AdminStateCache) (observed : UInt64) (bank : Bank) (disabled : Bool) :
    AdminStateCache :=
  if cache.epoch = observed then { cache with value := some (bank, disabled) } else cache

end AdminStateCache

/-- How far a call of `admin_disabled` has come: the bank is known, the cache has no answer, the
generation was read, the record is being read, and the answer is known. -/
inductive AdminPhase
  | called
  | serving (bank : Bank)
  | missed (bank : Bank) (observed : UInt64)
  | expecting (bank : Bank) (observed : UInt64) (expectedGen : Option UInt64)
  | reading (bank : Bank) (observed : UInt64) (expectedGen : Option UInt64) (began : ℕ)
  | derived (bank : Bank) (observed : UInt64) (disabled : Bool)
  | returned (disabled : Bool)

/-- A call, with the number of clears before it, and the number of changes before the last of
these. -/
structure AdminCall where
  phase : AdminPhase := .called
  since : ℕ
  settled : ℕ

/-- How far a thread has come that writes to NV. One that disables the component writes a record
first, and clears the cache once more at its end. -/
inductive WriterPhase
  | admitted (bank : Bank) (gen : UInt64)
  | recorded (bank : Bank) (gen : UInt64)
  | locked (ratchet : Option (Bank × UInt64))
  | refreshed (enacts : Bool)
  | released

/-- What the calls share, and what is on record of the run: how often what they read has changed,
how often the cache was cleared, and how many of the changes came before the last clear. -/
structure Station where
  facts : AdminFacts
  cache : AdminStateCache := {}
  nvHolder : Option ℕ := none
  calls : ℕ → Option AdminCall := fun _ => none
  writers : ℕ → Option WriterPhase := fun _ => none
  changes : ℕ := 0
  clears : ℕ := 0
  base : ℕ := 0

variable {disableable : Bool} {s : Station} {call : AdminCall}

namespace Station

variable (s : Station)

def change (facts : AdminFacts) : Station :=
  { s with facts, changes := s.changes + 1 }

def clear : Station :=
  { s with cache := s.cache.clear, clears := s.clears + 1, base := s.changes }

def setCall (c : ℕ) (call : AdminCall) : Station :=
  { s with calls := update s.calls c (some call) }

def setWriter (w : ℕ) (phase : Option WriterPhase) : Station :=
  { s with writers := update s.writers w phase }

/-- What the call does from one point to the next at which another thread can come in between, if it
is not waiting for NV. What `disabled_record` returns is given. -/
def adminDisabled (disableable : Bool) (read : Except BankError (Option UInt64)) :
    AdminPhase → Option (AdminPhase × AdminStateCache)
  | .called =>
    if !disableable then some (.returned false, s.cache)
    else some (.serving s.facts.serving, s.cache)
  | .serving bank =>
    match s.cache.value with
    | some (cachedBank, disabled) =>
      if cachedBank = bank then some (.returned disabled, s.cache)
      else some (.missed bank s.cache.epoch, s.cache)
    | none => some (.missed bank s.cache.epoch, s.cache)
  | .missed bank observed =>
    if s.nvHolder.isSome then none
    else some (.expecting bank observed (s.facts.gen bank), s.cache)
  | .expecting bank observed expectedGen =>
    some (.reading bank observed expectedGen s.changes, s.cache)
  | .reading bank observed expectedGen _ =>
    match read with
    | .ok record => some (.derived bank observed (isDisabledAt expectedGen record), s.cache)
    | .error _ => some (.returned false, s.cache)
  | .derived bank observed disabled =>
    some (.returned disabled, s.cache.storeIfEpoch observed bank disabled)
  | .returned _ => none

/-- A record consists of two files. It is read as it is if nothing changes meanwhile. -/
def Reads (phase : AdminPhase) (read : Except BankError (Option UInt64)) : Prop :=
  ∀ bank observed expectedGen, phase = .reading bank observed expectedGen s.changes →
    read = s.facts.record bank

/-- A call begins or takes its next step, a thread that writes to NV does, or something else changes
the record of a bank or the bank that the component serves from. -/
inductive Step (disableable : Bool) : Station → Station → Prop
  | call {s : Station} {c : ℕ} (free : s.calls c = none) :
      Step disableable s (s.setCall c { since := s.clears, settled := s.base })
  | admin {s : Station} {c : ℕ} {call : AdminCall} {read : Except BankError (Option UInt64)}
      {phase : AdminPhase} {cache : AdminStateCache} (found : s.calls c = some call)
      (reads : s.Reads call.phase read)
      (run : s.adminDisabled disableable read call.phase = some (phase, cache)) :
      Step disableable s (setCall { s with cache } c { call with phase })
  | serves {s : Station} (serving : Bank) : Step disableable s (s.change { s.facts with serving })
  | seals {s : Station} (bank : Bank) (record : Except BankError (Option UInt64)) :
      Step disableable s (s.change { s.facts with record := update s.facts.record bank record })
  | admits {s : Station} {w : ℕ} (free : s.writers w = none) (bank : Bank) (gen : UInt64) :
      Step disableable s (s.setWriter w (some (.admitted bank gen)))
  | records {s : Station} {w : ℕ} {bank : Bank} {gen : UInt64}
      (found : s.writers w = some (.admitted bank gen)) :
      Step disableable s
        ((s.change { s.facts with
            record := update s.facts.record bank (.ok (some gen)) }).setWriter w
          (some (.recorded bank gen)))
  | locksRatchet {s : Station} {w : ℕ} {bank : Bank} {gen : UInt64}
      (found : s.writers w = some (.recorded bank gen)) (free : s.nvHolder = none) :
      Step disableable s
        (setWriter { s with nvHolder := some w } w (some (.locked (some (bank, gen)))))
  | locks {s : Station} {w : ℕ} (idle : s.writers w = none) (free : s.nvHolder = none) :
      Step disableable s (setWriter { s with nvHolder := some w } w (some (.locked none)))
  | ratchets {s : Station} {w : ℕ} {bank : Bank} {gen : UInt64}
      (found : s.writers w = some (.locked (some (bank, gen)))) (known : s.facts.gen bank ≠ none) :
      Step disableable s (s.change { s.facts with gen := update s.facts.gen bank (some gen) })
  | writes {s : Station} {w : ℕ} (found : s.writers w = some (.locked none))
      (gen : Bank → Option UInt64) : Step disableable s (s.change { s.facts with gen })
  | refreshes {s : Station} {w : ℕ} {ratchet : Option (Bank × UInt64)}
      (found : s.writers w = some (.locked ratchet)) :
      Step disableable s (s.clear.setWriter w (some (.refreshed ratchet.isSome)))
  | releases {s : Station} {w : ℕ} {enacts : Bool}
      (found : s.writers w = some (.refreshed enacts)) :
      Step disableable s
        (setWriter { s with nvHolder := none } w (if enacts then some .released else none))
  | clears {s : Station} {w : ℕ} (found : s.writers w = some .released) :
      Step disableable s (s.clear.setWriter w none)
  | leaves {s : Station} {w : ℕ} (outside : s.nvHolder ≠ some w) :
      Step disableable s (s.setWriter w none)

/-- Nothing has happened yet, and the cache is empty. -/
def Starts : Prop :=
  s.cache = {} ∧ s.nvHolder = none ∧ (∀ c, s.calls c = none) ∧ (∀ w, s.writers w = none) ∧
    s.changes = 0 ∧ s.clears = 0 ∧ s.base = 0

/-- Since a call that is under way has begun, the cache was cleared less than 2 ^ 64 times. -/
def Unwrapped : Prop :=
  ∀ c call, s.calls c = some call → (∀ disabled, call.phase ≠ .returned disabled) →
    s.clears - call.since < 2 ^ 64

def Runs (disableable : Bool) : Station → Prop :=
  Reachable Starts fun s t => Step disableable s t ∧ t.Unwrapped

/-! ### What a call knows -/

/-- What the call has read is still so: the cache was not cleared since the call has looked, after
so many clears, and nothing has changed since the last clear, or nothing has changed since the clear
before the call. -/
def Live (call : AdminCall) (n : ℕ) : Prop :=
  n = s.clears ∧ s.changes = s.base ∨ s.changes = call.settled

/-- The call has looked at the cache and found no answer. If what it has read is still so, then
`P`. -/
def Looked (call : AdminCall) (bank : Bank) (observed : UInt64) (P : Prop) : Prop :=
  ∃ n, call.since ≤ n ∧ n ≤ s.clears ∧ observed = UInt64.ofNat n ∧
    (s.changes = call.settled → bank = s.facts.serving) ∧ (s.Live call n → P)

def Knows (disableable : Bool) (call : AdminCall) : AdminPhase → Prop
  | .called => True
  | .serving bank => disableable = true ∧ (s.changes = call.settled → bank = s.facts.serving)
  | .missed bank observed => disableable = true ∧ s.Looked call bank observed True
  | .expecting bank observed expectedGen =>
    disableable = true ∧ s.Looked call bank observed (expectedGen = s.facts.gen bank)
  | .reading bank observed expectedGen began =>
    disableable = true ∧ s.Looked call bank observed
      (expectedGen = s.facts.gen bank ∧ began = s.changes)
  | .derived bank observed disabled =>
    disableable = true ∧ s.Looked call bank observed (s.facts.Derives bank disabled)
  | .returned disabled =>
    if disableable then s.changes = call.settled →
      (∃ record, s.facts.record s.facts.serving = .ok record) →
      s.facts.Derives s.facts.serving disabled
    else disabled = false

/-- What holds in every run: the epoch is the number of clears, an answer in the cache is the
current one if nothing has changed since the last clear, and a call knows what it should. -/
structure Inv (disableable : Bool) (s : Station) : Prop where
  epoch : s.cache.epoch = UInt64.ofNat s.clears
  ordered : s.base ≤ s.changes
  cached : ∀ bank disabled, s.cache.value = some (bank, disabled) → s.changes = s.base →
    s.facts.Derives bank disabled
  begun : ∀ c call, s.calls c = some call → call.since ≤ s.clears ∧ call.settled ≤ s.base
  knows : ∀ c call, s.calls c = some call → s.Knows disableable call call.phase

/-! ### What other threads leave as it is -/

/-- The one state is later than the other. What is still so in the later one was so in the other,
and nothing has changed in between. -/
structure Later (s t : Station) : Prop where
  clears : s.clears ≤ t.clears
  base : s.base ≤ t.base
  same : ∀ call : AdminCall, ∀ n, n ≤ s.clears → call.settled ≤ s.base → t.Live call n →
    s.Live call n ∧ t.facts = s.facts ∧ t.changes = s.changes

variable {s} {t : Station}

theorem Later.refl :
  Later s s
  := ⟨le_rfl, le_rfl, fun _ _ _ _ live => ⟨live, rfl, rfl⟩⟩

/-- After a change nothing that was read is still so. -/
theorem later_change (ordered : s.base ≤ s.changes) (facts : AdminFacts) :
  Later s (s.change facts)
  := by
  refine ⟨le_rfl, le_rfl, fun call n _ settled live => ?_⟩
  rcases live with ⟨-, unchanged⟩ | unchanged
  · simp only [change] at unchanged
    omega
  · simp only [change] at unchanged
    omega

/-- After a clear nothing that was found before is in the cache. -/
theorem later_clear (ordered : s.base ≤ s.changes) :
  Later s s.clear
  := by
  refine ⟨Nat.le_succ _, ordered, fun call n looked _ live => ?_⟩
  rcases live with ⟨now, -⟩ | unchanged
  · simp only [clear] at now
    omega
  · exact ⟨.inr unchanged, rfl, rfl⟩

variable {bank : Bank} {observed : UInt64} {phase : AdminPhase} {c : ℕ}

theorem Looked.later {P Q : Prop} (h : s.Looked call bank observed P) (later : Later s t)
    (settled : call.settled ≤ s.base)
    (follows : t.facts = s.facts → t.changes = s.changes → P → Q) :
  t.Looked call bank observed Q
  := by
  obtain ⟨n, since, upto, rfl, serving, live⟩ := h
  refine ⟨n, since, upto.trans later.clears, rfl, ?_, ?_⟩
  · intro unchanged
    obtain ⟨-, facts, changes⟩ := later.same call n upto settled (.inr unchanged)
    rw [facts]
    exact serving (changes.symm.trans unchanged)
  · intro live'
    obtain ⟨live'', facts, changes⟩ := later.same call n upto settled live'
    exact follows facts changes (live live'')

/-- What a call knows, it knows later on. -/
theorem Knows.later (knows : s.Knows disableable call phase) (later : Later s t)
    (settled : call.settled ≤ s.base) :
  t.Knows disableable call phase
  := by
  have still : t.changes = call.settled → t.facts = s.facts ∧ s.changes = call.settled := by
    intro unchanged
    obtain ⟨-, facts, changes⟩ := later.same call s.clears le_rfl settled (.inr unchanged)
    exact ⟨facts, changes.symm.trans unchanged⟩
  cases phase with
  | called => trivial
  | serving =>
    refine ⟨knows.1, fun unchanged => ?_⟩
    obtain ⟨facts, unchanged'⟩ := still unchanged
    rw [facts]
    exact knows.2 unchanged'
  | missed => exact ⟨knows.1, knows.2.later later settled fun _ _ => id⟩
  | expecting =>
    refine ⟨knows.1, knows.2.later later settled fun facts _ read => ?_⟩
    rw [facts, read]
  | reading =>
    refine ⟨knows.1, knows.2.later later settled fun facts changes read => ?_⟩
    rw [facts, changes]
    exact read
  | derived =>
    refine ⟨knows.1, knows.2.later later settled fun facts _ derives => ?_⟩
    rw [facts]
    exact derives
  | returned =>
    simp only [Knows] at knows ⊢
    split_ifs at knows ⊢ with able
    · intro unchanged readable
      obtain ⟨facts, unchanged'⟩ := still unchanged
      rw [facts] at readable ⊢
      exact knows unchanged' readable
    · exact knows

section

variable (inv : Inv disableable s)
include inv

/-- A step in which no call takes part keeps the invariant. -/
theorem Inv.later (later : Later s t) (calls : t.calls = s.calls)
    (epoch : t.cache.epoch = UInt64.ofNat t.clears) (ordered : t.base ≤ t.changes)
    (cached : ∀ bank disabled, t.cache.value = some (bank, disabled) → t.changes = t.base →
      t.facts.Derives bank disabled) :
  Inv disableable t
  := by
  refine ⟨epoch, ordered, cached, ?_, ?_⟩
  · intro c call found
    rw [calls] at found
    obtain ⟨since, settled⟩ := inv.begun c call found
    exact ⟨since.trans later.clears, settled.trans later.base⟩
  · intro c call found
    rw [calls] at found
    exact (inv.knows c call found).later later (inv.begun c call found).2

theorem Inv.change (facts : AdminFacts) :
  Inv disableable (s.change facts)
  := by
  refine inv.later (later_change inv.ordered facts) rfl inv.epoch
    (inv.ordered.trans (Nat.le_succ _)) ?_
  intro bank disabled _ unchanged
  have ordered := inv.ordered
  simp only [Station.change] at unchanged
  omega

theorem Inv.clear :
  Inv disableable s.clear
  := by
  refine inv.later (later_clear inv.ordered) rfl ?_ le_rfl nofun
  simp only [Station.clear, AdminStateCache.clear, inv.epoch, UInt64.ofNat_add]
  rfl

theorem Inv.setWriter (w : ℕ) (phase : Option WriterPhase) :
  Inv disableable (s.setWriter w phase)
  := ⟨inv.epoch, inv.ordered, inv.cached, inv.begun, inv.knows⟩

theorem Inv.setHolder (holder : Option ℕ) :
  Inv disableable { s with nvHolder := holder }
  := ⟨inv.epoch, inv.ordered, inv.cached, inv.begun, inv.knows⟩

/-- A call that begins, or knows what it should in its next phase. -/
theorem Inv.setCall (since : call.since ≤ s.clears) (settled : call.settled ≤ s.base)
    (knows : s.Knows disableable call call.phase) :
  Inv disableable (s.setCall c call)
  := by
  refine ⟨inv.epoch, inv.ordered, inv.cached, ?_, ?_⟩
  · intro c' call' found
    simp only [Station.setCall, update_apply] at found
    split_ifs at found with same
    · cases found
      exact ⟨since, settled⟩
    · exact inv.begun c' call' found
  · intro c' call' found
    simp only [Station.setCall, update_apply] at found
    split_ifs at found with same
    · cases found
      exact knows
    · exact inv.knows c' call' found

/-! ### The steps of a call -/

/-- The epoch that a call has observed is the current one only if the cache was not cleared
since. -/
theorem clears_eq_of_epoch {n : ℕ} (upto : n ≤ s.clears) (few : s.clears - n < 2 ^ 64)
    (same : s.cache.epoch = UInt64.ofNat n) :
  n = s.clears
  := by
  have value := congrArg UInt64.toNat (inv.epoch.symm.trans same)
  simp only [UInt64.toNat_ofNat'] at value
  omega

/-- Nothing has changed since the clear before the call, so nothing has changed since the last
clear. -/
theorem Inv.unchanged (found : s.calls c = some call) (unchanged : s.changes = call.settled) :
  s.changes = s.base
  := by
  have ordered := inv.ordered
  have settled := (inv.begun c call found).2
  omega

/-- A call keeps an answer that is the current one if nothing has changed since the last clear. -/
theorem Inv.store {disabled : Bool}
    (looked : s.Looked call bank observed (s.facts.Derives bank disabled))
    (few : s.clears - call.since < 2 ^ 64) :
  Inv disableable { s with cache := s.cache.storeIfEpoch observed bank disabled }
  := by
  obtain ⟨n, _, upto, rfl, -, live⟩ := looked
  unfold AdminStateCache.storeIfEpoch
  split_ifs with same
  · refine ⟨inv.epoch, inv.ordered, ?_, inv.begun, inv.knows⟩
    rintro _ _ ⟨⟩ unchanged
    exact live (.inl ⟨clears_eq_of_epoch inv upto (by omega) same, unchanged⟩)
  · exact inv

/-- A step of a call keeps the invariant, and the call knows what it should in its next phase. -/
theorem Inv.adminDisabled (found : s.calls c = some call) (unwrapped : s.Unwrapped)
    {read : Except BankError (Option UInt64)} (reads : s.Reads call.phase read)
    {cache : AdminStateCache}
    (run : s.adminDisabled disableable read call.phase = some (phase, cache)) :
  Inv disableable { s with cache } ∧ Knows { s with cache } disableable call phase
  := by
  obtain ⟨since, settled⟩ := inv.begun c call found
  have knows := inv.knows c call found
  have few := unwrapped c call found
  generalize call.phase = current at reads run knows few
  cases current with
  | called =>
    simp only [Station.adminDisabled] at run
    split_ifs at run with able
    · cases run
      refine ⟨inv, ?_⟩
      simp only [Knows, if_neg (show ¬disableable = true by simpa using able)]
    · cases run
      exact ⟨inv, by simpa using able, fun _ => rfl⟩
  | serving bank =>
    have missed : s.Looked call bank s.cache.epoch True :=
      ⟨s.clears, since, le_rfl, inv.epoch, knows.2, fun _ => trivial⟩
    simp only [Station.adminDisabled] at run
    split at run
    · next cachedBank disabled cached =>
      split_ifs at run with same
      · cases run
        refine ⟨inv, ?_⟩
        simp only [Knows, if_pos knows.1]
        intro unchanged _
        rw [← knows.2 unchanged, ← same]
        exact inv.cached _ _ cached (inv.unchanged found unchanged)
      · cases run
        exact ⟨inv, knows.1, missed⟩
    · cases run
      exact ⟨inv, knows.1, missed⟩
  | missed =>
    simp only [Station.adminDisabled] at run
    split_ifs at run
    cases run
    exact ⟨inv, knows.1, knows.2.later .refl settled fun _ _ _ => rfl⟩
  | expecting =>
    cases run
    exact ⟨inv, knows.1, knows.2.later .refl settled fun _ _ read => ⟨read, rfl⟩⟩
  | reading bank observed =>
    obtain ⟨able, looked⟩ := knows
    simp only [Station.adminDisabled] at run
    split at run
    · next record =>
      cases run
      refine ⟨inv, able, looked.later .refl settled ?_⟩
      rintro - - ⟨rfl, rfl⟩
      exact ⟨record, (reads bank observed _ rfl).symm, rfl⟩
    · next =>
      cases run
      refine ⟨inv, ?_⟩
      simp only [Knows, if_pos able]
      rintro unchanged ⟨record, readable⟩
      obtain ⟨n, -, -, -, serving, live⟩ := looked
      obtain ⟨-, rfl⟩ := live (.inr unchanged)
      have failed := reads bank observed _ rfl
      rw [serving unchanged, readable] at failed
      cases failed
  | derived =>
    cases run
    refine ⟨inv.store knows.2 (few nofun), ?_⟩
    simp only [Knows, if_pos knows.1]
    intro unchanged _
    obtain ⟨n, -, -, -, serving, live⟩ := knows.2
    rw [← serving unchanged]
    exact live (.inr unchanged)
  | returned => cases run

end

theorem Starts.inv (starts : s.Starts) :
  Inv disableable s
  := by
  obtain ⟨cache, -, calls, -, changes, clears, base⟩ := starts
  constructor
  case epoch =>
    rw [cache, clears]
    rfl
  case ordered => rw [base, changes]
  case cached =>
    rw [cache]
    nofun
  case begun =>
    intro c call found
    rw [calls c] at found
    cases found
  case knows =>
    intro c call found
    rw [calls c] at found
    cases found

theorem Starts.unwrapped (starts : s.Starts) :
  s.Unwrapped
  := by
  intro c call found
  rw [starts.2.2.1 c] at found
  cases found

/-- Every step keeps the invariant. -/
theorem Inv.step (inv : Inv disableable s) (unwrapped : s.Unwrapped) (step : Step disableable s t) :
  Inv disableable t
  := by
  cases step with
  | call => exact inv.setCall le_rfl le_rfl trivial
  | admin found reads run =>
    obtain ⟨inv', knows⟩ := inv.adminDisabled found unwrapped reads run
    obtain ⟨since, settled⟩ := inv.begun _ _ found
    exact inv'.setCall since settled knows
  | serves | seals | ratchets | writes => exact inv.change _
  | admits | leaves => exact inv.setWriter _ _
  | records => exact (inv.change _).setWriter _ _
  | locksRatchet | locks | releases => exact (inv.setHolder _).setWriter _ _
  | refreshes | clears => exact inv.clear.setWriter _ _

theorem Runs.inv (run : Runs disableable s) :
  Inv disableable s
  := by
  have both := invariant (P := fun s => Inv disableable s ∧ s.Unwrapped)
    (fun _ starts => ⟨starts.inv, starts.unwrapped⟩)
    (fun _ _ before step => ⟨before.1.step before.2 step.1, step.2⟩) run
  exact both.1

end Station

def AdminPhase.left : AdminPhase → ℕ
  | called => 6
  | serving _ => 5
  | missed _ _ => 4
  | expecting _ _ _ => 3
  | reading _ _ _ _ => 2
  | derived _ _ _ => 1
  | returned _ => 0

namespace Station

theorem Step.clears_le {t : Station} (step : Step disableable s t) :
  s.clears ≤ t.clears
  := by
  cases step with
  | refreshes | clears => exact Nat.le_succ _
  | _ => exact le_rfl

/-- A run in which the cache was cleared less than 2 ^ 64 times. -/
theorem Runs.of_reachable (reached : Reachable Starts (Step disableable) s)
    (few : s.clears < 2 ^ 64) :
  Runs disableable s
  := by
  induction reached with
  | init starts => exact .init starts
  | step _ step ih =>
    refine .step (ih (step.clears_le.trans_lt few)) ⟨step, ?_⟩
    intro c call _ _
    exact (Nat.sub_le _ _).trans_lt few

open AdminPhase

/-- A call that has not returned can take its next step unless NV is held. -/
theorem exists_step {c : ℕ} (found : s.calls c = some call)
    (under : ∀ disabled, call.phase ≠ .returned disabled) (free : s.nvHolder = none) :
  ∃ t call', Step disableable s t ∧ t.calls c = some call' ∧ call'.phase.left < call.phase.left
  := by
  have moves : ∃ read phase cache, s.Reads call.phase read ∧
      s.adminDisabled disableable read call.phase = some (phase, cache) ∧
      phase.left < call.phase.left := by
    generalize call.phase = current at under
    cases current with
    | called =>
      cases disableable
      · exact ⟨.ok none, _, _, nofun, rfl, by decide⟩
      · exact ⟨.ok none, _, _, nofun, rfl, by simp [left]⟩
    | serving bank =>
      rcases cached : s.cache.value with _ | ⟨cachedBank, disabled⟩
      · refine ⟨.ok none, .missed bank s.cache.epoch, s.cache, nofun, ?_, by simp [left]⟩
        simp only [adminDisabled, cached]
      · by_cases same : cachedBank = bank
        · refine ⟨.ok none, .returned disabled, s.cache, nofun, ?_, by simp [left]⟩
          simp only [adminDisabled, cached, if_pos same]
        · refine ⟨.ok none, .missed bank s.cache.epoch, s.cache, nofun, ?_, by simp [left]⟩
          simp only [adminDisabled, cached, if_neg same]
    | missed bank observed =>
      refine ⟨.ok none, .expecting bank observed (s.facts.gen bank), s.cache, nofun, ?_,
        by simp [left]⟩
      rw [adminDisabled, free]
      rfl
    | expecting =>
      exact ⟨.ok none, _, _, nofun, rfl, by simp [left]⟩
    | reading bank observed expectedGen began =>
      have reads : s.Reads (.reading bank observed expectedGen began) (s.facts.record bank) := by
        rintro _ _ _ ⟨⟩
        rfl
      cases record : s.facts.record bank with
      | ok record | error e => exact ⟨_, _, _, record ▸ reads, rfl, by simp [left]⟩
    | derived => exact ⟨.ok none, _, _, nofun, rfl, by simp [left]⟩
    | returned disabled => exact absurd rfl (under disabled)
  obtain ⟨_, phase, _, reads, run, fewer⟩ := moves
  exact ⟨_, { call with phase }, .admin found reads run, update_self .., fewer⟩

end Station

/-- In every run in which the cache is cleared less than 2 ^ 64 times while a call is under way: if
nothing has changed since the last clear before a call, and the record of the bank that the
component serves from can be read, then the call returns what is derived from the bank. Until it
returns, it takes at most six steps, and each as soon as NV is free. -/
theorem admin_state_current {s : Station} {disableable : Bool}
    (run : Station.Runs disableable s) {c : ℕ} {call : AdminCall} (found : s.calls c = some call) :
  (∀ disabled, call.phase = .returned disabled →
    if disableable then
      s.changes = call.settled → (∃ record, s.facts.record s.facts.serving = .ok record) →
        s.facts.Derives s.facts.serving disabled
    else disabled = false) ∧
  (call.phase.left ≤ 6 ∧ ((∀ disabled, call.phase ≠ .returned disabled) → s.nvHolder = none →
      ∃ t call', Station.Step disableable s t ∧ t.calls c = some call' ∧
        call'.phase.left < call.phase.left))
  := by
  refine ⟨?_, ?_, Station.exists_step found⟩
  · intro disabled returned
    have knows := run.inv.knows c call found
    rwa [returned] at knows
  · cases call.phase <;> simp [AdminPhase.left]

/-! ### When the epoch comes back -/

namespace Station

variable {w : ℕ}

/-- A thread takes NV and releases it again, any number of times. -/
theorem reachable_clears (n : ℕ) (reached : Reachable Starts (Step disableable) s)
    (free : s.nvHolder = none)
    (idle : s.writers w = none) (settled : s.base = s.changes) (empty : s.cache.value = none) :
  Reachable Starts (Step disableable)
    { s with
      cache := { epoch := s.cache.epoch + UInt64.ofNat n, value := none }
      clears := s.clears + n }
  := by
  induction n with
  | zero =>
    have same : s.cache = { epoch := s.cache.epoch + UInt64.ofNat 0, value := none } := by
      rw [← empty, show UInt64.ofNat 0 = 0 from rfl, UInt64.add_zero]
    rw [← same]
    exact reached
  | succ n ih =>
    have locked := step ih (.locks (w := w) idle free)
    have refreshed := step locked (.refreshes (update_self ..))
    have released := step refreshed (.releases (update_self ..))
    have writers : update (update (update s.writers w (some (.locked none))) w
        (some (.refreshed false))) w none = s.writers := by
      rw [update_idem, update_idem, ← idle, update_eq_self]
    have epoch : s.cache.epoch + UInt64.ofNat (n + 1) = s.cache.epoch + UInt64.ofNat n + 1 := by
      rw [UInt64.ofNat_add, UInt64.add_assoc]
      rfl
    simp only [setWriter, clear, AdminStateCache.clear, Option.isSome_none,
      Bool.false_eq_true, if_false, writers, ← free] at released
    rw [epoch, settled]
    exact released

/-- A call takes a step that leaves the cache as it is. -/
theorem reachable_admin {c since settled : ℕ} {p q : AdminPhase}
    (read : Except BankError (Option UInt64))
    (reached : Reachable Starts (Step disableable) (s.setCall c ⟨p, since, settled⟩))
    (reads : s.Reads p read) (run : s.adminDisabled disableable read p = some (q, s.cache)) :
  Reachable Starts (Step disableable) (s.setCall c ⟨q, since, settled⟩)
  := by
  have next := reached.step (.admin (update_self ..) reads run)
  simp only [setCall, update_idem] at next
  exact next

/-- A call that begins while the cache is empty and NV is free derives its answer. -/
theorem reachable_derived {c since settled : ℕ} {record : Option UInt64}
    (reached : Reachable Starts (Step true) (s.setCall c ⟨.called, since, settled⟩))
    (empty : s.cache.value = none) (free : s.nvHolder = none)
    (readable : s.facts.record s.facts.serving = .ok record) :
  Reachable Starts (Step true) (s.setCall c ⟨.derived s.facts.serving s.cache.epoch
      (isDisabledAt (s.facts.gen s.facts.serving) record), since, settled⟩)
  := by
  have serving : s.adminDisabled true (.ok none) .called = some
    (.serving s.facts.serving, s.cache) :=
    rfl
  have missed : s.adminDisabled true (.ok none) (.serving s.facts.serving) =
      some (.missed s.facts.serving s.cache.epoch, s.cache) := by
    simp only [adminDisabled, empty]
  have expecting : s.adminDisabled true (.ok none) (.missed s.facts.serving s.cache.epoch) =
      some (.expecting s.facts.serving s.cache.epoch (s.facts.gen s.facts.serving), s.cache) := by
    rw [adminDisabled, free]
    rfl
  have looked := reachable_admin _ (reachable_admin _ reached nofun serving) nofun missed
  have reading := reachable_admin (.ok none) (reachable_admin _ looked nofun expecting) nofun rfl
  refine reachable_admin (.ok record) reading ?_ rfl
  rintro _ _ _ ⟨⟩
  exact readable.symm

/-- A call disables the component. -/
theorem reachable_enacts (reached : Reachable Starts (Step disableable) s)
    (free : s.nvHolder = none)
    (idle : s.writers w = none) {bank : Bank} (known : s.facts.gen bank ≠ none) (gen : UInt64) :
  Reachable Starts (Step disableable)
    { s with
      facts :=
        { s.facts with
          gen := update s.facts.gen bank (some gen)
          record := update s.facts.record bank (.ok (some gen)) }
      cache := s.cache.clear.clear
      changes := s.changes + 2, clears := s.clears + 2, base := s.changes + 2 }
  := by
  have admitted := reached.step (.admits idle bank gen)
  have recorded := admitted.step (.records (update_self ..))
  have locked := recorded.step (.locksRatchet (update_self ..) free)
  have ratcheted := locked.step (.ratchets (update_self ..) known)
  have refreshed := ratcheted.step (.refreshes (update_self ..))
  have released := refreshed.step (.releases (update_self ..))
  have cleared := released.step (.clears (update_self ..))
  have writers : update s.writers w none = s.writers := by
    rw [← idle, update_eq_self]
  simp only [setWriter, change, clear, update_idem, writers] at cleared
  rw [free]
  exact cleared

namespace Bench

/-- The component serves from the first bank, of the first generation, without a record. -/
def start : Station :=
  { facts := { serving := .A, gen := fun _ => some 1, record := fun _ => .ok none } }

def disabled : AdminFacts :=
  { serving := .A
    gen := update (fun _ => some 1) .A (some 2)
    record := update (fun _ => .ok none) .A (.ok (some 2)) }

def asked (phase : AdminPhase) : Station :=
  start.setCall 0 ⟨phase, 0, 0⟩

theorem asked_reached :
  Reachable Starts (Step true) (asked (.derived .A 0 false))
  := by
  have starts : start.Starts := ⟨rfl, rfl, fun _ => rfl, fun _ => rfl, rfl, rfl, rfl⟩
  exact reachable_derived (.step (.init starts) (.call rfl)) rfl rfl rfl

/-- The call has derived that the component is not disabled, and then the component was disabled. -/
def raced : Station :=
  { asked (.derived .A 0 false) with
    facts := disabled, cache := { epoch := 2 }, changes := 2, clears := 2, base := 2 }

theorem raced_reached :
  Reachable Starts (Step true) raced
  := by
  have known : (asked (.derived .A 0 false)).facts.gen .A ≠ none := nofun
  exact reachable_enacts (w := 0) asked_reached rfl rfl known 2

/-- The call returns without keeping its answer, and the next one derives another. -/
theorem overtaken_reached :
  Reachable Starts (Step true)
    ((raced.setCall 0 ⟨.returned false, 0, 0⟩).setCall 1 ⟨.derived .A 2 true, 2, 2⟩)
  := by
  have found : raced.calls 0 = some ⟨.derived .A 0 false, 0, 0⟩ := rfl
  have reads : raced.Reads (.derived .A 0 false) (.ok none) := nofun
  have returned := raced_reached.step (.admin found reads rfl)
  exact reachable_derived (.step returned (.call rfl)) rfl rfl rfl

def wrapped : Station :=
  { raced with cache := { epoch := 0 }, clears := 2 ^ 64 }

theorem wrapped_reached :
  Reachable Starts (Step true) wrapped
  := by
  have epoch : (2 : UInt64) + UInt64.ofNat (2 ^ 64 - 2) = 0 := by decide
  have cleared := reachable_clears (w := 0) (2 ^ 64 - 2) raced_reached rfl rfl rfl rfl
  rw [show raced.cache.epoch = 2 from rfl, epoch] at cleared
  exact cleared

def kept : Station :=
  { wrapped with
    cache := { epoch := 0, value := some (.A, false) }
    calls := update (fun _ => none) 0 (some ⟨.returned false, 0, 0⟩) }

theorem kept_reached :
  Reachable Starts (Step true) kept
  := by
  have found : wrapped.calls 0 = some ⟨.derived .A 0 false, 0, 0⟩ := rfl
  have reads : wrapped.Reads (.derived .A 0 false) (.ok none) := nofun
  have returned := wrapped_reached.step (.admin found reads rfl)
  have calls : update wrapped.calls 0 (some ⟨.returned false, 0, 0⟩) =
      update (fun _ => none) 0 (some ⟨.returned false, 0, 0⟩) := update_idem ..
  simp only [setCall] at returned
  rw [kept, ← calls]
  exact returned

end Bench

end Station

open Station.Bench

/-- The component is disabled while a call is under way that has derived that it is not. The next
call returns that it is. -/
theorem first_answer_current :
  ∃ s, Station.Runs true s ∧ s.calls 0 = some ⟨.returned false, 0, 0⟩ ∧
    s.calls 1 = some ⟨.returned true, 2, 2⟩ ∧ s.facts.Derives s.facts.serving true
  := by
  have reads : (raced.setCall 0 ⟨.returned false, 0, 0⟩).Reads (.derived .A 2 true) (.ok none) :=
    nofun
  have reached := overtaken_reached.step (.admin (update_self ..) reads rfl)
  have run := Station.Runs.of_reachable reached (by decide)
  exact ⟨_, run, rfl, rfl, (admin_state_current run (c := 1) rfl).1 true rfl rfl ⟨some 2, rfl⟩⟩

/-- A call derives that the component is not disabled, then it is disabled, and then the cache is
cleared until the epoch is what it was before. The call keeps its answer, and the next one returns
it. -/
theorem epoch_comes_back :
  ∃ s call, Reachable Station.Starts (Station.Step true) s ∧ s.calls 1 = some call ∧
    call.phase = .returned false ∧ s.changes = call.settled ∧ call.since = s.clears ∧
    s.facts.record s.facts.serving = .ok (some 2) ∧ s.facts.Derives s.facts.serving true
  := by
  have called : Reachable Station.Starts (Station.Step true)
      (kept.setCall 1 ⟨.called, 2 ^ 64, 2⟩) := .step kept_reached (.call rfl)
  have serving : Reachable Station.Starts (Station.Step true)
      (kept.setCall 1 ⟨.serving .A, 2 ^ 64, 2⟩) :=
    Station.reachable_admin (.ok none) called nofun rfl
  have returned : Reachable Station.Starts (Station.Step true)
      (kept.setCall 1 ⟨.returned false, 2 ^ 64, 2⟩) :=
    Station.reachable_admin (.ok none) serving nofun rfl
  exact ⟨_, ⟨.returned false, 2 ^ 64, 2⟩, returned, rfl, rfl, rfl, rfl, rfl, some 2, rfl, by decide⟩

end ComponentMgr
