import MachineManager.SystemBank.Manager

/-!
# The manager as a cache of its store

The manager never reads its store again after it was loaded. Over a store that honours its contract
it nevertheless holds, after every call, what it would hold if it were loaded again. The one thing
that the contract lets slip is the header of an activation: its loss is only logged, and the manager
keeps a header that the store does not have, until it writes the next one.
-/

open Option

namespace SystemBank

open Selector Call InMemorySelectorStore

/-- What an activation that returns does to the copies. The header may be lost. -/
structure Activated (c : Copies) (entries : Entries) (header : Transaction) (g : Nat)
    (c' : Copies) :
    Prop where
  above_primary : generationOf c.primary < g
  above_secondary : generationOf c.secondary < g
  primary : c'.primary = some { generation := g, entries }
  secondary : c'.secondary = c.secondary
  header : c'.header = some (g, header) ∨ c'.header = c.header ∨ c'.header = none

/-- The store keeps what the contract of its verbs promises: a verb that returns an error changes
neither copy nor the header. Nothing is asked of a verb that does not return. -/
structure Honours {σ : Type} (copies : σ → Copies) (S : SelectorStore σ) : Prop where
  readPrimary : Reads True S.readPrimary fun s => (copies s).primary
  readSecondary : Reads True S.readSecondary fun s => (copies s).secondary
  readTransaction : ∀ s,
    S.readTransaction s = (.ok (copies s).header, s) ∨ S.readTransaction s = (.ok none, s)
  activate_err : ∀ {entries header s t e}, S.activate entries header s = (.err e, t) →
    copies t = copies s
  activate_ok : ∀ {entries header s t g}, S.activate entries header s = (.ok g, t) →
    Activated (copies s) entries header g (copies t)
  commit_err : ∀ {s t e}, S.commit s = (.err e, t) → copies t = copies s
  commit_ok : ∀ {s t}, S.commit s = (.ok (), t) →
    copies t = { copies s with secondary := (copies s).primary.or (copies s).secondary }
  rollback_err : ∀ {header s t e}, S.rollback header s = (.err e, t) → copies t = copies s
  rollback_ok : ∀ {header s t g}, S.rollback header s = (.ok g, t) →
    ∃ v, (copies s).secondary = some v ∧ g = v.generation ∧
      copies t = { copies s with primary := some v, header := some (g, header) }
  writeTransaction_err : ∀ {g header s t e}, S.writeTransaction g header s = (.err e, t) →
    copies t = copies s
  writeTransaction_ok : ∀ {g header s t}, S.writeTransaction g header s = (.ok (), t) →
    copies t = { copies s with header := some (g, header) }

/-- Nothing that a load uses fails in the state. -/
structure Faultless {σ : Type} (copies : σ → Copies) (S : SelectorStore σ) (s : σ) : Prop where
  primary : S.readPrimary s = (.ok (copies s).primary, s)
  secondary : S.readSecondary s = (.ok (copies s).secondary, s)
  header : S.readTransaction s = (.ok (copies s).header, s)
  written : ∀ g header, ∃ t, S.writeTransaction g header s = (.ok (), t)

/-- What holds of the copies of a store that only its verbs and the boot stage have changed: there
is no committed copy without a primary one, and a header above the primary generation is the mark of
the boot stage. -/
structure Copies.Sound (c : Copies) : Prop where
  floor : c.primary = none → c.secondary = none
  header : ∀ g h, c.header = some (g, h) → g ≤ generationOf c.primary ∨ c.unrecorded ≠ none

/-! ### Runs of the manager -/

/-- The store and the manager, and whether the header of the running transaction was lost. -/
structure Tracked (σ : Type) where
  running : Running σ
  lost : Bool := false

/-- Whether the header of the running transaction is lost after a call: an activation may lose it,
and every other header that is written replaces it. -/
def lostAfter (op : Op) (answer : Ending SelectorError Answer) (trial : Bool) (after : Copies)
    (lost : Bool) : Bool :=
  match op, answer with
  | .sealPending _, .ok (.sealed true) => after.headerAtPrimary.isNone
  | .rollback _, .ok _ => lost && !trial
  | .observeNodeBoot _, .ok (.observed (.counted _)) => false
  | _, _ => lost

section Runs

variable {σ : Type} (κ : Signing) (copies : σ → Copies)

/-- A call of the manager that returns, over the store with whatever faults. -/
def ManagerStep (allowed : Op → Ending SelectorError Answer → Prop) (x y : Tracked σ) : Prop :=
  ∃ S : SelectorStore σ, Honours copies S ∧ ∃ op answer, allowed op answer ∧ answer ≠ .stopped ∧
    op.run κ S x.running = (answer, y.running) ∧
    y.lost = lostAfter op answer x.running.manager.isTrial (copies y.running.store) x.lost

/-- Calls of the manager, one after the other. -/
def ManagerRun (allowed : Op → Ending SelectorError Answer → Prop) (x : Tracked σ) :
    Tracked σ → Prop :=
  Reachable (· = x) (ManagerStep κ copies allowed)

end Runs

/-! ### What the manager holds -/

/-- The manager holds what the copies say, and no header is above the primary generation. -/
structure Cached (c : Copies) (lost : Bool) (m : SystemBankManager) : Prop where
  current : m.current = entriesOf c.primary
  generation : m.generation = generationOf c.primary
  committed : m.committed = entriesOf c.secondary
  committedGeneration : m.committedGeneration = generationOf c.secondary
  floor : c.primary = none → c.secondary = none
  header : ∀ g h, c.header = some (g, h) → g ≤ generationOf c.primary
  transaction : if lost then c.headerAtPrimary = none else m.transaction = c.headerAtPrimary

variable {c : Copies}

namespace Copies

/-- A header at most at the primary generation is not the mark of the boot stage. -/
theorem unrecorded_eq_none (below : ∀ g h, c.header = some (g, h) → g ≤ generationOf c.primary) :
  c.unrecorded = none
  := by
  rw [unrecorded, map_eq_none_iff, filter_eq_none_iff]
  rintro ⟨g, h⟩ stored
  have := below g h stored
  rw [decide_eq_true_eq]
  omega

theorem headerAtPrimary_eq_some {h : Transaction}
    (stored : c.header = some (generationOf c.primary, h)) :
  c.headerAtPrimary = some h
  := by simp [headerAtPrimary, stored]

end Copies

section Load

variable {σ : Type} {copies : σ → Copies} {S : SelectorStore σ} {s : σ}

/-- A load, when nothing fails. -/
theorem Faultless.load (faultless : Faultless copies S s) (honours : Honours copies S) :
  ∃ t, load S s = (.ok (copies s).loaded, t) ∧
    copies t = { copies s with
      header := ((copies s).unrecorded.map (generationOf (copies s).primary, ·)).or
        (copies s).header }
  := by
  have loaded := load_of_recorded faultless.primary faultless.secondary faultless.header
  rw [Copies.loaded]
  cases unrecorded : (copies s).unrecorded with
  | none =>
    use s, loaded unrecorded
    rfl
  | some marked =>
    obtain ⟨t, call⟩ := faultless.written (generationOf (copies s).primary) marked
    use t, load_of_unrecorded faultless.primary faultless.secondary faultless.header unrecorded call
    apply honours.writeTransaction_ok call

/-- A load, when nothing fails and no mark of the boot stage is found. -/
theorem Faultless.load_eq (faultless : Faultless copies S s)
    (recorded : (copies s).unrecorded = none) :
  SystemBank.load S s = (.ok ((copies s).view (copies s).headerAtPrimary), s)
  := load_of_recorded faultless.primary faultless.secondary faultless.header recorded

end Load

namespace Cached

variable {lost : Bool} {m : SystemBankManager}

/-- What was loaded without a failure. -/
theorem of_loaded {s : Copies} (sound : s.Sound) :
  Cached { s with header := (s.unrecorded.map (generationOf s.primary, ·)).or s.header } false
    s.loaded
  where
  current := rfl
  generation := rfl
  committed := rfl
  committedGeneration := rfl
  floor := sound.floor
  header := by
    intro g h stored
    cases unrecorded : s.unrecorded with
    | none =>
      rw [unrecorded] at stored
      rcases sound.header g h stored with below | marked
      · apply below
      · apply absurd unrecorded marked
    | some =>
      rw [unrecorded] at stored
      cases stored
      apply Nat.le_refl
  transaction := by
    rw [if_neg Bool.false_ne_true, Copies.loaded, Copies.view]
    cases unrecorded : s.unrecorded with
    | none => rfl
    | some =>
      symm
      apply Copies.headerAtPrimary_eq_some
      rfl

variable (cached : Cached c lost m)

include cached

/-- What the manager keeps apart from the copies and the header does not matter. -/
theorem withPending (pending : Option Entries) :
  Cached c lost { m with pending }
  := ⟨cached.current, cached.generation, cached.committed, cached.committedGeneration, cached.floor,
    cached.header, cached.transaction⟩

/-- A fresh load holds the same, and writes nothing. -/
theorem unrecorded :
  c.unrecorded = none
  := Copies.unrecorded_eq_none cached.header

theorem isTrial :
  m.isTrial = (entriesOf c.primary != entriesOf c.secondary)
  := by rw [SystemBankManager.isTrial, cached.current, cached.committed]

/-! ### Every call keeps it -/

theorem activated {pending : Entries} {header : Transaction} {g : Nat} {c' : Copies}
    (h : Activated c pending header g c') :
  Cached c' c'.headerAtPrimary.isNone (m.afterSeal pending g header)
  where
  current := by
    rw [h.primary]
    rfl
  generation := by
    rw [h.primary]
    rfl
  committed := by
    rw [h.secondary]
    apply cached.committed
  committedGeneration := by
    rw [h.secondary]
    apply cached.committedGeneration
  floor := by
    intro absent
    cases absent.symm.trans h.primary
  header := by
    intro g' t stored
    rw [h.primary]
    rcases h.header with same | same | same
    · cases same.symm.trans stored
      apply Nat.le_refl
    · have := cached.header g' t (same.symm.trans stored)
      have above := h.above_primary
      apply Nat.le_of_lt (Nat.lt_of_le_of_lt this above)
    · cases same.symm.trans stored
  transaction := by
    cases lost' : c'.headerAtPrimary with
    | none => rw [isNone_none, if_pos rfl]
    | some =>
      rw [Option.isNone_some, if_neg Bool.false_ne_true]
      obtain ⟨⟨g', t'⟩, filtered, rfl⟩ := map_eq_some_iff.mp lost'
      obtain ⟨stored, here⟩ := filter_eq_some_iff.mp filtered
      rw [decide_eq_true_eq, h.primary] at here
      have eq : g' = g := here
      rcases h.header with same | same | same
      · cases same.symm.trans stored
        rfl
      · have below := cached.header g' t' (same.symm.trans stored)
        have above := h.above_primary
        omega
      · cases same.symm.trans stored

theorem committed_ok :
  Cached { c with secondary := c.primary.or c.secondary } lost m.afterCommit
  := by
  have secondary : c.primary.or c.secondary = c.primary := by
    cases primary : c.primary with
    | none => rw [cached.floor primary, none_or]
    | some => rw [some_or]
  rw [secondary]
  constructor
  · apply cached.current
  · apply cached.generation
  · apply cached.current
  · apply cached.generation
  · apply id
  · apply cached.header
  · apply cached.transaction

theorem restored {v : BootVector} (secondary : c.secondary = some v) (header : Transaction) :
  Cached { c with primary := some v, header := some (v.generation, header) } false
    (m.afterRollback v.generation header)
  where
  current := by rw [SystemBankManager.afterRollback, cached.committed, secondary]
  generation := rfl
  __ := cached
  floor := nofun
  header := by
    rintro _ _ ⟨⟩
    apply Nat.le_refl
  transaction := by
    rw [if_neg Bool.false_ne_true]
    symm
    apply Copies.headerAtPrimary_eq_some
    rfl

theorem recorded (header : Transaction) :
  Cached { c with header := some (m.generation, header) } false
    { m with transaction := some header }
  where
  __ := cached
  header := by
    rintro _ _ ⟨⟩
    apply Nat.le_of_eq cached.generation
  transaction := by
    rw [if_neg Bool.false_ne_true]
    symm
    apply Copies.headerAtPrimary_eq_some
    rw [cached.generation]

end Cached

section Step

variable {σ : Type} {κ : Signing} {copies : σ → Copies} {S : SelectorStore σ}
    {n n' : Running σ} {op : Op}
  {answer : Ending SelectorError Answer} {x y : Tracked σ}

/-- A call that returns leaves the manager and the copies in agreement. -/
theorem Cached.step (honours : Honours copies S) {lost : Bool}
    (cached : Cached (copies n.store) lost n.manager) (returned : answer ≠ .stopped)
    (move : OpMove κ S n op answer n') :
  Cached (copies n'.store) (lostAfter op answer n.manager.isTrial (copies n'.store) lost) n'.manager
  := by
  cases move with
  | staged => apply cached.withPending
  | nothing => apply cached
  | seals _ _ res _ _ call =>
    cases res with
    | ok => apply cached.activated (honours.activate_ok call)
    | err =>
      rw [honours.activate_err call]
      apply cached
    | stopped => apply absurd rfl returned
  | commits res _ call =>
    cases res with
    | ok =>
      rw [honours.commit_ok call]
      apply cached.committed_ok
    | err =>
      rw [honours.commit_err call]
      apply cached
    | stopped => apply absurd rfl returned
  | settled _ settled =>
    simp only [lostAfter, settled, Bool.not_false, Bool.and_true]
    apply cached.withPending
  | rollsBack _ res _ trial call =>
    cases res with
    | ok =>
      obtain ⟨v, secondary, rfl, eq⟩ := honours.rollback_ok call
      simp only [lostAfter, Ending.map, trial, Bool.not_true, Bool.and_false, eq]
      apply cached.restored secondary
    | err =>
      rw [honours.rollback_err call]
      apply cached
    | stopped => apply absurd rfl returned
  | observes _ o not_counted =>
    cases o with
    | counted b => apply absurd rfl (not_counted b)
    | notArmed | alreadyCounted => apply cached
  | counts _ _ res _ _ _ call =>
    cases res with
    | ok =>
      rw [honours.writeTransaction_ok call]
      apply cached.recorded
    | err =>
      rw [honours.writeTransaction_err call]
      apply cached
    | stopped => apply absurd rfl returned

theorem cached_of_run (cached : Cached (copies x.running.store) x.lost x.running.manager)
    {allowed : Op → Ending SelectorError Answer → Prop} (run : ManagerRun κ copies allowed x y) :
  Cached (copies y.running.store) y.lost y.running.manager
  := by
  apply run.invariant (P := fun y => Cached (copies y.running.store) y.lost y.running.manager)
  · rintro _ rfl
    apply cached
  · rintro y z cached ⟨S, honours, op, answer, -, returned, eq, lost⟩
    have move := op.moves κ S y.running
    rw [eq] at move
    rw [lost]
    apply cached.step honours returned move

/-- The selection that boots is replaced: a staged one was sealed, or a rollback returned. -/
def Replaces (op : Op) (answer : Ending SelectorError Answer) : Prop :=
  answer = .ok (.sealed true) ∨ ∃ reason, op = .rollback reason ∧ answer = .ok .done

/-- Other calls leave alone what boots. -/
theorem OpMove.current_eq (move : OpMove κ S n op answer n') (keeps : ¬Replaces op answer) :
  n'.manager.current = n.manager.current ∧ n'.manager.generation = n.manager.generation
  := by
  cases move with
  | staged | nothing | observes => exact ⟨rfl, rfl⟩
  | seals _ _ res =>
    cases res with
    | ok => apply absurd (.inl rfl) keeps
    | err | stopped => exact ⟨rfl, rfl⟩
  | commits res => cases res <;> exact ⟨rfl, rfl⟩
  | settled reason => apply absurd (.inr ⟨reason, rfl, rfl⟩) keeps
  | rollsBack reason res =>
    cases res with
    | ok => apply absurd (.inr ⟨reason, rfl, rfl⟩) keeps
    | err | stopped => exact ⟨rfl, rfl⟩
  | counts _ _ res => cases res <;> exact ⟨rfl, rfl⟩

theorem current_of_run (run : ManagerRun κ copies (fun op answer => ¬Replaces op answer) x y) :
  y.running.manager.current = x.running.manager.current ∧
    y.running.manager.generation = x.running.manager.generation
  := by
  apply run.invariant (P := fun y => y.running.manager.current = x.running.manager.current ∧
    y.running.manager.generation = x.running.manager.generation)
  · rintro _ rfl
    exact ⟨rfl, rfl⟩
  · rintro y z ⟨current, generation⟩ ⟨S, honours, op, answer, keeps, returned, eq, lost⟩
    have move := op.moves κ S y.running
    rw [eq] at move
    obtain ⟨current', generation'⟩ := move.current_eq keeps
    exact ⟨current'.trans current, generation'.trans generation⟩

end Step

/-! ### The manager holds what a fresh load would hold -/

/-- After any calls over a store that honours its contract, a fresh load writes nothing and holds
what the manager holds. Only its header may be missing, after a seal whose header write was lost and
until the next header is written. Until a seal or a rollback returns, a fresh load holds the
selection that booted before. -/
theorem manager_eq_load {σ : Type} {κ : Signing} {copies : σ → Copies}
    {S : SelectorStore σ} {s s' : σ}
    (honours : Honours copies S) (faultless : Faultless copies S s) (sound : (copies s).Sound)
    {m : SystemBankManager} (loaded : load S s = (.ok m, s')) {x : Tracked σ}
    (run : ManagerRun κ copies (fun _ _ => True) { running := ⟨s', m⟩ } x) :
  (∀ S', Faultless copies S' x.running.store →
    ∃ fresh, load S' x.running.store = (.ok fresh, x.running.store) ∧
      x.running.manager.current = fresh.current ∧ x.running.manager.generation = fresh.generation ∧
      x.running.manager.committed = fresh.committed ∧
      x.running.manager.committedGeneration = fresh.committedGeneration ∧
      (x.lost = false → x.running.manager.transaction = fresh.transaction) ∧
      (x.lost = true → fresh.transaction = none)) ∧
  ∀ y, ManagerRun κ copies (fun op answer => ¬Replaces op answer) x y →
    ∀ S', Faultless copies S' y.running.store →
      ∃ fresh, load S' y.running.store = (.ok fresh, y.running.store) ∧
        fresh.current = x.running.manager.current ∧ fresh.generation = x.running.manager.generation
  := by
  have start : Cached (copies s') false m := by
    obtain ⟨t, eq, after⟩ := faultless.load honours
    cases loaded.symm.trans eq
    rw [after]
    apply Cached.of_loaded sound
  have cached := cached_of_run start run
  constructor
  · intro S' faultless'
    use (copies x.running.store).view (copies x.running.store).headerAtPrimary,
      faultless'.load_eq cached.unrecorded, cached.current, cached.generation, cached.committed,
      cached.committedGeneration
    have transaction := cached.transaction
    constructor
    · intro lost
      rw [lost] at transaction
      apply transaction
    · intro lost
      rw [lost] at transaction
      apply transaction
  · intro y later S' faultless'
    have cached' := cached_of_run cached later
    obtain ⟨current, generation⟩ := current_of_run later
    use (copies y.running.store).view (copies y.running.store).headerAtPrimary,
      faultless'.load_eq cached'.unrecorded
    constructor
    · apply cached'.current.symm.trans current
    · apply cached'.generation.symm.trans generation

/-! ### The store in memory honours the contract -/

namespace InMemory

def copies (m : InMemorySelectorStore) : Copies where
  primary := m.primary
  secondary := m.secondary
  header := m.transaction

theorem lt_nextGeneration (p s : Option BootVector) :
  generationOf p < nextGeneration p s ∧ generationOf s < nextGeneration p s
  := by
  simp only [generationOf, nextGeneration]
  omega

/-- The store in memory, with an activation of its own that keeps the contract. -/
theorem honours_with {activate : Entries → Transaction →
    Call InMemorySelectorStore SelectorError Nat}
    (err : ∀ {entries header s t e}, activate entries header s = (.err e, t) → copies t = copies s)
    (ok : ∀ {entries header s t g}, activate entries header s = (.ok g, t) →
      Activated (copies s) entries header g (copies t)) :
  Honours copies { inMemorySelectorStore with activate }
  where
  readPrimary _ := .inl rfl
  readSecondary _ := .inl rfl
  readTransaction _ := .inl rfl
  activate_err := err
  activate_ok := ok
  commit_err {s t e} call := by
    rcases commit_cases s with ⟨_, eq⟩ | eq <;> cases call.symm.trans eq
    rfl
  commit_ok {s t} call := by
    rcases commit_cases s with ⟨_, eq⟩ | eq <;> cases call.symm.trans eq
    rfl
  rollback_err {header s t e} call := by
    rcases rollback_cases header s with ⟨_, eq⟩ | ⟨v, -, eq⟩ <;>
      cases call.symm.trans eq
    rfl
  rollback_ok {header s t g} call := by
    rcases rollback_cases header s with ⟨_, eq⟩ | ⟨v, secondary, eq⟩ <;>
      cases call.symm.trans eq
    use v, secondary, rfl
    rfl
  writeTransaction_err {g header s t e} call := by
    rcases writeTransaction_cases g header s with ⟨_, eq⟩ | eq <;>
      cases call.symm.trans eq
    rfl
  writeTransaction_ok {g header s t} call := by
    rcases writeTransaction_cases g header s with ⟨_, eq⟩ | eq <;>
      cases call.symm.trans eq
    rfl

theorem honours :
  Honours copies inMemorySelectorStore
  := by
  apply honours_with
  · intro entries header s t e call
    rcases activate_cases entries header s with ⟨_, eq⟩ | eq <;>
      cases call.symm.trans eq
    rfl
  · intro entries header s t g call
    rcases activate_cases entries header s with ⟨_, eq⟩ | eq <;>
      cases call.symm.trans eq
    obtain ⟨above_primary, above_secondary⟩ := lt_nextGeneration s.primary s.secondary
    exact ⟨above_primary, above_secondary, rfl, rfl, .inl rfl⟩

/-- The store in memory, if it loses the header of every activation. -/
def losingHeaders : SelectorStore InMemorySelectorStore :=
  { inMemorySelectorStore with
    activate := fun entries header m =>
      let (res, m') := inMemorySelectorStore.activate entries header m
      (res, { m' with transaction := m.transaction }) }

theorem losingHeaders_honours :
  Honours copies losingHeaders
  := by
  apply honours_with
  · intro entries header s t e call
    rcases activate_cases entries header s with ⟨e', eq⟩ | eq
    · have eq' : inMemorySelectorStore.activate entries header s = (.err e', s) := eq
      rw [eq'] at call
      cases call
      rfl
    · have eq' : inMemorySelectorStore.activate entries header s = _ := eq
      rw [eq'] at call
      cases call
  · intro entries header s t g call
    rcases activate_cases entries header s with ⟨e', eq⟩ | eq
    · have eq' : inMemorySelectorStore.activate entries header s = (.err e', s) := eq
      rw [eq'] at call
      cases call
    · have eq' : inMemorySelectorStore.activate entries header s = _ := eq
      rw [eq'] at call
      cases call
      obtain ⟨above_primary, above_secondary⟩ := lt_nextGeneration s.primary s.secondary
      exact ⟨above_primary, above_secondary, rfl, rfl, .inr (.inl rfl)⟩

theorem faultless {m : InMemorySelectorStore} (writable : m.failWrites = false) :
  Faultless copies inMemorySelectorStore m
  where
  primary := rfl
  secondary := rfl
  header := rfl
  written g header :=
    ⟨{ m with transaction := some (g, header) }, writeTransaction_eq writable g header⟩

end InMemory

/-! ### A first selection is sealed -/

def emptyManager : SystemBankManager where
  current := ∅
  generation := 0
  committed := ∅
  committedGeneration := 0
  transaction := none

def firstSelection : Entries :=
  (∅ : Entries).insert "vm" { bank := .A }

def firstStaged : Tracked InMemorySelectorStore where
  running := ⟨{}, { emptyManager with pending := some firstSelection }⟩

/-- The store and the manager after it was sealed, with the header that the store has. -/
def firstSealed (κ : Signing) (stored : Option (Nat × Transaction)) :
    Tracked InMemorySelectorStore where
  running :=
    { store :=
        { primary := some { generation := 1, entries := firstSelection }, transaction := stored }
      manager :=
        { emptyManager with
          current := firstSelection
          generation := 1
          transaction := some (sealHeader κ none) } }
  lost := stored.isNone

open InMemory

theorem firstRun {κ : Signing} {S : SelectorStore InMemorySelectorStore}
    {stored : Option (Nat × Transaction)} (honours : Honours copies S)
    (call : S.activate firstSelection (sealHeader κ none) {} =
      (.ok 1, (firstSealed κ stored).running.store))
    (lost : (copies (firstSealed κ stored).running.store).headerAtPrimary.isNone = stored.isNone) :
  ManagerRun κ copies (fun _ _ => True) { running := ⟨{}, emptyManager⟩ } (firstSealed κ stored)
  := by
  have staged : ManagerStep κ copies (fun _ _ => True) { running := ⟨{}, emptyManager⟩ }
      firstStaged :=
    ⟨S, honours, .stage "vm" .A ∅, .ok .done, trivial, by rintro ⟨⟩, rfl, rfl⟩
  have eq : Op.run κ S (.sealPending none) firstStaged.running =
      (.ok (.sealed true), (firstSealed κ stored).running) := by
    have sealed := sealPending_some (n := firstStaged.running) rfl call
    rw [Op.run, run_bind_ok sealed]
    rfl
  have first : ManagerRun κ copies (fun _ _ => True) { running := ⟨{}, emptyManager⟩ }
      firstStaged := .step (.init rfl) staged
  apply first.step
  use S, honours, .sealPending none, .ok (.sealed true), trivial, by rintro ⟨⟩, eq
  apply lost.symm

/-- A seal returns although the store lost its header: the manager then keeps a header that a fresh
load does not find. -/
theorem sealed_header_lost :
  ∃ S S' : SelectorStore InMemorySelectorStore, Honours copies S ∧
    Honours copies S' ∧ (copies {}).Sound ∧ ∀ κ : Signing, ∃ m x fresh,
      Faultless copies S' {} ∧ load S' {} = (.ok m, {}) ∧
      ManagerRun κ copies (fun _ _ => True) { running := ⟨{}, m⟩ } x ∧
      Faultless copies S' x.running.store ∧ load S' x.running.store = (.ok fresh, x.running.store) ∧
      x.running.manager.transaction ≠ fresh.transaction
  := by
  use losingHeaders, inMemorySelectorStore, losingHeaders_honours, honours
  constructor
  · constructor
    · exact fun _ => rfl
    · nofun
  · intro κ
    use emptyManager, firstSealed κ none,
      { emptyManager with current := firstSelection, generation := 1 }, faultless rfl, rfl
    constructor
    · apply firstRun losingHeaders_honours
      · rfl
      · rfl
    · use faultless rfl, rfl
      nofun

/-- A seal returns and its header is stored: a fresh load holds what the manager holds. -/
theorem manager_eq_load_first :
  ∃ s : InMemorySelectorStore, ∀ κ : Signing, ∃ m x fresh,
    load inMemorySelectorStore s = (.ok m, s) ∧
    ManagerRun κ copies (fun _ _ => True) { running := ⟨s, m⟩ } x ∧
    load inMemorySelectorStore x.running.store = (.ok fresh, x.running.store) ∧
    x.running.manager = fresh ∧ x.running.manager.isTrial = true
  := by
  use {}
  intro κ
  have sound : (copies {}).Sound := ⟨fun _ => rfl, nofun⟩
  have run : ManagerRun κ copies (fun _ _ => True) { running := ⟨{}, emptyManager⟩ }
      (firstSealed κ (some (1, sealHeader κ none))) := by
    apply firstRun honours
    · rfl
    · rfl
  obtain ⟨holds, -⟩ :=
    manager_eq_load honours (faultless rfl) sound rfl run
  obtain ⟨fresh, loaded, current, generation, committed, committedGeneration, transaction, -⟩ :=
    holds inMemorySelectorStore (faultless rfl)
  use emptyManager, firstSealed κ (some (1, sealHeader κ none)), fresh, rfl, run, loaded
  have pending : fresh.pending = none := by
    cases loaded
    rfl
  constructor
  · obtain ⟨⟩ := fresh
    cases pending
    cases current
    cases generation
    cases committed
    cases committedGeneration
    cases transaction rfl
    rfl
  · have trial : (firstSelection != (∅ : Entries)) = true := by decide +kernel
    apply trial

end SystemBank
