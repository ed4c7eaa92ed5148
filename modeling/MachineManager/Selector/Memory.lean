import MachineManager.Selector.Provenance

/-!
# The store in memory, and the store over a record

`InMemorySelectorStore` keeps the two copies and the header in three cells. It is what the store
over a record is meant to be: as long as no write fails, every sequence of calls gives the same
answers on both, whichever components the record routes. The boot stage may act in between, which
leaves `rows` and the header of the abandoned trial behind.
-/

open Option

namespace Selector

open RecordSelectorStore Call

/-- The two copies and the header. -/
structure InMemorySelectorStore where
  primary : Option BootVector := none
  secondary : Option BootVector := none
  transaction : Option (Nat × Transaction) := none
  failWrites : Bool := false

variable {m : InMemorySelectorStore}

namespace InMemorySelectorStore

abbrev Cell (α : Type) : Type := Call InMemorySelectorStore SelectorError α

def checkWritable : Cell Unit := do
  let m ← get
  if m.failWrites then fail (.io "injected boot vector store write failure")
  else return ()

def readPrimary : Cell (Option BootVector) := do
  let m ← get
  return m.primary

def readSecondary : Cell (Option BootVector) := do
  let m ← get
  return m.secondary

def activate (entries : Entries) (header : Transaction) : Cell Nat := do
  checkWritable
  let primary ← readPrimary
  let secondary ← readSecondary
  let generation := nextGeneration primary secondary
  modify fun m =>
    { m with
      primary := some { generation, entries }
      transaction := some (generation, header) }
  return generation

def commit : Cell Unit := do
  checkWritable
  match ← readPrimary with
  | some primary => modify fun m => { m with secondary := some primary }
  | none => return ()

def rollback (header : Transaction) : Cell Nat := do
  checkWritable
  let primary ← readPrimary
  let secondary ← readSecondary
  match secondary.filter fun s => primary != some s with
  | none => fail .noTrial
  | some s =>
    modify fun m => { m with transaction := some (s.generation, header), primary := some s }
    return s.generation

def readTransaction : Cell (Option (Nat × Transaction)) := do
  let m ← get
  return m.transaction

def writeTransaction (generation : Nat) (header : Transaction) : Cell Unit := do
  checkWritable
  modify fun m => { m with transaction := some (generation, header) }

section Writable

variable (writable : m.failWrites = false)

include writable

theorem checkWritable_eq :
  checkWritable m = (.ok (), m)
  := by
  rw [checkWritable, run_get_bind, writable]
  rfl

theorem activate_eq (entries : Entries) (header : Transaction) :
  activate entries header m =
    (.ok (nextGeneration m.primary m.secondary),
      { m with
        primary := some { generation := nextGeneration m.primary m.secondary, entries }
        transaction := some (nextGeneration m.primary m.secondary, header) })
  := by
  rw [activate, run_bind_ok (checkWritable_eq writable)]
  rfl

theorem commit_eq_none (absent : m.primary = none) :
  commit m = (.ok (), m)
  := by
  have primary : readPrimary m = (.ok none, m) := by rw [← absent]; rfl
  rw [commit, run_bind_ok (checkWritable_eq writable), run_bind_ok primary]
  rfl

theorem commit_eq_some {p : BootVector} (present : m.primary = some p) :
  commit m = (.ok (), { m with secondary := some p })
  := by
  have primary : readPrimary m = (.ok (some p), m) := by rw [← present]; rfl
  rw [commit, run_bind_ok (checkWritable_eq writable), run_bind_ok primary]
  rfl

theorem rollback_eq_filter (header : Transaction) :
  rollback header m =
    match m.secondary.filter fun s => m.primary != some s with
    | none => (.err .noTrial, m)
    | some s =>
      (.ok s.generation, { m with primary := some s, transaction := some (s.generation, header) })
  := by
  have primary : readPrimary m = (.ok m.primary, m) := rfl
  have secondary : readSecondary m = (.ok m.secondary, m) := rfl
  rw [rollback, run_bind_ok (checkWritable_eq writable), run_bind_ok primary, run_bind_ok secondary]
  cases m.secondary.filter fun s => m.primary != some s <;> rfl

theorem rollback_eq_noTrial (settled : ∀ s, m.secondary = some s → m.primary = some s)
    (header : Transaction) :
  rollback header m = (.err .noTrial, m)
  := by
  have none : m.secondary.filter (fun s => m.primary != some s) = none := by
    apply filter_eq_none_iff.mpr
    intro s hs
    simp [settled s hs]
  rw [rollback_eq_filter writable, none]

theorem rollback_eq {s : BootVector} (secondary : m.secondary = some s) (trial : m.primary ≠ some s)
    (header : Transaction) :
  rollback header m =
    (.ok s.generation, { m with primary := some s, transaction := some (s.generation, header) })
  := by
  have some : m.secondary.filter (fun s => m.primary != some s) = some s := by
    simp [secondary, trial]
  rw [rollback_eq_filter writable, some]

theorem writeTransaction_eq (g : Nat) (header : Transaction) :
  writeTransaction g header m = (.ok (), { m with transaction := some (g, header) })
  := by
  rw [writeTransaction, run_bind_ok (checkWritable_eq writable)]
  rfl

end Writable

/-! ### With injected failures -/

/-- A call that first checks the store fails and leaves the store, or the store takes writes. -/
theorem err_or_writable {α : Type} (call : Call InMemorySelectorStore SelectorError α)
    (m : InMemorySelectorStore) :
  (∃ e, (checkWritable >>= fun _ => call) m = (.err e, m)) ∨ m.failWrites = false
  := by
  by_cases injected : m.failWrites = true
  · left
    use .io "injected boot vector store write failure"
    apply run_bind_err
    rw [checkWritable, run_get_bind, injected]
    rfl
  · right
    apply Bool.eq_false_iff.mpr injected

theorem activate_cases (entries : Entries) (header : Transaction) (m : InMemorySelectorStore) :
  (∃ e, activate entries header m = (.err e, m)) ∨
  activate entries header m =
    (.ok (nextGeneration m.primary m.secondary),
      { m with
        primary := some { generation := nextGeneration m.primary m.secondary, entries }
        transaction := some (nextGeneration m.primary m.secondary, header) })
  := by
  refine (err_or_writable _ m).imp_right fun writable => ?_
  apply activate_eq writable

theorem commit_cases (m : InMemorySelectorStore) :
  (∃ e, commit m = (.err e, m)) ∨
  commit m = (.ok (), { m with secondary := m.primary.or m.secondary })
  := by
  refine (err_or_writable _ m).imp_right fun writable => ?_
  rcases present : m.primary with _ | p
  · rw [commit_eq_none writable present, none_or, ← present]
  · rw [commit_eq_some writable present, some_or, ← present]

theorem rollback_cases (header : Transaction) (m : InMemorySelectorStore) :
  (∃ e, rollback header m = (.err e, m)) ∨
  ∃ v, m.secondary = some v ∧ rollback header m =
    (.ok v.generation, { m with primary := some v, transaction := some (v.generation, header) })
  := by
  refine (err_or_writable _ m).elim .inl fun writable => ?_
  by_cases trial : ∃ v, m.secondary = some v ∧ m.primary ≠ some v
  · right
    obtain ⟨v, secondary, trial⟩ := trial
    use v, secondary, rollback_eq writable secondary trial header
  · left
    use .noTrial
    apply rollback_eq_noTrial writable
    intro v secondary
    by_contra other
    apply trial ⟨v, secondary, other⟩

theorem writeTransaction_cases (g : Nat) (header : Transaction) (m : InMemorySelectorStore) :
  (∃ e, writeTransaction g header m = (.err e, m)) ∨
  writeTransaction g header m = (.ok (), { m with transaction := some (g, header) })
  := by
  refine (err_or_writable _ m).imp_right fun writable => ?_
  apply writeTransaction_eq writable

/-- The boot stage restores the committed copy, and leaves the header. -/
def bootStageRollback (m : InMemorySelectorStore) : InMemorySelectorStore :=
  { m with primary := m.secondary }

end InMemorySelectorStore

/-! ### The same calls on both stores -/

/-- A call that can be made on either store, or the boot stage acting on its own. -/
inductive Verb
  | activate (entries : Entries) (header : Transaction)
  | commit
  | rollback (header : Transaction)
  | writeTransaction (generation : Nat) (header : Transaction)
  | bootStage

namespace Verb

/-- The call on the store over a record, where nothing fails. It returns the generation that the
store reports, if it reports one. -/
def onRecord (κ : Signing) (r : Routing) : Verb → Access (Option Nat)
  | activate entries header => do return some (← RecordSelectorStore.activate κ r {} entries header)
  | commit => do RecordSelectorStore.commit κ r {}; return none
  | rollback header => do return some (← RecordSelectorStore.rollback κ r {} header)
  | writeTransaction g header => do RecordSelectorStore.writeTransaction κ {} g header; return none
  | bootStage => do modify StoreState.bootStageRollback; return none

def inMemory : Verb → Call InMemorySelectorStore SelectorError (Option Nat)
  | activate entries header => do return some (← InMemorySelectorStore.activate entries header)
  | commit => do InMemorySelectorStore.commit; return none
  | rollback header => do return some (← InMemorySelectorStore.rollback header)
  | writeTransaction g header => do InMemorySelectorStore.writeTransaction g header; return none
  | bootStage => do modify InMemorySelectorStore.bootStageRollback; return none

/-- A header is rewritten at the generation of the primary copy only. -/
def Allowed (s : StoreState) : Verb → Prop
  | writeTransaction g _ => s.record.primary.map (·.generation) = some g
  | _ => True

end Verb

/-- The states of the two stores after the same calls. -/
def SideBySide (κ : Signing) (r : Routing) : StoreState × InMemorySelectorStore → Prop :=
  Reachable (· = ({}, {})) fun x y => ∃ verb : Verb, verb.Allowed x.1 ∧
    y = ((verb.onRecord κ r x.1).2, (verb.inMemory x.2).2)

/-! ### How the stores correspond -/

def Routing.recordPart (r : Routing) (v : BootVector) : BootVector :=
  { v with entries := r.recordRows v.entries }

def Routing.managerPart (r : Routing) (v : BootVector) : BootVector :=
  { v with entries := r.managerRows v.entries }

/-- The record holds its part of both copies, and `committed` the rest of the committed one. The
rest of the primary one is in `rows`, unless the boot stage made it the committed one again. The
header is at the generation of the primary copy or of `rows`. -/
structure Simulates (r : Routing) (c : Cells) (m : InMemorySelectorStore) : Prop where
  writable : m.failWrites = false
  primary : c.primary = m.primary.map r.recordPart
  secondary : c.secondary = m.secondary.map r.recordPart
  committed : c.committed = m.secondary.map r.managerPart
  rows : ∀ p, m.primary = some p → c.rows = some (r.managerPart p) ∨
    m.primary = m.secondary ∧ ∀ a, c.rows = some a → a.generation ≠ p.generation
  floor : m.primary = none → m.secondary = none
  same : ∀ p s, m.primary = some p → m.secondary = some s → p.generation = s.generation → p = s
  header : c.header = m.transaction
  attributed : ∀ g h, m.transaction = some (g, h) →
    m.primary.map (·.generation) = some g ∨ c.rows.map (·.generation) = some g

variable {r : Routing}

namespace Simulates

variable {c : Cells} (sim : Simulates r c m)

include sim

theorem primaryGeneration :
  c.primaryGeneration = m.primary.map (·.generation)
  := by
  rw [Cells.primaryGeneration, sim.primary, Option.map_map]
  rfl

variable {p s : BootVector}

/-- The manager rows at the primary generation. -/
theorem rowsAt (primary : m.primary = some p) :
  c.rowsAt p.generation = some (r.managerRows p.entries)
  := by
  rcases sim.rows p primary with rows | ⟨settled, other⟩
  · have here : entriesAt c.rows p.generation = some (r.managerRows p.entries) :=
      entriesAt_eq_some.mpr rows
    rw [Cells.rowsAt, here, Option.some_or]
  · have here : entriesAt c.committed p.generation = some (r.managerRows p.entries) := by
      apply entriesAt_eq_some.mpr
      rw [sim.committed, ← settled, primary]
      rfl
    rw [Cells.rowsAt, entriesAt_eq_none.mpr other, Option.none_or, here]

/-- The manager rows at the committed generation. -/
theorem committedEntries (secondary : m.secondary = some s) :
  entriesAt c.committed s.generation = some (r.managerRows s.entries)
  := by
  apply entriesAt_eq_some.mpr
  rw [sim.committed, secondary]
  rfl

omit sim in
/-- The vectors are put together as they were given. -/
theorem union_parts (v : BootVector) :
  union (r.recordPart v) (r.managerRows v.entries) = v
  := by
  have := r.union_recordRows_managerRows v.entries
  simp only [union, Routing.recordPart, this]

theorem primaryVector :
  c.primaryVector = m.primary
  := by
  rw [Cells.primaryVector, sim.primary]
  cases primary : m.primary with
  | none => rfl
  | some p =>
    have rows := sim.rowsAt primary
    have : (r.recordPart p).generation = p.generation := rfl
    rw [map_some, map_some, this, rows, getD_some, union_parts]

theorem secondaryVector :
  c.secondaryVector = m.secondary
  := by
  rw [Cells.secondaryVector, sim.secondary]
  cases secondary : m.secondary with
  | none => rfl
  | some s =>
    have : (r.recordPart s).generation = s.generation := rfl
    rw [map_some, map_some, this, Cells.secondaryRows,
      sim.committedEntries secondary, some_or, getD_some, union_parts]

theorem attributedHeader :
  c.attributedHeader r = m.transaction
  := by
  rw [Cells.attributedHeader, sim.header]
  rcases transaction : m.transaction with _ | ⟨g, h⟩
  · rfl
  · have counts : c.attributable r g = true := by
      rw [Cells.attributable, sim.primaryGeneration]
      rcases sim.attributed g h transaction with primary | rows
      · simp [primary]
      · obtain ⟨a, ha, rfl⟩ := map_eq_some_iff.mp rows
        have here : entriesAt c.rows a.generation = some a.entries := entriesAt_eq_some.mpr ha
        simp [Cells.rowsAt, here]
    rw [filter_some, counts, if_pos rfl]

/-! ### Every call keeps the correspondence -/

theorem next :
  c.next 0 = nextGeneration m.primary m.secondary
  := by
  rw [Cells.next, sim.primary, sim.secondary]
  cases m.primary <;> cases m.secondary <;> rfl

theorem activated (entries : Entries) (header : Transaction) :
  Simulates r ((c.issueRows r 0 entries).putHeaderIf true (c.next 0) header)
    { m with
      primary := some { generation := c.next 0, entries }
      transaction := some (c.next 0, header) }
  where
  __ := sim
  primary := rfl
  rows := by
    rintro p ⟨⟩
    left
    rfl
  floor := nofun
  same := by
    rintro p s ⟨⟩ hs eq
    have secondary : c.secondary = some (r.recordPart s) := by
      rw [sim.secondary, hs]
      rfl
    have ne : c.next 0 ≠ _ := Cells.secondary_ne_next secondary
    apply absurd eq ne
  header := rfl
  attributed := by
    rintro g h ⟨⟩
    left
    rfl

theorem committed_to (primary : m.primary = some p) :
  Simulates r
    { c.anchor with
      committed := some { generation := p.generation, entries := r.managerRows p.entries } }
    { m with secondary := some p }
  where
  __ := sim
  secondary := by
    rw [← primary]
    apply sim.primary
  committed := rfl
  rows := by
    intro p' hp
    rcases sim.rows p' hp with rows | ⟨-, other⟩
    · left
      apply rows
    · right
      use primary
      apply other
  floor := by
    intro absent
    cases primary.symm.trans absent
  same := by
    rintro p' s hp ⟨⟩ _
    apply some.inj (hp.symm.trans primary)

theorem rolledBack (secondary : m.secondary = some s) (header : Transaction) :
  Simulates r
    { (c.putHeaderIf true s.generation header).restore with
      rows := some { generation := s.generation, entries := r.managerRows s.entries } }
    { m with primary := some s, transaction := some (s.generation, header) }
  where
  __ := sim
  primary := by
    rw [← secondary]
    apply sim.secondary
  rows := by
    rintro p ⟨⟩
    left
    rfl
  floor := nofun
  same := by
    rintro p s' ⟨⟩ hs _
    apply some.inj (secondary.symm.trans hs)
  header := rfl
  attributed := by
    rintro g h ⟨⟩
    left
    rfl

theorem headed (primary : m.primary = some p) (header : Transaction) :
  Simulates r { c with header := some (p.generation, header) }
    { m with transaction := some (p.generation, header) }
  where
  __ := sim
  header := rfl
  attributed := by
    rintro g h ⟨⟩
    left
    simp [primary]

/-- The boot stage leaves `rows` and the header of the trial behind. -/
theorem restored :
  Simulates r c.restore m.bootStageRollback
  where
  __ := sim
  primary := sim.secondary
  rows := by
    intro s hs
    have secondary : m.secondary = some s := hs
    cases primary : m.primary with
    | none => cases (sim.floor primary).symm.trans secondary
    | some p =>
      rcases sim.rows p primary with rows | ⟨settled, other⟩
      · by_cases eq : p.generation = s.generation
        · left
          rw [← sim.same p s primary secondary eq]
          apply rows
        · right
          use rfl
          intro a ha
          cases rows.symm.trans ha
          apply eq
      · right
        use rfl
        cases (primary.symm.trans settled).trans secondary
        apply other
  floor := id
  same := by
    intro p s hp hs _
    apply some.inj (hp.symm.trans hs)
  attributed := by
    intro g h transaction
    rcases sim.attributed g h transaction with here | here
    · obtain ⟨p, primary, rfl⟩ := map_eq_some_iff.mp here
      rcases sim.rows p primary with rows | ⟨settled, -⟩
      · right
        apply congrArg (·.map (·.generation)) rows
      · left
        have : m.bootStageRollback.primary = some p := settled.symm.trans primary
        rw [this]
        rfl
    · right
      apply here

end Simulates

/-! ### Refinement -/

theorem simulates_empty (κ : Signing) (r : Routing) :
  Simulates r (({} : StoreState).cells κ) {}
  where
  writable := rfl
  primary := rfl
  secondary := rfl
  committed := rfl
  rows := nofun
  floor := fun _ => rfl
  same := nofun
  header := rfl
  attributed := nofun

variable {κ : Signing}

/-- A call gives the same answer on both stores, and they still correspond. -/
theorem Simulates.verb {s : StoreState} (sim : Simulates r (s.cells κ) m)
    (verb : Verb) (allowed : verb.Allowed s) :
  (verb.onRecord κ r s).1 = (verb.inMemory m).1 ∧
    Simulates r ((verb.onRecord κ r s).2.cells κ) (verb.inMemory m).2
  := by
  cases verb with
  | activate entries header =>
    obtain ⟨ok, cells⟩ := (activate_moves r {} κ entries header s).clean
    have memory := InMemorySelectorStore.activate_eq sim.writable entries header
    rw [Verb.onRecord, Verb.inMemory, run_bind_of_ok ok, run_bind_ok memory]
    rw [← sim.next]
    use rfl
    rw [run_pure, cells]
    apply sim.activated
  | commit =>
    rw [Verb.onRecord, Verb.inMemory]
    cases primary : m.primary with
    | none =>
      have memory := InMemorySelectorStore.commit_eq_none sim.writable primary
      have absent : (s.cells κ).primary = none := by rw [sim.primary, primary]; rfl
      obtain ⟨ok, cells⟩ := (commit_moves r {} κ s).clean_absent absent
      rw [run_bind_of_ok ok, run_bind_ok memory]
      use rfl
      rw [run_pure, cells]
      apply sim
    | some p =>
      have memory := InMemorySelectorStore.commit_eq_some sim.writable primary
      have present : (s.cells κ).primary = some (r.recordPart p) := by
        rw [sim.primary, primary]; rfl
      have found : (s.cells κ).rowsAt (r.recordPart p).generation =
        some (r.managerRows p.entries) := sim.rowsAt primary
      obtain ⟨ok, cells⟩ := (commit_moves r {} κ s).clean present found
      rw [run_bind_of_ok ok, run_bind_ok memory]
      use rfl
      rw [run_pure, cells]
      apply sim.committed_to primary
  | rollback header =>
    rw [Verb.onRecord, Verb.inMemory]
    by_cases settled : ∀ v, m.secondary = some v → m.primary = some v
    · have memory := InMemorySelectorStore.rollback_eq_noTrial sim.writable settled header
      have settled' : ∀ v, (s.cells κ).secondary = some v →
          (s.cells κ).primaryGeneration = some v.generation := by
        intro v hv
        rw [sim.secondary] at hv
        obtain ⟨v', hv', rfl⟩ := map_eq_some_iff.mp hv
        rw [sim.primaryGeneration, settled v' hv']
        rfl
      obtain ⟨err, cells⟩ := (rollback_moves r {} κ header s).clean_settled settled'
      rw [run_bind_of_err err, run_bind_err memory]
      use rfl
      rw [cells]
      apply sim
    · obtain ⟨v, secondary, trial⟩ : ∃ v, m.secondary = some v ∧ m.primary ≠ some v := by
        simpa using settled
      have memory := InMemorySelectorStore.rollback_eq sim.writable secondary trial header
      have secondary' : (s.cells κ).secondary = some (r.recordPart v) := by
        rw [sim.secondary, secondary]
        rfl
      have trial' : (s.cells κ).primaryGeneration ≠ some v.generation := by
        rw [sim.primaryGeneration]
        intro eq
        obtain ⟨p, primary, hg⟩ := map_eq_some_iff.mp eq
        apply trial
        rw [primary, sim.same p v primary secondary hg]
      have found : (s.cells κ).committedAt v.generation = some (r.managerRows v.entries) := by
        rw [Cells.committedAt, sim.committedEntries secondary, some_or]
      obtain ⟨ok, cells⟩ := (rollback_moves r {} κ header s).clean secondary' trial' found
      rw [run_bind_of_ok ok, run_bind_ok memory]
      use rfl
      rw [run_pure, cells]
      apply sim.rolledBack secondary
  | writeTransaction g header =>
    have memory := InMemorySelectorStore.writeTransaction_eq sim.writable g header
    have record : RecordSelectorStore.writeTransaction κ {} g header s =
        (.ok (), s.putFile (SelectorBlob.signed κ g ∅ (some header)) .transaction) :=
      writeHeader_eq {} κ g header s
    rw [Verb.onRecord, Verb.inMemory, run_bind_ok memory, run_bind_ok record]
    use rfl
    rw [run_pure, StoreState.cells_putHeader]
    have here : m.primary.map (·.generation) = some g := by
      rw [← sim.primaryGeneration]
      apply allowed
    obtain ⟨p, primary, rfl⟩ := map_eq_some_iff.mp here
    apply sim.headed primary
  | bootStage => exact ⟨rfl, sim.restored⟩

theorem simulates_of_sideBySide {x : StoreState × InMemorySelectorStore} (run : SideBySide κ r x) :
  Simulates r (x.1.cells κ) x.2
  := by
  apply run.invariant (P := fun x => Simulates r (x.1.cells κ) x.2)
  · rintro _ rfl
    apply simulates_empty
  · rintro x _ sim ⟨verb, allowed, rfl⟩
    apply (sim.verb verb allowed).2

/-- As long as no write fails, the store over a record cannot be told from the store in memory:
after any calls both copies and the header are read alike, and the next call gets the same
answer. -/
theorem recordStore_refines_memory {κ : Signing} {r : Routing}
    {x : StoreState × InMemorySelectorStore} (run : SideBySide κ r x) :
  (readPrimary κ {} x.1).1 = (InMemorySelectorStore.readPrimary x.2).1 ∧
  (readSecondary κ {} x.1).1 = (InMemorySelectorStore.readSecondary x.2).1 ∧
  (readTransaction κ r {} x.1).1 = (InMemorySelectorStore.readTransaction x.2).1 ∧
  ∀ verb : Verb, verb.Allowed x.1 → (verb.onRecord κ r x.1).1 = (verb.inMemory x.2).1
  := by
  have sim := simulates_of_sideBySide run
  refine ⟨?_, ?_, ?_, ?_⟩
  · rw [readPrimary_clean, sim.primaryVector]
    rfl
  · rw [readSecondary_clean, sim.secondaryVector]
    rfl
  · rw [readTransaction_eq κ r not_unreadable, sim.attributedHeader]
    rfl
  · intro verb allowed
    apply (sim.verb verb allowed).1

/-- A trial is given up by the boot stage: the committed selection boots, and the header of the
trial is still there. -/
theorem recordStore_refines_memory_bootStage :
  ∃ r : Routing, ∀ κ : Signing, ∃ x, SideBySide κ r x ∧
    (readPrimary κ {} x.1).1 = .ok (some { generation := 1, entries := selection .A .A }) ∧
    (readTransaction κ r {} x.1).1 = .ok (some (2, blankHeader)) ∧
    ((Verb.rollback blankHeader).onRecord κ r x.1).1 = .err .noTrial
  := by
  use sampleRouting
  intro κ
  have first : SideBySide κ sampleRouting _ :=
    .step (.init rfl) ⟨.activate (selection .A .A) blankHeader, trivial, rfl⟩
  have trial : SideBySide κ sampleRouting _ :=
    .step (.step first ⟨.commit, trivial, rfl⟩)
      ⟨.activate (selection .B .B) blankHeader, trivial, rfl⟩
  have run : SideBySide κ sampleRouting _ := .step trial ⟨.bootStage, trivial, rfl⟩
  obtain ⟨primary, -, header, verbs⟩ := recordStore_refines_memory run
  refine ⟨_, run, ?_, ?_, ?_⟩
  · rw [primary]
    dsimp only
    decide +kernel
  · rw [header]
    dsimp only
    decide +kernel
  · rw [verbs (.rollback blankHeader) trivial]
    dsimp only
    decide +kernel

end Selector
