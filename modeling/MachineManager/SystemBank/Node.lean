import MachineManager.SystemBank.Manager

/-!
# The manager over the store over a record

The node is the medium together with the manager, while its process runs. Every write may fail,
every call may be cut off after any of its writes, the process may crash at any time, and the boot
stage may restore the committed copy while the process is down. As long as the boot stage does not
act, no header is above the primary generation, so that a load has nothing to record.
-/

namespace SystemBank

open Selector Call

/-- The medium, and the manager while its process runs. -/
structure Node where
  store : StoreState := {}
  manager : Option SystemBankManager := none

/-- What can happen on the node. -/
inductive NodeEvent
  | load
  | call (op : Op)
  | crash
  | bootStage

/-- The node after a load: the process runs if the load returned a manager. -/
def Node.started : Ending SelectorError SystemBankManager × StoreState → Node
  | (.ok m, t) => { store := t, manager := some m }
  | (.err _, t) | (.stopped, t) => { store := t }

/-- The node after a call of the manager: the process goes on unless it was cut off. -/
def Node.called : Ending SelectorError Answer × Running StoreState → Node
  | (.stopped, x) => { store := x.store }
  | (_, x) => { store := x.store, manager := some x.manager }

/-- The node after an event that meets `io`. -/
def Node.after (κ : Signing) (r : Routing) (io : Io) (n : Node) : NodeEvent → Node
  | .load => Node.started (load (recordSelectorStore κ r io) n.store)
  | .call op =>
    match n.manager with
    | none => n
    | some m => Node.called (op.run κ (recordSelectorStore κ r io) ⟨n.store, m⟩)
  | .crash => { n with manager := none }
  | .bootStage => { store := n.store.bootStageRollback }

variable {r : Routing} {io : Io} {c c' : Cells} {header : Transaction} {m : SystemBankManager}

theorem Node.after_call {κ : Signing} {s : StoreState} {op : Op}
    {result : Ending SelectorError Answer × Running StoreState}
    (eq : op.run κ (recordSelectorStore κ r io) ⟨s, m⟩ = result) :
  Node.after κ r io { store := s, manager := some m } (.call op) = Node.called result
  := congrArg Node.called eq

def NodeStep (κ : Signing) (r : Routing) (allowed : NodeEvent → Prop) (n n' : Node) : Prop :=
  ∃ io event, allowed event ∧ n' = n.after κ r io event

def NodeRun (κ : Signing) (r : Routing) (allowed : NodeEvent → Prop) (n : Node) : Node → Prop :=
  Reachable (· = n) (NodeStep κ r allowed)

/-! ### Loads -/

/-- What the store over a record reads as, with the header that was found. -/
def copiesOf (c : Cells) (header : Option (Nat × Transaction)) : Copies where
  primary := c.primaryVector
  secondary := c.secondaryVector
  header

theorem generationOf_primaryVector (c : Cells) :
  generationOf c.primaryVector = generationOf c.primary
  := by
  rw [Cells.primaryVector]
  cases c.primary <;> rfl

section Load

variable (κ : Signing) (r : Routing) (io : Io) (s : StoreState)

/-- The header that a load finds. -/
def FindsHeader (c : Cells) (header : Option (Nat × Transaction)) : Prop :=
  header = c.attributedHeader r ∨ io.Unreadable ∧ header = none

theorem readTransaction_cases :
  ∃ header, RecordSelectorStore.readTransaction κ r io s = (.ok header, s) ∧
    FindsHeader r io (s.cells κ) header
  := by
  rw [RecordSelectorStore.readTransaction]
  rcases reads_attributedTransaction κ r io s with read | ⟨bad, e, read⟩
  · use (s.cells κ).attributedHeader r
    constructor
    · rw [run_bind_ok (run_attempt_ok read)]
      rfl
    · left
      rfl
  · use none
    constructor
    · rw [run_bind_ok (run_attempt_err read)]
      rfl
    · right
      use bad

/-- What a load over the store over a record can do. -/
theorem load_cases :
  (io.Unreadable ∧ ∃ e, load (recordSelectorStore κ r io) s = (.err e, s)) ∨
  ∃ header, FindsHeader r io (s.cells κ) header ∧
    ((copiesOf (s.cells κ) header).unrecorded = none ∧ load (recordSelectorStore κ r io) s =
        (.ok ((copiesOf (s.cells κ) header).view (copiesOf (s.cells κ) header).headerAtPrimary),
          s) ∨
    ∃ marked, (copiesOf (s.cells κ) header).unrecorded = some marked ∧
      load (recordSelectorStore κ r io) s =
        ((adoptedOf marked (io.transaction.res (.io io.cause) ())).map
          (copiesOf (s.cells κ) header).view,
          if io.transaction.landed then
            s.putFile (SelectorBlob.signed κ (generationOf s.record.primary) ∅ (some marked))
              .transaction
          else s))
  := by
  rcases reads_readPrimary κ io s with primary | ⟨bad, e, primary⟩
  · rcases reads_readSecondary κ io s with secondary | ⟨bad, e, secondary⟩
    · obtain ⟨header, read, found⟩ := readTransaction_cases κ r io s
      right
      use header, found
      cases unrecorded : (copiesOf (s.cells κ) header).unrecorded with
      | none =>
        left
        use rfl
        apply load_of_recorded primary secondary read unrecorded
      | some marked =>
        right
        use marked, rfl
        apply load_of_unrecorded primary secondary read unrecorded
        have generation : generationOf (copiesOf (s.cells κ) header).primary =
            generationOf s.record.primary := generationOf_primaryVector (s.cells κ)
        rw [generation]
        apply writeHeader_eq
    · left
      use bad, e
      apply load_of_unreadable (.inr ⟨⟨_, primary⟩, secondary⟩)
  · left
    use bad, e
    apply load_of_unreadable (.inl primary)

end Load

/-! ### What the verbs do to the primary copy and to the header -/

section Verbs

variable {gap : Nat} (entries : Entries)

theorem generationOf_lt_next :
  generationOf c.primary < c.next gap
  := by
  simp only [generationOf, Cells.next, nextGeneration]
  omega

theorem primary_putHeaderIf (l : Bool) (g : Nat) (header : Transaction) :
  (c.putHeaderIf l g header).primary = c.primary
  := by cases l <;> rfl

theorem header_issueIf (l : Bool) :
  (c.issueIf r gap entries l).header = c.header
  := by cases l <;> rfl

theorem generationOf_issueIf (l : Bool) :
  generationOf (c.issueIf r gap entries l).primary = c.next gap
  := by cases l <;> rfl

theorem secondary_issueIf (l : Bool) :
  (c.issueIf r gap entries l).secondary = c.secondary
  := by cases l <;> rfl

variable {res : Ending SelectorError Nat}

/-- An activation that does not return leaves the header, and the primary generation does not go
down; one that returns has written the manager rows. -/
theorem activateMove_cases (tidy : Tidy c) {entries : Entries}
    (move : ActivateMove r io entries header c res c') :
  (c'.header = c.header ∧ generationOf c.primary ≤ generationOf c'.primary ∧ ∀ g, res ≠ .ok g) ∨
  (c' = (c.issueRows r io.gap entries).putHeaderIf io.transaction.landed (c.next io.gap) header ∧
    res = io.transaction.logged (c.next io.gap))
  := by
  have issued (l : Bool) :
      generationOf c.primary ≤ generationOf (c.issueIf r io.gap entries l).primary := by
    rw [generationOf_issueIf]
    apply Nat.le_of_lt generationOf_lt_next
  have restored (l : Bool) (settled : c.inTrial = false) :
      generationOf c.primary ≤ generationOf (c.issueIf r io.gap entries l).restore.primary := by
    rw [Cells.restore, secondary_issueIf, tidy.primary_eq_secondary settled]
  cases move with
  | refused =>
    left
    exact ⟨rfl, Nat.le_refl _, nofun⟩
  | cut l =>
    left
    cases l
    · exact ⟨rfl, Nat.le_refl _, nofun⟩
    · exact ⟨rfl, issued false, nofun⟩
  | cutRows l | left l =>
    left
    exact ⟨header_issueIf entries l, issued l, nofun⟩
  | undone l _ _ _ settled =>
    left
    exact ⟨header_issueIf entries l, restored l settled, nofun⟩
  | cutUndo l u _ _ _ settled =>
    left
    cases u
    · exact ⟨header_issueIf entries l, issued l, nofun⟩
    · exact ⟨header_issueIf entries l, restored l settled, nofun⟩
  | written =>
    right
    exact ⟨rfl, rfl⟩

/-- A commit leaves the primary copy and the header. -/
theorem commitMove_keeps {res : Ending SelectorError Unit} (move : CommitMove r io c res c') :
  c'.primary = c.primary ∧ c'.header = c.header
  := by
  cases move with
  | nothing | refused | unreadable | noRows => exact ⟨rfl, rfl⟩
  | cut l => cases l <;> exact ⟨rfl, rfl⟩
  | written => split <;> exact ⟨rfl, rfl⟩

/-- A rollback that returns an error leaves the primary copy, and the header unless it was already
written for the committed one; a rollback that returns has restored the committed copy. -/
theorem rollbackMove_cases (move : RollbackMove r io header c res c') :
  (c'.primary = c.primary ∧ (∀ g, res ≠ .ok g) ∧ (c'.header = c.header ∨
    ∃ s, c.secondary = some s ∧ c.primaryGeneration ≠ some s.generation ∧
      c'.header = some (s.generation, header))) ∨
  ∃ s, c.secondary = some s ∧ c.primaryGeneration ≠ some s.generation ∧ c'.primary = some s ∧
    c'.header = some (s.generation, header) ∧ (res = .ok s.generation ∨ res = .stopped)
  := by
  cases move with
  | unreadable | noTrial | noRows =>
    left
    exact ⟨rfl, nofun, .inl rfl⟩
  | header s secondary trial transaction =>
    left
    cases fault : io.transaction with
    | none => apply absurd fault transaction
    | fails l | stops l =>
      cases l
      · exact ⟨rfl, nofun, .inl rfl⟩
      · exact ⟨rfl, nofun, .inr ⟨s, secondary, trial, rfl⟩⟩
  | lost _ s secondary trial =>
    left
    exact ⟨rfl, nofun, .inr ⟨s, secondary, trial, rfl⟩⟩
  | record s secondary trial _ record =>
    cases fault : io.record with
    | none => apply absurd fault record
    | fails l =>
      left
      cases l
      · exact ⟨rfl, nofun, .inr ⟨s, secondary, trial, rfl⟩⟩
      · apply absurd fault io.record_err
    | stops l =>
      cases l
      · left
        exact ⟨rfl, nofun, .inr ⟨s, secondary, trial, rfl⟩⟩
      · right
        exact ⟨s, secondary, trial, secondary, rfl, .inr rfl⟩
  | written s rows secondary trial =>
    right
    use s, secondary, trial
    cases io.rows with
    | none => exact ⟨secondary, rfl, .inl rfl⟩
    | fails l => cases l <;> exact ⟨secondary, rfl, .inl rfl⟩
    | stops l => cases l <;> exact ⟨secondary, rfl, .inr rfl⟩

end Verbs

/-! ### No header above the primary generation -/

theorem secondary_le_primary (tidy : Tidy c) {v : BootVector} (secondary : c.secondary = some v) :
  v.generation ≤ generationOf c.primary
  := by
  obtain ⟨p, primary, le⟩ := tidy.floor v secondary
  rw [primary]
  apply le

/-- No header is above the primary generation. -/
def HeaderBelow (c : Cells) : Prop :=
  ∀ g h, c.header = some (g, h) → g ≤ generationOf c.primary

/-- The order of the generations, the header and the manager included. -/
structure Below (c : Cells) (manager : Option SystemBankManager) : Prop where
  tidy : Tidy c
  header : HeaderBelow c
  manager : ∀ m, manager = some m → m.generation ≤ generationOf c.primary

namespace HeaderBelow

theorem mono (below : HeaderBelow c) (header : c'.header = c.header)
    (up : generationOf c.primary ≤ generationOf c'.primary) :
  HeaderBelow c'
  := by
  intro g h stored
  apply Nat.le_trans (below g h (header.symm.trans stored)) up

variable {g : Nat}

theorem of_header {h : Transaction} (header : c'.header = some (g, h))
    (le : g ≤ generationOf c'.primary) :
  HeaderBelow c'
  := by
  intro g' h' stored
  cases header.symm.trans stored
  apply le

theorem putHeaderIf (below : HeaderBelow c) (l : Bool) (h : Transaction)
    (le : g ≤ generationOf c.primary) :
  HeaderBelow (c.putHeaderIf l g h)
  := by
  cases l
  · apply below
  · have header : (c.putHeaderIf true g h).header = some (g, h) := rfl
    apply of_header header le

end HeaderBelow

theorem FindsHeader.mem {header : Option (Nat × Transaction)} (found : FindsHeader r io c header)
    {h : Nat × Transaction} (read : header = some h) :
  c.header = some h
  := by
  rcases found with rfl | ⟨-, rfl⟩
  · apply (Option.filter_eq_some_iff.mp read).1
  · cases read

section Below

variable {κ : Signing} {s : StoreState}

/-- Where no header is above the primary generation, a load records nothing. -/
theorem HeaderBelow.load_eq (below : HeaderBelow (s.cells κ)) (r : Routing) (io : Io) :
  (∃ e, load (recordSelectorStore κ r io) s = (.err e, s)) ∨
  ∃ header, FindsHeader r io (s.cells κ) header ∧ load (recordSelectorStore κ r io) s =
    (.ok ((copiesOf (s.cells κ) header).view (copiesOf (s.cells κ) header).headerAtPrimary), s)
  := by
  rcases load_cases κ r io s with
    ⟨-, e, eq⟩ | ⟨header, found, ⟨-, eq⟩ | ⟨marked, unrecorded, -⟩⟩
  · left
    use e
  · right
    use header
  · obtain ⟨⟨g, h⟩, filtered, -⟩ := Option.map_eq_some_iff.mp unrecorded
    obtain ⟨stored, mark⟩ := Option.filter_eq_some_iff.mp filtered
    rw [decide_eq_true_eq] at mark
    have above : generationOf (s.cells κ).primaryVector < g := mark.1
    rw [generationOf_primaryVector] at above
    have := below g h (found.mem stored)
    omega

theorem HeaderBelow.load_store (below : HeaderBelow (s.cells κ)) :
  (Node.started (load (recordSelectorStore κ r io) s)).store = s
  := by
  rcases below.load_eq r io with ⟨e, eq⟩ | ⟨header, -, eq⟩ <;> rw [eq, Node.started]

variable {answer : Ending SelectorError Answer} {x : Running StoreState}
  {t : StoreState} {n : Node}

theorem called_manager (running : (Node.called (answer, x)).manager = some m) :
  m = x.manager ∧ answer ≠ .stopped
  := by
  cases answer with
  | ok | err => exact ⟨(Option.some.inj running).symm, nofun⟩
  | stopped => cases running

theorem Below.load {manager : Option SystemBankManager} (below : Below (s.cells κ) manager) :
  Below ((Node.started (load (recordSelectorStore κ r io) s)).store.cells κ)
    (Node.started (load (recordSelectorStore κ r io) s)).manager
  := by
  rcases below.header.load_eq r io with ⟨e, eq⟩ | ⟨header, -, eq⟩
  · rw [eq]
    use below.tidy, below.header
    nofun
  · rw [eq]
    use below.tidy, below.header
    rintro _ ⟨⟩
    apply Nat.le_of_eq (generationOf_primaryVector (s.cells κ))

/-- The verb of the store that a call of the manager makes. -/
theorem activate_of_call {entries : Entries} {res : Ending SelectorError Nat}
    (call : (recordSelectorStore κ r io).activate entries header s = (res, t)) :
  ActivateMove r io entries header (s.cells κ) res (t.cells κ)
  := by
  have move := activate_moves r io κ entries header s
  rwa [show RecordSelectorStore.activate κ r io entries header s = (res, t) from call] at move

variable {res : Ending SelectorError Unit} {m : SystemBankManager} {op : Op} {n' : Node}

theorem commit_of_call (call : (recordSelectorStore κ r io).commit s = (res, t)) :
  CommitMove r io (s.cells κ) res (t.cells κ)
  := by
  have move := commit_moves r io κ s
  rwa [show RecordSelectorStore.commit κ r io s = (res, t) from call] at move

theorem rollback_of_call {res : Ending SelectorError Nat}
    (call : (recordSelectorStore κ r io).rollback header s = (res, t)) :
  RollbackMove r io header (s.cells κ) res (t.cells κ)
  := by
  have move := rollback_moves r io κ header s
  rwa [show RecordSelectorStore.rollback κ r io header s = (res, t) from call] at move

theorem writeTransaction_of_call {g : Nat}
    (call : (recordSelectorStore κ r io).writeTransaction g header s = (res, t)) :
  res = io.transaction.res (.io io.cause) () ∧
    t.cells κ = (s.cells κ).putHeaderIf io.transaction.landed g header
  := by
  cases call.symm.trans (writeHeader_eq io κ g header s)
  use rfl
  apply cells_putHeaderIf

/-- Every call of the manager keeps the order of the generations. -/
theorem tidy_call (tidy : Tidy (s.cells κ))
    (move : OpMove κ (recordSelectorStore κ r io) ⟨s, m⟩ op answer x) :
  Tidy (x.store.cells κ)
  := by
  cases move with
  | staged | nothing | settled | observes => apply tidy
  | seals _ _ _ _ _ call => apply tidy.activateMove (activate_of_call call)
  | commits _ _ call => apply tidy.commitMove (commit_of_call call)
  | rollsBack _ _ _ _ call => apply tidy.rollbackMove (rollback_of_call call)
  | counts _ _ _ _ _ _ call =>
    rw [(writeTransaction_of_call call).2]
    apply tidy.putHeaderIf

/-- Every call of the manager keeps headers below. -/
theorem Below.call (below : Below (s.cells κ) (some m))
    (move : OpMove κ (recordSelectorStore κ r io) ⟨s, m⟩ op answer x) :
  Below (x.store.cells κ) (Node.called (answer, x)).manager
  := by
  have generation := below.manager m rfl
  use tidy_call below.tidy move
  · cases move with
    | staged | nothing | settled | observes => apply below.header
    | seals _ pending _ _ _ call =>
      rcases activateMove_cases below.tidy (activate_of_call call) with
        ⟨header, up, -⟩ | ⟨cells, -⟩
      · apply below.header.mono header up
      · have issued : HeaderBelow ((s.cells κ).issueRows r io.gap pending) :=
          below.header.mono rfl (Nat.le_of_lt generationOf_lt_next)
        rw [cells]
        apply issued.putHeaderIf _ _ (Nat.le_refl _)
    | commits _ _ call =>
      obtain ⟨primary, header⟩ := commitMove_keeps (commit_of_call call)
      apply below.header.mono header
      rw [primary]
    | rollsBack _ _ _ _ call =>
      rcases rollbackMove_cases (rollback_of_call call) with
        ⟨primary, -, header | ⟨v, secondary, -, header⟩⟩ | ⟨v, -, -, primary, header, -⟩
      · apply below.header.mono header
        rw [primary]
      · apply HeaderBelow.of_header header
        rw [primary]
        apply secondary_le_primary below.tidy secondary
      · apply HeaderBelow.of_header header
        rw [primary]
        apply Nat.le_refl
    | counts _ header _ _ _ _ call =>
      rw [(writeTransaction_of_call call).2]
      apply below.header.putHeaderIf _ _ generation
  · intro m' running
    obtain ⟨rfl, returned⟩ := called_manager running
    have of_primary {t : StoreState} (primary : (t.cells κ).primary = (s.cells κ).primary) :
        m.generation ≤ generationOf (t.cells κ).primary := by
      rw [primary]
      apply generation
    cases move with
    | staged | nothing | settled | observes => apply generation
    | seals _ _ res t _ call =>
      rcases activateMove_cases below.tidy (activate_of_call call) with
        ⟨-, up, failed⟩ | ⟨cells, logged⟩
      · cases res with
        | ok g => apply absurd rfl (failed g)
        | err => apply Nat.le_trans generation up
        | stopped => apply absurd rfl returned
      · have primary : generationOf (t.cells κ).primary = (s.cells κ).next io.gap := by
          rw [cells, primary_putHeaderIf]
          rfl
        cases res with
        | ok g =>
          have issued : g = (s.cells κ).next io.gap := by
            cases fault : io.transaction <;> rw [fault] at logged <;> cases logged <;> rfl
          apply Nat.le_of_eq (issued.trans primary.symm)
        | err => cases fault : io.transaction <;> rw [fault] at logged <;> cases logged
        | stopped => apply absurd rfl returned
    | commits res _ call =>
      have primary := (commitMove_keeps (commit_of_call call)).1
      cases res <;> apply of_primary primary
    | rollsBack _ res _ _ call =>
      rcases rollbackMove_cases (rollback_of_call call) with
        ⟨primary, failed, -⟩ | ⟨v, -, -, primary, -, ok | stopped⟩
      · cases res with
        | ok g => apply absurd rfl (failed g)
        | err | stopped => apply of_primary primary
      · cases ok
        rw [primary]
        apply Nat.le_refl
      · cases stopped
        apply absurd rfl returned
    | counts _ _ res t _ _ call =>
      have cells := (writeTransaction_of_call call).2
      have primary : (t.cells κ).primary = (s.cells κ).primary := by rw [cells, primary_putHeaderIf]
      cases res <;> apply of_primary primary

theorem called_store (answer : Ending SelectorError Answer) (x : Running StoreState) :
  (Node.called (answer, x)).store = x.store
  := by cases answer <;> rfl

/-- What the loads, the calls and the loss of the manager keep is kept by every run without the boot
stage. -/
theorem keep_of_run {P : Cells → Option SystemBankManager → Prop} (changes : Cells → Cells → Prop)
    (lost : ∀ {c manager}, P c manager → P c none)
    (load : ∀ {io s manager}, P (s.cells κ) manager →
      changes (s.cells κ) ((Node.started (load (recordSelectorStore κ r io) s)).store.cells κ) →
      P ((Node.started (SystemBank.load (recordSelectorStore κ r io) s)).store.cells κ)
        (Node.started (SystemBank.load (recordSelectorStore κ r io) s)).manager)
    (call : ∀ {io s m op answer x}, P (s.cells κ) (some m) →
      OpMove κ (recordSelectorStore κ r io) ⟨s, m⟩ op answer x →
        changes (s.cells κ) (x.store.cells κ) →
      P (x.store.cells κ) (Node.called (answer, x)).manager)
    (kept : P (n.store.cells κ) n.manager)
    (run : Reachable (· = n) (fun n n' => NodeStep κ r (· ≠ .bootStage) n n' ∧
      changes (n.store.cells κ) (n'.store.cells κ)) n') :
  P (n'.store.cells κ) n'.manager
  := by
  apply run.invariant (P := fun n => P (n.store.cells κ) n.manager)
  · rintro _ rfl
    apply kept
  · rintro ⟨s, manager⟩ _ kept ⟨⟨io, event, other, rfl⟩, changed⟩
    cases event with
    | load => apply load kept changed
    | call op =>
      cases manager with
      | none => apply kept
      | some m =>
        rw [Node.after, called_store] at changed ⊢
        apply call kept (op.moves κ (recordSelectorStore κ r io) ⟨s, m⟩) changed
    | crash => apply lost kept
    | bootStage => apply absurd rfl other

/-- Without the boot stage headers stay below. -/
theorem Below.run (below : Below (n.store.cells κ) n.manager)
    (run : NodeRun κ r (· ≠ .bootStage) n n') :
  Below (n'.store.cells κ) n'.manager
  := by
  apply keep_of_run (r := r) (fun _ _ => True) _ _ _ below
  · apply run.mono fun n n' step => ⟨step, trivial⟩
  · intro c manager below
    exact ⟨below.tidy, below.header, nofun⟩
  · intro io s manager below _
    apply below.load
  · intro io s m op answer x below move _
    apply below.call move

theorem below_empty :
  Below (({} : Node).store.cells κ) ({} : Node).manager
  := ⟨Tidy.empty, nofun, nofun⟩

theorem started_store (result : Ending SelectorError SystemBankManager × StoreState) :
  (Node.started result).store = result.2
  := by rcases result with ⟨_ | _ | _, t⟩ <;> rfl

/-- A load may write a header. -/
theorem tidy_load (tidy : Tidy (s.cells κ)) :
  Tidy ((Node.started (load (recordSelectorStore κ r io) s)).store.cells κ)
  := by
  rw [started_store]
  rcases load_cases κ r io s with
    ⟨-, e, eq⟩ | ⟨header, -, ⟨-, eq⟩ | ⟨marked, -, eq⟩⟩
  · rw [eq]
    apply tidy
  · rw [eq]
    apply tidy
  · rw [eq, cells_putHeaderIf]
    apply tidy.putHeaderIf

/-- Every event keeps the order of the generations. -/
theorem tidy_of_nodeRun {allowed : NodeEvent → Prop} (run : NodeRun κ r allowed {} n) :
  Tidy (n.store.cells κ)
  := by
  apply run.invariant (P := fun n => Tidy (n.store.cells κ))
  · rintro _ rfl
    apply Tidy.empty
  · rintro n _ tidy ⟨io, event, -, rfl⟩
    cases event with
    | load => apply tidy_load tidy
    | call op =>
      obtain ⟨s, _ | m⟩ := n
      · apply tidy
      · have moved := tidy_call tidy (op.moves κ (recordSelectorStore κ r io) ⟨s, m⟩)
        rw [← called_store] at moved
        apply moved
    | crash => apply tidy
    | bootStage => apply tidy.restore

end Below

end SystemBank
