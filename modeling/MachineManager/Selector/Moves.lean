import MachineManager.Selector.Cells

/-!
# What each verb of the store can do

One relation for each verb of the store lists how a call can end and what it then leaves in the
cells, with the faults and the cells that lead there; the calls of the store are shown to be
covered. Everything that is proved about whole runs of the store rests on these relations alone.
-/

open Option

namespace Selector

open SelectorBlob RecordSelectorStore Call BootRecord StoreState

namespace Cells

variable (r : Routing) (c : Cells) (gap : Nat) (entries : Entries)

/-- The record after an activation. -/
def issue : Cells :=
  { c with primary := some { generation := c.next gap, entries := r.recordRows entries } }

def issueRows : Cells :=
  { c.issue r gap entries with
    rows := some { generation := c.next gap, entries := r.managerRows entries } }

/-- The record after an activation, and its manager rows if they landed. -/
def issueIf (landed : Bool) : Cells :=
  if landed then c.issueRows r gap entries else c.issue r gap entries

/-- The two copies are at different generations, where an absent copy counts as zero. -/
def inTrial : Bool :=
  c.primaryGeneration.getD 0 != c.secondaryGeneration.getD 0

def restore : Cells :=
  { c with primary := c.secondary }

def anchor : Cells :=
  { c with secondary := c.primary }

def putHeaderIf (landed : Bool) (g : Nat) (header : Transaction) : Cells :=
  if landed then { c with header := some (g, header) } else c

variable {c gap}

/-- The generation of the secondary copy is below the one that is issued. -/
theorem secondary_ne_next {v : BootVector} (h : c.secondary = some v) :
  c.next gap ≠ v.generation
  := by
  simp only [next, nextGeneration, h, elim_some]
  omega

end Cells

variable (r : Routing) (io : Io)

/-- What an activation can do. -/
inductive ActivateMove (entries : Entries) (header : Transaction) (c : Cells) :
    Ending SelectorError Nat → Cells → Prop
  | refused (e : SelectorError) (why : io.Unreadable ∨ io.record = .fails false) :
      ActivateMove entries header c (.err e) c
  | cut (l : Bool) (record : io.record = .stops l) :
      ActivateMove entries header c .stopped (if l then c.issue r io.gap entries else c)
  | cutRows (l : Bool) (record : io.record = .none) (rows : io.rows = .stops l) :
      ActivateMove entries header c .stopped (c.issueIf r io.gap entries l)
  | left (l : Bool) (record : io.record = .none) (rows : io.rows = .fails l)
      (why : c.inTrial = true ∨ c.secondary = none ∨ io.undo = .fails false ∨ io.Unreadable) :
      ActivateMove entries header c (.err (.io io.cause)) (c.issueIf r io.gap entries l)
  | undone (l : Bool) (record : io.record = .none) (rows : io.rows = .fails l)
      (undo : io.undo = .none) (settled : c.inTrial = false) (floor : c.secondary ≠ none) :
      ActivateMove entries header c (.err (.io io.cause)) (c.issueIf r io.gap entries l).restore
  | cutUndo (l u : Bool) (record : io.record = .none) (rows : io.rows = .fails l)
      (undo : io.undo = .stops u) (settled : c.inTrial = false) (floor : c.secondary ≠ none) :
      ActivateMove entries header c .stopped
        (if u then (c.issueIf r io.gap entries l).restore else c.issueIf r io.gap entries l)
  | written (record : io.record = .none) (rows : io.rows = .none) :
      ActivateMove entries header c (io.transaction.logged (c.next io.gap))
        ((c.issueRows r io.gap entries).putHeaderIf io.transaction.landed (c.next io.gap) header)

/-- What a commit can do. -/
inductive CommitMove (c : Cells) : Ending SelectorError Unit → Cells → Prop
  | nothing (absent : c.primary = none) : CommitMove c (.ok ()) c
  | refused (e : SelectorError) (why : io.Unreadable ∨ io.record = .fails false) :
      CommitMove c (.err e) c
  | cut (l : Bool) (record : io.record = .stops l) :
      CommitMove c .stopped (if l then c.anchor else c)
  | unreadable (e : SelectorError) (record : io.record = .none) (bad : io.Unreadable) :
      CommitMove c (.err e) c.anchor
  | noRows (p : BootVector) (record : io.record = .none) (primary : c.primary = some p)
      (rows : c.rowsAt p.generation = none) (some_routed : r.routesEverything = false) :
      CommitMove c (.err (.io ("no manager rows at generation " ++ toString p.generation))) c.anchor
  | written (p : BootVector) (rows : Entries) (record : io.record = .none)
      (primary : c.primary = some p)
      (found : c.rowsAt p.generation = some rows ∨
        c.rowsAt p.generation = none ∧ r.routesEverything = true ∧ rows = ∅) :
      CommitMove c (io.committed.res (.io io.cause) ())
        (if io.committed.landed then
          { c.anchor with committed := some { generation := p.generation, entries := rows } }
        else c.anchor)

/-- What a rollback can do. -/
inductive RollbackMove (header : Transaction) (c : Cells) :
    Ending SelectorError Nat → Cells → Prop
  | unreadable (e : SelectorError) (bad : io.Unreadable) : RollbackMove header c (.err e) c
  | noTrial (settled : ∀ s, c.secondary = some s → c.primaryGeneration = some s.generation) :
      RollbackMove header c (.err .noTrial) c
  | noRows (s : BootVector) (secondary : c.secondary = some s)
      (trial : c.primaryGeneration ≠ some s.generation)
      (rows : c.committedAt s.generation = none) (some_routed : r.routesEverything = false) :
      RollbackMove header c
        (.err (.io ("no manager rows at generation " ++ toString s.generation))) c
  | header (s : BootVector) (secondary : c.secondary = some s)
      (trial : c.primaryGeneration ≠ some s.generation) (transaction : io.transaction ≠ .none) :
      RollbackMove header c (io.transaction.res (.io io.cause) s.generation)
        (c.putHeaderIf io.transaction.landed s.generation header)
  | lost (e : SelectorError) (s : BootVector) (secondary : c.secondary = some s)
      (trial : c.primaryGeneration ≠ some s.generation) (transaction : io.transaction = .none)
      (bad : io.Unreadable) :
      RollbackMove header c (.err e) (c.putHeaderIf true s.generation header)
  | record (s : BootVector) (secondary : c.secondary = some s)
      (trial : c.primaryGeneration ≠ some s.generation) (transaction : io.transaction = .none)
      (record : io.record ≠ .none) :
      RollbackMove header c (io.record.res (.io io.cause) s.generation)
        (if io.record.landed then (c.putHeaderIf true s.generation header).restore
        else c.putHeaderIf true s.generation header)
  | written (s : BootVector) (rows : Entries)
      (secondary : c.secondary = some s) (trial : c.primaryGeneration ≠ some s.generation)
      (found : c.committedAt s.generation = some rows ∨
        c.committedAt s.generation = none ∧ r.routesEverything = true ∧ rows = ∅)
      (transaction : io.transaction = .none) (record : io.record = .none) :
      RollbackMove header c (io.rows.logged s.generation)
        (if io.rows.landed then
          { (c.putHeaderIf true s.generation header).restore with
            rows := some { generation := s.generation, entries := rows } }
        else (c.putHeaderIf true s.generation header).restore)

/-! ### The calls of the store are covered -/

section Cover

variable (κ : Signing) {s : StoreState} {v : BootVector} {header : Transaction}

theorem cells_putHeaderIf (l : Bool) (g : Nat) (header : Transaction) (s : StoreState) :
  (if l then s.putFile (signed κ g ∅ (some header)) .transaction else s).cells κ =
    (s.cells κ).putHeaderIf l g header
  := by
  cases l with
  | false => rfl
  | true =>
    rw [if_pos rfl, cells_putHeader]
    rfl

theorem writeHeader_eq (g : Nat) (header : Transaction) (s : StoreState) :
  writeHeader κ io g header s =
    (io.transaction.res (.io io.cause) (),
      if io.transaction.landed then s.putFile (signed κ g ∅ (some header)) .transaction else s)
  := by
  rw [writeHeader, SignedFiles.writeBlob, run_write]
  rfl

theorem writeRows_eq (name : FileName) (g : Nat) (rows : Entries) (s : StoreState) :
  writeRows κ io name g rows s =
    ((io.file name).res (.io io.cause) (),
      if (io.file name).landed then s.putFile (signed κ g rows none) name else s)
  := by rw [writeRows, SignedFiles.writeBlob, run_write]

section Record

/-- A write of the record does nothing if it fails. -/
theorem yields_recordWrite {fault : Fault} {update : StoreState → StoreState}
    {Q : Ending SelectorError Unit → StoreState → Prop} (atomic : fault ≠ .fails true)
    (none : fault = .none → Q (.ok ()) (update s))
    (fails : fault = .fails false → Q (.err (.io io.cause)) s)
    (stops : ∀ l, fault = .stops l → Q .stopped (if l then update s else s)) :
  Yields (write fault (.io io.cause) update) s Q
  := by
  apply yields_write none _ stops
  intro l failed
  cases l with
  | false => exact fails failed
  | true => exact absurd failed atomic

theorem yields_recordRollback {Q : Ending SelectorError Nat → StoreState → Prop} (fault : Fault)
    (unreadable : io.Unreadable → ∀ e, Q (.err e) s)
    (settled : (∀ v, s.record.secondary = some v →
      s.record.primary.map (·.generation) = some v.generation) → Q (.err .noTrial) s)
    (back : ∀ v, s.record.secondary = some v → s.record.primary.map (·.generation) ≠
      some v.generation →
      Yields (write fault (.io io.cause) (·.putPrimary (some v)) >>= fun _ =>
        pure v.generation) s Q) :
  Yields (rollback io fault) s Q
  := by
  refine (reads_read io .primary).yields_bind ?_ unreadable
  refine (reads_read io .secondary).yields_bind ?_ unreadable
  split
  next absent =>
    apply settled
    intro v secondary
    simpa [copy] using filter_eq_none_iff.mp absent v secondary
  next v found =>
    obtain ⟨secondary, trial⟩ := filter_eq_some_iff.mp found
    apply back v secondary
    simpa [copy] using trial

/-- The manager rows at a generation, and what comes after them. -/
theorem yields_required_bind {β : Type} {R : Ending SelectorError β → StoreState → Prop}
    {f : Entries → Access β} (found : Option Entries) (g : Nat)
    (has : ∀ rows, found = some rows ∨ found = none ∧ r.routesEverything = true ∧ rows = ∅ →
      Yields (f rows) s R)
    (lacks : found = none → r.routesEverything = false →
      R (.err (.io ("no manager rows at generation " ++ toString g))) s) :
  Yields (required r found g >>= f) s R
  := by
  cases found with
  | some rows => exact has rows (.inl rfl)
  | none =>
    cases everything : r.routesEverything with
    | true =>
      rw [required, if_pos everything]
      exact has ∅ (.inr ⟨rfl, everything, rfl⟩)
    | false =>
      rw [required, if_neg (by simp [everything])]
      exact lacks rfl everything

end Record

def StoreState.issue (s : StoreState) (entries : Entries) : StoreState :=
  s.putPrimary (some { generation := (s.cells κ).next io.gap, entries := r.recordRows entries })

theorem StoreState.cells_issueIf (s : StoreState) (entries : Entries) (l : Bool) :
  (if l then (s.issue r io κ entries).putFile
    (signed κ ((s.cells κ).next io.gap) (r.managerRows entries) none) .rows
    else s.issue r io κ entries).cells κ =
    (s.cells κ).issueIf r io.gap entries l
  := by
  cases l with
  | false => rfl
  | true =>
    rw [if_pos rfl, cells_putRows]
    rfl

/-- An activation that is taken back. -/
theorem undo_moves (record : io.record = .none) {l : Bool} (rows : io.rows = .fails l)
    (settled : (s.cells κ).inTrial = false) {entries : Entries} {t : StoreState}
    (cells : t.cells κ = (s.cells κ).issueIf r io.gap entries l) :
  Yields (ignore (rollback io io.undo) >>= fun _ => fail (.io io.cause) : Access Nat) t
    fun res u => ActivateMove r io entries header (s.cells κ) res (u.cells κ)
  := by
  have primary : t.record.primary.map (·.generation) = some ((s.cells κ).next io.gap) := by
    have : t.record.primary = (t.cells κ).primary := rfl
    rw [this, cells]
    cases l <;> rfl
  have secondary : t.record.secondary = (s.cells κ).secondary := by
    have : t.record.secondary = (t.cells κ).secondary := rfl
    rw [this, cells]
    cases l <;> rfl
  have left : (s.cells κ).inTrial = true ∨ (s.cells κ).secondary = none ∨ io.undo = .fails false ∨
      io.Unreadable → ActivateMove r io entries header (s.cells κ) (.err (.io io.cause))
        (t.cells κ) := by
    intro why
    rw [cells]
    exact .left l record rows why
  apply yields_ignore_bind
  apply yields_recordRollback
  · intro bad e
    exact left (.inr (.inr (.inr bad)))
  · intro same
    apply left (.inr (.inl _))
    rw [secondary, primary] at same
    cases none : (s.cells κ).secondary with
    | none => rfl
    | some v => exact absurd (some.inj (same v none)) (Cells.secondary_ne_next none)
  · rintro v hv -
    have floor : (s.cells κ).secondary ≠ none := by
      rw [← secondary, hv]
      nofun
    have restored : (t.putPrimary (some v)).cells κ =
      ((s.cells κ).issueIf r io.gap entries l).restore := by
      rw [cells_putPrimary, cells, ← hv, secondary]
      cases l <;> rfl
    apply yields_seq
    apply yields_recordWrite io io.undo_err
    · intro undo
      have move : ActivateMove r io entries header (s.cells κ) _ _ :=
        .undone l record rows undo settled floor
      rw [← restored] at move
      exact move
    · intro undo
      exact left (.inr (.inr (.inl undo)))
    · intro u undo
      have cut : ActivateMove r io entries header (s.cells κ) _ _ :=
        .cutUndo l u record rows undo settled floor
      rw [← restored, ← cells] at cut
      cases u <;> exact cut

/-- The side files of an activation. -/
theorem writeActivation_moves (record : io.record = .none) (entries : Entries) :
  Yields (writeActivation κ io (s.cells κ).inTrial ((s.cells κ).next io.gap)
    (r.managerRows entries) header)
    (s.issue r io κ entries) fun res t => ActivateMove r io entries header
      (s.cells κ) res (t.cells κ)
  := by
  apply yields_attempt_write_bind
  · intro rows
    dsimp only [Yields]
    rw [run_ignore_pure ((s.cells κ).next io.gap) (writeHeader_eq io κ _ header _),
      cells_putHeaderIf, cells_putRows]
    exact .written record rows
  · intro l rows
    have cells := s.cells_issueIf r io κ entries l
    cases trial : (s.cells κ).inTrial with
    | true =>
      have left : ActivateMove r io entries header (s.cells κ) _ _ :=
        .left l record rows (.inl trial)
      rw [← cells] at left
      exact left
    | false => exact undo_moves r io κ record rows trial cells
  · intro l rows
    have cut : ActivateMove r io entries header (s.cells κ) _ _ := .cutRows l record rows
    rw [← s.cells_issueIf r io κ entries l] at cut
    exact cut

/-- Every activation is one of the listed moves. -/
theorem activate_moves (entries : Entries) (header : Transaction) (s : StoreState) :
  ActivateMove r io entries header (s.cells κ) (activate κ r io entries header s).1
    ((activate κ r io entries header s).2.cells κ)
  := by
  show Yields _ s fun res t => ActivateMove r io entries header (s.cells κ) res (t.cells κ)
  have unreadable (bad : io.Unreadable) (e : SelectorError) :
    ActivateMove r io entries header (s.cells κ) (.err e) (s.cells κ) := .refused e (.inl bad)
  refine (reads_generation io .primary).yields_bind ?_ unreadable
  refine (reads_generation io .secondary).yields_bind ?_ unreadable
  apply yields_seq
  refine (reads_read io .primary).yields_bind ?_ unreadable
  refine (reads_read io .secondary).yields_bind ?_ unreadable
  apply yields_seq
  apply yields_recordWrite io io.record_err
  · intro record
    exact writeActivation_moves r io κ record entries
  · intro record
    exact .refused _ (.inr record)
  · intro l record
    cases l <;> exact .cut _ record

/-- The commit of a primary copy. -/
theorem commitAt_moves {p : BootVector} (primary : s.record.primary = some p) :
  Yields (commitAt κ r io p.generation) s fun res t =>
    CommitMove r io (s.cells κ) res (t.cells κ)
  := by
  have secondary : (s.putSecondary (some p)).cells κ = (s.cells κ).anchor := by
    rw [← primary]
    rfl
  apply yields_seq
  refine (reads_read io .primary).yields_bind ?_ fun bad e => .refused e (.inl bad)
  simp only [copy, primary]
  apply yields_recordWrite io io.record_err
  · intro record
    refine (reads_rows_committed κ io p.generation).yields_bind ?_ ?_
    · apply yields_required_bind r
      · intro rows found
        rw [Yields, writeRows_eq, apply_ite (cells κ), cells_putCommitted, secondary]
        exact .written p rows record primary found
      · intro absent some_routed
        rw [secondary]
        exact .noRows p record primary absent some_routed
    · intro bad e
      rw [secondary]
      exact .unreadable e record bad
  · intro record
    exact .refused _ (.inr record)
  · intro l record
    have cut : CommitMove r io (s.cells κ) _ _ := .cut l record
    rw [← secondary] at cut
    cases l <;> exact cut

/-- Every commit is one of the listed moves. -/
theorem commit_moves (s : StoreState) :
  CommitMove r io (s.cells κ) (commit κ r io s).1 ((commit κ r io s).2.cells κ)
  := by
  show Yields _ s fun res t => CommitMove r io (s.cells κ) res (t.cells κ)
  refine (reads_generation io .primary).yields_bind ?_ fun bad e => .refused e (.inl bad)
  simp only [copy]
  cases primary : s.record.primary with
  | none => exact .nothing primary
  | some => exact commitAt_moves r io κ primary

/-- The record and the manager rows of a rollback, after its header was written. -/
theorem rollbackTo_moves_record (secondary : s.record.secondary = some v)
    (trial : (s.cells κ).primaryGeneration ≠ some v.generation) {rows : Entries}
    (found : (s.cells κ).committedAt v.generation = some rows ∨
      (s.cells κ).committedAt v.generation = none ∧ r.routesEverything = true ∧ rows = ∅)
    (transaction : io.transaction = .none) {t : StoreState} (same : t.record = s.record)
    (cells : t.cells κ = (s.cells κ).putHeaderIf true v.generation header) :
  Yields (do
      let g ← rollback io io.record
      Call.ignore (writeRows κ io .rows g rows)
      return g : Access Nat) t
    fun res t => RollbackMove r io header (s.cells κ) res (t.cells κ)
  := by
  apply yields_seq
  apply yields_recordRollback
  · intro bad e
    rw [cells]
    exact .lost e v secondary trial transaction bad
  · intro settled
    rw [same] at settled
    exact absurd (settled v secondary) trial
  rintro v' floor -
  obtain rfl := some.inj (floor.symm.trans (same ▸ secondary))
  have restored : (t.putPrimary (some v')).cells κ =
      ((s.cells κ).putHeaderIf true v'.generation header).restore := by
    rw [cells_putPrimary, cells, ← secondary]
    rfl
  apply yields_seq
  apply yields_recordWrite io io.record_err
  · intro record
    apply yields_pure
    dsimp only [Yields]
    rw [run_ignore_pure v'.generation (writeRows_eq io κ .rows _ rows _),
      apply_ite (StoreState.cells κ), cells_putRows, restored]
    exact .written v' rows secondary trial found transaction record
  · intro record
    have move : RollbackMove r io header (s.cells κ) _ _ :=
      .record v' secondary trial transaction (by simp [record])
    rw [record, ← cells] at move
    exact move
  · intro l record
    have move : RollbackMove r io header (s.cells κ) _ _ :=
      .record v' secondary trial transaction (by simp [record])
    rw [record, ← restored, ← cells] at move
    cases l <;> exact move

/-- The rollback to a committed copy. -/
theorem rollbackTo_moves (secondary : s.record.secondary = some v)
    (trial : (s.cells κ).primaryGeneration ≠ some v.generation) :
  Yields (rollbackTo κ r io v.generation header) s
    fun res t => RollbackMove r io header (s.cells κ) res (t.cells κ)
  := by
  refine (reads_committed_rows κ io v.generation).yields_bind ?_ fun bad e => .unreadable e bad
  apply yields_required_bind r
  · intro rows found
    apply yields_seq
    apply yields_write
    · intro transaction
      exact rollbackTo_moves_record r io κ secondary trial found transaction
        rfl (cells_putHeaderIf κ true _ _ _)
    · intro l transaction
      have move : RollbackMove r io header (s.cells κ) _ _ :=
        .header v secondary trial (by simp [show io.transaction = .fails l from transaction])
      rw [show io.transaction = .fails l from transaction, ← cells_putHeaderIf] at move
      exact move
    · intro l transaction
      have move : RollbackMove r io header (s.cells κ) _ _ :=
        .header v secondary trial (by simp [show io.transaction = .stops l from transaction])
      rw [show io.transaction = .stops l from transaction, ← cells_putHeaderIf] at move
      exact move
  · intro absent some_routed
    exact .noRows v secondary trial absent some_routed

/-- Every rollback is one of the listed moves. -/
theorem rollback_moves (header : Transaction) (s : StoreState) :
  RollbackMove r io header (s.cells κ) (rollback κ r io header s).1
    ((rollback κ r io header s).2.cells κ)
  := by
  show Yields _ s fun res t => RollbackMove r io header (s.cells κ) res (t.cells κ)
  refine (reads_generation io .primary).yields_bind ?_ fun bad e => .unreadable e bad
  refine (reads_generation io .secondary).yields_bind ?_ fun bad e => .unreadable e bad
  split
  next absent =>
    apply RollbackMove.noTrial
    intro v secondary
    have none := filter_eq_none_iff.mp absent v.generation (congrArg _ secondary)
    simpa [Cells.primaryGeneration, cells, copy] using none
  next g found =>
    obtain ⟨has, trial⟩ := filter_eq_some_iff.mp found
    obtain ⟨v, secondary, rfl⟩ := map_eq_some_iff.mp has
    apply rollbackTo_moves r io κ secondary
    simpa [Cells.primaryGeneration, cells, copy] using trial

end Cover

end Selector
