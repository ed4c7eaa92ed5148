import MachineManager.Selector.Runs

/-!
# Which activation the rows come from

The record and the side files are written one after the other, and only a generation ties them
together. To say which activation a row comes from, a run is traced: beside the medium it carries
the selections that were given to the activations.

In every run, a side file at the generation of a copy of the record holds the manager rows of the
activation that the copy comes from, as long as no activation is cut off before its manager rows are
written while `rows` is already at the generation it issues.
-/

namespace Selector

open SelectorBlob RecordSelectorStore

namespace Routing

variable (r : Routing) (entries : Entries)

theorem union_recordRows_managerRows :
  (r.recordRows entries).union (r.managerRows entries) = entries
  := Entries.union_only r.routes entries

open Std.ExtTreeMap

theorem parts_union (a b : Entries) :
  r.recordRows ((r.recordRows a).union (r.managerRows b)) = r.recordRows a ∧
    r.managerRows ((r.recordRows a).union (r.managerRows b)) = r.managerRows b
  := by
  constructor
  all_goals
    apply ext_getElem?
    intro id
    simp only [recordRows, managerRows, Entries.union, getElem?_union, Entries.getElem?_only]
    cases r.routes id <;> simp

theorem managerRows_managerRows :
  r.managerRows (r.managerRows entries) = r.managerRows entries
  := by
  apply ext_getElem?
  intro id
  simp only [managerRows, Entries.getElem?_only]
  cases r.routes id <;> simp

@[simp]
theorem managerRows_empty :
  r.managerRows ∅ = ∅
  := by
  apply ext_getElem?
  simp [managerRows, Entries.getElem?_only]

/-- A record that routes everything leaves no manager rows. -/
theorem managerRows_of_everything (everything : r.routesEverything = true) (entries : Entries) :
  r.managerRows entries = ∅
  := by
  apply ext_getElem?
  intro id
  simp [managerRows, Entries.getElem?_only, r.routes_of_everything everything id]

end Routing

/-! ### Traced runs -/

/-- The selections that were given to activations: to the ones that the copies of the record come
from, to all of them, and to the ones that were committed. -/
structure Given where
  primary : Option Entries := none
  secondary : Option Entries := none
  past : List Entries := []
  committed : List Entries := []
deriving DecidableEq

/-- What was given, after a call that led from one record to another. -/
def Given.after (g : Given) (old new : BootRecord) : StoreCall → Given
  | .activate entries _ =>
    { g with
      primary := if new.primary = old.primary then g.primary else some entries
      past := entries :: g.past }
  | .commit =>
    if new.secondary = old.secondary then g
    else { g with secondary := g.primary, committed := g.primary.toList ++ g.committed }
  | .rollback _ => { g with primary := if new.primary = old.primary then g.primary
      else g.secondary }
  | .bootStage => { g with primary := g.secondary }

/-- The medium, and what was given to the activations that led to it. -/
structure Traced where
  store : StoreState := {}
  given : Given := {}

def Traced.call (κ : Signing) (r : Routing) (io : Io) (t : Traced) (call : StoreCall) : Traced where
  store := call.run κ r io t.store
  given := t.given.after t.store.record (call.run κ r io t.store).record call

/-- The states that are reached from the empty medium by calls with the property `ok`. -/
def TracedRun (κ : Signing) (r : Routing) (ok : Io → StoreState → StoreCall → Prop) :
    Traced → Prop :=
  Reachable (· = {}) fun t t' => ∃ io call, ok io t.store call ∧ t' = t.call κ r io call

variable {κ : Signing} {r : Routing} {t : Traced} {g : Given} {c c' : Cells} {rows : Entries}
  {gap : Nat} {ok : Io → StoreState → StoreCall → Prop}

theorem TracedRun.store (run : TracedRun κ r ok t) :
  StoreRun κ r t.store
  := by
  apply run.invariant (P := fun t => StoreRun κ r t.store)
  · rintro _ rfl
    exact .init rfl
  · rintro t _ reached ⟨io, call, -, rfl⟩
    apply reached.step ⟨io, call, rfl⟩

/-! ### Where the rows come from -/

/-- The copy comes from the activation that was given `given`, and so do the manager rows at its
generation. -/
def Comes (r : Routing) (c : Cells) (copy : Option BootVector) (given : Option Entries) : Prop :=
  ∀ v, copy = some v → ∃ entries, given = some entries ∧ v.entries = r.recordRows entries ∧
    ∀ file, c.rows = some file ∨ c.committed = some file → file.generation = v.generation →
      file.entries = r.managerRows entries

def FromPast (r : Routing) (g : Given) (file : Option BootVector) : Prop :=
  ∀ x, file = some x → x.entries = ∅ ∨ ∃ entries ∈ g.past, x.entries = r.managerRows entries

/-- The side files and the record fit together. -/
structure Attributed (r : Routing) (c : Cells) (g : Given) : Prop where
  tidy : Tidy c
  primary : Comes r c c.primary g.primary
  secondary : Comes r c c.secondary g.secondary
  rows : FromPast r g c.rows
  committed : FromPast r g c.committed

section Comes

variable {copy : Option BootVector} {given : Option Entries}

/-- Manager rows at another generation do not matter. -/
theorem Comes.putRows (h : Comes r c copy given) {x : BootVector}
    (other : ∀ v, copy = some v → x.generation ≠ v.generation) :
  Comes r { c with rows := some x } copy given
  := by
  intro v hv
  obtain ⟨entries, hgiven, hrecord, hfiles⟩ := h v hv
  use entries, hgiven, hrecord
  rintro file (hfile | hfile) hg
  · cases hfile
    apply absurd hg (other v hv)
  · apply hfiles file (.inr hfile) hg

/-- Manager rows that were found at a generation, in a side file or as the empty rows of a record
that routes everything. -/
def Found (r : Routing) (c : Cells) (generation : Nat) (rows : Entries) : Prop :=
  c.rows = some { generation, entries := rows } ∨ c.committed =
    some { generation, entries := rows } ∨ r.routesEverything = true ∧ rows = ∅

variable {n : Nat}

theorem found_of_rowsAt
    (h : c.rowsAt n = some rows ∨ c.rowsAt n = none ∧ r.routesEverything = true ∧ rows = ∅) :
  Found r c n rows
  := by
  rcases h with h | ⟨-, h⟩
  · rcases Option.or_eq_some_iff.mp h with h | ⟨-, h⟩
    · left
      apply entriesAt_eq_some.mp h
    · right
      left
      apply entriesAt_eq_some.mp h
  · right
    right
    apply h

theorem found_of_committedAt (h : c.committedAt n = some rows ∨
      c.committedAt n = none ∧ r.routesEverything = true ∧ rows = ∅) :
  Found r c n rows
  := by
  rcases h with h | ⟨-, h⟩
  · rcases Option.or_eq_some_iff.mp h with h | ⟨-, h⟩
    · right
      left
      apply entriesAt_eq_some.mp h
    · left
      apply entriesAt_eq_some.mp h
  · right
    right
    apply h

variable {v : BootVector}

/-- The manager rows that are found at the generation of the copy. -/
theorem Comes.found (h : Comes r c copy given) (hv : copy = some v)
    (found : Found r c v.generation rows) :
  ∃ entries, given = some entries ∧ v.entries = r.recordRows entries ∧ rows = r.managerRows entries
  := by
  obtain ⟨entries, hgiven, hrecord, hfiles⟩ := h v hv
  use entries, hgiven, hrecord
  rcases found with found | found | ⟨everything, rfl⟩
  · apply hfiles _ (.inl found) rfl
  · apply hfiles _ (.inr found) rfl
  · rw [r.managerRows_of_everything everything]

/-- Manager rows that were found at the generation of the copy are written to a side file. -/
theorem Comes.putFound (h : Comes r c copy given) (hv : copy = some v)
    (found : Found r c v.generation rows)
    (hrows : c'.rows = c.rows ∨ c'.rows = some { generation := v.generation, entries := rows })
    (hcommitted : c'.committed = c.committed ∨
      c'.committed = some { generation := v.generation, entries := rows }) :
  Comes r c' copy given
  := by
  intro v' hv'
  obtain ⟨entries, hgiven, hrecord, hfiles⟩ := h v' hv'
  obtain rfl : v = v' := Option.some.inj (hv.symm.trans hv')
  obtain ⟨entries', hgiven', -, hfound⟩ := h.found hv found
  obtain rfl : entries = entries' := Option.some.inj (hgiven.symm.trans hgiven')
  use entries, hgiven, hrecord
  rintro file (hfile | hfile) hg
  · rcases hrows with hrows | hrows
    · apply hfiles file (.inl (hrows ▸ hfile)) hg
    · cases hrows.symm.trans hfile
      apply hfound
  · rcases hcommitted with hcommitted | hcommitted
    · apply hfiles file (.inr (hcommitted ▸ hfile)) hg
    · cases hcommitted.symm.trans hfile
      apply hfound

theorem fromPast_found (hrows : FromPast r g c.rows) (hcommitted : FromPast r g c.committed)
    (found : Found r c n rows) :
  FromPast r g (some { generation := n, entries := rows })
  := by
  rintro x ⟨⟩
  rcases found with found | found | ⟨-, rfl⟩
  · apply hrows _ found
  · apply hcommitted _ found
  · left
    rfl

theorem FromPast.mono {g' : Given} {file : Option BootVector} (h : FromPast r g file)
    (sub : ∀ e ∈ g.past, e ∈ g'.past) :
  FromPast r g' file
  := by
  intro x hx
  rcases h x hx with h | ⟨e, he, h⟩
  · left
    apply h
  · right
    use e, sub e he

end Comes

/-! ### Every step of a traced run keeps it -/

namespace Attributed

variable (h : Attributed r c g)

include h

theorem putHeaderIf (l : Bool) (n : Nat) (header : Transaction) :
  Attributed r (c.putHeaderIf l n header) g
  := by
  cases l with
  | false => apply h
  | true =>
    constructor
    · apply h.tidy.putHeaderIf true n header
    · apply h.primary
    · apply h.secondary
    · apply h.rows
    · apply h.committed

/-- The primary copy is given up for the secondary one. -/
theorem restore :
  Attributed r c.restore { g with primary := g.secondary }
  := ⟨h.tidy.restore, h.secondary, h.secondary, h.rows, h.committed⟩

/-- The primary copy becomes the committed one. -/
theorem anchor :
  Attributed r c.anchor
    { g with secondary := g.primary, committed := g.primary.toList ++ g.committed }
  := ⟨h.tidy.anchor, h.primary, h.primary, h.rows, h.committed⟩

variable (entries : Entries)

/-- One more activation is known. -/
theorem remember :
  Attributed r c { g with past := entries :: g.past }
  where
  __ := h
  rows := h.rows.mono fun _ => List.mem_cons_of_mem _
  committed := h.committed.mono fun _ => List.mem_cons_of_mem _

/-- An activation whose manager rows are not written. -/
theorem issue (fresh : ∀ a, c.rows = some a → a.generation ≠ c.next gap) :
  Attributed r (c.issue r gap entries) { g with primary := some entries, past := entries :: g.past }
  where
  tidy := h.tidy.issue r gap entries
  primary := by
    rintro v ⟨⟩
    use entries, rfl, rfl
    rintro file (hfile | hfile) hg
    · apply absurd hg (fresh file hfile)
    · apply absurd hg (Nat.ne_of_lt (h.tidy.committed_lt_next gap hfile))
  secondary := h.secondary
  rows := (h.remember entries).rows
  committed := (h.remember entries).committed

/-- An activation whose manager rows are written. -/
theorem issueRows :
  Attributed r (c.issueRows r gap entries)
    { g with primary := some entries, past := entries :: g.past }
  where
  tidy := h.tidy.issueRows r gap entries
  primary := by
    rintro v ⟨⟩
    use entries, rfl, rfl
    rintro file (hfile | hfile) hg
    · cases hfile
      rfl
    · apply absurd hg (Nat.ne_of_lt (h.tidy.committed_lt_next gap hfile))
  secondary := by
    apply h.secondary.putRows
    intro v hv
    apply Nat.ne_of_gt (Cells.secondary_lt_next hv)
  rows := by
    rintro x ⟨⟩
    right
    use entries, List.mem_cons_self
  committed := (h.remember entries).committed

/-- An activation that is taken back. -/
theorem undone (settled : c.inTrial = false) (l : Bool) :
  Attributed r (c.issueIf r gap entries l).restore { g with past := entries :: g.past }
  := by
  have primary := h.tidy.primary_eq_secondary settled
  have remembered := h.remember entries
  cases l with
  | false =>
    rw [Cells.issueIf, if_neg Bool.false_ne_true, Cells.restore_issue primary]
    apply remembered
  | true =>
    have issued : Attributed r (c.issueRows r gap entries) _ := h.issueRows entries
    constructor
    · apply issued.tidy.restore
    · have : (c.issueIf r gap entries true).restore.primary = c.primary := primary.symm
      rw [this]
      apply remembered.primary.putRows
      intro v hv
      apply Nat.ne_of_gt (Cells.primary_lt_next hv)
    · apply issued.secondary
    · apply issued.rows
    · apply issued.committed

end Attributed

def Cells.record (c : Cells) : BootRecord where
  primary := c.primary
  secondary := c.secondary

theorem Cells.record_putHeaderIf (c : Cells) (l : Bool) (n : Nat) (header : Transaction) :
  (c.putHeaderIf l n header).record = c.record
  := by cases l <;> rfl

/-- The activation does not leave the record at the generation that it was issued, without its own
manager rows, while `rows` is already at it with the rows of another activation. -/
def Fresh (io : Io) (c c' : Cells) : Prop :=
  c'.primaryGeneration = some (c.next io.gap) → ¬(io.record = .none ∧ io.rows.landed = true) →
    ∀ a, c.rows = some a → a.generation ≠ c.next io.gap

section Moves

variable {io : Io} {old new : BootRecord} {header : Transaction}
  {res : Ending SelectorError Nat} {p : BootVector}

theorem Given.after_activate_of_eq (h : new.primary = old.primary) (entries : Entries)
    (header : Transaction) :
  g.after old new (.activate entries header) = { g with past := entries :: g.past }
  := by simp only [Given.after, if_pos h]

section

variable (h : Attributed r c g) (entries : Entries)
include h

theorem Attributed.issueIf (header : Transaction) (l : Bool)
    (fresh : l = false → ∀ a, c.rows = some a → a.generation ≠ c.next gap) :
  Attributed r (c.issueIf r gap entries l)
    (g.after c.record (c.issueIf r gap entries l).record (.activate entries header))
  := by
  have moved : (c.issueIf r gap entries l).record.primary ≠ c.record.primary := by
    cases l <;> apply Cells.issue_primary_ne
  rw [Given.after, if_neg moved]
  cases l with
  | false => apply h.issue entries (fresh rfl)
  | true => apply h.issueRows

theorem Attributed.undoneIf (header : Transaction) (settled : c.inTrial = false) (l : Bool) :
  Attributed r (c.issueIf r gap entries l).restore
    (g.after c.record (c.issueIf r gap entries l).restore.record (.activate entries header))
  := by
  have same : (c.issueIf r gap entries l).restore.primary = c.primary := by
    rw [h.tidy.primary_eq_secondary settled]
    cases l <;> rfl
  rw [Given.after_activate_of_eq same]
  apply h.undone entries settled

theorem Attributed.activateMove {entries : Entries}
    (move : ActivateMove r io entries header c res c') (fresh : Fresh io c c') :
  Attributed r c' (g.after c.record c'.record (.activate entries header))
  := by
  have stay : Attributed r c (g.after c.record c.record (.activate entries header)) := by
    rw [Given.after_activate_of_eq rfl]
    apply h.remember
  have issued (l : Bool) : (c.issueIf r io.gap entries l).primaryGeneration =
    some (c.next io.gap) := by
    cases l <;> rfl
  cases move with
  | refused => apply stay
  | cut l record =>
    cases l with
    | false => apply stay
    | true =>
      apply h.issueIf entries header false
      rintro -
      apply fresh rfl
      simp [record]
  | cutRows l _ rows | left l _ rows =>
    apply h.issueIf
    rintro rfl
    apply fresh (issued false)
    simp [rows, Fault.landed]
  | undone _ _ _ _ settled => apply h.undoneIf entries header settled
  | cutUndo l u _ rows _ settled =>
    cases u with
    | true => apply h.undoneIf entries header settled
    | false =>
      apply h.issueIf
      rintro rfl
      apply fresh (issued false)
      simp [rows, Fault.landed]
  | written =>
    rw [Cells.record_putHeaderIf]
    apply (h.issueIf entries header true nofun).putHeaderIf

theorem Attributed.anchorIf :
  Attributed r c.anchor (g.after c.record c.anchor.record .commit)
  := by
  by_cases same : c.anchor.record.secondary = c.record.secondary
  · rw [Given.after, if_pos same]
    rw [Cells.anchor_of_settled same]
    apply h
  · rw [Given.after, if_neg same]
    apply h.anchor

theorem Attributed.putCommitted (primary : c.primary = some p) (secondary : c.secondary = some p)
    (found : Found r c p.generation rows)
    (tidy : Tidy { c with committed := some { generation := p.generation, entries := rows } }) :
  Attributed r { c with committed := some { generation := p.generation, entries := rows } } g
  where
  tidy := tidy
  primary := h.primary.putFound primary found (.inl rfl) (.inr rfl)
  secondary := h.secondary.putFound secondary found (.inl rfl) (.inr rfl)
  rows := h.rows
  committed := fromPast_found h.rows h.committed found

theorem Attributed.putRows (primary : c.primary = some p) (secondary : c.secondary = some p)
    (found : Found r c p.generation rows)
    (tidy : Tidy { c with rows := some { generation := p.generation, entries := rows } }) :
  Attributed r { c with rows := some { generation := p.generation, entries := rows } } g
  where
  tidy := tidy
  primary := h.primary.putFound primary found (.inr rfl) (.inl rfl)
  secondary := h.secondary.putFound secondary found (.inr rfl) (.inl rfl)
  rows := fromPast_found h.rows h.committed found
  committed := h.committed

theorem Attributed.commitMove {res : Ending SelectorError Unit} (move : CommitMove r io c res c') :
  Attributed r c' (g.after c.record c'.record .commit)
  := by
  have tidy := h.tidy.commitMove move
  have stay : Attributed r c (g.after c.record c.record .commit) := by
    rw [Given.after, if_pos rfl]
    apply h
  cases move with
  | nothing | refused => apply stay
  | cut l =>
    cases l
    · apply stay
    · apply h.anchorIf
  | unreadable | noRows => apply h.anchorIf
  | written _ _ _ primary found =>
    cases hl : io.committed.landed with
    | false => apply h.anchorIf
    | true =>
      rw [hl, if_pos rfl] at tidy
      apply h.anchorIf.putCommitted primary primary (found_of_rowsAt found) tidy

theorem Attributed.restoreIf {v : BootVector} (secondary : c.secondary = some v)
    (trial : c.primaryGeneration ≠ some v.generation) (header : Transaction) :
  Attributed r c.restore (g.after c.record c.restore.record (.rollback header))
  := by
  have moved : c.restore.record.primary ≠ c.record.primary := by
    intro same
    apply trial
    rw [Cells.primaryGeneration, show c.primary = c.secondary from same.symm, secondary]
    rfl
  rw [Given.after, if_neg moved]
  apply h.restore

theorem Attributed.rollbackMove (move : RollbackMove r io header c res c') :
  Attributed r c' (g.after c.record c'.record (.rollback header))
  := by
  have tidy := h.tidy.rollbackMove move
  have stay : Attributed r c (g.after c.record c.record (.rollback header)) := by
    rw [Given.after, if_pos rfl]
    apply h
  have headed (l : Bool) (n : Nat) : Attributed r (c.putHeaderIf l n header)
      (g.after c.record (c.putHeaderIf l n header).record (.rollback header)) := by
    rw [Cells.record_putHeaderIf]
    apply stay.putHeaderIf
  cases move with
  | unreadable | noTrial | noRows => apply stay
  | header | lost => apply headed
  | record s secondary trial =>
    split
    · apply (h.putHeaderIf true s.generation header).restoreIf secondary trial
    · apply headed
  | written s rows secondary trial found =>
    have restored := (h.putHeaderIf true s.generation header).restoreIf secondary trial header
    cases hl : io.rows.landed with
    | false => apply restored
    | true =>
      rw [hl, if_pos rfl] at tidy
      apply restored.putRows secondary secondary (found_of_committedAt found) tidy

end

end Moves

/-! ### What boots -/

/-- A call, of which an activation is fresh. -/
def FreshCall (κ : Signing) (r : Routing) (io : Io) (s : StoreState) : StoreCall → Prop
  | .activate entries header =>
      Fresh io (s.cells κ) ((RecordSelectorStore.activate κ r io entries header s).2.cells κ)
  | _ => True

theorem Attributed.call {io : Io} (h : Attributed r (t.store.cells κ) t.given) {call : StoreCall}
    (fresh : FreshCall κ r io t.store call) :
  Attributed r ((t.call κ r io call).store.cells κ) (t.call κ r io call).given
  := by
  cases call with
  | activate entries header =>
    apply h.activateMove (activate_moves r io κ entries header t.store) fresh
  | commit => apply h.commitMove (commit_moves r io κ t.store)
  | rollback header => apply h.rollbackMove (rollback_moves r io κ header t.store)
  | bootStage => apply h.restore

theorem attributed_of_run (run : TracedRun κ r (FreshCall κ r) t) :
  Attributed r (t.store.cells κ) t.given
  := by
  apply run.invariant (P := fun t => Attributed r (t.store.cells κ) t.given)
  · rintro _ rfl
    constructor
    · apply Tidy.empty
    · nofun
    · nofun
    · nofun
    · nofun
  · rintro t _ h ⟨io, call, fresh, rfl⟩
    apply h.call fresh

theorem Attributed.newestRows (h : Attributed r c g) :
  c.newestRows = ∅ ∨ ∃ past ∈ g.past, c.newestRows = r.managerRows past
  := by
  rw [Cells.newestRows]
  rcases ha : c.rows with _ | a <;> rcases hb : c.committed with _ | b
  · left
    rfl
  · apply h.committed b hb
  · apply h.rows a ha
  · dsimp only
    split
    · apply h.committed b hb
    · apply h.rows a ha

/-- The side files of a run whose activations are fresh. When the vector that boots is read, its
record rows are those given to the activation that the primary copy comes from. If a side file is at
its generation then all of it was given to that activation; otherwise its manager rows are the
newest in the side files, which some activation was given. -/
theorem rows_of_primary {κ : Signing} {r : Routing} {t : Traced}
    (run : TracedRun κ r (FreshCall κ r) t) {io : Io} {v : BootVector}
    (read : (readPrimary κ io t.store).1 = .ok (some v)) :
  ∃ entries, t.given.primary = some entries ∧ r.recordRows v.entries = r.recordRows entries ∧
    ((t.store.cells κ).rowsAt v.generation ≠ none → v.entries = entries) ∧
    ((t.store.cells κ).rowsAt v.generation = none →
      r.managerRows v.entries = (t.store.cells κ).newestRows ∧
      (r.managerRows v.entries = ∅ ∨ ∃ past ∈ t.given.past,
        r.managerRows v.entries = r.managerRows past))
  := by
  have h := attributed_of_run run
  obtain ⟨p, primary, rfl⟩ := Option.map_eq_some_iff.mp ((reads_readPrimary κ io).eq_of_ok read)
  obtain ⟨entries, given, record, _⟩ := h.primary p primary
  use entries, given
  simp only [union, record]
  cases found : (t.store.cells κ).rowsAt p.generation with
  | some =>
    obtain ⟨entries', given', -, rfl⟩ := h.primary.found primary (found_of_rowsAt (.inl found))
    obtain rfl : entries = entries' := Option.some.inj (given.symm.trans given')
    rw [Option.getD_some, r.union_recordRows_managerRows]
    simp
  | none =>
    rw [Option.getD_none]
    rcases h.newestRows with newest | ⟨past, _, newest⟩
    · rw [newest, ← r.managerRows_empty, (r.parts_union ..).1, (r.parts_union ..).2]
      simp
    · rw [newest, (r.parts_union ..).1, (r.parts_union ..).2]
      simp only [ne_eq, not_true_eq_false, false_implies, true_implies, true_and]
      right
      use past

/-! ### Runs of a sample node -/

/-- Some run reaches a medium with these cells, after these selections were given. -/
def Reaches (κ : Signing) (r : Routing) (ok : Io → StoreState → StoreCall → Prop) (c : Cells)
    (g : Given) : Prop :=
  ∃ t, TracedRun κ r ok t ∧ t.store.cells κ = c ∧ t.given = g

section Reaches

variable {g' : Given}

theorem reaches_empty :
  Reaches κ r ok {} {}
  := ⟨{}, .init rfl, rfl, rfl⟩

section

variable (h : Reaches κ r ok c g) (entries : Entries)
include h

theorem Reaches.call (io : Io) (call : StoreCall) (allowed : ∀ s, s.cells κ = c → ok io s call)
    (run : ∀ s, s.cells κ = c → (call.run κ r io s).cells κ = c')
    (given : g.after c.record c'.record call = g') :
  Reaches κ r ok c' g'
  := by
  obtain ⟨t, reached, rfl, rfl⟩ := h
  use t.call κ r io call, .step reached ⟨io, call, allowed _ rfl, rfl⟩, run _ rfl
  rw [← given, ← run _ rfl]
  rfl

theorem Reaches.activate (header : Transaction)
    (allowed : ∀ s, s.cells κ = c → ok {} s (.activate entries header))
    (run : (c.issueRows r 0 entries).putHeaderIf true (c.next 0) header = c')
    (given : g.after c.record c'.record (.activate entries header) = g') :
  Reaches κ r ok c' g'
  := by
  apply h.call _ _ allowed _ given
  rintro s rfl
  rw [← run]
  apply (activate_moves r {} κ entries header s).clean.2

/-- An activation that is cut off after the record was written. -/
theorem Reaches.activate_cut (header : Transaction)
    (allowed : ∀ s, s.cells κ = c → ok { record := .stops true } s (.activate entries header))
    (run : c.issue r 0 entries = c')
    (given : g.after c.record c'.record (.activate entries header) = g') :
  Reaches κ r ok c' g'
  := by
  apply h.call _ _ allowed _ given
  rintro s rfl
  rw [← run]
  apply (activate_moves r _ κ entries header s).cut_after_record

theorem Reaches.commit (allowed : ∀ s, s.cells κ = c → ok {} s .commit) {p : BootVector}
    (primary : c.primary = some p) (found : c.rowsAt p.generation = some rows)
    (run : { c.anchor with committed := some { generation := p.generation, entries := rows } } = c')
    (given : g.after c.record c'.record .commit = g') :
  Reaches κ r ok c' g'
  := by
  apply h.call _ _ allowed _ given
  rintro s rfl
  rw [← run]
  apply ((commit_moves r {} κ s).clean primary found).2

end

end Reaches

def sampleRouting : Routing where
  routes id := id == "os"

/-- The banks of the routed component and of another one. -/
def selection (os vm : Nv.Bank) : Entries :=
  ((∅ : Entries).insert "os" { bank := os }).insert "vm" { bank := vm }

/-- The header of a transaction of which nothing is known. -/
def blankHeader : Transaction where
  armedBootId := Buffer.zeros 16
  trialBoots := 0
  countedBootId := Buffer.zeros 16
  resolution := none

def firstCells : Cells where
  primary := some { generation := 1, entries := sampleRouting.recordRows (selection .A .A) }
  rows := some { generation := 1, entries := sampleRouting.managerRows (selection .A .A) }
  header := some (1, blankHeader)

def firstGiven : Given where
  primary := some (selection .A .A)
  past := [selection .A .A]

def settledCells : Cells where
  primary := some { generation := 1, entries := sampleRouting.recordRows (selection .A .A) }
  secondary := some { generation := 1, entries := sampleRouting.recordRows (selection .A .A) }
  rows := some { generation := 1, entries := sampleRouting.managerRows (selection .A .A) }
  committed := some { generation := 1, entries := sampleRouting.managerRows (selection .A .A) }
  header := some (1, blankHeader)

def settledGiven : Given where
  primary := some (selection .A .A)
  secondary := some (selection .A .A)
  past := [selection .A .A]
  committed := [selection .A .A]

def trialCells : Cells where
  primary := some { generation := 2, entries := sampleRouting.recordRows (selection .B .B) }
  secondary := settledCells.secondary
  rows := some { generation := 2, entries := sampleRouting.managerRows (selection .B .B) }
  committed := settledCells.committed
  header := some (2, blankHeader)

def trialGiven : Given where
  primary := some (selection .B .B)
  secondary := some (selection .A .A)
  past := [selection .B .B, selection .A .A]
  committed := [selection .A .A]

/-- The calls that lead to the trial are allowed. -/
structure SampleAllowed (κ : Signing) (ok : Io → StoreState → StoreCall → Prop) : Prop where
  first : ∀ s, s.cells κ = {} → ok {} s (.activate (selection .A .A) blankHeader)
  commit : ∀ s, s.cells κ = firstCells → ok {} s .commit
  trial : ∀ s, s.cells κ = settledCells → ok {} s (.activate (selection .B .B) blankHeader)

section Sample

theorem reaches_first (allowed : ∀ s, s.cells κ = {} →
    ok {} s (.activate (selection .A .A) blankHeader)) :
  Reaches κ sampleRouting ok firstCells firstGiven
  := by
  apply reaches_empty.activate (selection .A .A) blankHeader allowed
  · decide +kernel
  · decide +kernel

theorem SampleAllowed.reaches_settled (allowed : SampleAllowed κ ok) :
  Reaches κ sampleRouting ok settledCells settledGiven
  := by
  apply (reaches_first allowed.first).commit allowed.commit
  · rfl
  · rfl
  · decide +kernel
  · decide +kernel

theorem SampleAllowed.reaches_trial (allowed : SampleAllowed κ ok) :
  Reaches κ sampleRouting ok trialCells trialGiven
  := by
  apply allowed.reaches_settled.activate (selection .B .B) blankHeader allowed.trial
  · decide +kernel
  · decide +kernel

end Sample

/-- The call is at most cut off. -/
def Io.OnlyCut (io : Io) : Prop :=
  ¬io.Unreadable ∧
    ∀ fault ∈ [io.record, io.undo, io.rows, io.committed, io.transaction], ∀ l, fault ≠ .fails l

theorem onlyCut_of_record (fault : Fault) (h : ∀ l, fault ≠ .fails l) :
  ({ record := fault, record_err := h true } : Io).OnlyCut
  := by
  constructor
  · simp [Io.Unreadable]
  · simpa using h

/-- An activation in a standing trial that is cut off before its manager rows are written leaves the
manager rows of the trial, which was never committed, with its own record rows. -/
theorem uncommitted_rows_boot :
  ∃ r : Routing, ∀ κ : Signing, ∃ t v, TracedRun κ r (fun io _ _ => io.OnlyCut) t ∧
    (readPrimary κ {} t.store).1 = .ok (some v) ∧
    (∀ given ∈ t.given.past, r.recordRows v.entries = r.recordRows given →
      r.managerRows v.entries ≠ r.managerRows given) ∧
    ∀ given ∈ t.given.committed, r.managerRows v.entries ≠ r.managerRows given
  := by
  use sampleRouting
  intro κ
  have cut : Reaches κ sampleRouting (fun io _ _ => io.OnlyCut)
      { trialCells with
        primary := some { generation := 3, entries := sampleRouting.recordRows (selection .A .A) } }
      { trialGiven with
        primary := some (selection .A .A)
        past := [selection .A .A, selection .B .B, selection .A .A] } := by
    have clean := onlyCut_of_record .none nofun
    have allowed : SampleAllowed κ fun io _ _ => io.OnlyCut :=
      ⟨fun _ _ => clean, fun _ _ => clean, fun _ _ => clean⟩
    apply allowed.reaches_trial.activate_cut (selection .A .A) blankHeader
    · intro s _
      apply onlyCut_of_record (.stops true) nofun
    · decide +kernel
    · decide +kernel
  obtain ⟨t, run, cells, given⟩ := cut
  use t, { generation := 3, entries := selection .A .B }, run
  rw [readPrimary_clean, cells, given]
  decide +kernel

/-- The trial is given up by the boot stage, and the committed selection boots. -/
theorem rows_of_primary_bootStage :
  ∃ r : Routing, ∀ κ : Signing, ∃ t v, TracedRun κ r (FreshCall κ r) t ∧
    (readPrimary κ {} t.store).1 = .ok (some v) ∧
    t.given.past = [selection .B .B, selection .A .A] ∧ t.given.primary = some v.entries
  := by
  use sampleRouting
  intro κ
  have fresh (c c' : Cells) : Fresh {} c c' := fun _ unwritten => absurd ⟨rfl, rfl⟩ unwritten
  have allowed : SampleAllowed κ (FreshCall κ sampleRouting) :=
    ⟨fun _ _ => fresh _ _, fun _ _ => trivial, fun _ _ => fresh _ _⟩
  have restored : Reaches κ sampleRouting (FreshCall κ sampleRouting) trialCells.restore
      { trialGiven with primary := some (selection .A .A) } := by
    apply allowed.reaches_trial.call {} .bootStage
    · intro s _
      trivial
    · intro s cells
      rw [StoreCall.run, StoreState.cells_bootStageRollback, cells]
      rfl
    · rfl
  obtain ⟨t, run, cells, given⟩ := restored
  have read : (readPrimary κ {} t.store).1 =
      .ok (some { generation := 1, entries := selection .A .A }) := by
    rw [readPrimary_clean, cells]
    decide +kernel
  obtain ⟨entries, hgiven, -, whole, -⟩ := rows_of_primary run read
  use t, { generation := 1, entries := selection .A .A }, run, read
  constructor
  · rw [given]
    rfl
  · rw [hgiven, whole]
    rw [cells]
    decide +kernel

end Selector
