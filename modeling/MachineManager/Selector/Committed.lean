import MachineManager.Selector.Provenance

/-!
# Whether the committed rows are kept

The committed manager rows stand in `committed`, or, as long as the primary copy is the committed
one, in `rows`. They are lost when an activation overwrites `rows` while `committed` is not at the
generation of the committed copy, as after a commit whose last write failed, and when a copy that
has no manager rows is committed. Here only the writes of side files fail, and the boot stage
does not act; in runs without these two kinds of calls the committed rows are never lost.
-/

namespace Selector

open SelectorBlob RecordSelectorStore Cells

/-- Only writes of side files fail, and every call returns. -/
structure Io.OnlyFilesFail (io : Io) : Prop where
  readable : ¬io.Unreadable
  record : io.record = .none
  undo : io.undo = .none
  returns : ∀ name l, io.file name ≠ .stops l

/-- The call does not lose committed rows: an activation that writes its manager rows finds
`committed` at the generation of the secondary copy, and a commit finds manager rows at the
generation of the primary copy. -/
def SparesCommitted (io : Io) (c : Cells) : StoreCall → Prop
  | .activate _ _ => io.rows.landed = true → ∀ s, c.secondary = some s →
      ∃ k, c.committed = some k ∧ k.generation = s.generation
  | .commit => ∀ p, c.primary = some p → c.rowsAt p.generation ≠ none
  | _ => True

/-- A call whose side files may fail, which does not lose committed rows and is not one of the boot
stage. -/
def SparingCall (κ : Signing) (io : Io) (s : StoreState) (call : StoreCall) : Prop :=
  io.OnlyFilesFail ∧ call ≠ .bootStage ∧ SparesCommitted io (s.cells κ) call

/-! ### What they keep -/

/-- The committed rows are there, and `rows` is not ahead of a copy that is on trial. -/
structure Kept (r : Routing) (c : Cells) (g : Given) : Prop where
  attributed : Attributed r c g
  ahead : c.inTrial = true ∨ c.secondary = none → ∀ a, c.rows = some a →
    ∃ p, c.primary = some p ∧ a.generation ≤ p.generation
  kept : ∀ s, c.secondary = some s → (∃ k, c.committed = some k ∧ k.generation = s.generation) ∨
      c.primary = c.secondary ∧ ∃ a, c.rows = some a ∧ a.generation = s.generation

variable {c c' : Cells} {r : Routing} {gap : Nat}

namespace Kept

variable {io : Io} {g : Given}

theorem putHeaderIf (h : Kept r c g) (l : Bool) (n : Nat) (header : Transaction) :
  Kept r (c.putHeaderIf l n header) g
  := by
  cases l with
  | false => apply h
  | true =>
    constructor
    · apply h.attributed.putHeaderIf true
    · apply h.ahead
    · apply h.kept

theorem inTrial_of_settled (settled : c.primary = c.secondary) :
  c.inTrial = false
  := by simp [inTrial, primaryGeneration, secondaryGeneration, settled]

/-- With both copies the same, only the committed rows matter. -/
theorem of_settled (h : Attributed r c g) (settled : c.primary = c.secondary)
    (floor : c.secondary ≠ none)
    (kept : ∀ s, c.secondary = some s → (∃ k, c.committed = some k ∧ k.generation = s.generation) ∨
      ∃ a, c.rows = some a ∧ a.generation = s.generation) :
  Kept r c g
  := by
  constructor
  · apply h
  · rintro (trial | none)
    · cases trial.symm.trans (inTrial_of_settled settled)
    · apply absurd none floor
  · intro s hs
    rcases kept s hs with kept | kept
    · left
      apply kept
    · right
      use settled

/-- An activation that leaves the record at its generation. -/
theorem issueIf (h : Kept r c g) (entries : Entries) (header : Transaction) (l : Bool)
    (spares : l = true → ∀ s, c.secondary = some s → ∃ k, c.committed = some k ∧
      k.generation = s.generation)
    (trial : l = false → c.inTrial = true ∨ c.secondary = none) :
  Kept r (c.issueIf r gap entries l)
    (g.after c.record (c.issueIf r gap entries l).record (.activate entries header))
  := by
  have behind : l = false → ∀ a, c.rows = some a → a.generation < c.next gap := by
    intro hl a ha
    obtain ⟨p, hp, le⟩ := h.ahead (trial hl) a ha
    apply Nat.lt_of_le_of_lt le (primary_lt_next hp)
  constructor
  · apply h.attributed.issueIf
    intro hl a ha
    apply Nat.ne_of_lt (behind hl a ha)
  · rintro - a ha
    use { generation := c.next gap, entries := r.recordRows entries }
    cases l with
    | false =>
      use rfl
      apply Nat.le_of_lt (behind rfl a ha)
    | true =>
      use rfl
      cases ha
      apply Nat.le_refl
  · intro s hs
    left
    cases l with
    | true => apply spares rfl s hs
    | false =>
      have hs' : c.secondary = some s := hs
      rcases trial rfl with trial | none
      · rcases h.kept s hs with kept | ⟨same, -⟩
        · apply kept
        · cases trial.symm.trans (inTrial_of_settled same)
      · cases hs'.symm.trans none

/-- An activation that is taken back. -/
theorem undoneIf (h : Kept r c g) (entries : Entries) (header : Transaction) (l : Bool)
    (spares : l = true → ∀ s, c.secondary = some s → ∃ k, c.committed = some k ∧
      k.generation = s.generation)
    (settled : c.inTrial = false) (floor : c.secondary ≠ none) :
  Kept r (c.issueIf r gap entries l).restore
    (g.after c.record (c.issueIf r gap entries l).restore.record (.activate entries header))
  := by
  apply of_settled (h.attributed.undoneIf entries header settled l)
  · rfl
  · cases l <;> apply floor
  · intro s hs
    cases l with
    | false =>
      rcases h.kept s hs with kept | ⟨-, kept⟩
      · left
        apply kept
      · right
        apply kept
    | true =>
      left
      apply spares rfl s hs

variable {header : Transaction} {res : Ending SelectorError Nat}

theorem activateMove (h : Kept r c g) (only : io.OnlyFilesFail) {entries : Entries}
    (spares : SparesCommitted io c (.activate entries header))
    (move : ActivateMove r io entries header c res c') :
  Kept r c' (g.after c.record c'.record (.activate entries header))
  := by
  cases move with
  | refused _ why =>
    rcases why with bad | failed
    · apply absurd bad only.readable
    · cases only.record.symm.trans failed
  | cut _ cut => cases only.record.symm.trans cut
  | cutRows l _ cut => apply absurd cut (only.returns .rows l)
  | left _ _ failed why =>
    apply h.issueIf
    · rintro rfl
      apply spares (by rw [failed]; rfl)
    · rintro -
      rcases why with trial | none | failed | bad
      · left
        apply trial
      · right
        apply none
      · cases only.undo.symm.trans failed
      · apply absurd bad only.readable
  | undone l _ failed _ settled floor =>
    apply h.undoneIf entries header l _ settled floor
    rintro rfl
    apply spares (by rw [failed]; rfl)
  | cutUndo _ _ _ _ cut => cases only.undo.symm.trans cut
  | written _ written =>
    rw [record_putHeaderIf]
    apply (h.issueIf entries header true _ nofun).putHeaderIf
    rintro -
    apply spares (by rw [written]; rfl)

theorem commitMove (h : Kept r c g) (only : io.OnlyFilesFail)
    (spares : SparesCommitted io c .commit) {res : Ending SelectorError Unit}
    (move : CommitMove r io c res c') :
  Kept r c' (g.after c.record c'.record .commit)
  := by
  have attributed := h.attributed.commitMove move
  cases move with
  | nothing =>
    rw [Given.after, if_pos rfl]
    apply h
  | refused _ why =>
    rcases why with bad | failed
    · apply absurd bad only.readable
    · cases only.record.symm.trans failed
  | cut _ cut => cases only.record.symm.trans cut
  | unreadable _ _ bad => apply absurd bad only.readable
  | noRows p _ primary none => apply absurd none (spares p primary)
  | written p rows _ primary found =>
    cases landed : io.committed.landed with
    | true =>
      rw [landed, if_pos rfl] at attributed
      apply of_settled attributed rfl
      · simp [anchor, primary]
      · intro s hs
        left
        use { generation := p.generation, entries := rows }, rfl
        cases primary.symm.trans hs
        rfl
    | false =>
      rw [landed, if_neg Bool.false_ne_true] at attributed
      apply of_settled attributed rfl
      · simp [anchor, primary]
      · intro s hs
        cases primary.symm.trans hs
        rcases found with found | ⟨none, -⟩
        · rcases Option.or_eq_some_iff.mp found with found | ⟨-, found⟩
          · right
            exact ⟨_, entriesAt_eq_some.mp found, rfl⟩
          · left
            exact ⟨_, entriesAt_eq_some.mp found, rfl⟩
        · apply absurd none (spares p primary)

theorem rollbackMove (h : Kept r c g) (only : io.OnlyFilesFail)
    (move : RollbackMove r io header c res c') :
  Kept r c' (g.after c.record c'.record (.rollback header))
  := by
  have attributed := h.attributed.rollbackMove move
  have stay : Kept r c (g.after c.record c.record (.rollback header)) := by
    rw [Given.after, if_pos rfl]
    apply h
  cases move with
  | unreadable | noTrial | noRows => apply stay
  | header =>
    rw [record_putHeaderIf]
    apply stay.putHeaderIf
  | lost _ _ _ _ _ bad => apply absurd bad only.readable
  | record _ _ _ _ failed => apply absurd only.record failed
  | written s rows secondary trial =>
    have kept : ∃ k, c.committed = some k ∧ k.generation = s.generation := by
      rcases h.kept s secondary with kept | ⟨same, -⟩
      · apply kept
      · apply absurd _ trial
        rw [primaryGeneration, same, secondary]
        rfl
    cases landed : io.rows.landed with
    | true =>
      rw [landed, if_pos rfl] at attributed
      apply of_settled attributed rfl
      · simp [Cells.restore, Cells.putHeaderIf, secondary]
      · intro s' hs
        cases secondary.symm.trans hs
        left
        apply kept
    | false =>
      rw [landed, if_neg Bool.false_ne_true] at attributed
      apply of_settled attributed rfl
      · simp [Cells.restore, Cells.putHeaderIf, secondary]
      · intro s' hs
        cases secondary.symm.trans hs
        left
        apply kept

end Kept

variable {s : BootVector}

theorem kept_of_run {κ : Signing} {t : Traced} (run : TracedRun κ r (SparingCall κ) t) :
  Kept r (t.store.cells κ) t.given
  := by
  apply run.invariant (P := fun t => Kept r (t.store.cells κ) t.given)
  · rintro _ rfl
    constructor
    · apply attributed_of_run (.init rfl)
    · nofun
    · nofun
  · rintro t _ h ⟨io, call, ⟨only, notBoot, spares⟩, rfl⟩
    cases call with
    | activate entries header =>
      apply h.activateMove only spares (activate_moves r io κ entries header t.store)
    | commit => apply h.commitMove only spares (commit_moves r io κ t.store)
    | rollback header => apply h.rollbackMove only (rollback_moves r io κ header t.store)
    | bootStage => apply absurd rfl notBoot

/-! ### The committed vector -/

/-- The committed rows, as the store finds them. -/
theorem Kept.secondaryRows {g : Given} (h : Kept r c g) (secondary : c.secondary = some s) :
  ∃ entries, g.secondary = some entries ∧ s.entries = r.recordRows entries ∧
    c.rowsAt s.generation = some (r.managerRows entries) ∧
    c.committedAt s.generation = some (r.managerRows entries) ∧
    c.secondaryRows s.generation = some (r.managerRows entries)
  := by
  obtain ⟨entries, given, record, files⟩ := h.attributed.secondary s secondary
  use entries, given, record
  have file : ∀ x, c.rows = some x ∨ c.committed = some x →
      entriesAt (some x) s.generation = none ∨
        entriesAt (some x) s.generation = some (r.managerRows entries) := by
    intro x hx
    by_cases hg : x.generation = s.generation
    · right
      rw [← files x hx hg]
      simp [entriesAt, hg]
    · left
      simp [entriesAt, hg]
  have rows : entriesAt c.rows s.generation = none ∨
      entriesAt c.rows s.generation = some (r.managerRows entries) := by
    cases h : c.rows with
    | none => left; rfl
    | some x => apply file x (.inl h)
  have committed : entriesAt c.committed s.generation = none ∨
      entriesAt c.committed s.generation = some (r.managerRows entries) := by
    cases h : c.committed with
    | none => left; rfl
    | some x => apply file x (.inr h)
  rcases h.kept s secondary with ⟨k, hk, hg⟩ | ⟨same, a, ha, hg⟩
  · rcases committed with none | committed
    · apply absurd hg (entriesAt_eq_none.mp none k hk)
    · rcases rows with rows | rows <;>
        simp [Cells.rowsAt, Cells.committedAt, Cells.secondaryRows, rows, committed]
  · have settled : c.primaryGeneration = some s.generation := by
      rw [Cells.primaryGeneration, same, secondary]
      rfl
    rcases rows with none | rows
    · apply absurd hg (entriesAt_eq_none.mp none a ha)
    · rcases committed with committed | committed <;>
        simp [Cells.rowsAt, Cells.committedAt, Cells.secondaryRows, rows, committed, settled]

/-- As long as no call loses committed rows: they are there, the committed vector is what was given
to the activation that was committed, and a trial can be rolled back. -/
theorem committed_rows_kept {κ : Signing} {r : Routing} {t : Traced}
    (run : TracedRun κ r (SparingCall κ) t) {s : BootVector}
    (secondary : t.store.record.secondary = some s) :
  ∃ entries, t.given.secondary = some entries ∧
    (t.store.cells κ).rowsAt s.generation = some (r.managerRows entries) ∧
    (readSecondary κ {} t.store).1 = .ok (some { generation := s.generation, entries }) ∧
    (t.store.record.primary.map (·.generation) ≠ some s.generation → ∀ header,
      (RecordSelectorStore.rollback κ r {} header t.store).1 = .ok s.generation)
  := by
  obtain ⟨entries, given, record, rows, committed, read⟩ :=
    (kept_of_run run).secondaryRows secondary
  use entries, given, rows
  have secondary' : (t.store.cells κ).secondary = some s := secondary
  constructor
  · rw [readSecondary_clean, Cells.secondaryVector, secondary']
    simp only [Option.map_some, union, read, Option.getD_some, record,
      r.union_recordRows_managerRows]
  · intro trial header
    have trial' : (t.store.cells κ).primaryGeneration ≠ some s.generation := trial
    apply ((rollback_moves r {} κ header t.store).clean secondary' trial' committed).1

/-! ### How they are lost -/

theorem onlyFilesFail_of_committed (fault : Fault) (h : ∀ l, fault ≠ .stops l) :
  ({ committed := fault } : Io).OnlyFilesFail
  := by
  constructor
  · simp [Io.Unreadable]
  · rfl
  · rfl
  · intro name
    cases name with
    | committed => apply h
    | _ => rintro _ ⟨⟩

/-- A commit whose last write fails. -/
theorem CommitMove.failed {p : BootVector} (primary : c.primary = some p)
    {res : Ending SelectorError Unit} (move : CommitMove r { committed := .fails false } c res c') :
  (∃ e, res = .err e) ∧ c' = c.anchor
  := by
  cases move with
  | nothing none => cases primary.symm.trans none
  | refused _ why =>
    rcases why with ⟨_, bad⟩ | failed
    · cases bad
    · cases failed
  | cut _ cut => cases cut
  | unreadable | noRows | written => exact ⟨⟨_, rfl⟩, rfl⟩

/-- A rollback without manager rows to go back to. -/
theorem RollbackMove.refused {header : Transaction} (secondary : c.secondary = some s)
    (trial : c.primaryGeneration ≠ some s.generation) (none : c.committedAt s.generation = none)
    (some_routed : r.routesEverything = false) {res : Ending SelectorError Nat}
    (move : RollbackMove r {} header c res c') :
  res = .err (.io ("no manager rows at generation " ++ toString s.generation))
  := by
  cases move with
  | unreadable _ bad => apply absurd bad not_unreadable
  | noTrial settled => apply absurd (settled s secondary) trial
  | noRows _ secondary' =>
    cases secondary.symm.trans secondary'
    rfl
  | header _ _ _ transaction => apply absurd rfl transaction
  | lost _ _ _ _ _ bad => apply absurd bad not_unreadable
  | record _ _ _ _ record => apply absurd rfl record
  | written _ _ secondary' _ found =>
    cases secondary.symm.trans secondary'
    rcases found with found | ⟨-, everything, -⟩
    · cases none.symm.trans found
    · cases some_routed.symm.trans everything

/-- A commit fails to write `committed`, and the next activation overwrites the only copy of the
committed rows: the committed vector is read with the rows of the trial, and the trial cannot be
rolled back. -/
theorem committed_rows_lost :
  ∃ r : Routing, r.routesEverything = false ∧ ∀ κ : Signing, ∃ t s given,
    TracedRun κ r (fun io _ call => io.OnlyFilesFail ∧ call ≠ .bootStage) t ∧
    t.store.record.secondary = some s ∧ t.given.secondary = some given ∧
    (t.store.cells κ).rowsAt s.generation = none ∧
    (readSecondary κ {} t.store).1 ≠ .ok (some { generation := s.generation, entries := given }) ∧
    (RecordSelectorStore.rollback κ r {} blankHeader t.store).1 =
      .err (.io "no manager rows at generation 1")
  := by
  use sampleRouting, rfl
  intro κ
  let ok : Io → StoreState → StoreCall → Prop :=
    fun io _ call => io.OnlyFilesFail ∧ call ≠ .bootStage
  have second : Reaches κ sampleRouting ok { settledCells with committed := none }
    settledGiven := by
    apply (reaches_first fun _ _ => ⟨onlyFilesFail_of_committed .none (by simp), by simp⟩).call
      { committed := .fails false } .commit
    · intro s _
      use onlyFilesFail_of_committed (.fails false) (by simp), by simp
    · intro s cells
      have move := commit_moves sampleRouting { committed := .fails false } κ s
      rw [cells] at move
      rw [StoreCall.run, (move.failed rfl).2]
      rfl
    · decide +kernel
  have third : Reaches κ sampleRouting ok { trialCells with committed := none } trialGiven := by
    apply second.activate (selection .B .B) blankHeader
    · intro s _
      use onlyFilesFail_of_committed .none (by simp), by simp
    · decide +kernel
    · decide +kernel
  obtain ⟨t, run, cells, given⟩ := third
  have record : t.store.record = (t.store.cells κ).record := rfl
  use t, { generation := 1, entries := sampleRouting.recordRows (selection .A .A) },
    selection .A .A, run
  have move := rollback_moves sampleRouting {} κ blankHeader t.store
  rw [record, given, readSecondary_clean]
  rw [cells] at move ⊢
  rw [move.refused rfl (by decide +kernel) (by decide +kernel) rfl]
  decide +kernel

/-- A commit and an activation without faults keep the committed selection. -/
theorem committed_rows_kept_trial :
  ∃ r : Routing, ∀ κ : Signing, ∃ t s, TracedRun κ r (SparingCall κ) t ∧
    t.store.record.secondary = some s ∧ t.store.record.primary ≠ some s ∧
    (readSecondary κ {} t.store).1 = .ok (some { generation := 1, entries := selection .A .A }) ∧
    ∀ header, (RecordSelectorStore.rollback κ r {} header t.store).1 = .ok 1
  := by
  use sampleRouting
  intro κ
  have clean := onlyFilesFail_of_committed .none nofun
  have allowed : SampleAllowed κ (SparingCall κ) := by
    constructor
    · intro s cells
      use clean, nofun
      rw [cells]
      nofun
    · intro s cells
      use clean, nofun
      rw [cells]
      rintro p ⟨⟩
      nofun
    · intro s cells
      use clean, nofun
      rw [cells]
      rintro - s ⟨⟩
      exact ⟨_, rfl, rfl⟩
  obtain ⟨t, run, cells, given⟩ := allowed.reaches_trial
  have record : t.store.record = (t.store.cells κ).record := rfl
  have secondary : t.store.record.secondary =
      some { generation := 1, entries := sampleRouting.recordRows (selection .A .A) } := by
    rw [record, cells]
    rfl
  have trial : t.store.record.primary.map (·.generation) ≠ some 1 := by
    rw [record, cells]
    decide +kernel
  obtain ⟨_, hgiven, -, read, rollback⟩ := committed_rows_kept run secondary
  refine ⟨t, _, run, secondary, ?_⟩
  constructor
  · intro same
    rw [same] at trial
    apply trial rfl
  · constructor
    · rw [read]
      rw [given] at hgiven
      cases hgiven
      rfl
    · apply rollback trial

end Selector
