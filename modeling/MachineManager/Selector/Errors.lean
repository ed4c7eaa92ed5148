import MachineManager.Selector.Committed

/-!
# What a verb that returns an error leaves behind

A caller keeps its own view of the two copies, and moves it only when a verb succeeds. A rollback
that fails changes nothing that is read. A commit that fails may already have made the primary copy
the committed one. An activation that fails in a standing trial, or before anything was committed,
leaves the record at its new generation; otherwise it is taken back.
-/

open Option

namespace Selector

open SelectorBlob RecordSelectorStore RecordSelectorStore Cells

/-- The side files hold rows of components that the record does not route. -/
structure ManagerOnly (r : Routing) (c : Cells) : Prop where
  rows : ∀ a, c.rows = some a → r.managerRows a.entries = a.entries
  committed : ∀ k, c.committed = some k → r.managerRows k.entries = k.entries

variable {io : Io} {c c' : Cells} {r : Routing} {gap : Nat} {header : Transaction}
  {res : Ending SelectorError Nat} {entries : Entries}

namespace ManagerOnly

variable (h : ManagerOnly r c)
include h

theorem found {n : Nat} {rows : Entries} (found : Found r c n rows) :
  r.managerRows rows = rows
  := by
  rcases found with found | found | ⟨-, rfl⟩
  · apply h.rows _ found
  · apply h.committed _ found
  · apply r.managerRows_empty

theorem issueIf (entries : Entries) (l : Bool) :
  ManagerOnly r (c.issueIf r gap entries l)
  := by
  cases l with
  | false => exact ⟨h.rows, h.committed⟩
  | true =>
    constructor
    · rintro a ⟨⟩
      apply r.managerRows_managerRows
    · apply h.committed

theorem putHeaderIf (l : Bool) (n : Nat) (header : Transaction) :
  ManagerOnly r (c.putHeaderIf l n header)
  := by cases l <;> exact ⟨h.rows, h.committed⟩

theorem activateMove (move : ActivateMove r io entries header c res c') :
  ManagerOnly r c'
  := by
  have issued (l : Bool) : ManagerOnly r (c.issueIf r io.gap entries l) := h.issueIf entries l
  have restored (l : Bool) : ManagerOnly r (c.issueIf r io.gap entries l).restore :=
    ⟨(issued l).rows, (issued l).committed⟩
  cases move with
  | refused => apply h
  | cut l =>
    cases l
    · apply h
    · apply issued false
  | cutRows | left => apply issued
  | undone => apply restored
  | cutUndo _ u =>
    cases u
    · apply issued
    · apply restored
  | written => apply (issued true).putHeaderIf

theorem commitMove {res : Ending SelectorError Unit} (move : CommitMove r io c res c') :
  ManagerOnly r c'
  := by
  have anchored : ManagerOnly r c.anchor := ⟨h.rows, h.committed⟩
  cases move with
  | nothing | refused => apply h
  | cut l =>
    cases l
    · apply h
    · apply anchored
  | unreadable | noRows => apply anchored
  | written _ rows _ _ found =>
    split
    · constructor
      · apply h.rows
      · rintro k ⟨⟩
        apply h.found (found_of_rowsAt found)
    · apply anchored

theorem rollbackMove (move : RollbackMove r io header c res c') :
  ManagerOnly r c'
  := by
  have headed (l : Bool) (n : Nat) := h.putHeaderIf l n header
  have restored (n : Nat) : ManagerOnly r (c.putHeaderIf true n header).restore :=
    ⟨(headed true n).rows, (headed true n).committed⟩
  cases move with
  | unreadable | noTrial | noRows => apply h
  | header | lost => apply headed
  | record =>
    split
    · apply restored
    · apply headed
  | written _ _ _ _ found =>
    split
    · constructor
      · rintro a ⟨⟩
        apply h.found (found_of_committedAt found)
      · apply h.committed
    · apply restored

/-- Over a record that routes everything there is nothing to choose from. -/
theorem newestRows_of_everything (everything : r.routesEverything = true) :
  c.newestRows = ∅
  := by
  have empty : ∀ x, c.rows = some x ∨ c.committed = some x → x.entries = ∅ := by
    rintro x (hx | hx)
    · rw [← h.rows x hx, r.managerRows_of_everything everything]
    · rw [← h.committed x hx, r.managerRows_of_everything everything]
  rw [Cells.newestRows]
  rcases ha : c.rows with _ | a <;> rcases hb : c.committed with _ | b
  · rfl
  · apply empty b (.inr hb)
  · apply empty a (.inl ha)
  · dsimp only
    split
    · apply empty b (.inr hb)
    · apply empty a (.inl ha)

end ManagerOnly

theorem managerOnly_of_run {κ : Signing} {s : StoreState} (run : StoreRun κ r s) :
  ManagerOnly r (s.cells κ)
  := by
  apply run.invariant (P := fun s => ManagerOnly r (s.cells κ))
  · rintro _ rfl
    constructor <;> nofun
  · rintro s _ h ⟨io, call, rfl⟩
    cases call with
    | activate entries header => apply h.activateMove (activate_moves r io κ entries header s)
    | commit => apply h.commitMove (commit_moves r io κ s)
    | rollback header => apply h.rollbackMove (rollback_moves r io κ header s)
    | bootStage => exact ⟨h.rows, h.committed⟩

/-! ### What is read -/

section Vectors

/-- The header is not part of what is read. -/
theorem vectors_putHeaderIf (l : Bool) (n : Nat) (header : Transaction) :
  (c.putHeaderIf l n header).primaryVector = c.primaryVector ∧
    (c.putHeaderIf l n header).secondaryVector = c.secondaryVector
  := by cases l <;> exact ⟨rfl, rfl⟩

theorem Tidy.entriesAt_eq (tidy : Tidy c) {g : Nat} {a k : Entries}
    (rows : entriesAt c.rows g = some a) (committed : entriesAt c.committed g = some k) :
  a = k
  := by
  cases tidy.rows _ _ (entriesAt_eq_some.mp rows) (entriesAt_eq_some.mp committed) rfl
  rfl

/-- The rows at the generation of a `committed` file are those of that file. -/
theorem Tidy.rowsAt_of_committed (tidy : Tidy c) {k : BootVector} (hk : c.committed = some k) :
  c.rowsAt k.generation = some k.entries
  := by
  have here : entriesAt c.committed k.generation = some k.entries := entriesAt_eq_some.mpr hk
  cases rows : entriesAt c.rows k.generation with
  | none => simp [Cells.rowsAt, here, rows]
  | some =>
    cases tidy.entriesAt_eq rows here
    simp [Cells.rowsAt, rows]

/-- Without a trial the two vectors are the same. -/
theorem Tidy.secondaryVector_of_settled (tidy : Tidy c) (settled : c.primary = c.secondary) :
  c.secondaryVector = c.primaryVector
  := by
  rw [secondaryVector, primaryVector, ← settled]
  cases hp : c.primary with
  | none => rfl
  | some p =>
    have same : c.secondaryRows p.generation = c.rowsAt p.generation := by
      have here : c.primaryGeneration = some p.generation := by
        rw [primaryGeneration, hp]
        rfl
      simp only [Cells.secondaryRows, Cells.rowsAt, here, if_true]
      cases rows : entriesAt c.rows p.generation with
      | none => simp
      | some =>
        cases committed : entriesAt c.committed p.generation with
        | none => simp
        | some =>
          cases tidy.entriesAt_eq rows committed
          simp
    rw [map_some, map_some, same]

end Vectors

/-! ### The three verbs -/

section Err

variable {e : SelectorError} {s : BootVector}

/-- A rollback that returns an error changes nothing that is read. -/
theorem RollbackMove.vectors_of_err (move : RollbackMove r io header c res c')
    (err : res = .err e) :
  c'.primaryVector = c.primaryVector ∧ c'.secondaryVector = c.secondaryVector
  := by
  cases move with
  | unreadable | noTrial | noRows => exact ⟨rfl, rfl⟩
  | header | lost => apply vectors_putHeaderIf
  | record _ _ _ _ failed =>
    cases record : io.record with
    | none => apply absurd record failed
    | stops =>
      rw [record] at err
      cases err
    | fails l =>
      cases l with
      | true => apply absurd record io.record_err
      | false =>
        rw [Fault.landed, if_neg Bool.false_ne_true]
        apply vectors_putHeaderIf
  | written =>
    cases rows : io.rows <;> rw [rows] at err <;> cases err

/-- After a commit that returns an error the primary vector is as it was, and the committed one is
as it was or is the primary one. -/
theorem CommitMove.vectors_of_err (tidy : Tidy c) (managerOnly : ManagerOnly r c)
    {res : Ending SelectorError Unit} (move : CommitMove r io c res c') (err : res = .err e) :
  c'.primaryVector = c.primaryVector ∧
    (c'.secondaryVector = c.secondaryVector ∨ c'.secondaryVector = c'.primaryVector)
  := by
  have tidy' := tidy.commitMove move
  have anchored : c.anchor.primaryVector = c.primaryVector ∧
      (c.anchor.secondaryVector = c.secondaryVector ∨ c.anchor.secondaryVector =
        c.anchor.primaryVector) := by
    use rfl
    right
    apply tidy.anchor.secondaryVector_of_settled rfl
  cases move with
  | nothing | cut => cases err
  | refused =>
    use rfl
    left
    rfl
  | unreadable | noRows => apply anchored
  | written p rows _ primary found =>
    cases landed : io.committed.landed with
    | false => apply anchored
    | true =>
      rw [landed, if_pos rfl] at tidy'
      rw [if_pos rfl]
      constructor
      · have here := tidy'.rowsAt_of_committed rfl
        have before : (c.rowsAt p.generation).getD c.newestRows = rows := by
          rcases found with found | ⟨none, everything, rfl⟩
          · rw [found, getD_some]
          · rw [none, getD_none, managerOnly.newestRows_of_everything everything]
        have primary' : c.anchor.primary = some p := primary
        rw [primaryVector, primaryVector, primary, primary', map_some, map_some, before]
        rw [here, getD_some]
      · right
        apply tidy'.secondaryVector_of_settled rfl

/-- The committed rows do not depend on the primary copy as long as it is on trial. -/
theorem secondaryRows_of_trial {g : Nat} (trial : c.primaryGeneration ≠ some g) :
  c.secondaryRows g = entriesAt c.committed g
  := by rw [Cells.secondaryRows, if_neg trial, or_none]

/-- What an activation leaves of the committed vector, when the record stays at its generation. -/
theorem secondaryVector_issueIf (secondary : c.secondary = some s) (trial : c.inTrial = true)
    (entries : Entries) (l : Bool)
    (spares : l = false ∨ ∃ k, c.committed = some k ∧ k.generation = s.generation) :
  (c.issueIf r gap entries l).secondaryVector = c.secondaryVector
  := by
  have other : c.primaryGeneration ≠ some s.generation := by
    intro same
    simp [inTrial, secondaryGeneration, same, secondary] at trial
  have other' : (c.issueIf r gap entries l).primaryGeneration ≠ some s.generation := by
    have issued : (c.issueIf r gap entries l).primaryGeneration = some (c.next gap) := by
      cases l <;> rfl
    rw [issued]
    intro same
    apply secondary_ne_next secondary (some.inj same)
  have secondary' : (c.issueIf r gap entries l).secondary = some s := by cases l <;> apply secondary
  have committed : (c.issueIf r gap entries l).committed = c.committed := by cases l <;> rfl
  rw [secondaryVector, secondaryVector, secondary, secondary', map_some,
    map_some, secondaryRows_of_trial other, secondaryRows_of_trial other', committed]
  rcases spares with rfl | ⟨k, hk, hg⟩
  · rfl
  · have here : entriesAt c.committed s.generation = some k.entries := by
      rw [← hg]
      apply entriesAt_eq_some.mpr hk
    rw [here, getD_some, getD_some]

/-- What is read after an activation was taken back. -/
theorem vectors_undone (tidy : Tidy c) (settled : c.inTrial = false)
    (secondary : c.secondary = some s) (entries : Entries) (l : Bool)
    (spares : l = false ∨ ∃ k, c.committed = some k ∧ k.generation = s.generation) :
  (c.issueIf r gap entries l).restore.primaryVector = c.primaryVector ∧
    (c.issueIf r gap entries l).restore.secondaryVector = c.secondaryVector
  := by
  have same := tidy.primary_eq_secondary settled
  cases l with
  | false =>
    rw [issueIf, if_neg Bool.false_ne_true, restore_issue same]
    exact ⟨rfl, rfl⟩
  | true =>
    obtain ⟨k, hk, hg⟩ := spares.resolve_left (by simp)
    have tidy' := (tidy.issueRows r gap entries).restore
    have primary : (c.issueIf r gap entries true).restore.primaryVector = c.primaryVector := by
      have before := tidy.rowsAt_of_committed hk
      have after := tidy'.rowsAt_of_committed hk
      rw [hg] at before after
      have primary' : (c.issueRows r gap entries).restore.primary = some s := secondary
      rw [primaryVector, issueIf, if_pos rfl, primaryVector, primary', same,
        secondary, map_some, map_some, before, after]
      rfl
    use primary
    rw [tidy.secondaryVector_of_settled same, ← primary]
    apply tidy'.secondaryVector_of_settled rfl

/-- After an activation that returns an error the committed vector is as it was, if the prior `rows`
are still there or `committed` holds the committed rows; and so is the primary vector, if it was the
committed one. -/
theorem ActivateMove.vectors_of_err (tidy : Tidy c) (readable : ¬io.Unreadable)
    (undo : io.undo = .none)
    (spares : io.rows.landed = false ∨ ∀ s, c.secondary = some s →
      ∃ k, c.committed = some k ∧ k.generation = s.generation)
    (move : ActivateMove r io entries header c res c') (err : res = .err e) :
  c'.secondaryVector = c.secondaryVector ∧
    (c.inTrial = false → c.secondary ≠ none → c'.primaryVector = c.primaryVector)
  := by
  have spares' (s : BootVector) (secondary : c.secondary = some s) (l : Bool)
      (rows : io.rows = .fails l) :
      l = false ∨ ∃ k, c.committed = some k ∧ k.generation = s.generation := by
    rcases spares with unlanded | spares
    · left
      rw [rows] at unlanded
      apply unlanded
    · right
      apply spares s secondary
  cases move with
  | refused =>
    use rfl
    intros
    rfl
  | cut | cutRows | cutUndo => cases err
  | left l _ rows why =>
    cases secondary : c.secondary with
    | none =>
      constructor
      · cases l <;> simp [secondaryVector, issueIf, issueRows, issue, secondary]
      · intro _ floor
        apply absurd rfl floor
    | some s =>
      have trial : c.inTrial = true := by
        rcases why with trial | none | failed | bad
        · apply trial
        · cases secondary.symm.trans none
        · cases undo.symm.trans failed
        · apply absurd bad readable
      constructor
      · apply secondaryVector_issueIf secondary trial entries l (spares' s secondary l rows)
      · intro settled
        cases trial.symm.trans settled
  | undone l _ rows _ settled floor =>
    obtain ⟨s, secondary⟩ := ne_none_iff_exists'.mp floor
    have read : (c.issueIf r io.gap entries l).restore.primaryVector = _ ∧ _ :=
      vectors_undone tidy settled secondary entries l (spares' s secondary l rows)
    use read.2
    intro _ _
    apply read.1
  | written =>
    cases transaction : io.transaction <;> rw [transaction] at err <;> cases err

end Err

/-! ### The store -/

/-- What is read after a verb returned an error, in every state that calls lead to. After a rollback
it is what was read before. After a commit the primary vector is, and the committed vector is, or it
is the primary one. After an activation the committed vector is, if the prior `rows` are still there
or `committed` is at the committed generation; and so is the primary vector, if the copies were at
the same generation and there is a committed one. -/
theorem reads_after_err {κ : Signing} {r : Routing} {s : StoreState}
    (run : StoreRun κ r s) {io : Io} (readable : ¬io.Unreadable) (undo : io.undo = .none) :
  (∀ header e, (rollback κ r io header s).1 = .err e →
    (readPrimary κ {} (rollback κ r io header s).2).1 = (readPrimary κ {} s).1 ∧
    (readSecondary κ {} (rollback κ r io header s).2).1 = (readSecondary κ {} s).1) ∧
  (∀ e, (commit κ r io s).1 = .err e →
    (readPrimary κ {} (commit κ r io s).2).1 = (readPrimary κ {} s).1 ∧
    ((readSecondary κ {} (commit κ r io s).2).1 = (readSecondary κ {} s).1 ∨
      (readSecondary κ {} (commit κ r io s).2).1 = (readPrimary κ {} (commit κ r io s).2).1)) ∧
  (∀ entries header e, (activate κ r io entries header s).1 = .err e →
    io.rows.landed = false ∨ (∀ v, s.record.secondary = some v →
      ∃ k, (s.cells κ).committed = some k ∧ k.generation = v.generation) →
    (readSecondary κ {} (activate κ r io entries header s).2).1 = (readSecondary κ {} s).1 ∧
    (s.record.primary.map (·.generation) = s.record.secondary.map (·.generation) →
      s.record.secondary ≠ none → (readPrimary κ {} (activate κ r io entries header s).2).1 =
        (readPrimary κ {} s).1))
  := by
  have tidy := tidy_of_run run
  simp only [readPrimary_clean, readSecondary_clean, Ending.ok.injEq]
  refine ⟨?_, ?_, ?_⟩
  · intro header e err
    apply (rollback_moves r io κ header s).vectors_of_err err
  · intro e err
    apply (commit_moves r io κ s).vectors_of_err tidy (managerOnly_of_run run) err
  · intro entries header e err spares
    obtain ⟨secondary, primary⟩ :=
      (activate_moves r io κ entries header s).vectors_of_err tidy readable undo spares err
    use secondary
    intro settled floor
    apply primary _ floor
    simp only [inTrial, bne_eq_false_iff_eq]
    apply congrArg (·.getD 0) settled

/-! ### What an error may have changed -/

/-- An activation whose manager rows cannot be written. -/
theorem ActivateMove.failed
    (move : ActivateMove r { rows := .fails false } entries header c res c') :
  (∃ e, res = .err e) ∧ (c.inTrial = true → c' = c.issue r 0 entries)
  := by
  cases move with
  | refused _ why =>
    rcases why with ⟨_, bad⟩ | failed
    · cases bad
    · cases failed
  | cut l cut | cutRows l record cut => cases cut
  | left _ _ failed =>
    cases failed
    exact ⟨⟨_, rfl⟩, fun _ => rfl⟩
  | undone _ _ _ _ settled =>
    exact ⟨⟨_, rfl⟩, fun trial => by cases trial.symm.trans settled⟩
  | cutUndo _ _ _ _ cut => cases cut
  | written _ written => cases written

/-- In a standing trial an activation that returns an error moves the primary vector, and a commit
that returns an error moves the committed one. -/
theorem err_moves_vectors :
  ∃ r : Routing, ∀ κ : Signing, ∃ s, StoreRun κ r s ∧
    (∃ e, (activate κ r { rows := .fails false } (selection .A .A) blankHeader s).1 = .err e ∧
      (readPrimary κ {} (activate κ r { rows := .fails false } (selection .A .A)
        blankHeader s).2).1 ≠ (readPrimary κ {} s).1) ∧
    ∃ e, (commit κ r { committed := .fails false } s).1 = .err e ∧
      (readSecondary κ {} (commit κ r { committed := .fails false } s).2).1 ≠
        (readSecondary κ {} s).1
  := by
  use sampleRouting
  intro κ
  have allowed : SampleAllowed κ fun _ _ _ => True :=
    ⟨fun _ _ => trivial, fun _ _ => trivial, fun _ _ => trivial⟩
  obtain ⟨t, run, cells, -⟩ := allowed.reaches_trial
  use t.store, run.store
  have activated := activate_moves sampleRouting { rows := .fails false } κ (selection .A .A)
    blankHeader t.store
  have committed := commit_moves sampleRouting { committed := .fails false } κ t.store
  rw [cells] at activated committed
  obtain ⟨⟨e, err⟩, moved⟩ := activated.failed
  obtain ⟨⟨e', err'⟩, anchored⟩ := committed.failed rfl
  simp only [readPrimary_clean, readSecondary_clean, cells, moved (by decide +kernel), anchored]
  constructor
  · use e, err
    decide +kernel
  · use e', err'
    decide +kernel

/-- Without a trial an activation that returns an error is taken back. -/
theorem reads_after_err_settled :
  ∃ r : Routing, ∀ κ : Signing, ∃ s e, StoreRun κ r s ∧
    (activate κ r { rows := .fails false } (selection .B .B) blankHeader s).1 = .err e ∧
    (readPrimary κ {} (activate κ r { rows := .fails false } (selection .B .B)
      blankHeader s).2).1 = .ok (some { generation := 1, entries := selection .A .A })
  := by
  use sampleRouting
  intro κ
  have allowed : SampleAllowed κ fun _ _ _ => True :=
    ⟨fun _ _ => trivial, fun _ _ => trivial, fun _ _ => trivial⟩
  obtain ⟨t, run, cells, -⟩ := allowed.reaches_settled
  have activated := activate_moves sampleRouting { rows := .fails false } κ (selection .B .B)
    blankHeader t.store
  have record : t.store.record = (t.store.cells κ).record := rfl
  obtain ⟨⟨e, err⟩, -⟩ := activated.failed
  have readable : ¬({ rows := .fails false } : Io).Unreadable := by simp [Io.Unreadable]
  have after := (reads_after_err run.store readable rfl).2.2 _ _ _ err (.inl rfl)
  use t.store, e, run.store, err
  rw [after.2 (by rw [record, cells]; rfl) (by rw [record, cells]; rintro ⟨⟩),
    readPrimary_clean, cells]
  decide +kernel

end Selector
