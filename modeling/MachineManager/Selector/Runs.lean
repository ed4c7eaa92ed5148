import MachineManager.Lib.Reachable
import MachineManager.Selector.Moves

/-!
# Runs of the store

A run is any sequence of activations, commits and rollbacks, each of which meets faults of its own,
with rollbacks of the boot stage in between. `Tidy` is what all of them keep: how the generations of
the copies and of the side files are ordered, and that copies or side files at one generation are
the same.
-/

open Option

namespace Selector

open SelectorBlob RecordSelectorStore

variable {file : Option BootVector} {g gap : Nat} {κ : Signing} {s : StoreState} {c c' : Cells}
    {rows : Entries}
  {r : Routing} {header : Transaction} {res : Ending SelectorError Nat} {p : BootVector}

theorem entriesAt_eq_some {entries : Entries} :
  entriesAt file g = some entries ↔ file = some { generation := g, entries }
  := by
  rcases file with _ | ⟨g', _⟩
  · simp [entriesAt]
  · by_cases h : g' = g <;> simp [entriesAt, h]

theorem entriesAt_eq_none :
  entriesAt file g = none ↔ ∀ x, file = some x → x.generation ≠ g
  := by
  rcases file with _ | ⟨g', _⟩
  · simp [entriesAt]
  · by_cases h : g' = g <;> simp [entriesAt, h]

namespace Cells

/-- A generation that is issued is above that of the primary copy. -/
theorem primary_lt_next (h : c.primary = some p) :
  p.generation < c.next gap
  := by
  simp only [next, nextGeneration, h, elim_some]
  omega

theorem secondary_lt_next {s : BootVector} (h : c.secondary = some s) :
  s.generation < c.next gap
  := by
  simp only [next, nextGeneration, h, elim_some]
  omega

theorem next_pos :
  0 < c.next gap
  := Nat.add_pos_left (Nat.succ_pos _) gap

/-- An activation of the record that is taken back at once leaves nothing behind. -/
theorem restore_issue (settled : c.primary = c.secondary) (r : Routing) (entries : Entries) :
  (c.issue r gap entries).restore = c
  := by
  obtain ⟨p, s, _, _, _⟩ := c
  obtain rfl : p = s := settled
  rfl

theorem anchor_of_settled (settled : c.primary = c.secondary) :
  c.anchor = c
  := by
  obtain ⟨p, s, _, _, _⟩ := c
  obtain rfl : p = s := settled
  rfl

/-- An activation moves the primary copy. -/
theorem issue_primary_ne (r : Routing) (entries : Entries) :
  (c.issue r gap entries).primary ≠ c.primary
  := by
  intro eq
  apply Nat.lt_irrefl _ (primary_lt_next eq.symm)

end Cells

/-! ### What every run keeps -/

/-- The order of the generations, and what is the same at one generation. -/
structure Tidy (c : Cells) : Prop where
  positive : ∀ p, c.primary = some p ∨ c.secondary = some p → 0 < p.generation
  floor : ∀ s, c.secondary = some s → ∃ p, c.primary = some p ∧ s.generation ≤ p.generation
  same : ∀ p s, c.primary = some p → c.secondary = some s → p.generation = s.generation → p = s
  committed : ∀ k, c.committed = some k → ∃ s, c.secondary = some s ∧ k.generation ≤ s.generation
  rows : ∀ a k, c.rows = some a → c.committed = some k → a.generation = k.generation → a = k

namespace Tidy

variable (tidy : Tidy c) (r : Routing) (gap : Nat) (entries : Entries)

theorem empty :
  Tidy {}
  := by constructor <;> simp

include tidy

theorem issue :
  Tidy (c.issue r gap entries)
  where
  positive := by
    rintro p (h | h)
    · cases h
      apply Cells.next_pos
    · apply tidy.positive p (.inr h)
  floor := by
    intro s h
    have hs : c.secondary = some s := h
    use { generation := c.next gap, entries := r.recordRows entries }, rfl
    apply Nat.le_of_lt (Cells.secondary_lt_next hs)
  same := by
    rintro p s ⟨⟩ h eq
    apply absurd eq (Nat.ne_of_gt (Cells.secondary_lt_next h))
  __ := tidy

/-- A generation that is issued is above that of `committed`. -/
theorem committed_lt_next {k : BootVector} (h : c.committed = some k) :
  k.generation < c.next gap
  := by
  obtain ⟨s, hs, le⟩ := tidy.committed k h
  apply Nat.lt_of_le_of_lt le (Cells.secondary_lt_next hs)

theorem issueRows :
  Tidy (c.issueRows r gap entries)
  where
  positive := (tidy.issue r gap entries).positive
  floor := (tidy.issue r gap entries).floor
  same := (tidy.issue r gap entries).same
  committed := tidy.committed
  rows := by
    rintro a k ⟨⟩ h eq
    apply absurd eq (Nat.ne_of_gt (tidy.committed_lt_next gap h))

/-- An activation keeps the medium tidy, whether or not its rows landed. -/
theorem issueIf (l : Bool) :
  Tidy (c.issueIf r gap entries l)
  := by
  cases l
  · apply tidy.issue
  · apply tidy.issueRows

/-- The record may go back to its committed copy. -/
theorem restore :
  Tidy c.restore
  where
  positive := by
    rintro p (h | h) <;> apply tidy.positive p (.inr h)
  floor := by
    intro s h
    use s, h
  same := by
    intro p s hp hs _
    apply some.inj (hp.symm.trans hs)
  __ := tidy

theorem putHeaderIf (l : Bool) (g : Nat) (header : Transaction) :
  Tidy (c.putHeaderIf l g header)
  := by
  cases l
  · apply tidy
  · constructor
    · apply tidy.positive
    · apply tidy.floor
    · apply tidy.same
    · apply tidy.committed
    · apply tidy.rows

/-- The primary copy becomes the committed one. -/
theorem anchor :
  Tidy c.anchor
  where
  positive := by
    rintro p (h | h) <;> apply tidy.positive p (.inl h)
  floor := by
    intro s h
    use s, h
  same := by
    intro p s hp hs _
    apply some.inj (hp.symm.trans hs)
  committed := by
    intro k h
    obtain ⟨s, hs, _⟩ := tidy.committed k h
    obtain ⟨p', hp', _⟩ := tidy.floor s hs
    use p', hp'
    omega
  rows := tidy.rows

/-- Manager rows that were found at a generation are written to `committed`. -/
theorem putCommitted (hp : c.primary = some p)
    (found : c.rowsAt p.generation = some rows ∨ c.rowsAt p.generation = none) :
  Tidy { c.anchor with committed := some { generation := p.generation, entries := rows } }
  where
  positive := tidy.anchor.positive
  floor := tidy.anchor.floor
  same := tidy.anchor.same
  committed := by
    rintro k ⟨⟩
    use p, hp
  rows := by
    rintro ⟨g, e⟩ k ha ⟨⟩ eq
    obtain rfl : g = p.generation := eq
    have here : entriesAt c.rows p.generation = some e := entriesAt_eq_some.mpr ha
    rw [Cells.rowsAt, here] at found
    rcases found with found | found
    · cases found
      rfl
    · cases found

/-- Manager rows that were found at a generation are written to `rows`. -/
theorem putRows (found : c.committedAt g = some rows ∨ c.committedAt g = none) :
  Tidy { c with rows := some { generation := g, entries := rows } }
  where
  __ := tidy
  rows := by
    rintro a ⟨g', e⟩ ⟨⟩ hk eq
    obtain rfl : g = g' := eq
    have here : entriesAt c.committed g = some e := entriesAt_eq_some.mpr hk
    rw [Cells.committedAt, here] at found
    rcases found with found | found
    · cases found
      rfl
    · cases found

/-- Without a trial the two copies are the same. -/
theorem primary_eq_secondary (settled : c.inTrial = false) :
  c.primary = c.secondary
  := by
  simp only [Cells.inTrial, Cells.primaryGeneration, Cells.secondaryGeneration, bne_eq_false_iff_eq]
    at settled
  cases hp : c.primary with
  | none =>
    cases hs : c.secondary with
    | none => rfl
    | some s =>
      obtain ⟨p, hp', -⟩ := tidy.floor s hs
      cases hp.symm.trans hp'
  | some p =>
    cases hs : c.secondary with
    | none =>
      have pos := tidy.positive p (.inl hp)
      rw [hp, hs] at settled
      simp only [map_some, getD_some, map_none, getD_none] at settled
      omega
    | some s =>
      rw [hp, hs] at settled
      rw [tidy.same p s hp hs settled]

end Tidy

/-! ### Every verb keeps it -/

section Moves

variable {io : Io} (tidy : Tidy c)

include tidy

/-- An activation keeps the medium tidy, however it ends. -/
theorem Tidy.activateMove {entries : Entries} (move : ActivateMove r io entries header c res c') :
  Tidy c'
  := by
  cases move with
  | refused => apply tidy
  | cut l =>
    cases l
    · apply tidy
    · apply tidy.issue
  | cutRows | left => apply tidy.issueIf
  | undone l => apply (tidy.issueIf r io.gap entries l).restore
  | cutUndo l u =>
    cases u
    · apply tidy.issueIf
    · apply (tidy.issueIf r io.gap entries l).restore
  | written => apply (tidy.issueRows r io.gap entries).putHeaderIf

/-- So does a commit. -/
theorem Tidy.commitMove {res : Ending SelectorError Unit} (move : CommitMove r io c res c') :
  Tidy c'
  := by
  cases move with
  | nothing | refused => apply tidy
  | cut l =>
    cases l
    · apply tidy
    · apply tidy.anchor
  | unreadable | noRows => apply tidy.anchor
  | written _ _ _ primary found =>
    split
    · apply tidy.putCommitted primary
      rcases found with found | ⟨found, -⟩
      · left
        apply found
      · right
        apply found
    · apply tidy.anchor

/-- So does a rollback. -/
theorem Tidy.rollbackMove (move : RollbackMove r io header c res c') :
  Tidy c'
  := by
  have headed (l : Bool) (g : Nat) := tidy.putHeaderIf l g header
  cases move with
  | unreadable | noTrial | noRows => apply tidy
  | header | lost => apply headed
  | record s =>
    split
    · apply (headed true s.generation).restore
    · apply headed
  | written s _ _ _ found =>
    split
    · apply (headed true s.generation).restore.putRows
      rcases found with found | ⟨found, -⟩
      · left
        apply found
      · right
        apply found
    · apply (headed true s.generation).restore

end Moves

/-! ### Without faults -/

section Clean

variable (κ : Signing)

theorem not_unreadable :
  ¬({} : Io).Unreadable
  := by simp [Io.Unreadable]

/-- When nothing fails, the vector that boots is read off the view. -/
theorem readPrimary_clean (s : StoreState) :
  (readPrimary κ {} s).1 = .ok (s.cells κ).primaryVector
  := by rw [(reads_readPrimary κ {}).ok not_unreadable]

theorem readSecondary_clean (s : StoreState) :
  (readSecondary κ {} s).1 = .ok (s.cells κ).secondaryVector
  := by rw [(reads_readSecondary κ {}).ok not_unreadable]

variable {entries : Entries}

/-- When nothing fails, an activation writes all it was given. -/
theorem ActivateMove.clean (move : ActivateMove r {} entries header c res c') :
  res = .ok (c.next 0) ∧ c' = (c.issueRows r 0 entries).putHeaderIf true (c.next 0) header
  := by
  cases move with
  | refused _ why =>
    rcases why with bad | record
    · apply absurd bad not_unreadable
    · cases record
  | cut _ record => cases record
  | cutRows l record rows | left l record rows | undone l record rows | cutUndo l u record rows =>
    cases rows
  | written =>
    constructor
    · rfl
    · rfl

/-- An activation that is cut off after the record was written. -/
theorem ActivateMove.cut_after_record
    (move : ActivateMove r { record := .stops true } entries header c res c') :
  c' = c.issue r 0 entries
  := by
  cases move with
  | refused _ why =>
    rcases why with ⟨_, bad⟩ | record
    · cases bad
    · cases record
  | cut _ record =>
    cases record
    rfl
  | cutRows l record | left l record | undone l record | cutUndo l u record | written record =>
    cases record

/-- When nothing fails, a commit makes the primary copy the committed one. -/
theorem CommitMove.clean (primary : c.primary = some p)
    (found : c.rowsAt p.generation = some rows) {res : Ending SelectorError Unit}
    (move : CommitMove r {} c res c') :
  res = .ok () ∧
    c' = { c.anchor with committed := some { generation := p.generation, entries := rows } }
  := by
  cases move with
  | nothing absent => cases primary.symm.trans absent
  | refused _ why =>
    rcases why with bad | record
    · apply absurd bad not_unreadable
    · cases record
  | cut _ record => cases record
  | unreadable _ _ bad => apply absurd bad not_unreadable
  | noRows _ _ primary' absent =>
    cases primary.symm.trans primary'
    cases found.symm.trans absent
  | written _ _ _ primary' found' =>
    cases primary.symm.trans primary'
    rcases found' with found' | ⟨absent, -⟩
    · cases found.symm.trans found'
      constructor
      · rfl
      · rfl
    · cases found.symm.trans absent

theorem CommitMove.clean_absent (absent : c.primary = none) {res : Ending SelectorError Unit}
    (move : CommitMove r {} c res c') :
  res = .ok () ∧ c' = c
  := by
  cases move with
  | nothing => exact ⟨rfl, rfl⟩
  | refused _ why =>
    rcases why with bad | record
    · apply absurd bad not_unreadable
    · cases record
  | cut _ record => cases record
  | unreadable _ _ bad => apply absurd bad not_unreadable
  | noRows p record primary | written p rows record primary => cases absent.symm.trans primary

/-- Outside of a trial there is nothing to roll back. -/
theorem RollbackMove.clean_settled
    (settled : ∀ s, c.secondary = some s → c.primaryGeneration = some s.generation)
    (move : RollbackMove r {} header c res c') :
  res = .err .noTrial ∧ c' = c
  := by
  cases move with
  | unreadable _ bad => apply absurd bad not_unreadable
  | noTrial => exact ⟨rfl, rfl⟩
  | noRows s secondary trial | header s secondary trial | lost e s secondary trial
  | record s secondary trial | written s rows secondary trial =>
    apply absurd (settled s secondary) trial

/-- When nothing fails, a rollback restores the committed copy and its rows. -/
theorem RollbackMove.clean {s : BootVector} (secondary : c.secondary = some s)
    (trial : c.primaryGeneration ≠ some s.generation)
    (found : c.committedAt s.generation = some rows) (move : RollbackMove r {} header c res c') :
  res = .ok s.generation ∧
    c' = { (c.putHeaderIf true s.generation header).restore with
      rows := some { generation := s.generation, entries := rows } }
  := by
  cases move with
  | unreadable _ bad => apply absurd bad not_unreadable
  | noTrial settled => apply absurd (settled s secondary) trial
  | noRows _ secondary' _ absent =>
    cases secondary.symm.trans secondary'
    cases found.symm.trans absent
  | header _ _ _ transaction => apply absurd rfl transaction
  | lost _ _ _ _ _ bad => apply absurd bad not_unreadable
  | record _ _ _ _ record => apply absurd rfl record
  | written _ _ secondary' _ found' =>
    cases secondary.symm.trans secondary'
    rcases found' with found' | ⟨absent, -⟩
    · cases found.symm.trans found'
      constructor
      · rfl
      · rfl
    · cases found.symm.trans absent

end Clean

/-! ### Calls -/

/-- A call of the store, or the boot stage acting on its own. -/
inductive StoreCall
  | activate (entries : Entries) (header : Transaction)
  | commit
  | rollback (header : Transaction)
  | bootStage

def StoreCall.run (κ : Signing) (r : Routing) (io : Io) (s : StoreState) : StoreCall → StoreState
  | activate entries header => (RecordSelectorStore.activate κ r io entries header s).2
  | commit => (RecordSelectorStore.commit κ r io s).2
  | rollback header => (RecordSelectorStore.rollback κ r io header s).2
  | bootStage => s.bootStageRollback

/-- Every call keeps the order of the generations. -/
theorem Tidy.run (r : Routing) (io : Io) (tidy : Tidy (s.cells κ)) (call : StoreCall) :
  Tidy ((call.run κ r io s).cells κ)
  := by
  cases call with
  | activate entries header => apply tidy.activateMove (activate_moves r io κ entries header s)
  | commit => apply tidy.commitMove (commit_moves r io κ s)
  | rollback header => apply tidy.rollbackMove (rollback_moves r io κ header s)
  | bootStage => apply tidy.restore

/-- The states of the medium that calls lead to from the empty one, whatever they meet. -/
def StoreRun (κ : Signing) (r : Routing) : StoreState → Prop :=
  Reachable (· = {}) fun s s' => ∃ io call, s' = StoreCall.run κ r io s call

/-- The medium is tidy after any calls, whatever fails in them. -/
theorem tidy_of_run (run : StoreRun κ r s) :
  Tidy (s.cells κ)
  := by
  apply run.invariant (P := fun s => Tidy (s.cells κ))
  · rintro _ rfl
    apply Tidy.empty
  · rintro s _ tidy ⟨io, call, rfl⟩
    apply tidy.run r io call

end Selector
