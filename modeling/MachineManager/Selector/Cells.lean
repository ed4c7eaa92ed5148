import MachineManager.Selector.RecordStore

/-!
# What the store holds

The verbs of the store look at the medium only through what verifies: the two copies of the record,
the manager rows in `rows` and `committed` with their generations, and the header. `Cells` is that
view, `StoreState.cells` takes it, and the readers of the store return functions of it.
-/

namespace Selector

open SelectorBlob RecordSelectorStore SignedFiles

/-- What verifies on the medium. -/
structure Cells where
  primary : Option BootVector := none
  secondary : Option BootVector := none
  rows : Option BootVector := none
  committed : Option BootVector := none
  header : Option (Nat × Transaction) := none
deriving DecidableEq

/-! ### Taking the view -/

def SelectorBlob.vector (b : SelectorBlob) : BootVector :=
  { generation := b.generation, entries := b.entries }

namespace StoreState

variable (κ : Signing)

/-- The side file, if it verifies. -/
def verified (s : StoreState) (name : FileName) : Option SelectorBlob :=
  (s.file name).filter (isValid κ)

def cells (s : StoreState) : Cells where
  primary := s.record.primary
  secondary := s.record.secondary
  rows := (s.verified κ .rows).map (·.vector)
  committed := (s.verified κ .committed).map (·.vector)
  header := (s.verified κ .transaction).bind fun b => b.transaction.map (b.generation, ·)

variable {κ} (s : StoreState) (generation : Nat)

/-- A file that the store has signed is valid. -/
theorem filter_signed (rows : Entries) (header : Option Transaction) :
  (some (signed κ generation rows header)).filter (isValid κ) =
    some (signed κ generation rows header)
  := by simp

@[simp]
theorem cells_putPrimary (v : Option BootVector) :
  (s.putPrimary v).cells κ = { s.cells κ with primary := v }
  := rfl

/-- The view holds what is signed into a side file. -/
@[simp]
theorem cells_putRows (rows : Entries) :
  (s.putFile (signed κ generation rows none) .rows).cells κ =
    { s.cells κ with rows := some { generation, entries := rows } }
  := by
  simp only [cells, verified, file, putFile, filter_signed]
  rfl

@[simp]
theorem cells_putCommitted (rows : Entries) :
  (s.putFile (signed κ generation rows none) .committed).cells κ =
    { s.cells κ with committed := some { generation, entries := rows } }
  := by
  simp only [cells, verified, file, putFile, filter_signed]
  rfl

@[simp]
theorem cells_putHeader (header : Transaction) :
  (s.putFile (signed κ generation ∅ (some header)) .transaction).cells κ =
    { s.cells κ with header := some (generation, header) }
  := by
  simp only [cells, verified, file, putFile, filter_signed]
  rfl

/-- The boot stage restores the committed copy, and no side file. -/
theorem cells_bootStageRollback :
  s.bootStageRollback.cells κ = { s.cells κ with primary := (s.cells κ).secondary }
  := rfl

end StoreState

/-! ### Reading the view -/

/-- The entries of a side file that was written for the generation. -/
def entriesAt (file : Option BootVector) (generation : Nat) : Option Entries :=
  (file.filter (·.generation == generation)).map (·.entries)

namespace Cells

def primaryGeneration (c : Cells) : Option Nat :=
  c.primary.map (·.generation)

def secondaryGeneration (c : Cells) : Option Nat :=
  c.secondary.map (·.generation)

def next (c : Cells) (gap : Nat) : Nat :=
  nextGeneration c.primary c.secondary + gap

/-- The manager rows at a generation, from `rows` or else from `committed`. -/
def rowsAt (c : Cells) (generation : Nat) : Option Entries :=
  (entriesAt c.rows generation).or (entriesAt c.committed generation)

/-- The manager rows at a generation, from `committed` or else from `rows`. -/
def committedAt (c : Cells) (generation : Nat) : Option Entries :=
  (entriesAt c.committed generation).or (entriesAt c.rows generation)

def newestRows (c : Cells) : Entries :=
  match c.rows, c.committed with
  | none, none => ∅
  | some a, none => a.entries
  | none, some b => b.entries
  | some a, some b => if a.generation ≤ b.generation then b.entries else a.entries

/-- The vector that boots. -/
def primaryVector (c : Cells) : Option BootVector :=
  c.primary.map fun p => union p ((c.rowsAt p.generation).getD c.newestRows)

def secondaryRows (c : Cells) (generation : Nat) : Option Entries :=
  (entriesAt c.committed generation).or
    (if c.primaryGeneration = some generation then entriesAt c.rows generation else none)

/-- The committed vector. -/
def secondaryVector (c : Cells) : Option BootVector :=
  c.secondary.map fun s => union s ((c.secondaryRows s.generation).getD c.newestRows)

def attributable (r : Routing) (c : Cells) (g : Nat) : Bool :=
  r.routesEverything || c.primaryGeneration == some g || (c.rowsAt g).isSome

def attributedHeader (r : Routing) (c : Cells) : Option (Nat × Transaction) :=
  c.header.filter fun h => c.attributable r h.1

end Cells

/-! ### The readers of the store return the view -/

open Call

section Reads

variable (κ : Signing) (r : Routing) (io : Io) (g : Nat) (copy : RecordCopy) (name : FileName)

/-- A copy of the record is read as it stands. -/
theorem reads_read :
  Reads io.Unreadable (BootRecord.read io copy) fun s => s.record.copy copy
  := by
  intro s
  by_cases h : io.unreadable (.record copy) = true
  · right
    use ⟨_, h⟩, .unreadable io.cause
    rw [BootRecord.read, if_pos h]
    rfl
  · left
    rw [BootRecord.read, if_neg h]
    rfl

theorem reads_generation :
  Reads io.Unreadable (generation io copy) fun s => (s.record.copy copy).map (·.generation)
  := reads_bind (reads_read io copy) fun _ => reads_pure _

/-- A side file is read if its signature holds. -/
theorem reads_readVerified :
  Reads io.Unreadable (readVerified κ io name) fun s => s.verified κ name
  := by
  have blob : Reads io.Unreadable (readBlob io name) fun s => s.file name := by
    intro s
    by_cases h : io.unreadable (.file name) = true
    · right
      use ⟨_, h⟩, .io io.cause
      rw [readBlob, if_pos h]
      rfl
    · left
      rw [readBlob, if_neg h]
      rfl
  apply reads_bind blob fun _ => reads_pure _

/-- The rows of a side file are read for its own generation only. -/
theorem reads_rowsAt (g : Nat) :
  Reads io.Unreadable (rowsAt κ io name g) fun s => entriesAt ((s.verified κ name).map (·.vector)) g
  := by
  apply (reads_bind (reads_readVerified κ io name) fun _ => reads_pure _).congr
  intro s
  rw [entriesAt, Option.filter_map, Option.map_map]
  rfl

theorem reads_firstRowsAt (a b : FileName) (g : Nat) :
  Reads io.Unreadable (firstRowsAt κ io [a, b] g)
    fun s => (entriesAt ((s.verified κ a).map (·.vector)) g).or
      (entriesAt ((s.verified κ b).map (·.vector)) g)
  := by
  have last : Reads io.Unreadable (firstRowsAt κ io [b] g)
      fun s => entriesAt ((s.verified κ b).map (·.vector)) g := by
    apply reads_bind (w := fun rows _ => rows) (reads_rowsAt κ io b g)
    rintro (_ | rows) <;> apply reads_pure
  apply reads_bind (w := fun rows s => rows.or (entriesAt ((s.verified κ b).map (·.vector)) g))
    (reads_rowsAt κ io a g)
  rintro (_ | rows)
  · apply last
  · apply reads_pure

/-- For the copy that boots, `rows` comes before `committed`. -/
theorem reads_rows_committed :
  Reads io.Unreadable (firstRowsAt κ io [.rows, .committed] g) fun s => (s.cells κ).rowsAt g
  := reads_firstRowsAt κ io .rows .committed g

/-- For the committed copy, `committed` comes before `rows`. -/
theorem reads_committed_rows :
  Reads io.Unreadable (firstRowsAt κ io [.committed, .rows] g) fun s => (s.cells κ).committedAt g
  := reads_firstRowsAt κ io .committed .rows g

/-- The newest rows are those of the newest valid side file. -/
theorem reads_newestRows :
  Reads io.Unreadable (newestRows κ io) fun s => (s.cells κ).newestRows
  := by
  have keep : ∀ (name : FileName) (newest : Option SelectorBlob),
      Reads io.Unreadable (do
        let blob ← readVerified κ io name
        return newer newest blob)
      fun s => newer newest (s.verified κ name) :=
    fun name newest => reads_bind (reads_readVerified κ io name) fun _ => reads_pure _
  apply (reads_bind (reads_bind (keep .rows none) fun newest =>
    reads_bind (keep .committed newest) fun _ => reads_pure _) fun _ => reads_pure _).congr
  intro s
  simp only [Cells.newestRows, StoreState.cells]
  rcases s.verified κ .rows with _ | a <;> rcases s.verified κ .committed with _ | b <;>
    simp [SelectorBlob.vector, newer]
  split <;> rfl

/-- What boots, as the store reads it. -/
theorem reads_readPrimary :
  Reads io.Unreadable (readPrimary κ io) fun s => (s.cells κ).primaryVector
  := by
  apply (reads_bind (w := fun p s => p.map fun p =>
    union p (((s.cells κ).rowsAt p.generation).getD (s.cells κ).newestRows))
      (reads_read io .primary)
    _).congr fun _ => rfl
  rintro (_ | p)
  · apply reads_pure
  · apply reads_bind (w := fun rows s => some (union p (rows.getD (s.cells κ).newestRows)))
      (reads_rows_committed κ io p.generation)
    rintro (_ | rows)
    · apply reads_bind (reads_newestRows κ io) fun _ => reads_pure _
    · apply reads_pure

theorem reads_secondaryRows :
  Reads io.Unreadable (secondaryRows κ io g) fun s => (s.cells κ).secondaryRows g
  := by
  apply reads_bind (w := fun rows s => rows.or
    (if (s.cells κ).primaryGeneration = some g then entriesAt (s.cells κ).rows g else none))
    (reads_rowsAt κ io .committed g)
  rintro (_ | rows)
  · apply reads_bind (w := fun p s => if p = some g then entriesAt (s.cells κ).rows g else none)
      (reads_generation io .primary)
    intro p
    by_cases h : p = some g
    · simp only [h, if_true]
      apply reads_rowsAt κ io .rows
    · simp only [h, if_false]
      apply reads_pure
  · apply reads_pure

/-- The committed vector, as the store reads it. -/
theorem reads_readSecondary :
  Reads io.Unreadable (readSecondary κ io) fun s => (s.cells κ).secondaryVector
  := by
  apply (reads_bind (w := fun v s => v.map fun v =>
    union v (((s.cells κ).secondaryRows v.generation).getD (s.cells κ).newestRows))
    (reads_read io .secondary) _).congr fun _ => rfl
  rintro (_ | v)
  · apply reads_pure
  · apply reads_bind (w := fun rows s => some (union v (rows.getD (s.cells κ).newestRows)))
      (reads_secondaryRows κ io v.generation)
    rintro (_ | rows)
    · apply reads_bind (reads_newestRows κ io) fun _ => reads_pure _
    · apply reads_pure

/-- Whether a header counts is read off the view. -/
theorem reads_attributable :
  Reads io.Unreadable (attributable κ r io g) fun s => (s.cells κ).attributable r g
  := by
  rw [attributable]
  by_cases everything : r.routesEverything = true
  · simp only [Cells.attributable, everything, if_true, Bool.true_or]
    apply reads_pure
  · simp only [Cells.attributable, everything, Bool.false_or]
    apply reads_bind (w := fun p s => p == some g || ((s.cells κ).rowsAt g).isSome)
      (reads_generation io .primary)
    intro p
    by_cases h : p = some g
    · simp only [h, if_true, beq_self_eq_true, Bool.true_or]
      apply reads_pure
    · simp only [h, if_false, beq_eq_false_iff_ne.mpr h, Bool.false_or]
      apply reads_bind (reads_rows_committed κ io g) fun _ => reads_pure _

/-- The header, as the store attributes it. -/
theorem reads_attributedTransaction :
  Reads io.Unreadable (attributedTransaction κ r io) fun s => (s.cells κ).attributedHeader r
  := by
  apply reads_bind
    (w := fun blob s => (blob.bind fun b => b.transaction.map (b.generation, ·)).filter
    fun h => (s.cells κ).attributable r h.1) (reads_readVerified κ io .transaction)
  intro blob
  apply reads_bind (w := fun (_ s : StoreState) => (blob.bind fun b =>
    b.transaction.map (b.generation, ·)).filter fun h => (s.cells κ).attributable r h.1) reads_get
  intro s₀
  rw [BootRecord.legacyTransaction, Option.or_none]
  rcases blob.bind fun b => b.transaction.map (b.generation, ·) with _ | ⟨g, _⟩
  · apply reads_pure
  · simp only [Option.filter_some]
    apply reads_bind (reads_attributable κ r io g) fun _ => reads_pure _

/-- The header, as a caller of the store gets it. -/
theorem readTransaction_eq {io : Io} (readable : ¬io.Unreadable) (s : StoreState) :
  readTransaction κ r io s = (.ok ((s.cells κ).attributedHeader r), s)
  := by
  rw [readTransaction, run_bind, attempt, (reads_attributedTransaction κ r io).ok readable]
  rfl

end Reads

end Selector
