import MachineManager.Lib.Call
import MachineManager.Selector.Blob

/-!
# The store over a boot record

The boot stage keeps a record of its own, with the rows of the components it routes: a primary copy,
which boots, and a secondary copy, the committed one. The rows of all other components, the manager
rows, and the transaction header are kept in three signed side files, tied to the record by
generation. `RecordSelectorStore` drives the two together.

A call meets an `Io`, which says what it cannot read and what happens to each of its writes. The
verbs of the record are all or nothing: one that returns an error has changed nothing. A side file
is replaced by a rename, but the write may still return an error afterwards.
-/

namespace Selector

open SelectorBlob Call

/-- The boot stage's own record. -/
structure BootRecord where
  primary : Option BootVector := none
  secondary : Option BootVector := none
deriving DecidableEq

inductive RecordCopy
  | primary
  | secondary
deriving DecidableEq

/-- The side files. -/
inductive FileName
  | rows
  | committed
  | transaction
deriving DecidableEq

/-- The record and the side files. -/
structure StoreState where
  record : BootRecord := {}
  rows : Option SelectorBlob := none
  committed : Option SelectorBlob := none
  transaction : Option SelectorBlob := none
deriving DecidableEq

namespace BootRecord

def copy (record : BootRecord) : RecordCopy → Option BootVector
  | .primary => record.primary
  | .secondary => record.secondary

/-- A header that the record carries from an older layout; this record has none. -/
def legacyTransaction (_ : BootRecord) : Option (Nat × Transaction) :=
  none

end BootRecord

namespace StoreState

def file (s : StoreState) : FileName → Option SelectorBlob
  | .rows => s.rows
  | .committed => s.committed
  | .transaction => s.transaction

def putFile (s : StoreState) (b : SelectorBlob) : FileName → StoreState
  | .rows => { s with rows := some b }
  | .committed => { s with committed := some b }
  | .transaction => { s with transaction := some b }

def putPrimary (s : StoreState) (v : Option BootVector) : StoreState :=
  { s with record := { s.record with primary := v } }

def putSecondary (s : StoreState) (v : Option BootVector) : StoreState :=
  { s with record := { s.record with secondary := v } }

/-- The boot stage gives a trial up on its own: the primary copy becomes the secondary one. -/
def bootStageRollback (s : StoreState) : StoreState :=
  s.putPrimary s.record.secondary

end StoreState

/-! ### What a call meets -/

/-- Which components the record routes, and whether these are all. -/
structure Routing where
  routes : String → Bool
  routesEverything : Bool := false
  routes_of_everything : routesEverything = true → ∀ id, routes id = true := by simp

namespace Routing

variable (r : Routing)

/-- The rows that the record keeps. -/
def recordRows (entries : Entries) : Entries :=
  entries.only r.routes

/-- The rows that the side files keep. -/
def managerRows (entries : Entries) : Entries :=
  entries.only fun id => !r.routes id

end Routing

inductive SelectorError
  | io (message : String)
  | serialize (message : String)
  | unreadable (message : String)
  | noTrial
deriving DecidableEq

/-- What a call can read. -/
inductive Source
  | record (copy : RecordCopy)
  | file (name : FileName)
deriving DecidableEq

/-- What a call meets: the sources that it cannot read, and what happens to its writes. `undo` is
the rollback of the record with which an activation takes itself back, and `gap` is how far above
the lowest possible generation the one is that the record issues. A verb of the record that returns
an error has changed nothing. -/
structure Io where
  unreadable : Source → Bool := fun _ => false
  record : Fault := .none
  undo : Fault := .none
  rows : Fault := .none
  committed : Fault := .none
  transaction : Fault := .none
  cause : String := "input/output error"
  gap : Nat := 0
  record_err : record ≠ .fails true := by decide
  undo_err : undo ≠ .fails true := by decide

namespace Io

def file (io : Io) : FileName → Fault
  | .rows => io.rows
  | .committed => io.committed
  | .transaction => io.transaction

/-- Something cannot be read. -/
def Unreadable (io : Io) : Prop :=
  ∃ source, io.unreadable source = true

end Io

/-! ### The record's own verbs -/

abbrev Access (α : Type) : Type := Call StoreState SelectorError α

/-- The lowest generation above both copies, where an absent copy counts as zero. -/
def nextGeneration (primary secondary : Option BootVector) : Nat :=
  max (primary.elim 0 (·.generation)) (secondary.elim 0 (·.generation)) + 1

namespace BootRecord

variable (io : Io)

def read (copy : RecordCopy) : Access (Option BootVector) := do
  if io.unreadable (.record copy) then fail (.unreadable io.cause)
  else
    let s ← get
    return s.record.copy copy

/-- Make `rows` the primary copy at a new generation. -/
def activate (rows : Entries) : Access Nat := do
  let primary ← read io .primary
  let secondary ← read io .secondary
  let generation := nextGeneration primary secondary + io.gap
  write io.record (.io io.cause) (·.putPrimary (some { generation, entries := rows }))
  return generation

/-- Make the primary copy the committed one. -/
def commit : Access Unit := do
  match ← read io .primary with
  | none => return ()
  | some p => write io.record (.io io.cause) (·.putSecondary (some p))

/-- Make the committed copy the primary one, unless it already is. -/
def rollback (fault : Fault) : Access Nat := do
  let primary ← read io .primary
  let secondary ← read io .secondary
  match secondary.filter fun s => primary.map (·.generation) != some s.generation with
  | none => fail .noTrial
  | some s =>
    write fault (.io io.cause) (·.putPrimary (some s))
    return s.generation

end BootRecord

/-! ### Signed files -/

namespace SignedFiles

variable (κ : Signing) (io : Io)

def readBlob (name : FileName) : Access (Option SelectorBlob) := do
  if io.unreadable (.file name) then fail (.io io.cause)
  else
    let s ← get
    return s.file name

/-- A blob that fails verification counts as absent. -/
def readVerified (name : FileName) : Access (Option SelectorBlob) := do
  let blob ← readBlob io name
  return blob.filter (isValid κ)

def writeBlob (name : FileName) (blob : SelectorBlob) : Access Unit :=
  write (io.file name) (.io io.cause) (·.putFile blob name)

end SignedFiles

/-! ### The adapter -/

namespace RecordSelectorStore

open SignedFiles

variable (κ : Signing) (r : Routing) (io : Io)

/-- The side file, if it was written for the generation. -/
def rowsAt (name : FileName) (generation : Nat) : Access (Option Entries) := do
  let blob ← readVerified κ io name
  return (blob.filter (·.generation == generation)).map (·.entries)

/-- The first of the side files that was written for the generation. -/
def firstRowsAt : List FileName → Nat → Access (Option Entries)
  | [], _ => return none
  | name :: names, generation => do
    match ← rowsAt κ io name generation with
    | some rows => return some rows
    | none => firstRowsAt names generation

/-- A file that was found, if it is at least as new as the newest before it. -/
def newer (newest : Option SelectorBlob) : Option SelectorBlob → Option SelectorBlob
  | some b => if newest.all (·.generation ≤ b.generation) then some b else newest
  | none => newest

/-- Without manager rows at a generation: the newer of `rows` and `committed`, the latter if they
are equally new. -/
def newestRows : Access Entries := do
  let newest ← [FileName.rows, FileName.committed].foldlM (fun newest name => do
    let blob ← readVerified κ io name
    return newer newest blob) none
  return newest.elim ∅ (·.entries)

/-- The rows of the record together with manager rows. -/
def union (record : BootVector) (rows : Entries) : BootVector :=
  { record with entries := record.entries.union rows }

def generation (copy : RecordCopy) : Access (Option Nat) := do
  let v ← BootRecord.read io copy
  return v.map (·.generation)

/-- Manager rows that must be there, unless the record routes everything. -/
def required (rows : Option Entries) (generation : Nat) : Access Entries :=
  match rows with
  | some rows => return rows
  | none =>
    if r.routesEverything then return ∅
    else fail (.io ("no manager rows at generation " ++ toString generation))

def writeRows (name : FileName) (generation : Nat) (rows : Entries) : Access Unit :=
  writeBlob io name (signed κ generation rows none)

/-- Whether a header at the generation counts: a header at another generation than the primary
copy's does only if there are manager rows at its generation. -/
def attributable (g : Nat) : Access Bool := do
  if r.routesEverything then return true
  else
    let primary ← generation io .primary
    if primary = some g then return true
    else
      let rows ← firstRowsAt κ io [.rows, .committed] g
      return rows.isSome

def attributedTransaction : Access (Option (Nat × Transaction)) := do
  let blob ← readVerified κ io .transaction
  let s ← get
  match (blob.bind fun b => b.transaction.map (b.generation, ·)).or s.record.legacyTransaction with
  | none => return none
  | some (g, header) =>
    let counts ← attributable κ r io g
    return if counts then some (g, header) else none

def writeHeader (generation : Nat) (header : Transaction) : Access Unit :=
  writeBlob io .transaction (signed κ generation ∅ (some header))

def readPrimary : Access (Option BootVector) := do
  match ← BootRecord.read io .primary with
  | none => return none
  | some p =>
    match ← firstRowsAt κ io [.rows, .committed] p.generation with
    | some rows => return some (union p rows)
    | none => return some (union p (← newestRows κ io))

/-- The manager rows of the committed copy. A record that was committed at a generation makes the
rows at it committed, even when the `committed` write did not land. -/
def secondaryRows (g : Nat) : Access (Option Entries) := do
  match ← rowsAt κ io .committed g with
  | some rows => return some rows
  | none =>
    if (← generation io .primary) = some g then rowsAt κ io .rows g
    else return none

def readSecondary : Access (Option BootVector) := do
  match ← BootRecord.read io .secondary with
  | none => return none
  | some s =>
    match ← secondaryRows κ io s.generation with
    | some rows => return some (union s rows)
    | none => return some (union s (← newestRows κ io))

/-- The side files of an activation, after the record issued its generation. When the manager rows
cannot be written the activation is taken back, except in a standing trial; a lost header is only
logged. -/
def writeActivation (wasTrial : Bool) (g : Nat) (managerRows : Entries) (header : Transaction) :
    Access Nat := do
  match ← attempt (writeRows κ io .rows g managerRows) with
  | .error e =>
    if wasTrial then fail e
    else
      ignore (BootRecord.rollback io io.undo)
      fail e
  | .ok () =>
    ignore (writeHeader κ io g header)
    return g

/-- Make `entries` the primary copy. -/
def activate (entries : Entries) (header : Transaction) : Access Nat := do
  let recordRows := r.recordRows entries
  let managerRows := r.managerRows entries
  let primary ← generation io .primary
  let secondary ← generation io .secondary
  let wasTrial := primary.getD 0 != secondary.getD 0
  let g ← BootRecord.activate io recordRows
  writeActivation κ io wasTrial g managerRows header

/-- The commit of a primary copy at the generation. -/
def commitAt (g : Nat) : Access Unit := do
  BootRecord.commit io
  let found ← firstRowsAt κ io [.rows, .committed] g
  let rows ← required r found g
  writeRows κ io .committed g rows

/-- Make the primary copy the committed one, and its manager rows the committed ones. -/
def commit : Access Unit := do
  match ← generation io .primary with
  | none => return ()
  | some g => commitAt κ r io g

/-- The rollback to a committed copy at the generation: first the header, then the record, then the
manager rows. -/
def rollbackTo (floor : Nat) (header : Transaction) : Access Nat := do
  let found ← firstRowsAt κ io [.committed, .rows] floor
  let rows ← required r found floor
  writeHeader κ io floor header
  let g ← BootRecord.rollback io io.record
  ignore (writeRows κ io .rows g rows)
  return g

/-- Go back to the committed copy, if the primary one is not at its generation. -/
def rollback (header : Transaction) : Access Nat := do
  let primary ← generation io .primary
  let secondary ← generation io .secondary
  match secondary.filter fun s => primary != some s with
  | none => fail .noTrial
  | some floor => rollbackTo κ r io floor header

/-- The header, or none if it cannot be attributed. -/
def readTransaction : Access (Option (Nat × Transaction)) := do
  match ← attempt (attributedTransaction κ r io) with
  | .ok header => return header
  | .error _ => return none

def writeTransaction (generation : Nat) (header : Transaction) : Access Unit :=
  writeHeader κ io generation header

end RecordSelectorStore

end Selector
