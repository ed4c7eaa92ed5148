import MachineManager.Nv.Types
import Mathlib.Tactic.Linarith

/-!
# The boot vector and its signed form

The boot vector says which bank each component boots from, at a generation. It is kept in signed
blobs: a blob carries the digest of a canonical encoding of its contents and a signature over that
digest, and a blob is used only when both hold. SHA-256 and the signing key are the fields of
`Signing`; all that is asked of them is that a signature verifies under the key that made it.
-/

namespace Selector

open Buffer Nv

abbrev BTreeMap (β : Type) : Type :=
  Std.ExtTreeMap String β compare

instance {β : Type} [DecidableEq β] : DecidableEq (BTreeMap β) :=
  instDecidableEqOfLawfulBEq

/-! ### What boots -/

/-- An image sealed into a bank. -/
structure ImageEntry where
  size : UInt64
  sha256 : Buffer 32
deriving DecidableEq

/-- The boot selection of a component: its bank and what was sealed into it, by part name. -/
structure ComponentEntry where
  bank : Bank
  images : BTreeMap ImageEntry := ∅
deriving DecidableEq

/-- The selections of all components, by component id. -/
abbrev Entries : Type := BTreeMap ComponentEntry

/-- The selections at the generation that the store issued for them. -/
structure BootVector where
  generation : Nat
  entries : Entries
deriving DecidableEq

/-! ### The transaction header -/

/-- How a node transaction ended. -/
inductive Outcome
  | committed
  | rolledBack
deriving DecidableEq

/-- Why a node transaction ended. -/
inductive Reason
  | verdict
  | trialBootLimit
  | bootStage
deriving DecidableEq

/-- The recorded end of a node transaction. -/
structure Resolution where
  outcome : Outcome
  reason : Reason
deriving DecidableEq

/-- What the node observed about the transaction at the primary generation. A zero boot id is an
unknown one. -/
structure Transaction where
  armedBootId : Buffer 16
  trialBoots : UInt8
  countedBootId : Buffer 16
  resolution : Option Resolution
deriving DecidableEq

/-! ### Signed blobs -/

/-- The digest and the signing key. -/
structure Signing where
  sha256 : List UInt8 → Buffer 32
  sign : Buffer 32 → List UInt8
  verify : Buffer 32 → List UInt8 → Bool
  verify_sign : ∀ sha, verify sha (sign sha) = true

/-- A signed boot vector or side file. -/
structure SelectorBlob where
  generation : Nat
  entries : Entries
  transaction : Option Transaction
  sha256 : Buffer 32
  signature : List UInt8
deriving DecidableEq

/-- A string, preceded by its length. -/
def putStr (s : String) : List UInt8 :=
  (leBytes 2 s.utf8ByteSize).toList ++ s.toUTF8.toList

def Outcome.code : Outcome → UInt8
  | .committed => 1
  | .rolledBack => 2

def Reason.code : Reason → UInt8
  | .verdict => 0
  | .trialBootLimit => 1
  | .bootStage => 2

def ImageEntry.bytes (name : String) (img : ImageEntry) : List UInt8 :=
  putStr name ++ (leBytes 8 img.size.toNat).toList ++ img.sha256.toList

def ComponentEntry.bytes (id : String) (entry : ComponentEntry) : List UInt8 :=
  putStr id ++ [entry.bank.toU8] ++ (leBytes 2 entry.images.size).toList ++
    entry.images.toList.flatMap fun (name, img) => img.bytes name

def Transaction.bytes (t : Transaction) : List UInt8 :=
  [0x01] ++ t.armedBootId.toList ++ [t.trialBoots] ++ t.countedBootId.toList ++
    match t.resolution with
    | none => [0, 0]
    | some r => [r.outcome.code, r.reason.code]

namespace SelectorBlob

/-- The encoding that the digest covers. -/
def canonicalBytes (generation : Nat) (entries : Entries) (transaction : Option Transaction) :
    List UInt8 :=
  (leBytes 8 generation).toList ++ entries.toList.flatMap (fun (id, entry) => entry.bytes id) ++
    transaction.elim [] Transaction.bytes

variable (κ : Signing)

def computeSha256 (generation : Nat) (entries : Entries) (transaction : Option Transaction) :
    Buffer 32 :=
  κ.sha256 (canonicalBytes generation entries transaction)

def signed (generation : Nat) (entries : Entries) (transaction : Option Transaction) :
    SelectorBlob :=
  let sha256 := computeSha256 κ generation entries transaction
  { generation, entries, transaction, sha256, signature := κ.sign sha256 }

/-- The digest is that of the contents, and the signature is one over the digest. -/
def isValid (b : SelectorBlob) : Bool :=
  computeSha256 κ b.generation b.entries b.transaction == b.sha256 && κ.verify b.sha256 b.signature

/-- A blob that was signed with the key is valid under it. -/
@[simp]
theorem isValid_signed (generation : Nat) (entries : Entries) (transaction : Option Transaction) :
  isValid κ (signed κ generation entries transaction) = true
  := by simp [isValid, signed, κ.verify_sign]

end SelectorBlob

/-! ### Splitting and joining selections -/

namespace Entries

def only (p : String → Bool) (e : Entries) : Entries :=
  e.filter fun id _ => p id

/-- Both selections; on a common component the first one wins. -/
def union (e rows : Entries) : Entries :=
  rows ∪ e

variable (p : String → Bool)

theorem getElem?_only (e : Entries) (id : String) :
  (only p e)[id]? = if p id then e[id]? else none
  := by
  rw [only, Std.ExtTreeMap.getElem?_filter']
  cases p id <;> cases e[id]? <;> rfl

/-- Selections split by a predicate are put together again. -/
theorem union_only (e : Entries) :
  union (only p e) (only (fun id => !p id) e) = e
  := by
  apply Std.ExtTreeMap.ext_getElem?
  intro id
  rw [union, Std.ExtTreeMap.getElem?_union, getElem?_only, getElem?_only]
  cases p id <;> simp

end Entries

end Selector
