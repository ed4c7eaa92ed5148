import MachineManager.Lib.Delimited
import MachineManager.Selector.Blob
import Mathlib.Data.List.Basic

/-!
# What a signature covers

The digest of a blob is that of its canonical encoding: the generation, the entries one after the
other, and a header if there is one. Neither the number of the entries nor the presence of a header
is encoded. An entry shows where it ends, so that two blobs with a header, or two without one, have
the same encoding only if they have the same contents. A header may however be read as further
entries, and then one signature does for both blobs.
-/

namespace Selector

open Buffer Nv Utf8 SelectorBlob Delimited List Std.ExtTreeMap

theorem leBytes_injective (w : Nat) {a b : Nat} (ha : a < 256 ^ w) (hb : b < 256 ^ w)
    (same : leBytes w a = leBytes w b) :
  a = b
  := by
  have value := leValue_leBytes w a
  rw [same, leValue_leBytes, Nat.mod_eq_of_lt ha, Nat.mod_eq_of_lt hb] at value
  apply value.symm

theorem toList_injective {n : Nat} {a b : Buffer n} (same : a.toList = b.toList) :
  a = b
  := Vector.toList_inj.mp same

/-- Numbers of a fixed width show where they end. -/
theorem delimited_leBytes (w : Nat) :
  Delimited (fun n => n < 256 ^ w) fun n => (leBytes w n).toList
  := by
  apply of_length (n := w)
  · intro n _
    apply Vector.length_toList
  · intro a b ha hb same
    apply leBytes_injective w ha hb (toList_injective same)

theorem length_putStr (s : String) :
  (putStr s).length = 2 + s.utf8ByteSize
  := by
  rw [putStr, List.length_append, Vector.length_toList, length_toUTF8]

def ShortName (s : String) : Prop :=
  s.utf8ByteSize < 65536

/-- A text that its length prefix can count shows where it ends. -/
theorem delimited_putStr :
  Delimited ShortName putStr
  := by
  apply append String.utf8ByteSize (fun _ short => short) (delimited_leBytes 2)
  intro n
  apply of_length (n := n)
  · rintro s ⟨-, length⟩
    rw [length_toUTF8, length]
  · intro s t _ _ same
    apply toUTF8_injective same

theorem toU8_injective {a b : Bank} (same : a.toU8 = b.toU8) :
  a = b
  := by
  have read := congrArg Bank.fromU8 same
  rw [Bank.fromU8_toU8, Bank.fromU8_toU8] at read
  apply Option.some.inj read

/-- What follows the name of an image. -/
def ImageEntry.content (img : ImageEntry) : List UInt8 :=
  (leBytes 8 img.size.toNat).toList ++ img.sha256.toList

theorem ImageEntry.bytes_eq (name : String) (img : ImageEntry) :
  img.bytes name = putStr name ++ img.content
  := append_assoc _ _ _

theorem ImageEntry.length_content (img : ImageEntry) :
  img.content.length = 40
  := by rw [content, List.length_append, Vector.length_toList, Vector.length_toList]

/-- An image can be told from its bytes after the name. -/
theorem ImageEntry.content_injective {img img' : ImageEntry} (same : img.content = img'.content) :
  img = img'
  := by
  obtain ⟨sizes, digests⟩ := append_inj same (by rw [Vector.length_toList, Vector.length_toList])
  have value := leBytes_injective 8 img.size.toNat_lt img'.size.toNat_lt (toList_injective sizes)
  obtain ⟨size, sha256⟩ := img
  obtain ⟨size', sha256'⟩ := img'
  obtain rfl : size = size' := UInt64.toNat_inj.mp value
  obtain rfl : sha256 = sha256' := toList_injective digests
  rfl

/-- So does an image with its name. -/
theorem delimited_image :
  Delimited (fun p : String × ImageEntry => ShortName p.1) fun p => p.2.bytes p.1
  := by
  simp only [ImageEntry.bytes_eq]
  apply append Prod.fst (fun _ short => short) delimited_putStr
  intro name
  apply of_length (n := 40)
  · intro p _
    apply p.2.length_content
  · rintro ⟨_, img⟩ ⟨_, img'⟩ ⟨-, rfl⟩ ⟨-, rfl⟩ same
    obtain rfl : img = img' := ImageEntry.content_injective same
    rfl

/-- The bytes of the images of a bank. -/
def ComponentEntry.imageBytes (entry : ComponentEntry) : List UInt8 :=
  entry.images.toList.flatMap fun p => p.2.bytes p.1

variable (id : String)

theorem ComponentEntry.bytes_eq (entry : ComponentEntry) :
  entry.bytes id =
    putStr id ++ ([entry.bank.toU8] ++ ((leBytes 2 entry.images.size).toList ++ entry.imageBytes))
  := by
  rw [bytes, append_assoc, append_assoc]
  rfl

def ShortEntry (p : String × ComponentEntry) : Prop :=
  ShortName p.1 ∧ p.2.images.size < 65536 ∧ ∀ q ∈ p.2.images.toList, ShortName q.1

instance : DecidablePred ShortName :=
  fun s => inferInstanceAs (Decidable (s.utf8ByteSize < 65536))

instance : DecidablePred ShortEntry :=
  fun p => inferInstanceAs
    (Decidable (ShortName p.1 ∧ p.2.images.size < 65536 ∧ ∀ q ∈ p.2.images.toList, ShortName q.1))

/-- An entry shows where it ends: the number of its images is encoded. -/
theorem delimited_entry :
  Delimited ShortEntry fun p => p.2.bytes p.1
  := by
  simp only [ComponentEntry.bytes_eq]
  apply append Prod.fst (fun _ short => short.1) delimited_putStr
  intro id
  have banks : Delimited (fun _ : Bank => True) fun b => [b.toU8] := by
    apply of_length (n := 1)
    · intro _ _
      rfl
    · intro _ _ _ _ same
      apply toU8_injective (cons.inj same).1
  apply append (fun p : String × ComponentEntry => p.2.bank) (fun _ _ => trivial) banks
  intro bank
  apply append (fun p : String × ComponentEntry => p.2.images.size)
    (fun _ short => short.1.1.2.1) (delimited_leBytes 2)
  -- With the id, the bank and the number of images known, the images are left.
  rintro n ⟨_, _, images⟩ ⟨_, _, images'⟩ ⟨⟨⟨short, rfl⟩, rfl⟩, size⟩
    ⟨⟨⟨short', rfl⟩, rfl⟩, size'⟩ s t same
  have length : images.toList.length = images'.toList.length := by
    rw [length_toList, length_toList]
    exact size.trans size'.symm
  obtain ⟨list, rest⟩ := delimited_image.flatMap_of_length short.2.2 short'.2.2 length same
  obtain rfl : images = images' := toList_inj.mp list
  exact ⟨rfl, rest⟩

theorem ComponentEntry.length_bytes (entry : ComponentEntry) :
  (entry.bytes id).length = 5 + id.utf8ByteSize + entry.imageBytes.length
  := by
  rw [bytes_eq, List.length_append, length_putStr, List.length_append, List.length_append,
    Vector.length_toList, length_singleton]
  omega

variable {entry : ComponentEntry} {l : List (String × ComponentEntry)}

/-- An entry without images ends in zeros. -/
theorem ComponentEntry.bytes_of_empty (images : entry.images = ∅) :
  entry.bytes id = putStr id ++ [entry.bank.toU8] ++ [0, 0]
  := by
  rw [bytes_eq, imageBytes, images, ← append_assoc]
  rfl

/-- An image takes more than a header does. -/
theorem ComponentEntry.lt_length_imageBytes (images : entry.images ≠ ∅) :
  36 < entry.imageBytes.length
  := by
  rw [imageBytes]
  cases list : entry.images.toList with
  | nil =>
    apply absurd (toList_eq_nil_iff.mp list) images
  | cons =>
    rw [List.flatMap_cons, List.length_append, ImageEntry.bytes_eq, List.length_append,
      ImageEntry.length_content]
    omega

/-! ### The header -/

/-- The last two bytes of a header. -/
def resolutionBytes (r : Option Resolution) : List UInt8 :=
  match r with
  | none => [0, 0]
  | some r => [r.outcome.code, r.reason.code]

theorem length_resolutionBytes (r : Option Resolution) :
  (resolutionBytes r).length = 2
  := by cases r <;> rfl

/-- How a transaction ended can be told from its two bytes. -/
theorem resolutionBytes_injective {r r' : Option Resolution}
    (same : resolutionBytes r = resolutionBytes r') :
  r = r'
  := by
  rcases r with _ | ⟨outcome, reason⟩
  · rcases r' with _ | ⟨outcome', _⟩
    · rfl
    · cases outcome' <;> cases same
  · rcases r' with _ | ⟨outcome', reason'⟩
    · cases outcome <;> cases same
    · cases outcome <;> cases outcome' <;> cases reason <;> cases reason' <;>
        first | rfl | cases same

namespace Transaction

def observed (t : Transaction) : List UInt8 :=
  [0x01] ++ t.armedBootId.toList ++ [t.trialBoots] ++ t.countedBootId.toList

variable (t : Transaction)

theorem bytes_eq :
  t.bytes = t.observed ++ resolutionBytes t.resolution
  := rfl

theorem length_observed :
  t.observed.length = 34
  := by simp [observed]

/-- A header has 36 bytes, whatever it says. -/
theorem length_bytes :
  t.bytes.length = 36
  := by rw [bytes_eq, List.length_append, length_observed, length_resolutionBytes]

/-- A header can be told from its bytes. -/
theorem bytes_injective {t t' : Transaction} (same : t.bytes = t'.bytes) :
  t = t'
  := by
  obtain ⟨observed, resolution⟩ := append_inj same (t.length_observed.trans t'.length_observed.symm)
  obtain ⟨front, counted⟩ := append_inj' observed (by simp)
  obtain ⟨front, boots⟩ := append_inj' front (by simp)
  obtain ⟨-, armed⟩ := append_inj' front (by simp)
  obtain ⟨armedBootId, trialBoots, countedBootId, r⟩ := t
  obtain ⟨armedBootId', trialBoots', countedBootId', r'⟩ := t'
  obtain rfl : armedBootId = armedBootId' := toList_injective armed
  obtain rfl : trialBoots = trialBoots' := (cons.inj boots).1
  obtain rfl : countedBootId = countedBootId' := toList_injective counted
  obtain rfl : r = r' := resolutionBytes_injective resolution
  rfl

end Transaction

/-! ### Entries that a header can be taken for -/

def entryBytes (l : List (String × ComponentEntry)) : List UInt8 :=
  l.flatMap fun p => p.2.bytes p.1

/-- The header, after the entries `e`, is read as the further entries of `e'`. -/
structure ReadsAs (e : Entries) (t : Transaction) (e' : Entries) : Prop where
  unresolved : t.resolution = none
  entries : ∃ more, e'.toList = e.toList ++ more ∧ t.bytes = entryBytes more ∧ ∀ p ∈ more,
    p.2.images = ∅

/-- Entries that take no more than a header does have no images. -/
theorem images_eq_empty (length : (entryBytes l).length ≤ 36) {p : String × ComponentEntry}
    (mem : p ∈ l) :
  p.2.images = ∅
  := by
  by_contra images
  have long := ComponentEntry.lt_length_imageBytes images
  obtain ⟨_, _, rfl⟩ := List.append_of_mem mem
  rw [entryBytes, List.flatMap_append, List.flatMap_cons, List.length_append, List.length_append,
    ComponentEntry.length_bytes] at length
  omega

/-- A header that is read as entries without images has no resolution. -/
theorem resolution_eq_none {t : Transaction} (same : t.bytes = entryBytes l)
    (plain : ∀ p ∈ l, p.2.images = ∅) :
  t.resolution = none
  := by
  obtain rfl | ⟨_, last, rfl⟩ := l.eq_nil_or_concat'
  · cases same
  · have images := plain last (mem_append_right _ mem_cons_self)
    rw [Transaction.bytes_eq, entryBytes, List.flatMap_append, List.flatMap_singleton,
      ComponentEntry.bytes_of_empty _ images, ← append_assoc] at same
    obtain ⟨-, ends⟩ := append_inj' same (length_resolutionBytes t.resolution)
    apply resolutionBytes_injective ends

/-! ### Equal encodings -/

/-- The generation and the lengths fit into the bytes that they have. -/
structure Fits (generation : Nat) (entries : Entries) : Prop where
  generation : generation < 2 ^ 64
  ids : ∀ (id : String) entry, entries[id]? = some entry → id.utf8ByteSize < 65536
  counts : ∀ (id : String) entry, entries[id]? = some entry → entry.images.size < 65536
  parts : ∀ (id : String) entry, entries[id]? = some entry → ∀ (name : String) img,
    entry.images[name]? = some img → name.utf8ByteSize < 65536

theorem fits_iff {g : Nat} {e : Entries} :
  Fits g e ↔ g < 2 ^ 64 ∧ ∀ p ∈ e.toList, ShortEntry p
  := by
  constructor
  · intro fits
    refine ⟨fits.generation, fun p mem => ?_⟩
    have found := mem_toList_iff_getElem?_eq_some.mp mem
    refine ⟨fits.ids _ _ found, fits.counts _ _ found, fun q image => ?_⟩
    apply fits.parts _ _ found _ _ (mem_toList_iff_getElem?_eq_some.mp image)
  · rintro ⟨generation, short⟩
    have listed (id : String) (entry : ComponentEntry) (found : e[id]? = some entry) :
        ShortEntry (id, entry) :=
      short (id, entry) (mem_toList_iff_getElem?_eq_some.mpr found)
    refine ⟨generation, fun id entry found => (listed id entry found).1,
      fun id entry found => (listed id entry found).2.1, fun id entry found name img image => ?_⟩
    apply (listed id entry found).2.2 (name, img) (mem_toList_iff_getElem?_eq_some.mpr image)

/-- The encoding is the generation, the entries and the header if any. -/
theorem canonicalBytes_eq (g : Nat) (e : Entries) (t : Option Transaction) :
  canonicalBytes g e t = (leBytes 8 g).toList ++
    (entryBytes e.toList ++ t.elim [] Transaction.bytes)
  := append_assoc _ _ _

theorem entry_nonempty (p : String × ComponentEntry) :
  p.2.bytes p.1 ≠ []
  := by
  apply ne_nil_of_length_pos
  rw [ComponentEntry.length_bytes]
  omega

section Equal

variable {g g' : Nat} {e e' : Entries} {t t' : Option Transaction} (fits : Fits g e)
    (fits' : Fits g' e')

include fits fits'

variable {h : Transaction}

/-- A header on one side only is read as entries on the other. -/
theorem readsAs_of_append (same : entryBytes e.toList ++ h.bytes = entryBytes e'.toList) :
  ReadsAs e h e'
  := by
  obtain ⟨more, entries, bytes⟩ := delimited_entry.flatMap_append entry_nonempty
    (fits_iff.mp fits).2 (fits_iff.mp fits').2 same
  have plain : ∀ p ∈ more, p.2.images = ∅ := by
    intro p mem
    apply images_eq_empty _ mem
    rw [entryBytes, ← bytes, h.length_bytes]
  exact ⟨resolution_eq_none bytes plain, more, entries, bytes, plain⟩

/-- Entries can be told from their bytes. -/
theorem entries_eq_of_bytes (same : entryBytes e.toList = entryBytes e'.toList) :
  e = e'
  := by
  apply toList_inj.mp
  apply delimited_entry.flatMap_injective entry_nonempty (fits_iff.mp fits).2
    (fits_iff.mp fits').2 same

omit fits fits' in
/-- A header that reads as entries has the bytes of those entries. -/
theorem ReadsAs.bytes (reads : ReadsAs e h e') :
  entryBytes e.toList ++ h.bytes = entryBytes e'.toList
  := by
  obtain ⟨_, entries, bytes, -⟩ := reads.entries
  rw [entries, bytes, entryBytes, entryBytes, entryBytes, List.flatMap_append]

/-- The contents are the same, or one of them has a header that is read as entries of the other. -/
structure Alike (g : Nat) (e : Entries) (t : Option Transaction) (g' : Nat) (e' : Entries)
    (t' : Option Transaction) : Prop where
  generation : g = g'
  same : t.isSome = t'.isSome → e = e' ∧ t = t'
  header : ∀ h, t = some h → t' = none → ReadsAs e h e'
  header' : ∀ h, t = none → t' = some h → ReadsAs e' h e

/-- The encodings of two blobs are equal exactly if their contents are alike. -/
theorem canonicalBytes_eq_iff :
  canonicalBytes g e t = canonicalBytes g' e' t' ↔ Alike g e t g' e' t'
  := by
  rw [canonicalBytes_eq, canonicalBytes_eq]
  constructor
  · intro encoded
    obtain ⟨rfl, rest⟩ := delimited_leBytes 8 fits.generation fits'.generation encoded
    refine ⟨rfl, ?_, ?_, ?_⟩
    · intro headers
      cases t with
      | none =>
        cases t' with
        | none =>
          rw [Option.elim_none, append_nil, append_nil] at rest
          exact ⟨entries_eq_of_bytes fits fits' rest, rfl⟩
        | some => cases headers
      | some h =>
        cases t' with
        | none => cases headers
        | some h' =>
          obtain ⟨entries, bytes⟩ := append_inj' rest (h.length_bytes.trans h'.length_bytes.symm)
          obtain rfl : h = h' := Transaction.bytes_injective bytes
          exact ⟨entries_eq_of_bytes fits fits' entries, rfl⟩
    · rintro h rfl rfl
      rw [Option.elim_none, append_nil] at rest
      apply readsAs_of_append fits fits' rest
    · rintro h rfl rfl
      rw [Option.elim_none, append_nil] at rest
      apply readsAs_of_append fits' fits rest.symm
  · rintro ⟨rfl, same, header, header'⟩
    cases t with
    | none =>
      cases t' with
      | none => rw [(same rfl).1]
      | some h' => rw [Option.elim_none, append_nil, Option.elim_some, (header' h' rfl rfl).bytes]
    | some h =>
      cases t' with
      | none => rw [Option.elim_none, append_nil, Option.elim_some, (header h rfl rfl).bytes]
      | some =>
        obtain ⟨rfl, headers⟩ := same rfl
        rw [headers]

end Equal

/-- A signature verifies for the digest only that it was made for. -/
def Signing.Binds (κ : Signing) : Prop :=
  ∀ sha sha', κ.verify sha (κ.sign sha') = true → sha = sha'

/-- The encodings of two blobs are equal exactly if their contents are alike. A signature that was
made for contents is accepted, unless SHA-256 collides on the two encodings, for contents only that
are alike. -/
theorem signature_covers {g : Nat} {e : Entries} {t : Option Transaction} {b : SelectorBlob}
    (fits : Fits g e) (fits' : Fits b.generation b.entries) :
  (canonicalBytes g e t = canonicalBytes b.generation b.entries b.transaction ↔
    Alike g e t b.generation b.entries b.transaction) ∧
  ∀ κ : Signing, κ.Binds →
    (computeSha256 κ g e t = computeSha256 κ b.generation b.entries b.transaction →
      canonicalBytes g e t = canonicalBytes b.generation b.entries b.transaction) →
    b.signature = (signed κ g e t).signature → b.isValid κ = true →
    Alike g e t b.generation b.entries b.transaction
  := by
  refine ⟨canonicalBytes_eq_iff fits fits', ?_⟩
  intro κ binds free signed valid
  rw [isValid, Bool.and_eq_true, beq_iff_eq, signed] at valid
  obtain ⟨digest, verified⟩ := valid
  have sha := binds _ _ verified
  apply (canonicalBytes_eq_iff fits fits').mp (free (sha.symm.trans digest.symm))

namespace CanonicalSamples

def machines : Entries :=
  ((∅ : Entries).insert "a" { bank := .A }).insert "bbbbbbbbbbbbbbbbbbbbbbbbb" { bank := .A }

/-- A header whose boot ids and count are read as these machines. -/
def ambiguous : Transaction where
  armedBootId := #v[0, 97, 0, 0, 0, 25, 0, 98, 98, 98, 98, 98, 98, 98, 98, 98]
  trialBoots := 98
  countedBootId := #v[98, 98, 98, 98, 98, 98, 98, 98, 98, 98, 98, 98, 98, 98, 98, 0]
  resolution := none

theorem fits_machines :
  Fits 1 machines
  := fits_iff.mpr (by decide +kernel)

theorem fits_empty :
  Fits 1 ∅
  := fits_iff.mpr (by decide +kernel)

/-- A header after no entries has the bytes of two machines without a header. -/
theorem ambiguous_bytes :
  canonicalBytes 1 ∅ (some ambiguous) = canonicalBytes 1 machines none
  := by decide +kernel

def copying : Signing where
  sha256 _ := Buffer.zeros 32
  sign sha := sha.toList
  verify sha signature := signature == sha.toList
  verify_sign sha := beq_self_eq_true sha.toList

theorem copying_binds :
  copying.Binds
  := by
  intro sha sha' verified
  apply toList_injective (beq_iff_eq.mp verified).symm

/-- The blob with the header, in whose place the machines are put. -/
def exchanged (κ : Signing) : SelectorBlob :=
  { signed κ 1 ∅ (some ambiguous) with entries := machines, transaction := none }

/-- The signature for the one blob is accepted for the other. -/
theorem exchanged_valid (κ : Signing) :
  (exchanged κ).isValid κ = true
  := by
  have valid := isValid_signed κ 1 ∅ (some ambiguous)
  rw [isValid, computeSha256] at valid ⊢
  have bytes : canonicalBytes (exchanged κ).generation (exchanged κ).entries
      (exchanged κ).transaction = canonicalBytes 1 ∅ (some ambiguous) := ambiguous_bytes.symm
  rw [bytes]
  apply valid

end CanonicalSamples

open CanonicalSamples in
/-- A header may be exchanged for entries, and the signature is still valid. -/
theorem header_read_as_entries :
  Fits 1 ∅ ∧ Fits 1 machines ∧
  canonicalBytes 1 ∅ (some ambiguous) = canonicalBytes 1 machines none ∧
  (∅ : Entries)["a"]? ≠ machines["a"]? ∧
  ∀ κ : Signing, (exchanged κ).signature = (signed κ 1 ∅ (some ambiguous)).signature ∧
    (exchanged κ).isValid κ = true
  := ⟨fits_empty, fits_machines, ambiguous_bytes, by decide +kernel,
    fun κ => ⟨rfl, exchanged_valid κ⟩⟩

open CanonicalSamples in
/-- The signature of the header is accepted for the machines, and they are what the header is read
as. -/
theorem signature_covers_exchanged :
  (exchanged copying).isValid copying = true ∧ ReadsAs ∅ ambiguous machines
  := by
  have alike :=
    (signature_covers (t := some ambiguous) (b := exchanged copying) fits_empty fits_machines).2
    copying copying_binds (fun _ => ambiguous_bytes) rfl (exchanged_valid copying)
  exact ⟨exchanged_valid copying, alike.header ambiguous rfl rfl⟩

end Selector
