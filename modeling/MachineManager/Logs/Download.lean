import Mathlib.Algebra.Ring.Nat
import Mathlib.Data.List.ReduceOption

/-!
# Downloads of log files

A log file is named by an id, the base64url form of its path. A download decodes the id, and is
granted if the id is one that the listing of the directories has now. What decides is the comparison
of ids, and what is opened is the decoded path: these agree because decoding undoes encoding
(`b64urlDecode_encode`).

Texts and paths are their bytes. A group of bytes is a number, and shifts are products and
quotients.
-/

namespace PlatformLog

def B64URL : List UInt8 :=
  "ABCDEFGHIJKLMNOPQRSTUVWXYZabcdefghijklmnopqrstuvwxyz0123456789-_".toList.map (·.toUInt8)

def sextet (n : ℕ) : UInt8 :=
  B64URL.getD (n % 64) 0

def encodeChunk (chunk : List UInt8) : List UInt8 :=
  let n := (chunk.getD 0 0).toNat * 65536 + (chunk.getD 1 0).toNat * 256 + (chunk.getD 2 0).toNat
  [sextet (n / 262144), sextet (n / 4096)] ++
    (if 1 < chunk.length then [sextet (n / 64)] else []) ++
    if 2 < chunk.length then [sextet n] else []

def b64urlEncode : List UInt8 → List UInt8
  | [] => []
  | b0 :: b1 :: b2 :: rest => encodeChunk [b0, b1, b2] ++ b64urlEncode rest
  | chunk => encodeChunk chunk

def val (c : UInt8) : Option ℕ :=
  if 65 ≤ c ∧ c ≤ 90 then some (c - 65).toNat
  else if 97 ≤ c ∧ c ≤ 122 then some (c - 97 + 26).toNat
  else if 48 ≤ c ∧ c ≤ 57 then some (c - 48 + 52).toNat
  else if c = 45 then some 62
  else if c = 95 then some 63
  else none

def decodeChunk (chunk : List UInt8) : Option (List UInt8) := do
  if chunk.length = 1 then none
  else
    let n ← chunk.foldlM (fun n c => do return n * 64 + (← val c)) 0
    let n := n * 64 ^ (4 - chunk.length)
    return [.ofNat (n / 65536)] ++ (if 2 < chunk.length then [.ofNat (n / 256)] else []) ++
      if 3 < chunk.length then [.ofNat n] else []

def b64urlDecode : List UInt8 → Option (List UInt8)
  | [] => some []
  | c0 :: c1 :: c2 :: c3 :: rest => do return (← decodeChunk [c0, c1, c2, c3]) ++
      (← b64urlDecode rest)
  | chunk => decodeChunk chunk

/-- The value of a digit is the one that it was made for. -/
theorem val_sextet (n : ℕ) :
  val (sextet n) = some (n % 64)
  := by
  have all : ∀ k : Fin 64, val (B64URL.getD k 0) = some k.val := by decide +kernel
  apply all ⟨n % 64, Nat.mod_lt n (by decide)⟩

/-- A byte is the last one of a number. -/
theorem ofNat_eq {b : UInt8} {n : ℕ} (h : n % 256 = b.toNat) :
  UInt8.ofNat n = b
  := by
  apply UInt8.toNat_inj.mp
  rw [UInt8.toNat_ofNat', h]

/-- Chunks of one, two and three bytes are decoded as they were encoded. -/
theorem decodeChunk_encode (b0 b1 b2 : UInt8) :
  decodeChunk (encodeChunk [b0]) = some [b0] ∧ decodeChunk (encodeChunk [b0, b1]) = some [b0, b1] ∧
    decodeChunk (encodeChunk [b0, b1, b2]) = some [b0, b1, b2]
  := by
  have l0 := b0.toNat_lt
  have l1 := b1.toNat_lt
  have l2 := b2.toNat_lt
  refine ⟨?_, ?_, ?_⟩ <;> simp [encodeChunk, decodeChunk, val_sextet, -UInt8.ofNat_add]
  · apply ofNat_eq
    omega
  · constructor <;> apply ofNat_eq <;> omega
  · refine ⟨?_, ?_, ?_⟩ <;> apply ofNat_eq <;> omega

/-- Base64url decodes what it has encoded. -/
theorem b64urlDecode_encode (bytes : List UInt8) :
  b64urlDecode (b64urlEncode bytes) = some bytes
  := by
  fun_induction b64urlEncode bytes with
  | case1 => rfl
  | case2 b0 b1 b2 rest ih =>
    change (do return (← decodeChunk (encodeChunk [b0, b1, b2])) ++
      (← b64urlDecode (b64urlEncode rest))) = _
    rw [(decodeChunk_encode b0 b1 b2).2.2, ih]
    rfl
  | case3 chunk some short =>
    match chunk with
    | [] => apply absurd rfl some
    | [b0] => exact (decodeChunk_encode b0 0 0).1
    | [b0, b1] => exact (decodeChunk_encode b0 b1 0).2.1
    | b0 :: b1 :: b2 :: rest => apply absurd rfl (short b0 b1 b2 rest)

/-! ### The listing and downloads -/

/-- What the standard library knows of texts: which bytes are UTF-8, and how others are made so. -/
structure Texts where
  utf8 : List UInt8 → Bool
  lossy : List UInt8 → List UInt8
  lossy_of_utf8 : ∀ {bytes}, utf8 bytes = true → lossy bytes = bytes

structure Metadata where
  len : ℕ
  modified : Option ℕ

/-- An entry of a directory, with the parts of its path. -/
structure DirEntry where
  path : List UInt8
  extension : Option (List UInt8)
  fileName : Option (List UInt8)
  fileStem : Option (List UInt8)
  isFile : Bool
  metadata : Option Metadata

structure FileEntry where
  id : List UInt8
  name : List UInt8
  size : ℕ
  source : List UInt8
  modified : ℕ

/-- What there is to read of a directory; some of its entries may be unreadable. -/
abbrev Directories :=
  String → Option (List (Option DirEntry))

variable (texts : Texts) (fs : Directories) (dirs : List String)

def fileId (path : List UInt8) : List UInt8 :=
  b64urlEncode (texts.lossy path)

def DirEntry.isLog (dir : String) (entry : DirEntry) : Bool :=
  match entry.extension with
  | some extension => extension = "log".toUTF8.toList
  | none => dir = "/var/log"

def fileEntry (entry : DirEntry) : FileEntry where
  id := fileId texts entry.path
  name := (entry.fileName.map texts.lossy).getD "unknown".toUTF8.toList
  size := (entry.metadata.map (·.len)).getD 0
  source := (entry.fileStem.map texts.lossy).getD "unknown".toUTF8.toList
  modified := (entry.metadata.bind (·.modified)).getD 0

def logEntries : List DirEntry :=
  dirs.flatMap fun dir => ((fs dir).getD []).reduceOption.filter fun entry =>
    entry.isLog dir && entry.isFile

def listLogFiles : List FileEntry :=
  ((logEntries fs dirs).map (fileEntry texts)).mergeSort (·.id ≤ ·.id)

def resolveDownload (id : List UInt8) : Option (List UInt8) := do
  let path ← b64urlDecode id
  if texts.utf8 path then
    if (listLogFiles texts fs dirs).any (·.id = id) then some path else none
  else none

/-- The path is one of a log file that is there. -/
def Listed (path : List UInt8) : Prop :=
  ∃ entry ∈ logEntries fs dirs, entry.path = path

variable {texts fs dirs} {path : List UInt8}

theorem any_listLogFiles_iff {id : List UInt8} :
  (listLogFiles texts fs dirs).any (·.id = id) = true ↔ ∃ path, Listed fs dirs path ∧
    id = fileId texts path
  := by
  simp only [listLogFiles, List.any_eq_true, List.mem_mergeSort, List.mem_map,
    decide_eq_true_eq, Listed]
  constructor
  · rintro ⟨_, ⟨entry, listed, rfl⟩, rfl⟩
    exact ⟨_, ⟨entry, listed, rfl⟩, rfl⟩
  · rintro ⟨_, ⟨entry, listed, rfl⟩, rfl⟩
    exact ⟨_, ⟨entry, listed, rfl⟩, rfl⟩

/-- The id of a file names its path. -/
theorem b64urlDecode_fileId (utf8 : texts.utf8 path = true) :
  b64urlDecode (fileId texts path) = some path
  := by rw [fileId, texts.lossy_of_utf8 utf8, b64urlDecode_encode]

/-- A download gives a path if and only if a log file with this path is listed now and the id is the
one of the path. So every listed file is given under its id, and no other one has this id. -/
theorem download_confined (utf8 : ∀ path, Listed fs dirs path → texts.utf8 path = true) :
  (∀ id path, resolveDownload texts fs dirs id = some path ↔ Listed fs dirs path ∧
    id = fileId texts path) ∧
  (∀ path, Listed fs dirs path → resolveDownload texts fs dirs (fileId texts path) = some path) ∧
  ∀ path path', Listed fs dirs path → Listed fs dirs path' →
    fileId texts path = fileId texts path' → path = path'
  := by
  have resolves (id path : List UInt8) :
      resolveDownload texts fs dirs id = some path ↔ Listed fs dirs path ∧
      id = fileId texts path := by
    constructor
    · intro resolved
      obtain ⟨_, decodes, rest⟩ := Option.bind_eq_some_iff.mp resolved
      split at rest
      next =>
        split at rest
        next there =>
          obtain ⟨listed, known, rfl⟩ := any_listLogFiles_iff.mp there
          cases (b64urlDecode_fileId (utf8 listed known)).symm.trans decodes
          cases rest
          exact ⟨known, rfl⟩
        next => cases rest
      next => cases rest
    · rintro ⟨listed, rfl⟩
      have decodes := b64urlDecode_fileId (utf8 path listed)
      have there : (listLogFiles texts fs dirs).any (·.id = fileId texts path) = true :=
        any_listLogFiles_iff.mpr ⟨path, listed, rfl⟩
      simp [resolveDownload, decodes, utf8 path listed, there]
  refine ⟨resolves, fun path listed => (resolves _ path).mpr ⟨listed, rfl⟩, ?_⟩
  intro path path' listed listed' same
  have decodes := b64urlDecode_fileId (utf8 path listed)
  rw [same, b64urlDecode_fileId (utf8 path' listed')] at decodes
  exact (Option.some.inj decodes).symm

namespace Bench

def plain : Texts where
  utf8 _ := true
  lossy := id
  lossy_of_utf8 _ := rfl

def kernelLog : DirEntry where
  path := "/var/log/kernel.log".toUTF8.toList
  extension := some "log".toUTF8.toList
  fileName := some "kernel.log".toUTF8.toList
  fileStem := some "kernel".toUTF8.toList
  isFile := true
  metadata := none

def oneFile : Directories :=
  fun _ => some [some kernelLog]

end Bench

open Bench

theorem kernel_log_downloaded :
  Listed oneFile ["/var/log"] kernelLog.path ∧
    resolveDownload plain oneFile ["/var/log"] (fileId plain kernelLog.path) = some kernelLog.path
  := by
  have utf8 : ∀ path, Listed oneFile ["/var/log"] path → plain.utf8 path = true := fun _ _ => rfl
  have listed : Listed oneFile ["/var/log"] kernelLog.path := by
    use kernelLog
    simp [logEntries, oneFile, List.reduceOption, DirEntry.isLog, kernelLog]
  exact ⟨listed, (download_confined utf8).2.1 _ listed⟩

end PlatformLog
