import MachineManager.Lib.Call
import MachineManager.Lib.FileTree
import Mathlib.Data.List.Sort

/-!
# Integrity verification data

A bank is signed by its device: a manifest lists its files with their sizes and digests, and a
signature covers the bytes of the manifest. Both stand in the bank itself. Before a launch the
signature is checked, the generation of the manifest is compared with NV, and every file that the
manifest claims is hashed again; a file that it does not claim is an error.

SHA-256, the codec and the HSM are the fields of `IvdLibraries`.
-/

open FileTree List Except

namespace Hsm

def ivdManifestFile : String := "ivd-manifest.cbor"

def ivdSignatureFile : String := "ivd-signature.bin"

def ivdManifestTmp : String := "ivd-manifest.cbor.tmp"

def ivdSignatureTmp : String := "ivd-signature.bin.tmp"

/-- The names in the root of a bank that the signing machinery owns. -/
def isIvdOwned (name : String) : Bool :=
  name == ivdManifestFile || name == ivdSignatureFile || name == ivdManifestTmp ||
    name == ivdSignatureTmp

def ivdManifestVersion : ℕ := 3

def ivdDisabledRecordPath : String := ".admin-disabled"

/-! ### The manifest -/

/-- What the firmware says of itself. -/
structure IvdIdentity where
  name : String := ""
  version : String := ""
  ecuSwNumber : String := ""
  supplierSwNumber : String := ""
  supplierSwVersion : String := ""
  sparePartNumber : String := ""
  odxFileId : String := ""
  systemName : String := ""
  programmingDate : String := ""
  testerSerial : String := ""
deriving DecidableEq

/-- A file of the inventory. -/
structure IvdFile where
  relativePath : String
  sha256 : List UInt8
  size : ℕ
deriving DecidableEq

/-- What is signed. -/
structure IvdManifest where
  ivdVersion : ℕ
  signedAtUnix : ℕ
  files : List IvdFile
  gen : ℕ
  identity : IvdIdentity
  installBootId : Option String
  updateId : Option String
deriving DecidableEq

def disabledRecord : IvdFile :=
  { relativePath := ivdDisabledRecordPath, sha256 := List.replicate 32 0, size := 0 }

def isDisabledRecord (f : IvdFile) : Bool :=
  f.relativePath == ivdDisabledRecordPath && f.size == 0 && f.sha256.length == 32 &&
    f.sha256.all (· == 0)

def isDisabledManifest (m : IvdManifest) : Bool :=
  match m.files with
  | [f] => isDisabledRecord f
  | _ => false

/-! ### Errors and libraries -/

inductive IvdError (ε : Type)
  | io (error : OpenError) (path : String)
  | cbor (text : String)
  | hashMismatch (path : String) (claimed actual : List UInt8)
  | sizeMismatch (path : String) (claimed actual : ℕ)
  | missingFile (path : String)
  | unexpectedFile (path : String)
  | genMismatch (expected claimed : ℕ)
  | genBelowFloor (manifest floor : ℕ)
  | adminDisabled (gen : ℕ)
  | signatureInvalid
  | unsupportedManifestVersion (version : ℕ)
  | hsm (error : ε)
deriving DecidableEq

/-- The digest, the codec, and the check of a signature under the key of the device. -/
structure IvdLibraries (ε : Type) where
  sha256 : List UInt8 → List UInt8
  encode : IvdManifest → Except String (List UInt8)
  decode : List UInt8 → Except String IvdManifest
  verify : List UInt8 → List UInt8 → Except ε Bool

variable {ε : Type} (lib : IvdLibraries ε)

def encodeManifest (m : IvdManifest) : Except (IvdError ε) (List UInt8) :=
  (lib.encode m).mapError fun e => .cbor ("encode: " ++ e)

def decodeManifest (bytes : List UInt8) : Except (IvdError ε) IvdManifest := do
  let manifest ← (lib.decode bytes).mapError fun e => .cbor ("decode: " ++ e)
  if manifest.ivdVersion ≠ ivdManifestVersion then
    throw (.unsupportedManifestVersion manifest.ivdVersion)
  else
    return manifest

/-! ### The bank -/

/-- A bank directory. A text that is not a path below it, such as one with a leading slash, is read
elsewhere. -/
structure BankDir where
  tree : Listing (List UInt8)
  wf : tree.Wf
  elsewhere : String → Except OpenError (List UInt8)

namespace BankDir

def read (bank : BankDir) (name : String) : Except OpenError (List UInt8) :=
  if IsPath (parts name) then bank.tree.read (parts name) else bank.elsewhere name

theorem read_text (bank : BankDir) {path : List String} (isPath : IsPath path) :
  bank.read (text path) = bank.tree.read path
  := by
  rw [read, parts_text isPath, if_pos isPath]

end BankDir

def ivdFile (withHashes : Bool) (path : List String) (content : List UInt8) : IvdFile :=
  { relativePath := text path
    sha256 := if withHashes then lib.sha256 content else []
    size := content.length }

/-- The walk of a bank, from the directory with the path `place` on. Links and special entries are
skipped, and in the root all entries with a name that is owned. -/
def collectFiles (withHashes : Bool) (place : List String) : Listing (List UInt8) → List IvdFile
  | .nil => []
  | .leaf name entry rest =>
    if place = [] ∧ isIvdOwned name then collectFiles withHashes place rest
    else
      match entry with
      | .file content =>
        ivdFile lib withHashes (place ++ [name]) content :: collectFiles withHashes place rest
      | _ => collectFiles withHashes place rest
  | .dir name inside rest =>
    if place = [] ∧ isIvdOwned name then collectFiles withHashes place rest
    else collectFiles withHashes (place ++ [name]) inside ++ collectFiles withHashes place rest

def isSkipped (place path : List String) : Bool :=
  place.isEmpty && path.head?.any isIvdOwned

theorem isSkipped_cons {place : List String} {name : String} {path : List String} :
  isSkipped place (name :: path) = true ↔ place = [] ∧ isIvdOwned name
  := by
  simp [isSkipped, List.isEmpty_iff]

/-- The walk notes the regular files, apart from those below an owned name. -/
theorem collectFiles_eq (withHashes : Bool) (place : List String) (t : Listing (List UInt8)) :
  collectFiles lib withHashes place t =
    (t.regular.filter fun f => !isSkipped place f.1).map fun f =>
      ivdFile lib withHashes (place ++ f.1) f.2
  := by
  induction t generalizing place with
  | nil => rfl
  | leaf name entry _ ih =>
    cases entry with
    | file =>
      rw [collectFiles, ih, Listing.regular, filter_cons]
      by_cases owned : place = [] ∧ isIvdOwned name
      · rw [if_pos owned, isSkipped_cons.mpr owned]
        rfl
      · rw [if_neg owned, Bool.eq_false_of_not_eq_true (mt isSkipped_cons.mp owned)]
        rfl
    | link | special =>
      unfold collectFiles
      rw [ih]
      exact ite_self _
  | dir name inside _ inner outer =>
    rw [collectFiles, inner, outer, Listing.regular, filter_append, map_append, filter_map, map_map]
    by_cases owned : place = [] ∧ isIvdOwned name
    · have none : ∀ f ∈ inside.regular, ¬ (!isSkipped place (name :: f.1)) = true := by
        intro f _
        rw [isSkipped_cons.mpr owned]
        apply Bool.false_ne_true
      have empty := filter_eq_nil_iff.mpr none
      simp only [Function.comp_def]
      rw [if_pos owned, empty]
      rfl
    · have all : ∀ f ∈ inside.regular, (!isSkipped place (name :: f.1)) = true := by
        intro f _
        rw [Bool.eq_false_of_not_eq_true (mt isSkipped_cons.mp owned)]
        rfl
      have below : ∀ f ∈ inside.regular, (!isSkipped (place ++ [name]) f.1) = true := by
        intro f _
        simp [isSkipped]
      simp only [Function.comp_def]
      rw [if_neg owned, filter_eq_self.mpr below, filter_eq_self.mpr all]
      congr 1
      apply map_congr_left
      intro f _
      rw [append_assoc]
      rfl

/-! ### Verification -/

/-- What NV says of the bank. -/
structure VerifyPins where
  expectedInstallGen : Option ℕ := none
  minCommittedGen : Option ℕ := none

/-- The manifest, if the signature in the bank is one over its bytes. -/
def readSignedManifest (bank : BankDir) : Except (IvdError ε) IvdManifest := do
  let manifestBytes ← (bank.read ivdManifestFile).mapError fun e => .io e ivdManifestFile
  let sig ← (bank.read ivdSignatureFile).mapError fun e => .io e ivdSignatureFile
  let ok ← (lib.verify manifestBytes sig).mapError .hsm
  if !ok then
    throw .signatureInvalid
  else
    decodeManifest lib manifestBytes

/-- The generation is the one of the slot and not below the floor. -/
def checkPins (pins : VerifyPins) (manifest : IvdManifest) : Except (IvdError ε) Unit := do
  pins.expectedInstallGen.toList.forM fun expected =>
    if manifest.gen ≠ expected then throw (.genMismatch expected manifest.gen) else pure ()
  pins.minCommittedGen.toList.forM fun floor =>
    if manifest.gen < floor then throw (.genBelowFloor manifest.gen floor) else pure ()

/-- The file that the manifest claims has the size and the digest that it claims. -/
def checkClaim (bank : BankDir) (claim : IvdFile) : Except (IvdError ε) Unit :=
  match bank.read claim.relativePath with
  | .error .notFound => throw (.missingFile claim.relativePath)
  | .error .other => throw (.io .other claim.relativePath)
  | .ok content =>
    if content.length ≠ claim.size then
      throw (.sizeMismatch claim.relativePath claim.size content.length)
    else if lib.sha256 content ≠ claim.sha256 then
      throw (.hashMismatch claim.relativePath claim.sha256 (lib.sha256 content))
    else pure ()

/-- The first file of the walk, in the order of the paths, that the manifest does not claim. -/
def unexpectedFile (bank : BankDir) (manifest : IvdManifest) : Option String :=
  let onDisk := ((collectFiles lib false [] bank.tree).map (·.relativePath)).insertionSort (· ≤ ·)
  onDisk.find? fun path => !(manifest.files.map (·.relativePath)).contains path

def checkFiles (bank : BankDir) (manifest : IvdManifest) : Except (IvdError ε) Unit :=
  match unexpectedFile lib bank manifest with
  | some path => throw (.unexpectedFile path)
  | none => manifest.files.forM (checkClaim lib bank)

/-- The gate before a launch. -/
def verifyBankCrypto (bank : BankDir) (pins : VerifyPins) : Except (IvdError ε) IvdManifest := do
  let manifest ← readSignedManifest lib bank
  checkPins pins manifest
  if isDisabledManifest manifest then
    throw (.adminDisabled manifest.gen)
  else
    checkFiles lib bank manifest
    return manifest

def readManifestVerified (bank : BankDir) : Except (IvdError ε) IvdManifest :=
  readSignedManifest lib bank

/-! ### When the checks pass -/

variable {lib} {bank : BankDir} {pins : VerifyPins} {m : IvdManifest}

theorem checkPins_eq_ok :
  checkPins pins m = (.ok () : Except (IvdError ε) Unit) ↔
    (∀ expected ∈ pins.expectedInstallGen, m.gen = expected) ∧
    ∀ floor ∈ pins.minCommittedGen, floor ≤ m.gen
  := by
  simp only [checkPins, check_bind_eq_ok_iff, forM_eq_ok_iff, guard_eq_ok_iff,
    Option.mem_toList, not_not, Nat.not_lt]
  simp [pure, Except.pure]

/-- A claim holds if the file that it names has the size and the digest that it says. -/
theorem checkClaim_eq_ok {claim : IvdFile} :
  checkClaim lib bank claim = .ok () ↔
    ∃ content, bank.read claim.relativePath = .ok content ∧ claim.size = content.length ∧
      claim.sha256 = lib.sha256 content
  := by
  unfold checkClaim
  split
  · next missing => simp [missing, throw, throwThe, MonadExceptOf.throw]
  · next unread => simp [unread, throw, throwThe, MonadExceptOf.throw]
  · next content found =>
    simp only [Except.guard_eq_ok_iff, not_not, found]
    constructor
    · rintro ⟨size, digest, -⟩
      exact ⟨content, rfl, size.symm, digest.symm⟩
    · rintro ⟨content', same, size, digest⟩
      cases same
      exact ⟨size.symm, digest.symm, rfl⟩

theorem unexpectedFile_eq_none :
  unexpectedFile lib bank m = none ↔
    ∀ f ∈ collectFiles lib false [] bank.tree, f.relativePath ∈ m.files.map (·.relativePath)
  := by
  simp only [unexpectedFile, List.find?_eq_none, mem_insertionSort, forall_mem_map,
    Bool.not_eq_true', Bool.not_eq_false, contains_iff_mem]

theorem checkFiles_eq_ok :
  checkFiles lib bank m = .ok () ↔
    (∀ f ∈ collectFiles lib false [] bank.tree, f.relativePath ∈ m.files.map (·.relativePath)) ∧
      ∀ claim ∈ m.files, checkClaim lib bank claim = .ok ()
  := by
  rw [← unexpectedFile_eq_none, ← Except.forM_eq_ok_iff, checkFiles]
  cases unexpectedFile lib bank m with
  | none => simp
  | some => simp [throw, throwThe, MonadExceptOf.throw]

theorem decodeManifest_eq_ok {bytes : List UInt8} :
  decodeManifest lib bytes = .ok m ↔ lib.decode bytes = .ok m ∧ m.ivdVersion = ivdManifestVersion
  := by
  simp only [decodeManifest, bind_eq_ok_iff, mapError_eq_ok_iff, guard_eq_ok_iff, not_not]
  constructor
  · rintro ⟨m', decoded, version, same⟩
    cases same
    exact ⟨decoded, version⟩
  · rintro ⟨decoded, version⟩
    exact ⟨m, decoded, version, rfl⟩

/-- The manifest is read if the signature is one over its bytes. -/
theorem readSignedManifest_eq_ok :
  readSignedManifest lib bank = .ok m ↔
    ∃ bytes sig, bank.read ivdManifestFile = .ok bytes ∧ bank.read ivdSignatureFile = .ok sig ∧
      lib.verify bytes sig = .ok true ∧ decodeManifest lib bytes = .ok m
  := by
  simp only [readSignedManifest, bind_eq_ok_iff, mapError_eq_ok_iff, guard_eq_ok_iff]
  constructor
  · rintro ⟨bytes, found, sig, found', ok, verified, accepted, decoded⟩
    obtain rfl : ok = true := by simpa using accepted
    exact ⟨bytes, sig, found, found', verified, decoded⟩
  · rintro ⟨bytes, sig, found, found', verified, decoded⟩
    exact ⟨bytes, found, sig, found', true, verified, nofun, decoded⟩

/-- The gate opens if every check passes. -/
theorem verifyBankCrypto_eq_ok :
  verifyBankCrypto lib bank pins = .ok m ↔
    readSignedManifest lib bank = .ok m ∧ checkPins pins m = (.ok () : Except (IvdError ε) Unit) ∧
      isDisabledManifest m = false ∧ checkFiles lib bank m = .ok ()
  := by
  rw [verifyBankCrypto, bind_eq_ok_iff]
  simp only [check_bind_eq_ok_iff, guard_eq_ok_iff]
  constructor
  · rintro ⟨m', signed, pinned, enabled, checked, same⟩
    cases same
    exact ⟨signed, pinned, Bool.eq_false_of_not_eq_true enabled, checked⟩
  · rintro ⟨signed, pinned, enabled, checked⟩
    refine ⟨m, signed, pinned, ?_, checked, rfl⟩
    rw [enabled]
    nofun

end Hsm
