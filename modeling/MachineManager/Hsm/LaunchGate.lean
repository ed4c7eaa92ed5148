import MachineManager.Hsm.Ivd

/-!
# What the gate before a launch vouches for

The walk of a bank sees its directories and regular files. It passes over links and special entries,
and in the root over everything that has one of the four owned names, whatever it is. What it does
not see is not compared with the manifest, although it may well be opened: the gate vouches for all
that can be read in a bank if and only if the manifest claims what the walk passes over
(`gate_vouches_iff`).
-/

open FileTree

namespace Hsm

variable {ε : Type} {lib : IvdLibraries ε}

/-- The path names one of the four owned files in the root of the bank. -/
def IsIvdFile (path : List String) : Prop :=
  ∃ name, path = [name] ∧ isIvdOwned name

/-- Whatever can be read in the bank, apart from the four owned files, is an entry of the manifest
with the size and the digest of what is read. -/
def Vouched (lib : IvdLibraries ε) (bank : BankDir) (m : IvdManifest) : Prop :=
  ∀ path content, IsPath path → ¬ IsIvdFile path → bank.tree.read path = .ok content →
    ∃ f ∈ m.files, f.relativePath = text path ∧ f.size = content.length ∧
      f.sha256 = lib.sha256 content

/-- The walk of the bank does not come along the path: it meets a link or a special entry, or it
begins with an owned name. -/
def Overlooked (bank : BankDir) (path : List String) : Prop :=
  bank.tree.Strays path ∨ isSkipped [] path

/-- The manifest in the bank has an entry under the name. -/
def Claimed (lib : IvdLibraries ε) (bank : BankDir) (name : String) : Prop :=
  ∃ bytes m, bank.read ivdManifestFile = .ok bytes ∧ lib.decode bytes = .ok m ∧
    ∃ f ∈ m.files, f.relativePath = name

variable {bank : BankDir}

/-- What can be read is noted by the walk, unless it is overlooked. -/
theorem mem_collectFiles_of_read {path : List String} {content : List UInt8}
    (found : bank.tree.read path = .ok content) (seen : ¬ Overlooked bank path) :
  ivdFile lib false path content ∈ collectFiles lib false [] bank.tree
  := by
  obtain ⟨straight, unskipped⟩ := not_or.mp seen
  rw [collectFiles_eq]
  apply List.mem_map.mpr
  refine ⟨(path, content), List.mem_filter.mpr ⟨Listing.mem_regular_of_read found straight, ?_⟩,
    rfl⟩
  rw [Bool.eq_false_of_not_eq_true unskipped]
  rfl

/-- When the gate opens, the manifest that it returns is the one in the bank. -/
theorem claimed_iff {m : IvdManifest} (signed : readSignedManifest lib bank = .ok m)
    {name : String} :
  Claimed lib bank name ↔ ∃ f ∈ m.files, f.relativePath = name
  := by
  obtain ⟨bytes, _, found, -, -, decoded⟩ := readSignedManifest_eq_ok.mp signed
  obtain ⟨decoded, -⟩ := decodeManifest_eq_ok.mp decoded
  constructor
  · rintro ⟨bytes', m', found', decoded', claim⟩
    obtain rfl := Except.ok.inj (found.symm.trans found')
    obtain rfl := Except.ok.inj (decoded.symm.trans decoded')
    exact claim
  · intro claim
    exact ⟨bytes, m, found, decoded, claim⟩

/-- When the gate opens, it vouches for all that can be read in the bank if and only if the manifest
has an entry for everything that can be read and that the walk passes over. -/
theorem gate_vouches_iff {bank : BankDir} {pins : VerifyPins} {m : IvdManifest}
    (opens : verifyBankCrypto lib bank pins = .ok m) :
  Vouched lib bank m ↔
    ∀ path content, IsPath path → ¬ IsIvdFile path → bank.tree.read path = .ok content →
      Overlooked bank path → Claimed lib bank (text path)
  := by
  obtain ⟨signed, -, -, checked⟩ := verifyBankCrypto_eq_ok.mp opens
  obtain ⟨expected, claims⟩ := checkFiles_eq_ok.mp checked
  constructor
  · intro vouched path content isPath other found _
    obtain ⟨f, mem, named, -⟩ := vouched path content isPath other found
    exact (claimed_iff signed).mpr ⟨f, mem, named⟩
  · intro condition path content isPath other found
    have claimed : ∃ f ∈ m.files, f.relativePath = text path := by
      by_cases overlooked : Overlooked bank path
      · exact (claimed_iff signed).mp (condition path content isPath other found overlooked)
      · exact List.mem_map.mp (expected _ (mem_collectFiles_of_read found overlooked))
    obtain ⟨f, mem, named⟩ := claimed
    obtain ⟨_, found', size, digest⟩ := checkClaim_eq_ok.mp (claims f mem)
    rw [named, bank.read_text isPath, found] at found'
    obtain rfl := Except.ok.inj found'
    exact ⟨f, mem, named, size, digest⟩

/-! ### A bank with a link -/

namespace Bench

def manifest : IvdManifest :=
  { ivdVersion := 3, signedAtUnix := 0, gen := 1, identity := {}, installBootId := none
    updateId := none
    files := [{ relativePath := "kernel", sha256 := [7], size := 1 }] }

/-- Libraries in which a digest is the content itself, a signature the bytes that it covers, and one
manifest is known. -/
def libraries : IvdLibraries Unit :=
  { sha256 := id
    encode := fun m => if m = manifest then .ok [1] else .error "unknown"
    decode := fun bytes => if bytes = [1] then .ok manifest else .error "unknown"
    verify := fun bytes sig => .ok (bytes == sig) }

def tree (rest : Listing (List UInt8)) : Listing (List UInt8) :=
  .leaf ivdManifestFile (.file [1])
    (.leaf ivdSignatureFile (.file [1]) (.leaf "kernel" (.file [7]) rest))

def linked : BankDir :=
  { tree := tree
      (.leaf "init" (.link fun path => if path = [] then .ok [9] else .error .other) .nil)
    wf := by
      simp only [tree, Listing.Wf, Listing.names]
      decide
    elsewhere := fun _ => .error .notFound }

/-- The bank with a directory that has the name of a temporary file. -/
def shadowed : BankDir :=
  { tree := tree (.dir ivdManifestTmp (.leaf "init" (.file [9]) .nil) .nil)
    wf := by
      simp only [tree, Listing.Wf, Listing.names]
      decide
    elsewhere := fun _ => .error .notFound }

def plain : BankDir :=
  { tree := tree .nil
    wf := by
      simp only [tree, Listing.Wf, Listing.names]
      decide
    elsewhere := fun _ => .error .notFound }

theorem linked_opens :
  (verifyBankCrypto libraries linked { expectedInstallGen := some 1 }).toOption = some manifest
  := by
  decide +kernel

theorem shadowed_opens :
  (verifyBankCrypto libraries shadowed { expectedInstallGen := some 1 }).toOption = some manifest
  := by
  decide +kernel

theorem plain_opens :
  (verifyBankCrypto libraries plain { expectedInstallGen := some 1 }).toOption = some manifest
  := by
  decide +kernel

variable {path : List String} {content : List UInt8}

/-- The manifest has an entry for the kernel only. -/
theorem not_vouched (isPath : IsPath path) (other : ¬ IsIvdFile path)
    (found : bank.tree.read path = .ok content) (unnamed : text path ≠ "kernel") :
  ¬ Vouched libraries bank manifest
  := by
  intro vouched
  obtain ⟨f, mem, named, -⟩ := vouched path content isPath other found
  obtain rfl := List.mem_singleton.mp mem
  exact unnamed named.symm

/-- What can be read in the bank as it was signed is claimed. -/
theorem plain_claims (other : ¬ IsIvdFile path) (found : plain.tree.read path = .ok content) :
  ¬ Overlooked plain path
  := by
  rcases path with _ | ⟨n, q⟩
  · cases found
  · rintro (strays | skipped)
    · simp [plain, tree, Listing.Strays, Leaf.isFile] at strays
    · cases q with
      | nil => exact other ⟨n, rfl, (isSkipped_cons.mp skipped).2⟩
      | cons =>
        simp only [plain, tree, Listing.read, Leaf.read] at found
        split_ifs at found

end Bench

open Bench

/-- A bank with a link, and one with a directory that is named like a temporary file: the gate
opens, and below the bank a file can be read that its manifest does not name. -/
theorem gate_passes_over_files :
  (∃ bank : BankDir, verifyBankCrypto libraries bank { expectedInstallGen := some 1 } =
      .ok manifest ∧ bank.tree.read ["init"] = .ok [9] ∧ ¬ Vouched libraries bank manifest) ∧
  (∃ bank : BankDir, verifyBankCrypto libraries bank { expectedInstallGen := some 1 } =
      .ok manifest ∧ bank.tree.read [ivdManifestTmp, "init"] = .ok [9] ∧
    ¬ Vouched libraries bank manifest)
  := by
  constructor
  · refine ⟨linked, Except.ok_of_toOption linked_opens, rfl,
      not_vouched (show IsPath ["init"] by decide) ?_ rfl (by decide)⟩
    rintro ⟨name, same, owned⟩
    cases same
    exact absurd owned (by decide)
  · refine ⟨shadowed, Except.ok_of_toOption shadowed_opens, rfl,
      not_vouched (show IsPath [ivdManifestTmp, "init"] by decide) ?_ rfl (by decide)⟩
    rintro ⟨name, same, -⟩
    cases same

/-- The gate vouches for the bank as it was signed. -/
theorem signed_bank_vouched :
  verifyBankCrypto libraries plain { expectedInstallGen := some 1 } = .ok manifest ∧
    Vouched libraries plain manifest
  := by
  have opens := Except.ok_of_toOption plain_opens
  refine ⟨opens, (gate_vouches_iff opens).mpr ?_⟩
  intro path content _ other found overlooked
  exact absurd overlooked (plain_claims other found)

end Hsm
