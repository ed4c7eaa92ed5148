import MachineManager.Hsm.LaunchGate
import MachineManager.Lib.Reachable

/-!
# Signing a bank

A signing replaces the manifest and the signature one after the other, each by a temporary file that
is renamed over the old one. It may be cut off after any of these operations, and any of them may
fail. What earlier signings left beside the pair is passed over by the walk.

A bank that was signed opens (`signed_bank_opens`). A manifest is accepted only if the signature
that was put in place last was made for the same bytes; two signings of one manifest have the same
bytes, and then the signature of the first does for the second (`older_signature_accepted`).
-/

open FileTree List Except Option

namespace Hsm

open Call BankDir Listing Bench Except.Raises

/-- The four owned files. -/
inductive IvdName
  | manifest
  | signature
  | manifestTmp
  | signatureTmp
deriving DecidableEq

namespace IvdName

def fileName : IvdName → String
  | manifest => ivdManifestFile
  | signature => ivdSignatureFile
  | manifestTmp => ivdManifestTmp
  | signatureTmp => ivdSignatureTmp

theorem proper (n : IvdName) :
  Proper n.fileName
  := by
  cases n <;> decide

theorem isIvdOwned (n : IvdName) :
  Hsm.isIvdOwned n.fileName = true
  := by
  cases n <;> decide

theorem fileName_injective {n n' : IvdName} (same : n.fileName = n'.fileName) :
  n = n'
  := by
  cases n <;> cases n' <;> first | rfl | exact absurd same (by decide)

end IvdName

namespace BankDir

def removeFile (n : IvdName) (bank : BankDir) : Except OpenError BankDir :=
  match bank.tree.find n.fileName with
  | none => .error .notFound
  | some (.dir _) => .error .other
  | some (.leaf _) =>
    .ok { bank with tree := bank.tree.erase n.fileName, wf := bank.wf.erase n.fileName }

/-- The bank with a regular file in place of what stood under the name. -/
def putFile (n : IvdName) (content : List UInt8) (bank : BankDir) : BankDir :=
  { bank with
    tree := bank.tree.put n.fileName (.file content), wf := bank.wf.put n.proper (.file content) }

/-- Create an empty file, or make the one that is there empty. -/
def createFile (n : IvdName) (bank : BankDir) : Except OpenError BankDir :=
  match bank.tree.find n.fileName with
  | none | some (.leaf (.file _)) => .ok (bank.putFile n [])
  | some _ => .error .other

def rename (tmp n : IvdName) (bank : BankDir) : Except OpenError BankDir :=
  match bank.tree.find tmp.fileName, bank.tree.find n.fileName with
  | none, _ => .error .notFound
  | some (.dir _), _ | some (.leaf _), some (.dir _) => .error .other
  | some (.leaf entry), _ =>
    .ok { bank with
          tree := (bank.tree.erase tmp.fileName).put n.fileName entry
          wf := (bank.wf.erase tmp.fileName).put n.proper entry }

end BankDir

/-! ### Signings -/

/-- A signing: the manifest that it builds, and its bytes. -/
structure Signing where
  number : ℕ
  manifest : IvdManifest
  bytes : List UInt8
deriving DecidableEq

/-- What is on record of the signings of a bank: how many there were, the latest one whose manifest
was put in place, and the latest one whose signature was. -/
structure SigningLog where
  count : ℕ := 0
  current : Option Signing := none
  covered : Option Signing := none

/-- A bank, with the record of its signings. -/
structure Journal where
  bank : BankDir
  log : SigningLog := {}

def fileOp (fault : Fault) (op : BankDir → Except OpenError BankDir)
    (note : SigningLog → SigningLog := id) : Call Journal OpenError Unit :=
  fun j =>
    match op j.bank with
    | .ok bank => write fault .other (fun j => { bank, log := note j.log }) j
    | .error e =>
      match fault with
      | .stops _ => (.stopped, j)
      | _ => (.err e, j)

/-- The faults of the operations that replace a file, and what a write that did not complete has
left. -/
structure WriteFaults where
  create : Fault := .none
  write : Fault := .none
  torn : List UInt8 := []
  rename : Fault := .none
  cleanup : Fault := .none
  sync : Fault := .none

def writeFileDurably (n tmp : IvdName) (bytes : List UInt8) (faults : WriteFaults)
    (note : SigningLog → SigningLog) : Call Journal OpenError Unit := do
  let replaced ← attempt do
    fileOp faults.create (createFile tmp)
    let content := if faults.write = .none then bytes else faults.torn
    fileOp faults.write fun bank => .ok (bank.putFile tmp content)
    fileOp faults.rename (rename tmp n) note
  match replaced with
  | .error e => do
    ignore (fileOp faults.cleanup (removeFile tmp))
    fail e
  | .ok () => fun j => (faults.sync.logged (), j)

/-- The faults of a signing. -/
structure SignFaults where
  removeManifestTmp : Fault := .none
  removeSignatureTmp : Fault := .none
  manifest : WriteFaults := {}
  signature : WriteFaults := {}

variable {ε : Type} (lib : IvdLibraries ε) {ns : List IvdName} {content : List UInt8}
    {n tmp : IvdName}
  {j : Journal} {bank' : BankDir}

/-- What a signing is given: the arguments, the time, the answer of the HSM to what is to be signed,
and the faults. -/
structure SignRequest (ε : Type) where
  gen : ℕ
  identity : IvdIdentity := {}
  installBootId : Option String := none
  updateId : Option String := none
  now : ℕ := 0
  sign : List UInt8 → Except ε (List UInt8)
  faults : SignFaults := {}

def buildManifestFromFiles (files : List IvdFile) (gen : ℕ) (identity : IvdIdentity) (now : ℕ) :
    IvdManifest :=
  { ivdVersion := ivdManifestVersion
    signedAtUnix := now
    files := files.insertionSort fun a b => a.relativePath ≤ b.relativePath
    gen, identity
    installBootId := none
    updateId := none }

def SignRequest.manifest (r : SignRequest ε) (files : List IvdFile) : IvdManifest :=
  { buildManifestFromFiles files r.gen r.identity r.now with
    installBootId := r.installBootId, updateId := r.updateId }

def signBankWithFiles (files : List IvdFile) (r : SignRequest ε) :
    Call Journal (IvdError ε) IvdManifest := do
  mapErr (.io · ivdManifestTmp)
    (ignore (fileOp r.faults.removeManifestTmp (removeFile .manifestTmp)))
  mapErr (.io · ivdSignatureTmp)
    (ignore (fileOp r.faults.removeSignatureTmp (removeFile .signatureTmp)))
  let manifest := r.manifest files
  let bytes ← ofExcept (encodeManifest lib manifest)
  let sig ← ofExcept ((r.sign bytes).mapError .hsm)
  let j ← get
  let signing : Signing := { number := j.log.count, manifest, bytes }
  modify fun j => { j with log := { j.log with count := j.log.count + 1 } }
  mapErr (.io · ivdManifestFile) (writeFileDurably .manifest .manifestTmp bytes r.faults.manifest
      fun log => { log with current := some signing })
  mapErr (.io · ivdSignatureFile) (writeFileDurably .signature .signatureTmp sig r.faults.signature
      fun log => { log with covered := some signing })
  return manifest

def signBankCryptoAt (r : SignRequest ε) : Call Journal (IvdError ε) IvdManifest := do
  let j ← get
  signBankWithFiles lib (collectFiles lib true [] j.bank.tree) r

def signDisabledRecordCrypto (r : SignRequest ε) : Call Journal (IvdError ε) IvdManifest :=
  signBankWithFiles lib [disabledRecord] { r with installBootId := none, updateId := none }

/-! ### What the operations leave alone -/

namespace BankDir

def Beside (ns : List IvdName) (bank bank' : BankDir) : Prop :=
  bank'.elsewhere = bank.elsewhere ∧
    ∀ name, (∀ n ∈ ns, name ≠ n.fileName) → bank'.tree.find name = bank.tree.find name

variable {ns' : List IvdName} {bank bank' bank'' : BankDir}

theorem Beside.refl (bank : BankDir) :
  Beside ns bank bank
  := ⟨rfl, fun _ _ => rfl⟩

theorem Beside.trans (first : Beside ns bank bank') (second : Beside ns bank' bank'') :
  Beside ns bank bank''
  := ⟨second.1.trans first.1, fun name other => (second.2 name other).trans (first.2 name other)⟩

theorem Beside.mono (beside : Beside ns bank bank') (more : ∀ n ∈ ns, n ∈ ns') :
  Beside ns' bank bank'
  := ⟨beside.1, fun name other => beside.2 name fun n mem => other n (more n mem)⟩

/-- An owned file that is not among them is the same. -/
theorem Beside.find_eq (beside : Beside ns bank bank') (other : n ∉ ns) :
  bank'.tree.find n.fileName = bank.tree.find n.fileName
  := by
  apply beside.2
  rintro n' mem same
  exact other (IvdName.fileName_injective same ▸ mem)

theorem beside_removeFile (removed : bank.removeFile n = .ok bank') :
  Beside [n] bank bank'
  := by
  unfold removeFile at removed
  split at removed
  · cases removed
  · cases removed
  · cases removed
    exact ⟨rfl, fun _ other => bank.tree.find_erase_of_ne (other n mem_cons_self)⟩

theorem beside_putFile (content : List UInt8) :
  Beside [n] bank (bank.putFile n content)
  := ⟨rfl, fun _ other => bank.tree.find_put_of_ne (other n mem_cons_self) (.file content)⟩

theorem beside_createFile (created : bank.createFile n = .ok bank') :
  Beside [n] bank bank'
  := by
  unfold createFile at created
  split at created
  · cases created
    apply beside_putFile
  · cases created
    apply beside_putFile
  · cases created

/-- What is renamed replaces what stood under the name. -/
theorem rename_eq_ok (renamed : bank.rename tmp n = .ok bank') :
  Beside [tmp, n] bank bank' ∧ ∃ entry, bank.tree.find tmp.fileName = some (.leaf entry) ∧
      bank'.tree.find n.fileName = some (.leaf entry)
  := by
  unfold rename at renamed
  split at renamed
  · cases renamed
  · cases renamed
  · cases renamed
  · next entry found _ =>
    cases renamed
    refine ⟨⟨rfl, fun name other => ?_⟩, entry, found, find_put_self ..⟩
    rw [find_put_of_ne _ (other n (by simp)), find_erase_of_ne _ (other tmp (by simp))]

end BankDir

/-! ### How a file is replaced -/

section Replace

variable {fault : Fault} {op : BankDir → Except OpenError BankDir} {note : SigningLog → SigningLog}
  {bytes : List UInt8} {faults : WriteFaults} {ε' : Type}

/-- A file operation takes effect or not; if it returns, it has taken effect without a fault. -/
theorem yields_fileOp :
  Call.Yields (fileOp fault op note) j fun res t =>
    t = j ∧ res ≠ .ok () ∨
      ∃ bank, op j.bank = .ok bank ∧ t = ⟨bank, note j.log⟩ ∧ (res = .ok () → fault = .none)
  := by
  unfold Call.Yields fileOp
  cases result : op j.bank with
  | error =>
    left
    cases fault <;> exact ⟨rfl, nofun⟩
  | ok bank =>
    cases fault with
    | none => exact .inr ⟨bank, rfl, rfl, fun _ => rfl⟩
    | fails landed | stops landed =>
      cases landed
      · exact .inl ⟨rfl, nofun⟩
      · exact .inr ⟨bank, rfl, rfl, nofun⟩

/-- How the replacement of a file can end: the file is the old one, or it is the new one. -/
inductive Replaces (n tmp : IvdName) (bytes : List UInt8) (note : SigningLog → SigningLog)
    (j : Journal) :
    Ending OpenError Unit → Journal → Prop
  | before {res : Ending OpenError Unit} {bank : BankDir} (failed : res ≠ .ok ())
      (beside : BankDir.Beside [tmp] j.bank bank) : Replaces n tmp bytes note j res ⟨bank, j.log⟩
  | after {res : Ending OpenError Unit} {bank : BankDir}
      (beside : BankDir.Beside [tmp, n] j.bank bank)
      (content : bank.tree.find n.fileName = some (.leaf (.file bytes))) :
      Replaces n tmp bytes note j res ⟨bank, note j.log⟩

/-- The new file is written beside the old one and renamed. -/
theorem yields_replacement :
  Call.Yields (do
      fileOp faults.create (createFile tmp)
      let content := if faults.write = .none then bytes else faults.torn
      fileOp faults.write fun bank => .ok (bank.putFile tmp content)
      fileOp faults.rename (rename tmp n) note) j
    (Replaces n tmp bytes note j)
  := by
  have created : Call.Yields (fileOp faults.create (createFile tmp)) j fun _ t =>
      ∃ bank, t = ⟨bank, j.log⟩ ∧ BankDir.Beside [tmp] j.bank bank := by
    refine yields_fileOp.mono ?_
    rintro res t (⟨rfl, -⟩ | ⟨bank, done, rfl, -⟩)
    · exact ⟨_, rfl, .refl _⟩
    · exact ⟨bank, rfl, beside_createFile done⟩
  have before {e : Ending OpenError Unit} {t : Journal} (failed : e ≠ .ok ()) :
      (∃ bank, t = ⟨bank, j.log⟩ ∧ BankDir.Beside [tmp] j.bank bank) →
        Replaces n tmp bytes note j e t := by
    rintro ⟨bank, rfl, beside⟩
    exact .before failed beside
  refine yields_bind created ?_ (fun _ _ => before nofun) fun _ => before nofun
  rintro ⟨⟩ _ ⟨bank₁, rfl, beside₁⟩
  refine yields_bind yields_fileOp ?_ ?_ ?_
  · rintro ⟨⟩ _ (⟨-, failed⟩ | ⟨_, done, rfl, whole⟩)
    · exact absurd rfl failed
    cases done
    refine yields_fileOp.mono ?_
    have beside₂ :=
      beside₁.trans (beside_putFile (if faults.write = .none then bytes else faults.torn))
    have content :
      (bank₁.putFile tmp (if faults.write = .none then bytes else faults.torn)).tree.find
        tmp.fileName = some (.leaf (.file bytes)) := by
      rw [if_pos (whole rfl)]
      exact find_put_self ..
    rintro res t (⟨rfl, failed⟩ | ⟨bank₃, renamed, rfl, -⟩)
    · exact .before failed beside₂
    · obtain ⟨beside₃, _, found, placed⟩ := rename_eq_ok renamed
      cases found.symm.trans content
      refine .after (BankDir.Beside.trans (beside₂.mono ?_) beside₃) placed
      simp
  · rintro e t (⟨rfl, -⟩ | ⟨_, done, rfl, -⟩)
    · exact .before nofun beside₁
    · cases done
      exact .before nofun (beside₁.trans (beside_putFile _))
  · rintro t (⟨rfl, -⟩ | ⟨_, done, rfl, -⟩)
    · exact .before nofun beside₁
    · cases done
      exact .before nofun (beside₁.trans (beside_putFile _))

/-- The temporary file is removed again. -/
theorem Replaces.cleanup {res res' : Ending OpenError Unit} {t : Journal} {bank : BankDir}
    (apart : tmp ≠ n) (replaces : Replaces n tmp bytes note j res t) (failed : res' ≠ .ok ())
    (beside : BankDir.Beside [tmp] t.bank bank) :
  Replaces n tmp bytes note j res' ⟨bank, t.log⟩
  := by
  cases replaces with
  | before _ first => exact .before failed (first.trans beside)
  | after first content =>
    refine .after (first.trans (beside.mono (by simp))) ?_
    rw [beside.find_eq (by simpa using apart.symm), content]

theorem yields_writeFileDurably (apart : tmp ≠ n) :
  Call.Yields (writeFileDurably n tmp bytes faults note) j (Replaces n tmp bytes note j)
  := by
  refine yields_attempt_bind yields_replacement ?_ ?_ fun _ replaced => replaced
  · rintro ⟨⟩ t replaced
    cases replaced with
    | before failed => exact absurd rfl failed
    | after beside content => exact .after beside content
  · intro e t replaced
    have removed : Call.Yields (ignore (fileOp faults.cleanup (removeFile tmp))) t
        fun res t' => ∀ res', res' ≠ .ok () → Replaces n tmp bytes note j res' t' := by
      apply yields_ignore
      refine yields_fileOp.mono ?_
      rintro res t' (⟨rfl, -⟩ | ⟨bank, done, rfl, -⟩)
      · have same (res' : Ending OpenError Unit) (failed : res' ≠ .ok ()) :=
          replaced.cleanup apart failed (.refl _)
        exact ⟨same, fun _ => same⟩
      · have same (res' : Ending OpenError Unit) (failed : res' ≠ .ok ()) :=
          replaced.cleanup apart failed (beside_removeFile done)
        exact ⟨same, fun _ => same⟩
    refine yields_bind removed ?_ ?_ ?_
    · rintro ⟨⟩ t' replaced'
      exact replaced' _ nofun
    · intro e' t' replaced'
      exact replaced' _ nofun
    · intro t' replaced'
      exact replaced' _ nofun

/-- The replacement, with its error under the name of the file. -/
theorem yields_mapErr_writeFileDurably (apart : tmp ≠ n) (text : OpenError → ε') :
  Call.Yields (mapErr text (writeFileDurably n tmp bytes faults note)) j fun res t =>
    ∃ res', Replaces n tmp bytes note j res' t ∧ (res = .ok () → res' = .ok ())
  := by
  apply yields_mapErr
  refine (yields_writeFileDurably apart).mono ?_
  intro res t replaced
  refine ⟨res, replaced, ?_⟩
  cases res <;> simp [Ending.mapErr]

/-- A temporary file of an earlier signing is removed, if that is possible. -/
theorem yields_removeTmp (text : OpenError → ε') :
  Call.Yields (mapErr text (ignore (fileOp fault (removeFile n)))) j fun _ t =>
    ∃ bank, t = ⟨bank, j.log⟩ ∧ BankDir.Beside [n] j.bank bank
  := by
  apply yields_mapErr
  apply yields_ignore
  refine yields_fileOp.mono ?_
  rintro res t (⟨rfl, -⟩ | ⟨bank, done, rfl, -⟩)
  · exact ⟨⟨_, rfl, .refl _⟩, fun _ => ⟨_, rfl, .refl _⟩⟩
  · have beside := beside_removeFile done
    exact ⟨⟨bank, rfl, beside⟩, fun _ => ⟨bank, rfl, beside⟩⟩

end Replace

/-! ### How a signing ends -/

section Signs

variable {lib} {files : List IvdFile} {r : SignRequest ε} {t : Journal}
  {res : Ending (IvdError ε) IvdManifest} {res' : Ending OpenError Unit}

/-- How a signing can end: nothing of the pair was replaced, the manifest only, or both. -/
inductive Signs (lib : IvdLibraries ε) (files : List IvdFile) (r : SignRequest ε) (j : Journal) :
    Ending (IvdError ε) IvdManifest → Journal → Prop
  | untouched {res : Ending (IvdError ε) IvdManifest} {bank : BankDir} {count : ℕ}
      (failed : ∀ m, res ≠ .ok m)
      (beside : BankDir.Beside [.manifestTmp, .signatureTmp] j.bank bank) :
      Signs lib files r j res ⟨bank, { j.log with count }⟩
  | torn {res : Ending (IvdError ε) IvdManifest} {bank : BankDir} {bytes : List UInt8}
      (failed : ∀ m, res ≠ .ok m) (encoded : lib.encode (r.manifest files) = .ok bytes)
      (beside : BankDir.Beside [.manifest, .manifestTmp, .signatureTmp] j.bank bank)
      (content : bank.tree.find ivdManifestFile = some (.leaf (.file bytes))) :
      Signs lib files r j res
        ⟨bank, { j.log with
          count := j.log.count + 1, current := some ⟨j.log.count, r.manifest files, bytes⟩ }⟩
  | whole {res : Ending (IvdError ε) IvdManifest} {bank : BankDir} {bytes sig : List UInt8}
      (returned : ∀ m, res = .ok m → m = r.manifest files)
      (encoded : lib.encode (r.manifest files) = .ok bytes) (signed : r.sign bytes = .ok sig)
      (beside : BankDir.Beside [.manifest, .signature, .manifestTmp, .signatureTmp] j.bank bank)
      (content : bank.tree.find ivdManifestFile = some (.leaf (.file bytes)))
      (signature : bank.tree.find ivdSignatureFile = some (.leaf (.file sig))) :
      Signs lib files r j res
        ⟨bank,
          { count := j.log.count + 1
            current := some ⟨j.log.count, r.manifest files, bytes⟩
            covered := some ⟨j.log.count, r.manifest files, bytes⟩ }⟩

/-- The manifest is in place, and the signature is about to be replaced. -/
theorem signs_of_replaces {bank : BankDir} {bytes sig : List UInt8}
    (returned : ∀ m, res = .ok m → m = r.manifest files ∧ res' = .ok ())
    (encoded : lib.encode (r.manifest files) = .ok bytes) (signed : r.sign bytes = .ok sig)
    (beside : BankDir.Beside [.manifestTmp, .signatureTmp] j.bank bank)
    (placed : BankDir.Beside [.manifestTmp, .manifest] bank bank')
    (content : bank'.tree.find ivdManifestFile = some (.leaf (.file bytes)))
    (replaced : Replaces .signature .signatureTmp sig
      (fun log => { log with covered := some ⟨j.log.count, r.manifest files, bytes⟩ })
      ⟨bank', { j.log with
        count := j.log.count + 1, current := some ⟨j.log.count, r.manifest files, bytes⟩ }⟩ res'
          t) :
  Signs lib files r j res t
  := by
  have all : BankDir.Beside [.manifest, .manifestTmp, .signatureTmp] j.bank bank' :=
    (beside.mono (by simp)).trans (placed.mono (by simp))
  cases replaced with
  | before failed last =>
    refine .torn ?_ encoded (all.trans (last.mono (by simp))) ?_
    · intro m same
      exact failed (returned m same).2
    · exact (last.find_eq (n := .manifest) (by decide)).trans content
  | after last signature =>
    refine .whole (fun m same => (returned m same).1) encoded signed
      ((all.mono (by simp)).trans (last.mono (by simp))) ?_ signature
    exact (last.find_eq (n := .manifest) (by decide)).trans content

/-- The manifest may be in place, and the signing is over. -/
theorem signs_of_replaces_manifest {bank : BankDir} {bytes : List UInt8}
    (failed : ∀ m, res ≠ .ok m) (encoded : lib.encode (r.manifest files) = .ok bytes)
    (beside : BankDir.Beside [.manifestTmp, .signatureTmp] j.bank bank)
    (replaced : Replaces .manifest .manifestTmp bytes
      (fun log => { log with current := some ⟨j.log.count, r.manifest files, bytes⟩ })
      ⟨bank, { j.log with count := j.log.count + 1 }⟩ res' t) :
  Signs lib files r j res t
  := by
  cases replaced with
  | before _ last => exact .untouched failed (beside.trans (last.mono (by simp)))
  | after last content =>
    exact .torn failed encoded ((beside.mono (by simp)).trans (last.mono (by simp))) content

theorem yields_signBankWithFiles :
  Call.Yields (signBankWithFiles lib files r) j (Signs lib files r j)
  := by
  refine yields_bind (yields_removeTmp _) ?_ ?_ ?_
  · rintro ⟨⟩ _ ⟨bank₁, rfl, beside₁⟩
    refine yields_bind (yields_removeTmp _) ?_ ?_ ?_
    · rintro ⟨⟩ _ ⟨bank₂, rfl, beside₂⟩
      have beside : BankDir.Beside [.manifestTmp, .signatureTmp] j.bank bank₂ :=
        (beside₁.mono (by simp)).trans (beside₂.mono (by simp))
      apply yields_ofExcept_bind
      · intro bytes encoded
        apply yields_ofExcept_bind
        · intro sig signed
          have signed : r.sign bytes = .ok sig := ok_of_mapError signed
          have encoded : lib.encode (r.manifest files) = .ok bytes := ok_of_mapError encoded
          refine yields_get_bind (yields_modify_bind ?_)
          refine yields_bind (yields_mapErr_writeFileDurably (by decide) _) ?_ ?_ ?_
          · rintro ⟨⟩ _ ⟨_, replaced, ok⟩
            obtain rfl := ok rfl
            cases replaced with
            | before failed => exact absurd rfl failed
            | after placed content =>
              refine yields_bind (yields_mapErr_writeFileDurably (by decide) _) ?_ ?_ ?_
              · rintro ⟨⟩ t ⟨res', replaced, ok⟩
                refine signs_of_replaces ?_ encoded signed beside placed content replaced
                intro m same
                cases same
                exact ⟨rfl, ok rfl⟩
              · rintro e t ⟨res', replaced, -⟩
                exact signs_of_replaces nofun encoded signed beside placed content replaced
              · rintro t ⟨res', replaced, -⟩
                exact signs_of_replaces nofun encoded signed beside placed content replaced
          · rintro e t ⟨res', replaced, -⟩
            exact signs_of_replaces_manifest nofun encoded beside replaced
          · rintro t ⟨res', replaced, -⟩
            exact signs_of_replaces_manifest nofun encoded beside replaced
        · intro e _
          exact .untouched nofun beside
      · intro e _
        exact .untouched nofun beside
    · rintro e _ ⟨bank₂, rfl, beside₂⟩
      exact .untouched nofun ((beside₁.mono (by simp)).trans (beside₂.mono (by simp)))
    · rintro _ ⟨bank₂, rfl, beside₂⟩
      exact .untouched nofun ((beside₁.mono (by simp)).trans (beside₂.mono (by simp)))
  · rintro e _ ⟨bank₁, rfl, beside₁⟩
    exact .untouched nofun (beside₁.mono (by simp))
  · rintro _ ⟨bank₁, rfl, beside₁⟩
    exact .untouched nofun (beside₁.mono (by simp))

end Signs

/-! ### A bank that was signed -/

/-- A manifest that was encoded is decoded to itself, and the digest of the empty file is not all
zeros. -/
structure IvdLibraries.Lawful : Prop where
  decode_encode : ∀ m bytes, lib.encode m = .ok bytes → lib.decode bytes = .ok m
  sha256_nil : lib.sha256 [] ≠ List.replicate 32 0

/-- A signature is accepted over the bytes that it was made for, and over no others. -/
def SignRequest.Lawful (r : SignRequest ε) : Prop :=
  ∀ bytes sig, r.sign bytes = .ok sig → ∀ bytes', lib.verify bytes' sig = .ok true ↔ bytes' = bytes

theorem BankDir.read_fileName (bank : BankDir) (n : IvdName) :
  bank.read n.fileName = bank.tree.read [n.fileName]
  := by
  have isPath : IsPath [n.fileName] := ⟨nofun, by simpa using n.proper⟩
  have same : text [n.fileName] = n.fileName := by
    simp [text, List.intercalate]
  rw [← bank.read_text isPath, same]

/-- A file that stands under an owned name is read. -/
theorem BankDir.read_of_find {bank : BankDir}
    (found : bank.tree.find n.fileName = some (.leaf (.file content))) :
  bank.read n.fileName = .ok content
  := by
  rw [read_fileName, read_cons, found]
  rfl

/-- What is read under an owned name depends on what stands there only. -/
theorem BankDir.Beside.read_eq {bank : BankDir} (beside : Beside ns bank bank') (other : n ∉ ns) :
  bank'.read n.fileName = bank.read n.fileName
  := by
  rw [read_fileName, read_fileName, read_cons, read_cons, beside.find_eq other]

/-- The regular files that do not begin with an owned name are the same. -/
theorem BankDir.Beside.mem_regular_iff {bank : BankDir}
    (beside : Beside ns bank bank') {path : List String} (seen : isSkipped [] path = false) :
  (path, content) ∈ bank'.tree.regular ↔ (path, content) ∈ bank.tree.regular
  := by
  cases path with
  | nil =>
    constructor
    · intro mem
      obtain ⟨_, _, ⟨⟩, -⟩ := head_of_mem_regular mem
    · intro mem
      obtain ⟨_, _, ⟨⟩, -⟩ := head_of_mem_regular mem
  | cons name =>
    have free : ∀ n ∈ ns, name ≠ n.fileName := by
      rintro n - rfl
      rw [isSkipped_cons.mpr ⟨rfl, n.isIvdOwned⟩] at seen
      cases seen
    rw [mem_regular_cons bank'.wf, mem_regular_cons bank.wf, beside.2 name free]

variable {lib} {m : IvdManifest} {pins : VerifyPins}

/-- What the walk notes, with digests. -/
theorem mem_collectFiles {bank : BankDir} {withHashes : Bool} {f : IvdFile} :
  f ∈ collectFiles lib withHashes [] bank.tree ↔
    ∃ path content, (path, content) ∈ bank.tree.regular ∧ isSkipped [] path = false ∧
      f = ivdFile lib withHashes path content
  := by
  rw [collectFiles_eq, List.mem_map]
  constructor
  · rintro ⟨⟨path, content⟩, mem, rfl⟩
    obtain ⟨mem, seen⟩ := mem_filter.mp mem
    exact ⟨path, content, mem, by simpa using seen, rfl⟩
  · rintro ⟨path, content, mem, seen, rfl⟩
    refine ⟨(path, content), mem_filter.mpr ⟨mem, ?_⟩, rfl⟩
    rw [seen]
    rfl

/-- The inventory of a bank is not a disable record. -/
theorem isDisabledManifest_manifest (lawful : lib.Lawful) (r : SignRequest ε) (bank : BankDir) :
  isDisabledManifest (r.manifest (collectFiles lib true [] bank.tree)) = false
  := by
  unfold isDisabledManifest
  split
  · next f single =>
    have mem : f ∈ (r.manifest (collectFiles lib true [] bank.tree)).files := by
      rw [single]
      exact mem_cons_self
    obtain ⟨_, _, -, -, rfl⟩ := mem_collectFiles.mp ((mem_insertionSort _).mp mem)
    by_contra disabled
    simp only [isDisabledRecord, ivdFile, Bool.not_eq_false, Bool.and_eq_true, beq_iff_eq,
      List.length_eq_zero_iff, if_true, List.all_eq_true] at disabled
    obtain ⟨⟨⟨-, rfl⟩, length⟩, zeros⟩ := disabled
    exact lawful.sha256_nil (List.eq_replicate_iff.mpr ⟨length, zeros⟩)
  · rfl

/-- The inventory holds as long as only owned files change. -/
theorem checkFiles_manifest (r : SignRequest ε) {bank : BankDir}
    (beside : BankDir.Beside ns bank bank') :
  checkFiles lib bank' (r.manifest (collectFiles lib true [] bank.tree)) = .ok ()
  := by
  apply checkFiles_eq_ok.mpr
  constructor
  · intro f mem
    obtain ⟨path, content, there, seen, rfl⟩ := mem_collectFiles.mp mem
    have noted : ivdFile lib true path content ∈ collectFiles lib true [] bank.tree :=
      mem_collectFiles.mpr ⟨path, content, (beside.mem_regular_iff seen).mp there, seen, rfl⟩
    exact mem_map.mpr ⟨_, (mem_insertionSort _).mpr noted, rfl⟩
  · intro claim mem
    obtain ⟨_, content, there, seen, rfl⟩ := mem_collectFiles.mp ((mem_insertionSort _).mp mem)
    have there' := (beside.mem_regular_iff seen).mpr there
    have isPath := isPath_of_mem_regular bank'.wf there'
    apply checkClaim_eq_ok.mpr
    refine ⟨content, ?_, rfl, rfl⟩
    exact (bank'.read_text isPath).trans (read_of_mem_regular bank'.wf there')

/-- A bank that was signed opens with the manifest of the signing. -/
theorem verifyBankCrypto_of_signed (lawful : lib.Lawful) {r : SignRequest ε}
    (lawful' : r.Lawful lib)
    {j' : Journal} (call : signBankCryptoAt lib r j = (.ok m, j')) {floor : Option ℕ}
    (reached : ∀ g ∈ floor, g ≤ r.gen) :
  verifyBankCrypto lib j'.bank { expectedInstallGen := some r.gen, minCommittedGen := floor } =
    .ok m
  := by
  have signs : Signs lib (collectFiles lib true [] j.bank.tree) r j (.ok m) j' := by
    have spec : Call.Yields (signBankCryptoAt lib r) j
        (Signs lib (collectFiles lib true [] j.bank.tree) r j) := yields_signBankWithFiles
    rwa [Call.Yields, call] at spec
  cases signs with
  | untouched failed | torn failed => exact absurd rfl (failed m)
  | whole returned encoded signed beside content signature =>
    obtain rfl := returned m rfl
    apply verifyBankCrypto_eq_ok.mpr
    refine ⟨readSignedManifest_eq_ok.mpr ⟨_, _, read_of_find (n := .manifest) content,
      read_of_find (n := .signature) signature, ?_, ?_⟩, ?_, ?_, ?_⟩
    · exact (lawful' _ _ signed _).mpr rfl
    · exact decodeManifest_eq_ok.mpr ⟨lawful.decode_encode _ _ encoded, rfl⟩
    · exact checkPins_eq_ok.mpr ⟨fun g same => some.inj same, reached⟩
    · exact isDisabledManifest_manifest lawful r j.bank
    · exact checkFiles_manifest r beside

/-! ### Which manifest is accepted -/

/-- A call that signs the bank, or a disable record. -/
inductive SignCall (ε : Type)
  | bank (r : SignRequest ε)
  | disabled (r : SignRequest ε)

namespace SignCall

def request : SignCall ε → SignRequest ε
  | bank r | disabled r => r

variable (lib) in
def run : SignCall ε → Call Journal (IvdError ε) IvdManifest
  | bank r => signBankCryptoAt lib r
  | disabled r => signDisabledRecordCrypto lib r

end SignCall

namespace Journal

variable (lib) in
/-- A bank that was not signed yet: whatever stands in the place of the signature is not
accepted. -/
def Starts (j : Journal) : Prop :=
  j.log.current = none ∧ j.log.covered = none ∧
    ∀ sig bytes, j.bank.read ivdSignatureFile = .ok sig → lib.verify bytes sig ≠ .ok true

variable (lib) in
/-- A signing takes place, or other files of the bank change. -/
inductive Step : Journal → Journal → Prop
  | signs {j : Journal} (call : SignCall ε) (lawful : call.request.Lawful lib) : Step j
      (call.run lib j).2
  | changes {j : Journal} {bank : BankDir}
      (manifest : bank.read ivdManifestFile = j.bank.read ivdManifestFile)
      (signature : bank.read ivdSignatureFile = j.bank.read ivdSignatureFile) :
      Step j { j with bank }

/-- The manifest is that of the latest signing whose manifest was put in place, and the latest
signing whose signature was put in place has signed the same bytes. -/
def Accounts (j : Journal) (m : IvdManifest) : Prop :=
  ∃ s s', j.log.current = some s ∧ s.manifest = m ∧ j.log.covered = some s' ∧ s'.bytes = s.bytes

variable (lib) in
/-- What holds in every run: the manifest in place is that of the current signing, and the signature
in place is accepted over the bytes of the covered signing only. -/
structure Inv (j : Journal) : Prop where
  placed : ∀ s ∈ j.log.current, j.bank.read ivdManifestFile = .ok s.bytes ∧
    lib.encode s.manifest = .ok s.bytes
  covers : ∀ sig bytes, j.bank.read ivdSignatureFile = .ok sig → lib.verify bytes sig = .ok true →
    ∃ s ∈ j.log.covered, s.bytes = bytes
  ordered : j.log.covered.isSome → j.log.current.isSome

variable {j' : Journal}

theorem Starts.inv (h : j.Starts lib) :
  j.Inv lib
  := by
  obtain ⟨current, covered, refused⟩ := h
  constructor
  case placed =>
    intro s mem
    rw [current] at mem
    cases mem
  case covers =>
    intro sig bytes found accepted
    exact absurd accepted (refused sig bytes found)
  case ordered =>
    rw [covered]
    nofun

/-- A signing keeps the invariant, however it ends. -/
theorem Inv.signs {files : List IvdFile} {r : SignRequest ε} {res : Ending (IvdError ε) IvdManifest}
    (inv : j.Inv lib) (lawful : r.Lawful lib) (signs : Signs lib files r j res j') :
  j'.Inv lib
  := by
  cases signs with
  | untouched _ beside =>
    constructor
    case placed =>
      intro s mem
      exact ⟨(beside.read_eq (n := .manifest) (by decide)).trans (inv.placed s mem).1,
        (inv.placed s mem).2⟩
    case covers =>
      intro sig bytes found
      exact inv.covers sig bytes ((beside.read_eq (n := .signature) (by decide)).symm.trans found)
    case ordered => exact inv.ordered
  | torn _ encoded beside content =>
    constructor
    case placed =>
      intro s mem
      obtain rfl := some.inj mem
      exact ⟨read_of_find (n := .manifest) content, encoded⟩
    case covers =>
      intro sig bytes found
      exact inv.covers sig bytes ((beside.read_eq (n := .signature) (by decide)).symm.trans found)
    case ordered => exact fun _ => rfl
  | whole _ encoded signed _ content signature =>
    constructor
    case placed =>
      intro s mem
      obtain rfl := some.inj mem
      exact ⟨read_of_find (n := .manifest) content, encoded⟩
    case covers =>
      intro sig bytes found accepted
      have found' := read_of_find (n := .signature) signature
      obtain rfl := Except.ok.inj (found'.symm.trans found)
      exact ⟨_, rfl, ((lawful _ _ signed bytes).mp accepted).symm⟩
    case ordered => exact fun _ => rfl

theorem Inv.step (inv : j.Inv lib) (step : Step lib j j') :
  j'.Inv lib
  := by
  cases step with
  | signs call lawful =>
    cases call with
    | bank r =>
      have spec : Call.Yields (signBankCryptoAt lib r) j
          (Signs lib (collectFiles lib true [] j.bank.tree) r j) := yields_signBankWithFiles
      exact inv.signs lawful spec
    | disabled r =>
      have spec : Call.Yields (signDisabledRecordCrypto lib r) j
          (Signs lib [disabledRecord] { r with installBootId := none, updateId := none } j) :=
        yields_signBankWithFiles
      have lawful' : SignRequest.Lawful lib { r with installBootId := none, updateId := none } :=
        lawful
      exact inv.signs lawful' spec
  | changes manifest signature =>
    constructor
    case placed =>
      intro s mem
      exact ⟨manifest.trans (inv.placed s mem).1, (inv.placed s mem).2⟩
    case covers =>
      intro sig bytes found
      exact inv.covers sig bytes (signature.symm.trans found)
    case ordered => exact inv.ordered

/-- A manifest that is accepted is accounted for. -/
theorem Inv.accounts (inv : j.Inv lib) (lawful : lib.Lawful)
    (signed : readSignedManifest lib j.bank = .ok m) :
  j.Accounts m
  := by
  obtain ⟨bytes, sig, found, found', accepted, decoded⟩ := readSignedManifest_eq_ok.mp signed
  obtain ⟨s', covered, same⟩ := inv.covers sig bytes found' accepted
  obtain ⟨s, current⟩ := isSome_iff_exists.mp (inv.ordered (isSome_of_mem covered))
  obtain ⟨placed, encoded⟩ := inv.placed s current
  obtain rfl := Except.ok.inj (placed.symm.trans found)
  have manifest := (lawful.decode_encode _ _ encoded).symm.trans (decodeManifest_eq_ok.mp decoded).1
  exact ⟨s, s', current, Except.ok.inj manifest, covered, same⟩

end Journal

/-- Only the gate itself says that a bank is disabled. -/
theorem raises_readSignedManifest {bank : BankDir} :
  (readSignedManifest lib bank).Raises fun e => ∀ g, e ≠ .adminDisabled g
  := by
  refine (raises_mapError fun _ => nofun).bind fun _ _ =>
    (raises_mapError fun _ => nofun).bind fun _ _ =>
    (raises_mapError fun _ => nofun).bind fun _ _ => .guard nofun ?_
  exact (raises_mapError fun _ => nofun).bind fun _ _ => .guard nofun raises_ok

theorem raises_checkPins :
  (checkPins pins m : Except (IvdError ε) Unit).Raises fun e => ∀ g, e ≠ .adminDisabled g
  := by
  refine (forM fun _ => .guard nofun raises_ok).bind fun _ _ => ?_
  exact forM fun _ => .guard nofun raises_ok

theorem raises_checkFiles {bank : BankDir} :
  (checkFiles lib bank m).Raises fun e => ∀ g, e ≠ .adminDisabled g
  := by
  unfold checkFiles
  split
  · rintro _ ⟨⟩ _ ⟨⟩
  · apply Except.Raises.forM
    intro claim
    unfold checkClaim
    split
    · rintro _ ⟨⟩ _ ⟨⟩
    · rintro _ ⟨⟩ _ ⟨⟩
    · exact .guard nofun (.guard nofun raises_ok)

/-- A bank that is reported as disabled has an accepted manifest that says so. -/
theorem signed_of_adminDisabled {bank : BankDir} {g : ℕ}
    (reported : verifyBankCrypto lib bank pins = .error (.adminDisabled g)) :
  ∃ m, readSignedManifest lib bank = .ok m ∧ isDisabledManifest m = true ∧ m.gen = g
  := by
  by_contra none
  have raises : (verifyBankCrypto lib bank pins).Raises fun e => e ≠ .adminDisabled g := by
    refine bind (fun e raised => raises_readSignedManifest e raised g) fun m signed => ?_
    refine bind (fun e raised => raises_checkPins e raised g) fun _ _ => ?_
    by_cases disabled : isDisabledManifest m = true
    · rw [if_pos disabled]
      rintro _ ⟨⟩ same
      exact none ⟨m, signed, disabled, IvdError.adminDisabled.inj same⟩
    · rw [if_neg disabled]
      exact bind (fun e raised => raises_checkFiles e raised g) fun _ _ => raises_ok
  exact raises _ reported rfl

/-- After any sequence of signings, each of which may be cut off: a bank that is then signed opens
with the manifest of that signing, and what is accepted is the manifest of the latest signing whose
manifest was put in place, if the signature that was put in place last was made for the same
bytes. -/
theorem signed_bank_opens (lawful : lib.Lawful) {j : Journal}
    (reached : Reachable (Journal.Starts lib) (Journal.Step lib) j) :
  (∀ r : SignRequest ε, r.Lawful lib → ∀ m j', signBankCryptoAt lib r j = (.ok m, j') →
    ∀ floor : Option ℕ, (∀ g ∈ floor, g ≤ r.gen) →
      verifyBankCrypto lib j'.bank { expectedInstallGen := some r.gen, minCommittedGen := floor } =
        .ok m) ∧
  (∀ m, readManifestVerified lib j.bank = .ok m → j.Accounts m) ∧
  ∀ pins, (∀ m, verifyBankCrypto lib j.bank pins = .ok m → j.Accounts m) ∧
    ∀ g, verifyBankCrypto lib j.bank pins = .error (.adminDisabled g) →
      ∃ m, m.gen = g ∧ isDisabledManifest m = true ∧ j.Accounts m
  := by
  have inv : j.Inv lib :=
    reached.invariant (fun _ starts => starts.inv) fun _ _ inv step => inv.step step
  refine ⟨?_, ?_, fun pins => ⟨?_, ?_⟩⟩
  · intro r lawful' m j' call floor below
    exact verifyBankCrypto_of_signed lawful lawful' call below
  · intro m accepted
    exact inv.accounts lawful accepted
  · intro m accepted
    exact inv.accounts lawful (verifyBankCrypto_eq_ok.mp accepted).1
  · intro g reported
    obtain ⟨m, signed, disabled, rfl⟩ := signed_of_adminDisabled reported
    exact ⟨m, rfl, disabled, inv.accounts lawful signed⟩

namespace Bench

def unsigned : Journal :=
  { bank :=
      { tree := .leaf "kernel" (.file [7]) .nil
        wf := by
          simp only [Listing.Wf, names]
          decide
        elsewhere := fun _ => .error .notFound } }

def request (faults : SignFaults) : SignRequest Unit :=
  { gen := 1, sign := .ok, faults }

def once : Journal :=
  (signBankCryptoAt libraries (request {}) unsigned).2

/-- The bank was signed, and signed again until the signature was to be written. -/
def twice : Journal :=
  (signBankCryptoAt libraries (request { signature := { create := .stops false } }) once).2

theorem libraries_lawful :
  libraries.Lawful
  := by
  constructor
  · intro m bytes encoded
    simp only [libraries] at encoded
    split_ifs at encoded with known
    cases encoded
    rw [known]
    rfl
  · decide

theorem request_lawful (faults : SignFaults) :
  (request faults).Lawful libraries
  := by
  rintro bytes _ ⟨⟩ bytes'
  simp [libraries]

theorem unsigned_starts :
  unsigned.Starts libraries
  := by
  refine ⟨rfl, rfl, fun sig bytes found => ?_⟩
  have missing : (unsigned.bank.read ivdSignatureFile).toOption = none := by decide +kernel
  rw [found] at missing
  cases missing

theorem twice_reached :
  Reachable (Journal.Starts libraries) (Journal.Step libraries) twice
  := by
  have once : Reachable (Journal.Starts libraries) (Journal.Step libraries) once :=
    .step (.init unsigned_starts) (.signs (.bank (request {})) (request_lawful _))
  exact once.step (.signs (.bank (request _)) (request_lawful _))

def thrice : Journal :=
  (signBankCryptoAt libraries (request {}) twice).2

end Bench

/-- A bank is signed twice with the same manifest, and the second time is cut off before the
signature: the bank still opens, with the manifest of the second signing and the signature of the
first. -/
theorem older_signature_accepted :
  ∃ j, Reachable (Journal.Starts libraries) (Journal.Step libraries) j ∧
    verifyBankCrypto libraries j.bank { expectedInstallGen := some 1 } = .ok manifest ∧
    j.log.current.map Signing.number = some 1 ∧ j.log.covered.map Signing.number = some 0
  := by
  exact ⟨twice, twice_reached, Except.ok_of_toOption (by decide +kernel), by decide +kernel,
    by decide +kernel⟩

/-- The bank is signed again after a signing that was cut off, and opens with the manifest of the
last signing, which is accounted for. -/
theorem once_signed_accounts :
  verifyBankCrypto libraries thrice.bank { expectedInstallGen := some 1 } = .ok manifest ∧
    thrice.Accounts manifest ∧ thrice.log.covered.map Signing.number = some 2
  := by
  have spec := signed_bank_opens libraries_lawful twice_reached
  have signs : (signBankCryptoAt libraries (request {}) twice).1 = .ok manifest := by
    decide +kernel
  have opens := spec.1 (request {}) (request_lawful _) manifest thrice
    (Prod.ext signs rfl) none nofun
  have reached := twice_reached.step (.signs (.bank (request {})) (request_lawful _))
  have accounts := ((signed_bank_opens libraries_lawful reached).2.2 _).1 manifest opens
  exact ⟨opens, accounts, by decide +kernel⟩

end Hsm
