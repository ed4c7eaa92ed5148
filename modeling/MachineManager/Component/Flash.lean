import MachineManager.Component.Backend
import Mathlib.Data.Finset.Basic

/-!
# The update of a component

An update is staged in a session: the manifest settles what the target bank holds, the payloads
follow in any order, and the bank is sealed once every part of the manifest is there. The update is
then finalized, which installs its package and activates the bank. A package may also come as one
envelope, outside of a session.

Other calls are served during an upload, which is cut here where they can come in: while its stream
is read, before it changes the session, and before it seals the bank. What is under way is kept
under a number. An upload may end at each of these points, with an error or because its client went
away.
-/

namespace ComponentMgr

open Call Nv Selector SystemBank

/-- What a manifest says of one of its components. -/
structure SuitComponent (δ : Type) where
  componentId : Option (List String) := none
  imageDigest : Option δ := none
  uri : Option String := none
deriving DecidableEq

/-- A manifest that was found valid. An integrated one comes with its payloads. What it installs is
a package, unless it is no firmware. -/
structure Manifest (δ : Type) where
  components : List (SuitComponent δ)
  integrated : Bool := false
  disableTarget : Bool := false
  package : Option Package := none

/-- The entry of which the record of a disabled component is made. -/
def DISABLED_RECORD_PATH : String := ".admin-disabled"

/-- The name of a part on the medium is the last segment of its id; one name is refused. -/
def payloadTargetNameForId (componentId : Option (List String)) : Option String :=
  let name := (componentId.bind (·.getLast?)).getD "firmware"
  if name = DISABLED_RECORD_PATH then none else some name

def reservedName : BackendError :=
  .invalidRequest (("manifest part name '" ++ DISABLED_RECORD_PATH) ++
    "' is reserved for the device's administrative-disable record")

namespace Manifest

variable {δ : Type} (m : Manifest δ)

def imageDigest (i : ℕ) : Option δ :=
  m.components[i]?.bind (·.imageDigest)

def partName (i : ℕ) : Option String :=
  payloadTargetNameForId (m.components[i]?.bind (·.componentId))

/-- The components that owe a payload. -/
def parts : List ℕ :=
  (List.range m.components.length).filter fun i => (m.imageDigest i).isSome

def absentParts (present : Finset ℕ) : List ℕ :=
  m.parts.filter fun i => i ∉ present

/-- The part that the client names: by its uri, or by its name on the medium. -/
def resolvePart (part : String) : Option ℕ :=
  m.parts.find? fun i => m.components[i]?.bind (·.uri) = some part ∨
    m.partName i = some (part.dropPrefix "#").copy

def addressed (part : Option String) : Option ℕ :=
  (part.filter (· ≠ "manifest")).bind m.resolvePart

end Manifest

/-! ### Banks -/

/-- How a bank is written to. -/
inductive Touch
  | wipe
  | prune
  | stagedCommit
  | payload
  | sign
deriving DecidableEq

/-- A bank, with what is staged beside it: its parts, the staging files by the uploads they belong
to, the record of the parts that were verified, and whether there is a signature. -/
structure BankArea (β δ : Type) where
  files : BTreeMap β := ∅
  staging : Finset ℕ := ∅
  record : Option (List (String × δ)) := none
  signed : Bool := false

namespace BankArea

variable {β δ : Type} (a : BankArea β δ)

def verifyPayload [DecidableEq δ] (hash : β → δ) (name : String) (digest : δ) : Bool :=
  a.files[name]?.map hash = some digest

/-- The bank without what is not kept. The parts of a bank that cannot stage are devices, which
stay. -/
def prune (stages singleBank : Bool) (keep : List String) : BankArea β δ :=
  { a with
    files := if stages then a.files.filter fun name _ => name ∈ keep else a.files
    staging := ∅
    signed := singleBank && a.signed }

def commitStaged (u : ℕ) (name : String) (content : β) : BankArea β δ :=
  { a with files := a.files.insert name content, staging := a.staging.erase u }

def recordStagedPart (name : String) (digest : δ) : BankArea β δ :=
  { a with record := some ((a.record.getD []).filter (·.1 ≠ name) ++ [(name, digest)]) }

def sign (hash : β → δ) (names : List String) : BankArea β δ :=
  { a with
    signed := true
    staging := ∅
    record := a.record.map fun _ => names.filterMap fun name =>
      a.files[name]?.map fun content => (name, hash content) }

end BankArea

/-! ### What a component keeps of an update -/

inductive FlashSessionState (δ : Type)
  | awaitingManifest
  | awaitingPayload (manifest : Manifest δ) (present : Finset ℕ)
  | complete

/-- A payload upload, with what it has read of the session: the part that it streams as is the one
that it is addressed to, or else the next one. -/
structure PayloadJob (δ : Type) where
  manifest : Manifest δ
  absent : List ℕ
  addressed : Option ℕ
  next : ℕ
  target : Bank

/-- How far a call has come that is under way. -/
inductive Upload (δ : Type)
  | manifest
  | settled (manifest : Manifest δ) (target : Bank) (kept : List (ℕ × String))
  | payload (job : PayloadJob δ)
  | landed (job : PayloadJob δ) (index : ℕ)
  | sealing (target : Bank)
  | legacy (target : Bank)
  | reconciling (manifest : Manifest δ) (target : Bank) (absent : List ℕ) (done : List String)

def Upload.target {δ : Type} : Upload δ → Option Bank
  | manifest => none
  | settled _ target _ => some target
  | payload job | landed job _ => some job.target
  | sealing target | legacy target | reconciling _ target _ _ => some target

/-- The session, the package and the files of the transfer, the calls under way and the banks. The
last manifest that a session was given stays known as `current`, which no call reads. -/
structure Flash (β δ : Type) where
  session : Option (FlashSessionState δ) := none
  package : Option Package := none
  streamedFiles : List String := []
  uploads : ℕ → Option (Upload δ) := fun _ => none
  nextId : ℕ := 0
  area : Bank → BankArea β δ
  current : Option (Manifest δ) := none

namespace Flash

variable {β δ : Type} (f : Flash β δ)

def setUpload (u : ℕ) (upload : Option (Upload δ)) : Flash β δ :=
  { f with uploads := fun v => if v = u then upload else f.uploads v }

def setArea (bank : Bank) (area : BankArea β δ) : Flash β δ :=
  { f with area := fun bank' => if bank' = bank then area else f.area bank' }

def started : Flash β δ :=
  { f with session := some .awaitingManifest, package := none, streamedFiles := [] }

def cleared : Flash β δ :=
  { f with session := none, package := none, streamedFiles := [] }

end Flash

/-- What a call of an update reaches: what the component reaches, its update, and how the call has
written to the banks so far. -/
structure Desk (σ β δ : Type) where
  here : Local σ
  flash : Flash β δ
  touched : List (Bank × Touch) := []

/-- What the calls of an update meet besides: why the coordinator of the node refuses a new session
if it does, whether the security module has its signing key, and the error of disabling the
component if that fails. -/
structure FlashWorld (σ : Type) extends World σ where
  gate : Option String := none
  provisioned : Bool := true
  disableError : Option BackendError := none

/-- A backend whose banks are directories, or else devices for which nothing can be staged. -/
structure FlashBackend extends ComponentBackend where
  stages : Bool := true

def IvdBankProvider.targetBank {σ : Type} (p : IvdBankProvider) (x : Shared σ) : Bank :=
  if p.singleBank then .A else (p.fallbackTargetActive x).other

namespace FlashBackend

variable {σ β δ ε α : Type} (b : FlashBackend)

def onHere (c : Call (Local σ) ε α) : Call (Desk σ β δ) ε α :=
  zoom Desk.here (fun here d => { d with here }) c

def updateFlash (update : Flash β δ → Flash β δ) : Call (Desk σ β δ) ε Unit :=
  modify fun d => { d with flash := update d.flash }

def updateTransfer (state : FlashState) : Call (Desk σ β δ) ε Unit :=
  modify fun d => { d with here := { d.here with memory := { d.here.memory with
    flashTransfer := d.here.memory.flashTransfer.map fun _ => state } } }

def touch (bank : Bank) (how : Touch) (update : BankArea β δ → BankArea β δ) :
    Call (Desk σ β δ) ε Unit :=
  modify fun d => { d with
    flash := d.flash.setArea bank (update (d.flash.area bank))
    touched := d.touched ++ [(bank, how)] }

/-! ### Sessions -/

def ensureFlashCanStart (w : FlashWorld σ) : Call (Desk σ β δ) BackendError Unit := do
  let d ← get
  if !b.singleBank ∧ b.provider.inTrial d.here.shared then
    fail (.busy (s!"bank set BankSet({b.provider.bankSet.asIndex}) is in trial mode (active=" ++
      bankName (b.provider.activeBank d.here.shared) ++ ", uncommitted) — " ++
      "commit or rollback the pending upgrade before starting a new one"))
  else
    match w.gate with
    | some refusal => fail (.busy refusal)
    | none => pure ()

def determineTargetBank : Call (Desk σ β δ) BackendError Bank := do
  let d ← get
  if b.provider.pendingReboot d.here.shared then
    fail (.invalidRequest
      ("a reboot is pending (boot selector disagrees with the running bank — " ++
      "e.g. after a rollback); reboot the ECU before starting a new update"))
  else return b.provider.targetBank d.here.shared

def openTransfer : Call (Desk σ β δ) ε Unit :=
  modify fun d => { d with here := { d.here with memory := { d.here.memory with
    flashTransfer := some .transferring } } }

def startFlash (w : FlashWorld σ) : Call (Desk σ β δ) BackendError Unit := do
  b.ensureFlashCanStart w
  let _ ← b.determineTargetBank
  updateFlash Flash.started
  openTransfer

/-- What the component keeps of a session is dropped; what the bank holds stays. -/
def abortSession (w : FlashWorld σ) : Call (Desk σ β δ) BackendError Unit := do
  updateFlash Flash.cleared
  modify fun d => { d with here := { d.here with memory := { d.here.memory with
    flashTransfer := none, uploadPhase := false } } }
  onHere (b.resolveNodeTransaction w.toWorld)

/-- The bank was activated already. -/
def flashIsFinalized (memory : Memory) : Bool :=
  memory.flashTransfer.any fun s =>
    s = .awaitingReboot ∨ s = .activated ∨ s = .committed ∨ s = .rolledBack

def abortFlash (w : FlashWorld σ) : Call (Desk σ β δ) BackendError Unit := do
  let d ← get
  if flashIsFinalized d.here.memory then
    fail (.invalidRequest "cannot abort: install already finalized")
  else b.abortSession w

/-! ### Seals -/

variable [DecidableEq δ] (hash : β → δ)

def declaredBankParts (d : Desk σ β δ) : List String :=
  if d.here.memory.flashTransfer.isSome then d.flash.streamedFiles else []

/-- A file that is not in the target bank is copied from the active one. -/
def seedFile (w : FlashWorld σ) (active target : Bank) (name : String) :
    Call (Desk σ β δ) BackendError Unit := do
  let d ← get
  if ((d.flash.area target).files[name]?).isSome then return ()
  else
    let content ← ofOption ((d.flash.area active).files[name]?)
      (.internal ("bank operation failed: bank seed: " ++ w.env.ioError))
    touch target .payload fun a => { a with files := a.files.insert name content }

def seedMissingFiles (w : FlashWorld σ) (active target : Bank) :
    List String → Call (Desk σ β δ) BackendError Unit
  | [] => pure ()
  | name :: rest => do
    seedFile w active target name
    seedMissingFiles w active target rest

/-- Files that the transfer declares and that were not shipped are taken over from the active
bank. -/
def seedTargetFromActive (w : FlashWorld σ) (target : Bank) : Call
    (Desk σ β δ) BackendError Unit := do
  let d ← get
  let active := b.provider.fallbackTargetActive d.here.shared
  if b.singleBank ∨ active = target then return ()
  else seedMissingFiles w active target (declaredBankParts d)

/-- A bank of directories is completed and signed as it is; an empty one is not signed. -/
def sealFiles (w : FlashWorld σ) (target : Bank) : Call (Desk σ β δ) BackendError Unit := do
  b.seedTargetFromActive w target
  let d ← get
  if !(d.flash.area target).files.isEmpty ∧ w.provisioned then
    touch target .sign fun a => a.sign hash a.files.keys
  else return ()

/-- A bank of devices is signed over the parts of the transfer. -/
def sealDevices (w : FlashWorld σ) (target : Bank) : Call (Desk σ β δ) BackendError Unit := do
  let d ← get
  if declaredBankParts d = [] then
    fail (.internal
      ("bank operation failed: partition bank seal: the install declared no parts — " ++
      "nothing to attest"))
  else if (declaredBankParts d).all fun name => ((d.flash.area target).files[name]?).isSome then
    if w.provisioned then touch target .sign fun a => a.sign hash (declaredBankParts d).dedup
    else return ()
  else fail (.internal "bank operation failed: partition bank seal")

def ivdSignStagedBank (w : FlashWorld σ) (target : Bank) : Call (Desk σ β δ) BackendError Unit :=
  if b.stages then b.sealFiles hash w target else sealDevices hash w target

/-! ### The manifest -/

/-- The parts of the record that are parts of the manifest, and that still have the digest. -/
def keptParts (m : Manifest δ) (parts : List ℕ) (area : BankArea β δ) : List (ℕ × String) :=
  (area.record.getD []).foldl (fun kept staged =>
    match parts.find? fun i => (∀ k ∈ kept, k.1 ≠ i) ∧ m.partName i = some staged.1 ∧
      m.imageDigest i = some staged.2 with
    | some i => if area.verifyPayload hash staged.1 staged.2 then kept ++ [(i, staged.1)] else kept
    | none => kept) []

/-- The record that stands after the manifest has settled the bank. -/
def settledRecord (m : Manifest δ) (parts : List ℕ) (kept : List (ℕ × String)) :
    Option (List (String × δ)) :=
  if parts = [] then none
  else some (kept.filterMap fun k => (m.imageDigest k.1).map fun digest => (k.2, digest))

/-- Settle the bank against the manifest: what can be verified is kept, the rest goes. -/
def reconcileStaging (target : Bank) (m : Manifest δ) (parts : List ℕ) :
    Call (Desk σ β δ) BackendError (List (ℕ × String)) := do
  let d ← get
  let kept := keptParts hash m parts (d.flash.area target)
  touch target .prune fun a => { a.prune b.stages b.singleBank (kept.map (·.2)) with
    record := settledRecord m parts kept }
  return kept

def settleManifest (u : ℕ) (m : Manifest δ) : Call (Desk σ β δ) BackendError Unit := do
  let d ← get
  match d.flash.uploads u with
  | some .manifest =>
    updateFlash (·.setUpload u none)
    let target ← b.determineTargetBank
    let kept ← b.reconcileStaging hash target m (if m.integrated then [] else m.parts)
    updateFlash (·.setUpload u (some (.settled m target kept)))
  | _ => return ()

def takePackage (m : Manifest δ) (streamed : List String → List String) : Call
    (Desk σ β δ) ε Unit :=
  modify fun d =>
    if d.here.memory.flashTransfer.isSome then
      { d with flash := { d.flash with
        package := m.package, streamedFiles := streamed d.flash.streamedFiles } }
    else d

/-- The session is complete, and the bank is about to be sealed. -/
def completeSession (u : ℕ) (target : Bank) : Call (Desk σ β δ) ε Unit := do
  updateFlash fun f => { f.setUpload u (some (.sealing target)) with session := some .complete }
  updateTransfer .awaitingActivation

/-- The session takes the manifest over. An integrated one is complete, and so is one all of whose
parts were kept. -/
def openSession (u : ℕ) : Call (Desk σ β δ) BackendError Unit := do
  let d ← get
  match d.flash.uploads u with
  | some (.settled m target kept) =>
    updateFlash fun f => { f with current := some m }
    if m.integrated then
      takePackage m id
      completeSession u target
    else
      takePackage m fun _ => kept.map (·.2)
      if m.parts ≠ [] ∧ m.absentParts (kept.map (·.1)).toFinset = [] then completeSession u target
      else
        updateFlash fun f => { f.setUpload u none with
          session := some (.awaitingPayload m (kept.map (·.1)).toFinset) }
        if m.parts = [] then updateTransfer .awaitingActivation else return ()
  | _ => return ()

/-! ### Payloads -/

def register (upload : Upload δ) : Call (Desk σ β δ) ε Unit :=
  updateFlash fun f => { f.setUpload f.nextId (some upload) with nextId := f.nextId + 1 }

def openStagingWriter (target : Bank) : Call (Desk σ β δ) ε Unit :=
  updateFlash fun f => f.setArea target
    { f.area target with staging := insert f.nextId (f.area target).staging }

/-- Open what the payload is streamed to: a staging file, or the part itself. -/
def openSink (job : PayloadJob δ) : Call (Desk σ β δ) BackendError Unit :=
  if b.stages then do
    openStagingWriter job.target
    register (.payload job)
  else do
    let _ ← ofOption (job.manifest.partName job.next) reservedName
    register (.payload job)

/-- A payload in a session. A part that the bank holds already is read and dropped. -/
def beginPayload (m : Manifest δ) (present : Finset ℕ) (addressed : Option ℕ) :
    Call (Desk σ β δ) BackendError Unit := do
  let target ← b.determineTargetBank
  if addressed.any (· ∈ present) then return ()
  else
    let next ← ofOption (addressed.or (m.absentParts present).head?)
      (.invalidRequest "every part of the manifest is already staged")
    b.openSink { manifest := m, absent := m.absentParts present, addressed, next, target }

/-- An envelope outside of a session. -/
def beginLegacy (w : FlashWorld σ) : Call (Desk σ β δ) BackendError Unit := do
  b.ensureFlashCanStart w
  let target ← b.determineTargetBank
  touch target .wipe fun a => a.prune b.stages b.singleBank []
  updateFlash fun f => { f with package := none, streamedFiles := [] }
  openTransfer
  modify fun d =>
    { d with here := { d.here with memory := { d.here.memory with uploadPhase := true } } }
  register (.legacy target)

/-- An upload begins: of the manifest or of a payload if the session awaits one, and otherwise of an
envelope. -/
def receivePackagePart (w : FlashWorld σ) (part : Option String) : Call
    (Desk σ β δ) BackendError Unit := do
  let d ← get
  match d.flash.session with
  | some .awaitingManifest => register .manifest
  | some (.awaitingPayload m present) => b.beginPayload m present (m.addressed part)
  | _ => b.beginLegacy w

/-- Bytes of a payload come in. They go to the part itself if nothing can be staged, and so do those
of an envelope and of a part that is fetched. -/
def writePart (u : ℕ) (name : String) (content : β) : Call (Desk σ β δ) BackendError Unit := do
  let d ← get
  match d.flash.uploads u with
  | some (.payload job) =>
    if b.stages then return ()
    else
      let name ← ofOption (job.manifest.partName job.next) reservedName
      touch job.target .payload fun a => { a with files := a.files.insert name content }
  | some (.legacy target) => touch target .payload fun a =>
      { a with files := a.files.insert name content }
  | some (.reconciling _ target _ _) =>
    touch target .payload fun a => { a with files := a.files.insert name content }
  | _ => return ()

def pushStreamed (names : List String) : Call (Desk σ β δ) ε Unit :=
  modify fun d =>
    if d.here.memory.flashTransfer.isSome then
      { d with flash := { d.flash with streamedFiles := d.flash.streamedFiles ++ names } }
    else d

def notePart (u : ℕ) (job : PayloadJob δ) (i : ℕ) (name : String) (digest : δ) :
    Call (Desk σ β δ) ε Unit := do
  updateFlash fun f => f.setArea job.target ((f.area job.target).recordStagedPart name digest)
  pushStreamed [name]
  updateFlash (·.setUpload u (some (.landed job i)))

def discardStaged (u : ℕ) (target : Bank) : Call (Desk σ β δ) ε Unit :=
  updateFlash fun f => f.setArea target
    { f.area target with staging := (f.area target).staging.erase u }

/-- A staged payload is the part that it is addressed to, and has its digest, or else it is the part
that has its digest. -/
def stagedIndex (job : PayloadJob δ) (digest : δ) : Option ℕ :=
  match job.addressed with
  | some i => if job.manifest.imageDigest i = some digest then some i else none
  | none => job.absent.find? fun i => job.manifest.imageDigest i = some digest

def refuseStaged (job : PayloadJob δ) (digest : δ) : Call (Desk σ β δ) BackendError Unit :=
  if job.addressed.isSome then fail (.internal "payload processing failed")
  else if job.manifest.parts.any fun i => job.manifest.imageDigest i = some digest then return ()
  else fail (.internal "payload matches no component of the manifest")

/-- The staging file becomes a part of the bank, unless it was removed in the meantime. -/
def landStaged (w : FlashWorld σ) (u : ℕ) (job : PayloadJob δ) (i : ℕ) (content : β) :
    Call (Desk σ β δ) BackendError Unit := do
  let name ← ofOption (job.manifest.partName i) reservedName
  let d ← get
  if u ∈ (d.flash.area job.target).staging then
    touch job.target .stagedCommit fun a => a.commitStaged u name content
    notePart u job i name (hash content)
  else fail (.internal ("commit staged " ++ name ++ ": bank operation failed: " ++ w.env.ioError))

def landDirect (u : ℕ) (job : PayloadJob δ) (content : β) : Call
    (Desk σ β δ) BackendError Unit := do
  let name ← ofOption (job.manifest.partName job.next) reservedName
  let d ← get
  if job.manifest.imageDigest job.next ≠ some (hash content) then
    fail (.internal "payload processing failed")
  else if (d.flash.area job.target).verifyPayload hash name (hash content) then
    notePart u job job.next name (hash content)
  else fail (.invalidRequest ("staging verify " ++ name))

/-- The stream of a payload was read to its end; `content` is what it has brought. -/
def landPart (w : FlashWorld σ) (u : ℕ) (content : β) : Call (Desk σ β δ) BackendError Unit := do
  let d ← get
  match d.flash.uploads u with
  | some (.payload job) =>
    updateFlash (·.setUpload u none)
    if b.stages then
      match stagedIndex job (hash content) with
      | some i => landStaged hash w u job i content
      | none =>
        discardStaged u job.target
        refuseStaged job (hash content)
    else landDirect hash u job content
  | _ => return ()

def enterPart (u : ℕ) : Call (Desk σ β δ) BackendError Unit := do
  let d ← get
  match d.flash.uploads u with
  | some (.landed job i) =>
    match d.flash.session with
    | some (.awaitingPayload m present) =>
      if m.absentParts (insert i present) = [] then completeSession u job.target
      else updateFlash fun f => { f.setUpload u none with
        session := some (.awaitingPayload m (insert i present)) }
    | _ => updateFlash (·.setUpload u none)
  | _ => return ()

/-- The bank is sealed by the upload that has completed the session. -/
def sealUpload (w : FlashWorld σ) (u : ℕ) : Call (Desk σ β δ) BackendError Unit := do
  let d ← get
  match d.flash.uploads u with
  | some (.sealing target) =>
    updateFlash (·.setUpload u none)
    b.ivdSignStagedBank hash w target
  | _ => return ()

/-- An envelope was read to its end. -/
def endLegacy (u : ℕ) (valid : Bool) : Call (Desk σ β δ) BackendError Unit := do
  let d ← get
  match d.flash.uploads u with
  | some (.legacy _) =>
    updateFlash (·.setUpload u none)
    modify fun d =>
      { d with here := { d.here with memory := { d.here.memory with uploadPhase := false } } }
    updateTransfer (if valid then .preparing else .failed)
  | _ => return ()

/-- A call ends early: with an error, or because its client went away. -/
def dropUpload (u : ℕ) : Call (Desk σ β δ) BackendError Unit :=
  updateFlash (·.setUpload u none)

/-! ### The end of the update -/

variable (κ : Signing) (crc : List UInt8 → UInt32)

/-- Install the package of the transfer and activate the bank. -/
def applyUpdate (w : FlashWorld σ) : Call (Desk σ β δ) BackendError Unit := do
  let d ← get
  onHere (b.installAndActivate κ crc w.toWorld
    (d.here.memory.flashTransfer.bind fun _ => d.flash.package))

def enactDisable (w : FlashWorld σ) : Call (Desk σ β δ) BackendError Unit :=
  match w.disableError with
  | some e => fail e
  | none => do
    updateFlash fun f => { f with session := some .complete }
    updateTransfer .activated

/-- Parts that were not sent are copied from the active bank or fetched first. -/
def finalizeFlash (w : FlashWorld σ) : Call (Desk σ β δ) BackendError Unit := do
  let d ← get
  match d.flash.session with
  | some (.awaitingPayload m present) =>
    if m.disableTarget then enactDisable w
    else if b.provider.imagesDir ∧ m.absentParts present ≠ [] then
      let target ← b.determineTargetBank
      register (.reconciling m target (m.absentParts present) [])
    else b.applyUpdate κ crc w
  | _ => b.applyUpdate κ crc w

/-- The next part that was not sent is written; if it has not the digest, the call fails and the
file is removed. -/
def reconcilePart (u : ℕ) (content : β) : Call (Desk σ β δ) BackendError Unit := do
  let d ← get
  match d.flash.uploads u with
  | some (.reconciling m target (i :: rest) done) =>
    updateFlash (·.setUpload u none)
    let name ← ofOption (m.partName i) reservedName
    if m.imageDigest i = some (hash content) then
      touch target .payload fun a => { a with files := a.files.insert name content }
      updateFlash (·.setUpload u (some (.reconciling m target rest (done ++ [name]))))
    else
      touch target .payload fun a => { a with files := a.files.erase name }
      fail (.internal "reconcile refused")
  | _ => return ()

/-- Every part is there: the bank is sealed, and the update goes on as if the parts were sent. -/
def endReconcile (w : FlashWorld σ) (u : ℕ) : Call (Desk σ β δ) BackendError Unit := do
  let d ← get
  match d.flash.uploads u with
  | some (.reconciling _ target [] done) =>
    updateFlash (·.setUpload u none)
    pushStreamed done
    b.ivdSignStagedBank hash w target
    updateFlash fun f => { f with session := some .complete }
    updateTransfer .awaitingActivation
    b.applyUpdate κ crc w
  | _ => return ()

/-- A rollback wipes the bank of the trial, which is the target bank again. -/
def rollbackFlash (w : FlashWorld σ) : Call (Desk σ β δ) BackendError Unit := do
  if !b.supportsRollback then
    fail (.invalidRequest "rollback not supported for this component")
  else
    onHere (ComponentBackend.onProvider (b.provider.rollback w.env))
    let d ← get
    touch (b.provider.targetBank d.here.shared) .wipe fun a => a.prune b.stages b.singleBank []
    onHere (b.resolveNodeTransaction w.toWorld)
    onHere ComponentBackend.clearTransfer

/-! ### What stays when a bank is sealed -/

section Sealed

variable {σ β δ ε : Type} {hash : β → δ} {b : FlashBackend} {w : FlashWorld σ} {target : Bank}
  {P : Desk σ β δ → Prop} {d : Desk σ β δ}

theorem pushStreamed_keeps {names : List String}
    (streamed : ∀ d files, P d → P { d with flash := { d.flash with streamedFiles := files } })
    (h : P d) :
  Yields (pushStreamed names : Call (Desk σ β δ) ε Unit) d fun _ => P
  := by
  show P (if _ then _ else _)
  split
  · apply streamed d _ h
  · apply h

/-- Only files that are missing are written. -/
theorem seedMissingFiles_keeps
    (seeded : ∀ d name content, (d.flash.area target).files[name]? = none → P d → P { d with
      flash := d.flash.setArea target
        { d.flash.area target with files := (d.flash.area target).files.insert name content }
      touched := d.touched ++ [(target, .payload)] })
    {active : Bank} {names : List String} (h : P d) :
  Yields (seedMissingFiles w active target names) d fun _ => P
  := by
  induction names generalizing d with
  | nil => apply h
  | cons name _ ih =>
    refine yields_bind (Q := fun _ => P) (yields_get_bind ?_) (fun _ _ => ih)
      (fun _ _ => id) fun _ => id
    split
    · apply h
    next missing =>
      refine yields_ofOption_bind (fun content _ => ?_) fun _ => h
      apply seeded d name content (Option.not_isSome_iff_eq_none.mp missing) h

variable (touched : ∀ d how area, P d → P { d with
  flash := d.flash.setArea target area, touched := d.touched ++ [(target, how)] })

include touched

/-- The seal of a bank does nothing but write to it. -/
theorem ivdSignStagedBank_keeps (h : P d) :
  Yields (b.ivdSignStagedBank hash w target) d fun _ => P
  := by
  rw [ivdSignStagedBank]
  split
  · refine yields_bind (Q := fun _ => P) (yields_get_bind ?_)
      (fun _ d' seeded => yields_get_bind ?_) (fun _ _ => id) fun _ => id
    · dsimp only
      split
      · apply h
      · exact seedMissingFiles_keeps (fun d _ _ _ => touched d _ _) h
    · split
      · apply touched d' _ _ seeded
      · apply seeded
  · refine yields_get_bind ?_
    split
    · apply h
    · split
      · split
        · apply touched d _ _ h
        · apply h
      · apply h

end Sealed

end FlashBackend

/-! ### Any of the calls -/

/-- A call of an update, or what a call under way does next. -/
inductive FlashOp (β δ : Type)
  | startFlash
  | abortSession
  | abortFlash
  | receivePackagePart (part : Option String)
  | settleManifest (u : ℕ) (manifest : Manifest δ)
  | openSession (u : ℕ)
  | writePart (u : ℕ) (name : String) (content : β)
  | landPart (u : ℕ) (content : β)
  | enterPart (u : ℕ)
  | sealUpload (u : ℕ)
  | endLegacy (u : ℕ) (valid : Bool)
  | dropUpload (u : ℕ)
  | finalizeFlash
  | reconcilePart (u : ℕ) (content : β)
  | endReconcile (u : ℕ)

def FlashOp.run {σ β δ : Type} [DecidableEq δ] (κ : Signing) (crc : List UInt8 → UInt32)
    (hash : β → δ)
    (w : FlashWorld σ) (b : FlashBackend) : FlashOp β δ → Call (Desk σ β δ) BackendError Unit
  | startFlash => b.startFlash w
  | abortSession => b.abortSession w
  | abortFlash => b.abortFlash w
  | receivePackagePart part => b.receivePackagePart w part
  | settleManifest u manifest => b.settleManifest hash u manifest
  | openSession u => FlashBackend.openSession u
  | writePart u name content => b.writePart u name content
  | landPart u content => b.landPart hash w u content
  | enterPart u => FlashBackend.enterPart u
  | sealUpload u => b.sealUpload hash w u
  | endLegacy u valid => FlashBackend.endLegacy u valid
  | dropUpload u => FlashBackend.dropUpload u
  | finalizeFlash => b.finalizeFlash κ crc w
  | reconcilePart u content => FlashBackend.reconcilePart hash u content
  | endReconcile u => b.endReconcile hash κ crc w u

end ComponentMgr
