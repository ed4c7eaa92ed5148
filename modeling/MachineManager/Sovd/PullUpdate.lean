import MachineManager.Lib.Asking
import MachineManager.Component.Backend
import MachineManager.Sovd.Authz

/-!
# Pulled campaigns

A campaign is a signed manifest whose dependencies are manifests of their own, one for each
component it updates. The device resolves the dependencies, stages every one of them, and only then
finalizes them, one after the other; when a step fails it aborts the sessions that are still open.
The puller, the authorizer and the components are an environment that may answer in any way.

In every run nothing is finalized before all of the campaign is staged, every session that was
opened is either finalized or aborted, and the execution reports as finalized exactly the
dependencies that are (`execute_pull_update_accounts`). If the authorizer is that of the device, no
component is updated that the token has no scope for (`finalized_is_covered`).
-/

open Asking ComponentMgr Sovd.Authz

namespace Sovd

open List

/-- What an envelope says of one of its components. -/
structure SuitEntry where
  componentId : Option (List (List UInt8)) := none
  uri : Option String := none

/-- A decoded envelope: its components, the addresses of its dependencies, the payloads that it
carries itself, and whether the library takes it for a campaign, which it does only if there are
dependencies. -/
structure SuitEnvelope where
  components : List SuitEntry := []
  dependencies : List (Option String) := []
  integrated : List (String × List UInt8) := []
  isCampaign : Bool
  depends : isCampaign = true → dependencies ≠ []

namespace SuitEnvelope

def integratedPayload (m : SuitEnvelope) (uri : String) : Option (List UInt8) :=
  m.integrated.lookup uri

/-- The first segment of the id of an entry. -/
def segment (entry : SuitEntry) : Option (List UInt8) :=
  entry.componentId.bind (·.head?)

def name (entry : SuitEntry) : Option String :=
  (segment entry).bind fun seg => String.fromUTF8? ⟨seg.toArray⟩

end SuitEnvelope

/-- The libraries: the decoder of envelopes, the decoding of text that replaces what is not UTF-8,
and the text of a backend's error. -/
structure SuitLibraries where
  decodeEnvelope : List UInt8 → Except String SuitEnvelope
  fromUtf8Lossy : List UInt8 → String
  backendErrorText : BackendError → String

inductive ManifestError
  | parseError (message : String)
  | componentUnknown (message : String)

def ManifestError.text : ManifestError → String
  | parseError e => s!"manifest parse error: {e}"
  | componentUnknown c => s!"unknown component: {c}"

/-- The entries from number `i` on, where those before name `target`. -/
def targetComponentFrom (i : ℕ) (target : Option String) :
    List SuitEntry → Except ManifestError String
  | [] =>
    match target with
    | some name => .ok name
    | none => .error (.componentUnknown "missing component_id")
  | entry :: entries =>
    match SuitEnvelope.segment entry with
    | none => .error (.componentUnknown "missing component_id")
    | some seg =>
      match String.fromUTF8? ⟨seg.toArray⟩ with
      | none => .error (.componentUnknown s!"component {i}: id segment is not UTF-8")
      | some name =>
        match target with
        | none => targetComponentFrom (i + 1) (some name) entries
        | some first =>
          if first = name then targetComponentFrom (i + 1) (some first) entries
          else .error (.componentUnknown s!"manifest names two components: '{first}' and '{name}'")

def targetComponent (m : SuitEnvelope) : Except ManifestError String :=
  targetComponentFrom 0 none m.components

def peekTargetComponent (lib : SuitLibraries) (bytes : List UInt8) : Except ManifestError String :=
  match lib.decodeEnvelope bytes with
  | .error e => .error (.parseError s!"decode envelope: {e}")
  | .ok m => targetComponent m

def checkTarget (lib : SuitLibraries) (bytes : List UInt8) (expected : String) :
    Except MachineError Unit :=
  match peekTargetComponent lib bytes with
  | .error e => .error (.manifestInvalid ("peek failed: " ++ e.text))
  | .ok actual =>
    if actual = expected then .ok ()
    else .error (.wrongTarget s!"manifest target '{actual}' != expected '{expected}'")

/-- All entries name the component that is found. -/
theorem name_of_targetComponentFrom {i : ℕ} {target : Option String} {entries : List SuitEntry}
    {found : String} (h : targetComponentFrom i target entries = .ok found) :
  (∀ first ∈ target, first = found) ∧ ∀ entry ∈ entries, SuitEnvelope.name entry = some found
  := by
  induction entries generalizing i target with
  | nil =>
    cases target with
    | none => cases h
    | some =>
      cases h
      simp
  | cons entry entries ih =>
    rw [targetComponentFrom] at h
    cases seg : SuitEnvelope.segment entry with
    | none =>
      rw [seg] at h
      cases h
    | some seg =>
      simp only [seg] at h
      rw [forall_mem_cons, SuitEnvelope.name, ‹SuitEnvelope.segment entry = _›, Option.bind_some]
      split at h
      next => cases h
      next name utf8 =>
        rw [utf8]
        split at h
        next =>
          obtain ⟨first, rest⟩ := ih h
          exact ⟨nofun, congrArg some (first name rfl), rest⟩
        next first =>
          split at h
          next same =>
            obtain ⟨own, rest⟩ := ih h
            exact ⟨own, congrArg some (same.symm.trans (own first rfl)), rest⟩
          next => cases h

/-- An envelope that passes the check is for the expected component alone. -/
theorem name_of_checkTarget {lib : SuitLibraries} {bytes : List UInt8} {m : SuitEnvelope}
    {expected : String} (decodes : lib.decodeEnvelope bytes = .ok m)
    (checked : checkTarget lib bytes expected = .ok ()) :
  ∀ entry ∈ m.components, SuitEnvelope.name entry = some expected
  := by
  rw [checkTarget, peekTargetComponent, decodes] at checked
  dsimp only at checked
  split at checked
  next => cases checked
  next actual found =>
    split at checked
    next same => exact same ▸ (name_of_targetComponentFrom found).2
    next => cases checked

/-! ### Content addresses -/

/-- An address within the envelope itself. -/
def isIntegrated (uri : String) : Bool :=
  uri.toList.head? == some '#'

def hexDigit (c : Char) : Option ℕ :=
  if '0' ≤ c ∧ c ≤ '9' then some (c.toNat - '0'.toNat)
  else if 'a' ≤ c ∧ c ≤ 'f' then some (c.toNat - 'a'.toNat + 10)
  else if 'A' ≤ c ∧ c ≤ 'F' then some (c.toNat - 'A'.toNat + 10)
  else none

def decodeHex : List Char → Option (List UInt8)
  | [] => some []
  | [_] => none
  | high :: low :: rest => do
    let h ← hexDigit high
    let l ← hexDigit low
    let bytes ← decodeHex rest
    return UInt8.ofNat (16 * h + l) :: bytes

def decodeHex32 (s : List Char) : Option (List UInt8) :=
  if s.length = 64 then decodeHex s else none

def stripSha256 (s : List Char) : Option (List Char) :=
  if "sha256:".toList.isPrefixOf s then some (s.drop 7) else none

/-- The digest that an address commits to: the scheme `sha256:`, or the last segment of a path. -/
def contentAddressSha256 (uri : String) : Option (List UInt8) :=
  let path := uri.toList.takeWhile fun c => c ≠ '?' ∧ c ≠ '#'
  let candidate := (stripSha256 path).getD (path.reverse.takeWhile (· ≠ '/')).reverse
  decodeHex32 ((stripSha256 candidate).getD candidate)

/-! ### The environment of a campaign -/

structure InstallSource where
  casBaseUrl : String
  trustAnchor : List UInt8
deriving DecidableEq

structure FlashSession where
  id : String
  targetBank : Option String
  maxChunkSize : ℕ
deriving DecidableEq

/-- A manifest as it was fetched, with its digest. -/
structure ValidatedManifest where
  raw : List UInt8
  sha256 : List UInt8
deriving DecidableEq

/-- What a campaign asks the puller, the authorizer, the components and the clock. -/
inductive Request (κ : Type)
  | newPuller (casBaseUrl : String) (trustAnchor : List UInt8)
  | fetchManifest (uri : String)
  | authorize (access : AccessRequest)
  | setInstallSource (comp : κ) (source : InstallSource)
  | startInstall (comp : κ)
  | uploadEnvelope (comp : κ) (session : String) (envelope : List UInt8)
  | finalizeInstall (comp : κ) (session : String)
  | abortInstall (comp : κ) (session : String)
  | now

abbrev Request.Answer {κ : Type} : Request κ → Type
  | newPuller _ _ => Except String Unit
  | fetchManifest _ => Except String ValidatedManifest
  | authorize _ => Except String Unit
  | setInstallSource _ _ => Except MachineError Unit
  | startInstall _ => Except MachineError FlashSession
  | uploadEnvelope _ _ _ => Except MachineError String
  | finalizeInstall _ _ | abortInstall _ _ => Except MachineError Unit
  | now => ℤ

abbrev Pull (κ α : Type) : Type :=
  Asking (Request κ) Request.Answer α

abbrev request {κ : Type} (q : Request κ) : Pull κ q.Answer :=
  question q

abbrev Exchange (κ : Type) : Type :=
  (q : Request κ) × q.Answer

/-- The components of the machine, by name. -/
structure Machine (κ : Type) where
  component : String → Option κ
  id : κ → String

structure PullUpdateRequest where
  component : Option String
  casBaseUrl : String

/-- What a campaign is run with. -/
structure Campaign (κ : Type) where
  lib : SuitLibraries
  machine : Machine κ
  trustAnchor : List UInt8
  bearer : Option String
  req : PullUpdateRequest

def PULL_OP_ID : String := "x-ota-pull-update"

def PULL_OP_PATH : String := "/vehicle/v1/operations/x-ota-pull-update/executions"

/-! ### The campaign -/

variable {κ : Type} {c : Campaign κ} {t staging : List (Exchange κ)}

section Program

variable (c : Campaign κ)

/-- The component that a dependency is for, with the status code and the text of a refusal. -/
def planDep (l2 : List UInt8) : Except (ℕ × String) (String × κ) :=
  match c.lib.decodeEnvelope l2 with
  | .error e => .error (400, s!"dependency is not a SUIT envelope: {e}")
  | .ok manifest =>
    match manifest.components.head?.bind SuitEnvelope.segment with
    | none => .error (400, "dependency carries no component id")
    | some seg =>
      let target := c.lib.fromUtf8Lossy seg
      match c.req.component.filter (· ≠ target) with
      | some want =>
        .error (400, s!"campaign targets component '{target}' but the request asserts '{want}'")
      | none =>
        match c.machine.component target with
        | none => .error (404, s!"no component '{target}'")
        | some comp =>
          match checkTarget c.lib l2 (c.machine.id comp) with
          | .error (.wrongTarget message) => .error (415, message)
          | .error other => .error (400, other.text)
          | .ok () => .ok (target, comp)

/-- A dependency is planned for a component. Its first id begins with the component's name, which is
the one that the request asserts if it asserts any; the component is the machine's own of that name;
and all of its ids name that component. -/
structure PlansDep (l2 : List UInt8) (target : String) (comp : κ)
    (manifest : SuitEnvelope) : Prop where
  decodes : c.lib.decodeEnvelope l2 = .ok manifest
  named : ∃ seg, manifest.components.head?.bind SuitEnvelope.segment = some seg ∧
    target = c.lib.fromUtf8Lossy seg
  asserted : ∀ want ∈ c.req.component, want = target
  found : c.machine.component target = some comp
  addressed : ∀ entry ∈ manifest.components, SuitEnvelope.name entry = some (c.machine.id comp)

/-- A plan that succeeds is for the component that the dependency names. -/
theorem planDep_spec {l2 : List UInt8} {target : String} {comp : κ}
    (planned : planDep c l2 = .ok (target, comp)) :
  ∃ manifest, PlansDep c l2 target comp manifest
  := by
  rw [planDep] at planned
  split at planned
  next => cases planned
  next manifest decodes =>
    split at planned
    next => cases planned
    next seg segment =>
      dsimp only at planned
      split at planned
      next => cases planned
      next unopposed =>
        split at planned
        next => cases planned
        next comp found =>
          split at planned
          next => cases planned
          next => cases planned
          next checked =>
            cases planned
            refine ⟨manifest, decodes, ⟨seg, segment, rfl⟩, ?_, found,
              name_of_checkTarget decodes checked⟩
            intro want asserted
            rw [Option.filter_eq_none_iff] at unopposed
            simpa using unopposed want asserted

/-- Some component of the dependency refers to a payload outside the envelope. -/
def l2NeedsFetch (l2 : List UInt8) : Bool :=
  match c.lib.decodeEnvelope l2 with
  | .error _ => false
  | .ok manifest => manifest.components.any fun entry => entry.uri.any (!isIntegrated ·)

inductive DepPhase
  | staged
  | failed
  | finalized
deriving DecidableEq

/-- The progress of a dependency, as the execution reports it. -/
structure DepStep where
  component : String
  phase : DepPhase
  error : Option String := none
deriving DecidableEq

/-- A dependency with its open session. -/
structure Staged (κ : Type) where
  target : String
  comp : κ
  session : FlashSession

def abortStaged : List (Staged κ) → Pull κ Unit
  | [] => pure ()
  | s :: staged => do
    -- A failed abort is logged and passed over.
    let _ ← request (.abortInstall s.comp s.session.id)
    abortStaged staged

/-- The dependency at `uri`, number `idx` of the campaign. -/
def resolveDependency (l1 : SuitEnvelope) (idx : ℕ) (dependency : Option String) :
    Pull κ (Except BackendError (List UInt8)) :=
  match dependency with
  | none => pure (.error (.invalidRequest s!"campaign dependency {idx} has no uri"))
  | some uri =>
    if isIntegrated uri then
      match l1.integratedPayload uri with
      | none => pure (.error (.invalidRequest
          s!"campaign references integrated dependency {uri} but it is absent"))
      | some l2 => pure (.ok l2)
    else
      match contentAddressSha256 uri with
      | none => pure (.error (.invalidRequest
          s!"campaign dependency uri is not content-addressed: {uri}"))
      | some outer => do
        match ← request (.fetchManifest uri) with
        | .error e => pure (.error (.internal s!"fetch L2 manifest {uri}: {e}"))
        | .ok validated =>
          if validated.sha256 = outer then pure (.ok validated.raw)
          else pure (.error (.invalidRequest
            s!"fetched L2 manifest sha does not match content-address for {uri}"))

/-- The dependencies from number `idx` on. -/
def resolveFrom (l1 : SuitEnvelope) (idx : ℕ) :
    List (Option String) → Pull κ (Except BackendError (List (List UInt8)))
  | [] => pure (.ok [])
  | dependency :: rest => do
    match ← resolveDependency l1 idx dependency with
    | .error e => pure (.error e)
    | .ok l2 =>
      match ← resolveFrom l1 (idx + 1) rest with
      | .error e => pure (.error e)
      | .ok l2s => pure (.ok (l2 :: l2s))

def resolveCampaignDependencies (l1 : SuitEnvelope) :
    Pull κ (Except BackendError (List (List UInt8))) :=
  if l1.isCampaign then resolveFrom l1 0 l1.dependencies
  else pure (.error (.invalidRequest "not a campaign manifest (no dependencies)"))

/-- The access that the token must grant to install into `target`. -/
def access (target : String) : AccessRequest where
  bearer := c.bearer
  method := "POST"
  path := PULL_OP_PATH
  component := some target
  capability := .updateExecute

def installSource : InstallSource where
  casBaseUrl := c.req.casBaseUrl
  trustAnchor := c.trustAnchor

/-- How the staging of one dependency ends. A failed one may leave a session open. -/
inductive StageEnd (κ : Type)
  | staged (dep : Staged κ)
  | failed (left : Option (Staged κ)) (step : DepStep) (message : String)

/-- The failure of dependency `i` for `target`. -/
def failedFor (i : ℕ) (target : String) (left : Option (Staged κ)) (error : String) : StageEnd κ :=
  .failed left { component := target, phase := .failed, error := some error }
    s!"dependency {i} ({target}): {error}"

/-- Open a session and upload the dependency into it. -/
def openAndUpload (i : ℕ) (l2 : List UInt8) (target : String) (comp : κ) : Pull κ (StageEnd κ) := do
  match ← request (.startInstall comp) with
  | .error e => pure (failedFor i target none ("start_install: " ++ e.text))
  | .ok session =>
    match ← request (.uploadEnvelope comp session.id l2) with
    | .error e => pure (failedFor i target (some ⟨target, comp, session⟩) ("upload: " ++ e.text))
    | .ok _ => pure (.staged ⟨target, comp, session⟩)

def stageDep (i : ℕ) (l2 : List UInt8) : Pull κ (StageEnd κ) :=
  match planDep c l2 with
  | .error (_, message) =>
    pure (.failed none { component := s!"dependency-{i}", phase := .failed, error := some message }
      s!"dependency {i}: {message}")
  | .ok (target, comp) => do
    match ← request (.authorize (access c target)) with
    | .error e => pure (failedFor i target none s!"unauthorized: {e}")
    | .ok () =>
      match ← request (.setInstallSource comp (installSource c)) with
      | .ok () => openAndUpload i l2 target comp
      | .error (.notSupported op) =>
        if l2NeedsFetch c l2 then
          pure (failedFor i target none ("set_install_source: " ++
            (MachineError.notSupported op).text))
        else openAndUpload i l2 target comp
      | .error e => pure (failedFor i target none ("set_install_source: " ++ e.text))

/-- Stage the dependencies from number `i` on, where `staged` are staged already. -/
def stageAll (i : ℕ) : List (List UInt8) → List DepStep → List (Staged κ) →
    Pull κ (List DepStep × Except String (List (Staged κ)))
  | [], steps, staged => pure (steps, .ok staged)
  | l2 :: l2s, steps, staged => do
    match ← stageDep c i l2 with
    | .failed left step message =>
      abortStaged (staged ++ left.toList)
      pure (steps ++ [step], .error message)
    | .staged dep =>
      stageAll (i + 1) l2s (steps ++ [{ component := dep.target, phase := .staged }])
        (staged ++ [dep])

/-- Finalize the staged dependencies from number `i` on. -/
def finalizeAll (i : ℕ) : List (Staged κ) → List DepStep →
    Pull κ (List DepStep × Except String Unit)
  | [], steps => pure (steps, .ok ())
  | s :: staged, steps => do
    match ← request (.finalizeInstall s.comp s.session.id) with
    | .error e =>
      abortStaged (s :: staged)
      pure (steps.modify i ({ · with phase := .failed, error := some ("finalize: " ++ e.text) }),
        .error (s!"finalize {s.target}: " ++ e.text))
    | .ok () => finalizeAll (i + 1) staged (steps.modify i ({ · with phase := .finalized }))

/-- Resolve, stage all, finalize all. The progress comes with the outcome. -/
def runCampaign (l1Bytes : List UInt8) : Pull κ (List DepStep × Except String ℕ) :=
  match c.lib.decodeEnvelope l1Bytes with
  | .error e => pure ([], .error s!"L1 decode: {e}")
  | .ok l1 => do
    match ← request (.newPuller c.req.casBaseUrl c.trustAnchor) with
    | .error e => pure ([], .error s!"puller init: {e}")
    | .ok () =>
      match ← resolveCampaignDependencies l1 with
      | .error e => pure ([], .error ("dependency resolution: " ++ c.lib.backendErrorText e))
      | .ok l2s =>
        match ← stageAll c 0 l2s [] [] with
        | (steps, .error e) => pure (steps, .error e)
        | (steps, .ok staged) =>
          match ← finalizeAll 0 staged steps with
          | (steps, .error e) => pure (steps, .error e)
          | (steps, .ok ()) => pure (steps, .ok staged.length)

inductive OperationStatus
  | running
  | completed
  | failed
deriving DecidableEq

/-- What an execution reports of its campaign. -/
structure CampaignReport where
  dependenciesInstalled : Option ℕ := none
  components : List DepStep
deriving DecidableEq

structure OperationExecution where
  executionId : String
  operationId : String
  status : OperationStatus
  result : Option CampaignReport
  error : Option String
  startedAt : ℤ
  completedAt : Option ℤ
deriving DecidableEq

/-- Run the campaign and report how it ended. -/
def executePullUpdate (l1Bytes : List UInt8) (executionId : String) (startedAt : ℤ) :
    Pull κ OperationExecution := do
  let (steps, outcome) ← runCampaign c l1Bytes
  let completedAt ← request .now
  match outcome with
  | .ok installed =>
    pure
      { executionId, operationId := PULL_OP_ID, status := .completed
        result := some { dependenciesInstalled := some installed, components := steps }
        error := none, startedAt, completedAt := some completedAt }
  | .error error =>
    pure
      { executionId, operationId := PULL_OP_ID, status := .failed
        result := some { components := steps }
        error := some error, startedAt, completedAt := some completedAt }

end Program

/-! ### What was exchanged -/

section Exchanges

/-- A session: the component it was opened on, and its id there. -/
def Staged.key (dep : Staged κ) : κ × String :=
  (dep.comp, dep.session.id)

def Exchange.opens : Exchange κ → Option (κ × String)
  | ⟨.startInstall comp, .ok session⟩ => some (comp, session.id)
  | _ => none

def Exchange.finalizes : Exchange κ → Option (κ × String)
  | ⟨.finalizeInstall comp session, .ok ()⟩ => some (comp, session)
  | _ => none

def Exchange.aborts : Exchange κ → Option (κ × String)
  | ⟨.abortInstall comp session, _⟩ => some (comp, session)
  | _ => none

/-- The sessions that were opened, in order. -/
def opened (t : List (Exchange κ)) : List (κ × String) :=
  t.filterMap Exchange.opens

/-- The sessions that were finalized successfully, in order. -/
def finalized (t : List (Exchange κ)) : List (κ × String) :=
  t.filterMap Exchange.finalizes

/-- The sessions on which an abort was called, in order. -/
def aborted (t : List (Exchange κ)) : List (κ × String) :=
  t.filterMap Exchange.aborts

def Exchange.callsFinalize : Exchange κ → Option (κ × String)
  | ⟨.finalizeInstall comp session, _⟩ => some (comp, session)
  | _ => none

/-- The sessions on which finalize was called, in order, whatever the answer. -/
def finalizing (t : List (Exchange κ)) : List (κ × String) :=
  t.filterMap Exchange.callsFinalize

@[simp] theorem opened_append (t u : List (Exchange κ)) :
  opened (t ++ u) = opened t ++ opened u
  := filterMap_append

@[simp] theorem finalized_append (t u : List (Exchange κ)) :
  finalized (t ++ u) = finalized t ++ finalized u
  := filterMap_append

@[simp] theorem finalizing_append (t u : List (Exchange κ)) :
  finalizing (t ++ u) = finalizing t ++ finalizing u
  := filterMap_append

@[simp] theorem aborted_append (t u : List (Exchange κ)) :
  aborted (t ++ u) = aborted t ++ aborted u
  := filterMap_append

/-- Where finalize was not called, nothing was finalized. -/
theorem finalized_of_finalizing (h : finalizing t = []) :
  finalized t = []
  := by
  rw [finalized, filterMap_eq_nil_iff]
  intro e mem
  have quiet := filterMap_eq_nil_iff.mp h e mem
  unfold Exchange.finalizes
  split
  · cases quiet
  · rfl

/-- The exchanges neither open nor close a session. -/
structure Idle (t : List (Exchange κ)) : Prop where
  opened : opened t = []
  finalizing : finalizing t = []
  aborted : aborted t = []

/-- No exchange, no session. -/
theorem Idle.nil :
  Idle ([] : List (Exchange κ))
  := ⟨rfl, rfl, rfl⟩

theorem Idle.append {u : List (Exchange κ)} (first : Idle t) (rest : Idle u) :
  Idle (t ++ u)
  := by
  constructor
  · rw [opened_append, first.opened, rest.opened, append_nil]
  · rw [finalizing_append, first.finalizing, rest.finalizing, append_nil]
  · rw [aborted_append, first.aborted, rest.aborted, append_nil]

/-- One dependency of a campaign is resolved: it is part of the campaign, or it was fetched and has
the digest that its address commits to. -/
def ResolvesDep (l1 : SuitEnvelope) (dependency : Option String) (l2 : List UInt8)
    (t : List (Exchange κ)) : Prop :=
  ∃ uri, dependency = some uri ∧
    if isIntegrated uri then l1.integratedPayload uri = some l2 ∧ t = []
    else ∃ digest, contentAddressSha256 uri = some digest ∧
      t = [⟨.fetchManifest uri, .ok { raw := l2, sha256 := digest }⟩]

/-- One dependency is staged: it is planned for a component, the token grants access to just that
component, and it was uploaded into a session that was opened there. -/
def StagesDep (c : Campaign κ) (l2 : List UInt8) (dep : Staged κ) (t : List (Exchange κ)) : Prop :=
  (∃ manifest, PlansDep c l2 dep.target dep.comp manifest) ∧ ∃ sourceAnswer packageId, t =
      [⟨.authorize (access c dep.target), .ok ()⟩,
        ⟨.setInstallSource dep.comp (installSource c), sourceAnswer⟩,
        ⟨.startInstall dep.comp, .ok dep.session⟩,
        ⟨.uploadEnvelope dep.comp dep.session.id l2, .ok packageId⟩]

/-- What the exchanges for one dependency are, by how its staging ends. -/
def StageReport (c : Campaign κ) (l2 : List UInt8) (t : List (Exchange κ)) : StageEnd κ → Prop
  | .staged dep => StagesDep c l2 dep t
  | .failed left step _ =>
    opened t = left.toList.map Staged.key ∧ finalizing t = [] ∧ aborted t = [] ∧
    step.phase ≠ .finalized

/-- Every dependency of the campaign is resolved and then staged, each in a round of its own. -/
def StagesCampaign (c : Campaign κ) (l1 : SuitEnvelope) (deps : List (Staged κ))
    (t : List (Exchange κ)) : Prop :=
  ∃ l2s resolving staging,
    Rounds (ResolvesDep l1) l1.dependencies l2s resolving ∧ Rounds (StagesDep c) l2s deps staging ∧
      t = ⟨.newPuller c.req.casBaseUrl c.trustAnchor, .ok ()⟩ :: (resolving ++ staging)

end Exchanges

/-! ### The steps of a campaign -/

section Steps

variable {l2s : List (List UInt8)} {deps : List (Staged κ)}
  {l2 : List UInt8} (staged : List (Staged κ)) (l1 : SuitEnvelope)

/-- A dependency that is staged has one session opened for it. -/
theorem StagesDep.sessions {dep : Staged κ} (h : StagesDep c l2 dep t) :
  opened t = [dep.key] ∧ finalizing t = [] ∧ aborted t = []
  := by
  obtain ⟨-, _, _, rfl⟩ := h
  exact ⟨rfl, rfl, rfl⟩

/-- Dependencies that are staged have one session opened for each. -/
theorem sessions_of_rounds (h : Rounds (StagesDep c) l2s deps t) :
  opened t = deps.map Staged.key ∧ finalizing t = [] ∧ aborted t = []
  := by
  induction h with
  | nil => exact ⟨rfl, rfl, rfl⟩
  | cons first _ ih =>
    obtain ⟨opens, calls, aborts⟩ := first.sessions
    simp [opens, calls, aborts, ih]

/-- Aborting calls abort once on each session, and does nothing else. -/
theorem abortStaged_always :
  Always (fun t _ => aborted t = staged.map Staged.key ∧ opened t = [] ∧ finalizing t = [])
    (abortStaged staged)
  := by
  induction staged with
  | nil => apply always_pure ⟨rfl, rfl, rfl⟩
  | cons s _ ih =>
    apply always_question
    intro answer
    apply ih.mono
    rintro t - ⟨aborts, opens, calls⟩
    exact ⟨congrArg (s.key :: ·) aborts, opens, calls⟩

/-- A dependency is resolved, or nothing is exchanged that concerns a session. -/
theorem resolveDependency_always (idx : ℕ) (dependency : Option String) :
  Always (fun (t : List (Exchange κ)) r =>
      Idle t ∧ ∀ l2, r = .ok l2 → ResolvesDep l1 dependency l2 t)
    (resolveDependency l1 idx dependency)
  := by
  cases dependency with
  | none => apply always_pure ⟨Idle.nil, nofun⟩
  | some uri =>
    simp only [resolveDependency]
    by_cases within : isIntegrated uri
    · rw [if_pos within]
      cases payload : l1.integratedPayload uri with
      | none => apply always_pure ⟨Idle.nil, nofun⟩
      | some =>
        refine always_pure ⟨Idle.nil, ?_⟩
        rintro _ ⟨⟩
        use uri, rfl
        rw [if_pos within]
        use payload
    · rw [if_neg within]
      cases address : contentAddressSha256 uri with
      | none => apply always_pure ⟨Idle.nil, nofun⟩
      | some outer =>
        apply always_question
        intro answer
        cases answer with
        | error => apply always_pure ⟨⟨rfl, rfl, rfl⟩, nofun⟩
        | ok validated =>
          by_cases matching : validated.sha256 = outer
          · subst matching
            simp only [if_true]
            refine always_pure ⟨⟨rfl, rfl, rfl⟩, ?_⟩
            rintro _ ⟨⟩
            use uri, rfl
            rw [if_neg within]
            use validated.sha256, address
          · simp only [if_neg matching]
            apply always_pure ⟨⟨rfl, rfl, rfl⟩, nofun⟩

/-- The dependencies are resolved round by round. -/
theorem resolveFrom_always (idx : ℕ) (dependencies : List (Option String)) :
  Always (fun (t : List (Exchange κ)) r =>
      Idle t ∧ ∀ l2s, r = .ok l2s → Rounds (ResolvesDep l1) dependencies l2s t)
    (resolveFrom l1 idx dependencies)
  := by
  induction dependencies generalizing idx with
  | nil =>
    refine always_pure ⟨Idle.nil, ?_⟩
    rintro _ ⟨⟩
    apply Rounds.nil
  | cons dependency _ ih =>
    apply always_bind (resolveDependency_always l1 idx dependency)
    rintro t (e | l2) ⟨idle, resolves⟩
    · apply always_pure
      rw [append_nil]
      use idle
      nofun
    · apply always_bind (ih (idx + 1))
      rintro u (e | l2s) ⟨idle', rounds⟩
      · apply always_pure
        rw [append_nil]
        use idle.append idle'
        nofun
      · apply always_pure
        rw [append_nil]
        use idle.append idle'
        rintro _ ⟨⟩
        apply Rounds.cons (resolves l2 rfl) (rounds l2s rfl)

/-- Opening a session and uploading into it, after the dependency was planned and authorized. -/
theorem openAndUpload_always {i : ℕ} {target : String} {comp : κ}
    (planned : ∃ manifest, PlansDep c l2 target comp manifest)
    (sourceAnswer : (Request.setInstallSource comp (installSource c)).Answer) :
  Always (fun t r => StageReport c l2 (⟨.authorize (access c target), .ok ()⟩ ::
        ⟨.setInstallSource comp (installSource c), sourceAnswer⟩ :: t) r)
    (openAndUpload i l2 target comp)
  := by
  apply always_question
  intro answer
  cases answer with
  | error => apply always_pure ⟨rfl, rfl, rfl, nofun⟩
  | ok =>
    apply always_question
    intro answer
    cases answer with
    | error => apply always_pure ⟨rfl, rfl, rfl, nofun⟩
    | ok packageId =>
      apply always_pure
      use planned, sourceAnswer, packageId

/-- A dependency is staged, or at most one session is left open for it. -/
theorem stageDep_always (i : ℕ) (l2 : List UInt8) :
  Always (StageReport c l2) (stageDep c i l2)
  := by
  unfold stageDep
  cases planned : planDep c l2 with
  | error => apply always_pure ⟨rfl, rfl, rfl, nofun⟩
  | ok plan =>
    obtain ⟨_, _⟩ := plan
    apply always_question
    intro answer
    cases answer with
    | error => apply always_pure ⟨rfl, rfl, rfl, nofun⟩
    | ok =>
      apply always_question
      intro answer
      have uploading := openAndUpload_always (i := i) (planDep_spec c planned) answer
      cases answer with
      | ok => apply uploading
      | error e =>
        cases e with
        | notSupported =>
          by_cases fetches : l2NeedsFetch c l2
          · simp only [fetches, if_true]
            apply always_pure ⟨rfl, rfl, rfl, nofun⟩
          · simp only [fetches]
            apply uploading
        | _ => apply always_pure ⟨rfl, rfl, rfl, nofun⟩

/-- How a dependency is reported when it is staged. -/
def stagedStep (dep : Staged κ) : DepStep :=
  { component := dep.target, phase := .staged }

/-- How a dependency is reported when it is finalized. -/
def finalizedStep (dep : Staged κ) : DepStep :=
  { component := dep.target, phase := .finalized }

/-- Either all dependencies are staged, or no finalize is called and all sessions are aborted. -/
theorem stageAll_always (i : ℕ) (l2s : List (List UInt8)) (steps : List DepStep)
    (staged : List (Staged κ)) :
  Always (fun t r =>
      (∀ deps, r.2 = .ok deps → ∃ new, deps = staged ++ new ∧
        r.1 = steps ++ new.map stagedStep ∧ Rounds (StagesDep c) l2s new t) ∧
      (∀ e, r.2 = .error e → finalizing t = [] ∧ aborted t = staged.map Staged.key ++ opened t ∧
        ∃ more, r.1 = steps ++ more ∧ ∀ step ∈ more, step.phase ≠ .finalized))
    (stageAll c i l2s steps staged)
  := by
  induction l2s generalizing i steps staged with
  | nil =>
    refine always_pure ⟨?_, nofun⟩
    rintro _ ⟨⟩
    use []
    simp [Rounds.nil]
  | cons l2 _ ih =>
    apply always_bind (stageDep_always i l2)
    rintro t (dep | ⟨left, step, message⟩) report
    · apply (ih (i + 1) (steps ++ [stagedStep dep]) (staged ++ [dep])).mono
      rintro u ⟨steps', outcome⟩ ⟨succeeds, fails⟩
      obtain ⟨opens, calls, aborts⟩ := report.sessions
      constructor
      · intro deps ok
        obtain ⟨new, rfl, steps_eq, rounds⟩ := succeeds deps ok
        use dep :: new
        simp only [append_assoc, singleton_append] at steps_eq ⊢
        use trivial, steps_eq
        apply Rounds.cons report rounds
      · intro e error
        obtain ⟨quiet, abortions, more, steps_eq, unfinished⟩ := fails e error
        refine ⟨by simp [calls, quiet], by simp [aborts, opens, abortions], ?_⟩
        use stagedStep dep :: more
        simp only [append_assoc, singleton_append] at steps_eq
        use steps_eq
        rintro step (_ | ⟨_, later⟩)
        · nofun
        · apply unfinished step later
    · obtain ⟨opens, calls, aborts, unfinished⟩ := report
      apply always_bind (abortStaged_always (staged ++ left.toList))
      rintro u - ⟨abortions, opens', calls'⟩
      apply always_pure
      refine ⟨nofun, ?_⟩
      rintro _ ⟨⟩
      refine ⟨by simp [calls, calls'], by simp [aborts, abortions, opens, opens'], ?_⟩
      use [step], rfl
      simpa using unfinished

/-- The step of the first dependency that is not yet dealt with. -/
theorem modify_length_append (front rest : List DepStep) (step : DepStep) (f : DepStep → DepStep) :
  (front ++ step :: rest).modify front.length f = front ++ f step :: rest
  := by
  induction front with
  | nil => rfl
  | cons _ _ ih => simp [ih]

/-- The first dependencies are finalized, the others are aborted, and each is reported so. -/
theorem finalizeAll_always (front : List DepStep) :
  Always (fun t r => ∃ k ≤ staged.length, finalized t = (staged.take k).map Staged.key ∧
      aborted t = (staged.drop k).map Staged.key ∧ opened t = [] ∧
      (r.2 = .ok () ↔ k = staged.length) ∧
      ∃ more, r.1 = front ++ (staged.take k).map finalizedStep ++ more ∧
        ∀ step ∈ more, step.phase ≠ .finalized)
    (finalizeAll front.length staged (front ++ staged.map stagedStep))
  := by
  induction staged generalizing front with
  | nil =>
    apply always_pure
    refine ⟨0, le_refl 0, rfl, rfl, rfl, by simp, [], ?_⟩
    simp
  | cons s staged ih =>
    apply always_question
    intro answer
    cases answer with
    | error =>
      apply always_bind (abortStaged_always (s :: staged))
      rintro t - ⟨aborts, opens, calls⟩
      apply always_pure
      refine ⟨0, Nat.zero_le _, ?_, ?_, ?_, by simp, ?_⟩
      · have unfinished := finalized_of_finalizing calls
        rw [append_nil]
        exact unfinished
      · rw [append_nil]
        exact aborts
      · rw [append_nil]
        exact opens
      · rw [map_cons, modify_length_append, take_zero, map_nil, append_nil]
        refine ⟨_, rfl, ?_⟩
        rintro step (_ | ⟨_, later⟩)
        · nofun
        · obtain ⟨_, -, rfl⟩ := mem_map.mp later
          nofun
    | ok =>
      have rest := ih (front ++ [finalizedStep s])
      simp only [map_cons, modify_length_append]
      simp only [length_append, length_singleton, append_assoc, singleton_append] at rest
      apply rest.mono
      rintro t r ⟨k, bound, finalizes, aborts, opens, succeeds, more, steps_eq, unfinished⟩
      refine ⟨k + 1, by simpa using bound, ?_, ?_, ?_, by simpa using succeeds, more,
        ?_, unfinished⟩
      · exact congrArg (s.key :: ·) finalizes
      · exact aborts
      · exact opens
      · simpa using steps_eq

/-- How a campaign runs: it fails before it applies anything, with all its sessions aborted, or it
is staged as a whole, and then its first `k` dependencies are finalized and the others aborted. -/
inductive Runs (c : Campaign κ) (l1Bytes : List UInt8) :
    List (Exchange κ) → List DepStep → Except String ℕ → Prop
  | unapplied {t : List (Exchange κ)} {steps : List DepStep} {e : String}
      (uncalled : finalizing t = []) (closed : aborted t = opened t)
      (unfinished : ∀ step ∈ steps, step.phase ≠ .finalized) : Runs c l1Bytes t steps (.error e)
  | applied {l1 : SuitEnvelope} {deps : List (Staged κ)} {staging later : List (Exchange κ)}
      {more : List DepStep} {outcome : Except String ℕ} {k : ℕ}
      (decodes : c.lib.decodeEnvelope l1Bytes = .ok l1) (campaign : l1.isCampaign)
      (stages : StagesCampaign c l1 deps staging) (bound : k ≤ deps.length)
      (finalizes : finalized later = (deps.take k).map Staged.key)
      (aborts : aborted later = (deps.drop k).map Staged.key) (opens : opened later = [])
      (succeeds : (∃ installed, outcome = .ok installed) ↔ k = deps.length)
      (unfinished : ∀ step ∈ more, step.phase ≠ .finalized) :
      Runs c l1Bytes (staging ++ later) ((deps.take k).map finalizedStep ++ more) outcome

/-- Every run of a campaign is of one of these kinds. -/
theorem runCampaign_always (l1Bytes : List UInt8) :
  Always (fun t r => Runs c l1Bytes t r.1 r.2) (runCampaign c l1Bytes)
  := by
  unfold runCampaign
  cases decodes : c.lib.decodeEnvelope l1Bytes with
  | error => apply always_pure (Runs.unapplied rfl rfl (forall_mem_nil _))
  | ok l1 =>
    apply always_question
    intro answer
    cases answer with
    | error => apply always_pure (Runs.unapplied rfl rfl (forall_mem_nil _))
    | ok =>
      unfold resolveCampaignDependencies
      by_cases campaign : l1.isCampaign
      · simp only [campaign, if_true]
        apply always_bind (resolveFrom_always l1 0 l1.dependencies)
        rintro resolving (e | l2s) ⟨idle, resolves⟩
        · refine always_pure (Runs.unapplied ?_ ?_ (forall_mem_nil _))
          · rw [append_nil]
            exact idle.finalizing
          · rw [append_nil]
            exact idle.aborted.trans idle.opened.symm
        · have front :
              Idle (⟨.newPuller c.req.casBaseUrl c.trustAnchor, .ok ()⟩ :: resolving) :=
            ⟨idle.opened, idle.finalizing, idle.aborted⟩
          apply always_bind (stageAll_always 0 l2s [] [])
          rintro staging ⟨steps, e | deps⟩ ⟨succeeds, fails⟩
          · obtain ⟨uncalled, aborts, _, rfl, unfinished⟩ := fails e rfl
            refine always_pure (Runs.unapplied ?_ ?_ unfinished)
            · rw [append_nil, ← cons_append, finalizing_append, front.finalizing,
                uncalled, append_nil]
            · rw [append_nil, ← cons_append, aborted_append, opened_append, front.aborted,
                front.opened, aborts, map_nil, nil_append]
          · obtain ⟨deps, rfl, rfl, stages⟩ := succeeds deps rfl
            apply always_bind (finalizeAll_always deps [])
            rintro later ⟨steps, outcome⟩
              ⟨k, bound, finalizes, aborts, opens, succeeds, more, rfl, unfinished⟩
            have stages_all : StagesCampaign c l1 deps _ :=
              ⟨l2s, resolving, staging, resolves l2s rfl, stages, rfl⟩
            have reaches {ended : Except String ℕ}
                (h : (∃ installed, ended = .ok installed) ↔ k = deps.length) :=
              Runs.applied decodes campaign stages_all bound finalizes aborts opens h unfinished
            simp only [append_assoc, cons_append] at reaches
            cases outcome with
            | error | ok =>
              apply always_pure
              rw [append_nil]
              apply reaches
              simpa using succeeds
      · simp only [campaign]
        apply always_pure (Runs.unapplied rfl rfl (forall_mem_nil _))

end Steps

/-! ### Whole runs -/

section Runs

variable {l1 : SuitEnvelope} {deps : List (Staged κ)}
  {l1Bytes : List UInt8} {outcome : Except String ℕ} {later : List (Exchange κ)}

/-- Resolving a dependency concerns no session. -/
theorem ResolvesDep.idle {dependency : Option String} {l2 : List UInt8}
    (h : ResolvesDep l1 dependency l2 t) :
  Idle t
  := by
  obtain ⟨_, -, h⟩ := h
  split at h
  · rw [h.2]
    exact Idle.nil
  · obtain ⟨_, -, rfl⟩ := h
    exact ⟨rfl, rfl, rfl⟩

/-- Resolving the dependencies concerns no session. -/
theorem idle_of_rounds {dependencies : List (Option String)} {l2s : List (List UInt8)}
    (h : Rounds (ResolvesDep l1) dependencies l2s t) :
  Idle t
  := by
  induction h with
  | nil => exact Idle.nil
  | cons first _ ih => apply first.idle.append ih

/-- Staging a campaign opens one session for each of its dependencies, and calls no finalize. -/
theorem StagesCampaign.sessions (h : StagesCampaign c l1 deps t) :
  opened t = deps.map Staged.key ∧ finalizing t = [] ∧ aborted t = [] ∧
  deps.length = l1.dependencies.length
  := by
  obtain ⟨_, resolving, _, resolves, stages, rfl⟩ := h
  have front : Idle (⟨.newPuller c.req.casBaseUrl c.trustAnchor, .ok ()⟩ :: resolving) := by
    have idle := idle_of_rounds resolves
    exact ⟨idle.opened, idle.finalizing, idle.aborted⟩
  obtain ⟨opens, calls, aborts⟩ := sessions_of_rounds stages
  rw [← cons_append, opened_append, finalizing_append, aborted_append, front.opened,
    front.finalizing, front.aborted, opens, calls, aborts]
  exact ⟨rfl, rfl, rfl, stages.length_eq.trans resolves.length_eq⟩

/-- A call that is not among the first exchanges comes after all of them. -/
theorem exists_later_of_finalizing {first before after : List (Exchange κ)} {comp : κ}
    {session : String} {answer : (Request.finalizeInstall comp session).Answer}
    (quiet : finalizing first = [])
    (split : first ++ later = before ++ ⟨.finalizeInstall comp session, answer⟩ :: after) :
  ∃ between, before = first ++ between
  := by
  rcases append_eq_append_iff.mp split with ⟨between, _, -⟩ | ⟨rest, first_eq, call_eq⟩
  · use between
  · cases rest with
    | nil =>
      use []
      rw [first_eq, append_nil, append_nil]
    | cons =>
      rw [cons_append, cons.injEq] at call_eq
      rw [first_eq, finalizing_append, ← call_eq.1] at quiet
      have called := (append_eq_nil_iff.mp quiet).2
      cases called

/-- The account of an execution. `deps` are the dependencies with their sessions, in the order of
the campaign. -/
structure Accounted (c : Campaign κ) (l1Bytes : List UInt8) (deps : List (Staged κ))
    (t : List (Exchange κ)) (steps : List DepStep) : Prop where
  staged_first : ∀ before comp session answer after,
    t = before ++ ⟨.finalizeInstall comp session, answer⟩ :: after →
      ∃ l1 staging between, c.lib.decodeEnvelope l1Bytes = .ok l1 ∧
        StagesCampaign c l1 deps staging ∧ before = staging ++ between
  closed : opened t = finalized t ++ aborted t
  in_order : finalized t <+: deps.map Staged.key
  reported : steps.take (finalized t).length = (deps.take (finalized t).length).map finalizedStep
  unreported : ∀ step ∈ steps.drop (finalized t).length, step.phase ≠ .finalized

/-- A campaign that applies nothing is accounted for. -/
theorem accounted_of_unapplied {steps : List DepStep}
    (uncalled : finalizing t = []) (closed : aborted t = opened t)
    (unfinished : ∀ step ∈ steps, step.phase ≠ .finalized) :
  Accounted c l1Bytes [] t steps
  := by
  have none := finalized_of_finalizing uncalled
  constructor
  case staged_first =>
    rintro before comp session answer after rfl
    rw [finalizing_append] at uncalled
    have called := (append_eq_nil_iff.mp uncalled).2
    cases called
  case closed => rw [none, closed, nil_append]
  case in_order =>
    rw [none]
    apply nil_prefix
  case reported =>
    rw [none]
    rfl
  case unreported =>
    rw [none]
    exact unfinished

/-- A campaign that is staged, and of which the first `k` dependencies are then finalized and the
others aborted, is accounted for. -/
theorem accounted_of_applied {more : List DepStep} {k : ℕ}
    (decodes : c.lib.decodeEnvelope l1Bytes = .ok l1)
    (stages : StagesCampaign c l1 deps staging) (bound : k ≤ deps.length)
    (finalizes : finalized later = (deps.take k).map Staged.key)
    (aborts : aborted later = (deps.drop k).map Staged.key) (opens : opened later = [])
    (unfinished : ∀ step ∈ more, step.phase ≠ .finalized) :
  Accounted c l1Bytes deps (staging ++ later) ((deps.take k).map finalizedStep ++ more) ∧
    (finalized (staging ++ later)).length = k
  := by
  obtain ⟨opens', calls', aborts', -⟩ := stages.sessions
  have finalized_eq : finalized (staging ++ later) = (deps.take k).map Staged.key := by
    rw [finalized_append, finalized_of_finalizing calls', finalizes, nil_append]
  have count : (finalized (staging ++ later)).length = k := by
    rw [finalized_eq, length_map, length_take, min_eq_left bound]
  have steps_length : ((deps.take k).map finalizedStep).length = k := by
    rw [length_map, length_take, min_eq_left bound]
  refine ⟨?_, count⟩
  constructor
  case staged_first =>
    intro before comp session answer after split
    obtain ⟨between, _⟩ := exists_later_of_finalizing calls' split
    use l1, staging, between
  case closed =>
    rw [finalized_eq, opened_append, aborted_append, opens', opens, aborts', aborts,
      append_nil, nil_append, ← map_append, take_append_drop]
  case in_order =>
    rw [finalized_eq]
    apply IsPrefix.map
    apply take_prefix
  case reported => rw [count, take_left' steps_length]
  case unreported =>
    rw [count, drop_left' steps_length]
    exact unfinished

/-- The progress that an execution reports. -/
def OperationExecution.steps (execution : OperationExecution) : List DepStep :=
  (execution.result.map (·.components)).getD []

/-- Reading the clock changes nothing in how a campaign ran. -/
theorem Runs.now {steps : List DepStep} (h : Runs c l1Bytes t steps outcome) (time : ℤ) :
  Runs c l1Bytes (t ++ [⟨.now, time⟩]) steps outcome
  := by
  cases h with
  | unapplied uncalled closed unfinished =>
    apply Runs.unapplied _ _ unfinished
    · rw [finalizing_append, uncalled]
      rfl
    · rw [aborted_append, opened_append, closed]
      rfl
  | applied decodes campaign stages bound finalizes aborts opens succeeds unfinished =>
    rw [append_assoc]
    apply Runs.applied decodes campaign stages bound _ _ _ succeeds unfinished
    · rw [finalized_append, finalizes]
      apply append_nil
    · rw [aborted_append, aborts]
      apply append_nil
    · rw [opened_append, opens]
      rfl

/-- Every run of a campaign is accounted for, and it succeeds exactly if as many dependencies are
finalized as the campaign has. -/
theorem Runs.accounted {steps : List DepStep} (h : Runs c l1Bytes t steps outcome) :
  ∃ deps, Accounted c l1Bytes deps t steps ∧ ((∃ installed, outcome = .ok installed) ↔
      ∃ l1, c.lib.decodeEnvelope l1Bytes = .ok l1 ∧ l1.isCampaign ∧
        (finalized t).length = l1.dependencies.length)
  := by
  cases h with
  | unapplied uncalled closed unfinished =>
    use [], accounted_of_unapplied uncalled closed unfinished
    constructor
    · nofun
    · rintro ⟨l1, -, campaign, count⟩
      rw [finalized_of_finalizing uncalled] at count
      apply absurd (eq_nil_of_length_eq_zero count.symm) (l1.depends campaign)
  | applied decodes campaign stages bound finalizes aborts opens succeeds unfinished =>
    obtain ⟨accounted, count⟩ :=
      accounted_of_applied decodes stages bound finalizes aborts opens unfinished
    refine ⟨_, accounted, succeeds.trans ?_⟩
    obtain ⟨-, -, -, length_eq⟩ := stages.sessions
    rw [count, length_eq]
    constructor
    · intro whole
      exact ⟨_, decodes, campaign, whole⟩
    · rintro ⟨l1', decodes', -, whole⟩
      rw [decodes, Except.ok.injEq] at decodes'
      rw [whole, decodes']

/-- The task accounts for its campaign, whatever is answered. -/
theorem executePullUpdate_always (executionId : String) (startedAt : ℤ) :
  Always (fun t execution => ∃ deps, Accounted c l1Bytes deps t execution.steps ∧
      (execution.status = .completed ↔ ∃ l1, c.lib.decodeEnvelope l1Bytes = .ok l1 ∧ l1.isCampaign ∧
          (finalized t).length = l1.dependencies.length))
    (executePullUpdate c l1Bytes executionId startedAt)
  := by
  apply always_bind (runCampaign_always l1Bytes)
  rintro t ⟨steps, outcome⟩ runs
  apply always_question
  intro time
  obtain ⟨deps, accounted, succeeds⟩ := (runs.now time).accounted
  cases outcome with
  | error | ok =>
    apply always_pure
    use deps, accounted
    rw [← succeeds]
    simp

/-- In every run of a pulled campaign, whatever is answered: finalize is called on no component
before every dependency was resolved, planned, authorized for its own component and uploaded; the
sessions opened are, one by one and in order, those finalized successfully followed by those on
which abort was called; the dependencies finalized are the first ones of the campaign, and they are
those reported as finalized; and the execution is completed exactly if they are all of them. -/
theorem execute_pull_update_accounts {σ : Type} (c : Campaign κ) (l1Bytes : List UInt8)
    (executionId : String) (startedAt : ℤ) (env : Environment (Request κ) Request.Answer σ)
    (s : σ) :
  let t := transcript env (executePullUpdate c l1Bytes executionId startedAt) s
  let execution := (run env (executePullUpdate c l1Bytes executionId startedAt) s).result
  ∃ deps, Accounted c l1Bytes deps t execution.steps ∧ (execution.status = .completed ↔
      ∃ l1, c.lib.decodeEnvelope l1Bytes = .ok l1 ∧ l1.isCampaign ∧
        (finalized t).length = l1.dependencies.length)
  := (executePullUpdate_always executionId startedAt).transcript env s

/-- All that the dependencies of a campaign are staged with was exchanged before one is
finalized. -/
theorem Accounted.staged {steps : List DepStep} (accounted : Accounted c l1Bytes deps t steps)
    {key : κ × String} (mem : key ∈ finalized t) :
  ∃ l2 dep u, Staged.key dep = key ∧ StagesDep c l2 dep u ∧ u ⊆ t
  := by
  obtain ⟨dep, listed, own⟩ := mem_map.mp (accounted.in_order.subset mem)
  obtain ⟨e, called, finalizes⟩ := mem_filterMap.mp mem
  unfold Exchange.finalizes at finalizes
  split at finalizes
  next =>
    obtain ⟨before, after, split⟩ := append_of_mem called
    obtain ⟨_, _, between, -, ⟨_, _, _, -, rounds, rfl⟩, rfl⟩ :=
      accounted.staged_first _ _ _ _ _ split
    obtain ⟨l2, u, stages, sub⟩ := rounds.round_of_mem listed
    refine ⟨l2, dep, u, own, stages, ?_⟩
    intro e inside
    rw [split]
    simp [sub inside]
  next => cases finalizes

/-- Whatever the environment authorizes was authorized by the device, at some readings of its
clock. -/
def AuthorizedBy {σ η : Type} (a : TieredAuthorizer η) (lib : Authz.Libraries η)
    (env : Environment (Request κ) Request.Answer σ) : Prop :=
  ∀ access s, (env (.authorize access) s).1 = .ok () →
    ∃ clock f g ctx, a.authorize lib clock access f = (.ok ctx, g)

/-- No component is updated by a campaign whose token has no scope for it. -/
theorem finalized_is_covered {σ η : Type} {a : TieredAuthorizer η} {lib : Authz.Libraries η}
    {env : Environment (Request κ) Request.Answer σ} (authorized : AuthorizedBy a lib env)
    (executionId : String) (startedAt : ℤ) (s : σ) :
  ∀ key ∈ finalized (transcript env (executePullUpdate c l1Bytes executionId startedAt) s),
    ∃ target ctx, c.machine.component target = some key.1 ∧ Covers lib ctx (access c target)
  := by
  intro key mem
  obtain ⟨_, accounted, -⟩ := (executePullUpdate_always executionId startedAt).transcript env s
  obtain ⟨l2, dep, u, rfl, ⟨⟨_, planned⟩, _, _, rfl⟩, sub⟩ := accounted.staged mem
  obtain ⟨_, granted⟩ := answered_of_mem_transcript (sub mem_cons_self)
  obtain ⟨_, _, _, ctx, accepted⟩ := authorized _ _ granted
  refine ⟨dep.target, ctx, planned.found, authorize_covers ⟨?_, ?_⟩ accepted⟩ <;> nofun

end Runs

end Sovd
