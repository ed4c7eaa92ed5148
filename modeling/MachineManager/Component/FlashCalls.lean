import MachineManager.Component.Flash
import MachineManager.Component.Trials

/-!
# What the calls of an update leave

A call of an update that does not apply it leaves the component as it is, up to the state of the
transfer and the record of the reboots that are owed. What it makes of the update, and which banks
it writes to, is said here once for all of the calls (`FlashOp.outcome`).
-/

namespace ComponentMgr

open Call Nv Selector SystemBank FlashBackend

section Outcomes

variable {σ β δ : Type}

/-- The component is as before, up to the state of the transfer and the reboots that are owed. -/
structure Local.Tends (l l' : Local σ) : Prop where
  runningBank : l'.memory.runningBank = l.memory.runningBank
  running : l'.shared.running = l.shared.running
  nv : l'.shared.nv = l.shared.nv ∨ ∃ session, l'.shared.nv = l.shared.nv.putUpdateSession session

theorem Local.Tends.refl (l : Local σ) :
  l.Tends l
  := ⟨rfl, rfl, .inl rfl⟩

def Flash.registered (f : Flash β δ) (upload : Upload δ) : Flash β δ :=
  { f.setUpload f.nextId (some upload) with nextId := f.nextId + 1 }

theorem Flash.setUpload_setUpload (f : Flash β δ) (u : ℕ) (upload upload' : Option (Upload δ)) :
  (f.setUpload u upload).setUpload u upload' = f.setUpload u upload'
  := by
  simp only [setUpload]
  congr 1
  funext v
  split <;> rfl

theorem Flash.setArea_area {f : Flash β δ} {bank : Bank} {area : BankArea β δ} :
  (f.setArea bank area).area bank = area
  := if_pos rfl

/-- The part that a payload streams as is owed. -/
theorem Manifest.next_absent {m : Manifest δ} {present : Finset ℕ} {part : Option String} {i : ℕ}
    (absent : ¬(m.addressed part).any (· ∈ present))
    (next : (m.addressed part).or (m.absentParts present).head? = some i) :
  i ∈ m.absentParts present
  := by
  rcases Option.or_eq_some_iff.mp next with named | ⟨-, first⟩
  · rw [named, Option.any_some, decide_eq_true_eq] at absent
    obtain ⟨_, -, resolved⟩ := Option.bind_eq_some_iff.mp named
    exact List.mem_filter.mpr ⟨List.mem_of_find?_eq_some resolved, decide_eq_true absent⟩
  · exact List.mem_of_mem_head? first

/-- The call applies the update: nothing is to be reconciled and the component is not to be
disabled, or everything was reconciled. -/
inductive FlashOp.Applies (b : FlashBackend) (d : Desk σ β δ) : FlashOp β δ → Prop
  | finalizeFlash (complete : ∀ m present, d.flash.session = some (.awaitingPayload m present) →
      m.disableTarget = false ∧ (b.provider.imagesDir = false ∨ m.absentParts present = [])) :
    FlashOp.Applies b d .finalizeFlash
  | endReconcile {u : ℕ} {m : Manifest δ} {target : Bank} {done : List String}
      (reconciled : d.flash.uploads u = some (.reconciling m target [] done)) :
    FlashOp.Applies b d (.endReconcile u)

/-- The bank is the one that an update is written to, and no reboot is pending. -/
structure FlashBackend.Aims (b : FlashBackend) (d : Desk σ β δ) (target : Bank) : Prop where
  settled : b.provider.pendingReboot d.here.shared = false
  target : b.provider.targetBank d.here.shared = target

def FlashBackend.Untried (b : FlashBackend) (d : Desk σ β δ) : Prop :=
  b.singleBank = false → b.provider.inTrial d.here.shared = false

variable [DecidableEq δ] (b : FlashBackend) (hash : β → δ) (d : Desk σ β δ)

/-- A payload is a part of its manifest: it was moved into the bank, or is verified where it was
written. The call goes on with `next`. -/
structure PayloadLands (u i : ℕ) (job : PayloadJob δ) (name : String) (content : β)
    (next : Option (Upload δ)) (f : Flash β δ) (written : List (Bank × Touch)) : Prop where
  upload : d.flash.uploads u = some (.payload job)
  named : job.manifest.partName i = some name
  declared : job.manifest.imageDigest i = some (hash content)
  session : f.session = d.flash.session
  current : f.current = d.flash.current
  package : f.package = d.flash.package
  uploads : f.uploads = (d.flash.setUpload u next).uploads
  place : b.stages = true ∧ written = [(job.target, .stagedCommit)] ∧
      (f.area job.target).files = (d.flash.area job.target).files.insert name content ∨
    i = job.next ∧ written = [] ∧ (f.area job.target).files = (d.flash.area job.target).files ∧
      (d.flash.area job.target).verifyPayload hash name (hash content) = true

/-- What a call makes of the update, and how it writes to the banks. A new call under way aims at
the target bank while no reboot is pending, and one that goes on keeps its bank. -/
inductive FlashChange : FlashOp β δ → Flash β δ → List (Bank × Touch) → Prop
  | stays (op : FlashOp β δ) : FlashChange op d.flash []
  | drops (op : FlashOp β δ) (u : ℕ) : FlashChange op (d.flash.setUpload u none) []
  | clears (op : FlashOp β δ) : FlashChange op d.flash.cleared []
  | starts {target : Bank} (untried : b.Untried d) (aims : b.Aims d target) :
      FlashChange .startFlash d.flash.started []
  | manifest {part : Option String} (awaits : d.flash.session = some .awaitingManifest) :
      FlashChange (.receivePackagePart part) (d.flash.registered .manifest) []
  | payload {part : Option String} {m : Manifest δ} {present : Finset ℕ} {i : ℕ} {target : Bank}
      {area : Bank → BankArea β δ} (awaits : d.flash.session = some (.awaitingPayload m present))
      (absent : ¬(m.addressed part).any (· ∈ present))
      (next : (m.addressed part).or (m.absentParts present).head? = some i)
      (aims : b.Aims d target) (files : ∀ bank, (area bank).files = (d.flash.area bank).files) :
      FlashChange (.receivePackagePart part)
        (({ d.flash with area } : Flash β δ).registered (.payload
        ⟨m, m.absentParts present, m.addressed part, i, target⟩)) []
  | legacy {part : Option String} {target : Bank} {area : BankArea β δ}
      (closed : d.flash.session = none ∨ d.flash.session = some .complete) (untried : b.Untried d)
      (aims : b.Aims d target) :
      FlashChange (.receivePackagePart part) (({ d.flash.setArea target area with
        package := none, streamedFiles := [] } : Flash β δ).registered (.legacy target))
          [(target, .wipe)]
  | settles {u : ℕ} {m : Manifest δ} {target : Bank} {kept : List (ℕ × String)}
      {area : BankArea β δ} (upload : d.flash.uploads u = some .manifest) (aims : b.Aims d target)
      (keeps : kept = keptParts hash m (if m.integrated then [] else m.parts) (d.flash.area target))
      (files : area.files = ((d.flash.area target).prune b.stages b.singleBank
        (kept.map (·.2))).files) :
      FlashChange (.settleManifest u m)
        (((d.flash.setUpload u none).setArea target area).setUpload u
          (some (.settled m target kept))) [(target, .prune)]
  | opens {u : ℕ} {m : Manifest δ} {target : Bank} {kept : List (ℕ × String)} {f : Flash β δ}
      (next : Option (Upload δ)) (upload : d.flash.uploads u = some (.settled m target kept))
      (area : f.area = d.flash.area) (current : f.current = some m)
      (uploads : f.uploads = (d.flash.setUpload u next).uploads)
      (state : next = none ∧ f.session = some (.awaitingPayload m (kept.map (·.1)).toFinset) ∨
        next = some (.sealing target) ∧ f.session = some .complete ∧
          (m.absentParts (kept.map (·.1)).toFinset = [] ∨
            m.integrated = true ∧ f.streamedFiles = d.flash.streamedFiles)) :
      FlashChange (.openSession u) f []
  | writes {u : ℕ} {job : PayloadJob δ} {name name' : String} {content : β}
      (upload : d.flash.uploads u = some (.payload job)) (direct : b.stages = false)
      (named : job.manifest.partName job.next = some name') :
      FlashChange (.writePart u name content)
        (d.flash.setArea job.target { d.flash.area job.target with
        files := (d.flash.area job.target).files.insert name' content }) [(job.target, .payload)]
  | pours {u : ℕ} {up : Upload δ} {target : Bank} {name : String} {content : β}
      {area : BankArea β δ} (upload : d.flash.uploads u = some up)
      (whole : up = .legacy target ∨ ∃ m absent done, up = .reconciling m target absent done) :
      FlashChange (.writePart u name content) (d.flash.setArea target area) [(target, .payload)]
  | discards {u : ℕ} {job : PayloadJob δ} {content : β} {staging : Finset ℕ}
      (upload : d.flash.uploads u = some (.payload job)) :
      FlashChange (.landPart u content) ((d.flash.setUpload u none).setArea job.target
        { d.flash.area job.target with staging }) []
  | lands {u i : ℕ} {job : PayloadJob δ} {name : String} {content : β} {f : Flash β δ}
      {written : List (Bank × Touch)}
      (lands : PayloadLands b hash d u i job name content (some (.landed job i)) f written) :
      FlashChange (.landPart u content) f written
  | counts {u i : ℕ} {job : PayloadJob δ} {m : Manifest δ} {present : Finset ℕ}
      (upload : d.flash.uploads u = some (.landed job i))
      (awaits : d.flash.session = some (.awaitingPayload m present))
      (owed : m.absentParts (insert i present) ≠ []) :
      FlashChange (.enterPart u) { d.flash.setUpload u none with
        session := some (.awaitingPayload m (insert i present)) } []
  | completes {u i : ℕ} {job : PayloadJob δ} {m : Manifest δ} {present : Finset ℕ}
      (upload : d.flash.uploads u = some (.landed job i))
      (awaits : d.flash.session = some (.awaitingPayload m present))
      (complete : m.absentParts (insert i present) = []) :
      FlashChange (.enterPart u) { d.flash.setUpload u (some (.sealing job.target)) with
        session := some .complete } []
  | disables : FlashChange .finalizeFlash { d.flash with session := some .complete } []
  | reconciles {m : Manifest δ} {present : Finset ℕ} {target : Bank}
      (awaits : d.flash.session = some (.awaitingPayload m present))
      (owed : m.absentParts present ≠ []) (aims : b.Aims d target) :
      FlashChange .finalizeFlash
        (d.flash.registered (.reconciling m target (m.absentParts present) [])) []
  | fetches {u i : ℕ} {m : Manifest δ} {target : Bank} {rest : List ℕ} {done done' : List String}
      {content : β} {area : BankArea β δ}
      (upload : d.flash.uploads u = some (.reconciling m target (i :: rest) done)) :
      FlashChange (.reconcilePart u content)
        (((d.flash.setUpload u none).setArea target area).setUpload u
        (some (.reconciling m target rest done'))) [(target, .payload)]
  | refuses {u i : ℕ} {m : Manifest δ} {target : Bank} {rest : List ℕ} {done : List String}
      {content : β} {area : BankArea β δ}
      (upload : d.flash.uploads u = some (.reconciling m target (i :: rest) done)) :
      FlashChange (.reconcilePart u content) ((d.flash.setUpload u none).setArea target area)
        [(target, .payload)]

/-- What a call leaves: the update was changed, or the bank of an upload was sealed, as far as that
went. -/
inductive FlashOutcome (w : FlashWorld σ) (op : FlashOp β δ) : Desk σ β δ → Prop
  | changes {here : Local σ} {f : Flash β δ} {touched written : List (Bank × Touch)}
      (tends : d.here.Tends here) (change : FlashChange b hash d op f written)
      (writes : touched = d.touched ++ written) :
      FlashOutcome w op ⟨here, f, touched⟩
  | seals {u : ℕ} {bank : Bank} (kind : op = .sealUpload u)
      (upload : d.flash.uploads u = some (.sealing bank)) :
      FlashOutcome w op (b.ivdSignStagedBank hash w bank
        { d with flash := d.flash.setUpload u none }).2

variable {b hash d} {w : FlashWorld σ} {op : FlashOp β δ} {f : Flash β δ} {here : Local σ}

/-- The update was changed without a write to a bank. -/
theorem FlashChange.outcome (change : FlashChange b hash d op f []) (tends : d.here.Tends here) :
  FlashOutcome b hash d w op ⟨here, f, d.touched⟩
  := .changes tends change (List.append_nil _).symm

/-- Leaving everything as it was is an outcome of any call. -/
theorem FlashOutcome.unchanged :
  FlashOutcome b hash d w op d
  := FlashChange.outcome (.stays op) (.refl _)

theorem FlashOutcome.dropped (u : ℕ) :
  FlashOutcome b hash d w op { d with flash := d.flash.setUpload u none }
  := FlashChange.outcome (.drops op u) (.refl _)

end Outcomes

/-! ### What each call leaves -/

namespace FlashBackend

variable {σ β δ : Type} {b : FlashBackend} {w : FlashWorld σ} {d : Desk σ β δ}

section

variable {α : Type} {R : Ending BackendError α → Desk σ β δ → Prop}

/-- A session is refused, or the component is not on trial unless it has one bank. -/
theorem yields_ensureFlashCanStart_bind {f : Unit → Call (Desk σ β δ) BackendError α}
    (admitted : b.Untried d → Yields (f ()) d R) (refused : ∀ e, R (.err e) d) :
  Yields (b.ensureFlashCanStart w >>= f) d R
  := by
  refine yields_seq (yields_get_bind ?_)
  split
  · apply refused
  next free =>
    cases w.gate with
    | some => apply refused
    | none =>
      apply admitted
      intro dual
      simpa [dual] using free

/-- The target bank is found only while no reboot is pending. -/
theorem yields_determineTargetBank_bind {f : Bank → Call (Desk σ β δ) BackendError α}
    (known : ∀ target, b.Aims d target → Yields (f target) d R) (refused : ∀ e, R (.err e) d) :
  Yields (b.determineTargetBank >>= f) d R
  := by
  refine yields_seq (yields_get_bind ?_)
  split
  · apply refused
  next settled => exact known _ ⟨Bool.eq_false_of_not_eq_true settled, rfl⟩

end

variable {κ : Signing} {crc : List UInt8 → UInt32}

/-- An update is applied if nothing is to be reconciled and the component is not to be disabled. -/
theorem finalizeFlash_of_complete (complete : ∀ m present,
      d.flash.session = some (.awaitingPayload m present) →
        m.disableTarget = false ∧ (b.provider.imagesDir = false ∨ m.absentParts present = [])) :
  b.finalizeFlash κ crc w d = b.applyUpdate κ crc w d
  := by
  rw [finalizeFlash, run_get_bind]
  cases session : d.flash.session with
  | none => rfl
  | some state =>
    cases state with
    | awaitingManifest | complete => rfl
    | awaitingPayload m present =>
      obtain ⟨enabled, nothing⟩ := complete m present session
      dsimp only
      rw [enabled, if_neg Bool.false_ne_true, if_neg]
      rintro ⟨onDisk, absent⟩
      rcases nothing with none | none
      · cases none.symm.trans onDisk
      · exact absent none

variable [DecidableEq δ] {hash : β → δ}

/-- A start is refused, or opens a session that awaits its manifest. -/
theorem startFlash_outcome :
  Yields (b.startFlash w) d fun _ => FlashOutcome b hash d w .startFlash
  := by
  refine yields_ensureFlashCanStart_bind (fun untried => ?_) fun _ => .unchanged
  refine yields_determineTargetBank_bind (fun _ aims => ?_) fun _ => .unchanged
  exact FlashChange.outcome (.starts untried aims) ⟨rfl, rfl, .inl rfl⟩

/-- What an abort clears is cleared whatever call it is a part of. -/
theorem abortSession_outcome (op : FlashOp β δ) :
  Yields (b.abortSession w) d fun _ => FlashOutcome b hash d w op
  := by
  refine yields_modify_bind (yields_modify_bind (yields_zoom ?_))
  rcases b.resolveNodeTransaction_cases (w := w.toWorld)
    (l := { d.here with
      memory := { d.here.memory with flashTransfer := none, uploadPhase := false } }) with
    resolved | ⟨e, resolved⟩ | ⟨session, resolved⟩
  · rw [Yields, resolved]
    exact FlashChange.outcome (.clears op) ⟨rfl, rfl, .inl rfl⟩
  · rw [Yields, resolved]
    exact FlashChange.outcome (.clears op) ⟨rfl, rfl, .inl rfl⟩
  · rw [Yields, resolved]
    exact FlashChange.outcome (.clears op) ⟨rfl, rfl, .inr ⟨session, rfl⟩⟩

variable {part : Option String} {m : Manifest δ}

/-- A payload begins for the part it is addressed to, or else for the next one. -/
theorem beginPayload_outcome {present : Finset ℕ}
    (awaits : d.flash.session = some (.awaitingPayload m present)) :
  Yields (b.beginPayload m present (m.addressed part)) d fun _ =>
    FlashOutcome b hash d w (.receivePackagePart part)
  := by
  refine yields_determineTargetBank_bind (fun target aims => ?_) fun _ => .unchanged
  split
  · exact .unchanged
  next absent =>
    refine yields_ofOption_bind (fun i next => ?_) fun _ => .unchanged
    rw [openSink]
    split
    · refine yields_modify_bind ?_
      refine FlashChange.outcome (.payload awaits absent next aims fun bank => ?_) (.refl _)
      split
      next same => rw [same]
      next => rfl
    · refine yields_ofOption_bind (fun _ _ => ?_) fun _ => .unchanged
      exact FlashChange.outcome (.payload awaits absent next aims fun _ => rfl) (.refl _)

/-- An envelope begins while no session awaits an upload. -/
theorem beginLegacy_outcome (closed : d.flash.session = none ∨ d.flash.session = some .complete) :
  Yields (b.beginLegacy w) d fun _ => FlashOutcome b hash d w (.receivePackagePart part)
  := by
  refine yields_ensureFlashCanStart_bind (fun untried => ?_) fun _ => .unchanged
  refine yields_determineTargetBank_bind (fun _ aims => ?_) fun _ => .unchanged
  exact .changes ⟨rfl, rfl, .inl rfl⟩ (.legacy closed untried aims) rfl

theorem receivePackagePart_outcome :
  Yields (b.receivePackagePart w part) d fun _ => FlashOutcome b hash d w (.receivePackagePart part)
  := by
  refine yields_get_bind ?_
  cases session : d.flash.session with
  | none => exact beginLegacy_outcome (.inl session)
  | some state =>
    cases state with
    | awaitingManifest => exact FlashChange.outcome (.manifest session) (.refl _)
    | awaitingPayload => exact beginPayload_outcome session
    | complete => exact beginLegacy_outcome (.inr session)

variable {u : ℕ} {name : String}

/-- The target bank is settled, or the manifest is given up. -/
theorem settleManifest_outcome :
  Yields (b.settleManifest hash u m) d fun _ => FlashOutcome b hash d w (.settleManifest u m)
  := by
  refine yields_get_bind ?_
  split
  next upload =>
    refine yields_modify_bind ?_
    refine yields_determineTargetBank_bind (fun target aims => ?_) fun _ => .dropped u
    exact .changes (.refl _) (.settles upload ⟨aims.settled, aims.target⟩ rfl rfl) rfl
  next => exact .unchanged

/-- The session takes over the manifest that has settled the bank. -/
theorem openSession_outcome :
  Yields (openSession u) d fun _ => FlashOutcome b hash d w (.openSession u)
  := by
  refine yields_get_bind ?_
  split
  next m target kept upload =>
    refine yields_modify_bind ?_
    split
    next integrated =>
      refine yields_modify_bind ?_
      split <;>
      exact FlashChange.outcome (.opens (some (.sealing target)) upload rfl rfl rfl
        (.inr ⟨rfl, rfl, .inr ⟨integrated, rfl⟩⟩)) ⟨rfl, rfl, .inl rfl⟩
    next =>
      refine yields_modify_bind ?_
      split
      next complete =>
        split <;>
        exact FlashChange.outcome (.opens (some (.sealing target)) upload rfl rfl rfl
          (.inr ⟨rfl, rfl, .inl complete.2⟩)) ⟨rfl, rfl, .inl rfl⟩
      next =>
        refine yields_modify_bind ?_
        split <;> split <;>
        exact FlashChange.outcome (.opens none upload rfl rfl rfl (.inl ⟨rfl, rfl⟩))
          ⟨rfl, rfl, .inl rfl⟩
  next => exact .unchanged

/-- Bytes go to the staging file of the upload, or to its bank. -/
theorem writePart_outcome {content : β} :
  Yields (b.writePart u name content) d fun _ => FlashOutcome b hash d w (.writePart u name content)
  := by
  refine yields_get_bind ?_
  split
  next job upload =>
    split
    · exact .unchanged
    next direct =>
      refine yields_ofOption_bind (fun _ named => ?_) fun _ => .unchanged
      exact .changes (.refl _) (.writes upload (Bool.eq_false_of_not_eq_true direct) named) rfl
  next upload => exact .changes (.refl _) (.pours upload (.inl rfl)) rfl
  next upload => exact .changes (.refl _) (.pours upload (.inr ⟨_, _, _, rfl⟩)) rfl
  next => exact .unchanged

theorem enterPart_outcome :
  Yields (enterPart u) d fun _ => FlashOutcome b hash d w (.enterPart u)
  := by
  refine yields_get_bind ?_
  split
  next upload =>
    split
    next awaits =>
      split
      next complete =>
        exact FlashChange.outcome (.completes upload awaits complete) ⟨rfl, rfl, .inl rfl⟩
      next owed => exact FlashChange.outcome (.counts upload awaits owed) (.refl _)
    next => exact .dropped u
  next => exact .unchanged

/-- A bank is sealed for an upload that has come to it, or nothing is. -/
theorem sealUpload_outcome :
  Yields (b.sealUpload hash w u) d fun _ => FlashOutcome b hash d w (.sealUpload u)
  := by
  refine yields_get_bind ?_
  split
  next upload => exact .seals rfl upload
  next => exact .unchanged

theorem endLegacy_outcome {valid : Bool} :
  Yields (endLegacy u valid) d fun _ => FlashOutcome b hash d w (.endLegacy u valid)
  := by
  refine yields_get_bind ?_
  split
  · exact FlashChange.outcome (.drops _ u) ⟨rfl, rfl, .inl rfl⟩
  · exact .unchanged

variable {content : β} {job : PayloadJob δ}

/-- A payload has landed, and its part is noted beside the bank and in the transfer. -/
theorem notePart_outcome {i : ℕ} {f : Flash β δ} (written : List (Bank × Touch))
    (lands : PayloadLands b hash d u i job name content none f written) :
  Yields (notePart u job i name (hash content) : Call _ BackendError _)
    ⟨d.here, f, d.touched ++ written⟩ fun _ => FlashOutcome b hash d w (.landPart u content)
  := by
  have noted : ∀ g : Flash β δ, g.session = f.session → g.current = f.current →
    g.package = f.package →
      g.uploads = f.uploads → (g.area job.target).files = (f.area job.target).files →
      FlashOutcome b hash d w (.landPart u content)
        ⟨d.here, g.setUpload u (some (.landed job i)), d.touched ++ written⟩ := by
    intro g session current package uploads files
    refine .changes (.refl _) (.lands { lands with
      session := session.trans lands.session
      current := current.trans lands.current
      package := package.trans lands.package
      uploads := ?_
      place := ?_ }) rfl
    · rw [← Flash.setUpload_setUpload d.flash u none]
      have before := lands.uploads
      dsimp only [Flash.setUpload] at before ⊢
      rw [uploads, before]
    · dsimp only [Flash.setUpload]
      rw [files]
      exact lands.place
  have recorded :
    ((f.setArea job.target ((f.area job.target).recordStagedPart name (hash content))).area
      job.target).files = (f.area job.target).files := by
    rw [Flash.setArea_area]
    rfl
  refine yields_modify_bind (yields_modify_bind ?_)
  split
  · exact noted _ rfl rfl rfl rfl recorded
  · exact noted _ rfl rfl rfl rfl recorded

/-- A staged payload has the digest of the part that it is taken for. -/
theorem imageDigest_of_stagedIndex {digest : δ} {i : ℕ} (found : stagedIndex job digest = some i) :
  job.manifest.imageDigest i = some digest
  := by
  rw [stagedIndex] at found
  split at found
  next =>
    split at found
    next declared =>
      cases found
      apply declared
    next => cases found
  next => simpa using List.find?_some found

/-- A payload ends as a part of its manifest, or the upload is dropped. -/
theorem landPart_outcome :
  Yields (b.landPart hash w u content) d fun _ => FlashOutcome b hash d w (.landPart u content)
  := by
  refine yields_get_bind ?_
  split
  next job upload =>
    refine yields_modify_bind ?_
    split
    next stages =>
      split
      next i found =>
        refine yields_ofOption_bind (fun name named => ?_) fun _ => .dropped u
        refine yields_get_bind ?_
        split
        · refine yields_modify_bind (notePart_outcome _ ⟨upload, named,
            imageDigest_of_stagedIndex found, rfl, rfl, rfl, rfl, .inl ⟨stages, rfl, ?_⟩⟩)
          exact congrArg BankArea.files (if_pos rfl)
        · exact .dropped u
      next =>
        refine yields_modify_bind ?_
        rw [refuseStaged]
        split <;> [skip; split] <;>
        exact FlashChange.outcome (.discards upload) (.refl _)
    next =>
      refine yields_ofOption_bind (fun name named => ?_) fun _ => .dropped u
      refine yields_get_bind ?_
      split
      · exact .dropped u
      next declared =>
        split
        next verified =>
          have noted := notePart_outcome (b := b) (w := w) (f := d.flash.setUpload u none)
            [] ⟨upload, named, not_not.mp declared, rfl, rfl, rfl, rfl,
              .inr ⟨rfl, rfl, rfl, verified⟩⟩
          rw [List.append_nil] at noted
          exact noted
        · exact .dropped u
  next => exact .unchanged

/-- A part that was not sent is written with its digest, or the call fails. -/
theorem reconcilePart_outcome :
  Yields (reconcilePart hash u content) d fun _ => FlashOutcome b hash d w
    (.reconcilePart u content)
  := by
  refine yields_get_bind ?_
  split
  next upload =>
    refine yields_modify_bind ?_
    refine yields_ofOption_bind (fun name named => ?_) fun _ => .dropped u
    split
    · exact .changes (.refl _) (.fetches upload) rfl
    · exact .changes (.refl _) (.refuses upload) rfl
  next => exact .unchanged

/-- An end that does not apply the update leaves boot states and vector alone. -/
theorem finalizeFlash_outcome (unapplied : ¬FlashOp.finalizeFlash.Applies b d) :
  Yields (b.finalizeFlash κ crc w) d fun _ => FlashOutcome b hash d w .finalizeFlash
  := by
  refine yields_get_bind ?_
  split
  next m present session =>
    split
    · rw [enactDisable]
      cases w.disableError with
      | some => exact .unchanged
      | none => exact FlashChange.outcome .disables ⟨rfl, rfl, .inl rfl⟩
    next kept =>
      split
      next owed =>
        refine yields_determineTargetBank_bind (fun target aims => ?_) fun _ => .unchanged
        exact FlashChange.outcome (.reconciles session owed.2 aims) (.refl _)
      next complete =>
        refine absurd (.finalizeFlash fun m' present' session' => ?_) unapplied
        cases session.symm.trans session'
        rw [Bool.not_eq_true] at kept
        use kept
        by_cases images : b.provider.imagesDir = true
        · right
          by_contra absent
          apply complete ⟨images, absent⟩
        · left
          exact Bool.eq_false_of_not_eq_true images
  next other =>
    exact absurd (.finalizeFlash fun m present session => (other m present session).elim) unapplied

/-- So does a reconciliation that has parts left. -/
theorem endReconcile_outcome (unapplied : ¬(FlashOp.endReconcile u).Applies b d) :
  Yields (b.endReconcile hash κ crc w u) d fun _ => FlashOutcome b hash d w (.endReconcile u)
  := by
  refine yields_get_bind ?_
  split
  next reconciled => exact absurd (.endReconcile reconciled) unapplied
  next => exact .unchanged

end FlashBackend

/-- What a call leaves that does not apply the update. -/
theorem FlashOp.outcome {σ β δ : Type} [DecidableEq δ] {κ : Signing} {crc : List UInt8 → UInt32}
    {hash : β → δ} {b : FlashBackend} {w : FlashWorld σ} {d : Desk σ β δ} {op : FlashOp β δ}
    (unapplied : ¬op.Applies b d) :
  Yields (op.run κ crc hash w b) d fun _ => FlashOutcome b hash d w op
  := by
  cases op with
  | startFlash => exact startFlash_outcome
  | abortSession => exact abortSession_outcome _
  | abortFlash =>
    refine yields_get_bind ?_
    split
    · exact .unchanged
    · exact abortSession_outcome _
  | receivePackagePart => exact receivePackagePart_outcome
  | settleManifest => exact settleManifest_outcome
  | openSession => exact openSession_outcome
  | writePart => exact writePart_outcome
  | landPart => exact landPart_outcome
  | enterPart => exact enterPart_outcome
  | sealUpload => exact sealUpload_outcome
  | endLegacy => exact endLegacy_outcome
  | dropUpload u => exact .dropped u
  | finalizeFlash => exact finalizeFlash_outcome unapplied
  | reconcilePart => exact reconcilePart_outcome
  | endReconcile => exact endReconcile_outcome unapplied

end ComponentMgr
