import MachineManager.Component.FlashCalls
import MachineManager.Component.Registry

/-!
# Where a component fetches from

A campaign that pulls its payloads tells the component where they are, opens a session and uploads
the manifest. When the update is finalized, a part that was not sent is copied from the active bank,
or else fetched from the source. Clients that push never set a source.

The source is set before the session exists, and cleared when the session is aborted or finalized; a
session that is refused, or given up after it could not be finalized, leaves it behind for the next
one (`left_source_is_used`). As long as nobody opens a session over the source of somebody else, or
sets a source in the session of somebody else, a part is only fetched from the source of the
campaign that has opened the session (`fetches_from_own_source`).
-/

namespace ComponentMgr

open Call Nv Selector SystemBank FlashBackend

/-- Where payloads can be fetched from, and what manifests are verified with. -/
structure InstallSource where
  casBaseUrl : String
  trustAnchor : List UInt8
deriving DecidableEq

/-- A part was fetched: from which source, which campaign had set it, and who had opened the
session: a campaign, or a client that pushes. -/
structure Fetch where
  part : ℕ
  source : InstallSource
  setter : Option ℕ
  opener : Option (Option ℕ)
deriving DecidableEq

/-- The part was fetched from the source of the campaign that had opened the session. -/
def Fetch.Own (f : Fetch) : Prop :=
  ∃ c, f.opener = some (some c) ∧ f.setter = some c

/-- What the calls reach: besides the update, the source of the component. On record are the
campaign that has set the source, who has opened the session, and the parts that were fetched. -/
structure PullDesk (σ β δ : Type) where
  desk : Desk σ β δ
  installSource : Option InstallSource := none
  setter : Option ℕ := none
  opener : Option (Option ℕ) := none
  fetches : List Fetch := []

/-- What the calls meet besides: which uris are content addresses, why no puller can be built if
that is so, and what a fetch brings. -/
structure PullWorld (σ β : Type) extends FlashWorld σ where
  contentAddress : String → Bool
  copyError : String := ""
  pullerError : Option String := none
  fetch : InstallSource → String → Except BackendError β

namespace PullDesk

variable {σ β δ ε α : Type}

def onDesk (c : Call (Desk σ β δ) ε α) : Call (PullDesk σ β δ) ε α :=
  zoom PullDesk.desk (fun desk x => { x with desk }) c

def setInstallSource (c : ℕ) (source : InstallSource) : Call (PullDesk σ β δ) ε Unit :=
  modify fun x => { x with installSource := some source, setter := some c }

def clearInstallSource : Call (PullDesk σ β δ) ε Unit :=
  modify fun x => { x with installSource := none, setter := none }

/-! ### Parts that were not sent -/

section Reconcile

variable [DecidableEq δ] (hash : β → δ) (w : PullWorld σ β)

def copyForwardFile (active : BankArea β δ) (name : String) (expected : δ) : Option β :=
  active.files[name]?.filter fun content => hash content = expected

def putPart (target : Bank) (name : String) : Option β → Call (PullDesk σ β δ) ε Unit
  | some content => onDesk (touch target .payload
      fun a => { a with files := a.files.insert name content })
  | none => onDesk (touch target .payload fun a => { a with files := a.files.erase name })

/-- Fetch a part into the bank. What does not have the digest is refused and does not stay. -/
def fetchAndInstallComponent (target : Bank) (i : ℕ) (name : String) (expected : δ)
    (source : InstallSource) (uri : String) : Call (PullDesk σ β δ) BackendError Unit := do
  match w.pullerError with
  | some e => fail (.internal ("reconcile: build puller: " ++ e))
  | none => pure ()
  modify fun x => { x with fetches :=
    x.fetches ++ [{ part := i, source, setter := x.setter, opener := x.opener }] }
  match w.fetch source uri with
  | .ok content =>
    if hash content = expected then putPart target name (some content)
    else
      putPart target name none
      fail (.internal "payload processing failed")
  | .error e =>
    putPart target name none
    fail e

def discardCopy (active : BankArea β δ) (target : Bank) (name : String) : Call
    (PullDesk σ β δ) ε Unit :=
  if active.files[name]?.isSome then putPart target name none else pure ()

/-- A part is copied from the active bank. If that cannot be, it is fetched, if there is a source
and the manifest has its content address; otherwise it is refused. -/
def reconcileComponent (m : Manifest δ) (active target : Bank) (i : ℕ) :
    Call (PullDesk σ β δ) BackendError String := do
  let expected ← ofOption (m.imageDigest i)
    (.internal s!"reconcile: manifest has no image_digest for component {i}")
  let name ← ofOption (m.partName i) reservedName
  let x ← get
  match copyForwardFile hash (x.desk.flash.area active) name expected with
  | some content =>
    putPart target name (some content)
    return name
  | none =>
    discardCopy (x.desk.flash.area active) target name
    match x.installSource, (m.components[i]?.bind (·.uri)).filter w.contentAddress with
    | some source, some uri =>
      fetchAndInstallComponent hash w target i name expected source uri
      return name
    | _, _ => fail (.internal (s!"reconcile refused for component {i}: {w.copyError}; " ++
        "no fetch source / content-addressed uri to fall back to"))

def reconcileComponents (m : Manifest δ) (active target : Bank) :
    List ℕ → Call (PullDesk σ β δ) BackendError (List String)
  | [] => pure []
  | i :: rest => do
    let name ← reconcileComponent hash w m active target i
    let names ← reconcileComponents m active target rest
    return name :: names

variable (b : FlashBackend)

/-- The parts that were not sent are found or fetched, one after the other. -/
def reconcileUnpushed (m : Manifest δ) (absent : List ℕ) (target : Bank) :
    Call (PullDesk σ β δ) BackendError (List String) := do
  let bs ← onDesk (onHere b.nvBank)
  if bs.activeBank = target then
    fail (.internal "copy-forward: target bank == active bank — refusing to self-copy")
  else reconcileComponents hash w m bs.activeBank target absent

end Reconcile

/-! ### The calls -/

section Calls

variable [DecidableEq δ] (κ : Signing) (crc : List UInt8 → UInt32) (hash : β → δ)
    (w : PullWorld σ β)
  (b : FlashBackend)

def startFlash (who : Option ℕ) : Call (PullDesk σ β δ) BackendError Unit := do
  onDesk (b.startFlash w.toFlashWorld)
  modify fun x => { x with opener := some who }

def abortSession : Call (PullDesk σ β δ) BackendError Unit := do
  clearInstallSource
  modify fun x => { x with opener := none }
  onDesk (b.abortSession w.toFlashWorld)

def abortFlash : Call (PullDesk σ β δ) BackendError Unit := do
  let x ← get
  if flashIsFinalized x.desk.here.memory then
    fail (.invalidRequest "cannot abort: install already finalized")
  else abortSession w b

def upload : List (FlashOp β δ) → Call (PullDesk σ β δ) BackendError Unit
  | [] => pure ()
  | op :: rest => do
    onDesk (op.run κ crc hash w.toFlashWorld b)
    upload rest

/-- The parts that were not sent are found or fetched first, and the bank is sealed. The source is
dropped once the update is applied. -/
def finalizeFlash : Call (PullDesk σ β δ) BackendError Unit := do
  let x ← get
  match x.desk.flash.session with
  | some (.awaitingPayload m present) =>
    if m.disableTarget then
      onDesk (enactDisable w.toFlashWorld)
      clearInstallSource
    else if b.provider.imagesDir ∧ m.absentParts present ≠ [] then
      let target ← onDesk b.determineTargetBank
      let reconciled ← reconcileUnpushed hash w b m (m.absentParts present) target
      onDesk (pushStreamed reconciled)
      onDesk (b.ivdSignStagedBank hash w.toFlashWorld target)
      onDesk (updateFlash fun f => { f with session := some .complete })
      onDesk (updateTransfer .awaitingActivation)
      onDesk (b.applyUpdate κ crc w.toFlashWorld)
      clearInstallSource
    else
      onDesk (b.applyUpdate κ crc w.toFlashWorld)
      clearInstallSource
  | _ =>
    onDesk (b.applyUpdate κ crc w.toFlashWorld)
    clearInstallSource

end Calls

end PullDesk

/-! ### Runs -/

def Flash.Awaiting {β δ : Type} (f : Flash β δ) : Prop :=
  f.session = some .awaitingManifest ∨ ∃ m present, f.session = some (.awaitingPayload m present)

/-- The step belongs to an upload that begins in the session; the steps of a manifest to one that
begins while the manifest is awaited. -/
def FlashOp.OnPath {β δ : Type} (session : Option (FlashSessionState δ)) : FlashOp β δ → Prop
  | receivePackagePart _ => True
  | settleManifest _ _ | openSession _ => session = some .awaitingManifest
  | writePart _ _ _ | landPart _ _ | enterPart _ | sealUpload _ | endLegacy _ _ | dropUpload _ =>
    True
  | _ => False

/-- A call of a campaign or of a client that pushes. -/
inductive PullAction (β δ : Type)
  | setInstallSource (c : ℕ) (source : InstallSource)
  | startFlash (who : Option ℕ)
  | upload (ops : List (FlashOp β δ))
  | abortSession
  | abortFlash
  | finalizeFlash

section Sessions

/-! ### What an upload does to the session -/

variable {σ β δ : Type} {d : Desk σ β δ}

def Desk.Unawaiting (d : Desk σ β δ) : Prop :=
  ¬ d.flash.Awaiting

variable [DecidableEq δ] {b : FlashBackend} {hash : β → δ} {w : FlashWorld σ} {op : FlashOp β δ}

/-- What an upload does outside of a session opens none. -/
theorem FlashChange.unawaiting {f : Flash β δ} {written : List (Bank × Touch)}
    (change : FlashChange b hash d op f written) (idle : d.Unawaiting)
    (path : ∀ u, op ≠ .startFlash ∧ op ≠ .openSession u) :
  ¬f.Awaiting
  := by
  cases change with
  | starts => exact absurd rfl (path 0).1
  | opens => exact absurd rfl (path _).2
  | manifest awaits => exact absurd (.inl awaits) idle
  | payload awaits | counts upload awaits => exact absurd (.inr ⟨_, _, awaits⟩) idle
  | lands lands =>
    rw [Flash.Awaiting, lands.session]
    exact idle
  | clears | completes | disables => rintro (awaits | ⟨m, present, awaits⟩) <;> cases awaits
  | _ => exact idle

theorem FlashOutcome.unawaiting {d' : Desk σ β δ} (outcome : FlashOutcome b hash d w op d')
    (idle : d.Unawaiting) (path : ∀ u, op ≠ .startFlash ∧ op ≠ .openSession u) :
  d'.Unawaiting
  := by
  cases outcome with
  | changes _ change => exact change.unawaiting idle path
  | seals =>
    exact ivdSignStagedBank_keeps (P := Desk.Unawaiting) (fun _ _ _ kept => kept) idle

end Sessions

section Runs

variable {σ β δ : Type} (κ : Signing) (crc : List UInt8 → UInt32) (hash : β → δ)
  (b : FlashBackend)

def PullAction.run [DecidableEq δ] (w : PullWorld σ β) : PullAction β δ → Call
    (PullDesk σ β δ) BackendError Unit
  | setInstallSource c source => PullDesk.setInstallSource c source
  | startFlash who => PullDesk.startFlash w b who
  | upload ops => PullDesk.upload κ crc hash w b ops
  | abortSession => PullDesk.abortSession w b
  | abortFlash => PullDesk.abortFlash w b
  | finalizeFlash => PullDesk.finalizeFlash κ crc hash w b

namespace PullDesk

variable (x : PullDesk σ β δ)

/-- An upload takes the steps of its path. -/
def Possible : PullAction β δ → Prop
  | .upload ops => ∀ op ∈ ops, op.OnPath x.desk.flash.session
  | _ => True

/-- A source is set only if no session is open, or one that the campaign has opened itself. A
session is opened only if no source is left, or one that the campaign has set itself. -/
def Scoped : PullAction β δ → Prop
  | .setInstallSource c _ => x.desk.flash.Awaiting → x.opener = some (some c)
  | .startFlash who => x.setter = none ∨ x.setter = who
  | _ => True

variable {x} in
/-- A call runs to its end. The calls come one after the other. -/
def Step [DecidableEq δ] (allowed : PullDesk σ β δ → PullAction β δ → Prop)
    (x y : PullDesk σ β δ) : Prop :=
  ∃ (w : PullWorld σ β) (action : PullAction β δ) (res : Ending BackendError Unit),
    x.Possible action ∧ allowed x action ∧ action.run κ crc hash b w x = (res, y) ∧ res ≠ .stopped

/-- No session is open, no source is set, and nothing was fetched. -/
def Starts : Prop :=
  x.desk.flash.session = none ∧ x.installSource = none ∧ x.setter = none ∧ x.opener = none ∧
  x.fetches = []

variable {x} {y z : PullDesk σ β δ} {active target : Bank} {hash} {w : PullWorld σ β}
    {m : Manifest δ}
  {absent : List ℕ} {name : String} {ε : Type}

/-! ### What a call leaves of the source and of the session -/

/-- The one state comes from the other by writing parts to a bank that is not the active one, and by
fetching parts if there is a source. -/
structure Pulls (active : Bank) (x y : PullDesk σ β δ) : Prop where
  source : y.installSource = x.installSource
  setter : y.setter = x.setter
  opener : y.opener = x.opener
  session : y.desk.flash.session = x.desk.flash.session
  files : (y.desk.flash.area active).files = (x.desk.flash.area active).files
  fetched : ∀ f ∈ y.fetches, f ∈ x.fetches ∨
    x.installSource ≠ none ∧ f.setter = x.setter ∧ f.opener = x.opener
  quiet : x.installSource = none → y.fetches = x.fetches

theorem Pulls.refl :
  Pulls active x x
  := ⟨rfl, rfl, rfl, rfl, rfl, fun _ => .inl, fun _ => rfl⟩

theorem Pulls.trans (first : Pulls active x y) (second : Pulls active y z) :
  Pulls active x z
  := by
  refine ⟨second.source.trans first.source, second.setter.trans first.setter,
    second.opener.trans first.opener, second.session.trans first.session,
    second.files.trans first.files, fun f there => ?_,
    fun none => (second.quiet (first.source.trans none)).trans (first.quiet none)⟩
  rcases second.fetched f there with earlier | ⟨source, setter, opener⟩
  · exact first.fetched f earlier
  · exact .inr ⟨first.source ▸ source, setter.trans first.setter, opener.trans first.opener⟩

theorem yields_putPart (other : active ≠ target) (content : Option β) :
  Yields (putPart target name content : Call (PullDesk σ β δ) ε Unit) x fun res y =>
    res = .ok () ∧ Pulls active x y
  := by
  have files : ∀ area : BankArea β δ, ((x.desk.flash.setArea target area).area active).files =
      (x.desk.flash.area active).files := by
    intro area
    rw [Flash.setArea]
    dsimp only
    rw [if_neg other]
  cases content with
  | none | some => exact ⟨rfl, rfl, rfl, rfl, rfl, files _, fun _ => .inl, fun _ => rfl⟩

def Found (hash : β → δ) (m : Manifest δ) (files : BTreeMap β) (i : ℕ) : Prop :=
  ∃ name content, m.partName i = some name ∧ files[name]? = some content ∧
    m.imageDigest i = some (hash content)

variable {κ} {crc} {b} {session : Option (FlashSessionState δ)}

/-- There is no source without a campaign that has set it, a source belongs to whoever has opened
the session, and what was fetched came from such a source. -/
structure Inv (x : PullDesk σ β δ) : Prop where
  tagged : x.setter = none → x.installSource = none
  owned : x.desk.flash.Awaiting → x.setter = none ∨ x.opener = some x.setter
  fetched : ∀ f ∈ x.fetches, f.Own

/-- The source and who has opened the session are the same, and what was fetched is accounted
for. -/
structure Framed (x y : PullDesk σ β δ) : Prop where
  source : y.installSource = x.installSource
  setter : y.setter = x.setter
  opener : y.opener = x.opener
  fetched : ∀ f ∈ y.fetches, f.Own

theorem Inv.framed (inv : x.Inv) :
  Framed x x
  := ⟨rfl, rfl, rfl, inv.fetched⟩

/-- While the session awaits something, or if it does not later on, the invariant is kept. -/
theorem Inv.of_framed (inv : x.Inv) (framed : Framed x y)
    (awaits : y.desk.flash.Awaiting → x.desk.flash.Awaiting) :
  y.Inv
  := by
  refine ⟨?_, ?_, framed.fetched⟩
  · rw [framed.setter, framed.source]
    exact inv.tagged
  · intro awaiting
    rw [framed.setter, framed.opener]
    exact inv.owned (awaits awaiting)

theorem yields_onDesk {α : Type} {c : Call (Desk σ β δ) ε α} (framed : Framed x y) :
  Yields (onDesk c) y fun _ z => Framed x z
  := ⟨framed.source, framed.setter, framed.opener, framed.fetched⟩

theorem yields_clearInstallSource (framed : Framed x y) :
  Yields (clearInstallSource : Call (PullDesk σ β δ) ε Unit) y fun _ z => z.Inv
  := ⟨fun _ => rfl, fun _ => .inl rfl, framed.fetched⟩

/-- To apply the update does nothing to the session. -/
theorem yields_applyUpdate (inv : x.Inv) :
  Yields (onDesk (b.applyUpdate κ crc w.toFlashWorld) >>= fun _ => clearInstallSource) x
    fun _ y => y.Inv
  := by
  have first : Yields (onDesk (b.applyUpdate κ crc w.toFlashWorld)) x fun _ y =>
    Framed x y ∧ y.Inv := by
    have framed : Framed x { x with desk := (b.applyUpdate κ crc w.toFlashWorld x.desk).2 } :=
      ⟨rfl, rfl, rfl, inv.fetched⟩
    exact ⟨framed, inv.of_framed framed id⟩
  refine yields_bind first ?_ (fun _ _ => And.right) fun _ => And.right
  intro _ y framed
  exact yields_clearInstallSource framed.1

/-- A session that is refused leaves everything as it is. -/
theorem yields_startFlash (inv : x.Inv) {who : Option ℕ}
    (within : x.setter = none ∨ x.setter = who) :
  Yields (startFlash w b who) x fun _ y => y.Inv
  := by
  have opens : Yields (b.startFlash w.toFlashWorld) x.desk fun res d => res = .ok () ∨
    d = x.desk := by
    refine yields_bind (Q := fun _ d => d = x.desk) ?_ ?_ (fun _ _ => .inr) fun _ => .inr
    · refine yields_get_bind ?_
      split
      · exact rfl
      · split <;> exact rfl
    · rintro _ _ rfl
      refine yields_bind (Q := fun _ d => d = x.desk) ?_ ?_ (fun _ _ => .inr) fun _ => .inr
      · refine yields_get_bind ?_
        split <;> exact rfl
      · rintro _ _ rfl
        exact .inl rfl
  have first : Yields (onDesk (b.startFlash w.toFlashWorld)) x fun res y =>
      Framed x y ∧ (res = .ok () ∨ y = x) := by
    refine ⟨⟨rfl, rfl, rfl, inv.fetched⟩, opens.imp id fun same => ?_⟩
    show { x with desk := (b.startFlash w.toFlashWorld x.desk).2 } = x
    rw [same]
  refine yields_bind first ?_ ?_ ?_
  · rintro ⟨⟩ y ⟨framed, -⟩
    refine ⟨?_, ?_, framed.fetched⟩
    · exact fun none => framed.source.trans (inv.tagged (framed.setter.symm.trans none))
    · intro _
      show y.setter = none ∨ some who = some y.setter
      rw [framed.setter]
      exact within.imp id fun same => by rw [same]
  · rintro e y ⟨-, opened⟩
    rw [opened.resolve_left nofun]
    exact inv
  · rintro y ⟨-, opened⟩
    rw [opened.resolve_left nofun]
    exact inv

theorem yields_abortSession (inv : x.Inv) :
  Yields (abortSession w b) x fun _ y => y.Inv
  := by
  refine yields_modify_bind (yields_modify_bind ?_)
  exact ⟨fun _ => rfl, fun _ => .inl rfl, inv.fetched⟩

theorem Starts.inv (starts : x.Starts) :
  x.Inv
  := by
  obtain ⟨-, source, setter, -, fetches⟩ := starts
  refine ⟨fun _ => source, fun _ => .inl setter, ?_⟩
  rw [fetches]
  nofun

theorem run_determineTargetBank :
  (onDesk b.determineTargetBank x).2 = x
  := by
  show { x with desk := (b.determineTargetBank x.desk).2 } = x
  rw [determineTargetBank, run_get_bind, run_ite]
  split <;> rfl

/-- What is done after the parts are there fetches nothing. -/
theorem yields_unfetching_bind {α γ : Type} {fetches : List Fetch} {P : Prop}
    {c : Call (Desk σ β δ) BackendError α} {f : α → Call (PullDesk σ β δ) BackendError γ}
    (same : x.fetches = fetches) (known : P)
    (next : ∀ a y, y.fetches = fetches → Yields (f a) y fun res z =>
      z.fetches = fetches ∧ ∀ c, res = .ok c → P) :
  Yields (onDesk c >>= f) x fun res z => z.fetches = fetches ∧ ∀ c, res = .ok c → P
  := by
  have first : Yields (onDesk c) x fun _ y => y.fetches = fetches := same
  refine yields_bind first (fun a y => next a y) ?_ ?_
  · exact fun _ _ unfetched => ⟨unfetched, fun _ _ => known⟩
  · exact fun _ unfetched => ⟨unfetched, fun _ _ => known⟩

def Complete (b : FlashBackend) (hash : β → δ) (m : Manifest δ) (present : Finset ℕ)
    (x : PullDesk σ β δ) : Prop :=
  m.disableTarget = false → b.provider.imagesDir = true → ∀ i ∈ m.absentParts present,
    ∃ bs, (b.nvBank x.desk.here).1 = .ok bs ∧ Found hash m (x.desk.flash.area bs.activeBank).files i

variable [DecidableEq δ]

/-! ### What the parts that were not sent come from -/

theorem yields_fetchAndInstallComponent {i : ℕ} {expected : δ} {source : InstallSource}
    {uri : String} (other : active ≠ target) (there : x.installSource = some source) :
  Yields (fetchAndInstallComponent hash w target i name expected source uri) x fun _ y =>
    Pulls active x y
  := by
  unfold fetchAndInstallComponent
  cases w.pullerError with
  | some => exact .refl
  | none =>
    refine yields_modify_bind ?_
    have noted : Pulls active x { x with fetches :=
        x.fetches ++ [{ part := i, source, setter := x.setter, opener := x.opener }] } := by
      refine ⟨rfl, rfl, rfl, rfl, rfl, fun f mem => ?_, fun none =>
        absurd (there.symm.trans none) nofun⟩
      rcases List.mem_append.mp mem with earlier | new
      · exact .inl earlier
      · obtain rfl := List.mem_singleton.mp new
        exact .inr ⟨by rw [there]; nofun, rfl, rfl⟩
    cases w.fetch source uri with
    | ok =>
      dsimp only
      split
      · exact (yields_putPart other _).mono fun _ _ put => noted.trans put.2
      · refine yields_returned_bind (yields_putPart other _) fun y put => ?_
        exact noted.trans put
    | error =>
      refine yields_returned_bind (yields_putPart other _) fun y put => ?_
      exact noted.trans put

/-- A part is found in the active bank unless there is a source. -/
theorem yields_reconcileComponent {i : ℕ} (other : active ≠ target) :
  Yields (reconcileComponent hash w m active target i) x fun res y =>
    Pulls active x y ∧ (∀ name, res = .ok name → x.installSource = none →
        Found hash m (x.desk.flash.area active).files i)
  := by
  refine yields_ofOption_bind (fun expected digest => ?_) fun _ => ⟨.refl, nofun⟩
  refine yields_ofOption_bind (fun name named => ?_) fun _ => ⟨.refl, nofun⟩
  refine yields_get_bind ?_
  split
  · next content copied =>
    obtain ⟨there, same⟩ := Option.filter_eq_some_iff.mp copied
    refine yields_returned_bind (yields_putPart other _) fun y put => ?_
    refine ⟨put, fun _ _ _ => ⟨name, content, named, there, ?_⟩⟩
    rw [digest, of_decide_eq_true same]
  · have discarded : Yields (discardCopy (x.desk.flash.area active) target name :
        Call (PullDesk σ β δ) BackendError Unit) x fun res y => res = .ok () ∧
          Pulls active x y := by
      unfold discardCopy
      split
      · exact yields_putPart other none
      · exact ⟨rfl, .refl⟩
    refine yields_returned_bind discarded fun y pulls => ?_
    split
    · next source uri there _ =>
      refine yields_bind (yields_fetchAndInstallComponent other (pulls.source.trans there)) ?_ ?_ ?_
      · intro _ z pulls'
        exact ⟨pulls.trans pulls', fun _ _ none => absurd (there.symm.trans none) nofun⟩
      · intro _ z pulls'
        exact ⟨pulls.trans pulls', nofun⟩
      · intro z pulls'
        exact ⟨pulls.trans pulls', nofun⟩
    · exact ⟨pulls, nofun⟩

theorem yields_reconcileComponents (other : active ≠ target) :
  Yields (reconcileComponents hash w m active target absent) x fun res y =>
    Pulls active x y ∧ (∀ names, res = .ok names → x.installSource = none →
        ∀ i ∈ absent, Found hash m (x.desk.flash.area active).files i)
  := by
  induction absent generalizing x with
  | nil => exact ⟨.refl, fun _ _ _ => nofun⟩
  | cons _ _ ih =>
    refine yields_bind (yields_reconcileComponent other) ?_ ?_ ?_
    · rintro name y ⟨pulls, found⟩
      refine yields_bind ih ?_ ?_ ?_
      · rintro names z ⟨pulls', found'⟩
        refine ⟨pulls.trans pulls', fun _ _ none => ?_⟩
        rw [List.forall_mem_cons]
        rw [pulls.files, pulls.source] at found'
        exact ⟨found name rfl none, found' names rfl none⟩
      · rintro _ z ⟨pulls', -⟩
        exact ⟨pulls.trans pulls', nofun⟩
      · rintro z ⟨pulls', -⟩
        exact ⟨pulls.trans pulls', nofun⟩
    · rintro _ y ⟨pulls, -⟩
      exact ⟨pulls, nofun⟩
    · rintro y ⟨pulls, -⟩
      exact ⟨pulls, nofun⟩

/-- What is fetched while the session awaits something comes from the source of whoever has opened
it. -/
theorem yields_reconcileUnpushed (inv : x.Inv) (awaits : x.desk.flash.Awaiting)
    (framed : Framed x y) :
  Yields (reconcileUnpushed hash w b m absent target) y fun _ z => Framed x z
  := by
  refine yields_bind (yields_onDesk framed) ?_ (fun _ _ => id) fun _ => id
  intro bs y framed
  split
  · exact framed
  · next other =>
    refine (yields_reconcileComponents other).mono ?_
    rintro _ z ⟨pulls, -⟩
    refine ⟨pulls.source.trans framed.source, pulls.setter.trans framed.setter,
      pulls.opener.trans framed.opener, fun f there => ?_⟩
    rcases pulls.fetched f there with earlier | ⟨source, setter, opener⟩
    · exact framed.fetched f earlier
    · rw [framed.source] at source
      cases set : x.setter with
      | none => exact absurd (inv.tagged set) source
      | some c =>
        have owned := (inv.owned awaits).resolve_left (by rw [set]; nofun)
        rw [set] at owned
        exact ⟨c, opener.trans (framed.opener.trans owned), setter.trans (framed.setter.trans set)⟩

/-- Without a source nothing is fetched, and every part that was not sent is in the active bank. -/
theorem yields_reconcileUnpushed_unset (none : x.installSource = none) :
  Yields (reconcileUnpushed hash w b m absent target) x fun res y =>
    y.fetches = x.fetches ∧
      ∀ names, res = .ok names → ∀ i ∈ absent, ∃ bs, (b.nvBank x.desk.here).1 = .ok bs ∧
        Found hash m (x.desk.flash.area bs.activeBank).files i
  := by
  have first : Yields (onDesk (onHere b.nvBank)) x fun res y =>
      res = (b.nvBank x.desk.here).1 ∧ y = x := by
    refine ⟨rfl, ?_⟩
    have same : (b.nvBank x.desk.here).2 = x.desk.here :=
      b.keeps_nvBank (P := (· = x.desk.here)) _ rfl
    show { x with desk := { x.desk with here := (b.nvBank x.desk.here).2 } } = x
    rw [same]
  refine yields_bind first ?_ ?_ ?_
  · rintro bs _ ⟨known, rfl⟩
    split
    · exact ⟨rfl, nofun⟩
    · next other =>
      refine (yields_reconcileComponents other).mono ?_
      rintro res y ⟨pulls, found⟩
      refine ⟨pulls.quiet none, fun names returned i there => ?_⟩
      exact ⟨bs, known.symm, found names returned none i there⟩
  · rintro e _ ⟨-, rfl⟩
    exact ⟨rfl, nofun⟩
  · rintro _ ⟨-, rfl⟩
    exact ⟨rfl, nofun⟩

/-! ### The calls one by one -/

theorem yields_finalizeFlash (inv : x.Inv) :
  Yields (finalizeFlash κ crc hash w b) x fun _ y => y.Inv
  := by
  refine yields_get_bind ?_
  split
  · next m present payload =>
    have awaits : x.desk.flash.Awaiting := .inr ⟨m, present, payload⟩
    have kept : ∀ y, Framed x y → y.Inv := fun y framed => inv.of_framed framed fun _ => awaits
    have next {α : Type} {y : PullDesk σ β δ} (framed : Framed x y)
      {c : Call (Desk σ β δ) BackendError α} {f : α → Call (PullDesk σ β δ) BackendError Unit}
        (rest : ∀ a z, Framed x z → Yields (f a) z fun _ z => z.Inv) :
        Yields (onDesk c >>= f) y fun _ z => z.Inv :=
      yields_bind (yields_onDesk framed) rest (fun _ y => kept y) kept
    split
    · exact next inv.framed fun _ y framed => yields_clearInstallSource framed
    · split
      · refine next inv.framed fun target y framed => ?_
        refine yields_bind (yields_reconcileUnpushed inv awaits framed) ?_ (fun _ y => kept y) kept
        intro names y framed
        refine next framed fun _ y framed => ?_
        refine next framed fun _ y framed => ?_
        refine next framed fun _ y framed => ?_
        refine next framed fun _ y framed => ?_
        exact next framed fun _ y framed => yields_clearInstallSource framed
      · exact yields_applyUpdate inv
  · exact yields_applyUpdate inv

theorem keeps_run {op : FlashOp β δ} (path : op.OnPath session)
    (other : session ≠ some .awaitingManifest) :
  Keeps Desk.Unawaiting (op.run κ crc hash w.toFlashWorld b)
  := by
  intro d idle
  have unapplied : ¬op.Applies b d := by
    rintro (_ | _) <;> exact path
  refine (FlashOp.outcome unapplied).mono fun _ _ outcome =>
    outcome.unawaiting idle fun u => ⟨?_, ?_⟩
  · rintro rfl
    exact path
  · rintro rfl
    exact other path

/-- An upload outside of a session does not open one. -/
theorem yields_upload {ops : List (FlashOp β δ)}
    (path : ∀ op ∈ ops, op.OnPath session) (framed : Framed x y) :
  Yields (upload κ crc hash w b ops) y fun _ z =>
    Framed x z ∧ (session ≠ some .awaitingManifest → y.desk.Unawaiting → z.desk.Unawaiting)
  := by
  induction ops generalizing y with
  | nil => exact ⟨framed, fun _ => id⟩
  | cons op _ ih =>
    rw [List.forall_mem_cons] at path
    have first : Yields (onDesk (op.run κ crc hash w.toFlashWorld b)) y fun _ z =>
        Framed x z ∧ (session ≠ some .awaitingManifest → y.desk.Unawaiting → z.desk.Unawaiting) :=
      ⟨yields_onDesk framed, fun other => keeps_run path.1 other y.desk⟩
    refine yields_bind first ?_ (fun _ _ => id) fun _ => id
    rintro ⟨⟩ z ⟨framed', kept⟩
    refine (ih path.2 framed').mono ?_
    rintro _ z' ⟨framed'', kept'⟩
    exact ⟨framed'', fun other idle => kept' other (kept other idle)⟩

/-- A call that keeps to the scope of the source keeps the invariant. -/
theorem yields_run {action : PullAction β δ} (inv : x.Inv) (possible : x.Possible action)
    (within : x.Scoped action) :
  Yields (action.run κ crc hash b w) x fun _ y => y.Inv
  := by
  cases action with
  | setInstallSource =>
    refine ⟨nofun, fun awaiting => .inr (within awaiting), inv.fetched⟩
  | startFlash => exact yields_startFlash inv within
  | upload =>
    refine (yields_upload possible inv.framed).mono ?_
    rintro _ y ⟨framed, kept⟩
    refine inv.of_framed framed fun awaiting => ?_
    by_contra idle
    have other : x.desk.flash.session ≠ some .awaitingManifest :=
      fun manifest => idle (.inl manifest)
    exact kept other idle awaiting
  | abortSession => exact yields_abortSession inv
  | abortFlash =>
    refine yields_get_bind ?_
    split
    · exact inv
    · exact yields_abortSession inv
  | finalizeFlash => exact yields_finalizeFlash inv

theorem Step.inv (step : Step κ crc hash b Scoped x y) (inv : x.Inv) :
  y.Inv
  := by
  obtain ⟨w, action, _, possible, within, run, -⟩ := step
  have kept : Yields (action.run κ crc hash b w) x fun _ y => y.Inv :=
    yields_run inv possible within
  rwa [Yields, run] at kept

/-- Without a source nothing is fetched when the update is finalized, and it is finalized only if
every part that was not sent is in the active bank. -/
theorem yields_finalizeFlash_unset {present : Finset ℕ} (none : x.installSource = none)
    (payload : x.desk.flash.session = some (.awaitingPayload m present)) :
  Yields (finalizeFlash κ crc hash w b) x fun res y =>
    y.fetches = x.fetches ∧ ∀ u, res = .ok u → Complete b hash m present x
  := by
  refine yields_get_bind ?_
  rw [payload]
  dsimp only
  split
  · next disables =>
    refine yields_unfetching_bind rfl (fun enabled => ?_) fun _ y same =>
      ⟨same, fun _ _ enabled => ?_⟩
    · rw [disables] at enabled
      cases enabled
    · rw [disables] at enabled
      cases enabled
  · split
    · next =>
      have target : Yields (onDesk b.determineTargetBank) x fun _ y => y = x :=
        run_determineTargetBank
      refine yields_bind target ?_ ?_ ?_
      · intro target y same
        rw [same]
        refine yields_bind (yields_reconcileUnpushed_unset none) ?_ ?_ ?_
        · rintro names y ⟨same, found⟩
          have found : Complete b hash m present x := fun _ _ => found names rfl
          refine yields_unfetching_bind same found fun _ y same => ?_
          refine yields_unfetching_bind same found fun _ y same => ?_
          refine yields_unfetching_bind same found fun _ y same => ?_
          refine yields_unfetching_bind same found fun _ y same => ?_
          exact yields_unfetching_bind same found fun _ y same => ⟨same, fun _ _ => found⟩
        · rintro e y ⟨same, -⟩
          exact ⟨same, nofun⟩
        · rintro y ⟨same, -⟩
          exact ⟨same, nofun⟩
      · rintro e _ rfl
        exact ⟨rfl, nofun⟩
      · rintro _ rfl
        exact ⟨rfl, nofun⟩
    · next absent =>
      have nothing : Complete b hash m present x := by
        intro _ images i there
        exact absurd ⟨images, List.ne_nil_of_mem there⟩ absent
      exact yields_unfetching_bind rfl nothing fun _ y same => ⟨same, fun _ _ => nothing⟩

end PullDesk

/-- In every run in which sources are set and sessions opened as is scoped: every part was fetched
from the source of the campaign that had opened the session. A session for which no campaign has set
a source fetches nothing, and is not finalized unless every part that was not sent is in the active
bank. -/
theorem fetches_from_own_source [DecidableEq δ] {x : PullDesk σ β δ}
    (run : Reachable PullDesk.Starts (PullDesk.Step κ crc hash b PullDesk.Scoped) x) :
  (∀ f ∈ x.fetches, f.Own) ∧
  ∀ (w : PullWorld σ β) m present, x.desk.flash.session = some (.awaitingPayload m present) →
    (∀ c, x.opener = some (some c) → x.setter ≠ some c) →
    (PullDesk.finalizeFlash κ crc hash w b x).2.fetches = x.fetches ∧
    ((PullDesk.finalizeFlash κ crc hash w b x).1 = .ok () → m.disableTarget = false →
      b.provider.imagesDir = true → ∀ i ∈ m.absentParts present,
        ∃ bs, (b.nvBank x.desk.here).1 = .ok bs ∧
          PullDesk.Found hash m (x.desk.flash.area bs.activeBank).files i)
  := by
  have inv : x.Inv := run.invariant (fun _ starts => starts.inv) fun _ _ inv step => step.inv inv
  refine ⟨inv.fetched, fun w m present payload foreign => ?_⟩
  have unset : x.setter = none := by
    rcases inv.owned (.inr ⟨m, present, payload⟩) with unset | own
    · exact unset
    · cases set : x.setter with
      | none => rfl
      | some c =>
        rw [set] at own
        exact absurd set (foreign c own)
  have ends : Yields (PullDesk.finalizeFlash κ crc hash w b) x _ :=
    PullDesk.yields_finalizeFlash_unset (inv.tagged unset) payload
  exact ⟨ends.1, fun returned => ends.2 () returned⟩

end Runs

namespace TwoMachines

def campaignStore : InstallSource :=
  { casBaseUrl := "https://cas", trustAnchor := [1] }

def fetchable : Manifest ℕ :=
  { components :=
      [{ componentId := some ["kernel"], imageDigest := some 7, uri := some "sha256:07" }] }

/-- The coordinator refuses a session, or does not; what is fetched is the part. -/
def pullWorld (gate : Option String) : PullWorld Store ℕ :=
  { env := working, gate, contentAddress := fun _ => true, fetch := fun _ _ => .ok 7 }

def vm1Desk : PullDesk Store ℕ ℕ :=
  { desk :=
      { here :=
          { shared := { start with nv :=
              { deviceSize := BANKSET_BASE + 3 * BANKSET_STRIDE, bootState := some {} } }
            memory := {} }
        flash := { area := fun _ => {} } } }

def pulls (gate : Option String) (action : PullAction ℕ ℕ) (x : PullDesk Store ℕ ℕ) :
    Ending BackendError Unit × PullDesk Store ℕ ℕ :=
  action.run stubSigner (fun _ => 0) id { provider := vm1 } (pullWorld gate) x

def manifestUpload : PullAction ℕ ℕ :=
  .upload [.receivePackagePart none, .settleManifest 0 fetchable, .openSession 0]

def sourceSet : PullDesk Store ℕ ℕ :=
  (pulls none (.setInstallSource 1 campaignStore) vm1Desk).2

def sessionRefused : PullDesk Store ℕ ℕ :=
  (pulls (some "busy") (.startFlash (some 1)) sourceSet).2

def manifestSent (who : Option ℕ) (x : PullDesk Store ℕ ℕ) :
    PullDesk Store ℕ ℕ :=
  (pulls none manifestUpload (pulls none (.startFlash who) x).2).2

def finalizedBy (who : Option ℕ) (x : PullDesk Store ℕ ℕ) :
    PullDesk Store ℕ ℕ :=
  (pulls none .finalizeFlash (manifestSent who x)).2

section

variable {allowed : PullDesk Store ℕ ℕ → PullAction ℕ ℕ → Prop}
  {x : PullDesk Store ℕ ℕ}

theorem pulls_reached
    (reached : Reachable PullDesk.Starts
      (PullDesk.Step stubSigner (fun _ => 0) id { provider := vm1 } allowed) x)
    (gate : Option String) (action : PullAction ℕ ℕ) (possible : x.Possible action)
    (permitted : allowed x action) (returned : (pulls gate action x).1 ≠ .stopped) :
  Reachable PullDesk.Starts (PullDesk.Step stubSigner (fun _ => 0) id { provider := vm1 } allowed)
    (pulls gate action x).2
  := reached.step ⟨pullWorld gate, action, _, possible, permitted, rfl, returned⟩

theorem vm1Desk_starts :
  vm1Desk.Starts
  := ⟨rfl, rfl, rfl, rfl, rfl⟩

/-- The steps of the upload of a manifest are possible while the manifest is awaited. -/
theorem manifestUpload_possible (awaited : x.desk.flash.session = some .awaitingManifest) :
  x.Possible manifestUpload
  := by
  intro op mem
  simp only [List.mem_cons, List.not_mem_nil, or_false] at mem
  rcases mem with rfl | rfl | rfl
  · trivial
  · exact awaited
  · exact awaited

end

end TwoMachines

open TwoMachines in
/-- The session of a campaign is refused after it has set its source. The client that comes next
pushes a manifest, and the part is fetched from the source of the campaign. -/
theorem left_source_is_used :
  ∃ x : PullDesk Store ℕ ℕ, Reachable PullDesk.Starts
      (PullDesk.Step stubSigner (fun _ => 0) id { provider := vm1 } fun _ _ => True) x ∧
    x.fetches = [{ part := 0, source := campaignStore, setter := some 1, opener := some none }]
  := by
  refine ⟨finalizedBy none sessionRefused, ?_, by decide +kernel⟩
  have set : Reachable PullDesk.Starts
      (PullDesk.Step stubSigner (fun _ => 0) id { provider := vm1 } fun _ _ => True) sourceSet :=
    pulls_reached (.init vm1Desk_starts) none (.setInstallSource 1 campaignStore)
      trivial trivial nofun
  have refused := pulls_reached set (some "busy") (.startFlash (some 1)) trivial trivial
    (by decide +kernel)
  have opened := pulls_reached refused none (.startFlash none) trivial trivial (by decide +kernel)
  have sent := pulls_reached opened none manifestUpload (manifestUpload_possible rfl) trivial
    (by decide +kernel)
  exact pulls_reached sent none .finalizeFlash trivial trivial (by decide +kernel)

open TwoMachines in
/-- A campaign whose session is opened fetches the part from its own source. -/
theorem own_source_is_used :
  ∃ (x : PullDesk Store ℕ ℕ) (f : Fetch), f ∈ x.fetches ∧ f.source = campaignStore ∧ f.Own
  := by
  have set : Reachable PullDesk.Starts
      (PullDesk.Step stubSigner (fun _ => 0) id { provider := vm1 } PullDesk.Scoped) sourceSet :=
    pulls_reached (.init vm1Desk_starts) none (.setInstallSource 1 campaignStore) trivial
      (by rintro (⟨⟨⟩⟩ | ⟨_, _, ⟨⟩⟩)) nofun
  have opened := pulls_reached set none (.startFlash (some 1)) trivial (.inr rfl)
    (by decide +kernel)
  have sent := pulls_reached opened none manifestUpload (manifestUpload_possible rfl) trivial
    (by decide +kernel)
  have finalized := pulls_reached sent none .finalizeFlash trivial trivial (by decide +kernel)
  have fetched : (finalizedBy (some 1) sourceSet).fetches =
      [{ part := 0, source := campaignStore, setter := some 1, opener := some (some 1) }] := by
    decide +kernel
  have mem : ⟨0, campaignStore, some 1, some (some 1)⟩ ∈
    (finalizedBy (some 1) sourceSet).fetches := by
    rw [fetched]
    exact List.mem_cons_self
  exact ⟨_, _, mem, rfl, (fetches_from_own_source _ _ _ _ finalized).1 _ mem⟩

end ComponentMgr
