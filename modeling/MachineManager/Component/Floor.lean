import MachineManager.Component.Campaign
import MachineManager.Component.FlashCalls

/-!
# The bank to fall back to

Several components are updated at a time, and their calls come in between each other. No call writes
to the bank of a component that the committed copy of the boot vector names, as long as no manifest
is under way when the update of its component is finalized, and no upload of a component on trial
when the vector is committed.

An upload reads its target bank when it begins, which is then not the committed one. Until the
update is finalized the committed copy has the active bank; afterwards the session is closed, until
the trial has ended.
-/

namespace ComponentMgr

open Call Nv Selector SystemBank FlashBackend List IvdBankProvider ComponentBackend Shared

variable {σ : Type} {s : Stand} {copies : σ → Copies} {b : ComponentBackend}

section Reads

variable {x : Shared σ}

section

variable (stands : b.Stands copies x s)
include stands

theorem ComponentBackend.Stands.fallbackTargetActive :
  b.provider.fallbackTargetActive x = s.active
  := by
  obtain ⟨bs, boot, active, -⟩ := stands.boot
  have entry : b.provider.bootState x.nv = some bs := boot
  rw [IvdBankProvider.fallbackTargetActive, entry, ← active]
  rfl

theorem ComponentBackend.Stands.targetBank (dual : b.provider.singleBank = false) :
  b.provider.targetBank x = s.active.other
  := by
  rw [IvdBankProvider.targetBank, dual, if_neg nofun, stands.fallbackTargetActive]

/-- No reboot is pending if the vector boots the active bank. -/
theorem ComponentBackend.Stands.primary_eq (tidy : Tidy copies x)
    (wired : b.provider.selector = true) (settled : b.provider.pendingReboot x = false) :
  s.primary = s.active
  := by
  have selected : b.provider.selectedBank x = some s.primary := by
    have banks := (banksAt_of_following tidy.following b.provider.componentId).symm.trans
      stands.banks
    rw [selectedBank, if_pos wired]
    apply congrArg Prod.fst banks
  rw [pendingReboot, selected, stands.fallbackTargetActive] at settled
  simpa using settled

end

end Reads

/-! ### Updates that leave the committed bank alone -/

def Upload.isManifest {δ : Type} : Upload δ → Bool
  | manifest | settled .. => true
  | _ => false

def FlashSessionState.Accepting {δ : Type} : FlashSessionState δ → Prop
  | awaitingManifest => True
  | awaitingPayload m present => m.absentParts present ≠ []
  | complete => False

/-- The session is closed and no manifest is on its way. -/
structure Flash.Closed {β δ : Type} (f : Flash β δ) : Prop where
  session : ∀ session ∈ f.session, ¬session.Accepting
  uploads : ∀ u, ∀ upload ∈ f.uploads u, upload.isManifest = false

/-- An update is in order for a component: unless the committed copy has the active bank, the
session is closed and no manifest is on its way; no call under way writes to the committed bank; and
a session that awaits its manifest has no package. -/
structure Flash.Guarded {β δ : Type} (f : Flash β δ) (s : Stand) : Prop where
  closed : s.secondary ≠ s.active → f.Closed
  targets : ∀ u, ∀ upload ∈ f.uploads u, upload.target ≠ some s.secondary
  unpacked : f.session = some .awaitingManifest → f.package = none

variable {β δ : Type} {hash : β → δ} {κ : Signing} {f : Flash β δ} {d : Desk σ β δ}
  {crc : List UInt8 → UInt32}

namespace Flash.Guarded

section

variable (guarded : f.Guarded s)
include guarded

theorem congr {g : Flash β δ} (session : g.session = f.session) (uploads : g.uploads = f.uploads)
    (package : g.package = f.package ∨ g.package = none) :
  g.Guarded s
  where
  closed apart := by
    refine ⟨?_, ?_⟩
    · rw [session]
      apply (guarded.closed apart).session
    · rw [uploads]
      apply (guarded.closed apart).uploads
  targets := by
    rw [uploads]
    apply guarded.targets
  unpacked awaits := by
    rcases package with same | none
    · rw [same]
      apply guarded.unpacked (session.symm.trans awaits)
    · apply none

theorem setArea (bank : Bank) (area : BankArea β δ) :
  (f.setArea bank area).Guarded s
  := guarded.congr rfl rfl (.inl rfl)

/-- A call under way goes on as another one, or it ends. -/
theorem setUpload (u : ℕ) {upload : Option (Upload δ)}
    (closed : s.secondary ≠ s.active → ∀ up ∈ upload, up.isManifest = false)
    (targets : ∀ up ∈ upload, up.target ≠ some s.secondary) :
  (f.setUpload u upload).Guarded s
  where
  closed apart := by
    refine ⟨(guarded.closed apart).1, ?_⟩
    intro v up mem
    dsimp only [Flash.setUpload] at mem
    split at mem
    · apply closed apart up mem
    · apply (guarded.closed apart).2 v up mem
  targets v up mem := by
    dsimp only [Flash.setUpload] at mem
    split at mem
    · apply targets up mem
    · apply guarded.targets v up mem
  unpacked := guarded.unpacked

theorem dropUpload (u : ℕ) :
  (f.setUpload u none).Guarded s
  := guarded.setUpload u nofun nofun

theorem goesOn (u : ℕ) (up : Upload δ) (closed : s.secondary ≠ s.active → up.isManifest = false)
    (target : up.target ≠ some s.secondary) :
  (f.setUpload u (some up)).Guarded s
  := by
  apply guarded.setUpload
  · rintro apart _ ⟨⟩
    apply closed apart
  · rintro _ ⟨⟩
    apply target

theorem registered {up : Upload δ} (closed : s.secondary ≠ s.active → up.isManifest = false)
    (target : up.target ≠ some s.secondary) :
  (f.registered up).Guarded s
  := (guarded.goesOn f.nextId up closed target).congr rfl rfl (.inl rfl)

theorem cleared :
  f.cleared.Guarded s
  := ⟨fun apart => ⟨nofun, (guarded.closed apart).2⟩, guarded.targets, nofun⟩

theorem started (together : s.secondary = s.active) :
  f.started.Guarded s
  := ⟨fun apart => absurd together apart, guarded.targets, fun _ => rfl⟩

/-- The session is complete. -/
theorem complete :
  ({ f with session := some .complete } : Flash β δ).Guarded s
  where
  closed apart := by
    refine ⟨?_, (guarded.closed apart).2⟩
    rintro _ ⟨⟩ accepting
    apply accepting
  targets := guarded.targets
  unpacked := nofun

end

end Flash.Guarded

theorem Manifest.absentParts_insert {m : Manifest δ} {present : Finset ℕ}
    (complete : m.absentParts present = []) (i : ℕ) :
  m.absentParts (insert i present) = []
  := by
  simp only [absentParts, filter_eq_nil_iff, decide_eq_true_eq, not_not] at complete ⊢
  intro j mem
  apply Finset.mem_insert_of_mem (complete j mem)

/-! ### The calls of an update -/

section Calls

variable (copies : σ → Copies) (b : FlashBackend) (x : Shared σ) (s : Stand)

/-- A call has changed nothing of the boot state and of the vector so far, the update is in order,
and nothing was written to the committed bank. -/
structure Orderly (d : Desk σ β δ) : Prop where
  running : d.here.shared.running = x.running
  boots : KeepsBoot x.nv d.here.shared.nv
  guarded : d.flash.Guarded s
  spared : ∀ t ∈ d.touched, t.1 ≠ s.secondary

variable {copies b x s} {w : FlashWorld σ}

namespace Orderly

section

variable (orderly : Orderly x s d) {bank : Bank}
include orderly

theorem withFlash (guarded : f.Guarded s) :
  Orderly x s { d with flash := f }
  := ⟨orderly.running, orderly.boots, guarded, orderly.spared⟩

theorem touch (spared : bank ≠ s.secondary) (how : Touch) (area : BankArea β δ) :
  Orderly x s { d with flash := d.flash.setArea bank area, touched := d.touched ++ [(bank, how)] }
  where
  __ := orderly
  guarded := orderly.guarded.setArea bank area
  spared := forall_mem_append.mpr ⟨orderly.spared, forall_mem_singleton.mpr spared⟩

/-- The committed copy has the active bank while the session takes a manifest or a payload. -/
theorem together_of_accepting {state : FlashSessionState δ} (session : d.flash.session = some state)
    (accepting : state.Accepting) :
  s.secondary = s.active
  := by
  by_contra apart
  exact (orderly.guarded.closed apart).session _ session accepting

variable {u : ℕ} {up : Upload δ} (upload : d.flash.uploads u = some up)
include upload

/-- The committed copy has the active bank while a manifest is on its way. -/
theorem together_of_manifest (manifest : up.isManifest = true) :
  s.secondary = s.active
  := by
  by_contra apart
  cases manifest.symm.trans ((orderly.guarded.closed apart).uploads u _ upload)

theorem spared_of_upload (target : up.target = some bank) :
  bank ≠ s.secondary
  := by
  rintro rfl
  exact orderly.guarded.targets u up upload target

end

end Orderly

/-- What holds of a component with two banks, whose update a call belongs to. -/
structure Placed (copies : σ → Copies) (b : FlashBackend) (x : Shared σ) (s : Stand) : Prop where
  tidy : Tidy copies x
  stands : b.Stands copies x s
  wired : b.provider.selector = true
  dualBank : b.singleBank = false ∧ b.provider.singleBank = false

theorem Placed.here (placed : Placed copies b x s) (orderly : Orderly x s d) :
  Placed copies b d.here.shared s
  := by
  obtain ⟨⟨⟨_, running⟩, _⟩, _, _⟩ := d
  obtain rfl : running = x.running := orderly.running
  exact ⟨⟨placed.tidy.following, placed.tidy.unstaged⟩, placed.stands.congr orderly.boots rfl,
    placed.wired, placed.dualBank⟩

section

variable (placed : Placed copies b x s) (orderly : Orderly x s d)
include placed orderly

theorem Placed.secondary_eq (untried : b.Untried d) :
  s.secondary = s.primary
  := by
  have here := placed.here orderly
  exact here.stands.secondary_eq here.tidy here.wired (untried placed.dualBank.1)

theorem Placed.aims {target : Bank} (aims : b.Aims d target) :
  s.active.other = target ∧ s.primary = s.active
  := by
  have here := placed.here orderly
  refine ⟨?_, here.stands.primary_eq here.tidy here.wired aims.settled⟩
  rw [← aims.target, here.stands.targetBank placed.dualBank.2]

variable [DecidableEq δ] {op : FlashOp β δ}

/-- What a call makes of the update is in order, and it writes to no committed bank. -/
theorem FlashChange.guarded {written : List (Bank × Touch)}
    (change : FlashChange b hash d op f written) :
  f.Guarded s ∧ ∀ t ∈ written, t.1 ≠ s.secondary
  := by
  have guarded := orderly.guarded
  have other (together : s.secondary = s.active) : s.active.other ≠ s.secondary := by
    rw [together]
    apply Bank.other_ne
  have target {bank : Bank} (spared : bank ≠ s.secondary) : some bank ≠ some s.secondary :=
    fun same => spared (Option.some.inj same)
  cases change with
  | stays => exact ⟨guarded, nofun⟩
  | drops _ u => exact ⟨guarded.dropUpload u, nofun⟩
  | clears => exact ⟨guarded.cleared, nofun⟩
  | starts untried aims =>
    obtain ⟨-, current⟩ := placed.aims orderly aims
    exact ⟨guarded.started ((placed.secondary_eq orderly untried).trans current), nofun⟩
  | manifest awaits =>
    refine ⟨guarded.registered (fun apart => ?_) nofun, nofun⟩
    exact absurd (orderly.together_of_accepting awaits trivial) apart
  | payload awaits absent next aims =>
    -- A part is owed, so that the session is open and the committed copy has the active bank.
    have together := orderly.together_of_accepting awaits
      (ne_nil_of_mem (Manifest.next_absent absent next))
    obtain ⟨rfl, -⟩ := placed.aims orderly aims
    refine ⟨Flash.Guarded.registered ?_ (fun _ => rfl) (target (other together)), nofun⟩
    exact guarded.congr rfl rfl (.inl rfl)
  | legacy _ untried aims =>
    obtain ⟨rfl, current⟩ := placed.aims orderly aims
    have spared := other ((placed.secondary_eq orderly untried).trans current)
    refine ⟨Flash.Guarded.registered ?_ (fun _ => rfl) (target spared),
      forall_mem_singleton.mpr spared⟩
    exact guarded.congr rfl rfl (.inr rfl)
  | settles upload aims =>
    have together := orderly.together_of_manifest upload rfl
    obtain ⟨rfl, -⟩ := placed.aims orderly aims
    refine ⟨?_, forall_mem_singleton.mpr (other together)⟩
    exact ((guarded.dropUpload _).setArea _ _).goesOn _ _ (absurd together)
      (target (other together))
  | opens _ upload _ _ uploads state =>
    have together := orderly.together_of_manifest upload rfl
    have spared := orderly.spared_of_upload upload rfl
    refine ⟨⟨fun apart => absurd together apart, ?_, fun awaits => ?_⟩, nofun⟩
    · rw [uploads]
      obtain ⟨rfl, -⟩ | ⟨rfl, -⟩ := state
      · exact (guarded.dropUpload _).targets
      · exact (guarded.goesOn _ (.sealing _) (absurd together) (target spared)).targets
    · obtain ⟨-, session⟩ | ⟨-, session, -⟩ := state <;> cases session.symm.trans awaits
  | writes upload =>
    exact ⟨guarded.setArea _ _, forall_mem_singleton.mpr (orderly.spared_of_upload upload rfl)⟩
  | pours upload whole =>
    refine ⟨guarded.setArea _ _, forall_mem_singleton.mpr (orderly.spared_of_upload upload ?_)⟩
    obtain rfl | ⟨_, _, _, rfl⟩ := whole <;> rfl
  | discards => exact ⟨(guarded.dropUpload _).setArea _ _, nofun⟩
  | @lands u i job _ _ _ _ lands =>
    have spared := orderly.spared_of_upload lands.upload rfl
    have landed := guarded.goesOn u (.landed job i) (fun _ => rfl) (target spared)
    refine ⟨landed.congr lands.session lands.uploads (.inl lands.package), ?_⟩
    obtain ⟨-, rfl, -⟩ | ⟨-, rfl, -⟩ := lands.place
    · exact forall_mem_singleton.mpr spared
    · nofun
  | counts _ awaits owed =>
    have dropped := guarded.dropUpload
    refine ⟨⟨fun apart => ⟨?_, ((dropped _).closed apart).2⟩, (dropped _).targets, nofun⟩, nofun⟩
    rintro _ ⟨⟩ -
    have complete := Classical.not_not.mp ((guarded.closed apart).1 _ awaits)
    apply owed (Manifest.absentParts_insert complete _)
  | completes upload _ complete =>
    have spared := orderly.spared_of_upload upload rfl
    exact ⟨(guarded.goesOn _ (.sealing _) (fun _ => rfl) (target spared)).complete, nofun⟩
  | disables => exact ⟨guarded.complete, nofun⟩
  | reconciles awaits owed aims =>
    have together := orderly.together_of_accepting awaits owed
    obtain ⟨rfl, -⟩ := placed.aims orderly aims
    exact ⟨guarded.registered (fun _ => rfl) (target (other together)), nofun⟩
  | fetches upload =>
    have spared := orderly.spared_of_upload upload rfl
    refine ⟨?_, forall_mem_singleton.mpr spared⟩
    exact ((guarded.dropUpload _).setArea _ _).goesOn _ _ (fun _ => rfl) (target spared)
  | refuses upload =>
    exact ⟨(guarded.dropUpload _).setArea _ _, forall_mem_singleton.mpr
      (orderly.spared_of_upload upload rfl)⟩

theorem FlashOutcome.inOrder {d' : Desk σ β δ} (outcome : FlashOutcome b hash d w op d') :
  Orderly x s d'
  := by
  cases outcome with
  | changes tends change writes =>
    obtain ⟨guarded, spared⟩ := change.guarded placed orderly
    refine ⟨tends.running.trans orderly.running, orderly.boots.trans ?_, guarded, ?_⟩
    · rcases tends.nv with same | ⟨_, same⟩
      · rw [same]
        exact .refl _
      · rw [same]
        exact fun _ => rfl
    · rw [writes]
      exact forall_mem_append.mpr ⟨orderly.spared, spared⟩
  | seals _ upload =>
    have spared := orderly.spared_of_upload upload rfl
    exact ivdSignStagedBank_keeps (fun _ how area kept => kept.touch spared how area)
      (orderly.withFlash (orderly.guarded.dropUpload _))

end

/-- What a call of an update leaves behind. The boot state and the vector are those from before,
unless an install was granted; if it was one of a package, the session is closed. -/
structure Leaves (copies : σ → Copies) (b : FlashBackend) (x : Shared σ) (s : Stand)
    (d : Desk σ β δ) :
    Prop where
  tidy : Tidy copies d.here.shared
  guarded : d.flash.Guarded s
  spared : ∀ t ∈ d.touched, t.1 ≠ s.secondary
  moved : ∃ y : Shared σ, y.running = x.running ∧ KeepsBoot x.nv y.nv ∧
    (KeepsBoot y.nv d.here.shared.nv ∧
      (∀ id, d.here.shared.banksAt copies id = y.banksAt copies id) ∨
      ∃ package, b.Granted copies y d.here.shared (.install package) ∧
        (package ≠ none → d.flash.Closed))

theorem Orderly.leaves (orderly : Orderly x s d) (placed : Placed copies b x s) :
  Leaves copies b x s d
  where
  tidy := (placed.here orderly).tidy
  __ := orderly
  moved := ⟨d.here.shared, orderly.running, orderly.boots, .inl ⟨.refl _, fun _ => rfl⟩⟩

namespace FlashBackend

section

variable (placed : Placed copies b x s) (works : Works copies w.env x.running.store)
include placed works

theorem applyUpdate_leaves (orderly : Orderly x s d)
    (closed : d.flash.package ≠ none → d.flash.Closed) :
  Yields (b.applyUpdate κ crc w) d fun res d' => res ≠ .stopped → Leaves copies b x s d'
  := by
  have here := placed.here orderly
  have works' : Works copies w.env d.here.shared.running.store := by
    rw [orderly.running]
    apply works
  refine yields_get_bind (yields_zoom ?_)
  refine (installAndActivate_granted here.tidy works' here.wired here.dualBank.1).mono ?_
  intro answer l granted returned
  obtain ⟨tidy, moved⟩ := granted returned
  refine ⟨tidy, orderly.guarded, orderly.spared, d.here.shared, orderly.running, orderly.boots, ?_⟩
  rcases moved with ⟨-, granted⟩ | ⟨-, keeps⟩
  · right
    refine ⟨_, granted, ?_⟩
    intro given
    apply closed
    intro none
    apply given
    rw [none]
    cases d.here.memory.flashTransfer <;> rfl
  · left
    apply keeps

theorem endReconcile_leaves (orderly : Orderly x s d)
    (quiet : ∀ u, ∀ upload ∈ d.flash.uploads u, upload.isManifest = false) (u : ℕ) :
  Yields (b.endReconcile hash κ crc w u) d fun res d' => res ≠ .stopped → Leaves copies b x s d'
  := by
  let P : Desk σ β δ → Prop := fun d =>
    Orderly x s d ∧ ∀ v, ∀ up ∈ d.flash.uploads v, up.isManifest = false
  have ends : ∀ d, P d → Leaves copies b x s d := fun _ kept => kept.1.leaves placed
  refine yields_get_bind ?_
  split
  next m target done upload =>
    have start : P { d with flash := d.flash.setUpload u none } := by
      refine ⟨orderly.withFlash (orderly.guarded.dropUpload u), ?_⟩
      intro v up mem
      dsimp only [Flash.setUpload] at mem
      split at mem
      · cases mem
      · apply quiet v up mem
    refine yields_modify_bind ?_
    refine yields_bind (pushStreamed_keeps (P := P) ?_ start) (fun _ _ noted => ?_)
      (fun _ d kept _ => ends d kept) fun d kept _ => ends d kept
    · intro _ files kept
      exact ⟨kept.1.withFlash (kept.1.guarded.congr rfl rfl (.inl rfl)), kept.2⟩
    refine yields_bind (ivdSignStagedBank_keeps (P := P) ?_ noted) (fun _ _ signed => ?_)
      (fun _ d kept _ => ends d kept) fun d kept _ => ends d kept
    · intro _ how area kept
      exact ⟨kept.1.touch (orderly.spared_of_upload upload rfl) how area, kept.2⟩
    refine yields_modify_bind (yields_modify_bind (applyUpdate_leaves placed works ?_ fun _ => ?_))
    · exact ⟨signed.1.running, signed.1.boots, signed.1.guarded.complete, signed.1.spared⟩
    · refine ⟨?_, signed.2⟩
      rintro _ ⟨⟩ accepting
      apply accepting
  next => exact fun _ => orderly.leaves placed

/-- The bank of the trial is wiped once NV has gone back, so that it is not the committed one. -/
theorem rollbackFlash_granted (held : s.committed = false → s.Held) (orderly : Orderly x s d)
    (shared : d.here.shared = x) :
  Yields (b.rollbackFlash w) d fun res d' => res ≠ .stopped →
    Tidy copies d'.here.shared ∧ d'.flash.uploads = d.flash.uploads ∧
    d'.flash.session = d.flash.session ∧ d'.flash.package = d.flash.package ∧
    (∀ t ∈ d'.touched, t.1 ≠ s.secondary) ∧
    (b.Granted copies x d'.here.shared .rollback ∨ KeepsBoot x.nv d'.here.shared.nv ∧
      ∀ id, d'.here.shared.banksAt copies id = x.banksAt copies id)
  := by
  subst shared
  rw [rollbackFlash]
  split
  · exact fun _ => ⟨placed.tidy, rfl, rfl, rfl, orderly.spared, .inr ⟨.refl _, fun _ => rfl⟩⟩
  refine yields_seq (yields_zoom (yields_mapErr (yields_zoom ?_)))
  refine (rollback_banks placed.tidy works placed.wired).mono fun res y settles => ?_
  cases res with
  | stopped => exact fun returned => absurd rfl returned
  | err =>
    intro _
    obtain ⟨tidy, ⟨ok, -⟩ | ⟨-, kept⟩⟩ := settles nofun
    · cases ok
    · exact ⟨tidy, rfl, rfl, rfl, orderly.spared, .inr kept⟩
  | ok =>
    obtain ⟨tidy, ⟨-, boots, banks⟩ | ⟨failed, -⟩⟩ := settles nofun
    · have granted : b.Granted copies d.here.shared y .rollback := ⟨boots, banks⟩
      obtain ⟨t, stands, trial, moved⟩ := placed.stands.of_granted granted
      subst moved
      have spared : b.provider.targetBank y ≠ s.secondary := by
        have held : s.secondary = s.active.other := held trial
        rw [stands.targetBank placed.dualBank.2, held, Stand.rollback]
        rw [Bank.other_other]
        apply (Bank.other_ne _).symm
      have wiped := (orderly.touch spared .wipe {}).spared
      obtain ⟨_, resolved, keeps⟩ := resolveNodeTransaction_banks works
        b.toComponentBackend { d.here with shared := y }
      refine yields_get_bind (yields_modify_bind (yields_seq (yields_zoom ?_)))
      rw [Yields, resolved]
      exact fun _ => ⟨⟨tidy.following, tidy.unstaged⟩, rfl, rfl, rfl, wiped,
        .inl ⟨boots.trans_keeps keeps, banks⟩⟩
    · apply absurd rfl failed

end

end FlashBackend

/-- A call that applies the update while no manifest is on its way, and every other call, leaves the
update in order. -/
theorem FlashOp.leaves [DecidableEq δ]
    (placed : Placed copies b x s) (works : Works copies w.env x.running.store)
    (onDisk : b.provider.imagesDir = true) (orderly : Orderly x s d) (op : FlashOp β δ)
    (quiet : op.Applies b d → ∀ u, ∀ upload ∈ d.flash.uploads u, upload.isManifest = false) :
  Yields (op.run κ crc hash w b) d fun res d' => res ≠ .stopped → Leaves copies b x s d'
  := by
  by_cases applies : op.Applies b d
  · specialize quiet applies
    cases applies with
    | finalizeFlash complete =>
      rw [run, Yields, finalizeFlash_of_complete complete]
      refine applyUpdate_leaves placed works orderly fun given => ⟨?_, quiet⟩
      intro state session accepting
      cases state with
      | awaitingManifest => apply given (orderly.guarded.unpacked session)
      | awaitingPayload m present =>
        rcases (complete m present session).2 with offDisk | nothing
        · cases offDisk.symm.trans onDisk
        · apply accepting nothing
      | complete => apply accepting
    | endReconcile => exact endReconcile_leaves placed works orderly quiet _
  · exact (FlashOp.outcome applies).mono fun _ _ outcome _ =>
      (outcome.inOrder placed orderly).leaves placed

end Calls

/-! ### Sites -/

def ComponentBackend.onFiles (b : ComponentBackend) : FlashBackend where
  toComponentBackend := b
  stages := true

/-- Components whose banks are directories. -/
structure FileFleet extends Fleet where
  onDisk : ∀ b ∈ backends, b.provider.imagesDir = true

/-- A bank was written to, when the committed copy of the vector had `floor` for the component. -/
structure Stamp where
  id : String
  bank : Bank
  how : Touch
  floor : Option Bank

/-- The node with the updates of its components, and all that was written to their banks. -/
structure Site (σ β δ : Type) where
  node : NodeState σ
  flash : String → Flash β δ
  touched : List Stamp := []

def Flash.restarted {β δ : Type} (f : Flash β δ) : Flash β δ where
  nextId := f.nextId
  area := f.area

/-- What happens on a site: calls of the components, resets, and starts of the node. -/
inductive SiteEvent (β δ : Type)
  | updated (b : ComponentBackend) (op : FlashOp β δ)
  | committed (b : ComponentBackend)
  | rolledBack (b : ComponentBackend)
  | reset
  | restarted (restart : Restart)

section Sites

variable [DecidableEq δ] (κ : Signing) (crc : List UInt8 → UInt32) (hash : β → δ)
  (copies : σ → Copies) (fleet : FileFleet)

def Site.desk (x : Site σ β δ) (id : String) : Desk σ β δ where
  here := x.node.localOf id
  flash := x.flash id

/-- The site after a call of a component. No call that writes to a bank changes the committed copy
afterwards. -/
def Site.after (x : Site σ β δ) (id : String) (d : Desk σ β δ) : Site σ β δ where
  node := x.node.setLocal id d.here
  flash id' := if id' = id then d.flash else x.flash id'
  touched := x.touched ++ d.touched.map fun t => ⟨id, t.1, t.2, (d.here.shared.banksAt copies id).2⟩

/-- An event, while no write fails. The boot vector is found as it was left or with the committed
copy restored when the node starts again. -/
inductive SiteStep (x : Site σ β δ) : SiteEvent β δ → Site σ β δ → Prop
  | updated {b : ComponentBackend} (mem : b ∈ fleet.backends) {w : FlashWorld σ}
      (works : Works copies w.env x.node.shared.running.store) {op : FlashOp β δ}
      {answer : Ending BackendError Unit} {d : Desk σ β δ}
      (call : op.run κ crc hash w b.onFiles (x.desk b.provider.componentId) = (answer, d))
      (returned : answer ≠ .stopped) :
      SiteStep x (.updated b op) (x.after copies b.provider.componentId d)
  | committed {b : ComponentBackend} (mem : b ∈ fleet.backends) {w : FlashWorld σ}
      (works : Works copies w.env x.node.shared.running.store) {answer : Ending BackendError Unit}
      {d : Desk σ β δ}
      (call : onHere (b.commitFlash w.toWorld) (x.desk b.provider.componentId) = (answer, d))
      (returned : answer ≠ .stopped) :
      SiteStep x (.committed b) (x.after copies b.provider.componentId d)
  | rolledBack {b : ComponentBackend} (mem : b ∈ fleet.backends) {w : FlashWorld σ}
      (works : Works copies w.env x.node.shared.running.store) {answer : Ending BackendError Unit}
      {d : Desk σ β δ}
      (call : b.onFiles.rollbackFlash w (x.desk b.provider.componentId) = (answer, d))
      (returned : answer ≠ .stopped) :
      SiteStep x (.rolledBack b) (x.after copies b.provider.componentId d)
  | reset (memory : String → Memory) :
      SiteStep x .reset { x with node := { x.node with memory } }
  | restarted {restart : Restart} {s t : σ} {m : SystemBankManager} (S : SelectorStore σ)
      (honours : Honours copies S)
      (finds : restart.Finds (copies x.node.shared.running.store) (copies s))
      (found : restart ≠ .other) (loaded : load S s = (.ok m, t)) (memory : String → Memory) :
      SiteStep x (.restarted restart) { x with
        node := { shared := { x.node.shared with running := ⟨t, m⟩ }, memory }
        flash := fun id => (x.flash id).restarted }

/-- Nothing is under way that an event would disturb. No manifest is on its way when an update is
applied, no upload of a component on trial when the vector is committed, and a component that is
rolled back in a trial has the bank from before the install as its committed one. -/
def Undisturbed (x : Site σ β δ) : SiteEvent β δ → Prop
  | .updated b op => op.Applies b.onFiles (x.desk b.provider.componentId) →
      ∀ u, ∀ upload ∈ (x.flash b.provider.componentId).uploads u, upload.isManifest = false
  | .committed _ => ∀ d ∈ fleet.backends, ∀ s, d.Stands copies x.node.shared s →
      s.primary ≠ s.secondary →
      ∀ u, ∀ upload ∈ (x.flash d.provider.componentId).uploads u, upload.target = none
  | .rolledBack b => ∀ s, b.Stands copies x.node.shared s → s.committed = false → s.Held
  | _ => True

/-- Events one after the other, each of them allowed in its state. -/
def SiteRun (allowed : Site σ β δ → SiteEvent β δ → Prop)
    (start : Site σ β δ) : Site σ β δ → Prop :=
  Reachable (· = start) fun x y =>
    ∃ event, allowed x event ∧ SiteStep κ crc hash copies fleet x event y

end Sites

namespace Flash.Guarded

section

variable (guarded : f.Guarded s)
include guarded

/-- The guard depends on the committed and the active bank only. -/
theorem congrStand {t : Stand} (secondary : t.secondary = s.secondary)
    (active : t.active = s.active) :
  f.Guarded t
  where
  closed apart := by
    rw [secondary, active] at apart
    apply guarded.closed apart
  targets := by
    rw [secondary]
    apply guarded.targets
  unpacked := guarded.unpacked

theorem arm (closed : f.Closed) :
  f.Guarded s.arm
  := ⟨fun _ => closed, guarded.targets, guarded.unpacked⟩

theorem rollback (held : s.Held) :
  f.Guarded s.rollback
  := ⟨fun apart => absurd held apart, guarded.targets, guarded.unpacked⟩

/-- The vector was committed while nothing was written to the bank on trial. -/
theorem promote (agrees : s.Agrees)
    (idle : s.primary ≠ s.secondary → ∀ u, ∀ upload ∈ f.uploads u, upload.target = none) :
  f.Guarded s.promote
  := by
  by_cases same : s.primary = s.secondary
  · exact guarded.congrStand same rfl
  · have primary : s.primary = s.active := by
      cases committed : s.committed with
      | true => apply (agrees.committed committed).1
      | false => apply (agrees.trial committed).resolve_right same
    refine ⟨fun apart => absurd primary apart, ?_, guarded.unpacked⟩
    intro u upload mem
    rw [idle same u upload mem]
    nofun

end

theorem restarted :
  f.restarted.Guarded s
  := ⟨fun _ => ⟨nofun, nofun⟩, nofun, nofun⟩

end Flash.Guarded

section Sites

variable {x : Site σ β δ}

/-- What holds of every component all along. -/
structure Secure (copies : σ → Copies) (x : Site σ β δ) (b : ComponentBackend)
    (s : Stand) : Prop where
  stands : b.Stands copies x.node.shared s
  agrees : s.Agrees
  guarded : (x.flash b.provider.componentId).Guarded s

/-- What a request needs of the update of a component, so that the update stays in order. -/
def Request.Spares (f : Flash β δ) (s : Stand) : Request → Prop
  | install package => package ≠ none → f.Closed
  | commit => s.primary ≠ s.secondary → ∀ u, ∀ upload ∈ f.uploads u, upload.target = none
  | rollback => s.committed = false → s.Held

/-- Nothing was written to a bank while it was the committed one. -/
def Site.Spared (x : Site σ β δ) : Prop :=
  ∀ t ∈ x.touched, t.floor ≠ some t.bank

variable {z : Shared σ} {request : Request}

theorem Site.Spared.after (spared : x.Spared) {t : Stand} (stands : b.Stands copies d.here.shared t)
    (others : ∀ u ∈ d.touched, u.1 ≠ t.secondary) :
  (x.after copies b.provider.componentId d).Spared
  := by
  intro stamp mem
  rcases mem_append.mp mem with earlier | last
  · apply spared stamp earlier
  · obtain ⟨u, touched, rfl⟩ := mem_map.mp last
    rw [stands.banks]
    intro same
    apply others u touched (Option.some.inj same).symm

/-- A request that is granted keeps the update of its component in order. -/
theorem Secure.of_granted (secure : Secure copies x b s)
    (running : z.running = x.node.shared.running) (boots : KeepsBoot x.node.shared.nv z.nv)
    (granted : ComponentBackend.Granted copies b z d.here.shared request)
    (guarded : d.flash.Guarded s) (spares : request.Spares d.flash s) :
  ∃ t, Secure copies (x.after copies b.provider.componentId d) b t ∧
    (request = .commit ∨ t.secondary = s.secondary)
  := by
  have banks : z.banksAt copies b.provider.componentId =
      x.node.shared.banksAt copies b.provider.componentId := by
    rw [banksAt, running, banksAt]
  obtain ⟨t, stands, moves⟩ := (secure.stands.congr boots banks).of_granted granted
  have flash : (x.after copies b.provider.componentId d).flash b.provider.componentId = d.flash :=
    if_pos rfl
  have secured : t.Agrees → d.flash.Guarded t →
      Secure copies (x.after copies b.provider.componentId d) b t := by
    intro agrees guarded
    refine ⟨stands, agrees, ?_⟩
    rw [flash]
    apply guarded
  cases request with
  | install =>
    rcases moves with rfl | ⟨given, -, rfl⟩
    · exact ⟨_, secured secure.agrees.reseal (guarded.congrStand rfl rfl), .inr rfl⟩
    · exact ⟨_, secured (.arm s) (guarded.arm (spares given)), .inr rfl⟩
  | commit =>
    obtain ⟨primary, rfl⟩ := moves
    exact ⟨_, secured (.commit primary) ((guarded.promote secure.agrees spares).congrStand rfl rfl),
      .inl rfl⟩
  | rollback =>
    obtain ⟨trial, rfl⟩ := moves
    exact ⟨_, secured (.rollback (spares trial)) (guarded.rollback (spares trial)), .inr rfl⟩

variable {after : Desk σ β δ}

/-- A request that is granted keeps the updates of the other components in order. -/
theorem Secure.of_granted_other {d : ComponentBackend}
    (otherId : d.provider.componentId ≠ b.provider.componentId)
    (otherSet : d.provider.bankSet ≠ b.provider.bankSet) (secure : Secure copies x d s)
    (running : z.running = x.node.shared.running) (boots : KeepsBoot x.node.shared.nv z.nv)
    (granted : ComponentBackend.Granted copies b z after.here.shared request)
    (spares : request = .commit → request.Spares (x.flash d.provider.componentId) s) :
  ∃ t, Secure copies (x.after copies b.provider.componentId after) d t
  := by
  have banks : z.banksAt copies d.provider.componentId =
      x.node.shared.banksAt copies d.provider.componentId := by
    rw [banksAt, running, banksAt]
  obtain ⟨t, stands, moves⟩ :=
    (secure.stands.congr boots banks).of_granted_other otherId otherSet granted
  have flash : (x.after copies b.provider.componentId after).flash d.provider.componentId =
      x.flash d.provider.componentId := if_neg otherId
  have secured : t.Agrees → (x.flash d.provider.componentId).Guarded t →
      ∃ t, Secure copies (x.after copies b.provider.componentId after) d t := by
    intro agrees guarded
    refine ⟨t, stands, agrees, ?_⟩
    rw [flash]
    apply guarded
  cases request with
  | install =>
    cases moves
    apply secured secure.agrees secure.guarded
  | commit =>
    cases moves
    apply secured secure.agrees.promote (secure.guarded.promote secure.agrees (spares rfl))
  | rollback =>
    cases moves
    apply secured secure.agrees.restore (secure.guarded.congrStand rfl rfl)

/-- A call that changes no boot state keeps all updates in order. -/
theorem Secure.of_unchanged {d : ComponentBackend} (secure : Secure copies x d s)
    (boots : KeepsBoot x.node.shared.nv after.here.shared.nv)
    (banks : ∀ id, after.here.shared.banksAt copies id = x.node.shared.banksAt copies id)
    (guarded : d.provider.componentId = b.provider.componentId → after.flash.Guarded s) :
  Secure copies (x.after copies b.provider.componentId after) d s
  := by
  refine ⟨secure.stands.congr boots (banks _), secure.agrees, ?_⟩
  dsimp only [Site.after]
  split
  next same => apply guarded same
  next => apply secure.guarded

variable {fleet : FileFleet}

/-- The two components are one, or they have neither their ids nor their slots in common. -/
theorem Fleet.eq_or_apart {fleet : Fleet} {d : ComponentBackend} (hb : b ∈ fleet.backends)
    (hd : d ∈ fleet.backends) :
  d = b ∨ d.provider.componentId ≠ b.provider.componentId ∧ d.provider.bankSet ≠ b.provider.bankSet
  := by
  by_cases same : d.provider.componentId = b.provider.componentId
  · left
    apply fleet.backend_of_id hd hb same
  · right
    refine ⟨same, ?_⟩
    intro same'
    apply same
    rw [fleet.backend_of_slot hd hb same']

section

variable (secure : ∀ d ∈ fleet.backends, ∃ s, Secure copies x d s)
include secure

/-- After a request that was granted, all updates are in order. -/
theorem secure_of_granted (spared : x.Spared) (mem : b ∈ fleet.backends) (own : Secure copies x b s)
    (running : z.running = x.node.shared.running) (boots : KeepsBoot x.node.shared.nv z.nv)
    (granted : ComponentBackend.Granted copies b z d.here.shared request)
    (guarded : d.flash.Guarded s) (spares : request.Spares d.flash s)
    (others : request = .commit → ∀ c ∈ fleet.backends, ∀ t, Secure copies x c t →
      request.Spares (x.flash c.provider.componentId) t)
    (touched : ∀ t ∈ d.touched, request ≠ .commit ∧ t.1 ≠ s.secondary) :
  (∀ c ∈ fleet.backends, ∃ t, Secure copies (x.after copies b.provider.componentId d) c t) ∧
    (x.after copies b.provider.componentId d).Spared
  := by
  obtain ⟨t, later, kept⟩ := own.of_granted running boots granted guarded spares
  refine ⟨?_, ?_⟩
  · intro c hc
    obtain ⟨u, other⟩ := secure c hc
    rcases fleet.eq_or_apart mem hc with rfl | ⟨otherId, otherSet⟩
    · exact ⟨t, later⟩
    · apply other.of_granted_other otherId otherSet running boots granted
      intro commit
      apply others commit c hc u other
  · apply spared.after later.stands
    intro u mem
    obtain ⟨kind, ne⟩ := touched u mem
    rw [kept.resolve_left kind]
    apply ne

/-- After a call that has changed no boot state, all updates are in order. -/
theorem secure_of_unchanged (spared : x.Spared) (mem : b ∈ fleet.backends)
    (own : Secure copies x b s) (boots : KeepsBoot x.node.shared.nv d.here.shared.nv)
    (banks : ∀ id, d.here.shared.banksAt copies id = x.node.shared.banksAt copies id)
    (guarded : d.flash.Guarded s) (touched : ∀ t ∈ d.touched, t.1 ≠ s.secondary) :
  (∀ c ∈ fleet.backends, ∃ t, Secure copies (x.after copies b.provider.componentId d) c t) ∧
    (x.after copies b.provider.componentId d).Spared
  := by
  refine ⟨?_, ?_⟩
  · intro c hc
    rcases fleet.eq_or_apart mem hc with rfl | ⟨otherId, -⟩
    · exact ⟨s, own.of_unchanged boots banks fun _ => guarded⟩
    · obtain ⟨u, other⟩ := secure c hc
      exact ⟨u, other.of_unchanged boots banks fun same => absurd same otherId⟩
  · apply spared.after (own.stands.congr boots (banks _)) touched

end

theorem Secure.orderly (own : Secure copies x b s) :
  Orderly x.node.shared s (x.desk b.provider.componentId)
  := ⟨rfl, .refl _, own.guarded, List.forall_mem_nil _⟩

variable [DecidableEq δ]
  {y : Site σ β δ} {event : SiteEvent β δ}

/-- Every event keeps all updates in order, and writes to no committed bank. -/
theorem SiteStep.secure (step : SiteStep κ crc hash copies fleet x event y)
    (undisturbed : Undisturbed copies fleet x event) (tidy : Tidy copies x.node.shared)
    (secure : ∀ d ∈ fleet.backends, ∃ s, Secure copies x d s) (spared : x.Spared) :
  Tidy copies y.node.shared ∧ (∀ d ∈ fleet.backends, ∃ t, Secure copies y d t) ∧ y.Spared
  := by
  cases step with
  | @updated b mem _ works op _ _ call returned =>
    obtain ⟨s, own⟩ := secure b mem
    have placed : Placed copies b.onFiles x.node.shared s :=
      ⟨tidy, own.stands, fleet.wired b mem, fleet.dualBank b mem⟩
    obtain ⟨tidy', guarded, touched, z, running, boots, moved⟩ := (op.leaves placed works
      (fleet.onDisk b mem) own.orderly undisturbed).of_run call returned
    refine ⟨tidy', ?_⟩
    rcases moved with ⟨keeps, banks⟩ | ⟨_, granted, closed⟩
    · apply secure_of_unchanged secure spared mem own (boots.trans keeps) _ guarded touched
      intro id
      rw [banks, banksAt, running, banksAt]
    · apply secure_of_granted secure spared mem own running boots granted guarded closed
        (by rintro ⟨⟩)
      intro t mem
      exact ⟨by rintro ⟨⟩, touched t mem⟩
  | @committed b mem w works _ _ call returned =>
    obtain ⟨s, own⟩ := secure b mem
    rcases committed : b.commitFlash w.toWorld (x.node.localOf b.provider.componentId) with ⟨res, l⟩
    have called : onHere (b.commitFlash w.toWorld) (x.desk b.provider.componentId) =
        (res, { x.desk b.provider.componentId with here := l }) := run_zoom committed
    cases called.symm.trans call
    have settles := (commitFlash_granted (l := x.node.localOf b.provider.componentId)
      tidy works (fleet.wired b mem) (fleet.dualBank b mem).1).of_run committed
    obtain ⟨tidy', ⟨rfl, granted⟩ | ⟨-, keeps, banks⟩⟩ := settles returned
    · refine ⟨tidy', secure_of_granted secure spared mem own rfl (.refl _) granted
        own.guarded ?_ ?_ ?_⟩
      · apply undisturbed b mem s own.stands
      · intro _ c hc t other
        apply undisturbed c hc t other.stands
      · rintro _ ⟨⟩
    · exact ⟨tidy', secure_of_unchanged secure spared mem own keeps banks own.guarded
        (by rintro _ ⟨⟩)⟩
  | @rolledBack b mem _ works _ _ call returned =>
    obtain ⟨s, own⟩ := secure b mem
    have placed : Placed copies b.onFiles x.node.shared s :=
      ⟨tidy, own.stands, fleet.wired b mem, fleet.dualBank b mem⟩
    obtain ⟨tidy', uploads, session, package, touched, moved⟩ :=
      (rollbackFlash_granted placed works (undisturbed s own.stands) own.orderly rfl).of_run call
        returned
    have guarded := own.guarded.congr session uploads (.inl package)
    refine ⟨tidy', ?_⟩
    rcases moved with granted | ⟨keeps, banks⟩
    · apply secure_of_granted secure spared mem own rfl (.refl _) granted guarded
        (undisturbed s own.stands) (by rintro ⟨⟩)
      exact fun t mem => ⟨by rintro ⟨⟩, touched t mem⟩
    · exact secure_of_unchanged secure spared mem own keeps banks guarded touched
  | reset =>
    refine ⟨tidy, ?_, spared⟩
    intro d hd
    obtain ⟨s, own⟩ := secure d hd
    exact ⟨s, own.stands, own.agrees, own.guarded⟩
  | @restarted restart s _ _ _ honours finds found loaded =>
    obtain ⟨tidy', banks⟩ := tidy_of_load tidy.following honours finds found loaded x.node.shared.nv
    refine ⟨tidy', ?_, spared⟩
    intro d hd
    obtain ⟨s, own⟩ := secure d hd
    by_cases restored : restart = .restored
    · refine ⟨s.restore, ⟨own.stands.boot, ?_⟩, own.agrees.restore, .restarted⟩
      refine (banks _).trans ?_
      rw [if_pos restored, own.stands.banks]
      rfl
    · refine ⟨s, ⟨own.stands.boot, ?_⟩, own.agrees, .restarted⟩
      refine (banks _).trans ?_
      rw [if_neg restored, own.stands.banks]

/-- No update writes to the bank of a component that the committed copy of the boot vector names,
however the calls come in between each other, as long as nothing is under way that they disturb. -/
theorem floor_never_overwritten {start : Site σ β δ}
    (agreement : Agreement copies fleet.toFleet start.node.shared)
    (idle : ∀ id, (start.flash id).session = none ∧ ∀ u, (start.flash id).uploads u = none)
    (untouched : start.touched = [])
    (run : SiteRun κ crc hash copies fleet (Undisturbed copies fleet) start x) :
  ∀ t ∈ x.touched, t.floor ≠ some t.bank
  := by
  have sound : Tidy copies x.node.shared ∧ (∀ d ∈ fleet.backends, ∃ s, Secure copies x d s) ∧
    x.Spared := by
    apply run.invariant (P := fun x => Tidy copies x.node.shared ∧
      (∀ d ∈ fleet.backends, ∃ s, Secure copies x d s) ∧ x.Spared)
    · rintro _ rfl
      refine ⟨agreement.tidy, ?_, ?_⟩
      · intro b hb
        obtain ⟨s, stands, primary, secondary⟩ := agreement.stands b hb
        obtain ⟨session, uploads⟩ := idle b.provider.componentId
        refine ⟨s, stands, .of_seed primary secondary, ⟨fun _ => ⟨?_, ?_⟩, ?_, ?_⟩⟩
        · rw [session]
          nofun
        · intro u
          rw [uploads]
          nofun
        · intro u
          rw [uploads]
          nofun
        · rw [session]
          nofun
      · rw [Site.Spared, untouched]
        nofun
    · rintro x y ⟨tidy, secure, spared⟩ ⟨event, undisturbed, step⟩
      apply step.secure undisturbed tidy secure spared
  apply sound.2.2

end Sites

/-! ### A machine that is updated -/

namespace TwoMachines

def files : FileFleet where
  toFleet := fleet
  onDisk := by
    intro b hb
    simp only [fleet, mem_cons, not_mem_nil, or_false] at hb
    rcases hb with rfl | rfl <;> rfl

def site : Site Store ℕ ℕ where
  node := calm.node
  flash _ := { area := fun _ => {} }

/-- A manifest with one part. The digest of a content is the content itself. -/
def kernelOnly : Manifest ℕ where
  components := [{ componentId := some ["vm1", "kernel"], imageDigest := some 7 }]
  package := some ⟨Buffer.zeros 32, 0, {}⟩

def performed (x : Site Store ℕ ℕ) (op : FlashOp ℕ ℕ) : Ending BackendError Unit × Desk Store ℕ ℕ :=
  op.run stubSigner (fun _ => 0) id { env := working }
    (ComponentBackend.onFiles { provider := vm1 }) (x.desk "vm1")

def perform (x : Site Store ℕ ℕ) : List (FlashOp ℕ ℕ) → Site Store ℕ ℕ
  | [] => x
  | op :: rest => perform (x.after InMemory.copies "vm1" (performed x op).2) rest

/-- All of the calls return, and the boot vector can be written. -/
def Returns (x : Site Store ℕ ℕ) : List (FlashOp ℕ ℕ) → Bool
  | [] => true
  | op :: rest => (performed x op).1 ≠ .stopped ∧ x.node.shared.running.store.failWrites = false ∧
      Returns (x.after InMemory.copies "vm1" (performed x op).2) rest

theorem run_perform {allowed : Site Store ℕ ℕ → SiteEvent ℕ ℕ → Prop} {start x : Site Store ℕ ℕ}
    (run : SiteRun stubSigner (fun _ => 0) id InMemory.copies files allowed start x)
    {ops : List (FlashOp ℕ ℕ)}
    (admitted : ∀ x, ∀ op ∈ ops, allowed x (.updated { provider := vm1 } op))
    (returns : Returns x ops = true) :
  SiteRun stubSigner (fun _ => 0) id InMemory.copies files allowed start (perform x ops)
  := by
  induction ops generalizing x with
  | nil => apply run
  | cons op _ ih =>
    simp only [Returns, Bool.decide_and, Bool.and_eq_true, decide_eq_true_eq] at returns
    obtain ⟨returned, writable, later⟩ := returns
    apply ih _ _ later
    · refine run.step ⟨_, admitted x op mem_cons_self, ?_⟩
      exact .updated (w := { env := working }) mem_cons_self (works writable) rfl returned
    · intro x op mem
      apply admitted x op (mem_cons_of_mem _ mem)

def kernelStaged : List (FlashOp ℕ ℕ) :=
  [.startFlash, .receivePackagePart none, .receivePackagePart none, .settleManifest 0 kernelOnly,
    .openSession 0, .receivePackagePart (some "kernel"), .landPart 2 7, .enterPart 2, .sealUpload 2]

end TwoMachines

open TwoMachines in
/-- The manifest is sent twice, and the second one only comes to its end when the update that the
first one has begun is on trial. It then settles the bank that the machine would fall back to. -/
theorem late_manifest_prunes_floor :
  Agreement InMemory.copies files.toFleet site.node.shared ∧
  ∃ x, SiteRun stubSigner (fun _ => 0) id InMemory.copies files (fun _ _ => True) site x ∧
    ∃ t ∈ x.touched, t.how = .prune ∧ t.bank = .A ∧ t.floor = some .A
  := by
  refine ⟨calm_agrees,
    perform site (kernelStaged ++ [.finalizeFlash, .settleManifest 1 kernelOnly]), ?_, ?_⟩
  · exact run_perform (.init rfl) (fun _ _ _ => trivial) (by decide +kernel)
  · decide +kernel

open TwoMachines in
/-- The manifest is sent twice, the second one is given up, and the update is applied, in bank B. -/
theorem staged_spares_floor :
  SiteRun stubSigner (fun _ => 0) id InMemory.copies files (Undisturbed InMemory.copies files) site
    (perform (perform site (kernelStaged ++ [.dropUpload 1])) [.finalizeFlash]) ∧
  (perform (perform site (kernelStaged ++ [.dropUpload 1])) [.finalizeFlash]).touched.map
    (fun t => (t.how, t.bank, t.floor)) =
    [(.prune, .B, some .A), (.stagedCommit, .B, some .A), (.sign, .B, some .A)] ∧
  ∀ t ∈ (perform (perform site (kernelStaged ++ [.dropUpload 1])) [.finalizeFlash]).touched,
    t.floor ≠ some t.bank
  := by
  have staged : SiteRun stubSigner (fun _ => 0) id InMemory.copies files
      (Undisturbed InMemory.copies files) site
        (perform site (kernelStaged ++ [.dropUpload 1])) := by
    refine run_perform (.init rfl) ?_ (by decide +kernel)
    intro x op mem applies
    cases applies <;> simp [kernelStaged] at mem
  have idle (u : ℕ) :
      ((perform site (kernelStaged ++ [.dropUpload 1])).flash "vm1").uploads u = none := by
    rcases u with _ | _ | _ | u <;> with_unfolding_all rfl
  have run : SiteRun stubSigner (fun _ => 0) id InMemory.copies files
      (Undisturbed InMemory.copies files) site
      (perform (perform site (kernelStaged ++ [.dropUpload 1])) [.finalizeFlash]) := by
    refine staged.step ⟨.updated { provider := vm1 } .finalizeFlash, ?_, ?_⟩
    · rintro - u upload mem
      cases (idle u).symm.trans mem
    · exact .updated (w := { env := working }) mem_cons_self (works (by decide +kernel)) rfl
        (by decide +kernel)
  refine ⟨run, by decide +kernel, ?_⟩
  apply floor_never_overwritten calm_agrees _ rfl run
  intro id
  exact ⟨rfl, fun _ => rfl⟩

end ComponentMgr
