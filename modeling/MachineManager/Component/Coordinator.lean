import MachineManager.Component.Flash
import MachineManager.Component.Registry

/-!
# The update transaction of a node

The components of a node are updated in one transaction. A component joins it when its session is
admitted, and leaves it when its update is aborted, committed or rolled back. The coordinator keeps
who takes part, in memory.

A component joins as a side effect of the check that admits it. The session may be refused after
that, and the check is made for an envelope outside of a session as well: then a component takes
part that has no session (`listed_without_session`). It leaves after a write to NV which can fail,
while its update has ended already. In runs without such steps a component takes part only while it
has a session (`listed_has_session`).
-/

open Option Function List

namespace NodeUpdate

inductive NodePhase
  | idle
  | staging
  | rebootPending
  | trial
deriving DecidableEq

structure NodeUpdateState where
  phase : NodePhase
  components : List String := []
  rebootOwed : List String := []
  rebootedSinceArming : Option Bool := none
deriving DecidableEq

def NodeUpdateState.idle : NodeUpdateState :=
  { phase := .idle }

/-- The components that take part in the open transaction. -/
structure Staging where
  components : List String
deriving DecidableEq

/-- The components that are pending a reset of the node, and whether it has rebooted since
arming. -/
structure Durable where
  rebootOwed : List String := []
  rebootedSinceArming : Option Bool := none
deriving DecidableEq

inductive Admit
  | openedNew
  | joined
deriving DecidableEq

inductive Refused
  | rebootPending (components : List String)
  | trial (components : List String)
deriving DecidableEq

def debugNames (names : List String) : String :=
  "[" ++ ", ".intercalate (names.map String.quote) ++ "]"

def Refused.text : Refused → String
  | rebootPending c => "an unresolved update owes a node reboot for " ++ debugNames c ++
      " — reboot the node if not yet done, then commit or roll back before starting a new flash"
  | trial c => "node owes a verdict for in-trial " ++ debugNames c ++
      " — commit or roll back before starting a new flash"

/-- The state of the node. A reset that is pending comes before a trial, and a trial before
staging. -/
def derive (durable : Durable) (inTrial : List String)
    (staging : Option Staging) : NodeUpdateState :=
  if durable.rebootOwed ≠ [] then
    { phase := .rebootPending, components := durable.rebootOwed, rebootOwed := durable.rebootOwed
      rebootedSinceArming := durable.rebootedSinceArming }
  else if inTrial ≠ [] then
    { phase := .trial, components := inTrial, rebootedSinceArming := durable.rebootedSinceArming }
  else
    match staging with
    | some s => { phase := .staging, components := s.components }
    | none => .idle

/-- Admit a component, or refuse it. If it is admitted, it joins the transaction or opens one. -/
def admitComponent (comp : String) (durable : Durable) (inTrial : List String) :
    Option Staging → Except Refused (Admit × Staging)
  | staging =>
    if durable.rebootOwed ≠ [] then .error (.rebootPending durable.rebootOwed)
    else if inTrial ≠ [] ∧ durable.rebootedSinceArming = some true then .error (.trial inTrial)
    else
      match staging with
      | none => .ok (.openedNew, ⟨[comp]⟩)
      | some s =>
        if comp ∈ s.components then .ok (.joined, s)
        else .ok (.joined, ⟨s.components ++ [comp]⟩)

/-- The transaction without a component; it ends with the last one. -/
def removeFromStaging (comp : String) : Option Staging → Option Staging
  | none => none
  | some s =>
    let components := s.components.filter (· ≠ comp)
    if components = [] then none else some ⟨components⟩

variable {comp : String} {staging : Option Staging} {s : Staging}

/-- A component that is admitted joins, and no other one does. -/
theorem mem_of_admitComponent {durable : Durable} {inTrial : List String} {how : Admit}
    (admitted : admitComponent comp durable inTrial staging = .ok (how, s)) (id : String) :
  id ∈ s.components ↔ id = comp ∨ ∃ s' ∈ staging, id ∈ s'.components
  := by
  simp only [admitComponent] at admitted
  split_ifs at admitted
  cases staging with
  | none =>
    cases admitted
    simp
  | some =>
    simp only at admitted
    split_ifs at admitted with joined
    · cases admitted
      simp only [mem_some_iff, exists_eq_left']
      constructor
      · exact .inr
      · rintro (rfl | mem)
        · exact joined
        · exact mem
    · cases admitted
      simp [or_comm]

/-- A component that leaves does not take part any more, and the others do as before. -/
theorem exists_mem_removeFromStaging {id : String} :
  (∃ s ∈ removeFromStaging comp staging, id ∈ s.components) ↔ id ≠ comp ∧ ∃ s ∈ staging,
    id ∈ s.components
  := by
  cases staging with
  | none => simp [removeFromStaging]
  | some s =>
    simp only [removeFromStaging, mem_some_iff, exists_eq_left']
    split_ifs with last
    · have none : ∀ id ∈ s.components, id = comp := by
        simpa [filter_eq_nil_iff] using last
      constructor
      · rintro ⟨_, ⟨⟩, -⟩
      · rintro ⟨other, mem⟩
        exact absurd (none id mem) other
    · simp [and_comm]

/-- A transaction has components that take part. -/
theorem components_ne_nil_of_mem_removeFromStaging (left : s ∈ removeFromStaging comp staging) :
  s.components ≠ []
  := by
  cases staging with
  | none => cases left
  | some =>
    simp only [removeFromStaging] at left
    split_ifs at left with last
    · cases left
    · cases left
      exact last

end NodeUpdate

namespace ComponentMgr

open Call Nv Selector SystemBank

/-! ### The node -/

/-- The node with the updates of its components, and its transaction. On record are the components
one of whose sessions was accepted and neither aborted nor committed or rolled back since. -/
structure UpdateNode (σ β δ : Type) where
  node : NodeState σ
  flash : String → Flash β δ
  staging : Option NodeUpdate.Staging := none
  accepted : String → Bool := fun _ => false

/-- What the calls of the components meet, by their ids, and whether the node has rebooted since
arming. -/
structure NodeWorld (σ : Type) where
  world : String → FlashWorld σ
  rebooted : Option Bool := none

variable {σ β δ : Type}

namespace UpdateNode

variable {ε α : Type}

def desk (x : UpdateNode σ β δ) (id : String) : Desk σ β δ where
  here := x.node.localOf id
  flash := x.flash id

def setDesk (id : String) (d : Desk σ β δ) (x : UpdateNode σ β δ) : UpdateNode σ β δ :=
  { x with node := x.node.setLocal id d.here, flash := Function.update x.flash id d.flash }

/-- The component takes part in the transaction. -/
def Listed (x : UpdateNode σ β δ) (id : String) : Prop :=
  ∃ s ∈ x.staging, id ∈ s.components

def reports (members : List FlashBackend) (w : NodeWorld σ) (x : UpdateNode σ β δ) :
    List (String × ComponentBanks) :=
  members.map fun b =>
    (b.provider.componentId, b.provider.banks x.node.shared
      (w.world b.provider.componentId).env.readBank)

def labels (reports : List (String × ComponentBanks))
    (keep : ComponentBanks → Bool) : List String :=
  (reports.filter fun r => keep r.2).map (·.1)

def durableOf (w : NodeWorld σ) (reports : List (String × ComponentBanks)) : NodeUpdate.Durable :=
  { rebootOwed := labels reports (·.pendingReset), rebootedSinceArming := w.rebooted }

def nodeUpdateState (members : List FlashBackend) (w : NodeWorld σ) (x : UpdateNode σ β δ) :
    NodeUpdate.NodeUpdateState :=
  NodeUpdate.derive (durableOf w (x.reports members w))
    (labels (x.reports members w) (·.inTrial)) x.staging

def gate (members : List FlashBackend) (w : NodeWorld σ) (comp : String) (x : UpdateNode σ β δ) :
    Except NodeUpdate.Refused (NodeUpdate.Admit × NodeUpdate.Staging) :=
  NodeUpdate.admitComponent comp (durableOf w (x.reports members w))
    (labels (x.reports members w) (·.inTrial)) x.staging

end UpdateNode

/-! ### The calls -/

namespace FlashBackend

variable {ε α : Type} (b : FlashBackend)

def entityId : String :=
  b.provider.componentId

def onDesk (c : Call (Desk σ β δ) ε α) : Call (UpdateNode σ β δ) ε α :=
  zoom (·.desk b.entityId) (UpdateNode.setDesk b.entityId) c

/-- It goes on record whether a session of the component is accepted and not resolved. -/
def noteAccepted (unresolved : Bool) : Call (UpdateNode σ β δ) ε Unit :=
  modify fun x => { x with accepted := Function.update x.accepted b.entityId unresolved }

variable (members : List FlashBackend) (w : NodeWorld σ)

/-- What the calls of the component meet; the gate is not part of it here. -/
def worldOf : FlashWorld σ :=
  { w.world b.entityId with gate := none }

def gateNewSession : Call (UpdateNode σ β δ) BackendError Unit := do
  let x ← get
  match x.gate members w b.entityId with
  | .error refused => fail (.busy refused.text)
  | .ok (_, staging) => modify fun x => { x with staging := some staging }

/-- The component is not on trial itself, and the gate admits it. -/
def nodeEnsureFlashCanStart : Call (UpdateNode σ β δ) BackendError Unit := do
  b.onDesk (b.ensureFlashCanStart (b.worldOf w))
  b.gateNewSession members w

def nodeStartFlash : Call (UpdateNode σ β δ) BackendError Unit := do
  b.nodeEnsureFlashCanStart members w
  b.onDesk (b.startFlash (b.worldOf w))
  b.noteAccepted true

/-- Outside of a session the check is made before anything else. -/
def nodeReceivePackagePart (part : Option String) : Call (UpdateNode σ β δ) BackendError Unit := do
  let x ← get
  match (x.flash b.entityId).session with
  | some .awaitingManifest | some (.awaitingPayload _ _) =>
    b.onDesk (b.receivePackagePart (b.worldOf w) part)
  | _ =>
    b.nodeEnsureFlashCanStart members w
    b.onDesk (b.receivePackagePart (b.worldOf w) part)

def leaveStaging : Call (UpdateNode σ β δ) ε Unit :=
  modify fun x => { x with staging := NodeUpdate.removeFromStaging b.entityId x.staging }

/-- The reboot that is owed is cleared in NV, and the component leaves the transaction. -/
def nodeResolveTransaction : Call (UpdateNode σ β δ) BackendError Unit := do
  b.onDesk (onHere (b.resolveNodeTransaction (b.worldOf w).toWorld))
  b.leaveStaging

/-- The session is dropped first; resolving the transaction is the last thing that the call does. -/
def nodeAbortSession : Call (UpdateNode σ β δ) BackendError Unit := do
  b.noteAccepted false
  b.onDesk (b.abortSession (b.worldOf w))
  b.leaveStaging

def nodeAbortFlash : Call (UpdateNode σ β δ) BackendError Unit := do
  let x ← get
  if flashIsFinalized (x.node.memory b.entityId) then
    fail (.invalidRequest "cannot abort: install already finalized")
  else b.nodeAbortSession w

def nodeCommitFlash : Call (UpdateNode σ β δ) BackendError Unit := do
  b.onDesk (onHere b.preflightCommit)
  b.onDesk (onHere (ComponentBackend.onProvider (b.provider.commit (b.worldOf w).env)))
  b.noteAccepted false
  b.nodeResolveTransaction w
  b.onDesk (onHere ComponentBackend.clearTransfer)

def nodeRollbackFlash : Call (UpdateNode σ β δ) BackendError Unit := do
  if !b.supportsRollback then
    fail (.invalidRequest "rollback not supported for this component")
  else
    b.onDesk (onHere (ComponentBackend.onProvider (b.provider.rollback (b.worldOf w).env)))
    b.noteAccepted false
    let x ← get
    b.onDesk (touch (b.provider.targetBank x.node.shared) .wipe fun a =>
      a.prune b.stages b.singleBank [])
    b.nodeResolveTransaction w
    b.onDesk (onHere ComponentBackend.clearTransfer)

end FlashBackend

/-- A call of a component. -/
inductive NodeCall (β δ : Type)
  | flash (op : FlashOp β δ)
  | commitFlash
  | rollbackFlash

section Calls

variable [DecidableEq δ] (κ : Signing) (crc : List UInt8 → UInt32) (hash : β → δ)
  (members : List FlashBackend)

def NodeCall.run (w : NodeWorld σ) (b : FlashBackend) :
    NodeCall β δ → Call (UpdateNode σ β δ) BackendError Unit
  | flash .startFlash => b.nodeStartFlash members w
  | flash .abortSession => b.nodeAbortSession w
  | flash .abortFlash => b.nodeAbortFlash w
  | flash (.receivePackagePart part) => b.nodeReceivePackagePart members w part
  | flash op => b.onDesk (op.run κ crc hash (b.worldOf w) b)
  | commitFlash => b.nodeCommitFlash w
  | rollbackFlash => b.nodeRollbackFlash w

/-- The component is admitted by the check: it is not on trial itself, and the gate admits it. -/
def FlashBackend.Admitted (b : FlashBackend) (w : NodeWorld σ) (x : UpdateNode σ β δ) : Prop :=
  (b.singleBank = true ∨ b.provider.inTrial x.node.shared = false) ∧
  (x.gate members w b.entityId).isOk = true

/-- The session of the component awaits the manifest or a payload. -/
def UpdateNode.Awaits (x : UpdateNode σ β δ) (id : String) : Prop :=
  (x.flash id).session = some .awaitingManifest ∨
    ∃ m present, (x.flash id).session = some (.awaitingPayload m present)

/-- A component that takes part already may do anything. One that does not is started only if no
reboot is pending once it is admitted, and is sent an envelope outside of a session only if it is
not admitted. If the calls that end an update are to clear the reboot that is owed, that write
succeeds. -/
def NodeCall.Orderly (w : NodeWorld σ) (b : FlashBackend)
    (x : UpdateNode σ β δ) : NodeCall β δ → Prop
  | flash .startFlash =>
    x.Listed b.entityId ∨ ¬ b.Admitted members w x ∨ b.provider.pendingReboot x.node.shared = false
  | flash (.receivePackagePart _) =>
    x.Listed b.entityId ∨ x.Awaits b.entityId ∨ ¬ b.Admitted members w x
  | flash .abortSession | flash .abortFlash =>
    (w.world b.entityId).env.nvFaults .updateSession = false
  | flash _ => True
  | commitFlash | rollbackFlash => (w.world b.entityId).env.nvFaults .updateSession = false

def UpdateNode.Step (allowed : NodeWorld σ → FlashBackend → UpdateNode σ β δ → NodeCall β δ → Prop)
    (x y : UpdateNode σ β δ) : Prop :=
  ∃ b ∈ members, ∃ (w : NodeWorld σ) (call : NodeCall β δ) (res : Ending BackendError Unit),
    allowed w b x call ∧ call.run κ crc hash members w b x = (res, y) ∧ res ≠ .stopped

/-- No session was accepted yet, and the node has no transaction. -/
def UpdateNode.Starts (x : UpdateNode σ β δ) : Prop :=
  x.staging = none ∧ ∀ id, x.accepted id = false

end Calls

/-! ### Who takes part -/

section Runs

variable {b : FlashBackend} {w : NodeWorld σ} {x y : UpdateNode σ β δ} {members : List FlashBackend}

namespace UpdateNode

/-- A transaction has components that take part, and each of them has an accepted session. -/
structure Inv (x : UpdateNode σ β δ) : Prop where
  nonempty : ∀ s ∈ x.staging, s.components ≠ []
  accepted : ∀ id, x.Listed id → x.accepted id = true

theorem Inv.congr (inv : x.Inv) (staging : y.staging = x.staging)
    (accepted : y.accepted = x.accepted) :
  y.Inv
  := by
  constructor
  · rw [staging]
    exact inv.nonempty
  · intro id listed
    rw [Listed, staging] at listed
    rw [accepted]
    exact inv.accepted id listed

/-- The same, but for one component. -/
structure InvBut (id : String) (x : UpdateNode σ β δ) : Prop where
  nonempty : ∀ s ∈ x.staging, s.components ≠ []
  accepted : ∀ id', id' ≠ id → x.Listed id' → x.accepted id' = true

/-- A component has joined, and has an accepted session. -/
theorem Inv.joined {s : NodeUpdate.Staging} {how : NodeUpdate.Admit}
    (inv : x.Inv) (answer : x.gate members w b.entityId = .ok (how, s))
    (staging : y.staging = some s) (own : y.accepted b.entityId = true)
    (others : ∀ id, x.accepted id = true → y.accepted id = true) :
  y.Inv
  := by
  constructor
  · intro s' there empty
    obtain rfl := some.inj (staging.symm.trans there)
    have mem := (NodeUpdate.mem_of_admitComponent answer b.entityId).mpr (.inl rfl)
    rw [empty] at mem
    cases mem
  · rintro id ⟨s', there, mem⟩
    obtain rfl := some.inj (staging.symm.trans there)
    rcases (NodeUpdate.mem_of_admitComponent answer id).mp mem with rfl | listed
    · exact own
    · exact others id (inv.accepted id listed)

/-- Once the component has left, the invariant holds for all of them. -/
theorem InvBut.leave {id : String} (inv : x.InvBut id) :
  Inv { x with staging := NodeUpdate.removeFromStaging id x.staging }
  := by
  constructor
  · intro s left
    exact NodeUpdate.components_ne_nil_of_mem_removeFromStaging left
  · intro id' listed
    obtain ⟨other, listed'⟩ := NodeUpdate.exists_mem_removeFromStaging.mp listed
    exact inv.accepted id' other listed'

theorem setDesk_desk (id : String) :
  x.setDesk id (x.desk id) = x
  := by
  have memory : (fun id' => if id' = id then x.node.memory id else x.node.memory id') =
    x.node.memory := by
    funext id'
    split_ifs with same
    · rw [same]
    · rfl
  simp only [setDesk, desk, NodeState.localOf, NodeState.setLocal, memory, update_eq_self]

end UpdateNode

namespace FlashBackend

variable {d : Desk σ β δ} {ε : Type}

theorem run_onDesk {α : Type} {c : Call (Desk σ β δ) ε α} {res : Ending ε α}
    (run : c (x.desk b.entityId) = (res, d)) :
  b.onDesk c x = (res, x.setDesk b.entityId d)
  := run_zoom run

/-- A call of the component leaves the transaction as it is. -/
theorem yields_onDesk {α : Type} {c : Call (Desk σ β δ) ε α} (inv : x.Inv) :
  Yields (b.onDesk c) x fun _ y => y.Inv
  := inv.congr rfl rfl

/-- The check of the component itself. -/
theorem ensureFlashCanStart_ungated (d : Desk σ β δ) :
  b.ensureFlashCanStart (b.worldOf w) d = (.ok (), d) ∧
      (b.singleBank = true ∨ b.provider.inTrial d.here.shared = false) ∨
    (∃ e, b.ensureFlashCanStart (b.worldOf w) d = (.err e, d)) ∧
      ¬ (b.singleBank = true ∨ b.provider.inTrial d.here.shared = false)
  := by
  by_cases trial : !b.singleBank ∧ b.provider.inTrial d.here.shared
  · right
    constructor
    · simp only [ensureFlashCanStart, run_get_bind, run_ite, if_pos trial]
      exact ⟨_, rfl⟩
    · simpa using trial
  · left
    refine ⟨?_, ?_⟩
    · simp only [ensureFlashCanStart, run_get_bind, run_ite, if_neg trial]
      rfl
    · by_contra refused
      exact trial (by simpa using refused)

/-- A component that is admitted joins the transaction; otherwise nothing happens. -/
theorem yields_nodeEnsureFlashCanStart :
  Yields (b.nodeEnsureFlashCanStart members w) x fun res y =>
    res = .ok () ∧ b.Admitted members w x ∧
        (∃ s how, x.gate members w b.entityId = .ok (how, s) ∧ y = { x with staging := some s }) ∨
      (∃ e, res = .err e) ∧ ¬ b.Admitted members w x ∧ y = x
  := by
  rcases ensureFlashCanStart_ungated (b := b) (w := w) (x.desk b.entityId) with ⟨own, free⟩
    | ⟨⟨e, own⟩, trial⟩
  · have first : b.onDesk (b.ensureFlashCanStart (b.worldOf w)) x = (.ok (), x) := by
      rw [run_onDesk own, UpdateNode.setDesk_desk]
    rw [Yields, nodeEnsureFlashCanStart, run_bind_ok first, gateNewSession, run_get_bind]
    cases answer : x.gate members w b.entityId with
    | error =>
      refine .inr ⟨⟨_, rfl⟩, ?_, rfl⟩
      rintro ⟨-, admitted⟩
      rw [answer] at admitted
      cases admitted
    | ok joined =>
      obtain ⟨how, s⟩ := joined
      refine .inl ⟨rfl, ⟨free, ?_⟩, s, how, rfl, rfl⟩
      rw [answer]
      rfl
  · have first : b.onDesk (b.ensureFlashCanStart (b.worldOf w)) x = (.err e, x) := by
      rw [run_onDesk own, UpdateNode.setDesk_desk]
    rw [Yields, nodeEnsureFlashCanStart, run_bind_err first]
    exact .inr ⟨⟨e, rfl⟩, fun admitted => trial admitted.1, rfl⟩

theorem yields_noteAccepted_true (inv : x.Inv) :
  Yields (b.noteAccepted true : Call (UpdateNode σ β δ) ε Unit) x fun _ y => y.Inv
  := by
  constructor
  · exact inv.nonempty
  · intro id listed
    have accepted := inv.accepted id listed
    show update x.accepted b.entityId true id = true
    rw [update_apply]
    split_ifs
    · rfl
    · exact accepted

/-- A session of a component that may start is opened. -/
theorem startFlash_ungated (free : b.singleBank = true ∨ b.provider.inTrial d.here.shared = false)
    (rebooted : b.provider.pendingReboot d.here.shared = false) :
  ∃ d', b.startFlash (b.worldOf w) d = (.ok (), d')
  := by
  have admitted : b.ensureFlashCanStart (b.worldOf w) d = (.ok (), d) := by
    rcases ensureFlashCanStart_ungated (b := b) (w := w) d with ⟨own, -⟩ | ⟨-, trial⟩
    · exact own
    · exact absurd free trial
  have target : b.determineTargetBank d = (.ok (b.provider.targetBank d.here.shared), d) := by
    rw [determineTargetBank, run_get_bind, rebooted]
    rfl
  rw [startFlash, run_bind_ok admitted, run_bind_ok target]
  exact ⟨_, rfl⟩

theorem yields_nodeStartFlash (inv : x.Inv)
    (orderly : x.Listed b.entityId ∨ ¬ b.Admitted members w x ∨
      b.provider.pendingReboot x.node.shared = false) :
  Yields (b.nodeStartFlash members w) x fun _ y => y.Inv
  := by
  refine yields_bind yields_nodeEnsureFlashCanStart ?_ ?_ ?_
  · rintro ⟨⟩ y (⟨-, admitted, s, how, answer, rfl⟩ | ⟨⟨_, ⟨⟩⟩, -⟩)
    rcases orderly with listed | refused | rebooted
    · have inv' : UpdateNode.Inv { x with staging := some s } :=
        inv.joined answer rfl (inv.accepted _ listed) fun _ => id
      refine yields_bind (yields_onDesk inv') ?_ (fun _ _ => id) fun _ => id
      intro _ y inv''
      exact yields_noteAccepted_true inv''
    · exact absurd admitted refused
    · obtain ⟨d, started⟩ := startFlash_ungated (w := w)
        (d := UpdateNode.desk { x with staging := some s } b.entityId) admitted.1 rebooted
      rw [Yields, run_bind_ok (run_onDesk started)]
      refine inv.joined answer rfl (update_self ..) ?_
      intro id accepted
      show update x.accepted b.entityId true id = true
      rw [update_apply, accepted, ite_self]
  · rintro e y (⟨⟨⟩, -⟩ | ⟨-, -, rfl⟩)
    exact inv
  · rintro y (⟨⟨⟩, -⟩ | ⟨⟨_, ⟨⟩⟩, -⟩)

theorem yields_nodeReceivePackagePart (inv : x.Inv) {part : Option String}
    (orderly : x.Listed b.entityId ∨ x.Awaits b.entityId ∨ ¬ b.Admitted members w x) :
  Yields (b.nodeReceivePackagePart members w part) x fun _ y => y.Inv
  := by
  refine yields_get_bind ?_
  split
  · exact yields_onDesk inv
  · exact yields_onDesk inv
  · next manifest payload =>
    refine yields_bind yields_nodeEnsureFlashCanStart ?_ ?_ ?_
    · rintro ⟨⟩ y (⟨-, admitted, s, how, answer, rfl⟩ | ⟨⟨_, ⟨⟩⟩, -⟩)
      rcases orderly with listed | (awaits | ⟨m, present, awaits⟩) | refused
      · exact yields_onDesk (inv.joined answer rfl (inv.accepted _ listed) fun _ => id)
      · exact absurd awaits manifest
      · exact absurd awaits (payload m present)
      · exact absurd admitted refused
    · rintro e y (⟨⟨⟩, -⟩ | ⟨-, -, rfl⟩)
      exact inv
    · rintro y (⟨⟨⟩, -⟩ | ⟨⟨_, ⟨⟩⟩, -⟩)

/-! ### The end of an update -/

/-- Nothing but the write of the record can fail when the reboot is cleared that is owed. -/
theorem resolveNodeTransaction_returns {v : World σ}
    (writes : v.env.nvFaults .updateSession = false) (l : Local σ) :
  ∃ l', b.resolveNodeTransaction v l = (.ok (), l')
  := by
  have wrote : ∀ session nv, writeUpdateSession v.env.nvFaults session nv =
      (.ok (), nv.putUpdateSession session) := by
    intro session nv
    rw [writeUpdateSession, nvWrite, writes]
    rfl
  rw [ComponentBackend.resolveNodeTransaction, run_get_bind, run_ite]
  split_ifs with changes
  · exact ⟨_, run_mapErr_ok (run_zoom (run_zoom (wrote _ _))) _⟩
  · exact ⟨l, rfl⟩

theorem yields_noteAccepted_false (inv : x.Inv) :
  Yields (b.noteAccepted false : Call (UpdateNode σ β δ) ε Unit) x fun res y =>
    res = .ok () ∧ y.InvBut b.entityId
  := by
  refine ⟨rfl, inv.nonempty, ?_⟩
  intro id other listed
  have accepted := inv.accepted id listed
  show update x.accepted b.entityId false id = true
  rw [update_of_ne other, accepted]

variable (writes : (w.world b.entityId).env.nvFaults .updateSession = false)

include writes

/-- The component leaves the transaction if the write succeeds. -/
theorem yields_nodeResolveTransaction (inv : x.InvBut b.entityId) :
  Yields (b.nodeResolveTransaction w) x fun res y => res = .ok () ∧ y.Inv
  := by
  obtain ⟨l, resolved⟩ := resolveNodeTransaction_returns (b := b)
    (v := (b.worldOf w).toWorld) writes (x.desk b.entityId).here
  have first : b.onDesk (onHere (b.resolveNodeTransaction (b.worldOf w).toWorld)) x = (.ok (), _) :=
    run_onDesk (run_zoom resolved)
  rw [Yields, nodeResolveTransaction, run_bind_ok first]
  exact ⟨rfl, UpdateNode.InvBut.leave ⟨inv.nonempty, inv.accepted⟩⟩

theorem abortSession_returns (d : Desk σ β δ) :
  ∃ d', b.abortSession (b.worldOf w) d = (.ok (), d')
  := by
  let l : Local σ :=
    { d.here with memory := { d.here.memory with flashTransfer := none, uploadPhase := false } }
  obtain ⟨l', resolved⟩ := resolveNodeTransaction_returns (b := b)
    (v := (b.worldOf w).toWorld) writes l
  have last : onHere (b.resolveNodeTransaction (b.worldOf w).toWorld)
      { d with here := l, flash := d.flash.cleared } =
        (.ok (), { d with here := l', flash := d.flash.cleared }) := by
    rw [onHere, zoom, resolved]
  exact ⟨_, last⟩

theorem yields_nodeAbortSession (inv : x.Inv) :
  Yields (b.nodeAbortSession w) x fun _ y => y.Inv
  := by
  refine yields_returned_bind (yields_noteAccepted_false inv) fun y inv' => ?_
  obtain ⟨d, aborted⟩ := abortSession_returns writes (y.desk b.entityId)
  rw [Yields, run_bind_ok (run_onDesk aborted)]
  exact UpdateNode.InvBut.leave ⟨inv'.nonempty, inv'.accepted⟩

theorem yields_nodeAbortFlash (inv : x.Inv) :
  Yields (b.nodeAbortFlash w) x fun _ y => y.Inv
  := by
  refine yields_get_bind ?_
  split
  · exact inv
  · exact yields_nodeAbortSession writes inv

/-- What is left once the update was committed or rolled back. -/
theorem yields_resolved {c : Call (UpdateNode σ β δ) BackendError Unit} (inv : x.InvBut b.entityId)
    (rest : ∀ y : UpdateNode σ β δ, y.Inv → Yields c y fun _ z => z.Inv) :
  Yields (b.nodeResolveTransaction w >>= fun _ => c) x fun _ y => y.Inv
  := by
  exact yields_returned_bind (yields_nodeResolveTransaction writes inv) rest

theorem yields_nodeCommitFlash (inv : x.Inv) :
  Yields (b.nodeCommitFlash w) x fun _ y => y.Inv
  := by
  refine yields_bind (yields_onDesk inv) ?_ (fun _ _ => id) fun _ => id
  intro _ y₁ inv₁
  refine yields_bind (yields_onDesk inv₁) ?_ (fun _ _ => id) fun _ => id
  intro _ y₂ inv₂
  refine yields_returned_bind (yields_noteAccepted_false inv₂) fun y₃ inv₃ => ?_
  exact yields_resolved writes inv₃ fun _ inv => yields_onDesk inv

theorem yields_nodeRollbackFlash (inv : x.Inv) :
  Yields (b.nodeRollbackFlash w) x fun _ y => y.Inv
  := by
  unfold nodeRollbackFlash
  split
  · exact inv
  · refine yields_bind (yields_onDesk inv) ?_ (fun _ _ => id) fun _ => id
    intro _ y₁ inv₁
    refine yields_returned_bind (yields_noteAccepted_false inv₁) fun y₂ inv₂ => ?_
    exact yields_resolved writes ⟨inv₂.nonempty, inv₂.accepted⟩ fun _ inv => yields_onDesk inv

end FlashBackend

theorem UpdateNode.Starts.inv (starts : x.Starts) :
  x.Inv
  := by
  constructor
  · rw [starts.1]
    nofun
  · rintro id ⟨s, there, -⟩
    rw [starts.1] at there
    cases there

/-- If no component takes part, is on trial or is pending a reset, the node is idle. -/
theorem UpdateNode.Inv.idle (inv : x.Inv) (resolved : ∀ id, x.accepted id = false)
    (noTrial : ∀ r ∈ x.reports members w, r.2.inTrial = false)
    (noReset : ∀ r ∈ x.reports members w, r.2.pendingReset = false) :
  x.nodeUpdateState members w = .idle
  := by
  have none : x.staging = none := by
    rw [eq_none_iff_forall_not_mem]
    intro s there
    obtain ⟨id, mem⟩ := exists_mem_of_ne_nil _ (inv.nonempty s there)
    have accepted := inv.accepted id ⟨s, there, mem⟩
    rw [resolved id] at accepted
    cases accepted
  have labels_nil : ∀ keep, (∀ r ∈ x.reports members w, keep r.2 = false) →
      labels (x.reports members w) keep = [] := by
    intro keep never
    rw [labels, map_eq_nil_iff, filter_eq_nil_iff]
    intro r there
    rw [never r there]
    nofun
  simp only [nodeUpdateState, NodeUpdate.derive, durableOf, none, labels_nil _ noTrial,
    labels_nil _ noReset, ne_eq, not_true_eq_false, if_false]

variable [DecidableEq δ] {κ : Signing} {crc : List UInt8 → UInt32} {hash : β → δ}

open FlashBackend

/-- An orderly call keeps the invariant. -/
theorem NodeCall.yields_run {call : NodeCall β δ} (inv : x.Inv)
    (orderly : call.Orderly members w b x) :
  Yields (call.run κ crc hash members w b) x fun _ y => y.Inv
  := by
  cases call with
  | flash op =>
    cases op with
    | startFlash => exact yields_nodeStartFlash inv orderly
    | abortSession => exact yields_nodeAbortSession orderly inv
    | abortFlash => exact yields_nodeAbortFlash orderly inv
    | receivePackagePart => exact yields_nodeReceivePackagePart inv orderly
    | _ => exact yields_onDesk inv
  | commitFlash => exact yields_nodeCommitFlash orderly inv
  | rollbackFlash => exact yields_nodeRollbackFlash orderly inv

theorem UpdateNode.Step.inv
    (step : UpdateNode.Step κ crc hash members (NodeCall.Orderly members) x y) (inv : x.Inv) :
  y.Inv
  := by
  obtain ⟨b, -, w, call, _, orderly, run, -⟩ := step
  have kept : Yields (call.run κ crc hash members w b) x fun _ y => y.Inv :=
    NodeCall.yields_run inv orderly
  rwa [Yields, run] at kept

/-- In every run of orderly calls: a component takes part in the transaction only if a session of it
was accepted and neither aborted nor committed or rolled back since, and if there is none and no
component is on trial or pending a reset, the node is idle. -/
theorem listed_has_session
    (run : Reachable UpdateNode.Starts
      (UpdateNode.Step κ crc hash members (NodeCall.Orderly (σ := σ) members)) x) :
  (∀ id, x.Listed id → x.accepted id = true) ∧
    ∀ w, (∀ id, x.accepted id = false) → (∀ r ∈ x.reports members w, r.2.inTrial = false) →
      (∀ r ∈ x.reports members w, r.2.pendingReset = false) → x.nodeUpdateState members w = .idle
  := by
  have inv : x.Inv := run.invariant (fun _ starts => starts.inv) fun _ _ inv step => step.inv inv
  exact ⟨inv.accepted, fun w => inv.idle⟩

end Runs

namespace TwoMachines

def vm1Flash : FlashBackend :=
  { provider := vm1 }

def vm1Node (shared : Shared Store) : UpdateNode Store ℕ ℕ :=
  { node := { shared, memory := fun _ => {} }
    flash := fun _ => { area := fun _ => {} } }

def nodeWorld (faults : NvFaults) : NodeWorld Store :=
  { world := fun _ => { env := { working with nvFaults := faults } } }

def vm1Calls (faults : NvFaults) (call : NodeCall ℕ ℕ) (x : UpdateNode Store ℕ ℕ) :
    Ending BackendError Unit × UpdateNode Store ℕ ℕ :=
  call.run stubSigner (fun _ => 0) id [vm1Flash] (nodeWorld faults) vm1Flash x

/-- NV boots bank B of the machine, and the vector selects bank A. -/
def rebootPending : Shared Store :=
  { start with nv :=
      { deviceSize := BANKSET_BASE + 3 * BANKSET_STRIDE
        bootState := some (NvBootState.setBank {} ⟨1⟩ { activeBank := .B }) } }

def rebootOwed : Shared Store :=
  { start with nv := { start.nv with
      updateSession := some (NvUpdateSession.owe {} ⟨1⟩ (Buffer.zeros 16)) } }

theorem vm1Node_starts (shared : Shared Store) :
  (vm1Node shared).Starts
  := ⟨rfl, fun _ => rfl⟩

def Vm1Reaches (allowed : NodeWorld Store → FlashBackend →
    UpdateNode Store ℕ ℕ → NodeCall ℕ ℕ → Prop) :
    UpdateNode Store ℕ ℕ → Prop :=
  Reachable UpdateNode.Starts (UpdateNode.Step stubSigner (fun _ => 0) id [vm1Flash] allowed)

theorem Vm1Reaches.calls {allowed : NodeWorld Store → FlashBackend →
    UpdateNode Store ℕ ℕ → NodeCall ℕ ℕ → Prop}
    {x : UpdateNode Store ℕ ℕ} (reached : Vm1Reaches allowed x)
    (faults : NvFaults) (call : NodeCall ℕ ℕ) (allows : allowed (nodeWorld faults) vm1Flash x call)
    (returned : (vm1Calls faults call x).1 ≠ .stopped) :
  Vm1Reaches allowed (vm1Calls faults call x).2
  := reached.step ⟨vm1Flash, mem_cons_self, nodeWorld faults, call, _, allows, rfl, returned⟩

def refused : UpdateNode Store ℕ ℕ :=
  (vm1Calls noNvFault (.flash .startFlash) (vm1Node rebootPending)).2

def enveloped : UpdateNode Store ℕ ℕ :=
  (vm1Calls noNvFault (.flash (.receivePackagePart none)) (vm1Node start)).2

def opened (shared : Shared Store) : UpdateNode Store ℕ ℕ :=
  (vm1Calls noNvFault (.flash .startFlash) (vm1Node shared)).2

def calmed : UpdateNode Store ℕ ℕ :=
  (vm1Calls noNvFault (.flash .abortFlash) (opened start)).2

def reopened : UpdateNode Store ℕ ℕ :=
  (vm1Calls noNvFault (.flash .startFlash) calmed).2

def aborted : UpdateNode Store ℕ ℕ :=
  (vm1Calls (· = .updateSession) (.flash .abortFlash) (opened rebootOwed)).2

end TwoMachines

open TwoMachines in
/-- A component takes part in the transaction without an accepted session: after a start that was
refused, after an envelope that was sent outside of a session, and after its session was aborted
while a write to NV has failed. No component is on trial or pending a reset, and the node is not
idle. -/
theorem listed_without_session :
  (∃ x, Vm1Reaches (fun _ _ _ _ => True) x ∧ x.Listed "vm1" ∧ (∀ id, x.accepted id = false) ∧
    (vm1Calls noNvFault (.flash .startFlash) (vm1Node rebootPending)).1.isOk = false ∧
    x = (vm1Calls noNvFault (.flash .startFlash) (vm1Node rebootPending)).2 ∧
    x.nodeUpdateState [vm1Flash] (nodeWorld noNvFault) =
      { phase := .staging, components := ["vm1"] }) ∧
  (∃ x, Vm1Reaches (fun _ _ _ _ => True) x ∧ x.Listed "vm1" ∧ (∀ id, x.accepted id = false) ∧
    x = (vm1Calls noNvFault (.flash (.receivePackagePart none)) (vm1Node start)).2) ∧
  ∃ x, Vm1Reaches (fun _ _ _ _ => True) x ∧ x.Listed "vm1" ∧ x.accepted "vm1" = false ∧
    x = (vm1Calls (· = .updateSession) (.flash .abortFlash) (opened rebootOwed)).2
  := by
  have calm : ∀ shared, Vm1Reaches (fun _ _ _ _ => True) (vm1Node shared) :=
    fun shared => .init (vm1Node_starts shared)
  refine ⟨⟨refused, ?_⟩, ⟨enveloped, ?_⟩, aborted, ?_⟩
  · have listed : refused.staging = some ⟨["vm1"]⟩ := by decide +kernel
    refine ⟨(calm _).calls _ _ trivial ?_, ⟨_, listed, by decide⟩, fun _ => rfl, by decide +kernel,
      rfl, by decide +kernel⟩
    decide +kernel
  · have listed : enveloped.staging = some ⟨["vm1"]⟩ := by decide +kernel
    refine ⟨(calm _).calls _ _ trivial ?_, ⟨_, listed, by decide⟩, fun _ => rfl, rfl⟩
    decide +kernel
  · have listed : aborted.staging = some ⟨["vm1"]⟩ := by decide +kernel
    have started := (calm rebootOwed).calls noNvFault (.flash .startFlash) trivial
      (by decide +kernel)
    refine ⟨started.calls _ _ trivial ?_, ⟨_, listed, by decide⟩, by decide +kernel, rfl⟩
    decide +kernel

open TwoMachines in
/-- A component is started, aborted and started again. In between the node is idle, and at the end
the component takes part, and its session was accepted. -/
theorem started_is_listed :
  calmed.nodeUpdateState [vm1Flash] (nodeWorld noNvFault) = .idle ∧
    reopened.Listed "vm1" ∧ reopened.accepted "vm1" = true
  := by
  have begins : Vm1Reaches (NodeCall.Orderly [vm1Flash]) (vm1Node start) :=
    .init (vm1Node_starts start)
  have started := begins.calls noNvFault (.flash .startFlash) (.inr (.inr (by decide +kernel)))
    (by decide +kernel)
  have calm : Vm1Reaches _ calmed :=
    started.calls noNvFault (.flash .abortFlash) rfl (by decide +kernel)
  have run := calm.calls noNvFault (.flash .startFlash) (.inr (.inr (by decide +kernel)))
    (by decide +kernel)
  have listed : reopened.Listed "vm1" := ⟨⟨["vm1"]⟩, by decide +kernel, by decide⟩
  have ended : calmed.accepted = update (update (fun _ => false) "vm1" true) "vm1" false := rfl
  refine ⟨(listed_has_session calm).2 _ (fun id => ?_) (by decide +kernel) (by decide +kernel),
    listed, (listed_has_session run).1 "vm1" listed⟩
  rw [ended, update_idem, update_apply, ite_self]

end ComponentMgr
