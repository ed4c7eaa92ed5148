import MachineManager.Component.Registry
import MachineManager.SystemBank.BootCount

/-!
# The limit on boots of a trial

Without a verdict the node ends a trial by itself once it has counted as many boots as the host
allows. It first rolls back the boot vector, and then the components that were on trial. It never
commits a trial by itself. The count is the number of boots in which the trial was observed, however
often the process starts in each of them and whichever writes of the header fail.
-/

open Option

namespace ComponentMgr

open Call Nv Selector SystemBank InMemory

/-- What the host tells of the running boot and allows for a trial. -/
structure NodeCoordinator where
  nodeBootId : Option String := none
  trialBootLimit : Option UInt8 := none

structure NodeBootOutcome where
  trialBoots : Option UInt8 := none
  limit : Option UInt8
  bailedOut : Bool := false
  errors : List VerdictError := []
deriving DecidableEq

variable {σ : Type} {κ : Signing} {registry : Registry} {copies : σ → Copies}

section Observe

variable {ε α : Type} (κ : Signing) (S : SelectorStore σ) (coord : NodeCoordinator)
  (components : List (Component σ))

def onNodeVector (c : Call (Running σ) ε α) : Call (NodeState σ) ε α :=
  zoom (·.shared.running) (fun running x => { x with shared := { x.shared with running } }) c

def inTrial (x : NodeState σ) : List (Component σ) :=
  components.filter fun c => (c.banks (x.localOf c.id)).any (·.inTrial)

def rollbackComponent (out : NodeBootOutcome) (c : Component σ) :
    Call (NodeState σ) Empty NodeBootOutcome := do
  match ← attempt (onComponent c c.rollbackInstall) with
  | .ok () => return out
  | .error e => return { out with errors := out.errors ++ [{ id := c.id, message := e.text }] }

/-- Roll back the node. The components that are on trial are collected before the boot vector is
rolled back, since none of them is on trial after that. -/
def bailOut (out : NodeBootOutcome) : Call (NodeState σ) Empty NodeBootOutcome := do
  let x ← get
  let components := inTrial components x
  if !x.shared.running.manager.isTrial then return out
  else
    match ← attempt (onNodeVector (SystemBank.rollback S .trialBootLimit)) with
    | .error _ => return out
    | .ok () => components.foldlM rollbackComponent { out with bailedOut := true }

def heedLimit (out : NodeBootOutcome) (trialBoots : UInt8) : Call
    (NodeState σ) Empty NodeBootOutcome :=
  let out := { out with trialBoots := some trialBoots }
  if out.limit.all (trialBoots < ·) then return out
  else bailOut S components out

def observeNodeBoot : Call (NodeState σ) Empty NodeBootOutcome := do
  let out : NodeBootOutcome := { limit := coord.trialBootLimit }
  match coord.nodeBootId with
  | none => return out
  | some bootId =>
    match ← attempt (onNodeVector (SystemBank.observeNodeBoot κ S bootId)) with
    | .ok .notArmed => return out
    | .ok (.alreadyCounted trialBoots) | .ok (.counted trialBoots) =>
      heedLimit S components out trialBoots
    | .error _ => return out

end Observe

/-! ### Components that are rolled back after the boot vector -/

section Keeps

variable {ε α : Type} {R : Running σ → Prop}

theorem keeps_onNv {c : Call NvStore ε α} :
  Keeps (fun x : Shared σ => R x.running) (onNv c)
  := keeps_zoom (Q := fun _ => True) (fun _ _ => trivial) (fun _ _ => trivial) fun _ _ h _ => h

theorem keeps_onVector {c : Call (Running σ) ε α} (hc : Keeps R c) :
  Keeps (fun x : Shared σ => R x.running) (onVector c)
  := keeps_zoom hc (fun _ h => h) fun _ _ _ h => h

theorem keeps_onShared {c : Call (Shared σ) ε α} (hc : Keeps (fun x => R x.running) c) :
  Keeps (fun l : Local σ => R l.shared.running) (onShared c)
  := keeps_zoom hc (fun _ h => h) fun _ _ _ h => h

theorem keeps_onComponent (c : Component σ) {call : Call (Local σ) ε α}
    (hc : Keeps (fun l => R l.shared.running) call) :
  Keeps (fun x : NodeState σ => R x.shared.running) (onComponent c call)
  := keeps_zoom hc (fun _ h => h) fun _ _ _ h => h

variable {w : World σ} (rollback : Keeps R (SystemBank.rollback w.env.store .verdict))

include rollback

theorem IvdBankProvider.keeps_rollback (p : IvdBankProvider) :
  Keeps (fun x => R x.running) (p.rollback w.env)
  := by
  rw [IvdBankProvider.rollback, rollbackTarget, withSelector]
  refine keeps_bind ?_ fun _ => keeps_bind ?_ fun _ => keeps_bind ?_ fun _ => keeps_pure _
  · refine keeps_bind keeps_get fun x => keeps_bind (keeps_ofOption _ _) fun state => ?_
    refine keeps_bind (keeps_orStop _) fun bs => ?_
    exact keeps_ite (keeps_fail _) (keeps_pure _)
  · exact keeps_ite (keeps_mapErr (keeps_onVector rollback) _) (keeps_pure _)
  · exact keeps_mapErr keeps_onNv _

theorem ComponentBackend.keeps_rollbackFlash (b : ComponentBackend) :
  Keeps (fun l => R l.shared.running) (b.rollbackFlash w)
  := by
  rw [rollbackFlash, onProvider, resolveNodeTransaction]
  refine keeps_ite (keeps_fail _) (keeps_bind ?_ fun _ => keeps_bind ?_ fun _ => ?_)
  · exact keeps_mapErr (keeps_onShared (b.provider.keeps_rollback rollback)) _
  · refine keeps_bind keeps_get fun l => ?_
    exact keeps_ite (keeps_mapErr (keeps_onShared keeps_onNv) _) (keeps_pure _)
  · exact keeps_modify fun l h => h

omit rollback in
theorem AppComponent.keeps_rollbackInstall (a : AppComponent) :
  Keeps (fun l => R l.shared.running) (a.rollbackInstall w)
  := by
  rw [rollbackInstall, nvBank]
  refine keeps_bind ?_ fun (state, bs) => ?_
  · refine keeps_bind keeps_get fun l => keeps_bind (keeps_ofOption _ _) fun state => ?_
    exact keeps_bind (keeps_orStop _) fun bs => keeps_pure _
  · refine keeps_ite (keeps_fail _) (keeps_bind ?_ fun _ => ?_)
    · exact keeps_mapErr (keeps_onShared keeps_onNv) _
    · rw [flipCurrentSymlink]
      cases w.linkError with
      | none => exact keeps_pure _
      | some => exact keeps_fail _

/-- Whatever the boot vector keeps when it is rolled back once more, it keeps when a component is
rolled back. -/
theorem Member.keeps_rollbackInstall (m : Member) :
  Keeps (fun l => R l.shared.running) (m.component w).rollbackInstall
  := by
  cases m with
  | backend b => exact keeps_mapErr (b.keeps_rollbackFlash rollback) _
  | app a => exact a.keeps_rollbackInstall
  | bare => exact keeps_fail _

end Keeps

/-! ### Hosts -/

/-- A node on which a trial was sealed, with the history of the trial. -/
structure Host (σ : Type) where
  node : NodeState σ
  history : BootHistory

section Runs

variable (κ : Signing) (copies : σ → Copies) (registry : Registry)

namespace Host

variable (x : Host σ)

def vector : Running σ :=
  x.node.shared.running

def observes (S : SelectorStore σ) (coord : NodeCoordinator) : Bool :=
  x.vector.manager.isTrial && coord.nodeBootId.any fun id =>
    (SystemBank.observeNodeBoot κ S id x.vector).1.isOk

def afterObserve (S : SelectorStore σ) (coord : NodeCoordinator) : BootHistory :=
  if x.observes κ S coord then x.history.mark else x.history

/-- The observation returns with a count that reaches the limit. -/
def Reaches (S : SelectorStore σ) (coord : NodeCoordinator) : Prop :=
  x.observes κ S coord = true ∧ ∃ limit, coord.trialBootLimit = some limit ∧
    limit.toNat ≤ min 255 (x.afterObserve κ S coord).counted

/-- The host knows the id of the running boot, or none at all. -/
def Knows (coord : NodeCoordinator) : Prop :=
  ∀ id, coord.nodeBootId = some id → id = x.history.bootId

end Host

/-- What happens to a host without a verdict: the node boots, the process starts once more, or a
boot is observed. Nothing is assumed of NV and of the memory of a process that starts. -/
inductive HostStep (x : Host σ) : Host σ → Prop
  | boots {S : SelectorStore σ} (honours : Honours copies S) {id : String}
      (fresh : x.history.Fresh κ id) (readable : S.readTransaction x.vector.store =
        (.ok (copies x.vector.store).header, x.vector.store))
      {m : SystemBankManager} {t : σ} (loaded : load S x.vector.store = (.ok m, t)) (nv : NvStore)
      (memory : String → Memory) :
      HostStep x ⟨⟨⟨nv, ⟨t, m⟩⟩, memory⟩, x.history.begin id⟩
  | restarts {S : SelectorStore σ} (honours : Honours copies S)
      (readable : S.readTransaction x.vector.store =
        (.ok (copies x.vector.store).header, x.vector.store))
      {m : SystemBankManager} {t : σ} (loaded : load S x.vector.store = (.ok m, t)) (nv : NvStore)
      (memory : String → Memory) :
      HostStep x ⟨⟨⟨nv, ⟨t, m⟩⟩, memory⟩, x.history⟩
  | observes {S : SelectorStore σ} (honours : Honours copies S) (worlds : String → World σ)
      {coord : NodeCoordinator} (knows : x.Knows coord) {out : NodeBootOutcome} {node : NodeState σ}
      (call : observeNodeBoot κ S coord (registry.components worlds) x.node = (.ok out, node)) :
      HostStep x ⟨node, x.afterObserve κ S coord⟩

def HostRun (x : Host σ) : Host σ → Prop :=
  Reachable (· = x) (HostStep κ copies registry)

end Runs

/-! ### What an observation does -/

section Spec

variable {S : SelectorStore σ}
  {worlds : String → World σ} {coord : NodeCoordinator} {start : Copies} {h : BootHistory}

/-- A rollback of the store returns in the state, if there is a committed copy below the primary
one. -/
def Restores (copies : σ → Copies) (S : SelectorStore σ) (s : σ) : Prop :=
  ∀ header v, (copies s).secondary = some v → v.generation < generationOf (copies s).primary →
    ∃ g t, S.rollback header s = (.ok g, t)

/-- The trial is over, and the boot vector and its manager hold what a rollback at the limit
leaves. -/
def RolledBack (κ : Signing) (copies : σ → Copies) (start : Copies) (h : BootHistory)
    (n : Running σ) :
    Prop :=
  Recorded κ copies start h n ∧ n.manager.isTrial = false

/-- Another rollback of the boot vector leaves it alone. -/
theorem RolledBack.keeps_rollback (reason : Reason) :
  Keeps (RolledBack κ copies start h) (SystemBank.rollback S reason)
  := by
  rintro n ⟨recorded, settled⟩
  rw [rollback_settled settled]
  exact ⟨recorded.withPending none, settled⟩

variable {x node : NodeState σ} {n : Running σ} {out : NodeBootOutcome}
  {res : Ending Empty NodeBootOutcome}

theorem run_onNodeVector {ε α : Type} {c : Call (Running σ) ε α} {res : Ending ε α}
    (call : c x.shared.running = (res, n)) :
  onNodeVector c x = (res, { x with shared := { x.shared with running := n } })
  := run_zoom call

/-- The rollbacks of components leave the boot vector rolled back, and do not hide that it is. -/
theorem rollbackComponents {components : List (Component σ)}
    (sub : ∀ c ∈ components, c ∈ registry.components worlds)
    (call : components.foldlM rollbackComponent out x = (res, node))
    (rolledBack : RolledBack κ copies start h x.shared.running) :
  RolledBack κ copies start h node.shared.running ∧ ∀ out', res = .ok out' →
    out'.bailedOut = out.bailedOut
  := by
  constructor
  · have keeps : Keeps (fun x : NodeState σ => RolledBack κ copies start h x.shared.running)
        (components.foldlM rollbackComponent out) := by
      refine keeps_foldlM (fun c hc out => ?_) out
      obtain ⟨m, -, rfl⟩ := Registry.mem_components (sub c hc)
      rw [rollbackComponent]
      refine keeps_bind (keeps_attempt (keeps_onComponent _ ?_)) fun answer => ?_
      · exact m.keeps_rollbackInstall (RolledBack.keeps_rollback .verdict)
      · cases answer with
        | ok | error => exact keeps_pure _
    have kept := keeps x rolledBack
    rw [call] at kept
    apply kept
  · rintro out' rfl
    apply foldlM_invariant (P := fun _ out' _ => out'.bailedOut = out.bailedOut) _ rfl call
    intro c rest out₁ s out₂ s' same step
    rw [rollbackComponent] at step
    obtain ⟨answer, _, -, step⟩ := ok_of_bind step
    cases answer <;> cases step <;> apply same

/-- A store that restores the committed copy does so for the trial, if there is one. -/
theorem Restores.rollback (restores : Restores copies S n.store) (floor : start.secondary.isSome)
    (recorded : Recorded κ copies start h n) (trial : n.manager.isTrial = true)
    (header : Transaction) :
  ∃ g t, S.rollback header n.store = (.ok g, t)
  := by
  obtain ⟨v, secondary⟩ := isSome_iff_exists.mp floor
  have above := recorded.trial.above
  have primary := recorded.primary
  rw [if_pos trial] at primary
  rw [secondary, ← primary] at above
  apply restores header v _ above
  rw [recorded.floor, secondary]

/-- The node bails out, unless the store refuses. -/
theorem bailOut_cases (recorded : Recorded κ copies start h x.shared.running)
    (honours : Honours copies S)
    (trial : x.shared.running.manager.isTrial = true) (begun : out.bailedOut = false)
    (call : bailOut S (registry.components worlds) out x = (res, node)) :
  (¬(Restores copies S x.shared.running.store ∧ start.secondary.isSome) ∧
    ∀ out', res = .ok out' → out'.bailedOut = false ∧
      Recorded κ copies start h node.shared.running ∧ node.shared.running.manager.isTrial = true) ∨
  RolledBack κ copies start h node.shared.running ∧ ∀ out', res = .ok out' → out'.bailedOut = true
  := by
  have refused (failed : (SystemBank.rollback S .trialBootLimit x.shared.running).1 ≠ .ok ()) :
      ¬(Restores copies S x.shared.running.store ∧ start.secondary.isSome) := by
    rintro ⟨restores, floor⟩
    obtain ⟨g, t, restored⟩ := restores.rollback floor recorded trial
      (x.shared.running.manager.rollbackHeader .trialBootLimit)
    apply failed
    rw [rollback_trial trial restored]
    rfl
  rw [bailOut, run_get_bind, trial, Bool.not_true, if_neg Bool.false_ne_true] at call
  rcases rollback : SystemBank.rollback S .trialBootLimit x.shared.running with ⟨_, n⟩
  have vector := run_onNodeVector rollback
  rw [rollback] at refused
  rcases recorded.rollback honours trial rollback with
    ⟨rfl, after, settled⟩ | ⟨e, rfl, manager, store⟩ | rfl
  · right
    rw [run_bind_ok (run_attempt_ok vector)] at call
    obtain ⟨rolledBack, bailed⟩ := rollbackComponents (fun c hc => List.mem_of_mem_filter hc) call
      ⟨after, settled⟩
    exact ⟨rolledBack, bailed⟩
  · left
    use refused nofun
    rw [run_bind_ok (run_attempt_err vector)] at call
    cases call
    rintro _ ⟨⟩
    obtain ⟨_, m⟩ := n
    obtain rfl : m = _ := manager
    exact ⟨begun, recorded.congr store, trial⟩
  · left
    use refused nofun
    rw [run_bind_stopped (run_attempt_stopped vector)] at call
    cases call
    nofun

/-- The count of a history is below every limit, or reaches one. -/
theorem heeded_iff {limit : Option UInt8} :
  limit.all ((h.header κ).trialBoots < ·) = true ↔ ¬∃ l, limit = some l ∧
    l.toNat ≤ min 255 h.counted
  := by
  rw [← BootHistory.trialBoots_header (κ := κ)]
  cases limit with
  | none => simp
  | some =>
    rw [all_some, decide_eq_true_iff, UInt8.lt_iff_toNat_lt, ← Nat.not_le]
    simp

/-- The limit is heeded with the count of the history. -/
theorem heedLimit_cases (recorded : Recorded κ copies start h x.shared.running)
    (honours : Honours copies S)
    (trial : x.shared.running.manager.isTrial = true) (begun : out.bailedOut = false)
    (call : heedLimit S (registry.components worlds) out (h.header κ).trialBoots x =
      (res, node)) :
  (¬(Restores copies S x.shared.running.store ∧ start.secondary.isSome ∧
      ∃ l, out.limit = some l ∧ l.toNat ≤ min 255 h.counted) ∧
    ∀ out', res = .ok out' → out'.bailedOut = false ∧
      Recorded κ copies start h node.shared.running ∧ node.shared.running.manager.isTrial = true) ∨
  (∃ l, out.limit = some l ∧ l.toNat ≤ min 255 h.counted) ∧
    RolledBack κ copies start h node.shared.running ∧ ∀ out', res = .ok out' → out'.bailedOut = true
  := by
  rw [heedLimit, run_ite] at call
  split at call
  next heeded =>
    left
    cases call
    constructor
    · rintro ⟨-, -, reached⟩
      apply heeded_iff.mp heeded reached
    · rintro _ ⟨⟩
      exact ⟨begun, recorded, trial⟩
  next reached =>
    have reached := not_not.mp (mt heeded_iff.mpr reached)
    have begun' : ({ out with trialBoots := some (h.header κ).trialBoots } :
      NodeBootOutcome).bailedOut =
        false := begun
    rcases bailOut_cases recorded honours trial begun' call with ⟨refused, kept⟩ | rolledBack
    · left
      constructor
      · rintro ⟨restores, floor, -⟩
        apply refused ⟨restores, floor⟩
      · apply kept
    · right
      exact ⟨reached, rolledBack⟩

/-- A settled boot vector has nothing to observe. -/
theorem observeNodeBoot_settled (settled : n.manager.isTrial = false) (id : String) :
  SystemBank.observeNodeBoot κ S id n = (.ok .notArmed, n)
  := by
  have filtered : (n.manager.transaction.filter fun _ => n.manager.isTrial) = none := by
    rw [settled, filter_eq_none_iff]
    nofun
  rw [SystemBank.observeNodeBoot, run_get_bind, filtered]
  rfl

/-- Nothing is counted if the observation does not return. -/
theorem left_of_unobserved {x : Host σ} (recorded : Recorded κ copies start x.history n)
    {trial : Bool} (same : n.manager.isTrial = trial) (begun : out.bailedOut = false)
    (unobserved : x.observes κ S coord = false) (s : σ) :
  ¬(Restores copies S s ∧ start.secondary.isSome ∧ x.Reaches κ S coord) ∧
    ∀ out', (.ok out : Ending Empty NodeBootOutcome) = .ok out' → out'.bailedOut = false ∧
      Recorded κ copies start (x.afterObserve κ S coord) n ∧ n.manager.isTrial = trial
  := by
  constructor
  · rintro ⟨-, -, observed, -⟩
    cases unobserved.symm.trans observed
  · rintro _ ⟨⟩
    have after : x.afterObserve κ S coord = x.history := if_neg (ne_true_of_eq_false unobserved)
    rw [after]
    exact ⟨begun, recorded, same⟩

/-- What an observation of the registry does: it leaves the trial as it was with the count in the
header, or it rolls the boot vector back. -/
theorem observeNodeBoot_cases {x : Host σ} (recorded : Recorded κ copies start x.history x.vector)
    (honours : Honours copies S) (knows : x.Knows coord)
    (call : observeNodeBoot κ S coord (registry.components worlds) x.node = (res, node)) :
  (¬(Restores copies S (SystemBank.observeNodeBoot κ S x.history.bootId x.vector).2.store ∧
      start.secondary.isSome ∧ x.Reaches κ S coord) ∧ ∀ out, res = .ok out → out.bailedOut = false ∧
      Recorded κ copies start (x.afterObserve κ S coord) node.shared.running ∧
      node.shared.running.manager.isTrial = x.vector.manager.isTrial) ∨
  x.Reaches κ S coord ∧ RolledBack κ copies start (x.afterObserve κ S coord) node.shared.running ∧
    ∀ out, res = .ok out → out.bailedOut = true
  := by
  rw [observeNodeBoot] at call
  cases known : coord.nodeBootId with
  | none =>
    rw [known] at call
    cases call
    left
    apply left_of_unobserved recorded rfl rfl
    rw [Host.observes, known, Option.any_none, Bool.and_false]
  | some id =>
    obtain rfl := knows id known
    rw [known] at call
    dsimp only at call
    rcases observation : SystemBank.observeNodeBoot κ S x.history.bootId x.vector with ⟨answer, n⟩
    have vector := run_onNodeVector observation
    have observes : x.observes κ S coord = (x.vector.manager.isTrial && answer.isOk) := by
      rw [Host.observes, known, any_some, observation]
    cases trial : x.vector.manager.isTrial with
    | false =>
      rw [trial, Bool.false_and] at observes
      cases (observeNodeBoot_settled trial _).symm.trans observation
      rw [run_bind_ok (run_attempt_ok vector)] at call
      cases call
      left
      apply left_of_unobserved recorded trial rfl observes
    | true =>
      rw [trial, Bool.true_and] at observes
      rcases recorded.observe honours trial observation with
        ⟨o, rfl, counts, recorded', trial'⟩ | ⟨e, rfl, manager, store⟩ | rfl
      · rw [run_bind_ok (run_attempt_ok vector)] at call
        have after : x.afterObserve κ S coord = x.history.mark := if_pos observes
        have heeded : heedLimit S (registry.components worlds) { limit := coord.trialBootLimit }
            (x.history.mark.header κ).trialBoots
              { x.node with shared := { x.node.shared with running := n } } = (res, node) := by
          rcases counts with rfl | rfl <;> apply call
        rw [Host.Reaches, after]
        rcases heedLimit_cases recorded' honours trial' rfl heeded with ⟨unreached, kept⟩
          | rolledBack
        · left
          constructor
          · rintro ⟨restores, floor, -, reached⟩
            apply unreached ⟨restores, floor, reached⟩
          · apply kept
        · right
          exact ⟨⟨observes, rolledBack.1⟩, rolledBack.2⟩
      · rw [run_bind_ok (run_attempt_err vector)] at call
        cases call
        left
        obtain ⟨t, m⟩ := n
        obtain rfl : m = _ := manager
        apply left_of_unobserved (recorded.congr store) trial rfl observes
      · rw [run_bind_stopped (run_attempt_stopped vector)] at call
        cases call
        left
        constructor
        · rintro ⟨-, -, observed, -⟩
          cases observes.symm.trans observed
        · nofun

/-- Every step of a host keeps what is recorded of the trial. -/
theorem HostStep.recorded {x y : Host σ} (step : HostStep κ copies registry x y)
    (recorded : Recorded κ copies start x.history x.vector) :
  Recorded κ copies start y.history y.vector
  := by
  cases step with
  | boots honours fresh readable loaded =>
    apply (recorded.loaded honours readable loaded).1.begin fresh
  | restarts honours readable loaded =>
    apply (recorded.loaded honours readable loaded).1
  | observes honours _ knows call =>
    rcases observeNodeBoot_cases recorded honours knows call with ⟨-, kept⟩ | ⟨-, rolledBack, -⟩
    · apply (kept _ rfl).2.1
    · apply rolledBack.1

theorem recorded_of_run {x y : Host σ} (run : HostRun κ copies registry x y)
    (recorded : Recorded κ copies start x.history x.vector) :
  Recorded κ copies start y.history y.vector
  := by
  apply run.invariant (P := fun y => Recorded κ copies start y.history y.vector)
  · rintro _ rfl
    apply recorded
  · intro x y recorded step
    apply step.recorded recorded

end Spec

/-! ### The count and the limit -/

section Trial

/-- A trial that a manager, which held what its store did, has just sealed in the first boot of the
history, and whose header landed. -/
structure TrialSealed (κ : Signing) (copies : σ → Copies) (x : Host σ) : Prop where
  call : ∃ S n lost, Honours copies S ∧ Cached (copies n.store) lost n.manager ∧
    sealPending κ S (some x.history.armed) n = (.ok true, x.vector)
  trial : x.vector.manager.isTrial = true
  landed : (copies x.vector.store).headerAtPrimary.isSome
  boots : x.history.boots = []
  nonzero : bootIdDigest κ x.history.armed ≠ Buffer.zeros 16

theorem TrialSealed.recorded {x : Host σ} (sealed : TrialSealed κ copies x) :
  Recorded κ copies (copies x.vector.store) x.history x.vector
  := by
  obtain ⟨⟨S, n, _, honours, cached, call⟩, trial, landed, boots, nonzero⟩ := sealed
  have recorded := recorded_of_seal honours cached call trial landed nonzero
  rw [← boots] at recorded
  apply recorded

/-- The header counts the boots in which the trial was observed. The boot vector is rolled back,
with the limit as its reason, by an observation whose count reaches the limit, and by no other one;
if the store refuses, the next observation tries again. The committed copy stays as it is. -/
theorem trial_counted_and_limited {x₀ x : Host σ} (sealed : TrialSealed κ copies x₀)
    (run : HostRun κ copies registry x₀ x) :
  (∃ t, (copies x.vector.store).headerAtPrimary = some t ∧ x.vector.manager.transaction = some t ∧
    t.trialBoots.toNat = min 255 x.history.counted ∧
    t.resolution = if x.vector.manager.isTrial then none
      else some { outcome := .rolledBack, reason := .trialBootLimit }) ∧
  (copies x.vector.store).secondary = (copies x₀.vector.store).secondary ∧
  (copies x.vector.store).primary =
    (if x.vector.manager.isTrial then (copies x₀.vector.store).primary
      else (copies x₀.vector.store).secondary) ∧
  ∀ S : SelectorStore σ, Honours copies S → ∀ worlds coord, x.Knows coord → ∀ res node,
    observeNodeBoot κ S coord (registry.components worlds) x.node = (res, node) →
    (∀ out, res = .ok out → (out.bailedOut = true ↔ x.vector.manager.isTrial = true ∧
        node.shared.running.manager.isTrial = false) ∧
      (out.bailedOut = true → x.Reaches κ S coord)) ∧
    (Restores copies S (SystemBank.observeNodeBoot κ S x.history.bootId x.vector).2.store →
      (copies x₀.vector.store).secondary.isSome → x.Reaches κ S coord →
      node.shared.running.manager.isTrial = false)
  := by
  have recorded := recorded_of_run run sealed.recorded
  refine ⟨⟨_, recorded.header, recorded.transaction, ?_, ?_⟩, recorded.floor, recorded.primary, ?_⟩
  · cases x.vector.manager.isTrial <;> apply BootHistory.trialBoots_header (κ := κ)
  · cases x.vector.manager.isTrial <;> rfl
  · intro S honours worlds coord knows res node call
    rcases observeNodeBoot_cases recorded honours knows call with
      ⟨unreached, kept⟩ | ⟨reaches, ⟨-, settled⟩, bailed⟩
    · constructor
      · intro out returned
        obtain ⟨begun, -, same⟩ := kept out returned
        rw [begun, same]
        constructor
        · simp
        · nofun
      · intro restores floor reaches
        apply absurd ⟨restores, floor, reaches⟩ unreached
    · have trial : x.vector.manager.isTrial = true := (Bool.and_eq_true_iff.mp reaches.1).1
      constructor
      · intro out returned
        rw [bailed out returned]
        exact ⟨⟨fun _ => ⟨trial, settled⟩, fun _ => rfl⟩, fun _ => reaches⟩
      · intro _ _ _
        apply settled

end Trial

/-! ### One trial on two machines -/

namespace TwoMachines

/-- The digest of a text is its start. -/
def naming : Signing where
  sha256 bytes := Vector.ofFn fun i => bytes.getD i 0
  sign _ := []
  verify _ _ := true
  verify_sign _ := rfl

/-- The manager has staged the other banks, over the committed copy if there is one. -/
def stagedOver (floor : Option BootVector) : Running Store where
  store := { primary := some vector, secondary := floor }
  manager := {
    current := vector.entries
    generation := 1
    committed := entriesOf floor
    committedGeneration := generationOf floor
    transaction := none
    pending := some trialVector.entries }

def armed (floor : Option BootVector) : Host Store where
  node := {
    shared := {
      nv := onTrial
      running := (sealPending naming inMemorySelectorStore (some "boot-1") (stagedOver floor)).2 }
    memory _ := {} }
  history := { armed := "boot-1" }

def rebooted (floor : Option BootVector) : Host Store where
  node := {
    shared := {
      nv := onTrial
      running := ⟨(armed floor).vector.store, (InMemory.copies (armed floor).vector.store).view
          (InMemory.copies (armed floor).vector.store).headerAtPrimary⟩ }
    memory _ := {} }
  history := { armed := "boot-1", boots := [{ id := "boot-2" }] }

def oneBoot : NodeCoordinator where
  nodeBootId := some "boot-2"
  trialBootLimit := some 1

theorem digest_nonzero :
  bootIdDigest naming "boot-1" ≠ Buffer.zeros 16
  := by decide +kernel

theorem cached_stagedOver (floor : Option BootVector) :
  Cached (InMemory.copies (stagedOver floor).store) false (stagedOver floor).manager
  := ⟨rfl, rfl, rfl, rfl, nofun, nofun, rfl⟩

variable {floor : Option BootVector}

theorem armed_sealed (trial : (armed floor).vector.manager.isTrial = true) :
  TrialSealed naming InMemory.copies (armed floor)
  where
  call := ⟨inMemorySelectorStore, stagedOver floor, false, honours, cached_stagedOver floor, rfl⟩
  trial := trial
  landed := by
    rw [Copies.headerAtPrimary_eq_some]
    · rfl
    · rfl
  boots := rfl
  nonzero := digest_nonzero

theorem digest_fresh :
  bootIdDigest naming "boot-2" ≠ Buffer.zeros 16 ∧ bootIdDigest naming "boot-2" ≠
    bootIdDigest naming "boot-1"
  := by decide +kernel

theorem run_rebooted (trial : (armed floor).vector.manager.isTrial = true) :
  HostRun naming InMemory.copies node (armed floor) (rebooted floor)
  := by
  have cached := (armed_sealed trial).recorded.cached
  have fresh : (armed floor).history.Fresh naming "boot-2" :=
    ⟨digest_fresh.1, digest_fresh.2, nofun⟩
  have loaded := load_of_recorded (S := inMemorySelectorStore)
    (s := (armed floor).vector.store) (c := copies (armed floor).vector.store) rfl rfl rfl
    cached.unrecorded
  have step : HostStep naming copies node (armed floor) (rebooted floor) :=
    .boots honours fresh rfl loaded onTrial fun _ => {}
  exact .step (.init rfl) step

/-- The second boot observes the trial, and the limit is reached. -/
theorem rebooted_reaches (floor : Option BootVector)
    (trial : (rebooted floor).vector.manager.isTrial = true)
    (observed : (SystemBank.observeNodeBoot naming inMemorySelectorStore "boot-2"
      (rebooted floor).vector).1.isOk = true) :
  (rebooted floor).Reaches naming inMemorySelectorStore oneBoot
  := by
  have observes : (rebooted floor).observes naming inMemorySelectorStore oneBoot = true := by
    rw [Host.observes, trial, Bool.true_and]
    apply observed
  have after : (rebooted floor).afterObserve naming inMemorySelectorStore oneBoot =
      (rebooted floor).history.mark := if_pos observes
  have counted : (rebooted floor).history.mark.counted = 1 := rfl
  refine ⟨observes, 1, rfl, ?_⟩
  rw [after, counted]
  decide

/-- A record that keeps all rows, in a trial that was sealed in the first boot. -/
def sealedRecord : StoreState where
  record := { primary := some trialVector, secondary := some vector }
  transaction := some (SelectorBlob.signed naming 2 ∅ (some (sealHeader naming (some "boot-1"))))

def recordStore (io : Io) : SelectorStore StoreState :=
  recordSelectorStore naming { routes := fun _ => true, routesEverything := true } io

def secondManager : SystemBankManager where
  current := trialVector.entries
  generation := 2
  committed := vector.entries
  committedGeneration := 1
  transaction := some (sealHeader naming (some "boot-1"))

def secondHeader : Transaction :=
  countBoot (bootIdDigest naming "boot-2") (sealHeader naming (some "boot-1"))

def countedRecord : StoreState :=
  { sealedRecord with transaction := some (SelectorBlob.signed naming 2 ∅ (some secondHeader)) }

def thirdManager : SystemBankManager :=
  { secondManager with transaction := some secondHeader }

def headerLands : Io where
  transaction := .fails true
  record_err := Fault.none_ne_fails
  undo_err := Fault.none_ne_fails

end TwoMachines

open TwoMachines in
/-- A trial that was sealed without a committed copy is not rolled back when the limit is reached,
with no write that fails. A header that landed although its write failed counts a boot in which no
observation returned. -/
theorem limit_without_floor_and_landed_count :
  (TrialSealed naming InMemory.copies (armed none) ∧
    HostRun naming InMemory.copies node (armed none) (rebooted none) ∧
    (rebooted none).Reaches naming inMemorySelectorStore oneBoot ∧
    ∃ out y, observeNodeBoot naming inMemorySelectorStore oneBoot (node.components (failingNv []))
        (rebooted none).node = (.ok out, y) ∧
      out.bailedOut = false ∧ y.shared.running.manager.isTrial = true) ∧
  ∃ e t m, load (recordStore {}) sealedRecord = (.ok secondManager, sealedRecord) ∧
    SystemBank.observeNodeBoot naming (recordStore headerLands) "boot-2"
      ⟨sealedRecord, secondManager⟩ = (.err e, ⟨t, secondManager⟩) ∧
    load (recordStore {}) t = (.ok m, t) ∧ m.isTrial = true ∧
    m.transaction.map (·.trialBoots) = some 1
  := by
  constructor
  · have trial : (armed none).vector.manager.isTrial = true := by decide +kernel
    have observed : (observeNodeBoot naming inMemorySelectorStore oneBoot
        (node.components (failingNv [])) (rebooted none).node).1 = .ok {
          trialBoots := some 1
          limit := some 1 } := by
      decide +kernel
    refine ⟨armed_sealed trial, run_rebooted trial, ?_, _, _, Prod.ext observed rfl, rfl, ?_⟩
    · apply rebooted_reaches
      · decide +kernel
      · decide +kernel
    · decide +kernel
  · have loaded : load (recordStore {}) sealedRecord = (.ok secondManager, sealedRecord) := by
      decide +kernel
    have failed : (SystemBank.observeNodeBoot naming (recordStore headerLands) "boot-2"
        ⟨sealedRecord, secondManager⟩).1 = .err (.io "input/output error") := by
      decide +kernel
    have landed : (SystemBank.observeNodeBoot naming (recordStore headerLands) "boot-2"
        ⟨sealedRecord, secondManager⟩).2.store = countedRecord := by
      decide +kernel
    have forgotten : (SystemBank.observeNodeBoot naming (recordStore headerLands) "boot-2"
        ⟨sealedRecord, secondManager⟩).2.manager = secondManager := by
      decide +kernel
    have counted : load (recordStore {}) countedRecord = (.ok thirdManager, countedRecord) := by
      decide +kernel
    rcases call : SystemBank.observeNodeBoot naming (recordStore headerLands) "boot-2"
      ⟨sealedRecord, secondManager⟩ with ⟨res, ⟨t, m⟩⟩
    rw [call] at failed landed forgotten
    cases failed
    cases landed
    cases forgotten
    exact ⟨_, _, _, loaded, rfl, counted, by decide +kernel, by decide +kernel⟩

open TwoMachines in
/-- With a limit of one the second boot rolls the boot vector back. -/
theorem second_boot_bails_out :
  ∃ out y, observeNodeBoot naming inMemorySelectorStore oneBoot (node.components (failingNv []))
      (rebooted (some vector)).node = (.ok out, y) ∧ out.trialBoots = some 1 ∧ out.bailedOut = true
  := by
  have trial : (armed (some vector)).vector.manager.isTrial = true := by decide +kernel
  have spec := trial_counted_and_limited (armed_sealed trial) (run_rebooted trial)
  have observed : (observeNodeBoot naming inMemorySelectorStore oneBoot
    (node.components (failingNv []))
      (rebooted (some vector)).node).1 = .ok {
        trialBoots := some 1
        limit := some 1
        bailedOut := true } := by
    decide +kernel
  have limited := (spec.2.2.2 inMemorySelectorStore InMemory.honours (failingNv []) oneBoot
    (fun id known => (Option.some.inj known).symm) _ _ (Prod.ext observed rfl)).1 _ rfl
  exact ⟨_, _, Prod.ext observed rfl, rfl, limited.1.mpr ⟨by decide +kernel, by decide +kernel⟩⟩

end ComponentMgr
