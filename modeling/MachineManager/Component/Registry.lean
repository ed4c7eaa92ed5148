import Mathlib.Data.List.Pairwise
import MachineManager.Component.Siblings
import MachineManager.Component.Verdict

/-!
# Verdicts on a registry

The components of a node are banked components that share the boot vector, applications, and others
that have no part in the update flow. A verdict without errors leaves no candidate on trial. A
candidate with an error is still one when the verdict is repeated, as long as the boot vector is on
trial: the first call that ends its trial ends it for all components, and a component whose own NV
write fails after that is not looked at again.
-/

namespace ComponentMgr

open Call Nv Selector SystemBank

/-- A component of the node. -/
inductive Member
  | backend (b : ComponentBackend)
  | app (a : AppComponent)
  | bare (id : String) (flash : Option FlashCaps)

namespace Member

def id : Member → String
  | backend b => b.provider.componentId
  | app a => a.id
  | bare id _ => id

def slot : Member → Option BankSet
  | backend b => some b.provider.bankSet
  | app a => some a.slot
  | bare _ _ => none

def usesVector : Member → Bool
  | backend _ => true
  | _ => false

def component {σ : Type} (w : World σ) : Member → Component σ
  | backend b => b.component w
  | app a => a.component w
  | bare id flash => .bare id flash

@[simp]
theorem component_id {σ : Type} (w : World σ) (m : Member) :
  (m.component w).id = m.id
  := by cases m <;> rfl

end Member

/-- The components of a node. No two have one id or one slot, every slot fits into the boot state,
and the boot vector is wired to the provider of every banked component. -/
structure Registry where
  members : List Member
  ids : (members.map Member.id).Nodup
  slots : (members.filterMap Member.slot).Nodup
  capacity : ∀ m ∈ members, ∀ set, m.slot = some set → set.asIndex < MAX_SLOTS
  wired : ∀ b, .backend b ∈ members → b.provider.selector = true

variable {σ : Type} {m : Member} {verdict : Verdict} {l l' : Local σ} {w : World σ}
  {readBank : Bank → BankContents}

namespace Registry

variable (registry : Registry)

def components (worlds : String → World σ) : List (Component σ) :=
  registry.members.map fun m => m.component (worlds m.id)

theorem components_ids (worlds : String → World σ) :
  ((registry.components worlds).map (·.id)).Nodup
  := by
  have eq : (registry.components worlds).map (·.id) = registry.members.map Member.id := by
    rw [components, List.map_map]
    apply List.map_congr_left
    intro m _
    apply m.component_id
  rw [eq]
  apply registry.ids

/-- Two components have two slots. -/
theorem slot_ne {m' : Member} (hm : m ∈ registry.members) (hm' : m' ∈ registry.members)
    (ne : m.id ≠ m'.id) {set set' : BankSet} (slot : m.slot = some set)
    (slot' : m'.slot = some set') :
  set ≠ set'
  := by
  have pairwise := List.pairwise_filterMap.mp registry.slots
  have : Std.Symm fun m m' : Member =>
      ∀ set, m.slot = some set → ∀ set', m'.slot = some set' → set ≠ set' :=
    ⟨fun _ _ h set slot set' slot' => (h set' slot' set slot).symm⟩
  apply pairwise.forall hm hm' _ set slot set' slot'
  rintro rfl
  apply ne rfl

end Registry

/-! ### Backends that await the verdict -/

namespace ComponentBackend

variable (b : ComponentBackend)

/-- A banked component is a candidate, and nothing is left to verify. -/
structure Awaits (verdict : Verdict) (readBank : Bank → BankContents) (l : Local σ) : Prop where
  banked : b.singleBank = false
  supported : verdict = .rollback → b.supportsRollback = true
  uploaded : l.memory.uploadPhase = false
  inTrial : (b.provider.banks l.shared readBank).inTrial = true
  transfer : l.memory.flashTransfer = some .activated ∨ l.memory.flashTransfer = none ∧
    isFlashed l.shared.nv b.provider.bankSet l.memory.runningBank = true ∧
    (b.provider.banks l.shared readBank).pendingReset = false

theorem admits_iff {state : FlashState} :
  admits verdict (b.component w) state l = true ↔
    b.singleBank = false ∧ state = .activated ∧ (verdict = .rollback → b.supportsRollback = true) ∧
      (b.provider.banks l.shared w.env.readBank).inTrial = true
  := by
  rw [admits, component]
  dsimp only
  generalize b.provider.banks l.shared w.env.readBank = banks
  obtain ⟨inTrial, _⟩ := banks
  cases b.singleBank <;> cases b.supportsRollback <;> cases verdict <;> cases inTrial <;> simp

/-- The state is read off the transfer or the banks. -/
theorem stateOf_eq_activated :
  b.stateOf w l = .activated ↔
    l.memory.uploadPhase = false ∧ (l.memory.flashTransfer = some .activated ∨
      l.memory.flashTransfer = none ∧
        isFlashed l.shared.nv b.provider.bankSet l.memory.runningBank = true ∧
        (b.provider.banks l.shared w.env.readBank).inTrial = true ∧
        (b.provider.banks l.shared w.env.readBank).pendingReset = false)
  := by
  rw [stateOf]
  generalize b.provider.banks l.shared w.env.readBank = banks
  obtain ⟨inTrial, pendingReset⟩ := banks
  cases l.memory.uploadPhase with
  | true => simp
  | false =>
    cases l.memory.flashTransfer with
    | some => simp
    | none =>
      cases isFlashed l.shared.nv b.provider.bankSet l.memory.runningBank <;>
        cases inTrial <;> cases pendingReset <;> simp

theorem verify_cases (capacity : b.provider.bankSet.asIndex < MAX_SLOTS) :
  b.verify w l = (.ok (), l) ∨ (∃ e, b.verify w l = (.err e, l)) ∨
    ∃ bank, l.memory.flashTransfer = some .verifying ∧ b.verify w l = (.ok (), { l with
      memory := { l.memory with runningBank := bank, flashTransfer := some .activated } })
  := by
  rw [verify, run_get_bind, run_ite]
  split
  next verifying =>
    rw [nvBank, run_bind, run_get_bind]
    cases l.shared.nv.readBootState with
    | none =>
      right; left
      refine ⟨_, rfl⟩
    | some state =>
      rw [run_ofOption_some_bind]
      have entry : state.bank? b.provider.bankSet =
        some state.banks[b.provider.bankSet.asIndex] := by
        simp [NvBootState.bank?, capacity]
      rw [entry]
      right; right
      refine ⟨_, verifying.1, rfl⟩
  next =>
    left
    rfl

/-- The state is told once the verification has returned. -/
theorem activationState_of_verify (verified : b.verify w l = (.ok (), l')) :
  (b.component w).activationState l = (.ok (some (b.stateOf w l')), l')
  := by
  have state : b.getActivationState w l = (.ok (b.stateOf w l'), l') := by
    rw [getActivationState, run_bind_ok verified, run_get_bind]
    rfl
  have lifted : (do return some (← b.getActivationState w) : Call (Local σ) _ _) l =
      (.ok (some (b.stateOf w l')), l') := by
    rw [run_bind_ok state]
    rfl
  exact run_mapErr lifted mapBackendError

section

variable (capacity : b.provider.bankSet.asIndex < MAX_SLOTS)
include capacity

theorem activationState_cases :
  (∃ e, (b.component w).activationState l = (.err e, l)) ∨
    ∃ memory, (b.component w).activationState l =
        (.ok (some (b.stateOf w { l with memory })), { l with memory }) ∧
      (memory = l.memory ∨ l.memory.flashTransfer = some .verifying ∧
        memory.flashTransfer = some .activated ∧ memory.uploadPhase = l.memory.uploadPhase)
  := by
  rcases b.verify_cases (w := w) (l := l) capacity with verified | ⟨e, failed⟩
    | ⟨_, verifying, verified⟩
  · right
    use l.memory, b.activationState_of_verify verified
    left
    rfl
  · left
    have state : b.getActivationState w l = (.err e, l) := by
      rw [getActivationState, run_bind_err failed]
    have lifted : (do return some (← b.getActivationState w) : Call (Local σ) _ _) l =
      (.err e, l) := by
      rw [run_bind_err state]
    use mapBackendError e
    exact run_mapErr lifted mapBackendError
  · right
    refine ⟨_, b.activationState_of_verify verified, .inr ⟨verifying, rfl, rfl⟩⟩

theorem lawful (w : World σ) :
  (b.component w).Lawful
  where
  activation l := by
    rcases b.activationState_cases (w := w) (l := l) capacity with ⟨e, eq⟩
      | ⟨memory, eq, -⟩ <;> rw [eq]
  returns l := by
    rcases b.activationState_cases (w := w) (l := l) capacity with ⟨e, eq⟩ | ⟨memory, eq, -⟩ <;>
      rw [eq] <;> nofun
  preflight l := by
    have kept : Keeps (· = l) (mapErr mapBackendError b.preflightCommit) :=
      keeps_mapErr b.keeps_preflightCommit mapBackendError
    apply kept l rfl

/-- A candidate that was looked at awaits the verdict. -/
theorem awaits_of_selected (selected : (b.component w).Selected verdict l)
    (shared : l'.shared = l.shared)
    (memory : l'.memory = ((b.component w).activationState l).2.memory) :
  b.Awaits verdict w.env.readBank l'
  := by
  obtain ⟨_, _, read, admitted⟩ := selected
  rcases b.activationState_cases (w := w) (l := l) capacity with ⟨e, eq⟩ | ⟨memory', eq, _⟩
  · cases read.symm.trans eq
  · cases read.symm.trans eq
    rw [eq] at memory
    obtain rfl : l' = { l with memory := memory' } := by
      obtain ⟨_, _⟩ := l'
      cases shared
      cases memory
      rfl
    obtain ⟨banked, activated, supported, inTrial⟩ := b.admits_iff.mp admitted
    obtain ⟨uploaded, transfer⟩ := b.stateOf_eq_activated.mp activated
    refine ⟨banked, supported, uploaded, inTrial, ?_⟩
    rcases transfer with transfer | ⟨transfer, flashed, -, reset⟩
    · left
      apply transfer
    · right
      exact ⟨transfer, flashed, reset⟩

end

/-- Looking again at a component that awaits the verdict finds it as a candidate. -/
theorem Awaits.selected (awaits : b.Awaits verdict w.env.readBank l) :
  (b.component w).Selected verdict l
  := by
  have unverified : l.memory.flashTransfer ≠ some .verifying := by
    rcases awaits.transfer with transfer | ⟨transfer, -⟩ <;> rw [transfer] <;> nofun
  have verified : b.verify w l = (.ok (), l) := by
    rw [verify, run_get_bind, run_ite, if_neg fun h => unverified h.1]
    rfl
  have activated : b.stateOf w l = .activated := by
    rw [b.stateOf_eq_activated]
    use awaits.uploaded
    rcases awaits.transfer with transfer | ⟨transfer, flashed, reset⟩
    · left
      apply transfer
    · right
      exact ⟨transfer, flashed, awaits.inTrial, reset⟩
  have state := b.activationState_of_verify verified
  rw [activated] at state
  refine ⟨.activated, l, state, ?_⟩
  apply b.admits_iff.mpr
  exact ⟨awaits.banked, rfl, awaits.supported, awaits.inTrial⟩

/-- What boots, what is committed and what was ever flashed decides, with the memory. -/
theorem Awaits.congr (awaits : b.Awaits verdict readBank l)
    (wired : b.provider.selector = true) (memory : l'.memory = l.memory)
    (current : l'.shared.running.manager.current = l.shared.running.manager.current)
    (committed : l'.shared.running.manager.committed = l.shared.running.manager.committed)
    (metas : ∀ bank, (l'.shared.nv.readFwMeta b.provider.bankSet bank).isSome =
      (l.shared.nv.readFwMeta b.provider.bankSet bank).isSome) :
  b.Awaits verdict readBank l'
  := by
  have banks : b.provider.banks l'.shared readBank = b.provider.banks l.shared readBank := by
    simp only [IvdBankProvider.banks, IvdBankProvider.inTrial, IvdBankProvider.activeBank,
      IvdBankProvider.selectedBank, SystemBankManager.componentInTrial,
      SystemBankManager.activeBank, wired, if_true, current, committed]
  have flashed : isFlashed l'.shared.nv b.provider.bankSet l'.memory.runningBank =
      isFlashed l.shared.nv b.provider.bankSet l.memory.runningBank := by
    rw [isFlashed, isFlashed, memory, metas, metas]
  constructor
  · apply awaits.banked
  · apply awaits.supported
  · rw [memory]
    apply awaits.uploaded
  · rw [banks]
    apply awaits.inTrial
  · rw [flashed, memory, banks]
    apply awaits.transfer

end ComponentBackend

/-! ### Applications that await the verdict -/

namespace AppComponent

variable (a : AppComponent)

/-- An application is a candidate. -/
structure Awaits (l : Local σ) : Prop where
  flashed : isFlashed l.shared.nv a.slot l.memory.runningBank = true
  trial : ∃ bs, (l.shared.nv.slot a.slot).boot = some bs ∧ bs.committed = false

theorem committed_of_capacity (capacity : a.slot.asIndex < MAX_SLOTS) (nv : NvStore) :
  ∃ committed, a.committed nv = some committed
  := by
  rw [committed]
  cases nv.readBootState with
  | none => exact ⟨true, rfl⟩
  | some => simp [NvBootState.bank?, capacity]

theorem activationState_eq {committed : Bool} (read : a.committed l.shared.nv = some committed) :
  a.activationState l =
    (.ok (some (if !isFlashed l.shared.nv a.slot l.memory.runningBank then .initial
    else if committed then .committed else .activated)), l)
  := by
  rw [activationState, run_get_bind, read, run_orStop_some_bind]
  cases isFlashed l.shared.nv a.slot l.memory.runningBank <;> cases committed <;> rfl

theorem lawful (capacity : a.slot.asIndex < MAX_SLOTS) (w : World σ) :
  (a.component w).Lawful
  where
  activation l := by
    obtain ⟨_, read⟩ := a.committed_of_capacity capacity l.shared.nv
    rw [component]
    dsimp only
    rw [a.activationState_eq read]
  returns l := by
    obtain ⟨_, read⟩ := a.committed_of_capacity capacity l.shared.nv
    rw [component]
    dsimp only
    rw [a.activationState_eq read]
    nofun
  preflight l := a.keeps_preflightCommit (P := (· = l)) l rfl

theorem admits_iff {state : FlashState} :
  admits verdict (a.component w) state l = true ↔ state = .activated
  := by
  rw [admits, component]
  cases verdict <;> simp

/-- The candidates are the applications on trial that were flashed once. -/
theorem selected_iff (capacity : a.slot.asIndex < MAX_SLOTS) :
  (a.component w).Selected verdict l ↔ a.Awaits l
  := by
  obtain ⟨committed, read⟩ := a.committed_of_capacity capacity l.shared.nv
  have eq := a.activationState_eq read
  constructor
  · rintro ⟨state, l', call, admitted⟩
    cases call.symm.trans eq
    have activated := a.admits_iff.mp admitted
    cases flashed : isFlashed l.shared.nv a.slot l.memory.runningBank with
    | false =>
      rw [flashed] at activated
      cases activated
    | true =>
      rw [flashed] at activated
      cases committed with
      | true => cases activated
      | false => exact ⟨flashed, a.committed_eq_false.mp read⟩
  · intro awaits
    cases read.symm.trans (a.committed_eq_false.mpr awaits.trial)
    rw [awaits.flashed] at eq
    exact ⟨.activated, l, eq, a.admits_iff.mpr rfl⟩

/-- The boot entry and what was ever flashed decides. -/
theorem Awaits.congr (awaits : a.Awaits l) (memory : l'.memory = l.memory)
    (boot : (l'.shared.nv.slot a.slot).boot = (l.shared.nv.slot a.slot).boot)
    (metas : ∀ bank, (l'.shared.nv.readFwMeta a.slot bank).isSome =
      (l.shared.nv.readFwMeta a.slot bank).isSome) :
  a.Awaits l'
  := by
  constructor
  · rw [isFlashed, memory, metas, metas]
    apply awaits.flashed
  · rw [boot]
    apply awaits.trial

end AppComponent

/-! ### All components -/

namespace Member

/-- The component is a candidate, and nothing is left to verify. -/
def Awaits (verdict : Verdict) (readBank : Bank → BankContents) (l : Local σ) : Member → Prop
  | backend b => b.Awaits verdict readBank l
  | app a => a.Awaits l
  | bare _ _ => False

/-- What a call of a component that ends its trial does to the other components, and to itself. -/
structure Ends (m : Member) (l l' : Local σ) (ok : Prop) : Prop where
  vector : EndsTrial l.shared.running.manager l'.shared.running.manager
  metas : ∀ set bank, (l'.shared.nv.readFwMeta set bank).isSome =
    (l.shared.nv.readFwMeta set bank).isSome
  others : ∀ set, m.slot ≠ some set → (l'.shared.nv.slot set).boot = (l.shared.nv.slot set).boot
  settled : ∀ set, Settled l.shared.nv set → Settled l'.shared.nv set
  memory : ¬ok → l'.memory = l.memory
  boot : ¬ok → m.usesVector = false →
    ∀ set, m.slot = some set → (l'.shared.nv.slot set).boot = (l.shared.nv.slot set).boot
  done : ok → ∀ set, m.slot = some set → Settled l'.shared.nv set

theorem Ends.of_locallyEnds {set : BankSet} (slot : m.slot = some set) {ok : Prop}
    (ends : LocallyEnds set l l' ok)
    (boot : ¬ok → m.usesVector = false → (l'.shared.nv.slot set).boot =
      (l.shared.nv.slot set).boot) :
  m.Ends l l' ok
  where
  vector := ends.shared.vector
  metas := ends.shared.nv.metas
  others set' other := by
    apply ends.shared.nv.others
    rintro rfl
    apply other slot
  settled _ := ends.shared.nv.settled
  memory := ends.memory
  boot failed off set' slot' := by
    cases slot.symm.trans slot'
    apply boot failed off
  done ok set' slot' := by
    cases slot.symm.trans slot'
    apply ends.shared.settled ok

section

variable (wired : ∀ b, m = .backend b → b.provider.selector = true)
include wired

/-- The call of the verdict, for any component. -/
theorem resolve_ends (links : w.linkError = none) {answer : Ending MachineError Unit}
    (call : (m.component w).resolve verdict l = (answer, l')) :
  m.Ends l l' (answer = .ok ())
  := by
  cases m with
  | backend b =>
    have lifted {c : Call (Local σ) BackendError Unit}
        (ends : Yields c l fun res l' => LocallyEnds b.provider.bankSet l l' (res = .ok ())) :
        Yields (mapErr mapBackendError c) l fun res l' =>
          (backend b).Ends l l' (res = .ok ()) := by
      refine yields_mapErr (ends.mono fun res l' ends => ?_)
      have same : res.mapErr mapBackendError = .ok () ↔ res = .ok () := by
        cases res <;> simp [Ending.mapErr]
      rw [same]
      apply Ends.of_locallyEnds rfl ends
      rintro - ⟨⟩
    cases verdict with
    | commit => exact (lifted (b.commitFlash_ends (wired b rfl))).of_run call
    | rollback => exact (lifted (b.rollbackFlash_ends (wired b rfl))).of_run call
  | app a =>
    have ends : a.AppEnds l l' (answer = .ok ()) := by
      cases verdict with
      | commit => exact a.commitInstall_ends.of_run call
      | rollback => exact (a.rollbackInstall_ends links).of_run call
    apply Ends.of_locallyEnds rfl ends.ends fun failed _ => ends.boot failed
  | bare =>
    cases verdict <;> cases call <;>
      exact ⟨.inl ⟨rfl, rfl⟩, fun _ _ => rfl, fun _ _ => rfl, fun _ h => h, fun _ => rfl,
        fun _ _ _ _ => rfl, nofun⟩

/-- What decides whether a component awaits the verdict. -/
theorem Awaits.congr {readBank : Bank → BankContents}
    (awaits : m.Awaits verdict readBank l) (memory : l'.memory = l.memory)
    (vector : m.usesVector = true →
      l'.shared.running.manager.current = l.shared.running.manager.current ∧
      l'.shared.running.manager.committed = l.shared.running.manager.committed)
    (metas : ∀ set bank, (l'.shared.nv.readFwMeta set bank).isSome =
      (l.shared.nv.readFwMeta set bank).isSome)
    (boot : m.usesVector = false →
      ∀ set, m.slot = some set → (l'.shared.nv.slot set).boot = (l.shared.nv.slot set).boot) :
  m.Awaits verdict readBank l'
  := by
  cases m with
  | backend b =>
    apply ComponentBackend.Awaits.congr b awaits (wired b rfl) memory (vector rfl).1 (vector rfl).2
    apply metas
  | app a =>
    apply AppComponent.Awaits.congr a awaits memory (boot rfl a.slot rfl)
    apply metas
  | bare => apply awaits

end

section

variable (capacity : ∀ set, m.slot = some set → set.asIndex < MAX_SLOTS)
include capacity

theorem lawful (w : World σ) :
  (m.component w).Lawful
  := by
  cases m with
  | backend b => apply b.lawful (capacity _ rfl)
  | app a => apply a.lawful (capacity _ rfl)
  | bare id flash =>
    refine ⟨fun _ => rfl, fun _ => nofun, fun l => ?_⟩
    have kept : Keeps (· = l) (Component.bare (σ := σ) id flash).preflightCommit :=
      keeps_ite (keeps_fail _) (keeps_pure _)
    apply kept l rfl

theorem awaits_of_selected (selected : (m.component w).Selected verdict l)
    (shared : l'.shared = l.shared)
    (memory : l'.memory = ((m.component w).activationState l).2.memory) :
  m.Awaits verdict w.env.readBank l'
  := by
  cases m with
  | backend b => apply b.awaits_of_selected (capacity _ rfl) selected shared memory
  | app a =>
    have awaits := (a.selected_iff (capacity _ rfl)).mp selected
    obtain ⟨_, read⟩ := a.committed_of_capacity (capacity _ rfl) l.shared.nv
    have same : l' = l := by
      have eq : ((app a).component w).activationState l = a.activationState l := rfl
      rw [eq, a.activationState_eq read] at memory
      obtain ⟨_, _⟩ := l'
      cases shared
      cases memory
      rfl
    rw [same]
    apply awaits
  | bare =>
    obtain ⟨_, _, read, -⟩ := selected
    cases read

theorem Awaits.selected (awaits : m.Awaits verdict w.env.readBank l) :
  (m.component w).Selected verdict l
  := by
  cases m with
  | backend b => apply ComponentBackend.Awaits.selected b awaits
  | app a => apply (a.selected_iff (capacity _ rfl)).mpr awaits
  | bare => apply False.elim awaits

end

end Member

/-! ### Verdicts -/

namespace Registry

variable (registry : Registry)

theorem components_lawful (worlds : String → World σ) :
  ∀ c ∈ registry.components worlds, c.Lawful
  := by
  intro c hc
  obtain ⟨m, hm, rfl⟩ := List.mem_map.mp hc
  apply Member.lawful (registry.capacity m hm)

variable (worlds : String → World σ)
  {x y : NodeState σ} {out : VerdictOutcome}

/-- The component awaits the verdict, or it uses the boot vector and that is not on trial. -/
def Kept (verdict : Verdict) (c : Component σ) (x : NodeState σ) : Prop :=
  ∀ m ∈ registry.members, m.id = c.id →
    (m.usesVector = true → x.shared.running.manager.isTrial = true) →
    m.Awaits verdict (worlds m.id).env.readBank (x.localOf m.id)

def Done (c : Component σ) (x : NodeState σ) : Prop :=
  ∀ m ∈ registry.members, m.id = c.id → ∀ set, m.slot = some set → Settled x.shared.nv set

variable {registry worlds} {m' : Member}

theorem member_of_id (hm : m ∈ registry.members) (hm' : m' ∈ registry.members)
    (same : m.id = m'.id) :
  m = m'
  := List.inj_on_of_nodup_map registry.ids hm hm' same

theorem mem_components {c : Component σ} (hc : c ∈ registry.components worlds) :
  ∃ m ∈ registry.members, m.component (worlds m.id) = c
  := List.mem_map.mp hc

theorem component_mem (hm : m ∈ registry.members) :
  m.component (worlds m.id) ∈ registry.components worlds
  := List.mem_map_of_mem hm

theorem wired_of_mem (hm : m ∈ registry.members) :
  ∀ b, m = .backend b → b.provider.selector = true
  := by
  rintro b rfl
  apply registry.wired b hm

/-- A call that does not end the trial of the boot vector, does not touch the memory of a component
and changes the boot entry of none but other components leaves the component waiting. -/
theorem awaits_of_ends (hm' : m' ∈ registry.members) {ok : Prop} {memory memory' : Memory}
    (ends : m.Ends l l' ok) (same : memory' = memory)
    (boot : m'.usesVector = false → ∀ set, m'.slot = some set →
      (l'.shared.nv.slot set).boot = (l.shared.nv.slot set).boot)
    (kept : (m'.usesVector = true → l.shared.running.manager.isTrial = true) →
      m'.Awaits verdict readBank ⟨l.shared, memory⟩)
    (trial : m'.usesVector = true → l'.shared.running.manager.isTrial = true) :
  m'.Awaits verdict readBank ⟨l'.shared, memory'⟩
  := by
  have vector : m'.usesVector = true →
      l'.shared.running.manager.current = l.shared.running.manager.current ∧
      l'.shared.running.manager.committed = l.shared.running.manager.committed := by
    intro uses
    rcases ends.vector with unchanged | ended
    · apply unchanged
    · rw [trial uses] at ended
      cases ended
  refine Member.Awaits.congr (wired_of_mem hm') (kept fun uses => ?_) same vector ends.metas boot
  obtain ⟨current, committed⟩ := vector uses
  rw [SystemBankManager.isTrial, ← current, ← committed]
  apply trial uses

theorem resolvable (links : ∀ id, (worlds id).linkError = none) :
  Resolvable verdict (registry.components worlds) (registry.Kept worlds verdict) registry.Done
  where
  own c hc {x answer l} kept call _ := by
    obtain ⟨m, hm, rfl⟩ := mem_components hc
    rw [m.component_id] at call ⊢
    have ends := Member.resolve_ends (wired_of_mem hm) (links m.id) call
    constructor
    · intro ok m' hm' same set slot
      rw [m.component_id] at same
      cases member_of_id hm' hm same
      apply ends.done ok set slot
    · intro failed m' hm' same trial
      rw [m.component_id] at same
      cases member_of_id hm' hm same
      rw [NodeState.localOf_setLocal]
      apply awaits_of_ends hm ends (ends.memory failed) (ends.boot failed) _ trial
      apply kept m hm (m.component_id _).symm
  kept c hc d hd other {x answer l} call _ kept := by
    obtain ⟨m, hm, rfl⟩ := mem_components hc
    rw [m.component_id] at call other ⊢
    have ends := Member.resolve_ends (wired_of_mem hm) (links m.id) call
    intro m' hm' same trial
    rw [← same] at other
    apply awaits_of_ends hm' ends (if_neg other) _ (kept m' hm' same) trial
    intro _ set slot
    apply ends.others
    intro slot'
    apply registry.slot_ne hm hm' (Ne.symm other) slot' slot rfl
  done c hc d hd other {x answer l} call _ done := by
    obtain ⟨m, hm, rfl⟩ := mem_components hc
    rw [m.component_id] at call ⊢
    have ends := Member.resolve_ends (wired_of_mem hm) (links m.id) call
    intro m' hm' same set slot
    apply ends.settled
    apply done m' hm' same set slot

/-- What a verdict leaves, for every component of the registry. -/
theorem runVerdict_leaves (links : ∀ id, (worlds id).linkError = none)
    (run : runVerdict verdict (registry.components worlds) x = (.ok out, y))
    (hm : m ∈ registry.members) :
  (out.Lists m.id → (m.usesVector = true → y.shared.running.manager.isTrial = true) →
      m.Awaits verdict (worlds m.id).env.readBank (y.localOf m.id) ∨
      (m.component (worlds m.id)).Unreadable (x.localOf m.id)) ∧
  (out.errors = [] → (m.component (worlds m.id)).Selected verdict (x.localOf m.id) →
    ∀ set, m.slot = some set → Settled y.shared.nv set)
  := by
  have ready : ∀ c ∈ registry.components worlds, ∀ y : NodeState σ,
      c.Selected verdict (x.localOf c.id) → y.shared = x.shared →
      y.memory c.id = (c.activationState (x.localOf c.id)).2.memory →
      registry.Kept worlds verdict c y := by
    intro c hc y selected shared memory m' hm' same _
    obtain ⟨m, hm, rfl⟩ := mem_components hc
    rw [m.component_id] at same selected memory
    cases member_of_id hm' hm same
    apply Member.awaits_of_selected (registry.capacity _ hm) selected shared memory
  have spec := runVerdict_spec (registry.components_lawful worlds)
    (registry.components_ids worlds) ready (resolvable links) run
  have mem : m.component (worlds m.id) ∈ registry.components worlds := component_mem hm
  have id := m.component_id (worlds m.id)
  constructor
  · intro listed trial
    rcases spec.1 _ mem (id.symm ▸ listed) with ⟨-, kept⟩ | unreadable
    · left
      apply kept m hm id.symm trial
    · right
      rw [id] at unreadable
      apply unreadable
  · intro none selected
    apply spec.2 none _ mem (id.symm ▸ selected) m hm id.symm

/-- A component that awaits the verdict is among the candidates of one. -/
theorem candidate_of_awaits (hm : m ∈ registry.members)
    (awaits : m.Awaits verdict (worlds m.id).env.readBank (x.localOf m.id)) :
  ∃ s y, (registry.components worlds).foldlM (select verdict) {} x = (.ok s, y) ∧
    m.component (worlds m.id) ∈ s.candidates
  := by
  obtain ⟨s, y, looked⟩ := select_returns verdict (registry.components_lawful worlds) x
  have collected := collected_of_select (registry.components_lawful worlds)
    (registry.components_ids worlds) looked
  refine ⟨s, y, looked, (collected.candidates _).mpr ⟨component_mem hm, ?_⟩⟩
  rw [m.component_id]
  apply Member.Awaits.selected (registry.capacity m hm) awaits

end Registry

/-- A verdict without errors leaves no candidate on trial. A component with an error is a candidate
of the same verdict if that is repeated while the boot vector is still on trial, whatever fails
then; the repeated verdict ends its trial if it has no errors. -/
theorem verdict_completes_and_repeats {σ : Type} {registry : Registry} {worlds : String → World σ}
    (links : ∀ id, (worlds id).linkError = none) {verdict : Verdict} {x y : NodeState σ}
    {out : VerdictOutcome} (run : runVerdict verdict (registry.components worlds) x =
      (.ok out, y)) :
  (out.errors = [] → ∀ m ∈ registry.members,
    (m.component (worlds m.id)).Selected verdict (x.localOf m.id) →
    ∀ set, m.slot = some set → Settled y.shared.nv set) ∧
  ∀ m ∈ registry.members, out.Lists m.id →
    ¬(m.component (worlds m.id)).Unreadable (x.localOf m.id) →
    (m.usesVector = true → y.shared.running.manager.isTrial = true) →
    ∀ worlds' : String → World σ, (∀ id, (worlds' id).env.readBank = (worlds id).env.readBank) →
      (∃ s z, (registry.components worlds').foldlM (select verdict) {} y = (.ok s, z) ∧
        m.component (worlds' m.id) ∈ s.candidates) ∧
      ∀ out' z, (∀ id, (worlds' id).linkError = none) →
        runVerdict verdict (registry.components worlds') y = (.ok out', z) → out'.errors = [] →
        ∀ set, m.slot = some set → Settled z.shared.nv set
  := by
  constructor
  · intro none m hm
    apply (Registry.runVerdict_leaves links run hm).2 none
  · intro m hm listed readable trial worlds' manifests
    have awaits : m.Awaits verdict (worlds' m.id).env.readBank (y.localOf m.id) := by
      rw [manifests]
      apply ((Registry.runVerdict_leaves links run hm).1 listed trial).resolve_right readable
    use Registry.candidate_of_awaits hm awaits
    intro out' z links' run' none
    apply (Registry.runVerdict_leaves links' run' hm).2 none
    apply Member.Awaits.selected (registry.capacity m hm) awaits

/-! ### Two machines, one verdict -/

namespace TwoMachines

def node : Registry where
  members := [.backend { provider := vm1 }, .backend { provider := vm2 }]
  ids := by decide
  slots := by decide
  capacity := by decide
  wired := by
    intro b hb
    simp only [List.mem_cons, Member.backend.injEq, List.not_mem_nil, or_false] at hb
    rcases hb with rfl | rfl <;> rfl

/-- The slots of both machines boot from bank B, which is not committed. -/
def onTrial : NvStore where
  deviceSize := BANKSET_BASE + 3 * BANKSET_STRIDE
  bootState :=
    some ((NvBootState.setBank {} ⟨1⟩ { activeBank := .B, committed := false }).setBank ⟨2⟩
    { activeBank := .B, committed := false })

def trialVector : BootVector where
  generation := 2
  entries := ((∅ : Entries).insert "vm1" { bank := .B }).insert "vm2" { bank := .B }

/-- Both machines are on trial, as far as their memories tell in the state. -/
def trial (state : FlashState) : NodeState Store where
  shared := {
    nv := onTrial
    running := {
      store := { primary := some trialVector, secondary := some vector }
      manager := {
        current := trialVector.entries
        generation := 2
        committed := vector.entries
        committedGeneration := 1
        transaction := none } } }
  memory _ := { flashTransfer := some state, runningBank := .B }

/-- The writes of the boot state fail for the machines with one of the ids. -/
def failingNv (ids : List String) (id : String) : World Store where
  env := { working with nvFaults := fun kind => kind = .bootState ∧ id ∈ ids }

def commitBoth (ids : List String) : Call (NodeState Store) Empty VerdictOutcome :=
  runVerdict .commit (node.components (failingNv ids))

/-- The slot of the second machine stands on bank B, and is not committed. -/
theorem unsettled {nv : NvStore}
    (boot : (nv.slot vm2.bankSet).boot = some { activeBank := .B, committed := false }) :
  ¬Settled nv vm2.bankSet
  := by
  intro settled
  cases settled _ boot

end TwoMachines

open TwoMachines in
/-- A machine that awaits its reboot stays on trial, without an error. A machine whose boot state
cannot be written once the boot vector was committed for the other is named in the errors, but the
repeated verdict has no errors and leaves it on trial. -/
theorem verdict_leaves_trial :
  (∃ out y, commitBoth [] (trial .awaitingReboot) = (.ok out, y) ∧ out.errors = [] ∧
    ¬Settled (trial .awaitingReboot).shared.nv vm2.bankSet ∧ ¬Settled y.shared.nv vm2.bankSet) ∧
  ∃ out y out' z, commitBoth ["vm2"] (trial .activated) = (.ok out, y) ∧
    out.Lists vm2.componentId ∧ commitBoth [] y = (.ok out', z) ∧ out'.errors = [] ∧
    out'.skipped = ["vm1", "vm2"] ∧ ¬Settled z.shared.nv vm2.bankSet
  := by
  have before : (onTrial.slot vm2.bankSet).boot = some
    { activeBank := .B, committed := false } := by
    decide +kernel
  constructor
  · have ran : (commitBoth [] (trial .awaitingReboot)).1 = .ok { skipped := ["vm1", "vm2"] } := by
      decide +kernel
    have after : ((commitBoth [] (trial .awaitingReboot)).2.shared.nv.slot vm2.bankSet).boot =
        some { activeBank := .B, committed := false } := by
      decide +kernel
    exact ⟨_, _, Prod.ext ran rfl, rfl, unsettled before, unsettled after⟩
  · have ran : (commitBoth ["vm2"] (trial .activated)).1 = .ok {
        acted := ["vm1"]
        errors := [{
          id := "vm2"
          message := "internal error: bank operation failed: NV error: I/O error: " }]
        allErrorsBusy := false } := by
      decide +kernel
    have repeated : (commitBoth [] (commitBoth ["vm2"] (trial .activated)).2).1 =
        .ok { skipped := ["vm1", "vm2"] } := by
      decide +kernel
    have after : ((commitBoth [] (commitBoth ["vm2"] (trial .activated)).2).2.shared.nv.slot
        vm2.bankSet).boot = some { activeBank := .B, committed := false } := by
      decide +kernel
    exact ⟨_, _, _, _, Prod.ext ran rfl, ⟨_, List.mem_singleton_self _, rfl⟩, Prod.ext repeated rfl,
      rfl, rfl, unsettled after⟩

open TwoMachines in
/-- Neither boot state can be written, so that the boot vector stays on trial; the repeated verdict
ends both trials. -/
theorem verdict_repeats_once_faults_clear :
  ∃ out y out' z, commitBoth ["vm1", "vm2"] (trial .activated) = (.ok out, y) ∧
    out.Lists vm1.componentId ∧ out.Lists vm2.componentId ∧
    commitBoth [] y = (.ok out', z) ∧ out'.acted = ["vm1", "vm2"] ∧
    Settled z.shared.nv vm1.bankSet ∧ Settled z.shared.nv vm2.bankSet
  := by
  have ran : (commitBoth ["vm1", "vm2"] (trial .activated)).1 = .ok {
      errors := ["vm1", "vm2"].map fun id => {
        id
        message := "internal error: bank operation failed: NV error: I/O error: " }
      allErrorsBusy := false } := by
    decide +kernel
  have inTrial : (commitBoth ["vm1", "vm2"] (trial .activated)).2.shared.running.manager.isTrial =
    true := by
    decide +kernel
  have repeated : (commitBoth [] (commitBoth ["vm1", "vm2"] (trial .activated)).2).1 =
      .ok { acted := ["vm1", "vm2"] } := by
    decide +kernel
  have settled : ∀ p ∈ [vm1, vm2], Settled
      (commitBoth [] (commitBoth ["vm1", "vm2"] (trial .activated)).2).2.shared.nv p.bankSet := by
    intro p hp
    have mem : .backend { provider := p } ∈ node.members :=
      List.mem_map_of_mem (f := fun p => Member.backend { provider := p }) hp
    have listed : p.componentId ∈ ["vm1", "vm2"] := List.mem_map_of_mem (f := (·.componentId)) hp
    have spec := (verdict_completes_and_repeats (fun _ => rfl) (Prod.ext ran rfl)).2
      (.backend { provider := p }) mem ⟨_, List.mem_map_of_mem listed, rfl⟩ (by
        rintro ⟨e, l, call⟩
        cases call) (fun _ => inTrial) (failingNv []) fun _ => rfl
    apply spec.2 _ _ (fun _ => rfl) (Prod.ext repeated rfl) rfl _ rfl
  exact ⟨_, _, _, _, Prod.ext ran rfl, ⟨_, .head _, rfl⟩, ⟨_, .tail _ (.head _), rfl⟩,
    Prod.ext repeated rfl, rfl, settled vm1 (.head _), settled vm2 (.tail _ (.head _))⟩

end ComponentMgr
