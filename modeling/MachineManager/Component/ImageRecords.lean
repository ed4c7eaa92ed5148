import MachineManager.Component.Siblings

/-!
# Image records

A component whose banks are raw partitions may keep, for each of its parts, a record of the platform
that says which bank the part is booted from. An activation and a rollback point all records at the
bank they select, one after the other, and then move the boot vector; when a step fails they return
its error and leave everything as it is.

A call keeps the records pointing at the bank that the primary copy selects exactly if it moves no
record, or all of them to the bank that is selected after it (`records_follow_vector`). Where a
later step fails, the records that were routed before stay behind (`record_left_behind`).
-/

open Function Option

namespace ComponentMgr

open Call Nv Selector SystemBank InMemory List

/-- A part of a raw-partition bank, with the number of its record if it has one. -/
structure PartitionPart where
  record : Option ℕ := none

/-- The provider of raw-partition banks, over the one that keeps their books. -/
structure PartitionBankProvider where
  inner : IvdBankProvider
  parts : List PartitionPart

/-- What the provider works on: the NV store and the boot vector, and the bank that each record
points at. -/
structure Partitioned (σ : Type) where
  shared : Shared σ
  records : ℕ → Bank

/-- Which of the calls to route a record fail in one call of the provider: those for the part at the
position. -/
abbrev RouteFaults : Type :=
  ℕ → Option BankError

def routeParts (bank : Bank) : RouteFaults → List PartitionPart → Call (ℕ → Bank) BankError Unit
  | _, [] => pure ()
  | faults, part :: parts => do
    match part.record with
    | none => pure ()
    | some r =>
      match faults 0 with
      | some e => fail e
      | none => modify fun records => Function.update records r bank
    routeParts bank (fun i => faults (i + 1)) parts

namespace PartitionBankProvider

variable {σ ε α : Type} (p : PartitionBankProvider)

def onShared (c : Call (Shared σ) ε α) : Call (Partitioned σ) ε α :=
  zoom Partitioned.shared (fun shared x => { x with shared }) c

def onRecords (c : Call (ℕ → Bank) ε α) : Call (Partitioned σ) ε α :=
  zoom Partitioned.records (fun records x => { x with records }) c

variable (κ : Signing) (env : Environment σ) (faults : RouteFaults)

def routeRecords (bank : Bank) : Call (Partitioned σ) BankError Unit :=
  onRecords (routeParts bank faults p.parts)

def activate (bank : Bank) : Call (Partitioned σ) BankError ResetKind := do
  p.routeRecords faults bank
  onShared (p.inner.activate κ env bank)

def commit : Call (Partitioned σ) BankError Unit :=
  onShared (p.inner.commit env)

def rollback : Call (Partitioned σ) BankError Unit := do
  let target ← onShared (p.inner.rollbackTarget env)
  p.routeRecords faults target
  onShared (p.inner.rollback env)

def run : ProviderOp → Call (Partitioned σ) BankError Unit
  | .activate bank => do let _ ← p.activate κ env faults bank
  | .commit => p.commit env
  | .rollback => p.rollback env faults

end PartitionBankProvider

/-! ### Routing -/

/-- The calls to route a record that are made if none of them fails: the record of each, and the
error with which it fails. -/
def routeCalls : RouteFaults → List PartitionPart → List (ℕ × Option BankError)
  | _, [] => []
  | faults, part :: parts =>
    (part.record.map fun r => (r, faults 0)).toList ++ routeCalls (fun i => faults (i + 1)) parts

/-- The records after those numbered were pointed at the bank. -/
def pointedAt (bank : Bank) (moved : List ℕ) (records : ℕ → Bank) : ℕ → Bank :=
  fun r => if r ∈ moved then bank else records r

variable (bank : Bank) {res : Ending BankError Unit}

theorem pointedAt_nil (records : ℕ → Bank) :
  pointedAt bank [] records = records
  := by
  funext r
  rw [pointedAt, if_neg not_mem_nil]

theorem pointedAt_update (r : ℕ) (moved : List ℕ) (records : ℕ → Bank) :
  pointedAt bank moved (update records r bank) = pointedAt bank (r :: moved) records
  := by
  funext i
  unfold pointedAt
  by_cases same : i = r
  · subst same
    simp
  · simp [same]

/-- Routing stops at the first call that fails, after it has moved the records before. -/
theorem routeParts_cases (faults : RouteFaults) (parts : List PartitionPart) (records : ℕ → Bank) :
  (∀ call ∈ routeCalls faults parts, call.2 = none) ∧ routeParts bank faults parts records =
      (.ok (), pointedAt bank ((routeCalls faults parts).map Prod.fst) records) ∨
  ∃ before r e after, routeCalls faults parts = before ++ (r, some e) :: after ∧
    (∀ call ∈ before, call.2 = none) ∧
    routeParts bank faults parts records = (.err e, pointedAt bank (before.map Prod.fst) records)
  := by
  induction parts generalizing faults records with
  | nil =>
    left
    use forall_mem_nil _
    rw [routeCalls, map_nil, pointedAt_nil]
    rfl
  | cons part parts ih =>
    cases record : part.record with
    | none =>
      have calls_eq : routeCalls faults (part :: parts) = routeCalls
        (fun i => faults (i + 1)) parts :=
        by simp [routeCalls, record]
      have route_eq : routeParts bank faults (part :: parts) records =
          routeParts bank (fun i => faults (i + 1)) parts records := by
        rw [routeParts, record]
      rw [calls_eq, route_eq]
      apply ih (fun i => faults (i + 1))
    | some r =>
      have calls_eq : routeCalls faults (part :: parts) =
          (r, faults 0) :: routeCalls (fun i => faults (i + 1)) parts := by
        simp [routeCalls, record]
      rw [calls_eq]
      cases fault : faults 0 with
      | some e =>
        right
        use [], r, e, routeCalls (fun i => faults (i + 1)) parts, rfl, forall_mem_nil _
        rw [map_nil, pointedAt_nil, routeParts, record, fault]
        rfl
      | none =>
        have route_eq : routeParts bank faults (part :: parts) records =
            routeParts bank (fun i => faults (i + 1)) parts (update records r bank) := by
          rw [routeParts, record, fault]
          rfl
        rw [route_eq]
        rcases ih (fun i => faults (i + 1)) (update records r bank) with
          ⟨succeed, route⟩ | ⟨before, r', e, after, split, succeed, route⟩
        · left
          rw [forall_mem_cons, map_cons, ← pointedAt_update]
          exact ⟨⟨rfl, succeed⟩, route⟩
        · right
          use (r, none) :: before, r', e, after
          rw [split, forall_mem_cons, map_cons, ← pointedAt_update]
          exact ⟨rfl, ⟨rfl, succeed⟩, route⟩

/-! ### The bank that is selected -/

section Selected

variable {σ : Type} {κ : Signing} {copies : σ → Copies} {env : Environment σ} {p : IvdBankProvider}
  {x : Shared σ}

/-- The bank that a copy of the boot vector selects for a component. -/
def bankIn (v : Option BootVector) (id : String) : Option Bank :=
  (entriesOf v)[id]?.map (·.bank)

def IvdBankProvider.entriesFor (p : IvdBankProvider) (env : Environment σ) (bank : Bank)
    (m : SystemBankManager) : Entries :=
  (m.pending.getD m.current).insert p.componentId { bank, images := (env.readBank bank).images }

def IvdBankProvider.Writes (p : IvdBankProvider) (κ : Signing) (env : Environment σ) (bank : Bank)
    (x : Shared σ) : Prop :=
  (env.store.activate (p.entriesFor env bank x.running.manager) (sealHeader κ p.nodeBootId)
    x.running.store).1.isOk

def TakesBack (env : Environment σ) (x : Shared σ) : Prop :=
  x.running.manager.isTrial ∧
    (env.store.rollback (x.running.manager.rollbackHeader .verdict) x.running.store).1.isOk

variable {y : Shared σ}

section

variable (honours : Honours copies env.store)
include honours

open IvdBankProvider

/-- An activation selects the bank if the store takes its entries, and otherwise changes nothing. -/
theorem selected_activate (wired : p.selector = true) (plain : p.bankActivator = none) {bank : Bank}
    (call : (ProviderOp.activate bank).run κ env p x = (res, y)) (returns : res ≠ .stopped) :
  p.Writes κ env bank x ∧ bankIn (copies y.running.store).primary p.componentId = some bank ∨
  ¬ p.Writes κ env bank x ∧ (copies y.running.store).primary = (copies x.running.store).primary
  := by
  have activated : p.runActivator env x = (.ok (), x) := by
    simp [runActivator, plain, run_pure]
  rcases write : env.store.activate (p.entriesFor env bank x.running.manager)
    (sealHeader κ p.nodeBootId) x.running.store with ⟨answer, t⟩
  have seals : sealPending κ env.store p.nodeBootId (p.staged env bank x.running) = _ :=
    sealPending_some rfl write
  rw [activate_eq wired activated seals, Prod.mk.injEq] at call
  obtain ⟨rfl, rfl⟩ := call
  cases answer with
  | ok =>
    left
    constructor
    · rw [IvdBankProvider.Writes, write]
      rfl
    · rw [bankIn, (honours.activate_ok write).primary]
      simp [entriesOf, entriesFor]
  | err =>
    right
    constructor
    · rw [IvdBankProvider.Writes, write]
      rintro ⟨⟩
    · exact congrArg Copies.primary (honours.activate_err write)
  | stopped => exact absurd rfl returns

/-- A commit leaves the primary copy alone. -/
theorem selected_commit (wired : p.selector = true)
    (call : ProviderOp.commit.run κ env p x = (res, y)) (returns : res ≠ .stopped) :
  (copies y.running.store).primary = (copies x.running.store).primary
  := by
  have move := ProviderOp.moves κ env x wired .commit
  rw [call] at move
  cases move with
  | uncommitted => rfl
  | commits _ _ answer _ move =>
    generalize op : SystemBank.Op.commit = op at move
    generalize answered : (answer.map fun _ => SystemBank.Answer.done) = answered at move
    cases move with
    | commits res _ write =>
      cases res with
      | ok => rw [honours.commit_ok write]
      | err => rw [honours.commit_err write]
      | stopped =>
        cases answer with
        | stopped => exact absurd rfl returns
        | _ => cases answered
    | _ => cases op

/-- The manager takes a trial back if the store does, and otherwise leaves the primary copy
alone. -/
theorem primary_of_rollback {answer : Ending SelectorError Unit} {r : Running σ}
    (call : SystemBank.rollback env.store .verdict x.running = (answer, r))
    (returns : answer ≠ .stopped) :
  TakesBack env x ∧ (copies r.store).primary = (copies x.running.store).secondary ∨
  ¬ TakesBack env x ∧ (copies r.store).primary = (copies x.running.store).primary
  := by
  cases trial : x.running.manager.isTrial with
  | false =>
    rw [rollback_settled trial, Prod.mk.injEq] at call
    obtain ⟨-, rfl⟩ := call
    right
    simp [TakesBack, trial]
  | true =>
    rcases write : env.store.rollback (x.running.manager.rollbackHeader .verdict)
      x.running.store with
      ⟨res, t⟩
    rw [rollback_trial trial write, Prod.mk.injEq] at call
    obtain ⟨rfl, rfl⟩ := call
    cases res with
    | ok =>
      left
      obtain ⟨v, committed, -, copies_eq⟩ := honours.rollback_ok write
      rw [TakesBack, write, committed, copies_eq]
      exact ⟨⟨trial, rfl⟩, rfl⟩
    | err =>
      right
      rw [TakesBack, write]
      constructor
      · rintro ⟨-, ok⟩
        cases ok
      · exact congrArg Copies.primary (honours.rollback_err write)
    | stopped => exact absurd rfl returns

/-- A rollback selects what the committed copy does if the store takes the trial back, and otherwise
changes nothing. -/
theorem selected_rollback (wired : p.selector = true) {bs : BankBootState}
    (on_trial : p.bootState x.nv = some bs) (uncommitted : bs.committed = false)
    (call : p.rollback env x = (res, y)) (returns : res ≠ .stopped) :
  TakesBack env x ∧ (copies y.running.store).primary = (copies x.running.store).secondary ∨
  ¬ TakesBack env x ∧ (copies y.running.store).primary = (copies x.running.store).primary
  := by
  rcases vector : SystemBank.rollback env.store .verdict x.running with ⟨answer, r⟩
  have vector_eq := withSelector_wired wired "boot-vector rollback failed" vector
  rcases p.rollbackTarget_cases env x with ⟨_, -, settled, -⟩ | ⟨_, -, -, target_eq⟩
  · rw [settled bs on_trial] at uncommitted
    cases uncommitted
  · rw [IvdBankProvider.rollback, run_bind_ok target_eq] at call
    cases answer with
    | ok =>
      rw [run_bind_ok vector_eq] at call
      have same : y.running = r := by
        rcases follow : Nv.rollback env.nvFaults p.bankSet x.nv with ⟨outcome, nv⟩
        have onNv_eq : onNv (Nv.rollback env.nvFaults p.bankSet) { x with running := r } =
          (outcome, (⟨nv, r⟩ : Shared σ)) := run_zoom follow
        rw [run_bind, run_mapErr onNv_eq] at call
        cases outcome <;> rw [← (Prod.mk.inj call).2]
      rw [same]
      apply primary_of_rollback honours vector (by rintro ⟨⟩)
    | err =>
      rw [run_bind_err vector_eq, Prod.mk.injEq] at call
      rw [← call.2]
      apply primary_of_rollback honours vector (by rintro ⟨⟩)
    | stopped =>
      rw [run_bind_stopped vector_eq, Prod.mk.injEq] at call
      exact absurd call.1.symm returns

end

end Selected

/-! ### Agreement -/

section Agreement

variable {σ : Type} (κ : Signing) (copies : σ → Copies) (p : PartitionBankProvider)

def PartitionBankProvider.recordNumbers : List ℕ :=
  p.parts.filterMap (·.record)

/-- The bank that the primary copy selects for the component. -/
def PartitionBankProvider.selected (x : Partitioned σ) : Option Bank :=
  bankIn (copies x.shared.running.store).primary p.inner.componentId

/-- The bank that the committed copy selects for the component. -/
def PartitionBankProvider.floor (x : Partitioned σ) : Option Bank :=
  bankIn (copies x.shared.running.store).secondary p.inner.componentId

/-- Every record points at the bank that the primary copy selects. -/
def PartitionBankProvider.Agrees (x : Partitioned σ) : Prop :=
  ∀ r ∈ p.recordNumbers, p.selected copies x = some (x.records r)

def PartitionBankProvider.FirstFails (faults : RouteFaults) : Prop :=
  ∃ call, (routeCalls faults p.parts).head? = some call ∧ call.2.isSome

def PartitionBankProvider.SomeFails (faults : RouteFaults) : Prop :=
  ∃ call ∈ routeCalls faults p.parts, call.2.isSome

/-- The bank that the primary copy selects after a rollback that reaches it. -/
def PartitionBankProvider.RollsTo (env : Environment σ) (x : Partitioned σ) (bank : Bank) : Prop :=
  TakesBack env x.shared ∧ p.floor copies x = some bank ∨
  ¬ TakesBack env x.shared ∧ p.selected copies x = some bank

/-- The condition on a call. Routing moves no record, or the bank it points them at is the one that
the primary copy selects after the call. -/
def PartitionBankProvider.Follows (env : Environment σ) (faults : RouteFaults) (x : Partitioned σ) :
    ProviderOp → Prop
  | .commit => True
  | .activate bank =>
    p.recordNumbers = [] ∨ p.FirstFails faults ∨ p.selected copies x = some bank ∨
      ¬ p.SomeFails faults ∧ p.inner.Writes κ env bank x.shared
  | .rollback => ∀ bs, p.inner.bootState x.shared.nv = some bs → bs.committed = false →
    p.recordNumbers = [] ∨ p.FirstFails faults ∨
      p.SomeFails faults ∧ p.selected copies x = some bs.activeBank.other ∨
      ¬ p.SomeFails faults ∧ p.RollsTo copies env x bs.activeBank.other

variable {κ copies p} {env : Environment σ} {faults : RouteFaults} {x y : Partitioned σ}

/-- The calls to route are those for the records of the parts. -/
theorem map_fst_routeCalls (faults : RouteFaults) (parts : List PartitionPart) :
  (routeCalls faults parts).map Prod.fst = parts.filterMap (·.record)
  := by
  induction parts generalizing faults with
  | nil => rfl
  | cons part _ ih =>
    rw [routeCalls, map_append, ih]
    cases record : part.record with
    | none => rw [filterMap_cons_none record, map_none, toList_none, map_nil, nil_append]
    | some => rw [filterMap_cons_some record, map_some, toList_some,
        map_singleton, singleton_append]

variable {bank : Bank} {records : ℕ → Bank}

open PartitionBankProvider

theorem routeRecords_eq (route : routeParts bank faults p.parts x.records = (res, records)) :
  p.routeRecords faults bank x = (res, { x with records })
  := by
  rw [routeRecords, onRecords]
  apply run_zoom route

/-- Routing all records to the bank, or only those before the first that fails. -/
theorem routeRecords_cases (p : PartitionBankProvider) (faults : RouteFaults) (x : Partitioned σ)
    (bank : Bank) :
  ¬ p.SomeFails faults ∧ ¬ p.FirstFails faults ∧ p.routeRecords faults bank x =
      (.ok (), { x with records := pointedAt bank p.recordNumbers x.records }) ∨
  p.SomeFails faults ∧ p.recordNumbers ≠ [] ∧ ∃ moved e, (moved = [] ↔ p.FirstFails faults) ∧
    (∀ r ∈ moved, r ∈ p.recordNumbers) ∧
    p.routeRecords faults bank x = (.err e, { x with records := pointedAt bank moved x.records })
  := by
  have numbers := map_fst_routeCalls faults p.parts
  rcases routeParts_cases bank faults p.parts x.records with
    ⟨succeed, route⟩ | ⟨before, r, e, after, split, succeed, route⟩
  · left
    refine ⟨?_, ?_, ?_⟩
    · rintro ⟨call, mem, fails⟩
      rw [succeed call mem] at fails
      cases fails
    · rintro ⟨call, first, fails⟩
      rw [succeed call (mem_of_mem_head? first)] at fails
      cases fails
    · rw [numbers] at route
      apply routeRecords_eq route
  · right
    refine ⟨?_, ?_, before.map Prod.fst, e, ?_, ?_, routeRecords_eq route⟩
    · use (r, some e)
      rw [split]
      simp
    · rw [recordNumbers, ← numbers, split]
      simp
    · rw [PartitionBankProvider.FirstFails, split, map_eq_nil_iff]
      cases before with
      | nil => simp
      | cons call => simp [succeed call mem_cons_self]
    · intro i mem
      rw [recordNumbers, ← numbers, split, map_append]
      apply mem_append_left _ mem

/-- After all records were pointed at a bank, they agree if there are none or the bank is
selected. -/
theorem agrees_of_all (moved : y.records = pointedAt bank p.recordNumbers records) :
  p.Agrees copies y ↔ p.recordNumbers = [] ∨ p.selected copies y = some bank
  := by
  have pointed {r : ℕ} (mem : r ∈ p.recordNumbers) : y.records r = bank := by
    rw [moved, pointedAt, if_pos mem]
  constructor
  · intro agrees
    rcases eq_nil_or_concat p.recordNumbers with none | ⟨_, r, some⟩
    · left
      exact none
    · right
      have mem : r ∈ p.recordNumbers := by
        rw [some]
        simp
      rw [agrees r mem, pointed mem]
  · rintro (none | selected)
    · intro r mem
      rw [none] at mem
      cases mem
    · intro r mem
      rw [selected, pointed mem]

/-- After some records were pointed at a bank and the selection stayed, they agree if none was moved
or the bank was selected already. -/
theorem agrees_of_some (agrees : p.Agrees copies x) {moved : List ℕ}
    (own : ∀ r ∈ moved, r ∈ p.recordNumbers) (records : y.records = pointedAt bank moved x.records)
    (stays : p.selected copies y = p.selected copies x) :
  p.Agrees copies y ↔ moved = [] ∨ p.selected copies x = some bank
  := by
  constructor
  · intro agrees'
    cases moved with
    | nil =>
      left
      rfl
    | cons r =>
      right
      rw [← stays, agrees' r (own r mem_cons_self), records, pointedAt, if_pos mem_cons_self]
  · rintro (rfl | selected)
    · rw [pointedAt_nil] at records
      intro r mem
      rw [stays, records, agrees r mem]
    · intro r mem
      rw [stays, selected, records, pointedAt]
      split
      · rfl
      · rw [← agrees r mem, selected]

theorem onShared_eq {ε α : Type} {c : Call (Shared σ) ε α} {res : Ending ε α}
    {shared z : Shared σ} (call : c shared = (res, z)) (records : ℕ → Bank) :
  PartitionBankProvider.onShared c ⟨shared, records⟩ = (res, ⟨z, records⟩)
  := by
  rw [PartitionBankProvider.onShared]
  apply run_zoom call

section

variable (honours : Honours copies env.store) (wired : p.inner.selector = true)
include honours wired

/-- An activation keeps the agreement exactly under the condition. -/
theorem activate_agrees_iff (plain : p.inner.bankActivator = none) (agrees : p.Agrees copies x)
    (call : p.run κ env faults (.activate bank) x = (res, y)) (returns : res ≠ .stopped) :
  p.Agrees copies y ↔ p.Follows κ copies env faults x (.activate bank)
  := by
  rw [PartitionBankProvider.run, activate] at call
  rcases routeRecords_cases p faults x bank with
    ⟨none_fails, not_first, route⟩ | ⟨fails, recorded, moved, e, first, own, route⟩
  · rcases activated : p.inner.activate κ env bank x.shared with ⟨answer, z⟩
    have inner : (ProviderOp.activate bank).run κ env p.inner x.shared =
      (answer.map fun _ => (), z) := by
      rw [ProviderOp.run, run_bind, activated]
      cases answer <;> rfl
    rw [run_bind, run_bind_ok route, onShared_eq activated
      (pointedAt bank p.recordNumbers x.records)] at call
    obtain ⟨rfl, rfl⟩ : res = (answer.map fun _ => ()) ∧
        y = { shared := z, records := pointedAt bank p.recordNumbers x.records } := by
      cases answer <;> cases call <;> exact ⟨rfl, rfl⟩
    rw [agrees_of_all rfl, PartitionBankProvider.Follows]
    rcases selected_activate honours wired plain inner returns with
      ⟨writes, selected⟩ | ⟨unwritten, stays⟩
    · simp [PartitionBankProvider.selected, selected, none_fails, writes]
    · simp [PartitionBankProvider.selected, stays, unwritten, not_first]
  · rw [run_bind_err (run_bind_err route _), Prod.mk.injEq] at call
    obtain ⟨-, rfl⟩ := call
    have iff := agrees_of_some (y := { x with records := pointedAt bank moved x.records }) agrees
      own rfl rfl
    rw [iff, first, PartitionBankProvider.Follows]
    simp [fails, recorded]

/-- A commit keeps the agreement. -/
theorem commit_agrees (agrees : p.Agrees copies x) (call : p.run κ env faults .commit x = (res, y))
    (returns : res ≠ .stopped) :
  p.Agrees copies y
  := by
  rcases committed : p.inner.commit env x.shared with ⟨answer, z⟩
  have inner : ProviderOp.commit.run κ env p.inner x.shared = (answer, z) := committed
  have outer : p.run κ env faults .commit x = (answer, { x with shared := z }) :=
    onShared_eq committed x.records
  rw [outer, Prod.mk.injEq] at call
  obtain ⟨rfl, rfl⟩ := call
  intro r mem
  rw [← agrees r mem, PartitionBankProvider.selected, PartitionBankProvider.selected,
    selected_commit honours wired inner returns]

/-- A rollback keeps the agreement exactly under the condition. -/
theorem rollback_agrees_iff (agrees : p.Agrees copies x)
    (call : p.run κ env faults .rollback x = (res, y)) (returns : res ≠ .stopped) :
  p.Agrees copies y ↔ p.Follows κ copies env faults x .rollback
  := by
  rw [PartitionBankProvider.run, PartitionBankProvider.rollback] at call
  rcases p.inner.rollbackTarget_cases env x.shared with
    ⟨refusal, failed, settled, target_eq⟩ | ⟨bs, on_trial, uncommitted, target_eq⟩
  · have same : y = x := by
      rw [run_bind, onShared_eq target_eq x.records] at call
      cases refusal with
      | ok b => exact absurd rfl (failed b)
      | err | stopped => exact (Prod.mk.inj call).2.symm
    subst same
    rw [iff_true_left agrees]
    intro bs on_trial uncommitted
    rw [settled bs on_trial] at uncommitted
    cases uncommitted
  · have follows : p.Follows κ copies env faults x .rollback ↔
        p.recordNumbers = [] ∨ p.FirstFails faults ∨
          p.SomeFails faults ∧ p.selected copies x = some bs.activeBank.other ∨
          ¬ p.SomeFails faults ∧ p.RollsTo copies env x bs.activeBank.other := by
      simp [PartitionBankProvider.Follows, on_trial, uncommitted]
    rw [follows]
    rw [run_bind_ok (onShared_eq target_eq x.records)] at call
    rcases routeRecords_cases p faults x bs.activeBank.other with
      ⟨none_fails, not_first, route⟩ | ⟨fails, recorded, moved, e, first, own, route⟩
    · rcases rolled : p.inner.rollback env x.shared with ⟨_, z⟩
      rw [run_bind_ok route, onShared_eq rolled, Prod.mk.injEq] at call
      obtain ⟨rfl, rfl⟩ := call
      rw [agrees_of_all rfl]
      rcases selected_rollback honours wired on_trial uncommitted rolled returns with
        ⟨restores, back⟩ | ⟨unrestored, stays⟩
      · simp [PartitionBankProvider.selected, PartitionBankProvider.RollsTo,
          PartitionBankProvider.floor, back, restores, not_first, none_fails]
      · simp [PartitionBankProvider.selected, PartitionBankProvider.RollsTo, stays, unrestored,
          not_first, none_fails]
    · rw [run_bind_err route, Prod.mk.injEq] at call
      obtain ⟨-, rfl⟩ := call
      have iff := agrees_of_some
        (y := { x with records := pointedAt bs.activeBank.other moved x.records })
          agrees own rfl rfl
      rw [iff, first]
      simp [fails, recorded]

end

/-- A call of the provider that returns, over a store that keeps its contract. -/
structure ProviderCall (κ : Signing) (copies : σ → Copies) (p : PartitionBankProvider)
    (x : Partitioned σ)
    (op : ProviderOp) (env : Environment σ) (faults : RouteFaults) (y : Partitioned σ) : Prop where
  honours : Honours copies env.store
  returns : ∃ res, res ≠ .stopped ∧ p.run κ env faults op x = (res, y)

def FollowingStep (κ : Signing) (copies : σ → Copies) (p : PartitionBankProvider)
    (x y : Partitioned σ) : Prop :=
  ∃ op env faults, ProviderCall κ copies p x op env faults y ∧ p.Follows κ copies env faults x op

/-- From agreement, a call keeps the agreement exactly under the condition. -/
theorem ProviderCall.agrees_iff (wired : p.inner.selector = true)
    (plain : p.inner.bankActivator = none) {op : ProviderOp}
    (call : ProviderCall κ copies p x op env faults y) (agrees : p.Agrees copies x) :
  p.Agrees copies y ↔ p.Follows κ copies env faults x op
  := by
  obtain ⟨honours, _, returns, run⟩ := call
  cases op with
  | activate => exact activate_agrees_iff honours wired plain agrees run returns
  | commit => exact iff_of_true (commit_agrees honours wired agrees run returns) trivial
  | rollback => exact rollback_agrees_iff honours wired agrees run returns

/-- In every run of calls that meet the condition, whatever fails in them, all records point at the
bank that the boot vector selects; and of the calls that can follow, those that meet the condition
are the ones that keep it so. -/
theorem records_follow_vector (wired : p.inner.selector = true)
    (plain : p.inner.bankActivator = none)
    (reached : Reachable (p.Agrees copies) (FollowingStep κ copies p) x) :
  p.Agrees copies x ∧ ∀ op env faults y, ProviderCall κ copies p x op env faults y →
    (p.Agrees copies y ↔ p.Follows κ copies env faults x op)
  := by
  have agrees : p.Agrees copies x := by
    apply reached.invariant
    · intro s start
      exact start
    · rintro s t agrees ⟨op, env, faults, call, follows⟩
      rw [call.agrees_iff wired plain agrees]
      exact follows
  use agrees
  intro op env faults y call
  apply call.agrees_iff wired plain agrees

end Agreement

/-! ### A component with two records -/

namespace TwoMachines

def twoParts : PartitionBankProvider where
  inner := vm1
  parts := [{ record := some 0 }, { record := some 1 }]

def routed : Partitioned Store where
  shared := start
  records := fun _ => .A

def secondRefuses : RouteFaults
  | 1 => some (.failed "record refuses this route")
  | _ => none

theorem routed_agrees :
  twoParts.Agrees copies routed
  := by
  have selected : vector.entries["vm1"]? = some { bank := .A } := by decide +kernel
  intro r mem
  exact congrArg (Option.map (·.bank)) selected

end TwoMachines

open TwoMachines in
/-- The activation of the other bank and its commit, in which nothing fails. -/
theorem records_activated :
  ∃ x : Partitioned Store, ∀ κ : Signing, ∃ y z,
    ProviderCall κ copies twoParts x (.activate .B) working (fun _ => none) y ∧
    ProviderCall κ copies twoParts y .commit working (fun _ => none) z ∧
    z.records 0 = .B ∧ z.records 1 = .B ∧ twoParts.Agrees copies z
  := by
  use routed
  intro κ
  let y := (twoParts.run κ working (fun _ => none) (.activate .B) routed).2
  have follows : twoParts.Follows κ copies working (fun _ => none) routed (.activate .B) := by
    refine .inr (.inr (.inr ⟨?_, rfl⟩))
    rintro ⟨call, mem, fails⟩
    rcases mem_cons.mp mem with rfl | mem
    · cases fails
    · rcases mem_cons.mp mem with rfl | mem
      · cases fails
      · cases mem
  have returns : (twoParts.run κ working (fun _ => none) (.activate .B) routed).1 ≠ .stopped :=
    nofun
  have returns' : (twoParts.run κ working (fun _ => none) .commit y).1 ≠ .stopped := nofun
  have activated : ProviderCall κ copies twoParts routed (.activate .B) working (fun _ => none) y :=
    ⟨honours, _, returns, rfl⟩
  have committed : ProviderCall κ copies twoParts y .commit working (fun _ => none) _ :=
    ⟨honours, _, returns', rfl⟩
  have run : Reachable (twoParts.Agrees copies) (FollowingStep κ copies twoParts) y :=
    .step (.init routed_agrees) ⟨_, _, _, activated, follows⟩
  have agrees := (records_follow_vector rfl rfl (run.step ⟨_, _, _, committed, trivial⟩)).1
  exact ⟨_, _, activated, committed, rfl, rfl, agrees⟩

open TwoMachines in
/-- The activation of bank B points the first record at it and fails at the second: the boot vector
still selects bank A, which the first record no longer points at. -/
theorem record_left_behind :
  ∃ (p : PartitionBankProvider) (x y : Partitioned Store)
    (env : Environment Store) (faults : RouteFaults),
    p.inner.selector = true ∧ p.inner.bankActivator = none ∧ p.recordNumbers = [0, 1] ∧
    p.Agrees copies x ∧ (∀ κ : Signing, ProviderCall κ copies p x (.activate .B) env faults y) ∧
    p.selected copies y = some .A ∧ y.records 0 = .B ∧ y.records 1 = .A
  := by
  have selected : vector.entries["vm1"]? = some { bank := .A } := by decide +kernel
  refine ⟨twoParts, routed, { routed with records := Function.update routed.records 0 .B }, working,
    secondRefuses, rfl, rfl, rfl, routed_agrees, ?_, ?_, rfl, rfl⟩
  · intro κ
    exact ⟨honours, .err _, nofun, rfl⟩
  · exact congrArg (Option.map (·.bank)) selected

end ComponentMgr
