import MachineManager.Vhsm.Serve

/-!
# What failed requests and closes leave behind

KEY_GENERATE allocates a handle before the provider is asked to make the key, and the handle stays
in the table when the provider fails. A failed request leaves the table as it was if, and only if,
it was turned away before that (`failed_generate_leaves_nothing`). Handles are taken away by closes
only, and only those of the identity whose connection closes (`handle_resolves_until_close`).
-/

open Asking

namespace Vhsm

open HandleTable List

section Failed

variable (iam : IamPolicy) (answers : (c : CryptoCall) → c.Answer) (req : Request)
    (caller : CallerId)
  (table : HandleTable)

/-- The response to a request, and the table afterwards. -/
def respond : Response × HandleTable :=
  let outcome := Asking.run (answering answers) (handleRequest req caller table iam) ()
  (outcome.result.1, outcome.result.2.2)

/-- A KEY_GENERATE is turned away before a handle is allocated: the policy denies it, it is too
short, or the table is full. -/
def TurnedAway : Prop :=
  authorise req .keyGenerate caller table iam = .deny ∨ req.payload.length < 44 ∨
    maxHandles ≤ table.entries.length

/-- Requests of one caller that were turned away, and closes of its connections. -/
def FailedRun : HandleTable → Prop :=
  Reachable (· = table) fun t t' =>
    (∃ answers req, req.Generates ∧ TurnedAway iam req caller t ∧
      t' = (respond iam answers req caller t).2) ∨
    t' = t.removeByVmId caller.vmId

variable {iam answers req caller table}

section

variable (generates : req.Generates)
include generates

/-- KEY_GENERATE in short. -/
theorem respond_generates :
  respond iam answers req caller table =
    if authorise req .keyGenerate caller table iam = .deny then (.err req .policyReject, table)
    else if req.payload.length < 44 then (.err req .invalidParam, table)
    else if maxHandles ≤ table.entries.length then (.err req .noResource, table)
    else (.ofNewKey req table.nextDynamic (answers (.generateKey table.nextDynamic req.algorithm)),
      table.push (newEntry req caller table))
  := by
  have decoded : Op.fromU32 req.op = some .keyGenerate := generates
  rw [respond, handleRequest, decoded]
  simp only [Op.isHostOnly, Op.isHandshake, Bool.false_eq_true, if_false]
  split
  next denied =>
    rw [if_pos denied]
    rfl
  next passed =>
    rw [if_neg passed, run_bind, dispatch, handleKeyGenerate_eq]
    split_ifs <;> rfl

theorem respond_turnedAway (away : TurnedAway iam req caller table) :
  (respond iam answers req caller table).2 = table
  := by
  rw [respond_generates generates]
  split_ifs with denied short full
  · rfl
  · rfl
  · rfl
  · rcases away with h | h | h
    · apply absurd h denied
    · apply absurd h short
    · apply absurd h full

/-- There is no room for the handle of a request, which is otherwise in order. -/
theorem respond_noResource_iff :
  (respond iam answers req caller table).1.status = .noResource ↔
    authorise req .keyGenerate caller table iam ≠ .deny ∧ 44 ≤ req.payload.length ∧
      maxHandles ≤ table.entries.length
  := by
  rw [respond_generates generates]
  split_ifs with denied short full
  · simp [Response.err, denied]
  · simp only [Response.err, reduceCtorEq, false_iff]
    omega
  · simp only [Response.err, true_iff]
    exact ⟨denied, by omega, full⟩
  · have answered : (Response.ofNewKey req table.nextDynamic
        (answers (.generateKey table.nextDynamic req.algorithm))).status ≠ .noResource := by
      rcases answers (.generateKey table.nextDynamic req.algorithm) with (_ | _ | _) | _ <;> nofun
    simp [answered, full]

end

/-- Requests that were turned away and closes make no table fuller. -/
theorem FailedRun.length_le {table' : HandleTable} (run : FailedRun iam caller table table') :
  table'.entries.length ≤ table.entries.length
  := by
  apply run.invariant (P := fun t => t.entries.length ≤ table.entries.length)
  · rintro _ rfl
    apply Nat.le_refl
  · rintro t _ le (⟨answers, req, generates, away, rfl⟩ | rfl)
    · rw [respond_turnedAway generates away]
      apply le
    · apply Nat.le_trans (length_filter_le _ _) le

end Failed

/-- A KEY_GENERATE that is answered with an error leaves every handle as it was, for every caller,
and as much room as there was, if and only if it was turned away before a handle was allocated.
However many requests of a caller are turned away, and however often it connects again, no request
of another caller lacks the room that it had. -/
theorem failed_generate_leaves_nothing (iam : IamPolicy) (caller : CallerId) :
  (∀ answers req table, req.Generates → (respond iam answers req caller table).1.status ≠ .ok →
    (((∀ handle vmId, (respond iam answers req caller table).2.resolve handle vmId =
        table.resolve handle vmId) ∧
      maxHandles - (respond iam answers req caller table).2.entries.length =
        maxHandles - table.entries.length) ↔ TurnedAway iam req caller table)) ∧
  ∀ table table', FailedRun iam caller table table' → ∀ answers req other, req.Generates →
    (respond iam answers req other table').1.status = .noResource →
    (respond iam answers req other table).1.status = .noResource
  := by
  constructor
  · intro answers req table generates failed
    constructor
    · rintro ⟨-, room⟩
      by_contra passed
      obtain ⟨allowed, long, free⟩ := not_or.mp passed |>.imp_right not_or.mp
      rw [respond_generates generates, if_neg allowed, if_neg long, if_neg free] at room
      dsimp only at room
      rw [length_push] at room
      omega
    · intro away
      rw [respond_turnedAway generates away]
      exact ⟨fun _ _ => rfl, rfl⟩
  · intro table table' run answers req other generates lacks
    obtain ⟨allowed, long, full⟩ := (respond_noResource_iff generates).mp lacks
    exact (respond_noResource_iff generates).mpr ⟨allowed, long, Nat.le_trans full run.length_le⟩

namespace Bench

/-- The table after the guest has asked for keys in vain, and has connected anew each time. -/
def worn (n : Nat) : HandleTable :=
  (fun t => (respond openPolicy denying mintPersistent guest.callerId t).2.removeByVmId "vm2")^[n]
    .new

def tooShort : Request :=
  { mint with payload := replicate 43 1 }

/-- The full table after such a request, and after the guest has connected anew. -/
def closed : HandleTable :=
  (respond openPolicy denying tooShort guest.callerId (worn 64)).2.removeByVmId "vm2"

end Bench

open Bench in
/-- A guest asks in vain for as many persistent handles as the table has room for, on a connection
of its own each time. Another guest is then told that there is no room. -/
theorem failed_generates_fill_table :
  (respond openPolicy denying mintPersistent guest.callerId .new).1.status = .internal ∧
  (respond openPolicy granting mint ⟨"vm1"⟩ .new).1.status = .ok ∧
  (respond openPolicy granting mint ⟨"vm1"⟩ (worn 64)).1.status = .noResource
  := by decide +kernel

open Bench in
/-- A request that is too short leaves a full table as it was. Another guest for whom there is no
room afterwards had none before. -/
theorem short_generate_leaves_nothing :
  (∀ handle vmId, (respond openPolicy denying tooShort guest.callerId (worn 64)).2.resolve
      handle vmId = (worn 64).resolve handle vmId) ∧
    FailedRun openPolicy guest.callerId (worn 64) closed ∧
    (respond openPolicy granting mint ⟨"vm1"⟩ (worn 64)).1.status = .noResource
  := by
  have away : TurnedAway openPolicy tooShort guest.callerId (worn 64) := .inr (.inl (by decide))
  have run : FailedRun openPolicy guest.callerId (worn 64) closed :=
    .step (.step (.init rfl) (.inl ⟨denying, tooShort, by decide, away, rfl⟩)) (.inr rfl)
  obtain ⟨leaves, lacks⟩ := failed_generate_leaves_nothing openPolicy guest.callerId
  have same := (leaves denying tooShort (worn 64) (by decide) (by decide +kernel)).mpr away
  refine ⟨same.1, run, lacks _ _ run granting mint ⟨"vm1"⟩ (by decide) ?_⟩
  decide +kernel

/-! ### Closes -/

/-- A handle goes on to resolve to its entry, whatever is asked and whoever disconnects, until a
connection closes under the identity of its owner, and even then if it is persistent or belongs to
nobody. -/
theorem handle_resolves_until_close {σ : Type}
    (provider : Environment CryptoCall CryptoCall.Answer σ)
    (iam : IamPolicy) {d d' : Daemon σ} {handle : UInt32} {vmId : String} {e : HandleEntry}
    (found : d.table.resolve handle vmId = some e)
    (run : Reachable (· = d) (fun x y => ∃ event, DaemonStep provider iam x event y ∧ ∀ caller,
      event = .disconnect caller → caller.callerId.vmId = e.ownerVmId → e.ownerVmId = "" ∨
      e.persistent) d') :
  d'.table.resolve handle vmId = some e
  := by
  have here : d.table.get handle = some e := (resolve_eq_some found).1
  have kept : d'.table.get handle = some e := by
    apply run.invariant (P := fun x => x.table.get handle = some e)
    · rintro _ rfl
      exact here
    · rintro x _ here ⟨_, step, spared⟩
      cases step with
      | request caller req =>
        rw [HandleTable.get, Daemon.serve]
        rcases guarded_handleRequest.result provider x.hsm with same | ⟨-, _, -, added⟩
        · rw [same]
          exact here
        · rw [added, find?_append, ← HandleTable.get, here, Option.some_or]
      | disconnect caller =>
        have stays : (e.ownerVmId.isEmpty || e.ownerVmId != caller.callerId.vmId || e.persistent) =
          true := by
          have := spared caller rfl
          rw [Bool.or_eq_true, Bool.or_eq_true, String.isEmpty_iff, bne_iff_ne]
          grind
        -- the entries before `e` have other handles, and so have those of them that are left
        obtain ⟨same, before, after, split, first⟩ := find?_eq_some_iff_append.mp here
        rw [HandleTable.get, Daemon.disconnect, removeByVmId, split, filter_append,
          filter_cons, if_pos stays]
        apply find?_eq_some_iff_append.mpr
        exact ⟨same, _, _, rfl, fun a listed => first a (mem_filter.mp listed).1⟩
  rw [resolve, here] at found
  rw [resolve, kept]
  exact found

open Bench in
/-- A guest keeps its key when a peer disconnects. -/
theorem key_resolves_after_close_of_peer :
  ((idle.serve willing openPolicy guest.callerId mint).disconnect blankPeer.callerId).table.resolve
    0x100 "vm2" = some (newEntry mint guest.callerId .new)
  := by
  have found : (idle.serve willing openPolicy guest.callerId mint).table.resolve 0x100 "vm2" =
      some (newEntry mint guest.callerId .new) := by decide +kernel
  apply handle_resolves_until_close willing openPolicy found
  refine .step (.init rfl) ⟨_, .disconnect _ blankPeer, ?_⟩
  rintro _ ⟨⟩ own
  apply absurd own (by decide)

end Vhsm
