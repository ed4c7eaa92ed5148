import MachineManager.Lib.Reachable
import MachineManager.Vhsm.Handler

/-!
# Isolation of keys

One daemon serves guests and peers on other nodes over one handle table. A guest's identity is the
subject of its certificate, which is never empty; a peer's is the common name of its client
certificate, which may be any text. As long as keys are generated only under nonempty identities, a
key is used for a caller only if it is the caller's own, or well known and allowed by the policy
(`handle_use_is_owned_or_allowed`). A key generated under the empty identity is everyone's
(`empty_name_mints_a_shared_handle`).
-/

open Asking

namespace Vhsm

open HandleTable

/-- The subject of a guest's certificate, which is refused with an empty one. -/
structure GuestSubject where
  name : String
  nonempty : name ≠ ""

/-- An attribute of the subject of a client certificate. -/
structure SubjectAttribute where
  oid : List Nat
  value : List UInt8

/-- The attribute type of a common name. -/
def commonName : List Nat := [2, 5, 4, 3]

/-- The node id of a peer whose certificate chain was verified: the first common name of the
subject, if it is a text. -/
def principalFromClientCert (subject : List (List SubjectAttribute)) : Option String :=
  match subject.flatten.find? (·.oid == commonName) with
  | none => none
  | some found => String.fromUTF8? ⟨found.value.toArray⟩

/-- A connection whose caller is authenticated. -/
inductive Caller
  | guest (subject : GuestSubject)
  | crossNode (subject : List (List SubjectAttribute)) (nodeId : String)
      (verified : principalFromClientCert subject = some nodeId)

/-- The identity under which the requests of the connection are served. -/
def Caller.callerId : Caller → CallerId
  | guest subject => { vmId := subject.name }
  | crossNode _ nodeId _ => { vmId := nodeId }

/-! ### Runs of the daemon -/

/-- A request that was served: for whom, over which table, what the provider was asked, and the
table afterwards. -/
structure Served where
  caller : CallerId
  req : Request
  before : HandleTable
  asked : List CryptoCall
  after : HandleTable

/-- The request generated a key under `handle`. -/
def Served.Allocated (r : Served) (handle : UInt32) : Prop :=
  Op.fromU32 r.req.op = some .keyGenerate ∧
    ∃ entry : HandleEntry, entry.handle = handle ∧ r.after.entries = r.before.entries ++ [entry]

/-- The daemon: the table, the state of the crypto provider, and the requests that were served, the
latest first. -/
structure Daemon (σ : Type) where
  table : HandleTable
  hsm : σ
  served : List Served

section Runs

variable {σ : Type} (provider : Environment CryptoCall CryptoCall.Answer σ) (iam : IamPolicy)

/-- The table when the daemon starts to serve: some well-known handles are registered. -/
inductive Registered : HandleTable → Prop
  | new : Registered .new
  | register {table : HandleTable} (handle : UInt32) (keyId : String)
      (algorithm permittedOps : UInt32) :
      Registered table → Registered (table.registerWellKnown handle keyId algorithm permittedOps)

def Daemon.Starts (d : Daemon σ) : Prop :=
  Registered d.table ∧ d.served = []

/-- The daemon after it served a request. The table is locked meanwhile. -/
def Daemon.serve (d : Daemon σ) (caller : CallerId) (req : Request) : Daemon σ :=
  let outcome := Asking.run provider (handleRequest req caller d.table iam) d.hsm
  { table := outcome.result.2.2
    hsm := outcome.env
    served :=
      { caller, req, before := d.table, asked := outcome.asked, after := outcome.result.2.2 } ::
        d.served }

/-- The daemon after a connection of the caller closed. -/
def Daemon.disconnect (d : Daemon σ) (caller : CallerId) : Daemon σ :=
  { d with table := d.table.removeByVmId caller.vmId }

/-- What happens at the daemon. -/
inductive DaemonEvent
  | request (caller : Caller) (req : Request)
  | disconnect (caller : Caller)

/-- A step of the daemon. -/
inductive DaemonStep : Daemon σ → DaemonEvent → Daemon σ → Prop
  | request (d : Daemon σ) (caller : Caller) (req : Request) :
      DaemonStep d (.request caller req) (d.serve provider iam caller.callerId req)
  | disconnect (d : Daemon σ) (caller : Caller) :
      DaemonStep d (.disconnect caller) (d.disconnect caller.callerId)

end Runs

/-- The step is not the generation of a key under the empty identity. -/
def DaemonEvent.NamedOwner : DaemonEvent → Prop
  | .request caller req =>
    Op.fromU32 req.op = some .keyGenerate → caller.callerId.vmId ≠ ""
  | .disconnect _ => True

/-- The use of a handle for a caller is lawful: the operation's permission is among those of the
handle's entry, and the handle is well known and the policy allows the caller its key, or it was
generated for the same identity before. -/
def Served.LawfulUse (iam : IamPolicy) (r : Served) (earlier : List Served) (handle : UInt32) :
    Prop :=
  ∃ op bit entry, Op.fromU32 r.req.op = some op ∧ op.requiredPerm = some bit ∧
    r.before.get handle = some entry ∧ entry.permittedOps &&& bit ≠ 0 ∧
    (handleIsWellKnown handle ∧ iam.Allows r.caller.vmId entry.keyId op ∨
      ∃ r' ∈ earlier, r'.Allocated handle ∧ r'.caller.vmId = r.caller.vmId)

/-- Every use of a handle by the requests served so far was lawful. -/
def Isolated (iam : IamPolicy) : List Served → Prop
  | [] => True
  | r :: earlier =>
    (∀ call ∈ r.asked, ∀ handle, call.uses = some handle → r.LawfulUse iam earlier handle) ∧
      Isolated iam earlier

/-! ### What a request asks of the provider -/

/-- The handle a request names, when it is long enough to name one. -/
def Request.Names (req : Request) (handle : UInt32) : Prop :=
  4 ≤ req.payload.length ∧ u32FromLeBytes req.payload 0 = handle

/-- A use of a handle by a call is covered: the operation is one on the handle that the request
names, the handle resolves for the caller, and its entry has the permission of the operation. -/
def Covered (req : Request) (op : Op) (caller : CallerId) (table : HandleTable)
    (call : CryptoCall) : Prop :=
  ∀ handle, call.uses = some handle → op ≠ .keyGenerate ∧ req.Names handle ∧
    ∃ entry bit, table.resolve handle caller.vmId = some entry ∧ op.requiredPerm = some bit ∧
      entry.permittedOps &&& bit ≠ 0

variable {caller : CallerId} {iam : IamPolicy}

section Handlers

variable {req : Request} {op : Op} {table : HandleTable} {P : CryptoCall → Prop}

/-- Random bytes use no handle. -/
theorem guarded_handleGetRandom :
  Guarded (Covered req op caller table) (fun _ => True) (handleGetRandom req)
  := by
  unfold handleGetRandom
  split
  · apply guarded_pure trivial
  · dsimp only
    split
    · apply guarded_pure trivial
    · apply guarded_question
      · intro handle uses
        cases uses
      · intro answer
        cases answer with
        | ok | error => apply guarded_pure trivial

/-- The rule for a handler that resolves its handle first. -/
theorem guarded_withHandle {minLen : Nat} {serve : UInt32 → HandleEntry → Crypto Response}
    (long : 4 ≤ minLen)
    (serves : ∀ handle entry, req.Names handle →
      table.resolve handle caller.vmId = some entry →
      Guarded P (fun _ => True) (serve handle entry)) :
  Guarded P (fun _ => True) (withHandle minLen req caller table serve)
  := by
  unfold withHandle
  split
  · apply guarded_pure trivial
  next =>
    dsimp only
    split
    · apply guarded_pure trivial
    next entry found =>
      apply serves _ entry _ found
      exact ⟨by omega, rfl⟩

variable {entry : HandleEntry} {call : CryptoCall} {bit handle : UInt32}

/-- The rule for a handler that checks the permission of the entry. -/
theorem guarded_withPerm {required : UInt32} {serve : Crypto Response}
    (serves : entry.permittedOps &&& required ≠ 0 → Guarded P (fun _ => True) serve) :
  Guarded P (fun _ => True) (withPerm req entry required serve)
  := by
  unfold withPerm
  split
  · apply guarded_pure trivial
  next permitted => apply serves permitted

/-- The rule for a handler that does both. -/
theorem guarded_withHandle_withPerm {minLen : Nat} (long : 4 ≤ minLen)
    {serve : UInt32 → HandleEntry → Crypto Response} {required : UInt32}
    (serves : ∀ handle entry, req.Names handle → table.resolve handle caller.vmId = some entry →
      entry.permittedOps &&& required ≠ 0 → Guarded P (fun _ => True) (serve handle entry)) :
  Guarded P (fun _ => True) (withHandle minLen req caller table fun handle entry =>
    withPerm req entry required (serve handle entry))
  := by
  apply guarded_withHandle long
  intro handle entry named found
  apply guarded_withPerm
  apply serves handle entry named found

/-- A single call that is covered. -/
theorem guarded_call {respond : call.Answer → Response} (covered : P call) :
  Guarded (α := Response) P (fun _ => True) (do
    let answer ← Asking.question call
    pure (respond answer))
  := by
  apply guarded_question covered
  intro answer
  apply guarded_pure trivial

/-- A call that uses the handle the request names is covered, when the handle resolves and the entry
has the permission. -/
theorem covered_of_uses (onHandle : op ≠ .keyGenerate) (named : req.Names handle)
    (found : table.resolve handle caller.vmId = some entry) (required : op.requiredPerm = some bit)
    (permitted : entry.permittedOps &&& bit ≠ 0) (uses : call.uses = some handle) :
  Covered req op caller table call
  := by
  intro handle' uses'
  cases uses.symm.trans uses'
  exact ⟨onHandle, named, entry, bit, found, required, permitted⟩

/-- The operations on data use the handle of the request, with the permission they need. -/
theorem guarded_handleCryptoWithHandle (onHandle : op ≠ .keyGenerate)
    (required : op.requiredPerm = some bit) :
  Guarded (Covered req op caller table) (fun _ => True) (handleCryptoWithHandle req op caller table)
  := by
  unfold handleCryptoWithHandle
  rw [required]
  apply guarded_withHandle_withPerm (Nat.le_refl 4)
  intro handle entry named found permitted
  have covered {call : CryptoCall} (uses : call.uses = some handle) :
      Covered req op caller table call :=
    covered_of_uses onHandle named found required permitted uses
  unfold askForOperation
  cases op with
  | sign | encrypt | decrypt | macGenerate => exact guarded_call (covered rfl)
  | macVerify =>
    dsimp only
    split
    · apply guarded_pure trivial
    · exact guarded_call (covered rfl)
  | _ => apply guarded_pure trivial

/-- The check of a signature uses the handle of the request, with its permission. -/
theorem guarded_handleVerify :
  Guarded (Covered req .verify caller table) (fun _ => True) (handleVerify req caller table)
  := by
  apply guarded_withHandle_withPerm (by decide)
  intro handle entry named found permitted
  dsimp only
  split
  · apply guarded_pure trivial
  · split
    · apply guarded_pure trivial
    · exact guarded_call (covered_of_uses nofun named found rfl permitted rfl)

/-- The information about a handle is given without a call. -/
theorem guarded_handleGetHandleInfo :
  Guarded P (fun _ => True) (handleGetHandleInfo req caller table)
  := by
  apply guarded_withHandle (Nat.le_refl 4)
  intro _ _ _ _
  apply guarded_pure trivial

/-- What a request may leave of the table: the generation of a key may add an entry for the caller,
and nothing else changes the entries. -/
def Leaves (op : Op) (caller : CallerId) (table table' : HandleTable) : Prop :=
  table'.entries = table.entries ∨
    op = .keyGenerate ∧ ∃ entry : HandleEntry, entry.ownerVmId = caller.vmId ∧
      table'.entries = table.entries ++ [entry]

/-- The generation of a key uses no handle, and adds at most one entry, for the caller. -/
theorem guarded_handleKeyGenerate :
  Guarded (Covered req .keyGenerate caller table)
    (fun result => Leaves .keyGenerate caller table result.2) (handleKeyGenerate req caller table)
  := by
  unfold handleKeyGenerate
  split
  · apply guarded_pure
    exact .inl rfl
  · dsimp only
    split
    · apply guarded_pure
      exact .inl rfl
    next handle table' allocated =>
      obtain ⟨entry, -, owner, entries⟩ := allocate_eq_some allocated
      have leaves : Leaves .keyGenerate caller table table' := .inr ⟨rfl, entry, owner, entries⟩
      apply guarded_question
      · intro _ uses
        cases uses
      · intro answer
        rcases answer with (_ | _ | _) | _ <;> exact leaves

/-- A handler that leaves the table alone. -/
theorem guarded_keepingTable {handler : Crypto Response}
    (guarded : Guarded (Covered req op caller table) (fun _ => True) handler) :
  Guarded (Covered req op caller table) (fun result => Leaves op caller table result.2)
    (keepingTable table handler)
  := by
  apply guarded_bind guarded
  intro response _
  apply guarded_pure
  exact .inl rfl

/-- Every operation uses only the handle its request names, with the permission it needs, and
changes the table only by the generation of a key. -/
theorem guarded_dispatch :
  Guarded (Covered req op caller table) (fun result => Leaves op caller table result.2)
    (dispatch req op caller table)
  := by
  cases op with
  | keyGenerate => exact guarded_handleKeyGenerate
  | getRandom => exact guarded_keepingTable guarded_handleGetRandom
  | encrypt | decrypt | macGenerate | macVerify | sign =>
    exact guarded_keepingTable (guarded_handleCryptoWithHandle nofun rfl)
  | verify => exact guarded_keepingTable guarded_handleVerify
  | getHandleInfo => exact guarded_keepingTable guarded_handleGetHandleInfo
  | getPubkey | getCert =>
    apply guarded_keepingTable
    apply guarded_withHandle_withPerm (Nat.le_refl 4)
    intro handle entry named found permitted
    exact guarded_call (covered_of_uses nofun named found rfl permitted rfl)
  | _ =>
    apply guarded_pure
    exact .inl rfl

/-- A request that the policy does not turn away and that uses a well-known handle is allowed its
key. -/
theorem allows_of_authorise (passed : authorise req op caller table iam ≠ .deny)
    (onHandle : op ≠ .keyGenerate) (required : op.requiredPerm = some bit)
    (named : req.Names handle)
    (found : table.get handle = some entry) (wellKnown : handleIsWellKnown handle) :
  iam.Allows caller.vmId entry.keyId op
  := by
  have isStatic : ¬ handleDynamicBase ≤ handle := by
    simp only [handleIsWellKnown, Bool.and_eq_true, decide_eq_true_eq] at wellKnown
    exact UInt32.not_le.mpr wellKnown.2
  have peeked : peekHandle req = some handle := by
    unfold peekHandle
    rw [if_neg (Nat.not_lt.mpr named.1), named.2]
  have evaluated : authorise req op caller table iam =
      decisionToOutcome (iam.evaluate caller.vmId entry.keyId op) := by
    unfold authorise
    rw [peeked]
    simp only [Option.getD_some, if_neg isStatic, found, Option.map_some]
    cases op <;> first | rfl | exact absurd rfl onHandle | cases required
  apply (iam.evaluate_ne_deny_iff _ _ _).mp
  intro denied
  rw [evaluated, denied] at passed
  exact passed rfl

/-- A use of a handle is authorised: it has the permission of the operation, the handle resolves for
the caller, and if it is well known, the policy allows the caller its key. -/
def Authorised (iam : IamPolicy) (req : Request) (caller : CallerId) (table : HandleTable)
    (call : CryptoCall) : Prop :=
  ∀ handle, call.uses = some handle → ∃ op bit entry, Op.fromU32 req.op = some op ∧
    op.requiredPerm = some bit ∧ table.resolve handle caller.vmId = some entry ∧
    entry.permittedOps &&& bit ≠ 0 ∧
    (handleIsWellKnown handle → iam.Allows caller.vmId entry.keyId op)

/-- What a request may leave of the table. -/
def RequestLeaves (req : Request) (caller : CallerId) (table table' : HandleTable) : Prop :=
  table'.entries = table.entries ∨ Op.fromU32 req.op = some .keyGenerate ∧ ∃ entry : HandleEntry,
      entry.ownerVmId = caller.vmId ∧ table'.entries = table.entries ++ [entry]

/-- What an operation may ask is authorised once the policy let the request pass. -/
theorem authorised_of_covered (decoded : Op.fromU32 req.op = some op)
    (passed : authorise req op caller table iam ≠ .deny)
    (covered : Covered req op caller table call) :
  Authorised iam req caller table call
  := by
  intro handle uses
  obtain ⟨onHandle, named, entry, bit, found, required, permitted⟩ := covered handle uses
  use op, bit, entry, decoded, required, found, permitted
  apply allows_of_authorise passed onHandle required named (resolve_eq_some found).1

/-- What an operation leaves of the table is what its request leaves. -/
theorem requestLeaves_of_leaves {table' : HandleTable} (decoded : Op.fromU32 req.op = some op)
    (left : Leaves op caller table table') :
  RequestLeaves req caller table table'
  := by
  rcases left with same | ⟨rfl, added⟩
  · exact .inl same
  · exact .inr ⟨decoded, added⟩

/-- Every use of a handle by a request is authorised, and a request changes the table only by the
generation of a key. -/
theorem guarded_handleRequest :
  Guarded (Authorised iam req caller table)
    (fun result => RequestLeaves req caller table result.2.2) (handleRequest req caller table iam)
  := by
  unfold handleRequest
  split
  · apply guarded_pure
    exact .inl rfl
  next op decoded =>
    split
    · apply guarded_pure
      exact .inl rfl
    · split
      · apply guarded_pure
        exact .inl rfl
      · split
        · apply guarded_pure
          exact .inl rfl
        next passed =>
          apply guarded_bind (guarded_dispatch.mono (fun _ => authorised_of_covered decoded passed)
            (fun _ => requestLeaves_of_leaves decoded))
          rintro ⟨response, table'⟩ left
          exact left

end Handlers

/-! ### Whole runs -/

/-- Every entry of the table is well known and belongs to nobody, or was generated by a request of
its owner. -/
def Owned (table : HandleTable) (served : List Served) : Prop :=
  ∀ entry ∈ table.entries, entry.ownerVmId = "" ∧ handleIsWellKnown entry.handle ∨
      entry.ownerVmId ≠ "" ∧ ∃ r ∈ served, r.Allocated entry.handle ∧
        r.caller.vmId = entry.ownerVmId

/-- Fewer entries and more requests keep every entry owned. -/
theorem Owned.mono {table table' : HandleTable} {served : List Served} {r : Served}
    (owned : Owned table served) (fewer : ∀ entry ∈ table'.entries, entry ∈ table.entries) :
  Owned table' (r :: served)
  := by
  intro entry listed
  rcases owned entry (fewer entry listed) with shared | ⟨named, r', earlier, allocated⟩
  · exact .inl shared
  · exact .inr ⟨named, r', List.mem_cons_of_mem r earlier, allocated⟩

/-- The entries of a table with well-known handles only belong to nobody. -/
theorem owned_of_registered {table : HandleTable} (h : Registered table) :
  Owned table []
  := by
  induction h with
  | new =>
    intro entry listed
    cases listed
  | register _ _ _ _ _ ih =>
    intro entry listed
    rcases mem_registerWellKnown listed with old | shared
    · exact ih entry old
    · exact .inl shared

/-- An authorised use of a handle is lawful where every entry is owned. -/
theorem lawfulUse_of_authorised {r : Served} {earlier : List Served}
    {call : CryptoCall} {handle : UInt32} (owned : Owned r.before earlier)
    (authorised : Authorised iam r.req r.caller r.before call) (uses : call.uses = some handle) :
  r.LawfulUse iam earlier handle
  := by
  obtain ⟨op, bit, entry, decoded, required, resolved, permitted, allowed⟩ := authorised handle uses
  obtain ⟨found, owner⟩ := resolve_eq_some resolved
  obtain ⟨listed, rfl⟩ := mem_of_get found
  use op, bit, entry, decoded, required, found, permitted
  rcases owned entry listed with ⟨-, wellKnown⟩ | ⟨named, r', before, allocated, minted⟩
  · exact .inl ⟨wellKnown, allowed wellKnown⟩
  · have same : entry.ownerVmId = r.caller.vmId := owner.resolve_left named
    exact .inr ⟨r', before, allocated, minted.trans same⟩

/-- What holds along every run: all uses so far were lawful, and every entry is owned. -/
def Daemon.Safe {σ : Type} (iam : IamPolicy) (d : Daemon σ) : Prop :=
  Isolated iam d.served ∧ Owned d.table d.served

section Steps

variable {σ : Type} {provider : Environment CryptoCall CryptoCall.Answer σ} {d : Daemon σ}

/-- A request keeps the daemon safe, unless it generates a key under the empty identity. -/
theorem Daemon.Safe.serve {req : Request} (safe : d.Safe iam)
    (named : Op.fromU32 req.op = some .keyGenerate → caller.vmId ≠ "") :
  (d.serve provider iam caller req).Safe iam
  := by
  obtain ⟨isolated, owned⟩ := safe
  have guarded : Guarded (Authorised iam req caller d.table)
      (fun result => RequestLeaves req caller d.table result.2.2)
      (handleRequest req caller d.table iam) := guarded_handleRequest
  constructor
  · constructor
    · intro call asked handle uses
      apply lawfulUse_of_authorised owned (guarded.asked provider d.hsm call asked) uses
    · exact isolated
  · rcases guarded.result provider d.hsm with same | ⟨generates, entry, owner, added⟩
    · apply owned.mono
      intro entry listed
      rw [Daemon.serve, same] at listed
      exact listed
    · intro entry' listed
      rw [Daemon.serve, added] at listed
      rcases List.mem_append.mp listed with old | new
      · exact owned.mono (fun _ h => h) entry' old
      · cases List.mem_singleton.mp new
        right
        use owner ▸ named generates
        exact ⟨_, List.mem_cons_self, ⟨generates, entry, rfl, added⟩, owner.symm⟩

/-- The close of a connection keeps the daemon safe. -/
theorem Daemon.Safe.disconnect (safe : d.Safe iam) :
  (d.disconnect caller).Safe iam
  := by
  use safe.1
  intro entry listed
  apply safe.2 entry (mem_of_removeByVmId listed)

end Steps

/-- In every run in which no key is generated under the empty identity, the crypto provider is asked
to use a handle for a caller only if the handle is well known and the policy allows the caller its
key for the operation, or it was generated before for the same identity, and in both cases the entry
of the handle has the permission that the operation needs. -/
theorem handle_use_is_owned_or_allowed {σ : Type}
    (provider : Environment CryptoCall CryptoCall.Answer σ) (iam : IamPolicy) {d : Daemon σ}
    (run : Reachable Daemon.Starts
      (fun d d' => ∃ event, DaemonStep provider iam d event d' ∧ event.NamedOwner) d) :
  Isolated iam d.served
  := by
  have safe : d.Safe iam := by
    apply run.invariant
    · rintro s ⟨registered, fresh⟩
      rw [Daemon.Safe, fresh]
      exact ⟨trivial, owned_of_registered registered⟩
    · rintro s t safe ⟨event, step, named⟩
      cases step with
      | request => exact safe.serve named
      | disconnect => exact safe.disconnect
  exact safe.1

/-! ### The empty identity -/

namespace Bench

/-- A policy that leaves everything to the checks on the handles. -/
def openPolicy : IamPolicy :=
  { statements :=
      [{ principals := [.any]
         resources :=
          .mapping [(.string "hsm", .mapping [(.string "handles", .sequence [.string "*"])])]
         ops := .any }] }

/-- A provider that does whatever it is asked. -/
def willing : Environment CryptoCall CryptoCall.Answer Unit
  | .verify .., s | .macVerify .., s => (.ok true, s)
  | .random _, s | .generateKey .., s | .sign .., s | .encrypt .., s | .decrypt .., s
  | .macGenerate .., s | .getPublicKeyDer _, s | .getCertificateDer _, s => (.ok [], s)

/-- A peer on another node whose certificate has an empty common name. -/
def blankPeer : Caller :=
  .crossNode [[{ oid := commonName, value := [] }]] "" (by decide +kernel)

def guest : Caller :=
  .guest { name := "vm2", nonempty := by decide }

def mint : Request :=
  { op := 0x0010, sessionId := 1
    payload := [0x21, 0, 0, 0, 0x10, 0, 0, 0, 0, 0, 0, 0] ++ List.replicate 32 0 }

def signFirst : Request :=
  { op := 0x0040, sessionId := 2, payload := [0, 1, 0, 0, 42] }

def idle : Daemon Unit :=
  { table := .new, hsm := (), served := [] }

/-- The daemon after `owner` generated a key and the guest asked for a signature under it. -/
def signed (owner : Caller) : Daemon Unit :=
  (idle.serve willing openPolicy owner.callerId mint).serve willing openPolicy guest.callerId
    signFirst

end Bench

open Bench

/-- A guest and a peer are served by the same daemon. -/
theorem Bench.reachable_signed (owner : Caller) {allowed : DaemonEvent → Prop}
    (mint_allowed : allowed (.request owner mint))
    (sign_allowed : allowed (.request guest signFirst)) :
  Reachable Daemon.Starts
    (fun d d' => ∃ event, DaemonStep willing openPolicy d event d' ∧ allowed event) (signed owner)
  := by
  have start : Reachable Daemon.Starts
      (fun d d' => ∃ event, DaemonStep willing openPolicy d event d' ∧ allowed event)
      idle := .init ⟨.new, rfl⟩
  exact (start.step ⟨_, .request _ owner mint, mint_allowed⟩).step
    ⟨_, .request _ guest signFirst, sign_allowed⟩

/-- A guest that generates a key may use it. -/
theorem guest_uses_its_own_handle :
  Isolated openPolicy (signed guest).served ∧
    ((signed guest).served.map (·.asked)) = [[.sign 0x100 [42]], [.generateKey 0x100 0x21]]
  := by
  constructor
  · apply handle_use_is_owned_or_allowed willing openPolicy
    apply reachable_signed
    · intro _
      decide
    · nofun
  · decide +kernel

/-- A peer with an empty common name generates a key, and a guest has a signature made with it: the
handle is not well known, and no request of the guest generated it. -/
theorem empty_name_mints_a_shared_handle :
  ∃ d : Daemon Unit, Reachable Daemon.Starts
      (fun d d' => ∃ event, DaemonStep willing openPolicy d event d') d ∧
    d.served.map (fun r => (r.caller.vmId, r.asked)) =
      [("vm2", [.sign 0x100 [42]]), ("", [.generateKey 0x100 0x21])] ∧
    ¬ Isolated openPolicy d.served
  := by
  have trace : (signed blankPeer).served.map (fun r => (r.caller.vmId, r.asked)) =
      [("vm2", [.sign 0x100 [42]]), ("", [.generateKey 0x100 0x21])] := by
    decide +kernel
  have run : Reachable Daemon.Starts
      (fun d d' => ∃ event, DaemonStep willing openPolicy d event d' ∧ True)
      (signed blankPeer) := reachable_signed _ trivial trivial
  use signed blankPeer, run.mono fun _ _ ⟨event, step, _⟩ => ⟨event, step⟩, trace
  rintro ⟨lawful, -⟩
  obtain ⟨-, -, -, -, -, -, -, ⟨wellKnown, -⟩ | ⟨r, earlier, -, same⟩⟩ :=
    lawful (.sign 0x100 [42]) (by decide +kernel) 0x100 rfl
  · revert wellKnown
    decide
  · cases List.mem_singleton.mp earlier
    revert same
    decide

end Vhsm
