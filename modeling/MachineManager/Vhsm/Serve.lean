import MachineManager.Vhsm.Isolation
import MachineManager.Vhsm.Secstore

/-!
# The service of a request

The service of a request takes the lock of the handle table three times: to count the entries, to
handle the request, and to find out whether an entry was added, which is then written to the store
if it is persistent. An entry was added if there are more than before, and it is taken to be the
last one. Between these sections other requests may be handled, and connections may close.

If nothing else changes the table between the sections of a request, and the provider makes the key
of a persistent handle, the store holds the records of the persistent handles that were returned
(`recorded_once_answered`). Otherwise the entry of another request is taken for the own one, or that
of a request that has failed is written to the store (`records_of_others`).
-/

open Asking List Nat Option

namespace Vhsm

open Bench Function HandleTable

/-- The section that writes a new entry to the store. -/
def persistNew (store : Secstore) (table : HandleTable) (lenBefore : Nat) : Secstore :=
  if lenBefore < table.entries.length then
    match table.entries.getLast? with
    | some entry => if entry.persistent then store.store entry.metadata else store
    | none => store
  else store

/-- How far the service of a request is: the entries were counted, or the request was handled. An
entry that it added is on record. -/
inductive Phase
  | counted (lenBefore : Nat)
  | handled (lenBefore : Nat) (response : Response) (added : Option HandleEntry)

/-- A request that is served. -/
structure Worker where
  caller : CallerId
  req : Request
  phase : Phase

/-- A request that was answered. -/
structure Reply where
  caller : CallerId
  req : Request
  response : Response
  added : Option HandleEntry

/-- The daemon: the table, the store, the requests that are served, by the thread that serves them,
and those that were answered. -/
structure Service where
  table : HandleTable
  store : Secstore := fun _ => none
  workers : Nat → Option Worker := fun _ => none
  replies : List Reply := []

/-- What happens at the daemon: the service of a request begins, the request is handled, with the
answers of the provider, or its service ends; and a connection closes. -/
inductive ServiceEvent
  | begins (i : Nat) (caller : CallerId) (req : Request)
  | handles (i : Nat) (answers : (c : CryptoCall) → c.Answer)
  | ends (i : Nat)
  | closes (caller : CallerId)

/-- A provider that gives fixed answers. -/
def answering (answers : (c : CryptoCall) → c.Answer) :
    Environment CryptoCall CryptoCall.Answer Unit :=
  fun c _ => (answers c, ())

/-- The entry that was added to a table, if there is one. -/
def addedEntry (before after : HandleTable) : Option HandleEntry :=
  if before.entries.length < after.entries.length then after.entries.getLast? else none

namespace Service

/-- The daemon after an event, if the event is possible. -/
def after (iam : IamPolicy) (s : Service) : ServiceEvent → Option Service
  | .begins i caller req =>
    match s.workers i with
    | some _ => none
    | none =>
      let worker : Worker := { caller, req, phase := .counted s.table.entries.length }
      some { s with workers := update s.workers i (some worker) }
  | .handles i answers =>
    match s.workers i with
    | some { caller, req, phase := .counted lenBefore } =>
      let outcome := Asking.run (answering answers) (handleRequest req caller s.table iam) ()
      let table := outcome.result.2.2
      let phase := .handled lenBefore outcome.result.1 (addedEntry s.table table)
      some { s with table, workers := update s.workers i (some { caller, req, phase }) }
    | _ => none
  | .ends i =>
    match s.workers i with
    | some { caller, req, phase := .handled lenBefore response added } =>
      some
        { s with
          store := persistNew s.store s.table lenBefore
          workers := update s.workers i none
          replies := { caller, req, response, added } :: s.replies }
    | _ => none
  | .closes caller => some { s with table := s.table.removeByVmId caller.vmId }

def run (iam : IamPolicy) (s : Service) (events : List ServiceEvent) : Option Service :=
  events.foldlM (after iam) s

end Service

/-! ### What handling does -/

namespace Request

/-- The algorithm that a KEY_GENERATE asks for. -/
def algorithm (req : Request) : UInt32 :=
  u32FromLeBytes req.payload 0

/-- The permissions that a KEY_GENERATE asks for. -/
def permittedOps (req : Request) : UInt32 :=
  u32FromLeBytes req.payload 4

/-- Whether a KEY_GENERATE asks for a handle that outlives the connection. -/
def persistent (req : Request) : Bool :=
  req.payload.getD 8 0 != 0

/-- The request generates a key. -/
def Generates (req : Request) : Prop :=
  Op.fromU32 req.op = some .keyGenerate

instance (req : Request) : Decidable req.Generates :=
  inferInstanceAs (Decidable (_ = _))

end Request

def newEntry (req : Request) (caller : CallerId) (table : HandleTable) : HandleEntry :=
  { handle := table.nextDynamic
    keyId := "gen-" ++ caller.vmId ++ "-" ++ toString table.entries.length
    algorithm := req.algorithm
    permittedOps := req.permittedOps
    ownerVmId := caller.vmId
    persistent := req.persistent
    label := (req.payload.drop 12).take labelLen }

/-- The table with one more entry. -/
def HandleTable.push (table : HandleTable) (entry : HandleEntry) : HandleTable :=
  { entries := table.entries ++ [entry], nextDynamic := table.nextDynamic + 1 }

theorem HandleTable.mem_push {table : HandleTable} {e e' : HandleEntry} :
  e' ∈ (table.push e).entries ↔ e' ∈ table.entries ∨ e' = e
  := by rw [push, mem_append, mem_singleton]

/-- The response to a KEY_GENERATE, by what the provider has answered. -/
def Response.ofNewKey (req : Request) (handle : UInt32) : Except HsmError (List UInt8) → Response
  | .ok pubkey => .ok req (toLeBytes handle ++ toLeBytes (.ofNat pubkey.length) ++ pubkey)
  | .error .notSupported => .err req .invalidParam
  | .error _ => .err req .internal

/-- The call makes a key. -/
def CryptoCall.Makes : CryptoCall → Prop
  | .generateKey _ _ => True
  | _ => False

variable {req : Request} {iam : IamPolicy}

section Handled

variable {σ : Type} {env : Environment CryptoCall CryptoCall.Answer σ} {op : Op} {caller : CallerId}
  {table : HandleTable}

variable (env) in
/-- All that handling a request can do: leave the table and the keys as they are, without success if
a key was to be generated; or add an entry and have the key made. -/
inductive Handled (s : σ) (req : Request) (caller : CallerId) (table : HandleTable) :
    Response → HandleTable → σ → Prop
  | keeps {response : Response} (refused : req.Generates → response.status ≠ .ok) :
      Handled s req caller table response table s
  | adds (generates : req.Generates) (room : table.entries.length < maxHandles) :
      Handled s req caller table
        (.ofNewKey req table.nextDynamic (env (.generateKey table.nextDynamic req.algorithm) s).1)
        (table.push (newEntry req caller table))
        (env (.generateKey table.nextDynamic req.algorithm) s).2

theorem guarded_askForOperation (handle : UInt32) :
  Guarded (¬ CryptoCall.Makes ·) (fun _ => True) (askForOperation req op handle)
  := by
  unfold askForOperation
  cases op with
  | sign | encrypt | decrypt | macGenerate => exact guarded_call nofun
  | macVerify =>
    dsimp only
    split
    · apply guarded_pure trivial
    · exact guarded_call nofun
  | _ => apply guarded_pure trivial

/-- No handler but that of KEY_GENERATE makes a key or changes the table. -/
theorem guarded_dispatch_keeps (other : op ≠ .keyGenerate) :
  Guarded (¬ CryptoCall.Makes ·) (fun result => result.2 = table) (dispatch req op caller table)
  := by
  have keeping {handler : Crypto Response}
      (guarded : Guarded (¬ CryptoCall.Makes ·) (fun _ => True) handler) :
      Guarded (¬ CryptoCall.Makes ·) (fun result => result.2 = table)
        (keepingTable table handler) := by
    apply guarded_bind guarded
    intro response _
    exact guarded_pure rfl
  have onData {bit : UInt32} (required : op.requiredPerm = some bit) :
      Guarded (¬ CryptoCall.Makes ·) (fun _ => True)
        (handleCryptoWithHandle req op caller table) := by
    unfold handleCryptoWithHandle
    rw [required]
    apply guarded_withHandle_withPerm (le_refl 4)
    intro handle _ _ _ _
    exact guarded_askForOperation handle
  cases op with
  | keyGenerate => exact absurd rfl other
  | getRandom =>
    apply keeping
    unfold handleGetRandom
    split
    · apply guarded_pure trivial
    · dsimp only
      split
      · apply guarded_pure trivial
      · apply guarded_question nofun
        intro answer
        cases answer <;> exact guarded_pure trivial
  | encrypt | decrypt | macGenerate | macVerify | sign => exact keeping (onData rfl)
  | verify =>
    apply keeping
    apply guarded_withHandle_withPerm (by decide)
    intro handle entry _ _ _
    dsimp only
    split
    · apply guarded_pure trivial
    · split
      · apply guarded_pure trivial
      · exact guarded_call nofun
  | getHandleInfo => exact keeping guarded_handleGetHandleInfo
  | getPubkey | getCert =>
    apply keeping
    apply guarded_withHandle_withPerm (le_refl 4)
    intro _ _ _ _ _
    exact guarded_call nofun
  | _ => exact guarded_pure rfl

/-- KEY_GENERATE in short: the entry is added before the provider is asked. -/
theorem handleKeyGenerate_eq :
  handleKeyGenerate req caller table =
    if req.payload.length < 44 then pure (.err req .invalidParam, table)
    else if maxHandles ≤ table.entries.length then pure (.err req .noResource, table)
    else .ask (.generateKey table.nextDynamic req.algorithm) fun answer =>
      .done (.ofNewKey req table.nextDynamic answer, table.push (newEntry req caller table))
  := by
  unfold handleKeyGenerate allocate
  split_ifs
  · rfl
  · rfl
  · refine congrArg (Asking.ask _) (funext ?_)
    rintro ((_ | _ | _) | _) <;> rfl

/-- What KEY_GENERATE does. -/
theorem handled_handleKeyGenerate (generates : req.Generates) (s : σ) :
  let outcome := Asking.run env (handleKeyGenerate req caller table) s
  Handled env s req caller table outcome.result.1 outcome.result.2 outcome.env
  := by
  rw [handleKeyGenerate_eq]
  split_ifs
  · refine .keeps fun _ => ?_
    nofun
  · refine .keeps fun _ => ?_
    nofun
  · next room => exact .adds generates (Nat.lt_of_not_le room)

/-- What a request does. -/
theorem handled_handleRequest (quiet : ∀ c s, ¬ CryptoCall.Makes c → (env c s).2 = s) (s : σ) :
  let outcome := Asking.run env (handleRequest req caller table iam) s
  Handled env s req caller table outcome.result.1 outcome.result.2.2 outcome.env
  := by
  have refused (status : StatusCode) (bad : status ≠ .ok) :
      Handled env s req caller table (.err req status) table s :=
    .keeps fun _ => bad
  unfold handleRequest
  split
  · exact refused .invalidParam nofun
  · next op decoded =>
    split
    · exact refused .policyReject nofun
    · split
      · exact refused .invalidParam nofun
      · split
        · exact refused .policyReject nofun
        · dsimp only
          rw [run_bind]
          by_cases generates : op = .keyGenerate
          · subst generates
            exact handled_handleKeyGenerate decoded s
          · have guarded : Guarded (¬ CryptoCall.Makes ·) (fun result => result.2 = table)
                (dispatch req op caller table) := guarded_dispatch_keeps generates
            have same := guarded.result env s
            have unasked := guarded.env_eq env quiet s
            simp only [Asking.run, pure]
            rw [same, unasked]
            refine .keeps fun generates' => ?_
            cases generates (some.inj (decoded.symm.trans generates'))

end Handled

/-! ### What a section sees of the one before -/

variable (table : HandleTable)

theorem addedEntry_self :
  addedEntry table table = none
  := if_neg (lt_irrefl _)

theorem HandleTable.length_push (e : HandleEntry) :
  (table.push e).entries.length = table.entries.length + 1
  := length_append

theorem addedEntry_push (e : HandleEntry) :
  addedEntry table (table.push e) = some e
  := by
  have longer : table.entries.length < (table.push e).entries.length := by
    rw [length_push]
    apply lt_succ_self
  rw [addedEntry, if_pos longer, push, List.getLast?_concat]

/-- Nothing is recorded when there are as many entries as before. -/
theorem persistNew_self (store : Secstore) (table : HandleTable) :
  persistNew store table table.entries.length = store
  := if_neg (lt_irrefl _)

variable {table : HandleTable}

variable {store : Secstore} {lenBefore : Nat} {e : HandleEntry} {s : Service}

/-- The last entry is recorded when it is persistent and there are more entries than before. -/
theorem persistNew_of_last (length : lenBefore + 1 = table.entries.length)
    (last : table.entries.getLast? = some e) :
  persistNew store table lenBefore = if e.persistent then store.store e.metadata else store
  := by
  have longer : lenBefore < table.entries.length := length ▸ lt_succ_self _
  rw [persistNew, if_pos longer, last]

/-- A record is added under the number of its handle only. -/
theorem persistNew_of_ne (length : lenBefore + 1 = table.entries.length)
    (last : table.entries.getLast? = some e) {h : UInt32} (other : h ≠ e.handle) :
  persistNew store table lenBefore h = store h
  := by
  rw [persistNew_of_last length last]
  split
  · exact update_of_ne other ..
  · rfl

/-- The next number, while the numbers are not used up. -/
theorem toNat_nextDynamic_push (e : HandleEntry) (left : table.nextDynamic.toNat + 1 < 2 ^ 32) :
  (table.push e).nextDynamic.toNat = table.nextDynamic.toNat + 1
  := by
  rw [push, UInt32.toNat_add, UInt32.toNat_one, mod_eq_of_lt left]

/-! ### What is recorded -/

/-- The entry is what the caller has asked for. -/
structure HandleEntry.Fulfils (e : HandleEntry) (caller : CallerId) (req : Request) : Prop where
  owner : e.ownerVmId = caller.vmId
  algorithm : e.algorithm = req.algorithm
  permittedOps : e.permittedOps = req.permittedOps
  persistent : e.persistent = req.persistent

namespace Service

/-- The store holds the record of every persistent handle whose request was answered with success,
and of no handle whose request was answered with an error. -/
def Recorded (s : Service) : Prop :=
  ∀ r ∈ s.replies, r.req.Generates → (r.response.status = .ok → r.req.persistent →
      ∃ e, r.added = some e ∧ e.handle = u32FromLeBytes r.response.payload 0 ∧
        e.Fulfils r.caller r.req ∧ s.store e.handle = some (serializeMetadata e.metadata)) ∧
    (r.response.status ≠ .ok → ∀ e, r.added = some e → s.store e.handle = none)

/-- A table and a store with which the daemon may begin to serve: the numbers of the records were
given out. -/
def Starts (s : Service) : Prop :=
  s.workers = (fun _ => none) ∧ s.replies = [] ∧ ∀ h, s.store h ≠ none →
    h.toNat < s.table.nextDynamic.toNat

/-- A key is generated, and a connection closes, only while no other request is served. The numbers
for handles are not used up, and the provider makes the key of a persistent handle. -/
def Orderly (s : Service) : ServiceEvent → Prop
  | .handles i answers =>
    ∀ w, s.workers i = some w → w.req.Generates →
      (∀ j, s.workers j ≠ none → j = i) ∧ s.table.nextDynamic.toNat + 1 < 2 ^ 32 ∧
      (w.req.persistent → ∃ pubkey, answers (.generateKey s.table.nextDynamic w.req.algorithm) =
        .ok pubkey)
  | .closes _ => ∀ j, s.workers j = none
  | _ => True

/-- A request has added an entry, which is the last one, and is not recorded yet. -/
structure Grown (s : Service) (w : Worker) (lenBefore : Nat) (response : Response)
    (e : HandleEntry) : Prop where
  generates : w.req.Generates
  fulfils : e.Fulfils w.caller w.req
  last : s.table.entries.getLast? = some e
  length : lenBefore + 1 = s.table.entries.length
  returned : response.status = .ok → e.handle = u32FromLeBytes response.payload 0
  made : w.req.persistent → response.status = .ok
  numbered : e.handle.toNat < s.table.nextDynamic.toNat
  unstored : s.store e.handle = none
  unanswered : ∀ r ∈ s.replies, ∀ e', r.added = some e' → e'.handle ≠ e.handle

/-- A request that is served has not missed a change of the table. -/
def Fits (s : Service) (w : Worker) : Prop :=
  match w.phase with
  | .counted lenBefore => lenBefore = s.table.entries.length
  | .handled lenBefore response none =>
    lenBefore = s.table.entries.length ∧ (w.req.Generates → response.status ≠ .ok)
  | .handled lenBefore response (some e) => s.Grown w lenBefore response e

def HasGrown (w : Worker) : Prop :=
  ∃ lenBefore response e, w.phase = .handled lenBefore response (some e)

/-- What holds in every state of an orderly run. -/
structure Inv (s : Service) : Prop where
  recorded : s.Recorded
  fits : ∀ i w, s.workers i = some w → s.Fits w
  one : ∀ i j w w', s.workers i = some w → HasGrown w → s.workers j = some w' → HasGrown w' → i = j
  stored : ∀ h, s.store h ≠ none → h.toNat < s.table.nextDynamic.toNat
  answered : ∀ r ∈ s.replies, ∀ e, r.added = some e → e.handle.toNat < s.table.nextDynamic.toNat

/-! ### The sections keep the invariant -/

section Steps

variable {s' : Service}

variable {w : Worker} {i : Nat} {response : Response}

/-- What a request that is served relies on is left as it was by the end of one that has added
nothing, and by the beginning of another one. -/
theorem Fits.of_eq (h : s.Fits w) (table : s'.table = s.table) (store : s'.store = s.store)
    (replies : ∀ r ∈ s'.replies, r ∈ s.replies ∨ r.added = none) :
  s'.Fits w
  := by
  unfold Fits at h ⊢
  split at h
  · rw [table]
    exact h
  · rw [table]
    exact h
  · constructor
    case generates => exact h.generates
    case fulfils => exact h.fulfils
    case last => rw [table, h.last]
    case length => rw [table, h.length]
    case returned => exact h.returned
    case made => exact h.made
    case numbered => rw [table]; exact h.numbered
    case unstored => rw [store, h.unstored]
    case unanswered =>
      intro r mem e' added
      rcases replies r mem with earlier | nothing
      · apply h.unanswered r earlier e' added
      · cases nothing.symm.trans added

/-- A request that has added nothing relies on the number of entries only. -/
theorem Fits.of_length (h : s.Fits w) (small : ¬ HasGrown w) (table : s'.table = s.table) :
  s'.Fits w
  := by
  unfold Fits at h ⊢
  split at h
  · rw [table]
    exact h
  · rw [table]
    exact h
  · next phase => exact absurd ⟨_, _, _, phase⟩ small

/-- A thread serves what it was given last. -/
theorem update_eq_some {workers : Nat → Option Worker} {j : Nat} {o : Option Worker}
    (h : update workers i o j = some w) :
  j = i ∧ o = some w ∨ j ≠ i ∧ workers j = some w
  := by
  by_cases same : j = i
  · subst same
    rw [update_self] at h
    exact .inl ⟨rfl, h⟩
  · rw [update_of_ne same] at h
    exact .inr ⟨same, h⟩

/-- A thread goes on to a phase in which its request has added nothing. -/
theorem Inv.goesOn (inv : s.Inv) (small : ¬ HasGrown w) (fits : s.Fits w) :
  Inv { s with workers := update s.workers i (some w) }
  := by
  have older {j : Nat} {w' : Worker} (there : update s.workers i (some w) j = some w')
      (grown : HasGrown w') : s.workers j = some w' := by
    rcases update_eq_some there with ⟨-, same⟩ | ⟨-, before⟩
    · cases same
      exact absurd grown small
    · exact before
  constructor
  case recorded => exact inv.recorded
  case fits =>
    intro j w' there
    rcases update_eq_some there with ⟨-, same⟩ | ⟨-, before⟩
    · cases same
      exact fits.of_eq rfl rfl fun _ mem => .inl mem
    · exact (inv.fits j w' before).of_eq rfl rfl fun _ mem => .inl mem
  case one =>
    intro j k w' w'' there grown there' grown'
    apply inv.one j k w' w'' (older there grown) grown (older there' grown') grown'
  case stored => exact inv.stored
  case answered => exact inv.answered

/-- The only request that is served adds an entry. -/
theorem Inv.grows {caller : CallerId} (inv : s.Inv) (alone : ∀ j, s.workers j ≠ none → j = i)
    (left : s.table.nextDynamic.toNat + 1 < 2 ^ 32) (generates : req.Generates)
    (returned : response.status = .ok →
      s.table.nextDynamic = u32FromLeBytes response.payload 0)
        (made : req.persistent → response.status = .ok) :
  let e := newEntry req caller s.table
  Inv { s with
    table := s.table.push e
    workers := update s.workers i
      (some { caller, req, phase := .handled s.table.entries.length response (some e) }) }
  := by
  intro e
  have next := toNat_nextDynamic_push e left
  have only {j : Nat} {w : Worker}
      (there : update s.workers i
        (some { caller, req, phase := .handled s.table.entries.length response (some e) }) j =
          some w) :
      j = i ∧ w = { caller, req, phase := .handled s.table.entries.length response (some e) } := by
    rcases update_eq_some there with ⟨same, new⟩ | ⟨other, before⟩
    · exact ⟨same, (some.inj new).symm⟩
    · apply absurd (alone j _) other
      rw [before]
      nofun
  constructor
  case recorded => exact inv.recorded
  case fits =>
    intro j w there
    obtain ⟨-, rfl⟩ := only there
    constructor
    case generates => exact generates
    case fulfils => exact ⟨rfl, rfl, rfl, rfl⟩
    case last => exact List.getLast?_concat
    case length => simp only [push, length_append, length_singleton]
    case returned => exact returned
    case made => exact made
    case numbered =>
      rw [next]
      apply lt_succ_self
    case unstored =>
      by_contra there
      apply lt_irrefl _ (inv.stored _ there)
    case unanswered =>
      intro r mem e' added same
      have older := inv.answered r mem e' added
      rw [same] at older
      apply lt_irrefl _ older
  case one =>
    intro j k w w' there _ there' _
    rw [(only there).1, (only there').1]
  case stored =>
    intro h there
    rw [next]
    apply lt_succ_of_lt (inv.stored h there)
  case answered =>
    intro r mem e' added
    rw [next]
    apply lt_succ_of_lt (inv.answered r mem e' added)

/-- The service of a request that has added nothing ends. -/
theorem Inv.endsSmall (inv : s.Inv) (refused : w.req.Generates → response.status ≠ .ok) :
  Inv { s with
    workers := update s.workers i none
    replies := { caller := w.caller, req := w.req, response, added := none } :: s.replies }
  := by
  have older {j : Nat} {w' : Worker} (there : update s.workers i none j = some w') :
      s.workers j = some w' := by
    rcases update_eq_some there with ⟨-, gone⟩ | ⟨-, before⟩
    · cases gone
    · exact before
  constructor
  case recorded =>
    intro r mem generates
    rcases mem_cons.mp mem with rfl | earlier
    · constructor
      · intro ok
        exact absurd ok (refused generates)
      · nofun
    · exact inv.recorded r earlier generates
  case fits =>
    intro j w' there
    refine (inv.fits j w' (older there)).of_eq rfl rfl ?_
    intro r mem
    rcases mem_cons.mp mem with rfl | earlier
    · exact .inr rfl
    · exact .inl earlier
  case one =>
    intro j k w' w'' there grown there' grown'
    apply inv.one j k w' w'' (older there) grown (older there') grown'
  case stored => exact inv.stored
  case answered =>
    intro r mem e added
    rcases mem_cons.mp mem with rfl | earlier
    · cases added
    · exact inv.answered r earlier e added

/-- The service of a request that has added an entry ends, with the record of the entry. -/
theorem Inv.endsGrown (inv : s.Inv) (there : s.workers i = some w)
    (phase : w.phase = .handled lenBefore response (some e)) :
  Inv { s with
    store := persistNew s.store s.table lenBefore
    workers := update s.workers i none
    replies := { caller := w.caller, req := w.req, response, added := some e } :: s.replies }
  := by
  have grown : s.Grown w lenBefore response e := by
    have fits := inv.fits i w there
    unfold Fits at fits
    rwa [phase] at fits
  have kept {h : UInt32} (other : h ≠ e.handle) :
      persistNew s.store s.table lenBefore h = s.store h :=
    persistNew_of_ne grown.length grown.last other
  have small {j : Nat} {w' : Worker} (there' : update s.workers i none j = some w') :
      s.workers j = some w' ∧ ¬ HasGrown w' := by
    rcases update_eq_some there' with ⟨-, gone⟩ | ⟨other, before⟩
    · cases gone
    · refine ⟨before, ?_⟩
      intro grown'
      apply other (inv.one j i w' w before grown' there ⟨_, _, _, phase⟩)
  constructor
  case recorded =>
    intro r mem generates
    rcases mem_cons.mp mem with rfl | earlier
    · constructor
      · intro ok persistent
        refine ⟨e, rfl, grown.returned ok, grown.fulfils, ?_⟩
        rw [persistNew_of_last grown.length grown.last, grown.fulfils.persistent, if_pos persistent]
        exact update_self ..
      · intro failed e' added
        cases added
        have ephemeral : ¬ e.persistent := by
          rw [grown.fulfils.persistent]
          exact fun persistent => failed (grown.made persistent)
        rw [persistNew_of_last grown.length grown.last, if_neg ephemeral, grown.unstored]
    · obtain ⟨succeeded, failed⟩ := inv.recorded r earlier generates
      constructor
      · intro ok persistent
        obtain ⟨e', added, returned, fulfils, stored⟩ := succeeded ok persistent
        refine ⟨e', added, returned, fulfils, ?_⟩
        rw [← stored]
        exact kept (grown.unanswered r earlier e' added)
      · intro bad e' added
        rw [← failed bad e' added]
        exact kept (grown.unanswered r earlier e' added)
  case fits =>
    intro j w' there'
    obtain ⟨before, small⟩ := small there'
    exact (inv.fits j w' before).of_length small rfl
  case one =>
    intro j k w' w'' there' grown'
    exact absurd grown' (small there').2
  case stored =>
    intro h there'
    by_cases same : h = e.handle
    · rw [same]
      exact grown.numbered
    · apply inv.stored
      rw [← kept same]
      exact there'
  case answered =>
    intro r mem e' added
    rcases mem_cons.mp mem with rfl | earlier
    · cases added
      exact grown.numbered
    · exact inv.answered r earlier e' added

/-- A number is returned to the caller whose key was made. -/
theorem returned_of_ok {handle : UInt32} {answer : Except HsmError (List UInt8)}
    (ok : (Response.ofNewKey req handle answer).status = .ok) :
  handle = u32FromLeBytes (Response.ofNewKey req handle answer).payload 0
  := by
  rcases answer with (_ | _ | _) | _
  · cases ok
  · cases ok
  · cases ok
  · rw [Response.ofNewKey, Response.ok, List.append_assoc, u32FromLeBytes_toLeBytes]

/-- A request is handled. -/
theorem Inv.handles {answers : (c : CryptoCall) → c.Answer} (inv : s.Inv)
    (orderly : s.Orderly (.handles i answers)) (next : s.after iam (.handles i answers) = some s') :
  s'.Inv
  := by
  simp only [after] at next
  split at next
  · next caller req lenBefore there =>
    have counted : lenBefore = s.table.entries.length := inv.fits i _ there
    have handled :
        let o := Asking.run (answering answers) (handleRequest req caller s.table iam) ()
        Handled (answering answers) () req caller s.table o.result.1 o.result.2.2 o.env :=
      handled_handleRequest (fun _ _ _ => rfl) ()
    cases next
    generalize outcome : Asking.run (answering answers) (handleRequest req caller s.table iam) () =
      o at handled ⊢
    obtain ⟨⟨_, _, _⟩, _, _⟩ := o
    dsimp only at handled ⊢
    cases handled with
    | keeps refused =>
      rw [addedEntry_self]
      apply inv.goesOn
      · rintro ⟨_, _, _, phase⟩
        cases phase
      · exact ⟨counted, refused⟩
    | adds generates =>
      obtain ⟨alone, left, made⟩ := orderly _ there generates
      rw [addedEntry_push, counted]
      apply inv.grows alone left generates returned_of_ok
      intro persistent
      obtain ⟨_, answer⟩ := made persistent
      rw [answering, answer]
      rfl
  · cases next

/-- The service of a request ends. -/
theorem Inv.ends (inv : s.Inv) (next : s.after iam (.ends i) = some s') :
  s'.Inv
  := by
  simp only [after] at next
  split at next
  · next caller req lenBefore response added there =>
    cases next
    cases added with
    | none =>
      obtain ⟨counted, refused⟩ : lenBefore = s.table.entries.length ∧
          (req.Generates → response.status ≠ .ok) := inv.fits i _ there
      rw [counted, persistNew_self]
      exact inv.endsSmall (w := ⟨caller, req, .counted 0⟩) refused
    | some => exact inv.endsGrown there rfl
  · cases next

/-- Every orderly event keeps the invariant. -/
theorem Inv.after {e : ServiceEvent} (inv : s.Inv) (orderly : s.Orderly e)
    (next : s.after iam e = some s') :
  s'.Inv
  := by
  cases e with
  | begins =>
    simp only [Service.after] at next
    split at next
    · cases next
    · cases next
      apply inv.goesOn
      · rintro ⟨_, _, _, phase⟩
        cases phase
      · rfl
  | handles => exact inv.handles orderly next
  | ends => exact inv.ends next
  | closes =>
    cases next
    have idle {j : Nat} {w : Worker} (there : s.workers j = some w) : False := by
      cases (orderly j).symm.trans there
    exact
      { recorded := inv.recorded
        fits := fun j w there => (idle there).elim
        one := fun j k w w' there => (idle there).elim
        stored := inv.stored
        answered := inv.answered }

/-- The invariant holds when the daemon begins to serve. -/
theorem Starts.inv (h : s.Starts) :
  s.Inv
  := by
  obtain ⟨workers, replies, stored⟩ := h
  have idle {j : Nat} {w : Worker} (there : s.workers j = some w) : False := by
    rw [workers] at there
    cases there
  constructor
  case recorded =>
    intro r mem
    rw [replies] at mem
    cases mem
  case fits => exact fun j w there => (idle there).elim
  case one => exact fun j k w w' there => (idle there).elim
  case stored => exact stored
  case answered =>
    intro r mem
    rw [replies] at mem
    cases mem

end Steps

/-- In every orderly run the store holds the record of every persistent handle whose request was
answered with success, and of no handle whose request was answered with an error. -/
theorem recorded_once_answered (iam : IamPolicy) {s : Service}
    (reached : Reachable Starts (fun s s' => ∃ e, s.Orderly e ∧ s.after iam e = some s') s) :
  s.Recorded
  := by
  have inv : s.Inv := by
    refine reached.invariant ?_ ?_
    · intro s starts
      exact starts.inv
    · rintro s s' inv ⟨e, orderly, next⟩
      exact inv.after orderly next
  exact inv.recorded

end Service

/-! ### Records of others -/

namespace Bench

def granting (c : CryptoCall) : c.Answer :=
  (willing c ()).1

def denying : (c : CryptoCall) → c.Answer
  | .generateKey _ _ => .error .other
  | .verify .. | .macVerify .. => .ok true
  | .random _ | .sign .. | .encrypt .. | .decrypt .. | .macGenerate .. | .getPublicKeyDer _
  | .getCertificateDer _ => .ok []

def mintPersistent : Request :=
  { op := 0x0010, sessionId := 1
    payload := [0x21, 0, 0, 0, 0x10, 0, 0, 0, 1, 0, 0, 0] ++ List.replicate 32 0 }

def freshService : Service :=
  { table := .new }

theorem freshService_starts :
  freshService.Starts
  := ⟨rfl, rfl, fun _ there => absurd rfl there⟩

def twoAtOnce : List ServiceEvent :=
  [.begins 0 { vmId := "vm1" } mintPersistent, .begins 1 { vmId := "vm2" } mintPersistent,
    .handles 0 granting, .handles 1 granting, .ends 0, .ends 1]

def failedOne : List ServiceEvent :=
  [.begins 0 { vmId := "vm1" } mintPersistent, .handles 0 denying, .ends 0]

def oneAlone : List ServiceEvent :=
  [.begins 0 { vmId := "vm1" } mintPersistent, .handles 0 granting, .ends 0]

/-- A request for a persistent handle has succeeded and its handle is not in the store, or it has
failed and its handle is. -/
def lapse (s : Service) (r : Reply) : Bool :=
  match r.added with
  | some e => (r.response.status == .ok) != (s.store e.handle).isSome
  | none => false

/-- Where there is a lapse, the store is not as it should be. -/
theorem not_recorded {r : Reply} (mem : r ∈ s.replies) (generates : r.req.Generates)
    (persistent : r.req.persistent) (lapsed : lapse s r = true) :
  ¬ s.Recorded
  := by
  intro recorded
  obtain ⟨succeeded, failed⟩ := recorded r mem generates
  unfold lapse at lapsed
  split at lapsed
  · next e added =>
    by_cases ok : r.response.status = .ok
    · obtain ⟨_, added', -, -, stored⟩ := succeeded ok persistent
      obtain rfl := some.inj (added.symm.trans added')
      rw [ok, stored] at lapsed
      cases lapsed
    · rw [failed ok e added, beq_eq_false_iff_ne.mpr ok] at lapsed
      cases lapsed
  · cases lapsed

def lapses (s : Service) : List Bool :=
  s.replies.map fun r => decide r.req.Generates && r.req.persistent && lapse s r

theorem twoAtOnce_lapses :
  (freshService.run openPolicy twoAtOnce).map lapses = some [false, true]
  := by
  decide +kernel

theorem failedOne_lapses :
  (freshService.run openPolicy failedOne).map lapses = some [true]
  := by
  decide +kernel

theorem not_recorded_of_lapses (lapsed : true ∈ lapses s) :
  ¬ s.Recorded
  := by
  obtain ⟨r, mem, lapsed⟩ := mem_map.mp lapsed
  simp only [Bool.and_eq_true, decide_eq_true_eq] at lapsed
  exact not_recorded mem lapsed.1.1 lapsed.1.2 lapsed.2

end Bench

/-- Of two callers who generate a persistent handle at the same time, one is not recorded; and a
handle whose key was not made is. -/
theorem records_of_others :
  (∃ s s' : Service, s.Starts ∧ s.run openPolicy twoAtOnce = some s' ∧ ¬ s'.Recorded) ∧
  (∃ s s' : Service, s.Starts ∧ s.run openPolicy failedOne = some s' ∧ ¬ s'.Recorded)
  := by
  constructor
  · obtain ⟨s', ran, lapses⟩ := Option.map_eq_some_iff.mp twoAtOnce_lapses
    refine ⟨_, s', freshService_starts, ran, not_recorded_of_lapses ?_⟩
    rw [lapses]
    decide
  · obtain ⟨s', ran, lapses⟩ := Option.map_eq_some_iff.mp failedOne_lapses
    refine ⟨_, s', freshService_starts, ran, not_recorded_of_lapses ?_⟩
    rw [lapses]
    decide

theorem Bench.oneAlone_answers :
  (freshService.run openPolicy oneAlone).map
    (fun s => s.replies.map fun r => (r.req.persistent, r.response.status)) = some [(true, .ok)]
  := by
  decide +kernel

/-- A caller generates a persistent handle, which is recorded. -/
theorem alone_is_recorded :
  ∃ s, Reachable Service.Starts (fun s s' => ∃ e, s.Orderly e ∧ s.after openPolicy e = some s') s ∧
    s.replies.map (fun r => (r.req.persistent, r.response.status)) = [(true, .ok)] ∧ s.Recorded
  := by
  obtain ⟨s, ran, answers⟩ := Option.map_eq_some_iff.mp oneAlone_answers
  simp only [Service.run, oneAlone, List.foldlM_cons, List.foldlM_nil, Option.bind_eq_bind,
    Option.bind_eq_some_iff, Option.pure_def, Option.some.injEq] at ran
  obtain ⟨_, begins, _, handles, s₃, ends, rfl⟩ := ran
  have reached : Reachable Service.Starts
      (fun s s' => ∃ e, s.Orderly e ∧ s.after openPolicy e = some s') s₃ := by
    refine .step (.step (.step (.init freshService_starts) ⟨_, ?_, begins⟩) ⟨_, ?_, handles⟩)
      ⟨_, ?_, ends⟩
    · trivial
    · cases begins
      intro w there _
      refine ⟨?_, by decide, fun _ => ⟨[], rfl⟩⟩
      intro j served
      by_contra other
      exact served (update_of_ne other ..)
    · trivial
  exact ⟨s₃, reached, answers, Service.recorded_once_answered openPolicy reached⟩

end Vhsm
