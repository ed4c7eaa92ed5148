import MachineManager.Vhsm.Serve

/-!
# Handles and restarts

When the daemon starts again, the records of the store are read in the order in which the directory
lists them, and each is given the next number. The keys stay with the provider under their old
numbers. If the numbers in the store have no gaps and are listed in order, every persistent handle
names the key that was made for it, before and after (`handles_survive_restarts`). Otherwise it
names nothing, or the key of another caller (`restart_swaps_keys`).
-/

open Asking Nat Option

namespace Vhsm

open HandleTable Bench Function List

/-- A key of the provider: by which request and for which caller it was made. -/
structure Material where
  serial : Nat
  owner : String
deriving DecidableEq

/-- The keys of the provider, by the number of the handle. -/
abbrev Keys : Type :=
  UInt32 → Option Material

/-- What a call does to the keys: a key that is made replaces the one under the same number. -/
def Keys.after (keys : Keys) (made : Material) (answers : (c : CryptoCall) → c.Answer) :
    CryptoCall → Keys
  | .generateKey handle algorithm =>
    match answers (.generateKey handle algorithm) with
    | .ok _ => update keys handle (some made)
    | .error _ => keys
  | _ => keys

/-- A provider that gives fixed answers, and files the keys that it makes under their numbers. -/
def filing (made : Material) (answers : (c : CryptoCall) → c.Answer) :
    Environment CryptoCall CryptoCall.Answer Keys :=
  fun c keys => (answers c, keys.after made answers c)

/-! ### The daemon -/

/-- A persistent handle as its caller knows it, and the request that it comes from. -/
structure Issued where
  owner : String
  handle : UInt32
  algorithm : UInt32
  permittedOps : UInt32
  serial : Nat

/-- The daemon with its store and the keys of its provider. On record are the requests that the
entries of the table and the records of the store come from, the number of the next request, and the
persistent handles that were returned. -/
structure KeyDaemon where
  table : HandleTable
  store : Secstore := fun _ => none
  keys : Keys := fun _ => none
  born : UInt32 → Option Nat := fun _ => none
  filed : UInt32 → Option Nat := fun _ => none
  serial : Nat := 0
  issued : List Issued := []

/-- The entry that a record is restored to, if the table has room. -/
def restoreRecord (table : HandleTable) (m : KeyMetadata) : Option (UInt32 × HandleTable) :=
  table.allocate m.keyId m.algorithm m.permittedOps m.ownerVmId m.persistent (labelOf m.label)

namespace KeyDaemon

/-- A file of the store is restored; the entry comes from the request of the record. -/
def restoreFile (d : KeyDaemon) (acc : HandleTable × (UInt32 → Option Nat)) (handle : UInt32) :
    HandleTable × (UInt32 → Option Nat) :=
  match (d.store handle).bind deserializeMetadata with
  | none => acc
  | some m =>
    match restoreRecord acc.1 m with
    | none => acc
    | some (number, table) => (table, update acc.2 number (d.filed handle))

/-- The daemon after a request. -/
def serve (iam : IamPolicy) (d : KeyDaemon) (caller : CallerId) (req : Request)
    (answers : (c : CryptoCall) → c.Answer) : KeyDaemon :=
  let made : Material := { serial := d.serial, owner := caller.vmId }
  let outcome := Asking.run (filing made answers) (handleRequest req caller d.table iam) d.keys
  let response := outcome.result.1
  let table := outcome.result.2.2
  let store := persistNew d.store table d.table.entries.length
  let added := addedEntry d.table table
  { table, store
    keys := outcome.env
    born := added.elim d.born fun e => update d.born e.handle (some d.serial)
    filed := added.elim d.filed fun e =>
      if e.persistent then update d.filed e.handle (some d.serial) else d.filed
    serial := d.serial + 1
    issued :=
      if req.Generates ∧ response.status = .ok ∧ req.persistent then
        { owner := caller.vmId
          handle := u32FromLeBytes response.payload 0
          algorithm := req.algorithm
          permittedOps := req.permittedOps
          serial := d.serial } :: d.issued
      else d.issued }

/-- The daemon after a connection closed. -/
def disconnect (d : KeyDaemon) (caller : CallerId) : KeyDaemon :=
  { d with table := d.table.removeByVmId caller.vmId }

/-- The daemon after it was started again, with the well-known handles of `initial` and the files of
the store in the order of the listing. -/
def restart (d : KeyDaemon) (initial : HandleTable) (listing : List UInt32) : KeyDaemon :=
  let restored := listing.foldl d.restoreFile (initial, fun _ => none)
  { d with table := restored.1, born := restored.2 }

end KeyDaemon

/-! ### Events -/

/-- What happens at the daemon: a request, the close of a connection, or a new start. -/
inductive KeyEvent
  | request (caller : CallerId) (req : Request) (answers : (c : CryptoCall) → c.Answer)
  | disconnect (caller : CallerId)
  | restart (initial : HandleTable) (listing : List UInt32)

namespace KeyDaemon

def after (iam : IamPolicy) (d : KeyDaemon) : KeyEvent → KeyDaemon
  | .request caller req answers => d.serve iam caller req answers
  | .disconnect caller => d.disconnect caller
  | .restart initial listing => d.restart initial listing

/-- A new start begins with well-known handles, and the directory lists every file once. -/
def Possible (d : KeyDaemon) : KeyEvent → Prop
  | .restart initial listing =>
    Registered initial ∧ listing.Nodup ∧ ∀ h, h ∈ listing ↔ d.store h ≠ none
  | _ => True

/-- A device on which no key was generated. -/
def Starts (d : KeyDaemon) : Prop :=
  Registered d.table ∧ d.store = (fun _ => none) ∧ d.keys = (fun _ => none) ∧ d.issued = []

/-- Every persistent handle that was returned resolves for its owner to what was asked for, and to
the key that was made for it; and whatever handle a caller can resolve, the key under it was made
for the caller, by the request that the entry comes from. -/
def Kept (d : KeyDaemon) : Prop :=
  (∀ g ∈ d.issued, ∃ e, d.table.resolve g.handle g.owner = some e ∧ e.algorithm = g.algorithm ∧
    e.permittedOps = g.permittedOps ∧
    d.keys g.handle = some { serial := g.serial, owner := g.owner }) ∧
  (∀ caller handle e m, d.table.resolve handle caller = some e → d.keys handle = some m →
    m.owner = caller ∧ d.born handle = some m.serial)

/-- Keys are generated under an identity that is not empty and not too long to be recorded, while
the numbers are not used up; when the provider fails, no old key is left under the number. At a new
start the numbers in the store have no gaps and are listed in order, and the table has room for
them. -/
def Orderly (d : KeyDaemon) : KeyEvent → Prop
  | .request caller req answers =>
    req.Generates → caller.vmId ≠ "" ∧ caller.vmId.utf8ByteSize < 65000 ∧
      d.table.nextDynamic.toNat + 1 < 2 ^ 32 ∧
      ((∃ pubkey, answers (.generateKey d.table.nextDynamic req.algorithm) = .ok pubkey) ∨
        d.keys d.table.nextDynamic = none)
  | .disconnect _ => True
  | .restart initial listing =>
    (∀ k h, listing[k]? = some h → h.toNat = handleDynamicBase.toNat + k) ∧
      initial.entries.length + listing.length ≤ maxHandles

end KeyDaemon

/-! ### What is restored -/

/-- The entry that a record is restored to under a number. -/
def KeyMetadata.entry (m : KeyMetadata) (handle : UInt32) : HandleEntry :=
  { handle
    keyId := m.keyId
    algorithm := m.algorithm
    permittedOps := m.permittedOps
    ownerVmId := m.ownerVmId
    persistent := m.persistent
    label := labelOf m.label }

/-- The entry that a file is restored to when it keeps its number. -/
def restoredEntry (store : Secstore) (handle : UInt32) : Option HandleEntry :=
  ((store handle).bind deserializeMetadata).map (·.entry handle)

namespace KeyDaemon

variable {d : KeyDaemon} {a : HandleTable × (UInt32 → Option Nat)} {table initial : HandleTable}
  {h : UInt32} {iam : IamPolicy} {old : HandleEntry}

/-- A file is restored under the next number. -/
theorem restoreFile_eq {m : KeyMetadata}
    (record : (d.store a.1.nextDynamic).bind deserializeMetadata = some m)
    (room : a.1.entries.length < maxHandles) :
  ∃ e, restoredEntry d.store a.1.nextDynamic = some e ∧ d.restoreFile a a.1.nextDynamic =
      (a.1.push e, update a.2 a.1.nextDynamic (d.filed a.1.nextDynamic))
  := by
  refine ⟨_, by rw [restoredEntry, record]; rfl, ?_⟩
  simp only [restoreFile, record, restoreRecord, allocate, if_neg (not_le.mpr room)]
  rfl

variable {listing : List UInt32} {e : HandleEntry} {req : Request} {caller : CallerId} {keys : Keys}
  {issued : List Issued}

/-- Files that are listed in order and without gaps keep their numbers. -/
theorem restore_in_order (inOrder : ∀ k h, listing[k]? = some h →
    h.toNat = a.1.nextDynamic.toNat + k)
    (readable : ∀ h ∈ listing, ∃ m, (d.store h).bind deserializeMetadata = some m)
    (room : a.1.entries.length + listing.length ≤ maxHandles)
    (left : a.1.nextDynamic.toNat + listing.length < 2 ^ 32) :
  let restored := listing.foldl d.restoreFile a
  restored.1.entries = a.1.entries ++ listing.filterMap (restoredEntry d.store) ∧
    restored.1.nextDynamic.toNat = a.1.nextDynamic.toNat + listing.length ∧
    ∀ h, restored.2 h = if h ∈ listing then d.filed h else a.2 h
  := by
  induction listing generalizing a with
  | nil => exact ⟨(append_nil _).symm, rfl, fun _ => rfl⟩
  | cons h _ ih =>
    obtain rfl : h = a.1.nextDynamic := UInt32.toNat_inj.mp (inOrder 0 h rfl)
    obtain ⟨m, record⟩ := readable _ mem_cons_self
    rw [length_cons] at room left
    obtain ⟨e, restored, eq⟩ := restoreFile_eq record (by omega)
    have next : (a.1.push e).nextDynamic.toNat = a.1.nextDynamic.toNat + 1 :=
      toNat_nextDynamic_push e (by omega)
    rw [foldl_cons, eq]
    obtain ⟨entries, number, origin⟩ := ih (a := (a.1.push e, _))
      (by
        intro k h' there
        rw [next, inOrder (k + 1) h' there]
        omega)
      (fun h' there => readable h' (mem_cons_of_mem _ there))
      (by rw [length_push]; omega) (by rw [next]; omega)
    refine ⟨?_, ?_, ?_⟩
    · rw [entries, filterMap_cons_some restored, push, append_assoc]
      rfl
    · rw [number, next, length_cons]
      omega
    · intro h'
      rw [origin]
      by_cases same : h' = a.1.nextDynamic
      · subst same
        simp [update_self]
      · simp [same]

/-! ### The invariant -/

/-- The store holds a record of the entry that can be read. -/
def Records (store : Secstore) (e : HandleEntry) : Prop :=
  ∃ m : KeyMetadata, store e.handle = some (serializeMetadata m) ∧ m.Short ∧
    m.algorithm = e.algorithm ∧ m.permittedOps = e.permittedOps ∧ m.ownerVmId = e.ownerVmId ∧
    m.persistent = true

/-- What holds in every state of an orderly run. An entry with an owner is a dynamic one. -/
structure Inv (d : KeyDaemon) : Prop where
  ranges : ∀ e ∈ d.table.entries, e.ownerVmId = "" ∧ e.handle.toNat < handleDynamicBase.toNat ∨
    e.ownerVmId ≠ "" ∧ handleDynamicBase.toNat ≤ e.handle.toNat ∧
    e.handle.toNat < d.table.nextDynamic.toNat
  distinct : ∀ e ∈ d.table.entries, ∀ e' ∈ d.table.entries, e.ownerVmId ≠ "" →
    e.handle = e'.handle → e = e'
  base : handleDynamicBase.toNat ≤ d.table.nextDynamic.toNat
  recorded : ∀ e ∈ d.table.entries, e.ownerVmId ≠ "" → e.persistent → Records d.store e
  backed : ∀ h, d.store h ≠ none → d.filed h = d.born h ∧
    ∃ e ∈ d.table.entries, e.handle = h ∧ e.ownerVmId ≠ "" ∧ e.persistent
  named : ∀ e ∈ d.table.entries, e.ownerVmId ≠ "" → ∀ m, d.keys e.handle = some m →
    m.owner = e.ownerVmId ∧ d.born e.handle = some m.serial
  unkeyed : ∀ h : UInt32, h.toNat < handleDynamicBase.toNat → d.keys h = none
  kept : ∀ g ∈ d.issued, d.keys g.handle = some { serial := g.serial, owner := g.owner } ∧
    ∃ e ∈ d.table.entries, e.handle = g.handle ∧ e.ownerVmId = g.owner ∧ e.ownerVmId ≠ "" ∧
      e.persistent ∧ e.algorithm = g.algorithm ∧ e.permittedOps = g.permittedOps

/-- An entry with an owner is found under its number. -/
theorem Inv.get_eq (inv : d.Inv) (mem : e ∈ d.table.entries) (owned : e.ownerVmId ≠ "") :
  d.table.get e.handle = some e
  := by
  cases found : d.table.get e.handle with
  | none =>
    have absent := find?_eq_none.mp found e mem
    exact absurd (beq_self_eq_true e.handle) absent
  | some e' =>
    obtain ⟨mem', same⟩ := mem_of_get found
    rw [inv.distinct e mem e' mem' owned same.symm]

/-- The handles are kept. -/
theorem Inv.isKept (inv : d.Inv) :
  d.Kept
  := by
  constructor
  · intro g issued
    obtain ⟨key, e, mem, handle, owner, owned, -, algorithm, permittedOps⟩ := inv.kept g issued
    refine ⟨e, ?_, algorithm, permittedOps, key⟩
    rw [← handle, ← owner, resolve, inv.get_eq mem owned]
    simp
  · intro caller handle e m resolved key
    obtain ⟨found, owner⟩ := resolve_eq_some resolved
    obtain ⟨mem, rfl⟩ := mem_of_get found
    rcases inv.ranges e mem with ⟨-, wellKnown⟩ | ⟨owned, -, -⟩
    · rw [inv.unkeyed _ wellKnown] at key
      cases key
    · obtain ⟨made, serial⟩ := inv.named e mem owned m key
      exact ⟨made.trans (owner.resolve_left owned), serial⟩

/-- A table with well-known handles only: nothing in it has an owner, and the counter is at its
beginning. -/
theorem shared_of_registered (registered : Registered table) :
  table.nextDynamic = handleDynamicBase ∧
    ∀ e ∈ table.entries, e.ownerVmId = "" ∧ e.handle.toNat < handleDynamicBase.toNat
  := by
  constructor
  · induction registered with
    | new => rfl
    | register _ _ _ _ _ ih =>
      unfold registerWellKnown
      split_ifs <;> exact ih
  · intro e mem
    rcases owned_of_registered registered e mem with ⟨shared, wellKnown⟩ | ⟨-, r, served, -⟩
    · simp only [handleIsWellKnown, Bool.and_eq_true, decide_eq_true_eq] at wellKnown
      exact ⟨shared, UInt32.lt_iff_toNat_lt.mp wellKnown.2⟩
    · cases served

/-- The invariant holds on a device on which no key was generated. -/
theorem Starts.inv (h : d.Starts) :
  d.Inv
  := by
  obtain ⟨registered, store, keys, issued⟩ := h
  obtain ⟨base, shared⟩ := shared_of_registered registered
  constructor
  case ranges => exact fun e mem => .inl (shared e mem)
  case distinct => exact fun e mem _ _ owned => absurd (shared e mem).1 owned
  case base => rw [base]
  case recorded => exact fun e mem owned => absurd (shared e mem).1 owned
  case backed =>
    intro h there
    rw [store] at there
    exact absurd rfl there
  case named => exact fun e mem owned => absurd (shared e mem).1 owned
  case unkeyed =>
    intro h _
    rw [keys]
  case kept =>
    intro g mem
    rw [issued] at mem
    cases mem

/-! ### The events keep the invariant -/

/-- A connection closes: persistent entries stay. -/
theorem Inv.disconnect (inv : d.Inv) (caller : CallerId) :
  (d.disconnect caller).Inv
  := by
  have older {e : HandleEntry} (mem : e ∈ (d.disconnect caller).table.entries) :
      e ∈ d.table.entries := mem_of_removeByVmId mem
  have stays {e : HandleEntry} (mem : e ∈ d.table.entries) (persistent : e.persistent) :
      e ∈ (d.disconnect caller).table.entries := by
    apply mem_filter.mpr ⟨mem, _⟩
    rw [persistent, Bool.or_true]
  constructor
  case ranges => exact fun e mem => inv.ranges e (older mem)
  case distinct => exact fun e mem e' mem' => inv.distinct e (older mem) e' (older mem')
  case base => exact inv.base
  case recorded => exact fun e mem => inv.recorded e (older mem)
  case backed =>
    intro h there
    obtain ⟨filed, e, mem, handle, owned, persistent⟩ := inv.backed h there
    exact ⟨filed, e, stays mem persistent, handle, owned, persistent⟩
  case named => exact fun e mem => inv.named e (older mem)
  case unkeyed => exact inv.unkeyed
  case kept =>
    intro g mem
    obtain ⟨key, e, there, handle, owner, owned, persistent, rest⟩ := inv.kept g mem
    exact ⟨key, e, stays there persistent, handle, owner, owned, persistent, rest⟩

/-- The record of a new entry can be read. -/
theorem short_metadata (short : caller.vmId.utf8ByteSize < 65000)
    (room : table.entries.length < maxHandles) :
  (newEntry req caller table).metadata.Short
  := by
  have digits : ∀ n < maxHandles, (toString n).utf8ByteSize ≤ 2 := by decide
  have count := digits _ room
  have label := utf8ByteSize_labelText_le ((req.payload.drop 12).take labelLen)
  have fixed : ((req.payload.drop 12).take labelLen).length ≤ 32 := length_take_le ..
  refine ⟨?_, ?_, ?_⟩
  · have size : ("gen-" ++ caller.vmId ++ "-" ++ toString table.entries.length).utf8ByteSize =
        "gen-".utf8ByteSize + caller.vmId.utf8ByteSize + "-".utf8ByteSize +
          (toString table.entries.length).utf8ByteSize := by
      rw [String.utf8ByteSize_append, String.utf8ByteSize_append, String.utf8ByteSize_append]
    have gen : "gen-".utf8ByteSize = 4 := rfl
    have dash : "-".utf8ByteSize = 1 := rfl
    simp only [HandleEntry.metadata, newEntry, size]
    omega
  · simp only [HandleEntry.metadata, newEntry]
    omega
  · simp only [HandleEntry.metadata, newEntry]
    omega

/-- The next number is not in use. -/
theorem Inv.fresh (inv : d.Inv) (mem : e ∈ d.table.entries) :
  e.handle ≠ d.table.nextDynamic
  := by
  intro same
  rcases inv.ranges e mem with ⟨-, wellKnown⟩ | ⟨-, -, older⟩
  · rw [same] at wellKnown
    exact absurd inv.base (not_le.mpr wellKnown)
  · rw [same] at older
    exact absurd older (lt_irrefl _)

/-- The daemon with a new entry, and with the keys and the issued handles that result. -/
def grown (d : KeyDaemon) (e : HandleEntry) (keys : Keys) (issued : List Issued) : KeyDaemon :=
  { table := d.table.push e
    store := if e.persistent then d.store.store e.metadata else d.store
    keys
    born := update d.born e.handle (some d.serial)
    filed := if e.persistent then update d.filed e.handle (some d.serial) else d.filed
    serial := d.serial + 1
    issued }

/-- A new entry changes the store under its own number only, and there only if it is persistent. -/
theorem store_grown (other : h ≠ e.handle) :
  (d.grown e keys issued).store h = d.store h ∧ (d.grown e keys issued).filed h = d.filed h
  := by
  unfold grown
  cases e.persistent with
  | false => exact ⟨rfl, rfl⟩
  | true => exact ⟨update_of_ne other .., update_of_ne other ..⟩

/-- A new persistent entry is recorded under its own number. -/
theorem store_grown_self (persistent : e.persistent = true) :
  (d.grown e keys issued).store e.handle = some (serializeMetadata e.metadata) ∧
    (d.grown e keys issued).filed e.handle = some d.serial
  := by
  unfold grown
  rw [persistent]
  constructor
  · exact update_self e.handle (some (serializeMetadata e.metadata)) d.store
  · exact update_self e.handle (some d.serial) d.filed

/-- A new entry that is not persistent is not recorded. -/
theorem store_grown_volatile (volatile : e.persistent = false) :
  (d.grown e keys issued).store = d.store
  := by
  simp only [grown, volatile, Bool.false_eq_true, if_false]

/-- A key is generated under a new handle. -/
theorem Inv.grows (inv : d.Inv) (owned : caller.vmId ≠ "")
    (short : caller.vmId.utf8ByteSize < 65000)
    (left : d.table.nextDynamic.toNat + 1 < 2 ^ 32) (room : d.table.entries.length < maxHandles)
    (others : ∀ h, h ≠ d.table.nextDynamic → keys h = d.keys h)
    (own : ∀ m, keys d.table.nextDynamic = some m →
      m = { serial := d.serial, owner := caller.vmId })
        (older : ∀ g ∈ issued, g ∈ d.issued ∨ req.persistent ∧
      g = { owner := caller.vmId, handle := d.table.nextDynamic, algorithm := req.algorithm
            permittedOps := req.permittedOps, serial := d.serial } ∧
      keys d.table.nextDynamic = some { serial := d.serial, owner := caller.vmId }) :
  (d.grown (newEntry req caller d.table) keys issued).Inv
  := by
  let e := newEntry req caller d.table
  have next : (d.table.push e).nextDynamic.toNat = d.table.nextDynamic.toNat + 1 :=
    toNat_nextDynamic_push e left
  have mem_new : e ∈ (d.table.push e).entries := mem_push.mpr (.inr rfl)
  constructor
  case ranges =>
    intro e' mem
    rcases mem_push.mp mem with old | rfl
    · refine (inv.ranges e' old).imp_right ?_
      rintro ⟨named, low, high⟩
      refine ⟨named, low, ?_⟩
      exact next ▸ lt_succ_of_lt high
    · exact .inr ⟨owned, inv.base, next ▸ lt_succ_self _⟩
  case distinct =>
    intro e₁ mem₁ e₂ mem₂ named same
    rcases mem_push.mp mem₁ with old₁ | rfl <;> rcases mem_push.mp mem₂ with old₂ | rfl
    · exact inv.distinct e₁ old₁ e₂ old₂ named same
    · exact absurd same (inv.fresh old₁)
    · exact absurd same.symm (inv.fresh old₂)
    · rfl
  case base => exact next ▸ le_succ_of_le inv.base
  case recorded =>
    intro e' mem named persistent
    rcases mem_push.mp mem with old | rfl
    · obtain ⟨m, stored, rest⟩ := inv.recorded e' old named persistent
      exact ⟨m, (store_grown (inv.fresh old)).1.trans stored, rest⟩
    · exact ⟨e.metadata, (store_grown_self persistent).1, short_metadata short room, rfl,
        rfl, rfl, rfl⟩
  case backed =>
    intro h there
    by_cases same : h = e.handle
    · subst same
      cases persistent : e.persistent with
      | true =>
        refine ⟨?_, e, mem_new, rfl, owned, persistent⟩
        exact (store_grown_self persistent).2.trans
          (update_self e.handle (some d.serial) d.born).symm
      | false =>
        rw [store_grown_volatile persistent] at there
        obtain ⟨-, _, mem, handle, -⟩ := inv.backed _ there
        exact absurd handle (inv.fresh mem)
    · rw [(store_grown same).1] at there
      obtain ⟨filed, e', mem, rest⟩ := inv.backed h there
      refine ⟨?_, e', mem_push.mpr (.inl mem), rest⟩
      exact ((store_grown same).2.trans filed).trans (update_of_ne same ..).symm
  case named =>
    intro e' mem named m key
    rcases mem_push.mp mem with old | rfl
    · obtain ⟨owner, serial⟩ := inv.named e' old named m ((others _ (inv.fresh old)).symm.trans key)
      exact ⟨owner, (update_of_ne (inv.fresh old) ..).trans serial⟩
    · obtain rfl := own m key
      exact ⟨rfl, update_self ..⟩
  case unkeyed =>
    intro h low
    refine (others h ?_).trans (inv.unkeyed h low)
    rintro rfl
    exact absurd inv.base (not_le.mpr low)
  case kept =>
    intro g mem
    rcases older g mem with before | ⟨persistent, rfl, key⟩
    · obtain ⟨key, e', there, handle, rest⟩ := inv.kept g before
      refine ⟨?_, e', mem_push.mpr (.inl there), handle, rest⟩
      exact (others _ (handle ▸ inv.fresh there)).trans key
    · exact ⟨key, e, mem_new, rfl, rfl, owned, persistent, rfl, rfl⟩

/-- The provider leaves the keys as they are unless it makes one. -/
theorem filing_quiet (made : Material) (answers : (c : CryptoCall) → c.Answer) (c : CryptoCall)
    (keys : Keys) (other : ¬ c.Makes) :
  (filing made answers c keys).2 = keys
  := by
  cases c with
  | generateKey => exact absurd trivial other
  | _ => rfl

/-- A key is generated with success if the provider has made it. -/
theorem status_ofNewKey {handle : UInt32} {answer : Except HsmError (List UInt8)} :
  (Response.ofNewKey req handle answer).status = .ok ↔ answer.toOption.isSome
  := by
  rcases answer with (_ | _ | _) | _
  · exact ⟨nofun, nofun⟩
  · exact ⟨nofun, nofun⟩
  · exact ⟨nofun, nofun⟩
  · exact ⟨fun _ => rfl, fun _ => rfl⟩

/-- A persistent handle as it is returned. -/
def issuedTo (d : KeyDaemon) (caller : CallerId) (req : Request) : Issued :=
  { owner := caller.vmId
    handle := d.table.nextDynamic
    algorithm := req.algorithm
    permittedOps := req.permittedOps
    serial := d.serial }

/-- All that a request can do: leave everything as it is, or have a key made under a new handle. -/
theorem serve_cases (iam : IamPolicy) (d : KeyDaemon) (caller : CallerId) (req : Request)
    (answers : (c : CryptoCall) → c.Answer) :
  let answer := answers (.generateKey d.table.nextDynamic req.algorithm)
  let made : Material := { serial := d.serial, owner := caller.vmId }
  d.serve iam caller req answers = { d with serial := d.serial + 1 } ∨
    req.Generates ∧ d.table.entries.length < maxHandles ∧
      d.serve iam caller req answers =
        d.grown (newEntry req caller d.table)
          (d.keys.after made answers (.generateKey d.table.nextDynamic req.algorithm))
          (if answer.toOption.isSome ∧ req.persistent then d.issuedTo caller req :: d.issued
            else d.issued)
  := by
  intro answer made
  have handled :
      let outcome :=
        Asking.run (filing made answers) (handleRequest req caller d.table iam) d.keys
      Handled (filing made answers) d.keys req caller d.table
        outcome.result.1 outcome.result.2.2 outcome.env :=
    handled_handleRequest (filing_quiet made answers) d.keys
  dsimp only [serve] at handled ⊢
  generalize (Asking.run (filing made answers) (handleRequest req caller d.table iam)
    d.keys).result = result at handled ⊢
  generalize (Asking.run (filing made answers) (handleRequest req caller d.table iam) d.keys).env =
    keys at handled ⊢
  obtain ⟨_, _, table⟩ := result
  dsimp only at handled ⊢
  cases handled with
  | keeps refused =>
    left
    rw [addedEntry_self, persistNew_self, if_neg fun h => refused h.1 h.2.1]
    rfl
  | adds generates room =>
    refine .inr ⟨generates, room, ?_⟩
    rw [addedEntry_push, persistNew_of_last (length_push ..).symm getLast?_concat]
    congr 1
    by_cases made : answer.toOption.isSome ∧ req.persistent
    · have ok : (Response.ofNewKey req d.table.nextDynamic answer).status = .ok :=
        status_ofNewKey.mpr made.1
      rw [if_pos made, if_pos ⟨generates, ok, made.2⟩]
      have returned := Service.returned_of_ok ok
      exact congrArg (fun h => { d.issuedTo caller req with handle := h } :: d.issued) returned.symm
    · rw [if_neg made, if_neg fun h => made ⟨status_ofNewKey.mp h.2.1, h.2.2⟩]

/-- A request is served. -/
theorem Inv.serve {answers : (c : CryptoCall) → c.Answer} (inv : d.Inv)
    (orderly : d.Orderly (.request caller req answers)) :
  (d.serve iam caller req answers).Inv
  := by
  rcases serve_cases iam d caller req answers with kept | ⟨generates, room, grown⟩
  · rw [kept]
    exact ⟨inv.ranges, inv.distinct, inv.base, inv.recorded, inv.backed, inv.named,
      inv.unkeyed, inv.kept⟩
  · rw [grown]
    obtain ⟨owned, short, left, available⟩ := orderly generates
    cases answer : answers (.generateKey d.table.nextDynamic req.algorithm) with
    | ok =>
      simp only [Keys.after, answer]
      apply inv.grows owned short left room
      · exact fun h other => update_of_ne other ..
      · intro m key
        rw [update_self] at key
        exact (some.inj key).symm
      · intro g mem
        split_ifs at mem with persistent
        · rcases mem_cons.mp mem with rfl | before
          · exact .inr ⟨persistent.2, rfl, update_self ..⟩
          · exact .inl before
        · exact .inl mem
    | error =>
      simp only [Keys.after, answer]
      have unkeyed : d.keys d.table.nextDynamic = none := by
        apply available.resolve_left
        rintro ⟨pubkey, made⟩
        rw [made] at answer
        cases answer
      apply inv.grows owned short left room
      · exact fun h _ => rfl
      · intro m key
        rw [unkeyed] at key
        cases key
      · intro g mem
        rw [if_neg fun h => Bool.noConfusion h.1] at mem
        exact .inl mem

/-- The entry has an owner and outlives the connection of its owner. -/
def Lasting (d : KeyDaemon) (e : HandleEntry) : Prop :=
  e ∈ d.table.entries ∧ e.ownerVmId ≠ "" ∧ e.persistent

/-- The entry is that of another, for all that its caller sees of it. -/
structure Like (e old : HandleEntry) : Prop where
  handle : e.handle = old.handle
  owner : e.ownerVmId = old.ownerVmId
  persistent : e.persistent = old.persistent
  algorithm : e.algorithm = old.algorithm
  permittedOps : e.permittedOps = old.permittedOps

theorem Records.like {store : Secstore} (recorded : Records store old) (like : Like e old) :
  Records store e
  := by
  obtain ⟨m, stored, short, algorithm, permittedOps, owner, persistent⟩ := recorded
  exact ⟨m, like.handle ▸ stored, short, algorithm.trans like.algorithm.symm,
    permittedOps.trans like.permittedOps.symm, owner.trans like.owner.symm, persistent⟩

/-- The record of a lasting entry is restored to an entry like it. -/
theorem Inv.restored (inv : d.Inv) (lasting : d.Lasting old) :
  d.store old.handle ≠ none ∧ ∃ e, restoredEntry d.store old.handle = some e ∧ Like e old
  := by
  obtain ⟨mem, owned, persistent⟩ := lasting
  obtain ⟨m, stored, short, algorithm, permittedOps, owner, isPersistent⟩ :=
    inv.recorded old mem owned persistent
  constructor
  · rw [stored]
    nofun
  · refine ⟨m.entry old.handle, ?_, rfl, owner, isPersistent.trans persistent.symm,
      algorithm, permittedOps⟩
    rw [restoredEntry, stored, bind_some, deserializeMetadata_serializeMetadata short]
    rfl

/-- What a new start leaves of a daemon: the lasting entries, under their numbers. -/
structure Restarted (d d' : KeyDaemon) : Prop where
  base : handleDynamicBase.toNat ≤ d'.table.nextDynamic.toNat
  entries : ∀ e ∈ d'.table.entries, e.ownerVmId = "" ∧ e.handle.toNat < handleDynamicBase.toNat ∨
    ∃ old, d.Lasting old ∧ restoredEntry d.store old.handle = some e ∧ Like e old
  lasting : ∀ old, d.Lasting old → (∃ e ∈ d'.table.entries, Like e old) ∧
    handleDynamicBase.toNat ≤ old.handle.toNat ∧ old.handle.toNat < d'.table.nextDynamic.toNat ∧
    d'.born old.handle = d.filed old.handle

/-- The numbers of the store are listed without gaps and in order. -/
theorem Inv.restarted (inv : d.Inv) (possible : d.Possible (.restart initial listing))
    (orderly : d.Orderly (.restart initial listing)) :
  Restarted d (d.restart initial listing)
  := by
  obtain ⟨registered, -, listed⟩ := possible
  obtain ⟨inOrder, room⟩ := orderly
  obtain ⟨first, shared⟩ := shared_of_registered registered
  have backing {h : UInt32} (mem : h ∈ listing) : ∃ old, d.Lasting old ∧ old.handle = h := by
    obtain ⟨-, old, there, handle, owned, persistent⟩ := inv.backed h ((listed h).mp mem)
    exact ⟨old, ⟨there, owned, persistent⟩, handle⟩
  have readable (h : UInt32) (mem : h ∈ listing) :
      ∃ m, (d.store h).bind deserializeMetadata = some m := by
    obtain ⟨_, lasting, rfl⟩ := backing mem
    obtain ⟨-, e, restored, -⟩ := inv.restored lasting
    obtain ⟨m, record, -⟩ := map_eq_some_iff.mp restored
    exact ⟨m, record⟩
  have left : initial.nextDynamic.toNat + listing.length < 2 ^ 32 := by
    have few : listing.length ≤ 64 := Nat.le_trans (Nat.le_add_left ..) room
    have base : handleDynamicBase.toNat = 256 := rfl
    rw [first]
    omega
  obtain ⟨entries, next, origin⟩ := restore_in_order (d := d) (a := (initial, fun _ => none))
    (by rwa [first]) readable room left
  have number : (d.restart initial listing).table.nextDynamic.toNat =
      handleDynamicBase.toNat + listing.length := first ▸ next
  constructor
  case base => exact number ▸ Nat.le_add_right ..
  case entries =>
    intro e mem
    rcases mem_append.mp (entries ▸ mem) with known | restored
    · exact .inl (shared e known)
    · obtain ⟨h, mem, restored⟩ := mem_filterMap.mp restored
      obtain ⟨old, lasting, rfl⟩ := backing mem
      obtain ⟨-, _, restored', like⟩ := inv.restored lasting
      obtain rfl := some.inj (restored'.symm.trans restored)
      exact .inr ⟨old, lasting, restored, like⟩
  case lasting =>
    intro old lasting
    obtain ⟨there, e, restored, like⟩ := inv.restored lasting
    have mem := (listed old.handle).mpr there
    obtain ⟨k, short, isNth⟩ := getElem_of_mem mem
    have nth := inOrder k old.handle (isNth ▸ getElem?_eq_getElem short)
    refine ⟨⟨e, ?_, like⟩, ?_, ?_, ?_⟩
    · apply entries ▸ mem_append.mpr (.inr _)
      exact mem_filterMap.mpr ⟨old.handle, mem, restored⟩
    · omega
    · omega
    · exact (origin old.handle).trans (if_pos mem)

/-- The daemon starts again. -/
theorem Inv.restart (inv : d.Inv) (possible : d.Possible (.restart initial listing))
    (orderly : d.Orderly (.restart initial listing)) :
  (d.restart initial listing).Inv
  := by
  obtain ⟨base, entries, lasts⟩ := inv.restarted possible orderly
  have born {old : HandleEntry} (lasting : d.Lasting old) :
      d.filed old.handle = d.born old.handle :=
    (inv.backed old.handle (inv.restored lasting).1).1
  have older {e : HandleEntry} (mem : e ∈ (d.restart initial listing).table.entries)
      (owned : e.ownerVmId ≠ "") :
      ∃ old, d.Lasting old ∧ restoredEntry d.store old.handle = some e ∧ Like e old :=
    (entries e mem).resolve_left fun known => owned known.1
  constructor
  case base => exact base
  case unkeyed => exact inv.unkeyed
  case ranges =>
    intro e mem
    refine (entries e mem).imp_right ?_
    rintro ⟨old, lasting, -, like⟩
    obtain ⟨-, low, high, -⟩ := lasts old lasting
    rw [like.handle, like.owner]
    exact ⟨lasting.2.1, low, high⟩
  case distinct =>
    intro e mem e' mem' owned same
    obtain ⟨old, lasting, restored, like⟩ := older mem owned
    rcases entries e' mem' with ⟨-, wellKnown⟩ | ⟨_, _, restored', like'⟩
    · rw [← same, like.handle] at wellKnown
      exact absurd (lasts old lasting).2.1 (not_le.mpr wellKnown)
    · rw [like.handle, like'.handle] at same
      rw [same, restored'] at restored
      exact (some.inj restored).symm
  case recorded =>
    intro e mem owned persistent
    obtain ⟨old, ⟨there, owned', persistent'⟩, -, like⟩ := older mem owned
    exact (inv.recorded old there owned' persistent').like like
  case backed =>
    intro h there
    obtain ⟨_, old, mem, rfl, owned, persistent⟩ := inv.backed h there
    obtain ⟨⟨e, mem', like⟩, -, -, origin⟩ := lasts old ⟨mem, owned, persistent⟩
    exact ⟨origin.symm, e, mem', like.handle, like.owner ▸ owned, like.persistent.trans persistent⟩
  case named =>
    intro e mem owned m key
    obtain ⟨old, lasting, -, like⟩ := older mem owned
    rw [like.handle] at key ⊢
    obtain ⟨made, serial⟩ := inv.named old lasting.1 lasting.2.1 m key
    obtain ⟨-, -, -, origin⟩ := lasts old lasting
    exact ⟨made.trans like.owner.symm, origin.trans ((born lasting).trans serial)⟩
  case kept =>
    intro g issued
    obtain ⟨key, old, mem, handle, owner, owned, persistent, algorithm, permittedOps⟩ :=
      inv.kept g issued
    obtain ⟨⟨e, mem', like⟩, -⟩ := lasts old ⟨mem, owned, persistent⟩
    exact ⟨key, e, mem', like.handle.trans handle, like.owner.trans owner, like.owner ▸ owned,
      like.persistent.trans persistent, like.algorithm.trans algorithm,
      like.permittedOps.trans permittedOps⟩

/-- Every orderly event keeps the invariant. -/
theorem Inv.after {e : KeyEvent} (inv : d.Inv) (possible : d.Possible e) (orderly : d.Orderly e) :
  (d.after iam e).Inv
  := by
  cases e with
  | request => exact inv.serve orderly
  | disconnect caller => exact inv.disconnect caller
  | restart => exact inv.restart possible orderly

/-- In every orderly run, every persistent handle names the key that was made for it, and no caller
resolves a handle to the key of another. -/
theorem handles_survive_restarts (iam : IamPolicy) {d : KeyDaemon}
    (reached : Reachable Starts (fun d d' => ∃ e, d.Possible e ∧ d.Orderly e ∧
      d.after iam e = d') d) :
  d.Kept
  := by
  have inv : d.Inv := by
    refine reached.invariant ?_ ?_
    · intro d starts
      exact starts.inv
    · rintro d d' inv ⟨e, possible, orderly, rfl⟩
      exact inv.after possible orderly
  exact inv.isKept

/-- A request changes the store at most under the next number. -/
theorem store_serve_of_ne (iam : IamPolicy) (caller : CallerId) (req : Request)
    (answers : (c : CryptoCall) → c.Answer) (other : h ≠ d.table.nextDynamic) :
  (d.serve iam caller req answers).store h = d.store h
  := by
  rcases serve_cases iam d caller req answers with kept | ⟨-, -, grown⟩
  · rw [kept]
  · rw [grown]
    exact (store_grown other).1

end KeyDaemon

/-! ### Runs with a new start -/

namespace Bench

def unusedDaemon : KeyDaemon :=
  { table := .new }

theorem unusedDaemon_starts :
  unusedDaemon.Starts
  := ⟨.new, rfl, rfl, rfl⟩

/-- A caller has generated a key under a handle that is not persistent. -/
def oneKey : KeyDaemon :=
  unusedDaemon.serve openPolicy { vmId := "vm1" } mint granting

/-- Another caller has then generated a key under a persistent handle. -/
def twoKeys : KeyDaemon :=
  oneKey.serve openPolicy { vmId := "vm2" } mintPersistent granting

theorem listed_twoKeys (h : UInt32) :
  h ∈ [(0x101 : UInt32)] ↔ twoKeys.store h ≠ none
  := by
  rw [mem_singleton]
  by_cases second : h = 0x101
  · subst second
    refine iff_of_true rfl ?_
    decide +kernel
  · refine iff_of_false second (not_not_intro ?_)
    have next : oneKey.table.nextDynamic = 0x101 := by decide +kernel
    rw [twoKeys, KeyDaemon.store_serve_of_ne _ _ _ _ (next ▸ second)]
    by_cases first : h = 0x100
    · subst first
      decide +kernel
    · rw [oneKey, KeyDaemon.store_serve_of_ne _ _ _ _ first]
      rfl

def oneLasting : KeyDaemon :=
  unusedDaemon.serve openPolicy { vmId := "vm1" } mintPersistent granting

theorem listed_oneLasting (h : UInt32) :
  h ∈ [(0x100 : UInt32)] ↔ oneLasting.store h ≠ none
  := by
  rw [mem_singleton]
  by_cases first : h = 0x100
  · subst first
    refine iff_of_true rfl ?_
    decide +kernel
  · refine iff_of_false first (not_not_intro ?_)
    rw [oneLasting, KeyDaemon.store_serve_of_ne _ _ _ _ first]
    rfl

end Bench

/-- A caller generates a key, another one a key under a persistent handle, and the daemon is started
again: the second handle is given the number of the first. The second caller no longer finds its
key, and under the other number it finds that of the first caller. -/
theorem restart_swaps_keys :
  ∃ d : KeyDaemon, Reachable KeyDaemon.Starts
      (fun d d' => ∃ e, d.Possible e ∧ d.after openPolicy e = d') d ∧
    d.issued.map (fun g => (g.owner, g.handle)) = [("vm2", 0x101)] ∧
    d.table.resolve 0x101 "vm2" = none ∧ (d.table.resolve 0x100 "vm2").isSome ∧
    d.keys 0x100 = some { serial := 0, owner := "vm1" } ∧ ¬ d.Kept
  := by
  let d := twoKeys.restart .new [0x101]
  have reached : Reachable KeyDaemon.Starts
      (fun d d' => ∃ e, d.Possible e ∧ d.after openPolicy e = d') d := by
    refine .step (.step (.step (.init unusedDaemon_starts)
      ⟨.request { vmId := "vm1" } mint granting, ?_, rfl⟩)
      ⟨.request { vmId := "vm2" } mintPersistent granting, ?_, rfl⟩)
      ⟨.restart .new [0x101], ?_, rfl⟩
    · trivial
    · trivial
    · exact ⟨.new, by decide, listed_twoKeys⟩
  have resolved : (d.table.resolve 0x100 "vm2").isSome := by decide +kernel
  have key : d.keys 0x100 = some { serial := 0, owner := "vm1" } := by decide +kernel
  refine ⟨d, reached, by decide +kernel, by decide +kernel, resolved, key, ?_⟩
  rintro ⟨-, own⟩
  obtain ⟨e, found⟩ := Option.isSome_iff_exists.mp resolved
  obtain ⟨made, -⟩ := own "vm2" 0x100 e _ found key
  exact absurd made (by decide)

/-- A persistent handle that is alone in the store survives a new start. -/
theorem lasting_handle_survives :
  ∃ d : KeyDaemon, Reachable KeyDaemon.Starts
      (fun d d' => ∃ e, d.Possible e ∧ d.Orderly e ∧ d.after openPolicy e = d') d ∧
    d.issued.map (fun g => (g.owner, g.handle)) = [("vm1", 0x100)] ∧ d.Kept
  := by
  let d := oneLasting.restart .new [0x100]
  have reached : Reachable KeyDaemon.Starts
      (fun d d' => ∃ e, d.Possible e ∧ d.Orderly e ∧ d.after openPolicy e = d') d := by
    refine .step (.step (.init unusedDaemon_starts)
      ⟨.request { vmId := "vm1" } mintPersistent granting, ?_, ?_, rfl⟩)
      ⟨.restart .new [0x100], ?_, ?_, rfl⟩
    · trivial
    · intro _
      exact ⟨by decide, by decide, by decide, .inl ⟨[], rfl⟩⟩
    · exact ⟨.new, by decide, listed_oneLasting⟩
    · refine ⟨?_, by decide⟩
      rintro (_ | k) h listed
      · cases listed
        rfl
      · cases listed
  exact ⟨d, reached, by decide +kernel, KeyDaemon.handles_survive_restarts openPolicy reached⟩

end Vhsm
