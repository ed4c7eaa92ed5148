import MachineManager.Vhsm.Proto

/-!
# The handle table

Maps the handles that callers name to the keys behind them. Well-known handles are registered when
the daemon starts and belong to no caller; dynamic ones are allocated for the caller that generates
a key and are resolved for that caller only. The owner of a well-known handle is the empty text.
-/

namespace Vhsm

/-- An entry of the table. -/
structure HandleEntry where
  handle : UInt32
  keyId : String
  algorithm : UInt32
  permittedOps : UInt32
  ownerVmId : String
  persistent : Bool
  label : List UInt8
deriving DecidableEq

/-- The table, and the handle that is allocated next. -/
structure HandleTable where
  entries : List HandleEntry
  nextDynamic : UInt32
deriving DecidableEq

namespace HandleTable

def new : HandleTable :=
  { entries := [], nextDynamic := handleDynamicBase }

/-- The label of a well-known handle: the start of its key id, padded with zeros. -/
def labelOf (keyId : String) : List UInt8 :=
  let bytes := keyId.toUTF8.toList.take (labelLen - 1)
  bytes ++ List.replicate (labelLen - bytes.length) 0

/-- Register a well-known handle, unless it is out of range or taken. -/
def registerWellKnown (table : HandleTable) (handle : UInt32) (keyId : String)
    (algorithm permittedOps : UInt32) : HandleTable :=
  if !handleIsWellKnown handle || handle == handleInvalid then table
  else if table.entries.any (·.handle == handle) then table
  else
    { table with
      entries := table.entries ++
        [{ handle, keyId, algorithm, permittedOps, ownerVmId := "", persistent := true
           label := labelOf keyId }] }

/-- Allocate a dynamic handle, unless the table is full. The counter is a machine word and wraps. -/
def allocate (table : HandleTable) (keyId : String) (algorithm permittedOps : UInt32)
    (ownerVmId : String) (persistent : Bool) (label : List UInt8) : Option (UInt32 × HandleTable) :=
  if maxHandles ≤ table.entries.length then none
  else
    let handle := table.nextDynamic
    some (handle,
      { entries := table.entries ++
          [{ handle, keyId, algorithm, permittedOps, ownerVmId, persistent, label }]
        nextDynamic := table.nextDynamic + 1 })

def get (table : HandleTable) (handle : UInt32) : Option HandleEntry :=
  table.entries.find? (·.handle == handle)

/-- The entry of a handle, for one caller: an entry with an empty owner is everyone's. -/
def resolve (table : HandleTable) (handle : UInt32) (callerVmId : String) :
    Option HandleEntry :=
  match table.get handle with
  | none => none
  | some entry =>
    if entry.ownerVmId.isEmpty || entry.ownerVmId == callerVmId then some entry else none

/-- Release the handles of a caller that were not to outlive its connection. -/
def removeByVmId (table : HandleTable) (vmId : String) : HandleTable :=
  { table with
    entries := table.entries.filter fun e =>
      e.ownerVmId.isEmpty || e.ownerVmId != vmId || e.persistent }

/-! ### What the operations do to the entries -/

variable {table : HandleTable} {handle : UInt32} {entry : HandleEntry}

/-- A handle that is found is in the table under its number. -/
theorem mem_of_get (h : table.get handle = some entry) :
  entry ∈ table.entries ∧ entry.handle = handle
  := by
  have found := List.find?_some h
  simp only [beq_iff_eq] at found
  exact ⟨List.mem_of_find?_eq_some h, found⟩

/-- A handle resolves to its entry, which belongs to nobody or to the caller. -/
theorem resolve_eq_some {caller : String} (h : table.resolve handle caller = some entry) :
  table.get handle = some entry ∧ (entry.ownerVmId = "" ∨ entry.ownerVmId = caller)
  := by
  unfold resolve at h
  split at h
  · cases h
  next found entry_found =>
    split at h
    next owned =>
      cases h
      simp only [Bool.or_eq_true, String.isEmpty_iff, beq_iff_eq] at owned
      exact ⟨entry_found, owned⟩
    · cases h

/-- An allocation adds one entry, with the handle that is returned and the owner that was given. -/
theorem allocate_eq_some {table' : HandleTable} {keyId : String} {algorithm permittedOps : UInt32}
    {owner : String} {persistent : Bool} {label : List UInt8}
    (h : table.allocate keyId algorithm permittedOps owner persistent label =
      some (handle, table')) :
  ∃ entry : HandleEntry, entry.handle = handle ∧ entry.ownerVmId = owner ∧
    table'.entries = table.entries ++ [entry]
  := by
  unfold allocate at h
  split at h
  · cases h
  · cases h
    exact ⟨_, rfl, rfl, rfl⟩

/-- A registration only adds an entry that belongs to nobody, under a well-known handle. -/
theorem mem_registerWellKnown {keyId : String} {algorithm permittedOps : UInt32}
    (h : entry ∈ (table.registerWellKnown handle keyId algorithm permittedOps).entries) :
  entry ∈ table.entries ∨ (entry.ownerVmId = "" ∧ handleIsWellKnown entry.handle)
  := by
  unfold registerWellKnown at h
  split at h
  · exact .inl h
  next inRange =>
    split at h
    · exact .inl h
    · rcases List.mem_append.mp h with old | added
      · exact .inl old
      · cases List.mem_singleton.mp added
        simp only [Bool.or_eq_true, Bool.not_eq_true, not_or, Bool.not_eq_false'] at inRange
        exact .inr ⟨rfl, inRange.1⟩

/-- A release only takes entries away. -/
theorem mem_of_removeByVmId {vmId : String} (h : entry ∈ (table.removeByVmId vmId).entries) :
  entry ∈ table.entries
  := (List.mem_filter.mp h).1

end HandleTable

end Vhsm
