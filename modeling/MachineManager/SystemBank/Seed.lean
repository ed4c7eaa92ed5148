import MachineManager.SystemBank.Cache

/-!
# The seed of the boot vector

At every start the boot vector is seeded from the boot states in NV. An empty vector gets a row for
every component at its floor, the bank that NV has committed; this is sealed and committed, and then
the components that NV has on trial are sealed at their active banks. A vector that has rows only
gets those that are missing, and none while it is on trial. A vector without a committed copy is
taken for a seed that was stopped, if its rows are at the floor.

The seed leaves rows alone that are there, unless there are none in the primary copy.
-/

namespace SystemBank

open Selector Call Nv SystemBankManager InMemory InMemorySelectorStore

/-- The bank that NV has committed. -/
def nvFloor (nv : BankBootState) : Bank :=
  if nv.committed then nv.activeBank else nv.activeBank.other

namespace SystemBankManager

variable (m : SystemBankManager)

/-- No component has a row. -/
def isEmpty : Bool :=
  m.current.isEmpty

/-- The components without a row. -/
def missingEntries (ids : List String) : List String :=
  ids.filter fun id => !m.current.contains id

/-- The vector has rows, but no committed copy. -/
def unanchored : Bool :=
  !m.isEmpty && m.committedGeneration == 0

/-- The listed components that do not stand at their floor. -/
def standing (entries : List (String × BankBootState)) : List (String × BankBootState) :=
  entries.filter fun e => (m.activeBank e.1).any (· != nvFloor e.2)

/-- The listed components that the seed adds. -/
def added (entries : List (String × BankBootState)) : List (String × BankBootState) :=
  if m.isEmpty then entries
  else entries.filter fun e => e.1 ∈ m.missingEntries (entries.map (·.1))

/-- The components that NV has on trial, with their active banks. -/
def rearm (unanchored : Bool) (entries added : List (String × BankBootState)) : List
    (String × Bank) :=
  if unanchored then
    (entries.filter fun e => !e.2.committed && m.activeBank e.1 == some (nvFloor e.2)).map
      fun e => (e.1, e.2.activeBank)
  else (added.filter fun e => !e.2.committed).map fun e => (e.1, e.2.activeBank)

end SystemBankManager

section Calls

variable {σ : Type} (κ : Signing) (S T : SelectorStore σ)

def stageAll : List (String × Bank) → Call (Running σ) SelectorError Unit
  | [] => pure ()
  | (id, bank) :: rest => do
    stage id bank ∅
    stageAll rest

/-- Rows are staged and sealed; nothing is sealed if nothing is staged. -/
def sealRows (rows : List (String × Bank)) : Call (Running σ) SelectorError Unit := do
  stageAll rows
  let _ ← sealPending κ S none
  return ()

/-- The added components are sealed at their floors and committed, and then those on trial are
sealed at their active banks. The store may meet other faults when it comes to these. -/
def seedRows (unanchored : Bool) (entries added : List (String × BankBootState)) :
    Call (Running σ) SelectorError Unit := do
  sealRows κ S (added.map fun e => (e.1, nvFloor e.2))
  commit S
  let n ← get
  sealRows κ T (n.manager.rearm unanchored entries added)

def seedSelector (entries : List (String × BankBootState)) : Call
    (Running σ) SelectorError Unit := do
  let n ← get
  let sb := n.manager
  if sb.unanchored ∧ sb.standing entries ≠ [] then return ()
  else if !sb.unanchored ∧ entries.all (fun e => sb.activeBank e.1 == some e.2.activeBank) then
    return ()
  else if !sb.isEmpty ∧ !sb.unanchored ∧
      (sb.missingEntries (entries.map (·.1)) = [] ∨ sb.isTrial) then return ()
  else seedRows κ S T sb.unanchored entries (sb.added entries)

end Calls

/-! ### Rows -/

/-- Rows without images are put into a selection. -/
def insertRows (e : Entries) (rows : List (String × Bank)) : Entries :=
  rows.foldl (fun e row => e.insert row.1 { bank := row.2 }) e

/-- The selection in which every listed component has the bank that `bank` says. -/
def selectionOf (bank : BankBootState → Bank) (entries : List (String × BankBootState)) : Entries :=
  insertRows ∅ (entries.map fun e => (e.1, bank e.2))

variable {e : Entries} {entries : List (String × BankBootState)}

section Rows

variable {rows : List (String × Bank)} {id : String}

open List

/-- Rows of other components leave a row alone. -/
theorem getElem?_insertRows_of_not_mem (h : ∀ row ∈ rows, row.1 ≠ id) :
  (insertRows e rows)[id]? = e[id]?
  := by
  induction rows generalizing e with
  | nil => rfl
  | cons row _ ih =>
    have ne : compare row.1 id ≠ .eq :=
      fun same => h row mem_cons_self (Std.LawfulEqCmp.eq_of_compare same)
    rw [insertRows, foldl_cons]
    refine (ih fun row' mem => h row' (mem_cons_of_mem _ mem)).trans ?_
    rw [Std.ExtTreeMap.getElem?_insert, if_neg ne]

theorem getElem?_insertRows_of_mem (distinct : (rows.map (·.1)).Nodup) {row : String × Bank}
    (mem : row ∈ rows) :
  (insertRows e rows)[row.1]? = some { bank := row.2 }
  := by
  induction rows generalizing e with
  | nil => cases mem
  | cons _ _ ih =>
    rw [map_cons, nodup_cons] at distinct
    rw [insertRows, foldl_cons]
    rcases mem_cons.mp mem with rfl | mem
    · refine (getElem?_insertRows_of_not_mem ?_).trans Std.ExtTreeMap.getElem?_insert_self
      intro row' mem' same
      apply distinct.1
      rw [← same]
      apply mem_map_of_mem mem'
    · apply ih distinct.2 mem

variable (distinct : (entries.map (·.1)).Nodup)
  {bank : BankBootState → Bank} {p : String × BankBootState → Bool}

include distinct

variable {listed : String × BankBootState}

/-- The rows of some of the listed components. -/
theorem getElem?_insertRows_filter (mem : listed ∈ entries) (chosen : p listed = true) :
  (insertRows e ((entries.filter p).map fun e => (e.1, bank e.2)))[listed.1]? =
    some { bank := bank listed.2 }
  := by
  have keys : (((entries.filter p).map fun e => (e.1, bank e.2)).map (·.1)).Nodup := by
    rw [map_map]
    exact (filter_sublist.map _).nodup distinct
  exact getElem?_insertRows_of_mem keys
    (mem_map_of_mem (f := fun e => (e.1, bank e.2)) (List.mem_filter.mpr ⟨mem, chosen⟩))

/-- A seeded selection has the bank of every component that is listed. -/
theorem getElem?_selectionOf (mem : listed ∈ entries) :
  (selectionOf bank entries)[listed.1]? = some { bank := bank listed.2 }
  := by
  have keys : ((entries.map fun e => (e.1, bank e.2)).map (·.1)).Nodup := by
    rw [map_map]
    exact distinct
  exact getElem?_insertRows_of_mem keys (mem_map_of_mem (f := fun e => (e.1, bank e.2)) mem)

omit distinct

theorem getElem?_insertRows_filter_of_not
    (h : ∀ listed ∈ entries, listed.1 = id → p listed = false) :
  (insertRows e ((entries.filter p).map fun e => (e.1, bank e.2)))[id]? = e[id]?
  := by
  apply getElem?_insertRows_of_not_mem
  intro row mapped same
  obtain ⟨listed, filtered, rfl⟩ := List.mem_map.mp mapped
  obtain ⟨mem, chosen⟩ := List.mem_filter.mp filtered
  cases (h listed mem same).symm.trans chosen

theorem getElem?_selectionOf_of_not_mem (h : ∀ listed ∈ entries, listed.1 ≠ id) :
  (selectionOf bank entries)[id]? = none
  := by
  refine (getElem?_insertRows_of_not_mem ?_).trans Std.ExtTreeMap.getElem?_empty
  intro row mapped
  obtain ⟨listed, mem, rfl⟩ := List.mem_map.mp mapped
  apply h listed mem

end Rows

/-! ### What the seed does -/

variable {κ : Signing} {res : Ending SelectorError Unit}

section Seeds

variable {σ : Type} {S T : SelectorStore σ} {n : Running σ}

namespace SystemBankManager

variable (m : SystemBankManager) (rows : List (String × Bank))

/-- The manager with rows in its staged selection. -/
def withRows : SystemBankManager :=
  if rows = [] then m else { m with pending := some (insertRows (m.pending.getD m.current) rows) }

@[simp]
theorem withRows_current :
  (m.withRows rows).current = m.current
  := by
  rw [withRows]
  split <;> rfl

@[simp]
theorem withRows_generation :
  (m.withRows rows).generation = m.generation
  := by
  rw [withRows]
  split <;> rfl

@[simp]
theorem withRows_committedGeneration :
  (m.withRows rows).committedGeneration = m.committedGeneration
  := by
  rw [withRows]
  split <;> rfl

/-- Staged rows come on top of what is staged, or else of what boots. -/
theorem withRows_pending :
  (m.withRows rows).pending =
    if rows = [] then m.pending else some (insertRows (m.pending.getD m.current) rows)
  := by
  rw [withRows]
  split <;> rfl

end SystemBankManager

theorem stageAll_eq (rows : List (String × Bank)) :
  stageAll rows n = (.ok (), { n with manager := n.manager.withRows rows })
  := by
  induction rows generalizing n with
  | nil => rfl
  | cons row rest ih =>
    rw [stageAll]
    have first : stage row.1 row.2 ∅ n =
        (.ok (), { n with manager := n.manager.withStaged row.1 { bank := row.2 } }) := rfl
    rw [run_bind_ok first, ih]
    cases rest <;> rfl

/-- The seed writes nothing. -/
def SystemBankManager.Settled (m : SystemBankManager)
    (entries : List (String × BankBootState)) : Prop :=
  (m.unanchored = true ∧ m.standing entries ≠ []) ∨
  (m.unanchored = false ∧ (entries.all fun e => m.activeBank e.1 == some e.2.activeBank) = true) ∨
  (m.isEmpty = false ∧ m.unanchored = false ∧
    (m.missingEntries (entries.map (·.1)) = [] ∨ m.isTrial = true))

/-- A seed of a settled vector returns at once. -/
theorem seedSelector_settled (settled : n.manager.Settled entries) :
  seedSelector κ S T entries n = (.ok (), n)
  := by
  rw [seedSelector, run_get_bind, run_ite, run_ite, run_ite]
  rcases settled with standing | ⟨anchored, matching⟩ | ⟨filled, anchored, complete⟩
  · rw [if_pos standing]
    rfl
  · rw [if_neg (by simp [anchored]), if_pos (by simpa [anchored] using matching)]
    rfl
  · rw [if_neg (by simp [anchored])]
    split
    · rfl
    · rw [if_pos (by simpa [anchored, filled] using complete)]
      rfl

theorem seedSelector_unsettled (unsettled : ¬n.manager.Settled entries) :
  seedSelector κ S T entries n = seedRows κ S T n.manager.unanchored entries
    (n.manager.added entries) n
  := by
  rw [SystemBankManager.Settled, not_or, not_or] at unsettled
  obtain ⟨baseline, differing, owing⟩ := unsettled
  rw [seedSelector, run_get_bind, run_ite, run_ite, run_ite, if_neg baseline,
    if_neg (by simpa using differing), if_neg (by simpa using owing)]

variable (κ S) in
/-- What becomes of rows that are staged and sealed. -/
inductive RowsSealed (rows : List (String × Bank)) (n : Running σ) :
    Ending SelectorError Unit → Running σ → Prop
  | nothing (unstaged : (n.manager.withRows rows).pending = none) :
      RowsSealed rows n (.ok ()) ⟨n.store, n.manager.withRows rows⟩
  | seals {pending : Entries} {res : Ending SelectorError Nat} {t : σ}
      (staged : (n.manager.withRows rows).pending = some pending)
      (call : S.activate pending (sealHeader κ none) n.store = (res, t)) :
      RowsSealed rows n (res.map fun _ => ()) ⟨t, res.onOk (n.manager.withRows rows)
        ((n.manager.withRows rows).afterSeal pending · (sealHeader κ none))⟩

variable {n' : Running σ}

theorem sealRows_sealed {rows : List (String × Bank)} (call : sealRows κ S rows n = (res, n')) :
  RowsSealed κ S rows n res n'
  := by
  rw [sealRows, run_bind_ok (stageAll_eq rows)] at call
  cases staged : (n.manager.withRows rows).pending with
  | none =>
    rw [run_bind_ok (sealPending_none (n := ⟨n.store, n.manager.withRows rows⟩) staged none)]
      at call
    cases call
    apply RowsSealed.nothing staged
  | some pending =>
    rcases activated : S.activate pending (sealHeader κ none) n.store with ⟨res', t⟩
    have seals := RowsSealed.seals (n := n) staged activated
    rw [run_bind, sealPending_some (n := ⟨n.store, n.manager.withRows rows⟩) staged activated]
      at call
    cases res' <;> cases call <;> apply seals

/-- How far a seed comes: it is cut off in its first seal or in its commit, or it comes to its
second seal. -/
theorem seedRows_cases {unanchored : Bool} {added : List (String × BankBootState)}
    (call : seedRows κ S T unanchored entries added n = (res, n')) :
  (RowsSealed κ S (added.map fun e => (e.1, nvFloor e.2)) n res n' ∧ res ≠ .ok ()) ∨
  ∃ n₁, RowsSealed κ S (added.map fun e => (e.1, nvFloor e.2)) n (.ok ()) n₁ ∧
    ((∃ t, S.commit n₁.store = (res, t) ∧ res ≠ .ok () ∧ n' = ⟨t, n₁.manager⟩) ∨
      ∃ t, S.commit n₁.store = (.ok (), t) ∧
        RowsSealed κ T (n₁.manager.afterCommit.rearm unanchored entries added)
          ⟨t, n₁.manager.afterCommit⟩ res n')
  := by
  rw [seedRows] at call
  obtain ⟨n₁, first, call⟩ | ⟨first, cut⟩ := run_bind_unit_cases call
  · right
    refine ⟨n₁, sealRows_sealed first, ?_⟩
    rcases committed : S.commit n₁.store with ⟨res', t⟩
    have commits := commit_eq committed
    obtain ⟨_, second, call⟩ | ⟨second, cut⟩ := run_bind_unit_cases call
    · right
      cases res' <;> cases commits.symm.trans second
      rw [run_get_bind] at call
      exact ⟨t, rfl, sealRows_sealed call⟩
    · left
      cases res' <;> cases commits.symm.trans second
      · apply absurd rfl cut
      · exact ⟨t, rfl, nofun, rfl⟩
      · exact ⟨t, rfl, nofun, rfl⟩
  · left
    exact ⟨sealRows_sealed first, cut⟩

end Seeds

/-! ### Stores that may be cut off -/

/-- Every row is that of one selection or of the other. -/
def Mixed (old new mixed : Entries) : Prop :=
  ∀ id : String, mixed[id]? = old[id]? ∨ mixed[id]? = new[id]?

/-- A store whose calls may fail or be cut off. An activation that does not return leaves the
primary copy alone, or replaces it, where some of the rows may be missing; a commit that does not
return may have taken effect. The header is of no account here. -/
structure Survives {σ : Type} (copies : σ → Copies) (S : SelectorStore σ) : Prop where
  readPrimary : Reads True S.readPrimary fun s => (copies s).primary
  readSecondary : Reads True S.readSecondary fun s => (copies s).secondary
  readTransaction : ∀ s, ∃ header, S.readTransaction s = (.ok header, s)
  writeTransaction : ∀ {g header s res t}, S.writeTransaction g header s = (res, t) →
    (copies t).primary = (copies s).primary ∧ (copies t).secondary = (copies s).secondary
  activate_ok : ∀ {entries header s g t}, S.activate entries header s = (.ok g, t) →
    0 < g ∧ (copies t).primary = some { generation := g, entries } ∧
      (copies t).secondary = (copies s).secondary
  activate_cut : ∀ {entries header s res t}, S.activate entries header s = (res, t) →
    (∀ g, res ≠ .ok g) → (copies t).secondary = (copies s).secondary ∧
      ((copies t).primary = (copies s).primary ∨ ∃ v, (copies t).primary = some v ∧
        0 < v.generation ∧ Mixed (entriesOf (copies s).primary) entries v.entries)
  commit : ∀ {s res t}, S.commit s = (res, t) → (copies t).primary = (copies s).primary ∧
    ((copies t).secondary = (copies s).primary.or (copies s).secondary ∨
      res ≠ .ok () ∧ (copies t).secondary = (copies s).secondary)

/-! ### Rows that are there already -/

/-- The rows of `e` are rows of `e'`. -/
def Includes (e' e : Entries) : Prop :=
  ∀ (id : String) row, e[id]? = some row → e'[id]? = some row

section Frame

variable {σ : Type} {copies : σ → Copies} {S T : SelectorStore σ}

/-- What two selections have in common, a mixture of them has as well. -/
theorem Mixed.includes {old new mixed : Entries} (h : Mixed old new mixed) (before : Includes old e)
    (after : Includes new e) :
  Includes mixed e
  := by
  intro id row found
  rcases h id with same | same
  · rw [same]
    apply before id row found
  · rw [same]
    apply after id row found

/-- Both copies have the rows, and so does what the manager boots or has staged. -/
structure Retains (copies : σ → Copies) (e : Entries) (n : Running σ) : Prop where
  primary : Includes (entriesOf (copies n.store).primary) e
  secondary : Includes (entriesOf (copies n.store).secondary) e
  current : Includes n.manager.current e
  pending : ∀ p ∈ n.manager.pending, Includes p e

namespace Retains

variable {n n' : Running σ} {rows : List (String × Bank)}

theorem withRows (retains : Retains copies e n) (others : ∀ row ∈ rows, e[row.1]? = none) :
  Retains copies e ⟨n.store, n.manager.withRows rows⟩
  := by
  refine ⟨retains.primary, retains.secondary, ?_, ?_⟩
  · dsimp only
    rw [withRows_current]
    apply retains.current
  · dsimp only
    rw [withRows_pending]
    split
    · apply retains.pending
    · rintro _ ⟨⟩ id row found
      have base : Includes (n.manager.pending.getD n.manager.current) e := by
        cases pending : n.manager.pending with
        | none => apply retains.current
        | some p => apply retains.pending p pending
      rw [getElem?_insertRows_of_not_mem]
      · apply base id row found
      · rintro listed mem rfl
        cases (others listed mem).symm.trans found

variable (retains : Retains copies e n)
include retains

variable (survives : Survives copies S)
include survives

/-- Other rows are staged and sealed. -/
theorem sealed (others : ∀ row ∈ rows, e[row.1]? = none)
    (rowsSealed : RowsSealed κ S rows n res n') :
  Retains copies e n'
  := by
  have staged := retains.withRows others
  cases rowsSealed with
  | nothing => apply staged
  | @seals pending res t pended call =>
    have new : Includes pending e := staged.pending pending pended
    have cut : (∀ g, res ≠ .ok g) → Retains copies e ⟨t, n.manager.withRows rows⟩ := by
      intro cut
      obtain ⟨secondary, primary | ⟨v, primary, -, mixed⟩⟩ := survives.activate_cut call cut
      · refine ⟨?_, ?_, staged.current, staged.pending⟩
        · rw [primary]
          apply retains.primary
        · rw [secondary]
          apply retains.secondary
      · refine ⟨?_, ?_, staged.current, staged.pending⟩
        · rw [primary]
          apply mixed.includes retains.primary new
        · rw [secondary]
          apply retains.secondary
    cases res with
    | ok =>
      obtain ⟨-, primary, secondary⟩ := survives.activate_ok call
      refine ⟨?_, ?_, new, nofun⟩
      · rw [primary]
        apply new
      · rw [secondary]
        apply retains.secondary
    | err | stopped => apply cut nofun

theorem committed {t : σ} (call : S.commit n.store = (res, t)) :
  Retains copies e ⟨t, n.manager⟩
  := by
  obtain ⟨primary, secondary⟩ := survives.commit call
  refine ⟨?_, ?_, retains.current, retains.pending⟩
  · rw [primary]
    apply retains.primary
  · rcases secondary with same | ⟨-, same⟩
    · rw [same]
      cases absent : (copies n.store).primary with
      | none => apply retains.secondary
      | some =>
        have primary := retains.primary
        rw [absent] at primary
        apply primary
    · rw [same]
      apply retains.secondary

end Retains

/-- The manager holds the copies of the store. -/
structure Mirrors (c : Copies) (m : SystemBankManager) : Prop where
  current : m.current = entriesOf c.primary
  committed : m.committed = entriesOf c.secondary
  committedGeneration : m.committedGeneration = generationOf c.secondary

namespace SystemBankManager

variable {m : SystemBankManager}

theorem anchored (committed : m.committedGeneration ≠ 0) :
  m.unanchored = false
  := by simp [unanchored, committed]

/-- A row is added only for a component that is listed and has none. -/
theorem added_missing {listed : String × BankBootState} (mem : listed ∈ m.added entries) :
  listed ∈ entries ∧ m.current[listed.1]? = none
  := by
  rw [added] at mem
  split at mem
  next empty =>
    have none : m.current = ∅ := Std.ExtTreeMap.isEmpty_iff.mp empty
    rw [none]
    exact ⟨mem, Std.ExtTreeMap.getElem?_empty⟩
  next =>
    simp only [List.mem_filter, missingEntries, decide_eq_true_eq] at mem
    obtain ⟨mem, -, missing⟩ := mem
    rw [Bool.not_eq_true'] at missing
    exact ⟨mem, Std.ExtTreeMap.getElem?_eq_none_of_contains_eq_false missing⟩

theorem isEmpty_eq_false {id : String} {row : ComponentEntry} (found : m.current[id]? = some row) :
  m.isEmpty = false
  := by
  rw [isEmpty, ← Bool.not_eq_true, Std.ExtTreeMap.isEmpty_iff]
  intro empty
  rw [empty, Std.ExtTreeMap.getElem?_empty] at found
  cases found

end SystemBankManager

variable {n n' : Running σ}

/-- A vector with a committed copy, which is not on trial: the rows that it has stay. -/
theorem Retains.seeded (survives : Survives copies S) (survives' : Survives copies T)
    (committed : n.manager.committedGeneration ≠ 0) (retains : Retains copies n.manager.current n)
    (call : seedSelector κ S T entries n = (res, n')) :
  Retains copies n.manager.current n'
  := by
  by_cases settled : n.manager.Settled entries
  · cases (seedSelector_settled settled).symm.trans call
    apply retains
  rw [seedSelector_unsettled settled] at call
  have anchored := n.manager.anchored committed
  have floors : ∀ row ∈ (n.manager.added entries).map fun e => (e.1, nvFloor e.2),
      n.manager.current[row.1]? = none := by
    intro row mem
    obtain ⟨_, mem', rfl⟩ := List.mem_map.mp mem
    apply (added_missing mem').2
  have trials : ∀ m' : SystemBankManager,
    ∀ row ∈ m'.rearm n.manager.unanchored entries (n.manager.added entries),
      n.manager.current[row.1]? = none := by
    intro m' row mem
    rw [rearm, anchored, if_neg Bool.false_ne_true] at mem
    obtain ⟨_, filtered, rfl⟩ := List.mem_map.mp mem
    apply (added_missing (List.mem_filter.mp filtered).1).2
  obtain ⟨cut, -⟩ | ⟨n₁, first, ⟨t, cut, -, rfl⟩ | ⟨t, commits, second⟩⟩ := seedRows_cases call
  · apply retains.sealed survives floors cut
  · apply (retains.sealed survives floors first).committed survives cut
  · have sealed := (retains.sealed survives floors first).committed survives commits
    have committed : Retains copies n.manager.current ⟨t, n₁.manager.afterCommit⟩ :=
      ⟨sealed.primary, sealed.secondary, sealed.current, sealed.pending⟩
    apply committed.sealed survives' (trials _) second

/-- The seed writes nothing to a vector on trial, and leaves the rows of a committed one alone; a
vector without a committed copy is left alone as well, unless its rows are at their floors. Where
rows are staged that differ from those that boot, nothing is said. -/
theorem seed_keeps_rows (mirrors : Mirrors (copies n.store) n.manager)
    (entries : List (String × BankBootState)) :
  (generationOf (copies n.store).secondary ≠ 0 → entriesOf (copies n.store).primary ≠ ∅ →
    (entriesOf (copies n.store).primary ≠ entriesOf (copies n.store).secondary →
      ∀ S T, seedSelector κ S T entries n = (.ok (), n)) ∧
    (entriesOf (copies n.store).primary = entriesOf (copies n.store).secondary →
      (∀ p ∈ n.manager.pending, Includes p (entriesOf (copies n.store).primary)) →
      ∀ S T, Survives copies S → Survives copies T →
        ∀ res n', seedSelector κ S T entries n = (res, n') →
          Includes (entriesOf (copies n'.store).primary) (entriesOf (copies n.store).primary) ∧
          Includes (entriesOf (copies n'.store).secondary)
            (entriesOf (copies n.store).secondary))) ∧
  (generationOf (copies n.store).secondary = 0 →
    (∃ e ∈ entries, ∃ row, (entriesOf (copies n.store).primary)[e.1]? = some row ∧
      row.bank ≠ nvFloor e.2) → ∀ S T, seedSelector κ S T entries n = (.ok (), n))
  := by
  rw [← mirrors.current, ← mirrors.committed, ← mirrors.committedGeneration]
  refine ⟨fun committed rows => ⟨fun trial S T => ?_, ?_⟩, ?_⟩
  · apply seedSelector_settled
    right
    right
    have filled : n.manager.isEmpty = false := by
      rw [isEmpty, ← Bool.not_eq_true, Std.ExtTreeMap.isEmpty_iff]
      apply rows
    refine ⟨filled, n.manager.anchored committed, .inr ?_⟩
    rw [isTrial, bne_iff_ne]
    apply trial
  · intro same staged S T survives survives' res n' call
    have start : Retains copies n.manager.current n := by
      refine ⟨?_, ?_, fun _ _ found => found, staged⟩
      · rw [← mirrors.current]
        exact fun _ _ found => found
      · rw [← mirrors.committed, ← same]
        exact fun _ _ found => found
    have retains := start.seeded survives survives' committed call
    refine ⟨retains.primary, ?_⟩
    rw [← same]
    apply retains.secondary
  · rintro lost ⟨listed, mem, row, found, away⟩ S T
    apply seedSelector_settled
    left
    refine ⟨?_, ?_⟩
    · rw [unanchored, isEmpty_eq_false found, lost]
      rfl
    · apply List.ne_nil_of_mem (a := listed)
      refine List.mem_filter.mpr ⟨mem, ?_⟩
      rw [activeBank, found, Option.map_some, Option.any_some, bne_iff_ne]
      apply away

end Frame

/-! ### The store in memory -/

/-- The store in memory is such a store. -/
theorem InMemory.survives :
  Survives copies inMemorySelectorStore
  where
  readPrimary _ := .inl rfl
  readSecondary _ := .inl rfl
  readTransaction s := ⟨s.transaction, rfl⟩
  writeTransaction {g header s res t} call := by
    rcases writeTransaction_cases g header s with ⟨_, eq⟩ | eq <;>
      cases call.symm.trans eq <;> exact ⟨rfl, rfl⟩
  activate_ok {entries header s g t} call := by
    rcases activate_cases entries header s with ⟨_, eq⟩ | eq <;>
      cases call.symm.trans eq
    exact ⟨Nat.succ_pos _, rfl, rfl⟩
  activate_cut {entries header s res t} call cut := by
    rcases activate_cases entries header s with ⟨_, eq⟩ | eq <;>
      cases call.symm.trans eq
    · exact ⟨rfl, .inl rfl⟩
    · apply absurd rfl (cut _)
  commit {s res t} call := by
    rcases commit_cases s with ⟨_, eq⟩ | eq <;> cases call.symm.trans eq
    · exact ⟨rfl, .inr ⟨nofun, rfl⟩⟩
    · exact ⟨rfl, .inl rfl⟩

namespace SeedSamples

def plainSigner : Signing where
  sha256 _ := Buffer.zeros 32
  sign _ := []
  verify _ _ := true
  verify_sign _ := rfl

def kernel : ComponentEntry where
  bank := .A
  images := (∅ : BTreeMap ImageEntry).insert "kernel" { size := 1, sha256 := Buffer.zeros 32 }

def committedVector : BootVector where
  generation := 1
  entries := (∅ : Entries).insert "vm1" kernel

/-- The vector is committed and not on trial, or its primary copy is lost. -/
def loadedFrom (primary : Option BootVector) : Running InMemorySelectorStore where
  store := { primary, secondary := some committedVector }
  manager := (copies { primary, secondary := some committedVector }).view none

theorem mirrors (primary : Option BootVector) :
  Mirrors (copies (loadedFrom primary).store) (loadedFrom primary).manager
  := ⟨rfl, rfl, rfl⟩

def machines : List (String × BankBootState) :=
  [("vm1", {}), ("vm2", {})]

def seeded (n : Running InMemorySelectorStore) (entries : List (String × BankBootState)) :
    Ending SelectorError Unit × Running InMemorySelectorStore :=
  seedSelector plainSigner inMemorySelectorStore inMemorySelectorStore entries n

end SeedSamples

open SeedSamples in
/-- A primary copy that is lost is seeded again, and so is the committed one: its row loses its
image. -/
theorem absent_primary_reseeded :
  Mirrors (copies (loadedFrom none).store) (loadedFrom none).manager ∧
  generationOf (copies (loadedFrom none).store).secondary ≠ 0 ∧
  entriesOf (copies (loadedFrom none).store).primary ≠
    entriesOf (copies (loadedFrom none).store).secondary ∧
  (loadedFrom none).manager.pending = none ∧ (seeded (loadedFrom none) machines).1 = .ok () ∧
  (entriesOf (copies (seeded (loadedFrom none) machines).2.store).secondary)["vm1"]? ≠
    (entriesOf (copies (loadedFrom none).store).secondary)["vm1"]?
  := ⟨mirrors none, by decide +kernel⟩

open SeedSamples in
/-- A machine is added to a committed vector, and the row of the other one stays. -/
theorem seed_keeps_kernel :
  (seeded (loadedFrom (some committedVector)) machines).1 = .ok () ∧
  (entriesOf
    (copies (seeded (loadedFrom (some committedVector)) machines).2.store).primary)["vm2"]? =
    some { bank := .A } ∧
  Includes
    (entriesOf (copies (seeded (loadedFrom (some committedVector)) machines).2.store).primary)
    committedVector.entries ∧
  Includes
    (entriesOf (copies (seeded (loadedFrom (some committedVector)) machines).2.store).secondary)
    committedVector.entries
  := by
  refine ⟨by decide +kernel, by decide +kernel, ?_⟩
  have kept := (seed_keeps_rows (κ := plainSigner) (mirrors (some committedVector)) machines).1
    (by decide) (by decide +kernel)
  exact kept.2 rfl nofun inMemorySelectorStore inMemorySelectorStore survives survives _ _ rfl

end SystemBank
