import Mathlib.Data.List.Nodup
import MachineManager.SystemBank.Seed

/-!
# Seeds that are stopped

A seed may be stopped by a write that fails, or with the process. It is then run again, and has to
find out from the vector how far it has come. It does so, except for a seed that was stopped after
its commit: the vector then looks as after a rollback by the boot stage, and is left alone.
-/

namespace SystemBank

open Selector Call Nv SystemBankManager InMemory

/-- The listed components at their floors. -/
def floors (entries : List (String × BankBootState)) : Entries :=
  selectionOf nvFloor entries

/-- The listed components at their active banks. -/
def actives (entries : List (String × BankBootState)) : Entries :=
  selectionOf (·.activeBank) entries

variable {m : SystemBankManager}

section Stopped

variable (entries : List (String × BankBootState))

/-- Some of the components are at their floors, and the others have no row. -/
def AtFloor (e : Entries) : Prop :=
  Mixed ∅ (floors entries) e

/-- All components have a row, at their floors or at their active banks. -/
def AtEither (e : Entries) : Prop :=
  Mixed (floors entries) (actives entries) e

/-- What is known of the copies when seeds from an empty vector were stopped. -/
structure Grounded (c : Copies) : Prop where
  primary_pos : ∀ v, c.primary = some v → 0 < v.generation
  floor : ∀ v, c.secondary = some v → 0 < v.generation ∧ v.entries = floors entries
  anchoring : c.secondary = none → AtFloor entries (entriesOf c.primary)
  anchored : c.secondary ≠ none → AtEither entries (entriesOf c.primary)

/-- What is known of a manager that has no committed copy. Its rows are at their floors; if these
are all rows, the store has them as well, and only then it may have committed them. -/
structure Anchoring (c : Copies) (m : SystemBankManager) : Prop where
  uncommitted : m.committedGeneration = 0
  current : AtFloor entries m.current
  pending : ∀ p ∈ m.pending, p = floors entries
  complete : m.current = floors entries → entriesOf c.primary = floors entries
  secondary : c.secondary ≠ none → m.current = floors entries
  generation : m.current ≠ ∅ → 0 < m.generation

/-- What is known of a manager that has a committed copy. -/
structure Anchored (c : Copies) (m : SystemBankManager) : Prop where
  committed : m.committedGeneration ≠ 0
  current : AtEither entries m.current
  secondary : c.secondary ≠ none

variable {entries} {e e' : Entries}

theorem Mixed.left (old new : Entries) :
  Mixed old new old
  := fun _ => .inl rfl

theorem Mixed.right (old new : Entries) :
  Mixed old new new
  := fun _ => .inr rfl

/-- Rows of which some are mixed again. -/
theorem Mixed.trans {old new mixed later : Entries} (h : Mixed old new mixed)
    (h' : Mixed mixed new later) :
  Mixed old new later
  := by
  intro id
  rcases h' id with same | same
  · rw [same]
    apply h id
  · exact .inr same

open Std.ExtTreeMap

theorem Mixed.self (h : Mixed e e e') :
  e' = e
  := by
  apply ext_getElem?
  intro key
  rcases h key with same | same <;> apply same

theorem AtFloor.floor (atFloor : AtFloor entries e) (id : String) {row : ComponentEntry}
    (found : e[id]? = some row) :
  (floors entries)[id]? = some row
  := by
  rcases atFloor id with same | same
  · rw [found, Std.ExtTreeMap.getElem?_empty] at same
    cases same
  · rw [← same, found]

/-- Rows at their floors, if none is missing. -/
theorem AtFloor.eq_floors (atFloor : AtFloor entries e)
    (complete : ∀ listed ∈ entries, e[listed.1]? ≠ none) :
  e = floors entries
  := by
  apply ext_getElem?
  intro key
  rcases atFloor key with same | same
  · rw [Std.ExtTreeMap.getElem?_empty] at same
    rw [same]
    symm
    apply getElem?_selectionOf_of_not_mem
    rintro listed mem rfl
    apply complete listed mem same
  · apply same

namespace SystemBankManager

theorem added_eq :
  m.added entries = entries.filter fun e => !m.current.contains e.1
  := by
  rw [added]
  split
  next empty =>
    have none : m.current = ∅ := Std.ExtTreeMap.isEmpty_iff.mp empty
    symm
    rw [List.filter_eq_self]
    intro listed _
    rw [none, contains_empty]
    rfl
  next =>
    apply List.filter_congr
    intro listed mem
    simp only [missingEntries, List.mem_filter, List.mem_map_of_mem mem, true_and]
    cases m.current.contains listed.1 <;> rfl

/-- A row is missing, or no row is added. -/
theorem complete_of_added (none : m.added entries = []) {listed : String × BankBootState}
    (mem : listed ∈ entries) :
  m.current[listed.1]? ≠ .none
  := by
  rw [added_eq, List.filter_eq_nil_iff] at none
  have present := none listed mem
  rw [Bool.not_eq_true, Bool.not_eq_false', Std.ExtTreeMap.contains_eq_isSome_getElem?] at present
  intro absent
  rw [absent] at present
  cases present

end SystemBankManager

variable (distinct : (entries.map (·.1)).Nodup) {listed : String × BankBootState}

include distinct

theorem floors_listed (mem : listed ∈ entries) :
  (floors entries)[listed.1]? = some { bank := nvFloor listed.2 }
  := getElem?_selectionOf distinct mem

theorem actives_listed (mem : listed ∈ entries) :
  (actives entries)[listed.1]? = some { bank := listed.2.activeBank }
  := getElem?_selectionOf distinct mem

/-- The rows that are missing are staged at their floors. -/
theorem insertRows_added (atFloor : AtFloor entries m.current)
    (base : e = m.current ∨ e = floors entries) :
  insertRows e ((m.added entries).map fun e => (e.1, nvFloor e.2)) = floors entries
  := by
  rw [added_eq]
  apply ext_getElem?
  intro key
  by_cases added : ∃ listed ∈ entries, listed.1 = key ∧ (!m.current.contains listed.1) = true
  · obtain ⟨_, mem, rfl, missing⟩ := added
    rw [floors_listed distinct mem]
    exact getElem?_insertRows_filter distinct mem missing
  · refine (getElem?_insertRows_filter_of_not ?_).trans ?_
    · intro listed mem same
      by_contra missing
      apply added ⟨listed, mem, same, Bool.eq_true_of_not_eq_false missing⟩
    · rcases base with rfl | rfl
      · rcases atFloor key with same | same
        · rw [same, Std.ExtTreeMap.getElem?_empty]
          symm
          apply getElem?_selectionOf_of_not_mem
          rintro listed mem rfl
          apply added ⟨listed, mem, rfl, ?_⟩
          rw [Std.ExtTreeMap.getElem?_empty] at same
          rw [Std.ExtTreeMap.contains_eq_isSome_getElem?, same]
          rfl
        · apply same
      · rfl

/-- The components on trial are staged at their active banks. -/
theorem insertRows_trials :
  insertRows (floors entries) ((entries.filter fun e => !e.2.committed).map fun e =>
    (e.1, e.2.activeBank)) =
    actives entries
  := by
  apply ext_getElem?
  intro key
  by_cases listed : ∃ listed ∈ entries, listed.1 = key
  · obtain ⟨listed, mem, rfl⟩ := listed
    rw [actives_listed distinct mem]
    cases committed : listed.2.committed with
    | false => exact getElem?_insertRows_filter distinct mem (by rw [committed]; rfl)
    | true =>
      refine (getElem?_insertRows_filter_of_not ?_).trans ?_
      · intro other mem' same
        obtain rfl : other = listed := List.inj_on_of_nodup_map distinct mem' mem same
        rw [committed]
        rfl
      · rw [floors_listed distinct mem, nvFloor, if_pos committed]
  · have absent : ∀ listed ∈ entries, listed.1 ≠ key :=
      fun e mem same => listed ⟨e, mem, same⟩
    refine (getElem?_insertRows_filter_of_not fun e mem same =>
      absurd same (absent e mem)).trans ?_
    rw [floors, actives, getElem?_selectionOf_of_not_mem absent,
      getElem?_selectionOf_of_not_mem absent]

end Stopped

/-! ### One seed -/

variable {c : Copies} {κ : Signing}

section Seeds

variable {σ : Type} {copies : σ → Copies} {S T : SelectorStore σ} {n n' : Running σ}
  {entries : List (String × BankBootState)}

variable {c' : Copies} {t : σ} {res : Ending SelectorError Unit}

theorem Grounded.congr (grounded : Grounded entries c) (primary : c'.primary = c.primary)
    (secondary : c'.secondary = c.secondary) :
  Grounded entries c'
  := by
  refine ⟨?_, ?_, ?_, ?_⟩
  all_goals simp only [primary, secondary]
  · apply grounded.primary_pos
  · apply grounded.floor
  · apply grounded.anchoring
  · apply grounded.anchored

theorem Anchoring.empty_of_anchored (anchoring : Anchoring entries c m)
    (unanchored : m.unanchored = false) :
  m.isEmpty = true
  := by
  rw [SystemBankManager.unanchored, anchoring.uncommitted] at unanchored
  simpa using unanchored

/-- The rows were sealed at their floors. -/
structure Laid (entries : List (String × BankBootState)) (c : Copies)
    (m : SystemBankManager) : Prop where
  uncommitted : m.committedGeneration = 0
  current : m.current = floors entries
  unstaged : m.pending = none
  generation : 0 < m.generation
  primary : ∃ v, c.primary = some v ∧ v.entries = floors entries

/-- The store is cut off while it takes rows over that are at their floors. -/
theorem Anchoring.cut {s : σ} (survives : Survives copies S)
    (grounded : Grounded entries (copies s))
    (anchoring : Anchoring entries (copies s) m) {header : Transaction}
    {res : Ending SelectorError Nat}
    (call : S.activate (floors entries) header s = (res, t)) (cut : ∀ g, res ≠ .ok g) :
  Grounded entries (copies t) ∧ Anchoring entries (copies t) m
  := by
  obtain ⟨secondary, primary | ⟨v, primary, pos, mixed⟩⟩ := survives.activate_cut call cut
  · refine ⟨grounded.congr primary secondary, { anchoring with complete := ?_, secondary := ?_ }⟩
    all_goals simp only [primary, secondary]
    · apply anchoring.complete
    · apply anchoring.secondary
  · -- If the manager has all rows, then so has the store, and it takes the same ones over again.
    have complete : m.current = floors entries → v.entries = floors entries := by
      intro all
      rw [anchoring.complete all] at mixed
      apply mixed.self
    refine ⟨⟨?_, ?_, ?_, ?_⟩, { anchoring with complete := ?_, secondary := ?_ }⟩
    all_goals simp only [primary, secondary]
    · rintro _ ⟨⟩
      apply pos
    · apply grounded.floor
    · intro none
      apply (grounded.anchoring none).trans mixed
    · intro some
      have all : entriesOf (Option.some v) = floors entries := complete (anchoring.secondary some)
      rw [all]
      apply Mixed.left
    · apply complete
    · apply anchoring.secondary

/-- Rows at their floors that were not yet seen committed, whichever copies the store has. -/
theorem Laid.anchoring (laid : Laid entries c m) :
  Anchoring entries c m
  where
  uncommitted := laid.uncommitted
  current := by
    rw [laid.current]
    apply Mixed.right
  pending := by
    rw [laid.unstaged]
    nofun
  complete _ := by
    obtain ⟨v, primary, rows⟩ := laid.primary
    rw [primary]
    apply rows
  secondary _ := laid.current
  generation _ := laid.generation

/-- The rows at their floors are committed, or the store is cut off. -/
theorem Laid.commits {s : σ} (laid : Laid entries (copies s) m) (survives : Survives copies S)
    (grounded : Grounded entries (copies s)) (call : S.commit s = (res, t)) :
  Grounded entries (copies t) ∧ Laid entries (copies t) m ∧
  (res = .ok () → (copies t).secondary ≠ none)
  := by
  obtain ⟨v, primary, rows⟩ := laid.primary
  obtain ⟨same, secondary⟩ := survives.commit call
  have primary' := same.trans primary
  have laid' : Laid entries (copies t) m := { laid with primary := ⟨v, primary', rows⟩ }
  rw [primary, Option.some_or] at secondary
  rcases secondary with taken | ⟨cut, kept⟩
  · refine ⟨⟨?_, ?_, ?_, ?_⟩, laid', fun _ => ?_⟩
    all_goals simp only [primary', taken]
    · rw [← primary]
      apply grounded.primary_pos
    · rintro _ ⟨⟩
      exact ⟨grounded.primary_pos v primary, rows⟩
    · nofun
    · intro _
      rw [entriesOf, Option.elim_some, rows]
      apply Mixed.left
    · nofun
  · exact ⟨grounded.congr same kept, laid', fun returned => absurd returned cut⟩

/-- Rows at their floors that were committed, with whatever is staged next. -/
theorem Laid.anchored (laid : Laid entries c m) (committed : c'.secondary ≠ none)
    (rows : List (String × Bank)) :
  Anchored entries c' (m.afterCommit.withRows rows)
  := by
  refine ⟨?_, ?_, committed⟩
  · rw [withRows_committedGeneration]
    apply Nat.ne_of_gt laid.generation
  · have current : m.afterCommit.current = floors entries := laid.current
    rw [withRows_current, current]
    apply Mixed.left

/-- Without components there is nothing to seed. -/
theorem Anchoring.settled_nil (anchoring : Anchoring [] c m) :
  m.Settled []
  := by
  have empty : m.current = ∅ := anchoring.current.eq_floors nofun
  right
  left
  refine ⟨?_, rfl⟩
  rw [SystemBankManager.unanchored, isEmpty, empty, Std.ExtTreeMap.isEmpty_empty]
  rfl

variable (distinct : (entries.map (·.1)).Nodup)

include distinct

theorem floors_ne_empty (listed : entries ≠ []) :
  floors entries ≠ ∅
  := by
  obtain ⟨_, mem⟩ := List.exists_mem_of_ne_nil entries listed
  intro empty
  have row := floors_listed distinct mem
  rw [empty, Std.ExtTreeMap.getElem?_empty] at row
  cases row

/-- A manager that has a committed copy leaves it alone. -/
theorem Anchored.settled (anchored : Anchored entries c m) :
  m.Settled entries
  := by
  have complete : ∀ listed ∈ entries, ∃ row, m.current[listed.1]? = some row := by
    intro listed mem
    rcases anchored.current listed.1 with same | same
    · exact ⟨_, same.trans (floors_listed distinct mem)⟩
    · exact ⟨_, same.trans (actives_listed distinct mem)⟩
  have unanchored := m.anchored anchored.committed
  right
  cases entries with
  | nil => exact .inl ⟨unanchored, rfl⟩
  | cons first =>
    right
    obtain ⟨row, found⟩ := complete first List.mem_cons_self
    refine ⟨isEmpty_eq_false found, unanchored, .inl ?_⟩
    rw [missingEntries, List.filter_eq_nil_iff]
    intro id mapped
    obtain ⟨listed, mem, rfl⟩ := List.mem_map.mp mapped
    obtain ⟨_, found⟩ := complete listed mem
    rw [Std.ExtTreeMap.contains_eq_isSome_getElem?, found]
    rintro ⟨⟩

/-- A manager without a committed copy has something to seed. -/
theorem Anchoring.unsettled (listed : entries ≠ []) (anchoring : Anchoring entries c m) :
  ¬m.Settled entries
  := by
  rintro (⟨-, standing⟩ | ⟨unanchored, same⟩ | ⟨filled, unanchored, -⟩)
  · obtain ⟨first, mem⟩ := List.exists_mem_of_ne_nil _ standing
    obtain ⟨mem, away⟩ := List.mem_filter.mp mem
    rw [activeBank] at away
    cases found : m.current[first.1]? with
    | none =>
      rw [found] at away
      cases away
    | some =>
      have floor := anchoring.current.floor first.1 found
      rw [floors_listed distinct mem] at floor
      cases floor
      rw [found, Option.map_some, Option.any_some, bne_self_eq_false] at away
      cases away
  · have empty : m.current = ∅ := Std.ExtTreeMap.isEmpty_iff.mp
      (anchoring.empty_of_anchored unanchored)
    obtain ⟨first, mem⟩ := List.exists_mem_of_ne_nil entries listed
    have absent := List.all_eq_true.mp same first mem
    rw [activeBank, empty, Std.ExtTreeMap.getElem?_empty] at absent
    cases absent
  · cases filled.symm.trans (anchoring.empty_of_anchored unanchored)

/-- The missing rows are staged. -/
theorem Anchoring.withRows (anchoring : Anchoring entries c m) :
  Anchoring entries c (m.withRows ((m.added entries).map fun e => (e.1, nvFloor e.2)))
  where
  uncommitted := by
    rw [withRows_committedGeneration]
    apply anchoring.uncommitted
  current := by
    rw [withRows_current]
    apply anchoring.current
  pending p staged := by
    rw [withRows_pending] at staged
    split at staged
    · apply anchoring.pending p staged
    · cases staged
      apply insertRows_added distinct anchoring.current
      cases pending : m.pending with
      | none => exact .inl rfl
      | some q => exact .inr (anchoring.pending q pending)
  complete := by
    rw [withRows_current]
    apply anchoring.complete
  secondary := by
    rw [withRows_current]
    apply anchoring.secondary
  generation := by
    rw [withRows_current, withRows_generation]
    apply anchoring.generation

/-- The missing rows are sealed at their floors, or the store is cut off. -/
theorem Anchoring.lay (listed : entries ≠ [])
    (survives : Survives copies S) (grounded : Grounded entries (copies n.store))
    (anchoring : Anchoring entries (copies n.store) n.manager)
    (sealed : RowsSealed κ S ((n.manager.added entries).map fun e => (e.1, nvFloor e.2))
      n res n') :
  Grounded entries (copies n'.store) ∧
    (res ≠ .ok () → Anchoring entries (copies n'.store) n'.manager) ∧
    (res = .ok () → Laid entries (copies n'.store) n'.manager)
  := by
  have staging := anchoring.withRows distinct
  cases sealed with
  | nothing unstaged =>
    refine ⟨grounded, fun cut => absurd rfl cut, fun _ => ?_⟩
    rw [withRows_pending] at unstaged
    split at unstaged
    next none =>
      have complete : n.manager.current = floors entries :=
        anchoring.current.eq_floors fun e mem =>
          complete_of_added (List.map_eq_nil_iff.mp none) mem
      have stored := anchoring.complete complete
      rw [none]
      refine ⟨anchoring.uncommitted, complete, unstaged, anchoring.generation ?_, ?_⟩
      · rw [complete]
        apply floors_ne_empty distinct listed
      · cases primary : (copies n.store).primary with
        | none =>
          rw [primary] at stored
          apply absurd stored.symm (floors_ne_empty distinct listed)
        | some v =>
          rw [primary] at stored
          exact ⟨v, rfl, stored⟩
    next => cases unstaged
  | @seals pending res t staged call =>
    obtain rfl : pending = floors entries := staging.pending pending staged
    have cut : (∀ g, res ≠ .ok g) → Grounded entries (copies t) ∧ Anchoring entries (copies t) _ :=
      fun cut => staging.cut survives grounded call cut
    cases res with
    | ok =>
      obtain ⟨pos, primary, secondary⟩ := survives.activate_ok call
      refine ⟨⟨?_, ?_, ?_, ?_⟩, fun cut => absurd rfl cut, fun _ =>
        ⟨staging.uncommitted, rfl, rfl, pos, ?_⟩⟩
      all_goals simp only [primary, secondary]
      · rintro _ ⟨⟩
        apply pos
      · apply grounded.floor
      · intro _
        apply Mixed.right
      · intro _
        apply Mixed.left
      · exact ⟨_, rfl, rfl⟩
    | err | stopped => exact ⟨(cut nofun).1, fun _ => (cut nofun).2, nofun⟩

/-- What is sealed again after the commit: the components on trial. -/
theorem Anchoring.rearm_eq {m' : SystemBankManager}
    (anchoring : Anchoring entries c m) (current : m'.current = floors entries) :
  m'.rearm m.unanchored entries (m.added entries) =
    (entries.filter fun e => !e.2.committed).map fun e => (e.1, e.2.activeBank)
  := by
  rw [rearm]
  split
  next =>
    congr 1
    apply List.filter_congr
    intro listed mem
    rw [activeBank, current, floors_listed distinct mem, Option.map_some, beq_self_eq_true,
      Bool.and_true]
  next anchored =>
    rw [added, if_pos (anchoring.empty_of_anchored (Bool.eq_false_of_not_eq_true anchored))]

/-- The components on trial are sealed at their active banks, or the store is cut off. -/
theorem Laid.rearm (survives : Survives copies T)
    (laid : Laid entries (copies t) m) (grounded : Grounded entries (copies t))
    (committed : (copies t).secondary ≠ none)
    (sealed : RowsSealed κ T ((entries.filter fun e => !e.2.committed).map fun e =>
      (e.1, e.2.activeBank))
      ⟨t, m.afterCommit⟩ res n') :
  Grounded entries (copies n'.store) ∧ Anchored entries (copies n'.store) n'.manager ∧
    (res = .ok () → entriesOf (copies n'.store).primary = actives entries)
  := by
  have trials := insertRows_trials distinct
  have pending : (m.afterCommit.pending.getD m.afterCommit.current) = floors entries := by
    rw [afterCommit, laid.unstaged, laid.current]
    rfl
  cases sealed with
  | nothing unstaged =>
    rw [withRows_pending] at unstaged
    split at unstaged
    next none =>
      refine ⟨grounded, laid.anchored committed _, fun _ => ?_⟩
      obtain ⟨v, primary, rows⟩ := laid.primary
      rw [none] at trials
      simp only [primary]
      exact rows.trans trials
    next => cases unstaged
  | @seals _ res t' staged call =>
    rw [withRows_pending] at staged
    split at staged
    next => cases laid.unstaged.symm.trans staged
    next =>
    cases staged
    rw [pending, trials] at call ⊢
    obtain ⟨v, primary, rows⟩ := laid.primary
    have rows : entriesOf (copies t).primary = floors entries := by
      rw [primary]
      apply rows
    have grounded' : (copies t').secondary = (copies t).secondary →
        (∀ v, (copies t').primary = some v → 0 < v.generation) →
        AtEither entries (entriesOf (copies t').primary) → Grounded entries (copies t') := by
      intro same pos either
      refine ⟨pos, ?_, ?_, fun _ => either⟩
      all_goals rw [same]
      · apply grounded.floor
      · intro none
        apply absurd none committed
    have cut : (∀ g, res ≠ .ok g) → Grounded entries (copies t') ∧
      (copies t').secondary ≠ none := by
      intro cut
      obtain ⟨secondary, same | ⟨_, taken, pos, mixed⟩⟩ := survives.activate_cut call cut
      · exact ⟨grounded.congr same secondary, secondary ▸ committed⟩
      · rw [rows] at mixed
        refine ⟨grounded' secondary ?_ ?_, secondary ▸ committed⟩
        all_goals rw [taken]
        · rintro _ ⟨⟩
          apply pos
        · apply mixed
    cases res with
    | ok =>
      obtain ⟨pos, taken, secondary⟩ := survives.activate_ok call
      have committed' : (copies t').secondary ≠ none := by
        rw [secondary]
        apply committed
      refine ⟨grounded' secondary ?_ ?_,
        ⟨(laid.anchored committed' _).committed, Mixed.right _ _, committed'⟩, fun _ => ?_⟩
      all_goals simp only [taken]
      · rintro _ ⟨⟩
        apply pos
      · apply Mixed.right
      · rfl
    | err | stopped => exact ⟨(cut nofun).1, laid.anchored (cut nofun).2 _, nofun⟩

/-- A seed without a committed copy: it is cut off before its commit or after, or the vector is as
NV says. -/
theorem Anchoring.seeded (listed : entries ≠ [])
    (survives : Survives copies S) (survives' : Survives copies T)
    (grounded : Grounded entries (copies n.store))
    (anchoring : Anchoring entries (copies n.store) n.manager)
    (call : seedSelector κ S T entries n = (res, n')) :
  Grounded entries (copies n'.store) ∧
    (Anchoring entries (copies n'.store) n'.manager ∧ res ≠ .ok () ∨
      Anchored entries (copies n'.store) n'.manager ∧
        (res = .ok () → entriesOf (copies n'.store).primary = actives entries))
  := by
  rw [seedSelector_unsettled (anchoring.unsettled distinct listed)] at call
  obtain ⟨cut, failed⟩ | ⟨n₁, first, ⟨t, cut, failed, rfl⟩ | ⟨t, commits, second⟩⟩ :=
    seedRows_cases call
  · obtain ⟨grounded, anchoring, -⟩ := anchoring.lay distinct listed survives grounded cut
    exact ⟨grounded, .inl ⟨anchoring failed, failed⟩⟩
  · obtain ⟨grounded, -, laid⟩ := anchoring.lay distinct listed survives grounded first
    obtain ⟨grounded, laid, -⟩ := (laid rfl).commits survives grounded cut
    exact ⟨grounded, .inl ⟨laid.anchoring, failed⟩⟩
  · obtain ⟨grounded, -, laid⟩ := anchoring.lay distinct listed survives grounded first
    obtain ⟨grounded, laid', committed⟩ := (laid rfl).commits survives grounded commits
    have current : n₁.manager.afterCommit.current = floors entries := laid'.current
    rw [anchoring.rearm_eq distinct current] at second
    obtain ⟨grounded, anchored, complete⟩ :=
      laid'.rearm distinct survives' grounded (committed rfl) second
    exact ⟨grounded, .inr ⟨anchored, complete⟩⟩

/-- Whether the manager has a committed copy or not, a seed that is cut off leaves what a seed can
begin with. -/
theorem Grounded.seeded (survives : Survives copies S)
    (survives' : Survives copies T) (grounded : Grounded entries (copies n.store))
    (held : Anchoring entries (copies n.store) n.manager ∨
      Anchored entries (copies n.store) n.manager)
    (call : seedSelector κ S T entries n = (res, n')) :
  Grounded entries (copies n'.store) ∧
    (Anchoring entries (copies n'.store) n'.manager ∨ Anchored entries (copies n'.store) n'.manager)
  := by
  have unchanged (settled : n.manager.Settled entries) : Grounded entries (copies n'.store) ∧
      (Anchoring entries (copies n'.store) n'.manager ∨
        Anchored entries (copies n'.store) n'.manager) := by
    cases (seedSelector_settled settled).symm.trans call
    exact ⟨grounded, held⟩
  rcases held with anchoring | anchored
  · by_cases listed : entries = []
    · cases listed
      apply unchanged anchoring.settled_nil
    · obtain ⟨grounded, ⟨anchoring, -⟩ | ⟨anchored, -⟩⟩ :=
        anchoring.seeded distinct listed survives survives' grounded call
      · exact ⟨grounded, .inl anchoring⟩
      · exact ⟨grounded, .inr anchored⟩
  · apply unchanged (anchored.settled distinct)

end Seeds

/-! ### Restarts -/

section Restarts

variable {σ : Type} {copies : σ → Copies} {S : SelectorStore σ}
    {entries : List (String × BankBootState)}

/-- A manager that was just loaded. -/
theorem Grounded.viewed (grounded : Grounded entries c) (transaction : Option Transaction) :
  Anchoring entries c (c.view transaction) ∨ Anchored entries c (c.view transaction)
  := by
  cases secondary : c.secondary with
  | none =>
    left
    refine ⟨?_, grounded.anchoring secondary, by rintro _ ⟨⟩, fun same => same,
      fun some => absurd secondary some, ?_⟩
    · rw [Copies.view, secondary]
      rfl
    · intro rows
      cases primary : c.primary with
      | none =>
        rw [Copies.view, primary] at rows
        apply absurd rfl rows
      | some v =>
        rw [Copies.view, primary]
        apply grounded.primary_pos v primary
  | some v =>
    have committed : c.secondary ≠ none := by
      rw [secondary]
      rintro ⟨⟩
    right
    refine ⟨?_, grounded.anchored committed, committed⟩
    rw [Copies.view, secondary]
    apply Nat.ne_of_gt (grounded.floor v secondary).1

/-- A load leaves the copies alone, and holds them if it returns. -/
theorem Survives.load (survives : Survives copies S) {s t : σ}
    {res : Ending SelectorError SystemBankManager} (call : load S s = (res, t)) :
  (copies t).primary = (copies s).primary ∧ (copies t).secondary = (copies s).secondary ∧
    ∀ m, res = .ok m → ∃ transaction, m = (copies t).view transaction
  := by
  rcases survives.readPrimary s with primary | ⟨-, e, failed⟩
  · rcases survives.readSecondary s with secondary | ⟨-, e, failed⟩
    · obtain ⟨header, read⟩ := survives.readTransaction s
      let c : Copies := { copies s with header }
      cases unrecorded : c.unrecorded with
      | none =>
        cases (load_of_recorded (c := c) primary secondary read unrecorded).symm.trans call
        refine ⟨rfl, rfl, ?_⟩
        rintro _ ⟨⟩
        exact ⟨_, rfl⟩
      | some marked =>
        rcases written : S.writeTransaction (generationOf c.primary) marked s with ⟨res', _⟩
        cases (load_of_unrecorded (c := c) primary secondary read unrecorded written).symm.trans
          call
        obtain ⟨primary', secondary'⟩ := survives.writeTransaction written
        refine ⟨primary', secondary', ?_⟩
        intro m returned
        have view (transaction : Option Transaction) : c.view transaction =
          (copies t).view transaction := by
          rw [Copies.view, Copies.view, primary', secondary']
        cases res' <;> cases returned <;> exact ⟨_, view _⟩
    · cases (load_of_unreadable (.inr ⟨⟨_, primary⟩, failed⟩)).symm.trans call
      exact ⟨rfl, rfl, by rintro _ ⟨⟩⟩
  · cases (load_of_unreadable (.inl failed)).symm.trans call
    exact ⟨rfl, rfl, by rintro _ ⟨⟩⟩

/-- The store, and the manager while its process runs. -/
structure Host (σ : Type) where
  store : σ
  manager : Option SystemBankManager := none

/-- The host after a load: the process runs if the load returned a manager. -/
def Host.started : Ending SelectorError SystemBankManager × σ → Host σ
  | (.ok m, t) => { store := t, manager := some m }
  | (.err _, t) | (.stopped, t) => { store := t }

/-- The host after a seed: the process goes on unless it was cut off. -/
def Host.called : Ending SelectorError Unit × Running σ → Host σ
  | (.stopped, x) => { store := x.store }
  | (_, x) => { store := x.store, manager := some x.manager }

variable (κ copies entries)

/-- The process crashes, or it is started, or it seeds. The store may be cut off in every call. -/
inductive SeedStep : Host σ → Host σ → Prop
  | crashed (h : Host σ) : SeedStep h { store := h.store }
  | loaded (h : Host σ) {S : SelectorStore σ} (survives : Survives copies S) :
      SeedStep h (Host.started (load S h.store))
  | seeded (s : σ) (m : SystemBankManager) {S T : SelectorStore σ} (survives : Survives copies S)
      (survives' : Survives copies T) :
      SeedStep { store := s, manager := some m } (Host.called (seedSelector κ S T entries ⟨s, m⟩))

/-- Seeds with the same components, one after the other, with restarts in between. -/
def SeedRun (h : Host σ) : Host σ → Prop :=
  Reachable (· = h) (SeedStep κ copies entries)

/-- What is known of the host when seeds from an empty vector were stopped. -/
structure Stopped (h : Host σ) : Prop where
  grounded : Grounded entries (copies h.store)
  held : ∀ m ∈ h.manager, Anchoring entries (copies h.store) m ∨ Anchored entries (copies h.store) m

variable {κ copies entries}

theorem Stopped.start {s : σ} (primary : (copies s).primary = none)
    (secondary : (copies s).secondary = none) :
  Stopped copies entries { store := s }
  := by
  refine ⟨⟨?_, ?_, ?_, ?_⟩, nofun⟩
  all_goals simp only [primary, secondary]
  · nofun
  · nofun
  · intro _
    apply Mixed.left
  · intro some
    apply absurd rfl some

theorem Stopped.step (distinct : (entries.map (·.1)).Nodup) {h h' : Host σ}
    (stopped : Stopped copies entries h) (step : SeedStep κ copies entries h h') :
  Stopped copies entries h'
  := by
  cases step with
  | crashed => exact ⟨stopped.grounded, nofun⟩
  | @loaded _ S survives =>
    rcases call : load S h.store with ⟨res, t⟩
    obtain ⟨primary, secondary, view⟩ := survives.load call
    have grounded := stopped.grounded.congr primary secondary
    cases res with
    | ok m =>
      refine ⟨grounded, ?_⟩
      rintro _ ⟨⟩
      obtain ⟨_, rfl⟩ := view m rfl
      apply grounded.viewed
    | err | stopped => exact ⟨grounded, nofun⟩
  | @seeded s m S T survives survives' =>
    rcases call : seedSelector κ S T entries ⟨s, m⟩ with ⟨res, _⟩
    obtain ⟨grounded, held⟩ :=
      stopped.grounded.seeded (n := ⟨s, m⟩) distinct survives survives' (stopped.held m rfl) call
    cases res with
    | ok | err =>
      refine ⟨grounded, ?_⟩
      rintro _ ⟨⟩
      apply held
    | stopped => exact ⟨grounded, nofun⟩

theorem Stopped.run (distinct : (entries.map (·.1)).Nodup) {h h' : Host σ}
    (stopped : Stopped copies entries h) (run : SeedRun κ copies entries h h') :
  Stopped copies entries h'
  := by
  apply run.invariant
  · rintro _ rfl
    apply stopped
  · intro _ _ stopped step
    apply stopped.step distinct step

end Restarts

/-! ### The last seed -/

/-- In states with `I` the store does not fail. -/
structure Serves {σ : Type} (I : σ → Prop) (S : SelectorStore σ) : Prop where
  activate : ∀ entries header {s}, I s → ∃ g t, S.activate entries header s = (.ok g, t) ∧ I t
  commit : ∀ {s}, I s → ∃ t, S.commit s = (.ok (), t) ∧ I t

section Last

variable {σ : Type} {copies : σ → Copies} {I : σ → Prop} {S T : SelectorStore σ}
  {n : Running σ}

theorem Serves.sealRows (serves : Serves I S) (serving : I n.store) (rows : List (String × Bank)) :
  ∃ n', sealRows κ S rows n = (.ok (), n') ∧ I n'.store
  := by
  rw [SystemBank.sealRows, run_bind_ok (stageAll_eq rows)]
  cases staged : (n.manager.withRows rows).pending with
  | none =>
    rw [run_bind_ok (sealPending_none (n := ⟨n.store, n.manager.withRows rows⟩) staged none)]
    exact ⟨_, rfl, serving⟩
  | some pending =>
    obtain ⟨g, t, call, serving⟩ := serves.activate pending (sealHeader κ none) serving
    rw [run_bind_ok (sealPending_some (n := ⟨n.store, n.manager.withRows rows⟩) staged call)]
    exact ⟨_, rfl, serving⟩

/-- A seed over stores that do not fail returns. -/
theorem Serves.seedSelector (serves : Serves I S) (serves' : Serves I T) (serving : I n.store)
    (entries : List (String × BankBootState)) :
  ∃ n', seedSelector κ S T entries n = (.ok (), n')
  := by
  by_cases settled : n.manager.Settled entries
  · exact ⟨n, seedSelector_settled settled⟩
  · rw [seedSelector_unsettled settled, seedRows]
    obtain ⟨n₁, first, serving⟩ := serves.sealRows (κ := κ) serving _
    obtain ⟨t, call, serving⟩ := serves.commit serving
    rw [run_bind_ok first, run_bind_ok (commit_eq call), run_get_bind]
    obtain ⟨n₂, second, -⟩ := serves'.sealRows (κ := κ) (n := ⟨t, n₁.manager.afterCommit⟩) serving _
    exact ⟨n₂, second⟩

variable {entries : List (String × BankBootState)}

/-- A vector that is committed at its floors is left alone, also after the process was started
again. -/
theorem Grounded.settled_of_load (distinct : (entries.map (·.1)).Nodup) {s t : σ}
    (grounded : Grounded entries (copies s))
    (committed : entries ≠ [] → (copies s).secondary ≠ none)
    (survives : Survives copies S) (call : load S s = (.ok m, t)) :
  m.Settled entries
  := by
  obtain ⟨primary, secondary, view⟩ := survives.load call
  obtain ⟨transaction, rfl⟩ := view m rfl
  rcases (grounded.congr primary secondary).viewed transaction with anchoring | anchored
  · by_cases listed : entries = []
    · cases listed
      apply anchoring.settled_nil
    · obtain ⟨v, some⟩ := Option.ne_none_iff_exists'.mp (committed listed)
      have uncommitted := anchoring.uncommitted
      rw [Copies.view, secondary, some] at uncommitted
      apply absurd uncommitted (Nat.ne_of_gt (grounded.floor v some).1)
  · apply anchored.settled distinct

theorem Grounded.secondary_eq (grounded : Grounded entries c) (committed : c.secondary ≠ none) :
  entriesOf c.secondary = floors entries
  := by
  obtain ⟨v, some⟩ := Option.ne_none_iff_exists'.mp committed
  rw [some]
  apply (grounded.floor v some).2

/-- Without components the vector stays empty. -/
theorem Grounded.empty (grounded : Grounded [] c) :
  entriesOf c.primary = ∅ ∧ entriesOf c.secondary = ∅
  := by
  by_cases committed : c.secondary = none
  · refine ⟨(grounded.anchoring committed).self, ?_⟩
    rw [committed]
    rfl
  · exact ⟨(grounded.anchored committed).self, grounded.secondary_eq committed⟩

/-- Seeds of an empty vector are stopped any number of times, by writes that fail or with the
process; then one is not. It returns, and the committed copy has every component at its floor. The
primary copy has every component at its active bank, unless the seed finds a committed copy: then it
writes nothing, and what was on trial may have stayed at its floor. Seeds after it write nothing. -/
theorem seed_converges (distinct : (entries.map (·.1)).Nodup) {s : σ}
    (primary : (copies s).primary = none) (secondary : (copies s).secondary = none) {h : Host σ}
    (run : SeedRun κ copies entries { store := s } h)
    {m : SystemBankManager} (running : h.manager = some m) (survives : Survives copies S)
    (survives' : Survives copies T) (serves : Serves I S) (serves' : Serves I T)
    (serving : I h.store) :
  ∃ y, seedSelector κ S T entries ⟨h.store, m⟩ = (.ok (), y) ∧
    entriesOf (copies y.store).secondary = floors entries ∧
    (m.committedGeneration = 0 → entriesOf (copies y.store).primary = actives entries) ∧
    (m.committedGeneration ≠ 0 → y = ⟨h.store, m⟩ ∧
      AtEither entries (entriesOf (copies y.store).primary)) ∧
    (∀ S' T', seedSelector κ S' T' entries y = (.ok (), y)) ∧
    ∀ R m' t, Survives copies R → load R y.store = (.ok m', t) →
      (copies t).primary = (copies y.store).primary ∧ (copies t).secondary =
        (copies y.store).secondary ∧
      ∀ S' T', seedSelector κ S' T' entries ⟨t, m'⟩ = (.ok (), ⟨t, m'⟩)
  := by
  obtain ⟨grounded, held⟩ := (Stopped.start primary secondary).run distinct run
  obtain ⟨y, call⟩ := serves.seedSelector (κ := κ) (n := ⟨h.store, m⟩) serves' serving entries
  have reload (committed : entries ≠ [] → (copies y.store).secondary ≠ none)
      (grounded : Grounded entries (copies y.store)) :
      ∀ R m' t, Survives copies R → load R y.store = (.ok m', t) →
        (copies t).primary = (copies y.store).primary ∧ (copies t).secondary =
          (copies y.store).secondary ∧
        ∀ S' T', seedSelector κ S' T' entries ⟨t, m'⟩ = (.ok (), ⟨t, m'⟩) := by
    intro R m' t survives loaded
    obtain ⟨primary, secondary, -⟩ := survives.load loaded
    have settled := grounded.settled_of_load distinct committed survives loaded
    exact ⟨primary, secondary, fun S' T' => seedSelector_settled (n := ⟨t, m'⟩) settled⟩
  refine ⟨y, call, ?_⟩
  rcases held m running with anchoring | anchored
  · by_cases listed : entries = []
    · cases listed
      have settled := anchoring.settled_nil
      cases (seedSelector_settled (n := ⟨h.store, m⟩) settled).symm.trans call
      obtain ⟨noPrimary, noSecondary⟩ := grounded.empty
      exact ⟨noSecondary, fun _ => noPrimary, fun committed =>
        absurd anchoring.uncommitted committed,
        fun _ _ => seedSelector_settled settled, reload (absurd rfl) grounded⟩
    · obtain ⟨grounded, ⟨-, failed⟩ | ⟨anchored, complete⟩⟩ :=
        anchoring.seeded distinct listed survives survives' grounded call
      · apply absurd rfl failed
      · exact ⟨grounded.secondary_eq anchored.secondary, fun _ => complete rfl,
          fun committed => absurd anchoring.uncommitted committed,
          fun _ _ => seedSelector_settled (anchored.settled distinct),
          reload (fun _ => anchored.secondary) grounded⟩
  · have settled := anchored.settled distinct
    cases (seedSelector_settled (n := ⟨h.store, m⟩) settled).symm.trans call
    exact ⟨grounded.secondary_eq anchored.secondary, fun uncommitted =>
      absurd uncommitted anchored.committed,
      fun _ => ⟨rfl, grounded.anchored anchored.secondary⟩, fun _ _ => seedSelector_settled settled,
      reload (fun _ => anchored.secondary) grounded⟩

end Last

/-! ### The store in memory -/

theorem InMemory.serves :
  Serves (fun m : InMemorySelectorStore => m.failWrites = false) inMemorySelectorStore
  where
  activate entries header _ writable :=
    ⟨_, _, InMemorySelectorStore.activate_eq writable entries header, writable⟩
  commit {s} writable := by
    cases present : s.primary with
    | none => exact ⟨_, InMemorySelectorStore.commit_eq_none writable present, writable⟩
    | some => exact ⟨_, InMemorySelectorStore.commit_eq_some writable present, writable⟩

namespace SeedSamples

/-- The process is lost at every activation. -/
def losing : SelectorStore InMemorySelectorStore :=
  { inMemorySelectorStore with activate := fun _ _ => stop }

theorem losing_survives :
  Survives copies losing
  where
  readPrimary := InMemory.survives.readPrimary
  readSecondary := InMemory.survives.readSecondary
  readTransaction := InMemory.survives.readTransaction
  writeTransaction := InMemory.survives.writeTransaction
  activate_ok call := by cases call
  activate_cut call _ := by
    cases call
    exact ⟨rfl, .inl rfl⟩
  commit := InMemory.survives.commit

def onTrial : List (String × BankBootState) :=
  [("vm1", { activeBank := .B, committed := false })]

def fresh : SystemBankManager :=
  Copies.view {} none

/-- The process is lost in a seed of the empty vector, and started again. -/
def restarted (S T : SelectorStore InMemorySelectorStore) : Host InMemorySelectorStore :=
  Host.started (load inMemorySelectorStore
    (Host.called (seedSelector plainSigner S T onTrial ⟨{}, fresh⟩)).store)

theorem restarted_run {S T : SelectorStore InMemorySelectorStore} (survives : Survives copies S)
    (survives' : Survives copies T) :
  SeedRun plainSigner copies onTrial { store := {} } (restarted S T)
  := by
  have started : SeedRun plainSigner copies onTrial { store := {} } ⟨{}, some fresh⟩ :=
    .step (.init rfl) (.loaded _ InMemory.survives)
  apply Reachable.step (started.step (.seeded _ _ survives survives'))
  apply SeedStep.loaded _ InMemory.survives

end SeedSamples

open SeedSamples in
/-- A seed that is lost after its commit leaves a component on trial at its floor, and the next seed
does not change this. -/
theorem lost_seed_keeps_floor :
  SeedRun plainSigner copies onTrial { store := {} } (restarted inMemorySelectorStore losing) ∧
  (restarted inMemorySelectorStore losing).store.failWrites = false ∧
  ∃ m, (restarted inMemorySelectorStore losing).manager = some m ∧
    (seeded ⟨(restarted inMemorySelectorStore losing).store, m⟩ onTrial).1 = .ok () ∧
    (entriesOf (copies (seeded ⟨(restarted inMemorySelectorStore losing).store, m⟩
        onTrial).2.store).primary)["vm1"]? = some { bank := .A } ∧
    (actives onTrial)["vm1"]? = some { bank := .B }
  := by
  have run := restarted_run InMemory.survives losing_survives
  exact ⟨run, rfl, (restarted inMemorySelectorStore losing).manager.get (by decide +kernel),
    (Option.some_get _).symm, by decide +kernel⟩

open SeedSamples in
/-- A seed that is lost before its first write is made good by the next one. -/
theorem seed_converges_trial :
  ∃ m, (restarted losing losing).manager = some m ∧
    ∃ y, seeded ⟨(restarted losing losing).store, m⟩ onTrial = (.ok (), y) ∧
      entriesOf (copies y.store).secondary = floors onTrial ∧
      entriesOf (copies y.store).primary = actives onTrial
  := by
  have run := restarted_run losing_survives losing_survives
  refine ⟨(restarted losing losing).manager.get (by decide +kernel), (Option.some_get _).symm, ?_⟩
  obtain ⟨y, call, floor, active, -⟩ :=
    seed_converges (by decide) rfl rfl run (Option.some_get (by decide +kernel)).symm
      InMemory.survives InMemory.survives serves serves (by decide +kernel)
  exact ⟨y, call, floor, active (by decide +kernel)⟩

end SystemBank
