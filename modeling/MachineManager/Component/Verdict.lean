import Mathlib.Data.List.Nodup
import MachineManager.Component.Trials

/-!
# Verdicts on the node

A verdict commits or rolls back every component of the node that is on trial. The candidates are
collected first. A commit is checked for all of them before any is committed. Then the verdict is
carried out for one after the other, and an error of one does not keep the others from it.
-/

namespace ComponentMgr

open Call Nv Selector SystemBank List

/-- What the components share, and the memory of each of them by its id. -/
structure NodeState (σ : Type) where
  shared : Shared σ
  memory : String → Memory

section Node

variable {σ ε α : Type} {x y : NodeState σ} {components : List (Component σ)}

def NodeState.localOf (x : NodeState σ) (id : String) : Local σ where
  shared := x.shared
  memory := x.memory id

def NodeState.setLocal (id : String) (l : Local σ) (x : NodeState σ) : NodeState σ where
  shared := l.shared
  memory := fun id' => if id' = id then l.memory else x.memory id'

open NodeState

def onComponent (c : Component σ) (call : Call (Local σ) ε α) : Call (NodeState σ) ε α :=
  zoom (·.localOf c.id) (NodeState.setLocal c.id) call

/-! ### The verdict -/

inductive Verdict
  | commit
  | rollback
deriving DecidableEq

/-- An error of a component; in the answer it is one text. -/
structure VerdictError where
  id : String
  message : String
deriving DecidableEq

def VerdictError.text (e : VerdictError) : String :=
  s!"{e.id}: {e.message}"

structure VerdictOutcome where
  acted : List String := []
  skipped : List String := []
  errors : List VerdictError := []
  allErrorsBusy : Bool := true
deriving DecidableEq

namespace VerdictOutcome

variable (out : VerdictOutcome)

def withSkipped (id : String) : VerdictOutcome :=
  { out with skipped := out.skipped ++ [id] }

def withActed (id : String) : VerdictOutcome :=
  { out with acted := out.acted ++ [id] }

def withError (id : String) (what : String) (e : MachineError) : VerdictOutcome :=
  { out with
    errors := out.errors ++ [{ id, message := what ++ e.text }]
    allErrorsBusy := out.allErrorsBusy && e.isBusy }

end VerdictOutcome

/-- The outcome so far, and the candidates found so far. -/
structure Selection (σ : Type) where
  out : VerdictOutcome := {}
  candidates : List (Component σ) := []

section Verdict

variable (verdict : Verdict)

/-- A component in the state is a candidate: it can be on trial, it is activated, it can be rolled
back if this is the verdict, and its banks do not tell that it is out of trial. -/
def admits (c : Component σ) (state : FlashState) (l : Local σ) : Bool :=
  c.flash.any fun flash =>
    (flash.dualBank || flash.supportsTrialBoot) && state = .activated &&
      (verdict != .rollback || flash.supportsRollback) && !(c.banks l).any (!·.inTrial)

def select (s : Selection σ) (c : Component σ) : Call (NodeState σ) Empty (Selection σ) := do
  match ← attempt (onComponent c c.activationState) with
  | .ok (some state) =>
    let x ← get
    if admits verdict c state (x.localOf c.id) then
      return { s with candidates := s.candidates ++ [c] }
    else return { s with out := s.out.withSkipped c.id }
  | .ok none => return { s with out := s.out.withSkipped c.id }
  | .error e => return { s with out := s.out.withError c.id "activation_state: " e }

def preflight (out : VerdictOutcome) (c : Component σ) : Call
    (NodeState σ) Empty VerdictOutcome := do
  match ← attempt (onComponent c c.preflightCommit) with
  | .ok () => return out
  | .error e => return out.withError c.id "" e

def Component.resolve (c : Component σ) : Call (Local σ) MachineError Unit :=
  match verdict with
  | .commit => c.commitInstall
  | .rollback => c.rollbackInstall

def act (out : VerdictOutcome) (c : Component σ) : Call (NodeState σ) Empty VerdictOutcome := do
  match ← attempt (onComponent c (c.resolve verdict)) with
  | .ok () => return out.withActed c.id
  | .error e => return out.withError c.id "" e

def preflightAll (candidates : List (Component σ)) (out : VerdictOutcome) :
    Call (NodeState σ) Empty VerdictOutcome :=
  match verdict with
  | .commit => candidates.foldlM preflight out
  | .rollback => return out

def runVerdict (components : List (Component σ)) : Call (NodeState σ) Empty VerdictOutcome := do
  let s ← components.foldlM (select verdict) {}
  let out ← preflightAll verdict s.candidates s.out
  if verdict = .commit ∧ out.errors ≠ [] then return out
  else s.candidates.foldlM (act verdict) out

end Verdict

/-! ### The candidates -/

section Candidates

variable (verdict : Verdict) (c : Component σ)

def Component.Selected (l : Local σ) : Prop :=
  ∃ state l', c.activationState l = (.ok (some state), l') ∧ admits verdict c state l' = true

/-- The state of the component cannot be told. -/
def Component.Unreadable (l : Local σ) : Prop :=
  ∃ e l', c.activationState l = (.err e, l')

/-- To look at a component changes nothing but its memory. -/
structure Component.Lawful : Prop where
  activation : ∀ l, (c.activationState l).2.shared = l.shared
  returns : ∀ l, (c.activationState l).1 ≠ .stopped
  preflight : ∀ l, (c.preflightCommit l).2 = l

variable {verdict c} {s : Selection σ} (id : String)

theorem NodeState.localOf_setLocal (l : Local σ) (x : NodeState σ) :
  (x.setLocal id l).localOf id = l
  := by
  rw [localOf, setLocal]
  simp only [if_true]

theorem NodeState.setLocal_localOf (x : NodeState σ) :
  x.setLocal id (x.localOf id) = x
  := by
  obtain ⟨_, _⟩ := x
  rw [setLocal, localOf]
  congr 1
  funext id'
  split
  next same => rw [same]
  next => rfl

theorem run_onComponent {call : Call (Local σ) ε α} {res : Ending ε α} {l : Local σ}
    (eq : call (x.localOf c.id) = (res, l)) :
  onComponent c call x = (res, x.setLocal c.id l)
  := run_zoom eq

/-- What looking at a component does. -/
theorem select_cases (verdict : Verdict) (x : NodeState σ) (s : Selection σ) (lawful : c.Lawful) :
  let y := x.setLocal c.id (c.activationState (x.localOf c.id)).2
  c.Selected verdict (x.localOf c.id) ∧
    select verdict s c x = (.ok { s with candidates := s.candidates ++ [c] }, y) ∨
  ¬c.Selected verdict (x.localOf c.id) ∧
    select verdict s c x = (.ok { s with out := s.out.withSkipped c.id }, y) ∨
  ¬c.Selected verdict (x.localOf c.id) ∧ c.Unreadable (x.localOf c.id) ∧
    ∃ e, select verdict s c x = (.ok { s with out := s.out.withError c.id "activation_state: " e },
      y)
  := by
  rcases call : c.activationState (x.localOf c.id) with ⟨answer, l⟩
  have on := run_onComponent call
  have returns := lawful.returns (x.localOf c.id)
  rw [call] at returns
  rw [select]
  rcases answer with (_ | state) | e | _
  · right; left
    constructor
    · rintro ⟨state, l', eq, -⟩
      cases eq.symm.trans call
    · rw [run_bind_ok (run_attempt_ok on)]
      rfl
  · rw [run_bind_ok (run_attempt_ok on)]
    dsimp only
    rw [run_get_bind, localOf_setLocal, run_ite]
    by_cases admitted : admits verdict c state l = true
    · left
      use ⟨state, l, call, admitted⟩
      rw [if_pos admitted]
      rfl
    · right; left
      constructor
      · rintro ⟨state', l', eq, admitted'⟩
        cases eq.symm.trans call
        apply admitted admitted'
      · rw [if_neg admitted]
        rfl
  · right; right
    constructor
    · rintro ⟨state, l', eq, -⟩
      cases eq.symm.trans call
    · use ⟨e, l, call⟩, e
      rw [run_bind_ok (run_attempt_err on)]
      rfl
  · apply absurd rfl returns

/-- What the components that were looked at gave. -/
structure Collected (verdict : Verdict) (x : NodeState σ) (looked left : List (Component σ))
    (s : Selection σ) (y : NodeState σ) : Prop where
  shared : y.shared = x.shared
  todo : ∀ c ∈ left, y.memory c.id = x.memory c.id
  memory : ∀ c ∈ looked, y.memory c.id = (c.activationState (x.localOf c.id)).2.memory
  candidates : ∀ c, c ∈ s.candidates ↔ c ∈ looked ∧ c.Selected verdict (x.localOf c.id)
  order : s.candidates.Sublist looked
  errors : ∀ e ∈ s.out.errors, ∃ c ∈ looked, e.id = c.id ∧ c.Unreadable (x.localOf c.id)

/-- A candidate was found. -/
theorem Collected.step {looked left : List (Component σ)}
    (collected : Collected verdict x looked (c :: left) s y)
    (lawful : c.Lawful) (ids : ((looked ++ c :: left).map (·.id)).Nodup) {s' : Selection σ}
    {y' : NodeState σ} (call : select verdict s c y = (.ok s', y')) :
  Collected verdict x (looked ++ [c]) left s' y'
  := by
  have here : y.localOf c.id = x.localOf c.id := by
    rw [localOf, localOf, collected.shared, collected.todo c mem_cons_self]
  rw [map_append, map_cons, nodup_append] at ids
  obtain ⟨-, later, earlier⟩ := ids
  have shared : (y.setLocal c.id (c.activationState (x.localOf c.id)).2).shared = x.shared :=
    lawful.activation (x.localOf c.id)
  have todo : ∀ d ∈ left, (y.setLocal c.id (c.activationState (x.localOf c.id)).2).memory d.id =
      x.memory d.id := by
    intro d hd
    have ne : d.id ≠ c.id := by
      rintro same
      apply (nodup_cons.mp later).1
      rw [← same]
      apply mem_map_of_mem hd
    rw [setLocal]
    simp only [ne, if_false]
    apply collected.todo d (mem_cons_of_mem _ hd)
  have memory : ∀ d ∈ looked ++ [c],
      (y.setLocal c.id (c.activationState (x.localOf c.id)).2).memory d.id =
        (d.activationState (x.localOf d.id)).2.memory := by
    intro d hd
    rw [setLocal]
    rcases mem_append.mp hd with before | same
    · have ne : d.id ≠ c.id :=
        earlier d.id (mem_map_of_mem before) c.id mem_cons_self
      simp only [ne, if_false]
      apply collected.memory d before
    · cases mem_singleton.mp same
      simp only [if_true]
  have mem : ∀ d, d ∈ looked ++ [c] ↔ d ∈ looked ∨ d = c := by
    intro d
    rw [mem_append, mem_singleton]
  have errors : ∀ e ∈ s.out.errors, ∃ c' ∈ looked ++ [c], e.id = c'.id ∧
    c'.Unreadable (x.localOf c'.id) := by
    intro e he
    obtain ⟨d, hd, rest⟩ := collected.errors e he
    exact ⟨d, mem_append_left _ hd, rest⟩
  have unchanged : ¬c.Selected verdict (x.localOf c.id) → ∀ d, d ∈ s.candidates ↔
      d ∈ looked ++ [c] ∧ d.Selected verdict (x.localOf d.id) := by
    intro skipped d
    rw [collected.candidates, mem]
    constructor
    · rintro ⟨before, selected⟩
      exact ⟨.inl before, selected⟩
    · rintro ⟨before | rfl, selected⟩
      · exact ⟨before, selected⟩
      · apply absurd selected skipped
  have order : s.candidates.Sublist (looked ++ [c]) :=
    collected.order.trans (sublist_append_left _ _)
  have cases := select_cases verdict y s lawful
  rw [here] at cases
  rcases cases with ⟨selected, eq⟩ | ⟨skipped, eq⟩ | ⟨skipped, unreadable, e, eq⟩
  · cases eq.symm.trans call
    refine ⟨shared, todo, memory, ?_, collected.order.append (List.Sublist.refl _), errors⟩
    intro d
    rw [mem_append, mem_singleton, collected.candidates, mem]
    constructor
    · rintro (⟨before, selected'⟩ | rfl)
      · exact ⟨.inl before, selected'⟩
      · exact ⟨.inr rfl, selected⟩
    · rintro ⟨before | rfl, selected'⟩
      · exact .inl ⟨before, selected'⟩
      · exact .inr rfl
  · cases eq.symm.trans call
    exact ⟨shared, todo, memory, unchanged skipped, order, errors⟩
  · cases eq.symm.trans call
    refine ⟨shared, todo, memory, unchanged skipped, order, ?_⟩
    intro e' he
    rcases mem_append.mp he with before | new
    · apply errors e' before
    · cases mem_singleton.mp new
      exact ⟨c, (mem c).mpr (.inr rfl), rfl, unreadable⟩

/-- The candidates are collected. -/
theorem collected_of_select (lawful : ∀ c ∈ components, c.Lawful)
    (ids : (components.map (·.id)).Nodup)
    (call : components.foldlM (select verdict) {} x = (.ok s, y)) :
  Collected verdict x components [] s y
  := by
  have start : Collected verdict x [] components {} x :=
    ⟨rfl, fun _ _ => rfl, nofun, fun _ => ⟨nofun, nofun⟩, List.Sublist.refl _, nofun⟩
  obtain ⟨looked, eq, collected⟩ := foldlM_invariant
    (P := fun left s y => ∃ looked, components = looked ++ left ∧
      Collected verdict x looked left s y)
    (by
      rintro c left s y s' y' ⟨looked, rfl, collected⟩ call
      use looked ++ [c]
      rw [append_assoc]
      use rfl
      apply collected.step (lawful c _) ids call
      apply mem_append_right _ mem_cons_self)
    ⟨[], rfl, start⟩ call
  rw [append_nil] at eq
  subst eq
  apply collected

/-- Looking at the components returns. -/
theorem select_returns (verdict : Verdict) (lawful : ∀ c ∈ components, c.Lawful) (x : NodeState σ) :
  ∃ s y, components.foldlM (select verdict) {} x = (.ok s, y)
  := by
  apply foldlM_returns
  intro c hc s x
  rcases select_cases verdict x s (lawful c hc) with
    ⟨-, eq⟩ | ⟨-, eq⟩ | ⟨-, -, e, eq⟩
  · exact ⟨_, _, eq⟩
  · exact ⟨_, _, eq⟩
  · exact ⟨_, _, eq⟩

end Candidates

/-! ### The checks before a commit -/

def VerdictOutcome.Lists (out : VerdictOutcome) (id : String) : Prop :=
  ∃ e ∈ out.errors, e.id = id

theorem VerdictOutcome.lists_withError (out : VerdictOutcome) (id what : String) (e : MachineError)
    (id' : String) :
  (out.withError id what e).Lists id' ↔ out.Lists id' ∨ id' = id
  := by
  rw [Lists, withError]
  constructor
  · rintro ⟨e', he, rfl⟩
    rcases mem_append.mp he with before | new
    · left
      exact ⟨e', before, rfl⟩
    · right
      rw [mem_singleton.mp new]
  · rintro (⟨e', he, rfl⟩ | rfl)
    · exact ⟨e', mem_append_left _ he, rfl⟩
    · exact ⟨_, mem_append_right _ (mem_singleton_self _), rfl⟩

section Loops

variable {verdict : Verdict} {candidates : List (Component σ)}
  {out out' : VerdictOutcome}

/-- The checks change nothing, and their errors are those of candidates. -/
theorem preflightAll_spec (lawful : ∀ c ∈ candidates, c.Lawful)
    (call : preflightAll verdict candidates out x = (.ok out', y)) :
  y = x ∧ ∀ id, out'.Lists id → out.Lists id ∨ ∃ c ∈ candidates, c.id = id
  := by
  cases verdict with
  | rollback =>
    cases call
    exact ⟨rfl, fun _ => .inl⟩
  | commit =>
    have spec := foldlM_invariant (f := preflight) (P := fun left out' y =>
        (∀ c ∈ left, c ∈ candidates) ∧ y = x ∧
          ∀ id, out'.Lists id → out.Lists id ∨ ∃ c ∈ candidates, c.id = id) (by
      rintro c left out₁ y out₂ y' ⟨mem, rfl, errors⟩ call
      rcases checked : c.preflightCommit (y.localOf c.id) with ⟨answer, l⟩
      obtain rfl : l = y.localOf c.id := by
        have kept := (lawful c (mem c mem_cons_self)).preflight (y.localOf c.id)
        rw [checked] at kept
        apply kept
      have on := run_onComponent checked
      rw [setLocal_localOf] at on
      rw [preflight] at call
      refine ⟨fun d hd => mem d (mem_cons_of_mem _ hd), ?_⟩
      cases answer with
      | ok =>
        rw [run_bind_ok (run_attempt_ok on)] at call
        cases call
        exact ⟨rfl, errors⟩
      | err e =>
        rw [run_bind_ok (run_attempt_err on)] at call
        cases call
        use rfl
        intro id listed
        rcases (out₁.lists_withError c.id "" e id).mp listed with before | rfl
        · apply errors id before
        · right
          exact ⟨c, mem c mem_cons_self, rfl⟩
      | stopped =>
        rw [run_bind_stopped (run_attempt_stopped on)] at call
        cases call) ⟨fun _ h => h, rfl, fun _ => .inl⟩ call
    apply spec.2

/-! ### Carrying the verdict out -/

/-- What is known of a candidate before its turn and after it failed, and what is known after it
succeeded, and that the turns of the others keep both. -/
structure Resolvable (verdict : Verdict) (components : List (Component σ))
    (Kept Done : Component σ → NodeState σ → Prop) : Prop where
  own : ∀ c ∈ components, ∀ {x answer l}, Kept c x →
    c.resolve verdict (x.localOf c.id) = (answer, l) → answer ≠ .stopped →
    (answer = .ok () → Done c (x.setLocal c.id l)) ∧ (answer ≠ .ok () → Kept c (x.setLocal c.id l))
  kept : ∀ c ∈ components, ∀ d ∈ components, d.id ≠ c.id → ∀ {x answer l},
    c.resolve verdict (x.localOf c.id) = (answer, l) → answer ≠ .stopped → Kept d x →
    Kept d (x.setLocal c.id l)
  done : ∀ c ∈ components, ∀ d ∈ components, d.id ≠ c.id → ∀ {x answer l},
    c.resolve verdict (x.localOf c.id) = (answer, l) → answer ≠ .stopped → Done d x →
    Done d (x.setLocal c.id l)

/-- The same, for fewer components. -/
theorem Resolvable.mono {Kept Done : Component σ → NodeState σ → Prop}
    (resolvable : Resolvable verdict components Kept Done)
    (sub : ∀ c ∈ candidates, c ∈ components) :
  Resolvable verdict candidates Kept Done
  where
  own c hc := resolvable.own c (sub c hc)
  kept c hc d hd := resolvable.kept c (sub c hc) d (sub d hd)
  done c hc d hd := resolvable.done c (sub c hc) d (sub d hd)

/-- Where the verdict stands. -/
structure Standing (Kept Done : Component σ → NodeState σ → Prop)
    (candidates left : List (Component σ))
    (out : VerdictOutcome) (x : NodeState σ) : Prop where
  waiting : ∀ c ∈ left, c ∈ candidates ∧ Kept c x ∧ ¬out.Lists c.id
  failed : ∀ c ∈ candidates, out.Lists c.id → Kept c x
  settled : ∀ c ∈ candidates, c ∈ left ∨ out.Lists c.id ∨ Done c x

variable {Kept Done : Component σ → NodeState σ → Prop}

/-- What one turn does. -/
theorem act_cases {c : Component σ} (call : act verdict out c x = (.ok out', y)) :
  ∃ answer l, c.resolve verdict (x.localOf c.id) = (answer, l) ∧ answer ≠ .stopped ∧
    y = x.setLocal c.id l ∧ ∀ id, out'.Lists id ↔ out.Lists id ∨ answer ≠ .ok () ∧ id = c.id
  := by
  rcases resolved : c.resolve verdict (x.localOf c.id) with ⟨answer, l⟩
  have on := run_onComponent resolved
  rw [act] at call
  refine ⟨answer, l, rfl, ?_⟩
  cases answer with
  | ok =>
    rw [run_bind_ok (run_attempt_ok on)] at call
    cases call
    exact ⟨nofun, rfl, fun _ => ⟨.inl, fun h => h.resolve_right fun h => h.1 rfl⟩⟩
  | err =>
    rw [run_bind_ok (run_attempt_err on)] at call
    cases call
    refine ⟨nofun, rfl, fun id => ?_⟩
    rw [out.lists_withError, and_iff_right nofun]
  | stopped =>
    rw [run_bind_stopped (run_attempt_stopped on)] at call
    cases call

/-- One turn. -/
theorem Standing.step (resolvable : Resolvable verdict candidates Kept Done)
    (ids : (candidates.map (·.id)).Nodup) {c : Component σ} {left : List (Component σ)}
    (fresh : ((c :: left).map (·.id)).Nodup)
    (standing : Standing Kept Done candidates (c :: left) out x)
    (call : act verdict out c x = (.ok out', y)) :
  Standing Kept Done candidates left out' y ∧ ∀ id, out'.Lists id → out.Lists id ∨ id = c.id
  := by
  obtain ⟨mem, kept, unlisted⟩ := standing.waiting c mem_cons_self
  obtain ⟨answer, l, resolved, returned, rfl, lists⟩ := act_cases call
  have other : ∀ d ∈ candidates, d ≠ c → d.id ≠ c.id := by
    intro d hd ne same
    apply ne
    apply inj_on_of_nodup_map ids hd mem same
  have later : ∀ d ∈ left, d ≠ c := by
    rintro d hd rfl
    apply (nodup_cons.mp fresh).1
    apply mem_map_of_mem hd
  obtain ⟨succeeds, fails⟩ := resolvable.own c mem kept resolved returned
  refine ⟨⟨?_, ?_, ?_⟩, fun id listed => ((lists id).mp listed).imp_right And.right⟩
  · intro d hd
    obtain ⟨mem', kept', unlisted'⟩ := standing.waiting d (mem_cons_of_mem _ hd)
    have ne := other d mem' (later d hd)
    refine ⟨mem', resolvable.kept c mem d mem' ne resolved returned kept', fun listed => ?_⟩
    rcases (lists d.id).mp listed with before | ⟨-, same⟩
    · apply unlisted' before
    · apply ne same
  · intro d hd listed
    rw [lists] at listed
    by_cases same : d = c
    · subst same
      apply fails (listed.resolve_left unlisted).1
    · have ne := other d hd same
      apply resolvable.kept c mem d hd ne resolved returned
      apply standing.failed d hd (listed.resolve_right fun h => ne h.2)
  · intro d hd
    rw [lists]
    by_cases same : d = c
    · subst same
      by_cases ok : answer = .ok ()
      · right; right
        apply succeeds ok
      · right; left
        exact .inr ⟨ok, rfl⟩
    · rcases standing.settled d hd with here | listed | done
      · left
        apply (mem_cons.mp here).resolve_left same
      · right; left
        exact .inl listed
      · right; right
        apply resolvable.done c mem d hd (other d hd same) resolved returned done

/-- All turns. -/
theorem standing_of_act (resolvable : Resolvable verdict candidates Kept Done)
    (ids : (candidates.map (·.id)).Nodup) (start : ∀ c ∈ candidates, Kept c x ∧ ¬out.Lists c.id)
    (call : candidates.foldlM (act verdict) out x = (.ok out', y)) :
  Standing Kept Done candidates [] out' y ∧ ∀ id, out'.Lists id → out.Lists id ∨
    ∃ c ∈ candidates, c.id = id
  := by
  have spec := foldlM_invariant (f := act verdict) (P := fun left out' y =>
      (left.map (·.id)).Nodup ∧ Standing Kept Done candidates left out' y ∧
        ∀ id, out'.Lists id → out.Lists id ∨ ∃ c ∈ candidates, c.id = id) (by
    rintro c left out₁ y out₂ y' ⟨fresh, standing, errors⟩ call
    obtain ⟨standing', errors'⟩ := standing.step resolvable ids fresh call
    use (nodup_cons.mp fresh).2, standing'
    intro id listed
    rcases errors' id listed with before | rfl
    · apply errors id before
    · right
      exact ⟨c, (standing.waiting c mem_cons_self).1, rfl⟩)
    ⟨ids, ⟨fun c hc => ⟨hc, start c hc⟩, fun c hc listed => absurd listed (start c hc).2,
      fun c hc => .inl hc⟩, fun _ => .inl⟩ call
  apply spec.2

/-- The whole verdict. `Kept` holds of every candidate once all of them were looked at. -/
theorem runVerdict_spec (lawful : ∀ c ∈ components, c.Lawful) (ids : (components.map (·.id)).Nodup)
    (ready : ∀ c ∈ components, ∀ y, c.Selected verdict (x.localOf c.id) → y.shared = x.shared →
      y.memory c.id = (c.activationState (x.localOf c.id)).2.memory → Kept c y)
    (resolvable : Resolvable verdict components Kept Done)
    (call : runVerdict verdict components x = (.ok out, y)) :
  (∀ c ∈ components, out.Lists c.id →
    c.Selected verdict (x.localOf c.id) ∧ Kept c y ∨ c.Unreadable (x.localOf c.id)) ∧
  (out.errors = [] → ∀ c ∈ components, c.Selected verdict (x.localOf c.id) → Done c y)
  := by
  rw [runVerdict] at call
  obtain ⟨s, x₁, looked⟩ := select_returns verdict lawful x
  have collected := collected_of_select lawful ids looked
  rw [run_bind_ok looked] at call
  have mem : ∀ c ∈ s.candidates, c ∈ components := fun c hc => ((collected.candidates c).mp hc).1
  have same : ∀ c ∈ components, ∀ d ∈ components, c.id = d.id → c = d :=
    fun c hc d hd eq => inj_on_of_nodup_map ids hc hd eq
  have unreadable : ∀ c ∈ components, s.out.Lists c.id → c.Unreadable (x.localOf c.id) := by
    rintro c hc ⟨e, he, eq⟩
    obtain ⟨d, hd, eq', unreadable⟩ := collected.errors e he
    cases same c hc d hd (eq.symm.trans eq')
    apply unreadable
  have kept : ∀ c ∈ s.candidates, Kept c x₁ := by
    intro c hc
    obtain ⟨hc', selected⟩ := (collected.candidates c).mp hc
    apply ready c hc' x₁ selected collected.shared (collected.memory c hc')
  rcases run_bind_cases (preflightAll verdict s.candidates s.out)
    (fun out => if verdict = .commit ∧ out.errors ≠ [] then return out
      else s.candidates.foldlM (act verdict) out) x₁ with
    ⟨out₁, x₂, checked, eq⟩ | ⟨e, x₂, -, eq⟩ | ⟨x₂, -, eq⟩
  · obtain ⟨rfl, errors⟩ := preflightAll_spec (fun c hc => lawful c (mem c hc)) checked
    rw [eq] at call
    have listed : ∀ c ∈ components, out₁.Lists c.id → c ∈ s.candidates ∨
      c.Unreadable (x.localOf c.id) := by
      intro c hc listed
      rcases errors c.id listed with before | ⟨d, hd, eq⟩
      · right
        apply unreadable c hc before
      · left
        cases same d (mem d hd) c hc eq
        apply hd
    rw [run_ite] at call
    split at call
    next stops =>
      cases call
      constructor
      · intro c hc hlisted
        rcases listed c hc hlisted with candidate | unreadable
        · left
          exact ⟨((collected.candidates c).mp candidate).2, kept c candidate⟩
        · right
          apply unreadable
      · intro none
        apply absurd none stops.2
    next goes =>
      have unlisted : ∀ c ∈ s.candidates, ¬out₁.Lists c.id := by
        rintro c hc ⟨e, he, named⟩
        cases verdict with
        | commit =>
          have none : out₁.errors = [] := Classical.byContradiction fun some => goes ⟨rfl, some⟩
          rw [none] at he
          cases he
        | rollback =>
          cases checked
          obtain ⟨hc', _, l, selected, -⟩ := (collected.candidates c).mp hc
          obtain ⟨_, _, failed⟩ := unreadable c hc' ⟨e, he, named⟩
          cases selected.symm.trans failed
      have candidate_ids : (s.candidates.map (·.id)).Nodup :=
        (collected.order.map _).nodup ids
      obtain ⟨standing, errors'⟩ := standing_of_act (resolvable.mono mem) candidate_ids
        (fun c hc => ⟨kept c hc, unlisted c hc⟩) call
      constructor
      · intro c hc hlisted
        have candidate : c ∈ s.candidates ∨ c.Unreadable (x.localOf c.id) := by
          rcases errors' c.id hlisted with before | ⟨d, hd, eq⟩
          · apply listed c hc before
          · left
            cases same d (mem d hd) c hc eq
            apply hd
        rcases candidate with candidate | unreadable
        · left
          exact ⟨((collected.candidates c).mp candidate).2, standing.failed c candidate hlisted⟩
        · right
          apply unreadable
      · intro none c hc selected
        have candidate := (collected.candidates c).mpr ⟨hc, selected⟩
        rcases standing.settled c candidate with left | ⟨e, he, -⟩ | done
        · cases left
        · rw [none] at he
          cases he
        · apply done
  · cases e
  · cases eq.symm.trans call

end Loops

end Node

end ComponentMgr
