import MachineManager.Component.Provider
import MachineManager.SystemBank.Cache

/-!
# Components that share a boot vector

A seal, a commit and a rollback concern the boot vector as a whole, and what is staged is kept in
one place for all components. An activation whose seal fails leaves its entry staged, and the next
seal, of whatever component, writes it. A component is spared by the calls of the others exactly as
long as nothing of its own is staged and its two entries agree.
-/

open Selector SystemBank

variable {σ : Type} {κ : Signing} {copies : σ → Copies}

namespace SystemBank

open Call

/-- The entries of a component in the two copies. -/
def Copies.entriesAt (c : Copies) (id : String) : Option ComponentEntry × Option ComponentEntry :=
  ((entriesOf c.primary)[id]?, (entriesOf c.secondary)[id]?)

variable {answer : Ending SelectorError Answer}

namespace SystemBankManager

variable (m : SystemBankManager) (id : String)

def stagedEntry : Option ComponentEntry :=
  (m.pending.getD m.current)[id]?

/-- The entries of a component in the two copies after a call, as the manager sees it. -/
def entriesAfter : Op → Ending SelectorError Answer → Option ComponentEntry × Option ComponentEntry
  | .sealPending _, .ok (.sealed true) => (m.stagedEntry id, m.committed[id]?)
  | .commit, .ok _ => (m.current[id]?, m.current[id]?)
  | .rollback _, .ok _ => (m.committed[id]?, m.committed[id]?)
  | _, _ => (m.current[id]?, m.committed[id]?)

/-- A component whose two entries agree keeps them, if no other entry of it is sealed. -/
theorem entriesAfter_eq {m : SystemBankManager} {id : String} {op : Op}
    (settled : m.current[id]? = m.committed[id]?)
    (unstaged : answer = .ok (.sealed true) → m.stagedEntry id = m.current[id]?) :
  m.entriesAfter id op answer = (m.current[id]?, m.committed[id]?)
  := by
  fun_cases entriesAfter m id op answer with
  | case1 armedBootId => rw [unstaged rfl]
  | case2 a | case3 reason a => rw [settled]
  | case4 => rfl

/-- Staging for one component leaves the others alone. -/
theorem stagedEntry_withStaged {id' : String} (other : id ≠ id') (entry : ComponentEntry) :
  (m.withStaged id' entry).stagedEntry id = m.stagedEntry id
  := by
  have ne : compare id' id ≠ .eq := fun h => other (Std.LawfulEqCmp.eq_of_compare h).symm
  rw [stagedEntry, stagedEntry, withStaged, Option.getD_some,
    Std.ExtTreeMap.getElem?_insert, if_neg ne]

end SystemBankManager

/-- The manager has the entries of the two copies, and there is no committed copy without a
primary one. -/
structure Follows (c : Copies) (m : SystemBankManager) : Prop where
  current : m.current = entriesOf c.primary
  committed : m.committed = entriesOf c.secondary
  floor : c.primary = none → c.secondary = none

/-- A seal writes if something is staged. -/
theorem OpMove.pending_eq_none {S : SelectorStore σ} {n n' : Running σ}
    {armedBootId : Option String} (move : OpMove κ S n (.sealPending armedBootId) answer n')
    (unsealed : answer = .ok (.sealed false)) :
  n.manager.pending = none
  := by
  cases move with
  | nothing _ unstaged => apply unstaged
  | seals _ _ res => cases res <;> cases unsealed

namespace Follows

variable {S : SelectorStore σ}

theorem entriesAt {c : Copies} {m : SystemBankManager} (follows : Follows c m) (id : String) :
  c.entriesAt id = (m.current[id]?, m.committed[id]?)
  := by rw [Copies.entriesAt, follows.current, follows.committed]

/-- A load that returns takes over the copies. -/
theorem of_load (honours : Honours copies S) {s t : σ}
    (floor : (copies s).primary = none → (copies s).secondary = none) {m : SystemBankManager}
    (loaded : load S s = (.ok m, t)) :
  Follows (copies t) m ∧ (copies t).primary = (copies s).primary ∧
  (copies t).secondary = (copies s).secondary
  := by
  have view : ∀ header header' transaction, Follows { copies s with header := header' }
      (({ copies s with header } : Copies).view transaction) := fun _ _ _ => ⟨rfl, rfl, floor⟩
  rcases honours.readPrimary s with primary | ⟨-, e, primary⟩
  · rcases honours.readSecondary s with secondary | ⟨-, e, secondary⟩
    · obtain ⟨header, read⟩ : ∃ header, S.readTransaction s = (.ok header, s) := by
        rcases honours.readTransaction s with read | read
        · exact ⟨_, read⟩
        · exact ⟨_, read⟩
      cases unrecorded : ({ copies s with header } : Copies).unrecorded with
      | none =>
        cases loaded.symm.trans
          (load_of_recorded (c := { copies s with header }) primary secondary read unrecorded)
        exact ⟨view _ _ _, rfl, rfl⟩
      | some marked =>
        rcases call : S.writeTransaction (generationOf (copies s).primary) marked s with ⟨res, _⟩
        have eq := loaded.symm.trans
          (load_of_unrecorded (c := { copies s with header }) primary secondary read
            unrecorded call)
        cases res with
        | ok =>
          cases eq
          rw [honours.writeTransaction_ok call]
          exact ⟨view _ _ _, rfl, rfl⟩
        | err =>
          cases eq
          rw [honours.writeTransaction_err call]
          exact ⟨view _ _ _, rfl, rfl⟩
        | stopped => cases eq
    · cases loaded.symm.trans (load_of_unreadable (.inr ⟨⟨_, primary⟩, secondary⟩))
  · cases loaded.symm.trans (load_of_unreadable (.inl primary))

variable {n n' : Running σ} {op : Op} {answer : Ending SelectorError Answer}

/-- A call that returns keeps the manager and the copies together, and does to the entries of every
component what the manager expects. -/
theorem step (follows : Follows (copies n.store) n.manager) (honours : Honours copies S)
    (move : OpMove κ S n op answer n') (returned : answer ≠ .stopped) :
  Follows (copies n'.store) n'.manager ∧
    ∀ id, (copies n'.store).entriesAt id = n.manager.entriesAfter id op answer
  := by
  have same : ∀ {t : σ} {m : SystemBankManager}, copies t = copies n.store →
      m.current = n.manager.current → m.committed = n.manager.committed →
      Follows (copies t) m ∧
        ∀ id, (copies t).entriesAt id = (n.manager.current[id]?, n.manager.committed[id]?) := by
    intro t m eq current committed
    rw [eq]
    use ⟨current.trans follows.current, committed.trans follows.committed, follows.floor⟩
    apply follows.entriesAt
  cases move with
  | staged | nothing | observes => exact same rfl rfl rfl
  | seals _ _ res _ staged call =>
    cases res with
    | ok =>
      have activated := honours.activate_ok call
      constructor
      · constructor
        · rw [activated.primary]
          rfl
        · rw [activated.secondary]
          apply follows.committed
        · intro absent
          cases absent.symm.trans activated.primary
      · intro id
        rw [Copies.entriesAt, activated.primary, activated.secondary, ← follows.committed]
        simp only [Ending.map, SystemBankManager.entriesAfter,
          SystemBankManager.stagedEntry, staged]
        rfl
    | err => exact same (honours.activate_err call) rfl rfl
    | stopped => apply absurd rfl returned
  | commits res _ call =>
    cases res with
    | ok =>
      have secondary : (copies n.store).primary.or (copies n.store).secondary =
        (copies n.store).primary := by
        cases primary : (copies n.store).primary with
        | none => rw [follows.floor primary, Option.none_or]
        | some => rw [Option.some_or]
      rw [honours.commit_ok call, secondary]
      constructor
      · exact ⟨follows.current, follows.current, id⟩
      · intro id
        rw [Copies.entriesAt, ← follows.current]
        rfl
    | err => exact same (honours.commit_err call) rfl rfl
    | stopped => apply absurd rfl returned
  | settled _ settled =>
    have eq : n.manager.current = n.manager.committed := by
      simpa [SystemBankManager.isTrial] using settled
    have kept := same (t := n.store) (m := { n.manager with pending := none }) rfl rfl rfl
    rw [eq] at kept
    apply kept
  | rollsBack _ res _ _ call =>
    cases res with
    | ok =>
      obtain ⟨v, secondary, rfl, eq⟩ := honours.rollback_ok call
      have committed : n.manager.committed = v.entries := by
        rw [follows.committed, secondary]
        rfl
      rw [eq]
      constructor
      · exact ⟨committed, follows.committed, by rintro ⟨⟩⟩
      · intro id
        rw [Copies.entriesAt, ← follows.committed]
        simp only [SystemBankManager.entriesAfter, committed]
        rfl
    | err => exact same (honours.rollback_err call) rfl rfl
    | stopped => apply absurd rfl returned
  | counts _ _ res _ _ _ call =>
    cases res with
    | ok =>
      rw [honours.writeTransaction_ok call]
      use ⟨follows.current, follows.committed, follows.floor⟩
      apply follows.entriesAt
    | err => exact same (honours.writeTransaction_err call) rfl rfl
    | stopped => apply absurd rfl returned

end Follows

end SystemBank

namespace ComponentMgr

open Call Nv

/-! ### Histories of a node -/

/-- How the boot vector is found when the node starts again: as it was left, with the committed copy
restored by the boot stage, or otherwise, after a call was cut off. -/
inductive Restart
  | plain
  | restored
  | other
deriving DecidableEq

/-- What happens on a node whose components share a boot vector: a provider or the registry calls
the manager, NV changes on its own, or the node starts again. -/
inductive Event
  | called (p : IvdBankProvider) (op : ProviderOp) (answer : Ending BankError Unit)
  | managed (op : Op) (answer : Ending SelectorError Answer)
  | nvChanged
  | restarted (restart : Restart)

section Histories

variable (κ : Signing) (copies : σ → Copies)

def Restart.Finds (before after : Copies) : Restart → Prop
  | plain => after.primary = before.primary ∧ after.secondary = before.secondary
  | restored => after.primary = before.secondary ∧ after.secondary = before.secondary
  | other => after.primary = none → after.secondary = none

/-- An event, over a store with whatever faults that keep its contract. A call that is cut off is
one way in which the node is started again. -/
inductive Happens (x : Shared σ) : Event → Shared σ → Prop
  | called {p : IvdBankProvider} {op : ProviderOp} {answer : Ending BankError Unit} {y : Shared σ}
      (env : Environment σ) (honours : Honours copies env.store) (wired : p.selector = true)
      (returned : answer ≠ .stopped) (call : op.run κ env p x = (answer, y)) :
      Happens x (.called p op answer) y
  | managed {op : Op} {answer : Ending SelectorError Answer} {r : Running σ} (S : SelectorStore σ)
      (honours : Honours copies S) (returned : answer ≠ .stopped)
      (call : op.run κ S x.running = (answer, r)) :
      Happens x (.managed op answer) { x with running := r }
  | nvChanged (nv : NvStore) : Happens x .nvChanged { x with nv }
  | restarted {restart : Restart} {s t : σ} {m : SystemBankManager} (S : SelectorStore σ)
      (honours : Honours copies S) (finds : restart.Finds (copies x.running.store) (copies s))
      (loaded : load S s = (.ok m, t)) :
      Happens x (.restarted restart) { x with running := ⟨t, m⟩ }

/-- Events one after the other, each of them allowed in its state. -/
def History (allowed : Shared σ → Event → Prop) (x : Shared σ) : Shared σ → Prop :=
  Reachable (· = x) fun y z => ∃ event, allowed y event ∧ Happens κ copies y event z

def Started (x : Shared σ) : Prop :=
  ∃ S s, Honours copies S ∧ ((copies s).primary = none → (copies s).secondary = none) ∧
    load S s = (.ok x.running.manager, x.running.store)

end Histories

/-! ### The calls of the others -/

/-- Nothing is sealed for a component that is not sealed already, and no end of a trial concerns
it. -/
def Spared (id : String) (m : SystemBankManager) : ProviderOp → Prop
  | .activate _ => m.stagedEntry id = m.current[id]?
  | .commit | .rollback => m.current[id]? = m.committed[id]?

/-- Events that spare a component: the calls of other components that return spare it, nothing of it
is sealed otherwise, and a restart finds the boot vector as it was left or restored. -/
def Sparing {σ : Type} (id : String) (x : Shared σ) : Event → Prop
  | .called p op answer =>
      p.componentId ≠ id ∧ (answer = .ok () → Spared id x.running.manager op)
  | .managed _ answer =>
      answer = .ok (.sealed true) → x.running.manager.stagedEntry id =
        x.running.manager.current[id]?
  | .nvChanged => True
  | .restarted restart => restart ≠ .other

variable {x : Shared σ} {env : Environment σ} {p : IvdBankProvider} {answer : Ending BankError Unit}

section Calls

variable {y : Shared σ}

abbrev Following (copies : σ → Copies) (x : Shared σ) : Prop :=
  Follows (copies x.running.store) x.running.manager

/-- What a call of a provider does to the entries of another component. -/
def entriesAfterCall (id : String) (m : SystemBankManager) :
    ProviderOp → Option ComponentEntry × Option ComponentEntry
  | .activate _ => (m.stagedEntry id, m.committed[id]?)
  | .commit => (m.current[id]?, m.current[id]?)
  | .rollback => (m.committed[id]?, m.committed[id]?)

/-- A call of a provider that returns keeps the manager and the copies together. One that returns an
error leaves the entries of the other components alone, unless it is a rollback of the vector that
NV did not follow. -/
theorem ProviderMove.follows (following : Following copies x) (honours : Honours copies env.store)
    {op : ProviderOp} (move : ProviderMove κ env p x op answer y) (returned : answer ≠ .stopped) :
  Following copies y ∧ ∀ id, id ≠ p.componentId →
    ((copies y.running.store).entriesAt id = entriesAfterCall id x.running.manager op ∧
        (answer = .ok () ∨ op = .rollback) ∨
      answer ≠ .ok () ∧ (copies y.running.store).entriesAt id =
        (copies x.running.store).entriesAt id)
  := by
  cases move with
  | unactivated =>
    use following
    intro id _
    right
    exact ⟨nofun, rfl⟩
  | activates bank res _ move =>
    have followed : Follows (copies (p.staged env bank x.running).store)
        (p.staged env bank x.running).manager :=
      ⟨following.current, following.committed, following.floor⟩
    cases res with
    | ok b =>
      obtain ⟨follows, entries⟩ := followed.step honours move nofun
      use follows
      intro id other
      left
      refine ⟨?_, .inl rfl⟩
      rw [entries, entriesAfterCall, ← SystemBankManager.stagedEntry_withStaged _ id other]
      cases b with
      | true => rfl
      | false => cases move.pending_eq_none rfl
    | err =>
      obtain ⟨follows, entries⟩ := followed.step honours move nofun
      use follows
      intro id _
      right
      use nofun
      rw [entries, following.entriesAt]
      rfl
    | stopped => apply absurd rfl returned
  | uncommitted res _ _ refused =>
    use following
    intro id _
    right
    constructor
    · intro ok
      cases res with
      | ok => apply refused.1 rfl
      | err | stopped => cases ok
    · rfl
  | commits _ _ res _ move =>
    cases res with
    | ok =>
      obtain ⟨follows, entries⟩ := following.step honours move nofun
      use follows
      intro id _
      left
      exact ⟨entries id, .inl rfl⟩
    | err =>
      obtain ⟨follows, entries⟩ := following.step honours move nofun
      use follows
      intro id _
      right
      use nofun
      rw [entries, following.entriesAt]
      rfl
    | stopped => apply absurd rfl returned
  | refused _ refused =>
    use following
    intro id _
    right
    exact ⟨refused, rfl⟩
  | unreturned res _ move failed =>
    cases res with
    | ok => apply absurd rfl failed
    | err =>
      obtain ⟨follows, entries⟩ := following.step honours move nofun
      use follows
      intro id _
      right
      use nofun
      rw [entries, following.entriesAt]
      rfl
    | stopped => apply absurd rfl returned
  | rollsBack _ move =>
    obtain ⟨follows, entries⟩ := following.step honours move nofun
    use follows
    intro id _
    left
    exact ⟨entries id, .inr rfl⟩

/-- The call of another component changes nothing exactly if the component is spared. -/
theorem entriesAfterCall_eq_iff (following : Following copies x) (id : String) (op : ProviderOp) :
  entriesAfterCall id x.running.manager op = (copies x.running.store).entriesAt id ↔
    Spared id x.running.manager op
  := by
  rw [following.entriesAt]
  cases op with
  | activate => simp only [entriesAfterCall, Spared, Prod.mk.injEq, and_true]
  | commit => simp only [entriesAfterCall, Spared, Prod.mk.injEq, true_and]
  | rollback =>
    simp only [entriesAfterCall, Spared, Prod.mk.injEq, and_true]
    exact ⟨Eq.symm, Eq.symm⟩

/-! ### Whole histories -/

variable {event : Event} {id : String}

theorem Restart.Finds.floor {restart : Restart} {s : σ} (following : Following copies x)
    (finds : restart.Finds (copies x.running.store) (copies s)) :
  (copies s).primary = none → (copies s).secondary = none
  := by
  cases restart with
  | plain =>
    rw [finds.1, finds.2]
    apply following.floor
  | restored =>
    rw [finds.1, finds.2]
    apply id
  | other => apply finds

theorem Happens.following (following : Following copies x) (happens : Happens κ copies x event y) :
  Following copies y
  := by
  cases happens with
  | @called _ op _ _ env honours wired returned call =>
    have move := op.moves κ env x wired
    rw [call] at move
    apply (ProviderMove.follows following honours move returned).1
  | @managed op _ _ S honours returned call =>
    have move := op.moves κ S x.running
    rw [call] at move
    apply (following.step honours move returned).1
  | nvChanged => apply following
  | @restarted _ _ _ _ _ honours finds loaded =>
    apply (Follows.of_load honours (finds.floor following) loaded).1

/-- An event that spares a component keeps its entries, if they agree. -/
theorem Happens.entriesAt_eq (following : Following copies x)
    (settled : x.running.manager.current[id]? = x.running.manager.committed[id]?)
    (sparing : Sparing id x event) (happens : Happens κ copies x event y) :
  (copies y.running.store).entriesAt id = (copies x.running.store).entriesAt id
  := by
  cases happens with
  | @called _ op _ _ env honours wired returned call =>
    have move := op.moves κ env x wired
    rw [call] at move
    obtain ⟨other, spared⟩ := sparing
    rcases (ProviderMove.follows following honours move returned).2 id other.symm with
      ⟨eq, ok | rfl⟩ | ⟨-, eq⟩
    · rw [eq, entriesAfterCall_eq_iff following]
      apply spared ok
    · rw [eq, entriesAfterCall_eq_iff following]
      apply settled
    · apply eq
  | @managed op _ _ S honours returned call =>
    have move := op.moves κ S x.running
    rw [call] at move
    rw [(following.step honours move returned).2, following.entriesAt,
      SystemBankManager.entriesAfter_eq settled sparing]
  | nvChanged => rfl
  | @restarted restart _ _ _ _ honours finds loaded =>
    obtain ⟨-, primary, secondary⟩ := Follows.of_load honours (finds.floor following) loaded
    cases restart with
    | plain =>
      rw [Copies.entriesAt, primary, secondary, finds.1, finds.2]
      rfl
    | restored =>
      rw [following.entriesAt, settled, Copies.entriesAt, primary, secondary, finds.1, finds.2,
        following.committed]
    | other => apply absurd rfl sparing

theorem following_of_history {allowed : Shared σ → Event → Prop} (following : Following copies x)
    (history : History κ copies allowed x y) :
  Following copies y
  := by
  apply history.invariant (P := Following copies)
  · rintro _ rfl
    apply following
  · rintro y z following ⟨event, -, happens⟩
    apply happens.following following

theorem entriesAt_of_history (following : Following copies x)
    (settled : x.running.manager.current[id]? = x.running.manager.committed[id]?)
    (history : History κ copies (Sparing id) x y) :
  (copies y.running.store).entriesAt id = (copies x.running.store).entriesAt id
  := by
  apply (history.invariant (P := fun y => Following copies y ∧
    (copies y.running.store).entriesAt id = (copies x.running.store).entriesAt id) _ _).2
  · rintro _ rfl
    exact ⟨following, rfl⟩
  · rintro y z ⟨following', eq⟩ ⟨event, sparing, happens⟩
    have settled' : y.running.manager.current[id]? = y.running.manager.committed[id]? := by
      rw [following.entriesAt, following'.entriesAt, settled] at eq
      obtain ⟨current, committed⟩ := Prod.mk.inj eq
      rw [current, committed]
    use happens.following following'
    apply (happens.entriesAt_eq following' settled' sparing).trans eq

end Calls

/-! ### A failed activation -/

section Failed

variable {start x₁ : Shared σ}

theorem following_of_started (started : Started copies x) :
  Following copies x
  := by
  obtain ⟨S, s, honours, floor, loaded⟩ := started
  apply (Follows.of_load honours floor loaded).1

/-- A failed activation changes neither copy. -/
theorem entriesAt_of_failed (following : Following copies x) (honours : Honours copies env.store)
    {bank : Bank} {e : BankError} (failed : answer = .err e)
    (move : ProviderMove κ env p x (.activate bank) answer x₁) (id : String) :
  (copies x₁.running.store).entriesAt id = (copies x.running.store).entriesAt id
  := by
  cases move with
  | unactivated => rfl
  | activates bank res _ move =>
    have followed : Follows (copies (p.staged env bank x.running).store)
        (p.staged env bank x.running).manager :=
      ⟨following.current, following.committed, following.floor⟩
    cases res with
    | ok | stopped => cases failed
    | err =>
      rw [(followed.step honours move nofun).2, following.entriesAt]
      rfl

/-- After an activation failed, a call of another component that returns leaves the entries of the
component alone exactly if it finds nothing of the component staged, or, as a commit or a rollback,
finds the component settled. Events that all spare the component keep its entries as they were
before it was activated. -/
theorem failed_activation_spared (started : Started copies start)
    (history : History κ copies (fun _ _ => True) start x) (wired : p.selector = true)
    (honours : Honours copies env.store) {bank : Bank} {e : BankError}
    (failed : p.activate κ env bank x = (.err e, x₁)) :
  (∀ y, History κ copies (fun _ _ => True) x₁ y →
    ∀ q env' op z, q.selector = true → q.componentId ≠ p.componentId → Honours copies env'.store →
      ProviderOp.run κ env' q op y = (.ok (), z) →
      ((copies z.running.store).entriesAt p.componentId =
        (copies y.running.store).entriesAt p.componentId ↔
        Spared p.componentId y.running.manager op)) ∧
  (x.running.manager.current[p.componentId]? = x.running.manager.committed[p.componentId]? →
    ∀ y, History κ copies (Sparing p.componentId) x₁ y →
      (copies y.running.store).entriesAt p.componentId =
        (copies x.running.store).entriesAt p.componentId)
  := by
  have following := following_of_history (following_of_started started) history
  have move := (ProviderOp.activate bank).moves κ env x wired
  rw [ProviderOp.run, run_bind_err failed] at move
  have following₁ : Following copies x₁ :=
    (ProviderMove.follows following honours move (by rintro ⟨⟩)).1
  constructor
  · intro y later q env' op z wired' other honours' call
    have following' := following_of_history following₁ later
    have move' := op.moves κ env' y wired'
    rw [call] at move'
    rcases (ProviderMove.follows following' honours' move' (by rintro ⟨⟩)).2 p.componentId
      other.symm with
      ⟨eq, -⟩ | ⟨failed', -⟩
    · rw [eq, entriesAfterCall_eq_iff following']
    · apply absurd rfl failed'
  · intro settled y later
    have eq := entriesAt_of_failed following honours rfl move p.componentId
    have settled₁ : x₁.running.manager.current[p.componentId]? =
        x₁.running.manager.committed[p.componentId]? := by
      rw [following.entriesAt, following₁.entriesAt, settled] at eq
      obtain ⟨current, committed⟩ := Prod.mk.inj eq
      rw [current, committed]
    apply (entriesAt_of_history following₁ settled₁ later).trans eq

end Failed

/-! ### Two machines -/

namespace TwoMachines

abbrev Store := InMemorySelectorStore

def vector : BootVector where
  generation := 1
  entries := ((∅ : Entries).insert "vm1" { bank := .A }).insert "vm2" { bank := .A }

def start : Shared Store where
  nv := { deviceSize := 0 }
  running := {
    store := { primary := some vector, secondary := some vector }
    manager := {
      current := vector.entries
      generation := 1
      committed := vector.entries
      committedGeneration := 1
      transaction := none } }

def vm1 : IvdBankProvider where
  bankSet := ⟨1⟩
  componentId := "vm1"
  dirName := "vm1"

def vm2 : IvdBankProvider where
  bankSet := ⟨2⟩
  componentId := "vm2"
  dirName := "vm2"

def working : Environment Store where
  store := inMemorySelectorStore

def failing : Environment Store where
  store := { inMemorySelectorStore with activate := fun _ _ => fail (.io "no space") }

theorem failing_honours :
  Honours InMemory.copies failing.store
  := by
  apply InMemory.honours_with
  · rintro _ _ _ _ _ ⟨⟩
    rfl
  · nofun

theorem started :
  Started InMemory.copies start
  := ⟨inMemorySelectorStore, start.running.store, InMemory.honours, nofun, rfl⟩

def staged : Shared Store :=
  { start with running := vm1.staged failing .B start.running }

def sealedEntries (entries : Entries) : Entries :=
  entries.insert "vm2" { bank := .B }

/-- The activation of the second machine was sealed on top of a selection. -/
def sealed (κ : Signing) (entries : Entries) : Shared Store :=
  { start with
    running := {
      store := { start.running.store with
        primary := some { generation := 2, entries := sealedEntries entries }
        transaction := some (2, sealHeader κ none) }
      manager := start.running.manager.afterSeal (sealedEntries entries) 2 (sealHeader κ none) } }

theorem activate_vm1 (κ : Signing) :
  ∃ e, vm1.activate κ failing .B start = (.err e, staged)
  := ⟨_, rfl⟩

end TwoMachines

open TwoMachines in
/-- The activation of one machine fails and leaves its entry staged; the activation of the other
returns, and the first machine boots from the bank whose activation failed. -/
theorem failed_activation_leaks :
  ∃ (start : Shared Store) (p q : IvdBankProvider) (env env' : Environment Store),
    Started InMemory.copies start ∧ Honours InMemory.copies env.store ∧
    Honours InMemory.copies env'.store ∧ p.selector = true ∧ q.selector = true ∧
    q.componentId ≠ p.componentId ∧ ∀ κ : Signing, ∃ e x z,
      p.activate κ env .B start = (.err e, x) ∧ q.activate κ env' .B x = (.ok .local, z) ∧
      ((InMemory.copies x.running.store).entriesAt p.componentId).1 = some { bank := .A } ∧
      ((InMemory.copies z.running.store).entriesAt p.componentId).1 = some { bank := .B }
  := by
  use start, vm1, vm2, failing, working, started, failing_honours, InMemory.honours, rfl, rfl
  use by decide
  intro κ
  obtain ⟨e, failed⟩ := activate_vm1 κ
  use e, staged, sealed κ (vector.entries.insert "vm1" { bank := .B }), failed, rfl
  constructor
  · have before : vector.entries["vm1"]? = some { bank := .A } := by decide +kernel
    apply before
  · have after : (sealedEntries (vector.entries.insert "vm1" { bank := .B }))["vm1"]? =
      some { bank := .B } := by decide +kernel
    apply after

open TwoMachines in
/-- The activation of one machine fails, the node is started again, and the activation of the other
machine leaves the first one on its bank. -/
theorem failed_activation_spared_restart :
  ∃ start : Shared Store, Started InMemory.copies start ∧ ∀ κ : Signing, ∃ e x y,
    vm1.activate κ failing .B start = (.err e, x) ∧ x.running.manager.pending ≠ none ∧
    History κ InMemory.copies (Sparing "vm1") x y ∧
    (InMemory.copies y.running.store).entriesAt "vm2" = (some { bank := .B }, some { bank := .A }) ∧
    (InMemory.copies y.running.store).entriesAt "vm1" =
      (InMemory.copies start.running.store).entriesAt "vm1"
  := by
  use start, started
  intro κ
  obtain ⟨e, failed⟩ := activate_vm1 κ
  have restarted : History κ InMemory.copies (Sparing "vm1") staged start := by
    refine .step (.init rfl) ⟨.restarted .plain, nofun, ?_⟩
    exact .restarted inMemorySelectorStore (s := start.running.store) InMemory.honours
      ⟨rfl, rfl⟩ rfl
  have later : History κ InMemory.copies (Sparing "vm1") staged (sealed κ vector.entries) := by
    apply restarted.step
    use .called vm2 (.activate .B) (.ok ()), ⟨by decide, fun _ => rfl⟩
    exact .called working InMemory.honours rfl nofun rfl
  have spared := (failed_activation_spared started (.init rfl) rfl failing_honours failed).2 rfl
    (sealed κ vector.entries) later
  have activated : (sealedEntries vector.entries)["vm2"]? = some { bank := .B } ∧
      vector.entries["vm2"]? = some { bank := .A } := by decide +kernel
  exact ⟨e, staged, sealed κ vector.entries, failed, nofun, later,
    Prod.ext activated.1 activated.2, spared⟩

end ComponentMgr
