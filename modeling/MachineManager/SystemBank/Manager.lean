import MachineManager.Selector.Memory

/-!
# The manager of the boot vector

`SystemBankManager` keeps the boot vector in memory: the selection that boots, the committed one,
the header of the running transaction, and a staged selection that is written nowhere. It reads the
store once, when it is loaded, and then follows the answers of its own calls. A call of the manager
is a call over the state of any `SelectorStore` together with the manager.
-/

namespace SystemBank

open Selector Call InMemorySelectorStore RecordSelectorStore

/-- The verbs of a store with states `σ`, with the faults that they meet. -/
structure SelectorStore (σ : Type) where
  readPrimary : Call σ SelectorError (Option BootVector)
  readSecondary : Call σ SelectorError (Option BootVector)
  activate (entries : Entries) (header : Transaction) : Call σ SelectorError Nat
  commit : Call σ SelectorError Unit
  rollback (header : Transaction) : Call σ SelectorError Nat
  readTransaction : Call σ SelectorError (Option (Nat × Transaction))
  writeTransaction (generation : Nat) (header : Transaction) : Call σ SelectorError Unit

def recordSelectorStore (κ : Signing) (r : Routing) (io : Io) : SelectorStore StoreState where
  readPrimary := readPrimary κ io
  readSecondary := readSecondary κ io
  activate := activate κ r io
  commit := commit κ r io
  rollback := rollback κ r io
  readTransaction := readTransaction κ r io
  writeTransaction := writeTransaction κ io

def inMemorySelectorStore : SelectorStore InMemorySelectorStore where
  readPrimary := readPrimary
  readSecondary := readSecondary
  activate := activate
  commit := commit
  rollback := rollback
  readTransaction := readTransaction
  writeTransaction := writeTransaction

/-! ### Headers -/

/-- The digest of a boot id: the first half of its SHA-256. -/
def bootIdDigest (κ : Signing) (id : String) : Buffer 16 :=
  Buffer.slice (κ.sha256 id.toUTF8.toList) 0 16

/-- The header of a transaction that was armed in a boot with the digest. -/
def armedAt (digest : Buffer 16) : Transaction where
  armedBootId := digest
  trialBoots := 0
  countedBootId := Buffer.zeros 16
  resolution := none

/-- The header with which a selection is sealed. -/
def sealHeader (κ : Signing) (armedBootId : Option String) : Transaction :=
  armedAt (armedBootId.elim (Buffer.zeros 16) (bootIdDigest κ))

/-- The transaction ended with a rollback. -/
def rolledBack (reason : Reason) (t : Transaction) : Transaction :=
  { t with resolution := some { outcome := .rolledBack, reason } }

/-- One more boot was counted; the count saturates. -/
def countBoot (digest : Buffer 16) (t : Transaction) : Transaction :=
  { t with
    trialBoots := if t.trialBoots = 255 then 255 else t.trialBoots + 1
    countedBootId := digest }

/-! ### The manager -/

/-- What the manager keeps in memory. -/
structure SystemBankManager where
  current : Entries
  generation : Nat
  committed : Entries
  committedGeneration : Nat
  transaction : Option Transaction
  pending : Option Entries := none
deriving DecidableEq

/-- What a boot of the node was to the running trial. -/
inductive BootObservation
  | notArmed
  | alreadyCounted (trialBoots : UInt8)
  | counted (trialBoots : UInt8)
deriving DecidableEq

namespace SystemBankManager

variable (m : SystemBankManager)

/-- The selection that boots is not the committed one. -/
def isTrial : Bool :=
  m.current != m.committed

/-- The bank that the boot vector selects for a component. -/
def activeBank (id : String) : Option Nv.Bank :=
  m.current[id]?.map (·.bank)

/-- The entry that boots is not the committed one. -/
def componentInTrial (id : String) : Bool :=
  m.current[id]?.any fun entry => m.committed[id]? != some entry

/-- The manager with an entry in its staged selection, which starts as the one that boots. -/
def withStaged (id : String) (entry : ComponentEntry) : SystemBankManager :=
  { m with pending := some ((m.pending.getD m.current).insert id entry) }

/-- The manager after its staged selection became the one that boots. -/
def afterSeal (pending : Entries) (generation : Nat) (header : Transaction) : SystemBankManager :=
  { m with pending := none, current := pending, generation, transaction := some header }

/-- The manager after the selection that boots became the committed one. -/
def afterCommit : SystemBankManager :=
  { m with committed := m.current, committedGeneration := m.generation }

/-- The manager after the committed selection became the one that boots. -/
def afterRollback (generation : Nat) (header : Transaction) : SystemBankManager :=
  { m with current := m.committed, generation, transaction := some header, pending := none }

/-- The header with which the running trial is rolled back. -/
def rollbackHeader (reason : Reason) : Transaction :=
  rolledBack reason (m.transaction.getD (armedAt (Buffer.zeros 16)))

end SystemBankManager

/-! ### Loading -/

section Load

variable {σ : Type} (S : SelectorStore σ)

/-- The header that is taken over for a primary copy at the generation. A header above it, on a
committed vector and without a resolution, is the mark of a rollback by the boot stage, which is
recorded first. -/
def adoptHeader (generation : Nat) (current committed : Entries) :
    Option (Nat × Transaction) → Call σ SelectorError (Option Transaction)
  | none => return none
  | some (g, header) => do
    if g = generation then return some header
    else if generation < g ∧ current = committed ∧ header.resolution = none then
      let header := rolledBack .bootStage header
      match ← attempt (S.writeTransaction generation header) with
      | .ok () => return some header
      | .error _ => return none
    else return none

/-- The entries of a copy, none if it is absent. -/
def entriesOf (v : Option BootVector) : Entries :=
  v.elim ∅ (·.entries)

/-- The generation of a copy, zero if it is absent. -/
def generationOf (v : Option BootVector) : Nat :=
  v.elim 0 (·.generation)

/-- The manager, as it is read from the store. -/
def load : Call σ SelectorError SystemBankManager := do
  let primary ← S.readPrimary
  let secondary ← S.readSecondary
  let header ← S.readTransaction
  let transaction ←
    adoptHeader S (generationOf primary) (entriesOf primary) (entriesOf secondary) header
  return {
    current := entriesOf primary
    generation := generationOf primary
    committed := entriesOf secondary
    committedGeneration := generationOf secondary
    transaction }

end Load

/-! ### What a load holds -/

/-- What a store reads as: its two copies, and its header with the generation it was recorded
for. -/
structure Copies where
  primary : Option BootVector := none
  secondary : Option BootVector := none
  header : Option (Nat × Transaction) := none
deriving DecidableEq

namespace Copies

variable (c : Copies)

/-- The header at the primary generation. -/
def headerAtPrimary : Option Transaction :=
  (c.header.filter fun h => h.1 = generationOf c.primary).map (·.2)

/-- The header that a load records, if the copies bear the mark of a rollback by the boot stage. -/
def unrecorded : Option Transaction :=
  (c.header.filter fun h => generationOf c.primary < h.1 ∧
    entriesOf c.primary = entriesOf c.secondary ∧ h.2.resolution = none).map
      fun h => rolledBack .bootStage h.2

/-- The manager over the copies, with a header. -/
def view (transaction : Option Transaction) : SystemBankManager where
  current := entriesOf c.primary
  generation := generationOf c.primary
  committed := entriesOf c.secondary
  committedGeneration := generationOf c.secondary
  transaction

/-- What a load holds when nothing fails. -/
def loaded : SystemBankManager :=
  c.view (c.unrecorded.or c.headerAtPrimary)

end Copies

section LoadCopies

variable {σ : Type} {S : SelectorStore σ} {c : Copies} {s t : σ}

theorem adoptHeader_of_recorded (recorded : c.unrecorded = none) :
  adoptHeader S (generationOf c.primary) (entriesOf c.primary) (entriesOf c.secondary) c.header s =
    (.ok c.headerAtPrimary, s)
  := by
  rw [Copies.unrecorded, Option.map_eq_none_iff, Option.filter_eq_none_iff] at recorded
  rw [Copies.headerAtPrimary]
  rcases stored : c.header with _ | ⟨g, header⟩
  · rfl
  · have unmarked := recorded (g, header) stored
    rw [decide_eq_true_eq] at unmarked
    rw [adoptHeader]
    by_cases here : g = generationOf c.primary
    · simp only [here, if_true, Option.filter_some, decide_true, Option.map_some]
      rfl
    · simp only [here, unmarked, if_false, Option.filter_some, decide_false, Bool.false_eq_true,
        Option.map_none]
      rfl

/-- The header that is taken over after it was written. -/
def adoptedOf (header : Transaction) :
    Ending SelectorError Unit → Ending SelectorError (Option Transaction)
  | .ok () => .ok (some header)
  | .err _ => .ok none
  | .stopped => .stopped

variable {res : Ending SelectorError Unit}

theorem adoptHeader_of_unrecorded {header : Transaction} (unrecorded : c.unrecorded = some header)
    (call : S.writeTransaction (generationOf c.primary) header s = (res, t)) :
  adoptHeader S (generationOf c.primary) (entriesOf c.primary) (entriesOf c.secondary) c.header s =
    (adoptedOf header res, t)
  := by
  obtain ⟨⟨g, _⟩, filtered, rfl⟩ := Option.map_eq_some_iff.mp unrecorded
  obtain ⟨stored, marked⟩ := Option.filter_eq_some_iff.mp filtered
  rw [decide_eq_true_eq] at marked
  have above : g ≠ generationOf c.primary := Nat.ne_of_gt marked.1
  rw [stored, adoptHeader, if_neg above, if_pos marked, run_bind, attempt, call]
  cases res <;> rfl

/-- Nothing is staged in a manager that was just loaded. -/
theorem load_unstaged {m : SystemBankManager} (loaded : load S s = (.ok m, t)) :
  m.pending = none
  := by
  rw [load] at loaded
  obtain ⟨_, _, -, loaded⟩ := ok_of_bind loaded
  obtain ⟨_, _, -, loaded⟩ := ok_of_bind loaded
  obtain ⟨_, _, -, loaded⟩ := ok_of_bind loaded
  obtain ⟨_, _, -, loaded⟩ := ok_of_bind loaded
  cases loaded
  rfl

/-- A copy that cannot be read is not taken for an absent one. -/
theorem load_of_unreadable {e : SelectorError}
    (unreadable : S.readPrimary s = (.err e, s) ∨
      (∃ p, S.readPrimary s = (.ok p, s)) ∧ S.readSecondary s = (.err e, s)) :
  load S s = (.err e, s)
  := by
  rcases unreadable with primary | ⟨⟨p, primary⟩, secondary⟩
  · rw [load, run_bind_err primary]
  · rw [load, run_bind_ok primary, run_bind_err secondary]

variable (primary : S.readPrimary s = (.ok c.primary, s))
  (secondary : S.readSecondary s = (.ok c.secondary, s))
  (header : S.readTransaction s = (.ok c.header, s))

include primary secondary header

/-- Without the mark of the boot stage a load writes nothing. -/
theorem load_of_recorded (recorded : c.unrecorded = none) :
  load S s = (.ok (c.view c.headerAtPrimary), s)
  := by
  rw [load, run_bind_ok primary, run_bind_ok secondary, run_bind_ok header,
    run_bind_ok (adoptHeader_of_recorded recorded)]
  rfl

/-- The mark of the boot stage is recorded first and taken over after. -/
theorem load_of_unrecorded {marked : Transaction} (unrecorded : c.unrecorded = some marked)
    (call : S.writeTransaction (generationOf c.primary) marked s = (res, t)) :
  load S s = ((adoptedOf marked res).map c.view, t)
  := by
  rw [load, run_bind_ok primary, run_bind_ok secondary, run_bind_ok header, run_bind,
    adoptHeader_of_unrecorded unrecorded call]
  cases res <;> rfl

end LoadCopies

/-! ### The calls of the manager -/

/-- The store and the manager that runs over it. -/
structure Running (σ : Type) where
  store : σ
  manager : SystemBankManager

section Calls

variable {σ α : Type} (κ : Signing) (S : SelectorStore σ)

def onStore (c : Call σ SelectorError α) : Call (Running σ) SelectorError α :=
  zoom Running.store (fun t n => { n with store := t }) c

/-- The manager changes what it keeps in memory. -/
def remember (f : SystemBankManager → SystemBankManager) : Call (Running σ) SelectorError Unit :=
  modify fun n => { n with manager := f n.manager }

def stage (id : String) (bank : Nv.Bank) (images : BTreeMap ImageEntry) :
    Call (Running σ) SelectorError Unit :=
  remember (·.withStaged id { bank, images })

def sealPending (armedBootId : Option String) : Call (Running σ) SelectorError Bool := do
  let n ← get
  match n.manager.pending with
  | none => return false
  | some pending =>
    let header := sealHeader κ armedBootId
    let generation ← onStore (S.activate pending header)
    remember (·.afterSeal pending generation header)
    return true

def commit : Call (Running σ) SelectorError Unit := do
  onStore S.commit
  remember (·.afterCommit)

def rollback (reason : Reason) : Call (Running σ) SelectorError Unit := do
  let n ← get
  if n.manager.isTrial then
    let header := n.manager.rollbackHeader reason
    let generation ← onStore (S.rollback header)
    remember (·.afterRollback generation header)
  else remember fun m => { m with pending := none }

def observeNodeBoot (currentBootId : String) : Call (Running σ) SelectorError BootObservation := do
  let n ← get
  match n.manager.transaction.filter fun _ => n.manager.isTrial with
  | none => return .notArmed
  | some t =>
    let digest := bootIdDigest κ currentBootId
    if t.armedBootId = Buffer.zeros 16 then return .notArmed
    else if digest = t.armedBootId ∨ digest = t.countedBootId then
      return .alreadyCounted t.trialBoots
    else
      let header := countBoot digest t
      onStore (S.writeTransaction n.manager.generation header)
      remember fun m => { m with transaction := some header }
      return .counted header.trialBoots

end Calls

/-! ### Any of the calls -/

/-- A call of the manager. -/
inductive Op
  | stage (id : String) (bank : Nv.Bank) (images : BTreeMap ImageEntry)
  | sealPending (armedBootId : Option String)
  | commit
  | rollback (reason : Reason)
  | observeNodeBoot (currentBootId : String)

/-- What a call of the manager returns. -/
inductive Answer
  | done
  | sealed (wrote : Bool)
  | observed (observation : BootObservation)
deriving DecidableEq

def Op.run {σ : Type} (κ : Signing) (S : SelectorStore σ) :
    Op → Call (Running σ) SelectorError Answer
  | stage id bank images => do SystemBank.stage id bank images; return .done
  | sealPending armedBootId => do return .sealed (← SystemBank.sealPending κ S armedBootId)
  | commit => do SystemBank.commit S; return .done
  | rollback reason => do SystemBank.rollback S reason; return .done
  | observeNodeBoot currentBootId => do
    return .observed (← SystemBank.observeNodeBoot κ S currentBootId)

/-! ### What the calls do -/

section Moves

variable {σ α β : Type} (κ : Signing) (S : SelectorStore σ)

/-- How a call of the manager follows the calls of its store: it changes what it keeps in memory
only after its store returned. -/
inductive OpMove (n : Running σ) : Op → Ending SelectorError Answer → Running σ → Prop
  | staged (id : String) (bank : Nv.Bank) (images : BTreeMap ImageEntry) :
      OpMove n (.stage id bank images) (.ok .done)
        { n with manager := n.manager.withStaged id { bank, images } }
  | nothing (armedBootId : Option String) (unstaged : n.manager.pending = none) :
      OpMove n (.sealPending armedBootId) (.ok (.sealed false)) n
  | seals (armedBootId : Option String) (pending : Entries) (res : Ending SelectorError Nat)
      (t : σ) (staged : n.manager.pending = some pending)
      (call : S.activate pending (sealHeader κ armedBootId) n.store = (res, t)) :
      OpMove n (.sealPending armedBootId) (res.map fun _ => .sealed true)
        ⟨t, res.onOk n.manager (n.manager.afterSeal pending · (sealHeader κ armedBootId))⟩
  | commits (res : Ending SelectorError Unit) (t : σ) (call : S.commit n.store = (res, t)) :
      OpMove n .commit (res.map fun _ => .done)
        ⟨t, res.onOk n.manager fun _ => n.manager.afterCommit⟩
  | settled (reason : Reason) (settled : n.manager.isTrial = false) :
      OpMove n (.rollback reason) (.ok .done)
        { n with manager := { n.manager with pending := none } }
  | rollsBack (reason : Reason) (res : Ending SelectorError Nat) (t : σ)
      (trial : n.manager.isTrial = true)
      (call : S.rollback (n.manager.rollbackHeader reason) n.store = (res, t)) :
      OpMove n (.rollback reason) (res.map fun _ => .done)
        ⟨t, res.onOk n.manager (n.manager.afterRollback · (n.manager.rollbackHeader reason))⟩
  | observes (id : String) (o : BootObservation) (not_counted : ∀ b, o ≠ .counted b) :
      OpMove n (.observeNodeBoot id) (.ok (.observed o)) n
  | counts (id : String) (header : Transaction) (res : Ending SelectorError Unit) (t : σ)
      (trial : n.manager.isTrial = true) (transaction : n.manager.transaction = some header)
      (call : S.writeTransaction n.manager.generation (countBoot (bootIdDigest κ id) header)
        n.store = (res, t)) :
      OpMove n (.observeNodeBoot id)
        (res.map fun _ => .observed (.counted (countBoot (bootIdDigest κ id) header).trialBoots))
        ⟨t, res.onOk n.manager fun _ =>
          { n.manager with transaction := some (countBoot (bootIdDigest κ id) header) }⟩

/-- A call of the store, after which the manager follows. -/
theorem run_onStore_bind {c : Call σ SelectorError α} {n : Running σ}
    {res : Ending SelectorError α} {t : σ} (call : c n.store = (res, t))
    {k : α → Call (Running σ) SelectorError β} (f : α → SystemBankManager → SystemBankManager)
    {b : β} (follow : ∀ a n, k a n = (.ok b, { n with manager := f a n.manager })) :
  (onStore c >>= k) n = (res.map fun _ => b, ⟨t, res.onOk n.manager (f · n.manager)⟩)
  := by
  have store : onStore c n = (res, ⟨t, n.manager⟩) := by rw [onStore, zoom, call]
  rw [run_bind, store]
  cases res with
  | ok => apply follow
  | err | stopped => rfl

variable {κ S} {n : Running σ} {t : σ}

theorem sealPending_none (unstaged : n.manager.pending = none) (armedBootId : Option String) :
  sealPending κ S armedBootId n = (.ok false, n)
  := by
  rw [sealPending, run_get_bind, unstaged]
  rfl

variable {res : Ending SelectorError Nat}

theorem sealPending_some {pending : Entries} (staged : n.manager.pending = some pending)
    {armedBootId : Option String}
    (call : S.activate pending (sealHeader κ armedBootId) n.store = (res, t)) :
  sealPending κ S armedBootId n = (res.map fun _ => true,
      ⟨t, res.onOk n.manager (n.manager.afterSeal pending · (sealHeader κ armedBootId))⟩)
  := by
  rw [sealPending, run_get_bind, staged]
  apply run_onStore_bind call (fun g m => m.afterSeal pending g (sealHeader κ armedBootId))
  intro g n
  rfl

theorem commit_eq {res : Ending SelectorError Unit} (call : S.commit n.store = (res, t)) :
  commit S n = (res.map fun _ => (), ⟨t, res.onOk n.manager fun _ => n.manager.afterCommit⟩)
  := run_onStore_bind call (fun _ m => m.afterCommit) fun _ _ => rfl

theorem rollback_settled (settled : n.manager.isTrial = false) (reason : Reason) :
  rollback S reason n = (.ok (), { n with manager := { n.manager with pending := none } })
  := by
  rw [rollback, run_get_bind, settled]
  rfl

theorem rollback_trial (trial : n.manager.isTrial = true) {reason : Reason}
    (call : S.rollback (n.manager.rollbackHeader reason) n.store = (res, t)) :
  rollback S reason n = (res.map fun _ => (),
      ⟨t, res.onOk n.manager (n.manager.afterRollback · (n.manager.rollbackHeader reason))⟩)
  := by
  rw [rollback, run_get_bind, if_pos trial]
  apply run_onStore_bind call fun g m => m.afterRollback g (n.manager.rollbackHeader reason)
  intro g n
  rfl

/-- A boot is only counted in a trial that has a header. -/
theorem observeNodeBoot_cases (id : String) :
  (∃ o, (∀ b, o ≠ .counted b) ∧ observeNodeBoot κ S id n = (.ok o, n)) ∨
  n.manager.isTrial = true ∧ ∃ header, n.manager.transaction = some header ∧
    ∀ res t, S.writeTransaction n.manager.generation (countBoot (bootIdDigest κ id) header)
        n.store = (res, t) →
      observeNodeBoot κ S id n =
        (res.map fun _ => .counted (countBoot (bootIdDigest κ id) header).trialBoots,
          ⟨t, res.onOk n.manager fun _ =>
            { n.manager with transaction := some (countBoot (bootIdDigest κ id) header) }⟩)
  := by
  rw [observeNodeBoot, run_get_bind]
  rcases filtered : n.manager.transaction.filter fun _ => n.manager.isTrial with _ | header
  · left
    use .notArmed, nofun
    rfl
  · obtain ⟨transaction, trial⟩ := Option.filter_eq_some_iff.mp filtered
    dsimp only
    split
    · left
      use .notArmed, nofun
      rfl
    · split
      · left
        use .alreadyCounted header.trialBoots, nofun
        rfl
      · right
        use trial, header, transaction
        intro res t call
        apply run_onStore_bind call fun _ m =>
          { m with transaction := some (countBoot (bootIdDigest κ id) header) }
        intro _ n
        rfl

variable (κ S)

/-- Every call of the manager is covered. -/
theorem Op.moves (op : Op) (n : Running σ) :
  OpMove κ S n op (op.run κ S n).1 (op.run κ S n).2
  := by
  cases op with
  | stage => apply OpMove.staged
  | sealPending armedBootId =>
    cases staged : n.manager.pending with
    | none =>
      rw [run, run_bind_ok (sealPending_none staged armedBootId)]
      apply OpMove.nothing armedBootId staged
    | some pending =>
      rcases call : S.activate pending (sealHeader κ armedBootId) n.store with ⟨res, t⟩
      have move := OpMove.seals armedBootId pending res t staged call
      rw [run, run_bind, sealPending_some staged call]
      cases res <;> apply move
  | commit =>
    rcases call : S.commit n.store with ⟨res, t⟩
    have move := OpMove.commits (κ := κ) res t call
    rw [run, run_bind, commit_eq call]
    cases res <;> apply move
  | rollback reason =>
    cases trial : n.manager.isTrial with
    | false =>
      rw [run, run_bind_ok (rollback_settled trial reason)]
      apply OpMove.settled reason trial
    | true =>
      rcases call : S.rollback (n.manager.rollbackHeader reason) n.store with ⟨res, t⟩
      have move := OpMove.rollsBack (κ := κ) reason res t trial call
      rw [run, run_bind, rollback_trial trial call]
      cases res <;> apply move
  | observeNodeBoot id =>
    rcases observeNodeBoot_cases (κ := κ) (S := S) (n := n) id with
      ⟨o, not_counted, eq⟩ | ⟨trial, header, transaction, eq⟩
    · rw [run, run_bind_ok eq]
      apply OpMove.observes id o not_counted
    · rcases call : S.writeTransaction n.manager.generation
        (countBoot (bootIdDigest κ id) header) n.store with ⟨res, t⟩
      have move := OpMove.counts id header res t trial transaction call
      rw [run, run_bind, eq res t call]
      cases res <;> apply move

variable {κ S}

/-- A call that a call of the manager consists of moves it in the same way. -/
theorem Op.moves_of {op : Op} {c : Call (Running σ) SelectorError α} {f : α → Answer}
    (run : op.run κ S = c >>= fun a => pure (f a)) {n' : Running σ} {res : Ending SelectorError α}
    (call : c n = (res, n')) :
  OpMove κ S n op (res.map f) n'
  := by
  have move := op.moves κ S n
  rw [run, run_bind, call] at move
  cases res <;> apply move

end Moves

end SystemBank
