import MachineManager.Selector.Errors
import MachineManager.SystemBank.Node

/-!
# Rollbacks by the boot stage

All that the boot stage leaves behind when it restores the committed copy is a header above the
primary generation. The next load finds it and records that the trial was rolled back, with the boot
id in which the trial was armed and the boots that were counted. A trial is followed from its seal,
over events that leave it alone, to the boot stage and to that load.
-/

open Option

namespace SystemBank

open Selector Call Cells Node

/-- The event leaves the record, the manager rows in `rows`, and the generation of the header. -/
structure Quiet (c c' : Cells) : Prop where
  primary : c'.primary = c.primary
  secondary : c'.secondary = c.secondary
  rows : c'.rows = c.rows
  header : c'.header.map (·.1) = c.header.map (·.1)

/-- Quiet events, one after the other; the boot stage does not act. -/
def QuietRun (κ : Signing) (r : Routing) (n : Node) : Node → Prop :=
  Reachable (· = n) fun n n' =>
    NodeStep κ r (· ≠ .bootStage) n n' ∧ Quiet (n.store.cells κ) (n'.store.cells κ)

variable {c c' : Cells} {κ : Signing} {r : Routing} {m : SystemBankManager}

section Quiet

variable {io : Io} {s : StoreState}

theorem Quiet.generation_eq (quiet : Quiet c c') {g g' : Nat} {h h' : Transaction}
    (stored : c.header = some (g, h)) (stored' : c'.header = some (g', h')) :
  g' = g
  := by
  have eq := quiet.header
  rw [stored, stored'] at eq
  apply some.inj eq

variable {op : Op} {answer : Ending SelectorError Answer} {x : Running StoreState}
  {manager : Option SystemBankManager}

/-- What a quiet call of the manager can do to the header, if none is below the primary
generation: only the count of a boot rewrites it. -/
theorem quiet_call (tidy : Tidy (s.cells κ)) {g : Nat} {h : Transaction}
    (stored : (s.cells κ).header = some (g, h)) (not_below : generationOf (s.cells κ).primary ≤ g)
    (move : OpMove κ (recordSelectorStore κ r io) ⟨s, m⟩ op answer x)
    (quiet : Quiet (s.cells κ) (x.store.cells κ)) :
  x.manager.generation = m.generation ∧
  (x.manager.transaction = m.transaction ∨
    ∃ digest t, m.transaction = some t ∧ x.manager.transaction = some (countBoot digest t)) ∧
  ((x.store.cells κ).header = (s.cells κ).header ∨
    ∃ digest t, m.transaction = some t ∧ (x.store.cells κ).header =
      some (m.generation, countBoot digest t))
  := by
  cases move with
  | staged | nothing | settled | observes => exact ⟨rfl, .inl rfl, .inl rfl⟩
  | seals _ pending res _ _ call =>
    rcases activateMove_cases tidy (activate_of_call call) with ⟨header, -, failed⟩ | ⟨cells, -⟩
    · cases res with
      | ok g => apply absurd rfl (failed g)
      | err | stopped => exact ⟨rfl, .inl rfl, .inl header⟩
    · have primary := quiet.primary
      dsimp only at primary
      rw [cells, primary_putHeaderIf] at primary
      apply absurd primary (issue_primary_ne r pending)
  | commits res _ call =>
    have header := (commitMove_keeps (commit_of_call call)).2
    cases res <;> exact ⟨rfl, .inl rfl, .inl header⟩
  | rollsBack _ res t _ call =>
    rcases rollbackMove_cases (rollback_of_call call) with
      ⟨primary, failed, header⟩ | ⟨v, secondary, trial', primary, header, -⟩
    · have kept : (t.cells κ).header = (s.cells κ).header := by
        rcases header with header | ⟨v, secondary, trial', header⟩
        · apply header
        · obtain rfl : v.generation = g := quiet.generation_eq stored header
          obtain ⟨p, hp, le⟩ := tidy.floor v secondary
          rw [hp] at not_below
          have same : p.generation = v.generation := Nat.le_antisymm not_below le
          rw [primaryGeneration, hp, map_some, same] at trial'
          apply absurd rfl trial'
      cases res with
      | ok g => apply absurd rfl (failed g)
      | err | stopped => exact ⟨rfl, .inl rfl, .inl kept⟩
    · have primary' := quiet.primary.symm.trans primary
      rw [primaryGeneration, primary'] at trial'
      apply absurd rfl trial'
  | counts id header res t _ transaction call =>
    obtain ⟨-, cells⟩ := writeTransaction_of_call call
    have header' : (t.cells κ).header = (s.cells κ).header ∨
        (t.cells κ).header = some (m.generation, countBoot (bootIdDigest κ id) header) := by
      rw [cells]
      cases io.transaction.landed
      · left
        rfl
      · right
        rfl
    have stored' : (t.cells κ).header = (s.cells κ).header ∨ ∃ digest t', m.transaction = some t' ∧
        (t.cells κ).header = some (m.generation, countBoot digest t') := by
      rcases header' with header' | header'
      · left
        apply header'
      · right
        use bootIdDigest κ id, header, transaction
    cases res with
    | ok => exact ⟨rfl, .inr ⟨_, header, transaction, rfl⟩, stored'⟩
    | err | stopped => exact ⟨rfl, .inl rfl, stored'⟩

/-! ### A trial whose header is stored -/

/-- The header was armed in a boot with the digest, and has no resolution. -/
def ArmedAt (digest : Buffer 16) (t : Transaction) : Prop :=
  t.armedBootId = digest ∧ t.resolution = none

/-- A trial at the generation is open: its manager rows and its header are stored. -/
structure OpenTrial (digest : Buffer 16) (g : Nat) (c : Cells)
    (manager : Option SystemBankManager) :
    Prop where
  tidy : Tidy c
  primary : generationOf c.primary = g
  floor : generationOf c.secondary < g
  rows : ∃ a, c.rows = some a ∧ a.generation = g
  header : ∃ h, c.header = some (g, h) ∧ ArmedAt digest h
  manager : ∀ m, manager = some m → m.generation = g ∧ ∀ t, m.transaction = some t →
    ArmedAt digest t

/-- The boot stage gave up a trial at the generation, with the header, and no load has recorded
it. -/
structure Abandoned (g : Nat) (h : Transaction) (c : Cells) (manager : Option SystemBankManager) :
    Prop where
  tidy : Tidy c
  settled : c.primary = c.secondary
  above : generationOf c.primary < g
  rows : ∃ a, c.rows = some a ∧ a.generation = g
  header : c.header = some (g, h)
  unresolved : h.resolution = none
  manager : ∀ m, manager = some m → m.generation ≤ generationOf c.primary

theorem ArmedAt.countBoot {digest : Buffer 16} {t : Transaction} (armed : ArmedAt digest t)
    (id : Buffer 16) :
  ArmedAt digest (countBoot id t)
  := armed

variable {digest : Buffer 16} {g : Nat} {h : Transaction} {n : Node}

/-- The trial stays open under a quiet call. -/
theorem OpenTrial.call (trial : OpenTrial digest g (s.cells κ) (some m))
    (move : OpMove κ (recordSelectorStore κ r io) ⟨s, m⟩ op answer x)
    (quiet : Quiet (s.cells κ) (x.store.cells κ)) :
  OpenTrial digest g (x.store.cells κ) (called (answer, x)).manager
  := by
  obtain ⟨h, stored, _⟩ := trial.header
  obtain ⟨running, armed'⟩ := trial.manager m rfl
  obtain ⟨generation, transaction, header⟩ :=
    quiet_call trial.tidy stored (Nat.le_of_eq trial.primary) move quiet
  use tidy_call trial.tidy move, quiet.primary ▸ trial.primary, quiet.secondary ▸ trial.floor,
    quiet.rows ▸ trial.rows
  · rcases header with header | ⟨id, t, known, header⟩
    · use h, header.trans stored
    · rw [running] at header
      use countBoot id t, header
      apply (armed' t known).countBoot
  · intro m' running'
    obtain ⟨rfl, -⟩ := called_manager running'
    use generation.trans running
    intro t known
    rcases transaction with same | ⟨_, t', known', counted⟩
    · apply armed' t (same.symm.trans known)
    · cases counted.symm.trans known
      apply (armed' t' known').countBoot

/-- The trial stays open under a load, which takes its header over. -/
theorem OpenTrial.load (trial : OpenTrial digest g (s.cells κ) manager) :
  OpenTrial digest g ((started (load (recordSelectorStore κ r io) s)).store.cells κ)
    (started (load (recordSelectorStore κ r io) s)).manager
  := by
  obtain ⟨h, stored, armed⟩ := trial.header
  have below : HeaderBelow (s.cells κ) := HeaderBelow.of_header stored
    (Nat.le_of_eq trial.primary.symm)
  rcases below.load_eq r io with ⟨e, eq⟩ | ⟨_, found, eq⟩
  · rw [eq]
    exact { trial with manager := nofun }
  · rw [eq]
    refine { trial with manager := ?_ }
    rintro _ ⟨⟩
    constructor
    · apply (generationOf_primaryVector (s.cells κ)).trans trial.primary
    · intro t known
      obtain ⟨⟨_, _⟩, filtered, rfl⟩ := map_eq_some_iff.mp known
      have read := (filter_eq_some_iff.mp filtered).1
      cases stored.symm.trans (found.mem read)
      apply armed

variable {n' : Node}

theorem OpenTrial.run (trial : OpenTrial digest g (n.store.cells κ) n.manager)
    (run : QuietRun κ r n n') :
  OpenTrial digest g (n'.store.cells κ) n'.manager
  := by
  apply keep_of_run _ _ _ _ trial run
  · intro c manager trial
    exact { trial with manager := nofun }
  · intro io s manager trial _
    apply trial.load
  · intro io s m op answer x trial move quiet
    apply trial.call move quiet

/-- The boot stage gives the trial up. -/
theorem OpenTrial.bootStage (trial : OpenTrial digest g c manager)
    (stored : c.header = some (g, h)) :
  Abandoned g h c.restore none
  where
  tidy := trial.tidy.restore
  settled := rfl
  above := trial.floor
  rows := trial.rows
  header := stored
  unresolved := by
    obtain ⟨_, stored', armed⟩ := trial.header
    cases stored.symm.trans stored'
    apply armed.2
  manager := nofun

/-! ### A trial that the boot stage gave up -/

theorem Abandoned.call (abandoned : Abandoned g h (s.cells κ) (some m))
    (move : OpMove κ (recordSelectorStore κ r io) ⟨s, m⟩ op answer x)
    (quiet : Quiet (s.cells κ) (x.store.cells κ)) :
  Abandoned g h (x.store.cells κ) (called (answer, x)).manager
  := by
  have running := abandoned.manager m rfl
  obtain ⟨generation, -, header⟩ :=
    quiet_call abandoned.tidy abandoned.header (Nat.le_of_lt abandoned.above) move quiet
  use tidy_call abandoned.tidy move, quiet.primary.trans
    (abandoned.settled.trans quiet.secondary.symm),
    quiet.primary ▸ abandoned.above, quiet.rows ▸ abandoned.rows
  · rcases header with header | ⟨_, t, _, header⟩
    · apply header.trans abandoned.header
    · have same := quiet.generation_eq abandoned.header header
      have above := abandoned.above
      omega
  · apply abandoned.unresolved
  · intro m' running'
    obtain ⟨rfl, -⟩ := called_manager running'
    rw [generation, quiet.primary]
    apply running

theorem Abandoned.load (abandoned : Abandoned g h (s.cells κ) manager)
    (quiet : Quiet (s.cells κ) ((started (load (recordSelectorStore κ r io) s)).store.cells κ)) :
  Abandoned g h ((started (load (recordSelectorStore κ r io) s)).store.cells κ)
    (started (load (recordSelectorStore κ r io) s)).manager
  := by
  have keeps (manager : Option SystemBankManager)
      (running : ∀ m, manager = some m → m.generation ≤ generationOf (s.cells κ).primary) :
      Abandoned g h (s.cells κ) manager := { abandoned with manager := running }
  have view (header : Option (Nat × Transaction)) (t : Option Transaction) :
      ((copiesOf (s.cells κ) header).view t).generation ≤ generationOf (s.cells κ).primary :=
    Nat.le_of_eq (generationOf_primaryVector (s.cells κ))
  rcases load_cases κ r io s with
    ⟨-, e, eq⟩ | ⟨header, -, ⟨-, eq⟩ | ⟨marked, -, eq⟩⟩
  · rw [eq]
    apply keeps
    nofun
  · rw [eq]
    apply keeps
    rintro _ ⟨⟩
    apply view
  · have not_landed : io.transaction.landed = false := by
      by_contra landed
      rw [eq, started_store, cells_putHeaderIf, Bool.eq_true_of_not_eq_false landed] at quiet
      have same := quiet.generation_eq abandoned.header rfl
      apply Nat.ne_of_lt abandoned.above same
    rw [not_landed, if_neg Bool.false_ne_true] at eq
    rw [eq, started_store]
    apply keeps
    intro m running
    cases fault : io.transaction with
    | none =>
      rw [fault] at not_landed
      cases not_landed
    | fails =>
      rw [fault] at running
      cases running
      apply view
    | stops =>
      rw [fault] at running
      cases running

theorem Abandoned.run (abandoned : Abandoned g h (n.store.cells κ) n.manager)
    (run : QuietRun κ r n n') :
  Abandoned g h (n'.store.cells κ) n'.manager
  := by
  apply keep_of_run _ _ _ _ abandoned run
  · intro c manager abandoned
    exact { abandoned with manager := nofun }
  · intro io s manager abandoned quiet
    apply abandoned.load quiet
  · intro io s m op answer x abandoned move quiet
    apply abandoned.call move quiet

/-- The header of the trial is found and bears the mark of the boot stage. -/
theorem Abandoned.unrecorded (abandoned : Abandoned g h c manager) (r : Routing) :
  (copiesOf c (c.attributedHeader r)).unrecorded = some (rolledBack .bootStage h)
  := by
  have found : c.attributedHeader r = some (g, h) := by
    obtain ⟨a, rows, generation⟩ := abandoned.rows
    have here : entriesAt c.rows g = some a.entries := by
      rw [← generation]
      apply entriesAt_eq_some.mpr rows
    have counts : c.attributable r g = true := by simp [attributable, rowsAt, here]
    rw [attributedHeader, abandoned.header, filter_some, counts, if_pos rfl]
  have same := abandoned.tidy.secondaryVector_of_settled abandoned.settled
  have marked : generationOf c.primaryVector < g ∧
      entriesOf c.primaryVector = entriesOf c.secondaryVector ∧ h.resolution = none := by
    rw [generationOf_primaryVector, same]
    exact ⟨abandoned.above, rfl, abandoned.unresolved⟩
  rw [found, Copies.unrecorded]
  simp only [copiesOf, filter_some, marked, and_self, decide_true, if_true, map_some]

/-- A load that can read everything and whose write lands records the trial. -/
theorem Abandoned.recorded (abandoned : Abandoned g h (s.cells κ) manager)
    (readable : ¬io.Unreadable) (landed : io.transaction.landed = true) :
  ((started (SystemBank.load (recordSelectorStore κ r io) s)).store.cells κ).header =
    some (generationOf s.record.primary, rolledBack .bootStage h) ∧
  Below ((started (SystemBank.load (recordSelectorStore κ r io) s)).store.cells κ)
    (started (SystemBank.load (recordSelectorStore κ r io) s)).manager ∧
  (io.transaction = .none → ∃ m,
    (started (SystemBank.load (recordSelectorStore κ r io) s)).manager = some m ∧
      m.transaction = some (rolledBack .bootStage h))
  := by
  have unrecorded := abandoned.unrecorded r
  rcases load_cases κ r io s with ⟨bad, -⟩ | ⟨_, rfl | ⟨bad, -⟩, recorded⟩
  · apply absurd bad readable
  · rcases recorded with ⟨recorded, -⟩ | ⟨_, unrecorded', eq⟩
    · cases unrecorded.symm.trans recorded
    · cases unrecorded.symm.trans unrecorded'
      rw [eq, started_store, cells_putHeaderIf, landed]
      use rfl
      constructor
      · constructor
        · apply abandoned.tidy.putHeaderIf
        · apply HeaderBelow.of_header rfl (Nat.le_refl _)
        · intro m running
          cases fault : io.transaction with
          | none | fails =>
            rw [fault] at running
            cases running
            apply Nat.le_of_eq (generationOf_primaryVector (s.cells κ))
          | stops =>
            rw [fault] at running
            cases running
      · intro none
        rw [none]
        exact ⟨_, rfl, rfl⟩
  · apply absurd bad readable

/-! ### The record of a rollback by the boot stage -/

/-- A seal whose header was stored opens a trial. -/
theorem openTrial_of_seal (tidy : Tidy (s.cells κ)) (landed : io.transaction.landed = true)
    {armedBootId : Option String}
    (move : OpMove κ (recordSelectorStore κ r io) ⟨s, m⟩ (.sealPending armedBootId)
      (.ok (.sealed true)) x) :
  ∃ g, OpenTrial (sealHeader κ armedBootId).armedBootId g (x.store.cells κ) (some x.manager)
  := by
  generalize answered : Ending.ok (Answer.sealed true) = answer at move
  cases move with
  | nothing => cases answered
  | seals armedBootId _ res _ _ call =>
    have moved := tidy.activateMove (activate_of_call call)
    rcases activateMove_cases tidy (activate_of_call call) with ⟨-, -, failed⟩ | ⟨cells, logged⟩
    · cases res with
      | ok g => apply absurd rfl (failed g)
      | err | stopped => cases answered
    · cases res with
      | err | stopped => cases answered
      | ok g =>
        have issued : g = (s.cells κ).next io.gap := by
          cases fault : io.transaction <;> rw [fault] at logged <;> cases logged <;> rfl
        rw [landed] at cells
        have floor : generationOf (s.cells κ).secondary < (s.cells κ).next io.gap := by
          simp only [generationOf, next, nextGeneration]
          omega
        use (s.cells κ).next io.gap
        rw [cells] at moved ⊢
        constructor
        · apply moved
        · rfl
        · apply floor
        · exact ⟨_, rfl, rfl⟩
        · exact ⟨sealHeader κ armedBootId, rfl, rfl, rfl⟩
        · rintro _ ⟨⟩
          use issued
          rintro _ ⟨⟩
          exact ⟨rfl, rfl⟩

/-- As long as the boot stage does not act, no header is above the primary generation, and no load
records anything. If the boot stage gives up a trial whose seal stored its header, and only quiet
events happen besides, then the next load that can read everything and whose write lands records the
stored header as rolled back by the boot stage, and takes it over if the write succeeds; until the
boot stage acts again no later load records anything. -/
theorem bootStage_recorded {n : Node} (run : NodeRun κ r (fun _ => True) {} n) :
  (NodeRun κ r (· ≠ .bootStage) {} n →
    (∀ g h, (n.store.cells κ).header = some (g, h) → g ≤ generationOf n.store.record.primary) ∧
    ∀ io, (n.after κ r io .load).store = n.store) ∧
  ∀ {io armedBootId m x n₂ n₃}, n.manager = some m →
    Op.run κ (recordSelectorStore κ r io) (.sealPending armedBootId) ⟨n.store, m⟩ =
      (.ok (.sealed true), x) → io.transaction.landed = true →
    QuietRun κ r { store := x.store, manager := some x.manager } n₂ →
    QuietRun κ r (n₂.after κ r {} .bootStage) n₃ → ∃ g h, (n₂.store.cells κ).header = some (g, h) ∧
      h.armedBootId = (sealHeader κ armedBootId).armedBootId ∧
      ∀ io' : Io, ¬io'.Unreadable → io'.transaction.landed = true →
        ((n₃.after κ r io' .load).store.cells κ).header =
          some (generationOf n₃.store.record.primary, rolledBack .bootStage h) ∧
        (io'.transaction = .none → ∃ m', (n₃.after κ r io' .load).manager = some m' ∧
          m'.transaction = some (rolledBack .bootStage h)) ∧
        ∀ n₄, NodeRun κ r (· ≠ .bootStage) (n₃.after κ r io' .load) n₄ →
          ∀ io, (n₄.after κ r io .load).store = n₄.store
  := by
  constructor
  · intro quiet
    have below := below_empty.run quiet
    use below.header
    intro io
    apply below.header.load_store
  · intro io armedBootId m x n₂ n₃ running sealed landed before after
    have move := Op.moves κ (recordSelectorStore κ r io) (.sealPending armedBootId) ⟨n.store, m⟩
    rw [sealed] at move
    obtain ⟨g, opened⟩ := openTrial_of_seal (tidy_of_nodeRun run) landed move
    have trial : OpenTrial (sealHeader κ armedBootId).armedBootId g (n₂.store.cells κ) n₂.manager :=
      OpenTrial.run (n := { store := x.store, manager := some x.manager }) opened before
    obtain ⟨h, stored, armed, -⟩ := trial.header
    have given_up : Abandoned g h ((n₂.after κ r {} .bootStage).store.cells κ)
        (n₂.after κ r {} .bootStage).manager := trial.bootStage stored
    have abandoned := given_up.run after
    use g, h, stored, armed
    intro io' readable landed'
    obtain ⟨recorded, below, adopted⟩ := abandoned.recorded (r := r) readable landed'
    use recorded, adopted
    intro n₄ later io
    apply (below.run later).header.load_store

/-- Whatever fails, whenever the process is lost and however often the boot stage acts, there is no
committed copy without a primary one that is at least as new, and copies of one generation are read
as the same. -/
theorem committed_not_newer {n : Node} (run : NodeRun κ r (fun _ => True) {} n) {v : BootVector}
    (committed : ((recordSelectorStore κ r {}).readSecondary n.store).1 = .ok (some v)) :
  ∃ p, ((recordSelectorStore κ r {}).readPrimary n.store).1 = .ok (some p) ∧
    v.generation ≤ p.generation ∧ (v.generation = p.generation → v = p)
  := by
  have tidy := tidy_of_nodeRun run
  have read := Ending.ok.inj ((readSecondary_clean κ n.store).symm.trans committed)
  have clean := readPrimary_clean κ n.store
  generalize n.store.cells κ = c at *
  obtain ⟨s, secondary, rfl⟩ := Option.map_eq_some_iff.mp read
  obtain ⟨p, primary, le⟩ := tidy.floor s secondary
  rw [Cells.primaryVector, primary] at clean
  refine ⟨_, clean, le, fun same => ?_⟩
  obtain rfl := tidy.same p s primary secondary same.symm
  have settled := tidy.secondaryVector_of_settled (primary.trans secondary.symm)
  rw [read, Cells.primaryVector, primary] at settled
  exact Option.some.inj settled

end Quiet

/-! ### A trial that is given up -/

section Sample

/-- The cells and the manager of a node after some events. -/
def ReachesNode (κ : Signing) (c : Cells) (manager : Option SystemBankManager) : Prop :=
  ∃ n, NodeRun κ sampleRouting (fun _ => True) {} n ∧ n.store.cells κ = c ∧ n.manager = manager

variable {pending rows : Entries}
  (s : StoreState)

theorem ReachesNode.after {manager manager' : Option SystemBankManager}
    (reached : ReachesNode κ c manager)
    (io : Io) (event : NodeEvent) (after : ∀ s, s.cells κ = c →
      ((after κ sampleRouting io { store := s, manager } event).store.cells κ = c' ∧
        (after κ sampleRouting io { store := s, manager } event).manager = manager')) :
  ReachesNode κ c' manager'
  := by
  obtain ⟨⟨s, _⟩, run, cells, rfl⟩ := reached
  exact ⟨_, run.step ⟨io, event, trivial, rfl⟩, after s cells⟩

/-- A seal where nothing fails. -/
theorem seal_clean (staged : m.pending = some pending) :
  ∃ t, Op.run κ (recordSelectorStore κ sampleRouting {}) (.sealPending none) ⟨s, m⟩ =
      (.ok (.sealed true), ⟨t, m.afterSeal pending ((s.cells κ).next 0) blankHeader⟩) ∧
    t.cells κ = ((s.cells κ).issueRows sampleRouting 0 pending).putHeaderIf true
      ((s.cells κ).next 0) blankHeader
  := by
  rcases call : (recordSelectorStore κ sampleRouting {}).activate pending (sealHeader κ none) s
    with ⟨res, t⟩
  obtain ⟨rfl, cells⟩ := (activate_of_call call).clean
  use t
  constructor
  · have sealed := sealPending_some (n := ⟨s, m⟩) staged call
    rw [Op.run, run_bind_ok sealed]
    rfl
  · apply cells

/-- A commit where nothing fails. -/
theorem commit_clean (m : SystemBankManager) {p : BootVector}
    (primary : (s.cells κ).primary = some p) (found : (s.cells κ).rowsAt p.generation = some rows) :
  ∃ t, Op.run κ (recordSelectorStore κ sampleRouting {}) .commit ⟨s, m⟩ =
      (.ok .done, ⟨t, m.afterCommit⟩) ∧ t.cells κ =
      { (s.cells κ).anchor with committed := some { generation := p.generation, entries := rows } }
  := by
  rcases call : (recordSelectorStore κ sampleRouting {}).commit s with ⟨res, t⟩
  obtain ⟨rfl, cells⟩ := (commit_of_call call).clean primary found
  use t
  constructor
  · have committed := commit_eq (n := ⟨s, m⟩) call
    rw [Op.run, run_bind_ok committed]
    rfl
  · apply cells

/-- A load where nothing fails and nothing is to be recorded. -/
theorem load_clean {s : StoreState} (cells : s.cells κ = c) {copies : Copies}
    (eq : copiesOf c (c.attributedHeader sampleRouting) = copies)
    (recorded : copies.unrecorded = none) :
  load (recordSelectorStore κ sampleRouting {}) s = (.ok (copies.view copies.headerAtPrimary), s)
  := by
  subst cells eq
  apply load_of_recorded
  · apply (reads_readPrimary κ {}).ok not_unreadable
  · apply (reads_readSecondary κ {}).ok not_unreadable
  · apply readTransaction_eq κ sampleRouting not_unreadable
  · apply recorded

def freshManager : SystemBankManager :=
  ({} : Copies).view none

def firstManager : SystemBankManager where
  current := selection .A .A
  generation := 1
  committed := ∅
  committedGeneration := 0
  transaction := some blankHeader

def settledManager : SystemBankManager :=
  { firstManager with committed := selection .A .A, committedGeneration := 1 }

def trialManager : SystemBankManager :=
  { settledManager with current := selection .B .B, generation := 2 }

/-- The selection is staged for both components. -/
theorem ReachesNode.staged (reached : ReachesNode κ c (some m)) (bank : Nv.Bank) :
  ReachesNode κ c (some ((m.withStaged "os" { bank }).withStaged "vm" { bank }))
  := by
  have os : ReachesNode κ c (some (m.withStaged "os" { bank })) :=
    reached.after {} (.call (.stage "os" bank ∅)) fun s cells => ⟨cells, rfl⟩
  apply os.after {} (.call (.stage "vm" bank ∅)) fun s cells => ⟨cells, rfl⟩

theorem ReachesNode.sealed (reached : ReachesNode κ c (some m))
    (staged : m.pending = some pending) :
  ReachesNode κ ((c.issueRows sampleRouting 0 pending).putHeaderIf true (c.next 0) blankHeader)
    (some (m.afterSeal pending (c.next 0) blankHeader))
  := by
  apply reached.after {} (.call (.sealPending none))
  rintro s rfl
  obtain ⟨t, eq, cells⟩ := seal_clean (κ := κ) s staged
  rw [after_call eq]
  use cells
  rfl

theorem reaches_settled :
  ReachesNode κ settledCells (some settledManager)
  := by
  have empty : ReachesNode κ {} none := ⟨{}, .init rfl, rfl, rfl⟩
  have loaded : ReachesNode κ {} (some freshManager) := by
    apply empty.after {} .load
    intro s cells
    rw [after, load_clean cells rfl rfl]
    use cells
    rfl
  have first : ReachesNode κ firstCells (some firstManager) := by
    have staged : ((freshManager.withStaged "os" { bank := .A }).withStaged "vm"
        { bank := .A }).pending = some (selection .A .A) := by rfl
    apply (loaded.staged .A).sealed staged
  apply first.after {} (.call .commit)
  intro s cells
  have primary : (s.cells κ).primary = firstCells.primary := by rw [cells]
  have found : (s.cells κ).rowsAt 1 = some (sampleRouting.managerRows (selection .A .A)) := by
    rw [cells]
    decide +kernel
  obtain ⟨t, eq, cells'⟩ := commit_clean s firstManager primary found
  rw [after_call eq]
  rw [cells] at cells'
  use cells'
  rfl

theorem reaches_trial :
  ReachesNode κ trialCells (some trialManager)
  := by
  have staged : ((settledManager.withStaged "os" { bank := .B }).withStaged "vm"
      { bank := .B }).pending = some (selection .B .B) := by decide +kernel
  have sealed := (reaches_settled.staged .B).sealed (κ := κ) staged
  have cells : (settledCells.issueRows sampleRouting 0 (selection .B .B)).putHeaderIf true
      (settledCells.next 0) blankHeader = trialCells := rfl
  rw [cells] at sealed
  apply sealed

theorem trial_not_older :
  ∃ r, ∀ κ : Signing, ∃ n p, NodeRun κ r (fun _ => True) {} n ∧
    ((recordSelectorStore κ r {}).readPrimary n.store).1 = .ok (some p) ∧ 1 ≤ p.generation
  := by
  use sampleRouting
  intro κ
  obtain ⟨n, run, cells, _⟩ := reaches_trial (κ := κ)
  have clean := readSecondary_clean κ n.store
  rw [cells] at clean
  obtain ⟨p, primary, le, _⟩ := committed_not_newer run clean
  exact ⟨n, p, run, primary, le⟩

/-- A rollback whose header is written, and whose record write fails. -/
theorem rollback_record_failed {io : Io} {header : Transaction} (readable : ¬io.Unreadable)
    (transaction : io.transaction = .none) (failed : io.record = .fails false) {v : BootVector}
    (secondary : c.secondary = some v) (trial : c.primaryGeneration ≠ some v.generation)
    (found : c.committedAt v.generation = some rows) {res : Ending SelectorError Nat}
    (move : RollbackMove r io header c res c') :
  res = .err (.io io.cause) ∧ c' = c.putHeaderIf true v.generation header
  := by
  cases move with
  | unreadable _ bad => apply absurd bad readable
  | noTrial settled => apply absurd (settled v secondary) trial
  | noRows _ secondary' _ absent =>
    cases secondary.symm.trans secondary'
    cases found.symm.trans absent
  | header _ _ _ transaction' => apply absurd transaction transaction'
  | lost _ _ _ _ _ bad => apply absurd bad readable
  | record _ secondary' =>
    cases secondary.symm.trans secondary'
    rw [failed]
    exact ⟨rfl, rfl⟩
  | written _ _ _ _ _ _ record => cases failed.symm.trans record

/-- The cells after the boot stage restored the committed copy, when the header of a rollback had
already been written. -/
def givenUpCells : Cells :=
  { trialCells.restore with header := some (1, rolledBack .verdict blankHeader) }

def givenUpManager : SystemBankManager :=
  { settledManager with transaction := some (rolledBack .verdict blankHeader) }

theorem givenUpCopies :
  copiesOf givenUpCells (givenUpCells.attributedHeader sampleRouting) =
    { primary := some { generation := 1, entries := selection .A .A }
      secondary := some { generation := 1, entries := selection .A .A }
      header := some (1, rolledBack .verdict blankHeader) }
  := by decide +kernel

/-- The record write of a rollback fails after its header was written, and the boot stage then
restores the committed copy: the next load takes over the header of that rollback and records
nothing. -/
theorem bootStage_not_recorded :
  ∃ r : Routing, ∀ κ : Signing, ∃ n io n' m, NodeRun κ r (fun _ => True) {} n ∧
    generationOf n.store.record.primary = 2 ∧ generationOf n.store.record.secondary = 1 ∧
    (n.store.cells κ).header = some (2, blankHeader) ∧
    n' = ((n.after κ r io (.call (.rollback .verdict))).after κ r {} .bootStage).after κ r
      {} .load ∧ n'.store.record.primary = n.store.record.secondary ∧ n'.manager = some m ∧
    m.transaction = some (rolledBack .verdict blankHeader) ∧
    (n'.store.cells κ).header = some (1, rolledBack .verdict blankHeader)
  := by
  use sampleRouting
  intro κ
  obtain ⟨⟨s, _⟩, run, cells, rfl⟩ := reaches_trial (κ := κ)
  rcases call : (recordSelectorStore κ sampleRouting { record := .fails false }).rollback
    (trialManager.rollbackHeader .verdict) s with ⟨res, t⟩
  have move := rollback_of_call call
  rw [cells] at move
  have found : trialCells.committedAt 1 = some (sampleRouting.managerRows (selection .A .A)) := by
    decide +kernel
  obtain ⟨rfl, failed⟩ := rollback_record_failed (by simp [Io.Unreadable]) rfl rfl rfl
    (by decide) found move
  have trial : trialManager.isTrial = true := by decide +kernel
  have rolled : Op.run κ (recordSelectorStore κ sampleRouting { record := .fails false })
      (.rollback .verdict) ⟨s, trialManager⟩ =
        (.err (.io "input/output error"), ⟨t, trialManager⟩) := by
    have eq := rollback_trial (n := ⟨s, trialManager⟩) trial call
    rw [Op.run, run_bind_err eq]
    rfl
  have restored : t.bootStageRollback.cells κ = givenUpCells := by
    rw [StoreState.cells_bootStageRollback, failed]
    rfl
  have loaded := load_clean (κ := κ) restored givenUpCopies (by decide +kernel)
  use ⟨s, some trialManager⟩, { record := .fails false },
    { store := t.bootStageRollback, manager := some givenUpManager }, givenUpManager, run
  have primary : generationOf (s.cells κ).primary = 2 := by
    rw [cells]
    rfl
  have secondary : (s.cells κ).secondary = settledCells.secondary := by
    rw [cells]
    rfl
  have header : (s.cells κ).header = some (2, blankHeader) := by
    rw [cells]
    rfl
  have restored' : (t.bootStageRollback.cells κ).primary = (s.cells κ).secondary := by
    rw [restored, secondary]
    rfl
  use primary, congrArg generationOf secondary, header
  constructor
  · rw [Node.after_call rolled]
    apply (congrArg Node.started loaded).symm
  · use restored', rfl, rfl
    rw [restored]
    rfl

/-- A crash is quiet. -/
theorem quiet_crash (m : SystemBankManager) :
  QuietRun κ r { store := s, manager := some m } { store := s }
  := by
  have start : QuietRun κ r { store := s, manager := some m } { store := s, manager := some m } :=
    .init rfl
  apply start.step
  constructor
  · use {}, .crash, nofun
    rfl
  · exact ⟨rfl, rfl, rfl, rfl⟩

/-- The process crashes in a trial and the boot stage restores the committed copy: the next load
records it. -/
theorem bootStage_recorded_crash :
  ∃ r : Routing, ∀ κ : Signing, ∃ n m, NodeRun κ r (fun _ => True) {} n ∧
    generationOf n.store.record.primary = 2 ∧
    (((n.after κ r {} .bootStage).after κ r {} .load).store.cells κ).header =
      some (1, rolledBack .bootStage blankHeader) ∧
    ((n.after κ r {} .bootStage).after κ r {} .load).manager = some m ∧
    m.transaction = some (rolledBack .bootStage blankHeader)
  := by
  use sampleRouting
  intro κ
  have staged : ((settledManager.withStaged "os" { bank := .B }).withStaged "vm"
      { bank := .B }).pending = some (selection .B .B) := by decide +kernel
  obtain ⟨⟨s, _⟩, run, cells, rfl⟩ := reaches_settled.staged (κ := κ) .B
  obtain ⟨t, sealed, cells'⟩ := seal_clean (κ := κ) s staged
  have trial : t.cells κ = trialCells := by
    have before : s.cells κ = settledCells := cells
    rw [cells', before]
    rfl
  have step : NodeRun κ sampleRouting (fun _ => True) {} { store := t } := by
    have called := run.step ⟨{}, .call (.sealPending none), trivial, (Node.after_call sealed).symm⟩
    apply called.step
    use {}, .crash, trivial
    rfl
  obtain ⟨-, recorded⟩ := bootStage_recorded run
  obtain ⟨g, h, stored, -, loaded⟩ := recorded rfl sealed rfl (quiet_crash t _) (.init rfl)
  obtain ⟨header, adopted, -⟩ := loaded {} not_unreadable rfl
  obtain ⟨m, started, transaction⟩ := adopted rfl
  have stored' : (t.cells κ).header = some (g, h) := stored
  have primary : generationOf (t.cells κ).primary = 2 := by
    rw [trial]
    rfl
  have secondary : generationOf (t.cells κ).secondary = 1 := by
    rw [trial]
    rfl
  have secondary' : generationOf t.bootStageRollback.record.primary = 1 := secondary
  rw [trial] at stored'
  cases stored'
  use { store := t }, m, step, primary
  constructor
  · rw [← secondary']
    apply header
  · use started, transaction

end Sample

end SystemBank
