import MachineManager.Component.Siblings
import MachineManager.Component.Stand
import MachineManager.Component.Verdict

/-!
# Campaigns

Several banked components are installed, committed and rolled back over one boot vector while
nothing fails. Every call moves every component from one stand to the next: the component that is
called by a move of its own, the others by what happens to the vector as a whole.
-/

open List

namespace SystemBank

open Selector Call

/-- The banks of a component in the two copies. -/
def Copies.banksAt (c : Copies) (id : String) : Option Nv.Bank × Option Nv.Bank :=
  ((c.entriesAt id).1.map (·.bank), (c.entriesAt id).2.map (·.bank))

end SystemBank

namespace ComponentMgr

open Call Nv Selector SystemBank

variable {κ : Signing}

section Shared

variable {σ : Type} (copies : σ → Copies)

/-- The manager has the entries of the two copies, and nothing is staged. -/
structure Tidy (x : Shared σ) : Prop where
  following : Following copies x
  unstaged : x.running.manager.pending = none

/-- The banks of a component in the boot vector. -/
def Shared.banksAt (x : Shared σ) (id : String) : Option Bank × Option Bank :=
  (copies x.running.store).banksAt id

/-- No write fails that a component waits for, with the boot vector in a state. -/
structure Works (env : Environment σ) (s : σ) : Prop where
  honours : Honours copies env.store
  nvFaults : env.nvFaults = noNvFault
  activatorError : env.activatorError = none
  activate : ∀ entries header, ∃ g t, env.store.activate entries header s = (.ok g, t)
  commit : ∃ t, env.store.commit s = (.ok (), t)

variable {copies} {env : Environment σ} {p : IvdBankProvider} {x y : Shared σ}

/-! ### What the calls of a provider do to the banks -/

/-- The banks of all components after a call of a provider that succeeded. -/
def ProviderOp.banksAfter (p : IvdBankProvider) (id : String) (banks : Option Bank × Option Bank) :
    ProviderOp → Option Bank × Option Bank
  | .activate bank => if id = p.componentId then (some bank, banks.2) else banks
  | .commit => (banks.1, banks.1)
  | .rollback => (banks.2, banks.2)

def ProviderOp.Boots (p : IvdBankProvider) (nv nv' : NvStore) : ProviderOp → Prop
  | .activate _ => KeepsBoot nv nv'
  | .commit => ∃ bs, (nv.slot p.bankSet).boot = some bs ∧ (bs.committed = true ∧ KeepsBoot nv nv' ∨
        bs.committed = false ∧ SetsBoot p.bankSet (committedBoot bs) nv nv')
  | .rollback => ∃ bs, (nv.slot p.bankSet).boot = some bs ∧ bs.committed = false ∧
      SetsBoot p.bankSet (returnedBoot bs) nv nv'

theorem ProviderOp.Boots.trans_keeps {op : ProviderOp} {nv nv' nv'' : NvStore}
    (boots : op.Boots p nv nv') (keeps : KeepsBoot nv' nv'') :
  op.Boots p nv nv''
  := by
  cases op with
  | activate => apply KeepsBoot.trans boots keeps
  | commit =>
    obtain ⟨bs, boot, ⟨committed, same⟩ | ⟨trial, sets⟩⟩ := boots
    · exact ⟨bs, boot, .inl ⟨committed, same.trans keeps⟩⟩
    · exact ⟨bs, boot, .inr ⟨trial, sets.trans_keeps keeps⟩⟩
  | rollback =>
    obtain ⟨bs, boot, trial, sets⟩ := boots
    exact ⟨bs, boot, trial, sets.trans_keeps keeps⟩

theorem banksAt_of_following (following : Following copies x) (id : String) :
  x.banksAt copies id = (x.running.manager.current[id]?.map (·.bank),
    x.running.manager.committed[id]?.map (·.bank))
  := by rw [Shared.banksAt, Copies.banksAt, following.entriesAt]

variable {r : Running σ}

open Shared

/-- A call of the manager that returns does to the banks of every component what the manager
expects. -/
theorem banksAt_of_move {S : SelectorStore σ} {n : Running σ} {op : Op}
    {answer : Ending SelectorError Answer}
    (follows : Follows (copies n.store) n.manager) (honours : Honours copies S)
    (move : OpMove κ S n op answer r) (returned : answer ≠ .stopped) (nv : NvStore) :
  Following copies ⟨nv, r⟩ ∧ ∀ id, banksAt copies ⟨nv, r⟩ id =
    ((n.manager.entriesAfter id op answer).1.map (·.bank),
      (n.manager.entriesAfter id op answer).2.map (·.bank))
  := by
  obtain ⟨following, entries⟩ := follows.step honours move returned
  refine ⟨following, fun id => ?_⟩
  rw [Shared.banksAt, Copies.banksAt]
  rw [entries]

/-- A call that returns has done what was asked for, or it has changed nothing that boots. -/
def Settles {ε : Type} (copies : σ → Copies) (x y : Shared σ) (granted : Prop)
    (answer : Ending ε Unit) :
    Prop :=
  answer ≠ .stopped → Tidy copies y ∧ (answer = .ok () ∧ granted ∨
      answer ≠ .ok () ∧ KeepsBoot x.nv y.nv ∧ ∀ id, y.banksAt copies id = x.banksAt copies id)

section

variable (tidy : Tidy copies x)
include tidy

theorem settles_refl {ε : Type} {granted : Prop} {answer : Ending ε Unit}
    (failed : answer ≠ .ok ()) :
  Settles copies x x granted answer
  := fun _ => ⟨tidy, .inr ⟨failed, .refl _, fun _ => rfl⟩⟩

variable (works : Works copies env x.running.store)
include works

open IvdBankProvider

open SystemBankManager

open ProviderOp

/-- A seal after an entry was staged on top of what boots. -/
theorem banksAt_of_seal {bank : Bank} {res : Ending SelectorError Bool}
    (move : OpMove κ env.store (p.staged env bank x.running) (.sealPending p.nodeBootId)
      (res.map .sealed) r) :
  (∃ b, res = .ok b) ∧ Tidy copies { x with running := r } ∧
    ∀ id, banksAt copies { x with running := r } id =
      (activate bank).banksAfter p id (x.banksAt copies id)
  := by
  have follows : Follows (copies (p.staged env bank x.running).store)
    (p.staged env bank x.running).manager :=
    ⟨tidy.following.current, tidy.following.committed, tidy.following.floor⟩
  obtain ⟨rfl, unstaged⟩ : res = .ok true ∧ r.manager.pending = none := by
    generalize answered : res.map Answer.sealed = answer at move
    cases move with
    | nothing _ unstaged => cases unstaged
    | seals _ pending _ _ _ call =>
      obtain ⟨g, _, works'⟩ := works.activate pending (sealHeader κ p.nodeBootId)
      cases works'.symm.trans call
      cases res <;> cases answered
      exact ⟨rfl, rfl⟩
  obtain ⟨following, banks⟩ := banksAt_of_move follows works.honours move nofun x.nv
  refine ⟨⟨true, rfl⟩, ⟨following, unstaged⟩, fun id => (banks id).trans ?_⟩
  have current : x.running.manager.stagedEntry id = x.running.manager.current[id]? := by
    rw [stagedEntry, tidy.unstaged, Option.getD_none]
  rw [banksAt_of_following tidy.following, banksAfter]
  split
  next same =>
    subst same
    simp [entriesAfter, stagedEntry, staged, withStaged, Ending.map]
  next other =>
    dsimp only [entriesAfter, staged, Ending.map]
    rw [stagedEntry_withStaged _ _ other, current]
    rfl

variable {res : Ending SelectorError Unit}

/-- A commit of the vector. -/
theorem banksAt_of_commit (move : OpMove κ env.store x.running .commit (res.map fun _ => .done) r)
    (nv : NvStore) :
  res = .ok () ∧ Tidy copies ⟨nv, r⟩ ∧
    ∀ id, banksAt copies ⟨nv, r⟩ id = commit.banksAfter p id (x.banksAt copies id)
  := by
  obtain ⟨rfl, unstaged⟩ : res = .ok () ∧ r.manager.pending = none := by
    generalize answered : res.map (fun _ => Answer.done) = answer at move
    cases move with
    | commits _ _ call =>
      obtain ⟨_, works'⟩ := works.commit
      cases works'.symm.trans call
      cases res <;> cases answered
      exact ⟨rfl, tidy.unstaged⟩
  obtain ⟨following, banks⟩ := banksAt_of_move tidy.following works.honours move nofun nv
  refine ⟨rfl, ⟨following, unstaged⟩, fun id => (banks id).trans ?_⟩
  rw [banksAt_of_following tidy.following]
  rfl

/-- A rollback of the vector. -/
theorem banksAt_of_rollback {reason : Reason}
    (call : SystemBank.rollback env.store reason x.running = (res, r)) (returned : res ≠ .stopped)
    (nv : NvStore) :
  Tidy copies ⟨nv, r⟩ ∧ (res = .ok () ∧ (∀ id, banksAt copies ⟨nv, r⟩ id =
        rollback.banksAfter p id (x.banksAt copies id)) ∨
      res ≠ .ok () ∧ ∀ id, banksAt copies ⟨nv, r⟩ id = x.banksAt copies id)
  := by
  have move : OpMove stubSigner env.store x.running (.rollback reason) _ _ := Op.moves_of rfl call
  have unstaged : r.manager.pending = none := by
    generalize res.map (fun _ => Answer.done) = answer at move
    cases move with
    | settled => rfl
    | rollsBack _ res' =>
      cases res' with
      | ok => rfl
      | err | stopped => apply tidy.unstaged
  cases res with
  | ok =>
    obtain ⟨following, banks⟩ := banksAt_of_move tidy.following works.honours move nofun nv
    refine ⟨⟨following, unstaged⟩, .inl ⟨rfl, fun id => (banks id).trans ?_⟩⟩
    rw [banksAt_of_following tidy.following]
    rfl
  | err =>
    obtain ⟨following, banks⟩ := banksAt_of_move tidy.following works.honours move nofun nv
    refine ⟨⟨following, unstaged⟩, .inr ⟨nofun, fun id => (banks id).trans ?_⟩⟩
    rw [banksAt_of_following tidy.following]
    rfl
  | stopped => apply absurd rfl returned

variable (wired : p.selector = true)
include wired

/-- An activation of a bank. -/
theorem activate_banks (bank : Bank) :
  ∃ y, (activate bank).run κ env p x = (.ok (), y) ∧ y.nv = x.nv ∧ Tidy copies y ∧
    ∀ id, y.banksAt copies id = (activate bank).banksAfter p id (x.banksAt copies id)
  := by
  have activated : p.runActivator env x = (.ok (), x) := by
    rw [runActivator, works.activatorError]
    rfl
  rcases call : sealPending κ env.store p.nodeBootId (p.staged env bank x.running) with ⟨res, r⟩
  have move : OpMove κ env.store (p.staged env bank x.running) (.sealPending p.nodeBootId)
      (res.map .sealed) r := Op.moves_of rfl call
  obtain ⟨⟨b, rfl⟩, tidy', banks⟩ := banksAt_of_seal tidy works move
  refine ⟨_, activate_eq wired activated call, rfl, tidy', banks⟩

/-- A commit, of NV and of the vector. -/
theorem commit_banks :
  Yields (p.commit env) x fun answer y => Settles copies x y (commit.Boots p x.nv y.nv ∧
    ∀ id, y.banksAt copies id = commit.banksAfter p id (x.banksAt copies id)) answer
  := by
  have moves : Yields (p.commit env) x (ProviderMove stubSigner env p x .commit) :=
    commit_moves wired
  refine moves.mono fun answer y move => ?_
  cases move with
  | uncommitted res _ call refused =>
    rcases commit_boot call with ⟨_, ok, -⟩ | ⟨-, keeps⟩
    · apply absurd ok refused.1
    · refine fun _ => ⟨⟨tidy.following, tidy.unstaged⟩,
        .inr ⟨fun ok => refused.1 ?_, keeps, fun _ => rfl⟩⟩
      cases res <;> cases ok
      rfl
  | commits nv call _ _ move =>
    obtain ⟨rfl, tidy', banks⟩ := banksAt_of_commit (p := p) tidy works move nv
    refine fun _ => ⟨tidy', .inl ⟨rfl, ?_, banks⟩⟩
    rcases call with call | call
    · rcases commit_boot call with ⟨bs, -, boot, trial, sets⟩ | ⟨failed, -⟩
      · exact ⟨bs, boot, .inr ⟨trial, sets⟩⟩
      · apply absurd rfl failed
    · obtain ⟨bs, boot, committed⟩ := committed_of_commit call
      rcases commit_boot call with ⟨_, ok, -⟩ | ⟨-, keeps⟩
      · cases ok
      · exact ⟨bs, boot, .inl ⟨committed, keeps⟩⟩

/-- A rollback, of the vector and of NV. -/
theorem rollback_banks :
  Yields (p.rollback env) x fun answer y => Settles copies x y (rollback.Boots p x.nv y.nv ∧
    ∀ id, y.banksAt copies id = rollback.banksAfter p id (x.banksAt copies id)) answer
  := by
  rw [Yields, IvdBankProvider.rollback]
  rcases p.rollbackTarget_cases env x with ⟨res, failed, -, eq⟩ | ⟨bs, boot, trial, eq⟩
  · rw [run_bind, eq]
    cases res with
    | ok b => apply absurd rfl (failed b)
    | err | stopped => exact settles_refl tidy (by rintro ⟨⟩)
  · rw [run_bind_ok eq]
    rcases vector : SystemBank.rollback env.store .verdict x.running with ⟨res, r⟩
    have settles (returned : res ≠ .stopped) :=
      banksAt_of_rollback (p := p) tidy works vector returned
    have written := IvdBankProvider.withSelector_wired
      (x := x) wired "boot-vector rollback failed" vector
    cases res with
    | ok =>
      obtain ⟨nv, nvCall⟩ := rollback_returns boot trial
      have rolled : onNv (Nv.rollback env.nvFaults p.bankSet) { x with running := r } =
          (.ok bs.activeBank.other, ⟨nv, r⟩) := by
        rw [works.nvFaults]
        exact run_zoom nvCall
      rw [run_bind_ok written, run_bind_ok (run_mapErr_ok rolled _)]
      obtain ⟨tidy', ⟨-, banks⟩ | ⟨failed, -⟩⟩ := settles (by rintro ⟨⟩) nv
      · refine fun _ => ⟨tidy', .inl ⟨rfl, ⟨bs, boot, trial, ?_⟩, banks⟩⟩
        rcases rollback_boot nvCall with ⟨_, -, boot', -, sets⟩ | ⟨failed, -⟩
        · cases boot.symm.trans boot'
          apply sets
        · apply absurd rfl (failed _)
      · apply absurd rfl failed
    | err =>
      rw [run_bind_err written]
      obtain ⟨tidy', ⟨ok, -⟩ | ⟨-, banks⟩⟩ := settles (by rintro ⟨⟩) x.nv
      · cases ok
      · exact fun _ => ⟨tidy', .inr ⟨by rintro ⟨⟩, .refl _, banks⟩⟩
    | stopped =>
      rw [run_bind_stopped written]
      exact absurd rfl

end

end Shared

/-! ### Stands -/

/-- What is asked of a component: to install and activate the package of its transfer if it has one,
and the two verdicts. -/
inductive Request
  | install (package : Option Package)
  | commit
  | rollback

def Request.run {σ : Type} (κ : Signing) (crc : List UInt8 → UInt32) (w : World σ)
    (b : ComponentBackend) : Request → Call (Local σ) BackendError Unit
  | install package => b.installAndActivate κ crc w package
  | commit => b.commitFlash w
  | rollback => b.rollbackFlash w

def Request.Moves (s t : Stand) : Request → Prop
  | install package => t = s.reseal ∨ package ≠ none ∧ s.committed = true ∧ t = s.arm
  | commit => s.primary = s.active ∧ t = s.commit
  | rollback => s.committed = false ∧ t = s.rollback

def Request.MovesOther (s t : Stand) : Request → Prop
  | install _ => t = s
  | commit => t = s.promote
  | rollback => t = s.restore

variable {s : Stand} {request : Request} {answer : Ending BackendError Unit}

namespace ComponentBackend

variable {σ : Type} (copies : σ → Copies) (b : ComponentBackend)

/-- Where a component stands. -/
structure Stands (x : Shared σ) (s : Stand) : Prop where
  boot : ∃ bs, (x.nv.slot b.provider.bankSet).boot = some bs ∧ bs.activeBank = s.active ∧
    bs.committed = s.committed
  banks : x.banksAt copies b.provider.componentId = (some s.primary, some s.secondary)

variable {copies b} {crc : List UInt8 → UInt32} {w : World σ} {l l' : Local σ}

theorem Stands.congr {x y : Shared σ} (stands : b.Stands copies x s) (keeps : KeepsBoot x.nv y.nv)
    (banks : y.banksAt copies b.provider.componentId = x.banksAt copies b.provider.componentId) :
  b.Stands copies y s
  := by
  obtain ⟨bs, boot, active, committed⟩ := stands.boot
  exact ⟨⟨bs, (keeps _).trans boot, active, committed⟩, banks.trans stands.banks⟩

/-- A component stands in one place. -/
theorem Stands.unique {x : Shared σ} {t : Stand} (stands : b.Stands copies x s)
    (stands' : b.Stands copies x t) :
  s = t
  := by
  obtain ⟨⟨bs, boot, active, committed⟩, banks⟩ := stands
  obtain ⟨⟨_, boot', active', committed'⟩, banks'⟩ := stands'
  cases boot.symm.trans boot'
  cases s
  cases t
  cases active.symm.trans active'
  cases committed.symm.trans committed'
  cases banks.symm.trans banks'
  rfl

/-- A component that the vector does not have on trial has one bank in both copies. -/
theorem Stands.secondary_eq {x : Shared σ} (stands : b.Stands copies x s) (tidy : Tidy copies x)
    (wired : b.provider.selector = true) (settled : b.provider.inTrial x = false) :
  s.secondary = s.primary
  := by
  have banks := (banksAt_of_following tidy.following b.provider.componentId).symm.trans stands.banks
  have primary := congrArg Prod.fst banks
  have secondary := congrArg Prod.snd banks
  rw [IvdBankProvider.inTrial, if_pos wired, SystemBankManager.componentInTrial] at settled
  cases current : x.running.manager.current[b.provider.componentId]? with
  | none => simp [current] at primary
  | some entry =>
    have same : x.running.manager.committed[b.provider.componentId]? = some entry := by
      simpa [current] using settled
    rw [current] at primary
    rw [same] at secondary
    apply Option.some.inj (secondary.symm.trans primary)

section

variable (works : Works copies w.env l.shared.running.store) (b : ComponentBackend)
include works

/-- The update session is no part of the boot state. -/
theorem recordSession_banks (changed : Prop) [Decidable changed] (f : BlockError → BackendError)
    (session : NvUpdateSession) (l : Local σ) :
  ∃ nv, (if changed then mapErr f (onShared (onNv (writeUpdateSession w.env.nvFaults session)))
      else pure () : Call (Local σ) BackendError Unit) l =
    (.ok (), { l with shared := { l.shared with nv } }) ∧ KeepsBoot l.shared.nv nv
  := by
  rw [run_ite]
  split
  · refine ⟨l.shared.nv.putUpdateSession session, run_mapErr_ok ?_ f, fun _ => rfl⟩
    rw [works.nvFaults]
    rfl
  · exact ⟨l.shared.nv, rfl, .refl _⟩

theorem resolveNodeTransaction_banks (l : Local σ) :
  ∃ nv, b.resolveNodeTransaction w l = (.ok (), { l with shared := { l.shared with nv } }) ∧
    KeepsBoot l.shared.nv nv
  := recordSession_banks works _ _ _ l

theorem setRebootOwed_banks (κ : Signing) (l : Local σ) :
  ∃ nv, b.setRebootOwed κ w l = (.ok (), { l with shared := { l.shared with nv } }) ∧
    KeepsBoot l.shared.nv nv
  := recordSession_banks works _ _ _ l

/-- What follows a call of the provider. -/
theorem settles_afterProvider {c : Call (Shared σ) BankError Unit} {granted : Shared σ → Prop}
    (kept : ∀ {y : Shared σ} {nv}, KeepsBoot y.nv nv → granted y → granted { y with nv })
    (provided : Yields c l.shared fun answer y => Settles copies l.shared y (granted y) answer) :
  Yields (do onProvider c; b.resolveNodeTransaction w; clearTransfer) l fun answer l' =>
    Settles copies l.shared l'.shared (granted l'.shared) answer
  := by
  refine yields_seq (yields_mapErr (yields_zoom (provided.mono fun answer y settles => ?_)))
  cases answer with
  | ok =>
    obtain ⟨tidy, ⟨-, done⟩ | ⟨failed, -⟩⟩ := settles (by rintro ⟨⟩)
    · obtain ⟨nv, resolved, keeps⟩ := resolveNodeTransaction_banks works b { l with shared := y }
      rw [Yields, run_bind_ok resolved]
      exact fun _ => ⟨⟨tidy.following, tidy.unstaged⟩, .inl ⟨rfl, kept keeps done⟩⟩
    · apply absurd rfl failed
  | err =>
    obtain ⟨tidy, ⟨ok, -⟩ | ⟨-, undone⟩⟩ := settles (by rintro ⟨⟩)
    · cases ok
    · exact fun _ => ⟨tidy, .inr ⟨by rintro ⟨⟩, undone⟩⟩
  | stopped => exact absurd rfl

end

def Granted (copies : σ → Copies) (b : ComponentBackend) (x y : Shared σ) : Request → Prop
  | .install package => ∃ bs, (x.nv.slot b.provider.bankSet).boot = some bs ∧
      (package ≠ none ∧ bs.committed = true ∧ SetsBoot b.provider.bankSet
        (installedBoot false bs) x.nv y.nv ∧
          (∀ id, y.banksAt copies id = (ProviderOp.activate bs.activeBank.other).banksAfter
            b.provider id (x.banksAt copies id)) ∨ KeepsBoot x.nv y.nv ∧ ∀ id, y.banksAt copies id =
          (ProviderOp.activate bs.activeBank).banksAfter b.provider id (x.banksAt copies id))
  | .commit => (∀ bs bank, (x.nv.slot b.provider.bankSet).boot = some bs →
        (x.banksAt copies b.provider.componentId).1 = some bank → bank = bs.activeBank) ∧
      ProviderOp.commit.Boots b.provider x.nv y.nv ∧
      ∀ id, y.banksAt copies id = ProviderOp.commit.banksAfter b.provider id (x.banksAt copies id)
  | .rollback => ProviderOp.rollback.Boots b.provider x.nv y.nv ∧
      ∀ id, y.banksAt copies id = ProviderOp.rollback.banksAfter b.provider id (x.banksAt copies id)

/-- The install of a package arms the slot, or it changes no boot entry. -/
theorem installPackage_boot (b : ComponentBackend) (crc : List UInt8 → UInt32) (w : World σ)
    (package : Option Package) (l : Local σ) :
  Yields (b.installPackage crc w package) l fun answer l' => (∀ e, answer ≠ .err e) ∧
    ∃ nv, l' = { l with shared := { l.shared with nv } } ∧
      ((∃ bs, package ≠ none ∧ (l.shared.nv.slot b.provider.bankSet).boot = some bs ∧
          bs.committed = true ∧
          SetsBoot b.provider.bankSet (installedBoot b.singleBank bs) l.shared.nv nv) ∨
        KeepsBoot l.shared.nv nv)
  := by
  cases package with
  | none => exact ⟨nofun, l.shared.nv, rfl, .inr (.refl _)⟩
  | some package =>
    have installed : Yields
      (onShared (onNv (installPrecomputed w.env.nvFaults crc b.provider.bankSet
        package.imageSha256 package.imageSize package.imageMeta b.singleBank))) l fun _ l' =>
        ∃ nv, l' = { l with shared := { l.shared with nv } } ∧
          ((∃ bs, some package ≠ none ∧ (l.shared.nv.slot b.provider.bankSet).boot = some bs ∧
              bs.committed = true ∧
              SetsBoot b.provider.bankSet (installedBoot b.singleBank bs) l.shared.nv nv) ∨
            KeepsBoot l.shared.nv nv) := by
      refine yields_zoom (yields_zoom (yields_of_run fun res nv installed => ⟨nv, rfl, ?_⟩))
      rcases installChecked_boot installed with ⟨-, bs, -, boot, committed, sets⟩ | ⟨-, keeps⟩
      · left
        exact ⟨bs, nofun, boot, committed, sets⟩
      · right
        apply keeps
    exact yields_attempt_bind installed (fun _ _ h => ⟨nofun, h⟩) (fun _ _ h => ⟨nofun, h⟩)
      fun _ h => ⟨nofun, h⟩

/-- What follows the activation. -/
theorem afterActivation_banks (works : Works copies w.env l.shared.running.store)
    (b : ComponentBackend) (κ : Signing) (l : Local σ) (memory : Memory) :
  Yields (if b.provider.resetKind = .requiresEcuReset then b.setRebootOwed κ w else return ())
    ({ l with memory } : Local σ) fun answer l' => answer = .ok () ∧ ∃ nv,
      l'.shared = { l.shared with nv } ∧ KeepsBoot l.shared.nv nv
  := by
  split
  · obtain ⟨nv, owed, keeps⟩ := setRebootOwed_banks works b κ { l with memory }
    rw [Yields, owed]
    exact ⟨rfl, nv, rfl, keeps⟩
  · exact ⟨rfl, l.shared.nv, rfl, .refl _⟩

section

variable (tidy : Tidy copies l.shared) (works : Works copies w.env l.shared.running.store)
  (wired : b.provider.selector = true) (dual : b.singleBank = false)
include tidy wired

include dual in
/-- A commit is checked against the bank that is active in NV. -/
theorem active_of_preflightCommit (checked : b.preflightCommit l = (.ok (), l'))
    {bs : BankBootState} (boot : (l.shared.nv.slot b.provider.bankSet).boot = some bs) {bank : Bank}
    (primary : (l.shared.banksAt copies b.provider.componentId).1 = some bank) :
  bank = bs.activeBank
  := by
  have selected : b.provider.selectedBank l.shared = some bank := by
    rw [IvdBankProvider.selectedBank, if_pos wired, ← primary, banksAt_of_following tidy.following]
    rfl
  have active : b.provider.fallbackTargetActive l.shared = bs.activeBank := by
    have entry : b.provider.bootState l.shared.nv = some bs := boot
    rw [IvdBankProvider.fallbackTargetActive, entry]
    rfl
  rw [preflightCommit, run_get_bind, run_ite, if_neg (by simp [dual]), run_ite] at checked
  split at checked
  next => cases checked
  next =>
    have read : b.selected l = (.ok bank, l) := by
      rw [ComponentBackend.selected, run_get_bind, selected]
      rfl
    rw [run_bind_ok read, run_ite] at checked
    split at checked
    next => cases checked
    next =>
      rw [run_ite] at checked
      split at checked
      next => cases checked
      next settled => simpa [IvdBankProvider.pendingReboot, selected, active] using settled

include works

theorem rollbackFlash_granted :
  Yields (b.rollbackFlash w) l fun answer l' =>
    Settles copies l.shared l'.shared (Granted copies b l.shared l'.shared .rollback) answer
  := by
  rw [rollbackFlash]
  split
  · exact settles_refl tidy (by rintro ⟨⟩)
  · refine settles_afterProvider works b ?_ (rollback_banks tidy works wired)
    rintro y nv keeps ⟨boots, banks⟩
    exact ⟨boots.trans_keeps keeps, banks⟩

/-- The active bank is activated, if there is a boot state. -/
theorem activateInstalled_banks :
  Yields (b.activateInstalled κ w) l fun answer l' =>
    (∃ bs y, (l.shared.nv.slot b.provider.bankSet).boot = some bs ∧ answer = .ok () ∧
      l' = { l with shared := y } ∧ y.nv = l.shared.nv ∧ Tidy copies y ∧ ∀ id, y.banksAt copies id =
        (ProviderOp.activate bs.activeBank).banksAfter b.provider id (l.shared.banksAt copies id)) ∨
    (l.shared.nv.slot b.provider.bankSet).boot = none ∧ answer ≠ .ok () ∧ l' = l
  := by
  refine yields_seq (yields_get_bind (yields_ofOption_bind (fun state read => ?_) fun none => ?_))
  · have boot := NvStore.slot_boot read b.provider.bankSet
    cases entry : state.bank? b.provider.bankSet with
    | none => exact .inr ⟨boot.trans entry, by rintro ⟨⟩, rfl⟩
    | some bs =>
      obtain ⟨y, activated, nv, tidy', banks⟩ :=
        activate_banks (κ := κ) tidy works wired bs.activeBank
      have called : onShared ((ProviderOp.activate bs.activeBank).run κ w.env b.provider) l =
          (.ok (), { l with shared := y }) := run_zoom activated
      rw [Yields, orStop]
      dsimp only
      rw [Yields, run_bind_ok (run_attempt_ok called)]
      exact .inl ⟨bs, y, boot.trans entry, rfl, rfl, nv, tidy', banks⟩
  · refine .inr ⟨?_, by rintro ⟨⟩, rfl⟩
    rw [NvStore.slot, none]
    rfl

include dual

theorem commitFlash_granted :
  Yields (b.commitFlash w) l fun answer l' =>
    Settles copies l.shared l'.shared (Granted copies b l.shared l'.shared .commit) answer
  := by
  refine yields_unchanged_bind b.keeps_preflightCommit (fun _ checked => ?_)
    fun res failed => settles_refl tidy (failed ())
  refine (settles_afterProvider works b ?_ (commit_banks tidy works wired)).mono ?_
  · rintro y nv keeps ⟨boots, banks⟩
    exact ⟨boots.trans_keeps keeps, banks⟩
  · intro answer l' settles returned
    obtain ⟨tidy', ⟨ok, done⟩ | undone⟩ := settles returned
    · exact ⟨tidy', .inl ⟨ok, fun _ _ boot primary =>
        active_of_preflightCommit tidy wired dual checked boot primary, done⟩⟩
    · exact ⟨tidy', .inr undone⟩

theorem installAndActivate_granted {package : Option Package} :
  Yields (b.installAndActivate κ crc w package) l fun answer l' =>
    Settles copies l.shared l'.shared (Granted copies b l.shared l'.shared (.install package))
      answer
  := by
  refine yields_bind (b.installPackage_boot crc w package l) ?_
    (fun e _ h => absurd rfl (h.1 e)) fun _ _ => absurd rfl
  rintro ⟨⟩ _ ⟨-, nv, rfl, boots⟩
  have tidy₁ : Tidy copies { l.shared with nv } := ⟨tidy.following, tidy.unstaged⟩
  have refused {answer : Ending BackendError Unit} (failed : answer ≠ .ok ())
      (none : (nv.slot b.provider.bankSet).boot = none) :
      Settles copies l.shared { l.shared with nv }
        (Granted copies b l.shared { l.shared with nv } (.install package)) answer := by
    refine fun _ => ⟨tidy₁, .inr ⟨failed, ?_, fun _ => rfl⟩⟩
    rcases boots with ⟨_, -, -, -, sets⟩ | unchanged
    · cases none.symm.trans sets.self
    · apply unchanged
  refine yields_bind (activateInstalled_banks (l := { l with shared := { l.shared with nv } })
    (b := b) (κ := κ) tidy₁ works wired) ?_ ?_ fun _ _ => absurd rfl
  · rintro ⟨⟩ l' (⟨bs, y, boot, -, rfl, same, tidy', banks⟩ | ⟨-, failed, -⟩)
    · apply yields_modify_bind
      refine (afterActivation_banks works b κ { l with shared := y } _).mono ?_
      rintro _ l' ⟨rfl, nv', shared, keeps⟩ -
      rw [shared]
      refine ⟨⟨tidy'.following, tidy'.unstaged⟩, .inl ⟨rfl, ?_⟩⟩
      dsimp only at keeps
      rw [same] at keeps
      rcases boots with ⟨bs', given, boot', committed, sets⟩ | unchanged
      · refine ⟨bs', boot', .inl ⟨given, committed, ?_, ?_⟩⟩
        · rw [dual] at sets
          apply sets.trans_keeps keeps
        · have armed := boot.symm.trans sets.self
          rw [dual] at armed
          cases armed
          apply banks
      · refine ⟨bs, (unchanged _).symm.trans boot, .inr ⟨unchanged.trans keeps, banks⟩⟩
    · apply absurd rfl failed
  · rintro e l' (⟨_, _, _, ok, -⟩ | ⟨none, failed, rfl⟩)
    · cases ok
    · exact refused failed none

theorem run_granted (request : Request) :
  Yields (request.run κ crc w b) l fun answer l' =>
    Settles copies l.shared l'.shared (Granted copies b l.shared l'.shared request) answer
  := by
  cases request with
  | install => exact installAndActivate_granted tidy works wired dual
  | commit => exact commitFlash_granted tidy works wired dual
  | rollback => exact rollbackFlash_granted tidy works wired

end

variable {x y : Shared σ}

/-- A request moves its own component. -/
theorem Stands.of_granted (stands : b.Stands copies x s) (granted : Granted copies b x y request) :
  ∃ t, b.Stands copies y t ∧ request.Moves s t
  := by
  obtain ⟨bs, boot, active, committed⟩ := stands.boot
  cases request with
  | install =>
    obtain ⟨_, boot', granted⟩ := granted
    cases boot.symm.trans boot'
    have banks : ∀ bank, (∀ id, y.banksAt copies id =
        (ProviderOp.activate bank).banksAfter b.provider id (x.banksAt copies id)) →
        y.banksAt copies b.provider.componentId = (some bank, some s.secondary) := by
      intro bank banks
      rw [banks, stands.banks]
      exact if_pos rfl
    rcases granted with ⟨given, settled, sets, eq⟩ | ⟨keeps, eq⟩
    · refine ⟨s.arm, ⟨⟨_, sets.self, ?_, rfl⟩, ?_⟩, .inr ⟨given, committed.symm.trans settled, rfl⟩⟩
      · rw [Stand.arm, ← active]
        rfl
      · rw [banks _ eq, active]
        rfl
    · refine ⟨s.reseal, ⟨⟨bs, (keeps _).trans boot, active, committed⟩, ?_⟩, .inl rfl⟩
      rw [banks _ eq, active]
      rfl
  | commit =>
    obtain ⟨checked, ⟨_, boot', nv⟩, eq⟩ := granted
    cases boot.symm.trans boot'
    have primary : s.primary = s.active := by
      rw [checked bs s.primary boot (by rw [stands.banks]), active]
    refine ⟨s.commit, ⟨?_, ?_⟩, primary, rfl⟩
    · rcases nv with ⟨settled, keeps⟩ | ⟨-, sets⟩
      · exact ⟨bs, (keeps _).trans boot, active, settled⟩
      · exact ⟨_, sets.self, active, rfl⟩
    · rw [eq, stands.banks]
      rfl
  | rollback =>
    obtain ⟨⟨_, boot', trial, sets⟩, eq⟩ := granted
    cases boot.symm.trans boot'
    refine ⟨s.rollback, ⟨⟨_, sets.self, ?_, rfl⟩, ?_⟩, committed.symm.trans trial, rfl⟩
    · rw [Stand.rollback, ← active]
      rfl
    · rw [eq, stands.banks]
      rfl

/-- A request moves the other components with the boot vector. -/
theorem Stands.of_granted_other {d : ComponentBackend}
    (otherId : d.provider.componentId ≠ b.provider.componentId)
    (otherSet : d.provider.bankSet ≠ b.provider.bankSet) (stands : d.Stands copies x s)
    (granted : Granted copies b x y request) :
  ∃ t, d.Stands copies y t ∧ request.MovesOther s t
  := by
  obtain ⟨bs, boot, active, committed⟩ := stands.boot
  have sibling : ∀ {bs'}, SetsBoot b.provider.bankSet bs' x.nv y.nv →
      (y.nv.slot d.provider.bankSet).boot = some bs := by
    intro bs' sets
    rw [sets.other otherSet, boot]
  cases request with
  | install =>
    obtain ⟨_, -, granted⟩ := granted
    have banks : ∀ bank, (∀ id, y.banksAt copies id =
        (ProviderOp.activate bank).banksAfter b.provider id (x.banksAt copies id)) →
        y.banksAt copies d.provider.componentId = (some s.primary, some s.secondary) := by
      intro bank banks
      rw [banks, stands.banks]
      exact if_neg otherId
    rcases granted with ⟨-, -, sets, eq⟩ | ⟨keeps, eq⟩
    · exact ⟨s, ⟨⟨bs, sibling sets, active, committed⟩, banks _ eq⟩, rfl⟩
    · exact ⟨s, ⟨⟨bs, (keeps _).trans boot, active, committed⟩, banks _ eq⟩, rfl⟩
  | commit =>
    obtain ⟨-, ⟨_, -, nv⟩, eq⟩ := granted
    refine ⟨s.promote, ⟨⟨bs, ?_, active, committed⟩, ?_⟩, rfl⟩
    · rcases nv with ⟨-, keeps⟩ | ⟨-, sets⟩
      · apply (keeps _).trans boot
      · apply sibling sets
    · rw [eq, stands.banks]
      rfl
  | rollback =>
    obtain ⟨⟨_, -, -, sets⟩, eq⟩ := granted
    refine ⟨s.restore, ⟨⟨bs, sibling sets, active, committed⟩, ?_⟩, rfl⟩
    rw [eq, stands.banks]
    rfl

end ComponentBackend

/-! ### Campaigns -/

/-- Components with two banks each, over one boot vector. No two have one id or one slot. -/
structure Fleet where
  backends : List ComponentBackend
  ids : (backends.map (·.provider.componentId)).Nodup
  slots : (backends.map (·.provider.bankSet)).Nodup
  wired : ∀ b ∈ backends, b.provider.selector = true
  dualBank : ∀ b ∈ backends, b.singleBank = false ∧ b.provider.singleBank = false

/-- The node, and the bank that the last verdict on each component has asked for. -/
structure Campaign (σ : Type) where
  node : NodeState σ
  asked : String → Option Bank := fun _ => none

/-- The bank that a verdict asks for, of a component with an active bank. -/
def Request.asks (active : Bank) : Request → Option Bank
  | install _ => none
  | commit => some active
  | rollback => some active.other

/-- What happens in a campaign: a component is called, the memories of the components change with a
reset, or the node starts again. -/
inductive CampaignEvent
  | requested (b : ComponentBackend) (request : Request) (answer : Ending BackendError Unit)
  | reset
  | restarted (restart : Restart)

section Campaigns

variable {σ : Type} (κ : Signing) (crc : List UInt8 → UInt32) (copies : σ → Copies) (fleet : Fleet)

def Campaign.askedAfter (x : Campaign σ) (b : ComponentBackend) (request : Request)
    (answer : Ending BackendError Unit) (id : String) : Option Bank :=
  if id = b.provider.componentId ∧ answer = .ok () then
    ((x.node.shared.nv.slot b.provider.bankSet).boot.bind fun bs => request.asks bs.activeBank).or
      (x.asked id)
  else x.asked id

def Campaign.after (x : Campaign σ) (b : ComponentBackend) (request : Request)
    (answer : Ending BackendError Unit) (l : Local σ) : Campaign σ where
  node := x.node.setLocal b.provider.componentId l
  asked := x.askedAfter b request answer

/-- An event, while no write fails. The boot vector is found as it was left or with the committed
copy restored when the node starts again. -/
inductive CampaignStep (x : Campaign σ) : CampaignEvent → Campaign σ → Prop
  | requested {b : ComponentBackend} (mem : b ∈ fleet.backends) {w : World σ}
      (works : Works copies w.env x.node.shared.running.store) {request : Request}
      {answer : Ending BackendError Unit} {l : Local σ}
      (call : request.run κ crc w b (x.node.localOf b.provider.componentId) = (answer, l))
      (returned : answer ≠ .stopped) :
      CampaignStep x (.requested b request answer) (x.after b request answer l)
  | reset (memory : String → Memory) :
      CampaignStep x .reset { x with node := { x.node with memory } }
  | restarted {restart : Restart} {s t : σ} {m : SystemBankManager} (S : SelectorStore σ)
      (honours : Honours copies S)
      (finds : restart.Finds (copies x.node.shared.running.store) (copies s))
      (found : restart ≠ .other) (loaded : load S s = (.ok m, t)) (memory : String → Memory) :
      CampaignStep x (.restarted restart)
        { x with node := { shared := { x.node.shared with running := ⟨t, m⟩ }, memory } }

/-- A component that is rolled back in a trial has the bank from before the install as its committed
one. -/
def Holding (x : Campaign σ) : CampaignEvent → Prop
  | .requested b .rollback _ =>
      ∀ s, b.Stands copies x.node.shared s → s.committed = false → s.Held
  | _ => True

/-- The event takes the boot vector back under a component: another one was rolled back, or the
committed copy was restored when the node started again. -/
def CampaignEvent.Restores (d : ComponentBackend) : CampaignEvent → Prop
  | .requested b .rollback answer =>
      answer = .ok () ∧ d.provider.componentId ≠ b.provider.componentId
  | .restarted restart => restart = .restored
  | _ => False

/-- A component is rolled back as long as its old bank is the committed one, and the vector is taken
back under a component only if its active bank is the committed one. -/
def HoldingAll (x : Campaign σ) (event : CampaignEvent) : Prop :=
  Holding copies x event ∧ ∀ d ∈ fleet.backends, event.Restores d →
    ∀ s, d.Stands copies x.node.shared s → s.secondary = s.active

/-- Events one after the other, each of them allowed in its state. -/
def CampaignRun (allowed : Campaign σ → CampaignEvent → Prop) (start : Campaign σ) :
    Campaign σ → Prop :=
  Reachable (· = start) fun x y => ∃ event, allowed x event ∧
    CampaignStep κ crc copies fleet x event y

/-- NV and the boot vector agree: the vector boots the active banks, and its committed copy has the
banks that NV would go back to. -/
structure Agreement (x : Shared σ) : Prop where
  tidy : Tidy copies x
  stands : ∀ b ∈ fleet.backends, ∃ s, b.Stands copies x s ∧ s.primary = s.active ∧
    s.secondary = if s.committed then s.active else s.active.other

variable {κ crc copies fleet} {x y : Campaign σ} {event : CampaignEvent} {b d : ComponentBackend}

theorem Fleet.backend_of_id (hb : b ∈ fleet.backends) (hd : d ∈ fleet.backends)
    (same : b.provider.componentId = d.provider.componentId) :
  b = d
  := inj_on_of_nodup_map fleet.ids hb hd same

theorem Fleet.backend_of_slot (hb : b ∈ fleet.backends) (hd : d ∈ fleet.backends)
    (same : b.provider.bankSet = d.provider.bankSet) :
  b = d
  := inj_on_of_nodup_map fleet.slots hb hd same

/-- What holds of every component all along: its stores agree, and if it is committed, it has the
bank that its last verdict has asked for. -/
structure Sustained (copies : σ → Copies) (x : Campaign σ) (b : ComponentBackend) (s : Stand) :
    Prop where
  stands : b.Stands copies x.node.shared s
  agrees : s.Agrees
  asked : s.committed = true → ∀ bank, x.asked b.provider.componentId = some bank → bank = s.active

theorem Sustained.congr {t : Stand} (sustained : Sustained copies x b s)
    (stands : b.Stands copies y.node.shared t) (agrees : t.Agrees) (active : t.active = s.active)
    (committed : t.committed = s.committed)
    (asked : y.asked b.provider.componentId = x.asked b.provider.componentId) :
  Sustained copies y b t
  where
  stands := stands
  agrees := agrees
  asked := by
    rw [active, committed, asked]
    apply sustained.asked

/-- A call that takes nothing back is allowed in every state. -/
theorem HoldingAll.of_request (kept : request ≠ .rollback) :
  HoldingAll copies fleet x (.requested b request answer)
  := by
  cases request with
  | install | commit => exact ⟨trivial, fun _ _ => False.elim⟩
  | rollback => apply absurd rfl kept

variable {l : Local σ}

theorem Campaign.askedAfter_other {id : String}
    (other : ¬(id = b.provider.componentId ∧ answer = .ok ())) :
  x.askedAfter b request answer id = x.asked id
  := if_neg other

theorem Campaign.askedAfter_self (request : Request) (stands : b.Stands copies x.node.shared s) :
  x.askedAfter b request (.ok ()) b.provider.componentId =
    (request.asks s.active).or (x.asked b.provider.componentId)
  := by
  obtain ⟨_, boot, active, -⟩ := stands.boot
  rw [askedAfter, if_pos ⟨rfl, rfl⟩, boot, Option.bind_some, active]

/-- A request that is granted keeps its component in order. -/
theorem Sustained.of_granted (sustained : Sustained copies x b s)
    (granted : ComponentBackend.Granted copies b x.node.shared l.shared request)
    (holding : request = .rollback → s.committed = false → s.Held) :
  ∃ t, Sustained copies (x.after b request (.ok ()) l) b t ∧ s.Step t ∧ (s.Together → t.Together)
  := by
  obtain ⟨t, stands, moves⟩ := sustained.stands.of_granted granted
  have asked := x.askedAfter_self request sustained.stands
  cases request with
  | install =>
    rcases moves with rfl | ⟨-, settled, rfl⟩
    · exact ⟨_, sustained.congr stands sustained.agrees.reseal rfl rfl asked, .reseal, .reseal⟩
    · exact ⟨_, ⟨stands, .arm s, nofun⟩, .arm settled, fun _ => .arm s⟩
  | commit =>
    obtain ⟨primary, rfl⟩ := moves
    refine ⟨_, ⟨stands, .commit primary, ?_⟩, .commit primary, fun _ => .commit primary⟩
    intro _ bank some
    cases asked.symm.trans some
    rfl
  | rollback =>
    obtain ⟨trial, rfl⟩ := moves
    have held := holding rfl trial
    refine ⟨_, ⟨stands, .rollback held, ?_⟩, .rollback trial held, fun _ => .rollback held⟩
    intro _ bank some
    cases asked.symm.trans some
    rfl

/-- A request that is granted keeps the other components in order. -/
theorem Sustained.of_granted_other (otherId : d.provider.componentId ≠ b.provider.componentId)
    (otherSet : d.provider.bankSet ≠ b.provider.bankSet) (sustained : Sustained copies x d s)
    (granted : ComponentBackend.Granted copies b x.node.shared l.shared request) :
  ∃ t, Sustained copies (x.after b request answer l) d t ∧ s.Step t ∧
    (s.Together → (request = .rollback → s.secondary = s.active) → t.Together)
  := by
  obtain ⟨t, stands, moves⟩ := sustained.stands.of_granted_other otherId otherSet granted
  have asked : x.askedAfter b request answer d.provider.componentId =
      x.asked d.provider.componentId := Campaign.askedAfter_other fun h => otherId h.1
  cases request with
  | install =>
    cases moves
    exact ⟨_, sustained.congr stands sustained.agrees rfl rfl asked, .stay, fun h _ => h⟩
  | commit =>
    cases moves
    exact ⟨_, sustained.congr stands sustained.agrees.promote rfl rfl asked, .promote,
      fun h _ => h.promote⟩
  | rollback =>
    cases moves
    exact ⟨_, sustained.congr stands sustained.agrees.restore rfl rfl asked, .restore,
      fun h anchored => h.restore (anchored rfl)⟩

/-- The boot vector after the node has started again. -/
theorem tidy_of_load {x : Shared σ} (following : Following copies x) {S : SelectorStore σ}
    (honours : Honours copies S) {restart : Restart} {s t : σ} {m : SystemBankManager}
    (finds : restart.Finds (copies x.running.store) (copies s)) (found : restart ≠ .other)
    (loaded : load S s = (.ok m, t)) (nv : NvStore) :
  Tidy copies ⟨nv, ⟨t, m⟩⟩ ∧ ∀ id, Shared.banksAt copies ⟨nv, ⟨t, m⟩⟩ id =
    if restart = .restored then ((x.banksAt copies id).2, (x.banksAt copies id).2)
    else x.banksAt copies id
  := by
  obtain ⟨follows, primary, secondary⟩ := Follows.of_load honours (finds.floor following) loaded
  refine ⟨⟨follows, load_unstaged loaded⟩, ?_⟩
  intro id
  simp only [Shared.banksAt, Copies.banksAt, Copies.entriesAt, primary, secondary]
  cases restart with
  | plain =>
    rw [if_neg (by rintro ⟨⟩), finds.1, finds.2]
  | restored =>
    rw [if_pos rfl, finds.1, finds.2]
  | other => apply absurd rfl found

section

variable (step : CampaignStep κ crc copies fleet x event y) (tidy : Tidy copies x.node.shared)
  (holding : Holding copies x event)
include step tidy holding

/-- Every event keeps every component in order, and is one of its moves. NV and the vector stay in
step unless the vector is taken back under the component. -/
theorem CampaignStep.moves :
  Tidy copies y.node.shared ∧ ∀ d ∈ fleet.backends, ∀ s, Sustained copies x d s →
    ∃ t, Sustained copies y d t ∧ s.Step t ∧
      (s.Together → (event.Restores d → s.secondary = s.active) → t.Together)
  := by
  cases step with
  | @requested b mem _ works request _ l call returned =>
    have settles :=
      (ComponentBackend.run_granted (l := x.node.localOf b.provider.componentId) tidy works
      (fleet.wired b mem) (fleet.dualBank b mem).1 request).of_run call
    obtain ⟨tidy', ⟨rfl, granted⟩ | ⟨failed, keeps, banks⟩⟩ := settles returned
    · use tidy'
      intro d hd s sustained
      by_cases same : d.provider.componentId = b.provider.componentId
      · cases fleet.backend_of_id hd mem same
        have held : request = .rollback → s.committed = false → s.Held := by
          rintro rfl
          apply holding s sustained.stands
        obtain ⟨t, later, move, kept⟩ := sustained.of_granted granted held
        exact ⟨t, later, move, fun together _ => kept together⟩
      · have otherSet : d.provider.bankSet ≠ b.provider.bankSet := by
          intro same'
          apply same
          rw [fleet.backend_of_slot hd mem same']
        obtain ⟨t, later, move, kept⟩ := sustained.of_granted_other same otherSet granted
        refine ⟨t, later, move, fun together anchored => kept together ?_⟩
        rintro rfl
        apply anchored ⟨rfl, same⟩
    · use tidy'
      intro d hd s sustained
      exact ⟨s, sustained.congr (sustained.stands.congr keeps (banks _)) sustained.agrees rfl rfl
        (Campaign.askedAfter_other fun h => failed h.2), .stay, fun h _ => h⟩
  | reset =>
    use tidy
    intro d hd s sustained
    exact ⟨s, sustained.congr sustained.stands sustained.agrees rfl rfl rfl, .stay, fun h _ => h⟩
  | @restarted restart s _ _ _ honours finds found loaded =>
    obtain ⟨tidy', banks⟩ := tidy_of_load tidy.following honours finds found loaded x.node.shared.nv
    use tidy'
    intro d hd s sustained
    by_cases restored : restart = .restored
    · refine ⟨s.restore, sustained.congr ⟨sustained.stands.boot, ?_⟩ sustained.agrees.restore
        rfl rfl rfl, .restore, fun together anchored => together.restore (anchored restored)⟩
      refine (banks _).trans ?_
      rw [if_pos restored, sustained.stands.banks]
      rfl
    · refine ⟨s, sustained.congr ⟨sustained.stands.boot, ?_⟩ sustained.agrees rfl rfl rfl, .stay,
        fun h _ => h⟩
      refine (banks _).trans ?_
      rw [if_neg restored, sustained.stands.banks]

end

/-- At the start every component is in order, and nothing was asked for. -/
theorem Sustained.of_start (stands : b.Stands copies x.node.shared s)
    (primary : s.primary = s.active)
    (secondary : s.secondary = if s.committed then s.active else s.active.other)
    (fresh : ∀ id, x.asked id = none) :
  Sustained copies x b s
  where
  stands := stands
  agrees := .of_seed primary secondary
  asked := by
    intro _ bank asked
    cases (fresh _).symm.trans asked

/-- NV and the boot vector stay in step in a campaign in which the vector is taken back only under
components that do not need their trial, and every component that is rolled back still has its old
bank as the committed one. Once the vector has no component on trial any more, both of its copies
have the active bank of every component. That bank is the one that the last verdict has asked for,
unless the component was armed since and NV waits for the verdict on it. -/
theorem nv_agrees_with_vector {start : Campaign σ}
    (agreement : Agreement copies fleet start.node.shared) (fresh : ∀ id, start.asked id = none)
    (run : CampaignRun κ crc copies fleet (HoldingAll copies fleet) start x)
    (settled : ∀ b ∈ fleet.backends, b.provider.inTrial x.node.shared = false) :
  ∀ b ∈ fleet.backends, ∃ bs, (x.node.shared.nv.slot b.provider.bankSet).boot = some bs ∧
    x.node.shared.banksAt copies b.provider.componentId = (some bs.activeBank, some bs.activeBank) ∧
    (bs.committed = true →
      ∀ bank, x.asked b.provider.componentId = some bank → bank = bs.activeBank)
  := by
  have sustained : Tidy copies x.node.shared ∧
      ∀ b ∈ fleet.backends, ∃ s, Sustained copies x b s ∧ s.Together := by
    apply run.invariant (P := fun x => Tidy copies x.node.shared ∧
      ∀ b ∈ fleet.backends, ∃ s, Sustained copies x b s ∧ s.Together)
    · rintro _ rfl
      use agreement.tidy
      intro b hb
      obtain ⟨s, stands, primary, secondary⟩ := agreement.stands b hb
      exact ⟨s, .of_start stands primary secondary fresh, .of_seed primary secondary⟩
    · rintro x y ⟨tidy, sustained⟩ ⟨event, ⟨holding, anchored⟩, step⟩
      obtain ⟨tidy', moves⟩ := step.moves tidy holding
      use tidy'
      intro b hb
      obtain ⟨s, before, together⟩ := sustained b hb
      obtain ⟨t, after, -, kept⟩ := moves b hb s before
      exact ⟨t, after, kept together fun restores => anchored b hb restores s before.stands⟩
  intro b hb
  obtain ⟨s, ⟨stands, agrees, asked⟩, together⟩ := sustained.2 b hb
  obtain ⟨bs, boot, active, committed⟩ := stands.boot
  have same := stands.secondary_eq sustained.1 (fleet.wired b hb) (settled b hb)
  refine ⟨bs, boot, ?_, ?_⟩
  · rw [stands.banks, same, together.primary, active]
  · rw [active, committed]
    apply asked

/-- A campaign refines the moves of its components: where a component stands is reached by moves
from where it stood at the start, and all along its stores agree and it has the bank that its last
verdict asked for. -/
theorem campaign_refines_moves {start : Campaign σ}
    (agreement : Agreement copies fleet start.node.shared) (fresh : ∀ id, start.asked id = none)
    (run : CampaignRun κ crc copies fleet (Holding copies) start x) :
  Tidy copies x.node.shared ∧ ∀ b ∈ fleet.backends, ∃ s t, b.Stands copies start.node.shared s ∧
    Sustained copies x b t ∧ Reachable (· = s) Stand.Step t
  := by
  induction run with
  | init eq =>
    cases eq
    use agreement.tidy
    intro b hb
    obtain ⟨s, stands, primary, secondary⟩ := agreement.stands b hb
    exact ⟨s, s, stands, .of_start stands primary secondary fresh, .init rfl⟩
  | step _ next ih =>
    obtain ⟨event, holding, step⟩ := next
    obtain ⟨tidy, moves⟩ := step.moves ih.1 holding
    use tidy
    intro b hb
    obtain ⟨s, t, stands, sustained, reached⟩ := ih.2 b hb
    obtain ⟨t', sustained', move, -⟩ := moves b hb t sustained
    exact ⟨s, t', stands, sustained', reached.step move⟩

end Campaigns

/-! ### Two machines in one campaign -/

namespace TwoMachines

def fleet : Fleet where
  backends := [{ provider := vm1 }, { provider := vm2 }]
  ids := by decide
  slots := by decide
  wired := by
    intro b hb
    simp only [List.mem_cons, List.not_mem_nil, or_false] at hb
    rcases hb with rfl | rfl <;> rfl
  dualBank := by
    intro b hb
    simp only [List.mem_cons, List.not_mem_nil, or_false] at hb
    rcases hb with rfl | rfl <;> exact ⟨rfl, rfl⟩

def calm : Campaign Store where
  node := {
    shared :=
      { start with nv := { deviceSize := BANKSET_BASE + 3 * BANKSET_STRIDE, bootState := some {} } }
    memory := fun _ => {} }

theorem works {s : Store} (writable : s.failWrites = false) :
  Works InMemory.copies working s
  where
  honours := InMemory.honours
  nvFaults := rfl
  activatorError := rfl
  activate entries header := ⟨_, _, InMemorySelectorStore.activate_eq writable entries header⟩
  commit := by
    cases primary : s.primary with
    | none => exact ⟨_, InMemorySelectorStore.commit_eq_none writable primary⟩
    | some => exact ⟨_, InMemorySelectorStore.commit_eq_some writable primary⟩

theorem calm_agrees :
  Agreement InMemory.copies fleet calm.node.shared
  where
  tidy := ⟨⟨rfl, rfl, nofun⟩, rfl⟩
  stands b hb := by
    refine ⟨⟨.A, true, .A, .A⟩, ?_, rfl, rfl⟩
    simp only [fleet, List.mem_cons, List.not_mem_nil, or_false] at hb
    rcases hb with rfl | rfl
    · exact ⟨⟨{}, by decide +kernel, rfl, rfl⟩, by decide +kernel⟩
    · exact ⟨⟨{}, by decide +kernel, rfl, rfl⟩, by decide +kernel⟩

def called (x : Campaign Store) (p : IvdBankProvider) (request : Request) :
    Ending BackendError Unit × Local Store :=
  request.run stubSigner (fun _ => 0) { env := working } { provider := p }
    (x.node.localOf p.componentId)

def next (x : Campaign Store) (p : IvdBankProvider) (request : Request) :
    Campaign Store :=
  x.after { provider := p } request (called x p request).1 (called x p request).2

def onB (x : Campaign Store) : Campaign Store :=
  { x with node := { x.node with memory := fun _ => { runningBank := .B } } }

/-- The images of both machines are installed, and the machines run them. -/
def inTrial : Campaign Store :=
  onB (next (next calm vm1 (.install (some ⟨Buffer.zeros 32, 0, {}⟩))) vm2
    (.install (some ⟨Buffer.zeros 32, 0, {}⟩)))

def bothCommitted : Campaign Store :=
  next (next inTrial vm1 .commit) vm2 .commit

def armedAgain : Campaign Store :=
  next bothCommitted vm1 (.install (some ⟨Buffer.zeros 32, 0, {}⟩))

section Runs

variable {allowed : Campaign Store → CampaignEvent → Prop}
  {x : Campaign Store}

/-- A call of a machine that returns is an event of the campaign. -/
theorem run_next (run : CampaignRun stubSigner (fun _ => 0) InMemory.copies fleet allowed calm x)
    {p : IvdBankProvider} (mem : p = vm1 ∨ p = vm2) (request : Request)
    (writable : x.node.shared.running.store.failWrites = false)
    (returned : (called x p request).1 ≠ .stopped)
    (granted : allowed x (.requested { provider := p } request (called x p request).1)) :
  CampaignRun stubSigner (fun _ => 0) InMemory.copies fleet allowed calm (next x p request)
  := by
  refine run.step ⟨_, granted, ?_⟩
  refine .requested ?_ (w := { env := working }) (works writable) rfl returned
  rcases mem with rfl | rfl
  · apply List.mem_cons_self
  · apply List.mem_cons_of_mem _ (List.mem_cons_self ..)

/-- Both machines come to run their new images. -/
theorem run_inTrial (granted : ∀ x p package answer,
    allowed x (.requested p (.install package) answer))
    (quiet : ∀ x, allowed x .reset) :
  CampaignRun stubSigner (fun _ => 0) InMemory.copies fleet allowed calm inTrial
  := by
  have start : CampaignRun stubSigner (fun _ => 0) InMemory.copies fleet allowed calm calm :=
    .init rfl
  have first := run_next start (.inl rfl) (.install (some ⟨Buffer.zeros 32, 0, {}⟩)) rfl
    (by decide +kernel) (granted ..)
  have second := run_next first (.inr rfl) (.install (some ⟨Buffer.zeros 32, 0, {}⟩))
    (by decide +kernel) (by decide +kernel) (granted ..)
  exact second.step ⟨.reset, quiet _, .reset _⟩

end Runs

end TwoMachines

open TwoMachines in
/-- Both machines run their new images when the commit of the first promotes the whole vector. The
second is rolled back, in NV only: the vector has nothing to go back to. -/
theorem rollback_after_sibling_commit_splits :
  Agreement InMemory.copies fleet calm.node.shared ∧
  ∃ x, CampaignRun stubSigner (fun _ => 0) InMemory.copies fleet (fun _ _ => True) calm x ∧
    (∀ b ∈ fleet.backends, b.provider.inTrial x.node.shared = false ∧
      (x.node.shared.nv.slot b.provider.bankSet).boot.map (·.committed) = some true) ∧
    (x.node.shared.nv.slot vm2.bankSet).boot.map (·.activeBank) = some .A ∧
    x.asked "vm2" = some .A ∧ x.node.shared.banksAt InMemory.copies "vm2" = (some .B, some .B)
  := by
  refine ⟨calm_agrees, next (next inTrial vm1 .commit) vm2 .rollback, ?_, ?_, ?_, ?_, ?_⟩
  · have trial : CampaignRun stubSigner (fun _ => 0) InMemory.copies fleet
      (fun _ _ => True) calm inTrial :=
      run_inTrial (fun _ _ _ _ => trivial) fun _ => trivial
    have first := run_next trial (.inl rfl) .commit (by decide +kernel) (by decide +kernel) trivial
    apply run_next first (.inr rfl) .rollback (by decide +kernel) (by decide +kernel) trivial
  · decide +kernel
  · decide +kernel
  · decide +kernel
  · decide +kernel

open TwoMachines in
/-- Both machines are committed on their new images when the next image of the first is rolled
back. -/
theorem both_committed_agree :
  CampaignRun stubSigner (fun _ => 0) InMemory.copies fleet (HoldingAll InMemory.copies fleet) calm
    (next armedAgain vm1 .rollback) ∧
  ∀ b ∈ fleet.backends, ∃ bs,
    ((next armedAgain vm1 .rollback).node.shared.nv.slot b.provider.bankSet).boot = some bs ∧
    (next armedAgain vm1 .rollback).node.shared.banksAt InMemory.copies b.provider.componentId =
      (some bs.activeBank, some bs.activeBank) ∧ (bs.committed = true → ∀ bank,
      (next armedAgain vm1 .rollback).asked b.provider.componentId = some bank →
        bank = bs.activeBank)
  := by
  have trial : CampaignRun stubSigner (fun _ => 0) InMemory.copies fleet
      (HoldingAll InMemory.copies fleet) calm inTrial :=
    run_inTrial (fun _ _ _ _ => .of_request nofun) fun _ => ⟨trivial, fun _ _ => False.elim⟩
  have first := run_next trial (.inl rfl) .commit (by decide +kernel) (by decide +kernel)
    (.of_request nofun)
  have second := run_next first (.inr rfl) .commit (by decide +kernel) (by decide +kernel)
    (.of_request nofun)
  have third := run_next second (.inl rfl) (.install (some ⟨Buffer.zeros 32, 0, {}⟩))
    (by decide +kernel) (by decide +kernel) (.of_request nofun)
  have armed : ComponentBackend.Stands InMemory.copies { provider := vm1 }
      armedAgain.node.shared ⟨.A, false, .A, .B⟩ := by
    refine ⟨⟨{ activeBank := .A, committed := false }, ?_, rfl, rfl⟩, ?_⟩ <;> decide +kernel
  have kept : ComponentBackend.Stands InMemory.copies { provider := vm2 }
      armedAgain.node.shared ⟨.B, true, .B, .B⟩ := by
    refine ⟨⟨{ activeBank := .B }, ?_, rfl, rfl⟩, ?_⟩ <;> decide +kernel
  have spared : HoldingAll InMemory.copies fleet armedAgain
      (.requested { provider := vm1 } .rollback (called armedAgain vm1 .rollback).1) := by
    constructor
    · rintro s stands -
      rw [stands.unique armed]
      rfl
    · rintro d mem ⟨-, other⟩ s stands
      simp only [fleet, List.mem_cons, List.not_mem_nil, or_false] at mem
      rcases mem with rfl | rfl
      · apply absurd rfl other
      · rw [stands.unique kept]
  have last := run_next third (.inl rfl) .rollback (by decide +kernel) (by decide +kernel) spared
  use last
  apply nv_agrees_with_vector calm_agrees (fun _ => rfl) last
  decide +kernel

open TwoMachines in
/-- Both machines are on trial. -/
theorem in_trial_refines_moves :
  Tidy InMemory.copies inTrial.node.shared ∧ ∀ b ∈ fleet.backends, ∃ s t,
    b.Stands InMemory.copies calm.node.shared s ∧ Sustained InMemory.copies inTrial b t ∧
      Reachable (· = s) Stand.Step t
  := campaign_refines_moves calm_agrees (fun _ => rfl)
    (run_inTrial (fun _ _ _ _ => trivial) fun _ => trivial)

end ComponentMgr
