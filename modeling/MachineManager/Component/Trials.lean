import MachineManager.Component.Backend
import MachineManager.Nv.Boot

/-!
# The end of a trial

What the calls that end a trial do to NV and to the boot vector. On NV a component touches its own
slot only, and if it changes the boot entry at all, the slot is committed after it. On the boot
vector it either changes nothing that boots or is committed, or it ends the trial of all components.
-/

namespace Nv

variable {bs : BankBootState}

/-- The slot is not on trial. -/
def Settled (nv : NvStore) (set : BankSet) : Prop :=
  ∀ bs, (nv.slot set).boot = some bs → bs.committed = true

/-- Only the boot entry of the slot has changed, and if it has, the slot is committed. -/
structure Resolves (set : BankSet) (nv nv' : NvStore) : Prop where
  others : ∀ set', set' ≠ set → (nv'.slot set').boot = (nv.slot set').boot
  own : (nv'.slot set).boot = (nv.slot set).boot ∨ Settled nv' set
  metas : ∀ set' bank, (nv'.readFwMeta set' bank).isSome = (nv.readFwMeta set' bank).isSome

variable {set : BankSet} {nv nv' : NvStore}

namespace Resolves

variable {nv'' : NvStore}

theorem refl (set : BankSet) (nv : NvStore) :
  Resolves set nv nv
  := ⟨fun _ _ => rfl, .inl rfl, fun _ _ => rfl⟩

theorem trans (h : Resolves set nv nv') (h' : Resolves set nv' nv'') :
  Resolves set nv nv''
  where
  others set' other := (h'.others set' other).trans (h.others set' other)
  own := by
    rcases h'.own with same | settled
    · rcases h.own with same' | settled'
      · left
        apply same.trans same'
      · right
        intro bs boot
        apply settled' bs (same.symm.trans boot)
    · right
      apply settled
  metas set' bank := (h'.metas set' bank).trans (h.metas set' bank)

/-- A slot that is settled stays so. -/
theorem settled (h : Resolves set nv nv') {set' : BankSet} (settled : Settled nv set') :
  Settled nv' set'
  := by
  by_cases other : set' = set
  · subst other
    rcases h.own with same | settled'
    · intro bs boot
      apply settled bs (same.symm.trans boot)
    · apply settled'
  · intro bs boot
    apply settled bs ((h.others set' other).symm.trans boot)

/-- One slot has changed: not in its boot entry unless it is settled, and not in which banks have
metadata. -/
theorem of_becomes {s : Slot} (becomes : Becomes set s nv nv')
    (own : s.boot = (nv.slot set).boot ∨ ∀ bs, s.boot = some bs → bs.committed = true)
    (metas : ∀ bank, (s.fwMeta bank).isSome = ((nv.slot set).fwMeta bank).isSome) :
  Resolves set nv nv'
  where
  others set' other := by rw [becomes.other other]
  own := by
    rw [Settled, becomes.self]
    exact own
  metas set' bank := by
    rw [← NvStore.slot_fwMeta, ← NvStore.slot_fwMeta, becomes.slots set']
    split
    next same =>
      rw [same]
      exact metas bank
    next => rfl

theorem of_same (becomes : Becomes set (nv.slot set) nv nv') :
  Resolves set nv nv'
  := of_becomes becomes (.inl rfl) fun _ => rfl

/-- The boot entry of a slot on trial was replaced by a committed one. -/
theorem of_setBank {state : NvBootState} (read : nv.readBootState = some state)
    (entry : state.bank? set = some bs) (trial : bs.committed = false) (new : BankBootState)
    (committed : new.committed = true) :
  Resolves set nv (nv.putBootState (state.setBank set new)) ∧
    Settled (nv.putBootState (state.setBank set new)) set
  := by
  have slot := NvStore.slot_setBank read entry (NvStore.slotInRange_of_trial read entry trial) new
  have settled : Settled (nv.putBootState (state.setBank set new)) set := by
    intro bs' boot
    rw [slot, if_pos rfl] at boot
    cases boot
    apply committed
  refine ⟨⟨?_, .inr settled, fun _ _ => rfl⟩, settled⟩
  intro set' other
  rw [slot, if_neg other]

end Resolves

section Verdicts

variable {faults : NvFaults} {active : Bank}
  {res : Ending OtaError Unit}

theorem Slot.raiseFloor_isSome {s t : Slot} (raise : s.raiseFloor faults active = some t)
    (bank : Bank) :
  (t.fwMeta bank).isSome = (s.fwMeta bank).isSome
  := by
  obtain ⟨rfl, -⟩ | ⟨m, found, -, rfl⟩ := raiseFloor_cases raise
  · rfl
  · by_cases same : bank = active
    · subst same
      rw [setMeta_fwMeta_self, found]
      rfl
    · rw [setMeta_fwMeta_of_ne _ _ same]

/-- Raising the floor leaves the boot entries alone. -/
theorem raiseFloor_resolves (call : raiseFloor faults set active nv = (res, nv')) :
  Resolves set nv nv' ∧ (res = .ok () ∨ ∃ e, res = .err (.nvError e))
  := by
  have outcome : Call.Yields (raiseFloor faults set active) nv fun res nv' =>
      Resolves set nv nv' ∧ (res = .ok () ∨ ∃ e, res = .err (.nvError e)) := by
    apply yields_raiseFloor
    · intro _ e
      exact ⟨.refl set nv, .inr ⟨e, rfl⟩⟩
    · intro s t raise becomes _
      exact ⟨.of_becomes becomes (.inl (Slot.raiseFloor_boot raise)) (Slot.raiseFloor_isSome raise),
        .inl rfl⟩
  rwa [Call.Yields, call] at outcome

/-- A commit of NV settles the slot or leaves its boot entry alone. -/
theorem commit_resolves (call : commit faults set nv = (res, nv')) :
  Resolves set nv nv' ∧ ((res = .ok () ∨ res = .err .alreadyCommitted) → Settled nv' set)
  := by
  obtain ⟨s, outcome, becomes⟩ := commit_outcome faults set nv
  rw [call] at outcome becomes
  cases outcome with
  | absent _ ends => exact ⟨.of_same becomes, by rcases ends with rfl | rfl <;> nofun⟩
  | settled boot committed =>
    use .of_same becomes
    intro _ bs boot'
    rw [becomes.self] at boot'
    cases boot.symm.trans boot'
    exact committed
  | unraised => exact ⟨.of_same becomes, nofun⟩
  | raised _ _ raise =>
    exact ⟨.of_becomes becomes (.inl (Slot.raiseFloor_boot raise)) (Slot.raiseFloor_isSome raise),
      nofun⟩
  | committed _ _ raise =>
    refine ⟨.of_becomes becomes (.inr ?_) fun bank => Slot.raiseFloor_isSome raise bank, ?_⟩
    · intro bs boot
      cases boot
      rfl
    · intro _ bs boot
      rw [becomes.self] at boot
      cases boot
      rfl

/-- A rollback of NV settles the slot or changes nothing. -/
theorem rollback_resolves {res : Ending OtaError Bank}
    (call : rollback faults set nv = (res, nv')) :
  Resolves set nv nv' ∧ ((∃ bank, res = .ok bank) → Settled nv' set)
  := by
  obtain ⟨s, outcome, becomes⟩ := rollback_outcome faults set nv
  rw [call] at outcome becomes
  cases outcome with
  | absent _ ends => exact ⟨.of_same becomes, by rcases ends with rfl | rfl <;> nofun⟩
  | settled | failed => exact ⟨.of_same becomes, nofun⟩
  | returned =>
    have settled : Settled nv' set := by
      intro bs boot
      rw [becomes.self] at boot
      cases boot
      rfl
    refine ⟨.of_becomes becomes (.inr ?_) fun _ => rfl, fun _ => settled⟩
    intro bs boot
    cases boot
    rfl

end Verdicts

end Nv

variable {σ : Type}

namespace SystemBank

open Selector Call

/-! ### The boot vector -/

/-- What boots and what is committed is as before, or no component is on trial any more. -/
def EndsTrial (m m' : SystemBankManager) : Prop :=
  m'.current = m.current ∧ m'.committed = m.committed ∨ m'.isTrial = false

theorem isTrial_eq_false {m : SystemBankManager} (same : m.current = m.committed) :
  m.isTrial = false
  := by rw [SystemBankManager.isTrial, same, bne_self_eq_false]

section Moves

variable {κ : Signing} {S : SelectorStore σ} {n n' : Running σ}
  {answer : Ending SelectorError Answer}

theorem OpMove.commit_ends (move : OpMove κ S n .commit answer n') :
  EndsTrial n.manager n'.manager
  := by
  cases move with
  | commits res =>
    cases res with
    | ok =>
      right
      apply isTrial_eq_false rfl
    | err | stopped => exact .inl ⟨rfl, rfl⟩

theorem OpMove.rollback_ends {reason : Reason} (move : OpMove κ S n (.rollback reason) answer n') :
  EndsTrial n.manager n'.manager
  := by
  cases move with
  | settled => exact .inl ⟨rfl, rfl⟩
  | rollsBack _ res =>
    cases res with
    | ok =>
      right
      apply isTrial_eq_false rfl
    | err | stopped => exact .inl ⟨rfl, rfl⟩

end Moves

end SystemBank

namespace ComponentMgr

open Call Nv Selector SystemBank

/-! ### Providers -/

def stubSigner : Signing where
  sha256 _ := Buffer.zeros 32
  sign _ := []
  verify _ _ := true
  verify_sign _ := rfl

/-- A call that ended the trial of a component, or tried to. -/
structure Ends {σ : Type} (set : BankSet) (x y : Shared σ) (ok : Prop) : Prop where
  nv : Resolves set x.nv y.nv
  vector : EndsTrial x.running.manager y.running.manager
  settled : ok → Settled y.nv set

section Providers

variable {env : Environment σ} {p : IvdBankProvider} {x y : Shared σ}
  {res : Ending BankError Unit} (wired : p.selector = true)
include wired

theorem IvdBankProvider.commit_ends (call : p.commit env x = (res, y)) :
  Ends p.bankSet x y (res = .ok ())
  := by
  have move := ProviderOp.commit.moves stubSigner env x wired
  rw [ProviderOp.run, call] at move
  clear call
  cases move with
  | uncommitted res _ call refused =>
    use (commit_resolves call).1, .inl ⟨rfl, rfl⟩
    intro ok
    cases res with
    | ok => apply absurd rfl refused.1
    | err | stopped => cases ok
  | commits _ call _ _ move =>
    rcases call with call | call
    · obtain ⟨resolves, settled⟩ := commit_resolves call
      exact ⟨resolves, move.commit_ends, fun _ => settled (.inl rfl)⟩
    · obtain ⟨resolves, settled⟩ := commit_resolves call
      exact ⟨resolves, move.commit_ends, fun _ => settled (.inr rfl)⟩

theorem IvdBankProvider.rollback_ends (call : p.rollback env x = (res, y)) :
  Ends p.bankSet x y (res = .ok ())
  := by
  have move := ProviderOp.rollback.moves stubSigner env x wired
  rw [ProviderOp.run, call] at move
  clear call
  cases move with
  | refused _ refused =>
    exact ⟨.refl _ _, .inl ⟨rfl, rfl⟩, fun ok => absurd ok refused⟩
  | unreturned res _ move failed =>
    use .refl _ _, move.rollback_ends
    intro ok
    cases res with
    | ok => apply absurd rfl failed
    | err | stopped => cases ok
  | rollsBack _ move res _ call =>
    obtain ⟨resolves, settled⟩ := rollback_resolves call
    use resolves, move.rollback_ends
    intro ok
    cases res with
    | ok bank => apply settled ⟨bank, rfl⟩
    | err | stopped => cases ok

end Providers

/-! ### Backends -/

/-- What a call of a component that ends its trial does: as a call on what all components share, and
if it does not succeed, the component keeps its memory. -/
structure LocallyEnds {σ : Type} (set : BankSet) (l l' : Local σ) (ok : Prop) : Prop where
  shared : Ends set l.shared l'.shared ok
  memory : ¬ok → l'.memory = l.memory

variable {w : World σ} {l : Local σ} {bs : BankBootState}

namespace ComponentBackend

variable (b : ComponentBackend) {l' : Local σ} {P : Local σ → Prop}

theorem keeps_nvBank :
  Keeps P b.nvBank
  := by
  rw [nvBank]
  refine keeps_bind keeps_get fun l => ?_
  refine keeps_bind (keeps_ofOption _ _) fun state => ?_
  apply keeps_orStop

theorem nvBank_ok (call : b.nvBank l = (.ok bs, l')) :
  l' = l ∧ (l.shared.nv.slot b.provider.bankSet).boot = some bs
  := by
  rw [nvBank, run_get_bind] at call
  cases read : l.shared.nv.readBootState with
  | none =>
    rw [read] at call
    cases call
  | some state =>
    rw [read, run_ofOption_some_bind] at call
    cases entry : state.bank? b.provider.bankSet with
    | none =>
      rw [entry] at call
      cases call
    | some =>
      rw [entry] at call
      cases call
      exact ⟨rfl, (NvStore.slot_boot read _).trans entry⟩

theorem keeps_selected :
  Keeps P b.selected
  := by
  rw [selected]
  refine keeps_bind keeps_get fun l => ?_
  split
  · apply keeps_pure
  · refine keeps_bind b.keeps_nvBank fun bs => ?_
    apply keeps_pure

/-- The checks before a commit change nothing. -/
theorem keeps_preflightCommit :
  Keeps P b.preflightCommit
  := by
  rw [preflightCommit]
  refine keeps_bind keeps_get fun l => ?_
  refine keeps_ite (keeps_pure ()) ?_
  refine keeps_ite (keeps_fail _) ?_
  refine keeps_bind b.keeps_selected fun selected => ?_
  refine keeps_ite (keeps_fail _) ?_
  exact keeps_ite (keeps_fail _) (keeps_pure ())

theorem resolveNodeTransaction_cases :
  b.resolveNodeTransaction w l = (.ok (), l) ∨
  (∃ e, b.resolveNodeTransaction w l = (.err e, l)) ∨
  ∃ session, b.resolveNodeTransaction w l =
    (.ok (), { l with shared := { l.shared with nv := l.shared.nv.putUpdateSession session } })
  := by
  rw [resolveNodeTransaction, run_get_bind]
  rw [run_ite]
  split
  · rw [writeUpdateSession, nvWrite]
    cases w.env.nvFaults .updateSession with
    | true =>
      right; left
      refine ⟨_, rfl⟩
    | false =>
      right; right
      refine ⟨_, rfl⟩
  · left
    rfl

/-- The provider ended the trial, or tried to, and the backend follows if it did. -/
theorem locallyEnds_of_provider {c : Call (Shared σ) BankError Unit}
    (ends : Yields c l.shared fun answer y =>
      Ends b.provider.bankSet l.shared y (answer = .ok ())) :
  Yields (do onProvider c; b.resolveNodeTransaction w; clearTransfer) l fun res l' =>
    LocallyEnds b.provider.bankSet l l' (res = .ok ())
  := by
  refine yields_seq (yields_mapErr (yields_zoom (ends.mono fun answer y ends => ?_)))
  cases answer with
  | ok =>
    have settled := ends.settled rfl
    rcases b.resolveNodeTransaction_cases (w := w) (l := { l with shared := y }) with
      eq | ⟨e, eq⟩ | ⟨session, eq⟩
    · rw [Yields, run_bind_ok eq]
      exact ⟨⟨ends.nv, ends.vector, fun _ => settled⟩, fun failed => absurd rfl failed⟩
    · rw [Yields, run_bind_err eq]
      exact ⟨⟨ends.nv, ends.vector, by rintro ⟨⟩⟩, fun _ => rfl⟩
    · rw [Yields, run_bind_ok eq]
      have written : Resolves b.provider.bankSet y.nv (y.nv.putUpdateSession session) :=
        ⟨fun _ _ => rfl, .inl rfl, fun _ _ => rfl⟩
      exact ⟨⟨ends.nv.trans written, ends.vector, fun _ => written.settled settled⟩,
        fun failed => absurd rfl failed⟩
  | err | stopped => exact ⟨⟨ends.nv, ends.vector, by rintro ⟨⟩⟩, fun _ => rfl⟩

theorem locallyEnds_refl (set : BankSet) (l : Local σ) {ok : Prop} (failed : ¬ok) :
  LocallyEnds set l l ok
  := ⟨⟨.refl _ _, .inl ⟨rfl, rfl⟩, fun h => absurd h failed⟩, fun _ => rfl⟩

variable (wired : b.provider.selector = true)
include wired

theorem commitFlash_ends :
  Yields (b.commitFlash w) l fun res l' =>
    LocallyEnds b.provider.bankSet l l' (res = .ok ())
  := by
  refine yields_unchanged_bind b.keeps_preflightCommit (fun _ _ => ?_)
    fun res failed => locallyEnds_refl _ _ (failed ())
  apply b.locallyEnds_of_provider
  exact yields_of_run fun _ _ => b.provider.commit_ends wired

theorem rollbackFlash_ends :
  Yields (b.rollbackFlash w) l fun res l' =>
    LocallyEnds b.provider.bankSet l l' (res = .ok ())
  := by
  rw [rollbackFlash]
  split
  · exact locallyEnds_refl _ _ nofun
  · apply b.locallyEnds_of_provider
    exact yields_of_run fun _ _ => b.provider.rollback_ends wired

end ComponentBackend

/-! ### Applications -/

namespace AppComponent

variable {α : Type} (a : AppComponent)

/-- The slot is on trial. -/
theorem committed_eq_false {nv : NvStore} :
  a.committed nv = some false ↔ ∃ bs, (nv.slot a.slot).boot = some bs ∧ bs.committed = false
  := by
  rw [committed, NvStore.slot]
  cases nv.readBootState with
  | none | some => simp

/-- The boot state is read with the entry of the slot, or the call ends here. -/
theorem yields_nvBank_bind {f : NvBootState × BankBootState → Call (Local σ) MachineError α}
    {R : Ending MachineError α → Local σ → Prop} (failed : ∀ res, (∀ r, res ≠ .ok r) → R res l)
    (found : ∀ state bs, l.shared.nv.readBootState = some state → state.bank? a.slot = some bs →
      Yields (f (state, bs)) l R) :
  Yields (a.nvBank >>= f) l R
  := by
  refine yields_seq
    (yields_get_bind (yields_ofOption_bind (fun state read => ?_) fun _ => failed _ nofun))
  exact yields_orStop_bind (fun bs entry => found state bs read entry) fun _ => failed _ nofun

theorem keeps_preflightCommit {P : Local σ → Prop} :
  Keeps P a.preflightCommit
  := by
  intro l h
  have kept : Yields a.preflightCommit l fun _ l' => P l' := by
    refine a.yields_nvBank_bind (fun _ _ => h) fun state bs _ _ => ?_
    apply yields_get_bind
    split
    · apply yields_fail h
    · apply yields_pure h
  exact kept

/-- What a call of an application that ends its trial does. It does not know the boot vector, and if
it does not succeed, the boot entry of its slot is as before. -/
structure AppEnds (l l' : Local σ) (ok : Prop) : Prop where
  ends : LocallyEnds a.slot l l' ok
  running : l'.shared.running = l.shared.running
  boot : ¬ok → (l'.shared.nv.slot a.slot).boot = (l.shared.nv.slot a.slot).boot

theorem appEnds_refl (l : Local σ) {ok : Prop} (failed : ¬ok) :
  a.AppEnds l l ok
  := ⟨⟨⟨.refl _ _, .inl ⟨rfl, rfl⟩, fun h => absurd h failed⟩, fun _ => rfl⟩, rfl, fun _ => rfl⟩

variable {state : NvBootState}

/-- A write of the boot state lands, or it changes nothing. -/
theorem yields_writeBootState {R : Ending MachineError Unit → Local σ → Prop}
    (fails : ∀ e, R (.err e) l)
    (lands : R (.ok ())
      { l with shared := { l.shared with nv := l.shared.nv.putBootState state } }) :
  Yields (writeBootState w state) l R
  := by
  apply yields_mapErr
  apply yields_zoom
  apply yields_zoom
  rw [Yields, Nv.writeBootState, nvWrite]
  cases w.env.nvFaults .bootState with
  | true => exact fails _
  | false => exact lands

/-- A committed entry for the slot on trial is written, and the call goes on if that succeeds. -/
theorem settle_ends (read : l.shared.nv.readBootState = some state) {new : BankBootState}
    (entry : state.bank? a.slot = some bs) (committed : new.committed = true) {e : MachineError}
    {c : Call (Local σ) MachineError Unit}
    (next : ∀ l', a.AppEnds l l' True → Yields c l' fun res l'' => res = .ok () ∧
      a.AppEnds l l'' True) :
  Yields (if bs.committed then fail e else do writeBootState w (state.setBank a.slot new); c) l
    fun res l' => a.AppEnds l l' (res = .ok ())
  := by
  split
  · exact a.appEnds_refl l nofun
  next trial =>
  refine yields_seq (yields_writeBootState (fun e => a.appEnds_refl l nofun) ?_)
  obtain ⟨resolves, settled⟩ :=
    Resolves.of_setBank read entry (Bool.eq_false_of_not_eq_true trial) new committed
  refine Yields.mono (next _ ⟨⟨⟨resolves, .inl ⟨rfl, rfl⟩, fun _ => settled⟩, nofun⟩, rfl, nofun⟩)
    ?_
  rintro _ l' ⟨rfl, ends⟩
  rw [eq_self]
  exact ends

theorem raiseFloor_ends {bank : Bank} {l' : Local σ} (ends : a.AppEnds l l' True) :
  Yields (a.raiseFloor w bank) l' fun res l'' => res = .ok () ∧ a.AppEnds l l'' True
  := by
  apply yields_ignore
  apply yields_mapErr
  apply yields_zoom
  apply yields_zoom
  refine yields_of_run fun res nv raised => ?_
  obtain ⟨resolves, returned⟩ := raiseFloor_resolves raised
  refine ⟨⟨rfl, ⟨⟨ends.ends.shared.nv.trans resolves, ends.ends.shared.vector, fun _ =>
    resolves.settled (ends.ends.shared.settled trivial)⟩, nofun⟩, ends.running, nofun⟩, ?_⟩
  rcases returned with rfl | ⟨e, rfl⟩ <;> nofun

theorem commitInstall_ends :
  Yields (a.commitInstall w) l fun res l' => a.AppEnds l l' (res = .ok ())
  := by
  refine yields_unchanged_bind a.keeps_preflightCommit (fun _ _ => ?_)
    fun res failed => a.appEnds_refl l (failed ())
  refine a.yields_nvBank_bind (fun res failed => a.appEnds_refl l (failed ())) ?_
  intro state bs read entry
  apply a.settle_ends read entry rfl
  intro l' ends
  exact a.raiseFloor_ends ends

theorem rollbackInstall_ends (links : w.linkError = none) :
  Yields (a.rollbackInstall w) l fun res l' => a.AppEnds l l' (res = .ok ())
  := by
  refine a.yields_nvBank_bind (fun res failed => a.appEnds_refl l (failed ())) ?_
  intro state bs read entry
  apply a.settle_ends read entry rfl
  intro l' ends
  rw [flipCurrentSymlink, links]
  exact ⟨rfl, ends⟩

end AppComponent

end ComponentMgr
