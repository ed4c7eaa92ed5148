import Mathlib.Data.List.Nodup
import MachineManager.Sovd.PullUpdate

/-!
# The ledger of pulled campaigns

A POST that asks for a campaign tests whether one is running, takes an id, reads the clock, records
the execution in a ledger and spawns the campaign as a task, which records how it ended. Each of
these is a step, and the steps of any number of POSTs and tasks interleave. The ledger keeps what is
running and the last few executions that have ended, by the time at which they were started.

In every run in which no POST makes its test while another is between its test and its recording,
the clock moves on between two executions and the ids do not run out, one campaign runs at a time,
and an execution can be read as long as it should be (`one_campaign_at_a_time`). Two POSTs that both
make their test first are both accepted (`two_campaigns_run_at_once`).
-/

open Asking ComponentMgr

namespace Sovd

open List

structure Executions where
  map : List OperationExecution := []
  seq : UInt64 := 0

/-- How many executions that have ended are kept. -/
def KEEP_COMPLETED : ℕ := 16

namespace Executions

/-- The execution id made of a number. -/
def idOf (n : ℕ) : String :=
  "pull-" ++ toString n

def nextId (x : Executions) : String × Executions :=
  (idOf (x.seq + 1).toNat, { x with seq := x.seq + 1 })

def anyRunning (x : Executions) : Bool :=
  x.map.any (·.status == .running)

def get (x : Executions) (id : String) : Option OperationExecution :=
  x.map.find? (·.executionId == id)

/-- The entries after one is inserted, in the place of the entry with its id if there is one. -/
def insertEntry (exec : OperationExecution) (map : List OperationExecution) :
    List OperationExecution :=
  exec :: map.filter (·.executionId ≠ exec.executionId)

/-- What is left of the entries, met in this order, when the oldest of those that have ended are
dropped. -/
def prune (order : List OperationExecution) : List OperationExecution :=
  let done := (order.filter (·.status ≠ .running)).map fun e => (e.executionId, e.startedAt)
  if KEEP_COMPLETED < done.length then
    let sorted := done.mergeSort fun a b => a.2 ≤ b.2
    let dropped := (sorted.take (done.length - KEEP_COMPLETED)).map Prod.fst
    order.filter (·.executionId ∉ dropped)
  else order

end Executions

/-! ### Requests and tasks -/

/-- How far a POST has come. -/
inductive Post
  | preflight
  | refused
  | tested
  | numbered (id : String)
  | stamped (running : OperationExecution)
  | recorded (running : OperationExecution)
  /-- The campaign runs as a task. -/
  | accepted (running : OperationExecution)
  /-- The task has ended. -/
  | finished (final : OperationExecution)

/-- The ledger, the POSTs, and the executions that have ended, the last one first. -/
structure Server where
  execs : Executions := {}
  posts : ℕ → Post := fun _ => .preflight
  finished : List OperationExecution := []

/-- The entry under which a campaign is recorded before it runs. -/
def runningExecution (id : String) (now : ℤ) : OperationExecution where
  executionId := id
  operationId := PULL_OP_ID
  status := .running
  result := none
  error := none
  startedAt := now
  completedAt := none

/-- The campaign that `running` stands for may end with `final`. -/
def Finishes {κ : Type} (request : Campaign κ × List UInt8) (running final : OperationExecution) :
    Prop :=
  ∃ (σ : Type) (env : Environment (Request κ) Request.Answer σ) (s : σ),
    final = (run env (executePullUpdate request.1 request.2 running.executionId running.startedAt)
      s).result

/-- What a POST, or the task it has spawned, does next. The entries of the ledger are met in no
particular order. -/
inductive Action
  | refuse
  | test
  | number
  | stamp (now : ℤ)
  | record (order : List OperationExecution)
  | spawn
  | finish (final : OperationExecution) (order : List OperationExecution)

open Executions in
/-- One step of POST `p`. -/
inductive Server.Step {κ : Type} (requests : ℕ → Campaign κ × List UInt8) (s : Server) (p : ℕ) :
    Action → Server → Prop
  | refuse (at_start : s.posts p = .preflight) (busy : s.execs.anyRunning) :
      Step requests s p .refuse { s with posts := Function.update s.posts p .refused }
  | test (at_start : s.posts p = .preflight) (free : s.execs.anyRunning = false) :
      Step requests s p .test { s with posts := Function.update s.posts p .tested }
  | number (tested : s.posts p = .tested) :
      Step requests s p .number
        { s with
          execs := s.execs.nextId.2
          posts := Function.update s.posts p (.numbered s.execs.nextId.1) }
  | stamp {id : String} {now : ℤ} (numbered : s.posts p = .numbered id) :
      Step requests s p (.stamp now)
        { s with posts := Function.update s.posts p (.stamped (runningExecution id now)) }
  | record {running : OperationExecution} {order : List OperationExecution}
      (stamped : s.posts p = .stamped running)
      (arranged : order.Perm (insertEntry running s.execs.map)) :
      Step requests s p (.record order)
        { s with
          execs := { s.execs with map := prune order }
          posts := Function.update s.posts p (.recorded running) }
  | spawn {running : OperationExecution} (recorded : s.posts p = .recorded running) :
      Step requests s p .spawn { s with posts := Function.update s.posts p (.accepted running) }
  | finish {running final : OperationExecution} {order : List OperationExecution}
      (accepted : s.posts p = .accepted running) (finishes : Finishes (requests p) running final)
      (arranged : order.Perm (insertEntry final s.execs.map)) :
      Step requests s p (.finish final order)
        { execs := { s.execs with map := prune order }
          posts := Function.update s.posts p (.finished final)
          finished := final :: s.finished }

/-- The POST has made its test and not yet recorded its execution. -/
def Post.pending : Post → Prop
  | tested | numbered _ | stamped _ => True
  | _ => False

/-- The condition on a step: a test is made only while no POST is between its test and its
recording, there is another number, and the clock has moved on since the executions in the
ledger. -/
def Server.Orderly (s : Server) : Action → Prop
  | .test => ∀ q, ¬ (s.posts q).pending
  | .number => s.execs.seq.toNat + 1 < 2 ^ 64
  | .stamp now => ∀ e ∈ s.execs.map, e.startedAt < now
  | _ => True

/-! ### What is kept -/

/-- A list is sorted by a key into the one arrangement in which the keys increase. -/
theorem mergeSort_eq_of_perm {α : Type} {key : α → ℤ} {l sorted : List α} (arranged : l.Perm sorted)
    (increasing : sorted.Pairwise (key · < key ·)) :
  l.mergeSort (fun a b => key a ≤ key b) = sorted
  := by
  have sorts : (l.mergeSort fun a b => key a ≤ key b).Pairwise
      fun a b => decide (key a ≤ key b) = true := by
    apply pairwise_mergeSort
    · simp only [decide_eq_true_eq]
      intro a b c
      apply le_trans
    · simp only [Bool.or_eq_true, decide_eq_true_eq]
      intro a b
      apply le_total
  have same : (l.mergeSort fun a b => key a ≤ key b).Perm sorted :=
    (mergeSort_perm l _).trans arranged
  have distinct : (sorted.map key).Nodup :=
    pairwise_map.mpr (increasing.imp ne_of_lt)
  apply List.Perm.eq_of_pairwise _ sorts (increasing.imp fun h => decide_eq_true h.le) same
  intro a b mem_a mem_b le ge
  apply inj_on_of_nodup_map distinct (same.subset mem_a) mem_b
  apply le_antisymm (of_decide_eq_true le) (of_decide_eq_true ge)

namespace Executions

variable {ended live : List OperationExecution}

/-- The entries whose ids are not among those of the last ones are the others. -/
theorem filter_not_mem_drop {k : ℕ} (distinct : ((live ++ ended).map (·.executionId)).Nodup) :
  (live ++ ended).filter (·.executionId ∉ (ended.drop k).map (·.executionId)) = live ++ ended.take k
  := by
  have parts : live ++ ended = (live ++ ended.take k) ++ ended.drop k := by
    rw [append_assoc, take_append_drop]
  rw [parts, map_append, nodup_append] at distinct
  rw [parts, filter_append]
  have kept : (live ++ ended.take k).filter
      (·.executionId ∉ (ended.drop k).map (·.executionId)) = live ++ ended.take k := by
    rw [filter_eq_self]
    intro e mem
    apply decide_eq_true
    intro same
    apply distinct.2.2 _ (mem_map_of_mem mem) _ same rfl
  have gone : (ended.drop k).filter
      (·.executionId ∉ (ended.drop k).map (·.executionId)) = [] := by
    rw [filter_eq_nil_iff]
    intro e mem
    simp only [decide_eq_true_eq, not_not]
    apply mem_map_of_mem mem
  rw [kept, gone, append_nil]

/-- The entries that are left are those that are not dropped, as many of the newest as are kept. -/
theorem prune_perm {order : List OperationExecution}
    (arranged : order.Perm (live ++ ended)) (running : ∀ e ∈ live, e.status = .running)
    (final : ∀ e ∈ ended, e.status ≠ .running)
    (decreasing : ended.Pairwise fun newer older => older.startedAt < newer.startedAt)
    (distinct : ((live ++ ended).map (·.executionId)).Nodup) :
  (prune order).Perm (live ++ ended.take KEEP_COMPLETED)
  := by
  have ends : (order.filter (·.status ≠ .running)).Perm ended := by
    have h := arranged.filter (·.status ≠ .running)
    have none : live.filter (·.status ≠ .running) = [] := by
      rw [filter_eq_nil_iff]
      intro e mem
      simp [running e mem]
    have all : ended.filter (·.status ≠ .running) = ended := by
      rw [filter_eq_self]
      intro e mem
      simp [final e mem]
    rw [filter_append, none, all, nil_append] at h
    exact h
  let brief : OperationExecution → String × ℤ := fun e => (e.executionId, e.startedAt)
  have sorts : ((order.filter (·.status ≠ .running)).map brief).mergeSort (fun a b => a.2 ≤ b.2) =
      (ended.map brief).reverse := by
    apply mergeSort_eq_of_perm ((ends.map brief).trans (reverse_perm _).symm)
    rw [pairwise_reverse, pairwise_map]
    exact decreasing
  have length_eq : ((order.filter (·.status ≠ .running)).map brief).length = ended.length := by
    rw [length_map, ends.length_eq]
  unfold prune
  simp only [brief] at sorts length_eq
  simp only [sorts, length_eq]
  split
  case isFalse fits =>
    rw [take_of_length_le (not_lt.mp fits)]
    exact arranged
  case isTrue exceeds =>
    have dropped : ∀ id, id ∈ ((ended.map brief).reverse.take (ended.length - KEEP_COMPLETED)).map
        Prod.fst ↔ id ∈ (ended.drop KEEP_COMPLETED).map (·.executionId) := by
      intro id
      rw [take_reverse, length_map, Nat.sub_sub_self exceeds.le, map_reverse,
        mem_reverse, ← map_drop, map_map]
      rfl
    simp only [brief] at dropped
    simp only [dropped]
    apply (arranged.filter _).trans
    apply List.Perm.of_eq
    apply filter_not_mem_drop distinct

end Executions

/-! ### What a POST stands for -/

variable {post : Post}

namespace Post

def id : Post → Option String
  | numbered id => some id
  | stamped e | recorded e | accepted e | finished e => some e.executionId
  | _ => none

/-- The execution of a POST whose task has not ended. -/
def begun : Post → Option OperationExecution
  | stamped e | recorded e | accepted e => some e
  | _ => none

/-- The execution of a POST that is recorded as running. -/
def live : Post → Option OperationExecution
  | recorded e | accepted e => some e
  | _ => none

/-- The POST has passed its test, and its task has not ended. -/
def active : Post → Prop
  | tested | numbered _ | stamped _ | recorded _ | accepted _ => True
  | _ => False

/-- A POST whose execution has begun is active. -/
theorem active_of_begun {e : OperationExecution} (h : post.begun = some e) :
  post.active
  := by
  cases post <;> simp_all [active, begun]

/-- A POST that is active is pending or recorded as running. -/
theorem active_iff :
  post.active ↔ post.pending ∨ ∃ e, post.live = some e
  := by
  cases post <;> simp [active, pending, live]

end Post

namespace Server

open Executions

/-- What holds of the server in every orderly run; `running` is the execution that is recorded as
running, if there is one. -/
structure Inv (running : Option OperationExecution) (s : Server) : Prop where
  exclusive : ∀ p q, (s.posts p).active → (s.posts q).active → p = q
  ledger : s.execs.map.Perm (running.toList ++ s.finished.take KEEP_COMPLETED)
  live : ∀ e, running = some e ↔ ∃ p, (s.posts p).live = some e
  begun : ∀ p e, (s.posts p).begun = some e →
    e.status = .running ∧ ∀ f ∈ s.finished, f.startedAt < e.startedAt
  ended : ∀ e, e ∈ s.finished ↔ ∃ p, s.posts p = .finished e
  final : ∀ e ∈ s.finished, e.status ≠ .running
  decreasing : s.finished.Pairwise fun newer older => older.startedAt < newer.startedAt
  numbered : ∀ p id, (s.posts p).id = some id → ∃ n ≤ s.execs.seq.toNat, id = idOf n
  distinct : ∀ p q id, (s.posts p).id = some id → (s.posts q).id = some id → p = q

variable {running : Option OperationExecution} {s : Server}

/-- No two executions in the history have one id. -/
theorem Inv.nodup (h : Inv running s) :
  ((running.toList ++ s.finished).map (·.executionId)).Nodup
  := by
  have ended_id {e : OperationExecution} (mem : e ∈ s.finished) :
      ∃ p, s.posts p = .finished e ∧ (s.posts p).id = some e.executionId := by
    obtain ⟨p, at_p⟩ := (h.ended e).mp mem
    use p, at_p
    rw [at_p]
    rfl
  have past : (s.finished.map (·.executionId)).Nodup := by
    rw [List.Nodup, pairwise_map]
    apply h.decreasing.imp_of_mem
    intro e f mem_e mem_f earlier same
    obtain ⟨p, at_p, id_p⟩ := ended_id mem_e
    obtain ⟨q, at_q, id_q⟩ := ended_id mem_f
    rw [← same] at id_q
    obtain rfl := h.distinct p q _ id_p id_q
    rw [at_p, Post.finished.injEq] at at_q
    rw [at_q] at earlier
    exact lt_irrefl _ earlier
  cases running with
  | none => exact past
  | some e =>
    rw [Option.toList_some, singleton_append, map_cons, nodup_cons]
    refine ⟨?_, past⟩
    rw [mem_map]
    rintro ⟨f, mem_f, same⟩
    obtain ⟨p, live_p⟩ := (h.live e).mp rfl
    obtain ⟨q, at_q, id_q⟩ := ended_id mem_f
    have id_p : (s.posts p).id = some e.executionId := by
      cases at_p : s.posts p <;> simp [at_p, Post.live, Post.id] at live_p ⊢ <;> rw [live_p]
    rw [same] at id_q
    obtain rfl := h.distinct p q _ id_p id_q
    rw [at_q] at live_p
    cases live_p

variable {p : ℕ} {e final : OperationExecution} {order : List OperationExecution}

/-- A POST comes to stand for something else, but not for another execution that is running or has
ended. -/
theorem Inv.update {execs : Executions} (h : Inv running s) (map : execs.map = s.execs.map)
    (seq : s.execs.seq.toNat ≤ execs.seq.toNat)
    (active : post.active → (s.posts p).active ∨ ∀ q, ¬ (s.posts q).active)
    (live : post.live = (s.posts p).live)
    (begun : ∀ e, post.begun = some e → (s.posts p).begun = some e ∨
      e.status = .running ∧ ∀ f ∈ s.finished, f.startedAt < e.startedAt)
    (unfinished : ∀ e, post ≠ .finished e ∧ s.posts p ≠ .finished e)
    (id : ∀ id, post.id = some id → (s.posts p).id = some id ∨
      (∃ n ≤ execs.seq.toNat, id = idOf n) ∧ ∀ q, (s.posts q).id ≠ some id) :
  Inv running { s with execs := execs, posts := Function.update s.posts p post }
  := by
  have update_apply (q : ℕ) : Function.update s.posts p post q = if q = p then post
    else s.posts q :=
    Function.update_apply _ _ _ _
  refine { h with
    ledger := map ▸ h.ledger, exclusive := ?_, live := ?_, begun := ?_, ended := ?_, numbered :=
      ?_, distinct := ?_ }
  · have := h.exclusive
    grind
  · have := h.live
    grind
  · have := h.begun
    grind
  · have := h.ended
    grind
  · intro q taken id_q
    have := h.numbered q taken
    have := h.numbered p taken
    grind
  · have := h.distinct
    grind

/-- While an execution is running, the test tells so. -/
theorem Inv.not_live_of_free (h : Inv running s) (free : s.execs.anyRunning = false) (p : ℕ) :
  (s.posts p).live = none
  := by
  rw [Option.eq_none_iff_forall_ne_some]
  intro e live_p
  have is_running := (h.live e).mpr ⟨p, live_p⟩
  have mem : e ∈ s.execs.map := by
    apply h.ledger.symm.subset
    simp [is_running]
  have status : e.status = .running := by
    apply (h.begun p e _).1
    cases at_p : s.posts p <;> simp_all [Post.live, Post.begun]
  have busy : s.execs.anyRunning = true := by
    rw [anyRunning, any_eq_true]
    use e, mem
    simp [status]
  rw [free] at busy
  cases busy

/-- A POST passes its test. -/
theorem Inv.test (h : Inv running s) (at_start : s.posts p = .preflight)
    (free : s.execs.anyRunning = false) (alone : ∀ q, ¬ (s.posts q).pending) :
  Inv running { s with posts := Function.update s.posts p .tested }
  := by
  have inactive (q : ℕ) : ¬ (s.posts q).active := by
    rw [Post.active_iff, h.not_live_of_free free q]
    simp [alone q]
  apply h.update rfl (le_refl _) (fun _ => .inr inactive)
    <;> simp [at_start, Post.id, Post.begun, Post.live]

/-- The id tells the number. -/
theorem idOf_inj {m n : ℕ} (h : idOf m = idOf n) :
  m = n
  := by
  have digits := (String.append_right_inj "pull-").mp h
  rw [Nat.toString_eq_ofList_toDigits, Nat.toString_eq_ofList_toDigits, String.ofList_inj] at digits
  rw [← Nat.ofDigitChars_ten_toDigits (n := m), digits, Nat.ofDigitChars_ten_toDigits]

/-- A POST takes a number. -/
theorem Inv.number (h : Inv running s) (tested : s.posts p = .tested)
    (more : s.execs.seq.toNat + 1 < 2 ^ 64) :
  Inv running
    { s with
      execs := s.execs.nextId.2
      posts := Function.update s.posts p (.numbered s.execs.nextId.1) }
  := by
  have next : (s.execs.seq + 1).toNat = s.execs.seq.toNat + 1 := by
    rw [UInt64.toNat_add]
    exact Nat.mod_eq_of_lt more
  have fresh (q : ℕ) : (s.posts q).id ≠ some s.execs.nextId.1 := by
    intro taken
    obtain ⟨n, _, same⟩ := h.numbered q _ taken
    have := idOf_inj same
    omega
  refine h.update rfl ?_ ?_ ?_ ?_ ?_ ?_
  case refine_6 =>
    rintro _ ⟨⟩
    exact .inr ⟨⟨_, le_refl _, by simp [nextId, next]⟩, fresh⟩
  all_goals simp [tested, Post.active, Post.begun, Post.live, nextId, next]

/-- What is later than the entries of the ledger is later than all that has ended. -/
theorem Inv.later_than_finished {now : ℤ} (h : Inv running s)
    (later : ∀ e ∈ s.execs.map, e.startedAt < now) :
  ∀ f ∈ s.finished, f.startedAt < now
  := by
  cases past : s.finished with
  | nil => simp
  | cons last =>
    have decreasing := h.decreasing
    rw [past, pairwise_cons] at decreasing
    have last_later : last.startedAt < now := by
      apply later
      apply h.ledger.symm.subset
      simp [past, KEEP_COMPLETED]
    intro f mem
    rcases mem_cons.mp mem with rfl | earlier
    · exact last_later
    · apply (decreasing.1 f earlier).trans last_later

/-- A POST reads the clock. -/
theorem Inv.stamp {id : String} {now : ℤ} (h : Inv running s) (numbered : s.posts p = .numbered id)
    (later : ∀ e ∈ s.execs.map, e.startedAt < now) :
  Inv running { s with posts := Function.update s.posts p (.stamped (runningExecution id now)) }
  := by
  apply h.update rfl (le_refl _) <;> simp [numbered, Post.active, Post.id, Post.begun, Post.live,
    runningExecution]
  apply h.later_than_finished later

/-- The entries with those of another id. -/
theorem insertEntry_perm {exec : OperationExecution} {map rest : List OperationExecution}
    (arranged : map.Perm rest) :
  (insertEntry exec map).Perm (exec :: rest.filter (·.executionId ≠ exec.executionId))
  := (arranged.filter _).cons exec

/-- A POST records its execution. -/
theorem Inv.record (h : Inv running s) (stamped : s.posts p = .stamped e)
    (arranged : order.Perm (insertEntry e s.execs.map)) :
  Inv (some e)
    { s with
      execs := { s.execs with map := prune order }
      posts := Function.update s.posts p (.recorded e) }
  := by
  have update_apply (q : ℕ) : Function.update s.posts p (.recorded e) q =
      if q = p then .recorded e else s.posts q :=
    Function.update_apply _ _ _ _
  have none_live (q : ℕ) : (s.posts q).live = none := by
    have := h.exclusive p q
    cases at_q : s.posts q <;> simp_all [Post.active, Post.live]
  have none_running : running = none := by
    rw [Option.eq_none_iff_forall_ne_some]
    intro f is_running
    obtain ⟨q, live_q⟩ := (h.live f).mp is_running
    rw [none_live] at live_q
    cases live_q
  obtain rfl := none_running
  have fresh : ∀ f ∈ s.finished, f.executionId ≠ e.executionId := by
    intro f mem same
    obtain ⟨q, _⟩ := (h.ended f).mp mem
    have := h.distinct p q e.executionId
    simp_all [Post.id]
  obtain ⟨e_running, _⟩ := h.begun p e (by rw [stamped]; rfl)
  have entries : order.Perm ([e] ++ s.finished.take KEEP_COMPLETED) := by
    apply arranged.trans
    apply (insertEntry_perm h.ledger).trans
    apply List.Perm.of_eq
    rw [Option.toList_none, nil_append, filter_eq_self.mpr, singleton_append]
    intro f mem
    simpa using fresh f (mem_of_mem_take mem)
  have distinct : (([e] ++ s.finished.take KEEP_COMPLETED).map (·.executionId)).Nodup := by
    rw [singleton_append, map_cons, nodup_cons, map_take]
    refine ⟨?_, h.nodup.sublist (take_sublist _ _)⟩
    intro mem
    obtain ⟨f, mem_f, same⟩ := mem_map.mp (mem_of_mem_take mem)
    apply fresh f mem_f same
  constructor
  case exclusive =>
    have := h.exclusive
    grind [Post.active]
  case ledger =>
    have kept := prune_perm entries (by simpa using e_running)
      (fun f mem => h.final f (mem_of_mem_take mem))
      (h.decreasing.sublist (take_sublist _ _)) distinct
    rw [take_take, min_self] at kept
    exact kept
  case live =>
    grind [Post.live]
  case begun =>
    have := h.begun
    grind [Post.begun]
  case ended =>
    have := h.ended
    grind
  case final => exact h.final
  case decreasing => exact h.decreasing
  case numbered =>
    have := h.numbered
    grind [Post.id]
  case distinct =>
    have := h.distinct
    grind [Post.id]

/-- What the ledger holds after a task has recorded its end. -/
theorem Inv.finish_ledger (h : Inv (some e) s) (same_id : final.executionId = e.executionId)
    (later : ∀ f ∈ s.finished, f.startedAt < final.startedAt) (ended : final.status ≠ .running)
    (arranged : order.Perm (insertEntry final s.execs.map)) :
  (prune order).Perm ((final :: s.finished).take KEEP_COMPLETED)
  := by
  have distinct : ((final :: s.finished).map (·.executionId)).Nodup := by
    rw [map_cons, same_id]
    exact h.nodup
  have entries : order.Perm ([] ++ final :: s.finished.take KEEP_COMPLETED) := by
    apply arranged.trans
    apply (insertEntry_perm h.ledger).trans
    apply List.Perm.of_eq
    rw [nil_append, Option.toList_some, singleton_append, filter_cons_of_neg, filter_eq_self.mpr]
    · intro f mem
      rw [map_cons, nodup_cons] at distinct
      apply decide_eq_true
      intro same
      apply distinct.1
      rw [← same]
      apply mem_map_of_mem (mem_of_mem_take mem)
    · simp [same_id]
  have decreasing :
      (final :: s.finished).Pairwise fun newer older => older.startedAt < newer.startedAt := by
    rw [pairwise_cons]
    exact ⟨later, h.decreasing⟩
  have all_final : ∀ f ∈ final :: s.finished, f.status ≠ .running := by
    rw [forall_mem_cons]
    exact ⟨ended, h.final⟩
  have shorter : (final :: s.finished.take KEEP_COMPLETED).Sublist (final :: s.finished) :=
    (take_sublist _ _).cons_cons final
  have kept := prune_perm entries (forall_mem_nil _)
    (fun f mem => all_final f (shorter.subset mem)) (decreasing.sublist shorter)
    (distinct.sublist (shorter.map _))
  have same : (final :: s.finished.take KEEP_COMPLETED).take KEEP_COMPLETED =
      (final :: s.finished).take KEEP_COMPLETED := by
    simp [KEEP_COMPLETED, take_take]
  rw [nil_append, same] at kept
  exact kept

/-- A task ends and records how. -/
theorem Inv.finish (h : Inv running s) (accepted : s.posts p = .accepted e)
    (same_id : final.executionId = e.executionId) (same_start : final.startedAt = e.startedAt)
    (ended : final.status ≠ .running) (arranged : order.Perm (insertEntry final s.execs.map)) :
  Inv none
    { execs := { s.execs with map := prune order }
      posts := Function.update s.posts p (.finished final)
      finished := final :: s.finished }
  := by
  have update_apply (q : ℕ) : Function.update s.posts p (.finished final) q =
      if q = p then .finished final else s.posts q :=
    Function.update_apply _ _ _ _
  have active_p : (s.posts p).active := by
    rw [accepted]
    trivial
  have live_p : (s.posts p).live = some e := by
    rw [accepted]
    rfl
  have id_p : (s.posts p).id = some final.executionId := by
    rw [accepted, same_id]
    rfl
  have is_running : running = some e := (h.live e).mpr ⟨p, live_p⟩
  subst is_running
  have later : ∀ f ∈ s.finished, f.startedAt < final.startedAt := by
    rw [same_start]
    apply (h.begun p e _).2
    rw [accepted]
    rfl
  have others (q : ℕ) (ne : q ≠ p) : ¬ (s.posts q).active :=
    fun active_q => ne (h.exclusive q p active_q active_p)
  constructor
  case exclusive =>
    intro q r active_q
    simp only [update_apply] at active_q
    split at active_q
    · exact active_q.elim
    · exact (others q ‹_› active_q).elim
  case ledger => exact h.finish_ledger same_id later ended arranged
  case live =>
    intro f
    simp only [update_apply, reduceCtorEq, false_iff, not_exists]
    intro q live_q
    split at live_q
    · cases live_q
    · exact others q ‹_› (Post.active_iff.mpr (.inr ⟨f, live_q⟩))
  case begun =>
    intro q f begun_q
    simp only [update_apply] at begun_q
    split at begun_q
    · cases begun_q
    · exact (others q ‹_› (Post.active_of_begun begun_q)).elim
  case ended =>
    have ended := h.ended
    grind
  case final =>
    rw [forall_mem_cons]
    exact ⟨ended, h.final⟩
  case decreasing => exact pairwise_cons.mpr ⟨later, h.decreasing⟩
  case numbered =>
    have := h.numbered
    grind [Post.id]
  case distinct =>
    have := h.distinct
    grind [Post.id]

/-! ### Runs -/

/-- A campaign ends under the id and the time with which it was started, and it is then not
running. -/
theorem finishes_facts {κ : Type} {request : Campaign κ × List UInt8}
    (h : Finishes request e final) :
  final.executionId = e.executionId ∧ final.startedAt = e.startedAt ∧ final.status ≠ .running
  := by
  obtain ⟨σ, env, state, rfl⟩ := h
  suffices always : Always (fun _ final => final.executionId = e.executionId ∧
      final.startedAt = e.startedAt ∧ final.status ≠ .running)
      (executePullUpdate request.1 request.2 e.executionId e.startedAt) by
    exact always.transcript env state
  apply always_bind (runCampaign_always request.2)
  rintro t ⟨steps, outcome⟩ -
  apply always_question
  intro time
  cases outcome with
  | error | ok => exact always_pure ⟨rfl, rfl, nofun⟩

/-- Some POST, or its task, makes a step. -/
def Runs {κ : Type} (requests : ℕ → Campaign κ × List UInt8) (s t : Server) : Prop :=
  ∃ p action, s.Step requests p action t

/-- Some POST, or its task, makes a step that meets the condition. -/
def OrderlyRuns {κ : Type} (requests : ℕ → Campaign κ × List UInt8) (s t : Server) : Prop :=
  ∃ p action, s.Orderly action ∧ s.Step requests p action t

/-- The invariant is kept by every orderly step. -/
theorem inv_step {κ : Type} {requests : ℕ → Campaign κ × List UInt8} {t : Server}
    (h : ∃ running, Inv running s) (runs : OrderlyRuns requests s t) :
  ∃ running, Inv running t
  := by
  obtain ⟨running, h⟩ := h
  obtain ⟨p, _, orderly, step⟩ := runs
  cases step with
  | refuse at_start =>
    use running
    apply h.update rfl (le_refl _) <;> simp [at_start, Post.active, Post.id, Post.begun, Post.live]
  | test at_start free => exact ⟨running, h.test at_start free orderly⟩
  | number tested => exact ⟨running, h.number tested orderly⟩
  | stamp numbered => exact ⟨running, h.stamp numbered orderly⟩
  | record stamped arranged => exact ⟨_, h.record stamped arranged⟩
  | spawn recorded =>
    use running
    apply h.update rfl (le_refl _) <;> simp [recorded, Post.active, Post.id, Post.begun, Post.live]
  | finish accepted finishes arranged =>
    obtain ⟨same_id, same_start, ended⟩ := finishes_facts finishes
    exact ⟨none, h.finish accepted same_id same_start ended arranged⟩

/-- The invariant holds at the start. -/
theorem inv_start :
  Inv none {}
  where
  exclusive := nofun
  ledger := .refl _
  live := by simp [Post.live]
  begun := nofun
  ended := by simp
  final := forall_mem_nil _
  decreasing := .nil
  numbered := nofun
  distinct := nofun

/-- One campaign runs at a time; an execution is read as running from its recording until its task
ends, and then as it ended until as many others as are kept have ended after it; no two POSTs have
one id. -/
structure Sound (s : Server) : Prop where
  one_task : ∀ p q e f, s.posts p = .accepted e → s.posts q = .accepted f → p = q
  running_readable : ∀ p e, (s.posts p).live = some e →
    e.status = .running ∧ s.execs.get e.executionId = some e
  final_readable : ∀ p e, s.posts p = .finished e → e.status ≠ .running ∧ e ∈ s.finished ∧
      (s.execs.get e.executionId = some e ∨ e ∈ s.finished.drop KEEP_COMPLETED)
  distinct_ids : ∀ p q id, (s.posts p).id = some id → (s.posts q).id = some id → p = q

/-- An entry of the ledger is read under its id. -/
theorem Inv.get_eq (h : Inv running s)
    (mem : e ∈ running.toList ++ s.finished.take KEEP_COMPLETED) :
  s.execs.get e.executionId = some e
  := by
  have distinct : ((running.toList ++ s.finished.take KEEP_COMPLETED).map (·.executionId)).Nodup :=
    h.nodup.sublist (((take_sublist _ _).append_left _).map _)
  have stored : e ∈ s.execs.map := h.ledger.symm.subset mem
  cases found : s.execs.get e.executionId with
  | none =>
    have absent := find?_eq_none.mp found e stored
    simp at absent
  | some =>
    have same := find?_some found
    have mem_f := h.ledger.subset (mem_of_find?_eq_some found)
    rw [beq_iff_eq] at same
    rw [inj_on_of_nodup_map distinct mem_f mem same]

/-- What holds in every orderly run is what is asked for. -/
theorem Inv.sound (h : Inv running s) :
  s.Sound
  := by
  constructor
  case one_task =>
    intro p q e f accepted_p accepted_q
    apply h.exclusive
    · rw [accepted_p]
      trivial
    · rw [accepted_q]
      trivial
  case running_readable =>
    intro p e live_p
    have is_running := (h.live e).mpr ⟨p, live_p⟩
    constructor
    · apply (h.begun p e _).1
      cases at_p : s.posts p <;> simp_all [Post.live, Post.begun]
    · apply h.get_eq
      simp [is_running]
  case final_readable =>
    intro p e finished_p
    have mem := (h.ended e).mpr ⟨p, finished_p⟩
    use h.final e mem, mem
    rw [← take_append_drop KEEP_COMPLETED s.finished, mem_append] at mem
    apply mem.imp_left
    intro recent
    apply h.get_eq
    apply mem_append_right _ recent
  case distinct_ids => exact h.distinct

/-- In every run whose steps are orderly, whatever the campaigns are, one campaign runs at a time,
every execution is read as long as it should be, and no two POSTs have one id. -/
theorem one_campaign_at_a_time {κ : Type} (requests : ℕ → Campaign κ × List UInt8)
    (reached : Reachable (· = {}) (OrderlyRuns requests) s) :
  s.Sound
  := by
  have inv : ∃ running, Inv running s := by
    apply reached.invariant
    · rintro _ rfl
      exact ⟨none, inv_start⟩
    · intro s t h runs
      apply inv_step h runs
  obtain ⟨_, h⟩ := inv
  exact h.sound

/-- A campaign that no library can read. -/
def unreadable : Campaign Unit × List UInt8 :=
  ({ lib :=
      { decodeEnvelope := fun _ => .error "", fromUtf8Lossy := fun _ => ""
        backendErrorText := fun _ => "" }
     machine := { component := fun _ => none, id := fun _ => "" }
     trustAnchor := [], bearer := none, req := { component := none, casBaseUrl := "" } }, [])

/-- The first campaign runs, and a POST that has come before its task was spawned is refused. -/
theorem first_campaign_runs :
  ∃ s : Server, s.posts 0 = .accepted (runningExecution (idOf 1) 100) ∧ s.posts 1 = .refused ∧
    s.Sound
  := by
  refine ⟨_, ?_, ?_, one_campaign_at_a_time (fun _ => unreadable)
    (.step (.step (.step (.step (.step (.step (.init rfl) ⟨0, .test, fun _ => nofun, .test rfl rfl⟩)
      ⟨0, .number, (by decide : 0 + 1 < 2 ^ 64), .number rfl⟩)
      ⟨0, .stamp 100, forall_mem_nil _, .stamp rfl⟩) ⟨0, .record _, trivial, .record rfl (.refl _)⟩)
      ⟨1, .refuse, trivial, .refuse rfl rfl⟩) ⟨0, .spawn, trivial, .spawn rfl⟩)⟩
  · rfl
  · rfl

/-- Two POSTs both make their test before either records its execution: both are accepted, and the
tasks of both run. -/
theorem two_campaigns_run_at_once :
  ∃ s : Server, Reachable (· = {}) (Runs fun _ => unreadable) s ∧
    s.posts 0 = .accepted (runningExecution (idOf 1) 100) ∧
    s.posts 1 = .accepted (runningExecution (idOf 2) 200)
  := by
  refine ⟨_, .step (.step (.step (.step (.step (.step (.step (.step (.step (.step (.init rfl)
      ⟨0, .test, .test rfl rfl⟩) ⟨1, .test, .test rfl rfl⟩) ⟨0, .number, .number rfl⟩)
      ⟨1, .number, .number rfl⟩) ⟨0, .stamp 100, .stamp rfl⟩) ⟨1, .stamp 200, .stamp rfl⟩)
      ⟨0, .record _, .record rfl (.refl _)⟩) ⟨1, .record _, .record rfl (.refl _)⟩)
      ⟨0, .spawn, .spawn rfl⟩) ⟨1, .spawn, .spawn rfl⟩, ?_, ?_⟩
  · rfl
  · rfl

end Server

end Sovd
