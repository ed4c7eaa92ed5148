import MachineManager.Vhsm.Handshake

/-!
# Enrolment over a shared file

The host arms an enrolment by reading `bootstrap.yaml` and writing it back; the daemon serves an
enrolment from the copy in its memory, reads the file again only when the copy holds no armed
enrolment of the guest, and writes the copy back. Each question that one of them puts to the file
system may come between two questions of the other.

A certificate has to be paid for, with a token or with an armed enrolment, and each of them pays
once; an armed enrolment that has not paid is honoured. Both hold if the host and the daemon do not
use the file at the same time, and the daemon does not accept from a copy that has fallen behind the
file (`enrolment_once`). Otherwise each can write back what the other has changed meanwhile, and the
daemon can refuse a guest whose enrolment was armed again (`enrolment_races`).
-/

open Asking

namespace Vhsm.Auth

open BootstrapState Function

/-- The text of a file: a document, or something that cannot be parsed. -/
inductive Content
  | doc (d : BootstrapState)
  | torn

/-- The file and the temporary file, if they exist. -/
structure Keystore where
  doc : Option Content
  staged : Option Content := none

/-- How a write ends: it succeeds, or it fails and leaves the file as it was, or it fails in the
middle. -/
inductive WriteOutcome
  | done
  | refused
  | torn
deriving DecidableEq

namespace Keystore

def read (k : Keystore) : Option BootstrapState :=
  match k.doc with
  | none => some {}
  | some (.doc d) => some d
  | some .torn => none

def stage (k : Keystore) (d : BootstrapState) : WriteOutcome → Bool × Keystore
  | .done => (true, { k with staged := some (.doc d) })
  | .refused => (false, k)
  | .torn => (false, { k with staged := some .torn })

/-- Rename the temporary file, if there is one. -/
def publish (k : Keystore) : WriteOutcome → Bool × Keystore
  | .done =>
    match k.staged with
    | some content => (true, { doc := some content, staged := none })
    | none => (false, k)
  | .refused | .torn => (false, k)

/-- The answer of the file system when a write ends in a given way. -/
def serve (w : WriteOutcome) : Environment StateFileCall StateFileCall.Answer Keystore
  | .read, k => (k.read, k)
  | .stage d, k => k.stage d w
  | .publish, k => k.publish w

end Keystore

/-- The answer says that a write failed. -/
def writeFailed : (q : StateFileCall) → q.Answer → Bool
  | .read, _ => false
  | .stage _, ok | .publish, ok => !ok

/-! ### The device -/

/-- What pays for a certificate: the token of a guest, or an armed enrolment of a guest. -/
inductive Payment
  | token (vmId : String)
  | arm (vmId : String) (number : Nat)
deriving DecidableEq

/-- The two ways to enrol. -/
inductive Way
  | byToken
  | byArm
deriving DecidableEq

/-- The operation by which a guest asks for it. -/
def Way.op : Way → Op
  | byToken => .enroll
  | byArm => .enrollAssisted

/-- What a request has paid with, if a certificate was given away. -/
def payment (way : Way) (out : Stepped) : Option Payment :=
  match out.state, way with
  | .enrolled vmId _, .byToken => some (.token vmId)
  | .enrolled vmId _, .byArm => (out.bootstrap.enrolled vmId).map fun r => .arm vmId r.number
  | _, _ => none

/-- A request that the daemon serves and that waits for the file system: whether the guest had an
armed enrolment when the request arrived, and whether a write has failed since. -/
structure Serving where
  way : Way
  due : Bool
  failed : Bool
  question : StateFileCall
  resume : question.Answer → OverFile Stepped

/-- A call of the host that arms an enrolment and waits for the file system. -/
structure Arming where
  vmId : String
  record : PendingEnrollment
  question : StateFileCall
  resume : question.Answer → OverFile Bool

/-- A request that was answered. -/
structure Answered where
  due : Bool
  failed : Bool
  accepted : Bool
deriving DecidableEq

/-- The device: the files, the memory of the daemon and the request it serves, the calls of the host
that are under way; and on record the next number for a call of the host, the last enrolment of each
guest whose arming has succeeded, what has paid for a certificate, and the requests answered. -/
structure Device where
  files : Keystore
  memory : BootstrapState
  serving : Option Serving := none
  arming : List Arming := []
  nextNumber : Nat
  armed : String → Option PendingEnrollment
  paid : List Payment := []
  answers : List Answered := []

/-- What happens at the device: the host begins to arm an enrolment, gets an answer of the file
system or is killed; a request arrives at the daemon, the daemon gets an answer of the file system
or is started again. -/
inductive Event
  | armBegins (vmId : String) (armedAt : Nat) (ttlSecs : Option Nat)
  | armAnswered (i : Nat) (w : WriteOutcome)
  | armDies (i : Nat)
  | arrives (way : Way) (a : Arrival) (ctx : EnrollContext)
  | daemonAnswered (w : WriteOutcome)
  | restarts

namespace Device

def proceedArm (d : Device) (vmId : String) (record : PendingEnrollment) : OverFile Bool → Device
  | .done true => { d with armed := update d.armed vmId (some record) }
  | .done false => d
  | .ask question resume => { d with arming := { vmId, record, question, resume } :: d.arming }

def proceed (d : Device) (way : Way) (due failed : Bool) : OverFile Stepped → Device
  | .done out =>
    { d with
      memory := out.bootstrap
      serving := none
      paid := (payment way out).toList ++ d.paid
      answers := { due, failed, accepted := out.response.status == .ok } :: d.answers }
  | .ask question resume => { d with serving := some { way, due, failed, question, resume } }

section Libraries

variable {κ ς : Type} (lib : CertLibraries κ ς)

/-- The guest has an armed enrolment that is not too old and has not paid. -/
def isDue (d : Device) (way : Way) (a : Arrival) (ctx : EnrollContext) : Bool :=
  match way, prepareEnrollAssisted lib a ctx with
  | .byArm, .ok minted =>
    (d.armed minted.vmId).any fun r =>
      !r.isExpired minted.iat && !d.paid.contains (.arm minted.vmId r.number)
  | _, _ => false

def handler (way : Way) (a : Arrival) (ctx : EnrollContext) : OverFile Stepped :=
  match way with
  | .byToken => handleEnroll lib a ctx
  | .byArm => handleEnrollAssisted lib a ctx

/-- A connection that was greeted is served in the way it asks for. -/
theorem step_eq_handler {way : Way} {a : Arrival} {ctx : EnrollContext} {nonce : Nonce}
    {key : List UInt8} {policy : IamPolicy} (op : Op.fromU32 a.req.op = some way.op)
    (enroll : a.enroll = some ctx) :
  step lib (.nonceSent nonce) a key policy = handler lib way a ctx
  := by
  cases way with
  | byToken | byArm =>
    unfold step
    rw [op]
    simp only [Way.op, enroll, handler]

/-- The device after an event, if the event is possible. -/
def after (d : Device) : Event → Option Device
  | .armBegins vmId armedAt ttlSecs =>
    let record : PendingEnrollment := { armedAt, ttlSecs, number := d.nextNumber }
    some (proceedArm { d with nextNumber := d.nextNumber + 1 } vmId record
      (armEnrollment vmId record))
  | .armAnswered i w =>
    match d.arming[i]? with
    | none => none
    | some arm =>
      let answered := Keystore.serve w arm.question d.files
      some (proceedArm { d with files := answered.2, arming := d.arming.eraseIdx i } arm.vmId
        arm.record (arm.resume answered.1))
  | .armDies i => some { d with arming := d.arming.eraseIdx i }
  | .arrives way a ctx =>
    match d.serving with
    | some _ => none
    | none =>
      let a := { a with bootstrap := d.memory }
      some (d.proceed way (d.isDue lib way a ctx) false (handler lib way a ctx))
  | .daemonAnswered w =>
    match d.serving with
    | none => none
    | some s =>
      let answered := Keystore.serve w s.question d.files
      some (proceed { d with files := answered.2 } s.way s.due
        (s.failed || writeFailed s.question answered.1) (s.resume answered.1))
  | .restarts =>
    match d.files.read with
    | none => none
    | some state => some { d with memory := state, serving := none }

def run (d : Device) (events : List Event) : Option Device :=
  events.foldlM (after lib) d

/-- Nothing has paid twice, and whoever had an armed enrolment was accepted, unless a write
failed. -/
def Fair (d : Device) : Prop :=
  d.paid.Nodup ∧ ∀ a ∈ d.answers, a.due → ¬ a.failed → a.accepted

/-- The daemon has been started, and the enrolments in the file are those that were armed. -/
def Starts (d : Device) : Prop :=
  d.files.read = some d.memory ∧ d.serving = none ∧ d.arming = [] ∧ d.paid = [] ∧ d.answers = [] ∧
    d.armed = d.memory.pending ∧ ∀ vmId r, d.memory.pending vmId = some r → r.number < d.nextNumber

/-- The event does not let the host and the daemon use the file at the same time, and the daemon
does not accept from a copy that has fallen behind the file. -/
def Orderly (d : Device) : Event → Prop
  | .armBegins _ _ _ => d.arming = [] ∧ d.serving = none
  | .arrives .byToken a ctx =>
    d.arming = [] ∧ ∀ token minted, prepareEnroll lib a ctx = .ok (token, minted) →
      (d.memory.consume lib.sha256 minted.vmId token (lib.sha256 minted.cwt) ctx.clock).1 =
        .accepted → d.files.read = some d.memory
  | .arrives .byArm a ctx =>
    d.arming = [] ∧ ∀ minted, prepareEnrollAssisted lib a ctx = .ok minted →
      d.memory.pending minted.vmId ≠ none → d.files.read = some d.memory
  | _ => True

end Libraries

end Device

/-! ### The books -/

/-- The file agrees with what has been paid: a token that has paid is consumed, an armed enrolment
that has paid is gone, and one that has not paid stands there. The numbers in use are below a
bound. -/
structure Books (doc : BootstrapState) (paid : List Payment)
    (armed : String → Option PendingEnrollment) (bound : Nat) : Prop where
  once : paid.Nodup
  consumed : ∀ vmId, .token vmId ∈ paid → ∃ entry, doc.entries vmId = some entry ∧
    entry.consumed = true
  gone : ∀ vmId n, .arm vmId n ∈ paid → ∀ r, doc.pending vmId = some r → r.number ≠ n
  past : ∀ vmId n, .arm vmId n ∈ paid → n < bound
  numbered : ∀ vmId r, doc.pending vmId = some r → r.number < bound
  stands : ∀ vmId r, armed vmId = some r → .arm vmId r.number ∉ paid → doc.pending vmId = some r

/-- A document with a payment taken out of it. -/
inductive Pays (doc : BootstrapState) : Payment → BootstrapState → Prop
  | token {vmId : String} {entry entry' : TokenEntry} (there : doc.entries vmId = some entry)
      (fresh : entry.consumed = false) (consumed : entry'.consumed = true) :
      Pays doc (.token vmId) { doc with entries := update doc.entries vmId (some entry') }
  | arm {vmId : String} {r : PendingEnrollment} {e : String → Option EnrolledRecord}
      (there : doc.pending vmId = some r) :
      Pays doc (.arm vmId r.number)
        { doc with pending := update doc.pending vmId none, enrolled := e }

variable {record : PendingEnrollment}

section Books

variable {doc doc' : BootstrapState} {paid : List Payment}
  {armed : String → Option PendingEnrollment} {bound : Nat}

theorem Books.mono {bound' : Nat} (h : Books doc paid armed bound) (le : bound ≤ bound') :
  Books doc paid armed bound'
  := { h with
    past := fun vmId n mem => Nat.lt_of_lt_of_le (h.past vmId n mem) le
    numbered := fun vmId r there => Nat.lt_of_lt_of_le (h.numbered vmId r there) le }

variable {vmId : String} {certThumbprint : Vector UInt8 32} {p : Payment}

/-- A new enrolment is armed under a new number. -/
theorem Books.armPending (h : Books doc paid armed record.number) :
  Books (doc.armPending vmId record) paid (update armed vmId (some record)) (record.number + 1)
  := by
  have pending (v : String) (r : PendingEnrollment)
      (there : (doc.armPending vmId record).pending v = some r) :
      v = vmId ∧ r = record ∨ doc.pending v = some r := by
    by_cases same : v = vmId
    · subst same
      left
      rw [pending_armPending, update_self] at there
      exact ⟨rfl, (Option.some.inj there).symm⟩
    · right
      rw [pending_armPending, update_of_ne same] at there
      exact there
  constructor
  case once => exact h.once
  case consumed => exact h.consumed
  case gone =>
    intro v n mem r there
    rcases pending v r there with ⟨-, rfl⟩ | before
    · apply Nat.ne_of_gt (h.past v n mem)
    · apply h.gone v n mem r before
  case past =>
    intro v n mem
    apply Nat.lt_succ_of_lt (h.past v n mem)
  case numbered =>
    intro v r there
    rcases pending v r there with ⟨-, rfl⟩ | before
    · apply Nat.lt_succ_self
    · apply Nat.lt_succ_of_lt (h.numbered v r before)
  case stands =>
    intro v r last unpaid
    by_cases same : v = vmId
    · subst same
      rw [update_self] at last
      rw [← last]
      apply update_self
    · rw [update_of_ne same] at last
      exact (update_of_ne same ..).trans (h.stands v r last unpaid)

section

variable (h : Books doc paid armed bound)
include h

/-- A payment is a new one. -/
theorem Books.unpaid (pays : Pays doc p doc') :
  p ∉ paid
  := by
  intro mem
  cases pays with
  | token there fresh consumed =>
    obtain ⟨_, there', consumed⟩ := h.consumed _ mem
    obtain rfl := Option.some.inj (there.symm.trans there')
    rw [fresh] at consumed
    cases consumed
  | arm there => apply h.gone _ _ mem _ there rfl

/-- The books after a payment with a token. -/
theorem Books.payToken {entry entry' : TokenEntry}
    (there : doc.entries vmId = some entry) (fresh : entry.consumed = false)
    (consumed : entry'.consumed = true) :
  Books { doc with entries := update doc.entries vmId (some entry') }
    (.token vmId :: paid) armed bound
  := by
  have earlier {v : String} {n : Nat} (mem : .arm v n ∈ Payment.token vmId :: paid) :
      .arm v n ∈ paid := by
    cases mem with
    | tail _ mem => exact mem
  constructor
  case once => exact List.nodup_cons.mpr ⟨h.unpaid (.token there fresh consumed), h.once⟩
  case consumed =>
    intro v mem
    by_cases same : v = vmId
    · subst same
      exact ⟨entry', update_self .., consumed⟩
    · obtain ⟨e, there, consumed⟩ := h.consumed v (by
        cases mem with
        | head => exact absurd rfl same
        | tail _ mem => exact mem)
      exact ⟨e, (update_of_ne same ..).trans there, consumed⟩
  case gone =>
    intro v n mem
    apply h.gone v n (earlier mem)
  case past =>
    intro v n mem
    apply h.past v n (earlier mem)
  case numbered => exact h.numbered
  case stands =>
    intro v r last unpaid
    apply h.stands v r last
    intro mem
    apply unpaid (List.mem_cons_of_mem _ mem)

/-- The books after a payment with an armed enrolment. -/
theorem Books.payArm {r : PendingEnrollment} {enrolled : String → Option EnrolledRecord}
    (there : doc.pending vmId = some r) :
  Books { doc with pending := update doc.pending vmId none, enrolled }
    (.arm vmId r.number :: paid) armed bound
  := by
  have pending {v : String} {r' : PendingEnrollment}
      (there' : update doc.pending vmId none v = some r') :
      v ≠ vmId ∧ doc.pending v = some r' := by
    by_cases same : v = vmId
    · subst same
      rw [update_self] at there'
      cases there'
    · exact ⟨same, (update_of_ne same ..).symm.trans there'⟩
  have mem_cases {v : String} {n : Nat} (mem : .arm v n ∈ Payment.arm vmId r.number :: paid) :
      v = vmId ∧ n = r.number ∨ .arm v n ∈ paid := by
    cases mem with
    | head => exact .inl ⟨rfl, rfl⟩
    | tail _ mem => exact .inr mem
  constructor
  case once =>
    have pays : Pays doc (.arm vmId r.number) _ := .arm (e := enrolled) there
    exact List.nodup_cons.mpr ⟨h.unpaid pays, h.once⟩
  case consumed =>
    intro v mem
    cases mem with
    | tail _ mem => apply h.consumed v mem
  case gone =>
    intro v n mem r' there'
    obtain ⟨other, before⟩ := pending there'
    rcases mem_cases mem with ⟨rfl, -⟩ | mem
    · exact absurd rfl other
    · apply h.gone v n mem r' before
  case past =>
    intro v n mem
    rcases mem_cases mem with ⟨-, rfl⟩ | mem
    · apply h.numbered vmId r there
    · apply h.past v n mem
  case numbered =>
    intro v r' there'
    apply h.numbered v r' (pending there').2
  case stands =>
    intro v r' last unpaid
    have before := h.stands v r' last fun mem => unpaid (List.mem_cons_of_mem _ mem)
    by_cases same : v = vmId
    · subst same
      obtain rfl := Option.some.inj (before.symm.trans there)
      exact absurd List.mem_cons_self unpaid
    · exact (update_of_ne same ..).trans before

/-- The books after a payment. -/
theorem Books.pay (pays : Pays doc p doc') :
  Books doc' (p :: paid) armed bound
  := by
  cases pays with
  | token there fresh consumed => apply h.payToken there fresh consumed
  | arm there => apply h.payArm there

end

/-- A token that is accepted pays. -/
theorem pays_of_consume {sha256 : List UInt8 → Vector UInt8 32}
    {rawToken : List UInt8} {clock : Nat}
    (h : doc.consume sha256 vmId rawToken certThumbprint clock = (.accepted, doc')) :
  Pays doc (.token vmId) doc'
  := by
  unfold consume at h
  split at h
  · cases h
  · next entry there =>
    split_ifs at h with consumed mismatch
    · cases h
    · cases h
    · cases h
      exact .token there (Bool.eq_false_iff.mpr consumed) rfl

/-- An armed enrolment that is accepted pays, and the guest is on record with it. -/
theorem pays_of_consumePending {nowUnix : Nat}
    (h : doc.consumePending vmId nowUnix certThumbprint = (.accepted, doc')) :
  ∃ e, doc'.enrolled vmId = some e ∧ Pays doc (.arm vmId e.number) doc'
  := by
  unfold consumePending at h
  split at h
  · cases h
  · next r there =>
    split_ifs at h with expired
    · cases h
    · cases h
      exact ⟨_, update_self .., .arm there⟩

end Books

/-! ### Programs that have the file for themselves -/

/-- The file system, with a note whether a write has failed. -/
def noting (w : WriteOutcome) : Environment StateFileCall StateFileCall.Answer (Keystore × Bool) :=
  fun q s => ((Keystore.serve w q s.1).1, (Keystore.serve w q s.1).2,
    s.2 || writeFailed q (Keystore.serve w q s.1).1)

def Holds (doc : BootstrapState) (s : Keystore × Bool) : Prop :=
  s.1.read = some doc

variable {κ ς : Type} {lib : CertLibraries κ ς} {way : Way} {a : Arrival} {ctx : EnrollContext}
  {vmId : String}

section Alone

variable {doc : BootstrapState}

/-- A failed write of the temporary file leaves the file as it is, and so does a successful one. -/
theorem read_stage (k : Keystore) (d : BootstrapState) (w : WriteOutcome) :
  (k.stage d w).2.read = k.read
  := by
  cases w <;> rfl

variable {failed : Bool} {k : Keystore}

/-- A document is written, or the file is left as it is and the failure is noted. -/
theorem alone_writeState {new : BootstrapState} {R : Bool → Keystore × Bool → Prop}
    (there : k.read = some doc) (landed : ∀ k', k'.read = some new → R true (k', failed))
    (lost : ∀ k', k'.read = some doc → R false (k', true)) :
  Alone noting (Holds doc) R (writeState new) (k, failed)
  := by
  refine alone_question there ?_
  intro w
  have kept := (read_stage k new w).trans there
  cases w with
  | refused =>
    have noted : R false (k, failed || true) := by
      rw [Bool.or_true]
      apply lost k kept
    apply alone_pure noted
  | torn =>
    have noted : R false ({ k with staged := some .torn }, failed || true) := by
      rw [Bool.or_true]
      apply lost _ kept
    apply alone_pure noted
  | done =>
    refine ⟨kept, ?_⟩
    intro w'
    cases w' with
    | done =>
      have noted : R true ({ doc := some (.doc new) }, failed || false || false) := by
        rw [Bool.or_false, Bool.or_false]
        apply landed _ rfl
      exact noted
    | refused | torn =>
      have noted : R false ({ k with staged := some (.doc new) }, failed || false || true) := by
        rw [Bool.or_true]
        apply lost _ kept
      exact noted

/-- The file after an attempt to arm an enrolment. -/
def Arms (doc : BootstrapState) (vmId : String) (record : PendingEnrollment) (ok : Bool)
    (s : Keystore × Bool) : Prop :=
  Holds (if ok then doc.armPending vmId record else doc) s

/-- The host arms an enrolment or leaves the file as it is. -/
theorem alone_armEnrollment (there : k.read = some doc) :
  Alone noting (Holds doc) (Arms doc vmId record) (armEnrollment vmId record) (k, failed)
  := by
  refine alone_question there ?_
  intro w
  have answer : (noting w .read (k, failed)).1 = some doc := there
  rw [answer]
  apply alone_writeState there
  · intro k' landed
    exact landed
  · intro k' lost
    exact lost

/-- A request has paid and the file says so, or it has not paid and the file is as it was; and if
the guest had an armed enrolment and no write failed, the request was accepted. -/
def Settles (doc : BootstrapState) (way : Way) (due : Bool) (out : Stepped)
    (s : Keystore × Bool) : Prop :=
  (match payment way out with
    | some p => ∃ doc', Holds doc' s ∧ Pays doc p doc'
    | none => Holds doc s) ∧
  (due → s.2 = false → out.response.status = .ok)

variable {due : Bool} {req : Request}
  {minted : Minted} {bootstrap : BootstrapState}

/-- A request is rejected, of a guest without an armed enrolment or after a failed write. -/
theorem settles_reject {reason : AuthFailReason} {s : Keystore × Bool}
    (there : Holds doc s) (excused : due → s.2 = true) :
  Settles doc way due (reject req bootstrap reason) s
  := by
  constructor
  · cases way <;> exact there
  · intro isDue unfailed
    rw [excused isDue] at unfailed
    cases unfailed

/-- A certificate that is paid for is given away once the payment is saved. -/
theorem alone_ship {p : Payment} (there : k.read = some doc) (pays : Pays doc p bootstrap)
    (pay : ∀ out : Stepped, out.state = .enrolled minted.vmId (lib.sha256 minted.cwt) →
      out.bootstrap = bootstrap → payment way out = some p) :
  Alone noting (Holds doc) (Settles doc way due) (ship lib req minted bootstrap) (k, failed)
  := by
  have write : Alone noting (Holds doc)
      (fun ok s => if ok then Holds bootstrap s else Holds doc s ∧ s.2 = true)
      (writeState bootstrap) (k, failed) := by
    apply alone_writeState there
    · intro k' landed
      exact landed
    · intro k' lost
      exact ⟨lost, rfl⟩
  apply alone_bind write
  intro ok s written
  cases ok with
  | false => apply alone_pure (settles_reject written.1 fun _ => written.2)
  | true =>
    apply alone_pure
    constructor
    · rw [pay _ rfl rfl]
      exact ⟨bootstrap, written, pays⟩
    · intro _ _
      rfl

/-- An armed enrolment of the file is consumed, if there is one. -/
theorem alone_settlePending (there : k.read = some doc)
    (honoured : due → (doc.consumePending minted.vmId minted.iat (lib.sha256 minted.cwt)).1 =
      .accepted) :
  Alone noting (Holds doc) (Settles doc .byArm due) (settlePending lib req minted
      (doc.consumePending minted.vmId minted.iat (lib.sha256 minted.cwt))) (k, failed)
  := by
  rcases outcome : doc.consumePending minted.vmId minted.iat (lib.sha256 minted.cwt) with
    ⟨_ | _ | _, bootstrap⟩
  · obtain ⟨e, enrolled, pays⟩ := pays_of_consumePending outcome
    apply alone_ship there pays
    intro out state memory
    simp only [payment, state, memory, enrolled, Option.map_some]
  all_goals
    rw [outcome] at honoured
    refine alone_pure (settles_reject there ?_)
    intro isDue
    cases honoured isDue

variable (there : k.read = some doc)
include there

/-- ENROLL is served, from memory that agrees with the file if the token is accepted. -/
theorem alone_handleEnroll
    (agrees : ∀ token minted, prepareEnroll lib a ctx = .ok (token, minted) →
      (a.bootstrap.consume lib.sha256 minted.vmId token (lib.sha256 minted.cwt) ctx.clock).1 =
        .accepted →
      a.bootstrap = doc) :
  Alone noting (Holds doc) (Settles doc .byToken false) (handleEnroll lib a ctx) (k, false)
  := by
  have rejected (bootstrap : BootstrapState) (reason : AuthFailReason) :
      Alone noting (Holds doc) (Settles doc .byToken false)
        (pure (reject a.req bootstrap reason)) (k, false) := by
    refine alone_pure (settles_reject there ?_)
    intro isDue
    cases isDue
  unfold handleEnroll
  split
  · apply rejected
  · next token minted prepared =>
    split
    · next bootstrap accepted =>
      rw [agrees token minted prepared (congrArg Prod.fst accepted)] at accepted
      apply alone_ship there (pays_of_consume accepted)
      intro out state memory
      simp only [payment, state]
    · apply rejected
    · apply rejected
    · apply rejected

/-- ENROLL_ASSISTED is served, from the file or from memory that agrees with it. -/
theorem alone_handleEnrollAssisted
    (agrees : ∀ minted, prepareEnrollAssisted lib a ctx = .ok minted →
      a.bootstrap.pending minted.vmId ≠ none → a.bootstrap = doc)
    (prepared : ∀ reason, prepareEnrollAssisted lib a ctx = .error reason → due = false)
    (honoured : ∀ minted, prepareEnrollAssisted lib a ctx = .ok minted → due →
      (doc.consumePending minted.vmId minted.iat (lib.sha256 minted.cwt)).1 = .accepted) :
  Alone noting (Holds doc) (Settles doc .byArm due) (handleEnrollAssisted lib a ctx) (k, false)
  := by
  unfold handleEnrollAssisted
  cases outcome : prepareEnrollAssisted lib a ctx with
  | error reason =>
    refine alone_pure (settles_reject there ?_)
    intro isDue
    cases (prepared reason outcome).symm.trans isDue
  | ok minted =>
    dsimp only
    cases pending : a.bootstrap.pending minted.vmId with
    | none =>
      have missed : a.bootstrap.consumePending minted.vmId minted.iat (lib.sha256 minted.cwt) =
          (.notPending, a.bootstrap) := by
        rw [consumePending, pending]
      rw [missed]
      refine alone_question there ?_
      intro w
      have answer : (noting w .read (k, false)).1 = some doc := there
      rw [answer]
      apply alone_settlePending there (honoured minted outcome)
    | some =>
      have same : a.bootstrap = doc := by
        apply agrees minted outcome
        rw [pending]
        nofun
      split
      · next bootstrap missed =>
        rw [consumePending, pending] at missed
        dsimp only at missed
        split at missed <;> cases missed
      · rw [same]
        apply alone_settlePending there (honoured minted outcome)

end Alone

/-! ### Runs -/

namespace Device

/-- The device is idle, or one call of the host is under way, or one request is served. The one that
is under way has the file for itself. -/
inductive Working (d : Device) : Prop
  | idle (doc : BootstrapState) (noArm : d.arming = []) (noRequest : d.serving = none)
      (there : d.files.read = some doc) (books : Books doc d.paid d.armed d.nextNumber)
  | arms (doc : BootstrapState) (arm : Arming) (one : d.arming = [arm])
      (noRequest : d.serving = none) (older : arm.record.number < d.nextNumber)
      (books : Books doc d.paid d.armed arm.record.number) (noted : Bool)
      (alone : Alone noting (Holds doc) (Arms doc arm.vmId arm.record)
        (.ask arm.question arm.resume) (d.files, noted))
  | serves (doc : BootstrapState) (s : Serving) (noArm : d.arming = [])
      (one : d.serving = some s) (books : Books doc d.paid d.armed d.nextNumber)
      (alone : Alone noting (Holds doc) (Settles doc s.way s.due)
        (.ask s.question s.resume) (d.files, s.failed))

/-- What holds in every state of an orderly run. -/
structure Inv (d : Device) : Prop where
  working : d.Working
  fair : ∀ a ∈ d.answers, a.due → ¬ a.failed → a.accepted

variable {d : Device}

/-- What has paid has paid once. -/
theorem Working.once (h : d.Working) :
  d.paid.Nodup
  := by
  cases h with
  | idle doc noArm noRequest there books | arms doc arm one noRequest older books noted alone
  | serves _ _ _ _ books => exact books.once

/-- The host goes on with the only call that is under way. -/
theorem working_proceedArm {doc : BootstrapState}
    {program : OverFile Bool} {noted : Bool} (noArm : d.arming = []) (noRequest : d.serving = none)
    (older : record.number < d.nextNumber) (books : Books doc d.paid d.armed record.number)
    (alone : Alone noting (Holds doc) (Arms doc vmId record) program (d.files, noted)) :
  (d.proceedArm vmId record program).Working
  := by
  cases program with
  | done ok =>
    cases ok with
    | false => exact .idle doc noArm noRequest alone (books.mono (Nat.le_of_lt older))
    | true =>
      exact .idle (doc.armPending vmId record) noArm noRequest alone (books.armPending.mono older)
  | ask question resume =>
    have one : { vmId, record, question, resume } :: d.arming =
        [({ vmId, record, question, resume } : Arming)] := by
      rw [noArm]
    exact .arms doc _ one noRequest older books noted alone

/-- The daemon goes on with the request. -/
theorem inv_proceed {doc : BootstrapState} {due failed : Bool} {program : OverFile Stepped}
    (noArm : d.arming = []) (books : Books doc d.paid d.armed d.nextNumber)
    (fair : ∀ a ∈ d.answers, a.due → ¬ a.failed → a.accepted)
    (alone : Alone noting (Holds doc) (Settles doc way due) program (d.files, failed)) :
  (d.proceed way due failed program).Inv
  := by
  cases program with
  | ask question resume =>
    exact ⟨.serves doc { way, due, failed, question, resume } noArm rfl books alone, fair⟩
  | done out =>
    obtain ⟨settled, honoured⟩ := alone
    constructor
    · cases pay : payment way out with
      | none =>
        rw [pay] at settled
        refine Working.idle doc noArm rfl settled ?_
        simp only [proceed, pay]
        exact books
      | some =>
        rw [pay] at settled
        obtain ⟨doc', there, pays⟩ := settled
        refine Working.idle doc' noArm rfl there ?_
        simp only [proceed, pay]
        exact books.pay pays
    · intro a mem isDue unfailed
      rcases List.mem_cons.mp mem with rfl | earlier
      · apply beq_iff_eq.mpr
        apply honoured isDue (Bool.eq_false_iff.mpr unfailed)
      · apply fair a earlier isDue unfailed

section Libraries

variable {d' : Device}

/-- The armed enrolment of a guest that is due stands in the file and is accepted. -/
theorem accepted_of_isDue {doc : BootstrapState} {minted : Minted}
    (books : Books doc d.paid d.armed d.nextNumber)
    (prepared : prepareEnrollAssisted lib a ctx = .ok minted)
    (isDue : d.isDue lib .byArm a ctx = true) :
  (doc.consumePending minted.vmId minted.iat (lib.sha256 minted.cwt)).1 = .accepted
  := by
  simp only [Device.isDue, prepared] at isDue
  obtain ⟨r, last, good⟩ := (Option.any_eq_true _ _).mp isDue
  obtain ⟨timely, unpaid⟩ := Bool.and_eq_true_iff.mp good
  have stands : doc.pending minted.vmId = some r := by
    apply books.stands _ _ last
    intro mem
    rw [List.contains_iff_mem.mpr mem] at unpaid
    cases unpaid
  rw [Bool.not_eq_true'] at timely
  simp only [consumePending, stands, timely]
  rfl

/-- A request that arrives in order is served in order. -/
theorem alone_handler {doc : BootstrapState}
    (there : d.files.read = some doc) (books : Books doc d.paid d.armed d.nextNumber)
    (orderly : d.Orderly lib (.arrives way a ctx)) :
  Alone noting (Holds doc) (Settles doc way (d.isDue lib way { a with bootstrap := d.memory } ctx))
    (handler lib way { a with bootstrap := d.memory } ctx) (d.files, false)
  := by
  have memory_eq (agrees : d.files.read = some d.memory) : d.memory = doc :=
    Option.some.inj (agrees.symm.trans there)
  cases way with
  | byToken =>
    apply alone_handleEnroll there
    intro token minted prepared accepted
    apply memory_eq (orderly.2 token minted prepared accepted)
  | byArm =>
    apply alone_handleEnrollAssisted there
    · intro minted prepared pending
      apply memory_eq (orderly.2 minted prepared pending)
    · intro reason prepared
      simp only [isDue, prepared]
    · intro minted prepared
      apply accepted_of_isDue books prepared

section

variable (h : d.Working)
include h

/-- The document of a device that is idle. -/
theorem Working.doc (noArm : d.arming = []) (noRequest : d.serving = none) :
  ∃ doc, d.files.read = some doc ∧ Books doc d.paid d.armed d.nextNumber
  := by
  cases h with
  | idle doc _ _ there books => exact ⟨doc, there, books⟩
  | arms _ _ one => cases noArm.symm.trans one
  | serves _ _ _ one => cases noRequest.symm.trans one

/-- The host gets an answer of the file system. -/
theorem Working.armAnswered {i : Nat} {w : WriteOutcome}
    (next : d.after lib (.armAnswered i w) = some d') :
  d'.Working
  := by
  simp only [Device.after] at next
  split at next
  · cases next
  · next arm found =>
    cases next
    cases h with
    | idle _ noArm | serves _ _ noArm =>
      rw [noArm] at found
      cases found
    | arms _ _ one noRequest older books _ alone =>
      rw [one] at found
      cases i with
      | succ => cases found
      | zero =>
        cases found
        refine working_proceedArm ?_ noRequest older books (alone.2 w)
        rw [one]
        rfl

/-- The host is killed. -/
theorem Working.armDies (i : Nat) :
  Working { d with arming := d.arming.eraseIdx i }
  := by
  cases h with
  | idle doc noArm noRequest there books =>
    refine .idle doc ?_ noRequest there books
    rw [noArm]
    rfl
  | serves doc s noArm one books alone =>
    refine .serves doc s ?_ one books alone
    rw [noArm]
    rfl
  | arms doc arm one noRequest older books noted alone =>
    cases i with
    | zero =>
      refine .idle doc ?_ noRequest alone.1 (books.mono (Nat.le_of_lt older))
      rw [one]
      rfl
    | succ =>
      refine .arms doc arm ?_ noRequest older books noted alone
      rw [one]
      rfl

/-- The daemon is started again. -/
theorem Working.restarts (state : BootstrapState) :
  Working { d with memory := state, serving := none }
  := by
  cases h with
  | idle doc noArm _ there books => exact .idle doc noArm rfl there books
  | serves doc _ noArm _ books alone => exact .idle doc noArm rfl alone.1 books
  | arms doc arm one _ older books noted alone =>
    exact .arms doc arm one rfl older books noted alone

end

/-- What the answers say does not depend on a call of the host. -/
theorem answers_proceedArm (program : OverFile Bool) :
  (d.proceedArm vmId record program).answers = d.answers
  := by
  rcases program with (_ | _) | _ <;> rfl

/-- Every orderly event keeps the invariant. -/
theorem Inv.after {e : Event} (h : d.Inv) (orderly : d.Orderly lib e)
    (next : d.after lib e = some d') :
  d'.Inv
  := by
  cases e with
  | armBegins vmId armedAt ttlSecs =>
    obtain ⟨noArm, noRequest⟩ := orderly
    obtain ⟨doc, there, books⟩ := h.working.doc noArm noRequest
    cases next
    have alone (record : PendingEnrollment) :
        Alone noting (Holds doc) (Arms doc vmId record) (armEnrollment vmId record)
          (d.files, false) :=
      alone_armEnrollment there
    constructor
    · exact working_proceedArm (d := { d with nextNumber := d.nextNumber + 1 }) noArm noRequest
        (Nat.lt_succ_self _) books (alone { armedAt, ttlSecs, number := d.nextNumber })
    · rw [answers_proceedArm]
      exact h.fair
  | armAnswered =>
    constructor
    · apply h.working.armAnswered next
    · simp only [Device.after] at next
      split at next
      · cases next
      · cases next
        rw [answers_proceedArm]
        exact h.fair
  | armDies i =>
    cases next
    exact ⟨h.working.armDies i, h.fair⟩
  | arrives way =>
    simp only [Device.after] at next
    split at next
    · cases next
    · next noRequest =>
      have noArm : d.arming = [] := by
        cases way <;> exact orderly.1
      obtain ⟨doc, there, books⟩ := h.working.doc noArm noRequest
      cases next
      apply inv_proceed noArm books h.fair (alone_handler there books orderly)
  | daemonAnswered w =>
    simp only [Device.after] at next
    split at next
    · cases next
    · next s serving =>
      cases next
      cases h.working with
      | idle doc _ noRequest | arms doc arm _ noRequest => cases noRequest.symm.trans serving
      | serves _ s' noArm one books alone =>
        obtain rfl := Option.some.inj (one.symm.trans serving)
        exact inv_proceed (d := { d with files := (Keystore.serve w s'.question d.files).2 }) noArm
          books h.fair (alone.2 w)
  | restarts =>
    simp only [Device.after] at next
    split at next
    · cases next
    · next state _ =>
      cases next
      exact ⟨h.working.restarts state, h.fair⟩

/-- The invariant holds when the daemon has been started. -/
theorem Starts.inv (h : d.Starts) :
  d.Inv
  := by
  obtain ⟨there, noRequest, noArm, paid, answers, armed, numbered⟩ := h
  constructor
  · refine .idle d.memory noArm noRequest there ?_
    rw [paid, armed]
    refine ⟨List.nodup_nil, nofun, nofun, nofun, numbered, ?_⟩
    intro vmId r there _
    exact there
  · rw [answers]
    nofun

/-- The daemon is answered until it has answered the request, however its writes end. -/
theorem answers_of_proceed (program : OverFile Stepped) {due : Bool} (failed : Bool)
    (w : Nat → WriteOutcome) :
  ∃ n d', (d.proceed way due failed program).run lib
      ((List.range n).map fun i => .daemonAnswered (w i)) = some d' ∧
    d'.serving = none ∧ d'.answers.length = d.answers.length + 1
  := by
  induction program generalizing d failed w with
  | done => exact ⟨0, _, rfl, rfl, rfl⟩
  | ask question resume ih =>
    let answered := Keystore.serve (w 0) question d.files
    obtain ⟨n, d', ran, idle, more⟩ :=
      ih answered.1
        (d := { d.proceed way due failed (.ask question resume) with files := answered.2 })
        (failed || writeFailed question answered.1) fun i => w (i + 1)
    refine ⟨n + 1, d', ?_, idle, more⟩
    rw [List.range_succ_eq_map, List.map_cons, List.map_map]
    exact ran

/-- In every orderly run every token and every armed enrolment pays for one certificate at most, and
a guest with an armed enrolment that has not paid is accepted unless a write of its own request
fails. Every request that is served gets its answer. -/
theorem enrolment_once (lib : CertLibraries κ ς) {d : Device}
    (reached : Reachable Starts (fun d d' => ∃ e, d.Orderly lib e ∧ d.after lib e = some d') d) :
  d.Fair ∧
  ∀ s, d.serving = some s → ∀ w : Nat → WriteOutcome,
    ∃ n d', d.run lib ((List.range n).map fun i => .daemonAnswered (w i)) = some d' ∧
      d'.serving = none ∧ d'.answers.length = d.answers.length + 1
  := by
  have inv : d.Inv := by
    refine reached.invariant ?_ ?_
    · intro d starts
      exact starts.inv
    · rintro d d' inv ⟨e, orderly, next⟩
      exact inv.after orderly next
  constructor
  · exact ⟨inv.working.once, inv.fair⟩
  · intro s serving w
    have waiting : d = d.proceed s.way s.due s.failed (.ask s.question s.resume) := by
      rw [proceed, ← serving]
    rw [waiting]
    apply answers_of_proceed

end Libraries

end Device

/-! ### The races -/

def guestContext (vmId : String) : EnrollContext :=
  { signer := id, issuer := "device", certLifetimeSecs := 100, peerIp := some (.v4 0)
    ipResolver := some fun _ => some vmId, cti := .replicate 16 0, clock := 10 }

def assistedArrival : Arrival :=
  { plainHello with
    req := { op := 0x00F4, sessionId := 2, payload := 65 :: 0x04 :: List.replicate 64 0 } }

def deviceArmed (record : PendingEnrollment) : Device :=
  let state : BootstrapState :=
    { pending := fun vmId => if vmId = "vm1" then some record else none }
  { files := { doc := some (.doc state) }
    memory := state
    nextNumber := record.number + 1
    armed := state.pending }

theorem deviceArmed_starts (record : PendingEnrollment) :
  (deviceArmed record).Starts
  := by
  refine ⟨rfl, rfl, rfl, rfl, rfl, rfl, ?_⟩
  intro vmId r h
  simp only [deviceArmed] at h
  split at h
  · cases h
    apply Nat.lt_succ_self
  · cases h

def enrols (vmId : String) : Event :=
  .arrives .byArm assistedArrival (guestContext vmId)

/-- The host reads the file and arms `vm2`; meanwhile `vm1` enrols. The host writes back that `vm1`
is armed, and `vm1` enrols again. -/
def armOverConsumed : List Event :=
  [.armBegins "vm2" 10 none, .armAnswered 0 .done,
    enrols "vm1", .daemonAnswered .done, .daemonAnswered .done,
    .armAnswered 0 .done, .armAnswered 0 .done,
    enrols "vm1", .daemonAnswered .done, .daemonAnswered .done, .daemonAnswered .done]

theorem armOverConsumed_paid :
  ((deviceArmed { armedAt := 0, number := 0 }).run plainLibraries armOverConsumed).map Device.paid =
    some [.arm "vm1" 0, .arm "vm1" 0]
  := by
  decide +kernel

/-- The host arms `vm2`. Then `vm1` enrols, from the copy in memory, which is written back without
the enrolment of `vm2`. -/
def saveOverArmed : List Event :=
  [.armBegins "vm2" 10 none, .armAnswered 0 .done, .armAnswered 0 .done, .armAnswered 0 .done,
    enrols "vm1", .daemonAnswered .done, .daemonAnswered .done, enrols "vm2", .daemonAnswered .done]

theorem saveOverArmed_answers :
  ((deviceArmed { armedAt := 0, number := 0 }).run plainLibraries saveOverArmed).map
    Device.answers = some [{ due := true, failed := false, accepted := false },
      { due := true, failed := false, accepted := true }]
  := by
  decide +kernel

/-- The enrolment of `vm1` in memory has expired. The host arms `vm1` again. -/
def armAgain : List Event :=
  [.armBegins "vm1" 10 (some 60), .armAnswered 0 .done, .armAnswered 0 .done, .armAnswered 0 .done,
    enrols "vm1"]

theorem armAgain_answers :
  ((deviceArmed { armedAt := 0, ttlSecs := some 5, number := 0 }).run plainLibraries armAgain).map
    Device.answers = some [{ due := true, failed := false, accepted := false }]
  := by
  decide +kernel

/-- One armed enrolment can pay twice. One that has not paid can be refused, after the daemon has
enrolled another guest, and while the daemon remembers an older one. -/
theorem enrolment_races :
  (∃ d events d', Device.Starts d ∧ d.run plainLibraries events = some d' ∧ ¬ d'.paid.Nodup) ∧
  (∃ d d' : Device, d.Starts ∧ d.run plainLibraries saveOverArmed = some d' ∧
    ∃ a ∈ d'.answers, a.due ∧ ¬ a.failed ∧ ¬ a.accepted) ∧
  (∃ d d' : Device, d.Starts ∧ d.run plainLibraries armAgain = some d' ∧
    ∃ a ∈ d'.answers, a.due ∧ ¬ a.failed ∧ ¬ a.accepted)
  := by
  refine ⟨?_, ?_, ?_⟩
  · obtain ⟨d', ran, paid⟩ := Option.map_eq_some_iff.mp armOverConsumed_paid
    refine ⟨_, _, d', deviceArmed_starts _, ran, ?_⟩
    rw [paid]
    decide
  · obtain ⟨d', ran, answers⟩ := Option.map_eq_some_iff.mp saveOverArmed_answers
    refine ⟨_, d', deviceArmed_starts _, ran, ?_⟩
    rw [answers]
    decide
  · obtain ⟨d', ran, answers⟩ := Option.map_eq_some_iff.mp armAgain_answers
    refine ⟨_, d', deviceArmed_starts _, ran, ?_⟩
    rw [answers]
    decide

/-! ### An orderly run -/

theorem orderly_paid :
  ((deviceArmed { armedAt := 0, number := 0 }).run plainLibraries
    [enrols "vm1", .daemonAnswered .done, .daemonAnswered .done]).map Device.paid =
    some [.arm "vm1" 0]
  := by
  decide +kernel

/-- A guest enrols with its armed enrolment, and nothing is amiss. -/
theorem orderly_enrolment :
  ∃ d, Reachable Device.Starts
      (fun d d' => ∃ e, d.Orderly plainLibraries e ∧ d.after plainLibraries e = some d') d ∧
    d.paid = [.arm "vm1" 0] ∧ d.Fair
  := by
  obtain ⟨d, ran, paid⟩ := Option.map_eq_some_iff.mp orderly_paid
  simp only [Device.run, List.foldlM_cons, List.foldlM_nil, Option.bind_eq_bind,
    Option.bind_eq_some_iff, Option.pure_def, Option.some.injEq] at ran
  obtain ⟨_, arrives, _, staged, d₃, published, rfl⟩ := ran
  have reached : Reachable Device.Starts
      (fun d d' => ∃ e, d.Orderly plainLibraries e ∧ d.after plainLibraries e = some d') d₃ := by
    refine .step (.step (.step (.init (deviceArmed_starts _)) ⟨_, ?_, arrives⟩) ⟨_, ?_, staged⟩)
      ⟨_, ?_, published⟩
    · exact ⟨rfl, fun _ _ _ => rfl⟩
    · trivial
    · trivial
  exact ⟨d₃, reached, paid, (Device.enrolment_once plainLibraries reached).1⟩

end Vhsm.Auth
