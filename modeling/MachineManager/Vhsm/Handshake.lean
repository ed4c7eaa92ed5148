import MachineManager.Vhsm.Bootstrap
import MachineManager.Vhsm.Cwt
import MachineManager.Vhsm.Isolation

/-!
# The handshake

A connection says HELLO and is given a nonce. It then presents a certificate and a signature over
the nonce (AUTH) and is bound to the principal of the certificate, or it enrols (ENROLL,
ENROLL_ASSISTED) and is given a certificate, with which it has to connect again. Whatever deviates
from this is rejected, and a connection that was rejected stays so.

`Happens` says all that one request can do. From it follows what a whole connection can do
(`handshake_sound`): it is authenticated only by a proof over its own nonce, and by no proof that
was made for another one.
-/

open Asking

namespace Vhsm.Auth

/-- Who a connection is bound to. -/
structure Principal where
  vmId : String
  certThumbprint : Vector UInt8 32
deriving DecidableEq

/-- A number that the daemon draws for one connection. -/
abbrev Nonce : Type :=
  Vector UInt8 16

/-- How far the handshake of a connection is. -/
inductive HandshakeState
  | awaitHello
  | nonceSent (nonce : Nonce)
  | authenticated (principal : Principal)
  | enrolled (vmId : String) (certThumbprint : Vector UInt8 32)
  | failed (reason : AuthFailReason)
deriving DecidableEq

/-- The address of a peer. -/
inductive IpAddr
  | v4 (bits : BitVec 32)
  | v6 (bits : BitVec 128)
deriving DecidableEq

/-- What the daemon needs to enrol a guest. The token id is drawn for the certificate, and the clock
is read when a token is consumed. -/
structure EnrollContext where
  signer : List UInt8 → List UInt8
  issuer : String
  certLifetimeSecs : Nat
  peerIp : Option IpAddr
  ipResolver : Option (IpAddr → Option String)
  cti : Vector UInt8 16
  clock : Nat

/-- A request as it arrives: at which time, with the nonce that would be drawn, and with what the
daemon has to enrol a guest, if it does so on this connection. -/
structure Arrival where
  req : Request
  now : Int
  nonce : Nonce
  enroll : Option EnrollContext
  bootstrap : BootstrapState

/-- What a request leaves behind. -/
structure Stepped where
  state : HandshakeState
  bootstrap : BootstrapState
  response : Response

def u16ToLeBytes (v : UInt16) : List UInt8 :=
  [v.toUInt8, (v >>> 8).toUInt8]

/-- The number in the two bytes at `off`. -/
def u16FromLeBytes (bytes : List UInt8) (off : Nat) : Nat :=
  (bytes.getD off 0).toNat + 256 * (bytes.getD (off + 1) 0).toNat

/-- The handshake fails. -/
def reject (req : Request) (bootstrap : BootstrapState) (reason : AuthFailReason) : Stepped :=
  { state := .failed reason
    bootstrap
    response := { Response.err req .policyReject with payload := u16ToLeBytes reason.code } }

/-! ### Payloads -/

/-- The certificate and the proof in the payload of AUTH. -/
def parseAuthPayload (payload : List UInt8) : Option (List UInt8 × List UInt8) :=
  if payload.length < 2 then none
  else
    let cwtLen := u16FromLeBytes payload 0
    let afterLen := payload.drop 2
    if afterLen.length < cwtLen + 2 then none
    else
      let afterCwt := afterLen.drop cwtLen
      let sigLen := u16FromLeBytes afterCwt 0
      let sig := afterCwt.drop 2
      if sig.length ≠ sigLen then none else some (afterLen.take cwtLen, sig)

/-- A row of bytes after its length, and what follows it. -/
def takeCounted (bytes : List UInt8) : Option (List UInt8 × List UInt8) :=
  match bytes with
  | [] => none
  | n :: rest =>
    if rest.length < n.toNat then none else some (rest.take n.toNat, rest.drop n.toNat)

/-- A row of bytes after its length, with nothing behind. -/
def takeLast (bytes : List UInt8) : Option (List UInt8) :=
  match bytes with
  | [] => none
  | n :: rest => if rest.length ≠ n.toNat then none else some rest

/-- The guest, the token and the key in the payload of ENROLL. -/
def parseEnrollPayload (payload : List UInt8) : Option (String × List UInt8 × List UInt8) := do
  let (name, rest) ← takeCounted payload
  let vmId ← String.fromUTF8? ⟨name.toArray⟩
  guard (vmId ≠ "")
  let (token, rest) ← takeCounted rest
  guard (token ≠ [])
  let csrPub ← takeLast rest
  pure (vmId, token, csrPub)

/-- The key in the payload of ENROLL_ASSISTED. -/
def parseEnrollAssistedPayload (payload : List UInt8) : Option (List UInt8) :=
  takeLast payload

def encodeAuthOkPayload (p : Principal) : List UInt8 :=
  let vmId := p.vmId.toUTF8.toList
  .ofNat vmId.length :: vmId ++ p.certThumbprint.toList

/-! ### The operations -/

/-- What is signed together with the nonce. -/
def proofDomainTag : List UInt8 :=
  "vhsm-auth-v1".toUTF8.toList

def authOkCode : UInt32 := 0x00F2

/-- HELLO: the connection is given a nonce. -/
def handleHello (a : Arrival) : Stepped :=
  if a.req.payload ≠ [] then reject a.req a.bootstrap .invalidParam
  else
    { state := .nonceSent a.nonce
      bootstrap := a.bootstrap
      response := .ok a.req a.nonce.toList }

/-- Whether the policy speaks of the principal: not asked yet. -/
def policyRecognisesPrincipal (_policy : IamPolicy) (_principal : String) : Bool :=
  true

section Libraries

variable {κ ς : Type} (lib : CertLibraries κ ς)

/-- The proof is a signature of the nonce under the key of the certificate. -/
def verifyProofSig (cnfPubkey : List UInt8) (nonce : Nonce) (sig : List UInt8) : Bool :=
  match parseP256Pub lib cnfPubkey with
  | none => false
  | some key => verifyBytes lib key (nonce.toList ++ proofDomainTag) sig

/-- The principal that AUTH binds the connection to. -/
def authenticate (payload key : List UInt8) (policy : IamPolicy) (nonce : Nonce) (now : Int) :
    Except AuthFailReason Principal := do
  let (cwt, sig) ← required (parseAuthPayload payload) .invalidParam
  let cert ← validate lib cwt key now
  check (verifyProofSig lib cert.cnfPubkey nonce sig) .badProofSignature
  check (policyRecognisesPrincipal policy cert.subject) .unknownPrincipal
  pure { vmId := cert.subject, certThumbprint := cert.thumbprint }

/-- AUTH: the connection is bound to the principal of the certificate. -/
def handleAuth (a : Arrival) (key : List UInt8) (policy : IamPolicy) (nonce : Nonce) : Stepped :=
  match authenticate lib a.req.payload key policy nonce a.now with
  | .error reason => reject a.req a.bootstrap reason
  | .ok principal =>
    { state := .authenticated principal
      bootstrap := a.bootstrap
      response :=
        { Response.ok a.req (encodeAuthOkPayload principal) with op := authOkCode } }

/-- A certificate that was minted and not given away yet: for whom, and when. -/
structure Minted where
  vmId : String
  iat : Nat
  cwt : List UInt8

/-- The largest number of seconds. -/
def maxSeconds : Nat := 2 ^ 64 - 1

/-- Mint a certificate for a guest with a given key. -/
def mintFor (ctx : EnrollContext) (vmId : String) (csrPub : List UInt8) (now : Int) :
    Except AuthFailReason Minted := do
  check (csrPub.length = 65 ∧ csrPub.head? = some 0x04) .invalidParam
  let iat ← required (unixSeconds now) .invalidParam
  let exp := min (iat + ctx.certLifetimeSecs) maxSeconds
  let x := (csrPub.drop 1).take 32
  let y := csrPub.drop 33
  let cwt ← required (mintCwt lib ctx.signer vmId ctx.issuer x y iat exp ctx.cti) .invalidParam
  pure { vmId, iat, cwt }

/-- Save the state in which the certificate is paid for, and then give it away. -/
def ship (req : Request) (minted : Minted) (bootstrap : BootstrapState) : OverFile Stepped := do
  match ← writeState bootstrap with
  | false => pure (reject req bootstrap .invalidParam)
  | true =>
    pure
      { state := .enrolled minted.vmId (lib.sha256 minted.cwt)
        bootstrap
        response := .ok req minted.cwt }

/-- The token of an ENROLL and the certificate that was minted for it. -/
def prepareEnroll (a : Arrival) (ctx : EnrollContext) :
    Except AuthFailReason (List UInt8 × Minted) := do
  let (vmId, token, csrPub) ← required (parseEnrollPayload a.req.payload) .invalidParam
  let minted ← mintFor lib ctx vmId csrPub a.now
  pure (token, minted)

/-- ENROLL: the guest pays with its token. -/
def handleEnroll (a : Arrival) (ctx : EnrollContext) : OverFile Stepped :=
  match prepareEnroll lib a ctx with
  | .error reason => pure (reject a.req a.bootstrap reason)
  | .ok (token, minted) =>
    match a.bootstrap.consume lib.sha256 minted.vmId token (lib.sha256 minted.cwt) ctx.clock with
    | (.accepted, bootstrap) => ship lib a.req minted bootstrap
    | (.alreadyConsumed, bootstrap) => pure (reject a.req bootstrap .tokenAlreadyConsumed)
    | (.unknownVmId, bootstrap) => pure (reject a.req bootstrap .badBootstrapToken)
    | (.tokenMismatch, bootstrap) => pure (reject a.req bootstrap .badBootstrapToken)

/-- The certificate that was minted for an ENROLL_ASSISTED. The guest is known by its address. -/
def prepareEnrollAssisted (a : Arrival) (ctx : EnrollContext) : Except AuthFailReason Minted := do
  let peerIp ← required ctx.peerIp .badBootstrapToken
  let resolver ← required ctx.ipResolver .badBootstrapToken
  let vmId ← required (resolver peerIp) .badBootstrapToken
  let csrPub ← required (parseEnrollAssistedPayload a.req.payload) .invalidParam
  mintFor lib ctx vmId csrPub a.now

/-- What becomes of an ENROLL_ASSISTED once it was tried to consume the armed enrolment. -/
def settlePending (req : Request) (minted : Minted) :
    PendingConsumeOutcome × BootstrapState → OverFile Stepped
  | (.accepted, bootstrap) => ship lib req minted bootstrap
  | (.notPending, bootstrap) => pure (reject req bootstrap .badBootstrapToken)
  | (.expired, bootstrap) => pure (reject req bootstrap .tokenAlreadyConsumed)

/-- ENROLL_ASSISTED: the guest pays with its armed enrolment. When there is none in memory, the file
is read once. -/
def handleEnrollAssisted (a : Arrival) (ctx : EnrollContext) : OverFile Stepped :=
  match prepareEnrollAssisted lib a ctx with
  | .error reason => pure (reject a.req a.bootstrap reason)
  | .ok minted =>
    let consumed (state : BootstrapState) :=
      state.consumePending minted.vmId minted.iat (lib.sha256 minted.cwt)
    match consumed a.bootstrap with
    | (.notPending, bootstrap) => do
      match ← readState with
      | none => pure (reject a.req bootstrap .badBootstrapToken)
      | some reloaded => settlePending lib a.req minted (consumed reloaded)
    | outcome => settlePending lib a.req minted outcome

def step (state : HandshakeState) (a : Arrival) (key : List UInt8) (policy : IamPolicy) :
    OverFile Stepped :=
  match Op.fromU32 a.req.op, state with
  | some .hello, .awaitHello => pure (handleHello a)
  | some .auth, .nonceSent nonce => pure (handleAuth lib a key policy nonce)
  | some .enroll, .nonceSent _ =>
    match a.enroll with
    | some ctx => handleEnroll lib a ctx
    | none => pure (reject a.req a.bootstrap .invalidParam)
  | some .enrollAssisted, .nonceSent _ =>
    match a.enroll with
    | some ctx => handleEnrollAssisted lib a ctx
    | none => pure (reject a.req a.bootstrap .invalidParam)
  | _, _ => pure (reject a.req a.bootstrap .invalidParam)

/-! ### What one request can do -/

/-- All that a request can do to a connection in a given state. -/
inductive Happens (key : List UInt8) (policy : IamPolicy) (state : HandshakeState) (a : Arrival)
    (out : Stepped) : Prop
  | greets (op : Op.fromU32 a.req.op = some .hello) (first : state = .awaitHello)
      (after : out.state = .nonceSent a.nonce) (response : out.response = .ok a.req a.nonce.toList)
  | authenticates (nonce : Nonce) (principal : Principal) (op : Op.fromU32 a.req.op = some .auth)
      (greeted : state = .nonceSent nonce)
      (proved : authenticate lib a.req.payload key policy nonce a.now = .ok principal)
      (after : out.state = .authenticated principal) (status : out.response.status = .ok)
  | enrols (vmId : String) (certThumbprint : Vector UInt8 32)
      (op : Op.fromU32 a.req.op = some .enroll ∨ Op.fromU32 a.req.op = some .enrollAssisted)
      (after : out.state = .enrolled vmId certThumbprint) (status : out.response.status = .ok)
  | rejects (reason : AuthFailReason) (after : out.state = .failed reason)
      (status : out.response.status = .policyReject)

variable {lib} {key : List UInt8} {policy : IamPolicy} {state : HandshakeState} {a : Arrival}
    {nonce nonce' : Nonce}
  {ctx : EnrollContext} {minted : Minted} {out : Stepped} (bootstrap : BootstrapState)
  {principal : Principal}

/-- A request that is rejected. -/
theorem happens_reject (reason : AuthFailReason) :
  Happens lib key policy state a (reject a.req bootstrap reason)
  := .rejects reason rfl rfl

/-- A certificate is given away, or the request is rejected. -/
theorem guarded_ship (op : Op.fromU32 a.req.op = some .enroll ∨
    Op.fromU32 a.req.op = some .enrollAssisted) :
  Guarded (fun _ => True) (Happens lib key policy state a) (ship lib a.req minted bootstrap)
  := by
  have write : Guarded (fun _ => True) (fun _ => True) (writeState bootstrap) := by
    apply guarded_question trivial
    intro answer
    cases answer with
    | false => apply guarded_pure trivial
    | true => exact ⟨trivial, fun _ => trivial⟩
  apply guarded_bind write
  intro written _
  cases written with
  | false => apply guarded_pure (happens_reject bootstrap .invalidParam)
  | true => apply guarded_pure (.enrols _ _ op rfl rfl)

theorem guarded_settlePending
    (op : Op.fromU32 a.req.op = some .enroll ∨ Op.fromU32 a.req.op = some .enrollAssisted)
    (outcome : PendingConsumeOutcome × BootstrapState) :
  Guarded (fun _ => True) (Happens lib key policy state a) (settlePending lib a.req minted outcome)
  := by
  rcases outcome with ⟨_ | _ | _, bootstrap⟩
  · apply guarded_ship bootstrap op
  · apply guarded_pure (happens_reject bootstrap .badBootstrapToken)
  · apply guarded_pure (happens_reject bootstrap .tokenAlreadyConsumed)

/-- ENROLL enrols the guest or rejects the request. -/
theorem guarded_handleEnroll (op : Op.fromU32 a.req.op = some .enroll) :
  Guarded (fun _ => True) (Happens lib key policy state a) (handleEnroll lib a ctx)
  := by
  unfold handleEnroll
  split
  · apply guarded_pure (happens_reject _ _)
  · split
    · apply guarded_ship _ (.inl op)
    · apply guarded_pure (happens_reject _ _)
    · apply guarded_pure (happens_reject _ _)
    · apply guarded_pure (happens_reject _ _)

/-- ENROLL_ASSISTED enrols the guest or rejects the request. -/
theorem guarded_handleEnrollAssisted (op : Op.fromU32 a.req.op = some .enrollAssisted) :
  Guarded (fun _ => True) (Happens lib key policy state a) (handleEnrollAssisted lib a ctx)
  := by
  unfold handleEnrollAssisted
  split
  · apply guarded_pure (happens_reject _ _)
  · dsimp only
    split
    · apply guarded_question trivial
      intro answer
      cases answer with
      | none => apply guarded_pure (happens_reject _ _)
      | some => apply guarded_settlePending (.inr op)
    · apply guarded_settlePending (.inr op)

/-- HELLO greets or rejects. -/
theorem happens_handleHello (op : Op.fromU32 a.req.op = some .hello) :
  Happens lib key policy .awaitHello a (handleHello a)
  := by
  unfold handleHello
  split
  · apply happens_reject
  · exact .greets op rfl rfl rfl

/-- AUTH authenticates or rejects. -/
theorem happens_handleAuth (op : Op.fromU32 a.req.op = some .auth) :
  Happens lib key policy (.nonceSent nonce) a (handleAuth lib a key policy nonce)
  := by
  unfold handleAuth
  split
  · apply happens_reject
  · next principal proved => exact .authenticates nonce principal op rfl proved rfl rfl

/-- One step of the handshake does nothing else. -/
theorem happens_of_step (ends : Ends (step lib state a key policy) out) :
  Happens lib key policy state a out
  := by
  apply Guarded.ends (P := fun _ => True) _ ends
  unfold step
  split
  · next op => apply guarded_pure (happens_handleHello op)
  · next op => apply guarded_pure (happens_handleAuth op)
  · next op =>
    split
    · apply guarded_handleEnroll op
    · apply guarded_pure (happens_reject _ _)
  · next op =>
    split
    · apply guarded_handleEnrollAssisted op
    · apply guarded_pure (happens_reject _ _)
  · apply guarded_pure (happens_reject _ _)

/-! ### Connections -/

/-- A request and what it left behind. -/
structure Exchange where
  arrival : Arrival
  out : Stepped

namespace Exchange

/-- The request was a HELLO, which was answered with the nonce. -/
def Greets (e : Exchange) (nonce : Nonce) : Prop :=
  Op.fromU32 e.arrival.req.op = some .hello ∧ e.out.response = .ok e.arrival.req nonce.toList

def Rejected (e : Exchange) : Prop :=
  e.out.response.status ≠ .ok

def Enrols (e : Exchange) : Prop :=
  (Op.fromU32 e.arrival.req.op = some .enroll ∨
    Op.fromU32 e.arrival.req.op = some .enrollAssisted) ∧ e.out.response.status = .ok

/-- The request was an AUTH, which bound the connection to the principal. -/
def Authenticates (lib : CertLibraries κ ς) (key : List UInt8) (policy : IamPolicy) (e : Exchange)
    (nonce : Nonce) (principal : Principal) : Prop :=
  Op.fromU32 e.arrival.req.op = some .auth ∧ e.out.response.status = .ok ∧
    authenticate lib e.arrival.req.payload key policy nonce e.arrival.now = .ok principal

variable {e : Exchange} {nonce : Nonce}

/-- A greeting has one nonce. -/
theorem Greets.nonce_eq (h : e.Greets nonce) (h' : e.Greets nonce') :
  nonce = nonce'
  := by
  have same := h.2.symm.trans h'.2
  apply Vector.toList_inj.mp (congrArg Response.payload same)

/-- A greeting ends no handshake. -/
theorem Greets.goesOn (h : e.Greets nonce) :
  ¬ (e.Rejected ∨ e.Enrols)
  := by
  rintro (rejected | ⟨op | op, -⟩)
  · apply rejected
    rw [h.2]
    rfl
  · cases h.1.symm.trans op
  · cases h.1.symm.trans op

/-- An authentication is neither a rejection nor an enrolment. -/
theorem Authenticates.goesOn (h : e.Authenticates lib key policy nonce principal) :
  ¬ (e.Rejected ∨ e.Enrols)
  := by
  rintro (rejected | ⟨op | op, -⟩)
  · apply rejected h.2.1
  · cases h.1.symm.trans op
  · cases h.1.symm.trans op

end Exchange

variable (lib key policy) in
/-- The connections: the requests served so far, the latest first, and the state that the connection
is in. Other connections may have changed the bootstrap state between two requests, and the file
system may answer in any way. -/
inductive Connection : List Exchange → HandshakeState → Prop
  | accepted : Connection [] .awaitHello
  | request {es : List Exchange} {s : HandshakeState} (earlier : Connection es s) (a : Arrival)
      {out : Stepped} (ends : Ends (step lib s a key policy) out) :
      Connection (⟨a, out⟩ :: es) out.state

variable (lib key policy) in
/-- What must have been served for a connection to be in a state. -/
def History : HandshakeState → List Exchange → Prop
  | .awaitHello, es => es = []
  | .nonceSent nonce, es => ∃ hello, es = [hello] ∧ hello.Greets nonce
  | .authenticated principal, es =>
    ∃ auth hello nonce, es = [auth, hello] ∧ hello.Greets nonce ∧
      auth.Authenticates lib key policy nonce principal
  | .enrolled _ _, _ | .failed _, _ => True

variable {payload : List UInt8} {es : List Exchange}

/-- A request adds to the history what it did. -/
theorem History.happens (h : History lib key policy state es)
    (happens : Happens lib key policy state a out) :
  History lib key policy out.state (⟨a, out⟩ :: es)
  := by
  cases happens with
  | greets op first after response =>
    rw [first] at h
    rw [after, h]
    exact ⟨_, rfl, op, response⟩
  | authenticates nonce _ op greeted proved after status =>
    rw [greeted] at h
    obtain ⟨hello, rfl, greets⟩ := h
    rw [after]
    exact ⟨_, hello, nonce, rfl, greets, op, status, proved⟩
  | enrols _ _ _ after =>
    rw [after]
    trivial
  | rejects _ after =>
    rw [after]
    trivial

/-- Every connection has the history of its state. -/
theorem Connection.history (h : Connection lib key policy es state) :
  History lib key policy state es
  := by
  induction h with
  | accepted => rfl
  | request _ _ ends ih => apply ih.happens (happens_of_step ends)

/-! ### What authentication shows -/

/-- A principal is bound by a valid certificate with its name, and a proof under the key of the
certificate. -/
theorem authenticate_eq_ok {now : Int}
    (h : authenticate lib payload key policy nonce now = .ok principal) :
  ∃ cwt sig cert, parseAuthPayload payload = some (cwt, sig) ∧
    validate lib cwt key now = .ok cert ∧ cert.subject = principal.vmId ∧
    verifyProofSig lib cert.cnfPubkey nonce sig = true
  := by
  obtain ⟨⟨cwt, sig⟩, parsed, h⟩ := ok_of_required_bind h
  obtain ⟨cert, valid, h⟩ := Except.ok_of_bind h
  obtain ⟨proof, h⟩ := ok_of_check_bind h
  obtain ⟨-, h⟩ := ok_of_check_bind h
  cases h
  exact ⟨cwt, sig, cert, parsed, valid, rfl, proof⟩

variable (lib) in
/-- Signatures are accepted only for the message they were made for. -/
def SignsExactly : Prop :=
  ∀ (k : κ) (m m' : List UInt8) (sig : ς), lib.verify k m sig = true →
    lib.verify k m' sig = true → m = m'

/-- A proof is over one nonce only. -/
theorem nonce_unique (exact : SignsExactly lib) {cnfPubkey sig : List UInt8}
    (h : verifyProofSig lib cnfPubkey nonce sig = true)
    (h' : verifyProofSig lib cnfPubkey nonce' sig = true) :
  nonce = nonce'
  := by
  unfold verifyProofSig at h h'
  cases point : parseP256Pub lib cnfPubkey with
  | none =>
    rw [point] at h
    cases h
  | some k =>
    rw [point] at h h'
    obtain ⟨s, sliced, verified⟩ := (Option.any_eq_true _ _).mp h
    obtain ⟨s', sliced', verified'⟩ := (Option.any_eq_true _ _).mp h'
    obtain rfl : s = s' := Option.some.inj (sliced.symm.trans sliced')
    apply Vector.toList_inj.mp
    apply List.append_cancel_right (exact k _ _ s verified verified')

/-- A payload of AUTH is accepted for one nonce only. -/
theorem nonce_unique_of_authenticate (exact : SignsExactly lib) {now now' : Int}
    {principal' : Principal} (h : authenticate lib payload key policy nonce now = .ok principal)
    (h' : authenticate lib payload key policy nonce' now' = .ok principal') :
  nonce = nonce'
  := by
  obtain ⟨_, _, _, parsed, valid, -, proof⟩ := authenticate_eq_ok h
  obtain ⟨_, _, _, parsed', valid', -, proof'⟩ := authenticate_eq_ok h'
  cases parsed.symm.trans parsed'
  rw [cnfPubkey_unique valid valid'] at proof
  apply nonce_unique exact proof proof'

/-- A connection becomes authenticated only by an AUTH with a certificate that is valid under the
key of the device at that time and names the principal, and with a proof under the key of that
certificate over the nonce of the connection, which its one HELLO was answered with. After a
rejection or an enrolment it never does. A payload that is accepted on one connection is accepted on
no connection with another nonce. -/
theorem handshake_sound (lib : CertLibraries κ ς) (exact : SignsExactly lib) (key : List UInt8)
    (policy : IamPolicy) :
  (∀ (auth : Exchange) (earlier : List Exchange) (p : Principal),
    Connection lib key policy (auth :: earlier) (.authenticated p) → ∃ hello nonce cwt sig cert,
      earlier = [hello] ∧ hello.Greets nonce ∧ Op.fromU32 auth.arrival.req.op = some .auth ∧
      parseAuthPayload auth.arrival.req.payload = some (cwt, sig) ∧
      validate lib cwt key auth.arrival.now = .ok cert ∧ cert.subject = p.vmId ∧
      verifyProofSig lib cert.cnfPubkey nonce sig = true) ∧
  (∀ (es : List Exchange) (s : HandshakeState), Connection lib key policy es s →
    (∃ e ∈ es, e.Rejected ∨ e.Enrols) → ∀ p, s ≠ .authenticated p) ∧
  (∀ (auth auth' hello hello' : Exchange) (p p' : Principal) (nonce nonce' : Nonce),
    Connection lib key policy [auth, hello] (.authenticated p) → hello.Greets nonce →
    Connection lib key policy [auth', hello'] (.authenticated p') → hello'.Greets nonce' →
    nonce ≠ nonce' → auth.arrival.req.payload ≠ auth'.arrival.req.payload)
  := by
  refine ⟨?_, ?_, ?_⟩
  · intro auth earlier p connection
    obtain ⟨_, hello, nonce, served, greets, op, -, proved⟩ := connection.history
    cases served
    obtain ⟨cwt, sig, cert, parsed, valid, subject, proof⟩ := authenticate_eq_ok proved
    exact ⟨hello, nonce, cwt, sig, cert, rfl, greets, op, parsed, valid, subject, proof⟩
  · rintro es s connection ⟨e, served, ended⟩ p rfl
    obtain ⟨_, _, _, rfl, greets, authenticates⟩ := connection.history
    rcases List.mem_cons.mp served with rfl | served
    · apply authenticates.goesOn ended
    · obtain rfl := List.mem_singleton.mp served
      apply greets.goesOn ended
  · intro auth auth' hello hello' p p' nonce nonce' connection greets connection'
      greets' differ same
    obtain ⟨_, _, _, served, own, -, -, proved⟩ := connection.history
    obtain ⟨_, _, _, served', own', -, -, proved'⟩ := connection'.history
    cases served
    cases served'
    rw [greets.nonce_eq own, greets'.nonce_eq own'] at differ
    rw [← same] at proved'
    apply differ (nonce_unique_of_authenticate exact proved proved')

end Libraries

/-! ### A connection that is authenticated -/

/-- Libraries for which a message is its own signature, and every certificate that of `vm1`, valid
for the first hundred seconds. -/
def plainLibraries : CertLibraries (List UInt8) (List UInt8) where
  coseFromSlice cwt := some { payload := some cwt, signature := [], tbsData := [] }
  coseToVec payload _ := some payload
  cborFromReader _ :=
    let zeros := List.replicate 32 0
    some (.map (mintClaims "vm1" "device" zeros zeros 0 100 (.replicate 16 0)))
  cborIntoWriter _ := some []
  verifyingKey := some
  signatureFromSlice := some
  verify _ message signature := signature == message
  sha256 _ := .replicate 32 0

theorem plainLibraries_signsExactly :
  SignsExactly plainLibraries
  := by
  intro k m m' sig h h'
  rw [← beq_iff_eq.mp h, ← beq_iff_eq.mp h']

def plainKey : List UInt8 :=
  0x04 :: List.replicate 64 0

def plainHello : Arrival :=
  { req := { op := 0x00F0, sessionId := 1, payload := [] }
    now := 10, nonce := .replicate 16 0, enroll := none, bootstrap := {} }

/-- An empty certificate, with a proof over the nonce of the greeting. -/
def plainAuth : Arrival :=
  let proof := List.replicate 16 0 ++ proofDomainTag
  { plainHello with
    req := { op := 0x00F1, sessionId := 2, payload := [0, 0] ++ [28, 0] ++ proof } }

theorem plainAuth_accepted :
  (authenticate plainLibraries plainAuth.req.payload plainKey { statements := [] } plainHello.nonce
    plainAuth.now).toOption = some { vmId := "vm1", certThumbprint := .replicate 32 0 }
  := by
  decide +kernel

/-- The greeting and the proof make a connection that is authenticated. -/
theorem plain_connection :
  ∃ auth hello p, Connection plainLibraries plainKey { statements := [] } [auth, hello]
    (.authenticated p)
  := by
  have greeted : Connection plainLibraries plainKey { statements := [] }
      [⟨plainHello, handleHello plainHello⟩] (.nonceSent plainHello.nonce) :=
    .request .accepted plainHello (.done _)
  obtain ⟨p, accepted⟩ : ∃ p, authenticate plainLibraries plainAuth.req.payload plainKey
      { statements := [] } plainHello.nonce plainAuth.now = .ok p := by
    have accepted := plainAuth_accepted
    cases outcome : authenticate plainLibraries plainAuth.req.payload plainKey { statements := [] }
        plainHello.nonce plainAuth.now with
    | error reason =>
      rw [outcome] at accepted
      cases accepted
    | ok p => use p
  have bound : (handleAuth plainLibraries plainAuth plainKey { statements := [] }
      plainHello.nonce).state = .authenticated p := by
    rw [handleAuth, accepted]
  have connection := Connection.request greeted plainAuth
    (.done (handleAuth plainLibraries plainAuth plainKey { statements := [] } plainHello.nonce))
  rw [bound] at connection
  exact ⟨_, _, p, connection⟩

/-- The connection was authenticated by a proof over its own nonce. -/
theorem plain_connection_sound :
  ∃ auth hello p, Connection plainLibraries plainKey { statements := [] } [auth, hello]
      (.authenticated p) ∧ ∃ hello' nonce cwt sig cert, [hello] = [hello'] ∧ hello'.Greets nonce ∧
      Op.fromU32 auth.arrival.req.op = some .auth ∧
      parseAuthPayload auth.arrival.req.payload = some (cwt, sig) ∧
      validate plainLibraries cwt plainKey auth.arrival.now = .ok cert ∧ cert.subject = p.vmId ∧
      verifyProofSig plainLibraries cert.cnfPubkey nonce sig = true
  := by
  obtain ⟨auth, hello, p, connection⟩ := plain_connection
  use auth, hello, p, connection
  exact (handshake_sound plainLibraries plainLibraries_signsExactly plainKey { statements := [] }).1
    auth [hello] p connection

end Vhsm.Auth
