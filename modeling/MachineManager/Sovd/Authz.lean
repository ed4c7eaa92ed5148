import MachineManager.Lib.Call
import Mathlib.Order.Lattice

/-!
# Tokens, issuers and delegates

A request comes with a token. Most tokens are signed by an issuer that is pinned, with the highest
tier that it may grant. The token of a delegate carries a chain of certificates that leads to a
pinned root, and what it may grant stands in the leaf.

A device may have no clock. It keeps a floor, a time that has certainly passed, and judges the leaf
at the later one of the clock and the floor; the leaf of every verified chain raises the floor to
the beginning of its window. The library that verifies tokens reads the clock alone.
-/

namespace Sovd.Authz

open Call

/-- What a route requires. -/
inductive Capability
  | dataRead
  | dataWrite
  | operationsExecute
  | modesSet
  | updateTransfer
  | updateExecute
  | updateVerdict
  | resetExecute
  | factoryReset
  | componentAdmin
  | admin
  | read
deriving DecidableEq

def Capability.all : List Capability :=
  [dataRead, dataWrite, operationsExecute, modesSet, updateTransfer, updateExecute, updateVerdict,
    resetExecute, factoryReset, componentAdmin, admin, read]

theorem Capability.mem_all (capability : Capability) :
  capability ∈ all
  := by
  cases capability <;> decide

/-- The authority that a capability needs. -/
inductive Tier
  | operational
  | highConsequence
deriving DecidableEq

def Tier.rank : Tier → ℕ
  | operational => 0
  | highConsequence => 1

def Tier.name : Tier → String
  | operational => "Operational"
  | highConsequence => "HighConsequence"

def capabilityTier : Capability → Tier
  | .factoryReset => .highConsequence
  | _ => .operational

/-- The scope that a capability requires; a plain read requires none. -/
def capabilityScope : Capability → Option String
  | .dataRead => some "data:read"
  | .dataWrite => some "data:write"
  | .operationsExecute => some "operations:execute"
  | .modesSet => some "modes:set"
  | .updateTransfer => some "update:transfer"
  | .updateExecute => some "update:execute"
  | .updateVerdict => some "update:verdict"
  | .resetExecute => some "reset:execute"
  | .factoryReset => some "factory-reset"
  | .componentAdmin => some "component-admin"
  | .admin => some "admin"
  | .read => none

/-! ### Texts -/

/-- The characters that separate words. -/
def isWhitespace (c : Char) : Bool :=
  c.toNat ∈ [0x20, 0x85, 0xA0, 0x1680, 0x2028, 0x2029, 0x202F, 0x205F, 0x3000] ∨
    0x09 ≤ c.toNat ∧ c.toNat ≤ 0x0D ∨ 0x2000 ≤ c.toNat ∧ c.toNat ≤ 0x200A

def trim (s : String) : String :=
  String.ofList ((s.toList.dropWhile isWhitespace).reverse.dropWhile isWhitespace).reverse

def splitWhitespace (s : String) : List String :=
  ((s.toList.splitOnP isWhitespace).filter (· ≠ [])).map String.ofList

/-! ### Certificates and tokens, as the libraries give them -/

structure Extension where
  extnId : String
  extnValue : List UInt8

/-- What is read of a certificate: the window in which it is valid, in seconds, its extensions and
its key. -/
structure Certificate where
  notBefore : ℕ
  notAfter : ℕ
  extensions : Option (List Extension) := none
  publicKey : List UInt8 := []

/-- The header of a token. -/
structure Header where
  kid : Option String := none
  x5c : Option (List String) := none

structure Claims where
  sub : String
  scope : Option String := none
  scopes : Option (List String) := none
  bootId : Option String := none
  epoch : Option ℕ := none
deriving DecidableEq

/-- What the library checks a token against. Signatures are ES256 only. -/
structure Validation where
  audience : String
  issuer : Option String := none
  requiredSpecClaims : List String

/-- The libraries, with keys of type `κ`. A token is verified at a time. -/
structure Libraries (κ : Type) where
  decodeBase64 : String → Except String (List UInt8)
  pemCerts : List UInt8 → List (Except String (List UInt8))
  addRoot : List UInt8 → Except String Unit
  buildVerifier : List (List UInt8) → Except String Unit
  verifyClientCert : List (List UInt8) → List UInt8 → List (List UInt8) → ℕ → Except String Unit
  certificate : List UInt8 → Except String Certificate
  utf8String : List UInt8 → Option String
  spkiDer : Certificate → Except String (List UInt8)
  ecKey : List UInt8 → Except String (List UInt8)
  ecPem : List UInt8 → Except String String
  decodingKey : String → Except String κ
  decodeHeader : String → Except String Header
  decode : String → κ → Validation → ℕ → Except String Claims
  /-- The claims that a token carries, and the time at which it expires. -/
  claims : String → Option Claims
  exp : String → Option ℕ
  leeway : ℕ
  canAccessComponent : List String → String → Bool

/-- What is assumed of the libraries: a leaf is only verified within its window, and a token only
until it expires, up to the leeway. -/
structure Libraries.Lawful {κ : Type} (lib : Libraries κ) : Prop where
  window : ∀ {roots leafDer intermediates now leaf},
    lib.verifyClientCert roots leafDer intermediates now = .ok () →
    lib.certificate leafDer = .ok leaf → leaf.notBefore ≤ now ∧ now ≤ leaf.notAfter
  decodes : ∀ {token key validation now claims}, lib.decode token key validation now = .ok claims →
    lib.claims token = some claims ∧
      ("exp" ∈ validation.requiredSpecClaims → ∃ e, lib.exp token = some e ∧ now ≤ e + lib.leeway)

def Claims.intoScopes (c : Claims) : List String :=
  match c.scopes with
  | some scopes => scopes
  | none =>
    match c.scope with
    | some s => splitWhitespace s
    | none => []

/-! ### Delegates -/

def DELEGATED_RIGHTS_OID : String := "1.3.6.1.4.1.99999.1.1"

variable {κ α : Type} {token : String} {lib : Libraries κ}

section Delegates

variable (lib : Libraries κ)

def parseScopes (extnValueDer : List UInt8) : Option (List String) :=
  (lib.utf8String extnValueDer).map splitWhitespace

/-- The scopes that a certificate grants, if it says so at all. -/
def grantedScopes (cert : Certificate) : Option (List String) := do
  let extensions ← cert.extensions
  let ext ← extensions.find? fun e => e.extnId = DELEGATED_RIGHTS_OID
  parseScopes lib ext.extnValue

structure DelegateAuthority where
  leafDer : List UInt8
  grantedScopes : List String
  notBeforeSecs : ℕ

inductive DelegationError
  | noChain
  | badCert (message : String)
  | chainNotTrusted (message : String)
deriving DecidableEq

def DelegationError.text : DelegationError → String
  | noChain => "delegate presented an empty certificate chain"
  | badCert e => s!"certificate did not parse: {e}"
  | chainNotTrusted e => s!"delegate chain did not verify to the pinned root: {e}"

def pinnedRoots (pem : List UInt8) : Except DelegationError (List (List UInt8)) :=
  (lib.pemCerts pem).foldlM (fun roots cert => do
    let der ← cert.mapError .badCert
    (lib.addRoot der).mapError .badCert
    return roots ++ [der]) []

/-- The path and the signatures are verified at the beginning of the leaf's own window; the leaf has
to last until now. -/
def verifyDelegateChain (x5c : List (List UInt8)) (pinnedRootPem : List UInt8) (effectiveNow : ℕ) :
    Except DelegationError DelegateAuthority :=
  match x5c with
  | [] => .error .noChain
  | leafDer :: intermediates => do
    let roots ← pinnedRoots lib pinnedRootPem
    (lib.buildVerifier roots).mapError .chainNotTrusted
    let leaf ← (lib.certificate leafDer).mapError .badCert
    (lib.verifyClientCert roots leafDer intermediates leaf.notBefore).mapError .chainNotTrusted
    if leaf.notAfter < effectiveNow then
      .error (.chainNotTrusted
        s!"delegate certificate expired: not_after {leaf.notAfter} < effective_now {effectiveNow}")
    else .ok {
      leafDer
      grantedScopes := (grantedScopes lib leaf).getD []
      notBeforeSecs := leaf.notBefore }

end Delegates

/-! ### The authorizer -/

structure AccessRequest where
  bearer : Option String
  method : String
  path : String
  component : Option String
  capability : Capability
deriving DecidableEq

structure ClientContext where
  subject : String
  scopes : List String
deriving DecidableEq

/-- An issuer that is pinned, with the highest tier that it may grant. -/
structure TrustedIssuer (κ : Type) where
  id : String
  audience : String
  key : κ
  ceiling : Tier

structure TieredAuthorizer (κ : Type) where
  issuers : List (TrustedIssuer κ)
  expectedBootId : Option String := none
  expectedEpoch : Option ℕ := none
  pinnedRootPem : Option (List UInt8) := none
  aud : Option String
  readOpen : Bool := false

/-- The floor, if the device has one, and what was handed on to be kept for good. -/
structure Floor where
  cell : Option ℕ := none
  sunk : List ℕ := []
deriving DecidableEq

/-- The time that has certainly passed. -/
def Floor.secs (f : Floor) : ℕ :=
  f.cell.getD 0

/-- The readings of the clock in the course of a request: the one that the certificates are judged
at, and the one of the library that verifies the token. -/
structure Clock where
  wall : ℕ
  token : ℕ

variable {clock : Clock} {req : AccessRequest} {ctx : ClientContext}

/-- The result of a library; its error goes into a text. -/
def orElse {ε α : Type} (result : Except ε α) (text : ε → String) : Call Floor String α :=
  match result with
  | .ok a => pure a
  | .error e => fail (text e)

def stripBearer (header : Option String) : Except String String :=
  match (header.bind fun v => (v.dropPrefix? "Bearer ").map fun rest => trim rest.copy).filter
    (· ≠ "") with
  | some token => .ok token
  | none => .error "missing or malformed bearer token"

namespace TieredAuthorizer

variable (a : TieredAuthorizer κ) (lib : Libraries κ) (clock : Clock)

def ratchetFloor (secs : ℕ) : Call Floor String Unit :=
  modify fun f => { cell := f.cell.map (max · secs), sunk := f.sunk ++ [secs] }

def effectiveNow (f : Floor) : ℕ :=
  max clock.wall f.secs

/-- The token is for this boot, and not from before the current epoch, where the device asks for
it. -/
def checkFreshness (bootId : Option String) (epoch : Option ℕ) : Except String Unit :=
  if a.expectedBootId.isSome ∧ bootId ≠ a.expectedBootId then
    .error "stale token: boot_id does not match the device's current boot"
  else
    match a.expectedEpoch with
    | none => .ok ()
    | some expected =>
      match epoch with
      | some epoch =>
        if expected ≤ epoch then .ok ()
        else .error "stale token: vehicle-epoch is older than the device's current epoch"
      | none => .error "vehicle-wide token is missing its `epoch` claim"

/-- The token is for the component of the request, if it has one. -/
def checkComponent (ctx : ClientContext) (req : AccessRequest) : Except String Unit :=
  match req.component with
  | some component =>
    if lib.canAccessComponent ctx.scopes component then .ok ()
    else .error s!"token has no scope for component '{component}'"
  | none => .ok ()

def leafKey (leafDer : List UInt8) : Call Floor String κ := do
  let leaf ← orElse (lib.certificate leafDer) fun e => s!"verified leaf did not re-parse: {e}"
  let spkiDer ← orElse (lib.spkiDer leaf) fun e => s!"leaf SPKI re-encode failed: {e}"
  let leafPub ← orElse (lib.ecKey spkiDer) fun e => s!"leaf key is not EC-P256: {e}"
  let leafPem ← orElse (lib.ecPem leafPub) fun e => s!"leaf key re-encode failed: {e}"
  orElse (lib.decodingKey leafPem) fun e => s!"build leaf decoding key: {e}"

/-- The scope that the request needs is one of the token's and one of the leaf's. -/
def checkDelegated (ctx : ClientContext) (granted : List String) (req : AccessRequest) :
    Except String Unit :=
  match capabilityScope req.capability with
  | some scope =>
    if scope ∉ ctx.scopes then .error s!"token lacks the '{scope}' capability"
    else if scope ∉ granted then
      .error s!"delegate's certificate does not authorise granting '{scope}'"
    else .ok ()
  | none => .ok ()

/-- The certificates that a token carries. -/
def chainDers (header : Header) : Except String (List (List UInt8)) :=
  match header.x5c with
  | some x5c => (x5c.mapM lib.decodeBase64).mapError fun e =>
      "malformed `x5c` (not standard-base64 DER): " ++ e
  | none => .error "delegated token is missing its `x5c` chain"

def authorizeDelegated (token : String) (header : Header) (pinnedRoot : List UInt8)
    (req : AccessRequest) : Call Floor String ClientContext := do
  let chainDers ← orElse (chainDers lib header) id
  let f ← get
  let authority ← orElse (verifyDelegateChain lib chainDers pinnedRoot (effectiveNow clock f))
    fun e =>
    "delegate chain rejected: " ++ e.text
  ratchetFloor authority.notBeforeSecs
  let leafKey ← leafKey lib authority.leafDer
  let deviceAud ← ofOption a.aud "authorizer has no device audience configured for delegation"
  let claims ← orElse (lib.decode token leafKey
    { audience := deviceAud, requiredSpecClaims := ["exp", "aud", "sub"] } clock.token)
    fun e => s!"token verification failed: {e}"
  orElse (a.checkFreshness claims.bootId claims.epoch) id
  let ctx : ClientContext := { subject := claims.sub, scopes := claims.intoScopes }
  orElse (checkComponent lib ctx req) id
  orElse (checkDelegated ctx authority.grantedScopes req) id
  return ctx

/-- The scope that the request needs is one of the token's. -/
def checkScope (ctx : ClientContext) (req : AccessRequest) : Except String Unit :=
  match capabilityScope req.capability with
  | some scope =>
    if scope ∉ ctx.scopes then .error s!"token lacks the '{scope}' capability" else .ok ()
  | none => .ok ()

def authorizePinned (token : String) (header : Header) (req : AccessRequest) :
    Call Floor String ClientContext := do
  let kid ← ofOption header.kid "token is missing its `kid` (issuer)"
  let issuer ← ofOption (a.issuers.find? fun i => i.id = kid) s!"untrusted issuer '{kid}'"
  let claims ← orElse (lib.decode token issuer.key
    { audience := issuer.audience, issuer := some issuer.id,
      requiredSpecClaims := ["exp", "aud", "iss", "sub"] } clock.token)
    fun e => s!"token verification failed: {e}"
  let needed := capabilityTier req.capability
  if issuer.ceiling.rank < needed.rank then
    fail (s!"issuer '{issuer.id}' (ceiling {issuer.ceiling.name}) may not grant a " ++
      s!"{needed.name} capability")
  else
    orElse (a.checkFreshness claims.bootId claims.epoch) id
    let ctx : ClientContext := { subject := claims.sub, scopes := claims.intoScopes }
    orElse (checkComponent lib ctx req) id
    orElse (checkScope ctx req) id
    return ctx

def authorize (req : AccessRequest) : Call Floor String ClientContext :=
  if a.readOpen ∧ req.bearer.isNone ∧ (req.capability = .read ∨ req.capability = .dataRead) then
    return { subject := "anonymous", scopes := ["component:*"] }
  else do
    let token ← orElse (stripBearer req.bearer) id
    let header ← orElse (lib.decodeHeader token) fun e => s!"invalid token header: {e}"
    if header.x5c.isSome then
      let pinnedRoot ← ofOption a.pinnedRootPem "delegation not configured"
      a.authorizeDelegated lib clock token header pinnedRoot req
    else a.authorizePinned lib clock token header req

end TieredAuthorizer

/-! ### What an accepted delegate has shown -/

section Accepted

variable {a : TieredAuthorizer κ} {f g : Floor} {β : Type} {k : α → Call Floor String β}

/-- The library has returned a value, with which the call goes on. -/
theorem ok_of_orElse_bind {ε : Type} {x : Except ε α} {text : ε → String}
    {v : β} (h : (orElse x text >>= k) f = (.ok v, g)) :
  ∃ result, x = .ok result ∧ k result f = (.ok v, g)
  := by
  cases x with
  | error => cases h
  | ok result => exact ⟨result, rfl, h⟩

theorem ok_of_ofOption_bind {o : Option α} {e : String} {v : β}
    (h : (ofOption o e >>= k) f = (.ok v, g)) :
  ∃ result, o = some result ∧ k result f = (.ok v, g)
  := by
  cases o with
  | none => cases h
  | some result => exact ⟨result, rfl, h⟩

/-- What a chain has shown that was verified. -/
structure Verified (lib : Libraries κ) (x5c : List (List UInt8)) (now : ℕ) (leaf : Certificate)
    (authority : DelegateAuthority) : Prop where
  chain : ∃ intermediates, x5c = authority.leafDer :: intermediates ∧
    ∃ roots, lib.verifyClientCert roots authority.leafDer intermediates leaf.notBefore = .ok ()
  parsed : lib.certificate authority.leafDer = .ok leaf
  lasting : now ≤ leaf.notAfter
  granted : authority.grantedScopes = (grantedScopes lib leaf).getD []
  begun : authority.notBeforeSecs = leaf.notBefore

theorem verifyDelegateChain_ok {x5c : List (List UInt8)} {pem : List UInt8} {now : ℕ}
    {authority : DelegateAuthority}
    (verified : verifyDelegateChain lib x5c pem now = .ok authority) :
  ∃ leaf, Verified lib x5c now leaf authority
  := by
  cases x5c with
  | nil => cases verified
  | cons _ intermediates =>
    obtain ⟨roots, -, verified⟩ := Except.ok_of_bind verified
    obtain ⟨_, -, verified⟩ := Except.ok_of_bind verified
    obtain ⟨leaf, parsed, verified⟩ := Except.ok_of_bind verified
    obtain ⟨_, path, verified⟩ := Except.ok_of_bind verified
    split at verified
    next => cases verified
    next lasts =>
      cases verified
      use leaf
      exact ⟨⟨intermediates, rfl, roots, Except.ok_of_mapError path⟩, Except.ok_of_mapError parsed,
        not_lt.mp lasts, rfl, rfl⟩

open TieredAuthorizer

/-- What a request has shown that was authorized by a delegate. -/
structure Delegated (lib : Libraries κ) (clock : Clock) (token : String)
    (header : Header) (req : AccessRequest) (f g : Floor) (ctx : ClientContext) (leaf : Certificate)
    (authority : DelegateAuthority) : Prop where
  verified : ∃ chain, TieredAuthorizer.chainDers lib header = .ok chain ∧
    Verified lib chain (effectiveNow clock f) leaf authority
  decoded : ∃ key aud claims, lib.decode token key
      { audience := aud, requiredSpecClaims := ["exp", "aud", "sub"] } clock.token = .ok claims ∧
    ctx = { subject := claims.sub, scopes := claims.intoScopes }
  reaches : checkComponent lib ctx req = .ok ()
  allowed : checkDelegated ctx authority.grantedScopes req = .ok ()
  ratcheted : g.cell = f.cell.map (max · leaf.notBefore)

/-- The key is read from the leaf alone. -/
theorem ok_of_leafKey_bind {leafDer : List UInt8} {k : κ → Call Floor String β} {v : β}
    (h : (leafKey lib leafDer >>= k) f = (.ok v, g)) :
  ∃ key, k key f = (.ok v, g)
  := by
  obtain ⟨key, _, call, rest⟩ := Call.ok_of_bind h
  rw [leafKey] at call
  obtain ⟨_, -, call⟩ := ok_of_orElse_bind call
  obtain ⟨_, -, call⟩ := ok_of_orElse_bind call
  obtain ⟨_, -, call⟩ := ok_of_orElse_bind call
  obtain ⟨leafPem, -, call⟩ := ok_of_orElse_bind call
  cases decoding : lib.decodingKey leafPem with
  | error =>
    rw [decoding] at call
    cases call
  | ok =>
    rw [decoding] at call
    cases call
    exact ⟨key, rest⟩

variable {header : Header}

theorem authorizeDelegated_ok {pinnedRoot : List UInt8}
    (accepted : a.authorizeDelegated lib clock token header pinnedRoot req f = (.ok ctx, g)) :
  ∃ leaf authority, Delegated lib clock token header req f g ctx leaf authority
  := by
  rw [authorizeDelegated] at accepted
  obtain ⟨chain, ders, rest⟩ := ok_of_orElse_bind accepted
  rw [run_get_bind] at rest
  obtain ⟨authority, verdict, rest⟩ := ok_of_orElse_bind rest
  obtain ⟨leaf, verified⟩ := verifyDelegateChain_ok verdict
  rw [ratchetFloor, run_modify_bind] at rest
  obtain ⟨key, rest⟩ := ok_of_leafKey_bind rest
  obtain ⟨aud, -, rest⟩ := ok_of_ofOption_bind rest
  obtain ⟨claims, decoded, rest⟩ := ok_of_orElse_bind rest
  obtain ⟨_, -, rest⟩ := ok_of_orElse_bind rest
  obtain ⟨_, reaches, rest⟩ := ok_of_orElse_bind rest
  obtain ⟨_, allowed, rest⟩ := ok_of_orElse_bind rest
  cases rest
  refine ⟨leaf, authority, ⟨chain, ders, verified⟩, ⟨key, aud, claims, decoded, rfl⟩, reaches,
    allowed, ?_⟩
  rw [verified.begun]

/-- A request whose token carries a chain of certificates. -/
structure Presents (lib : Libraries κ) (req : AccessRequest) (token : String)
    (header : Header) : Prop where
  bearer : stripBearer req.bearer = .ok token
  decoded : lib.decodeHeader token = .ok header
  delegate : header.x5c.isSome = true

/-- Such a request is authorized by its delegate or not at all. -/
theorem authorize_ok (presents : Presents lib req token header)
    (accepted : a.authorize lib clock req f = (.ok ctx, g)) :
  ∃ leaf authority, Delegated lib clock token header req f g ctx leaf authority
  := by
  rw [authorize, run_ite] at accepted
  split at accepted
  next anonymous =>
    have bearer := presents.bearer
    rw [Option.isNone_iff_eq_none.mp anonymous.2.1] at bearer
    cases bearer
  next =>
    obtain ⟨_, bearer, rest⟩ := ok_of_orElse_bind accepted
    cases presents.bearer.symm.trans bearer
    obtain ⟨_, decoded, rest⟩ := ok_of_orElse_bind rest
    cases presents.decoded.symm.trans decoded
    rw [if_pos presents.delegate] at rest
    obtain ⟨_, -, rest⟩ := ok_of_ofOption_bind rest
    apply authorizeDelegated_ok rest

/-- The scopes of a context cover a request: its component, and its capability. -/
structure Covers (lib : Libraries κ) (ctx : ClientContext) (req : AccessRequest) : Prop where
  component : checkComponent lib ctx req = .ok ()
  scope : checkScope ctx req = .ok ()

/-- What a delegate is allowed, its token has the scope for. -/
theorem checkScope_of_checkDelegated {granted : List String}
    (allowed : checkDelegated ctx granted req = .ok ()) :
  checkScope ctx req = .ok ()
  := by
  rw [checkDelegated] at allowed
  rw [checkScope]
  cases needed : capabilityScope req.capability with
  | none => rfl
  | some scope =>
    rw [needed] at allowed
    by_cases lacks : scope ∉ ctx.scopes
    · simp only [if_pos lacks] at allowed
      cases allowed
    · exact if_neg lacks

theorem authorizePinned_covers
    (accepted : a.authorizePinned lib clock token header req f = (.ok ctx, g)) :
  Covers lib ctx req
  := by
  rw [authorizePinned] at accepted
  obtain ⟨_, -, rest⟩ := ok_of_ofOption_bind accepted
  obtain ⟨_, -, rest⟩ := ok_of_ofOption_bind rest
  obtain ⟨_, -, rest⟩ := ok_of_orElse_bind rest
  dsimp only at rest
  split at rest
  next => cases rest
  next =>
    obtain ⟨_, -, rest⟩ := ok_of_orElse_bind rest
    obtain ⟨_, component, rest⟩ := ok_of_orElse_bind rest
    obtain ⟨_, scope, rest⟩ := ok_of_orElse_bind rest
    cases rest
    exact ⟨component, scope⟩

/-- What is authorized is covered by the scopes of the token, except for reads that need none. -/
theorem authorize_covers (guarded : req.capability ≠ .read ∧ req.capability ≠ .dataRead)
    (accepted : a.authorize lib clock req f = (.ok ctx, g)) :
  Covers lib ctx req
  := by
  rw [authorize, if_neg fun anonymous => anonymous.2.2.elim guarded.1 guarded.2] at accepted
  obtain ⟨_, -, rest⟩ := ok_of_orElse_bind accepted
  obtain ⟨_, -, rest⟩ := ok_of_orElse_bind rest
  rw [run_ite] at rest
  split at rest
  next =>
    obtain ⟨_, -, rest⟩ := ok_of_ofOption_bind rest
    obtain ⟨_, _, delegated⟩ := authorizeDelegated_ok rest
    exact ⟨delegated.reaches, checkScope_of_checkDelegated delegated.allowed⟩
  next => apply authorizePinned_covers rest

end Accepted

/-! ### What a delegate may grant -/

section Grants

variable {a : TieredAuthorizer κ} {f g : Floor} {header : Header}

/-- The scopes that the leaf of a token's chain grants. -/
def certifiedScopes (lib : Libraries κ) (header : Header) : List String :=
  match TieredAuthorizer.chainDers lib header with
  | .ok (leafDer :: _) => ((lib.certificate leafDer).toOption.bind (grantedScopes lib)).getD []
  | _ => []

/-- Every scope that stands for a capability is granted. -/
def Within (scopes granted : List String) : Prop :=
  ∀ capability scope, capabilityScope capability = some scope → scope ∈ scopes → scope ∈ granted

instance (scopes granted : List String) : Decidable (Within scopes granted) :=
  decidable_of_iff (∀ capability ∈ Capability.all, ∀ scope ∈ capabilityScope capability,
      scope ∈ scopes → scope ∈ granted)
    ⟨fun within capability => within capability capability.mem_all,
      fun within capability _ => within capability⟩

theorem checkScope_iff :
  TieredAuthorizer.checkScope ctx req = .ok () ↔
    ∀ scope, capabilityScope req.capability = some scope → scope ∈ ctx.scopes
  := by
  rw [TieredAuthorizer.checkScope]
  cases capabilityScope req.capability with
  | none => exact ⟨nofun, fun _ => rfl⟩
  | some scope =>
    dsimp only
    split
    next lacks => exact ⟨nofun, fun has => absurd (has scope rfl) lacks⟩
    next has =>
      refine ⟨?_, fun _ => rfl⟩
      rintro _ _ ⟨⟩
      apply Classical.not_not.mp has

/-- Nothing that is checked against the scopes later on is allowed beyond what is granted. -/
theorem within_iff_checkScope (granted : List String) :
  Within ctx.scopes granted ↔ ∀ req, TieredAuthorizer.checkScope ctx req = .ok () →
    TieredAuthorizer.checkScope { ctx with scopes := granted } req = .ok ()
  := by
  constructor
  · intro within req checked
    rw [checkScope_iff] at checked ⊢
    intro scope needed
    apply within req.capability scope needed (checked scope needed)
  · intro checks capability scope needed mem
    have checked := checks ⟨none, "GET", "/", none, capability⟩
    rw [checkScope_iff, checkScope_iff] at checked
    refine checked ?_ scope needed
    intro scope' needed'
    cases needed.symm.trans needed'
    apply mem

/-- A delegate stays within its certificate exactly if its token asks for nothing else. -/
theorem delegate_within_iff (lawful : lib.Lawful) (presents : Presents lib req token header)
    (accepted : a.authorize lib clock req f = (.ok ctx, g)) {claims : Claims}
    (carried : lib.claims token = some claims) :
  (Within ctx.scopes (certifiedScopes lib header) ∧
    ∀ later, TieredAuthorizer.checkScope ctx later = .ok () →
      TieredAuthorizer.checkScope { ctx with scopes := certifiedScopes lib header } later =
        .ok ()) ↔
  Within claims.intoScopes (certifiedScopes lib header)
  := by
  obtain ⟨_, _, delegated⟩ := authorize_ok presents accepted
  obtain ⟨_, _, _, decoded, rfl⟩ := delegated.decoded
  cases carried.symm.trans (lawful.decodes decoded).1
  rw [← within_iff_checkScope, and_self_iff]

end Grants

/-! ### Until when a delegate is accepted -/

section Expiry

variable {a : TieredAuthorizer κ} {f g : Floor} {header : Header}

/-- A request, at any readings of the clock, or a rise of the floor that comes from elsewhere. -/
inductive FloorStep (a : TieredAuthorizer κ) (lib : Libraries κ) (f : Floor) : Floor → Prop
  | request (clock : Clock) (req : AccessRequest) : FloorStep a lib f
      (a.authorize lib clock req f).2
  | rises (secs : ℕ) : FloorStep a lib f { f with cell := f.cell.map (max · secs) }

theorem secs_le_map_max (f : Floor) (secs : ℕ) (sunk : List ℕ) :
  f.secs ≤ Floor.secs { cell := f.cell.map (max · secs), sunk }
  := by
  obtain ⟨cell, _⟩ := f
  cases cell with
  | none => apply le_refl
  | some => apply le_max_left

theorem keeps_orElse {ε : Type} {P : Floor → Prop} (x : Except ε α) (text : ε → String) :
  Keeps P (orElse x text)
  := by
  cases x with
  | ok => apply keeps_pure
  | error => apply keeps_fail

/-- No request lowers the floor. -/
theorem authorize_keeps (floor : ℕ) :
  Keeps (fun f => floor ≤ f.secs) (a.authorize lib clock req)
  := by
  refine keeps_ite (keeps_pure _) ?_
  refine keeps_bind (keeps_orElse _ _) fun token => ?_
  refine keeps_bind (keeps_orElse _ _) fun header => ?_
  refine keeps_ite (keeps_bind (keeps_ofOption _ _) fun pinnedRoot => ?_) ?_
  · refine keeps_bind (keeps_orElse _ _) fun chain => ?_
    refine keeps_bind keeps_get fun f => ?_
    refine keeps_bind (keeps_orElse _ _) fun authority => ?_
    refine keeps_bind (keeps_modify fun f low => low.trans (secs_le_map_max f _ _)) fun _ => ?_
    refine keeps_bind ?_ fun key => ?_
    · refine keeps_bind (keeps_orElse _ _) fun leaf => ?_
      refine keeps_bind (keeps_orElse _ _) fun spkiDer => ?_
      refine keeps_bind (keeps_orElse _ _) fun leafPub => ?_
      exact keeps_bind (keeps_orElse _ _) fun leafPem => keeps_orElse _ _
    refine keeps_bind (keeps_ofOption _ _) fun aud => ?_
    refine keeps_bind (keeps_orElse _ _) fun claims => ?_
    refine keeps_bind (keeps_orElse _ _) fun _ => ?_
    refine keeps_bind (keeps_orElse _ _) fun _ => ?_
    exact keeps_bind (keeps_orElse _ _) fun _ => keeps_pure _
  · refine keeps_bind (keeps_ofOption _ _) fun kid => ?_
    refine keeps_bind (keeps_ofOption _ _) fun issuer => ?_
    refine keeps_bind (keeps_orElse _ _) fun claims => ?_
    refine keeps_ite (keeps_fail _) ?_
    refine keeps_bind (keeps_orElse _ _) fun _ => ?_
    refine keeps_bind (keeps_orElse _ _) fun _ => ?_
    exact keeps_bind (keeps_orElse _ _) fun _ => keeps_pure _

theorem FloorStep.secs_le (step : FloorStep a lib f g) :
  f.secs ≤ g.secs
  := by
  cases step with
  | request => exact authorize_keeps f.secs f (le_refl _)
  | rises => apply secs_le_map_max

/-- The floor only rises. -/
theorem secs_le_of_run (run : Relation.ReflTransGen (FloorStep a lib) f g) :
  f.secs ≤ g.secs
  := by
  induction run with
  | refl => apply le_refl
  | tail _ step ih => apply ih.trans step.secs_le

/-- In every run, when a delegate is accepted, its leaf lasts until the clock and the floor, also
after the floor was raised, and the token until the reading of the library, up to the leeway; and
the leaf lasts until every floor before: once it has expired against the floor, no reading of the
clock makes it acceptable again. -/
theorem delegate_not_expired (lawful : lib.Lawful) {f₀ : Floor}
    (run : Relation.ReflTransGen (FloorStep a lib) f₀ f) (presents : Presents lib req token header)
    (accepted : a.authorize lib clock req f = (.ok ctx, g)) :
  ∃ leafDer intermediates leaf,
    TieredAuthorizer.chainDers lib header = .ok (leafDer :: intermediates) ∧
    lib.certificate leafDer = .ok leaf ∧ max clock.wall (max f.secs g.secs) ≤ leaf.notAfter ∧
    (∃ e, lib.exp token = some e ∧ clock.token ≤ e + lib.leeway) ∧ f₀.secs ≤ leaf.notAfter
  := by
  obtain ⟨leaf, authority, delegated⟩ := authorize_ok presents accepted
  obtain ⟨chain, ders, verified⟩ := delegated.verified
  obtain ⟨intermediates, rfl, _, path⟩ := verified.chain
  obtain ⟨_, _, _, decoded, -⟩ := delegated.decoded
  have lasting : max clock.wall f.secs ≤ leaf.notAfter := verified.lasting
  have window : leaf.notBefore ≤ leaf.notAfter := (lawful.window path verified.parsed).2
  have raised : g.secs ≤ leaf.notAfter := by
    rw [Floor.secs, delegated.ratcheted]
    cases cell : f.cell with
    | none => apply Nat.zero_le
    | some floor =>
      have low : floor ≤ leaf.notAfter := by
        have := (le_max_right _ _).trans lasting
        rwa [Floor.secs, cell] at this
      exact max_le low window
  refine ⟨authority.leafDer, intermediates, leaf, ders, verified.parsed, ?_, ?_, ?_⟩
  · exact max_le ((le_max_left _ _).trans lasting)
      (max_le ((le_max_right _ _).trans lasting) raised)
  · exact (lawful.decodes decoded).2 List.mem_cons_self
  · exact ((secs_le_of_run run).trans (le_max_right _ _)).trans lasting

end Expiry

/-! ### A workshop -/

namespace Workshop

/-- A delegate that may transfer updates. -/
def leaf : Certificate where
  notBefore := 100
  notAfter := 10000
  extensions := some [⟨DELEGATED_RIGHTS_OID, []⟩]

def signer : Certificate where
  notBefore := 0
  notAfter := 20000

def former : Certificate where
  notBefore := 0
  notAfter := 500

def certificate (der : List UInt8) : Except String Certificate :=
  if der = [1] then .ok leaf
  else if der = [2] then .ok signer
  else if der = [3] then .ok former
  else .error "malformed"

def validAt (now : ℕ) (der : List UInt8) : Bool :=
  match certificate der with
  | .ok cert => cert.notBefore ≤ now ∧ now ≤ cert.notAfter
  | .error _ => false

/-- A token that asks for what the leaf grants. -/
def modest : String := "component:* update:transfer"

/-- A token that asks for resets as well. -/
def greedy : String := "component:* update:transfer reset:execute"

/-- A token that lasts, of a delegate that the former signer has vouched for. -/
def lasting : String := "update:transfer component:*"

def header : Header where
  x5c := some ["leaf", "signer"]

def formerHeader : Header where
  x5c := some ["leaf", "former"]

def expiry (token : String) : ℕ :=
  if token = lasting then 5000 else 200

/-- Libraries for which a token is its scopes, with certificates that are verified one by one. -/
def libraries : Libraries Unit where
  decodeBase64 s := if s = "leaf" then .ok [1] else if s = "signer" then .ok [2] else .ok [3]
  pemCerts pem := [.ok pem]
  addRoot _ := .ok ()
  buildVerifier _ := .ok ()
  verifyClientCert _ leafDer intermediates now :=
    if (leafDer :: intermediates).all (validAt now) then .ok ()
      else .error "invalid peer certificate"
  certificate
  utf8String _ := some "update:transfer"
  spkiDer cert := .ok cert.publicKey
  ecKey := .ok
  ecPem _ := .ok "PEM"
  decodingKey _ := .ok ()
  decodeHeader token := .ok (if token = lasting then formerHeader else header)
  decode token _ _ now :=
    if now ≤ expiry token + 60 then .ok { sub := "tester", scope := some token }
    else .error "ExpiredSignature"
  claims token := some { sub := "tester", scope := some token }
  exp token := some (expiry token)
  leeway := 60
  canAccessComponent scopes component := "component:*" ∈ scopes ∨
  ("component:" ++ component) ∈ scopes

theorem lawful :
  libraries.Lawful
  where
  window {_ leafDer intermediates now leaf} verified parsed := by
    change (if (leafDer :: intermediates).all (validAt now) then _ else _) = _ at verified
    split at verified
    next valid =>
      have own := List.all_eq_true.mp valid leafDer List.mem_cons_self
      rw [validAt, show certificate leafDer = .ok leaf from parsed] at own
      simpa using own
    next => cases verified
  decodes {token _ _ now claims} decoded := by
    change (if now ≤ expiry token + 60 then _ else _) = _ at decoded
    split at decoded
    next early =>
      cases decoded
      exact ⟨rfl, fun _ => ⟨expiry token, rfl, early⟩⟩
    next => cases decoded

def device : TieredAuthorizer Unit where
  issuers := []
  pinnedRootPem := some [0]
  aud := some "device"

/-- A request to transfer an update, with a token that asks for some scopes. -/
def transfer (scopes : String) : AccessRequest where
  bearer := some ("Bearer " ++ scopes)
  method := "POST"
  path := "/vehicle/v1/components/vm1/files"
  component := some "vm1"
  capability := .updateTransfer

theorem presents_modest :
  Presents libraries (transfer modest) modest header
  := ⟨by decide +kernel, congrArg Except.ok (if_neg (by decide)), rfl⟩

/-- The floor of a device that was raised by a delegate, and then to a time at which the former
signer and most tokens have expired. -/
def late : Floor where
  cell := some 1000
  sunk := [100]

theorem run_late :
  Relation.ReflTransGen (FloorStep device libraries) { cell := some 50 } late
  := by
  have raised : (device.authorize libraries ⟨150, 150⟩ (transfer modest) { cell := some 50 }).2 =
      { cell := some 100, sunk := [100] } := by decide +kernel
  have requested : FloorStep device libraries { cell := some 50 }
    { cell := some 100, sunk := [100] } :=
    raised ▸ .request ⟨150, 150⟩ (transfer modest)
  exact .tail (.single requested) (.rises 1000)

def asked (token : String) : Ending String ClientContext × Floor :=
  device.authorize libraries ⟨0, 0⟩ (transfer token) late

end Workshop

open Workshop in
/-- The leaf grants the transfer of updates only. A token that also asks for resets is accepted for
a transfer, and the context of the request holds the scope of a reset. -/
theorem delegate_escalates :
  libraries.Lawful ∧ Presents libraries (transfer greedy) greedy header ∧
    certifiedScopes libraries header = ["update:transfer"] ∧
    ∃ ctx, (asked greedy).1 = .ok ctx ∧ "reset:execute" ∈ ctx.scopes ∧
      ¬Within ctx.scopes (certifiedScopes libraries header)
  := by
  refine ⟨lawful, ⟨by decide +kernel, congrArg Except.ok (if_neg (by decide)), rfl⟩,
    by decide +kernel, ?_⟩
  refine ⟨{ subject := "tester", scopes := ["component:*", "update:transfer", "reset:execute"] },
    ?_⟩
  decide +kernel

open Workshop in
/-- A token that asks for nothing else stays within the leaf. -/
theorem delegate_within :
  ∃ ctx, (asked modest).1 = .ok ctx ∧ Within ctx.scopes (certifiedScopes libraries header)
  := by
  have accepted : (asked modest).1 =
      .ok { subject := "tester", scopes := ["component:*", "update:transfer"] } := by decide +kernel
  refine ⟨_, accepted, ?_⟩
  have within : Within (Claims.intoScopes { sub := "tester", scope := some modest })
      (certifiedScopes libraries header) := by decide +kernel
  exact ((delegate_within_iff lawful presents_modest (Prod.ext accepted rfl) rfl).mpr within).1

open Workshop in
/-- The device knows that it is later than 1000. It accepts a token that has expired at 200, with a
chain that is in order, and a token that lasts, with a chain whose signer was valid until 500. -/
theorem expired_accepted :
  libraries.Lawful ∧ libraries.certificate [1] = .ok leaf ∧
  (Presents libraries (transfer modest) modest header ∧ (∃ ctx, (asked modest).1 = .ok ctx) ∧
    TieredAuthorizer.chainDers libraries header = .ok [[1], [2]] ∧
    libraries.certificate [2] = .ok signer ∧ max 0 late.secs ≤ min leaf.notAfter signer.notAfter ∧
    libraries.exp modest = some 200 ∧ 200 + libraries.leeway < max 0 late.secs) ∧
  (Presents libraries (transfer lasting) lasting formerHeader ∧
    (∃ ctx, (asked lasting).1 = .ok ctx) ∧
    TieredAuthorizer.chainDers libraries formerHeader = .ok [[1], [3]] ∧
    libraries.certificate [3] = .ok former ∧ former.notAfter < max 0 late.secs ∧
    libraries.exp lasting = some 5000 ∧ max 0 late.secs ≤ 5000)
  := by
  have accepted : (asked modest).1 =
      .ok { subject := "tester", scopes := ["component:*", "update:transfer"] } := by decide +kernel
  have accepted' : (asked lasting).1 =
      .ok { subject := "tester", scopes := ["update:transfer", "component:*"] } := by decide +kernel
  refine ⟨lawful, rfl, ⟨presents_modest, ⟨_, accepted⟩, rfl, rfl, ?_⟩, ?_⟩
  · decide
  · exact ⟨⟨by decide +kernel, rfl, rfl⟩, ⟨_, accepted'⟩, rfl, rfl, by decide⟩

open Workshop in
/-- A delegate has raised the floor before, and the clock has been set back. The leaf itself lasts,
from the time before the first request to the time after the last. -/
theorem leaf_lasts :
  ∃ leafDer intermediates leaf,
    TieredAuthorizer.chainDers libraries header = .ok (leafDer :: intermediates) ∧
    libraries.certificate leafDer = .ok leaf ∧
    max 0 (max late.secs (asked modest).2.secs) ≤ leaf.notAfter ∧
    (∃ e, libraries.exp modest = some e ∧ 0 ≤ e + libraries.leeway) ∧ 50 ≤ leaf.notAfter
  := by
  have accepted : (asked modest).1 =
      .ok { subject := "tester", scopes := ["component:*", "update:transfer"] } := by decide +kernel
  exact delegate_not_expired lawful run_late presents_modest (Prod.ext accepted rfl)

end Sovd.Authz
