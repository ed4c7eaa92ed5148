import Mathlib.Algebra.Order.Ring.Int
import MachineManager.Lib.Call
import MachineManager.Vhsm.Proto

/-!
# Guest certificates

A guest is identified by a token that the device signed: a map of claims under a signature. It names
the guest (`sub`) and holds the key that the guest has to prove possession of (`cnf`). `validate` is
what the daemon checks when a guest presents its token, and `mintCwt` makes one.

The formats and the cryptography are those of libraries (`CertLibraries`). Nothing is assumed of
them here.
-/

namespace Vhsm

/-- Why a handshake fails. -/
inductive AuthFailReason
  | badCertSignature
  | certExpired
  | wrongAudience
  | unknownPrincipal
  | badProofSignature
  | badBootstrapToken
  | tokenAlreadyConsumed
  | protocolTooOld
  | invalidParam
deriving DecidableEq

def AuthFailReason.code : AuthFailReason → UInt16
  | badCertSignature => 0x0001
  | certExpired => 0x0002
  | wrongAudience => 0x0003
  | unknownPrincipal => 0x0004
  | badProofSignature => 0x0005
  | badBootstrapToken => 0x0006
  | tokenAlreadyConsumed => 0x0007
  | protocolTooOld => 0x0008
  | invalidParam => 0x0009

/-! ### Claims -/

/-- A decoded value, as far as claims use it. -/
inductive CborValue
  | integer (n : Int)
  | bytes (b : List UInt8)
  | text (s : String)
  | map (entries : List (CborValue × CborValue))
  | other

def vhsmAudience : String := "vhsm-ssd"

namespace Claim

def iss : Int := 1
def sub : Int := 2
def aud : Int := 3
def exp : Int := 4
def nbf : Int := 5
def iat : Int := 6
def cti : Int := 7
def cnf : Int := -65537

end Claim

namespace CoseKey

def kty : Int := 1
def alg : Int := 3
def crv : Int := -1
def x : Int := -2
def y : Int := -3

/-- The key type of points on a curve. -/
def ktyEc2 : Int := 2

def es256 : Int := -7

def p256 : Int := 1

end CoseKey

def matchesInt (value : CborValue) (target : Int) : Bool :=
  match value with
  | .integer n => n == target
  | _ => false

/-- The first entry under an integer label whose value is of the kind that `read` reads. -/
def readEntry {α : Type} (entries : List (CborValue × CborValue)) (key : Int)
    (read : CborValue → Option α) : Option α :=
  entries.findSome? fun entry => if matchesInt entry.1 key then read entry.2 else none

/-- A claim that is a text. -/
def readText (entries : List (CborValue × CborValue)) (key : Int) : Option String :=
  readEntry entries key fun
    | .text s => some s
    | _ => none

/-- A claim that is a number of 64 bits. -/
def readU64Claim (entries : List (CborValue × CborValue)) (key : Int) : Option Nat :=
  readEntry entries key fun
    | .integer n => if 0 ≤ n ∧ n < 2 ^ 64 then some n.toNat else none
    | _ => none

/-- An entry that is an integer, cut to 64 bits. -/
def readIntMapVal (entries : List (CborValue × CborValue)) (key : Int) : Option Int :=
  readEntry entries key fun
    | .integer n => some (n.bmod (2 ^ 64))
    | _ => none

def readBytesMapVal (entries : List (CborValue × CborValue)) (key : Int) : Option (List UInt8) :=
  readEntry entries key fun
    | .bytes b => some b
    | _ => none

def findMap (entries : List (CborValue × CborValue)) (key : Int) :
    Option (List (CborValue × CborValue)) :=
  match entries.find? fun entry => matchesInt entry.1 key with
  | some (_, .map inner) => some inner
  | _ => none

/-- The key in the `cnf` claim, as an uncompressed point. The algorithm may be left out. -/
def extractCnfEc2Pub (claims : List (CborValue × CborValue)) : Option (List UInt8) := do
  let cnf ← findMap claims Claim.cnf
  let key ← findMap cnf 1
  let kty ← readIntMapVal key CoseKey.kty
  guard (kty = CoseKey.ktyEc2)
  let crv ← readIntMapVal key CoseKey.crv
  guard (crv = CoseKey.p256)
  guard ((readIntMapVal key CoseKey.alg).all (· = CoseKey.es256))
  let x ← readBytesMapVal key CoseKey.x
  let y ← readBytesMapVal key CoseKey.y
  guard (x.length = 32 ∧ y.length = 32)
  pure (0x04 :: x ++ y)

/-! ### The libraries -/

/-- A signed message: its payload, which may be missing, the signature, and the bytes under it. -/
structure CoseSign1 where
  payload : Option (List UInt8)
  signature : List UInt8
  tbsData : List UInt8

/-- The libraries for formats, hashes and signatures, with keys in `κ` and signatures in `ς`. -/
structure CertLibraries (κ ς : Type) where
  coseFromSlice : List UInt8 → Option CoseSign1
  coseToVec : List UInt8 → (List UInt8 → List UInt8) → Option (List UInt8)
  cborFromReader : List UInt8 → Option CborValue
  cborIntoWriter : CborValue → Option (List UInt8)
  verifyingKey : List UInt8 → Option κ
  signatureFromSlice : List UInt8 → Option ς
  verify : κ → List UInt8 → ς → Bool
  sha256 : List UInt8 → Vector UInt8 32

section Libraries

variable {κ ς : Type} (lib : CertLibraries κ ς)

/-- The key that an uncompressed point stands for. -/
def parseP256Pub (bytes : List UInt8) : Option κ :=
  if bytes.length = 65 ∧ bytes.head? = some 0x04 then lib.verifyingKey bytes else none

/-- The signature bytes are a signature of the message under the key. -/
def verifyBytes (key : κ) (message signature : List UInt8) : Bool :=
  (lib.signatureFromSlice signature).any (lib.verify key message)

/-! ### Validation -/

/-- Whole seconds since the epoch; there are none before it. -/
def unixSeconds (now : Int) : Option Nat :=
  if now < 0 then none else some now.toNat

/-- What is known of a certificate that was accepted. -/
structure ParsedCert where
  subject : String
  issuer : String
  expUnix : Nat
  cnfPubkey : List UInt8
  thumbprint : Vector UInt8 32
deriving DecidableEq

/-- The value of `o`, or the failure `reason`. -/
def required {α : Type} (o : Option α) (reason : AuthFailReason) : Except AuthFailReason α :=
  match o with
  | some a => .ok a
  | none => .error reason

def check (condition : Bool) (reason : AuthFailReason) : Except AuthFailReason Unit :=
  if condition then .ok () else .error reason

/-- The claims of a certificate whose signature is that of the device. -/
def signedClaims (cwt ecuSigningPub : List UInt8) :
    Except AuthFailReason (List (CborValue × CborValue)) := do
  let cose ← required (lib.coseFromSlice cwt) .invalidParam
  let key ← required (parseP256Pub lib ecuSigningPub) .invalidParam
  check (verifyBytes lib key cose.tbsData cose.signature) .badCertSignature
  let payload ← required cose.payload .invalidParam
  match lib.cborFromReader payload with
  | some (.map claims) => pure claims
  | _ => throw .invalidParam

/-- The claims are for this daemon and valid at `now`; returns when they expire. -/
def checkClaims (claims : List (CborValue × CborValue)) (now : Int) :
    Except AuthFailReason Nat := do
  let aud ← required (readText claims Claim.aud) .wrongAudience
  check (aud = vhsmAudience) .wrongAudience
  let exp ← required (readU64Claim claims Claim.exp) .certExpired
  let nbf ← required (readU64Claim claims Claim.nbf) .certExpired
  let nowUnix ← required (unixSeconds now) .certExpired
  check (nbf ≤ nowUnix ∧ nowUnix < exp) .certExpired
  pure exp

/-- The validation of a certificate under the key of the device, at `now`. -/
def validate (cwt ecuSigningPub : List UInt8) (now : Int) : Except AuthFailReason ParsedCert := do
  let claims ← signedClaims lib cwt ecuSigningPub
  let exp ← checkClaims claims now
  let subject ← required (readText claims Claim.sub) .invalidParam
  check (subject ≠ "") .invalidParam
  let issuer := (readText claims Claim.iss).getD ""
  let cnfPubkey ← required (extractCnfEc2Pub claims) .invalidParam
  pure { subject, issuer, expUnix := exp, cnfPubkey, thumbprint := lib.sha256 cwt }

variable {reason : AuthFailReason} {cwt ecuSigningPub : List UInt8} {now : Int} {cert : ParsedCert}

/-- A value that is required was there. -/
theorem ok_of_required_bind {α β : Type} {o : Option α} {f : α → Except AuthFailReason β} {b : β}
    (h : (required o reason >>= f) = .ok b) :
  ∃ a, o = some a ∧ f a = .ok b
  := by
  cases o with
  | none => cases h
  | some a => exact ⟨a, rfl, h⟩

/-- A condition that is checked holds. -/
theorem ok_of_check_bind {β : Type} {condition : Bool} {f : Unit → Except AuthFailReason β} {b : β}
    (h : (check condition reason >>= f) = .ok b) :
  condition = true ∧ f () = .ok b
  := by
  cases condition with
  | false => cases h
  | true => exact ⟨rfl, h⟩

variable {lib}

section

variable (h : validate lib cwt ecuSigningPub now = .ok cert)
include h

/-- A certificate that was accepted names a guest, and its key stands in its claims. -/
theorem validate_eq_ok :
  ∃ claims, signedClaims lib cwt ecuSigningPub = .ok claims ∧
    extractCnfEc2Pub claims = some cert.cnfPubkey ∧ cert.subject ≠ ""
  := by
  obtain ⟨claims, signed, h⟩ := Except.ok_of_bind h
  obtain ⟨_, -, h⟩ := Except.ok_of_bind h
  obtain ⟨_, -, h⟩ := ok_of_required_bind h
  obtain ⟨named, h⟩ := ok_of_check_bind h
  obtain ⟨_, cnf, h⟩ := ok_of_required_bind h
  cases h
  exact ⟨claims, signed, cnf, of_decide_eq_true named⟩

/-- The key of a certificate does not depend on when the certificate is validated. -/
theorem cnfPubkey_unique {now' : Int} {cert' : ParsedCert}
    (h' : validate lib cwt ecuSigningPub now' = .ok cert') :
  cert.cnfPubkey = cert'.cnfPubkey
  := by
  obtain ⟨claims, signed, cnf, -⟩ := validate_eq_ok h
  obtain ⟨claims', signed', cnf', -⟩ := validate_eq_ok h'
  have same : claims = claims' := Except.ok.inj (signed.symm.trans signed')
  apply Option.some.inj
  rw [← cnf, ← cnf', same]

end

variable (lib)

/-! ### Minting -/

def mintClaims (subject issuer : String) (x y : List UInt8) (iat exp : Nat)
    (cti : Vector UInt8 16) : List (CborValue × CborValue) :=
  let key :=
    [(.integer CoseKey.kty, .integer CoseKey.ktyEc2),
      (.integer CoseKey.alg, .integer CoseKey.es256), (.integer CoseKey.crv, .integer CoseKey.p256),
      (.integer CoseKey.x, .bytes x), (.integer CoseKey.y, .bytes y)]
  [(.integer Claim.iss, .text issuer), (.integer Claim.sub, .text subject),
    (.integer Claim.aud, .text vhsmAudience), (.integer Claim.exp, .integer exp),
    (.integer Claim.nbf, .integer iat), (.integer Claim.iat, .integer iat),
    (.integer Claim.cti, .bytes cti.toList), (.integer Claim.cnf, .map [(.integer 1, .map key)])]

/-- A certificate for a guest, signed with `sign`. -/
def mintCwt (sign : List UInt8 → List UInt8) (subject issuer : String) (x y : List UInt8)
    (iat exp : Nat) (cti : Vector UInt8 16) : Option (List UInt8) := do
  let payload ← lib.cborIntoWriter (.map (mintClaims subject issuer x y iat exp cti))
  lib.coseToVec payload sign

end Libraries

end Vhsm
