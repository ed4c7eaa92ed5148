import MachineManager.Lib.Asking
import MachineManager.Vhsm.HandleTable
import MachineManager.Vhsm.Iam

/-!
# Dispatch of requests

How the daemon serves one request of a caller whose identity is established. The request passes the
access policy, unless it names a dynamic handle; the handle is resolved for the caller, the
permissions of its entry are checked, and the crypto provider is asked to do the work. The provider
is the environment of the program (`Asking`), and nothing is assumed of its answers.
-/

namespace Vhsm

/-- The errors of the crypto provider that the daemon tells apart. -/
inductive HsmError
  | notSupported
  | keyNotFound
  | other
deriving DecidableEq

/-- What the crypto provider may be asked. -/
inductive CryptoCall
  | random (len : Nat)
  | generateKey (handle algorithm : UInt32)
  | sign (handle : UInt32) (data : List UInt8)
  | verify (handle : UInt32) (data signature : List UInt8)
  | encrypt (handle : UInt32) (plaintext : List UInt8)
  | decrypt (handle : UInt32) (ciphertext : List UInt8)
  | macGenerate (handle : UInt32) (data : List UInt8)
  | macVerify (handle : UInt32) (data mac : List UInt8)
  | getPublicKeyDer (handle : UInt32)
  | getCertificateDer (handle : UInt32)
deriving DecidableEq

namespace CryptoCall

abbrev Answer : CryptoCall → Type
  | verify .. | macVerify .. => Except HsmError Bool
  | _ => Except HsmError (List UInt8)

/-- The handle whose key a call uses. A call for random bytes uses none, and the generation of a key
makes the key of a new handle. -/
def uses : CryptoCall → Option UInt32
  | random _ | generateKey _ _ => none
  | sign h _ | verify h _ _ | encrypt h _ | decrypt h _ | macGenerate h _ | macVerify h _ _
  | getPublicKeyDer h | getCertificateDer h => some h

end CryptoCall

/-- A program that asks the crypto provider. -/
abbrev Crypto (α : Type) : Type :=
  Asking CryptoCall CryptoCall.Answer α

/-- The response to `req` that carries the bytes of an answer, or reports a failure. -/
def Response.ofBytes (req : Request) : Except HsmError (List UInt8) → Response
  | .ok bytes => .ok req bytes
  | .error _ => .err req .cryptoError

/-- The response to `req` that reports whether a check succeeded. -/
def Response.ofCheck (req : Request) : Except HsmError Bool → Response
  | .ok true => .ok req []
  | .ok false | .error _ => .err req .cryptoError

/-- The response to `req` that carries an object of a key, after its length. -/
def Response.ofObject (req : Request) : Except HsmError (List UInt8) → Response
  | .ok object => .ok req (toLeBytes (.ofNat object.length) ++ object)
  | .error .keyNotFound => .err req .invalidHandle
  | .error _ => .err req .internal

/-! ### The operations -/

/-- The identity of the caller, as the transport established it. -/
structure CallerId where
  vmId : String
deriving DecidableEq

def handleGetRandom (req : Request) : Crypto Response :=
  if req.payload.length < 4 then
    pure (.err req .invalidParam)
  else
    let count := (u32FromLeBytes req.payload 0).toNat
    if count = 0 ∨ maxRandom < count then
      pure (.err req .invalidParam)
    else do
      match ← Asking.question (CryptoCall.random count) with
      | .ok bytes => pure (.ok req bytes)
      | .error _ => pure (.err req .internal)

/-- A new key under a new handle, which belongs to the caller. The handle is allocated first, and
stays allocated when the provider fails to make the key. -/
def handleKeyGenerate (req : Request) (caller : CallerId) (table : HandleTable) :
    Crypto (Response × HandleTable) :=
  if req.payload.length < 44 then
    pure (.err req .invalidParam, table)
  else
    let algorithm := u32FromLeBytes req.payload 0
    let permittedOps := u32FromLeBytes req.payload 4
    let persistent := req.payload.getD 8 0 != 0
    let label := (req.payload.drop 12).take labelLen
    let keyId := "gen-" ++ caller.vmId ++ "-" ++ toString table.entries.length
    match table.allocate keyId algorithm permittedOps caller.vmId persistent label with
    | none => pure (.err req .noResource, table)
    | some (handle, table') => do
      match ← Asking.question (CryptoCall.generateKey handle algorithm) with
      | .ok pubkey =>
        pure (.ok req (toLeBytes handle ++ toLeBytes (.ofNat pubkey.length) ++ pubkey), table')
      | .error .notSupported => pure (.err req .invalidParam, table')
      | .error _ => pure (.err req .internal, table')

/-- Resolve the handle in the first four bytes of the payload for the caller, and go on with its
entry. -/
def withHandle (minLen : Nat) (req : Request) (caller : CallerId) (table : HandleTable)
    (serve : UInt32 → HandleEntry → Crypto Response) : Crypto Response :=
  if req.payload.length < minLen then
    pure (.err req .invalidParam)
  else
    let handle := u32FromLeBytes req.payload 0
    match table.resolve handle caller.vmId with
    | none => pure (.err req .invalidHandle)
    | some entry => serve handle entry

/-- Go on if the entry has the permission. -/
def withPerm (req : Request) (entry : HandleEntry) (required : UInt32)
    (serve : Crypto Response) : Crypto Response :=
  if entry.permittedOps &&& required = 0 then pure (.err req .permissionDeny) else serve

/-- Ask the provider for an operation on the data after the handle. -/
def askForOperation (req : Request) (op : Op) (handle : UInt32) : Crypto Response :=
  let data := req.payload.drop 4
  match op with
  | .sign => do
    let answer ← Asking.question (CryptoCall.sign handle data)
    pure (.ofBytes req answer)
  | .encrypt => do
    let answer ← Asking.question (CryptoCall.encrypt handle data)
    pure (.ofBytes req answer)
  | .decrypt => do
    let answer ← Asking.question (CryptoCall.decrypt handle data)
    pure (.ofBytes req answer)
  | .macGenerate => do
    let answer ← Asking.question (CryptoCall.macGenerate handle data)
    pure (.ofBytes req answer)
  | .macVerify =>
    let macLen := (u32FromLeBytes data 0).toNat
    if data.length < 4 ∨ data.length < 4 + macLen then
      pure (.err req .invalidParam)
    else do
      let mac := (data.drop 4).take macLen
      let answer ← Asking.question (CryptoCall.macVerify handle (data.drop (4 + macLen)) mac)
      pure (.ofCheck req answer)
  | _ => pure (.err req .invalidParam)

/-- The operations on data under the key of a handle. -/
def handleCryptoWithHandle (req : Request) (op : Op) (caller : CallerId) (table : HandleTable) :
    Crypto Response :=
  withHandle 4 req caller table fun handle entry =>
    match op.requiredPerm with
    | some required => withPerm req entry required (askForOperation req op handle)
    | none => askForOperation req op handle

/-- The check of a signature: the payload holds the handle, the signature and the hash, each of the
last two after its length. -/
def handleVerify (req : Request) (caller : CallerId) (table : HandleTable) : Crypto Response :=
  withHandle 12 req caller table fun handle entry =>
    withPerm req entry permVerify <|
      let rest := req.payload.drop 4
      let sigLen := (u32FromLeBytes rest 0).toNat
      if rest.length < 4 ∨ rest.length < 4 + sigLen + 4 then
        pure (.err req .invalidParam)
      else
        let hashStart := 4 + sigLen
        let hashLen := (u32FromLeBytes rest hashStart).toNat
        if rest.length < hashStart + 4 + hashLen then
          pure (.err req .invalidParam)
        else do
          let signature := (rest.drop 4).take sigLen
          let hash := (rest.drop (hashStart + 4)).take hashLen
          let answer ← Asking.question (CryptoCall.verify handle hash signature)
          pure (.ofCheck req answer)

/-- What the table says about a handle; the provider is not asked. -/
def handleGetHandleInfo (req : Request) (caller : CallerId) (table : HandleTable) :
    Crypto Response :=
  withHandle 4 req caller table fun _ entry =>
    pure (.ok req
      (toLeBytes entry.handle ++ toLeBytes entry.algorithm ++ toLeBytes entry.permittedOps ++
        [if entry.persistent then 1 else 0] ++ [0, 0, 0] ++ entry.label))

def handleGetPubkey (req : Request) (caller : CallerId) (table : HandleTable) : Crypto Response :=
  withHandle 4 req caller table fun handle entry =>
    withPerm req entry permGetPubkey do
      let answer ← Asking.question (CryptoCall.getPublicKeyDer handle)
      pure (.ofObject req answer)

def handleGetCert (req : Request) (caller : CallerId) (table : HandleTable) : Crypto Response :=
  withHandle 4 req caller table fun handle entry =>
    withPerm req entry permGetCert do
      let answer ← Asking.question (CryptoCall.getCertificateDer handle)
      pure (.ofObject req answer)

/-! ### Dispatch -/

/-- What the access policy made of a request, for the audit log. -/
inductive AuthzOutcome
  | allow (matchedStatement : Nat)
  | bypass
  | deny
deriving DecidableEq

/-- The outcome for the audit log. -/
def decisionToOutcome : Decision → AuthzOutcome
  | .allow i => .allow i
  | .deny => .deny

/-- The name under which the policy speaks of operations that are about no key. -/
def systemHandleName : String := "system"

/-- The handle in the first four bytes of the payload. -/
def peekHandle (req : Request) : Option UInt32 :=
  if req.payload.length < 4 then none else some (u32FromLeBytes req.payload 0)

/-- What the policy says of a request. Dynamic handles are not its concern: they are resolved for
their owner only. -/
def authorise (req : Request) (op : Op) (caller : CallerId) (table : HandleTable)
    (iam : IamPolicy) : AuthzOutcome :=
  match op with
  | .getRandom | .keyGenerate =>
    decisionToOutcome (iam.evaluate caller.vmId systemHandleName op)
  | _ =>
    let handleId := (peekHandle req).getD 0
    if handleDynamicBase ≤ handleId then .bypass
    else
      let handleName := ((table.get handleId).map (·.keyId)).getD "<unknown>"
      decisionToOutcome (iam.evaluate caller.vmId handleName op)

/-- A handler that leaves the table as it is. -/
def keepingTable (table : HandleTable) (handler : Crypto Response) :
    Crypto (Response × HandleTable) := do
  let response ← handler
  pure (response, table)

/-- The handler of an operation that passed the policy. The host-only and the handshake operations
are turned away before. -/
def dispatch (req : Request) (op : Op) (caller : CallerId) (table : HandleTable) :
    Crypto (Response × HandleTable) :=
  match op with
  | .keyGenerate => handleKeyGenerate req caller table
  | .getRandom => keepingTable table (handleGetRandom req)
  | .encrypt => keepingTable table (handleCryptoWithHandle req op caller table)
  | .decrypt => keepingTable table (handleCryptoWithHandle req op caller table)
  | .macGenerate => keepingTable table (handleCryptoWithHandle req op caller table)
  | .macVerify => keepingTable table (handleCryptoWithHandle req op caller table)
  | .sign => keepingTable table (handleCryptoWithHandle req op caller table)
  | .verify => keepingTable table (handleVerify req caller table)
  | .getHandleInfo => keepingTable table (handleGetHandleInfo req caller table)
  | .getPubkey => keepingTable table (handleGetPubkey req caller table)
  | .getCert => keepingTable table (handleGetCert req caller table)
  | .keyImport | .keyDerive | .keyDelete => pure (.err req .policyReject, table)
  | .hello | .auth | .authOk | .enroll | .enrollAssisted => pure (.err req .invalidParam, table)

/-- The service of one request: the response, what the policy made of it, and the table
afterwards. -/
def handleRequest (req : Request) (caller : CallerId) (table : HandleTable) (iam : IamPolicy) :
    Crypto (Response × AuthzOutcome × HandleTable) :=
  match Op.fromU32 req.op with
  | none => pure (.err req .invalidParam, .bypass, table)
  | some op =>
    if op.isHostOnly then pure (.err req .policyReject, .bypass, table)
    else if op.isHandshake then pure (.err req .invalidParam, .bypass, table)
    else
      match authorise req op caller table iam with
      | .deny => pure (.err req .policyReject, .deny, table)
      | outcome => do
        let (response, table') ← dispatch req op caller table
        pure (response, outcome, table')

end Vhsm
