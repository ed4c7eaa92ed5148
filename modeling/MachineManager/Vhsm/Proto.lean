import Mathlib.Tactic.Common

/-!
# The vHSM wire protocol

The operations a caller may ask of the virtual HSM, the permission bit each of them needs on the
handle it names, and the requests and responses that carry them. Numbers on the wire are little
endian.
-/

namespace Vhsm

/-- The operations of the protocol. -/
inductive Op
  | getRandom
  | keyGenerate
  | keyImport
  | keyDerive
  | keyDelete
  | encrypt
  | decrypt
  | macGenerate
  | macVerify
  | sign
  | verify
  | getHandleInfo
  | getPubkey
  | getCert
  | hello
  | auth
  | authOk
  | enroll
  | enrollAssisted
deriving DecidableEq

/-- The permission with a given number in the bit mask of a handle. -/
def permBit (i : UInt32) : UInt32 :=
  (1 : UInt32) <<< i

def permEncrypt : UInt32 := permBit 0

def permDecrypt : UInt32 := permBit 1

def permMacGen : UInt32 := permBit 2

def permMacVfy : UInt32 := permBit 3

def permSign : UInt32 := permBit 4

def permVerify : UInt32 := permBit 5

/-- Derive a key; host only. -/
def permDerive : UInt32 := permBit 6

/-- Delete the key; host only. -/
def permDelete : UInt32 := permBit 7

def permGetPubkey : UInt32 := permBit 8

def permGetCert : UInt32 := permBit 9

def permKeyGenerate : UInt32 := permBit 10

namespace Op

/-- The operation with a given code on the wire. -/
def fromU32 (v : UInt32) : Option Op :=
  if v = 0x0001 then some getRandom
  else if v = 0x0010 then some keyGenerate
  else if v = 0x0011 then some keyImport
  else if v = 0x0012 then some keyDerive
  else if v = 0x0013 then some keyDelete
  else if v = 0x0020 then some encrypt
  else if v = 0x0021 then some decrypt
  else if v = 0x0030 then some macGenerate
  else if v = 0x0031 then some macVerify
  else if v = 0x0040 then some sign
  else if v = 0x0041 then some verify
  else if v = 0x0050 then some getHandleInfo
  else if v = 0x0051 then some getPubkey
  else if v = 0x0052 then some getCert
  else if v = 0x00F0 then some hello
  else if v = 0x00F1 then some auth
  else if v = 0x00F2 then some authOk
  else if v = 0x00F3 then some enroll
  else if v = 0x00F4 then some enrollAssisted
  else none

/-- The operations that no guest may ask for. -/
def isHostOnly : Op → Bool
  | keyImport | keyDerive | keyDelete => true
  | _ => false

/-- The operations of the connection handshake. -/
def isHandshake : Op → Bool
  | hello | auth | authOk | enroll | enrollAssisted => true
  | _ => false

/-- The permission bit an operation needs on its handle. -/
def requiredPerm : Op → Option UInt32
  | encrypt => some permEncrypt
  | decrypt => some permDecrypt
  | macGenerate => some permMacGen
  | macVerify => some permMacVfy
  | sign => some permSign
  | verify => some permVerify
  | keyDerive => some permDerive
  | keyDelete => some permDelete
  | getPubkey => some permGetPubkey
  | getCert => some permGetCert
  | keyGenerate => some permKeyGenerate
  | getRandom | getHandleInfo | keyImport | hello | auth | authOk | enroll | enrollAssisted => none

/-- The name of an operation in a policy. -/
def canonicalName : Op → String
  | getRandom => "get-random"
  | keyGenerate => "key-generate"
  | encrypt => "encrypt"
  | decrypt => "decrypt"
  | macGenerate => "mac-generate"
  | macVerify => "mac-verify"
  | sign => "sign"
  | verify => "verify"
  | getHandleInfo => "get-handle-info"
  | getPubkey => "get-pubkey"
  | getCert => "get-cert"
  | keyImport => "key-import"
  | keyDerive => "key-derive"
  | keyDelete => "key-delete"
  | hello => "hello"
  | auth => "auth"
  | authOk => "auth-ok"
  | enroll => "enroll"
  | enrollAssisted => "enroll-assisted"

end Op

/-! ### Handles -/

/-- The handle that names nothing. -/
def handleInvalid : UInt32 := 0x0000

/-- The first of the handles that are allocated at run time. -/
def handleDynamicBase : UInt32 := 0x0100

/-- The handles reserved for keys of the keystore. -/
def handleIsWellKnown (h : UInt32) : Bool :=
  0x0001 ≤ h && h < handleDynamicBase

/-- The number of handles a table holds at most. -/
def maxHandles : Nat := 64

def labelLen : Nat := 32

/-- The most random bytes one request may ask for. -/
def maxRandom : Nat := 1024

/-! ### Requests and responses -/

/-- A request after its header was decoded. -/
structure Request where
  op : UInt32
  sessionId : UInt32
  payload : List UInt8
deriving DecidableEq

/-- The status of a response. -/
inductive StatusCode
  | ok
  | invalidHandle
  | permissionDeny
  | policyReject
  | hseError
  | invalidParam
  | noResource
  | storageError
  | cryptoError
  | internal
deriving DecidableEq

/-- A response to a request. -/
structure Response where
  op : UInt32
  sessionId : UInt32
  status : StatusCode
  payload : List UInt8
deriving DecidableEq

/-- The response to `req` that carries `payload`. -/
def Response.ok (req : Request) (payload : List UInt8) : Response :=
  { op := req.op, sessionId := req.sessionId, status := .ok, payload := payload }

/-- The response to `req` that only reports `status`. -/
def Response.err (req : Request) (status : StatusCode) : Response :=
  { op := req.op, sessionId := req.sessionId, status := status, payload := [] }

/-! ### Numbers on the wire -/

/-- The number in the four bytes at `off`; bytes past the end count as zero. -/
def u32FromLeBytes (bytes : List UInt8) (off : Nat) : UInt32 :=
  (bytes.getD off 0).toUInt32 ||| (bytes.getD (off + 1) 0).toUInt32 <<< 8 |||
    (bytes.getD (off + 2) 0).toUInt32 <<< 16 ||| (bytes.getD (off + 3) 0).toUInt32 <<< 24

def toLeBytes (v : UInt32) : List UInt8 :=
  [v.toUInt8, (v >>> 8).toUInt8, (v >>> 16).toUInt8, (v >>> 24).toUInt8]

end Vhsm
