import MachineManager.Lib.Asking

/-!
# Bootstrap tokens and armed enrolments

A guest without a certificate gets its first one with a token that was put into its firmware, or by
connecting from its own address after the host has armed its enrolment. Both stand in one file,
`bootstrap.yaml`. The daemon holds a copy of it in memory, consumes a token or an armed enrolment
there, and then writes the whole copy back. The host arms an enrolment by reading the file, changing
it and writing it back. Both write to `bootstrap.yaml.tmp` first and then rename it.

The daemon and the host are programs that put questions to the file system (`StateFileCall`).
-/

namespace Vhsm

/-- A token: its hash, and whether it was consumed, when, and for which certificate. -/
structure TokenEntry where
  sha256 : String
  consumed : Bool := false
  consumedAt : Option Nat := none
  boundCertThumbprint : Option String := none
deriving DecidableEq

/-- An armed enrolment. The number tells apart the calls that arm; no code reads it. -/
structure PendingEnrollment where
  armedAt : Nat
  ttlSecs : Option Nat := none
  number : Nat
deriving DecidableEq

/-- A guest that has enrolled, and the number of the armed enrolment that it consumed. -/
structure EnrolledRecord where
  consumedAt : Nat
  boundCertThumbprint : String
  number : Nat
deriving DecidableEq

/-- The contents of the file, by guest. The daemon holds the same in memory. -/
structure BootstrapState where
  entries : String → Option TokenEntry := fun _ => none
  pending : String → Option PendingEnrollment := fun _ => none
  enrolled : String → Option EnrolledRecord := fun _ => none

def hexDigit (n : Nat) : Char :=
  if n < 10 then Char.ofNat (48 + n) else Char.ofNat (87 + n)

/-- Bytes in lower-case hexadecimal digits. -/
def hexLower (bytes : List UInt8) : String :=
  String.ofList (bytes.flatMap fun b => [hexDigit (b.toNat / 16), hexDigit (b.toNat % 16)])

/-- How the consumption of a token ends. -/
inductive ConsumeOutcome
  | accepted
  | unknownVmId
  | tokenMismatch
  | alreadyConsumed
deriving DecidableEq

/-- How the consumption of an armed enrolment ends. -/
inductive PendingConsumeOutcome
  | accepted
  | notPending
  | expired
deriving DecidableEq

/-- The enrolment was armed too long ago. -/
def PendingEnrollment.isExpired (record : PendingEnrollment) (nowUnix : Nat) : Bool :=
  record.ttlSecs.any (· ≤ nowUnix - record.armedAt)

namespace BootstrapState

/-- Consume the token of a guest, at the time `clock`. -/
def consume (sha256 : List UInt8 → Vector UInt8 32) (state : BootstrapState) (vmId : String)
    (rawToken : List UInt8) (certThumbprint : Vector UInt8 32) (clock : Nat) :
    ConsumeOutcome × BootstrapState :=
  match state.entries vmId with
  | none => (.unknownVmId, state)
  | some entry =>
    if entry.consumed then (.alreadyConsumed, state)
    else if hexLower (sha256 rawToken).toList ≠ entry.sha256 then (.tokenMismatch, state)
    else
      let entry' :=
        { entry with
          consumed := true
          consumedAt := some clock
          boundCertThumbprint := some (hexLower certThumbprint.toList) }
      (.accepted, { state with entries := Function.update state.entries vmId (some entry') })

/-- Arm the enrolment of a guest, in place of one that was armed before. -/
def armPending (state : BootstrapState) (vmId : String) (record : PendingEnrollment) :
    BootstrapState :=
  { state with pending := Function.update state.pending vmId (some record) }

theorem pending_armPending (state : BootstrapState) (vmId : String) (record : PendingEnrollment) :
  (state.armPending vmId record).pending = Function.update state.pending vmId (some record)
  := rfl

/-- Consume the armed enrolment of a guest. -/
def consumePending (state : BootstrapState) (vmId : String) (nowUnix : Nat)
    (certThumbprint : Vector UInt8 32) : PendingConsumeOutcome × BootstrapState :=
  match state.pending vmId with
  | none => (.notPending, state)
  | some record =>
    if record.isExpired nowUnix then (.expired, state)
    else
      let enrolled : EnrolledRecord :=
        { consumedAt := nowUnix
          boundCertThumbprint := hexLower certThumbprint.toList
          number := record.number }
      (.accepted,
        { state with
          pending := Function.update state.pending vmId none
          enrolled := Function.update state.enrolled vmId (some enrolled) })

end BootstrapState

/-! ### The file -/

/-- What is asked of the file system: read the file, write the temporary file, rename it. -/
inductive StateFileCall
  | read
  | stage (doc : BootstrapState)
  | publish

/-- The answers: the contents, unless they cannot be read, or whether a write succeeded. A file that
does not exist is read as an empty one. -/
abbrev StateFileCall.Answer : StateFileCall → Type
  | read => Option BootstrapState
  | stage _ | publish => Bool

abbrev OverFile (α : Type) : Type :=
  Asking StateFileCall StateFileCall.Answer α

def readState : OverFile (Option BootstrapState) :=
  Asking.question StateFileCall.read

def stageState (doc : BootstrapState) : OverFile Bool :=
  Asking.question (StateFileCall.stage doc)

def publishState : OverFile Bool :=
  Asking.question StateFileCall.publish

/-- Write `doc` to the temporary file and rename it; false if one of the two fails. -/
def writeState (doc : BootstrapState) : OverFile Bool := do
  match ← stageState doc with
  | true => publishState
  | false => pure false

/-- Arm the enrolment of a guest, on the side of the host. -/
def armEnrollment (vmId : String) (record : PendingEnrollment) : OverFile Bool := do
  match ← readState with
  | none => pure false
  | some doc => writeState (doc.armPending vmId record)

end Vhsm
