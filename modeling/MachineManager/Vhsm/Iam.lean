import MachineManager.Vhsm.Proto

/-!
# The access policy of the vHSM

A policy is a list of statements. A statement covers a request when one of its selectors matches the
caller, its resources match the key, and its operations include the one that is asked for. The first
statement that covers a request allows it; a request that none covers is denied. The resources are
left as they were read from the policy file, and each service reads its own part of them.
-/

namespace Vhsm

/-- The identity of a caller. -/
inductive Principal
  | vm (vmId : String) (certThumbprint : Option (List UInt8))
  | container (vmId «namespace» container : String) (imageDigest : Option String)
  | tester (idp sub : String) (role : Option String) (scope : List String)
  | device (serial : String)
  | anonymous

/-- A pattern for the namespace of a container. -/
inductive NamespacePattern
  | any
  | startsWith (s : String)
  | exact (s : String)

/-- Whether a namespace fits the pattern. -/
def NamespacePattern.matches : NamespacePattern → String → Bool
  | any, _ => true
  | startsWith p, ns => ns.startsWith p
  | exact s, ns => ns == s

/-- A selector of callers; the fields left out match anything. -/
inductive PrincipalSelector
  | any
  | vm (vmId : String)
  | container (vmId : String) (pattern : Option NamespacePattern)
      (container imageDigest : Option String)
  | tester (idp sub role : Option String)
  | device (serial : String)
  | anonymous

/-- Whether the selector matches a caller. A selector never matches a caller of another kind. -/
def PrincipalSelector.matches : PrincipalSelector → Principal → Bool
  | any, _ => true
  | vm w, .vm g _ => w == g || w == "*"
  | container wVm wNs wC wImg, .container gVm gNs gC gImg =>
    (wVm == gVm || wVm == "*") && wNs.all (·.matches gNs) && wC.all (· == gC) &&
      wImg.all (gImg == some ·)
  | tester wIdp wSub wRole, .tester gIdp gSub gRole _ =>
    wIdp.all (· == gIdp) && wSub.all (· == gSub) && wRole.all (gRole == some ·)
  | device w, .device g => w == g || w == "*"
  | anonymous, .anonymous => true
  | _, _ => false

/-! ### Statements -/

/-- A value of the policy file. -/
inductive Yaml
  | null
  | bool (b : Bool)
  | number (n : String)
  | string (s : String)
  | sequence (items : List Yaml)
  | mapping (entries : List (Yaml × Yaml))
  | tagged (tag : String) (value : Yaml)

namespace Yaml

/-- The value under its tags. -/
def untag : Yaml → Yaml
  | tagged _ value => value.untag
  | value => value

def asStr (value : Yaml) : Option String :=
  match value.untag with
  | string s => some s
  | _ => none

/-- The items of a value that is a sequence. -/
def asSequence (value : Yaml) : Option (List Yaml) :=
  match value.untag with
  | sequence items => some items
  | _ => none

/-- The value under the text `key`, in a value that is a mapping. -/
def get (value : Yaml) (key : String) : Option Yaml :=
  match value.untag with
  | mapping entries =>
    (entries.find? fun entry =>
      match entry.1 with
      | string s => s == key
      | _ => false).map (·.2)
  | _ => none

end Yaml

/-- The operations a statement is about. -/
inductive OpSelector
  | any
  | exact (names : List String)

/-- Whether the selector includes the operation with the given name. -/
def OpSelector.matches : OpSelector → String → Bool
  | any, _ => true
  | exact names, op => names.contains op

/-- One row of a policy. -/
structure Statement where
  principals : List PrincipalSelector
  resources : Yaml
  ops : OpSelector

/-- The outcome of an evaluation: allowed by the statement with a given index, or denied. -/
inductive Decision
  | allow (matchedStatement : Nat)
  | deny
deriving DecidableEq

/-- The first statement that covers the request decides; `resourcesMatch` is how the service reads
the resources. -/
def evaluate (statements : List Statement) (principal : Principal)
    (resourcesMatch : Yaml → Bool) (op : String) : Decision :=
  match statements.findIdx? fun stmt =>
      stmt.principals.any (·.matches principal) && resourcesMatch stmt.resources &&
        stmt.ops.matches op with
  | some i => .allow i
  | none => .deny

/-! ### The policy of the vHSM -/

/-- The handles a statement names in `hsm.handles`, against the id of a key. -/
def hsmResourceMatches (handleKeyId : String) (resources : Yaml) : Bool :=
  match resources.get "hsm" with
  | none => false
  | some hsm =>
    match (hsm.get "handles").bind Yaml.asSequence with
    | none => false
    | some handles =>
      (handles.filterMap Yaml.asStr).any fun h => h == "*" || h == handleKeyId

/-- A policy for the keys of the vHSM. -/
structure IamPolicy where
  statements : List Statement

/-- Whether the policy lets the caller with identity `principal` use the key for `op`. -/
def IamPolicy.evaluate (iam : IamPolicy) (principal : String) (handleKeyId : String) (op : Op) :
    Decision :=
  Vhsm.evaluate iam.statements (.vm principal none) (hsmResourceMatches handleKeyId)
    op.canonicalName

/-- The policy covers the request with one of its statements. -/
def IamPolicy.Allows (iam : IamPolicy) (principal : String) (handleKeyId : String) (op : Op) :
    Prop :=
  ∃ stmt ∈ iam.statements, stmt.principals.any (·.matches (.vm principal none)) ∧
      hsmResourceMatches handleKeyId stmt.resources ∧ stmt.ops.matches op.canonicalName

/-- The evaluation denies exactly what no statement covers. -/
theorem IamPolicy.evaluate_ne_deny_iff (iam : IamPolicy) (principal : String)
    (handleKeyId : String) (op : Op) :
  iam.evaluate principal handleKeyId op ≠ .deny ↔ iam.Allows principal handleKeyId op
  := by
  unfold IamPolicy.evaluate Vhsm.evaluate IamPolicy.Allows
  split
  next i found =>
    obtain ⟨inside, covers, -⟩ := List.findIdx?_eq_some_iff_getElem.mp found
    simp only [Bool.and_eq_true] at covers
    constructor
    · intro _
      use iam.statements[i], List.getElem_mem inside, covers.1.1, covers.1.2, covers.2
    · intro _
      nofun
  next missing =>
    constructor
    · intro refused
      exact absurd rfl refused
    · rintro ⟨stmt, listed, principal_matches, resources_match, op_matches⟩
      have uncovered := List.findIdx?_eq_none_iff.mp missing stmt listed
      rw [principal_matches, resources_match, op_matches] at uncovered
      cases uncovered

end Vhsm
