/-
  Subject:   Control commands: what an operator asks for, and the checks before it is done.

  A command carries the revision its operator was looking at, and a key that stands for the
  intent: where the request brings none, the digest of deployment, operation, target and
  revision.
-/
import ContextLock.Js.Digest
import ContextLock.Js.Stringify

namespace ContextLock.Control

open Js

/-! ## 1. Operations and capabilities -/

inductive OperatorCapability where
  | VIEW
  | RUNTIME_CONTROL
  | CRE_CONTROL
  | POLICY_CONTROL
  | IDENTITY_CONTROL
  | EMERGENCY_CONTROL
  deriving DecidableEq

inductive ControlOperation where
  | PAUSE_RUNTIME
  | RESUME_RUNTIME
  | ROLLBACK_RUNTIME
  | ROTATE_RUNTIME_REVISION
  | PAUSE_CRE
  | ACTIVATE_CRE
  | DELETE_CRE
  | DISABLE_POLICY
  | ENABLE_POLICY
  | REVOKE_IDENTITY
  | EMERGENCY_LOCK
  deriving DecidableEq

open ControlOperation OperatorCapability

def OperatorCapability.text : OperatorCapability → String
  | VIEW => "VIEW"
  | RUNTIME_CONTROL => "RUNTIME_CONTROL"
  | CRE_CONTROL => "CRE_CONTROL"
  | POLICY_CONTROL => "POLICY_CONTROL"
  | IDENTITY_CONTROL => "IDENTITY_CONTROL"
  | EMERGENCY_CONTROL => "EMERGENCY_CONTROL"

def OPERATOR_CAPABILITIES : List OperatorCapability :=
  [VIEW, RUNTIME_CONTROL, CRE_CONTROL, POLICY_CONTROL, IDENTITY_CONTROL, EMERGENCY_CONTROL]

def ControlOperation.text : ControlOperation → String
  | PAUSE_RUNTIME => "PAUSE_RUNTIME"
  | RESUME_RUNTIME => "RESUME_RUNTIME"
  | ROLLBACK_RUNTIME => "ROLLBACK_RUNTIME"
  | ROTATE_RUNTIME_REVISION => "ROTATE_RUNTIME_REVISION"
  | PAUSE_CRE => "PAUSE_CRE"
  | ACTIVATE_CRE => "ACTIVATE_CRE"
  | DELETE_CRE => "DELETE_CRE"
  | DISABLE_POLICY => "DISABLE_POLICY"
  | ENABLE_POLICY => "ENABLE_POLICY"
  | REVOKE_IDENTITY => "REVOKE_IDENTITY"
  | EMERGENCY_LOCK => "EMERGENCY_LOCK"

def CONTROL_OPERATIONS : List ControlOperation :=
  [PAUSE_RUNTIME, RESUME_RUNTIME, ROLLBACK_RUNTIME, ROTATE_RUNTIME_REVISION, PAUSE_CRE,
    ACTIVATE_CRE, DELETE_CRE, DISABLE_POLICY, ENABLE_POLICY, REVOKE_IDENTITY, EMERGENCY_LOCK]

def ControlOperation.capability : ControlOperation → OperatorCapability
  | PAUSE_RUNTIME | RESUME_RUNTIME | ROLLBACK_RUNTIME | ROTATE_RUNTIME_REVISION =>
    RUNTIME_CONTROL
  | PAUSE_CRE | ACTIVATE_CRE | DELETE_CRE => CRE_CONTROL
  | DISABLE_POLICY | ENABLE_POLICY => POLICY_CONTROL
  | REVOKE_IDENTITY => IDENTITY_CONTROL
  | EMERGENCY_LOCK => EMERGENCY_CONTROL

/-- The operations that need an explicit confirmation. -/
def ControlOperation.destructive : ControlOperation → Bool
  | DELETE_CRE | REVOKE_IDENTITY => true
  | _ => false

def ControlOperation.restores (op : ControlOperation) : Bool :=
  op = ENABLE_POLICY || op = ACTIVATE_CRE || op = RESUME_RUNTIME

/-! ## 2. Commands -/

structure Actor where
  actorId : String
  displayName : String
  capabilities : List OperatorCapability

/-- What the operation acts on. -/
structure Target where
  agentId : Option String
  runtimeRevision : Option String
  creWorkflowName : Option String
  policyHash : Option String
  identityNode : Option String
  deriving DecidableEq

/-- A command as it is asked for, before it has an id and a key. -/
structure CommandArgs where
  projectId : String
  deploymentId : String
  actor : Actor
  operation : ControlOperation
  target : Target
  expectedRevision : String
  issuedAtMs : Int
  expiresAtMs : Int
  confirmation : Option Json
  reason : Option String

structure ControlCommand extends CommandArgs where
  commandId : String
  idempotencyKey : String

def nullable (o : Option String) : Json := (o.map Json.str).getD .null

def Target.json (t : Target) : Json :=
  .obj [("agentId", nullable t.agentId), ("runtimeRevision", nullable t.runtimeRevision),
    ("creWorkflowName", nullable t.creWorkflowName), ("policyHash", nullable t.policyHash),
    ("identityNode", nullable t.identityNode)]

def intentKey (args : CommandArgs) : String :=
  "idem_" ++ String.ofList ((sha256Hex (stringify (.arr [.str args.deploymentId,
    .str args.operation.text, args.target.json, .str args.expectedRevision]))).toList.take 32)

/-- `newCommand`, with the id it drew. -/
def newCommand (uuid : String) (args : CommandArgs) (idempotencyKey : Option String) :
    ControlCommand :=
  { args with
    commandId := "cmd_" ++ uuid
    idempotencyKey := idempotencyKey.getD (intentKey args) }

/-! ## 3. Validation -/

/-- Why a command is refused. -/
inductive CommandReason where
  | NOT_AUTHORIZED
  | STALE_REVISION
  | EXPIRED
  | MALFORMED
  | CONFIRMATION_REQUIRED
  | EMERGENCY_LOCK_ACTIVE
  deriving DecidableEq

def CommandReason.text : CommandReason → String
  | .NOT_AUTHORIZED => "CONTROL-NOT-AUTHORIZED"
  | .STALE_REVISION => "CONTROL-STALE-REVISION"
  | .EXPIRED => "CONTROL-COMMAND-EXPIRED"
  | .MALFORMED => "CONTROL-COMMAND-MALFORMED"
  | .CONFIRMATION_REQUIRED => "CONTROL-DESTRUCTIVE-CONFIRMATION-REQUIRED"
  | .EMERGENCY_LOCK_ACTIVE => "CONTROL-EMERGENCY-LOCK-ACTIVE"

structure ControlCommandError where
  reason : CommandReason
  detail : String

def ControlCommandError.message (e : ControlCommandError) : String :=
  e.reason.text ++ ": " ++ e.detail

/-- `z.string().max(n)`. -/
def maxLength (n : Nat) (s : String) : Except String String :=
  if n < textLength s then
    .error ("Too big: expected string to have <=" ++ toString n ++ " characters")
  else .ok s

/-- `z.number().int().positive()`, of a whole number. -/
def positiveInteger (n : Int) : Except String Int :=
  if 2 ^ 53 ≤ n then .error "Too big: expected int to be <9007199254740991"
  else if n ≤ 0 then .error "Too small: expected number to be >0"
  else .ok n

/-- `z.record(z.string(), z.unknown())`. -/
def recordValue : Json → Except String Json
  | .obj fields => .ok (.obj fields)
  | value => .error ("Invalid input: expected record, received " ++ Json.typeName (some value))

/-- The issue of the field at `path`, if it has one. -/
def issueAt {α : Type} (path : String) (check : Except String α) : List String :=
  (issueOf check).map fun issue => path ++ ": " ++ issue

def ControlCommand.issues (cmd : ControlCommand) : List String :=
  issueAt "commandId" (minLength 1 cmd.commandId)
    ++ issueAt "projectId" (minLength 1 cmd.projectId)
    ++ issueAt "deploymentId" (minLength 1 cmd.deploymentId)
    ++ issueAt "actor.actorId" (minLength 1 cmd.actor.actorId)
    ++ issueAt "actor.displayName" (minLength 1 cmd.actor.displayName)
    ++ issueAt "expectedRevision" (minLength 1 cmd.expectedRevision)
    ++ issueAt "issuedAtMs" (positiveInteger cmd.issuedAtMs)
    ++ issueAt "expiresAtMs" (positiveInteger cmd.expiresAtMs)
    ++ issueAt "idempotencyKey" (minLength 8 cmd.idempotencyKey)
    ++ (cmd.confirmation.elim [] fun value => issueAt "confirmation" (recordValue value))
    ++ (cmd.reason.elim [] fun text => issueAt "reason" (maxLength 500 text))

/-- What the operator holds, as the message lists it. -/
def heldText (capabilities : List OperatorCapability) : String :=
  if capabilities.isEmpty then "none" else ", ".intercalate (capabilities.map (·.text))

def assertCommandValid (cmd : ControlCommand) (currentRevision : String) (nowMs : Int)
    (emergencyLockActive : Bool) : Except ControlCommandError Unit :=
  if cmd.issues ≠ [] then
    .error ⟨.MALFORMED, "; ".intercalate cmd.issues⟩
  else if cmd.operation.capability ∉ cmd.actor.capabilities then
    .error ⟨.NOT_AUTHORIZED, cmd.operation.text ++ " requires the "
      ++ cmd.operation.capability.text ++ " capability; " ++ cmd.actor.displayName ++ " holds ["
      ++ heldText cmd.actor.capabilities ++ "]"⟩
  else if nowMs > cmd.expiresAtMs then
    .error ⟨.EXPIRED, "issued " ++ toISOString cmd.issuedAtMs.toNat ++ ", expired "
      ++ toISOString cmd.expiresAtMs.toNat⟩
  else if cmd.expectedRevision ≠ currentRevision then
    .error ⟨.STALE_REVISION, "this command was issued against deployment revision "
      ++ cmd.expectedRevision ++ ", which is no longer current (" ++ currentRevision
      ++ "). Reload and re-issue: the screen you acted on described a different deployment."⟩
  else if cmd.operation.destructive ∧ cmd.confirmation = none then
    .error ⟨.CONFIRMATION_REQUIRED, cmd.operation.text
      ++ " is destructive and requires explicit confirmation"⟩
  else if emergencyLockActive ∧ cmd.operation.restores then
    .error ⟨.EMERGENCY_LOCK_ACTIVE, cmd.operation.text
      ++ " is refused while an emergency lock is in force. Clear the lock explicitly first."⟩
  else .ok ()

/-- What a command that passes the checks meets. -/
structure ControlCommand.Valid (cmd : ControlCommand) (currentRevision : String) (nowMs : Int)
    (emergencyLockActive : Bool) : Prop where
  wellFormed : cmd.issues = []
  authorized : cmd.operation.capability ∈ cmd.actor.capabilities
  inTime : nowMs ≤ cmd.expiresAtMs
  current : cmd.expectedRevision = currentRevision
  confirmed : cmd.operation.destructive = true → cmd.confirmation ≠ none
  unlocked : emergencyLockActive = true → cmd.operation.restores = false

theorem assertCommandValid_iff {cmd : ControlCommand} {currentRevision : String} {nowMs : Int}
    {emergencyLockActive : Bool} :
    assertCommandValid cmd currentRevision nowMs emergencyLockActive = .ok () ↔
      cmd.Valid currentRevision nowMs emergencyLockActive := by
  unfold assertCommandValid
  constructor
  · intro h
    split at h
    · cases h
    rename_i hissues
    split at h
    · cases h
    rename_i hcapability
    split at h
    · cases h
    rename_i htime
    split at h
    · cases h
    rename_i hrevision
    split at h
    · cases h
    rename_i hconfirmed
    split at h
    · cases h
    rename_i hlock
    refine ⟨not_not.mp hissues, not_not.mp hcapability, by omega, not_not.mp hrevision,
      fun hd hn => hconfirmed ⟨hd, hn⟩, fun hl => ?_⟩
    cases hr : cmd.operation.restores with
    | true => exact absurd ⟨hl, hr⟩ hlock
    | false => rfl
  · intro h
    have hlock : ¬ (emergencyLockActive = true ∧ cmd.operation.restores = true) := by
      rintro ⟨hl, hr⟩
      rw [h.unlocked hl] at hr
      exact Bool.noConfusion hr
    rw [if_neg (not_not.mpr h.wellFormed), if_neg (not_not.mpr h.authorized),
      if_neg (Int.not_lt.mpr h.inTime), if_neg (not_not.mpr h.current),
      if_neg fun hc => h.confirmed hc.1 hc.2, if_neg hlock]

/-- A command whose fields pass their checks is well-formed. -/
theorem issues_eq_nil {cmd : ControlCommand} (hid : minLength 1 cmd.commandId = .ok cmd.commandId)
    (hproject : minLength 1 cmd.projectId = .ok cmd.projectId)
    (hdeployment : minLength 1 cmd.deploymentId = .ok cmd.deploymentId)
    (hactor : minLength 1 cmd.actor.actorId = .ok cmd.actor.actorId)
    (hname : minLength 1 cmd.actor.displayName = .ok cmd.actor.displayName)
    (hrevision : minLength 1 cmd.expectedRevision = .ok cmd.expectedRevision)
    (hissued : positiveInteger cmd.issuedAtMs = .ok cmd.issuedAtMs)
    (hexpires : positiveInteger cmd.expiresAtMs = .ok cmd.expiresAtMs)
    (hkey : minLength 8 cmd.idempotencyKey = .ok cmd.idempotencyKey)
    (hconfirmation : cmd.confirmation = none) (hreason : cmd.reason = none) : cmd.issues = [] := by
  simp only [ControlCommand.issues, hid, hproject, hdeployment, hactor, hname, hrevision, hissued,
    hexpires, hkey, hconfirmation, hreason]
  rfl

/-! ## 4. Derived keys -/

theorem length_le_textLength (s : String) : s.toList.length ≤ textLength s := by
  unfold textLength codeUnits
  generalize s.toList = cs
  induction cs with
  | nil => exact Nat.le_refl 0
  | cons c cs ih =>
    rw [List.flatMap_cons, List.length_append, List.length_cons]
    split <;> simp only [List.length_cons, List.length_nil] <;> omega

theorem toList_intentKey (args : CommandArgs) : ∃ digest : List Char, digest.length = 32 ∧
    (intentKey args).toList = 'i' :: 'd' :: 'e' :: 'm' :: '_' :: digest := by
  refine ⟨(sha256Hex (stringify (.arr [.str args.deploymentId, .str args.operation.text,
    args.target.json, .str args.expectedRevision]))).toList.take 32, ?_, ?_⟩
  · have hhex := lowerHex_sha256Hex (stringify (.arr [.str args.deploymentId,
      .str args.operation.text, args.target.json, .str args.expectedRevision]))
    rw [lowerHex, Bool.and_eq_true, decide_eq_true_eq] at hhex
    rw [List.length_take, hhex.1]
    rfl
  · rw [intentKey, String.toList_append]
    exact congrArg (['i', 'd', 'e', 'm', '_'] ++ ·) String.toList_ofList

/-- A derived key begins with an `i`. -/
theorem intentKey_ne {args : CommandArgs} {k : String} (h : k.toList.head? ≠ some 'i') :
    intentKey args ≠ k := by
  intro heq
  obtain ⟨digest, -, hchars⟩ := toList_intentKey args
  rw [heq] at hchars
  exact h (congrArg List.head? hchars)

theorem minLength_of_le {n : Nat} {s : String} (h : n ≤ s.toList.length) :
    minLength n s = .ok s := by
  have hle := length_le_textLength s
  exact if_neg (by omega)

theorem minLength_intentKey (args : CommandArgs) :
    minLength 8 (intentKey args) = .ok (intentKey args) := by
  obtain ⟨digest, hlength, hchars⟩ := toList_intentKey args
  refine minLength_of_le ?_
  simp only [hchars, List.length_cons, hlength]
  omega

theorem minLength_commandId (uuid : String) : minLength 1 ("cmd_" ++ uuid) = .ok ("cmd_" ++ uuid) := by
  refine minLength_of_le ?_
  have hlength : "cmd_".toList.length = 4 := rfl
  rw [String.toList_append, List.length_append, hlength]
  omega

end ContextLock.Control
