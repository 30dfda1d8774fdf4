/-
  Subject:   Runtime events: what a caller supplies, what is checked, and the identity.

  The identity of an event is the digest of what it says happened; when it was observed does
  not count. A caller may hand over fields that the schema does not know; the schema strips
  them, after the digest was taken.
-/
import ContextLock.Js.Canonical
import ContextLock.Js.Digest

namespace ContextLock.Events

open Js

/-! ## 1. The vocabulary -/

def RUNTIME_EVENT_VERSION : String := "contextlock.runtime-event/v1"

inductive EventSource where
  | AGENT
  | MODEL_GATEWAY
  | ADAPTER
  | CRE
  | CONTEXTLOCK
  | CHAIN
  | RUNTIME
  | OPERATOR
  | SYSTEM
  deriving DecidableEq

inductive EventSeverity where
  | DEBUG
  | INFO
  | NOTICE
  | WARNING
  | ERROR
  | CRITICAL
  deriving DecidableEq

inductive EventType where
  | AGENT_TRIGGERED
  | AGENT_RUN_STARTED
  | AGENT_RUN_COMPLETED
  | AGENT_RUN_FAILED
  | STRATEGY_EVALUATED
  | DECISION_NO_ACTION
  | DECISION_ALLOW
  | DECISION_ESCALATE
  | DECISION_DENY
  | MODEL_REQUESTED
  | MODEL_COMPLETED
  | MODEL_REFUSED
  | MODEL_FAILED
  | ADAPTER_READ
  | ADAPTER_FAILED
  | ADAPTER_HEALTH_CHANGED
  | CRE_EXECUTION_STARTED
  | CRE_CAPABILITY_EVENT
  | CRE_EXECUTION_COMPLETED
  | CRE_EXECUTION_FAILED
  | CRE_STATUS_CHANGED
  | CRE_TELEMETRY_STALE
  | CRE_LOG
  | CAPABILITY_REQUESTED
  | CAPABILITY_ISSUED
  | CAPABILITY_REJECTED
  | AUTHORIZATION_RECORDED
  | EXECUTION_SUBMITTED
  | EXECUTION_MINED
  | EXECUTION_CONFIRMING
  | EXECUTION_FINALIZED
  | EXECUTION_REVERTED
  | EXECUTION_REORGED
  | POLICY_STATE_OBSERVED
  | POLICY_CHANGED
  | IDENTITY_STATE_OBSERVED
  | IDENTITY_CHANGED
  | STATE_DRIFT_DETECTED
  | STATE_DRIFT_RECONCILED
  | RUNTIME_STATE_CHANGED
  | RUNTIME_HEALTH_CHANGED
  | RUNTIME_REVISION_CHANGED
  | RUNTIME_CREDENTIAL_FENCED
  | CONTROL_COMMAND_ISSUED
  | CONTROL_COMMAND_APPLIED
  | CONTROL_COMMAND_REJECTED
  | CONTROL_COMMAND_FAILED
  | EMERGENCY_LOCK_STARTED
  | EMERGENCY_LOCK_STEP
  | EMERGENCY_LOCK_COMPLETED
  | EMERGENCY_LOCK_PARTIAL
  | ALERT_RAISED
  | ALERT_ACKNOWLEDGED
  | ALERT_RESOLVED
  | EVENT_CORRECTED
  deriving DecidableEq

def EventSource.text : EventSource → String
  | AGENT => "AGENT"
  | MODEL_GATEWAY => "MODEL_GATEWAY"
  | ADAPTER => "ADAPTER"
  | CRE => "CRE"
  | CONTEXTLOCK => "CONTEXTLOCK"
  | CHAIN => "CHAIN"
  | RUNTIME => "RUNTIME"
  | OPERATOR => "OPERATOR"
  | SYSTEM => "SYSTEM"

def EventSeverity.text : EventSeverity → String
  | DEBUG => "DEBUG"
  | INFO => "INFO"
  | NOTICE => "NOTICE"
  | WARNING => "WARNING"
  | ERROR => "ERROR"
  | CRITICAL => "CRITICAL"

def EventType.text : EventType → String
  | AGENT_TRIGGERED => "AGENT_TRIGGERED"
  | AGENT_RUN_STARTED => "AGENT_RUN_STARTED"
  | AGENT_RUN_COMPLETED => "AGENT_RUN_COMPLETED"
  | AGENT_RUN_FAILED => "AGENT_RUN_FAILED"
  | STRATEGY_EVALUATED => "STRATEGY_EVALUATED"
  | DECISION_NO_ACTION => "DECISION_NO_ACTION"
  | DECISION_ALLOW => "DECISION_ALLOW"
  | DECISION_ESCALATE => "DECISION_ESCALATE"
  | DECISION_DENY => "DECISION_DENY"
  | MODEL_REQUESTED => "MODEL_REQUESTED"
  | MODEL_COMPLETED => "MODEL_COMPLETED"
  | MODEL_REFUSED => "MODEL_REFUSED"
  | MODEL_FAILED => "MODEL_FAILED"
  | ADAPTER_READ => "ADAPTER_READ"
  | ADAPTER_FAILED => "ADAPTER_FAILED"
  | ADAPTER_HEALTH_CHANGED => "ADAPTER_HEALTH_CHANGED"
  | CRE_EXECUTION_STARTED => "CRE_EXECUTION_STARTED"
  | CRE_CAPABILITY_EVENT => "CRE_CAPABILITY_EVENT"
  | CRE_EXECUTION_COMPLETED => "CRE_EXECUTION_COMPLETED"
  | CRE_EXECUTION_FAILED => "CRE_EXECUTION_FAILED"
  | CRE_STATUS_CHANGED => "CRE_STATUS_CHANGED"
  | CRE_TELEMETRY_STALE => "CRE_TELEMETRY_STALE"
  | CRE_LOG => "CRE_LOG"
  | CAPABILITY_REQUESTED => "CAPABILITY_REQUESTED"
  | CAPABILITY_ISSUED => "CAPABILITY_ISSUED"
  | CAPABILITY_REJECTED => "CAPABILITY_REJECTED"
  | AUTHORIZATION_RECORDED => "AUTHORIZATION_RECORDED"
  | EXECUTION_SUBMITTED => "EXECUTION_SUBMITTED"
  | EXECUTION_MINED => "EXECUTION_MINED"
  | EXECUTION_CONFIRMING => "EXECUTION_CONFIRMING"
  | EXECUTION_FINALIZED => "EXECUTION_FINALIZED"
  | EXECUTION_REVERTED => "EXECUTION_REVERTED"
  | EXECUTION_REORGED => "EXECUTION_REORGED"
  | POLICY_STATE_OBSERVED => "POLICY_STATE_OBSERVED"
  | POLICY_CHANGED => "POLICY_CHANGED"
  | IDENTITY_STATE_OBSERVED => "IDENTITY_STATE_OBSERVED"
  | IDENTITY_CHANGED => "IDENTITY_CHANGED"
  | STATE_DRIFT_DETECTED => "STATE_DRIFT_DETECTED"
  | STATE_DRIFT_RECONCILED => "STATE_DRIFT_RECONCILED"
  | RUNTIME_STATE_CHANGED => "RUNTIME_STATE_CHANGED"
  | RUNTIME_HEALTH_CHANGED => "RUNTIME_HEALTH_CHANGED"
  | RUNTIME_REVISION_CHANGED => "RUNTIME_REVISION_CHANGED"
  | RUNTIME_CREDENTIAL_FENCED => "RUNTIME_CREDENTIAL_FENCED"
  | CONTROL_COMMAND_ISSUED => "CONTROL_COMMAND_ISSUED"
  | CONTROL_COMMAND_APPLIED => "CONTROL_COMMAND_APPLIED"
  | CONTROL_COMMAND_REJECTED => "CONTROL_COMMAND_REJECTED"
  | CONTROL_COMMAND_FAILED => "CONTROL_COMMAND_FAILED"
  | EMERGENCY_LOCK_STARTED => "EMERGENCY_LOCK_STARTED"
  | EMERGENCY_LOCK_STEP => "EMERGENCY_LOCK_STEP"
  | EMERGENCY_LOCK_COMPLETED => "EMERGENCY_LOCK_COMPLETED"
  | EMERGENCY_LOCK_PARTIAL => "EMERGENCY_LOCK_PARTIAL"
  | ALERT_RAISED => "ALERT_RAISED"
  | ALERT_ACKNOWLEDGED => "ALERT_ACKNOWLEDGED"
  | ALERT_RESOLVED => "ALERT_RESOLVED"
  | EVENT_CORRECTED => "EVENT_CORRECTED"

def EventType.all : List EventType :=
  [.AGENT_TRIGGERED, .AGENT_RUN_STARTED, .AGENT_RUN_COMPLETED, .AGENT_RUN_FAILED,
   .STRATEGY_EVALUATED, .DECISION_NO_ACTION, .DECISION_ALLOW, .DECISION_ESCALATE, .DECISION_DENY,
   .MODEL_REQUESTED, .MODEL_COMPLETED, .MODEL_REFUSED, .MODEL_FAILED, .ADAPTER_READ,
   .ADAPTER_FAILED, .ADAPTER_HEALTH_CHANGED, .CRE_EXECUTION_STARTED, .CRE_CAPABILITY_EVENT,
   .CRE_EXECUTION_COMPLETED, .CRE_EXECUTION_FAILED, .CRE_STATUS_CHANGED, .CRE_TELEMETRY_STALE,
   .CRE_LOG, .CAPABILITY_REQUESTED, .CAPABILITY_ISSUED, .CAPABILITY_REJECTED,
   .AUTHORIZATION_RECORDED, .EXECUTION_SUBMITTED, .EXECUTION_MINED, .EXECUTION_CONFIRMING,
   .EXECUTION_FINALIZED, .EXECUTION_REVERTED, .EXECUTION_REORGED, .POLICY_STATE_OBSERVED,
   .POLICY_CHANGED, .IDENTITY_STATE_OBSERVED, .IDENTITY_CHANGED, .STATE_DRIFT_DETECTED,
   .STATE_DRIFT_RECONCILED, .RUNTIME_STATE_CHANGED, .RUNTIME_HEALTH_CHANGED,
   .RUNTIME_REVISION_CHANGED, .RUNTIME_CREDENTIAL_FENCED, .CONTROL_COMMAND_ISSUED,
   .CONTROL_COMMAND_APPLIED, .CONTROL_COMMAND_REJECTED, .CONTROL_COMMAND_FAILED,
   .EMERGENCY_LOCK_STARTED, .EMERGENCY_LOCK_STEP, .EMERGENCY_LOCK_COMPLETED,
   .EMERGENCY_LOCK_PARTIAL, .ALERT_RAISED, .ALERT_ACKNOWLEDGED, .ALERT_RESOLVED, .EVENT_CORRECTED]

theorem EventSource.text_inj {a b : EventSource} (h : a.text = b.text) : a = b := by
  cases a <;> cases b <;> first | rfl | exact absurd h (by decide)

theorem EventSeverity.text_inj {a b : EventSeverity} (h : a.text = b.text) : a = b := by
  cases a <;> cases b <;> first | rfl | exact absurd h (by decide)

theorem EventType.nodup_texts : (EventType.all.map EventType.text).Nodup := by decide

theorem EventType.text_inj {a b : EventType} (h : a.text = b.text) : a = b := by
  have hmem : ∀ t : EventType, t ∈ EventType.all := by
    intro t
    cases t <;> decide
  exact List.inj_on_of_nodup_map EventType.nodup_texts (hmem a) (hmem b) h

/-- `SEVERITY_RANK`. -/
def EventSeverity.rank : EventSeverity → Nat
  | DEBUG => 0
  | INFO => 1
  | NOTICE => 2
  | WARNING => 3
  | ERROR => 4
  | CRITICAL => 5

/-! ## 2. Events -/

/-- What an event says happened. Its numbers are of type `ν`: any a caller may hand over, or
    integers once they are checked. -/
structure EventContent (ν : Type) where
  organizationId : Option String
  projectId : String
  deploymentId : String
  agentId : Option String
  source : EventSource
  type : EventType
  severity : EventSeverity
  timestamp : ν
  correlationId : String
  agentRunId : Option String
  modelRunId : Option String
  strategyEvaluationId : Option String
  creExecutionId : Option String
  authorizationId : Option String
  capabilityId : Option String
  chainId : Option ν
  blockNumber : Option String
  txHash : Option String
  creWorkflowId : Option String
  adapterId : Option String
  runtimeRevision : Option String
  buildRevision : Option ν
  deploymentRevision : Option String
  correctsEventId : Option String
  publicMetadata : List (String × Value)

/-- The fields that a caller may supply by the schema. -/
def DRAFT_FIELDS : List String :=
  ["schemaVersion", "organizationId", "projectId", "deploymentId", "agentId", "source", "type",
   "severity", "correlationId", "agentRunId", "modelRunId", "strategyEvaluationId",
   "creExecutionId", "authorizationId", "capabilityId", "blockNumber", "txHash", "creWorkflowId",
   "adapterId", "runtimeRevision", "deploymentRevision", "correctsEventId", "timestamp", "chainId",
   "buildRevision", "publicMetadata"]

/-- What a caller supplies: the content, and fields that the schema does not know. -/
structure EventDraft where
  content : EventContent Double
  extra : List (String × Value)
  distinct : (DRAFT_FIELDS ++ extra.map Prod.fst).Nodup

structure RuntimeEvent where
  eventId : String
  observedAtMs : Int
  content : EventContent Int

/-! ## 3. The identity -/

def nullableText (o : Option String) : Value := ofNull (o.map .str)

namespace EventContent

variable {ν : Type}

/-- The fields but the numbers and the metadata. -/
def texts (c : EventContent ν) : List (String × Value) :=
  [("schemaVersion", .str RUNTIME_EVENT_VERSION),
   ("organizationId", nullableText c.organizationId), ("projectId", .str c.projectId),
   ("deploymentId", .str c.deploymentId), ("agentId", nullableText c.agentId),
   ("source", .str c.source.text), ("type", .str c.type.text),
   ("severity", .str c.severity.text), ("correlationId", .str c.correlationId),
   ("agentRunId", nullableText c.agentRunId), ("modelRunId", nullableText c.modelRunId),
   ("strategyEvaluationId", nullableText c.strategyEvaluationId),
   ("creExecutionId", nullableText c.creExecutionId),
   ("authorizationId", nullableText c.authorizationId),
   ("capabilityId", nullableText c.capabilityId), ("blockNumber", nullableText c.blockNumber),
   ("txHash", nullableText c.txHash), ("creWorkflowId", nullableText c.creWorkflowId),
   ("adapterId", nullableText c.adapterId), ("runtimeRevision", nullableText c.runtimeRevision),
   ("deploymentRevision", nullableText c.deploymentRevision),
   ("correctsEventId", nullableText c.correctsEventId)]

/-- The fields of an event but its identity and the time it was observed. -/
def fields (number : ν → Value) (c : EventContent ν) : List (String × Value) :=
  c.texts ++
    [("timestamp", number c.timestamp), ("chainId", ofNull (c.chainId.map number)),
     ("buildRevision", ofNull (c.buildRevision.map number)),
     ("publicMetadata", .obj c.publicMetadata)]

end EventContent

def eventErrors : WalkErrors where
  bigint := "EVENT-BIGINT: encode large integers as decimal strings"
  unserializable := fun typeName => s!"EVENT-UNSERIALIZABLE: {typeName}"

def canonicalize (value : Value) : Except String String := canonicalText eventErrors value

/-- `deriveEventId`, of an event by its fields. -/
def deriveEventId (fields : List (String × Value)) : Except String String :=
  (canonicalize (.obj fields)).map fun text => "sha256:" ++ sha256Hex text

def EventDraft.fields (d : EventDraft) : List (String × Value) :=
  d.content.fields .number ++ d.extra

def RuntimeEvent.fields (e : RuntimeEvent) : List (String × Value) := e.content.fields .int

/-! ## 4. The schema -/

def textIssues (check : String → Except String String) (name s : String) : List String :=
  (issueOf (check s)).map fun message => name ++ ": " ++ message

/-- The issues of a text that may be `null`. -/
def nullableIssues (check : String → Except String String) (name : String) (o : Option String) :
    List String :=
  o.elim [] (textIssues check name)

/-- `/^\d+$/`. -/
def digitsText (s : String) : Except String String :=
  if s.toList ≠ [] ∧ s.toList.all Char.isDigit then .ok s
  else .error "Invalid string: must match pattern /^\\d+$/"

/-- `/^0x[0-9a-f]{64}$/`. -/
def hex32Text (s : String) : Except String String :=
  if s.toList.take 2 = ['0', 'x'] ∧ lowerHex 64 (s.toList.drop 2) then .ok s
  else .error "Invalid string: must match pattern /^0x[0-9a-f]\x7b64\x7d$/"

/-- The issues of an integer, which must be safe, and not below `least`. -/
def safeIntIssues (least : Int) (bound : String) (n : Int) : List String :=
  (if 2 ^ 53 ≤ n then ["Too big: expected int to be <9007199254740991"] else [])
    ++ (if n ≤ -2 ^ 53 then ["Too small: expected int to be >-9007199254740991"] else [])
    ++ if n < least then ["Too small: expected number to be " ++ bound] else []

/-- `z.number().int()` with a lower bound. -/
def numberIssues (least : Int) (bound : String) (name : String) (d : Double) : List String :=
  let messages := match d with
    | .finite (.int n) => safeIntIssues least bound n
    | .negativeZero => safeIntIssues least bound 0
    | .finite (.decimal x) =>
      if x.exponent < 0 then ["Invalid input: expected int, received number"]
      else if x.negative then ["Too small: expected int to be >-9007199254740991",
        "Too small: expected number to be " ++ bound]
      else ["Too big: expected int to be <9007199254740991"]
    | .nan => ["Invalid input: expected number, received NaN"]
    | .infinite _ => ["Invalid input: expected number, received number"]
  messages.map fun message => name ++ ": " ++ message

/-- `z.number().int().positive()`. -/
def positiveIssues (name : String) (d : Double) : List String := numberIssues 1 ">0" name d

/-- `z.number().int().nonnegative()`. -/
def nonnegativeIssues (name : String) (d : Double) : List String := numberIssues 0 ">=0" name d

/-- The issues that `RuntimeEventSchema` finds in all but the identity. -/
def contentIssues (c : EventContent Double) (observedAtMs : Double) : List String :=
  List.flatten
    [nullableIssues (minLength 1) "organizationId" c.organizationId,
     textIssues (minLength 1) "projectId" c.projectId,
     textIssues (minLength 1) "deploymentId" c.deploymentId,
     nullableIssues (minLength 1) "agentId" c.agentId,
     positiveIssues "timestamp" c.timestamp,
     positiveIssues "observedAtMs" observedAtMs,
     textIssues (minLength 1) "correlationId" c.correlationId,
     nullableIssues (minLength 1) "agentRunId" c.agentRunId,
     nullableIssues (minLength 1) "modelRunId" c.modelRunId,
     nullableIssues (minLength 1) "strategyEvaluationId" c.strategyEvaluationId,
     nullableIssues (minLength 1) "creExecutionId" c.creExecutionId,
     nullableIssues (minLength 1) "authorizationId" c.authorizationId,
     nullableIssues (minLength 1) "capabilityId" c.capabilityId,
     c.chainId.elim [] (positiveIssues "chainId"),
     nullableIssues digitsText "blockNumber" c.blockNumber,
     nullableIssues hex32Text "txHash" c.txHash,
     nullableIssues (minLength 1) "creWorkflowId" c.creWorkflowId,
     nullableIssues (minLength 1) "adapterId" c.adapterId,
     nullableIssues (minLength 1) "runtimeRevision" c.runtimeRevision,
     c.buildRevision.elim [] (nonnegativeIssues "buildRevision"),
     nullableIssues (minLength 1) "deploymentRevision" c.deploymentRevision,
     nullableIssues digestText "correctsEventId" c.correctsEventId]

/-- The issues that `RuntimeEventSchema` finds. -/
def issues (c : EventContent Double) (eventId : String) (observedAtMs : Double) : List String :=
  textIssues digestText "eventId" eventId ++ contentIssues c observedAtMs

/-- The content as the schema gives it back: its numbers are integers, and the metadata has no
    field called `__proto__`. -/
def EventContent.parsed (c : EventContent Double) : EventContent Int :=
  { c with
    timestamp := c.timestamp.toInt
    chainId := c.chainId.map Double.toInt
    buildRevision := c.buildRevision.map Double.toInt
    publicMetadata := c.publicMetadata.filter fun f => f.1 ≠ "__proto__" }

def safeParse (c : EventContent Double) (eventId : String) (observedAtMs : Double) :
    Except (List String) RuntimeEvent :=
  if issues c eventId observedAtMs = [] then .ok ⟨eventId, observedAtMs.toInt, c.parsed⟩
  else .error (issues c eventId observedAtMs)

/-! ## 5. What an append would store -/

/-- A call of `append`. -/
structure Append where
  draft : EventDraft
  observedAtMs : Double

/-- Why an append is refused: secrets in the metadata, a value that has no canonical form, or
    the issues of the schema. -/
inductive AppendError where
  | secretPresent (text : String)
  | canonical (text : String)
  | malformed (issues : List String)

/-- The checks of `append`, and the row they let through. `assertPublicSafe` is the scan of the
    metadata for secrets. -/
def candidate (assertPublicSafe : List (String × Value) → Except String Unit) (a : Append) :
    Except AppendError RuntimeEvent :=
  match assertPublicSafe a.draft.content.publicMetadata with
  | .error text => .error (.secretPresent text)
  | .ok _ =>
    match deriveEventId a.draft.fields with
    | .error text => .error (.canonical text)
    | .ok eventId =>
      match safeParse a.draft.content eventId a.observedAtMs with
      | .error issues => .error (.malformed issues)
      | .ok row => .ok row

variable {assertPublicSafe : List (String × Value) → Except String Unit}

/-- What an append has passed whose row is stored. -/
theorem candidate_ok {a : Append} {row : RuntimeEvent} (h : candidate assertPublicSafe a = .ok row) :
    assertPublicSafe a.draft.content.publicMetadata = .ok () ∧
      deriveEventId a.draft.fields = .ok row.eventId ∧
      contentIssues a.draft.content a.observedAtMs = [] ∧
      row.observedAtMs = a.observedAtMs.toInt ∧ row.content = a.draft.content.parsed := by
  unfold candidate at h
  cases hsafe : assertPublicSafe a.draft.content.publicMetadata with
  | error text =>
    rw [hsafe] at h
    cases h
  | ok u =>
    cases hid : deriveEventId a.draft.fields with
    | error text =>
      rw [hsafe, hid] at h
      cases h
    | ok eventId =>
      rw [hsafe, hid] at h
      simp only [safeParse] at h
      by_cases hissues : issues a.draft.content eventId a.observedAtMs = []
      · rw [if_pos hissues] at h
        cases h
        exact ⟨rfl, rfl, (List.append_eq_nil_iff.mp hissues).2, rfl, rfl⟩
      · rw [if_neg hissues] at h
        cases h

theorem issues_digest (c : EventContent Double) (s : String) (observedAtMs : Double) :
    issues c ("sha256:" ++ sha256Hex s) observedAtMs = contentIssues c observedAtMs := by
  rw [issues, textIssues, digestText_sha256Hex]
  rfl

/-- An append whose content has no issues is accepted where it has a canonical form. -/
theorem candidate_of_walk {a : Append} {c : Canonical}
    (hsafe : assertPublicSafe a.draft.content.publicMetadata = .ok ())
    (hwalk : walk eventErrors (.obj a.draft.fields) = .ok c)
    (hissues : contentIssues a.draft.content a.observedAtMs = []) :
    candidate assertPublicSafe a
      = .ok ⟨"sha256:" ++ sha256Chars c.text, a.observedAtMs.toInt, a.draft.content.parsed⟩ := by
  have hid : deriveEventId a.draft.fields = .ok ("sha256:" ++ sha256Hex (String.ofList c.text)) := by
    rw [deriveEventId, canonicalize, canonicalText, hwalk]
    rfl
  rw [candidate, hsafe, hid]
  dsimp only
  rw [safeParse, issues_digest, if_pos hissues, sha256Hex_ofList]

/-! ## 6. The identity of a row -/

/-- The caller handed over no field that the schema does not know; one called `__proto__` is no
    field of what is hashed. -/
def EventDraft.Plain (d : EventDraft) : Prop := ∀ f ∈ d.extra, f.1 = "__proto__"

theorem deriveEventId_ok {fields : List (String × Value)} {eventId : String}
    (h : deriveEventId fields = .ok eventId) :
    ∃ text, canonicalize (.obj fields) = .ok text ∧ eventId = "sha256:" ++ sha256Hex text := by
  unfold deriveEventId at h
  cases htext : canonicalize (.obj fields) with
  | error e =>
    rw [htext] at h
    cases h
  | ok text =>
    rw [htext] at h
    cases h
    exact ⟨text, rfl, rfl⟩

theorem canonicalize_ok {v : Value} {text : String} (h : canonicalize v = .ok text) :
    ∃ c, walk eventErrors v = .ok c ∧ text = String.ofList c.text := by
  unfold canonicalize canonicalText at h
  cases hwalk : walk eventErrors v with
  | error e =>
    rw [hwalk] at h
    cases h
  | ok c =>
    rw [hwalk] at h
    cases h
    exact ⟨c, rfl, rfl⟩

theorem walk_number {least : Int} {bound name : String} {d : Double}
    (h : numberIssues least bound name d = []) :
    walk eventErrors (.number d) = walk eventErrors (.int d.toInt) := by
  cases d with
  | finite a =>
    cases a with
    | int n => rfl
    | decimal x =>
      unfold numberIssues at h
      by_cases hx : x.exponent < 0
      · simp [hx] at h
      · cases hneg : x.negative <;> simp [hx, hneg] at h
  | negativeZero => rfl
  | nan | infinite negative => simp [numberIssues] at h

theorem walk_nullableNumber {least : Int} {bound name : String} {o : Option Double}
    (h : o.elim [] (numberIssues least bound name) = []) :
    walk eventErrors (ofNull (o.map .number))
      = walk eventErrors (ofNull ((o.map Double.toInt).map .int)) := by
  cases o with
  | none => rfl
  | some d => exact walk_number h

theorem texts_parsed (c : EventContent Double) : c.parsed.texts = c.texts := rfl

theorem keys_fields {ν : Type} (number : ν → Value) (c : EventContent ν) :
    (c.fields number).map Prod.fst = DRAFT_FIELDS := rfl

theorem walk_parsed {d : EventDraft} {observedAtMs : Double} {c : Canonical}
    (hplain : d.Plain) (hissues : contentIssues d.content observedAtMs = [])
    (h : walk eventErrors (.obj d.fields) = .ok c) :
    walk eventErrors (.obj (d.content.parsed.fields .int)) = .ok c := by
  have hproto := walk_obj_proto h
  have hdrop : (d.fields.filter fun f => f.1 ≠ "__proto__") = d.content.fields .number := by
    unfold EventDraft.fields
    rw [List.filter_append, List.filter_eq_self.mpr, List.filter_eq_nil_iff.mpr, List.append_nil]
    · intro f hf
      simpa using hplain f hf
    · intro f hf
      have hkey : f.1 ∈ DRAFT_FIELDS := keys_fields .number d.content ▸ List.mem_map_of_mem hf
      refine decide_eq_true fun heq => ?_
      rw [heq] at hkey
      exact absurd hkey (by decide)
  rw [hdrop] at hproto
  rw [← hproto]
  have hmetadata : walk eventErrors (.obj d.content.publicMetadata)
      = walk eventErrors (.obj d.content.parsed.publicMetadata) := by
    obtain ⟨a, ha⟩ := (walk_obj_ok hproto).1 "publicMetadata" (.obj d.content.publicMetadata)
      (by simp [EventContent.fields])
    exact ha.trans (walk_obj_proto ha).symm
  have hnone := List.flatten_eq_nil_iff.mp hissues
  have htimestamp : positiveIssues "timestamp" d.content.timestamp = [] := hnone _ (by simp)
  have hchain : d.content.chainId.elim [] (positiveIssues "chainId") = [] := hnone _ (by simp)
  have hbuild : d.content.buildRevision.elim [] (nonnegativeIssues "buildRevision") = [] :=
    hnone _ (by simp)
  refine (walk_obj_congr ?_).symm
  unfold EventContent.fields
  rw [texts_parsed]
  refine List.rel_append (List.forall₂_same.mpr fun f _ => ⟨rfl, rfl⟩) ?_
  refine .cons ⟨rfl, ?_⟩ (.cons ⟨rfl, ?_⟩ (.cons ⟨rfl, ?_⟩ (.cons ⟨rfl, hmetadata⟩ .nil)))
  · exact walk_number htimestamp
  · exact walk_nullableNumber hchain
  · exact walk_nullableNumber hbuild

/-- **The identity of a row is that of the row**, if the caller handed over no unknown field. -/
theorem candidate_identity {a : Append} {row : RuntimeEvent} (hplain : a.draft.Plain)
    (h : candidate assertPublicSafe a = .ok row) : deriveEventId row.fields = .ok row.eventId := by
  obtain ⟨_, hid, hissues, _, hcontent⟩ := candidate_ok h
  obtain ⟨text, htext, heventId⟩ := deriveEventId_ok hid
  obtain ⟨c, hc, rfl⟩ := canonicalize_ok htext
  have hwalk := walk_parsed hplain hissues hc
  rw [heventId, deriveEventId, RuntimeEvent.fields, hcontent, canonicalize, canonicalText, hwalk]
  rfl

/-! ## 7. Events of one identity -/

/-- The content without its metadata. -/
def EventContent.bare (c : EventContent Int) : EventContent Int := { c with publicMetadata := [] }

/-- Contents that say the same: their fields are equal, and the metadata has one canonical
    form. -/
structure SameContent (c d : EventContent Int) : Prop where
  fields : c.bare = d.bare
  metadata : Alike eventErrors (.obj c.publicMetadata) (.obj d.publicMetadata)

structure SameEvent (e f : RuntimeEvent) : Prop where
  eventId : e.eventId = f.eventId
  content : SameContent e.content f.content

def NoDigestCollision (s t : String) : Prop := sha256Hex s = sha256Hex t → s = t

theorem obj_eq_record (fields : List (String × Value)) :
    Value.obj fields = record (fields.map fun f => (f.1, some f.2)) := by
  rw [record, List.filterMap_map]
  congr 1
  exact (List.filterMap_some (l := fields)).symm

/-- **Events whose fields have one canonical form say the same.** -/
theorem content_of_alike {c d : EventContent Int}
    (h : Alike eventErrors (.obj (c.fields .int)) (.obj (d.fields .int))) : SameContent c d := by
  rw [obj_eq_record, obj_eq_record] at h
  have hkeys : ((c.fields .int).map fun f => (f.1, some f.2)).map Prod.fst = DRAFT_FIELDS := rfl
  have hfields := alike_record h rfl (by rw [hkeys]; decide) (by rw [hkeys]; decide)
  simp only [EventContent.fields, EventContent.texts, List.map_cons, List.map_nil,
    List.cons_append, List.nil_append, List.forall₂_cons, List.forall₂_nil_left_iff,
    Option.rel_some_some, alike_str] at hfields
  obtain ⟨_, horganization, hproject, hdeployment, hagent, hsource, htype, hseverity, hcorrelation,
    hagentRun, hmodelRun, hstrategy, hcre, hauthorization, hcapability, hblock, htx, hworkflow,
    hadapter, hruntime, hrevision, hcorrects, htimestamp, hchain, hbuild, hmetadata, _⟩ := hfields
  refine ⟨?_, hmetadata⟩
  rw [EventContent.bare, EventContent.bare, EventContent.mk.injEq]
  exact ⟨nullableText_inj horganization, hproject, hdeployment, nullableText_inj hagent,
    EventSource.text_inj hsource, EventType.text_inj htype, EventSeverity.text_inj hseverity,
    alike_int.mp htimestamp, hcorrelation, nullableText_inj hagentRun, nullableText_inj hmodelRun,
    nullableText_inj hstrategy, nullableText_inj hcre, nullableText_inj hauthorization,
    nullableText_inj hcapability, nullableInt_inj hchain, nullableText_inj hblock,
    nullableText_inj htx, nullableText_inj hworkflow, nullableText_inj hadapter,
    nullableText_inj hruntime, nullableInt_inj hbuild, nullableText_inj hrevision,
    nullableText_inj hcorrects, rfl⟩

theorem walk_of_sameContent {c d : EventContent Int} (h : SameContent c d) :
    walk eventErrors (.obj (c.fields .int)) = walk eventErrors (.obj (d.fields .int)) := by
  obtain ⟨hcontent, a, hc, hd⟩ := h
  rw [EventContent.bare, EventContent.bare, EventContent.mk.injEq] at hcontent
  cases c
  cases d
  simp only [and_true] at hcontent
  obtain ⟨rfl, rfl, rfl, rfl, rfl, rfl, rfl, rfl, rfl, rfl, rfl, rfl, rfl, rfl, rfl, rfl, rfl, rfl,
    rfl, rfl, rfl, rfl, rfl, rfl⟩ := hcontent
  refine walk_obj_congr (List.rel_append (List.forall₂_same.mpr fun _ _ => ⟨rfl, rfl⟩) ?_)
  exact .cons ⟨rfl, rfl⟩ (.cons ⟨rfl, rfl⟩ (.cons ⟨rfl, rfl⟩ (.cons ⟨rfl, hc.trans hd.symm⟩ .nil)))

theorem id_of_sameContent {e f : RuntimeEvent} (he : deriveEventId e.fields = .ok e.eventId)
    (hf : deriveEventId f.fields = .ok f.eventId) (h : SameContent e.content f.content) :
    e.eventId = f.eventId := by
  have hderive : deriveEventId e.fields = deriveEventId f.fields := by
    rw [deriveEventId, deriveEventId, canonicalize, canonicalize, canonicalText, canonicalText,
      RuntimeEvent.fields, RuntimeEvent.fields, walk_of_sameContent h]
  exact Except.ok.inj (he.symm.trans (hderive.trans hf))

/-- **Rows of one identity say the same**, if their callers handed over no unknown field and the
    digest does not collide on what they handed over. -/
theorem sameEvent_of_id {a b : Append} {e f : RuntimeEvent} (ha : a.draft.Plain)
    (hb : b.draft.Plain)
    (hdigest : ∀ s t, canonicalize (.obj a.draft.fields) = .ok s →
      canonicalize (.obj b.draft.fields) = .ok t → NoDigestCollision s t)
    (he : candidate assertPublicSafe a = .ok e) (hf : candidate assertPublicSafe b = .ok f)
    (h : e.eventId = f.eventId) : SameEvent e f := by
  obtain ⟨_, hida, hissuesa, _, hcontenta⟩ := candidate_ok he
  obtain ⟨_, hidb, hissuesb, _, hcontentb⟩ := candidate_ok hf
  obtain ⟨s, hs, hs'⟩ := deriveEventId_ok hida
  obtain ⟨t, ht, ht'⟩ := deriveEventId_ok hidb
  have hhex : sha256Hex s = sha256Hex t := by
    have hids : "sha256:" ++ sha256Hex s = "sha256:" ++ sha256Hex t := by rw [← hs', ← ht', h]
    exact (String.append_right_inj _).mp hids
  rw [hdigest s t hs ht hhex] at hs
  obtain ⟨c, hc, hd⟩ := alike_of_text hs ht
  refine ⟨h, content_of_alike ⟨c, ?_, ?_⟩⟩
  · rw [hcontenta]
    exact walk_parsed ha hissuesa hc
  · rw [hcontentb]
    exact walk_parsed hb hissuesb hd

end ContextLock.Events
