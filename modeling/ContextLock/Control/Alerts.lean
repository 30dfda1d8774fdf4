/-
  Subject:   Alerts: the engine of a process, and the table that outlives it.

  An alert is known by its fingerprint while a process lives, and by its id in the table. The
  engine counts its ids from one; the table keeps the rows of every process. A row is inserted
  with the id of its alert, or the row that has this id is overwritten, all but its fingerprint
  and what was fixed when it was first seen.
-/
import ContextLock.Js.Digest
import ContextLock.Js.Map
import ContextLock.Machine.Transition

namespace ContextLock.Control

open Js Machine

/-! ## 1. Alerts -/

inductive AlertRule where
  | RUNTIME_CRASH_LOOP
  | RUNTIME_UNHEALTHY
  | CRE_TELEMETRY_STALE
  | CRE_FAILURE_SPIKE
  | ADAPTER_STALE
  | ADAPTER_UNAVAILABLE
  | POLICY_UNEXPECTEDLY_ENABLED
  | POLICY_UNEXPECTEDLY_DISABLED
  | ENS_IDENTITY_CHANGED
  | ADMIN_CHANGED
  | BYTECODE_DRIFT
  | RUNTIME_IMAGE_DRIFT
  | REPEATED_DENY
  | PROMPT_INJECTION_ATTEMPTS
  | BUDGET_WARNING
  | TRANSACTION_REVERT_SPIKE
  | BRIDGE_DISCONNECTED
  | CHAIN_OBSERVER_STALE
  | STATE_DRIFT
  deriving DecidableEq

open AlertRule

def AlertRule.text : AlertRule → String
  | RUNTIME_CRASH_LOOP => "RUNTIME_CRASH_LOOP"
  | RUNTIME_UNHEALTHY => "RUNTIME_UNHEALTHY"
  | CRE_TELEMETRY_STALE => "CRE_TELEMETRY_STALE"
  | CRE_FAILURE_SPIKE => "CRE_FAILURE_SPIKE"
  | ADAPTER_STALE => "ADAPTER_STALE"
  | ADAPTER_UNAVAILABLE => "ADAPTER_UNAVAILABLE"
  | POLICY_UNEXPECTEDLY_ENABLED => "POLICY_UNEXPECTEDLY_ENABLED"
  | POLICY_UNEXPECTEDLY_DISABLED => "POLICY_UNEXPECTEDLY_DISABLED"
  | ENS_IDENTITY_CHANGED => "ENS_IDENTITY_CHANGED"
  | ADMIN_CHANGED => "ADMIN_CHANGED"
  | BYTECODE_DRIFT => "BYTECODE_DRIFT"
  | RUNTIME_IMAGE_DRIFT => "RUNTIME_IMAGE_DRIFT"
  | REPEATED_DENY => "REPEATED_DENY"
  | PROMPT_INJECTION_ATTEMPTS => "PROMPT_INJECTION_ATTEMPTS"
  | BUDGET_WARNING => "BUDGET_WARNING"
  | TRANSACTION_REVERT_SPIKE => "TRANSACTION_REVERT_SPIKE"
  | BRIDGE_DISCONNECTED => "BRIDGE_DISCONNECTED"
  | CHAIN_OBSERVER_STALE => "CHAIN_OBSERVER_STALE"
  | STATE_DRIFT => "STATE_DRIFT"

/-- `REQUIRES_RECONCILIATION`: the rules whose alerts cannot be auto-resolved. -/
def AlertRule.requiresReconciliation (rule : AlertRule) : Bool :=
  rule ∈ [POLICY_UNEXPECTEDLY_ENABLED, ADMIN_CHANGED, BYTECODE_DRIFT, RUNTIME_IMAGE_DRIFT,
    ENS_IDENTITY_CHANGED]

inductive AlertSeverity where
  | INFO
  | WARNING
  | CRITICAL
  deriving DecidableEq

inductive AlertState where
  | OPEN
  | ACKNOWLEDGED
  | RESOLVED
  deriving DecidableEq

structure Alert where
  alertId : String
  fingerprint : String
  rule : AlertRule
  severity : AlertSeverity
  state : AlertState
  projectId : String
  deploymentId : String
  subject : String
  reason : String
  evidence : List (String × Json)
  firstSeenAtMs : Int
  lastSeenAtMs : Int
  occurrences : Nat
  acknowledgedBy : Option String
  acknowledgedAtMs : Option Int
  resolvedAtMs : Option Int
  resolvedBy : Option String
  resolutionEvidence : Option String
  requiresReconciliation : Bool

def fingerprintOf (rule : AlertRule) (deploymentId subject : String) : String :=
  "fp_" ++ String.ofList
    ((sha256Hex (rule.text ++ "|" ++ deploymentId ++ "|" ++ subject)).toList.take 24)

/-- `alr_` and the number, filled up to six digits. -/
def alertIdOf (seq : Nat) : String :=
  "alr_" ++ String.ofList ((Nat.toDigits 10 seq).leftpad 6 '0')

def enoughEvidence (evidence : Option String) : Bool :=
  evidence.any fun text => 10 ≤ textLength (trim text)

/-! ## 2. The engine -/

inductive AlertReason where
  | RECONCILIATION_REQUIRED
  | UNKNOWN_ALERT
  | ALREADY_RESOLVED

structure AlertError where
  reason : AlertReason
  detail : String

structure RaiseArgs where
  rule : AlertRule
  severity : AlertSeverity
  projectId : String
  deploymentId : String
  subject : String
  reason : String
  evidence : Option (List (String × Json))
  nowMs : Int

structure AlertEngine where
  byFingerprint : Map Alert
  seq : Nat

def AlertEngine.new : AlertEngine := ⟨Map.empty, 0⟩

def RaiseArgs.fingerprint (args : RaiseArgs) : String :=
  fingerprintOf args.rule args.deploymentId args.subject

def Alert.seenAgain (a : Alert) (args : RaiseArgs) : Alert :=
  { a with occurrences := a.occurrences + 1
           lastSeenAtMs := args.nowMs
           reason := args.reason
           evidence := (args.evidence.getD []).foldl (fun es e => setEntry e.1 e.2 es) a.evidence
           severity := if args.severity = .CRITICAL then .CRITICAL else a.severity }

def RaiseArgs.alert (args : RaiseArgs) (seq : Nat) : Alert where
  alertId := alertIdOf seq
  fingerprint := args.fingerprint
  rule := args.rule
  severity := args.severity
  state := .OPEN
  projectId := args.projectId
  deploymentId := args.deploymentId
  subject := args.subject
  reason := args.reason
  evidence := args.evidence.getD []
  firstSeenAtMs := args.nowMs
  lastSeenAtMs := args.nowMs
  occurrences := 1
  acknowledgedBy := none
  acknowledgedAtMs := none
  resolvedAtMs := none
  resolvedBy := none
  resolutionEvidence := none
  requiresReconciliation := args.rule.requiresReconciliation

namespace AlertEngine

variable (e : AlertEngine)

def unresolved (fingerprint : String) : Option Alert :=
  (e.byFingerprint.get? fingerprint).filter (·.state ≠ .RESOLVED)

def raise (args : RaiseArgs) : Alert × AlertEngine :=
  match e.unresolved args.fingerprint with
  | some a =>
    (a.seenAgain args,
      { e with byFingerprint := e.byFingerprint.set args.fingerprint (a.seenAgain args) })
  | none =>
    -- it came back, or was never there
    let a := args.alert (e.seq + 1)
    (a, ⟨(e.byFingerprint.delete args.fingerprint).set args.fingerprint a, e.seq + 1⟩)

def get (alertId : String) : Option Alert := e.byFingerprint.values.find? (·.alertId = alertId)

/-- The alert, in place of the one with its fingerprint. -/
def put (a : Alert) : AlertEngine := { e with byFingerprint := e.byFingerprint.set a.fingerprint a }

def acknowledge (alertId actorId : String) (nowMs : Int) : Except AlertError Alert :=
  match e.get alertId with
  | none => .error ⟨.UNKNOWN_ALERT, alertId⟩
  | some a => .ok { a with state := .ACKNOWLEDGED, acknowledgedBy := some actorId
                           acknowledgedAtMs := some nowMs }

def resolve (alertId actorId : String) (evidence : Option String) (nowMs : Int) :
    Except AlertError Alert :=
  match e.get alertId with
  | none => .error ⟨.UNKNOWN_ALERT, alertId⟩
  | some a =>
    if a.state = .RESOLVED then .error ⟨.ALREADY_RESOLVED, alertId⟩
    else if a.requiresReconciliation && !enoughEvidence evidence then
      .error ⟨.RECONCILIATION_REQUIRED, a.rule.text ++ " on " ++ a.subject ++ " is a security drift "
        ++ "and cannot be resolved without reconciliation evidence. A later poll returning normal "
        ++ "does not mean it did not happen."⟩
    else .ok { a with state := .RESOLVED, resolvedAtMs := some nowMs, resolvedBy := some actorId
                      resolutionEvidence := evidence }

def autoResolve (rule : AlertRule) (deploymentId subject : String) (nowMs : Int) : Option Alert :=
  match e.unresolved (fingerprintOf rule deploymentId subject) with
  | none => none
  | some a =>
    if a.requiresReconciliation then none
    else some { a with state := .RESOLVED, resolvedAtMs := some nowMs, resolvedBy := some "system"
                       resolutionEvidence := some "the condition was no longer observed" }

end AlertEngine

/-! ## 3. The table -/

/-- Another row of the fingerprint is unresolved. -/
def openElsewhere (rows : List Alert) (alertId fingerprint : String) : Bool :=
  rows.any fun r => r.alertId ≠ alertId && r.fingerprint = fingerprint && r.state ≠ .RESOLVED

/-- What `DO UPDATE SET` writes into the row. -/
def Alert.overwrite (row a : Alert) : Alert :=
  { row with
    severity := a.severity
    state := a.state
    reason := a.reason
    evidence := a.evidence
    lastSeenAtMs := a.lastSeenAtMs
    occurrences := a.occurrences
    acknowledgedBy := a.acknowledgedBy
    acknowledgedAtMs := a.acknowledgedAtMs
    resolvedAtMs := a.resolvedAtMs
    resolvedBy := a.resolvedBy
    resolutionEvidence := a.resolutionEvidence }

/-- `persistAlert`: an insert, or an update of the row that has the id; `idx_alert_open` lets one
    row of a fingerprint be unresolved. -/
def persistAlert (rows : List Alert) (a : Alert) : Except String (List Alert) :=
  match rows.find? (·.alertId = a.alertId) with
  | some row =>
    if a.state ≠ .RESOLVED ∧ openElsewhere rows row.alertId row.fingerprint then
      .error "UNIQUE constraint failed: control_alerts.fingerprint"
    else .ok (rows.map fun r => if r.alertId = a.alertId then r.overwrite a else r)
  | none =>
    if a.state ≠ .RESOLVED ∧ openElsewhere rows a.alertId a.fingerprint then
      .error "UNIQUE constraint failed: control_alerts.fingerprint"
    else .ok (rows ++ [a])

/-! ## 4. Processes -/

inductive AlertCall where
  | raise (args : RaiseArgs)
  | acknowledge (alertId actorId : String) (nowMs : Int)
  | resolve (alertId actorId : String) (evidence : Option String) (nowMs : Int)
  | autoResolve (rule : AlertRule) (deploymentId subject : String) (nowMs : Int)
  | restart

structure AlertProcess where
  engine : AlertEngine
  rows : List Alert

inductive AlertOutcome where
  /-- The call returned an alert, and it was stored. -/
  | stored (a : Alert)
  /-- There was nothing to store. -/
  | nothing
  | refused (e : AlertError)
  /-- The database refused the row. -/
  | failed (message : String)

namespace AlertProcess

variable (s : AlertProcess)

def persist (engine : AlertEngine) (a : Alert) : AlertOutcome × AlertProcess :=
  match persistAlert s.rows a with
  | .ok rows => (.stored a, ⟨engine, rows⟩)
  | .error message => (.failed message, ⟨engine, s.rows⟩)

/-- A call, and the persistence of what it returns. -/
def call : AlertCall → AlertOutcome × AlertProcess
  | .raise args => s.persist (s.engine.raise args).2 (s.engine.raise args).1
  | .acknowledge alertId actorId nowMs =>
    match s.engine.acknowledge alertId actorId nowMs with
    | .error e => (.refused e, s)
    | .ok a => s.persist (s.engine.put a) a
  | .resolve alertId actorId evidence nowMs =>
    match s.engine.resolve alertId actorId evidence nowMs with
    | .error e => (.refused e, s)
    | .ok a => s.persist (s.engine.put a) a
  | .autoResolve rule deploymentId subject nowMs =>
    match s.engine.autoResolve rule deploymentId subject nowMs with
    | none => (.nothing, s)
    | some a => s.persist (s.engine.put a) a
  | .restart => (.nothing, ⟨AlertEngine.new, s.rows⟩)

def step (c : AlertCall) : Option AlertProcess := some (s.call c).2

end AlertProcess

def AlertProcess.first : AlertProcess := ⟨AlertEngine.new, []⟩

/-! ## 5. Rows that keep their history -/

/-- A new alert has a new id, and no row of its fingerprint is unresolved; no resolved alert is
    acknowledged. -/
def Proper (s : AlertProcess) : AlertCall → Prop
  | .raise args => (s.engine.unresolved args.fingerprint).isNone = true →
      (∀ row ∈ s.rows, row.alertId ≠ alertIdOf (s.engine.seq + 1)) ∧
        ∀ row ∈ s.rows, row.fingerprint = args.fingerprint → row.state = .RESOLVED
  | .acknowledge alertId _ _ => ∀ a ∈ s.engine.get alertId, a.state ≠ .RESOLVED
  | _ => True

instance (s : AlertProcess) (c : AlertCall) : Decidable (Proper s c) := by
  cases c <;> unfold Proper <;> infer_instance

/-- What the engine holds is in the table, and the table is well-kept. -/
structure Consistent (s : AlertProcess) : Prop where
  keyed : (s.rows.map (·.alertId)).Nodup
  held : ∀ fingerprint a, s.engine.byFingerprint.get? fingerprint = some a →
    a ∈ s.rows ∧ a.fingerprint = fingerprint
  oneOpen : ∀ row ∈ s.rows, ∀ row' ∈ s.rows, row.fingerprint = row'.fingerprint →
    row.state ≠ .RESOLVED → row'.state ≠ .RESOLVED → row.alertId = row'.alertId
  requires : ∀ row ∈ s.rows, row.requiresReconciliation = row.rule.requiresReconciliation

section Rows

variable {rows : List Alert} {a a' row : Alert}

end Rows

/-! ## 6. One call -/

/-- Why an alert of the engine was changed: it was seen again, acknowledged or resolved. -/
structure Changed (s : AlertProcess) (c : AlertCall) (a a' : Alert) : Prop where
  same : a.overwrite a' = a'
  reopened : a'.state ≠ .RESOLVED → a.state = .RESOLVED →
    ∃ alertId actorId nowMs, c = .acknowledge alertId actorId nowMs ∧ s.engine.get alertId = some a
  resolved : a'.state = .RESOLVED → a.state = .RESOLVED ∨ a.requiresReconciliation = false ∨
    ∃ alertId actorId evidence nowMs, c = .resolve alertId actorId evidence nowMs ∧
      enoughEvidence evidence = true

/-- What a call comes to: nothing is stored; a new alert is; or one of the engine's is, changed. -/
inductive Called (s : AlertProcess) (c : AlertCall) : AlertOutcome × AlertProcess → Prop
  | idle (outcome : AlertOutcome) (engine : AlertEngine)
      (hengine : engine = s.engine ∨ c = .restart ∧ engine = AlertEngine.new)
      (houtcome : ∀ message, outcome ≠ .failed message) :
      Called s c (outcome, ⟨engine, s.rows⟩)
  | new (args : RaiseArgs) (hc : c = .raise args)
      (hnone : s.engine.unresolved args.fingerprint = none) :
      Called s c (s.persist
        ⟨(s.engine.byFingerprint.delete args.fingerprint).set args.fingerprint
          (args.alert (s.engine.seq + 1)), s.engine.seq + 1⟩ (args.alert (s.engine.seq + 1)))
  | changed (fingerprint : String) (a a' : Alert)
      (hget : s.engine.byFingerprint.get? fingerprint = some a) (hchanged : Changed s c a a') :
      Called s c (s.persist
        { s.engine with byFingerprint := s.engine.byFingerprint.set fingerprint a' } a')

section Call

variable {s : AlertProcess} {c : AlertCall} {a : Alert}

theorem unresolved_eq_some {fingerprint : String} (h : s.engine.unresolved fingerprint = some a) :
    s.engine.byFingerprint.get? fingerprint = some a ∧ a.state ≠ .RESOLVED := by
  obtain ⟨hget, hstate⟩ := Option.filter_eq_some_iff.mp h
  exact ⟨hget, of_decide_eq_true hstate⟩

theorem get_eq_some {alertId : String} (h : s.engine.get alertId = some a) :
    ∃ fingerprint, s.engine.byFingerprint.get? fingerprint = some a := by
  obtain ⟨e, he, rfl⟩ := List.mem_map.mp (List.mem_of_find?_eq_some h)
  exact ⟨e.1, s.engine.byFingerprint.get?_of_mem he⟩

theorem called (hfp : ∀ fingerprint a, s.engine.byFingerprint.get? fingerprint = some a →
    a.fingerprint = fingerprint) : Called s c (s.call c) := by
  cases c with
  | raise args =>
    show Called s _ (s.persist (s.engine.raise args).2 (s.engine.raise args).1)
    cases hunresolved : s.engine.unresolved args.fingerprint with
    | none =>
      simp only [AlertEngine.raise, hunresolved]
      exact .new args rfl hunresolved
    | some a =>
      obtain ⟨hget, hstate⟩ := unresolved_eq_some hunresolved
      simp only [AlertEngine.raise, hunresolved]
      refine .changed args.fingerprint a (a.seenAgain args) hget ⟨rfl, fun _ h => absurd h hstate, ?_⟩
      exact fun h => absurd h hstate
  | acknowledge alertId actorId nowMs =>
    cases hget : s.engine.get alertId with
    | none =>
      simp only [AlertProcess.call, AlertEngine.acknowledge, hget]
      exact .idle _ _ (Or.inl rfl) fun _ h => by cases h
    | some a =>
      obtain ⟨fingerprint, hheld⟩ := get_eq_some hget
      obtain rfl := hfp fingerprint a hheld
      simp only [AlertProcess.call, AlertEngine.acknowledge, hget, AlertEngine.put]
      refine .changed a.fingerprint a _ hheld ⟨rfl, fun _ _ => ⟨alertId, actorId, nowMs, rfl, hget⟩, ?_⟩
      intro h
      cases h
  | resolve alertId actorId evidence nowMs =>
    cases hget : s.engine.get alertId with
    | none =>
      simp only [AlertProcess.call, AlertEngine.resolve, hget]
      exact .idle _ _ (Or.inl rfl) fun _ h => by cases h
    | some a =>
      obtain ⟨fingerprint, hheld⟩ := get_eq_some hget
      obtain rfl := hfp fingerprint a hheld
      by_cases hstate : a.state = .RESOLVED
      · simp only [AlertProcess.call, AlertEngine.resolve, hget, if_pos hstate]
        exact .idle _ _ (Or.inl rfl) fun _ h => by cases h
      by_cases hevidence : (a.requiresReconciliation && !enoughEvidence evidence) = true
      · simp only [AlertProcess.call, AlertEngine.resolve, hget, if_neg hstate, if_pos hevidence]
        exact .idle _ _ (Or.inl rfl) fun _ h => by cases h
      simp only [AlertProcess.call, AlertEngine.resolve, hget, if_neg hstate, if_neg hevidence,
        AlertEngine.put]
      refine .changed a.fingerprint a _ hheld ⟨rfl, fun h => absurd rfl h, fun _ => ?_⟩
      cases hrequires : a.requiresReconciliation with
      | false => exact Or.inr (Or.inl rfl)
      | true =>
        rw [hrequires, Bool.true_and] at hevidence
        refine Or.inr (Or.inr ⟨alertId, actorId, evidence, nowMs, rfl, ?_⟩)
        simpa using hevidence
  | autoResolve rule deploymentId subject nowMs =>
    cases hunresolved : s.engine.unresolved (fingerprintOf rule deploymentId subject) with
    | none =>
      simp only [AlertProcess.call, AlertEngine.autoResolve, hunresolved]
      exact .idle _ _ (Or.inl rfl) fun _ h => by cases h
    | some a =>
      obtain ⟨hheld, hstate⟩ := unresolved_eq_some hunresolved
      cases hrequires : a.requiresReconciliation with
      | true =>
        simp only [AlertProcess.call, AlertEngine.autoResolve, hunresolved, hrequires, if_true]
        exact .idle _ _ (Or.inl rfl) fun _ h => by cases h
      | false =>
        have hown := hfp _ a hheld
        rw [← hown] at hheld
        simp only [AlertProcess.call, AlertEngine.autoResolve, hunresolved, hrequires,
          Bool.false_eq_true, if_false, AlertEngine.put]
        refine .changed a.fingerprint a _ hheld ⟨?_, fun h => absurd rfl h, fun _ =>
          Or.inr (Or.inl hrequires)⟩
        rw [← hrequires]
        rfl
  | restart => exact .idle _ _ (Or.inr ⟨rfl, rfl⟩) fun _ h => by cases h

theorem Changed.fixed {a' : Alert} (h : Changed s c a a') : a'.alertId = a.alertId ∧
    a'.fingerprint = a.fingerprint ∧ a'.rule = a.rule ∧
      a'.requiresReconciliation = a.requiresReconciliation := by
  rw [← h.same]
  exact ⟨rfl, rfl, rfl, rfl⟩

end Call

end ContextLock.Control
