/-
  Subject:   What a deployment to a local fork does with a control command.

  A deployment has, while its process lives, a fork, the policy and the identity registered on
  it, and perhaps an agent runtime. The chain decides what becomes of a transaction; a command
  is told what was read back afterwards, not what the receipt says.
-/
import ContextLock.Control.Commands
import ContextLock.Control.Emergency

namespace ContextLock.Control

open Js Machine

/-! ## 1. A deployment -/

structure Runtime where
  paused : Bool
  stopping : Bool

def Runtime.pause (rt : Runtime) : Runtime := { rt with paused := true }

def Runtime.resume (rt : Runtime) : Runtime := { rt with paused := false }

def Runtime.stop (rt : Runtime) : Runtime := { rt with stopping := true }

/-- The runtime observes and proposes. -/
def Runtime.running (rt : Runtime) : Bool := !rt.paused && !rt.stopping

structure Live where
  runtime : Option Runtime
  /-- Set by an emergency lock. -/
  emergencyLocked : Bool

/-- A deployment that has a row, and the fork it runs on. -/
structure Deployment where
  revision : String
  live : Option Live
  /-- The fork provider has the fork as READY. -/
  forkReady : Bool
  /-- The record has a fork and contracts. -/
  recorded : Bool
  /-- `isPolicyEnabled`, on the fork. -/
  policyEnabled : Bool
  /-- `isIdentityCurrent`, on the fork. -/
  identityCurrent : Bool

def Deployment.runtime (d : Deployment) : Option Runtime := d.live.bind (·.runtime)

def Deployment.forkUp (d : Deployment) : Bool := d.live.isSome && d.forkReady && d.recorded

/-- The runtime, where there is one, after `f`. -/
def Deployment.updateRuntime (d : Deployment) (f : Runtime → Runtime) : Deployment :=
  { d with live := d.live.map fun l => { l with runtime := l.runtime.map f } }

/-- What becomes of a transaction. -/
inductive TxAnswer where
  /-- Sending it or waiting for it failed; it may have taken effect all the same. -/
  | rejected (message : String) (landed : Bool)
  /-- Its receipt came, and the read after it answered or failed. -/
  | mined (hash : String) (block : Nat) (success : Bool) (readFails : Option String)

/-- The transaction took effect. -/
def TxAnswer.landed : TxAnswer → Bool
  | .rejected _ landed => landed
  | .mined _ _ success _ => success

structure Chain where
  policyTx : TxAnswer
  identityTx : TxAnswer

structure PolicyChange where
  outcome : ActionOutcome
  txHash : String

/-- `setPolicyEnabled`: the bit is read back after the receipt. -/
def setPolicyEnabled (d : Deployment) (enabled : Bool) (tx : TxAnswer) :
    Except String PolicyChange × Deployment :=
  let d := if tx.landed then { d with policyEnabled := enabled } else d
  match tx with
  | .rejected message _ => (.error message, d)
  | .mined _ _ _ (some message) => (.error message, d)
  | .mined hash block success none =>
    let now := d.policyEnabled
    let ok := success && now = enabled
    (.ok { outcome := {
             ok
             verification := "isPolicyEnabled read back " ++ boolText now ++ " at fork block "
               ++ toString block
             detail :=
               if ok then "policy " ++ (if enabled then "ENABLED" else "DISABLED") ++ " on the fork"
               else "the fork reads " ++ boolText now ++ " after asking for " ++ boolText enabled }
           txHash := hash }, d)

/-- `revokeIdentity`: the binding is read back after the receipt. -/
def revokeIdentity (d : Deployment) (tx : TxAnswer) : ActionReply × Deployment :=
  let d := if tx.landed then { d with identityCurrent := false } else d
  match tx with
  | .rejected message _ => (.error message, d)
  | .mined _ _ _ (some message) => (.error message, d)
  | .mined _ _ success none =>
    let current := d.identityCurrent
    (.ok { ok := success && !current
           verification := "isIdentityCurrent read back " ++ boolText current
           detail := if current then "the identity still reads as bound"
             else "the agent identity is revoked on the fork; the executor will refuse every "
               ++ "capability" }, d)

/-! ## 2. The emergency lock on a deployment -/

/-- The action of a step, carried out. -/
def lockAction (forkUp : Bool) (chain : Chain) (step : EmergencyStep) (d : Deployment) :
    ActionReply × Deployment :=
  match step with
  | .disablePolicy =>
    if forkUp then
      let (change, d) := setPolicyEnabled d false chain.policyTx
      (change.map (·.outcome), d)
    else (.ok ⟨false, "no fork",
      "the fork is not running; the policy cannot be read or written"⟩, d)
  | .denyNewCapabilities => (.ok ⟨true,
      "the fork runtime proposes through the policy engine, which returns DENY_POLICY_DISABLED "
        ++ "once the registry bit is off",
      "no capability can be issued against a disabled policy"⟩, d)
  | .pauseCre => (.ok ⟨true, "n/a", "no CRE workflow is deployed"⟩, d)
  | .stopRuntime =>
    let d := d.updateRuntime Runtime.stop
    (.ok ⟨true, d.runtime.elim "no runtime" fun rt => "runtime stopping=" ++ boolText rt.stopping,
      "the agent runtime was stopped"⟩, d)
  | .revokeIdentity =>
    if forkUp then revokeIdentity d chain.identityTx
    else (.ok ⟨false, "no fork", "the fork is not running"⟩, d)

def EmergencyStep.label : EmergencyStep → String
  | .disablePolicy => "disable policy"
  | .denyNewCapabilities => "deny new capabilities"
  | .pauseCre => "pause cre"
  | .stopRuntime => "stop runtime"
  | .revokeIdentity => "revoke identity"

def EmergencyStepState.line (s : EmergencyStepState) : String :=
  match s.outcome with
  | .succeeded => s.step.label ++ ": done" ++ s.verification.elim "" fun v =>
      if v = "" then "" else " (" ++ v ++ ")"
  | .failed => s.step.label ++ ": FAILED — " ++ s.detail.getD "no detail"
  | .notApplicable => s.step.label ++ ": not applicable — " ++ s.detail.getD ""
  | .skipped => s.step.label ++ ": skipped"
  | .pending => s.step.label ++ ": not attempted"

structure EmergencySummary where
  headline : String
  financialPolicy : String
  lines : List String

def emergencySummary (r : EmergencyLockRecord) : EmergencySummary where
  headline :=
    match r.state with
    | .complete => "Emergency lock complete. Financial policy is disabled."
    | .partialLock => "Emergency lock PARTIAL. The financial policy is disabled; one or more "
        ++ "operational steps failed."
    | _ => "Emergency lock FAILED to disable the financial policy. This agent may still be able "
        ++ "to move value."
  financialPolicy := if r.financialPolicyDisabled then "DISABLED" else "NOT CONFIRMED DISABLED"
  lines := r.steps.map (·.line)

/-! ## 3. Carrying out a command -/

/-- What a command produced. -/
inductive CommandResult where
  | null
  | policy (verification txHash : String)
  | runtime (state : String)
  | identity (verification : String)
  | lock (summary : EmergencySummary) (lock : EmergencyLockRecord)

structure Execution where
  ok : Bool
  detail : String
  result : CommandResult

/-- What the process decides while one command is carried out. -/
structure Surroundings where
  chain : Chain
  /-- The id a lock draws. -/
  lockUuid : String
  clock : Nat → Int

/-- `(cmd.confirmation)?.includeIdentityRevocation === true`. -/
def ControlCommand.includeIdentityRevocation (cmd : ControlCommand) : Bool :=
  match cmd.confirmation with
  | some (.obj fields) =>
    match fields.lookup "includeIdentityRevocation" with
    | some (.bool b) => b
    | _ => false
  | _ => false

def ControlCommand.lockRequest (cmd : ControlCommand) (d : Deployment) (env : Surroundings) :
    LockRequest where
  lockId := "lock_" ++ String.ofList (env.lockUuid.toList.take 8)
  deploymentId := cmd.deploymentId
  idempotencyKey := cmd.commandId
  initiatedBy := cmd.actor.actorId
  nowMs := env.clock 0
  includeIdentityRevocation := cmd.includeIdentityRevocation
  applicability :=
    { creWorkflowExists := false, runtimeExists := d.runtime.isSome, identityExists := d.forkUp }

def notApplicableHere (what : String) : Execution :=
  ⟨false, what ++ " is not applicable to a local fork deployment", .null⟩

/-- The lock as the deployment carries it out. -/
def executeLock (d : Deployment) (cmd : ControlCommand) (env : Surroundings) :
    Except String Execution × Deployment :=
  let lock := newEmergencyLock (cmd.lockRequest d env)
  let (done, d) := (runEmergencyLock lock fun n => env.clock (n + 1)).handle
    (lockAction d.forkUp env.chain) d
  match done with
  | .error message => (.error message, d)
  | .ok done =>
    let summary := emergencySummary done
    (.ok ⟨done.state = .complete, summary.headline, .lock summary done⟩,
      { d with live := d.live.map fun l => { l with emergencyLocked := true } })

/-- `ForkLabService.execute`, of a deployment that has a row. -/
def execute (d : Deployment) (cmd : ControlCommand) (env : Surroundings) :
    Except String Execution × Deployment :=
  match cmd.operation with
  | .ENABLE_POLICY | .DISABLE_POLICY =>
    if d.forkUp then
      let (change, d) := setPolicyEnabled d (cmd.operation = .ENABLE_POLICY) env.chain.policyTx
      (change.map fun r =>
        ⟨r.outcome.ok, r.outcome.detail, .policy r.outcome.verification r.txHash⟩, d)
    else (.ok ⟨false, "the fork is not running; the policy cannot be changed", .null⟩, d)
  | .PAUSE_RUNTIME =>
    if d.runtime.isSome then
      (.ok ⟨true, "the runtime is paused; it no longer observes or proposes. The policy on the "
        ++ "fork is unchanged.", .runtime "PAUSED"⟩, d.updateRuntime Runtime.pause)
    else (.ok ⟨false, "no runtime is running", .null⟩, d)
  | .RESUME_RUNTIME =>
    if d.runtime.isSome then
      (.ok ⟨true, "the runtime resumed", .runtime "HEALTHY"⟩, d.updateRuntime Runtime.resume)
    else (.ok ⟨false, "no runtime is running", .null⟩, d)
  | .REVOKE_IDENTITY =>
    if d.forkUp then
      let (reply, d) := revokeIdentity d env.chain.identityTx
      (reply.map fun r => ⟨r.ok, r.detail, .identity r.verification⟩, d)
    else (.ok ⟨false, "the fork is not running", .null⟩, d)
  | .EMERGENCY_LOCK => executeLock d cmd env
  | .PAUSE_CRE | .ACTIVATE_CRE | .DELETE_CRE =>
    (.ok (notApplicableHere ("a CRE workflow operation (no workflow is deployed; Deploy Access "
      ++ "is not enabled)")), d)
  | .ROLLBACK_RUNTIME | .ROTATE_RUNTIME_REVISION =>
    (.ok (notApplicableHere "a runtime revision operation (the fork runtime has one revision)"), d)

/-! ## 4. What success and failure mean -/

/-- The state of a deployment that an operation asks for. -/
def Deployment.Meets (d : Deployment) (identity : Bool) : ControlOperation → Prop
  | .ENABLE_POLICY => d.policyEnabled = true
  | .DISABLE_POLICY => d.policyEnabled = false
  | .PAUSE_RUNTIME => ∃ rt, d.runtime = some rt ∧ rt.paused = true
  | .RESUME_RUNTIME => ∃ rt, d.runtime = some rt ∧ rt.running = true
  | .REVOKE_IDENTITY => d.identityCurrent = false
  | .EMERGENCY_LOCK => d.policyEnabled = false ∧ (∀ rt ∈ d.runtime, rt.stopping = true) ∧
      (identity = true → d.identityCurrent = false)
  | .PAUSE_CRE | .ACTIVATE_CRE | .DELETE_CRE | .ROLLBACK_RUNTIME | .ROTATE_RUNTIME_REVISION =>
    False

section Transactions

variable {d : Deployment} {tx : TxAnswer} {enabled : Bool}

theorem setPolicyEnabled_ok {c : PolicyChange} (h : (setPolicyEnabled d enabled tx).1 = .ok c)
    (hok : c.outcome.ok = true) : (setPolicyEnabled d enabled tx).2.policyEnabled = enabled := by
  cases tx with
  | rejected message landed => cases h
  | mined hash block success readFails =>
    cases readFails with
    | some message => cases h
    | none =>
      cases h
      cases success with
      | true => rfl
      | false => exact Bool.noConfusion hok

theorem setPolicyEnabled_failed {c : PolicyChange}
    (h : (setPolicyEnabled d enabled tx).1 = .ok c) (hok : c.outcome.ok = false) :
    (setPolicyEnabled d enabled tx).2 = d := by
  cases tx with
  | rejected message landed => cases h
  | mined hash block success readFails =>
    cases readFails with
    | some message => cases h
    | none =>
      cases h
      cases success with
      | true => simp [TxAnswer.landed] at hok
      | false => rfl

theorem revokeIdentity_ok {out : ActionOutcome} (h : (revokeIdentity d tx).1 = .ok out)
    (hok : out.ok = true) : (revokeIdentity d tx).2.identityCurrent = false := by
  cases tx with
  | rejected message landed => cases h
  | mined hash block success readFails =>
    cases readFails with
    | some message => cases h
    | none =>
      cases h
      cases success with
      | true => rfl
      | false => exact Bool.noConfusion hok

theorem revokeIdentity_failed {out : ActionOutcome} (h : (revokeIdentity d tx).1 = .ok out)
    (hok : out.ok = false) : (revokeIdentity d tx).2 = d := by
  cases tx with
  | rejected message landed => cases h
  | mined hash block success readFails =>
    cases readFails with
    | some message => cases h
    | none =>
      cases h
      cases success with
      | true => simp [TxAnswer.landed] at hok
      | false => rfl

theorem setPolicyEnabled_rest : ∃ b, (setPolicyEnabled d enabled tx).2 =
    { d with policyEnabled := b } ∧ (d.policyEnabled = enabled → b = enabled) := by
  have hd : d = { d with policyEnabled := d.policyEnabled } := rfl
  cases hl : tx.landed with
  | true =>
    refine ⟨enabled, ?_, fun _ => rfl⟩
    rcases tx with ⟨message, landed⟩ | ⟨hash, block, success, _ | message⟩ <;>
      simp only [setPolicyEnabled, hl, if_true]
  | false =>
    refine ⟨d.policyEnabled, ?_, id⟩
    rcases tx with ⟨message, landed⟩ | ⟨hash, block, success, _ | message⟩ <;>
      simp only [setPolicyEnabled, hl, Bool.false_eq_true, if_false]

theorem revokeIdentity_rest : ∃ b, (revokeIdentity d tx).2 = { d with identityCurrent := b } ∧
    (d.identityCurrent = false → b = false) := by
  cases hl : tx.landed with
  | true =>
    refine ⟨false, ?_, fun _ => rfl⟩
    rcases tx with ⟨message, landed⟩ | ⟨hash, block, success, _ | message⟩ <;>
      simp only [revokeIdentity, hl, if_true]
  | false =>
    refine ⟨d.identityCurrent, ?_, id⟩
    rcases tx with ⟨message, landed⟩ | ⟨hash, block, success, _ | message⟩ <;>
      simp only [revokeIdentity, hl, Bool.false_eq_true, if_false]

end Transactions

/-! ## 5. The lock carried out -/

/-- What a step of the lock brings about. -/
def StepDone (forkUp : Bool) (d : Deployment) : EmergencyStep → Prop
  | .disablePolicy => forkUp = true ∧ d.policyEnabled = false
  | .stopRuntime => ∀ rt ∈ d.runtime, rt.stopping = true
  | .revokeIdentity => d.identityCurrent = false
  | .denyNewCapabilities | .pauseCre => True

section Lock

variable {forkUp : Bool} {chain : Chain} {d : Deployment} {step : EmergencyStep}

theorem runtime_updateRuntime (f : Runtime → Runtime) :
    (d.updateRuntime f).runtime = d.runtime.map f := by
  rcases d with ⟨revision, _ | live, forkReady, recorded, policyEnabled, identityCurrent⟩ <;> rfl

theorem lockAction_runtime :
    (lockAction forkUp chain step d).2.runtime = d.runtime ∨
      (lockAction forkUp chain step d).2.runtime = d.runtime.map Runtime.stop := by
  cases step with
  | disablePolicy =>
    cases forkUp with
    | false => exact Or.inl rfl
    | true =>
      obtain ⟨b, hb, _⟩ := @setPolicyEnabled_rest d chain.policyTx false
      have hruntime : (setPolicyEnabled d false chain.policyTx).2.runtime = d.runtime := by rw [hb]; rfl
      exact Or.inl hruntime
  | denyNewCapabilities => exact Or.inl rfl
  | pauseCre => exact Or.inl rfl
  | stopRuntime => exact Or.inr (runtime_updateRuntime Runtime.stop)
  | revokeIdentity =>
    cases forkUp with
    | false => exact Or.inl rfl
    | true =>
      obtain ⟨b, hb, _⟩ := @revokeIdentity_rest d chain.identityTx
      have hruntime : (revokeIdentity d chain.identityTx).2.runtime = d.runtime := by rw [hb]; rfl
      exact Or.inl hruntime

theorem lockAction_isSome :
    (lockAction forkUp chain step d).2.runtime.isSome = d.runtime.isSome := by
  rcases @lockAction_runtime forkUp chain d step with h | h <;> rw [h]
  exact Option.isSome_map

theorem lockAction_stopped (h : ∀ rt ∈ d.runtime, rt.stopping = true) :
    ∀ rt ∈ (lockAction forkUp chain step d).2.runtime, rt.stopping = true := by
  rcases @lockAction_runtime forkUp chain d step with heq | heq
  · rw [heq]
    exact h
  · intro rt hrt
    rw [heq] at hrt
    obtain ⟨rt', -, rfl⟩ := Option.map_eq_some_iff.mp hrt
    rfl

theorem lockAction_policy (h : d.policyEnabled = false) :
    (lockAction forkUp chain step d).2.policyEnabled = false := by
  cases step with
  | disablePolicy =>
    cases forkUp with
    | false => exact h
    | true =>
      obtain ⟨b, hb, hkeep⟩ := @setPolicyEnabled_rest d chain.policyTx false
      exact (congrArg Deployment.policyEnabled hb).trans (hkeep h)
  | denyNewCapabilities => exact h
  | pauseCre => exact h
  | stopRuntime => exact h
  | revokeIdentity =>
    cases forkUp with
    | false => exact h
    | true =>
      obtain ⟨b, hb, _⟩ := @revokeIdentity_rest d chain.identityTx
      exact (congrArg Deployment.policyEnabled hb).trans h

theorem lockAction_identity (h : d.identityCurrent = false) :
    (lockAction forkUp chain step d).2.identityCurrent = false := by
  cases step with
  | disablePolicy =>
    cases forkUp with
    | false => exact h
    | true =>
      obtain ⟨b, hb, _⟩ := @setPolicyEnabled_rest d chain.policyTx false
      exact (congrArg Deployment.identityCurrent hb).trans h
  | denyNewCapabilities => exact h
  | pauseCre => exact h
  | stopRuntime => exact h
  | revokeIdentity =>
    cases forkUp with
    | false => exact h
    | true =>
      obtain ⟨b, hb, hkeep⟩ := @revokeIdentity_rest d chain.identityTx
      exact (congrArg Deployment.identityCurrent hb).trans (hkeep h)

theorem lockAction_keeps {t : EmergencyStep} (h : StepDone forkUp d t) :
    StepDone forkUp (lockAction forkUp chain step d).2 t := by
  cases t with
  | disablePolicy => exact ⟨h.1, lockAction_policy h.2⟩
  | denyNewCapabilities => trivial
  | pauseCre => trivial
  | stopRuntime => exact lockAction_stopped h
  | revokeIdentity => exact lockAction_identity h

theorem lockAction_done (h : succeeded (lockAction forkUp chain step d).1 = true) :
    StepDone forkUp (lockAction forkUp chain step d).2 step := by
  cases step with
  | disablePolicy =>
    cases forkUp with
    | false => exact Bool.noConfusion h
    | true =>
      refine ⟨rfl, ?_⟩
      have hmap : (lockAction true chain .disablePolicy d).1 =
          (setPolicyEnabled d false chain.policyTx).1.map (·.outcome) := rfl
      rw [hmap] at h
      cases hchange : (setPolicyEnabled d false chain.policyTx).1 with
      | error message =>
        rw [hchange] at h
        exact Bool.noConfusion h
      | ok c =>
        rw [hchange] at h
        exact setPolicyEnabled_ok hchange h
  | denyNewCapabilities => trivial
  | pauseCre => trivial
  | stopRuntime =>
    intro rt hrt
    rw [show (lockAction forkUp chain .stopRuntime d).2 = d.updateRuntime Runtime.stop from rfl,
      runtime_updateRuntime] at hrt
    obtain ⟨rt', -, rfl⟩ := Option.map_eq_some_iff.mp hrt
    rfl
  | revokeIdentity =>
    cases forkUp with
    | false => exact Bool.noConfusion h
    | true =>
      have hreply : (lockAction true chain .revokeIdentity d).1 =
          (revokeIdentity d chain.identityTx).1 := rfl
      rw [hreply] at h
      cases hout : (revokeIdentity d chain.identityTx).1 with
      | error message =>
        rw [hout] at h
        exact Bool.noConfusion h
      | ok out =>
        rw [hout] at h
        exact revokeIdentity_ok hout h

/-- The actions of a lock on a deployment, each answered at once. -/
def labRules (forkUp : Bool) (chain : Chain) :
    Rules LockState EmergencyStep (fun _ => ActionReply) Deployment where
  drift _ _ _ _ := False
  answer _ step d reply d' := (reply, d') = lockAction forkUp chain step d
  holds _ _ _ := True

/-- A lock under way on a deployment: what the record has as done is done, and what it has as
    not applicable is nothing to the deployment. -/
structure Locking (forkUp : Bool) (args : LockRequest) (s : LockState) (d : Deployment) : Prop where
  keyed : s.r.steps.map (·.step) = EMERGENCY_STEPS
  done : ∀ st ∈ s.r.steps, st.outcome = .succeeded → StepDone forkUp d st.step
  absent : ∀ st ∈ s.r.steps, st.outcome = .notApplicable →
    notApplicable args.includeIdentityRevocation args.applicability st.step = true
  unskipped : ∀ st ∈ s.r.steps, st.outcome ≠ .skipped
  runtime : d.runtime.isSome = args.applicability.runtimeExists
  identity : s.r.includeIdentityRevocation = args.includeIdentityRevocation

def Attempted (step : EmergencyStep) (s : LockState) : Prop :=
  ∀ st ∈ s.r.steps, st.step = step → st.outcome ≠ .pending

variable {args : LockRequest} {s : LockState}

theorem locking_answered (h : Locking forkUp args s d) :
    Locking forkUp args
      ((s.attempting step).answered step (lockAction forkUp chain step d).1)
      (lockAction forkUp chain step d).2 where
  keyed := keyed_answered (keyed_attempting h.keyed) _
  done := by
    intro st hst hsucceeded
    rcases mem_answered h.keyed hst with ⟨⟨st', hst', hstep, hout⟩, -⟩ | ⟨hstep, hout⟩
    · exact lockAction_keeps (hstep ▸ h.done st' hst' (hout.trans hsucceeded))
    · rw [hstep]
      refine lockAction_done ?_
      rw [hout] at hsucceeded
      by_contra hnot
      rw [if_neg hnot] at hsucceeded
      cases hsucceeded
  absent := by
    intro st hst hout
    rcases mem_answered h.keyed hst with ⟨⟨st', hst', hstep, hout'⟩, -⟩ | ⟨-, hout'⟩
    · exact hstep ▸ h.absent st' hst' (hout'.trans hout)
    · rw [hout'] at hout
      split at hout <;> cases hout
  unskipped := by
    intro st hst hout
    rcases mem_answered h.keyed hst with ⟨⟨st', hst', -, hout'⟩, -⟩ | ⟨-, hout'⟩
    · exact h.unskipped st' hst' (hout'.trans hout)
    · rw [hout'] at hout
      split at hout <;> cases hout
  runtime := lockAction_isSome.trans h.runtime
  identity := h.identity

theorem attempted_answered (h : s.r.steps.map (·.step) = EMERGENCY_STEPS) (reply : ActionReply) :
    Attempted step ((s.attempting step).answered step reply) ∧
      ∀ t, Attempted t s → Attempted t ((s.attempting step).answered step reply) := by
  refine ⟨fun st hst hstep hout => ?_, fun t ht st hst hstep hout => ?_⟩
  · rcases mem_answered h hst with ⟨-, hne⟩ | ⟨-, hout'⟩
    · exact hne hstep
    · rw [hout'] at hout
      split at hout <;> cases hout
  · rcases mem_answered h hst with ⟨⟨st', hst', hstep', hout'⟩, -⟩ | ⟨-, hout'⟩
    · exact ht st' hst' (hstep'.trans hstep) (hout'.trans hout)
    · rw [hout'] at hout
      split at hout <;> cases hout

theorem runStep_locking (h : Locking forkUp args s d) :
    (runStep step s).Safe (labRules forkUp chain)
      (fun _ s' d' => Locking forkUp args s' d' ∧ Attempted step s' ∧
        ∀ t, Attempted t s → Attempted t s') (fun _ _ _ => False) d := by
  obtain ⟨st, hst, hstep, ⟨hdone, hrun⟩ | ⟨-, hrun⟩⟩ := runStep_eq h.keyed step
  · rw [hrun]
    refine ⟨h, fun st' hst' hstep' hout => ?_, fun _ ht => ht⟩
    have hsame : st' = st :=
      List.inj_on_of_nodup_map (h.keyed ▸ nodup_EMERGENCY_STEPS) hst' hst (hstep'.trans hstep.symm)
    rw [← hsame, hout] at hdone
    exact Bool.noConfusion hdone
  · rw [hrun]
    refine Script.Safe.wait (A := fun d' => d' = d) (fun _ _ _ hd => hd.elim) (fun _ _ => trivial)
      rfl ?_
    intro d' reply d'' hd' ha
    rw [hd'] at ha
    obtain ⟨rfl, rfl⟩ := Prod.mk.inj ha
    exact ⟨locking_answered h, attempted_answered h.keyed _⟩

/-- A lock that has been carried out. -/
structure Carried (forkUp : Bool) (args : LockRequest) (r : EmergencyLockRecord) (d : Deployment) :
    Prop where
  identity : r.includeIdentityRevocation = args.includeIdentityRevocation
  complete : r.state = .complete → ∀ step,
    notApplicable args.includeIdentityRevocation args.applicability step = false →
      StepDone forkUp d step
  runtime : d.runtime.isSome = args.applicability.runtimeExists

theorem complete_of_lockState {critical : EmergencyStepState} {steps : List EmergencyStepState}
    (h : lockState critical steps = .complete) : ∀ st ∈ steps, st.outcome ≠ .failed := by
  intro st hst hout
  unfold lockState at h
  split at h
  · cases h
  split at h
  · cases h
  rename_i hnone
  refine hnone (List.length_pos_of_mem (a := st) ?_)
  refine List.mem_filter.mpr ⟨List.mem_filter.mpr ⟨hst, ?_⟩, decide_eq_true hout⟩
  rw [hout]
  rfl

theorem concludeLock_carried (h : Locking forkUp args s d)
    (hall : ∀ step ∈ EMERGENCY_STEPS, Attempted step s) :
    (concludeLock s).Safe (labRules forkUp chain) (fun r _ d => Carried forkUp args r d)
      (fun _ _ _ => False) d := by
  obtain ⟨critical, -, -, hrun⟩ := concludeLock_eq h.keyed
  rw [hrun]
  refine ⟨h.identity, fun hcomplete step hstep => ?_, h.runtime⟩
  obtain ⟨st, hst, rfl, -⟩ := find_of_keyed h.keyed step
  have hpending := hall st.step (mem_EMERGENCY_STEPS st.step) st hst rfl
  have hfailed := complete_of_lockState hcomplete st hst
  cases hout : st.outcome with
  | pending => exact absurd hout hpending
  | succeeded => exact h.done st hst hout
  | failed => exact absurd hout hfailed
  | skipped => exact absurd hout (h.unskipped st hst)
  | notApplicable =>
    rw [h.absent st hst hout] at hstep
    exact Bool.noConfusion hstep

theorem locking_new (clock : Nat → Int) (hruntime : d.runtime.isSome = args.applicability.runtimeExists) :
    Locking forkUp args
      { r := { newEmergencyLock args with state := .inProgress }, clock, reads := 0 } d := by
  have hfresh : ∀ st ∈ (newEmergencyLock args).steps, ∃ step,
      st = freshStep args.includeIdentityRevocation args.applicability step := by
    intro st hst
    obtain ⟨step, -, rfl⟩ := List.mem_map.mp hst
    exact ⟨step, rfl⟩
  refine ⟨rfl, ?_, ?_, ?_, hruntime, rfl⟩
  · intro st hst hout
    obtain ⟨step, rfl⟩ := hfresh st hst
    unfold freshStep at hout
    dsimp only at hout
    split at hout <;> cases hout
  · intro st hst hout
    obtain ⟨step, rfl⟩ := hfresh st hst
    unfold freshStep at hout ⊢
    dsimp only at hout ⊢
    split at hout
    · assumption
    · cases hout
  · intro st hst hout
    obtain ⟨step, rfl⟩ := hfresh st hst
    unfold freshStep at hout
    dsimp only at hout
    split at hout <;> cases hout

/-- **A lock carried out** on a deployment it was made for. -/
theorem handle_runEmergencyLock (clock : Nat → Int)
    (hruntime : d.runtime.isSome = args.applicability.runtimeExists) :
    ∃ r d', (runEmergencyLock (newEmergencyLock args) clock).handle (lockAction forkUp chain) d =
      (.ok r, d') ∧ Carried forkUp args r d' := by
  have hsafe : (runEmergencyLock (newEmergencyLock args) clock).Safe (labRules forkUp chain)
      (fun r _ d => Carried forkUp args r d) (fun _ _ _ => False) d := by
    refine Script.Safe.bind ((Script.Safe.forM_each
      (I := fun (s : LockState) d => Locking forkUp args s d) (J := fun step s _ => Attempted step s)
      (fun _ _ _ _ h => runStep_locking h) (locking_new clock hruntime)).mono ?_ fun _ _ _ h => h)
    intro _ s d h
    exact concludeLock_carried h.1 h.2.1
  obtain ⟨hok, herror⟩ := hsafe.handle (lockAction forkUp chain) fun _ _ _ => rfl
  cases hend : ((runEmergencyLock (newEmergencyLock args) clock).handle
      (lockAction forkUp chain) d).1 with
  | error message => exact (herror message hend).elim fun _ h => h.elim
  | ok r =>
    obtain ⟨_, h⟩ := hok r hend
    exact ⟨r, _, Prod.ext hend rfl, h⟩

end Lock

/-! ## 6. A command carried out -/

section Execute

variable {d : Deployment} {cmd : ControlCommand} {env : Surroundings}

/-- **A lock carried out**: what it reports, the lock it was, and the deployment after it. -/
theorem executeLock_eq : ∃ r d', executeLock d cmd env =
    (.ok ⟨r.state = .complete, (emergencySummary r).headline, .lock (emergencySummary r) r⟩,
      { d' with live := d'.live.map fun l => { l with emergencyLocked := true } }) ∧
    Carried d.forkUp (cmd.lockRequest d env) r d' := by
  obtain ⟨r, d', hrun, hr⟩ := @handle_runEmergencyLock d.forkUp env.chain d (cmd.lockRequest d env)
    (fun n => env.clock (n + 1)) rfl
  refine ⟨r, d', ?_, hr⟩
  simp only [executeLock, hrun]

theorem Carried.meets {r : EmergencyLockRecord} {d' : Deployment}
    (h : Carried d.forkUp (cmd.lockRequest d env) r d') (hcomplete : r.state = .complete) :
    d'.Meets cmd.includeIdentityRevocation .EMERGENCY_LOCK := by
  obtain ⟨hfork, hpolicy⟩ := h.complete hcomplete .disablePolicy rfl
  refine ⟨hpolicy, ?_, fun hidentity => ?_⟩
  · cases hruntime : d.runtime.isSome with
    | true =>
      refine h.complete hcomplete .stopRuntime ?_
      simp [notApplicable, ControlCommand.lockRequest, hruntime]
    | false =>
      intro rt hrt
      have hsome : d'.runtime.isSome = d.runtime.isSome := h.runtime
      rw [hrt, hruntime] at hsome
      exact Bool.noConfusion hsome
  · refine h.complete hcomplete .revokeIdentity ?_
    simp [notApplicable, ControlCommand.lockRequest, hidentity, hfork]

theorem meets_locked {identity : Bool} {op : ControlOperation} :
    Deployment.Meets { d with live := d.live.map fun l => { l with emergencyLocked := true } }
      identity op ↔ d.Meets identity op := by
  have hruntime : Deployment.runtime
      { d with live := d.live.map fun l => { l with emergencyLocked := true } } = d.runtime := by
    rcases d with ⟨revision, _ | live, forkReady, recorded, policyEnabled, identityCurrent⟩ <;> rfl
  cases op <;> simp only [Deployment.Meets, hruntime]

theorem exists_of_map_ok {ε α β : Type} {x : Except ε α} {f : α → β} {y : β}
    (h : x.map f = .ok y) : ∃ a, x = .ok a ∧ f a = y := by
  cases x with
  | error e => cases h
  | ok a => exact ⟨a, rfl, Except.ok.inj h⟩

/-- **Success.** A command that reports success left the deployment in the state its operation
    asks for; a stopped runtime is not to be resumed. -/
theorem execute_meets {out : Execution} (h : (execute d cmd env).1 = .ok out) (hok : out.ok = true)
    (hresume : cmd.operation = .RESUME_RUNTIME → ∀ rt ∈ d.runtime, rt.stopping = false) :
    (execute d cmd env).2.Meets cmd.includeIdentityRevocation cmd.operation := by
  have hpolicy : ∀ enabled, ((setPolicyEnabled d enabled env.chain.policyTx).1.map fun r =>
      (⟨r.outcome.ok, r.outcome.detail, .policy r.outcome.verification r.txHash⟩ : Execution)) =
        .ok out → (setPolicyEnabled d enabled env.chain.policyTx).2.policyEnabled = enabled := by
    intro enabled heq
    obtain ⟨c, hchange, rfl⟩ := exists_of_map_ok heq
    exact setPolicyEnabled_ok hchange hok
  cases hop : cmd.operation <;> simp only [execute, hop] at h ⊢
  case ENABLE_POLICY | DISABLE_POLICY =>
    cases hfork : d.forkUp with
    | false =>
      simp only [hfork, Bool.false_eq_true, if_false] at h
      cases h
      exact Bool.noConfusion hok
    | true =>
      simp only [hfork, if_true] at h ⊢
      exact hpolicy _ h
  case PAUSE_RUNTIME =>
    cases hruntime : d.runtime with
    | none =>
      simp only [hruntime, Option.isSome_none, Bool.false_eq_true, if_false] at h
      cases h
      exact Bool.noConfusion hok
    | some rt =>
      simp only [Option.isSome_some, if_true]
      exact ⟨rt.pause, by rw [runtime_updateRuntime, hruntime]; rfl, rfl⟩
  case RESUME_RUNTIME =>
    cases hruntime : d.runtime with
    | none =>
      simp only [hruntime, Option.isSome_none, Bool.false_eq_true, if_false] at h
      cases h
      exact Bool.noConfusion hok
    | some rt =>
      simp only [Option.isSome_some, if_true]
      refine ⟨rt.resume, by rw [runtime_updateRuntime, hruntime]; rfl, ?_⟩
      have hstopping := hresume hop rt hruntime
      simp [Runtime.running, Runtime.resume, hstopping]
  case REVOKE_IDENTITY =>
    cases hfork : d.forkUp with
    | false =>
      simp only [hfork, Bool.false_eq_true, if_false] at h
      cases h
      exact Bool.noConfusion hok
    | true =>
      simp only [hfork, if_true] at h ⊢
      obtain ⟨r, hout, rfl⟩ := exists_of_map_ok h
      exact revokeIdentity_ok hout hok
  case EMERGENCY_LOCK =>
    obtain ⟨r, d', heq, hr⟩ := @executeLock_eq d cmd env
    rw [heq] at h ⊢
    cases h
    exact meets_locked.mpr (hr.meets (of_decide_eq_true hok))
  all_goals
    cases h
    exact Bool.noConfusion hok

/-- **Failure.** A command other than a lock that reports failure changed nothing. -/
theorem execute_failed {out : Execution} (hop : cmd.operation ≠ .EMERGENCY_LOCK)
    (h : (execute d cmd env).1 = .ok out) (hok : out.ok = false) : (execute d cmd env).2 = d := by
  have hpolicy : ∀ enabled, ((setPolicyEnabled d enabled env.chain.policyTx).1.map fun r =>
      (⟨r.outcome.ok, r.outcome.detail, .policy r.outcome.verification r.txHash⟩ : Execution)) =
        .ok out → (setPolicyEnabled d enabled env.chain.policyTx).2 = d := by
    intro enabled heq
    obtain ⟨c, hchange, rfl⟩ := exists_of_map_ok heq
    exact setPolicyEnabled_failed hchange hok
  cases hop' : cmd.operation <;> simp only [execute, hop'] at h ⊢
  case ENABLE_POLICY | DISABLE_POLICY =>
    cases hfork : d.forkUp with
    | false => simp only [Bool.false_eq_true, if_false]
    | true =>
      simp only [hfork, if_true] at h ⊢
      exact hpolicy _ h
  case PAUSE_RUNTIME | RESUME_RUNTIME =>
    cases hruntime : d.runtime.isSome with
    | false => simp only [Bool.false_eq_true, if_false]
    | true =>
      simp only [hruntime, if_true] at h
      cases h
      exact Bool.noConfusion hok
  case REVOKE_IDENTITY =>
    cases hfork : d.forkUp with
    | false => simp only [Bool.false_eq_true, if_false]
    | true =>
      simp only [hfork, if_true] at h ⊢
      obtain ⟨r, hout, rfl⟩ := exists_of_map_ok h
      exact revokeIdentity_failed hout hok
  case EMERGENCY_LOCK => exact absurd hop' hop

end Execute

end ContextLock.Control
