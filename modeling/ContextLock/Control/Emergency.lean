/-
  Subject:   The emergency lock: five steps in a fixed order, each recorded.

  A run copies the record it is given and works on the copy: a step that is recorded as done is
  passed over, any other is attempted, and what came of it is written into the copy. Between
  the steps the run waits for the action it asked for, so several runs on one record can be
  under way at once, each on its own copy.
-/
import ContextLock.Machine.Script
import ContextLock.Machine.Transition
import Mathlib.Data.List.Basic

namespace ContextLock.Control

open Machine

/-! ## 1. The record -/

inductive EmergencyStep where
  | disablePolicy
  | denyNewCapabilities
  | pauseCre
  | stopRuntime
  | revokeIdentity
  deriving DecidableEq

/-- The order. Frozen, and security-first. -/
def EMERGENCY_STEPS : List EmergencyStep :=
  [.disablePolicy, .denyNewCapabilities, .pauseCre, .stopRuntime, .revokeIdentity]

/-- The one step whose failure means the emergency lock did not achieve its purpose. -/
def CRITICAL_STEP : EmergencyStep := .disablePolicy

inductive StepOutcome where
  | pending
  | succeeded
  | failed
  | skipped
  | notApplicable
  deriving DecidableEq

structure EmergencyStepState where
  step : EmergencyStep
  outcome : StepOutcome
  attemptedAtMs : Option Int
  completedAtMs : Option Int
  detail : Option String
  verification : Option String
  attempts : Nat

inductive EmergencyState where
  | notStarted
  | inProgress
  | complete
  | partialLock
  | failed
  deriving DecidableEq

structure EmergencyLockRecord where
  lockId : String
  deploymentId : String
  idempotencyKey : String
  initiatedBy : String
  initiatedAtMs : Int
  state : EmergencyState
  steps : List EmergencyStepState
  includeIdentityRevocation : Bool
  financialPolicyDisabled : Bool
  completedAtMs : Option Int

/-- Which of the steps there is something to do for. -/
structure EmergencyApplicability where
  creWorkflowExists : Bool
  runtimeExists : Bool
  identityExists : Bool

structure ActionOutcome where
  ok : Bool
  verification : String
  detail : String

/-- The step is nothing to this deployment. -/
def notApplicable (includeIdentity : Bool) (app : EmergencyApplicability) (step : EmergencyStep) :
    Bool :=
  (step = .pauseCre && !app.creWorkflowExists) ||
    (step = .stopRuntime && !app.runtimeExists) ||
    (step = .revokeIdentity && (!includeIdentity || !app.identityExists))

/-- A step as it stands before any run. -/
def freshStep (includeIdentity : Bool) (app : EmergencyApplicability) (step : EmergencyStep) :
    EmergencyStepState where
  step := step
  outcome := if notApplicable includeIdentity app step then .notApplicable else .pending
  attemptedAtMs := none
  completedAtMs := none
  detail :=
    if notApplicable includeIdentity app step then
      some (if step = .revokeIdentity && !includeIdentity then "not requested"
        else "no such component in this deployment")
    else none
  verification := none
  attempts := 0

def freshSteps (includeIdentity : Bool) (app : EmergencyApplicability) : List EmergencyStepState :=
  EMERGENCY_STEPS.map (freshStep includeIdentity app)

/-- What a lock is asked for with. -/
structure LockRequest where
  lockId : String
  deploymentId : String
  idempotencyKey : String
  initiatedBy : String
  nowMs : Int
  includeIdentityRevocation : Bool
  applicability : EmergencyApplicability

def newEmergencyLock (args : LockRequest) : EmergencyLockRecord where
  lockId := args.lockId
  deploymentId := args.deploymentId
  idempotencyKey := args.idempotencyKey
  initiatedBy := args.initiatedBy
  initiatedAtMs := args.nowMs
  state := .notStarted
  steps := freshSteps args.includeIdentityRevocation args.applicability
  includeIdentityRevocation := args.includeIdentityRevocation
  financialPolicyDisabled := false
  completedAtMs := none

/-! ## 2. A run -/

/-- What a run holds while it waits: its copy of the record, and its clock with the number of
    times it was read. -/
structure LockState where
  r : EmergencyLockRecord
  clock : Nat → Int
  reads : Nat

abbrev ActionReply := Except String ActionOutcome

/-- Parts of a run: each call is the action of a step. -/
abbrev LockAct := Act LockState EmergencyStep (fun _ => ActionReply) String

def updateStep (step : EmergencyStep) (f : EmergencyStepState → EmergencyStepState) :
    List EmergencyStepState → List EmergencyStepState
  | [] => []
  | s :: ss => if s.step = step then f s :: ss else s :: updateStep step f ss

def EmergencyLockRecord.find (r : EmergencyLockRecord) (step : EmergencyStep) :
    Option EmergencyStepState := r.steps.find? (·.step = step)

def LockState.modifyStep (s : LockState) (step : EmergencyStep)
    (f : EmergencyStepState → EmergencyStepState) : LockState :=
  { s with r := { s.r with steps := updateStep step f s.r.steps } }

def LockState.nowMs (s : LockState) : Int := s.clock s.reads

def LockState.tick (s : LockState) : LockState := { s with reads := s.reads + 1 }

def StepOutcome.done : StepOutcome → Bool
  | .succeeded | .notApplicable | .skipped => true
  | .pending | .failed => false

def LockState.attempting (s : LockState) (step : EmergencyStep) : LockState :=
  (s.modifyStep step fun st =>
    { st with attemptedAtMs := some s.nowMs, attempts := st.attempts + 1 }).tick

/-- The action said that it worked. -/
def succeeded : ActionReply → Bool
  | .ok out => out.ok
  | .error _ => false

/-- The step, with the action's answer written down. -/
def EmergencyStepState.concluded (st : EmergencyStepState) (reply : ActionReply) (nowMs : Int) :
    EmergencyStepState :=
  match reply with
  | .ok out =>
    { st with outcome := if out.ok then .succeeded else .failed, detail := some out.detail,
              verification := some out.verification, completedAtMs := some nowMs }
  | .error message =>
    { st with outcome := .failed, detail := some message, completedAtMs := some nowMs }

/-- The copy, with the action's answer written down. -/
def LockState.answered (s : LockState) (step : EmergencyStep) (reply : ActionReply) : LockState :=
  let s := (s.modifyStep step fun st => st.concluded reply s.nowMs).tick
  { s with r := { s.r with
      financialPolicyDisabled :=
        if step = CRITICAL_STEP && succeeded reply then true else s.r.financialPolicyDisabled } }

/-- One pass of the loop. -/
def runStep (step : EmergencyStep) : LockAct PUnit := do
  let s ← get
  match s.r.find step with
  | none => Act.fail "Cannot read properties of undefined (reading \x27outcome\x27)"
  | some st =>
    if st.outcome.done then pure () else do
      Act.update (·.attempting step)
      let reply ← Act.call step
      Act.update (·.answered step reply)

def lockState (critical : EmergencyStepState) (steps : List EmergencyStepState) :
    EmergencyState :=
  if critical.outcome = .failed then .failed
  else if ((steps.filter (·.outcome ≠ .notApplicable)).filter (·.outcome = .failed)).length > 0 then
    .partialLock
  else .complete

/-- What follows the loop. -/
def concludeLock : LockAct EmergencyLockRecord := do
  let s ← get
  match s.r.find CRITICAL_STEP with
  | none => Act.fail "Cannot read properties of undefined (reading \x27outcome\x27)"
  | some critical =>
    Act.update fun s =>
      { s.tick with r := { s.r with state := lockState critical s.r.steps,
                                    completedAtMs := some s.nowMs } }
    return (← get).r

/-- A run of the lock on a copy of `record`. -/
def runEmergencyLock (record : EmergencyLockRecord) (clock : Nat → Int) :
    Script LockState EmergencyStep (fun _ => ActionReply) String EmergencyLockRecord :=
  (do EMERGENCY_STEPS.forM runStep; concludeLock : LockAct EmergencyLockRecord)
    { r := { record with state := .inProgress }, clock, reads := 0 }

/-! ## 3. The record and what was done -/

/-- The actions that were answered, in order, each with whether it succeeded. -/
abbrev History := List (EmergencyStep × Bool)

def NoneAgain (w : History) : Prop := w.Pairwise fun a b => a.2 = true → b.1 ≠ a.1

/-- The record tells what was done: every success stands in it, the policy is said to be off
    when it was switched off and only then, and nothing was done again. -/
structure Recorded (r : EmergencyLockRecord) (w : History) : Prop where
  keyed : r.steps.map (·.step) = EMERGENCY_STEPS
  kept : ∀ st ∈ r.steps, (st.step, true) ∈ w → st.outcome = .succeeded
  policy : r.financialPolicyDisabled = true ↔ (EmergencyStep.disablePolicy, true) ∈ w
  once : NoneAgain w

/-- Nobody else acts while a run waits, and no run waits for what has succeeded. -/
def lockRules : Rules LockState EmergencyStep (fun _ => ActionReply) History where
  drift _ _ _ _ := False
  answer _ step w reply w' := w' = w ++ [(step, succeeded reply)]
  holds _ step w := (step, true) ∉ w

theorem mem_EMERGENCY_STEPS (step : EmergencyStep) : step ∈ EMERGENCY_STEPS := by
  cases step <;> decide

theorem nodup_EMERGENCY_STEPS : EMERGENCY_STEPS.Nodup := by decide

theorem map_step_updateStep {step : EmergencyStep} {f : EmergencyStepState → EmergencyStepState}
    (hf : ∀ st, (f st).step = st.step) (ss : List EmergencyStepState) :
    (updateStep step f ss).map (·.step) = ss.map (·.step) := by
  induction ss with
  | nil => rfl
  | cons s ss ih =>
    unfold updateStep
    by_cases h : s.step = step
    · simp only [h, if_true, List.map_cons, hf]
    · simp only [h, if_false, List.map_cons, ih]

theorem mem_updateStep {step : EmergencyStep} {f : EmergencyStepState → EmergencyStepState}
    {ss : List EmergencyStepState} (hnd : (ss.map (·.step)).Nodup) {st : EmergencyStepState}
    (h : st ∈ updateStep step f ss) :
    (st ∈ ss ∧ st.step ≠ step) ∨ ∃ st' ∈ ss, st'.step = step ∧ st = f st' := by
  induction ss with
  | nil => exact absurd h List.not_mem_nil
  | cons s ss ih =>
    have hnd' := List.nodup_cons.mp hnd
    have hlater : ∀ t ∈ ss, t.step ≠ s.step :=
      fun t ht e => hnd'.1 (List.mem_map.mpr ⟨t, ht, e⟩)
    unfold updateStep at h
    by_cases hs : s.step = step
    · simp only [hs, if_true] at h
      rcases List.mem_cons.mp h with rfl | h
      · exact Or.inr ⟨s, List.mem_cons_self, hs, rfl⟩
      · exact Or.inl ⟨List.mem_cons_of_mem s h, hs ▸ hlater st h⟩
    · simp only [hs, if_false] at h
      rcases List.mem_cons.mp h with rfl | h
      · exact Or.inl ⟨List.mem_cons_self, hs⟩
      · rcases ih hnd'.2 h with ⟨hst, hne⟩ | ⟨st', hst', hstep, heq⟩
        · exact Or.inl ⟨List.mem_cons_of_mem s hst, hne⟩
        · exact Or.inr ⟨st', List.mem_cons_of_mem s hst', hstep, heq⟩

section Recorded

variable {r : EmergencyLockRecord} {s : LockState} {w : History} {step : EmergencyStep}

theorem find_of_keyed (h : r.steps.map (·.step) = EMERGENCY_STEPS) (step : EmergencyStep) :
    ∃ st ∈ r.steps, st.step = step ∧ r.find step = some st := by
  have hmem : step ∈ r.steps.map (·.step) := h ▸ mem_EMERGENCY_STEPS step
  obtain ⟨st, hst, hstep⟩ := List.mem_map.mp hmem
  cases hfind : r.find step with
  | none =>
    have := List.find?_eq_none.mp hfind st hst
    exact absurd (decide_eq_true hstep) this
  | some st' =>
    have hp := List.find?_some hfind
    exact ⟨st', List.mem_of_find?_eq_some hfind, of_decide_eq_true hp, rfl⟩

/-- **One pass of the loop**: nothing, or the action of the step and its answer. -/
theorem runStep_eq (h : s.r.steps.map (·.step) = EMERGENCY_STEPS) (step : EmergencyStep) :
    ∃ st ∈ s.r.steps, st.step = step ∧
      (st.outcome.done = true ∧ runStep step s = .ok PUnit.unit s ∨
        st.outcome.done = false ∧ runStep step s = .call (s.attempting step) step fun reply =>
          .ok PUnit.unit ((s.attempting step).answered step reply)) := by
  obtain ⟨st, hst, hstep, hfind⟩ := find_of_keyed h step
  refine ⟨st, hst, hstep, ?_⟩
  cases hdone : st.outcome.done with
  | true =>
    refine Or.inl ⟨rfl, ?_⟩
    simp only [runStep, Act.bind_apply, Act.get_apply, Script.bind_ok, hfind, hdone, if_true]
    rfl
  | false =>
    refine Or.inr ⟨rfl, ?_⟩
    simp only [runStep, Act.bind_apply, Act.get_apply, Script.bind_ok, hfind, hdone]
    rfl

/-- **What follows the loop**: the state of the lock, and the time. -/
theorem concludeLock_eq (h : s.r.steps.map (·.step) = EMERGENCY_STEPS) :
    ∃ st ∈ s.r.steps, st.step = CRITICAL_STEP ∧ concludeLock s = .ok
      { s.r with state := lockState st s.r.steps, completedAtMs := some s.nowMs }
      { s.tick with r := { s.r with state := lockState st s.r.steps,
                                    completedAtMs := some s.nowMs } } := by
  obtain ⟨st, hst, hstep, hfind⟩ := find_of_keyed h CRITICAL_STEP
  refine ⟨st, hst, hstep, ?_⟩
  simp only [concludeLock, Act.bind_apply, Act.get_apply, Script.bind_ok, hfind]
  rfl

theorem Recorded.update (h : Recorded r w) {f : EmergencyStepState → EmergencyStepState}
    (hname : ∀ st, (f st).step = st.step)
    (hf : ∀ st ∈ r.steps, st.step = step → (step, true) ∈ w → (f st).outcome = .succeeded) :
    Recorded { r with steps := updateStep step f r.steps } w where
  keyed := (map_step_updateStep hname r.steps).trans h.keyed
  kept := by
    intro st hst hdone
    have hnd : (r.steps.map (·.step)).Nodup := h.keyed ▸ nodup_EMERGENCY_STEPS
    rcases mem_updateStep hnd hst with ⟨hold, -⟩ | ⟨st', hst', hstep, rfl⟩
    · exact h.kept st hold hdone
    · rw [hname st', hstep] at hdone
      exact hf st' hst' hstep hdone
  policy := h.policy
  once := h.once

theorem recorded_attempting (h : Recorded s.r w) : Recorded (s.attempting step).r w :=
  h.update (fun _ => rfl) fun st hst hstep hdone => h.kept st hst (hstep ▸ hdone)

theorem noneAgain_append (h : NoneAgain w) (hnot : (step, true) ∉ w) (ok : Bool) :
    NoneAgain (w ++ [(step, ok)]) := by
  refine List.pairwise_append.mpr ⟨h, List.pairwise_singleton _ _, ?_⟩
  intro a ha b hb hdone heq
  rcases List.mem_singleton.mp hb with rfl
  exact hnot ((Prod.ext heq hdone.symm : (step, true) = a) ▸ ha)

/-- An action was executed that had not succeeded before, and its answer written down. -/
theorem Recorded.act (h : Recorded r w) (hnot : (step, true) ∉ w) {ok : Bool}
    {f : EmergencyStepState → EmergencyStepState} {r' : EmergencyLockRecord}
    (hname : ∀ st, (f st).step = st.step) (hf : ok = true → ∀ st, (f st).outcome = .succeeded)
    (hsteps : r'.steps = updateStep step f r.steps)
    (hpolicy : r'.financialPolicyDisabled =
      (r.financialPolicyDisabled || (step = CRITICAL_STEP && ok))) :
    Recorded r' (w ++ [(step, ok)]) where
  keyed := by rw [hsteps, map_step_updateStep hname, h.keyed]
  kept := by
    intro st hst hdone
    rw [hsteps] at hst
    have hnd : (r.steps.map (·.step)).Nodup := h.keyed ▸ nodup_EMERGENCY_STEPS
    have hdone' : (st.step, true) ∈ w ∨ st.step = step ∧ ok = true := by
      simpa [eq_comm] using hdone
    rcases mem_updateStep hnd hst with ⟨hold, hne⟩ | ⟨st', _, hstep, rfl⟩
    · rcases hdone' with hdone' | ⟨heq, _⟩
      · exact h.kept st hold hdone'
      · exact absurd heq hne
    · rcases hdone' with hdone' | ⟨_, hok⟩
      · rw [hname st', hstep] at hdone'
        exact absurd hdone' hnot
      · exact hf hok st'
  policy := by
    have hmem : (EmergencyStep.disablePolicy, true) ∈ w ++ [(step, ok)] ↔
        (EmergencyStep.disablePolicy, true) ∈ w ∨ step = .disablePolicy ∧ ok = true := by
      simp [eq_comm]
    rw [hpolicy, Bool.or_eq_true, h.policy, hmem, Bool.and_eq_true, decide_eq_true_eq]
    rfl
  once := noneAgain_append h.once hnot ok

theorem concluded_step (st : EmergencyStepState) (reply : ActionReply) (nowMs : Int) :
    (st.concluded reply nowMs).step = st.step := by
  cases reply <;> rfl

theorem concluded_outcome {reply : ActionReply} (h : succeeded reply = true)
    (st : EmergencyStepState) (nowMs : Int) : (st.concluded reply nowMs).outcome = .succeeded := by
  cases reply with
  | ok out => exact if_pos h
  | error message => exact Bool.noConfusion h

theorem recorded_answered (h : Recorded s.r w) (hnot : (step, true) ∉ w) (reply : ActionReply) :
    Recorded (s.answered step reply).r (w ++ [(step, succeeded reply)]) := by
  refine h.act hnot (fun st => concluded_step st reply s.nowMs)
    (fun hok st => concluded_outcome hok st s.nowMs) rfl ?_
  show (if (step = CRITICAL_STEP && succeeded reply) = true then true
    else s.r.financialPolicyDisabled) = _
  cases (step = CRITICAL_STEP && succeeded reply : Bool) with
  | true => rw [if_pos rfl, Bool.or_true]
  | false => rw [if_neg Bool.false_ne_true, Bool.or_false]

theorem keyed_attempting (h : s.r.steps.map (·.step) = EMERGENCY_STEPS) :
    (s.attempting step).r.steps.map (·.step) = EMERGENCY_STEPS := by
  refine (map_step_updateStep ?_ s.r.steps).trans h
  exact fun _ => rfl

theorem keyed_answered (h : s.r.steps.map (·.step) = EMERGENCY_STEPS) (reply : ActionReply) :
    (s.answered step reply).r.steps.map (·.step) = EMERGENCY_STEPS :=
  (map_step_updateStep (fun st => concluded_step st reply s.nowMs) s.r.steps).trans h

/-- What stands in the steps after an attempt of one of them. -/
theorem mem_answered (h : s.r.steps.map (·.step) = EMERGENCY_STEPS) {reply : ActionReply}
    {st : EmergencyStepState}
    (hst : st ∈ ((s.attempting step).answered step reply).r.steps) :
    (∃ st' ∈ s.r.steps, st'.step = st.step ∧ st'.outcome = st.outcome) ∧ st.step ≠ step ∨
      st.step = step ∧ st.outcome = if succeeded reply then .succeeded else .failed := by
  have hnd : (s.r.steps.map (·.step)).Nodup := h ▸ nodup_EMERGENCY_STEPS
  have hnd' : ((s.attempting step).r.steps.map (·.step)).Nodup :=
    (keyed_attempting h).symm ▸ nodup_EMERGENCY_STEPS
  rcases mem_updateStep hnd' hst with ⟨hold, hne⟩ | ⟨st', _, hstep, rfl⟩
  · refine Or.inl ⟨?_, hne⟩
    rcases mem_updateStep hnd hold with ⟨hold, _⟩ | ⟨st', hst', _, rfl⟩
    · exact ⟨st, hold, rfl, rfl⟩
    · exact ⟨st', hst', rfl, rfl⟩
  · refine Or.inr ⟨(concluded_step st' reply _).trans hstep, ?_⟩
    cases reply <;> rfl

/-- **A step.** It waits for nothing that has succeeded, and what it did is in the record. -/
theorem runStep_safe (h : Recorded s.r w) :
    (runStep step s).Safe lockRules (fun _ s w => Recorded s.r w) (fun _ _ _ => False) w := by
  obtain ⟨st, hst, hstep, ⟨-, hrun⟩ | ⟨hdone, hrun⟩⟩ := runStep_eq h.keyed step
  · rw [hrun]
    exact h
  · rw [hrun]
    have hnot : (step, true) ∉ w := by
      intro hmem
      have := h.kept st hst (hstep ▸ hmem)
      rw [this] at hdone
      exact Bool.noConfusion hdone
    refine Script.Safe.wait (A := fun w' => w' = w) (fun _ _ _ hd => hd.elim) ?_ rfl ?_
    · intro w' hw'
      exact hw' ▸ hnot
    · intro w' reply w'' hw' ha
      have ha' : w'' = w ++ [(step, succeeded reply)] := hw' ▸ ha
      rw [ha']
      exact recorded_answered (recorded_attempting h) hnot reply

theorem concludeLock_safe (h : Recorded s.r w) :
    (concludeLock s).Safe lockRules (fun r _ w => Recorded r w) (fun _ _ _ => False) w := by
  obtain ⟨st, -, -, hrun⟩ := concludeLock_eq h.keyed
  rw [hrun]
  exact ⟨h.keyed, h.kept, h.policy, h.once⟩

/-- **A run.** On a record that tells what was done, with nobody else acting meanwhile, a run
    repeats nothing and returns a record that tells what was done. -/
theorem runEmergencyLock_safe (h : Recorded r w) (clock : Nat → Int) :
    (runEmergencyLock r clock).Safe lockRules (fun r _ w => Recorded r w)
      (fun _ _ _ => False) w := by
  have hcopy : Recorded { r with state := .inProgress } w := ⟨h.keyed, h.kept, h.policy, h.once⟩
  have hloop : (EMERGENCY_STEPS.forM runStep
      { r := { r with state := .inProgress }, clock, reads := 0 }).Safe lockRules
        (fun _ s w => Recorded s.r w) (fun _ _ _ => False) w :=
    Script.Safe.forM (I := fun (s : LockState) w => Recorded s.r w)
      (fun _ _ _ _ h => runStep_safe h) hcopy
  exact Script.Safe.bind (hloop.mono (fun _ _ _ h => concludeLock_safe h) fun _ _ _ h => h)

theorem recorded_newEmergencyLock (args : LockRequest) : Recorded (newEmergencyLock args) [] where
  keyed := rfl
  kept := fun _ _ h => absurd h List.not_mem_nil
  policy := by simp [newEmergencyLock]
  once := List.Pairwise.nil

end Recorded

/-! ## 4. Several runs -/

abbrev LockRun := Script LockState EmergencyStep (fun _ => ActionReply) String EmergencyLockRecord

structure LockSystem where
  /-- The record as it was made, and those the runs returned. -/
  records : List EmergencyLockRecord
  runs : List LockRun
  history : History

inductive LockMove where
  /-- A run is started on one of the records. -/
  | start (record : Nat) (clock : Nat → Int)
  /-- The action a run waits for is answered. -/
  | answer (run : Nat) (reply : ActionReply)

def returned : LockRun → List EmergencyLockRecord
  | .ok r _ => [r]
  | _ => []

/-- The run is answered, and goes on to its next action. -/
def LockSystem.resume (s : LockSystem) (run : Nat) (reply : ActionReply) :
    LockRun → Option LockSystem
  | .call _ step k => some
      { records := s.records ++ returned (k reply), runs := s.runs.set run (k reply)
        history := s.history ++ [(step, succeeded reply)] }
  | _ => none

def LockSystem.step (s : LockSystem) : LockMove → Option LockSystem
  | .start record clock => s.records[record]?.map fun r =>
      { s with records := s.records ++ returned (runEmergencyLock r clock)
               runs := s.runs ++ [runEmergencyLock r clock] }
  | .answer run reply => s.runs[run]?.bind (s.resume run reply)

/-- A new lock that nothing was started on. -/
def LockSystem.new (args : LockRequest) : LockSystem where
  records := [newEmergencyLock args]
  runs := []
  history := []

def LockRun.waitsFor (step : EmergencyStep) : LockRun → Bool
  | .call _ e _ => e = step
  | _ => false

/-- What a lock is to keep, whatever is started on it. -/
structure Composes (s : LockSystem) : Prop where
  /-- No action was executed again after it had succeeded. -/
  again : NoneAgain s.history
  /-- No action is under way that has succeeded. -/
  waiting : ∀ run ∈ s.runs, ∀ step, LockRun.waitsFor step run = true → (step, true) ∉ s.history
  /-- When every run has ended, the last record has all successes. -/
  kept : (∀ run ∈ s.runs, run.ended = true) → ∀ r ∈ s.records.getLast?, ∀ st ∈ r.steps,
    (st.step, true) ∈ s.history → st.outcome = .succeeded
  /-- When every run has ended, the last record says rightly whether the policy is off. -/
  policy : (∀ run ∈ s.runs, run.ended = true) → ∀ r ∈ s.records.getLast?,
    (r.financialPolicyDisabled = true ↔ (EmergencyStep.disablePolicy, true) ∈ s.history)

/-- A run is started only when no other is under way, and on the last record. -/
def OneAtATime (s : LockSystem) : LockMove → Prop
  | .start record _ => s.runs.all Script.ended = true ∧ record + 1 = s.records.length
  | .answer _ _ => True

instance (s : LockSystem) (a : LockMove) : Decidable (OneAtATime s a) := by
  cases a <;> unfold OneAtATime <;> infer_instance

/-- Where the runs are one after the other: every run but the last has ended, and the last is
    safe to go on, or the last record tells what was done. -/
inductive InTurn (s : LockSystem) : Prop where
  | rest (r : EmergencyLockRecord) (hlast : s.records.getLast? = some r)
      (hended : ∀ run ∈ s.runs, run.ended = true) (hr : Recorded r s.history)
  | under (before : List LockRun) (run : LockRun) (hruns : s.runs = before ++ [run])
      (hbefore : ∀ run ∈ before, run.ended = true) (hwaits : run.ended = false)
      (hagain : NoneAgain s.history)
      (hsafe : run.Safe lockRules (fun r _ w => Recorded r w) (fun _ _ _ => False) s.history)

/-- A safe run that was just started or resumed. -/
theorem inTurn_of_safe {s : LockSystem} {before : List LockRun} {run : LockRun}
    {records : List EmergencyLockRecord} (hrecords : s.records = records ++ returned run)
    (hruns : s.runs = before ++ [run]) (hbefore : ∀ run ∈ before, run.ended = true)
    (hagain : NoneAgain s.history)
    (hsafe : run.Safe lockRules (fun r _ w => Recorded r w) (fun _ _ _ => False) s.history) :
    InTurn s := by
  cases run with
  | ok r st =>
    refine .rest r (by rw [hrecords]; simp [returned]) ?_ hsafe
    intro run hrun
    rw [hruns] at hrun
    rcases List.mem_append.mp hrun with h | h
    · exact hbefore run h
    · rw [List.mem_singleton.mp h]
      rfl
  | threw e st => exact False.elim hsafe
  | call st e k => exact .under before _ hruns hbefore rfl hagain hsafe

/-- **One step**, with the runs one after the other. -/
theorem inTurn_step {s s' : LockSystem} {a : LockMove} (h : InTurn s)
    (hstep : guarded LockSystem.step OneAtATime s a = some s') : InTurn s' := by
  obtain ⟨hguard, hstep⟩ := guarded_eq_some.mp hstep
  cases a with
  | start record clock =>
    obtain ⟨r, hget, rfl⟩ := Option.map_eq_some_iff.mp hstep
    obtain ⟨hall, hlen⟩ := hguard
    have hended : ∀ run ∈ s.runs, run.ended = true := List.all_eq_true.mp hall
    cases h with
    | rest r' hlast _ hr =>
      have hr' : r = r' := by
        rw [List.getLast?_eq_getElem?, ← hlen, Nat.add_sub_cancel, hget] at hlast
        exact Option.some.inj hlast
      subst hr'
      exact inTurn_of_safe rfl rfl hended hr.once (runEmergencyLock_safe hr clock)
    | under before run hruns _ hwaits _ _ =>
      have := hended run (by rw [hruns]; simp)
      rw [hwaits] at this
      exact Bool.noConfusion this
  | answer i reply =>
    obtain ⟨run, hget, hresume⟩ := Option.bind_eq_some_iff.mp hstep
    cases run with
    | ok r st => cases hresume
    | threw e st => cases hresume
    | call st e k =>
      cases hresume
      cases h with
      | rest r _ hended _ =>
        exact Bool.noConfusion (hended _ (List.mem_of_getElem? hget))
      | under before run hruns hbefore hwaits hagain hsafe =>
        -- only the last run waits, so it is the one that is answered
        have hi : i = before.length ∧ run = .call st e k := by
          rw [hruns] at hget
          rcases Machine.cases_of_getElem?_concat hget with hold | hlast
          · exact Bool.noConfusion (hbefore _ (List.mem_of_getElem? hold))
          · exact ⟨hlast.1, hlast.2.symm⟩
        obtain ⟨rfl, rfl⟩ := hi
        have hset : s.runs.set before.length (k reply) = before ++ [k reply] := by
          rw [hruns, List.set_append_right _ _ (Nat.le_refl _), Nat.sub_self]
          rfl
        exact inTurn_of_safe rfl hset hbefore (noneAgain_append hagain hsafe.holds _)
          (hsafe.answered rfl)

theorem inTurn_new (args : LockRequest) : InTurn (LockSystem.new args) :=
  .rest _ rfl (fun _ h => absurd h List.not_mem_nil) (recorded_newEmergencyLock args)

theorem InTurn.composes {s : LockSystem} (h : InTurn s) : Composes s := by
  cases h with
  | rest r hlast hended hr =>
    refine ⟨hr.once, ?_, ?_, ?_⟩
    · intro run hrun step hwaits
      have := hended run hrun
      cases run with
      | ok r st | threw e st => exact Bool.noConfusion hwaits
      | call st e k => exact Bool.noConfusion this
    · intro _ r' hr'
      rw [hlast] at hr'
      cases hr'
      exact hr.kept
    · intro _ r' hr'
      rw [hlast] at hr'
      cases hr'
      exact hr.policy
  | under before run hruns hbefore hwaits hagain hsafe =>
    have hnot : ¬ ∀ run ∈ s.runs, run.ended = true := by
      intro hall
      have := hall run (by rw [hruns]; simp)
      rw [hwaits] at this
      exact Bool.noConfusion this
    refine ⟨hagain, ?_, fun h => absurd h hnot, fun h => absurd h hnot⟩
    intro run' hrun' step hstep
    rw [hruns] at hrun'
    rcases List.mem_append.mp hrun' with hb | hb
    · have := hbefore run' hb
      cases run' with
      | ok r st | threw e st => exact Bool.noConfusion hstep
      | call st e k => exact Bool.noConfusion this
    · rcases List.mem_singleton.mp hb with rfl
      cases run' with
      | ok r st | threw e st => exact Bool.noConfusion hstep
      | call st e k =>
        have : e = step := of_decide_eq_true hstep
        exact this ▸ hsafe.holds

/-- **Locks compose one at a time.** In every run of the system in which a lock is started only
    while no other is under way, and on the record the last one returned. -/
theorem locks_compose_one_at_a_time (args : LockRequest) (s : LockSystem)
    (h : Reaches (guarded LockSystem.step OneAtATime) (LockSystem.new args) s) : Composes s :=
  (h.invariant (fun _ _ _ => inTurn_step) (inTurn_new args)).composes

/-- A lock that is to revoke the identity, of a deployment without workflow and runtime. -/
def incident : LockRequest where
  lockId := "lock_1"
  deploymentId := "dep_1"
  idempotencyKey := "idem_incident"
  initiatedBy := "usr_oncall"
  nowMs := 1
  includeIdentityRevocation := true
  applicability := { creWorkflowExists := false, runtimeExists := false, identityExists := true }

def worked : ActionReply := .ok { ok := true, verification := "read back", detail := "done" }

def timedOut : ActionReply := .error "timed out"

/-- The revocation fails, and is tried again on the record the run returned. -/
def retried : List LockMove :=
  [.start 0 fun n => n + 2, .answer 0 worked, .answer 0 worked, .answer 0 timedOut,
    .start 1 fun n => n + 9, .answer 1 worked]

theorem locks_compose_retried :
    ∃ s, execute (guarded LockSystem.step OneAtATime) (LockSystem.new incident) retried = some s ∧
      s.history = [(.disablePolicy, true), (.denyNewCapabilities, true), (.revokeIdentity, false),
        (.revokeIdentity, true)] ∧ Composes s := by
  have hhistory : (execute (guarded LockSystem.step OneAtATime) (LockSystem.new incident)
      retried).map (·.history) = some [(.disablePolicy, true), (.denyNewCapabilities, true),
        (.revokeIdentity, false), (.revokeIdentity, true)] := by decide
  obtain ⟨s, hs, hhist⟩ := Option.map_eq_some_iff.mp hhistory
  exact ⟨s, hs, hhist, locks_compose_one_at_a_time incident s (reaches_of_execute hs)⟩

/-- Two operators press the button; the second cannot reach the policy. -/
def overlapping : List LockMove :=
  [.start 0 fun n => n + 2, .start 0 fun n => n + 3, .answer 0 worked, .answer 0 worked,
    .answer 0 worked, .answer 1 timedOut, .answer 1 worked, .answer 1 worked]

/-- **Two runs at once** revoke the identity twice, and the record the second returns says that
    the policy, which the first switched off, is not off. -/
theorem overlapping_locks_revoke_twice :
    ∃ s, Reaches LockSystem.step (LockSystem.new incident) s ∧
      s.history.count (.revokeIdentity, true) = 2 ∧
      (EmergencyStep.disablePolicy, true) ∈ s.history ∧
      (s.records.getLast?.map (·.financialPolicyDisabled)) = some false ∧ ¬ Composes s := by
  have hseen : (execute LockSystem.step (LockSystem.new incident) overlapping).map
      (fun s => (s.history, s.records.getLast?.map (·.financialPolicyDisabled))) =
      some ([(.disablePolicy, true), (.denyNewCapabilities, true), (.revokeIdentity, true),
        (.disablePolicy, false), (.denyNewCapabilities, true), (.revokeIdentity, true)],
          some false) := by decide
  obtain ⟨s, hs, heq⟩ := Option.map_eq_some_iff.mp hseen
  obtain ⟨hhist, hlast⟩ := Prod.mk.inj heq
  refine ⟨s, reaches_of_execute hs, ?_, ?_, hlast, fun h => ?_⟩
  · rw [hhist]
    decide
  · rw [hhist]
    decide
  · have hagain := h.again
    rw [hhist] at hagain
    exact absurd hagain (by unfold NoneAgain; decide)

end ContextLock.Control
