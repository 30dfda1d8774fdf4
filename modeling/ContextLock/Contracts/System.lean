/-
  Subject:   The contracts as one machine, its runs, and what no run can do to the executor.

  The machine's plain calls are the `SystemCall`s, its guarded entry is `execute`. A target is
  any behaviour: it may call every contract, re-enter the executor and nest frames. A run is a
  list of transactions with time passing in between.
-/
import ContextLock.Machine.Behaviour
import ContextLock.Contracts.Executor

namespace ContextLock

open Evm
open Machine (Behaviour Monitor StepRel)
open Executor (Submission)

abbrev Code := Behaviour SystemCall Submission Bytes

/-- **The contracts as one machine.** -/
def system (d : Deployment) : Monitor World SystemCall Submission Bytes Revert Executor.Error where
  call := SystemCall.apply d
  enter := Executor.execute d

/-- What the code of a target does to the world it is called in. -/
def Code.run (d : Deployment) (b : Code) : World → Except Bytes (World × Bytes) := (system d).run b

/-! ## 1. Permissions -/

/-- The address of the contract a call is for; foreign code has none of ours. -/
def Op.contract (d : Deployment) : Op → Option Address
  | .policy _ => some d.policyRegistry
  | .authorization _ => some d.authorizationRegistry
  | .approval _ => some d.approvalRegistry
  | .consumer _ => some d.consumer
  | .gateway _ => some d.gateway
  | .identity _ => some d.identityVerifier
  | .foreign _ _ => none

/-- The executor calls nobody but the targets of the capabilities it executes: a call in its
    name is one to the target of the execution that is running. -/
def Genuine (d : Deployment) (running : Option Submission) (c : SystemCall) : Prop :=
  c.sender = d.executor → ∃ x, running = some x ∧ c.op.contract d = some x.cap.target

def AnyCall (_ : Option Submission) (_ : SystemCall) : Prop := True

/-- **The states a run can be in** between transactions, with the calls `P` permits. -/
abbrev Run (d : Deployment) (P : Option Submission → SystemCall → Prop) : World → World → Prop :=
  Machine.Reach (system d) P Tick

/-! ## 2. Submissions -/

def submit (x : Submission) (callee : Code) : Code := .enter x callee fun ok => .halt ok []

section Submit

variable {d : Deployment} {w w' : World} {x : Submission} {callee : Code} {ret : Bytes}

theorem run_enter_error {next : Bool → Code} {e : Executor.Error}
    (h : Executor.execute d x (callee.run d) w = .error e) :
    Code.run d (.enter x callee next) w = Code.run d (next false) w := by
  have h' : (system d).enter x ((system d).run callee) w = .error e := h
  show (system d).run (.enter x callee next) w = _
  simp only [Monitor.run]
  rw [h']
  rfl

theorem transact_submit_error {e : Executor.Error}
    (h : Executor.execute d x (callee.run d) w = .error e) :
    (system d).transact (submit x callee) w = w := by
  have hr : (system d).run (submit x callee) w = .error [] := run_enter_error h
  unfold Monitor.transact
  rw [hr]

theorem transact_submit_ok (h : Executor.execute d x (callee.run d) w = .ok (w', ret)) :
    (system d).transact (submit x callee) w = w' := by
  have h' : (system d).enter x ((system d).run callee) w = .ok (w', ret) := h
  have hr : (system d).run (submit x callee) w = .ok (w', []) := by
    simp only [submit, Monitor.run]
    rw [h']
  exact Monitor.transact_ok hr

end Submit

/-! ## 3. The lock -/

section Lock

variable {d : Deployment} {w w' : World} {x : Submission} {ret : Bytes}
  {target : World → Except Bytes (World × Bytes)}

theorem locked_rel (d : Deployment) : StepRel (system d) AnyCall
    (fun _ w w' => w.entered = true → SameExecutor w w') where
  refl := fun _ w _ => SameExecutor.refl w
  trans := fun h h' he => (h he).trans (h' (by rw [(h he).entered]; exact he))
  call := fun _ h _ => apply_executor h
  enter := fun _ h he => by
    -- a nested execution meets the lock
    have hne := (Executor.execute_iff.mp h).1
    rw [he] at hne
    cases hne

/-- **The lock**: entered, the executor's storage survives whatever a target does. -/
theorem locked_run {b : Code} (he : w.entered = true) (h : b.run d w = .ok (w', ret)) :
    SameExecutor w w' :=
  (locked_rel d).run b none w w' ret (b.within_all none) h he

/-- A target keeps the executor's storage while the executor is entered. -/
def Harmless (target : World → Except Bytes (World × Bytes)) : Prop :=
  ∀ w w' r, w.entered = true → target w = .ok (w', r) → SameExecutor w w'

/-- **What a successful execution leaves in the executor's storage**, for a target that the lock
    keeps out: the nonce is used, one event and one target call are recorded, and the lock is
    open again. -/
theorem execute_frame (ht : Harmless target) (h : Executor.execute d x target w = .ok (w', ret)) :
    w.entered = false ∧ w'.entered = false ∧
      w.nonceUsed x.cap.agentIdentityHash x.cap.nonce = false ∧
      w'.nonceUsed = update₂ w.nonceUsed x.cap.agentIdentityHash x.cap.nonce true ∧
      w'.events = w.events ++ [Executor.executedEvent (Executor.digest d x.cap) x.cap] ∧
      w'.targetCalls = w.targetCalls ++
        [⟨Executor.digest d x.cap, x.cap.target, x.cap.value, x.callData⟩] := by
  obtain ⟨he, hv, w₁, w₂, hc, hrun, rfl⟩ := Executor.execute_iff.mp h
  obtain ⟨s, rfl, _⟩ := Executor.consumeIfEscalated_ok hc
  have hs := ht _ _ _ rfl hrun
  refine ⟨he, rfl, hv.call.nonce, ?_, ?_, ?_⟩
  · exact hs.nonceUsed
  · show w₂.events ++ _ = _
    rw [hs.events]
    rfl
  · exact hs.targetCalls

end Lock

end ContextLock
