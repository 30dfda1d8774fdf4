/-
  Subject:   Replay protection: an identity's nonce is executed at most once, over every run.
-/
import ContextLock.Contracts.Provision
import Mathlib.Data.List.Nodup

namespace ContextLock

open Evm
open Machine (Behaviour Monitor StepRel)
open Executor (Submission)

/-! ## 1. The invariant -/

/-- The pair that replay protection is about. -/
def CapabilityExecuted.key (e : CapabilityExecuted) : Bytes32 × Uint256 :=
  (e.agentIdentityHash, e.nonce)

def CapabilityExecuted.call (e : CapabilityExecuted) : Bytes32 × Address × Uint256 :=
  (e.capabilityDigest, e.target, e.value)

def TargetCall.call (c : TargetCall) : Bytes32 × Address × Uint256 :=
  (c.capabilityDigest, c.target, c.value)

/-- **The invariant between transactions.** -/
structure Ledger (w : World) : Prop where
  idle : w.entered = false
  used : ∀ i n, w.nonceUsed i n = true ↔ (i, n) ∈ w.events.map CapabilityExecuted.key
  once : (w.events.map CapabilityExecuted.key).Nodup
  calls : w.targetCalls.map TargetCall.call = w.events.map CapabilityExecuted.call

/-- An executor nobody has used yet. -/
structure Unused (w : World) : Prop where
  idle : w.entered = false
  nonceUsed : ∀ i n, w.nonceUsed i n = false
  events : w.events = []
  targetCalls : w.targetCalls = []

theorem Unused.ledger {w : World} (h : Unused w) : Ledger w where
  idle := h.idle
  used := fun i n => by simp [h.nonceUsed, h.events]
  once := by simp [h.events]
  calls := by simp [h.events, h.targetCalls]

theorem Ledger.same {w w' : World} (hl : Ledger w) (hs : SameExecutor w w') : Ledger w' where
  idle := by rw [hs.entered]; exact hl.idle
  used := fun i n => by rw [hs.nonceUsed, hs.events]; exact hl.used i n
  once := by rw [hs.events]; exact hl.once
  calls := by rw [hs.events, hs.targetCalls]; exact hl.calls

/-! ## 2. Steps -/

section Steps

variable {d : Deployment} {w w' : World} {x : Submission} {ret : Bytes}
  {target : World → Except Bytes (World × Bytes)}

/-- **An execution keeps the ledger**: its nonce was free, so its pair is new. -/
theorem Ledger.execute (hl : Ledger w) (ht : Harmless target)
    (h : Executor.execute d x target w = .ok (w', ret)) : Ledger w' := by
  obtain ⟨_, hidle, hfree, hused, hevents, hcalls⟩ := execute_frame ht h
  have hnew : (x.cap.agentIdentityHash, x.cap.nonce) ∉ w.events.map CapabilityExecuted.key :=
    fun hm => by
      have := (hl.used _ _).mpr hm
      rw [hfree] at this
      cases this
  refine ⟨hidle, fun i n => ?_, ?_, ?_⟩
  · rw [hused, update₂_apply, hevents, List.map_append, List.mem_append, ← hl.used i n]
    by_cases hk : i = x.cap.agentIdentityHash ∧ n = x.cap.nonce
    · simp [hk, CapabilityExecuted.key, Executor.executedEvent]
    · rw [if_neg hk]
      simp only [List.map_cons, List.map_nil, List.mem_singleton, CapabilityExecuted.key,
        Executor.executedEvent, Prod.mk.injEq]
      exact ⟨fun hu => .inl hu, fun ho => ho.resolve_right hk⟩
  · rw [hevents, List.map_append]
    refine List.nodup_append.mpr ⟨hl.once, List.nodup_singleton _, ?_⟩
    intro p hp q hq hpq
    rw [List.mem_singleton.mp hq] at hpq
    subst hpq
    exact hnew hp
  · rw [hevents, hcalls, List.map_append, List.map_append, hl.calls]
    rfl

/-- **Every step keeps the ledger**, and while the executor is entered its storage. -/
theorem ledger_rel (d : Deployment) : StepRel (system d) AnyCall
    (fun _ w w' => (w.entered = true → SameExecutor w w') ∧ (Ledger w → Ledger w')) where
  refl := fun _ w => ⟨fun _ => SameExecutor.refl w, id⟩
  trans := fun h h' => ⟨(locked_rel d).trans (c := none) h.1 h'.1, fun hl => h'.2 (h.2 hl)⟩
  call := fun _ h => ⟨fun _ => apply_executor h, fun hl => hl.same (apply_executor h)⟩
  enter := fun hcallee h =>
    ⟨(locked_rel d).enter (c := none) (fun t t' r ht => (hcallee t t' r ht).1) h,
     fun hl => hl.execute (fun t t' r he ht => (hcallee t t' r ht).1 he) h⟩

end Steps

/-! ## 3. Runs -/

section Runs

variable {d : Deployment} {w₀ w : World}

theorem Ledger.run (h₀ : Ledger w₀) (h : Run d AnyCall w₀ w) : Ledger w := by
  refine ((ledger_rel d).reach ?_ h).2 h₀
  intro s s' he
  cases he
  exact ⟨fun _ => ⟨rfl, rfl, rfl, rfl⟩, fun hl => ⟨hl.idle, hl.used, hl.once, hl.calls⟩⟩

def executionsOf (w : World) (i : Bytes32) (n : Uint256) : List CapabilityExecuted :=
  w.events.filter fun e => e.key = (i, n)

theorem executionsOf_le_one (hl : Ledger w) (i : Bytes32) (n : Uint256) :
    (executionsOf w i n).length ≤ 1 := by
  have hn : ((executionsOf w i n).map CapabilityExecuted.key).Nodup :=
    hl.once.sublist (List.filter_sublist.map _)
  have hk : ∀ p ∈ (executionsOf w i n).map CapabilityExecuted.key, p = (i, n) := by
    intro p hp
    obtain ⟨e, he, rfl⟩ := List.mem_map.mp hp
    simpa using (List.mem_filter.mp he).2
  have hsub : (executionsOf w i n).map CapabilityExecuted.key ⊆ [(i, n)] :=
    fun p hp => List.mem_singleton.mpr (hk p hp)
  simpa using hn.length_le_of_subset hsub

/-- **Replay protection.** In every state of every run from an unused executor: an identity's
    nonce has at most one execution; it is used exactly where there is one; the targets' calls
    with an effect are the executions' own, in their order; and an execution that reverts leaves
    the whole world as it was, for the code around it and as a transaction. -/
theorem execution_once (h₀ : Unused w₀) (h : Run d AnyCall w₀ w) :
    (∀ i n, (executionsOf w i n).length ≤ 1) ∧
    (∀ i n, w.nonceUsed i n = true ↔ executionsOf w i n ≠ []) ∧
    w.targetCalls.map TargetCall.call = w.events.map CapabilityExecuted.call ∧
    (∀ (x : Submission) (callee : Code) e, Executor.execute d x (callee.run d) w = .error e →
      (∀ next : Bool → Code, Code.run d (.enter x callee next) w = Code.run d (next false) w) ∧
      (system d).transact (submit x callee) w = w) := by
  have hl := h₀.ledger.run h
  refine ⟨executionsOf_le_one hl, fun i n => ?_, hl.calls, fun x callee e he => ⟨?_, ?_⟩⟩
  · rw [hl.used i n]
    simp only [List.mem_map, executionsOf, ne_eq, List.filter_eq_nil_iff, decide_eq_true_eq,
      not_forall, not_not, exists_prop]
  · intro next
    exact run_enter_error he
  · exact transact_submit_error he

/-- A run with an execution in it: exactly one for its nonce. -/
theorem execution_once_sample :
    let w := provisionedExecuted sampleDeployment sampleSubmission (fun _ => true) 1100 noApprovals
    (executionsOf w 0x11 0).length ≤ 1 ∧ w.nonceUsed 0x11 0 = true ∧
      executionsOf w 0x11 0 ≠ [] := by
  have hrun : Run sampleDeployment AnyCall
      (provisioned sampleDeployment sampleSubmission .allow (fun _ => true) 1100 noApprovals)
      (provisionedExecuted sampleDeployment sampleSubmission (fun _ => true) 1100 noApprovals) := by
    rw [← transact_provisioned sample_wellFormed rfl []]
    exact .transaction .start _ (Behaviour.within_all _ none)
  obtain ⟨hone, hiff, _⟩ := execution_once ⟨rfl, fun _ _ => rfl, rfl, rfl⟩ hrun
  exact ⟨hone _ _, rfl, (hiff _ _).mp rfl⟩

end Runs

end ContextLock
