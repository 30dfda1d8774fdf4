/-
  Subject:   Verdicts are final: what was denied is never executed, in no run.
-/
import ContextLock.Contracts.Provision

namespace ContextLock

open Evm
open Machine (Behaviour Monitor StepRel)
open Executor (Submission)
open AuthorizationRegistry (Keeps)

/-- The authorization `i` is recorded as denied. -/
def Denied (w : World) (i : Bytes32) : Prop :=
  (w.authorization.getAuthorization i).verdict = .deny

/-- From `w` to `w'` nothing was executed under the authorization id `i`. -/
def NotExecuted (i : Bytes32) (w w' : World) : Prop :=
  ∃ new, w'.events = w.events ++ new ∧ ∀ e ∈ new, e.authorizationId ≠ i

theorem NotExecuted.refl (i : Bytes32) (w : World) : NotExecuted i w w :=
  ⟨[], by simp, by simp⟩

theorem NotExecuted.trans {i : Bytes32} {u v w : World} (h : NotExecuted i u v)
    (h' : NotExecuted i v w) : NotExecuted i u w := by
  obtain ⟨new, he, hn⟩ := h
  obtain ⟨new', he', hn'⟩ := h'
  refine ⟨new ++ new', by rw [he', he, List.append_assoc], fun e hm => ?_⟩
  rcases List.mem_append.mp hm with hm | hm
  · exact hn e hm
  · exact hn' e hm

theorem Denied.keeps {i : Bytes32} {w w' : World} (h : Denied w i)
    (hk : Keeps w.authorization w'.authorization) : Denied w' i := by
  unfold Denied
  rw [hk i (by rw [h]; exact fun e => by cases e)]
  exact h

section Steps

variable {d : Deployment} {w w' : World} {x : Submission} {ret : Bytes} {i : Bytes32}
  {target : World → Except Bytes (World × Bytes)}

/-- **An execution rests on an ALLOW or an ESCALATE** of the authorization it names. -/
theorem execute_verdict (h : Executor.execute d x target w = .ok (w', ret)) :
    (w.authorization.getAuthorization x.cap.authorizationId).verdict = .allow ∨
      (w.authorization.getAuthorization x.cap.authorizationId).verdict = .escalate := by
  obtain ⟨_, hv, _⟩ := Executor.execute_iff.mp h
  rcases hv.authorization.verdict with ha | ⟨he, _⟩
  · exact .inl ha
  · exact .inr he

theorem execute_denied (target : World → Except Bytes (World × Bytes))
    (hd : Denied w x.cap.authorizationId) :
    ∃ e, Executor.execute d x target w = .error e := by
  cases h : Executor.execute d x target w with
  | error e => exact ⟨e, rfl⟩
  | ok r =>
    unfold Denied at hd
    rcases execute_verdict h with hv | hv <;> rw [hd] at hv <;> cases hv

theorem execute_around (h : Executor.execute d x target w = .ok (w', ret)) :
    ∃ w₁ w₂, target w₁ = .ok (w₂, ret) ∧ w₁.authorization = w.authorization ∧
      w₁.events = w.events ∧ w'.authorization = w₂.authorization ∧
      w'.events = w₂.events ++ [Executor.executedEvent (Executor.digest d x.cap) x.cap] := by
  obtain ⟨_, _, w₁, w₂, hc, ht, rfl⟩ := Executor.execute_iff.mp h
  obtain ⟨s, rfl, _⟩ := Executor.consumeIfEscalated_ok hc
  exact ⟨_, w₂, ht, rfl, rfl, rfl, rfl⟩

/-- **Every step keeps the authorizations that exist.** -/
theorem authorization_rel (d : Deployment) : StepRel (system d) AnyCall
    (fun _ w w' => Keeps w.authorization w'.authorization) where
  refl := fun _ w => Keeps.refl _
  trans := fun h h' => h.trans h'
  call := fun _ h => apply_authorization h
  enter := fun hcallee h => by
    obtain ⟨w₁, w₂, ht, h₁, _, h₂, _⟩ := execute_around h
    rw [h₂, ← h₁]
    exact hcallee _ _ _ ht

/-- **No step executes what is denied.** -/
theorem denied_rel (d : Deployment) (i : Bytes32) : StepRel (system d) AnyCall
    (fun _ w w' => Keeps w.authorization w'.authorization ∧
      (Denied w i → NotExecuted i w w')) where
  refl := fun _ w => ⟨Keeps.refl _, fun _ => NotExecuted.refl i w⟩
  trans := fun h h' => ⟨h.1.trans h'.1, fun hd => (h.2 hd).trans (h'.2 (hd.keeps h.1))⟩
  call := fun _ h => by
    refine ⟨apply_authorization h, fun _ => ⟨[], ?_, by simp⟩⟩
    rw [(apply_executor h).events, List.append_nil]
  enter := fun {_ e callee s s' r} hcallee h => by
    refine ⟨(authorization_rel d).enter (c := none)
      (fun t t' r ht => (hcallee t t' r ht).1) h, fun hd => ?_⟩
    have hid : e.cap.authorizationId ≠ i := fun hi => by
      subst hi
      obtain ⟨err, herr⟩ := execute_denied (d := d) callee hd
      have hok : Executor.execute d e callee s = .ok (s', r) := h
      rw [herr] at hok
      cases hok
    obtain ⟨w₁, w₂, ht, h₁, hev₁, _, hev₂⟩ := execute_around h
    have hd₁ : Denied w₁ i := by unfold Denied; rw [h₁]; exact hd
    obtain ⟨new, hnew, hne⟩ := (hcallee _ _ _ ht).2 hd₁
    refine ⟨new ++ [Executor.executedEvent (Executor.digest d e.cap) e.cap], ?_, fun ev hm => ?_⟩
    · rw [hev₂, hnew, hev₁, List.append_assoc]
    · rcases List.mem_append.mp hm with hm | hm
      · exact hne ev hm
      · rw [List.mem_singleton.mp hm]
        exact hid

end Steps

/-- **A DENY is final.** Once an authorization id holds a DENY it holds it in every later state
    of every run, every execution under it reverts there, and no run executes it. -/
theorem denied_never_executes {d : Deployment} {w₀ w : World} {i : Bytes32} (hd : Denied w₀ i)
    (h : Run d AnyCall w₀ w) :
    Denied w i ∧ NotExecuted i w₀ w ∧
      ∀ (x : Submission) (target : World → Except Bytes (World × Bytes)),
        x.cap.authorizationId = i → ∃ e, Executor.execute d x target w = .error e := by
  have henv : ∀ s s', Tick s s' → Keeps s.authorization s'.authorization ∧
      (Denied s i → NotExecuted i s s') := by
    intro s s' ht
    cases ht
    exact ⟨Keeps.refl _, fun _ => NotExecuted.refl i s⟩
  obtain ⟨hk, hn⟩ := (denied_rel d i).reach henv h
  have hdw := hd.keeps hk
  refine ⟨hdw, hn hd, ?_⟩
  rintro x target rfl
  exact execute_denied target hdw

/-- The sample capability after a DENY, also once somebody reports an ALLOW for it. -/
theorem denied_never_executes_sample :
    let w₀ := provisioned sampleDeployment sampleSubmission .deny (fun _ => true) 1100 noApprovals
    let code : Code := .call ⟨1, .authorization (.recordAuthorization 0x14 0 0x13 0x15 1000 1300
      .allow)⟩ fun _ => submit sampleSubmission (.halt true [])
    NotExecuted 0x14 w₀ ((system sampleDeployment).transact code w₀) := by
  intro w₀ code
  exact (denied_never_executes (i := 0x14) (by rfl)
    (.transaction .start code (Behaviour.within_all _ none))).2.1

end ContextLock
