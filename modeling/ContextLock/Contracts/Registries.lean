/-
  Subject:   What no run takes back, and whose policies a run leaves alone.

  * **`nothing_taken_back`**: what was recorded stays, in every run.
  * **`policies_isolated`**: an identity's policies change only by its administrator.
  * **`execution_effect`**: what a successful execution leaves, whatever its target does.
-/
import ContextLock.Contracts.Replay
import ContextLock.Contracts.Verdict

namespace ContextLock

open Evm
open Machine (Behaviour StepRel)
open Executor (Submission)

/-! ## 1. One identity in the policy registry -/

namespace PolicyRegistry

variable {sender : Address} {s s' : Storage} {o : Call}

/-- Everything the registry holds about an identity. -/
def Storage.about (s : Storage) (a : Bytes32) : Address × (Bytes32 → Policy) ×
    (Bytes32 → Address → Bool) × (Bytes32 → Bytes32 → Bool) × Uint64 :=
  (s.policyAdmin a, s.policies a, s.allowedTarget a, s.allowedAction a, s.bindingVersion a)

/-- **A call is about one identity**: one without an administrator, or one of the sender's. -/
theorem apply_about (h : o.apply sender s = .ok s') :
    ∃ b, (s.policyAdmin b = 0 ∨ sender = s.policyAdmin b) ∧ ∀ a, a ≠ b → s'.about a = s.about a := by
  cases o with
  | setPolicyAdmin b admin =>
    simp only [Call.apply, setPolicyAdmin, ite_error_eq_ok, Except.ok.injEq] at h
    obtain ⟨_, hadmin, rfl⟩ := h
    refine ⟨b, by tauto, fun a ha => ?_⟩
    simp only [Storage.about, Function.update_of_ne ha]
    split <;> simp only [Function.update_of_ne ha]
  | setPolicy b p enabled cap =>
    obtain ⟨hs, hb⟩ := onlyAdmin_ok h
    cases hb
    exact ⟨b, .inr hs, fun a ha => by
      simp [Storage.about, update₂, Function.update_of_ne ha]⟩
  | setTargetAllowed b p t allowed =>
    obtain ⟨hs, hb⟩ := onlyAdmin_ok h
    cases hb
    exact ⟨b, .inr hs, fun a ha => by
      simp [Storage.about, update₂, Function.update_of_ne ha]⟩
  | setActionAllowed b p k allowed =>
    obtain ⟨hs, hb⟩ := onlyAdmin_ok h
    cases hb
    exact ⟨b, .inr hs, fun a ha => by
      simp [Storage.about, update₂, Function.update_of_ne ha]⟩
  | bumpBindingVersion b =>
    obtain ⟨hs, rfl⟩ := bumpBindingVersion_ok h
    exact ⟨b, .inr hs, fun a ha => by simp [Storage.about, Function.update_of_ne ha]⟩

/-- **No call lowers a binding version.** -/
theorem apply_version (h : o.apply sender s = .ok s') (a : Bytes32) :
    s.bindingVersion a ≤ s'.bindingVersion a := by
  cases o with
  | setPolicyAdmin b admin =>
    simp only [Call.apply, setPolicyAdmin, ite_error_eq_ok, Except.ok.injEq] at h
    obtain ⟨_, _, rfl⟩ := h
    by_cases hv : s.bindingVersion b = 0 <;> by_cases ha : a = b <;> simp_all
  | setPolicy | setTargetAllowed | setActionAllowed =>
    obtain ⟨_, hb⟩ := onlyAdmin_ok h
    cases hb
    exact BitVec.le_refl _
  | bumpBindingVersion b =>
    obtain ⟨_, hb⟩ := onlyAdmin_ok h
    simp only [ite_error_eq_ok, Except.ok.injEq] at hb
    obtain ⟨hmax, rfl⟩ := hb
    by_cases ha : a = b
    · subst ha
      have hne : (s.bindingVersion a).toNat ≠ 2 ^ 64 - 1 := fun e =>
        hmax (BitVec.eq_of_toNat_eq (e.trans BitVec.toNat_allOnes.symm))
      simp only [Function.update_self]
      rw [BitVec.le_def, BitVec.toNat_add, show (1 : Uint64).toNat = 1 from rfl]
      omega
    · simp [Function.update_of_ne ha]

end PolicyRegistry

/-! ## 2. Steps -/

/-- From `w` to `w'` nothing that was recorded is taken back. -/
structure World.Grows (w w' : World) : Prop where
  authorization : AuthorizationRegistry.Keeps w.authorization w'.authorization
  approval : ApprovalRegistry.Ages w.approval w'.approval
  nonceUsed : ∀ i n, w.nonceUsed i n = true → w'.nonceUsed i n = true
  events : w.events <+: w'.events
  targetCalls : w.targetCalls <+: w'.targetCalls
  version : ∀ a, w.policy.bindingVersion a ≤ w'.policy.bindingVersion a

section Steps

variable {d : Deployment} {w w' : World} {x : Submission} {ret : Bytes}
  {target : World → Except Bytes (World × Bytes)}

theorem World.Grows.refl (w : World) : w.Grows w :=
  ⟨.refl _, .refl _, fun _ _ h => h, List.prefix_refl _, List.prefix_refl _,
    fun _ => BitVec.le_refl _⟩

theorem World.Grows.trans {u v w : World} (h : u.Grows v) (h' : v.Grows w) : u.Grows w :=
  ⟨h.authorization.trans h'.authorization, h.approval.trans h'.approval,
    fun i n hu => h'.nonceUsed i n (h.nonceUsed i n hu), h.events.trans h'.events,
    h.targetCalls.trans h'.targetCalls, fun a => BitVec.le_trans (h.version a) (h'.version a)⟩

theorem apply_version {c : SystemCall} (h : c.apply d w = .ok w') (a : Bytes32) :
    w.policy.bindingVersion a ≤ w'.policy.bindingVersion a := by
  rcases apply_cases h with ⟨_, _, _, hs, rfl⟩ | ⟨_, _, _, _, rfl⟩ | ⟨_, _, _, _, rfl⟩ |
    ⟨_, _, _, _, _, rfl⟩ | ⟨_, rfl⟩ | ⟨_, _, _, _, rfl⟩ | ⟨_, _, rfl⟩ | rfl
  case inl => exact PolicyRegistry.apply_version hs a
  all_goals exact BitVec.le_refl _

/-- **Around its target** an execution only records, and leaves the policies alone. -/
theorem execute_grows (h : Executor.execute d x target w = .ok (w', ret)) :
    ∃ w₁ w₂, target w₁ = .ok (w₂, ret) ∧ w.Grows w₁ ∧ w₂.Grows w' ∧ w₁.policy = w.policy ∧
      w'.policy = w₂.policy := by
  obtain ⟨_, _, w₁, w₂, hc, ht, rfl⟩ := Executor.execute_iff.mp h
  obtain ⟨s, rfl, hages⟩ := Executor.consumeIfEscalated_ok hc
  refine ⟨_, w₂, ht, { World.Grows.refl w with
    approval := hages
    nonceUsed := fun i n hu => ?_
    targetCalls := List.prefix_append _ _ }, { World.Grows.refl w₂ with
    events := List.prefix_append _ _ }, rfl, rfl⟩
  show update₂ w.nonceUsed x.cap.agentIdentityHash x.cap.nonce true i n = true
  rw [update₂_apply, hu, ite_self]

theorem grows_rel (d : Deployment) : StepRel (system d) AnyCall fun _ w w' => w.Grows w' where
  refl := fun _ w => .refl w
  trans := fun h h' => h.trans h'
  call := fun _ h =>
    have hs := apply_executor h
    { authorization := apply_authorization h
      approval := apply_approval h
      nonceUsed := fun i n hu => by rw [hs.nonceUsed, hu]
      events := hs.events ▸ List.prefix_refl _
      targetCalls := hs.targetCalls ▸ List.prefix_refl _
      version := apply_version h }
  enter := fun hcallee h => by
    obtain ⟨w₁, w₂, ht, hbefore, hafter, _⟩ := execute_grows h
    exact (hbefore.trans (hcallee _ _ _ ht)).trans hafter

/-- No call to the policy registry comes from `admin`. -/
def Abstains (admin : Address) (_ : Option Submission) (c : SystemCall) : Prop :=
  ∀ o, c.op = .policy o → c.sender ≠ admin

theorem isolated_rel (d : Deployment) {a : Bytes32} {admin : Address} (hadmin : admin ≠ 0) :
    StepRel (system d) (Abstains admin) fun _ w w' =>
      w.policy.policyAdmin a = admin → w'.policy.about a = w.policy.about a where
  refl := fun _ _ _ => rfl
  trans := fun h h' hw =>
    (h' ((congrArg Prod.fst (h hw)).trans hw)).trans (h hw)
  call := fun hp h hw => by
    rcases apply_cases h with ⟨o, s, ho, hs, rfl⟩ | ⟨_, _, _, _, rfl⟩ | ⟨_, _, _, _, rfl⟩ |
      ⟨_, _, _, _, _, rfl⟩ | ⟨_, rfl⟩ | ⟨_, _, _, _, rfl⟩ | ⟨_, _, rfl⟩ | rfl
    case inl =>
      obtain ⟨b, hb, habout⟩ := PolicyRegistry.apply_about hs
      refine habout a fun hab => ?_
      subst hab
      rcases hb with hzero | hsender
      · exact hadmin (hw.symm.trans hzero)
      · exact hp o ho (hsender.trans hw)
    all_goals rfl
  enter := fun hcallee h hw => by
    obtain ⟨w₁, w₂, ht, _, _, h₁, h₂⟩ := execute_grows h
    rw [h₂, ← h₁]
    exact hcallee _ _ _ ht (h₁ ▸ hw)

end Steps

/-! ## 3. Runs -/

section Runs

variable {d : Deployment} {w₀ w w' : World} {ret : Bytes}

/-- **Nothing is taken back.** In every run recorded authorizations stay as they are, approvals
    at most get consumed, used nonces stay used, events and calls of targets stay in their order,
    and no binding version falls. -/
theorem nothing_taken_back (h : Run d AnyCall w₀ w) : w₀.Grows w := by
  refine (grows_rel d).reach (fun s s' ht => ?_) h
  cases ht
  exact { World.Grows.refl s with }

/-- **Policies are isolated.** Where an identity has an administrator and no call to the policy
    registry comes from it, no run changes the identity's administrator, policies, targets,
    actions or version. -/
theorem policies_isolated {a : Bytes32} (hadmin : w₀.policy.policyAdmin a ≠ 0)
    (h : Run d (Abstains (w₀.policy.policyAdmin a)) w₀ w) :
    w.policy.about a = w₀.policy.about a := by
  refine (isolated_rel d hadmin).reach (fun s s' ht _ => ?_) h rfl
  cases ht
  rfl

/-- **The effect of an execution.** Whatever code the target has, a successful execution uses
    its one nonce, records one event and one call of the target, and leaves the lock open. -/
theorem execution_effect {x : Submission} {target : Code}
    (h : Executor.execute d x (target.run d) w = .ok (w', ret)) :
    w.entered = false ∧ w'.entered = false ∧
      w.nonceUsed x.cap.agentIdentityHash x.cap.nonce = false ∧
      w'.nonceUsed = update₂ w.nonceUsed x.cap.agentIdentityHash x.cap.nonce true ∧
      w'.events = w.events ++ [Executor.executedEvent (Executor.digest d x.cap) x.cap] ∧
      w'.targetCalls = w.targetCalls ++
        [⟨Executor.digest d x.cap, x.cap.target, x.cap.value, x.callData⟩] :=
  execute_frame (fun _ _ _ he hrun => locked_run he hrun) h

end Runs

/-! ## 4. Samples -/

/-- The world of the sample capability, with an administrator at the address `1`. -/
def sampleWorld : World :=
  provisioned sampleDeployment sampleSubmission .allow (fun _ => true) 1100 noApprovals

/-- Somebody else asks to switch the sample policy off, and submits the capability. -/
def meddling : Code :=
  .call ⟨2, .policy (.setPolicy 0x11 0x13 false 0)⟩ fun _ => submit sampleSubmission (.halt true [])

theorem nothing_taken_back_sample :
    sampleWorld.Grows ((system sampleDeployment).transact meddling sampleWorld) :=
  nothing_taken_back (.transaction .start meddling (Behaviour.within_all _ none))

theorem policies_isolated_sample :
    ((system sampleDeployment).transact meddling sampleWorld).policy.about 0x11
      = sampleWorld.policy.about 0x11 := by
  refine policies_isolated (d := sampleDeployment) (by decide) (.transaction .start meddling ?_)
  exact ⟨fun _ _ => by decide, fun _ => ⟨trivial, fun _ => trivial⟩⟩

theorem execution_effect_sample : ∃ w ret,
    Executor.execute sampleDeployment sampleSubmission
      (Code.run sampleDeployment (.halt true [])) sampleWorld = .ok (w, ret) ∧
    w.nonceUsed = update₂ sampleWorld.nonceUsed 0x11 0 true := by
  have hrun : Code.run sampleDeployment (.halt true [])
      (allowCalling sampleDeployment sampleSubmission sampleWorld) = .ok (_, []) := rfl
  have h := provisioned_executes sample_wellFormed rfl hrun
  exact ⟨_, _, h, (execution_effect h).2.2.2.1⟩

end ContextLock
