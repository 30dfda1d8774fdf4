/-
  Subject:   What a bump of the binding version revokes: nothing that was not dead before.

  The registry keeps the version, no function of the executor reads it. What does end a
  capability for good is time, its nonce, a verdict that cannot change, an approval that is
  spent or lapsed, or a shape the executor never takes.
-/
import ContextLock.Contracts.Provision

namespace ContextLock

open Evm
open Machine (Behaviour Monitor StepRel)
open Executor (Submission)
open AuthorizationRegistry (Keeps)
open ApprovalRegistry (Ages)

/-! ## 1. What every step does -/

/-- **How a world moves on**: time does not go back, used nonces stay used, authorizations stay,
    approvals age. -/
structure Progress (w w' : World) : Prop where
  now : w.now ≤ w'.now
  nonceUsed : ∀ i n, w.nonceUsed i n = true → w'.nonceUsed i n = true
  keeps : Keeps w.authorization w'.authorization
  ages : Ages w.approval w'.approval

theorem Progress.refl (w : World) : Progress w w :=
  ⟨BitVec.le_refl _, fun _ _ => id, Keeps.refl _, Ages.refl _⟩

theorem Progress.trans {u v w : World} (h : Progress u v) (h' : Progress v w) : Progress u w :=
  ⟨BitVec.le_trans h.now h'.now, fun i n hu => h'.nonceUsed i n (h.nonceUsed i n hu),
    h.keeps.trans h'.keeps, h.ages.trans h'.ages⟩

theorem progress_calling {d : Deployment} {x : Submission} {w w₁ : World}
    (h : Executor.consumeIfEscalated d x.cap (Executor.digest d x.cap)
      (Executor.useNonce x.cap (Executor.lock w)) = .ok w₁) :
    Progress w (Executor.calling d x w₁) := by
  obtain ⟨s, rfl, hages⟩ := Executor.consumeIfEscalated_ok h
  refine ⟨BitVec.le_refl _, fun i n hu => ?_, Keeps.refl _, hages⟩
  show update₂ w.nonceUsed x.cap.agentIdentityHash x.cap.nonce true i n = true
  rw [update₂_apply]
  split
  · rfl
  · exact hu

/-- **Every step moves the world on.** -/
theorem progress_rel (d : Deployment) : StepRel (system d) AnyCall
    (fun _ w w' => Progress w w') where
  refl := fun _ w => Progress.refl w
  trans := fun h h' => h.trans h'
  call := fun _ h => ⟨by rw [apply_now h]; exact BitVec.le_refl _,
    fun i n hu => by rw [(apply_executor h).nonceUsed]; exact hu,
    apply_authorization h, apply_approval h⟩
  enter := fun hcallee h => by
    obtain ⟨_, _, w₁, w₂, hc, ht, rfl⟩ := Executor.execute_iff.mp h
    have hp := (progress_calling hc).trans (hcallee _ _ _ ht)
    exact ⟨hp.now, hp.nonceUsed, hp.keeps, hp.ages⟩

theorem Progress.run {d : Deployment} {w w' : World} (h : Run d AnyCall w w') : Progress w w' := by
  refine (progress_rel d).reach ?_ h
  intro s s' he
  cases he with
  | mk _ hle => exact ⟨hle, fun _ _ => id, Keeps.refl _, Ages.refl _⟩

/-! ## 2. Dead capabilities -/

/-- The shape every execution needs, whatever the state. -/
structure Shaped (d : Deployment) (cap : Capability) : Prop where
  version : cap.version = ContextLockTypes.VERSION
  chainId : cap.chainId = d.host.chainid
  executor : cap.executor = d.executor
  target : cap.target ≠ 0
  window : cap.issuedAt < cap.expiresAt
  lifetime : cap.expiresAt - cap.issuedAt ≤ Executor.MAX_CAPABILITY_LIFETIME

/-- The authorization a capability names, in `w`. -/
def authOf (w : World) (cap : Capability) : AuthorizationRegistry.Authorization :=
  w.authorization.getAuthorization cap.authorizationId

/-- The approval of a capability's digest, in `w`. -/
def approvalOf (d : Deployment) (w : World) (cap : Capability) : ApprovalRegistry.Approval :=
  w.approval.approvals (Executor.digest d cap)

/-- **A capability that is refused for good**, by a check of the executor whose outcome nobody
    can change back. -/
inductive Dead (d : Deployment) (w : World) (cap : Capability) : Prop where
  | shape (h : ¬ Shaped d cap)
  | used (h : w.nonceUsed cap.agentIdentityHash cap.nonce = true)
  | expired (h : toWord cap.expiresAt < w.now)
  | denied (h : (authOf w cap).verdict = .deny)
  | otherRequest (h : (authOf w cap).verdict ≠ .none)
      (hr : (authOf w cap).requestHash ≠ ContextLockTypes.requestHash cap)
  | otherPolicy (h : (authOf w cap).verdict ≠ .none) (hp : (authOf w cap).policyHash ≠ cap.policyHash)
  | otherContext (h : (authOf w cap).verdict ≠ .none)
      (hc : (authOf w cap).contextCommitment ≠ cap.contextCommitment)
  | stale (h : (authOf w cap).verdict ≠ .none) (hs : toWord (authOf w cap).approvedUntil < w.now)
  | noRegistry (h : (authOf w cap).verdict = .escalate) (hr : d.approvalRegistry = 0)
  | spent (h : (authOf w cap).verdict = .escalate) (hx : (approvalOf d w cap).exists_ = true)
      (hc : (approvalOf d w cap).consumed = true)
  | lapsed (h : (authOf w cap).verdict = .escalate) (hx : (approvalOf d w cap).exists_ = true)
      (ht : toWord (approvalOf d w cap).expiresAt < w.now)

section Facts

variable {d : Deployment} {w w' : World} {cap : Capability}

theorem authOf_progress (hp : Progress w w') (h : (authOf w cap).verdict ≠ .none) :
    authOf w' cap = authOf w cap := hp.keeps _ h

theorem Dead.progress (hd : Dead d w cap) (hp : Progress w w') : Dead d w' cap := by
  have hesc : ∀ {v : AuthorizationRegistry.Verdict}, (authOf w cap).verdict = v → v ≠ .none →
      authOf w' cap = authOf w cap := fun hv hne => authOf_progress hp (by rw [hv]; exact hne)
  cases hd with
  | shape h => exact .shape h
  | used h => exact .used (hp.nonceUsed _ _ h)
  | expired h => exact .expired (word_lt_of_lt_of_le h hp.now)
  | denied h => exact .denied (by rw [hesc h (by decide)]; exact h)
  | otherRequest h hr =>
    have ha := authOf_progress hp h
    exact .otherRequest (by rw [ha]; exact h) (by rw [ha]; exact hr)
  | otherPolicy h hr =>
    have ha := authOf_progress hp h
    exact .otherPolicy (by rw [ha]; exact h) (by rw [ha]; exact hr)
  | otherContext h hr =>
    have ha := authOf_progress hp h
    exact .otherContext (by rw [ha]; exact h) (by rw [ha]; exact hr)
  | stale h hs =>
    have ha := authOf_progress hp h
    exact .stale (by rw [ha]; exact h) (by rw [ha]; exact word_lt_of_lt_of_le hs hp.now)
  | noRegistry h hr => exact .noRegistry (by rw [hesc h (by decide)]; exact h) hr
  | spent h hx hc =>
    exact .spent (by rw [hesc h (by decide)]; exact h) (hp.ages.exists_of hx)
      (hp.ages.consumed_of hx hc)
  | lapsed h hx ht =>
    refine .lapsed (by rw [hesc h (by decide)]; exact h) (hp.ages.exists_of hx) ?_
    have hexp : (approvalOf d w' cap).expiresAt = (approvalOf d w cap).expiresAt := by
      rcases hp.ages _ hx with e | e <;> (unfold approvalOf; rw [e])
    rw [hexp]
    exact word_lt_of_lt_of_le ht hp.now

/-- **A dead capability does not validate.** -/
theorem Dead.not_validated {x : Submission} (hd : Dead d w x.cap) : ¬ Executor.Validated d w x := by
  intro hv
  have hauth := hv.authorization
  cases hd with
  | shape h =>
    exact h ⟨hv.call.version, hv.call.chainId, hv.call.executor, hv.call.target, hv.call.window,
      hv.call.lifetime⟩
  | used h => rw [hv.call.nonce] at h; cases h
  | expired h => exact absurd hv.call.notExpired (BitVec.not_le.mpr h)
  | denied h =>
    unfold authOf at h
    rcases hauth.verdict with he | ⟨he, _⟩ <;> rw [h] at he <;> cases he
  | otherRequest _ hr => exact hr hauth.requestHash
  | otherPolicy _ hr => exact hr hauth.policyHash
  | otherContext _ hr => exact hr hauth.context
  | stale _ hs => exact absurd hauth.fresh (BitVec.not_le.mpr hs)
  | noRegistry h hr =>
    unfold authOf at h
    rcases hauth.verdict with he | ⟨_, hreg, _⟩
    · rw [h] at he; cases he
    · exact hreg hr
  | spent h _ hc =>
    unfold authOf at h
    rcases hauth.verdict with he | ⟨_, _, hu⟩
    · rw [h] at he; cases he
    · unfold approvalOf at hc
      rw [hu.2.1] at hc
      cases hc
  | lapsed h _ ht =>
    unfold authOf at h
    rcases hauth.verdict with he | ⟨_, _, hu⟩
    · rw [h] at he; cases he
    · exact absurd hu.2.2.1 (BitVec.not_le.mpr ht)

theorem Dead.locked (hd : Dead d w cap) : Dead d (Executor.lock w) cap :=
  hd.progress ⟨BitVec.le_refl _, fun _ _ => id, Keeps.refl _, Ages.refl _⟩

theorem Dead.refused {x : Submission} (hd : Dead d w x.cap)
    (target : World → Except Bytes (World × Bytes)) :
    ∃ e, Executor.execute d x target w = .error e := by
  cases h : Executor.execute d x target w with
  | error e => exact ⟨e, rfl⟩
  | ok r => exact absurd (Executor.execute_iff.mp h).2.1 hd.locked.not_validated

end Facts

/-! ## 3. The bump -/

section Bump

variable {d : Deployment} {w w₁ : World} {i : Bytes32} {sender : Address}

/-- A successful bump replaces one entry of `bindingVersion`. -/
theorem apply_bump
    (h : SystemCall.apply d ⟨sender, .policy (.bumpBindingVersion i)⟩ w = .ok w₁) :
    w₁ = { w with policy := { w.policy with
      bindingVersion := Function.update w.policy.bindingVersion i
        (w.policy.bindingVersion i + 1) } } := by
  simp only [SystemCall.apply, mapError_eq_ok, map_eq_ok] at h
  obtain ⟨s, hs, rfl⟩ := h
  have hb := (PolicyRegistry.bumpBindingVersion_ok hs).2
  rw [hb]

/-- **A bump changes no validation**: no check of the executor reads the version. -/
theorem validated_bump
    (h : SystemCall.apply d ⟨sender, .policy (.bumpBindingVersion i)⟩ w = .ok w₁)
    (x : Submission) : Executor.Validated d w₁ x ↔ Executor.Validated d w x := by
  rw [apply_bump h]
  exact ⟨fun ⟨hc, hs, hi, hp, ha⟩ => ⟨⟨hc.version, hc.chainId, hc.executor, hc.target, hc.window,
      hc.lifetime, hc.notExpired, hc.noOverflow, hc.issued, hc.nonce, hc.callData, hc.value⟩, hs,
      hi, ⟨hp.enabled, hp.target, hp.action, hp.value⟩,
      ⟨ha.verdict, ha.requestHash, ha.policyHash, ha.context, ha.fresh⟩⟩,
    fun ⟨hc, hs, hi, hp, ha⟩ => ⟨⟨hc.version, hc.chainId, hc.executor, hc.target, hc.window,
      hc.lifetime, hc.notExpired, hc.noOverflow, hc.issued, hc.nonce, hc.callData, hc.value⟩, hs,
      hi, ⟨hp.enabled, hp.target, hp.action, hp.value⟩,
      ⟨ha.verdict, ha.requestHash, ha.policyHash, ha.context, ha.fresh⟩⟩⟩

/-- **What a bump revokes.** After a bump every capability that was dead before it is refused in
    every state of every run; and the bump ends no other: whatever validated right before it
    validates right after it. -/
theorem bump_revokes_dead
    (h : SystemCall.apply d ⟨sender, .policy (.bumpBindingVersion i)⟩ w = .ok w₁) :
    (∀ cap : Capability, cap.agentIdentityHash = i → Dead d w cap →
      ∀ w', Run d AnyCall w₁ w' → ∀ (x : Submission)
        (target : World → Except Bytes (World × Bytes)), x.cap = cap →
          ∃ e, Executor.execute d x target w' = .error e) ∧
    ∀ x : Submission, Executor.Validated d w₁ x ↔ Executor.Validated d w x := by
  refine ⟨?_, validated_bump h⟩
  rintro cap _ hd w' hrun x target rfl
  have hd₁ : Dead d w₁ x.cap := by
    refine hd.progress ?_
    rw [apply_bump h]
    exact ⟨BitVec.le_refl _, fun _ _ => id, Keeps.refl _, Ages.refl _⟩
  exact (hd₁.progress (.run hrun)).refused target

end Bump

/-! ## 4. A capability that survives -/

/-- The sample world with the identity's version bumped by its admin. -/
def bumpedWorld (v : AuthorizationRegistry.Verdict) : World :=
  let w := provisioned sampleDeployment sampleSubmission v (fun _ => true) 1100 noApprovals
  { w with policy := { w.policy with
    bindingVersion := Function.update w.policy.bindingVersion 0x11 2 } }

theorem sample_bump (v : AuthorizationRegistry.Verdict) :
    SystemCall.apply sampleDeployment ⟨1, .policy (.bumpBindingVersion 0x11)⟩
      (provisioned sampleDeployment sampleSubmission v (fun _ => true) 1100 noApprovals)
      = .ok (bumpedWorld v) := by
  simp only [SystemCall.apply, PolicyRegistry.Call.apply, PolicyRegistry.bumpBindingVersion,
    PolicyRegistry.onlyAdmin, provisioned, bumpedWorld]
  rfl

/-- The sample capability, had it been denied before the bump. -/
theorem bump_revokes_dead_sample :
    ∃ e, Executor.execute sampleDeployment sampleSubmission
      (Code.run sampleDeployment (.halt true [])) (bumpedWorld .deny) = .error e :=
  (bump_revokes_dead (sample_bump .deny)).1 sampleSubmission.cap rfl (.denied rfl) _ .start
    sampleSubmission _ rfl

/-- **A bump does not revoke.** The capability has an ALLOW and its issuer's signature before
    the bump, the admin bumps the version from 1 to 2, and it executes. -/
theorem bump_does_not_revoke :
    let w := provisioned sampleDeployment sampleSubmission .allow (fun _ => true) 1100 noApprovals
    (authOf w sampleSubmission.cap).verdict = .allow ∧
    Executor.isValidIssuerSignature sampleDeployment w
      (Executor.digest sampleDeployment sampleSubmission.cap) sampleSubmission.signature
        = .ok true ∧
    SystemCall.apply sampleDeployment ⟨1, .policy (.bumpBindingVersion 0x11)⟩ w
      = .ok (bumpedWorld .allow) ∧
    (bumpedWorld .allow).policy.bindingVersion 0x11 = 2 ∧
    ∃ w' ret, Executor.execute sampleDeployment sampleSubmission
      (Code.run sampleDeployment (.halt true [])) (bumpedWorld .allow) = .ok (w', ret) := by
  have hv : Executor.Validated sampleDeployment (Executor.lock
      (provisioned sampleDeployment sampleSubmission .allow (fun _ => true) 1100 noApprovals))
      sampleSubmission := provisioned_validated sample_wellFormed (.inl rfl) rfl
  have hb : SystemCall.apply sampleDeployment ⟨1, .policy (.bumpBindingVersion 0x11)⟩
      (Executor.lock
        (provisioned sampleDeployment sampleSubmission .allow (fun _ => true) 1100 noApprovals))
      = .ok (Executor.lock (bumpedWorld .allow)) := by
    simp only [SystemCall.apply, PolicyRegistry.Call.apply, PolicyRegistry.bumpBindingVersion,
      PolicyRegistry.onlyAdmin, provisioned, bumpedWorld, Executor.lock]
    rfl
  have ht : Code.run sampleDeployment (.halt true [])
      (allowCalling sampleDeployment sampleSubmission (bumpedWorld .allow)) = .ok (_, []) := rfl
  exact ⟨rfl, hv.signature, sample_bump .allow, by simp [bumpedWorld], _, _,
    execute_of_allow rfl ((validated_bump hb _).mpr hv) rfl ht⟩

end ContextLock
