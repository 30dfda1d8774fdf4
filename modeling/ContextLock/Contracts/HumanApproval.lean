/-
  Subject:   Human approvals over runs: signed, current, unspent, and spent once.

  Runs in which the approval registry's executor is this executor and stays so, and in which
  only the executor speaks as the executor (`ApprovalSetting`).
-/
import ContextLock.Contracts.Replay
import ContextLock.Contracts.Verdict

namespace ContextLock

open Evm
open Machine (Behaviour Monitor StepRel)
open Executor (Submission)
open AuthorizationRegistry (Keeps)
open ApprovalRegistry (Ages Approval)

/-! ## 1. The setting -/

def ApprovalSetting (d : Deployment) (running : Option Submission) (c : SystemCall) : Prop :=
  Genuine d running c ∧ ∀ next, c.op = .approval (.setExecutor next) → next = d.executor

/-- The approval carries a signature of its approver over this digest and expiry. -/
def Signed (d : Deployment) (h : Bytes32) (a : Approval) : Prop :=
  ∃ signature, recoversTo d.host a.approver
    (ApprovalRegistry.approvalDigest d.approvalDomain h a.approver a.expiresAt) signature = true

/-- **How the registry grows**: recorded approvals age, new ones are signed. -/
def Grows (d : Deployment) (s s' : ApprovalRegistry.Storage) : Prop :=
  Ages s s' ∧ ∀ h, (s'.approvals h).exists_ = true →
    (s.approvals h).exists_ = true ∨ Signed d h (s'.approvals h)

theorem Grows.refl (d : Deployment) (s : ApprovalRegistry.Storage) : Grows d s s :=
  ⟨Ages.refl s, fun _ h => .inl h⟩

variable {d : Deployment} {s s' : ApprovalRegistry.Storage} {w : World}

theorem Signed.ages {h : Bytes32} (hs : Signed d h (s.approvals h)) (ha : Ages s s')
    (hx : (s.approvals h).exists_ = true) :
    Signed d h (s'.approvals h) := by
  rcases ha h hx with e | e <;> rw [e] <;> exact hs

theorem Grows.trans {t u : ApprovalRegistry.Storage} (h : Grows d s t) (h' : Grows d t u) :
    Grows d s u := by
  refine ⟨h.1.trans h'.1, fun k hk => ?_⟩
  rcases h'.2 k hk with ht | hsig
  · rcases h.2 k ht with hs | hsig
    · exact .inl hs
    · exact .inr (hsig.ages h'.1 ht)
  · exact .inr hsig

theorem grows_call {now : Uint256} {sender : Address} {o : ApprovalRegistry.Call}
    (h : o.apply d.host d.approvalDomain now sender s = .ok s') : Grows d s s' := by
  refine ⟨ApprovalRegistry.apply_ages h, fun k hk => ?_⟩
  cases o with
  | setApprover next =>
    simp only [ApprovalRegistry.Call.apply, ApprovalRegistry.setApprover,
      ApprovalRegistry.onlyOwner, ite_error_eq_ok, Except.ok.injEq] at h
    obtain ⟨_, _, rfl⟩ := h
    exact .inl hk
  | setExecutor next =>
    simp only [ApprovalRegistry.Call.apply, ApprovalRegistry.setExecutor,
      ApprovalRegistry.onlyOwner, ite_error_eq_ok, Except.ok.injEq] at h
    obtain ⟨_, rfl⟩ := h
    exact .inl hk
  | submitApproval k' e sig =>
    obtain ⟨_, _, hsig, rfl⟩ := ApprovalRegistry.submitApproval_ok h
    by_cases hkk : k = k'
    · subst hkk
      refine .inr ⟨sig, ?_⟩
      rw [ApprovalRegistry.Storage.write_self]
      exact hsig
    · rw [ApprovalRegistry.Storage.write_of_ne _ _ hkk] at hk
      exact .inl hk
  | consumeApproval k' =>
    obtain ⟨_, hu, rfl⟩ := ApprovalRegistry.consumeApproval_ok.mp h
    by_cases hkk : k = k'
    · subst hkk
      exact .inl hu.1
    · rw [ApprovalRegistry.Storage.write_of_ne _ _ hkk] at hk
      exact .inl hk

/-- Only `setExecutor` moves the registry's executor. -/
theorem executor_call {now : Uint256} {sender : Address} {o : ApprovalRegistry.Call}
    (h : o.apply d.host d.approvalDomain now sender s = .ok s')
    (ho : ∀ next, o = .setExecutor next → next = d.executor) (hs : s.executor = d.executor) :
    s'.executor = d.executor := by
  cases o with
  | setApprover next =>
    simp only [ApprovalRegistry.Call.apply, ApprovalRegistry.setApprover,
      ApprovalRegistry.onlyOwner, ite_error_eq_ok, Except.ok.injEq] at h
    obtain ⟨_, _, rfl⟩ := h
    exact hs
  | setExecutor next =>
    simp only [ApprovalRegistry.Call.apply, ApprovalRegistry.setExecutor,
      ApprovalRegistry.onlyOwner, ite_error_eq_ok, Except.ok.injEq] at h
    obtain ⟨_, rfl⟩ := h
    exact ho next rfl
  | submitApproval k e sig =>
    obtain ⟨_, _, _, rfl⟩ := ApprovalRegistry.submitApproval_ok h
    exact hs
  | consumeApproval k =>
    obtain ⟨_, _, rfl⟩ := ApprovalRegistry.consumeApproval_ok.mp h
    exact hs

/-! ## 2. What every step settles -/

/-- **What every step of the setting settles**, whatever it nests. -/
structure Settles (d : Deployment) (w w' : World) : Prop where
  keeps : Keeps w.authorization w'.authorization
  grows : Grows d w.approval w'.approval
  executor : w.approval.executor = d.executor → w'.approval.executor = d.executor
  locked : w.entered = true → SameExecutor w w'

theorem Settles.refl (d : Deployment) (w : World) : Settles d w w :=
  ⟨Keeps.refl _, Grows.refl d _, id, fun _ => SameExecutor.refl w⟩

theorem Settles.trans {u v : World} (h : Settles d u v) (h' : Settles d v w) :
    Settles d u w :=
  ⟨h.keeps.trans h'.keeps, h.grows.trans h'.grows, fun hx => h'.executor (h.executor hx),
    (locked_rel d).trans (c := none) h.locked h'.locked⟩

theorem settles_call {c : Option Submission} {o : SystemCall} {w' : World}
    (hp : ApprovalSetting d c o) (h : o.apply d w = .ok w') : Settles d w w' := by
  have hkeeps := apply_authorization h
  have hsame := fun _ : w.entered = true => apply_executor h
  rcases apply_cases h with ⟨_, _, _, _, rfl⟩ | ⟨_, _, _, _, rfl⟩ | ⟨_, _, ho, hs, rfl⟩ |
    ⟨_, _, _, _, _, rfl⟩ | ⟨_, rfl⟩ | ⟨_, _, _, _, rfl⟩ | ⟨_, _, rfl⟩ | rfl
  case inr.inr.inl =>
    refine ⟨hkeeps, grows_call hs, executor_call hs fun next hn => hp.2 next ?_, hsame⟩
    rw [ho, hn]
  all_goals exact ⟨hkeeps, Grows.refl d _, id, hsame⟩

/-- What a successful execution does to approvals before it calls its target. -/
structure Consumption (d : Deployment) (x : Submission) (w w₁ : World) : Prop where
  only : w₁ = { Executor.useNonce x.cap (Executor.lock w) with approval := w₁.approval }
  grows : Grows d w.approval w₁.approval
  executor : w₁.approval.executor = w.approval.executor
  escalate : (w.authorization.getAuthorization x.cap.authorizationId).verdict = .escalate →
    w.approval.executor = d.executor ∧
    ApprovalRegistry.Usable w.now w.approval (Executor.digest d x.cap) ∧
    w₁.approval = w.approval.write (Executor.digest d x.cap)
      { w.approval.approvals (Executor.digest d x.cap) with consumed := true }
  allow : (w.authorization.getAuthorization x.cap.authorizationId).verdict ≠ .escalate →
    w₁.approval = w.approval

theorem consumption_of {x : Submission} {w₁ : World} (hv : Executor.Validated d (Executor.lock w) x)
    (h : Executor.consumeIfEscalated d x.cap (Executor.digest d x.cap)
      (Executor.useNonce x.cap (Executor.lock w)) = .ok w₁) : Consumption d x w w₁ := by
  unfold Executor.consumeIfEscalated at h
  split at h
  · rename_i hc
    have hesc : (w.authorization.getAuthorization x.cap.authorizationId).verdict = .escalate := hc.2
    simp only [mapError_eq_ok, map_eq_ok] at h
    obtain ⟨s, hs, rfl⟩ := h
    have happ : (ApprovalRegistry.Call.consumeApproval (Executor.digest d x.cap)).apply d.host
        d.approvalDomain w.now d.executor w.approval = .ok s := hs
    obtain ⟨hex, hu, rfl⟩ := ApprovalRegistry.consumeApproval_ok.mp hs
    exact ⟨rfl, grows_call happ, rfl, fun _ => ⟨hex.symm, hu, rfl⟩, fun hne => absurd hesc hne⟩
  · rename_i hc
    cases h
    refine ⟨rfl, Grows.refl d _, rfl, fun he => ?_, fun _ => rfl⟩
    rcases hv.authorization.verdict with ha | ⟨_, hreg, _⟩
    · have ha' : (w.authorization.getAuthorization x.cap.authorizationId).verdict = .allow := ha
      rw [he] at ha'
      cases ha'
    · exact absurd ⟨hreg, he⟩ hc

section Execution

variable {d : Deployment} {x : Submission} {w w' : World} {ret : Bytes}
  {target : World → Except Bytes (World × Bytes)}

def Settling (d : Deployment) (target : World → Except Bytes (World × Bytes)) : Prop :=
  ∀ w w' r, target w = .ok (w', r) → Settles d w w'

/-- **The two halves of a successful execution**: it consumes, then the target settles. -/
theorem execute_halves (ht : Settling d target)
    (h : Executor.execute d x target w = .ok (w', ret)) :
    ∃ w₁ w₂, w.entered = false ∧ Consumption d x w w₁ ∧
      target (Executor.calling d x w₁) = .ok (w₂, ret) ∧
      Settles d (Executor.calling d x w₁) w₂ ∧
      w' = Executor.finish x.cap (Executor.digest d x.cap) w₂ := by
  obtain ⟨he, hv, w₁, w₂, hc, hrun, rfl⟩ := Executor.execute_iff.mp h
  exact ⟨w₁, w₂, he, consumption_of hv hc, hrun, ht _ _ _ hrun, rfl⟩

theorem settles_execute (ht : Settling d target)
    (h : Executor.execute d x target w = .ok (w', ret)) : Settles d w w' := by
  obtain ⟨w₁, w₂, he, hc, _, hs, rfl⟩ := execute_halves ht h
  have hauth : (Executor.calling d x w₁).authorization = w.authorization := by rw [hc.only]; rfl
  refine ⟨?_, ?_, fun hx => ?_, fun hl => by rw [he] at hl; cases hl⟩
  · have hk := hs.keeps
    rw [hauth] at hk
    exact hk
  · exact hc.grows.trans hs.grows
  · exact hs.executor (by rw [← hx]; exact hc.executor)

end Execution

/-! ## 3. Executions that touch no approval -/

section Executions

variable {d : Deployment} {x : Submission} {b : Code} {w w' : World} {ret : Bytes}

/-- **An ESCALATE execution** needs a usable approval of its digest and leaves it consumed. -/
theorem execute_escalate {target : World → Except Bytes (World × Bytes)} (ht : Settling d target)
    (h : Executor.execute d x target w = .ok (w', ret))
    (hesc : (w.authorization.getAuthorization x.cap.authorizationId).verdict = .escalate) :
    ApprovalRegistry.Usable w.now w.approval (Executor.digest d x.cap) ∧
      w'.approval.approvals (Executor.digest d x.cap) =
        { w.approval.approvals (Executor.digest d x.cap) with consumed := true } := by
  obtain ⟨w₁, w₂, _, hc, _, hs, rfl⟩ := execute_halves ht h
  obtain ⟨_, hu, he⟩ := hc.escalate hesc
  refine ⟨hu, ?_⟩
  have hw₁ : (Executor.calling d x w₁).approval.approvals (Executor.digest d x.cap) =
      { w.approval.approvals (Executor.digest d x.cap) with consumed := true } := by
    show w₁.approval.approvals _ = _
    rw [he, ApprovalRegistry.Storage.write_self]
  have hx : ((Executor.calling d x w₁).approval.approvals
      (Executor.digest d x.cap)).exists_ = true := by rw [hw₁]; exact hu.1
  show w₂.approval.approvals _ = _
  rcases hs.grows.1 _ hx with e | e <;> rw [e, hw₁]

end Executions

/-! ## 4. The invariant -/

/-- The verdict an execution rested on: authorizations are write-once, so it can be read off
    any later state. -/
def restedOn (w : World) (e : CapabilityExecuted) : AuthorizationRegistry.Verdict :=
  (w.authorization.getAuthorization e.authorizationId).verdict

def escalatedDigests (w : World) : List Bytes32 :=
  (w.events.filter fun e => restedOn w e = .escalate).map (·.capabilityDigest)

/-- **The invariant between transactions.** -/
structure Approvals (d : Deployment) (w : World) : Prop where
  idle : w.entered = false
  executor : w.approval.executor = d.executor
  known : ∀ e ∈ w.events, restedOn w e ≠ .none
  spent : ∀ h ∈ escalatedDigests w, (w.approval.approvals h).exists_ = true ∧
    (w.approval.approvals h).consumed = true
  once : (escalatedDigests w).Nodup
  signed : ∀ h, (w.approval.approvals h).exists_ = true → Signed d h (w.approval.approvals h)

section Invariant

variable {d : Deployment} {w w' : World} {x : Submission} {ret : Bytes}
  {target : World → Except Bytes (World × Bytes)}

theorem restedOn_keeps (hk : Keeps w.authorization w'.authorization) {e : CapabilityExecuted}
    (he : restedOn w e ≠ .none) : restedOn w' e = restedOn w e := by
  unfold restedOn
  rw [hk _ he]

/-- Executions known in `w` are escalated in `w'` exactly where they are in `w`. -/
theorem filter_keeps (hk : Keeps w.authorization w'.authorization) {l : List CapabilityExecuted}
    (hl : ∀ e ∈ l, restedOn w e ≠ .none) :
    l.filter (fun e => restedOn w' e = .escalate) = l.filter fun e => restedOn w e = .escalate := by
  refine List.filter_congr fun e he => ?_
  rw [restedOn_keeps hk (hl e he)]

theorem signed_grows (hg : Grows d w.approval w'.approval)
    (hs : ∀ h, (w.approval.approvals h).exists_ = true → Signed d h (w.approval.approvals h))
    (h : Bytes32) (hx : (w'.approval.approvals h).exists_ = true) :
    Signed d h (w'.approval.approvals h) := by
  rcases hg.2 h hx with hw | hsig
  · exact (hs h hw).ages hg.1 hw
  · exact hsig

theorem Approvals.settles (ha : Approvals d w) (hs : Settles d w w')
    (he : w'.events = w.events) (hidle : w'.entered = false) : Approvals d w' := by
  have hdig : escalatedDigests w' = escalatedDigests w := by
    unfold escalatedDigests
    rw [he, filter_keeps hs.keeps ha.known]
  refine ⟨hidle, hs.executor ha.executor, fun e hm => ?_, fun h hm => ?_, ?_,
    signed_grows hs.grows ha.signed⟩
  · rw [he] at hm
    rw [restedOn_keeps hs.keeps (ha.known e hm)]
    exact ha.known e hm
  · rw [hdig] at hm
    obtain ⟨hx, hc⟩ := ha.spent h hm
    exact ⟨hs.grows.1.exists_of hx, hs.grows.1.consumed_of hx hc⟩
  · rw [hdig]
    exact ha.once

/-- **An execution keeps the invariant**: under an ESCALATE its approval was unspent, so its
    digest is new, and is spent now. -/
theorem Approvals.execute (ha : Approvals d w) (ht : Settling d target)
    (h : Executor.execute d x target w = .ok (w', ret)) : Approvals d w' := by
  have hset := settles_execute ht h
  obtain ⟨_, hidle, _, _, hev, _⟩ := execute_frame (fun u u' r he hr => (ht u u' r hr).locked he) h
  let ev := Executor.executedEvent (Executor.digest d x.cap) x.cap
  have hvx : restedOn w ev = .allow ∨ restedOn w ev = .escalate := execute_verdict h
  have hknown : ∀ e ∈ w'.events, restedOn w e ≠ .none := by
    intro e hm
    rw [hev] at hm
    rcases List.mem_append.mp hm with hm | hm
    · exact ha.known e hm
    · rw [List.mem_singleton.mp hm]
      rcases hvx with hv | hv <;> exact fun hn => by rw [show restedOn w _ = _ from hv] at hn; cases hn
  have hdig : escalatedDigests w' = escalatedDigests w ++
      ([ev].filter fun e => restedOn w e = .escalate).map (·.capabilityDigest) := by
    unfold escalatedDigests
    rw [filter_keeps hset.keeps hknown, hev, List.filter_append, List.map_append]
  have hspent : ∀ h ∈ escalatedDigests w, (w'.approval.approvals h).exists_ = true ∧
      (w'.approval.approvals h).consumed = true := fun k hk => by
    obtain ⟨hx, hc⟩ := ha.spent k hk
    exact ⟨hset.grows.1.exists_of hx, hset.grows.1.consumed_of hx hc⟩
  have hknown' : ∀ e ∈ w'.events, restedOn w' e ≠ .none := fun e hm => by
    rw [restedOn_keeps hset.keeps (hknown e hm)]
    exact hknown e hm
  rcases hvx with hv | hv
  · -- an ALLOW adds no escalated digest
    have hf : ([ev].filter fun e => restedOn w e = .escalate) = [] := by simp [hv]
    rw [hf, List.map_nil, List.append_nil] at hdig
    exact ⟨hidle, hset.executor ha.executor, hknown', by rw [hdig]; exact hspent,
      by rw [hdig]; exact ha.once, signed_grows hset.grows ha.signed⟩
  · have hf : ([ev].filter fun e => restedOn w e = .escalate) = [ev] := by simp [hv]
    rw [hf] at hdig
    obtain ⟨⟨hx, hunspent, _⟩, hafter⟩ := execute_escalate ht h hv
    have hfresh : Executor.digest d x.cap ∉ escalatedDigests w := fun hm => by
      rw [(ha.spent _ hm).2] at hunspent
      cases hunspent
    refine ⟨hidle, hset.executor ha.executor, hknown', fun k hk => ?_, ?_,
      signed_grows hset.grows ha.signed⟩
    · rw [hdig] at hk
      rcases List.mem_append.mp hk with hk | hk
      · exact hspent k hk
      · rw [List.mem_singleton.mp hk]
        show (w'.approval.approvals (Executor.digest d x.cap)).exists_ = true ∧
          (w'.approval.approvals (Executor.digest d x.cap)).consumed = true
        rw [hafter]
        exact ⟨hx, rfl⟩
    · rw [hdig]
      refine List.nodup_append.mpr ⟨ha.once, List.nodup_singleton _, ?_⟩
      intro k hk k' hk' hkk
      rw [List.mem_singleton.mp hk'] at hkk
      subst hkk
      exact hfresh hk

theorem approvals_rel (d : Deployment) : StepRel (system d) (ApprovalSetting d)
    (fun _ w w' => Settles d w w' ∧ (Approvals d w → Approvals d w')) where
  refl := fun _ w => ⟨Settles.refl d w, id⟩
  trans := fun h h' => ⟨h.1.trans h'.1, fun ha => h'.2 (h.2 ha)⟩
  call := fun hp h => by
    have hs := apply_executor h
    exact ⟨settles_call hp h, fun ha =>
      ha.settles (settles_call hp h) hs.events (hs.entered.trans ha.idle)⟩
  enter := fun hcallee h => by
    have ht : Settling d _ := fun t t' r hr => (hcallee t t' r hr).1
    exact ⟨settles_execute ht h, fun ha => ha.execute ht h⟩

/-- **The invariant over every run of the setting.** -/
theorem Approvals.run {w₀ : World} (h₀ : Approvals d w₀) (h : Run d (ApprovalSetting d) w₀ w) :
    Approvals d w := by
  refine ((approvals_rel d).reach ?_ h).2 h₀
  intro s s' he
  obtain ⟨now, rfl⟩ : ∃ now, s' = { s with now := now } := by
    cases he
    exact ⟨_, rfl⟩
  have hs : Settles d s { s with now := now } :=
    ⟨Keeps.refl _, Grows.refl d _, id, fun _ => ⟨rfl, rfl, rfl, rfl⟩⟩
  exact ⟨hs, fun ha => ha.settles hs rfl ha.idle⟩

end Invariant

/-! ## 5. Executions and approvals over runs -/

/-- A fresh deployment of the setting: nothing executed, nothing approved, the registry's
    executor is this executor. -/
structure FreshSetting (d : Deployment) (w : World) : Prop where
  unused : Unused w
  executor : w.approval.executor = d.executor
  none : ∀ h, (w.approval.approvals h).exists_ = false

theorem FreshSetting.approvals (h : FreshSetting d w) :
    Approvals d w where
  idle := h.unused.idle
  executor := h.executor
  known := by simp [h.unused.events]
  spent := by simp [escalatedDigests, h.unused.events]
  once := by simp [escalatedDigests, h.unused.events]
  signed := fun k hk => by rw [h.none k] at hk; cases hk

end ContextLock
