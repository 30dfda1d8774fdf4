/-
  Subject:   The private policy whose reports a consumer accepts.

  The owner sets the commitment of the policy that the consumer is to accept. No path compares it
  with a report, so what is recorded is what the forwarder delivers.
-/
import ContextLock.Contracts.CrePath
import ContextLock.Machine.Transition

namespace ContextLock.CreConsumer

open Evm Machine
open AuthorizationRegistry (Authorization Verdict)

/-! ## 1. Runs of a consumer -/

/-- The consumer and the registry it writes to; the commitment the owner has set, and the accepted
    reports, each with the commitment that was set then. -/
structure Delivery where
  consumer : Storage
  registry : AuthorizationRegistry.Storage
  configured : Option Bytes32
  accepted : List (Option Bytes32 × Report)

/-- A consumer whose owner has set nothing. -/
def Delivery.start (consumer : Storage) (registry : AuthorizationRegistry.Storage) : Delivery :=
  ⟨consumer, registry, none, []⟩

/-- Somebody calls the consumer, or the registry itself. -/
inductive Action where
  | consumer (sender : Address) (call : Call)
  | registry (sender : Address) (call : AuthorizationRegistry.Call)

def Call.configures : Call → Option Bytes32 → Option Bytes32
  | .setExpectedPolicyCommitment next, _ => some next
  | _, configured => configured

def Call.delivers : Call → Option Report
  | .onReport report => decodeReport report
  | _ => none

/-- One call to the consumer at `this` or to its registry. A call that reverts changes nothing. -/
def deliveryStep (this : Address) (s : Delivery) : Action → Option Delivery
  | .consumer sender call =>
    match call.apply this sender s.consumer s.registry with
    | .error _ => none
    | .ok (consumer, registry) =>
      some ⟨consumer, registry, call.configures s.configured,
        s.accepted ++ (call.delivers.map (s.configured, ·)).toList⟩
  | .registry sender call =>
    match call.apply sender s.registry with
    | .error _ => none
    | .ok registry => some { s with registry := registry }

/-- What `onReport` asks of a report that decodes to `r`. -/
def acceptable (this sender : Address) (s : Delivery) (report : Bytes) (r : Report) : Bool :=
  decide (sender = s.consumer.forwarder) && decide (s.consumer.forwarder ≠ 0) &&
    decide (224 ≤ report.length) && decide (r.verdict ≠ 0) && decide (r.verdict ≤ 3) &&
    decide (r.evaluatedAt < r.validUntil) && decide (s.registry.authorizer = this) &&
    decide ((s.registry.authorizations r.authorizationId).verdict = .none)

/-- Where the owner has set a commitment, no report is delivered that is acceptable and is of
    another policy. -/
def underPolicy (this : Address) (s : Delivery) : Action → Bool
  | .consumer sender (.onReport report) =>
    match s.configured, decodeReport report with
    | some c, some r => !acceptable this sender s report r || decide (r.policyCommitment = c)
    | _, _ => true
  | _ => true

/-! ## 2. What is accepted -/

section Accepted

variable {this sender : Address} {s s' : Delivery}

/-- **What `onReport` accepts** is acceptable, and is recorded. -/
theorem onReport_acceptable {report : Bytes} {registry : AuthorizationRegistry.Storage}
    (h : onReport sender s.consumer this s.registry report = .ok registry) :
    ∃ r v, decodeReport report = some r ∧ acceptable this sender s report r = true ∧ v ≠ .none ∧
      registry.getAuthorization r.authorizationId = r.authorization v := by
  obtain ⟨hsender, hforwarder, hlength, r, v, hr, hv, hrecord⟩ := onReport_ok h
  obtain ⟨hthis, hverdict, hwindow, hfree, rfl⟩ :=
    AuthorizationRegistry.recordAuthorization_ok hrecord
  have hrange : r.verdict ≠ 0 ∧ r.verdict ≤ 3 := by
    have hall : ∀ x : Uint8, Verdict.ofUint8 x = some v → x ≠ 0 ∧ x ≤ 3 := by
      intro x hx
      unfold Verdict.ofUint8 at hx
      split at hx
      · exact absurd (Option.some.inj hx).symm hverdict
      · next hzero =>
        refine ⟨hzero, ?_⟩
        split at hx
        · next hone =>
          rw [hone]
          decide
        · split at hx
          · next htwo =>
            rw [htwo]
            decide
          · split at hx
            · next hthree =>
              rw [hthree]
              decide
            · cases hx
    exact hall r.verdict hv
  refine ⟨r, v, hr, ?_, hverdict, getAuthorization_update s.registry _ _⟩
  have hid : computeAuthorizationId r.requestHash r.policyCommitment r.evaluatedAt
      = r.authorizationId := rfl
  rw [hid] at hfree
  simp only [acceptable, Bool.and_eq_true, decide_eq_true_eq]
  exact ⟨⟨⟨⟨⟨⟨⟨hsender, hforwarder⟩, hlength⟩, hrange.1⟩, hrange.2⟩, hwindow⟩, hthis.symm⟩, hfree⟩

/-- The accepted reports are of the policy that was set, and are recorded. -/
structure UnderPolicy (s : Delivery) : Prop where
  policy : ∀ e ∈ s.accepted, ∀ c, e.1 = some c → e.2.policyCommitment = c
  recorded : ∀ e ∈ s.accepted, ∃ v, v ≠ .none ∧
    s.registry.getAuthorization e.2.authorizationId = e.2.authorization v

theorem recorded_keeps {registry registry' : AuthorizationRegistry.Storage} {r : Report} {v : Verdict}
    (h : AuthorizationRegistry.Keeps registry registry') (hv : v ≠ .none)
    (hrecorded : registry.getAuthorization r.authorizationId = r.authorization v) :
    registry'.getAuthorization r.authorizationId = r.authorization v := by
  have hverdict : (registry.getAuthorization r.authorizationId).verdict ≠ .none := by
    rw [hrecorded]
    exact hv
  exact (h r.authorizationId hverdict).trans hrecorded

theorem UnderPolicy.of_keeps (h : UnderPolicy s)
    (hregistry : AuthorizationRegistry.Keeps s.registry s'.registry)
    (haccepted : s'.accepted = s.accepted) : UnderPolicy s' := by
  refine ⟨?_, fun e he => ?_⟩
  · rw [haccepted]
    exact h.policy
  · rw [haccepted] at he
    obtain ⟨v, hv, hrecorded⟩ := h.recorded e he
    exact ⟨v, hv, recorded_keeps hregistry hv hrecorded⟩

/-- **One call.** -/
theorem underPolicy_step {a : Action} (h : UnderPolicy s) (hguard : underPolicy this s a = true)
    (hstep : deliveryStep this s a = some s') : UnderPolicy s' := by
  cases a with
  | registry sender call =>
    simp only [deliveryStep] at hstep
    cases happly : call.apply sender s.registry with
    | error e =>
      rw [happly] at hstep
      cases hstep
    | ok registry =>
      rw [happly] at hstep
      cases hstep
      exact h.of_keeps (AuthorizationRegistry.apply_keeps happly) rfl
  | consumer sender call =>
    simp only [deliveryStep] at hstep
    cases happly : call.apply this sender s.consumer s.registry with
    | error e =>
      rw [happly] at hstep
      cases hstep
    | ok after =>
      obtain ⟨consumer, registry⟩ := after
      rw [happly] at hstep
      have hs' := Option.some.inj hstep
      have hkeeps := apply_keeps happly
      cases call with
      | setForwarder next | setExpectedPolicyCommitment next =>
        rw [← hs']
        exact h.of_keeps hkeeps (List.append_nil _)
      | onReport report =>
        simp only [Call.apply, map_eq_ok, Prod.mk.injEq] at happly
        obtain ⟨registry', hreport, -, rfl⟩ := happly
        obtain ⟨r, v, hr, hacceptable, hv, hrecorded⟩ := onReport_acceptable hreport
        have hnew : ∀ e ∈ s'.accepted, e ∈ s.accepted ∨ e = (s.configured, r) := by
          intro e he
          rw [← hs'] at he
          simpa [Call.delivers, hr] using he
        have hregistry : s'.registry = registry' := by rw [← hs']
        refine ⟨fun e he c hc => ?_, fun e he => ?_⟩
        · rcases hnew e he with hold | rfl
          · exact h.policy e hold c hc
          · have hset : s.configured = some c := hc
            simpa [underPolicy, hset, hr, hacceptable] using hguard
        · rw [hregistry]
          rcases hnew e he with hold | rfl
          · obtain ⟨v', hv', hrecorded'⟩ := h.recorded e hold
            exact ⟨v', hv', recorded_keeps hkeeps hv' hrecorded'⟩
          · exact ⟨v, hv, hrecorded⟩

/-- **The policy that was set.** In every run in which no acceptable report of another policy is
    delivered, every report that was accepted while a commitment was set carries it, and so does
    what it recorded. -/
theorem accepted_under_policy {consumer : Storage} {registry : AuthorizationRegistry.Storage}
    (h : Reaches (guarded (deliveryStep this) fun s a => underPolicy this s a = true)
      (.start consumer registry) s) :
    ∀ e ∈ s.accepted, ∀ c, e.1 = some c → e.2.policyCommitment = c ∧
      (s.registry.getAuthorization e.2.authorizationId).policyHash = c := by
  have hunder : UnderPolicy s := by
    refine h.invariant (fun s a s' hunder hstep => ?_)
      ⟨fun e he => absurd he List.not_mem_nil, fun e he => absurd he List.not_mem_nil⟩
    obtain ⟨hguard, hstep⟩ := guarded_eq_some.mp hstep
    exact underPolicy_step hunder hguard hstep
  intro e he c hc
  have hpolicy := hunder.policy e he c hc
  obtain ⟨v, -, hrecorded⟩ := hunder.recorded e he
  rw [hrecorded]
  exact ⟨hpolicy, hpolicy⟩

end Accepted

/-! ## 3. A report of the policy that was set, and one of another -/

/-- A consumer at the address 3 with the owner 1 and the forwarder 2, which its registry lets write. -/
def freshDelivery : Delivery := .start ⟨1, 2, 0⟩ ⟨1, 3, fun _ => .zero⟩

/-- The consumer once the owner has set the commitment 7. -/
def configuredDelivery : Delivery := { freshDelivery with
  consumer := ⟨1, 2, 7⟩
  configured := some 7 }

def allowReport (commitment : Bytes32) : Report := ⟨0x11, commitment, 0x12, 1, 0x13, 1000, 1060⟩

theorem set_seven : deliveryStep 3 freshDelivery (.consumer 1 (.setExpectedPolicyCommitment 7))
    = some configuredDelivery := rfl

theorem deliver_allow (commitment : Bytes32) : ∃ s,
    deliveryStep 3 configuredDelivery (.consumer 2 (.onReport (allowReport commitment).encode))
      = some s ∧ s.accepted = [(some 7, allowReport commitment)] := by
  have hrange : ¬((1 : Uint8) = 0 ∨ (1 : Uint8) > 3) := by decide
  have hwindow : (1000 : Uint64) < 1060 := by decide
  have hreport : onReport 2 configuredDelivery.consumer 3 configuredDelivery.registry
      (allowReport commitment).encode = .ok _ :=
    onReport_encode (v := .allow) rfl (by decide) hrange rfl hwindow rfl
  refine ⟨_, by simp only [deliveryStep, Call.apply, hreport]; rfl, ?_⟩
  simp [Call.delivers, decodeReport_encode, configuredDelivery, freshDelivery, Delivery.start]

/-- A report of the policy that was set is accepted. -/
theorem seven_accepted : ∃ s, Reaches (guarded (deliveryStep 3) fun s a => underPolicy 3 s a = true)
      freshDelivery s ∧ s.accepted = [(some 7, allowReport 7)] ∧
    (s.registry.getAuthorization (allowReport 7).authorizationId).policyHash = 7 := by
  obtain ⟨s, hstep, haccepted⟩ := deliver_allow 7
  have hguard : underPolicy 3 configuredDelivery
      (.consumer 2 (.onReport (allowReport 7).encode)) = true := by
    simp only [underPolicy, decodeReport_encode, configuredDelivery, Bool.or_eq_true,
      decide_eq_true_eq]
    exact .inr rfl
  have hreach : Reaches (guarded (deliveryStep 3) fun s a => underPolicy 3 s a = true)
      freshDelivery s :=
    .head (guarded_eq_some.mpr ⟨rfl, set_seven⟩)
      (.head (guarded_eq_some.mpr ⟨hguard, hstep⟩) (.refl s))
  refine ⟨s, hreach, haccepted, ?_⟩
  exact (accepted_under_policy hreach (some 7, allowReport 7) (by simp [haccepted]) 7 rfl).2

/-- **A report of another policy is accepted**: the owner has set 7, and the report carries 8. -/
theorem other_policy_accepted : ∃ s, Reaches (deliveryStep 3) freshDelivery s ∧
    ∃ e ∈ s.accepted, e.1 = some 7 ∧ e.2.policyCommitment ≠ 7 := by
  obtain ⟨s, hstep, haccepted⟩ := deliver_allow 8
  refine ⟨s, .head set_seven (.head hstep (.refl s)), (some 7, allowReport 8), by simp [haccepted],
    rfl, ?_⟩
  show (8 : Bytes32) ≠ 7
  decide

end ContextLock.CreConsumer
