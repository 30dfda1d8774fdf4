/-
  Subject:   What any number of interleaved calls with one idempotency key come to.
-/
import ContextLock.Broker.Calls
import Mathlib.Data.List.Nodup

namespace ContextLock.Broker

open Evm Js Machine

/-! ## 1. What belongs to a key -/

namespace Process

variable (s : Process) (key : String)

def requestsOf : List RequestRow := s.db.requests.filter (·.idempotencyKey = key)

def evaluationsOf : List EvaluationInput :=
  s.evaluations.filter fun e => (e.requestId, key) ∈ s.db.rows

def signaturesOf : List (String × Capability) :=
  s.signatures.filter fun e => (e.1, key) ∈ s.db.rows

def capabilitiesOf : List CapabilityRow :=
  s.db.capabilities.filter fun c => (c.requestId, key) ∈ s.db.rows

end Process

/-- The calls with `key` made so far, and all those still to come, are IDEMPOTENT. -/
structure Idempotent (cfg : BrokerConfig) (s : Process) (key : String) : Prop where
  request : (s.requestsOf key).length ≤ 1
  evaluation : (s.evaluationsOf key).length ≤ 1
  signature : (s.signaturesOf key).length ≤ 1
  capability : (s.capabilitiesOf key).length ≤ 1
  requestId : ∀ (c c' : Nat) (call call' : Call) (r r' : RequestRecord),
    s.calls[c]? = some call → call.idempotencyKey = key → call.state = .returned r →
    s.calls[c']? = some call' → call'.idempotencyKey = key → call'.state = .returned r' →
    r'.requestId = r.requestId
  later : ∀ (c : Nat) (call : Call) (r : RequestRecord), s.calls[c]? = some call →
    call.idempotencyKey = key → call.replay = false → call.state = .returned r →
    ∀ s', Reaches (step cfg) s s' → ∀ (c' : Nat) (call' : Call), s.calls.length ≤ c' →
      s'.calls[c']? = some call' → call'.idempotencyKey = key →
      ∃ r', call'.state = .returned r' ∧ Replays r r'

/-! ## 2. At most one of each -/

theorem length_le_one {α : Type} {l : List α} {f : α → String} (hn : (l.map f).Nodup)
    (hf : ∀ a ∈ l, ∀ b ∈ l, f a = f b) : l.length ≤ 1 := by
  match l, hn, hf with
  | [], _, _ => exact Nat.zero_le _
  | [_], _, _ => exact le_rfl
  | a :: b :: l, hn, hf =>
    have hab : f a = f b := hf a (by simp) b (by simp)
    simp [hab] at hn

section Counts

variable {cfg : BrokerConfig} {s s' : Process} {key : String}

theorem Consistent.id_unique (hs : Consistent s) {i j : String} (hi : (i, key) ∈ s.db.rows)
    (hj : (j, key) ∈ s.db.rows) : i = j :=
  congrArg Prod.fst (List.inj_on_of_nodup_map hs.keys hi hj rfl)

theorem Consistent.once_of_key (hs : Consistent s) {α : Type} {l : List α} {f : α → String}
    (hn : (l.map f).Nodup) : (l.filter fun a => (f a, key) ∈ s.db.rows).length ≤ 1 := by
  refine length_le_one (hn.sublist (List.filter_sublist.map f)) fun a ha b hb => ?_
  have ha' := (List.mem_filter.mp ha).2
  have hb' := (List.mem_filter.mp hb).2
  exact hs.id_unique (of_decide_eq_true ha') (of_decide_eq_true hb')

theorem Consistent.requestsOf_le (hs : Consistent s) : (s.requestsOf key).length ≤ 1 := by
  have hkeys : (s.db.requests.map (·.idempotencyKey)).Nodup := by
    have := hs.keys
    rwa [DB.rows, List.map_map] at this
  refine length_le_one (hkeys.sublist (List.filter_sublist.map _)) fun a ha b hb => ?_
  have ha' : a.idempotencyKey = key := of_decide_eq_true (List.mem_filter.mp ha).2
  have hb' : b.idempotencyKey = key := of_decide_eq_true (List.mem_filter.mp hb).2
  rw [ha', hb']

/-! ## 3. Calls made later -/

theorem step_keeps_returned {a : Action} {c : Nat} {call : Call} {r : RequestRecord}
    (h : step cfg s a = some s') (hc : s.calls[c]? = some call) (hst : call.state = .returned r) :
    s'.calls[c]? = some call := by
  have hset : ∀ (c' : Nat) (call' : Call) (db : DB) (st : CallState), s.calls[c']? = some call' →
      (∀ r, call'.state ≠ .returned r) → (s.advance c' call' db st).calls[c]? = some call := by
    intro c' call' db st hc' hne
    have hcc : c' ≠ c := by
      rintro rfl
      rw [hc'] at hc
      cases hc
      exact hne r hst
    rw [Process.advance, List.getElem?_set_ne hcc, hc]
  cases a with
  | createRequest input requestId =>
    cases h
    exact Machine.getElem?_concat_of_some hc
  | resolve c' result =>
    obtain ⟨call', p, db, st', hc', hst', _, rfl⟩ := step_resolve h
    exact hset c' call' db st' hc' (fun r => by rw [hst']; simp)
  | evaluate c' result issuedMs nonceMs =>
    obtain ⟨call', p, identity, input, db, n', st', hc', hst', _, rfl⟩ := step_evaluate h
    exact hset c' call' db st' hc' (fun r => by rw [hst']; simp)
  | sign c' result =>
    obtain ⟨call', p, identity, evaluation, cap, db, st', hc', hst', _, rfl⟩ := step_sign h
    exact hset c' call' db st' hc' (fun r => by rw [hst']; simp)
  | restart =>
    cases h
    have hkept : call.afterRestart = call := by simp only [Call.afterRestart, hst]
    rw [List.getElem?_map, hc, Option.map_some, hkept]

/-- A call after a step was there before it, under the same key, or is the new one. -/
theorem step_calls_back {a : Action} {c : Nat} {call' : Call} (h : step cfg s a = some s')
    (hc : s'.calls[c]? = some call') :
    (∃ call, s.calls[c]? = some call ∧ call.idempotencyKey = call'.idempotencyKey) ∨
    ∃ input requestId, a = .createRequest input requestId ∧ call' =
      ⟨input.idempotencyKey, (s.db.requestOfKey input.idempotencyKey).isSome,
        (createRequest cfg s.db input requestId).2⟩ := by
  have hset : ∀ (c' : Nat) (call : Call) (db : DB) (st : CallState), s.calls[c']? = some call →
      (s.advance c' call db st).calls[c]? = some call' →
      ∃ old, s.calls[c]? = some old ∧ old.idempotencyKey = call'.idempotencyKey := by
    intro c' call db st hc' hcall
    rw [Process.advance, List.getElem?_set] at hcall
    by_cases he : c' = c
    · subst he
      rw [if_pos rfl, if_pos (List.getElem?_eq_some_iff.mp hc').1] at hcall
      exact ⟨call, hc', by rw [← Option.some.inj hcall]⟩
    · rw [if_neg he] at hcall
      exact ⟨call', hcall, rfl⟩
  cases a with
  | createRequest input requestId =>
    cases h
    have hmem : s.calls[c]? = some call' ∨ call' = ⟨input.idempotencyKey,
        (s.db.requestOfKey input.idempotencyKey).isSome,
        (createRequest cfg s.db input requestId).2⟩ := by
      rw [List.getElem?_append] at hc
      by_cases hlt : c < s.calls.length
      · rw [if_pos hlt] at hc
        exact .inl hc
      · rw [if_neg hlt] at hc
        exact .inr (List.mem_singleton.mp (List.mem_of_getElem? hc))
    rcases hmem with hold | hnew
    · exact .inl ⟨call', hold, rfl⟩
    · exact .inr ⟨input, requestId, rfl, hnew⟩
  | resolve c' result =>
    obtain ⟨call, p, db, st', hcall, _, _, rfl⟩ := step_resolve h
    exact .inl (hset c' call db st' hcall hc)
  | evaluate c' result issuedMs nonceMs =>
    obtain ⟨call, p, identity, input, db, n', st', hcall, _, _, rfl⟩ := step_evaluate h
    exact .inl (hset c' call db st' hcall hc)
  | sign c' result =>
    obtain ⟨call, p, identity, evaluation, cap, db, st', hcall, _, _, rfl⟩ := step_sign h
    exact .inl (hset c' call db st' hcall hc)
  | restart =>
    cases h
    rw [List.getElem?_map] at hc
    obtain ⟨call, hcall, rfl⟩ := Option.map_eq_some_iff.mp hc
    refine .inl ⟨call, hcall, ?_⟩
    rcases afterRestart_cases call with hk | hk <;> rw [hk]

/-- The calls from number `n` on with `key` have all replayed `r`. -/
def AllReplay (s : Process) (n : Nat) (key : String) (r : RequestRecord) : Prop :=
  ∀ (c : Nat) (call : Call), n ≤ c → s.calls[c]? = some call → call.idempotencyKey = key →
    ∃ r', call.state = .returned r' ∧ Replays r r'

/-- **A call of a key whose outcome is there replays it.** -/
theorem allReplay_step {a : Action} {n c : Nat} {call : Call} {r : RequestRecord}
    (hs : Consistent s) (hc : s.calls[c]? = some call) (hkey : call.idempotencyKey = key)
    (hreplay : call.replay = false) (hst : call.state = .returned r)
    (hall : AllReplay s n key r) (h : step cfg s a = some s') : AllReplay s' n key r := by
  intro c' call' hn hc' hk'
  rcases step_calls_back h hc' with ⟨old, hold, hkold⟩ | ⟨input, requestId, rfl, rfl⟩
  · -- the call was there: it has returned, and stays as it is
    obtain ⟨r', hr', hrep⟩ := hall c' old hn hold (hkold.trans hk')
    have hkept := step_keeps_returned h hold hr'
    rw [hc', Option.some.injEq] at hkept
    exact ⟨r', hkept ▸ hr', hrep⟩
  · -- the call is new: it finds the row of the outcome
    have hfit := hs.calls c call hc
    have hrow : (r.requestId, key) ∈ s.db.rows := by
      rw [← hkey]
      exact hfit.row _ (by rw [hst]; rfl)
    have hag := hfit.agrees hreplay
    rw [hst] at hag
    obtain ⟨r', hget, hrep⟩ := hag
    have hkin : input.idempotencyKey = key := hk'
    rcases createRequest_cases cfg s.db input requestId with
      ⟨existing, r'', hfound, hr'', heq⟩ | ⟨hnone, _⟩ | ⟨hnone, _⟩
    · rw [hkin] at hfound
      have hid : existing.id = r.requestId := hs.id_unique (requestOfKey_some hfound) hrow
      rw [hid, hget, Option.some.injEq] at hr''
      subst hr''
      exact ⟨r', by rw [heq], hrep⟩
    · exact absurd (List.mem_map_of_mem (f := Prod.snd) hrow) (hkin ▸ requestOfKey_none hnone)
    · exact absurd (List.mem_map_of_mem (f := Prod.snd) hrow) (hkin ▸ requestOfKey_none hnone)

theorem allReplay_of_reaches {c : Nat} {call : Call} {r : RequestRecord} (hs : Consistent s)
    (hc : s.calls[c]? = some call) (hkey : call.idempotencyKey = key)
    (hreplay : call.replay = false) (hst : call.state = .returned r)
    (h : Reaches (step cfg) s s') : AllReplay s' s.calls.length key r := by
  have hstart : AllReplay s s.calls.length key r := by
    intro c' call' hn hc'
    exact absurd (List.getElem?_eq_some_iff.mp hc').1 (not_lt.mpr hn)
  have hinv := h.invariant
    (P := fun t => Consistent t ∧ t.calls[c]? = some call ∧ AllReplay t s.calls.length key r)
    (fun t a t' ht hstep => ⟨consistent_step ht.1 hstep, step_keeps_returned hstep ht.2.1 hst,
      allReplay_step ht.1 ht.2.1 hkey hreplay hst ht.2.2 hstep⟩) ⟨hs, hc, hstart⟩
  exact hinv.2.2

/-- **Idempotency.** In every state of every run, for every key: at most one request, one
    evaluation, one signature and one capability; one request id for all calls that return;
    and every call made after the one that inserted the request has returned returns what the
    tables keep of its outcome. -/
theorem create_request_idempotent (h : Reaches (step cfg) .start s) (key : String) :
    Idempotent cfg s key := by
  have hs := consistent_of_reaches h
  refine ⟨hs.requestsOf_le, hs.once_of_key (hs.once .evaluation),
    hs.once_of_key (hs.once .signature), hs.once_of_key (hs.once .capability), ?_, ?_⟩
  · intro c c' call call' r r' hc hk hst hc' hk' hst'
    have hrow := (hs.calls c call hc).row r.requestId (by rw [hst]; rfl)
    have hrow' := (hs.calls c' call' hc').row r'.requestId (by rw [hst']; rfl)
    rw [hk] at hrow
    rw [hk'] at hrow'
    exact hs.id_unique hrow' hrow
  · intro c call r hc hk hreplay hst s' hreach c' call' hn hc' hk'
    exact allReplay_of_reaches hs hc hk hreplay hst hreach c' call' hn hc' hk'

end Counts

/-! ## 4. A call and its replay -/

def treasuryTarget : String := "0x3333333333333333333333333333333333333333"

def treasuryConfig : BrokerConfig where
  chainId := 11155111
  executor := "0x5555555555555555555555555555555555555555"
  capabilityTtlSeconds := .int 300
  policies := [("treasury-v1", { policyId := "treasury-v1", policyHash := 0x13, enabled := true
                                 allowedActionKinds := [MOCK_TRANSFER]
                                 allowedTargets := [treasuryTarget], maxValueHardCap := 0
                                 target := treasuryTarget })]

/-- A transfer of 5 units under the key `transfer-1`. -/
def transferInput : CreateRequestInput where
  agentEnsName := "agent.eth"
  actionKind := MOCK_TRANSFER
  adapterParams := .obj [("recipient", .str "0x2222222222222222222222222222222222222222"),
    ("amount", .str "5")]
  policyId := "treasury-v1"
  idempotencyKey := "transfer-1"

def transferIdentity : AgentIdentity where
  ensName := "agent.eth"
  node := 0
  agent := "0x4444444444444444444444444444444444444444"
  bindingVersion := 1
  agentIdentityHash := 0x11
  source := .stub

def transferEvaluation : EvaluationResult where
  authorizationId := 0x77
  requestHash := 0x12
  verdict := .allow
  reasonCode := "ALLOW_POLICY_MATCH"
  contextCommitment := 0x88
  evaluatedAt := 1000
  approvedUntil := 1060
  source := .stub

def transferCall : List Action :=
  [.createRequest transferInput "request-1", .resolve 0 (.ok transferIdentity),
   .evaluate 0 (.ok transferEvaluation) 1000000 1000000, .sign 0 (.ok "0x5151")]

/-- **A replay withholds the capability**: a call returns a capability, its signature and the
    calldata, and the next call with the same input returns the same request without them. -/
theorem replay_withholds_capability : ∃ s s' r r',
    execute (step treasuryConfig) .start transferCall = some s ∧
    s.calls.map (·.state) = [.returned r] ∧
    step treasuryConfig s (.createRequest transferInput "request-2") = some s' ∧
    s'.calls.map (·.state) = [.returned r, .returned r'] ∧
    r'.requestId = r.requestId ∧ r.capability.isSome ∧ r.signature = some "0x5151" ∧
    r.calldata.isSome ∧ r'.capability = none ∧ r'.signature = none ∧ r'.calldata = none :=
  ⟨_, _, _, _, rfl, rfl, rfl, rfl, rfl, rfl, rfl, rfl, rfl, rfl, rfl⟩

/-- The sample call's process is idempotent for its key. -/
theorem create_request_idempotent_sample : ∃ s,
    execute (step treasuryConfig) .start transferCall = some s ∧
      Idempotent treasuryConfig s "transfer-1" := by
  obtain ⟨s, hs⟩ : ∃ s, execute (step treasuryConfig) .start transferCall = some s := ⟨_, rfl⟩
  exact ⟨s, hs, create_request_idempotent (reaches_of_execute hs) "transfer-1"⟩

end ContextLock.Broker
