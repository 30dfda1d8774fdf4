/-
  Subject:   What a call of `createRequest` leaves behind when it throws.

  Once its row is inserted, a call can fail at the identity provider, at the evaluator, at the
  signer and at every insert after them. Only the first of these writes the failure to the row.
-/
import ContextLock.Broker.Idempotency

namespace ContextLock.Broker

open Evm Js Machine

/-! ## 1. What a failed call is to leave -/

def CallState.waits : CallState → Option String
  | .resolving p => some p.requestId
  | .evaluating p _ _ => some p.requestId
  | .signing p _ _ _ => some p.requestId
  | _ => none

/-- The row of `id` says that the request failed, and why. -/
def DB.FailedWith (db : DB) (id reason : String) : Prop :=
  ∃ row, db.request id = some row ∧ row.status = .FAILED ∧ row.reasonCode = some reason

/-- The row of `id` is pending. -/
def DB.PendingRow (db : DB) (id : String) : Prop :=
  ∃ row, db.request id = some row ∧ row.status = .PENDING

/-- The request `id` has failed for good: its row says so and why, now and after every run, and
    every later call of its key returns that. -/
structure FailedForGood (cfg : BrokerConfig) (s : Process) (id key reason : String) : Prop where
  row : ∀ s', Reaches (step cfg) s s' → s'.db.FailedWith id reason
  replayed : ∀ s', Reaches (step cfg) s s' → ∀ (c : Nat) (call : Call), s.calls.length ≤ c →
    s'.calls[c]? = some call → call.idempotencyKey = key →
    ∃ r, call.state = .returned r ∧ r.requestId = id ∧ r.status = .FAILED ∧ r.reasonCode = reason

/-- Every call that waited in `s` for its row and has thrown in `s'` left a request that has failed
    for good. -/
def ThrowsRecorded (cfg : BrokerConfig) (s s' : Process) : Prop :=
  ∀ (c : Nat) (call call' : Call) (id : String) (e : Failure), s.calls[c]? = some call →
    call.state.waits = some id → s'.calls[c]? = some call' → call'.state = .threw e →
    ∃ reason, FailedForGood cfg s' id call.idempotencyKey reason

/-! ## 2. Failures that are not written to the row -/

/-- The identity does not make a request hash. -/
def resolveLeaves (cfg : BrokerConfig) (p : Prepared) : Except Failure AgentIdentity → Bool
  | .error _ => false
  | .ok identity => (requestHash (unissued cfg p identity)).isNone

/-- The evaluator fails, its authorization id is taken, or it allows and the configured lifetime is
    no integer. -/
def evaluateLeaves (cfg : BrokerConfig) (db : DB) : Except Failure EvaluationResult → Bool
  | .error _ => true
  | .ok evaluation =>
    db.authorizations.any (·.authorizationId = evaluation.authorizationId) ||
      decide (evaluation.verdict = .allow) && !(cfg.capabilityTtlSeconds matches .int _)

def signLeaves (db : DB) (cap : Capability) : Except Failure String → Bool
  | .error _ => true
  | .ok _ => (capabilityDigest cap).all fun digest => db.capabilities.any (·.digest = digest)

/-- The step is a part of a call that fails and does not write that to its row. -/
def Action.leavesPending (cfg : BrokerConfig) (s : Process) : Action → Bool
  | .resolve c result =>
    match (s.calls[c]?).map Call.state with
    | some (.resolving p) => resolveLeaves cfg p result
    | _ => false
  | .evaluate c result _ _ =>
    match (s.calls[c]?).map Call.state with
    | some (.evaluating ..) => evaluateLeaves cfg s.db result
    | _ => false
  | .sign c result =>
    match (s.calls[c]?).map Call.state with
    | some (.signing _ _ _ cap) => signLeaves s.db cap result
    | _ => false
  | .createRequest .. | .restart => false

/-! ## 3. How a part of a call ends -/

/-- How a part of the call for `id` ends, by whether it leaves its row pending for good. -/
inductive PartEnds (id : String) (db : DB) : Bool → CallState → Prop where
  | waits {st : CallState} (hwaits : st.waits = some id) (hrow : db.PendingRow id) :
    PartEnds id db false st
  | returns (r : RequestRecord) : PartEnds id db false (.returned r)
  | failed (e : Failure) (reason : String) (hrow : db.FailedWith id reason) :
    PartEnds id db false (.threw e)
  | left (e : Failure) (hrow : db.PendingRow id) : PartEnds id db true (.threw e)

section Parts

variable {cfg : BrokerConfig} {db db' : DB} {p : Prepared} {identity : AgentIdentity}
  {st : CallState}

theorem pendingRow_update {id : String} {set : RequestRow → RequestRow}
    (h : db.PendingRow id) (hset : ∀ r, (set r).id = r.id ∧ (set r).status = r.status) :
    (db.updateRequest id set).PendingRow id := by
  obtain ⟨row, hrow, hstatus⟩ := h
  exact ⟨set row, request_updateRequest_self (fun r => (hset r).1) hrow,
    (hset row).2.trans hstatus⟩

theorem identityResolved_ends {result : Except Failure AgentIdentity}
    (hrow : db.PendingRow p.requestId) (h : identityResolved cfg db p result = (db', st)) :
    PartEnds p.requestId db' (resolveLeaves cfg p result) st := by
  cases result with
  | error e =>
    cases h
    obtain ⟨row, hreq, -⟩ := hrow
    have hfailed : ((db.audit p.requestId .ENS_IDENTITY_FAILED).setStatus p.requestId .FAILED
        (identityFailureCode e)).FailedWith p.requestId (identityFailureCode e) :=
      ⟨_, request_setStatus hreq, rfl, rfl⟩
    exact .failed e _ hfailed
  | ok identity =>
    have hpending : (((db.audit p.requestId .ENS_IDENTITY_VALIDATED).updateRequest p.requestId
        (RequestRow.identified identity)).audit p.requestId .EVALUATION_REQUESTED).PendingRow
        p.requestId :=
      @pendingRow_update (db.audit p.requestId .ENS_IDENTITY_VALIDATED) _ _ hrow
        fun _ => ⟨rfl, rfl⟩
    simp only [identityResolved] at h
    cases hhash : requestHash (unissued cfg p identity) with
    | none =>
      rw [hhash] at h
      cases h
      have hleaves : resolveLeaves cfg p (.ok identity) = true := by
        simp [resolveLeaves, hhash]
      rw [hleaves]
      exact .left _ hpending
    | some hash =>
      rw [hhash] at h
      cases h
      have hleaves : resolveLeaves cfg p (.ok identity) = false := by
        simp [resolveLeaves, hhash]
      rw [hleaves]
      exact .waits rfl hpending

theorem concluded_ends {id reasonCode : String} {status : RequestStatus} {row : RequestRow}
    (h : db.request id = some row) :
    PartEnds id (db.setStatus id status reasonCode) false
      ((db.setStatus id status reasonCode).replay id) := by
  obtain ⟨r, hr⟩ := getRequest_of_request (request_setStatus h)
  rw [DB.replay, hr]
  exact .returns r

theorem evaluated_ends {n n' issuedMs nonceMs : Nat} {result : Except Failure EvaluationResult}
    (hrow : db.PendingRow p.requestId)
    (h : evaluated cfg n db p identity result issuedMs nonceMs = (db', n', st)) :
    PartEnds p.requestId db' (evaluateLeaves cfg db result) st := by
  cases result with
  | error e =>
    cases h
    exact .left e hrow
  | ok evaluation =>
    simp only [evaluated] at h
    cases hi : db.insertAuthorization (evaluation.row p.requestId) with
    | none =>
      rw [hi] at h
      cases h
      have hleaves : evaluateLeaves cfg db (.ok evaluation) = true := by
        have htaken : db.authorizations.any
            (·.authorizationId = evaluation.authorizationId) = true := by
          unfold DB.insertAuthorization at hi
          split at hi
          · next hany => exact hany
          · cases hi
        simp only [evaluateLeaves, htaken, Bool.true_or]
      rw [hleaves]
      exact .left _ hrow
    | some db₁ =>
      rw [hi] at h
      obtain ⟨hfree, rfl⟩ := insertAuthorization_eq_some.mp hi
      have hany : db.authorizations.any
          (·.authorizationId = evaluation.authorizationId) = false := by
        refine List.any_eq_false.mpr fun a ha htaken => ?_
        exact hfree a ha (of_decide_eq_true htaken)
      obtain ⟨row, hreq, hstatus⟩ := hrow
      cases hv : evaluation.verdict with
      | deny | escalate =>
        simp only [hv] at h
        cases h
        have hleaves : evaluateLeaves cfg db (.ok evaluation) = false := by
          simp [evaluateLeaves, hany, hv]
        rw [hleaves]
        exact concluded_ends hreq
      | allow =>
        simp only [hv] at h
        cases httl : cfg.capabilityTtlSeconds with
        | nan | inf negative =>
          simp only [httl] at h
          cases h
          have hleaves : evaluateLeaves cfg db (.ok evaluation) = true := by
            simp [evaluateLeaves, hv, httl]
          rw [hleaves]
          exact .left _ ⟨row, hreq, hstatus⟩
        | int ttl =>
          simp only [httl] at h
          cases h
          have hleaves : evaluateLeaves cfg db (.ok evaluation) = false := by
            simp [evaluateLeaves, hany, httl]
          rw [hleaves]
          exact .waits rfl ⟨row, hreq, hstatus⟩

theorem signed_ends {evaluation : EvaluationResult} {cap : Capability}
    {result : Except Failure String} (hrow : db.PendingRow p.requestId)
    (h : signed db p identity evaluation cap result = (db', st)) :
    PartEnds p.requestId db' (signLeaves db cap result) st := by
  cases result with
  | error e =>
    cases h
    exact .left e hrow
  | ok signature =>
    simp only [signed] at h
    cases hdigest : capabilityDigest cap with
    | none =>
      rw [hdigest] at h
      cases h
      have hleaves : signLeaves db cap (.ok signature) = true := by simp [signLeaves, hdigest]
      rw [hleaves]
      exact .left _ hrow
    | some digest =>
      simp only [hdigest] at h
      cases hi : db.insertCapability (cap.row p.requestId digest) with
      | none =>
        rw [hi] at h
        cases h
        have hleaves : signLeaves db cap (.ok signature) = true := by
          unfold DB.insertCapability at hi
          split at hi
          · next hany =>
            rw [signLeaves, hdigest]
            exact hany
          · cases hi
        rw [hleaves]
        exact .left _ hrow
      | some db₁ =>
        rw [hi] at h
        cases h
        obtain ⟨hfree, -⟩ := insertCapability_eq_some.mp hi
        have hleaves : signLeaves db cap (.ok signature) = false := by
          rw [signLeaves, hdigest]
          refine List.any_eq_false.mpr fun c hc htaken => ?_
          exact hfree c hc (of_decide_eq_true htaken)
        rw [hleaves]
        exact .returns _

end Parts

/-! ## 4. One step -/

section Steps

variable {cfg : BrokerConfig} {s s' : Process} {c : Nat} {call : Call} {id : String}

def PendingRows (s : Process) : Prop :=
  ∀ (c : Nat) (call : Call) (id : String), s.calls[c]? = some call →
    call.state.waits = some id → s.db.PendingRow id

theorem request_of_waits {st : CallState} (h : st.waits = some id) : st.request = some id := by
  cases st <;> first | exact h | cases h

theorem owns_of_waits (hfit : call.Fits s) (h : call.state.waits = some id) :
    call.owns = some id := by
  have hahead : call.state.ahead .capability = true := by
    cases hst : call.state <;> rw [hst] at h <;> first | rfl | cases h
  exact Call.owns_eq_some.mpr ⟨hfit.replay_of_waiting hahead, request_of_waits h⟩

/-- A step is a part of a call that waits, which it takes to `st`. -/
structure PartStep (cfg : BrokerConfig) (s s' : Process) (a : Action) (c : Nat) (call : Call)
    (id : String) (st : CallState) : Prop where
  before : s.calls[c]? = some call
  waits : call.state.waits = some id
  turn : Turn id call.state st s s'
  calls : s'.calls = s.calls.set c { call with state := st }
  ends : PartEnds id s'.db (a.leavesPending cfg s) st

/-- **A step** is a part of a call, a new call or a restart. -/
theorem step_ends {a : Action} (hs : Consistent s) (hp : PendingRows s)
    (h : step cfg s a = some s') :
    (∃ c call id st, PartStep cfg s s' a c call id st) ∨
      (∃ input requestId, a = .createRequest input requestId) ∨ a = .restart := by
  cases a with
  | createRequest input requestId => exact .inr (.inl ⟨input, requestId, rfl⟩)
  | restart => exact .inr (.inr rfl)
  | resolve c result =>
    obtain ⟨call, p, db, st', hc, hst, hpart, rfl⟩ := step_resolve h
    have hwaits : call.state.waits = some p.requestId := by rw [hst]; rfl
    have hleaves : Action.leavesPending cfg s (.resolve c result) = resolveLeaves cfg p result := by
      simp only [Action.leavesPending, hc, Option.map_some, hst]
    refine .inl ⟨c, call, p.requestId, st', hc, hwaits,
      turn_identityResolved (hs.calls c call hc) hst hpart, rfl, ?_⟩
    rw [hleaves]
    exact identityResolved_ends (hp c call _ hc hwaits) hpart
  | evaluate c result issuedMs nonceMs =>
    obtain ⟨call, p, identity, input, db, n', st', hc, hst, hpart, rfl⟩ := step_evaluate h
    have hwaits : call.state.waits = some p.requestId := by rw [hst]; rfl
    have hfit := hs.calls c call hc
    have hreplay := hfit.replay_of_waiting (k := .capability) (by rw [hst]; rfl)
    have hturn := turn_evaluated (c := c) hfit hreplay hst hpart
    have hleaves : Action.leavesPending cfg s (.evaluate c result issuedMs nonceMs)
        = evaluateLeaves cfg s.db result := by
      simp only [Action.leavesPending, hc, Option.map_some, hst]
    refine .inl ⟨c, call, p.requestId, st', hc, hwaits, ?_, rfl, ?_⟩
    · refine ⟨hturn.rows, hturn.request, hturn.authorizationOf, fun k => ?_, hturn.ahead,
        hturn.request_eq, hturn.agrees⟩
      cases k with
      | evaluation => exact hturn.log .evaluation
      | authorization => exact hturn.log .authorization
      | signature => exact hturn.log .signature
      | capability => exact hturn.log .capability
    · rw [hleaves]
      exact evaluated_ends (hp c call _ hc hwaits) hpart
  | sign c result =>
    obtain ⟨call, p, identity, evaluation, cap, db, st', hc, hst, hpart, rfl⟩ := step_sign h
    have hwaits : call.state.waits = some p.requestId := by rw [hst]; rfl
    have hfit := hs.calls c call hc
    have hreplay := hfit.replay_of_waiting (k := .capability) (by rw [hst]; rfl)
    have hleaves : Action.leavesPending cfg s (.sign c result) = signLeaves s.db cap result := by
      simp only [Action.leavesPending, hc, Option.map_some, hst]
    refine .inl ⟨c, call, p.requestId, st', hc, hwaits, turn_signed hfit hreplay hst hpart, rfl, ?_⟩
    rw [hleaves]
    exact signed_ends (hp c call _ hc hwaits) hpart

theorem PartStep.get {a : Action} {st : CallState} {c' : Nat} {call' : Call}
    (h : PartStep cfg s s' a c call id st) (hc' : s'.calls[c']? = some call') :
    (c' = c ∧ call' = { call with state := st }) ∨ (c' ≠ c ∧ s.calls[c']? = some call') := by
  rw [h.calls, List.getElem?_set] at hc'
  by_cases he : c = c'
  · subst he
    rw [if_pos rfl, if_pos (List.getElem?_eq_some_iff.mp h.before).1] at hc'
    exact .inl ⟨rfl, (Option.some.inj hc').symm⟩
  · rw [if_neg he] at hc'
    exact .inr ⟨fun h => he h.symm, hc'⟩

theorem createRequest_request {db : DB} {input : CreateRequestInput} {requestId : String}
    {row : RequestRow} (h : db.request id = some row) :
    (createRequest cfg db input requestId).1.request id = some row := by
  rcases createRequest_cases cfg db input requestId with
    ⟨existing, r, -, -, heq⟩ | ⟨-, e, heq⟩ | ⟨-, p, -, -, -, heq⟩
  · rw [heq]
    exact h
  · rw [heq]
    exact h
  · rw [heq]
    show List.find? _ (db.requests ++ [p.row]) = _
    rw [List.find?_append, ← DB.request, h, Option.some_or]

theorem createRequest_waits {db : DB} {input : CreateRequestInput} {requestId : String}
    (h : (createRequest cfg db input requestId).2.waits = some id) :
    db.request id = none ∧ (createRequest cfg db input requestId).1.PendingRow id := by
  rcases createRequest_cases cfg db input requestId with
    ⟨existing, r, -, -, heq⟩ | ⟨-, e, heq⟩ | ⟨-, p, hid, -, hnew, heq⟩
  · rw [heq] at h
    cases h
  · rw [heq] at h
    cases h
  · rw [heq] at h ⊢
    obtain rfl : p.requestId = id := Option.some.inj h
    have hnone : db.request p.requestId = none := by
      cases hreq : db.request p.requestId with
      | none => rfl
      | some row =>
        have hmem : p.requestId ∈ db.rows.map (·.1) := by
          refine List.mem_map.mpr ⟨(row.id, row.idempotencyKey), ?_, request_id hreq⟩
          exact List.mem_map_of_mem (f := fun r : RequestRow => (r.id, r.idempotencyKey))
            (List.mem_of_find?_eq_some hreq)
        exact absurd (hid ▸ hmem) hnew
    refine ⟨hnone, p.row, ?_, rfl⟩
    show List.find? _ (db.requests ++ [p.row]) = _
    have hself : List.find? (fun r : RequestRow => decide (r.id = p.requestId)) [p.row]
        = some p.row := by
      rw [List.find?_singleton]
      exact if_pos (decide_eq_true rfl)
    rw [List.find?_append, ← DB.request, hnone, Option.none_or, hself]

theorem get_append {calls : List Call} {call' : Call} (h : (calls ++ [call])[c]? = some call') :
    calls[c]? = some call' ∨ (c = calls.length ∧ call' = call) := by
  rw [List.getElem?_append] at h
  by_cases hlt : c < calls.length
  · rw [if_pos hlt] at h
    exact .inl h
  · rw [if_neg hlt, List.getElem?_singleton] at h
    by_cases h0 : c - calls.length = 0
    · rw [if_pos h0] at h
      exact .inr ⟨by omega, (Option.some.inj h).symm⟩
    · rw [if_neg h0] at h
      cases h

theorem afterRestart_waits (call : Call) : call.afterRestart.state.waits = none := by
  unfold Call.afterRestart
  cases hst : call.state <;> first | rfl | (rw [hst]; rfl)

theorem pendingRows_step {a : Action} (hs : Consistent s) (hp : PendingRows s)
    (h : step cfg s a = some s') : PendingRows s' := by
  intro c' call' id' hc' hwaits'
  rcases step_ends hs hp h with ⟨c, call, id, st, hpart⟩ | ⟨input, requestId, rfl⟩ | rfl
  · rcases hpart.get hc' with ⟨rfl, rfl⟩ | ⟨hne, hold⟩
    · have hrow : ∀ {lost : Bool} {st : CallState}, PartEnds id s'.db lost st →
          st.waits = some id' → s'.db.PendingRow id' := by
        intro lost st hends hwaits
        cases hends with
        | waits hsame hrow =>
          rw [hsame] at hwaits
          exact Option.some.inj hwaits ▸ hrow
        | returns r => cases hwaits
        | failed e reason hrow => cases hwaits
        | left e hrow => cases hwaits
      exact hrow hpart.ends hwaits'
    · have hother : id' ≠ id := by
        intro heq
        subst heq
        exact hne (hs.owners c' c call' call id' hold hpart.before
          (owns_of_waits (hs.calls c' call' hold) hwaits')
          (owns_of_waits (hs.calls c call hpart.before) hpart.waits))
      obtain ⟨row, hrow, hstatus⟩ := hp c' call' id' hold hwaits'
      exact ⟨row, (hpart.turn.request id' hother).trans hrow, hstatus⟩
  · cases h
    rcases get_append hc' with hold | ⟨-, rfl⟩
    · obtain ⟨row, hrow, hstatus⟩ := hp c' call' id' hold hwaits'
      exact ⟨row, createRequest_request hrow, hstatus⟩
    · exact (createRequest_waits hwaits').2
  · cases h
    rw [List.getElem?_map] at hc'
    obtain ⟨call, -, rfl⟩ := Option.map_eq_some_iff.mp hc'
    rw [afterRestart_waits] at hwaits'
    cases hwaits'

theorem pendingRows_of_reaches (h : Reaches (step cfg) .start s) : PendingRows s := by
  have hinv := h.invariant (P := fun s => Consistent s ∧ PendingRows s)
    (fun s a s' hs hstep => ⟨consistent_step hs.1 hstep, pendingRows_step hs.1 hs.2 hstep⟩)
    ⟨consistent_start, fun c call id hc => by simp [Process.start] at hc⟩
  exact hinv.2

/-! ## 5. A row that is closed -/

/-- The request `id` under `key` is closed: its row has failed, no call waits for it, and every call
    of the key from number `n` on has returned the failure. -/
structure Closed (s : Process) (n : Nat) (id key reason : String) : Prop where
  row : s.db.FailedWith id reason
  stored : (id, key) ∈ s.db.rows
  free : ∀ (c : Nat) (call : Call), s.calls[c]? = some call → call.state.waits ≠ some id
  replayed : ∀ (c : Nat) (call : Call), n ≤ c → s.calls[c]? = some call →
    call.idempotencyKey = key →
    ∃ r, call.state = .returned r ∧ r.requestId = id ∧ r.status = .FAILED ∧ r.reasonCode = reason

theorem getRequest_failed {db : DB} {reason : String} (h : db.FailedWith id reason) :
    ∃ r, db.getRequest id = some r ∧ r.requestId = id ∧ r.status = .FAILED ∧
      r.reasonCode = reason := by
  obtain ⟨row, hrow, hstatus, hreason⟩ := h
  obtain ⟨r, hr⟩ := getRequest_of_request hrow
  refine ⟨r, hr, getRequest_id hr, ?_, ?_⟩
  · rw [DB.getRequest, hrow, Option.map_some, Option.some.injEq] at hr
    rw [← hr, hstatus]
  · rw [DB.getRequest, hrow, Option.map_some, Option.some.injEq] at hr
    rw [← hr, hreason]
    rfl

/-- **A new call of the key** replays the failure; a new call of another leaves it alone. -/
theorem closed_createRequest {n : Nat} {key reason : String} {input : CreateRequestInput}
    {requestId : String} (hs : Consistent s) (hclosed : Closed s n id key reason)
    (h : step cfg s (.createRequest input requestId) = some s') : Closed s' n id key reason := by
  obtain ⟨row, hrow, hstatus, hreason⟩ := hclosed.row
  have hkey : input.idempotencyKey = key → ∃ r,
      (createRequest cfg s.db input requestId).2 = .returned r ∧ r.requestId = id ∧
        r.status = .FAILED ∧ r.reasonCode = reason := by
    intro hin
    rcases createRequest_cases cfg s.db input requestId with
      ⟨existing, r, hfound, hr, heq⟩ | ⟨hnone, -⟩ | ⟨hnone, -⟩
    · rw [hin] at hfound
      have hid : existing.id = id := hs.id_unique (requestOfKey_some hfound) hclosed.stored
      obtain ⟨r', hr', hrest⟩ := getRequest_failed hclosed.row
      rw [hid, hr', Option.some.injEq] at hr
      exact ⟨r, by rw [heq], hr ▸ hrest⟩
    · exact absurd (List.mem_map_of_mem (f := Prod.snd) hclosed.stored) (hin ▸ requestOfKey_none hnone)
    · exact absurd (List.mem_map_of_mem (f := Prod.snd) hclosed.stored) (hin ▸ requestOfKey_none hnone)
  cases h
  refine ⟨⟨row, createRequest_request hrow, hstatus, hreason⟩, ?_, fun c call hc hwaits => ?_,
    fun c call hn hc hcall => ?_⟩
  · show (id, key) ∈ (createRequest cfg s.db input requestId).1.rows
    rcases createRequest_cases cfg s.db input requestId with
      ⟨existing, r, -, -, heq⟩ | ⟨-, e, heq⟩ | ⟨-, p, -, -, -, heq⟩
    · rw [heq]
      exact hclosed.stored
    · rw [heq]
      exact hclosed.stored
    · rw [heq]
      have hrows : (({ s.db with requests := s.db.requests ++ [p.row] } : DB).audit requestId
          .REQUEST_RECEIVED).rows = s.db.rows ++ [(p.row.id, p.row.idempotencyKey)] :=
        List.map_append
      rw [hrows]
      exact List.mem_append_left _ hclosed.stored
  · rcases get_append hc with hold | ⟨-, rfl⟩
    · exact hclosed.free c call hold hwaits
    · have hnone := (createRequest_waits hwaits).1
      rw [hrow] at hnone
      cases hnone
  · rcases get_append hc with hold | ⟨-, rfl⟩
    · exact hclosed.replayed c call hn hold hcall
    · exact hkey hcall

theorem closed_step {n : Nat} {key reason : String} {a : Action} (hs : Consistent s)
    (hp : PendingRows s) (hclosed : Closed s n id key reason) (h : step cfg s a = some s') :
    Closed s' n id key reason := by
  obtain ⟨row, hrow, hstatus, hreason⟩ := hclosed.row
  rcases step_ends hs hp h with ⟨c, call, id', st, hpart⟩ | ⟨input, requestId, rfl⟩ | rfl
  · have hother : id' ≠ id := by
      intro heq
      subst heq
      exact hclosed.free c call hpart.before hpart.waits
    refine ⟨⟨row, (hpart.turn.request id hother.symm).trans hrow, hstatus, hreason⟩, ?_,
      fun c' call' hc' hwaits => ?_, fun c' call' hn hc' hcall => ?_⟩
    · rw [hpart.turn.rows]
      exact hclosed.stored
    · rcases hpart.get hc' with ⟨rfl, rfl⟩ | ⟨-, hold⟩
      · rcases hpart.turn.request_eq with hnone | hsame
        · rw [request_of_waits hwaits] at hnone
          cases hnone
        · rw [request_of_waits hwaits] at hsame
          exact hother (Option.some.inj hsame).symm
      · exact hclosed.free c' call' hold hwaits
    · rcases hpart.get hc' with ⟨rfl, rfl⟩ | ⟨-, hold⟩
      · -- the call that went on waited, so it has not returned the failure
        obtain ⟨r, hr, -⟩ := hclosed.replayed c' call hn hpart.before hcall
        have hwaits := hpart.waits
        rw [hr] at hwaits
        cases hwaits
      · exact hclosed.replayed c' call' hn hold hcall
  · exact closed_createRequest hs hclosed h
  · cases h
    refine ⟨⟨row, hrow, hstatus, hreason⟩, hclosed.stored, fun c' call' hc' hwaits => ?_,
      fun c' call' hn hc' hcall => ?_⟩
    · rw [List.getElem?_map] at hc'
      obtain ⟨call, -, rfl⟩ := Option.map_eq_some_iff.mp hc'
      rw [afterRestart_waits] at hwaits
      cases hwaits
    · rw [List.getElem?_map] at hc'
      obtain ⟨call, hold, rfl⟩ := Option.map_eq_some_iff.mp hc'
      have hkey : call.idempotencyKey = key := by
        rcases afterRestart_cases call with hk | hk <;> rw [hk] at hcall <;> exact hcall
      obtain ⟨r, hr, hrest⟩ := hclosed.replayed c' call hn hold hkey
      have hkept : call.afterRestart = call := by simp only [Call.afterRestart, hr]
      exact ⟨r, by rw [hkept, hr], hrest⟩

theorem failedForGood_of_closed {key reason : String} (hs : Consistent s) (hp : PendingRows s)
    (hclosed : Closed s s.calls.length id key reason) : FailedForGood cfg s id key reason := by
  have hrun : ∀ s', Reaches (step cfg) s s' → Closed s' s.calls.length id key reason := by
    intro s' hreach
    have hinv := hreach.invariant
      (P := fun t => Consistent t ∧ PendingRows t ∧ Closed t s.calls.length id key reason)
      (fun t a t' ht hstep => ⟨consistent_step ht.1 hstep, pendingRows_step ht.1 ht.2.1 hstep,
        closed_step ht.1 ht.2.1 ht.2.2 hstep⟩) ⟨hs, hp, hclosed⟩
    exact hinv.2.2
  exact ⟨fun s' hreach => (hrun s' hreach).row, fun s' hreach => (hrun s' hreach).replayed⟩

theorem PartStep.closed {a : Action} {e : Failure} {reason : String} (hs : Consistent s)
    (hpart : PartStep cfg s s' a c call id (.threw e)) (hrow : s'.db.FailedWith id reason) :
    Closed s' s'.calls.length id call.idempotencyKey reason := by
  have hfit := hs.calls c call hpart.before
  refine ⟨hrow, ?_, fun c' call' hc' hwaits => ?_, fun c' call' hn hc' => ?_⟩
  · rw [hpart.turn.rows]
    exact hfit.row id (request_of_waits hpart.waits)
  · rcases hpart.get hc' with ⟨rfl, rfl⟩ | ⟨hne, hold⟩
    · cases hwaits
    · exact hne (hs.owners c' c call' call id hold hpart.before
        (owns_of_waits (hs.calls c' call' hold) hwaits) (owns_of_waits hfit hpart.waits))
  · exact absurd (List.getElem?_eq_some_iff.mp hc').1 (not_lt.mpr hn)

/-- **Every failure that is recorded.** After every run, a step leaves every call that throws in it
    with a request that has failed for good if and only if it is none of these: an identity that
    makes no request hash; a failing evaluator, an authorization id that is taken, or an ALLOW under
    a lifetime that is no integer; a failing signer, or a capability without a digest of its own. -/
theorem failure_recorded_iff {a : Action} (h : Reaches (step cfg) .start s)
    (hstep : step cfg s a = some s') :
    ThrowsRecorded cfg s s' ↔ a.leavesPending cfg s = false := by
  have hs := consistent_of_reaches h
  have hp := pendingRows_of_reaches h
  have hs' := consistent_step hs hstep
  have hp' := pendingRows_step hs hp hstep
  constructor
  · intro hrecorded
    cases hleaves : a.leavesPending cfg s with
    | false => rfl
    | true =>
      rcases step_ends hs hp hstep with ⟨c, call, id, st, hpart⟩ | ⟨input, requestId, rfl⟩ | rfl
      · have hends := hpart.ends
        rw [hleaves] at hends
        cases hends with
        | left e hrow =>
          -- the row is pending where it would have to have failed
          have hcall : s'.calls[c]? = some { call with state := .threw e } := by
            rw [hpart.calls]
            exact List.getElem?_set_self (List.getElem?_eq_some_iff.mp hpart.before).1
          obtain ⟨reason, hgood⟩ :=
            hrecorded c call _ id e hpart.before hpart.waits hcall rfl
          obtain ⟨row, hreq, hfailed, -⟩ := hgood.row s' (.refl s')
          obtain ⟨row', hreq', hpending⟩ := hrow
          rw [hreq, Option.some.injEq] at hreq'
          rw [← hreq', hfailed] at hpending
          cases hpending
      · cases hleaves
      · cases hleaves
  · intro hleaves c call call' id e hc hwaits hc' hthrew
    rcases step_ends hs hp hstep with ⟨c₁, call₁, id₁, st, hpart⟩ | ⟨input, requestId, rfl⟩ | rfl
    · rcases hpart.get hc' with ⟨rfl, rfl⟩ | ⟨hne, hold⟩
      · obtain rfl : call₁ = call := Option.some.inj (hpart.before.symm.trans hc)
        obtain rfl : id₁ = id := Option.some.inj (hpart.waits.symm.trans hwaits)
        have hst : st = .threw e := hthrew
        subst hst
        have hends := hpart.ends
        rw [hleaves] at hends
        cases hends with
        | waits hw hrow => cases hw
        | failed e reason hrow =>
          exact ⟨reason, failedForGood_of_closed hs' hp' (hpart.closed hs hrow)⟩
      · obtain rfl : call' = call := Option.some.inj (hold.symm.trans hc)
        rw [hthrew] at hwaits
        cases hwaits
    · cases hstep
      rcases get_append hc' with hold | ⟨hnew, -⟩
      · obtain rfl : call' = call := Option.some.inj (hold.symm.trans hc)
        rw [hthrew] at hwaits
        cases hwaits
      · have hlt := (List.getElem?_eq_some_iff.mp hc).1
        omega
    · cases hstep
      rw [List.getElem?_map, hc, Option.map_some, Option.some.injEq] at hc'
      rw [← hc'] at hthrew
      have hlost : call.afterRestart = { call with state := .lost } := by
        unfold Call.afterRestart
        cases hst : call.state <;> rw [hst] at hwaits <;> first | rfl | cases hwaits
      rw [hlost] at hthrew
      cases hthrew

end Steps

/-! ## 6. A failure that is recorded, and one that is not -/

/-- The failure of the identity provider is recorded. -/
theorem identity_failure_recorded : ∃ s s',
    Reaches (step treasuryConfig) .start s ∧
    step treasuryConfig s (.resolve 0 (.error (.operational "CTX_ENS_DOWN"))) = some s' ∧
    ThrowsRecorded treasuryConfig s s' := by
  obtain ⟨s, hs⟩ : ∃ s, execute (step treasuryConfig) .start
      [.createRequest transferInput "request-1"] = some s := ⟨_, rfl⟩
  obtain ⟨s', hs'⟩ : ∃ s', step treasuryConfig s
      (.resolve 0 (.error (.operational "CTX_ENS_DOWN"))) = some s' := by
    cases hs
    exact ⟨_, rfl⟩
  have hleaves : Action.leavesPending treasuryConfig s
      (.resolve 0 (.error (.operational "CTX_ENS_DOWN"))) = false := by
    cases hs
    rfl
  exact ⟨s, s', reaches_of_execute hs, hs',
    (failure_recorded_iff (reaches_of_execute hs) hs').mpr hleaves⟩

/-- **The evaluator's failure is not recorded**: the call throws, its row stays pending, and the
    next call of the key returns a pending request. -/
theorem evaluator_failure_pending : ∃ s e r,
    execute (step treasuryConfig) .start
      [.createRequest transferInput "request-1", .resolve 0 (.ok transferIdentity),
       .evaluate 0 (.error .other) 1000000 1000000, .createRequest transferInput "request-2"]
      = some s ∧
    s.calls.map (·.state) = [.threw e, .returned r] ∧ r.requestId = "request-1" ∧
    r.status = .PENDING ∧ s.db.requests.map (·.status) = [.PENDING] :=
  ⟨_, _, _, rfl, rfl, rfl, rfl, rfl⟩

end ContextLock.Broker
