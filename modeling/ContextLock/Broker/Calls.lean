/-
  Subject:   Any number of calls of `createRequest`, interleaved at their awaits.

  The process runs one part of one call at a time; which call goes on next, and what the
  identity provider, the evaluator or the signer answered it, is the action. A restart loses
  the calls that wait and the nonce counter, and keeps the tables.
-/
import ContextLock.Broker.CreateRequest
import ContextLock.Machine.Transition

namespace ContextLock.Broker

open Evm Js Machine

/-! ## 1. The process -/

structure Call where
  idempotencyKey : String
  replay : Bool
  state : CallState

/-- The broker's process: its tables, its nonce counter, every call made so far, and what the
    evaluator and the signer were asked. -/
structure Process where
  db : DB
  nonceCounter : Nat
  calls : List Call
  evaluations : List EvaluationInput
  signatures : List (String × Capability)

def Process.start : Process := ⟨.empty, 0, [], [], []⟩

inductive Action where
  | createRequest (input : CreateRequestInput) (requestId : String)
  | resolve (c : Nat) (result : Except Failure AgentIdentity)
  | evaluate (c : Nat) (result : Except Failure EvaluationResult) (issuedMs nonceMs : Nat)
  | sign (c : Nat) (result : Except Failure String)
  | restart

/-- What the evaluator is asked by a call that gets to `state`. -/
def CallState.asksEvaluator : CallState → List EvaluationInput
  | .evaluating _ _ input => [input]
  | _ => []

/-- What the signer is asked by a call that gets to `state`. -/
def CallState.asksSigner : CallState → List (String × Capability)
  | .signing p _ _ cap => [(p.requestId, cap)]
  | _ => []

/-- Call `c` goes on to `state`, leaving the tables `db`. -/
def Process.advance (s : Process) (c : Nat) (call : Call) (db : DB) (state : CallState) :
    Process where
  db := db
  nonceCounter := s.nonceCounter
  calls := s.calls.set c { call with state := state }
  evaluations := s.evaluations ++ state.asksEvaluator
  signatures := s.signatures ++ state.asksSigner

/-- A call that waits when the process ends is lost. -/
def Call.afterRestart (call : Call) : Call :=
  match call.state with
  | .resolving .. | .evaluating .. | .signing .. => { call with state := .lost }
  | _ => call

/-- One part of one call, or a restart. -/
def step (cfg : BrokerConfig) (s : Process) : Action → Option Process
  | .createRequest input requestId =>
    let replay := (s.db.requestOfKey input.idempotencyKey).isSome
    let (db, state) := createRequest cfg s.db input requestId
    some { s with db := db, calls := s.calls ++ [⟨input.idempotencyKey, replay, state⟩] }
  | .resolve c result =>
    match s.calls[c]? with
    | some call =>
      match call.state with
      | .resolving p =>
        let (db, state) := identityResolved cfg s.db p result
        some (s.advance c call db state)
      | _ => none
    | none => none
  | .evaluate c result issuedMs nonceMs =>
    match s.calls[c]? with
    | some call =>
      match call.state with
      | .evaluating p identity _ =>
        let (db, nonceCounter, state) :=
          evaluated cfg s.nonceCounter s.db p identity result issuedMs nonceMs
        some { s.advance c call db state with nonceCounter := nonceCounter }
      | _ => none
    | none => none
  | .sign c result =>
    match s.calls[c]? with
    | some call =>
      match call.state with
      | .signing p identity evaluation cap =>
        let (db, state) := signed s.db p identity evaluation cap result
        some (s.advance c call db state)
      | _ => none
    | none => none
  | .restart => some { s with nonceCounter := 0, calls := s.calls.map Call.afterRestart }

/-! ## 2. What a call answers for -/

/-- What may be logged at most once for a request. -/
inductive Stage where
  | evaluation
  | authorization
  | signature
  | capability
  deriving DecidableEq

/-- The requests each stage was reached for. -/
def Process.log (s : Process) : Stage → List String
  | .evaluation => s.evaluations.map (·.requestId)
  | .authorization => s.db.authorizations.map (·.requestId)
  | .signature => s.signatures.map (·.1)
  | .capability => s.db.capabilities.map (·.requestId)

def CallState.ahead : CallState → Stage → Bool
  | .resolving _, _ => true
  | .evaluating .., k => k ≠ .evaluation
  | .signing .., k => k = .capability
  | _, _ => false

def CallState.request : CallState → Option String
  | .resolving p => some p.requestId
  | .evaluating p _ _ => some p.requestId
  | .signing p _ _ _ => some p.requestId
  | .returned r => some r.requestId
  | _ => none

/-- The request a call inserted and still answers for. -/
def Call.owns (call : Call) : Option String := if call.replay then none else call.state.request

/-- `r'` is what the tables give back of the outcome `r`: the same request, status, reason,
    authorization and sources, and neither capability nor signature nor calldata. The end of
    the approval's window has gone through a number, which is exact up to `2 ^ 53`. -/
structure Replays (r r' : RequestRecord) : Prop where
  requestId : r'.requestId = r.requestId
  status : r'.status = r.status
  reasonCode : r'.reasonCode = r.reasonCode
  authorizationId : r'.authorizationId = r.authorizationId
  approvedUntil : (∃ n : Int, 2 ^ 53 < n.natAbs ∧ r.approvedUntil = some (toString n)) ∨
    r'.approvedUntil = r.approvedUntil
  identitySource : r'.identitySource = r.identitySource
  evaluationSource : r'.evaluationSource = r.evaluationSource
  capability : r'.capability = none
  signature : r'.signature = none
  calldata : r'.calldata = none
  actionKindHash : r'.actionKindHash = none
  capabilityDigest : r'.capabilityDigest = none

theorem replays_getRequest {db : DB} {id : String} {r : RequestRecord}
    (h : db.getRequest id = some r) : Replays r r := by
  obtain ⟨row, _, rfl⟩ := Option.map_eq_some_iff.mp h
  exact ⟨rfl, rfl, rfl, rfl, .inr rfl, rfl, rfl, rfl, rfl, rfl, rfl, rfl⟩

theorem getRequest_id {db : DB} {id : String} {r : RequestRecord}
    (h : db.getRequest id = some r) : r.requestId = id := by
  obtain ⟨row, hrow, rfl⟩ := Option.map_eq_some_iff.mp h
  exact request_id hrow

theorem getRequest_of_request {db : DB} {id : String} {row : RequestRow}
    (h : db.request id = some row) : ∃ r, db.getRequest id = some r := by
  rw [DB.getRequest, h]
  exact ⟨_, rfl⟩

/-- The tables agree with what a call knows. -/
def CallState.Agrees (db : DB) : CallState → Prop
  | .evaluating p identity input => input.requestId = p.requestId ∧
    ∃ row, db.request p.requestId = some row ∧ row.identitySource = some identity.source
  | .signing p identity evaluation _ =>
    (∃ row, db.request p.requestId = some row ∧ row.identitySource = some identity.source) ∧
      db.authorizationOf p.requestId = some (evaluation.row p.requestId)
  | .returned r => ∃ r', db.getRequest r.requestId = some r' ∧ Replays r r'
  | _ => True

/-- A call is where the tables and the logs say it is. -/
structure Call.Fits (s : Process) (call : Call) : Prop where
  row : ∀ id, call.state.request = some id → (id, call.idempotencyKey) ∈ s.db.rows
  ahead : ∀ id k, call.state.request = some id → call.state.ahead k = true → id ∉ s.log k
  replayed : call.replay = true → ∃ r, call.state = .returned r
  agrees : call.replay = false → call.state.Agrees s.db

/-- The process is CONSISTENT. -/
structure Consistent (s : Process) : Prop where
  ids : (s.db.rows.map (·.1)).Nodup
  keys : (s.db.rows.map (·.2)).Nodup
  once : ∀ k, (s.log k).Nodup
  known : ∀ k, ∀ id ∈ s.log k, id ∈ s.db.rows.map (·.1)
  calls : ∀ (c : Nat) (call : Call), s.calls[c]? = some call → call.Fits s
  owners : ∀ (c c' : Nat) (call call' : Call) (id : String), s.calls[c]? = some call →
    s.calls[c']? = some call' → call.owns = some id → call'.owns = some id → c = c'

theorem consistent_start : Consistent .start where
  ids := .nil
  keys := .nil
  once k := by cases k <;> exact .nil
  known k id h := by cases k <;> cases h
  calls c call h := by simp [Process.start] at h
  owners c c' call call' id h := by simp [Process.start] at h

/-! ## 3. One part of one call -/

/-- What one part of a call does, from `st` to `st'`, for its request `id`: the rows keep
    their ids and keys, no other request is touched, and a stage is logged only on leaving it
    behind. -/
structure Turn (id : String) (st st' : CallState) (s s' : Process) : Prop where
  rows : s'.db.rows = s.db.rows
  request : ∀ i, i ≠ id → s'.db.request i = s.db.request i
  authorizationOf : ∀ i, i ≠ id → s'.db.authorizationOf i = s.db.authorizationOf i
  log : ∀ k, s'.log k = s.log k ∨
    (st.ahead k = true ∧ st'.ahead k = false ∧ s'.log k = s.log k ++ [id])
  ahead : ∀ k, st'.ahead k = true → st.ahead k = true
  request_eq : st'.request = none ∨ st'.request = some id
  agrees : st'.Agrees s'.db

def adds (st' : CallState) (auths caps : List String) : Stage → List String
  | .evaluation => st'.asksEvaluator.map (·.requestId)
  | .authorization => auths
  | .signature => st'.asksSigner.map (·.1)
  | .capability => caps

section Parts

variable {cfg : BrokerConfig} {s : Process} {c : Nat} {call : Call} {p : Prepared}
  {identity : AgentIdentity} {db : DB} {st' : CallState}

theorem turn_of_touches {id : String} {st : CallState} {auths caps : List String}
    (h : DB.Touches id s.db db auths caps)
    (hadds : ∀ k, adds st' auths caps k = [] ∨
      (st.ahead k = true ∧ st'.ahead k = false ∧ adds st' auths caps k = [id]))
    (hahead : ∀ k, st'.ahead k = true → st.ahead k = true)
    (heq : st'.request = none ∨ st'.request = some id) (hagrees : st'.Agrees db) :
    Turn id st st' s (s.advance c call db st') where
  rows := h.rows
  request := h.request
  authorizationOf := h.authorizationOf
  log k := by
    have hlog : (s.advance c call db st').log k = s.log k ++ adds st' auths caps k := by
      cases k with
      | evaluation => exact List.map_append
      | authorization => exact h.authorizations
      | signature => exact List.map_append
      | capability => exact h.capabilities
    rw [hlog]
    refine (hadds k).imp (fun hk => ?_) (fun hk => ⟨hk.1, hk.2.1, ?_⟩)
    · rw [hk, List.append_nil]
    · rw [hk.2.2]
  ahead := hahead
  request_eq := heq
  agrees := hagrees

theorem turn_threw {id : String} {st : CallState} {e : Failure}
    (h : DB.Touches id s.db db [] []) : Turn id st (.threw e) s (s.advance c call db (.threw e)) :=
  turn_of_touches h (fun k => .inl (by cases k <;> rfl)) (fun k hk => by cases hk) (.inl rfl)
    trivial

theorem turn_threw_observed {id : String} {st : CallState} {e : Failure}
    (h : DB.Touches id s.db db [id] []) (hahead : st.ahead .authorization = true) :
    Turn id st (.threw e) s (s.advance c call db (.threw e)) := by
  refine turn_of_touches h (fun k => ?_) (fun k hk => by cases hk) (.inl rfl) trivial
  cases k with
  | evaluation => exact .inl rfl
  | authorization => exact .inr ⟨hahead, rfl, rfl⟩
  | signature => exact .inl rfl
  | capability => exact .inl rfl

theorem turn_identityResolved {result : Except Failure AgentIdentity}
    (hfit : call.Fits s) (hst : call.state = .resolving p)
    (h : identityResolved cfg s.db p result = (db, st')) :
    Turn p.requestId call.state st' s (s.advance c call db st') := by
  obtain ⟨row, hreq⟩ := request_of_mem_rows (hfit.row p.requestId (by rw [hst]; rfl))
  rw [hst]
  cases result with
  | error e =>
    cases h
    exact turn_threw (((DB.Touches.refl _ _).audit _ _).setStatus _ _)
  | ok identity =>
    have htouch := (((DB.Touches.refl p.requestId s.db).audit p.requestId
      .ENS_IDENTITY_VALIDATED).update (fun r => ⟨rfl, rfl⟩ : ∀ r : RequestRow,
        (RequestRow.identified identity r).id = r.id ∧
          (RequestRow.identified identity r).idempotencyKey = r.idempotencyKey)).audit
      p.requestId .EVALUATION_REQUESTED
    simp only [identityResolved] at h
    cases hhash : requestHash (unissued cfg p identity) with
    | none =>
      rw [hhash] at h
      cases h
      exact turn_threw htouch
    | some hash =>
      rw [hhash] at h
      cases h
      refine turn_of_touches htouch (fun k => ?_) (fun k _ => rfl) (.inr rfl) ⟨rfl, ?_⟩
      · cases k with
        | evaluation => exact .inr ⟨rfl, rfl, rfl⟩
        | authorization => exact .inl rfl
        | signature => exact .inl rfl
        | capability => exact .inl rfl
      · have hset : ∀ r, (RequestRow.identified identity r).id = r.id := fun _ => rfl
        refine ⟨RequestRow.identified identity row, ?_, rfl⟩
        rw [audit_request, request_updateRequest_self hset ((audit_request _ _ _).trans hreq)]

/-- A request that is set to a final status without a capability is returned as the tables
    have it. -/
theorem turn_concluded {id : String} {st : CallState} {db : DB} {row : RequestRow}
    (htouch : DB.Touches id s.db db [id] []) (hreq : db.request id = some row)
    (hahead : st.ahead .authorization = true) (type : AuditType) (status : RequestStatus)
    (reasonCode : String) :
    Turn id st (((db.audit id type).setStatus id status reasonCode).replay id) s
      (s.advance c call ((db.audit id type).setStatus id status reasonCode)
        (((db.audit id type).setStatus id status reasonCode).replay id)) := by
  have hset : ((db.audit id type).setStatus id status reasonCode).request id = _ :=
    request_setStatus hreq
  obtain ⟨r, hr⟩ := getRequest_of_request hset
  have hid : r.requestId = id := getRequest_id hr
  have hreplay : ((db.audit id type).setStatus id status reasonCode).replay id = .returned r := by
    rw [DB.replay, hr, Option.elim_some]
  rw [hreplay]
  refine turn_of_touches ((htouch.audit _ _).setStatus _ _) (fun k => ?_) (fun k hk => by cases hk)
    (.inr (congrArg some hid)) ⟨r, hid.symm ▸ hr, replays_getRequest hr⟩
  cases k with
  | evaluation => exact .inl rfl
  | authorization => exact .inr ⟨hahead, rfl, rfl⟩
  | signature => exact .inl rfl
  | capability => exact .inl rfl

theorem turn_evaluated {input : EvaluationInput} {n n' : Nat} {issuedMs nonceMs : Nat}
    {result : Except Failure EvaluationResult}
    (hfit : call.Fits s) (hreplay : call.replay = false)
    (hst : call.state = .evaluating p identity input)
    (h : evaluated cfg n s.db p identity result issuedMs nonceMs = (db, n', st')) :
    Turn p.requestId call.state st' s (s.advance c call db st') := by
  have hagrees := hfit.agrees hreplay
  have hauth : p.requestId ∉ s.log .authorization :=
    hfit.ahead _ _ (by rw [hst]; rfl) (by rw [hst]; rfl)
  rw [hst] at hagrees ⊢
  obtain ⟨_, row, hreq, hsource⟩ := hagrees
  cases result with
  | error e =>
    cases h
    exact turn_threw (DB.Touches.refl _ _)
  | ok evaluation =>
    simp only [evaluated] at h
    cases hi : s.db.insertAuthorization (evaluation.row p.requestId) with
    | none =>
      rw [hi] at h
      cases h
      exact turn_threw (DB.Touches.refl _ _)
    | some db₁ =>
      rw [hi] at h
      have htouch := ((DB.Touches.refl p.requestId s.db).insertAuthorization rfl hi).audit
        p.requestId .AUTHORIZATION_OBSERVED
      obtain ⟨_, rfl⟩ := insertAuthorization_eq_some.mp hi
      cases hv : evaluation.verdict with
      | deny | escalate =>
        simp only [hv] at h
        cases h
        exact turn_concluded htouch hreq rfl _ _ _
      | allow =>
        simp only [hv] at h
        cases httl : cfg.capabilityTtlSeconds with
        | nan | inf negative =>
          simp only [httl] at h
          cases h
          exact turn_threw_observed htouch rfl
        | int ttl =>
          simp only [httl] at h
          cases h
          refine turn_of_touches htouch (fun k => ?_) (fun k hk => ?_) (.inr rfl)
            ⟨⟨row, hreq, hsource⟩, ?_⟩
          · cases k with
            | evaluation => exact .inl rfl
            | authorization | signature => exact .inr ⟨rfl, rfl, rfl⟩
            | capability => exact .inl rfl
          · cases k <;> first | rfl | cases hk
          · rw [audit_authorizationOf, authorizationOf_append, authorizationOf_none hauth]
            exact if_pos rfl

theorem replays_allowed {p : Prepared} {evaluation : EvaluationResult} {cap : Capability}
    {signature : String} {digest : Bytes32} {row : RequestRow}
    (hreq : db.request p.requestId = some row) (hstatus : row.status = .ALLOWED)
    (hreason : row.reasonCode = some evaluation.reasonCode)
    (hsource : row.identitySource = some identity.source)
    (hauth : db.authorizationOf p.requestId = some (evaluation.row p.requestId)) :
    (CallState.returned (allowedRecord p identity evaluation cap signature digest)).Agrees db := by
  have hid : row.id = p.requestId := request_id hreq
  obtain ⟨r', hr'⟩ := getRequest_of_request hreq
  refine ⟨r', hr', ?_⟩
  rw [DB.getRequest, hreq, Option.map_some, Option.some.injEq] at hr'
  subst hr'
  simp only [hauth, hid, hstatus, hreason, hsource, Option.map_some, Option.getD_some]
  refine ⟨rfl, rfl, rfl, rfl, ?_, rfl, rfl, rfl, rfl, rfl, rfl, rfl⟩
  by_cases h : evaluation.approvedUntil.natAbs ≤ 2 ^ 53
  · exact .inr (congrArg some (Js.Num.text_ofBigInt h))
  · exact .inl ⟨_, not_le.mp h, rfl⟩

theorem turn_signed {evaluation : EvaluationResult} {cap : Capability}
    {result : Except Failure String} (hfit : call.Fits s) (hreplay : call.replay = false)
    (hst : call.state = .signing p identity evaluation cap)
    (h : signed s.db p identity evaluation cap result = (db, st')) :
    Turn p.requestId call.state st' s (s.advance c call db st') := by
  have hagrees := hfit.agrees hreplay
  rw [hst] at hagrees ⊢
  obtain ⟨⟨row, hreq, hsource⟩, hauth⟩ := hagrees
  cases result with
  | error e =>
    cases h
    exact turn_threw (DB.Touches.refl _ _)
  | ok signature =>
    simp only [signed] at h
    cases hdigest : capabilityDigest cap with
    | none =>
      rw [hdigest] at h
      cases h
      exact turn_threw (DB.Touches.refl _ _)
    | some digest =>
      simp only [hdigest] at h
      cases hi : s.db.insertCapability (cap.row p.requestId digest) with
      | none =>
        rw [hi] at h
        cases h
        exact turn_threw (DB.Touches.refl _ _)
      | some db₁ =>
        rw [hi] at h
        cases h
        have htouch := (((DB.Touches.refl p.requestId s.db).insertCapability rfl hi).audit
          p.requestId .CAPABILITY_MINTED).setStatus .ALLOWED evaluation.reasonCode
        obtain ⟨_, rfl⟩ := insertCapability_eq_some.mp hi
        refine turn_of_touches htouch (fun k => ?_) (fun k hk => by cases hk) (.inr rfl) ?_
        · cases k with
          | evaluation => exact .inl rfl
          | authorization => exact .inl rfl
          | signature => exact .inl rfl
          | capability => exact .inr ⟨rfl, rfl, rfl⟩
        · exact replays_allowed (request_setStatus hreq) rfl rfl hsource hauth

end Parts

/-! ## 4. Consistency is kept -/

section Kept

variable {cfg : BrokerConfig} {s s' : Process} {c : Nat} {call : Call}

theorem nodup_concat {l : List String} {a : String} (h : l.Nodup) (ha : a ∉ l) :
    (l ++ [a]).Nodup := by
  refine List.nodup_append.mpr ⟨h, List.nodup_cons.mpr ⟨List.not_mem_nil, .nil⟩, ?_⟩
  intro b hb c hc hbc
  rw [List.mem_singleton.mp hc] at hbc
  exact ha (hbc ▸ hb)

theorem Call.owns_eq_some {id : String} :
    call.owns = some id ↔ call.replay = false ∧ call.state.request = some id := by
  unfold Call.owns
  cases call.replay <;> simp

/-- A call fits a state whose rows have grown, if its own request was not touched. -/
theorem Call.Fits.frame (h : call.Fits s) (hrows : ∀ r ∈ s.db.rows, r ∈ s'.db.rows)
    (hlog : ∀ id k, call.owns = some id → id ∈ s'.log k → id ∈ s.log k)
    (hrequest : ∀ id, call.owns = some id → s'.db.request id = s.db.request id)
    (hauth : ∀ id, call.owns = some id → s'.db.authorizationOf id = s.db.authorizationOf id) :
    call.Fits s' where
  row id hid := hrows _ (h.row id hid)
  ahead id k hid hk hmem := by
    cases hr : call.replay with
    | true =>
      obtain ⟨r, hst⟩ := h.replayed hr
      rw [hst] at hk
      cases hk
    | false =>
      exact h.ahead id k hid hk (hlog id k (Call.owns_eq_some.mpr ⟨hr, hid⟩) hmem)
  replayed := h.replayed
  agrees hr := by
    have hag := h.agrees hr
    have howns : ∀ id, call.state.request = some id → call.owns = some id :=
      fun id hid => Call.owns_eq_some.mpr ⟨hr, hid⟩
    cases hst : call.state with
    | resolving p => trivial
    | evaluating p identity input =>
      rw [hst] at hag
      obtain ⟨hin, row, hreq, hsource⟩ := hag
      exact ⟨hin, row, (hrequest _ (howns _ (by rw [hst]; rfl))).trans hreq, hsource⟩
    | signing p identity evaluation cap =>
      rw [hst] at hag
      obtain ⟨⟨row, hreq, hsource⟩, ha⟩ := hag
      have hown := howns p.requestId (by rw [hst]; rfl)
      exact ⟨⟨row, (hrequest _ hown).trans hreq, hsource⟩, (hauth _ hown).trans ha⟩
    | returned r =>
      rw [hst] at hag
      obtain ⟨r', hr', hrep⟩ := hag
      have hown := howns r.requestId (by rw [hst]; rfl)
      refine ⟨r', ?_, hrep⟩
      rw [DB.getRequest, hrequest _ hown, hauth _ hown]
      exact hr'
    | threw e => trivial
    | lost => trivial

theorem Call.fits_of_silent (hreq : call.state.request = none) (hreplay : call.replay = false)
    (hagrees : call.state.Agrees s.db) : call.Fits s where
  row id h := by
    rw [hreq] at h
    cases h
  ahead id k h := by
    rw [hreq] at h
    cases h
  replayed h := by
    rw [hreplay] at h
    cases h
  agrees _ := hagrees

theorem consistent_of_turn {id : String} {st' : CallState} (hs : Consistent s)
    (hc : s.calls[c]? = some call) (hid : call.state.request = some id)
    (hreplay : call.replay = false) (ht : Turn id call.state st' s s')
    (hcalls : s'.calls = s.calls.set c { call with state := st' }) : Consistent s' := by
  have hown : call.owns = some id := Call.owns_eq_some.mpr ⟨hreplay, hid⟩
  have hfit := hs.calls c call hc
  -- the other calls answer for other requests
  have hother : ∀ c' call' i, s.calls[c']? = some call' → c' ≠ c → call'.owns = some i → i ≠ id :=
    fun c' call' i hc' hne hi he => hne (hs.owners c' c call' call id hc' hc (he ▸ hi) hown)
  have hget : ∀ c' call', s'.calls[c']? = some call' →
      (c' = c ∧ call' = { call with state := st' }) ∨ (c' ≠ c ∧ s.calls[c']? = some call') := by
    intro c' call' hc'
    rw [hcalls, List.getElem?_set] at hc'
    by_cases he : c = c'
    · subst he
      obtain ⟨hlt, _⟩ := List.getElem?_eq_some_iff.mp hc
      rw [if_pos rfl, if_pos hlt] at hc'
      exact .inl ⟨rfl, (Option.some.inj hc').symm⟩
    · rw [if_neg he] at hc'
      exact .inr ⟨fun h => he h.symm, hc'⟩
  have hlogmem : ∀ k i, i ∈ s'.log k → i ∈ s.log k ∨ i = id := by
    intro k i hi
    rcases ht.log k with hk | ⟨_, _, hk⟩
    · exact .inl (hk ▸ hi)
    · rw [hk, List.mem_append, List.mem_singleton] at hi
      exact hi
  refine ⟨?_, ?_, fun k => ?_, fun k i hi => ?_, fun c' call' hc' => ?_, ?_⟩
  · rw [ht.rows]
    exact hs.ids
  · rw [ht.rows]
    exact hs.keys
  · rcases ht.log k with hk | ⟨hahead, _, hk⟩
    · rw [hk]
      exact hs.once k
    · rw [hk]
      exact nodup_concat (hs.once k) (hfit.ahead id k hid hahead)
  · rw [ht.rows]
    rcases hlogmem k i hi with h | rfl
    · exact hs.known k i h
    · exact List.mem_map_of_mem (f := Prod.fst) (hfit.row i hid)
  · rcases hget c' call' hc' with ⟨rfl, rfl⟩ | ⟨hne, hold⟩
    · refine ⟨fun i hi => ?_, fun i k hi hk hmem => ?_, fun h => ?_, fun _ => ht.agrees⟩
      · rcases ht.request_eq with h | h
        · rw [h] at hi
          cases hi
        · rw [h] at hi
          cases hi
          rw [ht.rows]
          exact hfit.row id hid
      · rcases ht.request_eq with h | h
        · rw [h] at hi
          cases hi
        · rw [h] at hi
          cases hi
          rcases ht.log k with hlog | ⟨_, hnot, _⟩
          · exact hfit.ahead id k hid (ht.ahead k hk) (hlog ▸ hmem)
          · rw [hnot] at hk
            cases hk
      · rw [hreplay] at h
        cases h
    · refine (hs.calls c' call' hold).frame (fun r hr => by rw [ht.rows]; exact hr)
        (fun i k hi hmem => ?_) (fun i hi => ht.request i (hother c' call' i hold hne hi))
        (fun i hi => ht.authorizationOf i (hother c' call' i hold hne hi))
      exact (hlogmem k i hmem).resolve_right (hother c' call' i hold hne hi)
  · have howner : ∀ (c' : Nat) (call' : Call) (i : String), s'.calls[c']? = some call' →
        call'.owns = some i → ∃ call₀ : Call, s.calls[c']? = some call₀ ∧ call₀.owns = some i := by
      intro c' call' i hc' hi
      rcases hget c' call' hc' with ⟨rfl, rfl⟩ | ⟨_, hold⟩
      · obtain ⟨_, hreq⟩ := Call.owns_eq_some.mp hi
        rcases ht.request_eq with h | h
        · rw [h] at hreq
          cases hreq
        · rw [h] at hreq
          cases hreq
          exact ⟨call, hc, hown⟩
      · exact ⟨call', hold, hi⟩
    intro c₁ c₂ call₁ call₂ i h₁ h₂ ho₁ ho₂
    obtain ⟨b₁, hb₁, hbo₁⟩ := howner c₁ call₁ i h₁ ho₁
    obtain ⟨b₂, hb₂, hbo₂⟩ := howner c₂ call₂ i h₂ ho₂
    exact hs.owners c₁ c₂ b₁ b₂ i hb₁ hb₂ hbo₁ hbo₂

/-- **The first part of a call**: it replays the row of its key, or throws with nothing
    written, or inserts the first row of its key under a new id. -/
theorem createRequest_cases (cfg : BrokerConfig) (db : DB) (input : CreateRequestInput)
    (requestId : String) :
    (∃ existing r, db.requestOfKey input.idempotencyKey = some existing ∧
      db.getRequest existing.id = some r ∧ createRequest cfg db input requestId
        = (db.audit existing.id .IDEMPOTENT_REPLAY, .returned r)) ∨
    (db.requestOfKey input.idempotencyKey = none ∧
      ∃ e, createRequest cfg db input requestId = (db, .threw e)) ∨
    (db.requestOfKey input.idempotencyKey = none ∧
      ∃ p, p.requestId = requestId ∧ p.input = input ∧ requestId ∉ db.rows.map (·.1) ∧
        createRequest cfg db input requestId
          = (({ db with requests := db.requests ++ [p.row] } : DB).audit requestId
            .REQUEST_RECEIVED, .resolving p)) := by
  unfold createRequest
  cases hk : db.requestOfKey input.idempotencyKey with
  | some existing =>
    obtain ⟨row, hrow⟩ := request_of_mem_rows (requestOfKey_some hk)
    obtain ⟨r, hr⟩ := getRequest_of_request hrow
    refine .inl ⟨existing, r, rfl, hr, ?_⟩
    have hreplay : (db.audit existing.id .IDEMPOTENT_REPLAY).replay existing.id = .returned r := by
      show (db.getRequest existing.id).elim _ _ = _
      rw [hr, Option.elim_some]
    simp only [hreplay]
  | none =>
    refine .inr ?_
    cases hp : prepare cfg input requestId with
    | error e => exact .inl ⟨rfl, e, rfl⟩
    | ok p =>
      obtain ⟨hid, hin⟩ := prepare_ok hp
      cases hi : db.insertRequest p.row with
      | none => exact .inl ⟨rfl, .other, by simp only [hi]⟩
      | some db₁ =>
        obtain ⟨hnew, rfl⟩ := insertRequest_eq_some.mp hi
        refine .inr ⟨rfl, p, hid, hin, fun hmem => ?_, by simp only [hi]⟩
        obtain ⟨pair, hpair, hpid⟩ := List.mem_map.mp hmem
        obtain ⟨row, hrow, rfl⟩ := List.mem_map.mp hpair
        exact (hnew row hrow).1 (hpid.trans hid.symm)

/-- A new call keeps the process consistent if it fits, and answers for a new request. -/
theorem consistent_of_add (hs : Consistent s) (hcalls : s'.calls = s.calls ++ [call])
    (hids : (s'.db.rows.map (·.1)).Nodup) (hkeys : (s'.db.rows.map (·.2)).Nodup)
    (hrows : ∀ r ∈ s.db.rows, r ∈ s'.db.rows) (hlog : ∀ k, s'.log k = s.log k)
    (hrequest : ∀ id ∈ s.db.rows.map (·.1), s'.db.request id = s.db.request id)
    (hauth : ∀ id, s'.db.authorizationOf id = s.db.authorizationOf id)
    (hfit : call.Fits s') (hown : ∀ id, call.owns = some id → id ∉ s.db.rows.map (·.1)) :
    Consistent s' := by
  have howned : ∀ (c' : Nat) (call' : Call) (id : String), s.calls[c']? = some call' →
      call'.owns = some id → id ∈ s.db.rows.map (·.1) := fun c' call' id hc' hi =>
    List.mem_map_of_mem (f := Prod.fst)
      ((hs.calls c' call' hc').row id (Call.owns_eq_some.mp hi).2)
  have hget : ∀ (c' : Nat) (call' : Call), s'.calls[c']? = some call' →
      s.calls[c']? = some call' ∨ (c' = s.calls.length ∧ call' = call) := by
    intro c' call' hc'
    rw [hcalls, List.getElem?_append] at hc'
    by_cases hlt : c' < s.calls.length
    · rw [if_pos hlt] at hc'
      exact .inl hc'
    · rw [if_neg hlt, List.getElem?_singleton] at hc'
      by_cases h0 : c' - s.calls.length = 0
      · rw [if_pos h0] at hc'
        exact .inr ⟨by omega, (Option.some.inj hc').symm⟩
      · rw [if_neg h0] at hc'
        cases hc'
  refine ⟨hids, hkeys, fun k => by rw [hlog k]; exact hs.once k, fun k id hid => ?_,
    fun c' call' hc' => ?_, ?_⟩
  · rw [hlog k] at hid
    obtain ⟨r, hr, rfl⟩ := List.mem_map.mp (hs.known k id hid)
    exact List.mem_map_of_mem (hrows r hr)
  · rcases hget c' call' hc' with hold | ⟨_, rfl⟩
    · exact (hs.calls c' call' hold).frame hrows (fun id k _ hmem => hlog k ▸ hmem)
        (fun id hi => hrequest id (howned c' call' id hold hi)) (fun id _ => hauth id)
    · exact hfit
  · intro c₁ c₂ call₁ call₂ id h₁ h₂ ho₁ ho₂
    rcases hget c₁ call₁ h₁ with hold₁ | ⟨hc₁, rfl⟩
    · rcases hget c₂ call₂ h₂ with hold₂ | ⟨hc₂, rfl⟩
      · exact hs.owners c₁ c₂ call₁ call₂ id hold₁ hold₂ ho₁ ho₂
      · exact absurd (howned c₁ call₁ id hold₁ ho₁) (hown id ho₂)
    · rcases hget c₂ call₂ h₂ with hold₂ | ⟨hc₂, rfl⟩
      · exact absurd (howned c₂ call₂ id hold₂ ho₂) (hown id ho₁)
      · rw [hc₁, hc₂]

theorem afterRestart_cases (call : Call) :
    call.afterRestart = call ∨ call.afterRestart = { call with state := .lost } := by
  unfold Call.afterRestart
  cases call.state <;> simp

theorem consistent_restart (hs : Consistent s) :
    Consistent { s with nonceCounter := 0, calls := s.calls.map Call.afterRestart } := by
  have hget : ∀ (c : Nat) (call' : Call), (s.calls.map Call.afterRestart)[c]? = some call' →
      ∃ call, s.calls[c]? = some call ∧ call' = call.afterRestart := by
    intro c call' hc
    rw [List.getElem?_map] at hc
    obtain ⟨call, hcall, rfl⟩ := Option.map_eq_some_iff.mp hc
    exact ⟨call, hcall, rfl⟩
  have hlog : ∀ k, ({ s with nonceCounter := 0, calls := s.calls.map Call.afterRestart } :
      Process).log k = s.log k := fun k => by cases k <;> rfl
  refine ⟨hs.ids, hs.keys, fun k => hlog k ▸ hs.once k, fun k => hlog k ▸ hs.known k,
    fun c call' hc => ?_, ?_⟩
  · obtain ⟨call, hcall, rfl⟩ := hget c call' hc
    have hfit := hs.calls c call hcall
    have hold : call.Fits { s with nonceCounter := 0, calls := s.calls.map Call.afterRestart } :=
      hfit.frame (fun _ h => h) (fun _ k _ h => hlog k ▸ h) (fun _ _ => rfl) (fun _ _ => rfl)
    rcases afterRestart_cases call with h | h
    · rw [h]
      exact hold
    · cases hr : call.replay with
      | true =>
        -- a replay has returned, so it is not lost
        obtain ⟨r, hst⟩ := hfit.replayed hr
        have hkept : call.afterRestart = call := by simp only [Call.afterRestart, hst]
        rw [hkept]
        exact hold
      | false =>
        rw [h]
        exact Call.fits_of_silent rfl hr trivial
  · have howns : ∀ (call : Call) (id : String), call.afterRestart.owns = some id →
        call.owns = some id := by
      intro call id hi
      rcases afterRestart_cases call with h | h
      · exact h ▸ hi
      · rw [h] at hi
        exact absurd (Call.owns_eq_some.mp hi).2 (by simp [CallState.request])
    intro c c' call call' id hc hc' hi hi'
    obtain ⟨b, hb, rfl⟩ := hget c call hc
    obtain ⟨b', hb', rfl⟩ := hget c' call' hc'
    exact hs.owners c c' b b' id hb hb' (howns b id hi) (howns b' id hi')

theorem consistent_createRequest {input : CreateRequestInput} {requestId : String}
    (hs : Consistent s) (h : step cfg s (.createRequest input requestId) = some s') :
    Consistent s' := by
  simp only [step, Option.some.injEq] at h
  rcases createRequest_cases cfg s.db input requestId with ⟨existing, r, hk, hr, heq⟩ | ⟨hk, e, heq⟩ | ⟨hk, p, rfl, hin, hnew, heq⟩
  · rw [heq, hk] at h
    subst h
    have hid : r.requestId = existing.id := getRequest_id hr
    have hfit : Call.Fits { s with
        db := s.db.audit existing.id .IDEMPOTENT_REPLAY
        calls := s.calls ++ [⟨input.idempotencyKey, true, .returned r⟩] }
        ⟨input.idempotencyKey, true, .returned r⟩ := by
      refine ⟨fun id hi => ?_, fun _ _ _ hk => ?_, fun _ => ⟨r, rfl⟩, fun h => ?_⟩
      · cases hi
        rw [hid]
        exact requestOfKey_some hk
      · cases hk
      · cases h
    refine consistent_of_add hs rfl hs.ids hs.keys (fun _ h => h) (fun k => ?_) (fun _ _ => rfl)
      (fun _ => rfl) hfit (fun id hi => ?_)
    · cases k <;> rfl
    · cases hi
  · rw [heq, hk] at h
    subst h
    refine consistent_of_add hs rfl hs.ids hs.keys (fun _ h => h) (fun k => ?_) (fun _ _ => rfl)
      (fun _ => rfl) (Call.fits_of_silent rfl rfl trivial) (fun id hi => ?_)
    · cases k <;> rfl
    · cases hi
  · rw [heq, hk] at h
    subst h
    have hkey := requestOfKey_none hk
    have hrows : (({ s.db with requests := s.db.requests ++ [p.row] } : DB).audit p.requestId
        .REQUEST_RECEIVED).rows = s.db.rows ++ [(p.requestId, input.idempotencyKey)] := by
      rw [← hin]
      exact List.map_append
    have hnot : ∀ k, p.requestId ∉ s.log k := fun k hmem => hnew (hs.known k _ hmem)
    refine consistent_of_add hs rfl ?_ ?_ (fun r hr => ?_) (fun k => ?_) (fun id hid => ?_)
      (fun _ => rfl) ⟨fun id hi => ?_, fun id k hi _ => ?_, fun h => ?_, fun _ => trivial⟩
      (fun id hi => ?_)
    · rw [hrows, List.map_append]
      exact nodup_concat hs.ids hnew
    · rw [hrows, List.map_append]
      exact nodup_concat hs.keys hkey
    · rw [hrows]
      exact List.mem_append_left _ hr
    · cases k <;> rfl
    · obtain ⟨pair, hpair, rfl⟩ := List.mem_map.mp hid
      obtain ⟨row, hrow⟩ : ∃ row, s.db.request pair.1 = some row := request_of_mem_rows hpair
      show List.find? _ (s.db.requests ++ [p.row]) = _
      rw [List.find?_append, ← DB.request, hrow, Option.some_or]
    · cases hi
      rw [hrows]
      exact List.mem_append_right _ (List.mem_singleton.mpr rfl)
    · cases hi
      cases k with
      | evaluation => exact hnot .evaluation
      | authorization => exact hnot .authorization
      | signature => exact hnot .signature
      | capability => exact hnot .capability
    · cases h
    · cases hi
      exact hnew

theorem Call.Fits.replay_of_waiting (h : call.Fits s) {k : Stage}
    (hk : call.state.ahead k = true) : call.replay = false := by
  cases hr : call.replay with
  | false => rfl
  | true =>
    obtain ⟨r, hst⟩ := h.replayed hr
    rw [hst] at hk
    cases hk

theorem Consistent.withNonce (hs : Consistent s) (n : Nat) :
    Consistent { s with nonceCounter := n } := by
  have hlog : ∀ k, ({ s with nonceCounter := n } : Process).log k = s.log k :=
    fun k => by cases k <;> rfl
  refine ⟨hs.ids, hs.keys, fun k => hlog k ▸ hs.once k, fun k => hlog k ▸ hs.known k,
    fun c call hc => ?_, hs.owners⟩
  exact (hs.calls c call hc).frame (fun _ h => h) (fun _ k _ h => hlog k ▸ h) (fun _ _ => rfl)
    (fun _ _ => rfl)

theorem step_resolve {result : Except Failure AgentIdentity}
    (h : step cfg s (.resolve c result) = some s') :
    ∃ call p db st', s.calls[c]? = some call ∧ call.state = .resolving p ∧
      identityResolved cfg s.db p result = (db, st') ∧ s' = s.advance c call db st' := by
  simp only [step] at h
  split at h
  · next call hc =>
    split at h
    · next p hst => exact ⟨call, p, _, _, hc, hst, rfl, (Option.some.inj h).symm⟩
    · cases h
  · cases h

theorem step_evaluate {result : Except Failure EvaluationResult} {issuedMs nonceMs : Nat}
    (h : step cfg s (.evaluate c result issuedMs nonceMs) = some s') :
    ∃ call p identity input db n' st', s.calls[c]? = some call ∧
      call.state = .evaluating p identity input ∧
      evaluated cfg s.nonceCounter s.db p identity result issuedMs nonceMs = (db, n', st') ∧
      s' = { s.advance c call db st' with nonceCounter := n' } := by
  simp only [step] at h
  split at h
  · next call hc =>
    split at h
    · next p identity input hst =>
      exact ⟨call, p, identity, input, _, _, _, hc, hst, rfl, (Option.some.inj h).symm⟩
    · cases h
  · cases h

theorem step_sign {result : Except Failure String} (h : step cfg s (.sign c result) = some s') :
    ∃ call p identity evaluation cap db st', s.calls[c]? = some call ∧
      call.state = .signing p identity evaluation cap ∧
      signed s.db p identity evaluation cap result = (db, st') ∧
      s' = s.advance c call db st' := by
  simp only [step] at h
  split at h
  · next call hc =>
    split at h
    · next p identity evaluation cap hst =>
      exact ⟨call, p, identity, evaluation, cap, _, _, hc, hst, rfl, (Option.some.inj h).symm⟩
    · cases h
  · cases h

theorem consistent_step {a : Action} (hs : Consistent s) (h : step cfg s a = some s') :
    Consistent s' := by
  cases a with
  | createRequest input requestId => exact consistent_createRequest hs h
  | resolve c result =>
    obtain ⟨call, p, db, st', hc, hst, hpart, rfl⟩ := step_resolve h
    have hfit := hs.calls c call hc
    have hreplay := hfit.replay_of_waiting (k := .capability) (by rw [hst]; rfl)
    exact consistent_of_turn hs hc (by rw [hst]; rfl) hreplay (turn_identityResolved hfit hst hpart)
      rfl
  | evaluate c result issuedMs nonceMs =>
    obtain ⟨call, p, identity, input, db, n', st', hc, hst, hpart, rfl⟩ := step_evaluate h
    have hfit := hs.calls c call hc
    have hreplay := hfit.replay_of_waiting (k := .capability) (by rw [hst]; rfl)
    have hturn := turn_evaluated (c := c) hfit hreplay hst hpart
    exact (consistent_of_turn hs hc (by rw [hst]; rfl) hreplay hturn rfl).withNonce n'
  | sign c result =>
    obtain ⟨call, p, identity, evaluation, cap, db, st', hc, hst, hpart, rfl⟩ := step_sign h
    have hfit := hs.calls c call hc
    have hreplay := hfit.replay_of_waiting (k := .capability) (by rw [hst]; rfl)
    exact consistent_of_turn hs hc (by rw [hst]; rfl) hreplay (turn_signed hfit hreplay hst hpart)
      rfl
  | restart =>
    cases h
    exact consistent_restart hs

/-- **The process is consistent in every state of every run.** -/
theorem consistent_of_reaches (h : Reaches (step cfg) .start s) : Consistent s :=
  h.invariant (fun _ _ _ hs hstep => consistent_step hs hstep) consistent_start

end Kept

end ContextLock.Broker
