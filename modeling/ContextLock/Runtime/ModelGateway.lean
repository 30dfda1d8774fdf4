/-
  Subject:   The model gateway: quotas of requests and tokens, and the rate of requests.

  A call names an agent by its token, passes the gateway's checks and reaches the model, which
  answers with its usage or fails. The state also remembers which calls reached the model, and
  which were refused although the agent asked for no more than one request's output.
-/
import ContextLock.Accounting.Window
import ContextLock.Runtime.Tokens

namespace ContextLock.Runtime

open Evm Js Machine Accounting

/-! ## 1. The gateway -/

def PINNED_MODEL : String := "gpt-5.6-luna"

structure ModelQuota where
  requestsPerAgentPerDay : Nat
  inputTokensPerAgentPerDay : Nat
  outputTokensPerAgentPerDay : Nat
  maxTurnsPerRun : Nat
  maxOutputTokensPerRequest : Nat
  requestsPerMinute : Nat

structure ModelUsageRecord where
  agentId : String
  deploymentId : String
  requests : Int
  inputTokens : Int
  outputTokens : Int

structure Message where
  role : String
  content : String

/-- A request; `namesModel` is `"model" in request`. -/
structure ModelRequest where
  messages : List Message
  maxOutputTokens : Int
  toolNames : List String
  turn : Int
  correlationId : String
  namesModel : Bool

structure ModelCall where
  model : String
  messages : List Message
  maxOutputTokens : Int
  tools : List String

structure ModelReply where
  inputTokens : Int
  outputTokens : Int
  content : String

structure Completion where
  model : String
  content : String
  usage : ModelUsageRecord
  correlationId : String

/-- What `complete` throws. -/
inductive ModelGatewayError where
  | token (refusal : Refusal)
  | modelNotSelectable
  | turnLimit (turn : Int) (limit : Nat)
  | outputCeiling (asked : Int) (limit : Nat)
  | toolNotAllowed (agentId : String) (tools : List String)
  | rateLimited (recent : Nat)
  | requestsUsed (agentId : String) (limit : Nat)
  | callFailed (message : String)

/-- The reason is `MODEL_GATEWAY_REASONS.QUOTA_EXCEEDED`. -/
def ModelGatewayError.forQuota : ModelGatewayError → Bool
  | outputCeiling _ _ => true
  | requestsUsed _ _ => true
  | _ => false

structure ModelGateway where
  usage : Map ModelUsageRecord
  recentRequests : Map (List Int)

namespace ModelGateway

def new : ModelGateway := ⟨Map.empty, Map.empty⟩

def usageFor (g : ModelGateway) (agentId : String) : ModelUsageRecord :=
  (g.usage.get? agentId).getD ⟨agentId, "", 0, 0, 0⟩

/-- The agent's requests of the last minute. -/
def fresh (g : ModelGateway) (agentId : String) (nowMs : Int) : List Int :=
  ((g.recentRequests.get? agentId).getD []).filter fun t => nowMs - t < 60000

def record (g : ModelGateway) (claims : RuntimeTokenClaims) : ModelUsageRecord :=
  (g.usage.get? claims.agentId).getD ⟨claims.agentId, claims.deploymentId, 0, 0, 0⟩

/-- The gateway after a call that the model answered. -/
def charge (g : ModelGateway) (claims : RuntimeTokenClaims) (nowMs : Int) (reply : ModelReply) :
    ModelGateway where
  usage := g.usage.set claims.agentId
    { g.record claims with
      requests := (g.record claims).requests + 1
      inputTokens := (g.record claims).inputTokens + reply.inputTokens
      outputTokens := (g.record claims).outputTokens + reply.outputTokens }
  recentRequests := g.recentRequests.set claims.agentId (g.fresh claims.agentId nowMs ++ [nowMs])

end ModelGateway

/-- A call of `complete`: the verifier as it then is, its arguments and the model behind it. -/
structure CompleteCall where
  verifier : RuntimeTokenVerifier
  token : String
  ctx : VerificationContext
  request : ModelRequest
  call : ModelCall → Except String ModelReply

variable (ed : Ed25519) (nearest : Rounding) (quota : ModelQuota)
  (allowedTools : String → List String)

/-- `this.verifier.verify(token, { ...ctx, audience: "MODEL" })`. -/
def CompleteCall.verify (c : CompleteCall) : Except Refusal RuntimeTokenClaims :=
  c.verifier.verify ed nearest c.token { c.ctx with audience := .MODEL }

def CompleteCall.modelCall (c : CompleteCall) (claims : RuntimeTokenClaims) : ModelCall where
  model := PINNED_MODEL
  messages := c.request.messages
  maxOutputTokens := c.request.maxOutputTokens
  tools := allowedTools claims.agentId

/-- The checks between the token and the model. -/
def ModelGateway.passes (g : ModelGateway) (c : CompleteCall) (claims : RuntimeTokenClaims) :
    Except ModelGatewayError Unit :=
  let unknownTools := c.request.toolNames.filter fun t => t ∉ allowedTools claims.agentId
  if c.request.namesModel then .error .modelNotSelectable
  else if c.request.turn > quota.maxTurnsPerRun then
    .error (.turnLimit c.request.turn quota.maxTurnsPerRun)
  else if c.request.maxOutputTokens > quota.maxOutputTokensPerRequest then
    .error (.outputCeiling c.request.maxOutputTokens quota.maxOutputTokensPerRequest)
  else if unknownTools ≠ [] then .error (.toolNotAllowed claims.agentId unknownTools)
  else if (g.fresh claims.agentId c.ctx.nowMs).length ≥ quota.requestsPerMinute then
    .error (.rateLimited (g.fresh claims.agentId c.ctx.nowMs).length)
  else if (g.record claims).requests + 1 > quota.requestsPerAgentPerDay then
    .error (.requestsUsed claims.agentId quota.requestsPerAgentPerDay)
  else .ok ()

/-- `gateway.complete(token, ctx, request, call)`, and the gateway after it. -/
def ModelGateway.complete (g : ModelGateway) (c : CompleteCall) :
    Except ModelGatewayError Completion × ModelGateway :=
  match c.verify ed nearest with
  | .error r => (.error (.token r), g)
  | .ok claims =>
    match g.passes quota allowedTools c claims with
    | .error e => (.error e, g)
    | .ok () =>
      match c.call (c.modelCall allowedTools claims) with
      | .error e => (.error (.callFailed e), g)
      | .ok reply =>
        let g' := g.charge claims c.ctx.nowMs reply
        (.ok ⟨PINNED_MODEL, reply.content, g'.usageFor claims.agentId, c.request.correlationId⟩, g')

/-! ## 2. Runs -/

structure Reached where
  agentId : String
  atMs : Int
  reply : Option ModelReply

structure Refused where
  agentId : String
  atMs : Int
  asked : Int
  before : List Reached

structure GatewayState where
  gateway : ModelGateway
  clock : Int
  reached : List Reached
  refused : List Refused

def GatewayState.start : GatewayState := ⟨ModelGateway.new, 0, [], []⟩

/-- What a call with these claims leaves in the history. -/
def GatewayState.note (s : GatewayState) (c : CompleteCall) (claims : RuntimeTokenClaims) :
    List Reached × List Refused :=
  match s.gateway.passes quota allowedTools c claims with
  | .error e =>
    (s.reached, if e.forQuota then
      s.refused ++ [⟨claims.agentId, c.ctx.nowMs, c.request.maxOutputTokens, s.reached⟩]
      else s.refused)
  | .ok () =>
    let reply := (c.call (c.modelCall allowedTools claims)).toOption
    (s.reached ++ [⟨claims.agentId, c.ctx.nowMs, reply⟩], s.refused)

/-- One call of `complete`; time does not go back. -/
def GatewayState.step (s : GatewayState) (c : CompleteCall) : Option GatewayState :=
  if c.ctx.nowMs < s.clock then none
  else
    let history := match c.verify ed nearest with
      | .error _ => (s.reached, s.refused)
      | .ok claims => s.note quota allowedTools c claims
    some ⟨(s.gateway.complete ed nearest quota allowedTools c).2, c.ctx.nowMs, history.1, history.2⟩

variable {ed nearest quota allowedTools}

variable {c : CompleteCall} {claims : RuntimeTokenClaims} {s s' : GatewayState}

/-- **What passes the checks**: few enough requests in the last minute, and one request left. -/
theorem passes_eq_ok {g : ModelGateway} (h : g.passes quota allowedTools c claims = .ok ()) :
    (g.fresh claims.agentId c.ctx.nowMs).length < quota.requestsPerMinute ∧
      (g.record claims).requests + 1 ≤ quota.requestsPerAgentPerDay := by
  unfold ModelGateway.passes at h
  simp only [] at h
  split_ifs at h with h1 h2 h3 h4 h5 h6
  exact ⟨by omega, by omega⟩

/-- **What is refused for quota**: more output than one request may have, or no request left. -/
theorem passes_eq_error {g : ModelGateway} {e : ModelGatewayError}
    (h : g.passes quota allowedTools c claims = .error e) (hquota : e.forQuota = true) :
    c.request.maxOutputTokens > quota.maxOutputTokensPerRequest ∨
      (g.record claims).requests + 1 > quota.requestsPerAgentPerDay := by
  unfold ModelGateway.passes at h
  simp only [] at h
  split_ifs at h with h1 h2 h3 h4 h5 h6
  · cases h
    cases hquota
  · cases h
    cases hquota
  · exact Or.inl h3
  · cases h
    cases hquota
  · cases h
    cases hquota
  · exact Or.inr h6

theorem requests_record (g : ModelGateway) (claims : RuntimeTokenClaims) :
    (g.record claims).requests = (g.usageFor claims.agentId).requests ∧
      (g.record claims).inputTokens = (g.usageFor claims.agentId).inputTokens ∧
      (g.record claims).outputTokens = (g.usageFor claims.agentId).outputTokens := by
  unfold ModelGateway.record ModelGateway.usageFor
  cases g.usage.get? claims.agentId <;> exact ⟨rfl, rfl, rfl⟩

/-- **What one call does**: nothing, a refusal for quota, a failed request or an answered one. -/
theorem step_cases (h : s.step ed nearest quota allowedTools c = some s') :
    s.clock ≤ c.ctx.nowMs ∧ s'.clock = c.ctx.nowMs ∧
    ((s'.gateway = s.gateway ∧ s'.reached = s.reached ∧ s'.refused = s.refused) ∨
    ∃ claims, c.verify ed nearest = .ok claims ∧
      ((s'.gateway = s.gateway ∧ s'.reached = s.reached ∧
        s'.refused = s.refused ++
          [⟨claims.agentId, c.ctx.nowMs, c.request.maxOutputTokens, s.reached⟩] ∧
        (c.request.maxOutputTokens > quota.maxOutputTokensPerRequest ∨
          (s.gateway.record claims).requests + 1 > quota.requestsPerAgentPerDay)) ∨
      (s.gateway.passes quota allowedTools c claims = .ok () ∧ s'.refused = s.refused ∧
        ((∃ e, c.call (c.modelCall allowedTools claims) = .error e ∧ s'.gateway = s.gateway ∧
          s'.reached = s.reached ++ [⟨claims.agentId, c.ctx.nowMs, none⟩]) ∨
        ∃ reply, c.call (c.modelCall allowedTools claims) = .ok reply ∧
          s'.gateway = s.gateway.charge claims c.ctx.nowMs reply ∧
          s'.reached = s.reached ++ [⟨claims.agentId, c.ctx.nowMs, some reply⟩])))) := by
  unfold GatewayState.step ModelGateway.complete GatewayState.note at h
  split_ifs at h with hclock
  refine ⟨by omega, ?_⟩
  cases hverify : c.verify ed nearest with
  | error r =>
    rw [hverify] at h
    cases h
    exact ⟨rfl, Or.inl ⟨rfl, rfl, rfl⟩⟩
  | ok claims =>
    rw [hverify] at h
    simp only [] at h
    cases hpassed : s.gateway.passes quota allowedTools c claims with
    | error e =>
      rw [hpassed] at h
      simp only [] at h
      cases hquota : e.forQuota with
      | false =>
        rw [hquota] at h
        cases h
        exact ⟨rfl, Or.inl ⟨rfl, rfl, rfl⟩⟩
      | true =>
        rw [hquota] at h
        cases h
        exact ⟨rfl, Or.inr ⟨claims, rfl, Or.inl ⟨rfl, rfl, rfl, passes_eq_error hpassed hquota⟩⟩⟩
    | ok u =>
      rw [hpassed] at h
      simp only [] at h
      cases hcall : c.call (c.modelCall allowedTools claims) with
      | error e =>
        rw [hcall] at h
        cases h
        exact ⟨rfl, Or.inr ⟨claims, rfl, Or.inr ⟨hpassed, rfl, Or.inl ⟨e, hcall, rfl, rfl⟩⟩⟩⟩
      | ok reply =>
        rw [hcall] at h
        cases h
        exact ⟨rfl, Or.inr ⟨claims, rfl, Or.inr ⟨hpassed, rfl, Or.inr ⟨reply, hcall, rfl, rfl⟩⟩⟩⟩

/-- The day of a time, counted from the epoch. -/
def dayOf (ms : Int) : Int := ms / 86400000

namespace Reached

def completed (e : Reached) : Int := if e.reply.isSome then 1 else 0

def inputTokens (e : Reached) : Int := (e.reply.map ModelReply.inputTokens).getD 0

def outputTokens (e : Reached) : Int := (e.reply.map ModelReply.outputTokens).getD 0

/-- The request is the agent's, and was made on this day. -/
def OnDay (agentId : String) (day : Int) (e : Reached) : Prop :=
  e.agentId = agentId ∧ dayOf e.atMs = day

instance instDecidableOnDay (agentId : String) (day : Int) : DecidablePred (OnDay agentId day) :=
  fun _ => inferInstanceAs (Decidable (_ ∧ _))

end Reached

/-- The agent has a request left today, and its tokens of today are within their limits. -/
structure WithinLimits (quota : ModelQuota) (reached : List Reached) (agentId : String)
    (nowMs asked : Int) : Prop where
  asked : asked ≤ quota.maxOutputTokensPerRequest
  requests : sumWhere Reached.completed (Reached.OnDay agentId (dayOf nowMs)) reached + 1
    ≤ quota.requestsPerAgentPerDay
  inputTokens : sumWhere Reached.inputTokens (Reached.OnDay agentId (dayOf nowMs)) reached
    ≤ quota.inputTokensPerAgentPerDay
  outputTokens : sumWhere Reached.outputTokens (Reached.OnDay agentId (dayOf nowMs)) reached
    ≤ quota.outputTokensPerAgentPerDay

/-- Every request so far was answered, and the gateway's maps say what happened. -/
structure Kept (quota : ModelQuota) (s : GatewayState) : Prop where
  charged : ∀ agentId,
    (s.gateway.usageFor agentId).requests
      = sumWhere Reached.completed (fun e => e.agentId = agentId) s.reached ∧
    (s.gateway.usageFor agentId).inputTokens
      = sumWhere Reached.inputTokens (fun e => e.agentId = agentId) s.reached ∧
    (s.gateway.usageFor agentId).outputTokens
      = sumWhere Reached.outputTokens (fun e => e.agentId = agentId) s.reached
  recent : ∀ agentId nowMs, s.clock ≤ nowMs → ((s.gateway.fresh agentId nowMs).length : Int)
    = sumWhere (fun _ => 1) (fun e : Reached => e.agentId = agentId ∧ nowMs - e.atMs < 60000)
      s.reached
  used : ∀ agentId, (s.gateway.usageFor agentId).requests ≤ quota.requestsPerAgentPerDay
  inputTokens : ∀ agentId day, sumWhere Reached.inputTokens (Reached.OnDay agentId day) s.reached
    ≤ quota.inputTokensPerAgentPerDay
  outputTokens : ∀ agentId day, sumWhere Reached.outputTokens (Reached.OnDay agentId day) s.reached
    ≤ quota.outputTokensPerAgentPerDay
  perMinute : ∀ agentId a, sumWhere (fun _ => 1)
    (Within Reached.atMs (fun e => e.agentId = agentId) a (a + 60000)) s.reached
    ≤ quota.requestsPerMinute
  refused : ∀ r ∈ s.refused, ¬ WithinLimits quota r.before r.agentId r.atMs r.asked

/-- What a call is asked to meet, in the state before it. -/
structure Agrees (quota : ModelQuota) (allowedTools : String → List String) (s : GatewayState)
    (c : CompleteCall) (claims : RuntimeTokenClaims) : Prop where
  /-- A call that is let through is answered, within the token limits of the day. -/
  answered : s.gateway.passes quota allowedTools c claims = .ok () →
    ∃ reply, c.call (c.modelCall allowedTools claims) = .ok reply ∧
      sumWhere Reached.inputTokens (Reached.OnDay claims.agentId (dayOf c.ctx.nowMs)) s.reached
        + reply.inputTokens ≤ quota.inputTokensPerAgentPerDay ∧
      sumWhere Reached.outputTokens (Reached.OnDay claims.agentId (dayOf c.ctx.nowMs)) s.reached
        + reply.outputTokens ≤ quota.outputTokensPerAgentPerDay
  /-- An agent whose requests are used up used them today. -/
  today : (s.gateway.usageFor claims.agentId).requests < quota.requestsPerAgentPerDay ∨
    ∀ e ∈ s.reached, e.agentId = claims.agentId → e.reply.isSome →
      dayOf e.atMs = dayOf c.ctx.nowMs

theorem usageFor_charge (g : ModelGateway) (claims : RuntimeTokenClaims) (nowMs : Int)
    (reply : ModelReply) (agentId : String) :
    ((g.charge claims nowMs reply).usageFor agentId).requests
      = (g.usageFor agentId).requests + (if claims.agentId = agentId then 1 else 0) ∧
    ((g.charge claims nowMs reply).usageFor agentId).inputTokens
      = (g.usageFor agentId).inputTokens
        + (if claims.agentId = agentId then reply.inputTokens else 0) ∧
    ((g.charge claims nowMs reply).usageFor agentId).outputTokens
      = (g.usageFor agentId).outputTokens
        + (if claims.agentId = agentId then reply.outputTokens else 0) := by
  obtain ⟨hrequests, hinput, houtput⟩ := requests_record g claims
  by_cases hagent : claims.agentId = agentId
  · subst hagent
    have hset : (g.charge claims nowMs reply).usageFor claims.agentId
        = { g.record claims with
            requests := (g.record claims).requests + 1
            inputTokens := (g.record claims).inputTokens + reply.inputTokens
            outputTokens := (g.record claims).outputTokens + reply.outputTokens } := by
      rw [ModelGateway.usageFor, ModelGateway.charge, Map.get?_set_self, Option.getD_some]
    rw [hset, if_pos rfl, if_pos rfl, if_pos rfl, ← hrequests, ← hinput, ← houtput]
    exact ⟨rfl, rfl, rfl⟩
  · have hset : (g.charge claims nowMs reply).usageFor agentId = g.usageFor agentId := by
      rw [ModelGateway.usageFor, ModelGateway.charge, Map.get?_set_ne _ _ (Ne.symm hagent),
        ModelGateway.usageFor]
    rw [hset, if_neg hagent, if_neg hagent, if_neg hagent, add_zero, add_zero, add_zero]
    exact ⟨rfl, rfl, rfl⟩

/-- The recent requests of an agent after a charge. -/
theorem fresh_charge (g : ModelGateway) (claims : RuntimeTokenClaims) {nowMs later : Int}
    (hlater : nowMs ≤ later) (reply : ModelReply) (agentId : String) :
    ((g.charge claims nowMs reply).fresh agentId later).length
      = (g.fresh agentId later).length
        + (if claims.agentId = agentId ∧ later - nowMs < 60000 then 1 else 0) := by
  by_cases hagent : claims.agentId = agentId
  · subst hagent
    have hold : (g.fresh claims.agentId nowMs).filter (fun t => later - t < 60000)
        = g.fresh claims.agentId later := by
      rw [ModelGateway.fresh, List.filter_filter, ModelGateway.fresh]
      refine List.filter_congr fun t _ => ?_
      rw [← Bool.decide_and]
      exact decide_eq_decide.mpr ⟨fun h => h.1, fun h => ⟨h, by omega⟩⟩
    have hset : (g.charge claims nowMs reply).fresh claims.agentId later
        = (g.fresh claims.agentId nowMs ++ [nowMs]).filter fun t => later - t < 60000 := by
      rw [ModelGateway.fresh, ModelGateway.charge, Map.get?_set_self, Option.getD_some]
    rw [hset, List.filter_append, hold, List.length_append]
    by_cases hrecent : later - nowMs < 60000
    · have hnew : [nowMs].filter (fun t => later - t < 60000) = [nowMs] := by simp [hrecent]
      rw [if_pos ⟨rfl, hrecent⟩, hnew, List.length_singleton]
    · have hnew : [nowMs].filter (fun t => later - t < 60000) = [] := by simpa using hrecent
      rw [if_neg fun h => hrecent h.2, hnew, List.length_nil]
  · rw [if_neg fun h => hagent h.1, ModelGateway.fresh, ModelGateway.charge,
      Map.get?_set_ne _ _ (Ne.symm hagent), add_zero, ModelGateway.fresh]

theorem Kept.frame (hs : Kept quota s) (hgateway : s'.gateway = s.gateway)
    (hreached : s'.reached = s.reached) (hclock : s.clock ≤ s'.clock)
    (hrefused : ∀ r ∈ s'.refused, ¬ WithinLimits quota r.before r.agentId r.atMs r.asked) :
    Kept quota s' := by
  refine ⟨?_, ?_, ?_, ?_, ?_, ?_, hrefused⟩
  · rw [hgateway, hreached]
    exact hs.charged
  · rw [hgateway, hreached]
    exact fun agentId nowMs hnow => hs.recent agentId nowMs (by omega)
  · rw [hgateway]
    exact hs.used
  · rw [hreached]
    exact hs.inputTokens
  · rw [hreached]
    exact hs.outputTokens
  · rw [hreached]
    exact hs.perMinute

theorem kept_answered {reply : ModelReply} (hs : Kept quota s) (hclock : s.clock ≤ c.ctx.nowMs)
    (hpassed : s.gateway.passes quota allowedTools c claims = .ok ())
    (hinput : sumWhere Reached.inputTokens (Reached.OnDay claims.agentId (dayOf c.ctx.nowMs))
      s.reached + reply.inputTokens ≤ quota.inputTokensPerAgentPerDay)
    (houtput : sumWhere Reached.outputTokens (Reached.OnDay claims.agentId (dayOf c.ctx.nowMs))
      s.reached + reply.outputTokens ≤ quota.outputTokensPerAgentPerDay)
    (hclock' : s'.clock = c.ctx.nowMs)
    (hgateway : s'.gateway = s.gateway.charge claims c.ctx.nowMs reply)
    (hreached : s'.reached = s.reached ++ [⟨claims.agentId, c.ctx.nowMs, some reply⟩])
    (hrefused : s'.refused = s.refused) : Kept quota s' := by
  obtain ⟨hfew, hleft⟩ := passes_eq_ok hpassed
  obtain ⟨hrequests, _, _⟩ := requests_record s.gateway claims
  constructor
  · intro agentId
    obtain ⟨h1, h2, h3⟩ := usageFor_charge s.gateway claims c.ctx.nowMs reply agentId
    obtain ⟨g1, g2, g3⟩ := hs.charged agentId
    rw [hgateway, hreached, sumWhere_concat, sumWhere_concat, sumWhere_concat, h1, h2, h3, g1, g2,
      g3]
    exact ⟨rfl, rfl, rfl⟩
  · intro agentId nowMs hnow
    rw [hclock'] at hnow
    have hold := hs.recent agentId nowMs (by omega)
    rw [hgateway, hreached, sumWhere_concat, fresh_charge s.gateway claims hnow reply agentId,
      ← hold]
    by_cases hnew : claims.agentId = agentId ∧ nowMs - c.ctx.nowMs < 60000
    · rw [if_pos hnew, if_pos hnew]
      rfl
    · rw [if_neg hnew, if_neg hnew]
      rfl
  · intro agentId
    obtain ⟨h1, _, _⟩ := usageFor_charge s.gateway claims c.ctx.nowMs reply agentId
    have hold := hs.used agentId
    rw [hgateway, h1]
    split_ifs with hagent
    · rw [← hagent, ← hrequests]
      exact hleft
    · omega
  · intro agentId day
    rw [hreached, sumWhere_concat]
    split_ifs with hday
    · obtain ⟨hagent, htoday⟩ := hday
      change claims.agentId = agentId at hagent
      change dayOf c.ctx.nowMs = day at htoday
      rw [← hagent, ← htoday]
      exact hinput
    · rw [add_zero]
      exact hs.inputTokens agentId day
  · intro agentId day
    rw [hreached, sumWhere_concat]
    split_ifs with hday
    · obtain ⟨hagent, htoday⟩ := hday
      change claims.agentId = agentId at hagent
      change dayOf c.ctx.nowMs = day at htoday
      rw [← hagent, ← htoday]
      exact houtput
    · rw [add_zero]
      exact hs.outputTokens agentId day
  · intro agentId a
    -- A request of the same minute is among those the gateway counted as recent.
    have hrecent := hs.recent claims.agentId c.ctx.nowMs hclock
    rw [hreached]
    refine sumWhere_concat_le (fun _ _ => by decide) (hs.perMinute agentId a)
      (q := fun e : Reached => e.agentId = claims.agentId ∧ c.ctx.nowMs - e.atMs < 60000) ?_ ?_
    · rintro ⟨hagent, hafter, hbefore⟩ e _ ⟨heagent, heafter, _⟩
      change claims.agentId = agentId at hagent
      change c.ctx.nowMs ≤ a + 60000 at hbefore
      exact ⟨heagent.trans hagent.symm, by omega⟩
    · rw [← hrecent]
      omega
  · rw [hrefused]
    exact hs.refused

/-- An agent whose requests were used up today is not within its limits. -/
theorem not_within_of_used {nowMs asked : Int} (hs : Kept quota s)
    (htoday : (s.gateway.usageFor claims.agentId).requests < quota.requestsPerAgentPerDay ∨
      ∀ e ∈ s.reached, e.agentId = claims.agentId → e.reply.isSome → dayOf e.atMs = dayOf nowMs)
    (hrefused : asked > quota.maxOutputTokensPerRequest ∨
      (s.gateway.record claims).requests + 1 > quota.requestsPerAgentPerDay) :
    ¬ WithinLimits quota s.reached claims.agentId nowMs asked := by
  intro hwithin
  have hasked := hwithin.asked
  have hday := hwithin.requests
  obtain ⟨hrequests, _, _⟩ := requests_record s.gateway claims
  have hcharged := (hs.charged claims.agentId).1
  rcases hrefused with hrefused | hrefused
  · omega
  · rcases htoday with htoday | htoday
    · omega
    · have hsame : sumWhere Reached.completed (fun e => e.agentId = claims.agentId) s.reached
          = sumWhere Reached.completed (Reached.OnDay claims.agentId (dayOf nowMs)) s.reached := by
        unfold sumWhere
        refine congrArg List.sum (List.map_congr_left fun e he => ?_)
        by_cases hagent : e.agentId = claims.agentId
        · cases hreply : e.reply with
          | none =>
            have hzero : e.completed = 0 := by rw [Reached.completed, hreply]; rfl
            rw [hzero, ite_self, ite_self]
          | some reply =>
            have hnow := htoday e he hagent (by rw [hreply]; rfl)
            rw [if_pos hagent, if_pos ⟨hagent, hnow⟩]
        · rw [if_neg hagent, if_neg fun h => hagent h.1]
      omega

def Meets (ed : Ed25519) (nearest : Rounding) (quota : ModelQuota)
    (allowedTools : String → List String) (s : GatewayState) (c : CompleteCall) : Prop :=
  ∀ claims, c.verify ed nearest = .ok claims → Agrees quota allowedTools s c claims

noncomputable instance instDecidableMeets (s : GatewayState) (c : CompleteCall) :
    Decidable (Meets ed nearest quota allowedTools s c) :=
  Classical.propDecidable _

/-- **One call keeps the invariant.** -/
theorem kept_step (hs : Kept quota s) (h : guarded (GatewayState.step ed nearest quota allowedTools)
      (Meets ed nearest quota allowedTools) s c = some s') : Kept quota s' := by
  obtain ⟨hmeets, hstep⟩ := guarded_eq_some.mp h
  obtain ⟨hclock, hclock', hcases⟩ := step_cases hstep
  rcases hcases with ⟨hgateway, hreached, hrefused⟩ | ⟨claims, hverify, hcases⟩
  · refine hs.frame hgateway hreached (by omega) ?_
    rw [hrefused]
    exact hs.refused
  obtain ⟨hanswered, htoday⟩ := hmeets claims hverify
  rcases hcases with ⟨hgateway, hreached, hrefused, hover⟩ | ⟨hpassed, hrefused, hcases⟩
  · refine hs.frame hgateway hreached (by omega) ?_
    rw [hrefused]
    intro r hr
    rcases List.mem_append.mp hr with hr | hr
    · exact hs.refused r hr
    · rw [List.mem_singleton.mp hr]
      exact not_within_of_used hs htoday hover
  · obtain ⟨reply, hreply, hinput, houtput⟩ := hanswered hpassed
    rcases hcases with ⟨e, hfailed, _, _⟩ | ⟨reply', hreply', hgateway, hreached⟩
    · rw [hreply] at hfailed
      cases hfailed
    · rw [hreply] at hreply'
      cases hreply'
      exact kept_answered hs hclock hpassed hinput houtput hclock' hgateway hreached hrefused

end ContextLock.Runtime
