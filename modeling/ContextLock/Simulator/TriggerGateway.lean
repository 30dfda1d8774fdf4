/-
  Subject:   The gateway in front of the simulator's trigger port.

  A request that passes the checks is looked up in two records, of recent times and of used keys,
  and is written to both before the simulation is invoked; only the invocation is awaited. Both
  records are keyed by texts that are joined from what the request names, the deployment first.
-/
import ContextLock.Js.Map
import ContextLock.Js.Stringify
import ContextLock.Machine.Transition

namespace ContextLock.Simulator

open Js Machine

/-! ## 1. Requests -/

inductive TriggerGatewayReason where
  | UNKNOWN_DEPLOYMENT
  | PAYLOAD_TOO_LARGE
  | SCHEMA_INVALID
  | RATE_LIMITED
  | UNAUTHENTICATED
  | REPLAY
  deriving DecidableEq

structure TriggerGatewayError where
  reason : TriggerGatewayReason
  detail : String

structure TriggerRequest where
  projectId : String
  deploymentId : String
  simulationId : String
  /-- `none` is `undefined`. -/
  payload : Option Json
  idempotencyKey : String
  actorId : Option String

/-- `HTTP_TRIGGER_RATE_LIMIT`: at most `max` in `windowMs`. -/
def windowMs : Nat := 30000
def maxPerWindow : Nat := 1

def MAX_TRIGGER_PAYLOAD_BYTES : Nat := 100 * 1024

def TriggerRequest.key (req : TriggerRequest) : String :=
  req.deploymentId ++ ":" ++ req.simulationId

def TriggerRequest.idemKey (req : TriggerRequest) : String := req.key ++ ":" ++ req.idempotencyKey

/-- What a request is a replay of. -/
def TriggerRequest.triple (req : TriggerRequest) : String × String × String :=
  (req.deploymentId, req.simulationId, req.idempotencyKey)

abbrev Schema := Option Json → Except (List String) Unit

/-- The checks of the caller, the deployment, the size and the schema. -/
def checked (known : List String) (schema : Option Schema) (req : TriggerRequest) :
    Except TriggerGatewayError Unit :=
  if req.actorId.getD "" = "" then
    .error ⟨.UNAUTHENTICATED, "a trigger must name an authenticated caller"⟩
  else if req.deploymentId ∉ known then .error ⟨.UNKNOWN_DEPLOYMENT, req.deploymentId⟩
  else
    let size := (Evm.textBytes (stringify (req.payload.getD .null))).length
    if MAX_TRIGGER_PAYLOAD_BYTES < size then
      .error ⟨.PAYLOAD_TOO_LARGE,
        toString size ++ " bytes exceeds " ++ toString MAX_TRIGGER_PAYLOAD_BYTES⟩
    else
      match schema with
      | none => .ok ()
      | some safeParse =>
        match safeParse req.payload with
        | .ok _ => .ok ()
        | .error messages => .error ⟨.SCHEMA_INVALID, "; ".intercalate messages⟩

/-! ## 2. The gateway -/

/-- The times of the invocations of a key that may still count, and when a key was used. -/
structure TriggerGateway where
  recent : Map (List Nat)
  seen : Map Nat

def TriggerGateway.new : TriggerGateway := ⟨.empty, .empty⟩

/-- The times in the window before `now`. -/
def TriggerGateway.window (g : TriggerGateway) (req : TriggerRequest) (now : Nat) : List Nat :=
  ((g.recent.get? req.key).getD []).filter fun t => now - t < windowMs

/-- `submit` up to its await: the refusal it throws, or the invocation it starts. -/
def submit (g : TriggerGateway) (known : List String) (schema : Option Schema)
    (req : TriggerRequest) (now : Nat) : Except TriggerGatewayError Unit × TriggerGateway :=
  match checked known schema req with
  | .error e => (.error e, g)
  | .ok () =>
    let window := g.window req now
    if maxPerWindow ≤ window.length then
      (.error ⟨.RATE_LIMITED, "CRE's own HTTP trigger limit is 1 per 30s; letting more through "
        ++ "would make this simulation unrepresentative"⟩, g)
    else
      match g.seen.get? req.idemKey with
      | some before =>
        (.error ⟨.REPLAY, "idempotency key already used at " ++ toISOString before⟩, g)
      | none =>
        (.ok (), ⟨g.recent.set req.key (window ++ [now]), g.seen.set req.idemKey now⟩)

/-! ## 3. Any number of calls -/

/-- What an invocation resolves to. -/
structure SimulationOutput where
  exitCode : Int
  events : List Json

inductive CallState where
  | invoking
  | returned (out : SimulationOutput)
  | threw (message : String)
  | refused (e : TriggerGatewayError)

/-- The gateway, the clock, the calls, the requests that invoked a simulation, each with its time,
    and those that were refused as replays. -/
structure Traffic where
  gateway : TriggerGateway
  clock : Nat
  calls : List CallState
  invoked : List (TriggerRequest × Nat)
  replays : List TriggerRequest

def Traffic.start : Traffic := ⟨.new, 0, [], [], []⟩

/-- A call, with what it finds: the known deployments, its schema and the time. Or an answer to the
    `i`th call. -/
inductive Action where
  | submit (known : List String) (schema : Option Schema) (req : TriggerRequest) (now : Nat)
  | answer (i : Nat) (result : Except String SimulationOutput)

/-- The call that was refused with `e`. -/
def Traffic.refuse (s : Traffic) (req : TriggerRequest) (e : TriggerGatewayError) : Traffic :=
  { s with calls := s.calls ++ [.refused e]
           replays := if e.reason = .REPLAY then s.replays ++ [req] else s.replays }

def step (s : Traffic) : Action → Option Traffic
  | .submit known schema req now =>
    -- the clock does not go back
    if now < s.clock then none
    else
      match submit s.gateway known schema req now with
      | (.error e, g) => some (Traffic.refuse { s with gateway := g, clock := now } req e)
      | (.ok (), g) =>
        some { s with gateway := g, clock := now, calls := s.calls ++ [.invoking]
                      invoked := s.invoked ++ [(req, now)] }
  | .answer i result =>
    match s.calls[i]? with
    | some .invoking =>
      match result with
      | .ok out => some { s with calls := s.calls.set i (.returned out) }
      | .error message => some { s with calls := s.calls.set i (.threw message) }
    | _ => none

/-- Two invocations, one after the other: of one simulation they are a window apart and have
    different idempotency keys. -/
def Apart (e e' : TriggerRequest × Nat) : Prop :=
  e.1.simulationId = e'.1.simulationId →
    e.2 + windowMs ≤ e'.2 ∧ e.1.idempotencyKey ≠ e'.1.idempotencyKey

/-- Every simulation was invoked at most once in any window and at most once for any idempotency
    key, and what was refused as a replay had a predecessor of its own triple. -/
structure Lawful (s : Traffic) : Prop where
  apart : s.invoked.Pairwise Apart
  replays : ∀ req ∈ s.replays, ∃ e ∈ s.invoked, e.1.triple = req.triple

/-! ## 4. What the records say -/

/-- The records hold the last time of every key that was used, and every replay key that was. -/
structure Recorded (s : Traffic) : Prop where
  times : ∀ e ∈ s.invoked, e.2 ≤ s.clock
  last : ∀ e ∈ s.invoked, ∃ t, s.gateway.recent.get? e.1.key = some [t] ∧ e.2 ≤ t
  recent : ∀ key ts, s.gateway.recent.get? key = some ts →
    ∃ e ∈ s.invoked, e.1.key = key ∧ ts = [e.2]
  used : ∀ e ∈ s.invoked, s.gateway.seen.get? e.1.idemKey ≠ none
  seen : ∀ key, s.gateway.seen.get? key ≠ none → ∃ e ∈ s.invoked, e.1.idemKey = key

/-- An invocation of the request's key lies in the window before `now`. -/
def limited (s : Traffic) (req : TriggerRequest) (now : Nat) : Bool :=
  s.invoked.any fun e => decide (e.1.key = req.key) && decide (now < e.2 + windowMs)

def replayed (s : Traffic) (req : TriggerRequest) : Bool :=
  s.invoked.any fun e => decide (e.1.idemKey = req.idemKey)

section Records

variable {s s' : Traffic} {known : List String} {schema : Option Schema} {req : TriggerRequest}
  {now : Nat}

theorem recorded_start : Recorded .start where
  times e he := by cases he
  last e he := by cases he
  recent key ts h := by cases h
  used e he := by cases he
  seen key h := absurd rfl h

theorem Recorded.limited_iff (h : Recorded s) (hnow : s.clock ≤ now) :
    maxPerWindow ≤ (s.gateway.window req now).length ↔ limited s req now = true := by
  unfold limited TriggerGateway.window
  simp only [List.any_eq_true, Bool.and_eq_true, decide_eq_true_eq]
  constructor
  · intro hlength
    cases hget : s.gateway.recent.get? req.key with
    | none =>
      rw [hget] at hlength
      simp [maxPerWindow] at hlength
    | some ts =>
      obtain ⟨e, he, hkey, rfl⟩ := h.recent _ _ hget
      have htime := h.times e he
      rw [hget] at hlength
      by_cases hin : now - e.2 < windowMs
      · exact ⟨e, he, hkey, by omega⟩
      · simp [hin, maxPerWindow] at hlength
  · intro hlimited
    obtain ⟨e, he, hkey, hin⟩ := hlimited
    obtain ⟨t, hget, hle⟩ := h.last e he
    have hpositive : 0 < windowMs := by decide
    have hlast : now - t < windowMs := by omega
    rw [← hkey, hget]
    simp [hlast, maxPerWindow]

theorem Recorded.replayed_iff (h : Recorded s) :
    s.gateway.seen.get? req.idemKey ≠ none ↔ replayed s req = true := by
  unfold replayed
  simp only [List.any_eq_true, decide_eq_true_eq]
  constructor
  · exact h.seen req.idemKey
  · intro hused
    obtain ⟨e, he, hkey⟩ := hused
    rw [← hkey]
    exact h.used e he

/-- **All that a call can come to.** -/
inductive Submitted (s : Traffic) (known : List String) (schema : Option Schema)
    (req : TriggerRequest) (now : Nat) : Traffic → Prop where
  | invalid (e : TriggerGatewayError) (hreason : e.reason ≠ .REPLAY)
      (h : checked known schema req = .error e) :
      Submitted s known schema req now (Traffic.refuse { s with clock := now } req e)
  | limited (e : TriggerGatewayError) (hreason : e.reason ≠ .REPLAY)
      (h : checked known schema req = .ok ()) (hlimited : limited s req now = true) :
      Submitted s known schema req now (Traffic.refuse { s with clock := now } req e)
  | replayed (e : TriggerGatewayError) (hreason : e.reason = .REPLAY)
      (h : checked known schema req = .ok ()) (hlimited : limited s req now = false)
      (hreplayed : replayed s req = true) :
      Submitted s known schema req now (Traffic.refuse { s with clock := now } req e)
  | invoked (h : checked known schema req = .ok ()) (hlimited : limited s req now = false)
      (hreplayed : replayed s req = false) :
      Submitted s known schema req now
        { s with gateway := ⟨s.gateway.recent.set req.key [now], s.gateway.seen.set req.idemKey now⟩
                 clock := now, calls := s.calls ++ [.invoking]
                 invoked := s.invoked ++ [(req, now)] }

theorem checked_reason {e : TriggerGatewayError} (h : checked known schema req = .error e) :
    e.reason ≠ .REPLAY := by
  unfold checked at h
  dsimp only at h
  split at h
  · cases h
    simp
  · split at h
    · cases h
      simp
    · split at h
      · cases h
        simp
      · split at h
        · cases h
        · split at h
          · cases h
          · cases h
            simp

theorem submitted_of_step (h : Recorded s) (hstep : step s (.submit known schema req now) = some s') :
    s.clock ≤ now ∧ Submitted s known schema req now s' := by
  simp only [step] at hstep
  by_cases hback : now < s.clock
  · rw [if_pos hback] at hstep
    cases hstep
  rw [if_neg hback] at hstep
  have hnow : s.clock ≤ now := by omega
  refine ⟨hnow, ?_⟩
  simp only [submit] at hstep
  cases hchecked : checked known schema req with
  | error e =>
    simp only [hchecked, Option.some.injEq] at hstep
    rw [← hstep]
    exact .invalid e (checked_reason hchecked) hchecked
  | ok u =>
    simp only [hchecked] at hstep
    by_cases hlength : maxPerWindow ≤ (s.gateway.window req now).length
    · simp only [if_pos hlength, Option.some.injEq] at hstep
      rw [← hstep]
      exact .limited _ (by simp) hchecked ((h.limited_iff hnow).mp hlength)
    · simp only [if_neg hlength] at hstep
      have hlimited : limited s req now = false :=
        Bool.eq_false_of_not_eq_true fun htrue => hlength ((h.limited_iff hnow).mpr htrue)
      cases hseen : s.gateway.seen.get? req.idemKey with
      | some before =>
        simp only [hseen, Option.some.injEq] at hstep
        rw [← hstep]
        exact .replayed _ rfl hchecked hlimited (h.replayed_iff.mp (by rw [hseen]; simp))
      | none =>
        simp only [hseen, Option.some.injEq] at hstep
        have hreplayed : replayed s req = false :=
          Bool.eq_false_of_not_eq_true fun htrue => h.replayed_iff.mpr htrue hseen
        have hempty : s.gateway.window req now = [] := by
          refine List.eq_nil_of_length_eq_zero ?_
          unfold maxPerWindow at hlength
          omega
        rw [hempty, List.nil_append] at hstep
        rw [← hstep]
        exact .invoked hchecked hlimited hreplayed

theorem Recorded.refuse (h : Recorded s) (hnow : s.clock ≤ now) (e : TriggerGatewayError) :
    Recorded (Traffic.refuse { s with clock := now } req e) :=
  ⟨fun x hx => (h.times x hx).trans hnow, h.last, h.recent, h.used, h.seen⟩

theorem answer_cases {i : Nat} {result : Except String SimulationOutput}
    (h : step s (.answer i result) = some s') : ∃ calls, s' = { s with calls := calls } := by
  simp only [step] at h
  split at h
  · split at h
    · exact ⟨_, (Option.some.inj h).symm⟩
    · exact ⟨_, (Option.some.inj h).symm⟩
  · cases h

theorem recorded_step {a : Action} (h : Recorded s) (hstep : step s a = some s') : Recorded s' := by
  cases a with
  | answer i result =>
    obtain ⟨calls, rfl⟩ := answer_cases hstep
    exact ⟨h.times, h.last, h.recent, h.used, h.seen⟩
  | submit known schema req now =>
    obtain ⟨hnow, hsubmitted⟩ := submitted_of_step h hstep
    cases hsubmitted with
    | invalid e => exact h.refuse hnow e
    | limited e => exact h.refuse hnow e
    | replayed e => exact h.refuse hnow e
    | invoked =>
      refine ⟨fun e he => ?_, fun e he => ?_, fun key ts hget => ?_, fun e he => ?_,
        fun key hget => ?_⟩
      · rcases List.mem_append.mp he with hold | hnew
        · exact (h.times e hold).trans hnow
        · rw [List.mem_singleton.mp hnew]
      · show ∃ t, (s.gateway.recent.set req.key [now]).get? e.1.key = some [t] ∧ e.2 ≤ t
        rw [Map.get?_set]
        by_cases hkey : e.1.key = req.key
        · rw [if_pos hkey]
          refine ⟨now, rfl, ?_⟩
          rcases List.mem_append.mp he with hold | hnew
          · exact (h.times e hold).trans hnow
          · rw [List.mem_singleton.mp hnew]
        · rw [if_neg hkey]
          rcases List.mem_append.mp he with hold | hnew
          · exact h.last e hold
          · rw [List.mem_singleton.mp hnew] at hkey
            exact absurd rfl hkey
      · have hget' : (s.gateway.recent.set req.key [now]).get? key = some ts := hget
        rcases Map.cases_of_get?_set hget' with hnew | hold
        · exact ⟨(req, now), List.mem_append_right _ List.mem_cons_self, hnew.1.symm, hnew.2.symm⟩
        · obtain ⟨e, he, hrest⟩ := h.recent key ts hold.2
          exact ⟨e, List.mem_append_left _ he, hrest⟩
      · show (s.gateway.seen.set req.idemKey now).get? e.1.idemKey ≠ none
        rw [Map.get?_set]
        by_cases hkey : e.1.idemKey = req.idemKey
        · rw [if_pos hkey]
          exact Option.some_ne_none now
        · rw [if_neg hkey]
          rcases List.mem_append.mp he with hold | hnew
          · exact h.used e hold
          · rw [List.mem_singleton.mp hnew] at hkey
            exact absurd rfl hkey
      · have hget' : (s.gateway.seen.set req.idemKey now).get? key ≠ none := hget
        rw [Map.get?_set] at hget'
        by_cases hkey : key = req.idemKey
        · exact ⟨(req, now), List.mem_append_right _ List.mem_cons_self, hkey.symm⟩
        · rw [if_neg hkey] at hget'
          obtain ⟨e, he, hsame⟩ := h.seen key hget'
          exact ⟨e, List.mem_append_left _ he, hsame⟩

/-! ## 5. One step -/

/-- The request arrives at a state in which it breaks nothing: a check refuses it, or it is limited;
    or it is a replay, and its own triple was invoked; or no other invocation of its simulation
    lies in the window or has its idempotency key. -/
def Meets (s : Traffic) : Action → Bool
  | .submit known schema req now =>
    match checked known schema req with
    | .error _ => true
    | .ok () =>
      if limited s req now then true
      else if replayed s req then
        s.invoked.any fun e => decide (e.1.triple = req.triple)
      else
        s.invoked.all fun e => !decide (e.1.simulationId = req.simulationId) ||
          decide (e.2 + windowMs ≤ now) && !decide (e.1.idempotencyKey = req.idempotencyKey)
  | .answer .. => true

theorem Lawful.refuse (h : Lawful s) {e : TriggerGatewayError} (hreason : e.reason ≠ .REPLAY) :
    Lawful (Traffic.refuse { s with clock := now } req e) := by
  refine ⟨h.apart, fun r hr => ?_⟩
  simp only [Traffic.refuse, if_neg hreason] at hr
  exact h.replays r hr

/-- **A replay** keeps the law exactly where its own triple was invoked. -/
theorem lawful_replayed_iff (h : Lawful s) {e : TriggerGatewayError} (hreason : e.reason = .REPLAY) :
    Lawful (Traffic.refuse { s with clock := now } req e) ↔
      s.invoked.any (fun e => decide (e.1.triple = req.triple)) = true := by
  simp only [List.any_eq_true, decide_eq_true_eq]
  have hreplays : (Traffic.refuse { s with clock := now } req e).replays = s.replays ++ [req] := by
    simp only [Traffic.refuse, if_pos hreason]
  constructor
  · intro hlawful
    refine hlawful.replays req ?_
    rw [hreplays]
    exact List.mem_append_right _ List.mem_cons_self
  · intro hown
    refine ⟨h.apart, fun r hr => ?_⟩
    rw [hreplays] at hr
    rcases List.mem_append.mp hr with hold | hnew
    · exact h.replays r hold
    · rw [List.mem_singleton.mp hnew]
      exact hown

/-- **An invocation** keeps the law exactly where no other of its simulation is too close or has its
    idempotency key. -/
theorem lawful_invoked_iff (h : Lawful s) {s' : Traffic}
    (hinvoked : s'.invoked = s.invoked ++ [(req, now)]) (hreplays : s'.replays = s.replays) :
    Lawful s' ↔ s.invoked.all (fun e => !decide (e.1.simulationId = req.simulationId) ||
      decide (e.2 + windowMs ≤ now) && !decide (e.1.idempotencyKey = req.idempotencyKey)) = true := by
  have hall : s.invoked.all (fun e => !decide (e.1.simulationId = req.simulationId) ||
      decide (e.2 + windowMs ≤ now) && !decide (e.1.idempotencyKey = req.idempotencyKey)) = true ↔
      ∀ e ∈ s.invoked, Apart e (req, now) := by
    simp only [List.all_eq_true, Bool.or_eq_true, Bool.not_eq_true', decide_eq_false_iff_not,
      Bool.and_eq_true, decide_eq_true_eq, Apart]
    exact forall₂_congr fun e _ => imp_iff_not_or.symm
  rw [hall]
  constructor
  · intro hlawful e he
    have hapart := hlawful.apart
    rw [hinvoked, List.pairwise_append] at hapart
    exact hapart.2.2 e he (req, now) List.mem_cons_self
  · intro hnew
    refine ⟨?_, fun r hr => ?_⟩
    · rw [hinvoked, List.pairwise_append]
      refine ⟨h.apart, List.pairwise_singleton _ _, fun e he e' he' => ?_⟩
      rw [List.mem_singleton.mp he']
      exact hnew e he
    · rw [hreplays] at hr
      obtain ⟨e, he, htriple⟩ := h.replays r hr
      exact ⟨e, hinvoked ▸ List.mem_append_left _ he, htriple⟩

/-- **One step.** Where the law held, it holds after the step exactly if the step meets the
    condition. -/
theorem lawful_step_iff {a : Action} (h : Lawful s) (hrecorded : Recorded s)
    (hstep : step s a = some s') : Lawful s' ↔ Meets s a = true := by
  cases a with
  | answer i result =>
    obtain ⟨calls, rfl⟩ := answer_cases hstep
    exact iff_of_true ⟨h.apart, h.replays⟩ rfl
  | submit known schema req now =>
    obtain ⟨hnow, hsubmitted⟩ := submitted_of_step hrecorded hstep
    cases hsubmitted with
    | invalid e hreason hchecked =>
      exact iff_of_true (h.refuse hreason) (by simp only [Meets, hchecked])
    | limited e hreason hchecked hlimited =>
      exact iff_of_true (h.refuse hreason) (by simp only [Meets, hchecked, hlimited, if_true])
    | replayed e hreason hchecked hlimited hreplayed =>
      rw [lawful_replayed_iff h hreason]
      simp only [Meets, hchecked, hlimited, hreplayed, if_true, Bool.false_eq_true, if_false]
    | invoked hchecked hlimited hreplayed =>
      refine Iff.trans (lawful_invoked_iff h rfl rfl) ?_
      simp only [Meets, hchecked, hlimited, hreplayed, Bool.false_eq_true, if_false]

end Records

/-! ## 6. Whole runs -/

/-- **The law of the gateway**: it holds in every run whose requests all meet the condition; from
    a state in which it holds, a step keeps it exactly if it meets the condition; and in every run a
    step that invokes nothing leaves the records as they are. -/
theorem triggers_lawful (s : Traffic) :
    (Reaches (guarded step fun s a => Meets s a = true) .start s → Lawful s) ∧
    ∀ a s', Reaches step .start s → step s a = some s' →
      (Lawful s → (Lawful s' ↔ Meets s a = true)) ∧
      (s'.invoked = s.invoked → s'.gateway = s.gateway) := by
  have hrecorded : Reaches step .start s → Recorded s :=
    fun h => h.invariant (fun _ _ _ hs hstep => recorded_step hs hstep) recorded_start
  refine ⟨fun h => ?_, fun a s' h hstep => ⟨fun hlawful => ?_, fun hsame => ?_⟩⟩
  · have hstart : Lawful .start := ⟨.nil, fun req hreq => by cases hreq⟩
    have hrun : Recorded s ∧ Lawful s := by
      refine h.invariant (P := fun s => Recorded s ∧ Lawful s) (fun s a s' hs hstep => ?_)
        ⟨recorded_start, hstart⟩
      obtain ⟨hmeets, hstep⟩ := guarded_eq_some.mp hstep
      exact ⟨recorded_step hs.1 hstep, (lawful_step_iff hs.2 hs.1 hstep).mpr hmeets⟩
    exact hrun.2
  · exact lawful_step_iff hlawful (hrecorded h) hstep
  · cases a with
    | answer i result =>
      obtain ⟨calls, rfl⟩ := answer_cases hstep
      rfl
    | submit known schema req now =>
      obtain ⟨-, hsubmitted⟩ := submitted_of_step (hrecorded h) hstep
      cases hsubmitted with
      | invalid => rfl
      | limited => rfl
      | replayed => rfl
      | invoked => exact absurd hsame (by simp)

/-! ## 7. One deployment, and two -/

def triggerRequest (deploymentId idempotencyKey : String) : TriggerRequest :=
  ⟨"prj", deploymentId, "sim", none, idempotencyKey, some "user"⟩

/-- A request of a deployment that is known. -/
def trigger (deploymentId idempotencyKey : String) (now : Nat) : Action :=
  .submit ["d1", "d2"] none (triggerRequest deploymentId idempotencyKey) now

/-- One deployment invokes its simulation, is limited, invokes it again later and is refused a
    replay. -/
theorem triggers_lawful_one : ∃ s,
    Reaches (guarded step fun s a => Meets s a = true) .start s ∧
      s.invoked.map (·.2) = [0, 30000] ∧ s.replays.length = 1 ∧ Lawful s := by
  have hrun : (execute (guarded step fun s a => Meets s a = true) .start
      [trigger "d1" "k1" 0, trigger "d1" "k2" 10, trigger "d1" "k2" 30000,
        trigger "d1" "k1" 60000]).map (fun s => (s.invoked.map (·.2), s.replays.length))
      = some ([0, 30000], 1) := by
    decide +kernel
  obtain ⟨s, h, hseen⟩ := reaches_of_observed _ _ hrun
  obtain ⟨htimes, hreplays⟩ := Prod.mk.inj hseen
  exact ⟨s, h, htimes, hreplays, (triggers_lawful s).1 h⟩

/-- **A second deployment invokes the same simulation**, 1 ms later and with the same key. -/
theorem second_deployment_invokes : ∃ s, Reaches step .start s ∧
    s.invoked.map (fun e => (e.1.simulationId, e.1.idempotencyKey, e.2))
      = [("sim", "k1", 0), ("sim", "k1", 1)] ∧ ¬ Lawful s := by
  have hrun : (execute step .start [trigger "d1" "k1" 0, trigger "d2" "k1" 1]).map
      (fun s => s.invoked.map fun e => (e.1.simulationId, e.1.idempotencyKey, e.2))
      = some [("sim", "k1", 0), ("sim", "k1", 1)] := by
    decide +kernel
  obtain ⟨s, h, hseen⟩ := reaches_of_observed _ _ hrun
  refine ⟨s, h, hseen, fun hlawful => ?_⟩
  have hpairs : (s.invoked.map fun e => (e.1.simulationId, e.1.idempotencyKey, e.2)).Pairwise
      fun x y => x.1 = y.1 → x.2.2 + windowMs ≤ y.2.2 ∧ x.2.1 ≠ y.2.1 := by
    rw [List.pairwise_map]
    exact hlawful.apart
  rw [hseen] at hpairs
  revert hpairs
  decide

end ContextLock.Simulator
