/-
  Subject:   Execution plans, their hashes and the capability scopes of their steps.

  A plan is a sequence of steps on several chains. Its hash covers what determines what
  happens: everything but the execution state, the status of each step and the scope minted
  for it. A step's hash covers the plan's hash and the step, and a scope spells both.
-/
import ContextLock.Js.Canonical

namespace ContextLock.Plan

open Js

/-! ## 1. The schema -/

inductive PlanStepStatus where
  | PENDING
  | AUTHORIZED
  | SUBMITTED
  | CONFIRMED
  | WAITING_EXTERNAL
  | FAILED
  | TIMED_OUT
  | SKIPPED
  deriving DecidableEq

inductive EffectKind where
  | TOKEN_OUT
  | TOKEN_IN
  | MESSAGE_SENT
  | MESSAGE_DELIVERED
  | APPROVAL_SET
  deriving DecidableEq

inductive PreconditionKind where
  | STEP_CONFIRMED
  | ARRIVAL_PROVEN
  | BALANCE_AT_LEAST
  | TIME_AFTER

inductive Disposition where
  | AUTONOMOUS
  | REQUIRES_HUMAN
  | DENY
  deriving DecidableEq

inductive OnStepFailure where
  | HOLD_AND_ESCALATE
  | RETRY_SAME_STEP
  | ABORT_REMAINING

inductive PlanState where
  | DRAFT
  | VALIDATED
  | AWAITING_AUTHORIZATION
  | READY
  | STEP_PENDING
  | STEP_SUBMITTED
  | STEP_CONFIRMED
  | WAITING_EXTERNAL
  | STEP_FAILED
  | TIMED_OUT
  | PARTIAL
  | COMPLETED
  | ABORTED
  deriving DecidableEq

/-- An optional property: absent, there as `undefined`, or there with a value. -/
abbrev Optional (α : Type) := Option (Option α)

structure ExpectedEffect where
  kind : EffectKind
  chainId : Int
  token : Optional String
  amount : Optional String
  party : Optional String

structure Precondition where
  kind : PreconditionKind
  stepId : Optional String
  token : Optional String
  amount : Optional String
  unixSeconds : Optional Int

/-- How a step is authorized; a value of `none` is unknown, a scope of `none` is not minted. -/
structure AuthorizationRequirement where
  disposition : Disposition
  valueUsdCents : Option Int
  capabilityScope : Option String

structure PlanStep where
  stepId : String
  chainId : Int
  adapterId : String
  adapterVersion : String
  action : String
  normalizedIntent : List (String × Value)
  dependencies : List String
  preconditions : List Precondition
  expectedEffects : List ExpectedEffect
  timeoutMs : Int
  authorizationRequirement : AuthorizationRequirement
  status : PlanStepStatus

structure PlanInvariant where
  id : String
  statement : String

structure TimeoutPolicy where
  totalMs : Int
  perStepDefaultMs : Int

structure FailurePolicy where
  onStepFailure : OnStepFailure
  maxRetries : Int
  protocolRefundAvailable : Bool

structure CompletionPolicy where
  requiredStepIds : List String

/-- A plan; its `schemaVersion` is one literal. -/
structure ExecutionPlan where
  planId : String
  revision : Int
  strategyId : String
  organizationId : Option String
  sourceChainId : Int
  steps : List PlanStep
  invariants : List PlanInvariant
  timeoutPolicy : TimeoutPolicy
  failurePolicy : FailurePolicy
  completionPolicy : CompletionPolicy
  state : PlanState

def EXECUTION_PLAN_VERSION : String := "contextlock.execution-plan/v1"

/-! ## 2. Plans as values -/

def EffectKind.text : EffectKind → String
  | TOKEN_OUT => "TOKEN_OUT"
  | TOKEN_IN => "TOKEN_IN"
  | MESSAGE_SENT => "MESSAGE_SENT"
  | MESSAGE_DELIVERED => "MESSAGE_DELIVERED"
  | APPROVAL_SET => "APPROVAL_SET"

def PreconditionKind.text : PreconditionKind → String
  | STEP_CONFIRMED => "STEP_CONFIRMED"
  | ARRIVAL_PROVEN => "ARRIVAL_PROVEN"
  | BALANCE_AT_LEAST => "BALANCE_AT_LEAST"
  | TIME_AFTER => "TIME_AFTER"

def Disposition.text : Disposition → String
  | AUTONOMOUS => "AUTONOMOUS"
  | REQUIRES_HUMAN => "REQUIRES_HUMAN"
  | DENY => "DENY"

def OnStepFailure.text : OnStepFailure → String
  | HOLD_AND_ESCALATE => "HOLD_AND_ESCALATE"
  | RETRY_SAME_STEP => "RETRY_SAME_STEP"
  | ABORT_REMAINING => "ABORT_REMAINING"

/-- The value of a property that may be `undefined`. -/
def ofUndefined (o : Option Value) : Value := o.getD .undefined

def optionalText (o : Optional String) : Option Value := o.map fun t => ofUndefined (t.map .str)

def optionalInt (o : Optional Int) : Option Value := o.map fun n => ofUndefined (n.map .int)

def ExpectedEffect.value (e : ExpectedEffect) : Value :=
  record
    [("kind", some (.str e.kind.text)), ("chainId", some (.int e.chainId)),
     ("token", optionalText e.token), ("amount", optionalText e.amount),
     ("party", optionalText e.party)]

def Precondition.value (c : Precondition) : Value :=
  record
    [("kind", some (.str c.kind.text)), ("stepId", optionalText c.stepId),
     ("token", optionalText c.token), ("amount", optionalText c.amount),
     ("unixSeconds", optionalInt c.unixSeconds)]

/-- The requirement without its `capabilityScope`. -/
def AuthorizationRequirement.identity (r : AuthorizationRequirement) : Value :=
  record
    [("disposition", some (.str r.disposition.text)),
     ("valueUsdCents", some (ofNull (r.valueUsdCents.map .int)))]

/-- `stepIdentity`: the step without its status and its minted scope. -/
def stepIdentity (s : PlanStep) : Value :=
  record
    [("stepId", some (.str s.stepId)), ("chainId", some (.int s.chainId)),
     ("adapterId", some (.str s.adapterId)), ("adapterVersion", some (.str s.adapterVersion)),
     ("action", some (.str s.action)), ("normalizedIntent", some (.obj s.normalizedIntent)),
     ("dependencies", some (.arr (s.dependencies.map .str))),
     ("preconditions", some (.arr (s.preconditions.map Precondition.value))),
     ("expectedEffects", some (.arr (s.expectedEffects.map ExpectedEffect.value))),
     ("timeoutMs", some (.int s.timeoutMs)),
     ("authorizationRequirement", some s.authorizationRequirement.identity)]

def PlanInvariant.value (i : PlanInvariant) : Value :=
  record [("id", some (.str i.id)), ("statement", some (.str i.statement))]

def TimeoutPolicy.value (t : TimeoutPolicy) : Value :=
  record [("totalMs", some (.int t.totalMs)), ("perStepDefaultMs", some (.int t.perStepDefaultMs))]

def FailurePolicy.value (f : FailurePolicy) : Value :=
  record
    [("onStepFailure", some (.str f.onStepFailure.text)), ("maxRetries", some (.int f.maxRetries)),
     ("protocolRefundAvailable", some (.bool f.protocolRefundAvailable))]

def CompletionPolicy.value (c : CompletionPolicy) : Value :=
  record [("requiredStepIds", some (.arr (c.requiredStepIds.map .str)))]

/-- `planIdentity`: the plan without its state, its steps by their identities. -/
def planIdentity (p : ExecutionPlan) : Value :=
  record
    [("schemaVersion", some (.str EXECUTION_PLAN_VERSION)), ("planId", some (.str p.planId)),
     ("revision", some (.int p.revision)), ("strategyId", some (.str p.strategyId)),
     ("organizationId", some (ofNull (p.organizationId.map .str))),
     ("sourceChainId", some (.int p.sourceChainId)),
     ("invariants", some (.arr (p.invariants.map PlanInvariant.value))),
     ("timeoutPolicy", some p.timeoutPolicy.value), ("failurePolicy", some p.failurePolicy.value),
     ("completionPolicy", some p.completionPolicy.value),
     ("steps", some (.arr (p.steps.map stepIdentity)))]

/-! ## 3. Hashes and scopes -/

def hashErrors : WalkErrors where
  bigint := "PLAN-HASH-BIGINT: encode large integers as decimal strings before hashing"
  unserializable := fun typeName => s!"PLAN-HASH-UNSERIALIZABLE: {typeName}"

def canonicalize (value : Value) : Except String String := canonicalText hashErrors value

/-- `keccak256(toHex(text))`. -/
def hashText (text : String) : String := hex32 (Evm.keccakText text)

def planText (p : ExecutionPlan) : Except String String := canonicalize (planIdentity p)

def planHash (p : ExecutionPlan) : Except String String := (planText p).map hashText

def findStep (p : ExecutionPlan) (stepId : String) : Option PlanStep :=
  p.steps.find? (·.stepId = stepId)

def stepHashInput (hash stepId : String) (step : PlanStep) : Value :=
  record [("planHash", some (.str hash)), ("stepId", some (.str stepId)),
    ("step", some (stepIdentity step))]

def stepText (p : ExecutionPlan) (stepId : String) : Except String String :=
  match findStep p stepId with
  | none => .error s!"PLAN-HASH-NO-STEP: {stepId}"
  | some step =>
    match planHash p with
    | .error e => .error e
    | .ok hash => canonicalize (stepHashInput hash stepId step)

def stepHash (p : ExecutionPlan) (stepId : String) : Except String String :=
  (stepText p stepId).map hashText

def capabilityScopeFor (p : ExecutionPlan) (stepId : String) : Except String String :=
  match findStep p stepId with
  | none => .error s!"PLAN-HASH-NO-STEP: {stepId}"
  | some step =>
    match planHash p with
    | .error e => .error e
    | .ok hash =>
      match stepHash p stepId with
      | .error e => .error e
      | .ok stepHash =>
        .ok s!"contextlock:plan:{hash}:step:{stepId}:chain:{step.chainId}:hash:{stepHash}"

/-! ## 4. What the hash covers -/

/-- The steps differ at most in their status and in the scopes minted for them, and their
    intents have one canonical text. -/
structure StepAgrees (s t : PlanStep) : Prop where
  fields : { s with
    normalizedIntent := t.normalizedIntent
    authorizationRequirement :=
      { s.authorizationRequirement with
        capabilityScope := t.authorizationRequirement.capabilityScope }
    status := t.status } = t
  intent : Alike hashErrors (.obj s.normalizedIntent) (.obj t.normalizedIntent)

structure PlanAgrees (p q : ExecutionPlan) : Prop where
  fields : { p with steps := q.steps, state := q.state } = q
  steps : List.Forall₂ StepAgrees p.steps q.steps

theorem EffectKind.text_inj : Function.Injective EffectKind.text := by
  intro a b h
  cases a <;> cases b <;> first | rfl | exact absurd h (by decide)

theorem PreconditionKind.text_inj : Function.Injective PreconditionKind.text := by
  intro a b h
  cases a <;> cases b <;> first | rfl | exact absurd h (by decide)

theorem Disposition.text_inj : Function.Injective Disposition.text := by
  intro a b h
  cases a <;> cases b <;> first | rfl | exact absurd h (by decide)

theorem OnStepFailure.text_inj : Function.Injective OnStepFailure.text := by
  intro a b h
  cases a <;> cases b <;> first | rfl | exact absurd h (by decide)

/-- Optional properties that are alike are equal, where no value is alike `undefined`. -/
theorem optional_inj {α : Type} {value : α → Value} {o o' : Optional α}
    (hinj : ∀ a b, Alike hashErrors (value a) (value b) → a = b)
    (hnull : ∀ a, ¬ Alike hashErrors (value a) .null)
    (h : Option.Rel (Alike hashErrors) (o.map fun t => ofUndefined (t.map value))
      (o'.map fun t => ofUndefined (t.map value))) : o = o' := by
  have hundefined : ∀ a, ¬ Alike hashErrors (value a) .undefined := by
    intro a hlike
    exact hnull a (by simpa [Alike] using hlike)
  cases o with
  | none =>
    cases o' with
    | none => rfl
    | some t' => cases h
  | some t =>
    cases o' with
    | none => cases h
    | some t' =>
      cases h with
      | some h =>
      cases t with
      | none =>
        cases t' with
        | none => rfl
        | some b => exact absurd h.symm (hundefined b)
      | some a =>
        cases t' with
        | none => exact absurd h (hundefined a)
        | some b => rw [hinj a b h]

theorem optionalText_inj {o o' : Optional String}
    (h : Option.Rel (Alike hashErrors) (optionalText o) (optionalText o')) : o = o' :=
  optional_inj (fun _ _ => alike_str.mp) str_not_null h

theorem optionalInt_inj {o o' : Optional Int}
    (h : Option.Rel (Alike hashErrors) (optionalInt o) (optionalInt o')) : o = o' :=
  optional_inj (fun _ _ => alike_int.mp) int_not_null h

theorem effect_inj (e f : ExpectedEffect) (h : Alike hashErrors e.value f.value) : e = f := by
  have hfields := alike_record h rfl (by simp) (by simp)
  simp only [List.forall₂_cons, List.forall₂_nil_left_iff, Option.rel_some_some, alike_str,
    alike_int] at hfields
  obtain ⟨hkind, hchain, htoken, hamount, hparty, _⟩ := hfields
  cases e
  cases f
  rw [ExpectedEffect.mk.injEq]
  exact ⟨EffectKind.text_inj hkind, hchain, optionalText_inj htoken, optionalText_inj hamount,
    optionalText_inj hparty⟩

theorem precondition_inj (c d : Precondition) (h : Alike hashErrors c.value d.value) : c = d := by
  have hfields := alike_record h rfl (by simp) (by simp)
  simp only [List.forall₂_cons, List.forall₂_nil_left_iff, Option.rel_some_some, alike_str] at hfields
  obtain ⟨hkind, hstep, htoken, hamount, hseconds, _⟩ := hfields
  cases c
  cases d
  rw [Precondition.mk.injEq]
  exact ⟨PreconditionKind.text_inj hkind, optionalText_inj hstep, optionalText_inj htoken,
    optionalText_inj hamount, optionalInt_inj hseconds⟩

theorem invariant_inj (i j : PlanInvariant) (h : Alike hashErrors i.value j.value) : i = j := by
  have hfields := alike_record h rfl (by simp) (by simp)
  simp only [List.forall₂_cons, List.forall₂_nil_left_iff, Option.rel_some_some, alike_str] at hfields
  cases i
  cases j
  rw [PlanInvariant.mk.injEq]
  exact ⟨hfields.1, hfields.2.1⟩

theorem agrees_of_stepIdentity (s t : PlanStep)
    (h : Alike hashErrors (stepIdentity s) (stepIdentity t)) : StepAgrees s t := by
  have hfields := alike_record h rfl (by simp) (by simp)
  simp only [List.forall₂_cons, List.forall₂_nil_left_iff, Option.rel_some_some, alike_str,
    alike_int] at hfields
  obtain ⟨hid, hchain, hadapter, hversion, haction, hintent, hdeps, hpre, heffects, htimeout, hauth,
    _⟩ := hfields
  have hauth' := alike_record hauth rfl (by simp) (by simp)
  simp only [List.forall₂_cons, List.forall₂_nil_left_iff, Option.rel_some_some, alike_str] at hauth'
  obtain ⟨hdisposition, hvalue, _⟩ := hauth'
  refine ⟨?_, hintent⟩
  have hrequirement : { s.authorizationRequirement with
      capabilityScope := t.authorizationRequirement.capabilityScope } = t.authorizationRequirement := by
    rw [AuthorizationRequirement.mk.injEq]
    exact ⟨Disposition.text_inj hdisposition,
      nullableInt_inj hvalue, rfl⟩
  cases s
  cases t
  simp only [PlanStep.mk.injEq, and_true, true_and]
  exact ⟨hid, hchain, hadapter, hversion, haction, alike_items (fun _ _ => alike_str.mp) hdeps,
    alike_items precondition_inj hpre, alike_items effect_inj heffects, htimeout, hrequirement⟩

theorem agrees_of_planIdentity (p q : ExecutionPlan)
    (h : Alike hashErrors (planIdentity p) (planIdentity q)) : PlanAgrees p q := by
  have hfields := alike_record h rfl (by simp) (by simp)
  simp only [List.forall₂_cons, List.forall₂_nil_left_iff, Option.rel_some_some, alike_str,
    alike_int] at hfields
  obtain ⟨_, hid, hrevision, hstrategy, horganization, hsource, hinvariants, htimeout, hfailure,
    hcompletion, hsteps, _⟩ := hfields
  have htimeout' := alike_record htimeout rfl (by simp) (by simp)
  have hfailure' := alike_record hfailure rfl (by simp) (by simp)
  have hcompletion' := alike_record hcompletion rfl (by simp) (by simp)
  simp only [List.forall₂_cons, List.forall₂_nil_left_iff, Option.rel_some_some, alike_str, alike_int,
    alike_bool] at htimeout' hfailure' hcompletion'
  have hsteps' := alike_arr hsteps
  rw [List.forall₂_map_left_iff, List.forall₂_map_right_iff] at hsteps'
  refine ⟨?_, hsteps'.imp agrees_of_stepIdentity⟩
  have htimeoutPolicy : p.timeoutPolicy = q.timeoutPolicy := by
    rw [TimeoutPolicy.mk.injEq]
    exact ⟨htimeout'.1, htimeout'.2.1⟩
  have hfailurePolicy : p.failurePolicy = q.failurePolicy := by
    rw [FailurePolicy.mk.injEq]
    exact ⟨OnStepFailure.text_inj hfailure'.1, hfailure'.2.1, hfailure'.2.2.1⟩
  have hcompletionPolicy : p.completionPolicy = q.completionPolicy := by
    rw [CompletionPolicy.mk.injEq]
    exact alike_items (fun _ _ => alike_str.mp) hcompletion'.1
  have horganizationId : p.organizationId = q.organizationId :=
    nullableText_inj horganization
  cases p
  cases q
  simp only [ExecutionPlan.mk.injEq, and_true, true_and]
  exact ⟨hid, hrevision, hstrategy, horganizationId, hsource,
    alike_items invariant_inj hinvariants, htimeoutPolicy, hfailurePolicy, hcompletionPolicy⟩

/-! ## 5. Scopes -/

theorem planHash_ok {p : ExecutionPlan} {hash : String} (h : planHash p = .ok hash) :
    ∃ text, planText p = .ok text ∧ hash = hashText text := by
  unfold planHash at h
  cases htext : planText p with
  | error e =>
    rw [htext] at h
    cases h
  | ok text =>
    rw [htext] at h
    cases h
    exact ⟨text, rfl, rfl⟩

theorem stepText_ok {p : ExecutionPlan} {stepId text : String} (h : stepText p stepId = .ok text) :
    ∃ step hash, findStep p stepId = some step ∧ planHash p = .ok hash ∧
      canonicalize (stepHashInput hash stepId step) = .ok text := by
  unfold stepText at h
  cases hstep : findStep p stepId with
  | none =>
    rw [hstep] at h
    cases h
  | some step =>
    cases hhash : planHash p with
    | error e =>
      rw [hstep, hhash] at h
      cases h
    | ok hash =>
      rw [hstep, hhash] at h
      exact ⟨step, hash, rfl, rfl, h⟩

theorem capabilityScopeFor_ok {p : ExecutionPlan} {stepId scope : String}
    (h : capabilityScopeFor p stepId = .ok scope) :
    ∃ text front, stepText p stepId = .ok text ∧ scope = front ++ hashText text := by
  unfold capabilityScopeFor at h
  cases hstep : findStep p stepId with
  | none =>
    rw [hstep] at h
    cases h
  | some step =>
    cases hhash : planHash p with
    | error e =>
      rw [hstep, hhash] at h
      cases h
    | ok hash =>
      cases htext : stepText p stepId with
      | error e =>
        rw [hstep, hhash] at h
        simp only [stepHash, htext] at h
        cases h
      | ok text =>
        rw [hstep, hhash] at h
        simp only [stepHash, htext] at h
        cases h
        exact ⟨text, _, rfl, rfl⟩

theorem length_hashText (text : String) : (hashText text).toList.length = 66 := by
  simp [hashText, hex32, hexText, length_hexDigits]

theorem hashText_inj {s t : String} (hno : Evm.NoCollision (Evm.textBytes s) (Evm.textBytes t))
    (h : hashText s = hashText t) : s = t :=
  Evm.textBytes_inj (hno (hex32_inj h))

theorem hashText_of_append {s t front back : String}
    (h : front ++ hashText s = back ++ hashText t) : hashText s = hashText t := by
  have hlists := congrArg String.toList h
  rw [String.toList_append, String.toList_append] at hlists
  exact String.toList_inj.mp
    (List.append_inj' hlists (by rw [length_hashText, length_hashText])).2

theorem exists_scope {p : ExecutionPlan} {stepId text : String} {step : PlanStep}
    (htext : planText p = .ok text) (hstep : findStep p stepId = some step) :
    ∃ scope, capabilityScopeFor p stepId = .ok scope := by
  obtain ⟨c, hc⟩ : ∃ c, walk hashErrors (planIdentity p) = .ok c := by
    unfold planText canonicalize canonicalText at htext
    cases hwalk : walk hashErrors (planIdentity p) with
    | error e =>
      rw [hwalk] at htext
      cases htext
    | ok c => exact ⟨c, rfl⟩
  obtain ⟨steps, hsteps⟩ := (walk_obj_ok hc).1 "steps" (.arr (p.steps.map stepIdentity))
    (mem_record.mpr (by simp))
  obtain ⟨d, hd⟩ := walk_arr_ok hsteps (stepIdentity step)
    (List.mem_map_of_mem (List.mem_of_find?_eq_some hstep))
  have hhash : planHash p = .ok (hashText text) := by rw [planHash, htext, Except.map]
  obtain ⟨e, he⟩ : ∃ e, walk hashErrors (stepHashInput (hashText text) stepId step) = .ok e := by
    refine exists_walk_record fun k v hv => ?_
    simp only [List.mem_cons, Prod.mk.injEq, Option.some.injEq, List.not_mem_nil, or_false] at hv
    obtain ⟨_, rfl⟩ | ⟨_, rfl⟩ | ⟨_, rfl⟩ := hv
    · exact ⟨_, walk_str _⟩
    · exact ⟨_, walk_str _⟩
    · exact ⟨d, hd⟩
  have hinput : stepText p stepId = .ok (String.ofList e.text) := by
    rw [stepText, hstep, hhash]
    simp only [canonicalize, canonicalText, he, Except.map]
  have hstepHash : stepHash p stepId = .ok (hashText (String.ofList e.text)) := by
    rw [stepHash, hinput, Except.map]
  unfold capabilityScopeFor
  rw [hstep, hhash, hstepHash]
  exact ⟨_, rfl⟩

/-- **Equal scopes are scopes of one step of plans that agree.** -/
theorem capabilityScopeFor_inj {p q : ExecutionPlan} {a b scope : String}
    (hplans : ∀ s t, planText p = .ok s → planText q = .ok t →
      Evm.NoCollision (Evm.textBytes s) (Evm.textBytes t))
    (hsteps : ∀ s t, stepText p a = .ok s → stepText q b = .ok t →
      Evm.NoCollision (Evm.textBytes s) (Evm.textBytes t))
    (hp : capabilityScopeFor p a = .ok scope) (hq : capabilityScopeFor q b = .ok scope) :
    a = b ∧ PlanAgrees p q := by
  obtain ⟨s, front, hs, hscope⟩ := capabilityScopeFor_ok hp
  obtain ⟨t, back, ht, hscope'⟩ := capabilityScopeFor_ok hq
  have htexts : s = t := hashText_inj (hsteps s t hs ht) (hashText_of_append (hscope ▸ hscope'))
  obtain ⟨step, hash, _, hhash, hinput⟩ := stepText_ok hs
  obtain ⟨step', hash', _, hhash', hinput'⟩ := stepText_ok ht
  rw [← htexts] at hinput'
  have halike : Alike hashErrors (stepHashInput hash a step) (stepHashInput hash' b step') :=
    alike_of_text hinput hinput'
  have hfields := alike_record halike rfl (by simp) (by simp)
  simp only [List.forall₂_cons, List.forall₂_nil_left_iff, Option.rel_some_some, alike_str] at hfields
  obtain ⟨hhashes, hids, _⟩ := hfields
  obtain ⟨u, hu, rfl⟩ := planHash_ok hhash
  obtain ⟨v, hv, rfl⟩ := planHash_ok hhash'
  have hplan : u = v := hashText_inj (hplans u v hu hv) hhashes
  exact ⟨hids, agrees_of_planIdentity p q (alike_of_text hu (hplan ▸ hv))⟩

end ContextLock.Plan
