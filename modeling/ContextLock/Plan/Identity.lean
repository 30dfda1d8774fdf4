/-
  Subject:   What the hash of a plan covers, for a plan of any JSON data.

  The identity of a plan leaves out its state, the status of its steps and the scopes minted for
  them, and keeps every other field, known or not, at every depth. The canonical text of it is made
  by assignments, which make no field called `__proto__`.
-/
import ContextLock.Js.Address
import ContextLock.Js.KeyOrder
import ContextLock.Plan.Hash

namespace ContextLock.Plan.Raw

open Js

/-! ## 1. Identities -/

/-- `const { …names, ...rest } = record`. -/
def without (names : List String) (fields : List (String × Value)) : List (String × Value) :=
  fields.filter fun f => f.1 ∉ names

/-- `stepIdentity(step)`, of a step whose requirement is an object. -/
def stepIdentity : Value → Option Value
  | .obj step =>
    match step.lookup "authorizationRequirement" with
    | some (.obj authorizationRequirement) =>
      some (.obj (without ["status", "authorizationRequirement"] step ++
        [("authorizationRequirement", .obj (without ["capabilityScope"] authorizationRequirement))]))
    | _ => none
  | _ => none

/-- `planIdentity(plan)`, of a plan whose steps are such a list. -/
def planIdentity : Value → Option Value
  | .obj plan =>
    match plan.lookup "steps" with
    | some (.arr steps) =>
      (steps.mapM stepIdentity).map fun identities =>
        .obj (without ["state", "steps"] plan ++ [("steps", .arr identities)])
    | _ => none
  | _ => none

def planText (plan : Value) : Option (Except String String) := (planIdentity plan).map canonicalize

/-- `planHash(plan)`. -/
def planHash (plan : Value) : Option (Except String String) :=
  (planText plan).map fun text => text.map hashText

/-! ## 2. Agreement -/

/-- The objects are the same data, but for some of the names. -/
structure AgreeBut (keep : String → Bool) (names : List String) (fs gs : List (String × Value)) :
    Prop where
  keys : ∀ k, keep k = true → k ∉ names → (k ∈ fs.map Prod.fst ↔ k ∈ gs.map Prod.fst)
  values : ∀ k v w, keep k = true → k ∉ names → (k, v) ∈ fs → (k, w) ∈ gs → SameData keep v w

/-- The steps agree on all but the status and the minted scope. -/
inductive StepAgrees (keep : String → Bool) : Value → Value → Prop where
  | mk {s t a b : List (String × Value)}
      (hs : s.lookup "authorizationRequirement" = some (.obj a))
      (ht : t.lookup "authorizationRequirement" = some (.obj b))
      (rest : AgreeBut keep ["status", "authorizationRequirement"] s t)
      (auth : AgreeBut keep ["capabilityScope"] a b) : StepAgrees keep (.obj s) (.obj t)

/-- The plans agree on all but the state, up to their steps. -/
inductive PlanAgrees (keep : String → Bool) : Value → Value → Prop where
  | mk {p q : List (String × Value)} {ss ts : List Value}
      (hp : p.lookup "steps" = some (.arr ss)) (hq : q.lookup "steps" = some (.arr ts))
      (rest : AgreeBut keep ["state", "steps"] p q)
      (steps : List.Forall₂ (StepAgrees keep) ss ts) : PlanAgrees keep (.obj p) (.obj q)

/-- A plan of JSON data, whose steps and requirements are where the schema asks for them. -/
structure Readable (plan : Value) : Prop where
  data : Data plan
  identity : ∃ i, planIdentity plan = some i

section Agreement

variable {keep : String → Bool} {names : List String} {fs gs as bs : List (String × Value)}

theorem mem_without {k : String} {v : Value} :
    (k, v) ∈ without names fs ↔ (k, v) ∈ fs ∧ k ∉ names := by
  rw [without, List.mem_filter, decide_eq_true_eq]

theorem mem_keys {k : String} : k ∈ fs.map Prod.fst ↔ ∃ v, (k, v) ∈ fs := by
  constructor
  · intro h
    obtain ⟨f, hf, rfl⟩ := List.mem_map.mp h
    exact ⟨f.2, hf⟩
  · rintro ⟨v, hv⟩
    exact List.mem_map.mpr ⟨(k, v), hv, rfl⟩

theorem sameData_obj : SameData keep (.obj fs) (.obj gs) ↔
    (∀ k, keep k = true → (k ∈ fs.map Prod.fst ↔ k ∈ gs.map Prod.fst)) ∧
      ∀ k v w, keep k = true → (k, v) ∈ fs → (k, w) ∈ gs → SameData keep v w := by
  constructor
  · intro h
    cases h with
    | obj hkeys h => exact ⟨hkeys, h⟩
  · rintro ⟨hkeys, h⟩
    exact .obj hkeys h

theorem mem_keys_without {k : String} :
    k ∈ (without names fs).map Prod.fst ↔ k ∈ fs.map Prod.fst ∧ k ∉ names := by
  rw [mem_keys, mem_keys]
  constructor
  · rintro ⟨v, hv⟩
    obtain ⟨hmem, hk⟩ := mem_without.mp hv
    exact ⟨⟨v, hmem⟩, hk⟩
  · rintro ⟨⟨v, hv⟩, hk⟩
    exact ⟨v, mem_without.mpr ⟨hv, hk⟩⟩

theorem sameData_without :
    SameData keep (.obj (without names fs)) (.obj (without names gs)) ↔ AgreeBut keep names fs gs := by
  rw [sameData_obj]
  constructor
  · rintro ⟨hkeys, h⟩
    refine ⟨fun k hk hname => ?_, fun k v w hk hname hv hw =>
      h k v w hk (mem_without.mpr ⟨hv, hname⟩) (mem_without.mpr ⟨hw, hname⟩)⟩
    have hboth := hkeys k hk
    rw [mem_keys_without, mem_keys_without] at hboth
    simpa [hname] using hboth
  · intro h
    refine ⟨fun k hk => ?_, fun k v w hk hv hw => ?_⟩
    · rw [mem_keys_without, mem_keys_without]
      exact and_congr_left fun hname => h.keys k hk hname
    · obtain ⟨hv, hname⟩ := mem_without.mp hv
      exact h.values k v w hk hname hv (mem_without.mp hw).1

theorem sameData_put {k : String} {v w : Value} (hk : keep k = true) (hname : k ∈ names) :
    SameData keep (.obj (without names fs ++ [(k, v)])) (.obj (without names gs ++ [(k, w)])) ↔
      AgreeBut keep names fs gs ∧ SameData keep v w := by
  have hfresh {hs : List (String × Value)} {u : Value} : (k, u) ∉ without names hs := fun hmem =>
    (mem_without.mp hmem).2 hname
  have hcons {hs : List (String × Value)} {x u : Value} {j : String} :
      (j, u) ∈ without names hs ++ [(k, x)] ↔ (j, u) ∈ without names hs ∨ (j = k ∧ u = x) := by
    rw [List.mem_append, List.mem_singleton, Prod.mk.injEq]
  rw [← sameData_without, sameData_obj, sameData_obj]
  constructor
  · rintro ⟨hkeys, h⟩
    refine ⟨⟨fun j hj => ?_, fun j u x hj hu hx => h j u x hj (hcons.mpr (.inl hu)) (hcons.mpr (.inl hx))⟩,
      h k v w hk (hcons.mpr (.inr ⟨rfl, rfl⟩)) (hcons.mpr (.inr ⟨rfl, rfl⟩))⟩
    have hboth := hkeys j hj
    rw [List.map_append, List.map_append, List.mem_append, List.mem_append, List.map_singleton,
      List.map_singleton, List.mem_singleton] at hboth
    by_cases heq : j = k
    · have hnone {hs : List (String × Value)} : j ∉ (without names hs).map Prod.fst := fun hmem =>
        (mem_keys_without.mp hmem).2 (heq ▸ hname)
      exact ⟨fun hmem => absurd hmem hnone, fun hmem => absurd hmem hnone⟩
    · simpa [heq] using hboth
  · rintro ⟨⟨hkeys, h⟩, hv⟩
    refine ⟨fun j hj => ?_, fun j u x hj hu hx => ?_⟩
    · rw [List.map_append, List.map_append, List.mem_append, List.mem_append]
      exact or_congr_left (hkeys j hj)
    · rcases hcons.mp hu with hold | ⟨rfl, rfl⟩
      · rcases hcons.mp hx with hold' | ⟨rfl, _⟩
        · exact h j u x hj hold hold'
        · exact absurd hold hfresh
      · rcases hcons.mp hx with hold' | ⟨_, rfl⟩
        · exact absurd hold' hfresh
        · exact hv

end Agreement

/-! ## 3. Identities of plans that agree -/

section Identities

variable {keep : String → Bool}

theorem stepIdentity_eq_some {step i : Value} (h : stepIdentity step = some i) :
    ∃ s a, step = .obj s ∧ s.lookup "authorizationRequirement" = some (.obj a) ∧
      i = .obj (without ["status", "authorizationRequirement"] s ++
        [("authorizationRequirement", .obj (without ["capabilityScope"] a))]) := by
  unfold stepIdentity at h
  split at h
  · split at h
    · rename_i hauth
      exact ⟨_, _, rfl, hauth, (Option.some.inj h).symm⟩
    · cases h
  · cases h

theorem planIdentity_eq_some {plan i : Value} (h : planIdentity plan = some i) :
    ∃ p steps is, plan = .obj p ∧ p.lookup "steps" = some (.arr steps) ∧
      List.Forall₂ (fun s i => stepIdentity s = some i) steps is ∧
      i = .obj (without ["state", "steps"] p ++ [("steps", .arr is)]) := by
  unfold planIdentity at h
  split at h
  · split at h
    · rename_i steps hsteps
      obtain ⟨is, his, rfl⟩ := Option.map_eq_some_iff.mp h
      exact ⟨_, steps, is, rfl, hsteps, mapM_eq_some_iff.mp his, rfl⟩
    · cases h
  · cases h

theorem sameData_stepIdentity (hauth : keep "authorizationRequirement" = true) {s t i j : Value}
    (hi : stepIdentity s = some i) (hj : stepIdentity t = some j) :
    SameData keep i j ↔ StepAgrees keep s t := by
  obtain ⟨fs, as, rfl, hs, rfl⟩ := stepIdentity_eq_some hi
  obtain ⟨gs, bs, rfl, ht, rfl⟩ := stepIdentity_eq_some hj
  rw [sameData_put hauth (by decide), sameData_without]
  constructor
  · rintro ⟨hrest, hinner⟩
    exact .mk hs ht hrest hinner
  · intro h
    cases h with
    | mk hs' ht' hrest hinner =>
      obtain rfl := Value.obj.inj (Option.some.inj (hs.symm.trans hs'))
      obtain rfl := Value.obj.inj (Option.some.inj (ht.symm.trans ht'))
      exact ⟨hrest, hinner⟩

theorem sameData_arr {vs ws : List Value} :
    SameData keep (.arr vs) (.arr ws) ↔ List.Forall₂ (SameData keep) vs ws := by
  rw [List.forall₂_iff_get]
  constructor
  · intro h
    cases h with
    | arr hlength h =>
      exact ⟨hlength, fun i hi hi' => h i _ _ (List.getElem?_eq_getElem hi)
        (List.getElem?_eq_getElem hi')⟩
  · rintro ⟨hlength, h⟩
    refine .arr hlength fun i v w hv hw => ?_
    obtain ⟨hi, rfl⟩ := List.getElem?_eq_some_iff.mp hv
    obtain ⟨hi', rfl⟩ := List.getElem?_eq_some_iff.mp hw
    exact h i hi hi'

/-- Related lists, whose members are read one by one. -/
theorem forall₂_read {α β : Type} {R : β → β → Prop} {S : α → α → Prop} {read : α → Option β}
    (h : ∀ a b i j, read a = some i → read b = some j → (R i j ↔ S a b)) {as bs : List α}
    {is js : List β} (has : List.Forall₂ (fun a i => read a = some i) as is)
    (hbs : List.Forall₂ (fun b j => read b = some j) bs js) :
    List.Forall₂ R is js ↔ List.Forall₂ S as bs := by
  induction has generalizing bs js with
  | nil =>
    cases hbs with
    | nil => simp
    | cons _ _ => simp
  | cons ha _ ih =>
    cases hbs with
    | nil => simp
    | cons hb hrest => rw [List.forall₂_cons, List.forall₂_cons, h _ _ _ _ ha hb, ih hrest]

/-- **Identities are the same data where the plans agree.** -/
theorem sameData_identity (hauth : keep "authorizationRequirement" = true)
    (hsteps : keep "steps" = true) {p q i j : Value} (hi : planIdentity p = some i)
    (hj : planIdentity q = some j) : SameData keep i j ↔ PlanAgrees keep p q := by
  obtain ⟨fs, ss, is, rfl, hp, his, rfl⟩ := planIdentity_eq_some hi
  obtain ⟨gs, ts, js, rfl, hq, hjs, rfl⟩ := planIdentity_eq_some hj
  rw [sameData_put hsteps (by decide), sameData_arr,
    forall₂_read (fun _ _ _ _ => sameData_stepIdentity hauth) his hjs]
  constructor
  · rintro ⟨hrest, hall⟩
    exact .mk hp hq hrest hall
  · intro h
    cases h with
    | mk hp' hq' hrest hall =>
      obtain rfl := Value.arr.inj (Option.some.inj (hp.symm.trans hp'))
      obtain rfl := Value.arr.inj (Option.some.inj (hq.symm.trans hq'))
      exact ⟨hrest, hall⟩

end Identities

/-! ## 4. The hash -/

theorem data_put {names : List String} {fs : List (String × Value)} {k : String} {v : Value}
    (h : Data (.obj fs)) (hk : k ∈ names) (hv : Data v) :
    Data (.obj (without names fs ++ [(k, v)])) := by
  cases h with
  | obj hfs distinct =>
    refine .obj (fun f hf => ?_) ?_
    · rcases List.mem_append.mp hf with hold | hlast
      · exact hfs f (mem_without.mp hold).1
      · rw [List.mem_singleton.mp hlast]
        exact hv
    · rw [List.map_append, List.map_singleton, List.nodup_append]
      refine ⟨nodup_filter_keys distinct fun j => j ∉ names, List.nodup_singleton _,
        fun j hj l hl => ?_⟩
      rw [List.mem_singleton.mp hl]
      rintro rfl
      exact (mem_keys_without.mp hj).2 hk

theorem data_stepIdentity {s i : Value} (hs : Data s) (hi : stepIdentity s = some i) : Data i := by
  obtain ⟨fs, as, rfl, hauth, rfl⟩ := stepIdentity_eq_some hi
  refine data_put hs (by decide) ?_
  cases hs with
  | obj hfs _ =>
    cases hfs _ (mem_of_lookup hauth) with
    | obj has distinct =>
      exact .obj (fun f hf => has f (mem_without.mp hf).1) 
        (nodup_filter_keys distinct fun j => decide (j ∉ ["capabilityScope"]))

theorem data_identity {p i : Value} (hp : Data p) (hi : planIdentity p = some i) : Data i := by
  obtain ⟨fs, ss, is, rfl, hsteps, his, rfl⟩ := planIdentity_eq_some hi
  refine data_put hp (by decide) (.arr fun c hc => ?_)
  clear hi
  cases hp with
  | obj hfs _ =>
    cases hfs _ (mem_of_lookup hsteps) with
    | arr hss =>
      clear hsteps hfs
      induction his with
      | nil => cases hc
      | cons hstep _ ih =>
        obtain ⟨hs, hrest⟩ := List.forall_mem_cons.mp hss
        rcases List.mem_cons.mp hc with rfl | hmem
        · exact data_stepIdentity hs hstep
        · exact ih hmem hrest

theorem planText_data {p i : Value} (hp : Data p) (hi : planIdentity p = some i) :
    planText p = some (.ok (String.ofList (sortedForm ownKey i).text)) := by
  rw [planText, hi, Option.map_some, canonicalize, canonicalText, walk_data (data_identity hp hi)]
  rfl

/-- **Plans have one hash exactly where they agree** up to fields called `__proto__`. -/
theorem planHash_eq_iff {p q : Value} (hp : Readable p) (hq : Readable q)
    (hcollision : ∀ s t, planText p = some (.ok s) → planText q = some (.ok t) →
      Evm.NoCollision (Evm.textBytes s) (Evm.textBytes t)) :
    planHash p = planHash q ↔ PlanAgrees ownKey p q := by
  obtain ⟨i, hi⟩ := hp.identity
  obtain ⟨j, hj⟩ := hq.identity
  have htext := planText_data hp.data hi
  have htext' := planText_data hq.data hj
  rw [← sameData_identity (by decide) (by decide) hi hj,
    ← sortedForm_eq_iff (data_identity hp.data hi) (data_identity hq.data hj), planHash, planHash,
    htext, htext', Option.map_some, Option.map_some, Option.some.injEq]
  constructor
  · intro h
    have hhash := Except.ok.inj h
    exact Canonical.text_inj (String.ofList_injective
      (hashText_inj (hcollision _ _ htext htext') hhash))
  · intro h
    rw [h]

theorem AgreeBut.mono {keep keep' : String → Bool} (hkeep : ∀ k, keep' k = true → keep k = true)
    {names : List String} {fs gs : List (String × Value)} (h : AgreeBut keep names fs gs) :
    AgreeBut keep' names fs gs where
  keys := fun k hk => h.keys k (hkeep k hk)
  values := fun k v w hk hname hv hw => (h.values k v w (hkeep k hk) hname hv hw).mono hkeep

theorem PlanAgrees.mono {keep keep' : String → Bool} (hkeep : ∀ k, keep' k = true → keep k = true)
    {p q : Value} (h : PlanAgrees keep p q) : PlanAgrees keep' p q := by
  cases h with
  | mk hp hq hrest hsteps =>
    refine .mk hp hq (hrest.mono hkeep) (hsteps.imp fun s t hst => ?_)
    cases hst with
    | mk hs ht hrest hauth => exact .mk hs ht (hrest.mono hkeep) (hauth.mono hkeep)

/-- **The hash covers everything but the state, the statuses and the scopes, exactly where fields
    called `__proto__` make no difference.** -/
theorem planHash_covers {p q : Value} (hp : Readable p) (hq : Readable q)
    (hcollision : ∀ s t, planText p = some (.ok s) → planText q = some (.ok t) →
      Evm.NoCollision (Evm.textBytes s) (Evm.textBytes t)) :
    (planHash p = planHash q ↔ PlanAgrees everyKey p q) ↔
      (PlanAgrees ownKey p q → PlanAgrees everyKey p q) := by
  rw [planHash_eq_iff hp hq hcollision]
  exact ⟨fun h => h.mp, fun h => ⟨h, fun hall => hall.mono fun _ _ => rfl⟩⟩

/-! ## 5. Typed plans -/

def statusText : PlanStepStatus → String
  | .PENDING => "PENDING"
  | .AUTHORIZED => "AUTHORIZED"
  | .SUBMITTED => "SUBMITTED"
  | .CONFIRMED => "CONFIRMED"
  | .WAITING_EXTERNAL => "WAITING_EXTERNAL"
  | .FAILED => "FAILED"
  | .TIMED_OUT => "TIMED_OUT"
  | .SKIPPED => "SKIPPED"

def stateText : PlanState → String
  | .DRAFT => "DRAFT"
  | .VALIDATED => "VALIDATED"
  | .AWAITING_AUTHORIZATION => "AWAITING_AUTHORIZATION"
  | .READY => "READY"
  | .STEP_PENDING => "STEP_PENDING"
  | .STEP_SUBMITTED => "STEP_SUBMITTED"
  | .STEP_CONFIRMED => "STEP_CONFIRMED"
  | .WAITING_EXTERNAL => "WAITING_EXTERNAL"
  | .STEP_FAILED => "STEP_FAILED"
  | .TIMED_OUT => "TIMED_OUT"
  | .PARTIAL => "PARTIAL"
  | .COMPLETED => "COMPLETED"
  | .ABORTED => "ABORTED"

def stepValue (s : PlanStep) : Value :=
  record
    [("stepId", some (.str s.stepId)), ("chainId", some (.int s.chainId)),
     ("adapterId", some (.str s.adapterId)), ("adapterVersion", some (.str s.adapterVersion)),
     ("action", some (.str s.action)), ("normalizedIntent", some (.obj s.normalizedIntent)),
     ("dependencies", some (.arr (s.dependencies.map .str))),
     ("preconditions", some (.arr (s.preconditions.map Precondition.value))),
     ("expectedEffects", some (.arr (s.expectedEffects.map ExpectedEffect.value))),
     ("timeoutMs", some (.int s.timeoutMs)),
     ("authorizationRequirement", some (record
       [("disposition", some (.str s.authorizationRequirement.disposition.text)),
        ("valueUsdCents", some (ofNull (s.authorizationRequirement.valueUsdCents.map .int))),
        ("capabilityScope", some (ofNull (s.authorizationRequirement.capabilityScope.map .str)))])),
     ("status", some (.str (statusText s.status)))]

def planValue (p : ExecutionPlan) : Value :=
  record
    [("schemaVersion", some (.str EXECUTION_PLAN_VERSION)), ("planId", some (.str p.planId)),
     ("revision", some (.int p.revision)), ("strategyId", some (.str p.strategyId)),
     ("organizationId", some (ofNull (p.organizationId.map .str))),
     ("sourceChainId", some (.int p.sourceChainId)),
     ("steps", some (.arr (p.steps.map stepValue))),
     ("invariants", some (.arr (p.invariants.map PlanInvariant.value))),
     ("timeoutPolicy", some p.timeoutPolicy.value), ("failurePolicy", some p.failurePolicy.value),
     ("completionPolicy", some p.completionPolicy.value),
     ("state", some (.str (stateText p.state)))]

theorem stepIdentity_value (s : PlanStep) :
    stepIdentity (stepValue s) = some (Plan.stepIdentity s) := by
  rfl

theorem planIdentity_value (p : ExecutionPlan) :
    planIdentity (planValue p) = some (Plan.planIdentity p) := by
  have hsteps : (p.steps.map stepValue).mapM stepIdentity = some (p.steps.map Plan.stepIdentity) := by
    rw [mapM_eq_some_iff, List.forall₂_map_left_iff, List.forall₂_map_right_iff]
    exact List.forall₂_same.mpr fun s _ => stepIdentity_value s
  have hread : planIdentity (planValue p) =
      ((p.steps.map stepValue).mapM stepIdentity).map fun identities =>
        .obj (without ["state", "steps"] [("schemaVersion", .str EXECUTION_PLAN_VERSION),
          ("planId", .str p.planId), ("revision", .int p.revision), ("strategyId", .str p.strategyId),
          ("organizationId", ofNull (p.organizationId.map .str)),
          ("sourceChainId", .int p.sourceChainId), ("steps", .arr (p.steps.map stepValue)),
          ("invariants", .arr (p.invariants.map PlanInvariant.value)),
          ("timeoutPolicy", p.timeoutPolicy.value), ("failurePolicy", p.failurePolicy.value),
          ("completionPolicy", p.completionPolicy.value), ("state", .str (stateText p.state))] ++
          [("steps", .arr identities)]) := rfl
  rw [hread, hsteps, Option.map_some]
  rfl

/-! ## 6. An intent with a field called `__proto__` -/

def memoStep (memo : List (String × Value)) : PlanStep where
  stepId := "send-1"
  chainId := 1
  adapterId := "transfer"
  adapterVersion := "1.0.0"
  action := "send"
  normalizedIntent := [("memo", .obj memo)]
  dependencies := []
  preconditions := []
  expectedEffects := []
  timeoutMs := 1000
  authorizationRequirement := ⟨.AUTONOMOUS, some 100, none⟩
  status := .PENDING

def memoPlan (memo : List (String × Value)) : ExecutionPlan where
  planId := "plan-1"
  revision := 1
  strategyId := "strategy-1"
  organizationId := none
  sourceChainId := 1
  steps := [memoStep memo]
  invariants := []
  timeoutPolicy := ⟨1000, 1000⟩
  failurePolicy := ⟨.HOLD_AND_ESCALATE, 0, false⟩
  completionPolicy := ⟨["send-1"]⟩
  state := .DRAFT

/-- The plan whose memo is empty, and the one whose memo has a field called `__proto__`. -/
def emptyMemo : Value := planValue (memoPlan [])

def protoMemo : Value := planValue (memoPlan [("__proto__", .int 1)])

theorem readable_memos : Readable emptyMemo ∧ Readable protoMemo :=
  ⟨⟨data_of_isData (by decide), _, planIdentity_value _⟩,
    ⟨data_of_isData (by decide), _, planIdentity_value _⟩⟩

theorem text_of_memos : planText emptyMemo = planText protoMemo := by
  rw [planText_data readable_memos.1.data (planIdentity_value _),
    planText_data readable_memos.2.data (planIdentity_value _)]
  have htext : (sortedForm ownKey (Plan.planIdentity (memoPlan []))).text =
      (sortedForm ownKey (Plan.planIdentity (memoPlan [("__proto__", .int 1)]))).text := by
    decide +kernel
  rw [htext]

theorem memos_disagree : ¬ PlanAgrees everyKey emptyMemo protoMemo := by
  intro h
  have hsame := (sameData_identity (by decide) (by decide) (planIdentity_value (memoPlan []))
    (planIdentity_value (memoPlan [("__proto__", .int 1)]))).mpr h
  have hform := (sortedForm_eq_iff
    (data_identity readable_memos.1.data (planIdentity_value (memoPlan [])))
    (data_identity readable_memos.2.data
      (planIdentity_value (memoPlan [("__proto__", .int 1)])))).mpr hsame
  exact absurd (congrArg Canonical.text hform) (by decide +kernel)

theorem no_collision_of_memos : ∀ s t, planText emptyMemo = some (.ok s) →
    planText protoMemo = some (.ok t) → Evm.NoCollision (Evm.textBytes s) (Evm.textBytes t) := by
  intro s t hs ht _
  rw [text_of_memos, ht] at hs
  rw [Except.ok.inj (Option.some.inj hs)]

/-- **Two plans of one hash**, whose intents differ in a field called `__proto__`. -/
theorem proto_not_hashed : ¬ ∀ p q, Readable p → Readable q →
    (∀ s t, planText p = some (.ok s) → planText q = some (.ok t) →
      Evm.NoCollision (Evm.textBytes s) (Evm.textBytes t)) →
    (planHash p = planHash q ↔ PlanAgrees everyKey p q) := by
  intro hclaim
  have hiff := hclaim _ _ readable_memos.1 readable_memos.2 no_collision_of_memos
  refine memos_disagree (hiff.mp ?_)
  rw [planHash, planHash, text_of_memos]

/-- The law of the hash, at these plans. -/
theorem planHash_of_memos : (planHash emptyMemo = planHash protoMemo ↔
      PlanAgrees everyKey emptyMemo protoMemo) ↔
    (PlanAgrees ownKey emptyMemo protoMemo → PlanAgrees everyKey emptyMemo protoMemo) :=
  planHash_covers readable_memos.1 readable_memos.2 no_collision_of_memos

end ContextLock.Plan.Raw
