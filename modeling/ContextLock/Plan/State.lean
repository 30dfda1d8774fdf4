/-
  Subject:   The state of a plan, derived from the statuses of its steps.

  The state is computed, in an order of precedence: all required steps confirmed, a step failed or
  timed out, a step waiting, and so on. A step has left the origin where it moves value and is
  confirmed, or waits on another chain; only the first kind is looked at beside a failed step.
-/
import ContextLock.Plan.Machine

namespace ContextLock.Plan

/-! ## 1. The state -/

def PlanStep.movesValue (s : PlanStep) : Bool :=
  s.expectedEffects.any fun e => e.kind = .TOKEN_OUT ∨ e.kind = .MESSAGE_DELIVERED

def someStep (p : ExecutionPlan) (status : PlanStepStatus) : Bool :=
  p.steps.any (·.status = status)

def anyValueMoved (p : ExecutionPlan) : Bool :=
  p.steps.any fun s => s.status = .CONFIRMED ∧ s.movesValue

/-- `stepOf` of every id: the first unknown one is thrown. -/
def stepsOf (p : ExecutionPlan) : List String → Except PlanError (List PlanStep)
  | [] => .ok []
  | stepId :: stepIds =>
    match stepOf p stepId, stepsOf p stepIds with
    | .error e, _ => .error e
    | .ok _, .error e => .error e
    | .ok s, .ok steps => .ok (s :: steps)

def derivePlanState (p : ExecutionPlan) : Except PlanError PlanState :=
  match stepsOf p p.completionPolicy.requiredStepIds with
  | .error e => .error e
  | .ok required =>
    if required.all (·.status = .CONFIRMED) then .ok .COMPLETED
    else if someStep p .FAILED ∨ someStep p .TIMED_OUT then
      if anyValueMoved p then .ok .PARTIAL
      else if someStep p .TIMED_OUT ∧ ¬ someStep p .FAILED then .ok .TIMED_OUT
      else .ok .STEP_FAILED
    else if someStep p .WAITING_EXTERNAL then .ok .WAITING_EXTERNAL
    else if someStep p .SUBMITTED then .ok .STEP_SUBMITTED
    else if someStep p .CONFIRMED then .ok .STEP_CONFIRMED
    else if p.steps.all (·.status = .PENDING) then
      .ok (if p.state = .DRAFT then .DRAFT else .READY)
    else .ok .STEP_PENDING

/-! ## 2. What the state should say -/

def PlanStep.LeftOrigin (s : PlanStep) : Prop :=
  s.movesValue = true ∧ (s.status = .CONFIRMED ∨ s.status = .WAITING_EXTERNAL)

/-- The state reads as if nothing had happened, or as a plain failure. -/
def PlanState.readsAsNothing : PlanState → Bool
  | DRAFT | VALIDATED | AWAITING_AUTHORIZATION | READY | STEP_PENDING => true
  | STEP_FAILED | TIMED_OUT | ABORTED => true
  | STEP_SUBMITTED | STEP_CONFIRMED | WAITING_EXTERNAL | PARTIAL | COMPLETED => false

def HidesNothing (p : ExecutionPlan) : Prop :=
  (∃ s ∈ p.steps, s.LeftOrigin) → ∀ state, derivePlanState p = .ok state →
    state.readsAsNothing = false

/-- The condition: a required step is unknown, or all are confirmed; no step failed or timed out; a
    step that moves value is confirmed; or none waits on another chain. -/
def MovedIsSeen (p : ExecutionPlan) : Prop :=
  (∃ stepId ∈ p.completionPolicy.requiredStepIds, findStep p stepId = none) ∨
    (∀ stepId ∈ p.completionPolicy.requiredStepIds, confirmed p stepId = true) ∨
    (∀ s ∈ p.steps, s.status ≠ .FAILED ∧ s.status ≠ .TIMED_OUT) ∨
    (∃ s ∈ p.steps, s.status = .CONFIRMED ∧ s.movesValue = true) ∨
    ∀ s ∈ p.steps, s.movesValue = true → s.status ≠ .WAITING_EXTERNAL

/-! ## 3. Steps by their status -/

section Derived

variable {p : ExecutionPlan}

theorem someStep_iff {status : PlanStepStatus} :
    someStep p status = true ↔ ∃ s ∈ p.steps, s.status = status := by
  simp [someStep]

theorem anyValueMoved_iff :
    anyValueMoved p = true ↔ ∃ s ∈ p.steps, s.status = .CONFIRMED ∧ s.movesValue = true := by
  simp [anyValueMoved]

theorem stepsOf_error {stepIds : List String} :
    (∃ e, stepsOf p stepIds = .error e) ↔ ∃ stepId ∈ stepIds, findStep p stepId = none := by
  induction stepIds with
  | nil => simp [stepsOf]
  | cons stepId stepIds ih =>
    rw [List.exists_mem_cons_iff, ← ih, stepsOf, stepOf]
    cases hstep : findStep p stepId with
    | none => simp
    | some s => cases hrest : stepsOf p stepIds <;> simp

theorem stepsOf_ok {stepIds : List String} {required : List PlanStep}
    (h : stepsOf p stepIds = .ok required) :
    required.all (·.status = .CONFIRMED) = true ↔ ∀ stepId ∈ stepIds, confirmed p stepId = true := by
  induction stepIds generalizing required with
  | nil =>
    cases h
    simp
  | cons stepId stepIds ih =>
    unfold stepsOf stepOf at h
    cases hstep : findStep p stepId with
    | none =>
      rw [hstep] at h
      cases h
    | some s =>
      cases hrest : stepsOf p stepIds with
      | error e =>
        rw [hstep, hrest] at h
        cases h
      | ok steps =>
        rw [hstep, hrest] at h
        obtain rfl := Except.ok.inj h
        have hconfirmed : confirmed p stepId = decide (s.status = .CONFIRMED) := by
          rw [confirmed, hstep]
        rw [List.all_cons, Bool.and_eq_true, ih hrest, List.forall_mem_cons, hconfirmed]

theorem confirmed_of_none {stepId : String} (h : findStep p stepId = none) :
    confirmed p stepId = false := by
  rw [confirmed, h]

/-! ## 4. The state by cases -/

/-- **The states**: what is thrown, `COMPLETED`, the states beside a failed step, and the others. -/
theorem derivePlanState_cases (p : ExecutionPlan) :
    ((∃ stepId ∈ p.completionPolicy.requiredStepIds, findStep p stepId = none) ∧
        ∃ e, derivePlanState p = .error e) ∨
      ((∀ stepId ∈ p.completionPolicy.requiredStepIds, confirmed p stepId = true) ∧
        derivePlanState p = .ok .COMPLETED) ∨
      ((∃ stepId ∈ p.completionPolicy.requiredStepIds, confirmed p stepId = false) ∧
        (∀ stepId ∈ p.completionPolicy.requiredStepIds, findStep p stepId ≠ none) ∧
        (someStep p .FAILED = true ∨ someStep p .TIMED_OUT = true) ∧
        ((anyValueMoved p = true ∧ derivePlanState p = .ok .PARTIAL) ∨
          (anyValueMoved p = false ∧
            (derivePlanState p = .ok .TIMED_OUT ∨ derivePlanState p = .ok .STEP_FAILED)))) ∨
      ((∃ stepId ∈ p.completionPolicy.requiredStepIds, confirmed p stepId = false) ∧
        someStep p .FAILED = false ∧ someStep p .TIMED_OUT = false ∧
        ∃ state, derivePlanState p = .ok state ∧ state ≠ .COMPLETED ∧
          (someStep p .WAITING_EXTERNAL = true ∨ someStep p .CONFIRMED = true →
            state.readsAsNothing = false)) := by
  unfold derivePlanState
  cases hrequired : stepsOf p p.completionPolicy.requiredStepIds with
  | error e => exact .inl ⟨stepsOf_error.mp ⟨e, hrequired⟩, e, rfl⟩
  | ok required =>
    right
    have hknown : ∀ stepId ∈ p.completionPolicy.requiredStepIds, findStep p stepId ≠ none := by
      intro stepId hmem hnone
      obtain ⟨e, he⟩ := stepsOf_error.mpr ⟨stepId, hmem, hnone⟩
      rw [hrequired] at he
      cases he
    have hall := stepsOf_ok hrequired
    dsimp only
    by_cases hdone : required.all (·.status = .CONFIRMED) = true
    · rw [if_pos hdone]
      exact .inl ⟨hall.mp hdone, rfl⟩
    · right
      rw [if_neg hdone]
      have hopen : ∃ stepId ∈ p.completionPolicy.requiredStepIds, confirmed p stepId = false := by
        by_contra hnone
        refine hdone (hall.mpr fun stepId hmem => ?_)
        by_contra hne
        exact hnone ⟨stepId, hmem, eq_false_of_ne_true hne⟩
      by_cases hfailed : someStep p .FAILED = true ∨ someStep p .TIMED_OUT = true
      · left
        rw [if_pos hfailed]
        refine ⟨hopen, hknown, hfailed, ?_⟩
        by_cases hmoved : anyValueMoved p = true
        · rw [if_pos hmoved]
          exact .inl ⟨hmoved, rfl⟩
        · rw [if_neg hmoved]
          refine .inr ⟨eq_false_of_ne_true hmoved, ?_⟩
          by_cases htimed : someStep p .TIMED_OUT = true ∧ ¬ someStep p .FAILED = true
          · rw [if_pos htimed]
            exact .inl rfl
          · rw [if_neg htimed]
            exact .inr rfl
      · right
        rw [if_neg hfailed]
        rw [not_or] at hfailed
        refine ⟨hopen, eq_false_of_ne_true hfailed.1, eq_false_of_ne_true hfailed.2, ?_⟩
        by_cases hwaiting : someStep p .WAITING_EXTERNAL = true
        · rw [if_pos hwaiting]
          exact ⟨_, rfl, by decide, fun _ => rfl⟩
        · rw [if_neg hwaiting]
          by_cases hsubmitted : someStep p .SUBMITTED = true
          · rw [if_pos hsubmitted]
            exact ⟨_, rfl, by decide, fun _ => rfl⟩
          · rw [if_neg hsubmitted]
            by_cases hconfirmed : someStep p .CONFIRMED = true
            · rw [if_pos hconfirmed]
              exact ⟨_, rfl, by decide, fun _ => rfl⟩
            · rw [if_neg hconfirmed]
              have hnone : someStep p .WAITING_EXTERNAL = true ∨ someStep p .CONFIRMED = true → False :=
                fun h => h.elim hwaiting hconfirmed
              by_cases hpending : p.steps.all (·.status = .PENDING) = true
              · rw [if_pos hpending]
                refine ⟨_, rfl, ?_, fun h => (hnone h).elim⟩
                split <;> decide
              · rw [if_neg hpending]
                exact ⟨_, rfl, by decide, fun h => (hnone h).elim⟩

/-- **`COMPLETED`** is all required steps confirmed. -/
theorem derivePlanState_completed (p : ExecutionPlan) :
    derivePlanState p = .ok .COMPLETED ↔
      ∀ stepId ∈ p.completionPolicy.requiredStepIds, confirmed p stepId = true := by
  have hopen : (∃ stepId ∈ p.completionPolicy.requiredStepIds, confirmed p stepId = false) →
      ¬ ∀ stepId ∈ p.completionPolicy.requiredStepIds, confirmed p stepId = true := by
    rintro ⟨stepId, hmem, hfalse⟩ hall
    rw [hall stepId hmem] at hfalse
    cases hfalse
  rcases derivePlanState_cases p with ⟨⟨stepId, hmem, hnone⟩, e, he⟩ | ⟨hall, hstate⟩ |
      ⟨hsome, -, -, ⟨-, hstate⟩ | ⟨-, hstate | hstate⟩⟩ | ⟨hsome, -, -, state, hstate, hne, -⟩
  · rw [he]
    exact iff_of_false (fun h => by cases h) (hopen ⟨stepId, hmem, confirmed_of_none hnone⟩)
  · exact iff_of_true hstate hall
  · rw [hstate]
    exact iff_of_false (fun h => by cases h) (hopen hsome)
  · rw [hstate]
    exact iff_of_false (fun h => by cases h) (hopen hsome)
  · rw [hstate]
    exact iff_of_false (fun h => by cases h) (hopen hsome)
  · rw [hstate]
    exact iff_of_false (fun h => hne (Except.ok.inj h)) (hopen hsome)

theorem waiting_of_leftOrigin (hmoved : anyValueMoved p = false) {s : PlanStep} (hs : s ∈ p.steps)
    (hleft : s.LeftOrigin) : s.status = .WAITING_EXTERNAL := by
  refine hleft.2.resolve_left fun hconfirmed => ?_
  have hany := anyValueMoved_iff.mpr ⟨s, hs, hconfirmed, hleft.1⟩
  rw [hmoved] at hany
  cases hany

/-- **No state hides moved value exactly under the condition.** -/
theorem hidesNothing_iff (p : ExecutionPlan) : HidesNothing p ↔ MovedIsSeen p := by
  unfold HidesNothing MovedIsSeen
  rcases derivePlanState_cases p with ⟨hunknown, e, he⟩ | ⟨hall, hstate⟩ |
      ⟨⟨stepId, hmem, hfalse⟩, hknown, hfailed, hstates⟩ | ⟨-, hnone, hnone', state, hstate, -, hreads⟩
  · refine iff_of_true (fun _ state hstate => ?_) (.inl hunknown)
    rw [he] at hstate
    cases hstate
  · refine iff_of_true (fun _ state hok => ?_) (.inr (.inl hall))
    rw [hstate] at hok
    cases hok
    rfl
  · rcases hstates with ⟨hmoved, hstate⟩ | ⟨hmoved, hstate⟩
    · refine iff_of_true (fun _ state hok => ?_)
        (.inr (.inr (.inr (.inl (anyValueMoved_iff.mp hmoved)))))
      rw [hstate] at hok
      cases hok
      rfl
    · -- a plain failure is returned: it hides what waits on another chain
      have hplain : ∃ state, derivePlanState p = .ok state ∧ state.readsAsNothing = true := by
        rcases hstate with hstate | hstate
        · exact ⟨_, hstate, rfl⟩
        · exact ⟨_, hstate, rfl⟩
      obtain ⟨state, hok, hreads⟩ := hplain
      constructor
      · intro h
        refine .inr (.inr (.inr (.inr fun s hs hmoves hwaiting => ?_)))
        have hseen := h ⟨s, hs, hmoves, .inr hwaiting⟩ state hok
        rw [hreads] at hseen
        cases hseen
      · rintro (⟨id, hid, hnone⟩ | hall | hnone | hsome | hnone) ⟨s, hs, hleft⟩
        · exact absurd hnone (hknown id hid)
        · rw [hall stepId hmem] at hfalse
          cases hfalse
        · rcases hfailed with hfailed | hfailed
          · obtain ⟨t, ht, hstatus⟩ := someStep_iff.mp hfailed
            exact absurd hstatus (hnone t ht).1
          · obtain ⟨t, ht, hstatus⟩ := someStep_iff.mp hfailed
            exact absurd hstatus (hnone t ht).2
        · rw [anyValueMoved_iff.mpr hsome] at hmoved
          cases hmoved
        · exact absurd (waiting_of_leftOrigin hmoved hs hleft) (hnone s hs hleft.1)
  · refine iff_of_true (fun hleft state' hok => ?_) (.inr (.inr (.inl fun s hs => ⟨?_, ?_⟩)))
    · rw [hstate] at hok
      obtain rfl := Except.ok.inj hok
      obtain ⟨s, hs, -, hstatus | hstatus⟩ := hleft
      · exact hreads (.inr (someStep_iff.mpr ⟨s, hs, hstatus⟩))
      · exact hreads (.inl (someStep_iff.mpr ⟨s, hs, hstatus⟩))
    · intro hstatus
      rw [someStep_iff.mpr ⟨s, hs, hstatus⟩] at hnone
      cases hnone
    · intro hstatus
      rw [someStep_iff.mpr ⟨s, hs, hstatus⟩] at hnone'
      cases hnone'

end Derived

/-- **Moved value is reported**, by every plan under the condition and by no other; and a plan is
    `COMPLETED` exactly where all its required steps are confirmed. -/
theorem moved_value_is_reported (p : ExecutionPlan) :
    (HidesNothing p ↔ MovedIsSeen p) ∧
      (derivePlanState p = .ok .COMPLETED ↔
        ∀ stepId ∈ p.completionPolicy.requiredStepIds, confirmed p stepId = true) :=
  ⟨hidesNothing_iff p, derivePlanState_completed p⟩

/-- The payout, its withdrawal waiting on another chain and its payment failed. -/
def strandedPlan : ExecutionPlan :=
  { payoutPlan with steps :=
      [{ withdrawStep with
          expectedEffects := [⟨.TOKEN_OUT, 11155111, some (some "USDC"), none, none⟩]
          status := .WAITING_EXTERNAL },
        { payStep with status := .FAILED }] }

/-- Its state is `STEP_FAILED`, while its tokens have left the origin. -/
theorem stranded_value_hidden :
    (∃ s ∈ strandedPlan.steps, s.LeftOrigin) ∧
      derivePlanState strandedPlan = .ok .STEP_FAILED := by
  refine ⟨⟨_, List.mem_cons_self, rfl, .inr rfl⟩, ?_⟩
  rfl

end ContextLock.Plan
