/-
  Subject:   Steps that are done only after an answer from outside.

  A run is ready when every step is done. Where a step is done by certain answers only, a run
  that got none of them still has the step to do, and is not ready.
-/
import ContextLock.Orchestrator.Approved

namespace ContextLock.Orchestrator

open Js Deploy Machine

/-! ## 1. Runs with their past -/

/-- A run from its start, with the states it was in and the moves made there, latest first. A
    run that is loaded is one of those states. -/
inductive Journey (run : DeploymentRun) (count : Nat → String → Nat) :
    List (Deployment × Move) → Deployment → Prop where
  | start : Journey run count [] (start run count)
  | move {past : List (Deployment × Move)} {d d' : Deployment} {a : Move}
      (before : Journey run count past d) (taken : step d a = some d')
      (recalled : ∀ r, a = .reload r →
        r = d.process.state ∨ ∃ e ∈ past, r = e.1.process.state) :
      Journey run count ((d, a) :: past) d'

/-- A run without a lost process, and what its moves meet. -/
theorem journey_of_execute {guard : Deployment → Move → Prop} [∀ d a, Decidable (guard d a)]
    {run : DeploymentRun} {count : Nat → String → Nat} {past : List (Deployment × Move)}
    {d d' : Deployment} {moves : List Move} (hpast : Journey run count past d)
    (hguard : ∀ e ∈ past, guard e.1 e.2) (hm : ∀ a ∈ moves, ∀ r, a ≠ .reload r)
    (h : execute (guarded step guard) d moves = some d') :
    ∃ past', Journey run count past' d' ∧ ∀ e ∈ past', guard e.1 e.2 := by
  induction moves generalizing past d with
  | nil =>
    cases h
    exact ⟨past, hpast, hguard⟩
  | cons a moves ih =>
    simp only [execute, Option.bind_eq_some_iff] at h
    obtain ⟨t, ht, hrest⟩ := h
    obtain ⟨hg, hs⟩ := guarded_eq_some.mp ht
    refine ih (.move hpast hs fun r hr => absurd hr (hm a List.mem_cons_self r)) ?_
      (fun b hb => hm b (List.mem_cons_of_mem a hb)) hrest
    intro e he
    obtain rfl | hin := List.mem_cons.mp he
    · exact hg
    · exact hguard e hin

/-! ## 2. What a step stands at -/

/-- Readiness, the steps of one id, and the terms of the plan. -/
def DeploymentRun.marks (stepId : String) (run : DeploymentRun) :
    Bool × List DeploymentStep × DeploymentPlan :=
  (run.state = .READY_TO_ACTIVATE, run.plan.steps.filter (·.id = stepId), run.terms)

theorem not_from_ready {target : DeploymentState} :
    assertTransition .READY_TO_ACTIVATE target ≠ .ok () := by
  intro h
  have hmem := assertTransition_ok.mp h
  revert hmem
  cases target <;> decide

instance (stepId : String) : Ambient (DeploymentRun.marks stepId) where
  events _ _ := rfl
  phase run target h ht := by
    have hrun : run.state ≠ .READY_TO_ACTIVATE := by
      intro hready
      rw [hready] at h
      exact not_from_ready h
    simp only [DeploymentRun.marks, ht, hrun, decide_false]
    rfl
  created _ _ := rfl
  cre _ _ _ := rfl
  image _ _ := rfl

theorem marks_status {stepId other : String} (h : other ≠ stepId) :
    FreeOfStatus (DeploymentRun.marks stepId) other := by
  intro run status
  have hsteps : (run.plan.withStatus other status).steps.filter (·.id = stepId) =
      run.plan.steps.filter (·.id = stepId) := by
    unfold DeploymentPlan.withStatus
    dsimp only
    induction run.plan.steps with
    | nil => rfl
    | cons s ss ih =>
      rw [List.map_cons, List.filter_cons, List.filter_cons, ih]
      by_cases hs : s.id = other
      · have hne : s.id ≠ stepId := hs ▸ h
        simp [hs, h]
      · simp [hs]
  simp only [DeploymentRun.marks, hsteps]
  exact congrArg (fun t => (_, _, t)) (terms_withStatus run.plan other status)

theorem marks_record (stepId other : String) : FreeOfRecord (DeploymentRun.marks stepId) other :=
  fun _ _ => rfl

/-- The run is not ready, and no step of the id is done. -/
structure OpenMarks (t : DeploymentPlan) (m : Bool × List DeploymentStep × DeploymentPlan) :
    Prop where
  unready : m.1 = false
  undone : ∀ s ∈ m.2.1, s.done = false
  terms : m.2.2 = t

/-- The step is still to be done. -/
def Open (t : DeploymentPlan) (stepId : String) (run : DeploymentRun) : Prop :=
  OpenMarks t (run.marks stepId)

section Open

variable {t : DeploymentPlan} {stepId : String}

theorem Open.unready {run : DeploymentRun} (h : Open t stepId run) :
    run.state ≠ .READY_TO_ACTIVATE := by
  simpa [DeploymentRun.marks] using OpenMarks.unready h

theorem Open.undone {run : DeploymentRun} (h : Open t stepId run) {s : DeploymentStep}
    (hs : s ∈ run.plan.steps) (hid : s.id = stepId) : s.done = false :=
  OpenMarks.undone h s (List.mem_filter.mpr ⟨hs, by simpa using hid⟩)

theorem Open.failed {run : DeploymentRun} (h : Open t stepId run) :
    Open t stepId { run with plan := run.plan.withStatus stepId .FAILED } := by
  have hunready : (run.marks stepId).1 = false := OpenMarks.unready h
  refine ⟨hunready, fun s hs => ?_, ?_⟩
  · obtain ⟨hmem, hid⟩ := List.mem_filter.mp hs
    obtain ⟨s', _, rfl⟩ := List.mem_map.mp hmem
    by_cases hs' : s'.id = stepId
    · rw [if_pos hs']
      rfl
    · rw [if_neg hs'] at hid
      exact absurd (by simpa using hid) hs'
  · exact (terms_withStatus run.plan stepId .FAILED).trans (OpenMarks.terms h)

/-! ## 3. One call of the orchestrator -/

section Avoided

-- the answers in question
variable {avoided : (e : Effect) → Reply e → Prop}

/-- Answers that are not avoided, and runs to stay open. -/
def openRules (avoided : (e : Effect) → Reply e → Prop) (t : DeploymentPlan) (stepId : String) :
    Rules DeploymentRun Effect Reply Unit where
  drift _ _ _ _ := True
  answer _ e _ r _ := ¬ avoided e r
  holds run _ _ := Open t stepId run

/-- The run is open at every call and at the end. -/
abbrev StaysOpen (avoided : (e : Effect) → Reply e → Prop) (t : DeploymentPlan) (stepId : String)
    (p : Script DeploymentRun Effect Reply DeployError Unit) : Prop :=
  p.Safe (openRules avoided t stepId) (fun _ run _ => Open t stepId run)
    (fun _ run _ => Open t stepId run) ()

theorem open_stable : (openRules avoided t stepId).Stable (DeploymentRun.marks stepId)
    (fun _ => True) fun m _ => OpenMarks t m where
  drift _ _ _ _ _ _ h := h
  answer _ _ _ _ _ _ _ h := h
  holds _ _ _ _ h := h

theorem staysOpen_bind {α : Type} {m : Orchestrated α} {f : α → Orchestrated Unit}
    (hm : KeepsAll (DeploymentRun.marks stepId) m) {run : DeploymentRun} (h : Open t stepId run)
    (hf : ∀ a run', Open t stepId run' → StaysOpen avoided t stepId (f a run')) :
    StaysOpen avoided t stepId ((m >>= f) run) := by
  refine Script.Safe.bind ?_
  refine (Script.Safe.of_keeps open_stable (hm run) h).mono ?_ ?_
  · intro a run' _ hend
    exact hf a run' (show OpenMarks t (run'.marks stepId) from hend.1 ▸ hend.2)
  · intro _ run' _ hend
    exact (show OpenMarks t (run'.marks stepId) from hend.1 ▸ hend.2)

theorem KeepsAll.staysOpen {m : Orchestrated Unit} (hm : KeepsAll (DeploymentRun.marks stepId) m)
    {run : DeploymentRun} (h : Open t stepId run) : StaysOpen avoided t stepId (m run) := by
  refine (Script.Safe.of_keeps open_stable (hm run) h).mono ?_ ?_
  · intro _ run' _ hend
    exact (show OpenMarks t (run'.marks stepId) from hend.1 ▸ hend.2)
  · intro _ run' _ hend
    exact (show OpenMarks t (run'.marks stepId) from hend.1 ▸ hend.2)

/-- An observation of a step whose satisfied answers are avoided. -/
theorem observe_staysOpen {step : DeploymentStep} {manifest : DeploymentManifest}
    {f : Observation → Orchestrated Unit} {run : DeploymentRun} (h : Open t stepId run)
    (havoided : ∀ created seen, seen.satisfied = true →
      avoided (.observe step manifest created) (.ok seen))
    (hf : ∀ seen : Observation, seen.satisfied = false → StaysOpen avoided t stepId (f seen run)) :
    StaysOpen avoided t stepId ((observe step manifest >>= f) run) := by
  refine Script.Safe.wait (A := fun _ => True) (fun _ _ _ _ => trivial) (fun _ _ => h) trivial
    fun _ reply _ _ hnot => ?_
  cases reply with
  | error e => exact h
  | ok seen =>
    refine hf seen ?_
    by_contra hsat
    exact hnot (havoided _ seen (by simpa using hsat))

theorem observeStep_staysOpen {step : DeploymentStep} {manifest : DeploymentManifest}
    {run : DeploymentRun} (h : Open t stepId run)
    (havoided : ∀ created seen, seen.satisfied = true →
      avoided (.observe step manifest created) (.ok seen)) :
    StaysOpen avoided t stepId (observeStep manifest step run) := by
  unfold observeStep
  simp only [Act.bind_apply, Act.get_apply, Script.bind_ok]
  split
  · exact h
  split
  · exact h
  refine observe_staysOpen h havoided fun seen hsat => ?_
  simp only [hsat, Bool.false_eq_true, if_false]
  exact h

/-- Without an answer in question the step of this id is not done, on a resume or executed. -/
structure NeedsAnswer (avoided : (e : Effect) → Reply e → Prop) (t : DeploymentPlan)
    (stepId : String) : Prop where
  planned : ∃ s ∈ t.steps, s.id = stepId
  observed : ∀ step manifest, step.terms ∈ t.steps → step.id = stepId → ∀ created seen,
    seen.satisfied = true → avoided (.observe step manifest created) (.ok seen)
  executed : ∀ deps polls step manifest run, step.terms ∈ t.steps → step.id = stepId →
    Open t stepId run → StaysOpen avoided t stepId (handler deps polls step manifest run)

variable (hneeds : NeedsAnswer avoided t stepId)

include hneeds

theorem executeStep_staysOpen (deps : Deps) (polls : Nat) {step : DeploymentStep}
    (manifest : DeploymentManifest) {run : DeploymentRun} (hstep : step.terms ∈ t.steps)
    (h : Open t stepId run) :
    StaysOpen avoided t stepId (executeStep deps polls step manifest run) := by
  by_cases hid : step.id = stepId
  swap
  · exact (executeStep_keeps (marks_status hid) deps polls (marks_record _ _) manifest).staysOpen h
  have hhandler : ∀ run, Open t stepId run →
      StaysOpen avoided t stepId (handler deps polls step manifest run) :=
    fun run => hneeds.executed deps polls step manifest run hstep hid
  unfold executeStep
  split
  · exact h
  cases hphase : phaseFor step.type with
  | error e => exact h
  | ok phase =>
    refine staysOpen_bind (m := moveTo phase) (moveTo_keeps (phaseFor_ne_ready hphase)) h
      fun _ run₁ h₁ => ?_
    refine staysOpen_bind (m := (get : Orchestrated DeploymentRun)) .get h₁ fun run₂ run₃ h₃ => ?_
    cases run₂.transactions.get? step.id with
    | none => exact hhandler run₃ h₃
    | some existing => exact staysOpen_bind (.lift _) h₃ fun _ run₄ h₄ => hhandler run₄ h₄

theorem runSteps_staysOpen (deps : Deps) (polls : Nat) (manifest : DeploymentManifest)
    (maxSteps : Nat) {run : DeploymentRun} (h : Open t stepId run) :
    StaysOpen avoided t stepId (runSteps deps polls manifest maxSteps run) := by
  induction maxSteps generalizing run with
  | zero => exact h
  | succ n ih =>
    cases hn : nextStep run with
    | none =>
      rw [runSteps_of_none hn]
      exact h
    | some step =>
      rw [runSteps_of_some hn]
      have hterms : run.terms = t := OpenMarks.terms h
      have hstep : step.terms ∈ t.steps := hterms ▸ nextStep_mem hn
      exact Script.Safe.bind ((executeStep_staysOpen hneeds deps polls manifest hstep h).mono
        (fun _ _ _ h' => ih h') fun _ _ _ h' => h')

theorem resumeApproved_staysOpen (deps : Deps) (manifest : DeploymentManifest)
    {run : DeploymentRun} (h : Open t stepId run) :
    StaysOpen avoided t stepId (resumeApproved deps manifest run) := by
  refine staysOpen_bind (m := (get : Orchestrated DeploymentRun)) .get h fun run₁ run₂ h₂ => ?_
  refine staysOpen_bind (.forM fun _ => reconcileUnknown_keeps _ (marks_record _ _)) h₂
    fun _ run₃ h₃ => ?_
  change StaysOpen avoided t stepId (run₃.plan.steps.forM (observeStep manifest) run₃)
  refine Script.Safe.forM (I := fun run : DeploymentRun => fun _ => Open t stepId run) ?_ h₃
  intro step hstep run _ h
  have hterms : run₃.terms = t := OpenMarks.terms h₃
  have hmem : step.terms ∈ t.steps := hterms ▸ mem_terms_of_mem hstep
  by_cases hid : step.id = stepId
  · exact observeStep_staysOpen h (hneeds.observed step manifest hmem hid)
  · exact KeepsAll.staysOpen (observeStep_keeps (marks_status hid) trivial) h

/-- With an undone step `finish` does nothing. -/
theorem finish_staysOpen {run : DeploymentRun} (h : Open t stepId run) :
    StaysOpen avoided t stepId (finish run) := by
  obtain ⟨s, hs, hid⟩ := hneeds.planned
  have hterms : run.terms = t := OpenMarks.terms h
  rw [← hterms] at hs
  obtain ⟨s', hs', rfl⟩ := List.mem_map.mp hs
  have hnot : run.plan.steps.all (·.done) = false := by
    refine List.all_eq_false.mpr ⟨s', hs', ?_⟩
    simp [h.undone hs' hid]
  unfold finish
  simp only [Act.bind_apply, Act.get_apply, Script.bind_ok, hnot, Bool.false_eq_true, if_false]
  exact h

/-- **A call of the orchestrator.** -/
theorem runToCompletion_staysOpen (deps : Deps) (polls maxSteps : Nat)
    (manifest : DeploymentManifest) {run : DeploymentRun} (h : Open t stepId run) :
    StaysOpen avoided t stepId (runToCompletion deps polls manifest maxSteps run) := by
  by_cases ha : run.state ∈ RESUMABLE_STATES ∧ assertApprovedFor run.plan manifest = .ok ()
  · rw [runToCompletion_of_approved ha.1 ha.2]
    refine Script.Safe.bind ((resumeApproved_staysOpen hneeds deps manifest h).mono ?_
      fun _ _ _ h' => h')
    intro _ run₁ _ h₁
    refine Script.Safe.bind ((runSteps_staysOpen hneeds deps polls manifest maxSteps h₁).mono ?_
      fun _ _ _ h' => h')
    intro _ run₂ _ h₂
    exact finish_staysOpen hneeds h₂
  · obtain ⟨e, he⟩ := runToCompletion_of_refused deps polls maxSteps (not_and_or.mp ha)
    rw [he]
    exact h

end Avoided

end Open

/-! ## 4. Whole runs -/

/-- The move is an answer in question. -/
def Gives (avoided : (e : Effect) → Reply e → Prop) (d : Deployment) : Move → Prop
  | .answer reply =>
    match d.process with
    | .call _ e _ => ∃ r ∈ reply e, avoided e r
    | _ => False
  | _ => False

/-- The step was to be done in every run of the past, and stays so without an answer in
    question. -/
structure Undone (avoided : (e : Effect) → Reply e → Prop) (t : DeploymentPlan) (stepId : String)
    (past : List (Deployment × Move)) (d : Deployment) : Prop where
  past : ∀ e ∈ past, Open t stepId e.1.process.state
  going : StaysOpen avoided t stepId d.process

section Journeys

variable {avoided : (e : Effect) → Reply e → Prop} {t : DeploymentPlan} {stepId : String}
  {past : List (Deployment × Move)} {d : Deployment}

theorem Undone.state (h : Undone avoided t stepId past d) : Open t stepId d.process.state := by
  obtain ⟨p, w⟩ := d
  cases p with
  | ok a s => exact h.going
  | threw e s => exact h.going
  | call s e k => exact Script.Safe.holds h.going

variable (hneeds : NeedsAnswer avoided t stepId)

include hneeds

theorem undone_move {d' : Deployment} {a : Move} (h : Undone avoided t stepId past d)
    (hs : step d a = some d') (hnot : ¬ Gives avoided d a)
    (hrecalled : ∀ r, a = .reload r →
      r = d.process.state ∨ ∃ e ∈ past, r = e.1.process.state) :
    Undone avoided t stepId ((d, a) :: past) d' := by
  refine ⟨?_, ?_⟩
  · intro e he
    obtain rfl | hin := List.mem_cons.mp he
    · exact h.state
    · exact h.past e hin
  cases a with
  | begin deps polls manifest maxSteps =>
    simp only [step] at hs
    split at hs
    · obtain rfl := Option.some.inj hs
      exact runToCompletion_staysOpen hneeds deps polls maxSteps manifest h.state
    · cases hs
  | answer reply =>
    obtain ⟨s, e, k, r, hp, hr, _, rfl⟩ := answered_eq_some hs
    obtain ⟨p, w⟩ := d
    obtain rfl : p = .call s e k := hp
    exact Script.Safe.answered h.going fun hv => hnot ⟨r, hr, hv⟩
  | broadcast hash =>
    obtain ⟨w', _, rfl⟩ := Option.map_eq_some_iff.mp hs
    exact h.going
  | chain ledger =>
    simp only [step] at hs
    split at hs
    · obtain rfl := Option.some.inj hs
      exact h.going
    · cases hs
  | reload run =>
    obtain rfl := Option.some.inj hs
    obtain rfl | ⟨e, he, rfl⟩ := hrecalled run rfl
    · exact h.state
    · exact h.past e he

/-- **A step is done only after an answer in question.** -/
theorem journey_undone {run : DeploymentRun} {count : Nat → String → Nat}
    (hrun : Open t stepId run) (h : Journey run count past d) :
    (∃ e ∈ past, Gives avoided e.1 e.2) ∨ Undone avoided t stepId past d := by
  induction h with
  | start => exact Or.inr ⟨by simp, hrun⟩
  | @move past d d' a before taken recalled ih =>
    obtain ⟨e, he, hv⟩ | hu := ih
    · exact Or.inl ⟨e, List.mem_cons_of_mem _ he, hv⟩
    by_cases hv : Gives avoided d a
    · exact Or.inl ⟨(d, a), List.mem_cons_self, hv⟩
    · exact Or.inr (undone_move hneeds hu taken hv recalled)

end Journeys

/-! ## 5. A step of a new run -/

section NewRun

variable {plan : DeploymentPlan} {knownSignerIds : List String} {v : DeploymentStep}

theorem terms_unique (hvalid : validatePlan plan knownSignerIds = .ok ()) (hv : v ∈ plan.steps)
    {s : DeploymentStep} (hs : s.terms ∈ plan.terms.steps) (hid : s.id = v.id) :
    s.terms = v.terms := by
  obtain ⟨s', hs', he⟩ := List.mem_map.mp hs
  have hid' : s'.id = v.id := (congrArg DeploymentStep.id he :).trans hid
  have hsame : s' = v :=
    List.inj_on_of_nodup_map (validSteps_of_validatePlan hvalid).nodup hs' hv hid'
  rw [← he, hsame]

theorem open_newRun (hvalid : validatePlan plan knownSignerIds = .ok ()) (hv : v ∈ plan.steps)
    (hundone : v.done = false) (deploymentId : String) :
    Open plan.terms v.id (newRun deploymentId plan) := by
  refine ⟨rfl, fun s hs => ?_, rfl⟩
  obtain ⟨hs, hid⟩ := List.mem_filter.mp hs
  have hsame : s = v := List.inj_on_of_nodup_map (validSteps_of_validatePlan hvalid).nodup hs hv
    (by simpa using hid)
  rw [hsame]
  exact hundone

end NewRun

end ContextLock.Orchestrator
