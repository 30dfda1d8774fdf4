/-
  Subject:   Which plans run through when every effect succeeds.

  The validator orders steps by their dependencies, the machine orders phases, and the loop has
  a bound. A run executes the steps left after resuming in the order of the plan, so it comes to
  readiness when that order never leaves a later phase for an earlier one, fits the bound, and
  every step is doable in its turn.
-/
import ContextLock.Orchestrator.Success

namespace ContextLock.Orchestrator

open Js Deploy Machine

/-! ## 1. The steps left -/

/-- The steps that are not done. -/
def undone (plan : DeploymentPlan) : List DeploymentStep := plan.steps.filter (!·.done)

theorem undone_withStatus {plan : DeploymentPlan} {stepId : String} {status : DeploymentStepStatus}
    (h : status = .VERIFIED ∨ status = .SKIPPED_ALREADY_SATISFIED) :
    undone (plan.withStatus stepId status) = (undone plan).filter (·.id ≠ stepId) := by
  have hdone : ∀ s : DeploymentStep, ({ s with status := status } : DeploymentStep).done = true := by
    intro s
    obtain rfl | rfl := h <;> rfl
  unfold undone DeploymentPlan.withStatus
  dsimp only
  induction plan.steps with
  | nil => rfl
  | cons s ss ih =>
    rw [List.map_cons, List.filter_cons, List.filter_cons]
    by_cases hs : s.id = stepId
    · rw [if_pos hs, hdone]
      by_cases hd : s.done = true
      · simpa [hd] using ih
      · simpa [hd, hs] using ih
    · rw [if_neg hs]
      by_cases hd : s.done = true
      · simpa [hd] using ih
      · simpa [hd, hs] using ih

theorem ValidSteps.withStatus {plan : DeploymentPlan} (h : ValidSteps plan) (stepId : String)
    (status : DeploymentStepStatus) : ValidSteps (plan.withStatus stepId status) := by
  have hids : (plan.withStatus stepId status).steps.map (·.id) = plan.steps.map (·.id) := by
    unfold DeploymentPlan.withStatus
    rw [List.map_map]
    refine List.map_congr_left fun s _ => ?_
    show (if s.id = stepId then _ else s).id = s.id
    split <;> rfl
  have hmem : ∀ s ∈ (plan.withStatus stepId status).steps,
      ∃ s' ∈ plan.steps, s.type = s'.type ∧ s.dependencyIds = s'.dependencyIds ∧ s.id = s'.id := by
    intro s hs
    obtain ⟨s', hs', rfl⟩ := List.mem_map.mp hs
    refine ⟨s', hs', ?_⟩
    split <;> exact ⟨rfl, rfl, rfl⟩
  refine ⟨hids ▸ h.nodup, fun s hs => ?_, fun s hs d hd => ?_⟩
  · obtain ⟨s', hs', ht, _, _⟩ := hmem s hs
    exact ht ▸ h.noActivation s' hs'
  · obtain ⟨s', hs', _, hd', hid⟩ := hmem s hs
    rw [hids, hid]
    exact h.backward s' hs' d (hd' ▸ hd)

theorem nextStep_undone {run : DeploymentRun} {step : DeploymentStep}
    (h : nextStep run = some step) : step ∈ undone run.plan ∧ step.status ≠ .FAILED := by
  have hmem := List.mem_of_find?_eq_some h
  have hp := List.find?_some h
  simp only [Bool.decide_and, Bool.and_eq_true, decide_eq_true_eq] at hp
  obtain ⟨hid, hstatus, _⟩ := hp
  refine ⟨List.mem_filter.mpr ⟨hmem, ?_⟩, hstatus⟩
  by_contra hd
  have hdone : step.done = true := by simpa using hd
  exact hid (List.mem_map.mpr ⟨step, List.mem_filter.mpr ⟨hmem, hdone⟩, rfl⟩)

theorem nextStep_none {run : DeploymentRun} (h : undone run.plan = []) : nextStep run = none := by
  cases hn : nextStep run with
  | none => rfl
  | some step =>
    have hmem := (nextStep_undone hn).1
    rw [h] at hmem
    cases hmem

theorem mem_before {ids before after : List String} {d id : String}
    (hids : ids = before ++ id :: after) (hlt : ids.idxOf d < ids.idxOf id) : d ∈ before := by
  by_contra hnot
  have hid : ids.idxOf id ≤ before.length := by
    rw [hids, List.idxOf_append]
    split
    · rename_i h
      exact List.idxOf_le_length
    · simp
  have hge : before.length ≤ ids.idxOf d := by
    rw [hids, List.idxOf_append, if_neg hnot]
    omega
  omega

/-- **The first step left is next**, unless it failed. -/
theorem nextStep_head {run : DeploymentRun} {step : DeploymentStep} {rest : List DeploymentStep}
    (hvalid : ValidSteps run.plan) (h : undone run.plan = step :: rest)
    (hstatus : step.status ≠ .FAILED) : nextStep run = some step := by
  obtain ⟨before, after, hsteps, hbefore, hstep, _⟩ := List.filter_eq_cons_iff.mp h
  have hdoneBefore : ∀ s ∈ before, s.id ∈ (run.plan.steps.filter (·.done)).map (·.id) := by
    intro s hs
    refine List.mem_map.mpr ⟨s, List.mem_filter.mpr ⟨hsteps ▸ List.mem_append_left _ hs, ?_⟩, rfl⟩
    simpa using hbefore s hs
  have hmem : step ∈ run.plan.steps := by simp [hsteps]
  have hnotDone : step.id ∉ (run.plan.steps.filter (·.done)).map (·.id) := by
    intro hin
    obtain ⟨s, hs, hid⟩ := List.mem_map.mp hin
    obtain ⟨hs, hd⟩ := List.mem_filter.mp hs
    have heq : s = step := List.inj_on_of_nodup_map hvalid.nodup hs hmem hid
    rw [heq] at hd
    simp [hd] at hstep
  have hdeps : step.dependencyIds.all (· ∈ (run.plan.steps.filter (·.done)).map (·.id)) = true := by
    refine List.all_eq_true.mpr fun d hd => ?_
    obtain ⟨hin, hlt⟩ := hvalid.backward step hmem d hd
    have hids : run.plan.steps.map (·.id) = before.map (·.id) ++ step.id :: after.map (·.id) := by
      rw [hsteps]
      simp
    obtain ⟨s, hs, rfl⟩ := List.mem_map.mp (mem_before hids hlt)
    simpa using hdoneBefore s hs
  refine List.find?_eq_some_iff_append.mpr ⟨?_, before, after, hsteps, fun s hs => ?_⟩
  · exact decide_eq_true ⟨hnotDone, hstatus, hdeps⟩
  · have hin := hdoneBefore s hs
    simp only [hin, not_true_eq_false, false_and, decide_false, Bool.not_false]

/-! ## 2. The loop -/

/-- The phases a run works in. -/
def WORKING : List DeploymentState := HAPPY_PATH.filter (· ≠ .READY_TO_ACTIVATE)

theorem working_ne_ready {s : DeploymentState} (h : s ∈ WORKING) : s ≠ .READY_TO_ACTIVATE := by
  rintro rfl
  revert h
  decide

def enters (source target : DeploymentState) : Prop :=
  source = target ∨ assertTransition source target = .ok ()

theorem enters_iff {p q : DeploymentState} (hp : p ∈ WORKING) (hq : q ∈ WORKING) :
    enters p q ↔ HAPPY_PATH.idxOf p ≤ HAPPY_PATH.idxOf q := by
  have hall : ∀ p ∈ WORKING, ∀ q ∈ WORKING, (p = q ∨ q ∈ DEPLOYMENT_TRANSITIONS p) ↔
      HAPPY_PATH.idxOf p ≤ HAPPY_PATH.idxOf q := by decide
  unfold enters
  rw [assertTransition_ok]
  exact hall p hp q hq

theorem enters_verifying {p : DeploymentState} (hp : p ∈ WORKING) :
    enters p .VERIFYING_DEPLOYMENT := by
  have hall : ∀ p ∈ WORKING, HAPPY_PATH.idxOf p ≤ HAPPY_PATH.idxOf .VERIFYING_DEPLOYMENT := by
    decide
  exact (enters_iff hp (by decide)).mpr (hall p hp)

theorem phaseFor_working {t : DeploymentStepType} {phase : DeploymentState}
    (h : phaseFor t = .ok phase) : phase ∈ WORKING ∧ phase ≠ .DEPLOYMENT_APPROVED := by
  cases t <;> simp_all [phaseFor] <;> subst h <;> decide

/-- The steps left can be executed one after another, in at most `n` passes. -/
def Runnable (w : Surroundings) (plan : DeploymentPlan) :
    Nat → DeploymentState → Bool → List DeploymentStep → Prop
  | _, _, _, [] => True
  | 0, _, _, _ :: _ => False
  | n + 1, state, built, step :: rest =>
    step.status ≠ .FAILED ∧ Doable w plan built step ∧
      ∃ phase, phaseFor step.type = .ok phase ∧ enters state phase ∧
        Runnable w plan n phase (built || step.type = .BUILD_RUNTIME_IMAGE) rest

theorem Runnable.unfailed {w : Surroundings} {plan : DeploymentPlan} {n : Nat}
    {state : DeploymentState} {built : Bool} {steps : List DeploymentStep}
    (h : Runnable w plan n state built steps) : ∀ s ∈ steps, s.status ≠ .FAILED := by
  induction steps generalizing n state built with
  | nil => simp
  | cons step rest ih =>
    cases n with
    | zero => exact h.elim
    | succ n =>
      obtain ⟨hs, _, phase, _, _, hrest⟩ := h
      intro s hmem
      obtain rfl | hin := List.mem_cons.mp hmem
      · exact hs
      · exact ih hrest s hin

/-- A run that works on a valid plan; nothing was recorded for a step that is left. -/
structure Working (run : DeploymentRun) : Prop where
  valid : ValidSteps run.plan
  unrecorded : ∀ s ∈ undone run.plan, run.transactions.get? s.id = none
  phase : run.state ∈ WORKING

section Loop

variable {w : Surroundings} {polls : Nat}

theorem executeStep_ends {step : DeploymentStep} {run : DeploymentRun} (hpolls : 0 < polls)
    (hnew : run.transactions.get? step.id = none) :
    Ends w (fun _ run' => Doable w run.plan run.built step ∧
        ∃ phase, phaseFor step.type = .ok phase ∧ enters run.state phase ∧
          After { run with state := phase } step run')
      (fun _ _ => ¬ (Doable w run.plan run.built step ∧
        ∃ phase, phaseFor step.type = .ok phase ∧ enters run.state phase))
      (executeStep w.deps polls step w.manifest run) := by
  by_cases hact : step.type = .ACTIVATE
  · unfold executeStep
    rw [if_pos hact]
    rintro ⟨_, phase, hphase, _⟩
    rw [hact] at hphase
    cases hphase
  rw [executeStep_eq hact]
  cases hp : phaseFor step.type with
  | error e =>
    rintro ⟨_, phase, hphase, _⟩
    cases hphase
  | ok phase =>
  change Ends w _ _ ((moveTo phase run).bind _)
  refine Script.Ends.bind (moveTo_ends ?_ ?_)
  · intro henters es
    let moved : DeploymentRun := { run with state := phase, events := es }
    have hmovedNew : moved.transactions.get? step.id = none := hnew
    change Ends w _ _ (executeRecorded w.deps polls step w.manifest moved)
    rw [executeRecorded_of_none hmovedNew]
    have hmoved : moved.state ≠ .DEPLOYMENT_APPROVED := (phaseFor_working hp).2
    refine (handler_ends hpolls hmoved).mono ?_ ?_
    · rintro _ run' ⟨hdo, h⟩
      exact ⟨hdo, phase, rfl, henters, h.state, h.plan, h.records, h.built⟩
    · rintro _ _ hnot ⟨hdo, _⟩
      exact hnot hdo
  · rintro e hnot ⟨_, phase', hphase', henters⟩
    obtain rfl : phase = phase' := Except.ok.inj hphase'
    exact hnot henters

theorem Working.after {run run' : DeploymentRun} {step : DeploymentStep} {phase : DeploymentState}
    (h : Working run) (hp : phaseFor step.type = .ok phase)
    (hafter : After { run with state := phase } step run') :
    Working run' ∧ undone run'.plan = (undone run.plan).filter (·.id ≠ step.id) := by
  have hundone : undone run'.plan = (undone run.plan).filter (·.id ≠ step.id) := by
    rw [hafter.plan]
    exact undone_withStatus (Or.inl rfl)
  refine ⟨⟨?_, fun s hs => ?_, ?_⟩, hundone⟩
  · rw [hafter.plan]
    exact ValidSteps.withStatus h.valid step.id .VERIFIED
  · rw [hundone] at hs
    obtain ⟨hmem, hne⟩ := List.mem_filter.mp hs
    rw [hafter.records s.id (by simpa using hne)]
    exact h.unrecorded s hmem
  · rw [hafter.state]
    exact (phaseFor_working hp).1

theorem finish_left {run : DeploymentRun} (h : undone run.plan ≠ []) :
    finish run = .ok () run := by
  have hnot : run.plan.steps.all (·.done) = false := by
    obtain ⟨s, hs⟩ := List.exists_mem_of_ne_nil _ h
    obtain ⟨hmem, hd⟩ := List.mem_filter.mp hs
    exact List.all_eq_false.mpr ⟨s, hmem, by simpa using hd⟩
  unfold finish
  simp only [Act.bind_apply, Act.get_apply, Script.bind_ok, hnot, Bool.false_eq_true, if_false]
  rfl

theorem finish_ends {run : DeploymentRun} (h : undone run.plan = []) (hphase : run.state ∈ WORKING) :
    Ends w (fun _ run' => run'.state = .READY_TO_ACTIVATE) (fun _ _ => False) (finish run) := by
  have hall : run.plan.steps.all (·.done) = true := by
    refine List.all_eq_true.mpr fun s hs => ?_
    by_contra hd
    have hmem : s ∈ undone run.plan := List.mem_filter.mpr ⟨hs, by simpa using hd⟩
    rw [h] at hmem
    cases hmem
  unfold finish
  simp only [Act.bind_apply, Act.get_apply, Script.bind_ok, hall, if_true]
  refine Script.Ends.bind (moveTo_ends (fun _ es => ?_) fun e hnot => hnot (enters_verifying hphase))
  refine Script.Ends.bind (moveTo_ends (fun _ es' => ?_) fun e hnot => hnot (Or.inr ?_))
  · exact ⟨trivial, fun _ _ => rfl⟩
  · exact assertTransition_ok.mpr (by show _ ∈ DEPLOYMENT_TRANSITIONS .VERIFYING_DEPLOYMENT; decide)

theorem runSteps_blocked (hpolls : 0 < polls) (n : Nat) {run : DeploymentRun} (h : Working run)
    (hfailed : ∃ s ∈ undone run.plan, s.status = .FAILED) :
    Ends w (fun _ run' => run'.state ≠ .READY_TO_ACTIVATE) (fun _ _ => True)
      ((runSteps w.deps polls w.manifest n >>= fun _ => finish : Orchestrated Unit) run) := by
  have hleft : undone run.plan ≠ [] := by
    obtain ⟨s, hs, _⟩ := hfailed
    exact List.ne_nil_of_mem hs
  have hend : Ends w (fun _ run' => run'.state ≠ .READY_TO_ACTIVATE) (fun _ _ => True)
      (finish run) := by
    rw [finish_left hleft]
    exact working_ne_ready h.phase
  induction n generalizing run with
  | zero => exact hend
  | succ n ih =>
    cases hn : nextStep run with
    | none =>
      rw [Act.bind_apply, runSteps_of_none hn]
      exact hend
    | some step =>
      obtain ⟨hmem, hstatus⟩ := nextStep_undone hn
      rw [Act.bind_apply, runSteps_of_some hn, Script.bind_assoc]
      refine Script.Ends.bind ((executeStep_ends hpolls (h.unrecorded step hmem)).mono ?_
        fun _ _ _ => trivial)
      rintro _ run' ⟨_, phase, hp, _, hafter⟩
      obtain ⟨hworking, hundone⟩ := h.after hp hafter
      have hfailed' : ∃ s ∈ undone run'.plan, s.status = .FAILED := by
        obtain ⟨s, hs, hsf⟩ := hfailed
        refine ⟨s, ?_, hsf⟩
        rw [hundone]
        refine List.mem_filter.mpr ⟨hs, ?_⟩
        have hne : s.id ≠ step.id := by
          intro hid
          have heq : s = step := List.inj_on_of_nodup_map h.valid.nodup
            (List.mem_of_mem_filter hs) (List.mem_of_mem_filter hmem) hid
          exact hstatus (heq ▸ hsf)
        simpa using hne
      have hleft' : undone run'.plan ≠ [] := by
        obtain ⟨s, hs, _⟩ := hfailed'
        exact List.ne_nil_of_mem hs
      refine ih hworking hfailed' hleft' ?_
      rw [finish_left hleft']
      exact working_ne_ready hworking.phase

theorem runnable_withStatus {plan : DeploymentPlan} (stepId : String)
    (status : DeploymentStepStatus) {n : Nat} {state : DeploymentState} {built : Bool}
    {steps : List DeploymentStep} :
    Runnable w (plan.withStatus stepId status) n state built steps ↔
      Runnable w plan n state built steps := by
  induction steps generalizing n state built with
  | nil => cases n <;> exact Iff.rfl
  | cons step rest ih =>
    cases n with
    | zero => exact Iff.rfl
    | succ n =>
      simp only [Runnable, ih]
      exact Iff.rfl

theorem runSteps_ends (hpolls : 0 < polls) (n : Nat) {run : DeploymentRun} (h : Working run) :
    Ends w (fun _ run' => run'.state = .READY_TO_ACTIVATE ↔
        Runnable w run.plan n run.state run.built (undone run.plan))
      (fun _ _ => ¬ Runnable w run.plan n run.state run.built (undone run.plan))
      ((runSteps w.deps polls w.manifest n >>= fun _ => finish : Orchestrated Unit) run) := by
  by_cases hfailed : ∃ s ∈ undone run.plan, s.status = .FAILED
  · have hnot : ¬ Runnable w run.plan n run.state run.built (undone run.plan) := by
      obtain ⟨s, hs, hsf⟩ := hfailed
      exact fun hr => hr.unfailed s hs hsf
    refine (runSteps_blocked hpolls n h hfailed).mono ?_ fun _ _ _ => hnot
    intro _ run' hne
    simp [hne, hnot]
  have hfresh : ∀ s ∈ undone run.plan, s.status ≠ .FAILED :=
    fun s hs hsf => hfailed ⟨s, hs, hsf⟩
  clear hfailed
  induction n generalizing run with
  | zero =>
    show Ends w _ _ (finish run)
    cases hu : undone run.plan with
    | nil =>
      refine (finish_ends hu h.phase).mono ?_ fun _ _ hf => hf.elim
      intro _ run' hready
      simp [hready, Runnable]
    | cons step rest =>
      rw [finish_left (by simp [hu])]
      show run.state = .READY_TO_ACTIVATE ↔ False
      simp [working_ne_ready h.phase]
  | succ n ih =>
    cases hu : undone run.plan with
    | nil =>
      rw [Act.bind_apply, runSteps_of_none (nextStep_none hu)]
      refine (finish_ends hu h.phase).mono ?_ fun _ _ hf => hf.elim
      intro _ run' hready
      simp [hready, Runnable]
    | cons step rest =>
      have hmem : step ∈ undone run.plan := hu ▸ List.mem_cons_self
      rw [Act.bind_apply, runSteps_of_some (nextStep_head h.valid hu (hfresh step hmem)),
        Script.bind_assoc]
      refine Script.Ends.bind ((executeStep_ends hpolls (h.unrecorded step hmem)).mono ?_ ?_)
      · rintro _ run' ⟨hdo, phase, hp, henters, hafter⟩
        obtain ⟨hworking, hundone⟩ := h.after hp hafter
        have hrest : undone run'.plan = rest := by
          have hnodup : ((step :: rest).map (·.id)).Nodup :=
            hu ▸ h.valid.nodup.sublist (List.filter_sublist.map _)
          rw [hundone, hu, List.filter_cons_of_neg (by simp)]
          refine List.filter_eq_self.mpr fun s hs => ?_
          have hnot := (List.nodup_cons.mp hnodup).1
          have hne : s.id ≠ step.id := fun hid => hnot (List.mem_map.mpr ⟨s, hs, hid⟩)
          simpa using hne
        have hih := ih hworking (by rw [hrest]; exact fun s hs => hfresh s (hu ▸
          List.mem_cons_of_mem step hs))
        rw [hrest, hafter.state, hafter.built, hafter.plan] at hih
        have hiff : Runnable w run.plan (n + 1) run.state run.built (step :: rest) ↔
            Runnable w (({ run with state := phase } : DeploymentRun).plan.withStatus step.id
              .VERIFIED) n phase (run.built || step.type = .BUILD_RUNTIME_IMAGE) rest := by
          rw [runnable_withStatus]
          constructor
          · rintro ⟨_, _, phase', hp', _, hr⟩
            obtain rfl : phase = phase' := Except.ok.inj (hp.symm.trans hp')
            exact hr
          · intro hr
            exact ⟨hfresh step hmem, hdo, phase, hp, henters, hr⟩
        refine hih.mono (fun _ run'' hq => hq.trans hiff.symm) fun _ _ hq => mt hiff.mp hq
      · rintro _ _ hnot ⟨_, hdo, phase, hp, henters, _⟩
        exact hnot ⟨hdo, phase, hp, henters⟩

end Loop

/-! ## 3. Resuming -/

def markPresent (w : Surroundings) (plan : DeploymentPlan) (s : DeploymentStep) : DeploymentPlan :=
  if s.done = false ∧ w.present s.id = true then plan.withStatus s.id .SKIPPED_ALREADY_SATISFIED
  else plan

/-- The steps that resuming leaves to be executed. -/
def remaining (w : Surroundings) (plan : DeploymentPlan) : List DeploymentStep :=
  plan.steps.filter fun s => !s.done && !w.present s.id

section Resume

variable {w : Surroundings}

/-- A run that resuming has left alone but for marked steps. -/
structure Resumed (run : DeploymentRun) (plan : DeploymentPlan) (run' : DeploymentRun) : Prop where
  state : run'.state = run.state
  plan : run'.plan = plan
  records : run'.transactions = run.transactions
  image : run'.runtimeImageDigest = run.runtimeImageDigest

theorem observeStep_ends {step : DeploymentStep} {run : DeploymentRun}
    (hstate : run.state = .DEPLOYMENT_APPROVED) (hnew : run.transactions.get? step.id = none) :
    Ends w (fun _ => Resumed run (markPresent w run.plan step)) (fun _ _ => False)
      (observeStep w.manifest step run) := by
  unfold observeStep
  simp only [Act.bind_apply, Act.get_apply, Script.bind_ok, hnew, Option.map_none, reduceCtorEq,
    if_false]
  by_cases hd : step.done = true
  · rw [if_pos hd]
    exact ⟨rfl, by simp [markPresent, hd], rfl, rfl⟩
  rw [if_neg hd]
  refine ⟨trivial, ?_⟩
  rintro _ ⟨seen, rfl, hseen⟩
  rw [if_pos hstate] at hseen
  show Ends w _ _ ((if seen.satisfied then _ else _ : Orchestrated Unit) run)
  by_cases hp : w.present step.id = true
  · rw [if_pos (hseen.trans hp)]
    obtain ⟨created, hcreated⟩ := setCreated_apply step.id seen.createdAddress
      { run with plan := run.plan.withStatus step.id .SKIPPED_ALREADY_SATISFIED }
    change Ends w _ _ ((setCreated step.id seen.createdAddress
      { run with plan := run.plan.withStatus step.id .SKIPPED_ALREADY_SATISFIED }).bind _)
    rw [hcreated]
    exact ⟨trivial, fun _ _ => ⟨rfl, by simp [markPresent, hd, hp], rfl, rfl⟩⟩
  · rw [if_neg (by simpa [hseen] using hp)]
    exact ⟨rfl, by simp [markPresent, hp], rfl, rfl⟩

theorem observeSteps_ends {steps : List DeploymentStep} {run : DeploymentRun}
    (hstate : run.state = .DEPLOYMENT_APPROVED) (hnew : run.transactions = Map.empty) :
    Ends w (fun _ => Resumed run (steps.foldl (markPresent w) run.plan)) (fun _ _ => False)
      (steps.forM (observeStep w.manifest) run) := by
  induction steps generalizing run with
  | nil => exact ⟨rfl, rfl, rfl, rfl⟩
  | cons step rest ih =>
    refine Script.Ends.bind ((observeStep_ends hstate (by rw [hnew]; rfl)).mono ?_ fun _ _ h => h)
    intro _ run₁ h₁
    refine (ih (h₁.state.trans hstate) (h₁.records.trans hnew)).mono ?_ fun _ _ h => h
    intro _ run₂ h₂
    refine ⟨h₂.state.trans h₁.state, ?_, h₂.records.trans h₁.records, h₂.image.trans h₁.image⟩
    rw [h₂.plan, h₁.plan]
    rfl

theorem validSteps_marked {plan : DeploymentPlan} (h : ValidSteps plan)
    (steps : List DeploymentStep) : ValidSteps (steps.foldl (markPresent w) plan) := by
  induction steps generalizing plan with
  | nil => exact h
  | cons s rest ih =>
    refine ih ?_
    unfold markPresent
    split
    · exact ValidSteps.withStatus h _ _
    · exact h

theorem runnable_marked {plan : DeploymentPlan} (steps : List DeploymentStep) {n : Nat}
    {state : DeploymentState} {built : Bool} {left : List DeploymentStep} :
    Runnable w (steps.foldl (markPresent w) plan) n state built left ↔
      Runnable w plan n state built left := by
  induction steps generalizing plan with
  | nil => exact Iff.rfl
  | cons s rest ih =>
    refine ih.trans ?_
    unfold markPresent
    split
    · exact runnable_withStatus _ _
    · exact Iff.rfl

theorem undone_marked {plan : DeploymentPlan} (steps : List DeploymentStep) :
    undone (steps.foldl (markPresent w) plan) = (undone plan).filter fun s =>
      decide (∀ x ∈ steps, x.done = false ∧ w.present x.id = true → s.id ≠ x.id) := by
  induction steps generalizing plan with
  | nil => simp
  | cons x rest ih =>
    rw [List.foldl_cons, ih]
    unfold markPresent
    by_cases hx : x.done = false ∧ w.present x.id = true
    · rw [if_pos hx, undone_withStatus (Or.inr rfl), List.filter_filter]
      refine List.filter_congr fun s _ => ?_
      simp [hx, Bool.and_comm]
    · rw [if_neg hx]
      refine List.filter_congr fun s _ => decide_eq_decide.mpr ?_
      rw [List.forall_mem_cons]
      exact ⟨fun hall => ⟨fun hc => absurd hc hx, hall⟩, fun hall => hall.2⟩

theorem undone_resumed (plan : DeploymentPlan) :
    undone (plan.steps.foldl (markPresent w) plan) = remaining w plan := by
  rw [undone_marked]
  unfold undone remaining
  rw [List.filter_filter]
  refine List.filter_congr fun s hs => ?_
  by_cases hd : s.done = true
  · simp [hd]
  have hiff : (∀ x ∈ plan.steps, x.done = false ∧ w.present x.id = true → s.id ≠ x.id) ↔
      w.present s.id = false := by
    constructor
    · intro hall
      by_contra hp
      exact hall s hs ⟨by simpa using hd, by simpa using hp⟩ rfl
    · rintro hp x hx ⟨_, hpx⟩ hid
      rw [← hid, hp] at hpx
      cases hpx
  simp only [hiff, hd, Bool.not_false, Bool.true_and, Bool.and_true]
  cases w.present s.id <;> rfl

end Resume

/-! ## 4. Whole runs -/

def phaseIndex (s : DeploymentStep) : Nat :=
  match phaseFor s.type with
  | .ok phase => HAPPY_PATH.idxOf phase
  | .error _ => 0

/-- The steps can be executed in this order: they fit the bound, none failed, no phase follows
    a later one, and each is doable after those before it. -/
structure Completes (w : Surroundings) (plan : DeploymentPlan) (maxSteps : Nat)
    (steps : List DeploymentStep) : Prop where
  bounded : steps.length ≤ maxSteps
  unfailed : ∀ s ∈ steps, s.status ≠ .FAILED
  ordered : steps.Pairwise fun a b => phaseIndex a ≤ phaseIndex b
  doable : ∀ before s after, steps = before ++ s :: after →
    Doable w plan (before.any (·.type = .BUILD_RUNTIME_IMAGE)) s

theorem phaseFor_ok {t : DeploymentStepType} (h : t ≠ .ACTIVATE) :
    ∃ phase, phaseFor t = .ok phase := by
  cases t <;> first | exact ⟨_, rfl⟩ | exact absurd rfl h

section Order

variable {w : Surroundings} {plan : DeploymentPlan}

/-- What `Runnable` says of a list of steps as a whole. -/
theorem runnable_iff {n : Nat} {state : DeploymentState} {built : Bool}
    {steps : List DeploymentStep} (hstate : state ∈ WORKING)
    (htypes : ∀ s ∈ steps, s.type ≠ .ACTIVATE) :
    Runnable w plan n state built steps ↔ steps.length ≤ n ∧ (∀ s ∈ steps, s.status ≠ .FAILED) ∧
      (∀ s ∈ steps, HAPPY_PATH.idxOf state ≤ phaseIndex s) ∧
      (steps.Pairwise fun a b => phaseIndex a ≤ phaseIndex b) ∧
      ∀ before s after, steps = before ++ s :: after →
        Doable w plan (built || before.any (·.type = .BUILD_RUNTIME_IMAGE)) s := by
  induction steps generalizing n state built with
  | nil => simp [Runnable]
  | cons step rest ih =>
    cases n with
    | zero => simp [Runnable]
    | succ n =>
      obtain ⟨hstep, hrest⟩ := List.forall_mem_cons.mp htypes
      obtain ⟨phase, hp⟩ := phaseFor_ok hstep
      have hphase := (phaseFor_working hp).1
      have hindex : phaseIndex step = HAPPY_PATH.idxOf phase := by simp only [phaseIndex, hp]
      have hrun : Runnable w plan (n + 1) state built (step :: rest) ↔ step.status ≠ .FAILED ∧
          Doable w plan built step ∧ enters state phase ∧
            Runnable w plan n phase (built || step.type = .BUILD_RUNTIME_IMAGE) rest := by
        simp only [Runnable, hp, Except.ok.injEq, exists_eq_left']
      rw [hrun, ih hphase hrest, enters_iff hstate hphase, ← hindex, List.forall_mem_cons,
        List.forall_mem_cons, List.pairwise_cons, List.length_cons]
      constructor
      · rintro ⟨hs, hdo, henters, hlen, hunfailed, hfloor, hpair, hdoable⟩
        refine ⟨by omega, ⟨hs, hunfailed⟩, ⟨henters, fun s hm => henters.trans (hfloor s hm)⟩,
          ⟨hfloor, hpair⟩, ?_⟩
        intro before s after heq
        cases before with
        | nil =>
          obtain ⟨rfl, _⟩ := List.cons.inj heq
          simpa using hdo
        | cons b before =>
          obtain ⟨rfl, hafter⟩ := List.cons.inj heq
          simpa [Bool.or_assoc] using hdoable before s after hafter
      · rintro ⟨hlen, ⟨hs, hunfailed⟩, ⟨henters, _⟩, ⟨hfloor, hpair⟩, hdoable⟩
        refine ⟨hs, by simpa using hdoable [] step rest rfl, henters, by omega, hunfailed, hfloor,
          hpair, ?_⟩
        intro before s after heq
        have hdo := hdoable (step :: before) s after (by rw [heq]; rfl)
        simpa [Bool.or_assoc] using hdo

theorem completes_iff {n : Nat} {steps : List DeploymentStep}
    (htypes : ∀ s ∈ steps, s.type ≠ .ACTIVATE) :
    Completes w plan n steps ↔ Runnable w plan n .DEPLOYMENT_APPROVED false steps := by
  rw [runnable_iff (by decide) htypes]
  constructor
  · rintro ⟨hlen, hunfailed, hordered, hdoable⟩
    refine ⟨hlen, hunfailed, fun s _ => ?_, hordered, by simpa using hdoable⟩
    exact Nat.zero_le _
  · rintro ⟨hlen, hunfailed, _, hordered, hdoable⟩
    exact ⟨hlen, hunfailed, hordered, by simpa using hdoable⟩

end Order

def EndsReady (p : Script DeploymentRun Effect Reply DeployError Unit) : Prop :=
  ∃ run, p = .ok () run ∧ run.state = .READY_TO_ACTIVATE

/-- `EndsReady`, for a run that can be followed to its end. -/
def endedReady : Script DeploymentRun Effect Reply DeployError Unit → Bool
  | .ok _ run => run.state = .READY_TO_ACTIVATE
  | _ => false

theorem runApproved_ends {w : Surroundings} {polls maxSteps : Nat} {plan : DeploymentPlan}
    (hpolls : 0 < polls) (hvalid : ValidSteps plan) (deploymentId : String) :
    Ends w (fun _ run => run.state = .READY_TO_ACTIVATE ↔ Completes w plan maxSteps (remaining w plan))
      (fun _ _ => ¬ Completes w plan maxSteps (remaining w plan))
      (runApproved w.deps polls w.manifest maxSteps (newRun deploymentId plan)) := by
  have hcompletes : Completes w plan maxSteps (remaining w plan) ↔
      Runnable w plan maxSteps .DEPLOYMENT_APPROVED false (remaining w plan) :=
    completes_iff fun s hs => hvalid.noActivation s (List.mem_of_mem_filter hs)
  change Ends w _ _ (((plan.steps.forM (observeStep w.manifest)) (newRun deploymentId plan)).bind
    fun _ => (runSteps w.deps polls w.manifest maxSteps >>= fun _ => finish : Orchestrated Unit))
  refine Script.Ends.bind ((observeSteps_ends rfl rfl).mono ?_ fun _ _ h => h.elim)
  intro _ run h
  have hundone : undone run.plan = remaining w plan := by
    rw [h.plan]
    exact undone_resumed plan
  have hworking : Working run := by
    refine ⟨?_, fun s _ => ?_, ?_⟩
    · rw [h.plan]
      exact validSteps_marked hvalid plan.steps
    · rw [h.records]
      rfl
    · rw [h.state]
      show DeploymentState.DEPLOYMENT_APPROVED ∈ WORKING
      decide
  have hbuilt : run.built = false := by
    unfold DeploymentRun.built
    rw [h.image]
    rfl
  have hrunnable : Runnable w run.plan maxSteps run.state run.built (undone run.plan) ↔
      Completes w plan maxSteps (remaining w plan) := by
    rw [hcompletes, hundone, hbuilt, h.state, h.plan]
    exact runnable_marked plan.steps
  refine (runSteps_ends hpolls maxSteps hworking).mono ?_ ?_
  · intro _ run' hq
    exact hq.trans hrunnable
  · intro _ _ hq
    exact mt hrunnable.mpr hq

/-- **When a run comes to readiness.** -/
theorem reaches_ready_iff {plan : DeploymentPlan} {knownSignerIds : List String}
    (hvalid : validatePlan plan knownSignerIds = .ok ()) {w : Surroundings} {polls : Nat}
    (hpolls : 0 < polls) {deploymentId : String} {maxSteps : Nat}
    {reply : Nat → DeploymentRun → (e : Effect) → Option (Reply e)}
    (hreply : (runToCompletion w.deps polls w.manifest maxSteps
      (newRun deploymentId plan)).Answered answerable (succeeds w) reply 0) :
    EndsReady ((runToCompletion w.deps polls w.manifest maxSteps
        (newRun deploymentId plan)).follow reply 0) ↔
      assertApprovedFor plan w.manifest = .ok () ∧
        Completes w plan maxSteps (remaining w plan) := by
  have hsteps := validSteps_of_validatePlan hvalid
  by_cases happroved : assertApprovedFor plan w.manifest = .ok ()
  swap
  · have hrefused : ∃ e, runToCompletion w.deps polls w.manifest maxSteps
        (newRun deploymentId plan) = .threw e (newRun deploymentId plan) :=
      runToCompletion_of_refused w.deps polls maxSteps (Or.inr happroved)
    obtain ⟨e, he⟩ := hrefused
    rw [he]
    constructor
    · rintro ⟨run, hrun, _⟩
      cases hrun
    · rintro ⟨h, _⟩
      exact absurd h happroved
  have hstate : (newRun deploymentId plan).state ∈ RESUMABLE_STATES := by
    show DeploymentState.DEPLOYMENT_APPROVED ∈ _
    decide
  rw [runToCompletion_of_approved hstate happroved] at hreply ⊢
  obtain ⟨_, run, hrun, hq⟩ | ⟨e, run, hrun, hq⟩ :=
    (runApproved_ends hpolls hsteps deploymentId).follow hreply
  · rw [hrun]
    constructor
    · rintro ⟨run', he, hready⟩
      obtain ⟨_, rfl⟩ := Script.ok.inj he
      exact ⟨happroved, hq.mp hready⟩
    · rintro ⟨_, hc⟩
      exact ⟨run, rfl, hq.mpr hc⟩
  · rw [hrun]
    constructor
    · rintro ⟨run', he, _⟩
      cases he
    · rintro ⟨_, hc⟩
      exact absurd hc hq

/-- Outside parties with which every effect succeeds, and nothing is there before the run. -/
def success : Nat → DeploymentRun → (e : Effect) → Option (Reply e)
  | _, _, .nowMs => some 1
  | _, _, .sleep _ => some ()
  | _, _, .waiting => none
  | _, _, .getTransactionCount _ _ _ => some (.ok 5)
  | _, _, .getTransactionReceipt _ _ => some (.ok (some ⟨.success, 7, 21000, 1, none⟩))
  | _, _, .getBlockNumber _ => some (.ok 9)
  | _, _, .resolveCalldata _ _ => some (.ok ⟨some deployerAddress, "0x6000", 0⟩)
  | _, _, .sendTransaction _ _ => some (.ok "0xaa")
  | _, run, .observe _ _ _ =>
    some (.ok ⟨decide (run.state ≠ .DEPLOYMENT_APPROVED), "looked", none⟩)
  | _, _, .creCurrentArtifact => some (.ok none)
  | _, _, .creDeploy _ _ _ _ => some (.ok ⟨"id", "registry", "PAUSED", "hash"⟩)
  | _, _, .creLifecycle _ _ => some (.ok "PAUSED")
  | _, _, .creAuthValid => some (.ok true)
  | _, _, .imageBuild _ => some (.ok "sha256:00")
  | _, _, .imageScan _ => some (.ok (true, "promotable"))
  | _, _, .imagePublish _ => some (.ok ())
  | _, _, .imageCreateDisabled _ _ => some (.ok "revision")

/-- The test network, with nothing there yet. -/
def consumerSurroundings : Surroundings :=
  { deps := ⟨[11155111], none, none⟩, manifest := consumerManifest, present := fun _ => false,
    mined := 7 }

def orderedSteps : List DeploymentStep :=
  [observation "verify-chain" .VERIFY_CHAIN, consumerStep,
    observation "post-verify" .POST_DEPLOY_VERIFY]

theorem answered_past_check {w : Surroundings} {polls maxSteps : Nat} {deploymentId : String}
    {steps : List DeploymentStep} (hw : w.manifest = consumerManifest) :
    runToCompletion w.deps polls w.manifest maxSteps (newRun deploymentId (planOf steps)) =
      runApproved w.deps polls w.manifest maxSteps (newRun deploymentId (planOf steps)) := by
  have hstate : (newRun deploymentId (planOf steps)).state ∈ RESUMABLE_STATES := by
    show DeploymentState.DEPLOYMENT_APPROVED ∈ _
    decide
  exact runToCompletion_of_approved hstate (hw ▸ planOf_approved steps)

theorem reaches_ready_iff_ordered :
    EndsReady ((runToCompletion consumerSurroundings.deps 1 consumerManifest 100
      (newRun "deployment" (planOf orderedSteps))).follow success 0) := by
  have hanswered : (runToCompletion consumerSurroundings.deps 1 consumerSurroundings.manifest 100
      (newRun "deployment" (planOf orderedSteps))).Answered answerable
        (succeeds consumerSurroundings) success 0 := by
    rw [answered_past_check rfl]
    decide
  have hremaining : remaining consumerSurroundings (planOf orderedSteps) = orderedSteps := rfl
  have hrunnable : Runnable consumerSurroundings (planOf orderedSteps) 100 .DEPLOYMENT_APPROVED
      false orderedSteps :=
    ⟨by decide, trivial, _, rfl, .inr rfl, by decide, by decide, _, rfl, .inl rfl, by decide,
      trivial, _, rfl, .inr rfl, trivial⟩
  have hvalid : validatePlan (planOf orderedSteps) ["deployer"] = .ok () := by decide
  refine (reaches_ready_iff hvalid Nat.one_pos hanswered).mpr ⟨planOf_approved orderedSteps, ?_⟩
  rw [hremaining]
  exact (completes_iff (by decide)).mpr hrunnable

def unorderedSteps : List DeploymentStep :=
  [observation "check-cre" .CHECK_CRE_ACCESS, observation "verify-chain" .VERIFY_CHAIN]

/-- **A valid plan that is approved and only half executed**: every effect succeeds, and the
    machine refuses the second step. -/
theorem ready_not_reached :
    validatePlan (planOf unorderedSteps) [] = .ok () ∧
      assertApprovedFor (planOf unorderedSteps) consumerManifest = .ok () ∧
      (runToCompletion consumerSurroundings.deps 1 consumerManifest 100
        (newRun "deployment" (planOf unorderedSteps))).Answered answerable
          (succeeds consumerSurroundings) success 0 ∧
      ¬ EndsReady ((runToCompletion consumerSurroundings.deps 1 consumerManifest 100
        (newRun "deployment" (planOf unorderedSteps))).follow success 0) := by
  refine ⟨by decide, planOf_approved unorderedSteps, ?_⟩
  have hpast : runToCompletion consumerSurroundings.deps 1 consumerManifest 100
      (newRun "deployment" (planOf unorderedSteps)) = runApproved consumerSurroundings.deps 1
        consumerManifest 100 (newRun "deployment" (planOf unorderedSteps)) :=
    answered_past_check (w := consumerSurroundings) rfl
  rw [hpast]
  refine ⟨by decide, ?_⟩
  have hthrew : endedReady ((runApproved consumerSurroundings.deps 1 consumerManifest 100
      (newRun "deployment" (planOf unorderedSteps))).follow success 0) = false := by
    decide
  rintro ⟨run, hrun, hstate⟩
  have hended : endedReady ((runApproved consumerSurroundings.deps 1 consumerManifest 100
      (newRun "deployment" (planOf unorderedSteps))).follow success 0) = true := by
    rw [show _ = Script.ok () run from hrun]
    exact decide_eq_true hstate
  exact absurd (hthrew.symm.trans hended) (by decide)

end ContextLock.Orchestrator
