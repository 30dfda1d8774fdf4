/-
  Subject:   A deployment to a fork, and what stops it.

  A deployment runs in the background through its phases and writes one row after each; it works on
  a copy of its record, so the record that others see names the fork only once the deployer is
  done. A stop reads that record, destroys the fork it names and writes the row. Consecutive
  awaits of the deployer between which nothing shared is written are one await here.
-/
import ContextLock.Machine.Transition

namespace ContextLock.Studio.ForkDeployment

open Machine

/-! ## 1. The row and the run -/

inductive ForkDeploymentState where
  | DEPLOYING
  | READY_TO_ACTIVATE
  | STOPPED
  | FAILED
  deriving DecidableEq

inductive ForkDeployPhaseKey where
  | PREPARING_RELEASE
  | FORKING_MAINNET
  | VERIFYING_ANCHOR
  | DEPLOYING_CONTRACTS
  | CONFIGURING_POLICY_DISABLED
  | OPENING_POSITION
  | TAKING_SNAPSHOT
  | VERIFYING_CONTRACTS
  | STARTING_RUNTIME
  | HEALTH_CHECKS
  | READY_TO_ACTIVATE

/-- The phase of the deployer's own work that follows. -/
def ForkDeployPhaseKey.next : ForkDeployPhaseKey → Option ForkDeployPhaseKey
  | .DEPLOYING_CONTRACTS => some .CONFIGURING_POLICY_DISABLED
  | .CONFIGURING_POLICY_DISABLED => some .OPENING_POSITION
  | .OPENING_POSITION => some .TAKING_SNAPSHOT
  | .TAKING_SNAPSHOT => some .VERIFYING_CONTRACTS
  | _ => none

/-- The row of a deployment; `fork` says that the stored record names the fork. -/
structure Row where
  state : ForkDeploymentState
  phase : ForkDeployPhaseKey
  fork : Bool

/-- What the run awaits. -/
inductive Stage where
  /-- The head and the block of the upstream chain. -/
  | reading
  /-- The fork's endpoint. -/
  | waiting
  | verifying
  /-- The fork's chain id, and the funding of the keys. -/
  | funding
  | working (phase : ForkDeployPhaseKey)
  /-- The runtime's first tick. -/
  | observing
  /-- The read of the policy, with whether the tick observed anything. -/
  | checking (observed : Bool)
  /-- The destruction of the fork of a run that failed. -/
  | failing (phase : ForkDeployPhaseKey)
  | done

/-- A deployment. `known`: the live record names the fork. `held`: the map holds the deployment.
    `fork`: whether the fork that was created is alive. `runtime`: whether the runtime that was
    started is stopping. `stopping`: the phases of the stops that await the destruction; `stopped`: a
    stop has returned. -/
structure Deployment where
  projectId : String
  row : Row
  known : Bool
  held : Bool
  fork : Option Bool
  runtime : Option Bool
  stage : Stage
  stopping : List ForkDeployPhaseKey
  stopped : Bool

/-- What an await comes to. A first tick that observes nothing, and a policy that reads enabled, are
    `wrong`. -/
inductive Outcome where
  | fine
  | wrong
  | thrown
  deriving DecidableEq

/-- `persist` of the live record. -/
def Deployment.persist (d : Deployment) (state : ForkDeploymentState) (phase : ForkDeployPhaseKey) :
    Deployment :=
  { d with row := ⟨state, phase, d.known⟩ }

def Deployment.onPhase (d : Deployment) (phase : ForkDeployPhaseKey) : Deployment :=
  d.persist .DEPLOYING phase

/-- `runtime?.stop(..)` -/
def Deployment.stopRuntime (d : Deployment) : Deployment :=
  { d with runtime := d.runtime.map fun _ => true }

/-- `forks.destroy(..)` of the fork that was created. -/
def Deployment.destroyFork (d : Deployment) : Deployment :=
  { d with fork := d.fork.map fun _ => false }

/-- `deploy`, and the run up to its first await. -/
def Deployment.begin (projectId : String) : Deployment :=
  Deployment.onPhase ⟨projectId, ⟨.DEPLOYING, .PREPARING_RELEASE, false⟩, false, true, none, none,
    .reading, [], false⟩ .FORKING_MAINNET

/-- The run's own handler of what was thrown, with whether the failed record names the fork. -/
def Deployment.fail (d : Deployment) (phase : ForkDeployPhaseKey) (named : Bool) : Deployment :=
  let d := { d with known := named }.stopRuntime
  if named then { d.destroyFork with stage := .failing phase }
  else { d.persist .FAILED phase with stage := .done }

def Deployment.failPhase (d : Deployment) (phase : ForkDeployPhaseKey) (named : Bool) : Deployment :=
  (d.onPhase phase).fail phase named

/-- From the end of the deployer to the runtime's first tick. -/
def Deployment.startRuntime (d : Deployment) : Deployment :=
  let d := { d with known := true }.persist .DEPLOYING .STARTING_RUNTIME
  { Deployment.persist { d with runtime := some false } .DEPLOYING .HEALTH_CHECKS with
    stage := .observing }

/-- The run goes on. -/
def Deployment.goOn (d : Deployment) (outcome : Outcome) : Option Deployment :=
  match d.stage with
  | .reading =>
    match outcome with
    | .fine => some { d with fork := some true, stage := .waiting }
    | _ => some (d.failPhase .FORKING_MAINNET false)
  | .waiting =>
    match outcome with
    | .fine => some { (d.onPhase .FORKING_MAINNET).onPhase .VERIFYING_ANCHOR with
        stage := .verifying }
    | _ => some (d.failPhase .FORKING_MAINNET true)
  | .verifying =>
    match outcome with
    | .fine => some { d.onPhase .VERIFYING_ANCHOR with stage := .funding }
    -- the provider destroys a fork that does not verify
    | _ => some (d.destroyFork.failPhase .VERIFYING_ANCHOR true)
  | .funding =>
    match outcome with
    | .fine => some { d.onPhase .DEPLOYING_CONTRACTS with stage := .working .DEPLOYING_CONTRACTS }
    | _ => some (d.failPhase .VERIFYING_ANCHOR true)
  | .working phase =>
    match outcome with
    | .fine =>
      match phase.next with
      | some next => some { (d.onPhase phase).onPhase next with stage := .working next }
      | none => some (d.onPhase phase).startRuntime
    | _ => some (d.failPhase phase true)
  | .observing =>
    match outcome with
    | .fine => some { d with stage := .checking true }
    | .wrong => some { d with stage := .checking false }
    | .thrown => some (d.fail .HEALTH_CHECKS true)
  | .checking observed =>
    if outcome = .fine ∧ observed = true then
      some { d.persist .READY_TO_ACTIVATE .READY_TO_ACTIVATE with stage := .done }
    else some (d.fail .HEALTH_CHECKS true)
  | .failing phase => some { d.persist .FAILED phase with stage := .done }
  | .done => none

/-! ## 2. Stops -/

/-- The record that a stop finds names the fork: the live one, or else the stored one. -/
def Deployment.named (d : Deployment) : Bool := if d.held then d.known else d.row.fork

/-- `stop`, up to its await, which it has where its record names the fork. -/
def Deployment.stop (d : Deployment) : Deployment :=
  let e := if d.held then d.stopRuntime else d
  if d.named then { e.destroyFork with stopping := d.stopping ++ [d.row.phase] }
  else { e with row := ⟨.STOPPED, d.row.phase, false⟩, held := false, stopped := true }

def Deployment.stopGoesOn (d : Deployment) (n : Nat) : Option Deployment :=
  match d.stopping[n]? with
  | some phase => some { d with
      row := ⟨.STOPPED, phase, true⟩, held := false, stopped := true
      stopping := d.stopping.eraseIdx n }
  | none => none

/-! ## 3. Any order of turns -/

/-- A deployment of a project, a stop of the `i`th deployment, the `n`th of its stops that go on, or
    its run that goes on. -/
inductive Action where
  | deploy (projectId : String)
  | stop (i : Nat)
  | stopGoesOn (i n : Nat)
  | goOn (i : Nat) (outcome : Outcome)

/-- A deployment of the project runs or is ready. -/
def busy (lab : List Deployment) (projectId : String) : Bool :=
  lab.any fun d => d.projectId == projectId &&
    (d.row.state = .DEPLOYING || d.row.state = .READY_TO_ACTIVATE)

def step (lab : List Deployment) : Action → Option (List Deployment)
  | .deploy projectId => if busy lab projectId then none else some (lab ++ [.begin projectId])
  | .stop i => (lab[i]?).map fun d => lab.set i d.stop
  | .stopGoesOn i n => ((lab[i]?).bind fun d => d.stopGoesOn n).map (lab.set i)
  | .goOn i outcome => ((lab[i]?).bind fun d => d.goOn outcome).map (lab.set i)

/-! ## 4. The law and the condition -/

/-- **A stop is final**: once one has returned, the stored state is `STOPPED`, and neither the fork
    nor the runtime is alive. -/
structure Final (d : Deployment) : Prop where
  state : d.stopped = true → d.row.state = .STOPPED
  fork : d.stopped = true → d.fork ≠ some true
  runtime : d.stopped = true → d.runtime ≠ some false

/-- After a stop the run goes on only from the runtime's first tick, or where the health check
    fails. -/
def Deployment.mayGoOn (d : Deployment) (outcome : Outcome) : Bool :=
  !d.stopped ||
    match d.stage with
    | .observing => true
    | .checking observed => !(outcome = .fine && observed)
    | _ => false

/-- **The condition on a turn**, in the state before it. A stop whose record names no fork comes
    while none is alive; after a stop the run makes no turn that writes. -/
def Meets (lab : List Deployment) : Action → Bool
  | .stop i =>
    match lab[i]? with
    | some d => d.named || d.fork != some true
    | none => true
  | .goOn i outcome =>
    match lab[i]? with
    | some d => d.mayGoOn outcome
    | none => true
  | _ => true

/-- The deployer is done. -/
def Stage.late : Stage → Bool
  | .observing | .checking _ | .failing _ | .done => true
  | _ => false

/-- What runs that meet the condition keep: records name the fork once the deployer is done, and a
    stop that goes on has destroyed it. -/
structure Sound (d : Deployment) : Prop extends Final d where
  late : d.known = true ∨ d.row.fork = true ∨ d.stopping ≠ [] → d.stage.late = true
  destroyed : d.stopping ≠ [] → d.fork ≠ some true ∧ d.runtime ≠ some false
  held : d.held = false → d.stopped = true

theorem sound_begin (projectId : String) : Sound (.begin projectId) where
  state h := by cases h
  fork h := by cases h
  runtime h := by cases h
  late h := by
    rcases h with h | h | h
    · cases h
    · cases h
    · exact absurd rfl h
  destroyed h := absurd rfl h
  held h := by cases h

/-! ## 5. One turn -/

section Turns

variable {d d' : Deployment} {outcome : Outcome} {n : Nat}

theorem fail_named (d : Deployment) (phase : ForkDeployPhaseKey) :
    d.fail phase true = { d with
      known := true, runtime := d.runtime.map fun _ => true, fork := d.fork.map fun _ => false
      stage := .failing phase } := rfl

theorem map_ne_some {o : Option Bool} {b c : Bool} (h : b ≠ c) :
    (o.map fun _ => b) ≠ some c := by
  cases o with
  | none => simp
  | some x => simpa using h

theorem Sound.early (h : Sound d) (hstage : d.stage.late = false) :
    d.known = false ∧ d.row.fork = false ∧ d.stopping = [] := by
  have hnot : ¬ (d.known = true ∨ d.row.fork = true ∨ d.stopping ≠ []) := fun hnamed => by
    rw [h.late hnamed] at hstage
    cases hstage
  rw [not_or, not_or] at hnot
  obtain ⟨hknown, hrow, hstopping⟩ := hnot
  exact ⟨eq_false_of_ne_true hknown, eq_false_of_ne_true hrow,
    by simpa using hstopping⟩

theorem final_of_running (h : d.stopped = false) : Final d := by
  refine ⟨fun hstopped => ?_, fun hstopped => ?_, fun hstopped => ?_⟩
  all_goals
    rw [h] at hstopped
    cases hstopped

/-- **A stop**, up to its await. -/
theorem sound_stop (h : Sound d) (hmeets : (d.named || d.fork != some true) = true) :
    Sound d.stop := by
  unfold Deployment.stop
  dsimp only
  have hruntime : (if d.held then d.stopRuntime else d).runtime ≠ some false := by
    cases hheld : d.held with
    | true => exact map_ne_some (by decide)
    | false => exact h.runtime (h.held hheld)
  have hsame : ∀ b : Bool, (if b then d.stopRuntime else d).row = d.row ∧
      (if b then d.stopRuntime else d).stopped = d.stopped ∧
      (if b then d.stopRuntime else d).known = d.known ∧
      (if b then d.stopRuntime else d).stage = d.stage ∧
      (if b then d.stopRuntime else d).held = d.held ∧
      (if b then d.stopRuntime else d).fork = d.fork ∧
      (if b then d.stopRuntime else d).stopping = d.stopping := by
    intro b
    cases b with
    | true | false => exact ⟨rfl, rfl, rfl, rfl, rfl, rfl, rfl⟩
  obtain ⟨hrow, hstopped, hknown, hstage, hheld, hfork, hstopping⟩ := hsame d.held
  by_cases hnamed : d.named = true
  · rw [if_pos hnamed]
    have hdead : ((if d.held then d.stopRuntime else d).fork.map fun _ => false) ≠ some true :=
      map_ne_some (by decide)
    have hlate : d.stage.late = true := by
      refine h.late ?_
      unfold Deployment.named at hnamed
      split at hnamed
      · exact .inl hnamed
      · exact .inr (.inl hnamed)
    refine ⟨⟨fun hs => ?_, fun _ => hdead, fun _ => hruntime⟩, fun _ => ?_,
      fun _ => ⟨hdead, hruntime⟩, fun hs => ?_⟩
    · exact (congrArg Row.state hrow).trans (h.state (hstopped.symm.trans hs))
    · exact (congrArg Stage.late hstage).trans hlate
    · exact hstopped.trans (h.held (hheld.symm.trans hs))
  · rw [if_neg hnamed]
    have hdead : (if d.held then d.stopRuntime else d).fork ≠ some true := by
      rw [hfork]
      simpa [hnamed] using hmeets
    refine ⟨⟨fun _ => rfl, fun _ => hdead, fun _ => hruntime⟩, fun hnames => ?_,
      fun _ => ?_, fun _ => rfl⟩
    · refine (congrArg Stage.late hstage).trans (h.late ?_)
      rcases hnames with hk | hf | hs
      · exact .inl (hknown.symm.trans hk)
      · cases hf
      · exact .inr (.inr fun hnil => hs (hstopping.trans hnil))
    · exact ⟨hdead, hruntime⟩

theorem sound_stopGoesOn (h : Sound d) (hturn : d.stopGoesOn n = some d') : Sound d' := by
  unfold Deployment.stopGoesOn at hturn
  split at hturn
  · rename_i phase hphase
    have hwaits : d.stopping ≠ [] := List.ne_nil_of_mem (List.mem_of_getElem? hphase)
    obtain ⟨hfork, hruntime⟩ := h.destroyed hwaits
    rw [← Option.some.inj hturn]
    exact ⟨⟨fun _ => rfl, fun _ => hfork, fun _ => hruntime⟩,
      fun _ => h.late (.inr (.inr hwaits)), fun _ => ⟨hfork, hruntime⟩, fun _ => rfl⟩
  · cases hturn

theorem sound_of_running (hstopped : d.stopped = false) (hheld : d.held = true)
    (hstopping : d.stopping = [])
    (hlate : d.known = true ∨ d.row.fork = true → d.stage.late = true) : Sound d where
  toFinal := final_of_running hstopped
  late hnames := by
    rcases hnames with hknown | hrow | hwaits
    · exact hlate (.inl hknown)
    · exact hlate (.inr hrow)
    · exact absurd hstopping hwaits
  destroyed hwaits := absurd hstopping hwaits
  held hfree := by
    rw [hheld] at hfree
    cases hfree

theorem sound_fail (h : Sound d) (phase : ForkDeployPhaseKey) : Sound (d.fail phase true) := by
  rw [fail_named]
  have hfork : (d.fork.map fun _ => false) ≠ some true := map_ne_some (by decide)
  have hruntime : (d.runtime.map fun _ => true) ≠ some false := map_ne_some (by decide)
  exact ⟨⟨h.state, fun _ => hfork, fun _ => hruntime⟩, fun _ => rfl,
    fun _ => ⟨hfork, hruntime⟩, h.held⟩

theorem sound_done (h : Sound d) (hstopped : d.stopped = false) (state : ForkDeploymentState)
    (phase : ForkDeployPhaseKey) : Sound { d.persist state phase with stage := .done } :=
  ⟨final_of_running hstopped, fun _ => rfl, h.destroyed, h.held⟩

/-- **The run goes on** before the deployer is done. -/
theorem sound_early (h : Sound d) (hstage : d.stage.late = false) (hstopped : d.stopped = false)
    (hturn : d.goOn outcome = some d') : Sound d' := by
  obtain ⟨hknown, hrow, hstopping⟩ := h.early hstage
  have hheld : d.held = true := by
    refine eq_true_of_ne_false fun hfree => ?_
    cases (h.held hfree).symm.trans hstopped
  have hnone : ¬ (d.known = true ∨ d.row.fork = true) := by
    rw [hknown, hrow]
    simp
  have hunknown : ¬ (d.known = true ∨ d.known = true) := by
    rw [hknown]
    simp
  unfold Deployment.goOn at hturn
  cases hs : d.stage with
  | reading =>
    rw [hs] at hturn
    cases outcome with
    | fine =>
      rw [← Option.some.inj hturn]
      exact sound_of_running hstopped hheld hstopping fun hnames => absurd hnames hnone
    | wrong | thrown =>
      rw [← Option.some.inj hturn]
      exact sound_of_running hstopped hheld hstopping fun _ => rfl
  | waiting | verifying | funding =>
    rw [hs] at hturn
    cases outcome with
    | fine =>
      rw [← Option.some.inj hturn]
      exact sound_of_running hstopped hheld hstopping fun hnames => absurd hnames hunknown
    | wrong | thrown =>
      rw [← Option.some.inj hturn]
      exact sound_of_running hstopped hheld hstopping fun _ => rfl
  | working phase =>
    rw [hs] at hturn
    cases outcome with
    | fine =>
      dsimp only at hturn
      split at hturn
      · rw [← Option.some.inj hturn]
        exact sound_of_running hstopped hheld hstopping fun hnames => absurd hnames hunknown
      · rw [← Option.some.inj hturn]
        exact sound_of_running hstopped hheld hstopping fun _ => rfl
    | wrong | thrown =>
      rw [← Option.some.inj hturn]
      exact sound_of_running hstopped hheld hstopping fun _ => rfl
  | observing | checking _ | failing _ | done =>
    rw [hs] at hstage
    cases hstage

/-- **The run goes on.** -/
theorem sound_goOn (h : Sound d) (hmeets : d.mayGoOn outcome = true)
    (hturn : d.goOn outcome = some d') : Sound d' := by
  unfold Deployment.mayGoOn at hmeets
  cases hstage : d.stage.late with
  | false =>
    refine sound_early h hstage ?_ hturn
    cases hs : d.stage with
    | reading | waiting | verifying | funding | working _ => simpa [hs] using hmeets
    | observing | checking _ | failing _ | done =>
      rw [hs] at hstage
      cases hstage
  | true =>
    unfold Deployment.goOn at hturn
    cases hs : d.stage with
    | reading | waiting | verifying | funding | working _ =>
      rw [hs] at hstage
      cases hstage
    | observing =>
      rw [hs] at hturn
      cases outcome with
      | fine | wrong =>
        rw [← Option.some.inj hturn]
        exact ⟨⟨h.state, h.fork, h.runtime⟩, fun _ => rfl, h.destroyed, h.held⟩
      | thrown =>
        rw [← Option.some.inj hturn]
        exact sound_fail h _
    | checking observed =>
      rw [hs] at hturn hmeets
      dsimp only at hturn hmeets
      split at hturn
      · rename_i hready
        rw [← Option.some.inj hturn]
        refine sound_done h ?_ _ _
        simpa [hready.1, hready.2] using hmeets
      · rw [← Option.some.inj hturn]
        exact sound_fail h _
    | failing phase =>
      rw [hs] at hturn hmeets
      rw [← Option.some.inj hturn]
      exact sound_done h (by simpa using hmeets) _ _
    | done =>
      rw [hs] at hturn
      cases hturn

/-! ### The condition is exact -/

theorem meets_of_stop (hfinal : Final d.stop) : (d.named || d.fork != some true) = true := by
  by_cases hnamed : d.named = true
  · rw [hnamed, Bool.true_or]
  · have hfork : d.stop.fork = d.fork := by
      unfold Deployment.stop
      rw [if_neg hnamed]
      cases d.held with
      | true => rfl
      | false => rfl
    have hstopped : d.stop.stopped = true := by
      unfold Deployment.stop
      rw [if_neg hnamed]
    have hdead := hfinal.fork hstopped
    rw [hfork] at hdead
    simp [hdead]

theorem not_final_of_row (hstopped : d.stopped = true) (hstate : d.row.state ≠ .STOPPED) :
    ¬ Final d :=
  fun hfinal => hstate (hfinal.state hstopped)

/-- **A turn of the run that breaks the condition breaks the law.** -/
theorem not_final_goOn (hmeets : d.mayGoOn outcome = false) (hturn : d.goOn outcome = some d') :
    ¬ Final d' := by
  unfold Deployment.mayGoOn at hmeets
  rw [Bool.or_eq_false_iff, Bool.not_eq_false'] at hmeets
  obtain ⟨hstopped, hstage⟩ := hmeets
  unfold Deployment.goOn at hturn
  cases hs : d.stage with
  | reading =>
    rw [hs] at hturn
    cases outcome with
    | fine =>
      rw [← Option.some.inj hturn]
      exact fun hfinal => hfinal.fork hstopped rfl
    | wrong | thrown =>
      rw [← Option.some.inj hturn]
      exact not_final_of_row hstopped fun hstate => by cases hstate
  | waiting | verifying | funding =>
    rw [hs] at hturn
    cases outcome with
    | fine | wrong | thrown =>
      rw [← Option.some.inj hturn]
      exact not_final_of_row hstopped fun hstate => by cases hstate
  | working phase =>
    rw [hs] at hturn
    cases outcome with
    | fine =>
      dsimp only at hturn
      split at hturn
      · rw [← Option.some.inj hturn]
        exact not_final_of_row hstopped fun hstate => by cases hstate
      · rw [← Option.some.inj hturn]
        exact not_final_of_row hstopped fun hstate => by cases hstate
    | wrong | thrown =>
      rw [← Option.some.inj hturn]
      exact not_final_of_row hstopped fun hstate => by cases hstate
  | observing =>
    rw [hs] at hstage
    cases hstage
  | checking observed =>
    rw [hs] at hturn hstage
    have hready : outcome = .fine ∧ observed = true := by simpa using hstage
    dsimp only at hturn
    rw [if_pos hready] at hturn
    rw [← Option.some.inj hturn]
    exact not_final_of_row hstopped fun hstate => by cases hstate
  | failing phase =>
    rw [hs] at hturn
    rw [← Option.some.inj hturn]
    exact not_final_of_row hstopped fun hstate => by cases hstate
  | done =>
    rw [hs] at hturn
    cases hturn

end Turns

/-! ## 6. Every run -/

section Runs

variable {lab lab' : List Deployment} {a : Action}

theorem mem_set_of_getElem? {i : Nat} {d e : Deployment} (h : lab[i]? = some d) :
    e ∈ lab.set i e :=
  List.mem_set (List.getElem?_eq_some_iff.mp h).1 e

/-- **A turn that meets the condition.** -/
theorem sound_step (h : ∀ d ∈ lab, Sound d) (hmeets : Meets lab a = true)
    (hstep : step lab a = some lab') : ∀ d ∈ lab', Sound d := by
  cases a with
  | deploy projectId =>
    by_cases hbusy : busy lab projectId = true
    · rw [step, if_pos hbusy] at hstep
      cases hstep
    · rw [step, if_neg hbusy] at hstep
      rw [← Option.some.inj hstep]
      intro d hd
      rcases List.mem_append.mp hd with hmem | hnew
      · exact h d hmem
      · rw [List.mem_singleton.mp hnew]
        exact sound_begin projectId
  | stop i =>
    obtain ⟨d, hi, hlab⟩ := Option.map_eq_some_iff.mp hstep
    rw [Meets, hi] at hmeets
    rw [← hlab]
    exact forall_mem_set h (sound_stop (h d (List.mem_of_getElem? hi)) hmeets)
  | stopGoesOn i n =>
    obtain ⟨e, hturn, hlab⟩ := Option.map_eq_some_iff.mp hstep
    obtain ⟨d, hi, hd⟩ := Option.bind_eq_some_iff.mp hturn
    rw [← hlab]
    exact forall_mem_set h (sound_stopGoesOn (h d (List.mem_of_getElem? hi)) hd)
  | goOn i outcome =>
    obtain ⟨e, hturn, hlab⟩ := Option.map_eq_some_iff.mp hstep
    obtain ⟨d, hi, hd⟩ := Option.bind_eq_some_iff.mp hturn
    rw [Meets, hi] at hmeets
    rw [← hlab]
    exact forall_mem_set h (sound_goOn (h d (List.mem_of_getElem? hi)) hmeets hd)

/-- **A turn that keeps the law meets the condition.** -/
theorem meets_of_final (hstep : step lab a = some lab') (hfinal : ∀ d ∈ lab', Final d) :
    Meets lab a = true := by
  cases a with
  | deploy projectId => rfl
  | stop i =>
    obtain ⟨d, hi, hlab⟩ := Option.map_eq_some_iff.mp hstep
    rw [Meets, hi]
    exact meets_of_stop (hfinal _ (hlab ▸ mem_set_of_getElem? hi))
  | stopGoesOn i n => rfl
  | goOn i outcome =>
    obtain ⟨e, hturn, hlab⟩ := Option.map_eq_some_iff.mp hstep
    obtain ⟨d, hi, hd⟩ := Option.bind_eq_some_iff.mp hturn
    rw [Meets, hi]
    refine eq_true_of_ne_false fun hbreaks => ?_
    exact not_final_goOn hbreaks hd (hfinal e (hlab ▸ mem_set_of_getElem? hi))

end Runs

/-- **A stop is final**: in every run whose turns meet the condition; and such a run keeps the law in
    its next turn exactly if that turn meets the condition too. -/
theorem stop_final (lab : List Deployment)
    (h : Reaches (guarded step fun lab a => Meets lab a = true) [] lab) :
    (∀ d ∈ lab, Final d) ∧ ∀ a lab', step lab a = some lab' →
      ((∀ d ∈ lab', Final d) ↔ Meets lab a = true) := by
  have hsound : ∀ d ∈ lab, Sound d := h.invariant (P := fun lab => ∀ d ∈ lab, Sound d)
    (fun _ _ _ hs hturn => sound_step hs (guarded_eq_some.mp hturn).1 (guarded_eq_some.mp hturn).2)
    (fun d hd => by cases hd)
  refine ⟨fun d hd => (hsound d hd).toFinal, fun a lab' hstep => ⟨meets_of_final hstep, ?_⟩⟩
  exact fun hmeets d hd => (sound_step hsound hmeets hstep d hd).toFinal

/-! ## 7. Two runs -/

/-- The run of the `i`th deployment goes on `n` times, and every await comes to what it should. -/
def goesOn (i : Nat) (n : Nat) : List Action := List.replicate n (.goOn i .fine)

/-- What the law is about. -/
def Deployment.seen (d : Deployment) : ForkDeploymentState × Option Bool × Option Bool × Bool :=
  (d.row.state, d.fork, d.runtime, d.stopped)

/-- A deployment is ready and is stopped; a second one of the project begins and fails. -/
theorem stop_final_twice : ∃ lab,
    Reaches (guarded step fun lab a => Meets lab a = true) [] lab ∧
      lab.map Deployment.seen = [(.STOPPED, some false, some true, true),
        (.FAILED, some false, none, false)] ∧
      ∀ d ∈ lab, Final d := by
  have hrun : (execute (guarded step fun lab a => Meets lab a = true) []
      (.deploy "p" :: goesOn 0 11 ++ .stop 0 :: .stopGoesOn 0 0 :: .deploy "p" :: goesOn 1 5 ++
        [.goOn 1 .thrown, .goOn 1 .fine])).map (List.map Deployment.seen)
      = some [(.STOPPED, some false, some true, true),
          (.FAILED, some false, none, false)] := by
    decide
  obtain ⟨lab, h, hseen⟩ := reaches_of_observed _ _ hrun
  exact ⟨lab, h, hseen, (stop_final lab h).1⟩

/-- **A stopped deployment becomes ready**: the stop finds no fork in the record while the deployer
    works, and the run never asks whether it was stopped. -/
theorem stopped_then_ready : ∃ lab, Reaches step [] lab ∧
    lab.map Deployment.seen = [(.READY_TO_ACTIVATE, some true, some false, true)] ∧
      ¬ ∀ d ∈ lab, Final d := by
  have hrun : (execute step [] (.deploy "p" :: goesOn 0 1 ++ .stop 0 :: goesOn 0 10)).map
      (List.map Deployment.seen)
      = some [(.READY_TO_ACTIVATE, some true, some false, true)] := by
    decide
  obtain ⟨lab, h, hseen⟩ := reaches_of_observed _ _ hrun
  refine ⟨lab, h, hseen, fun hfinal => ?_⟩
  obtain ⟨d, hlab, hd⟩ := List.map_eq_singleton_iff.mp hseen
  unfold Deployment.seen at hd
  simp only [Prod.mk.injEq] at hd
  obtain ⟨-, hfork, -, hstopped⟩ := hd
  exact (hfinal d (hlab ▸ List.mem_singleton_self d)).fork hstopped hfork

end ContextLock.Studio.ForkDeployment
