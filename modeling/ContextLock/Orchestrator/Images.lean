/-
  Subject:   Which images a deployment scans, publishes and starts.

  The image steps work on the first image of the manifest, and on the digest the build reported;
  the digest the manifest pins is not compared with it.
-/
import ContextLock.Orchestrator.Undone

namespace ContextLock.Orchestrator

open Js Deploy Machine

/-! ## 1. Calls about images -/

/-- The call is about an image of the manifest, and a digest is the one pinned for it. -/
def ImageCall (m : DeploymentManifest) : Effect → Prop
  | .imageBuild agentId => ∃ image ∈ m.runtimeImages, image.agentId = agentId
  | .imageScan digest => ∃ image ∈ m.runtimeImages, image.imageDigest = some digest
  | .imagePublish digest => ∃ image ∈ m.runtimeImages, image.imageDigest = some digest
  | .imageCreateDisabled agentId digest =>
    ∃ image ∈ m.runtimeImages, image.agentId = agentId ∧ image.imageDigest = some digest
  | _ => True

def CallsPinned (m : DeploymentManifest) (d : Deployment) : Prop :=
  ∀ run e k, d.process = .call run e k → ImageCall m e

/-- The image is started: its runtime is created, from the digest pinned for it. -/
def Started (image : ManifestRuntimeImage) (d : Deployment) : Move → Prop
  | .answer reply =>
    match d.process with
    | .call _ (.imageCreateDisabled agentId digest) _ =>
      agentId = image.agentId ∧ some digest = image.imageDigest ∧
        (reply (.imageCreateDisabled agentId digest)).map Except.isOk = some true
    | _ => False
  | _ => False

instance (image : ManifestRuntimeImage) :
    (d : Deployment) → (a : Move) → Decidable (Started image d a)
  | ⟨.call _ (.imageCreateDisabled agentId digest) _, _⟩, .answer reply =>
    inferInstanceAs (Decidable (agentId = image.agentId ∧ some digest = image.imageDigest ∧
      (reply (.imageCreateDisabled agentId digest)).map Except.isOk = some true))
  | ⟨.call _ .nowMs _, _⟩, .answer _ | ⟨.call _ (.sleep _) _, _⟩, .answer _
  | ⟨.call _ .waiting _, _⟩, .answer _ | ⟨.call _ (.getTransactionCount ..) _, _⟩, .answer _
  | ⟨.call _ (.getTransactionReceipt ..) _, _⟩, .answer _
  | ⟨.call _ (.getBlockNumber _) _, _⟩, .answer _ | ⟨.call _ (.resolveCalldata ..) _, _⟩, .answer _
  | ⟨.call _ (.sendTransaction ..) _, _⟩, .answer _ | ⟨.call _ (.observe ..) _, _⟩, .answer _
  | ⟨.call _ .creCurrentArtifact _, _⟩, .answer _ | ⟨.call _ (.creDeploy ..) _, _⟩, .answer _
  | ⟨.call _ (.creLifecycle ..) _, _⟩, .answer _ | ⟨.call _ .creAuthValid _, _⟩, .answer _
  | ⟨.call _ (.imageBuild _) _, _⟩, .answer _ | ⟨.call _ (.imageScan _) _, _⟩, .answer _
  | ⟨.call _ (.imagePublish _) _, _⟩, .answer _ | ⟨.ok _ _, _⟩, .answer _
  | ⟨.threw _ _, _⟩, .answer _ => instDecidableFalse
  | _, .begin .. | _, .broadcast _ | _, .chain _ | _, .reload _ => instDecidableFalse

/-- **The images of a run.** Every call is about a pinned image, and a run that is ready has
    started each image of the manifest. -/
structure ImagesPinned (m : DeploymentManifest) (past : List (Deployment × Move))
    (d : Deployment) : Prop where
  calls : CallsPinned m d
  called : ∀ e ∈ past, CallsPinned m e.1
  started : d.process.state.state = .READY_TO_ACTIVATE →
    ∀ image ∈ m.runtimeImages, ∃ e ∈ past, Started image e.1 e.2

def pinnedDigest (m : DeploymentManifest) : Option String :=
  m.runtimeImages.head?.bind (·.imageDigest)

/-- A build gives the pinned digest, and no runtime is found there already. -/
def imageAnswer (m : DeploymentManifest) : (e : Effect) → Reply e → Prop
  | .imageBuild _, .ok digest => pinnedDigest m = some digest
  | .observe step _ _, .ok seen => ¬ (step.type = .CREATE_RUNTIME_DISABLED ∧ seen.satisfied = true)
  | _, _ => True

instance (m : DeploymentManifest) : (e : Effect) → (r : Reply e) → Decidable (imageAnswer m e r)
  | .imageBuild _, .ok digest => inferInstanceAs (Decidable (pinnedDigest m = some digest))
  | .imageBuild _, .error _ => instDecidableTrue
  | .observe step _ _, .ok seen => inferInstanceAs
      (Decidable (¬ (step.type = .CREATE_RUNTIME_DISABLED ∧ seen.satisfied = true)))
  | .observe _ _ _, .error _ => instDecidableTrue
  | .nowMs, _ | .sleep _, _ | .waiting, _ | .getTransactionCount _ _ _, _
  | .getTransactionReceipt _ _, _ | .getBlockNumber _, _ | .resolveCalldata _ _, _
  | .sendTransaction _ _, _ | .creCurrentArtifact, _ | .creDeploy _ _ _ _, _
  | .creLifecycle _ _, _ | .creAuthValid, _ | .imageScan _, _ | .imagePublish _, _
  | .imageCreateDisabled _ _, _ => instDecidableTrue

deriving instance DecidableEq for ManifestRuntimeImage

/-- A move of a run for the images of `m`, whose answers are as they are to be. -/
def BuildsPinned (m : DeploymentManifest) (d : Deployment) : Move → Prop
  | .begin _ _ manifest _ => manifest.runtimeImages = m.runtimeImages
  | .answer reply =>
    match d.process with
    | .call _ e _ => ∀ r ∈ reply e, imageAnswer m e r
    | _ => True
  | _ => True

instance (m : DeploymentManifest) : (d : Deployment) → (a : Move) →
    Decidable (BuildsPinned m d a)
  | ⟨.call _ e _, _⟩, .answer reply =>
    inferInstanceAs (Decidable (∀ r ∈ reply e, imageAnswer m e r))
  | ⟨.ok _ _, _⟩, .answer _ | ⟨.threw _ _, _⟩, .answer _ => instDecidableTrue
  | _, .begin _ _ manifest _ =>
    inferInstanceAs (Decidable (manifest.runtimeImages = m.runtimeImages))
  | _, .broadcast _ | _, .chain _ | _, .reload _ => instDecidableTrue

/-- The images of the manifest are one image. -/
structure OneImage (m : DeploymentManifest) (image : ManifestRuntimeImage) : Prop where
  first : m.runtimeImages.head? = some image
  same : ∀ i ∈ m.runtimeImages, i.agentId = image.agentId ∧ i.imageDigest = image.imageDigest

def CreatesRuntime (plan : DeploymentPlan) : Prop :=
  ∃ s ∈ plan.steps, s.type = .CREATE_RUNTIME_DISABLED ∧ s.done = false

/-! ## 2. Steps that are no image steps -/

abbrev ImageFree {α : Type} (m : Orchestrated α) : Prop :=
  m.Keeps DeploymentRun.runtimeImageDigest fun e => ¬ e.aboutImages

instance : Background DeploymentRun.runtimeImageDigest :=
  ⟨fun _ _ => rfl, fun _ _ _ _ => rfl, fun _ _ => rfl, fun _ _ _ => rfl⟩

theorem digest_status (stepId : String) : FreeOfStatus DeploymentRun.runtimeImageDigest stepId :=
  fun _ _ => rfl

theorem digest_record (stepId : String) : FreeOfRecord DeploymentRun.runtimeImageDigest stepId :=
  fun _ _ => rfl

theorem digest_readiness : FreeOfReadiness DeploymentRun.runtimeImageDigest := fun _ _ => rfl

section Steps

variable {step : DeploymentStep} {manifest : DeploymentManifest}

/-- **A step that is no image step** keeps the digest and calls no image service. -/
theorem handler_imageFree {deps : Deps} {polls : Nat} (h : ¬ onImages step.type) :
    ImageFree (handler deps polls step manifest) :=
  handler_keeps_of (digest_status _) trivial
    (fun _ => executeWrite_keeps (digest_status _) (digest_record _) _ _ trivial fun _ _ => id)
    fun himage => absurd himage h

theorem handler_image {deps : Deps} {polls : Nat} (h : onImages step.type) :
    handler deps polls step manifest = executeImageStep step manifest := by
  unfold handler
  split <;> simp_all [onImages]

end Steps

/-! ## 3. Calls about pinned images -/

def DigestPinned (m : DeploymentManifest) (run : DeploymentRun) : Prop :=
  ∀ digest ∈ run.runtimeImageDigest, pinnedDigest m = some digest

def imageRules (m : DeploymentManifest) : Rules DeploymentRun Effect Reply Unit where
  drift _ _ _ _ := True
  answer _ e _ r _ := imageAnswer m e r
  holds run e _ := DigestPinned m run ∧ ImageCall m e

abbrev StaysPinned (m : DeploymentManifest)
    (p : Script DeploymentRun Effect Reply DeployError Unit) : Prop :=
  p.Safe (imageRules m) (fun _ run _ => DigestPinned m run) (fun _ run _ => DigestPinned m run) ()

section Pinned

variable {m manifest : DeploymentManifest} {run : DeploymentRun}

theorem image_stable : (imageRules m).Stable DeploymentRun.runtimeImageDigest
    (fun e => ¬ e.aboutImages) fun digest _ => ∀ d ∈ digest, pinnedDigest m = some d where
  drift _ _ _ _ _ _ h := h
  answer _ _ _ _ _ _ _ h := h
  holds _ e _ he h := by
    refine ⟨h, ?_⟩
    cases e <;> first | exact trivial | exact absurd trivial he

theorem staysPinned_bind {α : Type} {a : Orchestrated α} {f : α → Orchestrated Unit}
    (ha : ImageFree a) (h : DigestPinned m run)
    (hf : ∀ x run', DigestPinned m run' → StaysPinned m (f x run')) :
    StaysPinned m ((a >>= f) run) := by
  refine Script.Safe.bind ?_
  refine (Script.Safe.of_keeps image_stable (ha run) h).mono ?_ ?_
  · intro x run' _ hend
    refine hf x run' ?_
    rw [DigestPinned, hend.1]
    exact h
  · intro _ run' _ hend
    rw [DigestPinned, hend.1]
    exact h

theorem ImageFree.staysPinned {a : Orchestrated Unit} (ha : ImageFree a)
    (h : DigestPinned m run) : StaysPinned m (a run) := by
  refine (Script.Safe.of_keeps image_stable (ha run) h).mono ?_ ?_
  · intro _ run' _ hend
    rw [DigestPinned, hend.1]
    exact h
  · intro _ run' _ hend
    rw [DigestPinned, hend.1]
    exact h

theorem call_staysPinned {e : Effect} {f : Reply e → Orchestrated Unit} (h : DigestPinned m run)
    (he : ImageCall m e) (hf : ∀ r, imageAnswer m e r → StaysPinned m (f r run)) :
    StaysPinned m ((Act.call e >>= f) run) :=
  Script.Safe.wait (A := fun _ => True) (fun _ _ _ _ => trivial) (fun _ _ => ⟨h, he⟩) trivial
    fun _ reply _ _ hreply => hf reply hreply

/-- What works on a digest that was built, works on the pinned one. -/
theorem builtDigest_staysPinned {step : DeploymentStep} {missing : String}
    {f : String → Orchestrated Unit} (h : DigestPinned m run)
    (hf : ∀ digest, pinnedDigest m = some digest → StaysPinned m (f digest run)) :
    StaysPinned m ((do
      let digest ← Act.lift (builtDigest (← get) step missing)
      f digest : Orchestrated Unit) run) := by
  simp only [Act.bind_apply, Act.get_apply, Script.bind_ok, builtDigest]
  cases hdigest : truthy run.runtimeImageDigest with
  | none => exact h
  | some digest => exact hf digest (h digest (eq_of_truthy hdigest))

theorem mem_of_first {image : ManifestRuntimeImage} (h : m.runtimeImages.head? = some image) :
    image ∈ m.runtimeImages := List.mem_of_mem_head? h

theorem digest_of_first {image : ManifestRuntimeImage} (h : m.runtimeImages.head? = some image)
    {digest : String} (hd : pinnedDigest m = some digest) : image.imageDigest = some digest := by
  rw [pinnedDigest, h] at hd
  exact hd

theorem imageEffect_staysPinned {step : DeploymentStep} {image : ManifestRuntimeImage}
    (hfirst : m.runtimeImages.head? = some image) (h : DigestPinned m run) :
    StaysPinned m (imageEffect step image run) := by
  have hmem := mem_of_first hfirst
  generalize heffect : imageEffect step image = effect
  unfold imageEffect at heffect
  split at heffect <;> subst heffect
  · refine call_staysPinned h ⟨image, hmem, rfl⟩ fun r hr => ?_
    cases r with
    | error e => exact h
    | ok digest =>
      have hdigest : pinnedDigest m = some digest := hr
      have hnew : DigestPinned m { run with runtimeImageDigest := some digest } := by
        intro d hd
        rw [hdigest]
        exact hd
      show StaysPinned m (log _ _ { run with runtimeImageDigest := some digest })
      exact ImageFree.staysPinned (log_keeps _ _) hnew
  · refine builtDigest_staysPinned h fun digest hd => ?_
    refine call_staysPinned h ⟨image, hmem, digest_of_first hfirst hd⟩ fun r _ => ?_
    cases r with
    | error e => exact h
    | ok scan =>
      show StaysPinned m ((if ¬ scan.1 = true then _ else _ : Orchestrated Unit) run)
      split
      · exact ImageFree.staysPinned (.bind (setStatus_keeps (digest_status _) _) fun _ =>
          .bind (moveTo_keeps_of_free digest_readiness _) fun _ => .fail _) h
      · exact ImageFree.staysPinned (log_keeps _ _) h
  · refine builtDigest_staysPinned h fun digest hd => ?_
    refine call_staysPinned h ⟨image, hmem, digest_of_first hfirst hd⟩ fun r _ => ?_
    cases r with
    | error e => exact h
    | ok u => exact ImageFree.staysPinned (log_keeps _ _) h
  · refine builtDigest_staysPinned h fun digest hd => ?_
    refine call_staysPinned h ⟨image, hmem, rfl, digest_of_first hfirst hd⟩ fun r _ => ?_
    cases r with
    | error e => exact h
    | ok revision => exact ImageFree.staysPinned (log_keeps _ _) h
  · exact h

variable (himages : manifest.runtimeImages = m.runtimeImages)

include himages

theorem handler_staysPinned (deps : Deps) (polls : Nat) {step : DeploymentStep}
    (h : DigestPinned m run) : StaysPinned m (handler deps polls step manifest run) := by
  by_cases hon : onImages step.type
  swap
  · exact (handler_imageFree hon).staysPinned h
  rw [handler_image hon]
  unfold executeImageStep
  cases hfirst : manifest.runtimeImages.head? with
  | none => exact h
  | some image =>
    rw [himages] at hfirst
    exact Script.Safe.bind ((imageEffect_staysPinned hfirst h).mono
      (fun _ _ _ h' => ImageFree.staysPinned (setStatus_keeps (digest_status _) _) h')
      fun _ _ _ h' => h')

theorem executeStep_staysPinned (deps : Deps) (polls : Nat) {step : DeploymentStep}
    (h : DigestPinned m run) : StaysPinned m (executeStep deps polls step manifest run) := by
  unfold executeStep
  split
  · exact h
  refine staysPinned_bind (.lift _) h fun phase run₁ h₁ => ?_
  refine staysPinned_bind (moveTo_keeps_of_free digest_readiness _) h₁ fun _ run₂ h₂ => ?_
  refine staysPinned_bind (a := (get : Orchestrated DeploymentRun)) .get h₂ fun run₃ run₄ h₄ => ?_
  cases run₃.transactions.get? step.id with
  | none => exact handler_staysPinned himages deps polls h₄
  | some existing =>
    exact staysPinned_bind (.lift _) h₄ fun _ run₅ h₅ => handler_staysPinned himages deps polls h₅

theorem runSteps_staysPinned (deps : Deps) (polls maxSteps : Nat) (h : DigestPinned m run) :
    StaysPinned m (runSteps deps polls manifest maxSteps run) := by
  induction maxSteps generalizing run with
  | zero => exact h
  | succ n ih =>
    cases hn : nextStep run with
    | none =>
      rw [runSteps_of_none hn]
      exact h
    | some step =>
      rw [runSteps_of_some hn]
      exact Script.Safe.bind ((executeStep_staysPinned himages deps polls h).mono
        (fun _ _ _ h' => ih h') fun _ _ _ h' => h')

/-- **A call of the orchestrator.** -/
theorem runToCompletion_staysPinned (deps : Deps) (polls maxSteps : Nat)
    (h : DigestPinned m run) :
    StaysPinned m (runToCompletion deps polls manifest maxSteps run) := by
  by_cases ha : run.state ∈ RESUMABLE_STATES ∧ assertApprovedFor run.plan manifest = .ok ()
  · rw [runToCompletion_of_approved ha.1 ha.2]
    refine staysPinned_bind (resumeApproved_keeps digest_status digest_record _ fun _ => trivial) h fun _ run₁ h₁ => ?_
    refine Script.Safe.bind ((runSteps_staysPinned himages deps polls maxSteps h₁).mono ?_
      fun _ _ _ h' => h')
    intro _ run₂ _ h₂
    exact ImageFree.staysPinned (finish_keeps digest_readiness) h₂
  · obtain ⟨e, he⟩ := runToCompletion_of_refused deps polls maxSteps (not_and_or.mp ha)
    rw [he]
    exact h

end Pinned

/-! ## 4. The step that creates the runtime -/

def creates : (e : Effect) → Reply e → Prop
  | .imageCreateDisabled _ _, .ok _ => True
  | .observe step _ _, .ok seen => step.type = .CREATE_RUNTIME_DISABLED ∧ seen.satisfied = true
  | _, _ => False

section Creates

variable {t : DeploymentPlan} {stepId : String} {run : DeploymentRun}

theorem imageEffect_creates {step : DeploymentStep} {image : ManifestRuntimeImage}
    (htype : step.type = .CREATE_RUNTIME_DISABLED) (h : Open t stepId run)
    {f : Unit → Orchestrated Unit} :
    StaysOpen creates t stepId ((imageEffect step image >>= f) run) := by
  refine Script.Safe.bind ?_
  unfold imageEffect
  simp only [htype, Act.bind_apply, Act.get_apply, Script.bind_ok, builtDigest]
  cases truthy run.runtimeImageDigest with
  | none => exact h
  | some digest =>
    refine Script.Safe.wait (A := fun _ => True) (fun _ _ _ _ => trivial) (fun _ _ => h) trivial
      fun _ reply _ _ hnot => ?_
    cases reply with
    | error e => exact h
    | ok revision => exact absurd trivial hnot

theorem needsRuntime {plan : DeploymentPlan} {knownSignerIds : List String}
    (hvalid : validatePlan plan knownSignerIds = .ok ()) {v : DeploymentStep}
    (hv : v ∈ plan.steps) (hvtype : v.type = .CREATE_RUNTIME_DISABLED) :
    NeedsAnswer creates plan.terms v.id := by
  have htype : ∀ s : DeploymentStep, s.terms ∈ plan.terms.steps → s.id = v.id →
      s.type = .CREATE_RUNTIME_DISABLED := fun s hs hid =>
    (congrArg DeploymentStep.type (terms_unique hvalid hv hs hid) :).trans hvtype
  refine ⟨⟨v.terms, mem_terms_of_mem hv, rfl⟩, ?_, ?_⟩
  · intro step manifest hs hid created seen hsat
    exact ⟨htype step hs hid, hsat⟩
  · intro deps polls step manifest run hs hid hopen
    have hstep := htype step hs hid
    rw [handler_image (by rw [hstep]; trivial)]
    unfold executeImageStep
    cases manifest.runtimeImages.head? with
    | none => exact hopen
    | some image => exact imageEffect_creates hstep hopen

end Creates

/-! ## 5. Whole runs -/

/-- Every run of the past had a pinned digest and calls about pinned images, and the one going
    on keeps to them. -/
structure Pinned (m : DeploymentManifest) (past : List (Deployment × Move)) (d : Deployment) :
    Prop where
  past : ∀ e ∈ past, DigestPinned m e.1.process.state ∧ CallsPinned m e.1
  going : StaysPinned m d.process

section Journeys

variable {m : DeploymentManifest} {past : List (Deployment × Move)} {d : Deployment}

theorem Pinned.now (h : Pinned m past d) : DigestPinned m d.process.state ∧ CallsPinned m d := by
  obtain ⟨p, w⟩ := d
  cases p with
  | ok a s | threw e s => exact ⟨h.going, fun run e k hp => by cases hp⟩
  | call s e k =>
    obtain ⟨hdigest, hcall⟩ := Script.Safe.holds h.going
    refine ⟨hdigest, fun run e' k' hp => ?_⟩
    cases hp
    exact hcall

theorem pinned_move {d' : Deployment} {a : Move} (h : Pinned m past d) (hs : step d a = some d')
    (hanswer : BuildsPinned m d a)
    (hrecalled : ∀ r, a = .reload r →
      r = d.process.state ∨ ∃ e ∈ past, r = e.1.process.state) :
    Pinned m ((d, a) :: past) d' := by
  refine ⟨?_, ?_⟩
  · intro e he
    obtain rfl | hin := List.mem_cons.mp he
    · exact h.now
    · exact h.past e hin
  cases a with
  | begin deps polls manifest maxSteps =>
    simp only [step] at hs
    split at hs
    · obtain rfl := Option.some.inj hs
      exact runToCompletion_staysPinned hanswer deps polls maxSteps h.now.1
    · cases hs
  | answer reply =>
    obtain ⟨s, e, k, r, hp, hr, _, rfl⟩ := answered_eq_some hs
    obtain ⟨p, w⟩ := d
    obtain rfl : p = .call s e k := hp
    exact Script.Safe.answered h.going (hanswer r hr)
  | broadcast hash =>
    obtain ⟨w', _, rfl⟩ := Option.map_eq_some_iff.mp hs
    exact h.going
  | chain ledger =>
    simp only [step] at hs
    split at hs
    · obtain rfl := Option.some.inj hs
      exact h.going
    · cases hs
  | reload run =>
    obtain rfl := Option.some.inj hs
    obtain rfl | ⟨e, he, rfl⟩ := hrecalled run rfl
    · exact h.now.1
    · exact (h.past e he).1

theorem journey_pinned {deploymentId : String} {plan : DeploymentPlan}
    {count : Nat → String → Nat} (h : Journey (newRun deploymentId plan) count past d)
    (hanswers : ∀ e ∈ past, BuildsPinned m e.1 e.2) : Pinned m past d := by
  induction h with
  | start => exact ⟨by simp, fun digest hd => by cases hd⟩
  | @move past d d' a before taken recalled ih =>
    exact pinned_move (ih fun e he => hanswers e (List.mem_cons_of_mem _ he)) taken
      (hanswers (d, a) List.mem_cons_self) recalled

theorem created_of_gives {a : Move} (h : Gives creates d a) (hanswer : BuildsPinned m d a) :
    ∃ run agentId digest k reply revision,
      d.process = .call run (.imageCreateDisabled agentId digest) k ∧ a = .answer reply ∧
        reply (.imageCreateDisabled agentId digest) = some (.ok revision) := by
  obtain ⟨p, w⟩ := d
  cases a with
  | answer reply =>
    cases p with
    | ok u s => exact h.elim
    | threw e s => exact h.elim
    | call s e k =>
      obtain ⟨r, hr, hgives⟩ := h
      have hnot := hanswer r hr
      cases e with
      | imageCreateDisabled agentId digest =>
        cases r with
        | error e => exact hgives.elim
        | ok revision => exact ⟨s, agentId, digest, k, reply, revision, rfl, rfl, hr⟩
      | observe step manifest created =>
        cases r with
        | error e => exact hgives.elim
        | ok seen => exact absurd hgives hnot
      | _ => exact hgives.elim
  | _ => exact h.elim

/-- **When a run has the images of its manifest**: where these are one image, the plan creates
    its runtime, and every build gives the digest that is pinned, each digest that is scanned,
    published or started is the pinned one, and a run that is ready has started the image. -/
theorem images_pinned {image : ManifestRuntimeImage} {plan : DeploymentPlan}
    {knownSignerIds : List String} (hone : OneImage m image)
    (hvalid : validatePlan plan knownSignerIds = .ok ()) (hasks : CreatesRuntime plan)
    {deploymentId : String} {count : Nat → String → Nat}
    (h : Journey (newRun deploymentId plan) count past d)
    (hanswers : ∀ e ∈ past, BuildsPinned m e.1 e.2) : ImagesPinned m past d := by
  have hpinned := journey_pinned h hanswers
  have hcalled : ∀ e ∈ past, CallsPinned m e.1 := fun e he => (hpinned.past e he).2
  refine ⟨hpinned.now.2, hcalled, fun hready i hi => ?_⟩
  obtain ⟨v, hv, hvtype, hundone⟩ := hasks
  obtain ⟨e, he, hgives⟩ | hu := journey_undone (needsRuntime hvalid hv hvtype)
    (open_newRun hvalid hv hundone deploymentId) h
  · obtain ⟨run, agentId, digest, k, reply, revision, hp, ha, hreply⟩ :=
      created_of_gives hgives (hanswers e he)
    obtain ⟨i', hi', hagent, hdigest⟩ := hcalled e he run _ k hp
    refine ⟨e, he, ?_⟩
    simp only [Started, ha, hp]
    refine ⟨?_, ?_, by rw [hreply]; rfl⟩
    · rw [← hagent, (hone.same i' hi').1, (hone.same i hi).1]
    · rw [← hdigest, (hone.same i' hi').2, (hone.same i hi).2]
  · exact absurd hready hu.state.unready

end Journeys

/-! ## 6. A deployment of images -/

def imageOf (agentId digest : String) : ManifestRuntimeImage :=
  ⟨agentId, "latest", some digest, none, none, none, none⟩

def imageManifest (images : List ManifestRuntimeImage) : DeploymentManifest :=
  { consumerManifest with runtimeImages := images }

def imageSteps : List DeploymentStep :=
  [observation "build" .BUILD_RUNTIME_IMAGE, observation "scan" .SCAN_RUNTIME_IMAGE,
   { observation "publish" .PUBLISH_RUNTIME_IMAGE with reversible := false },
   observation "create" .CREATE_RUNTIME_DISABLED]

/-- The plan of these steps, approved for a manifest. -/
def imagePlan (m : DeploymentManifest) : DeploymentPlan :=
  let plan : DeploymentPlan :=
    { planId := "dp", manifestHash := manifestHash m, steps := imageSteps,
      readiness := .DEPLOYMENT_APPROVED, approval := none }
  { plan with approval := some (Deploy.approvalOf m plan "ops" 1) }

theorem imagePlan_approved (m : DeploymentManifest) :
    assertApprovedFor (imagePlan m) m = .ok () :=
  assertApprovedFor_eq_ok.mpr ⟨rfl, _, rfl, approvalOf_covers _ _ _ _⟩

theorem imagePlan_valid (m : DeploymentManifest) : validatePlan (imagePlan m) [] = .ok () := by
  have hsteps : validatePlan ⟨"dp", "", imageSteps, .DEPLOYMENT_APPROVED, none⟩ [] = .ok () := by
    decide
  exact hsteps

/-- Services that answer every call alike; a build gives the digest. -/
def imageReply (digest : String) : (e : Effect) → Option (Reply e)
  | .nowMs => some 1
  | .observe _ _ _ => some (.ok ⟨false, "looked", none⟩)
  | .imageBuild _ => some (.ok digest)
  | .imageScan _ => some (.ok (true, "clean"))
  | .imagePublish _ => some (.ok ())
  | .imageCreateDisabled _ _ => some (.ok "revision")
  | _ => none

/-- A run of one call, up to readiness. -/
def imageRun (m : DeploymentManifest) (digest : String) : List Move :=
  .begin ⟨[], none, none⟩ 3 m 100 :: List.replicate 15 (.answer (imageReply digest))

def imageStart (m : DeploymentManifest) : Deployment :=
  start (newRun "deployment" (imagePlan m)) fun _ _ => 0

/-- A run followed past the check, as one with its past. -/
theorem journey_imageRun {m : DeploymentManifest} {digest : String}
    {guard : Deployment → Move → Prop} [∀ d a, Decidable (guard d a)] {state : DeploymentState}
    (h : (execute (guarded stepApproved guard) (imageStart m) (imageRun m digest)).map
      (·.process.state.state) = some state) :
    ∃ past d, Journey (newRun "deployment" (imagePlan m)) (fun _ _ => 0) past d ∧
      d.process.state.state = state ∧ ∀ e ∈ past, guard e.1 e.2 := by
  obtain ⟨d, hd, hready⟩ := Option.map_eq_some_iff.mp h
  have hkept : KeptTerms (imagePlan m).terms (imageStart m) := rfl
  have happroved : ∀ a ∈ imageRun m digest, a.approvedFor (imagePlan m).terms := by
    intro a ha
    rcases List.mem_cons.mp ha with rfl | ha
    · exact imagePlan_approved m
    · rw [(List.mem_replicate.mp ha).2]
      trivial
  have hreload : ∀ a ∈ imageRun m digest, ∀ r, a ≠ .reload r := by
    intro a ha r heq
    subst heq
    exact happroved _ ha
  have hstep := execute_approved (fun _ _ _ hg => hg) hkept happroved hd
  obtain ⟨past, hj, hguard⟩ := journey_of_execute .start (by simp) hreload hstep
  exact ⟨past, d, hj, hready, hguard⟩

/-- A build as pinned: the run is ready, and has started the image. -/
theorem images_pinned_built : ∃ past d,
    Journey (newRun "deployment" (imagePlan (imageManifest [imageOf "guardian" "sha256:aa"])))
      (fun _ _ => 0) past d ∧ d.process.state.state = .READY_TO_ACTIVATE ∧
      ImagesPinned (imageManifest [imageOf "guardian" "sha256:aa"]) past d := by
  let m := imageManifest [imageOf "guardian" "sha256:aa"]
  have hrun : (execute (guarded stepApproved (BuildsPinned m)) (imageStart m)
      (imageRun m "sha256:aa")).map (·.process.state.state) = some .READY_TO_ACTIVATE := by decide
  obtain ⟨past, d, hj, hready, hanswers⟩ := journey_imageRun hrun
  have hone : OneImage m (imageOf "guardian" "sha256:aa") := by
    refine ⟨rfl, fun i hi => ?_⟩
    obtain rfl := List.mem_singleton.mp hi
    exact ⟨rfl, rfl⟩
  have hcreates : CreatesRuntime (imagePlan m) :=
    ⟨observation "create" .CREATE_RUNTIME_DISABLED, by simp [imagePlan, imageSteps], rfl, rfl⟩
  exact ⟨past, d, hj, hready, images_pinned hone (imagePlan_valid m) hcreates hj hanswers⟩

/-- **A run that is ready and has started no image as pinned**: the first image is started from
    another digest, which its build gave, and the second one is left out. -/
theorem image_unpinned : ∃ past d,
    Journey (newRun "deployment" (imagePlan (imageManifest
        [imageOf "guardian" "sha256:aa", imageOf "treasury" "sha256:bb"])))
      (fun _ _ => 0) past d ∧ d.process.state.state = .READY_TO_ACTIVATE ∧
      ¬ ImagesPinned (imageManifest
        [imageOf "guardian" "sha256:aa", imageOf "treasury" "sha256:bb"]) past d ∧
      ∀ e ∈ past, ¬ Started (imageOf "guardian" "sha256:aa") e.1 e.2 ∧
        ¬ Started (imageOf "treasury" "sha256:bb") e.1 e.2 := by
  let m := imageManifest [imageOf "guardian" "sha256:aa", imageOf "treasury" "sha256:bb"]
  have hrun : (execute (guarded stepApproved fun d a =>
      ¬ Started (imageOf "guardian" "sha256:aa") d a ∧
        ¬ Started (imageOf "treasury" "sha256:bb") d a) (imageStart m)
      (imageRun m "sha256:cc")).map (·.process.state.state) = some .READY_TO_ACTIVATE := by decide
  obtain ⟨past, d, hj, hready, hnot⟩ := journey_imageRun hrun
  refine ⟨past, d, hj, hready, fun hpinned => ?_, hnot⟩
  obtain ⟨e, he, hstarted⟩ := hpinned.started hready (imageOf "guardian" "sha256:aa")
    List.mem_cons_self
  exact (hnot e he).1 hstarted

end ContextLock.Orchestrator
