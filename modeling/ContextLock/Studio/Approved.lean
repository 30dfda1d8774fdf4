/-
  Subject:   Which blueprints code is generated for.

  The approval is a time on the row of the build. Saving a blueprint, by an edit or by a new
  design, leaves that time alone, and an approval does not ask whether the current blueprint is
  buildable. So a build is of an approved design where every approval finds a buildable blueprint
  and no blueprint was saved between the last approval and the build.
-/
import ContextLock.Studio.Frames

namespace ContextLock.Studio

open Machine

variable {β Req Arch : Type}

/-! ## 1. The law -/

/-- Every blueprint that code was generated for was approved and is buildable; unless one was
    saved since the last approval, the current blueprint of an approved build was approved. -/
structure ApprovedBuilds (T : Tools β Req Arch) (d : Desk β) : Prop where
  buildable : ∀ bp ∈ d.watch.approvals, (validateBlueprint T bp).buildable = true
  rendered : ∀ bp ∈ d.watch.rendered, bp ∈ d.watch.approvals
  current : d.watch.saved = false → d.build.approvedAt.isSome = true →
    ∀ bp, d.build.currentBlueprint = some bp → bp ∈ d.watch.approvals

def approvalsContract (T : Tools β Req Arch) : Pool.Contract (Desk β) (Op β) :=
  .common (Op β) (ApprovedBuilds T) (fun d d' => d.watch.approvals ⊆ d'.watch.approvals)
    (fun _ _ h => h) (fun _ _ _ h h' _ hmem => h' (h hmem))

variable {T : Tools β Req Arch} {d d' : Desk β}

/-- **A tame update keeps the law.** -/
theorem ApprovedBuilds.tame (h : ApprovedBuilds T d) (hd : Tame d d') : ApprovedBuilds T d' := by
  have hwatch := hd.watch
  have happrovals : d'.watch.approvals = d.watch.approvals := by rw [hwatch]
  have hrendered : d'.watch.rendered = d.watch.rendered := by rw [hwatch]
  refine ⟨?_, ?_, fun hsaved happroved bp hbp => ?_⟩
  · rw [happrovals]
    exact h.buildable
  · rw [happrovals, hrendered]
    exact h.rendered
  · rcases hd.blueprints with hnow | ⟨hsame, hblueprints⟩
    · rw [hnow] at hsaved
      cases hsaved
    · rw [happrovals]
      refine h.current (hsame ▸ hsaved) (hd.approvedAt ▸ happroved) bp ?_
      rw [← hbp, Build.currentBlueprint, Build.currentBlueprint, hblueprints]

theorem approvals_of_tame (hd : Tame d d') : d.watch.approvals ⊆ d'.watch.approvals := by
  rw [hd.watch]
  exact fun _ h => h

/-! ## 2. The operations -/

section Operations

variable {instant : Ask → Bool} {op : Op β}

theorem approvals_of_within {p : Job β Req Arch (Reply β)} (hp : p.Within Tame)
    (h : ApprovedBuilds T d) :
    p.Safe instant ((approvalsContract T).law op) (fun _ _ => True) (fun _ _ => True) d :=
  (hp.safe (L := (approvalsContract T).law op) (I := fun _ => True)
      (fun _ _ _ hinv htame => ⟨ApprovedBuilds.tame hinv htame, approvals_of_tame htame, trivial⟩)
      (fun _ _ _ _ _ => trivial) trivial h).mono (fun _ _ _ => trivial) fun _ _ _ => trivial

/-- **An approval** of a buildable blueprint. -/
theorem approve_approvals {acknowledgeFindings : List String} (h : ApprovedBuilds T d)
    (hbuildable : ∀ bp, d.build.currentBlueprint = some bp →
      (validateBlueprint T bp).buildable = true) :
    (approve acknowledgeFindings : Job β Req Arch _).Safe Ask.instant
      ((approvalsContract T).law op) (fun _ _ => True) (fun _ _ => True) d := by
  refine Thread.Safe.bind (Thread.Safe.read h ?_)
  by_cases hstage : d.build.stage ≠ .AWAITING_APPROVAL
  · rw [if_pos hstage]
    trivial
  · rw [if_neg hstage]
    by_cases hcodes : d.build.unacknowledged acknowledgeFindings ≠ []
    · rw [if_pos hcodes]
      trivial
    · rw [if_neg hcodes]
      refine Thread.Safe.bind (Thread.Safe.answer rfl fun approvedAt => ?_)
      have hnoted : ApprovedBuilds T { d with watch := { d.watch with
          approvals := d.watch.approvals ++ d.build.currentBlueprint.toList
          saved := false
          approvedAfter := d.watch.approvedAfter || d.watch.abandoned } } := by
        refine ⟨fun bp hbp => ?_, fun bp hbp => ?_, fun _ _ bp hbp => ?_⟩
        · rcases List.mem_append.mp hbp with hold | hnew
          · exact h.buildable bp hold
          · exact hbuildable bp (Option.mem_toList.mp hnew)
        · exact List.mem_append_left _ (h.rendered bp hbp)
        · exact List.mem_append_right _ (Option.mem_toList.mpr hbp)
      refine Thread.Safe.bind (Thread.Safe.update hnoted (fun _ => List.mem_append_left _) ?_)
      refine Thread.Safe.bind (Thread.Safe.update ?_ (fun _ hbp => hbp) trivial)
      exact ⟨hnoted.buildable, hnoted.rendered, fun _ _ bp hbp =>
        List.mem_append_right _ (Option.mem_toList.mpr hbp)⟩

theorem abandon_approvals {reason : String} (h : ApprovedBuilds T d) :
    (abandon reason : Job β Req Arch _).Safe instant ((approvalsContract T).law op)
      (fun _ _ => True) (fun _ _ => True) d := by
  refine Thread.Safe.bind (Thread.Safe.read h ?_)
  split
  · trivial
  · refine Thread.Safe.bind (Thread.Safe.update ?_ (fun _ hbp => hbp) ?_)
    · exact ⟨h.buildable, h.rendered, h.current⟩
    · refine Thread.Safe.bind (Thread.Safe.update ?_ (fun _ hbp => hbp) trivial)
      exact ⟨h.buildable, h.rendered, h.current⟩

theorem ApprovedBuilds.builds {blueprint : Blueprint β} (h : ApprovedBuilds T d)
    (hmem : blueprint ∈ d.watch.approvals) (hd : Builds blueprint d d') :
    ApprovedBuilds T d' ∧ d.watch.approvals ⊆ d'.watch.approvals := by
  cases hd with
  | tame htame => exact ⟨h.tame htame, approvals_of_tame htame⟩
  | rendered =>
    refine ⟨⟨h.buildable, fun bp hbp => ?_, h.current⟩, fun _ hbp => hbp⟩
    rcases List.mem_append.mp hbp with hold | hnew
    · exact h.rendered bp hold
    · rw [List.mem_singleton.mp hnew]
      exact hmem
  | completed c => exact ⟨⟨h.buildable, h.rendered, h.current⟩, fun _ hbp => hbp⟩

/-- **A build**, where no blueprint was saved since the approval. -/
theorem runBuild_approvals (h : ApprovedBuilds T d)
    (hsaved : d.build.approvedAt.isSome = true → d.watch.saved = false) :
    (runBuild T).Safe instant ((approvalsContract T).law op) (fun _ _ => True)
      (fun _ _ => True) d := by
  refine Thread.Safe.bind (Thread.Safe.read h ?_)
  by_cases happroved : d.build.approvedAt.isNone = true
  · rw [if_pos happroved]
    trivial
  · rw [if_neg happroved]
    have hsome : d.build.approvedAt.isSome = true := by
      rw [← Option.not_isNone, Bool.eq_false_iff.mpr happroved]
      rfl
    cases hcurrent : d.build.currentBlueprint with
    | none => trivial
    | some blueprint =>
      have hmem : blueprint ∈ d.watch.approvals :=
        h.current (hsaved hsome) hsome blueprint hcurrent
      refine ((buildInSandbox_within T blueprint _).safe (L := (approvalsContract T).law op)
        (I := fun d => blueprint ∈ d.watch.approvals) (fun d d' hI hinv hstep => ?_)
        (fun d d' hI _ hrely => hrely hI) hmem h).mono (fun _ _ _ => trivial) fun _ _ _ => trivial
      obtain ⟨hinv', hsub⟩ := ApprovedBuilds.builds hinv hI hstep
      exact ⟨hinv', hsub, hsub hI⟩

end Operations

/-! ## 3. Runs -/

/-- An approval finds a buildable blueprint, and a build no blueprint that was saved since. -/
def approvedThenBuilt (T : Tools β Req Arch) (p : Calls β Req Arch) : CallTurn β Req Arch → Bool
  | .start (.approve _) _ =>
    p.shared.build.currentBlueprint.all fun bp => (validateBlueprint T bp).buildable
  | .start .runBuild _ => p.shared.build.approvedAt.isNone || !p.shared.watch.saved
  | _ => true

theorem starts_approvals {p : Calls β Req Arch} {op : Op β} {o : Thread.Oracle (Answer Req Arch)}
    (h : ApprovedBuilds T p.shared) (hguard : approvedThenBuilt T p (.start op o) = true) :
    p.Starts Ask.instant (program T) (approvalsContract T) op o := by
  refine Pool.starts_of_safe h ?_
  cases op with
  | runToApproval => exact approvals_of_within (runToApproval_tame T) h
  | approve acknowledgeFindings =>
    refine approve_approvals h fun bp hbp => ?_
    simp only [approvedThenBuilt, hbp, Option.all_some] at hguard
    exact hguard
  | abandon reason => exact abandon_approvals h
  | reconcileOrphanedBuilds => exact approvals_of_within reconcileOrphanedBuilds_tame h
  | editBlueprint patch =>
    exact approvals_of_within (editBlueprint_within covers_tame T patch) h
  | runUserSimulations ids =>
    exact approvals_of_within (runUserSimulations_within covers_tame ids) h
  | runBuild =>
    refine runBuild_approvals h fun hsome => ?_
    simpa [approvedThenBuilt, Option.isSome_iff_ne_none.mp hsome] using hguard

/-- **Only approved designs are built.** In every run whose approvals find a buildable blueprint
    and whose builds find none saved since, whatever code was generated for is buildable and was
    the current blueprint at an approval. -/
theorem rendered_approved {id projectId userId : String} {idempotencyKey : Option String}
    {p : Calls β Req Arch}
    (h : Reaches (guarded (Calls.step T) fun p turn => approvedThenBuilt T p turn = true)
      (Calls.new id projectId userId idempotencyKey) p) :
    ∀ bp ∈ p.shared.watch.rendered,
      (validateBlueprint T bp).buildable = true ∧ bp ∈ p.shared.watch.approvals := by
  have hnew : (Calls.new id projectId userId idempotencyKey : Calls β Req Arch).Lawful
      Ask.instant (approvalsContract T) := by
    refine Pool.lawful_idle ⟨fun bp hbp => ?_, fun bp hbp => ?_, fun _ happroved => ?_⟩
    · cases hbp
    · cases hbp
    · cases happroved
  have hlawful := Pool.lawful_reaches
    (fun p op o hp hguard => starts_approvals hp.inv hguard) h hnew
  intro bp hbp
  have hmem := hlawful.inv.rendered bp hbp
  exact ⟨hlawful.inv.buildable bp hmem, hmem⟩

/-! ## 4. A design edited after its approval -/

def healthy : SimulationScenario := ⟨"AAVE-HEALTHY", .NO_VERDICT, .EXECUTED, none⟩

/-- Tools that find a CRITICAL issue in a blueprint that is not `true`. -/
def plainTools : Tools Bool Unit Unit where
  rules bp := .ok (if bp.rest then [] else [⟨"BP-018", .CRITICAL, "permissions"⟩])
  unknowns _ := []
  assembleBlueprint _ _ := ⟨1, "", ["repay-debt"], [healthy], true⟩
  requiredExecutionCapabilities _ := []
  resolveExecutionCapability _ := none
  resolveBlueprintAdapters _ := ⟨[], [], []⟩
  adapterScenarios _ := []
  withBindings rest _ := rest
  renderProject _ := .ok [⟨"src/index.ts", ""⟩]
  validateBlueprintArtifacts _ _ := []
  scanArtifactHonesty _ _ := []
  autoRepairLoops := 3

/-- An outside that answers everything asked, and objects to nothing. -/
def willing : Thread.Oracle (Answer Unit Unit)
  | _, .now => "2026-03-01T12:00:00.000Z"
  | _, .quota _ => none
  | _, .requirements => .ok ()
  | _, .architecture => .ok ()
  | _, .security => .ok []
  | _, .reviewer => .ok []
  | _, .createSandbox => .ok ()
  | _, .writeFile _ _ => .ok ()
  | _, .exec _ => .ok 0
  | _, .fixtures => .ok [("AAVE-HEALTHY", ⟨.ACCEPTED, "OK", none⟩)]
  | _, .destroySandbox => ()

def designTurns : List (CallTurn Bool Unit Unit) :=
  [.start .runToApproval willing, .resume 0 willing, .resume 0 willing, .resume 0 willing]

def builtTurns : List (CallTurn Bool Unit Unit) :=
  designTurns ++ [.start (.approve []) willing, .start .runBuild willing, .resume 2 willing]

/-- The design, approved and built, and what is true of it. -/
theorem design_rendered :
    ∃ p bp, Reaches (guarded (Calls.step plainTools)
        fun p turn => approvedThenBuilt plainTools p turn = true)
        (Calls.new "bld_1" "prj_1" "usr_1" none) p ∧
      bp ∈ p.shared.watch.rendered ∧ (validateBlueprint plainTools bp).buildable = true ∧
      bp ∈ p.shared.watch.approvals := by
  have hrun : ∃ p, Reaches (guarded (Calls.step plainTools)
      fun p turn => approvedThenBuilt plainTools p turn = true)
      (Calls.new "bld_1" "prj_1" "usr_1" none) p ∧ p.shared.watch.rendered =
        [⟨1, "2026-03-01T12:00:00.000Z", ["repay-debt"], [healthy], true⟩] :=
    reaches_of_observed (fun p : Calls Bool Unit Unit => p.shared.watch.rendered) builtTurns rfl
  obtain ⟨p, hreach, hseen⟩ := hrun
  have hmem : (⟨1, "2026-03-01T12:00:00.000Z", ["repay-debt"], [healthy], true⟩ : Blueprint Bool) ∈
      p.shared.watch.rendered := by
    rw [hseen]
    exact List.mem_singleton_self _
  exact ⟨p, _, hreach, hmem, rendered_approved hreach _ hmem⟩

def editedTurns : List (CallTurn Bool Unit Unit) :=
  designTurns ++ [.start (.approve []) willing,
    .start (.editBlueprint fun bp => { bp with rest := false }) willing,
    .start .runBuild willing, .resume 3 willing]

/-- **An edited design is built without an approval**, and although it is not buildable. -/
theorem edited_unapproved :
    ∃ p, Reaches (Calls.step plainTools) (Calls.new "bld_1" "prj_1" "usr_1" none) p ∧
      ∃ bp ∈ p.shared.watch.rendered,
        bp ∉ p.shared.watch.approvals ∧ (validateBlueprint plainTools bp).buildable = false := by
  have hrun : ∃ p, Reaches (Calls.step plainTools) (Calls.new "bld_1" "prj_1" "usr_1" none) p ∧
      (p.shared.watch.rendered, p.shared.watch.approvals) =
        ([⟨2, "2026-03-01T12:00:00.000Z", ["repay-debt"], [healthy], false⟩],
          [⟨1, "2026-03-01T12:00:00.000Z", ["repay-debt"], [healthy], true⟩]) :=
    reaches_of_observed
      (fun p : Calls Bool Unit Unit => (p.shared.watch.rendered, p.shared.watch.approvals))
      editedTurns rfl
  obtain ⟨p, hreach, hseen⟩ := hrun
  obtain ⟨hrendered, happrovals⟩ := Prod.mk.inj hseen
  refine ⟨p, hreach, ⟨2, "2026-03-01T12:00:00.000Z", ["repay-debt"], [healthy], false⟩, ?_, ?_, rfl⟩
  · rw [hrendered]
    exact List.mem_singleton_self _
  · rw [happrovals]
    decide

end ContextLock.Studio
