/-
  Subject:   What the jobs of the Studio leave alone.

  Apart from an approval, an abandon and two notes of a build, the updates of all jobs are of four
  kinds: a row changes that nobody asks about, the status is set, a Blueprint is saved, or a sandbox
  is taken or let go. What holds of these four holds of the jobs.
-/
import ContextLock.Studio.Pipeline

namespace ContextLock.Studio

open Machine

variable {β Req Arch α : Type}

/-! ## 1. Kinds of updates -/

def BuildStatus.active : BuildStatus → Bool
  | RUNNING => true
  | AWAITING_APPROVAL => true
  | PAUSED => true
  | _ => false

def Build.asked (b : Build β) :
    (String × String × Option String) × BuildStatus × Option String × List (SavedBlueprint β) :=
  ((b.id, b.userId, b.idempotencyKey), b.status, b.approvedAt, b.blueprints)

structure Rows (f : Build β → Build β) : Prop where
  asked : ∀ b, (f b).asked = b.asked
  tests : ∀ b, b.tests ⊆ (f b).tests

/-- The update of `saveBlueprint`. -/
def Desk.saved (d : Desk β) (bp : Blueprint β) (issues : List ValidationIssue) : Desk β :=
  { d with
    build := { d.build with
      blueprints := d.build.blueprints.filter (·.document.revision ≠ bp.revision) ++ [⟨bp, issues⟩]
      blueprintRevision := some bp.revision }
    watch := { d.watch with saved := true } }

/-- The update of `setStatus`. -/
def Desk.withStatus (d : Desk β) (status : BuildStatus) (reason : Option String) : Desk β :=
  { d with build := { d.build with status := status, failureReason := reason } }

/-- `P` holds of the updates that the jobs share, where the status that is set is one of `ok`. -/
structure Covers (P : Desk β → Desk β → Prop) (ok : BuildStatus → Prop) : Prop where
  rows : ∀ d f, Rows f → P d { d with build := f d.build }
  status : ∀ d status reason, ok status → P d (d.withStatus status reason)
  saved : ∀ d bp issues, P d (d.saved bp issues)
  sandbox : ∀ d b, P d { d with sandbox := b }

variable {P : Desk β → Desk β → Prop} {ok : BuildStatus → Prop}

theorem Covers.refl (c : Covers P ok) (d : Desk β) : P d d :=
  c.rows d id ⟨fun _ => rfl, fun _ _ h => h⟩

/-! ## 2. The parts of a job -/

section Parts

theorem orThrow_within (x : Except String α) : (orThrow x : Job β Req Arch α).Within P := by
  cases x with
  | ok a => trivial
  | error message => trivial

theorem now_within : (now : Job β Req Arch String).Within P := Thread.Within.ask _

theorem quota_within (q : QuotaQuestion) : (quota q : Job β Req Arch (Option QuotaExceeded)).Within P :=
  Thread.Within.ask _

theorem assertQuota_within (q : QuotaQuestion) : (assertQuota q : Job β Req Arch Unit).Within P :=
  Thread.Within.bind (quota_within q) fun refusal => by
    cases refusal with
    | none => trivial
    | some kind => trivial

theorem writeFile_within (f : GeneratedFile) : (writeFile f : Job β Req Arch Unit).Within P :=
  Thread.Within.bind (Thread.Within.ask _) orThrow_within

theorem exec_within (command : String) : (exec command : Job β Req Arch Int).Within P :=
  Thread.Within.bind (Thread.Within.ask _) orThrow_within

theorem buildAdapterFixtures_within :
    (buildAdapterFixtures : Job β Req Arch AdapterFixtureMap).Within P :=
  Thread.Within.bind (Thread.Within.ask _) orThrow_within

end Parts

section Shared

variable (c : Covers P ok)
include c

theorem read_within : (Thread.read : Job β Req Arch (Desk β)).Within P :=
  Thread.Within.read c.refl

theorem modify_within {f : Build β → Build β} (hf : Rows f) :
    (modify f : Job β Req Arch Unit).Within P :=
  Thread.Within.update fun d => c.rows d f hf

theorem setStage_within (stage : BuildStage) : (setStage stage : Job β Req Arch Unit).Within P :=
  modify_within c ⟨fun _ => rfl, fun _ _ h => h⟩

theorem setStatus_within {status : BuildStatus} (hok : ok status) (reason : Option String) :
    (setStatus status reason : Job β Req Arch Unit).Within P :=
  Thread.Within.update fun d => c.status d status reason hok

theorem recordFindings_within (source : FindingSource) (issues : List ValidationIssue) :
    (recordFindings source issues : Job β Req Arch Unit).Within P :=
  Thread.Within.forM (f := recordFinding source)
    (fun _ => modify_within c ⟨fun _ => rfl, fun _ _ h => h⟩) issues

theorem recordTest_within (row : TestRow) : (recordTest row : Job β Req Arch Unit).Within P :=
  modify_within c ⟨fun _ => rfl, fun _ _ h => List.mem_append_left _ h⟩

theorem insertSimulation_within (simClass : SimulationClass) (r : SimulationResult) :
    (insertSimulation simClass r : Job β Req Arch Unit).Within P :=
  modify_within c ⟨fun _ => rfl, fun _ _ h => h⟩

theorem saveBlueprint_within (bp : Blueprint β) (issues : List ValidationIssue) :
    (saveBlueprint bp issues : Job β Req Arch Unit).Within P :=
  Thread.Within.update fun d => c.saved d bp issues

end Shared

/-! ## 3. Jobs that set no status -/

section Statusless

variable (c : Covers P ok)
include c

theorem editBlueprint_within (T : Tools β Req Arch) (patch : Blueprint β → Blueprint β) :
    (editBlueprint T patch).Within P := by
  refine Thread.Within.bind (read_within c) fun d => ?_
  cases d.build.currentBlueprint with
  | none => trivial
  | some current =>
    exact Thread.Within.bind now_within fun createdAt =>
      Thread.Within.bind (saveBlueprint_within c _ _) fun _ => trivial

theorem userPass_within (bp : Blueprint β) (buildRevision : Nat) (fixtures : AdapterFixtureMap)
    (ids : List String) (out : List SimulationResult) :
    (userPass bp buildRevision fixtures ids out : Job β Req Arch _).Within P := by
  induction ids generalizing out with
  | nil => trivial
  | cons id ids ih =>
    exact Thread.Within.bind (assertQuota_within _) fun _ =>
      Thread.Within.bind (insertSimulation_within c _ _) fun _ => ih _

theorem runUserSimulations_within (scenarioIds : List String) :
    (runUserSimulations scenarioIds : Job β Req Arch _).Within P := by
  refine Thread.Within.bind (read_within c) fun d => ?_
  cases d.build.currentBlueprint with
  | none => trivial
  | some blueprint =>
    refine Thread.Within.ite trivial ?_
    refine Thread.Within.bind buildAdapterFixtures_within fun fixtures => ?_
    exact Thread.Within.bind (userPass_within c _ _ _ _ _) fun out => trivial

theorem runSuite_within (buildRevision : Nat) :
    (runSuite buildRevision : Job β Req Arch Bool).Within P := by
  refine Thread.Within.bind (exec_within _) fun typecheck => ?_
  split
  · exact Thread.Within.bind (recordTest_within c _) fun _ => trivial
  · exact Thread.Within.bind (recordTest_within c _) fun _ =>
      Thread.Within.bind (exec_within _) fun tests =>
        Thread.Within.bind (recordTest_within c _) fun _ => trivial

theorem writeFiles_within (blueprint : Blueprint β) (buildRevision : Nat)
    (files : List GeneratedFile) :
    (writeFiles blueprint buildRevision files : Job β Req Arch Unit).Within P := by
  refine Thread.Within.forM (fun f => ?_) files
  refine Thread.Within.bind (assertQuota_within _) fun _ => ?_
  refine Thread.Within.bind (assertQuota_within _) fun _ => ?_
  refine Thread.Within.bind (writeFile_within f) fun _ => ?_
  exact modify_within c ⟨fun _ => rfl, fun _ _ h => h⟩

theorem countRepair_within :
    (modify fun b => { b with repairCycles := b.repairCycles + 1 } : Job β Req Arch Unit).Within P :=
  modify_within c ⟨fun _ => rfl, fun _ _ h => h⟩

theorem repair_within (T : Tools β Req Arch) (files : List GeneratedFile)
    (buildRevision cycles : Nat) : (repair T files buildRevision cycles).Within P := by
  induction cycles with
  | zero => trivial
  | succ cycles ih =>
    refine Thread.Within.bind (read_within c) fun d => ?_
    split
    · trivial
    · refine Thread.Within.bind (countRepair_within c) fun _ => ?_
      refine Thread.Within.bind (setStage_within c _) fun _ => ?_
      refine Thread.Within.bind (Thread.Within.forM writeFile_within files) fun _ => ?_
      refine Thread.Within.bind (runSuite_within c _) fun testOk => ?_
      split
      · trivial
      · exact ih

theorem runSuiteOrRepair_within (T : Tools β Req Arch) (buildRevision : Nat)
    (files : List GeneratedFile) : (runSuiteOrRepair T buildRevision files).Within P := by
  refine Thread.Within.bind (runSuite_within c _) fun testOk => ?_
  split
  · trivial
  · exact repair_within c _ _ _ _

theorem mandatoryPass_within (planned sims : List SimulationResult) :
    (mandatoryPass planned sims : Job β Req Arch _).Within P := by
  induction planned generalizing sims with
  | nil => trivial
  | cons r planned ih =>
    refine Thread.Within.bind (quota_within _) fun refusal => ?_
    cases refusal with
    | some kind => trivial
    | none =>
      refine Thread.Within.bind (quota_within _) fun refusal => ?_
      cases refusal with
      | some kind => trivial
      | none => exact Thread.Within.bind (insertSimulation_within c _ _) fun _ => ih _

theorem release_within : (release : Job β Req Arch Unit).Within P := by
  refine Thread.Within.bind (read_within c) fun d => ?_
  split
  · exact Thread.Within.bind (Thread.Within.ask _) fun _ =>
      Thread.Within.update fun d => c.sandbox d false
  · trivial

end Statusless

/-! ## 4. Jobs that set a status of a build that is not under way -/

section Ends

variable (c : Covers P ok) (hok : ∀ status : BuildStatus, status.active = false → ok status)
include c hok

theorem callModel_within (role : ModelRole) {fn : Job β Req Arch (Except ModelError α)}
    (hfn : fn.Within P) : (callModel role fn).Within P := by
  refine Thread.Within.bind (quota_within _) fun refusal => ?_
  cases refusal with
  | some kind => exact Thread.Within.bind (setStatus_within c (hok _ rfl) _) fun _ => trivial
  | none =>
    refine Thread.Within.bind hfn fun output => ?_
    rcases output with (message | message) | output
    · exact Thread.Within.bind (setStatus_within c (hok _ rfl) _) fun _ => trivial
    · trivial
    · trivial

theorem reconcileOrphanedBuilds_within : (reconcileOrphanedBuilds : Job β Req Arch _).Within P := by
  refine Thread.Within.bind (read_within c) fun d => ?_
  split
  · exact Thread.Within.bind (setStatus_within c (hok _ rfl) _) fun _ => trivial
  · trivial

theorem failIfRunning_within (e : StudioError) :
    (failIfRunning e : Job β Req Arch Unit).Within P := by
  refine Thread.Within.bind (read_within c) fun d => ?_
  split
  · exact setStatus_within c (hok _ rfl) _
  · trivial

end Ends

/-! ## 5. The design -/

theorem runToApproval_within (c : Covers P ok)
    (hok : ∀ status : BuildStatus, status.active = false → ok status)
    (happroval : ok .AWAITING_APPROVAL) (T : Tools β Req Arch) : (runToApproval T).Within P := by
  refine Thread.Within.bind (setStage_within c _) fun _ => ?_
  refine Thread.Within.bind (callModel_within c hok _ (Thread.Within.ask _)) fun req => ?_
  refine Thread.Within.bind (setStage_within c _) fun _ => ?_
  refine Thread.Within.bind (callModel_within c hok _ (Thread.Within.ask _)) fun arch => ?_
  refine Thread.Within.bind now_within fun createdAt => ?_
  refine Thread.Within.bind (recordFindings_within c _ _) fun _ => ?_
  refine Thread.Within.bind (saveBlueprint_within c _ _) fun _ => ?_
  refine Thread.Within.bind (setStage_within c _) fun _ => ?_
  refine Thread.Within.bind (recordFindings_within c _ _) fun _ => ?_
  refine Thread.Within.bind (callModel_within c hok _ (Thread.Within.ask _)).attempt
    fun review => ?_
  refine Thread.Within.bind (recordFindings_within c _ _) fun _ => ?_
  split
  · exact Thread.Within.bind (setStatus_within c (hok _ rfl) _) fun _ =>
      Thread.Within.bind (setStage_within c _) fun _ => trivial
  · exact Thread.Within.bind (setStage_within c _) fun _ =>
      Thread.Within.bind (setStatus_within c happroval _) fun _ => trivial

/-! ## 6. A build -/

/-- A build, once the row of it says that it runs. -/
def running (T : Tools β Req Arch) (blueprint : Blueprint β) (buildRevision : Nat) :
    Job β Req Arch (Reply β) := do
  setStage .BUILD
  let created ← (Thread.ask Ask.createSandbox : Job β Req Arch (Except SandboxError Unit))
  match created with
  | .error e =>
    setStatus .FAILED (some e.message)
    .threw (.sandboxUnavailable e)
  | .ok _ =>
    Thread.update fun d => { d with sandbox := true }
    let result ← Thread.attempt (generate T blueprint buildRevision)
    match result with
    | .ok reply =>
      release
      pure reply
    | .error e =>
      failIfRunning e
      release
      .threw e

section Within

variable (c : Covers P ok) (hok : ∀ status : BuildStatus, status.active = false → ok status)
  (T : Tools β Req Arch) (blueprint : Blueprint β) (buildRevision : Nat)
  (hrendered : ∀ d : Desk β,
    P d { d with watch := { d.watch with rendered := d.watch.rendered ++ [blueprint] } })
  (hcompleted : ∀ (d : Desk β) (x : Completion β),
    P d { d with watch := { d.watch with completions := d.watch.completions ++ [x] } })
include c hok

include hcompleted in
theorem finalVerify_within (files : List GeneratedFile) (sims : List SimulationResult)
    (truncated : Nat) :
    (finalVerify T blueprint buildRevision files sims truncated).Within P := by
  refine Thread.Within.bind (setStage_within c _) fun _ => ?_
  refine Thread.Within.bind (callModel_within c hok _ (Thread.Within.ask _)).attempt
    fun review => ?_
  refine Thread.Within.bind (recordFindings_within c _ _) fun _ => ?_
  dsimp only
  split
  · exact Thread.Within.bind (setStatus_within c (hok _ rfl) _) fun _ => trivial
  · split
    · exact Thread.Within.bind (setStatus_within c (hok _ rfl) _) fun _ => trivial
    · refine Thread.Within.bind (setStage_within c _) fun _ => ?_
      refine Thread.Within.bind (Thread.Within.update fun d => hcompleted d _) fun _ => ?_
      exact Thread.Within.bind (setStatus_within c (hok _ rfl) _) fun _ => trivial

include hcompleted in
theorem simulate_within (files : List GeneratedFile) :
    (simulate T blueprint buildRevision files).Within P :=
  Thread.Within.bind (setStage_within c _) fun _ =>
    Thread.Within.bind buildAdapterFixtures_within fun _ =>
      Thread.Within.bind (assertQuota_within _) fun _ =>
        Thread.Within.bind (mandatoryPass_within c _ _) fun pass =>
          finalVerify_within c hok T blueprint buildRevision hcompleted files pass.1 pass.2

include hcompleted in
theorem test_within (files : List GeneratedFile) :
    (test T blueprint buildRevision files).Within P := by
  refine Thread.Within.bind (setStage_within c _) fun _ => ?_
  refine Thread.Within.bind (runSuiteOrRepair_within c T buildRevision files) fun testOk => ?_
  split
  · exact simulate_within c hok T blueprint buildRevision hcompleted files
  · exact Thread.Within.bind (setStatus_within c (hok _ rfl) _) fun _ => trivial

include hrendered hcompleted

theorem generate_within : (generate T blueprint buildRevision).Within P := by
  refine Thread.Within.bind (Thread.Within.update fun d => hrendered d) fun _ => ?_
  refine Thread.Within.bind (orThrow_within _) fun files => ?_
  refine Thread.Within.bind (writeFiles_within c _ _ _) fun _ => ?_
  refine Thread.Within.bind (exec_within _) fun _ => ?_
  refine Thread.Within.bind (recordFindings_within c _ _) fun _ => ?_
  split
  · exact Thread.Within.bind (setStatus_within c (hok _ rfl) _) fun _ => trivial
  · exact test_within c hok T blueprint buildRevision hcompleted files

theorem running_within : (running T blueprint buildRevision).Within P := by
  refine Thread.Within.bind (setStage_within c _) fun _ => ?_
  refine Thread.Within.bind (Thread.Within.ask _) fun created => ?_
  cases created with
  | error e => exact Thread.Within.bind (setStatus_within c (hok _ rfl) _) fun _ => trivial
  | ok _ =>
    refine Thread.Within.bind (Thread.Within.update fun d => c.sandbox d true) fun _ => ?_
    refine Thread.Within.bind
      (generate_within c hok T blueprint buildRevision hrendered hcompleted).attempt
      fun result => ?_
    cases result with
    | ok reply => exact Thread.Within.bind (release_within c) fun _ => trivial
    | error e =>
      refine Thread.Within.bind (failIfRunning_within c hok e) fun _ => ?_
      exact Thread.Within.bind (release_within c) fun _ => trivial

end Within

/-! ## 7. Tame updates -/

/-- Nothing that is noted changes but `saved`, which is set where the Blueprints change; the
    approval stays, and so does every test row. -/
structure Tame (d d' : Desk β) : Prop where
  watch : d'.watch = { d.watch with saved := d'.watch.saved }
  approvedAt : d'.build.approvedAt = d.build.approvedAt
  blueprints : d'.watch.saved = true ∨
    d'.watch.saved = d.watch.saved ∧ d'.build.blueprints = d.build.blueprints
  tests : d.build.tests ⊆ d'.build.tests

/-- A tame update that leaves the status alone. -/
structure Steady (d d' : Desk β) : Prop extends Tame d d' where
  status : d'.build.status = d.build.status

theorem Rows.tame {f : Build β → Build β} (h : Rows f) (d : Desk β) :
    Steady d { d with build := f d.build } := by
  have hasked := h.asked d.build
  simp only [Build.asked, Prod.mk.injEq] at hasked
  obtain ⟨-, hstatus, happroved, hblueprints⟩ := hasked
  exact ⟨⟨rfl, happroved, .inr ⟨rfl, hblueprints⟩, h.tests d.build⟩, hstatus⟩

theorem covers_tame : Covers (β := β) Tame fun _ => True where
  rows d _ hf := (hf.tame d).toTame
  status _ _ _ _ := ⟨rfl, rfl, .inr ⟨rfl, rfl⟩, fun _ h => h⟩
  saved _ _ _ := ⟨rfl, rfl, .inl rfl, fun _ h => h⟩
  sandbox _ _ := ⟨rfl, rfl, .inr ⟨rfl, rfl⟩, fun _ h => h⟩

theorem covers_steady : Covers (β := β) Steady fun _ => False where
  rows d _ hf := hf.tame d
  status _ _ _ h := h.elim
  saved _ _ _ := ⟨⟨rfl, rfl, .inl rfl, fun _ h => h⟩, rfl⟩
  sandbox _ _ := ⟨⟨rfl, rfl, .inr ⟨rfl, rfl⟩, fun _ h => h⟩, rfl⟩

theorem runToApproval_tame (T : Tools β Req Arch) : (runToApproval T).Within Tame :=
  runToApproval_within covers_tame (fun _ _ => trivial) trivial T

theorem reconcileOrphanedBuilds_tame :
    (reconcileOrphanedBuilds : Job β Req Arch _).Within Tame :=
  reconcileOrphanedBuilds_within covers_tame fun _ _ => trivial

/-- The updates of a build of `blueprint`: tame ones, and the notes that code is generated for it
    and that it was completed. -/
inductive Builds (blueprint : Blueprint β) (d : Desk β) : Desk β → Prop where
  | tame {d' : Desk β} (h : Tame d d') : Builds blueprint d d'
  | rendered : Builds blueprint d
      { d with watch := { d.watch with rendered := d.watch.rendered ++ [blueprint] } }
  | completed (c : Completion β) : Builds blueprint d
      { d with watch := { d.watch with completions := d.watch.completions ++ [c] } }

theorem covers_builds (blueprint : Blueprint β) : Covers (Builds blueprint) fun _ => True where
  rows d f hf := .tame (covers_tame.rows d f hf)
  status d status reason h := .tame (covers_tame.status d status reason h)
  saved d bp issues := .tame (covers_tame.saved d bp issues)
  sandbox d b := .tame (covers_tame.sandbox d b)

theorem begin_tame (buildRevision : Nat) :
    (modify fun b => { b with buildRevision := buildRevision, status := .RUNNING } :
      Job β Req Arch Unit).Within Tame :=
  Thread.Within.update fun _ => ⟨rfl, rfl, .inr ⟨rfl, rfl⟩, fun _ h => h⟩

/-- **A build makes tame updates, and the two notes.** -/
theorem buildInSandbox_within (T : Tools β Req Arch) (blueprint : Blueprint β)
    (buildRevision : Nat) :
    (buildInSandbox T blueprint buildRevision).Within (Builds blueprint) := by
  refine Thread.Within.bind ((begin_tame buildRevision).mono fun _ _ => .tame) fun _ => ?_
  exact running_within (covers_builds blueprint) (fun _ _ => trivial) T blueprint buildRevision
    (fun _ => .rendered) fun _ => .completed

end ContextLock.Studio
