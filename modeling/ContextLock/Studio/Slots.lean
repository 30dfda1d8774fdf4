/-
  Subject:   How many builds of a user are under way at once.

  The cap is checked where a build is created. A build that ended comes back without a check: by
  `runBuild`, which sets it to RUNNING, and by the last turn of a design, which sets it to
  AWAITING_APPROVAL, whatever the build became meanwhile. So the cap holds where these two find
  their build still under way, or another slot free.
-/
import ContextLock.Studio.Api
import ContextLock.Studio.Quota

namespace ContextLock.Studio

open Machine Budget

variable {β Req Arch α : Type}

/-! ## 1. The server -/

def activeBuilds (builds : List (Build β)) (userId : String) : Nat :=
  builds.countP fun b => decide (b.userId = userId) && b.status.active

/-- The refusal of a new build, where `recent` of the user's builds of the last day spent something,
    completed or are under way. -/
def assertCanCreateBuild (policy : StudioQuotaPolicy) (builds : List (Build β)) (userId : String)
    (recent : Nat) : Option QuotaExceeded :=
  match policy.newBuildsPerRollingDay with
  | some limit =>
    if limit ≤ recent then some ⟨.NEW_BUILDS, recent, limit⟩
    else if policy.concurrentBuilds ≤ activeBuilds builds userId then
      some ⟨.CONCURRENT_BUILDS, activeBuilds builds userId, policy.concurrentBuilds⟩
    else none
  | none =>
    if policy.concurrentBuilds ≤ activeBuilds builds userId then
      some ⟨.CONCURRENT_BUILDS, activeBuilds builds userId, policy.concurrentBuilds⟩
    else none

/-- The builds, each with the calls that are made for it. -/
abbrev Server (β Req Arch : Type) := List (Calls β Req Arch)

def Server.rows (s : Server β Req Arch) : List (Build β) := s.map (·.shared.build)

def Calls.of (b : Build β) : Calls β Req Arch := Pool.idle ⟨b, false, Watch.nothing⟩

inductive ServerTurn (β Req Arch : Type) where
  | createBuild (o : Outside Req Arch) (userId : String) (key : Option String) (recent : Nat)
  | call (i : Nat) (turn : CallTurn β Req Arch)

/-- `createBuild` under a policy. -/
def createUnder (policy : StudioQuotaPolicy) (o : Outside Req Arch) (builds : List (Build β))
    (userId : String) (key : Option String) (recent : Nat) : List (Build β) :=
  (createBuild { o with creationQuota := assertCanCreateBuild policy builds userId recent } builds
    userId key).2

def Server.step (T : Tools β Req Arch) (policy : StudioQuotaPolicy) (s : Server β Req Arch) :
    ServerTurn β Req Arch → Option (Server β Req Arch)
  | .createBuild o userId key recent =>
    some (s ++ ((createUnder policy o s.rows userId key recent).drop s.length).map Calls.of)
  | .call i turn =>
    match s[i]? with
    | none => none
    | some p => (p.step T turn).map fun p' => s.set i p'

/-- A turn that may set a build under way that ended: of `runBuild` for an approved build, or the
    last of a design. -/
def mayActivate (p : Calls β Req Arch) : CallTurn β Req Arch → Bool
  | .start .runBuild _ => p.shared.build.approvedAt.isSome && p.shared.build.currentBlueprint.isSome
  | .start _ _ => false
  | .resume i o =>
    match p.threads[i]? with
    | some (.runToApproval, .call .requirements _) => false
    -- The review of a design is skipped where its budget is refused; then this turn is its last.
    | some (.runToApproval, .call .architecture _) => (o 2 (.quota (.reserve .security))).isSome
    | some (.runToApproval, _) => true
    | _ => false

/-- Such a turn finds its build under way, or fewer of the user's builds than the cap. -/
def withinSlots (policy : StudioQuotaPolicy) (s : Server β Req Arch) :
    ServerTurn β Req Arch → Bool
  | .createBuild _ _ _ _ => true
  | .call i turn =>
    match s[i]? with
    | none => true
    | some p => !mayActivate p turn || p.shared.build.status.active ||
        decide (activeBuilds s.rows p.shared.build.userId < policy.concurrentBuilds)

/-! ## 2. What the calls do to the status -/

/-- The build stays the user's; its status stays as well, or becomes one of `ok`. -/
structure Keeps (ok : BuildStatus → Prop) (d d' : Desk β) : Prop where
  userId : d'.build.userId = d.build.userId
  status : d'.build.status = d.build.status ∨ ok d'.build.status

/-- No build comes under way. -/
abbrev Calm : Desk β → Desk β → Prop := Keeps fun status => status.active = false

/-- The build may come under way. -/
abbrev Stirs : Desk β → Desk β → Prop := Keeps fun _ => True

variable {ok : BuildStatus → Prop}

theorem Keeps.refl (d : Desk β) : Keeps ok d d := ⟨rfl, .inl rfl⟩

theorem Keeps.trans (d d' d'' : Desk β) (h : Keeps ok d d') (h' : Keeps ok d' d'') :
    Keeps ok d d'' := by
  refine ⟨h'.userId.trans h.userId, ?_⟩
  rcases h'.status with hsame | hok
  · rcases h.status with hbefore | hok
    · exact .inl (hsame.trans hbefore)
    · exact .inr (by rw [hsame]; exact hok)
  · exact .inr hok

theorem Keeps.stirs {d d' : Desk β} (h : Keeps ok d d') : Stirs d d' :=
  ⟨h.userId, .inr trivial⟩

/-- One turn of a job whose updates keep the status, or set it to one of `ok`. -/
theorem settle_keeps {q : Job β Req Arch α} (h : q.Within (Keeps ok))
    (o : Thread.Oracle (Answer Req Arch)) (n : Nat) (d : Desk β) :
    Keeps ok d (q.settle Ask.instant o n d).2 ∧
      (q.settle Ask.instant o n d).1.Within (Keeps ok) :=
  Thread.Within.settle Keeps.refl Keeps.trans h

theorem covers_keeps (ok : BuildStatus → Prop) : Covers (β := β) (Keeps ok) ok where
  rows d _ hf := by
    have hasked := hf.asked d.build
    simp only [Build.asked, Prod.mk.injEq] at hasked
    exact ⟨hasked.1.2.1, .inl hasked.2.1⟩
  status _ _ _ hok := ⟨rfl, .inr hok⟩
  saved _ _ _ := ⟨rfl, .inl rfl⟩
  sandbox _ _ := ⟨rfl, .inl rfl⟩

section Calls

variable {d : Desk β}

theorem approve_calm (acknowledgeFindings : List String) :
    (approve acknowledgeFindings : Job β Req Arch _).Within Calm := by
  refine Thread.Within.bind (Thread.Within.read Keeps.refl) fun d => ?_
  refine Thread.Within.ite trivial (Thread.Within.ite trivial ?_)
  refine Thread.Within.bind now_within fun approvedAt => ?_
  refine Thread.Within.bind (Thread.Within.update fun d => ⟨rfl, .inl rfl⟩) fun _ => ?_
  exact Thread.Within.bind (Thread.Within.update fun d => ⟨rfl, .inl rfl⟩) fun _ => trivial

theorem abandon_calm (reason : String) : (abandon reason : Job β Req Arch _).Within Calm := by
  refine Thread.Within.bind (Thread.Within.read Keeps.refl) fun d => ?_
  refine Thread.Within.ite trivial ?_
  have hcovers : Covers (β := β) Calm fun status => status.active = false := covers_keeps _
  refine Thread.Within.bind (setStatus_within hcovers rfl _) fun _ => ?_
  exact Thread.Within.bind (Thread.Within.update fun d => ⟨rfl, .inl rfl⟩) fun _ => trivial

theorem running_calm (T : Tools β Req Arch) (blueprint : Blueprint β) (buildRevision : Nat) :
    (running T blueprint buildRevision).Within Calm :=
  running_within (covers_keeps _) (fun _ h => h) T blueprint buildRevision
    (fun _ => ⟨rfl, .inl rfl⟩) fun _ _ => ⟨rfl, .inl rfl⟩

/-- **The calls that end builds**, or leave their status alone. -/
theorem program_calm (T : Tools β Req Arch) {op : Op β} (hdesign : op ≠ .runToApproval)
    (hbuild : op ≠ .runBuild) : (program T op).Within Calm := by
  cases op with
  | runToApproval => exact absurd rfl hdesign
  | approve acknowledgeFindings => exact approve_calm acknowledgeFindings
  | abandon reason => exact abandon_calm reason
  | reconcileOrphanedBuilds => exact reconcileOrphanedBuilds_within (covers_keeps _) fun _ h => h
  | editBlueprint patch => exact editBlueprint_within (covers_keeps _) T patch
  | runUserSimulations ids => exact runUserSimulations_within (covers_keeps _) ids
  | runBuild => exact absurd rfl hbuild

theorem runToApproval_stirs (T : Tools β Req Arch) : (runToApproval T).Within Stirs :=
  runToApproval_within (covers_keeps _) (fun _ _ => trivial) trivial T

/-- What a build does with the row it finds. -/
def begun (T : Tools β Req Arch) (d : Desk β) : Job β Req Arch (Reply β) :=
  if d.build.approvedAt.isNone then .threw .notApproved
  else
    match d.build.currentBlueprint with
    | none => .threw .noBlueprint
    | some blueprint => buildInSandbox T blueprint (d.build.buildRevision + 1)

/-- **A build that starts** sets itself under way, where it is approved and has a Blueprint. -/
theorem settle_runBuild (T : Tools β Req Arch) (o : Thread.Oracle (Answer Req Arch)) :
    ((runBuild T).settle Ask.instant o 0 d).1.Within Calm ∧
      Stirs d ((runBuild T).settle Ask.instant o 0 d).2 ∧
      ((d.build.approvedAt.isSome && d.build.currentBlueprint.isSome) = false →
        Calm d ((runBuild T).settle Ask.instant o 0 d).2) := by
  show ((begun T d).settle Ask.instant o 0 d).1.Within Calm ∧
    Stirs d ((begun T d).settle Ask.instant o 0 d).2 ∧
    ((d.build.approvedAt.isSome && d.build.currentBlueprint.isSome) = false →
      Calm d ((begun T d).settle Ask.instant o 0 d).2)
  unfold begun
  cases happroved : d.build.approvedAt with
  | none => exact ⟨trivial, .refl d, fun _ => .refl d⟩
  | some approvedAt =>
    cases hcurrent : d.build.currentBlueprint with
    | none => exact ⟨trivial, .refl d, fun _ => .refl d⟩
    | some blueprint =>
      obtain ⟨hstep, hrest⟩ := settle_keeps
        (running_calm T blueprint (d.build.buildRevision + 1)) o 0
        { d with build := { d.build with
          buildRevision := d.build.buildRevision + 1, status := .RUNNING } }
      refine ⟨hrest, ?_, fun hfalse => ?_⟩
      · have hbegin : Stirs d { d with build := { d.build with
            buildRevision := d.build.buildRevision + 1, status := .RUNNING } } := ⟨rfl, .inr trivial⟩
        exact hbegin.trans _ _ _ hstep.stirs
      · cases hfalse

end Calls

/-! ## 3. The turns of a design -/

/-- What a model call does with its answer. -/
def modelAnswer : Except ModelError α → Job β Req Arch α
  | .ok output => .ok output
  | .error (.upstreamRateLimit attempts) =>
    (setStatus .BUILD_PAUSED_UPSTREAM_LIMIT (some (upstreamMessage attempts))).bind
      fun _ => .threw (.upstreamRateLimit attempts)
  | .error (.other message) => .threw (.thrown message)

def withBudget (fn : Job β Req Arch (Except ModelError α)) :
    Option QuotaExceeded → Job β Req Arch α
  | some e => (setStatus .BUILD_LIMIT_REACHED (some e.message)).bind fun _ => .threw (.quotaExceeded e)
  | none => fn.bind modelAnswer

theorem callModel_eq (role : ModelRole) (fn : Job β Req Arch (Except ModelError α)) :
    callModel role fn = (quota (.reserve role)).bind (withBudget fn) := by
  refine congrArg (Thread.call _) (funext fun refusal => ?_)
  cases refusal with
  | some e => rfl
  | none =>
    refine congrArg (Thread.bind fn) (funext fun output => ?_)
    rcases output with (attempts | message) | output
    · rfl
    · rfl
    · rfl

/-- A model call asks for its budget, and gets the answer at once. -/
theorem settle_callModel {o : Thread.Oracle (Answer Req Arch)} {n : Nat} {d : Desk β}
    (role : ModelRole) (fn : Job β Req Arch (Except ModelError α))
    (f : α → Job β Req Arch (Reply β)) :
    ((callModel role fn).bind f).settle Ask.instant o n d =
      ((withBudget fn (o n (.quota (.reserve role)))).bind f).settle Ask.instant o (n + 1) d := by
  rw [callModel_eq]
  rfl

theorem settle_attempt_callModel {o : Thread.Oracle (Answer Req Arch)} {n : Nat} {d : Desk β}
    (role : ModelRole) (fn : Job β Req Arch (Except ModelError α))
    (f : Except StudioError α → Job β Req Arch (Reply β)) :
    ((callModel role fn).attempt.bind f).settle Ask.instant o n d =
      ((withBudget fn (o n (.quota (.reserve role)))).attempt.bind f).settle Ask.instant o (n + 1)
        d := by
  rw [callModel_eq]
  rfl

section Design

variable (T : Tools β Req Arch)

/-- The findings of a review that was answered. -/
def modelIssues : Except StudioError (List ValidationIssue) → List ValidationIssue
  | .ok issues => issues
  | .error _ => []

/-- The status that a design ends with. -/
def boundary (blueprint : Blueprint β) (validation : ValidationResult)
    (modelIssues : List ValidationIssue) : Job β Req Arch (Reply β) :=
  if !validation.buildable then do
    setStatus .BUILD_NEEDS_USER_REVIEW (some "Blueprint is not buildable")
    setStage .SECURITY_REVIEW
    pure (.designed blueprint (validation.issues ++ modelIssues))
  else do
    setStage .AWAITING_APPROVAL
    setStatus .AWAITING_APPROVAL none
    pure (.designed blueprint (validation.issues ++ modelIssues))

/-- The end of a design. -/
def afterReview (blueprint : Blueprint β) (validation : ValidationResult)
    (review : Except StudioError (List ValidationIssue)) : Job β Req Arch (Reply β) :=
  (recordFindings .securityArchitect (modelIssues review)).bind fun _ =>
    boundary blueprint validation (modelIssues review)

/-- The Blueprint of a design, saved and reviewed. -/
def afterResolved (blueprint : Blueprint β) : Job β Req Arch (Reply β) :=
  (saveBlueprint blueprint (validateBlueprint T blueprint).issues).bind fun _ =>
    (setStage .SECURITY_REVIEW).bind fun _ =>
      (recordFindings .deterministicValidator (validateBlueprint T blueprint).issues).bind fun _ =>
        (Thread.attempt (callModel .security (Thread.ask Ask.security))).bind
          (afterReview blueprint (validateBlueprint T blueprint))

/-- The Blueprint of a design, with its adapters. -/
def resolved (req : Req) (arch : Arch) (createdAt : String) : Blueprint β × List ValidationIssue :=
  resolveAdapters T { T.assembleBlueprint req arch with revision := 1, createdAt := createdAt } arch

def afterDraft (req : Req) (arch : Arch) (createdAt : String) : Job β Req Arch (Reply β) :=
  (recordFindings .adapterResolver (resolved T req arch createdAt).2).bind fun _ =>
    afterResolved T (resolved T req arch createdAt).1

def afterArchitecture (req : Req) (arch : Arch) : Job β Req Arch (Reply β) :=
  now.bind (afterDraft T req arch)

def afterRequirements (req : Req) : Job β Req Arch (Reply β) := do
  setStage .BLUEPRINT
  (callModel .architecture (Thread.ask Ask.architecture)).bind (afterArchitecture T req)

/-- A design that was started: it awaits one of its three models, or it ended. -/
inductive Designing : Job β Req Arch (Reply β) → Prop where
  | requirements : Designing
      (.call .requirements fun r => (modelAnswer r).bind (afterRequirements T))
  | architecture (req : Req) : Designing
      (.call .architecture fun r => (modelAnswer r).bind (afterArchitecture T req))
  | security (blueprint : Blueprint β) (validation : ValidationResult) : Designing
      (.call .security fun r => (Thread.attempt (modelAnswer r)).bind
        (afterReview blueprint validation))
  | ended {p : Job β Req Arch (Reply β)} (h : p.ended = true) : Designing p

variable {T} {d : Desk β} {o : Thread.Oracle (Answer Req Arch)} {n : Nat}

theorem settle_modelError (e : ModelError) (f : α → Job β Req Arch (Reply β)) :
    (((modelAnswer (.error e)).bind f).settle Ask.instant o n d).1.ended = true ∧
      Calm d (((modelAnswer (.error e)).bind f).settle Ask.instant o n d).2 := by
  cases e with
  | upstreamRateLimit attempts => exact ⟨rfl, rfl, .inr rfl⟩
  | other message => exact ⟨rfl, .refl d⟩

/-- **A design that starts** awaits its requirements, or is refused. -/
theorem settle_runToApproval :
    Designing T ((runToApproval T).settle Ask.instant o 0 d).1 ∧
      Calm d ((runToApproval T).settle Ask.instant o 0 d).2 := by
  have hsettle : (runToApproval T).settle Ask.instant o 0 d =
      ((withBudget (Thread.ask Ask.requirements) (o 0 (.quota (.reserve .requirements)))).bind
        (afterRequirements T)).settle Ask.instant o 1
        { d with build := { d.build with stage := .REQUIREMENTS } } :=
    settle_callModel .requirements (Thread.ask Ask.requirements) (afterRequirements T)
  rw [hsettle]
  cases o 0 (.quota (.reserve .requirements)) with
  | some e => exact ⟨.ended rfl, rfl, .inr rfl⟩
  | none => exact ⟨.requirements, rfl, .inl rfl⟩

theorem settle_requirements (r : Except ModelError Req) :
    Designing T (((modelAnswer r).bind (afterRequirements T)).settle Ask.instant o 1 d).1 ∧
      Calm d (((modelAnswer r).bind (afterRequirements T)).settle Ask.instant o 1 d).2 := by
  cases r with
  | error e => exact (settle_modelError e _).imp .ended id
  | ok req =>
    have hsettle : ((modelAnswer (.ok req)).bind (afterRequirements T)).settle Ask.instant o 1 d =
        ((withBudget (Thread.ask Ask.architecture) (o 1 (.quota (.reserve .architecture)))).bind
          (afterArchitecture T req)).settle Ask.instant o 2
          { d with build := { d.build with stage := .BLUEPRINT } } :=
      settle_callModel .architecture (Thread.ask Ask.architecture) (afterArchitecture T req)
    rw [hsettle]
    cases o 1 (.quota (.reserve .architecture)) with
    | some e => exact ⟨.ended rfl, rfl, .inr rfl⟩
    | none => exact ⟨.architecture req, rfl, .inl rfl⟩

def Desk.recorded (d : Desk β) (source : FindingSource) (issues : List ValidationIssue) : Desk β :=
  { d with build := { d.build with findings := d.build.findings ++ issues.map (⟨·, source⟩) } }

theorem settle_recordFindings (source : FindingSource) (issues : List ValidationIssue)
    (f : Unit → Job β Req Arch (Reply β)) :
    ((recordFindings source issues).bind f).settle Ask.instant o n d =
      (f ()).settle Ask.instant o n (d.recorded source issues) := by
  induction issues generalizing d with
  | nil => simp [recordFindings, Desk.recorded]
  | cons i issues ih =>
    have hcons : ((recordFindings source (i :: issues)).bind f).settle Ask.instant o n d =
        ((recordFindings source issues).bind f).settle Ask.instant o n (d.recorded source [i]) := rfl
    rw [hcons, ih]
    simp [Desk.recorded]

theorem ended_afterReview (blueprint : Blueprint β) (validation : ValidationResult)
    (review : Except StudioError (List ValidationIssue)) :
    ((afterReview blueprint validation review : Job β Req Arch _).settle Ask.instant o n
      d).1.ended = true := by
  rw [afterReview, settle_recordFindings, boundary]
  by_cases hbuildable : (!validation.buildable) = true
  · rw [if_pos hbuildable]
    rfl
  · rw [if_neg hbuildable]
    rfl

/-- **A design that is saved** awaits its review, or ends without it where the budget refuses. -/
theorem settle_afterResolved (blueprint : Blueprint β) :
    Designing T ((afterResolved T blueprint).settle Ask.instant o 2 d).1 ∧
      (o 2 (.quota (.reserve .security)) = none →
        Calm d ((afterResolved T blueprint).settle Ask.instant o 2 d).2) := by
  let issues := (validateBlueprint T blueprint).issues
  let saved : Desk β := (d.saved blueprint issues)
  let staged : Desk β := { saved with build := { saved.build with stage := .SECURITY_REVIEW } }
  have hsettle : (afterResolved T blueprint).settle Ask.instant o 2 d =
      ((Thread.attempt (withBudget (Thread.ask Ask.security)
        (o 2 (.quota (.reserve .security))))).bind
          (afterReview blueprint (validateBlueprint T blueprint))).settle Ask.instant o 3
        (staged.recorded .deterministicValidator issues) :=
    (settle_recordFindings (d := staged) .deterministicValidator issues _).trans
      (settle_attempt_callModel .security (Thread.ask Ask.security) _)
  rw [hsettle]
  cases o 2 (.quota (.reserve .security)) with
  | some e =>
    refine ⟨.ended (ended_afterReview _ _ _), fun hnone => ?_⟩
    cases hnone
  | none => exact ⟨.security _ _, fun _ => ⟨rfl, .inl rfl⟩⟩

/-- **The architect's answer.** Where the budget of the review is not refused, nothing comes under
    way. -/
theorem settle_architecture (req : Req) (r : Except ModelError Arch) :
    Designing T (((modelAnswer r).bind (afterArchitecture T req)).settle Ask.instant o 1 d).1 ∧
      (o 2 (.quota (.reserve .security)) = none →
        Calm d (((modelAnswer r).bind (afterArchitecture T req)).settle Ask.instant o 1 d).2) := by
  cases r with
  | error e => exact (settle_modelError e _).imp .ended fun hcalm _ => hcalm
  | ok arch =>
    let createdAt : String := o 1 .now
    have hdraft : ((modelAnswer (.ok arch)).bind (afterArchitecture T req)).settle Ask.instant o 1 d =
        (afterResolved T (resolved T req arch createdAt).1).settle Ask.instant o 2
          (d.recorded .adapterResolver (resolved T req arch createdAt).2) :=
      settle_recordFindings .adapterResolver (resolved T req arch createdAt).2 _
    rw [hdraft]
    obtain ⟨hdesigning, hcalm⟩ := settle_afterResolved (T := T) (o := o)
      (d := d.recorded .adapterResolver (resolved T req arch createdAt).2)
      (resolved T req arch createdAt).1
    have hrecorded : Calm d (d.recorded .adapterResolver (resolved T req arch createdAt).2) :=
      ⟨rfl, .inl rfl⟩
    exact ⟨hdesigning, fun hnone => hrecorded.trans _ _ _ (hcalm hnone)⟩

/-- **The review's answer** ends the design. -/
theorem settle_security (blueprint : Blueprint β) (validation : ValidationResult)
    (r : Except ModelError (List ValidationIssue)) :
    (((Thread.attempt (modelAnswer r)).bind (afterReview blueprint validation) :
      Job β Req Arch _).settle Ask.instant o n d).1.ended = true := by
  rcases r with (attempts | message) | issues
  · exact ended_afterReview _ _ _
  · exact ended_afterReview _ _ _
  · exact ended_afterReview _ _ _

end Design

/-! ## 4. The turns of a build -/

section Turns

variable {T : Tools β Req Arch} {p p' : Calls β Req Arch}

/-- A call that was started: it may set its build under way only if it is a design, and then as the
    design it is. -/
structure Placed (T : Tools β Req Arch) (entry : Op β × Job β Req Arch (Reply β)) : Prop where
  stirs : entry.2.Within Stirs
  calm : entry.1 ≠ .runToApproval → entry.2.Within Calm
  designing : entry.1 = .runToApproval → Designing T entry.2

theorem stirs_of_calm {q : Job β Req Arch α} (h : q.Within Calm) : q.Within Stirs :=
  h.mono fun _ _ hcalm => hcalm.stirs

theorem placed_start (op : Op β) (o : Thread.Oracle (Answer Req Arch)) (d : Desk β) :
    Placed T (op, ((program T op).settle Ask.instant o 0 d).1) ∧
      Stirs d ((program T op).settle Ask.instant o 0 d).2 ∧
      ((op = .runBuild → (d.build.approvedAt.isSome && d.build.currentBlueprint.isSome) = false) →
        Calm d ((program T op).settle Ask.instant o 0 d).2) := by
  by_cases hbuild : op = .runBuild
  · subst hbuild
    obtain ⟨hrest, hstirs, hcalm⟩ := settle_runBuild (d := d) T o
    exact ⟨⟨stirs_of_calm hrest, fun _ => hrest, fun hop => by cases hop⟩, hstirs, fun h => hcalm (h rfl)⟩
  · by_cases hdesign : op = .runToApproval
    · subst hdesign
      obtain ⟨hdesigning, hcalm⟩ := settle_runToApproval (T := T) (d := d) (o := o)
      have hrest := (settle_keeps (runToApproval_stirs T) o 0 d).2
      exact ⟨⟨hrest, fun hop => absurd rfl hop, fun _ => hdesigning⟩, hcalm.stirs, fun _ => hcalm⟩
    · obtain ⟨hcalm, hrest⟩ := settle_keeps (program_calm T hdesign hbuild) o 0 d
      exact ⟨⟨stirs_of_calm hrest, fun _ => hrest, fun hop => absurd hop hdesign⟩, hcalm.stirs,
        fun _ => hcalm⟩

/-- **One turn** of a build's calls. -/
theorem turn_keeps {turn : CallTurn β Req Arch} (hplaced : ∀ entry ∈ p.threads, Placed T entry)
    (hstep : Calls.step T p turn = some p') :
    (∀ entry ∈ p'.threads, Placed T entry) ∧ Stirs p.shared p'.shared ∧
      (mayActivate p turn = false → Calm p.shared p'.shared) := by
  rcases Pool.step_cases hstep with ⟨op, o, rfl, rfl⟩ | ⟨i, o, op, e, k, rfl, hi, rfl⟩
  · obtain ⟨hnew, hstirs, hcalm⟩ := placed_start (T := T) op o p.shared
    refine ⟨fun entry hentry => ?_, hstirs, fun hfalse => hcalm fun hop => ?_⟩
    · rcases List.mem_append.mp hentry with hold | hlast
      · exact hplaced entry hold
      · rw [List.mem_singleton.mp hlast]
        exact hnew
    · subst hop
      exact hfalse
  · have hentry := hplaced _ (List.mem_of_getElem? hi)
    obtain ⟨hstirs, hrest⟩ := settle_keeps (hentry.stirs (o 0 e)) o 1 p.shared
    have hthreads : ∀ t : Job β Req Arch (Reply β), Placed T (op, t) →
        ∀ entry ∈ p.threads.set i (op, t), Placed T entry := fun _ ht => forall_mem_set hplaced ht
    by_cases hdesign : op = .runToApproval
    · subst hdesign
      have hdone : ∀ t : Job β Req Arch (Reply β), t.Within Stirs → Designing T t →
          Placed T (.runToApproval, t) :=
        fun t ht htd => ⟨ht, fun hop => absurd rfl hop, fun _ => htd⟩
      cases hentry.designing rfl with
      | ended h => cases h
      | requirements =>
        obtain ⟨hdesigning, hcalm⟩ := settle_requirements (T := T) (d := p.shared) (o := o)
          (o 0 .requirements)
        exact ⟨hthreads _ (hdone _ hrest hdesigning), hstirs, fun _ => hcalm⟩
      | architecture req =>
        obtain ⟨hdesigning, hcalm⟩ := settle_architecture (T := T) (d := p.shared) (o := o) req
          (o 0 .architecture)
        refine ⟨hthreads _ (hdone _ hrest hdesigning), hstirs, fun hfalse => hcalm ?_⟩
        have hgranted : (o 2 (.quota (.reserve .security)) : Option QuotaExceeded).isSome = false := by
          simpa only [mayActivate, hi] using hfalse
        exact Option.not_isSome_iff_eq_none.mp (Bool.eq_false_iff.mp hgranted)
      | security blueprint validation =>
        have hended := settle_security (n := 1) (d := p.shared) (o := o) blueprint validation
          (o 0 .security)
        refine ⟨hthreads _ (hdone _ hrest (.ended hended)), hstirs, fun hfalse => ?_⟩
        simp only [mayActivate, hi] at hfalse
        cases hfalse
    · obtain ⟨hcalm, hquiet⟩ := settle_keeps (hentry.calm hdesign (o 0 e)) o 1 p.shared
      exact ⟨hthreads _ ⟨hrest, fun _ => hquiet, fun hop => absurd hop hdesign⟩, hstirs,
        fun _ => hcalm⟩

end Turns

/-! ## 5. Slots over runs -/

def Build.counts (b : Build β) (userId : String) : Nat :=
  if (decide (b.userId = userId) && b.status.active) = true then 1 else 0

theorem activeBuilds_set {rows : List (Build β)} {i : Nat} {b : Build β} (hi : rows[i]? = some b)
    (b' : Build β) (userId : String) :
    activeBuilds (rows.set i b') userId + b.counts userId =
      activeBuilds rows userId + b'.counts userId := by
  obtain ⟨hlt, hb⟩ := List.getElem?_eq_some_iff.mp hi
  have hset := List.countP_set (p := fun b : Build β => decide (b.userId = userId) && b.status.active)
    (a := b') hlt
  have hle := List.boole_getElem_le_countP
    (p := fun b : Build β => decide (b.userId = userId) && b.status.active) hlt
  rw [hb] at hset hle
  unfold activeBuilds Build.counts
  omega

theorem activeBuilds_concat (rows : List (Build β)) (b : Build β) (userId : String) :
    activeBuilds (rows ++ [b]) userId = activeBuilds rows userId + b.counts userId := by
  unfold activeBuilds Build.counts
  rw [List.countP_append, List.countP_singleton]

theorem counts_of_calm {d d' : Desk β} (h : Calm d d') (userId : String) :
    d'.build.counts userId ≤ d.build.counts userId := by
  unfold Build.counts
  rw [h.userId]
  rcases h.status with hsame | hended
  · rw [hsame]
  · rw [hended, Bool.and_false]
    exact Nat.zero_le _

theorem counts_le_one (b : Build β) (userId : String) : b.counts userId ≤ 1 := by
  unfold Build.counts
  split <;> omega

/-- No user has more builds under way than the cap, and every call is placed. -/
structure Slotted (T : Tools β Req Arch) (policy : StudioQuotaPolicy) (s : Server β Req Arch) :
    Prop where
  bounded : ∀ userId, activeBuilds s.rows userId ≤ policy.concurrentBuilds
  placed : ∀ p ∈ s, ∀ entry ∈ p.threads, Placed T entry

section Runs

variable {T : Tools β Req Arch} {policy : StudioQuotaPolicy} {s s' : Server β Req Arch}

theorem slot_free {rows : List (Build β)} {userId : String} {recent : Nat}
    (h : assertCanCreateBuild policy rows userId recent = none) :
    activeBuilds rows userId < policy.concurrentBuilds := by
  by_contra hcap
  have hfull : policy.concurrentBuilds ≤ activeBuilds rows userId := by omega
  cases hlimit : policy.newBuildsPerRollingDay with
  | none => simp [assertCanCreateBuild, hlimit, hfull] at h
  | some limit =>
    simp only [assertCanCreateBuild, hlimit, if_pos hfull] at h
    split at h
    · cases h
    · cases h

/-- **A build that is created** finds a slot free. -/
theorem createUnder_cases (policy : StudioQuotaPolicy) (o : Outside Req Arch) (rows : List (Build β)) (userId : String)
    (key : Option String) (recent : Nat) :
    createUnder policy o rows userId key recent = rows ∨
      activeBuilds rows userId < policy.concurrentBuilds ∧
      createUnder policy o rows userId key recent =
        rows ++ [.created o.newBuildId o.newProjectId userId key] := by
  unfold createUnder createBuild
  cases (soughtKey key).bind (findByIdempotencyKey rows) with
  | some existing => exact .inl rfl
  | none =>
    cases hquota : assertCanCreateBuild policy rows userId recent with
    | some e => exact .inl rfl
    | none =>
      have hfree := slot_free hquota
      simp only [insertBuild]
      split
      · exact .inl rfl
      · split
        · exact .inl rfl
        · exact .inr ⟨hfree, rfl⟩

theorem slotted_create (o : Outside Req Arch) (userId : String) (key : Option String) (recent : Nat)
    (h : Slotted T policy s) :
    Slotted T policy (s ++ ((createUnder policy o s.rows userId key recent).drop s.length).map
      Calls.of) := by
  have hlength : s.rows.length = s.length := List.length_map _
  rcases createUnder_cases policy o s.rows userId key recent with hsame | ⟨hfree, hnew⟩
  · have hnone : s.rows.drop s.length = [] := by rw [← hlength, List.drop_length]
    rw [hsame, hnone, List.map_nil, List.append_nil]
    exact h
  · have hlast : (s.rows ++ [Build.created o.newBuildId o.newProjectId userId key]).drop s.length =
        [Build.created o.newBuildId o.newProjectId userId key] := by
      rw [← hlength, List.drop_left]
    rw [hnew, hlast]
    refine ⟨fun user => ?_, fun p hp => ?_⟩
    · have hrows : Server.rows (s ++
          ([Calls.of (Build.created o.newBuildId o.newProjectId userId key)] : Server β Req Arch)) =
            s.rows ++ [Build.created o.newBuildId o.newProjectId userId key] := by
        simp [Server.rows, Calls.of, Pool.idle]
      show activeBuilds (Server.rows (s ++ [Calls.of _])) user ≤ _
      rw [hrows, activeBuilds_concat]
      by_cases huser : user = userId
      · have hone := counts_le_one
          (Build.created o.newBuildId o.newProjectId userId key : Build β) user
        rw [huser] at hone ⊢
        omega
      · have hzero : (Build.created o.newBuildId o.newProjectId userId key : Build β).counts user = 0 := by
          simp [Build.counts, Build.created, Ne.symm huser]
        rw [hzero]
        exact h.bounded user
    · rcases List.mem_append.mp hp with hold | hmem
      · exact h.placed p hold
      · rw [List.mem_singleton.mp hmem]
        intro entry hentry
        cases hentry

/-- **One turn** of a build's calls, where it finds the build under way or a slot free. -/
theorem slotted_call {i : Nat} {p p' : Calls β Req Arch} {turn : CallTurn β Req Arch}
    (h : Slotted T policy s) (hi : s[i]? = some p) (hstep : Calls.step T p turn = some p')
    (hslot : mayActivate p turn = false ∨ p.shared.build.status.active = true ∨
      activeBuilds s.rows p.shared.build.userId < policy.concurrentBuilds) :
    Slotted T policy (s.set i p') := by
  obtain ⟨hplaced, hstirs, hcalm⟩ := turn_keeps (h.placed p (List.mem_of_getElem? hi)) hstep
  refine ⟨fun user => ?_, fun q hq => ?_⟩
  · have hrow : s.rows[i]? = some p.shared.build := by
      rw [Server.rows, List.getElem?_map, hi]
      rfl
    have hrows : Server.rows (s.set i p') = s.rows.set i p'.shared.build := List.map_set
    have hcount := activeBuilds_set hrow p'.shared.build user
    have hbound := h.bounded user
    show activeBuilds (Server.rows (s.set i p')) user ≤ _
    rw [hrows]
    by_cases huser : p.shared.build.userId = user
    · rcases hslot with hquiet | hactive | hfree
      · have hle := counts_of_calm (hcalm hquiet) user
        omega
      · have hone : p.shared.build.counts user = 1 := by
          simp [Build.counts, huser, hactive]
        have hle := counts_le_one p'.shared.build user
        omega
      · rw [huser] at hfree
        have hle := counts_le_one p'.shared.build user
        omega
    · have hzero : p'.shared.build.counts user = 0 := by
        have huser' : p'.shared.build.userId ≠ user := by
          rw [hstirs.userId]
          exact huser
        simp [Build.counts, huser']
      omega
  · exact forall_mem_set h.placed hplaced q hq

/-- **The cap on concurrent builds.** In every run whose turns set a build under way only where it
    still is, or a slot is free, no user has more builds under way than the cap. -/
theorem slots_bounded
    (h : Reaches (guarded (Server.step T policy) fun s turn => withinSlots policy s turn = true)
      [] s) (userId : String) : activeBuilds s.rows userId ≤ policy.concurrentBuilds := by
  have hempty : Slotted T policy ([] : Server β Req Arch) :=
    ⟨fun _ => Nat.zero_le _, fun p hp => by cases hp⟩
  refine (h.invariant (P := Slotted T policy) (fun s turn s' hslotted hstep => ?_) hempty).bounded
    userId
  obtain ⟨hguard, hstep⟩ := guarded_eq_some.mp hstep
  cases turn with
  | createBuild o user key recent =>
    cases hstep
    exact slotted_create o user key recent hslotted
  | call i turn =>
    simp only [Server.step] at hstep
    cases hi : s[i]? with
    | none =>
      rw [hi] at hstep
      cases hstep
    | some p =>
      rw [hi] at hstep
      obtain ⟨p', hturn, rfl⟩ := Option.map_eq_some_iff.mp hstep
      refine slotted_call hslotted hi hturn ?_
      simpa [withinSlots, hi, or_assoc] using hguard

end Runs

/-- The outside of a new build with that id. -/
def fresh (id : String) : Outside Unit Unit where
  answers := willing
  rateLimited := none
  creationQuota := none
  newBuildId := id
  newProjectId := "prj_" ++ id
  organization _ := none

/-- A build that is designed and approved, abandoned, and followed by another. -/
def replacedTurns : List (ServerTurn Bool Unit Unit) :=
  [.createBuild (fresh "bld_1") "usr_1" none 0] ++ designTurns.map (.call 0) ++
    [.call 0 (.start (.approve []) willing), .call 0 (.start (.abandon "not this one") willing),
      .createBuild (fresh "bld_2") "usr_1" none 0]

def Server.statuses (s : Server Bool Unit Unit) : List (String × BuildStatus) :=
  s.rows.map fun b => (b.userId, b.status)

/-- The build that was followed by another, and what is true of its user. -/
theorem replaced_bounded :
    ∃ s, Reaches (guarded (Server.step plainTools STANDARD_QUOTA)
        fun s turn => withinSlots STANDARD_QUOTA s turn = true) [] s ∧
      s.statuses = [("usr_1", .ABANDONED), ("usr_1", .RUNNING)] ∧
      activeBuilds s.rows "usr_1" ≤ 1 := by
  have hrun : ∃ s, Reaches (guarded (Server.step plainTools STANDARD_QUOTA)
      fun s turn => withinSlots STANDARD_QUOTA s turn = true) [] s ∧
      s.statuses = [("usr_1", .ABANDONED), ("usr_1", .RUNNING)] :=
    reaches_of_observed Server.statuses replacedTurns (by decide)
  obtain ⟨s, hreach, hstatuses⟩ := hrun
  exact ⟨s, hreach, hstatuses, slots_bounded hreach "usr_1"⟩

/-! ## 6. A build that comes back -/

/-- **Two builds under way** for a user of one slot: the abandoned one is built after all. -/
theorem slots_exceeded :
    ∃ s, Reaches (Server.step plainTools STANDARD_QUOTA) [] s ∧
      STANDARD_QUOTA.concurrentBuilds < activeBuilds s.rows "usr_1" := by
  have hrun : ∃ s, Reaches (Server.step plainTools STANDARD_QUOTA) [] s ∧
      activeBuilds s.rows "usr_1" = 2 :=
    reaches_of_observed (fun s : Server Bool Unit Unit => activeBuilds s.rows "usr_1")
      (replacedTurns ++ [.call 0 (.start .runBuild willing)]) (by decide)
  obtain ⟨s, hreach, hcount⟩ := hrun
  refine ⟨s, hreach, ?_⟩
  rw [hcount]
  decide

end ContextLock.Studio
