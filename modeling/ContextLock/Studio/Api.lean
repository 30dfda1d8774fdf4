/-
  Subject:   The build routes of the Studio, and what they tell one user of another's builds.

  Each handler finds a build by its id, or by the idempotency key it is created under. The routes
  that abandon a build and that simulate its scenarios ask whose it is; the others do not.
-/
import Mathlib.Data.List.Nodup
import ContextLock.Studio.Approved

namespace ContextLock.Studio

open Machine

variable {β Req Arch : Type}

/-! ## 1. The database -/

/-- The builds. Ids and idempotency keys are unique. -/
structure Db (β : Type) where
  builds : List (Build β)
  ids : (builds.map (·.id)).Nodup
  keys : ∀ b ∈ builds, ∀ b' ∈ builds, ∀ key, b.idempotencyKey = some key →
    b'.idempotencyKey = some key → b = b'

def findById (builds : List (Build β)) (id : String) : Option (Build β) :=
  builds.find? (·.id = id)

def findByIdempotencyKey (builds : List (Build β)) (key : String) : Option (Build β) :=
  builds.find? (·.idempotencyKey = some key)

/-- The database with the builds of one user. -/
def Db.of (db : Db β) (userId : String) : Db β where
  builds := db.builds.filter (·.userId = userId)
  ids := db.ids.sublist (List.filter_sublist.map _)
  keys b hb b' hb' := db.keys b (List.mem_filter.mp hb).1 b' (List.mem_filter.mp hb').1

/-- `rowOf`. -/
structure BuildRow where
  id : String
  projectId : String
  userId : String
  stage : BuildStage
  status : BuildStatus
  blueprintRevision : Option Int
  buildRevision : Nat
  repairCycles : Nat
  approvedAt : Option String
  failureReason : Option String

def Build.row (b : Build β) : BuildRow :=
  ⟨b.id, b.projectId, b.userId, b.stage, b.status, b.blueprintRevision, b.buildRevision,
    b.repairCycles, b.approvedAt, b.failureReason⟩

/-! ## 2. Requests and responses -/

/-- A request to `/api/studio/builds/:id`. -/
inductive BuildRequest (β : Type) where
  | design
  | approve (acknowledgeFindings : List String)
  | build
  | abandon (reason : Option String)
  | simulate (scenarioIds : List String)
  | edit (patch : Blueprint β → Blueprint β)
  | read
  | file (path : String)
  | exportBundle

inductive Request (β : Type) where
  | onBuild (id : String) (r : BuildRequest β)
  /-- `POST /api/studio/builds`. -/
  | create (idempotencyKey : Option String)
  /-- `POST /api/studio/organizations/:id/agents/:agentId/build`. -/
  | buildMember (orgId agentId : String)

inductive Body (β : Type) where
  | error (message : String)
  | row (build : BuildRow)
  | replied (build : Option BuildRow) (reply : Reply β)
  | view (build : BuildRow) (blueprint : Option (Blueprint β)) (simulations : List SimulationResult)
      (files : List Artifact) (findings : List Finding) (tests : List TestRow)
  | file (content : String)
  | exported (files : List GeneratedFile)

structure Response (β : Type) where
  code : Nat
  body : Body β

/-- What a request meets outside the database: the answers to what a job asks, the limits of the
    user's own requests, the ids that are drawn, and the user's organizations with their agents. -/
structure Outside (Req Arch : Type) where
  answers : Thread.Oracle (Answer Req Arch)
  rateLimited : Option String
  creationQuota : Option QuotaExceeded
  newBuildId : String
  newProjectId : String
  organization : String → Option (List String)

/-- The documents of an export, and the errors of its checks. -/
structure ExportTools (β : Type) where
  reports : Blueprint β → List SimulationResult → List GeneratedFile
  tooLarge : List GeneratedFile → Option (Nat × Nat)
  scanExportForSecrets : List GeneratedFile → List String

/-! ## 3. Handlers -/

section Handlers

variable (T : Tools β Req Arch) (X : ExportTools β) (o : Outside Req Arch)

/-- A job, run for one request. -/
def perform (job : Job β Req Arch (Reply β)) (b : Build β) :
    Except StudioError (Reply β) × Build β :=
  let ended := job.run o.answers 0 ⟨b, false, Watch.nothing⟩
  (ended.1, ended.2.build)

def fail (code : Nat) (message : String) : Response β := ⟨code, .error message⟩

def noSuchBuild : Response β := fail 404 "no such build"

/-- The error of a job: 429 where a quota is exceeded, if the route says so. -/
def failWith (code : Nat) (quotaCode : Nat) (id : String) (e : StudioError) : Response β :=
  match e with
  | .quotaExceeded e => fail quotaCode e.message
  | e => fail code (e.message id)

/-- A job run for the build, if there is one; the row is sent along where `withRow`. -/
def respond (code quotaCode : Nat) (withRow : Bool) (id : String)
    (job : Job β Req Arch (Reply β)) (b : Build β) : Response β × Option (Build β) :=
  let ended := perform o job b
  match ended.1 with
  | .ok reply =>
    (⟨200, .replied (if withRow then some ended.2.row else none) reply⟩, some ended.2)
  | .error e => (failWith code quotaCode id e, some ended.2)

/-- The newest artifact of a path. -/
def newest (path : String) : List Artifact → Option Artifact
  | [] => none
  | a :: rest =>
    if a.path = path then
      match newest path rest with
      | none => some a
      | some later => if later.buildRevision < a.buildRevision then some a else some later
    else newest path rest

/-- Newest build first, and by path. -/
def byRevision (artifacts : List Artifact) : List Artifact :=
  artifacts.mergeSort fun a a' =>
    decide (a'.buildRevision < a.buildRevision) ||
      (decide (a.buildRevision = a'.buildRevision) && decide (a.path ≤ a'.path))

def exportedArtifacts (artifacts : List Artifact) : List GeneratedFile :=
  let revision := artifacts.foldl (fun n a => max n a.buildRevision) 0
  (byRevision (artifacts.filter (·.buildRevision = revision))).map fun a => ⟨a.path, a.content⟩

def buildExport (blueprint : Blueprint β) (b : Build β) : Response β :=
  let files := exportedArtifacts b.artifacts ++ X.reports blueprint (b.simulations.map (·.result))
  match X.tooLarge files with
  | some (bytes, limit) =>
    fail 413 ("export is " ++ toString bytes ++ " bytes, limit is " ++ toString limit)
  | none =>
    if X.scanExportForSecrets files ≠ [] then
      fail 409 ("export blocked: possible credential in "
        ++ ", ".intercalate (X.scanExportForSecrets files))
    else ⟨200, .exported files⟩

/-- The handler of a request by `userId` for the build found at `id`: its response, and the row
    it leaves. -/
def BuildRequest.handle (userId id : String) :
    BuildRequest β → Option (Build β) → Response β × Option (Build β)
  | .design, some b => respond o 500 429 true id (runToApproval T) b
  | .design, none => (fail 500 ("no such build: " ++ id), none)
  | .approve acknowledgeFindings, some b =>
    respond o 409 409 true id (ContextLock.Studio.approve acknowledgeFindings) b
  | .approve _, none => (fail 409 ("no such build: " ++ id), none)
  | .build, some b => respond o 500 500 true id (runBuild T) b
  | .build, none => (fail 500 ("no such build: " ++ id), none)
  | .abandon reason, some b =>
    if b.userId ≠ userId then (noSuchBuild, none)
    else
      respond o 409 409 true id
        (ContextLock.Studio.abandon (reason.getD "abandoned by the user")) b
  | .abandon _, none => (noSuchBuild, none)
  | .simulate scenarioIds, some b =>
    if b.userId ≠ userId then (noSuchBuild, none)
    else respond o 409 429 false id (runUserSimulations scenarioIds) b
  | .simulate _, none => (noSuchBuild, none)
  | .edit patch, some b => respond o 400 400 false id (editBlueprint T patch) b
  | .edit _, none => (fail 400 ("build " ++ id ++ " has no blueprint"), none)
  | .read, some b =>
    (⟨200, .view b.row b.currentBlueprint (b.simulations.map (·.result)) (byRevision b.artifacts)
      b.findings b.tests⟩, none)
  | .read, none => (noSuchBuild, none)
  | .file path, some b =>
    match newest path b.artifacts with
    | some a => (⟨200, .file a.content⟩, none)
    | none => (fail 404 "no such file", none)
  | .file _, none => (fail 404 "no such file", none)
  | .exportBundle, some b =>
    match b.currentBlueprint with
    | none => (fail 409 "build has no blueprint to export", none)
    | some blueprint => (buildExport X blueprint b, none)
  | .exportBundle, none => (noSuchBuild, none)

/-- A build is inserted where neither its id nor its key is in use. -/
def insertBuild (builds : List (Build β)) (userId : String) (key : Option String) :
    Response β × List (Build β) :=
  if builds.any (·.id = o.newBuildId) then
    (fail 500 "UNIQUE constraint failed: studio_builds.id", builds)
  else if key.any fun key => builds.any (·.idempotencyKey = some key) then
    (fail 500 "UNIQUE constraint failed: studio_builds.idempotency_key", builds)
  else
    let b := Build.created o.newBuildId o.newProjectId userId key
    (⟨201, .row b.row⟩, builds ++ [b])

/-- A key that is looked up; the empty key is not. -/
def soughtKey (key : Option String) : Option String := key.filter (· ≠ "")

/-- `createBuild`: the build of the key, whosever it is, or a new one. -/
def createBuild (builds : List (Build β)) (userId : String) (key : Option String) :
    Response β × List (Build β) :=
  match (soughtKey key).bind (findByIdempotencyKey builds) with
  | some existing => (⟨201, .row existing.row⟩, builds)
  | none =>
    match o.creationQuota with
    | some e => (fail 429 e.message, builds)
    | none => insertBuild o builds userId key

def keyRefusal : Response β := fail 409 "idempotency key belongs to another user"

/-- A request by `userId`: the response, and the builds after it. -/
def serve (userId : String) (request : Request β) (builds : List (Build β)) :
    Response β × List (Build β) :=
  match request with
  | .onBuild id r =>
    let handled := r.handle T X o userId id (findById builds id)
    match handled.2 with
    | none => (handled.1, builds)
    | some b => (handled.1, builds.map fun other => if other.id = id then b else other)
  | .create key =>
    match (soughtKey key).bind (findByIdempotencyKey builds) with
    | some existing =>
      if existing.userId ≠ userId then (keyRefusal, builds)
      else (⟨200, .row existing.row⟩, builds)
    | none =>
      match o.rateLimited with
      | some message => (fail 429 message, builds)
      | none => createBuild o builds userId key
  | .buildMember orgId agentId =>
    match o.organization orgId with
    | none => (fail 404 "no such organization", builds)
    | some agents =>
      if agents.contains agentId then
        createBuild o builds userId (some ("org:" ++ orgId ++ ":" ++ agentId))
      else (fail 404 "no such member", builds)

end Handlers

/-! ## 4. Finding a build -/

section Find

variable {db : Db β} {b : Build β} {id userId : String}

theorem mem_of_findById {builds : List (Build β)} (h : findById builds id = some b) :
    b ∈ builds ∧ b.id = id := by
  have hid := List.find?_some h
  exact ⟨List.mem_of_find?_eq_some h, of_decide_eq_true hid⟩

theorem mem_of_findByKey {builds : List (Build β)} {key : String}
    (h : findByIdempotencyKey builds key = some b) : b ∈ builds ∧ b.idempotencyKey = some key := by
  have hkey := List.find?_some h
  exact ⟨List.mem_of_find?_eq_some h, of_decide_eq_true hkey⟩

theorem Db.id_inj (db : Db β) {b b' : Build β} (hb : b ∈ db.builds) (hb' : b' ∈ db.builds)
    (h : b.id = b'.id) : b = b' :=
  List.inj_on_of_nodup_map db.ids hb hb' h

theorem findById_of_mem (hb : b ∈ db.builds) : findById db.builds b.id = some b := by
  have hsome : (findById db.builds b.id).isSome = true :=
    List.find?_isSome.mpr ⟨b, hb, decide_eq_true rfl⟩
  obtain ⟨found, hfound⟩ := Option.isSome_iff_exists.mp hsome
  obtain ⟨hmem, hid⟩ := mem_of_findById hfound
  rw [hfound, db.id_inj hmem hb hid]

theorem mem_of : b ∈ (db.of userId).builds ↔ b ∈ db.builds ∧ b.userId = userId := by
  simp [Db.of]

theorem findById_of (h : findById db.builds id = some b) :
    findById (db.of userId).builds id = if b.userId = userId then some b else none := by
  obtain ⟨hmem, hid⟩ := mem_of_findById h
  by_cases howner : b.userId = userId
  · rw [if_pos howner, ← hid]
    exact findById_of_mem (mem_of.mpr ⟨hmem, howner⟩)
  · rw [if_neg howner]
    refine List.find?_eq_none.mpr fun other hother => ?_
    obtain ⟨hother, hothers⟩ := mem_of.mp hother
    intro hsame
    have hsame : other.id = id := of_decide_eq_true hsame
    exact howner (db.id_inj hmem hother (hid.trans hsame.symm) ▸ hothers)

theorem findByKey_of {key : String} (h : findByIdempotencyKey db.builds key = some b) :
    findByIdempotencyKey (db.of userId).builds key = if b.userId = userId then some b else none := by
  obtain ⟨hmem, hkey⟩ := mem_of_findByKey h
  have honly : ∀ other ∈ (db.of userId).builds, other.idempotencyKey = some key → other = b :=
    fun other hother hsame => db.keys other (mem_of.mp hother).1 b hmem key hsame hkey
  by_cases howner : b.userId = userId
  · rw [if_pos howner]
    have hsome : (findByIdempotencyKey (db.of userId).builds key).isSome = true :=
      List.find?_isSome.mpr ⟨b, mem_of.mpr ⟨hmem, howner⟩, decide_eq_true hkey⟩
    obtain ⟨found, hfound⟩ := Option.isSome_iff_exists.mp hsome
    obtain ⟨hfoundMem, hfoundKey⟩ := mem_of_findByKey hfound
    rw [hfound, honly found hfoundMem hfoundKey]
  · rw [if_neg howner]
    refine List.find?_eq_none.mpr fun other hother hsame => howner ?_
    rw [← honly other hother (of_decide_eq_true hsame)]
    exact (mem_of.mp hother).2

theorem findByKey_of_none {key : String} (h : findByIdempotencyKey db.builds key = none) :
    findByIdempotencyKey (db.of userId).builds key = none :=
  List.find?_eq_none.mpr fun other hother =>
    List.find?_eq_none.mp h other (mem_of.mp hother).1

theorem findById_of_none (h : findById db.builds id = none) :
    findById (db.of userId).builds id = none :=
  List.find?_eq_none.mpr fun other hother =>
    List.find?_eq_none.mp h other (mem_of.mp hother).1

end Find

/-! ## 5. Isolation -/

section Isolation

variable (T : Tools β Req Arch) (X : ExportTools β)

/-- The response is what it would be if there were no builds of other users, or the refusal of a
    key; and every row of another user stays what it was. An id that is drawn is new. -/
def Isolates (userId : String) (request : Request β) (db : Db β) : Prop :=
  ∀ o : Outside Req Arch, (∀ b ∈ db.builds, b.id ≠ o.newBuildId) →
    ((serve T X o userId request db.builds).1 =
        (serve T X o userId request (db.of userId).builds).1 ∨
      (serve T X o userId request db.builds).1 = keyRefusal) ∧
    ∀ b ∈ db.builds, b.userId ≠ userId → b ∈ (serve T X o userId request db.builds).2

/-- The requests for another user's build that say nothing of it. -/
def BuildRequest.Harmless : BuildRequest β → Build β → Prop
  | .abandon _, _ => True
  | .simulate _, _ => True
  | .edit _, b => b.currentBlueprint = none
  | .file path, b => newest path b.artifacts = none
  | _, _ => False

/-- The requests of a user that isolate. -/
def Request.Harmless (userId : String) (db : Db β) : Request β → Prop
  | .onBuild id r => ∀ b ∈ db.builds, b.id = id → b.userId ≠ userId → r.Harmless b
  | .create key => key = some "" → ∀ b ∈ db.builds, b.idempotencyKey = some "" → b.userId = userId
  | .buildMember orgId agentId => ∀ b ∈ db.builds,
    b.idempotencyKey = some ("org:" ++ orgId ++ ":" ++ agentId) → b.userId = userId

/-! ### 5.1 At a build -/

variable {T X} {o : Outside Req Arch} {userId id : String} {r : BuildRequest β} {b : Build β}

section Respond

variable {code quotaCode : Nat} {withRow : Bool} {job : Job β Req Arch (Reply β)}

theorem respond_error {e : StudioError} (h : (perform o job b).1 = .error e) :
    (respond o code quotaCode withRow id job b).1 = failWith code quotaCode id e := by
  simp only [respond, h]

theorem respond_ok {reply : Reply β} (h : (perform o job b).1 = .ok reply) :
    (respond o code quotaCode withRow id job b).1.code = 200 := by
  simp only [respond, h]

theorem respond_row : (respond o code quotaCode withRow id job b).2 = some (perform o job b).2 := by
  cases h : (perform o job b).1 with
  | ok reply => simp only [respond, h]
  | error e => simp only [respond, h]

end Respond

theorem perform_edit (patch : Blueprint β → Blueprint β) (h : b.currentBlueprint = none) :
    perform o (editBlueprint T patch) b = (.error .noBlueprint, b) := by
  have hrun : (editBlueprint T patch).run o.answers 0 ⟨b, false, Watch.nothing⟩ =
      (.error .noBlueprint, ⟨b, false, Watch.nothing⟩) := by
    change (match b.currentBlueprint with
      | none => _
      | some current => _ : Job β Req Arch (Reply β)).run _ _ _ = _
    rw [h]
    rfl
  unfold perform
  rw [hrun]

theorem handle_of_harmless (h : r.Harmless b) (howner : b.userId ≠ userId) :
    (r.handle T X o userId id (some b)).1 = (r.handle T X o userId id none).1 ∧
      ∀ b', (r.handle T X o userId id (some b)).2 = some b' → b' = b := by
  cases r with
  | abandon reason | simulate scenarioIds =>
    simp only [BuildRequest.handle, if_pos howner]
    exact ⟨trivial, fun b' hb' => by cases hb'⟩
  | edit patch =>
    have hedit := perform_edit (T := T) (o := o) patch h
    refine ⟨?_, fun b' hb' => ?_⟩
    · exact respond_error (congrArg Prod.fst hedit)
    · have hrow : some (perform o (editBlueprint T patch) b).2 = some b' :=
        respond_row.symm.trans hb'
      rw [hedit] at hrow
      exact (Option.some.inj hrow).symm
  | file path =>
    have hnone : newest path b.artifacts = none := h
    simp only [BuildRequest.handle, hnone]
    exact ⟨trivial, fun b' hb' => by cases hb'⟩
  | design => exact h.elim
  | approve acknowledgeFindings => exact h.elim
  | build => exact h.elim
  | read => exact h.elim
  | exportBundle => exact h.elim

/-- An outside in which nothing that is asked succeeds. -/
def denying : Thread.Oracle (Answer Req Arch)
  | _, .now => ""
  | _, .quota _ => some ⟨.MODEL_REQUESTS, 0, 0⟩
  | _, .requirements => .error (.other "")
  | _, .architecture => .error (.other "")
  | _, .security => .error (.other "")
  | _, .reviewer => .error (.other "")
  | _, .createSandbox => .error (.unavailable "")
  | _, .writeFile _ _ => .error ""
  | _, .exec _ => .error ""
  | _, .fixtures => .error ""
  | _, .destroySandbox => ()

theorem head_append {c : Char} {s : String} (t : String) (h : s.toList.head? = some c) :
    (s ++ t).toList.head? = some c := by
  rw [String.toList_append, List.head?_append, h]
  rfl

theorem fail_inj {code code' : Nat} {m m' : String}
    (h : (fail code m : Response β) = fail code' m') : code = code' ∧ m = m' := by
  cases h
  exact ⟨rfl, rfl⟩

/-- The response neither is the one where there is no build, nor the refusal of a key. -/
def Reveals (response absent : Response β) : Prop := response ≠ absent ∧ response ≠ keyRefusal

theorem reveals_of_ok {response : Response β} {code : Nat} {message : String}
    (h : response.code = 200) (hcode : code ≠ 200) : Reveals response (fail code message) := by
  refine ⟨fun heq => hcode ?_, fun heq => ?_⟩
  · rw [heq] at h
    exact h
  · rw [heq] at h
    cases h

theorem reveals_of_code {response absent : Response β} (h : response.code ≠ absent.code)
    (hkey : response.code ≠ 409) : Reveals response absent := by
  refine ⟨fun heq => h ?_, fun heq => hkey ?_⟩
  · rw [heq]
  · rw [heq]
    rfl

theorem reveals_of_head {code code' : Nat} {m : String} {c : Char} (hm : m.toList.head? = some c)
    (hn : c ≠ 'n') (hi : c ≠ 'i') :
    Reveals (fail code m : Response β) (fail code' ("no such build: " ++ id)) := by
  refine ⟨fun heq => hn ?_, fun heq => hi ?_⟩
  · have hhead := head_append (s := "no such build: ") id rfl
    rw [← (fail_inj heq).2, hm] at hhead
    exact Option.some.inj hhead
  · rw [(fail_inj heq).2] at hm
    exact (Option.some.inj hm).symm

theorem perform_approve (acknowledgeFindings : List String) (b : Build β) :
    (perform o (approve acknowledgeFindings : Job β Req Arch _) b).1 =
      if b.stage ≠ .AWAITING_APPROVAL then .error (.notAwaitingApproval b.stage)
      else if b.unacknowledged acknowledgeFindings ≠ [] then
        .error (.unacknowledged (b.unacknowledged acknowledgeFindings))
      else .ok .done := by
  change ((if b.stage ≠ .AWAITING_APPROVAL then _ else _ : Job β Req Arch (Reply β)).run
    o.answers 0 ⟨b, false, Watch.nothing⟩).1 = _
  by_cases hstage : b.stage ≠ .AWAITING_APPROVAL
  · rw [if_pos hstage, if_pos hstage]
    rfl
  · rw [if_neg hstage, if_neg hstage]
    by_cases hcodes : b.unacknowledged acknowledgeFindings ≠ []
    · rw [if_pos hcodes, if_pos hcodes]
      rfl
    · rw [if_neg hcodes, if_neg hcodes]
      rfl

theorem approve_reveals (acknowledgeFindings : List String) (b : Build β) :
    Reveals ((BuildRequest.approve acknowledgeFindings).handle T X o userId id (some b)).1
      (fail 409 ("no such build: " ++ id)) := by
  have hperform := perform_approve (o := o) acknowledgeFindings b
  by_cases hstage : b.stage ≠ .AWAITING_APPROVAL
  · rw [if_pos hstage] at hperform
    have hresponse : ((BuildRequest.approve acknowledgeFindings).handle T X o userId id
        (some b)).1 = _ := respond_error hperform
    rw [hresponse]
    exact reveals_of_head (head_append _ (head_append _ (head_append _ (head_append _ rfl))))
      (by decide : 'b' ≠ 'n') (by decide)
  · rw [if_neg hstage] at hperform
    by_cases hcodes : b.unacknowledged acknowledgeFindings ≠ []
    · rw [if_pos hcodes] at hperform
      have hresponse : ((BuildRequest.approve acknowledgeFindings).handle T X o userId id
          (some b)).1 = _ := respond_error hperform
      rw [hresponse]
      exact reveals_of_head
        (head_append _ (head_append _ (head_append _ (head_append _ rfl))))
        (by decide : 'a' ≠ 'n') (by decide)
    · rw [if_neg hcodes] at hperform
      have hcode : ((BuildRequest.approve acknowledgeFindings).handle T X o userId id
          (some b)).1.code = 200 := respond_ok hperform
      exact reveals_of_ok hcode (by decide : (409 : Nat) ≠ 200)

theorem edit_ok {current : Blueprint β} (patch : Blueprint β → Blueprint β)
    (h : b.currentBlueprint = some current) :
    ∃ reply, (perform o (editBlueprint T patch) b).1 = .ok reply := by
  have hrun : ((editBlueprint T patch).run o.answers 0 ⟨b, false, Watch.nothing⟩).1 =
      ((match b.currentBlueprint with
        | none => .threw .noBlueprint
        | some current => do
          let createdAt ← now
          let next := { patch current with revision := current.revision + 1, createdAt := createdAt }
          let validation := validateBlueprint T next
          saveBlueprint next validation.issues
          pure (.edited next validation.issues) : Job β Req Arch (Reply β)).run
        o.answers 0 ⟨b, false, Watch.nothing⟩).1 := rfl
  rw [h] at hrun
  exact ⟨_, hrun⟩

theorem build_reveals (hdenying : o.answers = denying) :
    Reveals (BuildRequest.build.handle T X o userId id (some b)).1
      (fail 500 ("no such build: " ++ id)) := by
  have hrun : perform o (runBuild T) b = perform o (
      if b.approvedAt.isNone then .threw .notApproved
      else
        match b.currentBlueprint with
        | none => .threw .noBlueprint
        | some blueprint => buildInSandbox T blueprint (b.buildRevision + 1)) b := rfl
  by_cases happroved : b.approvedAt.isNone = true
  · rw [if_pos happroved] at hrun
    have hresponse : (BuildRequest.build.handle T X o userId id (some b)).1 = _ :=
      respond_error (congrArg Prod.fst hrun)
    have hhead : "build has not been approved by the user".toList.head? = some 'b' := rfl
    rw [hresponse]
    exact reveals_of_head hhead (by decide) (by decide)
  · rw [if_neg happroved] at hrun
    cases hcurrent : b.currentBlueprint with
    | none =>
      rw [hcurrent] at hrun
      have hresponse : (BuildRequest.build.handle T X o userId id (some b)).1 = _ :=
        respond_error (congrArg Prod.fst hrun)
      rw [hresponse]
      exact reveals_of_head (head_append _ (head_append _ rfl)) (by decide : 'b' ≠ 'n') (by decide)
    | some blueprint =>
      rw [hcurrent] at hrun
      have hunavailable : (perform o (buildInSandbox T blueprint (b.buildRevision + 1)) b).1 =
          .error (.sandboxUnavailable (.unavailable "")) := by
        unfold perform
        rw [hdenying]
        rfl
      have hresponse : (BuildRequest.build.handle T X o userId id (some b)).1 = _ :=
        respond_error ((congrArg Prod.fst hrun).trans hunavailable)
      have hhead : ("sandbox unavailable: " ++ "").toList.head? = some 's' := rfl
      rw [hresponse]
      exact reveals_of_head hhead (by decide) (by decide)

theorem export_reveals :
    Reveals (BuildRequest.exportBundle.handle T X o userId id (some b)).1 noSuchBuild := by
  cases hcurrent : b.currentBlueprint with
  | none =>
    simp only [BuildRequest.handle, hcurrent]
    refine ⟨fun heq => ?_, fun heq => ?_⟩
    · exact absurd (fail_inj heq).1 (by decide)
    · exact absurd (fail_inj heq).2 (by decide)
  | some blueprint =>
    simp only [BuildRequest.handle, hcurrent, buildExport]
    split
    · exact reveals_of_code (by decide : (413 : Nat) ≠ 404) (by decide : (413 : Nat) ≠ 409)
    · split
      · refine ⟨fun heq => ?_, fun heq => ?_⟩
        · exact absurd (fail_inj heq).1 (by decide)
        · have hhead := head_append (s := "export blocked: possible credential in ")
            (", ".intercalate (X.scanExportForSecrets (exportedArtifacts b.artifacts ++
              X.reports blueprint (b.simulations.map (·.result))))) rfl
          rw [(fail_inj heq).2] at hhead
          exact absurd (Option.some.inj hhead) (by decide : 'i' ≠ 'e')
      · exact reveals_of_ok rfl (by decide)

/-- **Any other request** at another user's build says something of it, in an outside in which
    nothing succeeds. -/
theorem handle_reveals (h : ¬ r.Harmless b) (hdenying : o.answers = denying) :
    Reveals (r.handle T X o userId id (some b)).1 (r.handle T X o userId id none).1 := by
  cases r with
  | abandon reason => exact absurd trivial h
  | simulate scenarioIds => exact absurd trivial h
  | edit patch =>
    obtain ⟨current, hcurrent⟩ := Option.ne_none_iff_exists'.mp h
    obtain ⟨reply, hreply⟩ := edit_ok (T := T) (o := o) patch hcurrent
    have hcode : ((BuildRequest.edit patch).handle T X o userId id (some b)).1.code = 200 :=
      respond_ok hreply
    exact reveals_of_ok hcode (by decide)
  | file path =>
    obtain ⟨a, ha⟩ := Option.ne_none_iff_exists'.mp h
    have hhandle : ((BuildRequest.file path).handle T X o userId id (some b)).1 =
        ⟨200, .file a.content⟩ := by
      simp only [BuildRequest.handle, ha]
    rw [hhandle]
    exact reveals_of_ok rfl (by decide)
  | design =>
    have hrun : (perform o (runToApproval T) b).1 =
        .error (.quotaExceeded ⟨.MODEL_REQUESTS, 0, 0⟩) := by
      unfold perform
      rw [hdenying]
      rfl
    have hresponse : (BuildRequest.design.handle T X o userId id (some b)).1 = _ :=
      respond_error hrun
    rw [hresponse]
    exact reveals_of_head (c := 'q') rfl (by decide) (by decide)
  | approve acknowledgeFindings => exact approve_reveals acknowledgeFindings b
  | build => exact build_reveals hdenying
  | read => exact reveals_of_ok rfl (by decide)
  | exportBundle => exact export_reveals

/-! ### 5.2 All requests -/

variable {db : Db β}

theorem serve_at (builds : List (Build β)) :
    serve T X o userId (.onBuild id r) builds =
      ((r.handle T X o userId id (findById builds id)).1,
        match (r.handle T X o userId id (findById builds id)).2 with
        | none => builds
        | some b => builds.map fun other => if other.id = id then b else other) := by
  simp only [serve]
  cases (r.handle T X o userId id (findById builds id)).2 with
  | none => rfl
  | some b => rfl

theorem handle_none : (r.handle T X o userId id none).2 = none := by
  cases r with
  | design => rfl
  | approve acknowledgeFindings => rfl
  | build => rfl
  | abandon reason => rfl
  | simulate scenarioIds => rfl
  | edit patch => rfl
  | read => rfl
  | file path => rfl
  | exportBundle => rfl

theorem exists_longer (builds : List (Build β)) : ∃ n, ∀ b ∈ builds, b.id.length < n := by
  induction builds with
  | nil => exact ⟨0, fun b hb => absurd hb List.not_mem_nil⟩
  | cons b builds ih =>
    obtain ⟨n, hn⟩ := ih
    refine ⟨max n (b.id.length + 1), fun other hother => ?_⟩
    rcases List.mem_cons.mp hother with rfl | hrest
    · omega
    · have hlt := hn other hrest
      omega

theorem exists_fresh (db : Db β) : ∃ id, ∀ b ∈ db.builds, b.id ≠ id := by
  obtain ⟨n, hn⟩ := exists_longer db.builds
  refine ⟨String.ofList (List.replicate n 'x'), fun b hb heq => ?_⟩
  have hlt := hn b hb
  rw [heq, String.length_ofList, List.length_replicate] at hlt
  omega

theorem isolates_at : Isolates T X userId (.onBuild id r) db ↔ Request.Harmless userId db (.onBuild id r) := by
  constructor
  · intro hisolates b hb hid howner
    by_contra hharmful
    obtain ⟨fresh, hfresh⟩ := exists_fresh db
    have hreveals : Reveals
        (r.handle T X ⟨denying, none, none, fresh, "", fun _ => none⟩ userId id (some b)).1
        (r.handle T X ⟨denying, none, none, fresh, "", fun _ => none⟩ userId id none).1 :=
      handle_reveals hharmful rfl
    have hfound : findById db.builds id = some b := hid ▸ findById_of_mem hb
    have hthem := (hisolates ⟨denying, none, none, fresh, "", fun _ => none⟩ hfresh).1
    rw [serve_at, serve_at, hfound, findById_of hfound, if_neg howner] at hthem
    exact hthem.elim hreveals.1 hreveals.2
  · intro hharmless o _
    rw [serve_at, serve_at]
    cases hfound : findById db.builds id with
    | none =>
      rw [findById_of_none hfound, handle_none]
      exact ⟨.inl rfl, fun b hb _ => hb⟩
    | some b =>
      obtain ⟨hb, hid⟩ := mem_of_findById hfound
      rw [findById_of hfound]
      by_cases howner : b.userId = userId
      · rw [if_pos howner]
        refine ⟨.inl rfl, fun other hother hothers => ?_⟩
        cases (r.handle T X o userId id (some b)).2 with
        | none => exact hother
        | some b' =>
          have hne : other.id ≠ id := fun hsame =>
            hothers (db.id_inj hother hb (hsame.trans hid.symm) ▸ howner)
          exact List.mem_map.mpr ⟨other, hother, if_neg hne⟩
      · rw [if_neg howner]
        have hharmlessHere : (r.handle T X o userId id (some b)).1 =
            (r.handle T X o userId id none).1 ∧
              ∀ b', (r.handle T X o userId id (some b)).2 = some b' → b' = b :=
          handle_of_harmless (hharmless b hb hid howner) howner
        obtain ⟨hresponse, hrow⟩ := hharmlessHere
        refine ⟨.inl hresponse, fun other hother _ => ?_⟩
        cases hleft : (r.handle T X o userId id (some b)).2 with
        | none => exact hother
        | some b' =>
          refine List.mem_map.mpr ⟨other, hother, ?_⟩
          by_cases hsame : other.id = id
          · rw [if_pos hsame, hrow b' hleft]
            exact db.id_inj hb hother (hid.trans hsame.symm)
          · exact if_neg hsame

theorem soughtKey_empty : soughtKey (some "") = none := rfl

theorem soughtKey_some {key : String} (h : key ≠ "") : soughtKey (some key) = some key := by
  simp [soughtKey, h]

/-- A new build goes in beside those of the others, if none of them has its key. -/
theorem isolates_insert {key : Option String} (hfresh : ∀ b ∈ db.builds, b.id ≠ o.newBuildId)
    (hkey : ∀ k, key = some k → ∀ b ∈ db.builds, b.idempotencyKey = some k → b.userId = userId) :
    (insertBuild o db.builds userId key).1 = (insertBuild o (db.of userId).builds userId key).1 ∧
      ∀ b ∈ db.builds, b ∈ (insertBuild o db.builds userId key).2 := by
  have hids : ∀ builds : List (Build β), (∀ b ∈ builds, b ∈ db.builds) →
      builds.any (·.id = o.newBuildId) = false := fun builds hsub =>
    List.any_eq_false.mpr fun b hb => by simpa using hfresh b (hsub b hb)
  have hmine : ∀ b ∈ (db.of userId).builds, b ∈ db.builds := fun b hb => (mem_of.mp hb).1
  have hkeys : (key.any fun key => db.builds.any (·.idempotencyKey = some key)) =
      key.any fun key => (db.of userId).builds.any (·.idempotencyKey = some key) := by
    cases key with
    | none => rfl
    | some k =>
      rw [Option.any_some, Option.any_some, Bool.eq_iff_iff, List.any_eq_true, List.any_eq_true]
      constructor
      · rintro ⟨b, hb, hsame⟩
        exact ⟨b, mem_of.mpr ⟨hb, hkey k rfl b hb (of_decide_eq_true hsame)⟩, hsame⟩
      · rintro ⟨b, hb, hsame⟩
        exact ⟨b, hmine b hb, hsame⟩
  unfold insertBuild
  rw [hids _ fun _ hb => hb, hids _ hmine, ← hkeys]
  cases key.any fun key => db.builds.any (·.idempotencyKey = some key) with
  | true => exact ⟨rfl, fun b hb => hb⟩
  | false => exact ⟨rfl, fun b hb => List.mem_append_left _ hb⟩

/-- A key that is found is the user's own or another's; one that is not found is new to all. -/
theorem isolates_createBuild {key : Option String} (hfresh : ∀ b ∈ db.builds, b.id ≠ o.newBuildId)
    (hkey : ∀ k, key = some k → ∀ b ∈ db.builds, b.idempotencyKey = some k → b.userId = userId) :
    (createBuild o db.builds userId key).1 = (createBuild o (db.of userId).builds userId key).1 ∧
      ∀ b ∈ db.builds, b ∈ (createBuild o db.builds userId key).2 := by
  have hinsert := isolates_insert hfresh hkey
  unfold createBuild
  cases hsought : soughtKey key with
  | none =>
    rw [Option.bind_none, Option.bind_none]
    cases o.creationQuota with
    | some e => exact ⟨rfl, fun b hb => hb⟩
    | none => exact hinsert
  | some k =>
    have hk : key = some k := (Option.filter_eq_some_iff.mp hsought).1
    rw [Option.bind_some, Option.bind_some]
    cases hfound : findByIdempotencyKey db.builds k with
    | some existing =>
      obtain ⟨hmem, hhas⟩ := mem_of_findByKey hfound
      rw [findByKey_of hfound, if_pos (hkey k hk existing hmem hhas)]
      exact ⟨rfl, fun b hb => hb⟩
    | none =>
      rw [findByKey_of_none hfound]
      cases o.creationQuota with
      | some e => exact ⟨rfl, fun b hb => hb⟩
      | none => exact hinsert

theorem isolates_create {key : Option String} :
    Isolates T X userId (.create key) db ↔ Request.Harmless userId db (.create key) := by
  constructor
  · intro hisolates hempty b hb hkey
    subst hempty
    by_contra howner
    obtain ⟨fresh, hfresh⟩ := exists_fresh db
    have hthem := (hisolates ⟨denying, none, none, fresh, "", fun _ => none⟩ hfresh).1
    have hids : ∀ builds : List (Build β), (∀ b ∈ builds, b ∈ db.builds) →
        builds.any (·.id = fresh) = false := fun builds hsub =>
      List.any_eq_false.mpr fun b hb => by simpa using hfresh b (hsub b hb)
    have hused : db.builds.any (·.idempotencyKey = some "") = true :=
      List.any_eq_true.mpr ⟨b, hb, decide_eq_true hkey⟩
    have hfree : (db.of userId).builds.any (·.idempotencyKey = some "") = false := by
      refine List.any_eq_false.mpr fun other hother hsame => howner ?_
      obtain ⟨hother, hothers⟩ := mem_of.mp hother
      rw [db.keys b hb other hother "" hkey (of_decide_eq_true hsame)]
      exact hothers
    have hfull : (serve T X ⟨denying, none, none, fresh, "", fun _ => none⟩ userId
        (.create (some "")) db.builds).1 =
          fail 500 "UNIQUE constraint failed: studio_builds.idempotency_key" := by
      simp only [serve, soughtKey_empty, Option.bind_none, createBuild, insertBuild, Option.any_some]
      rw [hids _ fun _ hb => hb, hused]
      rfl
    have hcode : (serve T X ⟨denying, none, none, fresh, "", fun _ => none⟩ userId
        (.create (some "")) (db.of userId).builds).1.code = 201 := by
      simp only [serve, soughtKey_empty, Option.bind_none, createBuild, insertBuild, Option.any_some]
      rw [hids _ fun b hb => (mem_of.mp hb).1, hfree]
      rfl
    rw [hfull] at hthem
    rcases hthem with hsame | hrefused
    · rw [← hsame] at hcode
      cases hcode
    · exact absurd (fail_inj hrefused).1 (by decide)
  · intro hharmless o hfresh
    have hcreate : ∀ k, key = some k → (k ≠ "" → findByIdempotencyKey db.builds k = none) →
        ∀ b ∈ db.builds, b.idempotencyKey = some k → b.userId = userId := by
      intro k hk hnone b hb hhas
      by_cases hempty : k = ""
      · subst hempty
        exact hharmless hk b hb hhas
      · exact absurd (decide_eq_true hhas) (List.find?_eq_none.mp (hnone hempty) b hb)
    simp only [serve]
    cases hsought : soughtKey key with
    | none =>
      rw [Option.bind_none, Option.bind_none]
      cases o.rateLimited with
      | some message => exact ⟨.inl rfl, fun b hb _ => hb⟩
      | none =>
        have hkey : ∀ k, key = some k → k = "" := fun k hk => by
          by_contra hne
          rw [hk, soughtKey_some hne] at hsought
          cases hsought
        obtain ⟨hresponse, hrows⟩ := isolates_createBuild hfresh fun k hk =>
          hcreate k hk fun hne => absurd (hkey k hk) hne
        exact ⟨.inl hresponse, fun b hb _ => hrows b hb⟩
    | some k =>
      have hk : key = some k := (Option.filter_eq_some_iff.mp hsought).1
      rw [Option.bind_some, Option.bind_some]
      cases hfound : findByIdempotencyKey db.builds k with
      | some existing =>
        rw [findByKey_of hfound]
        by_cases howner : existing.userId = userId
        · rw [if_pos howner]
          simp only [howner, ne_eq, not_true_eq_false, if_false]
          exact ⟨.inl trivial, fun b hb _ => hb⟩
        · simp only [howner, ne_eq, not_false_eq_true, if_true]
          exact ⟨.inr trivial, fun b hb _ => hb⟩
      | none =>
        rw [findByKey_of_none hfound]
        cases o.rateLimited with
        | some message => exact ⟨.inl rfl, fun b hb _ => hb⟩
        | none =>
          obtain ⟨hresponse, hrows⟩ := isolates_createBuild hfresh fun k' hk' =>
            hcreate k' hk' fun _ => by
              rw [← Option.some.inj (hk.symm.trans hk')]
              exact hfound
          exact ⟨.inl hresponse, fun b hb _ => hrows b hb⟩

theorem memberKey_ne_empty (orgId agentId : String) : "org:" ++ orgId ++ ":" ++ agentId ≠ "" := by
  intro heq
  have hhead := head_append agentId (head_append ":" (head_append (s := "org:") orgId rfl))
  rw [heq] at hhead
  cases hhead

theorem isolates_buildMember {orgId agentId : String} :
    Isolates T X userId (.buildMember orgId agentId) db ↔
      Request.Harmless userId db (.buildMember orgId agentId) := by
  constructor
  · intro hisolates b hb hkey
    by_contra howner
    obtain ⟨fresh, hfresh⟩ := exists_fresh db
    have hthem := (hisolates ⟨denying, none, some ⟨.NEW_BUILDS, 0, 0⟩, fresh, "",
      fun _ => some [agentId]⟩ hfresh).1
    have hfound : ∃ found, findByIdempotencyKey db.builds ("org:" ++ orgId ++ ":" ++ agentId) =
        some found := Option.isSome_iff_exists.mp (List.find?_isSome.mpr ⟨b, hb, decide_eq_true hkey⟩)
    obtain ⟨found, hfound⟩ := hfound
    obtain ⟨hmem, hhas⟩ := mem_of_findByKey hfound
    have hsame : found = b := db.keys found hmem b hb _ hhas hkey
    subst hsame
    have hother : findByIdempotencyKey (db.of userId).builds
        ("org:" ++ orgId ++ ":" ++ agentId) = none := by
      rw [findByKey_of hfound, if_neg howner]
    simp only [serve, List.contains_cons, BEq.rfl, Bool.true_or, if_true, createBuild,
      soughtKey_some (memberKey_ne_empty orgId agentId), Option.bind_some, hfound, hother] at hthem
    rcases hthem with hsame | hrefused
    · cases hsame
    · cases hrefused
  · intro hharmless o hfresh
    simp only [serve]
    cases o.organization orgId with
    | none => exact ⟨.inl rfl, fun b hb _ => hb⟩
    | some agents =>
      by_cases hmember : agents.contains agentId = true
      · simp only [hmember, if_true]
        have hkey : ∀ k, some ("org:" ++ orgId ++ ":" ++ agentId) = some k → ∀ b ∈ db.builds,
            b.idempotencyKey = some k → b.userId = userId := fun k hk b hb hhas =>
          hharmless b hb (hhas.trans hk.symm)
        obtain ⟨hresponse, hrows⟩ := isolates_createBuild hfresh hkey
        exact ⟨.inl hresponse, fun b hb _ => hrows b hb⟩
      · simp only [if_neg hmember]
        exact ⟨.inl trivial, fun b hb _ => hb⟩

end Isolation

/-- **Exactly which requests isolate**: an abandon, a simulation, a creation under a key that is
    not empty; an edit of a build without a blueprint and a file that is not there; and every
    request that reaches no build of another user. -/
theorem isolates_iff (T : Tools β Req Arch) (X : ExportTools β) (db : Db β) (userId : String)
    (request : Request β) : Isolates T X userId request db ↔ request.Harmless userId db := by
  cases request with
  | onBuild id r => exact isolates_at
  | create key => exact isolates_create
  | buildMember orgId agentId => exact isolates_buildMember

/-! ## 6. Another user's build -/

/-- Exports of nothing but the generated files. -/
def noReports : ExportTools Bool := ⟨fun _ _ => [], fun _ => none, fun _ => []⟩

/-- A build of `usr_1` that awaits its approval. -/
def awaiting : Build Bool :=
  { (Build.created "bld_1" "prj_1" "usr_1" none : Build Bool) with
    stage := .AWAITING_APPROVAL
    status := .AWAITING_APPROVAL
    blueprintRevision := some 1
    blueprints := [⟨⟨1, "2026-03-01T12:00:00.000Z", ["repay-debt"], [healthy], true⟩, []⟩] }

def awaitingDb : Db Bool where
  builds := [awaiting]
  ids := List.nodup_singleton _
  keys _ hb _ hb' _ _ _ := (List.mem_singleton.mp hb).trans (List.mem_singleton.mp hb').symm

def willingOutside : Outside Unit Unit := ⟨willing, none, none, "bld_2", "prj_2", fun _ => none⟩

/-- **Approved by another user**: the row of the build is changed. -/
theorem approved_by_another :
    ¬ Isolates plainTools noReports "usr_2" (.onBuild "bld_1" (.approve [])) awaitingDb := by
  intro hisolates
  have hfresh : ∀ b ∈ awaitingDb.builds, b.id ≠ willingOutside.newBuildId := by
    intro b hb
    rw [List.mem_singleton.mp hb]
    exact (by decide : "bld_1" ≠ "bld_2")
  have hkept := (hisolates willingOutside hfresh).2 awaiting (List.mem_singleton_self _)
    (by decide : "usr_1" ≠ "usr_2")
  have hrows : (serve plainTools noReports willingOutside "usr_2" (.onBuild "bld_1" (.approve []))
      awaitingDb.builds).2 = [{ awaiting with approvedAt := some "2026-03-01T12:00:00.000Z" }] := rfl
  rw [hrows, List.mem_singleton] at hkept
  exact absurd (congrArg Build.approvedAt hkept) (by decide)

end ContextLock.Studio
