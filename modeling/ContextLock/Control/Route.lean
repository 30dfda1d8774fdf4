/-
  Subject:   The route that takes control commands, and its log.

  A request brings an intent; the route builds the command, checks it against the revision it
  has just read, looks its key up in the log, and carries it out only if the key is new. The
  answer to a key that is there is the row of the log, whatever happened since.
-/
import ContextLock.Control.ForkLab

namespace ContextLock.Control

open Js Machine

/-! ## 1. The log -/

inductive CommandOutcome where
  | PENDING
  | APPLIED
  | REJECTED
  | FAILED
  deriving DecidableEq

/-- A row of `control_commands`. -/
structure CommandRow where
  commandId : String
  idempotencyKey : String
  projectId : String
  deploymentId : String
  operation : ControlOperation
  actorId : String
  actorCapabilities : List OperatorCapability
  target : Target
  expectedRevision : String
  issuedAtMs : Int
  expiresAtMs : Int
  completedAtMs : Option Int
  outcome : CommandOutcome
  detail : Option String
  result : Option CommandResult
  reason : Option String

def ControlCommand.row (cmd : ControlCommand) : CommandRow where
  commandId := cmd.commandId
  idempotencyKey := cmd.idempotencyKey
  projectId := cmd.projectId
  deploymentId := cmd.deploymentId
  operation := cmd.operation
  actorId := cmd.actor.actorId
  actorCapabilities := cmd.actor.capabilities
  target := cmd.target
  expectedRevision := cmd.expectedRevision
  issuedAtMs := cmd.issuedAtMs
  expiresAtMs := cmd.expiresAtMs
  completedAtMs := none
  outcome := .PENDING
  detail := none
  result := none
  reason := cmd.reason

/-- What `beginCommand` finds or does. -/
inductive Begun where
  | existing (row : CommandRow)
  | inserted (rows : List CommandRow)
  | failed (message : String)

def beginCommand (rows : List CommandRow) (cmd : ControlCommand) : Begun :=
  match rows.find? (·.idempotencyKey = cmd.idempotencyKey) with
  | some row => .existing row
  | none =>
    if rows.any (·.commandId = cmd.commandId) then
      .failed "UNIQUE constraint failed: control_commands.command_id"
    else .inserted (rows ++ [cmd.row])

def CommandRow.completed (row : CommandRow) (out : Execution) (nowMs : Int) : CommandRow :=
  { row with outcome := if out.ok then .APPLIED else .FAILED, detail := some out.detail,
             result := some out.result, completedAtMs := some nowMs }

def completeCommand (rows : List CommandRow) (cmd : ControlCommand) (out : Execution)
    (nowMs : Int) : List CommandRow :=
  rows.map fun row => if row.commandId = cmd.commandId then row.completed out nowMs else row

/-! ## 2. The route -/

structure Body where
  operation : String
  target : Option Target
  expectedRevision : String
  reason : Option String
  confirmation : Option Json
  idempotencyKey : Option String

/-- A request, from an actor as its headers name him. -/
structure Post where
  actor : Actor
  projectId : Option String
  body : Body

/-- What the process decides while one request is handled. -/
structure Instant extends Surroundings where
  nowMs : Int
  completedAtMs : Int
  uuid : String
  /-- The message with which the fresh read of the deployment failed, if it did. -/
  refreshFails : Option String

structure Plane where
  deploymentId : String
  deployment : Deployment
  commands : List CommandRow

inductive Response where
  | badRequest (error : String)
  | refused (code : Nat) (error reason : String)
  | failed (error : String)
  | replayed (command : String) (previous : CommandRow)
  | executed (command : String) (out : Execution)

def Target.empty : Target := ⟨none, none, none, none, none⟩

def Post.command (p : Post) (deploymentId : String) (operation : ControlOperation)
    (env : Instant) : ControlCommand :=
  newCommand env.uuid
    { projectId := p.projectId.getD "prj_unknown"
      deploymentId
      actor := p.actor
      operation
      target := p.body.target.getD Target.empty
      expectedRevision := p.body.expectedRevision
      issuedAtMs := env.nowMs
      expiresAtMs := env.nowMs + 120000
      confirmation := p.body.confirmation
      reason := p.body.reason }
    (p.body.idempotencyKey.filter (· ≠ ""))

/-- The part of the route before the log: the command, or the answer that refuses it. No lock
    is reported to the checks. -/
def admitted (s : Plane) (p : Post) (env : Instant) : Except Response ControlCommand :=
  match CONTROL_OPERATIONS.find? (·.text = p.body.operation) with
  | none => .error (.badRequest ("\"" ++ p.body.operation ++ "\" is not a control operation"))
  | some operation =>
    match env.refreshFails with
    | some message => .error (.failed message)
    | none =>
      let cmd := p.command s.deploymentId operation env
      match assertCommandValid cmd s.deployment.revision env.nowMs false with
      | .error e => .error
          (.refused (if e.reason = .NOT_AUTHORIZED then 403 else 409) e.message e.reason.text)
      | .ok () => .ok cmd

/-- A command whose key is new, carried out and completed in the log. -/
def Plane.carryOut (s : Plane) (cmd : ControlCommand) (env : Instant) (rows : List CommandRow) :
    Response × Plane :=
  match execute s.deployment cmd env.toSurroundings with
  | (.error message, d) => (.failed message, { s with deployment := d, commands := rows })
  | (.ok out, d) => (.executed cmd.commandId out,
      { s with deployment := d, commands := completeCommand rows cmd out env.completedAtMs })

/-- `POST /api/control/deployments/:id/commands`. -/
def handlePost (s : Plane) (p : Post) (env : Instant) : Response × Plane :=
  match admitted s p env with
  | .error response => (response, s)
  | .ok cmd =>
    match beginCommand s.commands cmd with
    | .existing previous => (.replayed cmd.commandId previous, s)
    | .failed message => (.failed message, s)
    | .inserted rows => s.carryOut cmd env rows

/-- Requests, one after the other. -/
def Plane.step (s : Plane) (a : Post × Instant) : Option Plane := some (handlePost s a.1 a.2).2

/-! ## 3. What comes of a request -/

section Cases

variable {s : Plane} {p : Post} {env : Instant} {cmd : ControlCommand}

theorem admitted_ok (h : admitted s p env = .ok cmd) :
    env.refreshFails = none ∧ (∃ operation, operation.text = p.body.operation ∧
      cmd = p.command s.deploymentId operation env) ∧
      cmd.Valid s.deployment.revision env.nowMs false := by
  unfold admitted at h
  cases hop : CONTROL_OPERATIONS.find? (·.text = p.body.operation) with
  | none => simp only [hop] at h; cases h
  | some operation =>
    cases hrefresh : env.refreshFails with
    | some message => simp only [hop, hrefresh] at h; cases h
    | none =>
      simp only [hop, hrefresh] at h
      cases hvalid : assertCommandValid (p.command s.deploymentId operation env)
          s.deployment.revision env.nowMs false with
      | error e => simp only [hvalid] at h; cases h
      | ok u =>
        simp only [hvalid] at h
        cases h
        have htext := List.find?_some hop
        exact ⟨rfl, ⟨operation, of_decide_eq_true htext, rfl⟩, assertCommandValid_iff.mp hvalid⟩

/-- A well-formed request whose command passes the checks is admitted. -/
theorem admitted_of_valid {operation : ControlOperation}
    (hop : CONTROL_OPERATIONS.find? (·.text = p.body.operation) = some operation)
    (hrefresh : env.refreshFails = none)
    (hvalid : (p.command s.deploymentId operation env).Valid s.deployment.revision env.nowMs
      false) : admitted s p env = .ok (p.command s.deploymentId operation env) := by
  simp only [admitted, hop, hrefresh, assertCommandValid_iff.mpr hvalid]

/-- What `beginCommand` found. -/
theorem beginCommand_existing {rows : List CommandRow} {row : CommandRow}
    (h : beginCommand rows cmd = .existing row) :
    rows.find? (·.idempotencyKey = cmd.idempotencyKey) = some row := by
  unfold beginCommand at h
  cases hfind : rows.find? (·.idempotencyKey = cmd.idempotencyKey) with
  | some row' =>
    simp only [hfind] at h
    cases h
    rfl
  | none =>
    simp only [hfind] at h
    split at h <;> cases h

/-- What `beginCommand` did. -/
theorem beginCommand_inserted {rows rows' : List CommandRow}
    (h : beginCommand rows cmd = .inserted rows') :
    rows.find? (·.idempotencyKey = cmd.idempotencyKey) = none ∧
      (∀ row ∈ rows, row.commandId ≠ cmd.commandId) ∧ rows' = rows ++ [cmd.row] := by
  unfold beginCommand at h
  cases hfind : rows.find? (·.idempotencyKey = cmd.idempotencyKey) with
  | some row' => simp only [hfind] at h; cases h
  | none =>
    simp only [hfind] at h
    split at h
    · cases h
    rename_i hany
    cases h
    refine ⟨rfl, fun row hrow heq => hany ?_, rfl⟩
    exact List.any_eq_true.mpr ⟨row, hrow, decide_eq_true heq⟩

theorem completeCommand_append {rows : List CommandRow} {out : Execution} {nowMs : Int}
    (h : ∀ row ∈ rows, row.commandId ≠ cmd.commandId) :
    completeCommand (rows ++ [cmd.row]) cmd out nowMs = rows ++ [cmd.row.completed out nowMs] := by
  have hold : rows.map (fun row =>
      if row.commandId = cmd.commandId then row.completed out nowMs else row) = rows :=
    (List.map_congr_left fun row hrow => if_neg (h row hrow)).trans (List.map_id rows)
  have hnew : cmd.row.commandId = cmd.commandId := rfl
  rw [completeCommand, List.map_append, hold, List.map_singleton, if_pos hnew]

/-- What can come of a request: it is refused; it is answered from the log; its id is taken; it
    is carried out, and throws or ends. -/
inductive Handled (s : Plane) (p : Post) (env : Instant) : Response × Plane → Prop
  | refused (r : Response) (h : admitted s p env = .error r) : Handled s p env (r, s)
  | replayed (cmd : ControlCommand) (row : CommandRow) (h : admitted s p env = .ok cmd)
      (hfind : s.commands.find? (·.idempotencyKey = cmd.idempotencyKey) = some row) :
      Handled s p env (.replayed cmd.commandId row, s)
  | clash (cmd : ControlCommand) (message : String) (h : admitted s p env = .ok cmd) :
      Handled s p env (.failed message, s)
  | threw (cmd : ControlCommand) (message : String) (d : Deployment)
      (h : admitted s p env = .ok cmd)
      (hfind : s.commands.find? (·.idempotencyKey = cmd.idempotencyKey) = none)
      (hexecute : execute s.deployment cmd env.toSurroundings = (.error message, d)) :
      Handled s p env
        (.failed message, { s with deployment := d, commands := s.commands ++ [cmd.row] })
  | ended (cmd : ControlCommand) (out : Execution) (d : Deployment)
      (h : admitted s p env = .ok cmd)
      (hfind : s.commands.find? (·.idempotencyKey = cmd.idempotencyKey) = none)
      (hexecute : execute s.deployment cmd env.toSurroundings = (.ok out, d)) :
      Handled s p env
        (.executed cmd.commandId out,
          { s with deployment := d
                   commands := s.commands ++ [cmd.row.completed out env.completedAtMs] })

theorem handlePost_handled : Handled s p env (handlePost s p env) := by
  unfold handlePost
  cases hadmitted : admitted s p env with
  | error r => exact .refused r hadmitted
  | ok cmd =>
    dsimp only
    cases hbegin : beginCommand s.commands cmd with
    | existing row => exact .replayed cmd row hadmitted (beginCommand_existing hbegin)
    | failed message => exact .clash cmd message hadmitted
    | inserted rows =>
      obtain ⟨hfind, hids, rfl⟩ := beginCommand_inserted hbegin
      dsimp only
      unfold Plane.carryOut
      rcases hexecute : execute s.deployment cmd env.toSurroundings with ⟨message | out, d⟩
      · exact .threw cmd message d hadmitted hfind hexecute
      · dsimp only
        rw [completeCommand_append hids]
        exact .ended cmd out d hadmitted hfind hexecute

theorem handlePost_replayed {row : CommandRow} (h : admitted s p env = .ok cmd)
    (hfind : s.commands.find? (·.idempotencyKey = cmd.idempotencyKey) = some row) :
    handlePost s p env = (.replayed cmd.commandId row, s) := by
  simp only [handlePost, h, beginCommand, hfind]

/-- A request whose key and id are new, and whose command ends. -/
theorem handlePost_ended {out : Execution} {d : Deployment} (h : admitted s p env = .ok cmd)
    (hfind : s.commands.find? (·.idempotencyKey = cmd.idempotencyKey) = none)
    (hids : ∀ row ∈ s.commands, row.commandId ≠ cmd.commandId)
    (hexecute : execute s.deployment cmd env.toSurroundings = (.ok out, d)) :
    handlePost s p env = (.executed cmd.commandId out,
      { s with deployment := d
               commands := s.commands ++ [cmd.row.completed out env.completedAtMs] }) := by
  have hany : s.commands.any (·.commandId = cmd.commandId) = false :=
    List.any_eq_false.mpr fun row hrow => by simpa using hids row hrow
  simp only [handlePost, h, beginCommand, hfind, hany, Bool.false_eq_true, if_false,
    Plane.carryOut, hexecute, completeCommand_append hids]

end Cases

/-! ## 4. Commands that take effect -/

/-- The row is of the same intent: deployment, operation, target and revision. -/
structure SameIntent (row : CommandRow) (cmd : ControlCommand) : Prop where
  deployment : row.deploymentId = cmd.deploymentId
  operation : row.operation = cmd.operation
  target : row.target = cmd.target
  revision : row.expectedRevision = cmd.expectedRevision

def Response.applied : Response → Bool
  | .executed _ out => out.ok
  | .replayed _ previous => previous.outcome = .APPLIED
  | _ => false

/-- The request is answered truly: what is said to be applied is so, and what is answered from
    the log is a resubmission, with nothing applied in between. -/
structure TakesEffect (s : Plane) (p : Post) (env : Instant) : Prop where
  applied : ∀ cmd, admitted s p env = .ok cmd → (handlePost s p env).1.applied = true →
    (handlePost s p env).2.deployment.Meets cmd.includeIdentityRevocation cmd.operation
  replayed : ∀ cmd id previous, admitted s p env = .ok cmd →
    (handlePost s p env).1 = .replayed id previous → SameIntent previous cmd ∧
      ∃ before after, s.commands = before ++ previous :: after ∧
        ∀ row ∈ after, row.outcome ≠ .APPLIED

/-- The row is of a command that came to nothing: it failed, and was no lock. -/
def CommandRow.idle (row : CommandRow) : Bool :=
  row.outcome = .FAILED && !decide (row.operation = .EMERGENCY_LOCK)

def CommandRow.identityLock (row : CommandRow) : Bool :=
  match row.result with
  | some (.lock _ lock) => lock.includeIdentityRevocation
  | _ => false

/-- The row is of the same intent, and was to revoke the identity if the command is to. -/
def CommandRow.covers (row : CommandRow) (cmd : ControlCommand) : Bool :=
  row.deploymentId = cmd.deploymentId && row.operation = cmd.operation &&
    row.target = cmd.target && row.expectedRevision = cmd.expectedRevision &&
    (!decide (cmd.operation = .EMERGENCY_LOCK) || !cmd.includeIdentityRevocation ||
      row.identityLock)

def coveredFrom (cmd : ControlCommand) : List CommandRow → Bool
  | [] => true
  | row :: rows => row.covers cmd && rows.all CommandRow.idle

/-- The key of the command is new, or the row that has it covers the command and no later
    command came to anything; and what is to be resumed was not stopped. -/
def InSequence (s : Plane) (cmd : ControlCommand) : Prop :=
  coveredFrom cmd (s.commands.dropWhile (·.idempotencyKey ≠ cmd.idempotencyKey)) = true ∧
    (cmd.operation = .RESUME_RUNTIME → ∀ rt ∈ s.deployment.runtime, rt.stopping = false)

def PostedInSequence (s : Plane) (a : Post × Instant) : Prop :=
  ∀ cmd ∈ (admitted s a.1 a.2).toOption, InSequence s cmd

instance (s : Plane) (a : Post × Instant) : Decidable (PostedInSequence s a) := by
  unfold PostedInSequence InSequence
  infer_instance

/-- A row tells the state of the deployment until a later one has an effect. -/
def Standing (s : Plane) : Prop :=
  ∀ before row after, s.commands = before ++ row :: after → row.deploymentId = s.deploymentId →
    row.outcome = .APPLIED → (∀ later ∈ after, CommandRow.idle later = true) →
      s.deployment.Meets row.identityLock row.operation

section Sequence

variable {s : Plane} {p : Post} {env : Instant} {cmd : ControlCommand}

theorem meets_mono {d : Deployment} {op : ControlOperation} {i j : Bool} (h : d.Meets i op)
    (hij : op = .EMERGENCY_LOCK → j = true → i = true) : d.Meets j op := by
  cases op with
  | EMERGENCY_LOCK => exact ⟨h.1, h.2.1, fun hj => h.2.2 (hij rfl hj)⟩
  | _ => exact h

theorem identityLock_completed {out : Execution} {d d' : Deployment} {e : Surroundings}
    {nowMs : Int}
    (hop : cmd.operation = .EMERGENCY_LOCK) (h : execute d cmd e = (.ok out, d')) :
    (cmd.row.completed out nowMs).identityLock = cmd.includeIdentityRevocation := by
  obtain ⟨r, d'', hlock, hr⟩ := @executeLock_eq d cmd e
  have heq : execute d cmd e = executeLock d cmd e := by simp only [execute, hop]
  rw [heq, hlock] at h
  cases h
  exact hr.identity

theorem split_append {rows before after : List CommandRow} {row new : CommandRow}
    (h : rows ++ [new] = before ++ row :: after) :
    (∃ after', after = after' ++ [new] ∧ rows = before ++ row :: after') ∨
      (before = rows ∧ row = new ∧ after = []) := by
  rcases List.eq_nil_or_concat after with rfl | ⟨after', last, rfl⟩
  · obtain ⟨hrows, hlast⟩ := List.append_inj' h rfl
    exact Or.inr ⟨hrows.symm, (List.cons.inj hlast).1.symm, rfl⟩
  · rw [List.concat_eq_append, ← List.cons_append, ← List.append_assoc] at h
    obtain ⟨hrows, hlast⟩ := List.append_inj' h rfl
    exact Or.inl ⟨after', by rw [List.concat_eq_append, (List.cons.inj hlast).1], hrows⟩

theorem standing_ended {out : Execution} {d : Deployment} {nowMs : Int} (hs : Standing s)
    (hexecute : execute s.deployment cmd env.toSurroundings = (.ok out, d))
    (hin : InSequence s cmd) :
    Standing { s with deployment := d, commands := s.commands ++ [cmd.row.completed out nowMs] } := by
  have hfst : (execute s.deployment cmd env.toSurroundings).1 = .ok out :=
    congrArg Prod.fst hexecute
  have hsnd : (execute s.deployment cmd env.toSurroundings).2 = d := congrArg Prod.snd hexecute
  intro before row after hsplit hdeployment happlied hidle
  rcases split_append hsplit with ⟨after', rfl, hrows⟩ | ⟨-, rfl, -⟩
  · -- the new row is idle: the command failed and changed nothing
    have hnew : CommandRow.idle (cmd.row.completed out nowMs) = true :=
      hidle _ (List.mem_append_right _ (List.mem_singleton_self _))
    rw [CommandRow.idle, Bool.and_eq_true, Bool.not_eq_true'] at hnew
    have hop : cmd.operation ≠ .EMERGENCY_LOCK := of_decide_eq_false hnew.2
    have hfailed : out.ok = false := by
      simpa [CommandRow.completed] using hnew.1
    have hsame : d = s.deployment := hsnd ▸ execute_failed hop hfst hfailed
    rw [hsame]
    exact hs before row after' hrows hdeployment happlied
      fun later hlater => hidle later (List.mem_append_left _ hlater)
  · have hok : out.ok = true := by
      simpa [CommandRow.completed] using happlied
    have hmeets := execute_meets hfst hok hin.2
    rw [hsnd] at hmeets
    refine meets_mono hmeets fun hop hj => ?_
    rwa [identityLock_completed hop hexecute] at hj

/-- **One request** in sequence. -/
theorem standing_handlePost (hs : Standing s)
    (hin : ∀ cmd, admitted s p env = .ok cmd → InSequence s cmd) :
    Standing (handlePost s p env).2 := by
  have hhandled := @handlePost_handled s p env
  generalize handlePost s p env = result at hhandled
  cases hhandled with
  | refused r h => exact hs
  | replayed cmd row h hfind => exact hs
  | clash cmd message h => exact hs
  | threw cmd message d h hfind hexecute =>
    -- the row stays PENDING, and ends what earlier rows told
    intro before row after hsplit hdeployment happlied hidle
    rcases split_append hsplit with ⟨after', rfl, -⟩ | ⟨-, rfl, -⟩
    · have := hidle _ (List.mem_append_right _ (List.mem_singleton_self _))
      simp [CommandRow.idle, ControlCommand.row] at this
    · simp [ControlCommand.row] at happlied
  | ended cmd out d h hfind hexecute => exact standing_ended hs hexecute (hin cmd h)

theorem covered_of_find {row : CommandRow}
    (hfind : s.commands.find? (·.idempotencyKey = cmd.idempotencyKey) = some row)
    (hin : InSequence s cmd) :
    row.covers cmd = true ∧ ∃ before after, s.commands = before ++ row :: after ∧
      ∀ later ∈ after, CommandRow.idle later = true := by
  obtain ⟨hkey, before, after, hrows, hnot⟩ := List.find?_eq_some_iff_append.mp hfind
  have hdrop : s.commands.dropWhile (·.idempotencyKey ≠ cmd.idempotencyKey) = row :: after := by
    rw [hrows, List.dropWhile_append_of_pos fun r hr => ?_, List.dropWhile_cons_of_neg]
    · simpa using hkey
    · simpa using hnot r hr
  have hcovered := hin.1
  rw [hdrop, coveredFrom, Bool.and_eq_true, List.all_eq_true] at hcovered
  exact ⟨hcovered.1, before, after, hrows, hcovered.2⟩

theorem sameIntent_of_covers {row : CommandRow} (h : row.covers cmd = true) :
    SameIntent row cmd := by
  simp only [CommandRow.covers, Bool.and_eq_true, decide_eq_true_eq] at h
  exact ⟨h.1.1.1.1, h.1.1.1.2, h.1.1.2, h.1.2⟩

theorem identityLock_of_covers {row : CommandRow} (h : row.covers cmd = true)
    (hop : cmd.operation = .EMERGENCY_LOCK) (hidentity : cmd.includeIdentityRevocation = true) :
    row.identityLock = true := by
  rw [CommandRow.covers, Bool.and_eq_true] at h
  simpa [hop, hidentity] using h.2

theorem takesEffect (hs : Standing s)
    (hin : ∀ cmd, admitted s p env = .ok cmd → InSequence s cmd) : TakesEffect s p env := by
  have hhandled := @handlePost_handled s p env
  constructor
  · intro cmd hadmitted happlied
    generalize handlePost s p env = result at hhandled happlied
    cases hhandled with
    | refused r h =>
      rw [hadmitted] at h
      cases h
    | replayed cmd' row h hfind =>
      rw [hadmitted] at h
      cases h
      obtain ⟨hcovers, before, after, hrows, hidle⟩ := covered_of_find hfind (hin cmd hadmitted)
      have hsame := sameIntent_of_covers hcovers
      have hid : cmd.deploymentId = s.deploymentId := by
        obtain ⟨-, ⟨operation, -, rfl⟩, -⟩ := admitted_ok hadmitted
        rfl
      have hmeets := hs before row after hrows (hsame.deployment.trans hid)
        (of_decide_eq_true happlied) hidle
      rw [hsame.operation] at hmeets
      exact meets_mono hmeets (identityLock_of_covers hcovers)
    | clash cmd' message h | threw cmd' message d h hfind hexecute =>
      exact Bool.noConfusion happlied
    | ended cmd' out d h hfind hexecute =>
      rw [hadmitted] at h
      cases h
      have hmeets := execute_meets (congrArg Prod.fst hexecute) happlied (hin cmd hadmitted).2
      rwa [hexecute] at hmeets
  · intro cmd id previous hadmitted hreplayed
    generalize handlePost s p env = result at hhandled hreplayed
    cases hhandled with
    | refused r h =>
      rw [hadmitted] at h
      cases h
    | replayed cmd' row h hfind =>
      rw [hadmitted] at h
      cases h
      cases hreplayed
      obtain ⟨hcovers, before, after, hrows, hidle⟩ := covered_of_find hfind (hin cmd hadmitted)
      refine ⟨sameIntent_of_covers hcovers, before, after, hrows, fun later hlater heq => ?_⟩
      have := hidle later hlater
      simp [CommandRow.idle, heq] at this
    | clash cmd' message h => cases hreplayed
    | threw cmd' message d h hfind hexecute => cases hreplayed
    | ended cmd' out d h hfind hexecute => cases hreplayed

theorem inSequence_of_posted (h : PostedInSequence s (p, env)) (cmd : ControlCommand)
    (hadmitted : admitted s p env = .ok cmd) : InSequence s cmd :=
  h cmd (by rw [hadmitted]; rfl)

theorem standing_new (h : ∀ row ∈ s.commands, row.deploymentId ≠ s.deploymentId) : Standing s := by
  intro before row after hrows hdeployment _ _
  exact absurd hdeployment (h row (by rw [hrows]; simp))

theorem standing_reaches {s₀ : Plane}
    (hnew : ∀ row ∈ s₀.commands, row.deploymentId ≠ s₀.deploymentId)
    (h : Reaches (guarded Plane.step PostedInSequence) s₀ s) : Standing s :=
  h.invariant (fun s a s' hs hstep => by
    obtain ⟨hguard, hstep⟩ := guarded_eq_some.mp hstep
    cases hstep
    exact standing_handlePost hs (inSequence_of_posted hguard)) (standing_new hnew)

/-- **Commands take effect** in every run in which each is posted in sequence. -/
theorem commands_take_effect (s₀ s : Plane)
    (hnew : ∀ row ∈ s₀.commands, row.deploymentId ≠ s₀.deploymentId)
    (h : Reaches (guarded Plane.step PostedInSequence) s₀ s) (p : Post) (env : Instant)
    (hin : PostedInSequence s (p, env)) : TakesEffect s p env :=
  takesEffect (standing_reaches hnew h) (inSequence_of_posted hin)

end Sequence

/-! ## 5. Runs of three requests -/

def oncall : Actor where
  actorId := "usr_oncall"
  displayName := "on call"
  capabilities := [.RUNTIME_CONTROL, .POLICY_CONTROL, .EMERGENCY_CONTROL]

/-- A request for an operation, with a key or without one. -/
def asks (operation : ControlOperation) (key : Option String) : Post where
  actor := oncall
  projectId := none
  body :=
    { operation := operation.text
      target := none
      expectedRevision := "rev_1"
      reason := none
      confirmation := none
      idempotencyKey := key }

/-- A moment at which transactions succeed. -/
def instant (uuid : String) : Instant where
  chain := { policyTx := .mined "0x1" 1 true none, identityTx := .mined "0x2" 1 true none }
  lockUuid := "00000000"
  clock := fun _ => 1000
  nowMs := 1000
  completedAtMs := 1001
  uuid
  refreshFails := none

/-- A deployment that has just been made. -/
def freshPlane : Plane where
  deploymentId := "dep_1"
  deployment :=
    { revision := "rev_1"
      live := some { runtime := some { paused := false, stopping := false }, emergencyLocked := false }
      forkReady := true
      recorded := true
      policyEnabled := false
      identityCurrent := true }
  commands := []

/-- The command of a request on that deployment. -/
def asked (operation : ControlOperation) (key : Option String) (uuid : String) : ControlCommand :=
  (asks operation key).command "dep_1" operation (instant uuid)

/-- A request that brings no key, or a long enough one, is well-formed. -/
theorem valid_asked {operation : ControlOperation} {key : Option String} {uuid : String}
    (hop : operation.capability ∈ oncall.capabilities)
    (hdestructive : operation.destructive = false)
    (hkey : ∀ k ∈ key, k ≠ "" ∧ 8 ≤ k.toList.length) :
    (asked operation key uuid).Valid "rev_1" 1000 false where
  wellFormed := by
    have hk : minLength 8 (asked operation key uuid).idempotencyKey =
        .ok (asked operation key uuid).idempotencyKey := by
      cases key with
      | none => exact minLength_intentKey _
      | some k =>
        obtain ⟨hne, hlength⟩ := hkey k rfl
        have hfilter : (some k).filter (fun t => decide (t ≠ "")) = some k := by simp [hne]
        have heq : (asked operation (some k) uuid).idempotencyKey = k := by
          simp only [asked, Post.command, newCommand, asks, hfilter, Option.getD_some]
        rw [heq]
        exact minLength_of_le hlength
    exact issues_eq_nil (minLength_commandId uuid) (minLength_of_le (s := "prj_unknown") (by decide))
      (minLength_of_le (s := "dep_1") (by decide)) (minLength_of_le (s := "usr_oncall") (by decide))
      (minLength_of_le (s := "on call") (by decide)) (minLength_of_le (s := "rev_1") (by decide))
      rfl rfl hk rfl rfl
  authorized := hop
  inTime := show (1000 : Int) ≤ 1000 + 120000 by decide
  current := rfl
  confirmed := fun h => by
    have heq : (asked operation key uuid).operation = operation := rfl
    rw [heq, hdestructive] at h
    exact Bool.noConfusion h
  unlocked := fun h => Bool.noConfusion h

theorem admitted_asked {s : Plane} {operation : ControlOperation} {key : Option String}
    {uuid : String} (hid : s.deploymentId = "dep_1") (hrevision : s.deployment.revision = "rev_1")
    (hfound : CONTROL_OPERATIONS.find? (·.text = operation.text) = some operation)
    (hop : operation.capability ∈ oncall.capabilities)
    (hdestructive : operation.destructive = false)
    (hkey : ∀ k ∈ key, k ≠ "" ∧ 8 ≤ k.toList.length) :
    admitted s (asks operation key) (instant uuid) = .ok (asked operation key uuid) := by
  have hcmd : (asks operation key).command s.deploymentId operation (instant uuid) =
      asked operation key uuid := by rw [hid]; rfl
  rw [← hcmd]
  refine admitted_of_valid hfound rfl ?_
  rw [hcmd, hrevision]
  exact valid_asked hop hdestructive hkey

theorem noKey : ∀ k ∈ (none : Option String), k ≠ "" ∧ 8 ≤ k.toList.length := by
  intro k hk
  cases hk

theorem enableKey : ∀ k ∈ some "op-enable-1", k ≠ "" ∧ 8 ≤ k.toList.length := by
  intro k hk
  cases hk
  decide

def disabledPlane (out : Execution) : Plane :=
  { freshPlane with
    commands := [(asked .DISABLE_POLICY none "1").row.completed out 1001] }

theorem disable_first : ∃ out, out.ok = true ∧
    (handlePost freshPlane (asks .DISABLE_POLICY none) (instant "1")).2 = disabledPlane out := by
  obtain ⟨out, hexecute, hok⟩ : ∃ out, execute freshPlane.deployment
      (asked .DISABLE_POLICY none "1") (instant "1").toSurroundings =
        (.ok out, freshPlane.deployment) ∧ out.ok = true := ⟨_, rfl, rfl⟩
  have hadmitted : admitted freshPlane (asks .DISABLE_POLICY none) (instant "1") =
      .ok (asked .DISABLE_POLICY none "1") :=
    admitted_asked rfl rfl (by decide) (by decide) rfl noKey
  have hpost := handlePost_ended hadmitted rfl (fun _ h => absurd h List.not_mem_nil) hexecute
  exact ⟨out, hok, congrArg Prod.snd hpost⟩

/-- A resubmission takes effect: it is answered with the row of the first request. -/
theorem commands_take_effect_resubmitted : ∃ s, s.commands ≠ [] ∧
    TakesEffect s (asks .DISABLE_POLICY none) (instant "2") := by
  obtain ⟨out, hok, hpost⟩ := disable_first
  have hadmitted₁ : admitted freshPlane (asks .DISABLE_POLICY none) (instant "1") =
      .ok (asked .DISABLE_POLICY none "1") :=
    admitted_asked rfl rfl (by decide) (by decide) rfl noKey
  have hadmitted₂ : admitted (disabledPlane out) (asks .DISABLE_POLICY none) (instant "2") =
      .ok (asked .DISABLE_POLICY none "2") :=
    admitted_asked rfl rfl (by decide) (by decide) rfl noKey
  have hin₁ : PostedInSequence freshPlane (asks .DISABLE_POLICY none, instant "1") := by
    intro cmd hcmd
    rw [hadmitted₁] at hcmd
    cases hcmd
    exact ⟨rfl, fun h => by cases h⟩
  have hin₂ : PostedInSequence (disabledPlane out) (asks .DISABLE_POLICY none, instant "2") := by
    intro cmd hcmd
    rw [hadmitted₂] at hcmd
    cases hcmd
    refine ⟨?_, fun h => by cases h⟩
    have hdrop : (disabledPlane out).commands.dropWhile
        (·.idempotencyKey ≠ (asked .DISABLE_POLICY none "2").idempotencyKey) =
          (disabledPlane out).commands :=
      List.dropWhile_cons_of_neg (by
        intro h
        exact of_decide_eq_true h rfl)
    rw [hdrop]
    rfl
  have hreach : Reaches (guarded Plane.step PostedInSequence) freshPlane (disabledPlane out) :=
    Reaches.head (guarded_eq_some.mpr ⟨hin₁, congrArg some hpost⟩) (Reaches.refl _)
  exact ⟨disabledPlane out, List.cons_ne_nil _ _, commands_take_effect freshPlane (disabledPlane out)
    (fun _ h => absurd h List.not_mem_nil) hreach _ _ hin₂⟩

/-- **A command that is not carried out.** A policy is disabled, enabled and disabled again: the
    third request is answered as applied, and the policy stays enabled. -/
theorem disable_replayed : ∃ s, Reaches Plane.step freshPlane s ∧
    (handlePost s (asks .DISABLE_POLICY none) (instant "3")).1.applied = true ∧
    (handlePost s (asks .DISABLE_POLICY none) (instant "3")).2.deployment.policyEnabled = true ∧
    ¬ TakesEffect s (asks .DISABLE_POLICY none) (instant "3") := by
  obtain ⟨out₁, hok₁, hpost₁⟩ := disable_first
  -- the second request: its key is another one
  obtain ⟨out₂, hexecute₂⟩ : ∃ out, execute (disabledPlane out₁).deployment
      (asked .ENABLE_POLICY (some "op-enable-1") "2") (instant "2").toSurroundings =
        (.ok out, { freshPlane.deployment with policyEnabled := true }) := ⟨_, rfl⟩
  have hother : ((asked .DISABLE_POLICY none "1").row.completed out₁ 1001).idempotencyKey ≠
      (asked .ENABLE_POLICY (some "op-enable-1") "2").idempotencyKey := by
    have hderived : intentKey (asked .DISABLE_POLICY none "1").toCommandArgs ≠ "op-enable-1" :=
      intentKey_ne (by decide)
    exact hderived
  have hids : ∀ row ∈ (disabledPlane out₁).commands,
      row.commandId ≠ (asked .ENABLE_POLICY (some "op-enable-1") "2").commandId := by
    intro row hrow
    rw [List.mem_singleton.mp hrow]
    show "cmd_" ++ "1" ≠ "cmd_" ++ "2"
    decide
  have hadmitted₂ : admitted (disabledPlane out₁) (asks .ENABLE_POLICY (some "op-enable-1"))
      (instant "2") = .ok (asked .ENABLE_POLICY (some "op-enable-1") "2") :=
    admitted_asked rfl rfl (by decide) (by decide) rfl enableKey
  have hpost₂ := handlePost_ended hadmitted₂
    (List.find?_cons_of_neg fun h => hother (of_decide_eq_true h)) hids hexecute₂
  generalize hs : ({ disabledPlane out₁ with
    deployment := { freshPlane.deployment with policyEnabled := true }
    commands := (disabledPlane out₁).commands ++
      [(asked .ENABLE_POLICY (some "op-enable-1") "2").row.completed out₂
        (instant "2").completedAtMs] } : Plane) = s at hpost₂
  -- the third is answered with the row of the first
  have hadmitted₃ : admitted s (asks .DISABLE_POLICY none) (instant "3") =
      .ok (asked .DISABLE_POLICY none "3") :=
    admitted_asked (by rw [← hs]; rfl) (by rw [← hs]; rfl) (by decide) (by decide) rfl noKey
  have hfind₃ : s.commands.find?
      (·.idempotencyKey = (asked .DISABLE_POLICY none "3").idempotencyKey) =
        some ((asked .DISABLE_POLICY none "1").row.completed out₁ 1001) := by
    rw [← hs]
    exact List.find?_cons_of_pos (decide_eq_true rfl)
  have hpost₃ := handlePost_replayed hadmitted₃ hfind₃
  have happlied : (handlePost s (asks .DISABLE_POLICY none) (instant "3")).1.applied = true := by
    rw [hpost₃]
    show decide ((if out₁.ok then CommandOutcome.APPLIED else .FAILED) = .APPLIED) = true
    rw [hok₁]
    rfl
  have henabled :
      (handlePost s (asks .DISABLE_POLICY none) (instant "3")).2.deployment.policyEnabled = true := by
    rw [hpost₃, ← hs]
  refine ⟨s, ?_, happlied, henabled, fun h => ?_⟩
  · refine Reaches.head (a := (asks .DISABLE_POLICY none, instant "1")) (congrArg some hpost₁)
      (Reaches.head (a := (asks .ENABLE_POLICY (some "op-enable-1"), instant "2")) ?_
        (Reaches.refl s))
    exact congrArg some (congrArg Prod.snd hpost₂)
  · have hdisabled : (handlePost s (asks .DISABLE_POLICY none)
        (instant "3")).2.deployment.policyEnabled = false := h.applied _ hadmitted₃ happlied
    rw [henabled] at hdisabled
    exact Bool.noConfusion hdisabled

end ContextLock.Control
