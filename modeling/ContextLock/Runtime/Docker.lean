/-
  Subject:   The local runtime provider: one container for each agent.

  The provider holds two maps, from revisions to their containers and from agents to their
  revisions, and every call is a series of awaited commands of the daemon, each of which may fail.
  What a call finds in the maps before a command it may no longer find after it.
-/
import ContextLock.Js.Map
import ContextLock.Machine.Transition

namespace ContextLock.Runtime.DockerRuntime

open Js Machine

/-! ## 1. Revisions and names -/

/-- `RuntimeRevision`. A revision has an id. -/
structure RuntimeRevision where
  revisionId : String
  agentId : String
  imageDigest : String
  previousRevisionId : Option String
  named : revisionId ≠ ""
  deriving DecidableEq

/-- `.toLowerCase().replace(/[^a-z0-9_.-]/g, "-")`, of one character: the replacement is for each
    unit of its lower case. -/
def nameUnits (c : Char) : List Char :=
  if c.isAlphanum ∨ c = '_' ∨ c = '.' ∨ c = '-' then [c.toLower]
  -- the two letters outside ASCII whose lower case has a part inside
  else if c.toNat = 0x130 then ['i', '-']
  else if c.toNat = 0x212a then ['k']
  else if c.toNat < 0x10000 then ['-']
  else ['-', '-']

def dockerName (text : String) : String := String.ofList (text.toList.flatMap nameUnits)

structure LiveContainer where
  revision : RuntimeRevision
  containerName : String
  tokenVolume : String
  deriving DecidableEq

def LiveContainer.of (r : RuntimeRevision) : LiveContainer :=
  ⟨r, dockerName ("contextlock-agent-" ++ r.agentId ++ "-" ++ r.revisionId),
    dockerName ("contextlock-rt-" ++ r.revisionId)⟩

abbrev LiveContainer.agentId (c : LiveContainer) : String := c.revision.agentId
abbrev LiveContainer.revisionId (c : LiveContainer) : String := c.revision.revisionId

/-! ## 2. The daemon -/

structure Container where
  agentId : String
  volume : String
  running : Bool
  deriving DecidableEq

structure Daemon where
  containers : Map Container
  volumes : Map Unit

inductive Command where
  | volumeCreate (volume : String)
  | seed (volume : String)
  | create (c : LiveContainer)
  | start (name : String)
  | stop (name : String)
  | rm (name : String)
  | volumeRm (volume : String)
  | inspect (name : String)

/-- The first word of a command's arguments. -/
def Command.verb : Command → String
  | .volumeCreate _ => "volume"
  | .seed _ => "run"
  | .create _ => "create"
  | .start _ => "start"
  | .stop _ => "stop"
  | .rm _ => "rm"
  | .volumeRm _ => "volume"
  | .inspect _ => "inspect"

/-- Some container mounts the volume. -/
def Daemon.inUse (d : Daemon) (volume : String) : Bool :=
  d.containers.values.any (·.volume == volume)

/-- A command that succeeds, or `none` where it cannot. A volume that is mounted is created where
    it is not there; one that is in use cannot be removed. -/
def Daemon.run (d : Daemon) : Command → Option Daemon
  | .volumeCreate volume | .seed volume => some { d with volumes := d.volumes.set volume () }
  | .create c =>
    match d.containers.get? c.containerName with
    | some _ => none
    | none => some ⟨d.containers.set c.containerName ⟨c.agentId, c.tokenVolume, false⟩,
        d.volumes.set c.tokenVolume ()⟩
  | .start name => (d.containers.get? name).map fun x =>
      { d with containers := d.containers.set name { x with running := true } }
  | .stop name => (d.containers.get? name).map fun x =>
      { d with containers := d.containers.set name { x with running := false } }
  | .rm name => some { d with containers := d.containers.delete name }
  | .volumeRm volume =>
    if d.inUse volume then none else some { d with volumes := d.volumes.delete volume }
  | .inspect name => (d.containers.get? name).map fun _ => d

/-! ## 3. The calls -/

inductive RuntimeReason where
  | UNKNOWN_PROVIDER
  | UNAVAILABLE
  /-- The reason of a `HardeningError`. -/
  | NO_LIMITS
  | DIGEST_MISMATCH
  | NO_ROLLBACK_TARGET
  | MUTATION_ATTEMPTED

structure RuntimeError where
  reason : RuntimeReason
  detail : String

structure RuntimeStatus where
  revisionId : String
  running : Bool
  observedImageDigest : Option String

inductive Answer where
  | revision (r : RuntimeRevision)
  | status (status : RuntimeStatus)

/-- The arguments of a deployment, with what `assertEnvironmentSafe` says of its environment. -/
structure StartRuntimeArgs where
  revision : RuntimeRevision
  environmentError : Option String

/-- Where a call is suspended: at the command it awaits, or, in an update, at its own stop. A
    deployment inside an update knows the revision it replaces. -/
inductive Stage where
  | creatingVolume (c : LiveContainer) (origin : Option String)
  | seeding (c : LiveContainer) (origin : Option String)
  | creating (c : LiveContainer) (origin : Option String)
  | cleaning (c : LiveContainer) (e : RuntimeError)
  | starting (c : LiveContainer) (rollback : Bool)
  | pausing (c : LiveContainer)
  | inspecting (c : LiveContainer)
  | removing (c : LiveContainer) (update : Option StartRuntimeArgs)
  | removingVolume (c : LiveContainer) (update : Option StartRuntimeArgs)
  | updating (args : StartRuntimeArgs) (previousId : String)
  | ended (result : Except RuntimeError Answer)

def Stage.command : Stage → Option Command
  | .creatingVolume c _ => some (.volumeCreate c.tokenVolume)
  | .seeding c _ => some (.seed c.tokenVolume)
  | .creating c _ => some (.create c)
  | .cleaning c _ => some (.volumeRm c.tokenVolume)
  | .starting c _ => some (.start c.containerName)
  | .pausing c => some (.stop c.containerName)
  | .inspecting c => some (.inspect c.containerName)
  | .removing c _ => some (.rm c.containerName)
  | .removingVolume c _ => some (.volumeRm c.tokenVolume)
  | .updating .. => none
  | .ended _ => none

structure Call where
  stage : Stage
  answer : Option (Except RuntimeError String)

/-- The daemon, the two maps of the provider, and the calls. -/
structure System where
  daemon : Daemon
  live : Map LiveContainer
  byAgent : Map String
  calls : List Call

def System.start : System := ⟨⟨.empty, .empty⟩, .empty, .empty, []⟩

inductive Op where
  | deploy (args : StartRuntimeArgs)
  | update (args : StartRuntimeArgs)
  | activate (revisionId : String)
  | pause (revisionId : String)
  | resume (revisionId : String)
  | rollback (toRevisionId : String)
  | stop (revisionId : String)

/-- `mustFind`, and what is done with what it finds. -/
def System.withFound (s : System) (revisionId : String) (f : LiveContainer → Stage) : Stage :=
  match s.live.get? revisionId with
  | some c => f c
  | none => .ended (.error ⟨.UNKNOWN_PROVIDER,
      "no live revision " ++ revisionId ++ " in this provider"⟩)

/-- `deploy`, up to its first command. -/
def System.deploy (s : System) (args : StartRuntimeArgs) (origin : Option String) : Stage :=
  match args.environmentError with
  | some detail => .ended (.error ⟨.NO_LIMITS, detail⟩)
  | none =>
    match s.byAgent.get? args.revision.agentId with
    | some existing =>
      if existing ≠ "" ∧ (s.live.get? existing).isSome then
        .ended (.error ⟨.MUTATION_ATTEMPTED, "agent \"" ++ args.revision.agentId
          ++ "\" already has runtime revision " ++ existing ++ ". One security principal per "
          ++ "runtime task: replace it with a new revision rather than adding a second container "
          ++ "for the same principal."⟩)
      else .creatingVolume (.of args.revision) origin
    | none => .creatingVolume (.of args.revision) origin

/-- The arguments of an update, with the revision it replaces. -/
def StartRuntimeArgs.after (args : StartRuntimeArgs) (previousId : Option String) :
    StartRuntimeArgs :=
  { args with revision := { args.revision with previousRevisionId := previousId } }

/-- `update`, up to its first await. -/
def System.update (s : System) (args : StartRuntimeArgs) : Stage :=
  let previousId := s.byAgent.get? args.revision.agentId
  match previousId with
  | none => s.deploy (args.after previousId) none
  | some previous =>
    if previous = "" then s.deploy (args.after previousId) none
    else
      match s.live.get? previous with
      | none => .updating (args.after previousId) previous
      | some prev =>
        if prev.revision.imageDigest = args.revision.imageDigest
            ∧ previous ≠ args.revision.revisionId then
          .ended (.error ⟨.MUTATION_ATTEMPTED, "revision " ++ args.revision.revisionId
            ++ " names the same image digest as " ++ previous ++ ". An update must be a new "
            ++ "immutable digest; nothing is mutated in place."⟩)
        else .removing prev (some (args.after previousId))

/-- `rollback`, up to its command. -/
def System.rollback (s : System) (toRevisionId : String) : Stage :=
  match s.live.get? toRevisionId with
  | none => .ended (.error ⟨.NO_ROLLBACK_TARGET, "revision " ++ toRevisionId
      ++ " is not retained by this provider. A rollback needs a pinned digest to go back to; "
      ++ "there is no \"previous version\" to infer."⟩)
  | some target => .starting target true

def System.begin (s : System) : Op → Stage
  | .deploy args => s.deploy args none
  | .update args => s.update args
  | .activate revisionId => s.withFound revisionId fun c => .starting c false
  | .pause revisionId => s.withFound revisionId .pausing
  | .resume revisionId => s.withFound revisionId fun c => .starting c false
  | .rollback toRevisionId => s.rollback toRevisionId
  | .stop revisionId => s.withFound revisionId fun c => .removing c none

/-- What `inspect` makes of the daemon's line. -/
def inspected (c : LiveContainer) (raw : String) : Except RuntimeError Answer :=
  let parts := (raw.toList.splitOn '|').map String.ofList
  let image := (parts[3]?).getD ""
  if image ≠ "" ∧ c.revision.imageDigest ≠ "" ∧ image ≠ c.revision.imageDigest
      ∧ "sha256:".toList.isPrefixOf image.toList = false then
    .error ⟨.DIGEST_MISMATCH, "container " ++ c.containerName ++ " is running " ++ image
      ++ ", not " ++ c.revision.imageDigest⟩
  else
    .ok (.status ⟨c.revisionId, parts[0]? = some "true", if image = "" then none else some image⟩)

def stopped (c : LiveContainer) : Answer := .status ⟨c.revisionId, false, none⟩

/-- A call goes on with the answer to its command: the maps, and where it is suspended next. -/
def System.resumed (s : System) (answer : Except RuntimeError String) : Stage → System × Stage
  | .creatingVolume c origin =>
    match answer with
    | .ok _ => (s, .seeding c origin)
    | .error e => (s, .cleaning c e)
  | .seeding c origin =>
    match answer with
    | .ok _ => (s, .creating c origin)
    | .error e => (s, .cleaning c e)
  | .creating c _ =>
    match answer with
    | .ok _ => ({ s with live := s.live.set c.revisionId c
                         byAgent := s.byAgent.set c.agentId c.revisionId },
        .ended (.ok (.revision c.revision)))
    | .error e => (s, .cleaning c e)
  -- a failed removal is swallowed
  | .cleaning _ e => (s, .ended (.error e))
  | .starting c true =>
    match answer with
    | .ok _ => ({ s with byAgent := s.byAgent.set c.agentId c.revisionId },
        .ended (.ok (.revision c.revision)))
    | .error e => (s, .ended (.error e))
  | .starting c false | .pausing c =>
    match answer with
    | .ok _ => (s, s.withFound c.revisionId .inspecting)
    | .error e => (s, .ended (.error e))
  | .inspecting c =>
    match answer with
    | .ok raw => (s, .ended (inspected c raw))
    | .error e => (s, .ended (.error e))
  | .removing c update => (s, .removingVolume c update)
  | .removingVolume c update =>
    let byAgent := if s.byAgent.get? c.agentId = some c.revisionId then s.byAgent.delete c.agentId
      else s.byAgent
    ({ s with live := s.live.delete c.revisionId, byAgent := byAgent },
      match update with
      | none => .ended (.ok (stopped c))
      | some args => .updating args c.revisionId)
  | .updating args previousId => (s, .updating args previousId)
  | .ended result => (s, .ended result)

def System.updated (s : System) (args : StartRuntimeArgs) (previousId : String) : System × Stage :=
  let s := { s with byAgent := s.byAgent.delete args.revision.agentId }
  (s, s.deploy args (some previousId))

/-! ## 4. Any order of calls, commands and answers -/

/-- A call is made; the daemon takes the command of the `i`th call and succeeds, with its output, or
    fails; or the `i`th call goes on. -/
inductive Action where
  | call (op : Op)
  | docker (i : Nat) (output : Except String String)
  | goOn (i : Nat)

def System.setCall (s : System) (i : Nat) (call : Call) : System :=
  { s with calls := s.calls.set i call }

def step (s : System) : Action → Option System
  | .call op => some { s with calls := s.calls ++ [⟨s.begin op, none⟩] }
  | .docker i output =>
    match s.calls[i]? with
    | some ⟨stage, none⟩ =>
      match stage.command with
      | none => none
      | some command =>
        match output with
        | .error stderr => some (s.setCall i ⟨stage, some (.error ⟨.UNAVAILABLE,
            "docker " ++ command.verb ++ " failed: " ++ stderr⟩)⟩)
        | .ok stdout => (s.daemon.run command).map fun d =>
            System.setCall { s with daemon := d } i ⟨stage, some (.ok stdout)⟩
    | _ => none
  | .goOn i =>
    match s.calls[i]? with
    | some ⟨.updating args previousId, none⟩ =>
      let (s, stage) := s.updated args previousId
      some (s.setCall i ⟨stage, none⟩)
    | some ⟨stage, some answer⟩ =>
      let (s, stage) := s.resumed answer stage
      some (s.setCall i ⟨stage, none⟩)
    | _ => none

/-! ## 5. The law -/

/-- The container a stage is about to add or is taking back. -/
def Stage.deploys : Stage → Option LiveContainer
  | .creatingVolume c _ | .seeding c _ | .creating c _ | .cleaning c _ => some c
  | _ => none

/-- A revision the provider holds, or one whose deployment has not ended. -/
def System.Accounts (s : System) (c : LiveContainer) : Prop :=
  s.live.get? c.revisionId = some c ∨ ∃ call ∈ s.calls, call.stage.deploys = some c

/-- For each agent one container runs at most, and every container and every volume belongs to a
    revision the provider accounts for. -/
structure Lawful (s : System) : Prop where
  one : ∀ (n m : String) (x y : Container), s.daemon.containers.get? n = some x →
    s.daemon.containers.get? m = some y → x.running = true → y.running = true →
    x.agentId = y.agentId → n = m
  containers : ∀ (n : String) (x : Container), s.daemon.containers.get? n = some x →
    ∃ c, s.Accounts c ∧ c.containerName = n ∧ c.agentId = x.agentId
  volumes : ∀ v : String, s.daemon.volumes.get? v = some () → ∃ c, s.Accounts c ∧ c.tokenVolume = v

/-- A rollback to the revision that meets no failure succeeds, and its container is then the only
    one of its agent that runs. -/
def System.RollsBack (s : System) (revisionId : String) : Prop :=
  ∃ t c, s.live.get? revisionId = some c ∧
    execute step s [.call (.rollback revisionId), .docker s.calls.length (.ok ""),
      .goOn s.calls.length] = some t ∧
    t.calls[s.calls.length]? = some ⟨.ended (.ok (.revision c.revision)), none⟩ ∧
    ∀ (n : String) (x : Container), t.daemon.containers.get? n = some x →
      x.agentId = c.agentId → (x.running = true ↔ n = c.containerName)

/-- The turn ends an update with success: the earlier revision, and the one that replaced it. -/
def System.replaces (s : System) : Action → Option (String × String)
  | .goOn i =>
    match s.calls[i]? with
    | some ⟨.creating c (some previousId), some (.ok _)⟩ =>
      if previousId ≠ c.revisionId then some (previousId, c.revisionId) else none
    | _ => none
  | _ => none

/-- After a successful update from one revision to another the earlier one can be gone back to. -/
def Reversible (s : System) (a : Action) (s' : System) : Prop :=
  ∀ p ∈ s.replaces a, s'.RollsBack p.1

/-! ## 6. The condition -/

/-- The agent of a deployment or an update that has not ended. -/
def Stage.changes : Stage → Option String
  | .creatingVolume c _ | .seeding c _ | .creating c _ | .cleaning c _ => some c.agentId
  | .removing _ (some args) | .removingVolume _ (some args) | .updating args _ =>
    some args.revision.agentId
  | _ => none

/-- The agent of a deployment, an update, a rollback or a stop that has not ended. -/
def Stage.touches : Stage → Option String
  | .starting c true => some c.agentId
  | .removing c none | .removingVolume c none => some c.agentId
  | stage => stage.changes

/-- What a stage adds, takes back or starts anew, and what comes after it in an update. -/
def Stage.names : Stage → List LiveContainer
  | .creatingVolume c _ | .seeding c _ | .creating c _ | .cleaning c _ | .starting c true => [c]
  | .removing c none | .removingVolume c none => [c]
  | .removing c (some args) | .removingVolume c (some args) => [c, .of args.revision]
  | .updating args _ => [.of args.revision]
  | _ => []

/-- Two revisions of one agent, or two that share no name. -/
def Apart (c c' : LiveContainer) : Prop :=
  c.agentId = c'.agentId ∨
    c.revisionId ≠ c'.revisionId ∧ c.containerName ≠ c'.containerName ∧
      c.tokenVolume ≠ c'.tokenVolume

instance instDecidableApart (c c' : LiveContainer) : Decidable (Apart c c') :=
  inferInstanceAs (Decidable (_ ∨ _))

/-- Nothing that is held or in flight shares a name with the revision of another agent, and no
    other agent's entry points to it. -/
def System.ownNames (s : System) (c : LiveContainer) : Bool :=
  s.live.values.all (fun c' => decide (Apart c c')) &&
    s.calls.all (fun call => call.stage.names.all fun c' => decide (Apart c c')) &&
    s.byAgent.entries.all fun e => e.2 != c.revisionId || e.1 == c.agentId

/-- No deployment, update, rollback or stop of the agent is in flight. -/
def System.quiet (s : System) (agentId : String) : Bool :=
  s.calls.all fun call => call.stage.touches != some agentId

/-- No deployment or update of the agent is in flight. -/
def System.unchanging (s : System) (agentId : String) : Bool :=
  s.calls.all fun call => call.stage.changes != some agentId

def Stage.isEnded : Stage → Bool
  | .ended _ => true
  | _ => false

/-- **The condition on a turn**, in the state before it. A deployment or an update that is not
    refused at once begins while no deployment, update, rollback or stop of its agent is in flight,
    and under names of its own; a rollback or a stop begins while no deployment or update of its
    agent is. A removal of what is there does not fail. No update from one revision to another
    gets its container. -/
def Meets (s : System) : Action → Bool
  | .call (.deploy args) =>
    (s.deploy args none).isEnded || s.quiet args.revision.agentId && s.ownNames (.of args.revision)
  | .call (.update args) =>
    (s.update args).isEnded || s.quiet args.revision.agentId && s.ownNames (.of args.revision)
  | .call (.rollback revisionId) | .call (.stop revisionId) =>
    match s.live.get? revisionId with
    | some c => s.unchanging c.agentId
    | none => true
  | .call _ => true
  | .docker i output =>
    match s.calls[i]?, output with
    | some ⟨.removing c _, _⟩, .error _ => (s.daemon.containers.get? c.containerName).isNone
    | some ⟨.removingVolume c _, _⟩, .error _ | some ⟨.cleaning c _, _⟩, .error _ =>
      (s.daemon.volumes.get? c.tokenVolume).isNone
    | some ⟨.creating c (some previousId), _⟩, .ok _ => previousId == c.revisionId
    | _, _ => true
  | .goOn _ => true

end ContextLock.Runtime.DockerRuntime
