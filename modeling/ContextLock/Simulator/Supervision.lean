/-
  Subject:   The supervised child process of a simulation.

  One record of a simulation is written by four calls and by the handlers of every child that was
  ever spawned for it. A start may wait for its burner, a restart waits for its own stop, and an
  exit arrives some time after the kill; all of these can come in any order.
-/
import ContextLock.Js.Schema
import ContextLock.Machine.Transition

namespace ContextLock.Simulator.Cli

open Js Machine

/-! ## 1. Lines of output -/

/-- A pattern: a small letter stands for itself in either case, `none` for `.`. -/
abbrev Pattern := List (Option Char)

def word (text : String) : Pattern := text.toList.map some

/-- `.`: one unit that ends no line. -/
def isAny (c : Char) : Bool :=
  c.toNat < 0x10000 && !([0xa, 0xd, 0x2028, 0x2029].contains c.toNat)

def matchesAt : Pattern → List Char → Bool
  | [], _ => true
  | _ :: _, [] => false
  | none :: p, c :: cs => isAny c && matchesAt p cs
  | some d :: p, c :: cs => c.toLower == d && matchesAt p cs

/-- One of the alternatives is somewhere in the text. -/
def test (alternatives : List Pattern) (text : String) : Bool :=
  text.toList.tails.any fun cs => alternatives.any (matchesAt · cs)

def AUTH_PATTERNS : List Pattern :=
  ["not authenticated", "cre login", "session expired", "session has expired",
    "unauthoriz"].map word

inductive SimulationEventType where
  | CRE_SIM_STARTED
  | CRE_SIM_STOPPED
  | CRE_SIM_RESTARTED
  | CRE_SIM_TRIGGER_RECEIVED
  | CRE_SIM_EXECUTION_STARTED
  | CRE_SIM_RESULT
  | CRE_SIM_WRITE_DRY_RUN
  | CRE_SIM_TESTNET_BROADCAST
  | CRE_SIM_ERROR

def RESULT_PATTERNS : List (List Pattern × SimulationEventType) :=
  [(["trigger received", "trigger fired", "trigger matched"].map word, .CRE_SIM_TRIGGER_RECEIVED),
   (["execution started", "execution beginning"].map word, .CRE_SIM_EXECUTION_STARTED),
   (["workflow completed", "workflow finished", "execution succeeded",
      "execution completed"].map word, .CRE_SIM_RESULT),
   ((word "dry" ++ [none] ++ word "run") :: ["would send", "would broadcast", "dryrun",
      "simulated write", "simulated transaction"].map word, .CRE_SIM_WRITE_DRY_RUN),
   (["broadcast transaction", "broadcast tx", "broadcasting transaction", "broadcasting tx",
      "sent transaction"].map word, .CRE_SIM_TESTNET_BROADCAST),
   (["error", "panic", "failed"].map word, .CRE_SIM_ERROR)]

def asksLogin (line : String) : Bool :=
  trim line != "" && test AUTH_PATTERNS (trim line)

/-- `text.split("\n")` -/
def linesOf (text : String) : List String := (text.toList.splitOn '\n').map String.ofList

def asks (text : String) : Bool := (linesOf text).any asksLogin

/-! ## 2. The record and its handlers -/

inductive SimState where
  | PREPARING
  | STARTING
  | RUNNING
  | STALE
  | AUTH_REQUIRED
  | CRASHED
  | RESTARTING
  | STOPPED
  deriving DecidableEq

structure SimulationSession where
  state : SimState
  startedAtMs : Option Nat
  lastEventAtMs : Option Nat
  restarts : Nat
  exitCode : Option Int

/-- `Live`: the child is its number among those that were spawned. -/
structure Live where
  session : SimulationSession
  child : Option Nat
  events : List (SimulationEventType × Nat)
  sawAuthPrompt : Bool

/-- What `prepare` puts into the map. -/
def Live.prepared : Live := ⟨⟨.PREPARING, none, none, 0, none⟩, none, [], false⟩

def Live.emit (l : Live) (type : SimulationEventType) (now : Nat) : Live :=
  { l with events := l.events ++ [(type, now)]
           session := { l.session with lastEventAtMs := some now } }

def Live.setState (l : Live) (state : SimState) : Live :=
  { l with session := { l.session with state := state } }

/-- Which call spawned a child. -/
inductive ChildKind where
  | session
  | invocation
  deriving DecidableEq

/-- What a line that asks for a login writes: only a session's child changes the state. -/
def Live.prompted (l : Live) : ChildKind → Live
  | .session => { l with sawAuthPrompt := true }.setState .AUTH_REQUIRED
  | .invocation => { l with sawAuthPrompt := true }

def Live.onLine (kind : ChildKind) (now : Nat) (l : Live) (line : String) : Live :=
  let text := trim line
  if text = "" then l
  else if test AUTH_PATTERNS text then (l.prompted kind).emit .CRE_SIM_ERROR now
  else
    match RESULT_PATTERNS.find? fun p => test p.1 text with
    | some p => l.emit p.2 now
    | none => l

/-- The `data` handlers of a child. -/
def Live.onData (l : Live) (kind : ChildKind) (text : String) (now : Nat) : Live :=
  (linesOf text).foldl (Live.onLine kind now) l

/-- The `exit` handler of a session's child. -/
def Live.exited (l : Live) (code : Option Int) (now : Nat) : Live :=
  let state := if l.sawAuthPrompt then .AUTH_REQUIRED else if code = some 0 then .STOPPED
    else .CRASHED
  Live.emit ⟨{ l.session with exitCode := code, state := state }, none, l.events, l.sawAuthPrompt⟩
    (if state = .CRASHED then .CRE_SIM_ERROR else .CRE_SIM_STOPPED) now

/-- What `invoke` does when its child has exited. -/
def Live.invoked (l : Live) (code : Option Int) (now : Nat) : Live :=
  if code.getD (-1) ≠ 0 ∧ l.sawAuthPrompt = false then l.emit .CRE_SIM_ERROR now else l

/-! ## 3. The calls -/

inductive SimReason where
  | NOT_PREPARED
  | ALREADY_RUNNING

inductive BroadcastMode where
  | DRY_RUN
  | TESTNET_BROADCAST
  deriving DecidableEq

/-- What decides whether a start waits: the mode of the config, and whether the provider was given
    a `resolveBurner`. -/
structure Setup where
  broadcastMode : BroadcastMode
  resolvesBurner : Bool

def Setup.awaitsBurner (c : Setup) : Bool :=
  c.broadcastMode = .TESTNET_BROADCAST && c.resolvesBurner

structure Child where
  kind : ChildKind
  alive : Bool
  killed : Bool
  asked : Bool

def Child.spawned (kind : ChildKind) : Child := ⟨kind, true, false, false⟩

/-- A simulation: its record, whether the map still holds it, the starts that wait for their burner,
    the restarts that wait for their stop, and the children. `current` is the child that was started
    last; `stopped` says that a stop returned and no start or restart was called since. -/
structure Simulation where
  live : Live
  held : Bool
  waiting : Nat
  between : Nat
  children : List Child
  current : Option Nat
  stopped : Bool

def Simulation.prepared : Simulation := ⟨.prepared, true, 0, 0, [], none, false⟩

/-- `start`, from where it spawns. -/
def Simulation.spawn (s : Simulation) (now : Nat) : Simulation :=
  let l := { s.live with child := some s.children.length
                         session := { s.live.session with startedAtMs := some now, state := .RUNNING } }
  { s with live := l.emit .CRE_SIM_STARTED now, children := s.children ++ [.spawned .session]
           current := some s.children.length }

def Simulation.start (s : Simulation) (c : Setup) (now : Nat) : Except SimReason Unit × Simulation :=
  if s.held = false then (.error .NOT_PREPARED, s)
  else
    match s.live.child with
    | some _ => (.error .ALREADY_RUNNING, s)
    | none =>
      let s := { s with live := s.live.setState .STARTING }
      if c.awaitsBurner then (.ok (), { s with waiting := s.waiting + 1 })
      else (.ok (), s.spawn now)

/-- `l.child?.kill(..)` -/
def Simulation.kill (s : Simulation) : List Child :=
  match s.live.child with
  | none => s.children
  | some k => s.children.modify k fun child => { child with killed := true }

def Simulation.stop (s : Simulation) (now : Nat) : Except SimReason Unit × Simulation :=
  if s.held = false then (.error .NOT_PREPARED, s)
  else
    let l := { s.live with child := none }.setState .STOPPED
    (.ok (), { s with live := l.emit .CRE_SIM_STOPPED now, children := s.kill })

/-- `restart`, after the stop. -/
def Simulation.restarted (s : Simulation) (c : Setup) (now : Nat) :
    Except SimReason Unit × Simulation :=
  let session := { s.live.session with restarts := s.live.session.restarts + 1, state := .RESTARTING }
  let l := { s.live with session := session }
  Simulation.start { s with live := l.emit .CRE_SIM_RESTARTED now } c now

def Simulation.restart (s : Simulation) (c : Setup) (now : Nat) :
    Except SimReason Unit × Simulation :=
  if s.held = false then (.error .NOT_PREPARED, s)
  else
    match s.live.child with
    | some _ =>
      let s := (s.stop now).2
      (.ok (), { s with between := s.between + 1 })
    | none => s.restarted c now

/-- `invoke`, up to its await. -/
def Simulation.invoke (s : Simulation) (now : Nat) : Except SimReason Unit × Simulation :=
  if s.held = false then (.error .NOT_PREPARED, s)
  else
    (.ok (), { s with live := s.live.emit .CRE_SIM_TRIGGER_RECEIVED now
                      children := s.children ++ [.spawned .invocation] })

def Simulation.destroy (s : Simulation) : Simulation :=
  if s.held = false then s else { s with children := s.kill, held := false }

/-! ## 4. Any order of calls and events -/

/-- A turn: a call, or a burner that was resolved or not, or a restart that goes on, or an event of
    the `k`th child. -/
inductive Action where
  | start (now : Nat)
  | stop (now : Nat)
  | restart (now : Nat)
  | destroy
  | invoke (now : Nat)
  | burner (resolved : Bool) (now : Nat)
  | goOn (now : Nat)
  | output (k : Nat) (text : String) (now : Nat)
  | exit (k : Nat) (code : Option Int) (now : Nat)

/-- What an output of the `k`th child leaves. -/
def Simulation.said (s : Simulation) (k : Nat) (child : Child) (text : String) (now : Nat) :
    Simulation :=
  { s with live := s.live.onData child.kind text now
           children := s.children.set k { child with asked := child.asked || asks text } }

/-- What the exit of the `k`th child leaves. -/
def Simulation.gone (s : Simulation) (k : Nat) (child : Child) (code : Option Int) (now : Nat) :
    Simulation :=
  { s with children := s.children.set k { child with alive := false }
           live := match child.kind with
             | .session => s.live.exited code now
             | .invocation => s.live.invoked code now }

def step (c : Setup) (s : Simulation) : Action → Option Simulation
  | .start now => some { (s.start c now).2 with stopped := false }
  | .stop now =>
    match s.stop now with
    | (.ok _, t) => some { t with stopped := true }
    | (.error _, t) => some t
  | .restart now => some { (s.restart c now).2 with stopped := false }
  | .destroy => some s.destroy
  | .invoke now => some (s.invoke now).2
  | .burner resolved now =>
    if s.waiting = 0 then none
    else
      let s := { s with waiting := s.waiting - 1 }
      some (if resolved then s.spawn now else s)
  | .goOn now =>
    if s.between = 0 then none
    else some (Simulation.restarted { s with between := s.between - 1 } c now).2
  | .output k text now => (s.children[k]?).map fun child => s.said k child text now
  | .exit k code now =>
    match s.children[k]? with
    | some child => if child.alive then some (s.gone k child code now) else none
    | none => none

/-! ## 5. The supervisor -/

structure SupervisorPolicy where
  staleAfterMs : Int
  maxRestarts : Int
  restartWindowMs : Int

structure Supervised where
  state : SimState
  reason : Option String
  shouldRestart : Bool

def codeText : Option Int → String
  | none => "null"
  | some code => toString code

def superviseState (session : SimulationSession) (nowMs : Int) (policy : SupervisorPolicy) :
    Supervised :=
  match session.state with
  | .AUTH_REQUIRED =>
    ⟨.AUTH_REQUIRED, some "the CRE CLI needs authentication; restarting will not fix it", false⟩
  | .CRASHED =>
    let canRestart : Bool := session.restarts < policy.maxRestarts
    let exited := "exited with code " ++ codeText session.exitCode
    ⟨.CRASHED,
      some (if canRestart then exited
        else exited ++ "; " ++ toString session.restarts ++ " restarts already, not retrying"),
      canRestart⟩
  | .RUNNING =>
    match session.lastEventAtMs with
    | some last =>
      if policy.staleAfterMs < nowMs - last then
        ⟨.STALE, some ("no simulator output for " ++ toString ((nowMs - last + 500) / 1000) ++ "s"),
          false⟩
      else ⟨.RUNNING, none, false⟩
    | none => ⟨.RUNNING, none, false⟩
  | state => ⟨state, none, false⟩

theorem crashed_of_shouldRestart {session : SimulationSession} {nowMs : Int}
    {policy : SupervisorPolicy} (h : (superviseState session nowMs policy).shouldRestart = true) :
    session.state = .CRASHED ∧ session.restarts < policy.maxRestarts := by
  unfold superviseState at h
  split at h
  · cases h
  · exact ⟨by assumption, of_decide_eq_true h⟩
  · split at h
    · split at h
      · cases h
      · cases h
    · cases h
  · cases h

/-! ## 6. The law -/

/-- A session's child that was not killed. -/
def Child.running (child : Child) : Bool :=
  child.kind = .session && child.alive && !child.killed

/-- The `k`th child belongs to the session and was stopped or superseded. -/
def Simulation.released (s : Simulation) (k : Nat) : Bool :=
  match s.children[k]? with
  | some child => child.kind = .session && (child.killed || s.current != some k)
  | none => false

/-- An event of a released child changes neither the state nor the tracked child, while the
    provider holds the simulation. -/
def Kept (s : Simulation) (a : Action) (s' : Simulation) : Prop :=
  match a with
  | .output k _ _ | .exit k _ _ =>
    s.held = true → s.released k = true →
      s'.live.session.state = s.live.session.state ∧ s'.live.child = s.live.child
  | _ => True

/-- At most one child runs; after a stop the state is `STOPPED` and no restart is asked for; a login
    is reported where the current child asked for it. -/
structure Lawful (s : Simulation) : Prop where
  one : ∀ i j : Nat, ∀ x ∈ s.children[i]?, ∀ y ∈ s.children[j]?,
    x.running = true → y.running = true → i = j
  stopped : s.held = true → s.stopped = true → s.live.session.state = .STOPPED ∧
    ∀ nowMs policy, (superviseState s.live.session nowMs policy).shouldRestart = false
  login : s.held = true → s.live.session.state = .AUTH_REQUIRED →
    ∃ k, s.current = some k ∧ ∃ child ∈ s.children[k]?, child.asked = true

/-- **The condition on a turn**, in the state before it. A burner is resolved while no child runs,
    and after no stop; a restart goes on after no stop. A child asks for a login after no stop, and,
    if it was released, where the state says so already. The exit of a released child finds no child
    tracked and the state that its code stands for; that of the current child finds no prompt but
    its own. -/
def Meets (s : Simulation) : Action → Bool
  | .burner resolved _ =>
    !resolved || s.children.all (!·.running) && !(s.held && s.stopped)
  | .goOn _ => !(s.held && s.stopped)
  | .output k text _ =>
    match s.children[k]? with
    | some child =>
      !(child.kind = .session && s.held && asks text) ||
        !s.stopped && (!s.released k || s.live.session.state = .AUTH_REQUIRED)
    | none => true
  | .exit k code _ =>
    match s.children[k]? with
    | some child =>
      !(child.kind = .session && s.held) ||
        if s.released k then
          s.live.child = none &&
            if s.live.sawAuthPrompt then s.live.session.state = .AUTH_REQUIRED
            else if code = some 0 then s.live.session.state = .STOPPED
            else s.live.session.state = .CRASHED
        else !s.live.sawAuthPrompt || child.asked
    | none => true
  | _ => true

/-- What a run that meets the condition keeps: a child that runs is the tracked one, and after a
    stop none is tracked. -/
structure Sound (s : Simulation) : Prop extends Lawful s where
  tracked : s.held = true → ∀ k : Nat, ∀ child ∈ s.children[k]?, child.running = true →
    s.live.child = some k
  untracked : s.held = true → s.stopped = true → s.live.child = none

theorem sound_prepared : Sound .prepared where
  one i j x hx := by cases hx
  stopped _ h := by cases h
  login _ h := by cases h
  tracked _ k x hx := by cases hx
  untracked _ h := by cases h

/-! ## 7. What the handlers write -/

section Handlers

variable (l : Live) (kind : ChildKind) (text line : String) (code : Option Int) (now : Nat)

@[simp] theorem Live.emit_child {type : SimulationEventType} :
    (l.emit type now).child = l.child := rfl
@[simp] theorem Live.emit_state {type : SimulationEventType} :
    (l.emit type now).session.state = l.session.state := rfl
@[simp] theorem Live.emit_saw {type : SimulationEventType} :
    (l.emit type now).sawAuthPrompt = l.sawAuthPrompt := rfl
@[simp] theorem Live.setState_child {state : SimState} : (l.setState state).child = l.child := rfl
@[simp] theorem Live.setState_state {state : SimState} :
    (l.setState state).session.state = state := rfl

theorem Live.onLine_writes : (Live.onLine kind now l line).child = l.child ∧
    (Live.onLine kind now l line).session.state =
      if kind = .session ∧ asksLogin line = true then .AUTH_REQUIRED else l.session.state := by
  unfold Live.onLine asksLogin
  dsimp only
  by_cases hempty : trim line = ""
  · simp [hempty]
  · by_cases hauth : test AUTH_PATTERNS (trim line) = true
    · cases kind with
      | session | invocation => simp [hempty, hauth, Live.prompted]
    · rw [if_neg hempty, if_neg hauth]
      cases hfound : RESULT_PATTERNS.find? fun p => test p.1 (trim line) with
      | none => simp [hauth]
      | some p => simp [hauth]

theorem Live.onData_writes : (l.onData kind text now).child = l.child ∧
    (l.onData kind text now).session.state =
      if kind = .session ∧ asks text = true then .AUTH_REQUIRED else l.session.state := by
  unfold Live.onData asks
  induction linesOf text generalizing l with
  | nil => simp
  | cons line rest ih =>
    obtain ⟨hchild, hstate⟩ := ih (Live.onLine kind now l line)
    obtain ⟨hchild', hstate'⟩ := l.onLine_writes kind line now
    refine ⟨hchild.trans hchild', ?_⟩
    rw [List.foldl_cons, hstate, hstate', List.any_cons]
    by_cases hkind : kind = .session
    · by_cases hline : asksLogin line = true
      · simp [hkind, hline]
      · simp [hkind, hline]
    · simp [hkind]

theorem Live.invoked_writes : (l.invoked code now).child = l.child ∧
    (l.invoked code now).session.state = l.session.state := by
  unfold Live.invoked
  split
  · exact ⟨rfl, rfl⟩
  · exact ⟨rfl, rfl⟩

end Handlers

/-! ## 8. Which children run -/

section Children

variable {s : Simulation} {k i : Nat} {child x : Child} {text : String} {code : Option Int}
  {now : Nat}

theorem Sound.none_running (h : Sound s) (hheld : s.held = true) (hchild : s.live.child = none) :
    ∀ x ∈ s.children, x.running = false := by
  intro x hx
  obtain ⟨i, hi⟩ := List.mem_iff_getElem?.mp hx
  refine Bool.eq_false_of_not_eq_true fun hrun => ?_
  have htracked := h.tracked hheld i x hi hrun
  rw [hchild] at htracked
  cases htracked

theorem running_kill (hx : x ∈ s.kill[i]?) (hrun : x.running = true) :
    x ∈ s.children[i]? ∧ s.live.child ≠ some i := by
  unfold Simulation.kill at hx
  cases hchild : s.live.child with
  | none =>
    simp only [hchild] at hx
    exact ⟨hx, by simp⟩
  | some j =>
    simp only [hchild, List.getElem?_modify, Option.mem_def, Option.map_eq_map,
      Option.map_eq_some_iff] at hx
    obtain ⟨y, hy, hyx⟩ := hx
    by_cases hij : j = i
    · rw [if_pos hij] at hyx
      rw [← hyx] at hrun
      simp [Child.running] at hrun
    · rw [if_neg hij] at hyx
      rw [← hyx]
      exact ⟨hy, by simpa using hij⟩

theorem running_said (hget : s.children[k]? = some child)
    (hx : x ∈ (s.said k child text now).children[i]?) (hrun : x.running = true) :
    ∃ y ∈ s.children[i]?, y.running = true := by
  unfold Simulation.said at hx
  rcases cases_of_getElem?_set hx with hnew | hold
  · rw [hnew.2] at hrun
    exact ⟨child, by rw [← hnew.1]; exact hget, hrun⟩
  · exact ⟨x, hold.2, hrun⟩

theorem running_gone (hx : x ∈ (s.gone k child code now).children[i]?) (hrun : x.running = true) :
    x ∈ s.children[i]? ∧ i ≠ k := by
  unfold Simulation.gone at hx
  rcases cases_of_getElem?_set hx with hnew | hold
  · rw [hnew.2] at hrun
    simp [Child.running] at hrun
  · exact ⟨hold.2, hold.1.symm⟩

def Simulation.asked (s : Simulation) : Prop :=
  ∃ k, s.current = some k ∧ ∃ child ∈ s.children[k]?, child.asked = true

theorem asked_set {y : Child} (hget : s.children[k]? = some child)
    (hy : child.asked = true → y.asked = true) (h : s.asked) :
    ∃ j, s.current = some j ∧ ∃ x ∈ (s.children.set k y)[j]?, x.asked = true := by
  obtain ⟨j, hcurrent, x, hx, hasked⟩ := h
  refine ⟨j, hcurrent, ?_⟩
  by_cases hkj : k = j
  · have hlt : k < s.children.length := (List.getElem?_eq_some_iff.mp hget).1
    rw [← hkj, Option.mem_def, hget, Option.some.injEq] at hx
    rw [← hx] at hasked
    rw [← hkj, List.getElem?_set_self hlt]
    exact ⟨y, rfl, hy hasked⟩
  · rw [List.getElem?_set_ne hkj]
    exact ⟨x, hx, hasked⟩

theorem released_eq (hget : s.children[k]? = some child) : s.released k = true ↔
    child.kind = .session ∧ (child.killed = true ∨ s.current ≠ some k) := by
  simp [Simulation.released, hget]

theorem Sound.tracked_of_not_released (h : Sound s) (hheld : s.held = true)
    (hget : s.children[k]? = some child) (hkind : child.kind = .session)
    (halive : child.alive = true) (hreleased : ¬ s.released k = true) :
    s.live.child = some k ∧ s.current = some k := by
  rw [released_eq hget] at hreleased
  have hnot : ¬ child.killed = true ∧ s.current = some k := by
    by_cases hkilled : child.killed = true
    · exact absurd ⟨hkind, .inl hkilled⟩ hreleased
    · refine ⟨hkilled, ?_⟩
      by_contra hcurrent
      exact hreleased ⟨hkind, .inr hcurrent⟩
  refine ⟨h.tracked hheld k child hget ?_, hnot.2⟩
  simp [Child.running, hkind, halive, hnot.1]

end Children

/-! ## 9. The calls -/

section Calls

variable {s : Simulation} {c : Setup} {now : Nat}

theorem not_restarted {session : SimulationSession} (h : session.state = .STOPPED) (nowMs : Int)
    (policy : SupervisorPolicy) : (superviseState session nowMs policy).shouldRestart = false := by
  refine Bool.eq_false_of_not_eq_true fun hrestart => ?_
  have hcrashed := (crashed_of_shouldRestart hrestart).1
  rw [h] at hcrashed
  cases hcrashed

theorem Sound.waits (h : Sound s) (waiting between : Nat) :
    Sound { s with waiting := waiting, between := between } :=
  ⟨⟨h.one, h.stopped, h.login⟩, h.tracked, h.untracked⟩

theorem Sound.called (h : Sound s) : Sound { s with stopped := false } :=
  ⟨⟨h.one, fun _ hstop => (by cases hstop), h.login⟩, h.tracked, fun _ hstop => (by cases hstop)⟩

theorem Sound.write {l : Live} (h : Sound s) (hchild : l.child = s.live.child)
    (hstate : l.session.state ≠ .AUTH_REQUIRED) (hstop : s.held = true → s.stopped = false) :
    Sound { s with live := l } := by
  refine ⟨⟨h.one, fun hheld hstopped => ?_, fun _ hauth => absurd hauth hstate⟩,
    fun hheld k child hget hrun => hchild.trans (h.tracked hheld k child hget hrun),
    fun hheld hstopped => hchild.trans (h.untracked hheld hstopped)⟩
  rw [hstop hheld] at hstopped
  cases hstopped

/-- **A spawn** is sound where no child runs, after no stop. -/
theorem sound_spawn (hnone : ∀ x ∈ s.children, x.running = false)
    (hstop : s.held = true → s.stopped = false) : Sound (s.spawn now) := by
  have hnew : ∀ i : Nat, ∀ x ∈ (s.spawn now).children[i]?, x.running = true →
      i = s.children.length := by
    intro i x hx hrun
    have hx' : (s.children ++ [Child.spawned .session])[i]? = some x := hx
    rcases cases_of_getElem?_concat hx' with hold | hlast
    · rw [hnone x (List.mem_of_getElem? hold)] at hrun
      cases hrun
    · exact hlast.1
  refine ⟨⟨fun i j x hx y hy hi hj => ?_, fun hheld hstopped => ?_, fun _ hauth => ?_⟩,
    fun _ k x hx hrun => ?_, fun hheld hstopped => ?_⟩
  · rw [hnew i x hx hi, hnew j y hy hj]
  · have hclear : s.stopped = false := hstop hheld
    have hset : s.stopped = true := hstopped
    rw [hclear] at hset
    cases hset
  · cases hauth
  · rw [hnew k x hx hrun]
    rfl
  · have hclear : s.stopped = false := hstop hheld
    have hset : s.stopped = true := hstopped
    rw [hclear] at hset
    cases hset

theorem sound_start (h : Sound s) (hstop : s.held = true → s.stopped = false) :
    Sound (s.start c now).2 := by
  unfold Simulation.start
  by_cases hheld : s.held = false
  · rw [if_pos hheld]
    exact h
  rw [if_neg hheld]
  cases hchild : s.live.child with
  | some k => exact h
  | none =>
    dsimp only
    have hwritten : Sound { s with live := s.live.setState .STARTING } :=
      h.write rfl (by simp) hstop
    by_cases hawaits : c.awaitsBurner = true
    · rw [if_pos hawaits]
      exact hwritten.waits _ _
    · rw [if_neg hawaits]
      exact sound_spawn (h.none_running (Bool.eq_true_of_not_eq_false hheld) hchild) hstop

theorem sound_restarted (h : Sound s) (hstop : s.held = true → s.stopped = false) :
    Sound (s.restarted c now).2 := by
  unfold Simulation.restarted
  exact sound_start (h.write rfl (by simp) hstop) hstop

/-- **A stop**, whether it is called or belongs to a restart. -/
theorem sound_stop (h : Sound s) (hheld : s.held = true) (stopped : Bool) :
    Sound { (s.stop now).2 with stopped := stopped } := by
  have hnot : ¬ s.held = false := by simp [hheld]
  simp only [Simulation.stop, if_neg hnot]
  have hkilled : ∀ i : Nat, ∀ x ∈ s.kill[i]?, ¬ x.running = true := by
    intro i x hx hrun
    obtain ⟨hold, huntracked⟩ := running_kill hx hrun
    exact huntracked (h.tracked hheld i x hold hrun)
  exact ⟨⟨fun i _ x hx _ _ hi _ => absurd hi (hkilled i x hx), fun _ _ => ⟨rfl, not_restarted rfl⟩,
    fun _ hauth => (by cases hauth)⟩, fun _ i x hx hi => absurd hi (hkilled i x hx), fun _ _ => rfl⟩

theorem sound_destroy (h : Sound s) : Sound s.destroy := by
  unfold Simulation.destroy
  by_cases hheld : s.held = false
  · rw [if_pos hheld]
    exact h
  rw [if_neg hheld]
  refine ⟨⟨fun i j x hx y hy hi hj => ?_, fun hfalse => ?_, fun hfalse => ?_⟩, fun hfalse => ?_,
    fun hfalse => ?_⟩
  · exact h.one i j x (running_kill hx hi).1 y (running_kill hy hj).1 hi hj
  all_goals cases hfalse

theorem sound_invoke (h : Sound s) : Sound (s.invoke now).2 := by
  unfold Simulation.invoke
  by_cases hheld : s.held = false
  · rw [if_pos hheld]
    exact h
  rw [if_neg hheld]
  have hold : ∀ i : Nat, ∀ x ∈ (s.children ++ [Child.spawned .invocation])[i]?,
      x.running = true → x ∈ s.children[i]? := by
    intro i x hx hrun
    rcases cases_of_getElem?_concat hx with hold | hlast
    · exact hold
    · rw [hlast.2] at hrun
      cases hrun
  refine ⟨⟨fun i j x hx y hy hi hj => h.one i j x (hold i x hx hi) y (hold j y hy hj) hi hj,
    fun hheld hstopped => ?_, fun hheld hauth => ?_⟩,
    fun hheld i x hx hi => h.tracked hheld i x (hold i x hx hi) hi, h.untracked⟩
  · have hstate := (h.stopped hheld hstopped).1
    exact ⟨hstate, not_restarted hstate⟩
  · obtain ⟨k, hcurrent, x, hx, hasked⟩ := h.login hheld hauth
    exact ⟨k, hcurrent, x, getElem?_concat_of_some hx, hasked⟩

end Calls

/-! ## 10. The events -/

section Events

variable {s : Simulation} {k : Nat} {child : Child} {text : String} {code : Option Int} {now : Nat}

theorem meets_output_iff (hget : s.children[k]? = some child) :
    Meets s (.output k text now) = true ↔
      (child.kind = .session → s.held = true → asks text = true →
        s.stopped = false ∧ (s.released k = true → s.live.session.state = .AUTH_REQUIRED)) := by
  simp only [Meets, hget, Bool.or_eq_true, Bool.not_eq_true', Bool.and_eq_true,
    Bool.and_eq_false_iff, decide_eq_true_eq, decide_eq_false_iff_not]
  cases hkind : child.kind with
  | invocation => simp
  | session =>
    cases s.held with
    | false => simp
    | true =>
      cases asks text with
      | false => simp
      | true =>
        cases s.released k with
        | false => simp
        | true => simp

/-- **An output** keeps the law exactly where it meets the condition. -/
theorem sound_said (h : Sound s) (hget : s.children[k]? = some child)
    (hmeets : Meets s (.output k text now) = true) :
    Sound (s.said k child text now) ∧
      Kept s (.output k text now) (s.said k child text now) := by
  rw [meets_output_iff hget] at hmeets
  obtain ⟨hchild, hstate⟩ := s.live.onData_writes child.kind text now
  have hone : ∀ i j : Nat, ∀ x ∈ (s.said k child text now).children[i]?,
      ∀ y ∈ (s.said k child text now).children[j]?, x.running = true → y.running = true →
      i = j := by
    intro i j x hx y hy hi hj
    obtain ⟨x', hx', hi'⟩ := running_said hget hx hi
    obtain ⟨y', hy', hj'⟩ := running_said hget hy hj
    exact h.one i j x' hx' y' hy' hi' hj'
  have htracked : s.held = true → ∀ i : Nat, ∀ x ∈ (s.said k child text now).children[i]?,
      x.running = true → (s.live.onData child.kind text now).child = some i := by
    intro hheld i x hx hi
    obtain ⟨x', hx', hi'⟩ := running_said hget hx hi
    exact hchild.trans (h.tracked hheld i x' hx' hi')
  have huntracked : s.held = true → s.stopped = true →
      (s.live.onData child.kind text now).child = none :=
    fun hheld hstopped => hchild.trans (h.untracked hheld hstopped)
  have hasked : s.asked → (s.said k child text now).asked :=
    asked_set hget fun htrue => by simp [htrue]
  by_cases hprompt : child.kind = .session ∧ asks text = true
  · rw [if_pos hprompt] at hstate
    refine ⟨⟨⟨hone, fun hheld hstopped => ?_, fun hheld _ => ?_⟩, htracked, huntracked⟩,
      fun hheld hreleased => ⟨?_, hchild⟩⟩
    · have hclear : s.stopped = false := (hmeets hprompt.1 hheld hprompt.2).1
      have hset : s.stopped = true := hstopped
      rw [hclear] at hset
      cases hset
    · by_cases hreleased : s.released k = true
      · exact hasked (h.login hheld ((hmeets hprompt.1 hheld hprompt.2).2 hreleased))
      · have hcurrent : s.current = some k := by
          by_contra hother
          exact hreleased ((released_eq hget).mpr ⟨hprompt.1, .inr hother⟩)
        have hlt : k < s.children.length := (List.getElem?_eq_some_iff.mp hget).1
        refine ⟨k, hcurrent, { child with asked := child.asked || asks text }, ?_, ?_⟩
        · exact List.getElem?_set_self hlt
        · simp [hprompt.2]
    · exact hstate.trans ((hmeets hprompt.1 hheld hprompt.2).2 hreleased).symm
  · rw [if_neg hprompt] at hstate
    refine ⟨⟨⟨hone, fun hheld hstopped => ?_, fun hheld hauth => ?_⟩, htracked, huntracked⟩,
      fun _ _ => ⟨hstate, hchild⟩⟩
    · have hstill := hstate.trans (h.stopped hheld hstopped).1
      exact ⟨hstill, not_restarted hstill⟩
    · exact hasked (h.login hheld (hstate.symm.trans hauth))

theorem meets_of_said (hget : s.children[k]? = some child)
    (hlawful : Lawful (s.said k child text now))
    (hkept : Kept s (.output k text now) (s.said k child text now)) :
    Meets s (.output k text now) = true := by
  rw [meets_output_iff hget]
  intro hkind hheld hasks
  obtain ⟨-, hstate⟩ := s.live.onData_writes child.kind text now
  rw [if_pos ⟨hkind, hasks⟩] at hstate
  refine ⟨Bool.eq_false_of_not_eq_true fun hstopped => ?_, fun hreleased => ?_⟩
  · have hstill : (s.live.onData child.kind text now).session.state = .STOPPED :=
      (hlawful.stopped hheld hstopped).1
    rw [hstate] at hstill
    cases hstill
  · have hsame : (s.live.onData child.kind text now).session.state = s.live.session.state :=
      (hkept hheld hreleased).1
    exact hsame.symm.trans hstate

def Simulation.atExit (s : Simulation) (code : Option Int) : SimState :=
  if s.live.sawAuthPrompt then .AUTH_REQUIRED else if code = some 0 then .STOPPED else .CRASHED

theorem meets_exit_iff (hget : s.children[k]? = some child) :
    Meets s (.exit k code now) = true ↔
      (child.kind = .session → s.held = true →
        if s.released k = true then s.live.child = none ∧ s.live.session.state = s.atExit code
        else s.live.sawAuthPrompt = true → child.asked = true) := by
  simp only [Meets, hget, Simulation.atExit]
  cases hkind : child.kind with
  | invocation => simp
  | session =>
    cases s.held with
    | false => simp
    | true =>
      cases s.released k with
      | false =>
        cases s.live.sawAuthPrompt with
        | false => simp
        | true => simp
      | true =>
        cases s.live.sawAuthPrompt with
        | true => simp
        | false =>
          by_cases hcode : code = some 0
          · simp [hcode]
          · simp [hcode]

/-- **An exit** keeps the law where it meets the condition. -/
theorem sound_gone (h : Sound s) (hget : s.children[k]? = some child) (halive : child.alive = true)
    (hmeets : Meets s (.exit k code now) = true) :
    Sound (s.gone k child code now) ∧ Kept s (.exit k code now) (s.gone k child code now) := by
  rw [meets_exit_iff hget] at hmeets
  have hone : ∀ i j : Nat, ∀ x ∈ (s.gone k child code now).children[i]?,
      ∀ y ∈ (s.gone k child code now).children[j]?, x.running = true → y.running = true →
      i = j := by
    intro i j x hx y hy hi hj
    exact h.one i j x (running_gone hx hi).1 y (running_gone hy hj).1 hi hj
  have hasked : s.asked → (s.gone k child code now).asked := asked_set hget fun htrue => htrue
  cases hkind : child.kind with
  | invocation =>
    have hlive : (s.gone k child code now).live = s.live.invoked code now := by
      simp only [Simulation.gone, hkind]
    obtain ⟨hchild, hstate⟩ := s.live.invoked_writes code now
    rw [← hlive] at hchild hstate
    refine ⟨⟨⟨hone, fun hheld hstopped => ?_, fun hheld hauth => ?_⟩,
      fun hheld i x hx hi => ?_, fun hheld hstopped => ?_⟩, fun _ _ => ⟨hstate, hchild⟩⟩
    · have hstill := hstate.trans (h.stopped hheld hstopped).1
      exact ⟨hstill, not_restarted hstill⟩
    · exact hasked (h.login hheld (hstate.symm.trans hauth))
    · exact hchild.trans (h.tracked hheld i x (running_gone hx hi).1 hi)
    · exact hchild.trans (h.untracked hheld hstopped)
  | session =>
    have hlive : (s.gone k child code now).live = s.live.exited code now := by
      simp only [Simulation.gone, hkind]
    have hchild : (s.gone k child code now).live.child = none := by
      rw [hlive]
      rfl
    have hstate : (s.gone k child code now).live.session.state = s.atExit code := by
      rw [hlive]
      rfl
    -- no child runs once the record tracks none
    have hnone : s.held = true → ∀ i : Nat, ∀ x ∈ (s.gone k child code now).children[i]?,
        ¬ x.running = true := by
      intro hheld i x hx hi
      obtain ⟨hold, hne⟩ := running_gone hx hi
      have htracked := h.tracked hheld i x hold hi
      have hrule := hmeets hkind hheld
      by_cases hreleased : s.released k = true
      · rw [if_pos hreleased, htracked] at hrule
        cases hrule.1
      · have hthis := (h.tracked_of_not_released hheld hget hkind halive hreleased).1
        rw [htracked, Option.some.injEq] at hthis
        exact hne hthis
    refine ⟨⟨⟨hone, fun hheld hstopped => ?_, fun hheld hauth => ?_⟩,
      fun hheld i x hx hi => absurd hi (hnone hheld i x hx), fun _ _ => hchild⟩,
      fun hheld hreleased => ?_⟩
    · have hrule := hmeets hkind hheld
      by_cases hreleased : s.released k = true
      · rw [if_pos hreleased] at hrule
        have hstill := hstate.trans (hrule.2.symm.trans (h.stopped hheld hstopped).1)
        exact ⟨hstill, not_restarted hstill⟩
      · have hthis := (h.tracked_of_not_released hheld hget hkind halive hreleased).1
        rw [h.untracked hheld hstopped] at hthis
        cases hthis
    · have hrule := hmeets hkind hheld
      by_cases hreleased : s.released k = true
      · rw [if_pos hreleased] at hrule
        exact hasked (h.login hheld (hrule.2.trans (hstate.symm.trans hauth)))
      · rw [if_neg hreleased] at hrule
        have hcurrent := (h.tracked_of_not_released hheld hget hkind halive hreleased).2
        have hsaw : s.live.sawAuthPrompt = true := by
          by_contra hnot
          rw [hstate, Simulation.atExit, if_neg hnot] at hauth
          split at hauth
          · cases hauth
          · cases hauth
        exact hasked ⟨k, hcurrent, child, hget, hrule hsaw⟩
    · have hrule := hmeets hkind hheld
      rw [if_pos hreleased] at hrule
      exact ⟨hstate.trans hrule.2.symm, hchild.trans hrule.1.symm⟩

theorem meets_of_gone (h : Sound s) (hget : s.children[k]? = some child)
    (halive : child.alive = true) (hlawful : Lawful (s.gone k child code now))
    (hkept : Kept s (.exit k code now) (s.gone k child code now)) :
    Meets s (.exit k code now) = true := by
  rw [meets_exit_iff hget]
  intro hkind hheld
  have hlive : (s.gone k child code now).live = s.live.exited code now := by
    simp only [Simulation.gone, hkind]
  have hstate : (s.gone k child code now).live.session.state = s.atExit code := by
    rw [hlive]
    rfl
  by_cases hreleased : s.released k = true
  · rw [if_pos hreleased]
    obtain ⟨hsame, hchild⟩ := hkept hheld hreleased
    rw [hlive] at hchild
    exact ⟨hchild.symm, hsame.symm.trans hstate⟩
  · rw [if_neg hreleased]
    intro hsaw
    have hauth : s.atExit code = .AUTH_REQUIRED := by rw [Simulation.atExit, if_pos hsaw]
    obtain ⟨j, hcurrent, x, hx, hasked⟩ := hlawful.login hheld (hstate.trans hauth)
    have hthis := (h.tracked_of_not_released hheld hget hkind halive hreleased).2
    have hj : k = j := Option.some.inj (hthis.symm.trans hcurrent)
    rcases cases_of_getElem?_set hx with hnew | hold
    · rw [hnew.2] at hasked
      exact hasked
    · exact absurd hj hold.1

end Events

/-! ## 11. One turn, and whole runs -/

section Turns

variable {c : Setup} {s s' : Simulation} {a : Action}

theorem start_clears (now : Nat) : { (s.start c now).2 with stopped := false } =
    (Simulation.start { s with stopped := false } c now).2 := by
  unfold Simulation.start
  by_cases hheld : s.held = false
  · simp only [if_pos hheld]
  · simp only [if_neg hheld]
    cases s.live.child with
    | some k => rfl
    | none =>
      by_cases hawaits : c.awaitsBurner = true
      · simp only [if_pos hawaits]
      · simp only [if_neg hawaits]
        rfl

/-- **A turn that meets the condition** keeps the law. -/
theorem sound_step (h : Sound s) (hstep : step c s a = some s') (hmeets : Meets s a = true) :
    Sound s' ∧ Kept s a s' := by
  cases a with
  | start now =>
    rw [← Option.some.inj hstep, start_clears]
    exact ⟨sound_start h.called fun _ => rfl, trivial⟩
  | stop now =>
    refine ⟨?_, trivial⟩
    simp only [step] at hstep
    by_cases hheld : s.held = false
    · simp only [Simulation.stop, if_pos hheld] at hstep
      rw [← Option.some.inj hstep]
      exact h
    · have hstop : Sound { (s.stop now).2 with stopped := true } :=
        sound_stop h (Bool.eq_true_of_not_eq_false hheld) true
      simp only [Simulation.stop, if_neg hheld] at hstep hstop
      rw [← Option.some.inj hstep]
      exact hstop
  | restart now =>
    refine ⟨?_, trivial⟩
    rw [← Option.some.inj hstep]
    unfold Simulation.restart
    by_cases hheld : s.held = false
    · rw [if_pos hheld]
      exact h.called
    rw [if_neg hheld]
    cases hchild : s.live.child with
    | some k =>
      have hstop : Sound { (s.stop now).2 with stopped := false } :=
        sound_stop h (Bool.eq_true_of_not_eq_false hheld) false
      exact hstop.waits _ _
    | none =>
      dsimp only
      unfold Simulation.restarted
      rw [start_clears]
      exact sound_start (h.called.write rfl (by simp) fun _ => rfl) fun _ => rfl
  | destroy =>
    rw [← Option.some.inj hstep]
    exact ⟨sound_destroy h, trivial⟩
  | invoke now =>
    rw [← Option.some.inj hstep]
    exact ⟨sound_invoke h, trivial⟩
  | burner resolved now =>
    refine ⟨?_, trivial⟩
    simp only [step] at hstep
    split at hstep
    · cases hstep
    · rw [← Option.some.inj hstep]
      cases resolved with
      | false => exact h.waits _ _
      | true =>
        simp only [Meets, Bool.not_true, Bool.false_or, Bool.and_eq_true, List.all_eq_true,
          Bool.not_eq_true'] at hmeets
        refine sound_spawn hmeets.1 fun hheld => ?_
        have hclear : (s.held && s.stopped) = false := hmeets.2
        have hsome : s.held = true := hheld
        rwa [hsome, Bool.true_and] at hclear
  | goOn now =>
    refine ⟨?_, trivial⟩
    simp only [step] at hstep
    split at hstep
    · cases hstep
    · rw [← Option.some.inj hstep]
      refine sound_restarted (h.waits _ _) fun hheld => ?_
      simp only [Meets, Bool.not_eq_true'] at hmeets
      have hsome : s.held = true := hheld
      rwa [hsome, Bool.true_and] at hmeets
  | output k text now =>
    simp only [step, Option.map_eq_some_iff] at hstep
    obtain ⟨child, hget, rfl⟩ := hstep
    exact sound_said h hget hmeets
  | exit k code now =>
    simp only [step] at hstep
    cases hget : s.children[k]? with
    | none =>
      rw [hget] at hstep
      cases hstep
    | some child =>
      simp only [hget] at hstep
      by_cases halive : child.alive = true
      · rw [if_pos halive, Option.some.injEq] at hstep
        rw [← hstep]
        exact sound_gone h hget halive hmeets
      · rw [if_neg halive] at hstep
        cases hstep

theorem meets_of_spawn (now : Nat) (hlawful : Lawful (s.spawn now)) :
    (∀ x ∈ s.children, x.running = false) ∧ (s.held && s.stopped) = false := by
  have hnew : (s.children ++ [Child.spawned .session])[s.children.length]? =
      some (.spawned .session) := by
    rw [List.getElem?_append_right (Nat.le_refl _), Nat.sub_self]
    rfl
  constructor
  · intro x hx
    refine Bool.eq_false_of_not_eq_true fun hrun => ?_
    obtain ⟨i, hi⟩ := List.mem_iff_getElem?.mp hx
    have hlt : i < s.children.length := (List.getElem?_eq_some_iff.mp hi).1
    have hsame : i = s.children.length := by
      refine hlawful.one i _ x ?_ _ hnew hrun rfl
      exact (List.getElem?_append_left hlt).trans hi
    omega
  · refine Bool.eq_false_of_not_eq_true fun hboth => ?_
    rw [Bool.and_eq_true] at hboth
    have hstate : (s.spawn now).live.session.state = .STOPPED :=
      (hlawful.stopped hboth.1 hboth.2).1
    cases hstate

theorem restarted_state (now : Nat) :
    (s.restarted c now).2.live.session.state ≠ .STOPPED := by
  unfold Simulation.restarted Simulation.start
  dsimp only
  split
  · simp
  · split
    · simp
    · split
      · simp
      · simp [Simulation.spawn]

theorem start_keeps (now : Nat) : (s.start c now).2.held = s.held ∧
    (s.start c now).2.stopped = s.stopped := by
  unfold Simulation.start
  split
  · exact ⟨rfl, rfl⟩
  · split
    · exact ⟨rfl, rfl⟩
    · dsimp only
      split
      · exact ⟨rfl, rfl⟩
      · exact ⟨rfl, rfl⟩

/-- **One turn.** Where a run that meets the condition has led, a turn keeps the law exactly if it
    meets the condition. -/
theorem lawful_step_iff (h : Sound s) (hstep : step c s a = some s') :
    Lawful s' ∧ Kept s a s' ↔ Meets s a = true := by
  refine ⟨fun hafter => ?_, fun hmeets => ?_⟩
  · obtain ⟨hlawful, hkept⟩ := hafter
    cases a with
    | start now => rfl
    | stop now => rfl
    | restart now => rfl
    | destroy => rfl
    | invoke now => rfl
    | burner resolved now =>
      cases resolved with
      | false => rfl
      | true =>
        simp only [step] at hstep
        split at hstep
        · cases hstep
        · rw [← Option.some.inj hstep] at hlawful
          obtain ⟨hnone, hstop⟩ := meets_of_spawn now hlawful
          have hnone' : ∀ x ∈ s.children, x.running = false := hnone
          have hstop' : (s.held && s.stopped) = false := hstop
          simp only [Meets, Bool.not_true, Bool.false_or, Bool.and_eq_true, List.all_eq_true,
            Bool.not_eq_true']
          exact ⟨hnone', hstop'⟩
    | goOn now =>
      simp only [step] at hstep
      split at hstep
      · cases hstep
      · rw [← Option.some.inj hstep] at hlawful
        simp only [Meets, Bool.not_eq_true']
        refine Bool.eq_false_of_not_eq_true fun hboth => ?_
        rw [Bool.and_eq_true] at hboth
        refine restarted_state now (hlawful.stopped ?_ ?_).1
        · exact (start_keeps now).1.trans hboth.1
        · exact (start_keeps now).2.trans hboth.2
    | output k text now =>
      simp only [step, Option.map_eq_some_iff] at hstep
      obtain ⟨child, hget, rfl⟩ := hstep
      exact meets_of_said hget hlawful hkept
    | exit k code now =>
      simp only [step] at hstep
      cases hget : s.children[k]? with
      | none =>
        rw [hget] at hstep
        cases hstep
      | some child =>
        simp only [hget] at hstep
        by_cases halive : child.alive = true
        · rw [if_pos halive, Option.some.injEq] at hstep
          rw [← hstep] at hlawful hkept
          exact meets_of_gone h hget halive hlawful hkept
        · rw [if_neg halive] at hstep
          cases hstep
  · obtain ⟨hsound, hkept⟩ := sound_step h hstep hmeets
    exact ⟨hsound.toLawful, hkept⟩

theorem sound_reaches (h : Reaches (guarded (step c) fun s a => Meets s a = true) .prepared s) :
    Sound s :=
  h.invariant (fun _ _ _ hs hstep =>
    (sound_step hs (guarded_eq_some.mp hstep).2 (guarded_eq_some.mp hstep).1).1) sound_prepared

end Turns

/-- **The law of the supervision**, for every setup: a run whose turns all meet the condition keeps
    it in every state and in every turn; and from where such a run has led, a turn keeps it exactly
    if it meets the condition. -/
theorem supervision_lawful (c : Setup) :
    (∀ s, Reaches (guarded (step c) fun s a => Meets s a = true) .prepared s →
      Lawful s ∧ ∀ a s', guarded (step c) (fun s a => Meets s a = true) s a = some s' →
        Kept s a s') ∧
    ∀ s a s', Reaches (guarded (step c) fun s a => Meets s a = true) .prepared s →
      step c s a = some s' → (Lawful s' ∧ Kept s a s' ↔ Meets s a = true) := by
  refine ⟨fun s h => ⟨(sound_reaches h).toLawful, fun a s' hturn => ?_⟩,
    fun s a s' h hstep => lawful_step_iff (sound_reaches h) hstep⟩
  obtain ⟨hmeets, hstep⟩ := guarded_eq_some.mp hturn
  exact (sound_step (sound_reaches h) hstep hmeets).2

/-! ## 12. Two runs -/

def dryRun : Setup := ⟨.DRY_RUN, false⟩

/-- The first child is stopped and exits cleanly; the second asks for a login and exits. -/
theorem supervision_lawful_twice : ∃ s,
    Reaches (guarded (step dryRun) fun s a => Meets s a = true) .prepared s ∧
      s.live.session.state = .AUTH_REQUIRED ∧ s.children.length = 2 ∧ Lawful s := by
  have hrun : (execute (guarded (step dryRun) fun s a => Meets s a = true) .prepared
      [.start 0, .stop 1, .exit 0 (some 0) 2, .start 3, .output 1 "please run cre login" 4,
        .exit 1 (some 1) 5]).map
      (fun s => (s.live.session.state, s.children.length)) = some (.AUTH_REQUIRED, 2) := by
    decide
  obtain ⟨s, h, hseen⟩ := reaches_of_observed _ _ hrun
  obtain ⟨hstate, hlength⟩ := Prod.mk.inj hseen
  exact ⟨s, h, hstate, hlength, ((supervision_lawful dryRun).1 s h).1⟩

/-- **A stop, and then a crash**: the exit of the child that was stopped brings no code, and the
    supervisor asks for a restart. -/
theorem stop_then_crashed : ∃ s, Reaches (step dryRun) .prepared s ∧
    s.held = true ∧ s.stopped = true ∧ s.live.session.state = .CRASHED ∧
      (superviseState s.live.session 3 ⟨120000, 3, 600000⟩).shouldRestart = true ∧ ¬ Lawful s := by
  have hrun : (execute (step dryRun) .prepared [.start 0, .stop 1, .exit 0 none 2]).map
      (fun s => (s.held, s.stopped, s.live.session.state,
        (superviseState s.live.session 3 ⟨120000, 3, 600000⟩).shouldRestart))
      = some (true, true, .CRASHED, true) := by
    decide
  obtain ⟨s, h, hseen⟩ := reaches_of_observed _ _ hrun
  simp only [Prod.mk.injEq] at hseen
  obtain ⟨hheld, hstopped, hstate, hrestart⟩ := hseen
  refine ⟨s, h, hheld, hstopped, hstate, hrestart, fun hlawful => ?_⟩
  have hstill := (hlawful.stopped hheld hstopped).1
  rw [hstate] at hstill
  cases hstill

end ContextLock.Simulator.Cli
