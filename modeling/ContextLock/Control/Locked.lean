/-
  Subject:   What a lock in force refuses.

  The checks know how to refuse what restores capability while a lock is in force, and the
  deployment knows that it was locked. The route does not tell the one what the other knows.
-/
import ContextLock.Control.Route

namespace ContextLock.Control

open Js Machine

/-! ## 1. The lock and its flag -/

def Plane.locked (s : Plane) : Bool :=
  s.commands.any fun row =>
    row.deploymentId = s.deploymentId && decide (row.operation = .EMERGENCY_LOCK)

section Flag

variable {s : Plane} {p : Post} {env : Instant} {cmd : ControlCommand} {d : Deployment}

theorem locked_append {row : CommandRow} {d' : Deployment} :
    Plane.locked { s with deployment := d', commands := s.commands ++ [row] } =
      (s.locked || (row.deploymentId = s.deploymentId && decide (row.operation = .EMERGENCY_LOCK))) := by
  simp [Plane.locked]

end Flag

/-! ## 2. What is carried out -/

/-- The request is accepted, and its command is carried out and not answered from the log. -/
def Executes (s : Plane) (p : Post) (env : Instant) (cmd : ControlCommand) : Prop :=
  admitted s p env = .ok cmd ∧ ∃ rows, beginCommand s.commands cmd = .inserted rows

/-- A command for an operation cannot come of the request: the fresh read fails, the actor has
    not the capability, the revision is not the current one, a field fails its check, a
    confirmation is missing, or the key or the id is in the log. -/
def Barred (s : Plane) (p : Post) (env : Instant) (operation : ControlOperation) : Prop :=
  env.refreshFails ≠ none ∨ operation.capability ∉ p.actor.capabilities ∨
    p.body.expectedRevision ≠ s.deployment.revision ∨
    (p.command s.deploymentId operation env).issues ≠ [] ∨
    (operation.destructive = true ∧ p.body.confirmation = none) ∨
    ∃ row ∈ s.commands,
      row.idempotencyKey = (p.command s.deploymentId operation env).idempotencyKey ∨
        row.commandId = (p.command s.deploymentId operation env).commandId

section Execution

variable {s : Plane} {p : Post} {env : Instant} {operation : ControlOperation}

/-- What a request for the operation makes valid. -/
theorem valid_command_iff : (p.command s.deploymentId operation env).Valid s.deployment.revision
    env.nowMs false ↔ (p.command s.deploymentId operation env).issues = [] ∧
      operation.capability ∈ p.actor.capabilities ∧
      p.body.expectedRevision = s.deployment.revision ∧
      ¬ (operation.destructive = true ∧ p.body.confirmation = none) := by
  constructor
  · intro h
    exact ⟨h.wellFormed, h.authorized, h.current, fun hc => h.confirmed hc.1 hc.2⟩
  · intro h
    obtain ⟨hissues, hcapability, hrevision, hconfirmed⟩ := h
    refine ⟨hissues, hcapability, ?_, hrevision, fun hd hn => hconfirmed ⟨hd, hn⟩,
      fun hlock => Bool.noConfusion hlock⟩
    show env.nowMs ≤ env.nowMs + 120000
    omega

theorem beginCommand_iff {rows : List CommandRow} {cmd : ControlCommand} :
    (∃ rows', beginCommand rows cmd = .inserted rows') ↔
      ¬ ∃ row ∈ rows, row.idempotencyKey = cmd.idempotencyKey ∨ row.commandId = cmd.commandId := by
  constructor
  · intro h
    obtain ⟨rows', h⟩ := h
    obtain ⟨hfind, hids, -⟩ := beginCommand_inserted h
    intro hrow
    obtain ⟨row, hmem, hkey | hid⟩ := hrow
    · have := List.find?_eq_none.mp hfind row hmem
      exact this (decide_eq_true hkey)
    · exact hids row hmem hid
  · intro h
    have hfind : rows.find? (·.idempotencyKey = cmd.idempotencyKey) = none :=
      List.find?_eq_none.mpr fun row hrow heq =>
        h ⟨row, hrow, Or.inl (of_decide_eq_true heq)⟩
    have hany : rows.any (·.commandId = cmd.commandId) = false :=
      List.any_eq_false.mpr fun row hrow heq => h ⟨row, hrow, Or.inr (of_decide_eq_true heq)⟩
    exact ⟨rows ++ [cmd.row], by simp only [beginCommand, hfind, hany, Bool.false_eq_true, if_false]⟩

theorem find_operation (operation : ControlOperation) :
    CONTROL_OPERATIONS.find? (·.text = operation.text) = some operation := by
  cases operation <;> decide

/-- **What is carried out**: any request for the operation that is not barred. Whether the
    deployment is locked makes no difference. -/
theorem executes_iff (hop : p.body.operation = operation.text) :
    (∃ cmd, Executes s p env cmd) ↔ ¬ Barred s p env operation := by
  have hfound : CONTROL_OPERATIONS.find? (·.text = p.body.operation) = some operation := by
    rw [hop]
    exact find_operation operation
  constructor
  · intro h
    obtain ⟨cmd, hadmitted, hbegun⟩ := h
    obtain ⟨hrefresh, ⟨operation', htext, rfl⟩, hvalid⟩ := admitted_ok hadmitted
    have hsame : operation' = operation := by
      have hfound' := find_operation operation'
      rw [htext, hfound] at hfound'
      exact (Option.some.inj hfound').symm
    subst hsame
    obtain ⟨hissues, hcapability, hrevision, hconfirmed⟩ := valid_command_iff.mp hvalid
    have hfresh := beginCommand_iff.mp hbegun
    intro hbarred
    rcases hbarred with h | h | h | h | h | h
    · exact h hrefresh
    · exact h hcapability
    · exact h hrevision
    · exact h hissues
    · exact hconfirmed h
    · exact hfresh h
  · intro h
    simp only [Barred, not_or, not_not] at h
    obtain ⟨hrefresh, hcapability, hrevision, hissues, hconfirmed, hfresh⟩ := h
    exact ⟨p.command s.deploymentId operation env,
      admitted_of_valid hfound hrefresh
        (valid_command_iff.mpr ⟨hissues, hcapability, hrevision, hconfirmed⟩),
      beginCommand_iff.mpr hfresh⟩

end Execution

/-! ## 3. Runs in which a lock holds -/

def LockHolds (s : Plane) (p : Post) (env : Instant) : Prop :=
  s.locked = true → ∀ cmd, Executes s p env cmd → cmd.operation.restores = false

def BarredAnyway (s : Plane) (p : Post) (env : Instant) : Prop :=
  s.locked = true → ∀ operation : ControlOperation, p.body.operation = operation.text →
    operation.restores = true → Barred s p env operation

/-- The requests of a run, each with the state it finds. -/
def handledBy : Plane → List (Post × Instant) → List (Plane × Post × Instant)
  | _, [] => []
  | s, a :: as => (s, a) :: handledBy (handlePost s a.1 a.2).2 as

/-- **One request.** -/
theorem lockHolds_iff {s : Plane} {p : Post} {env : Instant} :
    LockHolds s p env ↔ BarredAnyway s p env := by
  constructor
  · intro h hlocked operation hop hrestores
    by_contra hnot
    obtain ⟨cmd, hexecutes⟩ := (executes_iff hop).mpr hnot
    have hrefused := h hlocked cmd hexecutes
    obtain ⟨-, ⟨operation', htext, rfl⟩, -⟩ := admitted_ok hexecutes.1
    have hsame : operation' = operation := by
      have hfound := find_operation operation
      rw [← hop, ← htext, find_operation operation'] at hfound
      exact Option.some.inj hfound
    have hoperation : (p.command s.deploymentId operation' env).operation = operation' := rfl
    rw [hoperation, hsame, hrestores] at hrefused
    exact Bool.noConfusion hrefused
  · intro h hlocked cmd hexecutes
    cases hrestores : cmd.operation.restores with
    | false => rfl
    | true =>
      obtain ⟨-, ⟨operation, htext, rfl⟩, -⟩ := admitted_ok hexecutes.1
      have hbarred := h hlocked operation htext.symm hrestores
      exact absurd hbarred ((executes_iff htext.symm).mp ⟨_, hexecutes⟩)

/-- **A lock holds** in a run exactly where every later request that would restore capability is
    barred by something that has nothing to do with the lock. -/
theorem lock_holds_iff (s₀ : Plane) (posts : List (Post × Instant)) :
    (∀ x ∈ handledBy s₀ posts, LockHolds x.1 x.2.1 x.2.2) ↔
      ∀ x ∈ handledBy s₀ posts, BarredAnyway x.1 x.2.1 x.2.2 :=
  forall₂_congr fun _ _ => lockHolds_iff

/-- **A policy enabled after the lock.** The deployment is locked and says so, its policy is off,
    and the next request enables it. -/
theorem enabled_after_lock : ∃ s, Reaches Plane.step freshPlane s ∧ s.locked = true ∧
    (∀ live ∈ s.deployment.live, live.emergencyLocked = true) ∧
    s.deployment.policyEnabled = false ∧
    (handlePost s (asks .ENABLE_POLICY (some "op-enable-1")) (instant "2")).2.deployment.policyEnabled
      = true ∧
    ¬ LockHolds s (asks .ENABLE_POLICY (some "op-enable-1")) (instant "2") := by
  -- the lock
  obtain ⟨out₁, hexecute₁⟩ : ∃ out, execute freshPlane.deployment (asked .EMERGENCY_LOCK none "1")
      (instant "1").toSurroundings = (.ok out, { freshPlane.deployment with
        live := some { runtime := some { paused := false, stopping := true }
                       emergencyLocked := true } }) := ⟨_, rfl⟩
  have hadmitted₁ : admitted freshPlane (asks .EMERGENCY_LOCK none) (instant "1") =
      .ok (asked .EMERGENCY_LOCK none "1") :=
    admitted_asked rfl rfl (by decide) (by decide) rfl noKey
  have hpost₁ := handlePost_ended hadmitted₁ rfl (fun _ h => absurd h List.not_mem_nil) hexecute₁
  generalize hs : ({ freshPlane with
    deployment := { freshPlane.deployment with
      live := some { runtime := some { paused := false, stopping := true }
                     emergencyLocked := true } }
    commands := freshPlane.commands ++ [(asked .EMERGENCY_LOCK none "1").row.completed out₁
      (instant "1").completedAtMs] } : Plane) = s at hpost₁
  -- the request to enable the policy
  have hadmitted₂ : admitted s (asks .ENABLE_POLICY (some "op-enable-1")) (instant "2") =
      .ok (asked .ENABLE_POLICY (some "op-enable-1") "2") :=
    admitted_asked (by rw [← hs]; rfl) (by rw [← hs]; rfl) (by decide) (by decide) rfl enableKey
  have hfresh : ¬ ∃ row ∈ s.commands,
      row.idempotencyKey = (asked .ENABLE_POLICY (some "op-enable-1") "2").idempotencyKey ∨
        row.commandId = (asked .ENABLE_POLICY (some "op-enable-1") "2").commandId := by
    intro h
    obtain ⟨row, hrow, heq⟩ := h
    rw [← hs] at hrow
    rw [List.mem_singleton.mp hrow] at heq
    have hderived : intentKey (asked .EMERGENCY_LOCK none "1").toCommandArgs ≠ "op-enable-1" :=
      intentKey_ne (by decide)
    have hids : "cmd_" ++ "1" ≠ "cmd_" ++ "2" := by decide
    exact heq.elim hderived hids
  have hexecutes : Executes s (asks .ENABLE_POLICY (some "op-enable-1")) (instant "2")
      (asked .ENABLE_POLICY (some "op-enable-1") "2") := ⟨hadmitted₂, beginCommand_iff.mpr hfresh⟩
  obtain ⟨rows, hrows⟩ := hexecutes.2
  obtain ⟨hfind, hids, -⟩ := beginCommand_inserted hrows
  obtain ⟨out₂, hexecute₂⟩ : ∃ out, execute s.deployment
      (asked .ENABLE_POLICY (some "op-enable-1") "2") (instant "2").toSurroundings =
        (.ok out, { s.deployment with policyEnabled := true }) := by
    subst hs
    exact ⟨_, rfl⟩
  have hlocked : s.locked = true := by
    rw [← hs, locked_append]
    rfl
  refine ⟨s, ?_, hlocked, ?_, ?_, ?_, fun h => ?_⟩
  · exact Reaches.head (a := (asks .EMERGENCY_LOCK none, instant "1"))
      (congrArg some (congrArg Prod.snd hpost₁)) (Reaches.refl s)
  · rw [← hs]
    intro live hlive
    cases hlive
    rfl
  · rw [← hs]
    rfl
  · rw [handlePost_ended hadmitted₂ hfind hids hexecute₂]
  · exact Bool.noConfusion (h hlocked _ hexecutes)

end ContextLock.Control
