/-
  Subject:   Does the row of an accepted command come to a terminal outcome?

  The route writes the row before the executor runs and completes it after. In between other
  requests are handled, the executor may throw, what it returns may not be writable as JSON, and
  the process may be lost. What the response is checked for comes after the row is completed.
-/
import ContextLock.Control.Route
import ContextLock.Js.Reparse

namespace ContextLock.Control.Terminal

open Js Machine

/-! ## 1. The rows -/

/-- A row of `control_commands`: the columns of the command, and what completes it. -/
structure StoredCommand where
  cmd : ControlCommand
  completedAtMs : Option Int
  outcome : CommandOutcome
  detail : Option String
  /-- The JSON of the result; `none` is `NULL`. -/
  result : Option String

/-- What an executor hands back: any value, or one that contains itself. -/
inductive Produced where
  | value (v : Value)
  | cyclic

/-- Serializing the value meets a `bigint`. -/
def reachesBigint : Value → Bool
  | .bigint _ => true
  | .arr items => itemsReach items
  | .obj fields => fieldsReach fields
  | _ => false
where
  itemsReach : List Value → Bool
    | [] => false
    | v :: vs => reachesBigint v || itemsReach vs
  fieldsReach : List (String × Value) → Bool
    | [] => false
    | (_, v) :: fs => reachesBigint v || fieldsReach fs

/-- `result ?? null`. -/
def orNull : Value → Value
  | .undefined => .null
  | v => v

/-- `JSON.stringify(result ?? null)`: what is bound to the column, or `none` where it throws. -/
def Produced.column : Produced → Option (Option String)
  | .cyclic => none
  | .value v => if reachesBigint v then none else some (stringifyData (orNull v))

/-- How the run of an executor ends. -/
inductive Ran where
  | threw (message : String)
  | returned (ok : Bool) (detail : String) (result : Produced)

/-- The executor returned, and its result can be written. -/
def Ran.writable : Ran → Bool
  | .threw _ => false
  | .returned _ _ result => result.column.isSome

inductive Begun where
  | existing (row : StoredCommand)
  | inserted (rows : List StoredCommand)
  | failed (message : String)

def beginCommand (rows : List StoredCommand) (cmd : ControlCommand) : Begun :=
  match rows.find? (·.cmd.idempotencyKey = cmd.idempotencyKey) with
  | some row => .existing row
  | none =>
    if rows.any (·.cmd.commandId = cmd.commandId) then
      .failed "UNIQUE constraint failed: control_commands.command_id"
    else .inserted (rows ++ [⟨cmd, none, .PENDING, none, none⟩])

/-- `completeCommand`, where the result can be written. -/
def completeCommand (rows : List StoredCommand) (commandId : String) (outcome : CommandOutcome)
    (detail : String) (result : Option String) (nowMs : Int) : List StoredCommand :=
  rows.map fun row => if row.cmd.commandId = commandId then
    { row with outcome, detail := some detail, result, completedAtMs := some nowMs } else row

/-! ## 2. The route -/

/-- The rows, and the ids of the commands whose executor runs. -/
structure Desk where
  rows : List StoredCommand
  running : List String

inductive Action where
  /-- A command that passed the checks. -/
  | post (cmd : ControlCommand)
  /-- The executor of a command ends. -/
  | ends (commandId : String) (ran : Ran) (nowMs : Int)
  /-- The process is lost, with the executors that run. -/
  | lost

/-- The rows after an executor: completed, unless the route threw first. -/
def afterRun (rows : List StoredCommand) (commandId : String) (ran : Ran) (nowMs : Int) :
    List StoredCommand :=
  match ran with
  | .threw _ => rows
  | .returned ok detail result =>
    match result.column with
    | none => rows
    | some text =>
      completeCommand rows commandId (if ok then .APPLIED else .FAILED) detail text nowMs

/-- One step of the route. -/
def step (s : Desk) : Action → Option Desk
  | .post cmd =>
    match beginCommand s.rows cmd with
    | .existing _ => some s
    | .failed _ => some s
    | .inserted rows => some ⟨rows, cmd.commandId :: s.running⟩
  | .ends commandId ran nowMs =>
    if commandId ∈ s.running then
      some ⟨afterRun s.rows commandId ran nowMs, s.running.filter (· ≠ commandId)⟩
    else none
  | .lost => some { s with running := [] }

def answer (s : Desk) (cmd : ControlCommand) : Option StoredCommand :=
  s.rows.find? (·.cmd.idempotencyKey = cmd.idempotencyKey)

def StoredCommand.terminal (row : StoredCommand) : Prop := row.outcome ≠ .PENDING

/-- Every row that waits belongs to an executor that still runs. -/
def Settled (s : Desk) : Prop := ∀ row ∈ s.rows, row.terminal ∨ row.cmd.commandId ∈ s.running

/-- The executor of the action returned a result that can be written, and none is lost. -/
def Finishes : Action → Prop
  | .post _ => True
  | .ends _ ran _ => ran.writable = true
  | .lost => False

instance decidableFinishes (a : Action) : Decidable (Finishes a) :=
  match a with
  | .post _ => isTrue trivial
  | .ends _ ran _ => inferInstanceAs (Decidable (ran.writable = true))
  | .lost => isFalse id

/-! ## 3. What a step does -/

section Steps

variable {s s' : Desk}

def Distinct (s : Desk) : Prop := (s.rows.map (·.cmd.commandId)).Nodup

theorem ids_afterRun (rows : List StoredCommand) (commandId : String) (ran : Ran) (nowMs : Int) :
    (afterRun rows commandId ran nowMs).map (·.cmd.commandId) = rows.map (·.cmd.commandId) := by
  unfold afterRun
  split
  · rfl
  · split
    · rfl
    · unfold completeCommand
      rw [List.map_map]
      refine List.map_congr_left fun row _ => ?_
      show (if row.cmd.commandId = commandId then _ else row).cmd.commandId = row.cmd.commandId
      split <;> rfl

/-- What `beginCommand` inserted. -/
theorem beginCommand_inserted {rows rows' : List StoredCommand} {cmd : ControlCommand}
    (h : beginCommand rows cmd = .inserted rows') :
    (∀ row ∈ rows, row.cmd.commandId ≠ cmd.commandId) ∧
      rows' = rows ++ [⟨cmd, none, .PENDING, none, none⟩] := by
  unfold beginCommand at h
  split at h
  · cases h
  · split at h
    · cases h
    · rename_i hany
      cases h
      refine ⟨fun row hrow heq => hany ?_, rfl⟩
      exact List.any_eq_true.mpr ⟨row, hrow, decide_eq_true heq⟩

theorem distinct_step {a : Action} (h : Distinct s) (hs : step s a = some s') : Distinct s' := by
  cases a with
  | post cmd =>
    simp only [step] at hs
    split at hs
    · cases hs
      exact h
    · cases hs
      exact h
    · rename_i rows hbegin
      cases hs
      obtain ⟨hnew, rfl⟩ := beginCommand_inserted hbegin
      show ((s.rows ++ [_]).map _).Nodup
      rw [List.map_append, List.nodup_append]
      refine ⟨h, List.nodup_singleton _, ?_⟩
      intro id hid id' hid' heq
      obtain ⟨row, hrow, rfl⟩ := List.mem_map.mp hid
      rw [List.map_singleton, List.mem_singleton] at hid'
      exact hnew row hrow (heq.trans hid')
  | ends commandId ran nowMs =>
    simp only [step] at hs
    split at hs
    · cases hs
      show ((afterRun _ _ _ _).map _).Nodup
      rw [ids_afterRun]
      exact h
    · cases hs
  | lost =>
    cases hs
    exact h

theorem afterRun_terminal {commandId : String} {ran : Ran} {nowMs : Int}
    (hw : ran.writable = true) {rows : List StoredCommand} {row : StoredCommand}
    (hrow : row ∈ afterRun rows commandId ran nowMs) (hid : row.cmd.commandId = commandId) :
    row.terminal := by
  cases ran with
  | threw message => cases hw
  | returned ok detail result =>
    obtain ⟨text, htext⟩ := Option.isSome_iff_exists.mp hw
    simp only [afterRun, htext, completeCommand, List.mem_map] at hrow
    obtain ⟨old, -, rfl⟩ := hrow
    by_cases hold : old.cmd.commandId = commandId
    · rw [if_pos hold]
      show (if ok then CommandOutcome.APPLIED else .FAILED) ≠ .PENDING
      cases ok <;> decide
    · rw [if_neg hold] at hid
      exact absurd hid hold

theorem afterRun_unwritable {commandId : String} {ran : Ran} {nowMs : Int}
    (hw : ran.writable = false) (rows : List StoredCommand) :
    afterRun rows commandId ran nowMs = rows := by
  cases ran with
  | threw message => rfl
  | returned ok detail result =>
    have hnone : result.column = none := by simpa [Ran.writable] using hw
    simp only [afterRun, hnone]

theorem mem_afterRun_of_ne {commandId : String} {ran : Ran} {nowMs : Int}
    {rows : List StoredCommand} {row : StoredCommand} (hid : row.cmd.commandId ≠ commandId) :
    row ∈ afterRun rows commandId ran nowMs ↔ row ∈ rows := by
  unfold afterRun
  split
  · rfl
  · split
    · rfl
    · unfold completeCommand
      rw [List.mem_map]
      constructor
      · rintro ⟨old, hold, rfl⟩
        by_cases hsame : old.cmd.commandId = commandId
        · rw [if_pos hsame] at hid
          exact absurd hsame hid
        · rwa [if_neg hsame]
      · intro hrow
        exact ⟨row, hrow, if_neg hid⟩

/-- **A step in which every execution finishes.** -/
theorem settled_step {a : Action} (h : Settled s) (ha : Finishes a) (hs : step s a = some s') :
    Settled s' := by
  cases a with
  | post cmd =>
    simp only [step] at hs
    split at hs
    · cases hs
      exact h
    · cases hs
      exact h
    · rename_i rows hbegin
      cases hs
      obtain ⟨-, rfl⟩ := beginCommand_inserted hbegin
      intro row hrow
      obtain hold | hnew := List.mem_append.mp hrow
      · exact (h row hold).imp_right (List.mem_cons_of_mem _)
      · obtain rfl := List.mem_singleton.mp hnew
        exact Or.inr List.mem_cons_self
  | ends commandId ran nowMs =>
    simp only [step] at hs
    split at hs
    · cases hs
      intro row hrow
      by_cases hid : row.cmd.commandId = commandId
      · exact Or.inl (afterRun_terminal ha hrow hid)
      · refine (h row ((mem_afterRun_of_ne hid).mp hrow)).imp_right fun hrunning => ?_
        exact List.mem_filter.mpr ⟨hrunning, by simpa using hid⟩
    · cases hs
  | lost => exact ha.elim

theorem settled_reaches {s₀ : Desk} (h₀ : Settled s₀)
    (h : Reaches (guarded step fun _ => Finishes) s₀ s) : Settled s :=
  h.invariant (fun _ _ _ hs hstep => by
    obtain ⟨ha, hstep⟩ := guarded_eq_some.mp hstep
    exact settled_step hs ha hstep) h₀

/-! ## 4. A row nobody completes -/

/-- The row waits, and no executor runs for it. -/
def Abandoned (row : StoredCommand) (s : Desk) : Prop :=
  row ∈ s.rows ∧ row.outcome = .PENDING ∧ row.cmd.commandId ∉ s.running ∧
    answer s row.cmd = some row

theorem abandoned_step {row : StoredCommand} {a : Action} (h : Abandoned row s)
    (hs : step s a = some s') : Abandoned row s' := by
  obtain ⟨hrow, hpending, hrunning, hanswer⟩ := h
  cases a with
  | post cmd =>
    simp only [step] at hs
    split at hs
    · cases hs
      exact ⟨hrow, hpending, hrunning, hanswer⟩
    · cases hs
      exact ⟨hrow, hpending, hrunning, hanswer⟩
    · rename_i rows hbegin
      cases hs
      obtain ⟨hnew, rfl⟩ := beginCommand_inserted hbegin
      refine ⟨List.mem_append_left _ hrow, hpending, fun hin => ?_, ?_⟩
      · obtain heq | hin := List.mem_cons.mp hin
        · exact hnew row hrow heq
        · exact hrunning hin
      · unfold answer at hanswer ⊢
        rw [List.find?_append, hanswer]
        rfl
  | ends commandId ran nowMs =>
    simp only [step] at hs
    split at hs
    · rename_i hin
      cases hs
      have hid : row.cmd.commandId ≠ commandId := fun heq => hrunning (heq ▸ hin)
      refine ⟨(mem_afterRun_of_ne hid).mpr hrow, hpending,
        fun hin' => hrunning (List.mem_filter.mp hin').1, ?_⟩
      cases hw : ran.writable with
      | false =>
        show (afterRun s.rows commandId ran nowMs).find? _ = some row
        rw [afterRun_unwritable hw]
        exact hanswer
      | true =>
        cases ran with
        | threw message => cases hw
        | returned ok detail result =>
          obtain ⟨text, htext⟩ := Option.isSome_iff_exists.mp hw
          -- the columns of the command stay, so the same row answers its key
          show (afterRun s.rows commandId (.returned ok detail result) nowMs).find? _ = some row
          simp only [afterRun, htext, completeCommand, List.find?_map]
          have hkey : ((fun r : StoredCommand =>
              decide (r.cmd.idempotencyKey = row.cmd.idempotencyKey)) ∘ fun r : StoredCommand =>
                if r.cmd.commandId = commandId then
                  { r with outcome := (if ok then CommandOutcome.APPLIED else .FAILED),
                           detail := some detail, result := text, completedAtMs := some nowMs }
                else r) = fun r => decide (r.cmd.idempotencyKey = row.cmd.idempotencyKey) := by
            funext r
            show decide ((if r.cmd.commandId = commandId then _ else r).cmd.idempotencyKey = _) = _
            split <;> rfl
          rw [hkey, show s.rows.find? _ = some row from hanswer, Option.map_some, if_neg hid]
    · cases hs
  | lost =>
    cases hs
    exact ⟨hrow, hpending, List.not_mem_nil, hanswer⟩

/-- **A row nobody completes stays as it is**, and is the answer to its intent. -/
theorem abandoned_reaches {row : StoredCommand} (h : Abandoned row s) (hr : Reaches step s s') :
    Abandoned row s' :=
  hr.invariant (fun _ _ _ hs hstep => abandoned_step hs hstep) h

end Steps

/-! ## 5. Whole runs -/

/-- No two rows have one id or one key, and an executor runs for a row that waits. -/
structure Kept (s : Desk) : Prop where
  ids : Distinct s
  keys : (s.rows.map (·.cmd.idempotencyKey)).Nodup
  waiting : ∀ id ∈ s.running, ∃ row ∈ s.rows, row.cmd.commandId = id ∧ row.outcome = .PENDING

/-- A log to start from: every row is terminal, and no executor runs. -/
structure Quiet (s : Desk) : Prop where
  ids : Distinct s
  keys : (s.rows.map (·.cmd.idempotencyKey)).Nodup
  terminal : ∀ row ∈ s.rows, row.terminal
  idle : s.running = []

section Runs

variable {s s' : Desk}

theorem keys_afterRun (rows : List StoredCommand) (commandId : String) (ran : Ran) (nowMs : Int) :
    (afterRun rows commandId ran nowMs).map (·.cmd.idempotencyKey) =
      rows.map (·.cmd.idempotencyKey) := by
  unfold afterRun
  split
  · rfl
  · split
    · rfl
    · unfold completeCommand
      rw [List.map_map]
      refine List.map_congr_left fun row _ => ?_
      show (if row.cmd.commandId = commandId then _ else row).cmd.idempotencyKey = _
      split <;> rfl

theorem key_new {rows rows' : List StoredCommand} {cmd : ControlCommand}
    (h : beginCommand rows cmd = .inserted rows') :
    ∀ row ∈ rows, row.cmd.idempotencyKey ≠ cmd.idempotencyKey := by
  unfold beginCommand at h
  split at h
  · cases h
  · rename_i hfind
    intro row hrow
    simpa using List.find?_eq_none.mp hfind row hrow

theorem kept_step {a : Action} (h : Kept s) (hs : step s a = some s') : Kept s' := by
  have hids := distinct_step h.ids hs
  cases a with
  | post cmd =>
    simp only [step] at hs
    split at hs
    · cases hs
      exact h
    · cases hs
      exact ⟨hids, h.keys, h.waiting⟩
    · rename_i rows hbegin
      cases hs
      obtain ⟨-, rfl⟩ := beginCommand_inserted hbegin
      refine ⟨hids, ?_, fun id hid => ?_⟩
      · show ((s.rows ++ [_]).map _).Nodup
        rw [List.map_append, List.nodup_append]
        refine ⟨h.keys, List.nodup_singleton _, ?_⟩
        intro key hkey key' hkey' heq
        obtain ⟨row, hrow, rfl⟩ := List.mem_map.mp hkey
        rw [List.map_singleton, List.mem_singleton] at hkey'
        exact key_new hbegin row hrow (heq.trans hkey')
      · obtain rfl | hold := List.mem_cons.mp hid
        · exact ⟨_, List.mem_append_right _ (List.mem_singleton_self _), rfl, rfl⟩
        · obtain ⟨row, hrow, hrest⟩ := h.waiting id hold
          exact ⟨row, List.mem_append_left _ hrow, hrest⟩
  | ends commandId ran nowMs =>
    simp only [step] at hs
    split at hs
    · cases hs
      refine ⟨hids, ?_, fun id hid => ?_⟩
      · show ((afterRun _ _ _ _).map _).Nodup
        rw [keys_afterRun]
        exact h.keys
      · obtain ⟨hold, hne⟩ := List.mem_filter.mp hid
        obtain ⟨row, hrow, hrowId, hpending⟩ := h.waiting id hold
        have hother : row.cmd.commandId ≠ commandId := by
          rw [hrowId]
          simpa using hne
        exact ⟨row, (mem_afterRun_of_ne hother).mpr hrow, hrowId, hpending⟩
    · cases hs
  | lost =>
    cases hs
    exact ⟨hids, h.keys, fun id hid => by cases hid⟩

theorem kept_reaches {s₀ : Desk} (h₀ : Quiet s₀) (h : Reaches step s₀ s) : Kept s :=
  h.invariant (fun _ _ _ hs hstep => kept_step hs hstep)
    ⟨h₀.ids, h₀.keys, fun id hid => by rw [h₀.idle] at hid; exact absurd hid List.not_mem_nil⟩

theorem Kept.answer_of_mem (h : Kept s) {row : StoredCommand} (hrow : row ∈ s.rows) :
    answer s row.cmd = some row := by
  unfold answer
  cases hfind : s.rows.find? (·.cmd.idempotencyKey = row.cmd.idempotencyKey) with
  | none =>
    have := List.find?_eq_none.mp hfind row hrow
    simp at this
  | some found =>
    have hkey : found.cmd.idempotencyKey = row.cmd.idempotencyKey := by
      simpa using List.find?_some hfind
    exact congrArg some
      (List.inj_on_of_nodup_map h.keys (List.mem_of_find?_eq_some hfind) hrow hkey)

/-- **When the rows of accepted commands settle.** In every run in which each executor returns
    what can be written and none is lost, a row waits only while its executor runs. In any run,
    an execution leaves its row terminal exactly when it is such, and a row that is not left
    terminal is the pending answer to its intent ever after. -/
theorem commands_settle {s₀ : Desk} (h₀ : Quiet s₀) :
    (∀ s, Reaches (guarded step fun _ => Finishes) s₀ s → Settled s) ∧
    ∀ s, Reaches step s₀ s → ∀ id ran nowMs s', step s (.ends id ran nowMs) = some s' →
      ((∀ row ∈ s'.rows, row.cmd.commandId = id → row.terminal) ↔ ran.writable = true) ∧
      (ran.writable = false → ∃ row, row.cmd.commandId = id ∧ row.outcome = .PENDING ∧
        ∀ s'', Reaches step s' s'' → answer s'' row.cmd = some row) := by
  refine ⟨fun s h => settled_reaches (fun row hrow => Or.inl (h₀.terminal row hrow)) h, ?_⟩
  intro s hreach id ran nowMs s' hs
  have hkept := kept_reaches h₀ hreach
  have hkept' := kept_step hkept hs
  simp only [step] at hs
  split at hs
  swap
  · cases hs
  rename_i hin
  cases hs
  obtain ⟨row, hrow, hid, hpending⟩ := hkept.waiting id hin
  have hstays : ran.writable = false → row ∈ afterRun s.rows id ran nowMs := fun hw => by
    rw [afterRun_unwritable hw]
    exact hrow
  constructor
  · constructor
    · intro hterminal
      by_contra hw
      exact hterminal row (hstays (by simpa using hw)) hid hpending
    · intro hw row' hrow' hid'
      exact afterRun_terminal hw hrow' hid'
  · intro hw
    refine ⟨row, hid, hpending, fun s'' hr => ?_⟩
    have habandoned : Abandoned row
        ⟨afterRun s.rows id ran nowMs, s.running.filter (· ≠ id)⟩ := by
      refine ⟨hstays hw, hpending, fun hin' => ?_, hkept'.answer_of_mem (hstays hw)⟩
      have hne := (List.mem_filter.mp hin').2
      simp [hid] at hne
    exact (abandoned_reaches habandoned hr).2.2.2

end Runs

/-! ## 6. Two commands -/

def emptyDesk : Desk := ⟨[], []⟩

theorem emptyDesk_quiet : Quiet emptyDesk where
  ids := List.nodup_nil
  keys := List.nodup_nil
  terminal _ h := absurd h List.not_mem_nil
  idle := rfl

def disableCommand : ControlCommand := asked .DISABLE_POLICY none "1"

/-- The row of that command, before it is completed. -/
def pendingRow : StoredCommand := ⟨disableCommand, none, .PENDING, none, none⟩

def busyDesk : Desk := ⟨[pendingRow], [disableCommand.commandId]⟩

theorem reaches_busy : Reaches step emptyDesk busyDesk :=
  Reaches.head (a := .post disableCommand) rfl (Reaches.refl _)

/-- The execution ends: `ran` says how. -/
theorem busy_ends (ran : Ran) : step busyDesk (.ends disableCommand.commandId ran 2) =
    some ⟨afterRun [pendingRow] disableCommand.commandId ran 2, []⟩ := by
  have hfilter : [disableCommand.commandId].filter (· ≠ disableCommand.commandId) = [] := by simp
  have hin : disableCommand.commandId ∈ busyDesk.running := List.mem_singleton_self _
  simp only [step, if_pos hin]
  rw [show busyDesk.running = [disableCommand.commandId] from rfl, hfilter]
  rfl

def failedRows : List StoredCommand :=
  afterRun [pendingRow] disableCommand.commandId (.returned false "no fork" (.value .null)) 2

/-- An execution that fails leaves its row terminal. -/
theorem commands_settle_failed : failedRows.length = 1 ∧
    ∀ row ∈ failedRows, row.cmd.commandId = disableCommand.commandId → row.terminal :=
  ⟨rfl, ((commands_settle emptyDesk_quiet).2 busyDesk reaches_busy _ _ _ _
    (busy_ends (.returned false "no fork" (.value .null)))).1.mpr rfl⟩

/-- **An executor that throws.** The row of its command stays pending, and a later submission of
    the intent is answered with it. -/
theorem thrown_stays_pending : ∃ s, Reaches step emptyDesk s ∧ s.running = [] ∧
    ¬ Settled s ∧ answer s disableCommand = some pendingRow ∧ pendingRow.outcome = .PENDING := by
  refine ⟨_, reaches_busy.trans (Reaches.head (busy_ends (.threw "timeout")) (Reaches.refl _)),
    rfl, fun h => ?_, ?_, rfl⟩
  · obtain hterminal | hrunning := h pendingRow (List.mem_singleton_self _)
    · exact hterminal rfl
    · exact absurd hrunning List.not_mem_nil
  · exact List.find?_cons_of_pos (decide_eq_true rfl)

end ContextLock.Control.Terminal
