/-
  Subject:   One answer for each escalation.

  An approval reads the escalation when it begins, waits several times, and removes it only before
  it submits the steps. So two approvals may both submit them, and an approval may do so after a
  decline has returned. The answer is one where an approval goes on only while its escalation still
  waits.
-/
import Mathlib.Data.List.Nodup
import ContextLock.Machine.Staged
import ContextLock.Studio.Held

namespace ContextLock.Studio.ForkRuntime

open Machine Policy

/-! ## 1. Stages of an answer -/

/-- Outside of any answer; with an escalation that waited when it was read; with `n` steps of it
    submitted. -/
inductive Stage where
  | outside
  | reading (correlationId : String) (g : Nat)
  | running (g n : Nat)

/-- Who submits the steps of an escalation owns it. -/
def Stage.key : Stage → Option Nat
  | running g _ => some g
  | _ => none

def RuntimeState.waitsFor (s : RuntimeState) (correlationId : String) (g : Nat) : Prop :=
  ∃ x ∈ s.pendingByCorrelation, x.escalation.correlationId = correlationId ∧ x.number = g

/-- The same escalations, and nothing done for them. -/
structure Aside (s s' : RuntimeState) : Prop where
  pending : s'.pendingByCorrelation = s.pendingByCorrelation
  escalations : s'.watch.escalations = s.watch.escalations
  submitted : s'.watch.submitted = s.watch.submitted
  declined : s'.watch.declined = s.watch.declined
  afterDecline : s'.watch.afterDecline = s.watch.afterDecline

theorem Aside.refl (s : RuntimeState) : Aside s s := ⟨rfl, rfl, rfl, rfl, rfl⟩

/-- What a tick does: it may keep a new escalation. -/
inductive Elsewhere (s : RuntimeState) : RuntimeState → Prop
  | aside {s' : RuntimeState} (h : Aside s s') : Elsewhere s s'
  | escalate (e : PendingEscalation) (steps : List PreparedStep) (obs : DriverObservation) :
      Elsewhere s (s.escalate e steps obs)

def RuntimeState.declineAll (s : RuntimeState) (correlationId : String) (g : Nat) : RuntimeState :=
  { s.remove correlationId with watch := { s.watch with declined := s.watch.declined ++ [g] } }

/-- **The moves**: an escalation that waits is read; approvals of it are noted; it is declined, or
    removed and its steps submitted in their order. -/
inductive Moves : Stage → RuntimeState → RuntimeState → Stage → Prop
  | elsewhere {s s' : RuntimeState} (h : Elsewhere s s') : Moves .outside s s' .outside
  | read {s : RuntimeState} {correlationId : String} {g : Nat} (h : s.waitsFor correlationId g) :
      Moves .outside s s (.reading correlationId g)
  | aside {s s' : RuntimeState} {correlationId : String} {g : Nat} (h : Aside s s') :
      Moves (.reading correlationId g) s s' (.reading correlationId g)
  | approve {s : RuntimeState} {correlationId : String} {g : Nat} :
      Moves (.reading correlationId g) s (s.forEscalation g) (.reading correlationId g)
  | decline {s : RuntimeState} {correlationId : String} {g : Nat} :
      Moves (.reading correlationId g) s (s.declineAll correlationId g) .outside
  | remove {s : RuntimeState} {correlationId : String} {g : Nat} :
      Moves (.reading correlationId g) s (s.remove correlationId) (.running g 0)
  | run {s s' : RuntimeState} {g n : Nat} (h : Aside s s') : Moves (.running g n) s s' (.running g n)
  | submit {s : RuntimeState} {g n : Nat} :
      Moves (.running g n) s (s.submit g n) (.running g (n + 1))

def Waits : Stage → Ask → Prop
  | .reading _ g, e => ∃ q, e = .answering g q
  | _, _ => True

/-! ## 2. The calls -/

section Calls

variable {α β : Type} {D : Deps} {t : Stage}

/-- A part of a call that begins at the stage `t` and ends with `Q`. -/
abbrev From (Q : Stage → α → Prop) (t : Stage) (p : Job α) : Prop :=
  p.Staged Moves Waits Q (fun _ _ => True) t

theorem From.bind {p : Job α} {f : α → Job β} {Q : Stage → β → Prop}
    (h : From (fun t a => From Q t (f a)) t p) : From Q t (p >>= f) :=
  Thread.Staged.bind h

theorem aside_from {f : RuntimeState → RuntimeState} {Q : Stage → Unit → Prop}
    (hf : ∀ s, Aside s (f s)) (h : Q t ()) : From Q t (Thread.update f) := by
  refine Thread.Staged.update t (fun s => ?_) h
  cases t with
  | outside => exact .elsewhere (.aside (hf s))
  | reading correlationId g => exact .aside (hf s)
  | running g n => exact .run (hf s)

theorem emit_from {Q : Stage → Unit → Prop} (type : EventType) (correlationId : String)
    (h : Q t ()) : From Q t (emit type correlationId) :=
  aside_from (fun _ => ⟨rfl, rfl, rfl, rfl, rfl⟩) h

variable {correlationId : String}

theorem answering_from {g : Nat} {q : ChainAsk} {Q : Stage → ChainValue q → Prop}
    (h : ∀ a, Q (.reading correlationId g) a) :
    From Q (.reading correlationId g) (answering g q) :=
  Thread.Staged.bind (Thread.Staged.ask ⟨q, rfl⟩ fun _ => Thread.Staged.lift h fun _ => trivial)

theorem executing_from {g n : Nat} {human : Option Nat} {q : ChainAsk}
    {Q : Stage → ChainValue q → Prop} (h : ∀ a, Q (.running g n) a) :
    From Q (.running g n) (executing human q) :=
  Thread.Staged.bind (Thread.Staged.ask trivial fun _ => Thread.Staged.lift h fun _ => trivial)

theorem checkSignatures_from {g : Nat} {timestamp : Int} (signatures : List ApprovalSignature)
    (signed : Signed) :
    From (fun t _ => t = .reading correlationId g) (.reading correlationId g)
      (checkSignatures D g timestamp signatures signed) := by
  induction signatures generalizing signed with
  | nil => exact rfl
  | cons s rest ih =>
    rw [checkSignatures]
    split
    · trivial
    · refine From.bind (answering_from fun digest => ?_)
      refine From.bind (answering_from fun recovered => ?_)
      split
      · trivial
      · exact ih _

theorem standIn_from {g : Nat} {expiresAt : Int} (steps : List PreparedStep) (signed : Signed) :
    From (fun t _ => t = .reading correlationId g) (.reading correlationId g)
      (standIn g expiresAt steps signed) := by
  induction steps generalizing signed with
  | nil => exact rfl
  | cons step steps ih =>
    refine From.bind (answering_from fun digest => ?_)
    exact From.bind (answering_from fun signature => ih _)

theorem collect_from {pending : Pending} {signatures : List ApprovalSignature} {timestamp : Int} :
    From (fun t _ => t = .reading correlationId pending.number)
      (.reading correlationId pending.number) (collect D pending signatures timestamp) := by
  unfold collect
  split
  · split
    · trivial
    · refine From.bind ((checkSignatures_from _ _).mono (fun t signed ht => ?_) fun _ _ h => h)
      dsimp only
      split
      · trivial
      · exact ht
  · exact standIn_from _ _

theorem recordApprovals_from {g : Nat} {signed : Signed} (steps : List PreparedStep) :
    From (fun t _ => t = .reading correlationId g) (.reading correlationId g)
      (recordApprovals correlationId g signed steps) := by
  have happroving : ∀ {Q : Stage → Unit → Prop}, Q (.reading correlationId g) () →
      From Q (.reading correlationId g) (approving g) :=
    fun h => Thread.Staged.update _ (fun _ => .approve) h
  induction steps with
  | nil => exact rfl
  | cons step steps ih =>
    rw [recordApprovals]
    split
    · trivial
    · refine From.bind (happroving ?_)
      refine From.bind (answering_from fun hash => ?_)
      refine From.bind (answering_from fun receipt => ?_)
      split
      · refine From.bind (happroving ?_)
        exact From.bind (emit_from _ _ ih)
      · trivial

theorem executeSteps_from {g : Nat} (steps : List PreparedStep) (n : Nat) (txs : List String) :
    From (fun t _ => ∃ n, t = .running g n) (.running g n)
      (executeSteps correlationId (some g) steps n txs) := by
  induction steps generalizing n txs with
  | nil => exact ⟨n, rfl⟩
  | cons step steps ih =>
    refine From.bind (emit_from _ _ ?_)
    refine From.bind (Thread.Staged.update (.running g (n + 1)) (fun _ => .submit) ?_)
    refine From.bind (Thread.Staged.attempt (Thread.Staged.bind (Thread.Staged.ask trivial
      fun r => ?_)))
    cases r with
    | error message => exact From.bind (emit_from _ _ trivial)
    | ok hash =>
      refine From.bind (executing_from fun receipt => ?_)
      by_cases hsuccess : receipt.success = true
      · rw [if_pos hsuccess]
        exact From.bind (emit_from _ _ (ih _ _))
      · rw [if_neg hsuccess]
        exact From.bind (emit_from _ _ trivial)

theorem execute_from {driverId label : String} {amountUsd6 : Int} {before : DriverObservation}
    {steps : List PreparedStep} {g : Nat} :
    From (fun t _ => ∃ n, t = .running g n) (.running g 0)
      (execute correlationId driverId label amountUsd6 before steps (some g)) := by
  refine From.bind ((executeSteps_from _ _ _).mono (fun t txs ht => ?_) fun _ _ h => h)
  obtain ⟨n, rfl⟩ := ht
  refine From.bind (executing_from fun after => ?_)
  refine From.bind (Thread.Staged.ask trivial fun atMs => ?_)
  refine From.bind (aside_from (fun _ => ⟨rfl, rfl, rfl, rfl, rfl⟩) ?_)
  exact From.bind (emit_from _ _ ⟨n, rfl⟩)

theorem waitsFor_of_pendingOf {s : RuntimeState} {pending : Pending}
    (h : s.pendingOf correlationId = some pending) : s.waitsFor correlationId pending.number := by
  have hkey := List.find?_some h
  exact ⟨pending, List.mem_of_find?_eq_some h, by simpa using hkey, rfl⟩

/-- **An approval** goes through the stages. -/
theorem approve_from (correlationId : String) (signatures : List ApprovalSignature) :
    From (fun _ _ => True) .outside (approve D correlationId signatures) := by
  refine From.bind (Thread.Staged.read fun s => ?_)
  cases hpending : s.pendingOf correlationId with
  | none =>
    exact ⟨.outside, .elsewhere (.aside (.refl s)), trivial⟩
  | some pending =>
    refine ⟨.reading correlationId pending.number, .read (waitsFor_of_pendingOf hpending), ?_⟩
    refine From.bind (answering_from fun timestamp => ?_)
    refine From.bind (collect_from.mono (fun t signed ht => ?_) fun _ _ h => h)
    subst ht
    refine From.bind ((recordApprovals_from _).mono (fun t _ ht => ?_) fun _ _ h => h)
    subst ht
    refine From.bind (Thread.Staged.update (.running pending.number 0) (fun _ => .remove) ?_)
    refine From.bind (execute_from.mono (fun t exec ht => ?_) fun _ _ h => h)
    refine From.bind (aside_from (fun _ => ⟨rfl, rfl, rfl, rfl, rfl⟩) ?_)
    exact From.bind (aside_from (fun _ => ⟨rfl, rfl, rfl, rfl, rfl⟩) trivial)

theorem decline_from (correlationId : String) :
    From (fun _ _ => True) .outside (decline correlationId) := by
  refine From.bind (Thread.Staged.read fun s => ?_)
  cases hpending : s.pendingOf correlationId with
  | none =>
    exact ⟨.outside, .elsewhere (.aside (.refl s)), trivial⟩
  | some pending =>
    refine ⟨.reading correlationId pending.number, .read (waitsFor_of_pendingOf hpending), ?_⟩
    refine From.bind (Thread.Staged.update .outside (fun _ => .decline) ?_)
    exact From.bind (emit_from _ _ trivial)

theorem elsewhere : Covers (fun _ _ => True) Elsewhere where
  keeps _ _ _ _ _ := trivial
  plain s s' h := .aside ⟨h.pending, congrArg Watch.escalations h.watch,
    congrArg Watch.submitted h.watch, congrArg Watch.declined h.watch,
    congrArg Watch.afterDecline h.watch⟩
  acted s a _ := by
    refine .aside ?_
    unfold RuntimeState.acted
    split
    · exact ⟨rfl, rfl, rfl, rfl, rfl⟩
    · exact .refl s
  escalate _ e steps obs := .escalate e steps obs

theorem tick_from : From (fun _ _ => True) .outside (tick D) := by
  have hticks : Ticks (fun _ _ => True) Elsewhere (fun _ _ => True) false (tick D) :=
    tick_paced elsewhere
  exact Thread.Staged.of_within (fun _ _ h => .elsewhere h) (fun _ => trivial)
    (hticks.within fun _ _ => trivial) (fun _ => trivial) fun _ => trivial

/-- **Every call** begins outside. -/
theorem program_from (op : Op) : From (fun _ _ => True) .outside (program D op) := by
  cases op with
  | start =>
    refine From.bind (Thread.Staged.read fun s => ⟨.outside, .elsewhere (.aside (.refl s)), ?_⟩)
    split
    · trivial
    · refine From.bind (Thread.Staged.ask trivial fun startedAt => ?_)
      refine From.bind (Thread.Staged.ask trivial fun heartbeat => ?_)
      refine From.bind (aside_from (fun _ => ⟨rfl, rfl, rfl, rfl, rfl⟩) ?_)
      exact From.bind (emit_from _ _ trivial)
  | loop => exact From.bind (aside_from (fun _ => ⟨rfl, rfl, rfl, rfl, rfl⟩) trivial)
  | stop | pause | resume =>
    refine From.bind (aside_from (fun _ => ⟨rfl, rfl, rfl, rfl, rfl⟩) ?_)
    exact From.bind (emit_from _ _ trivial)
  | tick => exact tick_from
  | approve correlationId signatures => exact approve_from correlationId signatures
  | decline correlationId => exact decline_from correlationId

end Calls

/-! ## 3. What every move keeps -/

/-- The escalations that wait are numbered, and nothing was done for them; what was submitted or
    declined, was so once, and not both. -/
structure Sound (s : RuntimeState) : Prop where
  numbered : ∀ x ∈ s.pendingByCorrelation, x.number < s.watch.escalations
  one : ∀ x ∈ s.pendingByCorrelation, ∀ y ∈ s.pendingByCorrelation, x.number = y.number →
    x.escalation.correlationId = y.escalation.correlationId
  notDeclined : ∀ x ∈ s.pendingByCorrelation, x.number ∉ s.watch.declined
  notSubmitted : ∀ x ∈ s.pendingByCorrelation, ∀ i, (x.number, i) ∉ s.watch.submitted
  declinedNumber : ∀ g ∈ s.watch.declined, g < s.watch.escalations
  submittedNumber : ∀ e ∈ s.watch.submitted, e.1 < s.watch.escalations
  declinedOnce : s.watch.declined.Nodup
  submittedOnce : s.watch.submitted.Nodup
  silent : ∀ g ∈ s.watch.declined, ∀ i, (g, i) ∉ s.watch.submitted
  afterDecline : s.watch.afterDecline = false

/-- Of the escalation `g` the first `n` steps were submitted, and nobody else answers it. -/
structure Submitting (g n : Nat) (s : RuntimeState) : Prop where
  number : g < s.watch.escalations
  removed : ∀ x ∈ s.pendingByCorrelation, x.number ≠ g
  notDeclined : g ∉ s.watch.declined
  submitted : ∀ i, (g, i) ∈ s.watch.submitted → i < n

/-- The escalation `g` waits under the correlation id, or no more. -/
structure Known (correlationId : String) (g : Nat) (s : RuntimeState) : Prop where
  number : g < s.watch.escalations
  under : ∀ x ∈ s.pendingByCorrelation, x.number = g → x.escalation.correlationId = correlationId

/-- What an answer relies on in its turn. -/
def Busy : Stage → RuntimeState → Prop
  | .outside, _ => True
  | .reading correlationId g, s => s.waitsFor correlationId g
  | .running g n, s => Submitting g n s

/-- What an answer relies on while it waits. -/
def Waiting : Stage → RuntimeState → Prop
  | .outside, _ => True
  | .reading correlationId g, s => Known correlationId g s
  | .running g n, s => Submitting g n s

section Moving

variable {s s' : RuntimeState} {t t' : Stage}

theorem nodup_concat {γ : Type} {l : List γ} {a : γ} (h : l.Nodup) (ha : a ∉ l) :
    (l ++ [a]).Nodup := by
  rw [← List.concat_eq_append]
  exact h.concat ha

theorem mem_setPending {p x : Pending} {l : List Pending} (h : x ∈ setPending p l) :
    x = p ∨ x ∈ l := by
  induction l with
  | nil => exact .inl (List.mem_singleton.mp h)
  | cons q qs ih =>
    rw [setPending] at h
    split at h
    · rcases List.mem_cons.mp h with hx | hx
      · exact .inl hx
      · exact .inr (List.mem_cons_of_mem q hx)
    · rcases List.mem_cons.mp h with hx | hx
      · exact .inr (hx ▸ List.mem_cons_self)
      · rcases ih hx with hp | hq
        · exact .inl hp
        · exact .inr (List.mem_cons_of_mem q hq)

variable {correlationId : String} {g : Nat}

theorem mem_remove {x : Pending} (h : x ∈ (s.remove correlationId).pendingByCorrelation) :
    x ∈ s.pendingByCorrelation ∧ x.escalation.correlationId ≠ correlationId := by
  simpa [RuntimeState.remove] using h

theorem Aside.sound (h : Aside s s') (hs : Sound s) : Sound s' := by
  refine ⟨?_, ?_, ?_, ?_, ?_, ?_, ?_, ?_, ?_, ?_⟩
  · rw [h.pending, h.escalations]
    exact hs.numbered
  · rw [h.pending]
    exact hs.one
  · rw [h.pending, h.declined]
    exact hs.notDeclined
  · rw [h.pending, h.submitted]
    exact hs.notSubmitted
  · rw [h.declined, h.escalations]
    exact hs.declinedNumber
  · rw [h.submitted, h.escalations]
    exact hs.submittedNumber
  · rw [h.declined]
    exact hs.declinedOnce
  · rw [h.submitted]
    exact hs.submittedOnce
  · rw [h.declined, h.submitted]
    exact hs.silent
  · exact h.afterDecline.trans hs.afterDecline

theorem Aside.waitsFor (h : Aside s s') (hs : s.waitsFor correlationId g) :
    s'.waitsFor correlationId g := by
  unfold RuntimeState.waitsFor
  rw [h.pending]
  exact hs

theorem Aside.submitting {n : Nat} (h : Aside s s') (hs : Submitting g n s) :
    Submitting g n s' := by
  refine ⟨?_, ?_, ?_, ?_⟩
  · rw [h.escalations]
    exact hs.number
  · rw [h.pending]
    exact hs.removed
  · rw [h.declined]
    exact hs.notDeclined
  · rw [h.submitted]
    exact hs.submitted

theorem Aside.waiting {u : Stage} (h : Aside s s') (hs : Waiting u s) : Waiting u s' := by
  cases u with
  | outside => trivial
  | reading correlationId g =>
    have hknown : Known correlationId g s := hs
    refine ⟨?_, ?_⟩
    · rw [h.escalations]
      exact hknown.number
    · rw [h.pending]
      exact hknown.under
  | running g n => exact h.submitting hs

theorem escalate_sound {e : PendingEscalation} {steps : List PreparedStep} {obs : DriverObservation}
    (hs : Sound s) : Sound (s.escalate e steps obs) := by
  have hmem : ∀ x ∈ (s.escalate e steps obs).pendingByCorrelation,
      x = ⟨e, steps, obs, s.watch.escalations⟩ ∨ x ∈ s.pendingByCorrelation :=
    fun x hx => mem_setPending hx
  refine ⟨fun x hx => ?_, fun x hx y hy hsame => ?_, fun x hx hdeclined => ?_,
    fun x hx i hsubmitted => ?_, fun g hg => ?_, fun e he => ?_, hs.declinedOnce, hs.submittedOnce,
    hs.silent, hs.afterDecline⟩
  · show x.number < s.watch.escalations + 1
    rcases hmem x hx with rfl | hold
    · exact Nat.lt_succ_self _
    · exact Nat.lt_succ_of_lt (hs.numbered x hold)
  · rcases hmem x hx with rfl | hx
    · rcases hmem y hy with rfl | hy
      · rfl
      · exact absurd hsame (Nat.ne_of_gt (hs.numbered y hy))
    · rcases hmem y hy with rfl | hy
      · exact absurd hsame (Nat.ne_of_lt (hs.numbered x hx))
      · exact hs.one x hx y hy hsame
  · rcases hmem x hx with rfl | hold
    · exact Nat.lt_irrefl _ (hs.declinedNumber _ hdeclined)
    · exact hs.notDeclined x hold hdeclined
  · rcases hmem x hx with rfl | hold
    · exact Nat.lt_irrefl _ (hs.submittedNumber _ hsubmitted)
    · exact hs.notSubmitted x hold i hsubmitted
  · exact Nat.lt_succ_of_lt (hs.declinedNumber g hg)
  · exact Nat.lt_succ_of_lt (hs.submittedNumber e he)

theorem escalate_waiting {e : PendingEscalation} {steps : List PreparedStep}
    {obs : DriverObservation} {u : Stage} (hs : Waiting u s) :
    Waiting u (s.escalate e steps obs) := by
  have hmem : ∀ x ∈ (s.escalate e steps obs).pendingByCorrelation,
      x = ⟨e, steps, obs, s.watch.escalations⟩ ∨ x ∈ s.pendingByCorrelation :=
    fun x hx => mem_setPending hx
  cases u with
  | outside => trivial
  | reading correlationId g =>
    have hknown : Known correlationId g s := hs
    refine ⟨Nat.lt_succ_of_lt hknown.number, fun x hx hg => ?_⟩
    rcases hmem x hx with rfl | hold
    · exact absurd hg (Nat.ne_of_gt hknown.number)
    · exact hknown.under x hold hg
  | running g n =>
    have hsubmitting : Submitting g n s := hs
    refine ⟨Nat.lt_succ_of_lt hsubmitting.number, fun x hx => ?_, hsubmitting.notDeclined,
      hsubmitting.submitted⟩
    rcases hmem x hx with rfl | hold
    · exact Nat.ne_of_gt hsubmitting.number
    · exact hsubmitting.removed x hold

theorem forEscalation_aside (h : g ∉ s.watch.declined) : Aside s (s.forEscalation g) := by
  refine ⟨rfl, rfl, rfl, rfl, ?_⟩
  simp [RuntimeState.forEscalation, h]

theorem waitsFor_notDeclined (hs : Sound s) (h : s.waitsFor correlationId g) :
    g ∉ s.watch.declined := by
  obtain ⟨x, hx, -, rfl⟩ := h
  exact hs.notDeclined x hx

theorem remove_number (hs : Sound s) (h : s.waitsFor correlationId g) :
    ∀ x ∈ (s.remove correlationId).pendingByCorrelation, x.number ≠ g := by
  intro x hx hg
  obtain ⟨hold, hne⟩ := mem_remove hx
  obtain ⟨y, hy, hunder, hnumber⟩ := h
  exact hne ((hs.one x hold y hy (hg.trans hnumber.symm)).trans hunder)

theorem remove_sound (hs : Sound s) : Sound (s.remove correlationId) := by
  refine ⟨fun x hx => hs.numbered x (mem_remove hx).1, fun x hx y hy => ?_,
    fun x hx => hs.notDeclined x (mem_remove hx).1, fun x hx => hs.notSubmitted x (mem_remove hx).1,
    hs.declinedNumber, hs.submittedNumber, hs.declinedOnce, hs.submittedOnce, hs.silent,
    hs.afterDecline⟩
  exact hs.one x (mem_remove hx).1 y (mem_remove hy).1

theorem remove_waiting {u : Stage} (hs : Waiting u s) :
    Waiting u (s.remove correlationId) := by
  cases u with
  | outside => trivial
  | reading corr g =>
    have hknown : Known corr g s := hs
    exact ⟨hknown.number, fun x hx => hknown.under x (mem_remove hx).1⟩
  | running g n =>
    have hsubmitting : Submitting g n s := hs
    exact ⟨hsubmitting.number, fun x hx => hsubmitting.removed x (mem_remove hx).1,
      hsubmitting.notDeclined, hsubmitting.submitted⟩

theorem submitting_of_remove (hs : Sound s) (h : s.waitsFor correlationId g) :
    Submitting g 0 (s.remove correlationId) := by
  have hnotDeclined := waitsFor_notDeclined hs h
  refine ⟨?_, remove_number hs h, hnotDeclined, fun i hi => ?_⟩
  · obtain ⟨x, hx, -, rfl⟩ := h
    exact hs.numbered x hx
  · obtain ⟨x, hx, -, rfl⟩ := h
    exact absurd hi (hs.notSubmitted x hx i)

theorem running_ne {g' n : Nat} (h : s.waitsFor correlationId g) (hs : Submitting g' n s) :
    g' ≠ g := by
  obtain ⟨x, hx, -, rfl⟩ := h
  exact (hs.removed x hx).symm

/-- **A decline** of an escalation that waits. -/
theorem declineAll_sound (hs : Sound s) (h : s.waitsFor correlationId g) :
    Sound (s.declineAll correlationId g) := by
  have hrest := remove_number hs h
  have hnew := waitsFor_notDeclined hs h
  have hmem : ∀ {g' : Nat}, g' ∈ s.watch.declined ++ [g] → g' ∈ s.watch.declined ∨ g' = g :=
    fun h => (List.mem_append.mp h).imp_right List.mem_singleton.mp
  have hwaited : g < s.watch.escalations ∧ ∀ i, (g, i) ∉ s.watch.submitted := by
    obtain ⟨x, hx, -, rfl⟩ := h
    exact ⟨hs.numbered x hx, hs.notSubmitted x hx⟩
  have hremoved : Sound (s.remove correlationId) := remove_sound hs
  refine ⟨hremoved.numbered, hremoved.one, fun x hx hdeclined => ?_, hremoved.notSubmitted,
    fun g' hg' => ?_, hs.submittedNumber, ?_, hs.submittedOnce, fun g' hg' i => ?_, hs.afterDecline⟩
  · rcases hmem hdeclined with hold | hg
    · exact hremoved.notDeclined x hx hold
    · exact hrest x hx hg
  · rcases hmem hg' with hold | rfl
    · exact hs.declinedNumber g' hold
    · exact hwaited.1
  · exact nodup_concat hs.declinedOnce hnew
  · rcases hmem hg' with hold | rfl
    · exact hs.silent g' hold i
    · exact hwaited.2 i

theorem declineAll_waiting {u : Stage} (h : s.waitsFor correlationId g) (hs : Waiting u s) :
    Waiting u (s.declineAll correlationId g) := by
  have hremoved : Waiting u (s.remove correlationId) := remove_waiting hs
  cases u with
  | outside => trivial
  | reading corr g' =>
    have hknown : Known corr g' (s.remove correlationId) := hremoved
    exact ⟨hknown.number, hknown.under⟩
  | running g' n =>
    have hsubmitting : Submitting g' n (s.remove correlationId) := hremoved
    refine ⟨hsubmitting.number, hsubmitting.removed, fun hdeclined => ?_, hsubmitting.submitted⟩
    rcases List.mem_append.mp hdeclined with hold | hnew
    · exact hsubmitting.notDeclined hold
    · exact running_ne h hs (List.mem_singleton.mp hnew)

/-- **A submission** of the next step. -/
theorem submit_sound {n : Nat} (hs : Sound s) (h : Submitting g n s) : Sound (s.submit g n) := by
  have hmem : ∀ {e : Nat × Nat}, e ∈ s.watch.submitted ++ [(g, n)] →
      e ∈ s.watch.submitted ∨ e = (g, n) :=
    fun h => (List.mem_append.mp h).imp_right List.mem_singleton.mp
  have hnext : (g, n) ∉ s.watch.submitted := fun hin => Nat.lt_irrefl n (h.submitted n hin)
  refine ⟨hs.numbered, hs.one, hs.notDeclined, fun x hx i hin => ?_, hs.declinedNumber,
    fun e he => ?_, hs.declinedOnce, ?_, fun g' hg' i hin => ?_, ?_⟩
  · rcases hmem hin with hold | hnew
    · exact hs.notSubmitted x hx i hold
    · exact h.removed x hx (congrArg Prod.fst hnew)
  · rcases hmem he with hold | rfl
    · exact hs.submittedNumber e hold
    · exact h.number
  · exact nodup_concat hs.submittedOnce hnext
  · rcases hmem hin with hold | hnew
    · exact hs.silent g' hg' i hold
    · have hg : g' = g := congrArg Prod.fst hnew
      exact h.notDeclined (hg ▸ hg')
  · exact (forEscalation_aside h.notDeclined).afterDecline.trans hs.afterDecline

theorem submit_submitting {n : Nat} (h : Submitting g n s) :
    Submitting g (n + 1) (s.submit g n) := by
  refine ⟨h.number, h.removed, h.notDeclined, fun i hin => ?_⟩
  rcases List.mem_append.mp hin with hold | hnew
  · exact Nat.lt_succ_of_lt (h.submitted i hold)
  · have hi : i = n := congrArg Prod.snd (List.mem_singleton.mp hnew)
    omega

theorem submit_waiting {n : Nat} {u : Stage} (hapart : Pool.Apart Stage.key u (.running g n))
    (hs : Waiting u s) : Waiting u (s.submit g n) := by
  cases u with
  | outside => trivial
  | reading corr g' =>
    have hknown : Known corr g' s := hs
    exact ⟨hknown.number, hknown.under⟩
  | running g' m =>
    have hsubmitting : Submitting g' m s := hs
    refine ⟨hsubmitting.number, hsubmitting.removed, hsubmitting.notDeclined, fun i hin => ?_⟩
    rcases List.mem_append.mp hin with hold | hnew
    · exact hsubmitting.submitted i hold
    · have hg : g' = g := congrArg Prod.fst (List.mem_singleton.mp hnew)
      exact absurd (congrArg some hg.symm) (hapart g' rfl)

/-- **Every move** keeps what was done for the escalations sound. -/
theorem rules : Pool.Rules Moves Stage.key Sound Busy Waiting where
  move t s s' t' hmove hs hbusy := by
    cases hmove with
    | elsewhere h =>
      cases h with
      | aside h => exact ⟨h.sound hs, trivial, fun u hu hapart => ⟨h.waiting hu, hapart⟩⟩
      | escalate e steps obs =>
        exact ⟨escalate_sound hs, trivial, fun u hu hapart => ⟨escalate_waiting hu, hapart⟩⟩
    | read h => exact ⟨hs, h, fun u hu _ => ⟨hu, fun k _ hk => by cases hk⟩⟩
    | aside h => exact ⟨h.sound hs, h.waitsFor hbusy, fun u hu hapart => ⟨h.waiting hu, hapart⟩⟩
    | approve =>
      have h := forEscalation_aside (waitsFor_notDeclined hs hbusy)
      exact ⟨h.sound hs, h.waitsFor hbusy, fun u hu hapart => ⟨h.waiting hu, hapart⟩⟩
    | decline =>
      refine ⟨declineAll_sound hs hbusy, trivial, fun u hu _ => ⟨declineAll_waiting hbusy hu, ?_⟩⟩
      exact fun k _ hk => by cases hk
    | remove =>
      refine ⟨remove_sound hs, submitting_of_remove hs hbusy, fun u hu _ =>
        ⟨remove_waiting hu, fun k hk hk' => ?_⟩⟩
      cases u with
      | outside => cases hk
      | reading corr g => cases hk
      | running g n =>
        cases hk
        cases hk'
        exact running_ne hbusy hu rfl
    | run h => exact ⟨h.sound hs, h.submitting hbusy, fun u hu hapart => ⟨h.waiting hu, hapart⟩⟩
    | submit =>
      exact ⟨submit_sound hs hbusy, submit_submitting hbusy, fun u hu hapart =>
        ⟨submit_waiting hapart hu, hapart⟩⟩
  waits t s hs hbusy := by
    cases t with
    | outside => trivial
    | reading correlationId g =>
      obtain ⟨x, hx, hunder, rfl⟩ := hbusy
      exact ⟨hs.numbered x hx, fun y hy hsame => (hs.one y hy x hx hsame).trans hunder⟩
    | running g n => exact hbusy

end Moving

/-! ## 4. Runs -/

/-- No approval gets an answer it waits for unless its escalation still waits. -/
def stillPending (p : Runtime) : RuntimeTurn → Bool
  | .start _ _ => true
  | .resume i _ =>
    match p.threads[i]? with
    | some (_, .call (.answering g _) _) =>
      p.shared.pendingByCorrelation.any fun x => decide (x.number = g)
    | _ => true

/-- What holds of the pool: every call is at a stage. -/
abbrev Answering (p : Runtime) : Prop := p.Orderly Moves Waits Stage.key Sound Waiting

theorem sound_new : Sound RuntimeState.new := by
  refine ⟨?_, ?_, ?_, ?_, ?_, ?_, List.nodup_nil, List.nodup_nil, ?_, rfl⟩ <;>
    simp [RuntimeState.new]

/-- **One turn** in which no approval goes on without its escalation. -/
theorem answering_step {D : Deps} {p p' : Runtime} {turn : RuntimeTurn} (h : Answering p)
    (hguard : stillPending p turn = true) (hstep : Runtime.step D p turn = some p') :
    Answering p' := by
  refine Pool.orderly_step rules h (fun op o _ => ⟨.outside, rfl, trivial, program_from op⟩)
    (fun i o op e k t hturn hi hwaits hwaiting => ?_) hstep
  subst hturn
  cases t with
  | outside => trivial
  | running g n => exact hwaiting
  | reading correlationId g =>
    obtain ⟨q, rfl⟩ := hwaits
    have hknown : Known correlationId g p.shared := hwaiting
    have hpending : p.shared.pendingByCorrelation.any (fun x => decide (x.number = g)) = true := by
      simpa only [stillPending, hi] using hguard
    obtain ⟨x, hx, hnumber⟩ := List.any_eq_true.mp hpending
    have hg : x.number = g := of_decide_eq_true hnumber
    exact ⟨x, hx, hknown.under x hx hg, hg⟩

/-- **One answer.** In every run in which approvals only go on while their escalation waits, no step
    of an escalation is submitted twice, and nothing is done for one that was declined. -/
theorem answered_once {D : Deps} {p : Runtime}
    (h : Reaches (guarded (Runtime.step D) fun p turn => stillPending p turn = true)
      Runtime.new p) :
    p.shared.watch.submitted.Nodup ∧ p.shared.watch.declined.Nodup ∧
      p.shared.watch.afterDecline = false ∧
      ∀ g ∈ p.shared.watch.declined, ∀ i, (g, i) ∉ p.shared.watch.submitted := by
  have hnew : Answering Runtime.new := Pool.orderly_idle (t := .outside) sound_new rfl
  have hsound : Sound p.shared := by
    refine (h.invariant (P := Answering) (fun p turn p' hanswering hstep => ?_) hnew).inv
    obtain ⟨hguard, hstep⟩ := guarded_eq_some.mp hstep
    exact answering_step hanswering hguard hstep
  exact ⟨hsound.submittedOnce, hsound.declinedOnce, hsound.afterDecline, hsound.silent⟩

/-! ## 5. An approval alone, and two with a decline in between -/

def escalatedId : String := correlationIdOf oneDriver 1772366400000 ⟨"aave-repay", "aave"⟩

def escalating : List RuntimeTurn :=
  .start .tick (onFork 2000000000) :: List.replicate 7 (.resume 0 (onFork 2000000000))

def approvedTurns : List RuntimeTurn :=
  escalating ++ .start (.approve escalatedId []) (onFork 2000000000) ::
    List.replicate 8 (.resume 1 (onFork 2000000000))

/-- Of the escalation that was approved, the step was submitted once. -/
theorem approved_once :
    ∃ p, Reaches (guarded (Runtime.step oneDriver) fun p turn => stillPending p turn = true)
        Runtime.new p ∧ p.shared.watch.submitted = [(0, 0)] ∧ p.shared.executions.length = 1 ∧
      p.shared.watch.submitted.Nodup := by
  have hrun : ∃ p, Reaches (guarded (Runtime.step oneDriver) fun p turn => stillPending p turn = true)
      Runtime.new p ∧ (p.shared.watch.submitted, p.shared.executions.length) = ([(0, 0)], 1) :=
    reaches_of_observed
      (fun p : Runtime => (p.shared.watch.submitted, p.shared.executions.length))
      approvedTurns (by decide)
  obtain ⟨p, hreach, hseen⟩ := hrun
  obtain ⟨hsubmitted, hexecuted⟩ := Prod.mk.inj hseen
  exact ⟨p, hreach, hsubmitted, hexecuted, (answered_once hreach).1⟩

/-- Two approvals begin, the escalation is declined, and both go on. -/
def contestedTurns : List RuntimeTurn :=
  escalating ++ [.start (.approve escalatedId []) (onFork 2000000000),
    .start (.approve escalatedId []) (onFork 2000000000),
    .start (.decline escalatedId) (onFork 2000000000)] ++
    List.replicate 5 (.resume 1 (onFork 2000000000)) ++
    List.replicate 5 (.resume 2 (onFork 2000000000))

/-- **An escalation is answered three times**: it is declined, its approvals are recorded
    afterwards, and its step is submitted twice. -/
theorem answered_twice :
    ∃ p, Reaches (Runtime.step oneDriver) Runtime.new p ∧ p.shared.watch.declined = [0] ∧
      p.shared.watch.submitted = [(0, 0), (0, 0)] ∧ p.shared.watch.afterDecline = true := by
  have hrun : ∃ p, Reaches (Runtime.step oneDriver) Runtime.new p ∧
      (p.shared.watch.declined, p.shared.watch.submitted, p.shared.watch.afterDecline) =
        ([0], [(0, 0), (0, 0)], true) :=
    reaches_of_observed (fun p : Runtime =>
      (p.shared.watch.declined, p.shared.watch.submitted, p.shared.watch.afterDecline))
      contestedTurns (by decide)
  obtain ⟨p, hreach, hseen⟩ := hrun
  obtain ⟨hdeclined, hrest⟩ := Prod.mk.inj hseen
  obtain ⟨hsubmitted, hafter⟩ := Prod.mk.inj hrest
  exact ⟨p, hreach, hdeclined, hsubmitted, hafter⟩

end ContextLock.Studio.ForkRuntime
