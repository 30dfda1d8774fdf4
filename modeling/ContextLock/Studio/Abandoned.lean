/-
  Subject:   What becomes of an abandoned build.

  An abandon sets the status and nothing else. The stage stays what it was, so the build can still
  be approved and built; and a design or a build that is under way ends by setting the status,
  whatever it has become meanwhile. So an abandon is final where none is under way and none of the
  calls after it gets past its own check.
-/
import ContextLock.Studio.Approved

namespace ContextLock.Studio

open Machine

variable {β Req Arch : Type}

/-! ## 1. The law -/

structure StaysAbandoned (d : Desk β) : Prop where
  status : d.watch.abandoned = true → d.build.status = .ABANDONED
  unapproved : d.watch.approvedAfter = false

def Op.setsStatus : Op β → Bool
  | runToApproval => true
  | runBuild => true
  | _ => false

/-- A call that will set the status relies on no abandon while it waits. -/
def abandonContract : Pool.Contract (Desk β) (Op β) where
  inv := StaysAbandoned
  guar d d' := d'.watch.abandoned = d.watch.abandoned
  rely op d d' := op.setsStatus = true → d'.watch.abandoned = d.watch.abandoned
  refl _ := rfl
  trans _ _ _ h h' := h'.trans h
  rely_trans _ _ _ _ h h' hop := (h' hop).trans (h hop)
  sub _ _ _ h _ := h

variable {T : Tools β Req Arch} {d d' : Desk β} {op : Op β}

/-- An update that no one who watches for an abandon notes. -/
def Unnoted (d d' : Desk β) : Prop :=
  d'.watch.abandoned = d.watch.abandoned ∧ d'.watch.approvedAfter = d.watch.approvedAfter

theorem unnoted_of_tame (h : Tame d d') : Unnoted d d' := by
  refine ⟨?_, ?_⟩
  · rw [h.watch]
  · rw [h.watch]

theorem unnoted_of_builds {blueprint : Blueprint β} (h : Builds blueprint d d') : Unnoted d d' := by
  cases h with
  | tame htame => exact unnoted_of_tame htame
  | rendered => exact ⟨rfl, rfl⟩
  | completed c => exact ⟨rfl, rfl⟩

/-- **Steady updates** keep the law. -/
theorem StaysAbandoned.steady (h : StaysAbandoned d) (hd : Steady d d') : StaysAbandoned d' := by
  obtain ⟨habandoned, happroved⟩ := unnoted_of_tame hd.toTame
  exact ⟨fun hnow => hd.status.trans (h.status (habandoned ▸ hnow)), happroved.trans h.unapproved⟩

theorem staysAbandoned_of_not (h : d.watch.abandoned = false)
    (happroved : d.watch.approvedAfter = false) : StaysAbandoned d := by
  refine ⟨fun habandoned => ?_, happroved⟩
  rw [h] at habandoned
  cases habandoned

/-! ## 2. The operations -/

theorem abandon_of_steady {p : Job β Req Arch (Reply β)} (hp : p.Within Steady)
    (h : StaysAbandoned d) :
    p.Safe Ask.instant (abandonContract.law op) (fun _ _ => True) (fun _ _ => True) d :=
  (hp.safe (L := abandonContract.law op) (I := fun _ => True)
      (fun _ _ _ hinv hsteady =>
        ⟨StaysAbandoned.steady hinv hsteady, (unnoted_of_tame hsteady.toTame).1, trivial⟩)
      (fun _ _ _ _ _ => trivial) trivial h).mono (fun _ _ _ => trivial) fun _ _ _ => trivial

/-- **A call that sets the status** does its part while nobody abandons the build. -/
theorem abandon_of_within {p : Job β Req Arch (Reply β)} {P : Desk β → Desk β → Prop}
    (hp : p.Within P) (hP : ∀ d d', P d d' → Unnoted d d') (hop : op.setsStatus = true)
    (h : StaysAbandoned d) (habandoned : d.watch.abandoned = false) :
    p.Safe Ask.instant (abandonContract.law op) (fun _ _ => True) (fun _ _ => True) d := by
  refine (hp.safe (L := abandonContract.law op) (I := fun d => d.watch.abandoned = false)
    (fun d d' hI hinv hstep => ?_) (fun d d' hI _ hrely => ?_) habandoned h).mono
    (fun _ _ _ => trivial) fun _ _ _ => trivial
  · obtain ⟨hsame, happroved⟩ := hP d d' hstep
    have hinv : StaysAbandoned d := hinv
    exact ⟨staysAbandoned_of_not (hsame.trans hI) (happroved.trans hinv.unapproved), hsame,
      hsame.trans hI⟩
  · have hsame : d'.watch.abandoned = d.watch.abandoned := hrely hop
    exact hsame.trans hI

theorem reconcile_abandoned (h : StaysAbandoned d) :
    (reconcileOrphanedBuilds : Job β Req Arch _).Safe Ask.instant (abandonContract.law op)
      (fun _ _ => True) (fun _ _ => True) d := by
  refine Thread.Safe.bind (Thread.Safe.read h ?_)
  split
  · exact Thread.Safe.bind (Thread.Safe.update ⟨fun _ => rfl, h.unapproved⟩ rfl trivial)
  · trivial

theorem approve_abandoned {acknowledgeFindings : List String} (h : StaysAbandoned d)
    (hrefused : d.watch.abandoned = true → d.build.stage ≠ .AWAITING_APPROVAL ∨
      d.build.unacknowledged acknowledgeFindings ≠ []) :
    (approve acknowledgeFindings : Job β Req Arch _).Safe Ask.instant (abandonContract.law op)
      (fun _ _ => True) (fun _ _ => True) d := by
  refine Thread.Safe.bind (Thread.Safe.read h ?_)
  by_cases hstage : d.build.stage ≠ .AWAITING_APPROVAL
  · rw [if_pos hstage]
    trivial
  · rw [if_neg hstage]
    by_cases hcodes : d.build.unacknowledged acknowledgeFindings ≠ []
    · rw [if_pos hcodes]
      trivial
    · rw [if_neg hcodes]
      have hfalse : d.watch.abandoned = false :=
        Bool.eq_false_iff.mpr fun htrue => (hrefused htrue).elim hstage hcodes
      refine Thread.Safe.bind (Thread.Safe.answer rfl fun approvedAt => ?_)
      have hboth : (d.watch.approvedAfter || d.watch.abandoned) = false := by
        rw [h.unapproved, hfalse]
        rfl
      refine Thread.Safe.bind
        (Thread.Safe.update (staysAbandoned_of_not hfalse hboth) rfl ?_)
      exact Thread.Safe.bind
        (Thread.Safe.update (staysAbandoned_of_not hfalse hboth) rfl trivial)

theorem runBuild_abandoned (h : StaysAbandoned d)
    (hrefused : d.watch.abandoned = true →
      d.build.approvedAt = none ∨ d.build.currentBlueprint = none) :
    (runBuild T).Safe Ask.instant (abandonContract.law .runBuild) (fun _ _ => True)
      (fun _ _ => True) d := by
  refine Thread.Safe.bind (Thread.Safe.read h ?_)
  by_cases happroved : d.build.approvedAt.isNone = true
  · rw [if_pos happroved]
    trivial
  · rw [if_neg happroved]
    cases hcurrent : d.build.currentBlueprint with
    | none => trivial
    | some blueprint =>
      have hfalse : d.watch.abandoned = false := by
        refine Bool.eq_false_iff.mpr fun htrue => ?_
        rcases hrefused htrue with hnone | hnone
        · exact happroved (by rw [hnone]; rfl)
        · rw [hcurrent] at hnone
          cases hnone
      exact abandon_of_within (buildInSandbox_within T blueprint _)
        (fun _ _ => unnoted_of_builds) rfl h hfalse

/-- The state an abandon leaves, and that it waits for nothing. -/
theorem settle_abandon (reason : String) (o : Thread.Oracle (Answer Req Arch)) :
    (abandon reason : Job β Req Arch _).settle Ask.instant o 0 d =
      if d.build.status = .COMPLETED ∨ d.build.status = .ABANDONED then
        (.threw (.already d.build.status), d)
      else
        (.ok .done,
          { d with
            build := { d.build with status := .ABANDONED, failureReason := some reason }
            watch := { d.watch with abandoned := true } }) := by
  by_cases h : d.build.status = .COMPLETED ∨ d.build.status = .ABANDONED
  · rw [if_pos h]
    change (if d.build.status = .COMPLETED ∨ d.build.status = .ABANDONED then _ else _ :
      Job β Req Arch (Reply β)).settle Ask.instant o 0 d = _
    rw [if_pos h]
    rfl
  · rw [if_neg h]
    change (if d.build.status = .COMPLETED ∨ d.build.status = .ABANDONED then _ else _ :
      Job β Req Arch (Reply β)).settle Ask.instant o 0 d = _
    rw [if_neg h]
    rfl

/-- **An abandon** starts well where it is refused, or no call that sets the status waits. -/
theorem starts_abandon {p : Calls β Req Arch} {reason : String}
    {o : Thread.Oracle (Answer Req Arch)} (h : StaysAbandoned p.shared)
    (halone : (p.shared.build.status = .COMPLETED ∨ p.shared.build.status = .ABANDONED) ∨
      ∀ entry ∈ p.threads, entry.2.ended = true ∨ entry.1.setsStatus = false) :
    p.Starts Ask.instant (program T) abandonContract (.abandon reason) o := by
  have hsettle := settle_abandon (d := p.shared) reason o
  have hend : (program T (.abandon reason)).settle Ask.instant o 0 p.shared = _ := hsettle
  by_cases hdone : p.shared.build.status = .COMPLETED ∨ p.shared.build.status = .ABANDONED
  · rw [if_pos hdone] at hend
    refine ⟨?_, ?_, fun entry _ _ _ => ?_⟩
    · rw [hend]
      exact h
    · rw [hend]
      trivial
    · rw [hend]
  · rw [if_neg hdone] at hend
    refine ⟨?_, ?_, fun entry hentry hwaits hsets => ?_⟩
    · rw [hend]
      exact ⟨fun _ => rfl, h.unapproved⟩
    · rw [hend]
      trivial
    · rcases halone.resolve_left hdone entry hentry with hended | hfree
      · rw [hended] at hwaits
        cases hwaits
      · rw [hfree] at hsets
        cases hsets

/-! ## 3. Runs -/

/-- An abandon finds no call under way that will set the status; after it no design is begun, and
    an approval or a build only where its own check refuses it. -/
def abandonedForGood (p : Calls β Req Arch) : CallTurn β Req Arch → Bool
  | .start .runToApproval _ => !p.shared.watch.abandoned
  | .start (.approve acknowledgeFindings) _ =>
    !p.shared.watch.abandoned || decide (p.shared.build.stage ≠ .AWAITING_APPROVAL) ||
      !(p.shared.build.unacknowledged acknowledgeFindings).isEmpty
  | .start .runBuild _ =>
    !p.shared.watch.abandoned || p.shared.build.approvedAt.isNone ||
      p.shared.build.currentBlueprint.isNone
  | .start (.abandon _) _ =>
    decide (p.shared.build.status = .COMPLETED ∨ p.shared.build.status = .ABANDONED) ||
      p.threads.all fun entry => entry.2.ended || !entry.1.setsStatus
  | _ => true

theorem starts_final {p : Calls β Req Arch} {op : Op β} {o : Thread.Oracle (Answer Req Arch)}
    (h : StaysAbandoned p.shared) (hguard : abandonedForGood p (.start op o) = true) :
    p.Starts Ask.instant (program T) abandonContract op o := by
  cases op with
  | runToApproval =>
    have hfalse : p.shared.watch.abandoned = false := by
      simpa only [abandonedForGood, Bool.not_eq_true'] using hguard
    exact Pool.starts_of_safe h
      (abandon_of_within (runToApproval_tame T) (fun _ _ => unnoted_of_tame) rfl h hfalse)
  | approve acknowledgeFindings =>
    refine Pool.starts_of_safe h (approve_abandoned h fun habandoned => ?_)
    simpa [abandonedForGood, habandoned] using hguard
  | abandon reason =>
    refine starts_abandon h ?_
    simpa [abandonedForGood] using hguard
  | reconcileOrphanedBuilds => exact Pool.starts_of_safe h (reconcile_abandoned h)
  | editBlueprint patch =>
    exact Pool.starts_of_safe h (abandon_of_steady (editBlueprint_within covers_steady T patch) h)
  | runUserSimulations ids =>
    exact Pool.starts_of_safe h (abandon_of_steady (runUserSimulations_within covers_steady ids) h)
  | runBuild =>
    refine Pool.starts_of_safe h (runBuild_abandoned h fun habandoned => ?_)
    simpa [abandonedForGood, habandoned] using hguard

/-- **An abandon is final.** In every run that meets the conditions, a build that was abandoned is
    ABANDONED and no approval of it succeeded since. -/
theorem abandoned_final {id projectId userId : String} {idempotencyKey : Option String}
    {p : Calls β Req Arch}
    (h : Reaches (guarded (Calls.step T) fun p turn => abandonedForGood p turn = true)
      (Calls.new id projectId userId idempotencyKey) p)
    (habandoned : p.shared.watch.abandoned = true) :
    p.shared.build.status = .ABANDONED ∧ p.shared.watch.approvedAfter = false := by
  have hnew : (Calls.new id projectId userId idempotencyKey : Calls β Req Arch).Lawful
      Ask.instant abandonContract := Pool.lawful_idle (staysAbandoned_of_not rfl rfl)
  have hlawful := Pool.lawful_reaches (fun p op o hp hguard => starts_final hp.inv hguard) h hnew
  exact ⟨hlawful.inv.status habandoned, hlawful.inv.unapproved⟩

/-- A design that is abandoned at the approval boundary. -/
def declinedTurns : List (CallTurn Bool Unit Unit) :=
  designTurns ++ [.start (.abandon "not this one") willing]

/-- The design that was declined. -/
theorem declined_final :
    ∃ p, Reaches (guarded (Calls.step plainTools) fun p turn => abandonedForGood p turn = true)
        (Calls.new "bld_1" "prj_1" "usr_1" none) p ∧
      p.shared.watch.abandoned = true ∧ p.shared.build.status = .ABANDONED ∧
      p.shared.watch.approvedAfter = false := by
  have hrun : ∃ p, Reaches
      (guarded (Calls.step plainTools) fun p turn => abandonedForGood p turn = true)
      (Calls.new "bld_1" "prj_1" "usr_1" none) p ∧ p.shared.watch.abandoned = true :=
    reaches_of_observed (fun p : Calls Bool Unit Unit => p.shared.watch.abandoned)
      declinedTurns rfl
  obtain ⟨p, hreach, habandoned⟩ := hrun
  exact ⟨p, hreach, habandoned, abandoned_final hreach habandoned⟩

/-! ## 4. Builds that come back -/

/-- **Completed after an abandon** that came while the build awaited its sandbox. -/
theorem completed_after_abandon :
    ∃ p, Reaches (Calls.step plainTools) (Calls.new "bld_1" "prj_1" "usr_1" none) p ∧
      (p.shared.watch.abandoned, p.shared.build.status) = (true, .COMPLETED) :=
  reaches_of_observed
    (fun p : Calls Bool Unit Unit => (p.shared.watch.abandoned, p.shared.build.status))
    (designTurns ++ [.start (.approve []) willing, .start .runBuild willing,
      .start (.abandon "not this one") willing] ++ List.replicate 8 (.resume 2 willing)) rfl

end ContextLock.Studio
