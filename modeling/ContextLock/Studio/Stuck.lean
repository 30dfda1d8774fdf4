/-
  Subject:   Which calls leave a build RUNNING.

  A build that throws in its sandbox is set to FAILED, and every other end of it sets a status. The
  design has no such handler: what a model call throws, unless it is a limit, leaves the row as it
  was. The statements of the database and the registry's lookups do not throw here.
-/
import ContextLock.Studio.Approved

namespace ContextLock.Studio

open Machine

variable {β Req Arch α γ : Type}

/-! ## 1. Ends of a job by itself -/

/-- Whatever is answered, the job by itself ends with `Q`. -/
def Ends (Q : Except StudioError α → Desk β → Prop) : Job β Req Arch α → Desk β → Prop
  | .ok a, d => Q (.ok a) d
  | .threw e, d => Q (.error e) d
  | .atom f k, d => Ends Q (k d) (f d)
  | .call _ k, d => ∀ r, Ends Q (k r) d

section

variable {Q : Except StudioError α → Desk β → Prop} {p : Job β Req Arch γ}
  {f : γ → Job β Req Arch α} {d : Desk β}

theorem Ends.run {p : Job β Req Arch α} (h : Ends Q p d) (o : Thread.Oracle (Answer Req Arch))
    (n : Nat) : Q (p.run o n d).1 (p.run o n d).2 := by
  induction p generalizing n d with
  | ok a | threw e => exact h
  | atom f k ih => exact ih d h n
  | call e k ih => exact ih _ (h _) _

theorem Ends.mono {Q Q' : Except StudioError α → Desk β → Prop} {p : Job β Req Arch α}
    (h : Ends Q p d) (hQ : ∀ r d, Q r d → Q' r d) : Ends Q' p d := by
  induction p generalizing d with
  | ok a | threw e => exact hQ _ d h
  | atom f k ih => exact ih d h
  | call e k ih => exact fun r => ih r (h r)

/-- **Sequencing**, where what comes first does not matter. -/
theorem Ends.bind (hf : ∀ a d, Ends Q (f a) d) (he : ∀ e d, Q (.error e) d) :
    Ends Q (p.bind f) d := by
  induction p generalizing d with
  | ok a => exact hf a d
  | threw e => exact he e d
  | atom g k ih => exact ih d
  | call e k ih => exact fun r => ih r

theorem Ends.all {p : Job β Req Arch α} (hQ : ∀ r d, Q r d) : Ends Q p d := by
  induction p generalizing d with
  | ok a | threw e => exact hQ _ d
  | atom g k ih => exact ih d
  | call e k ih => exact fun r => ih r

theorem Ends.seq (hp : Ends (fun r _ => r.isOk = true) p d) (hf : ∀ a d, Ends Q (f a) d) :
    Ends Q (p.bind f) d := by
  induction p generalizing d with
  | ok a => exact hf a d
  | threw e => cases hp
  | atom g k ih => exact ih d hp
  | call e k ih => exact fun r => ih r (hp r)

theorem Ends.attempt {Q : Except StudioError α → Desk β → Prop} {p : Job β Req Arch γ}
    {f : Except StudioError γ → Job β Req Arch α}
    (h : Ends (fun r d => Ends Q (f r) d) p d) : Ends Q (p.attempt.bind f) d := by
  induction p generalizing d with
  | ok a | threw e => exact h
  | atom g k ih => exact ih d h
  | call e k ih => exact fun r => ih r (h r)

end

/-! ## 2. The build -/

/-- The row is not RUNNING. -/
def Released (d : Desk β) : Prop := d.build.status ≠ .RUNNING

def ThrownOrReleased (r : Except StudioError (Reply β)) (d : Desk β) : Prop :=
  ∀ reply, r = .ok reply → Released d

variable {T : Tools β Req Arch} {blueprint : Blueprint β} {buildRevision : Nat} {d : Desk β}
  {files : List GeneratedFile}

theorem thrown (e : StudioError) (d : Desk β) : ThrownOrReleased (.error e) d :=
  fun _ h => by cases h

/-- The two calls. -/
inductive Procedure where
  | design
  | build

def Procedure.job (T : Tools β Req Arch) : Procedure → Job β Req Arch (Reply β)
  | design => runToApproval T
  | build => runBuild T

end ContextLock.Studio
