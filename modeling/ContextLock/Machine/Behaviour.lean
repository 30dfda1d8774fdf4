/-
  Subject:   Arbitrary outside code around a state with plain calls and guarded entries.

  A monitor offers its outside PLAIN CALLS (they run to completion by themselves) and
  GUARDED ENTRIES (they run, hand control to a callee of the outside's choice, and go on).
  Outside code is a `Behaviour`: a tree of calls, entries with the callee's behaviour, nested
  frames and a last return or revert. What a frame did is dropped when it reverts.

  `Behaviour` fixes one resolution of every choice the outside makes, so a statement about
  all behaviours is one about every program the outside may run, whatever it reads.
-/
import Mathlib.Logic.Basic

namespace ContextLock.Machine

/-! ## 1. Behaviours -/

/-- Outside code: `ω` are the plain calls, `η` the guarded entries, `ρ` the returned data. -/
inductive Behaviour (ω η ρ : Type) where
  | halt (ok : Bool) (ret : ρ)
  | call (o : ω) (next : Bool → Behaviour ω η ρ)
  | enter (e : η) (callee : Behaviour ω η ρ) (next : Bool → Behaviour ω η ρ)
  | frame (body : Behaviour ω η ρ) (next : Bool → Behaviour ω η ρ)

/-- A monitor over states `σ`: `call` is a plain call, `enter e callee` a guarded entry that
    may hand control to `callee`. Errors leave no state behind. -/
structure Monitor (σ ω η ρ ε δ : Type) where
  call : ω → σ → Except ε σ
  enter : η → (σ → Except ρ (σ × ρ)) → σ → Except δ (σ × ρ)

variable {σ ω η ρ ε δ : Type}

/-- Running a behaviour. A failing call, entry or frame is seen by the code around it as
    `false` and leaves the state as it was. -/
def Monitor.run (M : Monitor σ ω η ρ ε δ) : Behaviour ω η ρ → σ → Except ρ (σ × ρ)
  | .halt true ret => fun s => .ok (s, ret)
  | .halt false ret => fun _ => .error ret
  | .call o next => fun s =>
    match M.call o s with
    | .ok s' => Monitor.run M (next true) s'
    | .error _ => Monitor.run M (next false) s
  | .enter e callee next => fun s =>
    match M.enter e (Monitor.run M callee) s with
    | .ok (s', _) => Monitor.run M (next true) s'
    | .error _ => Monitor.run M (next false) s
  | .frame body next => fun s =>
    match Monitor.run M body s with
    | .ok (s', _) => Monitor.run M (next true) s'
    | .error _ => Monitor.run M (next false) s

/-- The calls a behaviour makes are permitted: `P c o` says that call `o` may be made while
    the callee of entry `c` runs (`none`: outside every entry). -/
def Behaviour.Within (P : Option η → ω → Prop) : Option η → Behaviour ω η ρ → Prop
  | _, .halt _ _ => True
  | c, .call o next => P c o ∧ ∀ b, (next b).Within P c
  | c, .enter e callee next => callee.Within P (some e) ∧ ∀ b, (next b).Within P c
  | c, .frame body next => body.Within P c ∧ ∀ b, (next b).Within P c

theorem Behaviour.within_all (b : Behaviour ω η ρ) (c : Option η) :
    b.Within (fun _ _ => True) c := by
  induction b generalizing c with
  | halt ok ret => trivial
  | call o next ih => exact ⟨trivial, fun b => ih b c⟩
  | enter e callee next ihc ih => exact ⟨ihc (some e), fun b => ih b c⟩
  | frame body next ihb ih => exact ⟨ihb c, fun b => ih b c⟩

/-! ## 2. Relations across a behaviour -/

/-- **A family of relations every step meets**: `rel c` relates the states before and after
    anything that runs in context `c`. For an entry the relation may be assumed of its
    callee, in the callee's context. -/
structure StepRel (M : Monitor σ ω η ρ ε δ) (P : Option η → ω → Prop)
    (rel : Option η → σ → σ → Prop) : Prop where
  refl : ∀ c s, rel c s s
  trans : ∀ {c s t u}, rel c s t → rel c t u → rel c s u
  call : ∀ {c o s s'}, P c o → M.call o s = .ok s' → rel c s s'
  enter : ∀ {c e callee s s' r}, (∀ t t' r', callee t = .ok (t', r') → rel (some e) t t') →
    M.enter e callee s = .ok (s', r) → rel c s s'

section Run

variable {M : Monitor σ ω η ρ ε δ} {P : Option η → ω → Prop} {rel : Option η → σ → σ → Prop}

/-- **Such a family holds across every behaviour.** -/
theorem StepRel.run (h : StepRel M P rel) :
    ∀ (b : Behaviour ω η ρ) (c : Option η) (s s' : σ) (r : ρ), b.Within P c →
      M.run b s = .ok (s', r) → rel c s s' := by
  intro b
  induction b with
  | halt ok ret =>
    intro c s s' r _ hr
    cases ok with
    | true => cases hr; exact h.refl c s
    | false => cases hr
  | call o next ih =>
    intro c s s' r hw hr
    simp only [Monitor.run] at hr
    split at hr
    · rename_i t ht
      exact h.trans (h.call hw.1 ht) (ih true c t s' r (hw.2 true) hr)
    · exact ih false c s s' r (hw.2 false) hr
  | enter e callee next ihc ih =>
    intro c s s' r hw hr
    simp only [Monitor.run] at hr
    split at hr
    · rename_i t q ht
      have hcallee : ∀ u u' r', M.run callee u = .ok (u', r') → rel (some e) u u' :=
        fun u u' r' => ihc (some e) u u' r' hw.1
      exact h.trans (h.enter hcallee ht) (ih true c t s' r (hw.2 true) hr)
    · exact ih false c s s' r (hw.2 false) hr
  | frame body next ihb ih =>
    intro c s s' r hw hr
    simp only [Monitor.run] at hr
    split at hr
    · rename_i t q ht
      exact h.trans (ihb c s t q hw.1 ht) (ih true c t s' r (hw.2 true) hr)
    · exact ih false c s s' r (hw.2 false) hr

end Run

/-! ## 3. Runs of transactions and moves of the environment -/

def Monitor.transact (M : Monitor σ ω η ρ ε δ) (b : Behaviour ω η ρ) (s : σ) : σ :=
  match M.run b s with
  | .ok (s', _) => s'
  | .error _ => s

/-- **States a run can be in** between two transactions, from `s₀`: every transaction within
    the permissions, and between transactions the environment moves by `env`. -/
inductive Reach (M : Monitor σ ω η ρ ε δ) (P : Option η → ω → Prop) (env : σ → σ → Prop)
    (s₀ : σ) : σ → Prop where
  | start : Reach M P env s₀ s₀
  | transaction {s : σ} (h : Reach M P env s₀ s) (b : Behaviour ω η ρ) (hw : b.Within P none) :
      Reach M P env s₀ (M.transact b s)
  | env {s s' : σ} (h : Reach M P env s₀ s) (he : env s s') : Reach M P env s₀ s'

section Runs

variable {M : Monitor σ ω η ρ ε δ} {P : Option η → ω → Prop} {env : σ → σ → Prop}
  {rel : Option η → σ → σ → Prop} {s₀ s : σ}

theorem Monitor.transact_ok {b : Behaviour ω η ρ} {s' : σ} {r : ρ} (h : M.run b s = .ok (s', r)) :
    M.transact b s = s' := by
  simp [Monitor.transact, h]

theorem StepRel.transact (h : StepRel M P rel) {b : Behaviour ω η ρ} (hw : b.Within P none)
    (s : σ) : rel none s (M.transact b s) := by
  unfold Monitor.transact
  split
  · rename_i s' r hr
    exact h.run b none s s' r hw hr
  · exact h.refl none s

/-- **A family every step meets holds across every run** that the environment respects. -/
theorem StepRel.reach (h : StepRel M P rel) (henv : ∀ s s', env s s' → rel none s s')
    (hr : Reach M P env s₀ s) : rel none s₀ s := by
  induction hr with
  | start => exact h.refl none s₀
  | transaction _ b hw ih => exact h.trans ih (h.transact hw _)
  | env _ he ih => exact h.trans ih (henv _ _ he)

end Runs

end ContextLock.Machine
