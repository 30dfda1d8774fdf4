/-
  Subject:   Computations that keep a state and call the outside, and rules about them.

  A script either ended, with a value or an error, or waits for the answer to one call. The
  state it keeps is in view at every call, so what survives a lost process and what another
  party does meanwhile can be said about every moment of waiting. An action is a script for
  every state it may start in; actions form a monad with errors and state.
-/
import Mathlib.Logic.Relation

namespace ContextLock.Machine

/-! ## 1. Scripts and actions -/

/-- A computation over states `σ` with calls `E`, answered by `R e`, and errors `ε`. -/
inductive Script (σ E : Type) (R : E → Type) (ε α : Type) where
  | ok (a : α) (s : σ)
  | threw (e : ε) (s : σ)
  | call (s : σ) (e : E) (k : R e → Script σ E R ε α)

/-- A script for every state it may start in. -/
def Act (σ E : Type) (R : E → Type) (ε α : Type) := σ → Script σ E R ε α

variable {σ E : Type} {R : E → Type} {ε α β : Type}

namespace Script

def state : Script σ E R ε α → σ
  | ok _ s => s
  | threw _ s => s
  | call s _ _ => s

/-- The script no longer waits for anything. -/
def ended : Script σ E R ε α → Bool
  | call _ _ _ => false
  | _ => true

/-- `p`, and then `f` on the value it ended with. -/
def bind (p : Script σ E R ε α) (f : α → Act σ E R ε β) : Script σ E R ε β :=
  match p with
  | ok a s => f a s
  | threw e s => threw e s
  | call s e k => call s e fun r => (k r).bind f

/-- `p` with an error as its value. -/
def attempt : Script σ E R ε α → Script σ E R ε (Except ε α)
  | ok a s => ok (.ok a) s
  | threw e s => ok (.error e) s
  | call s e k => call s e fun r => (k r).attempt

end Script

namespace Act

instance : Monad (Act σ E R ε) where
  pure a := fun s => .ok a s
  bind m f := fun s => (m s).bind f

instance : MonadStateOf σ (Act σ E R ε) where
  get := fun s => .ok s s
  set s := fun _ => .ok () s
  modifyGet f := fun s => .ok (f s).1 (f s).2

/-- End with an error. -/
def fail (e : ε) : Act σ E R ε α := fun s => .threw e s

def call (e : E) : Act σ E R ε (R e) := fun s => .call s e fun r => .ok r s

/-- `m`, with an error as its value. -/
def attempt (m : Act σ E R ε α) : Act σ E R ε (Except ε α) := fun s => (m s).attempt

/-- The value of a computation without calls, or its error. -/
def lift : Except ε α → Act σ E R ε α
  | .ok a => pure a
  | .error e => fail e

/-- Apply `f` to the state. -/
def update (f : σ → σ) : Act σ E R ε Unit := fun s => .ok () (f s)

@[simp] theorem pure_apply (a : α) (s : σ) : (pure a : Act σ E R ε α) s = .ok a s := rfl

@[simp] theorem bind_apply (m : Act σ E R ε α) (f : α → Act σ E R ε β) (s : σ) :
    (m >>= f) s = (m s).bind f := rfl

@[simp] theorem get_apply (s : σ) : (get : Act σ E R ε σ) s = .ok s s := rfl

@[simp] theorem fail_apply (e : ε) (s : σ) : (fail e : Act σ E R ε α) s = .threw e s := rfl

@[simp] theorem update_apply (f : σ → σ) (s : σ) :
    (update f : Act σ E R ε Unit) s = .ok () (f s) := rfl

@[simp] theorem call_apply (e : E) (s : σ) :
    (call e : Act σ E R ε (R e)) s = .call s e fun r => .ok r s := rfl

@[simp] theorem attempt_apply (m : Act σ E R ε α) (s : σ) : attempt m s = (m s).attempt := rfl

end Act

namespace Script

@[simp] theorem bind_ok (a : α) (s : σ) (f : α → Act σ E R ε β) :
    (ok a s).bind f = f a s := rfl

@[simp] theorem bind_threw (e : ε) (s : σ) (f : α → Act σ E R ε β) :
    (threw e s).bind f = threw e s := rfl

@[simp] theorem bind_call (s : σ) (e : E) (k : R e → Script σ E R ε α)
    (f : α → Act σ E R ε β) : (call s e k).bind f = call s e fun r => (k r).bind f := rfl

theorem bind_assoc {γ : Type} (p : Script σ E R ε α) (f : α → Act σ E R ε β)
    (g : β → Act σ E R ε γ) : (p.bind f).bind g = p.bind fun a s => (f a s).bind g := by
  induction p with
  | ok a s => rfl
  | threw e s => rfl
  | call s e k ih => exact congrArg (call s e) (funext ih)

end Script

/-! ## 2. What a script leaves alone -/

section Keeps

variable {τ : Type} {π : σ → τ} {calls : E → Prop} {t : τ}

/-- Only calls of `calls` are made, and `π` is `t` in the state at every call and end. -/
def Script.Keeps (π : σ → τ) (calls : E → Prop) (t : τ) : Script σ E R ε α → Prop
  | .ok _ s => π s = t
  | .threw _ s => π s = t
  | .call s e k => π s = t ∧ calls e ∧ ∀ r, (k r).Keeps π calls t

/-- The action leaves `π` of its state alone throughout, and makes only calls of `calls`. -/
def Act.Keeps (π : σ → τ) (calls : E → Prop) (m : Act σ E R ε α) : Prop :=
  ∀ s, (m s).Keeps π calls (π s)

theorem Script.Keeps.bind {p : Script σ E R ε α} {f : α → Act σ E R ε β}
    (hp : p.Keeps π calls t) (hf : ∀ a, (f a).Keeps π calls) : (p.bind f).Keeps π calls t := by
  induction p with
  | ok a s =>
    have hs : π s = t := hp
    exact hs ▸ hf a s
  | threw e s => exact hp
  | call s e k ih => exact ⟨hp.1, hp.2.1, fun r => ih r (hp.2.2 r)⟩

theorem Script.Keeps.attempt {p : Script σ E R ε α} (hp : p.Keeps π calls t) :
    p.attempt.Keeps π calls t := by
  induction p with
  | ok a s => exact hp
  | threw e s => exact hp
  | call s e k ih => exact ⟨hp.1, hp.2.1, fun r => ih r (hp.2.2 r)⟩

theorem Script.Keeps.map {τ' : Type} {calls' : E → Prop} {p : Script σ E R ε α} (f : τ → τ')
    (hcalls : ∀ e, calls e → calls' e) (hp : p.Keeps π calls t) :
    p.Keeps (fun s => f (π s)) calls' (f t) := by
  induction p with
  | ok a s => exact congrArg f hp
  | threw e s => exact congrArg f hp
  | call s e k ih => exact ⟨congrArg f hp.1, hcalls e hp.2.1, fun r => ih r (hp.2.2 r)⟩

namespace Act.Keeps

theorem pure (a : α) : (Pure.pure a : Act σ E R ε α).Keeps π calls := fun _ => rfl

theorem fail (e : ε) : (Act.fail e : Act σ E R ε α).Keeps π calls := fun _ => rfl

theorem get : (MonadState.get : Act σ E R ε σ).Keeps π calls := fun _ => rfl

theorem call {e : E} (he : calls e) : (Act.call e : Act σ E R ε (R e)).Keeps π calls :=
  fun _ => ⟨rfl, he, fun _ => rfl⟩

theorem update {f : σ → σ} (hf : ∀ s, π (f s) = π s) :
    (Act.update f : Act σ E R ε Unit).Keeps π calls := fun s => hf s

theorem lift (x : Except ε α) : (Act.lift x : Act σ E R ε α).Keeps π calls := by
  cases x <;> exact fun _ => rfl

theorem bind {m : Act σ E R ε α} {f : α → Act σ E R ε β} (hm : m.Keeps π calls)
    (hf : ∀ a, (f a).Keeps π calls) : (m >>= f).Keeps π calls :=
  fun s => (hm s).bind hf

theorem attempt {m : Act σ E R ε α} (hm : m.Keeps π calls) : (Act.attempt m).Keeps π calls :=
  fun s => (hm s).attempt

theorem forM {xs : List β} {f : β → Act σ E R ε PUnit} (hf : ∀ x, (f x).Keeps π calls) :
    (xs.forM f).Keeps π calls := by
  induction xs with
  | nil => exact pure _
  | cons x xs ih => exact bind (hf x) fun _ => ih

end Act.Keeps

end Keeps

/-! ## 3. Scripts in a world that moves -/

/-- What the outside may do to a script, and what is to hold while the script waits. -/
structure Rules (σ E : Type) (R : E → Type) (W : Type) where
  /-- A move of the world while the call is waiting. -/
  drift : σ → E → W → W → Prop
  /-- The answer to a call, and the world after it. -/
  answer : σ → (e : E) → W → R e → W → Prop
  /-- What is to hold at every moment of waiting. -/
  holds : σ → E → W → Prop

variable {W : Type} {ρ : Rules σ E R W}

/-- Whatever the world does, `holds` is true at every moment of waiting, and the script ends
    with `Q` or, where it throws, with `T`. -/
def Script.Safe (ρ : Rules σ E R W) (Q : α → σ → W → Prop) (T : ε → σ → W → Prop) :
    Script σ E R ε α → W → Prop
  | .ok a s, w => Q a s w
  | .threw e s, w => T e s w
  | .call s e k, w => ∀ w', Relation.ReflTransGen (ρ.drift s e) w w' →
      ρ.holds s e w' ∧ ∀ r w'', ρ.answer s e w' r w'' → (k r).Safe ρ Q T w''

namespace Script.Safe

variable {Q Q' : α → σ → W → Prop} {T T' : ε → σ → W → Prop} {p : Script σ E R ε α} {w w' : W}

theorem mono (hp : p.Safe ρ Q T w) (hQ : ∀ a s w, Q a s w → Q' a s w)
    (hT : ∀ e s w, T e s w → T' e s w) : p.Safe ρ Q' T' w := by
  induction p generalizing w with
  | ok a s => exact hQ a s w hp
  | threw e s => exact hT e s w hp
  | call s e k ih =>
    intro w' hd
    obtain ⟨hh, hk⟩ := hp w' hd
    exact ⟨hh, fun r w'' ha => ih r (hk r w'' ha)⟩

/-- **Sequencing.** -/
theorem bind {Q : β → σ → W → Prop} {f : α → Act σ E R ε β}
    (hp : p.Safe ρ (fun a s w => (f a s).Safe ρ Q T w) T w) : (p.bind f).Safe ρ Q T w := by
  induction p generalizing w with
  | ok a s => exact hp
  | threw e s => exact hp
  | call s e k ih =>
    intro w' hd
    obtain ⟨hh, hk⟩ := hp w' hd
    exact ⟨hh, fun r w'' ha => ih r (hk r w'' ha)⟩

/-- **Loops.** What every pass preserves holds after the loop. -/
theorem forM {I : σ → W → Prop} {f : β → Act σ E R ε PUnit} {xs : List β} {s : σ}
    (hf : ∀ x ∈ xs, ∀ s w, I s w → (f x s).Safe ρ (fun _ => I) T w) (hI : I s w) :
    (xs.forM f s).Safe ρ (fun _ => I) T w := by
  induction xs generalizing s w with
  | nil => exact hI
  | cons x xs ih =>
    have hrest : ∀ y ∈ xs, ∀ s w, I s w → (f y s).Safe ρ (fun _ => I) T w :=
      fun y hy => hf y (List.mem_cons_of_mem x hy)
    have hx : (f x s).Safe ρ (fun _ => I) T w := hf x List.mem_cons_self s w hI
    exact bind (hx.mono (fun _ _ _ h => ih hrest h) fun _ _ _ h => h)

/-- **Loops that get something done.** A pass for `x` brings about `J x` and undoes no `J y`. -/
theorem forM_each {I : σ → W → Prop} {J : β → σ → W → Prop} {f : β → Act σ E R ε PUnit}
    {xs : List β} {s : σ}
    (hf : ∀ x ∈ xs, ∀ s w, I s w →
      (f x s).Safe ρ (fun _ s' w' => I s' w' ∧ J x s' w' ∧ ∀ y, J y s w → J y s' w') T w)
    (hI : I s w) :
    (xs.forM f s).Safe ρ
      (fun _ s' w' => I s' w' ∧ (∀ x ∈ xs, J x s' w') ∧ ∀ y, J y s w → J y s' w') T w := by
  induction xs generalizing s w with
  | nil => exact ⟨hI, fun _ hx => absurd hx List.not_mem_nil, fun _ h => h⟩
  | cons x xs ih =>
    have hrest : ∀ y ∈ xs, ∀ s w, I s w →
        (f y s).Safe ρ (fun _ s' w' => I s' w' ∧ J y s' w' ∧ ∀ z, J z s w → J z s' w') T w :=
      fun y hy => hf y (List.mem_cons_of_mem x hy)
    refine bind ((hf x List.mem_cons_self s w hI).mono ?_ fun _ _ _ h => h)
    intro _ s₁ w₁ h₁
    obtain ⟨hI₁, hx, hkeep₁⟩ := h₁
    refine (ih hrest hI₁).mono ?_ fun _ _ _ h => h
    intro _ s₂ w₂ h₂
    obtain ⟨hI₂, hxs, hkeep₂⟩ := h₂
    refine ⟨hI₂, ?_, fun y hy => hkeep₂ y (hkeep₁ y hy)⟩
    intro y hy
    rcases List.mem_cons.mp hy with rfl | hy
    · exact hkeep₂ y hx
    · exact hxs y hy

/-- **Waiting.** An assertion that every move of the world keeps, and that is enough for what
    is to hold, still holds when the answer comes. -/
theorem wait {A : W → Prop} {s : σ} {e : E} {k : R e → Script σ E R ε α}
    (hdrift : ∀ w w', A w → ρ.drift s e w w' → A w') (hholds : ∀ w, A w → ρ.holds s e w)
    (hw : A w) (hk : ∀ w' r w'', A w' → ρ.answer s e w' r w'' → (k r).Safe ρ Q T w'') :
    (call s e k).Safe ρ Q T w := by
  intro w' hd
  have hw' : A w' := by
    induction hd with
    | refl => exact hw
    | tail _ hstep ih => exact hdrift _ _ ih hstep
  exact ⟨hholds w' hw', fun r w'' ha => hk w' r w'' hw' ha⟩

theorem drift {s : σ} {e : E} {k : R e → Script σ E R ε α} (hp : (call s e k).Safe ρ Q T w)
    (hd : ρ.drift s e w w') : (call s e k).Safe ρ Q T w' :=
  fun w'' hd' => hp w'' (Relation.ReflTransGen.head hd hd')

theorem holds {s : σ} {e : E} {k : R e → Script σ E R ε α} (hp : (call s e k).Safe ρ Q T w) :
    ρ.holds s e w := (hp w .refl).1

theorem answered {s : σ} {e : E} {k : R e → Script σ E R ε α} (hp : (call s e k).Safe ρ Q T w)
    {r : R e} (ha : ρ.answer s e w r w') : (k r).Safe ρ Q T w' := (hp w .refl).2 r w' ha

end Script.Safe

/-! ## 4. From what is kept to what is safe -/

/-- The assertion `A` about the part `π` of the state and the world survives every wait of a
    call in `calls`, and is enough for what is to hold meanwhile. -/
structure Rules.Stable {τ : Type} (ρ : Rules σ E R W) (π : σ → τ) (calls : E → Prop)
    (A : τ → W → Prop) : Prop where
  drift : ∀ s e w w', calls e → ρ.drift s e w w' → A (π s) w → A (π s) w'
  answer : ∀ s e w r w', calls e → ρ.answer s e w r w' → A (π s) w → A (π s) w'
  holds : ∀ s e w, calls e → A (π s) w → ρ.holds s e w

/-- **Frames.** A script that keeps `π` preserves every stable assertion about it. -/
theorem Script.Safe.of_keeps {τ : Type} {π : σ → τ} {calls : E → Prop} {A : τ → W → Prop} {t : τ}
    (hA : ρ.Stable π calls A) {p : Script σ E R ε α} (hp : p.Keeps π calls t) {w : W}
    (hw : A t w) :
    p.Safe ρ (fun _ s w => π s = t ∧ A t w) (fun _ s w => π s = t ∧ A t w) w := by
  induction p generalizing w with
  | ok a s => exact ⟨hp, hw⟩
  | threw e s => exact ⟨hp, hw⟩
  | call s e k ih =>
    obtain ⟨rfl, he, hk⟩ := hp
    refine wait (fun w w' h hd => hA.drift s e w w' he hd h) (fun w h => hA.holds s e w he h) hw ?_
    intro w' r w'' hw' ha
    exact ih r (hk r) (hA.answer s e w' r w'' he ha hw')

/-! ## 5. Scripts that come to an end -/

section Ends

variable {good : σ → (e : E) → R e → Prop} {answerable : E → Prop}

/-- Whatever the `good` answers, the script makes only `answerable` calls and comes to an end,
    with `Q` or, where it throws, with `T`. -/
def Script.Ends (answerable : E → Prop) (good : σ → (e : E) → R e → Prop) (Q : α → σ → Prop)
    (T : ε → σ → Prop) : Script σ E R ε α → Prop
  | .ok a s => Q a s
  | .threw e s => T e s
  | .call s e k => answerable e ∧ ∀ r, good s e r → (k r).Ends answerable good Q T

/-- The script, with the `n`th and every later call answered by `reply`. -/
def Script.follow (reply : Nat → σ → (e : E) → Option (R e)) (n : Nat) :
    Script σ E R ε α → Script σ E R ε α
  | .ok a s => .ok a s
  | .threw e s => .threw e s
  | .call s e k =>
    match reply n s e with
    | some r => (k r).follow reply (n + 1)
    | none => .call s e k

/-- Every answerable call the script makes is answered, and well. -/
def Script.Answered (answerable : E → Prop) (good : σ → (e : E) → R e → Prop)
    (reply : Nat → σ → (e : E) → Option (R e)) (n : Nat) : Script σ E R ε α → Prop
  | .ok _ _ => True
  | .threw _ _ => True
  | .call s e k =>
    match reply n s e with
    | some r => good s e r ∧ (k r).Answered answerable good reply (n + 1)
    | none => ¬ answerable e

instance Script.decidableAnswered [DecidablePred answerable] [∀ s e r, Decidable (good s e r)]
    (reply : Nat → σ → (e : E) → Option (R e)) :
    ∀ (n : Nat) (p : Script σ E R ε α), Decidable (p.Answered answerable good reply n)
  | _, .ok _ _ => isTrue trivial
  | _, .threw _ _ => isTrue trivial
  | n, .call s e k =>
    match h : reply n s e with
    | some r =>
      have := decidableAnswered reply (n + 1) (k r)
      decidable_of_iff (good s e r ∧ (k r).Answered answerable good reply (n + 1))
        (by simp only [Script.Answered, h])
    | none => decidable_of_iff (¬ answerable e) (by simp only [Script.Answered, h])

namespace Script.Ends

variable {Q Q' : α → σ → Prop} {T T' : ε → σ → Prop} {p : Script σ E R ε α}

theorem mono (hp : p.Ends answerable good Q T) (hQ : ∀ a s, Q a s → Q' a s)
    (hT : ∀ e s, T e s → T' e s) : p.Ends answerable good Q' T' := by
  induction p with
  | ok a s => exact hQ a s hp
  | threw e s => exact hT e s hp
  | call s e k ih => exact ⟨hp.1, fun r hr => ih r (hp.2 r hr)⟩

/-- **Sequencing.** -/
theorem bind {Q : β → σ → Prop} {f : α → Act σ E R ε β}
    (hp : p.Ends answerable good (fun a s => (f a s).Ends answerable good Q T) T) :
    (p.bind f).Ends answerable good Q T := by
  induction p with
  | ok a s => exact hp
  | threw e s => exact hp
  | call s e k ih => exact ⟨hp.1, fun r hr => ih r (hp.2 r hr)⟩

/-- **A script that ends is seen to end** when its calls are answered. -/
theorem follow {reply : Nat → σ → (e : E) → Option (R e)} (hp : p.Ends answerable good Q T)
    {n : Nat} (hreply : p.Answered answerable good reply n) :
    (∃ a s, p.follow reply n = .ok a s ∧ Q a s) ∨
      ∃ e s, p.follow reply n = .threw e s ∧ T e s := by
  induction p generalizing n with
  | ok a s => exact Or.inl ⟨a, s, rfl, hp⟩
  | threw e s => exact Or.inr ⟨e, s, rfl, hp⟩
  | call s e k ih =>
    cases hr : reply n s e with
    | none =>
      simp only [Script.Answered, hr] at hreply
      exact absurd hp.1 hreply
    | some r =>
      simp only [Script.Answered, hr] at hreply
      have hfollow : (Script.call s e k).follow reply n = (k r).follow reply (n + 1) := by
        simp only [Script.follow, hr]
      rw [hfollow]
      exact ih r (hp.2 r hreply.1) hreply.2

end Script.Ends

end Ends

/-! ## 6. Scripts answered by a world -/

/-- The script with every call answered at once: its end, and the world after it. -/
def Script.handle {W : Type} (answer : (e : E) → W → R e × W) :
    Script σ E R ε α → W → Except ε α × W
  | .ok a _, w => (.ok a, w)
  | .threw e _, w => (.error e, w)
  | .call _ e k, w => (k (answer e w).1).handle answer (answer e w).2

/-- **A safe script answered by a world** that keeps to the rules ends as it may. -/
theorem Script.Safe.handle {Q : α → σ → W → Prop} {T : ε → σ → W → Prop}
    {p : Script σ E R ε α} {w : W} (answer : (e : E) → W → R e × W) (hp : p.Safe ρ Q T w)
    (hanswer : ∀ s e w, ρ.answer s e w (answer e w).1 (answer e w).2) :
    (∀ a, (p.handle answer w).1 = .ok a → ∃ s, Q a s (p.handle answer w).2) ∧
      ∀ e, (p.handle answer w).1 = .error e → ∃ s, T e s (p.handle answer w).2 := by
  induction p generalizing w with
  | ok a s =>
    refine ⟨fun _ ha => ⟨s, Except.ok.inj ha ▸ hp⟩, fun _ he => ?_⟩
    cases he
  | threw e s =>
    refine ⟨fun _ ha => ?_, fun _ he => ⟨s, Except.error.inj he ▸ hp⟩⟩
    cases ha
  | call s e k ih => exact ih _ (hp.answered (hanswer s e w))

end ContextLock.Machine
