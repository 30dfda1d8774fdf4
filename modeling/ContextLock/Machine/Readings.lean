/-
  Subject:   Computations that ask questions, and what they asked.

  An answer may depend on everything that was asked before it, so the same question may be
  answered differently the second time. A computation that ends gives its value and what it
  asked, in order, with the answers.
-/
import Mathlib.Data.List.Basic

namespace ContextLock.Machine

/-- A question with its answer. -/
abbrev Asked (Q : Type) (A : Q → Type) : Type := (q : Q) × A q

/-- The answer to a question, after what was asked before it. -/
def Oracle (Q : Type) (A : Q → Type) (ε : Type) : Type :=
  List (Asked Q A) → (q : Q) → Except ε (A q)

/-- A computation that asks; `past` is what was asked before it began. -/
def Reading (Q : Type) (A : Q → Type) (ε α : Type) : Type :=
  Oracle Q A ε → (past : List (Asked Q A)) → Except ε (α × List (Asked Q A))

namespace Reading

variable {Q : Type} {A : Q → Type} {ε α β γ : Type}

/-! ## 1. What a computation is made of -/

def bind (m : Reading Q A ε α) (f : α → Reading Q A ε β) : Reading Q A ε β := fun world past =>
  match m world past with
  | .error e => .error e
  | .ok (a, asked) =>
    match f a world (past ++ asked) with
    | .error e => .error e
    | .ok (b, more) => .ok (b, asked ++ more)

instance : Monad (Reading Q A ε) where
  pure a := fun _ _ => .ok (a, [])
  bind := Reading.bind

/-- Ask one question. -/
def ask (q : Q) : Reading Q A ε (A q) := fun world past =>
  match world past q with
  | .error e => .error e
  | .ok a => .ok (a, [⟨q, a⟩])

/-- A loop whose passes add to one list. -/
def collect (f : α → Reading Q A ε (List β)) : List α → Reading Q A ε (List β)
  | [] => pure []
  | x :: xs => do
    let first ← f x
    let rest ← collect f xs
    pure (first ++ rest)

variable {world : Oracle Q A ε} {past : List (Asked Q A)}

@[simp] theorem pure_eq_ok {a b : α} {asked : List (Asked Q A)} :
    (pure a : Reading Q A ε α) world past = .ok (b, asked) ↔ b = a ∧ asked = [] := by
  constructor
  · intro h
    cases h
    exact ⟨rfl, rfl⟩
  · intro h
    obtain ⟨rfl, rfl⟩ := h
    rfl

@[simp] theorem ask_eq_ok {q : Q} {a : A q} {asked : List (Asked Q A)} :
    ask q world past = .ok (a, asked) ↔ world past q = .ok a ∧ asked = [⟨q, a⟩] := by
  unfold ask
  cases world past q with
  | error e => simp
  | ok b =>
    simp only [Except.ok.injEq, Prod.mk.injEq]
    constructor
    · intro h
      obtain ⟨rfl, rfl⟩ := h
      exact ⟨rfl, rfl⟩
    · intro h
      obtain ⟨rfl, rfl⟩ := h
      exact ⟨rfl, rfl⟩

/-- **Sequencing.** -/
theorem bind_eq_ok {m : Reading Q A ε α} {f : α → Reading Q A ε β} {b : β}
    {asked : List (Asked Q A)} :
    (m >>= f) world past = .ok (b, asked) ↔ ∃ a first rest, m world past = .ok (a, first) ∧
      f a world (past ++ first) = .ok (b, rest) ∧ asked = first ++ rest := by
  show Reading.bind m f world past = _ ↔ _
  unfold Reading.bind
  cases hm : m world past with
  | error e => simp
  | ok r =>
    obtain ⟨a, first⟩ := r
    simp only [Except.ok.injEq, Prod.mk.injEq]
    cases hf : f a world (past ++ first) with
    | error e =>
      refine ⟨fun h => ?_, fun h => ?_⟩
      · cases h
      obtain ⟨_, _, _, ⟨rfl, rfl⟩, h, -⟩ := h
      rw [hf] at h
      cases h
    | ok s =>
      obtain ⟨c, more⟩ := s
      constructor
      · intro h
        cases h
        exact ⟨a, first, more, ⟨rfl, rfl⟩, hf, rfl⟩
      · intro h
        obtain ⟨_, _, rest, ⟨rfl, rfl⟩, h, rfl⟩ := h
        rw [hf] at h
        cases h
        rfl

/-! ## 2. Loops -/

/-- **A pass of a loop.** For each element, what its pass found and asked is part of the whole. -/
theorem of_collect {f : α → Reading Q A ε (List β)} {xs : List α} {found : List β}
    {asked : List (Asked Q A)} (h : collect f xs world past = .ok (found, asked)) {x : α}
    (hx : x ∈ xs) : ∃ before some more, f x world before = .ok (some, more) ∧
      (∀ b ∈ some, b ∈ found) ∧ ∀ e ∈ more, e ∈ asked := by
  induction xs generalizing past found asked with
  | nil => cases hx
  | cons y ys ih =>
    obtain ⟨first, asked₁, _, hy, hrest, rfl⟩ := bind_eq_ok.mp h
    obtain ⟨rest, asked₂, _, hys, hend, rfl⟩ := bind_eq_ok.mp hrest
    obtain ⟨rfl, rfl⟩ := pure_eq_ok.mp hend
    rw [List.append_nil]
    rcases List.mem_cons.mp hx with rfl | hx
    · exact ⟨past, first, asked₁, hy, fun b => List.mem_append_left rest,
        fun e => List.mem_append_left asked₂⟩
    · obtain ⟨before, some, more, hf, hsome, hmore⟩ := ih hys hx
      exact ⟨before, some, more, hf, fun b hb => List.mem_append_right first (hsome b hb),
        fun e he => List.mem_append_right asked₁ (hmore e he)⟩

theorem mem_of_collect {f : α → Reading Q A ε (List β)} {xs : List α} {found : List β}
    {asked : List (Asked Q A)} (h : collect f xs world past = .ok (found, asked))
    {e : Asked Q A} (he : e ∈ asked) :
    ∃ x ∈ xs, ∃ before some more, f x world before = .ok (some, more) ∧ e ∈ more := by
  induction xs generalizing past found asked with
  | nil =>
    obtain ⟨-, rfl⟩ := pure_eq_ok.mp h
    cases he
  | cons y ys ih =>
    obtain ⟨first, asked₁, _, hy, hrest, rfl⟩ := bind_eq_ok.mp h
    obtain ⟨rest, asked₂, _, hys, hend, rfl⟩ := bind_eq_ok.mp hrest
    obtain ⟨-, rfl⟩ := pure_eq_ok.mp hend
    rw [List.append_nil] at he
    rcases List.mem_append.mp he with he | he
    · exact ⟨y, List.mem_cons_self, past, first, asked₁, hy, he⟩
    · obtain ⟨x, hx, hfound⟩ := ih hys he
      exact ⟨x, List.mem_cons_of_mem y hx, hfound⟩

/-! ## 3. Kinds of questions -/

/-- Only questions of `P` are asked. -/
def Asks (P : Q → Prop) (m : Reading Q A ε α) : Prop :=
  ∀ world past a asked, m world past = .ok (a, asked) → ∀ e ∈ asked, P e.1

namespace Asks

variable {P : Q → Prop}

theorem pure (a : α) : (Pure.pure a : Reading Q A ε α).Asks P := by
  intro world past b asked h e he
  obtain ⟨-, rfl⟩ := pure_eq_ok.mp h
  cases he

theorem ask {q : Q} (hq : P q) : (Reading.ask q : Reading Q A ε (A q)).Asks P := by
  intro world past a asked h e he
  obtain ⟨-, rfl⟩ := ask_eq_ok.mp h
  obtain rfl := List.mem_singleton.mp he
  exact hq

theorem bind {m : Reading Q A ε α} {f : α → Reading Q A ε β} (hm : m.Asks P)
    (hf : ∀ a, (f a).Asks P) : (m >>= f).Asks P := by
  intro world past b asked h e he
  obtain ⟨a, first, rest, hfirst, hrest, rfl⟩ := bind_eq_ok.mp h
  rcases List.mem_append.mp he with he | he
  · exact hm world past a first hfirst e he
  · exact hf a world _ b rest hrest e he

theorem collect {f : α → Reading Q A ε (List β)} (hf : ∀ x, (f x).Asks P) (xs : List α) :
    (Reading.collect f xs).Asks P := by
  induction xs with
  | nil => exact pure []
  | cons x xs ih => exact bind (hf x) fun first => bind ih fun rest => pure (first ++ rest)

end Asks

end Reading

end ContextLock.Machine
