/-
  Subject:   The values that stand in a JSON value, at any depth, and the paths they stand at.
-/
import ContextLock.Js.Object

namespace ContextLock.Js

/-- The values that stand in a value, each behind its path: the value itself, and those in its
    items and fields. -/
inductive At : Json → List String → Json → Prop where
  | self (v : Json) : At v [] v
  | item {items : List Json} {i : Nat} {v w : Json} {path : List String}
      (hv : items[i]? = some v) (h : At v path w) : At (.arr items) (toString i :: path) w
  | field {fields : List (String × Json)} {f : String × Json} {w : Json} {path : List String}
      (hf : f ∈ fields) (h : At f.2 path w) : At (.obj fields) (f.1 :: path) w

theorem At.trans {u v w : Json} {p q : List String} (huv : At u p v) (hvw : At v q w) :
    At u (p ++ q) w := by
  induction huv with
  | self => exact hvw
  | item hv _ ih => exact .item hv (ih hvw)
  | field hf _ ih => exact .field hf (ih hvw)

/-- Something in the value has the property. -/
def Somewhere (p : Json → Prop) (v : Json) : Prop := ∃ path w, At v path w ∧ p w

section Somewhere

variable {p : Json → Prop}

theorem somewhere_arr {items : List Json} :
    Somewhere p (.arr items) ↔ p (.arr items) ∨ ∃ v ∈ items, Somewhere p v := by
  constructor
  · intro h
    obtain ⟨path, w, hw, hp⟩ := h
    cases hw with
    | self => exact .inl hp
    | item hv hin => exact .inr ⟨_, List.mem_of_getElem? hv, _, _, hin, hp⟩
  · intro h
    rcases h with hp | ⟨v, hv, path, w, hin, hp⟩
    · exact ⟨[], _, .self _, hp⟩
    · obtain ⟨i, hi⟩ := List.getElem?_of_mem hv
      exact ⟨_, w, .item hi hin, hp⟩

theorem somewhere_obj {fields : List (String × Json)} :
    Somewhere p (.obj fields) ↔ p (.obj fields) ∨ ∃ f ∈ fields, Somewhere p f.2 := by
  constructor
  · intro h
    obtain ⟨path, w, hw, hp⟩ := h
    cases hw with
    | self => exact .inl hp
    | field hf hin => exact .inr ⟨_, hf, _, _, hin, hp⟩
  · intro h
    rcases h with hp | ⟨f, hf, path, w, hin, hp⟩
    · exact ⟨[], _, .self _, hp⟩
    · exact ⟨_, w, .field hf hin, hp⟩

/-- A value without items and fields. -/
def Json.Leaf : Json → Prop
  | .arr _ => False
  | .obj _ => False
  | _ => True

theorem somewhere_leaf {v : Json} (hv : v.Leaf) : Somewhere p v ↔ p v := by
  constructor
  · intro h
    obtain ⟨path, w, hw, hp⟩ := h
    cases hw with
    | self => exact hp
    | item => exact hv.elim
    | field => exact hv.elim
  · exact fun hp => ⟨[], v, .self v, hp⟩

end Somewhere

end ContextLock.Js
