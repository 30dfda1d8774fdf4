/-
  Subject:   The properties of a value: listed, looked up, and the value as a text and in a loop.
-/
import ContextLock.Js.Parse

namespace ContextLock.Js

/-! ## 1. Listing -/

/-- `a` is listed before `b`, if it was added before: array indices first, by their number. -/
def indexLe (a b : String) : Bool :=
  match arrayIndex a, arrayIndex b with
  | some m, some n => m ≤ n
  | some _, none => true
  | none, some _ => false
  | none, none => true

def listed {α : Type} (fields : List (String × α)) : List (String × α) :=
  fields.insertionSort fun f g => indexLe f.1 g.1

@[simp] theorem mem_listed {α : Type} {fields : List (String × α)} {f : String × α} :
    f ∈ listed fields ↔ f ∈ fields := List.mem_insertionSort _

/-- `Object.entries(v)` of an object or an array; anything else that is walked has none. -/
def Value.entries : Value → List (String × Value)
  | .obj fields => listed fields
  | .arr items => items.zipIdx.map fun item => (toString item.2, item.1)
  | _ => []

/-- `Object.keys(v)`; an error is a `TypeError`. -/
def Value.keys : Value → Option (List String)
  | .undefined => none
  | .null => none
  | .str s => some ((List.range (codeUnits s).length).map toString)
  | v => some (v.entries.map Prod.fst)

/-- `v.name`, for a name that nothing inherits and a value that has properties. -/
def Value.prop (v : Value) (name : String) : Value :=
  match v with
  | .obj fields => (fields.lookup name).getD .undefined
  | _ => .undefined

theorem mem_of_lookup {α : Type} {fields : List (String × α)} {k : String} {a : α}
    (h : fields.lookup k = some a) : (k, a) ∈ fields := by
  obtain ⟨before, after, hsplit, _⟩ := List.lookup_eq_some_iff.mp h
  rw [hsplit]
  exact List.mem_append_right _ List.mem_cons_self

theorem lookup_eq_none {α : Type} {fields : List (String × α)} {k : String} :
    fields.lookup k = none ↔ k ∉ fields.map Prod.fst := by
  rw [List.lookup_eq_none_iff]
  constructor
  · intro h hmem
    obtain ⟨f, hf, rfl⟩ := List.mem_map.mp hmem
    exact absurd (h f hf) (by simp)
  · intro h f hf
    exact bne_iff_ne.mpr fun heq => h (List.mem_map.mpr ⟨f, hf, heq.symm⟩)

theorem lookup_eq_some {α : Type} {fields : List (String × α)}
    (distinct : (fields.map Prod.fst).Nodup) {k : String} {a : α} :
    fields.lookup k = some a ↔ (k, a) ∈ fields := by
  refine ⟨mem_of_lookup, fun h => ?_⟩
  induction fields with
  | nil => cases h
  | cons f fs ih =>
    obtain ⟨j, b⟩ := f
    rw [List.map_cons, List.nodup_cons] at distinct
    rw [List.lookup_cons]
    rcases List.mem_cons.mp h with heq | hmem
    · cases heq
      rw [beq_self_eq_true]
    · have hne : k ≠ j := by
        rintro rfl
        exact distinct.1 (List.mem_map.mpr ⟨_, hmem, rfl⟩)
      rw [beq_false_of_ne hne]
      exact ih distinct.2 hmem

/-! ## 2. `String(v)` -/

def Double.text : Double → String
  | .finite a => String.ofList a.text
  | .negativeZero => "0"
  | .nan => "NaN"
  | .infinite negative => if negative then "-Infinity" else "Infinity"

/-- `String(v)`; an object with its own `toString`, which is no function, has none. -/
def Value.textOf : Value → Option String
  | .undefined => some "undefined"
  | .null => some "null"
  | .bool b => some (boolText b)
  | .number a => some a.text
  | .bigint n => some (toString n)
  | .str s => some s
  | .arr items => (itemTexts items).map (",".intercalate ·)
  | .obj fields => if fields.any (·.1 = "toString") then none else some "[object Object]"
  | .other _ => none
where
  itemTexts : List Value → Option (List String)
    | [] => some []
    | .null :: vs => (itemTexts vs).map ("" :: ·)
    | .undefined :: vs => (itemTexts vs).map ("" :: ·)
    | v :: vs =>
      match v.textOf, itemTexts vs with
      | some s, some ss => some (s :: ss)
      | _, _ => none

/-- `v ?? fallback`. -/
def Value.orElse (v fallback : Value) : Value :=
  match v with
  | .undefined => fallback
  | .null => fallback
  | v => v

/-- `typeof v`. -/
def Value.typeOf : Value → String
  | .undefined => "undefined"
  | .null => "object"
  | .bool _ => "boolean"
  | .number _ => "number"
  | .bigint _ => "bigint"
  | .str _ => "string"
  | .arr _ => "object"
  | .obj _ => "object"
  | .other typeName => typeName

/-- What `for (const x of v)` goes through; anything else is not iterable. -/
def Value.iterated : Value → Option (List Value)
  | .arr items => some items
  | .str s => some (s.toList.map fun c => .str (String.singleton c))
  | _ => none

/-! ## 3. Assignment -/

theorem mem_setField {fields : List (String × Value)} {f g : String × Value}
    (h : g ∈ setField fields f) : g = f ∨ g ∈ fields ∧ g.1 ≠ f.1 := by
  unfold setField at h
  split at h
  · obtain ⟨e, he, rfl⟩ := List.mem_map.mp h
    by_cases hkey : e.1 = f.1
    · rw [if_pos hkey]
      exact .inl rfl
    · rw [if_neg hkey]
      exact .inr ⟨he, hkey⟩
  · rename_i hnew
    rcases List.mem_append.mp h with hold | hlast
    · exact .inr ⟨hold, fun heq => hnew (List.mem_map.mpr ⟨g, hold, heq⟩)⟩
    · exact .inl (List.mem_singleton.mp hlast)

theorem setField_mem (fields : List (String × Value)) (f : String × Value) :
    f ∈ setField fields f := by
  unfold setField
  split
  · rename_i hkey
    obtain ⟨e, he, heq⟩ := List.mem_map.mp hkey
    exact List.mem_map.mpr ⟨e, he, if_pos heq⟩
  · exact List.mem_append_right _ (List.mem_singleton.mpr rfl)

theorem mem_setField_of_ne {fields : List (String × Value)} {f g : String × Value} (h : g ∈ fields)
    (hne : g.1 ≠ f.1) : g ∈ setField fields f := by
  unfold setField
  split
  · exact List.mem_map.mpr ⟨g, h, if_neg hne⟩
  · exact List.mem_append_left _ h

theorem keys_setField (fields : List (String × Value)) (f : String × Value) :
    (setField fields f).map Prod.fst =
      if f.1 ∈ fields.map Prod.fst then fields.map Prod.fst else fields.map Prod.fst ++ [f.1] := by
  unfold setField
  split
  · rw [List.map_map]
    refine List.map_congr_left fun g _ => ?_
    rw [Function.comp_apply]
    split
    · rename_i heq
      exact heq.symm
    · rfl
  · rw [List.map_append, List.map_singleton]

theorem nodup_setField {fields : List (String × Value)} (f : String × Value)
    (h : (fields.map Prod.fst).Nodup) : ((setField fields f).map Prod.fst).Nodup := by
  rw [keys_setField]
  split
  · exact h
  · rename_i hnew
    rw [List.nodup_append]
    refine ⟨h, List.nodup_singleton _, fun a ha b hb => ?_⟩
    rw [List.mem_singleton.mp hb]
    rintro rfl
    exact hnew ha

/-! ## 4. Parsed values -/

/-- What a text of JSON can be: objects have each key once. -/
inductive Parsed : Value → Prop where
  | null : Parsed .null
  | bool (b : Bool) : Parsed (.bool b)
  | number (a : Double) : Parsed (.number a)
  | str (s : String) : Parsed (.str s)
  | arr {items : List Value} (h : ∀ v ∈ items, Parsed v) : Parsed (.arr items)
  | obj {fields : List (String × Value)} (h : ∀ f ∈ fields, Parsed f.2)
      (distinct : (fields.map Prod.fst).Nodup) : Parsed (.obj fields)

section Lists

variable {α : Type} {P : α → Prop} {read : List Char → Option (α × List Char)} {close : Char}

theorem forall_readMore (hread : ∀ cs a rest, read cs = some (a, rest) → P a) {n : Nat}
    {cs rest : List Char} {as : List α} (h : readMore read close n cs = some (as, rest)) :
    ∀ a ∈ as, P a := by
  induction n generalizing cs as rest with
  | zero => cases h
  | succ n ih =>
    rw [readMore] at h
    split at h
    · cases h
    rename_i a t ha
    split at h
    · cases h
    split at h
    · cases h
      intro b hb
      rw [List.mem_singleton.mp hb]
      exact hread _ _ _ ha
    split at h
    · obtain ⟨r, hr, heq⟩ := Option.map_eq_some_iff.mp h
      cases heq
      have hmore : ∀ b ∈ r.1, P b := ih (show _ = some (r.1, r.2) from hr)
      exact List.forall_mem_cons.mpr ⟨hread _ _ _ ha, hmore⟩
    · cases h

theorem forall_readList (hread : ∀ cs a rest, read cs = some (a, rest) → P a)
    {cs rest : List Char} {as : List α} (h : readList read close cs = some (as, rest)) :
    ∀ a ∈ as, P a := by
  unfold readList at h
  split at h
  · cases h
  split at h
  · cases h
    intro a ha
    cases ha
  · exact forall_readMore hread h

end Lists

theorem readField_value {read : List Char → Option (Value × List Char)} {cs rest : List Char}
    {f : String × Value} (h : readField read cs = some (f, rest)) : ∃ t, read t = some (f.2, rest) := by
  unfold readField at h
  split at h
  · cases h
  split at h
  · split at h
    · cases h
    split at h
    · cases h
    split at h
    · obtain ⟨r, hr, heq⟩ := Option.map_eq_some_iff.mp h
      cases heq
      exact ⟨_, hr⟩
    · cases h
  · cases h

theorem parsed_setFields {fields done : List (String × Value)} (h : ∀ f ∈ fields, Parsed f.2)
    (hdone : ∀ f ∈ done, Parsed f.2) (hdistinct : (done.map Prod.fst).Nodup) :
    Parsed (.obj (fields.foldl setField done)) := by
  induction fields generalizing done with
  | nil => exact .obj hdone hdistinct
  | cons f fs ih =>
    obtain ⟨hf, hfs⟩ := List.forall_mem_cons.mp h
    refine ih hfs (fun g hg => ?_) (nodup_setField f hdistinct)
    rcases mem_setField hg with rfl | ⟨hold, _⟩
    · exact hf
    · exact hdone g hold

theorem parsed_readValue {nearest : Rounding} {n : Nat} {cs rest : List Char} {v : Value}
    (h : readValue nearest n cs = some (v, rest)) : Parsed v := by
  induction n generalizing cs v rest with
  | zero => cases h
  | succ n ih =>
    rw [readValue] at h
    split at h
    · cases h
    split at h
    · obtain ⟨r, _, heq⟩ := Option.map_eq_some_iff.mp h
      cases heq
      exact .str _
    split at h
    · obtain ⟨r, hr, heq⟩ := Option.map_eq_some_iff.mp h
      cases heq
      exact .arr (forall_readList (fun _ _ _ hread => ih hread) (show _ = some (r.1, r.2) from hr))
    split at h
    · obtain ⟨r, hr, heq⟩ := Option.map_eq_some_iff.mp h
      cases heq
      have hfields : ∀ f ∈ r.1, Parsed f.2 := by
        refine forall_readList (fun _ _ _ hread => ?_) (show _ = some (r.1, r.2) from hr)
        obtain ⟨t, ht⟩ := readField_value hread
        exact ih ht
      exact parsed_setFields hfields (fun f hf => by cases hf) List.nodup_nil
    have hword (word : String) {w : Value} {cs : List Char} (hw : Parsed w)
        (h : readWord word w cs = some (v, rest)) : Parsed v := by
      unfold readWord at h
      split at h
      · cases h
        exact hw
      · cases h
    split at h
    · exact hword "null" .null h
    split at h
    · exact hword "true" (.bool true) h
    split at h
    · exact hword "false" (.bool false) h
    · obtain ⟨r, _, heq⟩ := Option.map_eq_some_iff.mp h
      cases heq
      exact .number _

/-- **What is parsed has each key once**, and no other values than JSON writes. -/
theorem jsonParse_parsed {nearest : Rounding} {text : String} {v : Value}
    (h : jsonParse nearest text = some v) : Parsed v := by
  unfold jsonParse at h
  split at h
  · cases h
  · rename_i found rest hread
    split at h
    · obtain rfl := Option.some.inj h
      exact parsed_readValue hread
    · cases h

theorem Parsed.prop {v : Value} (h : Parsed v) (name : String) :
    v.prop name = .undefined ∨ Parsed (v.prop name) := by
  cases h with
  | @obj fields h _ =>
    rw [Value.prop]
    rcases hfound : fields.lookup name with _ | w
    · exact .inl rfl
    · exact .inr (h _ (mem_of_lookup hfound))
  | _ => exact .inl rfl

theorem Parsed.entries {v : Value} (h : Parsed v) : ∀ e ∈ v.entries, Parsed e.2 := by
  intro e he
  cases h with
  | obj h _ => exact h e (mem_listed.mp he)
  | arr h =>
    obtain ⟨item, hitem, rfl⟩ := List.mem_map.mp he
    exact h _ (List.fst_mem_of_mem_zipIdx hitem)
  | _ => cases he

theorem nodup_listed {α : Type} {fields : List (String × α)} (h : (fields.map Prod.fst).Nodup) :
    ((listed fields).map Prod.fst).Nodup :=
  ((List.perm_insertionSort _ fields).map Prod.fst).nodup_iff.mpr h

theorem toString_inj {m n : Nat} (h : toString m = toString n) : m = n := by
  have hdigits : Nat.toDigits 10 m = Nat.toDigits 10 n := String.ofList_injective h
  rw [← Nat.ofDigitChars_ten_toDigits (n := m), hdigits, Nat.ofDigitChars_ten_toDigits]

theorem Parsed.nodup_entries {v : Value} (h : Parsed v) : (v.entries.map Prod.fst).Nodup := by
  cases h with
  | obj _ distinct => exact nodup_listed distinct
  | @arr items _ =>
    rw [Value.entries, List.map_map]
    have hkeys : items.zipIdx.map (Prod.fst ∘ fun item => (toString item.2, item.1)) =
        (List.range items.length).map toString := by
      rw [List.range_eq_range', ← List.zipIdx_map_snd 0 items, List.map_map]
      rfl
    rw [hkeys]
    exact List.nodup_range.map fun _ _ => toString_inj
  | _ => exact List.nodup_nil

end ContextLock.Js
