/-
  Subject:   Data up to the order of keys, and the two texts of it: sorted, and as listed.
-/
import ContextLock.Js.Record
import ContextLock.Js.Reparse

namespace ContextLock.Js

/-! ## 1. The order of properties -/

theorem digits_of_arrayIndex {s : String} {n : Nat} (h : arrayIndex s = some n) :
    s.toList = Nat.toDigits 10 n := by
  unfold arrayIndex at h
  simp only at h
  split at h
  · rename_i hindex
    obtain ⟨hne, hdigits, hzero, _⟩ := hindex
    obtain rfl := Option.some.inj h
    have hlead : s.toList = ['0'] ∨ s.toList.head? ≠ some '0' := by
      by_cases hhead : s.toList.head? = some '0'
      · exact .inl (hzero hhead)
      · exact .inr hhead
    exact (toDigits_ofDigitChars hne (List.all_eq_true.mp hdigits) hlead).symm
  · cases h

theorem arrayIndex_inj {a b : String} {n : Nat} (ha : arrayIndex a = some n)
    (hb : arrayIndex b = some n) : a = b :=
  String.toList_inj.mp ((digits_of_arrayIndex ha).trans (digits_of_arrayIndex hb).symm)

theorem propertyLe_total (a b : String) : propertyLe a b = true ∨ propertyLe b a = true := by
  unfold propertyLe
  cases arrayIndex a <;> cases arrayIndex b <;> simp [textLe_total, Nat.le_total]

theorem propertyLe_trans (a b c : String) (hab : propertyLe a b = true)
    (hbc : propertyLe b c = true) : propertyLe a c = true := by
  unfold propertyLe at hab hbc ⊢
  cases ha : arrayIndex a <;> cases hb : arrayIndex b <;> cases hc : arrayIndex c <;>
    rw [ha, hb] at hab <;> rw [hb, hc] at hbc <;>
    simp only [decide_eq_true_eq, Bool.false_eq_true] at hab hbc ⊢
  · exact textLe_trans hab hbc
  · omega

theorem propertyLe_antisymm (a b : String) (hab : propertyLe a b = true)
    (hba : propertyLe b a = true) : a = b := by
  unfold propertyLe at hab hba
  cases ha : arrayIndex a <;> cases hb : arrayIndex b <;> rw [ha, hb] at hab hba <;>
    simp only [decide_eq_true_eq, Bool.false_eq_true] at hab hba
  · exact textLe_antisymm hab hba
  · obtain rfl := Nat.le_antisymm hab hba
    exact arrayIndex_inj ha hb

/-! ## 2. Data -/

/-- Data of JSON: the numbers are finite, and objects have each key once. -/
inductive Data : Value → Prop where
  | null : Data .null
  | bool (b : Bool) : Data (.bool b)
  | number {a : Double} {n : Numeral} (h : a.canonical = .num n) : Data (.number a)
  | str (s : String) : Data (.str s)
  | arr {items : List Value} (h : ∀ v ∈ items, Data v) : Data (.arr items)
  | obj {fields : List (String × Value)} (h : ∀ f ∈ fields, Data f.2)
      (distinct : (fields.map Prod.fst).Nodup) : Data (.obj fields)

/-- The same data, up to the order of keys, the sign of zero, and the fields whose names do not
    count. -/
inductive SameData (keep : String → Bool) : Value → Value → Prop where
  | null : SameData keep .null .null
  | bool (b : Bool) : SameData keep (.bool b) (.bool b)
  | number {a b : Double} (h : a.canonical = b.canonical) : SameData keep (.number a) (.number b)
  | str (s : String) : SameData keep (.str s) (.str s)
  | arr {vs ws : List Value} (hlength : vs.length = ws.length)
      (h : ∀ (i : Nat) v w, vs[i]? = some v → ws[i]? = some w → SameData keep v w) :
      SameData keep (.arr vs) (.arr ws)
  | obj {fs gs : List (String × Value)}
      (hkeys : ∀ k, keep k = true → (k ∈ fs.map Prod.fst ↔ k ∈ gs.map Prod.fst))
      (h : ∀ k v w, keep k = true → (k, v) ∈ fs → (k, w) ∈ gs → SameData keep v w) :
      SameData keep (.obj fs) (.obj gs)

/-- The keys of all objects are listed in the same order. -/
inductive SameOrder : Value → Value → Prop where
  | leaf {v w : Value} (harr : ∀ items, v ≠ .arr items) (hobj : ∀ fields, v ≠ .obj fields) :
      SameOrder v w
  | arr {vs ws : List Value}
      (h : ∀ (i : Nat) v w, vs[i]? = some v → ws[i]? = some w → SameOrder v w) :
      SameOrder (.arr vs) (.arr ws)
  | obj {fs gs : List (String × Value)}
      (hkeys : (listed fs).map Prod.fst = (listed gs).map Prod.fst)
      (h : ∀ k v w, (k, v) ∈ fs → (k, w) ∈ gs → SameOrder v w) : SameOrder (.obj fs) (.obj gs)

def isData : Value → Bool
  | .null => true
  | .bool _ => true
  | .number a => (a.canonical matches .num _)
  | .str _ => true
  | .arr items => itemsData items
  | .obj fields => fieldsData fields && decide (fields.map Prod.fst).Nodup
  | _ => false
where
  itemsData : List Value → Bool
    | [] => true
    | v :: vs => isData v && itemsData vs
  fieldsData : List (String × Value) → Bool
    | [] => true
    | (_, v) :: fs => isData v && fieldsData fs

theorem data_of_items {vs : List Value} (h : isData.itemsData vs = true) :
    ∀ v ∈ vs, isData v = true := by
  induction vs with
  | nil =>
    intro v hv
    cases hv
  | cons v vs ih =>
    rw [isData.itemsData, Bool.and_eq_true] at h
    exact List.forall_mem_cons.mpr ⟨h.1, ih h.2⟩

theorem data_of_fields {fs : List (String × Value)} (h : isData.fieldsData fs = true) :
    ∀ f ∈ fs, isData f.2 = true := by
  induction fs with
  | nil =>
    intro f hf
    cases hf
  | cons f fs ih =>
    rw [isData.fieldsData, Bool.and_eq_true] at h
    exact List.forall_mem_cons.mpr ⟨h.1, ih h.2⟩

theorem data_of_isData {v : Value} (h : isData v = true) : Data v := by
  match v with
  | .null => exact .null
  | .bool b => exact .bool b
  | .number a =>
    have hmatches : (a.canonical matches .num _) = true := h
    cases hn : a.canonical with
    | num n => exact .number hn
    | _ =>
      rw [hn] at hmatches
      cases hmatches
  | .str s => exact .str s
  | .arr items => exact .arr fun v hv => data_of_isData (data_of_items h v hv)
  | .obj fields =>
    rw [isData, Bool.and_eq_true, decide_eq_true_eq] at h
    exact .obj (fun f hf => data_of_isData (data_of_fields h.1 f hf)) h.2
  | .undefined | .bigint _ | .other _ => cases h
termination_by sizeOf v
decreasing_by
  · have := List.sizeOf_lt_of_mem hv
    simp only [Value.arr.sizeOf_spec]
    omega
  · have := List.sizeOf_lt_of_mem hf
    obtain ⟨k, w⟩ := f
    simp only [Value.obj.sizeOf_spec, Prod.mk.sizeOf_spec] at *
    omega

/-! ## 3. Forms -/

/-- The form of data, with the fields of every object in an order. -/
def formBy (order : List (String × Canonical) → List (String × Canonical)) : Value → Canonical
  | .bool b => .bool b
  | .number a => a.canonical
  | .str s => .str s
  | .arr items => .arr (formItems items)
  | .obj fields => .obj (order (formFields fields))
  | _ => .null
where
  formItems : List Value → List Canonical
    | [] => []
    | v :: vs => formBy order v :: formItems vs
  formFields : List (String × Value) → List (String × Canonical)
    | [] => []
    | (k, v) :: fs => (k, formBy order v) :: formFields fs

def sortedForm (keep : String → Bool) : Value → Canonical :=
  formBy fun fields => sortBy propertyLe Prod.fst (fields.filter fun f => keep f.1)

def listedForm : Value → Canonical := formBy listed

section Forms

variable {order : List (String × Canonical) → List (String × Canonical)}

theorem formItems_eq_map (vs : List Value) :
    formBy.formItems order vs = vs.map (formBy order) :=
  eq_map rfl (fun _ _ => by rw [formBy.formItems]) vs

theorem formFields_eq_map (fs : List (String × Value)) :
    formBy.formFields order fs = fs.map fun f => (f.1, formBy order f.2) :=
  eq_map rfl (fun _ _ => by rw [formBy.formFields]) fs

theorem formBy_arr (vs : List Value) : formBy order (.arr vs) = .arr (vs.map (formBy order)) := by
  rw [formBy, formItems_eq_map]

theorem formBy_obj (fs : List (String × Value)) :
    formBy order (.obj fs) = .obj (order (fs.map fun f => (f.1, formBy order f.2))) := by
  rw [formBy, formFields_eq_map]

/-- Data of one form is of one kind; lists and objects are left to be compared. -/
theorem kind_of_form {v w : Value} (hv : Data v) (hw : Data w)
    (h : formBy order v = formBy order w) :
    (v = .null ∧ w = .null) ∨ (∃ b, v = .bool b ∧ w = .bool b) ∨
    (∃ a b, v = .number a ∧ w = .number b ∧ a.canonical = b.canonical) ∨
    (∃ s, v = .str s ∧ w = .str s) ∨ (∃ vs ws, v = .arr vs ∧ w = .arr ws) ∨
    ∃ fs gs, v = .obj fs ∧ w = .obj gs := by
  cases hv <;> cases hw <;> simp_all [formBy]

end Forms

theorem form_of_items {α : Type} {f : Value → α} {vs ws : List Value} (h : vs.map f = ws.map f)
    {i : Nat} {v w : Value} (hv : vs[i]? = some v) (hw : ws[i]? = some w) : f v = f w := by
  have hitem : (vs.map f)[i]? = (ws.map f)[i]? := by rw [h]
  rw [List.getElem?_map, List.getElem?_map, hv, hw] at hitem
  exact Option.some.inj hitem

theorem map_eq_of_items {α : Type} {f : Value → α} {vs ws : List Value}
    (hlength : vs.length = ws.length)
    (h : ∀ (i : Nat) v w, vs[i]? = some v → ws[i]? = some w → f v = f w) :
    vs.map f = ws.map f := by
  refine List.ext_getElem (by rwa [List.length_map, List.length_map]) fun i hi hi' => ?_
  rw [List.getElem_map, List.getElem_map]
  rw [List.length_map] at hi hi'
  exact h i _ _ (List.getElem?_eq_getElem hi) (List.getElem?_eq_getElem hi')

/-! ## 4. The sorted form -/

section Sorted

variable {keep : String → Bool}

theorem sortedForm_obj (fs : List (String × Value)) : sortedForm keep (.obj fs) =
    .obj (sortBy propertyLe Prod.fst
      ((fs.map fun f => (f.1, sortedForm keep f.2)).filter fun f => keep f.1)) := formBy_obj fs

theorem mem_sortedFields {fs : List (String × Value)} {k : String} {c : Canonical} :
    (k, c) ∈ sortBy propertyLe Prod.fst
      ((fs.map fun f => (f.1, sortedForm keep f.2)).filter fun f => keep f.1) ↔
      keep k = true ∧ ∃ v, (k, v) ∈ fs ∧ sortedForm keep v = c := by
  rw [(sortBy_perm propertyLe Prod.fst _).mem_iff, List.mem_filter, List.mem_map]
  constructor
  · rintro ⟨⟨f, hf, heq⟩, hk⟩
    obtain ⟨rfl, rfl⟩ := Prod.mk.inj heq
    exact ⟨hk, f.2, hf, rfl⟩
  · rintro ⟨hk, v, hv, rfl⟩
    exact ⟨⟨(k, v), hv, rfl⟩, hk⟩

theorem nodup_filter_keys {α : Type} {fields : List (String × α)}
    (h : (fields.map Prod.fst).Nodup) (p : String → Bool) :
    ((fields.filter fun f => p f.1).map Prod.fst).Nodup :=
  h.sublist (List.filter_sublist.map Prod.fst)

theorem keys_map {α β : Type} (f : α → β) (fields : List (String × α)) :
    (fields.map fun g => (g.1, f g.2)).map Prod.fst = fields.map Prod.fst := by
  rw [List.map_map]
  rfl

theorem field_of_sortedForm {fs gs : List (String × Value)}
    (h : sortedForm keep (.obj fs) = sortedForm keep (.obj gs)) {k : String} {v : Value}
    (hk : keep k = true) (hv : (k, v) ∈ fs) :
    ∃ w, (k, w) ∈ gs ∧ sortedForm keep w = sortedForm keep v := by
  rw [sortedForm_obj, sortedForm_obj] at h
  have hmem := mem_sortedFields.mpr ⟨hk, v, hv, rfl⟩
  rw [Canonical.obj.inj h] at hmem
  exact (mem_sortedFields.mp hmem).2

theorem sameData_of_sortedForm {v w : Value} (hv : Data v) (hw : Data w)
    (h : sortedForm keep v = sortedForm keep w) : SameData keep v w := by
  induction hv generalizing w with
  | @obj fs hfields distinct ih =>
    rcases kind_of_form (.obj hfields distinct) hw h with ⟨h', _⟩ | ⟨_, h', _⟩ | ⟨_, _, h', _⟩ |
      ⟨_, h', _⟩ | ⟨_, _, h', _⟩ | ⟨_, gs, h', rfl⟩
    case inr.inr.inr.inr.inr =>
      cases hw with
      | obj hgs distinct' =>
        have hmem {as bs : List (String × Value)}
            (hform : sortedForm keep (.obj as) = sortedForm keep (.obj bs)) {k : String}
            (hk : keep k = true) (hkey : k ∈ as.map Prod.fst) : k ∈ bs.map Prod.fst := by
          obtain ⟨f, hf, rfl⟩ := List.mem_map.mp hkey
          obtain ⟨w, hw, _⟩ := field_of_sortedForm hform hk hf
          exact List.mem_map.mpr ⟨(f.1, w), hw, rfl⟩
        refine .obj (fun k hk => ⟨hmem h hk, hmem h.symm hk⟩) fun k v w hk hv hw => ?_
        obtain ⟨w', hw', hform⟩ := field_of_sortedForm h hk hv
        rw [← lookup_eq_some distinct'] at hw hw'
        obtain rfl := Option.some.inj (hw.symm.trans hw')
        exact ih (k, v) hv (hgs (k, w) (mem_of_lookup hw)) hform.symm
    all_goals cases h'
  | @arr vs hitems ih =>
    rcases kind_of_form (.arr hitems) hw h with ⟨h', _⟩ | ⟨_, h', _⟩ | ⟨_, _, h', _⟩ |
      ⟨_, h', _⟩ | ⟨_, ws, h', rfl⟩ | ⟨_, _, h', _⟩
    case inr.inr.inr.inr.inl =>
      cases hw with
      | arr hws =>
        rw [sortedForm, formBy_arr, formBy_arr] at h
        have hforms := Canonical.arr.inj h
        have hlength := congrArg List.length hforms
        rw [List.length_map, List.length_map] at hlength
        exact .arr hlength fun i v w hv hw => ih v (List.mem_of_getElem? hv)
          (hws w (List.mem_of_getElem? hw)) (form_of_items hforms hv hw)
    all_goals cases h'
  | null =>
    rcases kind_of_form .null hw h with ⟨_, rfl⟩ | ⟨_, h', _⟩ | ⟨_, _, h', _⟩ | ⟨_, h', _⟩ |
      ⟨_, _, h', _⟩ | ⟨_, _, h', _⟩
    case inl => exact .null
    all_goals cases h'
  | bool b =>
    rcases kind_of_form (.bool b) hw h with ⟨h', _⟩ | ⟨_, h', rfl⟩ | ⟨_, _, h', _⟩ | ⟨_, h', _⟩ |
      ⟨_, _, h', _⟩ | ⟨_, _, h', _⟩
    all_goals cases h'
    exact .bool b
  | number hn =>
    rcases kind_of_form (.number hn) hw h with ⟨h', _⟩ | ⟨_, h', _⟩ | ⟨_, _, h', rfl, heq⟩ |
      ⟨_, h', _⟩ | ⟨_, _, h', _⟩ | ⟨_, _, h', _⟩
    all_goals cases h'
    exact .number heq
  | str s =>
    rcases kind_of_form (.str s) hw h with ⟨h', _⟩ | ⟨_, h', _⟩ | ⟨_, _, h', _⟩ | ⟨_, h', rfl⟩ |
      ⟨_, _, h', _⟩ | ⟨_, _, h', _⟩
    all_goals cases h'
    exact .str s

theorem sortedForm_of_sameData {v w : Value} (h : SameData keep v w) (hv : Data v)
    (hw : Data w) : sortedForm keep v = sortedForm keep w := by
  induction h with
  | null => rfl
  | bool b => rfl
  | number h => exact h
  | str s => rfl
  | arr hlength _ ih =>
    cases hv with
    | arr hvs =>
      cases hw with
      | arr hws =>
        rw [sortedForm, formBy_arr, formBy_arr]
        refine congrArg _ (map_eq_of_items hlength fun i v w hv hw => ?_)
        exact ih i v w hv hw (hvs v (List.mem_of_getElem? hv)) (hws w (List.mem_of_getElem? hw))
  | @obj fs gs hkeys _ ih =>
    cases hv with
    | obj hfs distinct =>
      cases hw with
      | obj hgs distinct' =>
        rw [sortedForm_obj, sortedForm_obj]
        have hnodup {as : List (String × Value)} (h : (as.map Prod.fst).Nodup) :
            (((as.map fun f => (f.1, sortedForm keep f.2)).filter fun f => keep f.1).map
              Prod.fst).Nodup := nodup_filter_keys (by rwa [keys_map]) keep
        refine congrArg _ (sortBy_eq_of_perm propertyLe_total propertyLe_trans
          propertyLe_antisymm (hnodup distinct) ?_)
        -- both have the same fields, each once
        rw [List.perm_ext_iff_of_nodup (hnodup distinct).of_map (hnodup distinct').of_map]
        rintro ⟨k, c⟩
        rw [← (sortBy_perm propertyLe Prod.fst _).mem_iff, mem_sortedFields,
          ← (sortBy_perm propertyLe Prod.fst _).mem_iff, mem_sortedFields]
        refine and_congr_right fun hk => ⟨?_, ?_⟩
        · rintro ⟨v, hv, rfl⟩
          obtain ⟨g, hg, rfl⟩ := List.mem_map.mp
            ((hkeys k hk).mp (List.mem_map.mpr ⟨(k, v), hv, rfl⟩))
          exact ⟨g.2, hg, (ih g.1 v g.2 hk hv hg (hfs _ hv) (hgs _ hg)).symm⟩
        · rintro ⟨w, hw, rfl⟩
          obtain ⟨f, hf, rfl⟩ := List.mem_map.mp
            ((hkeys k hk).mpr (List.mem_map.mpr ⟨(k, w), hw, rfl⟩))
          exact ⟨f.2, hf, ih f.1 f.2 w hk hf hw (hfs _ hf) (hgs _ hw)⟩

/-- **The sorted form is the same exactly for the same data.** -/
theorem sortedForm_eq_iff {v w : Value} (hv : Data v) (hw : Data w) :
    sortedForm keep v = sortedForm keep w ↔ SameData keep v w :=
  ⟨sameData_of_sortedForm hv hw, fun h => sortedForm_of_sameData h hv hw⟩

end Sorted

/-! ## 5. The listed form -/

theorem map_listed {α β : Type} (f : α → β) (fields : List (String × α)) :
    (listed fields).map (fun g => (g.1, f g.2)) = listed (fields.map fun g => (g.1, f g.2)) :=
  map_sortBy indexLe Prod.fst (fun g => (g.1, f g.2)) Prod.fst (fun _ => rfl) fields

theorem listedForm_obj (fs : List (String × Value)) :
    listedForm (.obj fs) = .obj ((listed fs).map fun f => (f.1, listedForm f.2)) := by
  rw [listedForm, formBy_obj, map_listed]

theorem map_eq_of_keys {α : Type} {f : Value → α} {fs gs : List (String × Value)}
    (hkeys : fs.map Prod.fst = gs.map Prod.fst)
    (h : ∀ k v w, (k, v) ∈ fs → (k, w) ∈ gs → f v = f w) :
    (fs.map fun g => (g.1, f g.2)) = gs.map fun g => (g.1, f g.2) := by
  induction fs generalizing gs with
  | nil =>
    rw [List.map_nil, eq_comm, List.map_eq_nil_iff] at hkeys
    rw [hkeys]
  | cons a fs ih =>
    obtain ⟨k, v⟩ := a
    rcases gs with _ | ⟨⟨k', w⟩, gs⟩
    · cases hkeys
    · rw [List.map_cons, List.map_cons] at hkeys
      obtain ⟨rfl, hrest⟩ := List.cons.inj hkeys
      rw [List.map_cons, List.map_cons, h k v w List.mem_cons_self List.mem_cons_self,
        ih hrest fun j x y hx hy => h j x y (List.mem_cons_of_mem _ hx) (List.mem_cons_of_mem _ hy)]

/-- All names count. -/
def everyKey (_ : String) : Bool := true

/-- **The listed form of the same data** is the same exactly where the keys are listed in the same
    order. -/
theorem listedForm_eq_iff {v w : Value} (h : SameData everyKey v w) (hv : Data v) (hw : Data w) :
    listedForm v = listedForm w ↔ SameOrder v w := by
  induction h with
  | null | bool b | str s =>
    exact ⟨fun _ => .leaf (fun _ h => by cases h) (fun _ h => by cases h), fun _ => rfl⟩
  | number h => exact ⟨fun _ => .leaf (fun _ h => by cases h) (fun _ h => by cases h), fun _ => h⟩
  | @arr vs ws hlength _ ih =>
    cases hv with
    | arr hvs =>
      cases hw with
      | arr hws =>
        rw [listedForm, formBy_arr, formBy_arr]
        constructor
        · intro h
          refine .arr fun i v w hv hw => ?_
          exact (ih i v w hv hw (hvs v (List.mem_of_getElem? hv))
            (hws w (List.mem_of_getElem? hw))).mp (form_of_items (Canonical.arr.inj h) hv hw)
        · intro h
          refine congrArg _ (map_eq_of_items hlength fun i v w hv hw => ?_)
          refine (ih i v w hv hw (hvs v (List.mem_of_getElem? hv))
            (hws w (List.mem_of_getElem? hw))).mpr ?_
          cases h with
          | leaf harr _ => exact absurd rfl (harr vs)
          | arr h => exact h i v w hv hw
  | @obj fs gs hkeys _ ih =>
    cases hv with
    | obj hfs distinct =>
      cases hw with
      | obj hgs distinct' =>
        rw [listedForm_obj, listedForm_obj]
        constructor
        · intro h
          have hforms := Canonical.obj.inj h
          have hnames := congrArg (List.map Prod.fst) hforms
          rw [keys_map, keys_map] at hnames
          refine .obj hnames fun k v w hv hw => (ih k v w rfl hv hw (hfs _ hv) (hgs _ hw)).mp ?_
          -- the key stands once, with the value of the other
          have hmem : (k, listedForm v) ∈ (listed gs).map fun f => (f.1, listedForm f.2) :=
            hforms ▸ List.mem_map.mpr ⟨(k, v), mem_listed.mpr hv, rfl⟩
          obtain ⟨g, hg, heq⟩ := List.mem_map.mp hmem
          obtain ⟨rfl, hform⟩ := Prod.mk.inj heq
          have hg' := (lookup_eq_some distinct').mpr (mem_listed.mp hg)
          rw [(lookup_eq_some distinct').mpr hw] at hg'
          rw [← hform, Option.some.inj hg']
        · intro h
          cases h with
          | leaf _ hobj => exact absurd rfl (hobj fs)
          | obj hnames h =>
            refine congrArg _ (map_eq_of_keys hnames fun k v w hv hw => ?_)
            have hv := mem_listed.mp hv
            have hw := mem_listed.mp hw
            exact (ih k v w rfl hv hw (hfs _ hv) (hgs _ hw)).mpr (h k v w hv hw)

/-! ## 6. `JSON.stringify` -/

/-- A value whose fields stand as they are listed. -/
def relist : Value → Value
  | .arr items => .arr (relistItems items)
  | .obj fields => .obj (listed (relistFields fields))
  | v => v
where
  relistItems : List Value → List Value
    | [] => []
    | v :: vs => relist v :: relistItems vs
  relistFields : List (String × Value) → List (String × Value)
    | [] => []
    | (k, v) :: fs => (k, relist v) :: relistFields fs

theorem relistItems_eq_map (vs : List Value) : relist.relistItems vs = vs.map relist :=
  eq_map rfl (fun _ _ => by rw [relist.relistItems]) vs

theorem relistFields_eq_map (fs : List (String × Value)) :
    relist.relistFields fs = fs.map fun f => (f.1, relist f.2) :=
  eq_map rfl (fun _ _ => by rw [relist.relistFields]) fs

theorem formFields_map {α : Type} {fs : List (String × α)} {g : α → Value} {form : α → Canonical}
    (h : ∀ f ∈ fs, jsonForm (g f.2) = some (form f.2)) :
    jsonForm.formFields (fs.map fun f => (f.1, g f.2)) = fs.map fun f => (f.1, form f.2) := by
  rw [formFields_eq]
  induction fs with
  | nil => rfl
  | cons f fs ih =>
    obtain ⟨hf, hfs⟩ := List.forall_mem_cons.mp h
    rw [List.map_cons, List.flatMap_cons, ih hfs, hf]
    rfl

/-- **Data is written as it is listed.** -/
theorem jsonForm_relist {v : Value} (h : Data v) : jsonForm (relist v) = some (listedForm v) := by
  induction h with
  | null => rfl
  | bool b => rfl
  | number _ => rfl
  | str s => rfl
  | @arr items _ ih =>
    rw [relist, jsonForm, relistItems_eq_map, formItems_eq, listedForm, formBy_arr, List.map_map]
    refine congrArg (fun cs => some (Canonical.arr cs)) (List.map_congr_left fun v hv => ?_)
    rw [Function.comp_apply, ih v hv, Option.getD_some]
    rfl
  | @obj fields _ _ ih =>
    rw [relist, jsonForm, relistFields_eq_map, ← map_listed,
      formFields_map fun f hf => ih f (mem_listed.mp hf), listedForm_obj]

/-! ## 7. `walk` -/

/-- The name of a field that an assignment makes. -/
def ownKey (k : String) : Bool := k ≠ "__proto__"

theorem walkItems_data {errors : WalkErrors} {vs : List Value}
    (h : ∀ v ∈ vs, walk errors v = .ok (sortedForm ownKey v)) :
    walk.walkItems errors vs = .ok (vs.map (sortedForm ownKey)) := by
  induction vs with
  | nil => rfl
  | cons v vs ih =>
    obtain ⟨hv, hvs⟩ := List.forall_mem_cons.mp h
    rw [walk.walkItems, hv, ih hvs]
    rfl

theorem walkFields_data {errors : WalkErrors} {fs : List (String × Value)}
    (h : ∀ f ∈ fs, walk errors f.2 = .ok (sortedForm ownKey f.2)) :
    walk.walkFields errors fs = fs.map fun f => (f.1, .ok (sortedForm ownKey f.2)) := by
  induction fs with
  | nil => rfl
  | cons f fs ih =>
    obtain ⟨hf, hfs⟩ := List.forall_mem_cons.mp h
    rw [walk.walkFields, hf, ih hfs, List.map_cons]

/-- **Data is walked to its sorted form**, without the fields called `__proto__`. -/
theorem walk_data {errors : WalkErrors} {v : Value} (h : Data v) :
    walk errors v = .ok (sortedForm ownKey v) := by
  induction h with
  | null => rfl
  | bool b => rfl
  | number _ => rfl
  | str s => rfl
  | @arr items _ ih =>
    rw [walk, walkItems_data ih, sortedForm, formBy_arr]
    rfl
  | @obj fields _ distinct ih =>
    have hsorted : sortedKeys (fields.map fun f => (f.1, Except.ok (sortedForm ownKey f.2))) =
        (sortBy textLe Prod.fst fields).map fun f =>
          (f.1, (Except.ok (sortedForm ownKey f.2) : Except String Canonical)) :=
      (map_sortBy textLe Prod.fst (fun f => (f.1, Except.ok (sortedForm ownKey f.2))) Prod.fst
        (fun _ => rfl) fields).symm
    have hperm := sortBy_perm textLe Prod.fst fields
    have hkeys : (((sortBy textLe Prod.fst fields).map fun f =>
        (f.1, sortedForm ownKey f.2)).map Prod.fst).Nodup := by
      rw [keys_map]
      exact (hperm.map Prod.fst).nodup_iff.mpr distinct
    rw [walk, walkFields_data ih, hsorted, collect_ok_map, sortedForm_obj]
    refine congrArg (fun fs => Except.ok (Canonical.obj fs)) ?_
    exact sortBy_eq_of_perm propertyLe_total propertyLe_trans propertyLe_antisymm
      (nodup_filter_keys hkeys ownKey) ((hperm.map _).filter _)

theorem SameData.mono {keep keep' : String → Bool} (hkeep : ∀ k, keep' k = true → keep k = true)
    {v w : Value} (h : SameData keep v w) : SameData keep' v w := by
  induction h with
  | null => exact .null
  | bool b => exact .bool b
  | number h => exact .number h
  | str s => exact .str s
  | arr hlength _ ih => exact .arr hlength ih
  | obj hkeys _ ih =>
    exact .obj (fun k hk => hkeys k (hkeep k hk)) fun k v w hk => ih k v w (hkeep k hk)

end ContextLock.Js
