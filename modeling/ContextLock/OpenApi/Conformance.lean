/-
  Subject:   Whether a response that is read conforms to the schema of its operation.

  The schema an operation declares stands in the `content` of its response, or is the response
  itself. What it says of a value: the type, the required properties, the properties, the items,
  and the schema it points to.
-/
import ContextLock.OpenApi.References
import ContextLock.OpenApi.Response

namespace ContextLock.OpenApi

open Js Machine

/-! ## 1. Conformance -/

def declaredSchema (response : Value) : Value :=
  match ((response.prop "content").prop "application/json").prop "schema" with
  | .undefined => response
  | schema => schema

/-- The number has no part after the point. -/
def isInteger : Double → Bool
  | .finite (.int _) => true
  | .finite (.decimal d) => 0 ≤ d.exponent ∨ 10 ^ d.exponent.natAbs ∣ d.mantissa
  | .negativeZero => true
  | _ => false

/-- The value is of the type of this name. -/
def HasType (type : String) (v : Value) : Prop :=
  match v with
  | .null => type = "null"
  | .bool _ => type = "boolean"
  | .number a => type = "number" ∨ (type = "integer" ∧ isInteger a = true)
  | .str _ => type = "string"
  | .arr _ => type = "array"
  | .obj _ => type = "object"
  | _ => False

def schemaTypes (schema : Value) : Option (List String) :=
  let nullable := if schema.prop "nullable" matches .bool true then ["null"] else []
  match schema.prop "type" with
  | .str type => some (type :: nullable)
  | .arr types => some (types.filterMap textShape ++ nullable)
  | _ => none

def requiredKeys (schema : Value) : List String :=
  match schema.prop "required" with
  | .arr names => names.filterMap textShape
  | _ => []

def schemaProperties (schema : Value) : List (String × Value) :=
  match schema.prop "properties" with
  | .obj properties => properties
  | _ => []

/-- The schema of the document that a schema points to. -/
def refTarget (schemas : List (String × Value)) (schema : Value) : Option Value :=
  match schema.prop "$ref" with
  | .str ref =>
    if schemaPointer.toList.isPrefixOf ref.toList then
      schemas.lookup (String.ofList (ref.toList.drop schemaPointer.toList.length))
    else none
  | _ => none

/-- The value breaks the schema, at some level. -/
inductive Violates (schemas : List (String × Value)) : Value → Value → Prop where
  | type {S v : Value} {types : List String} (h : schemaTypes S = some types)
      (hv : ∀ type ∈ types, ¬ HasType type v) : Violates schemas S v
  | required {S : Value} {fields : List (String × Value)} {k : String} (h : k ∈ requiredKeys S)
      (hk : k ∉ fields.map Prod.fst) : Violates schemas S (.obj fields)
  | property {S T w : Value} {fields : List (String × Value)} {k : String}
      (h : (k, T) ∈ schemaProperties S) (hw : (k, w) ∈ fields) (hv : Violates schemas T w) :
      Violates schemas S (.obj fields)
  | item {S w : Value} {items : List Value} (hw : w ∈ items)
      (hv : Violates schemas (S.prop "items") w) : Violates schemas S (.arr items)
  | ref {S T v : Value} (h : refTarget schemas S = some T) (hv : Violates schemas T v) :
      Violates schemas S v

def Conforms (schemas : List (String × Value)) (schema v : Value) : Prop :=
  ¬ Violates schemas schema v

/-! ## 2. What the reader passes -/

def READER_TYPES : List String := ["object", "array", "number", "integer", "string", "boolean"]

/-- The reader passes everything. -/
def Untyped (R : Value) : Prop := R ≠ .undefined ∧ R ≠ .null ∧ typeText R ∉ READER_TYPES

def passedTypes (R : Value) : List String :=
  if typeText R = "integer" then ["number"]
  else if typeText R ∈ READER_TYPES then [typeText R]
  else ["null", "boolean", "number", "string", "array", "object"]

/-- Something passes: the required properties, and those that every object inherits, can be
    there. -/
inductive Open : Value → Prop where
  | type {R : Value} (h : typeText R ≠ "object") (hu : R ≠ .undefined) (hn : R ≠ .null) : Open R
  | object {R : Value} {names : List String} (h : typeText R = "object")
      (hnames : requiredNames R = some names)
      (hsub : ∀ e ∈ declaredProperties R, e.1 ∈ names ∨ e.1 ∈ inheritedKeys → Open e.2) : Open R

/-- The reader passes what every object inherits under the key. -/
def InheritedPasses (k : String) (R : Value) : Prop :=
  Untyped R ∨ (k = "__proto__" ∧ typeText R = "object" ∧
    ∃ names, requiredNames R = some names ∧ names ⊆ inheritedKeys ∧
      ∀ e ∈ declaredProperties R, e.1 ∈ inheritedKeys → Untyped e.2)

def PassesWith (R : Value) (k : String) : Prop :=
  Untyped R ∨ (typeText R = "object" ∧ ∃ names, requiredNames R = some names ∧
    ∀ e ∈ declaredProperties R, e.1 ≠ k → e.1 ∈ names ∨ e.1 ∈ inheritedKeys → Open e.2)

/-- Some object passes that does not have the property itself. -/
def PassesWithout (R : Value) (k : String) : Prop :=
  Untyped R ∨ (typeText R = "object" ∧ ∃ names, requiredNames R = some names ∧
    (k ∈ names → k ∈ inheritedKeys) ∧ ∀ e ∈ declaredProperties R,
      (e.1 = k → k ∈ inheritedKeys → InheritedPasses k e.2) ∧
        (e.1 ≠ k → e.1 ∈ names ∨ e.1 ∈ inheritedKeys → Open e.2))

def propertyAt (R : Value) (k : String) : Value :=
  if typeText R = "object" then ((declaredProperties R).lookup k).getD (.obj []) else .obj []

/-- **The reader passes more than the schema allows**: another type, an object without a required
    property, or more at the place of a property, of the items or of what is pointed to. -/
inductive Gap (schemas : List (String × Value)) : Value → Value → Prop where
  | type {R S : Value} {types : List String} {type : String} (h : schemaTypes S = some types)
      (hpasses : type ∈ passedTypes R) (hnone : type ∉ types) (hopen : Open R) : Gap schemas R S
  | required {R S : Value} {k : String} (h : k ∈ requiredKeys S) (hopen : PassesWithout R k) :
      Gap schemas R S
  | property {R S T : Value} {k : String} (h : (k, T) ∈ schemaProperties S)
      (hopen : PassesWith R k) (hgap : Gap schemas (propertyAt R k) T) : Gap schemas R S
  | items {R S : Value} (hopen : Untyped R ∨ typeText R = "array")
      (hgap : Gap schemas (.obj []) (S.prop "items")) : Gap schemas R S
  | ref {R S T : Value} (h : refTarget schemas S = some T) (hgap : Gap schemas R T) :
      Gap schemas R S

/-! ## 3. What passes, by the type of the schema -/

def typeNameOf : Value → String
  | .null => "null"
  | .bool _ => "boolean"
  | .number _ => "number"
  | .str _ => "string"
  | .arr _ => "array"
  | .obj _ => "object"
  | _ => ""

variable {R v : Value} {own : List (String × Value)}

theorem Untyped.ne_object (h : Untyped R) : typeText R ≠ "object" := fun heq =>
  h.2.2 (by rw [heq]; decide)

theorem accepts_untyped (h : Untyped R) (v : Value) : Accepts R v := by
  have hne (t : String) (ht : t ∈ READER_TYPES) : typeText R ≠ t := fun heq => h.2.2 (heq ▸ ht)
  refine (accepts_type h.ne_object).mpr ⟨h.1, h.2.1, ?_⟩
  unfold checkType
  simp only
  rw [if_neg (hne "array" (by decide)),
    if_neg (not_or.mpr ⟨hne "number" (by decide), hne "integer" (by decide)⟩),
    if_neg (hne "string" (by decide)), if_neg (hne "boolean" (by decide))]

theorem untyped_free : Untyped (.obj []) := by
  refine ⟨fun h => ?_, fun h => ?_, ?_⟩
  · cases h
  · cases h
  · show "" ∉ READER_TYPES
    decide

/-- **What passes is of the type**, where the reader knows it. -/
theorem accepts_cases (h : Accepts R v) :
    Untyped R ∨ (typeText R ∈ READER_TYPES ∧ passedTypes R = [typeNameOf v]) := by
  by_cases hobject : typeText R = "object"
  · obtain ⟨own, _, rfl, _⟩ := (accepts_object hobject).mp h
    refine .inr ⟨by rw [hobject]; decide, ?_⟩
    rw [passedTypes, hobject]
    rfl
  · obtain ⟨hu, hn, hcheck⟩ := (accepts_type hobject).mp h
    by_cases hreader : typeText R ∈ READER_TYPES
    · refine .inr ⟨hreader, ?_⟩
      simp only [READER_TYPES, List.mem_cons, hobject, List.not_mem_nil, false_or, or_false]
        at hreader
      rcases hreader with heq | heq | heq | heq | heq
      all_goals
        rw [heq] at hcheck
        rw [passedTypes, heq]
        cases v <;> simp [checkType, typeNameOf, READER_TYPES] at hcheck ⊢
    · exact .inl ⟨hu, hn, hreader⟩

theorem typeText_of_passed {type : String} (h : typeText R ∈ READER_TYPES)
    (hpassed : passedTypes R = [type]) : type = "number" ∨ typeText R = type := by
  unfold passedTypes at hpassed
  split at hpassed
  · exact .inl (List.singleton_inj.mp hpassed).symm
  · exact .inr (by simpa using hpassed)

theorem typeNameOf_mem (h : typeText R ∈ READER_TYPES) (hv : passedTypes R = [typeNameOf v]) :
    typeNameOf v ∈ READER_TYPES := by
  rcases typeText_of_passed h hv with heq | heq
  · rw [heq]
    decide
  · rwa [← heq]

theorem untyped_of_accepts (h : Accepts R v) (hv : typeNameOf v ∉ READER_TYPES) :
    Untyped R := by
  rcases accepts_cases h with huntyped | ⟨hreader, htype⟩
  · exact huntyped
  · exact absurd (typeNameOf_mem hreader htype) hv

theorem typeNameOf_passes (h : Accepts R v) (hv : typeNameOf v ≠ "") :
    typeNameOf v ∈ passedTypes R := by
  rcases accepts_cases h with huntyped | ⟨_, htype⟩
  · have hinteger : typeText R ≠ "integer" := fun heq => huntyped.2.2 (by rw [heq]; decide)
    rw [passedTypes, if_neg hinteger, if_neg huntyped.2.2]
    cases v <;> simp [typeNameOf] at hv ⊢
  · rw [htype]
    exact List.mem_singleton.mpr rfl

theorem accepts_arr {items : List Value} :
    Accepts R (.arr items) ↔ Untyped R ∨ typeText R = "array" := by
  constructor
  · intro h
    rcases accepts_cases h with huntyped | ⟨hreader, htype⟩
    · exact .inl huntyped
    · exact .inr ((typeText_of_passed hreader htype).resolve_left (by simp [typeNameOf]))
  · rintro (huntyped | harray)
    · exact accepts_untyped huntyped _
    · have hobject : typeText R ≠ "object" := by
        rw [harray]
        decide
      have hnone : typeText R ≠ "" := by
        rw [harray]
        decide
      refine (accepts_type hobject).mpr ⟨?_, ?_, ?_⟩
      · rintro rfl
        exact hnone rfl
      · rintro rfl
        exact hnone rfl
      · rw [harray]
        rfl

/-! ## 4. What passes opens the schema -/

theorem sizeOf_entries : ∀ e ∈ v.entries, sizeOf e.2 < sizeOf v := by
  intro e he
  cases v with
  | obj fields =>
    have hmem := List.sizeOf_lt_of_mem (mem_listed.mp he)
    obtain ⟨k, w⟩ := e
    simp only [Value.obj.sizeOf_spec, Prod.mk.sizeOf_spec] at *
    omega
  | arr items =>
    obtain ⟨item, hitem, rfl⟩ := List.mem_map.mp he
    have hmem := List.sizeOf_lt_of_mem (List.fst_mem_of_mem_zipIdx hitem)
    simp only [Value.arr.sizeOf_spec]
    omega
  | _ => cases he

theorem sizeOf_prop {name : String} {e : String × Value} (h : e ∈ (v.prop name).entries) :
    sizeOf (v.prop name) < sizeOf v := by
  cases v with
  | obj fields =>
    rw [Value.prop] at h ⊢
    rcases hfound : fields.lookup name with _ | w
    · rw [hfound] at h
      cases h
    · have hmem := List.sizeOf_lt_of_mem (mem_of_lookup hfound)
      rw [Option.getD_some]
      simp only [Value.obj.sizeOf_spec, Prod.mk.sizeOf_spec] at *
      omega
  | _ => cases h

theorem sizeOf_declared {e : String × Value} (h : e ∈ declaredProperties R) :
    sizeOf e.2 < sizeOf R := Nat.lt_trans (sizeOf_entries e h) (sizeOf_prop h)

theorem open_of_accepts {R v : Value} (h : Accepts R v) : Open R := by
  by_cases hobject : typeText R = "object"
  · obtain ⟨own, names, _, hnames, hfound, hpass⟩ := (accepts_object hobject).mp h
    refine .object hobject hnames fun e he hkey => ?_
    have hsome : (found own e.1).isSome := hkey.elim (hfound e.1) fun hinherited =>
      isSome_found.mpr (.inr hinherited)
    obtain ⟨w, hw⟩ := Option.isSome_iff_exists.mp hsome
    have hsmaller := sizeOf_declared he
    exact open_of_accepts (hpass e he w hw)
  · obtain ⟨hu, hn, _⟩ := (accepts_type hobject).mp h
    exact .type hobject hu hn
termination_by sizeOf R

theorem found_prototype {key : String} : (found [("__proto__", .null)] key).isSome →
    key ∈ inheritedKeys := by
  intro h
  rcases isSome_found.mp h with hown | hinherited
  · rw [List.mem_singleton.mp hown]
    decide
  · exact hinherited

theorem typeName_prototype {key : String} {w : Value}
    (h : found [("__proto__", .null)] key = some w) : typeNameOf w ∉ READER_TYPES := by
  have hkey := found_prototype (Option.isSome_iff_exists.mpr ⟨w, h⟩)
  by_cases hproto : key = "__proto__"
  · subst hproto
    obtain rfl : Value.null = w := Option.some.inj h
    decide
  · have habsent : key ∉ [("__proto__", Value.null)].map Prod.fst := fun hmem =>
      hproto (List.mem_singleton.mp hmem)
    rw [found_inherited habsent hkey, inheritedValue, if_neg hproto] at h
    obtain rfl := Option.some.inj h
    decide

/-- **What is inherited passes** where it is not asked for. -/
theorem accepts_inherited {k : String} :
    Accepts R (inheritedValue k) ↔ InheritedPasses k R := by
  unfold InheritedPasses inheritedValue
  by_cases hk : k = "__proto__"
  · rw [if_pos hk]
    constructor
    · intro h
      rcases accepts_cases h with huntyped | ⟨hreader, htype⟩
      · exact .inl huntyped
      · have hobject := (typeText_of_passed hreader htype).resolve_left (by decide)
        obtain ⟨own, names, heq, hnames, hfound, hpass⟩ := (accepts_object hobject).mp h
        obtain rfl := Value.obj.inj heq
        refine .inr ⟨hk, hobject, names, hnames, fun key hkey => found_prototype (hfound key hkey),
          fun e he hkey => ?_⟩
        obtain ⟨w, hw⟩ := Option.isSome_iff_exists.mp (isSome_found.mpr (.inr hkey))
        exact untyped_of_accepts (hpass e he w hw) (typeName_prototype hw)
    · rintro (huntyped | ⟨_, hobject, names, hnames, hsub, hpass⟩)
      · exact accepts_untyped huntyped _
      · refine (accepts_object hobject).mpr ⟨_, names, rfl, hnames,
          fun key hkey => isSome_found.mpr (.inr (hsub hkey)), fun e he w hw => ?_⟩
        exact accepts_untyped
          (hpass e he (found_prototype (Option.isSome_iff_exists.mpr ⟨w, hw⟩))) _
  · rw [if_neg hk]
    constructor
    · intro h
      exact .inl (untyped_of_accepts h (by decide))
    · rintro (huntyped | ⟨heq, _⟩)
      · exact accepts_untyped huntyped _
      · exact absurd heq hk

theorem open_of_found {names : List String} (hfound : ∀ key ∈ names, (found own key).isSome)
    (hpass : ∀ e ∈ declaredProperties R, ∀ w, found own e.1 = some w → Accepts e.2 w) :
    ∀ e ∈ declaredProperties R, e.1 ∈ names ∨ e.1 ∈ inheritedKeys → Open e.2 := by
  intro e he hkey
  have hsome : (found own e.1).isSome := hkey.elim (hfound e.1) fun hinherited =>
    isSome_found.mpr (.inr hinherited)
  obtain ⟨w, hw⟩ := Option.isSome_iff_exists.mp hsome
  exact open_of_accepts (hpass e he w hw)

theorem accepts_obj (h : Accepts R (.obj own)) :
    Untyped R ∨ (typeText R = "object" ∧ ∃ names, requiredNames R = some names ∧
      (∀ key ∈ names, (found own key).isSome) ∧
        ∀ e ∈ declaredProperties R, ∀ w, found own e.1 = some w → Accepts e.2 w) := by
  rcases accepts_cases h with huntyped | ⟨hreader, htype⟩
  · exact .inl huntyped
  · have hobject := (typeText_of_passed hreader htype).resolve_left (by simp [typeNameOf])
    obtain ⟨own', names, heq, hnames, hfound, hpass⟩ := (accepts_object hobject).mp h
    obtain rfl := Value.obj.inj heq
    exact .inr ⟨hobject, names, hnames, hfound, hpass⟩

theorem passesWith_of_accepts (h : Accepts R (.obj own)) (k : String) : PassesWith R k := by
  rcases accepts_obj h with huntyped | ⟨hobject, names, hnames, hfound, hpass⟩
  · exact .inl huntyped
  · exact .inr ⟨hobject, names, hnames, fun e he _ => open_of_found hfound hpass e he⟩

theorem passesWithout_of_accepts {k : String} (h : Accepts R (.obj own)) (hk : k ∉ own.map Prod.fst)
    : PassesWithout R k := by
  rcases accepts_obj h with huntyped | ⟨hobject, names, hnames, hfound, hpass⟩
  · exact .inl huntyped
  · refine .inr ⟨hobject, names, hnames, fun hkey => ?_, fun e he => ⟨?_, fun _ =>
      open_of_found hfound hpass e he⟩⟩
    · exact (isSome_found.mp (hfound k hkey)).resolve_left hk
    · rintro rfl hinherited
      exact accepts_inherited.mp (hpass e he _ (found_inherited hk hinherited))

theorem accepts_propertyAt (h : Accepts R (.obj own)) {k : String} {w : Value}
    (hw : own.lookup k = some w) : Accepts (propertyAt R k) w := by
  have hfree : Accepts (.obj []) w := accepts_untyped untyped_free w
  unfold propertyAt
  rcases accepts_obj h with huntyped | ⟨hobject, names, _, _, hpass⟩
  · rw [if_neg huntyped.ne_object]
    exact hfree
  · rw [if_pos hobject]
    rcases hsub : (declaredProperties R).lookup k with _ | sub
    · exact hfree
    · exact hpass (k, sub) (mem_of_lookup hsub) w (found_own hw)

theorem hasType_typeNameOf (h : typeNameOf v ≠ "") : HasType (typeNameOf v) v := by
  cases v <;> simp [HasType, typeNameOf] at h ⊢

theorem typeNameOf_parsed (h : Parsed v) : typeNameOf v ≠ "" := by
  cases h <;> simp [typeNameOf]

/-- **Where something passes that breaks the schema, there is a gap.** -/
theorem gap_of_violates {schemas : List (String × Value)} {S : Value} (h : Violates schemas S v)
    (hv : Parsed v) (haccepts : Accepts R v) : Gap schemas R S := by
  induction h generalizing R with
  | type h hnone =>
    have htype := hasType_typeNameOf (typeNameOf_parsed hv)
    exact .type h (typeNameOf_passes haccepts (typeNameOf_parsed hv)) (fun hmem => hnone _ hmem htype)
      (open_of_accepts haccepts)
  | required h hk => exact .required h (passesWithout_of_accepts haccepts hk)
  | @property S T w fields k h hw _ ih =>
    cases hv with
    | obj hfields distinct =>
      have hlookup := (lookup_eq_some distinct).mpr hw
      exact .property h (passesWith_of_accepts haccepts k)
        (ih (hfields _ hw) (accepts_propertyAt haccepts hlookup))
  | item hw _ ih =>
    cases hv with
    | arr hitems =>
      exact .items (accepts_arr.mp haccepts) (ih (hitems _ hw) (accepts_untyped untyped_free _))
  | ref h _ ih => exact .ref h (ih hv haccepts)

/-! ## 5. A value that breaks the schema -/

theorem fifteen_normal : 15 % 10 ≠ 0 := by decide

theorem tenths_wide : (-1 : Int) < 0 ∨ 21 < digitCount 15 + (-1 : Int) := .inl (by decide)

/-- 1.5. -/
def threeHalves : Decimal := ⟨false, 15, -1, fifteen_normal, tenths_wide⟩

def ReadsHalves (nearest : Rounding) : Prop := nearest false 15 (-1) = .finite (.decimal threeHalves)

variable {nearest : Rounding}

theorem written_halves (h : ReadsHalves nearest) :
    Written nearest (.number (.finite (.decimal threeHalves))) :=
  ⟨.num (.decimal threeHalves), by rw [Canonical.reparsed, Numeral.reread, ← h]; rfl⟩

theorem exists_sample (hhalf : ReadsHalves nearest) {R : Value} {type : String}
    (htype : type ∈ passedTypes R) (hobject : typeText R ≠ "object") (hu : R ≠ .undefined)
    (hn : R ≠ .null) :
    ∃ v, Written nearest v ∧ Accepts R v ∧ ∀ t, HasType t v → t = type := by
  have hnumber : ∀ t, HasType t (.number (.finite (.decimal threeHalves))) → t = "number" := by
    rintro t (heq | ⟨_, hinteger⟩)
    · exact heq
    · exact absurd hinteger (by decide)
  have hempty : Written nearest (.arr []) := written_arr fun v hv => by cases hv
  have hfields : Written nearest (.obj []) := written_obj (fun f hf => by cases hf) List.nodup_nil
  by_cases hreader : typeText R ∈ READER_TYPES
  · have hcheck {v : Value} (h : checkType (typeText R) v = .ok) : Accepts R v :=
      (accepts_type hobject).mpr ⟨hu, hn, h⟩
    simp only [READER_TYPES, List.mem_cons, hobject, List.not_mem_nil, false_or, or_false]
      at hreader
    unfold passedTypes at htype
    rcases hreader with heq | heq | heq | heq | heq
    all_goals
      rw [heq] at htype hcheck
      obtain rfl := List.mem_singleton.mp htype
    · exact ⟨.arr [], hempty, hcheck rfl, fun _ ht => ht⟩
    · exact ⟨_, written_halves hhalf, hcheck rfl, hnumber⟩
    · exact ⟨_, written_halves hhalf, hcheck rfl, hnumber⟩
    · exact ⟨.str "", written_plain (.str ""), hcheck rfl, fun _ ht => ht⟩
    · exact ⟨.bool true, written_plain (.bool true), hcheck rfl, fun _ ht => ht⟩
  · have hpasses := accepts_untyped ⟨hu, hn, hreader⟩
    have hinteger : typeText R ≠ "integer" := fun heq => hreader (by rw [heq]; decide)
    rw [passedTypes, if_neg hinteger, if_neg hreader] at htype
    simp only [List.mem_cons, List.not_mem_nil, or_false] at htype
    rcases htype with rfl | rfl | rfl | rfl | rfl | rfl
    · exact ⟨.null, written_plain .null, hpasses _, fun _ ht => ht⟩
    · exact ⟨.bool true, written_plain (.bool true), hpasses _, fun _ ht => ht⟩
    · exact ⟨_, written_halves hhalf, hpasses _, hnumber⟩
    · exact ⟨.str "", written_plain (.str ""), hpasses _, fun _ ht => ht⟩
    · exact ⟨.arr [], hempty, hpasses _, fun _ ht => ht⟩
    · exact ⟨.obj [], hfields, hpasses _, fun _ ht => ht⟩

theorem parsed_declared (hR : Parsed R) : ∀ e ∈ declaredProperties R, Parsed e.2 := by
  unfold declaredProperties
  rcases hR.prop "properties" with hnone | hparsed
  · rw [hnone]
    intro e he
    cases he
  · exact hparsed.entries

theorem nodup_declared (hR : Parsed R) :
    ((declaredProperties R).map Prod.fst).Nodup := by
  unfold declaredProperties
  rcases hR.prop "properties" with hnone | hparsed
  · rw [hnone]
    exact List.nodup_nil
  · exact hparsed.nodup_entries

theorem parsed_propertyAt (hR : Parsed R) (k : String) : Parsed (propertyAt R k) := by
  have hfree : Parsed (.obj []) := .obj (fun f hf => by cases hf) List.nodup_nil
  unfold propertyAt
  split
  · rcases hsub : (declaredProperties R).lookup k with _ | sub
    · exact hfree
    · exact parsed_declared hR _ (mem_of_lookup hsub)
  · exact hfree

theorem exists_pick {R : Value} (hR : Parsed R) {P : String → Prop}
    (h : ∀ e ∈ declaredProperties R, P e.1 → ∃ v, Written nearest v ∧ Accepts e.2 v) :
    ∃ pick : String → Value, (∀ k, Written nearest (pick k)) ∧
      ∀ e ∈ declaredProperties R, P e.1 → Accepts e.2 (pick e.1) := by
  have hone (k : String) : ∃ v, Written nearest v ∧
      ∀ sub, (k, sub) ∈ declaredProperties R → P k → Accepts sub v := by
    by_cases hsome : ∃ sub, (k, sub) ∈ declaredProperties R ∧ P k
    · obtain ⟨sub, hsub, hk⟩ := hsome
      obtain ⟨v, hv, haccepts⟩ := h _ hsub hk
      refine ⟨v, hv, fun sub' hsub' _ => ?_⟩
      have hlookup := (lookup_eq_some (nodup_declared hR)).mpr hsub
      rw [(lookup_eq_some (nodup_declared hR)).mpr hsub'] at hlookup
      obtain rfl := Option.some.inj hlookup
      exact haccepts
    · exact ⟨.null, written_plain .null, fun sub hsub hk => absurd ⟨sub, hsub, hk⟩ hsome⟩
  choose pick hwritten hpick using hone
  exact ⟨pick, hwritten, fun e he hk => hpick e.1 e.2 he hk⟩

def objectOf (keys : List String) (pick : String → Value) : List (String × Value) :=
  keys.map fun k => (k, pick k)

theorem keys_objectOf (keys : List String) (pick : String → Value) :
    (objectOf keys pick).map Prod.fst = keys := by
  rw [objectOf, List.map_map]
  exact List.map_id keys

theorem written_objectOf {keys : List String} {pick : String → Value}
    (h : ∀ k, Written nearest (pick k)) (distinct : keys.Nodup) :
    Written nearest (.obj (objectOf keys pick)) := by
  refine written_obj (fun f hf => ?_) (by rwa [keys_objectOf])
  obtain ⟨k, _, rfl⟩ := List.mem_map.mp hf
  exact h k

/-- An object passes, whose own properties do and which inherits what is missing. -/
theorem accepts_objectOf {keys names : List String} {pick : String → Value}
    (hobject : typeText R = "object") (hnames : requiredNames R = some names)
    (hrequired : ∀ k ∈ names, k ∈ keys ∨ k ∈ inheritedKeys) (hdistinct : keys.Nodup)
    (hown : ∀ e ∈ declaredProperties R, e.1 ∈ keys → Accepts e.2 (pick e.1))
    (hinherited : ∀ e ∈ declaredProperties R, e.1 ∉ keys → e.1 ∈ inheritedKeys →
      Accepts e.2 (inheritedValue e.1)) :
    Accepts R (.obj (objectOf keys pick)) := by
  refine (accepts_object hobject).mpr ⟨_, names, rfl, hnames, fun k hk => ?_, fun e he w hw => ?_⟩
  · rw [isSome_found, keys_objectOf]
    exact hrequired k hk
  · by_cases hkey : e.1 ∈ keys
    · have hlookup : (objectOf keys pick).lookup e.1 = some (pick e.1) :=
        (lookup_eq_some (by rwa [keys_objectOf])).mpr (List.mem_map.mpr ⟨_, hkey, rfl⟩)
      rw [found_own hlookup] at hw
      obtain rfl := Option.some.inj hw
      exact hown e he hkey
    · have habsent : e.1 ∉ (objectOf keys pick).map Prod.fst := by rwa [keys_objectOf]
      have hmem : e.1 ∈ inheritedKeys :=
        (isSome_found.mp (Option.isSome_iff_exists.mpr ⟨w, hw⟩)).resolve_left habsent
      rw [found_inherited habsent hmem] at hw
      obtain rfl := Option.some.inj hw
      exact hinherited e he hkey hmem

/-- **Something that can be written passes an open schema.** -/
theorem exists_accepted (hhalf : ReadsHalves nearest) {R : Value} (h : Open R) (hR : Parsed R) :
    ∃ v, Written nearest v ∧ Accepts R v := by
  induction h with
  | @type R h hu hn =>
    have hsome : ∃ type, type ∈ passedTypes R := by
      unfold passedTypes
      split
      · exact ⟨_, List.mem_cons_self⟩
      · split <;> exact ⟨_, List.mem_cons_self⟩
    obtain ⟨type, htype⟩ := hsome
    obtain ⟨v, hwritten, haccepts, _⟩ := exists_sample hhalf htype h hu hn
    exact ⟨v, hwritten, haccepts⟩
  | @object R names h hnames _ ih =>
    obtain ⟨pick, hwritten, hpick⟩ := @exists_pick nearest R hR
      (fun j => j ∈ names ∨ j ∈ inheritedKeys) fun e he hk =>
        ih e he hk (parsed_declared hR e he)
    obtain ⟨keys, hdistinct, hmem⟩ : ∃ keys : List String, keys.Nodup ∧
        ∀ {j}, j ∈ keys ↔ j ∈ names ∨ j ∈ inheritedKeys :=
      ⟨_, List.nodup_dedup (names ++ inheritedKeys), by simp⟩
    refine ⟨_, written_objectOf hwritten hdistinct,
      accepts_objectOf h hnames (fun k hk => .inl (hmem.mpr (.inl hk))) hdistinct
        (fun e he hk => hpick e he (hmem.mp hk)) fun e _ hk hinherited => ?_⟩
    exact absurd (hmem.mpr (.inr hinherited)) hk

theorem exists_with (hhalf : ReadsHalves nearest) {R : Value} (hR : Parsed R) {k : String}
    (h : PassesWith R k) {w : Value} (hw : Written nearest w) (haccepts : Accepts (propertyAt R k) w) :
    ∃ fields, Written nearest (.obj fields) ∧ Accepts R (.obj fields) ∧ (k, w) ∈ fields := by
  rcases h with huntyped | ⟨hobject, names, hnames, hopen⟩
  · refine ⟨[(k, w)], written_obj (fun f hf => ?_) (List.nodup_singleton _),
      accepts_untyped huntyped _, List.mem_singleton.mpr rfl⟩
    rwa [List.mem_singleton.mp hf]
  · obtain ⟨pick, hwritten, hpick⟩ := @exists_pick nearest R hR
      (fun j => j ≠ k ∧ (j ∈ names ∨ j ∈ inheritedKeys)) fun e he hj =>
        exists_accepted hhalf (hopen e he hj.1 hj.2) (parsed_declared hR e he)
    obtain ⟨keys, hdistinct, hmem⟩ : ∃ keys : List String, keys.Nodup ∧
        ∀ {j}, j ∈ keys ↔ j = k ∨ j ∈ names ∨ j ∈ inheritedKeys :=
      ⟨_, List.nodup_dedup (k :: (names ++ inheritedKeys)), by simp⟩
    obtain ⟨values, hself, hother⟩ : ∃ values : String → Value, values k = w ∧
        ∀ {j}, j ≠ k → values j = pick j :=
      ⟨Function.update pick k w, Function.update_self k w pick,
        fun hj => Function.update_of_ne hj w pick⟩
    refine ⟨objectOf keys values, written_objectOf (fun j => ?_) hdistinct,
      accepts_objectOf hobject hnames (fun j hj => .inl (hmem.mpr (.inr (.inl hj))))
        hdistinct (fun e he hj => ?_) (fun e _ hj hinherited => ?_), ?_⟩
    · by_cases hj : j = k
      · rwa [hj, hself]
      · rw [hother hj]
        exact hwritten j
    · by_cases hkey : e.1 = k
      · have hlookup : (declaredProperties R).lookup k = some e.2 :=
          (lookup_eq_some (nodup_declared hR)).mpr (hkey ▸ he)
        rw [propertyAt, if_pos hobject, hlookup, Option.getD_some] at haccepts
        rwa [hkey, hself]
      · rw [hother hkey]
        exact hpick e he ⟨hkey, (hmem.mp hj).resolve_left hkey⟩
    · exact absurd (hmem.mpr (.inr (.inr hinherited))) hj
    · exact List.mem_map.mpr ⟨k, hmem.mpr (.inl rfl), by rw [hself]⟩

theorem exists_without (hhalf : ReadsHalves nearest) {R : Value} (hR : Parsed R) {k : String}
    (h : PassesWithout R k) :
    ∃ fields, Written nearest (.obj fields) ∧ Accepts R (.obj fields) ∧
      k ∉ fields.map Prod.fst := by
  rcases h with huntyped | ⟨hobject, names, hnames, hrequired, hdeclared⟩
  · exact ⟨[], written_obj (fun f hf => by cases hf) List.nodup_nil, accepts_untyped huntyped _,
      List.not_mem_nil⟩
  · obtain ⟨pick, hwritten, hpick⟩ := @exists_pick nearest R hR
      (fun j => j ≠ k ∧ (j ∈ names ∨ j ∈ inheritedKeys)) fun e he hj =>
        exists_accepted hhalf ((hdeclared e he).2 hj.1 hj.2) (parsed_declared hR e he)
    obtain ⟨keys, hdistinct, hmem⟩ : ∃ keys : List String, keys.Nodup ∧
        ∀ {j}, j ∈ keys ↔ (j ∈ names ∨ j ∈ inheritedKeys) ∧ j ≠ k :=
      ⟨_, List.nodup_dedup ((names ++ inheritedKeys).filter (· ≠ k)), by simp [or_and_right]⟩
    refine ⟨objectOf keys pick, written_objectOf hwritten hdistinct,
      accepts_objectOf hobject hnames (fun j hj => ?_) hdistinct
        (fun e he hj => hpick e he ⟨(hmem.mp hj).2, (hmem.mp hj).1⟩)
        (fun e he hj hinherited => ?_), ?_⟩
    · by_cases hkey : j = k
      · exact .inr (hkey ▸ hrequired (hkey ▸ hj))
      · exact .inl (hmem.mpr ⟨.inl hj, hkey⟩)
    · have hkey : e.1 = k := by
        by_contra hne
        exact hj (hmem.mpr ⟨.inr hinherited, hne⟩)
      rw [accepts_inherited, hkey]
      exact (hdeclared e he).1 hkey (hkey ▸ hinherited)
    · rw [keys_objectOf]
      exact fun hk => (hmem.mp hk).2 rfl

/-- **Where there is a gap, something passes that breaks the schema.** -/
theorem exists_violating (hhalf : ReadsHalves nearest) {schemas : List (String × Value)}
    {R S : Value} (h : Gap schemas R S) (hR : Parsed R) :
    ∃ v, Written nearest v ∧ Accepts R v ∧ Violates schemas S v := by
  induction h with
  | @type R S types type h hpasses hnone hopen =>
    by_cases hobject : typeText R = "object"
    · obtain ⟨v, hwritten, haccepts⟩ := exists_accepted hhalf hopen hR
      obtain ⟨own, _, rfl, _⟩ := (accepts_object hobject).mp haccepts
      refine ⟨_, hwritten, haccepts, .type h fun t ht htype => hnone ?_⟩
      rw [passedTypes, hobject] at hpasses
      rw [List.mem_singleton.mp hpasses]
      exact (show t = "object" from htype) ▸ ht
    · have hdefined : R ≠ .undefined ∧ R ≠ .null := by
        cases hopen with
        | type _ hu hn => exact ⟨hu, hn⟩
        | object heq _ _ => exact absurd heq hobject
      obtain ⟨v, hwritten, haccepts, hone⟩ :=
        exists_sample hhalf hpasses hobject hdefined.1 hdefined.2
      exact ⟨v, hwritten, haccepts, .type h fun t ht htype => hnone (hone t htype ▸ ht)⟩
  | required h hopen =>
    obtain ⟨fields, hwritten, haccepts, hk⟩ := exists_without hhalf hR hopen
    exact ⟨_, hwritten, haccepts, .required h hk⟩
  | property h hopen _ ih =>
    obtain ⟨w, hw, haccepts, hviolates⟩ := ih (parsed_propertyAt hR _)
    obtain ⟨fields, hwritten, hobject, hmem⟩ := exists_with hhalf hR hopen hw haccepts
    exact ⟨_, hwritten, hobject, .property h hmem hviolates⟩
  | items hopen _ ih =>
    obtain ⟨w, hw, _, hviolates⟩ := ih (.obj (fun f hf => by cases hf) List.nodup_nil)
    refine ⟨.arr [w], written_arr fun v hv => ?_, accepts_arr.mpr hopen,
      .item (List.mem_singleton.mpr rfl) hviolates⟩
    rwa [List.mem_singleton.mp hv]
  | ref h _ ih =>
    obtain ⟨v, hwritten, haccepts, hviolates⟩ := ih hR
    exact ⟨v, hwritten, haccepts, .ref h hviolates⟩

/-! ## 6. The templates of a document -/

theorem parsed_prop {w : Value} (h : Parsed v) {name : String} (hw : v.prop name = w)
    (hdefined : w ≠ .undefined) : Parsed w := by
  rcases h.prop name with hnone | hparsed
  · exact absurd (hw.symm.trans hnone) hdefined
  · exact hw ▸ hparsed

theorem exists_of_mapM {α β : Type} {f : α → Option β} {as : List α} {bs : List β}
    (h : as.mapM f = some bs) {b : β} (hb : b ∈ bs) : ∃ a ∈ as, f a = some b := by
  rw [mapM_eq_some_iff] at h
  induction h with
  | nil => cases hb
  | cons hstep _ ih =>
    rcases List.mem_cons.mp hb with rfl | hmem
    · exact ⟨_, List.mem_cons_self, hstep⟩
    · obtain ⟨a, ha, hstep⟩ := ih hmem
      exact ⟨a, List.mem_cons_of_mem _ ha, hstep⟩

theorem mem_recordShape {α : Type} {shape : Value → Option α} {entries : List (String × α)}
    (h : recordShape shape v = some entries) {k : String} {a : α} (ha : (k, a) ∈ entries) :
    ∃ fields w, v = .obj fields ∧ (k, w) ∈ fields ∧ shape w = some a := by
  unfold recordShape at h
  split at h
  · rename_i fields
    split at h
    · obtain ⟨f, hf, hshape⟩ := exists_of_mapM h ha
      obtain ⟨b, hb, heq⟩ := Option.map_eq_some_iff.mp hshape
      obtain ⟨rfl, rfl⟩ := Prod.mk.inj heq
      exact ⟨fields, f.2, rfl, (List.mem_filter.mp hf).1, hb⟩
    · cases h
  · cases h

theorem parsed_operation {json : Value} {doc : Doc} (hjson : Parsed json)
    (hdoc : parseDoc json = some doc) {pathKey method : String} {op : Value}
    (hop : Templated doc pathKey method op) : Parsed op := by
  have hpaths : ∃ v, Parsed v ∧ recordShape (recordShape some) (v.prop "paths") = some doc.paths := by
    unfold parseDoc at hdoc
    obtain ⟨v, hv, hdoc⟩ := Option.bind_eq_some_iff.mp hdoc
    have hsame : v = json := by
      unfold objectShape at hv
      split at hv
      · exact (Option.some.inj hv).symm
      · cases hv
    refine ⟨v, hsame ▸ hjson, ?_⟩
    iterate 5 obtain ⟨_, _, hdoc⟩ := Option.bind_eq_some_iff.mp hdoc
    obtain ⟨paths, hpaths, hdoc⟩ := Option.bind_eq_some_iff.mp hdoc
    iterate 2 obtain ⟨_, _, hdoc⟩ := Option.bind_eq_some_iff.mp hdoc
    obtain rfl := Option.some.inj hdoc
    exact hpaths
  obtain ⟨v, hv, hpaths⟩ := hpaths
  obtain ⟨item, hitem, hmem⟩ := hop.path
  obtain ⟨fields, w, hfields, hw, hshape⟩ := mem_recordShape hpaths hitem
  obtain ⟨methods, u, rfl, hu, hop⟩ := mem_recordShape hshape hmem
  obtain rfl := Option.some.inj hop
  have hrecord : Parsed (.obj fields) := parsed_prop hv hfields (fun h => by cases h)
  cases hrecord with
  | obj hfields _ =>
    cases hfields _ hw with
    | obj hmethods _ => exact hmethods _ hu

theorem parsed_response {op : Value} (h : Parsed op) : Parsed (successResponse op) := by
  have hfree : Parsed (.obj []) := .obj (fun f hf => by cases hf) List.nodup_nil
  have horElse {v : Value} (hv : v = .undefined ∨ Parsed v) : Parsed (v.orElse (.obj [])) := by
    rcases hv with rfl | hv
    · exact hfree
    · unfold Value.orElse
      split
      · exact hfree
      · exact hfree
      · exact hv
  refine horElse ?_
  split
  · rename_i responses hresponses
    exact (parsed_prop h hresponses fun heq => by cases heq).prop "200"
  · rename_i responses hresponses
    cases parsed_prop h hresponses (fun heq => by cases heq) with
    | arr hitems =>
      rcases hitem : responses[200]? with _ | w
      · exact .inl rfl
      · exact .inr (hitems w (List.mem_of_getElem? hitem))
  · rename_i s _
    rcases (codeUnits s)[200]? with _ | u
    · exact .inl rfl
    · exact .inr (.str _)
  · exact .inl rfl

/-- **What is read for a template conforms to its operation's schema exactly where the reader
    passes nothing more than that schema allows.** -/
theorem conforms_without_gap {p : ImportPlatform} {opts : ImportOptions} {rawText : String}
    {r : ImportResult} {json : Value} {doc : Doc} (h : importOpenApi p opts rawText = some r)
    (hjson : jsonParse p.nearest rawText = some json) (hdoc : parseDoc json = some doc)
    (hhalf : ReadsHalves p.nearest) : ∀ t ∈ r.templates,
    (∀ raw limits v, readResponse p raw t.outputSchema limits = some (.ok v) →
      Conforms (doc.schemas.getD []) (declaredSchema t.outputSchema) v) ↔
    ¬ Gap (doc.schemas.getD []) t.outputSchema (declaredSchema t.outputSchema) := by
  intro t ht
  obtain ⟨_, pathKey, method, op, hop, hmade⟩ := made_of_import h hjson hdoc t ht
  have hparsed : Parsed t.outputSchema := by
    rw [(parts_of_madeOf hmade).1]
    exact parsed_response (parsed_operation (jsonParse_parsed hjson) hdoc hop)
  constructor
  · intro hall hgap
    obtain ⟨v, ⟨c, rfl⟩, haccepts, hviolates⟩ := exists_violating hhalf hgap hparsed
    obtain ⟨raw, limits, hread⟩ := exists_response haccepts
    exact hall raw limits _ hread hviolates
  · intro hnone raw limits v hread hviolates
    obtain ⟨hv, haccepts⟩ := readResponse_ok hread
    exact hnone (gap_of_violates hviolates (jsonParse_parsed hv) haccepts)

/-! ## 7. A response without its price -/

def halvesImport : ImportPlatform :=
  { plainImport with
    nearest := fun _ m e => if m = 15 ∧ e = -1 then .finite (.decimal threeHalves) else .nan }

/-- The response of an operation, with its schema in the `content`. -/
def priceResponse : Canonical :=
  .obj [("content", .obj [("application/json", .obj [("schema", .obj [
      ("properties", .obj [("price", .obj [("type", .str "integer")])]),
      ("required", .arr [.str "price"]), ("type", .str "object")])])]),
    ("description", .str "the price")]

def priceText : String := String.ofList (oneOperation priceResponse).text

/-- What the response is parsed to. -/
def priceSchema : Value := priceResponse.reparsed halvesImport.nearest

theorem import_price :
    ∃ r, importOpenApi halvesImport strictOptions priceText = some r ∧ r.ok = true := by
  have hchosen : chooseServer halvesImport.url strictOptions.egress 0 ["https://api.example/"] =
      ([], some ("api.example", "")) := chooseServer_public
  have hok : (importDoc halvesImport strictOptions (oneRoot priceSchema) (oneDoc priceSchema)).map
      (·.ok) = some true := by
    unfold importDoc
    simp only [oneDoc, Option.getD_some, hchosen]
    decide
  have hsize : textLength (String.ofList (oneOperation priceResponse).text) ≤ MAX_DOCUMENT_BYTES := by
    rw [textLength, codeUnits, String.toList_ofList]
    decide +kernel
  obtain ⟨r, hr, hok⟩ := Option.map_eq_some_iff.mp hok
  refine ⟨r, ?_, hok⟩
  rw [priceText, importOpenApi_text hsize (reparsed_oneOperation _ _) (parseDoc_one _)]
  exact hr

theorem jsonParse_price : jsonParse halvesImport.nearest priceText = some (.obj (oneRoot priceSchema)) := by
  rw [priceText, jsonParse_text, reparsed_oneOperation]
  rfl

def emptyBody : RawResponse := ⟨200, "application/json", "{}", 12⟩

/-- An empty object is read, and has no price. -/
theorem price_not_required : ¬ ∀ p opts rawText r json doc, importOpenApi p opts rawText = some r →
    r.ok = true → jsonParse p.nearest rawText = some json → parseDoc json = some doc →
    ∀ t ∈ r.templates, ∀ raw v,
      readResponse p raw t.outputSchema DEFAULT_RESPONSE_LIMITS = some (.ok v) →
      Conforms (doc.schemas.getD []) (declaredSchema t.outputSchema) v := by
  intro hclaim
  obtain ⟨r, hr, hok⟩ := import_price
  obtain ⟨json, doc, hjson, hdoc, himported⟩ := imported_of_accepted hr hok
  obtain rfl := Option.some.inj (hjson.symm.trans jsonParse_price)
  obtain rfl := Option.some.inj (hdoc.symm.trans (parseDoc_one _))
  obtain ⟨server, _, _, hexists⟩ := himported.server
  obtain ⟨t, ht, hmade⟩ := hexists _ _ _ (templated_one _)
  have hschema : t.outputSchema = priceSchema := (parts_of_madeOf hmade).1
  have hread : readResponse halvesImport emptyBody priceSchema DEFAULT_RESPONSE_LIMITS =
      some (.ok (.obj [])) := by
    rfl
  refine hclaim _ _ _ r _ _ hr hok hjson hdoc t ht emptyBody _ (hschema ▸ hread) ?_
  rw [hschema]
  exact .required (k := "price") List.mem_cons_self List.not_mem_nil

/-- The law of a document's templates, at the one with the price. -/
theorem conforms_price : ∃ r, importOpenApi halvesImport strictOptions priceText = some r ∧
    ∀ t ∈ r.templates, (∀ raw limits v,
      readResponse halvesImport raw t.outputSchema limits = some (.ok v) →
        Conforms [] (declaredSchema t.outputSchema) v) ↔
      ¬ Gap [] t.outputSchema (declaredSchema t.outputSchema) := by
  obtain ⟨r, hr, _⟩ := import_price
  have hhalf : ReadsHalves halvesImport.nearest := by simp [ReadsHalves, halvesImport]
  exact ⟨r, hr, conforms_without_gap hr jsonParse_price (parseDoc_one priceSchema) hhalf⟩

end ContextLock.OpenApi
