/-
  Subject:   `detectRefCycles`: the cycles among the schemas of a document.

  The search marks a schema before it follows its references, and again when it is done with them. A
  schema that is met between the two is on a cycle; one that is done, with nothing reported, leads
  to none. A reference into a part of a schema names no schema, and is not followed.
-/
import ContextLock.Machine.Graph
import ContextLock.OpenApi.Importer

namespace ContextLock.OpenApi

open Js Machine Relation

/-! ## 1. References among schemas -/

/-- Somewhere in the value stands a reference to a schema, by `r` behind the pointer. -/
inductive PointsTo : Value → String → Prop where
  | here {fields : List (String × Value)} {ref r : String} (h : ("$ref", .str ref) ∈ fields)
      (href : ref.toList = schemaPointer.toList ++ r.toList) : PointsTo (.obj fields) r
  | field {fields : List (String × Value)} {k r : String} {v : Value} (h : (k, v) ∈ fields)
      (hv : PointsTo v r) : PointsTo (.obj fields) r
  | item {items : List Value} {r : String} {v : Value} (h : v ∈ items) (hv : PointsTo v r) :
      PointsTo (.arr items) r

def fieldRefs (k : String) (v : Value) : List String :=
  match v with
  | .str ref =>
    if k = "$ref" ∧ schemaPointer.toList.isPrefixOf ref.toList then
      [String.ofList (ref.toList.drop schemaPointer.toList.length)]
    else []
  | v => refsOf v

theorem refsOfFields_eq (fields : List (String × Value)) :
    refsOf.refsOfFields fields = fields.map fun f => (f.1, fieldRefs f.1 f.2) := by
  induction fields with
  | nil => rw [refsOf.refsOfFields]; rfl
  | cons f fs ih =>
    rw [refsOf.refsOfFields.eq_def, List.map_cons, ← ih]
    rfl

theorem refsOfItems_eq (items : List Value) : refsOf.refsOfItems items = items.flatMap refsOf := by
  induction items with
  | nil => rw [refsOf.refsOfItems]; rfl
  | cons v vs ih => rw [refsOf.refsOfItems, ih, List.flatMap_cons]

theorem mem_refsOf_obj {fields : List (String × Value)} {r : String} :
    r ∈ refsOf (.obj fields) ↔ ∃ f ∈ fields, r ∈ fieldRefs f.1 f.2 := by
  rw [refsOf, refsOfFields_eq, List.mem_flatMap]
  constructor
  · intro h
    obtain ⟨g, hg, hr⟩ := h
    obtain ⟨f, hf, rfl⟩ := List.mem_map.mp (mem_listed.mp hg)
    exact ⟨f, hf, hr⟩
  · intro h
    obtain ⟨f, hf, hr⟩ := h
    exact ⟨_, mem_listed.mpr (List.mem_map_of_mem hf), hr⟩

/-- A text is collected as a reference, or anything else is searched. -/
theorem mem_fieldRefs {k r : String} {v : Value} : r ∈ fieldRefs k v ↔
    (k = "$ref" ∧ ∃ ref, v = .str ref ∧ ref.toList = schemaPointer.toList ++ r.toList) ∨
      r ∈ refsOf v := by
  cases v with
  | str ref =>
    have hnone : r ∉ refsOf (.str ref) := by simp [refsOf]
    unfold fieldRefs
    simp only [Value.str.injEq, exists_eq_left', hnone, or_false]
    constructor
    · intro h
      split at h
      · next hif =>
        obtain ⟨rest, hrest⟩ := List.isPrefixOf_iff_prefix.mp hif.2
        obtain rfl := List.mem_singleton.mp h
        refine ⟨hif.1, ?_⟩
        rw [String.toList_ofList, ← hrest, List.drop_left]
      · cases h
    · intro h
      obtain ⟨rfl, href⟩ := h
      have hprefix : schemaPointer.toList.isPrefixOf ref.toList = true :=
        List.isPrefixOf_iff_prefix.mpr ⟨r.toList, href.symm⟩
      rw [if_pos ⟨rfl, hprefix⟩, href, List.drop_left, String.ofList_toList]
      exact List.mem_singleton_self r
  | _ => simp [fieldRefs]

theorem pointsTo_of_mem : ∀ (v : Value) {r : String}, r ∈ refsOf v → PointsTo v r
  | .obj fields, r, h => by
    obtain ⟨f, hf, hr⟩ := mem_refsOf_obj.mp h
    have hlt := List.sizeOf_lt_of_mem hf
    rcases mem_fieldRefs.mp hr with ⟨hk, ref, hv, href⟩ | hin
    · exact .here (by rw [← hk, ← hv]; exact hf) href
    · exact .field hf (pointsTo_of_mem f.2 hin)
  | .arr items, r, h => by
    rw [refsOf, refsOfItems_eq] at h
    obtain ⟨v, hv, hr⟩ := List.mem_flatMap.mp h
    exact .item hv (pointsTo_of_mem v hr)
  | .undefined, r, h | .null, r, h | .bool _, r, h | .number _, r, h | .bigint _, r, h
  | .str _, r, h | .other _, r, h => by
    simp [refsOf] at h
termination_by v => sizeOf v
decreasing_by
  · obtain ⟨k, v⟩ := f
    simp only [Prod.mk.sizeOf_spec, Value.obj.sizeOf_spec] at hlt ⊢
    omega
  · have hlt := List.sizeOf_lt_of_mem hv
    simp only [Value.arr.sizeOf_spec]
    omega

/-- **Every reference is collected**, at any depth. -/
theorem mem_refsOf {v : Value} {r : String} : r ∈ refsOf v ↔ PointsTo v r := by
  refine ⟨pointsTo_of_mem v, fun h => ?_⟩
  induction h with
  | here h href => exact mem_refsOf_obj.mpr ⟨_, h, mem_fieldRefs.mpr (.inl ⟨rfl, _, rfl, href⟩)⟩
  | field h _ ih => exact mem_refsOf_obj.mpr ⟨_, h, mem_fieldRefs.mpr (.inr ih)⟩
  | item h _ ih =>
    rw [refsOf, refsOfItems_eq]
    exact List.mem_flatMap.mpr ⟨_, h, ih⟩

/-! ## 2. The search -/

section Walk

variable (edges : List (String × List String))

/-- The schemas that the walk goes on to. -/
def following (a : String) : List String :=
  ((edges.lookup a).getD []).filter fun n => (edges.lookup n).isSome

def Follows (a b : String) : Prop := b ∈ following edges a

/-- How many schemas are not marked. -/
def unmarked (s : Search) : Nat := edges.countP fun e => (s.marks.lookup e.1).isNone

/-- The walk may go to `n`: that is a schema, there is fuel for all that is not marked, and the
    schemas that are being visited lead there. -/
structure Ready (fuel : Nat) (s : Search) (n : String) : Prop where
  named : (edges.lookup n).isSome
  fuel : unmarked edges s < fuel
  leads : ∀ v, s.marks.lookup v = some .visiting → TransGen (Follows edges) v n

/-- A schema from which no reference leads to a cycle. -/
abbrev Clear (a : String) : Prop := Resolved (Follows edges) (fun _ => False) a

/-- What walks do to the marks and to the problems. -/
structure Walked (s s' : Search) : Prop where
  keeps : ∀ v m, s.marks.lookup v = some m → s'.marks.lookup v = some m
  visiting : ∀ v, s'.marks.lookup v = some .visiting → s.marks.lookup v = some .visiting
  found : ∃ ps, s'.problems = s.problems ++ ps ∧
    ∀ p ∈ ps, p.code = .RECURSIVE_SCHEMA ∧ ∃ v, OnCycle (Follows edges) v
  clear : s'.problems = [] → (∀ v, s.marks.lookup v = some .done → Clear edges v) →
    ∀ v, s'.marks.lookup v = some .done → Clear edges v

variable {edges} {fuel : Nat} {s s' s'' : Search} {n : String}

theorem Walked.refl (s : Search) : Walked edges s s :=
  ⟨fun _ _ h => h, fun _ h => h, ⟨[], by simp⟩, fun _ h => h⟩

theorem Walked.none_before (h : Walked edges s s') (hnone : s'.problems = []) :
    s.problems = [] := by
  obtain ⟨ps, hps, -⟩ := h.found
  rw [hps] at hnone
  exact (List.append_eq_nil_iff.mp hnone).1

theorem Walked.trans (h : Walked edges s s') (h' : Walked edges s' s'') : Walked edges s s'' where
  keeps v m hm := h'.keeps v m (h.keeps v m hm)
  visiting v hv := h.visiting v (h'.visiting v hv)
  found := by
    obtain ⟨ps, hps, hcode⟩ := h.found
    obtain ⟨qs, hqs, hcode'⟩ := h'.found
    refine ⟨ps ++ qs, by rw [hqs, hps, List.append_assoc], fun p hp => ?_⟩
    exact (List.mem_append.mp hp).elim (hcode p) (hcode' p)
  clear hnone hclear := h'.clear hnone (h.clear (h'.none_before hnone) hclear)

theorem Walked.unmarked_le (h : Walked edges s s') : unmarked edges s' ≤ unmarked edges s := by
  refine List.countP_mono_left fun e _ he => ?_
  cases hmark : s.marks.lookup e.1 with
  | none => rfl
  | some m =>
    rw [h.keeps e.1 m hmark] at he
    cases he

theorem Ready.after (h : Ready edges fuel s n) (hw : Walked edges s s') :
    Ready edges fuel s' n :=
  ⟨h.named, hw.unmarked_le.trans_lt h.fuel, fun v hv => h.leads v (hw.visiting v hv)⟩

/-- A walk to `n`: afterwards it is done, if nothing is reported. -/
structure Explored (edges : List (String × List String)) (s s' : Search) (n : String) : Prop
    extends Walked edges s s' where
  done : s'.problems = [] → s'.marks.lookup n = some .done

/-- **One walk after the other**, and the same with other fuel. -/
theorem fold_explored (step step' : Search → String → Search) {ns : List String}
    (hstep : ∀ n ∈ ns, ∀ s, Ready edges fuel s n →
      Explored edges s (step s n) n ∧ step' s n = step s n) :
    ∀ s, (∀ n ∈ ns, Ready edges fuel s n) →
      Walked edges s (ns.foldl step s) ∧
      ((ns.foldl step s).problems = [] → ∀ n ∈ ns, (ns.foldl step s).marks.lookup n = some .done) ∧
      ns.foldl step' s = ns.foldl step s := by
  induction ns with
  | nil => exact fun s _ => ⟨.refl s, fun _ n hn => absurd hn List.not_mem_nil, rfl⟩
  | cons n ns ih =>
    intro s hready
    obtain ⟨hexplored, hsame⟩ := hstep n List.mem_cons_self s (hready n List.mem_cons_self)
    obtain ⟨hwalked, hdone, hfold⟩ := ih (fun m hm => hstep m (List.mem_cons_of_mem n hm))
      (step s n) fun m hm => (hready m (List.mem_cons_of_mem n hm)).after hexplored.toWalked
    rw [List.foldl_cons, List.foldl_cons, hsame]
    refine ⟨hexplored.toWalked.trans hwalked, fun hnone m hm => ?_, hfold⟩
    rcases List.mem_cons.mp hm with rfl | hm
    · exact hwalked.keeps _ _ (hexplored.done (hwalked.none_before hnone))
    · exact hdone hnone m hm

/-- A schema that is marked for the first time. -/
theorem unmarked_enter (hnamed : (edges.lookup n).isSome) (hmark : s.marks.lookup n = none)
    (m : Mark) : unmarked edges { s with marks := (n, m) :: s.marks } < unmarked edges s := by
  obtain ⟨refs, hrefs⟩ := Option.isSome_iff_exists.mp hnamed
  obtain ⟨l₁, l₂, rfl, -⟩ := List.lookup_eq_some_iff.mp hrefs
  have hle : ∀ l : List (String × List String),
      unmarked l { s with marks := (n, m) :: s.marks } ≤ unmarked l s := by
    intro l
    refine List.countP_mono_left fun e _ he => ?_
    rw [List.lookup_cons] at he
    split at he
    · cases he
    · exact he
  have h₁ := hle l₁
  have h₂ := hle l₂
  unfold unmarked at h₁ h₂ ⊢
  simp only [List.countP_append, List.countP_cons, hmark, List.lookup_cons_self,
    Option.isNone_none, Option.isNone_some, Bool.false_eq_true, if_true, if_false] at h₁ h₂ ⊢
  omega

theorem lookup_mark {v : String} {m : Mark} : ((n, m) :: s.marks).lookup v =
    if v = n then some m else s.marks.lookup v := by
  rw [List.lookup_cons]
  by_cases h : v = n
  · rw [if_pos h, h, beq_self_eq_true]
  · rw [if_neg h, beq_false_of_ne h]

/-- **What one walk does**; more fuel changes nothing. -/
theorem walkRefs_explored : ∀ (fuel : Nat) (n : String) (path : List String) (s : Search),
    Ready edges fuel s n → Explored edges s (walkRefs edges fuel n path s) n ∧
      ∀ fuel', fuel ≤ fuel' → walkRefs edges fuel' n path s = walkRefs edges fuel n path s := by
  intro fuel
  induction fuel with
  | zero => exact fun n path s h => absurd h.fuel (Nat.not_lt_zero _)
  | succ fuel ih =>
    intro n path s hready
    rw [walkRefs]
    cases hmark : s.marks.lookup n with
    | some m =>
      cases m with
      | done =>
        refine ⟨⟨.refl s, fun _ => hmark⟩, fun fuel' hle => ?_⟩
        obtain ⟨more, rfl⟩ := Nat.exists_eq_add_of_le' hle
        rw [← Nat.add_assoc, walkRefs, hmark]
      | visiting =>
        refine ⟨⟨⟨fun _ _ h => h, fun _ h => h, ⟨_, rfl, fun p hp => ?_⟩, fun hnone => ?_⟩,
          fun hnone => ?_⟩, fun fuel' hle => ?_⟩
        · obtain rfl := List.mem_singleton.mp hp
          exact ⟨rfl, n, hready.leads n hmark⟩
        · exact absurd hnone (List.append_ne_nil_of_right_ne_nil _ (List.cons_ne_nil _ _))
        · exact absurd hnone (List.append_ne_nil_of_right_ne_nil _ (List.cons_ne_nil _ _))
        · obtain ⟨more, rfl⟩ := Nat.exists_eq_add_of_le' hle
          rw [← Nat.add_assoc, walkRefs, hmark]
    | none =>
      have hsmaller := unmarked_enter hready.named hmark .visiting
      have hinside : ∀ m ∈ following edges n,
          Ready edges fuel { s with marks := (n, .visiting) :: s.marks } m := by
        intro m hm
        refine ⟨(List.mem_filter.mp hm).2, ?_, fun v hv => ?_⟩
        · exact lt_of_lt_of_le hsmaller (Nat.lt_succ_iff.mp hready.fuel)
        · rw [lookup_mark] at hv
          split at hv
          · next heq => exact heq ▸ .single hm
          · exact (hready.leads v hv).tail hm
      have hfold := fun fuel' (hle : fuel ≤ fuel') =>
        fold_explored (fun s m => walkRefs edges fuel m (path ++ [n]) s)
          (fun s m => walkRefs edges fuel' m (path ++ [n]) s)
          (fun m _ s hs => ⟨(ih m (path ++ [n]) s hs).1, (ih m (path ++ [n]) s hs).2 fuel' hle⟩)
          _ hinside
      obtain ⟨hwalked, hdone, -⟩ := hfold fuel le_rfl
      refine ⟨⟨⟨fun v m hm => ?_, fun v hv => ?_, hwalked.found, fun hnone hclear v hv => ?_⟩,
        fun _ => ?_⟩, fun fuel' hle => ?_⟩
      · rw [lookup_mark, if_neg (fun heq => by rw [heq, hmark] at hm; cases hm)]
        refine hwalked.keeps v m ?_
        rw [lookup_mark, if_neg (fun heq => by rw [heq, hmark] at hm; cases hm)]
        exact hm
      · rw [lookup_mark] at hv
        split at hv
        · cases hv
        · next hne =>
          have hbefore := hwalked.visiting v hv
          rwa [lookup_mark, if_neg hne] at hbefore
      · have hall := hwalked.clear hnone fun u hu => by
          rw [lookup_mark] at hu
          split at hu
          · cases hu
          · exact hclear u hu
        rw [lookup_mark] at hv
        split at hv
        · next heq =>
          rw [heq]
          exact .intro id fun u hu => hall u (hdone hnone u hu)
        · exact hall v hv
      · rw [lookup_mark, if_pos rfl]
      · obtain ⟨more, rfl⟩ := Nat.exists_eq_add_of_le' hle
        obtain ⟨-, -, hsame⟩ := hfold (more + fuel) (Nat.le_add_left _ _)
        rw [← Nat.add_assoc, walkRefs, hmark]
        exact congrArg (fun left : Search => { left with marks := (n, .done) :: left.marks }) hsame

end Walk

/-! ## 3. The document -/

section Document

variable (schemas : List (String × Value))

def schemaNamed (a : String) : Option Value := (listed schemas).lookup a

/-- The schema `a` has a reference to the schema `b` as a whole. -/
def RefersWhole (a b : String) : Prop :=
  (schemaNamed schemas b).isSome ∧ ∃ v, schemaNamed schemas a = some v ∧ PointsTo v b

/-- The schema `a` has a reference to the schema `b` or into a part of it. -/
def Refers (a b : String) : Prop :=
  (schemaNamed schemas b).isSome ∧ ∃ v r, schemaNamed schemas a = some v ∧ PointsTo v r ∧
    (r = b ∨ (b ++ "/").toList <+: r.toList)

/-- `edges`. -/
def refEdges : List (String × List String) := (listed schemas).map fun f => (f.1, refsOf f.2)

/-- The whole search, with so much fuel for each walk. -/
def searchRefs (fuel : Nat) : Search :=
  (refEdges schemas).foldl (fun s e => walkRefs (refEdges schemas) fuel e.1 [] s) ⟨[], []⟩

/-- **What is asked of the search**: it ends, whatever fuel it is given from some on, and reports a
    cycle exactly where there is one. -/
structure Detects : Prop where
  ends : ∀ fuel, schemas.length < fuel →
    (searchRefs schemas fuel).problems = detectRefCycles schemas
  reports : (∃ p ∈ detectRefCycles schemas, p.code = .RECURSIVE_SCHEMA) ↔
    ∃ a, OnCycle (Refers schemas) a

variable {schemas}

theorem lookup_map {l : List (String × Value)} {a : String} {f : Value → List String} :
    (l.map fun e => (e.1, f e.2)).lookup a = (l.lookup a).map f := by
  induction l with
  | nil => rfl
  | cons e l ih =>
    rw [List.map_cons, List.lookup_cons, List.lookup_cons, ih]
    cases a == e.1 <;> rfl

theorem follows_iff {a b : String} :
    Follows (refEdges schemas) a b ↔ RefersWhole schemas a b := by
  unfold Follows following RefersWhole refEdges schemaNamed
  rw [List.mem_filter, lookup_map, lookup_map, Option.isSome_map, and_comm]
  refine and_congr_right fun _ => ?_
  cases (listed schemas).lookup a with
  | none => simp
  | some v => simpa using mem_refsOf

theorem length_refEdges : (refEdges schemas).length = schemas.length := by
  rw [refEdges, List.length_map]
  exact List.length_insertionSort _ _

/-- The whole search: what it does to the marks, and the same with other fuel. -/
theorem searchRefs_explored {fuel : Nat} (hfuel : schemas.length < fuel) :
    Walked (refEdges schemas) ⟨[], []⟩ (searchRefs schemas fuel) ∧
      ((searchRefs schemas fuel).problems = [] → ∀ a, (schemaNamed schemas a).isSome →
        (searchRefs schemas fuel).marks.lookup a = some .done) ∧
      ∀ fuel', fuel ≤ fuel' → searchRefs schemas fuel' = searchRefs schemas fuel := by
  have hready : ∀ n ∈ (refEdges schemas).map Prod.fst,
      Ready (refEdges schemas) fuel ⟨[], []⟩ n := by
    intro n hn
    obtain ⟨e, he, rfl⟩ := List.mem_map.mp hn
    refine ⟨?_, ?_, fun v hv => by cases hv⟩
    · rw [List.lookup_isSome_iff]
      exact ⟨e, he, beq_self_eq_true _⟩
    · exact List.countP_le_length.trans_lt (length_refEdges.trans_lt hfuel)
  have hfold := fun fuel' (hle : fuel ≤ fuel') => fold_explored
    (fun s n => walkRefs (refEdges schemas) fuel n [] s)
    (fun s n => walkRefs (refEdges schemas) fuel' n [] s)
    (fun n _ s hs => ⟨(walkRefs_explored fuel n [] s hs).1,
      (walkRefs_explored fuel n [] s hs).2 fuel' hle⟩) _ hready
  simp only [List.foldl_map] at hfold
  obtain ⟨hwalked, hdone, -⟩ := hfold fuel le_rfl
  refine ⟨hwalked, fun hnone a ha => hdone hnone a ?_, fun fuel' hle => (hfold fuel' hle).2.2⟩
  obtain ⟨v, hv⟩ := Option.isSome_iff_exists.mp ha
  obtain ⟨l₁, l₂, hsplit, -⟩ := List.lookup_eq_some_iff.mp hv
  rw [refEdges, List.map_map, hsplit]
  simp

/-- **A cycle of references to whole schemas is what is reported.** -/
theorem reports_iff : (∃ p ∈ detectRefCycles schemas, p.code = .RECURSIVE_SCHEMA) ↔
    ∃ a, OnCycle (RefersWhole schemas) a := by
  have hsame : Follows (refEdges schemas) = RefersWhole schemas :=
    funext fun a => funext fun b => propext follows_iff
  have hfuel : schemas.length < (refEdges schemas).length + 1 := by
    rw [length_refEdges]
    exact Nat.lt_succ_self _
  obtain ⟨hwalked, hdone, -⟩ := searchRefs_explored hfuel
  obtain ⟨ps, hps, hcode⟩ := hwalked.found
  have hdetect : detectRefCycles schemas = ps := hps
  rw [hdetect]
  constructor
  · intro h
    obtain ⟨p, hp, -⟩ := h
    exact hsame ▸ (hcode p hp).2
  · intro h
    obtain ⟨a, ha⟩ := h
    cases ps with
    | cons p ps => exact ⟨p, List.mem_cons_self, (hcode p List.mem_cons_self).1⟩
    | nil =>
      have hclear := hwalked.clear hps (fun v hv => by cases hv)
      obtain ⟨b, -, hba⟩ := TransGen.tail'_iff.mp ha
      exact absurd (hsame ▸ ha) (hclear a (hdone hps a hba.1)).not_onCycle

/-- **Exactly when the search does what is asked of it**: a cycle that runs through parts of schemas
    is reported only where whole schemas are on one. -/
theorem detects_iff (schemas : List (String × Value)) : Detects schemas ↔
    ((∃ a, OnCycle (Refers schemas) a) → ∃ a, OnCycle (RefersWhole schemas) a) := by
  have hwhole : (∃ a, OnCycle (RefersWhole schemas) a) → ∃ a, OnCycle (Refers schemas) a := by
    intro h
    obtain ⟨a, ha⟩ := h
    refine ⟨a, ha.lift id fun u v huv => ?_⟩
    obtain ⟨hv, w, hw, hpoints⟩ := huv
    exact ⟨hv, w, v, hw, hpoints, .inl rfl⟩
  constructor
  · exact fun h hcycle => reports_iff.mp (h.reports.mpr hcycle)
  · intro h
    refine ⟨fun fuel hfuel => ?_, reports_iff.trans ⟨hwhole, h⟩⟩
    have hsame := (searchRefs_explored (Nat.lt_succ_self schemas.length)).2.2 fuel hfuel
    rw [hsame, ← length_refEdges]
    rfl

end Document

/-! ## 4. A cycle that is not seen -/

/-- A node, whose children are of the kind of its children. -/
def nodeSchemas : List (String × Value) :=
  [("Node", .obj [("properties", .obj [("children", .obj [("type", .str "array"),
    ("items", .obj [("$ref", .str "#/components/schemas/Node/properties/children")])])])])]

/-- **A schema that refers into itself**, and nothing is reported. -/
theorem nodeSchemas_missed : OnCycle (Refers nodeSchemas) "Node" ∧
    detectRefCycles nodeSchemas = [] ∧ ¬ Detects nodeSchemas := by
  have hcycle : OnCycle (Refers nodeSchemas) "Node" := by
    refine .single ⟨rfl, _, "Node/properties/children", rfl, ?_, .inr ?_⟩
    · refine .field List.mem_cons_self (.field List.mem_cons_self (.field
        (List.mem_cons_of_mem _ List.mem_cons_self) (.here List.mem_cons_self ?_)))
      decide
    · exact List.isPrefixOf_iff_prefix.mp (by decide)
  have hnothing : detectRefCycles nodeSchemas = [] := by decide
  refine ⟨hcycle, hnothing, fun h => ?_⟩
  obtain ⟨p, hp, -⟩ := h.reports.mpr ⟨_, hcycle⟩
  rw [hnothing] at hp
  cases hp

end ContextLock.OpenApi
