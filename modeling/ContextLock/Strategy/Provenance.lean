/-
  Subject:   Trust and age flow from the inputs of a strategy to what its decisions read.

  A transform's provenance is the weakest trust and the loosest age of all the inputs it reads,
  along any chain of transforms. That is an invariant of placing: what is there when a transform
  is placed has the property, and a transform takes the least of its operands.

  It holds where every id names one node and no operand is a name every object inherits. Neither
  is checked: an id that stands for an input and a transform, or for two transforms, is one key.
-/
import ContextLock.Strategy.Compiler
import Mathlib.Data.List.Nodup
import Mathlib.Order.Bounds.Basic
import Mathlib.Order.OrderDual

namespace ContextLock.Strategy

open Js

/-! ## 1. Least elements of several sets -/

section Least

variable {α β : Type} [LinearOrder β]

theorem foldl_min_mem (b : β) (bs : List β) : bs.foldl min b ∈ b :: bs := by
  induction bs generalizing b with
  | nil => exact List.mem_cons_self
  | cons c cs ih =>
    rw [List.foldl_cons]
    rcases List.mem_cons.mp (ih (min b c)) with heq | hin
    · rw [heq]
      rcases min_choice b c with hb | hc
      · rw [hb]
        exact List.mem_cons_self
      · rw [hc]
        exact List.mem_cons_of_mem b List.mem_cons_self
    · exact List.mem_cons_of_mem b (List.mem_cons_of_mem c hin)

theorem foldl_min_le (b : β) (bs : List β) : ∀ c ∈ b :: bs, bs.foldl min b ≤ c := by
  induction bs generalizing b with
  | nil =>
    intro c hc
    rw [List.mem_singleton.mp hc]
    exact le_refl _
  | cons d ds ih =>
    intro c hc
    have hmin := ih (min b d) (min b d) List.mem_cons_self
    rw [List.foldl_cons]
    rcases List.mem_cons.mp hc with rfl | hc
    · exact hmin.trans (min_le_left _ _)
    · rcases List.mem_cons.mp hc with rfl | hc
      · exact hmin.trans (min_le_right _ _)
      · exact ih (min b d) c (List.mem_cons_of_mem _ hc)

theorem isLeast_foldl_min {S : α → Set β} {v : α → β} {a : α} {as : List α}
    (h : ∀ x ∈ a :: as, IsLeast (S x) (v x)) :
    IsLeast {b | ∃ x ∈ a :: as, b ∈ S x} ((as.map v).foldl min (v a)) := by
  have hmap : v a :: as.map v = (a :: as).map v := rfl
  constructor
  · have hmem := foldl_min_mem (v a) (as.map v)
    rw [hmap] at hmem
    obtain ⟨x, hx, heq⟩ := List.mem_map.mp hmem
    exact ⟨x, hx, heq ▸ (h x hx).1⟩
  · rintro b ⟨x, hx, hb⟩
    have hle := foldl_min_le (v a) (as.map v) (v x) (hmap ▸ List.mem_map_of_mem hx)
    exact hle.trans ((h x hx).2 hb)

theorem isGreatest_foldl_max {S : α → Set β} {v : α → β} {a : α} {as : List α}
    (h : ∀ x ∈ a :: as, IsGreatest (S x) (v x)) :
    IsGreatest {b | ∃ x ∈ a :: as, b ∈ S x} ((as.map v).foldl max (v a)) :=
  isLeast_foldl_min (β := βᵒᵈ) h

end Least

/-! ## 2. What is claimed of a strategy -/

/-- **The provenance is the weakest** of the inputs that are read: the least trust, and the
    greatest age. -/
structure Weakest (reads : StrategyInput → Prop) (p : NodeProvenance) : Prop where
  trust : ∃ c, p.trustClass = some c ∧
    IsLeast {rank | ∃ i, reads i ∧ trustRank i.minimumTrustClass = rank} (trustRank c)
  age : ∃ n : Nat, p.maxAgeMs = .int n ∧ IsGreatest {age | ∃ i, reads i ∧ i.maxAgeMs = age} n

/-- **A sound compilation**: every input that a decision reads is at least as trusted as data
    read from the chain, and every transform's provenance is the weakest of the inputs it
    reads. -/
structure Sound (s : StrategyIR) : Prop where
  decisions : ∀ d ∈ s.decisions, ∀ ref ∈ conditionRefs d.condition, ∀ i, Reads s ref i →
    satisfiesTrust (some i.minimumTrustClass) .DIRECT_CHAIN_DATA = true
  transforms : ∀ t ∈ s.transforms, ∃ p,
    (compileStrategy (.ok s)).provenance.get? t.id = some p ∧ Weakest (TransformReads s t) p

/-- Ids that name one node each, and operands that are no names every object inherits. -/
structure Regular (s : StrategyIR) : Prop where
  transforms : (s.transforms.map (·.id)).Nodup
  inputs : ∀ t ∈ s.transforms, ∀ i ∈ s.inputs, t.id ≠ i.id
  operands : ∀ t ∈ s.transforms, ∀ dep ∈ t.inputs, dep ∉ inheritedKeys

section Regular

variable {s : StrategyIR}

theorem reads_input (h : Regular s) {i j : StrategyInput} (hi : i ∈ s.inputs)
    (hr : Reads s i.id j) : j ∈ s.inputs ∧ j.id = i.id := by
  generalize hid : i.id = id at hr
  cases hr with
  | input hj => exact ⟨hj, rfl⟩
  | transform ht _ _ => exact absurd hid.symm (h.inputs _ ht i hi)

theorem reads_transform (h : Regular s) {t : Transform} (ht : t ∈ s.transforms)
    {i : StrategyInput} : Reads s t.id i ↔ TransformReads s t i := by
  constructor
  · intro hr
    generalize hid : t.id = id at hr
    cases hr with
    | input hi => exact absurd hid (h.inputs t ht _ hi)
    | transform ht' hdep hi =>
      have heq := List.inj_on_of_nodup_map h.transforms ht ht' hid
      exact ⟨_, heq ▸ hdep, hi⟩
  · rintro ⟨dep, hdep, hi⟩
    exact Reads.transform ht hdep hi

end Regular

/-! ## 3. Problems that stop the build -/

/-- The problem stops the build. -/
def CompileProblem.Blocking (p : CompileProblem) : Prop := p.severity = .CRITICAL ∨ p.severity = .HIGH

/-- No problem of the list stops the build. -/
def Passes (problems : List CompileProblem) : Prop := ∀ p ∈ problems, ¬ p.Blocking

theorem passes_append {ps qs : List CompileProblem} :
    Passes (ps ++ qs) ↔ Passes ps ∧ Passes qs := by
  unfold Passes
  rw [List.forall_mem_append]

theorem passes_flatMap {α : Type} {as : List α} {f : α → List CompileProblem} :
    Passes (as.flatMap f) ↔ ∀ a ∈ as, Passes (f a) := by
  unfold Passes
  exact List.forall_mem_flatMap

theorem not_passes_cons {p : CompileProblem} {ps : List CompileProblem} (h : p.Blocking) :
    ¬ Passes (p :: ps) := fun hp => hp p List.mem_cons_self h

theorem buildable_iff {s : StrategyIR} :
    (compileStrategy (.ok s)).buildable = true ↔ Passes (problemsOf s) := by
  simp only [compileStrategy, Passes, CompileProblem.Blocking, Bool.not_eq_true', List.any_eq_false,
    decide_eq_true_eq]

/-! ## 4. Inputs -/

section Inputs

variable {s : StrategyIR}

def inputProvenance (i : StrategyInput) : NodeProvenance :=
  ⟨some i.unit, some i.minimumTrustClass, .int i.maxAgeMs, []⟩

theorem nodeAt_eq_none {provenance : Provenance} {id : String} (h : nodeAt provenance id = none) :
    provenance.get? id = none := by
  unfold nodeAt at h
  cases hget : provenance.get? id with
  | none => rfl
  | some p =>
    rw [hget] at h
    cases h

/-- **Declared inputs** without a problem have distinct ids, and each its own provenance. -/
theorem declareInputs_passes {inputs : List StrategyInput} {provenance : Provenance}
    (h : Passes (declareInputs inputs provenance).2) :
    (inputs.map (·.id)).Nodup ∧ (∀ i ∈ inputs, provenance.get? i.id = none) ∧
      ∀ id p, (declareInputs inputs provenance).1.get? id = some p →
        provenance.get? id = some p ∨ ∃ i ∈ inputs, i.id = id ∧ p = inputProvenance i := by
  induction inputs generalizing provenance with
  | nil =>
    refine ⟨List.nodup_nil, fun i hi => absurd hi List.not_mem_nil, fun id p hp => Or.inl hp⟩
  | cons i rest ih =>
    unfold declareInputs at h ⊢
    cases hnode : nodeAt provenance i.id with
    | some q =>
      rw [hnode] at h
      exact absurd h (not_passes_cons (Or.inl rfl))
    | none =>
      have hget := nodeAt_eq_none hnode
      rw [hnode] at h
      obtain ⟨hnodup, hfresh, hall⟩ := ih h
      have hother : ∀ j ∈ rest, j.id ≠ i.id ∧ provenance.get? j.id = none := by
        intro j hj
        have hj' := hfresh j hj
        rw [Map.get?_set] at hj'
        by_cases heq : j.id = i.id
        · rw [if_pos heq] at hj'
          cases hj'
        · rw [if_neg heq] at hj'
          exact ⟨heq, hj'⟩
      refine ⟨List.nodup_cons.mpr ⟨fun hmem => ?_, hnodup⟩, fun j hj => ?_, fun id p hp => ?_⟩
      · obtain ⟨j, hj, heq⟩ := List.mem_map.mp hmem
        exact (hother j hj).1 heq
      · rcases List.mem_cons.mp hj with rfl | hj
        · exact hget
        · exact (hother j hj).2
      · rcases hall id p hp with hp | ⟨j, hj, hid, hp⟩
        · rcases Map.cases_of_get?_set hp with hnew | hold
          · exact Or.inr ⟨i, List.mem_cons_self, hnew.1.symm, hnew.2.symm⟩
          · exact Or.inl hold.2
        · exact Or.inr ⟨j, List.mem_cons_of_mem i hj, hid, hp⟩

end Inputs

/-! ## 5. One transform -/

section Derive

variable {s : StrategyIR} {provenance : Provenance} {t : Transform} {node : NodeProvenance}

theorem transformOutputUnit_ne_nil {op : TransformOp} {units : List (Option ValueUnit)}
    {toDecimals : Option Nat} {unit : Option ValueUnit}
    (h : transformOutputUnit op units toDecimals = .ok unit) : units ≠ [] := by
  rintro rfl
  cases op <;> cases h

theorem foldl_weaker (c : DataTrustClass) (cs : List DataTrustClass) :
    ∃ d, (cs.map some).foldl propagateTrust.weaker (some c) = some d ∧
      trustRank d = (cs.map trustRank).foldl min (trustRank c) := by
  induction cs generalizing c with
  | nil => exact ⟨c, rfl, rfl⟩
  | cons e es ih =>
    simp only [List.map_cons, List.foldl_cons, propagateTrust.weaker]
    by_cases hlt : trustRank e < trustRank c
    · rw [if_pos hlt, min_eq_right hlt.le]
      exact ih e
    · rw [if_neg hlt, min_eq_left (not_lt.mp hlt)]
      exact ih c

theorem foldl_numMax (n : Nat) (ns : List Nat) :
    (ns.map fun m : Nat => Js.Num.int m).foldl numMax (.int n) = .int (ns.foldl max n : Nat) := by
  induction ns generalizing n with
  | nil => rfl
  | cons m ms ih =>
    have hstep : numMax (.int n) (.int m) = .int (max n m : Nat) := by
      simp only [numMax, reduceCtorEq, or_self, if_false, Num.lt_int, decide_eq_true_eq]
      by_cases hlt : n < m
      · rw [if_pos (by exact_mod_cast hlt), max_eq_right hlt.le]
      · rw [if_neg (by exact_mod_cast hlt), max_eq_left (not_lt.mp hlt)]
    rw [List.map_cons, List.foldl_cons, List.foldl_cons, hstep]
    exact ih (max n m)

theorem get?_of_ready (hready : ready provenance t = true)
    (hoperands : ∀ dep ∈ t.inputs, dep ∉ inheritedKeys) {dep : String} (hdep : dep ∈ t.inputs) :
    ∃ q, provenance.get? dep = some q ∧ nodeAt provenance dep = some q := by
  have hsome := List.all_eq_true.mp hready dep hdep
  unfold nodeAt at hsome ⊢
  cases hget : provenance.get? dep with
  | some q => exact ⟨q, rfl, rfl⟩
  | none =>
    rw [hget] at hsome
    simp only [if_neg (hoperands dep hdep)] at hsome
    cases hsome

theorem values_of_operands {β : Type} (s : StrategyIR) (t : Transform) (f : StrategyInput → β) :
    {b | ∃ dep ∈ t.inputs, b ∈ {b | ∃ i, Reads s dep i ∧ f i = b}} =
      {b | ∃ i, TransformReads s t i ∧ f i = b} := by
  ext b
  constructor
  · rintro ⟨dep, hdep, i, hi, hb⟩
    exact ⟨i, ⟨dep, hdep, hi⟩, hb⟩
  · rintro ⟨i, ⟨dep, hdep, hi⟩, hb⟩
    exact ⟨dep, hdep, i, hi, hb⟩

/-- **One transform**: what is derived from operands that are the weakest of what they read is
    the weakest of what the transform reads. -/
theorem derive_weakest (hready : ready provenance t = true)
    (hoperands : ∀ dep ∈ t.inputs, dep ∉ inheritedKeys)
    (hflow : ∀ id q, provenance.get? id = some q → Weakest (Reads s id) q)
    (h : derive provenance t = .ok node) : Weakest (TransformReads s t) node := by
  have hweakest : ∀ dep ∈ t.inputs, ∃ q c n, nodeAt provenance dep = some q ∧
      q.trustClass = some c ∧ q.maxAgeMs = .int (n : Nat) ∧
      IsLeast {rank | ∃ i, Reads s dep i ∧ trustRank i.minimumTrustClass = rank} (trustRank c) ∧
      IsGreatest {age | ∃ i, Reads s dep i ∧ i.maxAgeMs = age} n := by
    intro dep hdep
    obtain ⟨q, hget, hnode⟩ := get?_of_ready hready hoperands hdep
    obtain ⟨⟨c, hc, hleast⟩, n, hn, hgreatest⟩ := hflow dep q hget
    exact ⟨q, c, n, hnode, hc, hn, hleast, hgreatest⟩
  have : Nonempty NodeProvenance := ⟨node⟩
  have : Nonempty DataTrustClass := ⟨.USER_UNTRUSTED⟩
  choose! q c n hnode hc hn hleast hgreatest using hweakest
  have hnodes : t.inputs.filterMap (nodeAt provenance) = t.inputs.map q := by
    rw [← List.filterMap_eq_map']
    exact List.filterMap_congr hnode
  have htrusts : (t.inputs.map q).map (·.trustClass) = (t.inputs.map c).map some := by
    rw [List.map_map, List.map_map]
    exact List.map_congr_left hc
  have hages : (t.inputs.map q).map (·.maxAgeMs) =
      (t.inputs.map n).map fun m : Nat => Js.Num.int m := by
    rw [List.map_map, List.map_map]
    exact List.map_congr_left hn
  unfold derive at h
  rw [hnodes] at h
  cases hunit : transformOutputUnit t.op ((t.inputs.map q).map (·.unit)) t.toDecimals with
  | error e =>
    simp only [hunit] at h
    cases h
  | ok unit =>
    simp only [hunit, Except.ok.injEq, htrusts, hages] at h
    subst h
    have hne := transformOutputUnit_ne_nil hunit
    have htrust := values_of_operands s t fun i => trustRank i.minimumTrustClass
    have hage := values_of_operands s t (·.maxAgeMs)
    cases hinputs : t.inputs with
    | nil =>
      rw [hinputs] at hne
      exact absurd rfl hne
    | cons dep deps =>
      rw [hinputs] at hleast hgreatest htrust hage
      obtain ⟨w, hw, hrank⟩ := foldl_weaker (c dep) (deps.map c)
      refine ⟨⟨w, hw, ?_⟩, (deps.map n).foldl max (n dep), foldl_numMax (n dep) (deps.map n), ?_⟩
      · have hmin := isLeast_foldl_min (v := fun d => trustRank (c d)) hleast
        rw [htrust] at hmin
        rw [hrank, List.map_map]
        exact hmin
      · have hmax := isGreatest_foldl_max (v := n) hgreatest
        rw [hage] at hmax
        exact hmax

end Derive

/-! ## 6. Placing -/

section Placing

variable {s : StrategyIR} {p : Placement} {t : Transform}

/-- **The invariant of placing**: as long as no problem stops the build, what is there is the
    weakest of what it reads. -/
def Flow (s : StrategyIR) (p : Placement) : Prop :=
  Passes p.problems → ∀ id q, p.provenance.get? id = some q → Weakest (Reads s id) q

theorem passes_of_place (h : Passes (place p t).problems) :
    ∃ node, derive p.provenance t = .ok node ∧
      place p t = { p with provenance := p.provenance.set t.id node, order := p.order ++ [t.id] } := by
  unfold place at h ⊢
  cases hd : derive p.provenance t with
  | error problem =>
    rw [hd] at h
    have hcritical : problem.severity = .CRITICAL := by
      unfold derive at hd
      simp only at hd
      split at hd
      · cases hd
        rfl
      · cases hd
    exact absurd (passes_append.mp h).2 (not_passes_cons (Or.inl hcritical))
  | ok node => exact ⟨node, rfl, rfl⟩

/-- **One transform** keeps the invariant. -/
theorem flow_place (h : Regular s) (ht : t ∈ s.transforms) (hready : ready p.provenance t = true)
    (hp : Flow s p) : Flow s (place p t) := by
  intro hpasses
  obtain ⟨node, hnode, heq⟩ := passes_of_place hpasses
  rw [heq] at hpasses ⊢
  have hflow := hp hpasses
  have hweakest := derive_weakest hready (h.operands t ht) hflow hnode
  intro id q hq
  rcases Map.cases_of_get?_set hq with hnew | hold
  · have hreads : Reads s t.id = TransformReads s t := by
      funext i
      exact propext (reads_transform h ht)
    rw [hnew.1, hreads, ← hnew.2]
    exact hweakest
  · exact hflow id q hold.2

theorem isSome_place {id : String} (h : (p.provenance.get? id).isSome) :
    ((place p t).provenance.get? id).isSome := by
  have hset : ∀ node : NodeProvenance, ((p.provenance.set t.id node).get? id).isSome := by
    intro node
    rw [Map.get?_set]
    split
    · rfl
    · exact h
  unfold place
  split <;> exact hset _

theorem isSome_self_place : ((place p t).provenance.get? t.id).isSome := by
  unfold place
  split <;> simp only [Map.get?_set_self, Option.isSome_some]

/-- What a pass, or several, leave: the invariant, what was there, and the transforms either
    there or still pending. -/
structure Placed (s : StrategyIR) (p : Placement) (ts : List Transform)
    (result : Placement × List Transform) : Prop where
  flow : Flow s p → Flow s result.1
  kept : ∀ id, (p.provenance.get? id).isSome → (result.1.provenance.get? id).isSome
  pending : ∀ t ∈ result.2, t ∈ ts
  placed : ∀ t ∈ ts, t ∈ result.2 ∨ (result.1.provenance.get? t.id).isSome

theorem placed_placePass (h : Regular s) (p : Placement) {ts : List Transform}
    (hts : ∀ t ∈ ts, t ∈ s.transforms) : Placed s p ts (placePass p ts) := by
  induction ts generalizing p with
  | nil => exact ⟨id, fun _ hid => hid, fun t ht => ht, fun t ht => absurd ht List.not_mem_nil⟩
  | cons t ts ih =>
    have ht := hts t List.mem_cons_self
    have hrest := fun p' => ih p' fun t' ht' => hts t' (List.mem_cons_of_mem t ht')
    unfold placePass
    by_cases hready : ready p.provenance t = true
    · rw [if_pos hready]
      have hplaced := hrest (place p t)
      refine ⟨fun hp => hplaced.flow (flow_place h ht hready hp),
        fun id hid => hplaced.kept id (isSome_place hid),
        fun t' ht' => List.mem_cons_of_mem t (hplaced.pending t' ht'), fun t' ht' => ?_⟩
      rcases List.mem_cons.mp ht' with rfl | ht'
      · exact Or.inr (hplaced.kept _ isSome_self_place)
      · exact hplaced.placed t' ht'
    · rw [if_neg hready]
      have hplaced := hrest p
      refine ⟨hplaced.flow, hplaced.kept, fun t' ht' => ?_, fun t' ht' => ?_⟩
      · rcases List.mem_cons.mp ht' with rfl | ht'
        · exact List.mem_cons_self
        · exact List.mem_cons_of_mem t (hplaced.pending t' ht')
      · rcases List.mem_cons.mp ht' with rfl | ht'
        · exact Or.inl List.mem_cons_self
        · exact (hplaced.placed t' ht').imp_left (List.mem_cons_of_mem t)

/-- **All passes.** -/
theorem placed_placeAll (h : Regular s) (n : Nat) (p : Placement) {ts : List Transform}
    (hts : ∀ t ∈ ts, t ∈ s.transforms) : Placed s p ts (placeAll n p ts) := by
  induction n generalizing p ts with
  | zero => exact ⟨id, fun _ hid => hid, fun t ht => ht, fun t ht => Or.inl ht⟩
  | succ n ih =>
    have hpass := placed_placePass h p hts
    unfold placeAll
    split
    · exact hpass
    · have hlater := ih (placePass p ts).1 fun t ht => hts t (hpass.pending t ht)
      refine ⟨fun hp => hlater.flow (hpass.flow hp), fun id hid => hlater.kept id (hpass.kept id hid),
        fun t ht => hpass.pending t (hlater.pending t ht), fun t ht => ?_⟩
      rcases hpass.placed t ht with hin | hsome
      · exact hlater.placed t hin
      · exact Or.inr (hlater.kept t.id hsome)

theorem mem_pendingTransforms {ts : List Transform} (h : (ts.map (·.id)).Nodup) {t : Transform} :
    t ∈ pendingTransforms ts ↔ t ∈ ts := by
  have hkeys : ((ts.map fun t => (t.id, t)).map Prod.fst).Nodup := by
    rw [List.map_map]
    exact h
  rw [pendingTransforms, Map.entries_ofEntries hkeys, List.map_map]
  exact ⟨fun ht => by simpa using ht, fun ht => by simpa using ht⟩

/-- **The inputs** meet the invariant before any transform is placed. -/
theorem flow_inputPlacement (h : Regular s) : Flow s (inputPlacement s) := by
  intro hpasses id q hq
  obtain ⟨hnodup, _, hall⟩ := declareInputs_passes (passes_append.mp hpasses).2
  obtain ⟨i, hi, hid, rfl⟩ := (hall id q hq).resolve_left nofun
  have honly : ∀ j, Reads s id j ↔ j = i := by
    intro j
    constructor
    · intro hj
      obtain ⟨hmem, heq⟩ := reads_input h hi (hid ▸ hj)
      exact List.inj_on_of_nodup_map hnodup hmem hi heq
    · rintro rfl
      exact hid ▸ Reads.input hi
  refine ⟨⟨i.minimumTrustClass, rfl, ⟨i, (honly i).mpr rfl, rfl⟩, ?_⟩,
    i.maxAgeMs, rfl, ⟨i, (honly i).mpr rfl, rfl⟩, ?_⟩
  · rintro rank ⟨j, hj, rfl⟩
    rw [(honly j).mp hj]
  · rintro age ⟨j, hj, rfl⟩
    rw [(honly j).mp hj]

end Placing

/-! ## 7. What a decision reads -/

section Decisions

variable {provenance : Provenance} {path : String}

theorem operand_ok {o : OperandNode} {q : NodeProvenance}
    (h : operandProvenance provenance path o = .ok q) (hunit : q.unit ≠ none) :
    ∀ ref ∈ o.refs, ∃ q, nodeAt provenance ref = some q ∧ q.unit ≠ none := by
  cases o with
  | literal value unit => exact fun ref href => absurd href List.not_mem_nil
  | ref id =>
    intro ref href
    rw [List.mem_singleton.mp href]
    cases hnode : nodeAt provenance id with
    | none =>
      simp only [operandProvenance, hnode] at h
      cases h
    | some q' =>
      simp only [operandProvenance, hnode] at h
      cases h
      exact ⟨q, rfl, hunit⟩

theorem operand_error {o : OperandNode} {problem : CompileProblem}
    (h : operandProvenance provenance path o = .error problem) : problem.Blocking := by
  cases o with
  | literal value unit => cases h
  | ref id =>
    cases hnode : nodeAt provenance id with
    | none =>
      simp only [operandProvenance, hnode] at h
      cases h
      exact Or.inl rfl
    | some q' =>
      simp only [operandProvenance, hnode] at h
      cases h

theorem compare_passes {left right : OperandNode}
    (h : Passes (compareProblems provenance path left right)) :
    ∀ ref ∈ left.refs ++ right.refs, ∃ q, nodeAt provenance ref = some q ∧ q.unit ≠ none := by
  unfold compareProblems at h
  cases hl : operandProvenance provenance s!"{path}.left" left with
  | error l =>
    rw [hl] at h
    cases hr : operandProvenance provenance s!"{path}.right" right with
    | error r | ok r =>
      rw [hr] at h
      exact absurd h (not_passes_cons (operand_error hl))
  | ok l =>
    rw [hl] at h
    cases hr : operandProvenance provenance s!"{path}.right" right with
    | error r =>
      rw [hr] at h
      exact absurd h (not_passes_cons (operand_error hr))
    | ok r =>
      rw [hr] at h
      simp only at h
      cases hc : assertComparable l.unit r.unit path with
      | error e =>
        rw [hc] at h
        exact absurd h (not_passes_cons (Or.inl rfl))
      | ok u =>
        obtain ⟨hlu, hru⟩ := assertComparable_eq_ok hc
        intro ref href
        rcases List.mem_append.mp href with href | href
        · exact operand_ok hl hlu ref href
        · exact operand_ok hr hru ref href

mutual

theorem condition_passes : ∀ (c : ConditionNode) (path : String),
    Passes (checkCondition provenance path c) →
    ∀ ref ∈ conditionRefs c, ∃ q, nodeAt provenance ref = some q ∧ q.unit ≠ none
  | .compare _ left right, path, h => by
    rw [conditionRefs]
    rw [checkCondition] at h
    exact compare_passes h
  | .and children, path, h => by
    rw [conditionRefs]
    rw [checkCondition] at h
    exact children_pass children _ 0 h
  | .or children, path, h => by
    rw [conditionRefs]
    rw [checkCondition] at h
    exact children_pass children _ 0 h
  | .not child, path, h => by
    rw [conditionRefs]
    rw [checkCondition] at h
    exact condition_passes child _ h

theorem children_pass : ∀ (cs : List ConditionNode) (path : String) (i : Nat),
    Passes (checkCondition.checkChildren provenance path i cs) →
    ∀ ref ∈ conditionRefs.childrenRefs cs, ∃ q, nodeAt provenance ref = some q ∧ q.unit ≠ none
  | [], _, _, _ => fun ref href => absurd href List.not_mem_nil
  | c :: cs, path, i, h => by
    rw [checkCondition.checkChildren, passes_append] at h
    rw [conditionRefs.childrenRefs]
    intro ref href
    rcases List.mem_append.mp href with href | href
    · exact condition_passes c _ h.1 ref href
    · exact children_pass cs path (i + 1) h.2 ref href

end

theorem get?_of_unit {ref : String} {q : NodeProvenance} (h : nodeAt provenance ref = some q)
    (hunit : q.unit ≠ none) : provenance.get? ref = some q := by
  unfold nodeAt at h
  cases hget : provenance.get? ref with
  | some q' =>
    rw [hget] at h
    exact h
  | none =>
    rw [hget] at h
    simp only at h
    split at h
    · cases h
      exact absurd rfl hunit
    · cases h

/-- **A decision that passes** reads entries of the provenance whose trust is at the floor. -/
theorem decision_passes {actions : List StrategyAction} {d : Decision}
    (h : Passes (decisionProblems provenance actions d)) :
    ∀ ref ∈ conditionRefs d.condition, ∃ q, provenance.get? ref = some q ∧
      satisfiesTrust q.trustClass .DIRECT_CHAIN_DATA = true := by
  unfold decisionProblems at h
  simp only [passes_append] at h
  obtain ⟨⟨⟨hcondition, haction⟩, _⟩, htrust⟩ := h
  have hknown : actions.any (·.id = d.actionRef) = true := by
    by_contra hunknown
    rw [if_neg hunknown] at haction
    exact not_passes_cons (Or.inl rfl) haction
  rw [if_pos hknown] at htrust
  intro ref href
  obtain ⟨q, hnode, hunit⟩ := condition_passes d.condition _ hcondition ref href
  refine ⟨q, get?_of_unit hnode hunit, ?_⟩
  by_contra hweak
  have hproblem : ∃ problem, trustProblem provenance d ref = some problem ∧ problem.Blocking := by
    unfold trustProblem
    rw [hnode]
    simp only [if_neg hweak]
    exact ⟨_, rfl, Or.inl rfl⟩
  obtain ⟨problem, hp, hblocking⟩ := hproblem
  exact htrust problem (List.mem_filterMap.mpr ⟨ref, href, hp⟩) hblocking

end Decisions

/-! ## 8. Buildable strategies -/

theorem nil_of_stuck_passes {provenance : Provenance} {stuck : List Transform}
    (h : Passes (stuckProblems provenance stuck)) : stuck = [] := by
  unfold stuckProblems at h
  simp only [passes_append] at h
  obtain ⟨hunresolvable, hcyclic⟩ := h
  by_contra hne
  obtain ⟨t, ht⟩ := List.exists_mem_of_ne_nil stuck hne
  by_cases hmissing : (t.inputs.filter fun dep =>
      (nodeAt provenance dep).isNone && !stuck.any (·.id = dep)) = []
  · have hmem : t ∈ stuck.filter fun t => (t.inputs.filter fun dep =>
        (nodeAt provenance dep).isNone && !stuck.any (·.id = dep)) = [] :=
      List.mem_filter.mpr ⟨ht, decide_eq_true hmissing⟩
    rw [if_neg (List.ne_nil_of_mem hmem)] at hcyclic
    exact not_passes_cons (Or.inl rfl) hcyclic
  · have hmem : t ∈ stuck.filter fun t => (t.inputs.filter fun dep =>
        (nodeAt provenance dep).isNone && !stuck.any (·.id = dep)) ≠ [] :=
      List.mem_filter.mpr ⟨ht, decide_eq_true hmissing⟩
    exact hunresolvable _ (List.mem_map_of_mem hmem) (Or.inl rfl)

theorem satisfiesTrust_of_le {c d : DataTrustClass} {required : DataTrustClass}
    (h : satisfiesTrust (some c) required = true) (hle : trustRank c ≤ trustRank d) :
    satisfiesTrust (some d) required = true := by
  simp only [satisfiesTrust, Option.any_some, decide_eq_true_eq] at h ⊢
  exact h.trans hle

/-- **A buildable strategy with regular ids is sound.** -/
theorem sound_of_regular (s : StrategyIR) (h : Regular s)
    (hbuildable : (compileStrategy (.ok s)).buildable = true) : Sound s := by
  have hpasses := buildable_iff.mp hbuildable
  unfold problemsOf at hpasses
  simp only [passes_append, passes_flatMap] at hpasses
  obtain ⟨⟨⟨⟨⟨hproblems, hstuck⟩, hdecisions⟩, _⟩, _⟩, _⟩ := hpasses
  have hplaced : Placed s (inputPlacement s) (pendingTransforms s.transforms) (placement s) :=
    placed_placeAll h _ _ fun t ht => (mem_pendingTransforms h.transforms).mp ht
  have hflow := hplaced.flow (flow_inputPlacement h) hproblems
  constructor
  · intro d hd ref href i hi
    obtain ⟨q, hget, htrust⟩ := decision_passes (hdecisions d hd) ref href
    obtain ⟨c, hc, _, hle⟩ := (hflow ref q hget).trust
    rw [hc] at htrust
    exact satisfiesTrust_of_le htrust (hle ⟨i, hi, rfl⟩)
  · intro t ht
    have hthere := hplaced.placed t ((mem_pendingTransforms h.transforms).mpr ht)
    rw [nil_of_stuck_passes hstuck] at hthere
    have hsome := hthere.resolve_left List.not_mem_nil
    obtain ⟨q, hq⟩ := Option.isSome_iff_exists.mp hsome
    have hreads : Reads s t.id = TransformReads s t := by
      funext i
      exact propext (reads_transform h ht)
    exact ⟨q, hq, hreads ▸ hflow t.id q hq⟩

/-- Buys ETH while its share of the treasury is low: a price, a balance and a total, the value
    of the balance, and its share. -/
def treasuryStrategy : StrategyIR where
  inputs :=
    [⟨"eth-price", UNITS.price "USD" 8, .VERIFIED_ORACLE, 30000⟩,
     ⟨"eth-balance", UNITS.token "ETH" 18, .INDEXED_CHAIN_DATA, 120000⟩,
     ⟨"portfolio-usd", UNITS.usd, .DIRECT_CHAIN_DATA, 120000⟩]
  transforms :=
    [⟨"eth-usd-value", .TOKEN_TO_USD, ["eth-balance", "eth-price"], none⟩,
     ⟨"eth-allocation-bps", .RATIO_TO_BPS, ["eth-usd-value", "portfolio-usd"], none⟩]
  decisions :=
    [⟨"rebalance-when-low", .compare .LT (.ref "eth-allocation-bps") (.literal "4000" UNITS.bps),
      "swap-usdc-to-eth", some 50000, some 200000⟩]
  actions := [⟨"swap-usdc-to-eth", .selfOnly, none⟩]
  unknowns := []
  requiresCapability := []

/-- The treasury strategy is buildable, and sound. -/
theorem treasuryStrategy_sound : Regular treasuryStrategy ∧
    (compileStrategy (.ok treasuryStrategy)).buildable = true ∧ Sound treasuryStrategy := by
  have hregular : Regular treasuryStrategy := ⟨by decide, by decide, by decide⟩
  have hbuildable : (compileStrategy (.ok treasuryStrategy)).buildable = true := by
    decide
  exact ⟨hregular, hbuildable, sound_of_regular treasuryStrategy hregular hbuildable⟩

/-! ## 9. Names that are not one node's -/

def apiPrice : StrategyInput := ⟨"eth-price", UNITS.price "USD" 8, .EXTERNAL_API, 30000⟩

def poolPrice : StrategyInput := ⟨"pool-price", UNITS.price "USD" 8, .DIRECT_CHAIN_DATA, 30000⟩

/-- A transform over the pool's price, of the id of the API's price. -/
def launderedStrategy : StrategyIR where
  inputs := [apiPrice, poolPrice]
  transforms := [⟨"eth-price", .SUM, ["pool-price"], none⟩]
  decisions :=
    [⟨"buy-when-low",
      .compare .LT (.ref "eth-price") (.literal "300000000000" (UNITS.price "USD" 8)),
      "swap-usdc-to-eth", some 50000, some 200000⟩]
  actions := [⟨"swap-usdc-to-eth", .selfOnly, none⟩]
  unknowns := []
  requiresCapability := []

/-- **It is buildable, and its decision reads the API's price.** -/
theorem launderedStrategy_not_sound :
    ¬ ((compileStrategy (.ok launderedStrategy)).buildable = true → Sound launderedStrategy) := by
  intro h
  have hbuildable : (compileStrategy (.ok launderedStrategy)).buildable = true := by
    decide
  have hreads : Reads launderedStrategy apiPrice.id apiPrice :=
    Reads.input (s := launderedStrategy) List.mem_cons_self
  have htrust := (h hbuildable).decisions _ List.mem_cons_self apiPrice.id List.mem_cons_self
    apiPrice hreads
  exact absurd htrust (by decide)

end ContextLock.Strategy
