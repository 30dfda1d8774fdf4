/-
  Subject:   What the placing of transforms places, and what is said of the rest.

  Transforms refer to each other by name; of those of one id the last is placed. A transform is
  placed after all it refers to, so that one that leads to an unknown name, or to a cycle, is left.
  Of what is left the compiler names an unknown name where the transform has one itself, and a cycle
  where it has none.

  A name that every object inherits is found in the provenance without being there; a reference by
  such a name to a transform is shadowed.
-/
import ContextLock.Machine.Graph
import ContextLock.Strategy.Provenance

namespace ContextLock.Strategy

open Js Machine Relation

/-! ## 1. References -/

section References

variable (s : StrategyIR)

/-- The transforms that are to be placed: of those of one id the last. -/
def kept : List Transform := pendingTransforms s.transforms

def Known (name : String) : Prop := name ∈ s.inputs.map (·.id) ∨ name ∈ inheritedKeys

/-- `t` refers to `u`; a name that an input has is the input's. -/
def Refers (t u : Transform) : Prop :=
  u ∈ kept s ∧ u.id ∈ t.inputs ∧ u.id ∉ s.inputs.map (·.id)

/-- The transform names a node that there is not. -/
def Dangling (t : Transform) : Prop :=
  ∃ dep ∈ t.inputs, ¬ Known s dep ∧ dep ∉ (kept s).map (·.id)

/-- No reference to a transform is answered by what every object inherits. -/
def Unshadowed : Prop := ∀ t ∈ kept s, ∀ u, Refers s t u → u.id ∉ inheritedKeys

theorem nodup_kept : ((kept s).map (·.id)).Nodup := by
  have hkeys : (kept s).map (·.id)
      = (Js.Map.ofEntries (s.transforms.map fun t => (t.id, t))).keys := by
    rw [kept, pendingTransforms, Map.keys, List.map_map]
    refine List.map_congr_left fun e he => ?_
    have hget := Map.get?_of_mem _ (k := e.1) (a := e.2) he
    obtain ⟨f, hf, hkey, hvalue⟩ := Map.mem_of_get?_ofEntries hget
    obtain ⟨t, _, rfl⟩ := List.mem_map.mp hf
    show e.2.id = e.1
    rw [← hvalue, ← hkey]
  rw [hkeys]
  exact (Js.Map.ofEntries _).nodup

theorem mem_transforms_of_kept {t : Transform} (h : t ∈ kept s) : t ∈ s.transforms := by
  obtain ⟨e, he, rfl⟩ := List.mem_map.mp h
  have hget := Map.get?_of_mem _ (k := e.1) (a := e.2) he
  obtain ⟨f, hf, -, hvalue⟩ := Map.mem_of_get?_ofEntries hget
  obtain ⟨t, ht, rfl⟩ := List.mem_map.mp hf
  rw [← hvalue]
  exact ht

theorem eq_of_id {t u : Transform} (ht : t ∈ kept s) (hu : u ∈ kept s) (hid : t.id = u.id) : t = u :=
  List.inj_on_of_nodup_map (nodup_kept s) ht hu hid

end References

/-! ## 2. What passes do -/

def Found (provenance : Provenance) (name : String) : Prop := (nodeAt provenance name).isSome = true

theorem found_set {provenance : Provenance} {id name : String} {node : NodeProvenance} :
    Found (provenance.set id node) name ↔ Found provenance name ∨ name = id := by
  unfold Found nodeAt
  rw [Map.get?_set]
  by_cases h : name = id
  · simp [h]
  · simp [h]

theorem found_place {p : Placement} {t : Transform} {name : String} :
    Found (place p t).provenance name ↔ Found p.provenance name ∨ name = t.id := by
  unfold place
  split <;> exact found_set

theorem order_place {p : Placement} {t : Transform} : (place p t).order = p.order ++ [t.id] := by
  unfold place
  split <;> rfl

/-- **What passes do**: they place some of the transforms, each after all that it names, and leave
    the others. -/
structure Run (p : Placement) (ts placed : List Transform) (result : Placement × List Transform) :
    Prop where
  order : result.1.order = p.order ++ placed.map (·.id)
  found : ∀ name, Found result.1.provenance name ↔
    Found p.provenance name ∨ name ∈ placed.map (·.id)
  perm : (placed ++ result.2).Perm ts
  after : ∀ before t rest, placed = before ++ t :: rest → ∀ dep ∈ t.inputs,
    Found p.provenance dep ∨ dep ∈ before.map (·.id)

theorem run_nil (p : Placement) (ts : List Transform) : Run p ts [] (p, ts) where
  order := (List.append_nil _).symm
  found := fun name => by simp
  perm := List.Perm.refl _
  after := fun before t rest h => by simp at h

theorem Run.trans {p : Placement} {ts placed placed' : List Transform}
    {middle result : Placement × List Transform} (h : Run p ts placed middle)
    (h' : Run middle.1 middle.2 placed' result) : Run p ts (placed ++ placed') result where
  order := by rw [h'.order, h.order, List.map_append, List.append_assoc]
  found := fun name => by rw [h'.found, h.found, List.map_append, List.mem_append, or_assoc]
  perm := by
    rw [List.append_assoc]
    exact (h'.perm.append_left placed).trans h.perm
  after := fun before t rest hsplit dep hdep => by
    rcases List.append_eq_append_iff.mp hsplit with ⟨more, hbefore, hplaced'⟩ | ⟨more, hplaced, hrest⟩
    · rcases h'.after more t rest hplaced' dep hdep with hfound | hmem
      · rcases (h.found dep).mp hfound with hfound | hmem
        · exact .inl hfound
        · rw [hbefore, List.map_append]
          exact .inr (List.mem_append_left _ hmem)
      · rw [hbefore, List.map_append]
        exact .inr (List.mem_append_right _ hmem)
    · cases more with
      | nil =>
        rw [List.append_nil] at hplaced
        rw [List.nil_append] at hrest
        rcases h'.after [] t rest hrest.symm dep hdep with hfound | hmem
        · rw [← hplaced]
          exact (h.found dep).mp hfound
        · exact absurd hmem List.not_mem_nil
      | cons u more =>
        rw [List.cons_append] at hrest
        obtain ⟨rfl, _⟩ := List.cons.inj hrest
        exact h.after before t more hplaced dep hdep

theorem run_place {p : Placement} {t : Transform} (h : ready p.provenance t = true)
    (ts : List Transform) : Run p (t :: ts) [t] (place p t, ts) where
  order := order_place
  found := fun name => by rw [found_place, List.map_singleton, List.mem_singleton]
  perm := List.Perm.refl _
  after := fun before u rest hsplit dep hdep => by
    rcases List.cons_eq_append_iff.mp hsplit with ⟨rfl, hcons⟩ | ⟨more, -, hnil⟩
    · obtain ⟨rfl, -⟩ := List.cons.inj hcons
      exact .inl (List.all_eq_true.mp h dep hdep)
    · simp at hnil

theorem Run.skip {p : Placement} {t : Transform} {ts placed : List Transform}
    {result : Placement × List Transform} (h : Run p ts placed result) :
    Run p (t :: ts) placed (result.1, t :: result.2) where
  order := h.order
  found := h.found
  perm := List.perm_middle.trans (h.perm.cons t)
  after := h.after

theorem run_placePass (p : Placement) (ts : List Transform) :
    ∃ placed, Run p ts placed (placePass p ts) := by
  induction ts generalizing p with
  | nil => exact ⟨[], run_nil p []⟩
  | cons t ts ih =>
    unfold placePass
    by_cases hready : ready p.provenance t = true
    · rw [if_pos hready]
      obtain ⟨placed, hrun⟩ := ih (place p t)
      exact ⟨_, (run_place hready ts).trans hrun⟩
    · rw [if_neg hready]
      obtain ⟨placed, hrun⟩ := ih p
      exact ⟨placed, hrun.skip⟩

/-- **All passes.** -/
theorem run_placeAll (n : Nat) (p : Placement) (ts : List Transform) :
    ∃ placed, Run p ts placed (placeAll n p ts) := by
  induction n generalizing p ts with
  | zero => exact ⟨[], run_nil p ts⟩
  | succ n ih =>
    obtain ⟨placed, hrun⟩ := run_placePass p ts
    unfold placeAll
    by_cases heq : (placePass p ts).2.length = ts.length
    · rw [if_pos heq]
      exact ⟨placed, hrun⟩
    · rw [if_neg heq]
      obtain ⟨placed', hrun'⟩ := ih (placePass p ts).1 (placePass p ts).2
      exact ⟨placed ++ placed', hrun.trans hrun'⟩

theorem not_ready_of_fixed {p : Placement} {ts : List Transform} (h : placePass p ts = (p, ts)) :
    ∀ t ∈ ts, ready p.provenance t = false := by
  induction ts with
  | nil => exact fun t ht => absurd ht List.not_mem_nil
  | cons u ts ih =>
    have hready : ready p.provenance u = false := by
      refine eq_false_of_ne_true fun hready => ?_
      rw [placePass, if_pos hready] at h
      have hlength := length_placePass (place p u) ts
      rw [congrArg Prod.snd h, List.length_cons] at hlength
      omega
    rw [placePass, if_neg (by rw [hready]; decide)] at h
    obtain ⟨hplacement, hleft⟩ := Prod.mk.inj h
    have hrest : placePass p ts = (p, ts) := Prod.ext hplacement (List.cons.inj hleft).2
    intro t ht
    rcases List.mem_cons.mp ht with rfl | ht
    · exact hready
    · exact ih hrest t ht

/-! ## 3. The whole placement -/

section Whole

variable {s : StrategyIR}

theorem found_empty (name : String) : Found .empty name ↔ name ∈ inheritedKeys := by
  unfold Found nodeAt
  rw [Map.get?_empty]
  by_cases h : name ∈ inheritedKeys
  · simp [h]
  · simp [h]

theorem found_declareInputs (inputs : List StrategyInput) (provenance : Provenance) (name : String) :
    Found (declareInputs inputs provenance).1 name ↔
      Found provenance name ∨ name ∈ inputs.map (·.id) := by
  induction inputs generalizing provenance with
  | nil => simp [declareInputs]
  | cons i rest ih =>
    unfold declareInputs
    rw [List.map_cons, List.mem_cons]
    by_cases hthere : (nodeAt provenance i.id).isSome = true
    · rw [if_pos hthere]
      refine (ih provenance).trans ⟨?_, ?_⟩
      · rintro (hfound | hmem)
        · exact .inl hfound
        · exact .inr (.inr hmem)
      · rintro (hfound | rfl | hmem)
        · exact .inl hfound
        · exact .inl hthere
        · exact .inr hmem
    · rw [if_neg hthere, ih, found_set, or_assoc]

theorem found_inputPlacement (name : String) :
    Found (inputPlacement s).provenance name ↔ Known s name := by
  rw [inputPlacement, found_declareInputs, found_empty, Known, or_comm]

theorem placement_run (s : StrategyIR) :
    (∃ placed, Run (inputPlacement s) (kept s) placed (placement s)) ∧
      placePass (placement s).1 (placement s).2 = placement s :=
  ⟨run_placeAll _ _ _, placeAll_fixed (le_refl _)⟩

section Placed

variable {placed : List Transform} (hrun : Run (inputPlacement s) (kept s) placed (placement s))

include hrun

theorem mem_kept_iff {t : Transform} : t ∈ kept s ↔ t ∈ placed ∨ t ∈ (placement s).2 := by
  rw [← hrun.perm.mem_iff, List.mem_append]

/-- **Order**: a placed transform comes after those that it refers to. -/
theorem placed_after (hshadow : Unshadowed s) {before rest : List Transform} {t u : Transform}
    (hsplit : placed = before ++ t :: rest) (hrefers : Refers s t u) : u ∈ before := by
  have ht : t ∈ kept s := (mem_kept_iff hrun).mpr (.inl (by simp [hsplit]))
  rcases hrun.after before t rest hsplit u.id hrefers.2.1 with hfound | hmem
  · rcases (found_inputPlacement _).mp hfound with hinput | hinherited
    · exact absurd hinput hrefers.2.2
    · exact absurd hinherited (hshadow t ht u hrefers)
  · obtain ⟨v, hv, hid⟩ := List.mem_map.mp hmem
    have hvkept : v ∈ kept s := (mem_kept_iff hrun).mpr (.inl (by simp [hsplit, hv]))
    rwa [← eq_of_id s hvkept hrefers.1 hid]

theorem resolved_of_placed (hshadow : Unshadowed s) {t : Transform} (ht : t ∈ placed) :
    Resolved (Refers s) (Dangling s) t := by
  -- over the transforms placed before it
  have hall : ∀ (before rest : List Transform), placed = before ++ rest →
      ∀ u ∈ before, Resolved (Refers s) (Dangling s) u := by
    intro before
    induction before using List.reverseRecOn with
    | nil => exact fun _ _ u hu => absurd hu List.not_mem_nil
    | append_singleton before t ih =>
      intro rest hsplit u hu
      rw [List.append_assoc, List.singleton_append] at hsplit
      have hbefore := ih (t :: rest) hsplit
      rcases List.mem_append.mp hu with hu | hu
      · exact hbefore u hu
      · obtain rfl := List.mem_singleton.mp hu
        refine .intro ?_ fun v hv => hbefore v (placed_after hrun hshadow hsplit hv)
        rintro ⟨dep, hdep, hunknown, hnot⟩
        rcases hrun.after before u rest hsplit dep hdep with hfound | hmem
        · exact hunknown ((found_inputPlacement dep).mp hfound)
        · obtain ⟨v, hv, rfl⟩ := List.mem_map.mp hmem
          exact hnot (List.mem_map_of_mem ((mem_kept_iff hrun).mpr (.inl (by simp [hsplit, hv]))))
  exact hall placed [] (List.append_nil _).symm t ht

theorem found_placement (name : String) :
    Found (placement s).1.provenance name ↔ Known s name ∨ name ∈ placed.map (·.id) := by
  rw [hrun.found, found_inputPlacement]

/-- **A transform that is left is not resolved.** -/
theorem not_resolved_of_stuck {t : Transform} (ht : t ∈ (placement s).2) :
    ¬ Resolved (Refers s) (Dangling s) t := by
  intro hresolved
  induction hresolved with
  | @intro t good _ ih =>
    have hfixed := (placement_run s).2
    have hready := not_ready_of_fixed (Prod.ext (congrArg Prod.fst hfixed) (congrArg Prod.snd hfixed))
      t ht
    obtain ⟨dep, hdep, hnone⟩ := List.all_eq_false.mp hready
    have hunfound : ¬ Found (placement s).1.provenance dep := hnone
    rw [found_placement hrun, not_or] at hunfound
    have hmem : dep ∈ (kept s).map (·.id) := by
      by_contra hnot
      exact good ⟨dep, hdep, hunfound.1, hnot⟩
    obtain ⟨u, hu, rfl⟩ := List.mem_map.mp hmem
    have hstuck : u ∈ (placement s).2 := by
      refine ((mem_kept_iff hrun).mp hu).resolve_left fun hplaced => ?_
      exact hunfound.2 (List.mem_map_of_mem hplaced)
    exact ih u ⟨hu, hdep, fun hinput => hunfound.1 (.inl hinput)⟩ hstuck

/-- **What is left** is what leads to an unknown name or to a cycle. -/
theorem mem_stuck_iff (hshadow : Unshadowed s) {t : Transform} (ht : t ∈ kept s) :
    t ∈ (placement s).2 ↔
      Leads (Refers s) t (Dangling s) ∨ Leads (Refers s) t (OnCycle (Refers s)) := by
  rw [← @not_resolved_iff _ (Refers s) (Dangling s) (kept s) fun _ _ h => h.1]
  constructor
  · exact not_resolved_of_stuck hrun
  · intro hnot
    refine ((mem_kept_iff hrun).mp ht).resolve_left fun hplaced => ?_
    exact hnot (resolved_of_placed hrun hshadow hplaced)

end Placed

end Whole

/-! ## 4. What is reported of the rest -/

/-- The operands of a transform that is left which are neither found nor left themselves. -/
def missingOf (provenance : Provenance) (stuck : List Transform) (t : Transform) : List String :=
  t.inputs.filter fun dep => (nodeAt provenance dep).isNone && !stuck.any (·.id = dep)

def cyclicOf (provenance : Provenance) (stuck : List Transform) : List Transform :=
  stuck.filter fun t => missingOf provenance stuck t = []

def unknownRefProblem (t : Transform) (missing : List String) : CompileProblem :=
  ⟨"STRAT-UNKNOWN-REF", .CRITICAL, s!"transforms.{t.id}",
    "references unknown node(s): " ++ ", ".intercalate missing,
    "Declare the input, or correct the reference."⟩

def cycleProblem (ids : List String) : CompileProblem :=
  ⟨"STRAT-CYCLE", .CRITICAL, "transforms",
    "cyclic dependency among: " ++ ", ".intercalate ids,
    "A strategy graph must be acyclic; a value cannot depend on itself."⟩

theorem stuckProblems_eq (provenance : Provenance) (stuck : List Transform) :
    stuckProblems provenance stuck =
      (stuck.filter fun t => missingOf provenance stuck t ≠ []).map
          (fun t => unknownRefProblem t (missingOf provenance stuck t))
        ++ if cyclicOf provenance stuck = [] then []
          else [cycleProblem ((cyclicOf provenance stuck).map (·.id))] := rfl

section Reports

variable (s : StrategyIR)

/-- The transforms that `STRAT-CYCLE` names. -/
def cyclic : List Transform := cyclicOf (placement s).1.provenance (placement s).2

def leftProblems : List CompileProblem :=
  stuckProblems (placement s).1.provenance (placement s).2

/-- `STRAT-CYCLE` names the transform. -/
def CycleReported (t : Transform) : Prop :=
  t ∈ cyclic s ∧ cycleProblem ((cyclic s).map (·.id)) ∈ leftProblems s

/-- A critical problem is about the id: under its path, or as one of a cycle. -/
def Reported (id : String) : Prop :=
  (∃ problem ∈ leftProblems s, problem.severity = .CRITICAL ∧ problem.path = s!"transforms.{id}") ∨
    id ∈ (cyclic s).map (·.id) ∧ cycleProblem ((cyclic s).map (·.id)) ∈ leftProblems s

variable {s}

theorem mem_problemsOf {problem : CompileProblem} (h : problem ∈ leftProblems s) :
    problem ∈ problemsOf s := by
  unfold problemsOf
  simp only [List.mem_append]
  exact .inl (.inl (.inl (.inl (.inr h))))

theorem cycleReported_iff {t : Transform} : CycleReported s t ↔ t ∈ cyclic s := by
  refine ⟨fun h => h.1, fun h => ⟨h, ?_⟩⟩
  have hne : cyclicOf (placement s).1.provenance (placement s).2 ≠ [] := List.ne_nil_of_mem h
  rw [leftProblems, stuckProblems_eq, if_neg hne]
  exact List.mem_append_right _ List.mem_cons_self

theorem path_inj {a b : String} (h : s!"transforms.{a}" = s!"transforms.{b}") : a = b :=
  (String.append_right_inj "transforms.").mp h

theorem path_ne {a : String} : s!"transforms.{a}" ≠ "transforms" := by
  intro h
  have hlength := congrArg (fun s => s.toList.length) h
  rw [show s!"transforms.{a}" = "transforms." ++ a from rfl, String.toList_append,
    List.length_append] at hlength
  have hfront : "transforms.".toList.length = 11 := rfl
  have hwhole : "transforms".toList.length = 10 := rfl
  omega

/-- **What is reported is what is left.** -/
theorem reported_iff {id : String} : Reported s id ↔ id ∈ (placement s).2.map (·.id) := by
  constructor
  · rintro (⟨problem, hmem, -, hpath⟩ | ⟨hmem, -⟩)
    · rw [leftProblems, stuckProblems_eq] at hmem
      rcases List.mem_append.mp hmem with hmem | hmem
      · obtain ⟨t, ht, rfl⟩ := List.mem_map.mp hmem
        rw [← path_inj hpath]
        exact List.mem_map_of_mem (List.mem_of_mem_filter ht)
      · split at hmem
        · exact absurd hmem List.not_mem_nil
        · obtain rfl := List.mem_singleton.mp hmem
          exact absurd hpath.symm path_ne
    · obtain ⟨t, ht, rfl⟩ := List.mem_map.mp hmem
      exact List.mem_map_of_mem (List.mem_of_mem_filter ht)
  · intro hmem
    obtain ⟨t, ht, rfl⟩ := List.mem_map.mp hmem
    by_cases hmissing : missingOf (placement s).1.provenance (placement s).2 t = []
    · have hcyclic : t ∈ cyclic s := List.mem_filter.mpr ⟨ht, decide_eq_true hmissing⟩
      exact .inr ⟨List.mem_map_of_mem hcyclic, (cycleReported_iff.mpr hcyclic).2⟩
    · refine .inl ⟨unknownRefProblem t (missingOf (placement s).1.provenance (placement s).2 t), ?_,
        rfl, rfl⟩
      rw [leftProblems, stuckProblems_eq]
      exact List.mem_append_left _
        (List.mem_map_of_mem (List.mem_filter.mpr ⟨ht, decide_eq_true hmissing⟩))

variable {placed : List Transform} (hrun : Run (inputPlacement s) (kept s) placed (placement s))

include hrun

theorem missing_iff {t : Transform} :
    missingOf (placement s).1.provenance (placement s).2 t ≠ [] ↔ Dangling s t := by
  have hdep : ∀ dep, ((nodeAt (placement s).1.provenance dep).isNone
      && !(placement s).2.any (·.id = dep)) = true ↔
      ¬ Known s dep ∧ dep ∉ (kept s).map (·.id) := by
    intro dep
    have hfound := found_placement hrun dep
    have hkept : dep ∈ (kept s).map (·.id) ↔
        dep ∈ placed.map (·.id) ∨ dep ∈ (placement s).2.map (·.id) := by
      rw [← (hrun.perm.map _).mem_iff, List.map_append, List.mem_append]
    have hstuck : (placement s).2.any (·.id = dep) = true ↔ dep ∈ (placement s).2.map (·.id) := by
      simp
    rw [Bool.and_eq_true, Bool.not_eq_true', ← Bool.not_eq_true, hstuck, hkept,
      ← Option.not_isSome, Bool.not_eq_true', ← Bool.not_eq_true]
    unfold Found at hfound
    rw [hfound]
    tauto
  unfold missingOf Dangling
  rw [Ne, List.filter_eq_nil_iff]
  push Not
  exact exists_congr fun dep => and_congr_right fun _ => hdep dep

/-- **What is reported as a cycle**: what is left without an unknown name of its own. -/
theorem mem_cyclic_iff {t : Transform} :
    t ∈ cyclic s ↔ t ∈ (placement s).2 ∧ ¬ Dangling s t := by
  rw [← missing_iff hrun, cyclic, cyclicOf, List.mem_filter, decide_eq_true_eq, not_not]

end Reports

/-! ## 5. The placing of a strategy -/

section Exact

variable (s : StrategyIR)

def CyclesExact : Prop :=
  ∀ t ∈ kept s, CycleReported s t ↔ Leads (Refers s) t (OnCycle (Refers s))

/-- Every transform of the strategy is placed, or reported. -/
def AllAccounted (placed : List Transform) : Prop :=
  ∀ t ∈ s.transforms, t ∈ placed ∨ Reported s t.id

/-- **The condition on references and ids**: a transform that leads to a cycle names no unknown node
    itself; one that leads to an unknown name of another transform, and has none itself, leads to a
    cycle, too; and of transforms of one id that differ, the last leads to a cycle or to an unknown
    name. -/
structure Classified : Prop where
  cycles : ∀ t ∈ kept s, Leads (Refers s) t (OnCycle (Refers s)) → ¬ Dangling s t
  unknowns : ∀ t ∈ kept s, ¬ Dangling s t → Leads (Refers s) t (Dangling s) →
    Leads (Refers s) t (OnCycle (Refers s))
  duplicates : ∀ t ∈ s.transforms, t ∈ kept s ∨ ∃ u ∈ kept s, u.id = t.id ∧
    (Leads (Refers s) u (Dangling s) ∨ Leads (Refers s) u (OnCycle (Refers s)))

variable {s} {placed : List Transform}
  (hrun : Run (inputPlacement s) (kept s) placed (placement s)) (hshadow : Unshadowed s)

include hrun hshadow

theorem cyclesExact_iff : CyclesExact s ↔
    (∀ t ∈ kept s, Leads (Refers s) t (OnCycle (Refers s)) → ¬ Dangling s t) ∧
      ∀ t ∈ kept s, ¬ Dangling s t → Leads (Refers s) t (Dangling s) →
        Leads (Refers s) t (OnCycle (Refers s)) := by
  have hreported : ∀ t ∈ kept s, CycleReported s t ↔
      (Leads (Refers s) t (Dangling s) ∨ Leads (Refers s) t (OnCycle (Refers s))) ∧
        ¬ Dangling s t := by
    intro t ht
    rw [cycleReported_iff, mem_cyclic_iff hrun, mem_stuck_iff hrun hshadow ht]
  constructor
  · intro h
    constructor
    · intro t ht hcycle
      exact ((hreported t ht).mp ((h t ht).mpr hcycle)).2
    · intro t ht hgood hunknown
      exact (h t ht).mp ((hreported t ht).mpr ⟨.inl hunknown, hgood⟩)
  · rintro ⟨hcycles, hunknowns⟩ t ht
    rw [hreported t ht]
    constructor
    · rintro ⟨hunknown | hcycle, hgood⟩
      · exact hunknowns t ht hgood hunknown
      · exact hcycle
    · intro hcycle
      exact ⟨.inr hcycle, hcycles t ht hcycle⟩

theorem allAccounted_iff : AllAccounted s placed ↔
    ∀ t ∈ s.transforms, t ∈ kept s ∨ ∃ u ∈ kept s, u.id = t.id ∧
      (Leads (Refers s) u (Dangling s) ∨ Leads (Refers s) u (OnCycle (Refers s))) := by
  refine forall₂_congr fun t ht => ?_
  rw [reported_iff, List.mem_map]
  constructor
  · rintro (hplaced | ⟨u, hu, hid⟩)
    · exact .inl ((mem_kept_iff hrun).mpr (.inl hplaced))
    · have hkept : u ∈ kept s := (mem_kept_iff hrun).mpr (.inr hu)
      exact .inr ⟨u, hkept, hid, (mem_stuck_iff hrun hshadow hkept).mp hu⟩
  · rintro (hkept | ⟨u, hkept, hid, hleads⟩)
    · exact ((mem_kept_iff hrun).mp hkept).imp_right fun hstuck => ⟨t, hstuck, rfl⟩
    · exact .inr ⟨u, (mem_stuck_iff hrun hshadow hkept).mpr hleads, hid⟩

omit hrun in
/-- **The placing of a strategy** without shadowed references: it ends where one more pass would place
    nothing, each transform stands in the order after those it refers to, and cycles are reported
    for those that lead to one, and all that is left is reported, exactly under the condition. -/
theorem placing_is_exact :
    placePass (placement s).1 (placement s).2 = placement s ∧
      ∃ placed, (compileStrategy (.ok s)).order = s.inputs.map (·.id) ++ placed.map (·.id) ∧
        (placed ++ (placement s).2).Perm (kept s) ∧
        (∀ before t rest, placed = before ++ t :: rest → ∀ u, Refers s t u → u ∈ before) ∧
        (∀ problem ∈ leftProblems s, problem ∈ (compileStrategy (.ok s)).problems) ∧
        (CyclesExact s ∧ AllAccounted s placed ↔ Classified s) := by
  obtain ⟨⟨placed, hrun⟩, hfixed⟩ := placement_run s
  refine ⟨hfixed, placed, hrun.order, hrun.perm, ?_, fun problem h => mem_problemsOf h, ?_⟩
  · intro before t rest hsplit u hrefers
    exact placed_after hrun hshadow hsplit hrefers
  · rw [cyclesExact_iff hrun hshadow, allAccounted_iff hrun hshadow]
    constructor
    · rintro ⟨⟨hcycles, hunknowns⟩, hduplicates⟩
      exact ⟨hcycles, hunknowns, hduplicates⟩
    · intro h
      exact ⟨⟨h.cycles, h.unknowns⟩, h.duplicates⟩

end Exact

/-- The treasury strategy has no shadowed references. -/
theorem placing_is_exact_treasury :
    placePass (placement treasuryStrategy).1 (placement treasuryStrategy).2
        = placement treasuryStrategy ∧
      ∃ placed, (compileStrategy (.ok treasuryStrategy)).order
          = treasuryStrategy.inputs.map (·.id) ++ placed.map (·.id) ∧
        (CyclesExact treasuryStrategy ∧ AllAccounted treasuryStrategy placed ↔
          Classified treasuryStrategy) := by
  have hshadow : Unshadowed treasuryStrategy := by
    intro t _ u hrefers
    have hids : ∀ v ∈ treasuryStrategy.transforms, v.id ∉ inheritedKeys := by decide
    exact hids u (mem_transforms_of_kept treasuryStrategy hrefers.1)
  obtain ⟨hfixed, placed, horder, -, -, -, hiff⟩ := placing_is_exact hshadow
  exact ⟨hfixed, placed, horder, hiff⟩

/-- A value of a price that is not declared, and a share of it. -/
def danglingStrategy : StrategyIR :=
  { treasuryStrategy with inputs := treasuryStrategy.inputs.drop 1 }

theorem danglingStrategy_acyclic (t : Transform) : ¬ OnCycle (Refers danglingStrategy) t := by
  have hnames : ∀ t ∈ danglingStrategy.transforms, ∀ u ∈ danglingStrategy.transforms,
      u.id ∈ t.inputs → t.id = "eth-allocation-bps" ∧ u.id = "eth-usd-value" := by decide
  intro hcycle
  obtain ⟨u, htu, -⟩ := TransGen.head'_iff.mp hcycle
  obtain ⟨v, htv, hvt⟩ := TransGen.tail'_iff.mp hcycle
  have ht := mem_transforms_of_kept danglingStrategy hvt.1
  have hu := mem_transforms_of_kept danglingStrategy htu.1
  have hv : v ∈ danglingStrategy.transforms := by
    rcases ReflTransGen.cases_tail htv with rfl | ⟨w, -, hwv⟩
    · exact ht
    · exact mem_transforms_of_kept danglingStrategy hwv.1
  have hsource := (hnames t ht u hu htu.2.1).1
  have htarget := (hnames v hv t ht hvt.2.1).2
  rw [hsource] at htarget
  exact absurd htarget (by decide)

/-- **The share is reported as one of a cycle, and leads to none.** -/
theorem share_reported_as_cycle : ¬ CyclesExact danglingStrategy := by
  intro h
  have hreported : ∃ t ∈ kept danglingStrategy, t ∈ cyclic danglingStrategy :=
    ⟨⟨"eth-allocation-bps", .RATIO_TO_BPS, ["eth-usd-value", "portfolio-usd"], none⟩,
      by decide, by decide⟩
  obtain ⟨t, ht, hcyclic⟩ := hreported
  obtain ⟨u, -, hu⟩ := (h t ht).mp (cycleReported_iff.mpr hcyclic)
  exact danglingStrategy_acyclic u hu

end ContextLock.Strategy
