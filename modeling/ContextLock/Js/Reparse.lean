/-
  Subject:   What comes back from `JSON.parse(JSON.stringify(v))`.

  Whatever `JSON.stringify` writes is read. Numbers are read as the rounding gives them, which is a
  parameter; `undefined` and what is no data are left out of objects, and `null` in lists.
-/
import ContextLock.Js.Parse

namespace ContextLock.Js

variable {nearest : Rounding}

theorem eq_map {α β : Type} {f : List α → List β} {g : α → β} (hnil : f [] = [])
    (hcons : ∀ x xs, f (x :: xs) = g x :: f xs) (xs : List α) : f xs = xs.map g := by
  induction xs with
  | nil => exact hnil
  | cons x xs ih => rw [hcons, ih, List.map_cons]

/-! ## 1. Numbers -/

/-- A finite number as it is read from its text. -/
def Numeral.reread (nearest : Rounding) : Numeral → Double
  | .int n => wholeNumber nearest (n < 0) n.natAbs
  | .decimal d => nearest d.negative d.mantissa d.exponent

theorem spanDigits_of_head {ds t : List Char} (hds : ∀ c ∈ ds, c.isDigit)
    (ht : ∀ c ∈ t.head?, c.isDigit = false) : spanDigits (ds ++ t) = (ds, t) := by
  unfold spanDigits
  rw [List.takeWhile_append_of_pos hds, List.dropWhile_append_of_pos hds]
  cases t with
  | nil => simp
  | cons c t =>
    have hc : ¬ c.isDigit = true := by
      rw [ht c rfl]
      decide
    rw [List.takeWhile_cons_of_neg hc, List.dropWhile_cons_of_neg hc, List.append_nil]

theorem isDigit_of_mem_toDigits {n : Nat} : ∀ c ∈ Nat.toDigits 10 n, c.isDigit :=
  fun _ => isDigit_of_mem_digits

theorem no_leading_zero (n : Nat) : ¬ (Nat.toDigits 10 n = [] ∨
    1 < (Nat.toDigits 10 n).length ∧ (Nat.toDigits 10 n).head? = some '0') := by
  rintro (hnil | ⟨hlength, hzero⟩)
  · exact Nat.toDigits_ne_nil hnil
  · rcases Nat.eq_zero_or_pos n with rfl | hpos
    · exact absurd hlength (by decide)
    · exact head_toDigits_ne_zero hpos hzero

/-- The last `k` digits of a number up to `10 ^ k`, after others. -/
theorem ofDigitChars_decimals {k n : Nat} (hn : n < 10 ^ k) (lead : Nat) :
    Nat.ofDigitChars 10 (decimals k n) lead = lead * 10 ^ k + n := by
  have hdigit : ∀ m < 10, hexDigit m = m.digitChar := by decide
  induction k generalizing n with
  | zero =>
    obtain rfl : n = 0 := by omega
    simp [decimals]
  | succ k ih =>
    rw [Nat.pow_succ] at hn
    rw [decimals, Nat.ofDigitChars_append, ih (by omega), hdigit _ (by omega),
      Nat.ofDigitChars_cons_digitChar_of_lt_ten (by omega), Nat.ofDigitChars_nil, Nat.pow_succ]
    have hsplit := Nat.div_add_mod n 10
    calc 10 * (lead * 10 ^ k + n / 10) + n % 10
        = lead * (10 ^ k * 10) + (10 * (n / 10) + n % 10) := by ring
      _ = lead * (10 ^ k * 10) + n := by rw [hsplit]

theorem head_closes {t : List Char} (ht : Closes t) : ∀ c ∈ t.head?, c.isDigit = false := by
  intro c hc
  rcases ht c hc with rfl | rfl | rfl <;> rfl

theorem readUnsigned_fixed {d : Decimal} (hd : d.exponent < 0) {t : List Char} (ht : Closes t)
    (negative : Bool) : readUnsigned nearest negative (d.fixedText ++ t)
      = some (nearest negative d.mantissa d.exponent, t) := by
  have hplaces : ∀ c ∈ decimals d.exponent.natAbs (d.mantissa % 10 ^ d.exponent.natAbs), c.isDigit :=
    fun c => isDigit_of_mem_decimals
  have hnonempty : decimals d.exponent.natAbs (d.mantissa % 10 ^ d.exponent.natAbs) ≠ [] := by
    refine List.ne_nil_of_length_pos ?_
    rw [length_decimals]
    omega
  have hfraction : readFraction ('.' :: (decimals d.exponent.natAbs
      (d.mantissa % 10 ^ d.exponent.natAbs) ++ t))
      = some (decimals d.exponent.natAbs (d.mantissa % 10 ^ d.exponent.natAbs), t) := by
    simp only [readFraction]
    rw [spanDigits_of_head hplaces (head_closes ht), if_neg hnonempty]
  have hvalue : Nat.ofDigitChars 10 (Nat.toDigits 10 (d.mantissa / 10 ^ d.exponent.natAbs)
      ++ decimals d.exponent.natAbs (d.mantissa % 10 ^ d.exponent.natAbs)) 0 = d.mantissa := by
    rw [Nat.ofDigitChars_append, Nat.ofDigitChars_ten_toDigits,
      ofDigitChars_decimals (Nat.mod_lt _ (Nat.pow_pos (by decide)))]
    exact Nat.div_add_mod' _ _
  have hexponent : (none : Option Int).getD 0 - (decimals d.exponent.natAbs
      (d.mantissa % 10 ^ d.exponent.natAbs)).length = d.exponent := by
    rw [length_decimals, Option.getD_none]
    omega
  unfold Decimal.fixedText readUnsigned
  dsimp only
  rw [List.append_assoc, List.cons_append,
    spanDigits_of_head isDigit_of_mem_toDigits (fun c hc => by cases hc; rfl)]
  dsimp only
  rw [if_neg (no_leading_zero _), hfraction]
  dsimp only
  rw [readExponent_closes ht]
  dsimp only
  rw [if_neg fun h => hnonempty h.1, hvalue, hexponent]

theorem readExponent_power (d : Decimal) {t : List Char} (ht : Closes t) :
    readExponent ('e' :: (d.power ++ t)) = some (some (d.point - 1), t) := by
  have hdigits : spanDigits (Nat.toDigits 10 (d.point - 1).natAbs ++ t)
      = (Nat.toDigits 10 (d.point - 1).natAbs, t) :=
    spanDigits_of_head isDigit_of_mem_toDigits (head_closes ht)
  unfold Decimal.power readExponent
  by_cases hneg : d.point - 1 < 0
  · simp only [hneg, if_true, List.cons_append, List.head?_cons, List.tail_cons, true_or, hdigits,
      Nat.toDigits_ne_nil, if_false, Nat.ofDigitChars_ten_toDigits]
    have hsize : -((d.point - 1).natAbs : Int) = d.point - 1 := by omega
    rw [hsize]
  · have hsize : ((d.point - 1).natAbs : Int) = d.point - 1 := by omega
    simp [hneg, hdigits, Nat.toDigits_ne_nil, Nat.ofDigitChars_ten_toDigits, hsize]

theorem readUnsigned_power (d : Decimal) {t : List Char} (ht : Closes t) (negative : Bool) :
    readUnsigned nearest negative (d.significand ++ 'e' :: d.power ++ t)
      = some (nearest negative d.mantissa d.exponent, t) := by
  have hall := isDigit_of_mem_toDigits (n := d.mantissa)
  have hvalue : Nat.ofDigitChars 10 (Nat.toDigits 10 d.mantissa) 0 = d.mantissa :=
    Nat.ofDigitChars_ten_toDigits
  have hpoint : d.point = (Nat.toDigits 10 d.mantissa).length + d.exponent := rfl
  unfold Decimal.significand readUnsigned
  cases hdigits : Nat.toDigits 10 d.mantissa with
  | nil => exact absurd hdigits Nat.toDigits_ne_nil
  | cons c cs =>
    rw [hdigits] at hall hvalue hpoint
    have hone : ∀ x ∈ [c], x.isDigit := fun x hx => hall x (by
      rw [List.mem_singleton.mp hx]
      exact List.mem_cons_self)
    have hlead : ¬ ([c] = [] ∨ 1 < [c].length ∧ [c].head? = some '0') := by simp
    cases cs with
    | nil =>
      have hspan : spanDigits ([c] ++ 'e' :: (d.power ++ t)) = ([c], 'e' :: (d.power ++ t)) :=
        spanDigits_of_head hone fun x hx => by cases hx; rfl
      have htext : [c].take 1 ++ (if [c].drop 1 = [] then [] else '.' :: [c].drop 1)
          ++ 'e' :: d.power ++ t = [c] ++ 'e' :: (d.power ++ t) := by simp
      have hfraction : readFraction ('e' :: (d.power ++ t)) = some ([], 'e' :: (d.power ++ t)) := rfl
      dsimp only
      rw [htext, hspan]
      dsimp only
      rw [if_neg hlead, hfraction]
      dsimp only
      rw [readExponent_power d ht]
      dsimp only
      rw [if_neg (by simp), List.append_nil, hvalue]
      have hexponent : d.point - 1 - (([] : List Char).length : Int) = d.exponent := by
        rw [List.length_singleton] at hpoint
        rw [List.length_nil]
        omega
      rw [Option.getD_some, hexponent]
    | cons c' cs =>
      have hrest : ∀ x ∈ c' :: cs, x.isDigit := fun x hx => hall x (List.mem_cons_of_mem _ hx)
      have hspan : spanDigits ([c] ++ '.' :: ((c' :: cs) ++ 'e' :: (d.power ++ t)))
          = ([c], '.' :: ((c' :: cs) ++ 'e' :: (d.power ++ t))) :=
        spanDigits_of_head hone fun x hx => by cases hx; rfl
      have hspan' : spanDigits ((c' :: cs) ++ 'e' :: (d.power ++ t))
          = (c' :: cs, 'e' :: (d.power ++ t)) :=
        spanDigits_of_head hrest fun x hx => by cases hx; rfl
      have htext : (c :: c' :: cs).take 1
          ++ (if (c :: c' :: cs).drop 1 = [] then [] else '.' :: (c :: c' :: cs).drop 1)
          ++ 'e' :: d.power ++ t = [c] ++ '.' :: ((c' :: cs) ++ 'e' :: (d.power ++ t)) := by simp
      dsimp only
      rw [htext, hspan]
      dsimp only
      rw [if_neg hlead]
      simp only [readFraction]
      rw [hspan', if_neg (by simp)]
      dsimp only
      rw [readExponent_power d ht]
      dsimp only
      rw [if_neg (by simp), List.singleton_append, hvalue]
      have hexponent : d.point - 1 - ((c' :: cs).length : Int) = d.exponent := by
        rw [List.length_cons] at hpoint
        omega
      rw [Option.getD_some, hexponent]

theorem readNumber_text (a : Numeral) {t : List Char} (ht : Closes t) :
    readNumber nearest (a.text ++ t) = some (a.reread nearest, t) := by
  have hminus : ∀ {cs : List Char}, (∃ c r, cs = c :: r ∧ c.isDigit) →
      (cs ++ t).head? ≠ some '-' := by
    rintro cs ⟨c, r, rfl, hc⟩ heq
    rw [List.cons_append, List.head?_cons, Option.some.injEq] at heq
    rw [heq] at hc
    exact absurd hc (by decide)
  have hwhole : ∀ n : Nat, ∃ c r, Nat.toDigits 10 n = c :: r ∧ c.isDigit := by
    intro n
    cases hn : Nat.toDigits 10 n with
    | nil => exact absurd hn Nat.toDigits_ne_nil
    | cons c r => exact ⟨c, r, rfl, isDigit_of_mem_digits (hn ▸ List.mem_cons_self)⟩
  cases a with
  | int n =>
    show readNumber nearest (intText n ++ t) = some (wholeNumber nearest (n < 0) n.natAbs, t)
    unfold intText
    by_cases hneg : n < 0
    · rw [if_pos hneg, decide_eq_true hneg, List.cons_append, readNumber, List.head?_cons,
        if_pos rfl, List.tail_cons, readUnsigned_toDigits true _ ht]
    · rw [if_neg hneg, decide_eq_false hneg, readNumber, if_neg (hminus (hwhole _)),
        readUnsigned_toDigits false _ ht]
  | decimal d =>
    have hunsigned : ∀ negative, readUnsigned nearest negative (d.unsigned ++ t)
        = some (nearest negative d.mantissa d.exponent, t) := by
      intro negative
      unfold Decimal.unsigned
      by_cases hfixed : d.Fixed
      · rw [if_pos hfixed]
        exact readUnsigned_fixed hfixed.1 ht negative
      · rw [if_neg hfixed]
        exact readUnsigned_power d ht negative
    show readNumber nearest (d.text ++ t) = some (nearest d.negative d.mantissa d.exponent, t)
    unfold Decimal.text
    cases hneg : d.negative with
    | true =>
      rw [if_pos rfl, List.cons_append, readNumber, List.head?_cons, if_pos rfl, List.tail_cons,
        hunsigned]
    | false =>
      rw [if_neg (by decide), readNumber, if_neg (hminus head_unsigned), hunsigned]

theorem head_number {a : Numeral} {c : Char} {cs : List Char} (h : a.text = c :: cs) :
    c.isDigit ∨ c = '-' := by
  have hwhole : ∀ {n : Nat}, Nat.toDigits 10 n = c :: cs → c.isDigit := fun hn =>
    isDigit_of_mem_digits (hn ▸ List.mem_cons_self)
  have hunsigned : ∀ {d : Decimal}, d.unsigned = c :: cs → c.isDigit := by
    intro d hd
    obtain ⟨c', r, heq, hc⟩ := head_unsigned (d := d)
    rw [heq] at hd
    rwa [← (List.cons.inj hd).1]
  cases a with
  | int n =>
    have hn : intText n = c :: cs := h
    unfold intText at hn
    split at hn
    · exact .inr (List.cons.inj hn).1.symm
    · exact .inl (hwhole hn)
  | decimal d =>
    have hd : d.text = c :: cs := h
    unfold Decimal.text at hd
    split at hd
    · exact .inr (List.cons.inj hd).1.symm
    · exact .inl (hunsigned hd)

theorem reads_num (a : Numeral) :
    Reads nearest (.number (a.reread nearest)) (Canonical.text (.num a)) := by
  intro n t hn ht
  obtain ⟨m, rfl⟩ : ∃ m, n = m + 1 := ⟨n - 1, by have := length_text_pos (.num a); omega⟩
  have hread : readNumber nearest (a.text ++ t) = some (a.reread nearest, t) := readNumber_text a ht
  show readValue nearest (m + 1) (a.text ++ t) = some (.number (a.reread nearest), t)
  cases htext : a.text with
  | nil => exact absurd htext (Numeral.text_ne_nil a)
  | cons c cs =>
    have hc : c.isDigit ∨ c = '-' := head_number htext
    rw [htext] at hread
    rw [List.cons_append] at hread ⊢
    rw [readValue_number hc, hread]
    rfl

/-! ## 2. Values -/

/-- A walked value as it is read from its text. -/
def Canonical.reparsed (nearest : Rounding) : Canonical → Value
  | .null => .null
  | .bool b => .bool b
  | .num a => .number (a.reread nearest)
  | .str s => .str s
  | .arr items => .arr (reparsedItems items)
  | .obj fields => .obj ((reparsedFields fields).foldl setField [])
where
  reparsedItems : List Canonical → List Value
    | [] => []
    | c :: cs => c.reparsed nearest :: reparsedItems cs
  reparsedFields : List (String × Canonical) → List (String × Value)
    | [] => []
    | (k, c) :: fs => (k, c.reparsed nearest) :: reparsedFields fs

theorem reparsedItems_eq (cs : List Canonical) :
    Canonical.reparsed.reparsedItems nearest cs = cs.map (Canonical.reparsed nearest) :=
  eq_map rfl (fun _ _ => by rw [Canonical.reparsed.reparsedItems]) cs

theorem reparsedFields_eq (fs : List (String × Canonical)) :
    Canonical.reparsed.reparsedFields nearest fs = fs.map fun f => (f.1, f.2.reparsed nearest) :=
  eq_map rfl (fun _ _ => by rw [Canonical.reparsed.reparsedFields]) fs

theorem reads_bool (b : Bool) : Reads nearest (.bool b) (Canonical.text (.bool b)) := by
  intro n t hn _
  obtain ⟨m, rfl⟩ : ∃ m, n = m + 1 := ⟨n - 1, by have := length_text_pos (.bool b); omega⟩
  cases b with
  | false => rfl
  | true => rfl

/-- **Whatever is written is read.** -/
theorem reads_reparsed (c : Canonical) : Reads nearest (c.reparsed nearest) c.text := by
  match c with
  | .null => exact reads_null
  | .bool b => exact reads_bool b
  | .num a => exact reads_num a
  | .str s => exact reads_str s
  | .arr items =>
    have hitems : ∀ f ∈ items.map fun c => (c.reparsed nearest, c), Reads nearest f.1 f.2.text := by
      intro f hf
      obtain ⟨c, hc, rfl⟩ := List.mem_map.mp hf
      exact reads_reparsed c
    have hfst : (items.map fun c => (c.reparsed nearest, c)).map Prod.fst
        = items.map (Canonical.reparsed nearest) := by
      rw [List.map_map]
      rfl
    have hsnd : (items.map fun c => (c.reparsed nearest, c)).map Prod.snd = items := by
      rw [List.map_map]
      exact List.map_id items
    have hread := reads_arr hitems
    rw [hfst, hsnd] at hread
    rwa [Canonical.reparsed, reparsedItems_eq]
  | .obj fields =>
    have hfields : ∀ f ∈ fields.map fun f => (f.1, f.2.reparsed nearest, f.2),
        Reads nearest f.2.1 f.2.2.text := by
      intro f hf
      obtain ⟨g, hg, rfl⟩ := List.mem_map.mp hf
      exact reads_reparsed g.2
    have hvalues : (fields.map fun f => (f.1, f.2.reparsed nearest, f.2)).map (fun f => (f.1, f.2.1))
        = fields.map fun f => (f.1, f.2.reparsed nearest) := by
      rw [List.map_map]
      rfl
    have hforms : (fields.map fun f => (f.1, f.2.reparsed nearest, f.2)).map (fun f => (f.1, f.2.2))
        = fields := by
      rw [List.map_map]
      exact List.map_id fields
    have hread := reads_fields hfields
    rw [hvalues, hforms] at hread
    rwa [Canonical.reparsed, reparsedFields_eq]
termination_by sizeOf c
decreasing_by
  · have := List.sizeOf_lt_of_mem hc
    simp only [Canonical.arr.sizeOf_spec]
    omega
  · have := List.sizeOf_lt_of_mem hg
    obtain ⟨k, v⟩ := g
    simp only [Canonical.obj.sizeOf_spec, Prod.mk.sizeOf_spec] at *
    omega

/-! ## 3. `JSON.stringify` -/

/-- What `JSON.stringify` writes of a value: fields without data are left out, and such items are
    `null`. A `bigint` throws, and counts as no data here. -/
def jsonForm : Value → Option Canonical
  | .undefined => none
  | .null => some .null
  | .bool b => some (.bool b)
  | .number a => some a.canonical
  | .bigint _ => none
  | .str s => some (.str s)
  | .arr items => some (.arr (formItems items))
  | .obj fields => some (.obj (formFields fields))
  | .other _ => none
where
  formItems : List Value → List Canonical
    | [] => []
    | v :: vs => (jsonForm v).getD .null :: formItems vs
  formFields : List (String × Value) → List (String × Canonical)
    | [] => []
    | (k, v) :: fs => (jsonForm v).toList.map (k, ·) ++ formFields fs

/-- `JSON.stringify(v)`, if it is a text. -/
def stringifyData (v : Value) : Option String := (jsonForm v).map fun c => String.ofList c.text

/-- `JSON.parse(JSON.stringify(v))`. -/
def throughJson (nearest : Rounding) (v : Value) : Option Value :=
  (jsonForm v).map (Canonical.reparsed nearest)

theorem jsonParse_text (c : Canonical) :
    jsonParse nearest (String.ofList c.text) = some (c.reparsed nearest) :=
  (reads_reparsed c).jsonParse

/-! ## 4. Plain data comes back -/

/-- Texts, truth values, `null` and safe integers, in lists and in objects. -/
inductive Plain : Value → Prop
  | null : Plain .null
  | bool (b : Bool) : Plain (.bool b)
  | int {n : Int} (h : n.natAbs ≤ 2 ^ 53) : Plain (.int n)
  | str (s : String) : Plain (.str s)
  | arr {items : List Value} (h : ∀ v ∈ items, Plain v) : Plain (.arr items)
  | obj {fields : List (String × Value)} (h : ∀ f ∈ fields, Plain f.2)
      (distinct : (fields.map Prod.fst).Nodup) : Plain (.obj fields)

theorem formItems_eq (vs : List Value) :
    jsonForm.formItems vs = vs.map fun v => (jsonForm v).getD .null :=
  eq_map rfl (fun _ _ => by rw [jsonForm.formItems]) vs

theorem formFields_eq (fs : List (String × Value)) :
    jsonForm.formFields fs = fs.flatMap fun f => (jsonForm f.2).toList.map (f.1, ·) := by
  induction fs with
  | nil => rfl
  | cons f fs ih => rw [jsonForm.formFields, ih, List.flatMap_cons]

/-- **Plain data comes back** as it was. -/
theorem throughJson_plain {v : Value} (h : Plain v) :
    throughJson nearest v = some v := by
  unfold throughJson
  induction h with
  | null => rfl
  | bool b => rfl
  | int h =>
    rename_i n
    show some (Value.number (wholeNumber nearest (n < 0) n.natAbs)) = some (.int n)
    unfold wholeNumber
    by_cases hzero : n.natAbs = 0
    · obtain rfl : n = 0 := by omega
      rfl
    · rw [if_neg hzero, if_pos h]
      have hvalue : (if decide (n < 0) = true then -(n.natAbs : Int) else n.natAbs) = n := by
        by_cases hneg : n < 0
        · rw [if_pos (decide_eq_true hneg)]
          omega
        · rw [if_neg (by simpa using hneg)]
          omega
      rw [hvalue]
      rfl
  | str s => rfl
  | arr h ih =>
    rename_i items
    rw [jsonForm, formItems_eq, Option.map_some, Canonical.reparsed, reparsedItems_eq, List.map_map]
    have hitems : items.map (Canonical.reparsed nearest ∘ fun v => (jsonForm v).getD .null)
        = items := by
      conv_rhs => rw [← List.map_id items]
      refine List.map_congr_left fun v hv => ?_
      obtain ⟨c, hc, hback⟩ := Option.map_eq_some_iff.mp (ih v hv)
      rw [Function.comp, hc, Option.getD_some, hback]
      rfl
    rw [hitems]
  | obj h distinct ih =>
    rename_i fields
    rw [jsonForm, formFields_eq, Option.map_some, Canonical.reparsed, reparsedFields_eq,
      List.map_flatMap]
    have hfields : (fields.flatMap fun f => ((jsonForm f.2).toList.map (f.1, ·)).map
        fun g => (g.1, g.2.reparsed nearest)) = fields := by
      have hone : ∀ f ∈ fields, (((jsonForm f.2).toList.map (f.1, ·)).map
          fun g => (g.1, g.2.reparsed nearest)) = [f] := by
        intro f hf
        obtain ⟨c, hc, hback⟩ := Option.map_eq_some_iff.mp (ih f hf)
        rw [hc]
        show [(f.1, c.reparsed nearest)] = [f]
        rw [hback]
      rw [List.flatMap_congr hone]
      exact List.flatMap_singleton' fields
    rw [hfields, foldl_setField (by rwa [List.nil_append]), List.nil_append]

/-! ## 5. Values that can be written -/

def Written (nearest : Rounding) (v : Value) : Prop := ∃ c : Canonical, c.reparsed nearest = v

theorem written_plain {v : Value} (h : Plain v) : Written nearest v := by
  obtain ⟨c, _, hc⟩ := Option.map_eq_some_iff.mp (@throughJson_plain nearest v h)
  exact ⟨c, hc⟩

theorem written_arr {items : List Value} (h : ∀ v ∈ items, Written nearest v) :
    Written nearest (.arr items) := by
  have hforms : ∃ cs : List Canonical, cs.map (Canonical.reparsed nearest) = items := by
    induction items with
    | nil => exact ⟨[], rfl⟩
    | cons v vs ih =>
      obtain ⟨⟨c, hc⟩, hvs⟩ := List.forall_mem_cons.mp h
      obtain ⟨cs, hcs⟩ := ih hvs
      exact ⟨c :: cs, by rw [List.map_cons, hc, hcs]⟩
  obtain ⟨cs, rfl⟩ := hforms
  exact ⟨.arr cs, by rw [Canonical.reparsed, reparsedItems_eq]⟩

theorem written_obj {fields : List (String × Value)} (h : ∀ f ∈ fields, Written nearest f.2)
    (distinct : (fields.map Prod.fst).Nodup) : Written nearest (.obj fields) := by
  have hforms : ∃ cs : List (String × Canonical),
      (cs.map fun f => (f.1, f.2.reparsed nearest)) = fields := by
    clear distinct
    induction fields with
    | nil => exact ⟨[], rfl⟩
    | cons f fs ih =>
      obtain ⟨⟨c, hc⟩, hfs⟩ := List.forall_mem_cons.mp h
      obtain ⟨cs, hcs⟩ := ih hfs
      exact ⟨(f.1, c) :: cs, by rw [List.map_cons, hc, hcs]⟩
  obtain ⟨cs, rfl⟩ := hforms
  refine ⟨.obj cs, ?_⟩
  rw [Canonical.reparsed, reparsedFields_eq, foldl_setField (by rwa [List.nil_append]),
    List.nil_append]

end ContextLock.Js
