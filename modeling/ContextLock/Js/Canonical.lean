/-
  Subject:   Canonical serialization of any value of the language, and its unique reading.

  `canonicalize` of the sources walks a value (keys sorted, `undefined` as `null`) and writes
  the walked value with `JSON.stringify`. Texts are sequences of characters; a walked object
  lists its fields as the language does, array indices first.
-/
import ContextLock.Js.Numeral
import ContextLock.Js.Stringify
import ContextLock.Js.TextOrder

namespace ContextLock.Js

/-! ## 1. Values -/

/-- A `number`. -/
inductive Double where
  | finite (a : Numeral)
  | negativeZero
  | nan
  | infinite (negative : Bool)

namespace Double

/-- The integer a number is; `0` where it is none. -/
def toInt : Double → Int
  | finite (.int n) => n
  | _ => 0

/-- The number, without what stands after the point. -/
def trunc : Double → Int
  | finite (.int n) => n
  | finite (.decimal d) =>
    let size := if d.exponent < 0 then d.mantissa / 10 ^ d.exponent.natAbs
      else d.mantissa * 10 ^ d.exponent.natAbs
    if d.negative then -size else size
  | _ => 0

/-- `n === d`. -/
def isInt (d : Double) (n : Int) : Bool :=
  match d with
  | finite (.int m) => m = n
  | negativeZero => n = 0
  | _ => false

/-- The comparison of `n` with a decimal: `n * 10 ^ k` with its mantissa, for the `k` digits
    after the point. -/
def compareDecimal (n : Int) (d : Decimal) : Ordering :=
  let mantissa : Int := if d.negative then -d.mantissa else d.mantissa
  if d.exponent < 0 then compare (n * 10 ^ d.exponent.natAbs) mantissa
  else compare n (mantissa * 10 ^ d.exponent.natAbs)

/-- `n >= d`. -/
def leInt (d : Double) (n : Int) : Bool :=
  match d with
  | finite (.int m) => m ≤ n
  | finite (.decimal d) => (compareDecimal n d).isGE
  | negativeZero => 0 ≤ n
  | nan => false
  | infinite negative => negative

/-- `n <= d`. -/
def geInt (d : Double) (n : Int) : Bool :=
  match d with
  | finite (.int m) => n ≤ m
  | finite (.decimal d) => (compareDecimal n d).isLE
  | negativeZero => n ≤ 0
  | nan => false
  | infinite negative => !negative

end Double

/-- A value of the language, without cycles. An object has its own enumerable fields; `other`
    is a function or a symbol, known by its `typeof`. -/
inductive Value where
  | undefined
  | null
  | bool (b : Bool)
  | number (a : Double)
  | bigint (n : Int)
  | str (s : String)
  | arr (items : List Value)
  | obj (fields : List (String × Value))
  | other (typeName : String)

/-- The integer `n`, as a `number`. -/
def Value.int (n : Int) : Value := .number (.finite (.int n))

/-- What `JSON.stringify` makes of a walked value. -/
inductive Canonical where
  | null
  | bool (b : Bool)
  | num (a : Numeral)
  | str (s : String)
  | arr (items : List Canonical)
  | obj (fields : List (String × Canonical))

/-! ## 2. `walk` -/

/-- The errors of a copy of `canonicalize`. -/
structure WalkErrors where
  bigint : String
  unserializable : String → String

/-- `JSON.stringify` knows the finite numbers, and no sign of zero. -/
def Double.canonical : Double → Canonical
  | finite a => .num a
  | negativeZero => .num (.int 0)
  | nan => .null
  | infinite _ => .null

/-- The first error, or all the values. -/
def collect {α : Type} : List (String × Except String α) → Except String (List (String × α))
  | [] => .ok []
  | (k, r) :: rs =>
    match r, collect rs with
    | .error e, _ => .error e
    | .ok _, .error e => .error e
    | .ok a, .ok as => .ok ((k, a) :: as)

/-- `Object.keys(o).sort()`. -/
def sortedKeys {α : Type} (fields : List (String × α)) : List (String × α) :=
  fields.insertionSort fun f g => textLe f.1 g.1

/-- `out[k] = …` for the sorted keys: `__proto__` names no field of `out`, and the fields stand
    in the order of the language. -/
def assigned {α : Type} (fields : List (String × α)) : List (String × α) :=
  (fields.filter fun f => f.1 ≠ "__proto__").insertionSort fun f g => propertyLe f.1 g.1

/-- `walk` inside `canonicalize`. -/
def walk (errors : WalkErrors) : Value → Except String Canonical
  | .undefined => .ok .null
  | .null => .ok .null
  | .bool b => .ok (.bool b)
  | .number a => .ok a.canonical
  | .bigint _ => .error errors.bigint
  | .str s => .ok (.str s)
  | .arr items => (walkItems items).map .arr
  | .obj fields => (collect (sortedKeys (walkFields fields))).map fun fs => .obj (assigned fs)
  | .other typeName => .error (errors.unserializable typeName)
where
  walkItems : List Value → Except String (List Canonical)
    | [] => .ok []
    | v :: vs =>
      match walk errors v, walkItems vs with
      | .error e, _ => .error e
      | .ok _, .error e => .error e
      | .ok c, .ok cs => .ok (c :: cs)
  walkFields : List (String × Value) → List (String × Except String Canonical)
    | [] => []
    | (k, v) :: fs => (k, walk errors v) :: walkFields fs

/-! ## 3. Texts -/

/-- `JSON.stringify` of a text. -/
def quote (s : String) : List Char := '"' :: (s.toList.flatMap fun c => (jsonChar c).toList) ++ ['"']

/-- `JSON.stringify` of a walked value. -/
def Canonical.text : Canonical → List Char
  | .null => "null".toList
  | .bool b => (boolText b).toList
  | .num a => a.text
  | .str s => quote s
  | .arr items => '[' :: itemsText [] items
  | .obj fields => '\x7b' :: fieldsText [] fields
where
  itemsText (lead : List Char) : List Canonical → List Char
    | [] => [']']
    | c :: cs => lead ++ (c.text ++ itemsText [','] cs)
  fieldsText (lead : List Char) : List (String × Canonical) → List Char
    | [] => ['\x7d']
    | (k, c) :: fs => lead ++ (quote k ++ ':' :: (c.text ++ fieldsText [','] fs))

/-- `canonicalize(value)`. -/
def canonicalText (errors : WalkErrors) (value : Value) : Except String String :=
  (walk errors value).map fun c => String.ofList c.text

/-! ## 4. Reading a quoted text -/

/-- The four digits after `\u`. -/
def readUnit : List Char → Option (Nat × List Char)
  | a :: b :: c :: d :: t => (digitsValue [a, b, c, d]).map (·, t)
  | _ => none

/-- The character of one `\u` escape, or of two that are a surrogate pair. -/
def readUnicode (cs : List Char) : Option (Char × List Char) :=
  match readUnit cs with
  | none => none
  | some (u, t) =>
    if u < 0xd800 ∨ 0xe000 ≤ u then some (Char.ofNat u, t)
    else
      match t with
      | '\\' :: 'u' :: t =>
        match readUnit t with
        | some (v, t) =>
          if u < 0xdc00 ∧ 0xdc00 ≤ v ∧ v < 0xe000 then
            some (Char.ofNat (0x10000 + (u - 0xd800) * 0x400 + (v - 0xdc00)), t)
          else none
        | none => none
      | _ => none

/-- What stands after a backslash. -/
def readEscaped : List Char → Option (Char × List Char)
  | [] => none
  | c :: t =>
    if c = '"' ∨ c = '\\' ∨ c = '/' then some (c, t)
    else if c = 'n' then some ('\n', t)
    else if c = 'r' then some ('\r', t)
    else if c = 't' then some ('\t', t)
    else if c = 'b' then some ('\x08', t)
    else if c = 'f' then some ('\x0c', t)
    else if c = 'u' then readUnicode t
    else none

def readQuoted : List Char → Option (Char × List Char)
  | [] => none
  | c :: t =>
    if c.toNat < 0x20 then none else if c = '\\' then readEscaped t else some (c, t)

theorem readUnicode_control {n : Nat} (hn : n < 0x20) (t : List Char) :
    readQuoted (("\\u" ++ String.ofList (hexDigits 4 n)).toList ++ t) = some (Char.ofNat n, t) := by
  interval_cases n <;> rfl

theorem readQuoted_jsonChar (c : Char) (t : List Char) :
    readQuoted ((jsonChar c).toList ++ t) = some (c, t) := by
  unfold jsonChar
  split_ifs with h1 h2 h3 h4 h5 h6 h7 h8
  · rw [h1]; rfl
  · rw [h2]; rfl
  · rw [h3]; rfl
  · rw [h4]; rfl
  · rw [h5]; rfl
  · rw [h6]; rfl
  · rw [h7]; rfl
  · rw [readUnicode_control h8, Char.ofNat_toNat]
  · rw [String.toList_singleton, List.singleton_append, readQuoted, if_neg h8, if_neg h2]

theorem jsonChar_append_ne_quote (c : Char) (t u : List Char) :
    (jsonChar c).toList ++ t ≠ '"' :: u := by
  intro h
  have hread := readQuoted_jsonChar c t
  rw [h, readQuoted, if_neg (by decide), if_neg (by decide)] at hread
  obtain rfl : '"' = c := congrArg Prod.fst (Option.some.inj hread)
  exact absurd (List.cons.inj h).1 (by decide)

/-- **A quoted text is read in one way.** -/
theorem quote_append_inj {s s' : String} {t u : List Char} (h : quote s ++ t = quote s' ++ u) :
    s = s' ∧ t = u := by
  have hchars : ∀ cs ds : List Char,
      (cs.flatMap fun c => (jsonChar c).toList) ++ '"' :: t
        = (ds.flatMap fun c => (jsonChar c).toList) ++ '"' :: u → cs = ds ∧ t = u := by
    intro cs
    induction cs with
    | nil =>
      intro ds heq
      cases ds with
      | nil => exact ⟨rfl, (List.cons.inj heq).2⟩
      | cons d ds =>
        rw [List.flatMap_cons, List.append_assoc] at heq
        exact absurd heq.symm (jsonChar_append_ne_quote d _ _)
    | cons c cs ih =>
      intro ds heq
      rw [List.flatMap_cons, List.append_assoc] at heq
      cases ds with
      | nil => exact absurd heq (jsonChar_append_ne_quote c _ _)
      | cons d ds =>
        rw [List.flatMap_cons, List.append_assoc] at heq
        have hread := congrArg readQuoted heq
        rw [readQuoted_jsonChar, readQuoted_jsonChar, Option.some.injEq, Prod.mk.injEq] at hread
        obtain ⟨rfl, hrest⟩ := hread
        obtain ⟨rfl, htail⟩ := ih ds hrest
        exact ⟨rfl, htail⟩
  unfold quote at h
  rw [List.cons_append, List.append_assoc, List.cons_append, List.append_assoc] at h
  obtain ⟨htext, htail⟩ := hchars _ _ (List.cons.inj h).2
  exact ⟨String.toList_inj.mp htext, htail⟩

/-! ## 5. Reading a walked value -/

namespace Canonical

def kind : Canonical → Nat
  | null => 0
  | bool _ => 1
  | num _ => 2
  | str _ => 3
  | arr _ => 4
  | obj _ => 5

def kindOf (c : Char) : Nat :=
  if c = 'n' then 0 else if c = 't' ∨ c = 'f' then 1 else if c = '"' then 3
  else if c = '[' then 4 else if c = '\x7b' then 5 else if numberChar c then 2 else 6

theorem kindOf_of_numberChar {c : Char} (h : numberChar c = true) : kindOf c = 2 := by
  unfold kindOf
  split_ifs with h0 h1 h3 h4 h5
  · rw [h0] at h; exact absurd h (by decide)
  · rcases h1 with h1 | h1
    · rw [h1] at h; exact absurd h (by decide)
    · rw [h1] at h; exact absurd h (by decide)
  · rw [h3] at h; exact absurd h (by decide)
  · rw [h4] at h; exact absurd h (by decide)
  · rw [h5] at h; exact absurd h (by decide)
  · rfl

theorem head_text (v : Canonical) : ∃ c cs, v.text = c :: cs ∧ kindOf c = v.kind := by
  cases v with
  | null => exact ⟨'n', _, rfl, rfl⟩
  | bool b =>
    cases b with
    | false => exact ⟨'f', _, rfl, rfl⟩
    | true => exact ⟨'t', _, rfl, rfl⟩
  | num a =>
    cases ha : a.text with
    | nil => exact absurd ha a.text_ne_nil
    | cons c cs => exact ⟨c, cs, ha, kindOf_of_numberChar (numberChar_text (ha ▸ List.mem_cons_self))⟩
  | str s => exact ⟨'"', _, rfl, rfl⟩
  | arr items => exact ⟨'[', _, rfl, rfl⟩
  | obj fields => exact ⟨'\x7b', _, rfl, rfl⟩

theorem same_constructor {v w : Canonical} (h : v.kind = w.kind) :
    match v with
    | null => w = null
    | bool _ => ∃ b, w = bool b
    | num _ => ∃ a, w = num a
    | str _ => ∃ s, w = str s
    | arr _ => ∃ items, w = arr items
    | obj _ => ∃ fields, w = obj fields := by
  cases v <;> cases w <;> first | exact ⟨_, rfl⟩ | rfl | exact absurd h (Nat.ne_of_beq_eq_false rfl)

theorem kind_eq_of_text {v w : Canonical} {t u : List Char} (h : v.text ++ t = w.text ++ u) :
    v.kind = w.kind := by
  obtain ⟨c, cs, hv, hc⟩ := head_text v
  obtain ⟨d, ds, hw, hd⟩ := head_text w
  rw [hv, hw] at h
  rw [← hc, ← hd, (List.cons.inj h).1]

theorem ends_itemsText (cs : List Canonical) (t : List Char) : Ends (text.itemsText [','] cs ++ t) := by
  cases cs with
  | nil | cons v cs => exact fun c hc => by cases hc; decide

theorem ends_fieldsText (fs : List (String × Canonical)) (t : List Char) :
    Ends (text.fieldsText [','] fs ++ t) := by
  cases fs with
  | nil | cons f fs => exact fun c hc => by cases hc; decide

theorem close_ne_text (v : Canonical) (t u : List Char) : ']' :: t ≠ v.text ++ u := by
  obtain ⟨c, cs, hv, hc⟩ := head_text v
  rw [hv]
  intro h
  obtain rfl : ']' = c := (List.cons.inj h).1
  cases v <;> exact absurd hc (Nat.ne_of_beq_eq_false rfl)

mutual

/-- **A walked value is read in one way**, where what follows starts with nothing that stands in
    a number. -/
theorem text_append_inj : ∀ (v w : Canonical) {t u : List Char}, Ends t → Ends u →
    v.text ++ t = w.text ++ u → v = w ∧ t = u
  | .null, w, t, u, _, _, h => by
    obtain rfl : w = null := same_constructor (kind_eq_of_text h)
    exact ⟨rfl, List.append_cancel_left h⟩
  | .bool b, w, t, u, _, _, h => by
    obtain ⟨b', rfl⟩ : ∃ b', w = bool b' := same_constructor (kind_eq_of_text h)
    cases b with
    | false =>
      cases b' with
      | false => exact ⟨rfl, List.append_cancel_left h⟩
      | true => exact absurd (List.cons.inj h).1 (by decide)
    | true =>
      cases b' with
      | false => exact absurd (List.cons.inj h).1 (by decide)
      | true => exact ⟨rfl, List.append_cancel_left h⟩
  | .num a, w, t, u, ht, hu, h => by
    obtain ⟨b, rfl⟩ : ∃ b, w = num b := same_constructor (kind_eq_of_text h)
    obtain ⟨rfl, hrest⟩ := Numeral.text_append_inj ht hu h
    exact ⟨rfl, hrest⟩
  | .str s, w, t, u, _, _, h => by
    obtain ⟨s', rfl⟩ : ∃ s', w = str s' := same_constructor (kind_eq_of_text h)
    obtain ⟨rfl, hrest⟩ := quote_append_inj h
    exact ⟨rfl, hrest⟩
  | .arr items, w, t, u, _, _, h => by
    obtain ⟨items', rfl⟩ : ∃ items', w = arr items' := same_constructor (kind_eq_of_text h)
    obtain ⟨rfl, hrest⟩ := items_append_inj items items' (Or.inl rfl) (List.cons.inj h).2
    exact ⟨rfl, hrest⟩
  | .obj fields, w, t, u, _, _, h => by
    obtain ⟨fields', rfl⟩ : ∃ fields', w = obj fields' := same_constructor (kind_eq_of_text h)
    obtain ⟨rfl, hrest⟩ := fields_append_inj fields fields' (Or.inl rfl) (List.cons.inj h).2
    exact ⟨rfl, hrest⟩

/-- The items of a list, each after `lead` or a comma. -/
theorem items_append_inj : ∀ (vs ws : List Canonical) {lead t u : List Char},
    lead = [] ∨ lead = [','] →
    text.itemsText lead vs ++ t = text.itemsText lead ws ++ u → vs = ws ∧ t = u
  | [], [], lead, t, u, _, h => ⟨rfl, (List.cons.inj h).2⟩
  | [], w :: ws, lead, t, u, hlead, h => by
    simp only [text.itemsText, List.append_assoc] at h
    rcases hlead with rfl | rfl
    · exact absurd h (close_ne_text w _ _)
    · exact absurd (List.cons.inj h).1 (by decide)
  | v :: vs, [], lead, t, u, hlead, h => by
    simp only [text.itemsText, List.append_assoc] at h
    rcases hlead with rfl | rfl
    · exact absurd h.symm (close_ne_text v _ _)
    · exact absurd (List.cons.inj h).1 (by decide)
  | v :: vs, w :: ws, lead, t, u, hlead, h => by
    simp only [text.itemsText, List.append_assoc] at h
    obtain ⟨rfl, hrest⟩ :=
      text_append_inj v w (ends_itemsText vs t) (ends_itemsText ws u) (List.append_cancel_left h)
    obtain ⟨rfl, htail⟩ := items_append_inj vs ws (Or.inr rfl) hrest
    exact ⟨rfl, htail⟩

/-- The fields of an object, each after `lead` or a comma. -/
theorem fields_append_inj : ∀ (fs gs : List (String × Canonical)) {lead t u : List Char},
    lead = [] ∨ lead = [','] →
    text.fieldsText lead fs ++ t = text.fieldsText lead gs ++ u → fs = gs ∧ t = u
  | [], [], lead, t, u, _, h => ⟨rfl, (List.cons.inj h).2⟩
  | [], (k, w) :: gs, lead, t, u, hlead, h => by
    simp only [text.fieldsText, List.append_assoc] at h
    rcases hlead with rfl | rfl
    · exact absurd (List.cons.inj h).1 (by decide)
    · exact absurd (List.cons.inj h).1 (by decide)
  | (k, v) :: fs, [], lead, t, u, hlead, h => by
    simp only [text.fieldsText, List.append_assoc] at h
    rcases hlead with rfl | rfl
    · exact absurd (List.cons.inj h).1 (by decide)
    · exact absurd (List.cons.inj h).1 (by decide)
  | (k, v) :: fs, (k', w) :: gs, lead, t, u, hlead, h => by
    simp only [text.fieldsText, List.append_assoc, List.cons_append] at h
    obtain ⟨rfl, hvalue⟩ := quote_append_inj (List.append_cancel_left h)
    obtain ⟨rfl, hrest⟩ := text_append_inj v w (ends_fieldsText fs t) (ends_fieldsText gs u)
      (List.cons.inj hvalue).2
    obtain ⟨rfl, htail⟩ := fields_append_inj fs gs (Or.inr rfl) hrest
    exact ⟨rfl, htail⟩

end

/-- **A walked value is known by its text.** -/
theorem text_inj {v w : Canonical} (h : v.text = w.text) : v = w := by
  have hends : Ends [] := fun c hc => by cases hc
  exact (text_append_inj v w hends hends (by rw [h])).1

end Canonical

/-! ## 6. Values of one walked form -/

/-- The values have one walked form. -/
def Alike (errors : WalkErrors) (v w : Value) : Prop :=
  ∃ c, walk errors v = .ok c ∧ walk errors w = .ok c

variable {errors : WalkErrors}

theorem Alike.symm {v w : Value} : Alike errors v w → Alike errors w v :=
  fun ⟨c, hv, hw⟩ => ⟨c, hw, hv⟩

/-- **Values of one canonical text are alike.** -/
theorem alike_of_text {v w : Value} {s : String} (hv : canonicalText errors v = .ok s)
    (hw : canonicalText errors w = .ok s) : Alike errors v w := by
  unfold canonicalText at hv hw
  cases hv' : walk errors v with
  | error e => rw [hv'] at hv; cases hv
  | ok c =>
    cases hw' : walk errors w with
    | error e => rw [hw'] at hw; cases hw
    | ok d =>
      rw [hv'] at hv
      rw [hw'] at hw
      have htext : String.ofList c.text = String.ofList d.text :=
        (Except.ok.inj hv).trans (Except.ok.inj hw).symm
      refine ⟨c, hv', ?_⟩
      rw [hw', Canonical.text_inj (String.ofList_inj.mp htext)]

@[simp] theorem walk_null : walk errors .null = .ok .null := rfl

@[simp] theorem walk_undefined : walk errors .undefined = .ok .null := rfl

@[simp] theorem walk_bool (b : Bool) : walk errors (.bool b) = .ok (.bool b) := rfl

@[simp] theorem walk_int (n : Int) : walk errors (.int n) = .ok (.num (.int n)) := rfl

@[simp] theorem walk_str (s : String) : walk errors (.str s) = .ok (.str s) := rfl

@[simp] theorem alike_str {s t : String} : Alike errors (.str s) (.str t) ↔ s = t := by
  simp [Alike, eq_comm]

@[simp] theorem alike_bool {b b' : Bool} : Alike errors (.bool b) (.bool b') ↔ b = b' := by
  simp [Alike, eq_comm]

@[simp] theorem alike_int {m n : Int} : Alike errors (.int m) (.int n) ↔ m = n := by
  simp [Alike, eq_comm]

def ofNull (o : Option Value) : Value := o.getD .null

/-- Nullable properties that are alike are equal, where no value is alike `null`. -/
theorem ofNull_inj {α : Type} {value : α → Value} {o o' : Option α}
    (hinj : ∀ a b, Alike errors (value a) (value b) → a = b)
    (hnull : ∀ a, ¬ Alike errors (value a) .null)
    (h : Alike errors (ofNull (o.map value)) (ofNull (o'.map value))) : o = o' := by
  cases o with
  | none =>
    cases o' with
    | none => rfl
    | some b => exact absurd h.symm (hnull b)
  | some a =>
    cases o' with
    | none => exact absurd h (hnull a)
    | some b => rw [hinj a b h]

theorem str_not_null (s : String) : ¬ Alike errors (.str s) .null := by simp [Alike]

theorem int_not_null (n : Int) : ¬ Alike errors (.int n) .null := by simp [Alike]

theorem nullableText_inj {o o' : Option String}
    (h : Alike errors (ofNull (o.map .str)) (ofNull (o'.map .str))) : o = o' :=
  ofNull_inj (fun _ _ => alike_str.mp) str_not_null h

theorem nullableInt_inj {o o' : Option Int}
    (h : Alike errors (ofNull (o.map .int)) (ofNull (o'.map .int))) : o = o' :=
  ofNull_inj (fun _ _ => alike_int.mp) int_not_null h

/-! ## 7. Items and fields -/

theorem walkItems_ok {vs : List Value} {cs : List Canonical}
    (h : walk.walkItems errors vs = .ok cs) : vs.map (walk errors) = cs.map .ok := by
  induction vs generalizing cs with
  | nil =>
    cases h
    rfl
  | cons v vs ih =>
    unfold walk.walkItems at h
    cases hv : walk errors v with
    | error e =>
      rw [hv] at h
      cases h
    | ok c =>
      cases hvs : walk.walkItems errors vs with
      | error e =>
        rw [hv, hvs] at h
        cases h
      | ok ds =>
        rw [hv, hvs] at h
        cases h
        rw [List.map_cons, hv, ih hvs, List.map_cons]

theorem walk_arr_ok {vs : List Value} {c : Canonical} (h : walk errors (.arr vs) = .ok c) :
    ∀ v ∈ vs, ∃ a, walk errors v = .ok a := by
  unfold walk at h
  cases hvs : walk.walkItems errors vs with
  | error e =>
    rw [hvs] at h
    cases h
  | ok cs =>
    intro v hv
    have hmem : walk errors v ∈ cs.map .ok := walkItems_ok hvs ▸ List.mem_map_of_mem hv
    obtain ⟨a, _, ha⟩ := List.mem_map.mp hmem
    exact ⟨a, ha.symm⟩

/-- **Lists are alike only where their items are.** -/
theorem alike_arr {vs ws : List Value} (h : Alike errors (.arr vs) (.arr ws)) :
    List.Forall₂ (Alike errors) vs ws := by
  obtain ⟨c, hv, hw⟩ := h
  unfold walk at hv hw
  cases hvs : walk.walkItems errors vs with
  | error e =>
    rw [hvs] at hv
    cases hv
  | ok cs =>
    cases hws : walk.walkItems errors ws with
    | error e =>
      rw [hws] at hw
      cases hw
    | ok ds =>
      rw [hvs] at hv
      rw [hws] at hw
      cases hv
      cases hw
      have hvs' := walkItems_ok hvs
      have hws' := walkItems_ok hws
      clear hvs hws
      induction cs generalizing vs ws with
      | nil =>
        rw [List.map_eq_nil_iff.mp hvs', List.map_eq_nil_iff.mp hws']
        exact .nil
      | cons c cs ih =>
        obtain ⟨v, vs, rfl, hv, hvs⟩ := List.map_eq_cons_iff.mp hvs'
        obtain ⟨w, ws, rfl, hw, hws⟩ := List.map_eq_cons_iff.mp hws'
        exact .cons ⟨c, hv, hw⟩ (ih hvs hws)

theorem alike_items {α : Type} {value : α → Value} {as bs : List α}
    (hinj : ∀ a b, Alike errors (value a) (value b) → a = b)
    (h : Alike errors (.arr (as.map value)) (.arr (bs.map value))) : as = bs := by
  have hitems := alike_arr h
  rw [List.forall₂_map_left_iff, List.forall₂_map_right_iff] at hitems
  exact List.forall₂_eq_eq_eq ▸ hitems.imp hinj

/-- An object literal; a field without a value is left out. -/
def record (fields : List (String × Option Value)) : Value :=
  .obj (fields.filterMap fun f => f.2.map fun v => (f.1, v))

theorem mem_record {fields : List (String × Option Value)} {k : String} {v : Value} :
    (k, v) ∈ (fields.filterMap fun f => f.2.map fun v => (f.1, v)) ↔ (k, some v) ∈ fields := by
  rw [List.mem_filterMap]
  constructor
  · rintro ⟨⟨k', o⟩, hmem, heq⟩
    cases o with
    | none => cases heq
    | some w =>
      cases heq
      exact hmem
  · intro hmem
    exact ⟨(k, some v), hmem, rfl⟩

theorem collect_ok {α : Type} {rs : List (String × Except String α)} {as : List (String × α)}
    (h : collect rs = .ok as) : rs = as.map fun f => (f.1, .ok f.2) := by
  induction rs generalizing as with
  | nil =>
    cases h
    rfl
  | cons r rs ih =>
    obtain ⟨k, r⟩ := r
    unfold collect at h
    cases r with
    | error e => cases h
    | ok a =>
      cases hrs : collect rs with
      | error e =>
        rw [hrs] at h
        cases h
      | ok bs =>
        rw [hrs] at h
        cases h
        rw [ih hrs, List.map_cons]

theorem exists_collect {α : Type} {rs : List (String × Except String α)}
    (h : ∀ r ∈ rs, ∃ a, r.2 = .ok a) : ∃ as, collect rs = .ok as := by
  induction rs with
  | nil => exact ⟨[], rfl⟩
  | cons r rs ih =>
    obtain ⟨k, r⟩ := r
    obtain ⟨a, rfl⟩ : ∃ a, r = .ok a := h (k, r) List.mem_cons_self
    obtain ⟨as, has⟩ := ih fun r hr => h r (List.mem_cons_of_mem _ hr)
    refine ⟨(k, a) :: as, ?_⟩
    unfold collect
    rw [has]

theorem mem_walkFields {fields : List (String × Value)} {k : String}
    {r : Except String Canonical} :
    (k, r) ∈ walk.walkFields errors fields ↔ ∃ v, (k, v) ∈ fields ∧ walk errors v = r := by
  induction fields with
  | nil => simp [walk.walkFields]
  | cons f fs ih =>
    obtain ⟨k', v'⟩ := f
    rw [walk.walkFields, List.mem_cons, ih]
    constructor
    · rintro (heq | ⟨v, hmem, hv⟩)
      · cases heq
        exact ⟨v', List.mem_cons_self, rfl⟩
      · exact ⟨v, List.mem_cons_of_mem _ hmem, hv⟩
    · rintro ⟨v, hmem, hv⟩
      rcases List.mem_cons.mp hmem with heq | hmem
      · cases heq
        exact Or.inl (by rw [hv])
      · exact Or.inr ⟨v, hmem, hv⟩

theorem walk_obj_ok {fields : List (String × Value)} {c : Canonical}
    (h : walk errors (.obj fields) = .ok c) :
    (∀ k v, (k, v) ∈ fields → ∃ a, walk errors v = .ok a) ∧
      ∃ fs, c = .obj fs ∧ ∀ k a, (k, a) ∈ fs ↔
        k ≠ "__proto__" ∧ ∃ v, (k, v) ∈ fields ∧ walk errors v = .ok a := by
  unfold walk at h
  cases hcollect : collect (sortedKeys (walk.walkFields errors fields)) with
  | error e =>
    rw [hcollect] at h
    cases h
  | ok fs =>
    rw [hcollect] at h
    cases h
    have hsorted : (walk.walkFields errors fields).Perm (fs.map fun f => (f.1, .ok f.2)) :=
      (List.perm_insertionSort _ _).symm.trans (List.Perm.of_eq (collect_ok hcollect))
    have hmem : ∀ k r, (k, r) ∈ walk.walkFields errors fields ↔ ∃ a, (k, a) ∈ fs ∧ r = .ok a := by
      intro k r
      rw [hsorted.mem_iff, List.mem_map]
      constructor
      · rintro ⟨f, hf, heq⟩
        cases heq
        exact ⟨f.2, hf, rfl⟩
      · rintro ⟨a, ha, rfl⟩
        exact ⟨(k, a), ha, rfl⟩
    refine ⟨fun k v hv => ?_, assigned fs, rfl, fun k a => ?_⟩
    · obtain ⟨a, _, ha⟩ := (hmem k (walk errors v)).mp (mem_walkFields.mpr ⟨v, hv, rfl⟩)
      exact ⟨a, ha⟩
    · have hassigned : (assigned fs).Perm (fs.filter fun f => f.1 ≠ "__proto__") :=
        List.perm_insertionSort _ _
      rw [hassigned.mem_iff, List.mem_filter, decide_eq_true_iff, ← mem_walkFields, hmem, and_comm]
      refine and_congr_right fun _ => ⟨fun ha => ⟨a, ha, rfl⟩, fun ⟨b, hb, heq⟩ => ?_⟩
      cases heq
      exact hb

theorem walkFields_congr {fs gs : List (String × Value)}
    (h : List.Forall₂ (fun f g => f.1 = g.1 ∧ walk errors f.2 = walk errors g.2) fs gs) :
    walk.walkFields errors fs = walk.walkFields errors gs := by
  induction h with
  | nil => rfl
  | @cons f g fs gs hfg _ ih =>
    obtain ⟨k, v⟩ := f
    obtain ⟨k', v'⟩ := g
    obtain ⟨hkey, hwalk⟩ := hfg
    simp only at hkey hwalk
    rw [walk.walkFields, walk.walkFields, ih, hkey, hwalk]

theorem walk_obj_congr {fs gs : List (String × Value)}
    (h : List.Forall₂ (fun f g => f.1 = g.1 ∧ walk errors f.2 = walk errors g.2) fs gs) :
    walk errors (.obj fs) = walk errors (.obj gs) := by
  rw [walk, walk, walkFields_congr h]

theorem collect_filter {α : Type} {rs : List (String × Except String α)} {as : List (String × α)}
    (p : String → Bool) (h : collect rs = .ok as) :
    collect (rs.filter fun r => p r.1) = .ok (as.filter fun a => p a.1) := by
  rw [collect_ok h, List.filter_map]
  clear h
  induction as with
  | nil => rfl
  | cons a as ih =>
    cases hp : p a.1 with
    | false =>
      rw [List.filter_cons_of_neg (by simp [hp]), List.filter_cons_of_neg (by simp [hp]), ih]
    | true =>
      rw [List.filter_cons_of_pos (by simp [hp]), List.filter_cons_of_pos (by simp [hp]),
        List.map_cons]
      unfold collect
      rw [ih]

theorem walkFields_filter (p : String → Bool) (fields : List (String × Value)) :
    walk.walkFields errors (fields.filter fun f => p f.1)
      = (walk.walkFields errors fields).filter fun r => p r.1 := by
  induction fields with
  | nil => rfl
  | cons f fs ih =>
    obtain ⟨k, v⟩ := f
    cases hp : p k with
    | false =>
      rw [List.filter_cons_of_neg (by simp [hp]), walk.walkFields,
        List.filter_cons_of_neg (by simp [hp]), ih]
    | true =>
      rw [List.filter_cons_of_pos (by simp [hp]), walk.walkFields, walk.walkFields,
        List.filter_cons_of_pos (by simp [hp]), ih]

/-- **A field called `__proto__` does not count.** -/
theorem walk_obj_proto {fields : List (String × Value)} {c : Canonical}
    (h : walk errors (.obj fields) = .ok c) :
    walk errors (.obj (fields.filter fun f => f.1 ≠ "__proto__")) = .ok c := by
  rw [walk] at h ⊢
  have hfields : walk.walkFields errors (fields.filter fun f => f.1 ≠ "__proto__")
      = (walk.walkFields errors fields).filter fun r => r.1 ≠ "__proto__" :=
    walkFields_filter (fun k => decide (k ≠ "__proto__")) fields
  have hsorted : sortedKeys ((walk.walkFields errors fields).filter fun r => r.1 ≠ "__proto__")
      = (sortedKeys (walk.walkFields errors fields)).filter fun r => r.1 ≠ "__proto__" :=
    (sortBy_filter textLe_total (fun _ _ _ => textLe_trans) _ _).symm
  cases hcollect : collect (sortedKeys (walk.walkFields errors fields)) with
  | error e =>
    rw [hcollect] at h
    cases h
  | ok fs =>
    rw [hcollect] at h
    have hfiltered := collect_filter (fun k => decide (k ≠ "__proto__")) hcollect
    rw [hfields, hsorted, hfiltered, ← h]
    show Except.ok (Canonical.obj (assigned _)) = Except.ok (Canonical.obj (assigned _))
    unfold assigned
    rw [List.filter_filter]
    simp only [Bool.and_self]

theorem exists_walk_record {fields : List (String × Option Value)}
    (h : ∀ k v, (k, some v) ∈ fields → ∃ a, walk errors v = .ok a) :
    ∃ c, walk errors (record fields) = .ok c := by
  unfold record
  rw [walk]
  have hall : ∀ r ∈ sortedKeys (walk.walkFields errors
      (fields.filterMap fun f => f.2.map fun v => (f.1, v))), ∃ a, r.2 = .ok a := by
    intro r hr
    obtain ⟨k, r⟩ := r
    have hmem := (List.perm_insertionSort _ _).mem_iff.mp hr
    obtain ⟨v, hv, rfl⟩ := mem_walkFields.mp hmem
    exact h k v (mem_record.mp hv)
  obtain ⟨fs, hfs⟩ := exists_collect hall
  exact ⟨.obj (assigned fs), by rw [hfs]; rfl⟩

/-- **Records of the same keys are alike only where every field is.** -/
theorem alike_record {fs gs : List (String × Option Value)}
    (h : Alike errors (record fs) (record gs)) (hkeys : fs.map Prod.fst = gs.map Prod.fst)
    (hnodup : (fs.map Prod.fst).Nodup) (hproto : "__proto__" ∉ fs.map Prod.fst) :
    List.Forall₂ (fun f g => Option.Rel (Alike errors) f.2 g.2) fs gs := by
  obtain ⟨c, hf, hg⟩ := h
  -- a value of one record is, walked, a value of the other
  have hhalf : ∀ {as bs : List (String × Option Value)} {k : String} {v : Value} {o : Option Value},
      (bs.map Prod.fst).Nodup → k ≠ "__proto__" → walk errors (record as) = .ok c →
      walk errors (record bs) = .ok c → (k, some v) ∈ as → (k, o) ∈ bs →
      ∃ w, o = some w ∧ Alike errors v w := by
    intro as bs k v o hbs hk has hbs' hv ho
    obtain ⟨hall, cs, rfl, hcs⟩ := walk_obj_ok has
    obtain ⟨_, ds, heq, hds⟩ := walk_obj_ok hbs'
    cases heq
    obtain ⟨a, ha⟩ := hall k v (mem_record.mpr hv)
    have hmem : (k, a) ∈ cs := (hcs k a).mpr ⟨hk, v, mem_record.mpr hv, ha⟩
    obtain ⟨_, w, hw, hwa⟩ := (hds k a).mp hmem
    have hentry : ((k, some w) : String × Option Value) = (k, o) :=
      List.inj_on_of_nodup_map hbs (mem_record.mp hw) ho rfl
    exact ⟨w, (Prod.mk.inj hentry).2.symm, a, ha, hwa⟩
  have hlength : fs.length = gs.length := by
    have hmap := congrArg List.length hkeys
    rwa [List.length_map, List.length_map] at hmap
  refine List.forall₂_iff_get.mpr ⟨hlength, fun i hi hi' => ?_⟩
  have hkey : (fs.get ⟨i, hi⟩).1 = (gs.get ⟨i, hi'⟩).1 := by
    have hmap := congrArg (·[i]?) hkeys
    simpa [hi, hi'] using hmap
  have hf' : fs.get ⟨i, hi⟩ ∈ fs := List.get_mem _ _
  have hg' : gs.get ⟨i, hi'⟩ ∈ gs := List.get_mem _ _
  generalize fs.get ⟨i, hi⟩ = f at hkey hf'
  generalize gs.get ⟨i, hi'⟩ = g at hkey hg'
  obtain ⟨k, o⟩ := f
  obtain ⟨k', o'⟩ := g
  obtain rfl : k = k' := hkey
  have hk : k ≠ "__proto__" := by
    rintro rfl
    exact hproto (List.mem_map_of_mem hf')
  cases o with
  | some v =>
    obtain ⟨w, rfl, hvw⟩ := hhalf (hkeys ▸ hnodup) hk hf hg hf' hg'
    exact .some hvw
  | none =>
    cases o' with
    | none => exact .none
    | some w =>
      obtain ⟨v, hv, _⟩ := hhalf hnodup hk hg hf hg' hf'
      cases hv

end ContextLock.Js
