/-
  Subject:   `JSON.parse`, and that it reads what `JSON.stringify` writes.

  The parser takes a text apart character by character. The rounding of a number with a point or
  an exponent to the nearest number of the language is a parameter; integers are read as they
  stand. A text with half of a surrogate pair has no counterpart here and is not read.
-/
import ContextLock.Js.Amount
import ContextLock.Js.Canonical

namespace ContextLock.Js

/-! ## 1. Tokens -/

def jsonSpace (c : Char) : Bool := c = ' ' || c = '\t' || c = '\n' || c = '\r'

def skipSpace (cs : List Char) : List Char := cs.dropWhile jsonSpace

/-- The characters up to the closing quote. -/
def readText : Nat → List Char → Option (List Char × List Char)
  | 0, _ => none
  | n + 1, cs =>
    if cs.head? = some '"' then some ([], cs.tail)
    else
      match readQuoted cs with
      | none => none
      | some (c, t) => (readText n t).map fun r => (c :: r.1, r.2)

/-! ## 2. Numbers -/

/-- The nearest number of `± mantissa * 10 ^ exponent`. -/
abbrev Rounding := Bool → Nat → Int → Double

/-- A number without a point and an exponent. -/
def wholeNumber (nearest : Rounding) (negative : Bool) (mantissa : Nat) : Double :=
  if mantissa = 0 then if negative then .negativeZero else .finite (.int 0)
  else if mantissa ≤ 2 ^ 53 then .finite (.int (if negative then -mantissa else mantissa))
  else nearest negative mantissa 0

def spanDigits (cs : List Char) : List Char × List Char :=
  (cs.takeWhile Char.isDigit, cs.dropWhile Char.isDigit)

/-- The digits after a point, if there is a point. -/
def readFraction (cs : List Char) : Option (List Char × List Char) :=
  match cs with
  | '.' :: t => if (spanDigits t).1 = [] then none else some (spanDigits t)
  | cs => some ([], cs)

def readExponent (cs : List Char) : Option (Option Int × List Char) :=
  match cs with
  | c :: t =>
    if c = 'e' ∨ c = 'E' then
      let negative := t.head? = some '-'
      let digits := spanDigits (if t.head? = some '-' ∨ t.head? = some '+' then t.tail else t)
      if digits.1 = [] then none
      else
        let size : Int := Nat.ofDigitChars 10 digits.1 0
        some (some (if negative then -size else size), digits.2)
    else some (none, c :: t)
  | [] => some (none, [])

def readUnsigned (nearest : Rounding) (negative : Bool) (cs : List Char) :
    Option (Double × List Char) :=
  let whole := spanDigits cs
  if whole.1 = [] ∨ (1 < whole.1.length ∧ whole.1.head? = some '0') then none
  else
    match readFraction whole.2 with
    | none => none
    | some (fraction, t) =>
      match readExponent t with
      | none => none
      | some (exponent, t) =>
        let mantissa := Nat.ofDigitChars 10 (whole.1 ++ fraction) 0
        if fraction = [] ∧ exponent = none then some (wholeNumber nearest negative mantissa, t)
        else some (nearest negative mantissa (exponent.getD 0 - fraction.length), t)

def readNumber (nearest : Rounding) (cs : List Char) : Option (Double × List Char) :=
  if cs.head? = some '-' then readUnsigned nearest true cs.tail
  else readUnsigned nearest false cs

/-! ## 3. Values -/

/-- What is read, up to `close`, with commas between. -/
def readMore {α : Type} (read : List Char → Option (α × List Char)) (close : Char) :
    Nat → List Char → Option (List α × List Char)
  | 0, _ => none
  | n + 1, cs =>
    match read cs with
    | none => none
    | some (a, rest) =>
      match skipSpace rest with
      | [] => none
      | c :: t =>
        if c = close then some ([a], t)
        else if c = ',' then (readMore read close n t).map fun r => (a :: r.1, r.2)
        else none

def readList {α : Type} (read : List Char → Option (α × List Char)) (close : Char)
    (cs : List Char) : Option (List α × List Char) :=
  match skipSpace cs with
  | [] => none
  | c :: t => if c = close then some ([], t) else readMore read close (t.length + 1) (c :: t)

/-- A key, a colon and a value. -/
def readField (read : List Char → Option (Value × List Char)) (cs : List Char) :
    Option ((String × Value) × List Char) :=
  match skipSpace cs with
  | [] => none
  | c :: t =>
    if c = '"' then
      match readText (t.length + 1) t with
      | none => none
      | some (key, rest) =>
        match skipSpace rest with
        | [] => none
        | c :: t =>
          if c = ':' then (read t).map fun r => ((String.ofList key, r.1), r.2) else none
    else none

def setField (fields : List (String × Value)) (f : String × Value) : List (String × Value) :=
  if f.1 ∈ fields.map Prod.fst then fields.map fun g => if g.1 = f.1 then f else g
  else fields ++ [f]

def readWord (word : String) (value : Value) (cs : List Char) : Option (Value × List Char) :=
  if cs.take word.length = word.toList then some (value, cs.drop word.length) else none

def readValue (nearest : Rounding) : Nat → List Char → Option (Value × List Char)
  | 0, _ => none
  | n + 1, cs =>
    match skipSpace cs with
    | [] => none
    | c :: t =>
      if c = '"' then (readText (t.length + 1) t).map fun r => (.str (String.ofList r.1), r.2)
      else if c = '[' then (readList (readValue nearest n) ']' t).map fun r => (.arr r.1, r.2)
      else if c = '\x7b' then
        (readList (readField (readValue nearest n)) '\x7d' t).map fun r =>
          (.obj (r.1.foldl setField []), r.2)
      else if c = 'n' then readWord "null" .null (c :: t)
      else if c = 't' then readWord "true" (.bool true) (c :: t)
      else if c = 'f' then readWord "false" (.bool false) (c :: t)
      else (readNumber nearest (c :: t)).map fun r => (.number r.1, r.2)

/-- `JSON.parse(text)`; without a value where it throws. -/
def jsonParse (nearest : Rounding) (text : String) : Option Value :=
  match readValue nearest (text.length + 1) text.toList with
  | none => none
  | some (v, rest) => if skipSpace rest = [] then some v else none

/-! ## 4. Texts are read back -/

/-- What may follow a value inside a list or an object, or nothing. -/
def Closes (t : List Char) : Prop := ∀ c ∈ t.head?, c = ',' ∨ c = ']' ∨ c = '\x7d'

theorem closes_nil : Closes [] := fun c hc => by cases hc

theorem jsonChar_ne_nil (c : Char) : (jsonChar c).toList ≠ [] := by
  intro h
  have hread := readQuoted_jsonChar c []
  rw [h] at hread
  cases hread

theorem readText_chars (cs t : List Char) {n : Nat}
    (hn : (cs.flatMap fun c => (jsonChar c).toList).length < n) :
    readText n ((cs.flatMap fun c => (jsonChar c).toList) ++ '"' :: t) = some (cs, t) := by
  induction cs generalizing n with
  | nil =>
    obtain ⟨m, rfl⟩ : ∃ m, n = m + 1 := ⟨n - 1, by omega⟩
    rfl
  | cons c cs ih =>
    rw [List.flatMap_cons, List.length_append] at hn
    have hpos : 0 < (jsonChar c).toList.length :=
      List.length_pos_of_ne_nil (jsonChar_ne_nil c)
    obtain ⟨m, rfl⟩ : ∃ m, n = m + 1 := ⟨n - 1, by omega⟩
    rw [List.flatMap_cons, List.append_assoc, readText, if_neg, readQuoted_jsonChar]
    · simp only []
      rw [ih (by omega)]
      rfl
    · intro hquote
      cases htext : (jsonChar c).toList with
      | nil => exact jsonChar_ne_nil c htext
      | cons d ds =>
        rw [htext, List.cons_append, List.head?_cons, Option.some.injEq] at hquote
        have hstart := jsonChar_append_ne_quote c [] ds
        rw [htext, List.append_nil, hquote] at hstart
        exact hstart rfl

variable {nearest : Rounding}

def Reads (nearest : Rounding) (v : Value) (cs : List Char) : Prop :=
  ∀ n t, cs.length ≤ n → Closes t → readValue nearest n (cs ++ t) = some (v, t)

theorem Reads.jsonParse {v : Value} {cs : List Char} (h : Reads nearest v cs) :
    jsonParse nearest (String.ofList cs) = some v := by
  have hread := h (cs.length + 1) [] (by omega) closes_nil
  rw [List.append_nil] at hread
  unfold Js.jsonParse
  rw [String.toList_ofList, String.length_ofList, hread]
  rfl

theorem reads_null : Reads nearest .null (Canonical.text .null) := by
  intro n t hn _
  obtain ⟨m, rfl⟩ : ∃ m, n = m + 1 := ⟨n - 1, by change 4 ≤ n at hn; omega⟩
  rfl

theorem skipSpace_cons {c : Char} (h : jsonSpace c = false) (t : List Char) :
    skipSpace (c :: t) = c :: t := by
  rw [skipSpace, List.dropWhile_cons_of_neg (by rw [h]; decide)]

theorem length_text_pos (v : Canonical) : 0 < v.text.length := by
  obtain ⟨c, cs, hv, _⟩ := Canonical.head_text v
  rw [hv]
  exact Nat.succ_pos _

theorem reads_str (s : String) : Reads nearest (.str s) (Canonical.text (.str s)) := by
  intro n t hn _
  obtain ⟨m, rfl⟩ : ∃ m, n = m + 1 := ⟨n - 1, by have := length_text_pos (.str s); omega⟩
  have htext : Canonical.text (.str s) ++ t
      = '"' :: ((s.toList.flatMap fun c => (jsonChar c).toList) ++ '"' :: t) := by
    simp only [Canonical.text, quote, List.cons_append, List.append_assoc, List.nil_append]
  rw [htext, readValue, skipSpace_cons rfl]
  simp only [if_true]
  rw [readText_chars s.toList t (by rw [List.length_append]; omega), Option.map_some,
    String.ofList_toList]

/-! ## 5. Integers are read back -/

theorem spanDigits_append {ds t : List Char} (hds : ∀ c ∈ ds, c.isDigit) (ht : Closes t) :
    spanDigits (ds ++ t) = (ds, t) := by
  have hhead : ∀ c ∈ t.head?, ¬ c.isDigit := by
    intro c hc
    rcases ht c hc with rfl | rfl | rfl <;> decide
  unfold spanDigits
  rw [List.takeWhile_append_of_pos hds, List.dropWhile_append_of_pos hds]
  cases t with
  | nil => simp
  | cons c t =>
    have hc : ¬ c.isDigit := hhead c rfl
    rw [List.takeWhile_cons_of_neg hc, List.dropWhile_cons_of_neg hc, List.append_nil]

theorem readFraction_closes {t : List Char} (ht : Closes t) : readFraction t = some ([], t) := by
  cases t with
  | nil => rfl
  | cons c t =>
    rcases ht c rfl with rfl | rfl | rfl <;> rfl

theorem readExponent_closes {t : List Char} (ht : Closes t) :
    readExponent t = some (none, t) := by
  cases t with
  | nil => rfl
  | cons c t =>
    rcases ht c rfl with rfl | rfl | rfl <;> rfl

theorem readUnsigned_toDigits (negative : Bool) (m : Nat) {t : List Char} (ht : Closes t) :
    readUnsigned nearest negative (Nat.toDigits 10 m ++ t)
      = some (wholeNumber nearest negative m, t) := by
  have hdigits : ∀ c ∈ Nat.toDigits 10 m, c.isDigit := fun c hc =>
    Nat.isDigit_of_mem_toDigits (by decide) (by decide) hc
  have hlead : ¬ (Nat.toDigits 10 m = [] ∨
      1 < (Nat.toDigits 10 m).length ∧ (Nat.toDigits 10 m).head? = some '0') := by
    rintro (hnil | ⟨hlength, hzero⟩)
    · exact Nat.toDigits_ne_nil hnil
    · rcases Nat.eq_zero_or_pos m with rfl | hpos
      · exact absurd hlength (by decide)
      · exact head_toDigits_ne_zero hpos hzero
  unfold readUnsigned
  rw [spanDigits_append hdigits ht]
  simp only []
  rw [if_neg hlead, readFraction_closes ht]
  simp only []
  rw [readExponent_closes ht]
  simp only []
  rw [if_pos (by simp), List.append_nil, Nat.ofDigitChars_ten_toDigits]

theorem readNumber_intText {n : Int} (hn : n.natAbs ≤ 2 ^ 53) {t : List Char} (ht : Closes t) :
    readNumber nearest (intText n ++ t) = some (.finite (.int n), t) := by
  rcases lt_or_ge n 0 with hneg | hpos
  · rw [intText, if_pos hneg, List.cons_append, readNumber, List.head?_cons, if_pos rfl,
      List.tail_cons, readUnsigned_toDigits true _ ht, wholeNumber, if_neg (by omega), if_pos hn,
      if_pos rfl]
    have hvalue : -(n.natAbs : Int) = n := by omega
    rw [hvalue]
  · have hhead : (Nat.toDigits 10 n.natAbs ++ t).head? ≠ some '-' := by
      rw [List.head?_append_of_ne_nil _ Nat.toDigits_ne_nil]
      intro hminus
      have hmem := List.mem_of_mem_head? hminus
      exact absurd (Nat.isDigit_of_mem_toDigits (by decide) (by decide) hmem) (by decide)
    rw [intText, if_neg (by omega), readNumber, if_neg hhead, readUnsigned_toDigits false _ ht,
      wholeNumber]
    have hvalue : (n.natAbs : Int) = n := by omega
    rcases Nat.eq_zero_or_pos n.natAbs with hzero | hne
    · have hn : n = 0 := by omega
      rw [hn]
      rfl
    · rw [if_neg (by omega), if_pos hn]
      simp only [Bool.false_eq_true, if_false, hvalue]

theorem readValue_number {m : Nat} {c : Char} {t : List Char} (h : c.isDigit ∨ c = '-') :
    readValue nearest (m + 1) (c :: t)
      = (readNumber nearest (c :: t)).map fun r => (.number r.1, r.2) := by
  have hall : ∀ d, (d = '"' ∨ d = '[' ∨ d = '\x7b' ∨ d = 'n' ∨ d = 't' ∨ d = 'f' ∨
      jsonSpace d = true) → ¬ (d.isDigit ∨ d = '-') := by
    intro d hd
    rcases hd with rfl | rfl | rfl | rfl | rfl | rfl | hd
    · decide
    · decide
    · decide
    · decide
    · decide
    · decide
    · simp only [jsonSpace, Bool.or_eq_true, decide_eq_true_eq] at hd
      rcases hd with ((rfl | rfl) | rfl) | rfl <;> decide
  have hspace : jsonSpace c = false := by
    cases hc : jsonSpace c with
    | false => rfl
    | true => exact absurd h (hall c (by simp [hc]))
  rw [readValue, skipSpace_cons hspace]
  simp only []
  rw [if_neg fun hc => hall c (by simp [hc]) h, if_neg fun hc => hall c (by simp [hc]) h,
    if_neg fun hc => hall c (by simp [hc]) h, if_neg fun hc => hall c (by simp [hc]) h,
    if_neg fun hc => hall c (by simp [hc]) h, if_neg fun hc => hall c (by simp [hc]) h]

/-- **An integer that is a number of the language is read back.** -/
theorem reads_int {i : Int} (hi : i.natAbs ≤ 2 ^ 53) :
    Reads nearest (.int i) (Canonical.text (.num (.int i))) := by
  intro n t hn ht
  obtain ⟨m, rfl⟩ : ∃ m, n = m + 1 :=
    ⟨n - 1, by have := length_text_pos (.num (.int i)); omega⟩
  have htext : Canonical.text (.num (.int i)) = intText i := rfl
  have hread : readNumber nearest (intText i ++ t) = some (.finite (.int i), t) :=
    readNumber_intText hi ht
  rw [htext]
  cases hcs : intText i with
  | nil => exact absurd hcs (Numeral.text_ne_nil (.int i))
  | cons c cs =>
    have hc : c.isDigit ∨ c = '-' := by
      unfold intText at hcs
      split_ifs at hcs with hneg
      · exact Or.inr (List.cons.inj hcs).1.symm
      · have hmem : c ∈ Nat.toDigits 10 i.natAbs := hcs ▸ List.mem_cons_self
        exact Or.inl (Nat.isDigit_of_mem_toDigits (by decide) (by decide) hmem)
    rw [hcs] at hread
    rw [List.cons_append, readValue_number hc, ← List.cons_append, hread]
    rfl

/-! ## 6. Lists and objects are read back -/

def chunkText : List (List Char) → List Char
  | [] => []
  | c :: cs => c ++ cs.flatMap (',' :: ·)

theorem length_le_chunkText {chunks : List (List Char)} {chunk : List Char}
    (h : chunk ∈ chunks) : chunk.length ≤ (chunkText chunks).length := by
  cases chunks with
  | nil => cases h
  | cons c cs =>
    rw [chunkText, List.length_append]
    rcases List.mem_cons.mp h with rfl | h
    · omega
    · have hsub : (',' :: chunk).length ≤ (cs.flatMap (',' :: ·)).length := by
        rw [List.flatMap_def]
        exact (List.sublist_flatten_of_mem (List.mem_map_of_mem h)).length_le
      rw [List.length_cons] at hsub
      omega

theorem itemsText_eq (cs : List Canonical) :
    Canonical.text.itemsText [] cs = chunkText (cs.map Canonical.text) ++ [']'] := by
  have hmore : ∀ cs, Canonical.text.itemsText [','] cs
      = (cs.map Canonical.text).flatMap (',' :: ·) ++ [']'] := by
    intro cs
    induction cs with
    | nil => rfl
    | cons c cs ih =>
      rw [Canonical.text.itemsText, ih, List.map_cons, List.flatMap_cons]
      simp only [List.cons_append, List.nil_append, List.append_assoc]
  cases cs with
  | nil => rfl
  | cons c cs =>
    rw [Canonical.text.itemsText, hmore, List.map_cons, chunkText, List.nil_append,
      List.append_assoc]

def fieldText (f : String × Canonical) : List Char := quote f.1 ++ ':' :: f.2.text

theorem fieldsText_eq (fs : List (String × Canonical)) :
    Canonical.text.fieldsText [] fs = chunkText (fs.map fieldText) ++ ['\x7d'] := by
  have hmore : ∀ fs, Canonical.text.fieldsText [','] fs
      = (fs.map fieldText).flatMap (',' :: ·) ++ ['\x7d'] := by
    intro fs
    induction fs with
    | nil => rfl
    | cons f fs ih =>
      obtain ⟨k, c⟩ := f
      rw [Canonical.text.fieldsText, ih, List.map_cons, List.flatMap_cons, fieldText]
      simp only [List.cons_append, List.nil_append, List.append_assoc]
  cases fs with
  | nil => rfl
  | cons f fs =>
    obtain ⟨k, c⟩ := f
    rw [Canonical.text.fieldsText, hmore, List.map_cons, chunkText, fieldText]
    simp only [List.cons_append, List.nil_append, List.append_assoc]

section Chunks

variable {α : Type} {read : List Char → Option (α × List Char)} {close : Char}

/-- Items that are read where they stand, with commas between, are read together. -/
theorem readMore_chunks (hclose : close ≠ ',') (hspace : jsonSpace close = false)
    (f : α × List Char) (fs : List (α × List Char))
    (hread : ∀ g ∈ f :: fs, ∀ t, (∀ c ∈ t.head?, c = ',' ∨ c = close) →
      read (g.2 ++ t) = some (g.1, t)) (t : List Char) {n : Nat} (hn : fs.length < n) :
    readMore read close n (chunkText ((f :: fs).map Prod.snd) ++ close :: t)
      = some (f.1 :: fs.map Prod.fst, t) := by
  induction fs generalizing f n with
  | nil =>
    obtain ⟨m, rfl⟩ : ∃ m, n = m + 1 := ⟨n - 1, by omega⟩
    have hlast := hread f List.mem_cons_self (close :: t) fun c hc => Or.inr (by cases hc; rfl)
    rw [List.map_cons, List.map_nil, chunkText, List.flatMap_nil, List.append_nil, readMore, hlast]
    simp only []
    rw [skipSpace_cons hspace]
    simp only [if_true, List.map_nil]
  | cons g gs ih =>
    obtain ⟨m, rfl⟩ : ∃ m, n = m + 1 := ⟨n - 1, by omega⟩
    rw [List.length_cons] at hn
    have hrest := ih g (fun h hh => hread h (List.mem_cons_of_mem _ hh)) (n := m) (by omega)
    have hhead := hread f List.mem_cons_self
      (',' :: (chunkText ((g :: gs).map Prod.snd) ++ close :: t))
      fun c hc => Or.inl (by cases hc; rfl)
    have htext : chunkText ((f :: g :: gs).map Prod.snd) ++ close :: t
        = f.2 ++ ',' :: (chunkText ((g :: gs).map Prod.snd) ++ close :: t) := by
      simp only [List.map_cons, chunkText, List.flatMap_cons, List.cons_append, List.append_assoc]
    rw [htext, readMore, hhead]
    simp only []
    rw [skipSpace_cons (by decide)]
    simp only []
    rw [if_neg fun h => hclose h.symm]
    simp only [if_true]
    rw [hrest]
    rfl

theorem readList_chunks (hclose : close ≠ ',') (hspace : jsonSpace close = false)
    (fs : List (α × List Char))
    (hread : ∀ g ∈ fs, ∀ t, (∀ c ∈ t.head?, c = ',' ∨ c = close) →
      read (g.2 ++ t) = some (g.1, t))
    (hstart : ∀ g ∈ fs, ∃ c cs, g.2 = c :: cs ∧ jsonSpace c = false ∧ c ≠ close)
    (t : List Char) :
    readList read close (chunkText (fs.map Prod.snd) ++ close :: t)
      = some (fs.map Prod.fst, t) := by
  cases fs with
  | nil =>
    rw [List.map_nil, chunkText, List.nil_append, readList, skipSpace_cons hspace]
    simp only [if_true, List.map_nil]
  | cons f fs =>
    obtain ⟨c, cs, hf, hc, hne⟩ := hstart f List.mem_cons_self
    have htext : chunkText ((f :: fs).map Prod.snd) ++ close :: t
        = c :: (cs ++ ((fs.map Prod.snd).flatMap (',' :: ·) ++ close :: t)) := by
      rw [List.map_cons, chunkText, hf, List.cons_append, List.cons_append, List.append_assoc]
    have hlength : fs.length ≤ ((fs.map Prod.snd).flatMap (',' :: ·)).length := by
      rw [List.length_flatMap]
      have hsum := List.card_nsmul_le_sum ((fs.map Prod.snd).map fun a => (',' :: a).length) 1
        fun x hx => by
          obtain ⟨a, _, rfl⟩ := List.mem_map.mp hx
          exact Nat.succ_pos _
      simpa using hsum
    have hmore := readMore_chunks hclose hspace f fs hread t
      (n := (cs ++ ((fs.map Prod.snd).flatMap (',' :: ·) ++ close :: t)).length + 1) (by
        rw [List.length_append, List.length_append]
        omega)
    rw [htext] at hmore
    rw [htext, readList, skipSpace_cons hc]
    simp only []
    rw [if_neg hne, hmore]
    rfl

end Chunks

theorem start_text (v : Canonical) :
    ∃ c cs, v.text = c :: cs ∧ jsonSpace c = false ∧ c ≠ ']' := by
  obtain ⟨c, cs, hv, hkind⟩ := Canonical.head_text v
  have hlt : Canonical.kindOf c < 6 := by
    rw [hkind]
    cases v <;> exact Nat.le_of_ble_eq_true rfl
  refine ⟨c, cs, hv, ?_, ?_⟩
  · cases hspace : jsonSpace c with
    | false => rfl
    | true =>
      simp only [jsonSpace, Bool.or_eq_true, decide_eq_true_eq] at hspace
      rcases hspace with ((rfl | rfl) | rfl) | rfl <;> exact absurd hlt (by decide)
  · rintro rfl
    exact absurd hlt (by decide)

/-- **A list is read back item by item.** -/
theorem reads_arr {items : List (Value × Canonical)}
    (h : ∀ f ∈ items, Reads nearest f.1 f.2.text) :
    Reads nearest (.arr (items.map Prod.fst)) (Canonical.arr (items.map Prod.snd)).text := by
  intro n t hn _
  obtain ⟨m, rfl⟩ : ∃ m, n = m + 1 :=
    ⟨n - 1, by have := length_text_pos (.arr (items.map Prod.snd)); omega⟩
  rw [Canonical.text, itemsText_eq, List.length_cons, List.length_append] at hn
  have hlist := @readList_chunks _ (readValue nearest m) ']' (by decide) (by decide)
    (items.map fun f => (f.1, f.2.text))
    (by
      intro g hg t ht
      obtain ⟨f, hf, rfl⟩ := List.mem_map.mp hg
      refine h f hf m t ?_ fun c hc => (ht c hc).imp id Or.inl
      have hmem : f.2.text ∈ (items.map Prod.snd).map Canonical.text :=
        List.mem_map_of_mem (List.mem_map_of_mem hf)
      have hle := length_le_chunkText hmem
      omega)
    (by
      intro g hg
      obtain ⟨f, _, rfl⟩ := List.mem_map.mp hg
      exact start_text f.2)
    t
  have hsnd : (items.map fun f => (f.1, f.2.text)).map Prod.snd
      = (items.map Prod.snd).map Canonical.text := by
    rw [List.map_map, List.map_map]
    rfl
  have hfst : (items.map fun f => (f.1, f.2.text)).map Prod.fst = items.map Prod.fst := by
    rw [List.map_map]
    rfl
  rw [hsnd, hfst] at hlist
  rw [Canonical.text, itemsText_eq, List.cons_append, List.append_assoc, readValue,
    skipSpace_cons (by decide)]
  simp only [Char.reduceEq, if_true, if_false]
  rw [List.singleton_append, hlist]
  rfl

theorem readField_text {m : Nat} {k : String} {v : Value} {c : Canonical}
    (h : Reads nearest v c.text) (hm : c.text.length ≤ m) {t : List Char} (ht : Closes t) :
    readField (readValue nearest m) (fieldText (k, c) ++ t) = some ((k, v), t) := by
  have htext : fieldText (k, c) ++ t = '"' :: ((k.toList.flatMap fun c => (jsonChar c).toList)
      ++ '"' :: ':' :: (c.text ++ t)) := by
    simp only [fieldText, quote, List.cons_append, List.append_assoc, List.nil_append]
  rw [htext, readField, skipSpace_cons (by decide)]
  simp only [if_true]
  rw [readText_chars k.toList _ (by rw [List.length_append]; omega)]
  simp only []
  rw [skipSpace_cons (by decide)]
  simp only [if_true]
  rw [h m t hm ht, Option.map_some, String.ofList_toList]

theorem foldl_setField {fields done : List (String × Value)}
    (h : ((done ++ fields).map Prod.fst).Nodup) : fields.foldl setField done = done ++ fields := by
  induction fields generalizing done with
  | nil => rw [List.foldl_nil, List.append_nil]
  | cons f fs ih =>
    have hnew : f.1 ∉ done.map Prod.fst := by
      rw [List.map_append, List.map_cons, List.nodup_append] at h
      exact fun hmem => h.2.2 f.1 hmem f.1 List.mem_cons_self rfl
    rw [List.foldl_cons, setField, if_neg hnew, ih (by simpa using h)]
    simp only [List.append_assoc, List.singleton_append]

theorem reads_fields {fields : List (String × Value × Canonical)}
    (h : ∀ f ∈ fields, Reads nearest f.2.1 f.2.2.text) :
    Reads nearest (.obj ((fields.map fun f => (f.1, f.2.1)).foldl setField []))
      (Canonical.obj (fields.map fun f => (f.1, f.2.2))).text := by
  intro n t hn _
  obtain ⟨m, rfl⟩ : ∃ m, n = m + 1 :=
    ⟨n - 1, by have := length_text_pos (.obj (fields.map fun f => (f.1, f.2.2))); omega⟩
  rw [Canonical.text, fieldsText_eq, List.length_cons, List.length_append] at hn
  have hlist := @readList_chunks _ (readField (readValue nearest m)) '\x7d'
    (by decide) (by decide) (fields.map fun f => ((f.1, f.2.1), fieldText (f.1, f.2.2)))
    (by
      intro g hg t ht
      obtain ⟨f, hf, rfl⟩ := List.mem_map.mp hg
      refine readField_text (h f hf) ?_ fun c hc => (ht c hc).imp id Or.inr
      have hmem : fieldText (f.1, f.2.2)
          ∈ (fields.map fun f => (f.1, f.2.2)).map fieldText :=
        List.mem_map_of_mem (List.mem_map_of_mem hf)
      have hle := length_le_chunkText hmem
      rw [fieldText, List.length_append, List.length_cons] at hle
      change f.2.2.text.length ≤ m
      change _ + (f.2.2.text.length + 1) ≤ _ at hle
      omega)
    (by
      intro g hg
      obtain ⟨f, _, rfl⟩ := List.mem_map.mp hg
      exact ⟨'"', _, rfl, by decide, by decide⟩)
    t
  have hsnd : (fields.map fun f => ((f.1, f.2.1), fieldText (f.1, f.2.2))).map Prod.snd
      = (fields.map fun f => (f.1, f.2.2)).map fieldText := by
    rw [List.map_map, List.map_map]
    rfl
  have hfst : (fields.map fun f => ((f.1, f.2.1), fieldText (f.1, f.2.2))).map Prod.fst
      = fields.map fun f => (f.1, f.2.1) := by
    rw [List.map_map]
    rfl
  rw [hsnd, hfst] at hlist
  rw [Canonical.text, fieldsText_eq, List.cons_append, List.append_assoc, readValue,
    skipSpace_cons (by decide)]
  simp only [Char.reduceEq, if_true, if_false]
  rw [List.singleton_append, hlist, Option.map_some]

/-- **An object is read back**, where its keys are different. -/
theorem reads_obj {fields : List (String × Value × Canonical)}
    (h : ∀ f ∈ fields, Reads nearest f.2.1 f.2.2.text) (hkeys : (fields.map Prod.fst).Nodup) :
    Reads nearest (.obj (fields.map fun f => (f.1, f.2.1)))
      (Canonical.obj (fields.map fun f => (f.1, f.2.2))).text := by
  have hset : (fields.map fun f => (f.1, f.2.1)).foldl setField []
      = fields.map fun f => (f.1, f.2.1) := by
    refine foldl_setField ?_
    rw [List.nil_append, List.map_map]
    exact hkeys
  rw [← hset]
  exact reads_fields h

/-! ## 7. Objects whose keys are known -/

variable {errors : WalkErrors}

theorem collect_ok_map {α β : Type} (key : β → String) (value : β → α) (bs : List β) :
    collect (bs.map fun b => (key b, (.ok (value b) : Except String α)))
      = .ok (bs.map fun b => (key b, value b)) := by
  induction bs with
  | nil => rfl
  | cons b bs ih =>
    rw [List.map_cons, List.map_cons]
    unfold collect
    rw [ih]

theorem insertionSort_slots {α : Type} (le : String → String → Bool)
    (slots : List (String × Nat)) (value : Nat → α) :
    (slots.map fun s => (s.1, value s.2)).insertionSort (fun f g => le f.1 g.1)
      = (slots.insertionSort fun f g => le f.1 g.1).map fun s => (s.1, value s.2) :=
  (List.map_insertionSort (fun a b : String × Nat => le a.1 b.1 = true)
    (fun a b : String × α => le a.1 b.1 = true) (fun s => (s.1, value s.2)) slots
    fun _ _ _ _ => Iff.rfl).symm

/-- **The walked form of an object with known keys**: its slots, sorted by key. -/
theorem walk_slots {slots sorted : List (String × Nat)} {vs : Nat → Value} {cs : Nat → Canonical}
    (hwalk : ∀ s ∈ slots, walk errors (vs s.2) = .ok (cs s.2))
    (hsorted : slots.insertionSort (fun f g => textLe f.1 g.1) = sorted)
    (hassigned : assigned sorted = sorted) :
    walk errors (.obj (slots.map fun s => (s.1, vs s.2)))
      = .ok (.obj (sorted.map fun s => (s.1, cs s.2))) := by
  have hfields : walk.walkFields errors (slots.map fun s => (s.1, vs s.2))
      = slots.map fun s => (s.1, .ok (cs s.2)) := by
    clear hsorted
    induction slots with
    | nil => rfl
    | cons s ss ih =>
      rw [List.map_cons, walk.walkFields, hwalk s List.mem_cons_self,
        ih fun t ht => hwalk t (List.mem_cons_of_mem _ ht), List.map_cons]
  have hkeys : sortedKeys (slots.map fun s => (s.1, (.ok (cs s.2) : Except String Canonical)))
      = sorted.map fun s => (s.1, .ok (cs s.2)) := by
    have hslots := insertionSort_slots textLe slots
      fun i => (Except.ok (cs i) : Except String Canonical)
    rw [sortedKeys, hslots, hsorted]
  have hplaces : assigned (sorted.map fun s => (s.1, cs s.2))
      = sorted.map fun s => (s.1, cs s.2) := by
    have hfilter : (sorted.map fun s => (s.1, cs s.2)).filter (fun f => f.1 ≠ "__proto__")
        = (sorted.filter fun s => s.1 ≠ "__proto__").map fun s => (s.1, cs s.2) := by
      rw [List.filter_map]
      rfl
    rw [assigned, hfilter, insertionSort_slots propertyLe _ cs]
    exact congrArg (List.map fun s => (s.1, cs s.2)) hassigned
  rw [walk, hfields, hkeys, collect_ok_map Prod.fst (fun s : String × Nat => cs s.2) sorted]
  exact congrArg (fun fs => Except.ok (Canonical.obj fs)) hplaces

end ContextLock.Js
