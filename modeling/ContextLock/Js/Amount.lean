/-
  Subject:   Amounts and addresses as texts: decimal digits, checksummed and lower-case spellings.
-/
import ContextLock.Js.Buffer
import ContextLock.Js.Numeral

namespace ContextLock.Js

/-! ## 1. Decimal amounts -/

/-- `/^\d+$/`. -/
def isDecimal (s : String) : Bool := s ≠ "" && s.toList.all Char.isDigit

/-- `BigInt(s)` of a text of digits. -/
def decimalValue (s : String) : Nat := Nat.ofDigitChars 10 s.toList 0

theorem isDecimal_toString (n : Nat) : isDecimal (toString n) = true := by
  have hne : toString n ≠ "" := Nat.repr_ne_empty
  have hall : (toString n).toList.all Char.isDigit = true := by
    rw [Nat.toString_eq_repr, Nat.toList_repr, List.all_eq_true]
    exact fun c hc => Nat.isDigit_of_mem_toDigits (by decide) (by decide) hc
  simp only [isDecimal, hall, Bool.and_true, decide_eq_true hne]

@[simp] theorem decimalValue_toString (n : Nat) : decimalValue (toString n) = n := by
  rw [decimalValue, Nat.toString_eq_repr, Nat.toList_repr, Nat.ofDigitChars_ten_toDigits]

theorem toString_nat_inj {m n : Nat} (h : toString m = toString n) : m = n := by
  rw [← decimalValue_toString m, h, decimalValue_toString]

theorem digitChar_of_isDigit {c : Char} (h : c.isDigit) :
    (c.toNat - 48).digitChar = c ∧ c.toNat - 48 < 10 := by
  simp only [Char.isDigit, Bool.and_eq_true, decide_eq_true_eq, ge_iff_le, UInt32.le_iff_toNat_le] at h
  have hlow : 48 ≤ c.toNat := h.1
  have hhigh : c.toNat ≤ 57 := h.2
  have hall : ∀ k < 10, (Char.ofNat (48 + k)).toNat - 48 = k ∧
      k.digitChar = Char.ofNat (48 + k) := by decide
  have hk : c.toNat - 48 < 10 := by omega
  have hc : Char.ofNat (48 + (c.toNat - 48)) = c := by
    rw [Nat.add_sub_cancel' hlow, Char.ofNat_toNat]
  exact ⟨by rw [(hall _ hk).2, hc], hk⟩

/-- **Digits without a leading zero are the digits of their value.** -/
theorem toDigits_ofDigitChars {cs : List Char} (hne : cs ≠ []) (hdigits : ∀ c ∈ cs, c.isDigit)
    (hlead : cs = ['0'] ∨ cs.head? ≠ some '0') :
    Nat.toDigits 10 (Nat.ofDigitChars 10 cs 0) = cs := by
  induction cs using List.reverseRecOn with
  | nil => exact absurd rfl hne
  | append_singleton cs c ih =>
    obtain ⟨hc, hlt⟩ := digitChar_of_isDigit (hdigits c (by simp))
    have hval : Nat.ofDigitChars 10 (cs ++ [c]) 0 =
        10 * Nat.ofDigitChars 10 cs 0 + (c.toNat - 48) := by
      rw [Nat.ofDigitChars_append, Nat.ofDigitChars_cons, Nat.ofDigitChars_nil]
      rfl
    rw [hval]
    cases cs with
    | nil =>
      rw [Nat.ofDigitChars_nil, Nat.mul_zero, Nat.zero_add, Nat.toDigits_of_lt_base hlt, hc,
        List.nil_append]
    | cons d ds =>
      -- The first digit is not zero, so the digits before the last have a positive value.
      have hhead : (d :: ds).head? ≠ some '0' := by
        rcases hlead with hlead | hlead
        · simp at hlead
        · simpa using hlead
      have hrec := ih (by simp) (fun x hx => hdigits x (List.mem_append_left _ hx)) (Or.inr hhead)
      have hpos : 0 < Nat.ofDigitChars 10 (d :: ds) 0 := by
        refine Nat.pos_of_ne_zero fun hzero => hhead ?_
        rw [hzero, Nat.toDigits_zero] at hrec
        rw [← hrec, List.head?_cons]
      rw [← Nat.toDigits_append_toDigits (by decide) hpos hlt, hrec, Nat.toDigits_of_lt_base hlt,
        hc]

theorem head_toDigits_ne_zero {n : Nat} (h : 0 < n) : (Nat.toDigits 10 n).head? ≠ some '0' := by
  induction n using Nat.strongRecOn with
  | ind n ih =>
    by_cases hlt : n < 10
    · rw [Nat.toDigits_of_lt_base hlt, List.head?_cons]
      intro hzero
      rw [Option.some.injEq, Nat.digitChar_eq_zero] at hzero
      omega
    · have hrec := ih (n / 10) (by omega) (by omega)
      rw [Nat.toDigits_of_base_le (by decide) (by omega), List.head?_append_of_ne_nil]
      · exact hrec
      · exact Nat.toDigits_ne_nil

/-- **Digits are the text of their value iff they have no leading zero.** -/
theorem toString_decimalValue_iff {s : String} (h : isDecimal s = true) :
    toString (decimalValue s) = s ↔ s = "0" ∨ s.toList.head? ≠ some '0' := by
  simp only [isDecimal, Bool.and_eq_true, decide_eq_true_eq, List.all_eq_true] at h
  obtain ⟨hne, hdigits⟩ := h
  have hlist : s.toList ≠ [] := fun hnil => hne (by
    rw [← String.ofList_toList (s := s), hnil])
  constructor
  · intro htext
    rcases Nat.eq_zero_or_pos (decimalValue s) with hzero | hpos
    · left
      rw [← htext, hzero]
      rfl
    · right
      intro hhead
      have hdig : s.toList = Nat.toDigits 10 (decimalValue s) := by
        rw [← Nat.toList_repr, ← Nat.toString_eq_repr, htext]
      rw [hdig] at hhead
      exact head_toDigits_ne_zero hpos hhead
  · intro hlead
    have hcs : s.toList = ['0'] ∨ s.toList.head? ≠ some '0' :=
      hlead.imp (fun h0 => by rw [h0]; rfl) id
    rw [Nat.toString_eq_repr, Nat.repr_eq_ofList_toDigits, decimalValue,
      toDigits_ofDigitChars hlist hdigits hcs, String.ofList_toList]

/-! ## 2. Addresses -/

/-- The address a text of `0x` and 40 digits spells. -/
def addressOf (s : String) : Option Evm.Address := (hexValue 20 s).map (BitVec.ofNat 160)

theorem isAddress_iff (s : String) : isAddress s = true ↔ ∃ a, addressOf s = some a := by
  unfold isAddress addressOf
  cases hexValue 20 s with
  | none => simp
  | some v => simp

theorem toLower_hexDigit (n : Nat) :
    (hexDigit n).toLower = hexDigit n ∧ (hexDigit n).toUpper.toLower = hexDigit n := by
  by_cases h : n < 16
  · have hall : ∀ n < 16, (hexDigit n).toLower = hexDigit n ∧
        (hexDigit n).toUpper.toLower = hexDigit n := by decide
    exact hall n h
  · have hzero : hexDigit n = '0' := by
      unfold hexDigit
      exact List.getD_eq_default _ _ (by simpa using h)
    rw [hzero]
    decide

theorem mem_hexDigits {k n : Nat} {c : Char} (h : c ∈ hexDigits k n) : ∃ m, c = hexDigit m := by
  induction k generalizing n with
  | zero => simp [hexDigits] at h
  | succ k ih =>
    rw [hexDigits, List.mem_append, List.mem_singleton] at h
    rcases h with h | h
    · exact ih h
    · exact ⟨_, h⟩

theorem map_toLower_zipWith (p : Char → Bool) {cs hs : List Char} (hlen : cs.length ≤ hs.length)
    (hcs : ∀ c ∈ cs, ∃ m, c = hexDigit m) :
    (cs.zipWith (fun c h => if p h then c.toUpper else c) hs).map Char.toLower = cs := by
  induction cs generalizing hs with
  | nil => simp
  | cons c cs ih =>
    cases hs with
    | nil => simp at hlen
    | cons h hs =>
      obtain ⟨m, rfl⟩ := hcs c (by simp)
      have htail := @ih hs (by simpa using hlen) fun c hc => hcs c (by simp [hc])
      rw [List.zipWith_cons_cons, List.map_cons, htail]
      cases p h with
      | false => rw [if_neg (by decide), (toLower_hexDigit m).1]
      | true => rw [if_pos rfl, (toLower_hexDigit m).2]

theorem toLowerCase_getAddress (a : Evm.Address) :
    toLowerCase (getAddress a) = hexText 20 a.toNat := by
  have hdigits : ∀ c ∈ hexDigits 40 a.toNat, ∃ m, c = hexDigit m := fun c hc => mem_hexDigits hc
  have hlen : ∀ v, (hexDigits 40 a.toNat).length ≤ (hexDigits 64 v).length := by
    intro v
    rw [length_hexDigits, length_hexDigits]
    omega
  have hmark : String.ofList ("0x".toList.map Char.toLower) = "0x" := by decide
  unfold toLowerCase getAddress hexText
  simp only [String.toList_append, String.toList_ofList, List.map_append, String.ofList_append,
    hmark]
  rw [map_toLower_zipWith _ (hlen _) hdigits]

theorem toList_hexText (n v : Nat) :
    (hexText n v).toList = '0' :: 'x' :: hexDigits (2 * n) v := by
  simp [hexText]

theorem hexText_inj {n a b : Nat} (ha : a < 16 ^ (2 * n)) (hb : b < 16 ^ (2 * n))
    (h : hexText n a = hexText n b) : a = b := by
  have hlists := congrArg String.toList h
  rw [toList_hexText, toList_hexText] at hlists
  exact hexDigits_inj ha hb (List.cons.inj (List.cons.inj hlists).2).2

/-! ## 3. Digits read back -/

theorem toLower_of_digitValue {c : Char} {d : Nat} (h : digitValue c = some d) :
    c.toLower = hexDigit d ∧ d < 16 := by
  have hall : ∀ k < 128, ∀ d < 100, digitValue (Char.ofNat k) = some d →
      (Char.ofNat k).toLower = hexDigit d ∧ d < 16 := by decide +kernel
  have hbound : c.toNat < 128 ∧ d < 100 := by
    unfold digitValue at h
    split at h
    · rename_i hc
      have h1 : c.toNat ≤ 57 := hc.2
      rw [Option.some.injEq] at h
      omega
    · split at h
      · rename_i hc
        have h1 : c.toNat ≤ 102 := hc.2
        rw [Option.some.injEq] at h
        omega
      · split at h
        · rename_i hc
          have h1 : c.toNat ≤ 70 := hc.2
          rw [Option.some.injEq] at h
          omega
        · cases h
  have hc : Char.ofNat c.toNat = c := Char.ofNat_toNat c
  have hval := hall c.toNat hbound.1 d hbound.2
  rw [hc] at hval
  exact hval h

theorem digitsValue_concat (cs : List Char) (c : Char) :
    digitsValue (cs ++ [c]) =
      (digitsValue cs).bind fun n => (digitValue c).map (16 * n + ·) := by
  unfold digitsValue
  rw [List.foldlM_append]
  cases List.foldlM (fun n c => Option.map (16 * n + ·) (digitValue c)) 0 cs with
  | none => rfl
  | some n => simp

theorem map_toLower_of_digitsValue {cs : List Char} {v : Nat} (h : digitsValue cs = some v) :
    cs.map Char.toLower = hexDigits cs.length v ∧ v < 16 ^ cs.length := by
  induction cs using List.reverseRecOn generalizing v with
  | nil =>
    have hv : v = 0 := by
      simp only [digitsValue, List.foldlM_nil, Option.pure_def, Option.some.injEq] at h
      exact h.symm
    simp [hv, hexDigits]
  | append_singleton cs c ih =>
    rw [digitsValue_concat] at h
    obtain ⟨n, hn, hmap⟩ := Option.bind_eq_some_iff.mp h
    obtain ⟨d, hd, rfl⟩ := Option.map_eq_some_iff.mp hmap
    obtain ⟨hlower, hlt⟩ := toLower_of_digitValue hd
    obtain ⟨hinit, hbound⟩ := ih hn
    have hdiv : (16 * n + d) / 16 = n := by omega
    have hmod : (16 * n + d) % 16 = d := by omega
    rw [List.map_append, List.length_append, List.length_singleton, hexDigits, hdiv, hmod, hinit,
      List.map_singleton, hlower, Nat.pow_succ]
    exact ⟨rfl, by omega⟩

theorem digitsValue_hexDigits (k n : Nat) : digitsValue (hexDigits k n) = some (n % 16 ^ k) := by
  induction k generalizing n with
  | zero => simp [hexDigits, digitsValue, Nat.mod_one]
  | succ k ih =>
    have hsplit : 16 * (n / 16 % 16 ^ k) + n % 16 = n % 16 ^ (k + 1) := by
      rw [Nat.pow_succ', Nat.mod_mul, Nat.add_comm]
    rw [hexDigits, digitsValue_concat, ih, digitValue_hexDigit (by omega), Option.bind_some,
      Option.map_some, hsplit]

theorem hexDigits_add (j k n : Nat) :
    hexDigits (j + k) n = hexDigits j (n / 16 ^ k) ++ hexDigits k n := by
  induction k generalizing n with
  | zero => simp [hexDigits]
  | succ k ih =>
    rw [← Nat.add_assoc, hexDigits, ih, hexDigits, List.append_assoc, Nat.div_div_eq_div_mul,
      Nat.pow_succ']

theorem hexValue_hexText {n v : Nat} (h : v < 16 ^ (2 * n)) :
    hexValue n (hexText n v) = some v := by
  unfold hexValue
  rw [toList_hexText]
  simp only [length_hexDigits, if_true, digitsValue_hexDigits, Nat.mod_eq_of_lt h]

theorem addressOf_hexText (a : Evm.Address) : addressOf (hexText 20 a.toNat) = some a := by
  rw [addressOf, hexValue_hexText a.isLt, Option.map_some, BitVec.ofNat_toNat, BitVec.setWidth_eq]

/-- **What spells an address is, in lower case, its text.** -/
theorem toLowerCase_of_addressOf {s : String} {a : Evm.Address} (h : addressOf s = some a) :
    toLowerCase s = hexText 20 a.toNat := by
  obtain ⟨v, hv, rfl⟩ := Option.map_eq_some_iff.mp h
  unfold hexValue at hv
  split at hv
  · rename_i cs hcs
    split at hv
    · rename_i hlen
      obtain ⟨hlower, hlt⟩ := map_toLower_of_digitsValue hv
      rw [hlen] at hlower hlt
      have hval : (BitVec.ofNat 160 v).toNat = v := by
        rw [BitVec.toNat_ofNat]
        exact Nat.mod_eq_of_lt hlt
      have hhead : '0'.toLower = '0' ∧ 'x'.toLower = 'x' := by decide
      rw [← String.toList_inj, toList_hexText, hval, toLowerCase, String.toList_ofList, hcs,
        List.map_cons, List.map_cons, hlower, hhead.1, hhead.2]
    · cases hv
  · cases hv

/-! ## 4. Byte strings -/

theorem beBytes_add (j k n : Nat) :
    Evm.beBytes (j + k) n = Evm.beBytes j (n / 256 ^ k) ++ Evm.beBytes k n := by
  induction k generalizing n with
  | zero => simp [Evm.beBytes]
  | succ k ih =>
    rw [← Nat.add_assoc, Evm.beBytes, ih, Evm.beBytes, List.append_assoc, Nat.div_div_eq_div_mul,
      Nat.pow_succ']

theorem beBytes_zero (j : Nat) : Evm.beBytes j 0 = List.replicate j 0 := by
  induction j with
  | zero => rfl
  | succ j ih =>
    rw [Evm.beBytes, Nat.zero_div, ih, List.replicate_succ']
    rfl

theorem beBytes_beNat (bs : Evm.Bytes) : Evm.beBytes bs.length (Evm.beNat bs) = bs := by
  induction bs using List.reverseRecOn with
  | nil => rfl
  | append_singleton bs b ih =>
    have hlt : b.toNat < 256 := b.toNat_lt
    have hdiv : (Evm.beNat bs * 256 + b.toNat) / 256 = Evm.beNat bs := by omega
    have hlast : UInt8.ofNat (Evm.beNat bs * 256 + b.toNat) = b := by
      apply UInt8.toNat_inj.mp
      rw [UInt8.toNat_ofNat']
      omega
    rw [Evm.beNat_concat, List.length_append, List.length_singleton, Evm.beBytes, hdiv, ih, hlast]

/-- **Bytes with zeros in front are the encoding of what follows them.** -/
theorem eq_beBytes_of_zeros {j k : Nat} {bs : Evm.Bytes} (hlen : bs.length = j + k)
    (hzeros : bs.take j = List.replicate j 0) :
    ∃ v, v < 256 ^ k ∧ bs = Evm.beBytes (j + k) v := by
  have hlow : (bs.drop j).length = k := by rw [List.length_drop, hlen, Nat.add_sub_cancel_left]
  have hread := beBytes_beNat (bs.drop j)
  rw [hlow] at hread
  have hval := Evm.beNat_beBytes k (Evm.beNat (bs.drop j))
  rw [hread] at hval
  have hlt : Evm.beNat (bs.drop j) < 256 ^ k := by
    rw [hval]
    exact Nat.mod_lt _ (Nat.pow_pos (by decide))
  refine ⟨_, hlt, ?_⟩
  rw [beBytes_add, Nat.div_eq_of_lt hlt, beBytes_zero, hread, ← hzeros, List.take_append_drop]

theorem hexOf_beBytes (k n : Nat) :
    hexOf (Evm.beBytes k n) = String.ofList (hexDigits (2 * k) n) := by
  unfold hexOf
  congr 1
  induction k generalizing n with
  | zero => rfl
  | succ k ih =>
    have hbyte : (UInt8.ofNat n).toNat = n % 256 := UInt8.toNat_ofNat'
    have hhigh : n % 256 / 16 % 16 = n / 16 % 16 := by omega
    have hlow : n % 256 % 16 = n % 16 := by omega
    have hdiv : n / 16 / 16 = n / 256 := by omega
    have hlast : hexDigits 2 (UInt8.ofNat n).toNat = [hexDigit (n / 16 % 16), hexDigit (n % 16)] := by
      rw [hbyte]
      simp only [hexDigits, List.nil_append, List.singleton_append, hhigh, hlow]
    have hdigits : hexDigits (2 * (k + 1)) n =
        hexDigits (2 * k) (n / 256) ++ [hexDigit (n / 16 % 16), hexDigit (n % 16)] := by
      rw [Nat.mul_succ, hexDigits, hexDigits, hdiv, List.append_assoc, List.singleton_append]
    rw [Evm.beBytes, List.flatMap_append, ih, hdigits, List.flatMap_singleton, hlast]

end ContextLock.Js
