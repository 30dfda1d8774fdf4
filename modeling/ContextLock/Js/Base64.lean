/-
  Subject:   `base64url` texts of byte buffers, and buffers read as UTF-8.

  Reading is lenient, as the buffers of the platform are: characters outside the two alphabets
  are skipped, `=` ends the text, and bytes that are no UTF-8 are read as U+FFFD.
-/
import ContextLock.Js.Digest

namespace ContextLock.Js

open Evm

/-! ## 1. base64url -/

/-- One digit of `base64url`. -/
def base64Digit (n : Nat) : Char :=
  "ABCDEFGHIJKLMNOPQRSTUVWXYZabcdefghijklmnopqrstuvwxyz0123456789-_".toList.getD n 'A'

/-- The value of a digit of `base64` or of `base64url`. -/
def base64Value (c : Char) : Option Nat :=
  if 'A' ≤ c ∧ c ≤ 'Z' then some (c.toNat - 65)
  else if 'a' ≤ c ∧ c ≤ 'z' then some (c.toNat - 71)
  else if '0' ≤ c ∧ c ≤ '9' then some (c.toNat + 4)
  else if c = '-' ∨ c = '+' then some 62
  else if c = '_' ∨ c = '/' then some 63
  else none

/-- Three bytes in four digits. -/
def sextets : Bytes → List Nat
  | a :: b :: c :: t =>
    [a.toNat / 4, a.toNat % 4 * 16 + b.toNat / 16, b.toNat % 16 * 4 + c.toNat / 64, c.toNat % 64]
      ++ sextets t
  | [a, b] => [a.toNat / 4, a.toNat % 4 * 16 + b.toNat / 16, b.toNat % 16 * 4]
  | [a] => [a.toNat / 4, a.toNat % 4 * 16]
  | [] => []

/-- Four digits in three bytes; a single digit at the end is dropped. -/
def octets : List Nat → Bytes
  | a :: b :: c :: d :: t =>
    [UInt8.ofNat (a * 4 + b / 16), UInt8.ofNat (b % 16 * 16 + c / 4), UInt8.ofNat (c % 4 * 64 + d)]
      ++ octets t
  | [a, b, c] => [UInt8.ofNat (a * 4 + b / 16), UInt8.ofNat (b % 16 * 16 + c / 4)]
  | [a, b] => [UInt8.ofNat (a * 4 + b / 16)]
  | _ => []

/-- `buffer.toString("base64url")`. -/
def b64u (bs : Bytes) : String := String.ofList ((sextets bs).map base64Digit)

/-- `Buffer.from(s, "base64url")`. -/
def unb64u (s : String) : Bytes := octets ((s.toList.takeWhile (· ≠ '=')).filterMap base64Value)

theorem sextets_lt (bs : Bytes) : ∀ n ∈ sextets bs, n < 64 := by
  induction bs using sextets.induct with
  | case1 a b c t ih =>
    have ha := a.toNat_lt
    have hb := b.toNat_lt
    have hc := c.toNat_lt
    intro n hn
    simp only [sextets, List.cons_append, List.nil_append, List.mem_cons] at hn
    rcases hn with rfl | rfl | rfl | rfl | hn
    · omega
    · omega
    · omega
    · omega
    · exact ih n hn
  | case2 a b =>
    have ha := a.toNat_lt
    have hb := b.toNat_lt
    intro n hn
    simp only [sextets, List.mem_cons, List.not_mem_nil, or_false] at hn
    rcases hn with rfl | rfl | rfl <;> omega
  | case3 a =>
    have ha := a.toNat_lt
    intro n hn
    simp only [sextets, List.mem_cons, List.not_mem_nil, or_false] at hn
    rcases hn with rfl | rfl <;> omega
  | case4 =>
    intro n hn
    cases hn

theorem ofNat_eq_of_toNat {n : Nat} {b : UInt8} (h : n = b.toNat) : UInt8.ofNat n = b := by
  rw [h, UInt8.ofNat_toNat]

theorem octets_sextets (bs : Bytes) : octets (sextets bs) = bs := by
  induction bs using sextets.induct with
  | case1 a b c t ih =>
    have ha := a.toNat_lt
    have hb := b.toNat_lt
    have hc := c.toNat_lt
    simp only [sextets, List.cons_append, List.nil_append, octets, ih]
    rw [ofNat_eq_of_toNat (b := a) (by omega), ofNat_eq_of_toNat (b := b) (by omega),
      ofNat_eq_of_toNat (b := c) (by omega)]
  | case2 a b =>
    have ha := a.toNat_lt
    have hb := b.toNat_lt
    simp only [sextets, octets]
    rw [ofNat_eq_of_toNat (b := a) (by omega), ofNat_eq_of_toNat (b := b) (by omega)]
  | case3 a =>
    have ha := a.toNat_lt
    simp only [sextets, octets]
    rw [ofNat_eq_of_toNat (b := a) (by omega)]
  | case4 => rfl

theorem base64Digit_facts {n : Nat} (h : n < 64) :
    base64Value (base64Digit n) = some n ∧ base64Digit n ≠ '=' ∧ base64Digit n ≠ '.' := by
  have hall : ∀ n < 64, base64Value (base64Digit n) = some n ∧ base64Digit n ≠ '=' ∧
      base64Digit n ≠ '.' := by decide +kernel
  exact hall n h

/-- **Bytes written in `base64url` are read back.** -/
@[simp] theorem unb64u_b64u (bs : Bytes) : unb64u (b64u bs) = bs := by
  have hall := sextets_lt bs
  unfold unb64u b64u
  rw [String.toList_ofList, List.takeWhile_eq_self_iff.mpr]
  · have hvalues : ((sextets bs).map base64Digit).filterMap base64Value = sextets bs := by
      rw [List.filterMap_map]
      refine (List.filterMap_congr (g := some) fun n hn => ?_).trans List.filterMap_some
      exact (base64Digit_facts (hall n hn)).1
    rw [hvalues, octets_sextets]
  · intro c hc
    obtain ⟨n, hn, rfl⟩ := List.mem_map.mp hc
    exact decide_eq_true (base64Digit_facts (hall n hn)).2.1

theorem point_not_mem_b64u (bs : Bytes) : '.' ∉ (b64u bs).toList := by
  unfold b64u
  rw [String.toList_ofList]
  intro hmem
  obtain ⟨n, hn, hdot⟩ := List.mem_map.mp hmem
  exact (base64Digit_facts (sextets_lt bs n hn)).2.2 hdot

/-! ## 2. UTF-8 -/

def replacement : Char := Char.ofNat 0xfffd

/-- The bytes of a character after its first: `count` of them, the next between `low` and
    `high`. A byte that does not belong there is read again. -/
def readTail : Nat → Nat → Nat → Nat → Bytes → Char × Bytes
  | 0, _, _, code, t => (Char.ofNat code, t)
  | _ + 1, _, _, _, [] => (replacement, [])
  | count + 1, low, high, code, b :: t =>
    if low ≤ b.toNat ∧ b.toNat ≤ high then
      readTail count 0x80 0xbf (code * 64 + b.toNat % 64) t
    else (replacement, b :: t)

/-- The next character. -/
def readChar8 (b : Nat) (t : Bytes) : Char × Bytes :=
  if b < 0x80 then (Char.ofNat b, t)
  else if 0xc2 ≤ b ∧ b ≤ 0xdf then readTail 1 0x80 0xbf (b % 0x20) t
  else if 0xe0 ≤ b ∧ b ≤ 0xef then
    readTail 2 (if b = 0xe0 then 0xa0 else 0x80) (if b = 0xed then 0x9f else 0xbf) (b % 0x10) t
  else if 0xf0 ≤ b ∧ b ≤ 0xf4 then
    readTail 3 (if b = 0xf0 then 0x90 else 0x80) (if b = 0xf4 then 0x8f else 0xbf) (b % 8) t
  else (replacement, t)

def utf8Chars : Nat → Bytes → List Char
  | 0, _ => []
  | _ + 1, [] => []
  | n + 1, b :: t => (readChar8 b.toNat t).1 :: utf8Chars n (readChar8 b.toNat t).2

/-- `buffer.toString("utf8")`. -/
def utf8Text (bs : Bytes) : String := String.ofList (utf8Chars bs.length bs)

theorem toNat_byte {n : Nat} (h : n < 256) : (UInt8.ofNat n).toNat = n := by
  rw [UInt8.toNat_ofNat', Nat.mod_eq_of_lt h]

theorem readTail_cons {count low high code b : Nat} (hlow : low ≤ b) (hhigh : b ≤ high)
    (hb : b < 256) (t : Bytes) :
    readTail (count + 1) low high code (UInt8.ofNat b :: t)
      = readTail count 0x80 0xbf (code * 64 + b % 64) t := by
  rw [readTail, toNat_byte hb, if_pos ⟨hlow, hhigh⟩]

theorem readChar8_utf8EncodeChar (c : Char) (t : Bytes) :
    ∃ b bs, String.utf8EncodeChar c = b :: bs ∧ readChar8 b.toNat (bs ++ t) = (c, t) := by
  have hvalid : c.toNat < 0xd800 ∨ 0xdfff < c.toNat ∧ c.toNat < 0x110000 := c.valid
  have hc : Char.ofNat c.toNat = c := Char.ofNat_toNat c
  have hv : c.val.toNat = c.toNat := rfl
  unfold String.utf8EncodeChar
  simp only [hv]
  generalize c.toNat = v at hvalid hc ⊢
  by_cases h1 : v ≤ 0x7f
  · refine ⟨_, [], by rw [if_pos h1], ?_⟩
    rw [toNat_byte (by omega), readChar8, if_pos (by omega), List.nil_append, hc]
  by_cases h2 : v ≤ 0x7ff
  · refine ⟨_, [_], by rw [if_neg h1, if_pos h2], ?_⟩
    have hcode : (v / 64 % 0x20 + 0xc0) % 0x20 * 64 + (v % 0x40 + 0x80) % 64 = v := by omega
    rw [toNat_byte (by omega), readChar8, if_neg (by omega), if_pos (by omega), List.cons_append,
      List.nil_append, readTail_cons (by omega) (by omega) (by omega), readTail, hcode, hc]
  by_cases h3 : v ≤ 0xffff
  · refine ⟨_, [_, _], by rw [if_neg h1, if_neg h2, if_pos h3], ?_⟩
    have hcode : ((v / 4096 % 0x10 + 0xe0) % 0x10 * 64 + (v / 64 % 0x40 + 0x80) % 64) * 64
        + (v % 0x40 + 0x80) % 64 = v := by omega
    rw [toNat_byte (by omega), readChar8, if_neg (by omega), if_neg (by omega),
      if_pos (by omega), List.cons_append, List.cons_append, List.nil_append,
      readTail_cons (by split_ifs <;> omega) (by split_ifs <;> omega) (by omega),
      readTail_cons (by omega) (by omega) (by omega), readTail, hcode, hc]
  · refine ⟨_, [_, _, _], by rw [if_neg h1, if_neg h2, if_neg h3], ?_⟩
    have hcode : (((v / 262144 % 0x08 + 0xf0) % 8 * 64 + (v / 4096 % 0x40 + 0x80) % 64) * 64
        + (v / 64 % 0x40 + 0x80) % 64) * 64 + (v % 0x40 + 0x80) % 64 = v := by omega
    rw [toNat_byte (by omega), readChar8, if_neg (by omega), if_neg (by omega),
      if_neg (by omega), if_pos (by omega), List.cons_append, List.cons_append, List.cons_append,
      List.nil_append,
      readTail_cons (by split_ifs <;> omega) (by split_ifs <;> omega) (by omega),
      readTail_cons (by omega) (by omega) (by omega),
      readTail_cons (by omega) (by omega) (by omega), readTail, hcode, hc]

theorem utf8Chars_encode (cs : List Char) {n : Nat}
    (hn : (cs.flatMap String.utf8EncodeChar).length ≤ n) :
    utf8Chars n (cs.flatMap String.utf8EncodeChar) = cs := by
  induction cs generalizing n with
  | nil => cases n <;> rfl
  | cons c cs ih =>
    obtain ⟨b, bs, hbytes, hread⟩ :=
      readChar8_utf8EncodeChar c (cs.flatMap String.utf8EncodeChar)
    rw [List.flatMap_cons, hbytes, List.cons_append, List.length_cons, List.length_append] at hn
    obtain ⟨m, rfl⟩ : ∃ m, n = m + 1 := ⟨n - 1, by omega⟩
    rw [List.flatMap_cons, hbytes, List.cons_append, utf8Chars, hread, ih (by omega)]

@[simp] theorem utf8Text_textBytes (s : String) : utf8Text (textBytes s) = s := by
  have hbytes := textBytes_ofList s.toList
  rw [String.ofList_toList] at hbytes
  rw [utf8Text, hbytes, utf8Chars_encode s.toList le_rfl, String.ofList_toList]

end ContextLock.Js
