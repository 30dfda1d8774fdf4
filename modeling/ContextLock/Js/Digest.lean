/-
  Subject:   The digest of a text: its form, and its value from the characters of the text.
-/
import ContextLock.Js.Numeral
import ContextLock.Js.Schema

namespace ContextLock.Js

/-! ## 1. The form of a digest -/

namespace Sha256

theorem length_round {s : List Nat} (h : s.length = 8) (kw : Nat × Nat) : (round s kw).length = 8 := by
  unfold round
  split
  · rfl
  · exact h

theorem length_rounds {s : List Nat} (h : s.length = 8) (kws : List (Nat × Nat)) :
    (kws.foldl round s).length = 8 := by
  induction kws generalizing s with
  | nil => exact h
  | cons kw kws ih => exact ih (length_round h kw)

theorem length_compress {h : List Nat} (hlength : h.length = 8) (block : Evm.Bytes) :
    (compress h block).length = 8 := by
  rw [compress, List.length_zipWith, length_rounds hlength, hlength, Nat.min_self]

theorem length_chain {h : List Nat} (hlength : h.length = 8) (bs : List Evm.Bytes) :
    (bs.foldl compress h).length = 8 := by
  induction bs generalizing h with
  | nil => exact hlength
  | cons b bs ih => exact ih (length_compress hlength b)

end Sha256

/-- `/[0-9a-f]/`. -/
def LowerHexDigit (c : Char) : Prop := ('0' ≤ c ∧ c ≤ '9') ∨ ('a' ≤ c ∧ c ≤ 'f')

theorem lowerHexDigit_hexDigit {d : Nat} (h : d < 16) : LowerHexDigit (hexDigit d) := by
  unfold LowerHexDigit
  interval_cases d <;> decide

theorem lowerHexDigit_of_mem {k n : Nat} : ∀ c ∈ hexDigits k n, LowerHexDigit c := by
  induction k generalizing n with
  | zero => simp [hexDigits]
  | succ k ih =>
    intro c hc
    have hlast : LowerHexDigit (hexDigit (n % 16)) :=
      lowerHexDigit_hexDigit (Nat.mod_lt n (by decide))
    rcases List.mem_append.mp hc with hinit | heq
    · exact ih c hinit
    · rwa [List.mem_singleton.mp heq]

theorem lowerHex_sha256Hex (s : String) : lowerHex 64 (sha256Hex s).toList = true := by
  unfold sha256Hex lowerHex
  rw [String.toList_ofList, Bool.and_eq_true, decide_eq_true_iff, List.all_eq_true]
  constructor
  · rw [List.length_flatMap]
    simp only [length_hexDigits, List.map_const', List.sum_replicate, smul_eq_mul]
    rw [Sha256.length_chain rfl]
  · intro c hc
    obtain ⟨word, _, hword⟩ := List.mem_flatMap.mp hc
    exact decide_eq_true (lowerHexDigit_of_mem c hword)

theorem digestText_sha256Hex (s : String) :
    digestText ("sha256:" ++ sha256Hex s) = .ok ("sha256:" ++ sha256Hex s) := by
  have hhead : "sha256:".toList.length = 7 := rfl
  unfold digestText
  rw [String.toList_append, ← hhead, List.take_left, List.drop_left, lowerHex_sha256Hex]
  exact if_pos ⟨rfl, rfl⟩

/-! ## 2. The digest of given characters -/

theorem textBytes_ofList (cs : List Char) :
    Evm.textBytes (String.ofList cs) = cs.flatMap String.utf8EncodeChar := by
  rw [Evm.textBytes, Evm.toList_eq_data]
  show (String.ofList cs).toByteArray.data.toList = _
  rw [String.toByteArray_ofList, List.utf8Encode, List.data_toByteArray]

/-- The digest of the text of these characters. -/
def sha256Chars (cs : List Char) : String :=
  let m := Sha256.pad (cs.flatMap String.utf8EncodeChar)
  String.ofList (((Sha256.blocks (m.length / 64) m).foldl Sha256.compress
    Sha256.initial).flatMap (hexDigits 8))

theorem sha256Hex_ofList (cs : List Char) : sha256Hex (String.ofList cs) = sha256Chars cs := by
  unfold sha256Hex sha256Chars
  rw [textBytes_ofList]

end ContextLock.Js
