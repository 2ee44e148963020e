import HttpDigest.Nonce
import Mathlib.Tactic.Common

namespace HttpDigest

theorem Text.exists_of_mem_hexDigits {width n : Nat} {c : Char} (h : c ∈ hexDigits width n) :
    ∃ k : Fin 16, c = hexDigit k.val := by
  induction width generalizing n with
  | zero => cases h
  | succ width ih =>
      rw [hexDigits, List.mem_append, List.mem_singleton] at h
      rcases h with h | rfl
      · exact ih h
      · exact ⟨⟨n % 16, Nat.mod_lt n (by decide)⟩, rfl⟩

theorem Md5.not_mem_hex {c : Char} (hc : ∀ k : Fin 16, c ≠ Text.hexDigit k.val) (text : String) :
    c ∉ (hex text).toList := by
  intro h
  rw [hex, hexOfBytes, Text.hexOfBytes, String.toList_ofList, List.mem_flatMap] at h
  obtain ⟨b, -, hb⟩ := h
  obtain ⟨k, hk⟩ := Text.exists_of_mem_hexDigits hb
  exact hc k hk

namespace Nonce

theorem isDigit_of_mem_toDigits {n : Nat} {c : Char} (h : c ∈ Nat.toDigits 10 n) :
    isDigit c = true := by
  have hd := Nat.isDigit_of_mem_toDigits (by decide) (by decide) h
  simpa [Char.isDigit, isDigit, Char.le_def] using hd

theorem ofDigits_eq_ofDigitChars (cs : List Char) :
    Text.Numeral.ofDigits (cs.map fun c => c.toNat - 48) = Nat.ofDigitChars 10 cs 0 := by
  rw [Text.Numeral.ofDigits, Nat.ofDigitChars_eq_foldl, List.foldl_map]
  rfl

theorem natural?_toDigits (n : Nat) : natural? (Nat.toDigits 10 n) = some n := by
  have hall : (Nat.toDigits 10 n).all isDigit = true :=
    List.all_eq_true.mpr fun c hc => isDigit_of_mem_toDigits hc
  have hne : (Nat.toDigits 10 n).isEmpty = false := by
    rw [List.isEmpty_eq_false_iff]
    exact Nat.toDigits_ne_nil
  rw [natural?, hall, hne, ofDigits_eq_ofDigitChars, Nat.ofDigitChars_ten_toDigits]
  rfl

theorem signed?_of_digits {cs : List Char} (h : cs.all isDigit = true) :
    signed? cs = (natural? cs).map Int.ofNat := by
  unfold signed?
  split
  · exact absurd (List.all_eq_true.mp h '-' List.mem_cons_self) (by decide)
  · exact absurd (List.all_eq_true.mp h '+' List.mem_cons_self) (by decide)
  · rfl

-- A numeral is digits, with a minus sign before those of a negative number
theorem toList_toString (e : Int) : (toString e).toList =
    (if 0 ≤ e then [] else ['-']) ++ Nat.toDigits 10 e.natAbs := by
  rw [Int.toString_eq_repr, Int.repr_eq_if]
  split
  · rename_i h
    rw [Nat.toList_repr, List.nil_append, show e.toNat = e.natAbs by omega]
  · rename_i h
    rw [String.toList_append, Nat.toList_repr, show (-e).toNat = e.natAbs by omega]
    rfl

theorem signed?_toString (e : Int) : signed? (toString e).toList = some e := by
  rw [toList_toString]
  split
  · rename_i h
    have hall : (Nat.toDigits 10 e.natAbs).all isDigit = true :=
      List.all_eq_true.mpr fun c hc => isDigit_of_mem_toDigits hc
    rw [List.nil_append, signed?_of_digits hall, natural?_toDigits, Option.map_some]
    exact congrArg some (by simp only [Int.ofNat_eq_natCast]; omega)
  · rename_i h
    rw [List.singleton_append, signed?, natural?_toDigits]
    show some (-(e.natAbs : Int)) = some e
    exact congrArg some (by omega)

theorem mem_toString {e : Int} {c : Char} (h : c ∈ (toString e).toList) :
    c = '-' ∨ isDigit c = true := by
  rw [toList_toString, List.mem_append] at h
  rcases h with h | h
  · split at h
    · cases h
    · exact .inl (List.mem_singleton.mp h)
  · exact .inr (isDigit_of_mem_toDigits h)

theorem not_mem_toString {e : Int} {c : Char} (hm : c ≠ '-') (hd : isDigit c = false) :
    c ∉ (toString e).toList := by
  intro h
  rcases mem_toString h with rfl | h
  · exact hm rfl
  · rw [hd] at h
    cases h

theorem length_digits_le {e : Int} (he : minExpiry ≤ e ∧ e ≤ maxExpiry) :
    (Nat.toDigits 10 e.natAbs).length ≤ 20 := by
  refine (Nat.length_toDigits_le_iff (by decide) (by decide)).mpr ?_
  unfold minExpiry maxExpiry at he
  omega

theorem dropFinalNewline_toString (e : Int) :
    dropFinalNewline (toString e).toList = (toString e).toList :=
  if_neg fun hl => not_mem_toString (by decide) (by decide) (List.mem_of_getLast? hl)

-- Every number of 64 bits is read back from its numeral, and no other
theorem expiry?_toString_eq (e : Int) :
    expiry? (toString e).toList = if minExpiry ≤ e ∧ e ≤ maxExpiry then some e else none := by
  by_cases hlength : (toString e).toList.length > maxExpiryLength
  · have hout : ¬(minExpiry ≤ e ∧ e ≤ maxExpiry) := by
      intro he
      have hdigits := length_digits_le he
      rw [toList_toString, List.length_append] at hlength
      unfold maxExpiryLength at hlength
      split at hlength <;> simp only [List.length_nil, List.length_singleton] at hlength <;> omega
    rw [expiry?, if_pos hlength, if_neg hout]
  · rw [expiry?, if_neg hlength, dropFinalNewline_toString, signed?_toString]

theorem expiry?_toString {e : Int} (he : minExpiry ≤ e ∧ e ≤ maxExpiry) :
    expiry? (toString e).toList = some e := by
  rw [expiry?_toString_eq, if_pos he]

end Nonce

end HttpDigest
