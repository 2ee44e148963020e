import HttpDigest.Proofs.TokenRoundTrip
import HttpDigest.Url

namespace HttpDigest.Url

def Unreserved (c : Char) : Prop :=
  c.isAlphanum = true ∨ c ∈ ['_', '.', '-', '~']

theorem isUnreserved_iff (b : UInt8) :
    isUnreserved b = true ↔ Unreserved (Char.ofNat b.toNat) := by
  simp [isUnreserved, Unreserved, or_assoc]

theorem isAlphanum_upperDigit {n : Nat} (h : n < 16) :
    (Text.hexDigit n).toUpper.isAlphanum = true := by
  have : ∀ k : Fin 16, (Text.hexDigit k.val).toUpper.isAlphanum = true := by decide
  exact this ⟨n, h⟩

theorem hexValue?_upperDigit {n : Nat} (h : n < 16) :
    Text.hexValue? (Text.hexDigit n).toUpper = some n := by
  have : ∀ k : Fin 16, Text.hexValue? (Text.hexDigit k.val).toUpper = some k.val := by decide
  exact this ⟨n, h⟩

theorem encodeByte_of_unreserved {b : UInt8} (h : isUnreserved b = true) :
    encodeByte [] b = [Char.ofNat b.toNat] := by
  rw [encodeByte, h, Bool.true_or, if_pos rfl]

theorem encodeByte_of_reserved {b : UInt8} (h : isUnreserved b = false) :
    encodeByte [] b = ['%', (Text.hexDigit (b.toNat / 16)).toUpper,
      (Text.hexDigit (b.toNat % 16)).toUpper] := by
  have hb := b.toNat_lt
  have hhigh : b.toNat / 16 % 16 = b.toNat / 16 := Nat.mod_eq_of_lt (by omega)
  rw [encodeByte, h]
  simp [Text.hexDigits, hhigh]

theorem unreserved_of_mem_encodeByte {b : UInt8} {c : Char} (h : c ∈ encodeByte [] b) :
    c = '%' ∨ Unreserved c := by
  have hb := b.toNat_lt
  cases hu : isUnreserved b with
  | true =>
      rw [encodeByte_of_unreserved hu] at h
      obtain rfl := List.mem_singleton.mp h
      exact .inr ((isUnreserved_iff b).mp hu)
  | false =>
      rw [encodeByte_of_reserved hu] at h
      simp only [List.mem_cons, List.not_mem_nil, or_false] at h
      rcases h with rfl | rfl | rfl
      · exact .inl rfl
      · exact .inr (.inl (isAlphanum_upperDigit (by omega)))
      · exact .inr (.inl (isAlphanum_upperDigit (by omega)))

theorem unreserved_of_mem_encodeSegment {s : String} {c : Char} (h : c ∈ encodeSegment s) :
    c = '%' ∨ Unreserved c := by
  obtain ⟨b, -, hc⟩ := List.mem_flatMap.mp h
  exact unreserved_of_mem_encodeByte hc

theorem utf8_of_unreserved {b : UInt8} (h : isUnreserved b = true) :
    Text.Utf8.encode [Char.ofNat b.toNat] = [b] := by
  have hall : ∀ n < 256, isUnreserved (UInt8.ofNat n) = true →
      Text.Utf8.encode [Char.ofNat n] = [UInt8.ofNat n] := by decide +kernel
  have hb := hall b.toNat b.toNat_lt
  rw [UInt8.ofNat_toNat] at hb
  exact hb h

theorem decode_cons_of_ne {c : Char} (h : c ≠ '%') (rest : List Char) :
    decode (c :: rest) = Text.Utf8.encode [c] ++ decode rest := by
  cases rest with
  | nil => simp [decode]
  | cons a rest => cases rest <;> simp [decode, h]

theorem decode_encodeByte (b : UInt8) (rest : List Char) :
    decode (encodeByte [] b ++ rest) = b :: decode rest := by
  have hb := b.toNat_lt
  cases hu : isUnreserved b with
  | true =>
      have hne : Char.ofNat b.toNat ≠ '%' := by
        intro he
        have hun := (isUnreserved_iff b).mp hu
        rw [he] at hun
        exact absurd hun (by simp [Unreserved])
      rw [encodeByte_of_unreserved hu, List.singleton_append, decode_cons_of_ne hne,
        utf8_of_unreserved hu]
      rfl
  | false =>
      have hvalue : 16 * (b.toNat / 16) + b.toNat % 16 = b.toNat := by omega
      rw [encodeByte_of_reserved hu]
      simp only [List.cons_append, List.nil_append, decode,
        hexValue?_upperDigit (show b.toNat / 16 < 16 by omega),
        hexValue?_upperDigit (show b.toNat % 16 < 16 by omega), hvalue, UInt8.ofNat_toNat]

theorem decode_encodeBytes (bytes : List UInt8) :
    decode (bytes.flatMap (encodeByte [])) = bytes := by
  induction bytes with
  | nil => rfl
  | cons b bytes ih => rw [List.flatMap_cons, decode_encodeByte, ih]

-- The text of a segment is read back
theorem decode_encodeSegment (s : String) : decode (encodeSegment s) = s.toUTF8.toList := by
  rw [encodeSegment, encode, decode_encodeBytes, Text.Utf8.encode, String.ofList_toList]

theorem encodeSegment_inj {s t : String} : encodeSegment s = encodeSegment t ↔ s = t := by
  constructor
  · intro h
    have hdecode := congrArg decode h
    rw [decode_encodeSegment, decode_encodeSegment] at hdecode
    exact eq_of_toUTF8_toList hdecode
  · rintro rfl
    rfl

end HttpDigest.Url
