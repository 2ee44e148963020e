import HttpDigest.Nonce
import Mathlib.Tactic.Common

namespace HttpDigest

namespace Text

variable {α : Type} [BEq α] {separator : α} {xs first second : List α}

theorem length_splitOn (separator : α) (xs : List α) :
    (xs.splitOn separator).length = xs.count separator + 1 := by
  induction xs with
  | nil => rfl
  | cons x rest ih =>
      rw [List.splitOn_cons_eq_if_modifyHead, List.count_cons]
      split
      · rw [List.length_cons, ih]
      · rw [List.length_modifyHead, ih]

variable [LawfulBEq α]

theorem splitOn_parts (hf : separator ∉ first) (hs : separator ∉ second) :
    (first ++ separator :: second).splitOn separator = [first, second] := by
  rw [List.splitOn_append_cons_self_of_not_mem hf, List.splitOn_eq_singleton hs]

theorem exists_parts (h : xs.count separator = 1) :
    ∃ first second, xs = first ++ separator :: second ∧ separator ∉ first ∧
      separator ∉ second := by
  have hm : separator ∈ xs := List.count_pos_iff.mp (by omega)
  obtain ⟨first, second, rfl, hf⟩ := List.eq_append_cons_of_mem hm
  refine ⟨first, second, rfl, hf, ?_⟩
  rw [List.count_append, List.count_cons_self, List.count_eq_zero_of_not_mem hf] at h
  exact List.count_eq_zero.mp (by omega)

theorem takeWhile_parts (hf : separator ∉ first) :
    (first ++ separator :: second).takeWhile (· != separator) = first := by
  rw [List.takeWhile_append_of_pos]
  · simp
  · intro a ha
    have hne : a ≠ separator := fun he => hf (he ▸ ha)
    simpa using hne

theorem dropWhile_parts (hf : separator ∉ first) :
    (first ++ separator :: second).dropWhile (· != separator) = separator :: second := by
  rw [List.dropWhile_append_of_pos]
  · simp
  · intro a ha
    have hne : a ≠ separator := fun he => hf (he ▸ ha)
    simpa using hne

-- The first separator tells where the parts meet
theorem parts_inj {other rest : List α} (hf : separator ∉ first) (ho : separator ∉ other)
    (h : first ++ separator :: second = other ++ separator :: rest) :
    first = other ∧ second = rest := by
  have htake := congrArg (List.takeWhile (· != separator)) h
  have hdrop := congrArg (List.dropWhile (· != separator)) h
  rw [takeWhile_parts hf, takeWhile_parts ho] at htake
  rw [dropWhile_parts hf, dropWhile_parts ho] at hdrop
  exact ⟨htake, (List.cons.inj hdrop).2⟩

-- and so does the last one
theorem parts_inj_last {other rest : List α} (hs : separator ∉ second) (hr : separator ∉ rest)
    (h : first ++ separator :: second = other ++ separator :: rest) :
    first = other ∧ second = rest := by
  have hreverse := congrArg List.reverse h
  simp only [List.reverse_append, List.reverse_cons, List.append_assoc, List.singleton_append]
    at hreverse
  obtain ⟨hsecond, hfirst⟩ := parts_inj (mt List.mem_reverse.mp hs) (mt List.mem_reverse.mp hr)
    hreverse
  exact ⟨List.reverse_inj.mp hfirst, List.reverse_inj.mp hsecond⟩

end Text

namespace Nonce

variable {token plaintext : String} {bytes : List UInt8} {first second : List Char}

theorem decode_of_not_base64 (hb : bytes? token = none) :
    decode token = .error (.notBase64 token) := by
  simp only [decode, hb]

theorem decode_of_not_text (hb : bytes? token = some bytes)
    (ht : String.fromUTF8? bytes.toByteArray = none) : decode token = .error (.notText token) := by
  simp only [decode, hb, ht]

theorem decode_of_text (hb : bytes? token = some bytes)
    (ht : String.fromUTF8? bytes.toByteArray = some plaintext) :
    decode token = ofPlaintext plaintext := by
  simp only [decode, hb, ht]

theorem ofPlaintext_of_count_ne (h : plaintext.toList.count ':' ≠ 1) :
    ofPlaintext plaintext = .error (.malformed plaintext) := by
  unfold ofPlaintext
  split
  · rename_i hs
    have hlength := Text.length_splitOn ':' plaintext.toList
    rw [hs] at hlength
    simp only [List.length_cons, List.length_nil] at hlength
    omega
  · rfl

theorem ofPlaintext_of_parts (hp : plaintext.toList = first ++ ':' :: second)
    (hf : ':' ∉ first) (hs : ':' ∉ second) :
    ofPlaintext plaintext = (expiry? first).elim (.error (.notNumeric plaintext))
      fun expiry => .ok ⟨expiry, .ofList second, plaintext⟩ := by
  rw [ofPlaintext, hp, Text.splitOn_parts hf hs]
  cases he : expiry? first <;> simp [he]

end Nonce

end HttpDigest
