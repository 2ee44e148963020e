import HttpDigest.Proofs.TokenRange

namespace HttpDigest

namespace Base64

def InAlphabet (c : Char) : Prop :=
  'A' ≤ c ∧ c ≤ 'Z' ∨ 'a' ≤ c ∧ c ≤ 'z' ∨ '0' ≤ c ∧ c ≤ '9' ∨ c = '+' ∨ c = '/' ∨ c = '='

variable {c : Char} {cs : List Char} {bytes : List UInt8}

theorem inAlphabet_of_value? (h : (value? c).isSome = true) : InAlphabet c := by
  unfold value? at h
  unfold InAlphabet
  split at h
  · simp_all
  · split at h
    · simp_all
    · split at h
      · simp_all
      · split at h
        · simp_all
        · split at h <;> simp_all

theorem isSome_value?_of_mapM {values : List Nat} (h : cs.mapM value? = some values) :
    ∀ c ∈ cs, (value? c).isSome = true := by
  induction cs generalizing values with
  | nil => simp
  | cons c cs ih =>
      rw [List.mapM_cons] at h
      obtain ⟨value, hvalue, h⟩ := Option.bind_eq_some_iff.mp h
      obtain ⟨rest, hrest, -⟩ := Option.bind_eq_some_iff.mp h
      have hc : (value? c).isSome = true := by
        rw [hvalue]
        rfl
      exact List.forall_mem_cons.mpr ⟨hc, ih hrest⟩

-- Strict decoding refuses every other character
theorem inAlphabet_of_decode? (h : decode? cs = some bytes) : ∀ c ∈ cs, InAlphabet c := by
  rw [decode?] at h
  obtain ⟨hpadding, hsymbols⟩ := Option.ite_none_right_eq_some.mp h
  obtain ⟨values, hvalues, -⟩ := Option.map_eq_some_iff.mp hsymbols
  rw [Bool.and_eq_true, List.all_eq_true] at hpadding
  intro c hc
  rw [← List.takeWhile_append_dropWhile (p := (· != '=')) (l := cs), List.mem_append] at hc
  rcases hc with hc | hc
  · exact inAlphabet_of_value? (isSome_value?_of_mapM hvalues c hc)
  · have he : c = '=' := by simpa using hpadding.1 c hc
    exact .inr (.inr (.inr (.inr (.inr he))))

end Base64

namespace Nonce

def IsDigits (cs : List Char) : Prop :=
  cs ≠ [] ∧ ∀ c ∈ cs, '0' ≤ c ∧ c ≤ '9'

inductive IsNumeral : List Char → Int → Prop where
  | unsigned {cs : List Char} (h : IsDigits cs) : IsNumeral cs (Nat.ofDigitChars 10 cs 0)
  | plus {cs : List Char} (h : IsDigits cs) : IsNumeral ('+' :: cs) (Nat.ofDigitChars 10 cs 0)
  | minus {cs : List Char} (h : IsDigits cs) : IsNumeral ('-' :: cs) (-Nat.ofDigitChars 10 cs 0)

def IsNumeralLine (cs : List Char) (e : Int) : Prop :=
  ∃ numeral, IsNumeral numeral e ∧ (cs = numeral ∨ cs = numeral ++ ['\n'])

-- A text that stands for an expiry, if `Reads` tells what stands for a number
structure IsExpiry (Reads : List Char → Int → Prop) (text : String) (e : Int) : Prop where
  reads : Reads text.toList e
  short : text.toList.length ≤ 64
  bounds : -2 ^ 63 ≤ e ∧ e ≤ 2 ^ 63 - 1

section Numerals

variable {cs : List Char} {e : Int} {n : Nat}

theorem isDigits_iff : IsDigits cs ↔ cs.isEmpty = false ∧ cs.all isDigit = true := by
  rw [List.isEmpty_eq_false_iff, List.all_eq_true]
  refine and_congr Iff.rfl (forall₂_congr fun c _ => ?_)
  rw [isDigit, Bool.and_eq_true, decide_eq_true_eq, decide_eq_true_eq]

theorem natural?_eq_some_iff :
    natural? cs = some n ↔ IsDigits cs ∧ Nat.ofDigitChars 10 cs 0 = n := by
  rw [isDigits_iff, natural?, ofDigits_eq_ofDigitChars]
  cases cs.isEmpty <;> cases cs.all isDigit <;> simp

theorem signed?_eq_some_iff : signed? cs = some e ↔ IsNumeral cs e := by
  constructor
  · intro h
    unfold signed? at h
    split at h
    · obtain ⟨_, hm, rfl⟩ := Option.map_eq_some_iff.mp h
      obtain ⟨n, hn, hcast⟩ := Option.bind_eq_some_iff.mp hm
      obtain ⟨hdigits, rfl⟩ := natural?_eq_some_iff.mp hn
      obtain rfl := Option.some.inj hcast
      exact .minus hdigits
    · obtain ⟨n, hn, rfl⟩ := Option.map_eq_some_iff.mp h
      obtain ⟨hdigits, rfl⟩ := natural?_eq_some_iff.mp hn
      exact .plus hdigits
    · obtain ⟨n, hn, rfl⟩ := Option.map_eq_some_iff.mp h
      obtain ⟨hdigits, rfl⟩ := natural?_eq_some_iff.mp hn
      exact .unsigned hdigits
  · intro h
    cases h with
    | unsigned hdigits =>
        rw [signed?_of_digits (isDigits_iff.mp hdigits).2, natural?_eq_some_iff.mpr ⟨hdigits, rfl⟩]
        rfl
    | plus hdigits =>
        rw [signed?, natural?_eq_some_iff.mpr ⟨hdigits, rfl⟩]
        rfl
    | minus hdigits =>
        rw [signed?, natural?_eq_some_iff.mpr ⟨hdigits, rfl⟩]
        rfl

theorem IsDigits.not_mem_newline (h : IsDigits cs) : '\n' ∉ cs :=
  fun hm => absurd (h.2 _ hm).1 (by decide)

theorem IsNumeral.not_mem_newline (h : IsNumeral cs e) : '\n' ∉ cs := by
  cases h with
  | unsigned hdigits => exact hdigits.not_mem_newline
  | plus hdigits => simpa using hdigits.not_mem_newline
  | minus hdigits => simpa using hdigits.not_mem_newline

theorem isNumeralLine_iff : IsNumeralLine cs e ↔ IsNumeral (dropFinalNewline cs) e := by
  constructor
  · rintro ⟨numeral, hnumeral, rfl | rfl⟩
    · rwa [dropFinalNewline,
        if_neg fun hl => hnumeral.not_mem_newline (List.mem_of_getLast? hl)]
    · rwa [dropFinalNewline, if_pos List.getLast?_concat, List.dropLast_concat]
  · intro h
    refine ⟨_, h, ?_⟩
    unfold dropFinalNewline
    split
    · rename_i hl
      obtain ⟨front, hfront⟩ := List.getLast?_eq_some_iff.mp hl
      rw [hfront, List.dropLast_concat]
      exact .inr rfl
    · exact .inl rfl

theorem expiry?_eq_some_iff {text : String} :
    expiry? text.toList = some e ↔ IsExpiry IsNumeralLine text e := by
  constructor
  · intro h
    rw [expiry?] at h
    obtain ⟨hlength, h⟩ := Option.ite_none_left_eq_some.mp h
    cases hs : signed? (dropFinalNewline text.toList) with
    | none =>
        rw [hs] at h
        cases h
    | some n =>
        rw [hs] at h
        obtain ⟨hbounds, hn⟩ := Option.ite_none_right_eq_some.mp h
        obtain rfl := Option.some.inj hn
        exact ⟨isNumeralLine_iff.mpr (signed?_eq_some_iff.mp hs), Nat.le_of_not_lt hlength,
          bounds_iff.mp hbounds⟩
  · intro h
    have hs := signed?_eq_some_iff.mpr (isNumeralLine_iff.mp h.reads)
    have hlength : ¬text.toList.length > maxExpiryLength := Nat.not_lt.mpr h.short
    rw [expiry?, if_neg hlength, hs]
    exact if_pos (bounds_iff.mpr h.bounds)

end Numerals

def Fails (token code : String) : Prop :=
  ∃ e, decode token = .error e ∧ e.report.kind = .nonce ∧ e.report.code = .text code

structure Encodes (token : String) (bytes : List UInt8) : Prop where
  nonempty : token ≠ ""
  alphabet : ∀ c ∈ token.toList, Base64.InAlphabet c
  decodes : Base64.decode? token.toList = some bytes

-- How a token is read, if `Expiry` tells which texts stand for an expiry
structure DecodesBy (Expiry : String → Int → Prop) (token : String) : Prop where
  notBase64 : Fails token "NONCE_NOT_BASE64" ↔
    token = "" ∨ (∃ c ∈ token.toList, ¬Base64.InAlphabet c) ∨ Base64.decode? token.toList = none
  malformed : ∀ bytes, Encodes token bytes →
    (Fails token "NONCE_MALFORMED" ↔
      ¬∃ plaintext : String, plaintext.toUTF8.toList = bytes ∧ plaintext.toList.count ':' = 1)
  notNumeric : ∀ first second : String, Encodes token (first ++ ":" ++ second).toUTF8.toList →
    ':' ∉ first.toList → ':' ∉ second.toList →
    (Fails token "NONCE_NOT_NUMERIC" ↔ ¬∃ e, Expiry first e)
  decoded : ∀ (first second : String) (e : Int),
    Encodes token (first ++ ":" ++ second).toUTF8.toList →
    ':' ∉ first.toList → ':' ∉ second.toList → Expiry first e →
    decode token = .ok { expiry := e, signature := second, plaintext := first ++ ":" ++ second }
  total : (∃ n, decode token = .ok n) ∨
    ∃ code ∈ ["NONCE_NOT_BASE64", "NONCE_MALFORMED", "NONCE_NOT_NUMERIC"], Fails token code

section Tokens

variable {token code plaintext : String} {first second : List Char} {bytes : List UInt8} {n : Nonce}
  {e : DecodeError}

theorem fails_iff (h : decode token = .error e) :
    Fails token code ↔ e.report.code = .text code := by
  constructor
  · rintro ⟨e', he, -, hcode⟩
    obtain rfl := Except.error.inj (h.symm.trans he)
    exact hcode
  · intro hcode
    exact ⟨e, h, e.kind_report, hcode⟩

theorem not_fails (h : decode token = .ok n) : ¬Fails token code := by
  rintro ⟨e, he, -⟩
  cases h.symm.trans he

theorem bytes?_eq_some_iff : bytes? token = some bytes ↔ Encodes token bytes := by
  constructor
  · intro h
    rw [bytes?] at h
    obtain ⟨hne, hdecode⟩ := Option.ite_none_left_eq_some.mp h
    exact ⟨hne, Base64.inAlphabet_of_decode? hdecode, hdecode⟩
  · intro h
    rw [bytes?, if_neg h.nonempty, h.decodes]

theorem bytes?_eq_none_iff : bytes? token = none ↔
    token = "" ∨ (∃ c ∈ token.toList, ¬Base64.InAlphabet c) ∨
      Base64.decode? token.toList = none := by
  constructor
  · intro h
    by_cases hne : token = ""
    · exact .inl hne
    · rw [bytes?, if_neg hne] at h
      exact .inr (.inr h)
  · intro h
    by_contra hb
    obtain ⟨bytes, hb⟩ := Option.ne_none_iff_exists'.mp hb
    have he := bytes?_eq_some_iff.mp hb
    rcases h with hempty | ⟨c, hc, hout⟩ | hnone
    · exact he.nonempty hempty
    · exact hout (he.alphabet c hc)
    · cases hnone.symm.trans he.decodes

theorem ofPlaintext_cases (plaintext : String) :
    ofPlaintext plaintext = .error (.malformed plaintext) ∨
    ofPlaintext plaintext = .error (.notNumeric plaintext) ∨ ∃ n, ofPlaintext plaintext = .ok n := by
  unfold ofPlaintext
  split
  · split
    · exact .inr (.inr ⟨_, rfl⟩)
    · exact .inr (.inl rfl)
  · exact .inl rfl

-- What a token holds is a text or not
theorem Encodes.decode_eq (h : Encodes token bytes) :
    decode token = .error (.notText token) ∧
      (∀ plaintext : String, plaintext.toUTF8.toList ≠ bytes) ∨
    ∃ plaintext : String, plaintext.toUTF8.toList = bytes ∧
      decode token = ofPlaintext plaintext := by
  have hb := bytes?_eq_some_iff.mpr h
  cases ht : String.fromUTF8? bytes.toByteArray with
  | none =>
      refine .inl ⟨decode_of_not_text hb ht, fun plaintext hp => ?_⟩
      cases ht.symm.trans (fromUTF8?_eq_some_iff.mpr hp)
  | some plaintext =>
      exact .inr ⟨plaintext, fromUTF8?_eq_some_iff.mp ht, decode_of_text hb ht⟩

theorem Encodes.decode_of_plaintext (h : Encodes token plaintext.toUTF8.toList) :
    decode token = ofPlaintext plaintext :=
  decode_of_text (bytes?_eq_some_iff.mpr h) (fromUTF8?_eq_some_iff.mpr rfl)

theorem Encodes.decode_of_parts {first second : String}
    (h : Encodes token (first ++ ":" ++ second).toUTF8.toList) (hf : ':' ∉ first.toList)
    (hs : ':' ∉ second.toList) :
    decode token = (expiry? first.toList).elim (.error (.notNumeric (first ++ ":" ++ second)))
      fun e => .ok ⟨e, second, first ++ ":" ++ second⟩ := by
  have hparts : (first ++ ":" ++ second).toList = first.toList ++ ':' :: second.toList := by simp
  rw [h.decode_of_plaintext, ofPlaintext_of_parts hparts hf hs, String.ofList_toList]

theorem fails_notBase64_iff : Fails token "NONCE_NOT_BASE64" ↔ bytes? token = none := by
  constructor
  · rintro ⟨e, he, -, hcode⟩
    rw [← Option.not_isSome_iff_eq_none, Option.isSome_iff_exists]
    rintro ⟨bytes, hb⟩
    rcases (bytes?_eq_some_iff.mp hb).decode_eq with ⟨hd, -⟩ | ⟨plaintext, -, hd⟩
    · obtain rfl := Except.error.inj (hd.symm.trans he)
      simp [DecodeError.report] at hcode
    · rcases ofPlaintext_cases plaintext with hp | hp | ⟨n, hp⟩
      · obtain rfl := Except.error.inj (hp.symm.trans (hd.symm.trans he))
        simp [DecodeError.report] at hcode
      · obtain rfl := Except.error.inj (hp.symm.trans (hd.symm.trans he))
        simp [DecodeError.report] at hcode
      · cases hp.symm.trans (hd.symm.trans he)
  · intro h
    exact (fails_iff (decode_of_not_base64 h)).mpr rfl

theorem fails_malformed_iff_count (hd : decode token = ofPlaintext plaintext) :
    Fails token "NONCE_MALFORMED" ↔ plaintext.toList.count ':' ≠ 1 := by
  by_cases hcount : plaintext.toList.count ':' = 1
  · obtain ⟨first, second, hp, hf, hs⟩ := Text.exists_parts hcount
    rw [ofPlaintext_of_parts hp hf hs] at hd
    refine iff_of_false ?_ (not_not.mpr hcount)
    cases he : expiry? first with
    | none =>
        rw [he] at hd
        rw [fails_iff hd]
        simp [DecodeError.report]
    | some e =>
        rw [he] at hd
        exact not_fails hd
  · rw [ofPlaintext_of_count_ne hcount] at hd
    exact iff_of_true ((fails_iff hd).mpr rfl) hcount

theorem Encodes.fails_malformed_iff (h : Encodes token bytes) :
    Fails token "NONCE_MALFORMED" ↔
      ¬∃ plaintext : String, plaintext.toUTF8.toList = bytes ∧ plaintext.toList.count ':' = 1 := by
  rcases h.decode_eq with ⟨hd, hno⟩ | ⟨plaintext, rfl, hd⟩
  · refine iff_of_true ((fails_iff hd).mpr rfl) ?_
    rintro ⟨plaintext, hp, -⟩
    exact hno plaintext hp
  · rw [fails_malformed_iff_count hd]
    refine not_congr ⟨fun hcount => ⟨plaintext, rfl, hcount⟩, ?_⟩
    rintro ⟨other, hother, hcount⟩
    rwa [eq_of_toUTF8_toList hother] at hcount

theorem decoded_or_fails (token : String) : (∃ n, decode token = .ok n) ∨
    ∃ code ∈ ["NONCE_NOT_BASE64", "NONCE_MALFORMED", "NONCE_NOT_NUMERIC"], Fails token code := by
  cases hd : decode token with
  | ok n => exact .inl ⟨n, rfl⟩
  | error e =>
      refine .inr ?_
      cases e with
      | notBase64 t => exact ⟨_, by simp, (fails_iff hd).mpr rfl⟩
      | notText t => exact ⟨"NONCE_MALFORMED", by simp, (fails_iff hd).mpr rfl⟩
      | malformed p => exact ⟨_, by simp, (fails_iff hd).mpr rfl⟩
      | notNumeric p => exact ⟨_, by simp, (fails_iff hd).mpr rfl⟩

end Tokens

-- Every token is read by the grammar, the line break aside, and nothing else is read
theorem decodes_by_grammar (token : String) : DecodesBy (IsExpiry IsNumeralLine) token := by
  refine ⟨fails_notBase64_iff.trans bytes?_eq_none_iff, fun _ h => h.fails_malformed_iff,
    fun first second h hf hs => ?_, fun first second e h hf hs he => ?_, decoded_or_fails token⟩
  · have hd := h.decode_of_parts hf hs
    cases hx : expiry? first.toList with
    | none =>
        rw [hx] at hd
        refine iff_of_true ((fails_iff hd).mpr rfl) ?_
        rintro ⟨e, he⟩
        cases hx.symm.trans (expiry?_eq_some_iff.mpr he)
    | some e =>
        rw [hx] at hd
        exact iff_of_false (not_fails hd) (not_not.mpr ⟨e, expiry?_eq_some_iff.mp hx⟩)
  · rw [h.decode_of_parts hf hs, expiry?_eq_some_iff.mpr he]
    rfl

-- A numeral alone is not what the reader goes by
theorem not_decodesBy_numeral : ¬∀ token, DecodesBy (IsExpiry IsNumeral) token := by
  intro h
  have hread : decode "NQo6c2ln" = .ok ⟨5, "sig", "5\n:sig"⟩ := by decide +kernel
  have hbytes : bytes? "NQo6c2ln" = some ("5\n" ++ ":" ++ "sig").toUTF8.toList := by decide +kernel
  have hiff := (h "NQo6c2ln").notNumeric "5\n" "sig" (bytes?_eq_some_iff.mp hbytes) (by decide)
    (by decide)
  refine not_fails hread (hiff.mpr ?_)
  rintro ⟨e, he⟩
  exact he.reads.not_mem_newline (by decide)

end Nonce

end HttpDigest
