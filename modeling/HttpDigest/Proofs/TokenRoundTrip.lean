import HttpDigest.Proofs.Digits
import HttpDigest.Proofs.NonceText

namespace HttpDigest

namespace Base64

def sextets : List UInt8 → List Nat
  | [] => []
  | [a] => [a.toNat / 4, a.toNat % 4 * 16]
  | [a, b] => [a.toNat / 4, a.toNat % 4 * 16 + b.toNat / 16, b.toNat % 16 * 4]
  | a :: b :: c :: rest =>
    a.toNat / 4 :: (a.toNat % 4 * 16 + b.toNat / 16) :: (b.toNat % 16 * 4 + c.toNat / 64) ::
      (c.toNat % 64) :: sextets rest

def padding : List UInt8 → Nat
  | [] => 0
  | [_] => 2
  | [_, _] => 1
  | _ :: _ :: _ :: rest => padding rest

theorem encode_eq (bytes : List UInt8) :
    encode bytes = (sextets bytes).map symbol ++ List.replicate (padding bytes) '=' := by
  fun_induction encode bytes with
  | case1 => rfl
  | case2 a => rfl
  | case3 a b => rfl
  | case4 a b c rest ih => rw [ih, sextets, padding]; rfl

theorem sextets_lt (bytes : List UInt8) : ∀ n ∈ sextets bytes, n < 64 := by
  fun_induction sextets bytes with
  | case1 => simp
  | case2 a =>
      have ha := a.toNat_lt
      simp only [List.forall_mem_cons]
      refine ⟨by omega, by omega, by simp⟩
  | case3 a b =>
      have ha := a.toNat_lt
      have hb := b.toNat_lt
      simp only [List.forall_mem_cons]
      refine ⟨by omega, by omega, by omega, by simp⟩
  | case4 a b c rest ih =>
      have ha := a.toNat_lt
      have hb := b.toNat_lt
      have hc := c.toNat_lt
      simp only [List.forall_mem_cons]
      exact ⟨by omega, by omega, by omega, by omega, ih⟩

theorem ofSextets_sextets (bytes : List UInt8) : ofSextets (sextets bytes) = bytes := by
  fun_induction sextets bytes with
  | case1 => rfl
  | case2 a =>
      have ha := a.toNat_lt
      have hfirst : a.toNat / 4 * 4 + a.toNat % 4 * 16 / 16 = a.toNat := by omega
      rw [ofSextets, hfirst, UInt8.ofNat_toNat]
  | case3 a b =>
      have ha := a.toNat_lt
      have hb := b.toNat_lt
      have hfirst : a.toNat / 4 * 4 + (a.toNat % 4 * 16 + b.toNat / 16) / 16 = a.toNat := by omega
      have hsecond : (a.toNat % 4 * 16 + b.toNat / 16) % 16 * 16 + b.toNat % 16 * 4 / 4
          = b.toNat := by omega
      rw [ofSextets, hfirst, hsecond, UInt8.ofNat_toNat, UInt8.ofNat_toNat]
  | case4 a b c rest ih =>
      have ha := a.toNat_lt
      have hb := b.toNat_lt
      have hc := c.toNat_lt
      have hfirst : a.toNat / 4 * 4 + (a.toNat % 4 * 16 + b.toNat / 16) / 16 = a.toNat := by omega
      have hsecond : (a.toNat % 4 * 16 + b.toNat / 16) % 16 * 16
          + (b.toNat % 16 * 4 + c.toNat / 64) / 4 = b.toNat := by omega
      have hthird : (b.toNat % 16 * 4 + c.toNat / 64) % 4 * 64 + c.toNat % 64 = c.toNat := by omega
      rw [ofSextets, hfirst, hsecond, hthird, UInt8.ofNat_toNat, UInt8.ofNat_toNat,
        UInt8.ofNat_toNat, ih]

-- The padding is what the last four symbols lack
theorem padding_fits (bytes : List UInt8) :
    (sextets bytes).length % 4 = 0 ∧ padding bytes = 0 ∨
    (sextets bytes).length % 4 = 2 ∧ padding bytes = 2 ∨
    (sextets bytes).length % 4 = 3 ∧ padding bytes = 1 := by
  fun_induction sextets bytes with
  | case1 => exact .inl ⟨rfl, rfl⟩
  | case2 a => exact .inr (.inl ⟨rfl, rfl⟩)
  | case3 a b => exact .inr (.inr ⟨rfl, rfl⟩)
  | case4 a b c rest ih =>
      simp only [List.length_cons, padding]
      omega

theorem paddingFits_padding (bytes : List UInt8) :
    paddingFits (sextets bytes).length (padding bytes) = true := by
  rcases padding_fits bytes with ⟨hl, hp⟩ | ⟨hl, hp⟩ | ⟨hl, hp⟩ <;> simp [paddingFits, hl, hp]

-- A character without a value is no symbol
theorem symbol_ne {c : Char} (hc : value? c = none) {n : Nat} (h : n < 64) : symbol n ≠ c := by
  rintro rfl
  rw [value?_symbol h] at hc
  cases hc

theorem not_mem_encode {c : Char} (hc : value? c = none) (hpad : c ≠ '=') (bytes : List UInt8) :
    c ∉ encode bytes := by
  rw [encode_eq, List.mem_append, not_or]
  refine ⟨fun hm => ?_, fun hm => hpad (List.eq_of_mem_replicate hm)⟩
  obtain ⟨n, hn, he⟩ := List.mem_map.mp hm
  exact symbol_ne hc (sextets_lt bytes n hn) he

theorem mapM_value?_symbol {ns : List Nat} (h : ∀ n ∈ ns, n < 64) :
    (ns.map symbol).mapM value? = some ns := by
  induction ns with
  | nil => rfl
  | cons n ns ih =>
      rw [List.map_cons, List.mapM_cons, value?_symbol (h n List.mem_cons_self),
        ih fun k hk => h k (List.mem_cons_of_mem n hk)]
      rfl

-- Strict decoding undoes encoding
theorem decode?_encode (bytes : List UInt8) : decode? (encode bytes) = some bytes := by
  have hsymbols : ∀ c ∈ (sextets bytes).map symbol, (c != '=') = true := by
    intro c hc
    obtain ⟨n, hn, rfl⟩ := List.mem_map.mp hc
    exact bne_iff_ne.mpr (symbol_ne rfl (sextets_lt bytes n hn))
  have htake : (encode bytes).takeWhile (· != '=') = (sextets bytes).map symbol := by
    rw [encode_eq, List.takeWhile_append_of_pos hsymbols, List.takeWhile_replicate]
    simp
  have hdrop : (encode bytes).dropWhile (· != '=') = List.replicate (padding bytes) '=' := by
    rw [encode_eq, List.dropWhile_append_of_pos hsymbols, List.dropWhile_replicate]
    simp
  rw [decode?, htake, hdrop]
  simp only [List.length_map, List.length_replicate, paddingFits_padding,
    mapM_value?_symbol (sextets_lt bytes),
    Option.map_some, ofSextets_sextets]
  simp

end Base64

theorem toList_loop_eq (bytes : ByteArray) (i : Nat) (done : List UInt8) :
    ByteArray.toList.loop bytes i done = done.reverse ++ bytes.data.toList.drop i := by
  induction i, done using ByteArray.toList.loop.induct bytes with
  | case1 i done h ih =>
      have hi : i < bytes.data.toList.length := h
      have hget : bytes.get! i = bytes.data.toList[i] := by
        rw [ByteArray.get!, getElem!_pos bytes.data i h, Array.getElem_toList]
      rw [ByteArray.toList.loop, if_pos h, ih, List.drop_eq_getElem_cons hi, hget,
        List.reverse_cons, List.append_assoc, List.singleton_append]
  | case2 i done h =>
      have hi : bytes.data.toList.length ≤ i := Nat.le_of_not_lt h
      rw [ByteArray.toList.loop, if_neg h, List.drop_eq_nil_of_le hi, List.append_nil]

theorem toByteArray_toList (bytes : ByteArray) : bytes.toList.toByteArray = bytes := by
  apply ByteArray.ext
  rw [ByteArray.toList, toList_loop_eq, List.data_toByteArray]
  rfl

theorem toList_toByteArray (bytes : List UInt8) : bytes.toByteArray.toList = bytes := by
  rw [ByteArray.toList, toList_loop_eq, List.data_toByteArray]
  rfl

theorem fromUTF8?_eq_some_iff {bytes : List UInt8} {text : String} :
    String.fromUTF8? bytes.toByteArray = some text ↔ text.toUTF8.toList = bytes := by
  constructor
  · intro h
    rw [String.fromUTF8?] at h
    obtain ⟨hvalid, htext⟩ := Option.dite_none_right_eq_some.mp h
    obtain rfl := Option.some.inj htext
    exact toList_toByteArray bytes
  · rintro rfl
    rw [toByteArray_toList]
    exact dif_pos text.isValidUTF8

theorem eq_of_toUTF8_toList {text other : String} (h : text.toUTF8.toList = other.toUTF8.toList) :
    text = other :=
  Option.some.inj ((fromUTF8?_eq_some_iff.mpr h).symm.trans (fromUTF8?_eq_some_iff.mpr rfl))

namespace Nonce

variable {expiry : Int} {secret text : String}

-- A text behind an expiry and a colon. What is hashed for a signature has this form, and so has
-- what a token holds.
def dated (expiry : Int) (text : String) : String :=
  toString expiry ++ ":" ++ text

theorem toList_dated (expiry : Int) (text : String) :
    (dated expiry text).toList = (toString expiry).toList ++ ':' :: text.toList := by
  simp [dated]

theorem dated_ne_empty (expiry : Int) (text : String) : dated expiry text ≠ "" := by
  intro hempty
  have hlist := toList_dated expiry text
  rw [hempty] at hlist
  exact List.append_ne_nil_of_right_ne_nil _ (List.cons_ne_nil _ _) hlist.symm

def tokenOf (plaintext : String) : String :=
  .ofList (Base64.encode plaintext.toUTF8.toList)

theorem bytes?_tokenOf {plaintext : String} (hp : plaintext ≠ "") :
    bytes? (tokenOf plaintext) = some plaintext.toUTF8.toList := by
  have hdecode := Base64.decode?_encode plaintext.toUTF8.toList
  have hne : tokenOf plaintext ≠ "" := by
    intro hempty
    have hcs : Base64.encode plaintext.toUTF8.toList = [] := by
      simpa [tokenOf] using congrArg String.toList hempty
    rw [hcs] at hdecode
    have hbytes : plaintext.toUTF8.toList = [] := (Option.some.inj hdecode).symm
    exact hp (eq_of_toUTF8_toList (hbytes.trans (by decide +kernel)))
  rw [bytes?, if_neg hne, tokenOf, String.toList_ofList, hdecode]

-- The text of a token is the one that it was made of
theorem decode_tokenOf {plaintext : String} (hp : plaintext ≠ "") :
    decode (tokenOf plaintext) = ofPlaintext plaintext :=
  decode_of_text (bytes?_tokenOf hp) (fromUTF8?_eq_some_iff.mpr rfl)

-- A numeral holds no colon, so there is exactly one
theorem decode_dated (hc : ':' ∉ text.toList) :
    decode (tokenOf (dated expiry text))
      = (expiry? (toString expiry).toList).elim (.error (.notNumeric (dated expiry text)))
        fun e => .ok ⟨e, text, dated expiry text⟩ := by
  rw [decode_tokenOf (dated_ne_empty expiry text), ofPlaintext_of_parts (toList_dated expiry text)
    (not_mem_toString (by decide) (by decide)) hc, String.ofList_toList]

theorem decode_encode_eq (expiry : Int) (secret : String) :
    decode (encode expiry secret)
      = (expiry? (toString expiry).toList).elim (.error (.notNumeric (plaintextOf expiry secret)))
        fun e => .ok ⟨e, sign expiry secret, plaintextOf expiry secret⟩ :=
  decode_dated (Md5.not_mem_hex (by decide) _)

-- The token of an expiry of 64 bits decodes to this expiry and its signature
theorem decode_encode (he : minExpiry ≤ expiry ∧ expiry ≤ maxExpiry) :
    decode (encode expiry secret)
      = .ok ⟨expiry, sign expiry secret, plaintextOf expiry secret⟩ := by
  rw [decode_encode_eq, expiry?_toString he]
  rfl

-- The token of any other expiry has no number in it that counts
theorem decode_encode_of_out (he : ¬(minExpiry ≤ expiry ∧ expiry ≤ maxExpiry)) :
    decode (encode expiry secret) = .error (.notNumeric (plaintextOf expiry secret)) := by
  rw [decode_encode_eq, expiry?_toString_eq, if_neg he]
  rfl

theorem issue_of_length (hl : (toString expiry.natAbs).length ≤ Text.Numeral.maxDigits)
    (hs : secret ≠ "") : issue (.int expiry) (.text secret) = .ok (encode expiry secret) := by
  have htruthy : (Value.text secret).truthy = true := by simpa [Value.truthy] using hs
  simp only [issue, htruthy, Bool.not_true, Bool.false_eq_true, if_false,
    if_neg (Nat.not_lt.mpr hl)]
  rfl

theorem issue_eq_ok (he : minExpiry ≤ expiry ∧ expiry ≤ maxExpiry) (hs : secret ≠ "") :
    issue (.int expiry) (.text secret) = .ok (encode expiry secret) := by
  refine issue_of_length ?_ hs
  have hdigits := length_digits_le he
  have htwenty : 20 ≤ Text.Numeral.maxDigits := by decide
  rw [Nat.toString_eq_ofList_toDigits, String.length_ofList]
  omega

end Nonce

end HttpDigest
