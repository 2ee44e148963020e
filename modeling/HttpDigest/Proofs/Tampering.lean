import HttpDigest.Proofs.TokenRange

namespace HttpDigest.Nonce

variable {token secret secret' signature : String} {e e' : Int} {n : Nonce}

theorem dated_inj (h : dated e secret = dated e' secret') : e = e' ∧ secret = secret' := by
  have hlist := congrArg String.toList h
  rw [toList_dated, toList_dated] at hlist
  have hcolon : ∀ k : Int, ':' ∉ (toString k).toList := fun k =>
    not_mem_toString (by decide) (by decide)
  obtain ⟨hnumeral, hsecret⟩ := Text.parts_inj (hcolon e) (hcolon e') hlist
  have hread := signed?_toString e
  rw [hnumeral, signed?_toString] at hread
  exact ⟨(Option.some.inj hread).symm, String.toList_inj.mp hsecret⟩

theorem isSignedWith_iff : n.isSignedWith secret = true ↔ n.signature = sign n.expiry secret := by
  rw [isSignedWith, decide_eq_true_eq, eq_comm]

theorem check_of_unsigned (hd : decode token = .ok n) (hs : n.signature ≠ sign n.expiry secret)
    (now : Int) : check token secret now = .ok .signatureMismatch := by
  have hnot : n.isSignedWith secret = false := Bool.eq_false_iff.mpr (mt isSignedWith_iff.mp hs)
  rw [check_of_decoded hd, status_of_unsigned hnot]

theorem check_of_signed (hd : decode token = .ok n) (hs : n.signature = sign n.expiry secret)
    (now : Int) : check token secret now = .ok .valid ∨ check token secret now = .ok .expired := by
  have hsigned := isSignedWith_iff.mpr hs
  rw [check_of_decoded hd]
  by_cases hle : now ≤ n.expiry
  · exact .inl (congrArg _ (status_of_le hsigned hle))
  · exact .inr (congrArg _ (status_of_lt hsigned (Int.not_le.mp hle)))

-- The check gets as far as the time just if the signature is the one of the expiry
theorem check_passes_iff (token secret : String) (now : Int) :
    check token secret now = .ok .valid ∨ check token secret now = .ok .expired ↔
      ∃ n, decode token = .ok n ∧ n.signature = Md5.hex (dated n.expiry secret) := by
  constructor
  · intro h
    cases hd : decode token with
    | error e =>
        rw [check_of_undecodable hd] at h
        rcases h with h | h <;> cases h
    | ok n =>
        refine ⟨n, rfl, ?_⟩
        by_contra hs
        rw [check_of_unsigned hd hs] at h
        rcases h with h | h <;> cases h
  · rintro ⟨n, hd, hs⟩
    exact check_of_signed hd hs now

-- A nonce passes for one of the secret, valid or expired, just if it carries the hash of its own
-- expiry with this secret. So a signature that was made for anything else is a mismatch at every
-- time, unless it was made of another text with the same hash; and so is every other signature
-- that is written into a token.
theorem forged_token_detected (secret : String) :
    (∀ token now, check token secret now = .ok .valid ∨ check token secret now = .ok .expired ↔
      ∃ n, decode token = .ok n ∧ n.signature = Md5.hex (dated n.expiry secret)) ∧
    (∀ token n e' secret', decode token = .ok n → n.signature = sign e' secret' →
      (n.expiry, secret) ≠ (e', secret') →
      dated n.expiry secret ≠ dated e' secret' ∧
        ((∀ now, check token secret now = .ok .signatureMismatch) ∨
          Md5.hex (dated n.expiry secret) = Md5.hex (dated e' secret'))) ∧
    (∀ token n, decode token = .ok n → n.signature ≠ sign n.expiry secret →
      ∀ now, check token secret now = .ok .signatureMismatch) ∧
    ∀ (e : Int) (signature : String), -2 ^ 63 ≤ e ∧ e ≤ 2 ^ 63 - 1 → ':' ∉ signature.toList →
      signature ≠ sign e secret →
      decode (tokenOf (dated e signature)) = .ok ⟨e, signature, dated e signature⟩ ∧
        ∀ now, check (tokenOf (dated e signature)) secret now = .ok .signatureMismatch := by
  refine ⟨fun token now => check_passes_iff token secret now, ?_, ?_, ?_⟩
  · intro token n e' secret' hd hs' hne
    refine ⟨fun heq => hne (Prod.ext (dated_inj heq).1 (dated_inj heq).2), ?_⟩
    by_cases hs : n.signature = sign n.expiry secret
    · exact .inr (hs.symm.trans hs')
    · exact .inl (check_of_unsigned hd hs)
  · intro token n hd hs
    exact check_of_unsigned hd hs
  · intro e signature he hcolon hs
    have hd : decode (tokenOf (dated e signature)) = .ok ⟨e, signature, dated e signature⟩ := by
      rw [decode_dated hcolon, expiry?_toString (bounds_iff.mpr he)]
      rfl
    exact ⟨hd, check_of_unsigned hd hs⟩

end HttpDigest.Nonce
