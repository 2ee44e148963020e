import HttpDigest.Proofs.NonceCheck
import Mathlib.Algebra.Group.Int.Defs

namespace HttpDigest.Nonce

theorem bounds_iff {e : Int} :
    minExpiry ≤ e ∧ e ≤ maxExpiry ↔ -2 ^ 63 ≤ e ∧ e ≤ 2 ^ 63 - 1 := by
  unfold minExpiry maxExpiry
  omega

-- What the check of a token says that was issued with the same secret
theorem check_encode {e : Int} (he : minExpiry ≤ e ∧ e ≤ maxExpiry) (secret : String) (now : Int) :
    (now ≤ e → check (encode e secret) secret now = .ok .valid) ∧
    (e < now → check (encode e secret) secret now = .ok .expired) := by
  have hsigned : Nonce.isSignedWith ⟨e, sign e secret, plaintextOf e secret⟩ secret = true :=
    decide_eq_true rfl
  constructor
  · intro hle
    rw [check_of_decoded (decode_encode he), status_of_le hsigned hle]
  · intro hlt
    rw [check_of_decoded (decode_encode he), status_of_lt hsigned hlt]

-- Whoever writes a number of any size into a token gets one. The numbers of 64 bits are read
-- back with their signature, and the token is good through its expiry; of any other number it is
-- said that there is none.
theorem issued_token_read_back (e : Int) (secret : String)
    (hdigits : (toString e.natAbs).length ≤ 4300) (hsecret : secret ≠ "") :
    ∃ token, issue (.int e) secret = .ok token ∧
      (-2 ^ 63 ≤ e ∧ e ≤ 2 ^ 63 - 1 →
        decode token = .ok {
          expiry := e
          signature := sign e secret
          plaintext := toString e ++ ":" ++ sign e secret } ∧
        ∀ now, (now ≤ e → check token secret now = .ok .valid) ∧
          (e < now → check token secret now = .ok .expired)) ∧
      (¬(-2 ^ 63 ≤ e ∧ e ≤ 2 ^ 63 - 1) →
        ∃ err, decode token = .error err ∧ err.report.kind = .nonce ∧
          err.report.code = "NONCE_NOT_NUMERIC" ∧
          ∀ now, check token secret now = .error err) := by
  refine ⟨encode e secret, issue_of_length hdigits hsecret, fun he => ?_, fun he => ?_⟩
  · rw [← bounds_iff] at he
    exact ⟨decode_encode he, check_encode he secret⟩
  · rw [← bounds_iff] at he
    have hdecode : decode (encode e secret) = .error (.notNumeric (plaintextOf e secret)) :=
      decode_encode_of_out he
    exact ⟨_, hdecode, rfl, rfl, check_of_undecodable hdecode secret⟩

-- The least number of 64 bits, and the one behind the greatest
theorem issued_token_read_back_sample :
    (∃ token, issue (.int (-2 ^ 63)) "a:b" = .ok token ∧
      check token "a:b" (-2 ^ 63) = .ok .valid ∧ check token "a:b" 0 = .ok .expired) ∧
    ∃ token err, issue (.int (2 ^ 63)) "a:b" = .ok token ∧ decode token = .error err ∧
      err.report.code = "NONCE_NOT_NUMERIC" := by
  obtain ⟨least, hleast, hin, -⟩ :=
    issued_token_read_back (-2 ^ 63) "a:b" (by decide +kernel) (by decide)
  obtain ⟨behind, hbehind, -, hout⟩ :=
    issued_token_read_back (2 ^ 63) "a:b" (by decide +kernel) (by decide)
  obtain ⟨-, hchecks⟩ := hin (by decide)
  obtain ⟨err, herr, -, hcode, -⟩ := hout (by decide)
  exact ⟨⟨least, hleast, (hchecks (-2 ^ 63)).1 (by decide), (hchecks 0).2 (by decide)⟩,
    behind, err, hbehind, herr, hcode⟩

end HttpDigest.Nonce
