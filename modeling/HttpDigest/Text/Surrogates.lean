namespace HttpDigest

-- A text may hold a surrogate that belongs to no pair, which is no character. Some characters
-- stand for such surrogates: any will do that the texts at hand do not hold as themselves. A text
-- with one of them has no UTF-8 form.
structure Surrogates where
  standIn : Nat → Char
  isOne : Char → Bool
  isOne_standIn : ∀ unit, 0xd800 ≤ unit → unit < 0xe000 → isOne (standIn unit) = true
  not_ascii : ∀ c, isOne c = true → 0x80 ≤ c.toNat

namespace Surrogates

def encodes (s : Surrogates) (text : String) : Bool :=
  text.toList.all fun c => !s.isOne c

def inPrivateUse : Surrogates where
  standIn unit := Char.ofNat (0x100000 + unit)
  isOne c := 0x10d800 ≤ c.toNat && c.toNat < 0x10e000
  isOne_standIn unit hlow hhigh := by
    have hvalid : (0x100000 + unit).isValidChar := .inr ⟨by omega, by omega⟩
    have hnumber : (Char.ofNat (0x100000 + unit)).toNat = 0x100000 + unit := by
      rw [Char.ofNat, dif_pos hvalid]
      rfl
    simp only [hnumber, Bool.and_eq_true, decide_eq_true_eq]
    omega
  not_ascii c h := by
    simp only [Bool.and_eq_true, decide_eq_true_eq] at h
    omega

end Surrogates

end HttpDigest
