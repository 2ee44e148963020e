namespace HttpDigest

section Except

variable {ε ε' α β : Type} {x : Except ε α} {b : β}

theorem exists_of_map_eq_ok {f : α → β} (h : x.map f = .ok b) : ∃ a, x = .ok a ∧ f a = b := by
  cases x with
  | error e => cases h
  | ok a => exact ⟨a, rfl, Except.ok.inj h⟩

theorem exists_of_bind_eq_ok {f : α → Except ε β} (h : x >>= f = .ok b) :
    ∃ a, x = .ok a ∧ f a = .ok b := by
  cases x with
  | error e => cases h
  | ok a => exact ⟨a, rfl, h⟩

theorem eq_ok_of_mapError {g : ε → ε'} {a : α} (h : x.mapError g = .ok a) : x = .ok a := by
  cases x with
  | error e => cases h
  | ok b => exact congrArg Except.ok (Except.ok.inj h)

def Fails (P : ε → Prop) (x : Except ε α) : Prop :=
  ∀ e, x = .error e → P e

variable {P : ε → Prop}

theorem Fails.ok {a : α} : Fails P (.ok a) :=
  fun _ h => nomatch h

theorem Fails.error {e : ε} (h : P e) : Fails (α := α) P (.error e) := by
  rintro _ ⟨⟩
  exact h

theorem Fails.bind {f : α → Except ε β} (hx : Fails P x)
    (hf : ∀ a, x = .ok a → Fails P (f a)) : Fails P (x >>= f) := by
  cases x with
  | error e => exact .error (hx e rfl)
  | ok a => exact hf a rfl

theorem Fails.mapError {Q : ε' → Prop} {g : ε → ε'} (hx : Fails P x) (hg : ∀ e, P e → Q (g e)) :
    Fails Q (x.mapError g) := by
  cases x with
  | error e => exact .error (hg e (hx e rfl))
  | ok a => exact .ok

end Except

end HttpDigest
