import HttpDigest.Proofs.Settlement

namespace HttpDigest.Verifier

variable {σ : Type} {config : Config} {t : Ticket} {c : Credential} {o : Outcome}

def expiryOf? (authorization : Option String) : Option Int := do
  let directives ← authorization.bind Directives.ofHeader?
  let token ← directives.get? "nonce"
  match Nonce.decode token with
  | .ok n => some n.expiry
  | .error _ => none

theorem expiryOf?_of_ticket {authorization : Option String}
    (hb : authorization.bind Directives.body? = some t.header) (hx : Examined config t) :
    expiryOf? authorization = some t.nonce.expiry := by
  obtain ⟨text, rfl, hbody⟩ := Option.bind_eq_some_iff.mp hb
  simp [expiryOf?, Directives.ofHeader?, hbody, hx.readFrom.nonce, hx.nonce]

def IsAccepted (outcome : Except Failure Outcome) : Prop :=
  ∃ o, outcome = .ok o ∧ o.status = .authenticated

def IsExpired (outcome : Except Failure Outcome) : Prop :=
  ∃ o, outcome = .ok o ∧ o.status = .rejected ∧ o.reason = some .nonceExpired

-- An outcome in which the time decides, and nothing else
def TimeDecides (expiry now : Int) (outcome : Except Failure Outcome) : Prop :=
  (IsAccepted outcome ↔ now ≤ expiry) ∧ (IsExpired outcome ↔ expiry < now)

theorem not_decided_of_timeless {outcome : Except Failure Outcome}
    (h : ∀ o, outcome = .ok o → o.Timeless) : ¬IsAccepted outcome ∧ ¬IsExpired outcome := by
  constructor
  · rintro ⟨o, ho, hs⟩
    exact (h o ho).1 hs
  · rintro ⟨o, ho, _, hr⟩
    exact (h o ho).2 hr

theorem isAccepted_ruling_iff (now : Int) :
    IsAccepted (.ok (ruling now t c)) ↔ now ≤ t.nonce.expiry := by
  constructor
  · rintro ⟨o, ho, hs⟩
    obtain rfl := Except.ok.inj ho
    by_contra hlt
    rw [ruling_of_lt (Int.not_le.mp hlt)] at hs
    cases hs
  · intro hle
    exact ⟨_, rfl, by rw [ruling_of_le hle]; rfl⟩

theorem isExpired_ruling_iff (now : Int) :
    IsExpired (.ok (ruling now t c)) ↔ t.nonce.expiry < now := by
  constructor
  · rintro ⟨o, ho, hs, _⟩
    obtain rfl := Except.ok.inj ho
    by_contra hle
    rw [ruling_of_le (Int.not_lt.mp hle)] at hs
    cases hs
  · intro hlt
    exact ⟨_, rfl, by rw [ruling_of_lt hlt]; exact ⟨rfl, rfl⟩⟩

theorem timeDecides_ruling (now : Int) :
    TimeDecides t.nonce.expiry now (.ok (ruling now t c)) :=
  ⟨isAccepted_ruling_iff now, isExpired_ruling_iff now⟩

variable (config : Config) (store : Store σ) (cache : Cache) (state : σ)
  (authorization : Option String) (method : String) (uri uri₁ uri₂ : Value) (now now₁ now₂ : Int)

-- What a call asks and what it leaves behind is the same at all times
theorem verify_effects_eq :
    let v := fun uri now => verify config store cache state { authorization, method, uri, now }
    (v uri₁ now₁).asked = (v uri₂ now₂).asked ∧ (v uri₁ now₁).cache = (v uri₂ now₂).cache ∧
      (v uri₁ now₁).store = (v uri₂ now₂).store := by
  intro v
  obtain ⟨w, hw⟩ := verify_timeless_or_ruled config store cache state authorization method
  have heffects : ∀ uri now, (v uri now).asked = w.asked ∧ (v uri now).cache = w.cache ∧
      (v uri now).store = w.store := by
    intro uri now
    rcases hw with ⟨_, he⟩ | ⟨t, c, _, _, _, _, he⟩ <;> have hq := he uri now
    · exact ⟨Verification.asked_of_quiet hq, Verification.cache_of_quiet hq,
        Verification.store_of_quiet hq⟩
    · have hasked := Verification.asked_of_quiet hq
      have hcache := Verification.cache_of_quiet hq
      have hstore := Verification.store_of_quiet hq
      exact ⟨hasked, hcache, hstore⟩
  obtain ⟨ha₁, hc₁, hs₁⟩ := heffects uri₁ now₁
  obtain ⟨ha₂, hc₂, hs₂⟩ := heffects uri₂ now₂
  exact ⟨ha₁.trans ha₂.symm, hc₁.trans hc₂.symm, hs₁.trans hs₂.symm⟩

theorem outcome_eq_or_timeDecides :
    let v := fun uri now => verify config store cache state { authorization, method, uri, now }
    (v uri₁ now₁).outcome = (v uri₂ now₂).outcome ∨
      ∃ expiry, expiryOf? authorization = some expiry ∧
        TimeDecides expiry now₁ (v uri₁ now₁).outcome ∧
        TimeDecides expiry now₂ (v uri₂ now₂).outcome := by
  intro v
  obtain ⟨w, ⟨_, he⟩ | ⟨t, c, hb, hx, _, _, he⟩⟩ :=
    verify_timeless_or_ruled config store cache state authorization method
  · exact .inl ((Verification.outcome_of_quiet (he uri₁ now₁)).trans
      (Verification.outcome_of_quiet (he uri₂ now₂)).symm)
  · refine .inr ⟨_, expiryOf?_of_ticket hb hx, ?_, ?_⟩
    · rw [Verification.outcome_of_quiet (he uri₁ now₁)]
      exact timeDecides_ruling now₁
    · rw [Verification.outcome_of_quiet (he uri₂ now₂)]
      exact timeDecides_ruling now₂

theorem isExpired_verify_iff :
    let v := fun now => verify config store cache state { authorization, method, uri, now }
    IsExpired (v now).outcome ↔
      ∃ expiry, expiryOf? authorization = some expiry ∧ expiry < now ∧
        IsAccepted (v expiry).outcome := by
  intro v
  obtain ⟨w, ⟨hw, he⟩ | ⟨t, c, hb, hx, _, _, he⟩⟩ :=
    verify_timeless_or_ruled config store cache state authorization method
  · have hout : ∀ now, (v now).outcome = w.outcome := fun now =>
      Verification.outcome_of_quiet (he uri now)
    obtain ⟨ha, hex⟩ := not_decided_of_timeless hw
    constructor
    · exact fun h => absurd (hout now ▸ h) hex
    · rintro ⟨expiry, _, _, h⟩
      exact absurd (hout expiry ▸ h) ha
  · have hout : ∀ now, (v now).outcome = .ok (ruling now t c) := fun now =>
      Verification.outcome_of_quiet (he uri now)
    rw [hout now, isExpired_ruling_iff, expiryOf?_of_ticket hb hx]
    constructor
    · intro hlt
      refine ⟨_, rfl, hlt, ?_⟩
      rw [hout]
      exact (isAccepted_ruling_iff _).mpr (Int.le_refl _)
    · rintro ⟨expiry, hsome, hlt, _⟩
      obtain rfl := Option.some.inj hsome
      exact hlt

-- Behind an expiry stand a ticket and a credential that answers
theorem exists_ticket_of_isExpired
    (h : IsExpired (verify config store cache state { authorization, method, uri, now }).outcome) :
    ∃ t c, authorization.bind Directives.body? = some t.header ∧ Examined config t ∧
      Answers config method t c ∧
      Supplied store cache state t.answer.username
        (verify config store cache state { authorization, method, uri, now }).asked c := by
  obtain ⟨o, ho, -, hr⟩ := h
  obtain ⟨t, c, hb, hx, -, hc, hs⟩ := exists_ruling ho fun ht => ht.2 hr
  exact ⟨t, c, hb, hx, hc, hs⟩

-- Two calls that differ in the time and the address ask and learn the same. Their outcomes are
-- the same too, unless nothing but the time is left to decide; so an expiry is only reported of
-- a call that would have been accepted in time.
theorem verify_time_decides_last :
    (verify config store cache state ⟨authorization, method, uri₁, now₁⟩).asked
      = (verify config store cache state ⟨authorization, method, uri₂, now₂⟩).asked ∧
    (verify config store cache state ⟨authorization, method, uri₁, now₁⟩).cache
      = (verify config store cache state ⟨authorization, method, uri₂, now₂⟩).cache ∧
    (verify config store cache state ⟨authorization, method, uri₁, now₁⟩).store
      = (verify config store cache state ⟨authorization, method, uri₂, now₂⟩).store ∧
    ((verify config store cache state ⟨authorization, method, uri₁, now₁⟩).outcome
        = (verify config store cache state ⟨authorization, method, uri₂, now₂⟩).outcome ∨
      ∃ expiry, expiryOf? authorization = some expiry ∧
        TimeDecides expiry now₁
          (verify config store cache state ⟨authorization, method, uri₁, now₁⟩).outcome ∧
        TimeDecides expiry now₂
          (verify config store cache state ⟨authorization, method, uri₂, now₂⟩).outcome) ∧
    (IsExpired (verify config store cache state ⟨authorization, method, uri, now⟩).outcome ↔
      ∃ expiry, expiryOf? authorization = some expiry ∧ expiry < now ∧
        IsAccepted (verify config store cache state ⟨authorization, method, uri, expiry⟩).outcome) ∧
    (IsExpired (verify config store cache state ⟨authorization, method, uri, now⟩).outcome →
      ∃ t c, authorization.bind Directives.body? = some t.header ∧ Examined config t ∧
        Answers config method t c ∧
        Supplied store cache state t.answer.username
          (verify config store cache state ⟨authorization, method, uri, now⟩).asked c) := by
  obtain ⟨hasked, hcache, hstore⟩ := verify_effects_eq config store cache state authorization
    method uri₁ uri₂ now₁ now₂
  exact ⟨hasked, hcache, hstore,
    outcome_eq_or_timeDecides config store cache state authorization method uri₁ uri₂ now₁ now₂,
    isExpired_verify_iff config store cache state authorization method uri now,
    exists_ticket_of_isExpired config store cache state authorization method uri now⟩

end HttpDigest.Verifier
