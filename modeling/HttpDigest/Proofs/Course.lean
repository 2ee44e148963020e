import HttpDigest.Proofs.Settlement

namespace HttpDigest.Verifier

variable {σ : Type} {config : Config} {store : Store σ} {cache : Cache} {state : σ}
  {attempt : Attempt} {t : Ticket} {o : Outcome}

-- The courses that a call can take, each with all that it shows save for the log. The store is
-- asked in the last two only.
inductive Course (config : Config) (store : Store σ) (cache : Cache) (state : σ)
    (attempt : Attempt) : Verification σ → Prop
  | passed (hb : attempt.authorization.bind Directives.body? = none) :
      Course config store cache state attempt
        { outcome := .ok .unauthenticated, cache, store := state }
  | refused (header : String) (refusal : Refusal)
      (hb : attempt.authorization.bind Directives.body? = some header)
      (he : examine config header = .error refusal) :
      Course config store cache state attempt
        { outcome := .ok (refusal.outcome header), cache, store := state }
  | cached (t : Ticket) (c : Credential)
      (hb : attempt.authorization.bind Directives.body? = some t.header)
      (hx : Examined config t) (hc : cache.get? t.answer.username = some c)
      (ha : Answers config attempt.method t c) :
      Course config store cache state attempt
        { outcome := .ok (ruling attempt.now t c), cache, store := state }
  | found (t : Ticket) (c : Credential)
      (hb : attempt.authorization.bind Directives.body? = some t.header)
      (hx : Examined config t) (hu : Unanswered config cache attempt.method t)
      (hr : store.reply state t.answer.username = .found c)
      (ha : Answers config attempt.method t c) :
      Course config store cache state attempt {
        outcome := .ok (ruling attempt.now t c)
        cache := cache.put t.answer.username c
        store := store.next state t.answer.username
        asked := [t.answer.username] }
  | denied (t : Ticket) (hb : attempt.authorization.bind Directives.body? = some t.header)
      (hx : Examined config t) (hu : Unanswered config cache attempt.method t)
      (hr : ∀ c, store.reply state t.answer.username = .found c →
        ¬Answers config attempt.method t c) :
      Course config store cache state attempt {
        outcome := (store.reply state t.answer.username).refusal t.header t.answer.username
        cache := (fetch store cache state t.answer.username).cache
        store := store.next state t.answer.username
        asked := [t.answer.username] }

-- Every call takes one of them
theorem verify_course (config : Config) (store : Store σ) (cache : Cache) (state : σ)
    (attempt : Attempt) :
    Course config store cache state attempt (verify config store cache state attempt).quiet := by
  rcases verify_cases config attempt.authorization with
    hb | ⟨header, refusal, hb, he⟩ | ⟨t, hb, hx⟩
  · rw [quiet_verify_of_no_scheme hb]
    exact .passed hb
  · rw [quiet_verify_of_refusal hb he]
    exact .refused header refusal hb he
  · rw [quiet_verify_of_ticket hb hx]
    rcases settle_cases config cache attempt.method t (store.reply state t.answer.username) with
      ⟨c, hc, ha⟩ | ⟨hu, c, hr, ha⟩ | ⟨hu, hr⟩
    · rw [quiet_settle_of_cached hc ha]
      exact .cached t c hb hx hc ha
    · rw [quiet_settle_of_found hx.isProtected hu hr ha]
      exact .found t c hb hx hu hr ha
    · rw [quiet_settle_of_refused hx.isProtected hu hr]
      exact .denied t hb hx hu hr

theorem exists_course (config : Config) (store : Store σ) (cache : Cache) (state : σ)
    (attempt : Attempt) :
    ∃ v, (verify config store cache state attempt).quiet = v ∧
      Course config store cache state attempt v :=
  ⟨_, rfl, verify_course config store cache state attempt⟩

theorem fetch_cache_of_found {username : String} {c : Credential}
    (h : store.reply state username = .found c) :
    (fetch store cache state username).cache = cache.put username c := by
  simp only [fetch, h]

theorem fetch_cache_of_not_found {username : String}
    (h : ∀ c, store.reply state username ≠ .found c) :
    (fetch store cache state username).cache = cache := by
  cases hr : store.reply state username with
  | found c => exact absurd hr (h c)
  | nothing => simp only [fetch, hr]
  | unknownUser report => simp only [fetch, hr]
  | misconfigured report => simp only [fetch, hr]
  | failed report => simp only [fetch, hr]
  | broken failure => simp only [fetch, hr]

-- A lookup brings one entry into the cache, or leaves it as it was
theorem fetch_cache_cases (store : Store σ) (cache : Cache) (state : σ) (username : String) :
    (∃ c, store.reply state username = .found c ∧
      (fetch store cache state username).cache = cache.put username c) ∨
    ((∀ c, store.reply state username ≠ .found c) ∧
      (fetch store cache state username).cache = cache) := by
  by_cases hf : ∃ c, store.reply state username = .found c
  · obtain ⟨c, hc⟩ := hf
    exact .inl ⟨c, hc, fetch_cache_of_found hc⟩
  · have hno : ∀ c, store.reply state username ≠ .found c := fun c hc => hf ⟨c, hc⟩
    exact .inr ⟨hno, fetch_cache_of_not_found hno⟩

-- What a call asks, and what it leaves behind: all as it was, or the traces of one lookup
theorem verify_effects (config : Config) (store : Store σ) (cache : Cache) (state : σ)
    (attempt : Attempt) :
    ((verify config store cache state attempt).asked = [] ∧
      (verify config store cache state attempt).cache = cache ∧
      (verify config store cache state attempt).store = state) ∨
    ∃ username, (verify config store cache state attempt).asked = [username] ∧
      (verify config store cache state attempt).cache
        = (fetch store cache state username).cache ∧
      (verify config store cache state attempt).store = store.next state username := by
  obtain ⟨v, hv, hcourse⟩ := exists_course config store cache state attempt
  rw [Verification.asked_of_quiet hv, Verification.cache_of_quiet hv,
    Verification.store_of_quiet hv]
  cases hcourse with
  | passed hb => exact .inl ⟨rfl, rfl, rfl⟩
  | refused header refusal hb he => exact .inl ⟨rfl, rfl, rfl⟩
  | cached t c hb hx hc ha => exact .inl ⟨rfl, rfl, rfl⟩
  | found t c hb hx hu hr ha =>
      exact .inr ⟨t.answer.username, rfl, (fetch_cache_of_found hr).symm, rfl⟩
  | denied t hb hx hu hr => exact .inr ⟨t.answer.username, rfl, rfl, rfl⟩

theorem refusal_mismatch_iff {reply : Reply} {header username : Value}
    (h : reply.refusal header username = .ok o) :
    o.reason = some .digestMismatch ↔ ∃ c, reply = .found c := by
  cases reply <;> simp only [Reply.refusal, Except.ok.injEq, reduceCtorEq] at h <;> subst h <;>
    simp [Outcome.rejection, Outcome.failure]

theorem refusal_notFound_iff {reply : Reply} {header username : Value}
    (h : reply.refusal header username = .ok o) :
    o.reason = some .usernameNotFound ↔ ∃ report, reply = .unknownUser report := by
  cases reply <;> simp only [Reply.refusal, Except.ok.injEq, reduceCtorEq] at h <;> subst h <;>
    simp [Outcome.rejection, Outcome.failure]

-- A reason that is not one of the header alone, nor that of the time, comes from a reply: the
-- store was asked, and brought no credential that answers
theorem exists_denial_of_reason {reason : Reason}
    (h : (verify config store cache state attempt).outcome = .ok o)
    (hr : o.reason = some reason) (hearly : reason ∉ Reason.early)
    (htime : reason ≠ .nonceExpired) :
    ∃ t : Ticket, attempt.authorization.bind Directives.body? = some t.header ∧
      Examined config t ∧ Unanswered config cache attempt.method t ∧
      (verify config store cache state attempt).asked = [t.answer.username] ∧
      (verify config store cache state attempt).cache
        = (fetch store cache state t.answer.username).cache ∧
      (store.reply state t.answer.username).refusal t.header t.answer.username = .ok o ∧
      ∀ c, store.reply state t.answer.username = .found c →
        ¬Answers config attempt.method t c := by
  obtain ⟨v, hv, hcourse⟩ := exists_course config store cache state attempt
  have ho : v.outcome = .ok o := (Verification.outcome_of_quiet hv).symm.trans h
  have hruled : ∀ (t : Ticket) (c : Credential), ruling attempt.now t c ≠ o := by
    rintro t c rfl
    unfold ruling at hr
    split at hr
    · exact htime (Option.some.inj hr).symm
    · cases hr
  cases hcourse with
  | passed hb =>
      obtain rfl := Except.ok.inj ho
      cases hr
  | refused header refusal hb he =>
      obtain rfl := Except.ok.inj ho
      obtain rfl : refusal.reason = reason := Option.some.inj hr
      exact absurd (reason_mem_early he) hearly
  | cached t c hb hx hc ha => exact absurd (Except.ok.inj ho) (hruled t c)
  | found t c hb hx hu hans ha => exact absurd (Except.ok.inj ho) (hruled t c)
  | denied t hb hx hu hno =>
      exact ⟨t, hb, hx, hu, Verification.asked_of_quiet hv, Verification.cache_of_quiet hv, ho,
        hno⟩

end HttpDigest.Verifier
