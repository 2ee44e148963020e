import HttpDigest.Proofs.Runs

namespace HttpDigest.Verifier

variable {σ : Type} {config : Config} {store : Store σ} {cache : Cache} {state : σ}
  {attempt : Attempt} {t : Ticket} {username : String}

-- A lookup of a user is due: a header in the user's name passed every check up to its signature,
-- and the cache has no credential under this name, or one that makes another response
def LookupDue (config : Config) (cache : Cache) (attempt : Attempt) (username : String) : Prop :=
  ∃ t : Ticket, attempt.authorization.bind Directives.body? = some t.header ∧ Examined config t ∧
    t.answer.username = username ∧
    (cache.get? username = none ∨
      ∃ (c : Credential) (response : String), cache.get? username = some c ∧
        Response.compute (t.answer.input config.hashed.truthy c.secret.plain attempt.method)
          = .ok response ∧
        response ≠ t.answer.response)

-- What does not answer makes another response, for a protected answer always has one
theorem unanswered_iff {method : String} (hp : t.answer.Protected) :
    Unanswered config cache method t ↔
      cache.get? t.answer.username = none ∨
        ∃ (c : Credential) (response : String), cache.get? t.answer.username = some c ∧
          Response.compute (t.answer.input config.hashed.truthy c.secret.plain method)
            = .ok response ∧
          response ≠ t.answer.response := by
  constructor
  · intro hu
    cases hc : cache.get? t.answer.username with
    | none => exact .inl rfl
    | some c =>
        obtain ⟨response, hr⟩ := hp.compute_eq_ok config.hashed.truthy c.secret.plain method
        refine .inr ⟨c, response, rfl, hr, ?_⟩
        rintro rfl
        exact hu c hc hr
  · rintro (hnone | ⟨d, response, hd, hr, hne⟩) c hc ha
    · cases hnone.symm.trans hc
    · obtain rfl : d = c := Option.some.inj (hd.symm.trans hc)
      exact hne (Except.ok.inj (hr.symm.trans ha))

theorem lookupDue_of_unanswered
    (hb : attempt.authorization.bind Directives.body? = some t.header) (hx : Examined config t)
    (hu : Unanswered config cache attempt.method t) :
    LookupDue config cache attempt t.answer.username :=
  ⟨t, hb, hx, rfl, (unanswered_iff hx.isProtected).mp hu⟩

theorem asked_of_lookupDue (h : LookupDue config cache attempt username) :
    (verify config store cache state attempt).asked = [username] := by
  obtain ⟨t, hb, hx, rfl, hcache⟩ := h
  have hu : Unanswered config cache attempt.method t := (unanswered_iff hx.isProtected).mpr hcache
  have hv : (verify config store cache state attempt).quiet
      = (ask (respond config attempt) store cache state attempt t).quiet :=
    (quiet_verify_of_ticket hb hx).trans (quiet_settle_of_unanswered hx.isProtected hu)
  exact Verification.asked_of_quiet (hv.trans quiet_ask)

-- The store is asked if a lookup is due, and never else
theorem asked_eq_singleton_iff :
    (verify config store cache state attempt).asked = [username] ↔
      LookupDue config cache attempt username := by
  refine ⟨fun h => ?_, asked_of_lookupDue⟩
  obtain ⟨v, hv, hcourse⟩ := exists_course config store cache state attempt
  rw [Verification.asked_of_quiet hv] at h
  cases hcourse with
  | passed hb => cases h
  | refused header refusal hb he => cases h
  | cached t c hb hx hc ha => cases h
  | found t c hb hx hu hr ha =>
      obtain rfl := List.singleton_inj.mp h
      exact lookupDue_of_unanswered hb hx hu
  | denied t hb hx hu hr =>
      obtain rfl := List.singleton_inj.mp h
      exact lookupDue_of_unanswered hb hx hu

theorem LookupDue.username?_eq (h : LookupDue config cache attempt username) :
    attempt.username? = some username := by
  obtain ⟨t, hb, hx, rfl, -⟩ := h
  exact Attempt.username?_of_ticket hb hx

-- A call asks the store once if a lookup is due, for the username of its header, and never else.
-- All that it changes is what this lookup changes in the store, and one entry of the cache if it
-- brought a credential.
theorem verify_asks_and_keeps (config : Config) (store : Store σ) (cache : Cache) (state : σ)
    (attempt : Attempt) :
    (((verify config store cache state attempt).asked = [] ∧
        (verify config store cache state attempt).store = state ∧
        (verify config store cache state attempt).cache = cache) ∨
      ∃ username, attempt.username? = some username ∧
        (verify config store cache state attempt).asked = [username] ∧
        (verify config store cache state attempt).store = store.next state username ∧
        ((∃ c, store.reply state username = .found c ∧
            (verify config store cache state attempt).cache = cache.put username c) ∨
          ((∀ c, store.reply state username ≠ .found c) ∧
            (verify config store cache state attempt).cache = cache))) ∧
    ∀ username, (verify config store cache state attempt).asked = [username] ↔
      LookupDue config cache attempt username := by
  refine ⟨?_, fun username => asked_eq_singleton_iff⟩
  rcases verify_effects config store cache state attempt with
    ⟨hasked, hcache, hstore⟩ | ⟨username, hasked, hcache, hstore⟩
  · exact .inl ⟨hasked, hstore, hcache⟩
  · have hdue : LookupDue config cache attempt username := asked_eq_singleton_iff.mp hasked
    refine .inr ⟨username, hdue.username?_eq, hasked, hstore, ?_⟩
    rw [hcache]
    exact fetch_cache_cases store cache state username

end HttpDigest.Verifier
