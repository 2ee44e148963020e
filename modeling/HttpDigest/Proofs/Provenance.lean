import HttpDigest.Proofs.Acceptance
import HttpDigest.Proofs.Runs

namespace HttpDigest.Verifier

section Provenance

variable {σ : Type} {config : Config} {store : Store σ} {cache : Cache} {state : σ}
  {attempt : Attempt} {p : Point σ} {o : Outcome}

-- Whoever is accepted answers with the credential that the cache held, or with the one that a
-- lookup of this call brought
theorem exists_latest?_of_authenticated
    (h : (verify config store cache state attempt).outcome = .ok o)
    (ha : o.status = .authenticated) :
    ∃ (t : Ticket) (c : Credential),
      attempt.authorization.bind Directives.body? = some t.header ∧ Examined config t ∧
      Answers config attempt.method t c ∧ o.credential = some c ∧
      (Lookup.latest? t.answer.username
        (store.lookups state (verify config store cache state attempt).asked)).or
          (cache.get? t.answer.username) = some c := by
  obtain ⟨t, c, hb, hx, ho, hans, hsupplied⟩ := exists_ticket_of_authenticated h ha
  rw [ho] at ha ⊢
  refine ⟨t, c, hb, hx, hans, congrArg Outcome.credential (ruling_of_authenticated ha), ?_⟩
  rcases hsupplied with ⟨hasked, hc⟩ | ⟨hasked, hr⟩
  · rw [hasked, hc]
    rfl
  · have hfound : Lookup.found? ⟨t.answer.username, store.reply state t.answer.username⟩
        t.answer.username = some c := Lookup.found?_eq_some_iff.mpr ⟨rfl, hr⟩
    rw [hasked, Store.lookups, Store.lookups, Lookup.latest?_singleton, hfound]
    rfl

-- In a run, an accepted credential is the latest of all lookups up to and with those of its call,
-- if the cache was empty at first
theorem latest?_of_accepted (hc : p.cache.entries = []) (before : List (Event σ))
    (h : (verify config store (p.after config store before).cache
      (p.after config store before).store attempt).outcome = .ok o)
    (ha : o.status = .authenticated) :
    ∃ (t : Ticket) (c : Credential),
      attempt.authorization.bind Directives.body? = some t.header ∧ Examined config t ∧
      Answers config attempt.method t c ∧ o.credential = some c ∧
      Lookup.latest? t.answer.username
        (lookups config store p (before ++ [.request attempt])) = some c := by
  obtain ⟨t, c, hb, hx, hans, hcred, hlatest⟩ := exists_latest?_of_authenticated h ha
  refine ⟨t, c, hb, hx, hans, hcred, ?_⟩
  rw [lookups_append, lookups_request, Lookup.latest?_append, Option.or_eq_some_iff]
  rcases Option.or_eq_some_iff.mp hlatest with hnow | ⟨hnone, hcached⟩
  · exact .inl hnow
  · have hbefore := latest?_of_after (Cache.distinct_of_entries_eq_nil hc) before hcached
    rw [Cache.get?_of_entries_eq_nil hc, Option.or_none] at hbefore
    exact .inr ⟨hnone, hbefore⟩

end Provenance

-- Over a store that changes at will, a cache that was empty at first holds of each user the
-- credential that the latest lookup brought, and this credential alone is accepted: once a
-- lookup has brought another secret, an answer with the old one is not
theorem run_provenance {σ : Type} (config : Config) (store : Store σ) (cache : Cache) (state : σ)
    (hc : cache.entries = []) (events : List (Event σ)) :
    let p := Point.after config store ⟨cache, state⟩ events
    (∀ username c, (username, c) ∈ p.cache.entries →
      Lookup.latest? username (lookups config store ⟨cache, state⟩ events) = some c) ∧
    (∀ attempt username o, Attempt.username? attempt = some username →
      (verify config store p.cache p.store attempt).outcome = .ok o →
      o.status = .authenticated →
      ∃ c, o.credential = some c ∧ Lookup.latest? username
        (lookups config store ⟨cache, state⟩ (events ++ [.request attempt])) = some c) ∧
    (∀ (attempt : Attempt) (header : String) (a : Authorization) (c : Credential),
      attempt.authorization = some ("Digest " ++ header) →
      a.ReadFrom (Directives.read header) →
      Lookup.latest? a.username
        (lookups config store ⟨cache, state⟩ (events ++ [.request attempt])) = some c →
      Response.compute (a.input config.hashed.truthy c.secret.plain attempt.method)
        ≠ .ok a.response →
      ∀ o, (verify config store p.cache p.store attempt).outcome = .ok o →
        o.status ≠ .authenticated) := by
  intro p
  refine ⟨?_, ?_, ?_⟩
  · intro username c hmem
    have hd : p.cache.Distinct := distinct_after (Cache.distinct_of_entries_eq_nil hc) events
    have hlatest := latest?_of_after (p := ⟨cache, state⟩)
      (Cache.distinct_of_entries_eq_nil hc) events (OrderedMap.get?_eq_some_of_mem hd hmem)
    rwa [Cache.get?_of_entries_eq_nil hc, Option.or_none] at hlatest
  · intro attempt username o hu h ha
    obtain ⟨t, c, hb, hx, -, hcred, hlatest⟩ :=
      latest?_of_accepted (p := ⟨cache, state⟩) hc events h ha
    rw [Attempt.username?_of_ticket hb hx, Option.some.injEq] at hu
    exact ⟨c, hcred, hu ▸ hlatest⟩
  · intro attempt header a c hauth hr hlatest hno o h ha
    obtain ⟨t, d, hb, hx, hans, -, hlatest'⟩ :=
      latest?_of_accepted (p := ⟨cache, state⟩) hc events h ha
    have hbody : attempt.authorization.bind Directives.body? = some header := by
      rw [hauth]
      exact Directives.bind_body?_scheme header
    obtain rfl : t.header = header := Option.some.inj (hb.symm.trans hbody)
    obtain rfl : t.answer = a := hx.readFrom.unique hr
    obtain rfl : d = c := Option.some.inj (hlatest'.symm.trans hlatest)
    exact hno hans

theorem sample_from_store {σ : Type} {store : Store σ} {cache : Cache} {state : σ}
    (hc : cache.get? "ann" = none) (hr : store.reply state "ann" = .found sampleUser) :
    (verify sampleConfig store cache state sampleAttempt).quiet = {
      outcome := .ok (.accepted sampleUser sampleTicket.header)
      cache := cache.put "ann" sampleUser
      store := store.next state "ann"
      asked := ["ann"] } := by
  have hu : Unanswered sampleConfig cache sampleAttempt.method sampleTicket :=
    fun c hget => nomatch hc.symm.trans hget
  rw [quiet_verify_of_ticket (Directives.bind_body?_scheme _) sampleTicket_examined,
    quiet_settle_of_found sampleTicket_examined.isProtected hu hr sampleUser_answers,
    ruling_of_le (by decide)]
  rfl

theorem sample_from_cache {σ : Type} {store : Store σ} {cache : Cache} {state : σ}
    (hc : cache.get? "ann" = some sampleUser) :
    (verify sampleConfig store cache state sampleAttempt).quiet = {
      outcome := .ok (.accepted sampleUser sampleTicket.header)
      cache, store := state } := by
  rw [quiet_verify_of_ticket (Directives.bind_body?_scheme _) sampleTicket_examined,
    quiet_settle_of_cached hc sampleUser_answers, ruling_of_le (by decide)]

theorem username?_sampleAttempt : sampleAttempt.username? = some "ann" :=
  Attempt.username?_of_ticket (Directives.bind_body?_scheme _) sampleTicket_examined

-- Her first request brings her into a cache that has one place, her second one finds her there
theorem run_provenance_sample :
    (Cache.memory (some 1) []).entries = [] ∧
    (verify sampleConfig sampleStore (.memory (some 1) [("ann", sampleUser)]) ()
      sampleAttempt).outcome = .ok (.accepted sampleUser sampleTicket.header) ∧
    ∃ c, (Outcome.accepted sampleUser sampleTicket.header).credential = some c ∧
      Lookup.latest? "ann" (lookups sampleConfig sampleStore ⟨.memory (some 1) [], ()⟩
        [.request sampleAttempt, .request sampleAttempt]) = some c := by
  have hput : (verify sampleConfig sampleStore (.memory (some 1) []) () sampleAttempt).cache
      = .memory (some 1) [("ann", sampleUser)] :=
    Verification.cache_of_quiet (sample_from_store rfl rfl)
  have hcache : (Point.after sampleConfig sampleStore ⟨.memory (some 1) [], ()⟩
      [.request sampleAttempt]).cache = .memory (some 1) [("ann", sampleUser)] := by
    simp only [Point.after, List.foldl_cons, List.foldl_nil, Point.next, hput]
  have hout : ∀ state, (verify sampleConfig sampleStore (.memory (some 1) [("ann", sampleUser)])
      state sampleAttempt).outcome = .ok (.accepted sampleUser sampleTicket.header) := fun _ =>
    Verification.outcome_of_quiet (sample_from_cache rfl)
  obtain ⟨-, haccepted, -⟩ := run_provenance sampleConfig sampleStore (.memory (some 1) []) ()
    rfl [.request sampleAttempt]
  rw [hcache] at haccepted
  exact ⟨rfl, hout (), haccepted sampleAttempt "ann" _ username?_sampleAttempt (hout _) rfl⟩

end HttpDigest.Verifier
