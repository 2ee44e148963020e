import HttpDigest.Proofs.Acceptance
import HttpDigest.Proofs.Course

namespace HttpDigest.Verifier

section Refresh

variable {σ : Type} {config : Config} {store : Store σ} {cache : Cache} {state : σ}
  {attempt : Attempt} {t : Ticket} {c : Credential} {o : Outcome}

-- A credential of the store that answers leaves only the time to decide, whatever the cache holds
theorem outcome_of_store_answers
    (hb : attempt.authorization.bind Directives.body? = some t.header) (hx : Examined config t)
    (hr : store.reply state t.answer.username = .found c)
    (ha : Answers config attempt.method t c) :
    (attempt.now ≤ t.nonce.expiry →
      ∃ d, (verify config store cache state attempt).outcome = .ok (.accepted d t.header)) ∧
    (t.nonce.expiry < attempt.now →
      (verify config store cache state attempt).outcome
        = .ok (.rejection .nonceExpired t.header t.answer.username [])) := by
  obtain ⟨d, hd⟩ : ∃ d, (verify config store cache state attempt).outcome
      = .ok (ruling attempt.now t d) := exists_ruling_of_found hb hx hr ha
  refine ⟨fun hle => ⟨d, hd.trans ?_⟩, fun hlt => hd.trans ?_⟩
  · rw [ruling_of_le hle]
  · rw [ruling_of_lt hlt]

-- A mismatch is only reported of a credential that the store has just brought
theorem exists_found_of_mismatch (h : (verify config store cache state attempt).outcome = .ok o)
    (hr : o.reason = some .digestMismatch) :
    ∃ (t : Ticket) (c : Credential) (response : String),
      attempt.authorization.bind Directives.body? = some t.header ∧ Examined config t ∧
      (verify config store cache state attempt).asked = [t.answer.username] ∧
      store.reply state t.answer.username = .found c ∧
      Response.compute (t.answer.input config.hashed.truthy c.secret.plain attempt.method)
        = .ok response ∧
      response ≠ t.answer.response := by
  obtain ⟨t, hb, hx, -, hasked, -, hrefusal, hno⟩ :=
    exists_denial_of_reason h hr (by decide) (by decide)
  obtain ⟨c, hfound⟩ := (refusal_mismatch_iff hrefusal).mp hr
  obtain ⟨response, hresponse⟩ :=
    hx.isProtected.compute_eq_ok config.hashed.truthy c.secret.plain attempt.method
  refine ⟨t, c, response, hb, hx, hasked, hfound, hresponse, ?_⟩
  rintro rfl
  exact hno c hfound hresponse

-- A user is only reported unknown if the store has just said so, and this leaves the cache as
-- it was
theorem exists_unknown_of_notFound
    (h : (verify config store cache state attempt).outcome = .ok o)
    (hr : o.reason = some .usernameNotFound) :
    ∃ (t : Ticket) (report : Report),
      attempt.authorization.bind Directives.body? = some t.header ∧ Examined config t ∧
      Unanswered config cache attempt.method t ∧
      (verify config store cache state attempt).asked = [t.answer.username] ∧
      store.reply state t.answer.username = .unknownUser report ∧
      (verify config store cache state attempt).cache = cache := by
  obtain ⟨t, hb, hx, hu, hasked, hcache, hrefusal, -⟩ :=
    exists_denial_of_reason h hr (by decide) (by decide)
  obtain ⟨report, hunknown⟩ := (refusal_notFound_iff hrefusal).mp hr
  refine ⟨t, report, hb, hx, hu, hasked, hunknown, hcache.trans ?_⟩
  exact fetch_cache_of_not_found fun c hc => nomatch hc.symm.trans hunknown

end Refresh

-- The cache never locks a user out, for the store has the last word on every answer that the
-- cache does not fit: it accepts what the store has a credential for, and what is put down to
-- the credential or to the user is what the store has just been asked for, once
theorem verify_refresh_decides {σ : Type} (config : Config) (store : Store σ) (cache : Cache)
    (state : σ) (attempt : Attempt) :
    (∀ (t : Ticket) (c : Credential),
      attempt.authorization.bind Directives.body? = some t.header → Examined config t →
      store.reply state t.answer.username = .found c →
      Response.compute (t.answer.input config.hashed.truthy c.secret.plain attempt.method)
        = .ok t.answer.response →
      (attempt.now ≤ t.nonce.expiry →
        ∃ d, (verify config store cache state attempt).outcome = .ok (.accepted d t.header)) ∧
      (t.nonce.expiry < attempt.now →
        (verify config store cache state attempt).outcome
          = .ok (.rejection .nonceExpired t.header t.answer.username []))) ∧
    (∀ o, (verify config store cache state attempt).outcome = .ok o →
      o.reason = some .digestMismatch →
      ∃ (t : Ticket) (c : Credential) (response : String),
        attempt.authorization.bind Directives.body? = some t.header ∧ Examined config t ∧
        (verify config store cache state attempt).asked = [t.answer.username] ∧
        store.reply state t.answer.username = .found c ∧
        Response.compute (t.answer.input config.hashed.truthy c.secret.plain attempt.method)
          = .ok response ∧
        response ≠ t.answer.response) ∧
    (∀ o, (verify config store cache state attempt).outcome = .ok o →
      o.reason = some .usernameNotFound →
      ∃ (t : Ticket) (report : Report),
        attempt.authorization.bind Directives.body? = some t.header ∧ Examined config t ∧
        (verify config store cache state attempt).asked = [t.answer.username] ∧
        store.reply state t.answer.username = .unknownUser report) := by
  refine ⟨fun t c hb hx hr ha => outcome_of_store_answers hb hx hr ha,
    fun o h hr => exists_found_of_mismatch h hr, fun o h hr => ?_⟩
  obtain ⟨t, report, hb, hx, -, hasked, hunknown, -⟩ := exists_unknown_of_notFound h hr
  exact ⟨t, report, hb, hx, hasked, hunknown⟩

def formerUser : Credential :=
  { sampleUser with secret := "old" }

def formerCache : Cache :=
  .memory none [("ann", formerUser)]

theorem formerUser_not_answers :
    ¬Answers sampleConfig sampleAttempt.method sampleTicket formerUser := by
  have hhash : Md5.hex (Response.ha1 "ann" "lab" "old" ++ ":"
      ++ "NToxOGVlOWEzZjkwMTk4NDUxMWVjZWVkNTVkZmQ1YzdmNQ==" ++ ":" ++ Response.ha2 "GET" "/")
      ≠ "049a285dd8f60e03386379684d5e6a22" := by decide +kernel
  unfold Answers
  rw [Response.compute_of_null rfl]
  exact fun h => hhash (Except.ok.inj h)

-- A directory without an answering credential has the call end as it says
theorem formerCache_refused (directory : Store.Directory)
    (h : ∀ c, Store.ofDirectory.reply directory "ann" = .found c → c = formerUser) :
    (verify sampleConfig Store.ofDirectory formerCache directory sampleAttempt).outcome
      = (Store.ofDirectory.reply directory "ann").refusal sampleTicket.header "ann" := by
  have hu : Unanswered sampleConfig formerCache sampleAttempt.method sampleTicket := by
    rintro c hc ha
    obtain rfl : formerUser = c := Option.some.inj hc
    exact formerUser_not_answers ha
  have hno : ∀ c, Store.ofDirectory.reply directory sampleTicket.answer.username = .found c →
      ¬Answers sampleConfig sampleAttempt.method sampleTicket c := by
    rintro c hc ha
    obtain rfl := h c hc
    exact formerUser_not_answers ha
  exact Verification.outcome_of_quiet
    ((quiet_verify_of_ticket (Directives.bind_body?_scheme _) sampleTicket_examined).trans
      (quiet_settle_of_refused sampleTicket_examined.isProtected hu hno))

theorem verify_refresh_decides_sample :
    Examined sampleConfig sampleTicket ∧
    Answers sampleConfig sampleAttempt.method sampleTicket sampleUser ∧
    (∃ d, (verify sampleConfig Store.ofDirectory formerCache [("ann", sampleUser)]
      sampleAttempt).outcome = .ok (.accepted d sampleTicket.header)) ∧
    (verify sampleConfig Store.ofDirectory formerCache [("ann", formerUser)]
      sampleAttempt).outcome = .ok (.rejection .digestMismatch sampleTicket.header "ann" []) ∧
    (∃ t : Ticket, (verify sampleConfig Store.ofDirectory formerCache [("ann", formerUser)]
      sampleAttempt).asked = [t.answer.username]) ∧
    (verify sampleConfig Store.ofDirectory formerCache [] sampleAttempt).outcome
      = .ok (.rejection .usernameNotFound sampleTicket.header "ann" []) ∧
    (∃ (t : Ticket) (report : Report),
      Store.ofDirectory.reply [] t.answer.username = .unknownUser report) := by
  have hmismatch := formerCache_refused [("ann", formerUser)] fun c hc =>
    (Reply.found.inj hc).symm
  have hunknown := formerCache_refused [] fun c hc => nomatch hc
  obtain ⟨haccept, -, -⟩ := verify_refresh_decides sampleConfig Store.ofDirectory formerCache
    [("ann", sampleUser)] sampleAttempt
  obtain ⟨-, hask, -⟩ := verify_refresh_decides sampleConfig Store.ofDirectory formerCache
    [("ann", formerUser)] sampleAttempt
  obtain ⟨-, -, hdeny⟩ := verify_refresh_decides sampleConfig Store.ofDirectory formerCache []
    sampleAttempt
  obtain ⟨t, c, response, -, -, hasked, -⟩ := hask _ hmismatch rfl
  obtain ⟨t', report, -, -, -, hreply⟩ := hdeny _ hunknown rfl
  exact ⟨sampleTicket_examined, sampleUser_answers,
    (haccept sampleTicket sampleUser (Directives.bind_body?_scheme _) sampleTicket_examined rfl
      sampleUser_answers).1 (by decide),
    hmismatch, ⟨t, hasked⟩, hunknown, ⟨t', report, hreply⟩⟩

end HttpDigest.Verifier
