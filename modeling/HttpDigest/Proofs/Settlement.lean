import HttpDigest.Proofs.Examination

namespace HttpDigest

-- What a call ends with if the reply of the store brings no credential that answers
def Reply.refusal (header username : Value) : Reply → Except Failure Outcome
  | .found _ => .ok (.rejection .digestMismatch header username [])
  | .unknownUser _ => .ok (.rejection .usernameNotFound header username [])
  | .nothing => .ok (.failure .serviceMisconfigured header username .null)
  | .misconfigured _ => .ok (.failure .serviceMisconfigured header username .null)
  | .failed _ => .ok (.failure .credentialStoreError header username .null)
  | .broken failure => .error failure

def Outcome.Timeless (o : Outcome) : Prop :=
  o.status ≠ .authenticated ∧ o.reason ≠ some .nonceExpired

theorem Reply.timeless_of_refusal {header username : Value} {reply : Reply} {o : Outcome}
    (h : reply.refusal header username = .ok o) : o.Timeless := by
  cases reply <;> simp only [refusal, Except.ok.injEq, reduceCtorEq] at h <;> subst h <;>
    simp [Outcome.Timeless, Outcome.rejection, Outcome.failure]

theorem Verifier.timeless_of_examine {config : Config} {header : String} {refusal : Refusal}
    (h : examine config header = .error refusal) : (refusal.outcome header).Timeless := by
  refine ⟨by simp [Refusal.outcome, Outcome.rejection], fun hr => ?_⟩
  have hearly := reason_mem_early h
  simp only [Refusal.outcome, Outcome.rejection, Option.some.injEq] at hr
  rw [hr] at hearly
  simp [Reason.early] at hearly

namespace Verifier

variable {σ : Type} {config : Config} {store : Store σ} {cache : Cache} {state : σ}
  {attempt : Attempt} {t : Ticket} {c : Credential}

-- The secret of a credential makes the response that the client sent
def Answers (config : Config) (method : String) (t : Ticket) (c : Credential) : Prop :=
  Response.compute (t.answer.input config.hashed.truthy c.secret.plain method)
    = .ok t.answer.response

def Unanswered (config : Config) (cache : Cache) (method : String) (t : Ticket) : Prop :=
  ∀ c, cache.get? t.answer.username = some c → ¬Answers config method t c

-- Where a credential comes from: the cache as the call found it, or the store if it was asked
def Supplied (store : Store σ) (cache : Cache) (state : σ) (username : String)
    (asked : List String) (c : Credential) : Prop :=
  (asked = [] ∧ cache.get? username = some c) ∨
  (asked = [username] ∧ store.reply state username = .found c)

-- What a call ends with once a credential answers: only the time is left to check
def ruling (now : Int) (t : Ticket) (c : Credential) : Outcome :=
  if t.nonce.isExpired now then .rejection .nonceExpired t.header t.answer.username []
  else .accepted c t.header

theorem ruling_of_le {now : Int} (h : now ≤ t.nonce.expiry) :
    ruling now t c = .accepted c t.header := by
  simp [ruling, Nonce.isExpired, Int.not_lt.mpr h]

theorem ruling_of_lt {now : Int} (h : t.nonce.expiry < now) :
    ruling now t c = .rejection .nonceExpired t.header t.answer.username [] := by
  simp [ruling, Nonce.isExpired, h]

-- A ruling that accepts is made in time
theorem ruling_of_authenticated {now : Int} (h : (ruling now t c).status = .authenticated) :
    ruling now t c = .accepted c t.header := by
  by_cases hle : now ≤ t.nonce.expiry
  · exact ruling_of_le hle
  · rw [ruling_of_lt (Int.not_le.mp hle)] at h
    cases h

theorem not_timeless_ruling (now : Int) (t : Ticket) (c : Credential) :
    ¬(ruling now t c).Timeless := by
  intro h
  by_cases hle : now ≤ t.nonce.expiry
  · rw [ruling_of_le hle] at h
    exact h.1 rfl
  · rw [ruling_of_lt (Int.not_le.mp hle)] at h
    exact h.2 rfl

def Verification.quiet (v : Verification σ) : Verification σ :=
  { v with log := [] }

namespace Verification

variable {v w : Verification σ}

theorem outcome_of_quiet (h : v.quiet = w) : v.outcome = w.outcome := h ▸ rfl

theorem cache_of_quiet (h : v.quiet = w) : v.cache = w.cache := h ▸ rfl

theorem store_of_quiet (h : v.quiet = w) : v.store = w.store := h ▸ rfl

theorem asked_of_quiet (h : v.quiet = w) : v.asked = w.asked := h ▸ rfl

end Verification

theorem conclude_of_ne {response : String} (h : response ≠ t.answer.response) :
    (conclude attempt t c response).1
      = .ok (.rejection .digestMismatch t.header t.answer.username []) := by
  simp [conclude, h, reject]

theorem conclude_self :
    (conclude attempt t c t.answer.response).1 = .ok (ruling attempt.now t c) := by
  unfold conclude ruling
  split
  · rename_i h
    exact absurd rfl h
  · split <;> rfl

theorem respond_of_answers (ha : Answers config attempt.method t c) :
    respond config attempt t c = .ok t.answer.response := by
  have he : expected config attempt t c = .ok t.answer.response := ha
  simp only [respond, he]
  rfl

theorem exists_respond_of_not_answers (hp : t.answer.Protected)
    (hn : ¬Answers config attempt.method t c) :
    ∃ response, respond config attempt t c = .ok response ∧ response ≠ t.answer.response := by
  obtain ⟨response, hr⟩ := hp.compute_eq_ok config.hashed.truthy c.secret.plain attempt.method
  have he : expected config attempt t c = .ok response := hr
  refine ⟨response, by simp only [respond, he]; rfl, ?_⟩
  rintro rfl
  exact hn hr

theorem judge_of_answers (ha : Answers config attempt.method t c) :
    (judge (respond config attempt) attempt t (.found c)).1 = .ok (ruling attempt.now t c) := by
  simp only [judge, respond_of_answers ha]
  exact conclude_self

theorem judge_of_not_answers {reply : Reply} (hp : t.answer.Protected)
    (hr : ∀ c, reply = .found c → ¬Answers config attempt.method t c) :
    (judge (respond config attempt) attempt t reply).1
      = reply.refusal t.header t.answer.username := by
  cases reply with
  | found c =>
      obtain ⟨response, he, hne⟩ := exists_respond_of_not_answers hp (hr c rfl)
      simp only [judge, he]
      exact conclude_of_ne hne
  | nothing => rfl
  | unknownUser report => rfl
  | misconfigured report => rfl
  | failed report => rfl
  | broken failure => rfl

theorem quiet_ask {respond : Responder} :
    (ask respond store cache state attempt t).quiet = {
      outcome := (judge respond attempt t (store.reply state t.answer.username)).1
      cache := (fetch store cache state t.answer.username).cache
      store := store.next state t.answer.username
      asked := [t.answer.username] } := rfl

-- A cached credential that answers is enough, the store is not asked
theorem quiet_settle_of_cached (hc : cache.get? t.answer.username = some c)
    (ha : Answers config attempt.method t c) :
    (settle (respond config attempt) store cache state attempt t).quiet =
      { outcome := .ok (ruling attempt.now t c), cache, store := state } := by
  simp only [settle, hc, respond_of_answers ha, if_true, ← conclude_self]
  rfl

-- In every other case the store decides
theorem quiet_settle_of_unanswered (hp : t.answer.Protected)
    (hu : Unanswered config cache attempt.method t) :
    (settle (respond config attempt) store cache state attempt t).quiet
      = (ask (respond config attempt) store cache state attempt t).quiet := by
  unfold settle
  split
  · rfl
  · rename_i cached hc
    obtain ⟨response, he, hne⟩ := exists_respond_of_not_answers hp (hu cached hc)
    simp only [he, if_neg hne]
    rfl

theorem quiet_settle_of_found (hp : t.answer.Protected)
    (hu : Unanswered config cache attempt.method t)
    (hr : store.reply state t.answer.username = .found c)
    (ha : Answers config attempt.method t c) :
    (settle (respond config attempt) store cache state attempt t).quiet = {
      outcome := .ok (ruling attempt.now t c)
      cache := cache.put t.answer.username c
      store := store.next state t.answer.username
      asked := [t.answer.username] } := by
  rw [quiet_settle_of_unanswered hp hu, quiet_ask, hr, judge_of_answers ha]
  simp only [fetch, hr]

theorem quiet_settle_of_refused (hp : t.answer.Protected)
    (hu : Unanswered config cache attempt.method t)
    (hr : ∀ c, store.reply state t.answer.username = .found c →
      ¬Answers config attempt.method t c) :
    (settle (respond config attempt) store cache state attempt t).quiet = {
      outcome := (store.reply state t.answer.username).refusal t.header t.answer.username
      cache := (fetch store cache state t.answer.username).cache
      store := store.next state t.answer.username
      asked := [t.answer.username] } := by
  rw [quiet_settle_of_unanswered hp hu, quiet_ask, judge_of_not_answers hp hr]

-- The three cases leave no other
theorem settle_cases (config : Config) (cache : Cache) (method : String) (t : Ticket)
    (reply : Reply) :
    (∃ c, cache.get? t.answer.username = some c ∧ Answers config method t c) ∨
    (Unanswered config cache method t ∧ ∃ c, reply = .found c ∧ Answers config method t c) ∨
    (Unanswered config cache method t ∧ ∀ c, reply = .found c → ¬Answers config method t c) := by
  by_cases hc : ∃ c, cache.get? t.answer.username = some c ∧ Answers config method t c
  · exact .inl hc
  have hu : Unanswered config cache method t := fun c hget ha => hc ⟨c, hget, ha⟩
  by_cases hf : ∃ c, reply = .found c ∧ Answers config method t c
  · exact .inr (.inl ⟨hu, hf⟩)
  · exact .inr (.inr ⟨hu, fun c hr ha => hf ⟨c, hr, ha⟩⟩)

theorem verify_cases (config : Config) (authorization : Option String) :
    authorization.bind Directives.body? = none ∨
    (∃ header refusal, authorization.bind Directives.body? = some header ∧
      examine config header = .error refusal) ∨
    (∃ t : Ticket, authorization.bind Directives.body? = some t.header ∧ Examined config t) := by
  cases hb : authorization.bind Directives.body? with
  | none => exact .inl rfl
  | some header =>
      cases he : examine config header with
      | error refusal => exact .inr (.inl ⟨header, refusal, rfl, he⟩)
      | ok t =>
          obtain ⟨rfl, hx⟩ := examine_eq_ok_iff.mp he
          exact .inr (.inr ⟨t, rfl, hx⟩)

-- A header makes one ticket
theorem Examined.unique {authorization : Option String} {t t' : Ticket}
    (hb : authorization.bind Directives.body? = some t.header) (hx : Examined config t)
    (hb' : authorization.bind Directives.body? = some t'.header) (hx' : Examined config t') :
    t' = t := by
  have hheader : t.header = t'.header := Option.some.inj (hb.symm.trans hb')
  have he : examine config t'.header = .ok t := examine_eq_ok_iff.mpr ⟨hheader, hx⟩
  have he' : examine config t'.header = .ok t' := examine_eq_ok_iff.mpr ⟨rfl, hx'⟩
  exact Except.ok.inj (he'.symm.trans he)

theorem quiet_verify_of_no_scheme (hn : attempt.authorization.bind Directives.body? = none) :
    (verify config store cache state attempt).quiet =
      { outcome := .ok .unauthenticated, cache, store := state } := by
  simp only [verify, verifyBy, hn]
  rfl

theorem quiet_verify_of_refusal {header : String} {refusal : Refusal}
    (hb : attempt.authorization.bind Directives.body? = some header)
    (he : examine config header = .error refusal) :
    (verify config store cache state attempt).quiet =
      { outcome := .ok (refusal.outcome header), cache, store := state } := by
  simp only [verify, verifyBy, hb, he]
  rfl

theorem quiet_verify_of_ticket
    (hb : attempt.authorization.bind Directives.body? = some t.header)
    (hx : Examined config t) :
    (verify config store cache state attempt).quiet
      = (settle (respond config attempt) store cache state attempt t).quiet := by
  simp only [verify, verifyBy, hb, examine_eq_ok_iff.mpr ⟨rfl, hx⟩]
  rfl

-- With a ticket a call ends with a ruling, unless the store was asked and has no credential that
-- answers
theorem exists_ruling_or_refused
    (hb : attempt.authorization.bind Directives.body? = some t.header) (hx : Examined config t) :
    (∃ d, (verify config store cache state attempt).outcome = .ok (ruling attempt.now t d)) ∨
    ((verify config store cache state attempt).asked = [t.answer.username] ∧
      ∀ c, store.reply state t.answer.username = .found c →
        ¬Answers config attempt.method t c) := by
  have hv : (verify config store cache state attempt).quiet
      = (settle (respond config attempt) store cache state attempt t).quiet :=
    quiet_verify_of_ticket hb hx
  rcases settle_cases config cache attempt.method t (store.reply state t.answer.username) with
    ⟨d, hd, hans⟩ | ⟨hu, d, hd, hans⟩ | ⟨hu, hno⟩
  · exact .inl ⟨d, Verification.outcome_of_quiet (hv.trans (quiet_settle_of_cached hd hans))⟩
  · exact .inl ⟨d, Verification.outcome_of_quiet
      (hv.trans (quiet_settle_of_found hx.isProtected hu hd hans))⟩
  · exact .inr ⟨Verification.asked_of_quiet
      (hv.trans (quiet_settle_of_refused hx.isProtected hu hno)), hno⟩

-- If the store has a credential that answers, then whatever the cache holds only the time is left
theorem exists_ruling_of_found
    (hb : attempt.authorization.bind Directives.body? = some t.header) (hx : Examined config t)
    (hr : store.reply state t.answer.username = .found c)
    (ha : Answers config attempt.method t c) :
    ∃ d, (verify config store cache state attempt).outcome = .ok (ruling attempt.now t d) := by
  rcases exists_ruling_or_refused hb hx with hruled | ⟨-, hno⟩
  · exact hruled
  · exact absurd ha (hno c hr)

-- So it is if the call came by a credential that answers
theorem exists_ruling_of_supplied
    (hb : attempt.authorization.bind Directives.body? = some t.header) (hx : Examined config t)
    (ha : Answers config attempt.method t c)
    (hs : Supplied store cache state t.answer.username
      (verify config store cache state attempt).asked c) :
    ∃ d, (verify config store cache state attempt).outcome = .ok (ruling attempt.now t d) := by
  rcases exists_ruling_or_refused hb hx with hruled | ⟨hasked, hno⟩
  · exact hruled
  · rcases hs with ⟨hnil, -⟩ | ⟨-, hfound⟩
    · cases hasked.symm.trans hnil
    · exact absurd ha (hno c hfound)

-- Either neither the time nor the address of the request has a say, or all hangs on the time:
-- a ticket and a credential that answers stand fixed
theorem verify_timeless_or_ruled (config : Config) (store : Store σ) (cache : Cache) (state : σ)
    (authorization : Option String) (method : String) :
    ∃ v : Verification σ,
      ((∀ o, v.outcome = .ok o → o.Timeless) ∧ ∀ uri now,
        (verify config store cache state { authorization, method, uri, now }).quiet = v) ∨
      (∃ (t : Ticket) (c : Credential),
        authorization.bind Directives.body? = some t.header ∧ Examined config t ∧
        Answers config method t c ∧ Supplied store cache state t.answer.username v.asked c ∧
        ∀ uri now, (verify config store cache state { authorization, method, uri, now }).quiet
          = { v with outcome := .ok (ruling now t c) }) := by
  rcases verify_cases config authorization with hb | ⟨header, refusal, hb, he⟩ | ⟨t, hb, hx⟩
  · refine ⟨_, .inl ⟨?_, fun uri now => quiet_verify_of_no_scheme hb⟩⟩
    rintro o ho
    obtain rfl := Except.ok.inj ho
    simp [Outcome.Timeless, Outcome.unauthenticated]
  · refine ⟨_, .inl ⟨?_, fun uri now => quiet_verify_of_refusal hb he⟩⟩
    rintro o ho
    obtain rfl := Except.ok.inj ho
    exact timeless_of_examine he
  · rcases settle_cases config cache method t (store.reply state t.answer.username) with
      ⟨c, hc, ha⟩ | ⟨hu, c, hr, ha⟩ | ⟨hu, hr⟩
    · exact ⟨{ outcome := .ok .unauthenticated, cache, store := state },
        .inr ⟨t, c, hb, hx, ha, .inl ⟨rfl, hc⟩, fun uri now =>
          (quiet_verify_of_ticket hb hx).trans (quiet_settle_of_cached hc ha)⟩⟩
    · exact ⟨{
          outcome := .ok .unauthenticated
          cache := cache.put t.answer.username c
          store := store.next state t.answer.username
          asked := [t.answer.username] },
        .inr ⟨t, c, hb, hx, ha, .inr ⟨rfl, hr⟩, fun uri now =>
          (quiet_verify_of_ticket hb hx).trans (quiet_settle_of_found hx.isProtected hu hr ha)⟩⟩
    · exact ⟨_, .inl ⟨fun o ho => Reply.timeless_of_refusal ho, fun uri now =>
        (quiet_verify_of_ticket hb hx).trans (quiet_settle_of_refused hx.isProtected hu hr)⟩⟩

-- The address of a request has no say in its outcome
theorem outcome_uri_eq (config : Config) (store : Store σ) (cache : Cache) (state : σ)
    (authorization : Option String) (method : String) (uri uri' : Value) (now : Int) :
    (verify config store cache state { authorization, method, uri, now }).outcome
      = (verify config store cache state { authorization, method, uri := uri', now }).outcome := by
  obtain ⟨v, ⟨-, he⟩ | ⟨t, c, -, -, -, -, he⟩⟩ :=
    verify_timeless_or_ruled config store cache state authorization method
  · exact (Verification.outcome_of_quiet (he uri now)).trans
      (Verification.outcome_of_quiet (he uri' now)).symm
  · exact (Verification.outcome_of_quiet (he uri now)).trans
      (Verification.outcome_of_quiet (he uri' now)).symm

-- So an outcome that accepts, or speaks of the time, is a ruling
theorem exists_ruling {o : Outcome}
    (h : (verify config store cache state attempt).outcome = .ok o) (ht : ¬o.Timeless) :
    ∃ (t : Ticket) (c : Credential),
      attempt.authorization.bind Directives.body? = some t.header ∧ Examined config t ∧
      o = ruling attempt.now t c ∧ Answers config attempt.method t c ∧
      Supplied store cache state t.answer.username
        (verify config store cache state attempt).asked c := by
  obtain ⟨v, ⟨hv, he⟩ | ⟨t, c, hb, hx, hc, hs, he⟩⟩ :=
    verify_timeless_or_ruled config store cache state attempt.authorization attempt.method
  · have ho := (Verification.outcome_of_quiet (he attempt.uri attempt.now)).symm.trans h
    exact absurd (hv o ho) ht
  · have ho := (Verification.outcome_of_quiet (he attempt.uri attempt.now)).symm.trans h
    have hasked := Verification.asked_of_quiet (he attempt.uri attempt.now)
    exact ⟨t, c, hb, hx, (Except.ok.inj ho).symm, hc, hasked ▸ hs⟩

-- The time is blamed exactly if the response was right and nothing but the time spoke against it
theorem nonceExpired_iff {o : Outcome}
    (h : (verify config store cache state attempt).outcome = .ok o) :
    o.reason = some .nonceExpired ↔ ∃ (t : Ticket) (c : Credential),
      attempt.authorization.bind Directives.body? = some t.header ∧ Examined config t ∧
      Answers config attempt.method t c ∧
      Supplied store cache state t.answer.username
        (verify config store cache state attempt).asked c ∧
      t.nonce.expiry < attempt.now := by
  constructor
  · intro hr
    obtain ⟨t, c, hb, hx, rfl, ha, hs⟩ := exists_ruling h fun ht => ht.2 hr
    refine ⟨t, c, hb, hx, ha, hs, ?_⟩
    by_contra hle
    rw [ruling_of_le (Int.not_lt.mp hle)] at hr
    cases hr
  · rintro ⟨t, c, hb, hx, ha, hs, hlt⟩
    obtain ⟨d, hd⟩ := exists_ruling_of_supplied hb hx ha hs
    obtain rfl := Except.ok.inj (hd.symm.trans h)
    rw [ruling_of_lt hlt]
    rfl

-- A call that the time spoke against ends with a refusal
theorem rejected_of_nonceExpired {o : Outcome}
    (h : (verify config store cache state attempt).outcome = .ok o)
    (hr : o.reason = some .nonceExpired) : o.status = .rejected := by
  obtain ⟨t, c, -, -, rfl, -, -⟩ := exists_ruling h fun ht => ht.2 hr
  by_cases hle : attempt.now ≤ t.nonce.expiry
  · rw [ruling_of_le hle] at hr
    cases hr
  · rw [ruling_of_lt (Int.not_le.mp hle)]
    rfl

end Verifier

end HttpDigest
