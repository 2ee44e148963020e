import HttpDigest.Proofs.Prehashed
import HttpDigest.Proofs.Revocation
import HttpDigest.Proofs.WellFormed

namespace HttpDigest

structure Credential.SameButSecret (c d : Credential) : Prop where
  username : d.username = c.username
  identity : d.identity = c.identity

-- What may be shown of an outcome does not hang on the secret in it
theorem Outcome.summary_congr {o o' : Outcome} (h : o'.withoutSecret = o.withoutSecret) :
    o'.summary = o.summary := by
  have hsummary : ∀ o : Outcome, o.summary = o.withoutSecret.summary := by
    rintro ⟨status, credential, reason, message, header, username⟩
    cases credential <;> rfl
  rw [hsummary o', h, ← hsummary o]

namespace Verifier

open Credential (SameButSecret)

variable {σ τ : Type} {config : Config} {store : Store σ} {store' : Store τ}
  {cache cache' : Cache} {state : σ} {state' : τ} {attempt : Attempt} {c d : Credential}

-- How a call ends that neither accepts nor speaks of the time, and whom it asks for. No secret
-- has a part in it, and no cache.
def timelessEnd (config : Config) (store : Store σ) (state : σ) (authorization : Option String) :
    Except Failure Outcome × List String :=
  match authorization.bind Directives.body? with
  | none => (.ok .unauthenticated, [])
  | some header => match examine config header with
    | .error refusal => (.ok (refusal.outcome header), [])
    | .ok t =>
      ((store.reply state t.answer.username).refusal t.header t.answer.username,
        [t.answer.username])

theorem eq_timelessEnd
    (h : ∀ o, (verify config store cache state attempt).outcome = .ok o → o.Timeless) :
    ((verify config store cache state attempt).outcome,
        (verify config store cache state attempt).asked)
      = timelessEnd config store state attempt.authorization := by
  obtain ⟨v, hv, hcourse⟩ := exists_course config store cache state attempt
  rw [Verification.outcome_of_quiet hv] at h
  rw [Verification.outcome_of_quiet hv, Verification.asked_of_quiet hv, timelessEnd]
  cases hcourse with
  | passed hb => simp only [hb]
  | refused header refusal hb he => simp only [hb, he]
  | cached t c hb hx hc ha => exact absurd (h _ rfl) (not_timeless_ruling attempt.now t c)
  | found t c hb hx hu hr ha => exact absurd (h _ rfl) (not_timeless_ruling attempt.now t c)
  | denied t hb hx hu hr => simp only [hb, examine_eq_ok_iff.mpr ⟨rfl, hx⟩]

theorem timelessEnd_congr {Q : Credential → Credential → Prop}
    (hreply : ∀ username, Reply.Alike Q (store.reply state username)
      (store'.reply state' username)) (authorization : Option String) :
    timelessEnd config store' state' authorization
      = timelessEnd config store state authorization := by
  unfold timelessEnd
  split
  · rfl
  · split
    · rfl
    · rw [(hreply _).refusal_eq]

-- Where two rulings on one ticket rest on such credentials they differ in the secret at most
theorem withoutSecret_ruling (h : c.SameButSecret d) (now : Int) (t : Ticket) :
    (ruling now t d).withoutSecret = (ruling now t c).withoutSecret := by
  by_cases hle : now ≤ t.nonce.expiry
  · rw [ruling_of_le hle, ruling_of_le hle]
    simp only [Outcome.withoutSecret, Outcome.accepted, Option.map_some, h.username, h.identity]
  · rw [ruling_of_lt (Int.not_le.mp hle), ruling_of_lt (Int.not_le.mp hle)]

-- Credentials that come to the same user from the same side correspond
theorem sameButSecret_of_supplied {username : String} {asked : List String}
    (hcache : Option.Rel SameButSecret (cache.get? username) (cache'.get? username))
    (hreply : Reply.Alike SameButSecret (store.reply state username)
      (store'.reply state' username))
    (hc : Supplied store cache state username asked c)
    (hd : Supplied store' cache' state' username asked d) : c.SameButSecret d := by
  rcases hc with ⟨hnone, hc⟩ | ⟨hone, hc⟩ <;> rcases hd with ⟨hnone', hd⟩ | ⟨hone', hd⟩
  · rw [hc, hd] at hcache
    cases hcache with
    | some h => exact h
  · cases hnone.symm.trans hone'
  · cases hone.symm.trans hnone'
  · rw [hc, hd] at hreply
    cases hreply with
    | found h => exact h

-- So the rulings of two calls that have asked the same differ in the secret at most
theorem withoutSecret_of_ruled {authorization : Option String} {method : String}
    {uri uri' : Value} {now : Int} {o o' : Outcome}
    (hcache : ∀ username, Option.Rel SameButSecret (cache.get? username) (cache'.get? username))
    (hreply : ∀ username, Reply.Alike SameButSecret (store.reply state username)
      (store'.reply state' username))
    (ho : (verify config store cache state ⟨authorization, method, uri, now⟩).outcome = .ok o)
    (ho' : (verify config store' cache' state' ⟨authorization, method, uri', now⟩).outcome
      = .ok o')
    (ht : ¬o.Timeless) (ht' : ¬o'.Timeless)
    (hasked : (verify config store' cache' state' ⟨authorization, method, uri', now⟩).asked
      = (verify config store cache state ⟨authorization, method, uri, now⟩).asked) :
    o'.withoutSecret = o.withoutSecret := by
  obtain ⟨t, c, hb, hx, rfl, -, hc⟩ := exists_ruling ho ht
  obtain ⟨t', d, hb', hx', rfl, -, hd⟩ := exists_ruling ho' ht'
  obtain rfl := hx.unique hb hb' hx'
  rw [hasked] at hd
  have hsame : c.SameButSecret d := sameButSecret_of_supplied (hcache _) (hreply _) hc hd
  exact withoutSecret_ruling hsame now t'

-- A request comes to two verifiers of one configuration. Their caches hold the same users and
-- their stores reply in the same way, with credentials that differ in their secrets at most.
-- Where neither accepts nor speaks of the time, both show the same, and so do the challenges
-- that answer it. Where both do and have asked the same, what may be shown is the same.
theorem secrets_not_shown {v : Verification σ} {w : Verification τ}
    {authorization : Option String} {method : String} {uri uri' : Value} {now : Int}
    (hcache : ∀ username, Option.Rel SameButSecret (cache.get? username) (cache'.get? username))
    (hreply : ∀ username, Reply.Alike SameButSecret (store.reply state username)
      (store'.reply state' username))
    (hv : verify config store cache state ⟨authorization, method, uri, now⟩ = v)
    (hw : verify config store' cache' state' ⟨authorization, method, uri', now⟩ = w) :
    ((∀ o, v.outcome = .ok o → o.status ≠ .authenticated ∧ o.reason ≠ some .nonceExpired) →
      (∀ o, w.outcome = .ok o → o.status ≠ .authenticated ∧ o.reason ≠ some .nonceExpired) →
      w.outcome = v.outcome ∧ w.asked = v.asked ∧
      ∀ {ν : Type} (challenger : Challenger) (supplier : Challenger.Supplier ν) (nonces : ν)
        (o o' : Outcome), v.outcome = .ok o → w.outcome = .ok o' →
        challenger.commence supplier nonces o' = challenger.commence supplier nonces o ∧
        (o.Refused → ∃ reply, (challenger.commence supplier nonces o).1 = .ok reply)) ∧
    (∀ o o', v.outcome = .ok o → w.outcome = .ok o' →
      o.status = .authenticated ∧ o'.status = .authenticated ∨
        o.reason = some .nonceExpired ∧ o'.reason = some .nonceExpired →
      w.asked = v.asked → o'.summary = o.summary) := by
  subst hv hw
  constructor
  · intro ht ht'
    have hend := eq_timelessEnd ht
    have hend' := eq_timelessEnd ht'
    obtain ⟨houtcome, hasked⟩ :=
      Prod.ext_iff.mp ((hend'.trans (timelessEnd_congr hreply authorization)).trans hend.symm)
    refine ⟨houtcome, hasked, fun challenger supplier nonces o o' ho ho' => ?_⟩
    obtain rfl : o' = o := Except.ok.inj (ho'.symm.trans (houtcome.trans ho))
    refine ⟨rfl, fun hr => ?_⟩
    obtain ⟨reply, hcommence, -⟩ :=
      challenger.status_commence supplier nonces (wellFormed_of_ok ho) hr
    exact ⟨reply, hcommence⟩
  · intro o o' ho ho' hboth hasked
    have ht : ¬o.Timeless := fun ht => hboth.elim (fun h => ht.1 h.1) fun h => ht.2 h.1
    have ht' : ¬o'.Timeless := fun ht => hboth.elim (fun h => ht.1 h.2) fun h => ht.2 h.2
    exact Outcome.summary_congr (withoutSecret_of_ruled hcache hreply ho ho' ht ht' hasked)

-- The user in one directory with her secret, in another one with her former secret, and in both
-- caches with the first: a guess is refused in the same way, and her own answer shows the same
theorem formerUser_not_answers_guess :
    ¬Answers sampleConfig guessAttempt.method guessTicket formerUser := by
  have hhash : Md5.hex (Response.ha1 "ann" "lab" "old" ++ ":"
      ++ "NToxOGVlOWEzZjkwMTk4NDUxMWVjZWVkNTVkZmQ1YzdmNQ==" ++ ":" ++ Response.ha2 "GET" "/")
      ≠ "0" := by decide +kernel
  unfold Answers
  rw [Response.compute_of_null rfl]
  exact fun h => hhash (Except.ok.inj h)

theorem guess_refused (hno : ¬Answers sampleConfig guessAttempt.method guessTicket c) :
    (verify sampleConfig Store.ofDirectory sampleCache [("ann", c)] guessAttempt).outcome
      = .ok (.rejection .digestMismatch guessTicket.header "ann" []) := by
  have hu : Unanswered sampleConfig sampleCache guessAttempt.method guessTicket := by
    rintro d hd ha
    obtain rfl : sampleUser = d := Option.some.inj hd
    exact sampleUser_not_answers_guess ha
  have hfound : ∀ d, Store.ofDirectory.reply [("ann", c)] guessTicket.answer.username = .found d →
      ¬Answers sampleConfig guessAttempt.method guessTicket d := by
    rintro d hd ha
    obtain rfl : c = d := Reply.found.inj hd
    exact hno ha
  exact Verification.outcome_of_quiet
    ((quiet_verify_of_ticket (Directives.bind_body?_scheme _) guessTicket_examined).trans
      (quiet_settle_of_refused guessTicket_examined.isProtected hu hfound))

theorem secrets_not_shown_sample :
    sampleUser.SameButSecret formerUser ∧ sampleUser.secret ≠ formerUser.secret ∧
    (verify sampleConfig Store.ofDirectory sampleCache [("ann", sampleUser)] guessAttempt).outcome
      = .ok (.rejection .digestMismatch guessTicket.header "ann" []) ∧
    (verify sampleConfig Store.ofDirectory sampleCache [("ann", formerUser)] guessAttempt).asked
      = (verify sampleConfig Store.ofDirectory sampleCache [("ann", sampleUser)]
          guessAttempt).asked ∧
    (∃ reply, (Challenger.commence ⟨"lab", "auth", .null⟩
      (⟨fun _ => "N", id⟩ : Challenger.Supplier Unit) ()
      (.rejection .digestMismatch guessTicket.header "ann" [])).1 = .ok reply) ∧
    ∃ o o',
      (verify sampleConfig Store.ofDirectory sampleCache [("ann", sampleUser)]
        sampleAttempt).outcome = .ok o ∧
      (verify sampleConfig Store.ofDirectory sampleCache [("ann", formerUser)]
        sampleAttempt).outcome = .ok o' ∧
      o.status = .authenticated ∧ o'.summary = o.summary := by
  have hsame : sampleUser.SameButSecret formerUser := ⟨rfl, rfl⟩
  have hsecret : sampleUser.secret ≠ formerUser.secret := fun h =>
    absurd (Value.text.inj h) (by decide)
  have hcache : ∀ username, Option.Rel SameButSecret (sampleCache.get? username)
      (sampleCache.get? username) := by
    intro username
    cases sampleCache.get? username with
    | none => exact .none
    | some c => exact .some ⟨rfl, rfl⟩
  have hreply : ∀ username, Reply.Alike SameButSecret
      (Store.ofDirectory.reply [("ann", sampleUser)] username)
      (Store.ofDirectory.reply [("ann", formerUser)] username) := by
    intro username
    by_cases hname : "ann" = username
    · subst hname
      exact .found hsame
    · simp only [Store.ofDirectory, OrderedMap.get?, if_neg hname]
      exact .unknownUser _ _
  have hguess := guess_refused sampleUser_not_answers_guess
  have hguess' := guess_refused formerUser_not_answers_guess
  have htimeless : ∀ o : Outcome,
      (.ok (.rejection .digestMismatch guessTicket.header "ann" []) : Except Failure Outcome)
        = .ok o →
      o.status ≠ .authenticated ∧ o.reason ≠ some .nonceExpired := by
    intro o ho
    obtain rfl := Except.ok.inj ho
    exact ⟨by decide, by decide⟩
  have hv : verify sampleConfig Store.ofDirectory sampleCache [("ann", sampleUser)] guessAttempt
      = _ := rfl
  have hw : verify sampleConfig Store.ofDirectory sampleCache [("ann", formerUser)] guessAttempt
      = _ := rfl
  obtain ⟨-, hasked, hcommence⟩ := (secrets_not_shown hcache hreply hv hw).1
    (fun o ho => htimeless o (hguess.symm.trans ho))
    fun o ho => htimeless o (hguess'.symm.trans ho)
  obtain ⟨-, hreplied⟩ := hcommence ⟨"lab", "auth", .null⟩
    (⟨fun _ => "N", id⟩ : Challenger.Supplier Unit) () _ _ hguess hguess'
  -- her own answer fits the cached credential, whatever the directory has
  have hcached : ∀ directory, (verify sampleConfig Store.ofDirectory sampleCache directory
      sampleAttempt).quiet = {
      outcome := .ok (.accepted sampleUser sampleTicket.header)
      cache := sampleCache
      store := directory } := fun _ => sample_from_cache rfl
  have haccepted := Verification.outcome_of_quiet (hcached [("ann", sampleUser)])
  have haccepted' := Verification.outcome_of_quiet (hcached [("ann", formerUser)])
  have hnone := Verification.asked_of_quiet (hcached [("ann", sampleUser)])
  have hnone' := Verification.asked_of_quiet (hcached [("ann", formerUser)])
  have hv' : verify sampleConfig Store.ofDirectory sampleCache [("ann", sampleUser)] sampleAttempt
      = _ := rfl
  have hw' : verify sampleConfig Store.ofDirectory sampleCache [("ann", formerUser)] sampleAttempt
      = _ := rfl
  have hsummary := (secrets_not_shown hcache hreply hv' hw').2 _ _ haccepted haccepted'
    (.inl ⟨rfl, rfl⟩) (hnone'.trans hnone.symm)
  exact ⟨hsame, hsecret, hguess, hasked, hreplied (.inl rfl), _, _, haccepted, haccepted', rfl,
    hsummary⟩

end Verifier

end HttpDigest
