import HttpDigest.Proofs.Acceptance
import HttpDigest.Proofs.Course
import HttpDigest.Proofs.Overwriting

namespace HttpDigest

structure Outcome.Decision where
  status : Outcome.Status
  reason : Option Reason
  username : Value
  credential : Option Credential
  stale : Bool

def Outcome.decision (o : Outcome) : Decision where
  status := o.status
  reason := o.reason
  username := o.username
  credential := o.credential
  stale := o.isStale

namespace Authorization

variable {m m' : OrderedMap String String} {a b : Authorization}

structure Alike (a b : Authorization) : Prop where
  username : b.username = a.username
  realm : b.realm = a.realm
  nonce : b.nonce = a.nonce
  uri : b.uri = a.uri
  response : b.response = a.response
  qop : b.qop = a.qop
  forAuth : a.qop ≠ none → b.nc = a.nc ∧ b.cnonce = a.cnonce

theorem exists_alike (h : Agree m.get? m'.get?) (hr : a.ReadFrom m) :
    ∃ b, b.ReadFrom m' ∧ a.Alike b := by
  have hsame : ∀ {name : String} {v : Option String}, name ∈ mandatory ++ ["qop"] →
      m.get? name = v → m'.get? name = v := fun hm hv => (h.always _ hm).symm.trans hv
  refine ⟨{ a with
      nc := m'.get? "nc"
      cnonce := m'.get? "cnonce"
      opaqueText := m'.get? "opaque"
      algorithm := m'.get? "algorithm" }, ?_, ?_⟩
  · exact ⟨hsame (by decide) hr.username, hsame (by decide) hr.realm, hsame (by decide) hr.nonce,
      hsame (by decide) hr.uri, hsame (by decide) hr.response, hsame (by decide) hr.qop, rfl, rfl,
      rfl, rfl⟩
  · refine ⟨rfl, rfl, rfl, rfl, rfl, rfl, fun hq => ?_⟩
    have hboth := h.forAuth (hr.qop ▸ hq)
    exact ⟨(hboth "nc" (by decide)).symm.trans hr.nc,
      (hboth "cnonce" (by decide)).symm.trans hr.cnonce⟩

namespace Alike

theorem isProtected (h : a.Alike b) (hp : a.Protected) : b.Protected := by
  rcases hp with hq | ⟨hq, hn, hc⟩
  · exact .inl (h.qop.trans hq)
  · obtain ⟨hnc, hcnonce⟩ := h.forAuth (hq ▸ Option.some_ne_none _)
    exact .inr ⟨h.qop.trans hq, hnc ▸ hn, hcnonce ▸ hc⟩

-- The response called for is the same: the older form does not hang on what may differ
theorem compute_eq (h : a.Alike b) (hashed : Bool) (secret method : String) :
    Response.compute (b.input hashed secret method)
      = Response.compute (a.input hashed secret method) := by
  by_cases hq : a.qop = none
  · rw [Response.compute_of_null (congrArg Value.ofText? (h.qop.trans hq)),
      Response.compute_of_null (congrArg Value.ofText? hq)]
    simp only [Response.userHash, input, h.username, h.realm, h.uri, h.nonce]
    rfl
  · obtain ⟨hnc, hcnonce⟩ := h.forAuth hq
    simp only [input, h.username, h.realm, h.uri, h.nonce, h.qop, hnc, hcnonce]

end Alike

end Authorization

namespace Verifier

open Authorization (Agree Alike)

variable {σ : Type} {config : Config} {header header' : String} {t t' : Ticket}
  {method : String} {c : Credential}

structure Ticket.Alike (t t' : Ticket) : Prop where
  answer : t.answer.Alike t'.answer
  nonce : t'.nonce = t.nonce

theorem answers_iff_of_alike (h : t.Alike t') :
    Answers config method t' c ↔ Answers config method t c := by
  rw [Answers, Answers, h.answer.compute_eq, h.answer.response]

theorem Unanswered.of_ticket {cache : Cache} (h : t.Alike t')
    (hu : Unanswered config cache method t) : Unanswered config cache method t' := by
  intro c hc ha
  rw [h.answer.username] at hc
  exact hu c hc ((answers_iff_of_alike h).mp ha)

theorem decision_ruling (h : t.Alike t') (now : Int) (c : Credential) :
    (ruling now t' c).decision = (ruling now t c).decision := by
  by_cases hle : now ≤ t.nonce.expiry
  · rw [ruling_of_le hle, ruling_of_le (h.nonce ▸ hle)]
    rfl
  · have hlt : t.nonce.expiry < now := Int.not_le.mp hle
    rw [ruling_of_lt hlt, ruling_of_lt (h.nonce ▸ hlt), h.answer.username]
    rfl

theorem decision_outcome {r r' : Refusal} (hreason : r'.reason = r.reason)
    (husername : r'.username = r.username) (header header' : String) :
    (r'.outcome header').decision = (r.outcome header).decision := by
  cases r
  cases r'
  subst hreason husername
  rfl

theorem decision_refusal (reply : Reply) (header header' username : Value) :
    (reply.refusal header' username).map Outcome.decision
      = (reply.refusal header username).map Outcome.decision := by
  cases reply <;> rfl

-- Two headers that agree on what counts get equally far
theorem exists_ticket_alike
    (h : Agree (Directives.read t.header).get? (Directives.read header').get?)
    (hx : Examined config t) :
    ∃ t', t'.header = header' ∧ Examined config t' ∧ t.Alike t' := by
  obtain ⟨b, hb, halike⟩ := Authorization.exists_alike h hx.readFrom
  have hrealm : config.realm = .text b.realm := by rw [hx.realm, halike.realm]
  have hnonce : Nonce.decode b.nonce = .ok t.nonce := by rw [halike.nonce, hx.nonce]
  exact ⟨⟨header', b, t.nonce⟩, rfl,
    ⟨hb, halike.isProtected hx.isProtected, hrealm, hnonce, hx.signed⟩, ⟨halike, rfl⟩⟩

theorem exists_refusal_alike {refusal : Refusal}
    (h : Agree (Directives.read header).get? (Directives.read header').get?)
    (he : examine config header = .error refusal) :
    ∃ refusal', examine config header' = .error refusal' ∧ refusal'.reason = refusal.reason ∧
      refusal'.username = refusal.username := by
  cases reach config header with
  | missing name hm hn =>
      have hn' : (Directives.read header').get? name = none :=
        (h.always name (List.mem_append_left _ hm)).symm.trans hn
      obtain ⟨notes, hrefused⟩ := @examine_of_missing config header name hm hn
      obtain ⟨notes', hrefused'⟩ := @examine_of_missing config header' name hm hn'
      obtain rfl := Except.error.inj (he.symm.trans hrefused)
      exact ⟨_, hrefused', rfl, (h.always "username" (by decide)).symm⟩
  | incomplete a hr hq hn =>
      obtain ⟨b, hb, halike⟩ := Authorization.exists_alike h hr
      obtain ⟨hnc, hcnonce⟩ := halike.forAuth (hq ▸ Option.some_ne_none _)
      obtain ⟨notes, hrefused⟩ := @examine_of_incomplete config header a hr hq hn
      obtain ⟨notes', hrefused'⟩ := @examine_of_incomplete config header' b hb
        (halike.qop.trans hq) (by rwa [hnc, hcnonce])
      obtain rfl := Except.error.inj (he.symm.trans hrefused)
      exact ⟨_, hrefused', rfl, congrArg some halike.username⟩
  | unsupported a hr hq hauth =>
      obtain ⟨b, hb, halike⟩ := Authorization.exists_alike h hr
      obtain rfl := Except.error.inj (he.symm.trans (examine_of_unsupported hr hq hauth))
      have hrefused' := @examine_of_unsupported config header' b hb (halike.qop ▸ hq)
        (halike.qop ▸ hauth)
      exact ⟨_, hrefused', rfl, congrArg some halike.username⟩
  | foreign a hr hp hrealm =>
      obtain ⟨b, hb, halike⟩ := Authorization.exists_alike h hr
      obtain rfl := Except.error.inj (he.symm.trans (examine_of_foreign hr hp hrealm))
      have hrefused' := examine_of_foreign hb (halike.isProtected hp) (halike.realm ▸ hrealm)
      exact ⟨_, hrefused', rfl, congrArg some halike.username⟩
  | undecodable a e hr hp hrealm hd =>
      obtain ⟨b, hb, halike⟩ := Authorization.exists_alike h hr
      obtain rfl := Except.error.inj (he.symm.trans (examine_of_undecodable hr hp hrealm hd))
      have hrefused' := examine_of_undecodable hb (halike.isProtected hp)
        (halike.realm ▸ hrealm) (halike.nonce ▸ hd)
      exact ⟨_, hrefused', rfl, congrArg some halike.username⟩
  | decoded a n hr hp hrealm hd =>
      obtain ⟨b, hb, halike⟩ := Authorization.exists_alike h hr
      have hexamine := examine_of_decoded hr hp hrealm hd
      have hexamine' := examine_of_decoded hb (halike.isProtected hp)
        (halike.realm ▸ hrealm) (halike.nonce ▸ hd)
      cases hs : n.isSignedWith config.secret.plain with
      | true =>
          rw [if_pos hs] at hexamine
          cases he.symm.trans hexamine
      | false =>
          rw [if_neg (by simp [hs])] at hexamine hexamine'
          obtain rfl := Except.error.inj (he.symm.trans hexamine)
          exact ⟨_, hexamine', rfl, congrArg some halike.username⟩

-- Two verifications that decide the same, ask the same, and leave the same behind
structure Verification.SameDecision (v w : Verification σ) : Prop where
  outcome : w.outcome.map Outcome.decision = v.outcome.map Outcome.decision
  asked : w.asked = v.asked
  cache : w.cache = v.cache
  store : w.store = v.store

theorem Verification.SameDecision.of_quiet {v v' w w' : Verification σ} (hv : v.quiet = v')
    (hw : w.quiet = w') (h : v'.SameDecision w') : v.SameDecision w := by
  subst hv hw
  exact ⟨h.outcome, h.asked, h.cache, h.store⟩

theorem sameDecision_of_agree {store : Store σ} {cache : Cache} {state : σ} {uri uri' : Value}
    {now : Int} (h : Agree (Directives.read header).get? (Directives.read header').get?) :
    (verify config store cache state
        ⟨some (Directives.scheme ++ header), method, uri, now⟩).SameDecision
      (verify config store cache state
        ⟨some (Directives.scheme ++ header'), method, uri', now⟩) := by
  obtain ⟨v, hv, hcourse⟩ := exists_course config store cache state
    ⟨some (Directives.scheme ++ header), method, uri, now⟩
  have hbody := Directives.bind_body?_scheme header
  have hbody' := Directives.bind_body?_scheme header'
  cases hcourse with
  | passed hb => cases hbody.symm.trans hb
  | refused text refusal hb he =>
      obtain rfl := Option.some.inj (hbody.symm.trans hb)
      obtain ⟨refusal', he', hreason, husername⟩ := exists_refusal_alike h he
      have hw : (verify config store cache state
          ⟨some (Directives.scheme ++ header'), method, uri', now⟩).quiet = _ :=
        quiet_verify_of_refusal hbody' he'
      exact .of_quiet hv hw
        ⟨congrArg Except.ok (decision_outcome hreason husername _ _), rfl, rfl, rfl⟩
  | cached t c hb hx hc ha =>
      obtain rfl := Option.some.inj (hbody.symm.trans hb)
      obtain ⟨t', rfl, hx', halike⟩ := exists_ticket_alike h hx
      have hw : (verify config store cache state
          ⟨some (Directives.scheme ++ t'.header), method, uri', now⟩).quiet = _ :=
        (quiet_verify_of_ticket hbody' hx').trans
          (quiet_settle_of_cached (halike.answer.username ▸ hc)
            ((answers_iff_of_alike halike).mpr ha))
      exact .of_quiet hv hw ⟨congrArg Except.ok (decision_ruling halike now c), rfl, rfl, rfl⟩
  | found t c hb hx hu hr ha =>
      obtain rfl := Option.some.inj (hbody.symm.trans hb)
      obtain ⟨t', rfl, hx', halike⟩ := exists_ticket_alike h hx
      have hw : (verify config store cache state
          ⟨some (Directives.scheme ++ t'.header), method, uri', now⟩).quiet = _ :=
        (quiet_verify_of_ticket hbody' hx').trans
          (quiet_settle_of_found hx'.isProtected (hu.of_ticket halike)
            (halike.answer.username ▸ hr) ((answers_iff_of_alike halike).mpr ha))
      refine .of_quiet hv hw ⟨congrArg Except.ok (decision_ruling halike now c), ?_, ?_, ?_⟩ <;>
        simp only [halike.answer.username]
  | denied t hb hx hu hr =>
      obtain rfl := Option.some.inj (hbody.symm.trans hb)
      obtain ⟨t', rfl, hx', halike⟩ := exists_ticket_alike h hx
      have hr' : ∀ c, store.reply state t'.answer.username = .found c →
          ¬Answers config method t' c := by
        intro c hc ha
        rw [halike.answer.username] at hc
        exact hr c hc ((answers_iff_of_alike halike).mp ha)
      have hw : (verify config store cache state
          ⟨some (Directives.scheme ++ t'.header), method, uri', now⟩).quiet = _ :=
        (quiet_verify_of_ticket hbody' hx').trans
          (quiet_settle_of_refused hx'.isProtected (hu.of_ticket halike) hr')
      refine .of_quiet hv hw ⟨?_, ?_, ?_, ?_⟩ <;> simp only [halike.answer.username]
      exact decision_refusal _ _ _ _

-- A header with an entry that says nothing which counts, and with a name spelled in another way
def sampleRespelled : String :=
  "opaque=x, Username =ann, realm=lab, nonce=NToxOGVlOWEzZjkwMTk4NDUxMWVjZWVkNTVkZmQ1YzdmNQ==, "
    ++ "uri=/, response=049a285dd8f60e03386379684d5e6a22"

def sampleOtherPieces : List (List Char) :=
  [" realm=lab".toList, " nonce=NToxOGVlOWEzZjkwMTk4NDUxMWVjZWVkNTVkZmQ1YzdmNQ==".toList,
    " uri=/".toList, " response=049a285dd8f60e03386379684d5e6a22".toList]

theorem sampleRespelled_edits :
    Relation.EqvGen Authorization.Edit
      (Directives.pieces ',' .outside sampleTicket.header.toList)
      (Directives.pieces ',' .outside sampleRespelled.toList) := by
  have hpieces : Directives.pieces ',' .outside sampleTicket.header.toList
      = [] ++ ("username".toList ++ '=' :: "ann".toList) :: sampleOtherPieces := by
    decide +kernel
  have hpieces' : Directives.pieces ',' .outside sampleRespelled.toList
      = [] ++ "opaque=x".toList :: (" Username ".toList ++ '=' :: "ann".toList)
        :: sampleOtherPieces := by
    decide +kernel
  have hname : Directives.Respelled "username".toList "ann".toList
      " Username ".toList "ann".toList :=
    ⟨by decide +kernel, by decide +kernel, by decide +kernel, rfl⟩
  have hread : Directives.readEntry ['='] ['"'] "opaque=x".toList = some ("opaque", "x") := by
    decide +kernel
  rw [hpieces, hpieces']
  refine .trans _ _ _ (.rel _ _ (.spelling [] sampleOtherPieces hname))
    (.rel _ _ (.uncounted [] _ ?_))
  intro said hsaid
  obtain rfl := Option.some.inj (hread.symm.trans hsaid)
  decide

-- Of what a header says eight directives count, two of them only where protection is asked for.
-- Nothing else that is done to it changes what is decided, what the store is asked, or what is
-- left in the cache.
theorem verify_decided_by_eight_directives (config : Config) (store : Store σ) (cache : Cache)
    (state : σ) (method : String) (now : Int) (uri uri' : Value) (header header' : String) :
    (Agree (Directives.read header).get? (Directives.read header').get? →
      (verify config store cache state ⟨some ("Digest " ++ header), method, uri, now⟩).SameDecision
        (verify config store cache state ⟨some ("Digest " ++ header'), method, uri', now⟩)) ∧
    (Relation.EqvGen Authorization.Edit (Directives.pieces ',' .outside header.toList)
        (Directives.pieces ',' .outside header'.toList) →
      (verify config store cache state ⟨some ("Digest " ++ header), method, uri, now⟩).SameDecision
        (verify config store cache state ⟨some ("Digest " ++ header'), method, uri', now⟩)) :=
  ⟨sameDecision_of_agree,
    fun hedits => sameDecision_of_agree (Authorization.agree_of_edits hedits)⟩

theorem verify_decided_by_eight_directives_sample :
    Agree (Directives.read sampleTicket.header).get? (Directives.read sampleRespelled).get? ∧
    (verify sampleConfig sampleStore .empty () sampleAttempt).SameDecision
      (verify sampleConfig sampleStore .empty ()
        ⟨some ("Digest " ++ sampleRespelled), "GET", .null, 5⟩) ∧
    Relation.EqvGen Authorization.Edit
      (Directives.pieces ',' .outside sampleTicket.header.toList)
      (Directives.pieces ',' .outside sampleRespelled.toList) ∧
    ∃ o, (verify sampleConfig sampleStore .empty ()
      ⟨some ("Digest " ++ sampleRespelled), "GET", .null, 5⟩).outcome = .ok o ∧
      o.status = .authenticated := by
  have hagree := Authorization.agree_of_edits sampleRespelled_edits
  obtain ⟨hread, hedited⟩ := verify_decided_by_eight_directives sampleConfig sampleStore .empty ()
    "GET" 5 "/" .null sampleTicket.header sampleRespelled
  have hdecision := (hedited sampleRespelled_edits).outcome.trans
    (congrArg (Except.map Outcome.decision) sample_verified)
  refine ⟨hagree, hread hagree, sampleRespelled_edits, ?_⟩
  cases ho : (verify sampleConfig sampleStore .empty ()
      ⟨some ("Digest " ++ sampleRespelled), "GET", .null, 5⟩).outcome with
  | error f =>
      rw [ho] at hdecision
      cases hdecision
  | ok o =>
      rw [ho] at hdecision
      exact ⟨o, rfl, congrArg Outcome.Decision.status (Except.ok.inj hdecision)⟩

end Verifier

end HttpDigest
