import HttpDigest.Proofs.Verbatim
import HttpDigest.Proofs.Completeness

namespace HttpDigest

namespace Client.Texts

-- The client with what a challenge says in place of what it knew of it
def taking (t : Texts) (challenge : OrderedMap String String) : Texts :=
  { t with
    realm := (challenge.get? "realm").getD ""
    qop := challenge.get? "qop"
    opaqueText := challenge.get? "opaque" }

def answering (t : Texts) (challenge : OrderedMap String String) : Client :=
  (t.taking challenge).client ((challenge.get? "nonce").getD "")

-- What the client adds to a challenge can be written. The count and the client nonce only matter
-- if the challenge asks for protection.
structure Adds (t : Texts) (challenge : OrderedMap String String) : Prop where
  username : Quotable t.username
  uri : Quotable t.uri
  protection : challenge.get? "qop" ≠ none →
    (∃ v, t.cnonce = some v ∧ Quotable v) ∧ ∀ v, t.nc = some v → Directives.Plain v

theorem Adds.writable_taking {t : Texts} {c : Challenger.Texts} {token : String} {stale : Bool}
    (h : t.Adds (c.entries token stale)) (w : c.Writable) :
    (t.taking (c.entries token stale)).Writable := by
  simp only [taking, Challenger.Texts.get?_entries_realm, Challenger.Texts.get?_entries_qop,
    Challenger.Texts.get?_entries_opaque, Option.getD_some]
  refine ⟨h.username, w.realm.quotable, h.uri, fun v hv => (w.given_opaque hv).quotable, ?_⟩
  rcases w.qop with hq | hq
  · exact .inl hq
  · refine .inr ⟨hq, h.protection ?_⟩
    rw [Challenger.Texts.get?_entries_qop, hq]
    exact Option.some_ne_none _

end Client.Texts

namespace Verifier

-- A header with which a client gets in up to some time, wherever the store knows the password and
-- whatever the cache holds
def LetsIn (config : Config) (t : Client.Texts) (header : String) (limit : Int) : Prop :=
  ∀ {σ : Type} (store : Store σ) (state : σ) (credential : Credential),
    store.reply state t.username = .found credential → credential.secret = .text t.password →
    ∀ (cache : Cache) (uri : Value) (now : Int), now ≤ limit →
      ∃ c, (verify config store cache state
        ⟨some (Directives.scheme ++ header), t.method, uri, now⟩).outcome
          = .ok (.accepted c header)

theorem exists_letsIn {t : Client.Texts} {e : Int} {secret : String} {hashed : Value}
    (w : t.Writable) (he : Nonce.minExpiry ≤ e ∧ e ≤ Nonce.maxExpiry)
    (hflag : hashed.truthy = t.hashed) :
    ∃ header, (t.client (Nonce.encode e secret)).header = .ok (Directives.scheme ++ header) ∧
      LetsIn ⟨t.realm, secret, hashed⟩ t header e := by
  obtain ⟨response, hr, hquotable⟩ := w.protects.exists_response (Nonce.encode e secret)
  have hheader : (t.client (Nonce.encode e secret)).header
      = .ok (Directives.scheme ++ (clientTicket t e secret response).header) := by
    simp only [clientTicket, w.protects.header_eq hr]
  refine ⟨_, hheader, ?_⟩
  intro σ store state credential hfound hpassword cache uri now hle
  have hx : Examined ⟨t.realm, secret, hashed⟩ (clientTicket t e secret response) :=
    clientTicket_examined w he hquotable
  have ha := clientTicket_answers w hr hflag hpassword
  obtain ⟨c, hc⟩ : ∃ c, (verify ⟨t.realm, secret, hashed⟩ store cache state
      ⟨some (Directives.scheme ++ (clientTicket t e secret response).header), t.method, uri,
        now⟩).outcome = .ok (ruling now (clientTicket t e secret response) c) :=
    exists_ruling_of_found (Directives.bind_body?_scheme _) hx hfound ha
  rw [ruling_of_le hle] at hc
  exact ⟨c, hc⟩

-- A client that takes over what a challenge says answers it with a header that lets it in
theorem exists_letsIn_of_challenge {t : Challenger.Texts} {e : Int} {secret : String}
    {hashed : Value} {stale : Bool} {client : Client.Texts} (w : t.Writable)
    (he : Nonce.minExpiry ≤ e ∧ e ≤ Nonce.maxExpiry)
    (hadds : client.Adds (t.entries (Nonce.encode e secret) stale))
    (hflag : hashed.truthy = client.hashed) :
    ∃ header, (client.answering (t.entries (Nonce.encode e secret) stale)).header
        = .ok (Directives.scheme ++ header) ∧
      LetsIn ⟨t.realm, secret, hashed⟩ client header e := by
  have hwritable := hadds.writable_taking w
  obtain ⟨header, hheader, hin⟩ := @exists_letsIn _ e secret hashed hwritable he hflag
  rw [Client.Texts.answering, Challenger.Texts.get?_entries_nonce, Option.getD_some]
  exact ⟨header, hheader, hin⟩

-- Every challenge is read as what it was made of, and whoever takes it over and knows the
-- password has an answer to it that lets it in until the nonce expires. Every refusal is answered
-- by such a challenge, and the one that answers a late request says that only the time was amiss.
theorem answer_to_challenge_accepted (t : Challenger.Texts) (e : Int) (secret : String)
    (hashed : Value) (w : t.Writable) (hrealm : t.realm ≠ "") (hsecret : secret ≠ "")
    (he : Nonce.minExpiry ≤ e ∧ e ≤ Nonce.maxExpiry) :
    ∃ config challenger token,
      Config.make t.realm secret hashed = .ok config ∧
      Challenger.make t.realm true (.ofText? t.qop) (.ofText? t.opaqueText) = .ok challenger ∧
      Nonce.issue (.int e) secret = .ok token ∧
      ∀ {ν : Type} (supplier : Challenger.Supplier ν) (nonces : ν),
        supplier.nonce nonces = token →
        (∀ (stale : Bool) (reply : Challenger.Reply),
          challenger.Challenges supplier nonces stale reply →
          ∃ text, reply.status = 401 ∧ reply.headers = [("WWW-Authenticate", text)] ∧
            Directives.ofHeader? text = some (t.entries token stale) ∧
            ∀ client : Client.Texts, client.Adds (t.entries token stale) →
              hashed.truthy = client.hashed →
              ∃ header, (client.answering (t.entries token stale)).header
                  = .ok (Directives.scheme ++ header) ∧
                LetsIn config client header e) ∧
        (∀ o : Outcome, o.status = .rejected → o.reason.isSome →
          ∃ reply, (challenger.commence supplier nonces o).1 = .ok reply ∧
            challenger.Challenges supplier nonces o.isStale reply) ∧
        ∀ {σ : Type} (store : Store σ) (cache : Cache) (state : σ) (attempt : Attempt)
          (o : Outcome), (verify config store cache state attempt).outcome = .ok o →
          o.reason = some .nonceExpired →
          ∃ reply, (challenger.commence supplier nonces o).1 = .ok reply ∧
            challenger.Challenges supplier nonces true reply := by
  have hconfig : Config.make t.realm secret hashed = .ok ⟨t.realm, secret, hashed⟩ := by
    simp [Config.make, Value.truthy, hrealm, hsecret]
  have hchallenger : Challenger.make t.realm true (.ofText? t.qop) (.ofText? t.opaqueText)
      = .ok t.challenger := by
    simp [Challenger.make, Value.truthy, hrealm, Challenger.Texts.challenger]
  refine ⟨_, _, _, hconfig, hchallenger, Nonce.issue_eq_ok he hsecret, ?_⟩
  intro ν supplier nonces hnonce
  refine ⟨fun stale reply hreply => ?_, fun o hs hr => Challenger.exists_challenges hs hr, ?_⟩
  · obtain ⟨hstatus, hheaders⟩ := hreply.parts_eq
    rw [hnonce] at hheaders
    have hread := w.ofHeader?_header stale (Nonce.unescaped_encode e secret)
    exact ⟨_, hstatus, hheaders, hread, fun client hadds hflag =>
      exists_letsIn_of_challenge w he hadds hflag⟩
  · intro σ store cache state attempt o ho hr
    have hstale : o.isStale = true := decide_eq_true hr
    rw [← hstale]
    exact Challenger.exists_challenges (rejected_of_nonceExpired ho hr)
      (Option.isSome_iff_exists.mpr ⟨_, hr⟩)

-- A realm that ends in backslashes and an opaque text with a comma and an equals sign, asked for
-- once more because the nonce was too old
def sampleDemand : Challenger.Texts where
  realm := "lab\\\\"
  qop := some "auth"
  opaqueText := some "a=1, b"

def sampleSupplier : Challenger.Supplier Unit where
  nonce _ := Nonce.encode 5 "s"
  next := id

theorem sampleDemand_writable : sampleDemand.Writable :=
  ⟨by decide, .inr rfl, fun v hv => Option.some.inj hv ▸ by decide⟩

theorem answer_to_challenge_accepted_sample :
    sampleDemand.Writable ∧ sampleDemand.realm ≠ "" ∧ "s" ≠ "" ∧
    (Nonce.minExpiry ≤ 5 ∧ 5 ≤ Nonce.maxExpiry) ∧
    sampleSupplier.nonce () = Nonce.encode 5 "s" ∧
    ∃ config challenger token,
      Config.make sampleDemand.realm "s" (.bool false) = .ok config ∧
      Challenger.make sampleDemand.realm true "auth" "a=1, b" = .ok challenger ∧
      Nonce.issue (.int 5) "s" = .ok token ∧
      ∃ text, (challenger.challenge token .null true).headers = [("WWW-Authenticate", text)] ∧
        Directives.ofHeader? text = some [("realm", "lab\\\\"), ("qop", "auth"),
          ("nonce", token), ("opaque", "a=1, b"), ("stale", "true")] ∧
        ∃ header, (sampleTexts.answering (sampleDemand.entries token true)).header
            = .ok (Directives.scheme ++ header) ∧
          ∃ c, (verify config (knowing "pw") .empty ()
            ⟨some (Directives.scheme ++ header), "GET", .null, 5⟩).outcome
              = .ok (.accepted c header) := by
  obtain ⟨config, challenger, token, hconfig, hchallenger, htoken, hround⟩ :=
    answer_to_challenge_accepted sampleDemand 5 "s" (.bool false) sampleDemand_writable
      (by decide) (by decide) (by decide)
  have hnonce : sampleSupplier.nonce () = token :=
    Except.ok.inj ((Nonce.issue_eq_ok (by decide) (by decide)).symm.trans htoken)
  obtain ⟨hchallenges, -, -⟩ := hround sampleSupplier () hnonce
  obtain ⟨text, -, hheaders, hread, hanswer⟩ := hchallenges true _ (.outright .null true)
  have hadds : sampleTexts.Adds (sampleDemand.entries token true) :=
    ⟨by decide, by decide, fun _ => ⟨⟨_, rfl, by decide⟩, fun v hv => nomatch hv⟩⟩
  obtain ⟨header, hheader, hin⟩ := hanswer sampleTexts hadds rfl
  rw [hnonce] at hheaders
  exact ⟨sampleDemand_writable, by decide, by decide, by decide, rfl, config, challenger, token,
    hconfig, hchallenger, htoken, text, hheaders, hread, header, hheader,
    hin (knowing "pw") () _ rfl rfl .empty .null 5 (by decide)⟩

end Verifier

end HttpDigest
