import HttpDigest.Proofs.Legibility
import HttpDigest.Proofs.Settlement
import HttpDigest.Proofs.TokenRoundTrip

namespace HttpDigest.Verifier

open Client (Texts)

section Client

variable {t : Texts} {e : Int} {secret response : String} {hashed : Value}

theorem quotable_token (e : Int) (secret : String) : Client.Quotable (Nonce.encode e secret) := by
  apply Client.quotable_of_not_mem
  rw [Nonce.encode, String.toList_ofList]
  exact Base64.not_mem_encode (by decide) (by decide) _

def clientTicket (t : Texts) (e : Int) (secret response : String) : Ticket where
  header := ", ".intercalate (t.written (Nonce.encode e secret) response)
  answer := t.answer (Nonce.encode e secret) response
  nonce := {
    expiry := e
    signature := Nonce.sign e secret
    plaintext := Nonce.plaintextOf e secret }

-- It passes every check of a verifier of the same realm and secret
theorem clientTicket_examined (w : t.Writable) (he : Nonce.minExpiry ≤ e ∧ e ≤ Nonce.maxExpiry)
    (hr : Client.Quotable response) :
    Examined ⟨t.realm, secret, hashed⟩ (clientTicket t e secret response) := by
  refine ⟨?_, w.protects.isProtected _ response, rfl, Nonce.decode_encode he, decide_eq_true rfl⟩
  have hread := w.read_written (quotable_token e secret) hr
  rw [clientTicket, hread]
  exact t.readFrom_entries _ response

-- The client's own password answers it
theorem clientTicket_answers {c : Credential} (w : t.Writable)
    (hr : Response.compute (t.client (Nonce.encode e secret)).input = .ok response)
    (hflag : hashed.truthy = t.hashed) (hc : c.secret = .text t.password) :
    Answers ⟨t.realm, secret, hashed⟩ t.method (clientTicket t e secret response) c := by
  have hsame := w.protects.compute_eq (Nonce.encode e secret) response
  rw [← hflag, hr] at hsame
  rw [Answers, hc]
  exact hsame

end Client

-- Every client that knows the password is accepted up to the time of its nonce, and past this
-- time is only called late, whatever the cache holds
theorem verify_client_header_complete (t : Texts) (e : Int) (secret : String) (hashed : Value)
    (w : t.Writable) (hrealm : t.realm ≠ "") (hsecret : secret ≠ "")
    (he : Nonce.minExpiry ≤ e ∧ e ≤ Nonce.maxExpiry) (hflag : hashed.truthy = t.hashed) :
    ∃ config token header,
      Config.make t.realm secret hashed = .ok config ∧
      Nonce.issue (.int e) secret = .ok token ∧
      (t.client token).header = .ok (Directives.scheme ++ header) ∧
      ∀ {σ : Type} (store : Store σ) (state : σ) (credential : Credential),
        store.reply state t.username = .found credential →
        credential.secret = .text t.password →
        ∀ (cache : Cache) (uri : Value) (now : Int),
          (now ≤ e → ∃ c, (verify config store cache state
            ⟨some (Directives.scheme ++ header), t.method, uri, now⟩).outcome
              = .ok (.accepted c header)) ∧
          (e < now → (verify config store cache state
            ⟨some (Directives.scheme ++ header), t.method, uri, now⟩).outcome
              = .ok (.rejection .nonceExpired header t.username [])) := by
  obtain ⟨response, hr, hquotable⟩ := w.protects.exists_response (Nonce.encode e secret)
  have hconfig : Config.make t.realm secret hashed = .ok ⟨t.realm, secret, hashed⟩ := by
    simp [Config.make, Value.truthy, hrealm, hsecret]
  have hheader : (t.client (Nonce.encode e secret)).header
      = .ok (Directives.scheme ++ (clientTicket t e secret response).header) := by
    simp only [clientTicket, w.protects.header_eq hr]
  refine ⟨_, _, _, hconfig, Nonce.issue_eq_ok he hsecret, hheader, ?_⟩
  intro σ store state credential hfound hpassword cache uri now
  have hx : Examined ⟨t.realm, secret, hashed⟩ (clientTicket t e secret response) :=
    clientTicket_examined w he hquotable
  have ha := clientTicket_answers w hr hflag hpassword
  obtain ⟨c, hc⟩ : ∃ c, (verify ⟨t.realm, secret, hashed⟩ store cache state
      ⟨some (Directives.scheme ++ (clientTicket t e secret response).header), t.method, uri,
        now⟩).outcome = .ok (ruling now (clientTicket t e secret response) c) :=
    exists_ruling_of_found (Directives.bind_body?_scheme _) hx hfound ha
  refine ⟨fun hle => ⟨c, hc.trans ?_⟩, fun hlt => hc.trans ?_⟩
  · rw [ruling_of_le hle]
  · rw [ruling_of_lt hlt]
    rfl

def sampleTexts : Texts where
  username := "ann \"x, y\""
  realm := "lab=1\\\\"
  password := "pw"
  method := "GET"
  uri := "/a,b"
  qop := some "auth"
  cnonce := some " c\n"

def knowing (password : String) : Store Unit where
  reply _ username := .found ⟨username, password, .object []⟩

theorem sampleTexts_writable : sampleTexts.Writable := by
  refine ⟨by decide, by decide, by decide, fun v hv => (nomatch hv),
    .inr ⟨rfl, ⟨_, rfl, by decide⟩, fun v hv => (nomatch hv)⟩⟩

theorem verify_client_header_complete_sample :
    sampleTexts.Writable ∧ sampleTexts.realm ≠ "" ∧ "s" ≠ "" ∧
    (Nonce.minExpiry ≤ 5 ∧ 5 ≤ Nonce.maxExpiry) ∧
    (Value.bool false).truthy = sampleTexts.hashed ∧
    ∃ config token header,
      Config.make sampleTexts.realm "s" (.bool false) = .ok config ∧
      Nonce.issue (.int 5) "s" = .ok token ∧
      (sampleTexts.client token).header = .ok (Directives.scheme ++ header) ∧
      (∃ c, (verify config (knowing "pw") .empty ()
        ⟨some (Directives.scheme ++ header), "GET", .null, 5⟩).outcome
          = .ok (.accepted c header)) ∧
      (verify config (knowing "pw") .empty ()
        ⟨some (Directives.scheme ++ header), "GET", .null, 6⟩).outcome
          = .ok (.rejection .nonceExpired header sampleTexts.username []) := by
  obtain ⟨config, token, header, hconfig, htoken, hheader, hverify⟩ :=
    verify_client_header_complete sampleTexts 5 "s" (.bool false) sampleTexts_writable
      (by decide) (by decide) (by decide) rfl
  have hrun := hverify (knowing "pw") () _ rfl rfl .empty .null
  exact ⟨sampleTexts_writable, by decide, by decide, by decide, rfl, config, token, header,
    hconfig, htoken, hheader, (hrun 5).1 (by decide), (hrun 6).2 (by decide)⟩

end HttpDigest.Verifier
