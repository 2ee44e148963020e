import HttpDigest.Proofs.Settlement
import HttpDigest.Proofs.TokenRoundTrip

namespace HttpDigest.Verifier

variable {σ : Type} {config : Config} {store : Store σ} {cache : Cache} {state : σ}
  {attempt : Attempt} {o : Outcome}

-- An acceptance shows a ticket whose response is that of the credential accepted
theorem exists_ticket_of_authenticated
    (h : (verify config store cache state attempt).outcome = .ok o)
    (ha : o.status = .authenticated) :
    ∃ (t : Ticket) (c : Credential),
      attempt.authorization.bind Directives.body? = some t.header ∧ Examined config t ∧
      o = ruling attempt.now t c ∧ Answers config attempt.method t c ∧
      Supplied store cache state t.answer.username
        (verify config store cache state attempt).asked c :=
  exists_ruling h fun ht => ht.1 ha

def sampleUser : Credential where
  username := "ann"
  secret := "pw"
  identity := .object []

def sampleStore : Store Unit where
  reply _ _ := .found sampleUser

def sampleConfig : Config where
  realm := "lab"
  secret := "s"
  hashed := .bool false

def sampleTicket : Ticket where
  header := "username=ann, realm=lab, nonce=NToxOGVlOWEzZjkwMTk4NDUxMWVjZWVkNTVkZmQ1YzdmNQ==, "
    ++ "uri=/, response=049a285dd8f60e03386379684d5e6a22"
  answer := {
    username := "ann"
    realm := "lab"
    nonce := "NToxOGVlOWEzZjkwMTk4NDUxMWVjZWVkNTVkZmQ1YzdmNQ=="
    uri := "/"
    response := "049a285dd8f60e03386379684d5e6a22"
    qop := none
    nc := none
    cnonce := none
    opaqueText := none
    algorithm := none }
  nonce := {
    expiry := 5
    signature := "18ee9a3f901984511eceed55dfd5c7f5"
    plaintext := "5:18ee9a3f901984511eceed55dfd5c7f5" }

def sampleAttempt : Attempt where
  authorization := some (Directives.scheme ++ sampleTicket.header)
  method := "GET"
  uri := "/"
  now := 5

theorem sampleTicket_examined : Examined sampleConfig sampleTicket := by
  have hread : Directives.read sampleTicket.header = [("username", "ann"), ("realm", "lab"),
      ("nonce", sampleTicket.answer.nonce), ("uri", "/"),
      ("response", sampleTicket.answer.response)] := by decide +kernel
  have hnonce : sampleTicket.answer.nonce = Nonce.encode 5 "s" := by decide +kernel
  have hsign : sampleTicket.nonce = ⟨5, Nonce.sign 5 "s", Nonce.plaintextOf 5 "s"⟩ := by
    decide +kernel
  refine ⟨?_, .inl rfl, rfl, ?_, by decide +kernel⟩
  · rw [hread]
    exact ⟨rfl, rfl, rfl, rfl, rfl, rfl, rfl, rfl, rfl, rfl⟩
  · rw [hnonce, hsign]
    exact Nonce.decode_encode (by decide)

theorem sampleUser_answers :
    Answers sampleConfig sampleAttempt.method sampleTicket sampleUser := by
  have hhash : Md5.hex (Response.ha1 "ann" "lab" "pw" ++ ":"
      ++ "NToxOGVlOWEzZjkwMTk4NDUxMWVjZWVkNTVkZmQ1YzdmNQ==" ++ ":" ++ Response.ha2 "GET" "/")
      = "049a285dd8f60e03386379684d5e6a22" := by decide +kernel
  unfold Answers
  rw [Response.compute_of_null rfl]
  exact congrArg Except.ok hhash

theorem sample_verified :
    (verify sampleConfig sampleStore .empty () sampleAttempt).outcome
      = .ok (.accepted sampleUser sampleTicket.header) := by
  have hb : sampleAttempt.authorization.bind Directives.body? = some sampleTicket.header :=
    Directives.bind_body?_scheme sampleTicket.header
  have hu : Unanswered sampleConfig .empty sampleAttempt.method sampleTicket :=
    fun c hget => nomatch hget
  have hf : sampleStore.reply () sampleTicket.answer.username = .found sampleUser := rfl
  have hv := (quiet_verify_of_ticket hb sampleTicket_examined).trans
    (quiet_settle_of_found sampleTicket_examined.isProtected hu hf sampleUser_answers)
  exact (Verification.outcome_of_quiet hv).trans (congrArg Except.ok (ruling_of_le (by decide)))

-- Whoever is accepted has answered for the configured realm with a nonce that is signed and not
-- past its time, and with the response of a credential that this very call came by
theorem verify_authenticated_sound
    (h : (verify config store cache state attempt).outcome = .ok o)
    (ha : o.status = .authenticated) :
    ∃ (header : String) (a : Authorization) (n : Nonce) (c : Credential),
      attempt.authorization = some ("Digest " ++ header) ∧
      o = .accepted c header ∧
      a.ReadFrom (Directives.read header) ∧
      (a.qop = none ∨ a.qop = some "auth" ∧ a.nc.isSome ∧ a.cnonce.isSome) ∧
      config.realm = .text a.realm ∧
      Nonce.decode a.nonce = .ok n ∧
      attempt.now ≤ n.expiry ∧
      n.signature = Md5.hex (toString n.expiry ++ ":" ++ config.secret.plain) ∧
      Response.compute (a.input config.hashed.truthy c.secret.plain attempt.method)
        = .ok a.response ∧
      Supplied store cache state a.username
        (verify config store cache state attempt).asked c := by
  obtain ⟨t, c, hb, hx, ho, hc, hs⟩ := exists_ticket_of_authenticated h ha
  have hnow : attempt.now ≤ t.nonce.expiry := by
    by_contra hlt
    rw [ho, ruling_of_lt (Int.not_le.mp hlt)] at ha
    cases ha
  have hauth : attempt.authorization = some ("Digest " ++ t.header) := by
    obtain ⟨text, htext, hbody⟩ := Option.bind_eq_some_iff.mp hb
    rw [htext, Directives.body?_eq_some_iff.mp hbody]
    rfl
  refine ⟨t.header, t.answer, t.nonce, c, hauth, ?_, hx.readFrom, hx.isProtected, hx.realm,
    hx.nonce, hnow, ?_, hc, hs⟩
  · rw [ho, ruling_of_le hnow]
  · exact (of_decide_eq_true hx.signed).symm

theorem verify_authenticated_sound_sample :
    (verify sampleConfig sampleStore .empty () sampleAttempt).outcome
      = .ok (.accepted sampleUser sampleTicket.header) ∧
    (Outcome.accepted sampleUser sampleTicket.header).status = .authenticated ∧
    ∃ (header : String) (a : Authorization) (n : Nonce) (c : Credential),
      sampleAttempt.authorization = some ("Digest " ++ header) ∧
      Outcome.accepted sampleUser sampleTicket.header = .accepted c header ∧
      a.ReadFrom (Directives.read header) ∧
      (a.qop = none ∨ a.qop = some "auth" ∧ a.nc.isSome ∧ a.cnonce.isSome) ∧
      sampleConfig.realm = .text a.realm ∧
      Nonce.decode a.nonce = .ok n ∧
      sampleAttempt.now ≤ n.expiry ∧
      n.signature = Md5.hex (toString n.expiry ++ ":" ++ sampleConfig.secret.plain) ∧
      Response.compute (a.input sampleConfig.hashed.truthy c.secret.plain sampleAttempt.method)
        = .ok a.response ∧
      Supplied sampleStore .empty () a.username
        (verify sampleConfig sampleStore .empty () sampleAttempt).asked
        c :=
  ⟨sample_verified, rfl, verify_authenticated_sound sample_verified rfl⟩

end HttpDigest.Verifier
