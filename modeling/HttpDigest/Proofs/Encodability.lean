import HttpDigest.Proofs.Digits
import HttpDigest.Proofs.Results
import HttpDigest.Proofs.WellFormed

namespace HttpDigest

namespace Surrogates

variable {s : Surrogates}

theorem encodes_append (first second : String) :
    s.encodes (first ++ second) = (s.encodes first && s.encodes second) := by
  simp [encodes]

theorem encodes_of_ascii {text : String} (h : ∀ c ∈ text.toList, c.toNat < 0x80) :
    s.encodes text = true := by
  refine List.all_eq_true.mpr fun c hc => ?_
  rw [Bool.not_eq_true']
  exact Bool.eq_false_iff.mpr fun hone => absurd (s.not_ascii c hone) (Nat.not_le.mpr (h c hc))

@[simp] theorem encodes_hex (text : String) : s.encodes (Md5.hex text) = true := by
  have hdigit : ∀ k : Fin 16, (Text.hexDigit k.val).toNat < 0x80 := by decide
  refine encodes_of_ascii fun c hc => ?_
  by_contra hbeyond
  refine Md5.not_mem_hex (fun k hk => hbeyond ?_) text hc
  exact hk ▸ hdigit k

@[simp] theorem encodes_colon : s.encodes ":" = true :=
  encodes_of_ascii (by simp)

@[simp] theorem encodes_authQop : s.encodes Response.authQop = true :=
  encodes_of_ascii (by simp [Response.authQop])

end Surrogates

namespace Response

variable {s : Surrogates} {i : Input} {response : String}

def userTexts (i : Input) : List String :=
  if i.hashed then [i.secret] else [i.username, i.realm, i.secret]

def texts (i : Input) : List String :=
  userTexts i ++ [i.method, i.uri, i.nonce]
    ++ if i.qop.isNull then [] else [i.nc.plain, i.cnonce.plain]

theorem form_cases (hc : compute i = .ok response) :
    (i.qop.isNull = true ∧ ∀ h1 h2, form h1 h2 i = .ok (h1 ++ ":" ++ i.nonce ++ ":" ++ h2)) ∨
    (i.qop.isNull = false ∧ ∀ h1 h2, form h1 h2 i = .ok (h1 ++ ":" ++ i.nonce ++ ":" ++ i.nc.plain
      ++ ":" ++ i.cnonce.plain ++ ":" ++ authQop ++ ":" ++ h2)) := by
  cases hq : i.qop.isNull with
  | true => exact .inl ⟨rfl, fun h1 h2 => by simp [form, hq]⟩
  | false =>
      obtain ⟨text, hsubject, -⟩ := exists_of_map_eq_ok hc
      rw [subject, form, hq, if_neg Bool.false_ne_true] at hsubject
      split at hsubject
      · cases hsubject
      · rename_i hauth
        split at hsubject
        · cases hsubject
        · rename_i hgiven
          refine .inr ⟨rfl, fun h1 h2 => ?_⟩
          rw [form, hq, if_neg Bool.false_ne_true, if_neg hauth, if_neg hgiven]

-- Three texts are hashed: the user's, the request's, and the one that has the hashes of both
theorem computeAny_of_form (inner : List String) {f : String → String → String}
    (hform : ∀ h1 h2, form h1 h2 i = .ok (f h1 h2))
    (hf : ∀ h1 h2, s.encodes (f h1 h2) = (s.encodes h1 && inner.all s.encodes && s.encodes h2)) :
    computeAny s i = if (userTexts i ++ [i.method, i.uri] ++ inner).all s.encodes
      then .ok (Md5.hex (f (userHash i) (ha2 i.method i.uri)))
      else .error (.fault .unencodable) := by
  have huser : userHashAny s i = if i.hashed || (userTexts i).all s.encodes then .ok (userHash i)
      else .error (.fault .unencodable) := by
    cases hh : i.hashed <;>
      simp [userHashAny, userTexts, userHash, ha1, hash, hh, s.encodes_append, and_assoc]
  have hrequest : hash s (i.method ++ ":" ++ i.uri) = if [i.method, i.uri].all s.encodes
      then .ok (ha2 i.method i.uri) else .error (.fault .unencodable) := by
    simp [hash, ha2, s.encodes_append]
  have hboth : hash s (f (userHash i) (ha2 i.method i.uri))
      = if (!i.hashed || (userTexts i).all s.encodes) && inner.all s.encodes
        then .ok (Md5.hex (f (userHash i) (ha2 i.method i.uri)))
        else .error (.fault .unencodable) := by
    have hsecret : s.encodes (userHash i) = (!i.hashed || (userTexts i).all s.encodes) := by
      cases hh : i.hashed <;> simp [userHash, userTexts, ha1, hh]
    rw [hash, hf, hsecret, ha2, s.encodes_hex, Bool.and_true]
  rw [computeAny, huser, hrequest, List.all_append, List.all_append]
  generalize (userTexts i).all s.encodes = user at hboth ⊢
  generalize [i.method, i.uri].all s.encodes = request
  generalize inner.all s.encodes = last at hboth ⊢
  -- by cases which of the three texts is the first that cannot be hashed
  cases hh : i.hashed <;> cases user <;> cases request <;> cases last <;>
    simp [bind, Except.bind, Except.mapError, hform, hboth, hh]

-- A digest comes out just if all its texts have a UTF-8 form
theorem computeAny_eq (hc : compute i = .ok response) :
    computeAny s i
      = if (texts i).all s.encodes then .ok response else .error (.fault .unencodable) := by
  obtain ⟨text, hsubject, rfl⟩ := exists_of_map_eq_ok hc
  rcases form_cases hc with ⟨hq, hform⟩ | ⟨hq, hform⟩ <;> rw [subject, hform] at hsubject <;>
    obtain rfl := Except.ok.inj hsubject
  · rw [computeAny_of_form [i.nonce] hform (by simp [s.encodes_append])]
    simp [texts, hq]
  · rw [computeAny_of_form [i.nonce, i.nc.plain, i.cnonce.plain] hform
      (by simp [s.encodes_append, Bool.and_assoc])]
    simp [texts, hq]

end Response

namespace Verifier

variable {σ : Type} {s : Surrogates} {config : Config} {store : Store σ} {cache : Cache}
  {state : σ} {attempt : Attempt} {t : Ticket} {c : Credential}

def spoken (config : Config) (method : String) (t : Ticket) (c : Credential) : List String :=
  t.answer.response
    :: Response.texts (t.answer.input config.hashed.truthy c.secret.plain method)

def Hashable (s : Surrogates) (config : Config) (method : String) (t : Ticket)
    (c : Credential) : Prop :=
  (spoken config method t c).all s.encodes = true

instance (s : Surrogates) (config : Config) (method : String) (t : Ticket) (c : Credential) :
    Decidable (Hashable s config method t c) :=
  inferInstanceAs (Decidable (_ = true))

-- An examined answer has a response for every credential, if it can be hashed
theorem respondAny_eq (s : Surrogates) (config : Config) (attempt : Attempt) (c : Credential)
    (hp : t.answer.Protected) :
    ∃ response, respond config attempt t c = .ok response ∧
      respondAny s config attempt t c
        = if Hashable s config attempt.method t c then .ok response
          else .error (.fault .unencodable) := by
  obtain ⟨response, hc⟩ := hp.compute_eq_ok config.hashed.truthy c.secret.plain attempt.method
  refine ⟨response, by simp only [respond, expected, hc]; rfl, ?_⟩
  have hall : (spoken config attempt.method t c).all s.encodes
      = (s.encodes t.answer.response && (Response.texts _).all s.encodes) := List.all_cons
  rw [respondAny, Response.computeAny_eq hc]
  by_cases hh : Hashable s config attempt.method t c
  · obtain ⟨hresponse, htexts⟩ := (Bool.and_eq_true _ _).mp (hall.symm.trans hh)
    rw [if_pos hh, if_pos htexts, hresponse]
    rfl
  · rw [if_neg hh]
    rw [Hashable, hall, Bool.and_eq_true, not_and] at hh
    split
    · rename_i htexts
      simp only [bind, Except.bind]
      rw [if_neg fun hresponse => hh hresponse htexts]
    · rfl

theorem respondAny_of_hashable (hp : t.answer.Protected)
    (hh : Hashable s config attempt.method t c) :
    respondAny s config attempt t c = respond config attempt t c := by
  obtain ⟨response, hr, hany⟩ := respondAny_eq s config attempt c hp
  rw [hr, hany, if_pos hh]

theorem respondAny_of_not_hashable (hp : t.answer.Protected)
    (hh : ¬Hashable s config attempt.method t c) :
    respondAny s config attempt t c = .error (.fault .unencodable) := by
  obtain ⟨response, -, hany⟩ := respondAny_eq s config attempt c hp
  rw [hany, if_neg hh]

theorem ask_congr {respond respond' : Responder}
    (h : ∀ c, store.reply state t.answer.username = .found c → respond t c = respond' t c) :
    ask respond store cache state attempt t = ask respond' store cache state attempt t := by
  have hjudge : judge respond attempt t (store.reply state t.answer.username)
      = judge respond' attempt t (store.reply state t.answer.username) := by
    cases hr : store.reply state t.answer.username with
    | found c => simp only [judge, h c hr]
    | _ => rfl
  simp only [ask, fetch, hjudge]

theorem settle_congr {respond respond' : Responder}
    (hcached : ∀ c, cache.get? t.answer.username = some c → respond t c = respond' t c)
    (hfound : (∀ c, cache.get? t.answer.username = some c →
        respond' t c ≠ .ok t.answer.response) →
      ∀ c, store.reply state t.answer.username = .found c → respond t c = respond' t c) :
    settle respond store cache state attempt t = settle respond' store cache state attempt t := by
  unfold settle
  cases hc : cache.get? t.answer.username with
  | none => exact ask_congr (hfound fun c h => nomatch hc.symm.trans h)
  | some cached =>
      simp only [hcached cached hc]
      cases hr : respond' t cached with
      | error f => rfl
      | ok response =>
          dsimp only
          split
          · rfl
          · -- the store is asked because the cached credential does not answer
            rename_i hne
            rw [ask_congr (hfound fun c h hok => ?_)]
            obtain rfl := Option.some.inj (hc.symm.trans h)
            exact hne (Except.ok.inj (hr.symm.trans hok))

-- Every text that a call has to hash or to compare has a UTF-8 form
structure Encodable (s : Surrogates) (config : Config) (store : Store σ) (cache : Cache)
    (state : σ) (attempt : Attempt) : Prop where
  signature : ∀ header, attempt.authorization.bind Directives.body? = some header →
    checksSignature (examine config header) = true → s.encodes config.secret.plain = true
  cached : ∀ t c, attempt.authorization.bind Directives.body? = some t.header →
    Examined config t → cache.get? t.answer.username = some c →
    Hashable s config attempt.method t c
  found : ∀ t c, attempt.authorization.bind Directives.body? = some t.header →
    Examined config t → Unanswered config cache attempt.method t →
    store.reply state t.answer.username = .found c → Hashable s config attempt.method t c

theorem verifyAny_of_unsigned {header : String}
    (hb : attempt.authorization.bind Directives.body? = some header)
    (hc : checksSignature (examine config header) = true)
    (hs : s.encodes config.secret.plain ≠ true) :
    (verifyAny s config store cache state attempt).outcome = .error (.fault .unencodable) := by
  simp only [verifyAny, hb, hc, Bool.eq_false_iff.mpr hs]
  rfl

theorem verifyAny_of_signed
    (h : ∀ header, attempt.authorization.bind Directives.body? = some header →
      checksSignature (examine config header) = true → s.encodes config.secret.plain = true) :
    verifyAny s config store cache state attempt
      = verifyBy (respondAny s config attempt) config store cache state attempt := by
  rw [verifyAny]
  split
  · rename_i header hb
    refine if_neg fun hunsigned => ?_
    obtain ⟨hc, hs⟩ := (Bool.and_eq_true _ _).mp hunsigned
    rw [h header hb hc] at hs
    cases hs
  · rfl

-- Then a call is the one over texts that all have a UTF-8 form
theorem verifyAny_eq_verify (h : Encodable s config store cache state attempt) :
    verifyAny s config store cache state attempt = verify config store cache state attempt := by
  rw [verifyAny_of_signed h.signature, verify]
  rcases verify_cases config attempt.authorization with hb | ⟨header, refusal, hb, he⟩ | ⟨t, hb, hx⟩
  · simp only [verifyBy, hb]
  · simp only [verifyBy, hb, he]
  · have hsettle : settle (respondAny s config attempt) store cache state attempt t
        = settle (respond config attempt) store cache state attempt t := by
      refine settle_congr (fun c hc => respondAny_of_hashable hx.isProtected
        (h.cached t c hb hx hc)) fun hno c hc => ?_
      exact respondAny_of_hashable hx.isProtected (h.found t c hb hx
        (fun d hd ha => hno d hd (respond_of_answers ha)) hc)
    simp only [verifyBy, hb, examine_eq_ok_iff.mpr ⟨rfl, hx⟩, hsettle]

theorem outcome_of_signed_ticket (hs : s.encodes config.secret.plain = true)
    (hb : attempt.authorization.bind Directives.body? = some t.header) (hx : Examined config t) :
    (verifyAny s config store cache state attempt).outcome
      = (settle (respondAny s config attempt) store cache state attempt t).outcome := by
  rw [verifyAny_of_signed fun _ _ _ => hs]
  simp only [verifyBy, hb, examine_eq_ok_iff.mpr ⟨rfl, hx⟩]

theorem settle_of_cached_not_hashable (hp : t.answer.Protected)
    (hc : cache.get? t.answer.username = some c)
    (hh : ¬Hashable s config attempt.method t c) :
    (settle (respondAny s config attempt) store cache state attempt t).outcome
      = .error (.fault .unencodable) := by
  simp only [settle, hc, respondAny_of_not_hashable hp hh]

theorem settle_of_found_not_hashable (hp : t.answer.Protected)
    (hu : Unanswered config cache attempt.method t)
    (hr : store.reply state t.answer.username = .found c)
    (hh : ¬Hashable s config attempt.method t c) :
    (settle (respondAny s config attempt) store cache state attempt t).outcome
      = .error (.fault .unencodable) := by
  have hask : (ask (respondAny s config attempt) store cache state attempt t).outcome
      = .error (.fault .unencodable) := by
    simp only [ask, fetch, hr, judge, respondAny_of_not_hashable hp hh]
  cases hc : cache.get? t.answer.username with
  | none => simp only [settle, hc, hask]
  | some cached =>
      by_cases hcached : Hashable s config attempt.method t cached
      · obtain ⟨response, he, hne⟩ := exists_respond_of_not_answers hp (hu cached hc)
        simp only [settle, hc, respondAny_of_hashable hp hcached, he, if_neg hne, hask]
      · exact settle_of_cached_not_hashable hp hc hcached

-- Else it is cut off where the first of these texts is hashed
theorem outcome_of_not_encodable (h : ¬Encodable s config store cache state attempt) :
    (verifyAny s config store cache state attempt).outcome = .error (.fault .unencodable) := by
  by_contra hne
  have hsigned : ∀ header, attempt.authorization.bind Directives.body? = some header →
      checksSignature (examine config header) = true → s.encodes config.secret.plain = true :=
    fun header hb hc => by_contra fun hs => hne (verifyAny_of_unsigned hb hc hs)
  have hsettled : ∀ t, attempt.authorization.bind Directives.body? = some t.header →
      Examined config t →
      (settle (respondAny s config attempt) store cache state attempt t).outcome
        ≠ .error (.fault .unencodable) := by
    intro t hb hx hout
    have hs := hsigned t.header hb (by rw [examine_eq_ok_iff.mpr ⟨rfl, hx⟩]; rfl)
    exact hne ((outcome_of_signed_ticket hs hb hx).trans hout)
  exact h {
    signature := hsigned
    cached := fun t c hb hx hc => by_contra fun hh =>
      hsettled t hb hx (settle_of_cached_not_hashable hx.isProtected hc hh)
    found := fun t c hb hx hu hr => by_contra fun hh =>
      hsettled t hb hx (settle_of_found_not_hashable hx.isProtected hu hr hh) }

-- Over a store that keeps its contract a call ends with an outcome just if all texts that it hashes
-- have a UTF-8 form. The outcome is well formed, and every refusal has an answer. Nothing else on
-- the way can fail: a header with the mandatory directives has an answer in it, an examined answer
-- has a response for every credential, and what is reported of a nonce has a reason.
theorem exists_outcome_iff_encodable (s : Surrogates) (config : Config) (store : Store σ)
    (cache : Cache) (state : σ) (attempt : Attempt)
    (hstore : ∀ username f, store.reply state username ≠ .broken f) :
    ((∃ o, (verifyAny s config store cache state attempt).outcome = .ok o ∧ o.WellFormed ∧
        ∀ {ν : Type} (challenger : Challenger) (supplier : Challenger.Supplier ν) (nonces : ν),
          o.Refused → ∃ reply, (challenger.commence supplier nonces o).1 = .ok reply ∧
            reply.status = if o.status = .error then 500 else 401) ↔
      Encodable s config store cache state attempt) ∧
    (¬Encodable s config store cache state attempt →
      (verifyAny s config store cache state attempt).outcome = .error (.fault .unencodable)) ∧
    (∀ directives, Authorization.missingMandatory directives = [] →
      ∃ a, Authorization.ofDirectives directives = .ok a) ∧
    (∀ header t c, examine config header = .ok t →
      ∃ response, respond config attempt t c = .ok response ∧
        respondAny s config attempt t c
          = if Hashable s config attempt.method t c then .ok response
            else .error (.fault .unencodable)) ∧
    (∀ token e, Nonce.decode token = .error e →
      ∃ code : String, e.report.code = code ∧
        Reason.ofCode? code = some (Reason.ofDecodeError e)) := by
  refine ⟨⟨fun hout => ?_, fun h => ?_⟩, outcome_of_not_encodable,
    fun _ h => Authorization.exists_of_missingMandatory_eq_nil h, fun header t c h => ?_,
    fun _ e _ => e.ofCode?_report⟩
  · obtain ⟨o, ho, -⟩ := hout
    by_contra hne
    cases ho.symm.trans (outcome_of_not_encodable hne)
  · rw [verifyAny_eq_verify h]
    rcases wellFormed_or_broken config store cache state attempt with
      ⟨o, ho, hw⟩ | ⟨username, f, -, hf⟩
    · exact ⟨o, ho, hw, fun challenger supplier nonces hr =>
        challenger.status_commence supplier nonces hw hr⟩
    · exact absurd hf (hstore username f)
  · obtain ⟨-, hx⟩ := examine_eq_ok_iff.mp h
    exact respondAny_eq s config attempt c hx.isProtected

-- A user whose secret is a surrogate without its pair
def surrogateUser : Credential :=
  { sampleUser with secret := String.singleton (Surrogates.inPrivateUse.standIn 0xd800) }

theorem sampleAttempt_encodable
    (hc : ∀ c, cache.get? "ann" = some c → Hashable .inPrivateUse sampleConfig "GET" sampleTicket c)
    (hr : ∀ c, store.reply state "ann" = .found c →
      Hashable .inPrivateUse sampleConfig "GET" sampleTicket c) :
    Encodable .inPrivateUse sampleConfig store cache state sampleAttempt := by
  have hticket : ∀ t : Ticket, sampleAttempt.authorization.bind Directives.body? = some t.header →
      Examined sampleConfig t → t = sampleTicket := fun t hb hx =>
    Examined.unique (Directives.bind_body?_scheme _) sampleTicket_examined hb hx
  constructor
  · intro _ _ _
    decide +kernel
  · intro t c hb hx h
    obtain rfl := hticket t hb hx
    exact hc c h
  · intro t c hb hx _ h
    obtain rfl := hticket t hb hx
    exact hr c h

theorem formerCache_encodable :
    Encodable .inPrivateUse sampleConfig Store.ofDirectory formerCache [("ann", formerUser)]
      sampleAttempt := by
  have hformer : Hashable .inPrivateUse sampleConfig "GET" sampleTicket formerUser := by
    decide +kernel
  exact sampleAttempt_encodable (fun c h => Option.some.inj h ▸ hformer)
    fun c h => Reply.found.inj h ▸ hformer

theorem surrogateUser_not_encodable :
    ¬Encodable .inPrivateUse sampleConfig Store.ofDirectory .empty [("ann", surrogateUser)]
      sampleAttempt := by
  intro h
  have hh := h.found sampleTicket surrogateUser (Directives.bind_body?_scheme _)
    sampleTicket_examined (fun c hc => nomatch hc) rfl
  revert hh
  decide +kernel

theorem ofDirectory_not_broken (directory : Store.Directory) (username : String) (f : Failure) :
    Store.ofDirectory.reply directory username ≠ .broken f := by
  intro h
  simp only [Store.ofDirectory] at h
  split at h <;> cases h

-- A former password that is still known to the cache and the directory: the call ends with a
-- mismatch, which is answered by a challenge. A surrogate in her secret cuts it off.
theorem exists_outcome_iff_encodable_sample :
    Encodable .inPrivateUse sampleConfig Store.ofDirectory formerCache [("ann", formerUser)]
      sampleAttempt ∧
    (verifyAny .inPrivateUse sampleConfig Store.ofDirectory formerCache [("ann", formerUser)]
      sampleAttempt).outcome = .ok (.rejection .digestMismatch sampleTicket.header "ann" []) ∧
    (∃ reply, (Challenger.commence ⟨"lab", "auth", .null⟩ (⟨fun _ => "N", id⟩ :
      Challenger.Supplier Unit) () (.rejection .digestMismatch sampleTicket.header "ann" [])).1
        = .ok reply ∧ reply.status = 401) ∧
    (verifyAny .inPrivateUse sampleConfig Store.ofDirectory .empty [("ann", surrogateUser)]
      sampleAttempt).outcome = .error (.fault .unencodable) := by
  have hsame := verifyAny_eq_verify formerCache_encodable
  have hmismatch := (congrArg Verification.outcome hsame).trans
    (formerCache_refused [("ann", formerUser)] fun c hc => (Reply.found.inj hc).symm)
  obtain ⟨hends, -⟩ := exists_outcome_iff_encodable .inPrivateUse sampleConfig Store.ofDirectory
    formerCache [("ann", formerUser)] sampleAttempt (ofDirectory_not_broken _)
  obtain ⟨-, hcut, -⟩ := exists_outcome_iff_encodable .inPrivateUse sampleConfig Store.ofDirectory
    .empty [("ann", surrogateUser)] sampleAttempt (ofDirectory_not_broken _)
  obtain ⟨o, ho, -, hcommence⟩ := hends.mpr formerCache_encodable
  obtain rfl := Except.ok.inj (ho.symm.trans hmismatch)
  exact ⟨formerCache_encodable, hmismatch, hcommence _ _ _ (.inl rfl),
    hcut surrogateUser_not_encodable⟩

def EveryCallEnds (s : Surrogates) : Prop :=
  ∀ (config : Config) (store : Store Store.Directory) (cache : Cache) (state : Store.Directory)
    (attempt : Attempt), (∀ username f, store.reply state username ≠ .broken f) →
    ∃ o, (verifyAny s config store cache state attempt).outcome = .ok o

-- Not so if the secret of a user is a surrogate without its pair
theorem not_everyCallEnds : ¬EveryCallEnds .inPrivateUse := by
  intro h
  obtain ⟨o, ho⟩ := h sampleConfig Store.ofDirectory .empty [("ann", surrogateUser)] sampleAttempt
    (ofDirectory_not_broken _)
  cases ho.symm.trans (outcome_of_not_encodable surrogateUser_not_encodable)

end Verifier

end HttpDigest
