import HttpDigest.Proofs.NonceText
import HttpDigest.Proofs.Settlement

namespace HttpDigest.Verifier

structure Situation where
  config : Config
  cache : Cache
  reply : String → Reply
  attempt : Attempt

def situation {σ : Type} (config : Config) (store : Store σ) (cache : Cache) (state : σ)
    (attempt : Attempt) : Situation where
  config := config
  cache := cache
  reply := store.reply state
  attempt := attempt

namespace Situation

def header? (s : Situation) : Option String :=
  s.attempt.authorization.bind Directives.body?

def directive? (s : Situation) (name : String) : Option String :=
  s.header?.bind fun header => (Directives.read header).get? name

def bytes? (s : Situation) : Option (List UInt8) :=
  (s.directive? "nonce").bind Nonce.bytes?

def plaintext? (s : Situation) : Option String :=
  s.bytes?.bind fun bytes => String.fromUTF8? bytes.toByteArray

def expiry? (s : Situation) : Option Int :=
  s.plaintext?.bind fun text => Nonce.expiry? (text.toList.takeWhile (· != ':'))

def signature? (s : Situation) : Option String :=
  s.plaintext?.map fun text => .ofList (text.toList.dropWhile (· != ':')).tail

def cached? (s : Situation) : Option Credential :=
  (s.directive? "username").bind s.cache.get?

def reply? (s : Situation) : Option Reply :=
  (s.directive? "username").map s.reply

def found? (s : Situation) : Option Credential :=
  match s.reply? with
  | some (.found c) => some c
  | _ => none

def answers (s : Situation) (c : Credential) : Bool :=
  match Response.compute {
      hashed := s.config.hashed.truthy
      username := (s.directive? "username").getD ""
      realm := (s.directive? "realm").getD ""
      secret := c.secret.plain
      method := s.attempt.method
      uri := (s.directive? "uri").getD ""
      nonce := (s.directive? "nonce").getD ""
      qop := .ofText? (s.directive? "qop")
      nc := .ofText? (s.directive? "nc")
      cnonce := .ofText? (s.directive? "cnonce") } with
  | .ok response => s.directive? "response" == some response
  | .error _ => false

-- The credential that answers: that of the cache, or else that of the store
def answering? (s : Situation) : Option Credential :=
  (s.cached?.filter s.answers).or (s.found?.filter s.answers)

def rejection (s : Situation) (reason : Reason) (values : OrderedMap String Value := []) :
    Except Failure Outcome :=
  .ok (.rejection reason (.ofText? s.header?) (.ofText? (s.directive? "username")) values)

end Situation

inductive Check where
  | scheme
  | mandatory
  | forAuth
  | protection
  | realm
  | encoding
  | form
  | expiry
  | signature
  | credential
  | digest
  | time
deriving DecidableEq, Repr

namespace Check

-- The order in which they count
def all : List Check := [
  scheme, mandatory, forAuth, protection, realm, encoding, form, expiry, signature, credential,
  digest, time]

def before (check : Check) : List Check :=
  all.takeWhile (· ≠ check)

-- Each check has a meaning of its own, whether or not the others are passed
def passes (s : Situation) : Check → Bool
  | scheme => s.header?.isSome
  | mandatory => Authorization.mandatory.all fun name => (s.directive? name).isSome
  | forAuth => s.directive? "qop" != some "auth" ||
      Authorization.forAuth.all fun name => (s.directive? name).isSome
  | protection => (s.directive? "qop").all (· == "auth")
  | realm => (s.directive? "realm").any s.config.realm.isText
  | encoding => s.bytes?.isSome
  | form => s.plaintext?.any fun text => text.toList.count ':' == 1
  | expiry => s.expiry?.isSome
  | signature => s.expiry?.any fun expiry =>
      s.signature? == some (Nonce.sign expiry s.config.secret.plain)
  | credential => s.cached?.isSome || s.found?.isSome
  | digest => s.answering?.isSome
  | time => s.expiry?.any fun expiry => s.attempt.now ≤ expiry

-- What a call ends with if this is the first check that it fails
def ending (s : Situation) : Check → Except Failure Outcome
  | scheme => .ok .unauthenticated
  | mandatory => s.rejection .missingMandatoryField
  | forAuth => s.rejection .missingAuthField
  | protection => s.rejection .unsupportedQop [("qop", .ofText? (s.directive? "qop"))]
  | realm => s.rejection .realmMismatch [
      ("realm", .ofText? (s.directive? "realm")), ("expected_realm", s.config.realm)]
  | encoding => s.rejection .nonceNotBase64 [
      ("nonce", .ofText? (s.directive? "nonce")), ("plaintext", .text "")]
  | form => s.rejection .nonceMalformed [
      ("nonce", .ofText? (s.directive? "nonce")), ("plaintext", .text (s.plaintext?.getD ""))]
  | expiry => s.rejection .nonceNotNumeric [
      ("nonce", .ofText? (s.directive? "nonce")), ("plaintext", .text (s.plaintext?.getD ""))]
  | signature => s.rejection .nonceSignatureInvalid [("plaintext", .ofText? s.plaintext?)]
  | credential | digest => match s.reply? with
    | some reply => reply.refusal (.ofText? s.header?) (.ofText? (s.directive? "username"))
    | none => .ok .unauthenticated
  | time => s.rejection .nonceExpired

end Check

def Situation.firstFailing? (s : Situation) : Option Check :=
  Check.all.find? fun check => !check.passes s

-- What a check reads of a situation, two that agree on it are the same to the check
def Check.Agree (s t : Situation) (check : Check) : Prop :=
  s.attempt.authorization = t.attempt.authorization ∧ match check with
    | realm => s.config.realm = t.config.realm
    | signature => s.config.secret.plain = t.config.secret.plain
    | credential => s.cached? = t.cached? ∧ (s.cached? = none → s.reply? = t.reply?)
    | digest => s.config.hashed.truthy = t.config.hashed.truthy ∧
        s.attempt.method = t.attempt.method ∧ s.cached? = t.cached? ∧
        (s.cached?.filter s.answers = none → s.reply? = t.reply?)
    | time => s.attempt.now = t.attempt.now
    | _ => True

section Meaning

variable {s : Situation} {header : String} {a : Authorization} {c : Credential}

theorem directive?_of_header (hh : s.header? = some header) (name : String) :
    s.directive? name = (Directives.read header).get? name := by
  simp [Situation.directive?, hh]

theorem exists_readFrom_of_passes (hh : s.header? = some header)
    (h : Check.mandatory.passes s = true) :
    ∃ a : Authorization, a.ReadFrom (Directives.read header) := by
  apply Authorization.exists_readFrom
  intro name hm
  have hpass := List.all_eq_true.mp h name hm
  rw [directive?_of_header hh] at hpass
  exact Option.isSome_iff_ne_none.mp hpass

theorem exists_missing_of_fails (hh : s.header? = some header)
    (h : Check.mandatory.passes s = false) :
    ∃ name ∈ Authorization.mandatory, (Directives.read header).get? name = none := by
  obtain ⟨name, hm, hn⟩ := List.all_eq_false.mp h
  rw [directive?_of_header hh] at hn
  exact ⟨name, hm, by simpa using hn⟩

variable (hh : s.header? = some header) (hr : a.ReadFrom (Directives.read header))
include hh hr

theorem forAuth_passes_iff : Check.forAuth.passes s = true ↔
    (a.qop = some Response.authQop → a.nc.isSome ∧ a.cnonce.isSome) := by
  simp only [Check.passes, directive?_of_header hh, Authorization.forAuth, hr.qop, List.all_cons,
    hr.nc, hr.cnonce, List.all_nil, Response.authQop]
  by_cases hq : a.qop = some "auth" <;> simp [hq]

theorem protection_passes_iff : Check.protection.passes s = true ↔
    a.qop = none ∨ a.qop = some Response.authQop := by
  simp only [Check.passes, directive?_of_header hh, hr.qop, Response.authQop]
  cases a.qop <;> simp

theorem protected_of_passes (hf : Check.forAuth.passes s = true)
    (hp : Check.protection.passes s = true) : a.Protected := by
  rcases (protection_passes_iff hh hr).mp hp with hq | hq
  · exact .inl hq
  · exact .inr ⟨hq, (forAuth_passes_iff hh hr).mp hf hq⟩

theorem realm_passes_iff : Check.realm.passes s = true ↔ s.config.realm = .text a.realm := by
  simp only [Check.passes, directive?_of_header hh, hr.realm, Option.any_some, Value.isText_iff]

theorem answers_iff {n : Nonce} :
    s.answers c = true ↔ Answers s.config s.attempt.method ⟨header, a, n⟩ c := by
  simp only [Situation.answers, directive?_of_header hh, hr.username, hr.realm, hr.nonce, hr.uri,
    hr.response, hr.qop, hr.nc, hr.cnonce, Option.getD_some]
  change (match Response.compute
    (a.input s.config.hashed.truthy c.secret.plain s.attempt.method) with
    | .ok response => some a.response == some response
    | .error _ => false) = true ↔ Response.compute _ = .ok a.response
  cases Response.compute (a.input s.config.hashed.truthy c.secret.plain s.attempt.method) with
  | ok response =>
      simp only [beq_iff_eq, Option.some.injEq, Except.ok.injEq]
      exact eq_comm
  | error e => simp

theorem decode_of_encoding_fails (h : Check.encoding.passes s = false) :
    Nonce.decode a.nonce = .error (.notBase64 a.nonce) := by
  apply Nonce.decode_of_not_base64
  simpa [Check.passes, Situation.bytes?, directive?_of_header hh, hr.nonce] using h

theorem decode_of_plaintext {text : String} (h : s.plaintext? = some text) :
    Nonce.decode a.nonce = Nonce.ofPlaintext text := by
  obtain ⟨bytes, hb, ht⟩ := Option.bind_eq_some_iff.mp h
  rw [Situation.bytes?, directive?_of_header hh, hr.nonce, Option.bind_some] at hb
  exact Nonce.decode_of_text hb ht

theorem decode_of_form_fails (he : Check.encoding.passes s = true)
    (hf : Check.form.passes s = false) :
    ∃ e, Nonce.decode a.nonce = .error e ∧ Reason.ofDecodeError e = .nonceMalformed ∧
      e.plaintext = s.plaintext?.getD "" := by
  cases ht : s.plaintext? with
  | none =>
      obtain ⟨bytes, hb⟩ := Option.isSome_iff_exists.mp he
      have hnot : String.fromUTF8? bytes.toByteArray = none := by
        simpa [Situation.plaintext?, hb] using ht
      rw [Situation.bytes?, directive?_of_header hh, hr.nonce, Option.bind_some] at hb
      exact ⟨_, Nonce.decode_of_not_text hb hnot, rfl, rfl⟩
  | some text =>
      have hcount : text.toList.count ':' ≠ 1 := by
        simpa [Check.passes, ht] using hf
      exact ⟨_, (decode_of_plaintext hh hr ht).trans (Nonce.ofPlaintext_of_count_ne hcount), rfl,
        rfl⟩

theorem exists_parts_of_form_passes (h : Check.form.passes s = true) :
    ∃ text second, s.plaintext? = some text ∧ s.signature? = some second ∧
      Nonce.decode a.nonce = s.expiry?.elim (.error (.notNumeric text))
        fun expiry => .ok ⟨expiry, second, text⟩ := by
  obtain ⟨text, ht, hcount⟩ := (Option.any_eq_true _ _).mp h
  obtain ⟨first, second, hp, hf, hs⟩ := Text.exists_parts (beq_iff_eq.mp hcount)
  have hexpiry : s.expiry? = Nonce.expiry? first := by
    rw [Situation.expiry?, ht, Option.bind_some, hp, Text.takeWhile_parts hf]
  refine ⟨text, .ofList second, ht, ?_, ?_⟩
  · rw [Situation.signature?, ht, Option.map_some, hp, Text.dropWhile_parts hf, List.tail_cons]
  · rw [decode_of_plaintext hh hr ht, Nonce.ofPlaintext_of_parts hp hf hs, hexpiry]

-- With the last check of the nonce passed there is a ticket
theorem examined_of_passes (hp : a.Protected) (hrealm : Check.realm.passes s = true)
    (hf : Check.form.passes s = true) (he : Check.expiry.passes s = true)
    (hs : Check.signature.passes s = true) :
    ∃ n, s.expiry? = some n.expiry ∧ Examined s.config ⟨header, a, n⟩ := by
  obtain ⟨text, second, ht, hsecond, hd⟩ := exists_parts_of_form_passes hh hr hf
  obtain ⟨expiry, hexpiry⟩ := Option.isSome_iff_exists.mp he
  rw [hexpiry] at hd
  refine ⟨⟨expiry, second, text⟩, hexpiry, ⟨hr, hp, (realm_passes_iff hh hr).mp hrealm, hd, ?_⟩⟩
  simp only [Check.passes, hexpiry, hsecond, Option.any_some, beq_iff_eq, Option.some.injEq] at hs
  simp [Nonce.isSignedWith, hs]

end Meaning

section Agreement

variable {s t : Situation} {check : Check}

theorem header?_congr (h : s.attempt.authorization = t.attempt.authorization) :
    s.header? = t.header? := by
  rw [Situation.header?, h, Situation.header?]

theorem directive?_congr (h : s.attempt.authorization = t.attempt.authorization) :
    s.directive? = t.directive? := by
  funext name
  rw [Situation.directive?, header?_congr h, Situation.directive?]

theorem rejection_congr (h : s.attempt.authorization = t.attempt.authorization) (reason : Reason)
    (values : OrderedMap String Value) : s.rejection reason values = t.rejection reason values := by
  rw [Situation.rejection, header?_congr h, directive?_congr h, Situation.rejection]

theorem plaintext?_congr (h : s.attempt.authorization = t.attempt.authorization) :
    s.plaintext? = t.plaintext? := by
  simp only [Situation.plaintext?, Situation.bytes?, directive?_congr h]

theorem expiry?_congr (h : s.attempt.authorization = t.attempt.authorization) :
    s.expiry? = t.expiry? := by
  rw [Situation.expiry?, plaintext?_congr h, Situation.expiry?]

theorem answers_congr (h : s.attempt.authorization = t.attempt.authorization)
    (hashed : s.config.hashed.truthy = t.config.hashed.truthy)
    (hmethod : s.attempt.method = t.attempt.method) : s.answers = t.answers := by
  funext c
  simp only [Situation.answers, directive?_congr h, hashed, hmethod]

theorem answering?_congr (h : Check.digest.Agree s t) : s.answering? = t.answering? := by
  obtain ⟨hauth, hashed, hmethod, hcached, hreply⟩ := h
  have hanswers := answers_congr hauth hashed hmethod
  rw [Situation.answering?, Situation.answering?, ← hcached, ← hanswers]
  cases hc : s.cached?.filter s.answers with
  | some c => rfl
  | none => rw [Situation.found?, hreply hc, Situation.found?]

theorem passes_congr (h : check.Agree s t) : check.passes s = check.passes t := by
  have hauth := h.1
  cases check with
  | scheme => simp only [Check.passes, header?_congr hauth]
  | mandatory => simp only [Check.passes, directive?_congr hauth]
  | forAuth => simp only [Check.passes, directive?_congr hauth]
  | protection => simp only [Check.passes, directive?_congr hauth]
  | realm => simp only [Check.passes, directive?_congr hauth, h.2]
  | encoding => simp only [Check.passes, Situation.bytes?, directive?_congr hauth]
  | form => simp only [Check.passes, plaintext?_congr hauth]
  | expiry => simp only [Check.passes, expiry?_congr hauth]
  | signature =>
      simp only [Check.passes, expiry?_congr hauth, Situation.signature?, plaintext?_congr hauth,
        h.2]
  | credential =>
      obtain ⟨-, hcached, hreply⟩ := h
      cases hc : s.cached? with
      | some c => simp [Check.passes, ← hcached, hc]
      | none => simp [Check.passes, ← hcached, Situation.found?, hreply hc]
  | digest => simp only [Check.passes, answering?_congr h]
  | time => simp only [Check.passes, expiry?_congr hauth, h.2]

theorem ending_congr (h : check.Agree s t) (hf : check.passes s = false) :
    check.ending s = check.ending t := by
  have hauth := h.1
  have hreply : s.reply? = t.reply? → Check.digest.ending s = Check.digest.ending t := fun hr => by
    simp only [Check.ending, header?_congr hauth, directive?_congr hauth, hr]
  cases check with
  | scheme => rfl
  | mandatory => simp only [Check.ending, rejection_congr hauth]
  | forAuth => simp only [Check.ending, rejection_congr hauth]
  | protection => simp only [Check.ending, rejection_congr hauth, directive?_congr hauth]
  | realm => simp only [Check.ending, rejection_congr hauth, directive?_congr hauth, h.2]
  | encoding => simp only [Check.ending, rejection_congr hauth, directive?_congr hauth]
  | form =>
      simp only [Check.ending, rejection_congr hauth, directive?_congr hauth,
        plaintext?_congr hauth]
  | expiry =>
      simp only [Check.ending, rejection_congr hauth, directive?_congr hauth,
        plaintext?_congr hauth]
  | signature => simp only [Check.ending, rejection_congr hauth, plaintext?_congr hauth]
  | credential =>
      have hnone : s.cached? = none := by
        simp only [Check.passes, Bool.or_eq_false_iff] at hf
        simpa using hf.1
      exact hreply (h.2.2 hnone)
  | digest =>
      have hnone : s.answering? = none := by simpa [Check.passes] using hf
      exact hreply (h.2.2.2.2 (Option.or_eq_none_iff.mp hnone).1)
  | time => simp only [Check.ending, rejection_congr hauth]

end Agreement

end HttpDigest.Verifier
