import HttpDigest.Proofs.Budget
import HttpDigest.Proofs.Encodability
import HttpDigest.RemoteDirectory

namespace HttpDigest

def Value.isObject : Value → Bool
  | object _ => true
  | _ => false

theorem Value.isObject_iff {v : Value} : v.isObject = true ↔ ∃ fields, v = .object fields := by
  cases v <;> simp [isObject]

structure Credential.Complete (c : Credential) : Prop where
  username : c.username.truthy = true
  secret : c.secret.isNull = false
  identity : ∃ fields, c.identity = .object fields

instance (c : Credential) : Decidable c.Complete :=
  decidable_of_iff
    (c.username.truthy = true ∧ c.secret.isNull = false ∧ c.identity.isObject = true)
    ⟨fun ⟨hu, hs, hi⟩ => ⟨hu, hs, Value.isObject_iff.mp hi⟩,
      fun h => ⟨h.username, h.secret, Value.isObject_iff.mpr h.identity⟩⟩

-- An acceptance with such a credential can be shown
theorem Credential.Complete.exists_summary {c : Credential} (h : c.Complete) (header : Value) :
    ∃ fields, (Outcome.accepted c header).summary = .ok (.object fields) := by
  obtain ⟨fields, hi⟩ := h.identity
  have hidentity : (Outcome.accepted c header).identity = .ok (.object fields) := by
    simp only [Outcome.identity, Outcome.accepted, hi, Value.toObject]
  rw [Outcome.summary, hidentity]
  exact ⟨_, rfl⟩

theorem Value.orElse_object_iff {v : Value} :
    (∃ fields, v.orElse (.object []) = .object fields) ↔
      (v.truthy = true → ∃ fields, v = .object fields) := by
  unfold orElse
  split
  · rename_i ht
    simp [ht]
  · rename_i ht
    exact iff_of_true ⟨[], rfl⟩ fun h => absurd h ht

-- What the contract of stores lets a directory say to a lookup
def Reply.Lawful : Reply → Prop
  | .found c => c.Complete
  | .nothing => True
  | .unknownUser _ => True
  | .failed _ => True
  | .misconfigured _ => False
  | .broken _ => False

instance : (reply : Reply) → Decidable reply.Lawful
  | .found c => inferInstanceAs (Decidable c.Complete)
  | .nothing => isTrue trivial
  | .unknownUser _ => isTrue trivial
  | .failed _ => isTrue trivial
  | .misconfigured _ => isFalse id
  | .broken _ => isFalse id

namespace RemoteDirectory

-- A document that names no user, or describes one by an object whose members, as far as they are
-- given, are of the kinds that a credential needs
def WellShaped (username : String) (payload : Value) : Prop :=
  ∀ fields, payload = .object fields → (Value.field fields "data").truthy = true →
    ∃ inner, Value.field fields "data" = .object inner ∧
      ((Value.field inner "secret").isNull = true ∨
        (Value.field inner "username" username).truthy = true ∧
        ((Value.field inner "identity").truthy = true →
          ∃ members, Value.field inner "identity" = .object members))

-- A body that is no document is refused as such; one that is has to be well shaped
def Payload.Sound (username : String) : Payload → Prop
  | .value payload => WellShaped username payload
  | .refused _ => True
  | .failed _ => False

-- An exchange that is no answer, or an error of the server, asks nothing of the body
def Exchange.Sound (username : String) : Exchange → Prop
  | .answered status _ json => (400 ≤ status ∧ status < 600) ∨ json.Sound username
  | .timedOut => True
  | .disconnected _ => True
  | .failed _ => True

variable {username : String} {fields inner : OrderedMap String Value}

-- A report of a directory is lawful, every other failure is not
theorem lawful_replyOfFailure_iff {f : Failure} :
    (replyOfFailure f).Lawful ↔ ∃ r : Report, f = .report r ∧ r.kind = .store := by
  cases f with
  | report r =>
      by_cases hk : r.kind = .store <;> simp [replyOfFailure, hk, Reply.Lawful]
  | fault f => simp [replyOfFailure, Reply.Lawful]

theorem lawful_of_not_object {payload : Value} (h : ∀ fields, payload ≠ .object fields) :
    (replyOfPayload username (.value payload)).Lawful := by
  have he : credentialOf username payload = .error (.report PayloadError.notObject.report) := by
    unfold credentialOf
    split
    · exact absurd rfl (h _)
    · rfl
  simp only [replyOfPayload, he]
  exact lawful_replyOfFailure_iff.mpr ⟨_, rfl, rfl⟩

theorem lawful_of_absent (h : (Value.field fields "data").truthy = false) :
    (replyOfPayload username (.value (.object fields))).Lawful := by
  simp [replyOfPayload, credentialOf, h, Reply.Lawful]

-- A description that is no object is not noticed before one of its members is asked for
theorem exists_object_of_lawful (h : (Value.field fields "data").truthy = true)
    (hl : (replyOfPayload username (.value (.object fields))).Lawful) :
    ∃ inner, Value.field fields "data" = .object inner := by
  by_contra hno
  have he : credentialOf username (.object fields) = .error (.fault .missingAttribute) := by
    simp only [credentialOf, h, Bool.not_true, Bool.false_eq_true, if_false]
    split
    · rename_i inner hi
      exact absurd ⟨inner, hi⟩ hno
    · rfl
  rw [replyOfPayload, he] at hl
  exact hl

theorem credentialOf_object (h : (Value.field fields "data").truthy = true)
    (hd : Value.field fields "data" = .object inner) :
    credentialOf username (.object fields) =
      if (Value.field inner "secret").isNull then
        .error (.report (PayloadError.noSecret username).report)
      else match Credential.make (Value.field inner "username" username)
          (Value.field inner "secret") ((Value.field inner "identity").orElse (.object [])) with
        | .ok c => .ok (some c)
        | .error e => .error (.report e.report) := by
  rw [hd] at h
  simp only [credentialOf, hd, h]
  rfl

-- An object that describes a user makes a credential, unless the secret is missing, as long as
-- its name is not empty and its identity is an object
theorem lawful_object_iff (h : (Value.field fields "data").truthy = true)
    (hd : Value.field fields "data" = .object inner) :
    (replyOfPayload username (.value (.object fields))).Lawful ↔
      (Value.field inner "secret").isNull = true ∨
        (Value.field inner "username" username).truthy = true ∧
        ((Value.field inner "identity").truthy = true →
          ∃ members, Value.field inner "identity" = .object members) := by
  rw [replyOfPayload, credentialOf_object h hd, ← Value.orElse_object_iff]
  cases hs : (Value.field inner "secret").isNull with
  | true => simpa using lawful_replyOfFailure_iff.mpr ⟨_, rfl, rfl⟩
  | false =>
      cases hu : (Value.field inner "username" username).truthy with
      | false => simp [Credential.make, hu, replyOfFailure, Credential.Error.report, Reply.Lawful]
      | true =>
          simp only [Credential.make, hu, hs, Reply.Lawful]
          constructor
          · exact fun hc => .inr ⟨trivial, hc.identity⟩
          · rintro (hfalse | ⟨-, hi⟩)
            · cases hfalse
            · exact ⟨hu, hs, hi⟩

theorem lawful_value_iff {payload : Value} :
    (replyOfPayload username (.value payload)).Lawful ↔ WellShaped username payload := by
  constructor
  · rintro hl fields rfl ht
    obtain ⟨inner, hd⟩ := exists_object_of_lawful ht hl
    exact ⟨inner, hd, (lawful_object_iff ht hd).mp hl⟩
  · intro hw
    by_cases ho : ∃ fields, payload = .object fields
    · obtain ⟨fields, rfl⟩ := ho
      cases ht : (Value.field fields "data").truthy with
      | false => exact lawful_of_absent ht
      | true =>
          obtain ⟨inner, hd, hmembers⟩ := hw fields rfl ht
          exact (lawful_object_iff ht hd).mpr hmembers
    · exact lawful_of_not_object fun fields he => ho ⟨fields, he⟩

theorem lawful_payload_iff {json : Payload} :
    (replyOfPayload username json).Lawful ↔ json.Sound username := by
  cases json with
  | value payload => exact lawful_value_iff
  | refused message => exact Iff.rfl
  | failed failure => exact Iff.rfl

-- A directory keeps the contract in an exchange just if the exchange is sound
theorem lawful_replyOf_iff {c : Config} {exchange : Exchange} :
    (replyOf c username exchange).Lawful ↔ exchange.Sound username := by
  cases exchange with
  | timedOut => exact Iff.rfl
  | disconnected message => exact Iff.rfl
  | failed message => exact Iff.rfl
  | answered status reason json =>
      by_cases hfound : status = 404
      · simp [replyOf, hfound, Exchange.Sound, Reply.Lawful]
      by_cases hserver : 400 ≤ status ∧ status < 600
      · simp [replyOf, hfound, hserver, Exchange.Sound, Reply.Lawful]
      have hreply : replyOf c username (.answered status reason json)
          = replyOfPayload username json := by
        simp only [replyOf, if_neg hfound, if_neg hserver]
      rw [hreply, Exchange.Sound, or_iff_right hserver, lawful_payload_iff]

section Store

variable {σ : Type} {s : Surrogates} {c : Config} {network : Network σ} {state : σ}

theorem lawful_reply_iff :
    ((store c network).reply state username).Lawful ↔
      ∃ url, userUrl c username = .ok url ∧
        (network.answer state (c.request url)).Sound username := by
  cases hu : userUrl c username with
  | ok url =>
      have hreply : (store c network).reply state username
          = replyOf c username (network.answer state (c.request url)) := by
        simp only [store, hu]
      rw [hreply, lawful_replyOf_iff]
      simp
  | error f => simp [store, hu, Reply.Lawful]

-- A name without a UTF-8 form is part of no address
theorem lawful_replyAny_iff :
    ((storeAny s c network).reply state username).Lawful ↔
      s.encodes username = true ∧ ∃ url, userUrl c username = .ok url ∧
        (network.answer state (c.request url)).Sound username := by
  rw [← lawful_reply_iff]
  cases hp : endpointPath c with
  | error f =>
      have hu : userUrl c username = .error f := by
        rw [userUrl, segmentUrl, hp]
        rfl
      simp [storeAny, nameFits, store, hp, hu, Except.bind, Reply.Lawful]
  | ok path =>
      cases he : s.encodes username <;>
        simp [storeAny, nameFits, hp, he, Except.bind, Reply.Lawful]

theorem not_broken_of_lawful {reply : Reply} (h : reply.Lawful) (f : Failure) :
    reply ≠ .broken f := by
  rintro rfl
  exact h

-- If the lookup of the user of its header is lawful, a verification over a directory fails only
-- by a text without a UTF-8 form
theorem exists_outcome_iff_of_lawful (config : HttpDigest.Config) (cache : Cache)
    (attempt : Verifier.Attempt)
    (h : ∀ username, attempt.username? = some username →
      ((storeAny s c network).reply state username).Lawful) :
    (∃ o, (Verifier.verifyAny s config (storeAny s c network) cache state attempt).outcome = .ok o
      ∧ o.WellFormed) ↔
      Verifier.Encodable s config (storeAny s c network) cache state attempt := by
  constructor
  · rintro ⟨o, ho, -⟩
    by_contra hne
    cases ho.symm.trans (Verifier.outcome_of_not_encodable hne)
  · intro hencodable
    rw [Verifier.verifyAny_eq_verify hencodable]
    rcases Verifier.wellFormed_or_broken config (storeAny s c network) cache state attempt with
      hok | ⟨username, f, ⟨hasked, -⟩, hbroken⟩
    · exact hok
    · have hu : attempt.username? = some username :=
        (Verifier.asked_eq_singleton_iff.mp hasked).username?_eq
      exact absurd hbroken (not_broken_of_lawful (h username hu) f)

end Store

-- A lookup is lawful just if there is an address for the user and a sound exchange with it. What
-- a lawful lookup brings can be shown, and with it every verification ends in an outcome, unless
-- it has to hash a text without a UTF-8 form.
theorem lookup_lawful_iff_sound {σ : Type} (s : Surrogates) (c : Config) (network : Network σ)
    (state : σ) :
    (∀ username, ((storeAny s c network).reply state username).Lawful ↔
      s.encodes username = true ∧ ∃ url, userUrl c username = .ok url ∧
        (network.answer state (c.request url)).Sound username) ∧
    (∀ username credential header,
      (storeAny s c network).reply state username = .found credential →
      ((storeAny s c network).reply state username).Lawful →
      ∃ fields, (Outcome.accepted credential header).summary = .ok (.object fields)) ∧
    (∀ (config : HttpDigest.Config) (cache : Cache) (attempt : Verifier.Attempt),
      (∀ username, attempt.username? = some username →
        ((storeAny s c network).reply state username).Lawful) →
      ((∃ o, (Verifier.verifyAny s config (storeAny s c network) cache state attempt).outcome
          = .ok o ∧ o.WellFormed) ↔
        Verifier.Encodable s config (storeAny s c network) cache state attempt)) := by
  refine ⟨fun username => lawful_replyAny_iff, fun username credential header hf hl => ?_,
    exists_outcome_iff_of_lawful⟩
  rw [hf] at hl
  exact Credential.Complete.exists_summary hl header

def Network.always (exchange : Exchange) : Network Unit where
  answer _ _ := exchange
  next _ _ := ()

open Verifier (sampleAttempt sampleConfig sampleTicket sampleTicket_examined sampleUser)

def sampleDirectory : Config where
  baseUrl := "https://users.example.com/"
  usersEndpoint := "api/users"
  timeout := defaultTimeout
  verifySsl := .bool true
  retryAttempts := .int 2
  retryBackoff := defaultBackoff
  apiToken := .null

def secretAnswer : Exchange :=
  .answered 200 "OK" (.value (.object [("data", .object [("secret", "pw")])]))

theorem reply_always (exchange : Exchange) :
    (storeAny .inPrivateUse sampleDirectory (.always exchange)).reply () "ann"
      = replyOf sampleDirectory "ann" exchange := by
  have hurl : userUrl sampleDirectory "ann" = .ok "https://users.example.com/api/users/ann" := by
    decide +kernel
  have hfits : nameFits .inPrivateUse sampleDirectory "ann" = .ok () := by decide +kernel
  simp only [storeAny, hfits, store, hurl, Network.always]

theorem reply_secretAnswer :
    (storeAny .inPrivateUse sampleDirectory (.always secretAnswer)).reply () "ann"
      = .found sampleUser :=
  reply_always secretAnswer

theorem lookup_lawful_iff_sound_sample :
    (∃ url, userUrl sampleDirectory "ann" = .ok url ∧ secretAnswer.Sound "ann") ∧
    (∃ fields, (Outcome.accepted sampleUser sampleTicket.header).summary = .ok (.object fields)) ∧
    ∃ o, (Verifier.verifyAny .inPrivateUse sampleConfig
      (storeAny .inPrivateUse sampleDirectory (.always secretAnswer)) .empty ()
      sampleAttempt).outcome = .ok o ∧ o.WellFormed := by
  have hlawful : ((storeAny .inPrivateUse sampleDirectory (.always secretAnswer)).reply ()
      "ann").Lawful := by
    rw [reply_secretAnswer]
    decide
  have hasked : ∀ username, sampleAttempt.username? = some username →
      ((storeAny .inPrivateUse sampleDirectory (.always secretAnswer)).reply ()
        username).Lawful := by
    intro username hu
    rw [Verifier.Attempt.username?_of_ticket (Directives.bind_body?_scheme _)
      sampleTicket_examined] at hu
    obtain rfl : "ann" = username := Option.some.inj hu
    exact hlawful
  have hencodable : Verifier.Encodable .inPrivateUse sampleConfig
      (storeAny .inPrivateUse sampleDirectory (.always secretAnswer)) .empty () sampleAttempt :=
    Verifier.sampleAttempt_encodable (fun c hc => nomatch hc) fun c hc => by
      obtain rfl := Reply.found.inj (reply_secretAnswer.symm.trans hc)
      decide +kernel
  obtain ⟨hsound, hsummary, htotal⟩ :=
    lookup_lawful_iff_sound .inPrivateUse sampleDirectory (.always secretAnswer) ()
  exact ⟨((hsound "ann").mp hlawful).2,
    hsummary "ann" sampleUser sampleTicket.header reply_secretAnswer hlawful,
    (htotal sampleConfig .empty sampleAttempt hasked).mpr hencodable⟩

-- Reading a body as JSON is documented to bring a value or a refusal
def Exchange.Documented : Exchange → Prop
  | .answered _ _ (.failed _) => False
  | _ => True

-- A directory keeps the contract of stores if every lookup does, whatever comes back from the
-- network, and no verification over it fails
def KeepsContract (s : Surrogates) (c : Config) : Prop :=
  ∀ exchange : Exchange, exchange.Documented →
    (∀ username, ((storeAny s c (.always exchange)).reply () username).Lawful) ∧
    ∀ (config : HttpDigest.Config) (cache : Cache) (attempt : Verifier.Attempt),
      ∃ o, (Verifier.verifyAny s config (storeAny s c (.always exchange)) cache () attempt).outcome
        = .ok o

def listAnswer : Exchange :=
  .answered 200 "OK" (.value (.object [("data", .list [.int 1])]))

theorem verifyAny_listAnswer :
    (Verifier.verifyAny .inPrivateUse sampleConfig
      (storeAny .inPrivateUse sampleDirectory (.always listAnswer)) .empty ()
      sampleAttempt).outcome = .error (.fault .missingAttribute) := by
  have hreply : (storeAny .inPrivateUse sampleDirectory (.always listAnswer)).reply () "ann"
      = .broken (.fault .missingAttribute) := reply_always listAnswer
  have hencodable : Verifier.Encodable .inPrivateUse sampleConfig
      (storeAny .inPrivateUse sampleDirectory (.always listAnswer)) .empty () sampleAttempt :=
    Verifier.sampleAttempt_encodable (fun c hc => nomatch hc) fun c hc =>
      nomatch hreply.symm.trans hc
  have hu : Verifier.Unanswered sampleConfig .empty sampleAttempt.method sampleTicket :=
    fun c hc => nomatch hc
  have hv := (Verifier.quiet_verify_of_ticket (Directives.bind_body?_scheme _)
    sampleTicket_examined).trans (Verifier.quiet_settle_of_refused
      sampleTicket_examined.isProtected hu fun c hc => nomatch hreply.symm.trans hc)
  rw [Verifier.verifyAny_eq_verify hencodable, Verifier.Verification.outcome_of_quiet hv]
  exact congrArg (Reply.refusal sampleTicket.header "ann") hreply

-- The list is asked for a member. Nothing on the way to the caller holds up the failure.
theorem not_keepsContract : ¬KeepsContract .inPrivateUse sampleDirectory := by
  intro h
  obtain ⟨-, htotal⟩ := h listAnswer trivial
  obtain ⟨o, ho⟩ := htotal sampleConfig .empty sampleAttempt
  cases verifyAny_listAnswer.symm.trans ho

end RemoteDirectory

end HttpDigest
