import HttpDigest.Proofs.Parallel
import HttpDigest.Proofs.Provenance

namespace HttpDigest

-- The second credential is the first with its secret hashed for a username and a realm
def Credential.Hashes (realm : Value) (username : String) (c d : Credential) : Prop :=
  d = { c with secret := Response.ha1OfValue username realm c.secret false }

def Outcome.withoutSecret (o : Outcome) : Outcome :=
  { o with credential := o.credential.map fun c => { c with secret := .null } }

theorem Outcome.Alike.withoutSecret_eq {realm : Value} {r r' : Except Failure Outcome}
    (h : Outcome.Alike (Credential.Hashes realm) r r') :
    r'.map Outcome.withoutSecret = r.map Outcome.withoutSecret := by
  cases h with
  | same => rfl
  | accepted username header hab =>
      subst hab
      rfl

-- A secret that is hashed already makes the response that the secret itself makes
theorem Authorization.compute_prehashed (a : Authorization) (secret method : String) :
    Response.compute (a.input true (Response.ha1 a.username a.realm secret) method)
      = Response.compute (a.input false secret method) := by
  simp [Response.compute, Response.subject, Response.form, Response.userHash, Authorization.input]

namespace Verifier

variable {σ τ : Type} {clear prehashed : Config} {store : Store σ} {store' : Store τ}
  {R : σ → τ → Prop} {t : Ticket} {c d : Credential}

-- The realm of an examined answer is the configured one, so that the hash is taken for it
theorem answers_iff_of_hashes (method : String) (hclear : clear.hashed.truthy = false)
    (hprehashed : prehashed.hashed.truthy = true) (hx : Examined clear t)
    (h : Credential.Hashes clear.realm t.answer.username c d) :
    Answers prehashed method t d ↔ Answers clear method t c := by
  have hsecret : d.secret.plain
      = Response.ha1 t.answer.username t.answer.realm c.secret.plain := by
    rw [h, hx.realm]
    rfl
  unfold Answers
  rw [hprehashed, hclear, hsecret, Authorization.compute_prehashed]

theorem parallel_of_hashes (hrealm : prehashed.realm = clear.realm)
    (hsecret : prehashed.secret = clear.secret) (hclear : clear.hashed.truthy = false)
    (hprehashed : prehashed.hashed.truthy = true)
    (hreply : ∀ (state : σ) (state' : τ) (username : String), R state state' →
      Reply.Alike (Credential.Hashes clear.realm username) (store.reply state username)
        (store'.reply state' username))
    (hnext : ∀ (state : σ) (state' : τ) (username : String), R state state' →
      R (store.next state username) (store'.next state' username)) :
    Parallel (Credential.Hashes clear.realm) R clear store prehashed store' where
  realm := hrealm
  secret := hsecret
  answers method _ _ _ hx h := answers_iff_of_hashes method hclear hprehashed hx h
  reply := hreply
  next := hnext

-- It makes no difference whether secrets are kept as they are or hashed: where one store has a
-- credential and the other has the same one with its secret hashed, whatever happens to both
-- verifiers, each request ends in the same way but for the secret, they ask for the same users,
-- and their caches go on to differ in the same way
theorem runs_prehashed_alike (hrealm : prehashed.realm = clear.realm)
    (hsecret : prehashed.secret = clear.secret) (hclear : clear.hashed.truthy = false)
    (hprehashed : prehashed.hashed.truthy = true)
    (hreply : ∀ (state : σ) (state' : τ) (username : String), R state state' →
      Reply.Alike (Credential.Hashes clear.realm username) (store.reply state username)
        (store'.reply state' username))
    (hnext : ∀ (state : σ) (state' : τ) (username : String), R state state' →
      R (store.next state username) (store'.next state' username))
    {p : Point σ} {q : Point τ} (hp : p.Alike (Credential.Hashes clear.realm) R q)
    {events : List (Event σ)} {events' : List (Event τ)}
    (he : List.Forall₂ (Event.Alike R) events events') :
    (outcomes prehashed store' q events').map (Except.map Outcome.withoutSecret)
      = (outcomes clear store p events).map (Except.map Outcome.withoutSecret) ∧
    ((calls prehashed store' q events').map fun call => (call.result prehashed store').asked)
      = ((calls clear store p events).map fun call => (call.result clear store).asked) ∧
    (p.after clear store events).Alike (Credential.Hashes clear.realm) R
      (q.after prehashed store' events') := by
  have h := parallel_of_hashes hrealm hsecret hclear hprehashed hreply hnext
  refine ⟨?_, h.map_calls_eq hp he fun v w hv => hv.asked, h.after hp he⟩
  simp only [outcomes, List.map_map]
  exact h.map_calls_eq hp he fun v w hv => hv.outcome.withoutSecret_eq

-- The user with two requests, whom either store knows: the first one brings her into a cache
-- that has one place, the second one finds her there
def prehashedConfig : Config :=
  { sampleConfig with hashed := .bool true }

def prehashedStore : Store Unit where
  reply _ username := .found
    { sampleUser with
      secret := Response.ha1OfValue username sampleConfig.realm sampleUser.secret false }

def narrowStart : Point Unit where
  cache := .memory (some 1) []
  store := ()

def twoRequests : List (Event Unit) :=
  [.request sampleAttempt, .request sampleAttempt]

theorem first_verified :
    (verify sampleConfig sampleStore narrowStart.cache narrowStart.store sampleAttempt).quiet = {
      outcome := .ok (.accepted sampleUser sampleTicket.header)
      cache := .memory (some 1) [("ann", sampleUser)]
      store := ()
      asked := ["ann"] } :=
  sample_from_store rfl rfl

theorem second_verified :
    (verify sampleConfig sampleStore (.memory (some 1) [("ann", sampleUser)]) ()
      sampleAttempt).quiet = {
      outcome := .ok (.accepted sampleUser sampleTicket.header)
      cache := .memory (some 1) [("ann", sampleUser)]
      store := () } :=
  sample_from_cache rfl

theorem calls_twoRequests :
    calls sampleConfig sampleStore narrowStart twoRequests = [
      ⟨sampleAttempt, narrowStart⟩,
      ⟨sampleAttempt, ⟨.memory (some 1) [("ann", sampleUser)], ()⟩⟩] := by
  have hnext : narrowStart.next sampleConfig sampleStore (.request sampleAttempt)
      = ⟨.memory (some 1) [("ann", sampleUser)], ()⟩ := by
    simp only [Point.next, Verification.cache_of_quiet first_verified,
      Verification.store_of_quiet first_verified]
  simp only [twoRequests, calls, Event.call?, hnext, Option.toList_some, List.cons_append,
    List.nil_append]

theorem runs_prehashed_alike_sample :
    prehashedConfig.realm = sampleConfig.realm ∧ prehashedConfig.secret = sampleConfig.secret ∧
    sampleConfig.hashed.truthy = false ∧ prehashedConfig.hashed.truthy = true ∧
    (∀ username, Reply.Alike (Credential.Hashes sampleConfig.realm username)
      (sampleStore.reply () username) (prehashedStore.reply () username)) ∧
    narrowStart.Alike (Credential.Hashes sampleConfig.realm) (fun _ _ => True) narrowStart ∧
    List.Forall₂ (Event.Alike fun _ _ => True) twoRequests twoRequests ∧
    (outcomes prehashedConfig prehashedStore narrowStart twoRequests).map
        (Except.map Outcome.withoutSecret)
      = [.ok (Outcome.accepted sampleUser sampleTicket.header).withoutSecret,
          .ok (Outcome.accepted sampleUser sampleTicket.header).withoutSecret] ∧
    ((calls prehashedConfig prehashedStore narrowStart twoRequests).map fun call =>
        (call.result prehashedConfig prehashedStore).asked) = [["ann"], []] := by
  have hreply : ∀ username, Reply.Alike (Credential.Hashes sampleConfig.realm username)
      (sampleStore.reply () username) (prehashedStore.reply () username) :=
    fun username => .found rfl
  have hstart : narrowStart.Alike (Credential.Hashes sampleConfig.realm) (fun _ _ => True)
      narrowStart := ⟨.memory (some 1) .nil, trivial⟩
  have hevents : List.Forall₂ (Event.Alike fun _ _ => True) twoRequests twoRequests :=
    .cons (.request sampleAttempt) (.cons (.request sampleAttempt) .nil)
  obtain ⟨houtcomes, hasked, -⟩ := @runs_prehashed_alike Unit Unit sampleConfig prehashedConfig
    sampleStore prehashedStore (fun _ _ => True) rfl rfl rfl rfl
    (fun _ _ username _ => hreply username) (fun _ _ _ _ => trivial) narrowStart narrowStart
    hstart twoRequests twoRequests hevents
  refine ⟨rfl, rfl, rfl, rfl, hreply, hstart, hevents, ?_, ?_⟩
  · rw [houtcomes, outcomes, calls_twoRequests]
    simp only [List.map_cons, List.map_nil, Call.result,
      Verification.outcome_of_quiet first_verified, Verification.outcome_of_quiet second_verified,
      Except.map]
  · rw [hasked, calls_twoRequests]
    simp only [List.map_cons, List.map_nil, Call.result,
      Verification.asked_of_quiet first_verified, Verification.asked_of_quiet second_verified]

end Verifier

end HttpDigest
