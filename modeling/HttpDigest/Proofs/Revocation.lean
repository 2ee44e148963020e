import HttpDigest.Proofs.Provenance
import HttpDigest.Proofs.Refresh

namespace HttpDigest.Verifier

section Denial

variable {σ : Type} (config : Config) (store : Store σ)

def Denies (p : Point σ) (attempt : Attempt) (username : String) : Prop :=
  attempt.username? = some username ∧
    ∃ o, (verify config store p.cache p.store attempt).outcome = .ok o ∧
      o.reason = some .usernameNotFound

def Accepts (p : Point σ) (attempt : Attempt) (username : String) (c : Credential) : Prop :=
  attempt.username? = some username ∧
    ∃ o, (verify config store p.cache p.store attempt).outcome = .ok o ∧
      o.status = .authenticated ∧ o.credential = some c

-- What the lookups behind a denial bring of a user, up to and with those of a later request
def latestSince? (p : Point σ) (denied : Attempt) (between : List (Event σ)) (later : Attempt)
    (username : String) : Option Credential :=
  Lookup.latest? username (lookups config store (p.next config store (.request denied))
    (between ++ [.request later]))

-- A denial lasts if no later request for the user is accepted before a lookup has brought a
-- credential again
def DenialsLast (p : Point σ) : Prop :=
  ∀ (before between : List (Event σ)) (denied later : Attempt) (username : String)
    (c : Credential),
    Denies config store (p.after config store before) denied username →
    Accepts config store (p.after config store (before ++ .request denied :: between)) later
      username c →
    latestSince? config store (p.after config store before) denied between later username ≠ none

variable {config store} {p : Point σ} {attempt : Attempt} {username : String} {c : Credential}

-- A denial changes nothing in the cache, so that what did not fit the request stays there
theorem Denies.cache_eq (h : Denies config store p attempt username) :
    (p.next config store (.request attempt)).cache = p.cache := by
  obtain ⟨-, o, ho, hr⟩ := h
  obtain ⟨t, report, -, -, -, -, -, hcache⟩ := exists_unknown_of_notFound ho hr
  exact hcache

-- An accepted credential comes from a lookup of the request or stands in the cache
theorem Accepts.latest?_eq (h : Accepts config store p attempt username c) :
    (Lookup.latest? username (lookups config store p [.request attempt])).or
      (p.cache.get? username) = some c := by
  obtain ⟨hu, o, ho, ha, hc⟩ := h
  obtain ⟨t, d, hb, hx, -, hd, hlatest⟩ := exists_latest?_of_authenticated ho ha
  obtain rfl : d = c := Option.some.inj (hd.symm.trans hc)
  obtain rfl : t.answer.username = username :=
    Option.some.inj ((Attempt.username?_of_ticket hb hx).symm.trans hu)
  rw [lookups_request]
  exact hlatest

-- With a cache that was empty at first, a request that is accepted for a denied user either goes
-- by a credential that a lookup has brought since, or by the very entry that the cache held
-- when the denial came; that entry is what the latest lookup before the denial brought
theorem acceptance_after_denial {cache : Cache} {state : σ} (hc : cache.entries = [])
    (before between : List (Event σ)) {denied later : Attempt}
    (hdenied : Denies config store (Point.after config store ⟨cache, state⟩ before) denied
      username)
    (haccepted : Accepts config store
      (Point.after config store ⟨cache, state⟩ (before ++ .request denied :: between)) later
      username c) :
    latestSince? config store (Point.after config store ⟨cache, state⟩ before) denied between
        later username = some c ∨
      (latestSince? config store (Point.after config store ⟨cache, state⟩ before) denied between
          later username = none ∧
        (Point.after config store ⟨cache, state⟩ before).cache.get? username = some c ∧
        Lookup.latest? username (lookups config store ⟨cache, state⟩ before) = some c) := by
  have hd : cache.Distinct := Cache.distinct_of_entries_eq_nil hc
  have hd' : (Point.after config store ⟨cache, state⟩ before).cache.Distinct :=
    distinct_after hd before
  have hlast := haccepted.latest?_eq
  rw [Point.after_append] at hlast
  unfold latestSince?
  rw [lookups_append, Lookup.latest?_append]
  -- the credential is one of the later request, or of the events between, or was there before
  rcases Option.or_eq_some_iff.mp hlast with hnow | ⟨hnow, hcached⟩
  · exact .inl (Option.or_eq_some_iff.mpr (.inl hnow))
  have hbetween := latest?_of_after (distinct_next hd' (.request denied)) between hcached
  rcases Option.or_eq_some_iff.mp hbetween with hsince | ⟨hsince, hkept⟩
  · exact .inl (Option.or_eq_some_iff.mpr (.inr ⟨hnow, hsince⟩))
  rw [hdenied.cache_eq] at hkept
  have hbefore := latest?_of_after (p := ⟨cache, state⟩) hd before hkept
  rw [Cache.get?_of_entries_eq_nil hc, Option.or_none] at hbefore
  exact .inr ⟨Option.or_eq_none_iff.mpr ⟨hnow, hsince⟩, hkept, hbefore⟩

end Denial

def guessTicket : Ticket where
  header := "username=ann, realm=lab, nonce=NToxOGVlOWEzZjkwMTk4NDUxMWVjZWVkNTVkZmQ1YzdmNQ==, "
    ++ "uri=/, response=0"
  answer := { sampleTicket.answer with response := "0" }
  nonce := sampleTicket.nonce

def guessAttempt : Attempt :=
  { sampleAttempt with authorization := some (Directives.scheme ++ guessTicket.header) }

theorem guessTicket_examined : Examined sampleConfig guessTicket := by
  have hread : Directives.read guessTicket.header = [("username", "ann"), ("realm", "lab"),
      ("nonce", guessTicket.answer.nonce), ("uri", "/"), ("response", "0")] := by
    decide +kernel
  refine ⟨?_, .inl rfl, rfl, sampleTicket_examined.nonce, sampleTicket_examined.signed⟩
  rw [hread]
  exact ⟨rfl, rfl, rfl, rfl, rfl, rfl, rfl, rfl, rfl, rfl⟩

theorem sampleUser_not_answers_guess :
    ¬Answers sampleConfig guessAttempt.method guessTicket sampleUser := by
  intro h
  have hsame : sampleTicket.answer.response = "0" :=
    Except.ok.inj (sampleUser_answers.symm.trans h)
  exact absurd hsame (by decide)

def sampleStart : Point Store.Directory where
  cache := .memory none []
  store := [("ann", sampleUser)]

-- She comes once, is taken out of the directory, and a guess is made at her password
def beforeGuess : List (Event Store.Directory) :=
  [.request sampleAttempt, .change []]

def sampleCache : Cache :=
  .memory none [("ann", sampleUser)]

theorem after_beforeGuess :
    sampleStart.after sampleConfig Store.ofDirectory beforeGuess = ⟨sampleCache, []⟩ := by
  have hcache : (verify sampleConfig Store.ofDirectory sampleStart.cache sampleStart.store
      sampleAttempt).cache = sampleCache :=
    Verification.cache_of_quiet (sample_from_store rfl rfl)
  simp only [beforeGuess, Point.after, List.foldl_cons, List.foldl_nil, Point.next, hcache]

theorem guess_verified :
    (verify sampleConfig Store.ofDirectory sampleCache [] guessAttempt).quiet = {
      outcome := .ok (.rejection .usernameNotFound guessTicket.header "ann" [])
      cache := sampleCache
      store := []
      asked := ["ann"] } := by
  have hu : Unanswered sampleConfig sampleCache guessAttempt.method guessTicket := by
    rintro c hc ha
    obtain rfl : sampleUser = c := Option.some.inj hc
    exact sampleUser_not_answers_guess ha
  have hno : ∀ c, Store.ofDirectory.reply [] guessTicket.answer.username = .found c →
      ¬Answers sampleConfig guessAttempt.method guessTicket c := fun c hc => nomatch hc
  rw [quiet_verify_of_ticket (Directives.bind_body?_scheme _) guessTicket_examined,
    quiet_settle_of_refused guessTicket_examined.isProtected hu hno]
  rfl

theorem next_guess :
    Point.next sampleConfig Store.ofDirectory ⟨sampleCache, []⟩ (.request guessAttempt)
      = ⟨sampleCache, []⟩ := by
  simp only [Point.next, Verification.cache_of_quiet guess_verified,
    Verification.store_of_quiet guess_verified]

theorem guess_denied :
    Denies sampleConfig Store.ofDirectory
      (sampleStart.after sampleConfig Store.ofDirectory beforeGuess) guessAttempt "ann" := by
  rw [after_beforeGuess]
  exact ⟨Attempt.username?_of_ticket (Directives.bind_body?_scheme _) guessTicket_examined, _,
    Verification.outcome_of_quiet guess_verified, rfl⟩

theorem sample_accepted_after_guess :
    Accepts sampleConfig Store.ofDirectory (sampleStart.after sampleConfig Store.ofDirectory
      (beforeGuess ++ [.request guessAttempt])) sampleAttempt "ann" sampleUser := by
  have hafter : sampleStart.after sampleConfig Store.ofDirectory
      (beforeGuess ++ [.request guessAttempt]) = ⟨sampleCache, []⟩ := by
    rw [Point.after_append, after_beforeGuess]
    exact next_guess
  rw [hafter]
  exact ⟨username?_sampleAttempt, _, Verification.outcome_of_quiet (sample_from_cache rfl), rfl,
    rfl⟩

theorem latestSince?_guess :
    latestSince? sampleConfig Store.ofDirectory
      (sampleStart.after sampleConfig Store.ofDirectory beforeGuess) guessAttempt [] sampleAttempt
      "ann" = none := by
  have hasked : (verify sampleConfig Store.ofDirectory sampleCache [] sampleAttempt).asked = [] :=
    Verification.asked_of_quiet (sample_from_cache rfl)
  rw [after_beforeGuess, latestSince?, next_guess, List.nil_append, lookups_request, hasked]
  rfl

-- The guess told the verifier that the user is gone, but her entry stayed in the cache: she is
-- accepted with no lookup
theorem not_denialsLast : ¬DenialsLast sampleConfig Store.ofDirectory sampleStart := fun h =>
  h beforeGuess [] guessAttempt sampleAttempt "ann" sampleUser guess_denied
    sample_accepted_after_guess latestSince?_guess

theorem acceptance_after_denial_sample :
    sampleStart.cache.entries = [] ∧
    Denies sampleConfig Store.ofDirectory
      (sampleStart.after sampleConfig Store.ofDirectory beforeGuess) guessAttempt "ann" ∧
    Accepts sampleConfig Store.ofDirectory (sampleStart.after sampleConfig Store.ofDirectory
      (beforeGuess ++ [.request guessAttempt])) sampleAttempt "ann" sampleUser ∧
    (sampleStart.after sampleConfig Store.ofDirectory beforeGuess).cache.get? "ann"
      = some sampleUser ∧
    Lookup.latest? "ann" (lookups sampleConfig Store.ofDirectory sampleStart beforeGuess)
      = some sampleUser := by
  have hempty : sampleStart.cache.entries = [] := rfl
  rcases acceptance_after_denial hempty beforeGuess [] guess_denied sample_accepted_after_guess
    with hsince | ⟨-, hkept, hbefore⟩
  · exact nomatch latestSince?_guess.symm.trans hsince
  · exact ⟨hempty, guess_denied, sample_accepted_after_guess, hkept, hbefore⟩

end HttpDigest.Verifier
