import HttpDigest.Proofs.Course

namespace HttpDigest

structure Lookup where
  username : String
  reply : Reply

namespace Lookup

def found? (l : Lookup) (username : String) : Option Credential :=
  match l.reply with
  | .found c => if l.username = username then some c else none
  | _ => none

-- The credential of a user that the latest lookup brought that brought one
def latest? (username : String) (lookups : List Lookup) : Option Credential :=
  lookups.reverse.findSome? (·.found? username)

theorem found?_eq_some_iff {l : Lookup} {username : String} {c : Credential} :
    l.found? username = some c ↔ l.username = username ∧ l.reply = .found c := by
  cases hr : l.reply <;> simp [found?, hr, and_comm]

@[simp] theorem latest?_nil (username : String) : latest? username [] = none := rfl

theorem latest?_append (username : String) (earlier later : List Lookup) :
    latest? username (earlier ++ later)
      = (latest? username later).or (latest? username earlier) := by
  rw [latest?, List.reverse_append, List.findSome?_append]
  rfl

theorem latest?_singleton (username : String) (l : Lookup) :
    latest? username [l] = l.found? username := by
  simp [latest?]

-- What is latest was brought by one of the lookups
theorem exists_of_latest? {username : String} {lookups : List Lookup} {c : Credential}
    (h : latest? username lookups = some c) :
    ∃ l ∈ lookups, l.username = username ∧ l.reply = .found c := by
  obtain ⟨l, hl, hf⟩ := List.exists_of_findSome?_eq_some h
  exact ⟨l, List.mem_reverse.mp hl, found?_eq_some_iff.mp hf⟩

end Lookup

def Store.lookups {σ : Type} (store : Store σ) : σ → List String → List Lookup
  | _, [] => []
  | state, username :: rest =>
    ⟨username, store.reply state username⟩ :: store.lookups (store.next state username) rest

def Cache.orKept (c : Cache) : Except Fault Cache → Cache
  | .ok after => after
  | .error _ => c

namespace Cache.Distinct

variable {c : Cache} {username other : String} {found : Credential}

theorem removal (h : c.Distinct) (username : String) :
    (c.orKept (c.remove username)).Distinct := by
  cases c with
  | empty => exact h
  | memory limit entries => exact OrderedMap.nodup_keys_erase h

theorem get?_of_removal (h : c.Distinct)
    (hg : (c.orKept (c.remove username)).get? other = some found) :
    c.get? other = some found := by
  cases c with
  | empty => exact hg
  | memory limit entries => exact OrderedMap.get?_of_get?_erase h hg

theorem clearing (h : c.Distinct) : (c.orKept c.clear).Distinct := by
  cases c with
  | empty => exact h
  | memory limit entries => exact List.nodup_nil

end Cache.Distinct

theorem Cache.get?_of_clearing {c : Cache} {username : String} {found : Credential}
    (hg : (c.orKept c.clear).get? username = some found) : c.get? username = some found := by
  cases c with
  | empty => exact hg
  | memory limit entries => cases hg

namespace Verifier

def Attempt.username? (a : Attempt) : Option String :=
  (a.authorization.bind Directives.ofHeader?).bind (·.get? "username")

theorem Attempt.username?_of_ticket {attempt : Attempt} {config : Config} {t : Ticket}
    (hb : attempt.authorization.bind Directives.body? = some t.header) (hx : Examined config t) :
    attempt.username? = some t.answer.username := by
  obtain ⟨text, htext, hbody⟩ := Option.bind_eq_some_iff.mp hb
  simp [username?, htext, Directives.ofHeader?, hbody, hx.readFrom.username]

-- What happens to a verifier: a request comes in, one user or all users are taken out of its
-- cache, or its store changes
inductive Event (σ : Type) where
  | request (attempt : Attempt)
  | removal (username : String)
  | clearing
  | change (state : σ)

def Event.attempt? {σ : Type} : Event σ → Option Attempt
  | .request attempt => some attempt
  | _ => none

structure Point (σ : Type) where
  cache : Cache
  store : σ

structure Call (σ : Type) where
  attempt : Attempt
  start : Point σ

section Runs

variable {σ : Type} (config : Config) (store : Store σ)

def Call.result (call : Call σ) : Verification σ :=
  verify config store call.start.cache call.start.store call.attempt

def Call.lookups (call : Call σ) : List Lookup :=
  store.lookups call.start.store (call.result config store).asked

def Point.next (p : Point σ) : Event σ → Point σ
  | .request attempt =>
    let v := verify config store p.cache p.store attempt
    ⟨v.cache, v.store⟩
  | .removal username => { p with cache := p.cache.orKept (p.cache.remove username) }
  | .clearing => { p with cache := p.cache.orKept p.cache.clear }
  | .change state => { p with store := state }

def Point.after (p : Point σ) (events : List (Event σ)) : Point σ :=
  events.foldl (Point.next config store) p

def Event.call? (p : Point σ) : Event σ → Option (Call σ)
  | .request attempt => some ⟨attempt, p⟩
  | _ => none

def calls (p : Point σ) : List (Event σ) → List (Call σ)
  | [] => []
  | event :: rest => (event.call? p).toList ++ calls (p.next config store event) rest

def lookups (p : Point σ) (events : List (Event σ)) : List Lookup :=
  (calls config store p events).flatMap (Call.lookups config store)

def outcomes (p : Point σ) (events : List (Event σ)) : List (Except Failure Outcome) :=
  (calls config store p events).map fun call => (call.result config store).outcome

variable {config store} {p : Point σ}

theorem Point.after_append (earlier later : List (Event σ)) :
    p.after config store (earlier ++ later)
      = (p.after config store earlier).after config store later := by
  simp [after]

theorem calls_append (earlier later : List (Event σ)) :
    calls config store p (earlier ++ later)
      = calls config store p earlier ++ calls config store (p.after config store earlier) later := by
  induction earlier generalizing p with
  | nil => rfl
  | cons event rest ih => simp [calls, ih, Point.after]

theorem lookups_append (earlier later : List (Event σ)) :
    lookups config store p (earlier ++ later) = lookups config store p earlier
      ++ lookups config store (p.after config store earlier) later := by
  simp [lookups, calls_append]

theorem lookups_cons (event : Event σ) (rest : List (Event σ)) :
    lookups config store p (event :: rest) = lookups config store p [event]
      ++ lookups config store (p.next config store event) rest :=
  lookups_append [event] rest

theorem lookups_request (attempt : Attempt) :
    lookups config store p [.request attempt]
      = store.lookups p.store (verify config store p.cache p.store attempt).asked := by
  simp [lookups, calls, Event.call?, Call.lookups, Call.result]

-- What a cache holds of a user is what the latest lookup brought that brought anything, and
-- without one it is what the cache held at first. So it is of one lookup, of one call, of one
-- event, and of a run.
theorem latest?_of_fetch {cache : Cache} {state : σ} {asked username : String} {c : Credential}
    (hd : cache.Distinct) (h : (fetch store cache state asked).cache.get? username = some c) :
    (Lookup.latest? username [⟨asked, store.reply state asked⟩]).or (cache.get? username)
      = some c := by
  rw [Lookup.latest?_singleton]
  rcases fetch_cache_cases store cache state asked with ⟨d, hf, hcache⟩ | ⟨hnot, hcache⟩
  · rw [hcache] at h
    rcases hd.get?_of_get?_put h with ⟨rfl, rfl⟩ | ⟨hne, hc⟩
    · simp [Lookup.found?, hf]
    · simp [Lookup.found?, hf, hne, hc]
  · have hnone : Lookup.found? ⟨asked, store.reply state asked⟩ username = none := by
      rw [Option.eq_none_iff_forall_ne_some]
      exact fun d hl => hnot d (Lookup.found?_eq_some_iff.mp hl).2
    rw [hcache] at h
    rw [hnone, h]
    rfl

theorem latest?_of_verify {cache : Cache} {state : σ} {attempt : Attempt} {username : String}
    {c : Credential} (hd : cache.Distinct)
    (h : (verify config store cache state attempt).cache.get? username = some c) :
    (Lookup.latest? username
      (store.lookups state (verify config store cache state attempt).asked)).or
        (cache.get? username) = some c := by
  rcases verify_effects config store cache state attempt with
    ⟨hasked, hcache, -⟩ | ⟨asked, hasked, hcache, -⟩
  · rw [hcache] at h
    rw [hasked, h]
    rfl
  · rw [hcache] at h
    rw [hasked]
    exact latest?_of_fetch hd h

theorem distinct_fetch {cache : Cache} {state : σ} {username : String} (hd : cache.Distinct) :
    (fetch store cache state username).cache.Distinct := by
  rcases fetch_cache_cases store cache state username with ⟨d, -, hcache⟩ | ⟨-, hcache⟩
  · rw [hcache]
    exact hd.put username d
  · rw [hcache]
    exact hd

theorem distinct_next (hd : p.cache.Distinct) (event : Event σ) :
    (p.next config store event).cache.Distinct := by
  cases event with
  | request attempt =>
      rcases verify_effects config store p.cache p.store attempt with
        ⟨-, hcache, -⟩ | ⟨asked, -, hcache, -⟩
      · simp only [Point.next, hcache]
        exact hd
      · simp only [Point.next, hcache]
        exact distinct_fetch hd
  | removal username => exact hd.removal username
  | clearing => exact hd.clearing
  | change state => exact hd

theorem latest?_of_next {username : String} {c : Credential} (hd : p.cache.Distinct)
    {event : Event σ} (h : (p.next config store event).cache.get? username = some c) :
    (Lookup.latest? username (lookups config store p [event])).or (p.cache.get? username)
      = some c := by
  cases event with
  | request attempt =>
      rw [lookups_request]
      exact latest?_of_verify hd h
  | removal name => exact hd.get?_of_removal h
  | clearing => exact Cache.get?_of_clearing h
  | change state => exact h

theorem distinct_after (hd : p.cache.Distinct) (events : List (Event σ)) :
    (p.after config store events).cache.Distinct := by
  induction events generalizing p with
  | nil => exact hd
  | cons event rest ih => exact ih (distinct_next hd event)

theorem latest?_of_after {username : String} {c : Credential} (hd : p.cache.Distinct)
    (events : List (Event σ))
    (h : (p.after config store events).cache.get? username = some c) :
    (Lookup.latest? username (lookups config store p events)).or (p.cache.get? username)
      = some c := by
  -- what the first event leaves in the cache is what the rest of the run begins with
  induction events generalizing p with
  | nil => exact h
  | cons event rest ih =>
      have hrest := ih (distinct_next hd event) h
      rw [lookups_cons, Lookup.latest?_append, Option.or_assoc]
      rcases Option.or_eq_some_iff.mp hrest with hlater | ⟨hnone, hnext⟩
      · rw [hlater]
        rfl
      · rw [hnone, Option.none_or]
        exact latest?_of_next hd hnext

end Runs

end Verifier

end HttpDigest
