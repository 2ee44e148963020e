import HttpDigest.Proofs.Runs

namespace HttpDigest

-- A store without states is a fixed function of the username
theorem Store.reply_of_mem_lookups {store : Store Unit} {state : Unit} {usernames : List String}
    {l : Lookup} (h : l ∈ store.lookups state usernames) : l.reply = store.reply () l.username := by
  induction usernames generalizing state with
  | nil => cases h
  | cons username rest ih =>
      rcases List.mem_cons.mp h with rfl | hrest
      · rfl
      · exact ih hrest

namespace Verifier

variable {config : Config} {store : Store Unit} {cache : Cache} {p : Point Unit}

-- What the cache holds is what the store would reply
def Faithful (store : Store Unit) (cache : Cache) : Prop :=
  ∀ username c, cache.get? username = some c → store.reply () username = .found c

theorem faithful_of_entries_eq_nil (h : cache.entries = []) : Faithful store cache := by
  intro username c hc
  rw [Cache.get?_of_entries_eq_nil h] at hc
  cases hc

theorem unanswered_empty {method : String} {t : Ticket} : Unanswered config .empty method t :=
  fun _ hc => nomatch hc

-- A credential of a faithful cache answers just if that of the store does, so that it makes no
-- difference which of them a call goes by
theorem outcome_of_faithful (hf : Faithful store cache) (attempt : Attempt) :
    (verify config store cache () attempt).outcome
      = (verify config store .empty () attempt).outcome := by
  obtain ⟨v, hv, hcourse⟩ := exists_course config store cache () attempt
  rw [Verification.outcome_of_quiet hv]
  cases hcourse with
  | passed hb => rw [Verification.outcome_of_quiet (quiet_verify_of_no_scheme hb)]
  | refused header refusal hb he =>
      rw [Verification.outcome_of_quiet (quiet_verify_of_refusal hb he)]
  | cached t c hb hx hc ha =>
      have hr : store.reply () t.answer.username = .found c := hf _ c hc
      rw [Verification.outcome_of_quiet ((quiet_verify_of_ticket hb hx).trans
        (quiet_settle_of_found hx.isProtected unanswered_empty hr ha))]
  | found t c hb hx hu hr ha =>
      rw [Verification.outcome_of_quiet ((quiet_verify_of_ticket hb hx).trans
        (quiet_settle_of_found hx.isProtected unanswered_empty hr ha))]
  | denied t hb hx hu hr =>
      rw [Verification.outcome_of_quiet ((quiet_verify_of_ticket hb hx).trans
        (quiet_settle_of_refused hx.isProtected unanswered_empty hr))]

-- No event makes a cache unfaithful: what comes in is what the store replied
theorem faithful_next (hd : p.cache.Distinct) (hf : Faithful store p.cache) (event : Event Unit) :
    Faithful store (p.next config store event).cache := by
  intro username c hc
  rcases Option.or_eq_some_iff.mp (latest?_of_next hd hc) with hlatest | ⟨-, hbefore⟩
  · obtain ⟨l, hl, rfl, hreply⟩ := Lookup.exists_of_latest? hlatest
    obtain ⟨call, -, hl⟩ := List.mem_flatMap.mp hl
    exact (Store.reply_of_mem_lookups hl).symm.trans hreply
  · exact hf username c hbefore

theorem outcomes_of_faithful (hd : p.cache.Distinct) (hf : Faithful store p.cache)
    (events : List (Event Unit)) :
    outcomes config store p events = (events.filterMap Event.attempt?).map fun attempt =>
      (verify config store .empty () attempt).outcome := by
  induction events generalizing p with
  | nil => rfl
  | cons event rest ih =>
      have hrest := ih (p := p.next config store event) (distinct_next hd event)
        (faithful_next hd hf event)
      cases event with
      | request attempt =>
          simp only [outcomes, calls, List.map_append] at hrest ⊢
          rw [hrest]
          exact congrArg (· :: _) (outcome_of_faithful hf attempt)
      | removal username => exact hrest
      | clearing => exact hrest
      | change state => exact hrest

-- Over a store that never changes a cache does not show: whatever its limit, and whatever is
-- taken out of it on the way, each request ends as if it were verified alone without a cache
theorem outcomes_eq_alone (config : Config) (store : Store Unit) (limit : Option Nat)
    (events : List (Event Unit)) :
    (outcomes config store ⟨.memory limit [], ()⟩ events
      = (events.filterMap Event.attempt?).map fun attempt =>
          (verify config store .empty () attempt).outcome) ∧
    (outcomes config store ⟨.memory limit [], ()⟩ events
      = outcomes config store ⟨.empty, ()⟩ events) := by
  have hmemory : outcomes config store ⟨.memory limit [], ()⟩ events = _ :=
    outcomes_of_faithful (Cache.distinct_of_entries_eq_nil rfl) (faithful_of_entries_eq_nil rfl)
      events
  have hempty : outcomes config store ⟨.empty, ()⟩ events = _ :=
    outcomes_of_faithful (Cache.distinct_of_entries_eq_nil rfl) (faithful_of_entries_eq_nil rfl)
      events
  exact ⟨hmemory, hmemory.trans hempty.symm⟩

end Verifier

end HttpDigest
