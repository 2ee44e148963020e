import HttpDigest.Proofs.Passage
import Mathlib.Logic.Function.Iterate

namespace HttpDigest

namespace Challenger

def opening (c : Challenger) : String :=
  "Digest " ++ String.join ((["realm=\"" ++ c.realm.plain ++ "\""] ++ directive "qop" c.qop).map
    (· ++ ", ")) ++ "nonce=\""

def echo (c : Challenger) : String :=
  "\"" ++ String.join ((directive "opaque" c.opaqueText).map (", " ++ ·))

def closing (c : Challenger) (stale : Bool) : String :=
  c.echo ++ if stale then ", stale=true" else ""

theorem header_eq_append (c : Challenger) (nonce : String) (stale : Bool) :
    c.header nonce stale = c.opening ++ nonce ++ c.closing stale := by
  apply String.toList_inj.mp
  by_cases hq : c.qop.truthy <;> by_cases ho : c.opaqueText.truthy <;> cases stale <;>
    simp [header, opening, closing, echo, directive, hq, ho, String.join]

theorem getLast?_echo (c : Challenger) : c.echo.toList.getLast? = some '"' := by
  by_cases ho : c.opaqueText.truthy
  · have hecho : c.echo.toList = ("\", opaque=\"" ++ c.opaqueText.plain).toList ++ ['"'] := by
      simp [echo, directive, ho, String.join]
    rw [hecho, List.getLast?_concat]
  · simp [echo, directive, ho, String.join]

-- The end of a challenge tells whether it is stale: any other ends with a quote
theorem stale_suffix_header_iff (c : Challenger) (nonce : String) (stale : Bool) :
    ", stale=true".toList <:+ (c.header nonce stale).toList ↔ stale = true := by
  rw [header_eq_append, closing]
  cases stale with
  | false =>
      refine iff_of_false ?_ Bool.false_ne_true
      rintro ⟨front, hfront⟩
      have hlast := congrArg List.getLast? hfront
      simp [getLast?_echo] at hlast
  | true =>
      refine iff_of_true ?_ rfl
      rw [if_pos rfl, ← String.append_assoc, String.toList_append]
      exact List.suffix_append _ _

end Challenger

namespace Gateway

inductive Event (σ : Type) where
  | request (r : Request) (now : Int)
  | change (cache : Cache) (store : σ)

structure Call (σ ν : Type) where
  request : Request
  now : Int
  start : State σ ν

section Runs

variable {σ ν : Type} (g : Gateway σ ν)

def Call.outcome (call : Call σ ν) : Except Failure Outcome :=
  g.outcome call.start call.request call.now

def Call.processed (call : Call σ ν) : Processed σ ν :=
  g.process call.start call.request call.now

def Call.refusal? (call : Call σ ν) : Option Outcome :=
  match call.outcome g with
  | .ok o => if o.status = .rejected then some o else none
  | .error _ => none

def Call.challenge? (call : Call σ ν) : Option Challenger.Reply :=
  match (call.processed g).ruling with
  | .ok ruling => ruling.reply.filter (·.status = 401)
  | .error _ => none

-- The response was right under a credential that the call came by, and nothing but the time of
-- the nonce spoke against the request
def Call.Late (call : Call σ ν) : Prop :=
  ∃ (uri : Value) (authorization : Option String) (t : Verifier.Ticket) (c : Credential),
    call.request.uri = .ok uri ∧
    Directives.headerText call.request.authorization = .ok authorization ∧
    authorization.bind Directives.body? = some t.header ∧ Verifier.Examined g.config t ∧
    Verifier.Answers g.config call.request.methodName t c ∧
    Verifier.Supplied g.store call.start.cache call.start.store t.answer.username
      (g.verification call.start call.request uri call.now).asked c ∧
    t.nonce.expiry < call.now

def State.next (s : State σ ν) : Event σ → State σ ν
  | .request r now => (g.process s r now).state
  | .change cache store => { s with cache, store }

def State.after (s : State σ ν) (events : List (Event σ)) : State σ ν :=
  events.foldl (State.next g) s

def Event.call? (s : State σ ν) : Event σ → Option (Call σ ν)
  | .request r now => some ⟨r, now, s⟩
  | .change _ _ => none

def calls (s : State σ ν) : List (Event σ) → List (Call σ ν)
  | [] => []
  | event :: rest => (event.call? s).toList ++ calls (s.next g event) rest

def refusals (s : State σ ν) (events : List (Event σ)) : List Outcome :=
  (calls g s events).filterMap (Call.refusal? g)

def challenges (s : State σ ν) (events : List (Event σ)) : List Challenger.Reply :=
  (calls g s events).filterMap (Call.challenge? g)

variable {g} {call : Call σ ν} {s : State σ ν} {o : Outcome}

-- What one call takes of the supply: a refusal one nonce, which its challenge carries, and
-- anything else none
theorem Call.supply_cases (call : Call σ ν) :
    (∃ o, call.refusal? g = some o ∧
      (call.processed g).state.nonces = g.supplier.next call.start.nonces ∧
      call.challenge? g = some
        (g.challenger.challenge (g.supplier.nonce call.start.nonces) o.message o.isStale)) ∨
    (call.refusal? g = none ∧ (call.processed g).state.nonces = call.start.nonces ∧
      call.challenge? g = none) := by
  have hcourse := g.process_course call.start call.request call.now
  simp only [refusal?, outcome, challenge?, processed]
  generalize g.outcome call.start call.request call.now = outcome,
    (g.process call.start call.request call.now).ruling = ruling,
    (g.process call.start call.request call.now).request = request,
    (g.process call.start call.request call.now).state.nonces = nonces at hcourse ⊢
  cases hcourse with
  | failed f => exact .inr ⟨rfl, rfl, rfl⟩
  | accepted o c hs hc => exact .inr ⟨by simp [hs], rfl, rfl⟩
  | challenged o reason hs hr => exact .inl ⟨o, by simp [hs], rfl, rfl⟩
  | errored o hs => exact .inr ⟨by simp [hs], rfl, rfl⟩
  | passed o hs => exact .inr ⟨by simp [hs], rfl, rfl⟩

theorem supply_next (s : State σ ν) (event : Event σ) :
    (∃ o, refusals g s [event] = [o] ∧ (s.next g event).nonces = g.supplier.next s.nonces ∧
      challenges g s [event] = [
        g.challenger.challenge (g.supplier.nonce s.nonces) o.message o.isStale]) ∨
    (refusals g s [event] = [] ∧ (s.next g event).nonces = s.nonces ∧
      challenges g s [event] = []) := by
  cases event with
  | change cache store => exact .inr ⟨rfl, rfl, rfl⟩
  | request r now =>
      rcases Call.supply_cases (g := g) ⟨r, now, s⟩ with ⟨o, hr, hn, hc⟩ | ⟨hr, hn, hc⟩
      · refine .inl ⟨o, ?_, hn, ?_⟩
        · simp [refusals, calls, Event.call?, hr]
        · simp [challenges, calls, Event.call?, hc]
      · refine .inr ⟨?_, hn, ?_⟩
        · simp [refusals, calls, Event.call?, hr]
        · simp [challenges, calls, Event.call?, hc]

theorem refusals_cons (event : Event σ) (rest : List (Event σ)) :
    refusals g s (event :: rest) = refusals g s [event] ++ refusals g (s.next g event) rest := by
  simp [refusals, calls]

theorem challenges_cons (event : Event σ) (rest : List (Event σ)) :
    challenges g s (event :: rest)
      = challenges g s [event] ++ challenges g (s.next g event) rest := by
  simp [challenges, calls]

theorem nonces_after (s : State σ ν) (events : List (Event σ)) :
    (s.after g events).nonces = g.supplier.next^[(refusals g s events).length] s.nonces := by
  induction events generalizing s with
  | nil => rfl
  | cons event rest ih =>
      have hrest : (s.after g (event :: rest)).nonces
          = g.supplier.next^[(refusals g (s.next g event) rest).length]
            (s.next g event).nonces := ih (s.next g event)
      rw [hrest, refusals_cons]
      rcases supply_next s event with ⟨o, hr, hn, -⟩ | ⟨hr, hn, -⟩
      · rw [hr, hn, List.length_append, Nat.add_comm, List.length_singleton,
          Function.iterate_succ_apply]
      · rw [hr, hn, List.nil_append]

theorem challenges_eq (s : State σ ν) (events : List (Event σ)) :
    challenges g s events = (refusals g s events).mapIdx fun k o =>
      g.challenger.challenge (g.supplier.nonce (g.supplier.next^[k] s.nonces)) o.message
        o.isStale := by
  induction events generalizing s with
  | nil => rfl
  | cons event rest ih =>
      rw [challenges_cons, refusals_cons, ih (s.next g event)]
      rcases supply_next s event with ⟨o, hr, hn, hc⟩ | ⟨hr, hn, hc⟩
      · rw [hr, hn, hc, List.singleton_append, List.singleton_append, List.mapIdx_cons]
        simp only [Function.iterate_zero, id, Function.iterate_succ_apply]
      · rw [hr, hn, hc, List.nil_append, List.nil_append]

theorem Call.refusal?_eq_some_iff :
    call.refusal? g = some o ↔ call.outcome g = .ok o ∧ o.status = .rejected := by
  unfold refusal?
  cases call.outcome g with
  | error f => simp
  | ok p =>
      simp only [Option.ite_none_right_eq_some, Option.some.injEq, Except.ok.injEq]
      constructor
      · rintro ⟨hs, rfl⟩
        exact ⟨rfl, hs⟩
      · rintro ⟨rfl, hs⟩
        exact ⟨hs, rfl⟩

-- A refusal calls the nonce stale exactly if the request was late
theorem Call.isStale_iff (h : call.refusal? g = some o) : o.isStale = true ↔ call.Late g := by
  obtain ⟨uri, authorization, hu, ha, ho⟩ :=
    outcome_eq_ok_iff.mp (Call.refusal?_eq_some_iff.mp h).1
  have hv : g.verification call.start call.request uri call.now
      = Verifier.verify g.config g.store call.start.cache call.start.store
          ⟨authorization, call.request.methodName, uri, call.now⟩ :=
    verification_of_headerText ha uri
  rw [Outcome.isStale, decide_eq_true_iff, Verifier.nonceExpired_iff ho]
  constructor
  · rintro ⟨t, c, hb, hx, hans, hs, hlt⟩
    exact ⟨uri, authorization, t, c, hu, ha, hb, hx, hans, hv ▸ hs, hlt⟩
  · rintro ⟨uri', authorization', t, c, hu', ha', hb, hx, hans, hs, hlt⟩
    obtain rfl := Except.ok.inj (hu.symm.trans hu')
    obtain rfl := Except.ok.inj (ha.symm.trans ha')
    exact ⟨t, c, hb, hx, hans, hv ▸ hs, hlt⟩

-- Over a run of requests every refusal takes one nonce of the supply, and nothing else takes any.
-- The challenges carry these nonces in their order, one each, and those to requests that were
-- late are stale.
theorem one_nonce_per_refusal (g : Gateway σ ν) (s : State σ ν) (events : List (Event σ)) :
    (s.after g events).nonces = g.supplier.next^[(refusals g s events).length] s.nonces ∧
    (challenges g s events = (refusals g s events).mapIdx fun k o =>
      g.challenger.challenge (g.supplier.nonce (g.supplier.next^[k] s.nonces)) o.message
        o.isStale) ∧
    (∀ call ∈ calls g s events,
      ((call.processed g).state.nonces = if (call.refusal? g).isSome
        then g.supplier.next call.start.nonces else call.start.nonces) ∧
      ∀ o, call.refusal? g = some o → ∃ reply value, call.challenge? g = some reply ∧
        reply.headers = [("WWW-Authenticate", value)] ∧
        (", stale=true".toList <:+ value.toList ↔ call.Late g)) ∧
    ∀ stale, ∃ before after, ∀ nonce,
      g.challenger.header nonce stale = before ++ nonce ++ after := by
  refine ⟨nonces_after s events, challenges_eq s events, fun call _ => ?_, fun stale =>
    ⟨_, _, fun nonce => g.challenger.header_eq_append nonce stale⟩⟩
  rcases call.supply_cases (g := g) with ⟨o, hr, hn, hc⟩ | ⟨hr, hn, hc⟩
  · refine ⟨by rw [hr, hn]; rfl, fun p hp => ?_⟩
    obtain rfl := Option.some.inj (hr.symm.trans hp)
    refine ⟨_, _, hc, rfl, ?_⟩
    rw [Challenger.stale_suffix_header_iff, Call.isStale_iff hr]
  · refine ⟨by rw [hr, hn]; rfl, fun p hp => ?_⟩
    cases hr.symm.trans hp

end Runs

end Gateway

end HttpDigest
