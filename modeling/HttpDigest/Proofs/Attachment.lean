import HttpDigest.Proofs.Supply

namespace HttpDigest

namespace Outcome

-- An outcome that says who sent a request or that nobody is to be believed. A request that passes
-- through has none.
def Decides (o : Outcome) : Prop :=
  o.status ≠ .unauthenticated

instance : DecidablePred Decides :=
  fun o => inferInstanceAs (Decidable (o.status ≠ .unauthenticated))

theorem decides_iff {o : Outcome} : o.Decides ↔ o.status = .authenticated ∨ o.Refused := by
  unfold Decides Refused
  cases o.status <;> simp

def sender (o : Outcome) : Option Credential :=
  if o.status = .authenticated then o.credential else none

def latestDecision? (outcomes : List Outcome) : Option Outcome :=
  (outcomes.filter fun o => decide o.Decides).getLast?

def attachedAfter (before : Option (Option Credential)) (outcomes : List Outcome) :
    Option (Option Credential) :=
  match latestDecision? outcomes with
  | some o => some o.sender
  | none => before

variable {before : Option (Option Credential)} {o : Outcome}

theorem attachedAfter_accepted (h : o.status = .authenticated) :
    attachedAfter before [o] = some o.credential := by
  have hd : o.Decides := decides_iff.mpr (.inl h)
  simp [attachedAfter, latestDecision?, hd, sender, h]

theorem attachedAfter_refused (h : o.Refused) : attachedAfter before [o] = some none := by
  have hd : o.Decides := decides_iff.mpr (.inr h)
  have hs : o.status ≠ .authenticated := by
    rcases h with h | h <;> simp [h]
  simp [attachedAfter, latestDecision?, hd, sender, hs]

theorem attachedAfter_passed (h : o.status = .unauthenticated) :
    attachedAfter before [o] = before := by
  have hd : ¬o.Decides := fun hd => hd h
  simp [attachedAfter, latestDecision?, hd]

theorem attachedAfter_append (earlier later : List Outcome) :
    attachedAfter before (earlier ++ later)
      = attachedAfter (attachedAfter before earlier) later := by
  simp only [attachedAfter, latestDecision?, List.filter_append, List.getLast?_append]
  cases (later.filter fun o => decide o.Decides).getLast? <;> rfl

end Outcome

namespace Request

-- Attaching takes a request that can carry an identity
theorem attach_of_accepts {r : Request} (h : r.acceptsIdentity = true)
    (identity : Option Credential) : r.attach identity = { r with identity := some identity } :=
  if_pos h

end Request

namespace Gateway

-- What an application does with a request: it has the request processed, it changes the headers
-- or the method, or it lets other requests through the gateway meanwhile
inductive Action (σ ν : Type) where
  | process (now : Int)
  | setHeaders (headers : Option Request.Headers) (environ : Option (List (String × Value)))
  | setMethod (method : Option Value)
  | leave (s : State σ ν)

def Action.edit {σ ν : Type} (r : Request) : Action σ ν → Request
  | .setHeaders headers environ => { r with headers, environ }
  | .setMethod method => { r with method }
  | .process _ | .leave _ => r

def Action.edits {σ ν : Type} (r : Request) (actions : List (Action σ ν)) : Request :=
  actions.foldl edit r

-- No edit looks at the identity, nor at where it is attached
theorem Action.edits_identity {σ ν : Type} (r : Request) (identity : Option (Option Credential))
    (actions : List (Action σ ν)) :
    edits { r with identity } actions = { edits r actions with identity } := by
  induction actions generalizing r with
  | nil => rfl
  | cons a rest ih =>
      have ha : edit { r with identity } a = { edit r a with identity } := by cases a <;> rfl
      rw [edits, List.foldl_cons, ha]
      exact ih (edit r a)

structure Holding (σ ν : Type) where
  request : Request
  state : State σ ν

namespace Holding

variable {σ ν : Type} (g : Gateway σ ν)

def next (h : Holding σ ν) : Action σ ν → Holding σ ν
  | .process now => ⟨(g.process h.state h.request now).request,
      (g.process h.state h.request now).state⟩
  | .leave s => { h with state := s }
  | a => { h with request := a.edit h.request }

def after (h : Holding σ ν) (actions : List (Action σ ν)) : Holding σ ν :=
  actions.foldl (next g) h

def call? (h : Holding σ ν) : Action σ ν → Option (Call σ ν)
  | .process now => some ⟨h.request, now, h.state⟩
  | _ => none

def calls (h : Holding σ ν) : List (Action σ ν) → List (Call σ ν)
  | [] => []
  | a :: rest => (h.call? a).toList ++ calls (h.next g a) rest

def outcomes (h : Holding σ ν) (actions : List (Action σ ν)) : List Outcome :=
  (h.calls g actions).filterMap fun call => (call.outcome g).toOption

end Holding

section Calls

variable {σ ν : Type} {g : Gateway σ ν} {call : Call σ ν} {o : Outcome}

-- What one call does to a request that can carry an identity: a decision is attached, and nothing
-- else changes
theorem Call.request_eq (call : Call σ ν) (hr : call.request.acceptsIdentity = true) :
    (call.processed g).request = { call.request with
      identity := Outcome.attachedAfter call.request.identity
        (call.outcome g).toOption.toList } := by
  have hcourse := g.process_course call.start call.request call.now
  simp only [processed, outcome]
  generalize g.outcome call.start call.request call.now = outcome,
    (g.process call.start call.request call.now).ruling = ruling,
    (g.process call.start call.request call.now).request = request,
    (g.process call.start call.request call.now).state.nonces = nonces at hcourse ⊢
  cases hcourse with
  | failed f => rfl
  | accepted o c hs hc =>
      have hleft : Outcome.attachedAfter call.request.identity [o] = some o.credential :=
        Outcome.attachedAfter_accepted hs
      simp only [Request.attach_of_accepts hr, Except.toOption, Option.toList_some, hleft, hc]
  | challenged o reason hs hrs =>
      have hleft : Outcome.attachedAfter call.request.identity [o] = some none :=
        Outcome.attachedAfter_refused (.inl hs)
      simp only [Request.attach_of_accepts hr, Except.toOption, Option.toList_some, hleft]
  | errored o hs =>
      have hleft : Outcome.attachedAfter call.request.identity [o] = some none :=
        Outcome.attachedAfter_refused (.inr hs)
      simp only [Request.attach_of_accepts hr, Except.toOption, Option.toList_some, hleft]
  | passed o hs =>
      simp only [Except.toOption, Option.toList_some, Outcome.attachedAfter_passed hs]

-- A challenge answers just the refusals
theorem Call.ruling_eq (ho : call.outcome g = .ok o) :
    ∃ reply, (call.processed g).ruling = .ok ⟨o, reply⟩ ∧ (reply.isSome ↔ o.Refused) := by
  rcases ruling_of_outcome ho with ⟨hnot, hruling⟩ | ⟨hrefused, reply, hruling, -⟩
  · exact ⟨none, hruling, iff_of_false (by simp) hnot⟩
  · exact ⟨some reply, hruling, iff_of_true rfl hrefused⟩

-- A request that can be read has an outcome, unless the store breaks its contract
theorem Call.exists_outcome
    (hstore : ∀ username e, g.store.reply call.start.store username ≠ .broken e)
    (hu : ∃ uri, call.request.uri = .ok uri)
    (ha : ∃ authorization, Directives.headerText call.request.authorization = .ok authorization) :
    ∃ o, call.outcome g = .ok o := by
  obtain ⟨uri, hu⟩ := hu
  obtain ⟨authorization, ha⟩ := ha
  rcases Verifier.wellFormed_or_broken g.config g.store call.start.cache call.start.store
      ⟨authorization, call.request.methodName, uri, call.now⟩ with ⟨o, ho, -⟩ | ⟨name, e, -, he⟩
  · exact ⟨o, outcome_eq_ok_iff.mpr ⟨uri, authorization, hu, ha, ho⟩⟩
  · exact absurd he (hstore name e)

end Calls

namespace Holding

variable {σ ν : Type} {g : Gateway σ ν} {h : Holding σ ν}

theorem outcomes_process (now : Int) :
    h.outcomes g [.process now] = (g.outcome h.state h.request now).toOption.toList := by
  simp only [outcomes, calls, call?, Call.outcome, Option.toList_some, List.append_nil,
    List.filterMap_cons, List.filterMap_nil]
  cases (g.outcome h.state h.request now).toOption <;> rfl

theorem outcomes_cons (a : Action σ ν) (rest : List (Action σ ν)) :
    h.outcomes g (a :: rest) = h.outcomes g [a] ++ (h.next g a).outcomes g rest := by
  simp [outcomes, calls]

-- What one action leaves of a request that can carry an identity
theorem request_next (hr : h.request.acceptsIdentity = true) (a : Action σ ν) :
    (h.next g a).request = { a.edit h.request with
      identity := Outcome.attachedAfter h.request.identity (h.outcomes g [a]) } := by
  cases a with
  | process now =>
      rw [outcomes_process]
      exact Call.request_eq ⟨h.request, now, h.state⟩ hr
  | setHeaders headers environ => rfl
  | setMethod method => rfl
  | leave s => rfl

theorem accepts_next (hr : h.request.acceptsIdentity = true) (a : Action σ ν) :
    (h.next g a).request.acceptsIdentity = true := by
  rw [request_next hr a]
  cases a <;> exact hr

-- And a run of actions: nothing but the edits of the application and the identity
theorem request_after (hr : h.request.acceptsIdentity = true) (actions : List (Action σ ν)) :
    (h.after g actions).request = { Action.edits h.request actions with
      identity := Outcome.attachedAfter h.request.identity (h.outcomes g actions) } := by
  induction actions generalizing h with
  | nil => rfl
  | cons a rest ih =>
      have hnext := request_next (g := g) hr a
      have hrest : (h.after g (a :: rest)).request = _ := ih (accepts_next hr a)
      rw [hrest, outcomes_cons, Outcome.attachedAfter_append, hnext, Action.edits_identity]
      rfl

-- The address of the request stays, and so does its place for an identity
theorem kept_of_mem_calls {call : Call σ ν} (hr : h.request.acceptsIdentity = true)
    {actions : List (Action σ ν)} (hm : call ∈ h.calls g actions) :
    call.request.acceptsIdentity = true ∧ call.request.uri = h.request.uri := by
  induction actions generalizing h with
  | nil => cases hm
  | cons a rest ih =>
      rcases List.mem_append.mp hm with hm | hm
      · cases a with
        | process now =>
            obtain rfl := Option.some.inj (Option.mem_toList.mp hm)
            exact ⟨hr, rfl⟩
        | setHeaders _ _ => cases hm
        | setMethod _ => cases hm
        | leave _ => cases hm
      · have hnext := request_next (g := g) hr a
        have huri : (h.next g a).request.uri = h.request.uri := by
          rw [hnext]
          cases a <;> rfl
        obtain ⟨hcall, hsame⟩ := ih (accepts_next hr a) hm
        exact ⟨hcall, hsame.trans huri⟩

theorem exists_call_of_mem_outcomes {o : Outcome} {actions : List (Action σ ν)}
    (ho : o ∈ h.outcomes g actions) : ∃ call ∈ h.calls g actions, call.outcome g = .ok o := by
  obtain ⟨call, hm, hc⟩ := List.mem_filterMap.mp ho
  refine ⟨call, hm, ?_⟩
  cases hcall : call.outcome g with
  | error f => simp [hcall, Except.toOption] at hc
  | ok o' => rw [hcall] at hc; exact congrArg Except.ok (Option.some.inj hc)

end Holding

-- Whatever an application does with a request that can carry an identity, the request carries
-- what the latest decision about it left there: the credential of an acceptance, and nobody after
-- a refusal. As long as every call passed the request through, the identity is the one it came
-- with. The gateway changes nothing else, and it answers just the refusals.
theorem identity_by_latest_decision {σ ν : Type} (g : Gateway σ ν) (h : Holding σ ν)
    (actions : List (Action σ ν)) (hr : h.request.acceptsIdentity = true)
    (hstore : ∀ state username e, g.store.reply state username ≠ .broken e) :
    (h.after g actions).request = { Action.edits h.request actions with
      identity := match Outcome.latestDecision? (h.outcomes g actions) with
        | some o => some (if o.status = .authenticated then o.credential else none)
        | none => h.request.identity } ∧
    (∀ o ∈ h.outcomes g actions, o.status = .authenticated → ∃ c, o.credential = some c) ∧
    ∀ call ∈ h.calls g actions,
      (call.processed g).request
        = { call.request with identity := (call.processed g).request.identity } ∧
      (∀ o, call.outcome g = .ok o → ∃ reply, (call.processed g).ruling = .ok ⟨o, reply⟩ ∧
        (reply.isSome ↔ o.status = .rejected ∨ o.status = .error)) ∧
      ((∃ uri, h.request.uri = .ok uri) →
        (∃ authorization, Directives.headerText call.request.authorization = .ok authorization) →
        ∃ o, call.outcome g = .ok o) := by
  refine ⟨Holding.request_after hr actions, fun o ho hs => ?_, fun call hm => ⟨?_, ?_, ?_⟩⟩
  · obtain ⟨call, -, hc⟩ := Holding.exists_call_of_mem_outcomes ho
    exact Option.isSome_iff_exists.mp ((wellFormed_of_outcome hc).credential.mpr hs)
  · obtain ⟨haccepts, -⟩ := Holding.kept_of_mem_calls hr hm
    rw [call.request_eq haccepts]
  · exact fun o ho => Call.ruling_eq ho
  · intro hu ha
    obtain ⟨-, huri⟩ := Holding.kept_of_mem_calls hr hm
    exact Call.exists_outcome (hstore call.start.store) (huri ▸ hu) ha

-- Without a header of the scheme a request passes through
theorem outcome_of_no_header {σ ν : Type} (g : Gateway σ ν) (s : State σ ν) (now : Int)
    {r : Request} {uri : Value} (hu : r.uri = .ok uri) (ha : r.authorization = .null) :
    g.outcome s r now = .ok .unauthenticated :=
  outcome_eq_ok_iff.mpr ⟨uri, none, hu, by rw [ha]; rfl,
    Verifier.Verification.outcome_of_quiet (Verifier.quiet_verify_of_no_scheme rfl)⟩

-- A request with the identity of somebody else is refused, and then processed once more without
-- a header
def leftOver : Holding Unit Unit where
  request := { emptyRequest with identity := some (some Verifier.sampleUser) }
  state := fresh

def twoCalls : List (Action Unit Unit) :=
  [.process 0, .setHeaders none none, .process 0]

theorem outcomes_leftOver {o : Outcome}
    (ho : (gatewayOf "lab").outcome leftOver.state leftOver.request 0 = .ok o) :
    leftOver.outcomes (gatewayOf "lab") twoCalls = [o, .unauthenticated] := by
  have hkept := Holding.request_next (g := gatewayOf "lab") (h := leftOver) rfl
    (.process 0)
  have huri : (leftOver.next (gatewayOf "lab") (.process 0)).request.uri
      = .ok (.text (.ofList ['/'])) := by
    rw [hkept]
    rfl
  have hsecond := outcome_of_no_header (gatewayOf "lab")
    (leftOver.next (gatewayOf "lab") (.process 0)).state 0
    (r := ((leftOver.next (gatewayOf "lab") (.process 0)).next
      (gatewayOf "lab") (.setHeaders none none)).request) huri rfl
  rw [twoCalls, Holding.outcomes_cons, Holding.outcomes_process, ho, Holding.outcomes_cons,
    Holding.outcomes_process]
  exact congrArg (fun second : Except Failure Outcome => [o] ++ ([] ++ second.toOption.toList))
    hsecond

theorem identity_by_latest_decision_sample :
    leftOver.request.acceptsIdentity = true ∧
    (∀ state username e,
      (gatewayOf "lab").store.reply state username ≠ .broken e) ∧
    (∃ o, leftOver.outcomes (gatewayOf "lab") twoCalls = [o, .unauthenticated] ∧
      o.status = .rejected) ∧
    (leftOver.after (gatewayOf "lab") twoCalls).request
      = { leftOver.request with headers := none, environ := none, identity := some none } := by
  have hstore : ∀ state username e,
      (gatewayOf "lab").store.reply state username ≠ .broken e :=
    fun _ => contract_sampleStore
  obtain ⟨o, ho, hs, -⟩ := verify_emptyRequest
  have houtcomes := outcomes_leftOver (outcome_emptyRequest "lab" ho)
  have hlatest : Outcome.latestDecision? [o, .unauthenticated] = some o := by
    simp [Outcome.latestDecision?, Outcome.Decides, Outcome.unauthenticated, hs]
  obtain ⟨hafter, -⟩ := identity_by_latest_decision (gatewayOf "lab") leftOver twoCalls
    rfl hstore
  refine ⟨rfl, hstore, ⟨o, houtcomes, hs⟩, ?_⟩
  simp only [hafter, houtcomes, hlatest, hs]
  rfl

end Gateway

end HttpDigest
