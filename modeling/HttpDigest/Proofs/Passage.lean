import HttpDigest.Gateway
import HttpDigest.Proofs.Challenge
import HttpDigest.Proofs.WellFormed

namespace HttpDigest

theorem Directives.headerText_ofText? (authorization : Option String) :
    headerText (.ofText? authorization) = .ok authorization := by
  cases authorization <;> rfl

namespace Challenger

variable {ν : Type} {c : Challenger} {supplier : Supplier ν} {nonces : ν} {o : Outcome}

theorem commence_supply_of_rejected {reason : Reason} (hs : o.status = .rejected)
    (hr : o.reason = some reason) :
    (c.commence supplier nonces o).2.1 = supplier.next nonces := by
  simp only [commence, step, hs, hr]

theorem commence_of_error (hs : o.status = .error) :
    (c.commence supplier nonces o).1 = .ok internalError := by
  simp only [commence, step, hs]

theorem commence_supply_of_error (hs : o.status = .error) :
    (c.commence supplier nonces o).2.1 = nonces := by
  simp only [commence, step, hs]

-- The two replies to a refusal: a challenge to the client, or an error of the server
theorem parts_of_commence {reply : Reply} (hr : o.Refused)
    (h : (c.commence supplier nonces o).1 = .ok reply) :
    o.status = .rejected ∧ reply.status = 401 ∧
        (∃ value, reply.headers = [(challengeHeader, value)]) ∨
      o.status = .error ∧ reply.status = 500 ∧ reply.headers = [] := by
  rcases hr with hs | hs
  · obtain ⟨hstatus, hheaders⟩ := Challenges.parts_eq (.refused hs h)
    exact .inl ⟨hs, hstatus, _, hheaders⟩
  · obtain rfl := Except.ok.inj (commence_of_error hs |>.symm.trans h)
    exact .inr ⟨hs, rfl, rfl⟩

end Challenger

namespace Gateway

variable {σ ν : Type} {g : Gateway σ ν} {s : State σ ν} {r : Request} {now : Int} {o : Outcome}

def verification (g : Gateway σ ν) (s : State σ ν) (r : Request) (uri : Value) (now : Int) :
    Verifier.Verification σ :=
  Verifier.verifyValue g.config g.store s.cache s.store r.authorization r.methodName uri (.int now)

def outcome (g : Gateway σ ν) (s : State σ ν) (r : Request) (now : Int) :
    Except Failure Outcome :=
  match r.uri with
  | .error f => .error (.fault f)
  | .ok uri => (g.verification s r uri now).outcome

theorem verification_of_headerText {authorization : Option String}
    (h : Directives.headerText r.authorization = .ok authorization) (uri : Value) :
    g.verification s r uri now
      = Verifier.verify g.config g.store s.cache s.store
          ⟨authorization, r.methodName, uri, now⟩ := by
  rw [verification, Verifier.verifyValue, Verifier.verifyOf, h]
  rfl

-- Behind an outcome stands a call of the verifier
theorem outcome_eq_ok_iff : g.outcome s r now = .ok o ↔
    ∃ uri authorization, r.uri = .ok uri ∧
      Directives.headerText r.authorization = .ok authorization ∧
      (Verifier.verify g.config g.store s.cache s.store
        ⟨authorization, r.methodName, uri, now⟩).outcome = .ok o := by
  constructor
  · intro h
    cases hu : r.uri with
    | error f => simp [outcome, hu] at h
    | ok uri =>
        simp only [outcome, hu] at h
        cases ha : Directives.headerText r.authorization with
        | error f => simp [verification, Verifier.verifyValue, Verifier.verifyOf, ha] at h
        | ok authorization =>
            rw [verification_of_headerText ha] at h
            exact ⟨uri, authorization, rfl, rfl, h⟩
  · rintro ⟨uri, authorization, hu, ha, ho⟩
    rw [outcome, hu]
    simp only [verification_of_headerText ha, ho]

theorem wellFormed_of_outcome (h : g.outcome s r now = .ok o) : o.WellFormed := by
  obtain ⟨uri, authorization, -, -, ho⟩ := outcome_eq_ok_iff.mp h
  exact Verifier.wellFormed_of_ok ho

-- The courses that a request can take, by its outcome: each with the ruling, the request as it
-- is afterwards, and what is left of the supply of nonces. Only a challenge takes one.
inductive Course (g : Gateway σ ν) (nonces : ν) (r : Request) :
    Except Failure Outcome → Except Failure Ruling → Request → ν → Prop
  | failed (f : Failure) : Course g nonces r (.error f) (.error f) r nonces
  | accepted (o : Outcome) (c : Credential) (hs : o.status = .authenticated)
      (hc : o.credential = some c) :
      Course g nonces r (.ok o) (.ok ⟨o, none⟩) (r.attach (some c)) nonces
  | challenged (o : Outcome) (reason : Reason) (hs : o.status = .rejected)
      (hr : o.reason = some reason) :
      Course g nonces r (.ok o)
        (.ok ⟨o, some (g.challenger.challenge (g.supplier.nonce nonces) o.message o.isStale)⟩)
        (r.attach none) (g.supplier.next nonces)
  | errored (o : Outcome) (hs : o.status = .error) :
      Course g nonces r (.ok o) (.ok ⟨o, some Challenger.internalError⟩) (r.attach none) nonces
  | passed (o : Outcome) (hs : o.status = .unauthenticated) :
      Course g nonces r (.ok o) (.ok ⟨o, none⟩) r nonces

theorem rule_course (g : Gateway σ ν) (s : State σ ν) (r : Request) (hw : o.WellFormed) :
    Course g s.nonces r (.ok o) (g.rule s r o).ruling (g.rule s r o).request
      (g.rule s r o).state.nonces := by
  cases hs : o.status with
  | authenticated =>
      obtain ⟨c, hc⟩ := Option.isSome_iff_exists.mp (hw.credential.mpr hs)
      simp only [rule, hs, hc]
      exact .accepted o c hs hc
  | rejected =>
      obtain ⟨reason, hr, -⟩ := hw.rejected.mp hs
      simp only [rule, hs, Challenger.commence_of_rejected hs hr,
        Challenger.commence_supply_of_rejected hs hr]
      exact .challenged o reason hs hr
  | unauthenticated =>
      simp only [rule, hs]
      exact .passed o hs
  | error =>
      simp only [rule, hs, Challenger.commence_of_error hs, Challenger.commence_supply_of_error hs]
      exact .errored o hs

-- Every request takes one of them
theorem process_course (g : Gateway σ ν) (s : State σ ν) (r : Request) (now : Int) :
    Course g s.nonces r (g.outcome s r now) (g.process s r now).ruling (g.process s r now).request
      (g.process s r now).state.nonces := by
  cases hu : r.uri with
  | error f =>
      simp only [process, outcome, hu]
      exact .failed (.fault f)
  | ok uri =>
      cases ho : g.outcome s r now with
      | error f =>
          have hv := ho
          simp only [outcome, hu, verification] at hv
          simp only [process, hu, hv]
          exact .failed f
      | ok o =>
          have hv := ho
          simp only [outcome, hu, verification] at hv
          simp only [process, hu, hv]
          let v := g.verification s r uri now
          exact rule_course g ⟨v.cache, v.store, s.nonces⟩ r (wellFormed_of_outcome ho)

-- So a request is passed on just if its outcome is no refusal, and a refusal is answered by the
-- challenger
theorem ruling_of_outcome (h : g.outcome s r now = .ok o) :
    (¬o.Refused ∧ (g.process s r now).ruling = .ok ⟨o, none⟩) ∨
      (o.Refused ∧ ∃ reply, (g.process s r now).ruling = .ok ⟨o, some reply⟩ ∧
        (g.challenger.commence g.supplier s.nonces o).1 = .ok reply) := by
  have hcourse := g.process_course s r now
  rw [h] at hcourse
  generalize (g.process s r now).ruling = ruling, (g.process s r now).request = request,
    (g.process s r now).state.nonces = nonces at hcourse ⊢
  cases hcourse with
  | accepted o c hs hc => exact .inl ⟨by simp [Outcome.Refused, hs], rfl⟩
  | challenged o reason hs hr =>
      exact .inr ⟨.inl hs, _, rfl, Challenger.commence_of_rejected hs hr⟩
  | errored o hs => exact .inr ⟨.inr hs, _, rfl, Challenger.commence_of_error hs⟩
  | passed o hs => exact .inl ⟨by simp [Outcome.Refused, hs], rfl⟩

def gatewayOf (realm : String) : Gateway Unit Unit where
  config := Verifier.sampleConfig
  store := Verifier.sampleStore
  challenger := ⟨realm, Response.authQop, .null⟩
  supplier := ⟨fun _ => "N", id⟩

def fresh : State Unit Unit := ⟨.empty, (), ()⟩

def emptyRequest : Request where
  headers := some (.table [("Authorization", .text (Directives.scheme ++ "x"))])
  method := some (.text "GET")
  fullPath := some (.text (.ofList ['/']))

theorem contract_sampleStore (username : String) (e : Failure) :
    Verifier.sampleStore.reply () username ≠ .broken e :=
  fun h => nomatch h

theorem authorization_emptyRequest :
    emptyRequest.authorization = .ofText? (some (Directives.scheme ++ "x")) := by
  have hname : Text.lower "Authorization" = "authorization" := by decide +kernel
  simp [emptyRequest, Request.authorization, Request.findIgnoringCase, hname, Value.ofText?]

theorem verify_emptyRequest : ∃ o,
    (∀ uri, (Verifier.verify Verifier.sampleConfig Verifier.sampleStore .empty ()
      ⟨some (Directives.scheme ++ "x"), Text.upper "GET", uri, 0⟩).outcome = .ok o) ∧
    o.status = .rejected ∧ o.isStale = false := by
  have hmissing : (Directives.read "x").get? "username" = none := by decide
  obtain ⟨notes, he⟩ := Verifier.examine_of_missing (by decide) hmissing
  have hbody : (some (Directives.scheme ++ "x")).bind Directives.body? = some "x" :=
    Directives.bind_body?_scheme "x"
  have hv := fun uri => Verifier.Verification.outcome_of_quiet
    (@Verifier.quiet_verify_of_refusal _ Verifier.sampleConfig Verifier.sampleStore .empty ()
      ⟨_, Text.upper "GET", uri, 0⟩ _ _ hbody he)
  exact ⟨_, hv, rfl, rfl⟩

theorem outcome_emptyRequest {o : Outcome} (realm : String)
    (ho : ∀ uri, (Verifier.verify Verifier.sampleConfig Verifier.sampleStore .empty ()
      ⟨some (Directives.scheme ++ "x"), Text.upper "GET", uri, 0⟩).outcome = .ok o) :
    (gatewayOf realm).outcome fresh emptyRequest 0 = .ok o := by
  have hheader : Directives.headerText emptyRequest.authorization
      = .ok (some (Directives.scheme ++ "x")) := by
    rw [authorization_emptyRequest, Directives.headerText_ofText?]
  exact outcome_eq_ok_iff.mpr ⟨_, _, rfl, hheader, ho _⟩

end Gateway

end HttpDigest
