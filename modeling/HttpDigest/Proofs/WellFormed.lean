import HttpDigest.Challenger
import HttpDigest.Proofs.Refresh

namespace HttpDigest

def Reason.internal : List Reason := [serviceMisconfigured, credentialStoreError]

theorem Reason.not_mem_internal_of_mem_early {reason : Reason} (h : reason ∈ early) :
    reason ∉ internal := by
  revert h
  cases reason <;> decide

-- The code under which a nonce is reported as unreadable is that of a reason
theorem Nonce.DecodeError.ofCode?_report (e : DecodeError) :
    ∃ code : String, e.report.code = code ∧
      Reason.ofCode? code = some (Reason.ofDecodeError e) := by
  refine ⟨(Reason.ofDecodeError e).code, ?_, Reason.ofCode?_code _⟩
  cases e <;> rfl

theorem Authorization.exists_of_missingMandatory_eq_nil {directives : OrderedMap String String}
    (h : missingMandatory directives = []) : ∃ a, ofDirectives directives = .ok a := by
  have hpresent : ∀ name ∈ mandatory, directives.get? name ≠ none := by
    intro name hm hn
    have hmem : name ∈ missingMandatory directives := by
      simp [missingMandatory, missing, hm, OrderedMap.contains, hn]
    rw [h] at hmem
    cases hmem
  obtain ⟨a, hr⟩ := exists_readFrom hpresent
  exact ⟨a, ofDirectives_eq_ok_iff.mpr hr⟩

namespace Outcome

-- An outcome that has to be answered in place of the handler
def Refused (o : Outcome) : Prop :=
  o.status = .rejected ∨ o.status = .error

instance (o : Outcome) : Decidable o.Refused :=
  inferInstanceAs (Decidable (o.status = .rejected ∨ o.status = .error))

theorem not_refused_iff {o : Outcome} :
    ¬o.Refused ↔ o.status = .authenticated ∨ o.status = .unauthenticated := by
  unfold Refused
  cases o.status <;> simp

-- Which parts an outcome has hangs on its status alone
structure WellFormed (o : Outcome) : Prop where
  credential : o.credential.isSome ↔ o.status = .authenticated
  reason : o.reason.isSome ↔ o.Refused
  rejected : o.status = .rejected ↔ ∃ r, o.reason = some r ∧ r ∉ Reason.internal
  error : o.status = .error ↔ ∃ r, o.reason = some r ∧ r ∈ Reason.internal
  message : if o.Refused then ∃ text : String, o.message = text else o.message = .null
  header : if o.status = .unauthenticated then o.header = .null
    else ∃ text : String, o.header = text

variable {reason : Reason}

theorem wellFormed_unauthenticated : unauthenticated.WellFormed := by
  constructor <;> simp [unauthenticated, Refused]

theorem wellFormed_accepted (c : Credential) (header : String) :
    (accepted c header).WellFormed := by
  constructor <;> simp [accepted, Refused]

theorem wellFormed_rejection (h : reason ∉ Reason.internal) (header : String) (username : Value)
    (values : OrderedMap String Value) : (rejection reason header username values).WellFormed := by
  constructor <;> simp [rejection, Refused, h]

theorem wellFormed_failure (h : reason ∈ Reason.internal) (header : String) (username : Value) :
    (failure reason header username .null).WellFormed := by
  constructor <;> simp [failure, Refused, h, Value.orElse, Value.truthy]

end Outcome

-- What a store says to a lookup that brings no answering credential makes a well formed outcome,
-- unless the store breaks its contract
theorem Reply.wellFormed_or_broken (reply : Reply) (header : String) (username : Value) :
    (∃ o, reply.refusal header username = .ok o ∧ o.WellFormed) ∨ ∃ f, reply = .broken f := by
  cases reply with
  | found c => exact .inl ⟨_, rfl, Outcome.wellFormed_rejection (by decide) header username []⟩
  | nothing => exact .inl ⟨_, rfl, Outcome.wellFormed_failure (by decide) header username⟩
  | unknownUser report =>
      exact .inl ⟨_, rfl, Outcome.wellFormed_rejection (by decide) header username []⟩
  | misconfigured report =>
      exact .inl ⟨_, rfl, Outcome.wellFormed_failure (by decide) header username⟩
  | failed report => exact .inl ⟨_, rfl, Outcome.wellFormed_failure (by decide) header username⟩
  | broken f => exact .inr ⟨f, rfl⟩

-- A well formed refusal has an answer: an error of the server, or a challenge
theorem Challenger.status_commence {ν : Type} (c : Challenger) (supplier : Supplier ν) (nonces : ν)
    {o : Outcome} (hw : o.WellFormed) (hr : o.Refused) :
    ∃ reply, (c.commence supplier nonces o).1 = .ok reply ∧
      reply.status = if o.status = .error then 500 else 401 := by
  rcases hr with hs | hs
  · obtain ⟨reason, hreason, -⟩ := hw.rejected.mp hs
    refine ⟨c.challenge (supplier.nonce nonces) o.message o.isStale, ?_, ?_⟩
    · simp only [commence, step, hs, hreason]
    · simp [challenge, hs]
  · refine ⟨internalError, ?_, ?_⟩
    · simp only [commence, step, hs]
    · simp [internalError, hs]

namespace Verifier

variable {σ : Type}

theorem wellFormed_ruling (now : Int) (t : Ticket) (c : Credential) :
    (ruling now t c).WellFormed := by
  unfold ruling
  split
  · exact Outcome.wellFormed_rejection (by decide) t.header t.answer.username []
  · exact Outcome.wellFormed_accepted c t.header

-- A call ends with a well formed outcome, or with what the store broke its contract by
theorem wellFormed_or_broken (config : Config) (store : Store σ) (cache : Cache) (state : σ)
    (attempt : Attempt) :
    (∃ o, (verify config store cache state attempt).outcome = .ok o ∧ o.WellFormed) ∨
      ∃ username f, ((verify config store cache state attempt).asked = [username] ∧
        (verify config store cache state attempt).outcome = .error f) ∧
        store.reply state username = .broken f := by
  obtain ⟨v, hv, hcourse⟩ := exists_course config store cache state attempt
  rw [Verification.outcome_of_quiet hv, Verification.asked_of_quiet hv]
  cases hcourse with
  | passed hb => exact .inl ⟨_, rfl, Outcome.wellFormed_unauthenticated⟩
  | refused header refusal hb he =>
      have hr : refusal.reason ∉ Reason.internal :=
        Reason.not_mem_internal_of_mem_early (reason_mem_early he)
      exact .inl ⟨_, rfl, Outcome.wellFormed_rejection hr header _ refusal.values⟩
  | cached t c hb hx hc ha => exact .inl ⟨_, rfl, wellFormed_ruling attempt.now t c⟩
  | found t c hb hx hu hr ha => exact .inl ⟨_, rfl, wellFormed_ruling attempt.now t c⟩
  | denied t hb hx hu hr =>
      rcases (store.reply state t.answer.username).wellFormed_or_broken t.header
        t.answer.username with hok | ⟨f, hf⟩
      · exact .inl hok
      · exact .inr ⟨t.answer.username, f, ⟨rfl, by rw [hf]; rfl⟩, hf⟩

-- So whatever outcome there is has its parts
theorem wellFormed_of_ok {config : Config} {store : Store σ} {cache : Cache} {state : σ}
    {attempt : Attempt} {o : Outcome}
    (ho : (verify config store cache state attempt).outcome = .ok o) : o.WellFormed := by
  rcases wellFormed_or_broken config store cache state attempt with
    ⟨p, hp, hwell⟩ | ⟨-, f, ⟨-, hf⟩, -⟩
  · obtain rfl : p = o := Except.ok.inj (hp.symm.trans ho)
    exact hwell
  · cases hf.symm.trans ho

end Verifier

end HttpDigest
