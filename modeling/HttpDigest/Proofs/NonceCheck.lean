import HttpDigest.Proofs.Priority
import HttpDigest.Proofs.Staleness
import HttpDigest.Proofs.WellFormed

namespace HttpDigest

namespace Nonce

variable {token secret : String} {n : Nonce} {e : DecodeError} {now : Int}

theorem check_of_undecodable (hd : decode token = .error e) (secret : String) (now : Int) :
    check token secret now = .error e := by
  rw [check, hd]
  rfl

theorem check_of_decoded (hd : decode token = .ok n) (secret : String) (now : Int) :
    check token secret now = .ok (n.status secret now) := by
  rw [check, hd]
  rfl

theorem status_of_unsigned (hs : n.isSignedWith secret = false) (now : Int) :
    n.status secret now = .signatureMismatch := by
  simp [status, hs]

theorem status_of_le (hs : n.isSignedWith secret = true) (h : now ≤ n.expiry) :
    n.status secret now = .valid := by
  simp [status, hs, isExpired, Int.not_lt.mpr h]

theorem status_of_lt (hs : n.isSignedWith secret = true) (h : n.expiry < now) :
    n.status secret now = .expired := by
  simp [status, hs, isExpired, h]

-- What the check says at one time it says at all times, save that what is valid expires
theorem check_cases (token secret : String) :
    (∃ e, ∀ now, check token secret now = .error e) ∨
    (∀ now, check token secret now = .ok .signatureMismatch) ∨
    ∃ n, decode token = .ok n ∧ ∀ now,
      (now ≤ n.expiry → check token secret now = .ok .valid) ∧
      (n.expiry < now → check token secret now = .ok .expired) := by
  cases hd : decode token with
  | error e => exact .inl ⟨e, check_of_undecodable hd secret⟩
  | ok n =>
      cases hs : n.isSignedWith secret with
      | false =>
          refine .inr (.inl fun now => ?_)
          rw [check_of_decoded hd, status_of_unsigned hs]
      | true =>
          refine .inr (.inr ⟨n, rfl, fun now => ⟨fun h => ?_, fun h => ?_⟩⟩)
          · rw [check_of_decoded hd, status_of_le hs h]
          · rw [check_of_decoded hd, status_of_lt hs h]

end Nonce

namespace Reason

def unreadable : List Reason := [nonceNotBase64, nonceMalformed, nonceNotNumeric]

def ofNonce : List Reason := unreadable ++ [nonceSignatureInvalid, nonceExpired]

theorem ofDecodeError_mem (e : Nonce.DecodeError) : ofDecodeError e ∈ unreadable := by
  cases e <;> simp [ofDecodeError, unreadable]

-- The code of an error is that of one reason only
theorem code_report_iff {e : Nonce.DecodeError} {reason : Reason} :
    e.report.code = .text reason.code ↔ reason = ofDecodeError e := by
  obtain ⟨code, hcode, hof⟩ := e.ofCode?_report
  rw [hcode]
  constructor
  · intro h
    obtain rfl := Value.text.inj h
    rw [ofCode?_code] at hof
    exact Option.some.inj hof
  · rintro rfl
    rw [← hcode]
    cases e <;> rfl

end Reason

theorem Nonce.DecodeError.kind_report (e : DecodeError) : e.report.kind = .nonce := by
  cases e <;> rfl

-- What a reply makes of a request is not a reason that speaks of its header
theorem Reply.not_mem_early_of_refusal {header username : Value} {reply : Reply} {o : Outcome}
    {reason : Reason} (h : reply.refusal header username = .ok o) (hr : o.reason = some reason) :
    reason ∉ Reason.early := by
  cases reply <;> simp only [refusal, Except.ok.injEq, reduceCtorEq] at h <;> subst h <;>
    obtain rfl := Option.some.inj hr <;> decide

namespace Verifier

variable {σ : Type} {config : Config} {store : Store σ} {cache : Cache} {state : σ}
  {attempt : Attempt} {t : Ticket} {o : Outcome} {reason : Reason}

def Reports (outcome : Except Failure Outcome) (reason : Reason) : Prop :=
  ∃ o, outcome = .ok o ∧ o.status = .rejected ∧ o.reason = some reason

theorem reports_rejection_iff {other : Reason} {header username : Value}
    {values : OrderedMap String Value} :
    Reports (.ok (.rejection reason header username values)) other ↔ other = reason := by
  constructor
  · rintro ⟨o, ho, -, hr⟩
    obtain rfl := Except.ok.inj ho
    exact (Option.some.inj hr).symm
  · rintro rfl
    exact ⟨_, rfl, rfl, rfl⟩

-- An outcome has one status and one reason
theorem not_reports_of_isAccepted {outcome : Except Failure Outcome} (h : IsAccepted outcome) :
    ¬Reports outcome reason := by
  rintro ⟨o, ho, hs, -⟩
  obtain ⟨o', ho', hs'⟩ := h
  obtain rfl := Except.ok.inj (ho.symm.trans ho')
  cases hs.symm.trans hs'

-- Once a header has passed its checks there is no reason left that speaks of it alone
theorem not_mem_early_of_ticket (hb : attempt.authorization.bind Directives.body? = some t.header)
    (hx : Examined config t) (ho : (verify config store cache state attempt).outcome = .ok o)
    (hr : o.reason = some reason) : reason ∉ Reason.early := by
  obtain ⟨v, hv, hcourse⟩ := exists_course config store cache state attempt
  rw [Verification.outcome_of_quiet hv] at ho
  have hruled : ∀ (t : Ticket) (c : Credential), ruling attempt.now t c = o →
      reason ∉ Reason.early := by
    rintro t c rfl
    unfold ruling at hr
    split at hr
    · obtain rfl : Reason.nonceExpired = reason := Option.some.inj hr
      decide
    · cases hr
  cases hcourse with
  | passed hb' => cases hb.symm.trans hb'
  | refused header refusal hb' he =>
      obtain rfl := Option.some.inj (hb.symm.trans hb')
      cases he.symm.trans (examine_eq_ok_iff.mpr ⟨rfl, hx⟩)
  | cached t c hb' hx' hc ha => exact hruled t c (Except.ok.inj ho)
  | found t c hb' hx' hu hans ha => exact hruled t c (Except.ok.inj ho)
  | denied t hb' hx' hu hno => exact Reply.not_mem_early_of_refusal ho hr

-- Of a header that has passed them, an acceptance is made in time and an expiry too late
theorem time_of_ticket (hb : attempt.authorization.bind Directives.body? = some t.header)
    (hx : Examined config t) :
    (IsAccepted (verify config store cache state attempt).outcome →
      attempt.now ≤ t.nonce.expiry) ∧
    (IsExpired (verify config store cache state attempt).outcome →
      t.nonce.expiry < attempt.now) := by
  have hruled : ∀ o, (verify config store cache state attempt).outcome = .ok o → ¬o.Timeless →
      ∃ c, o = ruling attempt.now t c := by
    intro o ho ht
    obtain ⟨t', c, hb', hx', rfl, -, -⟩ := exists_ruling ho ht
    obtain rfl := hx.unique hb hb' hx'
    exact ⟨c, rfl⟩
  constructor
  · rintro ⟨o, ho, hs⟩
    obtain ⟨c, rfl⟩ := hruled o ho fun ht => ht.1 hs
    exact (isAccepted_ruling_iff attempt.now).mp ⟨_, rfl, hs⟩
  · rintro ⟨o, ho, hs, hr⟩
    obtain ⟨c, rfl⟩ := hruled o ho fun ht => ht.2 hr
    exact (isExpired_ruling_iff attempt.now).mp ⟨_, rfl, hs, hr⟩

-- What a call says of a nonce that is checked on its own
structure Agrees (outcome : Except Failure Outcome)
    (checked : Except Nonce.DecodeError Nonce.Status) :
    Prop where
  unreadable : ∀ reason ∈ Reason.unreadable, Reports outcome reason ↔
    ∃ e, checked = .error e ∧ e.report.kind = .nonce ∧ e.report.code = .text reason.code
  unsigned : Reports outcome .nonceSignatureInvalid ↔ checked = .ok .signatureMismatch
  accepted : IsAccepted outcome → checked = .ok .valid
  expired : Reports outcome .nonceExpired → checked = .ok .expired
  valid : checked = .ok .valid → ∀ o, outcome = .ok o → ∀ reason ∈ Reason.ofNonce,
    o.reason ≠ some reason

theorem agrees_of_undecodable {e : Nonce.DecodeError} {header username : Value}
    {values : OrderedMap String Value} :
    Agrees (.ok (.rejection (.ofDecodeError e) header username values)) (.error e) := by
  have hmem := Reason.ofDecodeError_mem e
  refine ⟨fun reason _ => ?_, ?_, fun h => ?_, fun h => ?_, fun h => nomatch h⟩
  · rw [reports_rejection_iff, ← Reason.code_report_iff]
    constructor
    · exact fun h => ⟨e, rfl, e.kind_report, h⟩
    · rintro ⟨e', he, -, hcode⟩
      obtain rfl := Except.error.inj he
      exact hcode
  · rw [reports_rejection_iff]
    refine ⟨fun h => ?_, fun h => nomatch h⟩
    rw [← h] at hmem
    exact absurd hmem (by decide)
  · exact absurd (reports_rejection_iff.mpr rfl) (not_reports_of_isAccepted h)
  · rw [← reports_rejection_iff.mp h] at hmem
    exact absurd hmem (by decide)

theorem agrees_of_unsigned {header username : Value} {values : OrderedMap String Value} :
    Agrees (.ok (.rejection .nonceSignatureInvalid header username values))
      (.ok .signatureMismatch) := by
  refine ⟨fun reason hm => ?_, ?_, fun h => ?_, fun h => ?_, fun h => nomatch h⟩
  · rw [reports_rejection_iff]
    constructor
    · rintro rfl
      exact absurd hm (by decide)
    · rintro ⟨e, he, -⟩
      cases he
  · exact ⟨fun _ => rfl, fun _ => reports_rejection_iff.mpr rfl⟩
  · exact absurd (reports_rejection_iff.mpr rfl) (not_reports_of_isAccepted h)
  · cases reports_rejection_iff.mp h

theorem agrees_of_ticket (hb : attempt.authorization.bind Directives.body? = some t.header)
    (hx : Examined config t) :
    Agrees (verify config store cache state attempt).outcome
      (.ok (t.nonce.status config.secret.plain attempt.now)) := by
  have hnot : ∀ reason ∈ Reason.early,
      ¬Reports (verify config store cache state attempt).outcome reason :=
    fun reason hm ⟨_, ho, _, hr⟩ => not_mem_early_of_ticket hb hx ho hr hm
  have hexpired : Reports (verify config store cache state attempt).outcome .nonceExpired →
      t.nonce.status config.secret.plain attempt.now = .expired := fun h =>
    Nonce.status_of_lt hx.signed ((time_of_ticket hb hx).2 h)
  have hsub : Reason.unreadable ⊆ Reason.early := by decide
  have hsigned : t.nonce.status config.secret.plain attempt.now ≠ .signatureMismatch := by
    by_cases hle : attempt.now ≤ t.nonce.expiry
    · rw [Nonce.status_of_le hx.signed hle]
      decide
    · rw [Nonce.status_of_lt hx.signed (Int.not_le.mp hle)]
      decide
  refine ⟨fun reason hm => ?_, ?_, fun h => ?_, fun h => congrArg _ (hexpired h), ?_⟩
  · refine ⟨fun h => absurd h (hnot reason (hsub hm)), ?_⟩
    rintro ⟨e, he, -⟩
    cases he
  · exact ⟨fun h => absurd h (hnot _ (by decide)), fun h => absurd (Except.ok.inj h) hsigned⟩
  · exact congrArg _ (Nonce.status_of_le hx.signed ((time_of_ticket hb hx).1 h))
  · intro hvalid o ho reason hm hr
    simp only [Reason.ofNonce, List.mem_append, List.mem_cons, List.not_mem_nil, or_false] at hm
    rcases hm with hm | rfl | rfl
    · exact not_mem_early_of_ticket hb hx ho hr (hsub hm)
    · exact not_mem_early_of_ticket hb hx ho hr (by decide)
    · have hs := rejected_of_nonceExpired ho hr
      cases (Except.ok.inj hvalid).symm.trans (hexpired ⟨o, ho, hs, hr⟩)

theorem agrees_of_realm {header : String} {a : Authorization}
    (hb : attempt.authorization.bind Directives.body? = some header)
    (hr : a.ReadFrom (Directives.read header)) (hp : a.Protected)
    (hrealm : config.realm = .text a.realm) :
    Agrees (verify config store cache state attempt).outcome
      (Nonce.check a.nonce config.secret.plain attempt.now) := by
  cases hd : Nonce.decode a.nonce with
  | error e =>
      rw [Nonce.check_of_undecodable hd, Verification.outcome_of_quiet
        (quiet_verify_of_refusal hb (examine_of_undecodable hr hp hrealm hd))]
      exact agrees_of_undecodable
  | ok n =>
      have hx := examine_of_decoded hr hp hrealm hd
      cases hs : n.isSignedWith config.secret.plain with
      | false =>
          rw [if_neg (by simp [hs])] at hx
          rw [Nonce.check_of_decoded hd, Nonce.status_of_unsigned hs,
            Verification.outcome_of_quiet (quiet_verify_of_refusal hb hx)]
          exact agrees_of_unsigned
      | true =>
          rw [Nonce.check_of_decoded hd]
          exact agrees_of_ticket (t := ⟨header, a, n⟩) hb ⟨hr, hp, hrealm, hd, hs⟩

-- Of a header that gets as far as its nonce, a call reports what a check of the nonce alone says,
-- with the same code; only the time is left to the end. And what the check says of a nonce hangs
-- on the time only if it can be read and is signed: it is valid up to its expiry and expired from
-- then on.
theorem verify_agrees_with_check (config : Config) (store : Store σ) (cache : Cache) (state : σ)
    (attempt : Attempt) :
    ((∀ check ∈ Check.before .encoding,
        check.passes (situation config store cache state attempt) = true) →
      ∃ token, (situation config store cache state attempt).directive? "nonce" = some token ∧
        Agrees (verify config store cache state attempt).outcome
          (Nonce.check token config.secret.plain attempt.now)) ∧
    ∀ token secret,
      (∃ e, ∀ now, Nonce.check token secret now = .error e) ∨
      (∀ now, Nonce.check token secret now = .ok .signatureMismatch) ∨
      ∃ n, Nonce.decode token = .ok n ∧ ∀ now,
        (now ≤ n.expiry → Nonce.check token secret now = .ok .valid) ∧
        (n.expiry < now → Nonce.check token secret now = .ok .expired) := by
  refine ⟨fun h => ?_, Nonce.check_cases⟩
  have hsub : Check.before .realm ⊆ Check.before .encoding := by decide
  obtain ⟨header, a, hh, hr, hp⟩ := exists_protected_of_before fun check hm => h check (hsub hm)
  have hrealm := (realm_passes_iff hh hr).mp (h .realm (by decide))
  exact ⟨a.nonce, (directive?_of_header hh "nonce").trans hr.nonce,
    agrees_of_realm hh hr hp hrealm⟩

theorem sample_header : (situation sampleConfig sampleStore .empty () sampleAttempt).header?
    = some sampleTicket.header :=
  Directives.bind_body?_scheme sampleTicket.header

theorem sample_passes : ∀ check ∈ Check.before .encoding,
    check.passes (situation sampleConfig sampleStore .empty () sampleAttempt) = true := by
  have hh := sample_header
  have hr := sampleTicket_examined.readFrom
  have hbefore : Check.before .encoding = [.scheme, .mandatory, .forAuth, .protection, .realm] := by
    decide
  simp only [hbefore, List.forall_mem_cons, List.not_mem_nil, false_implies, implies_true, and_true]
  refine ⟨?_, ?_, (forAuth_passes_iff hh hr).mpr (fun h => nomatch h),
    (protection_passes_iff hh hr).mpr (.inl rfl), (realm_passes_iff hh hr).mpr rfl⟩
  · rw [Check.passes, hh]
    rfl
  · simp [Check.passes, Authorization.mandatory, directive?_of_header hh, hr.username, hr.realm,
      hr.nonce, hr.uri, hr.response]

theorem verify_agrees_with_check_sample :
    (∀ check ∈ Check.before .encoding,
      check.passes (situation sampleConfig sampleStore .empty () sampleAttempt) = true) ∧
    Agrees (verify sampleConfig sampleStore .empty () sampleAttempt).outcome
      (Nonce.check sampleTicket.answer.nonce "s" 5) ∧
    IsAccepted (verify sampleConfig sampleStore .empty () sampleAttempt).outcome ∧
    Nonce.check sampleTicket.answer.nonce "s" 5 = .ok .valid := by
  obtain ⟨token, htoken, hagrees⟩ :=
    (verify_agrees_with_check sampleConfig sampleStore .empty () sampleAttempt).1 sample_passes
  have hnonce : (situation sampleConfig sampleStore .empty () sampleAttempt).directive? "nonce"
      = some sampleTicket.answer.nonce :=
    (directive?_of_header sample_header "nonce").trans sampleTicket_examined.readFrom.nonce
  obtain rfl := Option.some.inj (hnonce.symm.trans htoken)
  have haccepted : IsAccepted (verify sampleConfig sampleStore .empty () sampleAttempt).outcome :=
    ⟨_, sample_verified, rfl⟩
  exact ⟨sample_passes, hagrees, haccepted, hagrees.accepted haccepted⟩

end Verifier

end HttpDigest
