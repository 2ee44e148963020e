import HttpDigest.Proofs.Checks

namespace HttpDigest.Verifier

-- In a list, the first element of a kind is one of the kind with none of it before
theorem find?_eq_some_iff_takeWhile {α : Type} [DecidableEq α] {p : α → Bool} {k : α}
    {l : List α} (hk : k ∈ l) :
    l.find? p = some k ↔ p k = true ∧ ∀ j ∈ l.takeWhile (· ≠ k), p j = false := by
  induction l with
  | nil => cases hk
  | cons x rest ih =>
      rw [List.find?_cons, List.takeWhile_cons]
      by_cases hx : x = k
      · subst hx
        cases hp : p x with
        | true => simp
        | false =>
            refine iff_of_false (fun hf => ?_) (by simp)
            simpa [hp] using List.find?_some hf
      · have hrest : k ∈ rest := (List.mem_cons.mp hk).resolve_left fun he => hx he.symm
        cases hp : p x with
        | true => simp [hx, hp]
        | false => simp [hx, hp, ih hrest]

theorem Check.mem_all (check : Check) : check ∈ all := by
  cases check <;> decide

theorem Situation.firstFailing?_eq_some_iff {s : Situation} {check : Check} :
    s.firstFailing? = some check ↔
      check.passes s = false ∧ ∀ other ∈ check.before, other.passes s = true := by
  rw [firstFailing?, find?_eq_some_iff_takeWhile check.mem_all]
  simp [Check.before]

theorem Situation.firstFailing?_eq_none_iff {s : Situation} :
    s.firstFailing? = none ↔ ∀ check : Check, check.passes s = true := by
  simp [firstFailing?, List.find?_eq_none, Check.mem_all]

section Ending

variable {σ : Type} {s : Situation} {store : Store σ} {state : σ} {header : String}
  {a : Authorization} {t : Ticket} {c : Credential}

-- A header that is refused ends the call with the reason of the refusal
theorem outcome_of_refusal {refusal : Refusal} (hh : s.header? = some header)
    (he : examine s.config header = .error refusal)
    (hu : refusal.username = s.directive? "username") :
    (verify s.config store s.cache state s.attempt).outcome
      = s.rejection refusal.reason refusal.values := by
  rw [Verification.outcome_of_quiet (quiet_verify_of_refusal hh he), Situation.rejection, hh, ← hu]
  rfl

theorem outcome_of_scheme_fails (hf : Check.scheme.passes s = false) :
    (verify s.config store s.cache state s.attempt).outcome = Check.scheme.ending s := by
  have hn : s.header? = none := by simpa [Check.passes] using hf
  exact Verification.outcome_of_quiet (quiet_verify_of_no_scheme hn)

theorem outcome_of_mandatory_fails (hh : s.header? = some header)
    (hf : Check.mandatory.passes s = false) :
    (verify s.config store s.cache state s.attempt).outcome = Check.mandatory.ending s := by
  obtain ⟨name, hm, hn⟩ := exists_missing_of_fails hh hf
  obtain ⟨notes, he⟩ := @examine_of_missing s.config header name hm hn
  exact outcome_of_refusal hh he (directive?_of_header hh "username").symm

section Header

variable (hh : s.header? = some header) (hr : a.ReadFrom (Directives.read header))
include hh hr

theorem directive?_username : s.directive? "username" = some a.username := by
  rw [directive?_of_header hh, hr.username]

theorem outcome_of_forAuth_fails (hf : Check.forAuth.passes s = false) :
    (verify s.config store s.cache state s.attempt).outcome = Check.forAuth.ending s := by
  have hnot : ¬(a.qop = some Response.authQop → a.nc.isSome ∧ a.cnonce.isSome) := fun h => by
    simp [(forAuth_passes_iff hh hr).mpr h] at hf
  obtain ⟨hq, hn⟩ := Classical.not_imp.mp hnot
  obtain ⟨notes, he⟩ := @examine_of_incomplete s.config header a hr hq hn
  exact outcome_of_refusal hh he (directive?_username hh hr).symm

theorem outcome_of_protection_fails (hf : Check.protection.passes s = false) :
    (verify s.config store s.cache state s.attempt).outcome = Check.protection.ending s := by
  have hnot : ¬(a.qop = none ∨ a.qop = some Response.authQop) := fun h => by
    simp [(protection_passes_iff hh hr).mpr h] at hf
  obtain ⟨hnone, hauth⟩ := not_or.mp hnot
  rw [outcome_of_refusal hh (examine_of_unsupported hr hnone hauth)
    (directive?_username hh hr).symm, Check.ending, directive?_of_header hh, hr.qop]

variable (hp : a.Protected)
include hp

theorem outcome_of_realm_fails (hf : Check.realm.passes s = false) :
    (verify s.config store s.cache state s.attempt).outcome = Check.realm.ending s := by
  have hrealm : s.config.realm ≠ .text a.realm := fun h => by
    simp [(realm_passes_iff hh hr).mpr h] at hf
  rw [outcome_of_refusal hh (examine_of_foreign hr hp hrealm) (directive?_username hh hr).symm,
    Check.ending, directive?_of_header hh, hr.realm]
  rfl

variable (hrealm : Check.realm.passes s = true)
include hrealm

theorem outcome_of_undecodable {e : Nonce.DecodeError} (hd : Nonce.decode a.nonce = .error e) :
    (verify s.config store s.cache state s.attempt).outcome = s.rejection (.ofDecodeError e)
      [("nonce", .ofText? (s.directive? "nonce")), ("plaintext", .text e.plaintext)] := by
  rw [outcome_of_refusal hh (examine_of_undecodable hr hp ((realm_passes_iff hh hr).mp hrealm) hd)
    (directive?_username hh hr).symm, directive?_of_header hh, hr.nonce]
  rfl

theorem outcome_of_encoding_fails (hf : Check.encoding.passes s = false) :
    (verify s.config store s.cache state s.attempt).outcome = Check.encoding.ending s :=
  outcome_of_undecodable hh hr hp hrealm (decode_of_encoding_fails hh hr hf)

theorem outcome_of_form_fails (he : Check.encoding.passes s = true)
    (hf : Check.form.passes s = false) :
    (verify s.config store s.cache state s.attempt).outcome = Check.form.ending s := by
  obtain ⟨e, hd, hreason, htext⟩ := decode_of_form_fails hh hr he hf
  rw [outcome_of_undecodable hh hr hp hrealm hd, hreason, htext]
  rfl

variable (hform : Check.form.passes s = true)
include hform

theorem outcome_of_expiry_fails (hf : Check.expiry.passes s = false) :
    (verify s.config store s.cache state s.attempt).outcome = Check.expiry.ending s := by
  obtain ⟨text, second, ht, -, hd⟩ := exists_parts_of_form_passes hh hr hform
  have hexpiry : s.expiry? = none := by simpa [Check.passes] using hf
  rw [hexpiry] at hd
  rw [outcome_of_undecodable hh hr hp hrealm hd, Check.ending, ht]
  rfl

theorem outcome_of_signature_fails (he : Check.expiry.passes s = true)
    (hf : Check.signature.passes s = false) :
    (verify s.config store s.cache state s.attempt).outcome = Check.signature.ending s := by
  obtain ⟨text, second, ht, hsecond, hd⟩ := exists_parts_of_form_passes hh hr hform
  obtain ⟨expiry, hexpiry⟩ := Option.isSome_iff_exists.mp he
  rw [hexpiry] at hd
  have hsigned : Nonce.isSignedWith ⟨expiry, second, text⟩ s.config.secret.plain = false := by
    simp only [Check.passes, hexpiry, hsecond, Option.any_some, beq_eq_false_iff_ne, ne_eq,
      Option.some.injEq] at hf
    exact decide_eq_false fun h => hf h.symm
  have hx := examine_of_decoded hr hp ((realm_passes_iff hh hr).mp hrealm) hd
  rw [if_neg (by simp [hsigned])] at hx
  rw [outcome_of_refusal hh hx (directive?_username hh hr).symm, Check.ending, ht]
  rfl

end Header

section Ticket

variable (hs : s.reply = store.reply state) (hh : s.header? = some t.header)
  (hx : Examined s.config t)

include hh hx in
theorem cached?_of_ticket : s.cached? = s.cache.get? t.answer.username := by
  rw [Situation.cached?, directive?_username hh hx.readFrom, Option.bind_some]

include hh hx in
theorem reply?_of_ticket : s.reply? = some (s.reply t.answer.username) := by
  rw [Situation.reply?, directive?_username hh hx.readFrom, Option.map_some]

include hh hx in
theorem found?_of_ticket : s.found? = some c ↔ s.reply t.answer.username = .found c := by
  rw [Situation.found?, reply?_of_ticket hh hx]
  cases s.reply t.answer.username <;> simp

-- The credential that answers is one that the call finds
theorem answering?_eq_some_iff : s.answering? = some c ↔
    (s.cached? = some c ∧ s.answers c = true) ∨
    ((∀ d, s.cached? = some d → s.answers d = false) ∧ s.found? = some c ∧ s.answers c = true) := by
  simp only [Situation.answering?, Option.or_eq_some_iff, Option.filter_eq_some_iff,
    Option.filter_eq_none_iff, Bool.not_eq_true]

include hs hh hx

theorem outcome_of_answering (hc : s.answering? = some c) :
    (verify s.config store s.cache state s.attempt).outcome = .ok (ruling s.attempt.now t c) := by
  refine (Verification.outcome_of_quiet (quiet_verify_of_ticket hh hx)).trans ?_
  have ha : ∀ d, s.answers d = true ↔ Answers s.config s.attempt.method t d := fun d =>
    answers_iff hh hx.readFrom
  rcases answering?_eq_some_iff.mp hc with ⟨hget, hans⟩ | ⟨hnot, hfound, hans⟩
  · rw [cached?_of_ticket hh hx] at hget
    exact Verification.outcome_of_quiet (quiet_settle_of_cached hget ((ha c).mp hans))
  · rw [found?_of_ticket hh hx, hs] at hfound
    refine Verification.outcome_of_quiet
      (quiet_settle_of_found hx.isProtected ?_ hfound ((ha c).mp hans))
    intro d hd hd'
    rw [← cached?_of_ticket hh hx] at hd
    exact Bool.eq_false_iff.mp (hnot d hd) ((ha d).mpr hd')

theorem outcome_of_no_answering (hc : s.answering? = none) :
    (verify s.config store s.cache state s.attempt).outcome = Check.digest.ending s := by
  have ha : ∀ d, Answers s.config s.attempt.method t d → s.answers d = true := fun d =>
    (answers_iff hh hx.readFrom).mpr
  have hnot : ∀ d, s.answers d = true → s.cached? ≠ some d ∧ s.found? ≠ some d := by
    intro d hd
    simp only [Situation.answering?, Option.or_eq_none_iff, Option.filter_eq_none_iff] at hc
    exact ⟨fun h => hc.1 d h hd, fun h => hc.2 d h hd⟩
  have hu : Unanswered s.config s.cache s.attempt.method t := by
    intro d hd hd'
    rw [← cached?_of_ticket hh hx] at hd
    exact (hnot d (ha d hd')).1 hd
  have hr : ∀ d, store.reply state t.answer.username = .found d →
      ¬Answers s.config s.attempt.method t d := by
    intro d hd hd'
    rw [← hs, ← found?_of_ticket hh hx] at hd
    exact (hnot d (ha d hd')).2 hd
  have hquiet := (quiet_verify_of_ticket hh hx).trans
    (quiet_settle_of_refused hx.isProtected hu hr)
  rw [Verification.outcome_of_quiet hquiet, Check.ending, reply?_of_ticket hh hx, hh,
    directive?_username hh hx.readFrom, hs]
  rfl

end Ticket

theorem exists_readFrom_of_before (hb : ∀ check ∈ Check.before .forAuth, check.passes s = true) :
    ∃ (header : String) (a : Authorization), s.header? = some header ∧
      a.ReadFrom (Directives.read header) := by
  obtain ⟨header, hh⟩ := Option.isSome_iff_exists.mp (hb .scheme (by decide))
  obtain ⟨a, hr⟩ := exists_readFrom_of_passes hh (hb .mandatory (by decide))
  exact ⟨header, a, hh, hr⟩

theorem exists_protected_of_before (hb : ∀ check ∈ Check.before .realm, check.passes s = true) :
    ∃ (header : String) (a : Authorization), s.header? = some header ∧
      a.ReadFrom (Directives.read header) ∧ a.Protected := by
  have hsub : Check.before .forAuth ⊆ Check.before .realm := by decide
  obtain ⟨header, a, hh, hr⟩ := exists_readFrom_of_before fun check hm => hb check (hsub hm)
  exact ⟨header, a, hh, hr,
    protected_of_passes hh hr (hb .forAuth (by decide)) (hb .protection (by decide))⟩

theorem exists_ticket_of_before
    (hb : ∀ check ∈ Check.before .credential, check.passes s = true) :
    ∃ t : Ticket, s.header? = some t.header ∧ Examined s.config t ∧
      s.expiry? = some t.nonce.expiry := by
  have hsub : Check.before .realm ⊆ Check.before .credential := by decide
  obtain ⟨header, a, hh, hr, hp⟩ := exists_protected_of_before fun check hm => hb check (hsub hm)
  obtain ⟨n, hexpiry, hx⟩ := examined_of_passes hh hr hp (hb .realm (by decide))
    (hb .form (by decide)) (hb .expiry (by decide)) (hb .signature (by decide))
  exact ⟨⟨header, a, n⟩, hh, hx, hexpiry⟩

theorem answering?_of_credential_fails (hf : Check.credential.passes s = false) :
    s.answering? = none := by
  simp only [Check.passes, Bool.or_eq_false_iff, Option.isSome_eq_false_iff,
    Option.isNone_iff_eq_none] at hf
  simp [Situation.answering?, hf.1, hf.2]

-- The check that a call fails first settles its outcome
theorem outcome_of_firstFailing (hs : s.reply = store.reply state) {check : Check}
    (h : s.firstFailing? = some check) :
    (verify s.config store s.cache state s.attempt).outcome = check.ending s := by
  obtain ⟨hf, hb⟩ := Situation.firstFailing?_eq_some_iff.mp h
  have hback : ∀ other : Check, other.before ⊆ check.before →
      ∀ k ∈ other.before, k.passes s = true := fun other hsub k hk => hb k (hsub hk)
  cases check with
  | scheme => exact outcome_of_scheme_fails hf
  | mandatory =>
      obtain ⟨header, hh⟩ := Option.isSome_iff_exists.mp (hb .scheme (by decide))
      exact outcome_of_mandatory_fails hh hf
  | forAuth =>
      obtain ⟨header, a, hh, hr⟩ := exists_readFrom_of_before hb
      exact outcome_of_forAuth_fails hh hr hf
  | protection =>
      obtain ⟨header, a, hh, hr⟩ := exists_readFrom_of_before (hback .forAuth (by decide))
      exact outcome_of_protection_fails hh hr hf
  | realm =>
      obtain ⟨header, a, hh, hr, hp⟩ := exists_protected_of_before hb
      exact outcome_of_realm_fails hh hr hp hf
  | encoding =>
      obtain ⟨header, a, hh, hr, hp⟩ := exists_protected_of_before (hback .realm (by decide))
      exact outcome_of_encoding_fails hh hr hp (hb .realm (by decide)) hf
  | form =>
      obtain ⟨header, a, hh, hr, hp⟩ := exists_protected_of_before (hback .realm (by decide))
      exact outcome_of_form_fails hh hr hp (hb .realm (by decide)) (hb .encoding (by decide)) hf
  | expiry =>
      obtain ⟨header, a, hh, hr, hp⟩ := exists_protected_of_before (hback .realm (by decide))
      exact outcome_of_expiry_fails hh hr hp (hb .realm (by decide)) (hb .form (by decide)) hf
  | signature =>
      obtain ⟨header, a, hh, hr, hp⟩ := exists_protected_of_before (hback .realm (by decide))
      exact outcome_of_signature_fails hh hr hp (hb .realm (by decide)) (hb .form (by decide))
        (hb .expiry (by decide)) hf
  | credential =>
      obtain ⟨t, hh, hx, -⟩ := exists_ticket_of_before hb
      exact outcome_of_no_answering hs hh hx (answering?_of_credential_fails hf)
  | digest =>
      obtain ⟨t, hh, hx, -⟩ := exists_ticket_of_before (hback .credential (by decide))
      exact outcome_of_no_answering hs hh hx (by simpa [Check.passes] using hf)
  | time =>
      obtain ⟨t, hh, hx, hexpiry⟩ := exists_ticket_of_before (hback .credential (by decide))
      obtain ⟨c, hc⟩ := Option.isSome_iff_exists.mp (hb .digest (by decide))
      have hlate : t.nonce.expiry < s.attempt.now := by
        simpa [Check.passes, hexpiry] using hf
      rw [outcome_of_answering hs hh hx hc, ruling_of_lt hlate, Check.ending, Situation.rejection,
        hh, directive?_username hh hx.readFrom]
      rfl

-- With none failed the call accepts
theorem outcome_of_none_failing (hs : s.reply = store.reply state) (h : s.firstFailing? = none) :
    ∃ header c, s.header? = some header ∧ s.answering? = some c ∧
      (verify s.config store s.cache state s.attempt).outcome = .ok (.accepted c header) := by
  have hpass := Situation.firstFailing?_eq_none_iff.mp h
  obtain ⟨t, hh, hx, hexpiry⟩ := exists_ticket_of_before fun check _ => hpass check
  obtain ⟨c, hc⟩ := Option.isSome_iff_exists.mp (hpass .digest)
  have htime : s.attempt.now ≤ t.nonce.expiry := by
    simpa [Check.passes, hexpiry] using hpass .time
  refine ⟨t.header, c, hh, hc, ?_⟩
  rw [outcome_of_answering hs hh hx hc, ruling_of_le htime]

end Ending

-- A call that agrees with another on all that the checks read, up to the first that fails, fails
-- the same one first
theorem firstFailing?_congr {s t : Situation} {check : Check} (h : s.firstFailing? = some check)
    (hagree : ∀ other ∈ check.before ++ [check], other.Agree s t) :
    t.firstFailing? = some check := by
  obtain ⟨hf, hb⟩ := Situation.firstFailing?_eq_some_iff.mp h
  refine Situation.firstFailing?_eq_some_iff.mpr ⟨?_, fun other hm => ?_⟩
  · rw [← passes_congr (hagree check (List.mem_append_right _ (List.mem_singleton_self check)))]
    exact hf
  · rw [← passes_congr (hagree other (List.mem_append_left _ hm))]
    exact hb other hm

-- The checks count in their order: the first that fails alone has a say, so that what only
-- later ones read can be anything, and a call is accepted if none fails
theorem verify_first_failing_decides {σ : Type} (config : Config) (store : Store σ)
    (cache : Cache) (state : σ) (attempt : Attempt) :
    (∀ check : Check, (situation config store cache state attempt).firstFailing? = some check →
      (verify config store cache state attempt).outcome
        = check.ending (situation config store cache state attempt) ∧
      ∀ {τ : Type} (config' : Config) (store' : Store τ) (cache' : Cache) (state' : τ)
        (attempt' : Attempt),
        (∀ other ∈ check.before ++ [check],
          other.Agree (situation config store cache state attempt)
            (situation config' store' cache' state' attempt')) →
        (situation config' store' cache' state' attempt').firstFailing? = some check ∧
        (verify config' store' cache' state' attempt').outcome
          = (verify config store cache state attempt).outcome) ∧
    ((situation config store cache state attempt).firstFailing? = none →
      ∃ header c, (situation config store cache state attempt).header? = some header ∧
        (situation config store cache state attempt).answering? = some c ∧
        (verify config store cache state attempt).outcome = .ok (.accepted c header)) := by
  refine ⟨fun check h => ?_,
    outcome_of_none_failing (s := situation config store cache state attempt) rfl⟩
  have houtcome : (verify config store cache state attempt).outcome
      = check.ending (situation config store cache state attempt) :=
    outcome_of_firstFailing (s := situation config store cache state attempt) rfl h
  refine ⟨houtcome, fun config' store' cache' state' attempt' hagree => ?_⟩
  have h' := firstFailing?_congr h hagree
  have houtcome' : (verify config' store' cache' state' attempt').outcome
      = check.ending (situation config' store' cache' state' attempt') :=
    outcome_of_firstFailing (s := situation config' store' cache' state' attempt') rfl h'
  have hlast := hagree check (List.mem_append_right _ (List.mem_singleton_self check))
  refine ⟨h', houtcome'.trans ?_⟩
  rw [← ending_congr hlast (Situation.firstFailing?_eq_some_iff.mp h).1]
  exact houtcome.symm

end HttpDigest.Verifier
