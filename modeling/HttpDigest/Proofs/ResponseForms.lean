import HttpDigest.Proofs.AnswerWords
import HttpDigest.Proofs.Legibility

namespace HttpDigest

namespace Client.Texts

variable {t : Texts} {token : String}

def counted (t : Texts) : Texts :=
  { t with nc := some t.countText }

theorem counted_eq (h : t.nc ≠ none) : t.counted = t := by
  obtain ⟨count, hn⟩ := Option.ne_none_iff_exists'.mp h
  have hcount : t.countText = count := by
    rw [countText, hn, Option.getD_some]
  cases t
  simp_all [counted]

-- The digest of these is the response of the header
theorem compute_counted (hq : t.qop = none ∨ t.qop = some Response.authQop) :
    Response.compute (t.counted.client token).plainInput
      = Response.compute (t.client token).input := by
  rcases hq with hq | hq
  · have hnull : (t.client token).qop = .null := congrArg Value.ofText? hq
    rw [Response.compute_of_null hnull, Response.compute_of_null hnull]
    rfl
  · have hsame : (t.counted.client token).plainInput = (t.client token).input := by
      rw [input, count_eq hq]
      rfl
    rw [hsame]

-- Without protection no count is used, and a count that was named needs no other
theorem compute_plainInput (hq : t.qop = none ∨ t.qop = some Response.authQop)
    (h : t.qop = none ∨ t.nc ≠ none) :
    Response.compute (t.client token).plainInput = Response.compute (t.client token).input := by
  rw [← compute_counted hq]
  rcases h with h | h
  · have hnull : (t.client token).qop = .null := congrArg Value.ofText? h
    rw [Response.compute_of_null hnull, Response.compute_of_null hnull]
    rfl
  · rw [counted_eq h]

-- Texts that can be asked about: there is no backslash in what is quoted, and a count stands as it
-- is. A command line names no opaque text, and no protection but the one that is known.
structure Askable (t : Texts) (token : String) : Prop where
  username : '\\' ∉ t.username.toList
  realm : '\\' ∉ t.realm.toList
  nonce : '\\' ∉ token.toList
  uri : '\\' ∉ t.uri.toList
  cnonce : ∀ v, t.cnonce = some v → '\\' ∉ v.toList
  count : ∀ v, t.nc = some v → Directives.Plain v
  qop : t.qop = none ∨ t.qop = some Response.authQop
  opaqueText : t.opaqueText = none

-- A header needs a client nonce if it has a quality of protection
theorem Askable.writable (h : Askable t token) (hc : t.qop = none ∨ t.cnonce ≠ none) :
    t.Writable where
  username := quotable_of_not_mem h.username
  realm := quotable_of_not_mem h.realm
  uri := quotable_of_not_mem h.uri
  opaqueText v hv := by
    rw [h.opaqueText] at hv
    cases hv
  protection := by
    rcases h.qop with hq | hq
    · exact .inl hq
    · obtain ⟨cnonce, hcnonce⟩ := Option.ne_none_iff_exists'.mp
        (hc.resolve_left (by simp [hq]))
      exact .inr ⟨hq, ⟨cnonce, hcnonce, quotable_of_not_mem (h.cnonce cnonce hcnonce)⟩, h.count⟩

-- There is a response for a header exactly if it has the client nonce that it needs
theorem Askable.exists_response_iff (h : Askable t token) :
    (∃ response, Response.compute (t.client token).input = .ok response) ↔
      t.qop = none ∨ t.cnonce ≠ none := by
  constructor
  · rintro ⟨response, hr⟩
    by_contra! hnot
    have hq : (t.client token).input.qop = .text Response.authQop :=
      congrArg Value.ofText? (h.qop.resolve_left hnot.1)
    rw [Response.compute_of_incomplete hq (.inr (congrArg Value.ofText? hnot.2))] at hr
    cases hr
  · intro hc
    obtain ⟨response, hr, -⟩ := (h.writable hc).protects.exists_response token
    exact ⟨response, hr⟩

-- Without the count that it needs there is no digest
theorem Askable.compute_of_uncounted (h : Askable t token) (hq : t.qop ≠ none) (hn : t.nc = none) :
    Response.compute (t.client token).plainInput
      = .error (.incomplete .null (.ofText? t.cnonce)) := by
  have hauth : (t.client token).plainInput.qop = .text Response.authQop :=
    congrArg Value.ofText? (h.qop.resolve_left hq)
  have hnull : (t.client token).plainInput.nc = .null := congrArg Value.ofText? hn
  rw [Response.compute_of_incomplete hauth (.inl hnull), hnull]
  rfl

end Client.Texts

namespace CommandLine

open Client (Texts)

variable {e : Environment} {words : List String} {client : Client} {t : Texts} {token : String}
  {asHeader : Bool}

def printed (e : Environment) : Except Response.Error String → Ending
  | .ok text => ⟨0, line text, "", e.keyring⟩
  | .error cause => ⟨1, "", line ("Error: " ++ cause.report.text), e.keyring⟩

theorem run_digestForm (hp : parse words = .ok (.response client false)) :
    run e words = .ok (printed e (Response.compute client.plainInput)) := by
  cases hc : Response.compute client.plainInput with
  | ok response => simp [run, hp, runCommand, runResponse, hc, done, printed]
  | error cause => simp [run, hp, runCommand, runResponse, hc, printed]

def headerOf (t : Texts) (token response : String) : String :=
  Directives.scheme ++ ", ".intercalate (t.written token response)

theorem run_headerForm (h : t.Askable token)
    (hp : parse words = .ok (.response (t.client token) true)) :
    run e words
      = .ok (printed e ((Response.compute (t.client token).input).map (headerOf t token))) := by
  cases hc : Response.compute (t.client token).input with
  | ok response =>
      have hheader : (t.client token).header = .ok (headerOf t token response) :=
        (h.writable (h.exists_response_iff.mp ⟨response, hc⟩)).protects.header_eq hc
      simp [run, hp, runCommand, runResponse, hheader, Except.bind, done, Except.map, printed]
  | error cause =>
      have hheader : (t.client token).header = .error (.report cause.report) := by
        rw [Client.header, hc]
      simp [run, hp, runCommand, runResponse, hheader, Except.bind, Except.map, printed]

-- What a form ends with, whatever words ask for it, and there are such words
structure Ends (e : Environment) (t : Texts) (token : String) (asHeader : Bool) (ending : Ending) :
    Prop where
  asked : ∃ words, parse words = .ok (.response (t.client token) asHeader)
  ends : ∀ words, parse words = .ok (.response (t.client token) asHeader) → run e words = .ok ending

-- The two forms agree: either both fail, or the digest is the response that the header is read to
-- carry
structure FormsAgree (digestForm headerForm : Ending) : Prop where
  together : digestForm.code = 0 ↔ headerForm.code = 0
  same : digestForm.code = 0 → ∃ digest header found, digestForm.out = line digest ∧
    headerForm.out = line header ∧ Directives.ofHeader? header = some found ∧
      found.get? "response" = some digest

theorem Ends.unique {ending other : Ending} (h : Ends e t token asHeader ending)
    (ho : Ends e t token asHeader other) : ending = other := by
  obtain ⟨words, hp⟩ := h.asked
  exact Except.ok.inj ((h.ends words hp).symm.trans (ho.ends words hp))

theorem code_printed_iff {x : Except Response.Error String} :
    (printed e x).code = 0 ↔ ∃ text, x = .ok text := by
  cases x <;> simp [printed]

theorem code_printed_map_iff {x : Except Response.Error String} {f : String → String} :
    (printed e (x.map f)).code = 0 ↔ (printed e x).code = 0 := by
  cases x <;> simp [printed, Except.map]

theorem ends_digestForm (hq : t.qop = none ∨ t.qop = some Response.authQop)
    (ho : t.opaqueText = none) : Ends e t token false
      (printed e (Response.compute (t.client token).plainInput)) :=
  ⟨⟨_, parse_settings hq ho⟩, fun _ hp => run_digestForm hp⟩

section Askable

variable (h : t.Askable token)
include h

theorem ends_headerForm : Ends e t token true
    (printed e ((Response.compute (t.client token).input).map (headerOf t token))) :=
  ⟨⟨_, parse_settings h.qop h.opaqueText⟩, fun _ hp => run_headerForm h hp⟩

-- The header with a response is read to carry it
theorem get?_response {response : String}
    (hr : Response.compute (t.client token).input = .ok response) :
    ∃ found, Directives.ofHeader? (headerOf t token response) = some found ∧
      found.get? "response" = some response := by
  have hw : t.Writable := h.writable (h.exists_response_iff.mp ⟨response, hr⟩)
  have hread := hw.read_written (Client.quotable_of_not_mem h.nonce) (hw.protects.quotable hr)
  refine ⟨_, Directives.ofHeader?_scheme _, ?_⟩
  rw [hread]
  exact (t.readFrom_entries token response).response

-- A header agrees with the digest that it was made with
theorem formsAgree_printed : FormsAgree (printed e (Response.compute (t.client token).input))
    (printed e ((Response.compute (t.client token).input).map (headerOf t token))) := by
  refine ⟨code_printed_map_iff.symm, fun hcode => ?_⟩
  obtain ⟨response, hr⟩ := code_printed_iff.mp hcode
  obtain ⟨found, hfound, hresponse⟩ := get?_response h hr
  rw [hr]
  exact ⟨response, _, found, rfl, rfl, hfound, hresponse⟩

theorem code_headerForm_iff :
    (printed e ((Response.compute (t.client token).input).map (headerOf t token))).code = 0 ↔
      t.qop = none ∨ t.cnonce ≠ none := by
  rw [code_printed_map_iff, code_printed_iff, h.exists_response_iff]

theorem code_digestForm_iff :
    (printed e (Response.compute (t.client token).plainInput)).code = 0 ↔
      t.qop = none ∨ t.cnonce ≠ none ∧ t.nc ≠ none := by
  by_cases hcount : t.qop = none ∨ t.nc ≠ none
  · rw [Client.Texts.compute_plainInput h.qop hcount, code_printed_iff, h.exists_response_iff]
    rcases hcount with hq | hn
    · simp [hq]
    · simp [hn]
  · obtain ⟨hq, hn⟩ := not_or.mp hcount
    rw [h.compute_of_uncounted hq (not_not.mp hn), code_printed_iff]
    refine iff_of_false (fun ⟨_, hok⟩ => nomatch hok) ?_
    rintro (hq' | ⟨-, hn'⟩)
    · exact hq hq'
    · exact hn hn'

theorem formsAgree_iff : FormsAgree (printed e (Response.compute (t.client token).plainInput))
      (printed e ((Response.compute (t.client token).input).map (headerOf t token))) ↔
    t.qop = none ∨ t.cnonce = none ∨ t.nc ≠ none := by
  constructor
  · intro hagree
    by_contra! hnot
    obtain ⟨hq, hc, hn⟩ := hnot
    have hheader := (code_headerForm_iff (e := e) h).mpr (.inr hc)
    rcases (code_digestForm_iff h).mp (hagree.together.mpr hheader) with hq' | ⟨-, hn'⟩
    · exact hq hq'
    · exact hn' hn
  · intro hcase
    by_cases hcount : t.qop = none ∨ t.nc ≠ none
    · rw [Client.Texts.compute_plainInput h.qop hcount]
      exact formsAgree_printed h
    · -- the client nonce is missing as well, so both of them fail
      obtain ⟨hq, hn⟩ := not_or.mp hcount
      have hc : t.cnonce = none := (hcase.resolve_left hq).resolve_right hn
      have hdigest := (code_digestForm_iff (e := e) h).not.mpr (by simp [hq, hc])
      have hheader := (code_headerForm_iff (e := e) h).not.mpr (by simp [hq, hc])
      exact ⟨iff_of_false hdigest hheader, fun hcode => absurd hcode hdigest⟩

end Askable

-- With a count that is named the two forms agree, and so they do where no count is used. Without
-- one only the header is written, with the count of a first request, and it agrees with the digest
-- for this count.
theorem forms_agree_iff_counted (e : Environment) (t : Texts) (token : String)
    (h : t.Askable token) :
    ∃ digestForm headerForm countedForm, Ends e t token false digestForm ∧
      Ends e t token true headerForm ∧ Ends e t.counted token false countedForm ∧
      (headerForm.code = 0 ↔ t.qop = none ∨ t.cnonce ≠ none) ∧
      (digestForm.code = 0 ↔ t.qop = none ∨ t.cnonce ≠ none ∧ t.nc ≠ none) ∧
      (FormsAgree digestForm headerForm ↔ t.qop = none ∨ t.cnonce = none ∨ t.nc ≠ none) ∧
      FormsAgree countedForm headerForm := by
  refine ⟨_, _, _, ends_digestForm h.qop h.opaqueText, ends_headerForm h,
    ends_digestForm (t := t.counted) h.qop h.opaqueText, code_headerForm_iff h,
    code_digestForm_iff h, formsAgree_iff h, ?_⟩
  rw [Client.Texts.compute_counted h.qop]
  exact formsAgree_printed h

def uncounted : Texts where
  username := "ann \"x, y\""
  realm := "lab=1"
  password := "p\\w"
  method := "GET"
  uri := "/a,b"
  qop := some Response.authQop
  cnonce := some " c\n"

theorem uncounted_askable : uncounted.Askable "n" where
  username := by decide
  realm := by decide
  nonce := by decide
  uri := by decide
  cnonce v hv := by
    obtain rfl := Option.some.inj hv
    decide
  count v hv := nomatch hv
  qop := .inr rfl
  opaqueText := rfl

theorem forms_agree_iff_counted_sample : uncounted.Askable "n" ∧ ∀ e : Environment,
    ∃ digestForm headerForm countedForm, Ends e uncounted "n" false digestForm ∧
      Ends e uncounted "n" true headerForm ∧ Ends e uncounted.counted "n" false countedForm ∧
      digestForm.code ≠ 0 ∧ headerForm.code = 0 ∧ FormsAgree countedForm headerForm := by
  refine ⟨uncounted_askable, fun e => ?_⟩
  obtain ⟨digestForm, headerForm, countedForm, hd, hh, hc, hheader, hdigest, -, hagree⟩ :=
    forms_agree_iff_counted e uncounted "n" uncounted_askable
  exact ⟨digestForm, headerForm, countedForm, hd, hh, hc, mt hdigest.mp (by decide),
    hheader.mpr (by decide), hagree⟩

def FormsAlwaysAgree : Prop :=
  ∀ (e : Environment) (t : Texts) (token : String), t.Askable token →
    ∃ digestForm headerForm, Ends e t token false digestForm ∧ Ends e t token true headerForm ∧
      FormsAgree digestForm headerForm

-- Without a count there is a header and no digest
theorem not_formsAlwaysAgree : ¬FormsAlwaysAgree := by
  intro hall
  let e : Environment := ⟨.plain, 5, fun _ => [], {}, fun _ => none⟩
  obtain ⟨digestForm, headerForm, hd, hh, hagree⟩ := hall e uncounted "n" uncounted_askable
  obtain rfl := hd.unique (ends_digestForm uncounted_askable.qop uncounted_askable.opaqueText)
  obtain rfl := hh.unique (ends_headerForm uncounted_askable)
  have hcode := hagree.together.mpr ((code_headerForm_iff uncounted_askable).mpr (by decide))
  exact absurd ((code_digestForm_iff uncounted_askable).mp hcode) (by decide)

end CommandLine

end HttpDigest
