import HttpDigest.Proofs.ClientHeader
import HttpDigest.Proofs.Separation

namespace HttpDigest

instance (cs : List Char) : Decidable (Directives.Closed cs) :=
  decidable_of_iff (Directives.Scan.outside.unbroken ',' cs = true ∧
      Directives.Scan.outside.run cs = .outside)
    ⟨fun ⟨hu, hc⟩ => ⟨hu, hc⟩, fun hc => ⟨hc.unbroken, hc.closes⟩⟩

namespace Client

-- A value whose quotes keep its commas together
def Unbroken (v : String) : Prop :=
  Directives.Scan.outside.unbroken ',' (quote v).toList = true

-- One whose quotes end besides with the last one
def Enclosed (v : String) : Prop :=
  Directives.Closed (quote v).toList

instance (v : String) : Decidable (Unbroken v) :=
  inferInstanceAs (Decidable (_ = true))

instance (v : String) : Decidable (Enclosed v) :=
  inferInstanceAs (Decidable (Directives.Closed _))

theorem Quotable.enclosed {v : String} (hq : Quotable v) : Enclosed v :=
  closed_quote hq

theorem Enclosed.unbroken {v : String} (he : Enclosed v) : Unbroken v :=
  Directives.Closed.unbroken he

theorem closed_quoted_iff {name : String} (hn : Directives.IsName name) (v : String) :
    Directives.Closed (quoted name v).toList ↔ Enclosed v := by
  rw [quoted, toList_bare]
  exact Directives.IsName.closed_append_iff hn

theorem unbroken_quoted_iff {name : String} (hn : Directives.IsName name) (v : String) :
    Directives.Scan.outside.unbroken ',' (quoted name v).toList = true ↔ Unbroken v := by
  rw [quoted, toList_bare, Directives.IsName.unbroken_append hn]
  rfl

namespace Texts

-- The texts that a header can bring across with a nonce. Whatever stands last may leave its
-- quotes open.
@[mk_iff]
structure Legible (t : Texts) (token : String) : Prop where
  username : Enclosed t.username
  realm : Enclosed t.realm
  nonce : Enclosed token
  uri : Enclosed t.uri
  opaqueText : ∀ v, t.opaqueText = some v → if t.qop = none then Unbroken v else Enclosed v
  cnonce : ∀ v, t.qop ≠ none → t.cnonce = some v → Unbroken v

variable {t : Texts} {token response : String}

theorem Writable.legible (w : t.Writable) (ht : Quotable token) :
    t.Legible token := by
  refine ⟨w.username.enclosed, w.realm.enclosed, ht.enclosed, w.uri.enclosed, ?_, ?_⟩
  · intro v hv
    split
    · exact (w.opaqueText v hv).enclosed.unbroken
    · exact (w.opaqueText v hv).enclosed
  · intro v hq hv
    rcases w.protection with hnone | ⟨-, ⟨cnonce, hc, hquotable⟩, -⟩
    · exact absurd hnone hq
    · obtain rfl : cnonce = v := Option.some.inj (hc.symm.trans hv)
      exact hquotable.enclosed.unbroken

-- The five quoted texts that every header carries, the response among them, with what follows
theorem separable_always_append (hr : Quotable response) (rest : List String) :
    Directives.Separable ([quoted "username" t.username, quoted "realm" t.realm,
        quoted "nonce" token, quoted "uri" t.uri, quoted "response" response] ++ rest) ↔
      Enclosed t.username ∧ Enclosed t.realm ∧ Enclosed token ∧ Enclosed t.uri ∧
        Directives.Separable rest := by
  cases rest with
  | nil =>
      simp (disch := decide) only [List.append_nil, Directives.Separable, closed_quoted_iff,
        unbroken_quoted_iff, hr.enclosed.unbroken]
  | cons next rest =>
      simp (disch := decide) only [List.cons_append, List.nil_append, Directives.Separable,
        closed_quoted_iff, hr.enclosed, true_and]

section Protected

variable (h : t.Protects)
include h

theorem Protects.writes :
    List.Forall₂ Directives.Writes (t.written token response) (t.entries token response) := by
  refine List.rel_append (List.rel_append ?_ ?_) ?_
  · refine .cons (.quoted (by decide) _) ?_
    refine .cons (.quoted (by decide) _) ?_
    refine .cons (.quoted (by decide) _) ?_
    refine .cons (.quoted (by decide) _) ?_
    exact .cons (.quoted (by decide) _) .nil
  · cases t.opaqueText with
    | none => exact .nil
    | some v => exact .cons (.quoted (by decide) _) .nil
  · cases hq : t.qop with
    | none => exact .nil
    | some qop =>
        have hauth : Directives.Plain qop := by
          rcases h with hnone | ⟨hsome, -, -⟩
          · rw [hq] at hnone
            cases hnone
          · obtain rfl : qop = Response.authQop := Option.some.inj (hq.symm.trans hsome)
            decide
        refine .cons (.plain (by decide) hauth) ?_
        refine .cons (.plain (by decide) (h.plain_countText (by simp [hq]))) ?_
        exact .cons (.quoted (by decide) _) .nil

-- The parts of such a header come apart just if the texts allow it
theorem Protects.separable_written_iff (hr : Quotable response) :
    Directives.Separable (t.written token response) ↔ t.Legible token := by
  rw [legible_iff, written, List.append_assoc, separable_always_append hr]
  refine and_congr Iff.rfl (and_congr Iff.rfl (and_congr Iff.rfl (and_congr Iff.rfl ?_)))
  -- what is left are the parts that not every header has
  rcases id h with hq | ⟨hq, ⟨cnonce, hc⟩, -⟩
  · cases ho : t.opaqueText with
    | none => simp [hq, Directives.Separable]
    | some v =>
        have hlast := unbroken_quoted_iff (by decide : Directives.IsName "opaque") v
        simp [hq, Directives.Separable, hlast]
  · have hqop : Directives.Closed (bare "qop" Response.authQop).toList := by decide
    have hnc : Directives.Closed (bare "nc" t.countText).toList :=
      (Directives.says_plain (by decide) (h.plain_countText (by simp [hq]))).closed
    have hlast := unbroken_quoted_iff (by decide : Directives.IsName "cnonce") cnonce
    cases ho : t.opaqueText with
    | none => simp [hq, hc, Directives.Separable, hqop, hnc, hlast]
    | some v =>
        have hopaque := closed_quoted_iff (by decide : Directives.IsName "opaque") v
        simp [hq, hc, Directives.Separable, hopaque, hqop, hnc, hlast]

theorem Protects.quotable (hr : Response.compute (t.client token).input = .ok response) :
    Quotable response := by
  obtain ⟨found, hfound, hquotable⟩ := h.exists_response token
  rw [hr] at hfound
  obtain rfl := Except.ok.inj hfound
  exact hquotable

theorem Protects.read_written_iff (hr : Quotable response) :
    Directives.read (", ".intercalate (t.written token response)) = t.entries token response ↔
      t.Legible token :=
  (Directives.read_intercalate_iff h.writes (t.nodup_entries token response)).trans
    (h.separable_written_iff hr)

end Protected

theorem Writable.read_written (w : t.Writable) (ht : Quotable token) (hr : Quotable response) :
    Directives.read (", ".intercalate (t.written token response)) = t.entries token response :=
  (w.protects.read_written_iff hr).mpr (w.legible ht)

-- Every such client gets its header out. The header is read as what it was made of exactly if
-- the texts are legible; if they are not then one of its directives is lost or altered.
theorem header_read_back_iff_legible (t : Texts) (token : String) (h : t.Protects) :
    ∃ response header found, Response.compute (t.client token).input = .ok response ∧
      (t.client token).header = .ok header ∧
      Directives.ofHeader? header = some found ∧
      (found = t.entries token response ↔ t.Legible token) ∧
      (¬t.Legible token → ∃ entry ∈ t.entries token response,
        found.get? entry.1 ≠ some entry.2) := by
  obtain ⟨response, hr, hquotable⟩ := h.exists_response token
  refine ⟨response, _, _, hr, h.header_eq hr, Directives.ofHeader?_scheme _,
    h.read_written_iff hquotable, ?_⟩
  intro hnot
  by_contra! hall
  refine hnot ((h.separable_written_iff hquotable).mp ?_)
  exact Directives.separable_of_get? h.writes (t.nodup_entries token response) hall

-- A client with quotes and a comma within its texts. What stands last ends in a backslash, so its
-- quotes stay open, and still all is read back.
def openEnded : Texts where
  username := "ann \"x, y\""
  realm := "lab=1"
  password := "pw"
  method := "GET"
  uri := "/a,b"
  opaqueText := some "o\\"

theorem openEnded_legible : openEnded.Legible "n" :=
  ⟨by decide, by decide, by decide, by decide, fun v hv => by
    obtain rfl := Option.some.inj hv
    decide, fun v hq => absurd rfl hq⟩

theorem header_read_back_iff_legible_sample :
    openEnded.Protects ∧ openEnded.Legible "n" ∧
    ∃ response header, Response.compute (openEnded.client "n").input = .ok response ∧
      (openEnded.client "n").header = .ok header ∧
      Directives.ofHeader? header = some (openEnded.entries "n" response) := by
  have hprotects : openEnded.Protects := .inl rfl
  obtain ⟨response, header, found, hr, hheader, hfound, hiff, -⟩ :=
    header_read_back_iff_legible openEnded "n" hprotects
  rw [hiff.mpr openEnded_legible] at hfound
  exact ⟨hprotects, openEnded_legible, response, header, hr, hheader, hfound⟩

def AlwaysReadBack : Prop :=
  ∀ (t : Texts) (token : String), t.Protects →
    ∃ response header, Response.compute (t.client token).input = .ok response ∧
      (t.client token).header = .ok header ∧
      Directives.ofHeader? header = some (t.entries token response)

-- A name that ends in a backslash takes the quote behind it with it
theorem not_alwaysReadBack : ¬AlwaysReadBack := by
  intro hall
  let t : Texts := ⟨"a\\", "r", "p", "GET", "/", none, none, none, none, false⟩
  have hprotects : t.Protects := .inl rfl
  obtain ⟨response, header, hr, hheader, hread⟩ := hall t "n" hprotects
  rw [hprotects.header_eq hr] at hheader
  obtain rfl := Except.ok.inj hheader
  rw [Directives.ofHeader?_scheme] at hread
  have hlegible := (hprotects.read_written_iff (hprotects.quotable hr)).mp (Option.some.inj hread)
  exact absurd hlegible.username (by decide)

end Texts

end Client

end HttpDigest
