import HttpDigest.Proofs.Challenge
import HttpDigest.Proofs.Separation
import Mathlib.Data.List.Infix

namespace HttpDigest

namespace Directives

-- No delimiter breaks a text if the scan stands within quotes before each of them
theorem Scan.unbroken_iff {s : Scan} {delimiter : Char} (hd : delimiter ≠ '"') {cs : List Char} :
    s.unbroken delimiter cs = true ↔
      ∀ before after, cs = before ++ delimiter :: after → s.run before ≠ .outside := by
  induction cs generalizing s with
  | nil => simp [Scan.unbroken]
  | cons c cs ih =>
      rw [Scan.unbroken, Bool.and_eq_true, Bool.not_eq_true', ih]
      constructor
      · rintro ⟨hbreaks, hrest⟩ before after he hrun
        cases before with
        | nil =>
            obtain ⟨rfl, rfl⟩ := List.cons.inj he
            obtain rfl : s = .outside := hrun
            simp [Scan.breaks, hd] at hbreaks
        | cons b before =>
            obtain ⟨rfl, rfl⟩ := List.cons.inj he
            exact hrest before after rfl hrun
      · intro h
        refine ⟨Bool.eq_false_iff.mpr fun hbreaks => ?_, fun before after he => ?_⟩
        · obtain ⟨hs, rfl, -⟩ := Scan.outside_of_breaks hbreaks
          exact h [] cs rfl hs
        · exact h (c :: before) after (congrArg (c :: ·) he)

end Directives

namespace Client

open Directives

variable {name v : String} {cs : List Char}

-- A text that stands between quotes as it is: no quote in it follows a backslash, and of its
-- commas none stands behind an odd number of its quotes
@[mk_iff]
structure Kept (v : String) : Prop where
  noEscape : ¬['\\', '"'] <:+: v.toList
  commas : ∀ before after, v.toList = before ++ ',' :: after → before.count '"' % 2 = 0

-- One that leaves it to the quote behind it to close the quotes
structure Framed (v : String) : Prop extends Kept v where
  even : v.toList.count '"' % 2 = 0
  closes : backslashes v.toList % 2 = 0

theorem Unescaped.framed (h : Unescaped v) : Framed v := by
  have hnone : ∀ before, before <:+: v.toList → before.count '"' = 0 := fun before hb =>
    List.count_eq_zero_of_not_mem (mt (hb.subset ·) h.noQuote)
  refine ⟨⟨fun he => ?_, fun before after hv => ?_⟩, ?_, h.closes⟩
  · exact h.noQuote (he.subset (by simp))
  · rw [hnone before (hv ▸ (List.prefix_append before _).isInfix)]
  · rw [hnone v.toList (List.infix_refl _)]

-- No backslash stands right before a quote that is not escaped
theorem backslashes_of_noEscape (h : ¬['\\', '"'] <:+: cs ++ ['"']) : backslashes cs = 0 := by
  cases cs using List.reverseRecOn with
  | nil => rfl
  | append_singleton cs c =>
      rw [backslashes_concat]
      refine if_neg ?_
      rintro rfl
      exact h ⟨cs, [], by simp⟩

-- Where no quote is escaped, each of them changes sides
theorem run_of_noEscape (h : ¬['\\', '"'] <:+: cs) :
    Scan.inside.run cs = if cs.count '"' % 2 = 0 then parity cs else .outside := by
  induction cs using List.reverseRecOn with
  | nil => rfl
  | append_singleton cs c ih =>
      rw [Scan.run_append, ih (mt (·.trans (List.prefix_append cs [c]).isInfix) h), parity, parity,
        backslashes_concat, List.count_append]
      by_cases hc : c = '"'
      · subst hc
        rw [backslashes_of_noEscape h]
        by_cases heven : cs.count '"' % 2 = 0
        · have hodd : (cs.count '"' + 1) % 2 ≠ 0 := by omega
          simp [heven, hodd, Scan.next]
        · have hnext : (cs.count '"' + 1) % 2 = 0 := by omega
          simp [heven, hnext, Scan.next]
      · have hsame : [c].count '"' = 0 := List.count_eq_zero_of_not_mem (by simp [Ne.symm hc])
        rw [hsame, Nat.add_zero]
        by_cases heven : cs.count '"' % 2 = 0
        · by_cases hb : c = '\\'
          · subst hb
            by_cases hp : backslashes cs % 2 = 0
            · have hodd : (backslashes cs + 1) % 2 ≠ 0 := by omega
              simp [heven, hp, hodd, Scan.next]
            · have hnext : (backslashes cs + 1) % 2 = 0 := by omega
              simp [heven, hp, hnext, Scan.next]
          · by_cases hp : backslashes cs % 2 = 0 <;> simp [heven, hp, hb, hc, Scan.next]
        · simp [heven, hc, Scan.next]

theorem parity_ne_outside (cs : List Char) : parity cs ≠ .outside := by
  rw [parity]
  by_cases hp : backslashes cs % 2 = 0 <;> simp [hp]

theorem unbroken_of_noEscape (h : ¬['\\', '"'] <:+: cs) :
    Scan.outside.unbroken ',' ('"' :: cs ++ ['"']) = true ↔
      ∀ before after, cs = before ++ ',' :: after → before.count '"' % 2 = 0 := by
  have hlast : ∀ s : Scan, s.unbroken ',' ['"'] = true := by
    intro s
    cases s <;> rfl
  rw [List.cons_append, Scan.unbroken, Scan.unbroken_append, hlast, Bool.and_true]
  refine (Scan.unbroken_iff (by decide)).trans ?_
  refine forall_congr' fun before => forall_congr' fun after => forall_congr' fun hcs => ?_
  have hbefore : ¬['\\', '"'] <:+: before :=
    mt (·.trans (hcs ▸ List.prefix_append before _).isInfix) h
  rw [show Scan.outside.next '"' = .inside from rfl, run_of_noEscape hbefore]
  by_cases heven : before.count '"' % 2 = 0 <;> simp [heven, parity_ne_outside]

theorem closes_of_noEscape (h : ¬['\\', '"'] <:+: cs) :
    Scan.outside.run ('"' :: cs ++ ['"']) = .outside ↔
      cs.count '"' % 2 = 0 ∧ backslashes cs % 2 = 0 := by
  rw [List.cons_append, Scan.run_cons, Scan.run_append,
    show Scan.outside.next '"' = .inside from rfl, run_of_noEscape h, parity]
  by_cases heven : cs.count '"' % 2 = 0
  · by_cases hp : backslashes cs % 2 = 0 <;> simp [heven, hp, Scan.next]
  · simp [heven, Scan.next]

theorem kept_iff_scan (v : String) : Kept v ↔
    ¬['\\', '"'] <:+: v.toList ∧
      Scan.outside.unbroken ',' ('"' :: v.toList ++ ['"']) = true := by
  rw [kept_iff]
  exact and_congr_right fun h => (unbroken_of_noEscape h).symm

theorem framed_iff_scan (v : String) : Framed v ↔
    ¬['\\', '"'] <:+: v.toList ∧ Closed ('"' :: v.toList ++ ['"']) := by
  constructor
  · intro hv
    exact ⟨hv.noEscape, ((kept_iff_scan v).mp hv.toKept).2,
      (closes_of_noEscape hv.noEscape).mpr ⟨hv.even, hv.closes⟩⟩
  · rintro ⟨h, hc⟩
    obtain ⟨heven, hcloses⟩ := (closes_of_noEscape h).mp hc.closes
    exact ⟨(kept_iff_scan v).mpr ⟨h, hc.unbroken⟩, heven, hcloses⟩

instance (v : String) : Decidable (Kept v) :=
  decidable_of_iff' _ (kept_iff_scan v)

instance (v : String) : Decidable (Framed v) :=
  decidable_of_iff (Kept v ∧ v.toList.count '"' % 2 = 0 ∧ backslashes v.toList % 2 = 0)
    ⟨fun ⟨hk, he, hc⟩ => ⟨hk, he, hc⟩, fun hv => ⟨hv.toKept, hv.even, hv.closes⟩⟩

theorem reads_enclosed_iff (hn : IsName name) :
    Reads (enclosed name v) (name, v) ↔ ¬['\\', '"'] <:+: v.toList := by
  have hunescape : unquote ['"'] ('"' :: v.toList ++ ['"']) = v.toList ↔
      ¬['\\', '"'] <:+: v.toList := by
    rw [unquote_enclosed]
    exact Text.replaceAll_eq_self_iff (by decide)
  rw [← hunescape]
  constructor
  · intro hreads
    have hread := hreads [] (by simp)
    rw [toList_enclosed, ← List.append_assoc, readEntry_eq hn (by simp), trimBoth_enclosed] at hread
    have hvalue := congrArg Prod.snd (Option.some.inj hread)
    rw [← String.toList_inj, String.toList_ofList] at hvalue
    exact hvalue
  · intro hu lead hl
    rw [toList_enclosed, ← List.append_assoc, readEntry_eq hn hl, trimBoth_enclosed, hu,
      String.ofList_toList]

theorem closed_and_reads_iff (hn : IsName name) (v : String) :
    Closed (enclosed name v).toList ∧ Reads (enclosed name v) (name, v) ↔ Framed v := by
  rw [reads_enclosed_iff hn, toList_enclosed, hn.closed_append_iff, framed_iff_scan, and_comm]

theorem unbroken_and_reads_iff (hn : IsName name) (v : String) :
    Scan.outside.unbroken ',' (enclosed name v).toList = true ∧
      Reads (enclosed name v) (name, v) ↔ Kept v := by
  rw [reads_enclosed_iff hn, toList_enclosed, hn.unbroken_append, kept_iff_scan, and_comm]

theorem names_enclosed (hn : IsName name) (v : String) :
    Names (enclosed name v) (name, v) :=
  names_bare hn (by simp)

end Client

namespace Challenger

namespace Texts

open Client Directives

-- The texts that a challenge can bring across with a nonce. What stands last may leave its quotes
-- open.
@[mk_iff]
structure Legible (t : Texts) (token : String) (stale : Bool) : Prop where
  realm : Framed t.realm
  qop : ∀ v, given t.qop = some v → Framed v
  nonce : if given t.opaqueText = none ∧ stale = false then Kept token else Framed token
  opaqueText : ∀ v, given t.opaqueText = some v → if stale then Framed v else Kept v

variable {t : Texts} {token : String} {stale : Bool}

theorem Writable.legible (w : t.Writable) (ht : Unescaped token) : t.Legible token stale := by
  refine ⟨w.realm.framed, fun v hv => (w.given_qop hv).framed, ?_, fun v hv => ?_⟩
  · split
    · exact ht.framed.toKept
    · exact ht.framed
  · split
    · exact (w.given_opaque hv).framed
    · exact (w.given_opaque hv).framed.toKept

theorem names_parts (t : Texts) (token : String) (stale : Bool) :
    List.Forall₂ Names (t.parts token stale) (t.entries token stale) := by
  refine List.rel_append (List.rel_append (List.rel_append (List.rel_append ?_ ?_) ?_) ?_) ?_
  · exact .cons (names_enclosed (by decide) _) .nil
  · cases given t.qop with
    | none => exact .nil
    | some v => exact .cons (names_enclosed (by decide) v) .nil
  · exact .cons (names_enclosed (by decide) _) .nil
  · cases given t.opaqueText with
    | none => exact .nil
    | some v => exact .cons (names_enclosed (by decide) v) .nil
  · cases stale with
    | false => exact .nil
    | true => exact .cons (names_bare (by decide) rfl) .nil

theorem brings_parts_iff : Brings (t.parts token stale) (t.entries token stale) ↔
    t.Legible token stale := by
  have hstale : Says (bare "stale" "true") "stale" "true" := says_plain (by decide) (by decide)
  have hlast : Scan.outside.unbroken ',' (bare "stale" "true").toList = true ∧
      Reads (bare "stale" "true") ("stale", "true") := ⟨hstale.closed.unbroken, hstale.reads⟩
  rw [legible_iff, parts, entries]
  cases given t.qop <;> cases given t.opaqueText <;> cases stale <;>
    simp (disch := decide) [brings_singleton, brings_cons_cons, closed_and_reads_iff,
      unbroken_and_reads_iff, hlast]

theorem read_parts_iff :
    read (", ".intercalate (t.parts token stale)) = t.entries token stale ↔
      t.Legible token stale :=
  (read_intercalate_eq_iff (t.names_parts token stale) (t.nodup_entries token stale)).trans
    brings_parts_iff

theorem ofHeader?_header (t : Texts) (token : String) (stale : Bool) :
    ofHeader? (t.challenger.header token stale)
      = some (read (", ".intercalate (t.parts token stale))) := by
  rw [header_eq, ofHeader?_scheme]

-- A challenge of texts that need no escaping is read as what it was made of
theorem Writable.ofHeader?_header (w : t.Writable) (stale : Bool) (ht : Unescaped token) :
    ofHeader? (t.challenger.header token stale) = some (t.entries token stale) := by
  rw [t.ofHeader?_header token stale, read_parts_iff.mpr (w.legible ht)]

-- A challenger is made of any realm but an empty one. Its challenge is read as what it was made of
-- exactly if the texts are legible; if they are not then one of its directives is lost or altered.
theorem challenge_read_back_iff_legible (t : Texts) (token : String) (stale : Bool)
    (h : t.realm ≠ "") :
    Challenger.make t.realm true (.ofText? t.qop) (.ofText? t.opaqueText) = .ok t.challenger ∧
    ∃ found, ofHeader? (t.challenger.header token stale) = some found ∧
      (found = t.entries token stale ↔ t.Legible token stale) ∧
      (¬t.Legible token stale → ∃ entry ∈ t.entries token stale,
        found.get? entry.1 ≠ some entry.2) := by
  have hmake : Challenger.make t.realm true (.ofText? t.qop) (.ofText? t.opaqueText)
      = .ok t.challenger := by
    simp [Challenger.make, Value.truthy, h, challenger]
  refine ⟨hmake, _, t.ofHeader?_header token stale, read_parts_iff, fun hnot => ?_⟩
  by_contra! hall
  have hbrings := brings_of_get? (t.names_parts token stale) (t.nodup_entries token stale) hall
  exact hnot (brings_parts_iff.mp hbrings)

-- A challenger with quotes and commas within its realm. What stands last ends in a backslash, so
-- its quotes stay open, and still all is read back.
def quotedRooms : Texts where
  realm := "lab \"a\", \"b\""
  qop := some Response.authQop
  opaqueText := some "o\\"

theorem quotedRooms_legible : quotedRooms.Legible "n" false :=
  ⟨by decide +kernel, fun v hv => by
    obtain rfl := Option.some.inj hv
    decide, by decide, fun v hv => by
    obtain rfl := Option.some.inj hv
    decide⟩

theorem challenge_read_back_iff_legible_sample :
    quotedRooms.realm ≠ "" ∧ quotedRooms.Legible "n" false ∧
    Challenger.make quotedRooms.realm true (.ofText? quotedRooms.qop)
      (.ofText? quotedRooms.opaqueText) = .ok quotedRooms.challenger ∧
    ofHeader? (quotedRooms.challenger.header "n" false)
      = some (quotedRooms.entries "n" false) := by
  have hrealm : quotedRooms.realm ≠ "" := by decide
  obtain ⟨hmake, found, hfound, hiff, -⟩ :=
    challenge_read_back_iff_legible quotedRooms "n" false hrealm
  rw [hiff.mpr quotedRooms_legible] at hfound
  exact ⟨hrealm, quotedRooms_legible, hmake, hfound⟩

def EveryReadBack : Prop :=
  ∀ (t : Texts) (token : String) (stale : Bool), t.realm ≠ "" →
    (t.qop = none ∨ t.qop = some Response.authQop) →
    ∃ c, Challenger.make t.realm true (.ofText? t.qop) (.ofText? t.opaqueText) = .ok c ∧
      ofHeader? (c.header token stale) = some (t.entries token stale)

-- A quote within the realm ends it
theorem not_everyReadBack : ¬EveryReadBack := by
  intro hall
  let t : Texts := ⟨"a\"b", some Response.authQop, none⟩
  obtain ⟨c, hmake, hread⟩ := hall t "N" false (by decide) (.inr rfl)
  obtain rfl : t.challenger = c := Except.ok.inj hmake
  rw [t.ofHeader?_header "N" false] at hread
  have hlegible := read_parts_iff.mp (Option.some.inj hread)
  exact absurd hlegible.realm (by decide)

end Texts

end Challenger

end HttpDigest
