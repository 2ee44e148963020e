import HttpDigest.Proofs.Entries
import Mathlib.Logic.Relation

namespace HttpDigest

theorem OrderedMap.ofList_concat {κ υ : Type} [DecidableEq κ] (entries : List (κ × υ))
    (entry : κ × υ) :
    ofList (entries ++ [entry]) = (ofList entries).insert entry.1 entry.2 := by
  rw [ofList, List.foldl_append]
  rfl

namespace Directives

def entryValue? (name : String) (entry : List Char) : Option String :=
  (readEntry ['='] ['"'] entry).bind fun said => if said.1 = name then some said.2 else none

def valueOf? (entries : List (List Char)) (name : String) : Option String :=
  entries.reverse.findSome? (entryValue? name)

variable {name : String} {entry : List Char} {xs ys : List (List Char)}

theorem valueOf?_append : valueOf? (xs ++ ys) name = (valueOf? ys name).or (valueOf? xs name) := by
  rw [valueOf?, List.reverse_append, List.findSome?_append]
  rfl

theorem valueOf?_cons :
    valueOf? (entry :: xs) name = (valueOf? xs name).or (entryValue? name entry) := by
  rw [← List.singleton_append, valueOf?_append]
  simp [valueOf?]

theorem entryValue?_of_read {said : String × String} (h : readEntry ['='] ['"'] entry = some said) :
    entryValue? name entry = if said.1 = name then some said.2 else none := by
  rw [entryValue?, h, Option.bind_some]

theorem get?_ofEntries : (ofEntries ['='] ['"'] xs).get? name = valueOf? xs name := by
  induction xs using List.reverseRecOn with
  | nil => rfl
  | append_singleton xs entry ih =>
      rw [valueOf?_append, ← ih, valueOf?_cons, ofEntries, List.filterMap_append]
      cases hread : readEntry ['='] ['"'] entry with
      | none =>
          have hnone : entryValue? name entry = none := by rw [entryValue?, hread, Option.bind_none]
          rw [List.filterMap_cons_none hread, hnone]
          simp [valueOf?, ofEntries]
      | some said =>
          rw [List.filterMap_cons_some hread, entryValue?_of_read hread, List.filterMap_nil,
            OrderedMap.ofList_concat, OrderedMap.get?_insert]
          by_cases hname : said.1 = name <;> simp [hname, valueOf?, ofEntries]

theorem get?_read (text name : String) :
    (read text).get? name = valueOf? (pieces ',' .outside text.toList) name :=
  get?_ofEntries

-- Two spellings of one entry: the letters of the name in another case, other blanks around the
-- name and the value
structure Respelled (name value name' value' : List Char) : Prop where
  noEquals : '=' ∉ name
  noEquals' : '=' ∉ name'
  name : Text.lower (.ofList (Text.trimBoth Text.isBlank name))
    = Text.lower (.ofList (Text.trimBoth Text.isBlank name'))
  value : Text.trimBoth Text.isBlank value = Text.trimBoth Text.isBlank value'

theorem Respelled.readEntry_eq {name value name' value' : List Char}
    (h : Respelled name value name' value') :
    readEntry ['='] ['"'] (name ++ '=' :: value)
      = readEntry ['='] ['"'] (name' ++ '=' :: value') := by
  rw [readEntry, readEntry, Text.cut?_append h.noEquals, Text.cut?_append h.noEquals']
  simp only [h.name, h.value]

-- An entry makes no difference to a name of which it says nothing, or a later one says something
theorem valueOf?_insert (h : entryValue? name entry = none ∨ valueOf? ys name ≠ none) :
    valueOf? (xs ++ entry :: ys) name = valueOf? (xs ++ ys) name := by
  rw [valueOf?_append, valueOf?_append, valueOf?_cons]
  rcases h with hnone | hsome
  · rw [hnone, Option.or_none]
  · obtain ⟨value, hvalue⟩ := Option.ne_none_iff_exists'.mp hsome
    rw [hvalue]
    rfl

theorem valueOf?_exchange {other : List Char}
    (h : entryValue? name entry = none ∨ entryValue? name other = none) :
    valueOf? (xs ++ entry :: other :: ys) name = valueOf? (xs ++ other :: entry :: ys) name := by
  simp only [valueOf?_append, valueOf?_cons]
  rcases h with hnone | hnone <;> simp [hnone]

end Directives

namespace Authorization

-- Readings of two headers that agree on the six directives that always count, and on those that
-- `auth` needs besides unless neither asks for protection
structure Agree (f g : String → Option String) : Prop where
  always : ∀ name ∈ mandatory ++ ["qop"], f name = g name
  forAuth : f "qop" ≠ none → ∀ name ∈ forAuth, f name = g name

namespace Agree

variable {f g h : String → Option String}

theorem of_forall (hfg : ∀ name ∈ mandatory ++ "qop" :: Authorization.forAuth, f name = g name) :
    Agree f g := by
  have halways : mandatory ++ ["qop"] ⊆ mandatory ++ "qop" :: Authorization.forAuth := by decide
  have hrest : Authorization.forAuth ⊆ mandatory ++ "qop" :: Authorization.forAuth := by decide
  exact ⟨fun name hm => hfg name (halways hm), fun _ name hm => hfg name (hrest hm)⟩

theorem qop (hfg : Agree f g) : f "qop" = g "qop" :=
  hfg.always "qop" (by decide)

theorem refl (f : String → Option String) : Agree f f :=
  of_forall fun _ _ => rfl

theorem symm (hfg : Agree f g) : Agree g f :=
  ⟨fun name hm => (hfg.always name hm).symm,
    fun hq name hm => (hfg.forAuth (hfg.qop ▸ hq) name hm).symm⟩

theorem trans (hfg : Agree f g) (hgh : Agree g h) : Agree f h :=
  ⟨fun name hm => (hfg.always name hm).trans (hgh.always name hm),
    fun hq name hm => (hfg.forAuth hq name hm).trans (hgh.forAuth (hfg.qop ▸ hq) name hm)⟩

end Agree

open Directives

-- Changes of the entries of a header: another spelling, an entry under a name that does not
-- count, another order of two names, an entry that a later one overwrites, and a count or a
-- client nonce where no protection is asked for
inductive Edit : List (List Char) → List (List Char) → Prop
  | spelling (xs ys : List (List Char)) {name value name' value' : List Char}
      (h : Respelled name value name' value') :
      Edit (xs ++ (name ++ '=' :: value) :: ys) (xs ++ (name' ++ '=' :: value') :: ys)
  | uncounted (xs ys : List (List Char)) {entry : List Char}
      (h : ∀ said, readEntry ['='] ['"'] entry = some said →
        said.1 ∉ mandatory ++ "qop" :: forAuth) :
      Edit (xs ++ ys) (xs ++ entry :: ys)
  | exchange (xs ys : List (List Char)) {entry other : List Char} {said said' : String × String}
      (h : readEntry ['='] ['"'] entry = some said)
      (h' : readEntry ['='] ['"'] other = some said') (hne : said.1 ≠ said'.1) :
      Edit (xs ++ entry :: other :: ys) (xs ++ other :: entry :: ys)
  | overwritten (xs ys : List (List Char)) {entry : List Char} {said : String × String}
      (h : readEntry ['='] ['"'] entry = some said) (hlater : valueOf? ys said.1 ≠ none) :
      Edit (xs ++ ys) (xs ++ entry :: ys)
  | unprotected (xs ys : List (List Char)) {entry : List Char} {said : String × String}
      (h : readEntry ['='] ['"'] entry = some said) (hname : said.1 ∈ forAuth)
      (hq : valueOf? (xs ++ ys) "qop" = none) :
      Edit (xs ++ ys) (xs ++ entry :: ys)

theorem Edit.agree {xs ys : List (List Char)} (h : Edit xs ys) :
    Agree (valueOf? xs) (valueOf? ys) := by
  cases h with
  | spelling xs ys h =>
      apply Agree.of_forall
      intro name _
      simp only [valueOf?_append, valueOf?_cons, entryValue?, h.readEntry_eq]
  | @uncounted xs ys entry h =>
      apply Agree.of_forall
      intro name hm
      refine (valueOf?_insert (.inl ?_)).symm
      cases hread : readEntry ['='] ['"'] entry with
      | none => rw [entryValue?, hread, Option.bind_none]
      | some said =>
          have hne : said.1 ≠ name := fun he => h said hread (he ▸ hm)
          rw [entryValue?_of_read hread, if_neg hne]
  | @exchange xs ys entry other said said' h h' hne =>
      apply Agree.of_forall
      intro name _
      apply valueOf?_exchange
      rw [entryValue?_of_read h, entryValue?_of_read h']
      by_cases he : said.1 = name
      · exact .inr (if_neg fun he' => hne (he.trans he'.symm))
      · exact .inl (if_neg he)
  | @overwritten xs ys entry said h hlater =>
      apply Agree.of_forall
      intro name _
      refine (valueOf?_insert ?_).symm
      by_cases he : said.1 = name
      · exact .inr (he ▸ hlater)
      · exact .inl ((entryValue?_of_read h).trans (if_neg he))
  | @unprotected xs ys entry said h hname hq =>
      have hapart : ∀ name ∈ mandatory ++ ["qop"], name ∉ forAuth := by decide
      refine ⟨fun name hm => ?_, fun hne => absurd hq hne⟩
      have hne : said.1 ≠ name := fun he => hapart name hm (he ▸ hname)
      exact (valueOf?_insert (.inl ((entryValue?_of_read h).trans (if_neg hne)))).symm

-- However many such changes are made, and undone, what counts is read as before
theorem agree_of_edits {text text' : String}
    (h : Relation.EqvGen Edit (pieces ',' .outside text.toList)
      (pieces ',' .outside text'.toList)) :
    Agree (read text).get? (read text').get? := by
  have hedits : ∀ {xs ys : List (List Char)}, Relation.EqvGen Edit xs ys →
      Agree (valueOf? xs) (valueOf? ys) := by
    intro xs ys h
    induction h with
    | rel xs ys h => exact h.agree
    | refl xs => exact .refl _
    | symm xs ys _ ih => exact ih.symm
    | trans xs ys zs _ _ ih ih' => exact ih.trans ih'
  have hread : ∀ text : String, (read text).get? = valueOf? (pieces ',' .outside text.toList) :=
    fun text => funext (get?_read text)
  rw [hread, hread]
  exact hedits h

end Authorization

end HttpDigest
