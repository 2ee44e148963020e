import HttpDigest.Proofs.Verbatim

namespace HttpDigest.Directives

-- What may stand between two quotes: a backslash protects the character behind it
inductive Body : List Char → Prop
  | nil : Body []
  | plain {c : Char} {rest : List Char} (hq : c ≠ '"') (hb : c ≠ '\\') (h : Body rest) :
      Body (c :: rest)
  | escaped {c : Char} {rest : List Char} (h : Body rest) : Body ('\\' :: c :: rest)

-- A text with all its quotes closed. Outside quotes a backslash protects nothing.
inductive Whole : List Char → Prop
  | nil : Whole []
  | plain {c : Char} {rest : List Char} (hq : c ≠ '"') (h : Whole rest) : Whole (c :: rest)
  | quoted {body rest : List Char} (hb : Body body) (h : Whole rest) :
      Whole ('"' :: (body ++ '"' :: rest))

variable {delimiter : Char} {cs piece : List Char} {ps : List (List Char)}

theorem Body.run_eq (h : Body cs) : Scan.inside.run cs = .inside := by
  induction h with
  | nil => rfl
  | plain hq hb _ ih => simpa [Scan.next, hq, hb] using ih
  | escaped _ ih => simpa [Scan.next] using ih

theorem Whole.run_eq (h : Whole cs) : Scan.outside.run cs = .outside := by
  induction h with
  | nil => rfl
  | plain hq _ ih => simpa [Scan.next, hq] using ih
  | quoted hb _ ih =>
      rw [Scan.run_cons, Scan.run_append, show Scan.outside.next '"' = .inside from rfl, hb.run_eq]
      exact ih

-- What is yet to come of a whole text where the scan stands
def Scan.Rest : Scan → List Char → Prop
  | outside, cs => Whole cs
  | inside, cs => ∃ body rest, cs = body ++ '"' :: rest ∧ Body body ∧ Whole rest
  | escaped, cs => ∃ c body rest, cs = c :: (body ++ '"' :: rest) ∧ Body body ∧ Whole rest

theorem Scan.rest_of_run {s : Scan} (h : s.run cs = .outside) : s.Rest cs := by
  induction cs generalizing s with
  | nil =>
      obtain rfl : s = .outside := h
      exact .nil
  | cons c cs ih =>
      have hrest : (s.next c).Rest cs := ih h
      cases s with
      | outside =>
          by_cases hq : c = '"'
          · subst hq
            obtain ⟨body, rest, rfl, hb, hw⟩ := hrest
            exact .quoted hb hw
          · rw [Scan.next, if_neg hq] at hrest
            exact .plain hq hrest
      | inside =>
          by_cases hb : c = '\\'
          · subst hb
            obtain ⟨d, body, rest, rfl, hbody, hw⟩ := hrest
            exact ⟨'\\' :: d :: body, rest, rfl, .escaped hbody, hw⟩
          · by_cases hq : c = '"'
            · subst hq
              exact ⟨[], cs, rfl, .nil, hrest⟩
            · rw [Scan.next, if_neg hb, if_neg hq] at hrest
              obtain ⟨body, rest, rfl, hbody, hw⟩ := hrest
              exact ⟨c :: body, rest, rfl, .plain hq hb hbody, hw⟩
      | escaped =>
          obtain ⟨body, rest, rfl, hbody, hw⟩ := hrest
          exact ⟨c, body, rest, rfl, hbody, hw⟩

-- The scan ends outside quotes just behind the texts that are whole
theorem whole_iff : Whole cs ↔ Scan.outside.run cs = .outside :=
  ⟨Whole.run_eq, Scan.rest_of_run⟩

-- No piece is broken by a delimiter, and all but the last end outside quotes
theorem unbroken_of_mem_pieces (h : piece ∈ pieces delimiter .outside cs) :
    Scan.outside.unbroken delimiter piece = true := by
  generalize hp : pieces delimiter .outside cs = ps at h
  induction ps generalizing cs with
  | nil => cases h
  | cons first others ih =>
      obtain ⟨hunbroken, hrest⟩ := pieces_eq_cons hp
      rcases List.mem_cons.mp h with rfl | hm
      · exact hunbroken
      · rcases hrest with ⟨rfl, -⟩ | ⟨rest, -, -, rfl⟩
        · cases hm
        · exact ih rfl hm

theorem run_of_mem_dropLast (h : piece ∈ (pieces delimiter .outside cs).dropLast) :
    Scan.outside.run piece = .outside := by
  generalize hp : pieces delimiter .outside cs = ps at h
  induction ps generalizing cs with
  | nil => cases h
  | cons first others ih =>
      obtain ⟨-, ⟨rfl, -⟩ | ⟨rest, -, hrun, hothers⟩⟩ := pieces_eq_cons hp
      · cases h
      · have hne : others ≠ [] := hothers ▸ pieces_ne_nil delimiter .outside rest
        rw [List.dropLast_cons_of_ne_nil hne] at h
        rcases List.mem_cons.mp h with rfl | hm
        · exact hrun
        · exact ih hothers.symm hm

-- Pieces of this kind come apart where they were put together
theorem pieces_joined (hd : delimiter ≠ '"') (hne : ps ≠ [])
    (hu : ∀ p ∈ ps, Scan.outside.unbroken delimiter p = true)
    (hw : ∀ p ∈ ps.dropLast, Scan.outside.run p = .outside) :
    pieces delimiter .outside ([delimiter].intercalate ps) = ps := by
  induction ps with
  | nil => exact absurd rfl hne
  | cons first others ih =>
      have hfirst := hu first List.mem_cons_self
      cases others with
      | nil => rw [List.intercalate_singleton, pieces_of_unbroken hfirst]
      | cons next others =>
          have hrun : Scan.outside.run first = .outside := hw first List.mem_cons_self
          have hrest := ih (List.cons_ne_nil _ _) (fun p hp => hu p (List.mem_cons_of_mem _ hp))
            fun p hp => hw p (List.mem_cons_of_mem _ hp)
          rw [List.intercalate_cons_cons, List.append_assoc, List.singleton_append,
            pieces_append hd hrun, pieces_of_unbroken hfirst, hrest]
          rfl

-- Pieces, one at least, that make the text with the delimiter between them. A delimiter within a
-- piece stands in quotes that the piece itself opens, and every piece but the last is whole.
structure Decomposition (delimiter : Char) (text : String) (ps : List String) : Prop where
  ne_nil : ps ≠ []
  joined : (String.singleton delimiter).intercalate ps = text
  quoted : ∀ p ∈ ps, ∀ before after, p.toList = before ++ delimiter :: after → ¬Whole before
  whole : ∀ p ∈ ps.dropLast, Whole p.toList

theorem joined_split (text : String) (delimiter : Char) :
    (String.singleton delimiter).intercalate (split text delimiter) = text := by
  rw [← String.toList_inj, String.toList_intercalate, split, List.map_map]
  simp [Function.comp_def, intercalate_pieces]

theorem split_of_mem_split {text p : String} (h : p ∈ split text delimiter) :
    split p delimiter = [p] := by
  obtain ⟨piece, hm, rfl⟩ := List.mem_map.mp h
  rw [split, String.toList_ofList, pieces_of_unbroken (unbroken_of_mem_pieces hm)]
  rfl

theorem decomposition_split (hd : delimiter ≠ '"') (text : String) :
    Decomposition delimiter text (split text delimiter) := by
  refine ⟨?_, joined_split text delimiter, fun p hp before after hb => ?_, fun p hp => ?_⟩
  · simpa [split] using pieces_ne_nil delimiter .outside text.toList
  · obtain ⟨piece, hm, rfl⟩ := List.mem_map.mp hp
    rw [String.toList_ofList] at hb
    rw [whole_iff]
    exact (Scan.unbroken_iff hd).mp (unbroken_of_mem_pieces hm) before after hb
  · rw [split, ← List.map_dropLast] at hp
    obtain ⟨piece, hm, rfl⟩ := List.mem_map.mp hp
    rw [String.toList_ofList, whole_iff]
    exact run_of_mem_dropLast hm

theorem Decomposition.eq_split (hd : delimiter ≠ '"') {text : String} {ps : List String}
    (h : Decomposition delimiter text ps) : ps = split text delimiter := by
  have hpieces : pieces delimiter .outside ([delimiter].intercalate (ps.map String.toList))
      = ps.map String.toList := by
    refine pieces_joined hd (by simpa using h.ne_nil) (fun piece hm => ?_) fun piece hm => ?_
    · obtain ⟨p, hp, rfl⟩ := List.mem_map.mp hm
      refine (Scan.unbroken_iff hd).mpr fun before after hb => ?_
      rw [Ne, ← whole_iff]
      exact h.quoted p hp before after hb
    · rw [← List.map_dropLast] at hm
      obtain ⟨p, hp, rfl⟩ := List.mem_map.mp hm
      exact whole_iff.mp (h.whole p hp)
  have hjoined := congrArg String.toList h.joined
  rw [String.toList_intercalate, String.toList_singleton] at hjoined
  rw [split, ← hjoined, hpieces, List.map_map]
  simp [Function.comp_def]

-- The pieces of a text make it again, and none of them comes apart any further. Where the delimiter
-- is no quote there is no other decomposition.
theorem split_only_decomposition (text : String) (delimiter : Char) :
    (String.singleton delimiter).intercalate (split text delimiter) = text ∧
    (∀ p ∈ split text delimiter, split p delimiter = [p]) ∧
    (delimiter ≠ '"' → ∀ ps, Decomposition delimiter text ps ↔ ps = split text delimiter) := by
  refine ⟨joined_split text delimiter, fun p => split_of_mem_split, fun hd ps => ?_⟩
  constructor
  · exact fun h => h.eq_split hd
  · rintro rfl
    exact decomposition_split hd text

-- The comma in quotes parts nothing, not even where the quote stays open
theorem split_only_decomposition_sample :
    ',' ≠ '"' ∧ ∀ ps, Decomposition ',' "a=\"x,y\",b=\"z,w" ps ↔ ps = ["a=\"x,y\"", "b=\"z,w"] := by
  have hd : ',' ≠ '"' := by decide
  have hsplit : split "a=\"x,y\",b=\"z,w" ',' = ["a=\"x,y\"", "b=\"z,w"] := by decide
  obtain ⟨-, -, honly⟩ := split_only_decomposition "a=\"x,y\",b=\"z,w" ','
  rw [hsplit] at honly
  exact ⟨hd, honly hd⟩

end HttpDigest.Directives
