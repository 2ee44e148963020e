import HttpDigest.Proofs.Overwriting
import HttpDigest.Proofs.Parts
import Mathlib.Algebra.GroupWithZero.Nat
import Mathlib.Data.List.Perm.Subperm
import Mathlib.Data.List.Nodup

namespace HttpDigest

namespace Text

variable {α : Type} [BEq α] [LawfulBEq α] {a : α} {pattern image xs ys tx ty : List α}

theorem count_dropWhile {p : α → Bool} (hp : p a = false) (xs : List α) :
    (xs.dropWhile p).count a = xs.count a := by
  induction xs with
  | nil => rfl
  | cons x xs ih =>
      by_cases hx : p x = true
      · have hne : x ≠ a := by
          rintro rfl
          rw [hp] at hx
          cases hx
        rw [List.dropWhile_cons_of_pos hx, ih, List.count_cons_of_ne hne]
      · rw [List.dropWhile_cons_of_neg hx]

theorem count_trimBoth {p : α → Bool} (hp : p a = false) (xs : List α) :
    (trimBoth p xs).count a = xs.count a := by
  rw [trimBoth, List.count_reverse, count_dropWhile hp, List.count_reverse, count_dropWhile hp]

theorem count_replaceAll (hne : pattern ≠ []) (hp : a ∉ pattern) (hi : a ∉ image) (xs : List α) :
    (replaceAll pattern image xs).count a = xs.count a := by
  induction xs using pattern_induction hne with
  | nil => rfl
  | kept x rest hnone ih =>
      rw [replaceAll_cons_of_none hnone, List.count_cons, List.count_cons, ih]
  | replaced after ih =>
      rw [replaceAll_append hne, List.count_append, List.count_append, ih,
        List.count_eq_zero.mpr hp, List.count_eq_zero.mpr hi]

-- Two beginnings of one list, each of them all of it or cut off before a separator, are the same
-- if they hold as many separators
theorem eq_of_count_eq (h : xs ++ tx = ys ++ ty) (hx : tx = [] ∨ tx.head? = some a)
    (hy : ty = [] ∨ ty.head? = some a) (hc : xs.count a = ys.count a) : xs = ys := by
  have hno : ∀ between rest : List α, (between ++ rest = [] ∨ (between ++ rest).head? = some a) →
      between.count a = 0 → between = [] := by
    intro between rest hhead hcount
    cases between with
    | nil => rfl
    | cons b between =>
        rcases hhead with hnil | hsome
        · cases hnil
        · obtain rfl : b = a := Option.some.inj hsome
          rw [List.count_cons_self] at hcount
          cases hcount
  rcases List.append_eq_append_iff.mp h with ⟨between, rfl, rfl⟩ | ⟨between, rfl, rfl⟩
  · rw [List.count_append] at hc
    rw [hno between ty hx (by omega), List.append_nil]
  · rw [List.count_append] at hc
    rw [hno between tx hy (by omega), List.append_nil]

theorem eq_append_of_cut? {x : α} {xs before after : List α}
    (h : cut? [x] xs = some (before, after)) : xs = before ++ x :: after := by
  suffices ∀ done, cutFrom [x] done xs = some (before, after) →
      done.reverse ++ xs = before ++ x :: after from this [] h
  clear h
  induction xs with
  | nil =>
      intro done h
      cases h
  | cons y rest ih =>
      intro done h
      rw [cutFrom] at h
      cases hp : afterPrefix? [x] (y :: rest) with
      | none =>
          rw [hp] at h
          have hrest := ih (y :: done) h
          rwa [List.reverse_cons, List.append_assoc, List.singleton_append] at hrest
      | some found =>
          rw [hp] at h
          obtain ⟨rfl, rfl⟩ := Prod.mk.inj (Option.some.inj h)
          rw [afterPrefix?_eq_some_iff.mp hp, List.singleton_append]

end Text

namespace Directives

variable {delimiter : Char} {s : Scan} {cs ds piece : List Char} {others : List (List Char)}

theorem count_unquote {c : Char} (hq : c ≠ '"') (hb : c ≠ '\\') (cs : List Char) :
    (unquote ['"'] cs).count c = cs.count c := by
  have hbody : ∀ body : List Char,
      (Text.replaceAll ['\\', '"'] ['"'] body).count c = body.count c :=
    Text.count_replaceAll (List.cons_ne_nil _ _) (by simp [hq, hb]) (by simp [hq])
  rw [unquote, hbody]
  split
  · rename_i h
    simp only [Bool.and_eq_true, decide_eq_true_eq] at h
    obtain ⟨⟨hlength, hprefix⟩, hsuffix⟩ := h
    obtain ⟨tail, rfl⟩ := List.isPrefixOf_iff_prefix.mp hprefix
    obtain ⟨front, hfront⟩ := List.isSuffixOf_iff_suffix.mp hsuffix
    cases front with
    | nil =>
        rw [← hfront] at hlength
        exact absurd hlength (by decide)
    | cons first front =>
        rw [List.cons_append, List.singleton_append] at hfront
        obtain ⟨-, rfl⟩ := List.cons.inj hfront
        rw [List.singleton_append, List.tail_cons, List.dropLast_concat,
          List.count_cons_of_ne hq.symm, List.count_append,
          List.count_eq_zero_of_not_mem (mt List.mem_singleton.mp hq), Nat.add_zero]
  · rfl

-- The pieces of a text: the first one is a beginning of it that no delimiter breaks, and if more
-- is to come it ends outside quotes, before a delimiter
theorem pieces_eq_cons (h : pieces delimiter s cs = piece :: others) :
    s.unbroken delimiter piece = true ∧
      ((others = [] ∧ cs = piece) ∨
        ∃ rest, cs = piece ++ delimiter :: rest ∧ s.run piece = .outside ∧
          others = pieces delimiter .outside rest) := by
  induction cs generalizing s piece others with
  | nil =>
      obtain ⟨rfl, rfl⟩ := List.cons.inj h
      exact ⟨rfl, .inl ⟨rfl, rfl⟩⟩
  | cons c rest ih =>
      rw [pieces] at h
      by_cases hb : s.breaks delimiter c = true
      · rw [if_pos hb] at h
        obtain ⟨rfl, rfl⟩ := List.cons.inj h
        obtain ⟨hs, rfl, -⟩ := Scan.outside_of_breaks hb
        exact ⟨rfl, .inr ⟨rest, rfl, hs, rfl⟩⟩
      · rw [if_neg hb] at h
        cases hp : pieces delimiter (s.next c) rest with
        | nil => exact absurd hp (pieces_ne_nil delimiter (s.next c) rest)
        | cons first later =>
            rw [hp] at h
            obtain ⟨rfl, rfl⟩ := List.cons.inj h
            obtain ⟨hunbroken, hrest⟩ := ih hp
            refine ⟨?_, ?_⟩
            · rw [Scan.unbroken, hunbroken, Bool.eq_false_iff.mpr hb]
              rfl
            · rcases hrest with ⟨rfl, rfl⟩ | ⟨text, rfl, hrun, rfl⟩
              · exact .inl ⟨rfl, rfl⟩
              · exact .inr ⟨text, rfl, hrun, rfl⟩

-- Every delimiter of a text stands in a piece or between two of them
theorem count_pieces (delimiter : Char) (s : Scan) (cs : List Char) :
    ((pieces delimiter s cs).map (List.count delimiter)).sum + (pieces delimiter s cs).length
      = cs.count delimiter + 1 := by
  induction cs generalizing s with
  | nil => rfl
  | cons c rest ih =>
      rw [pieces]
      by_cases hb : s.breaks delimiter c = true
      · obtain ⟨-, rfl, -⟩ := Scan.outside_of_breaks hb
        have hrest := ih .outside
        rw [if_pos hb, List.count_cons_self]
        simp only [List.map_cons, List.sum_cons, List.count_nil, List.length_cons]
        omega
      · have hrest := ih (s.next c)
        rw [if_neg hb]
        cases hp : pieces delimiter (s.next c) rest with
        | nil => exact absurd hp (pieces_ne_nil delimiter (s.next c) rest)
        | cons first later =>
            rw [hp] at hrest
            simp only [List.map_cons, List.sum_cons, List.length_cons, List.count_cons] at hrest ⊢
            omega

-- What stands before the first place where a text may be broken stands before its first piece
theorem exists_pieces_append (hu : s.unbroken delimiter cs = true) (ds : List Char) :
    ∃ first later, pieces delimiter (s.run cs) ds = first :: later ∧
      pieces delimiter s (cs ++ ds) = (cs ++ first) :: later := by
  induction cs generalizing s with
  | nil =>
      cases hp : pieces delimiter s ds with
      | nil => exact absurd hp (pieces_ne_nil delimiter s ds)
      | cons first later => exact ⟨first, later, hp, hp⟩
  | cons c cs ih =>
      rw [Scan.unbroken, Bool.and_eq_true, Bool.not_eq_true'] at hu
      obtain ⟨first, later, hfirst, hall⟩ := ih hu.2
      refine ⟨first, later, hfirst, ?_⟩
      rw [List.cons_append, pieces, hu.1, hall]
      rfl

theorem closed_of_blanks {lead : List Char} (h : ∀ c ∈ lead, c = ' ') : Closed lead :=
  closed_of_not_mem (fun hm => absurd (h _ hm) (by decide)) fun hm => absurd (h _ hm) (by decide)

-- A part of a name and an equals sign that holds just the commas of the value it is to say,
-- whether or not this is what will be read from it
structure Names (part : String) (entry : String × String) : Prop where
  isName : IsName entry.1
  exists_raw : ∃ raw, part.toList = entry.1.toList ++ '=' :: raw
  count_eq : part.toList.count ',' = entry.2.toList.count ','

inductive Writes : String → String × String → Prop where
  | quoted {name : String} (hn : IsName name) (value : String) :
      Writes (Client.quoted name value) (name, value)
  | plain {name value : String} (hn : IsName name) (hv : Plain value) :
      Writes (Client.bare name value) (name, value)

section Written

variable {part : String} {entry : String × String}

theorem Writes.reads (h : Writes part entry) : Reads part entry := by
  intro lead hl
  cases h with
  | quoted hn value => exact readEntry_bare hn hl (trimBoth_quote value) (unquote_quote value)
  | plain hn hv => exact (says_plain hn hv).reads lead hl

theorem names_bare {name raw value : String} (hn : IsName name)
    (hcommas : raw.toList.count ',' = value.toList.count ',') :
    Names (Client.bare name raw) (name, value) := by
  refine ⟨hn, ⟨raw.toList, Client.toList_bare _ _⟩, ?_⟩
  have hnone : name.toList.count ',' = 0 :=
    List.count_eq_zero_of_not_mem (hn.not_mem (c := ',') (by decide))
  rw [Client.toList_bare, List.count_append, List.count_cons_of_ne (by decide), hnone, hcommas,
    Nat.zero_add]

theorem Names.exists_reads (h : Names part entry) : ∃ value, Reads part (entry.1, value) := by
  obtain ⟨raw, hraw⟩ := h.exists_raw
  refine ⟨.ofList (unquote ['"'] (Text.trimBoth Text.isBlank raw)), fun lead hl => ?_⟩
  rw [hraw, ← List.append_assoc]
  exact readEntry_eq h.isName hl

theorem Writes.names (h : Writes part entry) : Names part entry := by
  cases h with
  | quoted hn value =>
      have hescape : (Client.escape value.toList).count ',' = value.toList.count ',' :=
        Text.count_replaceAll (List.cons_ne_nil _ _) (by decide) (by decide) _
      refine names_bare hn ?_
      simp [Client.toList_quote, hescape]
  | plain hn hv => exact names_bare hn rfl

-- A first piece that says of the name of the first part what the part is written to say is this
-- part: the name stands at its beginning, and the commas of the value are those of the part
theorem Names.piece_eq {lead tail : List Char} (h : Names part entry)
    (hlead : ∀ c ∈ lead, c = ' ') (htail : tail = [] ∨ tail.head? = some ',')
    (hp : pieces ',' .outside (lead ++ (part.toList ++ tail)) = piece :: others)
    (hsaid : ∀ value, readEntry ['='] ['"'] piece = some (entry.1, value) → value = entry.2) :
    piece = lead ++ part.toList := by
  have hn := h.isName
  obtain ⟨raw, hraw⟩ := h.exists_raw
  have hclosed : Closed (lead ++ (entry.1.toList ++ ['='])) :=
    (closed_of_blanks hlead).append hn.closed
  obtain ⟨first, later, -, hall⟩ := exists_pieces_append hclosed.unbroken (raw ++ tail)
  have htext : lead ++ (part.toList ++ tail)
      = lead ++ (entry.1.toList ++ ['=']) ++ (raw ++ tail) := by simp [hraw]
  rw [htext, hall] at hp
  obtain ⟨rfl, rfl⟩ := List.cons.inj hp
  have hread : readEntry ['='] ['"'] (lead ++ (entry.1.toList ++ ['=']) ++ first)
      = some (entry.1, .ofList (unquote ['"'] (Text.trimBoth Text.isBlank first))) := by
    have hblank : ∀ c ∈ lead, Text.isBlank c = true := fun c hc => hlead c hc ▸ rfl
    rw [← List.append_assoc, List.append_assoc, List.singleton_append]
    exact readEntry_eq hn hblank
  have hcommas : first.count ',' = entry.2.toList.count ',' := by
    rw [← hsaid _ hread, String.toList_ofList, count_unquote (by decide) (by decide),
      Text.count_trimBoth (by decide)]
  obtain ⟨rest, hcs, hhead⟩ : ∃ rest, lead ++ (part.toList ++ tail)
      = lead ++ (entry.1.toList ++ ['=']) ++ first ++ rest ∧
        (rest = [] ∨ rest.head? = some ',') := by
    obtain ⟨-, ⟨-, hcs⟩ | ⟨rest, hcs, -, -⟩⟩ := pieces_eq_cons hall
    · exact ⟨[], by rw [htext, hcs, List.append_nil], .inl rfl⟩
    · exact ⟨',' :: rest, by rw [htext, hcs], .inr rfl⟩
  rw [← List.append_assoc] at hcs
  refine Text.eq_of_count_eq hcs.symm hhead htail ?_
  have hnone : (entry.1.toList ++ ['=']).count ',' = 0 := by
    refine List.count_eq_zero_of_not_mem ?_
    simp [hn.not_mem (c := ',') (by decide)]
  rw [List.count_append, List.count_append, hnone, hcommas, ← h.count_eq, List.count_append]
  rfl

end Written

variable {part : String} {entry : String × String} {parts : List String}
  {entries : List (String × String)}

-- Where the first piece is the first part, the part is closed unless it is the last one, and the
-- others begin behind its comma
theorem closed_of_pieces {lead : List Char} (hlead : ∀ c ∈ lead, c = ' ')
    (h : pieces ',' .outside (lead ++ (part.toList ++ behind parts))
      = (lead ++ part.toList) :: others) :
    Scan.outside.unbroken ',' part.toList = true ∧ (parts ≠ [] → Closed part.toList ∧
      others = pieces ',' .outside (' ' :: (", ".intercalate parts).toList)) := by
  have hclosed := closed_of_blanks hlead
  obtain ⟨hunbroken, hothers⟩ := pieces_eq_cons h
  rw [Scan.unbroken_append, hclosed.unbroken, hclosed.closes, Bool.true_and] at hunbroken
  refine ⟨hunbroken, fun hne => ?_⟩
  obtain ⟨next, later, rfl⟩ := List.exists_cons_of_ne_nil hne
  rw [behind, ← List.append_assoc] at hothers
  rcases hothers with ⟨-, heq⟩ | ⟨rest, heq, hrun, rfl⟩
  · exact absurd (List.append_right_eq_self.mp heq) (List.cons_ne_nil _ _)
  · rw [List.append_cancel_left_eq] at heq
    obtain ⟨-, rfl⟩ := List.cons.inj heq
    rw [Scan.run_append, hclosed.closes] at hrun
    exact ⟨⟨hunbroken, hrun⟩, rfl⟩

-- Parts that come apart behind commas, each of which says its entry
def Brings (parts : List String) (entries : List (String × String)) : Prop :=
  Separable parts ∧ List.Forall₂ Reads parts entries

theorem brings_singleton : Brings [part] [entry] ↔
    Scan.outside.unbroken ',' part.toList = true ∧ Reads part entry := by
  simp [Brings, Separable]

theorem brings_cons_cons {next : String} {later : String × String} :
    Brings (part :: next :: parts) (entry :: later :: entries) ↔
      (Closed part.toList ∧ Reads part entry) ∧ Brings (next :: parts) (later :: entries) := by
  simp only [Brings, Separable, List.forall₂_cons]
  exact and_and_and_comm

-- If the entries are read that the parts are to say, in whatever order, then the pieces are the
-- parts
theorem brings_of_perm (lead : List Char) (h : List.Forall₂ Names parts entries)
    (hk : (OrderedMap.keys entries).Nodup) (hlead : ∀ c ∈ lead, c = ' ')
    (hperm : ((pieces ',' .outside (lead ++ (", ".intercalate parts).toList)).filterMap
      (readEntry ['='] ['"'])).Perm entries) :
    Brings parts entries := by
  induction h generalizing lead with
  | nil => exact ⟨trivial, .nil⟩
  | @cons part entry parts entries hp hrest ih =>
      obtain ⟨hnot, hkeys⟩ := List.nodup_cons.mp hk
      have hhead : behind parts = [] ∨ (behind parts).head? = some ',' := by
        cases parts with
        | nil => exact .inl rfl
        | cons next later => exact .inr rfl
      rw [toList_intercalate_cons] at hperm
      cases hpieces : pieces ',' .outside (lead ++ (part.toList ++ behind parts)) with
      | nil => exact absurd hpieces (pieces_ne_nil _ _ _)
      | cons piece others =>
          rw [hpieces] at hperm
          -- no other entry has the name of the first one, so its piece says what it is
          have hsaid : ∀ value, readEntry ['='] ['"'] piece = some (entry.1, value) →
              value = entry.2 := by
            intro value hread
            rw [List.filterMap_cons_some hread] at hperm
            rcases List.mem_cons.mp (hperm.subset List.mem_cons_self) with heq | hm
            · exact congrArg Prod.snd heq
            · exact absurd (List.mem_map_of_mem hm) hnot
          obtain rfl := hp.piece_eq hlead hhead hpieces hsaid
          have hblank : ∀ c ∈ lead, Text.isBlank c = true := fun c hc => hlead c hc ▸ rfl
          obtain ⟨value, hreads⟩ := hp.exists_reads
          obtain rfl := hsaid value (hreads lead hblank)
          rw [List.filterMap_cons_some (hreads lead hblank), List.perm_cons] at hperm
          obtain ⟨hunbroken, hlater⟩ := closed_of_pieces hlead hpieces
          cases parts with
          | nil =>
              cases hrest
              exact ⟨hunbroken, .cons hreads .nil⟩
          | cons next later =>
              obtain ⟨hclosed, rfl⟩ := hlater (List.cons_ne_nil _ _)
              obtain ⟨hs, hall⟩ := ih [' '] hkeys (fun c hc => List.mem_singleton.mp hc) hperm
              exact ⟨⟨hclosed, hs⟩, .cons hreads hall⟩

-- What is read of an entry holds none but its commas
theorem count_le_of_readEntry {entry : List Char} {said : String × String}
    (h : readEntry ['='] ['"'] entry = some said) :
    said.2.toList.count ',' ≤ entry.count ',' := by
  rw [readEntry] at h
  cases hcut : Text.cut? ['='] entry with
  | none =>
      rw [hcut] at h
      cases h
  | some sides =>
      obtain ⟨before, after⟩ := sides
      rw [hcut] at h
      simp only at h
      split at h
      · cases h
      · obtain rfl := Option.some.inj h
        rw [String.toList_ofList, count_unquote (by decide) (by decide),
          Text.count_trimBoth (by decide), Text.eq_append_of_cut? hcut, List.count_append,
          List.count_cons]
        omega

theorem sum_count_le (xs : List (List Char)) :
    ((xs.filterMap (readEntry ['='] ['"'])).map fun said => said.2.toList.count ',').sum
      ≤ (xs.map (List.count ',')).sum := by
  induction xs with
  | nil => exact Nat.le_refl 0
  | cons entry xs ih =>
      cases hread : readEntry ['='] ['"'] entry with
      | none =>
          rw [List.filterMap_cons_none hread, List.map_cons, List.sum_cons]
          omega
      | some said =>
          have hle := count_le_of_readEntry hread
          rw [List.filterMap_cons_some hread]
          simp only [List.map_cons, List.sum_cons]
          omega

theorem count_intercalate (part : String) (parts : List String) :
    (", ".intercalate (part :: parts)).toList.count ',' + 1
      = ((part :: parts).map fun p => p.toList.count ',').sum + (part :: parts).length := by
  induction parts generalizing part with
  | nil => simp
  | cons next parts ih =>
      have hrest := ih next
      rw [toList_intercalate_cons, behind, List.count_append, List.count_cons_self,
        List.count_cons_of_ne (by decide), List.map_cons, List.sum_cons, List.length_cons]
      omega

theorem sum_count_eq (h : List.Forall₂ Names parts entries) :
    (parts.map fun p => p.toList.count ',').sum
      = (entries.map fun entry => entry.2.toList.count ',').sum := by
  induction h with
  | nil => rfl
  | cons hp _ ih => rw [List.map_cons, List.map_cons, List.sum_cons, List.sum_cons, ih, hp.count_eq]

theorem subset_listed {text : String}
    (hget : ∀ entry ∈ entries, (read text).get? entry.1 = some entry.2) :
    entries ⊆ listed text := by
  intro entry hm
  have hvalue := hget entry hm
  rw [get?_read] at hvalue
  obtain ⟨piece, hpiece, hsaid⟩ := List.exists_of_findSome?_eq_some hvalue
  obtain ⟨said, hread, hif⟩ := Option.bind_eq_some_iff.mp hsaid
  obtain ⟨hname, hval⟩ := Option.ite_none_right_eq_some.mp hif
  obtain rfl : said = entry := Prod.ext hname (Option.some.inj hval)
  exact List.mem_filterMap.mpr ⟨piece, List.mem_reverse.mp hpiece, hread⟩

-- If all is read that was written, then nothing else is: there are no commas left over for
-- another piece
theorem length_listed_le (h : List.Forall₂ Names parts entries)
    (hsubperm : entries.Subperm (listed (", ".intercalate parts))) :
    (listed (", ".intercalate parts)).length ≤ entries.length := by
  cases h with
  | nil => exact Nat.le_refl 0
  | @cons part entry parts entries hp hrest =>
      have hlength : (listed (", ".intercalate (part :: parts))).length
          ≤ (pieces ',' .outside (", ".intercalate (part :: parts)).toList).length :=
        List.length_filterMap_le _ _
      have hread := sum_count_le (pieces ',' .outside (", ".intercalate (part :: parts)).toList)
      have hpieces := count_pieces ',' .outside (", ".intercalate (part :: parts)).toList
      have hparts := count_intercalate part parts
      have hwritten := sum_count_eq (.cons hp hrest)
      have hlengths := (List.Forall₂.cons hp hrest).length_eq
      obtain ⟨found, hperm, hsub⟩ := hsubperm
      obtain ⟨left, hleft⟩ := hsub.exists_perm_append
      have hall := (hleft.trans (hperm.append_right left)).map fun said => said.2.toList.count ','
      have hsums := hall.sum_nat
      rw [List.map_append, List.sum_append] at hsums
      unfold listed at hlength hsums ⊢
      omega

-- So if every name has the value that it was written with, the entries are those that were written
theorem listed_perm (h : List.Forall₂ Names parts entries) (hk : (OrderedMap.keys entries).Nodup)
    (hget : ∀ entry ∈ entries,
      (read (", ".intercalate parts)).get? entry.1 = some entry.2) :
    (listed (", ".intercalate parts)).Perm entries := by
  have hsubperm : entries.Subperm (listed (", ".intercalate parts)) :=
    List.subperm_of_subset (List.Nodup.of_map _ hk) (subset_listed hget)
  exact (hsubperm.perm_of_length_le (length_listed_le h hsubperm)).symm

theorem brings_of_get? (h : List.Forall₂ Names parts entries)
    (hk : (OrderedMap.keys entries).Nodup)
    (hget : ∀ entry ∈ entries,
      (read (", ".intercalate parts)).get? entry.1 = some entry.2) :
    Brings parts entries :=
  brings_of_perm [] h hk (by simp) (listed_perm h hk hget)

-- The entries are read exactly if the parts bring them across
theorem read_intercalate_eq_iff (h : List.Forall₂ Names parts entries)
    (hk : (OrderedMap.keys entries).Nodup) :
    read (", ".intercalate parts) = entries ↔ Brings parts entries := by
  constructor
  · intro hread
    refine brings_of_get? h hk fun entry hm => ?_
    rw [hread]
    exact OrderedMap.get?_eq_some_of_mem hk hm
  · rintro ⟨hs, hreads⟩
    rw [read_eq_ofList_listed, listed_intercalate hs hreads, OrderedMap.ofList_of_nodup hk]

theorem separable_of_get? (h : List.Forall₂ Writes parts entries)
    (hk : (OrderedMap.keys entries).Nodup)
    (hget : ∀ entry ∈ entries,
      (read (", ".intercalate parts)).get? entry.1 = some entry.2) :
    Separable parts :=
  (brings_of_get? (h.imp fun _ _ hp => hp.names) hk hget).1

-- What was written is read back exactly if the parts come apart
theorem read_intercalate_iff (h : List.Forall₂ Writes parts entries)
    (hk : (OrderedMap.keys entries).Nodup) :
    read (", ".intercalate parts) = entries ↔ Separable parts :=
  (read_intercalate_eq_iff (h.imp fun _ _ hp => hp.names) hk).trans
    (and_iff_left (h.imp fun _ _ hp => hp.reads))

end Directives

end HttpDigest
