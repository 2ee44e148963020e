import HttpDigest.Proofs.Percent
import Mathlib.Data.List.Induction
import Mathlib.Data.List.TakeWhile

namespace HttpDigest.Url

variable {cs host last : List Char} {segs base below : List (List Char)} {default scheme : List Char}
  {c : Char}

-- A character that stands for itself in the host or the path of an address and ends neither
def Plain (c : Char) : Prop :=
  32 < c.toNat ∧ c ∉ ['/', '?', '#']

structure Name (segment : List Char) : Prop where
  ne_nil : segment ≠ []
  ne_here : segment ≠ ['.']
  ne_parent : segment ≠ ['.', '.']
  plain : ∀ c ∈ segment, Plain c

instance (c : Char) : Decidable (Plain c) :=
  inferInstanceAs (Decidable (_ ∧ _))

theorem all_plain_iff : cs.all (fun c => Plain c) = true ↔ ∀ c ∈ cs, Plain c := by
  simp only [List.all_eq_true, decide_eq_true_iff]

instance (segment : List Char) : Decidable (Name segment) :=
  decidable_of_iff (segment ≠ [] ∧ segment ≠ ['.'] ∧ segment ≠ ['.', '.'] ∧
    segment.all (fun c => Plain c) = true)
    ⟨fun ⟨hn, hh, hp, hc⟩ => ⟨hn, hh, hp, all_plain_iff.mp hc⟩,
      fun ⟨hn, hh, hp, hc⟩ => ⟨hn, hh, hp, all_plain_iff.mpr hc⟩⟩

def folders (segs : List (List Char)) : List Char :=
  segs.flatMap (· ++ ['/'])

theorem folders_append (segs more : List (List Char)) :
    folders (segs ++ more) = folders segs ++ folders more :=
  List.flatMap_append

theorem folders_nil_cons (segs : List (List Char)) : folders ([] :: segs) = '/' :: folders segs :=
  rfl

theorem intercalate_concat (segs : List (List Char)) (last : List Char) :
    ['/'].intercalate (segs ++ [last]) = folders segs ++ last := by
  induction segs with
  | nil => exact List.intercalate_singleton
  | cons first segs ih =>
      have hne : segs ++ [last] ≠ [] := List.append_ne_nil_of_right_ne_nil _ (List.cons_ne_nil _ _)
      obtain ⟨next, others, hcons⟩ := List.exists_cons_of_ne_nil hne
      rw [List.cons_append, hcons, List.intercalate_cons_cons, ← hcons, ih]
      simp [folders]

theorem splitOn_folders (hs : ∀ s ∈ segs, '/' ∉ s) (hl : '/' ∉ last) :
    (folders segs ++ last).splitOn '/' = segs ++ [last] := by
  rw [← intercalate_concat]
  refine List.splitOn_intercalate '/' (fun s hm => ?_)
    (List.append_ne_nil_of_right_ne_nil _ (List.cons_ne_nil _ _))
  rcases List.mem_append.mp hm with hm | hm
  · exact hs s hm
  · exact List.mem_singleton.mp hm ▸ hl

theorem Plain.ne_slash (h : Plain c) : c ≠ '/' := by
  rintro rfl
  exact absurd h.2 (by decide)

theorem Name.not_mem_slash (h : Name cs) : '/' ∉ cs :=
  fun hm => (h.plain '/' hm).ne_slash rfl

theorem head?_folders_append (hn : ∀ s ∈ segs, Name s) (hne : segs ≠ []) :
    (folders segs ++ last).head? ≠ some '/' := by
  obtain ⟨first, others, rfl⟩ := List.exists_cons_of_ne_nil hne
  have hfirst := hn first List.mem_cons_self
  obtain ⟨c, cs, rfl⟩ := List.exists_cons_of_ne_nil hfirst.ne_nil
  intro hhead
  obtain rfl : c = '/' := Option.some.inj hhead
  exact hfirst.not_mem_slash List.mem_cons_self

theorem exists_folders_eq (hne : segs ≠ []) : ∃ before, folders segs = before ++ ['/'] := by
  cases segs using List.reverseRecOn with
  | nil => exact absurd rfl hne
  | append_singleton segs last => exact ⟨folders segs ++ last, by simp [folders]⟩

theorem plain_of_mem_folders (h : ∀ s ∈ segs, ∀ c ∈ s, Plain c) (hc : c ∈ folders segs) :
    Plain c ∨ c = '/' := by
  obtain ⟨s, hs, hm⟩ := List.mem_flatMap.mp hc
  rcases List.mem_append.mp hm with hm | hm
  · exact .inl (h s hs c hm)
  · exact .inr (List.mem_singleton.mp hm)

theorem clean_of_plain (h : ∀ c ∈ cs, 32 < c.toNat) : clean cs = cs := by
  have hgt : ∀ {c : Char}, 32 < c.toNat → ¬c ≤ ' ' := by
    intro c hc hle
    rw [Char.le_def, UInt32.le_iff_toNat_le] at hle
    exact absurd hc (Nat.not_lt.mpr hle)
  have hdrop : cs.dropWhile (fun c => c ≤ ' ') = cs := by
    cases cs with
    | nil => rfl
    | cons c cs => exact List.dropWhile_cons_of_neg (by simpa using hgt (h c List.mem_cons_self))
  rw [clean, hdrop, List.filter_eq_self]
  intro c hc
  have hlt := h c hc
  simp only [Bool.and_eq_true, bne_iff_ne]
  refine ⟨⟨?_, ?_⟩, ?_⟩ <;> rintro rfl <;> exact absurd hlt (by decide)

theorem splitScheme_append (hc : ':' ∉ scheme) (hall : scheme.all isSchemeChar = true)
    (hhead : scheme.head?.any Char.isAlpha = true) (rest : List Char) :
    splitScheme default (scheme ++ ':' :: rest) = (scheme.map Char.toLower, rest) := by
  simp only [splitScheme, Text.takeWhile_parts hc, List.drop_left, hall, hhead, Bool.and_self,
    if_true]

-- No scheme ends behind the first slash
theorem splitScheme_of_slash {first rest : List Char} (hc : ':' ∉ first) :
    splitScheme default (first ++ '/' :: rest) = (default, first ++ '/' :: rest) := by
  have hhead : (first ++ '/' :: rest).takeWhile (· != ':')
      = first ++ '/' :: rest.takeWhile (· != ':') := by
    rw [List.takeWhile_append_of_pos]
    · rfl
    · intro c hm
      exact bne_iff_ne.mpr fun he => hc (he ▸ hm)
  have hslash : (first ++ '/' :: rest.takeWhile (· != ':')).all isSchemeChar = false := by
    rw [List.all_append, List.all_cons]
    simp [show isSchemeChar '/' = false by decide]
  rw [splitScheme, hhead]
  simp only [hslash, Bool.false_and, Bool.false_eq_true, if_false]
  split <;> rfl

theorem splitAuthority_append (h : ∀ c ∈ host, Plain c) (rest : List Char) :
    splitAuthority ('/' :: '/' :: (host ++ '/' :: rest)) = (host, '/' :: rest) := by
  have htake : (host ++ '/' :: rest).takeWhile (fun c => c != '/' && c != '?' && c != '#')
      = host := by
    rw [List.takeWhile_append_of_pos]
    · simp
    · intro c hc
      have hplain := (h c hc).2
      simp only [List.mem_cons, List.not_mem_nil, or_false, not_or] at hplain
      simp [hplain]
  simp only [splitAuthority, htake, List.drop_left]

theorem splitAuthority_of_ne (h : cs.head? ≠ some '/') : splitAuthority cs = ([], cs) := by
  unfold splitAuthority
  split
  · exact absurd rfl h
  · rfl

theorem cutAt_of_not_mem {mark : Char} (h : mark ∉ cs) : cutAt mark cs = (cs, []) := by
  have htake : cs.takeWhile (· != mark) = cs := by
    rw [List.takeWhile_eq_self_iff]
    intro c hc
    exact bne_iff_ne.mpr fun he => h (he ▸ hc)
  simp only [cutAt, htake]
  rw [List.drop_eq_nil_of_le (Nat.le_succ _)]

theorem splitParams_append {before : List Char} (hs : '/' ∉ last) (hp : ';' ∉ last) :
    splitParams (before ++ '/' :: last) = (before ++ '/' :: last, []) := by
  have htake : ((before ++ '/' :: last).reverse.takeWhile (· != '/')).reverse = last := by
    rw [List.reverse_append, List.reverse_cons, List.append_assoc, List.singleton_append,
      Text.takeWhile_parts (by simpa using hs), List.reverse_reverse]
  have hbefore : (before ++ '/' :: last).take ((before ++ '/' :: last).length - last.length)
      = before ++ ['/'] := by
    have hlength : (before ++ '/' :: last).length - last.length = (before ++ ['/']).length := by
      simp only [List.length_append, List.length_cons, List.length_nil]
      omega
    rw [hlength, show before ++ '/' :: last = before ++ ['/'] ++ last by simp, List.take_left]
  simp only [splitParams, htake, hbefore, cutAt_of_not_mem hp]
  simp

theorem resolve_concat (segs : List (List Char)) (last : List Char) :
    resolve (segs ++ [last]) = if last = ['.', '.'] then (resolve segs).dropLast
      else if last = ['.'] then resolve segs else resolve segs ++ [last] := by
  rw [resolve, List.foldl_append]
  rfl

theorem resolve_of_names (h : ∀ s ∈ segs, s ≠ ['.'] ∧ s ≠ ['.', '.']) : resolve segs = segs := by
  induction segs using List.reverseRecOn with
  | nil => rfl
  | append_singleton segs last ih =>
      obtain ⟨hhere, hparent⟩ := h last (by simp)
      rw [resolve_concat, if_neg hparent, if_neg hhere, ih fun s hs => h s (by simp [hs])]

theorem dropEmptyWithin_cons_concat (first : List Char) (segs : List (List Char))
    (last : List Char) :
    dropEmptyWithin (first :: (segs ++ [last])) = first :: segs.filter (!·.isEmpty) ++ [last] := by
  simp [dropEmptyWithin]

-- The place that a path of names and a last segment leads to, and what stands behind it
def landing (names : List (List Char)) (last : List Char) : List (List Char) × List Char :=
  if last = ['.', '.'] then (names.dropLast, [])
  else if last = ['.'] then (names, []) else (names, last)

theorem segments_names (hb : ∀ s ∈ base, Name s) (hn : ∀ s ∈ below, Name s) (hne : below ≠ [])
    (hl : '/' ∉ last) :
    segments ('/' :: folders base) (folders below ++ last) = [] :: (base ++ below) ++ [last] := by
  have hbase : ('/' :: folders base).splitOn '/' = [] :: base ++ [[]] := by
    have hslash : ∀ s ∈ [] :: base, '/' ∉ s := by
      intro s hs
      rcases List.mem_cons.mp hs with rfl | hs
      · exact List.not_mem_nil
      · exact (hb s hs).not_mem_slash
    rw [← folders_nil_cons, ← (folders _).append_nil]
    exact splitOn_folders hslash List.not_mem_nil
  have hfilter : (base ++ [[]] ++ below).filter (!·.isEmpty) = base ++ below := by
    have hkeep : ∀ {segs : List (List Char)}, (∀ s ∈ segs, Name s) →
        segs.filter (!·.isEmpty) = segs := fun h =>
      List.filter_eq_self.mpr fun s hs => by simpa using (h s hs).ne_nil
    rw [List.filter_append, List.filter_append, hkeep hb, hkeep hn]
    simp
  have hlast : ([] :: base ++ [[]]).getLastD [] = ([] : List Char) := List.getLastD_concat
  have hall := dropEmptyWithin_cons_concat [] (base ++ [[]] ++ below) last
  rw [hfilter] at hall
  rw [segments, if_neg (head?_folders_append hn hne), hbase,
    splitOn_folders (fun s hs => (hn s hs).not_mem_slash) hl]
  simp only [hlast, List.isEmpty_nil, if_true]
  simpa using hall

-- The last segment is left empty where it was a step
theorem resolve_landing (hb : ∀ s ∈ base, Name s) (hn : ∀ s ∈ below, Name s) (hne : below ≠ []) :
    resolve ([] :: (base ++ below) ++ [last])
        ++ (if last = ['.'] || last = ['.', '.'] then [[]] else [])
      = [] :: (base ++ (landing below last).1) ++ [(landing below last).2] := by
  have hnames : resolve ([] :: (base ++ below)) = [] :: (base ++ below) := by
    refine resolve_of_names fun s hs => ?_
    rcases List.mem_cons.mp hs with rfl | hs
    · exact ⟨by decide, by decide⟩
    · rcases List.mem_append.mp hs with hs | hs
      · exact ⟨(hb s hs).ne_here, (hb s hs).ne_parent⟩
      · exact ⟨(hn s hs).ne_here, (hn s hs).ne_parent⟩
  rw [resolve_concat, hnames, landing]
  by_cases hparent : last = ['.', '.']
  · subst hparent
    simp [List.dropLast_append_of_ne_nil hne, List.dropLast_cons_of_ne_nil, hne]
  · by_cases hhere : last = ['.']
    · subst hhere
      simp
    · simp [hparent, hhere]

theorem mergePath_names (hb : ∀ s ∈ base, Name s) (hn : ∀ s ∈ below, Name s) (hne : below ≠ [])
    (hl : '/' ∉ last) :
    mergePath ('/' :: folders base) (folders below ++ last)
      = '/' :: folders (base ++ (landing below last).1) ++ (landing below last).2 := by
  simp only [mergePath, segments_names hb hn hne hl, List.getLastD_concat]
  rw [resolve_landing hb hn hne, intercalate_concat, folders_nil_cons]
  simp

def Web (scheme : List Char) : Prop :=
  scheme = "http".toList ∨ scheme = "https".toList

def absolute (scheme host path : List Char) : List Char :=
  scheme ++ ':' :: '/' :: '/' :: (host ++ '/' :: path)

theorem Web.isIn (h : Web scheme) :
    isIn scheme relativeSchemes = true ∧ Url.isIn scheme authoritySchemes = true := by
  rcases h with rfl | rfl <;> decide

theorem Web.plain (h : Web scheme) : ∀ c ∈ scheme, Plain c :=
  all_plain_iff.mp (by rcases h with rfl | rfl <;> decide)

theorem Web.ne_nil (h : Web scheme) : scheme ≠ [] := by
  rcases h with rfl | rfl <;> decide

theorem Web.splitScheme_eq (h : Web scheme) (rest : List Char) :
    splitScheme default (scheme ++ ':' :: rest) = (scheme, rest) := by
  have hlower : scheme.map Char.toLower = scheme := by rcases h with rfl | rfl <;> decide
  have hsplit : splitScheme default (scheme ++ ':' :: rest) = (scheme.map Char.toLower, rest) := by
    refine splitScheme_append ?_ ?_ ?_ rest <;> rcases h with rfl | rfl <;> decide
  rwa [hlower] at hsplit

theorem not_mem_folders {mark : Char} (h : ∀ s ∈ segs, Name s) (hm : ¬Plain mark)
    (hs : mark ≠ '/') : mark ∉ folders segs := by
  intro hc
  rcases plain_of_mem_folders (fun s hm => (h s hm).plain) hc with hp | rfl
  · exact hm hp
  · exact hs rfl

theorem gt_of_mem_folders (h : ∀ s ∈ segs, Name s) (hc : c ∈ folders segs) : 32 < c.toNat := by
  rcases plain_of_mem_folders (fun s hm => (h s hm).plain) hc with hp | rfl
  · exact hp.1
  · decide

theorem parse?_of_parts {rest path : List Char}
    (hs : splitScheme default (clean cs) = (scheme, rest))
    (ha : splitAuthority rest = (host, path)) (hhash : '#' ∉ path) (hquery : '?' ∉ path)
    (hparams : splitParams path = (path, [])) :
    parse? default cs = if authorityFits host then some {
      scheme, authority := host, path, params := [], query := [], fragment := [] } else none := by
  simp only [parse?, split?, hs, ha, cutAt_of_not_mem hhash, cutAt_of_not_mem hquery]
  cases authorityFits host <;> simp [hparams]

theorem parse?_absolute (hw : Web scheme) (hh : ∀ c ∈ host, Plain c) (hb : ∀ s ∈ base, Name s) :
    parse? default (absolute scheme host (folders base))
      = if authorityFits host then some {
          scheme, authority := host, path := '/' :: folders base
          params := [], query := [], fragment := [] } else none := by
  have hclean : clean (absolute scheme host (folders base))
      = absolute scheme host (folders base) := by
    refine clean_of_plain fun c hc => ?_
    simp only [absolute, List.mem_append, List.mem_cons] at hc
    rcases hc with hc | rfl | rfl | rfl | hc | rfl | hc
    · exact (hw.plain c hc).1
    · decide
    · decide
    · decide
    · exact (hh c hc).1
    · decide
    · exact gt_of_mem_folders hb hc
  have hmark : ∀ mark, ¬Plain mark → mark ≠ '/' → mark ∉ '/' :: folders base := by
    intro mark hmark hslash hm
    exact (List.mem_cons.mp hm).elim hslash (not_mem_folders hb hmark hslash)
  have hparams : splitParams ('/' :: folders base) = ('/' :: folders base, []) := by
    obtain ⟨before, hbefore⟩ := exists_folders_eq (List.cons_ne_nil [] base)
    rw [← folders_nil_cons, hbefore]
    exact splitParams_append List.not_mem_nil List.not_mem_nil
  refine parse?_of_parts ?_ (splitAuthority_append hh _) (hmark '#' (by decide) (by decide))
    (hmark '?' (by decide) (by decide)) hparams
  rw [hclean]
  exact hw.splitScheme_eq _

structure Tail (last : List Char) : Prop where
  plain : ∀ c ∈ last, Plain c
  noSlash : '/' ∉ last
  noParams : ';' ∉ last

theorem tail_encodeSegment (s : String) : Tail (encodeSegment s) := by
  have hmarks : ∀ c, c = '%' ∨ Unreserved c → 32 < c.toNat ∧ c ∉ ['/', '?', '#', ';'] := by
    rintro c (rfl | hc | hc)
    · decide
    · have hcontrol : ∀ n < 33, (Char.ofNat n).isAlphanum = false := by decide
      refine ⟨Nat.lt_of_not_le fun hle => ?_, fun hm => ?_⟩
      · have hnot := hcontrol c.toNat (Nat.lt_succ_of_le hle)
        rw [Char.ofNat_toNat, hc] at hnot
        cases hnot
      simp only [List.mem_cons, List.not_mem_nil, or_false] at hm
      rcases hm with rfl | rfl | rfl | rfl <;> exact absurd hc (by decide)
    · simp only [List.mem_cons, List.not_mem_nil, or_false] at hc
      rcases hc with rfl | rfl | rfl | rfl <;> decide
  have hall : ∀ c ∈ encodeSegment s, 32 < c.toNat ∧ c ∉ ['/', '?', '#', ';'] :=
    fun c hc => hmarks c (unreserved_of_mem_encodeSegment hc)
  refine ⟨fun c hc => ⟨(hall c hc).1, fun hm => ?_⟩, fun hm => ?_, fun hm => ?_⟩
  · exact (hall c hc).2 (List.mem_append_left [';'] hm)
  · exact (hall _ hm).2 (by decide)
  · exact (hall _ hm).2 (by decide)

theorem parse?_relative (hn : ∀ s ∈ below, Name s) (hne : below ≠ [])
    (hcolon : ∀ s ∈ below.head?, ':' ∉ s) (hl : Tail last) :
    parse? default (folders below ++ last) = some {
      scheme := default, authority := [], path := folders below ++ last
      params := [], query := [], fragment := [] } := by
  have hclean : clean (folders below ++ last) = folders below ++ last := by
    refine clean_of_plain fun c hc => ?_
    rcases List.mem_append.mp hc with hc | hc
    · exact gt_of_mem_folders hn hc
    · exact (hl.plain c hc).1
  have hscheme : splitScheme default (clean (folders below ++ last))
      = (default, folders below ++ last) := by
    rw [hclean]
    obtain ⟨first, others, rfl⟩ := List.exists_cons_of_ne_nil hne
    have hsplit : folders (first :: others) ++ last = first ++ '/' :: (folders others ++ last) := by
      simp [folders]
    rw [hsplit]
    exact splitScheme_of_slash (hcolon first rfl)
  have hmark : ∀ mark, ¬Plain mark → mark ≠ '/' → mark ∉ folders below ++ last := by
    intro mark hmark hslash hm
    rcases List.mem_append.mp hm with hm | hm
    · exact not_mem_folders hn hmark hslash hm
    · exact hmark (hl.plain mark hm)
  have hparams : splitParams (folders below ++ last) = (folders below ++ last, []) := by
    obtain ⟨before, hbefore⟩ := exists_folders_eq hne
    rw [hbefore, List.append_assoc, List.singleton_append]
    exact splitParams_append hl.noSlash hl.noParams
  have hparse := parse?_of_parts hscheme (splitAuthority_of_ne (head?_folders_append hn hne))
    (hmark '#' (by decide) (by decide)) (hmark '?' (by decide) (by decide)) hparams
  rwa [if_pos (by decide)] at hparse

-- A relative address below an absolute one
theorem join?_folders (hw : Web scheme) (hh : ∀ c ∈ host, Plain c) (hhost : host ≠ [])
    (hfits : authorityFits host = true) (hb : ∀ s ∈ base, Name s) (hn : ∀ s ∈ below, Name s)
    (hne : below ≠ []) (hcolon : ∀ s ∈ below.head?, ':' ∉ s) (hl : Tail last) :
    join? (absolute scheme host (folders base)) (folders below ++ last)
      = some (absolute scheme host
          (folders (base ++ (landing below last).1) ++ (landing below last).2)) := by
  obtain ⟨before, hbefore⟩ := exists_folders_eq hne
  have hbase : (absolute scheme host (folders base)).isEmpty = false := by
    simp [absolute]
  have htarget : (folders below ++ last).isEmpty = false := by
    simp [hbefore]
  obtain ⟨hrelative, hauthority⟩ := hw.isIn
  rw [join?, hbase, htarget, parse?_absolute hw hh hb, if_pos hfits]
  simp only [Bool.false_eq_true, if_false, Option.bind_eq_bind, Option.bind_some,
    parse?_relative hn hne hcolon hl, hrelative, hauthority, htarget]
  simp [write, absolute, mergePath_names hb hn hne hl.noSlash, hhost, hw.ne_nil]

end HttpDigest.Url
