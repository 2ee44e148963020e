import HttpDigest.Proofs.Quoting
import Mathlib.Data.List.Induction

namespace HttpDigest

namespace Directives

variable {delimiter : Char} {s : Scan} {cs ds : List Char}

-- A scan that meets no delimiter outside quotes
def Scan.unbroken (delimiter : Char) : Scan → List Char → Bool
  | _, [] => true
  | s, c :: rest => !s.breaks delimiter c && unbroken delimiter (s.next c) rest

theorem Scan.unbroken_append : s.unbroken delimiter (cs ++ ds) =
    (s.unbroken delimiter cs && (s.run cs).unbroken delimiter ds) := by
  induction cs generalizing s with
  | nil => rfl
  | cons c cs ih =>
      rw [List.cons_append, unbroken, unbroken, ih, run_cons, Bool.and_assoc]

theorem pieces_of_unbroken (h : s.unbroken delimiter cs = true) :
    pieces delimiter s cs = [cs] := by
  induction cs generalizing s with
  | nil => rfl
  | cons c cs ih =>
      rw [Scan.unbroken, Bool.and_eq_true, Bool.not_eq_true'] at h
      rw [pieces, h.1, ih h.2]
      rfl

-- Behind a delimiter outside quotes the text is read as one that begins there
theorem pieces_append (hd : delimiter ≠ '"') (h : s.run cs = .outside) :
    pieces delimiter s (cs ++ delimiter :: ds)
      = pieces delimiter s cs ++ pieces delimiter .outside ds := by
  induction cs generalizing s with
  | nil =>
      obtain rfl : s = .outside := h
      have hb : Scan.outside.breaks delimiter delimiter = true := by simp [Scan.breaks, hd]
      rw [List.nil_append, pieces, pieces, if_pos hb]
      rfl
  | cons c cs ih =>
      rw [List.cons_append, pieces, pieces]
      by_cases hb : s.breaks delimiter c = true
      · rw [Scan.run_cons, (Scan.outside_of_breaks hb).2.2] at h
        rw [if_pos hb, if_pos hb, ih h, List.cons_append]
      · rw [if_neg hb, if_neg hb, ih h]
        cases hp : pieces delimiter (s.next c) cs with
        | nil => exact absurd hp (pieces_ne_nil delimiter (s.next c) cs)
        | cons piece others => rfl

-- A text that is one piece, with all its quotes closed
structure Closed (cs : List Char) : Prop where
  unbroken : Scan.outside.unbroken ',' cs = true
  closes : Scan.outside.run cs = .outside

theorem Closed.append (hc : Closed cs) (hd : Closed ds) : Closed (cs ++ ds) := by
  refine ⟨?_, ?_⟩
  · rw [Scan.unbroken_append, hc.unbroken, hc.closes, hd.unbroken]
    rfl
  · rw [Scan.run_append, hc.closes, hd.closes]

theorem closed_of_not_mem (hcomma : ',' ∉ cs) (hquote : '"' ∉ cs) : Closed cs := by
  induction cs with
  | nil => exact ⟨rfl, rfl⟩
  | cons c cs ih =>
      have ih := ih (fun hm => hcomma (List.mem_cons_of_mem c hm))
        (fun hm => hquote (List.mem_cons_of_mem c hm))
      have hne : c ≠ ',' := fun he => hcomma (he ▸ List.mem_cons_self)
      have hnext : Scan.outside.next c = .outside :=
        if_neg fun he : c = '"' => hquote (he ▸ List.mem_cons_self)
      refine ⟨?_, ?_⟩
      · rw [Scan.unbroken, hnext, ih.unbroken]
        simp [Scan.breaks, hne]
      · rw [Scan.run_cons, hnext, ih.closes]

end Directives

namespace Client

def backslashes (cs : List Char) : Nat :=
  (cs.reverse.takeWhile (· == '\\')).length

theorem backslashes_concat (cs : List Char) (c : Char) :
    backslashes (cs ++ [c]) = if c = '\\' then backslashes cs + 1 else 0 := by
  rw [backslashes, List.reverse_concat, List.takeWhile_cons]
  by_cases hc : c = '\\' <;> simp [hc, backslashes]

-- Every run of backslashes before a quote or at the end is of even length
def Quotable (v : String) : Prop :=
  ∀ before after, v.toList = before ++ after → (after = [] ∨ ∃ rest, after = '"' :: rest) →
    backslashes before % 2 = 0

-- It is enough to look at the places of the text
theorem quotable_iff {v : String} : Quotable v ↔ ∀ i ≤ v.toList.length,
    ((v.toList.drop i).head? = none ∨ (v.toList.drop i).head? = some '"') →
      backslashes (v.toList.take i) % 2 = 0 := by
  constructor
  · intro hq i _ hhead
    refine hq _ _ (List.take_append_drop i v.toList).symm ?_
    rcases hhead with hnone | hquote
    · exact .inl (List.head?_eq_none_iff.mp hnone)
    · exact .inr (List.head?_eq_some_iff.mp hquote)
  · intro h before after hv hafter
    have hplace := h before.length (by rw [hv, List.length_append]; omega)
    rw [hv, List.drop_left, List.take_left] at hplace
    apply hplace
    rcases hafter with rfl | ⟨rest, rfl⟩
    · exact .inl rfl
    · exact .inr rfl

instance (v : String) : Decidable (Quotable v) :=
  decidable_of_iff _ quotable_iff.symm

theorem quotable_of_not_mem {v : String} (h : '\\' ∉ v.toList) : Quotable v := by
  intro before after hv _
  have hnone : before.reverse.takeWhile (· == '\\') = [] := by
    cases hr : before.reverse with
    | nil => rfl
    | cons c rest =>
        have hmem : c ∈ before := List.mem_reverse.mp (hr ▸ List.mem_cons_self)
        have hne : c ≠ '\\' := fun he => h (hv ▸ List.mem_append_left after (he ▸ hmem))
        exact List.takeWhile_cons_of_neg (by simpa using hne)
  rw [backslashes, hnone]
  rfl

def parity (cs : List Char) : Directives.Scan :=
  if backslashes cs % 2 = 0 then .inside else .escaped

-- Of a value that can be quoted no part ends the quotes, as the quotes in it are protected
theorem scan_escape {v : String} {delimiter : Char} (hq : Quotable v) {before after : List Char}
    (hv : v.toList = before ++ after) :
    Directives.Scan.inside.run (escape before) = parity before ∧
      Directives.Scan.inside.unbroken delimiter (escape before) = true := by
  induction before using List.reverseRecOn generalizing after with
  | nil => exact ⟨rfl, rfl⟩
  | append_singleton before c ih =>
      rw [List.append_assoc, List.singleton_append] at hv
      obtain ⟨hrun, hunbroken⟩ := ih hv
      rw [escape_append, Directives.Scan.run_append, Directives.Scan.unbroken_append, hrun,
        hunbroken, escape_cons, escape_nil, List.append_nil, parity, parity, backslashes_concat]
      by_cases hc : c = '"'
      · subst hc
        rw [if_pos (hq before _ hv (.inr ⟨after, rfl⟩))]
        exact ⟨rfl, rfl⟩
      · rw [if_neg hc]
        by_cases hb : c = '\\'
        · subst hb
          by_cases hp : backslashes before % 2 = 0
          · have hodd : (backslashes before + 1) % 2 ≠ 0 := by omega
            rw [if_pos hp, if_pos rfl, if_neg hodd]
            exact ⟨rfl, rfl⟩
          · have heven : (backslashes before + 1) % 2 = 0 := by omega
            rw [if_neg hp, if_pos rfl, if_pos heven]
            exact ⟨rfl, rfl⟩
        · rw [if_neg hb]
          by_cases hp : backslashes before % 2 = 0 <;>
            simp [hp, hb, hc, Directives.Scan.next, Directives.Scan.unbroken,
              Directives.Scan.breaks]

theorem closed_quote {v : String} (hq : Quotable v) : Directives.Closed (quote v).toList := by
  obtain ⟨hrun, hunbroken⟩ : Directives.Scan.inside.run (escape v.toList) = parity v.toList ∧
      Directives.Scan.inside.unbroken ',' (escape v.toList) = true :=
    scan_escape hq (List.append_nil _).symm
  rw [parity, if_pos (hq _ _ (List.append_nil _).symm (.inl rfl))] at hrun
  rw [toList_quote]
  refine ⟨?_, ?_⟩
  · rw [List.cons_append, Directives.Scan.unbroken, Directives.Scan.unbroken_append]
    rw [show Directives.Scan.outside.next '"' = .inside from rfl, hunbroken, hrun]
    rfl
  · rw [List.cons_append, Directives.Scan.run_cons, Directives.Scan.run_append]
    rw [show Directives.Scan.outside.next '"' = .inside from rfl, hrun]
    rfl

end Client

namespace Text

section Trim

variable {α : Type} {p : α → Bool} {xs lead tail : List α}

-- Nothing is trimmed where both ends stay
theorem trimBoth_of_ends (hhead : ∀ x ∈ xs.head?, p x = false)
    (hlast : ∀ x ∈ xs.getLast?, p x = false) : trimBoth p xs = xs := by
  have hdrop : ∀ ys : List α, (∀ x ∈ ys.head?, p x = false) → ys.dropWhile p = ys := by
    intro ys hy
    cases ys with
    | nil => rfl
    | cons y ys => rw [List.dropWhile_cons_of_neg (by simp [hy y rfl])]
  rw [trimBoth, hdrop xs hhead, hdrop xs.reverse (by simpa using hlast), List.reverse_reverse]

theorem trimBoth_append (h : ∀ x ∈ lead, p x = true) :
    trimBoth p (lead ++ xs) = trimBoth p xs := by
  rw [trimBoth, List.dropWhile_append_of_pos h, trimBoth]

theorem trimBoth_between (hl : ∀ x ∈ lead, p x = true) (ht : ∀ x ∈ tail, p x = true)
    (hne : xs ≠ []) (hhead : ∀ x ∈ xs.head?, p x = false)
    (hlast : ∀ x ∈ xs.getLast?, p x = false) : trimBoth p (lead ++ xs ++ tail) = xs := by
  have hxs := trimBoth_of_ends hhead hlast
  obtain ⟨x, rest, rfl⟩ := List.exists_cons_of_ne_nil hne
  have hx : ¬p x = true := by simpa using hhead x rfl
  rw [trimBoth, List.dropWhile_cons_of_neg hx] at hxs
  rw [List.append_assoc, trimBoth_append hl, trimBoth, List.cons_append,
    List.dropWhile_cons_of_neg hx, ← List.cons_append, List.reverse_append,
    List.dropWhile_append_of_pos (by simpa using ht), hxs]

end Trim

theorem isBlank_eq_false {c : Char} (h : 0x20 < c.toNat ∧ c.toNat < 0x80) : isBlank c = false := by
  have hs : isWhiteSpace c = false := by
    rw [isWhiteSpace, whiteSpace, inRanges, if_neg (by omega), if_neg (by omega), inRanges,
      if_neg (by omega), if_neg (by omega), inRanges, if_pos (by omega)]
  simp only [isBlank, hs, Bool.false_or, Bool.and_eq_false_iff, decide_eq_false_iff_not]
  omega

theorem not_mem_of_blanks {c : Char} {cs : List Char} (h : 0x20 < c.toNat ∧ c.toNat < 0x80)
    (hcs : ∀ x ∈ cs, isBlank x = true) : c ∉ cs := by
  intro hm
  have hblank : isBlank c = true := hcs c hm
  rw [isBlank_eq_false h] at hblank
  cases hblank

theorem cutFrom_append {α : Type} [BEq α] [LawfulBEq α] {x : α} {xs ys done : List α}
    (h : x ∉ xs) : cutFrom [x] done (xs ++ x :: ys) = some (done.reverse ++ xs, ys) := by
  induction xs generalizing done with
  | nil => simp [cutFrom, afterPrefix?]
  | cons y rest ih =>
      have hne : x ≠ y := fun he => h (he ▸ List.mem_cons_self)
      have hnot : afterPrefix? [x] (y :: (rest ++ x :: ys)) = none := by
        simp [afterPrefix?, hne]
      rw [List.cons_append, cutFrom, hnot]
      simp only
      rw [ih fun hm => h (List.mem_cons_of_mem y hm)]
      simp

theorem cut?_append {α : Type} [BEq α] [LawfulBEq α] {x : α} {xs ys : List α} (h : x ∉ xs) :
    cut? [x] (xs ++ x :: ys) = some (xs, ys) :=
  cutFrom_append h

theorem cut?_of_not_mem {α : Type} [BEq α] [LawfulBEq α] {x : α} {xs : List α} (h : x ∉ xs) :
    cut? [x] xs = none := by
  suffices ∀ done, cutFrom [x] done xs = none from this []
  induction xs with
  | nil => exact fun _ => rfl
  | cons y rest ih =>
      intro done
      have hne : x ≠ y := fun he => h (he ▸ List.mem_cons_self)
      have hnot : afterPrefix? [x] (y :: rest) = none := by
        simp [afterPrefix?, hne]
      rw [cutFrom, hnot]
      exact ih (fun hm => h (List.mem_cons_of_mem y hm)) (y :: done)

-- Small letters are small already
theorem lowerFrom_of_small {before cs done : List Char}
    (h : ∀ c ∈ cs, 'a'.toNat ≤ c.toNat ∧ c.toNat ≤ 'z'.toNat) :
    Case.lowerFrom before cs done = done.reverse ++ cs := by
  induction cs generalizing before done with
  | nil => simp [Case.lowerFrom]
  | cons c cs ih =>
      have hc : 97 ≤ c.toNat ∧ c.toNat ≤ 122 := h c List.mem_cons_self
      have hsigma : c ≠ 'Σ' := by
        rintro rfl
        exact absurd hc (by decide)
      have hlower : c.toLower = c := by
        refine dif_neg ?_
        rintro ⟨-, hle⟩
        have hle : c.toNat ≤ 90 := hle
        omega
      rw [Case.lowerFrom, if_neg hsigma, Case.lowerChar, if_pos (by omega), hlower,
        ih fun d hd => h d (List.mem_cons_of_mem c hd)]
      simp

end Text

namespace Directives

-- The name of a directive as it is written: some small letters
def IsName (name : String) : Prop :=
  name ≠ "" ∧ (name.toList.all fun c => 'a'.toNat ≤ c.toNat && c.toNat ≤ 'z'.toNat) = true

instance (name : String) : Decidable (IsName name) :=
  inferInstanceAs (Decidable (_ ∧ _))

section Names

variable {name : String} (hn : IsName name)
include hn

theorem IsName.small {c : Char} (hm : c ∈ name.toList) :
    'a'.toNat ≤ c.toNat ∧ c.toNat ≤ 'z'.toNat := by
  simpa using List.all_eq_true.mp hn.2 c hm

theorem IsName.not_mem {c : Char} (hc : c.toNat < 'a'.toNat) : c ∉ name.toList := by
  intro hm
  have hle := (hn.small hm).1
  omega

theorem IsName.not_blank {c : Char} (hm : c ∈ name.toList) : Text.isBlank c = false := by
  have hc : 97 ≤ c.toNat ∧ c.toNat ≤ 122 := hn.small hm
  exact Text.isBlank_eq_false (by omega)

theorem IsName.trimBoth_eq {lead : List Char} (hl : ∀ c ∈ lead, Text.isBlank c = true) :
    Text.trimBoth Text.isBlank (lead ++ name.toList) = name.toList := by
  rw [Text.trimBoth_append hl]
  exact Text.trimBoth_of_ends (fun c hc => hn.not_blank (List.mem_of_mem_head? hc))
    (fun c hc => hn.not_blank (List.mem_of_getLast? hc))

theorem IsName.lower_eq : Text.lower name = name := by
  rw [Text.lower, Text.lowerFrom_of_small fun _ => hn.small, List.reverse_nil, List.nil_append,
    String.ofList_toList]

-- An entry says the value behind the first equals sign
theorem readEntry_eq {lead value : List Char} (hl : ∀ c ∈ lead, Text.isBlank c = true) :
    readEntry ['='] ['"'] (lead ++ name.toList ++ '=' :: value)
      = some (name, .ofList (unquote ['"'] (Text.trimBoth Text.isBlank value))) := by
  have hequals : '=' ∉ lead ++ name.toList :=
    List.not_mem_append (Text.not_mem_of_blanks (by decide) hl) (hn.not_mem (by decide))
  rw [readEntry, Text.cut?_append hequals]
  simp only [hn.trimBoth_eq hl, String.ofList_toList, hn.lower_eq, if_neg hn.1]

end Names

-- A part of a header, and what an entry read from it says, whatever blanks stand before it
structure Says (part name value : String) : Prop where
  closed : Closed part.toList
  reads : ∀ lead : List Char, (∀ c ∈ lead, Text.isBlank c = true) →
    readEntry ['='] ['"'] (lead ++ part.toList) = some (name, value)

end Directives

end HttpDigest
