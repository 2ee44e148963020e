import HttpDigest.Authorization
import Mathlib.Tactic.Common

namespace HttpDigest

namespace Text

section Replace

variable {α : Type} [BEq α] {pattern image xs done : List α} {x : α}

-- What was replaced already only stands in front
theorem replaceFrom_eq (pattern image : List α) (skip : Nat) (xs done : List α) :
    replaceFrom pattern image skip xs done
      = done.reverse ++ replaceFrom pattern image skip xs [] := by
  induction xs generalizing skip done with
  | nil => simp [replaceFrom]
  | cons x rest ih =>
      cases skip with
      | succ skip =>
          rw [replaceFrom, replaceFrom]
          exact ih skip done
      | zero =>
          rw [replaceFrom, replaceFrom]
          split
          · rw [ih _ (image.reverse ++ done), ih _ (image.reverse ++ [])]
            simp
          · rw [ih 0 (x :: done), ih 0 [x]]
            simp

-- Where the pattern does not begin, an element stays
theorem replaceAll_cons_of_none (h : afterPrefix? pattern (x :: xs) = none) :
    replaceAll pattern image (x :: xs) = x :: replaceAll pattern image xs := by
  rw [replaceAll, replaceFrom, if_neg (by simp [h]), replaceFrom_eq]
  rfl

theorem replaceFrom_length (ys : List α) :
    replaceFrom pattern image ys.length (ys ++ xs) done = replaceFrom pattern image 0 xs done := by
  induction ys with
  | nil => rfl
  | cons y ys ih => rw [List.length_cons, List.cons_append, replaceFrom, ih]

variable [LawfulBEq α]

-- Where it begins, its image takes its place
theorem replaceAll_append (hp : pattern ≠ []) :
    replaceAll pattern image (pattern ++ xs) = image ++ replaceAll pattern image xs := by
  cases pattern with
  | nil => exact absurd rfl hp
  | cons p rest =>
      have hs : (afterPrefix? (p :: rest) (p :: (rest ++ xs))).isSome = true :=
        Option.isSome_iff_exists.mpr ⟨xs, afterPrefix?_eq_some_iff.mpr rfl⟩
      rw [replaceAll, List.cons_append, replaceFrom, if_pos hs, List.length_cons,
        Nat.add_sub_cancel, replaceFrom_length, replaceFrom_eq, List.reverse_append,
        List.reverse_reverse]
      rfl

-- The way that replacing goes through a text: it passes every occurrence as a whole
theorem pattern_induction {motive : List α → Prop} (hp : pattern ≠ []) (nil : motive [])
    (kept : ∀ x rest, afterPrefix? pattern (x :: rest) = none → motive rest → motive (x :: rest))
    (replaced : ∀ after, motive after → motive (pattern ++ after)) (xs : List α) :
    motive xs := by
  induction hn : xs.length using Nat.strongRecOn generalizing xs with
  | ind n ih =>
      cases xs with
      | nil => exact nil
      | cons x rest =>
          rw [List.length_cons] at hn
          cases hx : afterPrefix? pattern (x :: rest) with
          | none => exact kept x rest hx (ih rest.length (by omega) rest rfl)
          | some after =>
              have he := afterPrefix?_eq_some_iff.mp hx
              have hlength := congrArg List.length he
              have hpos := List.length_pos_iff.mpr hp
              rw [List.length_cons, List.length_append] at hlength
              rw [he]
              exact replaced after (ih after.length (by omega) after rfl)

-- A text without some element of the pattern stays as it is
theorem replaceAll_of_not_mem {p : α} (hp : p ∈ pattern) (hx : p ∉ xs) :
    replaceAll pattern image xs = xs := by
  induction xs with
  | nil => rfl
  | cons x rest ih =>
      have hnot : afterPrefix? pattern (x :: rest) = none := by
        rw [Option.eq_none_iff_forall_ne_some]
        intro after ha
        rw [afterPrefix?_eq_some_iff.mp ha] at hx
        exact hx (List.mem_append_left _ hp)
      rw [replaceAll_cons_of_none hnot, ih fun hm => hx (List.mem_cons_of_mem x hm)]

theorem length_replaceAll_le (hp : pattern ≠ []) (hlength : image.length ≤ pattern.length)
    (xs : List α) : (replaceAll pattern image xs).length ≤ xs.length := by
  induction xs using pattern_induction hp with
  | nil => exact Nat.zero_le _
  | kept x rest hnone ih =>
      rw [replaceAll_cons_of_none hnone, List.length_cons, List.length_cons]
      omega
  | replaced after ih =>
      rw [replaceAll_append hp, List.length_append, List.length_append]
      omega

-- Where an image is shorter than what it stands for, a text stays as it is only if nothing in it
-- is replaced
theorem replaceAll_eq_self_iff (hlength : image.length < pattern.length) :
    replaceAll pattern image xs = xs ↔ ¬pattern <:+: xs := by
  have hp : pattern ≠ [] := List.ne_nil_of_length_pos (by omega)
  induction xs using pattern_induction hp with
  | nil => simp [replaceAll, replaceFrom, hp]
  | kept x rest hnone ih =>
      have hnot : ¬pattern <+: x :: rest := by
        rintro ⟨after, ha⟩
        rw [afterPrefix?_eq_some_iff.mpr ha.symm] at hnone
        cases hnone
      simp only [replaceAll_cons_of_none hnone, List.cons.injEq, true_and, ih,
        List.infix_cons_iff, not_or, hnot, not_false_eq_true]
  | replaced after _ =>
      have hle := length_replaceAll_le hp (Nat.le_of_lt hlength) after
      refine iff_of_false (fun hsame => ?_) (not_not_intro ⟨[], after, rfl⟩)
      have hall := congrArg List.length hsame
      rw [replaceAll_append hp, List.length_append, List.length_append] at hall
      omega

end Replace

end Text

namespace Client

def escape (cs : List Char) : List Char :=
  Text.replaceAll ['"'] ['\\', '"'] cs

@[simp] theorem escape_nil : escape [] = [] := rfl

theorem escape_cons (c : Char) (cs : List Char) :
    escape (c :: cs) = (if c = '"' then ['\\', '"'] else [c]) ++ escape cs := by
  by_cases hc : c = '"'
  · subst hc
    exact Text.replaceAll_append (List.cons_ne_nil _ _)
  · have hnot : Text.afterPrefix? ['"'] (c :: cs) = none := by
      simp [Text.afterPrefix?, Ne.symm hc]
    rw [escape, Text.replaceAll_cons_of_none hnot, if_neg hc]
    rfl

theorem escape_append (cs ds : List Char) : escape (cs ++ ds) = escape cs ++ escape ds := by
  induction cs with
  | nil => rfl
  | cons c cs ih => rw [List.cons_append, escape_cons, escape_cons, ih, List.append_assoc]

theorem toList_quote (v : String) : (quote v).toList = '"' :: escape v.toList ++ ['"'] :=
  String.toList_ofList

-- No quote stands at the beginning, so a backslash that is not from quoting stays one
theorem head?_escape_ne (cs : List Char) : (escape cs).head? ≠ some '"' := by
  cases cs with
  | nil => simp
  | cons c cs =>
      rw [escape_cons]
      split
      · simp
      · rename_i hc
        simpa using hc

theorem unescape_escape (cs : List Char) :
    Text.replaceAll ['\\', '"'] ['"'] (escape cs) = cs := by
  induction cs with
  | nil => rfl
  | cons c cs ih =>
      rw [escape_cons]
      by_cases hc : c = '"'
      · rw [if_pos hc, Text.replaceAll_append (List.cons_ne_nil _ _), ih, hc]
        rfl
      · have hnot : Text.afterPrefix? ['\\', '"'] (c :: escape cs) = none := by
          rw [Option.eq_none_iff_forall_ne_some]
          intro after ha
          have he := Text.afterPrefix?_eq_some_iff.mp ha
          injection he with _ he
          exact head?_escape_ne cs (by rw [he]; rfl)
        rw [if_neg hc, List.singleton_append, Text.replaceAll_cons_of_none hnot, ih]

end Client

-- The quotes around a value fall away, and then those within it are unescaped
theorem Directives.unquote_enclosed (cs : List Char) :
    unquote ['"'] ('"' :: cs ++ ['"']) = Text.replaceAll ['\\', '"'] ['"'] cs := by
  have hs : ['"'].isSuffixOf ('"' :: cs ++ ['"']) = true :=
    List.isSuffixOf_iff_suffix.mpr (List.suffix_append _ _)
  rw [unquote, if_pos (by rw [hs]; simp), List.cons_append, List.tail_cons, List.dropLast_concat]

-- Reading a quoted value gives the value back
theorem Directives.unquote_quote (v : String) :
    unquote ['"'] (Client.quote v).toList = v.toList := by
  rw [Client.toList_quote, unquote_enclosed]
  exact Client.unescape_escape v.toList

-- A value without quotes reads as it stands
theorem Directives.unquote_of_not_mem {cs : List Char} (h : '"' ∉ cs) :
    unquote ['"'] cs = cs := by
  have hp : ['"'].isPrefixOf cs = false := Bool.eq_false_iff.mpr fun he =>
    h ((List.isPrefixOf_iff_prefix.mp he).subset (List.mem_singleton_self _))
  rw [unquote, hp, Bool.and_false, Bool.false_and, if_neg Bool.false_ne_true]
  exact Text.replaceAll_of_not_mem (List.mem_cons_of_mem _ (List.mem_singleton_self _)) h

end HttpDigest
