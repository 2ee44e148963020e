namespace HttpDigest.Text

def afterPrefix? {α : Type} [BEq α] : List α → List α → Option (List α)
  | [], rest => some rest
  | _ :: _, [] => none
  | p :: pattern, x :: rest => if p == x then afterPrefix? pattern rest else none

theorem afterPrefix?_eq_some_iff {α : Type} [BEq α] [LawfulBEq α] {pattern xs rest : List α} :
    afterPrefix? pattern xs = some rest ↔ xs = pattern ++ rest := by
  induction pattern generalizing xs with
  | nil => simp [afterPrefix?, eq_comm]
  | cons p pattern ih =>
    cases xs with
    | nil => simp [afterPrefix?]
    | cons x xs =>
      by_cases h : p = x
      · simp [afterPrefix?, h, ih]
      · simp [afterPrefix?, h, Ne.symm h]

-- The parts before and after the first occurrence of a pattern.
-- `before` holds what was passed already, the last element first.
def cutFrom {α : Type} [BEq α] (pattern : List α) : List α → List α → Option (List α × List α)
  | before, [] => match pattern with
    | [] => some (before.reverse, [])
    | _ :: _ => none
  | before, x :: rest => match afterPrefix? pattern (x :: rest) with
    | some after => some (before.reverse, after)
    | none => cutFrom pattern (x :: before) rest

def cut? {α : Type} [BEq α] (pattern xs : List α) : Option (List α × List α) :=
  cutFrom pattern [] xs

-- Every occurrence of a pattern that is not empty is replaced, from left to right and
-- without overlap. `skip` counts the elements that belong to the occurrence found last.
def replaceFrom {α : Type} [BEq α] (pattern image : List α) : Nat → List α → List α → List α
  | _, [], done => done.reverse
  | skip + 1, _ :: rest, done => replaceFrom pattern image skip rest done
  | 0, x :: rest, done =>
    if (afterPrefix? pattern (x :: rest)).isSome then
      replaceFrom pattern image (pattern.length - 1) rest (image.reverse ++ done)
    else replaceFrom pattern image 0 rest (x :: done)

def replaceAll {α : Type} [BEq α] (pattern image xs : List α) : List α :=
  replaceFrom pattern image 0 xs []

end HttpDigest.Text
