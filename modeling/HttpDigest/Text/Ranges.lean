namespace HttpDigest.Text

-- Membership in a table of inclusive ranges that stand in ascending order:
-- the search ends at the first range that begins beyond the number.
def inRanges : List (Nat × Nat) → Nat → Bool
  | [], _ => false
  | (first, last) :: rest, n =>
    if n < first then false else if n ≤ last then true else inRanges rest n

end HttpDigest.Text
