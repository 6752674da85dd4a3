namespace RawSeries.Text

/-- A code point is in one of some runs, which are given by their first and last code points. -/
def within (runs : List (Nat × Nat)) (n : Nat) : Bool :=
  runs.any fun r => r.1 ≤ n && n ≤ r.2

/-- A code point is the first, the third, the fifth and so on of a run. -/
def alternates (runs : List (Nat × Nat)) (n : Nat) : Bool :=
  runs.any fun r => r.1 ≤ n && n ≤ r.2 && (n - r.1) % 2 == 0

end RawSeries.Text
