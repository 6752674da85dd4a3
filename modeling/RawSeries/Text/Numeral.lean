namespace RawSeries.Numeral

/-- The decimal digits of a number, most significant first. -/
def digits (n : Nat) : List Nat :=
  if n < 10 then [n] else digits (n / 10) ++ [n % 10]

def ofDigits (ds : List Nat) : Nat :=
  ds.foldl (fun n d => 10 * n + d) 0

def digitChar (d : Nat) : Char :=
  Char.ofNat (48 + d)

/-- The numeral of a natural number: no leading zeros. -/
def natural (n : Nat) : String :=
  String.ofList ((digits n).map digitChar)

/-- The numeral of an integer: a minus sign for the negative ones only. -/
def integer (i : Int) : String :=
  match i with
  | .ofNat n => natural n
  | .negSucc n => "-" ++ natural (n + 1)

/-- A numeral filled with zeros on the left to at least `width` characters. -/
def padded (width n : Nat) : String :=
  let text := natural n
  String.ofList (List.replicate (width - text.length) '0') ++ text

end RawSeries.Numeral
