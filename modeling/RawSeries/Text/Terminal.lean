import RawSeries.Text.Blank

namespace RawSeries.Terminal

def isParameter (c : Char) : Bool := c == ';' || c == '?' || ('0' ≤ c && c ≤ '9')

/-- The text after a command, if it starts with one. -/
def command? : List Char → Option (List Char)
  | e :: '[' :: rest =>
      match rest.dropWhile isParameter with
      | c :: after => if e.toNat = 27 ∧ c.isAlpha then some after else none
      | [] => none
  | _ => none

/-- Leaves out the commands. The fuel is the length of the text. -/
def withoutFrom : Nat → List Char → List Char
  | 0, cs => cs
  | _, [] => []
  | fuel + 1, c :: rest =>
      match command? (c :: rest) with
      | some after => withoutFrom fuel after
      | none => c :: withoutFrom fuel rest

def without (s : String) : String :=
  String.ofList (withoutFrom s.toList.length s.toList)

end RawSeries.Terminal
