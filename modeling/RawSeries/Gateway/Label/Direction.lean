import RawSeries.Text.Mark

namespace RawSeries.Gateway.Label

/-- How a code point goes together with others in a line. -/
inductive Direction where
  | rightward
  | leftward
  | digit
  /-- A digit that is used with Arabic letters. -/
  | arabicDigit
  | neutral
  /-- A mark goes with its letter. -/
  | mark
deriving DecidableEq

def leftwardLetters : List (Nat × Nat) := [
  (1488, 1610), (1646, 1775), (1786, 2249), (65139, 65139), (67584, 68899), (69248, 69622),
  (124928, 125273)]

def digits : List (Nat × Nat) := [(48, 57), (1776, 1785)]

/-- Runs of digits that are used with Arabic letters. -/
def arabicDigits : List (Nat × Nat) := [(1632, 1641), (68912, 68921)]

/-- Runs of signs without a direction. -/
def neutrals : List (Nat × Nat) := [
  (45, 45), (183, 183), (697, 698), (710, 719), (748, 748), (885, 885), (8204, 8205),
  (11823, 11823), (12539, 12539), (42623, 42623), (42775, 42783), (42888, 42888)]

def directionOf (n : Nat) : Direction :=
  if Text.isTopped n then .mark
  else if Text.within digits n then .digit
  else if Text.within arabicDigits n then .arabicDigit
  else if Text.within leftwardLetters n then .leftward
  else if Text.within neutrals n then .neutral
  else .rightward

/-- Directions go together: all of them go rightward, or a leftward letter stands first, a leftward
letter or a digit last, and digits are of one kind. -/
def goTogether (ds : List Direction) : Bool :=
  if !ds.any fun d => d == .leftward || d == .arabicDigit then true
  else
    let last := (ds.reverse.dropWhile (· == .mark)).head?
    ds.head? == some .leftward && !ds.contains .rightward &&
      (last == some .leftward || last == some .digit || last == some .arabicDigit) &&
      !(ds.contains .digit && ds.contains .arabicDigit)

end RawSeries.Gateway.Label
