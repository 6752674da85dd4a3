import RawSeries.Calendar.Civil
import RawSeries.Text.Blank
import RawSeries.Text.Digit

/-!
Dates written by a pattern. A field has several spellings, tried in order; the first way to match
all items of a pattern counts, and must use up the text.
-/

namespace RawSeries.Calendar

inductive Field where
  | year | month | day | hour | minute | second
deriving DecidableEq

/-- A part of a pattern: a field, a sign that stands for itself, or a run of white space. -/
inductive Item where
  | field (f : Field)
  | sign (c : Char)
  | gap

abbrev CharClass := Char → Bool

/-- The ASCII digits from `low` to `high`. -/
def between (low high : Char) : CharClass := fun c => low ≤ c && c ≤ high

def just (x : Char) : CharClass := fun c => c == x

/-- The spellings of a field, in the order in which they are tried. A class that does not name its
digits holds the decimal digits of every script. -/
def Field.spellings : Field → List (List CharClass)
  | .year => [[Text.isDecimal, Text.isDecimal, Text.isDecimal, Text.isDecimal]]
  | .month =>
      [[just '1', between '0' '2'], [just '0', between '1' '9'], [between '1' '9']]
  | .day =>
      [[just '3', between '0' '1'], [between '1' '2', Text.isDecimal],
        [just '0', between '1' '9'], [between '1' '9'], [just ' ', between '1' '9']]
  | .hour =>
      [[just '2', between '0' '3'], [between '0' '1', Text.isDecimal], [Text.isDecimal]]
  | .minute => [[between '0' '5', Text.isDecimal], [Text.isDecimal]]
  | .second =>
      [[just '6', between '0' '1'], [between '0' '5', Text.isDecimal], [Text.isDecimal]]

/-- The characters that match the classes one by one, and the rest. -/
def spelled? : List CharClass → List Char → Option (List Char × List Char)
  | [], cs => some ([], cs)
  | _ :: _, [] => none
  | k :: ks, c :: cs =>
      if k c then (spelled? ks cs).map fun (taken, rest) => (c :: taken, rest) else none

/-- The number that digits of any script write; other characters count for nothing. -/
def fieldValue (cs : List Char) : Nat :=
  cs.foldl (fun n c => match Text.digitValue? c with | some d => 10 * n + d | none => n) 0

/-- The first way to match all items at the start of a text: the fields, and what is left. -/
def firstMatch? : List Item → List Char → Option (List (Field × Nat) × List Char)
  | [], cs => some ([], cs)
  | .sign x :: items, cs =>
      match cs with
      | c :: rest => if c = x then firstMatch? items rest else none
      | [] => none
  | .gap :: items, cs =>
      match cs with
      | c :: rest =>
          if Text.isBlank c then firstMatch? items (rest.dropWhile Text.isBlank) else none
      | [] => none
  | .field f :: items, cs =>
      f.spellings.findSome? fun spelling =>
        match spelled? spelling cs with
        | none => none
        | some (taken, rest) =>
            (firstMatch? items rest).map fun (fields, left) =>
              ((f, fieldValue taken) :: fields, left)

/-- The value of a field that a match may leave out. -/
def fieldOr (fields : List (Field × Nat)) (f : Field) (absent : Nat) : Nat :=
  (fields.lookup f).getD absent

/-- The moment that a text writes by a pattern: midnight unless the pattern has a time. -/
def read? (items : List Item) (text : List Char) : Option Moment :=
  match firstMatch? items text with
  | some (fields, []) =>
      let date : Date := ⟨fieldOr fields .year 1, fieldOr fields .month 1, fieldOr fields .day 1⟩
      let second := fieldOr fields .second 0
      if date.isValid && second ≤ 59 then
        some ⟨date, fieldOr fields .hour 0, fieldOr fields .minute 0, second⟩
      else none
  | _ => none

def day : List Item :=
  [.field .year, .sign '/', .field .month, .sign '/', .field .day]

def minutes : List Item := [.field .hour, .sign ':', .field .minute]

/-- The patterns of absolute dates, in the order in which they are tried. -/
def patterns : List (List Item) :=
  [day ++ [.sign '-'] ++ minutes ++ [.sign ':', .field .second],
    day ++ [.sign '-'] ++ minutes,
    day ++ [.gap] ++ minutes ++ [.sign ':', .field .second],
    day]

/-- The seconds of an absolute date by the first pattern that gives a moment of the calendar. -/
def absolute? (text : List Char) : Option Int :=
  patterns.findSome? fun items =>
    (read? items text).bind fun t => if t.toSeconds < firstSecond then none else some t.toSeconds

end RawSeries.Calendar
