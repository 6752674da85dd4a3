import RawSeries.Gateway.Label.Coding
import RawSeries.Gateway.Label.Context
import RawSeries.Gateway.Label.Direction
import RawSeries.Gateway.Label.Letter
import RawSeries.Text.Blank
import RawSeries.Text.Composition
import RawSeries.Text.Lower

namespace RawSeries.Gateway.Label

/-- All code points after some others may stand where they do. -/
def allFit (before : List Nat) : List Nat → Bool
  | [] => true
  | n :: rest => (isLetter n || fitsBetween before n rest) && allFit (before ++ [n]) rest

/-- Hyphens stand neither at an end of a label nor together in its third and fourth places. -/
def placesHyphens (label : List Nat) : Bool :=
  label.head? != some 45 && label.getLast? != some 45 && (label.drop 2).take 2 != [45, 45]

/-- Code points that make a label: they do not start with a mark, and all of them fit. -/
def isLabel (label : List Nat) : Bool :=
  !label.isEmpty && Text.Composition.isJoined label && placesHyphens label &&
    !label.head?.any Text.isMark && allFit [] label && goTogether (label.map directionOf)

def asciiMark : List Char := ['x', 'n', '-', '-']

/-- An ASCII label, or the ASCII form of another one. -/
def isAsciiLabel (label : List Char) : Bool :=
  if asciiMark.isPrefixOf label then
    let written := label.drop asciiMark.length
    !written.isEmpty && written.getLast? != some '-' && (decode? written).any isLabel
  else isLabel (label.map Char.toNat)

/-- The ASCII form of a label of at most 63 characters, or nothing for a text that is no label. -/
def ascii? (label : List Char) : Option (List Char) :=
  let form? :=
    if label.all isAscii then if isAsciiLabel label then some label else none
    else if isLabel (label.map Char.toNat) then some (asciiMark ++ encode label)
    else none
  form?.filter fun form => form.length < 64

def parts (name : List Char) : List (List Char) :=
  Text.splitOn '.' (name.map fun c => if [12290, 65294, 65377].contains c.toNat then '.' else c)

/-- The ASCII form of a name of at most 253 characters, not counting a full stop at its end. -/
def asciiName? (name : List Char) : Option (List Char) :=
  let all := parts (Text.lower name)
  let dotted := all.getLast? = some []
  ((if dotted then all.dropLast else all).mapM ascii?).bind fun labels =>
    let written := ['.'].intercalate labels
    if written.length ≤ 253 ∧ ¬labels.isEmpty then
      some (if dotted then written ++ ['.'] else written)
    else none

end RawSeries.Gateway.Label
