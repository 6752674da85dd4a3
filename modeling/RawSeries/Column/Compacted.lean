import RawSeries.Point.Cell

/-!
Compacted columns: the qualifiers of several points one after the other, their values likewise, and
at most one byte of metadata at the end of the values.
-/

namespace RawSeries

/-- The qualifier and the value of a stored column. -/
structure Column where
  qualifier : Bytes
  value : Bytes
deriving DecidableEq

/-- The points of a compacted column and the bytes that follow their values. -/
structure Compacted where
  cells : List Cell
  trailer : Bytes
deriving DecidableEq

namespace Compacted

/-- Why a column does not split into points. -/
inductive Flaw where
  | emptyQualifier
  /-- The qualifier at byte `position` of `length` does not end within them. -/
  | truncated (position length : Nat)
  /-- A point declares more value bytes than remain. -/
  | overrun (index declared remaining : Nat)
  /-- Value bytes remain that are no metadata. -/
  | leftOver (bytes cells : Nat)
deriving DecidableEq

def Flaw.message : Flaw → String
  | .emptyQualifier => "empty qualifier"
  | .truncated position length =>
      "truncated sub-qualifier at byte " ++ Numeral.natural position ++ " of a " ++
        Numeral.natural length ++ "-byte qualifier"
  | .overrun index declared remaining =>
      "cell #" ++ Numeral.natural index ++ " declares " ++ Numeral.natural declared ++
        " value bytes but only " ++ Numeral.natural remaining ++ " remain"
  | .leftOver bytes cells =>
      Numeral.natural bytes ++ " value bytes left over after " ++ Numeral.natural cells ++ " cells"

/-- Metadata: nothing, or one byte that is 0 or 1. -/
def isTrailer (b : Bytes) : Bool :=
  b == [] || b == [0] || b == [1]

def join (p : Compacted) : Column :=
  ⟨p.cells.flatMap Cell.qualifier, p.cells.flatMap Cell.value ++ p.trailer⟩

/-- Peels points off both ends of what is left of a column, the next one being number `index`. -/
def peel (length index : Nat) : Bytes → Bytes → Except Flaw (List Cell × Bytes)
  | [], v => .ok ([], v)
  | x :: rest, v =>
      let q := x :: rest
      let width := Qualifier.width q
      if q.length < width then .error (.truncated (length - q.length) length)
      else
        let own := q.take width
        let declared := Qualifier.valueLength (Qualifier.flags own)
        if v.length < declared then .error (.overrun index declared v.length)
        else do
          let (cells, left) ← peel length (index + 1) (rest.drop (width - 1)) (v.drop declared)
          return (⟨own, v.take declared⟩ :: cells, left)
termination_by q _ => q.length
decreasing_by rw [List.length_drop, List.length_cons]; omega

def split (c : Column) : Except Flaw Compacted := do
  if c.qualifier.isEmpty then throw .emptyQualifier
  let (cells, left) ← peel c.qualifier.length 0 c.qualifier c.value
  if isTrailer left then return ⟨cells, left⟩
  else throw (.leftOver left.length cells.length)

end Compacted

end RawSeries
