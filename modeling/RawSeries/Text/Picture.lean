import RawSeries.Text.Blank
import RawSeries.Text.Lower
import RawSeries.Text.Picture.Listing

namespace RawSeries.Picture

def pairs : List String → List (String × String)
  | a :: b :: rest => (a, b) :: pairs rest
  | _ => []

/-- Pictures by their names in lower case. -/
def named : List (String × String) :=
  pairs (listing.flatMap fun line => line.splitOn " ")

/-- The marks after the name of a picture, and the selectors that they stand for: of a picture in
black and white, and of one in colours. -/
def variants : List (String × Nat) := [("-text", 65038), ("-emoji", 65039)]

/-- A name without the mark at its end, and the selector of the mark. -/
def cutVariant (name : List Char) : List Char × List Char :=
  match variants.find? fun v => v.1.toList.isSuffixOf name with
  | some (mark, selector) => (name.take (name.length - mark.length), [Char.ofNat selector])
  | none => (name, [])

def ofName? (name : List Char) : Option (List Char) :=
  let (plain, selector) := cutVariant name
  (named.lookup (String.ofList (Text.lower plain))).map fun p => p.toList ++ selector

/-- The name between the colon that was read and the next one, and what follows. A blank ends the
search. -/
def name? (cs : List Char) : Option (List Char × List Char) :=
  match cs.dropWhile fun c => c != ':' && !Text.isBlank c with
  | ':' :: rest => some (cs.takeWhile fun c => c != ':' && !Text.isBlank c, rest)
  | _ => none

/-- Puts pictures in the place of their names. A name of no picture stays, with both its colons. The
fuel is the length of the text. -/
def putFrom : Nat → List Char → List Char
  | 0, cs => cs
  | _, [] => []
  | fuel + 1, c :: rest =>
      if c = ':' then
        match name? rest with
        | some (name, after) =>
            (ofName? name).getD (':' :: name ++ [':']) ++ putFrom fuel after
        | none => c :: putFrom fuel rest
      else c :: putFrom fuel rest

def put (cs : List Char) : List Char :=
  putFrom cs.length cs

end RawSeries.Picture
