import RawSeries.Bytes.Utf8
import RawSeries.Text.Blank

namespace RawSeries.Properties

def isSeparator (c : Char) : Bool :=
  c == '=' || c == ':'

/-- What a line says: nothing when it is blank or a comment, else a key and its value, which is
empty when no separator follows the key. -/
def entry? (line : List Char) : Option (String × String) :=
  match Text.stripChars line with
  | [] => none
  | c :: rest =>
      if c = '#' ∨ c = '!' then none
      else
        let key := (c :: rest).takeWhile fun x => !isSeparator x
        let value := ((c :: rest).dropWhile fun x => !isSeparator x).drop 1
        some (String.ofList (Text.stripChars key), String.ofList (Text.stripChars value))

/-- Sets the value of a key: in its old place, or at the end. -/
def put (entries : List (String × String)) (key value : String) : List (String × String) :=
  match entries with
  | [] => [(key, value)]
  | (k, v) :: rest => if k = key then (k, value) :: rest else (k, v) :: put rest key value

/-- The keys of a text in the order in which they are first seen, each with its last value. -/
def read (text : String) : List (String × String) :=
  ((Text.linesFrom [] text.toList).filterMap entry?).foldl (fun es e => put es e.1 e.2) []

/-- The properties of a file, which has to be UTF-8. -/
def ofBytes? (file : Bytes) : Option (List (String × String)) :=
  (Utf8.decode? file).map read

end RawSeries.Properties
