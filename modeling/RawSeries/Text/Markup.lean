import RawSeries.Text.Numeral
import RawSeries.Text.Markup.Style
import RawSeries.Text.Picture

/-!
Marked-up text, in which tags such as `[bold]` and `[/bold]` or `[/]` stand around what is shown in
a style, and what is shown where there are no styles.
-/

namespace RawSeries.Markup

/-- Why marked-up text is not in order. -/
inductive Flaw where
  /-- A closing tag for a style that is not open. -/
  | notOpen (tag : String) (position : Nat)
  /-- A closing tag where no style is open. -/
  | nothingOpen (position : Nat)
  /-- A tag with a colour one of whose shares is no number. -/
  | noShare
deriving DecidableEq

def Flaw.message : Flaw → String
  | .notOpen tag position =>
      "closing tag '[" ++ tag ++ "]' at position " ++ Numeral.natural position ++
        " doesn't match any open tag"
  | .nothingOpen position =>
      "closing tag '[/]' at position " ++ Numeral.natural position ++ " has nothing to close"
  | .noShare => "a share of a colour is no number"

/-- A piece of marked-up text. Tags stand at their positions, without brackets. -/
inductive Piece where
  | text (cs : List Char)
  | tag (cs : List Char) (position : Nat)

def startsTag (c : Char) : Bool :=
  ('a' ≤ c && c ≤ 'z') || c == '#' || c == '/' || c == '@'

/-- The tag after an opening bracket, and what follows its closing bracket. -/
def tag? : List Char → Option (List Char × List Char)
  | [] => none
  | c :: rest =>
      let inner := rest.takeWhile fun d => d != ']' && d != '['
      match rest.drop inner.length with
      | ']' :: after => if startsTag c then some (c :: inner, after) else none
      | _ => none

/-- The pieces of a text from a position on, after the characters before it. Two backslashes before
a tag stand for one, and a single one makes the tag plain text. The fuel is the length of the
text. -/
def piecesFrom : Nat → Nat → List Char → List Char → List Piece
  | 0, _, before, _ => [.text before]
  | _, _, before, [] => [.text before]
  | fuel + 1, position, before, c :: rest =>
      let cs := c :: rest
      let slashes := (cs.takeWhile (· == '\\')).length
      match cs.drop slashes with
      | '[' :: more =>
          match tag? more with
          | some (tag, after) =>
              let next := position + slashes + tag.length + 2
              let half := Piece.text (List.replicate (slashes / 2) '\\')
              let shown : Piece :=
                if slashes % 2 = 1 then .text ('[' :: tag ++ [']'])
                else .tag tag (position + slashes)
              .text before :: half :: shown :: piecesFrom fuel next [] after
          | none =>
              piecesFrom fuel (position + slashes + 1) (before ++ cs.take (slashes + 1)) more
      | more =>
          if slashes = 0 then piecesFrom fuel (position + 1) (before ++ [c]) rest
          else piecesFrom fuel (position + slashes) (before ++ cs.take slashes) more

def pieces (cs : List Char) : List Piece :=
  piecesFrom (cs.length + 1) 0 [] cs

/-- A backslash before a bracket is left out. -/
def dropSlashes : List Char → List Char
  | '\\' :: '[' :: rest => '[' :: dropSlashes rest
  | c :: rest => c :: dropSlashes rest
  | [] => []

def shown (cs : List Char) : List Char :=
  Picture.put (dropSlashes cs)

/-- The normal form of the style that a tag names. -/
def styleOf (name : List Char) : Except Flaw String :=
  (Style.normal name).mapError fun _ => .noShare

/-- The styles that stay open when the latest one of a name is closed. -/
def close? (style : String) : List String → Option (List String)
  | [] => none
  | s :: rest => if s = style then some rest else (close? style rest).map (s :: ·)

/-- What is shown of pieces while styles are open, the latest first. -/
def show? (styles : List String) : List Piece → Except Flaw (List Char)
  | [] => .ok []
  | .text cs :: rest => (show? styles rest).map (shown cs ++ ·)
  | .tag cs position :: rest =>
      match cs.takeWhile (· != '=') with
      | '/' :: name =>
          match Text.stripChars name, styles with
          | [], [] => .error (.nothingOpen position)
          | [], _ :: left => show? left rest
          | name, styles => do
              let style ← styleOf name
              match close? style styles with
              | some left => show? left rest
              | none => .error (.notOpen (String.ofList cs) position)
      | name => do
          let style ← styleOf name
          show? (style :: styles) rest

/-- Control characters that are not shown: bell, backspace, vertical tab, form feed and carriage
return. -/
def isHidden (c : Char) : Bool := [7, 8, 11, 12, 13].contains c.toNat

/-- Tabs as blanks up to the next multiple of eight columns. -/
def withoutTabs (column : Nat) : List Char → List Char
  | [] => []
  | c :: rest =>
      if c = '\t' then
        List.replicate (8 - column % 8) ' ' ++ withoutTabs (column + (8 - column % 8)) rest
      else if c = '\n' then c :: withoutTabs 0 rest
      else c :: withoutTabs (column + 1) rest

def plain (text : String) : Except Flaw String :=
  (show? [] (pieces text.toList)).map fun cs =>
    String.ofList (withoutTabs 0 (cs.filter fun c => !isHidden c))

end RawSeries.Markup
