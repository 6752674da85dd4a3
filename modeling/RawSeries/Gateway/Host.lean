import RawSeries.Bytes.Basic
import RawSeries.Bytes.Percent
import RawSeries.Bytes.Utf8
import RawSeries.Gateway.Label
import RawSeries.Text.Digit
import RawSeries.Text.Numeral
import RawSeries.Text.Quoted

namespace RawSeries.Gateway

/-- Percent-encodes the characters outside a class. -/
def escape (shown : Char → Bool) (cs : List Char) : List Char :=
  cs.flatMap fun c =>
    if shown c then [c] else (Utf8.encodeCode c.toNat).flatMap Percent.escapeByte

namespace Host

/-- Why a text is no host. -/
inductive Flaw where
  /-- A text with the shape of four numbers that are none. -/
  | fourNumbers (host : String)
  /-- A text in brackets that is no row of eight groups. -/
  | eightGroups (host : String)
  | name (host : String)
deriving DecidableEq

def Flaw.message : Flaw → String
  | .fourNumbers host => "Invalid IPv4 address: " ++ Quoted.text host
  | .eightGroups host => "Invalid IPv6 address: " ++ Quoted.text host
  | .name host => "Invalid IDNA hostname: " ++ Quoted.text host

def isDigit (c : Char) : Bool := '0' ≤ c && c ≤ '9'

/-- How far a text may have followed the shape of four numbers, after one more character. A number
goes on at odd stages, and at even ones it has to begin. -/
def nextStages (c : Char) (stages : List Nat) : List Nat :=
  (stages.flatMap fun s =>
    if s % 2 = 0 then if isDigit c then [s + 1] else []
    else (if isDigit c then [s] else []) ++ if s < 7 then [s + 1] else []).eraseDups

/-- Four runs of digits, with one character of any kind between them. -/
def looksLikeNumbers (cs : List Char) : Bool :=
  (cs.foldl (fun stages c => nextStages c stages) [0]).contains 7

def isByte (cs : List Char) : Bool :=
  !cs.isEmpty && cs.length ≤ 3 && cs.all isDigit && (cs = ['0'] || cs.head? != some '0') &&
    cs.foldl (fun n c => 10 * n + (c.toNat - 48)) 0 ≤ 255

/-- Four numbers up to 255 with points between them. -/
def isFourBytes (cs : List Char) : Bool :=
  let parts := Text.splitOn '.' cs
  parts.length = 4 && parts.all isByte

def isGroup (cs : List Char) : Bool :=
  !cs.isEmpty && cs.length ≤ 4 && cs.all fun c => (Bytes.hexDigit? c).isSome

/-- Groups beside a gap: some of them, or a single empty one where the gap is at an end. -/
def isSide (groups : List (List Char)) : Bool :=
  groups = [[]] || groups.all isGroup

/-- Eight groups, or at most seven around one gap between colons. -/
def areEightGroups (groups : List (List Char)) : Bool :=
  let inner := (groups.drop 1).dropLast
  match (inner.filter List.isEmpty).length with
  | 0 => groups.length = 8 && groups.all isGroup
  | 1 =>
      let gap := inner.findIdx List.isEmpty + 1
      isSide (groups.take gap) && isSide (groups.drop (gap + 1)) &&
        (groups.filter fun g => !g.isEmpty).length ≤ 7
  | _ => false

/-- Groups between colons, of which four bytes may stand for the last two. -/
def isGroups (cs : List Char) : Bool :=
  let parts := Text.splitOn ':' cs
  let last := parts.getLast?.getD []
  if parts.length < 3 then false
  else if last.contains '.' then
    isFourBytes last && areEightGroups (parts.dropLast ++ [['0'], ['0']])
  else areEightGroups parts

/-- Groups, and perhaps a zone after a percent sign. -/
def isZoned (cs : List Char) : Bool :=
  match Text.cutAt? '%' cs with
  | none => isGroups cs
  | some (groups, zone) => !zone.isEmpty && !zone.contains '%' && isGroups groups

/-- Characters that a host name shows as themselves. -/
def isNameChar (c : Char) : Bool :=
  c.isAlphanum || "-._~!$&'()*+,;=\"`\x7b\x7d%|\\".toList.contains c

/-- A host as it is sent. Eight groups lose their brackets, and names are in lower case. -/
def read (cs : List Char) : Except Flaw (List Char) :=
  if cs.isEmpty then .ok []
  else if looksLikeNumbers cs then
    if isFourBytes cs then .ok cs else .error (.fourNumbers (String.ofList cs))
  else if cs.head? = some '[' ∧ cs.getLast? = some ']' then
    let inner := (cs.drop 1).dropLast
    if isZoned inner then .ok inner else .error (.eightGroups (String.ofList cs))
  else if cs.all Label.isAscii then .ok (escape isNameChar (cs.map Char.toLower))
  else
    match Label.asciiName? cs with
    | some name => .ok name
    | none => .error (.name (String.ofList cs))

end Host

namespace Port

/-- Digits of any script, with single low lines between them. -/
def digits? : List Char → Option (List Nat)
  | [] => none
  | [c] => (Text.digitValue? c).map ([·])
  | c :: '_' :: rest => do return (← Text.digitValue? c) :: (← digits? rest)
  | c :: rest => do return (← Text.digitValue? c) :: (← digits? rest)

def signed : List Char → Bool × List Char
  | '-' :: rest => (true, rest)
  | '+' :: rest => (false, rest)
  | cs => (false, cs)

def maxDigits : Nat := 4300

/-- The number of a port: digits with a sign before them and blanks around them. -/
def number? (cs : List Char) : Option Int :=
  let (negative, rest) := signed (Text.stripChars cs)
  (digits? rest).bind fun ds =>
    if maxDigits < ds.length then none
    else
      let n : Nat := Numeral.ofDigits ds
      some (if negative then -(n : Int) else n)

def implied : List (String × Int) :=
  [("ftp", 21), ("http", 80), ("https", 443), ("ws", 80), ("wss", 443)]

/-- The port of an address with a scheme, where a port that the scheme implies is left out; nothing
for a text that is no port. -/
def read? (scheme cs : List Char) : Option (Option Int) :=
  if cs.isEmpty then some none
  else
    (number? cs).map fun n =>
      if implied.lookup (String.ofList scheme) = some n then none else some n

end Port

end RawSeries.Gateway
