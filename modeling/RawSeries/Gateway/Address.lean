import RawSeries.Gateway.Host
import RawSeries.Text.Numeral

/-!
Addresses of a gateway. An address is full when it names a scheme and a host; any other one is a
place below the address of the gateway.
-/

namespace RawSeries.Gateway

structure Address where
  /-- The word before the first colon, in lower case; empty when there is none. -/
  scheme : List Char
  /-- What stands before the host and an at sign. -/
  user : List Char
  /-- The host; empty when there is none. -/
  host : List Char
  /-- The port, unless the scheme implies it. -/
  port : Option Int
  path : List Char
  /-- What follows a question mark. -/
  query : Option (List Char)
  /-- What follows a number sign. -/
  fragment : Option (List Char)
deriving DecidableEq

namespace Address

/-- Why a text is no address. -/
inductive Flaw where
  | long
  /-- A part of an address below another one that is too long. -/
  | longPart (name : String)
  | control (c : Char) (position : Nat)
  | host (flaw : Host.Flaw)
  | port (text : String)
  /-- A host before a path that does not start with a slash. -/
  | noSlash
  | twoSlashes
  | colon
deriving DecidableEq

def Flaw.message : Flaw → String
  | .long => "URL too long"
  | .longPart name => "URL component '" ++ name ++ "' too long"
  | .control c position =>
      "Invalid non-printable ASCII character in URL, " ++ Quoted.text (String.singleton c) ++
        " at position " ++ Numeral.natural position ++ "."
  | .host flaw => flaw.message
  | .port text => "Invalid port: " ++ Quoted.text text
  | .noSlash => "For absolute URLs, path must be empty or begin with '/'"
  | .twoSlashes => "Relative URLs cannot have a path starting with '//'"
  | .colon => "Relative URLs cannot have a path starting with ':'"

def blank : Address := ⟨[], [], [], none, [], none, none⟩

def maxLength : Nat := 65536

def isSchemeChar (c : Char) : Bool :=
  c.isAlphanum || c == '+' || c == '.' || c == '-'

/-- The scheme at the start of an address, and the rest after its colon. A colon may also stand
first, after no scheme. -/
def cutScheme (cs : List Char) : List Char × List Char :=
  match cs.takeWhile isSchemeChar, cs.dropWhile isSchemeChar with
  | [], ':' :: rest => ([], rest)
  | c :: word, ':' :: rest => if c.isAlpha then (c :: word, rest) else ([], cs)
  | _, _ => ([], cs)

def cutPart (mark : Char) (cs : List Char) : List Char × Option (List Char) :=
  match Text.cutAt? mark cs with
  | some (head, tail) => (head, some tail)
  | none => (cs, none)

def cutUser (cs : List Char) : List Char × List Char :=
  match Text.cutAt? '@' cs.reverse with
  | some (tail, head) => (head.reverse, tail.reverse)
  | none => ([], cs)

/-- A host and the port after it. A host in brackets ends at the last bracket. -/
def cutPort (cs : List Char) : List Char × List Char :=
  let tail := cs.reverse.takeWhile (· != ']')
  let (host, rest) :=
    if cs.head? = some '[' ∧ tail.length < cs.length then
      (cs.take (cs.length - tail.length), tail.reverse)
    else (cs.takeWhile (· != ':'), cs.dropWhile (· != ':'))
  (host, if rest.head? = some ':' then rest.drop 1 else rest)

def isHostChar (c : Char) : Bool := c != '/' && c != '?' && c != '#'

/-- Visible ASCII but for the double quote and angle brackets. -/
def isShown (c : Char) : Bool :=
  32 < c.toNat && c.toNat < 127 && !(['"', '<', '>'].contains c)

/-- Characters that a fragment shows as themselves. -/
def isFragmentChar (c : Char) : Bool := isShown c && c.toNat != 96

def isQueryChar (c : Char) : Bool := isShown c && c != '#'

/-- Characters that a path shows as themselves: those of a query, but for the question mark, the
grave accent and braces. -/
def isPathChar (c : Char) : Bool :=
  isQueryChar c && !([63, 96, 123, 125].contains c.toNat)

/-- Characters that are shown as themselves before a host. -/
def isUserChar (c : Char) : Bool :=
  isPathChar c && !("/;=@[\\]^|".toList.contains c)

/-- Leaves out the segments `.`, and with a segment `..` the one before it. -/
def followDots (before : List (List Char)) : List (List Char) → List (List Char)
  | [] => before.reverse
  | s :: rest =>
      if s = ['.'] then followDots before rest
      else if s = ['.', '.'] then
        followDots (if before = [[]] then before else before.drop 1) rest
      else followDots (s :: before) rest

/-- A path without the segments `.` and `..`. -/
def plainPath (cs : List Char) : List Char :=
  ['/'].intercalate (followDots [] (Text.splitOn '/' cs))

/-- The rules for the start of a path, behind a scheme, a host or neither. -/
def checkPath (scheme place : Bool) (path : List Char) : Except Flaw Unit :=
  if place then
    if path.isEmpty ∨ path.head? = some '/' then .ok () else .error .noSlash
  else if scheme then .ok ()
  else if path.take 2 = ['/', '/'] then .error .twoSlashes
  else if path.head? = some ':' then .error .colon
  else .ok ()

/-- An address from its parts as they are written. Below a scheme or a host its path has no segments
of dots. -/
def ofParts (scheme place path : List Char) (query fragment : Option (List Char)) :
    Except Flaw Address := do
  let (user, rest) := cutUser place
  let (host, port) := cutPort rest
  let sentHost ← (Host.read host).mapError Flaw.host
  match Port.read? scheme port with
  | none => throw (.port (String.ofList port))
  | some sentPort =>
      let placed := !user.isEmpty || !sentHost.isEmpty || sentPort.isSome
      checkPath (!scheme.isEmpty) placed path
      return {
        scheme := scheme.map Char.toLower
        user := escape isUserChar user
        host := sentHost
        port := sentPort
        path := escape isPathChar (if !scheme.isEmpty || placed then plainPath path else path)
        query := query.map (escape isQueryChar)
        fragment := fragment.map (escape isFragmentChar) }

def isControl (c : Char) : Bool := c.toNat < 32 || c.toNat = 127

def read (address : String) : Except Flaw Address :=
  let cs := address.toList
  if maxLength < cs.length then .error .long
  else
    match cs.find? isControl with
    | some c => .error (.control c (cs.findIdx isControl))
    | none =>
        let (scheme, rest) := cutScheme cs
        let (place, rest) :=
          match rest with
          | '/' :: '/' :: more => (more.takeWhile isHostChar, more.dropWhile isHostChar)
          | _ => ([], rest)
        let (rest, fragment) := cutPart '#' rest
        let (path, query) := cutPart '?' rest
        ofParts scheme place path query fragment

def isFull (a : Address) : Bool :=
  !a.scheme.isEmpty && !a.host.isEmpty

/-- What is asked for in a request: the path, a slash at least, and the query. -/
def target (a : Address) : List Char :=
  (if a.path.isEmpty then ['/'] else a.path) ++
    match a.query with
    | some query => '?' :: query
    | none => []

/-- The host with what stands before it and its port. -/
def place (a : Address) : List Char :=
  (if a.user.isEmpty then [] else a.user ++ ['@']) ++
    (if a.host.contains ':' then '[' :: a.host ++ [']'] else a.host) ++
    match a.port with
    | some n => ':' :: (Numeral.integer n).toList
    | none => []

def text (a : Address) : List Char :=
  (if a.scheme.isEmpty then [] else a.scheme ++ [':']) ++
    (if a.place.isEmpty then [] else '/' :: '/' :: a.place) ++ a.path ++
    (match a.query with
      | some query => '?' :: query
      | none => []) ++
    match a.fragment with
    | some fragment => '#' :: fragment
    | none => []

def withTarget (a : Address) (target : List Char) : Except Flaw Address :=
  let (path, query) := cutPart '?' target
  if maxLength < path.length then .error (.longPart "path")
  else if query.any fun q => maxLength < q.length then .error (.longPart "query")
  else ofParts a.scheme a.place path query a.fragment

/-- The address of a gateway: its target ends in a slash, which is added where it is missing. -/
def readBase (address : String) : Except Flaw Address := do
  let a ← read address
  if a.target.getLast? = some '/' then return a else a.withTarget (a.target ++ ['/'])

/-- An address as seen from the base: a full one stands for itself, and any other is a place below
the base. -/
def under (base a : Address) : Except Flaw Address :=
  if a.isFull then .ok a
  else base.withTarget (base.target ++ a.target.dropWhile (· == '/'))

/-- The address that a text writes, as seen from the base. -/
def resolve (base : Address) (address : String) : Except Flaw Address := do
  base.under (← read address)

/-- Requests need something before the first colon, and no slash in it. -/
def isSendable (a : Address) : Bool :=
  let ends (c : Char) : Bool := c == '/' || c == ':'
  !(a.text.takeWhile fun c => !ends c).isEmpty &&
    (a.text.dropWhile fun c => !ends c).head? == some ':'

/-- The rules for an address that takes the place of the one that was asked for: one with a scheme
but no host takes the host from there. -/
def checkMove (asked a : Address) : Except Flaw Unit :=
  if !a.scheme.isEmpty && a.host.isEmpty then checkPath true (!asked.host.isEmpty) a.path
  else .ok ()

end Address

end RawSeries.Gateway
