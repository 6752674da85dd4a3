import RawSeries.Bytes.Utf8
import RawSeries.Text.Blank
import RawSeries.Text.Quoted

namespace RawSeries

/-- A place in a tree: the names on the way to it, from the working folder on. A place outside
starts with segments `..`, and the root of all folders is an empty name. -/
abbrev Place := List (List Char)

namespace Place

def up : List Char := ['.', '.']

def root : Place := [[]]

def parent (p : Place) : Place :=
  if p = root then root
  else if p.all (· == up) then p ++ [up]
  else p.dropLast

def text (p : Place) : String :=
  String.ofList (if p = root then ['/'] else ['/'].intercalate p)

end Place

/-- Folders and files by their places. A folder that something is in need not be listed. -/
structure FileTree where
  folders : List Place
  files : List (Place × Bytes)

namespace FileTree

/-- Why a path is of no use. -/
inductive Flaw where
  | missing
  | isFolder
  /-- A file stands where the path goes on. -/
  | notFolder
  | taken
  | longName
  /-- A path with the character U+0000. -/
  | zero
deriving DecidableEq

def Flaw.message (path : String) : Flaw → String
  | .missing => "[Errno 2] No such file or directory: " ++ Quoted.text path
  | .isFolder => "[Errno 21] Is a directory: " ++ Quoted.text path
  | .notFolder => "[Errno 20] Not a directory: " ++ Quoted.text path
  | .taken => "[Errno 17] File exists: " ++ Quoted.text path
  | .longName => "[Errno 36] File name too long: " ++ Quoted.text path
  | .zero => "embedded null byte"

def empty : FileTree := ⟨[], []⟩

def content? (t : FileTree) (p : Place) : Option Bytes := t.files.lookup p

def isBelow (p q : Place) : Bool := q.isPrefixOf p && q.length < p.length

/-- There is a folder at a place: the working folder, one above it, the root, one that was made, or
one with something in it. -/
def hasFolder (t : FileTree) (p : Place) : Bool :=
  p.all (· == Place.up) || p = Place.root || t.folders.contains p ||
    t.folders.any (isBelow · p) || t.files.any fun f => isBelow f.1 p

def maxName : Nat := 255

def maxPath : Nat := 4095

def byteCount (cs : List Char) : Nat := (Utf8.encode (String.ofList cs)).length

/-- Segments that lead nowhere else: an empty one, and one that is a point. -/
def isIdle (s : List Char) : Bool := s = [] || s = ['.']

/-- Follows segments from a folder on. Each of them has to be a folder. -/
def walk (t : FileTree) (p : Place) : List (List Char) → Except Flaw Place
  | [] => .ok p
  | s :: rest =>
      if isIdle s then walk t p rest
      else if s = Place.up then walk t p.parent rest
      else if maxName < byteCount s then .error .longName
      else if t.hasFolder (p ++ [s]) then walk t (p ++ [s]) rest
      else .error (if (t.content? (p ++ [s])).isSome then .notFolder else .missing)

/-- The folder where a path starts, and its segments. -/
def begin? (path : String) : Except Flaw (Place × List (List Char)) :=
  let cs := path.toList
  if cs.contains (Char.ofNat 0) then .error .zero
  else if cs.isEmpty then .error .missing
  else if maxPath < byteCount cs then .error .longName
  else
    match Text.splitOn '/' cs with
    | [] :: segments => .ok (Place.root, segments)
    | segments => .ok ([], segments)

/-- What stands at the end of a path. -/
inductive Entry where
  | folder
  | file (content : Bytes)

/-- What stands at the end of a path. -/
def entry? (t : FileTree) (path : String) : Except Flaw Entry := do
  let (start, segments) ← begin? path
  let p ← t.walk start segments.dropLast
  let name := segments.getLast?.getD []
  if isIdle name || name = Place.up then return .folder
  else if maxName < byteCount name then throw .longName
  else if t.hasFolder (p ++ [name]) then return .folder
  else
    match t.content? (p ++ [name]) with
    | some content => return .file content
    | none => throw .missing

def file? (t : FileTree) (path : String) : Option Bytes :=
  match t.entry? path with
  | .ok (.file content) => some content
  | _ => none

def has (t : FileTree) (path : String) : Bool :=
  match t.entry? path with
  | .ok _ => true
  | .error _ => false

def isFolder (t : FileTree) (path : String) : Bool :=
  match t.entry? path with
  | .ok .folder => true
  | _ => false

/-- Segments without the empty ones at their end, and whether there were any. -/
def withoutSlashes (segments : List (List Char)) : List (List Char) × Bool :=
  let kept := (segments.reverse.dropWhile List.isEmpty).reverse
  (kept, kept.length < segments.length)

/-- Sets a file: in its old place, or at the end. -/
def setFile (p : Place) (content : Bytes) : List (Place × Bytes) → List (Place × Bytes)
  | [] => [(p, content)]
  | (q, c) :: rest => if q = p then (q, content) :: rest else (q, c) :: setFile p content rest

/-- Writes bytes at the end of a file, which is made when it is missing. -/
def append (t : FileTree) (path : String) (more : Bytes) : Except Flaw FileTree := do
  let (start, segments) ← begin? path
  let (segments, slashed) := withoutSlashes segments
  let p ← t.walk start segments.dropLast
  let name := segments.getLast?.getD []
  if slashed || isIdle name || name = Place.up then throw .isFolder
  else if maxName < byteCount name then throw .longName
  else if t.hasFolder (p ++ [name]) then throw .isFolder
  else
    let content := (t.content? (p ++ [name])).getD [] ++ more
    return { t with files := setFile (p ++ [name]) content t.files }

def makeFolder (t : FileTree) (path : String) : Except Flaw FileTree := do
  let (start, segments) ← begin? path
  let segments := (withoutSlashes segments).1
  let p ← t.walk start segments.dropLast
  let name := segments.getLast?.getD []
  if isIdle name || name = Place.up then throw .taken
  else if maxName < byteCount name then throw .longName
  else if t.hasFolder (p ++ [name]) || (t.content? (p ++ [name])).isSome then throw .taken
  else return { t with folders := t.folders ++ [p ++ [name]] }

/-- A path without its last segment and the slashes before it, and that segment. A path of slashes
before the segment stays. -/
def cutName (cs : List Char) : List Char × List Char :=
  let name := (cs.reverse.takeWhile (· != '/')).reverse
  let head := cs.take (cs.length - name.length)
  if head.all (· == '/') then (head, name)
  else ((head.reverse.dropWhile (· == '/')).reverse, name)

def ensureFolder (t : FileTree) (path : String) : FileTree × Option Flaw :=
  match t.makeFolder path with
  | .ok t => (t, none)
  | .error flaw => (t, if t.isFolder path then none else some flaw)

/-- Makes a folder and the folders above it. The fuel is the length of the path. -/
def ensureFolders (t : FileTree) : Nat → List Char → FileTree × Option Flaw
  | 0, cs => t.ensureFolder (String.ofList cs)
  | fuel + 1, cs =>
      let (head, name) := cutName cs
      let (head, name) := if name.isEmpty then cutName head else (head, name)
      if head.isEmpty || name.isEmpty || t.has (String.ofList head) then
        t.ensureFolder (String.ofList cs)
      else
        match t.ensureFolders fuel head with
        | (t, none) => if name = ['.'] then (t, none) else t.ensureFolder (String.ofList cs)
        | (t, some .taken) => if name = ['.'] then (t, none) else t.ensureFolder (String.ofList cs)
        | (t, some flaw) => (t, some flaw)

/-- Makes the folder that the file at the end of a path is to stand in, and those above it. -/
def prepare (t : FileTree) (path : String) : FileTree × Option Flaw :=
  let head := (cutName path.toList).1
  t.ensureFolders path.length (if head.isEmpty then ['.'] else head)

/-- The place of a path, without following it. -/
def placeOf (path : String) : Place :=
  let segments := Text.splitOn '/' path.toList
  let names := segments.filter fun s => !isIdle s
  if segments.head? = some [] then [] :: names else names

def ofFiles (files : List (String × Bytes)) : FileTree :=
  ⟨[], files.map fun f => (placeOf f.1, f.2)⟩

end FileTree

end RawSeries
