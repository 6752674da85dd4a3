import RawSeries.Json.Basic
import RawSeries.Level
import RawSeries.Settings.Basic
import RawSeries.Text.Blank
import RawSeries.Text.Quoted

namespace RawSeries

/-- What the words of a command line say. Of an option with a value the last one counts. -/
structure Arguments where
  /-- Rows are printed in a form that can be loaded again. -/
  loadable : Bool
  delete : Bool
  /-- The rows of many metrics are deleted at once. -/
  purge : Bool
  verbose : Bool
  help : Bool
  config : Option String
  restUrl : Option String
  dataTable : Option String
  uidTable : Option String
  manifest : Option String
  /-- The words that are no options and no values of options. -/
  words : List String
deriving DecidableEq

namespace Arguments

def blank : Arguments where
  loadable := false
  delete := false
  purge := false
  verbose := false
  help := false
  config := none
  restUrl := none
  dataTable := none
  uidTable := none
  manifest := none
  words := []

/-- An option without a value. -/
inductive Switch where
  | loadable | delete | purge | verbose | help
deriving DecidableEq

inductive Slot where
  | config | restUrl | dataTable | uidTable | manifest
deriving DecidableEq

def turnOn (a : Arguments) : Switch → Arguments
  | .loadable => { a with loadable := true }
  | .delete => { a with delete := true }
  | .purge => { a with purge := true }
  | .verbose => { a with verbose := true }
  | .help => { a with help := true }

def put (a : Arguments) (slot : Slot) (value : String) : Arguments :=
  match slot with
  | .config => { a with config := some value }
  | .restUrl => { a with restUrl := some value }
  | .dataTable => { a with dataTable := some value }
  | .uidTable => { a with uidTable := some value }
  | .manifest => { a with manifest := some value }

def longNames : List (String × (Switch ⊕ Slot)) :=
  [("--import", .inl .loadable), ("--delete", .inl .delete),
    ("--batch-delete-older", .inl .purge), ("--config", .inr .config),
    ("--rest-url", .inr .restUrl), ("--table", .inr .dataTable), ("--uidtable", .inr .uidTable),
    ("--manifest", .inr .manifest), ("--verbose", .inl .verbose), ("--help", .inl .help)]

def letters : List (Char × Switch) :=
  [('v', .verbose), ('h', .help)]

/-- Why words are no arguments. -/
inductive Flaw where
  | unknown (option : String)
  | lacksValue (option : String)
  | refusesValue (option : String)
  /-- The value of an option names a file that is not there. -/
  | noFile (option path : String)
  /-- The value of an option names a folder where a file is needed. -/
  | isFolder (option path : String)
deriving DecidableEq

def Flaw.message : Flaw → String
  | .unknown option => "No such option " ++ Quoted.text option ++ "."
  | .lacksValue option => "Option " ++ Quoted.text option ++ " requires an argument."
  | .refusesValue option => "Option " ++ Quoted.text option ++ " does not take a value."
  | .noFile option path =>
      "Invalid value for " ++ Quoted.text option ++ ": File " ++ Quoted.text path ++
        " does not exist."
  | .isFolder option path =>
      "Invalid value for " ++ Quoted.text option ++ ": File " ++ Quoted.text path ++
        " is a directory."

inductive Wish where
  | switches (on : List Switch)
  /-- A value for a slot: the one after the equals sign, or else the next word. -/
  | slot (option : String) (slot : Slot) (value : Option String)

def isOption (word : String) : Bool :=
  match word.toList with
  | '-' :: _ :: _ => true
  | _ => false

def switchOf (letter : Char) : Except Flaw Switch :=
  match letters.lookup letter with
  | some switch => .ok switch
  | none => .error (.unknown (String.ofList ['-', letter]))

/-- The name of an option, and its value after an equals sign. -/
def cutValue (word : String) : String × Option String :=
  match Text.cutAt? '=' word.toList with
  | some (name, value) => (String.ofList name, some (String.ofList value))
  | none => (word, none)

/-- What an option asks for. After a single hyphen every letter is a switch. -/
def wishOf (word : String) : Except Flaw Wish :=
  let (name, value) := cutValue word
  match longNames.lookup name, value with
  | some (.inr slot), value => .ok (.slot name slot value)
  | some (.inl switch), none => .ok (.switches [switch])
  | some (.inl _), some _ => .error (.refusesValue name)
  | none, _ =>
      match word.toList with
      | '-' :: '-' :: _ => .error (.unknown name)
      | _ :: cluster => (cluster.mapM switchOf).map .switches
      | [] => .error (.unknown name)

def readAfter (a : Arguments) : List String → Except Flaw Arguments
  | [] => .ok a
  | word :: rest =>
      if word = "--" then .ok { a with words := a.words ++ rest }
      else if isOption word then
        match wishOf word with
        | .error flaw => .error flaw
        | .ok (.switches on) => readAfter (on.foldl turnOn a) rest
        | .ok (.slot _ slot (some value)) => readAfter (a.put slot value) rest
        | .ok (.slot option slot none) =>
            match rest with
            | [] => .error (.lacksValue option)
            | value :: rest => readAfter (a.put slot value) rest
      else readAfter { a with words := a.words ++ [word] } rest

def read (words : List String) : Except Flaw Arguments :=
  readAfter blank words

/-- The settings that the arguments give, by name. -/
def options (a : Arguments) : List (String × Json) :=
  let given (value : Option String) : Json := (value.map fun text => .text text).getD .null
  [(Settings.Field.restUrl.name, given a.restUrl),
    (Settings.Field.dataTable.name, given a.dataTable),
    (Settings.Field.uidTable.name, given a.uidTable),
    (Settings.Field.level.name, if a.verbose then .text Level.debug.word else .null)]

/-- Why words are no request, though their options are in order. -/
inductive Complaint where
  | noWords
  /-- A purge takes an end and the start of metric names. -/
  | notTwo
  | tooFew
deriving DecidableEq

/-- The number of words does not fit the request. -/
def complaint? (a : Arguments) : Option Complaint :=
  if a.words.isEmpty then some .noWords
  else if a.purge then if a.words.length = 2 then none else some .notTwo
  else if a.words.length < 3 then some .tooFew
  else none

def Complaint.message : Complaint → String
  | .noWords => "Invalid usage."
  | .notTwo => "Wrong number of arguments with option --batch-delete-older."
  | .tooFew => "Not enough arguments."

end Arguments

end RawSeries
