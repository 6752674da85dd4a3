import RawSeries.Level
import RawSeries.Row.Layout
import RawSeries.Settings.Number
import RawSeries.Settings.Properties

/-!
Settings: the gateway, its tables, the widths of unique IDs and limits. Values come from defaults, a
properties file and options, each layer over the one before, and are checked when all are known.
-/

namespace RawSeries

structure Settings where
  restUrl : String
  dataTable : String
  uidTable : String
  family : String
  metricWidth : Nat
  tagKeyWidth : Nat
  tagValueWidth : Nat
  scanBatch : Nat
  timeout : Nat
  maxConnections : Nat
  level : Level
deriving DecidableEq

namespace Settings

/-- The settings without a file and options. -/
def standard : Settings where
  restUrl := "http://localhost:8080"
  dataTable := "tsdb"
  uidTable := "tsdb-uid"
  family := "t"
  metricWidth := 3
  tagKeyWidth := 3
  tagValueWidth := 3
  scanBatch := 128
  timeout := 20
  maxConnections := 64
  level := .info

/-- The layout of row keys. The base time has four bytes. -/
def layout (s : Settings) : Layout :=
  ⟨s.metricWidth, s.tagKeyWidth, s.tagValueWidth, Layout.standard.time⟩

inductive Field where
  | restUrl | dataTable | uidTable | family | metricWidth | tagKeyWidth | tagValueWidth
  | scanBatch | timeout | maxConnections | level
deriving DecidableEq

namespace Field

def all : List Field :=
  [restUrl, dataTable, uidTable, family, metricWidth, tagKeyWidth, tagValueWidth, scanBatch,
    timeout, maxConnections, level]

def name : Field → String
  | restUrl => "rest_url"
  | dataTable => "data_table"
  | uidTable => "uid_table"
  | family => "family"
  | metricWidth => "metric_width"
  | tagKeyWidth => "tagk_width"
  | tagValueWidth => "tagv_width"
  | scanBatch => "scan_batch"
  | timeout => "timeout_s"
  | maxConnections => "max_connections"
  | level => "log_level"

def ofName? (n : String) : Option Field :=
  all.find? fun f => f.name == n

/-- The key of a field in properties files, if it can be set there. -/
def property? : Field → Option String
  | restUrl => some "tsd.storage.hbase.rest_url"
  | dataTable => some "tsd.storage.hbase.data_table"
  | uidTable => some "tsd.storage.hbase.uid_table"
  | metricWidth => some "tsd.storage.uid.width.metric"
  | tagKeyWidth => some "tsd.storage.uid.width.tagk"
  | tagValueWidth => some "tsd.storage.uid.width.tagv"
  | _ => none

end Field

def textOf : Json → Except Flaw String
  | .text (.plain s) => .ok (String.ofList (trimmed s.toList))
  | .text (.ragged _) => .error .stringUnicode
  | _ => .error .stringType

/-- A severity by its exact word. -/
def levelOf : Json → Except Flaw Level
  | .text (.plain s) =>
      match Level.ofWord? s with
      | some l => .ok l
      | none => .error .literal
  | _ => .error .literal

def widthOf : Json → Except Flaw Nat :=
  numberOf 1 (some 8) .belowLeast

/-- Sets one field to a value, if the field accepts it. -/
def set (s : Settings) (f : Field) (j : Json) : Except Flaw Settings :=
  match f with
  | .restUrl => (textOf j).map fun x => { s with restUrl := x }
  | .dataTable => (textOf j).map fun x => { s with dataTable := x }
  | .uidTable => (textOf j).map fun x => { s with uidTable := x }
  | .family => (textOf j).map fun x => { s with family := x }
  | .metricWidth => (widthOf j).map fun n => { s with metricWidth := n }
  | .tagKeyWidth => (widthOf j).map fun n => { s with tagKeyWidth := n }
  | .tagValueWidth => (widthOf j).map fun n => { s with tagValueWidth := n }
  | .scanBatch => (numberOf 1 none .belowLeast j).map fun n => { s with scanBatch := n }
  | .timeout => (numberOf 1 none .notAbove j).map fun n => { s with timeout := n }
  | .maxConnections => (numberOf 16 none .belowLeast j).map fun n => { s with maxConnections := n }
  | .level => (levelOf j).map fun l => { s with level := l }

/-- Why a name does not take a value. -/
inductive Refusal where
  | flaw (f : Flaw)
  /-- The name stands for what follows from the fields. -/
  | derived
  /-- The name stands for the settings as a whole. -/
  | kept
deriving DecidableEq

/-- Names of what follows from the fields: the layout, and which fields were set. -/
def derivedNames : List String :=
  ["layout", "model_extra", "model_fields_set", "__fields_set__", "__weakref__"]

/-- Names of the settings as a whole, which take no value of a single one. -/
def keptNames : List String := ["__class__", "__dict__"]

/-- Sets a field by its name. Names that start with a low line are free for remarks, which change no
field. -/
def assign (s : Settings) (name : String) (j : Json) : Except Refusal Settings :=
  match Field.ofName? name with
  | some f => (s.set f j).mapError .flaw
  | none =>
      if derivedNames.contains name then .error .derived
      else if keptNames.contains name then .error .kept
      else if name.toList.head? = some '_' then .ok s
      else .error (.flaw .noSuchField)

/-- Sets the fields that are given, in order. The fields that refuse their values are collected. -/
def fill (given : Field → Option Json) : List Field → Settings → Settings × List (String × Flaw)
  | [], s => (s, [])
  | f :: fs, s =>
      match given f with
      | none => fill given fs s
      | some j =>
          match s.set f j with
          | .ok s => fill given fs s
          | .error flaw =>
              let (s, flaws) := fill given fs s
              (s, (f.name, flaw) :: flaws)

/-- The settings that are given, or all flaws: those of the fields, then one for each other name. -/
def validate (given : Field → Option Json) (others : List String) :
    Except (List (String × Flaw)) Settings :=
  let (s, flaws) := fill given Field.all standard
  match flaws ++ others.map fun n => (n, .extra) with
  | [] => .ok s
  | all => .error all

/-- Options that are not empty. -/
def present (options : List (String × Json)) : List (String × Json) :=
  options.filter fun o => match o.2 with | .null => false | _ => true

/-- The value of a field: that of its option, else that of its property. -/
def layered (properties : List (String × String)) (options : List (String × Json)) (f : Field) :
    Option Json :=
  match (present options).lookup f.name with
  | some j => some j
  | none => (f.property?.bind fun key => properties.lookup key).map fun text => .text text

def load (properties : List (String × String)) (options : List (String × Json)) :
    Except (List (String × Flaw)) Settings :=
  validate (layered properties options)
    (((present options).map (·.1)).filter fun n => (Field.ofName? n).isNone)

end Settings

end RawSeries
