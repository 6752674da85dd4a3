import RawSeries.Directory.Basic

namespace RawSeries

/-- Names with their unique IDs, by kind. No name occurs twice within a kind. -/
structure UidTable where
  metrics : List (String × Bytes)
  tagKeys : List (String × Bytes)
  tagValues : List (String × Bytes)

namespace UidTable

def entries (t : UidTable) : UidKind → List (String × Bytes)
  | .metric => t.metrics
  | .tagKey => t.tagKeys
  | .tagValue => t.tagValues

/-- The last name that has a unique ID. -/
def name? (t : UidTable) (kind : UidKind) (uid : Bytes) : Option String :=
  ((t.entries kind).reverse.find? fun e => e.2 == uid).map (·.1)

def id? (t : UidTable) (kind : UidKind) (name : String) : Option Bytes :=
  (t.entries kind).lookup name

def sorted (names : List String) : List String :=
  names.mergeSort fun a b => !decide (b.toList < a.toList)

def matching (t : UidTable) (start : String) : List String :=
  sorted ((t.metrics.map (·.1)).filter fun name => start.toList.isPrefixOf name.toList)

def directory {m : Type → Type} [Monad m] [MonadExceptOf Fault m] (t : UidTable) : Directory m where
  name kind uid :=
    match t.name? kind uid with
    | some name => pure name
    | none => throwThe Fault (.unknownUid kind uid)
  id kind name :=
    match t.id? kind name with
    | some uid => pure uid
    | none => throwThe Fault (.unknownName kind name)
  suggest start limit :=
    pure (match limit with
      | none => t.matching start
      | some n => (t.matching start).take n)

end UidTable

end RawSeries
