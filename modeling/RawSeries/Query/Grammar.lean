import RawSeries.Directory.Basic
import RawSeries.Query.Basic
import RawSeries.Query.Instant

/-!
Queries as words: a start, an end that may be left out, and one clause for each query.
-/

namespace RawSeries

/-- A clause: the words of one query, with its tag filters not yet read. -/
structure Clause where
  aggregator : Aggregator
  rate : Bool
  downsample : Option Downsample
  metric : String
  tags : List String

namespace Clause

def take (what : String) : List String → Except Fault (String × List String)
  | [] => .error (.query (.missing what))
  | word :: rest => .ok (word, rest)

def aggregatorOf (word : String) : Except Fault Aggregator :=
  match Aggregator.ofWord? word with
  | some a => .ok a
  | none => .error (.query (.unknownAggregator word))

/-- The word `rate`, if it comes next. A metric has to follow in any case. -/
def takeRate (words : List String) : Except Fault (Bool × List String) := do
  let (word, rest) ← take "metric" words
  return if word = "rate" then (true, rest) else (false, words)

/-- A downsampling, if it comes next. A metric has to follow in any case. -/
def takeDownsample (words : List String) : Except Fault (Option Downsample × List String) := do
  let (word, rest) ← take "metric" words
  if word = "downsample" then
    let (interval, rest) ← take "downsample interval" rest
    let seconds ← Duration.seconds interval
    let (name, rest) ← take "downsample aggregator" rest
    let aggregator ← aggregatorOf name
    return (some ⟨seconds, aggregator⟩, rest)
  else return (none, words)

/-- A word with an equals sign belongs to the tag filters. -/
def isTag (word : String) : Bool :=
  word.toList.contains '='

/-- The first clause of some words, and the words after it. -/
def read (words : List String) : Except Fault (Clause × List String) := do
  let (name, words) ← take "metric" words
  let aggregator ← aggregatorOf name
  let (rate, words) ← takeRate words
  let (downsample, words) ← takeDownsample words
  let (metric, words) ← take "metric" words
  return (⟨aggregator, rate, downsample, metric, words.takeWhile isTag⟩, words.dropWhile isTag)

end Clause

namespace Query

variable {m : Type → Type} [Monad m] [MonadExceptOf Fault m]

def orFail {α : Type} : Except Fault α → m α
  | .ok a => pure a
  | .error f => throwThe Fault f

/-- Reads a tag filter: a key, an equals sign, and a star or values with bars between them. -/
def readFilter (d : Directory m) (word : String) : m TagFilter := do
  match Text.cutAt? '=' word.toList with
  | some (k :: ks, v :: vs) =>
      let tagKey := String.ofList (k :: ks)
      let uid ← d.id .tagKey tagKey
      if v :: vs = ['*'] then return ⟨tagKey, uid, none⟩
      else
        let values ← (Text.splitOn '|' (v :: vs)).mapM fun value =>
          d.id .tagValue (String.ofList value)
        return ⟨tagKey, uid, some values⟩
  | _ => throwThe Fault (.query (.badTagFilter word))

/-- Looks up the names of a clause: the tags, then the metric. -/
def ofClause (d : Directory m) (layout : Layout) (start stop : Int) (c : Clause) : m Query := do
  let filters ← c.tags.mapM (readFilter d)
  let uid ← d.id .metric c.metric
  return ⟨c.metric, uid, start, stop, c.aggregator, c.rate, c.downsample, filters, layout⟩

/-- Reads clauses one after the other; each takes a word at least, so that as many steps as there
are words are enough. -/
def readClauses (d : Directory m) (layout : Layout) (start stop : Int) :
    Nat → List String → m (List Query)
  | _, [] => pure []
  | 0, _ :: _ => pure []
  | steps + 1, words => do
      let (clause, rest) ← orFail (Clause.read words)
      let query ← ofClause d layout start stop clause
      let queries ← readClauses d layout start stop steps rest
      return query :: queries

/-- The end of the range, and the words after it: the present when an aggregator comes next. -/
def readStop (now : Quantity) (words : List String) : Except Fault (Int × List String) :=
  match words with
  | word :: rest =>
      if (Aggregator.ofWord? word).isNone then (Instant.read now word).map fun stop => (stop, rest)
      else (now.truncated.mapError Fault.number).map fun stop => (stop, words)
  | [] => (now.truncated.mapError Fault.number).map fun stop => (stop, words)

/-- Reads queries: the dates, then at least one clause. -/
def read (d : Directory m) (layout : Layout) (now : Quantity) (words : List String) :
    m (List Query) := do
  match words with
  | [] => throwThe Fault (.query .noStart)
  | first :: rest =>
      let start ← orFail (Instant.read now first)
      let (stop, rest) ← orFail (readStop now rest)
      if stop < start then throwThe Fault (.query (.reversed stop start))
      else if rest.isEmpty then throwThe Fault (.query .noQuery)
      else readClauses d layout start stop rest.length rest

end Query

end RawSeries
