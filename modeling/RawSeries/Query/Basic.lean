import RawSeries.Fault

namespace RawSeries

/-- A filter on one tag key: any value, or one of some values. -/
structure TagFilter where
  tagKey : String
  uid : Bytes
  values : Option (List Bytes)

/-- A downsampling interval in seconds, and how points within it are aggregated. -/
structure Downsample where
  interval : Int
  aggregator : Aggregator

/-- A query on one metric. Times are in seconds, both ends included. -/
structure Query where
  metric : String
  uid : Bytes
  start : Int
  stop : Int
  aggregator : Aggregator
  rate : Bool
  downsample : Option Downsample
  filters : List TagFilter
  layout : Layout

namespace TagFilter

/-- The values without repetition, in byte order. -/
def valueSet (f : TagFilter) : Option (List Bytes) :=
  f.values.map fun values => values.eraseDups.mergeSort fun a b => !Bytes.before b a

def accepts (f : TagFilter) (value : Bytes) : Bool :=
  match f.values with
  | none => true
  | some values => values.contains value

end TagFilter

namespace Query

def rowSpan : Int := 3600

/-- The seconds that downsampling widens the range by. -/
def padding (q : Query) : Int :=
  match q.downsample with
  | some d => d.interval
  | none => 0

/-- The first base time that is scanned. A row that starts before the range can hold points in
it. -/
def scanStart (q : Query) : Int :=
  max 0 (q.start - 2 * rowSpan - q.padding)

def scanStop (q : Query) : Int :=
  q.stop + rowSpan + 1 + q.padding

/-- A metric and a base time as the beginning of row keys. -/
def bound (q : Query) (time : Int) : Except NumberFlaw Bytes :=
  match Bytes.encode? q.layout.time time with
  | some b => .ok (q.uid ++ b)
  | none => .error (if time < 0 then .negativeTime else .longTime)

def startRow (q : Query) : Except NumberFlaw Bytes :=
  q.bound q.scanStart

/-- The key at which scanning stops. Times beyond those of row keys count as the last of them. -/
def stopRow (q : Query) : Except NumberFlaw Bytes :=
  q.bound (min q.scanStop (Nat.pow 256 q.layout.time - 1 : Int))

/-- The value of a tag key in a row key; of several pairs the last counts. -/
def tagValue? (q : Query) (key uid : Bytes) : Option Bytes :=
  (Key.tagsOf q.layout key).reverse.lookup uid

/-- A row key belongs to the metric and passes every tag filter. -/
def accepts (q : Query) (key : Bytes) : Bool :=
  Key.metricOf q.layout key == q.uid &&
    q.filters.all fun f =>
      match q.tagValue? key f.uid with
      | some value => f.accepts value
      | none => false

/-- A row key is accepted, where its tags have to be looked at only if the metric is right and there
are filters: tags that take no bytes cannot be told apart. -/
def passes (q : Query) (key : Bytes) : Except NumberFlaw Bool :=
  if q.layout.tag = 0 ∧ Key.metricOf q.layout key = q.uid ∧ ¬q.filters.isEmpty then .error .noStep
  else .ok (q.accepts key)

/-- A row key lies between two bounds and is accepted. -/
def selects (q : Query) (first stop key : Bytes) : Except NumberFlaw Bool :=
  if Bytes.before key first || !Bytes.before key stop then .ok false else q.passes key

end Query

end RawSeries
