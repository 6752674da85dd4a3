import RawSeries.Decimal.Quantity

namespace RawSeries

inductive Status where
  | started | done | failed
  /-- A status that batch deletions do not write. -/
  | other (word : String)
deriving DecidableEq

def Status.word : Status → String
  | .started => "started"
  | .done => "done"
  | .failed => "failed"
  | .other word => word

structure Record where
  metric : String
  status : Status
  rows : Quantity
  /-- Milliseconds since the metric was begun. -/
  elapsed : Quantity
  error : Option String
  /-- Seconds since 1970. -/
  updated : Quantity
deriving DecidableEq

end RawSeries
