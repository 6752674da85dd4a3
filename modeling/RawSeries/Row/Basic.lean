import RawSeries.Column.Compacted

namespace RawSeries

structure Row where
  key : Bytes
  columns : List Column
deriving DecidableEq

def Row.merge (a b : Row) : Row :=
  ⟨a.key, a.columns ++ b.columns⟩

end RawSeries
