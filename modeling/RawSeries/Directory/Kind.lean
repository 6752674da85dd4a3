namespace RawSeries

inductive UidKind where
  | metric | tagKey | tagValue
deriving DecidableEq

/-- The word for a kind, in the table of unique IDs and in reports. -/
def UidKind.word : UidKind → String
  | .metric => "metrics"
  | .tagKey => "tagk"
  | .tagValue => "tagv"

end RawSeries
