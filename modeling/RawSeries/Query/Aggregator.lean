namespace RawSeries

inductive Aggregator where
  | avg | dev | max | mimmax | mimmin | min | sum | zimsum
deriving DecidableEq

namespace Aggregator

def all : List Aggregator := [avg, dev, max, mimmax, mimmin, min, sum, zimsum]

def word : Aggregator → String
  | avg => "avg"
  | dev => "dev"
  | max => "max"
  | mimmax => "mimmax"
  | mimmin => "mimmin"
  | min => "min"
  | sum => "sum"
  | zimsum => "zimsum"

def ofWord? (w : String) : Option Aggregator :=
  all.find? fun a => a.word == w

end Aggregator

end RawSeries
