namespace RawSeries

inductive Level where
  | debug | info | warning | error | critical
deriving DecidableEq

namespace Level

def all : List Level := [debug, info, warning, error, critical]

def word : Level → String
  | debug => "DEBUG"
  | info => "INFO"
  | warning => "WARNING"
  | error => "ERROR"
  | critical => "CRITICAL"

def ofWord? (w : String) : Option Level :=
  all.find? fun l => l.word == w

end Level

end RawSeries
