import RawSeries.Command.Run

namespace RawSeries.Command

def usage : String :=
  "Usage: seriesdump [--import|--delete] START-DATE [END-DATE] query [queries...]\n" ++
    "       seriesdump --batch-delete-older END-DATE metric-prefix\n" ++
    "To see the format in which data is stored, use --import or --delete."

def flawLine (flaw : String × Settings.Flaw) : String :=
  flaw.1 ++ ": " ++ flaw.2.word

def Ending.lines : Ending → List String
  | .done => []
  | .help => [usage]
  | .misuse complaint => [complaint.message, usage]
  | .badSettings flaws =>
      ["Error: Bad configuration: " ++ String.intercalate ", " (flaws.map flawLine)]
  | .failure fault => [((Ending.failure fault).error?).getD fault.line]
  | ending => ending.error?.toList

def Report.lines (r : Report) : List String :=
  r.summary.toList ++ r.ending.lines

end RawSeries.Command
