import RawSeries.Bytes.Basic

namespace RawSeries.Bytes

def toLatin (b : Bytes) : String :=
  String.ofList (b.map fun x => Char.ofNat x.toNat)

/-- One byte for each character; refuses characters beyond the first 256. -/
def ofLatin? (s : String) : Option Bytes :=
  s.toList.mapM fun c => if c.toNat < 256 then some (UInt8.ofNat c.toNat) else none

end RawSeries.Bytes
