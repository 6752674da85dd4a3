import RawSeries.Bytes.Basic
import RawSeries.Text.Numeral

namespace RawSeries.Bytes

/-- Numbers between brackets, with commas between them. -/
def bracketed (numbers : List Int) : String :=
  "[" ++ String.intercalate ", " (numbers.map Numeral.integer) ++ "]"

/-- The bytes as numbers from -128 to 127, for instance `[0, -1, 42]`. -/
def signedListing (b : Bytes) : String :=
  bracketed (b.map signedByte)

def listing (b : Bytes) : String :=
  bracketed (b.map fun x => (x.toNat : Int))

end RawSeries.Bytes
