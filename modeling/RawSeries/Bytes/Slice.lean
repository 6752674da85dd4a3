import RawSeries.Bytes.Basic

namespace RawSeries.Bytes

/-- A place counted from the start. One before the start stays negative. -/
def fromStart (b : Bytes) (place : Int) : Int :=
  if place < 0 then place + b.length else place

def at? (b : Bytes) (place : Int) : Option UInt8 :=
  let i := fromStart b place
  if i < 0 then none else b[i.toNat]?

/-- The bytes from a place to the one before another, as far as they are there. -/
def slice (b : Bytes) (first stop : Int) : Bytes :=
  (b.take (fromStart b stop).toNat).drop (fromStart b first).toNat

end RawSeries.Bytes
