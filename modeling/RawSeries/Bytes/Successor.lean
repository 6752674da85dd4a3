import RawSeries.Bytes.Basic

namespace RawSeries.Bytes

/-- The least byte string above every string that starts with `p`; empty when there is none, that
is when `p` holds nothing but the byte 255. -/
def successor : Bytes → Bytes
  | [] => []
  | x :: rest =>
      match successor rest with
      | [] => if x = 255 then [] else [x + 1]
      | next => x :: next

end RawSeries.Bytes
