import RawSeries.Bytes.Basic

namespace RawSeries.Utf8

inductive Start where
  /-- A character in `width` bytes. -/
  | character (code width : Nat)
  /-- `width` bytes that begin no character, or begin one that does not go on. -/
  | broken (width : Nat)

/-- The last six bits of the next byte, if it lies between two bounds. -/
def within (low high : Nat) : Bytes → Option (Nat × Bytes)
  | [] => none
  | x :: rest => if low ≤ x.toNat ∧ x.toNat ≤ high then some (x.toNat % 64, rest) else none

/-- A character of two bytes, after the first. -/
def twoBytes (a : Nat) (rest : Bytes) : Start :=
  match within 128 191 rest with
  | some (b, _) => .character (a % 32 * 64 + b) 2
  | none => .broken 1

/-- A character of three bytes, after the first, with bounds for the second. -/
def threeBytes (a low high : Nat) (rest : Bytes) : Start :=
  match within low high rest with
  | none => .broken 1
  | some (b, rest) =>
      match within 128 191 rest with
      | some (c, _) => .character (a % 16 * 4096 + b * 64 + c) 3
      | none => .broken 2

/-- A character of four bytes, after the first, with bounds for the second. -/
def fourBytes (a low high : Nat) (rest : Bytes) : Start :=
  match within low high rest with
  | none => .broken 1
  | some (b, rest) =>
      match within 128 191 rest with
      | none => .broken 2
      | some (c, rest) =>
          match within 128 191 rest with
          | some (d, _) => .character (a % 8 * 262144 + b * 4096 + c * 64 + d) 4
          | none => .broken 3

/-- The character that starts with the byte `x`, followed by `rest`. -/
def start (x : UInt8) (rest : Bytes) : Start :=
  let a := x.toNat
  if a < 128 then .character a 1
  else if a < 194 then .broken 1
  else if a < 224 then twoBytes a rest
  else if a = 224 then threeBytes a 160 191 rest
  else if a = 237 then threeBytes a 128 159 rest
  else if a < 240 then threeBytes a 128 191 rest
  else if a = 240 then fourBytes a 144 191 rest
  else if a < 244 then fourBytes a 128 191 rest
  else if a = 244 then fourBytes a 128 143 rest
  else .broken 1

/-- The characters of well-formed UTF-8, and nothing for any other byte string. -/
def decodeChars? : Bytes → Option (List Char)
  | [] => some []
  | x :: rest =>
      match start x rest with
      | .broken _ => none
      | .character code width =>
          (decodeChars? (rest.drop (width - 1))).map (Char.ofNat code :: ·)
termination_by b => b.length
decreasing_by rw [List.length_drop, List.length_cons]; omega

def decode? (b : Bytes) : Option String :=
  (decodeChars? b).map String.ofList

/-- The characters before the first byte that does not belong to one. -/
def leading : Bytes → List Char
  | [] => []
  | x :: rest =>
      match start x rest with
      | .broken _ => []
      | .character code width => Char.ofNat code :: leading (rest.drop (width - 1))
termination_by b => b.length
decreasing_by rw [List.length_drop, List.length_cons]; omega

/-- How many bytes of those that begin no character show nothing wrong yet. The first two bytes of
half a pair show nothing. -/
def patience (x : UInt8) (rest : Bytes) (width : Nat) : Nat :=
  if x.toNat < 194 ∨ 244 < x.toNat then 0
  else if x.toNat = 237 ∧ (rest.head?.any fun y => 160 ≤ y.toNat && y.toNat ≤ 191) then 2
  else width

/-- The place of the first byte that shows that a byte string is not UTF-8: its length when only the
end is missing, and nothing when all is well. -/
def faultAt? : Bytes → Option Nat
  | [] => none
  | x :: rest =>
      match start x rest with
      | .broken width => some (patience x rest width)
      | .character _ width => (faultAt? (rest.drop (width - 1))).map (· + width)
termination_by b => b.length
decreasing_by rw [List.length_drop, List.length_cons]; omega

/-- The text with U+FFFD for each longest stretch that begins no character or is cut short. -/
def decodeLossyChars : Bytes → List Char
  | [] => []
  | x :: rest =>
      match start x rest with
      | .broken width => Char.ofNat 65533 :: decodeLossyChars (rest.drop (width - 1))
      | .character code width => Char.ofNat code :: decodeLossyChars (rest.drop (width - 1))
termination_by b => b.length
decreasing_by all_goals (rw [List.length_drop, List.length_cons]; omega)

/-- Reads any byte string, with U+FFFD in place of what is not UTF-8. -/
def decodeLossy (b : Bytes) : String :=
  String.ofList (decodeLossyChars b)

def encodeCode (n : Nat) : Bytes :=
  if n < 128 then [UInt8.ofNat n]
  else if n < 2048 then [UInt8.ofNat (192 + n / 64), UInt8.ofNat (128 + n % 64)]
  else if n < 65536 then
    [UInt8.ofNat (224 + n / 4096), UInt8.ofNat (128 + n / 64 % 64), UInt8.ofNat (128 + n % 64)]
  else
    [UInt8.ofNat (240 + n / 262144), UInt8.ofNat (128 + n / 4096 % 64),
      UInt8.ofNat (128 + n / 64 % 64), UInt8.ofNat (128 + n % 64)]

def encode (s : String) : Bytes :=
  s.toList.flatMap fun c => encodeCode c.toNat

end RawSeries.Utf8
