/-!
The code points of a label beyond ASCII as distances in the order of their numbers, written in small
letters and digits behind the ASCII characters of the label.
-/

namespace RawSeries.Gateway.Label

/-- The sign of a digit below 36: letters, then `0` to `9`. -/
def digitChar (d : Nat) : Char :=
  Char.ofNat (if d < 26 then 97 + d else 22 + d)

/-- The least digit at a place that is not the last one of its number. -/
def threshold (place bias : Nat) : Nat :=
  if place ≤ bias then 1 else if bias + 26 ≤ place then 26 else place - bias

/-- The bias for a distance that was scaled down, after `places` places. -/
def settle (distance places : Nat) : Nat :=
  if 455 < distance then settle (distance / 35) (places + 36)
  else places + 36 * distance / (distance + 38)
termination_by distance
decreasing_by exact Nat.div_lt_self (by omega) (by omega)

/-- The bias after a distance, when `count` characters are written. -/
def adapt (distance count : Nat) (first : Bool) : Nat :=
  let scaled := if first then distance / 700 else distance / 2
  settle (scaled + scaled / count) 0

def digitValue? (c : Char) : Option Nat :=
  if 'a' ≤ c ∧ c ≤ 'z' then some (c.toNat - 97)
  else if '0' ≤ c ∧ c ≤ '9' then some (c.toNat - 22)
  else none

/-- The digits of a distance, the lowest place first. -/
def distanceDigits (bias place distance : Nat) : List Char :=
  let t := threshold place bias
  if distance < t ∨ t = 0 then [digitChar distance]
  else
    digitChar (t + (distance - t) % (36 - t)) ::
      distanceDigits bias (place + 36) ((distance - t) / (36 - t))
termination_by distance
decreasing_by
  have := Nat.div_le_self (distance - threshold place bias) (36 - threshold place bias)
  omega

structure Progress where
  written : List Char
  /-- The places that were passed since the last character. -/
  distance : Nat
  bias : Nat
  /-- The characters that are written. -/
  count : Nat

/-- Passes one place of a label while the code point `code` is written. -/
def pass (basic code : Nat) (p : Progress) (c : Char) : Progress :=
  if c.toNat < code then { p with distance := p.distance + 1 }
  else if c.toNat = code then
    ⟨p.written ++ distanceDigits p.bias 36 p.distance, 0,
      adapt p.distance (p.count + 1) (p.count = basic), p.count + 1⟩
  else p

/-- Writes code points in rising order, from the first that is not yet passed. -/
def writeCodes (label : List Char) (basic : Nat) : Nat → List Nat → Progress → Progress
  | _, [], p => p
  | next, code :: codes, p =>
      let begun := { p with distance := p.distance + (code - next) * (p.count + 1) }
      let ended := label.foldl (pass basic code) begun
      writeCodes label basic (code + 1) codes { ended with distance := ended.distance + 1 }

def isAscii (c : Char) : Bool := c.toNat < 128

/-- The distances of a label after its ASCII characters. -/
def encode (label : List Char) : List Char :=
  let basic := label.filter isAscii
  let codes := (label.filter fun c => !isAscii c).map Char.toNat
  let rising := codes.eraseDups.mergeSort fun a b => decide (a ≤ b)
  let written := if basic.isEmpty then [] else basic ++ ['-']
  (writeCodes label basic.length 128 rising ⟨written, 0, 72, basic.length⟩).written

/-- Reads the digits of a distance from a place on, where a digit has a weight, after a sum for the
places below. -/
def readDistance (bias : Nat) : Nat → Nat → Nat → List Char → Option (Nat × List Char)
  | _, _, _, [] => none
  | place, weight, sum, c :: rest =>
      (digitValue? c).bind fun d =>
        let sum := sum + d * weight
        let t := threshold place bias
        if d < t then some (sum, rest)
        else readDistance bias (place + 36) (weight * (36 - t)) sum rest

def maxCode : Nat := 1114111

/-- Puts code points into a label at their distances: the next place to count from, the code point
that was reached, and the bias. The fuel is the length of the text. -/
def putCodes : Nat → List Nat → Nat → Nat → Nat → Bool → List Char → Option (List Nat)
  | _, label, _, _, _, _, [] => some label
  | 0, _, _, _, _, _, _ => none
  | fuel + 1, label, next, code, bias, first, cs =>
      match readDistance bias 36 1 0 cs with
      | none => none
      | some (distance, rest) =>
          let count := label.length + 1
          let reached := code + (next + distance) / count
          let place := (next + distance) % count
          if maxCode < reached then none
          else
            putCodes fuel (label.take place ++ reached :: label.drop place) (place + 1) reached
              (adapt distance count first) false rest

/-- The code points of a label from its ASCII characters, the last hyphen and the distances. -/
def decode? (cs : List Char) : Option (List Nat) :=
  let distances := (cs.reverse.takeWhile (· != '-')).reverse
  let basic := (cs.take (cs.length - distances.length)).dropLast
  putCodes distances.length (basic.map Char.toNat) 0 128 72 true distances

end RawSeries.Gateway.Label
