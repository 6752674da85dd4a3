import RawSeries.Text.Mark

namespace RawSeries.Text

/-- Runs of capitals that alternate with their small letters: the first and the last capital. -/
def alternating : List (Nat × Nat) := [
  (256, 302), (306, 310), (313, 327), (330, 374), (377, 381), (386, 388), (391, 391), (395, 395),
  (401, 401), (408, 408), (416, 420), (423, 423), (428, 428), (431, 431), (435, 437), (440, 440),
  (444, 444), (453, 453), (456, 456), (459, 475), (478, 494), (498, 500), (504, 542), (546, 562),
  (571, 571), (577, 577), (582, 590), (880, 882), (886, 886), (984, 1006), (1015, 1015),
  (1018, 1018), (1120, 1152), (1162, 1214), (1217, 1229), (1232, 1326), (7680, 7828), (7840, 7934),
  (8579, 8579), (11360, 11360), (11367, 11371), (11378, 11378), (11381, 11381), (11392, 11490),
  (11499, 11501), (11506, 11506), (42560, 42604), (42624, 42650), (42786, 42798), (42802, 42862),
  (42873, 42875), (42878, 42886), (42891, 42891), (42896, 42898), (42902, 42920), (42932, 42946),
  (42951, 42953), (42960, 42960), (42966, 42968), (42997, 42997)]

/-- Runs of capitals whose small letters stand elsewhere: the first and the last capital, and the
small letter of the first. -/
def moved : List (Nat × Nat × Nat) := [
  (65, 90, 97), (192, 214, 224), (216, 222, 248), (376, 376, 255), (385, 385, 595), (390, 390, 596),
  (393, 394, 598), (398, 398, 477), (399, 399, 601), (400, 400, 603), (403, 403, 608),
  (404, 404, 611), (406, 406, 617), (407, 407, 616), (412, 412, 623), (413, 413, 626),
  (415, 415, 629), (422, 422, 640), (425, 425, 643), (430, 430, 648), (433, 434, 650),
  (439, 439, 658), (452, 452, 454), (455, 455, 457), (458, 458, 460), (497, 497, 499),
  (502, 502, 405), (503, 503, 447), (544, 544, 414), (570, 570, 11365), (573, 573, 410),
  (574, 574, 11366), (579, 579, 384), (580, 580, 649), (581, 581, 652), (895, 895, 1011),
  (902, 902, 940), (904, 906, 941), (908, 908, 972), (910, 911, 973), (913, 929, 945),
  (931, 939, 963), (975, 975, 983), (1012, 1012, 952), (1017, 1017, 1010), (1021, 1023, 891),
  (1024, 1039, 1104), (1040, 1071, 1072), (1216, 1216, 1231), (1329, 1366, 1377),
  (4256, 4293, 11520), (4295, 4295, 11559), (4301, 4301, 11565), (5024, 5103, 43888),
  (5104, 5109, 5112), (7312, 7354, 4304), (7357, 7359, 4349), (7838, 7838, 223), (7944, 7951, 7936),
  (7960, 7965, 7952), (7976, 7983, 7968), (7992, 7999, 7984), (8008, 8013, 8000),
  (8025, 8025, 8017), (8027, 8027, 8019), (8029, 8029, 8021), (8031, 8031, 8023),
  (8040, 8047, 8032), (8072, 8079, 8064), (8088, 8095, 8080), (8104, 8111, 8096),
  (8120, 8121, 8112), (8122, 8123, 8048), (8124, 8124, 8115), (8136, 8139, 8050),
  (8140, 8140, 8131), (8152, 8153, 8144), (8154, 8155, 8054), (8168, 8169, 8160),
  (8170, 8171, 8058), (8172, 8172, 8165), (8184, 8185, 8056), (8186, 8187, 8060),
  (8188, 8188, 8179), (8486, 8486, 969), (8490, 8490, 107), (8491, 8491, 229), (8498, 8498, 8526),
  (8544, 8559, 8560), (9398, 9423, 9424), (11264, 11311, 11312), (11362, 11362, 619),
  (11363, 11363, 7549), (11364, 11364, 637), (11373, 11373, 593), (11374, 11374, 625),
  (11375, 11375, 592), (11376, 11376, 594), (11390, 11391, 575), (42877, 42877, 7545),
  (42893, 42893, 613), (42922, 42922, 614), (42923, 42923, 604), (42924, 42924, 609),
  (42925, 42925, 620), (42926, 42926, 618), (42928, 42928, 670), (42929, 42929, 647),
  (42930, 42930, 669), (42931, 42931, 43859), (42948, 42948, 42900), (42949, 42949, 642),
  (42950, 42950, 7566), (65313, 65338, 65345), (66560, 66599, 66600), (66736, 66771, 66776),
  (66928, 66938, 66967), (66940, 66954, 66979), (66956, 66962, 66995), (66964, 66965, 67003),
  (68736, 68786, 68800), (71840, 71871, 71872), (93760, 93791, 93792), (125184, 125217, 125218)]

/-- The small letter of a capital: a capital I with a dot is a small one and a dot. Other characters
stay. -/
def lowerChar (c : Char) : List Char :=
  let n := c.toNat
  if n < 65 then [c]
  else if n = 304 then ['i', Char.ofNat 775]
  else
    match moved.find? fun r => r.1 ≤ n && n ≤ r.2.1 with
    | some (first, _, image) => [Char.ofNat (image + (n - first))]
    | none => if alternates alternating n then [Char.ofNat (n + 1)] else [c]

/-- A capital or its small letter. -/
def hasCase (c : Char) : Bool :=
  let n := c.toNat
  lowerChar c != [c] || alternates alternating (n - 1) ||
    moved.any fun r => r.2.2 ≤ n && n ≤ r.2.2 + (r.2.1 - r.1)

def innerPoints : List Nat :=
  [39, 46, 58, 94, 96, 168, 173, 175, 180, 183, 184, 8204, 8205, 8216, 8217, 8228, 8231, 65294]

/-- A character that is passed over when the letters beside a letter are looked for. -/
def isInner (c : Char) : Bool :=
  isTopped c.toNat || innerPoints.contains c.toNat

/-- A letter stands before a place, with the nearest character first, and none after it. -/
def endsWord (before after : List Char) : Bool :=
  (before.dropWhile isInner).head?.any hasCase && !(after.dropWhile isInner).head?.any hasCase

def capitalSigma : Char := Char.ofNat 931

/-- The small sigma at the end of a word. -/
def finalSigma : Char := Char.ofNat 962

/-- A text in small letters, after the characters before it, the nearest one first. -/
def lowerAfter (before : List Char) : List Char → List Char
  | [] => []
  | c :: rest =>
      (if c = capitalSigma ∧ endsWord before rest then [finalSigma] else lowerChar c) ++
        lowerAfter (c :: before) rest

def lower (cs : List Char) : List Char :=
  lowerAfter [] cs

end RawSeries.Text
