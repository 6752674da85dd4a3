import RawSeries.Text.Mark

namespace RawSeries.Text.Composition

/-- A character, what is put to it, and what comes of it. -/
def pairs : List (Nat × Nat × Nat) := [
  (97, 768, 224), (97, 769, 225), (97, 770, 226), (97, 771, 227), (97, 772, 257), (97, 774, 259),
  (97, 775, 551), (97, 776, 228), (97, 777, 7843), (97, 778, 229), (97, 780, 462), (97, 783, 513),
  (97, 785, 515), (97, 803, 7841), (97, 805, 7681), (97, 808, 261), (98, 775, 7683),
  (98, 803, 7685), (98, 817, 7687), (99, 769, 263), (99, 770, 265), (99, 775, 267), (99, 780, 269),
  (99, 807, 231), (100, 775, 7691), (100, 780, 271), (100, 803, 7693), (100, 807, 7697),
  (100, 813, 7699), (100, 817, 7695), (101, 768, 232), (101, 769, 233), (101, 770, 234),
  (101, 771, 7869), (101, 772, 275), (101, 774, 277), (101, 775, 279), (101, 776, 235),
  (101, 777, 7867), (101, 780, 283), (101, 783, 517), (101, 785, 519), (101, 803, 7865),
  (101, 807, 553), (101, 808, 281), (101, 813, 7705), (101, 816, 7707), (102, 775, 7711),
  (103, 769, 501), (103, 770, 285), (103, 772, 7713), (103, 774, 287), (103, 775, 289),
  (103, 780, 487), (103, 807, 291), (104, 770, 293), (104, 775, 7715), (104, 776, 7719),
  (104, 780, 543), (104, 803, 7717), (104, 807, 7721), (104, 814, 7723), (104, 817, 7830),
  (105, 768, 236), (105, 769, 237), (105, 770, 238), (105, 771, 297), (105, 772, 299),
  (105, 774, 301), (105, 776, 239), (105, 777, 7881), (105, 780, 464), (105, 783, 521),
  (105, 785, 523), (105, 803, 7883), (105, 808, 303), (105, 816, 7725), (106, 770, 309),
  (106, 780, 496), (107, 769, 7729), (107, 780, 489), (107, 803, 7731), (107, 807, 311),
  (107, 817, 7733), (108, 769, 314), (108, 780, 318), (108, 803, 7735), (108, 807, 316),
  (108, 813, 7741), (108, 817, 7739), (109, 769, 7743), (109, 775, 7745), (109, 803, 7747),
  (110, 768, 505), (110, 769, 324), (110, 771, 241), (110, 775, 7749), (110, 780, 328),
  (110, 803, 7751), (110, 807, 326), (110, 813, 7755), (110, 817, 7753), (111, 768, 242),
  (111, 769, 243), (111, 770, 244), (111, 771, 245), (111, 772, 333), (111, 774, 335),
  (111, 775, 559), (111, 776, 246), (111, 777, 7887), (111, 779, 337), (111, 780, 466),
  (111, 783, 525), (111, 785, 527), (111, 795, 417), (111, 803, 7885), (111, 808, 491),
  (112, 769, 7765), (112, 775, 7767), (114, 769, 341), (114, 775, 7769), (114, 780, 345),
  (114, 783, 529), (114, 785, 531), (114, 803, 7771), (114, 807, 343), (114, 817, 7775),
  (115, 769, 347), (115, 770, 349), (115, 775, 7777), (115, 780, 353), (115, 803, 7779),
  (115, 806, 537), (115, 807, 351), (116, 775, 7787), (116, 776, 7831), (116, 780, 357),
  (116, 803, 7789), (116, 806, 539), (116, 807, 355), (116, 813, 7793), (116, 817, 7791),
  (117, 768, 249), (117, 769, 250), (117, 770, 251), (117, 771, 361), (117, 772, 363),
  (117, 774, 365), (117, 776, 252), (117, 777, 7911), (117, 778, 367), (117, 779, 369),
  (117, 780, 468), (117, 783, 533), (117, 785, 535), (117, 795, 432), (117, 803, 7909),
  (117, 804, 7795), (117, 808, 371), (117, 813, 7799), (117, 816, 7797), (118, 771, 7805),
  (118, 803, 7807), (119, 768, 7809), (119, 769, 7811), (119, 770, 373), (119, 775, 7815),
  (119, 776, 7813), (119, 778, 7832), (119, 803, 7817), (120, 775, 7819), (120, 776, 7821),
  (121, 768, 7923), (121, 769, 253), (121, 770, 375), (121, 771, 7929), (121, 772, 563),
  (121, 775, 7823), (121, 776, 255), (121, 777, 7927), (121, 778, 7833), (121, 803, 7925),
  (122, 769, 378), (122, 770, 7825), (122, 775, 380), (122, 780, 382), (122, 803, 7827),
  (122, 817, 7829), (226, 768, 7847), (226, 769, 7845), (226, 771, 7851), (226, 777, 7849),
  (228, 772, 479), (229, 769, 507), (230, 769, 509), (230, 772, 483), (231, 769, 7689),
  (234, 768, 7873), (234, 769, 7871), (234, 771, 7877), (234, 777, 7875), (239, 769, 7727),
  (244, 768, 7891), (244, 769, 7889), (244, 771, 7895), (244, 777, 7893), (245, 769, 7757),
  (245, 772, 557), (245, 776, 7759), (246, 772, 555), (248, 769, 511), (252, 768, 476),
  (252, 769, 472), (252, 772, 470), (252, 780, 474), (259, 768, 7857), (259, 769, 7855),
  (259, 771, 7861), (259, 777, 7859), (275, 768, 7701), (275, 769, 7703), (333, 768, 7761),
  (333, 769, 7763), (347, 775, 7781), (353, 775, 7783), (361, 769, 7801), (363, 776, 7803),
  (417, 768, 7901), (417, 769, 7899), (417, 771, 7905), (417, 777, 7903), (417, 803, 7907),
  (432, 768, 7915), (432, 769, 7913), (432, 771, 7919), (432, 777, 7917), (432, 803, 7921),
  (491, 772, 493), (551, 772, 481), (553, 774, 7709), (559, 772, 561), (658, 780, 495),
  (945, 768, 8048), (945, 769, 940), (945, 772, 8113), (945, 774, 8112), (945, 787, 7936),
  (945, 788, 7937), (945, 834, 8118), (949, 768, 8050), (949, 769, 941), (949, 787, 7952),
  (949, 788, 7953), (951, 768, 8052), (951, 769, 942), (951, 787, 7968), (951, 788, 7969),
  (951, 834, 8134), (953, 768, 8054), (953, 769, 943), (953, 772, 8145), (953, 774, 8144),
  (953, 776, 970), (953, 787, 7984), (953, 788, 7985), (953, 834, 8150), (959, 768, 8056),
  (959, 769, 972), (959, 787, 8000), (959, 788, 8001), (961, 787, 8164), (961, 788, 8165),
  (965, 768, 8058), (965, 769, 973), (965, 772, 8161), (965, 774, 8160), (965, 776, 971),
  (965, 787, 8016), (965, 788, 8017), (965, 834, 8166), (969, 768, 8060), (969, 769, 974),
  (969, 787, 8032), (969, 788, 8033), (969, 834, 8182), (970, 768, 8146), (970, 769, 912),
  (970, 834, 8151), (971, 768, 8162), (971, 769, 944), (971, 834, 8167), (1072, 774, 1233),
  (1072, 776, 1235), (1075, 769, 1107), (1077, 768, 1104), (1077, 774, 1239), (1077, 776, 1105),
  (1078, 774, 1218), (1078, 776, 1245), (1079, 776, 1247), (1080, 768, 1117), (1080, 772, 1251),
  (1080, 774, 1081), (1080, 776, 1253), (1082, 769, 1116), (1086, 776, 1255), (1091, 772, 1263),
  (1091, 774, 1118), (1091, 776, 1265), (1091, 779, 1267), (1095, 776, 1269), (1099, 776, 1273),
  (1101, 776, 1261), (1110, 776, 1111), (1141, 783, 1143), (1241, 776, 1243), (1257, 776, 1259),
  (1575, 1619, 1570), (1575, 1620, 1571), (1575, 1621, 1573), (1608, 1620, 1572),
  (1610, 1620, 1574), (1729, 1620, 1730), (1746, 1620, 1747), (1749, 1620, 1728),
  (2344, 2364, 2345), (2352, 2364, 2353), (2355, 2364, 2356), (2503, 2494, 2507),
  (2503, 2519, 2508), (2887, 2878, 2891), (2887, 2902, 2888), (2887, 2903, 2892),
  (2962, 3031, 2964), (3014, 3006, 3018), (3014, 3031, 3020), (3015, 3006, 3019),
  (3142, 3158, 3144), (3263, 3285, 3264), (3270, 3266, 3274), (3270, 3285, 3271),
  (3270, 3286, 3272), (3274, 3285, 3275), (3398, 3390, 3402), (3398, 3415, 3404),
  (3399, 3390, 3403), (3545, 3530, 3546), (3545, 3535, 3548), (3545, 3551, 3550),
  (3548, 3530, 3549), (4133, 4142, 4134), (6917, 6965, 6918), (6919, 6965, 6920),
  (6921, 6965, 6922), (6923, 6965, 6924), (6925, 6965, 6926), (6929, 6965, 6930),
  (6970, 6965, 6971), (6972, 6965, 6973), (6974, 6965, 6976), (6975, 6965, 6977),
  (6978, 6965, 6979), (7735, 772, 7737), (7771, 772, 7773), (7779, 775, 7785), (7841, 770, 7853),
  (7841, 774, 7863), (7865, 770, 7879), (7885, 770, 7897), (7936, 768, 7938), (7936, 769, 7940),
  (7936, 834, 7942), (7937, 768, 7939), (7937, 769, 7941), (7937, 834, 7943), (7952, 768, 7954),
  (7952, 769, 7956), (7953, 768, 7955), (7953, 769, 7957), (7968, 768, 7970), (7968, 769, 7972),
  (7968, 834, 7974), (7969, 768, 7971), (7969, 769, 7973), (7969, 834, 7975), (7984, 768, 7986),
  (7984, 769, 7988), (7984, 834, 7990), (7985, 768, 7987), (7985, 769, 7989), (7985, 834, 7991),
  (8000, 768, 8002), (8000, 769, 8004), (8001, 768, 8003), (8001, 769, 8005), (8016, 768, 8018),
  (8016, 769, 8020), (8016, 834, 8022), (8017, 768, 8019), (8017, 769, 8021), (8017, 834, 8023),
  (8032, 768, 8034), (8032, 769, 8036), (8032, 834, 8038), (8033, 768, 8035), (8033, 769, 8037),
  (8033, 834, 8039), (12358, 12441, 12436), (12363, 12441, 12364), (12365, 12441, 12366),
  (12367, 12441, 12368), (12369, 12441, 12370), (12371, 12441, 12372), (12373, 12441, 12374),
  (12375, 12441, 12376), (12377, 12441, 12378), (12379, 12441, 12380), (12381, 12441, 12382),
  (12383, 12441, 12384), (12385, 12441, 12386), (12388, 12441, 12389), (12390, 12441, 12391),
  (12392, 12441, 12393), (12399, 12441, 12400), (12399, 12442, 12401), (12402, 12441, 12403),
  (12402, 12442, 12404), (12405, 12441, 12406), (12405, 12442, 12407), (12408, 12441, 12409),
  (12408, 12442, 12410), (12411, 12441, 12412), (12411, 12442, 12413), (12445, 12441, 12446),
  (12454, 12441, 12532), (12459, 12441, 12460), (12461, 12441, 12462), (12463, 12441, 12464),
  (12465, 12441, 12466), (12467, 12441, 12468), (12469, 12441, 12470), (12471, 12441, 12472),
  (12473, 12441, 12474), (12475, 12441, 12476), (12477, 12441, 12478), (12479, 12441, 12480),
  (12481, 12441, 12482), (12484, 12441, 12485), (12486, 12441, 12487), (12488, 12441, 12489),
  (12495, 12441, 12496), (12495, 12442, 12497), (12498, 12441, 12499), (12498, 12442, 12500),
  (12501, 12441, 12502), (12501, 12442, 12503), (12504, 12441, 12505), (12504, 12442, 12506),
  (12507, 12441, 12508), (12507, 12442, 12509), (12527, 12441, 12535), (12528, 12441, 12536),
  (12529, 12441, 12537), (12530, 12441, 12538), (12541, 12441, 12542), (69785, 69818, 69786),
  (69787, 69818, 69788), (69797, 69818, 69803), (69937, 69927, 69934), (69938, 69927, 69935),
  (70471, 70462, 70475), (70471, 70487, 70476), (70841, 70832, 70844), (70841, 70842, 70843),
  (70841, 70845, 70846), (71096, 71087, 71098), (71097, 71087, 71099), (71989, 71984, 71992)]

/-- The first of the Korean syllables, which are put together by number. -/
def firstSyllable : Nat := 44032

def syllables : Nat := 11172

/-- The parts of a Korean syllable: a consonant, a vowel, and a consonant unless it has none at its
end. -/
def syllableParts (n : Nat) : List Nat :=
  let place := n - firstSyllable
  let last := place % 28
  [4352 + place / 588, 4449 + place % 588 / 28] ++ if last = 0 then [] else [4519 + last]

/-- The Korean syllable of two parts: a consonant and a vowel, or a syllable and a consonant. -/
def syllable? (a b : Nat) : Option Nat :=
  if 4352 ≤ a ∧ a < 4371 ∧ 4449 ≤ b ∧ b < 4470 then
    some (firstSyllable + ((a - 4352) * 21 + (b - 4449)) * 28)
  else if firstSyllable ≤ a ∧ a < firstSyllable + syllables ∧ (a - firstSyllable) % 28 = 0 ∧
      4519 < b ∧ b < 4547 then
    some (a + (b - 4519))
  else none

/-- What comes of a character and what is put to it. -/
def join? (a b : Nat) : Option Nat :=
  match syllable? a b with
  | some n => some n
  | none => (pairs.find? fun p => p.1 == a && p.2.1 == b).map fun p => p.2.2

/-- The most steps in which a character is put together. -/
def maxSteps : Nat := 3

/-- The parts of a character that is put together in some steps at most. -/
def partsIn : Nat → Nat → List Nat
  | 0, n => [n]
  | steps + 1, n =>
      match pairs.find? fun p => p.2.2 == n with
      | some (a, b, _) => partsIn steps a ++ [b]
      | none => [n]

def parts (n : Nat) : List Nat :=
  if firstSyllable ≤ n ∧ n < firstSyllable + syllables then syllableParts n
  else partsIn maxSteps n

/-- Puts a code point before marks in the order of their ranks. -/
def place (n : Nat) : List Nat → List Nat
  | [] => [n]
  | m :: rest => if rank m ≠ 0 ∧ rank m < rank n then m :: place n rest else n :: m :: rest

/-- Marks at one letter in the order of their ranks. -/
def order (codes : List Nat) : List Nat :=
  codes.foldr place []

/-- Puts to a character what follows it. A mark is kept from it by a mark between them of its own
rank or a higher one, and a letter by any mark. -/
def joinFrom (n : Nat) (between : List Nat) : List Nat → List Nat
  | [] => n :: between
  | m :: rest =>
      let kept := between.getLast?.any fun b => rank m ≤ rank b
      match if kept then none else join? n m with
      | some joined => joinFrom joined between rest
      | none =>
          if rank m = 0 then n :: between ++ joinFrom m [] rest
          else joinFrom n (between ++ [m]) rest

def join : List Nat → List Nat
  | [] => []
  | n :: rest => joinFrom n [] rest

/-- All is put together that can be, and marks are in order. -/
def isJoined (codes : List Nat) : Bool :=
  join (order (codes.flatMap parts)) == codes

end RawSeries.Text.Composition
