import RawSeries.Text.Mark

namespace RawSeries.Gateway.Label

/-- Runs of letters that are joined to the letters on both sides. -/
def joinedBoth : List (Nat × Nat) := [
  (1568, 1568), (1574, 1574), (1576, 1576), (1578, 1582), (1587, 1607), (1609, 1610), (1646, 1647),
  (1657, 1671), (1690, 1727), (1729, 1730), (1740, 1740), (1742, 1742), (1744, 1745), (1786, 1788),
  (1791, 1791), (1810, 1812), (1818, 1821), (1823, 1831), (1833, 1833), (1835, 1835), (1837, 1838),
  (1870, 1880), (1884, 1898), (1901, 1904), (1906, 1906), (1909, 1911), (1914, 1919), (1994, 2026),
  (2113, 2117), (2120, 2120), (2122, 2131), (2133, 2133), (2144, 2144), (2146, 2149), (2152, 2152),
  (2182, 2182), (2185, 2189), (2208, 2217), (2223, 2224), (2227, 2232), (2234, 2248), (6176, 6264),
  (6279, 6314), (43072, 43121), (68288, 68292), (68307, 68310), (68312, 68316), (68318, 68320),
  (68480, 68480), (68482, 68482), (68486, 68488), (68490, 68491), (68493, 68493), (68496, 68496),
  (68865, 68897), (68899, 68899), (69424, 69426), (69428, 69444), (69488, 69491), (69494, 69552),
  (69554, 69555), (69560, 69560), (69563, 69564), (69566, 69567), (69569, 69569), (69572, 69572),
  (125218, 125251)]

/-- Runs of letters that are joined to the letter behind them. -/
def joinedBehind : List (Nat × Nat) := [
  (43122, 43122), (68301, 68301), (68311, 68311), (68864, 68864)]

/-- Runs of letters that are joined to the letter before them. -/
def joinedBefore : List (Nat × Nat) := [
  (1570, 1573), (1575, 1575), (1577, 1577), (1583, 1586), (1608, 1608), (1649, 1651), (1672, 1689),
  (1728, 1728), (1731, 1739), (1741, 1741), (1743, 1743), (1746, 1749), (1774, 1775), (1808, 1808),
  (1813, 1817), (1822, 1822), (1832, 1832), (1834, 1834), (1836, 1836), (1839, 1869), (1881, 1883),
  (1899, 1900), (1905, 1905), (1907, 1908), (1912, 1913), (2112, 2112), (2118, 2119), (2121, 2121),
  (2132, 2132), (2134, 2136), (2151, 2151), (2153, 2178), (2190, 2190), (2218, 2220), (2222, 2222),
  (2225, 2226), (2233, 2233), (68293, 68293), (68295, 68298), (68302, 68306), (68317, 68317),
  (68321, 68321), (68324, 68324), (68481, 68481), (68483, 68485), (68489, 68489), (68492, 68492),
  (68494, 68495), (68497, 68497), (68898, 68898), (69427, 69427), (69492, 69493), (69556, 69558),
  (69561, 69562), (69565, 69565), (69570, 69571)]

def greek : List (Nat × Nat) := [
  (881, 993), (1011, 1020), (7462, 7466), (7936, 8182), (43877, 43877)]

def hebrew : List (Nat × Nat) := [(1425, 1479), (1488, 1524), (64286, 64286)]

def japanese : List (Nat × Nat) := [
  (12293, 12293), (12295, 12295), (12353, 12446), (12449, 12538), (12541, 12542), (12784, 12799),
  (13312, 40959), (64014, 64041), (94179, 94179), (94192, 94193), (110576, 110879),
  (110880, 110882), (110928, 110930), (110948, 110951), (131072, 201546)]

def easternDigits : List (Nat × Nat) := [(1632, 1641)]

/-- The digits that are used with Persian letters. -/
def persianDigits : List (Nat × Nat) := [(1776, 1785)]

/-- The rank of the marks that take the vowel from a letter. -/
def silentRank : Nat := 9

/-- A mark that takes the vowel from a letter stands last. -/
def endsSilent (before : List Nat) : Bool :=
  before.getLast?.any fun n => Text.rank n == silentRank

/-- Letters that are joined, with marks at them, stand on both sides. -/
def partsLetters (before after : List Nat) : Bool :=
  let left := (before.reverse.dropWhile Text.isTopped).head?
  let right := (after.dropWhile Text.isTopped).head?
  left.any (fun n => Text.within joinedBoth n || Text.within joinedBehind n) &&
    right.any fun n => Text.within joinedBoth n || Text.within joinedBefore n

/-- A sign may stand between the code points before it and those after it. -/
def fitsBetween (before : List Nat) (sign : Nat) (after : List Nat) : Bool :=
  match sign with
  | 8204 => endsSilent before || partsLetters before after
  | 8205 => endsSilent before
  | 183 => before.getLast? == some 108 && after.head? == some 108
  | 885 => after.head?.any (Text.within greek)
  | 1523 => before.getLast?.any (Text.within hebrew)
  | 1524 => before.getLast?.any (Text.within hebrew)
  | 12539 => (before ++ after).any (Text.within japanese)
  | sign =>
      if Text.within easternDigits sign then !(before ++ after).any (Text.within persianDigits)
      else Text.within persianDigits sign && !(before ++ after).any (Text.within easternDigits)

end RawSeries.Gateway.Label
