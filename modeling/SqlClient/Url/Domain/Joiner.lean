import SqlClient.Text.Mark
import SqlClient.Url.Domain.Mapping

namespace SqlClient.Domain

open Repertoire

def joining : Boundaries := [
  1568, 1569, 1574, 1575, 1576, 1577, 1578, 1583, 1587, 1600, 1601, 1608, 1609, 1611, 1646, 1648,
  1657, 1672, 1690, 1728, 1729, 1731, 1740, 1741, 1742, 1743, 1744, 1746, 1786, 1789, 1791, 1792,
  1810, 1813, 1818, 1822, 1823, 1832, 1833, 1834, 1835, 1836, 1837, 1839, 1870, 1881, 1884, 1899,
  1901, 1905, 1906, 1907, 1909, 1912, 1914, 1920, 1994, 2027, 2113, 2118, 2120, 2121, 2122, 2132,
  2133, 2134, 2144, 2145, 2146, 2150, 2152, 2153, 2182, 2183, 2185, 2190, 2191, 2192, 2208, 2218,
  2223, 2225, 2227, 2233, 2234, 2249, 6151, 6152, 6176, 6265, 6279, 6313, 6314, 6315, 43072, 43122,
  68288, 68293, 68307, 68311, 68312, 68317, 68318, 68321, 68331, 68335, 68480, 68481, 68482, 68483,
  68486, 68489, 68490, 68492, 68493, 68494, 68496, 68497, 68525, 68527, 68865, 68898, 68899, 68900,
  69315, 69317, 69318, 69320, 69424, 69427, 69428, 69445, 69457, 69460, 69488, 69492, 69494, 69506,
  69552, 69553, 69554, 69556, 69560, 69561, 69563, 69565, 69566, 69568, 69569, 69570, 69572, 69573,
  69578, 69579, 125218, 125252]

def joiningNext : Boundaries := [
  43122, 43123, 68301, 68302, 68311, 68312, 68864, 68865, 69579, 69580]

def joiningPrevious : Boundaries := [
  1570, 1574, 1575, 1576, 1577, 1578, 1583, 1587, 1608, 1609, 1649, 1652, 1672, 1690, 1728, 1729,
  1731, 1740, 1741, 1742, 1743, 1744, 1746, 1748, 1749, 1750, 1774, 1776, 1808, 1809, 1813, 1818,
  1822, 1823, 1832, 1833, 1834, 1835, 1836, 1837, 1839, 1840, 1869, 1870, 1881, 1884, 1899, 1901,
  1905, 1906, 1907, 1909, 1912, 1914, 2112, 2113, 2118, 2120, 2121, 2122, 2132, 2133, 2134, 2137,
  2151, 2152, 2153, 2179, 2190, 2191, 2218, 2221, 2222, 2223, 2225, 2227, 2233, 2234, 68293, 68294,
  68295, 68296, 68297, 68299, 68302, 68307, 68317, 68318, 68321, 68322, 68324, 68325, 68335, 68336,
  68481, 68482, 68483, 68486, 68489, 68490, 68492, 68493, 68494, 68496, 68497, 68498, 68521, 68525,
  68898, 68899, 69314, 69315, 69427, 69428, 69460, 69461, 69492, 69494, 69556, 69559, 69561, 69563,
  69565, 69566, 69570, 69572, 69577, 69578]

def isTransparent (c : Char) : Bool :=
  Mark.nonspacing.contains c.toNat || c.toNat = 0x1E94B

/-- The class of the marks that take the vowel from a letter. -/
def vowelKiller : Nat := 9

def joins (onlyThatSide : Boundaries) (text : List Char) : Bool :=
  match text.find? (!isTransparent ·) with
  | some c => joining.contains c.toNat || onlyThatSide.contains c.toNat
  | none => false

/-- Whether a joiner may stand between two texts, of which the first is in reverse. -/
def isJoinerAllowed (joiner : Char) (before after : List Char) : Bool :=
  match before with
  | [] => false
  | c :: _ =>
    Mark.order c.toNat = vowelKiller ||
      (joiner = '\u200C' && joins joiningNext before && joins joiningPrevious after)

def areJoinersAllowed (before : List Char) : List Char → Bool
  | [] => true
  | c :: text =>
    (!isJoiner c || isJoinerAllowed c before text) && areJoinersAllowed (c :: before) text

end SqlClient.Domain
