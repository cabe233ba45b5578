import SqlClient.Text.Mark

namespace SqlClient.Domain

open Repertoire

inductive Direction
  | left
  | right
  | europeanDigit
  | arabicDigit
  | mark
  | neutral
  deriving DecidableEq, Repr

namespace Direction

def rightward : Boundaries := [
  1470, 1471, 1472, 1473, 1475, 1476, 1478, 1479, 1488, 1525, 1544, 1545, 1547, 1548, 1549, 1550,
  1563, 1611, 1645, 1648, 1649, 1750, 1765, 1767, 1774, 1776, 1786, 1809, 1810, 1840, 1869, 1958,
  1969, 2027, 2036, 2038, 2042, 2043, 2046, 2070, 2074, 2075, 2084, 2085, 2088, 2089, 2096, 2137,
  2142, 2192, 2208, 2250, 64434, 64451, 65139, 65140, 67584, 67868, 67872, 68097, 68112, 68150,
  68160, 68325, 68331, 68406, 68416, 68900, 68938, 68944, 68975, 69008, 69248, 69290, 69293, 69320,
  69376, 69446, 69457, 69506, 69510, 69623, 124928, 125136, 125218, 125252, 125259, 126270]

def arabicDigits : Boundaries := [
  1632, 1642, 1643, 1645, 68912, 68938, 69216, 69247]

def europeanDigits : Boundaries := [
  48, 58, 1776, 1786, 66273, 66300]

def neutrals : Boundaries := [
  0, 48, 58, 97, 123, 216, 247, 248, 697, 699, 706, 720, 722, 750, 751, 768, 885, 886, 1014, 1015,
  1418, 1424, 1542, 1544, 1545, 1547, 1548, 1549, 1550, 1552, 1642, 1643, 1758, 1759, 1769, 1770,
  2038, 2042, 2546, 2548, 2555, 2556, 2801, 2802, 3059, 3067, 3192, 3199, 3647, 3648, 3898, 3902,
  5008, 5018, 5120, 5121, 5787, 5789, 6107, 6108, 6128, 6155, 6464, 6470, 6622, 6656, 8204, 8386,
  8452, 8526, 8586, 9014, 9083, 9109, 9110, 9900, 9901, 10240, 10496, 11264, 11493, 11499, 11513,
  11520, 11776, 12293, 12296, 12321, 12336, 12337, 12343, 12344, 12349, 12352, 12448, 12449, 12539,
  12540, 12736, 12774, 19904, 19968, 42128, 42183, 42509, 42512, 42611, 42612, 42622, 42624, 42752,
  42786, 42888, 42889, 43048, 43052, 43064, 43066, 43124, 43128, 43882, 43884, 64451, 65024, 65093,
  65095, 65793, 65794, 65856, 65933, 65936, 65953, 67871, 67872, 68409, 68416, 68974, 68975, 69328,
  69337, 69714, 69734, 71264, 71277, 73685, 73714, 94178, 94179, 117760, 118513, 119273, 119362,
  119365, 119366, 119552, 119639, 123647, 123648, 126704, 127280, 127341, 127344, 127405, 127406,
  127584, 130043]

def letterMarks : Boundaries := [3263, 3264, 3270, 3271, 72199, 72201, 72767, 72768]

def ofChar (c : Char) : Direction :=
  let n := c.toNat
  if Mark.nonspacing.contains n && !letterMarks.contains n then mark
  else if rightward.contains n then right
  else if arabicDigits.contains n then arabicDigit
  else if europeanDigits.contains n then europeanDigit
  else if neutrals.contains n then neutral
  else left

/-- Whether a label reads the same on its own and within a name. Marks at its end go with the
character before them. -/
def isSound (label : List Direction) : Bool :=
  let last := label.reverse.find? (· ≠ mark)
  match label with
  | [] => true
  | left :: rest =>
    rest.all (fun d ↦ d ≠ right && d ≠ arabicDigit) &&
      (last = some left || last = some europeanDigit)
  | right :: rest =>
    rest.all (· ≠ left) && (last ≠ some neutral) &&
      !(rest.contains europeanDigit && rest.contains arabicDigit)
  | _ => false

/-- Names without a letter or a digit from right to left need no check. -/
def areSound (labels : List (List Char)) : Bool :=
  let labels := labels.map (·.map ofChar)
  labels.all isSound || !labels.any fun label ↦ label.contains right || label.contains arabicDigit

end Direction

end SqlClient.Domain
