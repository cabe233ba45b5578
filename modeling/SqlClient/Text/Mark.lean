import SqlClient.Text.Repertoire

namespace SqlClient.Mark

open Repertoire

def nonspacing : Boundaries := [
  768, 880, 1155, 1162, 1425, 1470, 1471, 1472, 1473, 1475, 1476, 1478, 1479, 1480, 1552, 1563,
  1611, 1632, 1648, 1649, 1750, 1757, 1759, 1765, 1767, 1769, 1770, 1774, 1809, 1810, 1840, 1867,
  1958, 1969, 2027, 2036, 2045, 2046, 2070, 2074, 2075, 2084, 2085, 2088, 2089, 2094, 2137, 2140,
  2199, 2208, 2250, 2274, 2275, 2307, 2362, 2363, 2364, 2365, 2369, 2377, 2381, 2382, 2385, 2392,
  2402, 2404, 2433, 2434, 2492, 2493, 2497, 2501, 2509, 2510, 2530, 2532, 2558, 2559, 2561, 2563,
  2620, 2621, 2625, 2627, 2631, 2633, 2635, 2638, 2641, 2642, 2672, 2674, 2677, 2678, 2689, 2691,
  2748, 2749, 2753, 2758, 2759, 2761, 2765, 2766, 2786, 2788, 2810, 2816, 2817, 2818, 2876, 2877,
  2879, 2880, 2881, 2885, 2893, 2894, 2901, 2903, 2914, 2916, 2946, 2947, 3008, 3009, 3021, 3022,
  3072, 3073, 3076, 3077, 3132, 3133, 3134, 3137, 3142, 3145, 3146, 3150, 3157, 3159, 3170, 3172,
  3201, 3202, 3260, 3261, 3263, 3264, 3270, 3271, 3276, 3278, 3298, 3300, 3328, 3330, 3387, 3389,
  3393, 3397, 3405, 3406, 3426, 3428, 3457, 3458, 3530, 3531, 3538, 3541, 3542, 3543, 3633, 3634,
  3636, 3643, 3655, 3663, 3761, 3762, 3764, 3773, 3784, 3791, 3864, 3866, 3893, 3894, 3895, 3896,
  3897, 3898, 3953, 3967, 3968, 3973, 3974, 3976, 3981, 3992, 3993, 4029, 4038, 4039, 4141, 4145,
  4146, 4152, 4153, 4155, 4157, 4159, 4184, 4186, 4190, 4193, 4209, 4213, 4226, 4227, 4229, 4231,
  4237, 4238, 4253, 4254, 4957, 4960, 5906, 5909, 5938, 5940, 5970, 5972, 6002, 6004, 6068, 6070,
  6071, 6078, 6086, 6087, 6089, 6100, 6109, 6110, 6155, 6158, 6159, 6160, 6277, 6279, 6313, 6314,
  6432, 6435, 6439, 6441, 6450, 6451, 6457, 6460, 6679, 6681, 6683, 6684, 6742, 6743, 6744, 6751,
  6752, 6753, 6754, 6755, 6757, 6765, 6771, 6781, 6783, 6784, 6832, 6878, 6880, 6892, 6912, 6916,
  6964, 6965, 6966, 6971, 6972, 6973, 6978, 6979, 7019, 7028, 7040, 7042, 7074, 7078, 7080, 7082,
  7083, 7086, 7142, 7143, 7144, 7146, 7149, 7150, 7151, 7154, 7212, 7220, 7222, 7224, 7376, 7379,
  7380, 7393, 7394, 7401, 7405, 7406, 7412, 7413, 7416, 7418, 7616, 7680, 8400, 8433, 11503, 11506,
  11647, 11648, 11744, 11776, 12330, 12334, 12441, 12443, 42607, 42611, 42612, 42622, 42654, 42656,
  42736, 42738, 43010, 43011, 43014, 43015, 43019, 43020, 43045, 43047, 43052, 43053, 43204, 43206,
  43232, 43250, 43263, 43264, 43302, 43310, 43335, 43346, 43392, 43395, 43443, 43444, 43446, 43450,
  43452, 43454, 43493, 43494, 43561, 43567, 43569, 43571, 43573, 43575, 43587, 43588, 43596, 43597,
  43644, 43645, 43696, 43697, 43698, 43701, 43703, 43705, 43710, 43712, 43713, 43714, 43756, 43758,
  43766, 43767, 44005, 44006, 44008, 44009, 44013, 44014, 64286, 64287, 65024, 65040, 65056, 65072,
  66045, 66046, 66272, 66273, 66422, 66427, 68097, 68100, 68101, 68103, 68108, 68112, 68152, 68155,
  68159, 68160, 68325, 68327, 68900, 68904, 68969, 68974, 69291, 69293, 69370, 69376, 69446, 69457,
  69506, 69510, 69633, 69634, 69688, 69703, 69744, 69745, 69747, 69749, 69759, 69762, 69811, 69815,
  69817, 69819, 69826, 69827, 69888, 69891, 69927, 69932, 69933, 69941, 70003, 70004, 70016, 70018,
  70070, 70079, 70089, 70093, 70095, 70096, 70191, 70194, 70196, 70197, 70198, 70200, 70206, 70207,
  70209, 70210, 70367, 70368, 70371, 70379, 70400, 70402, 70459, 70461, 70464, 70465, 70502, 70509,
  70512, 70517, 70587, 70593, 70606, 70607, 70608, 70609, 70610, 70611, 70625, 70627, 70712, 70720,
  70722, 70725, 70726, 70727, 70750, 70751, 70835, 70841, 70842, 70843, 70847, 70849, 70850, 70852,
  71090, 71094, 71100, 71102, 71103, 71105, 71132, 71134, 71219, 71227, 71229, 71230, 71231, 71233,
  71339, 71340, 71341, 71342, 71344, 71350, 71351, 71352, 71453, 71454, 71455, 71456, 71458, 71462,
  71463, 71468, 71727, 71736, 71737, 71739, 71995, 71997, 71998, 71999, 72003, 72004, 72148, 72152,
  72154, 72156, 72160, 72161, 72193, 72203, 72243, 72249, 72251, 72255, 72263, 72264, 72273, 72279,
  72281, 72284, 72330, 72343, 72344, 72346, 72544, 72545, 72546, 72549, 72550, 72551, 72752, 72759,
  72760, 72766, 72767, 72768, 72850, 72872, 72874, 72881, 72882, 72884, 72885, 72887, 73009, 73015,
  73018, 73019, 73020, 73022, 73023, 73030, 73031, 73032, 73104, 73106, 73109, 73110, 73111, 73112,
  73459, 73461, 73472, 73474, 73526, 73531, 73536, 73537, 73538, 73539, 73562, 73563, 78912, 78913,
  78919, 78934, 90398, 90410, 90413, 90416, 92912, 92917, 92976, 92983, 94031, 94032, 94095, 94099,
  94180, 94181, 113821, 113823, 118528, 118574, 118576, 118599, 119143, 119146, 119163, 119171,
  119173, 119180, 119210, 119214, 119362, 119365, 121344, 121399, 121403, 121453, 121461, 121462,
  121476, 121477, 121499, 121504, 121505, 121520, 122880, 122887, 122888, 122905, 122907, 122914,
  122915, 122917, 122918, 122923, 123023, 123024, 123184, 123191, 123566, 123567, 123628, 123632,
  124140, 124144, 124398, 124400, 124643, 124644, 124646, 124647, 124654, 124656, 124661, 124662,
  125136, 125143, 125252, 125259, 917760, 918000]

def spacing : Boundaries := [
  2307, 2308, 2363, 2364, 2366, 2369, 2377, 2381, 2382, 2384, 2434, 2436, 2494, 2497, 2503, 2505,
  2507, 2509, 2519, 2520, 2563, 2564, 2622, 2625, 2691, 2692, 2750, 2753, 2761, 2762, 2763, 2765,
  2818, 2820, 2878, 2879, 2880, 2881, 2887, 2889, 2891, 2893, 2903, 2904, 3006, 3008, 3009, 3011,
  3014, 3017, 3018, 3021, 3031, 3032, 3073, 3076, 3137, 3141, 3202, 3204, 3262, 3263, 3264, 3269,
  3271, 3273, 3274, 3276, 3285, 3287, 3315, 3316, 3330, 3332, 3390, 3393, 3398, 3401, 3402, 3405,
  3415, 3416, 3458, 3460, 3535, 3538, 3544, 3552, 3570, 3572, 3902, 3904, 3967, 3968, 4139, 4141,
  4145, 4146, 4152, 4153, 4155, 4157, 4182, 4184, 4194, 4197, 4199, 4206, 4227, 4229, 4231, 4237,
  4239, 4240, 4250, 4253, 5909, 5910, 5940, 5941, 6070, 6071, 6078, 6086, 6087, 6089, 6435, 6439,
  6441, 6444, 6448, 6450, 6451, 6457, 6681, 6683, 6741, 6742, 6743, 6744, 6753, 6754, 6755, 6757,
  6765, 6771, 6916, 6917, 6965, 6966, 6971, 6972, 6973, 6978, 6979, 6981, 7042, 7043, 7073, 7074,
  7078, 7080, 7082, 7083, 7143, 7144, 7146, 7149, 7150, 7151, 7154, 7156, 7204, 7212, 7220, 7222,
  7393, 7394, 7415, 7416, 12334, 12336, 43043, 43045, 43047, 43048, 43136, 43138, 43188, 43204,
  43346, 43348, 43395, 43396, 43444, 43446, 43450, 43452, 43454, 43457, 43567, 43569, 43571, 43573,
  43597, 43598, 43643, 43644, 43645, 43646, 43755, 43756, 43758, 43760, 43765, 43766, 44003, 44005,
  44006, 44008, 44009, 44011, 44012, 44013, 69632, 69633, 69634, 69635, 69762, 69763, 69808, 69811,
  69815, 69817, 69932, 69933, 69957, 69959, 70018, 70019, 70067, 70070, 70079, 70081, 70094, 70095,
  70188, 70191, 70194, 70196, 70197, 70198, 70368, 70371, 70402, 70404, 70462, 70464, 70465, 70469,
  70471, 70473, 70475, 70478, 70487, 70488, 70498, 70500, 70584, 70587, 70594, 70595, 70597, 70598,
  70599, 70603, 70604, 70606, 70607, 70608, 70709, 70712, 70720, 70722, 70725, 70726, 70832, 70835,
  70841, 70842, 70843, 70847, 70849, 70850, 71087, 71090, 71096, 71100, 71102, 71103, 71216, 71219,
  71227, 71229, 71230, 71231, 71340, 71341, 71342, 71344, 71350, 71351, 71454, 71455, 71456, 71458,
  71462, 71463, 71724, 71727, 71736, 71737, 71984, 71990, 71991, 71993, 71997, 71998, 72000, 72001,
  72002, 72003, 72145, 72148, 72156, 72160, 72164, 72165, 72249, 72250, 72279, 72281, 72343, 72344,
  72545, 72546, 72549, 72550, 72551, 72552, 72751, 72752, 72766, 72767, 72873, 72874, 72881, 72882,
  72884, 72885, 73098, 73103, 73107, 73109, 73110, 73111, 73461, 73463, 73475, 73476, 73524, 73526,
  73534, 73536, 73537, 73538, 90410, 90413, 94033, 94088, 94192, 94194, 119141, 119143, 119149,
  119155]

/-- Spacing marks that cannot stand without the character before them, and the fillers of Hangul,
which have no form. -/
def dependent : Boundaries := [
  2494, 2495, 2519, 2520, 2878, 2879, 2903, 2904, 3006, 3007, 3031, 3032, 3264, 3265, 3266, 3267,
  3271, 3273, 3274, 3276, 3285, 3287, 3390, 3391, 3415, 3416, 3535, 3536, 3551, 3552, 4447, 4449,
  5909, 5910, 5940, 5941, 6965, 6966, 6971, 6972, 6973, 6974, 6979, 6981, 7082, 7083, 7154, 7156,
  12334, 12336, 12644, 12645, 43347, 43348, 43456, 43457, 65440, 65441, 70080, 70081, 70197, 70198,
  70462, 70463, 70477, 70478, 70487, 70488, 70584, 70585, 70594, 70595, 70597, 70598, 70599, 70602,
  70607, 70608, 70832, 70833, 70845, 70846, 71087, 71088, 71350, 71351, 71984, 71985, 71997, 71998,
  73537, 73538, 94192, 94194, 119141, 119143, 119149, 119155]

def isExtending (c : Char) : Bool :=
  nonspacing.contains c.toNat || dependent.contains c.toNat

def classes : List (Nat × Boundaries) := [
  (1, [
    820, 825, 7380, 7381, 7394, 7401, 8402, 8404, 8408, 8411, 8421, 8423, 8426, 8428, 68153, 68154,
    92912, 92917, 113822, 113823, 119143, 119146]),
  (6, [
    94192, 94194]),
  (7, [
    2364, 2365, 2492, 2493, 2620, 2621, 2748, 2749, 2876, 2877, 3132, 3133, 3260, 3261, 4151, 4152,
    6964, 6965, 7142, 7143, 7223, 7224, 43443, 43444, 69818, 69819, 70003, 70004, 70090, 70091,
    70198, 70199, 70377, 70378, 70459, 70461, 70726, 70727, 70851, 70852, 71104, 71105, 71351,
    71352, 71738, 71739, 72003, 72004, 73026, 73027, 125258, 125259]),
  (8, [
    12441, 12443]),
  (9, [
    2381, 2382, 2509, 2510, 2637, 2638, 2765, 2766, 2893, 2894, 3021, 3022, 3149, 3150, 3277, 3278,
    3387, 3389, 3405, 3406, 3530, 3531, 3642, 3643, 3770, 3771, 3972, 3973, 4153, 4155, 5908, 5910,
    5940, 5941, 6098, 6099, 6752, 6753, 6980, 6981, 7082, 7084, 7154, 7156, 11647, 11648, 43014,
    43015, 43052, 43053, 43204, 43205, 43347, 43348, 43456, 43457, 43766, 43767, 44013, 44014,
    68159, 68160, 69702, 69703, 69744, 69745, 69759, 69760, 69817, 69818, 69939, 69941, 70080,
    70081, 70197, 70198, 70378, 70379, 70477, 70478, 70606, 70609, 70722, 70723, 70850, 70851,
    71103, 71104, 71231, 71232, 71350, 71351, 71467, 71468, 71737, 71738, 71997, 71999, 72160,
    72161, 72244, 72245, 72263, 72264, 72345, 72346, 72767, 72768, 73028, 73030, 73111, 73112,
    73537, 73539, 90415, 90416]),
  (10, [
    1456, 1457]),
  (11, [
    1457, 1458]),
  (12, [
    1458, 1459]),
  (13, [
    1459, 1460]),
  (14, [
    1460, 1461]),
  (15, [
    1461, 1462]),
  (16, [
    1462, 1463]),
  (17, [
    1463, 1464]),
  (18, [
    1464, 1465, 1479, 1480]),
  (19, [
    1465, 1467]),
  (20, [
    1467, 1468]),
  (21, [
    1468, 1469]),
  (22, [
    1469, 1470]),
  (23, [
    1471, 1472]),
  (24, [
    1473, 1474]),
  (25, [
    1474, 1475]),
  (26, [
    64286, 64287]),
  (27, [
    1611, 1612, 2288, 2289]),
  (28, [
    1612, 1613, 2289, 2290]),
  (29, [
    1613, 1614, 2290, 2291]),
  (30, [
    1560, 1561, 1614, 1615]),
  (31, [
    1561, 1562, 1615, 1616]),
  (32, [
    1562, 1563, 1616, 1617]),
  (33, [
    1617, 1618]),
  (34, [
    1618, 1619]),
  (35, [
    1648, 1649]),
  (36, [
    1809, 1810]),
  (84, [
    3157, 3158]),
  (91, [
    3158, 3159]),
  (103, [
    3640, 3642]),
  (107, [
    3656, 3660]),
  (118, [
    3768, 3770]),
  (122, [
    3784, 3788]),
  (129, [
    3953, 3954]),
  (130, [
    3954, 3955, 3962, 3966, 3968, 3969]),
  (132, [
    3956, 3957]),
  (202, [
    801, 803, 807, 809, 7632, 7633]),
  (214, [
    7630, 7631]),
  (216, [
    795, 796, 3897, 3898, 119141, 119143, 119150, 119155]),
  (218, [
    7674, 7675, 12330, 12331]),
  (220, [
    790, 794, 796, 801, 803, 807, 809, 820, 825, 829, 839, 842, 845, 847, 851, 855, 857, 859, 1425,
    1426, 1430, 1431, 1435, 1436, 1442, 1448, 1450, 1451, 1477, 1478, 1621, 1623, 1628, 1629, 1631,
    1632, 1763, 1764, 1770, 1771, 1773, 1774, 1841, 1842, 1844, 1845, 1847, 1850, 1851, 1853, 1854,
    1855, 1858, 1859, 1860, 1861, 1862, 1863, 1864, 1865, 2034, 2035, 2045, 2046, 2137, 2140, 2201,
    2204, 2255, 2260, 2275, 2276, 2278, 2279, 2281, 2282, 2285, 2288, 2294, 2295, 2297, 2299, 2386,
    2387, 3864, 3866, 3893, 3894, 3895, 3896, 4038, 4039, 4237, 4238, 6459, 6460, 6680, 6681, 6783,
    6784, 6837, 6843, 6845, 6846, 6847, 6849, 6851, 6853, 6858, 6859, 6877, 6878, 6886, 6887, 7020,
    7021, 7381, 7386, 7388, 7392, 7405, 7406, 7618, 7619, 7626, 7627, 7631, 7632, 7673, 7674, 7677,
    7678, 7679, 7680, 8424, 8425, 8428, 8432, 43307, 43310, 43700, 43701, 65063, 65070, 66045,
    66046, 66272, 66273, 68109, 68110, 68154, 68155, 68326, 68327, 69370, 69372, 69373, 69376,
    69446, 69448, 69451, 69452, 69453, 69457, 69507, 69508, 69509, 69510, 119163, 119171, 119178,
    119180, 124142, 124143, 124399, 124400, 125136, 125143]),
  (222, [
    1434, 1435, 1453, 1454, 6457, 6458, 12333, 12334]),
  (224, [
    12334, 12336]),
  (226, [
    119149, 119150]),
  (228, [
    1454, 1455, 6313, 6314, 7671, 7673, 12331, 12332]),
  (230, [
    768, 789, 829, 837, 838, 839, 842, 845, 848, 851, 855, 856, 859, 860, 867, 880, 1155, 1160,
    1426, 1430, 1431, 1434, 1436, 1442, 1448, 1450, 1451, 1453, 1455, 1456, 1476, 1477, 1552, 1560,
    1619, 1621, 1623, 1628, 1629, 1631, 1750, 1757, 1759, 1763, 1764, 1765, 1767, 1769, 1771, 1773,
    1840, 1841, 1842, 1844, 1845, 1847, 1850, 1851, 1853, 1854, 1855, 1858, 1859, 1860, 1861, 1862,
    1863, 1864, 1865, 1867, 2027, 2034, 2035, 2036, 2070, 2074, 2075, 2084, 2085, 2088, 2089, 2094,
    2199, 2201, 2204, 2208, 2250, 2255, 2260, 2274, 2276, 2278, 2279, 2281, 2282, 2285, 2291, 2294,
    2295, 2297, 2299, 2304, 2385, 2386, 2387, 2389, 2558, 2559, 3970, 3972, 3974, 3976, 4957, 4960,
    6109, 6110, 6458, 6459, 6679, 6680, 6773, 6781, 6832, 6837, 6843, 6845, 6849, 6851, 6853, 6858,
    6859, 6877, 6880, 6886, 6887, 6891, 7019, 7020, 7021, 7028, 7376, 7379, 7386, 7388, 7392, 7393,
    7412, 7413, 7416, 7418, 7616, 7618, 7619, 7626, 7627, 7629, 7633, 7670, 7675, 7676, 7678, 7679,
    8400, 8402, 8404, 8408, 8411, 8413, 8417, 8418, 8423, 8424, 8425, 8426, 8432, 8433, 11503,
    11506, 11744, 11776, 42607, 42608, 42612, 42622, 42654, 42656, 42736, 42738, 43232, 43250,
    43696, 43697, 43698, 43700, 43703, 43705, 43710, 43712, 43713, 43714, 65056, 65063, 65070,
    65072, 66422, 66427, 68111, 68112, 68152, 68153, 68325, 68326, 68900, 68904, 68969, 68974,
    69291, 69293, 69448, 69451, 69452, 69453, 69506, 69507, 69508, 69509, 69888, 69891, 70502,
    70509, 70512, 70517, 70750, 70751, 92976, 92983, 119173, 119178, 119210, 119214, 119362, 119365,
    122880, 122887, 122888, 122905, 122907, 122914, 122915, 122917, 122918, 122923, 123023, 123024,
    123184, 123191, 123566, 123567, 123628, 123632, 124143, 124144, 124398, 124399, 124643, 124644,
    124646, 124647, 124654, 124656, 124661, 124662, 125252, 125258]),
  (232, [
    789, 790, 794, 795, 856, 857, 7670, 7671, 12332, 12333, 124140, 124142]),
  (233, [
    860, 861, 863, 864, 866, 867, 7676, 7677]),
  (234, [
    861, 863, 864, 866, 6891, 6892, 7629, 7630]),
  (240, [
    837, 838])]

/-- The class of a character, zero for all that are no marks and for marks that keep their place. -/
def order (n : Nat) : Nat :=
  ((classes.find? (·.2.contains n)).map Prod.fst).getD 0

end SqlClient.Mark
