import Sandwich.Text.Intervals

/-! Marks, which are written upon another character, and the order they have
when several are written upon one. -/

namespace Sandwich.Text

/-- The combining marks; a character without a meaning counts as its neighbour does. -/
def markPoints : List Nat := [
  768, 880, 1155, 1162, 1425, 1470, 1471, 1472, 1473, 1475, 1476, 1478, 1479, 1488, 1552, 1563,
  1611, 1632, 1648, 1649, 1750, 1757, 1759, 1765, 1767, 1769, 1770, 1774, 1809, 1810, 1840, 1869,
  1958, 1969, 2027, 2036, 2045, 2046, 2070, 2074, 2075, 2084, 2085, 2088, 2089, 2096, 2137, 2142,
  2199, 2208, 2250, 2274, 2275, 2308, 2362, 2365, 2366, 2384, 2385, 2392, 2402, 2404, 2433, 2437,
  2492, 2493, 2494, 2510, 2519, 2524, 2530, 2534, 2558, 2565, 2620, 2649, 2672, 2674, 2677, 2678,
  2689, 2693, 2748, 2749, 2750, 2768, 2786, 2790, 2810, 2821, 2876, 2877, 2878, 2908, 2914, 2918,
  2946, 2947, 3006, 3024, 3031, 3046, 3072, 3077, 3132, 3133, 3134, 3160, 3170, 3174, 3201, 3204,
  3260, 3261, 3262, 3292, 3298, 3302, 3315, 3332, 3387, 3389, 3390, 3406, 3415, 3416, 3426, 3430,
  3457, 3461, 3530, 3558, 3570, 3572, 3633, 3634, 3636, 3647, 3655, 3663, 3761, 3762, 3764, 3773,
  3784, 3792, 3864, 3866, 3893, 3894, 3895, 3896, 3897, 3898, 3902, 3904, 3953, 3973, 3974, 3976,
  3981, 4030, 4038, 4039, 4139, 4159, 4182, 4186, 4190, 4193, 4194, 4197, 4199, 4206, 4209, 4213,
  4226, 4238, 4239, 4240, 4250, 4254, 4957, 4960, 5906, 5919, 5938, 5941, 5970, 5984, 6002, 6016,
  6068, 6100, 6109, 6112, 6155, 6158, 6159, 6160, 6277, 6279, 6313, 6314, 6432, 6464, 6679, 6686,
  6741, 6784, 6832, 6917, 6964, 6981, 7019, 7028, 7040, 7043, 7073, 7086, 7142, 7164, 7204, 7227,
  7376, 7379, 7380, 7401, 7405, 7406, 7412, 7413, 7415, 7418, 7616, 7680, 8400, 8448, 11503,
  11506, 11647, 11648, 11744, 11776, 12330, 12336, 12441, 12443, 42607, 42611, 42612, 42622,
  42654, 42656, 42736, 42738, 43010, 43011, 43014, 43015, 43019, 43020, 43043, 43048, 43052,
  43056, 43136, 43138, 43188, 43214, 43232, 43250, 43263, 43264, 43302, 43310, 43335, 43359,
  43392, 43396, 43443, 43457, 43493, 43494, 43561, 43584, 43587, 43588, 43596, 43600, 43643,
  43646, 43696, 43697, 43698, 43701, 43703, 43705, 43710, 43712, 43713, 43714, 43755, 43760,
  43765, 43777, 44003, 44011, 44012, 44016, 64286, 64287, 65024, 65040, 65056, 65072, 66045,
  66176, 66272, 66273, 66422, 66432, 68097, 68112, 68152, 68160, 68325, 68331, 68900, 68912,
  68969, 68974, 69291, 69293, 69370, 69376, 69446, 69457, 69506, 69510, 69632, 69635, 69688,
  69703, 69744, 69745, 69747, 69749, 69759, 69763, 69808, 69819, 69826, 69837, 69888, 69891,
  69927, 69942, 69957, 69959, 70003, 70004, 70016, 70019, 70067, 70081, 70089, 70093, 70094,
  70096, 70188, 70200, 70206, 70207, 70209, 70272, 70367, 70384, 70400, 70405, 70459, 70461,
  70462, 70480, 70487, 70493, 70498, 70528, 70584, 70609, 70610, 70611, 70625, 70656, 70709,
  70727, 70750, 70751, 70832, 70852, 71087, 71105, 71132, 71168, 71216, 71233, 71339, 71352,
  71453, 71472, 71724, 71739, 71984, 71999, 72000, 72001, 72002, 72004, 72145, 72161, 72164,
  72192, 72193, 72203, 72243, 72250, 72251, 72255, 72263, 72272, 72273, 72284, 72330, 72346,
  72544, 72640, 72751, 72768, 72850, 72960, 73009, 73030, 73031, 73040, 73098, 73112, 73459,
  73463, 73472, 73474, 73475, 73476, 73524, 73539, 73562, 73648, 78912, 78913, 78919, 78944,
  90398, 90416, 92912, 92917, 92976, 92983, 94031, 94032, 94033, 94099, 94180, 94194, 113821,
  113823, 118528, 118608, 119141, 119146, 119149, 119155, 119163, 119171, 119173, 119180, 119210,
  119214, 119362, 119365, 121344, 121399, 121403, 121453, 121461, 121462, 121476, 121477, 121499,
  122624, 122880, 122928, 123023, 123136, 123184, 123191, 123566, 123584, 123628, 123632, 124140,
  124144, 124398, 124400, 124643, 124644, 124646, 124647, 124654, 124656, 124661, 124670, 125136,
  125184, 125252, 125259, 917760, 983040]

/-- The rank of each mark among those of one character, zero for what has none. -/
def rankChanges : List (Nat × Nat) := [
  (768, 230), (789, 232), (790, 220), (794, 232), (795, 216), (796, 220), (801, 202), (803, 220),
  (807, 202), (809, 220), (820, 1), (825, 220), (829, 230), (837, 240), (838, 230), (839, 220),
  (842, 230), (845, 220), (847, 0), (848, 230), (851, 220), (855, 230), (856, 232), (857, 220),
  (859, 230), (860, 233), (861, 234), (863, 233), (864, 234), (866, 233), (867, 230), (880, 0),
  (1155, 230), (1160, 0), (1425, 220), (1426, 230), (1430, 220), (1431, 230), (1434, 222),
  (1435, 220), (1436, 230), (1442, 220), (1448, 230), (1450, 220), (1451, 230), (1453, 222),
  (1454, 228), (1455, 230), (1456, 10), (1457, 11), (1458, 12), (1459, 13), (1460, 14),
  (1461, 15), (1462, 16), (1463, 17), (1464, 18), (1465, 19), (1467, 20), (1468, 21), (1469, 22),
  (1470, 0), (1471, 23), (1472, 0), (1473, 24), (1474, 25), (1475, 0), (1476, 230), (1477, 220),
  (1478, 0), (1479, 18), (1488, 0), (1552, 230), (1560, 30), (1561, 31), (1562, 32), (1563, 0),
  (1611, 27), (1612, 28), (1613, 29), (1614, 30), (1615, 31), (1616, 32), (1617, 33), (1618, 34),
  (1619, 230), (1621, 220), (1623, 230), (1628, 220), (1629, 230), (1631, 220), (1632, 0),
  (1648, 35), (1649, 0), (1750, 230), (1757, 0), (1759, 230), (1763, 220), (1764, 230), (1765, 0),
  (1767, 230), (1769, 0), (1770, 220), (1771, 230), (1773, 220), (1774, 0), (1809, 36), (1810, 0),
  (1840, 230), (1841, 220), (1842, 230), (1844, 220), (1845, 230), (1847, 220), (1850, 230),
  (1851, 220), (1853, 230), (1854, 220), (1855, 230), (1858, 220), (1859, 230), (1860, 220),
  (1861, 230), (1862, 220), (1863, 230), (1864, 220), (1865, 230), (1869, 0), (2027, 230),
  (2034, 220), (2035, 230), (2036, 0), (2045, 220), (2046, 0), (2070, 230), (2074, 0),
  (2075, 230), (2084, 0), (2085, 230), (2088, 0), (2089, 230), (2096, 0), (2137, 220), (2142, 0),
  (2199, 230), (2201, 220), (2204, 230), (2208, 0), (2250, 230), (2255, 220), (2260, 230),
  (2274, 0), (2275, 220), (2276, 230), (2278, 220), (2279, 230), (2281, 220), (2282, 230),
  (2285, 220), (2288, 27), (2289, 28), (2290, 29), (2291, 230), (2294, 220), (2295, 230),
  (2297, 220), (2299, 230), (2304, 0), (2364, 7), (2365, 0), (2381, 9), (2382, 0), (2385, 230),
  (2386, 220), (2387, 230), (2389, 0), (2492, 7), (2493, 0), (2509, 9), (2510, 0), (2558, 230),
  (2561, 0), (2620, 7), (2622, 0), (2637, 9), (2641, 0), (2748, 7), (2749, 0), (2765, 9),
  (2768, 0), (2876, 7), (2877, 0), (2893, 9), (2901, 0), (3021, 9), (3024, 0), (3132, 7),
  (3133, 0), (3149, 9), (3157, 84), (3158, 91), (3160, 0), (3260, 7), (3261, 0), (3277, 9),
  (3285, 0), (3387, 9), (3389, 0), (3405, 9), (3406, 0), (3530, 9), (3535, 0), (3640, 103),
  (3642, 9), (3647, 0), (3656, 107), (3660, 0), (3768, 118), (3770, 9), (3771, 0), (3784, 122),
  (3788, 0), (3864, 220), (3866, 0), (3893, 220), (3894, 0), (3895, 220), (3896, 0), (3897, 216),
  (3898, 0), (3953, 129), (3954, 130), (3955, 0), (3956, 132), (3957, 0), (3962, 130), (3966, 0),
  (3968, 130), (3969, 0), (3970, 230), (3972, 9), (3973, 0), (3974, 230), (3976, 0), (4038, 220),
  (4039, 0), (4151, 7), (4152, 0), (4153, 9), (4155, 0), (4237, 220), (4238, 0), (4957, 230),
  (4960, 0), (5908, 9), (5919, 0), (5940, 9), (5941, 0), (6098, 9), (6099, 0), (6109, 230),
  (6112, 0), (6313, 228), (6314, 0), (6457, 222), (6458, 230), (6459, 220), (6464, 0),
  (6679, 230), (6680, 220), (6681, 0), (6752, 9), (6753, 0), (6773, 230), (6783, 220), (6784, 0),
  (6832, 230), (6837, 220), (6843, 230), (6845, 220), (6846, 0), (6847, 220), (6849, 230),
  (6851, 220), (6853, 230), (6858, 220), (6859, 230), (6877, 220), (6880, 230), (6886, 220),
  (6887, 230), (6891, 234), (6912, 0), (6964, 7), (6965, 0), (6980, 9), (6981, 0), (7019, 230),
  (7020, 220), (7021, 230), (7028, 0), (7082, 9), (7084, 0), (7142, 7), (7143, 0), (7154, 9),
  (7164, 0), (7223, 7), (7227, 0), (7376, 230), (7379, 0), (7380, 1), (7381, 220), (7386, 230),
  (7388, 220), (7392, 230), (7393, 0), (7394, 1), (7401, 0), (7405, 220), (7406, 0), (7412, 230),
  (7413, 0), (7416, 230), (7418, 0), (7616, 230), (7618, 220), (7619, 230), (7626, 220),
  (7627, 230), (7629, 234), (7630, 214), (7631, 220), (7632, 202), (7633, 230), (7670, 232),
  (7671, 228), (7673, 220), (7674, 218), (7675, 230), (7676, 233), (7677, 220), (7678, 230),
  (7679, 220), (7680, 0), (8400, 230), (8402, 1), (8404, 230), (8408, 1), (8411, 230), (8413, 0),
  (8417, 230), (8418, 0), (8421, 1), (8423, 230), (8424, 220), (8425, 230), (8426, 1),
  (8428, 220), (8432, 230), (8448, 0), (11503, 230), (11506, 0), (11647, 9), (11648, 0),
  (11744, 230), (11776, 0), (12330, 218), (12331, 228), (12332, 232), (12333, 222), (12334, 224),
  (12336, 0), (12441, 8), (12443, 0), (42607, 230), (42608, 0), (42612, 230), (42622, 0),
  (42654, 230), (42656, 0), (42736, 230), (42738, 0), (43014, 9), (43015, 0), (43052, 9),
  (43056, 0), (43204, 9), (43205, 0), (43232, 230), (43250, 0), (43307, 220), (43310, 0),
  (43347, 9), (43359, 0), (43443, 7), (43444, 0), (43456, 9), (43457, 0), (43696, 230),
  (43697, 0), (43698, 230), (43700, 220), (43701, 0), (43703, 230), (43705, 0), (43710, 230),
  (43712, 0), (43713, 230), (43714, 0), (43766, 9), (43777, 0), (44013, 9), (44016, 0),
  (64286, 26), (64287, 0), (65056, 230), (65063, 220), (65070, 230), (65072, 0), (66045, 220),
  (66176, 0), (66272, 220), (66273, 0), (66422, 230), (66432, 0), (68109, 220), (68110, 0),
  (68111, 230), (68112, 0), (68152, 230), (68153, 1), (68154, 220), (68159, 9), (68160, 0),
  (68325, 230), (68326, 220), (68331, 0), (68900, 230), (68912, 0), (68969, 230), (68974, 0),
  (69291, 230), (69293, 0), (69370, 220), (69372, 0), (69373, 220), (69376, 0), (69446, 220),
  (69448, 230), (69451, 220), (69452, 230), (69453, 220), (69457, 0), (69506, 230), (69507, 220),
  (69508, 230), (69509, 220), (69510, 0), (69702, 9), (69703, 0), (69744, 9), (69745, 0),
  (69759, 9), (69760, 0), (69817, 9), (69818, 7), (69819, 0), (69888, 230), (69891, 0),
  (69939, 9), (69942, 0), (70003, 7), (70004, 0), (70080, 9), (70081, 0), (70090, 7), (70091, 0),
  (70197, 9), (70198, 7), (70199, 0), (70377, 7), (70378, 9), (70384, 0), (70459, 7), (70461, 0),
  (70477, 9), (70480, 0), (70502, 230), (70528, 0), (70606, 9), (70609, 0), (70722, 9),
  (70723, 0), (70726, 7), (70727, 0), (70750, 230), (70751, 0), (70850, 9), (70851, 7),
  (70852, 0), (71103, 9), (71104, 7), (71105, 0), (71231, 9), (71232, 0), (71350, 9), (71351, 7),
  (71352, 0), (71467, 9), (71472, 0), (71737, 9), (71738, 7), (71739, 0), (71997, 9), (71999, 0),
  (72003, 7), (72004, 0), (72160, 9), (72161, 0), (72244, 9), (72245, 0), (72263, 9), (72272, 0),
  (72345, 9), (72346, 0), (72767, 9), (72768, 0), (73026, 7), (73027, 0), (73028, 9), (73030, 0),
  (73111, 9), (73112, 0), (73537, 9), (73539, 0), (90415, 9), (90416, 0), (92912, 1), (92917, 0),
  (92976, 230), (92983, 0), (94192, 6), (94194, 0), (113822, 1), (113823, 0), (119141, 216),
  (119143, 1), (119146, 0), (119149, 226), (119150, 216), (119155, 0), (119163, 220), (119171, 0),
  (119173, 230), (119178, 220), (119180, 0), (119210, 230), (119214, 0), (119362, 230),
  (119365, 0), (122880, 230), (122928, 0), (123023, 230), (123136, 0), (123184, 230), (123191, 0),
  (123566, 230), (123584, 0), (123628, 230), (123632, 0), (124140, 232), (124142, 220),
  (124143, 230), (124144, 0), (124398, 230), (124399, 220), (124400, 0), (124643, 230),
  (124644, 0), (124646, 230), (124647, 0), (124654, 230), (124656, 0), (124661, 230), (124670, 0),
  (125136, 220), (125184, 0), (125252, 230), (125258, 7), (125259, 0)]

/-- Whether the character is a combining mark. -/
def isMark (c : Char) : Bool := within markPoints c.toNat

/-- The rank of a mark. Marks of unequal ranks may change places. -/
def rank (c : Char) : Nat := valueAt 0 rankChanges c.toNat

/-- The rank of the marks that silence the vowel of a letter. -/
def silencerRank : Nat := 9

end Sandwich.Text
