import Sandwich.Text.Intervals

/-! Which characters join their neighbours in cursive scripts. -/

namespace Sandwich.Text

/-- The neighbours that a character joins. -/
inductive Joining
  | none
  | previous
  | next
  | both
  | transparent
deriving DecidableEq

/-- The points where the kind of joining changes, characters without a meaning left out. -/
def joiningChanges : List (Nat × Joining) := [
  (173, .transparent), (174, .none), (768, .transparent), (880, .none), (1155, .transparent),
  (1162, .none), (1425, .transparent), (1470, .none), (1471, .transparent), (1472, .none),
  (1473, .transparent), (1475, .none), (1476, .transparent), (1478, .none), (1479, .transparent),
  (1488, .none), (1552, .transparent), (1563, .none), (1564, .transparent), (1565, .none),
  (1568, .both), (1569, .none), (1570, .previous), (1574, .both), (1575, .previous),
  (1576, .both), (1577, .previous), (1578, .both), (1583, .previous), (1587, .both),
  (1600, .none), (1601, .both), (1608, .previous), (1609, .both), (1611, .transparent),
  (1632, .none), (1646, .both), (1648, .transparent), (1649, .previous), (1652, .none),
  (1653, .previous), (1656, .both), (1672, .previous), (1690, .both), (1728, .previous),
  (1729, .both), (1731, .previous), (1740, .both), (1741, .previous), (1742, .both),
  (1743, .previous), (1744, .both), (1746, .previous), (1748, .none), (1749, .previous),
  (1750, .transparent), (1757, .none), (1759, .transparent), (1765, .none), (1767, .transparent),
  (1769, .none), (1770, .transparent), (1774, .previous), (1776, .none), (1786, .both),
  (1789, .none), (1791, .both), (1792, .none), (1807, .transparent), (1808, .previous),
  (1809, .transparent), (1810, .both), (1813, .previous), (1818, .both), (1822, .previous),
  (1823, .both), (1832, .previous), (1833, .both), (1834, .previous), (1835, .both),
  (1836, .previous), (1837, .both), (1839, .previous), (1840, .transparent), (1869, .previous),
  (1870, .both), (1881, .previous), (1884, .both), (1899, .previous), (1901, .both),
  (1905, .previous), (1906, .both), (1907, .previous), (1909, .both), (1912, .previous),
  (1914, .both), (1920, .none), (1958, .transparent), (1969, .none), (1994, .both),
  (2027, .transparent), (2036, .none), (2045, .transparent), (2046, .none), (2070, .transparent),
  (2074, .none), (2075, .transparent), (2084, .none), (2085, .transparent), (2088, .none),
  (2089, .transparent), (2096, .none), (2112, .previous), (2113, .both), (2118, .previous),
  (2120, .both), (2121, .previous), (2122, .both), (2132, .previous), (2133, .both),
  (2134, .previous), (2137, .transparent), (2142, .none), (2144, .both), (2145, .none),
  (2146, .both), (2150, .none), (2151, .previous), (2152, .both), (2153, .previous),
  (2179, .none), (2182, .both), (2183, .none), (2185, .both), (2190, .previous), (2191, .both),
  (2192, .none), (2199, .transparent), (2208, .both), (2218, .previous), (2221, .none),
  (2222, .previous), (2223, .both), (2225, .previous), (2227, .both), (2233, .previous),
  (2234, .both), (2249, .none), (2250, .transparent), (2274, .none), (2275, .transparent),
  (2307, .none), (2362, .transparent), (2363, .none), (2364, .transparent), (2365, .none),
  (2369, .transparent), (2377, .none), (2381, .transparent), (2382, .none), (2385, .transparent),
  (2392, .none), (2402, .transparent), (2404, .none), (2433, .transparent), (2434, .none),
  (2492, .transparent), (2493, .none), (2497, .transparent), (2503, .none), (2509, .transparent),
  (2510, .none), (2530, .transparent), (2534, .none), (2558, .transparent), (2563, .none),
  (2620, .transparent), (2622, .none), (2625, .transparent), (2649, .none), (2672, .transparent),
  (2674, .none), (2677, .transparent), (2678, .none), (2689, .transparent), (2691, .none),
  (2748, .transparent), (2749, .none), (2753, .transparent), (2761, .none), (2765, .transparent),
  (2768, .none), (2786, .transparent), (2790, .none), (2810, .transparent), (2818, .none),
  (2876, .transparent), (2877, .none), (2879, .transparent), (2880, .none), (2881, .transparent),
  (2887, .none), (2893, .transparent), (2903, .none), (2914, .transparent), (2918, .none),
  (2946, .transparent), (2947, .none), (3008, .transparent), (3009, .none), (3021, .transparent),
  (3024, .none), (3072, .transparent), (3073, .none), (3076, .transparent), (3077, .none),
  (3132, .transparent), (3133, .none), (3134, .transparent), (3137, .none), (3142, .transparent),
  (3160, .none), (3170, .transparent), (3174, .none), (3201, .transparent), (3202, .none),
  (3260, .transparent), (3261, .none), (3263, .transparent), (3264, .none), (3270, .transparent),
  (3271, .none), (3276, .transparent), (3285, .none), (3298, .transparent), (3302, .none),
  (3328, .transparent), (3330, .none), (3387, .transparent), (3389, .none), (3393, .transparent),
  (3398, .none), (3405, .transparent), (3406, .none), (3426, .transparent), (3430, .none),
  (3457, .transparent), (3458, .none), (3530, .transparent), (3535, .none), (3538, .transparent),
  (3544, .none), (3633, .transparent), (3634, .none), (3636, .transparent), (3647, .none),
  (3655, .transparent), (3663, .none), (3761, .transparent), (3762, .none), (3764, .transparent),
  (3773, .none), (3784, .transparent), (3792, .none), (3864, .transparent), (3866, .none),
  (3893, .transparent), (3894, .none), (3895, .transparent), (3896, .none), (3897, .transparent),
  (3898, .none), (3953, .transparent), (3967, .none), (3968, .transparent), (3973, .none),
  (3974, .transparent), (3976, .none), (3981, .transparent), (4030, .none), (4038, .transparent),
  (4039, .none), (4141, .transparent), (4145, .none), (4146, .transparent), (4152, .none),
  (4153, .transparent), (4155, .none), (4157, .transparent), (4159, .none), (4184, .transparent),
  (4186, .none), (4190, .transparent), (4193, .none), (4209, .transparent), (4213, .none),
  (4226, .transparent), (4227, .none), (4229, .transparent), (4231, .none), (4237, .transparent),
  (4238, .none), (4253, .transparent), (4254, .none), (4957, .transparent), (4960, .none),
  (5906, .transparent), (5909, .none), (5938, .transparent), (5940, .none), (5970, .transparent),
  (5984, .none), (6002, .transparent), (6016, .none), (6068, .transparent), (6070, .none),
  (6071, .transparent), (6078, .none), (6086, .transparent), (6087, .none), (6089, .transparent),
  (6100, .none), (6109, .transparent), (6112, .none), (6151, .both), (6152, .none),
  (6155, .transparent), (6158, .none), (6159, .transparent), (6160, .none), (6176, .both),
  (6272, .none), (6277, .transparent), (6279, .both), (6313, .transparent), (6314, .both),
  (6320, .none), (6432, .transparent), (6435, .none), (6439, .transparent), (6441, .none),
  (6450, .transparent), (6451, .none), (6457, .transparent), (6464, .none), (6679, .transparent),
  (6681, .none), (6683, .transparent), (6686, .none), (6742, .transparent), (6743, .none),
  (6744, .transparent), (6753, .none), (6754, .transparent), (6755, .none), (6757, .transparent),
  (6765, .none), (6771, .transparent), (6784, .none), (6832, .transparent), (6916, .none),
  (6964, .transparent), (6965, .none), (6966, .transparent), (6971, .none), (6972, .transparent),
  (6973, .none), (6978, .transparent), (6979, .none), (7019, .transparent), (7028, .none),
  (7040, .transparent), (7042, .none), (7074, .transparent), (7078, .none), (7080, .transparent),
  (7082, .none), (7083, .transparent), (7086, .none), (7142, .transparent), (7143, .none),
  (7144, .transparent), (7146, .none), (7149, .transparent), (7150, .none), (7151, .transparent),
  (7154, .none), (7212, .transparent), (7220, .none), (7222, .transparent), (7227, .none),
  (7376, .transparent), (7379, .none), (7380, .transparent), (7393, .none), (7394, .transparent),
  (7401, .none), (7405, .transparent), (7406, .none), (7412, .transparent), (7413, .none),
  (7416, .transparent), (7418, .none), (7616, .transparent), (7680, .none), (8203, .transparent),
  (8204, .none), (8206, .transparent), (8208, .none), (8234, .transparent), (8239, .none),
  (8288, .transparent), (8294, .none), (8298, .transparent), (8304, .none), (8400, .transparent),
  (8448, .none), (11503, .transparent), (11506, .none), (11647, .transparent), (11648, .none),
  (11744, .transparent), (11776, .none), (12330, .transparent), (12334, .none),
  (12441, .transparent), (12443, .none), (42607, .transparent), (42611, .none),
  (42612, .transparent), (42622, .none), (42654, .transparent), (42656, .none),
  (42736, .transparent), (42738, .none), (43010, .transparent), (43011, .none),
  (43014, .transparent), (43015, .none), (43019, .transparent), (43020, .none),
  (43045, .transparent), (43047, .none), (43052, .transparent), (43056, .none), (43072, .both),
  (43122, .next), (43123, .none), (43204, .transparent), (43214, .none), (43232, .transparent),
  (43250, .none), (43263, .transparent), (43264, .none), (43302, .transparent), (43310, .none),
  (43335, .transparent), (43346, .none), (43392, .transparent), (43395, .none),
  (43443, .transparent), (43444, .none), (43446, .transparent), (43450, .none),
  (43452, .transparent), (43454, .none), (43493, .transparent), (43494, .none),
  (43561, .transparent), (43567, .none), (43569, .transparent), (43571, .none),
  (43573, .transparent), (43584, .none), (43587, .transparent), (43588, .none),
  (43596, .transparent), (43597, .none), (43644, .transparent), (43645, .none),
  (43696, .transparent), (43697, .none), (43698, .transparent), (43701, .none),
  (43703, .transparent), (43705, .none), (43710, .transparent), (43712, .none),
  (43713, .transparent), (43714, .none), (43756, .transparent), (43758, .none),
  (43766, .transparent), (43777, .none), (44005, .transparent), (44006, .none),
  (44008, .transparent), (44009, .none), (44013, .transparent), (44016, .none),
  (64286, .transparent), (64287, .none), (65024, .transparent), (65040, .none),
  (65056, .transparent), (65072, .none), (65279, .transparent), (65281, .none),
  (65529, .transparent), (65532, .none), (66045, .transparent), (66176, .none),
  (66272, .transparent), (66273, .none), (66422, .transparent), (66432, .none),
  (68097, .transparent), (68112, .none), (68152, .transparent), (68160, .none), (68288, .both),
  (68293, .previous), (68294, .none), (68295, .previous), (68296, .none), (68297, .previous),
  (68299, .none), (68301, .next), (68302, .previous), (68307, .both), (68311, .next),
  (68312, .both), (68317, .previous), (68318, .both), (68321, .previous), (68322, .none),
  (68324, .previous), (68325, .transparent), (68331, .both), (68335, .previous), (68336, .none),
  (68480, .both), (68481, .previous), (68482, .both), (68483, .previous), (68486, .both),
  (68489, .previous), (68490, .both), (68492, .previous), (68493, .both), (68494, .previous),
  (68496, .both), (68497, .previous), (68505, .none), (68521, .previous), (68525, .both),
  (68527, .none), (68864, .next), (68865, .both), (68898, .previous), (68899, .both),
  (68900, .transparent), (68912, .none), (68969, .transparent), (68974, .none),
  (69291, .transparent), (69293, .none), (69314, .previous), (69315, .both), (69317, .none),
  (69318, .both), (69328, .none), (69370, .transparent), (69376, .none), (69424, .both),
  (69427, .previous), (69428, .both), (69445, .none), (69446, .transparent), (69457, .both),
  (69460, .previous), (69461, .none), (69488, .both), (69492, .previous), (69494, .both),
  (69506, .transparent), (69510, .none), (69552, .both), (69553, .none), (69554, .both),
  (69556, .previous), (69559, .none), (69560, .both), (69561, .previous), (69563, .both),
  (69565, .previous), (69566, .both), (69568, .none), (69569, .both), (69570, .previous),
  (69572, .both), (69573, .none), (69577, .previous), (69578, .both), (69579, .next),
  (69600, .none), (69633, .transparent), (69634, .none), (69688, .transparent), (69703, .none),
  (69744, .transparent), (69745, .none), (69747, .transparent), (69749, .none),
  (69759, .transparent), (69762, .none), (69811, .transparent), (69815, .none),
  (69817, .transparent), (69819, .none), (69826, .transparent), (69837, .none),
  (69888, .transparent), (69891, .none), (69927, .transparent), (69932, .none),
  (69933, .transparent), (69942, .none), (70003, .transparent), (70004, .none),
  (70016, .transparent), (70018, .none), (70070, .transparent), (70079, .none),
  (70089, .transparent), (70093, .none), (70095, .transparent), (70096, .none),
  (70191, .transparent), (70194, .none), (70196, .transparent), (70197, .none),
  (70198, .transparent), (70200, .none), (70206, .transparent), (70207, .none),
  (70209, .transparent), (70272, .none), (70367, .transparent), (70368, .none),
  (70371, .transparent), (70384, .none), (70400, .transparent), (70402, .none),
  (70459, .transparent), (70461, .none), (70464, .transparent), (70465, .none),
  (70502, .transparent), (70528, .none), (70587, .transparent), (70594, .none),
  (70606, .transparent), (70607, .none), (70608, .transparent), (70609, .none),
  (70610, .transparent), (70611, .none), (70625, .transparent), (70656, .none),
  (70712, .transparent), (70720, .none), (70722, .transparent), (70725, .none),
  (70726, .transparent), (70727, .none), (70750, .transparent), (70751, .none),
  (70835, .transparent), (70841, .none), (70842, .transparent), (70843, .none),
  (70847, .transparent), (70849, .none), (70850, .transparent), (70852, .none),
  (71090, .transparent), (71096, .none), (71100, .transparent), (71102, .none),
  (71103, .transparent), (71105, .none), (71132, .transparent), (71168, .none),
  (71219, .transparent), (71227, .none), (71229, .transparent), (71230, .none),
  (71231, .transparent), (71233, .none), (71339, .transparent), (71340, .none),
  (71341, .transparent), (71342, .none), (71344, .transparent), (71350, .none),
  (71351, .transparent), (71352, .none), (71453, .transparent), (71454, .none),
  (71455, .transparent), (71456, .none), (71458, .transparent), (71462, .none),
  (71463, .transparent), (71472, .none), (71727, .transparent), (71736, .none),
  (71737, .transparent), (71739, .none), (71995, .transparent), (71997, .none),
  (71998, .transparent), (71999, .none), (72003, .transparent), (72004, .none),
  (72148, .transparent), (72156, .none), (72160, .transparent), (72161, .none),
  (72193, .transparent), (72203, .none), (72243, .transparent), (72249, .none),
  (72251, .transparent), (72255, .none), (72263, .transparent), (72272, .none),
  (72273, .transparent), (72279, .none), (72281, .transparent), (72284, .none),
  (72330, .transparent), (72343, .none), (72344, .transparent), (72346, .none),
  (72544, .transparent), (72545, .none), (72546, .transparent), (72549, .none),
  (72550, .transparent), (72551, .none), (72752, .transparent), (72766, .none),
  (72767, .transparent), (72768, .none), (72850, .transparent), (72873, .none),
  (72874, .transparent), (72881, .none), (72882, .transparent), (72884, .none),
  (72885, .transparent), (72960, .none), (73009, .transparent), (73030, .none),
  (73031, .transparent), (73040, .none), (73104, .transparent), (73107, .none),
  (73109, .transparent), (73110, .none), (73111, .transparent), (73112, .none),
  (73459, .transparent), (73461, .none), (73472, .transparent), (73474, .none),
  (73526, .transparent), (73534, .none), (73536, .transparent), (73537, .none),
  (73538, .transparent), (73539, .none), (73562, .transparent), (73648, .none),
  (78896, .transparent), (78913, .none), (78919, .transparent), (78944, .none),
  (90398, .transparent), (90410, .none), (90413, .transparent), (90416, .none),
  (92912, .transparent), (92917, .none), (92976, .transparent), (92983, .none),
  (94031, .transparent), (94032, .none), (94095, .transparent), (94099, .none),
  (94180, .transparent), (94192, .none), (113821, .transparent), (113823, .none),
  (113824, .transparent), (117760, .none), (118528, .transparent), (118608, .none),
  (119143, .transparent), (119146, .none), (119155, .transparent), (119171, .none),
  (119173, .transparent), (119180, .none), (119210, .transparent), (119214, .none),
  (119362, .transparent), (119365, .none), (121344, .transparent), (121399, .none),
  (121403, .transparent), (121453, .none), (121461, .transparent), (121462, .none),
  (121476, .transparent), (121477, .none), (121499, .transparent), (122624, .none),
  (122880, .transparent), (122928, .none), (123023, .transparent), (123136, .none),
  (123184, .transparent), (123191, .none), (123566, .transparent), (123584, .none),
  (123628, .transparent), (123632, .none), (124140, .transparent), (124144, .none),
  (124398, .transparent), (124400, .none), (124643, .transparent), (124644, .none),
  (124646, .transparent), (124647, .none), (124654, .transparent), (124656, .none),
  (124661, .transparent), (124670, .none), (125136, .transparent), (125184, .both),
  (125252, .transparent), (125264, .none), (917505, .transparent), (983040, .none)]

/-- The neighbours that the character joins. A transparent one is passed over. -/
def joining (c : Char) : Joining := valueAt .none joiningChanges c.toNat

end Sandwich.Text
