import Sandwich.Text.Intervals

/-! The direction in which each character is written. -/

namespace Sandwich.Text

/-- How a character takes part in text that runs both ways. -/
inductive Direction
  | left
  | right
  | number
  | arabicNumber
  | neutral
  | mark
  | other
deriving DecidableEq

/-- The points where the direction changes, characters without a meaning left out. -/
def directionChanges : List (Nat × Direction) := [
  (0, .neutral), (9, .other), (14, .neutral), (28, .other), (33, .neutral), (48, .number),
  (58, .neutral), (65, .left), (91, .neutral), (97, .left), (123, .neutral), (133, .other),
  (134, .neutral), (170, .left), (171, .neutral), (178, .number), (180, .neutral), (181, .left),
  (182, .neutral), (185, .number), (186, .left), (187, .neutral), (192, .left), (215, .neutral),
  (216, .left), (247, .neutral), (248, .left), (697, .neutral), (699, .left), (706, .neutral),
  (720, .left), (722, .neutral), (736, .left), (741, .neutral), (750, .left), (751, .neutral),
  (768, .mark), (880, .left), (884, .neutral), (886, .left), (894, .neutral), (895, .left),
  (900, .neutral), (902, .left), (903, .neutral), (904, .left), (1014, .neutral), (1015, .left),
  (1155, .mark), (1162, .left), (1418, .neutral), (1425, .mark), (1470, .right), (1471, .mark),
  (1472, .right), (1473, .mark), (1475, .right), (1476, .mark), (1478, .right), (1479, .mark),
  (1488, .right), (1536, .arabicNumber), (1542, .neutral), (1544, .right), (1545, .neutral),
  (1547, .right), (1548, .neutral), (1549, .right), (1550, .neutral), (1552, .mark),
  (1563, .right), (1611, .mark), (1632, .arabicNumber), (1642, .neutral), (1643, .arabicNumber),
  (1645, .right), (1648, .mark), (1649, .right), (1750, .mark), (1757, .arabicNumber),
  (1758, .neutral), (1759, .mark), (1765, .right), (1767, .mark), (1769, .neutral), (1770, .mark),
  (1774, .right), (1776, .number), (1786, .right), (1809, .mark), (1810, .right), (1840, .mark),
  (1869, .right), (1958, .mark), (1969, .right), (2027, .mark), (2036, .right), (2038, .neutral),
  (2042, .right), (2045, .mark), (2046, .right), (2070, .mark), (2074, .right), (2075, .mark),
  (2084, .right), (2085, .mark), (2088, .right), (2089, .mark), (2096, .right), (2137, .mark),
  (2142, .right), (2192, .arabicNumber), (2199, .mark), (2208, .right), (2250, .mark),
  (2274, .arabicNumber), (2275, .mark), (2307, .left), (2362, .mark), (2363, .left),
  (2364, .mark), (2365, .left), (2369, .mark), (2377, .left), (2381, .mark), (2382, .left),
  (2385, .mark), (2392, .left), (2402, .mark), (2404, .left), (2433, .mark), (2434, .left),
  (2492, .mark), (2493, .left), (2497, .mark), (2503, .left), (2509, .mark), (2510, .left),
  (2530, .mark), (2534, .left), (2546, .neutral), (2548, .left), (2555, .neutral), (2556, .left),
  (2558, .mark), (2563, .left), (2620, .mark), (2622, .left), (2625, .mark), (2649, .left),
  (2672, .mark), (2674, .left), (2677, .mark), (2678, .left), (2689, .mark), (2691, .left),
  (2748, .mark), (2749, .left), (2753, .mark), (2761, .left), (2765, .mark), (2768, .left),
  (2786, .mark), (2790, .left), (2801, .neutral), (2809, .left), (2810, .mark), (2818, .left),
  (2876, .mark), (2877, .left), (2879, .mark), (2880, .left), (2881, .mark), (2887, .left),
  (2893, .mark), (2903, .left), (2914, .mark), (2918, .left), (2946, .mark), (2947, .left),
  (3008, .mark), (3009, .left), (3021, .mark), (3024, .left), (3059, .neutral), (3072, .mark),
  (3073, .left), (3076, .mark), (3077, .left), (3132, .mark), (3133, .left), (3134, .mark),
  (3137, .left), (3142, .mark), (3160, .left), (3170, .mark), (3174, .left), (3192, .neutral),
  (3199, .left), (3201, .mark), (3202, .left), (3260, .mark), (3261, .left), (3276, .mark),
  (3285, .left), (3298, .mark), (3302, .left), (3328, .mark), (3330, .left), (3387, .mark),
  (3389, .left), (3393, .mark), (3398, .left), (3405, .mark), (3406, .left), (3426, .mark),
  (3430, .left), (3457, .mark), (3458, .left), (3530, .mark), (3535, .left), (3538, .mark),
  (3544, .left), (3633, .mark), (3634, .left), (3636, .mark), (3647, .neutral), (3648, .left),
  (3655, .mark), (3663, .left), (3761, .mark), (3762, .left), (3764, .mark), (3773, .left),
  (3784, .mark), (3792, .left), (3864, .mark), (3866, .left), (3893, .mark), (3894, .left),
  (3895, .mark), (3896, .left), (3897, .mark), (3898, .neutral), (3902, .left), (3953, .mark),
  (3967, .left), (3968, .mark), (3973, .left), (3974, .mark), (3976, .left), (3981, .mark),
  (4030, .left), (4038, .mark), (4039, .left), (4141, .mark), (4145, .left), (4146, .mark),
  (4152, .left), (4153, .mark), (4155, .left), (4157, .mark), (4159, .left), (4184, .mark),
  (4186, .left), (4190, .mark), (4193, .left), (4209, .mark), (4213, .left), (4226, .mark),
  (4227, .left), (4229, .mark), (4231, .left), (4237, .mark), (4238, .left), (4253, .mark),
  (4254, .left), (4957, .mark), (4960, .left), (5008, .neutral), (5024, .left), (5120, .neutral),
  (5121, .left), (5760, .other), (5761, .left), (5787, .neutral), (5792, .left), (5906, .mark),
  (5909, .left), (5938, .mark), (5940, .left), (5970, .mark), (5984, .left), (6002, .mark),
  (6016, .left), (6068, .mark), (6070, .left), (6071, .mark), (6078, .left), (6086, .mark),
  (6087, .left), (6089, .mark), (6100, .left), (6107, .neutral), (6108, .left), (6109, .mark),
  (6112, .left), (6128, .neutral), (6155, .mark), (6158, .neutral), (6159, .mark), (6160, .left),
  (6277, .mark), (6279, .left), (6313, .mark), (6314, .left), (6432, .mark), (6435, .left),
  (6439, .mark), (6441, .left), (6450, .mark), (6451, .left), (6457, .mark), (6464, .neutral),
  (6470, .left), (6622, .neutral), (6656, .left), (6679, .mark), (6681, .left), (6683, .mark),
  (6686, .left), (6742, .mark), (6743, .left), (6744, .mark), (6753, .left), (6754, .mark),
  (6755, .left), (6757, .mark), (6765, .left), (6771, .mark), (6784, .left), (6832, .mark),
  (6916, .left), (6964, .mark), (6965, .left), (6966, .mark), (6971, .left), (6972, .mark),
  (6973, .left), (6978, .mark), (6979, .left), (7019, .mark), (7028, .left), (7040, .mark),
  (7042, .left), (7074, .mark), (7078, .left), (7080, .mark), (7082, .left), (7083, .mark),
  (7086, .left), (7142, .mark), (7143, .left), (7144, .mark), (7146, .left), (7149, .mark),
  (7150, .left), (7151, .mark), (7154, .left), (7212, .mark), (7220, .left), (7222, .mark),
  (7227, .left), (7376, .mark), (7379, .left), (7380, .mark), (7393, .left), (7394, .mark),
  (7401, .left), (7405, .mark), (7406, .left), (7412, .mark), (7413, .left), (7416, .mark),
  (7418, .left), (7616, .mark), (7680, .left), (8125, .neutral), (8126, .left), (8127, .neutral),
  (8130, .left), (8141, .neutral), (8144, .left), (8157, .neutral), (8160, .left),
  (8173, .neutral), (8178, .left), (8189, .neutral), (8192, .other), (8203, .neutral),
  (8206, .left), (8207, .right), (8208, .neutral), (8232, .other), (8239, .neutral),
  (8287, .other), (8288, .neutral), (8294, .other), (8298, .neutral), (8304, .number),
  (8305, .left), (8308, .number), (8314, .neutral), (8319, .left), (8320, .number),
  (8330, .neutral), (8336, .left), (8352, .neutral), (8400, .mark), (8448, .neutral),
  (8450, .left), (8451, .neutral), (8455, .left), (8456, .neutral), (8458, .left),
  (8468, .neutral), (8469, .left), (8470, .neutral), (8473, .left), (8478, .neutral),
  (8484, .left), (8485, .neutral), (8486, .left), (8487, .neutral), (8488, .left),
  (8489, .neutral), (8490, .left), (8494, .neutral), (8495, .left), (8506, .neutral),
  (8508, .left), (8512, .neutral), (8517, .left), (8522, .neutral), (8526, .left),
  (8528, .neutral), (8544, .left), (8585, .neutral), (9014, .left), (9083, .neutral),
  (9109, .left), (9110, .neutral), (9352, .number), (9372, .left), (9450, .neutral),
  (9900, .left), (9901, .neutral), (10240, .left), (10496, .neutral), (11264, .left),
  (11493, .neutral), (11499, .left), (11503, .mark), (11506, .left), (11513, .neutral),
  (11520, .left), (11647, .mark), (11648, .left), (11744, .mark), (11776, .neutral),
  (12288, .other), (12289, .neutral), (12293, .left), (12296, .neutral), (12321, .left),
  (12330, .mark), (12334, .left), (12336, .neutral), (12337, .left), (12342, .neutral),
  (12344, .left), (12349, .neutral), (12353, .left), (12441, .mark), (12443, .neutral),
  (12445, .left), (12448, .neutral), (12449, .left), (12539, .neutral), (12540, .left),
  (12736, .neutral), (12784, .left), (12829, .neutral), (12832, .left), (12880, .neutral),
  (12896, .left), (12924, .neutral), (12927, .left), (12977, .neutral), (12992, .left),
  (13004, .neutral), (13008, .left), (13175, .neutral), (13179, .left), (13278, .neutral),
  (13280, .left), (13311, .neutral), (13312, .left), (19904, .neutral), (19968, .left),
  (42128, .neutral), (42192, .left), (42509, .neutral), (42512, .left), (42607, .mark),
  (42611, .neutral), (42612, .mark), (42622, .neutral), (42624, .left), (42654, .mark),
  (42656, .left), (42736, .mark), (42738, .left), (42752, .neutral), (42786, .left),
  (42888, .neutral), (42889, .left), (43010, .mark), (43011, .left), (43014, .mark),
  (43015, .left), (43019, .mark), (43020, .left), (43045, .mark), (43047, .left),
  (43048, .neutral), (43052, .mark), (43056, .left), (43064, .neutral), (43072, .left),
  (43124, .neutral), (43136, .left), (43204, .mark), (43214, .left), (43232, .mark),
  (43250, .left), (43263, .mark), (43264, .left), (43302, .mark), (43310, .left), (43335, .mark),
  (43346, .left), (43392, .mark), (43395, .left), (43443, .mark), (43444, .left), (43446, .mark),
  (43450, .left), (43452, .mark), (43454, .left), (43493, .mark), (43494, .left), (43561, .mark),
  (43567, .left), (43569, .mark), (43571, .left), (43573, .mark), (43584, .left), (43587, .mark),
  (43588, .left), (43596, .mark), (43597, .left), (43644, .mark), (43645, .left), (43696, .mark),
  (43697, .left), (43698, .mark), (43701, .left), (43703, .mark), (43705, .left), (43710, .mark),
  (43712, .left), (43713, .mark), (43714, .left), (43756, .mark), (43758, .left), (43766, .mark),
  (43777, .left), (43882, .neutral), (43888, .left), (44005, .mark), (44006, .left),
  (44008, .mark), (44009, .left), (44013, .mark), (44016, .left), (64285, .right), (64286, .mark),
  (64287, .right), (64297, .neutral), (64298, .right), (64451, .neutral), (64467, .right),
  (64830, .neutral), (64848, .right), (64912, .neutral), (64914, .right), (64968, .neutral),
  (65008, .right), (65021, .neutral), (65024, .mark), (65040, .neutral), (65056, .mark),
  (65072, .neutral), (65136, .right), (65279, .neutral), (65296, .number), (65306, .neutral),
  (65313, .left), (65339, .neutral), (65345, .left), (65371, .neutral), (65382, .left),
  (65504, .neutral), (65536, .left), (65793, .neutral), (65794, .left), (65856, .neutral),
  (65933, .left), (65936, .neutral), (66000, .left), (66045, .mark), (66176, .left),
  (66272, .mark), (66273, .number), (66304, .left), (66422, .mark), (66432, .left),
  (67584, .right), (67871, .neutral), (67872, .right), (68097, .mark), (68112, .right),
  (68152, .mark), (68160, .right), (68325, .mark), (68331, .right), (68409, .neutral),
  (68416, .right), (68900, .mark), (68912, .arabicNumber), (68938, .right), (68969, .mark),
  (68974, .neutral), (68975, .right), (69216, .arabicNumber), (69248, .right), (69291, .mark),
  (69293, .right), (69328, .neutral), (69370, .mark), (69376, .right), (69446, .mark),
  (69457, .right), (69506, .mark), (69510, .right), (69632, .left), (69633, .mark),
  (69634, .left), (69688, .mark), (69703, .left), (69714, .neutral), (69734, .left),
  (69744, .mark), (69745, .left), (69747, .mark), (69749, .left), (69759, .mark), (69762, .left),
  (69811, .mark), (69815, .left), (69817, .mark), (69819, .left), (69826, .mark), (69837, .left),
  (69888, .mark), (69891, .left), (69927, .mark), (69932, .left), (69933, .mark), (69942, .left),
  (70003, .mark), (70004, .left), (70016, .mark), (70018, .left), (70070, .mark), (70079, .left),
  (70089, .mark), (70093, .left), (70095, .mark), (70096, .left), (70191, .mark), (70194, .left),
  (70196, .mark), (70197, .left), (70198, .mark), (70200, .left), (70206, .mark), (70207, .left),
  (70209, .mark), (70272, .left), (70367, .mark), (70368, .left), (70371, .mark), (70384, .left),
  (70400, .mark), (70402, .left), (70459, .mark), (70461, .left), (70464, .mark), (70465, .left),
  (70502, .mark), (70528, .left), (70587, .mark), (70594, .left), (70606, .mark), (70607, .left),
  (70608, .mark), (70609, .left), (70610, .mark), (70611, .left), (70625, .mark), (70656, .left),
  (70712, .mark), (70720, .left), (70722, .mark), (70725, .left), (70726, .mark), (70727, .left),
  (70750, .mark), (70751, .left), (70835, .mark), (70841, .left), (70842, .mark), (70843, .left),
  (70847, .mark), (70849, .left), (70850, .mark), (70852, .left), (71090, .mark), (71096, .left),
  (71100, .mark), (71102, .left), (71103, .mark), (71105, .left), (71132, .mark), (71168, .left),
  (71219, .mark), (71227, .left), (71229, .mark), (71230, .left), (71231, .mark), (71233, .left),
  (71264, .neutral), (71296, .left), (71339, .mark), (71340, .left), (71341, .mark),
  (71342, .left), (71344, .mark), (71350, .left), (71351, .mark), (71352, .left), (71453, .mark),
  (71454, .left), (71455, .mark), (71456, .left), (71458, .mark), (71462, .left), (71463, .mark),
  (71472, .left), (71727, .mark), (71736, .left), (71737, .mark), (71739, .left), (71995, .mark),
  (71997, .left), (71998, .mark), (71999, .left), (72003, .mark), (72004, .left), (72148, .mark),
  (72156, .left), (72160, .mark), (72161, .left), (72193, .mark), (72199, .left), (72201, .mark),
  (72203, .left), (72243, .mark), (72249, .left), (72251, .mark), (72255, .left), (72263, .mark),
  (72272, .left), (72273, .mark), (72279, .left), (72281, .mark), (72284, .left), (72330, .mark),
  (72343, .left), (72344, .mark), (72346, .left), (72544, .mark), (72545, .left), (72546, .mark),
  (72549, .left), (72550, .mark), (72551, .left), (72752, .mark), (72766, .left), (72850, .mark),
  (72873, .left), (72874, .mark), (72881, .left), (72882, .mark), (72884, .left), (72885, .mark),
  (72960, .left), (73009, .mark), (73030, .left), (73031, .mark), (73040, .left), (73104, .mark),
  (73107, .left), (73109, .mark), (73110, .left), (73111, .mark), (73112, .left), (73459, .mark),
  (73461, .left), (73472, .mark), (73474, .left), (73526, .mark), (73534, .left), (73536, .mark),
  (73537, .left), (73538, .mark), (73539, .left), (73562, .mark), (73648, .left),
  (73685, .neutral), (73727, .left), (78912, .mark), (78913, .left), (78919, .mark),
  (78944, .left), (90398, .mark), (90410, .left), (90413, .mark), (90416, .left), (92912, .mark),
  (92917, .left), (92976, .mark), (92983, .left), (94031, .mark), (94032, .left), (94095, .mark),
  (94099, .left), (94178, .neutral), (94179, .left), (94180, .mark), (94192, .left),
  (113821, .mark), (113823, .left), (113824, .neutral), (117974, .left), (118000, .number),
  (118010, .neutral), (118528, .mark), (118608, .left), (119143, .mark), (119146, .left),
  (119155, .neutral), (119163, .mark), (119171, .left), (119173, .mark), (119180, .left),
  (119210, .mark), (119214, .left), (119273, .neutral), (119362, .mark), (119365, .neutral),
  (119488, .left), (119552, .neutral), (119648, .left), (120513, .neutral), (120514, .left),
  (120539, .neutral), (120540, .left), (120571, .neutral), (120572, .left), (120597, .neutral),
  (120598, .left), (120629, .neutral), (120630, .left), (120655, .neutral), (120656, .left),
  (120687, .neutral), (120688, .left), (120713, .neutral), (120714, .left), (120745, .neutral),
  (120746, .left), (120771, .neutral), (120772, .left), (120782, .number), (120832, .left),
  (121344, .mark), (121399, .left), (121403, .mark), (121453, .left), (121461, .mark),
  (121462, .left), (121476, .mark), (121477, .left), (121499, .mark), (122624, .left),
  (122880, .mark), (122928, .left), (123023, .mark), (123136, .left), (123184, .mark),
  (123191, .left), (123566, .mark), (123584, .left), (123628, .mark), (123632, .left),
  (123647, .neutral), (124112, .left), (124140, .mark), (124144, .left), (124398, .mark),
  (124400, .left), (124643, .mark), (124644, .left), (124646, .mark), (124647, .left),
  (124654, .mark), (124656, .left), (124661, .mark), (124670, .left), (124928, .right),
  (125136, .mark), (125184, .right), (125252, .mark), (125259, .right), (126704, .neutral),
  (127232, .number), (127243, .neutral), (127248, .left), (127279, .neutral), (127280, .left),
  (127338, .neutral), (127344, .left), (127405, .neutral), (127462, .left), (127584, .neutral),
  (130032, .number), (130042, .neutral), (131072, .left), (917505, .neutral), (917760, .mark),
  (983040, .left)]

/-- The direction of a character: `left` runs from left to right, `right` from right to left,
and a `mark` takes part as the character it is written upon. -/
def direction (c : Char) : Direction := valueAt .other directionChanges c.toNat

end Sandwich.Text
