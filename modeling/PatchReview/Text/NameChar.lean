import PatchReview.Text.Case
import PatchReview.Text.Word

/-!
# Characters of international names

A name on the network may be written in any script, in lower case and in one
form only: with letters and digits that their compatibility forms leave as
they are, with marks, and with a letter and its accent as one character where
there is one. Which way the letters run matters where scripts meet.
-/

namespace PatchReview.Text

/-- Word characters outside ASCII that stand for others; Unicode 14. -/
def variantRanges : Ranges :=
  [(170, 190), (306, 307), (319, 320), (329, 329), (383, 383), (452, 460), (497, 499), (688, 696),
   (736, 740), (884, 884), (890, 890), (976, 982), (1008, 1010), (1013, 1013), (1017, 1017),
   (1415, 1415), (1600, 1600), (1632, 1641), (1653, 1656), (1776, 1785), (2042, 2042),
   (2392, 2399), (2524, 2527), (2548, 2553), (2611, 2611), (2614, 2614), (2649, 2651),
   (2654, 2654), (2908, 2909), (2930, 2935), (3056, 3058), (3192, 3198), (3416, 3422),
   (3440, 3448), (3635, 3635), (3763, 3763), (3804, 3805), (3882, 3891), (3907, 3907),
   (3917, 3917), (3922, 3922), (3927, 3927), (3932, 3932), (3945, 3945), (4348, 4348),
   (4352, 4607), (4969, 4988), (5024, 5117), (5870, 5872), (6128, 6137), (6618, 6618),
   (7296, 7304), (7468, 7470), (7472, 7482), (7484, 7501), (7503, 7530), (7544, 7544),
   (7579, 7615), (7834, 7835), (8049, 8049), (8051, 8051), (8053, 8053), (8055, 8055),
   (8057, 8057), (8059, 8059), (8061, 8111), (8114, 8116), (8119, 8119), (8123, 8132),
   (8135, 8135), (8137, 8137), (8139, 8140), (8147, 8147), (8155, 8155), (8163, 8163),
   (8171, 8171), (8178, 8180), (8183, 8183), (8185, 8185), (8187, 8484), (8488, 8488),
   (8492, 8497), (8499, 8521), (8528, 8578), (8581, 10131), (11388, 11389), (11517, 11517),
   (11631, 11631), (12321, 12347), (12447, 12447), (12543, 12543), (12593, 12693),
   (12832, 12991), (42652, 42653), (42726, 42735), (42864, 42864), (42994, 42996),
   (43000, 43001), (43056, 43061), (43360, 43388), (43868, 43871), (43881, 43967),
   (55216, 64013), (64016, 64016), (64018, 64018), (64021, 64030), (64032, 64032),
   (64034, 64034), (64037, 64038), (64042, 65138), (65140, 65500), (65799, 65931),
   (66273, 66299), (66336, 66339), (66369, 66369), (66378, 66378), (66513, 66517),
   (67457, 67514), (67672, 67679), (67705, 67711), (67751, 67759), (67835, 67839),
   (67862, 67867), (68028, 68029), (68032, 68095), (68160, 68168), (68221, 68222),
   (68253, 68255), (68331, 68335), (68440, 68447), (68472, 68479), (68521, 68527),
   (68858, 68863), (69216, 69246), (69405, 69414), (69457, 69460), (69573, 69579),
   (69714, 69733), (70113, 70132), (71482, 71483), (71914, 71922), (72794, 72812),
   (73664, 73684), (74752, 74862), (93019, 93025), (93824, 93846), (119520, 120831),
   (125127, 125135), (126065, 130041), (194560, 195101)]

def markRanges : Ranges :=
  [(768, 831), (834, 834), (838, 846), (848, 879), (1155, 1159), (1425, 1469), (1471, 1471),
   (1473, 1474), (1476, 1477), (1479, 1479), (1552, 1562), (1611, 1631), (1648, 1648),
   (1750, 1756), (1759, 1768), (1770, 1773), (1809, 1866), (1958, 1968), (2027, 2035),
   (2045, 2045), (2070, 2093), (2137, 2139), (2200, 2273), (2275, 2403), (2433, 2435),
   (2492, 2500), (2503, 2504), (2507, 2509), (2519, 2519), (2530, 2531), (2558, 2558),
   (2561, 2563), (2620, 2620), (2622, 2626), (2631, 2632), (2635, 2637), (2641, 2641),
   (2672, 2677), (2689, 2691), (2748, 2757), (2759, 2761), (2763, 2765), (2786, 2787),
   (2810, 2815), (2817, 2819), (2876, 2884), (2887, 2888), (2891, 2893), (2901, 2903),
   (2914, 2915), (2946, 2946), (3006, 3010), (3014, 3016), (3018, 3021), (3031, 3031),
   (3072, 3076), (3132, 3140), (3142, 3144), (3146, 3149), (3157, 3158), (3170, 3171),
   (3201, 3203), (3260, 3268), (3270, 3272), (3274, 3277), (3285, 3286), (3298, 3299),
   (3328, 3331), (3387, 3396), (3398, 3400), (3402, 3405), (3415, 3427), (3457, 3459),
   (3530, 3530), (3535, 3540), (3542, 3542), (3544, 3551), (3570, 3571), (3633, 3642),
   (3655, 3662), (3761, 3772), (3784, 3789), (3864, 3865), (3893, 3893), (3895, 3895),
   (3897, 3897), (3902, 3903), (3953, 3954), (3956, 3956), (3962, 3968), (3970, 3972),
   (3974, 3986), (3988, 3991), (3993, 3996), (3998, 4001), (4003, 4006), (4008, 4011),
   (4013, 4024), (4026, 4028), (4038, 4038), (4139, 4158), (4182, 4253), (4957, 4959),
   (5906, 5909), (5938, 5940), (5970, 5971), (6002, 6003), (6070, 6099), (6109, 6109),
   (6277, 6313), (6432, 6443), (6448, 6459), (6679, 6683), (6741, 6750), (6752, 6780),
   (6783, 6783), (6832, 6845), (6847, 6862), (6912, 6980), (7019, 7027), (7040, 7155),
   (7204, 7223), (7376, 7378), (7380, 7417), (7616, 7679), (11503, 11505), (11647, 11647),
   (11744, 11775), (12330, 12333), (12441, 12442), (42607, 42607), (42612, 42621),
   (42654, 42737), (43010, 43047), (43052, 43052), (43136, 43205), (43232, 43249),
   (43263, 43309), (43335, 43347), (43392, 43456), (43493, 43493), (43561, 43574),
   (43587, 43597), (43643, 43713), (43755, 43759), (43765, 43766), (44003, 44010),
   (44012, 44013), (64286, 64286), (65056, 65071), (66045, 66045), (66272, 66272),
   (66422, 66426), (68097, 68099), (68101, 68102), (68108, 68111), (68152, 68154),
   (68159, 68159), (68325, 68326), (68900, 68903), (69291, 69292), (69446, 69456),
   (69506, 69509), (69632, 69702), (69744, 69748), (69759, 69818), (69826, 69826),
   (69888, 69940), (69957, 69958), (70003, 70003), (70016, 70080), (70089, 70092),
   (70094, 70095), (70188, 70199), (70206, 70206), (70367, 70378), (70400, 70403),
   (70459, 70468), (70471, 70472), (70475, 70477), (70487, 70487), (70498, 70499),
   (70502, 70508), (70512, 70516), (70709, 70726), (70750, 70750), (70832, 70851),
   (71087, 71093), (71096, 71104), (71132, 71133), (71216, 71232), (71339, 71351),
   (71453, 71467), (71724, 71738), (71984, 71989), (71991, 71992), (71995, 72003),
   (72145, 72151), (72154, 72160), (72164, 72164), (72193, 72254), (72263, 72263),
   (72273, 72345), (72751, 72758), (72760, 72767), (72850, 72871), (72873, 72886),
   (73009, 73014), (73018, 73018), (73020, 73021), (73023, 73031), (73098, 73102),
   (73104, 73105), (73107, 73111), (73459, 73462), (92912, 92916), (92976, 92982),
   (94031, 94087), (94095, 94098), (94180, 94180), (94192, 94193), (113821, 113822),
   (118528, 118573), (118576, 118598), (121344, 121398), (121403, 121452), (121461, 121461),
   (121476, 121476), (121499, 121503), (121505, 121519), (122880, 122886), (122888, 122904),
   (122907, 122913), (122915, 122916), (122918, 122922), (123184, 123190), (123566, 123566),
   (123628, 123631), (125136, 125142), (125252, 125258)]

/-- Marks that take room of their own and run from left to right; ranges may
cover others than marks. -/
def spacingMarkRanges : Ranges :=
  [(2307, 2307), (2363, 2363), (2366, 2368), (2377, 2380), (2382, 2383), (2434, 2435),
   (2494, 2496), (2503, 2508), (2519, 2519), (2563, 2563), (2622, 2624), (2691, 2691),
   (2750, 2752), (2761, 2764), (2818, 2819), (2878, 2878), (2880, 2880), (2887, 2892),
   (2903, 2903), (3006, 3007), (3009, 3020), (3031, 3031), (3073, 3075), (3137, 3140),
   (3202, 3203), (3262, 3275), (3285, 3286), (3330, 3331), (3390, 3392), (3398, 3404),
   (3415, 3415), (3458, 3459), (3535, 3537), (3544, 3571), (3902, 3903), (3967, 3967),
   (4139, 4140), (4145, 4145), (4152, 4152), (4155, 4156), (4182, 4183), (4194, 4205),
   (4227, 4228), (4231, 4236), (4239, 4252), (5909, 5909), (5940, 5940), (6070, 6070),
   (6078, 6085), (6087, 6088), (6435, 6438), (6441, 6449), (6451, 6456), (6681, 6682),
   (6741, 6741), (6743, 6743), (6753, 6753), (6755, 6756), (6765, 6770), (6916, 6916),
   (6965, 6965), (6971, 6971), (6973, 6977), (6979, 6980), (7042, 7073), (7078, 7079),
   (7082, 7082), (7143, 7143), (7146, 7148), (7150, 7150), (7154, 7211), (7220, 7221),
   (7393, 7393), (7415, 7415), (43043, 43044), (43047, 43047), (43136, 43203), (43346, 43347),
   (43395, 43395), (43444, 43445), (43450, 43451), (43454, 43456), (43567, 43568), (43571, 43572),
   (43597, 43643), (43645, 43645), (43755, 43755), (43758, 43765), (44003, 44004), (44006, 44007),
   (44009, 44012), (69632, 69632), (69634, 69634), (69762, 69810), (69815, 69816), (69932, 69932),
   (69957, 69958), (70018, 70069), (70079, 70080), (70094, 70094), (70188, 70190), (70194, 70195),
   (70197, 70197), (70368, 70370), (70402, 70403), (70462, 70463), (70465, 70499), (70709, 70711),
   (70720, 70721), (70725, 70725), (70832, 70834), (70841, 70841), (70843, 70846), (70849, 70849),
   (71087, 71089), (71096, 71099), (71102, 71102), (71216, 71218), (71227, 71228), (71230, 71230),
   (71340, 71340), (71342, 71343), (71350, 71350), (71456, 71457), (71462, 71462), (71724, 71726),
   (71736, 71736), (71984, 71992), (71997, 71997), (72000, 72002), (72145, 72147), (72156, 72159),
   (72164, 72164), (72199, 72200), (72249, 72249), (72279, 72280), (72343, 72343), (72751, 72751),
   (72766, 72767), (72873, 72873), (72881, 72881), (72884, 72884), (73098, 73102), (73107, 73108),
   (73110, 73110), (73461, 73462), (94033, 94087), (94192, 94193)]

def rightToLeftRanges : Ranges :=
  [(1488, 1610), (1646, 1775), (1786, 2249), (65139, 65139), (67584, 68899), (69248, 69622),
   (124928, 125273)]

def neutralRanges : Ranges :=
  [(183, 183), (697, 698), (710, 719), (748, 748), (885, 885), (8204, 8205), (11823, 11823),
   (12539, 12539), (42623, 42623), (42775, 42783), (42888, 42888)]

def joinsNextRanges : Ranges :=
  [(1568, 1568), (1574, 1574), (1576, 1576), (1578, 1582), (1587, 1607), (1609, 1610),
   (1646, 1647), (1657, 1671), (1690, 1727), (1729, 1730), (1740, 1740), (1742, 1742),
   (1744, 1745), (1786, 1791), (1810, 1812), (1818, 1821), (1823, 1831), (1833, 1833),
   (1835, 1835), (1837, 1838), (1870, 1880), (1884, 1898), (1901, 1904), (1906, 1906),
   (1909, 1911), (1914, 1919), (1994, 2026), (2113, 2117), (2120, 2120), (2122, 2131),
   (2133, 2133), (2144, 2144), (2146, 2149), (2152, 2152), (2182, 2182), (2185, 2189),
   (2208, 2217), (2223, 2224), (2227, 2232), (2234, 2248), (6176, 6264), (6279, 6314),
   (43072, 43122), (68288, 68292), (68301, 68301), (68307, 68316), (68318, 68320),
   (68480, 68480), (68482, 68482), (68486, 68488), (68490, 68491), (68493, 68493),
   (68496, 68496), (68864, 68897), (68899, 68899), (69424, 69426), (69428, 69444),
   (69488, 69491), (69494, 69552), (69554, 69555), (69560, 69560), (69563, 69564),
   (69566, 69567), (69569, 69569), (69572, 69572), (125184, 125251)]

def joinsPreviousRanges : Ranges :=
  [(1568, 1568), (1570, 1610), (1646, 1651), (1657, 1749), (1774, 1775), (1786, 1919),
   (1994, 2026), (2112, 2144), (2146, 2149), (2151, 2178), (2182, 2182), (2185, 2220),
   (2222, 2248), (6176, 6264), (6279, 6314), (43072, 43121), (68288, 68293), (68295, 68298),
   (68302, 68310), (68312, 68321), (68324, 68324), (68480, 68497), (68865, 68899),
   (69424, 69444), (69488, 69552), (69554, 69558), (69560, 69567), (69569, 69572),
   (125184, 125251)]

def greekRanges : Ranges :=
  [(880, 993), (1011, 1023), (7462, 7466), (7936, 8186), (8486, 8486), (43877, 43877)]

def hebrewRanges : Ranges :=
  [(1425, 1524), (64286, 64286)]

def japaneseRanges : Ranges :=
  [(12293, 12293), (12295, 12295), (12353, 12438), (12445, 12538), (12541, 12542), (12784, 40959),
   (64014, 64041), (94179, 94179), (94192, 94193), (110576, 110951), (131072, 201546)]

/-- Characters of names that are neither word characters nor marks. -/
def otherNameCodes : List Nat := [0x06FD, 0x06FE, 0x0F0B]

def isMark (c : Char) : Bool := !isWord c && markRanges.has c.toNat

def isNonspacing (c : Char) : Bool := isMark c && !spacingMarkRanges.has c.toNat

def isNameChar (c : Char) : Bool :=
  if c.toNat < 128 then c.isAlphanum || c == '-'
  else if isWord c then !variantRanges.has c.toNat
  else markRanges.has c.toNat || otherNameCodes.contains c.toNat

/-- Lower-case letters that do not stand for themselves when case is ignored,
and the capitals that go with them. -/
def lowerExceptions : List (Nat × Nat) :=
  [(0x0131, 0x0131), (0x0399, 0x03B9), (0x03B9, 0x03B9), (0x039C, 0x03BC), (0x03BC, 0x03BC),
   (0x03A3, 0x03C3), (0x03C3, 0x03C3), (0xA64A, 0xA64B), (0xA64B, 0xA64B)]

def nameLower (c : Char) : List Char :=
  if c == '\u0130' then ['i', '\u0307']
  else
    match lowerExceptions.lookup c.toNat with
    | some code => [Char.ofNat code]
    | none => if variantRanges.has c.toNat then [c] else [fold c]

inductive Direction where
  | leftToRight
  | rightToLeft
  | number
  | arabicNumber
  /-- It runs as what it follows does. -/
  | mark
  | neutral
  deriving DecidableEq, Repr

def direction (c : Char) : Direction :=
  let code := c.toNat
  if c.isDigit || (0x06F0 ≤ code && code ≤ 0x06F9) then .number
  else if (0x0660 ≤ code && code ≤ 0x0669) || (0x10D30 ≤ code && code ≤ 0x10D39) then .arabicNumber
  else if isNonspacing c then .mark
  else if c == '-' || neutralRanges.has code then .neutral
  else if rightToLeftRanges.has code then .rightToLeft
  else .leftToRight

end PatchReview.Text
