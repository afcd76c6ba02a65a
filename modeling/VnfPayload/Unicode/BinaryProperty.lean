import VnfPayload.Unicode.Category

/-!
# Binary properties

A binary property of characters is given as what it holds of beside whole general
categories, and what of those it does not hold of.
-/

namespace VnfPayload.Unicode

/-- A property that a character has or has not. -/
structure BinaryProperty where
  /-- The names, in small letters without underscores. -/
  names : List String
  /-- The general categories that have it, exceptions aside. -/
  categories : List String := []
  /-- What has it in other general categories. -/
  others : List (Nat × Nat) := []
  /-- What does not have it, although its general category does. -/
  exceptions : List (Nat × Nat) := []

namespace BinaryProperty

/-- The characters with the property. -/
def chars (p : BinaryProperty) : CharSet :=
  ((ofCategories p.categories).union (CharSet.ofRanges p.others)).diff
    (CharSet.ofRanges p.exceptions)

/-- Letters, and marks and numbers that are used as letters. -/
def alphabetic : BinaryProperty where
  names := ["alphabetic", "alpha"]
  categories := ["Ll", "Lm", "Lo", "Lt", "Lu", "Mc", "Mn", "Nl"]
  others := [(9398, 9449), (127280, 127305), (127312, 127337), (127344, 127369)]
  exceptions :=
    [(768, 836), (838, 866), (1155, 1159), (1425, 1455), (1624, 1624), (1759, 1760),
     (1770, 1772), (1856, 1866), (2027, 2035), (2045, 2045), (2072, 2073), (2093, 2093),
     (2137, 2139), (2200, 2207), (2250, 2259), (2272, 2273), (2282, 2287), (2364, 2364),
     (2381, 2381), (2385, 2388), (2492, 2492), (2509, 2509), (2558, 2558), (2620, 2620),
     (2637, 2637), (2748, 2748), (2765, 2765), (2813, 2815), (2876, 2876), (2893, 2901),
     (3021, 3021), (3132, 3132), (3149, 3149), (3260, 3260), (3277, 3277), (3387, 3388),
     (3405, 3405), (3530, 3530), (3655, 3660), (3662, 3662), (3770, 3770), (3784, 3788),
     (3790, 3790), (3864, 3903), (3972, 3975), (4038, 4038), (4151, 4151), (4153, 4154),
     (4957, 4959), (5908, 5909), (5940, 5940), (6068, 6069), (6089, 6099), (6109, 6159),
     (6457, 6459), (6752, 6752), (6773, 6783), (6832, 6845), (6849, 6859), (6964, 6964),
     (6980, 6980), (7019, 7027), (7082, 7083), (7142, 7142), (7154, 7155), (7223, 7223),
     (7376, 7400), (7405, 7405), (7412, 7412), (7415, 7417), (7616, 7634), (7669, 7679),
     (8400, 8432), (11503, 11505), (11647, 11647), (12330, 12335), (12441, 12442),
     (42607, 42607), (42620, 42621), (42736, 42737), (43014, 43014), (43052, 43052),
     (43204, 43204), (43232, 43249), (43307, 43309), (43347, 43347), (43443, 43443),
     (43456, 43456), (43711, 43711), (43713, 43713), (43766, 43766), (44012, 44013),
     (65024, 65071), (66045, 66045), (66272, 66272), (68152, 68159), (68325, 68326),
     (68970, 68973), (69373, 69375), (69446, 69456), (69506, 69509), (69702, 69744),
     (69759, 69759), (69817, 69818), (69939, 69940), (70003, 70003), (70080, 70080),
     (70089, 70092), (70197, 70198), (70377, 70378), (70459, 70460), (70477, 70477),
     (70502, 70516), (70606, 70608), (70610, 70610), (70625, 70626), (70722, 70722),
     (70726, 70726), (70750, 70750), (70850, 70851), (71103, 71104), (71231, 71231),
     (71350, 71351), (71467, 71467), (71737, 71738), (71997, 71998), (72003, 72003),
     (72160, 72160), (72243, 72244), (72263, 72263), (72344, 72345), (72767, 72767),
     (73026, 73026), (73028, 73029), (73111, 73111), (73537, 73562), (78912, 78912),
     (78919, 78933), (90415, 90415), (92912, 92916), (92976, 92982), (94180, 94180),
     (113821, 113821), (118528, 119364), (121344, 121519), (123184, 123190), (123566, 123566),
     (123628, 123631), (124140, 124143), (124398, 124399), (125136, 125142), (125252, 125254),
     (125256, 125258), (917760, 917999)]

/-- The hexadecimal digits of ASCII. -/
def asciiHexDigit : BinaryProperty where
  names := ["asciihexdigit", "ahex"]
  others := [(48, 57), (65, 70), (97, 102)]

/-- Controls of the direction of text. -/
def bidiControl : BinaryProperty where
  names := ["bidicontrol", "bidic"]
  others := [(1564, 1564), (8206, 8207), (8234, 8238), (8294, 8297)]

/-- Characters that are mirrored in text from right to left. -/
def bidiMirrored : BinaryProperty where
  names := ["bidimirrored", "bidim"]
  categories := ["Pe", "Pf", "Pi", "Ps"]
  others :=
    [(60, 60), (62, 62), (8512, 8512), (8705, 8708), (8712, 8717), (8721, 8721), (8725, 8726),
     (8730, 8733), (8735, 8738), (8740, 8740), (8742, 8742), (8747, 8755), (8761, 8761),
     (8763, 8780), (8786, 8789), (8799, 8800), (8802, 8802), (8804, 8811), (8813, 8844),
     (8847, 8850), (8856, 8856), (8866, 8867), (8870, 8888), (8894, 8895), (8905, 8909),
     (8912, 8913), (8918, 8941), (8944, 8959), (8992, 8993), (10176, 10176), (10179, 10180),
     (10184, 10185), (10187, 10189), (10195, 10198), (10204, 10206), (10210, 10213),
     (10651, 10656), (10658, 10671), (10680, 10680), (10688, 10693), (10697, 10697),
     (10702, 10706), (10708, 10709), (10716, 10716), (10721, 10721), (10723, 10725),
     (10728, 10729), (10740, 10745), (10762, 10780), (10782, 10785), (10788, 10788),
     (10790, 10790), (10793, 10793), (10795, 10798), (10804, 10805), (10812, 10814),
     (10839, 10840), (10852, 10853), (10858, 10861), (10863, 10864), (10867, 10868),
     (10873, 10915), (10918, 10925), (10927, 10966), (10972, 10972), (10974, 10974),
     (10978, 10982), (10988, 10990), (10995, 10995), (10999, 11003), (11005, 11005),
     (11262, 11262), (65124, 65125), (65308, 65308), (65310, 65310), (120539, 120539),
     (120597, 120597), (120655, 120655), (120713, 120713), (120771, 120771)]
  exceptions := [(8216, 8223), (11842, 11842), (12317, 65096)]

/-- Characters that are passed over where the case of a word is looked at. -/
def caseIgnorable : BinaryProperty where
  names := ["caseignorable", "ci"]
  categories := ["Cf", "Lm", "Me", "Mn", "Sk"]
  others :=
    [(39, 39), (46, 46), (58, 58), (183, 183), (903, 903), (1375, 1375), (1524, 1524),
     (8216, 8217), (8228, 8228), (8231, 8231), (65043, 65043), (65106, 65106), (65109, 65109),
     (65287, 65287), (65294, 65294), (65306, 65306)]
  exceptions := [(71454, 71454)]

/-- Letters that are capital, small or of title case. -/
def cased : BinaryProperty where
  names := ["cased"]
  categories := ["Ll", "Lt", "Lu"]
  others :=
    [(170, 170), (186, 186), (688, 696), (704, 705), (736, 740), (837, 837), (890, 890),
     (4348, 4348), (7468, 7615), (8305, 8305), (8319, 8319), (8336, 8348), (8544, 8575),
     (9398, 9449), (11388, 11389), (42652, 42653), (42864, 42864), (42994, 42996),
     (43000, 43001), (43868, 43881), (67456, 67456), (67459, 67461), (67463, 67504),
     (67506, 67514), (122928, 122989), (127280, 127305), (127312, 127337), (127344, 127369)]
  exceptions := [(661, 661)]

/-- Characters that case folding changes. -/
def changesWhenCasefolded : BinaryProperty where
  names := ["changeswhencasefolded", "cwcf"]
  categories := ["Lt", "Lu"]
  others :=
    [(181, 181), (223, 223), (329, 329), (383, 383), (837, 837), (962, 962), (976, 977),
     (981, 982), (1008, 1009), (1013, 1013), (1415, 1415), (5112, 5117), (7296, 7304),
     (7834, 7835), (8064, 8103), (8114, 8116), (8119, 8119), (8130, 8132), (8135, 8135),
     (8178, 8180), (8183, 8183), (8544, 8559), (9398, 9423), (43888, 43967), (64256, 64262),
     (64275, 64279)]
  exceptions :=
    [(978, 980), (5024, 5109), (8450, 8484), (8488, 8488), (8492, 8497), (8499, 8517),
     (119808, 120778)]

/-- Characters that some mapping of case changes. -/
def changesWhenCasemapped : BinaryProperty where
  names := ["changeswhencasemapped", "cwcm"]
  categories := ["Ll", "Lt", "Lu"]
  others := [(837, 837), (8544, 8575), (9398, 9449)]
  exceptions :=
    [(312, 312), (397, 397), (426, 427), (442, 442), (446, 446), (545, 545), (564, 569),
     (597, 597), (600, 600), (602, 602), (605, 607), (610, 610), (615, 615), (621, 622),
     (624, 624), (627, 628), (630, 636), (638, 639), (641, 641), (644, 646), (653, 657),
     (659, 668), (671, 687), (978, 980), (1020, 1020), (1376, 1376), (1416, 1416),
     (7424, 7543), (7546, 7548), (7550, 7565), (7567, 7578), (7836, 7837), (7839, 7839),
     (8450, 8484), (8488, 8488), (8492, 8497), (8499, 8521), (11377, 11377), (11380, 11380),
     (11383, 11387), (11492, 11492), (42800, 42801), (42865, 42872), (42894, 42894),
     (42901, 42901), (42927, 42927), (43002, 43858), (43860, 43880), (119808, 122666)]

/-- Characters that are not what they are in small letters. -/
def changesWhenLowercased : BinaryProperty where
  names := ["changeswhenlowercased", "cwl"]
  categories := ["Lt", "Lu"]
  others := [(8544, 8559), (9398, 9423)]
  exceptions :=
    [(978, 980), (8450, 8484), (8488, 8488), (8492, 8497), (8499, 8517), (119808, 120778)]

/-- Characters that are not what they are in title case. -/
def changesWhenTitlecased : BinaryProperty where
  names := ["changeswhentitlecased", "cwt"]
  categories := ["Ll"]
  others :=
    [(452, 452), (455, 455), (458, 458), (497, 497), (837, 837), (8560, 8575), (9424, 9449)]
  exceptions :=
    [(312, 312), (397, 397), (426, 427), (442, 442), (446, 446), (545, 545), (564, 569),
     (597, 597), (600, 600), (602, 602), (605, 607), (610, 610), (615, 615), (621, 622),
     (624, 624), (627, 628), (630, 636), (638, 639), (641, 641), (644, 646), (653, 657),
     (659, 668), (671, 687), (1020, 1020), (1376, 1376), (1416, 4351), (7424, 7543),
     (7546, 7548), (7550, 7565), (7567, 7578), (7836, 7839), (8458, 8521), (11377, 11377),
     (11380, 11380), (11383, 11387), (11492, 11492), (42800, 42801), (42865, 42872),
     (42894, 42894), (42901, 42901), (42927, 42927), (43002, 43858), (43860, 43880),
     (119834, 122666)]

/-- Characters that are not what they are in capital letters. -/
def changesWhenUppercased : BinaryProperty where
  names := ["changeswhenuppercased", "cwu"]
  categories := ["Ll", "Lt"]
  others := [(837, 837), (8560, 8575), (9424, 9449)]
  exceptions :=
    [(312, 312), (397, 397), (426, 427), (442, 442), (446, 446), (545, 545), (564, 569),
     (597, 597), (600, 600), (602, 602), (605, 607), (610, 610), (615, 615), (621, 622),
     (624, 624), (627, 628), (630, 636), (638, 639), (641, 641), (644, 646), (653, 657),
     (659, 668), (671, 687), (1020, 1020), (1376, 1376), (1416, 1416), (7424, 7543),
     (7546, 7548), (7550, 7565), (7567, 7578), (7836, 7839), (8458, 8521), (11377, 11377),
     (11380, 11380), (11383, 11387), (11492, 11492), (42800, 42801), (42865, 42872),
     (42894, 42894), (42901, 42901), (42927, 42927), (43002, 43858), (43860, 43880),
     (119834, 122666)]

/-- Dashes, the hyphen among them. -/
def dash : BinaryProperty where
  names := ["dash"]
  categories := ["Pd"]
  others := [(8275, 8275), (8315, 8315), (8331, 8331), (8722, 8722)]

/-- Characters that are not shown where they are not supported. -/
def defaultIgnorableCodePoint : BinaryProperty where
  names := ["defaultignorablecodepoint", "di"]
  categories := ["Cf"]
  others :=
    [(847, 847), (4447, 4448), (6068, 6069), (6155, 6159), (8293, 8293), (12644, 12644),
     (65024, 65039), (65440, 65440), (65520, 65528), (917504, 921599)]
  exceptions := [(1536, 1541), (1757, 2274), (65529, 78911)]

/-- Characters whose use is discouraged. -/
def deprecated : BinaryProperty where
  names := ["deprecated", "dep"]
  others :=
    [(329, 329), (1651, 1651), (3959, 3959), (3961, 3961), (6051, 6052), (8298, 8303),
     (9001, 9002), (917505, 917505)]

/-- Marks that change the meaning or the sound of the character before. -/
def diacritic : BinaryProperty where
  names := ["diacritic", "dia"]
  categories := ["Lm", "Mn", "Sk"]
  others :=
    [(183, 183), (3902, 3903), (4195, 4196), (4201, 4205), (4231, 4236), (4239, 4239),
     (4250, 4251), (5909, 5909), (5940, 5940), (6846, 6846), (6980, 6980), (7082, 7082),
     (7154, 7155), (7379, 7393), (7415, 7415), (12334, 12335), (43310, 43310), (43347, 43347),
     (43456, 43456), (43643, 43645), (43712, 43714), (44012, 44012), (68898, 68899),
     (70080, 70080), (70197, 70197), (70477, 70477), (70607, 70607), (70611, 70611),
     (71350, 71350), (71997, 71997), (73537, 73537), (94192, 94193), (119149, 119154)]
  exceptions :=
    [(847, 847), (856, 860), (867, 879), (1552, 1600), (1619, 1622), (1625, 1756),
     (1761, 1764), (1767, 1768), (1773, 1809), (2042, 2071), (2074, 2199), (2259, 2273),
     (2303, 2362), (2369, 2376), (2389, 2403), (2433, 2433), (2497, 2500), (2530, 2562),
     (2625, 2636), (2641, 2690), (2753, 2760), (2786, 2812), (2817, 2817), (2879, 2884),
     (2902, 3008), (3072, 3076), (3134, 3148), (3157, 3201), (3263, 3276), (3298, 3329),
     (3393, 3396), (3426, 3457), (3538, 3641), (3654, 3654), (3661, 3661), (3761, 3769),
     (3771, 3782), (3789, 3790), (3953, 3969), (3981, 4028), (4141, 4150), (4157, 4192),
     (4209, 4230), (4253, 4348), (5906, 5907), (5938, 5939), (5970, 6086), (6103, 6103),
     (6155, 6450), (6679, 6750), (6754, 6772), (6823, 6823), (6847, 6848), (6860, 6915),
     (6966, 6978), (7040, 7081), (7084, 7085), (7144, 7153), (7212, 7219), (7544, 7544),
     (7615, 7619), (7632, 7668), (8305, 11389), (11631, 11775), (12293, 12293), (12337, 12347),
     (12445, 12446), (12541, 42508), (42612, 42619), (42654, 42655), (42864, 42864),
     (42994, 42996), (43010, 43010), (43019, 43046), (43205, 43205), (43263, 43306),
     (43335, 43345), (43392, 43394), (43446, 43453), (43471, 43471), (43494, 43632),
     (43696, 43710), (43741, 43764), (44005, 44008), (64434, 65039), (66045, 66045),
     (66422, 66426), (68097, 68111), (68975, 69372), (69633, 69701), (69747, 69814),
     (69826, 69938), (70016, 70078), (70089, 70089), (70095, 70196), (70199, 70376),
     (70400, 70401), (70464, 70464), (70587, 70592), (70712, 70719), (70723, 70724),
     (70750, 70848), (71090, 71101), (71132, 71229), (71232, 71349), (71453, 71466),
     (71727, 71735), (71995, 71996), (72148, 72155), (72193, 72243), (72245, 72254),
     (72273, 72344), (72752, 72765), (72850, 73025), (73027, 73027), (73031, 73109),
     (73459, 73536), (78912, 78912), (90398, 90414), (92992, 93506), (94031, 94031),
     (94176, 94180), (113821, 113822), (119362, 122922), (123023, 123023), (123191, 123197),
     (124139, 124143), (125255, 125255), (125259, 917999)]

/-- Characters that can be shown as pictures. -/
def emoji : BinaryProperty where
  names := ["emoji"]
  categories := ["So"]
  others :=
    [(35, 35), (42, 42), (48, 57), (8252, 8252), (8265, 8265), (8505, 8505), (8596, 8596),
     (9723, 9726), (10548, 10549), (12336, 12336), (12349, 12349), (127995, 127999)]
  exceptions :=
    [(166, 166), (176, 7036), (8448, 8481), (8483, 8494), (8506, 8587), (8604, 8616),
     (8619, 8985), (8988, 8999), (9003, 9166), (9168, 9192), (9204, 9207), (9211, 9409),
     (9411, 9641), (9644, 9653), (9656, 9663), (9666, 9719), (9733, 9741), (9743, 9744),
     (9746, 9747), (9750, 9751), (9753, 9756), (9758, 9759), (9761, 9761), (9764, 9765),
     (9767, 9769), (9771, 9773), (9776, 9783), (9787, 9791), (9793, 9793), (9795, 9799),
     (9812, 9822), (9825, 9826), (9828, 9828), (9831, 9831), (9833, 9850), (9852, 9853),
     (9856, 9873), (9880, 9880), (9882, 9882), (9885, 9887), (9890, 9894), (9896, 9897),
     (9900, 9903), (9906, 9916), (9919, 9923), (9926, 9927), (9929, 9933), (9936, 9936),
     (9938, 9938), (9941, 9960), (9963, 9967), (9974, 9974), (9979, 9980), (9982, 9985),
     (9987, 9988), (9990, 9991), (9998, 9998), (10000, 10001), (10003, 10003), (10005, 10005),
     (10007, 10012), (10014, 10016), (10018, 10023), (10025, 10034), (10037, 10051),
     (10053, 10054), (10056, 10059), (10061, 10061), (10063, 10066), (10070, 10070),
     (10072, 10082), (10085, 10132), (10136, 10144), (10146, 10159), (10161, 10174),
     (10240, 10495), (11008, 11012), (11016, 11034), (11037, 11087), (11089, 11092),
     (11094, 12320), (12342, 12343), (12350, 12950), (12952, 12952), (12954, 126979),
     (126981, 127182), (127185, 127343), (127346, 127357), (127360, 127373), (127375, 127376),
     (127387, 127405), (127488, 127488), (127504, 127513), (127515, 127534), (127536, 127537),
     (127547, 127560), (127584, 127589), (127778, 127779), (127892, 127893), (127896, 127896),
     (127900, 127901), (127985, 127986), (127990, 127990), (128254, 128254), (128318, 128328),
     (128335, 128335), (128360, 128366), (128369, 128370), (128379, 128390), (128392, 128393),
     (128398, 128399), (128401, 128404), (128407, 128419), (128422, 128423), (128425, 128432),
     (128435, 128443), (128445, 128449), (128453, 128464), (128468, 128475), (128479, 128480),
     (128482, 128482), (128484, 128487), (128489, 128494), (128496, 128498), (128500, 128505),
     (128592, 128639), (128710, 128714), (128723, 128724), (128742, 128744), (128746, 128746),
     (128753, 128754), (128768, 128985), (129024, 129291), (129339, 129339), (129350, 129350),
     (129536, 129645), (129792, 130031)]

/-- Characters of which sequences of pictures are made. -/
def emojiComponent : BinaryProperty where
  names := ["emojicomponent", "ecomp"]
  others :=
    [(35, 35), (42, 42), (48, 57), (8205, 8205), (8419, 8419), (65039, 65039),
     (127462, 127487), (127995, 127999), (129456, 129459), (917536, 917631)]

/-- Characters that give the picture before a colour of skin. -/
def emojiModifier : BinaryProperty where
  names := ["emojimodifier", "emod"]
  others := [(127995, 127999)]

/-- Pictures that can take a colour of skin. -/
def emojiModifierBase : BinaryProperty where
  names := ["emojimodifierbase", "ebase"]
  others :=
    [(9757, 9757), (9977, 9977), (9994, 9997), (127877, 127877), (127938, 127940),
     (127943, 127943), (127946, 127948), (128066, 128067), (128070, 128080), (128102, 128120),
     (128124, 128124), (128129, 128131), (128133, 128135), (128143, 128143), (128145, 128145),
     (128170, 128170), (128372, 128373), (128378, 128378), (128400, 128400), (128405, 128406),
     (128581, 128583), (128587, 128591), (128675, 128675), (128692, 128694), (128704, 128704),
     (128716, 128716), (129292, 129292), (129295, 129295), (129304, 129311), (129318, 129318),
     (129328, 129337), (129340, 129342), (129399, 129399), (129461, 129462), (129464, 129465),
     (129467, 129467), (129485, 129487), (129489, 129501), (129731, 129733), (129776, 129784)]

/-- Characters that are shown as pictures unless text is asked for. -/
def emojiPresentation : BinaryProperty where
  names := ["emojipresentation", "epres"]
  categories := ["So"]
  others := [(9725, 9726), (127995, 127999)]
  exceptions :=
    [(166, 8985), (8988, 9192), (9197, 9199), (9201, 9202), (9204, 9719), (9728, 9747),
     (9750, 9799), (9812, 9854), (9856, 9874), (9876, 9888), (9890, 9897), (9900, 9916),
     (9919, 9923), (9926, 9933), (9935, 9939), (9941, 9961), (9963, 9969), (9972, 9972),
     (9974, 9977), (9979, 9980), (9982, 9988), (9990, 9993), (9996, 10023), (10025, 10059),
     (10061, 10061), (10063, 10066), (10070, 10070), (10072, 10132), (10136, 10159),
     (10161, 10174), (10240, 11034), (11037, 11087), (11089, 11092), (11094, 126979),
     (126981, 127182), (127185, 127373), (127375, 127376), (127387, 127405), (127488, 127488),
     (127490, 127513), (127515, 127534), (127536, 127537), (127543, 127543), (127547, 127560),
     (127584, 127589), (127777, 127788), (127798, 127798), (127869, 127869), (127892, 127903),
     (127947, 127950), (127956, 127967), (127985, 127987), (127989, 127991), (128063, 128063),
     (128065, 128065), (128253, 128254), (128318, 128330), (128335, 128335), (128360, 128377),
     (128379, 128404), (128407, 128419), (128421, 128506), (128592, 128639), (128710, 128715),
     (128717, 128719), (128723, 128724), (128736, 128746), (128752, 128755), (128768, 128985),
     (129024, 129291), (129339, 129339), (129350, 129350), (129536, 129645), (129792, 130031)]

/-- Pictures, and code points kept for later ones. -/
def extendedPictographic : BinaryProperty where
  names := ["extendedpictographic", "extpict"]
  categories := ["Cn"]
  others :=
    [(169, 169), (174, 174), (8252, 8252), (8265, 8265), (8482, 8482), (8505, 8505),
     (8596, 8601), (8617, 8618), (8986, 8987), (9000, 9000), (9167, 9167), (9193, 9203),
     (9208, 9210), (9410, 9410), (9642, 9643), (9654, 9654), (9664, 9664), (9723, 9726),
     (9728, 9732), (9742, 9742), (9745, 9745), (9748, 9749), (9752, 9752), (9757, 9757),
     (9760, 9760), (9762, 9763), (9766, 9766), (9770, 9770), (9774, 9775), (9784, 9786),
     (9792, 9792), (9794, 9794), (9800, 9811), (9823, 9824), (9827, 9827), (9829, 9830),
     (9832, 9832), (9851, 9851), (9854, 9855), (9874, 9879), (9881, 9881), (9883, 9884),
     (9888, 9889), (9895, 9895), (9898, 9899), (9904, 9905), (9917, 9918), (9924, 9925),
     (9928, 9928), (9934, 9935), (9937, 9937), (9939, 9940), (9961, 9962), (9968, 9973),
     (9975, 9978), (9981, 9981), (9986, 9986), (9989, 9989), (9992, 9997), (9999, 9999),
     (10002, 10002), (10004, 10004), (10006, 10006), (10013, 10013), (10017, 10017),
     (10024, 10024), (10035, 10036), (10052, 10052), (10055, 10055), (10060, 10060),
     (10062, 10062), (10067, 10069), (10071, 10071), (10083, 10084), (10133, 10135),
     (10145, 10145), (10160, 10160), (10175, 10175), (10548, 10549), (11013, 11015),
     (11035, 11036), (11088, 11088), (11093, 11093), (12336, 12336), (12349, 12349),
     (12951, 12951), (12953, 12953), (126980, 126980), (127183, 127183), (127344, 127345),
     (127358, 127359), (127374, 127374), (127377, 127386), (127489, 127490), (127514, 127514),
     (127535, 127535), (127538, 127546), (127568, 127569), (127744, 127777), (127780, 127891),
     (127894, 127895), (127897, 127899), (127902, 127984), (127987, 127989), (127991, 127994),
     (128000, 128253), (128255, 128317), (128329, 128334), (128336, 128359), (128367, 128368),
     (128371, 128378), (128391, 128391), (128394, 128397), (128400, 128400), (128405, 128406),
     (128420, 128421), (128424, 128424), (128433, 128434), (128444, 128444), (128450, 128452),
     (128465, 128467), (128476, 128478), (128481, 128481), (128483, 128483), (128488, 128488),
     (128495, 128495), (128499, 128499), (128506, 128591), (128640, 128709), (128715, 128722),
     (128725, 128741), (128745, 128745), (128747, 128752), (128755, 128764), (128992, 129008),
     (129292, 129338), (129340, 129349), (129351, 129535), (129648, 129784)]
  exceptions :=
    [(888, 8191), (8293, 8447), (8588, 8591), (9258, 9311), (11124, 12271), (12352, 12831),
     (42125, 126975), (128887, 128890), (129232, 129240), (129620, 129623), (129939, 130047),
     (131070, 1114111)]

/-- Characters that lengthen or repeat the one before. -/
def extender : BinaryProperty where
  names := ["extender", "ext"]
  categories := ["Lm"]
  others :=
    [(183, 183), (2673, 2673), (2811, 2811), (2901, 2901), (6154, 6154), (7222, 7222),
     (68970, 68970), (70199, 70199), (70493, 70493), (70610, 70611), (71110, 71112),
     (72344, 72344), (124399, 124399), (125252, 125254)]
  exceptions :=
    [(688, 719), (736, 1369), (1765, 2037), (2074, 2417), (4348, 6103), (7288, 7290),
     (7292, 11823), (12347, 12347), (42232, 42237), (42623, 43001), (43868, 43881),
     (65438, 67456), (67459, 67514), (92992, 92993), (93504, 94111), (110576, 123195),
     (124139, 124139), (125259, 125259)]

/-- Characters that a unit of writing can start with. -/
def graphemeBase : BinaryProperty where
  names := ["graphemebase", "grbase"]
  categories :=
    ["Ll", "Lm", "Lo", "Lt", "Lu", "Mc", "Nd", "Nl", "No", "Pc", "Pd", "Pe", "Pf", "Pi", "Po",
     "Ps", "Sc", "Sk", "Sm", "So", "Zs"]
  others := [(71454, 71454)]
  exceptions :=
    [(2494, 2494), (2519, 2519), (2878, 2878), (2903, 2903), (3006, 3006), (3031, 3031),
     (3264, 3264), (3266, 3266), (3271, 3286), (3390, 3390), (3415, 3415), (3535, 3535),
     (3551, 3551), (5909, 5909), (5940, 5940), (6965, 6973), (6979, 6980), (7082, 7082),
     (7154, 7155), (12334, 12335), (43347, 43347), (43456, 43456), (65438, 65439),
     (70080, 70080), (70197, 70197), (70462, 70462), (70477, 70477), (70487, 70487),
     (70584, 70584), (70594, 70601), (70607, 70607), (70832, 70832), (70845, 70845),
     (71087, 71087), (71350, 71350), (71984, 71984), (71997, 71997), (73537, 73537),
     (94192, 94193), (119141, 119142), (119149, 119154)]

/-- Characters that belong to the unit of writing before. -/
def graphemeExtend : BinaryProperty where
  names := ["graphemeextend", "grext"]
  categories := ["Me", "Mn"]
  others :=
    [(2494, 2494), (2519, 2519), (2878, 2878), (2903, 2903), (3006, 3006), (3031, 3031),
     (3264, 3264), (3266, 3266), (3271, 3272), (3274, 3275), (3285, 3286), (3390, 3390),
     (3415, 3415), (3535, 3535), (3551, 3551), (5909, 5909), (5940, 5940), (6965, 6973),
     (6979, 6980), (7082, 7082), (7154, 7155), (8204, 8204), (12334, 12335), (43347, 43347),
     (43456, 43456), (65438, 65439), (70080, 70080), (70197, 70197), (70462, 70462),
     (70477, 70477), (70487, 70487), (70584, 70584), (70594, 70594), (70597, 70597),
     (70599, 70601), (70607, 70607), (70832, 70832), (70845, 70845), (71087, 71087),
     (71350, 71350), (71984, 71984), (71997, 71997), (73537, 73537), (94192, 94193),
     (119141, 119142), (119149, 119154), (917536, 917631)]
  exceptions := [(71454, 71454)]

/-- Hexadecimal digits, of full width too. -/
def hexDigit : BinaryProperty where
  names := ["hexdigit", "hex"]
  others := [(48, 57), (65, 70), (97, 102), (65296, 65305), (65313, 65318), (65345, 65350)]

/-- Characters that can stand in a name behind its first one. -/
def idContinue : BinaryProperty where
  names := ["idcontinue", "idc"]
  categories := ["Ll", "Lm", "Lo", "Lt", "Lu", "Mc", "Mn", "Nd", "Nl", "Pc"]
  others :=
    [(183, 183), (903, 903), (4969, 4977), (6618, 6618), (8204, 8205), (8472, 8472),
     (8494, 8494), (12443, 12444), (12539, 12539), (65381, 65381)]
  exceptions := [(11823, 11823)]

/-- Characters that a name can start with. -/
def idStart : BinaryProperty where
  names := ["idstart", "ids"]
  categories := ["Ll", "Lm", "Lo", "Lt", "Lu", "Nl"]
  others := [(6277, 6278), (8472, 8472), (8494, 8494), (12443, 12444)]
  exceptions := [(11823, 11823)]

/-- Ideographs. -/
def ideographic : BinaryProperty where
  names := ["ideographic", "ideo"]
  categories := ["Lo"]
  others := [(12295, 12295), (12321, 12329), (12344, 12346), (94180, 94180)]
  exceptions :=
    [(170, 11742), (12348, 12799), (40960, 55291), (64285, 94032), (110592, 110951),
     (113664, 126651)]

/-- Signs that describe an ideograph by two parts. -/
def idsBinaryOperator : BinaryProperty where
  names := ["idsbinaryoperator", "idsb"]
  others := [(12272, 12273), (12276, 12285), (12783, 12783)]

/-- Signs that describe an ideograph by three parts. -/
def idsTrinaryOperator : BinaryProperty where
  names := ["idstrinaryoperator", "idst"]
  others := [(12274, 12275)]

/-- Controls of the joining of letters. -/
def joinControl : BinaryProperty where
  names := ["joincontrol", "joinc"]
  others := [(8204, 8205)]

/-- Vowels that are written before the consonant they follow in speech. -/
def logicalOrderException : BinaryProperty where
  names := ["logicalorderexception", "loe"]
  others :=
    [(3648, 3652), (3776, 3780), (6581, 6583), (6586, 6586), (43701, 43702), (43705, 43705),
     (43707, 43708)]

/-- Small letters. -/
def lowercase : BinaryProperty where
  names := ["lowercase", "lower"]
  categories := ["Ll", "Lm"]
  others := [(170, 170), (186, 186), (837, 837), (8560, 8575), (9424, 9449)]
  exceptions :=
    [(661, 661), (697, 703), (710, 721), (748, 750), (884, 884), (1369, 1369), (1600, 3782),
     (6103, 7293), (11631, 42508), (42623, 42623), (42775, 42783), (42888, 42888),
     (43471, 43764), (65392, 65439), (67457, 67458), (68942, 68975), (92992, 93548),
     (94099, 110590), (123191, 124139), (125259, 125259)]

/-- Characters of mathematics. -/
def math : BinaryProperty where
  names := ["math"]
  categories := ["Lo", "Lu", "Sm"]
  others :=
    [(94, 94), (976, 977), (981, 981), (1008, 1009), (1013, 1013), (8214, 8214), (8242, 8244),
     (8256, 8256), (8289, 8292), (8317, 8318), (8333, 8334), (8400, 8412), (8417, 8417),
     (8421, 8422), (8427, 8431), (8458, 8467), (8489, 8489), (8495, 8495), (8500, 8500),
     (8508, 8521), (8597, 8615), (8617, 8621), (8624, 8625), (8630, 8631), (8636, 8667),
     (8669, 8669), (8676, 8677), (8968, 8971), (9140, 9141), (9143, 9143), (9168, 9168),
     (9186, 9186), (9632, 9633), (9646, 9654), (9660, 9664), (9670, 9671), (9674, 9675),
     (9679, 9683), (9698, 9698), (9700, 9700), (9703, 9708), (9733, 9734), (9792, 9792),
     (9794, 9794), (9824, 9827), (9837, 9838), (10181, 10223), (10627, 10749), (65121, 65123),
     (65128, 65128), (65340, 65340), (65342, 65342), (119834, 119892), (119894, 119963),
     (119990, 119993), (119995, 119995), (119997, 120003), (120005, 120067), (120094, 120119),
     (120146, 120485), (120514, 120779), (120782, 120831)]
  exceptions :=
    [(65, 90), (170, 170), (186, 214), (216, 222), (256, 975), (979, 980), (984, 1006),
     (1015, 1522), (1568, 8187), (8486, 8486), (8490, 8491), (8498, 8498), (8579, 8579),
     (11264, 64296), (64298, 65019), (65136, 65276), (65313, 65338), (65382, 65500),
     (65536, 68965), (69248, 113817), (122634, 125217), (131072, 205743)]

/-- Code points that are no characters for good. -/
def noncharacterCodePoint : BinaryProperty where
  names := ["noncharactercodepoint", "nchar"]
  categories := ["Cn"]
  exceptions :=
    [(888, 64974), (65050, 65528), (65548, 131069), (173792, 196605), (201547, 262141),
     (262144, 327677), (327680, 393213), (393216, 458749), (458752, 524285), (524288, 589821),
     (589824, 655357), (655360, 720893), (720896, 786429), (786432, 851965), (851968, 917501),
     (917504, 983037)]

/-- Characters kept for the syntax of patterns. -/
def patternSyntax : BinaryProperty where
  names := ["patternsyntax", "patsyn"]
  categories := ["Pd", "Pe", "Pf", "Pi", "Po", "Ps", "Sm", "So"]
  others :=
    [(36, 36), (94, 94), (96, 96), (162, 165), (9258, 9311), (11124, 11158), (11823, 11903)]
  exceptions :=
    [(183, 183), (894, 7379), (8314, 8587), (9372, 9449), (11493, 11632), (11904, 12287),
     (12292, 12292), (12342, 64297), (64832, 65092), (65095, 130031)]

/-- White space in patterns. -/
def patternWhiteSpace : BinaryProperty where
  names := ["patternwhitespace", "patws"]
  categories := ["Zl", "Zp"]
  others := [(9, 13), (32, 32), (133, 133), (8206, 8207)]

/-- Marks that stand before the characters they enclose. -/
def prependedConcatenationMark : BinaryProperty where
  names := ["prependedconcatenationmark", "pcm"]
  others :=
    [(1536, 1541), (1757, 1757), (1807, 1807), (2192, 2193), (2274, 2274), (69821, 69821),
     (69837, 69837)]

/-- Quotation marks. -/
def quotationMark : BinaryProperty where
  names := ["quotationmark", "qmark"]
  others :=
    [(34, 34), (39, 39), (171, 171), (187, 187), (8216, 8223), (8249, 8250), (11842, 11842),
     (12300, 12303), (12317, 12319), (65089, 65092), (65282, 65282), (65287, 65287),
     (65378, 65379)]

/-- Radicals of ideographs. -/
def radical : BinaryProperty where
  names := ["radical"]
  others := [(11904, 11929), (11931, 12019), (12032, 12245)]

/-- Letters of which flags are made. -/
def regionalIndicator : BinaryProperty where
  names := ["regionalindicator", "ri"]
  others := [(127462, 127487)]

/-- Punctuation at the end of sentences. -/
def sentenceTerminal : BinaryProperty where
  names := ["sentenceterminal", "sterm"]
  categories := ["Po"]
  exceptions :=
    [(34, 44), (47, 59), (64, 1375), (1472, 1563), (1642, 1645), (1795, 2040), (2096, 2102),
     (2104, 2104), (2106, 2108), (2142, 2142), (2416, 4058), (4172, 4961), (4963, 4966),
     (5867, 5869), (6102, 6146), (6148, 6152), (6154, 6154), (6686, 6822), (6828, 6829),
     (7004, 7005), (7008, 7008), (7164, 7167), (7229, 7231), (7360, 8227), (8229, 8251),
     (8254, 8259), (8266, 8286), (11516, 11821), (11824, 11833), (11837, 11858),
     (12289, 12289), (12291, 42238), (42509, 42509), (42611, 42738), (42740, 42742),
     (43124, 43125), (43256, 43310), (43359, 43463), (43466, 43612), (43742, 43743),
     (65040, 65041), (65043, 65044), (65049, 65105), (65108, 65109), (65119, 65131),
     (65282, 65292), (65295, 65307), (65312, 65340), (65380, 68181), (68184, 68508),
     (69705, 69820), (69952, 69952), (70004, 70005), (70087, 70088), (70107, 70109),
     (70202, 70202), (70205, 70205), (70615, 70616), (70733, 71105), (71108, 71112),
     (71235, 71353), (71739, 71739), (72005, 72005), (72162, 72257), (72260, 72346),
     (72350, 72673), (72771, 72817), (73541, 77810), (92985, 92987), (93549, 93549),
     (93847, 93847), (93849, 94178), (121479, 121479), (121481, 125279)]

/-- Letters with a dot that an accent replaces. -/
def softDotted : BinaryProperty where
  names := ["softdotted", "sd"]
  others :=
    [(105, 106), (303, 303), (585, 585), (616, 616), (669, 669), (690, 690), (1011, 1011),
     (1110, 1110), (1112, 1112), (7522, 7522), (7574, 7574), (7588, 7588), (7592, 7592),
     (7725, 7725), (7883, 7883), (8305, 8305), (8520, 8521), (11388, 11388), (119842, 119843),
     (119894, 119895), (119946, 119947), (119998, 119999), (120050, 120051), (120102, 120103),
     (120154, 120155), (120206, 120207), (120258, 120259), (120310, 120311), (120362, 120363),
     (120414, 120415), (120466, 120467), (122650, 122650), (122956, 122957), (122984, 122984)]

/-- Punctuation at the end of units of text. -/
def terminalPunctuation : BinaryProperty where
  names := ["terminalpunctuation", "term"]
  categories := ["Po"]
  exceptions :=
    [(34, 42), (47, 47), (64, 191), (1370, 1375), (1472, 1472), (1478, 1546), (1549, 1549),
     (1642, 1645), (1803, 1803), (1805, 2039), (2102, 2102), (2416, 3663), (3844, 3847),
     (3849, 3852), (3860, 4058), (4172, 4960), (6104, 6105), (6144, 6145), (6151, 6151),
     (6154, 6154), (6686, 6822), (6828, 6829), (7004, 7004), (7008, 7008), (7164, 7167),
     (7360, 8227), (8229, 8251), (8254, 8259), (8266, 8286), (11516, 11821), (11824, 11833),
     (11837, 11839), (11843, 11851), (11853, 11853), (11858, 11858), (12291, 12539),
     (42611, 42738), (43124, 43125), (43256, 43310), (43359, 43462), (43466, 43612),
     (43742, 43742), (65040, 65041), (65043, 65044), (65049, 65100), (65119, 65131),
     (65282, 65290), (65295, 65295), (65312, 65340), (65381, 65794), (66927, 66927),
     (67903, 68181), (68184, 68223), (68342, 68409), (69819, 69820), (69952, 69952),
     (70004, 70005), (70087, 70088), (70107, 70109), (70205, 70205), (70615, 70616),
     (70734, 70735), (70749, 71105), (71110, 71112), (71235, 71353), (71739, 71739),
     (72005, 72005), (72162, 72257), (72260, 72346), (72350, 72352), (72448, 72673),
     (72772, 72816), (73541, 73727), (77809, 77810), (92986, 92987), (93549, 93549),
     (93849, 94178), (121483, 125279)]

/-- Ideographs of the unified sets. -/
def unifiedIdeograph : BinaryProperty where
  names := ["unifiedideograph", "uideo"]
  categories := ["Lo"]
  exceptions :=
    [(170, 12799), (40960, 64013), (64016, 64016), (64018, 64018), (64021, 64030),
     (64032, 64032), (64034, 64034), (64037, 64038), (64042, 126651), (194560, 195101)]

/-- Capital letters. -/
def uppercase : BinaryProperty where
  names := ["uppercase", "upper"]
  categories := ["Lu"]
  others := [(8544, 8559), (9398, 9423), (127280, 127305), (127312, 127337), (127344, 127369)]

/-- Characters that select a form of the one before. -/
def variationSelector : BinaryProperty where
  names := ["variationselector", "vs"]
  categories := ["Mn"]
  exceptions := [(768, 6109), (6277, 64286), (65056, 125258)]

/-- White space. -/
def whiteSpace : BinaryProperty where
  names := ["whitespace", "wspace", "space"]
  categories := ["Zl", "Zp", "Zs"]
  others := [(9, 13), (133, 133)]

/-- Characters that can stand in a normalized name behind its first one. -/
def xidContinue : BinaryProperty where
  names := ["xidcontinue", "xidc"]
  categories := ["Ll", "Lm", "Lo", "Lt", "Lu", "Mc", "Mn", "Nd", "Nl", "Pc"]
  others :=
    [(183, 183), (903, 903), (4969, 4977), (6618, 6618), (8204, 8205), (8472, 8472),
     (8494, 8494), (12539, 12539), (65381, 65381)]
  exceptions :=
    [(890, 890), (11823, 11823), (64606, 64611), (65018, 65019), (65136, 65136),
     (65138, 65138), (65140, 65142), (65144, 65144), (65146, 65146), (65148, 65148),
     (65150, 65150)]

/-- Characters that a normalized name can start with. -/
def xidStart : BinaryProperty where
  names := ["xidstart", "xids"]
  categories := ["Ll", "Lm", "Lo", "Lt", "Lu", "Nl"]
  others := [(6277, 6278), (8472, 8472), (8494, 8494)]
  exceptions :=
    [(890, 890), (3635, 3635), (3763, 3763), (11823, 11823), (64606, 64611), (65018, 65136),
     (65138, 65138), (65140, 65142), (65144, 65144), (65146, 65146), (65148, 65148),
     (65150, 65150), (65438, 65439)]

/-- The binary properties. -/
def list : List BinaryProperty :=
  [alphabetic, asciiHexDigit, bidiControl, bidiMirrored, caseIgnorable, cased,
   changesWhenCasefolded, changesWhenCasemapped, changesWhenLowercased, changesWhenTitlecased,
   changesWhenUppercased, dash, defaultIgnorableCodePoint, deprecated, diacritic, emoji,
   emojiComponent, emojiModifier, emojiModifierBase, emojiPresentation, extendedPictographic,
   extender, graphemeBase, graphemeExtend, hexDigit, idContinue, idStart, ideographic,
   idsBinaryOperator, idsTrinaryOperator, joinControl, logicalOrderException, lowercase, math,
   noncharacterCodePoint, patternSyntax, patternWhiteSpace, prependedConcatenationMark,
   quotationMark, radical, regionalIndicator, sentenceTerminal, softDotted,
   terminalPunctuation, unifiedIdeograph, uppercase, variationSelector, whiteSpace,
   xidContinue, xidStart]

/-- The binary property of a name. -/
def ofName? (name : String) : Option BinaryProperty :=
  list.find? fun p => p.names.contains name

end BinaryProperty

end VnfPayload.Unicode
