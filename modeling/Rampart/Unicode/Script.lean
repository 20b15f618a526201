import Rampart.Unicode.Ranges

/-!
# Scripts

The code points of each script, under the names the standard gives it: first the four-letter code,
then the long names. Names are written in small letters without separators.
-/

namespace Rampart.Unicode

/-- A script: the names it goes by, and its code points. -/
structure Script where
  names : List String
  ranges : Ranges

namespace Script

/-- The script Adlam. -/
def adlamScript : Script where
  names := ["adlm", "adlam"]
  ranges := [
    125184, 125260, 125264, 125274, 125278, 125280]

/-- The script Caucasian Albanian. -/
def caucasianalbanianScript : Script where
  names := ["aghb", "caucasianalbanian"]
  ranges := [
    66864, 66916, 66927, 66928]

/-- The script Ahom. -/
def ahomScript : Script where
  names := ["ahom"]
  ranges := [
    71424, 71451, 71453, 71468, 71472, 71495]

/-- The script Arabic. -/
def arabicScript : Script where
  names := ["arab", "arabic"]
  ranges := [
    1536, 1541, 1542, 1548, 1549, 1563, 1564, 1567, 1568, 1600, 1601, 1611, 1622, 1648, 1649,
    1757, 1758, 1792, 1872, 1920, 2160, 2191, 2192, 2194, 2200, 2274, 2275, 2304, 64336, 64451,
    64467, 64830, 64832, 64912, 64914, 64968, 64975, 64976, 65008, 65024, 65136, 65141, 65142,
    65277, 69216, 69247, 69373, 69376, 126464, 126468, 126469, 126496, 126497, 126499, 126500,
    126501, 126503, 126504, 126505, 126515, 126516, 126520, 126521, 126522, 126523, 126524,
    126530, 126531, 126535, 126536, 126537, 126538, 126539, 126540, 126541, 126544, 126545,
    126547, 126548, 126549, 126551, 126552, 126553, 126554, 126555, 126556, 126557, 126558,
    126559, 126560, 126561, 126563, 126564, 126565, 126567, 126571, 126572, 126579, 126580,
    126584, 126585, 126589, 126590, 126591, 126592, 126602, 126603, 126620, 126625, 126628,
    126629, 126634, 126635, 126652, 126704, 126706]

/-- The script Imperial Aramaic. -/
def imperialaramaicScript : Script where
  names := ["armi", "imperialaramaic"]
  ranges := [
    67648, 67670, 67671, 67680]

/-- The script Armenian. -/
def armenianScript : Script where
  names := ["armn", "armenian"]
  ranges := [
    1329, 1367, 1369, 1419, 1421, 1424, 64275, 64280]

/-- The script Avestan. -/
def avestanScript : Script where
  names := ["avst", "avestan"]
  ranges := [
    68352, 68406, 68409, 68416]

/-- The script Balinese. -/
def balineseScript : Script where
  names := ["bali", "balinese"]
  ranges := [
    6912, 6989, 6992, 7039]

/-- The script Bamum. -/
def bamumScript : Script where
  names := ["bamu", "bamum"]
  ranges := [
    42656, 42744, 92160, 92729]

/-- The script Bassa Vah. -/
def bassavahScript : Script where
  names := ["bass", "bassavah"]
  ranges := [
    92880, 92910, 92912, 92918]

/-- The script Batak. -/
def batakScript : Script where
  names := ["batk", "batak"]
  ranges := [
    7104, 7156, 7164, 7168]

/-- The script Bengali. -/
def bengaliScript : Script where
  names := ["beng", "bengali"]
  ranges := [
    2432, 2436, 2437, 2445, 2447, 2449, 2451, 2473, 2474, 2481, 2482, 2483, 2486, 2490, 2492,
    2501, 2503, 2505, 2507, 2511, 2519, 2520, 2524, 2526, 2527, 2532, 2534, 2559]

/-- The script Bhaiksuki. -/
def bhaiksukiScript : Script where
  names := ["bhks", "bhaiksuki"]
  ranges := [
    72704, 72713, 72714, 72759, 72760, 72774, 72784, 72813]

/-- The script Bopomofo. -/
def bopomofoScript : Script where
  names := ["bopo", "bopomofo"]
  ranges := [
    746, 748, 12549, 12592, 12704, 12736]

/-- The script Brahmi. -/
def brahmiScript : Script where
  names := ["brah", "brahmi"]
  ranges := [
    69632, 69710, 69714, 69750, 69759, 69760]

/-- The script Braille. -/
def brailleScript : Script where
  names := ["brai", "braille"]
  ranges := [
    10240, 10496]

/-- The script Buginese. -/
def bugineseScript : Script where
  names := ["bugi", "buginese"]
  ranges := [
    6656, 6684, 6686, 6688]

/-- The script Buhid. -/
def buhidScript : Script where
  names := ["buhd", "buhid"]
  ranges := [
    5952, 5972]

/-- The script Chakma. -/
def chakmaScript : Script where
  names := ["cakm", "chakma"]
  ranges := [
    69888, 69941, 69942, 69960]

/-- The script Canadian Aboriginal. -/
def canadianaboriginalScript : Script where
  names := ["cans", "canadianaboriginal"]
  ranges := [
    5120, 5760, 6320, 6390, 72368, 72384]

/-- The script Carian. -/
def carianScript : Script where
  names := ["cari", "carian"]
  ranges := [
    66208, 66257]

/-- The script Cham. -/
def chamScript : Script where
  names := ["cham"]
  ranges := [
    43520, 43575, 43584, 43598, 43600, 43610, 43612, 43616]

/-- The script Cherokee. -/
def cherokeeScript : Script where
  names := ["cher", "cherokee"]
  ranges := [
    5024, 5110, 5112, 5118, 43888, 43968]

/-- The script Chorasmian. -/
def chorasmianScript : Script where
  names := ["chrs", "chorasmian"]
  ranges := [
    69552, 69580]

/-- The script Coptic. -/
def copticScript : Script where
  names := ["copt", "coptic", "qaac"]
  ranges := [
    994, 1008, 11392, 11508, 11513, 11520]

/-- The script Cypro Minoan. -/
def cyprominoanScript : Script where
  names := ["cpmn", "cyprominoan"]
  ranges := [
    77712, 77811]

/-- The script Cypriot. -/
def cypriotScript : Script where
  names := ["cprt", "cypriot"]
  ranges := [
    67584, 67590, 67592, 67593, 67594, 67638, 67639, 67641, 67644, 67645, 67647, 67648]

/-- The script Cyrillic. -/
def cyrillicScript : Script where
  names := ["cyrl", "cyrillic"]
  ranges := [
    1024, 1157, 1159, 1328, 7296, 7305, 7467, 7468, 7544, 7545, 11744, 11776, 42560, 42656,
    65070, 65072, 122928, 122990, 123023, 123024]

/-- The script Devanagari. -/
def devanagariScript : Script where
  names := ["deva", "devanagari"]
  ranges := [
    2304, 2385, 2389, 2404, 2406, 2432, 43232, 43264, 72448, 72458]

/-- The script Dives Akuru. -/
def divesakuruScript : Script where
  names := ["diak", "divesakuru"]
  ranges := [
    71936, 71943, 71945, 71946, 71948, 71956, 71957, 71959, 71960, 71990, 71991, 71993, 71995,
    72007, 72016, 72026]

/-- The script Dogra. -/
def dograScript : Script where
  names := ["dogr", "dogra"]
  ranges := [
    71680, 71740]

/-- The script Deseret. -/
def deseretScript : Script where
  names := ["dsrt", "deseret"]
  ranges := [
    66560, 66640]

/-- The script Duployan. -/
def duployanScript : Script where
  names := ["dupl", "duployan"]
  ranges := [
    113664, 113771, 113776, 113789, 113792, 113801, 113808, 113818, 113820, 113824]

/-- The script Egyptian Hieroglyphs. -/
def egyptianhieroglyphsScript : Script where
  names := ["egyp", "egyptianhieroglyphs"]
  ranges := [
    77824, 78934]

/-- The script Elbasan. -/
def elbasanScript : Script where
  names := ["elba", "elbasan"]
  ranges := [
    66816, 66856]

/-- The script Elymaic. -/
def elymaicScript : Script where
  names := ["elym", "elymaic"]
  ranges := [
    69600, 69623]

/-- The script Ethiopic. -/
def ethiopicScript : Script where
  names := ["ethi", "ethiopic"]
  ranges := [
    4608, 4681, 4682, 4686, 4688, 4695, 4696, 4697, 4698, 4702, 4704, 4745, 4746, 4750, 4752,
    4785, 4786, 4790, 4792, 4799, 4800, 4801, 4802, 4806, 4808, 4823, 4824, 4881, 4882, 4886,
    4888, 4955, 4957, 4989, 4992, 5018, 11648, 11671, 11680, 11687, 11688, 11695, 11696, 11703,
    11704, 11711, 11712, 11719, 11720, 11727, 11728, 11735, 11736, 11743, 43777, 43783, 43785,
    43791, 43793, 43799, 43808, 43815, 43816, 43823, 124896, 124903, 124904, 124908, 124909,
    124911, 124912, 124927]

/-- The script Georgian. -/
def georgianScript : Script where
  names := ["geor", "georgian"]
  ranges := [
    4256, 4294, 4295, 4296, 4301, 4302, 4304, 4347, 4348, 4352, 7312, 7355, 7357, 7360, 11520,
    11558, 11559, 11560, 11565, 11566]

/-- The script Glagolitic. -/
def glagoliticScript : Script where
  names := ["glag", "glagolitic"]
  ranges := [
    11264, 11360, 122880, 122887, 122888, 122905, 122907, 122914, 122915, 122917, 122918, 122923]

/-- The script Gunjala Gondi. -/
def gunjalagondiScript : Script where
  names := ["gong", "gunjalagondi"]
  ranges := [
    73056, 73062, 73063, 73065, 73066, 73103, 73104, 73106, 73107, 73113, 73120, 73130]

/-- The script Masaram Gondi. -/
def masaramgondiScript : Script where
  names := ["gonm", "masaramgondi"]
  ranges := [
    72960, 72967, 72968, 72970, 72971, 73015, 73018, 73019, 73020, 73022, 73023, 73032, 73040,
    73050]

/-- The script Gothic. -/
def gothicScript : Script where
  names := ["goth", "gothic"]
  ranges := [
    66352, 66379]

/-- The script Grantha. -/
def granthaScript : Script where
  names := ["gran", "grantha"]
  ranges := [
    70400, 70404, 70405, 70413, 70415, 70417, 70419, 70441, 70442, 70449, 70450, 70452, 70453,
    70458, 70460, 70469, 70471, 70473, 70475, 70478, 70480, 70481, 70487, 70488, 70493, 70500,
    70502, 70509, 70512, 70517]

/-- The script Greek. -/
def greekScript : Script where
  names := ["grek", "greek"]
  ranges := [
    880, 884, 885, 888, 890, 894, 895, 896, 900, 901, 902, 903, 904, 907, 908, 909, 910, 930,
    931, 994, 1008, 1024, 7462, 7467, 7517, 7522, 7526, 7531, 7615, 7616, 7936, 7958, 7960, 7966,
    7968, 8006, 8008, 8014, 8016, 8024, 8025, 8026, 8027, 8028, 8029, 8030, 8031, 8062, 8064,
    8117, 8118, 8133, 8134, 8148, 8150, 8156, 8157, 8176, 8178, 8181, 8182, 8191, 8486, 8487,
    43877, 43878, 65856, 65935, 65952, 65953, 119296, 119366]

/-- The script Gujarati. -/
def gujaratiScript : Script where
  names := ["gujr", "gujarati"]
  ranges := [
    2689, 2692, 2693, 2702, 2703, 2706, 2707, 2729, 2730, 2737, 2738, 2740, 2741, 2746, 2748,
    2758, 2759, 2762, 2763, 2766, 2768, 2769, 2784, 2788, 2790, 2802, 2809, 2816]

/-- The script Gurmukhi. -/
def gurmukhiScript : Script where
  names := ["guru", "gurmukhi"]
  ranges := [
    2561, 2564, 2565, 2571, 2575, 2577, 2579, 2601, 2602, 2609, 2610, 2612, 2613, 2615, 2616,
    2618, 2620, 2621, 2622, 2627, 2631, 2633, 2635, 2638, 2641, 2642, 2649, 2653, 2654, 2655,
    2662, 2679]

/-- The script Hangul. -/
def hangulScript : Script where
  names := ["hang", "hangul"]
  ranges := [
    4352, 4608, 12334, 12336, 12593, 12687, 12800, 12831, 12896, 12927, 43360, 43389, 44032,
    55204, 55216, 55239, 55243, 55292, 65440, 65471, 65474, 65480, 65482, 65488, 65490, 65496,
    65498, 65501]

/-- The script Hani. -/
def haniScript : Script where
  names := ["hani", "han"]
  ranges := [
    11904, 11930, 11931, 12020, 12032, 12246, 12293, 12294, 12295, 12296, 12321, 12330, 12344,
    12348, 13312, 19904, 19968, 40960, 63744, 64110, 64112, 64218, 94178, 94180, 94192, 94194,
    131072, 173792, 173824, 177978, 177984, 178206, 178208, 183970, 183984, 191457, 194560,
    195102, 196608, 201547, 201552, 205744]

/-- The script Hanunoo. -/
def hanunooScript : Script where
  names := ["hano", "hanunoo"]
  ranges := [
    5920, 5941]

/-- The script Hatran. -/
def hatranScript : Script where
  names := ["hatr", "hatran"]
  ranges := [
    67808, 67827, 67828, 67830, 67835, 67840]

/-- The script Hebrew. -/
def hebrewScript : Script where
  names := ["hebr", "hebrew"]
  ranges := [
    1425, 1480, 1488, 1515, 1519, 1525, 64285, 64311, 64312, 64317, 64318, 64319, 64320, 64322,
    64323, 64325, 64326, 64336]

/-- The script Hiragana. -/
def hiraganaScript : Script where
  names := ["hira", "hiragana"]
  ranges := [
    12353, 12439, 12445, 12448, 110593, 110880, 110898, 110899, 110928, 110931, 127488, 127489]

/-- The script Anatolian Hieroglyphs. -/
def anatolianhieroglyphsScript : Script where
  names := ["hluw", "anatolianhieroglyphs"]
  ranges := [
    82944, 83527]

/-- The script Pahawh Hmong. -/
def pahawhhmongScript : Script where
  names := ["hmng", "pahawhhmong"]
  ranges := [
    92928, 92998, 93008, 93018, 93019, 93026, 93027, 93048, 93053, 93072]

/-- The script Nyiakeng Puachue Hmong. -/
def nyiakengpuachuehmongScript : Script where
  names := ["hmnp", "nyiakengpuachuehmong"]
  ranges := [
    123136, 123181, 123184, 123198, 123200, 123210, 123214, 123216]

/-- The script Old Hungarian. -/
def oldhungarianScript : Script where
  names := ["hung", "oldhungarian"]
  ranges := [
    68736, 68787, 68800, 68851, 68858, 68864]

/-- The script Old Italic. -/
def olditalicScript : Script where
  names := ["ital", "olditalic"]
  ranges := [
    66304, 66340, 66349, 66352]

/-- The script Javanese. -/
def javaneseScript : Script where
  names := ["java", "javanese"]
  ranges := [
    43392, 43470, 43472, 43482, 43486, 43488]

/-- The script Kayah Li. -/
def kayahliScript : Script where
  names := ["kali", "kayahli"]
  ranges := [
    43264, 43310, 43311, 43312]

/-- The script Katakana. -/
def katakanaScript : Script where
  names := ["kana", "katakana"]
  ranges := [
    12449, 12539, 12541, 12544, 12784, 12800, 13008, 13055, 13056, 13144, 65382, 65392, 65393,
    65438, 110576, 110580, 110581, 110588, 110589, 110591, 110592, 110593, 110880, 110883,
    110933, 110934, 110948, 110952]

/-- The script Kawi. -/
def kawiScript : Script where
  names := ["kawi"]
  ranges := [
    73472, 73489, 73490, 73531, 73534, 73562]

/-- The script Kharoshthi. -/
def kharoshthiScript : Script where
  names := ["khar", "kharoshthi"]
  ranges := [
    68096, 68100, 68101, 68103, 68108, 68116, 68117, 68120, 68121, 68150, 68152, 68155, 68159,
    68169, 68176, 68185]

/-- The script Khmer. -/
def khmerScript : Script where
  names := ["khmr", "khmer"]
  ranges := [
    6016, 6110, 6112, 6122, 6128, 6138, 6624, 6656]

/-- The script Khojki. -/
def khojkiScript : Script where
  names := ["khoj", "khojki"]
  ranges := [
    70144, 70162, 70163, 70210]

/-- The script Khitan Small Script. -/
def khitansmallscriptScript : Script where
  names := ["kits", "khitansmallscript"]
  ranges := [
    94180, 94181, 101120, 101590]

/-- The script Kannada. -/
def kannadaScript : Script where
  names := ["knda", "kannada"]
  ranges := [
    3200, 3213, 3214, 3217, 3218, 3241, 3242, 3252, 3253, 3258, 3260, 3269, 3270, 3273, 3274,
    3278, 3285, 3287, 3293, 3295, 3296, 3300, 3302, 3312, 3313, 3316]

/-- The script Kaithi. -/
def kaithiScript : Script where
  names := ["kthi", "kaithi"]
  ranges := [
    69760, 69827, 69837, 69838]

/-- The script Tai Tham. -/
def taithamScript : Script where
  names := ["lana", "taitham"]
  ranges := [
    6688, 6751, 6752, 6781, 6783, 6794, 6800, 6810, 6816, 6830]

/-- The script Laoo. -/
def laooScript : Script where
  names := ["laoo", "lao"]
  ranges := [
    3713, 3715, 3716, 3717, 3718, 3723, 3724, 3748, 3749, 3750, 3751, 3774, 3776, 3781, 3782,
    3783, 3784, 3791, 3792, 3802, 3804, 3808]

/-- The script Latin. -/
def latinScript : Script where
  names := ["latn", "latin"]
  ranges := [
    65, 91, 97, 123, 170, 171, 186, 187, 192, 215, 216, 247, 248, 697, 736, 741, 7424, 7462,
    7468, 7517, 7522, 7526, 7531, 7544, 7545, 7615, 7680, 7936, 8305, 8306, 8319, 8320, 8336,
    8349, 8490, 8492, 8498, 8499, 8526, 8527, 8544, 8585, 11360, 11392, 42786, 42888, 42891,
    42955, 42960, 42962, 42963, 42964, 42965, 42970, 42994, 43008, 43824, 43867, 43868, 43877,
    43878, 43882, 64256, 64263, 65313, 65339, 65345, 65371, 67456, 67462, 67463, 67505, 67506,
    67515, 122624, 122655, 122661, 122667]

/-- The script Lepcha. -/
def lepchaScript : Script where
  names := ["lepc", "lepcha"]
  ranges := [
    7168, 7224, 7227, 7242, 7245, 7248]

/-- The script Limbu. -/
def limbuScript : Script where
  names := ["limb", "limbu"]
  ranges := [
    6400, 6431, 6432, 6444, 6448, 6460, 6464, 6465, 6468, 6480]

/-- The script Linear A. -/
def linearaScript : Script where
  names := ["lina", "lineara"]
  ranges := [
    67072, 67383, 67392, 67414, 67424, 67432]

/-- The script Linear B. -/
def linearbScript : Script where
  names := ["linb", "linearb"]
  ranges := [
    65536, 65548, 65549, 65575, 65576, 65595, 65596, 65598, 65599, 65614, 65616, 65630, 65664,
    65787]

/-- The script Lisu. -/
def lisuScript : Script where
  names := ["lisu"]
  ranges := [
    42192, 42240, 73648, 73649]

/-- The script Lycian. -/
def lycianScript : Script where
  names := ["lyci", "lycian"]
  ranges := [
    66176, 66205]

/-- The script Lydian. -/
def lydianScript : Script where
  names := ["lydi", "lydian"]
  ranges := [
    67872, 67898, 67903, 67904]

/-- The script Mahajani. -/
def mahajaniScript : Script where
  names := ["mahj", "mahajani"]
  ranges := [
    69968, 70007]

/-- The script Makasar. -/
def makasarScript : Script where
  names := ["maka", "makasar"]
  ranges := [
    73440, 73465]

/-- The script Mandaic. -/
def mandaicScript : Script where
  names := ["mand", "mandaic"]
  ranges := [
    2112, 2140, 2142, 2143]

/-- The script Manichaean. -/
def manichaeanScript : Script where
  names := ["mani", "manichaean"]
  ranges := [
    68288, 68327, 68331, 68343]

/-- The script Marchen. -/
def marchenScript : Script where
  names := ["marc", "marchen"]
  ranges := [
    72816, 72848, 72850, 72872, 72873, 72887]

/-- The script Medefaidrin. -/
def medefaidrinScript : Script where
  names := ["medf", "medefaidrin"]
  ranges := [
    93760, 93851]

/-- The script Mende Kikakui. -/
def mendekikakuiScript : Script where
  names := ["mend", "mendekikakui"]
  ranges := [
    124928, 125125, 125127, 125143]

/-- The script Meroitic Cursive. -/
def meroiticcursiveScript : Script where
  names := ["merc", "meroiticcursive"]
  ranges := [
    68000, 68024, 68028, 68048, 68050, 68096]

/-- The script Meroitic Hieroglyphs. -/
def meroitichieroglyphsScript : Script where
  names := ["mero", "meroitichieroglyphs"]
  ranges := [
    67968, 68000]

/-- The script Malayalam. -/
def malayalamScript : Script where
  names := ["mlym", "malayalam"]
  ranges := [
    3328, 3341, 3342, 3345, 3346, 3397, 3398, 3401, 3402, 3408, 3412, 3428, 3430, 3456]

/-- The script Modi. -/
def modiScript : Script where
  names := ["modi"]
  ranges := [
    71168, 71237, 71248, 71258]

/-- The script Mongolian. -/
def mongolianScript : Script where
  names := ["mong", "mongolian"]
  ranges := [
    6144, 6146, 6148, 6149, 6150, 6170, 6176, 6265, 6272, 6315, 71264, 71277]

/-- The script Mroo. -/
def mrooScript : Script where
  names := ["mroo", "mro"]
  ranges := [
    92736, 92767, 92768, 92778, 92782, 92784]

/-- The script Meetei Mayek. -/
def meeteimayekScript : Script where
  names := ["mtei", "meeteimayek"]
  ranges := [
    43744, 43767, 43968, 44014, 44016, 44026]

/-- The script Multani. -/
def multaniScript : Script where
  names := ["mult", "multani"]
  ranges := [
    70272, 70279, 70280, 70281, 70282, 70286, 70287, 70302, 70303, 70314]

/-- The script Myanmar. -/
def myanmarScript : Script where
  names := ["mymr", "myanmar"]
  ranges := [
    4096, 4256, 43488, 43519, 43616, 43648]

/-- The script Nag Mundari. -/
def nagmundariScript : Script where
  names := ["nagm", "nagmundari"]
  ranges := [
    124112, 124154]

/-- The script Nandinagari. -/
def nandinagariScript : Script where
  names := ["nand", "nandinagari"]
  ranges := [
    72096, 72104, 72106, 72152, 72154, 72165]

/-- The script Old North Arabian. -/
def oldnortharabianScript : Script where
  names := ["narb", "oldnortharabian"]
  ranges := [
    68224, 68256]

/-- The script Nabataean. -/
def nabataeanScript : Script where
  names := ["nbat", "nabataean"]
  ranges := [
    67712, 67743, 67751, 67760]

/-- The script Newa. -/
def newaScript : Script where
  names := ["newa"]
  ranges := [
    70656, 70748, 70749, 70754]

/-- The script Nkoo. -/
def nkooScript : Script where
  names := ["nkoo", "nko"]
  ranges := [
    1984, 2043, 2045, 2048]

/-- The script Nushu. -/
def nushuScript : Script where
  names := ["nshu", "nushu"]
  ranges := [
    94177, 94178, 110960, 111356]

/-- The script Ogham. -/
def oghamScript : Script where
  names := ["ogam", "ogham"]
  ranges := [
    5760, 5789]

/-- The script Ol Chiki. -/
def olchikiScript : Script where
  names := ["olck", "olchiki"]
  ranges := [
    7248, 7296]

/-- The script Old Turkic. -/
def oldturkicScript : Script where
  names := ["orkh", "oldturkic"]
  ranges := [
    68608, 68681]

/-- The script Oriya. -/
def oriyaScript : Script where
  names := ["orya", "oriya"]
  ranges := [
    2817, 2820, 2821, 2829, 2831, 2833, 2835, 2857, 2858, 2865, 2866, 2868, 2869, 2874, 2876,
    2885, 2887, 2889, 2891, 2894, 2901, 2904, 2908, 2910, 2911, 2916, 2918, 2936]

/-- The script Osage. -/
def osageScript : Script where
  names := ["osge", "osage"]
  ranges := [
    66736, 66772, 66776, 66812]

/-- The script Osmanya. -/
def osmanyaScript : Script where
  names := ["osma", "osmanya"]
  ranges := [
    66688, 66718, 66720, 66730]

/-- The script Old Uyghur. -/
def olduyghurScript : Script where
  names := ["ougr", "olduyghur"]
  ranges := [
    69488, 69514]

/-- The script Palmyrene. -/
def palmyreneScript : Script where
  names := ["palm", "palmyrene"]
  ranges := [
    67680, 67712]

/-- The script Pau Cin Hau. -/
def paucinhauScript : Script where
  names := ["pauc", "paucinhau"]
  ranges := [
    72384, 72441]

/-- The script Old Permic. -/
def oldpermicScript : Script where
  names := ["perm", "oldpermic"]
  ranges := [
    66384, 66427]

/-- The script Phags Pa. -/
def phagspaScript : Script where
  names := ["phag", "phagspa"]
  ranges := [
    43072, 43128]

/-- The script Inscriptional Pahlavi. -/
def inscriptionalpahlaviScript : Script where
  names := ["phli", "inscriptionalpahlavi"]
  ranges := [
    68448, 68467, 68472, 68480]

/-- The script Psalter Pahlavi. -/
def psalterpahlaviScript : Script where
  names := ["phlp", "psalterpahlavi"]
  ranges := [
    68480, 68498, 68505, 68509, 68521, 68528]

/-- The script Phoenician. -/
def phoenicianScript : Script where
  names := ["phnx", "phoenician"]
  ranges := [
    67840, 67868, 67871, 67872]

/-- The script Plrd. -/
def plrdScript : Script where
  names := ["plrd", "miao"]
  ranges := [
    93952, 94027, 94031, 94088, 94095, 94112]

/-- The script Inscriptional Parthian. -/
def inscriptionalparthianScript : Script where
  names := ["prti", "inscriptionalparthian"]
  ranges := [
    68416, 68438, 68440, 68448]

/-- The script Rejang. -/
def rejangScript : Script where
  names := ["rjng", "rejang"]
  ranges := [
    43312, 43348, 43359, 43360]

/-- The script Hanifi Rohingya. -/
def hanifirohingyaScript : Script where
  names := ["rohg", "hanifirohingya"]
  ranges := [
    68864, 68904, 68912, 68922]

/-- The script Runic. -/
def runicScript : Script where
  names := ["runr", "runic"]
  ranges := [
    5792, 5867, 5870, 5881]

/-- The script Samaritan. -/
def samaritanScript : Script where
  names := ["samr", "samaritan"]
  ranges := [
    2048, 2094, 2096, 2111]

/-- The script Old South Arabian. -/
def oldsoutharabianScript : Script where
  names := ["sarb", "oldsoutharabian"]
  ranges := [
    68192, 68224]

/-- The script Saurashtra. -/
def saurashtraScript : Script where
  names := ["saur", "saurashtra"]
  ranges := [
    43136, 43206, 43214, 43226]

/-- The script SignWriting. -/
def signwritingScript : Script where
  names := ["sgnw", "signwriting"]
  ranges := [
    120832, 121484, 121499, 121504, 121505, 121520]

/-- The script Shavian. -/
def shavianScript : Script where
  names := ["shaw", "shavian"]
  ranges := [
    66640, 66688]

/-- The script Sharada. -/
def sharadaScript : Script where
  names := ["shrd", "sharada"]
  ranges := [
    70016, 70112]

/-- The script Siddham. -/
def siddhamScript : Script where
  names := ["sidd", "siddham"]
  ranges := [
    71040, 71094, 71096, 71134]

/-- The script Khudawadi. -/
def khudawadiScript : Script where
  names := ["sind", "khudawadi"]
  ranges := [
    70320, 70379, 70384, 70394]

/-- The script Sinhala. -/
def sinhalaScript : Script where
  names := ["sinh", "sinhala"]
  ranges := [
    3457, 3460, 3461, 3479, 3482, 3506, 3507, 3516, 3517, 3518, 3520, 3527, 3530, 3531, 3535,
    3541, 3542, 3543, 3544, 3552, 3558, 3568, 3570, 3573, 70113, 70133]

/-- The script Sogdian. -/
def sogdianScript : Script where
  names := ["sogd", "sogdian"]
  ranges := [
    69424, 69466]

/-- The script Old Sogdian. -/
def oldsogdianScript : Script where
  names := ["sogo", "oldsogdian"]
  ranges := [
    69376, 69416]

/-- The script Sora Sompeng. -/
def sorasompengScript : Script where
  names := ["sora", "sorasompeng"]
  ranges := [
    69840, 69865, 69872, 69882]

/-- The script Soyombo. -/
def soyomboScript : Script where
  names := ["soyo", "soyombo"]
  ranges := [
    72272, 72355]

/-- The script Sundanese. -/
def sundaneseScript : Script where
  names := ["sund", "sundanese"]
  ranges := [
    7040, 7104, 7360, 7368]

/-- The script Syloti Nagri. -/
def sylotinagriScript : Script where
  names := ["sylo", "sylotinagri"]
  ranges := [
    43008, 43053]

/-- The script Syriac. -/
def syriacScript : Script where
  names := ["syrc", "syriac"]
  ranges := [
    1792, 1806, 1807, 1867, 1869, 1872, 2144, 2155]

/-- The script Tagbanwa. -/
def tagbanwaScript : Script where
  names := ["tagb", "tagbanwa"]
  ranges := [
    5984, 5997, 5998, 6001, 6002, 6004]

/-- The script Takri. -/
def takriScript : Script where
  names := ["takr", "takri"]
  ranges := [
    71296, 71354, 71360, 71370]

/-- The script Tai Le. -/
def taileScript : Script where
  names := ["tale", "taile"]
  ranges := [
    6480, 6510, 6512, 6517]

/-- The script New Tai Lue. -/
def newtailueScript : Script where
  names := ["talu", "newtailue"]
  ranges := [
    6528, 6572, 6576, 6602, 6608, 6619, 6622, 6624]

/-- The script Tamil. -/
def tamilScript : Script where
  names := ["taml", "tamil"]
  ranges := [
    2946, 2948, 2949, 2955, 2958, 2961, 2962, 2966, 2969, 2971, 2972, 2973, 2974, 2976, 2979,
    2981, 2984, 2987, 2990, 3002, 3006, 3011, 3014, 3017, 3018, 3022, 3024, 3025, 3031, 3032,
    3046, 3067, 73664, 73714, 73727, 73728]

/-- The script Tangut. -/
def tangutScript : Script where
  names := ["tang", "tangut"]
  ranges := [
    94176, 94177, 94208, 100344, 100352, 101120, 101632, 101641]

/-- The script Tai Viet. -/
def taivietScript : Script where
  names := ["tavt", "taiviet"]
  ranges := [
    43648, 43715, 43739, 43744]

/-- The script Telugu. -/
def teluguScript : Script where
  names := ["telu", "telugu"]
  ranges := [
    3072, 3085, 3086, 3089, 3090, 3113, 3114, 3130, 3132, 3141, 3142, 3145, 3146, 3150, 3157,
    3159, 3160, 3163, 3165, 3166, 3168, 3172, 3174, 3184, 3191, 3200]

/-- The script Tifinagh. -/
def tifinaghScript : Script where
  names := ["tfng", "tifinagh"]
  ranges := [
    11568, 11624, 11631, 11633, 11647, 11648]

/-- The script Tagalog. -/
def tagalogScript : Script where
  names := ["tglg", "tagalog"]
  ranges := [
    5888, 5910, 5919, 5920]

/-- The script Thaana. -/
def thaanaScript : Script where
  names := ["thaa", "thaana"]
  ranges := [
    1920, 1970]

/-- The script Thai. -/
def thaiScript : Script where
  names := ["thai"]
  ranges := [
    3585, 3643, 3648, 3676]

/-- The script Tibetan. -/
def tibetanScript : Script where
  names := ["tibt", "tibetan"]
  ranges := [
    3840, 3912, 3913, 3949, 3953, 3992, 3993, 4029, 4030, 4045, 4046, 4053, 4057, 4059]

/-- The script Tirhuta. -/
def tirhutaScript : Script where
  names := ["tirh", "tirhuta"]
  ranges := [
    70784, 70856, 70864, 70874]

/-- The script Tangsa. -/
def tangsaScript : Script where
  names := ["tnsa", "tangsa"]
  ranges := [
    92784, 92863, 92864, 92874]

/-- The script Toto. -/
def totoScript : Script where
  names := ["toto"]
  ranges := [
    123536, 123567]

/-- The script Ugaritic. -/
def ugariticScript : Script where
  names := ["ugar", "ugaritic"]
  ranges := [
    66432, 66462, 66463, 66464]

/-- The script Vaii. -/
def vaiiScript : Script where
  names := ["vaii", "vai"]
  ranges := [
    42240, 42540]

/-- The script Vithkuqi. -/
def vithkuqiScript : Script where
  names := ["vith", "vithkuqi"]
  ranges := [
    66928, 66939, 66940, 66955, 66956, 66963, 66964, 66966, 66967, 66978, 66979, 66994, 66995,
    67002, 67003, 67005]

/-- The script Warang Citi. -/
def warangcitiScript : Script where
  names := ["wara", "warangciti"]
  ranges := [
    71840, 71923, 71935, 71936]

/-- The script Wancho. -/
def wanchoScript : Script where
  names := ["wcho", "wancho"]
  ranges := [
    123584, 123642, 123647, 123648]

/-- The script Old Persian. -/
def oldpersianScript : Script where
  names := ["xpeo", "oldpersian"]
  ranges := [
    66464, 66500, 66504, 66518]

/-- The script Cuneiform. -/
def cuneiformScript : Script where
  names := ["xsux", "cuneiform"]
  ranges := [
    73728, 74650, 74752, 74863, 74864, 74869, 74880, 75076]

/-- The script Yezidi. -/
def yezidiScript : Script where
  names := ["yezi", "yezidi"]
  ranges := [
    69248, 69290, 69291, 69294, 69296, 69298]

/-- The script Yiii. -/
def yiiiScript : Script where
  names := ["yiii", "yi"]
  ranges := [
    40960, 42125, 42128, 42183]

/-- The script Zanabazar Square. -/
def zanabazarsquareScript : Script where
  names := ["zanb", "zanabazarsquare"]
  ranges := [
    72192, 72264]

/-- The script Inherited. -/
def inheritedScript : Script where
  names := ["zinh", "inherited", "qaai"]
  ranges := [
    768, 880, 1157, 1159, 1611, 1622, 1648, 1649, 2385, 2389, 6832, 6863, 7376, 7379, 7380, 7393,
    7394, 7401, 7405, 7406, 7412, 7413, 7416, 7418, 7616, 7680, 8204, 8206, 8400, 8433, 12330,
    12334, 12441, 12443, 65024, 65040, 65056, 65070, 66045, 66046, 66272, 66273, 70459, 70460,
    118528, 118574, 118576, 118599, 119143, 119146, 119163, 119171, 119173, 119180, 119210,
    119214, 917760, 918000]

/-- The script Common. -/
def commonScript : Script where
  names := ["zyyy", "common"]
  ranges := [
    0, 65, 91, 97, 123, 170, 171, 186, 187, 192, 215, 216, 247, 248, 697, 736, 741, 746, 748,
    768, 884, 885, 894, 895, 901, 902, 903, 904, 1541, 1542, 1548, 1549, 1563, 1564, 1567, 1568,
    1600, 1601, 1757, 1758, 2274, 2275, 2404, 2406, 3647, 3648, 4053, 4057, 4347, 4348, 5867,
    5870, 5941, 5943, 6146, 6148, 6149, 6150, 7379, 7380, 7393, 7394, 7401, 7405, 7406, 7412,
    7413, 7416, 7418, 7419, 8192, 8204, 8206, 8293, 8294, 8305, 8308, 8319, 8320, 8335, 8352,
    8385, 8448, 8486, 8487, 8490, 8492, 8498, 8499, 8526, 8527, 8544, 8585, 8588, 8592, 9255,
    9280, 9291, 9312, 10240, 10496, 11124, 11126, 11158, 11159, 11264, 11776, 11870, 12272,
    12284, 12288, 12293, 12294, 12295, 12296, 12321, 12336, 12344, 12348, 12352, 12443, 12445,
    12448, 12449, 12539, 12541, 12688, 12704, 12736, 12772, 12832, 12896, 12927, 13008, 13055,
    13056, 13144, 13312, 19904, 19968, 42752, 42786, 42888, 42891, 43056, 43066, 43310, 43311,
    43471, 43472, 43867, 43868, 43882, 43884, 64830, 64832, 65040, 65050, 65072, 65107, 65108,
    65127, 65128, 65132, 65279, 65280, 65281, 65313, 65339, 65345, 65371, 65382, 65392, 65393,
    65438, 65440, 65504, 65511, 65512, 65519, 65529, 65534, 65792, 65795, 65799, 65844, 65847,
    65856, 65936, 65949, 66000, 66045, 66273, 66300, 113824, 113828, 118608, 118724, 118784,
    119030, 119040, 119079, 119081, 119143, 119146, 119163, 119171, 119173, 119180, 119210,
    119214, 119275, 119488, 119508, 119520, 119540, 119552, 119639, 119648, 119673, 119808,
    119893, 119894, 119965, 119966, 119968, 119970, 119971, 119973, 119975, 119977, 119981,
    119982, 119994, 119995, 119996, 119997, 120004, 120005, 120070, 120071, 120075, 120077,
    120085, 120086, 120093, 120094, 120122, 120123, 120127, 120128, 120133, 120134, 120135,
    120138, 120145, 120146, 120486, 120488, 120780, 120782, 120832, 126065, 126133, 126209,
    126270, 126976, 127020, 127024, 127124, 127136, 127151, 127153, 127168, 127169, 127184,
    127185, 127222, 127232, 127406, 127462, 127488, 127489, 127491, 127504, 127548, 127552,
    127561, 127568, 127570, 127584, 127590, 127744, 128728, 128732, 128749, 128752, 128765,
    128768, 128887, 128891, 128986, 128992, 129004, 129008, 129009, 129024, 129036, 129040,
    129096, 129104, 129114, 129120, 129160, 129168, 129198, 129200, 129202, 129280, 129620,
    129632, 129646, 129648, 129661, 129664, 129673, 129680, 129726, 129727, 129734, 129742,
    129756, 129760, 129769, 129776, 129785, 129792, 129939, 129940, 129995, 130032, 130042,
    917505, 917506, 917536, 917632]

/-- Every script. -/
def all : List Script :=
  [
    adlamScript, caucasianalbanianScript, ahomScript, arabicScript, imperialaramaicScript,
    armenianScript, avestanScript, balineseScript, bamumScript, bassavahScript, batakScript,
    bengaliScript, bhaiksukiScript, bopomofoScript, brahmiScript, brailleScript, bugineseScript,
    buhidScript, chakmaScript, canadianaboriginalScript, carianScript, chamScript,
    cherokeeScript, chorasmianScript, copticScript, cyprominoanScript, cypriotScript,
    cyrillicScript, devanagariScript, divesakuruScript, dograScript, deseretScript,
    duployanScript, egyptianhieroglyphsScript, elbasanScript, elymaicScript, ethiopicScript,
    georgianScript, glagoliticScript, gunjalagondiScript, masaramgondiScript, gothicScript,
    granthaScript, greekScript, gujaratiScript, gurmukhiScript, hangulScript, haniScript,
    hanunooScript, hatranScript, hebrewScript, hiraganaScript, anatolianhieroglyphsScript,
    pahawhhmongScript, nyiakengpuachuehmongScript, oldhungarianScript, olditalicScript,
    javaneseScript, kayahliScript, katakanaScript, kawiScript, kharoshthiScript, khmerScript,
    khojkiScript, khitansmallscriptScript, kannadaScript, kaithiScript, taithamScript,
    laooScript, latinScript, lepchaScript, limbuScript, linearaScript, linearbScript, lisuScript,
    lycianScript, lydianScript, mahajaniScript, makasarScript, mandaicScript, manichaeanScript,
    marchenScript, medefaidrinScript, mendekikakuiScript, meroiticcursiveScript,
    meroitichieroglyphsScript, malayalamScript, modiScript, mongolianScript, mrooScript,
    meeteimayekScript, multaniScript, myanmarScript, nagmundariScript, nandinagariScript,
    oldnortharabianScript, nabataeanScript, newaScript, nkooScript, nushuScript, oghamScript,
    olchikiScript, oldturkicScript, oriyaScript, osageScript, osmanyaScript, olduyghurScript,
    palmyreneScript, paucinhauScript, oldpermicScript, phagspaScript, inscriptionalpahlaviScript,
    psalterpahlaviScript, phoenicianScript, plrdScript, inscriptionalparthianScript,
    rejangScript, hanifirohingyaScript, runicScript, samaritanScript, oldsoutharabianScript,
    saurashtraScript, signwritingScript, shavianScript, sharadaScript, siddhamScript,
    khudawadiScript, sinhalaScript, sogdianScript, oldsogdianScript, sorasompengScript,
    soyomboScript, sundaneseScript, sylotinagriScript, syriacScript, tagbanwaScript, takriScript,
    taileScript, newtailueScript, tamilScript, tangutScript, taivietScript, teluguScript,
    tifinaghScript, tagalogScript, thaanaScript, thaiScript, tibetanScript, tirhutaScript,
    tangsaScript, totoScript, ugariticScript, vaiiScript, vithkuqiScript, warangcitiScript,
    wanchoScript, oldpersianScript, cuneiformScript, yezidiScript, yiiiScript,
    zanabazarsquareScript, inheritedScript, commonScript]

/-- The script of this name, written in small letters without separators. -/
def named? (name : String) : Option Script := all.find? (fun s => s.names.contains name)

end Script

end Rampart.Unicode
