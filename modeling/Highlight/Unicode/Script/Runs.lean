/-!
# `Highlight.Unicode.Script.Runs`: the script of every code point

The code space is cut into maximal runs of one script. A run names its script by the
position of that script in `Script.names`, which lists every script under its long and its
short name, both written in lower case without separators. The scripts are those of Unicode 16.0.
-/

set_option autoImplicit false

namespace Highlight.Unicode.Script

/-- The names of each script, by position. -/
def names : Array (List String) := #[
  ["common", "zyyy"], ["latin", "latn"], ["bopomofo", "bopo"],
  ["inherited", "zinh", "qaai"], ["greek", "grek"], ["unknown", "zzzz"],
  ["coptic", "copt", "qaac"], ["cyrillic", "cyrl"], ["armenian", "armn"],
  ["hebrew", "hebr"], ["arabic", "arab"], ["syriac", "syrc"],
  ["thaana", "thaa"], ["nko", "nkoo"], ["samaritan", "samr"],
  ["mandaic", "mand"], ["devanagari", "deva"], ["bengali", "beng"],
  ["gurmukhi", "guru"], ["gujarati", "gujr"], ["oriya", "orya"],
  ["tamil", "taml"], ["telugu", "telu"], ["kannada", "knda"],
  ["malayalam", "mlym"], ["sinhala", "sinh"], ["thai"],
  ["lao", "laoo"], ["tibetan", "tibt"], ["myanmar", "mymr"],
  ["georgian", "geor"], ["hangul", "hang"], ["ethiopic", "ethi"],
  ["cherokee", "cher"], ["canadianaboriginal", "cans"], ["ogham", "ogam"],
  ["runic", "runr"], ["tagalog", "tglg"], ["hanunoo", "hano"],
  ["buhid", "buhd"], ["tagbanwa", "tagb"], ["khmer", "khmr"],
  ["mongolian", "mong"], ["limbu", "limb"], ["taile", "tale"],
  ["newtailue", "talu"], ["buginese", "bugi"], ["taitham", "lana"],
  ["balinese", "bali"], ["sundanese", "sund"], ["batak", "batk"],
  ["lepcha", "lepc"], ["olchiki", "olck"], ["braille", "brai"],
  ["glagolitic", "glag"], ["tifinagh", "tfng"], ["han", "hani"],
  ["hiragana", "hira"], ["katakana", "kana"], ["yi", "yiii"],
  ["lisu"], ["vai", "vaii"], ["bamum", "bamu"],
  ["sylotinagri", "sylo"], ["phagspa", "phag"], ["saurashtra", "saur"],
  ["kayahli", "kali"], ["rejang", "rjng"], ["javanese", "java"],
  ["cham"], ["taiviet", "tavt"], ["meeteimayek", "mtei"],
  ["linearb", "linb"], ["lycian", "lyci"], ["carian", "cari"],
  ["olditalic", "ital"], ["gothic", "goth"], ["oldpermic", "perm"],
  ["ugaritic", "ugar"], ["oldpersian", "xpeo"], ["deseret", "dsrt"],
  ["shavian", "shaw"], ["osmanya", "osma"], ["osage", "osge"],
  ["elbasan", "elba"], ["caucasianalbanian", "aghb"], ["vithkuqi", "vith"],
  ["lineara", "lina"], ["cypriot", "cprt"], ["imperialaramaic", "armi"],
  ["palmyrene", "palm"], ["nabataean", "nbat"], ["hatran", "hatr"],
  ["phoenician", "phnx"], ["lydian", "lydi"], ["meroitichieroglyphs", "mero"],
  ["meroiticcursive", "merc"], ["kharoshthi", "khar"], ["oldsoutharabian", "sarb"],
  ["oldnortharabian", "narb"], ["manichaean", "mani"], ["avestan", "avst"],
  ["inscriptionalparthian", "prti"], ["inscriptionalpahlavi", "phli"], ["psalterpahlavi", "phlp"],
  ["oldturkic", "orkh"], ["oldhungarian", "hung"], ["hanifirohingya", "rohg"],
  ["yezidi", "yezi"], ["oldsogdian", "sogo"], ["sogdian", "sogd"],
  ["olduyghur", "ougr"], ["chorasmian", "chrs"], ["elymaic", "elym"],
  ["brahmi", "brah"], ["kaithi", "kthi"], ["sorasompeng", "sora"],
  ["chakma", "cakm"], ["mahajani", "mahj"], ["sharada", "shrd"],
  ["khojki", "khoj"], ["multani", "mult"], ["khudawadi", "sind"],
  ["grantha", "gran"], ["newa"], ["tirhuta", "tirh"],
  ["siddham", "sidd"], ["modi"], ["takri", "takr"],
  ["ahom"], ["dogra", "dogr"], ["warangciti", "wara"],
  ["divesakuru", "diak"], ["nandinagari", "nand"], ["zanabazarsquare", "zanb"],
  ["soyombo", "soyo"], ["paucinhau", "pauc"], ["bhaiksuki", "bhks"],
  ["marchen", "marc"], ["masaramgondi", "gonm"], ["gunjalagondi", "gong"],
  ["makasar", "maka"], ["kawi"], ["cuneiform", "xsux"],
  ["cyprominoan", "cpmn"], ["egyptianhieroglyphs", "egyp"], ["anatolianhieroglyphs", "hluw"],
  ["mro", "mroo"], ["tangsa", "tnsa"], ["bassavah", "bass"],
  ["pahawhhmong", "hmng"], ["medefaidrin", "medf"], ["miao", "plrd"],
  ["tangut", "tang"], ["nushu", "nshu"], ["khitansmallscript", "kits"],
  ["duployan", "dupl"], ["signwriting", "sgnw"], ["nyiakengpuachuehmong", "hmnp"],
  ["toto"], ["wancho", "wcho"], ["nagmundari", "nagm"],
  ["mendekikakui", "mend"], ["adlam", "adlm"], ["garay", "gara"],
  ["todhri", "todr"], ["tulutigalari", "tutg"], ["sunuwar", "sunu"],
  ["gurungkhema", "gukh"], ["kiratrai", "krai"], ["olonal", "onao"]]

/-- Part 1 of `runs`. -/
def runs1 : Array (Nat × Nat) := #[
  (0x0, 0), (0x41, 1), (0x5B, 0), (0x61, 1), (0x7B, 0), (0xAA, 1), (0xAB, 0), (0xBA, 1),
  (0xBB, 0), (0xC0, 1), (0xD7, 0), (0xD8, 1), (0xF7, 0), (0xF8, 1), (0x2B9, 0), (0x2E0, 1),
  (0x2E5, 0), (0x2EA, 2), (0x2EC, 0), (0x300, 3), (0x370, 4), (0x374, 0), (0x375, 4), (0x378, 5),
  (0x37A, 4), (0x37E, 0), (0x37F, 4), (0x380, 5), (0x384, 4), (0x385, 0), (0x386, 4), (0x387, 0),
  (0x388, 4), (0x38B, 5), (0x38C, 4), (0x38D, 5), (0x38E, 4), (0x3A2, 5), (0x3A3, 4), (0x3E2, 6),
  (0x3F0, 4), (0x400, 7), (0x485, 3), (0x487, 7), (0x530, 5), (0x531, 8), (0x557, 5), (0x559, 8),
  (0x58B, 5), (0x58D, 8), (0x590, 5), (0x591, 9), (0x5C8, 5), (0x5D0, 9), (0x5EB, 5), (0x5EF, 9),
  (0x5F5, 5), (0x600, 10), (0x605, 0), (0x606, 10), (0x60C, 0), (0x60D, 10), (0x61B, 0), (0x61C, 10),
  (0x61F, 0), (0x620, 10), (0x640, 0), (0x641, 10), (0x64B, 3), (0x656, 10), (0x670, 3), (0x671, 10),
  (0x6DD, 0), (0x6DE, 10), (0x700, 11), (0x70E, 5), (0x70F, 11), (0x74B, 5), (0x74D, 11), (0x750, 10),
  (0x780, 12), (0x7B2, 5), (0x7C0, 13), (0x7FB, 5), (0x7FD, 13), (0x800, 14), (0x82E, 5), (0x830, 14),
  (0x83F, 5), (0x840, 15), (0x85C, 5), (0x85E, 15), (0x85F, 5), (0x860, 11), (0x86B, 5), (0x870, 10),
  (0x88F, 5), (0x890, 10), (0x892, 5), (0x897, 10), (0x8E2, 0), (0x8E3, 10), (0x900, 16), (0x951, 3),
  (0x955, 16), (0x964, 0), (0x966, 16), (0x980, 17), (0x984, 5), (0x985, 17), (0x98D, 5), (0x98F, 17),
  (0x991, 5), (0x993, 17), (0x9A9, 5), (0x9AA, 17), (0x9B1, 5), (0x9B2, 17), (0x9B3, 5), (0x9B6, 17),
  (0x9BA, 5), (0x9BC, 17), (0x9C5, 5), (0x9C7, 17), (0x9C9, 5), (0x9CB, 17), (0x9CF, 5), (0x9D7, 17),
  (0x9D8, 5), (0x9DC, 17), (0x9DE, 5), (0x9DF, 17), (0x9E4, 5), (0x9E6, 17), (0x9FF, 5), (0xA01, 18),
  (0xA04, 5), (0xA05, 18), (0xA0B, 5), (0xA0F, 18), (0xA11, 5), (0xA13, 18), (0xA29, 5), (0xA2A, 18),
  (0xA31, 5), (0xA32, 18), (0xA34, 5), (0xA35, 18), (0xA37, 5), (0xA38, 18), (0xA3A, 5), (0xA3C, 18),
  (0xA3D, 5), (0xA3E, 18), (0xA43, 5), (0xA47, 18), (0xA49, 5), (0xA4B, 18), (0xA4E, 5), (0xA51, 18),
  (0xA52, 5), (0xA59, 18), (0xA5D, 5), (0xA5E, 18), (0xA5F, 5), (0xA66, 18), (0xA77, 5), (0xA81, 19),
  (0xA84, 5), (0xA85, 19), (0xA8E, 5), (0xA8F, 19), (0xA92, 5), (0xA93, 19), (0xAA9, 5), (0xAAA, 19),
  (0xAB1, 5), (0xAB2, 19), (0xAB4, 5), (0xAB5, 19), (0xABA, 5), (0xABC, 19), (0xAC6, 5), (0xAC7, 19),
  (0xACA, 5), (0xACB, 19), (0xACE, 5), (0xAD0, 19), (0xAD1, 5), (0xAE0, 19), (0xAE4, 5), (0xAE6, 19),
  (0xAF2, 5), (0xAF9, 19), (0xB00, 5), (0xB01, 20), (0xB04, 5), (0xB05, 20), (0xB0D, 5), (0xB0F, 20),
  (0xB11, 5), (0xB13, 20), (0xB29, 5), (0xB2A, 20), (0xB31, 5), (0xB32, 20), (0xB34, 5), (0xB35, 20),
  (0xB3A, 5), (0xB3C, 20), (0xB45, 5), (0xB47, 20), (0xB49, 5), (0xB4B, 20), (0xB4E, 5), (0xB55, 20),
  (0xB58, 5), (0xB5C, 20), (0xB5E, 5), (0xB5F, 20), (0xB64, 5), (0xB66, 20), (0xB78, 5), (0xB82, 21),
  (0xB84, 5), (0xB85, 21), (0xB8B, 5), (0xB8E, 21), (0xB91, 5), (0xB92, 21), (0xB96, 5), (0xB99, 21),
  (0xB9B, 5), (0xB9C, 21), (0xB9D, 5), (0xB9E, 21), (0xBA0, 5), (0xBA3, 21), (0xBA5, 5), (0xBA8, 21),
  (0xBAB, 5), (0xBAE, 21), (0xBBA, 5), (0xBBE, 21), (0xBC3, 5), (0xBC6, 21), (0xBC9, 5), (0xBCA, 21),
  (0xBCE, 5), (0xBD0, 21), (0xBD1, 5), (0xBD7, 21), (0xBD8, 5), (0xBE6, 21), (0xBFB, 5), (0xC00, 22),
  (0xC0D, 5), (0xC0E, 22), (0xC11, 5), (0xC12, 22), (0xC29, 5), (0xC2A, 22), (0xC3A, 5), (0xC3C, 22),
  (0xC45, 5), (0xC46, 22), (0xC49, 5), (0xC4A, 22), (0xC4E, 5), (0xC55, 22), (0xC57, 5), (0xC58, 22),
  (0xC5B, 5), (0xC5D, 22), (0xC5E, 5), (0xC60, 22), (0xC64, 5), (0xC66, 22), (0xC70, 5), (0xC77, 22),
  (0xC80, 23), (0xC8D, 5), (0xC8E, 23), (0xC91, 5), (0xC92, 23), (0xCA9, 5), (0xCAA, 23), (0xCB4, 5),
  (0xCB5, 23), (0xCBA, 5), (0xCBC, 23), (0xCC5, 5), (0xCC6, 23), (0xCC9, 5), (0xCCA, 23), (0xCCE, 5),
  (0xCD5, 23), (0xCD7, 5), (0xCDD, 23), (0xCDF, 5), (0xCE0, 23), (0xCE4, 5), (0xCE6, 23), (0xCF0, 5),
  (0xCF1, 23), (0xCF4, 5), (0xD00, 24), (0xD0D, 5), (0xD0E, 24), (0xD11, 5), (0xD12, 24), (0xD45, 5),
  (0xD46, 24), (0xD49, 5), (0xD4A, 24), (0xD50, 5), (0xD54, 24), (0xD64, 5), (0xD66, 24), (0xD80, 5),
  (0xD81, 25), (0xD84, 5), (0xD85, 25), (0xD97, 5), (0xD9A, 25), (0xDB2, 5), (0xDB3, 25), (0xDBC, 5),
  (0xDBD, 25), (0xDBE, 5), (0xDC0, 25), (0xDC7, 5), (0xDCA, 25), (0xDCB, 5), (0xDCF, 25), (0xDD5, 5),
  (0xDD6, 25), (0xDD7, 5), (0xDD8, 25), (0xDE0, 5), (0xDE6, 25), (0xDF0, 5), (0xDF2, 25), (0xDF5, 5),
  (0xE01, 26), (0xE3B, 5), (0xE3F, 0), (0xE40, 26), (0xE5C, 5), (0xE81, 27), (0xE83, 5), (0xE84, 27),
  (0xE85, 5), (0xE86, 27), (0xE8B, 5), (0xE8C, 27), (0xEA4, 5), (0xEA5, 27), (0xEA6, 5), (0xEA7, 27),
  (0xEBE, 5), (0xEC0, 27), (0xEC5, 5), (0xEC6, 27), (0xEC7, 5), (0xEC8, 27), (0xECF, 5), (0xED0, 27),
  (0xEDA, 5), (0xEDC, 27), (0xEE0, 5), (0xF00, 28), (0xF48, 5), (0xF49, 28), (0xF6D, 5), (0xF71, 28),
  (0xF98, 5), (0xF99, 28), (0xFBD, 5), (0xFBE, 28), (0xFCD, 5), (0xFCE, 28), (0xFD5, 0), (0xFD9, 28),
  (0xFDB, 5), (0x1000, 29), (0x10A0, 30), (0x10C6, 5), (0x10C7, 30), (0x10C8, 5), (0x10CD, 30), (0x10CE, 5),
  (0x10D0, 30), (0x10FB, 0), (0x10FC, 30), (0x1100, 31), (0x1200, 32), (0x1249, 5), (0x124A, 32), (0x124E, 5)]

/-- Part 2 of `runs`. -/
def runs2 : Array (Nat × Nat) := #[
  (0x1250, 32), (0x1257, 5), (0x1258, 32), (0x1259, 5), (0x125A, 32), (0x125E, 5), (0x1260, 32), (0x1289, 5),
  (0x128A, 32), (0x128E, 5), (0x1290, 32), (0x12B1, 5), (0x12B2, 32), (0x12B6, 5), (0x12B8, 32), (0x12BF, 5),
  (0x12C0, 32), (0x12C1, 5), (0x12C2, 32), (0x12C6, 5), (0x12C8, 32), (0x12D7, 5), (0x12D8, 32), (0x1311, 5),
  (0x1312, 32), (0x1316, 5), (0x1318, 32), (0x135B, 5), (0x135D, 32), (0x137D, 5), (0x1380, 32), (0x139A, 5),
  (0x13A0, 33), (0x13F6, 5), (0x13F8, 33), (0x13FE, 5), (0x1400, 34), (0x1680, 35), (0x169D, 5), (0x16A0, 36),
  (0x16EB, 0), (0x16EE, 36), (0x16F9, 5), (0x1700, 37), (0x1716, 5), (0x171F, 37), (0x1720, 38), (0x1735, 0),
  (0x1737, 5), (0x1740, 39), (0x1754, 5), (0x1760, 40), (0x176D, 5), (0x176E, 40), (0x1771, 5), (0x1772, 40),
  (0x1774, 5), (0x1780, 41), (0x17DE, 5), (0x17E0, 41), (0x17EA, 5), (0x17F0, 41), (0x17FA, 5), (0x1800, 42),
  (0x1802, 0), (0x1804, 42), (0x1805, 0), (0x1806, 42), (0x181A, 5), (0x1820, 42), (0x1879, 5), (0x1880, 42),
  (0x18AB, 5), (0x18B0, 34), (0x18F6, 5), (0x1900, 43), (0x191F, 5), (0x1920, 43), (0x192C, 5), (0x1930, 43),
  (0x193C, 5), (0x1940, 43), (0x1941, 5), (0x1944, 43), (0x1950, 44), (0x196E, 5), (0x1970, 44), (0x1975, 5),
  (0x1980, 45), (0x19AC, 5), (0x19B0, 45), (0x19CA, 5), (0x19D0, 45), (0x19DB, 5), (0x19DE, 45), (0x19E0, 41),
  (0x1A00, 46), (0x1A1C, 5), (0x1A1E, 46), (0x1A20, 47), (0x1A5F, 5), (0x1A60, 47), (0x1A7D, 5), (0x1A7F, 47),
  (0x1A8A, 5), (0x1A90, 47), (0x1A9A, 5), (0x1AA0, 47), (0x1AAE, 5), (0x1AB0, 3), (0x1ACF, 5), (0x1B00, 48),
  (0x1B4D, 5), (0x1B4E, 48), (0x1B80, 49), (0x1BC0, 50), (0x1BF4, 5), (0x1BFC, 50), (0x1C00, 51), (0x1C38, 5),
  (0x1C3B, 51), (0x1C4A, 5), (0x1C4D, 51), (0x1C50, 52), (0x1C80, 7), (0x1C8B, 5), (0x1C90, 30), (0x1CBB, 5),
  (0x1CBD, 30), (0x1CC0, 49), (0x1CC8, 5), (0x1CD0, 3), (0x1CD3, 0), (0x1CD4, 3), (0x1CE1, 0), (0x1CE2, 3),
  (0x1CE9, 0), (0x1CED, 3), (0x1CEE, 0), (0x1CF4, 3), (0x1CF5, 0), (0x1CF8, 3), (0x1CFA, 0), (0x1CFB, 5),
  (0x1D00, 1), (0x1D26, 4), (0x1D2B, 7), (0x1D2C, 1), (0x1D5D, 4), (0x1D62, 1), (0x1D66, 4), (0x1D6B, 1),
  (0x1D78, 7), (0x1D79, 1), (0x1DBF, 4), (0x1DC0, 3), (0x1E00, 1), (0x1F00, 4), (0x1F16, 5), (0x1F18, 4),
  (0x1F1E, 5), (0x1F20, 4), (0x1F46, 5), (0x1F48, 4), (0x1F4E, 5), (0x1F50, 4), (0x1F58, 5), (0x1F59, 4),
  (0x1F5A, 5), (0x1F5B, 4), (0x1F5C, 5), (0x1F5D, 4), (0x1F5E, 5), (0x1F5F, 4), (0x1F7E, 5), (0x1F80, 4),
  (0x1FB5, 5), (0x1FB6, 4), (0x1FC5, 5), (0x1FC6, 4), (0x1FD4, 5), (0x1FD6, 4), (0x1FDC, 5), (0x1FDD, 4),
  (0x1FF0, 5), (0x1FF2, 4), (0x1FF5, 5), (0x1FF6, 4), (0x1FFF, 5), (0x2000, 0), (0x200C, 3), (0x200E, 0),
  (0x2065, 5), (0x2066, 0), (0x2071, 1), (0x2072, 5), (0x2074, 0), (0x207F, 1), (0x2080, 0), (0x208F, 5),
  (0x2090, 1), (0x209D, 5), (0x20A0, 0), (0x20C1, 5), (0x20D0, 3), (0x20F1, 5), (0x2100, 0), (0x2126, 4),
  (0x2127, 0), (0x212A, 1), (0x212C, 0), (0x2132, 1), (0x2133, 0), (0x214E, 1), (0x214F, 0), (0x2160, 1),
  (0x2189, 0), (0x218C, 5), (0x2190, 0), (0x242A, 5), (0x2440, 0), (0x244B, 5), (0x2460, 0), (0x2800, 53),
  (0x2900, 0), (0x2B74, 5), (0x2B76, 0), (0x2B96, 5), (0x2B97, 0), (0x2C00, 54), (0x2C60, 1), (0x2C80, 6),
  (0x2CF4, 5), (0x2CF9, 6), (0x2D00, 30), (0x2D26, 5), (0x2D27, 30), (0x2D28, 5), (0x2D2D, 30), (0x2D2E, 5),
  (0x2D30, 55), (0x2D68, 5), (0x2D6F, 55), (0x2D71, 5), (0x2D7F, 55), (0x2D80, 32), (0x2D97, 5), (0x2DA0, 32),
  (0x2DA7, 5), (0x2DA8, 32), (0x2DAF, 5), (0x2DB0, 32), (0x2DB7, 5), (0x2DB8, 32), (0x2DBF, 5), (0x2DC0, 32),
  (0x2DC7, 5), (0x2DC8, 32), (0x2DCF, 5), (0x2DD0, 32), (0x2DD7, 5), (0x2DD8, 32), (0x2DDF, 5), (0x2DE0, 7),
  (0x2E00, 0), (0x2E5E, 5), (0x2E80, 56), (0x2E9A, 5), (0x2E9B, 56), (0x2EF4, 5), (0x2F00, 56), (0x2FD6, 5),
  (0x2FF0, 0), (0x3005, 56), (0x3006, 0), (0x3007, 56), (0x3008, 0), (0x3021, 56), (0x302A, 3), (0x302E, 31),
  (0x3030, 0), (0x3038, 56), (0x303C, 0), (0x3040, 5), (0x3041, 57), (0x3097, 5), (0x3099, 3), (0x309B, 0),
  (0x309D, 57), (0x30A0, 0), (0x30A1, 58), (0x30FB, 0), (0x30FD, 58), (0x3100, 5), (0x3105, 2), (0x3130, 5),
  (0x3131, 31), (0x318F, 5), (0x3190, 0), (0x31A0, 2), (0x31C0, 0), (0x31E6, 5), (0x31EF, 0), (0x31F0, 58),
  (0x3200, 31), (0x321F, 5), (0x3220, 0), (0x3260, 31), (0x327F, 0), (0x32D0, 58), (0x32FF, 0), (0x3300, 58),
  (0x3358, 0), (0x3400, 56), (0x4DC0, 0), (0x4E00, 56), (0xA000, 59), (0xA48D, 5), (0xA490, 59), (0xA4C7, 5),
  (0xA4D0, 60), (0xA500, 61), (0xA62C, 5), (0xA640, 7), (0xA6A0, 62), (0xA6F8, 5), (0xA700, 0), (0xA722, 1),
  (0xA788, 0), (0xA78B, 1), (0xA7CE, 5), (0xA7D0, 1), (0xA7D2, 5), (0xA7D3, 1), (0xA7D4, 5), (0xA7D5, 1),
  (0xA7DD, 5), (0xA7F2, 1), (0xA800, 63), (0xA82D, 5), (0xA830, 0), (0xA83A, 5), (0xA840, 64), (0xA878, 5),
  (0xA880, 65), (0xA8C6, 5), (0xA8CE, 65), (0xA8DA, 5), (0xA8E0, 16), (0xA900, 66), (0xA92E, 0), (0xA92F, 66),
  (0xA930, 67), (0xA954, 5), (0xA95F, 67), (0xA960, 31), (0xA97D, 5), (0xA980, 68), (0xA9CE, 5), (0xA9CF, 0),
  (0xA9D0, 68), (0xA9DA, 5), (0xA9DE, 68), (0xA9E0, 29), (0xA9FF, 5), (0xAA00, 69), (0xAA37, 5), (0xAA40, 69),
  (0xAA4E, 5), (0xAA50, 69), (0xAA5A, 5), (0xAA5C, 69), (0xAA60, 29), (0xAA80, 70), (0xAAC3, 5), (0xAADB, 70),
  (0xAAE0, 71), (0xAAF7, 5), (0xAB01, 32), (0xAB07, 5), (0xAB09, 32), (0xAB0F, 5), (0xAB11, 32), (0xAB17, 5),
  (0xAB20, 32), (0xAB27, 5), (0xAB28, 32), (0xAB2F, 5), (0xAB30, 1), (0xAB5B, 0), (0xAB5C, 1), (0xAB65, 4),
  (0xAB66, 1), (0xAB6A, 0), (0xAB6C, 5), (0xAB70, 33), (0xABC0, 71), (0xABEE, 5), (0xABF0, 71), (0xABFA, 5)]

/-- Part 3 of `runs`. -/
def runs3 : Array (Nat × Nat) := #[
  (0xAC00, 31), (0xD7A4, 5), (0xD7B0, 31), (0xD7C7, 5), (0xD7CB, 31), (0xD7FC, 5), (0xF900, 56), (0xFA6E, 5),
  (0xFA70, 56), (0xFADA, 5), (0xFB00, 1), (0xFB07, 5), (0xFB13, 8), (0xFB18, 5), (0xFB1D, 9), (0xFB37, 5),
  (0xFB38, 9), (0xFB3D, 5), (0xFB3E, 9), (0xFB3F, 5), (0xFB40, 9), (0xFB42, 5), (0xFB43, 9), (0xFB45, 5),
  (0xFB46, 9), (0xFB50, 10), (0xFBC3, 5), (0xFBD3, 10), (0xFD3E, 0), (0xFD40, 10), (0xFD90, 5), (0xFD92, 10),
  (0xFDC8, 5), (0xFDCF, 10), (0xFDD0, 5), (0xFDF0, 10), (0xFE00, 3), (0xFE10, 0), (0xFE1A, 5), (0xFE20, 3),
  (0xFE2E, 7), (0xFE30, 0), (0xFE53, 5), (0xFE54, 0), (0xFE67, 5), (0xFE68, 0), (0xFE6C, 5), (0xFE70, 10),
  (0xFE75, 5), (0xFE76, 10), (0xFEFD, 5), (0xFEFF, 0), (0xFF00, 5), (0xFF01, 0), (0xFF21, 1), (0xFF3B, 0),
  (0xFF41, 1), (0xFF5B, 0), (0xFF66, 58), (0xFF70, 0), (0xFF71, 58), (0xFF9E, 0), (0xFFA0, 31), (0xFFBF, 5),
  (0xFFC2, 31), (0xFFC8, 5), (0xFFCA, 31), (0xFFD0, 5), (0xFFD2, 31), (0xFFD8, 5), (0xFFDA, 31), (0xFFDD, 5),
  (0xFFE0, 0), (0xFFE7, 5), (0xFFE8, 0), (0xFFEF, 5), (0xFFF9, 0), (0xFFFE, 5), (0x10000, 72), (0x1000C, 5),
  (0x1000D, 72), (0x10027, 5), (0x10028, 72), (0x1003B, 5), (0x1003C, 72), (0x1003E, 5), (0x1003F, 72), (0x1004E, 5),
  (0x10050, 72), (0x1005E, 5), (0x10080, 72), (0x100FB, 5), (0x10100, 0), (0x10103, 5), (0x10107, 0), (0x10134, 5),
  (0x10137, 0), (0x10140, 4), (0x1018F, 5), (0x10190, 0), (0x1019D, 5), (0x101A0, 4), (0x101A1, 5), (0x101D0, 0),
  (0x101FD, 3), (0x101FE, 5), (0x10280, 73), (0x1029D, 5), (0x102A0, 74), (0x102D1, 5), (0x102E0, 3), (0x102E1, 0),
  (0x102FC, 5), (0x10300, 75), (0x10324, 5), (0x1032D, 75), (0x10330, 76), (0x1034B, 5), (0x10350, 77), (0x1037B, 5),
  (0x10380, 78), (0x1039E, 5), (0x1039F, 78), (0x103A0, 79), (0x103C4, 5), (0x103C8, 79), (0x103D6, 5), (0x10400, 80),
  (0x10450, 81), (0x10480, 82), (0x1049E, 5), (0x104A0, 82), (0x104AA, 5), (0x104B0, 83), (0x104D4, 5), (0x104D8, 83),
  (0x104FC, 5), (0x10500, 84), (0x10528, 5), (0x10530, 85), (0x10564, 5), (0x1056F, 85), (0x10570, 86), (0x1057B, 5),
  (0x1057C, 86), (0x1058B, 5), (0x1058C, 86), (0x10593, 5), (0x10594, 86), (0x10596, 5), (0x10597, 86), (0x105A2, 5),
  (0x105A3, 86), (0x105B2, 5), (0x105B3, 86), (0x105BA, 5), (0x105BB, 86), (0x105BD, 5), (0x105C0, 165), (0x105F4, 5),
  (0x10600, 87), (0x10737, 5), (0x10740, 87), (0x10756, 5), (0x10760, 87), (0x10768, 5), (0x10780, 1), (0x10786, 5),
  (0x10787, 1), (0x107B1, 5), (0x107B2, 1), (0x107BB, 5), (0x10800, 88), (0x10806, 5), (0x10808, 88), (0x10809, 5),
  (0x1080A, 88), (0x10836, 5), (0x10837, 88), (0x10839, 5), (0x1083C, 88), (0x1083D, 5), (0x1083F, 88), (0x10840, 89),
  (0x10856, 5), (0x10857, 89), (0x10860, 90), (0x10880, 91), (0x1089F, 5), (0x108A7, 91), (0x108B0, 5), (0x108E0, 92),
  (0x108F3, 5), (0x108F4, 92), (0x108F6, 5), (0x108FB, 92), (0x10900, 93), (0x1091C, 5), (0x1091F, 93), (0x10920, 94),
  (0x1093A, 5), (0x1093F, 94), (0x10940, 5), (0x10980, 95), (0x109A0, 96), (0x109B8, 5), (0x109BC, 96), (0x109D0, 5),
  (0x109D2, 96), (0x10A00, 97), (0x10A04, 5), (0x10A05, 97), (0x10A07, 5), (0x10A0C, 97), (0x10A14, 5), (0x10A15, 97),
  (0x10A18, 5), (0x10A19, 97), (0x10A36, 5), (0x10A38, 97), (0x10A3B, 5), (0x10A3F, 97), (0x10A49, 5), (0x10A50, 97),
  (0x10A59, 5), (0x10A60, 98), (0x10A80, 99), (0x10AA0, 5), (0x10AC0, 100), (0x10AE7, 5), (0x10AEB, 100), (0x10AF7, 5),
  (0x10B00, 101), (0x10B36, 5), (0x10B39, 101), (0x10B40, 102), (0x10B56, 5), (0x10B58, 102), (0x10B60, 103), (0x10B73, 5),
  (0x10B78, 103), (0x10B80, 104), (0x10B92, 5), (0x10B99, 104), (0x10B9D, 5), (0x10BA9, 104), (0x10BB0, 5), (0x10C00, 105),
  (0x10C49, 5), (0x10C80, 106), (0x10CB3, 5), (0x10CC0, 106), (0x10CF3, 5), (0x10CFA, 106), (0x10D00, 107), (0x10D28, 5),
  (0x10D30, 107), (0x10D3A, 5), (0x10D40, 164), (0x10D66, 5), (0x10D69, 164), (0x10D86, 5), (0x10D8E, 164), (0x10D90, 5),
  (0x10E60, 10), (0x10E7F, 5), (0x10E80, 108), (0x10EAA, 5), (0x10EAB, 108), (0x10EAE, 5), (0x10EB0, 108), (0x10EB2, 5),
  (0x10EC2, 10), (0x10EC5, 5), (0x10EFC, 10), (0x10F00, 109), (0x10F28, 5), (0x10F30, 110), (0x10F5A, 5), (0x10F70, 111),
  (0x10F8A, 5), (0x10FB0, 112), (0x10FCC, 5), (0x10FE0, 113), (0x10FF7, 5), (0x11000, 114), (0x1104E, 5), (0x11052, 114),
  (0x11076, 5), (0x1107F, 114), (0x11080, 115), (0x110C3, 5), (0x110CD, 115), (0x110CE, 5), (0x110D0, 116), (0x110E9, 5),
  (0x110F0, 116), (0x110FA, 5), (0x11100, 117), (0x11135, 5), (0x11136, 117), (0x11148, 5), (0x11150, 118), (0x11177, 5),
  (0x11180, 119), (0x111E0, 5), (0x111E1, 25), (0x111F5, 5), (0x11200, 120), (0x11212, 5), (0x11213, 120), (0x11242, 5),
  (0x11280, 121), (0x11287, 5), (0x11288, 121), (0x11289, 5), (0x1128A, 121), (0x1128E, 5), (0x1128F, 121), (0x1129E, 5),
  (0x1129F, 121), (0x112AA, 5), (0x112B0, 122), (0x112EB, 5), (0x112F0, 122), (0x112FA, 5), (0x11300, 123), (0x11304, 5),
  (0x11305, 123), (0x1130D, 5), (0x1130F, 123), (0x11311, 5), (0x11313, 123), (0x11329, 5), (0x1132A, 123), (0x11331, 5),
  (0x11332, 123), (0x11334, 5), (0x11335, 123), (0x1133A, 5), (0x1133B, 3), (0x1133C, 123), (0x11345, 5), (0x11347, 123),
  (0x11349, 5), (0x1134B, 123), (0x1134E, 5), (0x11350, 123), (0x11351, 5), (0x11357, 123), (0x11358, 5), (0x1135D, 123),
  (0x11364, 5), (0x11366, 123), (0x1136D, 5), (0x11370, 123), (0x11375, 5), (0x11380, 166), (0x1138A, 5), (0x1138B, 166),
  (0x1138C, 5), (0x1138E, 166), (0x1138F, 5), (0x11390, 166), (0x113B6, 5), (0x113B7, 166), (0x113C1, 5), (0x113C2, 166),
  (0x113C3, 5), (0x113C5, 166), (0x113C6, 5), (0x113C7, 166), (0x113CB, 5), (0x113CC, 166), (0x113D6, 5), (0x113D7, 166),
  (0x113D9, 5), (0x113E1, 166), (0x113E3, 5), (0x11400, 124), (0x1145C, 5), (0x1145D, 124), (0x11462, 5), (0x11480, 125),
  (0x114C8, 5), (0x114D0, 125), (0x114DA, 5), (0x11580, 126), (0x115B6, 5), (0x115B8, 126), (0x115DE, 5), (0x11600, 127),
  (0x11645, 5), (0x11650, 127), (0x1165A, 5), (0x11660, 42), (0x1166D, 5), (0x11680, 128), (0x116BA, 5), (0x116C0, 128)]

/-- Part 4 of `runs`. -/
def runs4 : Array (Nat × Nat) := #[
  (0x116CA, 5), (0x116D0, 29), (0x116E4, 5), (0x11700, 129), (0x1171B, 5), (0x1171D, 129), (0x1172C, 5), (0x11730, 129),
  (0x11747, 5), (0x11800, 130), (0x1183C, 5), (0x118A0, 131), (0x118F3, 5), (0x118FF, 131), (0x11900, 132), (0x11907, 5),
  (0x11909, 132), (0x1190A, 5), (0x1190C, 132), (0x11914, 5), (0x11915, 132), (0x11917, 5), (0x11918, 132), (0x11936, 5),
  (0x11937, 132), (0x11939, 5), (0x1193B, 132), (0x11947, 5), (0x11950, 132), (0x1195A, 5), (0x119A0, 133), (0x119A8, 5),
  (0x119AA, 133), (0x119D8, 5), (0x119DA, 133), (0x119E5, 5), (0x11A00, 134), (0x11A48, 5), (0x11A50, 135), (0x11AA3, 5),
  (0x11AB0, 34), (0x11AC0, 136), (0x11AF9, 5), (0x11B00, 16), (0x11B0A, 5), (0x11BC0, 167), (0x11BE2, 5), (0x11BF0, 167),
  (0x11BFA, 5), (0x11C00, 137), (0x11C09, 5), (0x11C0A, 137), (0x11C37, 5), (0x11C38, 137), (0x11C46, 5), (0x11C50, 137),
  (0x11C6D, 5), (0x11C70, 138), (0x11C90, 5), (0x11C92, 138), (0x11CA8, 5), (0x11CA9, 138), (0x11CB7, 5), (0x11D00, 139),
  (0x11D07, 5), (0x11D08, 139), (0x11D0A, 5), (0x11D0B, 139), (0x11D37, 5), (0x11D3A, 139), (0x11D3B, 5), (0x11D3C, 139),
  (0x11D3E, 5), (0x11D3F, 139), (0x11D48, 5), (0x11D50, 139), (0x11D5A, 5), (0x11D60, 140), (0x11D66, 5), (0x11D67, 140),
  (0x11D69, 5), (0x11D6A, 140), (0x11D8F, 5), (0x11D90, 140), (0x11D92, 5), (0x11D93, 140), (0x11D99, 5), (0x11DA0, 140),
  (0x11DAA, 5), (0x11EE0, 141), (0x11EF9, 5), (0x11F00, 142), (0x11F11, 5), (0x11F12, 142), (0x11F3B, 5), (0x11F3E, 142),
  (0x11F5B, 5), (0x11FB0, 60), (0x11FB1, 5), (0x11FC0, 21), (0x11FF2, 5), (0x11FFF, 21), (0x12000, 143), (0x1239A, 5),
  (0x12400, 143), (0x1246F, 5), (0x12470, 143), (0x12475, 5), (0x12480, 143), (0x12544, 5), (0x12F90, 144), (0x12FF3, 5),
  (0x13000, 145), (0x13456, 5), (0x13460, 145), (0x143FB, 5), (0x14400, 146), (0x14647, 5), (0x16100, 168), (0x1613A, 5),
  (0x16800, 62), (0x16A39, 5), (0x16A40, 147), (0x16A5F, 5), (0x16A60, 147), (0x16A6A, 5), (0x16A6E, 147), (0x16A70, 148),
  (0x16ABF, 5), (0x16AC0, 148), (0x16ACA, 5), (0x16AD0, 149), (0x16AEE, 5), (0x16AF0, 149), (0x16AF6, 5), (0x16B00, 150),
  (0x16B46, 5), (0x16B50, 150), (0x16B5A, 5), (0x16B5B, 150), (0x16B62, 5), (0x16B63, 150), (0x16B78, 5), (0x16B7D, 150),
  (0x16B90, 5), (0x16D40, 169), (0x16D7A, 5), (0x16E40, 151), (0x16E9B, 5), (0x16F00, 152), (0x16F4B, 5), (0x16F4F, 152),
  (0x16F88, 5), (0x16F8F, 152), (0x16FA0, 5), (0x16FE0, 153), (0x16FE1, 154), (0x16FE2, 56), (0x16FE4, 155), (0x16FE5, 5),
  (0x16FF0, 56), (0x16FF2, 5), (0x17000, 153), (0x187F8, 5), (0x18800, 153), (0x18B00, 155), (0x18CD6, 5), (0x18CFF, 155),
  (0x18D00, 153), (0x18D09, 5), (0x1AFF0, 58), (0x1AFF4, 5), (0x1AFF5, 58), (0x1AFFC, 5), (0x1AFFD, 58), (0x1AFFF, 5),
  (0x1B000, 58), (0x1B001, 57), (0x1B120, 58), (0x1B123, 5), (0x1B132, 57), (0x1B133, 5), (0x1B150, 57), (0x1B153, 5),
  (0x1B155, 58), (0x1B156, 5), (0x1B164, 58), (0x1B168, 5), (0x1B170, 154), (0x1B2FC, 5), (0x1BC00, 156), (0x1BC6B, 5),
  (0x1BC70, 156), (0x1BC7D, 5), (0x1BC80, 156), (0x1BC89, 5), (0x1BC90, 156), (0x1BC9A, 5), (0x1BC9C, 156), (0x1BCA0, 0),
  (0x1BCA4, 5), (0x1CC00, 0), (0x1CCFA, 5), (0x1CD00, 0), (0x1CEB4, 5), (0x1CF00, 3), (0x1CF2E, 5), (0x1CF30, 3),
  (0x1CF47, 5), (0x1CF50, 0), (0x1CFC4, 5), (0x1D000, 0), (0x1D0F6, 5), (0x1D100, 0), (0x1D127, 5), (0x1D129, 0),
  (0x1D167, 3), (0x1D16A, 0), (0x1D17B, 3), (0x1D183, 0), (0x1D185, 3), (0x1D18C, 0), (0x1D1AA, 3), (0x1D1AE, 0),
  (0x1D1EB, 5), (0x1D200, 4), (0x1D246, 5), (0x1D2C0, 0), (0x1D2D4, 5), (0x1D2E0, 0), (0x1D2F4, 5), (0x1D300, 0),
  (0x1D357, 5), (0x1D360, 0), (0x1D379, 5), (0x1D400, 0), (0x1D455, 5), (0x1D456, 0), (0x1D49D, 5), (0x1D49E, 0),
  (0x1D4A0, 5), (0x1D4A2, 0), (0x1D4A3, 5), (0x1D4A5, 0), (0x1D4A7, 5), (0x1D4A9, 0), (0x1D4AD, 5), (0x1D4AE, 0),
  (0x1D4BA, 5), (0x1D4BB, 0), (0x1D4BC, 5), (0x1D4BD, 0), (0x1D4C4, 5), (0x1D4C5, 0), (0x1D506, 5), (0x1D507, 0),
  (0x1D50B, 5), (0x1D50D, 0), (0x1D515, 5), (0x1D516, 0), (0x1D51D, 5), (0x1D51E, 0), (0x1D53A, 5), (0x1D53B, 0),
  (0x1D53F, 5), (0x1D540, 0), (0x1D545, 5), (0x1D546, 0), (0x1D547, 5), (0x1D54A, 0), (0x1D551, 5), (0x1D552, 0),
  (0x1D6A6, 5), (0x1D6A8, 0), (0x1D7CC, 5), (0x1D7CE, 0), (0x1D800, 157), (0x1DA8C, 5), (0x1DA9B, 157), (0x1DAA0, 5),
  (0x1DAA1, 157), (0x1DAB0, 5), (0x1DF00, 1), (0x1DF1F, 5), (0x1DF25, 1), (0x1DF2B, 5), (0x1E000, 54), (0x1E007, 5),
  (0x1E008, 54), (0x1E019, 5), (0x1E01B, 54), (0x1E022, 5), (0x1E023, 54), (0x1E025, 5), (0x1E026, 54), (0x1E02B, 5),
  (0x1E030, 7), (0x1E06E, 5), (0x1E08F, 7), (0x1E090, 5), (0x1E100, 158), (0x1E12D, 5), (0x1E130, 158), (0x1E13E, 5),
  (0x1E140, 158), (0x1E14A, 5), (0x1E14E, 158), (0x1E150, 5), (0x1E290, 159), (0x1E2AF, 5), (0x1E2C0, 160), (0x1E2FA, 5),
  (0x1E2FF, 160), (0x1E300, 5), (0x1E4D0, 161), (0x1E4FA, 5), (0x1E5D0, 170), (0x1E5FB, 5), (0x1E5FF, 170), (0x1E600, 5),
  (0x1E7E0, 32), (0x1E7E7, 5), (0x1E7E8, 32), (0x1E7EC, 5), (0x1E7ED, 32), (0x1E7EF, 5), (0x1E7F0, 32), (0x1E7FF, 5),
  (0x1E800, 162), (0x1E8C5, 5), (0x1E8C7, 162), (0x1E8D7, 5), (0x1E900, 163), (0x1E94C, 5), (0x1E950, 163), (0x1E95A, 5),
  (0x1E95E, 163), (0x1E960, 5), (0x1EC71, 0), (0x1ECB5, 5), (0x1ED01, 0), (0x1ED3E, 5), (0x1EE00, 10), (0x1EE04, 5),
  (0x1EE05, 10), (0x1EE20, 5), (0x1EE21, 10), (0x1EE23, 5), (0x1EE24, 10), (0x1EE25, 5), (0x1EE27, 10), (0x1EE28, 5),
  (0x1EE29, 10), (0x1EE33, 5), (0x1EE34, 10), (0x1EE38, 5), (0x1EE39, 10), (0x1EE3A, 5), (0x1EE3B, 10), (0x1EE3C, 5),
  (0x1EE42, 10), (0x1EE43, 5), (0x1EE47, 10), (0x1EE48, 5), (0x1EE49, 10), (0x1EE4A, 5), (0x1EE4B, 10), (0x1EE4C, 5),
  (0x1EE4D, 10), (0x1EE50, 5), (0x1EE51, 10), (0x1EE53, 5), (0x1EE54, 10), (0x1EE55, 5), (0x1EE57, 10), (0x1EE58, 5),
  (0x1EE59, 10), (0x1EE5A, 5), (0x1EE5B, 10), (0x1EE5C, 5), (0x1EE5D, 10), (0x1EE5E, 5), (0x1EE5F, 10), (0x1EE60, 5),
  (0x1EE61, 10), (0x1EE63, 5), (0x1EE64, 10), (0x1EE65, 5), (0x1EE67, 10), (0x1EE6B, 5), (0x1EE6C, 10), (0x1EE73, 5),
  (0x1EE74, 10), (0x1EE78, 5), (0x1EE79, 10), (0x1EE7D, 5), (0x1EE7E, 10), (0x1EE7F, 5), (0x1EE80, 10), (0x1EE8A, 5)]

/-- Part 5 of `runs`. -/
def runs5 : Array (Nat × Nat) := #[
  (0x1EE8B, 10), (0x1EE9C, 5), (0x1EEA1, 10), (0x1EEA4, 5), (0x1EEA5, 10), (0x1EEAA, 5), (0x1EEAB, 10), (0x1EEBC, 5),
  (0x1EEF0, 10), (0x1EEF2, 5), (0x1F000, 0), (0x1F02C, 5), (0x1F030, 0), (0x1F094, 5), (0x1F0A0, 0), (0x1F0AF, 5),
  (0x1F0B1, 0), (0x1F0C0, 5), (0x1F0C1, 0), (0x1F0D0, 5), (0x1F0D1, 0), (0x1F0F6, 5), (0x1F100, 0), (0x1F1AE, 5),
  (0x1F1E6, 0), (0x1F200, 57), (0x1F201, 0), (0x1F203, 5), (0x1F210, 0), (0x1F23C, 5), (0x1F240, 0), (0x1F249, 5),
  (0x1F250, 0), (0x1F252, 5), (0x1F260, 0), (0x1F266, 5), (0x1F300, 0), (0x1F6D8, 5), (0x1F6DC, 0), (0x1F6ED, 5),
  (0x1F6F0, 0), (0x1F6FD, 5), (0x1F700, 0), (0x1F777, 5), (0x1F77B, 0), (0x1F7DA, 5), (0x1F7E0, 0), (0x1F7EC, 5),
  (0x1F7F0, 0), (0x1F7F1, 5), (0x1F800, 0), (0x1F80C, 5), (0x1F810, 0), (0x1F848, 5), (0x1F850, 0), (0x1F85A, 5),
  (0x1F860, 0), (0x1F888, 5), (0x1F890, 0), (0x1F8AE, 5), (0x1F8B0, 0), (0x1F8BC, 5), (0x1F8C0, 0), (0x1F8C2, 5),
  (0x1F900, 0), (0x1FA54, 5), (0x1FA60, 0), (0x1FA6E, 5), (0x1FA70, 0), (0x1FA7D, 5), (0x1FA80, 0), (0x1FA8A, 5),
  (0x1FA8F, 0), (0x1FAC7, 5), (0x1FACE, 0), (0x1FADD, 5), (0x1FADF, 0), (0x1FAEA, 5), (0x1FAF0, 0), (0x1FAF9, 5),
  (0x1FB00, 0), (0x1FB93, 5), (0x1FB94, 0), (0x1FBFA, 5), (0x20000, 56), (0x2A6E0, 5), (0x2A700, 56), (0x2B73A, 5),
  (0x2B740, 56), (0x2B81E, 5), (0x2B820, 56), (0x2CEA2, 5), (0x2CEB0, 56), (0x2EBE1, 5), (0x2EBF0, 56), (0x2EE5E, 5),
  (0x2F800, 56), (0x2FA1E, 5), (0x30000, 56), (0x3134B, 5), (0x31350, 56), (0x323B0, 5), (0xE0001, 0), (0xE0002, 5),
  (0xE0020, 0), (0xE0080, 5), (0xE0100, 3), (0xE01F0, 5)]

/-- The runs of equal script, by first code point. -/
def runs : Array (Nat × Nat) :=
  runs1 ++ runs2 ++ runs3 ++ runs4 ++ runs5

end Highlight.Unicode.Script
