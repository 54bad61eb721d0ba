import RuleScanner.Unicode.Script

/-!
# Script extensions

The property Script_Extensions says which scripts a character is used in. For most characters that is the script that it
belongs to. A character that several scripts share is taken from the common or inherited characters and given to each of
them.
-/

namespace RuleScanner.Unicode

/-- The characters of which a script has more or less than belong to it, by the code of the script. -/
def sharedCharacters : List (String × CharSet) :=
  [
    ("adlm", ⟨[0x61F, 0x620, 0x640, 0x641, 0x204F, 0x2050, 0x2E41, 0x2E42], by decide +kernel⟩),
    ("aghb", ⟨[0x304, 0x305, 0x331, 0x332, 0x35E, 0x35F], by decide +kernel⟩),
    ("arab", ⟨[0x60C, 0x60D, 0x61B, 0x61C, 0x61F, 0x620, 0x640, 0x641, 0x64B, 0x656, 0x670, 0x671, 0x204F, 0x2050,
      0x2E41, 0x2E42, 0xFD3E, 0xFD40, 0x102E0, 0x102FC], by decide +kernel⟩),
    ("armn", ⟨[0x308, 0x309], by decide +kernel⟩),
    ("avst", ⟨[0xB7, 0xB8, 0x2E30, 0x2E32], by decide +kernel⟩),
    ("beng", ⟨[0x2BC, 0x2BD, 0x951, 0x953, 0x964, 0x966, 0x1CD0, 0x1CD1, 0x1CD2, 0x1CD3, 0x1CD5, 0x1CD7, 0x1CD8,
      0x1CD9, 0x1CE1, 0x1CE2, 0x1CEA, 0x1CEB, 0x1CED, 0x1CEE, 0x1CF2, 0x1CF3, 0x1CF5, 0x1CF8, 0xA8F1,
      0xA8F2], by decide +kernel⟩),
    ("bopo", ⟨[0x2C7, 0x2C8, 0x2C9, 0x2CC, 0x2D9, 0x2DA, 0x3001, 0x3004, 0x3008, 0x3012, 0x3013, 0x3020, 0x302A,
      0x302E, 0x3030, 0x3031, 0x3037, 0x3038, 0x30FB, 0x30FC, 0xFE45, 0xFE47, 0xFF61, 0xFF66], by decide +kernel⟩),
    ("bugi", ⟨[0xA9CF, 0xA9D0], by decide +kernel⟩),
    ("buhd", ⟨[0x1735, 0x1737], by decide +kernel⟩),
    ("cakm", ⟨[0x9E6, 0x9F0, 0x1040, 0x104A], by decide +kernel⟩),
    ("cari", ⟨[0xB7, 0xB8, 0x205A, 0x205B, 0x205D, 0x205E, 0x2E31, 0x2E32], by decide +kernel⟩),
    ("cher", ⟨[0x300, 0x303, 0x304, 0x305, 0x30B, 0x30D, 0x323, 0x325, 0x330, 0x332], by decide +kernel⟩),
    ("copt", ⟨[0xB7, 0xB8, 0x300, 0x301, 0x304, 0x306, 0x307, 0x308, 0x374, 0x376, 0x2E17, 0x2E18, 0x102E0,
      0x102FC], by decide +kernel⟩),
    ("cpmn", ⟨[0x10100, 0x10102], by decide +kernel⟩),
    ("cprt", ⟨[0x10100, 0x10103, 0x10107, 0x10134, 0x10137, 0x10140], by decide +kernel⟩),
    ("cyrl", ⟨[0x2BC, 0x2BD, 0x300, 0x303, 0x304, 0x305, 0x306, 0x307, 0x308, 0x309, 0x30B, 0x30C, 0x311, 0x312,
      0x485, 0x487, 0x1DF8, 0x1DF9, 0x2E43, 0x2E44], by decide +kernel⟩),
    ("deva", ⟨[0x2BC, 0x2BD, 0x951, 0x953, 0x964, 0x966, 0x1CD0, 0x1CF7, 0x1CF8, 0x1CFA, 0x20F0, 0x20F1, 0xA830,
      0xA83A], by decide +kernel⟩),
    ("dogr", ⟨[0x964, 0x970, 0xA830, 0xA83A], by decide +kernel⟩),
    ("dupl", ⟨[0xB7, 0xB8, 0x307, 0x309, 0x30A, 0x30B, 0x323, 0x325, 0x2E3C, 0x2E3D, 0x1BCA0,
      0x1BCA4], by decide +kernel⟩),
    ("elba", ⟨[0xB7, 0xB8, 0x305, 0x306], by decide +kernel⟩),
    ("ethi", ⟨[0x30E, 0x30F], by decide +kernel⟩),
    ("gara", ⟨[0x60C, 0x60D, 0x61B, 0x61C, 0x61F, 0x620], by decide +kernel⟩),
    ("geor", ⟨[0xB7, 0xB8, 0x589, 0x58A, 0x10FB, 0x10FC, 0x205A, 0x205B, 0x2E31, 0x2E32], by decide +kernel⟩),
    ("glag", ⟨[0xB7, 0xB8, 0x303, 0x304, 0x305, 0x306, 0x484, 0x485, 0x487, 0x488, 0x589, 0x58A, 0x10FB, 0x10FC,
      0x205A, 0x205B, 0x2E43, 0x2E44, 0xA66F, 0xA670], by decide +kernel⟩),
    ("gong", ⟨[0xB7, 0xB8, 0x964, 0x966], by decide +kernel⟩),
    ("gonm", ⟨[0x964, 0x966], by decide +kernel⟩),
    ("goth", ⟨[0xB7, 0xB8, 0x304, 0x306, 0x308, 0x309, 0x331, 0x332], by decide +kernel⟩),
    ("gran", ⟨[0x951, 0x953, 0x964, 0x966, 0xBE6, 0xBF4, 0x1CD0, 0x1CD1, 0x1CD2, 0x1CD4, 0x1CF2, 0x1CF5, 0x1CF8,
      0x1CFA, 0x20F0, 0x20F1, 0x1133B, 0x1133C, 0x11FD0, 0x11FD2, 0x11FD3, 0x11FD4], by decide +kernel⟩),
    ("grek", ⟨[0xB7, 0xB8, 0x300, 0x302, 0x304, 0x305, 0x306, 0x307, 0x308, 0x309, 0x313, 0x314, 0x342, 0x343, 0x345,
      0x346, 0x374, 0x375, 0x1DC0, 0x1DC2, 0x205D, 0x205E], by decide +kernel⟩),
    ("gujr", ⟨[0x951, 0x953, 0x964, 0x966, 0xA830, 0xA83A], by decide +kernel⟩),
    ("gukh", ⟨[0x965, 0x966], by decide +kernel⟩),
    ("guru", ⟨[0x951, 0x953, 0x964, 0x966, 0xA830, 0xA83A], by decide +kernel⟩),
    ("hang", ⟨[0x3001, 0x3004, 0x3008, 0x3012, 0x3013, 0x3020, 0x3030, 0x3031, 0x3037, 0x3038, 0x30FB, 0x30FC, 0xFE45,
      0xFE47, 0xFF61, 0xFF66], by decide +kernel⟩),
    ("hani", ⟨[0xB7, 0xB8, 0x2FF0, 0x3000, 0x3001, 0x3004, 0x3006, 0x3007, 0x3008, 0x3012, 0x3013, 0x3020, 0x302A,
      0x302E, 0x3030, 0x3031, 0x3037, 0x3038, 0x303C, 0x3040, 0x30FB, 0x30FC, 0x3190, 0x31A0, 0x31C0, 0x31E6, 0x31EF,
      0x31F0, 0x3220, 0x3248, 0x3280, 0x32B1, 0x32C0, 0x32CC, 0x32FF, 0x3300, 0x3358, 0x3371, 0x337B, 0x3380, 0x33E0,
      0x33FF, 0xA700, 0xA708, 0xFE45, 0xFE47, 0xFF61, 0xFF66, 0x1D360, 0x1D372, 0x1F250,
      0x1F252], by decide +kernel⟩),
    ("hano", ⟨[0x1735, 0x1737], by decide +kernel⟩),
    ("hebr", ⟨[0x307, 0x309], by decide +kernel⟩),
    ("hira", ⟨[0x3001, 0x3004, 0x3008, 0x3012, 0x3013, 0x3020, 0x3030, 0x3036, 0x3037, 0x3038, 0x303C, 0x303E, 0x3099,
      0x309D, 0x30A0, 0x30A1, 0x30FB, 0x30FD, 0xFE45, 0xFE47, 0xFF61, 0xFF66, 0xFF70, 0xFF71, 0xFF9E,
      0xFFA0], by decide +kernel⟩),
    ("hung", ⟨[0x205A, 0x205B, 0x205D, 0x205E, 0x2E31, 0x2E32, 0x2E41, 0x2E42], by decide +kernel⟩),
    ("java", ⟨[0xA9CF, 0xA9D0], by decide +kernel⟩),
    ("kali", ⟨[0xA92E, 0xA92F], by decide +kernel⟩),
    ("kana", ⟨[0x305, 0x306, 0x323, 0x324, 0x3001, 0x3004, 0x3008, 0x3012, 0x3013, 0x3020, 0x3030, 0x3036, 0x3037,
      0x3038, 0x303C, 0x303E, 0x3099, 0x309D, 0x30A0, 0x30A1, 0x30FB, 0x30FD, 0xFE45, 0xFE47, 0xFF61, 0xFF66, 0xFF70,
      0xFF71, 0xFF9E, 0xFFA0], by decide +kernel⟩),
    ("khoj", ⟨[0xAE6, 0xAF0, 0xA830, 0xA83A], by decide +kernel⟩),
    ("knda", ⟨[0x951, 0x953, 0x964, 0x966, 0x1CD0, 0x1CD1, 0x1CD2, 0x1CD4, 0x1CDA, 0x1CDB, 0x1CF2, 0x1CF3, 0x1CF4,
      0x1CF5, 0xA830, 0xA836], by decide +kernel⟩),
    ("kthi", ⟨[0x966, 0x970, 0x2E31, 0x2E32, 0xA830, 0xA83A], by decide +kernel⟩),
    ("latn", ⟨[0xB7, 0xB8, 0x2BC, 0x2BD, 0x2C7, 0x2C8, 0x2C9, 0x2CC, 0x2CD, 0x2CE, 0x2D7, 0x2D8, 0x2D9, 0x2DA, 0x300,
      0x30F, 0x310, 0x312, 0x313, 0x314, 0x323, 0x326, 0x32D, 0x32F, 0x330, 0x332, 0x358, 0x359, 0x35E, 0x35F, 0x363,
      0x370, 0x485, 0x487, 0x951, 0x953, 0x10FB, 0x10FC, 0x1DF8, 0x1DF9, 0x202F, 0x2030, 0x20F0, 0x20F1, 0x2E17,
      0x2E18, 0xA700, 0xA708, 0xA92E, 0xA92F], by decide +kernel⟩),
    ("limb", ⟨[0x965, 0x966], by decide +kernel⟩),
    ("lina", ⟨[0x10107, 0x10134], by decide +kernel⟩),
    ("linb", ⟨[0x10100, 0x10103, 0x10107, 0x10134, 0x10137, 0x10140], by decide +kernel⟩),
    ("lisu", ⟨[0x2BC, 0x2BD, 0x2CD, 0x2CE, 0x300A, 0x300C], by decide +kernel⟩),
    ("lyci", ⟨[0x205A, 0x205B], by decide +kernel⟩),
    ("lydi", ⟨[0xB7, 0xB8, 0x2E31, 0x2E32], by decide +kernel⟩),
    ("mahj", ⟨[0xB7, 0xB8, 0x964, 0x970, 0xA830, 0xA83A], by decide +kernel⟩),
    ("mand", ⟨[0x640, 0x641], by decide +kernel⟩),
    ("mani", ⟨[0x640, 0x641], by decide +kernel⟩),
    ("mero", ⟨[0x205D, 0x205E], by decide +kernel⟩),
    ("mlym", ⟨[0x951, 0x953, 0x964, 0x966, 0x1CDA, 0x1CDB, 0x1CF2, 0x1CF3, 0xA830, 0xA833], by decide +kernel⟩),
    ("modi", ⟨[0xA830, 0xA83A], by decide +kernel⟩),
    ("mong", ⟨[0x1802, 0x1804, 0x1805, 0x1806, 0x202F, 0x2030, 0x3001, 0x3003, 0x3008, 0x300C], by decide +kernel⟩),
    ("mult", ⟨[0xA66, 0xA70], by decide +kernel⟩),
    ("mymr", ⟨[0xA92E, 0xA92F], by decide +kernel⟩),
    ("nand", ⟨[0x951, 0x952, 0x964, 0x966, 0xCE6, 0xCF0, 0x1CE9, 0x1CEA, 0x1CF2, 0x1CF3, 0x1CFA, 0x1CFB, 0xA830,
      0xA836], by decide +kernel⟩),
    ("newa", ⟨[0x951, 0x953, 0x1CD5, 0x1CD6, 0x1CD7, 0x1CD9, 0x1CE2, 0x1CE3, 0x1CE9, 0x1CEA, 0x1CEB, 0x1CEC, 0x1CED,
      0x1CEE], by decide +kernel⟩),
    ("nkoo", ⟨[0x60C, 0x60D, 0x61B, 0x61C, 0x61F, 0x620, 0xFD3E, 0xFD40], by decide +kernel⟩),
    ("onao", ⟨[0x964, 0x966], by decide +kernel⟩),
    ("orkh", ⟨[0x205A, 0x205B, 0x2E30, 0x2E31], by decide +kernel⟩),
    ("orya", ⟨[0x951, 0x953, 0x964, 0x966, 0x1CDA, 0x1CDB, 0x1CF2, 0x1CF3], by decide +kernel⟩),
    ("osge", ⟨[0x301, 0x302, 0x304, 0x305, 0x30B, 0x30C, 0x358, 0x359], by decide +kernel⟩),
    ("ougr", ⟨[0x640, 0x641, 0x10AF2, 0x10AF3], by decide +kernel⟩),
    ("perm", ⟨[0xB7, 0xB8, 0x300, 0x301, 0x306, 0x309, 0x313, 0x314, 0x483, 0x484], by decide +kernel⟩),
    ("phag", ⟨[0x1802, 0x1804, 0x1805, 0x1806, 0x202F, 0x2030, 0x3002, 0x3003], by decide +kernel⟩),
    ("phlp", ⟨[0x640, 0x641], by decide +kernel⟩),
    ("rohg", ⟨[0x60C, 0x60D, 0x61B, 0x61C, 0x61F, 0x620, 0x640, 0x641, 0x6D4, 0x6D5], by decide +kernel⟩),
    ("runr", ⟨[0x16EB, 0x16EE], by decide +kernel⟩),
    ("samr", ⟨[0x2E31, 0x2E32], by decide +kernel⟩),
    ("shaw", ⟨[0xB7, 0xB8], by decide +kernel⟩),
    ("shrd", ⟨[0x951, 0x952, 0x1CD7, 0x1CD8, 0x1CD9, 0x1CDA, 0x1CDC, 0x1CDE, 0x1CE0, 0x1CE1, 0x1CEA, 0x1CEB, 0x1CED,
      0x1CEE, 0xA830, 0xA836, 0xA838, 0xA839], by decide +kernel⟩),
    ("sind", ⟨[0x964, 0x966, 0xA830, 0xA83A], by decide +kernel⟩),
    ("sinh", ⟨[0x964, 0x966, 0x1CF2, 0x1CF3], by decide +kernel⟩),
    ("sogd", ⟨[0x640, 0x641], by decide +kernel⟩),
    ("sunu", ⟨[0x300, 0x302, 0x303, 0x304, 0x30D, 0x30E, 0x310, 0x311, 0x32D, 0x32E, 0x331,
      0x332], by decide +kernel⟩),
    ("sylo", ⟨[0x964, 0x966, 0x9E6, 0x9F0], by decide +kernel⟩),
    ("syrc", ⟨[0x303, 0x305, 0x307, 0x309, 0x30A, 0x30B, 0x323, 0x326, 0x32D, 0x32F, 0x330, 0x332, 0x60C, 0x60D,
      0x61B, 0x61D, 0x61F, 0x620, 0x640, 0x641, 0x64B, 0x656, 0x670, 0x671, 0x1DF8, 0x1DF9, 0x1DFA,
      0x1DFB], by decide +kernel⟩),
    ("tagb", ⟨[0x1735, 0x1737], by decide +kernel⟩),
    ("takr", ⟨[0x964, 0x966, 0xA830, 0xA83A], by decide +kernel⟩),
    ("tale", ⟨[0x300, 0x302, 0x307, 0x309, 0x30C, 0x30D, 0x1040, 0x104A], by decide +kernel⟩),
    ("taml", ⟨[0x951, 0x953, 0x964, 0x966, 0x1CDA, 0x1CDB, 0xA8F3, 0xA8F4, 0x11301, 0x11302, 0x11303, 0x11304,
      0x1133B, 0x1133D], by decide +kernel⟩),
    ("tang", ⟨[0x2FF0, 0x3000, 0x31EF, 0x31F0], by decide +kernel⟩),
    ("telu", ⟨[0x951, 0x953, 0x964, 0x966, 0x1CD5, 0x1CD7, 0x1CD8, 0x1CD9, 0x1CDA, 0x1CDB, 0x1CF2,
      0x1CF3], by decide +kernel⟩),
    ("tfng", ⟨[0x302, 0x303, 0x304, 0x305, 0x306, 0x30A, 0x323, 0x324], by decide +kernel⟩),
    ("tglg", ⟨[0x1735, 0x1737], by decide +kernel⟩),
    ("thaa", ⟨[0x60C, 0x60D, 0x61B, 0x61D, 0x61F, 0x620, 0x660, 0x66A, 0xFDF2, 0xFDF3, 0xFDFD,
      0xFDFE], by decide +kernel⟩),
    ("thai", ⟨[0x2BC, 0x2BD, 0x2D7, 0x2D8, 0x303, 0x304, 0x331, 0x332], by decide +kernel⟩),
    ("tibt", ⟨[0x3008, 0x300C], by decide +kernel⟩),
    ("tirh", ⟨[0x951, 0x953, 0x964, 0x966, 0x1CD5, 0x1CD6, 0x1CE2, 0x1CE3, 0x1CF2, 0x1CF3, 0xA830,
      0xA83A], by decide +kernel⟩),
    ("todr", ⟨[0x301, 0x302, 0x304, 0x305, 0x307, 0x308, 0x311, 0x312, 0x313, 0x314, 0x35E,
      0x35F], by decide +kernel⟩),
    ("toto", ⟨[0x2BC, 0x2BD], by decide +kernel⟩),
    ("tutg", ⟨[0xCE6, 0xCF0, 0x1CF2, 0x1CF3, 0x1CF4, 0x1CF5, 0xA830, 0xA836, 0xA8F1, 0xA8F2], by decide +kernel⟩),
    ("yezi", ⟨[0x60C, 0x60D, 0x61B, 0x61C, 0x61F, 0x620, 0x660, 0x66A], by decide +kernel⟩),
    ("yiii", ⟨[0x3001, 0x3003, 0x3008, 0x3012, 0x3014, 0x301C, 0x30FB, 0x30FC, 0xFF61, 0xFF66], by decide +kernel⟩),
    ("zinh", ⟨[0x300, 0x30F, 0x310, 0x312, 0x313, 0x314, 0x323, 0x326, 0x32D, 0x32F, 0x330, 0x332, 0x342, 0x343,
      0x345, 0x346, 0x358, 0x359, 0x35E, 0x35F, 0x363, 0x370, 0x485, 0x487, 0x64B, 0x656, 0x670, 0x671, 0x951, 0x953,
      0x1CD0, 0x1CD3, 0x1CD4, 0x1CE1, 0x1CE2, 0x1CE9, 0x1CED, 0x1CEE, 0x1CF4, 0x1CF5, 0x1CF8, 0x1CFA, 0x1DC0, 0x1DC2,
      0x1DF8, 0x1DF9, 0x1DFA, 0x1DFB, 0x20F0, 0x20F1, 0x302A, 0x302E, 0x3099, 0x309B, 0x102E0, 0x102E1, 0x1133B,
      0x1133C], by decide +kernel⟩),
    ("zyyy", ⟨[0xB7, 0xB8, 0x2BC, 0x2BD, 0x2C7, 0x2C8, 0x2C9, 0x2CC, 0x2CD, 0x2CE, 0x2D7, 0x2D8, 0x2D9, 0x2DA, 0x374,
      0x375, 0x60C, 0x60D, 0x61B, 0x61C, 0x61F, 0x620, 0x640, 0x641, 0x964, 0x966, 0x10FB, 0x10FC, 0x16EB, 0x16EE,
      0x1735, 0x1737, 0x1802, 0x1804, 0x1805, 0x1806, 0x1CD3, 0x1CD4, 0x1CE1, 0x1CE2, 0x1CE9, 0x1CED, 0x1CEE, 0x1CF4,
      0x1CF5, 0x1CF8, 0x1CFA, 0x1CFB, 0x202F, 0x2030, 0x204F, 0x2050, 0x205A, 0x205B, 0x205D, 0x205E, 0x2E17, 0x2E18,
      0x2E30, 0x2E32, 0x2E3C, 0x2E3D, 0x2E41, 0x2E42, 0x2E43, 0x2E44, 0x2FF0, 0x3000, 0x3001, 0x3004, 0x3006, 0x3007,
      0x3008, 0x3012, 0x3013, 0x3020, 0x3030, 0x3036, 0x3037, 0x3038, 0x303C, 0x3040, 0x309B, 0x309D, 0x30A0, 0x30A1,
      0x30FB, 0x30FD, 0x3190, 0x31A0, 0x31C0, 0x31E6, 0x31EF, 0x31F0, 0x3220, 0x3248, 0x3280, 0x32B1, 0x32C0, 0x32CC,
      0x32FF, 0x3300, 0x3358, 0x3371, 0x337B, 0x3380, 0x33E0, 0x33FF, 0xA700, 0xA708, 0xA830, 0xA83A, 0xA92E, 0xA92F,
      0xA9CF, 0xA9D0, 0xFD3E, 0xFD40, 0xFE45, 0xFE47, 0xFF61, 0xFF66, 0xFF70, 0xFF71, 0xFF9E, 0xFFA0, 0x10100,
      0x10103, 0x10107, 0x10134, 0x10137, 0x10140, 0x102E1, 0x102FC, 0x1BCA0, 0x1BCA4, 0x1D360, 0x1D372, 0x1F250,
      0x1F252], by decide +kernel⟩)]

/-- The characters that are used in a script. -/
def Script.extension (script : Script) : CharSet :=
  match sharedCharacters.find? (·.1 == script.code) with
  | some (_, changed) => script.chars.symmDiff changed
  | none => script.chars

end RuleScanner.Unicode
