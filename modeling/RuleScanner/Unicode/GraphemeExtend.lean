import RuleScanner.Unicode.Mark

/-!
# Extending characters

The characters with the property Grapheme_Extend: they are drawn on the character before them.
-/

namespace RuleScanner.Unicode

/-- The characters with the property Grapheme_Extend that are neither nonspacing nor enclosing marks. -/
def otherGraphemeExtend : CharSet :=
  ⟨[0x9BE, 0x9BF, 0x9D7, 0x9D8, 0xB3E, 0xB3F, 0xB57, 0xB58, 0xBBE, 0xBBF, 0xBD7, 0xBD8, 0xCC0, 0xCC1, 0xCC2, 0xCC3,
    0xCC7, 0xCC9, 0xCCA, 0xCCC, 0xCD5, 0xCD7, 0xD3E, 0xD3F, 0xD57, 0xD58, 0xDCF, 0xDD0, 0xDDF, 0xDE0, 0x1715, 0x1716,
    0x1734, 0x1735, 0x1B35, 0x1B36, 0x1B3B, 0x1B3C, 0x1B3D, 0x1B3E, 0x1B43, 0x1B45, 0x1BAA, 0x1BAB, 0x1BF2, 0x1BF4,
    0x200C, 0x200D, 0x302E, 0x3030, 0xA953, 0xA954, 0xA9C0, 0xA9C1, 0xFF9E, 0xFFA0, 0x111C0, 0x111C1, 0x11235,
    0x11236, 0x1133E, 0x1133F, 0x1134D, 0x1134E, 0x11357, 0x11358, 0x113B8, 0x113B9, 0x113C2, 0x113C3, 0x113C5,
    0x113C6, 0x113C7, 0x113CA, 0x113CF, 0x113D0, 0x114B0, 0x114B1, 0x114BD, 0x114BE, 0x115AF, 0x115B0, 0x116B6,
    0x116B7, 0x11930, 0x11931, 0x1193D, 0x1193E, 0x11F41, 0x11F42, 0x16FF0, 0x16FF2, 0x1D165, 0x1D167, 0x1D16D,
    0x1D173, 0xE0020, 0xE0080], by decide +kernel⟩

/-- The characters with the property Grapheme_Extend. -/
def graphemeExtend : CharSet := .unions [nonspacingMark, enclosingMark, otherGraphemeExtend]

end RuleScanner.Unicode
