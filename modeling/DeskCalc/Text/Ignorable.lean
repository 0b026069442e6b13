import DeskCalc.Text.CodeRanges

/-!
# Characters a reader is not shown

An ignorable character is a filler, a joiner or a selector that a display leaves
out when it has no use for it. The class is the property
Default_Ignorable_Code_Point of Unicode 17.0. Some of its characters are letters by
their general category, as the Hangul fillers are.
-/

namespace DeskCalc.Text

/-- The ranges of code points with the property Default_Ignorable_Code_Point. -/
def ignorableRanges : CodeRanges where
  ranges :=
    [(0x00AD, 0x00AD), (0x034F, 0x034F), (0x061C, 0x061C), (0x115F, 0x1160), (0x17B4, 0x17B5),
     (0x180B, 0x180F), (0x200B, 0x200F), (0x202A, 0x202E), (0x2060, 0x206F), (0x3164, 0x3164),
     (0xFE00, 0xFE0F), (0xFEFF, 0xFEFF), (0xFFA0, 0xFFA0), (0xFFF0, 0xFFF8), (0x1BCA0, 0x1BCA3),
     (0x1D173, 0x1D17A), (0xE0000, 0xE0FFF)]
  apart := by decide +kernel

/-- A display may leave the character out. -/
def isIgnorable (c : Char) : Bool := ignorableRanges.covers c

end DeskCalc.Text
