import RuleScanner.Unicode.Category
import RuleScanner.Unicode.DefaultIgnorable
import RuleScanner.Unicode.GraphemeExtend

/-!
# Characters without a shape

Some characters cannot be seen where they stand: controls, formats, private and unassigned code points, separators other than
the space, characters for which nothing is drawn, and marks that are drawn on the character before them.
-/

namespace RuleScanner.Unicode

/-- The characters that have no shape: those of the groups of controls and separators but the space, and those for which
nothing is drawn. -/
def unprintable : CharSet := .unions [other, separator.diff (.single ' '), defaultIgnorable]

/-- The marks that are drawn on the character before them. Two letters are drawn so in one script only, and stand for
themselves elsewhere. -/
def combining : CharSet := graphemeExtend.diff modifierLetter

/-- The character cannot be seen where it stands. -/
def isUnprintable (c : Char) : Bool := unprintable.contains c || combining.contains c

end RuleScanner.Unicode
