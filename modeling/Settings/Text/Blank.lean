import Settings.Text.Ranges

/-!
# Blanks around a text

Two sets of characters count as blank.  Unicode's white space surrounds numbers; duration literals
and names also allow the four information separators U+001C to U+001F.
-/

namespace Settings.Text

/-- The Unicode property `White_Space`. -/
def whiteSpaceRanges : List (Nat × Nat) :=
  [(0x9, 0xD), (0x20, 0x20), (0x85, 0x85), (0xA0, 0xA0), (0x1680, 0x1680), (0x2000, 0x200A),
   (0x2028, 0x2029), (0x202F, 0x202F), (0x205F, 0x205F), (0x3000, 0x3000)]

def isWhiteSpace (c : Char) : Bool :=
  inRanges whiteSpaceRanges c.toNat

/-- Whether a character is white space or an information separator. -/
def isBlank (c : Char) : Bool :=
  isWhiteSpace c || inRanges [(0x1C, 0x1F)] c.toNat

/-- Drops the characters satisfying `p` from both ends. -/
def trimWhere (p : Char → Bool) (cs : List Char) : List Char :=
  (((cs.dropWhile p).reverse).dropWhile p).reverse

/-- The text without the blanks around it. -/
def strip (s : String) : List Char :=
  trimWhere isBlank s.toList

/-- Whether a text holds blanks only. -/
def isBlankText (s : String) : Bool :=
  s.toList.all isBlank

@[simp] theorem trimWhere_nil (p : Char → Bool) : trimWhere p [] = [] := rfl

end Settings.Text
