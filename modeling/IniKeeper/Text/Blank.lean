import IniKeeper.Text

/-!
# White space

White space is the Unicode property `White_Space`: twenty-five characters, listed below as ranges.
Trimming removes them from the ends of a text and nothing else.
-/

namespace IniKeeper

namespace Text

/-- The characters of the Unicode property `White_Space`. -/
def isBlank (c : Char) : Bool :=
  let code := c.toNat
  (0x09 ≤ code && code ≤ 0x0d) || code == 0x20 || code == 0x85 || code == 0xa0 ||
    code == 0x1680 || (0x2000 ≤ code && code ≤ 0x200a) || code == 0x2028 || code == 0x2029 ||
    code == 0x202f || code == 0x205f || code == 0x3000

/-- Text without the white space at its start. -/
def trimStart (text : Text) : Text := text.dropWhile isBlank

/-- Text without the white space at its end. -/
def trimEnd (text : Text) : Text := (text.reverse.dropWhile isBlank).reverse

/-- Text without the white space at its two ends. -/
def trim (text : Text) : Text := trimEnd (trimStart text)

end Text

end IniKeeper
