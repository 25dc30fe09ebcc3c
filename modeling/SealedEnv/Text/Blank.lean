/-!
Contract: white space and its removal at the ends of a text.

Owns:
- `isBlank`, the Unicode property White_Space;
- `trimStart`, `trimEnd` and `trim` on lists of characters.

Does not own: line ends, which `Text.Lines` splits on.
-/

namespace SealedEnv.Text

/-- Holds of the twenty-five characters with the property White_Space. -/
def isBlank (c : Char) : Bool :=
  let code := c.toNat
  (0x9 ≤ code && code ≤ 0xd) || code == 0x20 || code == 0x85 || code == 0xa0 ||
    code == 0x1680 || (0x2000 ≤ code && code ≤ 0x200a) || code == 0x2028 || code == 0x2029 ||
    code == 0x202f || code == 0x205f || code == 0x3000

def dropTrailing (p : Char → Bool) (text : List Char) : List Char :=
  (text.reverse.dropWhile p).reverse

def trimStart (text : List Char) : List Char := text.dropWhile isBlank

def trimEnd (text : List Char) : List Char := dropTrailing isBlank text

def trim (text : List Char) : List Char := trimEnd (trimStart text)

end SealedEnv.Text
