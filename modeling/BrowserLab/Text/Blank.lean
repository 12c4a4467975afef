/-!
# White space

The characters with the Unicode property White_Space, and what is cut at them: the ends of a text
and the gaps between its words.
-/

namespace BrowserLab.Text

/-- A character with the property White_Space. -/
def isBlank (c : Char) : Bool :=
  let n := c.toNat
  (9 ≤ n && n ≤ 13) || n = 0x20 || n = 0x85 || n = 0xa0 || n = 0x1680 ||
    (0x2000 ≤ n && n ≤ 0x200a) || n = 0x2028 || n = 0x2029 || n = 0x202f || n = 0x205f || n = 0x3000

/-- Without the white space at both ends. -/
def trimChars (cs : List Char) : List Char :=
  ((cs.dropWhile isBlank).reverse.dropWhile isBlank).reverse

/-- Without the white space at both ends. -/
def trim (s : String) : String := String.ofList (trimChars s.toList)

/-- The longest pieces without white space; `word` holds the piece under way, last character
first. -/
def wordsFrom (word : List Char) : List Char → List (List Char)
  | [] => if word.isEmpty then [] else [word.reverse]
  | c :: rest =>
    if isBlank c then
      if word.isEmpty then wordsFrom [] rest else word.reverse :: wordsFrom [] rest
    else wordsFrom (c :: word) rest

/-- The words of a text: its longest pieces without white space. -/
def words (s : String) : List String := (wordsFrom [] s.toList).map String.ofList

end BrowserLab.Text
