/-!
# White space

Two sets of white space are in use. `isSpace` is the Unicode property
White_Space; `isBlank` adds the four information separators U+001C to U+001F.
Zero-width characters belong to neither.
-/

namespace PatchReview.Text

def isSpace (c : Char) : Bool :=
  let n := c.toNat
  (9 ≤ n && n ≤ 13) || n == 32 || n == 133 || n == 160 || n == 5760 ||
    (8192 ≤ n && n ≤ 8202) || n == 8232 || n == 8233 || n == 8239 || n == 8287 || n == 12288

def isBlank (c : Char) : Bool :=
  (28 ≤ c.toNat && c.toNat ≤ 31) || isSpace c

def trimBy (inSet : Char → Bool) (text : List Char) : List Char :=
  ((text.dropWhile inSet).reverse.dropWhile inSet).reverse

def strip (text : List Char) : List Char := trimBy isBlank text

end PatchReview.Text
