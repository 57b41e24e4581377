/-
White space, and the words that it separates. The characters are those of the property
White_Space of Unicode 17.0, so the ideographic and the no-break space count and the zero-width
ones do not.
-/

namespace HdWallet.Unicode

/-- The property White_Space. -/
def isWhiteSpace (c : Char) : Bool :=
  let code := c.toNat
  (0x09 ≤ code && code ≤ 0x0D) || code == 0x20 || code == 0x85 || code == 0xA0 ||
    code == 0x1680 || (0x2000 ≤ code && code ≤ 0x200A) || code == 0x2028 || code == 0x2029 ||
    code == 0x202F || code == 0x205F || code == 0x3000

/-- The text less the white space at its two ends. -/
def trim (text : List Char) : List Char :=
  ((text.dropWhile isWhiteSpace).reverse.dropWhile isWhiteSpace).reverse

/-- The longest stretches without white space, in order. -/
def words : List Char → List (List Char)
  | [] => []
  | c :: rest =>
    if isWhiteSpace c then words rest
    else match rest, words rest with
      | d :: _, word :: more => if isWhiteSpace d then [c] :: word :: more else (c :: word) :: more
      | _, more => [c] :: more

/-- `trim`, of strings. -/
def trimmed (text : String) : String :=
  String.ofList (trim text.toList)

end HdWallet.Unicode
