/-!
# Helpdesk.Text.Blank — white space, and text with its outer white space removed.

Customers paste text from everywhere, so "blank" is the Unicode notion: the ASCII controls from tab
to carriage return, the four information separators, the space, NEL, the no-break spaces, the
typographic spaces, the line and paragraph separators and the ideographic space. Zero-width
characters are *not* blank. Every trimming, splitting and folding of white space in this library
uses this one class.
-/
namespace Helpdesk.Text

/-- The blank characters. -/
def isBlank (c : Char) : Bool :=
  let n := c.toNat
  (9 ≤ n && n ≤ 13) || (28 ≤ n && n ≤ 32) || n == 0x85 || n == 0xa0 || n == 0x1680 ||
    (0x2000 ≤ n && n ≤ 0x200a) || n == 0x2028 || n == 0x2029 || n == 0x202f || n == 0x205f ||
    n == 0x3000

/-- What is left after the leading characters of a class. -/
def dropLeading (p : Char → Bool) (cs : List Char) : List Char :=
  cs.dropWhile p

/-- What is left before the trailing characters of a class. -/
def dropTrailing (p : Char → Bool) (cs : List Char) : List Char :=
  (cs.reverse.dropWhile p).reverse

/-- Text without its leading and trailing characters of a class. -/
def trimBy (p : Char → Bool) (cs : List Char) : List Char :=
  dropTrailing p (dropLeading p cs)

/-- Characters without leading and trailing blanks. -/
def trimChars (cs : List Char) : List Char :=
  trimBy isBlank cs

/-- Text without leading and trailing blanks. -/
def trim (s : String) : String :=
  String.ofList (trimChars s.toList)

/-- Text without leading blanks. -/
def trimLeft (s : String) : String :=
  String.ofList (dropLeading isBlank s.toList)

/-- Text without trailing blanks. -/
def trimRight (s : String) : String :=
  String.ofList (dropTrailing isBlank s.toList)

/-- Each run of blanks becomes one space. -/
def foldBlanksChars : List Char → List Char
  | [] => []
  | c :: rest =>
    if isBlank c then
      match rest with
      | [] => [' ']
      | d :: _ => if isBlank d then foldBlanksChars rest else ' ' :: foldBlanksChars rest
    else c :: foldBlanksChars rest

/-- Text in which each run of blanks is one space. -/
def foldBlanks (s : String) : String :=
  String.ofList (foldBlanksChars s.toList)

/-- Text that is empty or all blank. -/
def isBlankText (s : String) : Bool :=
  s.toList.all isBlank

end Helpdesk.Text
