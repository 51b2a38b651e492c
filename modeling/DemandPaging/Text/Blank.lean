/-!
# Blanks and words

The blank characters are those that separate words in any script.  A line is
cut into its words at every run of blanks, and trimmed of the blanks around
it.
-/

namespace DemandPaging

namespace Text

def isBlank (letter : Char) : Bool :=
  let code := letter.toNat
  (9 ≤ code && code ≤ 13) || code == 0x20 || code == 0x85 || code == 0xA0 || code == 0x1680 ||
    (0x2000 ≤ code && code ≤ 0x200A) || code == 0x2028 || code == 0x2029 || code == 0x202F ||
    code == 0x205F || code == 0x3000

/-- The words of a line of characters, given the characters of the word begun
before it, last one first. -/
def wordsAfter (begun : List Char) : List Char → List String
  | [] => if begun.isEmpty then [] else [String.ofList begun.reverse]
  | letter :: rest =>
    if isBlank letter then
      if begun.isEmpty then
        wordsAfter [] rest
      else
        String.ofList begun.reverse :: wordsAfter [] rest
    else
      wordsAfter (letter :: begun) rest

def words (line : String) : List String :=
  wordsAfter [] line.toList

def trim (line : String) : String :=
  String.ofList
    ((line.toList.dropWhile isBlank).reverse.dropWhile isBlank).reverse

end Text

end DemandPaging
