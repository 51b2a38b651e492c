import DemandPaging.Text.Combining
import DemandPaging.Text.Digits
import DemandPaging.Text.Unprintable

/-!
# Quoted text

Texts between double quotes, on one line and with every character visible.
Quotes, backslashes and characters that would not show are escaped.
-/

namespace DemandPaging

namespace Text

/-- A character by its code point. -/
def escapeCodePoint (letter : Char) : String :=
  "\\u\x7b" ++ hexDigits letter.toNat ++ "\x7d"

/-- A character inside a quoted text. -/
def quoteChar (letter : Char) : String :=
  if letter = '"' then "\\\""
  else if letter = '\\' then "\\\\"
  else if letter = '\n' then "\\n"
  else if letter = '\r' then "\\r"
  else if letter = '\t' then "\\t"
  else if letter = '\x00' then "\\0"
  else if isCombining letter || isUnprintable letter then escapeCodePoint letter
  else String.ofList [letter]

/-- A text between quotes. -/
def quote (text : String) : String :=
  "\"" ++ String.join (text.toList.map quoteChar) ++ "\""

/-- A list of texts, each between quotes. -/
def quoteList (texts : List String) : String :=
  "[" ++ ", ".intercalate (texts.map quote) ++ "]"

end Text

end DemandPaging
