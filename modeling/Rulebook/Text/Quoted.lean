import Rulebook.Text.Printable

/-!
# Quoted text

Text inside a larger display is put between quotation marks and escaped, so that it can be told
from the display around it.  Single quotes are used unless the text holds a single quote and no
double quote.
-/

namespace Rulebook

namespace Text

/-- The quotation mark around a text: single, unless only single quotes occur inside. -/
def quoteFor (text : Text) : CodePoint :=
  if text.contains (.ofChar '\'') && !text.contains (.ofChar '"') then .ofChar '"'
  else .ofChar '\''

/-- The escaped form of one code point inside the given quotation mark. -/
def escapePoint (quote point : CodePoint) : Text :=
  if point = quote || point = .ofChar '\\' then [.ofChar '\\', point]
  else if point = .ofChar '\n' then "\\n"
  else if point = .ofChar '\r' then "\\r"
  else if point = .ofChar '\t' then "\\t"
  else if point.isPrintable then [point]
  else if point.val < 0x100 then ofString "\\x" ++ hex 2 point.val
  else if point.val < 0x10000 then ofString "\\u" ++ hex 4 point.val
  else ofString "\\U" ++ hex 8 point.val

/-- The text between quotation marks, with every code point that needs it escaped. -/
def quoted (text : Text) : Text :=
  let quote := text.quoteFor
  quote :: text.flatMap (escapePoint quote) ++ [quote]

example : quoted "a\"'" = ofString "'a\"\\''" := by decide +kernel

end Text

end Rulebook
