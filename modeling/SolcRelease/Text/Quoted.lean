import SolcRelease.Text.Digit
import SolcRelease.Text.Printable

/-! Quoted texts: how a text is shown inside a message. -/

namespace SolcRelease

/--
The quote that encloses a text.

A single quote, unless the text holds one and holds no double quote.
-/
def Text.quote (text : Text) : CodePoint :=
  if text.contains '\'' && !text.contains '"' then '"' else '\''

/-- One code point as it stands between two given quotes. -/
def quotedCodePoint (quote c : CodePoint) : Text :=
  if c == quote || c == '\\' then ['\\', c]
  else if c == '\n' then "\\n"
  else if c == '\r' then "\\r"
  else if c == '\t' then "\\t"
  else if isPrintable c then [c]
  else
    -- The escape grows with the code point: two, four or eight digits.
    if c.toNat ≤ 0xff then "\\x" ++ hexText 2 c.toNat
    else if c.toNat ≤ 0xffff then "\\u" ++ hexText 4 c.toNat
    else "\\U" ++ hexText 8 c.toNat

/-- The text between quotes, with every character in it visible. -/
def Text.quoted (text : Text) : Text :=
  text.quote :: text.flatMap (quotedCodePoint text.quote) ++ [text.quote]

end SolcRelease
