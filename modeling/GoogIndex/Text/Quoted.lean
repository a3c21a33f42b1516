/-
  Text/Quoted.lean --- the quoted display of a text.

  Messages name paths and values between quotes.  The quote is the apostrophe
  unless the text has an apostrophe and no double quote.  A backslash, the quote
  itself and every code point without a visible form are escaped, all others stand
  for themselves.
-/
import GoogIndex.Text.Hexadecimal
import GoogIndex.Text.Point
import GoogIndex.Text.UnprintableTable

set_option autoImplicit false

namespace GoogIndex.Text

/-- The quote that a displayed text takes. -/
def quoteFor (ps : List Point) : Char :=
  if ps.contains (.char '\'') && !ps.contains (.char '"') then '"' else '\''

/-- The number of a code point, escaped. -/
def numberEscape (n : Nat) : List Char :=
  if n < 0x100 then '\\' :: 'x' :: hexDigits 2 n
  else if n < 0x10000 then '\\' :: 'u' :: hexDigits 4 n
  else '\\' :: 'U' :: hexDigits 8 n

/-- How one code point is displayed between quotes. -/
def displayPoint (quote : Char) : Point → List Char
  | .lone half => numberEscape (Point.lone half).toNat
  | .char c =>
      if c = quote || c = '\\' then ['\\', c]
      else if c = '\t' then ['\\', 't']
      else if c = '\n' then ['\\', 'n']
      else if c = '\r' then ['\\', 'r']
      else if unprintableTable.hasChar c then numberEscape c.toNat
      else [c]

/-- A text between quotes. -/
def quoted (s : Text) : String :=
  let quote := quoteFor s.toList
  .ofList (quote :: (s.toList.flatMap (displayPoint quote) ++ [quote]))

end GoogIndex.Text
