import Munch.Unicode.Property
import Munch.Unicode.Recent

/-!
# Quoted text

Texts and characters between quotes, with every character that could mislead a reader escaped:
the quote itself and the backslash by a backslash, the usual controls by a letter, and everything
that has no visible form of its own, or that joins the character before it, by its code point.
Letters do not join the character before them, whatever place in a cluster they are given.

* `quoteText`: a text between double quotes.
* `quoteChar`: a character between single quotes.
-/

namespace Munch.Text

/-- Characters written by their code points: those without a form of their own, but for the plain
blank, and those that join the character before them. -/
def invisible : CharSet :=
  CharSet.unions [Unicode.Category.other, Unicode.Category.separator \ .singleton ' ',
    Unicode.Property.defaultIgnorable, Unicode.Property.graphemeExtend \ Unicode.Category.letter]

/-- Characters written as themselves. -/
def visible : CharSet := invisible.compl ∪ Unicode.Recent.spacing

/-- A digit of a hexadecimal number. -/
def hexDigit (d : Nat) : Char := Char.ofNat (if d < 10 then 48 + d else 87 + d)

/-- The hexadecimal digits of `n`, at most `fuel` of them, without leading zeros. -/
def hexDigits : Nat → Nat → List Char
  | 0, _ => []
  | fuel + 1, n => (if n < 16 then [] else hexDigits fuel (n / 16)) ++ [hexDigit (n % 16)]

/-- The escape of a character by its code point. -/
def escapeCode (c : Char) : List Char := ['\\', 'u', '\x7b'] ++ hexDigits 6 c.toNat ++ ['\x7d']

/-- A character as it is written between quotes of the kind `quote`. -/
def escapeChar (quote c : Char) : List Char :=
  if c = quote ∨ c = '\\' then ['\\', c]
  else if c = '\n' then ['\\', 'n']
  else if c = '\r' then ['\\', 'r']
  else if c = '\t' then ['\\', 't']
  else if c = '\x00' then ['\\', '0']
  else if visible.contains c then [c]
  else escapeCode c

/-- The characters of a text between double quotes. -/
def quoteChars (cs : List Char) : List Char := '"' :: cs.flatMap (escapeChar '"') ++ ['"']

/-- A text between double quotes. -/
def quoteText (s : String) : String := String.ofList (quoteChars s.toList)

/-- A character between single quotes. -/
def quoteChar (c : Char) : String := String.ofList ('\'' :: escapeChar '\'' c ++ ['\''])

end Munch.Text
