/-!
# Comparing a text with a lower-case ASCII keyword, ignoring case

Full Unicode lower-casing maps a character to one or more characters. The result can equal
an ASCII keyword only where every character maps to one ASCII character, and the only
characters that do are the ASCII ones and the Kelvin sign U+212A, whose lower case is `k`.
So comparing character by character after `foldChar` decides exactly whether the lower-cased
text is the keyword.

Main definitions:
* `foldChar`: ASCII upper case to lower case, the Kelvin sign to `k`, all else unchanged.
* `caselessEq`: the text, lower-cased, is the given lower-case ASCII keyword.
-/

namespace SourceAudit.Text

/-- The lower case of a character where that is a single ASCII character; other characters
are left as they are (and then never equal an ASCII keyword character). -/
def foldChar (c : Char) : Char :=
  if c.isUpper then c.toLower
  else if c.toNat == 0x212A then 'k'
  else c

/-- The text, lower-cased, equals `keyword`, a lower-case ASCII word. -/
def caselessEq (s keyword : String) : Bool :=
  s.toList.map foldChar == keyword.toList

example : caselessEq "SKIP" "skip" ∧ caselessEq "\u212Aey" "key" ∧ !caselessEq "SKIP" "ski" := by
  decide

end SourceAudit.Text
