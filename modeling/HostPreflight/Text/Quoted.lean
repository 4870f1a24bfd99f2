import HostPreflight.Text.Hex
import HostPreflight.Text.Hidden

/-!
# Quoted text

Text in double quotes for messages and log lines.  A reader of the log must be
able to see what the text holds, so quotes, backslashes and every hidden
character are spelled out; in particular a quoted text never contains a line
feed.

## Main definitions

* `quoteChar c` — how one character stands in a quoted text.
* `quoted cs` — a text in double quotes.
-/

namespace HostPreflight.Text

/-- How one character stands in a quoted text. -/
def quoteChar (c : Char) : List Char :=
  if c = '\x00' then ['\\', '0']
  else if c = '\t' then ['\\', 't']
  else if c = '\r' then ['\\', 'r']
  else if c = '\n' then ['\\', 'n']
  else if c = '\\' then ['\\', '\\']
  else if c = '"' then ['\\', '"']
  else if isHidden c then ['\\', 'u', '\x7b'] ++ hex c.toNat ++ ['\x7d']
  else [c]

/-- A text in double quotes. -/
def quoted (cs : List Char) : List Char :=
  '"' :: cs.flatMap quoteChar ++ ['"']

/-- The quoted form of a string. -/
def quotedString (s : String) : String := String.ofList (quoted s.toList)

end HostPreflight.Text
