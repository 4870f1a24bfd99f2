/-!
# UTF-8

Text as octets.  Files must hold well-formed UTF-8 to be read, whereas the
output of a command and the names in a directory are decoded leniently: every
octet sequence that breaks off or cannot start is replaced by one U+FFFD.

The decoder takes one octet at a time.  Between octets it holds what is still
owed of the character begun, so what it makes of the octets after an ASCII octet
does not depend on the octets before it.

## Main definitions

* `encode cs` — the octets of a text.
* `Pending` — what is known between two octets; `advance` takes one more.
* `decodeUnits octets` — the characters, `none` standing for a broken sequence.
* `decode? octets` — the text, if no sequence is broken.
* `decodeLossy octets` — the text with U+FFFD for each broken sequence.
-/

namespace HostPreflight.Text.Utf8

/-- The octets of a text. -/
def encode (cs : List Char) : List UInt8 := cs.flatMap String.utf8EncodeChar

/-- What is known between two octets. -/
inductive Pending where
  /-- The next octet starts a character. -/
  | start
  /-- A character has begun: `bits` are its bits so far, the next octet must lie
  between `low` and `high`, and `more` octets follow that one. -/
  | inside (bits : Nat) (low high : UInt8) (more : Nat)
  deriving DecidableEq

/-- The first octet of a character: the character itself if it is ASCII, what is
owed if the octet can start a longer one, and a broken sequence otherwise. -/
def begin (octet : UInt8) : List (Option Char) × Pending :=
  let n := octet.toNat
  if n < 0x80 then ([some (Char.ofNat n)], .start)
  else if n < 0xC2 then ([none], .start)
  else if n < 0xE0 then ([], .inside (n - 0xC0) 0x80 0xBF 0)
  else if n = 0xE0 then ([], .inside 0 0xA0 0xBF 1)
  else if n = 0xED then ([], .inside 0x0D 0x80 0x9F 1)
  else if n < 0xF0 then ([], .inside (n - 0xE0) 0x80 0xBF 1)
  else if n = 0xF0 then ([], .inside 0 0x90 0xBF 2)
  else if n < 0xF4 then ([], .inside (n - 0xF0) 0x80 0xBF 2)
  else if n = 0xF4 then ([], .inside 4 0x80 0x8F 2)
  else ([none], .start)

/-- One more octet.  An octet that does not continue the character begun breaks
it off and is itself looked at as a first octet. -/
def advance : Pending → UInt8 → List (Option Char) × Pending
  | .start, octet => begin octet
  | .inside bits low high more, octet =>
    if low ≤ octet ∧ octet ≤ high then
      let bits := bits * 64 + (octet.toNat - 0x80)
      match more with
      | 0 => ([some (Char.ofNat bits)], .start)
      | more + 1 => ([], .inside bits 0x80 0xBF more)
    else
      let (units, pending) := begin octet
      (none :: units, pending)

/-- The characters of `octets` from a state on; a character that the end cuts
off is broken. -/
def decodeFrom : Pending → List UInt8 → List (Option Char)
  | .start, [] => []
  | .inside .., [] => [none]
  | pending, octet :: octets =>
    (advance pending octet).1 ++ decodeFrom (advance pending octet).2 octets

/-- The characters of `octets`, `none` standing for a broken sequence. -/
def decodeUnits (octets : List UInt8) : List (Option Char) := decodeFrom .start octets

/-- The text of `octets`, if they are well formed. -/
def decode? (octets : List UInt8) : Option (List Char) := (decodeUnits octets).mapM id

/-- The character that replaces a broken sequence. -/
def replacement : Char := '\uFFFD'

/-- The text of `octets` with U+FFFD for each broken sequence. -/
def decodeLossy (octets : List UInt8) : List Char :=
  (decodeUnits octets).map fun unit => unit.getD replacement

/-- The lenient text of `octets` as a string. -/
def stringLossy (octets : List UInt8) : String := String.ofList (decodeLossy octets)

end HostPreflight.Text.Utf8
