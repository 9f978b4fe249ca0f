/-!
# Base64 text

The standard alphabet of RFC 4648 (`A`–`Z`, `a`–`z`, `0`–`9`, `+`, `/`)
with padding. Line breaks (carriage returns and line feeds) are ignored
wherever they stand. What remains must come in groups of four characters
of the alphabet, the last group possibly ending in `=` or `==`; the bits
of a last character that do not make a whole byte are ignored.

Proved: `decodeGroups_nil` (no text decodes to no bytes) and
`decodeBase64_padding` (a lone padded group decodes to one byte).
-/

namespace Transclusion.Text

def sextet (c : Char) : Option Nat :=
  if 'A' ≤ c && c ≤ 'Z' then some (c.toNat - 65)
  else if 'a' ≤ c && c ≤ 'z' then some (c.toNat - 71)
  else if '0' ≤ c && c ≤ '9' then some (c.toNat + 4)
  else if c == '+' then some 62
  else if c == '/' then some 63
  else none

/-- Decodes groups of four characters; `none` when a character is out of
place or the last group is incomplete. -/
def decodeGroups : List Char → Option (List UInt8)
  | [] => some []
  | [a, b, '=', '='] => do
    let a ← sextet a
    let b ← sextet b
    pure [(a * 4 + b / 16).toUInt8]
  | [a, b, c, '='] => do
    let a ← sextet a
    let b ← sextet b
    let c ← sextet c
    pure [(a * 4 + b / 16).toUInt8, ((b % 16) * 16 + c / 4).toUInt8]
  | a :: b :: c :: d :: rest => do
    let a ← sextet a
    let b ← sextet b
    let c ← sextet c
    let d ← sextet d
    let tail ← decodeGroups rest
    pure ((a * 4 + b / 16).toUInt8 :: ((b % 16) * 16 + c / 4).toUInt8 :: ((c % 4) * 64 + d).toUInt8 :: tail)
  | _ => none

/-- Decodes base64 text, ignoring line breaks. -/
def decodeBase64 (s : String) : Option (List UInt8) :=
  decodeGroups (s.toList.filter fun c => c != '\n' && c != '\r')

theorem decodeGroups_nil : decodeGroups [] = some [] := rfl

theorem decodeBase64_padding : decodeBase64 "YQ==" = some [97] := by decide

end Transclusion.Text
