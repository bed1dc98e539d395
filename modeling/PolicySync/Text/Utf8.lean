/-!
# Bytes as text

`fromUtf8` reads bytes as UTF-8 whatever they are. Where they stop being UTF-8, the longest start
of a character that they hold, or else one byte, is read as the replacement character.
-/

namespace PolicySync.Text

/-- What the first byte of a character says about those after it. -/
structure ByteLead where
  /-- How many follow. -/
  count : Nat
  /-- The range of the next one; all others are continuation bytes of any value. -/
  low : Nat := 0x80
  high : Nat := 0xbf
  /-- What the first byte adds to the code point, before the others shift it. -/
  bits : Nat

/-- The lead that a byte is, if it starts a character of several bytes. -/
def byteLead? (b : Nat) : Option ByteLead :=
  if 0xc2 ≤ b ∧ b ≤ 0xdf then some { count := 1, bits := b - 0xc0 }
  else if b = 0xe0 then some { count := 2, low := 0xa0, bits := 0 }
  else if b = 0xed then some { count := 2, high := 0x9f, bits := 0xd }
  else if 0xe1 ≤ b ∧ b ≤ 0xef then some { count := 2, bits := b - 0xe0 }
  else if b = 0xf0 then some { count := 3, low := 0x90, bits := 0 }
  else if 0xf1 ≤ b ∧ b ≤ 0xf3 then some { count := 3, bits := b - 0xf0 }
  else if b = 0xf4 then some { count := 3, high := 0x8f, bits := 4 }
  else none

/-- Whether a byte continues a character. -/
def isContinuation (b : UInt8) : Bool := 0x80 ≤ b.toNat && b.toNat ≤ 0xbf

/-- The bytes at the front that go on after a lead as they should, at most as many as follow it. -/
def following (lead : ByteLead) : List UInt8 → List UInt8
  | [] => []
  | b :: bs =>
    if lead.low ≤ b.toNat ∧ b.toNat ≤ lead.high then
      b :: (bs.take (lead.count - 1)).takeWhile isContinuation
    else []

/-- The code point of a lead and the bytes after it. -/
def codePoint (lead : ByteLead) (bs : List UInt8) : Nat :=
  bs.foldl (fun n b => 64 * n + (b.toNat - 0x80)) lead.bits

/-- The characters that bytes spell in UTF-8. -/
def fromUtf8 (bytes : List UInt8) : List Char :=
  match bytes with
  | [] => []
  | b :: rest =>
    if b.toNat < 0x80 then Char.ofNat b.toNat :: fromUtf8 rest
    else
      match byteLead? b.toNat with
      | none => '\ufffd' :: fromUtf8 rest
      | some lead =>
        let more := following lead rest
        let c := if more.length = lead.count then Char.ofNat (codePoint lead more) else '\ufffd'
        c :: fromUtf8 (rest.drop more.length)
termination_by bytes.length

end PolicySync.Text
