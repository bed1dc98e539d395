import PolicySync.Text.Digit
import PolicySync.Text.Split
import PolicySync.Text.Utf8

/-!
# Form encoding

Parameters are written as names and values with an equals sign in each pair and an ampersand
between pairs. A space is a plus sign, and any byte can be a per cent sign with two hexadecimal
digits. `Form.decode` reads what is written so, and `Form.size` is the length that parameters have
when they are written.
-/

namespace PolicySync.Http.Form

/-- Whether a character is written as itself. -/
def isKept (c : Char) : Bool := c.isAlphanum || ['*', '-', '.', '_'].contains c

/-- How many bytes a character takes when it is written. -/
def charSize (c : Char) : Nat := if isKept c || c = ' ' then 1 else 3 * c.utf8Size

/-- How many bytes a text takes when it is written. -/
def textSize (s : String) : Nat := s.toList.foldl (fun n c => n + charSize c) 0

/-- How many bytes parameters take when they are written, each after a sign. -/
def size (params : List (String × String)) : Nat :=
  params.foldl (fun n p => n + 2 + textSize p.1 + textSize p.2) 0

/-- The bytes that a written text stands for. A per cent sign without two digits is one itself. -/
def bytesOf : List Char → List UInt8
  | [] => []
  | '%' :: a :: b :: rest =>
    match Text.hexDigit? a, Text.hexDigit? b with
    | some m, some n => .ofNat (16 * m + n) :: bytesOf rest
    | _, _ => '%'.toUInt8 :: bytesOf (a :: b :: rest)
  | c :: rest => (if c = '+' then [' '.toUInt8] else String.utf8EncodeChar c) ++ bytesOf rest

/-- The text that a written one stands for. -/
def textOf (cs : List Char) : String := String.ofList (Text.fromUtf8 (bytesOf cs))

/-- A parameter from its written form; without an equals sign its value is empty. -/
def pairOf (cs : List Char) : String × String :=
  match Text.cutFirst '=' cs with
  | some (name, value) => (textOf name, textOf value)
  | none => (textOf cs, "")

/-- The parameters that a text spells, of which nothing between two ampersands is none. -/
def decode (cs : List Char) : List (String × String) :=
  ((Text.pieces '&' cs).filter (!·.isEmpty)).map pairOf

end PolicySync.Http.Form
