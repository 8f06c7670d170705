import Triage.Text.Digits

namespace Triage.Text

-- Only well-formed sequences are text: no character is longer than it has to be, and no half of a
-- pair stands alone.
def decodeUtf8? (bytes : List UInt8) : Option (List Char) :=
  (String.fromUTF8? ⟨bytes.toArray⟩).map String.toList

def encodeUtf8 (text : List Char) : List UInt8 := (String.ofList text).toUTF8.data.toList

-- A text that came from outside: where its bytes were no characters, halves of pairs stand for them.
inductive Letter where
  | char (c : Char)
  | half (index : Fin 0x800)
  deriving DecidableEq, Repr

namespace Letter

def ofChars (text : List Char) : List Letter := text.map .char

def ofString (text : String) : List Letter := ofChars text.toList

def char? : Letter → Option Char
  | .char c => some c
  | .half _ => none

def chars? (text : List Letter) : Option (List Char) := text.mapM char?

def satisfies (p : Char → Bool) : Letter → Bool
  | .char c => p c
  | .half _ => false

def utf8? (text : List Letter) : Option (List UInt8) := (chars? text).map encodeUtf8

def escapedHalf (index : Fin 0x800) : List Char := '\\' :: 'u' :: hex .lower 4 (0xD800 + index)

def escaped (text : List Letter) : List Char :=
  text.flatMap fun
    | .char c => [c]
    | .half index => escapedHalf index

def firstByteHalf : Nat := 0x400

-- In the name of a file a half may stand for a byte.
def nameBytes? : Letter → Option (List UInt8)
  | .char c => some (encodeUtf8 [c])
  | .half index =>
      if firstByteHalf + 0x80 ≤ index ∧ index < firstByteHalf + 0x100 then some [(index - firstByteHalf).toUInt8]
      else none

def fileName? (text : List Letter) : Option (List UInt8) := (text.mapM nameBytes?).map List.flatten

def firstChar? (bytes : List UInt8) : Option Char :=
  [1, 2, 3, 4].findSome? fun length =>
    match decodeUtf8? (bytes.take length) with
    | some [c] => some c
    | _ => none

def ofBytesAfter : Nat → List UInt8 → List Letter
  | _, [] => []
  | passed + 1, _ :: bytes => ofBytesAfter passed bytes
  | 0, byte :: bytes =>
      match firstChar? (byte :: bytes) with
      | some c => .char c :: ofBytesAfter (c.utf8Size - 1) bytes
      | none => .half ⟨firstByteHalf + byte.toNat, by have := byte.toNat_lt; simp only [firstByteHalf]; omega⟩ ::
          ofBytesAfter 0 bytes

def ofBytes (bytes : List UInt8) : List Letter := ofBytesAfter 0 bytes

end Letter

end Triage.Text
