namespace Triage.Text

inductive Case where
  | lower
  | upper
  deriving DecidableEq, Repr

def hexDigit (case : Case) (n : Nat) : Char :=
  if n < 10 then Char.ofNat (0x30 + n)
  else match case with
    | .lower => Char.ofNat (0x61 + (n - 10))
    | .upper => Char.ofNat (0x41 + (n - 10))

def hex (case : Case) : (width n : Nat) → List Char
  | 0, _ => []
  | width + 1, n => hex case width (n / 16) ++ [hexDigit case (n % 16)]

def digitValue? (base : Nat) (c : Char) : Option Nat :=
  let n := c.toNat
  let value :=
    if 0x30 ≤ n && n ≤ 0x39 then some (n - 0x30)
    else if 0x61 ≤ n && n ≤ 0x66 then some (n - 0x61 + 10)
    else if 0x41 ≤ n && n ≤ 0x46 then some (n - 0x41 + 10)
    else none
  value.filter (· < base)

def readDigits? (base : Nat) (text : List Char) : Option Nat :=
  if text.isEmpty then none
  else text.foldlM (fun total c => (digitValue? base c).map (total * base + ·)) 0

def isDigit (c : Char) : Bool := '0' ≤ c && c ≤ '9'

def decimal (n : Nat) : List Char := (toString n).toList

theorem hex_length (case : Case) (width n : Nat) : (hex case width n).length = width := by
  induction width generalizing n with
  | zero => rfl
  | succ width ih => simp [hex, ih]

-- The zeros of the scripts that have decimal digits of their own, as Unicode 14 lists them. The other
-- nine digits follow each zero in order.
def Table.zeros : List Nat := [
  0x30,
  0x660, 0x6F0, 0x7C0, 0x966, 0x9E6, 0xA66, 0xAE6, 0xB66, 0xBE6, 0xC66, 0xCE6, 0xD66, 0xDE6, 0xE50, 0xED0,
  0xF20, 0x1040, 0x1090, 0x17E0, 0x1810, 0x1946, 0x19D0, 0x1A80, 0x1A90, 0x1B50, 0x1BB0, 0x1C40, 0x1C50,
  0xA620, 0xA8D0, 0xA900, 0xA9D0, 0xA9F0, 0xAA50, 0xABF0, 0xFF10, 0x104A0, 0x10D30, 0x11066, 0x110F0,
  0x11136, 0x111D0, 0x112F0, 0x11450, 0x114D0, 0x11650, 0x116C0, 0x11730, 0x118E0, 0x11950, 0x11C50, 0x11D50,
  0x11DA0, 0x16A60, 0x16AC0, 0x16B50, 0x1D7CE, 0x1D7D8, 0x1D7E2, 0x1D7EC, 0x1D7F6, 0x1E140, 0x1E2F0, 0x1E950,
  0x1FBF0]

def isAnyDigit (c : Char) : Bool := Table.zeros.any fun first => first ≤ c.toNat && c.toNat ≤ first + 9

def plainDigit (c : Char) : Char :=
  match Table.zeros.find? fun first => first ≤ c.toNat && c.toNat ≤ first + 9 with
  | some first => Char.ofNat ('0'.toNat + (c.toNat - first))
  | none => c

end Triage.Text
