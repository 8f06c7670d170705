namespace Triage.Text

abbrev Ranges := List (Nat × Nat)

def Ranges.has : Ranges → Nat → Bool
  | [], _ => false
  | (low, high) :: rest, n => if n < low then false else n ≤ high || Ranges.has rest n

-- White space of any script, with the line and field separators of ASCII.
def isBlank (c : Char) : Bool :=
  let n := c.toNat
  (0x9 ≤ n && n ≤ 0xD) || (0x1C ≤ n && n ≤ 0x20) || n == 0x85 || n == 0xA0 || n == 0x1680 ||
    (0x2000 ≤ n && n ≤ 0x200A) || n == 0x2028 || n == 0x2029 || n == 0x202F || n == 0x205F ||
    n == 0x3000

def trimLeft (text : List Char) : List Char := text.dropWhile isBlank

def trimRight (text : List Char) : List Char := (text.reverse.dropWhile isBlank).reverse

def trim (text : List Char) : List Char := trimRight (trimLeft text)

def allBlank (text : List Char) : Bool := text.all isBlank

theorem trimLeft_length (text : List Char) : (trimLeft text).length ≤ text.length :=
  List.Sublist.length_le (List.dropWhile_sublist _)

theorem trimRight_length (text : List Char) : (trimRight text).length ≤ text.length := by
  have bound := List.Sublist.length_le (List.dropWhile_sublist isBlank (l := text.reverse))
  simpa [trimRight] using bound

theorem trim_length (text : List Char) : (trim text).length ≤ text.length :=
  Nat.le_trans (trimRight_length _) (trimLeft_length _)

def splitAt {α : Type} [DecidableEq α] (separator : α) : List α → List (List α)
  | [] => [[]]
  | c :: text =>
      if c = separator then [] :: splitAt separator text
      else
        match splitAt separator text with
        | [] => [[c]]
        | piece :: pieces => (c :: piece) :: pieces

def lines (text : List Char) : List (List Char) := splitAt '\n' text

-- The lines that hold something, in order. Their numbers start at 1 and skip blank lines.
def contentLines (block : List Char) : List (List Char) :=
  (lines block).filter fun line => !allBlank line

def unifyLineEnds : List Char → List Char
  | [] => []
  | '\r' :: '\n' :: text => '\n' :: unifyLineEnds text
  | c :: text => (if c = '\r' then '\n' else c) :: unifyLineEnds text

theorem splitAt_ne_nil {α : Type} [DecidableEq α] (separator : α) (text : List α) : splitAt separator text ≠ [] := by
  cases text with
  | nil => simp [splitAt]
  | cons c text =>
      unfold splitAt
      split
      · simp
      · split <;> simp

def afterStart? : (pattern text : List Char) → Option (List Char)
  | [], text => some text
  | _ :: _, [] => none
  | p :: pattern, c :: text => if p = c then afterStart? pattern text else none

def occurs (pattern : List Char) : List Char → Bool
  | [] => pattern.isEmpty
  | c :: text => (afterStart? pattern (c :: text)).isSome || occurs pattern text

theorem afterStart?_eq_some : afterStart? pattern text = some rest ↔ text = pattern ++ rest := by
  induction pattern generalizing text with
  | nil => simp [afterStart?]
  | cons p pattern ih =>
      cases text with
      | nil => simp [afterStart?]
      | cons c text =>
          by_cases same : p = c
          · simp [afterStart?, same, ih]
          · simp [afterStart?, same, Ne.symm same]

theorem afterStart?_length (found : afterStart? pattern text = some rest) :
    text.length = pattern.length + rest.length := by
  rw [afterStart?_eq_some.mp found, List.length_append]

-- The text with every occurrence of the pattern replaced, from left to right. What is put in is
-- not looked at again.
def replaceAll (pattern replacement text : List Char) : List Char :=
  match text with
  | [] => []
  | c :: more =>
      match _here : afterStart? pattern (c :: more) with
      | some rest =>
          if _some : pattern ≠ [] then replacement ++ replaceAll pattern replacement rest
          else c :: replaceAll pattern replacement more
      | none => c :: replaceAll pattern replacement more
termination_by text.length
decreasing_by
  · have total := afterStart?_length _here
    have letters := List.length_pos_iff.mpr _some
    simp only [List.length_cons] at total ⊢
    omega
  · simp
  · simp

end Triage.Text
