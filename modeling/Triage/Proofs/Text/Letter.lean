import Triage.Proofs.Outcome
import Triage.Text.Letter

namespace Triage.Text

theorem encode_decode (decoded : decodeUtf8? bytes = some text) : encodeUtf8 text = bytes := by
  obtain ⟨s, read, rfl⟩ := Option.map_eq_some_iff.mp decoded
  unfold String.fromUTF8? at read
  split at read
  · cases read
    rw [encodeUtf8, String.ofList_toList]
    rfl
  · cases read

theorem decode_encode (text : List Char) : decodeUtf8? (encodeUtf8 text) = some text := by
  have read : String.fromUTF8? (String.ofList text).toUTF8 = some (String.ofList text) := by
    rw [String.fromUTF8?, dif_pos (show (String.ofList text).toUTF8.IsValidUTF8 from (String.ofList text).isValidUTF8)]
    rfl
  rw [decodeUtf8?, encodeUtf8, Array.toArray_toList, read, Option.map_some, String.toList_ofList]

theorem encode_single (c : Char) : encodeUtf8 [c] = String.utf8EncodeChar c := by
  simp [encodeUtf8, List.utf8Encode_singleton]

theorem encode_ascii (byte : UInt8) (ascii : byte.toNat < 0x80) : encodeUtf8 [Char.ofNat byte.toNat] = [byte] := by
  have each : ∀ n < 0x80, String.utf8EncodeChar (Char.ofNat n) = [UInt8.ofNat n] := by decide
  rw [encode_single, each byte.toNat ascii, UInt8.ofNat_toNat]

namespace Letter

section Chars

variable {text : List Letter}

@[simp] theorem ofChars_append (front back : List Char) : ofChars (front ++ back) = ofChars front ++ ofChars back :=
  List.map_append

theorem chars?_char (c : Char) (text : List Letter) : chars? (char c :: text) = (chars? text).map (c :: ·) := by
  rw [chars?, List.mapM_cons, chars?]
  cases text.mapM char? with
  | none => rfl
  | some chars => rfl

@[simp] theorem chars?_ofChars (text : List Char) : chars? (ofChars text) = some text := by
  induction text with
  | nil => rfl
  | cons c text ih => rw [ofChars, List.map_cons, chars?_char, ← ofChars, ih, Option.map_some]

theorem chars?_half {index : Fin 0x800} (inside : half index ∈ text) : chars? text = none := by
  induction text with
  | nil => cases inside
  | cons letter text ih =>
      cases letter with
      | half other => rfl
      | char c =>
          have later : half index ∈ text := by simpa using inside
          rw [chars?_char, ih later, Option.map_none]

theorem ofChars_or_half (text : List Letter) : (∃ chars, text = ofChars chars) ∨ ∃ index, half index ∈ text := by
  induction text with
  | nil => exact Or.inl ⟨[], rfl⟩
  | cons letter text ih =>
      cases letter with
      | half index => exact Or.inr ⟨index, List.mem_cons_self⟩
      | char c =>
          rcases ih with ⟨chars, rfl⟩ | ⟨index, inside⟩
          · exact Or.inl ⟨c :: chars, rfl⟩
          · exact Or.inr ⟨index, List.mem_cons_of_mem _ inside⟩

end Chars

section Names

theorem firstChar?_start (found : firstChar? bytes = some c) : ∃ rest, bytes = encodeUtf8 [c] ++ rest := by
  obtain ⟨length, _, here⟩ := List.exists_of_findSome?_eq_some found
  split at here
  · rename_i only decoded
    cases here
    exact ⟨bytes.drop length, by rw [encode_decode decoded, List.take_append_drop]⟩
  · cases here

theorem firstChar?_ascii (byte : UInt8) (bytes : List UInt8) (ascii : byte.toNat < 0x80) :
    ∃ c, firstChar? (byte :: bytes) = some c := by
  have decoded : decodeUtf8? ((byte :: bytes).take 1) = some [Char.ofNat byte.toNat] := by
    rw [List.take_succ_cons, List.take_zero, ← encode_ascii byte ascii, decode_encode]
  exact ⟨_, by rw [firstChar?, List.findSome?_cons, decoded]⟩

theorem ofBytesAfter_drop (passed : Nat) (bytes : List UInt8) :
    ofBytesAfter passed bytes = ofBytes (bytes.drop passed) := by
  induction passed generalizing bytes with
  | zero => rfl
  | succ passed ih =>
      cases bytes with
      | nil => rfl
      | cons byte bytes => exact ih bytes

theorem fileName?_cons (known : nameBytes? letter = some front) (text : List Letter) :
    fileName? (letter :: text) = (fileName? text).map (front ++ ·) := by
  rw [fileName?, List.mapM_cons, known, fileName?]
  cases text.mapM nameBytes? with
  | none => rfl
  | some parts => rfl

-- The bytes of a character go together, and any other byte is a half of its own.
theorem fileName?_ofBytes (bytes : List UInt8) : fileName? (ofBytes bytes) = some bytes := by
  cases bytes with
  | nil => rfl
  | cons byte bytes =>
      rw [ofBytes, ofBytesAfter]
      cases found : firstChar? (byte :: bytes) with
      | some c =>
          obtain ⟨rest, parts⟩ := firstChar?_start found
          have size : (encodeUtf8 [c]).length = c.utf8Size := by rw [encode_single, String.length_utf8EncodeChar]
          have positive := c.utf8Size_pos
          have later : bytes.drop (c.utf8Size - 1) = rest := by
            have cut : (byte :: bytes).drop c.utf8Size = rest := by rw [parts, List.drop_left' size]
            rwa [← Nat.sub_add_cancel positive, List.drop_succ_cons] at cut
          have shorter : rest.length < (byte :: bytes).length := by rw [parts, List.length_append]; omega
          dsimp only
          rw [ofBytesAfter_drop, later, fileName?_cons rfl, fileName?_ofBytes rest, Option.map_some, parts]
      | none =>
          have high : ¬byte.toNat < 0x80 := fun ascii => by
            obtain ⟨c, first⟩ := firstChar?_ascii byte bytes ascii
            cases found.symm.trans first
          have low := byte.toNat_lt
          have known : nameBytes? (half ⟨firstByteHalf + byte.toNat, by simp only [firstByteHalf]; omega⟩) = some [byte] := by
            rw [nameBytes?, if_pos ⟨by simp only; omega, by simp only; omega⟩]
            simp
          dsimp only
          rw [ofBytesAfter_drop, List.drop_zero, fileName?_cons known, fileName?_ofBytes bytes, Option.map_some]
          rfl
termination_by bytes.length

end Names

end Letter

end Triage.Text
