import Mathlib.Data.List.Basic
import Playscript.Text.Utf8

/-!
UTF-8 is read as it is written: every text decodes from its encoding, and lines of text are the
same lines as lines of bytes.
-/

namespace Playscript.Text

theorem byteArray_toList_loop (bytes : ByteArray) (index : Nat) (known : List UInt8) :
    ByteArray.toList.loop bytes index known = known.reverse ++ bytes.data.toList.drop index := by
  fun_induction ByteArray.toList.loop bytes index known with
  | case1 index known within ih =>
      have inList : index < bytes.data.toList.length := by simpa using within
      rw [ih, List.drop_eq_getElem_cons inList]
      simp [ByteArray.get!, within]
  | case2 index known beyond =>
      rw [List.drop_eq_nil_of_le (by simpa using Nat.le_of_not_lt beyond)]
      simp

theorem encodeUtf8_eq_flatMap (text : String) :
    encodeUtf8 text = text.toList.flatMap String.utf8EncodeChar := by
  have bytes : text.toUTF8.toList = text.toUTF8.data.toList := by
    rw [ByteArray.toList, byteArray_toList_loop]
    simp
  rw [encodeUtf8, bytes, String.toUTF8_eq_toByteArray, ← String.utf8Encode_toList, List.utf8Encode,
    List.toList_data_toByteArray]

theorem encodeUtf8_append (first second : String) :
    encodeUtf8 (first ++ second) = encodeUtf8 first ++ encodeUtf8 second := by
  simp [encodeUtf8_eq_flatMap]

def continuation (bits : Nat) : UInt8 :=
  UInt8.ofNat (bits % 0x40 + 0x80)

theorem toNat_continuation (bits : Nat) : (continuation bits).toNat = bits % 0x40 + 0x80 := by
  rw [continuation, UInt8.toNat_ofNat']
  omega

theorem decodeFrom_ascii {code : Nat} (ascii : code < 0x80) (rest : List UInt8) :
    decodeFrom none (UInt8.ofNat code :: rest) =
      (decodeFrom none rest).map (Char.ofNat code :: ·) := by
  have byte : (UInt8.ofNat code).toNat = code := by
    rw [UInt8.toNat_ofNat']
    omega
  rw [decodeFrom, byte, if_pos ascii]

theorem decodeFrom_leading {lead : Nat} {owed : Owed} (byte : lead < 0x100)
    (leads : Owed.ofLeading? lead = some owed) (rest : List UInt8) :
    decodeFrom none (UInt8.ofNat lead :: rest) = decodeFrom (some owed) rest := by
  have value : (UInt8.ofNat lead).toNat = lead := by
    rw [UInt8.toNat_ofNat']
    omega
  have notAscii : ¬lead < 0x80 := by
    intro ascii
    unfold Owed.ofLeading? at leads
    repeat rw [if_neg (by omega)] at leads
    contradiction
  rw [decodeFrom, value, if_neg notAscii, leads]
  rfl

theorem decodeFrom_last {low high known : Nat} {bits : Nat} (above : low ≤ bits % 0x40 + 0x80)
    (below : bits % 0x40 + 0x80 ≤ high) (rest : List UInt8) :
    decodeFrom (some ⟨1, low, high, known⟩) (continuation bits :: rest) =
      (decodeFrom none rest).map (Char.ofNat (0x40 * known + bits % 0x40) :: ·) := by
  rw [decodeFrom, toNat_continuation, if_pos ⟨above, below⟩]
  simp

theorem decodeFrom_continuation {count low high known : Nat} {bits : Nat}
    (above : low ≤ bits % 0x40 + 0x80) (below : bits % 0x40 + 0x80 ≤ high) (rest : List UInt8) :
    decodeFrom (some ⟨count + 2, low, high, known⟩) (continuation bits :: rest) =
      decodeFrom (some ⟨count + 1, 0x80, 0xBF, 0x40 * known + bits % 0x40⟩) rest := by
  rw [decodeFrom, toNat_continuation, if_pos ⟨above, below⟩]
  simp

theorem ofLeading?_two {code : Nat} (above : 0x80 ≤ code) (below : code < 0x800) :
    Owed.ofLeading? (code / 0x40 + 0xC0) = some ⟨1, 0x80, 0xBF, code / 0x40⟩ := by
  rw [Owed.ofLeading?, if_pos (by omega)]
  simp

theorem ofLeading?_three {code : Nat} (above : 0x800 ≤ code) (below : code < 0x10000)
    (noSurrogate : code < 0xD800 ∨ 0xDFFF < code) :
    ∃ low high, Owed.ofLeading? (code / 0x1000 + 0xE0) = some ⟨2, low, high, code / 0x1000⟩ ∧
      low ≤ code / 0x40 % 0x40 + 0x80 ∧ code / 0x40 % 0x40 + 0x80 ≤ high := by
  rw [Owed.ofLeading?, if_neg (by omega)]
  -- Two leading bytes narrow the byte after them: 0xE0, and 0xED, which begins the surrogates.
  by_cases first : code / 0x1000 = 0
  · exact ⟨0xA0, 0xBF, by simp [first], by omega, by omega⟩
  · rw [if_neg (by omega)]
    by_cases surrogates : code / 0x1000 = 0xD
    · exact ⟨0x80, 0x9F, by simp [surrogates], by omega, by omega⟩
    · rw [if_neg (by omega), if_pos (by omega)]
      exact ⟨0x80, 0xBF, by simp, by omega, by omega⟩

theorem ofLeading?_four {code : Nat} (above : 0x10000 ≤ code) (below : code < 0x110000) :
    ∃ low high, Owed.ofLeading? (code / 0x40000 + 0xF0) = some ⟨3, low, high, code / 0x40000⟩ ∧
      low ≤ code / 0x1000 % 0x40 + 0x80 ∧ code / 0x1000 % 0x40 + 0x80 ≤ high := by
  rw [Owed.ofLeading?, if_neg (by omega), if_neg (by omega), if_neg (by omega), if_neg (by omega)]
  -- Here the narrow ranges are those after 0xF0 and after 0xF4, the last leading byte there is.
  by_cases first : code / 0x40000 = 0
  · exact ⟨0x90, 0xBF, by simp [first], by omega, by omega⟩
  · rw [if_neg (by omega)]
    by_cases last : code / 0x40000 = 4
    · exact ⟨0x80, 0x8F, by simp [last], by omega, by omega⟩
    · rw [if_pos (by omega)]
      exact ⟨0x80, 0xBF, by simp, by omega, by omega⟩

/-- The bytes of a character, by how many there are. -/
inductive Encoded (code : Nat) : List UInt8 → Prop
  | one : code < 0x80 → Encoded code [UInt8.ofNat code]
  | two : 0x80 ≤ code → code < 0x800 →
      Encoded code [UInt8.ofNat (code / 0x40 + 0xC0), continuation code]
  | three : 0x800 ≤ code → code < 0x10000 → code < 0xD800 ∨ 0xDFFF < code →
      Encoded code [UInt8.ofNat (code / 0x1000 + 0xE0), continuation (code / 0x40),
        continuation code]
  | four : 0x10000 ≤ code → code < 0x110000 →
      Encoded code [UInt8.ofNat (code / 0x40000 + 0xF0), continuation (code / 0x1000),
        continuation (code / 0x40), continuation code]

theorem utf8EncodeChar_encoded (c : Char) : Encoded c.toNat (String.utf8EncodeChar c) := by
  have valid : c.toNat < 0xD800 ∨ 0xDFFF < c.toNat ∧ c.toNat < 0x110000 := c.valid
  have code : c.val.toNat = c.toNat := rfl
  simp only [String.utf8EncodeChar, code]
  split
  · exact .one (by omega)
  · split
    · rw [Nat.mod_eq_of_lt (by omega : c.toNat / 64 < 0x20)]
      exact .two (by omega) (by omega)
    · split
      · rw [Nat.mod_eq_of_lt (by omega : c.toNat / 4096 < 0x10)]
        exact .three (by omega) (by omega) (by omega)
      · rw [Nat.mod_eq_of_lt (by omega : c.toNat / 262144 < 0x08)]
        exact .four (by omega) (by omega)

/-- The step lemma: the bytes of a character are read as that character. -/
theorem decodeFrom_encoded {code : Nat} {bytes : List UInt8} (encoded : Encoded code bytes)
    (rest : List UInt8) :
    decodeFrom none (bytes ++ rest) = (decodeFrom none rest).map (Char.ofNat code :: ·) := by
  cases encoded with
  | one ascii => exact decodeFrom_ascii ascii rest
  | two above below =>
      have whole : 0x40 * (code / 0x40) + code % 0x40 = code := by omega
      simp only [List.cons_append, List.nil_append]
      rw [decodeFrom_leading (by omega) (ofLeading?_two above below),
        decodeFrom_last (by omega) (by omega), whole]
  | three above below noSurrogate =>
      obtain ⟨low, high, leads, least, most⟩ := ofLeading?_three above below noSurrogate
      have whole : 0x40 * (0x40 * (code / 0x1000) + code / 0x40 % 0x40) + code % 0x40 = code := by
        omega
      simp only [List.cons_append, List.nil_append]
      rw [decodeFrom_leading (by omega) leads, decodeFrom_continuation least most,
        decodeFrom_last (by omega) (by omega), whole]
  | four above below =>
      obtain ⟨low, high, leads, least, most⟩ := ofLeading?_four above below
      have whole : 0x40 * (0x40 * (0x40 * (code / 0x40000) + code / 0x1000 % 0x40) +
          code / 0x40 % 0x40) + code % 0x40 = code := by
        omega
      simp only [List.cons_append, List.nil_append]
      rw [decodeFrom_leading (by omega) leads, decodeFrom_continuation least most,
        decodeFrom_continuation (by omega) (by omega), decodeFrom_last (by omega) (by omega), whole]

theorem decodeFrom_flatMap (text : List Char) :
    decodeFrom none (text.flatMap String.utf8EncodeChar) = some text := by
  induction text with
  | nil => rfl
  | cons c rest ih =>
      rw [List.flatMap_cons, decodeFrom_encoded (utf8EncodeChar_encoded c), ih, Char.ofNat_toNat]
      rfl

theorem decodeUtf8?_encodeUtf8 (text : String) : decodeUtf8? (encodeUtf8 text) = some text := by
  rw [decodeUtf8?, encodeUtf8_eq_flatMap, decodeFrom_flatMap, Option.map_some,
    String.ofList_toList]

theorem encodeUtf8_injective : Function.Injective encodeUtf8 := by
  intro text other same
  have read := decodeUtf8?_encodeUtf8 text
  rw [same, decodeUtf8?_encodeUtf8] at read
  exact (Option.some.inj read).symm

theorem lineBreak_of_encoded {code : Nat} {bytes : List UInt8} (encoded : Encoded code bytes)
    (found : (0x0A : UInt8) ∈ bytes) : code = 0x0A := by
  have other (bits : Nat) : (0x0A : UInt8) ≠ continuation bits := by
    intro same
    have value := congrArg UInt8.toNat same
    rw [toNat_continuation] at value
    have ten : (0x0A : UInt8).toNat = 0x0A := rfl
    omega
  have lead {byte : Nat} (byteSize : byte < 0x100) (same : (0x0A : UInt8) = UInt8.ofNat byte) :
      byte = 0x0A := by
    have value := congrArg UInt8.toNat same
    rw [UInt8.toNat_ofNat'] at value
    have ten : (0x0A : UInt8).toNat = 0x0A := rfl
    omega
  cases encoded with
  | one ascii =>
      rw [List.mem_singleton] at found
      exact lead (by omega) found
  | two _ below =>
      simp only [List.mem_cons, List.not_mem_nil, or_false, other] at found
      have leads := lead (by omega) found
      omega
  | three _ below _ =>
      simp only [List.mem_cons, List.not_mem_nil, or_false, other] at found
      have leads := lead (by omega) found
      omega
  | four _ below =>
      simp only [List.mem_cons, List.not_mem_nil, or_false, other] at found
      have leads := lead (by omega) found
      omega

theorem lineBreak_not_mem_encodeUtf8 {line : String} (single : '\n' ∉ line.toList) :
    (0x0A : UInt8) ∉ encodeUtf8 line := by
  rw [encodeUtf8_eq_flatMap, List.mem_flatMap]
  rintro ⟨c, listed, found⟩
  have code := lineBreak_of_encoded (utf8EncodeChar_encoded c) found
  have lineBreak : c = '\n' := by
    rw [← Char.ofNat_toNat c, code]
  exact single (lineBreak ▸ listed)

theorem byteLines_cons_line {line rest : List UInt8} (single : (0x0A : UInt8) ∉ line) :
    byteLines (line ++ 0x0A :: rest) = (line ++ [0x0A]) :: byteLines rest := by
  induction line with
  | nil => simp [byteLines]
  | cons byte line ih =>
      obtain ⟨differs, later⟩ := List.ne_and_not_mem_of_not_mem_cons single
      rw [List.cons_append, byteLines, if_neg differs.symm, ih later]
      rfl

theorem byteLines_encodeUtf8 {lines : List String} (single : ∀ line ∈ lines, '\n' ∉ line.toList) :
    byteLines (encodeUtf8 (String.join (lines.map (· ++ "\n")))) =
      lines.map fun line => encodeUtf8 (line ++ "\n") := by
  have lineBreak : encodeUtf8 "\n" = [0x0A] := by
    rw [encodeUtf8_eq_flatMap]
    decide
  induction lines with
  | nil => simp [encodeUtf8_eq_flatMap, byteLines]
  | cons line rest ih =>
      obtain ⟨first, later⟩ := List.forall_mem_cons.mp single
      rw [List.map_cons, String.join_cons, encodeUtf8_append, encodeUtf8_append, lineBreak,
        List.append_assoc, List.singleton_append,
        byteLines_cons_line (lineBreak_not_mem_encodeUtf8 first), ih later, List.map_cons,
        encodeUtf8_append, lineBreak]

/-- The first line of some bytes, with its line break if it has one, and the bytes after it. -/
def cutLine : List UInt8 → List UInt8 × List UInt8
  | [] => ([], [])
  | byte :: rest =>
    if byte = 0x0A then ([byte], rest) else (byte :: (cutLine rest).1, (cutLine rest).2)

theorem byteLines_cut {bytes : List UInt8} (written : bytes ≠ []) :
    byteLines bytes = (cutLine bytes).1 :: byteLines (cutLine bytes).2 := by
  induction bytes with
  | nil => contradiction
  | cons byte rest ih =>
      by_cases lineBreak : byte = 0x0A
      · simp [byteLines, cutLine, lineBreak]
      · by_cases last : rest = []
        · simp [byteLines, cutLine, lineBreak, last]
        · simp [byteLines, cutLine, lineBreak, ih last]

theorem cutLine_append (bytes : List UInt8) : (cutLine bytes).1 ++ (cutLine bytes).2 = bytes := by
  induction bytes with
  | nil => rfl
  | cons byte rest ih =>
      by_cases lineBreak : byte = 0x0A
      · simp [cutLine, lineBreak]
      · simp [cutLine, lineBreak, ih]

theorem cutLine_eq_nil_iff (bytes : List UInt8) : (cutLine bytes).1 = [] ↔ bytes = [] := by
  cases bytes with
  | nil => simp [cutLine]
  | cons byte rest =>
      by_cases lineBreak : byte = 0x0A
      · simp [cutLine, lineBreak]
      · simp [cutLine, lineBreak]

theorem cutLine_ends {bytes : List UInt8} (more : (cutLine bytes).2 ≠ []) :
    (cutLine bytes).1.getLast? = some 0x0A := by
  induction bytes with
  | nil => simp [cutLine] at more
  | cons byte rest ih =>
      by_cases lineBreak : byte = 0x0A
      · simp [cutLine, lineBreak]
      · simp only [cutLine, lineBreak, if_false] at more ⊢
        rw [List.getLast?_cons, ih more]
        rfl

end Playscript.Text
