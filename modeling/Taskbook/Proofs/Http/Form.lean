/-
  Forms are read as they are written. A form in a row gives back the fields that were put into it,
  whatever their texts are (`readRow_writeForm`). A form in parts gives back the fields that can
  stand in parts: quotes, backslashes and carriage returns in a name would end it or be taken for
  something else, and a mark in a value would end the part (`readMarked_writeMarked`). Both hold up
  to the limits on what is taken in, and `Request.readForm` tells the two by the header of the body.

  The reader of parts works on bytes. A text goes over into its bytes character by character
  (`byteChars_append`), ASCII stays as it is (`byteChars_of_ascii`), and no other character has
  bytes that look like ASCII (`mem_of_mem_byteChars`), so what marks the parts is found where it was
  written.
-/
import Taskbook.Http.Request
import Taskbook.Proofs.Text.Cut
import Taskbook.Proofs.Text.Lines
import Taskbook.Proofs.Text.Percent
import Taskbook.Proofs.Text.Trim

namespace Taskbook.Http

variable {s t name value mark : Text} {c : Char} {field : Text × Text} {fields : Fields}

/-! ## Bytes -/

/-- A text whose characters are their own bytes. -/
def IsAscii (s : Text) : Prop := ∀ c ∈ s, c.toNat < 0x80

instance (s : Text) : Decidable (IsAscii s) :=
  List.decidableBAll (fun c : Char => c.toNat < 0x80) s

theorem byteChars_append (s t : Text) : byteChars (s ++ t) = byteChars s ++ byteChars t := by
  unfold byteChars Text.encode
  rw [List.flatMap_append, List.map_append]

theorem encodeChar_of_ascii (hc : c.toNat < 0x80) :
    String.utf8EncodeChar c = [UInt8.ofNat c.toNat] :=
  if_pos (Nat.le_of_lt_succ hc)

/-- The bytes of a character beyond ASCII are beyond ASCII. -/
theorem le_of_mem_encodeChar {b : UInt8} (hc : ¬ c.toNat < 0x80)
    (hb : b ∈ String.utf8EncodeChar c) : 0x80 ≤ b.toNat := by
  have hlong : ¬ c.val.toNat ≤ 127 := fun h => hc (Nat.lt_succ_of_le h)
  unfold String.utf8EncodeChar at hb
  dsimp only at hb
  rw [if_neg hlong] at hb
  split at hb
  all_goals try split at hb
  all_goals
    simp only [List.mem_cons, List.not_mem_nil, or_false] at hb
    rcases hb with rfl | rfl | rfl | rfl
  all_goals
    rw [UInt8.toNat_ofNat']
    omega

theorem byteChars_of_ascii (h : IsAscii s) : byteChars s = s := by
  induction s with
  | nil => rfl
  | cons c s ih =>
    obtain ⟨hc, hs⟩ := List.forall_mem_cons.mp h
    have hchar : byteChars [c] = [c] := by
      unfold byteChars Text.encode
      rw [List.flatMap_singleton, encodeChar_of_ascii hc, List.map_singleton,
        Text.toNat_byte (by omega), Char.ofNat_toNat]
    rw [← List.singleton_append, byteChars_append, hchar, ih hs]

theorem toNat_ofNat_byte (b : UInt8) : (Char.ofNat b.toNat).toNat = b.toNat := by
  have hbyte : b.toNat < 0x100 := b.toNat_lt
  have hvalid : b.toNat.isValidChar := Or.inl (by omega)
  unfold Char.ofNat
  rw [dif_pos hvalid]
  rfl

/-- A character of ASCII among the bytes of a text is one of the text. -/
theorem mem_of_mem_byteChars (hc : c.toNat < 0x80) (h : c ∈ byteChars s) : c ∈ s := by
  obtain ⟨b, hb, rfl⟩ := List.mem_map.mp h
  obtain ⟨d, hd, hbd⟩ := List.mem_flatMap.mp hb
  rw [toNat_ofNat_byte] at hc
  by_cases hascii : d.toNat < 0x80
  · rw [encodeChar_of_ascii hascii, List.mem_singleton] at hbd
    rw [hbd, Text.toNat_byte (by omega), Char.ofNat_toNat]
    exact hd
  · have hbeyond := le_of_mem_encodeChar hascii hbd
    omega

/-- The bytes of a text stand for it. -/
theorem decodeBytes_byteChars (s : Text) : decodeBytes "utf-8" (byteChars s) = s := by
  have hbytes : (byteChars s).map (fun c => UInt8.ofNat c.toNat) = Text.encode s := by
    unfold byteChars
    rw [List.map_map]
    refine (List.map_congr_left fun b _ => ?_).trans (List.map_id _)
    rw [Function.comp_apply, toNat_ofNat_byte, UInt8.ofNat_toNat]
    rfl
  unfold decodeBytes
  rw [if_pos (by decide), hbytes, Text.decode_encode]
  rfl

/-! ## Fields in a row -/

theorem of_mem_encodePart (h : c ∈ encodePart s) :
    Text.isUnreserved c = true ∨ c = '+' ∨ c = '%' := by
  obtain ⟨d, hd, rfl⟩ := List.mem_map.mp h
  by_cases hblank : d = ' '
  · exact Or.inr (Or.inl (if_pos hblank))
  · rw [if_neg hblank]
    rcases Text.of_mem_percentEncode hd with ⟨-, hkept⟩ | hsign | halnum
    · exact Or.inl (by simpa [hblank] using hkept)
    · exact Or.inr (Or.inr hsign)
    · exact Or.inl (by simp [Text.isUnreserved, halnum])

theorem decodePart_encodePart (s : Text) : decodePart (encodePart s) = s := by
  have hplus : (encodePart s).map (fun c => if c = '+' then ' ' else c) =
      Text.percentEncode (· = ' ') s := by
    unfold encodePart
    rw [List.map_map]
    refine (List.map_congr_left fun c hc => ?_).trans (List.map_id _)
    have hnot : c ≠ '+' := by
      rintro rfl
      rcases Text.of_mem_percentEncode hc with ⟨-, hkept⟩ | hsign | halnum
      · exact absurd hkept (by decide)
      · exact absurd hsign (by decide)
      · exact absurd halnum (by decide)
    by_cases hblank : c = ' '
    · simp [hblank]
    · simp [hblank, hnot]
  have hread : Text.percentDecode ([] ++ Text.percentEncode (· = ' ') s) = [] ++ s :=
    Text.percentDecode_append List.not_mem_nil (by simp)
  unfold decodePart
  rw [hplus]
  exact hread

theorem ascii_of_isUnreserved (h : Text.isUnreserved c = true) : c.toNat < 0x80 := by
  unfold Text.isUnreserved isAsciiAlnum isAsciiLetter isCapital isSmall isAsciiDigit at h
  simp only [Bool.or_eq_true, Bool.and_eq_true, decide_eq_true_eq] at h
  have hle : c ≤ '~' := by
    rcases h with (((((h | h) | h) | rfl) | rfl) | rfl) | rfl
    · exact Char.le_trans h.2 (by decide)
    · exact Char.le_trans h.2 (by decide)
    · exact Char.le_trans h.2 (by decide)
    all_goals decide
  exact Nat.lt_of_le_of_lt (UInt32.le_iff_toNat_le.mp (Char.le_def.mp hle)) (by decide)

/-- What is written of a part is ASCII and keeps no fields apart. -/
theorem noMark_of_encodePart (h : c ∈ encodePart s) : c.toNat < 0x80 ∧ c ≠ '&' ∧ c ≠ '=' := by
  rcases of_mem_encodePart h with hkept | rfl | rfl
  · refine ⟨ascii_of_isUnreserved hkept, ?_, ?_⟩ <;> rintro rfl <;> exact absurd hkept (by decide)
  · decide
  · decide

theorem cut?_writeField (field : Text × Text) :
    Text.cut? ['='] (writeField field) = some (encodePart field.1, encodePart field.2) :=
  Text.cut?_first (fun h => (noMark_of_encodePart h).2.2 rfl) _

theorem readField_writeField (field : Text × Text) : readField (writeField field) = field := by
  unfold readField
  rw [cut?_writeField]
  dsimp only
  rw [decodePart_encodePart, decodePart_encodePart]

theorem fieldSize_writeField (field : Text × Text) :
    fieldSize (writeField field) = (encodePart field.1).length + (encodePart field.2).length := by
  have hmem : (writeField field).contains '=' = true := by
    simp [writeField]
  unfold fieldSize
  rw [if_pos hmem]
  unfold writeField
  rw [List.length_append, List.length_cons]
  omega

theorem of_mem_writeField (h : c ∈ writeField field) : c.toNat < 0x80 ∧ c ≠ '&' := by
  rcases List.mem_append.mp h with hname | hvalue
  · exact ⟨(noMark_of_encodePart hname).1, (noMark_of_encodePart hname).2.1⟩
  · rcases List.mem_cons.mp hvalue with rfl | hvalue
    · decide
    · exact ⟨(noMark_of_encodePart hvalue).1, (noMark_of_encodePart hvalue).2.1⟩

theorem splitOn_writeForm (field : Text × Text) (fields : Fields) :
    Text.splitOn ['&'] (writeForm (field :: fields)) = (field :: fields).map writeField := by
  have hnone (field : Text × Text) : '&' ∉ writeField field := fun h => (of_mem_writeField h).2 rfl
  unfold writeForm
  induction fields generalizing field with
  | nil =>
    rw [List.map_singleton, Text.join_singleton, Text.splitOn_of_none (Text.cut?_eq_none (hnone _))]
  | cons next fields ih =>
    rw [List.map_cons, List.map_cons, Text.join_cons_cons, List.append_assoc,
      List.singleton_append,
      Text.splitOn_of_some (List.cons_ne_nil _ _) (Text.cut?_first (hnone _) _), ← List.map_cons,
      ih, List.map_cons]

theorem writtenFields_writeForm (fields : Fields) :
    writtenFields (writeForm fields) = fields.map writeField := by
  unfold writtenFields
  cases fields with
  | nil =>
    have hnil : Text.splitOn ['&'] (writeForm []) = [[]] := Text.splitOn_of_none rfl
    rw [hnil]
    rfl
  | cons field fields =>
    rw [splitOn_writeForm]
    refine List.filter_eq_self.mpr fun written hwritten => ?_
    obtain ⟨field, -, rfl⟩ := List.mem_map.mp hwritten
    simp [writeField]

theorem isAscii_writeForm (fields : Fields) : IsAscii (writeForm fields) := by
  unfold writeForm
  induction fields with
  | nil => exact List.forall_mem_nil _
  | cons field fields ih =>
    intro c hc
    cases fields with
    | nil =>
      rw [List.map_singleton, Text.join_singleton] at hc
      exact (of_mem_writeField hc).1
    | cons next fields =>
      rw [List.map_cons, List.map_cons, Text.join_cons_cons] at hc
      rcases List.mem_append.mp hc with hc | hc
      · rcases List.mem_append.mp hc with hc | hc
        · exact (of_mem_writeField hc).1
        · rw [List.mem_singleton.mp hc]
          decide
      · exact ih c hc

/-- A form in a row gives back the fields that were put into it. -/
theorem readRow_writeForm (hmany : fields.length ≤ maxFields)
    (hsize : ∀ field ∈ fields,
      (encodePart field.1).length + (encodePart field.2).length ≤ maxFieldSize) :
    readRow (writeForm fields) = .ok (fields.map fun field => (field.1, .text field.2)) := by
  have hlarge : ((fields.map writeField).take maxFields).any
      (fun written => maxFieldSize < fieldSize written) = false := by
    rw [List.any_eq_false]
    intro written hwritten
    obtain ⟨field, hfield, rfl⟩ := List.mem_map.mp (List.mem_of_mem_take hwritten)
    rw [fieldSize_writeField, decide_eq_true_eq]
    exact Nat.not_lt.mpr (hsize field hfield)
  have hread : (fields.map writeField).map readField = fields := by
    rw [List.map_map]
    exact (List.map_congr_left fun field _ => readField_writeField field).trans (List.map_id _)
  unfold readRow
  rw [byteChars_of_ascii (isAscii_writeForm fields), writtenFields_writeForm]
  dsimp only
  rw [hlarge, if_neg Bool.false_ne_true, List.length_map, if_neg (Nat.not_lt.mpr hmany), hread]

/-! ## Parameters -/

theorem unescape_of_notMem (h : '\\' ∉ s) : unescape s = s := by
  induction s with
  | nil => rfl
  | cons c s ih =>
    rw [List.mem_cons, not_or] at h
    rw [unescape, ih h.2]
    rintro d rest rfl
    exact absurd rfl h.1

/-- Nothing is cut between quotes. -/
theorem cutPieces_quoted (hquote : '"' ∉ s) (hslash : '\\' ∉ s) (piece : Text) :
    cutPieces true piece (s ++ ['"']) = [piece.reverse ++ s ++ ['"']] := by
  induction s generalizing piece with
  | nil => simp [cutPieces]
  | cons c s ih =>
    rw [List.mem_cons, not_or] at hquote hslash
    have hstep : cutPieces true piece (c :: (s ++ ['"'])) =
        cutPieces true (c :: piece) (s ++ ['"']) := by
      rw [cutPieces]
      · simp [Ne.symm hquote.1]
      · rintro rest rfl
        exact absurd rfl hslash.1
    rw [List.cons_append, hstep, ih hquote.2 hslash.2, List.reverse_cons]
    simp

/-- What the header of a part says of a field. -/
def fieldHeader (name : Text) : Text := "form-data; name=\"" ++ name ++ "\""

/-- A name that can stand between the quotes of a header. -/
def PlainName (name : Text) : Prop := '"' ∉ name ∧ '\\' ∉ name ∧ '\r' ∉ name

instance (name : Text) : Decidable (PlainName name) := inferInstanceAs (Decidable (_ ∧ _ ∧ _))

theorem readParameter_name (hslash : '\\' ∉ name) :
    readParameter (" name=\"" ++ name ++ ['"']) = (("name" : Text), name) := by
  have hquoted : Text.trim isBlank ('"' :: (name ++ ['"'])) = '"' :: (name ++ ['"']) := by
    refine Text.trim_eq_self_iff.mpr ⟨Text.startsOutside_cons.mpr (by decide), ?_⟩
    rw [← List.cons_append]
    exact Text.endsOutside_concat.mpr (by decide)
  have hcut : Text.cut? ['='] (" name=\"" ++ name ++ ['"']) =
      some ((" name" : Text), '"' :: (name ++ ['"'])) := rfl
  have hlabel : Text.asciiLower (Text.trim isBlank " name") = "name" := by decide
  unfold readParameter
  rw [hcut, Option.getD_some]
  dsimp only
  rw [hquoted, hlabel]
  have hunquote : unquote ('"' :: (name ++ ['"'])) = unescape name := by
    have hlast : ('"' :: (name ++ ['"'])).getLast? = some '"' := by
      rw [← List.cons_append, List.getLast?_concat]
    unfold unquote
    rw [hlast, if_pos (by simp), List.tail_cons, List.dropLast_concat]
  rw [hunquote, unescape_of_notMem hslash]

theorem parameters_fieldHeader (h : PlainName name) :
    parameters (fieldHeader name) = [(("name" : Text), name)] := by
  obtain ⟨hquote, hslash, -⟩ := h
  have hpieces : cutPieces false [] (fieldHeader name) =
      ("form-data" : Text) :: cutPieces true (" name=\"" : Text).reverse (name ++ ['"']) := rfl
  unfold parameters
  rw [hpieces, cutPieces_quoted hquote hslash, List.reverse_reverse, List.drop_one, List.tail_cons,
    List.map_singleton, readParameter_name hslash]

/-! ## Parts -/

/-- A field as a part. -/
def writePart (field : Text × Text) : Text :=
  "Content-Disposition: " ++ (fieldHeader field.1 ++ ("\r\n\r\n" ++ field.2))

/-- What stands behind a mark: the next part with what stands behind the mark after it, or the
    end. -/
def writeParts (mark : Text) : Fields → Text
  | [] => "--\r\n"
  | field :: rest => "\r\n" ++ (writePart field ++ (mark ++ writeParts mark rest))

/-- Fields as a form in parts. -/
def writeMarked (boundary : Text) (fields : Fields) : Text :=
  "--" ++ boundary ++ writeParts ("\r\n--" ++ boundary) fields

theorem readHeader_fieldHeader (hname : '\r' ∉ name) (rest : Text) :
    readHeader ("Content-Disposition: " ++ (fieldHeader name ++ '\r' :: '\n' :: rest)) =
      .ok (some (("content-disposition", fieldHeader name), rest)) := by
  have htoken : ∀ c ∈ ("Content-Disposition" : Text), isToken c = true :=
    List.all_eq_true.mp (by decide +kernel)
  have hcolon : ¬ isToken ':' = true := by decide
  have hclean : ∀ c ∈ fieldHeader name, decide (c ≠ '\r') = true := by
    intro c hc
    rw [decide_eq_true_eq]
    rintro rfl
    unfold fieldHeader at hc
    rw [List.mem_append, List.mem_append] at hc
    rcases hc with (hc | hc) | hc
    · exact absurd hc (by decide)
    · exact hname hc
    · exact absurd hc (by decide)
  have hshape : ("Content-Disposition: " : Text) ++ (fieldHeader name ++ '\r' :: '\n' :: rest) =
      "Content-Disposition" ++ ':' :: ' ' :: (fieldHeader name ++ '\r' :: '\n' :: rest) := by
    have hlabel : ("Content-Disposition: " : Text) = "Content-Disposition" ++ [':', ' '] := by
      decide
    rw [hlabel, List.append_assoc]
    rfl
  have hvalue : (' ' :: (fieldHeader name ++ '\r' :: '\n' :: rest)).dropWhile (· = ' ') =
      fieldHeader name ++ '\r' :: '\n' :: rest := rfl
  have hlower : Text.asciiLower "Content-Disposition" = "content-disposition" := by decide
  unfold readHeader
  rw [hshape, List.takeWhile_append_of_pos htoken, List.dropWhile_append_of_pos htoken,
    List.takeWhile_cons_of_neg hcolon, List.dropWhile_cons_of_neg hcolon, List.append_nil]
  simp only [hvalue]
  rw [if_neg (by decide), List.dropWhile_append_of_pos hclean,
    List.takeWhile_append_of_pos hclean, List.dropWhile_cons_of_neg (by decide),
    List.takeWhile_cons_of_neg (by decide), List.append_nil, hlower]
  rfl

theorem readHeaders_writePart (hname : '\r' ∉ name) (budget : Nat) (rest : Text) :
    readHeaders (budget + 2) (writePart (name, value) ++ rest) =
      .ok (some ([("content-disposition", fieldHeader name)], value ++ rest)) := by
  have hshape : writePart (name, value) ++ rest = "Content-Disposition: " ++
      (fieldHeader name ++ '\r' :: '\n' :: '\r' :: '\n' :: (value ++ rest)) := by
    unfold writePart
    rw [List.append_assoc, List.append_assoc, List.append_assoc]
    rfl
  show (readHeader (writePart (name, value) ++ rest)).bind _ = _
  rw [hshape, readHeader_fieldHeader hname]
  rfl

theorem disposition_fieldHeader (charset : Text) (h : PlainName name) :
    disposition charset [("content-disposition", fieldHeader name)] =
      .ok (decodeBytes charset name, false) := by
  have hvalue : Fields.get? [("content-disposition", fieldHeader name)] "content-disposition" =
      some (fieldHeader name) := rfl
  unfold disposition
  rw [hvalue, Option.getD_some, parameters_fieldHeader h]
  rfl

/-- The data of a part ends at the first mark, if what stands behind it makes it one. -/
theorem cutData?_of_cut? {follow after : Text} {last : Bool}
    (h : Text.cut? mark s = some (value, follow))
    (hfollow : follow = '\r' :: '\n' :: after ∧ last = false ∨
      follow = '-' :: '-' :: after ∧ last = true) :
    cutData? mark s = some (value, last, after) := by
  induction s generalizing value with
  | nil =>
    rw [Text.cut?] at h
    split at h
    · obtain ⟨-, rfl⟩ := Prod.mk.inj (Option.some.inj h)
      rcases hfollow with ⟨hnil, -⟩ | ⟨hnil, -⟩ <;> cases hnil
    · cases h
  | cons c s ih =>
    rw [Text.cut?] at h
    rw [cutData?]
    cases hdrop : Text.dropPrefix? mark (c :: s) with
    | some found =>
      rw [hdrop] at h
      obtain ⟨rfl, rfl⟩ := Prod.mk.inj (Option.some.inj h)
      rcases hfollow with ⟨rfl, rfl⟩ | ⟨rfl, rfl⟩ <;> rfl
    | none =>
      rw [hdrop] at h
      obtain ⟨⟨before, behind⟩, hcut, hparts⟩ := Option.map_eq_some_iff.mp h
      obtain ⟨rfl, rfl⟩ := Prod.mk.inj hparts
      dsimp only
      rw [ih hcut]
      rfl

/-- One part is read, and then what stands behind its mark. -/
theorem readParts_writePart {charset rest after : Text} {last : Bool} (hname : PlainName name)
    (hsize : value.length ≤ maxFieldSize)
    (hcut : cutData? mark (value ++ rest) = some (value, last, after)) {read : Nat}
    (hmany : read < maxFields) (budget : Nat) :
    readParts mark charset (budget + 1) read 0 (writePart (name, value) ++ rest) =
      if last then .ok [(decodeBytes charset name, .text (decodeBytes charset value))]
      else (readParts mark charset budget (read + 1) 0 after).map
        fun form => (decodeBytes charset name, .text (decodeBytes charset value)) :: form := by
  obtain ⟨length, hlength⟩ :
      ∃ length, (writePart (name, value) ++ rest).length + 1 = length + 2 := ⟨_, rfl⟩
  rw [readParts, hlength, readHeaders_writePart hname.2.2]
  show (disposition charset _).bind _ = _
  rw [disposition_fieldHeader charset hname]
  show (if maxFields < read + 1 then _ else _) = _
  rw [if_neg (by omega), if_neg (by decide)]
  simp only [hcut]
  rw [if_neg (by simpa using hsize)]
  cases last <;> rfl

/-- A field that can stand in a part. -/
structure FitsPart (mark : Text) (field : Text × Text) : Prop where
  plain : PlainName field.1
  unmarked : ¬ mark <:+: byteChars field.2
  size : (byteChars field.2).length ≤ maxFieldSize

/-- The bytes of a field. -/
def bytesOf (field : Text × Text) : Text × Text := (byteChars field.1, byteChars field.2)

theorem PlainName.bytes (h : PlainName name) : PlainName (byteChars name) :=
  ⟨fun hmem => h.1 (mem_of_mem_byteChars (by decide) hmem),
    fun hmem => h.2.1 (mem_of_mem_byteChars (by decide) hmem),
    fun hmem => h.2.2 (mem_of_mem_byteChars (by decide) hmem)⟩

theorem byteChars_writePart (field : Text × Text) :
    byteChars (writePart field) = writePart (bytesOf field) := by
  have hstart : byteChars "Content-Disposition: " = "Content-Disposition: " :=
    byteChars_of_ascii (by decide)
  have hlabel : byteChars "form-data; name=\"" = "form-data; name=\"" :=
    byteChars_of_ascii (by decide)
  have hquote : byteChars "\"" = "\"" := byteChars_of_ascii (by decide)
  have hgap : byteChars "\r\n\r\n" = "\r\n\r\n" := byteChars_of_ascii (by decide)
  unfold writePart fieldHeader bytesOf
  simp only [byteChars_append, hstart, hlabel, hquote, hgap]

theorem byteChars_writeParts (hmark : IsAscii mark) (fields : Fields) :
    byteChars (writeParts mark fields) = writeParts mark (fields.map bytesOf) := by
  have hend : byteChars "--\r\n" = "--\r\n" := byteChars_of_ascii (by decide)
  have hnewline : byteChars "\r\n" = "\r\n" := byteChars_of_ascii (by decide)
  induction fields with
  | nil => exact hend
  | cons field fields ih =>
    rw [List.map_cons, writeParts, writeParts, byteChars_append, byteChars_append, byteChars_append,
      hnewline, byteChars_writePart, byteChars_of_ascii hmark, ih]

theorem length_le_writeParts (mark : Text) (fields : Fields) :
    fields.length ≤ (writeParts mark fields).length := by
  induction fields with
  | nil => exact Nat.zero_le _
  | cons field fields ih =>
    rw [writeParts, List.length_cons, List.length_append, List.length_append, List.length_append]
    show _ ≤ 2 + _
    omega

/-- The mark is found behind what a field holds. -/
theorem FitsPart.cut? {more : Text} (h : FitsPart mark field) (hmark : mark = '\r' :: more)
    (hmore : '\r' ∉ more) (rest : Text) :
    Text.cut? mark (byteChars field.2 ++ (mark ++ rest)) = some (byteChars field.2, rest) := by
  have hnone : Text.cut? mark (byteChars field.2) = none :=
    (Text.cut?_eq_none_iff (hmark ▸ List.cons_ne_nil _ _)).mpr h.unmarked
  subst hmark
  exact Text.cut?_first_of_none hmore hnone rest

/-- The parts of a form are read in turn, up to the mark that is the last. -/
theorem readParts_writeParts {more : Text} (hmark : mark = '\r' :: more) (hmore : '\r' ∉ more)
    (field : Text × Text) (fields : Fields) (hfits : ∀ other ∈ field :: fields, FitsPart mark other)
    {read budget : Nat} (hmany : read + fields.length < maxFields)
    (hbudget : fields.length < budget) :
    readParts mark "utf-8" budget read 0
        (writePart (bytesOf field) ++ (mark ++ writeParts mark (fields.map bytesOf))) =
      .ok ((field :: fields).map fun other => (other.1, .text other.2)) := by
  obtain ⟨budget, rfl⟩ : ∃ less, budget = less + 1 := ⟨budget - 1, by omega⟩
  induction fields generalizing field read budget with
  | nil =>
    obtain ⟨hfield, -⟩ := List.forall_mem_cons.mp hfits
    have hcut : cutData? mark (byteChars field.2 ++ (mark ++ writeParts mark [])) =
        some (byteChars field.2, true, ("\r\n" : Text)) :=
      cutData?_of_cut? (hfield.cut? hmark hmore _) (Or.inr ⟨rfl, rfl⟩)
    rw [List.map_nil, bytesOf,
      readParts_writePart hfield.plain.bytes hfield.size hcut (by omega), if_pos rfl,
      decodeBytes_byteChars, decodeBytes_byteChars]
    rfl
  | cons next fields ih =>
    obtain ⟨hfield, hrest⟩ := List.forall_mem_cons.mp hfits
    rw [List.length_cons] at hmany hbudget
    have hcut : cutData? mark
        (byteChars field.2 ++ (mark ++ writeParts mark ((next :: fields).map bytesOf))) =
          some (byteChars field.2, false,
            writePart (bytesOf next) ++ (mark ++ writeParts mark (fields.map bytesOf))) :=
      cutData?_of_cut? (hfield.cut? hmark hmore _) (Or.inl ⟨rfl, rfl⟩)
    obtain ⟨budget, rfl⟩ : ∃ less, budget = less + 1 := ⟨budget - 1, by omega⟩
    have hread := ih next hrest (by omega : read + 1 + fields.length < maxFields) budget (by omega)
    rw [bytesOf, readParts_writePart hfield.plain.bytes hfield.size hcut (by omega),
      if_neg Bool.false_ne_true, hread, decodeBytes_byteChars, decodeBytes_byteChars]
    rfl

/-- Behind the first mark begins a line, and from there on the parts are read. -/
theorem exists_line_of_parts {more : Text} (hmark : mark = '\r' :: more) (hmore : '\r' ∉ more)
    (field : Text × Text) (fields : Fields) (hfits : ∀ other ∈ field :: fields, FitsPart mark other)
    (hmany : (field :: fields).length ≤ maxFields) :
    ∃ rest, writeParts mark ((field :: fields).map bytesOf) = '\r' :: '\n' :: rest ∧
      readParts mark "utf-8" rest.length 0 0 rest =
        .ok ((field :: fields).map fun other => (other.1, .text other.2)) := by
  refine ⟨writePart (bytesOf field) ++ (mark ++ writeParts mark (fields.map bytesOf)), rfl, ?_⟩
  have hlength := length_le_writeParts mark (fields.map bytesOf)
  have hpos : 0 < mark.length := by
    rw [hmark]
    exact Nat.succ_pos _
  rw [List.length_map] at hlength
  rw [List.length_cons] at hmany
  refine readParts_writeParts hmark hmore field fields hfits (by omega) ?_
  rw [List.length_append, List.length_append]
  omega

theorem byteChars_writeMarked {boundary : Text} (hascii : IsAscii boundary) (fields : Fields) :
    byteChars (writeMarked boundary fields) = writeMarked boundary (fields.map bytesOf) := by
  have hmark : IsAscii ("\r\n--" ++ boundary) :=
    List.forall_mem_append.mpr ⟨show IsAscii "\r\n--" by decide, hascii⟩
  have hstart : byteChars "--" = "--" := byteChars_of_ascii (by decide)
  unfold writeMarked
  rw [byteChars_append, byteChars_append, hstart, byteChars_of_ascii hascii,
    byteChars_writeParts hmark]

/-- A form in parts gives back the fields that can stand in parts. -/
theorem readMarked_writeMarked {header boundary : Text}
    (hboundary : (parameters header).get? "boundary" = some boundary)
    (hcharset : (parameters header).get? "charset" = none)
    (hascii : IsAscii boundary) (hreturn : '\r' ∉ boundary)
    (hfits : ∀ field ∈ fields, FitsPart ("\r\n--" ++ boundary) field)
    (hmany : fields.length ≤ maxFields) :
    readMarked header (writeMarked boundary fields) =
      .ok (fields.map fun field => (field.1, .text field.2)) := by
  obtain ⟨mark, hmark⟩ : ∃ mark, mark = ("\r\n--" : Text) ++ boundary := ⟨_, rfl⟩
  rw [← hmark] at hfits
  have htext : "\r\n" ++ (writeMarked boundary (fields.map bytesOf)).dropWhile
      (fun c => c = '\r' || c = '\n') = mark ++ writeParts mark (fields.map bytesOf) := by
    rw [hmark]
    rfl
  have hdrop : Text.dropPrefix? mark (mark ++ writeParts mark (fields.map bytesOf)) =
      some (writeParts mark (fields.map bytesOf)) := Text.dropPrefix?_eq_some_iff.mpr rfl
  have hutf8 : Text.asciiLower "utf-8" = "utf-8" := by decide
  unfold readMarked
  rw [hboundary]
  dsimp only
  rw [hcharset, Option.getD_none, hutf8, byteChars_writeMarked hascii, ← hmark, htext, hdrop]
  cases fields with
  | nil => rfl
  | cons field fields =>
    have hmore : '\r' ∉ '\n' :: '-' :: '-' :: boundary := by simpa using hreturn
    obtain ⟨rest, hline, hread⟩ := exists_line_of_parts hmark hmore field fields hfits hmany
    rw [hline]
    exact hread

namespace Request

variable {request : Request} {header boundary : Text}

theorem contentType_of_header (h : request.header? "content-type" = some header) :
    request.contentType = Text.asciiLower (Text.trim isBlank (header.takeWhile (· ≠ ';'))) := by
  unfold contentType
  rw [h]
  rfl

/-- A request with a form in a row is read as its fields. -/
theorem readForm_of_row (hheader : request.header? "content-type" = some header)
    (hkind : Text.asciiLower (Text.trim isBlank (header.takeWhile (· ≠ ';'))) =
      "application/x-www-form-urlencoded")
    (hbody : request.body = writeForm fields) (hmany : fields.length ≤ maxFields)
    (hsize : ∀ field ∈ fields,
      (encodePart field.1).length + (encodePart field.2).length ≤ maxFieldSize) :
    request.readForm = .ok (fields.map fun field => (field.1, .text field.2)) := by
  unfold readForm
  rw [contentType_of_header hheader, if_pos hkind, hbody]
  exact readRow_writeForm hmany hsize

/-- A request with a form in parts is read as its fields. -/
theorem readForm_of_parts (hheader : request.header? "content-type" = some header)
    (hkind : Text.asciiLower (Text.trim isBlank (header.takeWhile (· ≠ ';'))) =
      "multipart/form-data")
    (hboundary : (parameters header).get? "boundary" = some boundary)
    (hcharset : (parameters header).get? "charset" = none)
    (hascii : IsAscii boundary) (hreturn : '\r' ∉ boundary)
    (hbody : request.body = writeMarked boundary fields)
    (hfits : ∀ field ∈ fields, FitsPart ("\r\n--" ++ boundary) field)
    (hmany : fields.length ≤ maxFields) :
    request.readForm = .ok (fields.map fun field => (field.1, .text field.2)) := by
  unfold readForm
  rw [contentType_of_header hheader, if_neg (by rw [hkind]; decide), if_pos hkind, hbody, hheader,
    Option.getD_some]
  exact readMarked_writeMarked hboundary hcharset hascii hreturn hfits hmany

end Request

end Taskbook.Http
