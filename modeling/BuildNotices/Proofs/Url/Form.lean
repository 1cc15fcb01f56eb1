import BuildNotices.Proofs.Text.Search
import BuildNotices.Url.Basic
/-!
Reading escapes and forms back.

The bytes of an escaped text are the bytes of the text. A form is read by cutting it at
ampersands and each pair at its first equals sign, where a plus sign stands for a space; so
a pair that is appended to a query comes back behind the pairs that were there.
-/

namespace BuildNotices
namespace Url

open Text

/-! ### Escaped bytes -/

theorem hexValue?_upperHexDigit {value : Nat} (small : value < 16) :
    hexValue? (upperHexDigit value) = some value := by
  have every : ∀ value < 16, hexValue? (upperHexDigit value) = some value := by decide
  exact every value small

theorem decodeBytes_escapeByte_append (byte : UInt8) (rest : List Char) :
    decodeBytes (escapeByte byte ++ rest) = byte :: decodeBytes rest := by
  have bounded : byte.toNat < 256 := byte.toNat_lt
  have high : byte.toNat / 16 < 16 := by omega
  have low : byte.toNat % 16 < 16 := Nat.mod_lt _ (by decide)
  have whole : 16 * (byte.toNat / 16) + byte.toNat % 16 = byte.toNat := Nat.div_add_mod _ _
  simp only [escapeByte, List.cons_append, List.nil_append, decodeBytes,
    hexValue?_upperHexDigit high, hexValue?_upperHexDigit low, whole, UInt8.ofNat_toNat]

theorem decodeBytes_escapeBytes_append (bytes : List UInt8) (rest : List Char) :
    decodeBytes (bytes.flatMap escapeByte ++ rest) = bytes ++ decodeBytes rest := by
  induction bytes with
  | nil => rfl
  | cons byte others ih =>
      rw [List.flatMap_cons, List.append_assoc, decodeBytes_escapeByte_append, ih,
        List.cons_append]

theorem decodeBytes_cons {c : Char} (plain : c ≠ '%') (rest : List Char) :
    decodeBytes (c :: rest) = String.utf8EncodeChar c ++ decodeBytes rest := by
  rw [decodeBytes.eq_def]
  split
  next impossible => cases impossible
  next same =>
    cases same
    exact absurd rfl plain
  next same =>
    cases same
    rfl

/-- A character that stands for itself or is escaped gives its bytes. -/
theorem decodeBytes_flatMap {write : Char → List Char}
    (faithful : ∀ c, write c = escapeChar c ∨ (write c = [c] ∧ c ≠ '%')) (chars : List Char) :
    decodeBytes (chars.flatMap write) = chars.flatMap String.utf8EncodeChar := by
  induction chars with
  | nil => rfl
  | cons c rest ih =>
      rw [List.flatMap_cons, List.flatMap_cons, ← ih]
      rcases faithful c with escaped | ⟨kept, plain⟩
      · rw [escaped, escapeChar, decodeBytes_escapeBytes_append]
      · rw [kept, List.singleton_append, decodeBytes_cons plain]

theorem decode?_of_decodeBytes {written chars : List Char}
    (bytes : decodeBytes written = chars.flatMap String.utf8EncodeChar) :
    decode? written = some (String.ofList chars) := by
  have encoded : (decodeBytes written).toByteArray = chars.utf8Encode := by
    rw [bytes, List.utf8Encode]
  unfold decode? String.fromUTF8?
  rw [encoded, dif_pos ByteArray.isValidUTF8_utf8Encode, Option.some.injEq,
    ← String.toByteArray_inj, String.toByteArray_ofList]
  rfl

/-! ### Reading forms -/

def readPlus (c : Char) : Char :=
  if c = '+' then ' ' else c

def formDecodeText (written : List Char) : Option String :=
  decode? (written.map readPlus)

/-- One pair of a form, cut at its first equals sign. -/
def formDecodePair (written : List Char) : Option String × Option String :=
  (formDecodeText (written.takeWhile (· ≠ '=')),
    formDecodeText ((written.dropWhile (· ≠ '=')).drop 1))

/-- The pairs of a form; nothing between two ampersands is no pair. -/
def formDecode (written : List Char) : List (Option String × Option String) :=
  ((fields '&' written).filter (· ≠ [])).map formDecodePair

def queryPairs (url : Url) : List (Option String × Option String) :=
  formDecode (url.query.getD "").toList

theorem mem_escapeChar {c d : Char} (member : d ∈ escapeChar c) :
    d = '%' ∨ formKeeps d = true := by
  obtain ⟨byte, _, inByte⟩ := List.mem_flatMap.mp member
  have digit : ∀ value < 16, formKeeps (upperHexDigit value) = true := by decide
  have bounded : byte.toNat < 256 := byte.toNat_lt
  simp only [escapeByte, List.mem_cons, List.not_mem_nil, or_false] at inByte
  rcases inByte with sign | high | low
  · exact Or.inl sign
  · exact Or.inr (high ▸ digit _ (by omega))
  · exact Or.inr (low ▸ digit _ (Nat.mod_lt _ (by decide)))

theorem mem_formText {text : String} {d : Char} (member : d ∈ formText text) :
    d = '%' ∨ d = '+' ∨ formKeeps d = true := by
  obtain ⟨c, _, written⟩ := List.mem_flatMap.mp member
  unfold formChar at written
  split at written
  next kept =>
    exact Or.inr (Or.inr (List.mem_singleton.mp written ▸ kept))
  next =>
    split at written
    next => exact Or.inr (Or.inl (List.mem_singleton.mp written))
    next =>
      rcases mem_escapeChar written with sign | kept
      · exact Or.inl sign
      · exact Or.inr (Or.inr kept)

theorem not_mem_formText {text : String} {mark : Char}
    (separator : mark = '&' ∨ mark = '=') : mark ∉ formText text := by
  have absent : ¬ (mark = '%' ∨ mark = '+' ∨ formKeeps mark = true) := by
    rcases separator with rfl | rfl <;> decide
  exact fun member => absent (mem_formText member)

theorem map_readPlus_escapeChar (c : Char) : (escapeChar c).map readPlus = escapeChar c := by
  have same : ∀ d ∈ escapeChar c, readPlus d = d := by
    intro d member
    have other : d ≠ '+' := by
      rintro rfl
      rcases mem_escapeChar member with sign | kept
      · exact absurd sign (by decide)
      · exact absurd kept (by decide)
    rw [readPlus, if_neg other]
  rw [List.map_congr_left same, List.map_id']

theorem map_readPlus_formChar (c : Char) :
    (formChar c).map readPlus = escapeChar c ∨
      ((formChar c).map readPlus = [c] ∧ c ≠ '%') := by
  unfold formChar
  split
  next kept =>
    refine Or.inr ⟨?_, ?_⟩
    · have other : c ≠ '+' := by
        rintro rfl
        exact absurd kept (by decide)
      rw [List.map_singleton, readPlus, if_neg other]
    · rintro rfl
      exact absurd kept (by decide)
  next =>
    split
    next space =>
      rw [space]
      exact Or.inr ⟨rfl, by decide⟩
    next => exact Or.inl (map_readPlus_escapeChar c)

theorem formDecodeText_formText (text : String) :
    formDecodeText (formText text) = some text := by
  have read : (formText text).map readPlus =
      text.toList.flatMap fun c => (formChar c).map readPlus := List.map_flatMap
  have bytes := decodeBytes_flatMap map_readPlus_formChar text.toList
  rw [formDecodeText, read, decode?_of_decodeBytes bytes, String.ofList_toList]

theorem formDecodePair_formPair (pair : String × String) :
    formDecodePair (formPair pair) = (some pair.1, some pair.2) := by
  have span :
      (formPair pair).takeWhile (fun c => decide (c ≠ '=')) = formText pair.1 ∧
        (formPair pair).dropWhile (fun c => decide (c ≠ '=')) = '=' :: formText pair.2 :=
    span_ne (formText pair.2) (not_mem_formText (Or.inr rfl))
  rw [formDecodePair, span.1, span.2, List.drop_one, List.tail_cons, formDecodeText_formText,
    formDecodeText_formText]

theorem formDecode_append (first second : List Char) :
    formDecode (first ++ '&' :: second) = formDecode first ++ formDecode second := by
  rw [formDecode, fields_append, List.filter_append, List.map_append]
  rfl

theorem formDecode_formPair (pair : String × String) :
    formDecode (formPair pair) = [(some pair.1, some pair.2)] := by
  have unbroken : '&' ∉ formPair pair := by
    intro member
    rcases List.mem_append.mp member with inName | inValue
    · exact not_mem_formText (Or.inl rfl) inName
    · rcases List.mem_cons.mp inValue with same | inText
      · exact absurd same (by decide)
      · exact not_mem_formText (Or.inl rfl) inText
  have nonempty : formPair pair ≠ [] :=
    List.append_ne_nil_of_right_ne_nil _ (List.cons_ne_nil _ _)
  rw [formDecode, fields_of_not_mem unbroken,
    List.filter_cons_of_pos (by simpa using nonempty), List.filter_nil, List.map_singleton,
    formDecodePair_formPair]

/-- A form comes back pair by pair, in order and with repetitions. -/
theorem formDecode_formEncode (pairs : List (String × String)) :
    formDecode (formEncode pairs).toList = pairs.map fun pair => (some pair.1, some pair.2) := by
  rw [formEncode, String.toList_ofList]
  induction pairs with
  | nil => rfl
  | cons pair rest ih =>
      cases rest with
      | nil =>
          rw [List.map_singleton, List.intercalate_singleton, formDecode_formPair]
          rfl
      | cons next others =>
          rw [List.map_cons, List.map_cons, List.intercalate_cons_cons, List.append_assoc,
            List.singleton_append, formDecode_append, formDecode_formPair, ← List.map_cons, ih]
          rfl

/-- A pair that is appended to a query comes back behind the pairs that were there. -/
theorem queryPairs_appendQuery (url : Url) (pair : String × String) :
    (url.appendQuery pair).queryPairs = url.queryPairs ++ [(some pair.1, some pair.2)] := by
  have written : (formEncode [pair]).toList = formPair pair := by
    simp [formEncode, List.intercalate]
  unfold queryPairs appendQuery
  split
  next absent =>
    simp only [absent, Option.getD_some, Option.getD_none, written, formDecode_formPair]
    rfl
  next empty =>
    simp only [empty, Option.getD_some, written, formDecode_formPair]
    rfl
  next query _ found =>
    simp only [found, Option.getD_some, String.toList_append, written]
    rw [List.append_assoc]
    exact (formDecode_append query.toList (formPair pair)).trans
      (congrArg _ (formDecode_formPair pair))

end Url
end BuildNotices
