/-
  Waymark.Proofs.Query.RoundTrip

  A query that was written from a map is read as that map.  Encoded text holds plain characters and
  percent signs only, so the signs between keys and values and between entries stand out, and a
  query stays on one line.

  Main statement: `parse_stringify`.
-/

import Waymark.Proofs.Query.Pieces

namespace Waymark

namespace Query

/-! ## Encoded text -/

/-- The characters of encoded text. -/
def isEncoded (c : Char) : Bool := isPlain c || c == '%'

theorem isPlain_upperHex : ∀ n < 16, isPlain (upperHex n) = true := by decide

theorem isEncoded_of_mem_escapeByte {b : UInt8} {c : Char} (h : c ∈ escapeByte b) :
    isEncoded c = true := by
  have hb : b.toNat < 256 := b.toNat_lt
  have hhigh := isPlain_upperHex (b.toNat / 16) (by omega)
  have hlow := isPlain_upperHex (b.toNat % 16) (by omega)
  simp only [escapeByte, List.mem_cons, List.not_mem_nil, or_false] at h
  rcases h with rfl | rfl | rfl
  · decide
  · rw [isEncoded, hhigh, Bool.true_or]
  · rw [isEncoded, hlow, Bool.true_or]

theorem isEncoded_of_mem_encodeChar {c d : Char} (h : d ∈ encodeChar c) :
    isEncoded d = true := by
  rw [encodeChar] at h
  by_cases hc : isPlain c = true
  · rw [if_pos hc, List.mem_singleton] at h
    rw [h, isEncoded, hc, Bool.true_or]
  · rw [if_neg hc] at h
    obtain ⟨b, -, hd⟩ := List.mem_flatMap.1 h
    exact isEncoded_of_mem_escapeByte hd

theorem isEncoded_of_mem_encode {s : String} {d : Char} (h : d ∈ (encode s).toList) :
    isEncoded d = true := by
  rw [encode, String.toList_ofList] at h
  obtain ⟨c, -, hd⟩ := List.mem_flatMap.1 h
  exact isEncoded_of_mem_encodeChar hd

/-- A character that is neither plain nor a percent sign does not occur in encoded text. -/
theorem not_mem_encode {d : Char} (hd : isEncoded d = false) (s : String) :
    d ∉ (encode s).toList := by
  intro h
  rw [isEncoded_of_mem_encode h] at hd
  exact absurd hd (by decide)

/-! ## Decoding -/

theorem hexDigit?_upperHex : ∀ n < 16, hexDigit? (upperHex n) = some n := by decide

theorem hexByte?_upperHex (b : UInt8) :
    hexByte? (upperHex (b.toNat / 16)) (upperHex (b.toNat % 16)) = some b := by
  have hb : b.toNat < 256 := b.toNat_lt
  rw [hexByte?, hexDigit?_upperHex _ (by omega), hexDigit?_upperHex _ (by omega)]
  show some (UInt8.ofNat (16 * (b.toNat / 16) + b.toNat % 16)) = some b
  rw [Nat.div_add_mod, UInt8.ofNat_toNat]

theorem bytes_escapeByte (b : UInt8) (s : List Char) :
    bytes (escapeByte b ++ s) = b :: bytes s := by
  show bytes ('%' :: upperHex (b.toNat / 16) :: upperHex (b.toNat % 16) :: s) = _
  rw [bytes, hexByte?_upperHex]

theorem bytes_escapeBytes (bs : List UInt8) (s : List Char) :
    bytes (bs.flatMap escapeByte ++ s) = bs ++ bytes s := by
  induction bs with
  | nil => rfl
  | cons b bs ih =>
    rw [List.flatMap_cons, List.append_assoc, bytes_escapeByte, ih, List.cons_append]

theorem bytes_encodeChar (c : Char) (s : List Char) :
    bytes (encodeChar c ++ s) = String.utf8EncodeChar c ++ bytes s := by
  rw [encodeChar]
  by_cases hc : isPlain c = true
  · have hpercent : c ≠ '%' := by
      rintro rfl
      exact absurd hc (by decide)
    rw [if_pos hc, List.singleton_append, bytes_cons_of_ne hpercent]
  · rw [if_neg hc, bytes_escapeBytes]

theorem bytes_encode (s : List Char) :
    bytes (s.flatMap encodeChar) = s.flatMap String.utf8EncodeChar := by
  induction s with
  | nil => rfl
  | cons c s ih => rw [List.flatMap_cons, bytes_encodeChar, ih, List.flatMap_cons]

/-- Decoding takes encoding back. -/
theorem decode_encode (s : String) : decode (encode s).toList = s := by
  -- a blank is not written as a plus sign, and a plus sign is escaped
  have hplus : plusToBlank (encode s).toList = (encode s).toList := by
    refine (List.map_congr_left fun c hc => ?_).trans (List.map_id' _)
    have hne : c ≠ '+' := by
      rintro rfl
      exact not_mem_encode (by decide) s hc
    rw [if_neg hne]
  have hbytes : bytes (encode s).toList = s.toList.flatMap String.utf8EncodeChar := by
    rw [encode, String.toList_ofList, bytes_encode]
  have hutf8 : String.fromUTF8? (s.toList.flatMap String.utf8EncodeChar).toByteArray = some s := by
    have hs : (s.toList.flatMap String.utf8EncodeChar).toByteArray = s.toByteArray :=
      String.utf8Encode_toList
    rw [hs, String.fromUTF8?, dif_pos s.isValidUTF8]
    rfl
  rw [decode, hplus, hbytes, hutf8, Option.getD_some]

/-! ## Queries -/

theorem toList_pairText (e : String × String) :
    (pairText e).toList = (encode e.1).toList ++ '=' :: (encode e.2).toList := by
  simp [pairText]

/-- An entry is read as it was written. -/
theorem entry_pairText (e : String × String) : entry (pairText e).toList = e := by
  -- so the first equals sign is the one behind the key
  have hkey : ∀ c ∈ (encode e.1).toList, (c != '=') = true := by
    intro c hc
    have hne : c ≠ '=' := by
      rintro rfl
      exact not_mem_encode (by decide) e.1 hc
    simpa using hne
  have hsplit : splitPair (pairText e).toList = ((encode e.1).toList, (encode e.2).toList) := by
    rw [splitPair, toList_pairText, List.takeWhile_append_of_pos hkey,
      List.dropWhile_append_of_pos hkey]
    simp
  rw [entry, hsplit]
  show (decode _, decode _) = e
  rw [decode_encode, decode_encode]

theorem toList_stringify (d : Dict String) :
    (stringify d).toList = ['&'].intercalate (d.entries.map fun e => (pairText e).toList) := by
  simp [stringify, Dict.toList, Function.comp_def]

theorem not_mem_pairText {d : Char} (hd : isEncoded d = false) (heq : d ≠ '=')
    (e : String × String) : d ∉ (pairText e).toList := by
  rw [toList_pairText, List.mem_append, List.mem_cons]
  rintro (h | h | h)
  · exact not_mem_encode hd e.1 h
  · exact heq h
  · exact not_mem_encode hd e.2 h

theorem pairText_ne_nil (e : String × String) : (pairText e).toList ≠ [] := by
  rw [toList_pairText]
  simp

/-- The characters of written queries: those of encoded text and the signs between its parts. -/
def isQueryChar (c : Char) : Bool := isEncoded c || c == '=' || c == '&'

theorem isQueryChar_of_mem_pairText {e : String × String} {c : Char}
    (h : c ∈ (pairText e).toList) : isQueryChar c = true := by
  rw [toList_pairText, List.mem_append, List.mem_cons] at h
  rcases h with h | rfl | h
  · rw [isQueryChar, isEncoded_of_mem_encode h, Bool.true_or, Bool.true_or]
  · decide
  · rw [isQueryChar, isEncoded_of_mem_encode h, Bool.true_or, Bool.true_or]

theorem isQueryChar_of_mem_stringify {d : Dict String} {c : Char}
    (h : c ∈ (stringify d).toList) : isQueryChar c = true := by
  rw [toList_stringify] at h
  generalize d.entries = es at h
  induction es with
  | nil => exact absurd h (by simp)
  | cons e es ih =>
    cases es with
    | nil => exact isQueryChar_of_mem_pairText (by simpa using h)
    | cons f es =>
      rw [List.map_cons, List.map_cons, List.intercalate_cons_cons, List.mem_append,
        List.mem_append, List.mem_singleton] at h
      rcases h with (h | rfl) | h
      · exact isQueryChar_of_mem_pairText h
      · decide
      · exact ih h

/-- A query is written on one line. -/
theorem not_mem_stringify (d : Dict String) : '\n' ∉ (stringify d).toList := by
  intro h
  exact absurd (isQueryChar_of_mem_stringify h) (by decide)

theorem pieces_stringify (d : Dict String) :
    pieces (stringify d).toList = d.entries.map fun e => (pairText e).toList := by
  rw [pieces, toList_stringify]
  by_cases hd : d.entries = []
  · -- the empty text has one piece, which is empty and does not count
    rw [hd]
    rfl
  · have hsplit : (['&'].intercalate (d.entries.map fun e => (pairText e).toList)).splitOn '&'
        = d.entries.map fun e => (pairText e).toList := by
      refine List.splitOn_intercalate '&' ?_ (by simpa using hd)
      intro l hl
      obtain ⟨e, -, rfl⟩ := List.mem_map.1 hl
      exact not_mem_pairText (by decide) (by decide) e
    rw [hsplit, List.filter_eq_self]
    intro l hl
    obtain ⟨e, -, rfl⟩ := List.mem_map.1 hl
    simpa using pairText_ne_nil e

theorem entries_stringify (d : Dict String) : entries (stringify d).toList = d.entries := by
  rw [entries, pieces_stringify, List.map_map]
  exact (List.map_congr_left fun e _ => entry_pairText e).trans (List.map_id' _)

/-- What a written query says about a key. -/
theorem get?_parse_stringify (d : Dict String) (k : String) :
    (parse (stringify d)).get? k = d.get? k := by
  rw [get?_parse_eq_lookup, entries_stringify]
  rfl

/-- Only the query of the empty map is empty. -/
theorem stringify_eq_empty_iff {d : Dict String} : stringify d = "" ↔ d = .empty := by
  constructor
  · intro h
    refine Dict.ext_get? fun k => ?_
    rw [← get?_parse_stringify, h]
    rfl
  · rintro rfl
    rfl

/-- A query that was written from a map is read as that map. -/
theorem parse_stringify (d : Dict String) : parse (stringify d) = d :=
  Dict.ext_get? (get?_parse_stringify d)

end Query

end Waymark
