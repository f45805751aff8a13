/-
  Waymark.Proofs.Query.Decoding

  What a query says, told apart from the functions that read it.  `Spells` is the grammar of keys
  and values: a plus sign is a blank, a percent sign and two hexadecimal digits are a byte, every
  other character is its UTF-8 form.  Bytes that are the UTF-8 form of a text are read as that text;
  of a key or value whose bytes are not, something is kept, and `DecodesTo` leaves open what.

  Reading keeps the key or value with blanks for its plus signs.  Main statement:
  `get?_parse_eq_some_iff`, which also says when that is the key or value as it was written.
-/

import Mathlib.Data.List.TakeWhile
import Mathlib.Tactic.IntervalCases
import Waymark.Proofs.Query.Pieces

namespace Waymark

namespace Query

/-! ## Hexadecimal digits -/

/-- A character is the hexadecimal digit of a number, in lower or upper case. -/
def HexDigit (c : Char) (n : Nat) : Prop :=
  "0123456789abcdef".toList[n]? = some c ∨ "0123456789ABCDEF".toList[n]? = some c

instance {c : Char} {n : Nat} : Decidable (HexDigit c n) := inferInstanceAs (Decidable (_ ∨ _))

theorem HexDigit.lt {c : Char} {n : Nat} (h : HexDigit c n) : n < 16 := by
  rcases h with h | h
  · exact (List.getElem?_eq_some_iff.1 h).1
  · exact (List.getElem?_eq_some_iff.1 h).1

theorem toNat_lt_of_hexDigit? {c : Char} {n : Nat} (h : hexDigit? c = some n) : c.toNat < 103 := by
  rcases Nat.lt_or_ge c.toNat 103 with hlt | hge
  · exact hlt
  · -- no digit stands behind the letter `f`
    have hbeyond : ∀ d : Char, d.toNat < 103 → decide (c ≤ d) = false := by
      intro d hd
      apply decide_eq_false
      intro hle
      have hle' : c.toNat ≤ d.toNat := hle
      omega
    rw [hexDigit?, hbeyond '9' (by decide), hbeyond 'f' (by decide), hbeyond 'F' (by decide)] at h
    simp at h

theorem hexDigit_of_toNat_lt :
    ∀ m < 103, ∀ n ∈ hexDigit? (Char.ofNat m), HexDigit (Char.ofNat m) n := by
  decide +kernel

theorem hexDigit?_eq_some_iff {c : Char} {n : Nat} : hexDigit? c = some n ↔ HexDigit c n := by
  constructor
  · intro h
    have hlt := toNat_lt_of_hexDigit? h
    have hdigit := hexDigit_of_toNat_lt c.toNat hlt n (by rw [Char.ofNat_toNat]; exact h)
    rwa [Char.ofNat_toNat] at hdigit
  · intro h
    have hn := h.lt
    rcases h with h | h
    · interval_cases n <;> cases h <;> decide
    · interval_cases n <;> cases h <;> decide

theorem hexByte?_eq_some_iff {a b : Char} {x : UInt8} : hexByte? a b = some x ↔
    ∃ h l, HexDigit a h ∧ HexDigit b l ∧ x = UInt8.ofNat (16 * h + l) := by
  have hbind : hexByte? a b
      = (hexDigit? a).bind fun h => (hexDigit? b).bind fun l => some (UInt8.ofNat (16 * h + l)) := rfl
  rw [hbind, Option.bind_eq_some_iff]
  constructor
  · rintro ⟨h, ha, hl⟩
    obtain ⟨l, hb, hx⟩ := Option.bind_eq_some_iff.1 hl
    exact ⟨h, l, hexDigit?_eq_some_iff.1 ha, hexDigit?_eq_some_iff.1 hb, (Option.some.inj hx).symm⟩
  · rintro ⟨h, l, ha, hb, rfl⟩
    refine ⟨h, hexDigit?_eq_some_iff.2 ha, ?_⟩
    rw [hexDigit?_eq_some_iff.2 hb]
    rfl

/-- Neither a plus sign nor the blank for it is a digit. -/
theorem HexDigit.of_plusToBlank {c : Char} {n : Nat}
    (h : HexDigit (if c = '+' then ' ' else c) n) : c ≠ '+' ∧ HexDigit c n := by
  by_cases hc : c = '+'
  · rw [if_pos hc, ← hexDigit?_eq_some_iff] at h
    exact absurd h (by simp [hexDigit?])
  · rw [if_neg hc] at h
    exact ⟨hc, h⟩

theorem HexDigit.ne_plus {c : Char} {n : Nat} (h : HexDigit c n) : c ≠ '+' := by
  rintro rfl
  rw [← hexDigit?_eq_some_iff] at h
  exact absurd h (by simp [hexDigit?])

/-! ## Bytes -/

/-- Whether two hexadecimal digits stand first. -/
def StartsHex (s : List Char) : Prop :=
  ∃ a b h l t, s = a :: b :: t ∧ HexDigit a h ∧ HexDigit b l

/-- Which bytes a key or value spells. -/
inductive Spells : List Char → List UInt8 → Prop
  | nil : Spells [] []
  /-- A plus sign is a blank. -/
  | plus {s : List Char} {bs : List UInt8} (hs : Spells s bs) : Spells ('+' :: s) (0x20 :: bs)
  /-- A percent sign and two hexadecimal digits are a byte. -/
  | escape {a b : Char} {h l : Nat} {s : List Char} {bs : List UInt8} (ha : HexDigit a h)
      (hb : HexDigit b l) (hs : Spells s bs) :
      Spells ('%' :: a :: b :: s) (UInt8.ofNat (16 * h + l) :: bs)
  /-- Every other character is its UTF-8 form, and so is a percent sign in front of anything else. -/
  | char {c : Char} {s : List Char} {bs : List UInt8} (hplus : c ≠ '+')
      (hescape : c = '%' → ¬ StartsHex s) (hs : Spells s bs) :
      Spells (c :: s) (String.utf8EncodeChar c ++ bs)

theorem exists_spells (s : List Char) : ∃ bs, Spells s bs := by
  -- by induction on the length, as an escape takes three characters
  induction hn : s.length using Nat.strongRecOn generalizing s with
  | ind n ih =>
    subst hn
    cases s with
    | nil => exact ⟨[], .nil⟩
    | cons c s =>
      obtain ⟨bs, hbs⟩ := ih s.length (Nat.lt_succ_self _) s rfl
      by_cases hplus : c = '+'
      · subst hplus
        exact ⟨_, .plus hbs⟩
      · by_cases hescape : c = '%' ∧ StartsHex s
        · obtain ⟨rfl, a, b, h, l, t, rfl, ha, hb⟩ := hescape
          obtain ⟨bs', hbs'⟩ := ih t.length (by simp only [List.length_cons]; omega) t rfl
          exact ⟨_, .escape ha hb hbs'⟩
        · exact ⟨_, .char hplus (fun hc hs => hescape ⟨hc, hs⟩) hbs⟩

theorem bytes_percent {s : List Char} (h : ∀ a b t, s = a :: b :: t → hexByte? a b = none) :
    bytes ('%' :: s) = String.utf8EncodeChar '%' ++ bytes s := by
  match s with
  | [] => rfl
  | [a] => rfl
  | a :: b :: t => rw [bytes, h a b t rfl]

/-- Blanks for plus signs make no escapes. -/
theorem startsHex_of_plusToBlank {s t : List Char} {a b : Char} {x : UInt8}
    (h : plusToBlank s = a :: b :: t) (hx : hexByte? a b = some x) : StartsHex s := by
  obtain ⟨m, l, ha, hb, -⟩ := hexByte?_eq_some_iff.1 hx
  match s with
  | [] => exact absurd h (by simp [plusToBlank])
  | [c] => exact absurd h (by simp [plusToBlank])
  | c :: d :: s =>
    rw [plusToBlank, List.map_cons, List.map_cons, List.cons.injEq, List.cons.injEq] at h
    obtain ⟨rfl, rfl, -⟩ := h
    exact ⟨c, d, m, l, s, rfl, ha.of_plusToBlank.2, hb.of_plusToBlank.2⟩

theorem Spells.bytes_eq {s : List Char} {bs : List UInt8} (h : Spells s bs) :
    bytes (plusToBlank s) = bs := by
  induction h with
  | nil => rfl
  | @plus s bs _ ih =>
    have hblank : plusToBlank ('+' :: s) = ' ' :: plusToBlank s := rfl
    rw [hblank, bytes_cons_of_ne (by decide), ih]
    rfl
  | @escape a b m l s bs ha hb _ ih =>
    have hdigits : plusToBlank ('%' :: a :: b :: s) = '%' :: a :: b :: plusToBlank s := by
      simp [plusToBlank, ha.ne_plus, hb.ne_plus]
    have hbyte : hexByte? a b = some (UInt8.ofNat (16 * m + l)) :=
      hexByte?_eq_some_iff.2 ⟨m, l, ha, hb, rfl⟩
    rw [hdigits, bytes, hbyte]
    show UInt8.ofNat (16 * m + l) :: bytes (plusToBlank s) = _
    rw [ih]
  | @char c s bs hplus hescape _ ih =>
    have hsame : plusToBlank (c :: s) = c :: plusToBlank s := by
      simp [plusToBlank, hplus]
    rw [hsame]
    by_cases hc : c = '%'
    · -- no escape starts here, and plus signs made blanks do not start one either
      subst hc
      rw [bytes_percent, ih]
      intro a b t ht
      cases hx : hexByte? a b with
      | none => rfl
      | some x => exact absurd (startsHex_of_plusToBlank ht hx) (hescape rfl)
    · rw [bytes_cons_of_ne hc, ih]

/-- The bytes of a key or value are those that it spells. -/
theorem spells_iff {s : List Char} {bs : List UInt8} :
    Spells s bs ↔ bytes (plusToBlank s) = bs := by
  constructor
  · exact Spells.bytes_eq
  · rintro rfl
    obtain ⟨bs, hbs⟩ := exists_spells s
    rw [hbs.bytes_eq]
    exact hbs

/-! ## Texts -/

/-- A key or value whose bytes are the UTF-8 form of no text. -/
def Undecodable (s : List Char) : Prop :=
  ∀ bs, Spells s bs → ∀ t : String, t.toUTF8 ≠ bs.toByteArray

/-- What a key or value is read as: the text that its bytes are the UTF-8 form of, or what is kept
    of it if there is none. -/
inductive DecodesTo (kept : List Char → String) (s : List Char) : String → Prop
  | text {bs : List UInt8} {t : String} (hs : Spells s bs) (ht : t.toUTF8 = bs.toByteArray) :
      DecodesTo kept s t
  | kept (hs : Undecodable s) : DecodesTo kept s (kept s)

/-- The key or value as it was written. -/
def asWritten (s : List Char) : String := String.ofList s

/-- The key or value with blanks for its plus signs and its escapes as they were written. -/
def withBlanks (s : List Char) : String := String.ofList (plusToBlank s)

theorem fromUTF8?_eq_some_iff {bs : ByteArray} {t : String} :
    String.fromUTF8? bs = some t ↔ t.toUTF8 = bs := by
  rw [String.fromUTF8?]
  constructor
  · intro h
    split at h
    · cases h
      rfl
    · exact absurd h (by simp)
  · rintro rfl
    exact dif_pos t.isValidUTF8

theorem undecodable_iff {s : List Char} :
    Undecodable s ↔ String.fromUTF8? (bytes (plusToBlank s)).toByteArray = none := by
  rw [Option.eq_none_iff_forall_ne_some]
  constructor
  · intro h t ht
    exact h _ (spells_iff.2 rfl) t (fromUTF8?_eq_some_iff.1 ht)
  · intro h bs hbs t ht
    rw [spells_iff] at hbs
    subst hbs
    exact h t (fromUTF8?_eq_some_iff.2 ht)

/-- Decoding finds what a key or value is read as. -/
theorem decodesTo_iff {kept : List Char → String} {s : List Char}
    (hkept : Undecodable s → kept s = withBlanks s) {t : String} :
    DecodesTo kept s t ↔ decode s = t := by
  have hdecode : decode s
      = (String.fromUTF8? (bytes (plusToBlank s)).toByteArray).getD (withBlanks s) := rfl
  rw [hdecode]
  constructor
  · intro h
    cases h with
    | text hs ht =>
      rw [spells_iff] at hs
      subst hs
      rw [fromUTF8?_eq_some_iff.2 ht, Option.getD_some]
    | kept hs => rw [undecodable_iff.1 hs, Option.getD_none, hkept hs]
  · rintro rfl
    cases hbytes : String.fromUTF8? (bytes (plusToBlank s)).toByteArray with
    | none =>
      have hs := undecodable_iff.2 hbytes
      rw [Option.getD_none, ← hkept hs]
      exact .kept hs
    | some t => exact .text (spells_iff.2 rfl) (fromUTF8?_eq_some_iff.1 hbytes)

/-- What is kept is the key or value as it was written if there is no plus sign in it. -/
theorem withBlanks_eq_asWritten_iff {s : List Char} : withBlanks s = asWritten s ↔ '+' ∉ s := by
  rw [withBlanks, asWritten, String.ofList_inj]
  constructor
  · intro h hplus
    -- blanks for plus signs leave none
    rw [← h] at hplus
    obtain ⟨c, -, hc⟩ := List.mem_map.1 hplus
    by_cases hne : c = '+'
    · rw [if_pos hne] at hc
      exact absurd hc (by decide)
    · rw [if_neg hne] at hc
      exact hne hc
  · intro h
    refine (List.map_congr_left fun c hc => ?_).trans (List.map_id' _)
    have hne : c ≠ '+' := by
      rintro rfl
      exact h hc
    rw [if_neg hne]

/-- Decoding keeps a key or value as it was written unless a plus sign is in one that is not
    UTF-8. -/
theorem decodesTo_asWritten_iff {s : List Char} :
    DecodesTo asWritten s (decode s) ↔ (Undecodable s → '+' ∉ s) := by
  constructor
  · intro h hs
    have hblanks : DecodesTo withBlanks s (withBlanks s) := .kept hs
    have hkept : decode s = withBlanks s := (decodesTo_iff fun _ => rfl).1 hblanks
    rw [← withBlanks_eq_asWritten_iff, ← hkept]
    generalize decode s = t at h
    cases h with
    | text hbytes ht => exact absurd ht (hs _ hbytes _)
    | kept _ => rfl
  · intro h
    exact (decodesTo_iff fun hs => (withBlanks_eq_asWritten_iff.2 (h hs)).symm).2 rfl

/-! ## Keys and values -/

/-- A piece is a key and a value: it is split at its first equals sign, and without one the value is
    empty. -/
inductive IsPair : List Char → List Char → List Char → Prop
  | sign {key value : List Char} (hkey : '=' ∉ key) : IsPair (key ++ '=' :: value) key value
  | bare {key : List Char} (hkey : '=' ∉ key) : IsPair key key []

theorem ne_equals_of_not_mem {key : List Char} (hkey : '=' ∉ key) :
    ∀ c ∈ key, (c != '=') = true := by
  intro c hc
  have hne : c ≠ '=' := by
    rintro rfl
    exact hkey hc
  simpa using hne

theorem IsPair.splitPair_eq {piece key value : List Char} (h : IsPair piece key value) :
    splitPair piece = (key, value) := by
  cases h with
  | sign hkey =>
    rw [splitPair, List.takeWhile_append_of_pos (ne_equals_of_not_mem hkey),
      List.dropWhile_append_of_pos (ne_equals_of_not_mem hkey)]
    simp
  | bare hkey =>
    have htake : piece.takeWhile (· != '=') = piece := List.takeWhile_eq_self_iff.2
      (ne_equals_of_not_mem hkey)
    have hdrop : piece.dropWhile (· != '=') = [] := List.dropWhile_eq_nil_iff.2
      (ne_equals_of_not_mem hkey)
    rw [splitPair, htake, hdrop]
    simp

theorem isPair_splitPair (piece : List Char) :
    IsPair piece (splitPair piece).1 (splitPair piece).2 := by
  by_cases hsign : '=' ∈ piece
  · obtain ⟨key, value, rfl, hnone⟩ := List.eq_append_cons_of_mem hsign
    have hpair : IsPair (key ++ '=' :: value) key value := .sign hnone
    rw [hpair.splitPair_eq]
    exact hpair
  · have hpair := IsPair.bare hsign
    rw [hpair.splitPair_eq]
    exact hpair

theorem isPair_iff {piece key value : List Char} :
    IsPair piece key value ↔ splitPair piece = (key, value) := by
  constructor
  · exact IsPair.splitPair_eq
  · intro h
    have hpair := isPair_splitPair piece
    rw [h] at hpair
    exact hpair

/-! ## Queries -/

/-- What a query says about a key, for a way to read keys and values: the first piece whose key is
    read as that key has a value that is read as this one. -/
def Says (Reads : List Char → String → Prop) (q k v : String) : Prop :=
  ∃ before piece after key value, pieces q.toList = before ++ piece :: after ∧
    IsPair piece key value ∧ Reads key k ∧ Reads value v ∧
    ∀ other ∈ before, ∀ key' value', IsPair other key' value' → ¬ Reads key' k

/-- The keys and values in a query. -/
def IsPart (q : String) (s : List Char) : Prop :=
  ∃ piece ∈ pieces q.toList, ∃ key value, IsPair piece key value ∧ (s = key ∨ s = value)

/-- What a query says, when its keys and values are read as they are decoded. -/
theorem says_iff {Reads : List Char → String → Prop} {q : String}
    (h : ∀ s, IsPart q s → ∀ t, Reads s t ↔ decode s = t) (k v : String) :
    Says Reads q k v ↔ firstValue? q k = some v := by
  -- only of the parts of the query it is known how they are read
  have hkey : ∀ piece ∈ pieces q.toList, ∀ t,
      Reads (splitPair piece).1 t ↔ decode (splitPair piece).1 = t := by
    intro piece hpiece
    exact h _ ⟨piece, hpiece, _, _, isPair_splitPair piece, Or.inl rfl⟩
  have hvalue : ∀ piece ∈ pieces q.toList, ∀ t,
      Reads (splitPair piece).2 t ↔ decode (splitPair piece).2 = t := by
    intro piece hpiece
    exact h _ ⟨piece, hpiece, _, _, isPair_splitPair piece, Or.inr rfl⟩
  rw [firstValue?, Option.map_eq_some_iff]
  constructor
  · rintro ⟨before, piece, after, key, value, hpieces, hpair, hk, hv, hbefore⟩
    have hpiece : piece ∈ pieces q.toList := by simp [hpieces]
    obtain ⟨rfl, rfl⟩ := Prod.mk.inj (isPair_iff.1 hpair).symm
    refine ⟨piece, List.find?_eq_some_iff_append.2 ⟨?_, before, after, hpieces, ?_⟩,
      (hvalue piece hpiece v).1 hv⟩
    · exact beq_iff_eq.2 ((hkey piece hpiece k).1 hk)
    · -- the key of an earlier piece is another one
      intro other hother
      have hmem : other ∈ pieces q.toList := by simp [hpieces, hother]
      have hne := hbefore other hother _ _ (isPair_splitPair other)
      rw [hkey other hmem] at hne
      simpa using hne
  · rintro ⟨piece, hfind, hv⟩
    obtain ⟨hk, before, after, hpieces, hbefore⟩ := List.find?_eq_some_iff_append.1 hfind
    have hpiece : piece ∈ pieces q.toList := by simp [hpieces]
    refine ⟨before, piece, after, _, _, hpieces, isPair_splitPair piece,
      (hkey piece hpiece k).2 (beq_iff_eq.1 hk), (hvalue piece hpiece v).2 hv, ?_⟩
    intro other hother key' value' hpair hread
    have hmem : other ∈ pieces q.toList := by simp [hpieces, hother]
    obtain ⟨rfl, rfl⟩ := Prod.mk.inj (isPair_iff.1 hpair).symm
    have hne := hbefore other hother
    rw [beq_iff_eq.2 ((hkey other hmem k).1 hread)] at hne
    exact absurd hne (by decide)

/-- What a query says.  A key or value that is not UTF-8 is kept with blanks for its plus signs.  So
    a key or value is kept as it was written unless it is one with a plus sign, and a query without
    such keys and values says what it says when they are kept as they were written. -/
theorem get?_parse_eq_some_iff (q : String) :
    (∀ k v, (parse q).get? k = some v ↔ Says (DecodesTo withBlanks) q k v) ∧
    (∀ s, DecodesTo asWritten s (decode s) ↔ (Undecodable s → '+' ∉ s)) ∧
    ((∀ s, IsPart q s → Undecodable s → '+' ∉ s) →
      ∀ k v, (parse q).get? k = some v ↔ Says (DecodesTo asWritten) q k v) := by
  refine ⟨fun k v => ?_, fun s => decodesTo_asWritten_iff, fun hplus k v => ?_⟩
  · have hparts : ∀ s, IsPart q s → ∀ t, DecodesTo withBlanks s t ↔ decode s = t :=
      fun s _ t => decodesTo_iff fun _ => rfl
    rw [says_iff hparts, get?_parse]
  · have hparts : ∀ s, IsPart q s → ∀ t, DecodesTo asWritten s t ↔ decode s = t := by
      intro s hs t
      apply decodesTo_iff
      intro hnone
      exact (withBlanks_eq_asWritten_iff.2 (hplus s hs hnone)).symm
    rw [says_iff hparts, get?_parse]

/-- A key with a plus sign, and a value that is not UTF-8. -/
theorem get?_parse_of_undecodable_value :
    (∀ s, IsPart "x+y=%FF&x+y=2" s → Undecodable s → '+' ∉ s) ∧
      Says (DecodesTo asWritten) "x+y=%FF&x+y=2" "x y" "%FF" := by
  have hparts : ∀ piece ∈ pieces "x+y=%FF&x+y=2".toList,
      ∀ s ∈ [(splitPair piece).1, (splitPair piece).2],
        String.fromUTF8? (bytes (plusToBlank s)).toByteArray = none → '+' ∉ s := by
    decide +kernel
  have hplus : ∀ s, IsPart "x+y=%FF&x+y=2" s → Undecodable s → '+' ∉ s := by
    rintro s ⟨piece, hpiece, key, value, hpair, hs⟩ hnone
    rw [isPair_iff] at hpair
    apply hparts piece hpiece s _ (undecodable_iff.1 hnone)
    simpa [hpair] using hs
  have hget : (parse "x+y=%FF&x+y=2").get? "x y" = some "%FF" := by decide +kernel
  exact ⟨hplus, ((get?_parse_eq_some_iff _).2.2 hplus "x y" "%FF").1 hget⟩

/-- In a value that is not UTF-8 a plus sign is not kept. -/
theorem get?_parse_of_undecodable_plus :
    ¬ ((parse "x=%FF+").get? "x" = some "%FF+" ↔
      Says (DecodesTo asWritten) "x=%FF+" "x" "%FF+") := by
  have hkey : DecodesTo asWritten "x".toList "x" := by
    apply (decodesTo_iff fun hs => ?_).2
    · decide +kernel
    · exact absurd (undecodable_iff.1 hs) (by decide +kernel)
  have hvalue : DecodesTo asWritten "%FF+".toList "%FF+" :=
    .kept (undecodable_iff.2 (by decide +kernel))
  have hsays : Says (DecodesTo asWritten) "x=%FF+" "x" "%FF+" :=
    ⟨[], "x=%FF+".toList, [], "x".toList, "%FF+".toList, by decide, isPair_splitPair _, hkey, hvalue,
      by simp⟩
  intro h
  exact absurd (h.2 hsays) (by decide +kernel)

end Query

end Waymark
