/-
  Waymark.Proofs.Unicode.Ascii

  What the tables say about ASCII characters.  Digits, blank space and word characters of ASCII are
  the same with Unicode as without.  Case is not: besides the letter of the other case, `k` and `s`
  are one with a character beyond ASCII each, the sign for kelvin and the long s.

  A table is looked at once, range by range; only what it holds is asked character by character.
-/

import Mathlib.Data.List.Basic
import Waymark.Regex.CharSet

namespace Waymark

/-- The characters of a text that is given by its characters. -/
theorem toList_of_eq_ofList {text : String} {l : List Char} (h : text = String.ofList l) :
    text.toList = l := by
  rw [h, String.toList_ofList]

/-- What holds of the first 128 characters holds of every ASCII character. -/
theorem forall_ascii {P : Char → Prop} (h : ∀ n < 128, P (Char.ofNat n)) {c : Char}
    (hc : c.toNat < 128) : P c := by
  have hn := h c.toNat hc
  rwa [Char.ofNat_toNat] at hn

namespace Unicode

/-! ## Ranges -/

/-- What the search finds lies in a range. -/
theorem Ranges.exists_of_search {r : Ranges} {n fuel lo hi : Nat}
    (h : r.search n fuel lo hi = true) : ∃ p ∈ r.toList, p.1 ≤ n ∧ n ≤ p.2 := by
  induction fuel generalizing lo hi with
  | zero => exact absurd h (by simp [Ranges.search])
  | succ fuel ih =>
    rw [Ranges.search] at h
    by_cases hempty : hi ≤ lo
    · rw [if_pos hempty] at h
      exact absurd h Bool.false_ne_true
    · rw [if_neg hempty] at h
      -- the range in the middle holds the number or sends the search to one side
      cases hp : r[(lo + hi) / 2]? with
      | none =>
        simp only [hp] at h
        exact absurd h Bool.false_ne_true
      | some p =>
        simp only [hp] at h
        by_cases hbelow : n < p.1
        · rw [if_pos hbelow] at h
          exact ih h
        · rw [if_neg hbelow] at h
          by_cases habove : p.2 < n
          · rw [if_pos habove] at h
            exact ih h
          · rw [Array.getElem?_eq_some_iff] at hp
            obtain ⟨hlt, rfl⟩ := hp
            exact ⟨_, Array.mem_toList_iff.2 (Array.getElem_mem hlt), by omega, by omega⟩

/-- The ranges that begin in ASCII are among some known ones. -/
def Ranges.AsciiWithin (r : Ranges) (known : List (Nat × Nat)) : Prop :=
  ∀ p ∈ r.toList, p ∈ known ∨ 128 ≤ p.1

instance (r : Ranges) (known : List (Nat × Nat)) : Decidable (r.AsciiWithin known) :=
  inferInstanceAs (Decidable (∀ p ∈ r.toList, _))

/-- An ASCII character that lies in the ranges lies in a known one. -/
theorem Ranges.AsciiWithin.of_holds {r : Ranges} {known : List (Nat × Nat)}
    (h : r.AsciiWithin known) {c : Char} (hc : c.toNat < 128) (hholds : r.holds c = true) :
    ∃ p ∈ known, p.1 ≤ c.toNat ∧ c.toNat ≤ p.2 := by
  obtain ⟨p, hp, hle, hge⟩ := Ranges.exists_of_search hholds
  rcases h p hp with hknown | hbeyond
  · exact ⟨p, hknown, hle, hge⟩
  · omega

/-- A character of a known range lies in the ranges. -/
def Ranges.HoldsAll (r : Ranges) (known : List (Nat × Nat)) : Prop :=
  ∀ p ∈ known, ∀ i ≤ p.2 - p.1, r.holds (Char.ofNat (p.1 + i)) = true

instance (r : Ranges) (known : List (Nat × Nat)) : Decidable (r.HoldsAll known) :=
  inferInstanceAs (Decidable (∀ p ∈ known, ∀ i ≤ p.2 - p.1, _))

/-- Which ASCII characters lie in the ranges. -/
theorem Ranges.holds_iff_of_ascii {r : Ranges} {known : List (Nat × Nat)}
    (hwithin : r.AsciiWithin known) (hall : r.HoldsAll known) {c : Char} (hc : c.toNat < 128) :
    r.holds c = true ↔ ∃ p ∈ known, p.1 ≤ c.toNat ∧ c.toNat ≤ p.2 := by
  constructor
  · exact hwithin.of_holds hc
  · rintro ⟨p, hp, hle, hge⟩
    have hholds := hall p hp (c.toNat - p.1) (by omega)
    rwa [Nat.add_sub_cancel' hle, Char.ofNat_toNat] at hholds

/-! ## Tables -/

/-- The sign for kelvin, which is one with `k` up to case. -/
def kelvin : Char := '\u212a'

/-- The long s, which is one with `s` up to case. -/
def longS : Char := '\u017f'

set_option maxRecDepth 100000 in
theorem decimalDigits_ascii :
    decimalDigits.AsciiWithin [(0x30, 0x39)] ∧ decimalDigits.HoldsAll [(0x30, 0x39)]
      ∧ decimalDigits.holds kelvin = false ∧ decimalDigits.holds longS = false
      ∧ decimalDigits.isEmpty = false := by
  obtain ⟨l, hl, h⟩ : ∃ l, decimalText.toList = l ∧
      let r : Ranges := ((Table.mk ((l.splitOn ';').filterMap Table.entry?)).find? "nd").getD #[]
      r.AsciiWithin [(0x30, 0x39)] ∧ r.HoldsAll [(0x30, 0x39)]
        ∧ r.holds kelvin = false ∧ r.holds longS = false ∧ r.isEmpty = false := by
    -- from the text itself the kernel would decode bytes at every step
    refine ⟨_, toList_of_eq_ofList rfl, ?_⟩
    decide +kernel
  rw [decimalDigits, decimals, Table.ofText, hl]
  exact h

theorem whiteSpace_ascii :
    whiteSpace.AsciiWithin [(0x9, 0xd), (0x20, 0x20)]
      ∧ whiteSpace.HoldsAll [(0x9, 0xd), (0x20, 0x20)]
      ∧ whiteSpace.holds kelvin = false ∧ whiteSpace.holds longS = false
      ∧ whiteSpace.isEmpty = false := by
  obtain ⟨l, hl, h⟩ : ∃ l, blankText.toList = l ∧
      let r : Ranges :=
        ((Table.mk ((l.splitOn ';').filterMap Table.entry?)).find? "whitespace").getD #[]
      r.AsciiWithin [(0x9, 0xd), (0x20, 0x20)] ∧ r.HoldsAll [(0x9, 0xd), (0x20, 0x20)]
        ∧ r.holds kelvin = false ∧ r.holds longS = false ∧ r.isEmpty = false := by
    refine ⟨_, toList_of_eq_ofList rfl, ?_⟩
    decide +kernel
  rw [whiteSpace, blanks, Table.ofText, hl]
  exact h

/-- Ranges are read in increasing order. -/
theorem mem_readRanges {next : Nat} {acc : Ranges} {words : List (List Char)} {p : Nat × Nat}
    (h : p ∈ (readRanges next acc words).toList) : p ∈ acc.toList ∨ next ≤ p.1 := by
  induction words generalizing next acc with
  | nil => exact Or.inl h
  | cons word words ih =>
    -- a range is added from `next` on, and what is read behind it begins later
    have hpush : ∀ {gap last next'}, next ≤ next' →
        p ∈ (acc.push (next + gap, last)).toList ∨ next' ≤ p.1 →
        p ∈ acc.toList ∨ next ≤ p.1 := by
      rintro gap last next' hle (hacc | hle')
      · rw [Array.toList_push, List.mem_append, List.mem_singleton] at hacc
        rcases hacc with hacc | rfl
        · exact Or.inl hacc
        · exact Or.inr (Nat.le_add_right next _)
      · exact Or.inr (Nat.le_trans hle hle')
    unfold readRanges at h
    split at h
    case h_1 gap _ => exact hpush (by omega) (ih h)
    case h_2 gap more _ => exact hpush (by omega) (ih h)
    case h_3 => exact ih h

/-- The ranges of a set are read from an entry of the table's text. -/
theorem Table.exists_of_find? {text name : String} {r : Ranges}
    (h : (Table.ofText text).find? name = some r) :
    ∃ s ∈ text.toList.splitOn ';', ∃ names ranges, s.splitOn ':' = [names, ranges] ∧
      r = readRanges 0 #[] (parts isGap ranges) := by
  rw [Table.find?, Option.map_eq_some_iff] at h
  obtain ⟨line, hline, rfl⟩ := h
  obtain ⟨s, hs, hentry⟩ := List.mem_filterMap.1 (List.mem_of_find?_eq_some hline)
  unfold Table.entry? at hentry
  split at hentry
  case h_1 names ranges hsplit =>
    cases hentry
    exact ⟨s, hs, names, ranges, hsplit, rfl⟩
  case h_2 => exact absurd hentry (by simp)

set_option maxRecDepth 100000 in
/-- How the table of word characters begins. -/
theorem words_wordText : ∀ s ∈ wordText.toList.splitOn ';', ∀ names ranges,
    s.splitOn ':' = [names, ranges] → (parts isGap ranges).take 5
      = ["30+9", "7+19", "4", "1+19", "2f"].map String.toList := by
  obtain ⟨l, hl, h⟩ : ∃ l, wordText.toList = l ∧ ∀ s ∈ l.splitOn ';',
      ((s.splitOn ':').drop 1).all (fun ranges => (parts isGap ranges).take 5
        == ["30+9", "7+19", "4", "1+19", "2f"].map String.toList) = true := by
    refine ⟨_, toList_of_eq_ofList rfl, ?_⟩
    decide +kernel
  rw [hl]
  intro s hs names ranges hsplit
  have hs' := h s hs
  rw [hsplit, List.drop_one, List.tail_cons, List.all_cons, List.all_nil, Bool.and_true] at hs'
  exact eq_of_beq hs'

theorem wordCharacters_ascii :
    wordCharacters.AsciiWithin [(0x30, 0x39), (0x41, 0x5a), (0x5f, 0x5f), (0x61, 0x7a)] := by
  intro p hp
  rw [wordCharacters] at hp
  cases hfind : (Table.ofText wordText).find? "word" with
  | none =>
    rw [hfind] at hp
    exact absurd hp (by simp)
  | some r =>
    obtain ⟨s, hs, names, ranges, hsplit, rfl⟩ := Table.exists_of_find? hfind
    have htake := words_wordText s hs names ranges hsplit
    rw [hfind, Option.getD_some, ← List.take_append_drop 5 (parts isGap ranges), htake] at hp
    -- behind the first words the ranges are beyond ASCII
    generalize (parts isGap ranges).drop 5 = rest at hp
    change p ∈ (readRanges 0xab #[(0x30, 0x39), (0x41, 0x5a), (0x5f, 0x5f), (0x61, 0x7a),
      (0xaa, 0xaa)] rest).toList at hp
    rcases mem_readRanges hp with hmem | hle
    · have hknown : ∀ q ∈ [(0x30, 0x39), (0x41, 0x5a), (0x5f, 0x5f), (0x61, 0x7a), (0xaa, 0xaa)],
          q ∈ [(0x30, 0x39), (0x41, 0x5a), (0x5f, 0x5f), (0x61, 0x7a)] ∨ 128 ≤ q.1 := by
        decide
      exact hknown p hmem
    · exact Or.inr (by omega)

/-! ## Case -/

open Regex.CharSet (swapAsciiCase)

set_option maxRecDepth 100000 in
/-- The runs of pairs that begin in ASCII. -/
theorem foldingRuns_ascii :
    (foldingRuns.filter (·.first < 128)).map (fun r => (r.first, r.count, r.stride, r.distance))
      = [(0x41, 10, 1, 0x20), (0x4c, 8, 2, 0x20), (0x4d, 3, 2, 0x20), (0x55, 3, 2, 0x20)] := by
  obtain ⟨l, hl, h⟩ : ∃ l, foldingPairText.toList = l ∧
      let runs := ((parts isGap l).map fun s => (parts (· == '/') s).map hexNumber).filterMap
        FoldingRun.ofNumbers?
      (runs.filter (·.first < 128)).map (fun r => (r.first, r.count, r.stride, r.distance))
        = [(0x41, 10, 1, 0x20), (0x4c, 8, 2, 0x20), (0x4d, 3, 2, 0x20), (0x55, 3, 2, 0x20)] := by
    refine ⟨_, toList_of_eq_ofList rfl, ?_⟩
    decide +kernel
  rw [foldingRuns, slashLists, hl]
  exact h

set_option maxRecDepth 100000 in
/-- The larger sets that reach into ASCII are those of `k` and of `s`. -/
theorem foldingSets_ascii :
    ∃ rest, foldingSets = [0x4b, 0x6b, 0x212a] :: [0x53, 0x73, 0x17f] :: rest ∧
      ∀ set ∈ rest, ∀ n ∈ set, 128 ≤ n := by
  obtain ⟨l, hl, hfirst, hrest⟩ : ∃ l, foldingSetText.toList = l ∧
      let sets := (parts isGap l).map fun s => (parts (· == '/') s).map hexNumber
      sets.take 2 = [[0x4b, 0x6b, 0x212a], [0x53, 0x73, 0x17f]] ∧
        ∀ set ∈ sets.drop 2, ∀ n ∈ set, 128 ≤ n := by
    refine ⟨_, toList_of_eq_ofList rfl, ?_⟩
    decide +kernel
  refine ⟨foldingSets.drop 2, ?_, ?_⟩
  · rw [← List.take_append_drop 2 foldingSets, foldingSets, slashLists, hl, hfirst]
    rfl
  · rw [foldingSets, slashLists, hl]
    exact hrest

/-- The runs of pairs that matter to ASCII. -/
def asciiRuns : List FoldingRun :=
  [⟨0x41, 10, 1, 0x20⟩, ⟨0x4c, 8, 2, 0x20⟩, ⟨0x4d, 3, 2, 0x20⟩, ⟨0x55, 3, 2, 0x20⟩]

theorem filter_foldingRuns : foldingRuns.filter (·.first < 128) = asciiRuns := by
  -- a run is determined by its four numbers
  have hinj : Function.Injective fun r : FoldingRun => (r.first, r.count, r.stride, r.distance) := by
    rintro ⟨a, b, c, d⟩ ⟨a', b', c', d'⟩ h
    simpa using h
  exact hinj.list_map foldingRuns_ascii

/-- Runs beyond ASCII pair no ASCII character. -/
theorem partner?_of_lt {r : FoldingRun} {n : Nat} (hr : 128 ≤ r.first) (hn : n < 128) :
    r.partner? n = none := by
  have hcovers : ∀ m ≤ n, r.covers m = false := by
    intro m hm
    rw [FoldingRun.covers, decide_eq_false (by omega), Bool.false_and, Bool.false_and]
  rw [FoldingRun.partner?, hcovers n (Nat.le_refl n), hcovers (n - r.distance) (Nat.sub_le _ _)]
  simp

/-- The code points that are one up to case with one of ASCII. -/
def asciiVariants (n : Nat) : List Nat :=
  match [[0x4b, 0x6b, 0x212a], [0x53, 0x73, 0x17f]].find? (n ∈ ·) with
  | some set => set.filter (· != n)
  | none => asciiRuns.filterMap fun r => r.partner? n

theorem caseVariants_eq_asciiVariants {c : Char} (hc : c.toNat < 128) :
    caseVariants c = (asciiVariants c.toNat).map Char.ofNat := by
  obtain ⟨rest, hsets, hrest⟩ := foldingSets_ascii
  -- runs and sets that begin beyond ASCII can be left out
  have hruns : foldingRuns.filterMap (fun r => r.partner? c.toNat)
      = asciiRuns.filterMap fun r => r.partner? c.toNat := by
    rw [← filter_foldingRuns, List.filterMap_filter]
    refine List.filterMap_congr fun r _ => ?_
    by_cases hr : r.first < 128
    · simp [hr]
    · simp [hr, partner?_of_lt (Nat.le_of_not_lt hr) hc]
  have hnone : rest.find? (c.toNat ∈ ·) = none := by
    rw [List.find?_eq_none]
    intro set hset hmem
    have hle := hrest set hset c.toNat (by simpa using hmem)
    omega
  have hfind : foldingSets.find? (c.toNat ∈ ·)
      = [[0x4b, 0x6b, 0x212a], [0x53, 0x73, 0x17f]].find? (c.toNat ∈ ·) := by
    rw [hsets, List.find?_cons, List.find?_cons, List.find?_cons, List.find?_cons, hnone,
      List.find?_nil]
  rw [caseVariants, hruns, hfind]
  rfl

/-- The other characters of an ASCII character: the letter of the other case, and for `k` and `s`
    one beyond ASCII. -/
theorem caseVariants_ascii {c : Char} (hc : c.toNat < 128) : caseVariants c =
    (if swapAsciiCase c = c then [] else [swapAsciiCase c]) ++
      if c ∈ ['k', 'K'] then [kelvin] else if c ∈ ['s', 'S'] then [longS] else [] := by
  rw [caseVariants_eq_asciiVariants hc]
  refine forall_ascii (P := fun c => (asciiVariants c.toNat).map Char.ofNat =
    (if swapAsciiCase c = c then [] else [swapAsciiCase c]) ++
      if c ∈ ['k', 'K'] then [kelvin] else if c ∈ ['s', 'S'] then [longS] else []) ?_ hc
  decide +kernel

theorem caseVariants_kelvin : caseVariants kelvin = ['K', 'k'] := by
  obtain ⟨rest, hsets, -⟩ := foldingSets_ascii
  rw [caseVariants, hsets]
  rfl

theorem caseVariants_longS : caseVariants longS = ['S', 's'] := by
  obtain ⟨rest, hsets, -⟩ := foldingSets_ascii
  rw [caseVariants, hsets]
  rfl

end Unicode

end Waymark
