/-
  Waymark.Proofs.Template.Tokens

  Text without groups.  `Splits` says how such a text falls into nodes: a parameter wherever one is
  written, else runs of text without angle brackets, else single brackets.  It mentions no fuel and
  no order of trial; every text splits in one way, and `tokens` finds it.

  Main statement: `splits_iff`.
-/

import Waymark.Proofs.Template.Reading
import Waymark.Template.Parse

namespace Waymark.Template

/-! ## Names -/

/-- The names of parameters: `[A-Za-z_][A-Za-z0-9_-]*`. -/
def IsName (name : String) : Prop :=
  ∃ c s, name.toList = c :: s ∧ isNameStart c = true ∧ s.all isNameChar = true

theorem isNameChar_of_isNameStart {c : Char} (h : isNameStart c = true) : isNameChar c = true := by
  rw [isNameStart, Bool.or_eq_true] at h
  rw [isNameChar, Char.isAlphanum]
  rcases h with h | h
  · rw [h]
    rfl
  · rw [h]
    simp

theorem IsName.all {name : String} (h : IsName name) : name.toList.all isNameChar = true := by
  obtain ⟨c, s, hname, hc, hs⟩ := h
  rw [hname, List.all_cons, isNameChar_of_isNameStart hc, hs]
  rfl

theorem takeWhile_of_stops {p : Char → Bool} {w f : List Char} (hw : w.all p = true)
    (hf : Stops p f) : (w ++ f).takeWhile p = w := by
  rw [List.takeWhile_append_of_pos (by simpa using hw)]
  cases f with
  | nil => simp
  | cons c f => simp [hf c rfl]

theorem dropWhile_of_stops {p : Char → Bool} {w f : List Char} (hw : w.all p = true)
    (hf : Stops p f) : (w ++ f).dropWhile p = f := by
  rw [List.dropWhile_append_of_pos (by simpa using hw)]
  cases f with
  | nil => rfl
  | cons c f => simp [hf c rfl]

theorem stops_dropWhile (p : Char → Bool) (s : List Char) : Stops p (s.dropWhile p) := by
  intro c hc
  have hne : s.dropWhile p ≠ [] := by
    intro h
    rw [h] at hc
    exact absurd hc (by simp)
  have hhead : (s.dropWhile p).head hne = c := by
    rw [List.head?_eq_some_head hne] at hc
    exact Option.some.inj hc
  have hstop := List.head_dropWhile_not p hne
  rw [hhead] at hstop
  simpa using hstop

theorem all_takeWhile (p : Char → Bool) (s : List Char) : (s.takeWhile p).all p = true := by
  simp

/-- A name is read where a name and the closing bracket stand. -/
theorem readName_eq_some_iff {s rest : List Char} {name : String} :
    readName s = some (name, rest) ↔ IsName name ∧ s = name.toList ++ '>' :: rest := by
  constructor
  · intro h
    cases s with
    | nil => exact absurd h (by simp [readName])
    | cons c s =>
      rw [readName] at h
      by_cases hc : isNameStart c = true
      · rw [if_pos hc] at h
        split at h
        · rename_i t hdrop
          simp only [Option.some.injEq, Prod.mk.injEq] at h
          obtain ⟨rfl, rfl⟩ := h
          refine ⟨⟨c, s.takeWhile isNameChar, by simp, hc, all_takeWhile isNameChar s⟩, ?_⟩
          rw [String.toList_ofList, List.cons_append, ← hdrop, List.takeWhile_append_dropWhile]
        · exact absurd h (by simp)
      · rw [if_neg hc] at h
        exact absurd h (by simp)
  · rintro ⟨⟨c, t, hname, hc, ht⟩, rfl⟩
    have hstop : Stops isNameChar ('>' :: rest) := by
      intro d hd
      cases hd
      decide
    rw [hname, List.cons_append, readName, if_pos hc, dropWhile_of_stops ht hstop,
      takeWhile_of_stops ht hstop, ← hname, String.ofList_toList]
    rfl

/-! ## How text falls into nodes -/

/-- The characters of text between brackets. -/
def isPlainText (c : Char) : Bool := !isAngle c

/-- How text without groups falls into nodes. -/
inductive Splits : List Char → List Node → Prop
  /-- Nothing is left. -/
  | nil : Splits [] []
  /-- A parameter. -/
  | param {name : String} {rest : List Char} {ns : List Node} (hname : IsName name)
      (hrest : Splits rest ns) :
      Splits ('<' :: (name.toList ++ '>' :: rest)) (.param name :: ns)
  /-- An opening bracket that begins no parameter. -/
  | opening {s : List Char} {ns : List Node} (hnone : readName s = none) (hs : Splits s ns) :
      Splits ('<' :: s) (.literal "<" :: ns)
  /-- A closing bracket that ends no parameter. -/
  | closing {s : List Char} {ns : List Node} (hs : Splits s ns) :
      Splits ('>' :: s) (.literal ">" :: ns)
  /-- A run of text, up to the next bracket. -/
  | run {w rest : List Char} {ns : List Node} (hne : w ≠ []) (hw : w.all isPlainText = true)
      (hstop : Stops isPlainText rest) (hrest : Splits rest ns) :
      Splits (w ++ rest) (.literal (String.ofList w) :: ns)

/-- No text is lost. -/
theorem Splits.source {s : List Char} {ns : List Node} (h : Splits s ns) :
    (Node.sourceAll ns).toList = s := by
  induction h with
  | nil => rfl
  | param hname hrest ih => simp [ih]
  | opening hnone hs ih => simp [ih]
  | closing hs ih => simp [ih]
  | run hne hw hstop hrest ih => simp [ih]

/-- Every text splits. -/
theorem exists_splits (s : List Char) : ∃ ns, Splits s ns := by
  -- by induction on the length, as every node takes a character at least
  induction hn : s.length using Nat.strongRecOn generalizing s with
  | ind n ih =>
    subst hn
    cases s with
    | nil => exact ⟨[], .nil⟩
    | cons c s =>
      by_cases hopen : c = '<'
      · subst hopen
        cases hread : readName s with
        | none =>
          obtain ⟨ns, hns⟩ := ih s.length (by simp) s rfl
          exact ⟨_, .opening hread hns⟩
        | some w =>
          obtain ⟨name, rest⟩ := w
          obtain ⟨hname, rfl⟩ := readName_eq_some_iff.1 hread
          obtain ⟨ns, hns⟩ := ih rest.length (by simp; omega) rest rfl
          exact ⟨_, .param hname hns⟩
      · by_cases hclose : c = '>'
        · subst hclose
          obtain ⟨ns, hns⟩ := ih s.length (by simp) s rfl
          exact ⟨_, .closing hns⟩
        · have hc : isPlainText c = true := by simp [isPlainText, isAngle, hopen, hclose]
          have hlength : (s.dropWhile isPlainText).length < (c :: s).length := by
            have hle := (List.dropWhile_suffix isPlainText (l := s)).length_le
            simp only [List.length_cons]
            omega
          have hsplit : c :: s.takeWhile isPlainText ++ s.dropWhile isPlainText = c :: s := by
            rw [List.cons_append, List.takeWhile_append_dropWhile]
          obtain ⟨ns, hns⟩ := ih _ hlength (s.dropWhile isPlainText) rfl
          refine ⟨.literal (String.ofList (c :: s.takeWhile isPlainText)) :: ns, ?_⟩
          rw [← hsplit]
          exact .run (by simp) (by rw [List.all_cons, hc, all_takeWhile]; rfl)
            (stops_dropWhile isPlainText s) hns

/-- The nodes are found with fuel for every character. -/
theorem Splits.tokensWith_eq {s : List Char} {ns : List Node} (h : Splits s ns) {fuel : Nat}
    (hfuel : s.length ≤ fuel) : tokensWith fuel s = ns := by
  -- every node is written with at least one character, which pays for the step that finds it
  induction h generalizing fuel with
  | nil => cases fuel <;> rfl
  | @param name rest ns hname hrest ih =>
    simp only [List.length_cons, List.length_append] at hfuel
    obtain ⟨fuel, rfl⟩ : ∃ k, fuel = k + 1 := ⟨fuel - 1, by omega⟩
    rw [tokensWith, if_pos rfl, readName_eq_some_iff.2 ⟨hname, rfl⟩]
    show _ :: tokensWith fuel rest = _
    rw [ih (by omega)]
  | @opening s ns hnone hs ih =>
    rw [List.length_cons] at hfuel
    obtain ⟨fuel, rfl⟩ : ∃ k, fuel = k + 1 := ⟨fuel - 1, by omega⟩
    rw [tokensWith, if_pos rfl, hnone]
    show _ :: tokensWith fuel s = _
    rw [ih (by omega)]
  | @closing s ns hs ih =>
    rw [List.length_cons] at hfuel
    obtain ⟨fuel, rfl⟩ : ∃ k, fuel = k + 1 := ⟨fuel - 1, by omega⟩
    rw [tokensWith, if_neg (by decide), if_pos rfl, ih (by omega)]
  | @run w rest ns hne hw hstop hrest ih =>
    cases w with
    | nil => exact absurd rfl hne
    | cons c w =>
      rw [List.length_append, List.length_cons] at hfuel
      obtain ⟨fuel, rfl⟩ : ∃ k, fuel = k + 1 := ⟨fuel - 1, by omega⟩
      rw [List.all_cons, Bool.and_eq_true] at hw
      have hangle : c ≠ '<' ∧ c ≠ '>' := by
        have hc := hw.1
        simp only [isPlainText, isAngle, Bool.not_eq_true', Bool.or_eq_false_iff,
          beq_eq_false_iff_ne] at hc
        exact hc
      rw [List.cons_append, tokensWith, if_neg hangle.1, if_neg hangle.2]
      show .literal (String.ofList (c :: (w ++ rest).takeWhile isPlainText))
        :: tokensWith fuel ((w ++ rest).dropWhile isPlainText) = _
      rw [takeWhile_of_stops hw.2 hstop, dropWhile_of_stops hw.2 hstop, ih (by omega)]

/-- The nodes of a text are those that it falls into. -/
theorem splits_iff {s : List Char} {ns : List Node} : Splits s ns ↔ tokens s = ns := by
  constructor
  · intro h
    exact h.tokensWith_eq (Nat.le_refl s.length)
  · rintro rfl
    obtain ⟨ns, hns⟩ := exists_splits s
    rw [tokens, hns.tokensWith_eq (Nat.le_refl s.length)]
    exact hns

theorem splits_tokens (s : List Char) : Splits s (tokens s) := splits_iff.2 rfl

end Waymark.Template
