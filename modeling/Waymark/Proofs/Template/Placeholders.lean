/-
  Waymark.Proofs.Template.Placeholders

  Which parameters a template has.  A placeholder is a name between angle brackets.  Names hold
  neither brackets nor parentheses, so a placeholder lies between two parentheses that follow each
  other, and text on both sides of a parenthesis never makes one together.

  Main statement: `params_parse`, the parameters of a tree are the placeholders of its text, from
  left to right, and a compiled template has the same parameters.
-/

import Waymark.Proofs.Template.Expression
import Waymark.Proofs.Template.Groups

namespace Waymark.Template

/-! ## Placeholders of a text -/

/-- A placeholder as it is written. -/
def placeholder (name : String) : List Char := '<' :: (name.toList ++ ['>'])

/-- The placeholder of a name stands at a place of a text. -/
def StandsAt (s : List Char) (i : Nat) (name : String) : Prop :=
  IsName name ∧ placeholder name <+: s.drop i

/-- The name of the placeholder that a text begins with, if there is one. -/
def nameAt? : List Char → Option String
  | [] => none
  | c :: s => if c = '<' then (readName s).map (·.1) else none

/-- The names of the placeholders of a text, from left to right. -/
def names : List Char → List String
  | [] => []
  | c :: s => (nameAt? (c :: s)).toList ++ names s

/-- The placeholders of a text with their places, which are counted from `i` on. -/
def placesFrom (i : Nat) : List Char → List (Nat × String)
  | [] => []
  | c :: s => (nameAt? (c :: s)).toList.map (i, ·) ++ placesFrom (i + 1) s

theorem nameAt?_eq_some_iff {s : List Char} {name : String} :
    nameAt? s = some name ↔ IsName name ∧ placeholder name <+: s := by
  cases s with
  | nil => simp [nameAt?, placeholder]
  | cons c s =>
    rw [nameAt?]
    by_cases hc : c = '<'
    · rw [if_pos hc, Option.map_eq_some_iff]
      constructor
      · rintro ⟨⟨name, rest⟩, hread, rfl⟩
        obtain ⟨hname, rfl⟩ := readName_eq_some_iff.1 hread
        exact ⟨hname, rest, by simp [placeholder, hc]⟩
      · rintro ⟨hname, rest, hrest⟩
        have htext : s = name.toList ++ '>' :: rest := by
          simp only [placeholder, List.cons_append, List.append_assoc, List.nil_append,
            List.cons.injEq] at hrest
          exact hrest.2.symm
        exact ⟨(name, rest), readName_eq_some_iff.2 ⟨hname, htext⟩, rfl⟩
    · rw [if_neg hc]
      constructor
      · intro h
        exact absurd h (by simp)
      · rintro ⟨-, rest, hrest⟩
        have hopen : '<' = c := (List.cons.inj hrest).1
        exact absurd hopen.symm hc

theorem map_snd_placesFrom (i : Nat) (s : List Char) : (placesFrom i s).map (·.2) = names s := by
  induction s generalizing i with
  | nil => rfl
  | cons c s ih => simp [placesFrom, names, ih, Function.comp_def]

theorem le_of_mem_placesFrom {i : Nat} {s : List Char} {p : Nat × String}
    (h : p ∈ placesFrom i s) : i ≤ p.1 := by
  induction s generalizing i with
  | nil => exact absurd h List.not_mem_nil
  | cons c s ih =>
    rw [placesFrom, List.mem_append] at h
    rcases h with h | h
    · obtain ⟨name, -, rfl⟩ := List.mem_map.1 h
      exact Nat.le_refl i
    · have hle := ih h
      omega

/-- From left to right: no two placeholders stand at one place. -/
theorem pairwise_placesFrom (i : Nat) (s : List Char) :
    (placesFrom i s).Pairwise fun p q => p.1 < q.1 := by
  induction s generalizing i with
  | nil => exact List.Pairwise.nil
  | cons c s ih =>
    rw [placesFrom, List.pairwise_append]
    refine ⟨?_, ih (i + 1), ?_⟩
    · cases nameAt? (c :: s) <;> simp
    · intro p hp q hq
      obtain ⟨name, -, rfl⟩ := List.mem_map.1 hp
      have hle := le_of_mem_placesFrom hq
      show i < q.1
      omega

theorem mem_placesFrom {i j : Nat} {s : List Char} {name : String} :
    (i + j, name) ∈ placesFrom i s ↔ StandsAt s j name := by
  induction s generalizing i j with
  | nil => simp [placesFrom, StandsAt, placeholder]
  | cons c s ih =>
    rw [placesFrom, List.mem_append]
    cases j with
    | zero =>
      have hlater : (i + 0, name) ∉ placesFrom (i + 1) s := by
        intro h
        have hle : i + 1 ≤ i + 0 := le_of_mem_placesFrom h
        omega
      rw [or_iff_left hlater, StandsAt, List.drop_zero, ← nameAt?_eq_some_iff]
      simp
    | succ j =>
      have hhere : (i + (j + 1), name) ∉ (nameAt? (c :: s)).toList.map (i, ·) := by
        intro h
        obtain ⟨name', -, heq⟩ := List.mem_map.1 h
        have hplace : i = i + (j + 1) := congrArg Prod.fst heq
        omega
      have hplace : i + (j + 1) = i + 1 + j := by omega
      rw [or_iff_right hhere, hplace, ih, StandsAt, StandsAt, List.drop_succ_cons]

/-! ## Parentheses and brackets -/

theorem names_cons_of_ne {c : Char} (hc : c ≠ '<') (s : List Char) : names (c :: s) = names s := by
  rw [names, nameAt?, if_neg hc]
  rfl

theorem names_append_of_ne {w : List Char} (hw : ∀ c ∈ w, c ≠ '<') (s : List Char) :
    names (w ++ s) = names s := by
  induction w with
  | nil => rfl
  | cons c w ih =>
    rw [List.cons_append, names_cons_of_ne (hw c List.mem_cons_self),
      ih fun d hd => hw d (List.mem_cons_of_mem c hd)]

/-- Where a character stands that a text does not hold, the text does not go on. -/
theorem prefix_append_cons_iff {p : List Char} {c : Char} (hc : c ∉ p) (s t : List Char) :
    p <+: s ++ c :: t ↔ p <+: s := by
  constructor
  · intro h
    rcases List.prefix_or_prefix_of_prefix h (List.prefix_append s (c :: t)) with hp | ⟨u, rfl⟩
    · exact hp
    · -- what `p` has behind `s` would begin with the character
      rw [List.prefix_append_right_inj] at h
      cases u with
      | nil => simp
      | cons d u =>
        have hd : d = c := (List.cons_prefix_cons.1 h).1
        exact absurd (List.mem_append_right s (hd ▸ List.mem_cons_self)) hc
  · intro h
    exact h.trans (List.prefix_append s (c :: t))

theorem ne_of_all {p : Char → Bool} {s : List Char} {d : Char} (h : s.all p = true)
    (hd : p d = false) : ∀ c ∈ s, c ≠ d := by
  rintro c hc rfl
  exact absurd ((List.all_eq_true.1 h c hc).symm.trans hd) (by decide)

theorem IsName.not_mem_placeholder {name : String} (h : IsName name) {c : Char}
    (hc : c = '(' ∨ c = ')') : c ∉ placeholder name := by
  intro hmem
  have hchar : isNameChar c = false ∧ c ≠ '<' ∧ c ≠ '>' := by
    rcases hc with rfl | rfl <;> decide
  rw [placeholder, List.mem_cons, List.mem_append, List.mem_singleton] at hmem
  rcases hmem with hopen | hname | hclose
  · exact hchar.2.1 hopen
  · exact ne_of_all h.all hchar.1 c hname rfl
  · exact hchar.2.2 hclose

/-- A parenthesis is in no placeholder. -/
theorem names_append_paren {c : Char} (hc : c = '(' ∨ c = ')') (s t : List Char) :
    names (s ++ c :: t) = names s ++ names t := by
  induction s with
  | nil =>
    have hne : c ≠ '<' := by
      rcases hc with rfl | rfl <;> decide
    rw [List.nil_append, names_cons_of_ne hne]
    rfl
  | cons d s ih =>
    have hhead : nameAt? (d :: (s ++ c :: t)) = nameAt? (d :: s) := by
      apply Option.ext
      intro name
      rw [nameAt?_eq_some_iff, nameAt?_eq_some_iff, and_congr_right_iff]
      intro hname
      exact prefix_append_cons_iff (hname.not_mem_placeholder hc) (d :: s) t
    rw [List.cons_append, names, names, hhead, ih, List.append_assoc]

/-! ## Parameters of a tree -/

/-- Text without groups has a parameter for every placeholder. -/
theorem Splits.params {s : List Char} {ns : List Node} (h : Splits s ns) :
    Node.paramsAll ns = names s := by
  induction h with
  | nil => rfl
  | @param name rest ns hname hrest ih =>
    have hhere : nameAt? ('<' :: (name.toList ++ '>' :: rest)) = some name :=
      nameAt?_eq_some_iff.2 ⟨hname, rest, by simp [placeholder]⟩
    -- inside of the name, and at the bracket that closes it, no placeholder begins
    have hnone : ∀ c ∈ name.toList, c ≠ '<' := ne_of_all hname.all (by decide)
    rw [Node.paramsAll_cons, Node.params_param, ih, names, hhere, names_append_of_ne hnone,
      names_cons_of_ne (by decide)]
    rfl
  | @opening s ns hnone hs ih =>
    have hhere : nameAt? ('<' :: s) = none := by
      rw [nameAt?, if_pos rfl, hnone]
      rfl
    rw [Node.paramsAll_cons, Node.params_literal, ih, names, hhere]
    rfl
  | @closing s ns hs ih =>
    rw [Node.paramsAll_cons, Node.params_literal, ih, names_cons_of_ne (by decide)]
    rfl
  | @run w rest ns hne hw hstop hrest ih =>
    have hplain : ∀ c ∈ w, c ≠ '<' := ne_of_all hw (by decide)
    rw [Node.paramsAll_cons, Node.params_literal, ih, names_append_of_ne hplain]
    rfl

theorem params_tokens (s : List Char) : Node.paramsAll (tokens s) = names s :=
  (splits_tokens s).params

/-- A tree has a parameter for every placeholder, inside groups, between them and behind a
    parenthesis that is never closed. -/
theorem Parses.params {s : List Char} {ns : List Node} (h : Parses s ns) :
    Node.paramsAll ns = names s := by
  induction h with
  | @plain s hs => exact params_tokens s
  | @unclosed head tail hhead hnone =>
    rw [Node.paramsAll_append, params_tokens, params_tokens, names_append_paren (Or.inl rfl),
      names_cons_of_ne (by decide)]
  | @group head tail body rest ms ns hhead hsplit hbody hrest ihbody ihrest =>
    -- the body ends at a parenthesis as well
    have htail : tail = body ++ ')' :: rest := append_of_splitGroup hsplit
    rw [Node.paramsAll_append, Node.paramsAll_cons, Node.params_group, params_tokens, ihbody,
      ihrest, htail, names_append_paren (Or.inl rfl), names_append_paren (Or.inr rfl)]

/-- The parameters of a template are the placeholders of its text, whatever parentheses and
    brackets stand around them: there is a list of all places where a placeholder stands, from left
    to right, and the tree has the parameters of these places in this order, as has everything that
    is compiled from the tree. -/
theorem params_parse [Regex.Capacity] (text : String) :
    ∃ places : List (Nat × String),
      places.Pairwise (fun p q => p.1 < q.1) ∧
      (∀ i name, (i, name) ∈ places ↔ StandsAt text.toList i name) ∧
      Node.paramsAll (parse text) = places.map (·.2) ∧
      ∀ conditions m, Matcher.compile text (parse text) conditions = .ok m →
        m.params = places.map (·.2) := by
  have htree : Node.paramsAll (parse text) = (placesFrom 0 text.toList).map (·.2) := by
    rw [map_snd_placesFrom]
    exact (parses_parse text).params
  refine ⟨placesFrom 0 text.toList, pairwise_placesFrom 0 _, ?_, htree, ?_⟩
  · intro i name
    have hmem : (0 + i, name) ∈ placesFrom 0 text.toList ↔ StandsAt text.toList i name :=
      mem_placesFrom
    rw [Nat.zero_add] at hmem
    exact hmem
  · intro conditions m hm
    rw [params_compile hm, htree]

-- Doubled brackets, a parenthesis inside brackets, a group and a parenthesis that is never closed.
example : Node.paramsAll (parse "<<a>(<b(c>)<d->)(x<a><1>(<e_>") = ["a", "d-", "a", "e_"] := by
  decide +kernel

end Waymark.Template
