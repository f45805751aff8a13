/-
  Waymark.Proofs.Template.Groups

  Where groups begin and end.  `Balanced` text closes every parenthesis that it opens, and nothing
  inside it closes a group around it.  `Paired` text is known by its counts: no part in front closes
  more parentheses than it opens, and the whole closes as many.  The two are the same, and the counts
  tell where `splitGroup` ends a group, whatever text stands behind.

  `Parses` says what the tree of a text is, without fuel: up to
  the first parenthesis it falls into nodes without groups; then comes a group, or the parenthesis
  is never closed and stays literal text together with all that follows.

  Main statements: `balanced_iff_paired`, `parses_iff`, and `sourceAll_parse`, the tree of a text writes the text again.
-/

import Waymark.Proofs.Template.Tokens

namespace Waymark.Template

/-! ## Balanced text -/

/-- Text whose parentheses are closed in order. -/
inductive Balanced : List Char → Prop
  | nil : Balanced []
  | char {c : Char} {s : List Char} (hopen : c ≠ '(') (hclose : c ≠ ')') (hs : Balanced s) :
      Balanced (c :: s)
  | nest {b s : List Char} (hb : Balanced b) (hs : Balanced s) : Balanced ('(' :: (b ++ ')' :: s))

theorem Balanced.append {b s : List Char} (hb : Balanced b) (hs : Balanced s) :
    Balanced (b ++ s) := by
  induction hb with
  | nil => exact hs
  | char hopen hclose _ ih => exact .char hopen hclose ih
  | nest hb _ _ ih =>
    rw [List.cons_append, List.append_assoc, List.cons_append]
    exact .nest hb ih

theorem Balanced.of_all {s : List Char} (h : ∀ c ∈ s, c ≠ '(' ∧ c ≠ ')') : Balanced s := by
  induction s with
  | nil => exact .nil
  | cons c s ih =>
    obtain ⟨hopen, hclose⟩ := h c List.mem_cons_self
    exact .char hopen hclose (ih fun d hd => h d (List.mem_cons_of_mem c hd))

/-! ## The end of a group -/

/-- How many groups are open behind a character inside a group; none if it closes the group. -/
def depthBehind (depth : Nat) (c : Char) : Option Nat :=
  if c = '(' then some (depth + 1)
  else if c = ')' then if depth = 0 then none else some (depth - 1)
  else some depth

/-- One character more in front of what belongs to a group. -/
def withChar (c : Char) (w : List Char × List Char) : List Char × List Char := (c :: w.1, w.2)

/-- What one character does to the group it stands in. -/
theorem splitGroup_cons (depth : Nat) (c : Char) (s : List Char) :
    splitGroup depth (c :: s) = match depthBehind depth c with
      | none => some ([], s)
      | some depth' => (splitGroup depth' s).map (withChar c) := by
  rw [splitGroup.eq_def, depthBehind]
  by_cases hclose : c = ')'
  · subst hclose
    cases depth <;> rfl
  · by_cases hopen : c = '('
    · subst hopen
      rfl
    · simp only [if_neg hclose, if_neg hopen]
      rfl

theorem depthBehind_eq_none {depth : Nat} {c : Char} (h : depthBehind depth c = none) : c = ')' := by
  rw [depthBehind] at h
  by_cases hopen : c = '('
  · rw [if_pos hopen] at h
    exact absurd h (by simp)
  · by_cases hclose : c = ')'
    · exact hclose
    · rw [if_neg hopen, if_neg hclose] at h
      exact absurd h (by simp)

theorem depthBehind_of_ne {c : Char} (hopen : c ≠ '(') (hclose : c ≠ ')') (depth : Nat) :
    depthBehind depth c = some depth := by
  rw [depthBehind, if_neg hopen, if_neg hclose]

/-- A group is its body, the parenthesis that closes it, and what follows. -/
theorem append_of_splitGroup {depth : Nat} {s body rest : List Char}
    (h : splitGroup depth s = some (body, rest)) : s = body ++ ')' :: rest := by
  induction s generalizing depth body with
  | nil => exact absurd h (by simp [splitGroup])
  | cons c s ih =>
    rw [splitGroup_cons] at h
    cases hdepth : depthBehind depth c with
    | none =>
      rw [hdepth] at h
      cases h
      rw [depthBehind_eq_none hdepth]
      rfl
    | some depth' =>
      rw [hdepth] at h
      obtain ⟨w, hw, heq⟩ := Option.map_eq_some_iff.1 h
      cases heq
      rw [List.cons_append, ← ih hw]

/-! ## Counting parentheses -/

/-- Text whose parentheses pair up. -/
structure Paired (s : List Char) : Prop where
  /-- No part in front closes more than it opens. -/
  prefixes : ∀ t, t <+: s → t.count ')' ≤ t.count '('
  /-- The whole closes as many as it opens. -/
  total : s.count '(' = s.count ')'

/-- Whether a text stays inside a group: with `depth` groups open in front of it, no part of it
    closes more groups than there are. -/
def StaysInside (depth : Nat) (s : List Char) : Prop :=
  ∀ t, t <+: s → t.count ')' ≤ depth + t.count '('

theorem Paired.staysInside {s : List Char} (h : Paired s) (depth : Nat) : StaysInside depth s := by
  intro t ht
  have hprefix := h.prefixes t ht
  omega

theorem paired_iff {s : List Char} :
    Paired s ↔ StaysInside 0 s ∧ s.count ')' = 0 + s.count '(' := by
  constructor
  · intro h
    have htotal := h.total
    exact ⟨h.staysInside 0, by omega⟩
  · rintro ⟨hinside, htotal⟩
    refine ⟨fun t ht => ?_, by omega⟩
    have hprefix := hinside t ht
    omega

theorem count_cons_eq (c d : Char) (s : List Char) : (c :: s).count d = [c].count d + s.count d := by
  rw [← List.singleton_append, List.count_append]

/-- The number of open groups behind a character is that before it, with what the character opens
    and without what it closes. -/
theorem depthBehind_eq_some_iff {depth depth' : Nat} {c : Char} :
    depthBehind depth c = some depth' ↔ depth' + [c].count ')' = depth + [c].count '(' := by
  rw [depthBehind]
  by_cases hopen : c = '('
  · subst hopen
    have hcounts : ['('].count ')' = 0 ∧ ['('].count '(' = 1 := by decide
    rw [if_pos rfl, hcounts.1, hcounts.2, Option.some.injEq]
    omega
  · rw [if_neg hopen]
    have hnone : [c].count '(' = 0 := List.count_eq_zero.2 (by simpa using Ne.symm hopen)
    by_cases hclose : c = ')'
    · subst hclose
      have hone : [')'].count ')' = 1 := by decide
      rw [if_pos rfl, hnone, hone]
      -- a parenthesis that closes the group itself leaves no number
      by_cases hdepth : depth = 0
      · rw [if_pos hdepth]
        constructor
        · intro h
          exact absurd h (by simp)
        · intro h
          omega
      · rw [if_neg hdepth, Option.some.injEq]
        omega
    · have hnone' : [c].count ')' = 0 := List.count_eq_zero.2 (by simpa using Ne.symm hclose)
      rw [if_neg hclose, hnone, hnone', Option.some.injEq]
      omega

theorem staysInside_nil (depth : Nat) : StaysInside depth [] := by
  intro t ht
  rw [List.prefix_nil.1 ht]
  exact Nat.zero_le _

/-- A text stays inside if its first character does and the others do behind it. -/
theorem staysInside_cons {depth : Nat} {c : Char} {s : List Char} :
    StaysInside depth (c :: s) ↔ ∃ depth', depthBehind depth c = some depth' ∧
      StaysInside depth' s := by
  constructor
  · intro h
    have hfirst : [c].count ')' ≤ depth + [c].count '(' := h [c] ⟨s, rfl⟩
    refine ⟨depth + [c].count '(' - [c].count ')', depthBehind_eq_some_iff.2 (by omega), ?_⟩
    intro t ht
    have hprefix := h (c :: t) (List.cons_prefix_cons.2 ⟨rfl, ht⟩)
    rw [count_cons_eq, count_cons_eq c '('] at hprefix
    omega
  · rintro ⟨depth', hdepth, h⟩ t ht
    rw [depthBehind_eq_some_iff] at hdepth
    rcases List.prefix_cons_iff.1 ht with rfl | ⟨u, rfl, hu⟩
    · exact Nat.zero_le _
    · have hprefix := h u hu
      rw [count_cons_eq, count_cons_eq c '(']
      omega

/-! ## Where a group ends -/

/-- A group that is never closed is one that the text stays inside of. -/
theorem splitGroup_eq_none_iff {depth : Nat} {s : List Char} :
    splitGroup depth s = none ↔ StaysInside depth s := by
  induction s generalizing depth with
  | nil => exact ⟨fun _ => staysInside_nil depth, fun _ => rfl⟩
  | cons c s ih =>
    rw [splitGroup_cons, staysInside_cons]
    cases hdepth : depthBehind depth c with
    | none => simp
    | some depth' =>
      show (splitGroup depth' s).map (withChar c) = none ↔ _
      rw [Option.map_eq_none_iff, ih]
      constructor
      · intro h
        exact ⟨depth', rfl, h⟩
      · rintro ⟨d, hd, h⟩
        rw [Option.some.inj hd]
        exact h

/-- The body of a group stays inside and leaves no group open for its parenthesis but its own. -/
theorem counts_of_splitGroup {depth : Nat} {s body rest : List Char}
    (h : splitGroup depth s = some (body, rest)) :
    StaysInside depth body ∧ body.count ')' = depth + body.count '(' := by
  induction s generalizing depth body with
  | nil => exact absurd h (by simp [splitGroup])
  | cons c s ih =>
    rw [splitGroup_cons] at h
    cases hdepth : depthBehind depth c with
    | none =>
      rw [hdepth] at h
      cases h
      -- the parenthesis closes the group, so no other one is open
      obtain rfl : depth = 0 := by
        rcases Nat.eq_zero_or_pos depth with hzero | hpos
        · exact hzero
        · have hclose : depthBehind depth ')' = some (depth - 1) := by
            apply depthBehind_eq_some_iff.2
            show depth - 1 + 1 = depth + 0
            omega
          rw [depthBehind_eq_none hdepth, hclose] at hdepth
          exact absurd hdepth (by simp)
      exact ⟨staysInside_nil 0, rfl⟩
    | some depth' =>
      rw [hdepth] at h
      obtain ⟨w, hw, heq⟩ := Option.map_eq_some_iff.1 h
      cases heq
      obtain ⟨hinside, htotal⟩ := ih hw
      refine ⟨staysInside_cons.2 ⟨depth', hdepth, hinside⟩, ?_⟩
      rw [depthBehind_eq_some_iff] at hdepth
      rw [count_cons_eq, count_cons_eq c '(']
      omega

/-- A group ends where for the first time one parenthesis more is closed than was opened. -/
theorem splitGroup_of_counts {depth : Nat} {body : List Char} (hinside : StaysInside depth body)
    (htotal : body.count ')' = depth + body.count '(') (rest : List Char) :
    splitGroup depth (body ++ ')' :: rest) = some (body, rest) := by
  induction body generalizing depth with
  | nil =>
    have hzero : depth = 0 := by
      rw [List.count_nil, List.count_nil] at htotal
      omega
    rw [hzero]
    rfl
  | cons c body ih =>
    obtain ⟨depth', hdepth, hinside'⟩ := staysInside_cons.1 hinside
    rw [List.cons_append, splitGroup_cons, hdepth]
    show (splitGroup depth' (body ++ ')' :: rest)).map (withChar c) = some (c :: body, rest)
    have htotal' : body.count ')' = depth' + body.count '(' := by
      rw [depthBehind_eq_some_iff] at hdepth
      rw [count_cons_eq, count_cons_eq c '('] at htotal
      omega
    rw [ih hinside' htotal']
    rfl

/-- The body of a group is paired. -/
theorem paired_of_splitGroup {s body rest : List Char}
    (h : splitGroup 0 s = some (body, rest)) : Paired body :=
  paired_iff.2 (counts_of_splitGroup h)

theorem Paired.splitGroup_eq {b : List Char} (h : Paired b) (rest : List Char) :
    splitGroup 0 (b ++ ')' :: rest) = some (b, rest) := by
  obtain ⟨hinside, htotal⟩ := paired_iff.1 h
  exact splitGroup_of_counts hinside htotal rest

/-! ## Balanced text is paired -/

theorem Balanced.staysInside {b : List Char} (h : Balanced b) {depth : Nat} {s : List Char}
    (hs : StaysInside depth s) : StaysInside depth (b ++ s) := by
  induction h generalizing depth s with
  | nil => exact hs
  | char hopen hclose _ ih =>
    exact staysInside_cons.2 ⟨depth, depthBehind_of_ne hopen hclose depth, ih hs⟩
  | @nest b t _ _ ihb iht =>
    -- one level deeper up to the closing parenthesis, then on the level of before
    have hbehind : StaysInside (depth + 1) (')' :: (t ++ s)) :=
      staysInside_cons.2 ⟨depth, rfl, iht hs⟩
    rw [List.cons_append, List.append_assoc, List.cons_append]
    exact staysInside_cons.2 ⟨depth + 1, rfl, ihb hbehind⟩

theorem Balanced.total {b : List Char} (h : Balanced b) : b.count '(' = b.count ')' := by
  induction h with
  | nil => rfl
  | char hopen hclose _ ih => rw [List.count_cons_of_ne hopen, List.count_cons_of_ne hclose, ih]
  | nest _ _ ihb iht =>
    simp [ihb, iht]
    omega

/-- Behind a text that closes as many groups as it opens. -/
theorem StaysInside.of_append {depth : Nat} {a s : List Char} (h : StaysInside depth (a ++ s))
    (htotal : a.count '(' = a.count ')') : StaysInside depth s := by
  intro t ht
  have hprefix := h (a ++ t) ((List.prefix_append_right_inj a).2 ht)
  rw [List.count_append, List.count_append] at hprefix
  omega

theorem Paired.of_append {a s : List Char} (h : Paired (a ++ s))
    (htotal : a.count '(' = a.count ')') : Paired s := by
  have hall := h.total
  rw [List.count_append, List.count_append] at hall
  exact paired_iff.2 ⟨(paired_iff.1 h).1.of_append htotal, by omega⟩

/-- A paired text is built up from closed groups. -/
theorem Paired.balanced {s : List Char} (h : Paired s) : Balanced s := by
  -- by induction on the length: the first group is shorter than the text, and so is what follows
  induction hn : s.length using Nat.strongRecOn generalizing s with
  | ind n ih =>
    subst hn
    cases s with
    | nil => exact .nil
    | cons c s =>
      obtain ⟨depth, hdepth, hinside⟩ := staysInside_cons.1 (paired_iff.1 h).1
      by_cases hopen : c = '('
      · subst hopen
        cases hdepth
        cases hsplit : splitGroup 0 s with
        | none =>
          -- a parenthesis would be left without its closing one
          have hle := splitGroup_eq_none_iff.1 hsplit s (List.prefix_refl s)
          have htotal := h.total
          rw [List.count_cons_self, List.count_cons_of_ne (by decide)] at htotal
          omega
        | some w =>
          obtain ⟨body, rest⟩ := w
          have hbody := paired_of_splitGroup hsplit
          obtain rfl := append_of_splitGroup hsplit
          have hgroup : ('(' :: (body ++ [')'])).count '(' = ('(' :: (body ++ [')'])).count ')' := by
            have htotal := hbody.total
            simp [htotal]
          have hrest : Paired rest := by
            apply Paired.of_append _ hgroup
            rw [List.cons_append, List.append_assoc, List.singleton_append]
            exact h
          simp only [List.length_cons, List.length_append] at ih
          exact .nest (ih body.length (by omega) hbody rfl) (ih rest.length (by omega) hrest rfl)
      · by_cases hclose : c = ')'
        · subst hclose
          exact absurd hdepth (by simp [depthBehind])
        · have hnone : [c].count '(' = [c].count ')' := by
            rw [List.count_eq_zero.2 (by simpa using Ne.symm hopen),
              List.count_eq_zero.2 (by simpa using Ne.symm hclose)]
          have hs : Paired s := Paired.of_append (a := [c]) h hnone
          exact .char hopen hclose (ih s.length (Nat.lt_succ_self _) hs rfl)

theorem balanced_iff_paired {s : List Char} : Balanced s ↔ Paired s := by
  refine ⟨fun h => ⟨fun t ht => ?_, h.total⟩, Paired.balanced⟩
  have hinside := h.staysInside (staysInside_nil 0) t (by rwa [List.append_nil])
  omega

/-- The parenthesis behind a balanced body closes the group. -/
theorem splitGroup_close {b : List Char} (h : Balanced b) (s : List Char) :
    splitGroup 0 (b ++ ')' :: s) = some (b, s) :=
  (balanced_iff_paired.1 h).splitGroup_eq s

/-! ## The tree of a text -/

/-- What the tree of a text is. -/
inductive Parses : List Char → List Node → Prop
  /-- No group is opened. -/
  | plain {s : List Char} (hs : '(' ∉ s) : Parses s (tokens s)
  /-- The first group that is opened is never closed. -/
  | unclosed {head tail : List Char} (hhead : '(' ∉ head) (hnone : splitGroup 0 tail = none) :
      Parses (head ++ '(' :: tail) (tokens head ++ tokens ('(' :: tail))
  /-- The first group has a body, which is a text of its own. -/
  | group {head tail body rest : List Char} {ms ns : List Node} (hhead : '(' ∉ head)
      (hsplit : splitGroup 0 tail = some (body, rest)) (hbody : Parses body ms)
      (hrest : Parses rest ns) :
      Parses (head ++ '(' :: tail) (tokens head ++ .group ms :: ns)

theorem all_ne_open {s : List Char} (h : '(' ∉ s) : s.all (· != '(') = true := by
  rw [List.all_eq_true]
  intro c hc
  have hne : c ≠ '(' := by
    rintro rfl
    exact h hc
  simpa using hne

theorem stops_open (tail : List Char) : Stops (· != '(') ('(' :: tail) := by
  intro c hc
  cases hc
  rfl

/-- A text has no group, or a part without groups stands in front of its first parenthesis. -/
theorem exists_head (s : List Char) :
    '(' ∉ s ∨ ∃ head tail, '(' ∉ head ∧ s = head ++ '(' :: tail := by
  by_cases hs : '(' ∈ s
  · obtain ⟨head, tail, hsplit, hhead⟩ := List.eq_append_cons_of_mem hs
    exact Or.inr ⟨head, tail, hhead, hsplit⟩
  · exact Or.inl hs

/-- Every text has a tree. -/
theorem exists_parses (s : List Char) : ∃ ns, Parses s ns := by
  -- body and rest of a group are shorter than the text
  induction hn : s.length using Nat.strongRecOn generalizing s with
  | ind n ih =>
    subst hn
    rcases exists_head s with hs | ⟨head, tail, hhead, rfl⟩
    · exact ⟨_, .plain hs⟩
    · cases hsplit : splitGroup 0 tail with
      | none => exact ⟨_, .unclosed hhead hsplit⟩
      | some w =>
        obtain ⟨body, rest⟩ := w
        have hlength : tail.length = body.length + (rest.length + 1) := by
          rw [append_of_splitGroup hsplit, List.length_append, List.length_cons]
        simp only [List.length_append, List.length_cons] at ih
        obtain ⟨ms, hms⟩ := ih body.length (by omega) body rfl
        obtain ⟨ns, hns⟩ := ih rest.length (by omega) rest rfl
        exact ⟨_, .group hhead hsplit hms hns⟩

/-- The tree is found with fuel for one level more than there are characters. -/
theorem Parses.parseWith_eq {s : List Char} {ns : List Node} (h : Parses s ns) {fuel : Nat}
    (hfuel : s.length < fuel) : parseWith fuel s = ns := by
  -- the body of a group and what follows it are both shorter than the text that holds them
  induction h generalizing fuel with
  | @plain s hs =>
    obtain ⟨fuel, rfl⟩ : ∃ k, fuel = k + 1 := ⟨fuel - 1, by omega⟩
    have hnil : Stops (· != '(') [] := fun c hc => absurd hc (by simp)
    have htake := takeWhile_of_stops (all_ne_open hs) hnil
    have hdrop := dropWhile_of_stops (all_ne_open hs) hnil
    rw [List.append_nil] at htake hdrop
    rw [parseWith, htake, hdrop]
  | @unclosed head tail hhead hnone =>
    obtain ⟨fuel, rfl⟩ : ∃ k, fuel = k + 1 := ⟨fuel - 1, by omega⟩
    rw [parseWith, takeWhile_of_stops (all_ne_open hhead) (stops_open tail),
      dropWhile_of_stops (all_ne_open hhead) (stops_open tail)]
    simp only [hnone]
  | @group head tail body rest ms ns hhead hsplit _ _ ihbody ihrest =>
    have hlength : tail.length = body.length + (rest.length + 1) := by
      rw [append_of_splitGroup hsplit, List.length_append, List.length_cons]
    rw [List.length_append, List.length_cons] at hfuel
    obtain ⟨fuel, rfl⟩ : ∃ k, fuel = k + 1 := ⟨fuel - 1, by omega⟩
    rw [parseWith, takeWhile_of_stops (all_ne_open hhead) (stops_open tail),
      dropWhile_of_stops (all_ne_open hhead) (stops_open tail)]
    simp only [hsplit]
    rw [ihbody (by omega), ihrest (by omega)]

/-- The tree of a text is the one that it parses to. -/
theorem parses_iff {s : List Char} {ns : List Node} : Parses s ns ↔ parse (String.ofList s) = ns := by
  have hparse : parse (String.ofList s) = parseWith (s.length + 1) s := by
    rw [parse, String.toList_ofList]
  rw [hparse]
  constructor
  · intro h
    exact h.parseWith_eq (Nat.lt_succ_self s.length)
  · rintro rfl
    obtain ⟨ns, hns⟩ := exists_parses s
    rw [hns.parseWith_eq (Nat.lt_succ_self s.length)]
    exact hns

theorem parses_parse (text : String) : Parses text.toList (parse text) := by
  rw [parses_iff, String.ofList_toList]

/-! ## The text of a tree -/

theorem toList_sourceAll_append (ns ms : List Node) :
    (Node.sourceAll (ns ++ ms)).toList
      = (Node.sourceAll ns).toList ++ (Node.sourceAll ms).toList := by
  induction ns with
  | nil => rfl
  | cons n ns ih => simp [ih, String.toList_append]

theorem toList_sourceAll_group (ms ns : List Node) :
    (Node.sourceAll (.group ms :: ns)).toList
      = '(' :: ((Node.sourceAll ms).toList ++ ')' :: (Node.sourceAll ns).toList) := by
  simp

theorem Parses.source {s : List Char} {ns : List Node} (h : Parses s ns) :
    (Node.sourceAll ns).toList = s := by
  induction h with
  | plain _ => exact (splits_tokens _).source
  | unclosed _ _ =>
    rw [toList_sourceAll_append, (splits_tokens _).source, (splits_tokens _).source]
  | group _ hsplit _ _ ihbody ihrest =>
    rw [toList_sourceAll_append, toList_sourceAll_group, (splits_tokens _).source, ihbody, ihrest,
      ← append_of_splitGroup hsplit]

/-- The tree of a text writes the text again. -/
theorem sourceAll_parse (text : String) : Node.sourceAll (parse text) = text := by
  rw [← String.toList_inj]
  exact (parses_parse text).source

end Waymark.Template
