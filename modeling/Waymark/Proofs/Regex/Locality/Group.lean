/-
  Waymark.Proofs.Regex.Locality.Group

  Reading what stands behind an opening parenthesis, and counts, whatever closes the text around.
  Both can end in blanks, as a question mark behind them would count.

  Main statements: `absorbs_readOpening` and `absorbs_readCounts`.
-/

import Waymark.Proofs.Regex.Locality.Escape

namespace Waymark.Regex.Parse

/-! ## Openings -/

theorem persists_readGroupName {loose : Prop} {name : String} {s r : List Char}
    (h : readGroupName s = .ok (name, r)) :
    Persists loose (fun s r => readGroupName s = .ok (name, r)) s r := by
  rw [readGroupName] at h
  cases hd : s.dropWhile (· != '>') with
  | nil =>
    simp only [hd] at h
    exact absurd h (by simp)
  | cons d rest =>
    -- the bracket that ends the name stands in the text
    have happ : ∀ u, (s ++ u).dropWhile (· != '>') = d :: (rest ++ u) ∧
        (s ++ u).takeWhile (· != '>') = s.takeWhile (· != '>') := by
      intro u
      have hlen : (s.takeWhile (· != '>')).length ≠ s.length := by
        have hsum := congrArg List.length (List.takeWhile_append_dropWhile (p := (· != '>')) (l := s))
        rw [List.length_append, hd, List.length_cons] at hsum
        omega
      rw [List.dropWhile_append, hd, List.takeWhile_append, if_neg hlen]
      exact ⟨rfl, rfl⟩
    simp only [hd] at h
    cases hn : s.takeWhile (· != '>') with
    | nil =>
      simp only [hn] at h
      exact absurd h (by simp)
    | cons c cs =>
      simp only [hn] at h
      by_cases hname : (isGroupNameStart c && cs.all isGroupNameChar) = true
      · rw [if_pos hname] at h
        cases h
        have hle := (List.dropWhile_suffix (l := s) (· != '>')).length_le
        rw [hd, List.length_cons] at hle
        refine Persists.of_all (by omega) fun u _ => ?_
        rw [readGroupName, (happ u).1, (happ u).2, hn]
        exact if_pos hname
      · rw [if_neg hname] at h
        exact absurd h (by simp)

theorem persists_readFlags {loose : Prop} {fs : FlagList} {flags : List (Flag × Bool)}
    {close : Char} {s r : List Char} (h : readFlags fs s = .ok (flags, close, r)) :
    Persists loose (fun s r => readFlags fs s = .ok (flags, close, r)) s r := by
  induction s generalizing fs with
  | nil =>
    rw [readFlags] at h
    exact absurd h (by simp)
  | cons c s ih =>
    rw [readFlags] at h
    -- the character that ends the flags, a sign for switching off, or a flag
    by_cases hclose : c = ':' ∨ c = ')'
    · rw [if_pos hclose] at h
      by_cases hdangling : fs.dangling = true
      · rw [if_pos hdangling] at h
        exact absurd h (by simp)
      · rw [if_neg hdangling] at h
        cases h
        refine Persists.head fun u => ?_
        rw [readFlags, if_pos hclose, if_neg hdangling]
    · rw [if_neg hclose] at h
      by_cases hminus : c = '-'
      · rw [if_pos hminus] at h
        by_cases hnegated : fs.negated = true
        · rw [if_pos hnegated] at h
          exact absurd h (by simp)
        · rw [if_neg hnegated] at h
          refine (ih h).cons c fun s' r' h' => ?_
          rw [readFlags, if_neg hclose, if_pos hminus, if_neg hnegated, h']
      · rw [if_neg hminus] at h
        cases hf : flagOf? c with
        | none =>
          simp only [hf] at h
          exact absurd h (by simp)
        | some f =>
          simp only [hf] at h
          by_cases htwice : fs.flags.any (·.1 == f) = true
          · rw [if_pos htwice] at h
            exact absurd h (by simp)
          · rw [if_neg htwice] at h
            refine (ih h).cons c fun s' r' h' => ?_
            rw [readFlags, if_neg hclose, if_neg hminus]
            simp only [hf, if_neg htwice, h']

/-- What flags begin, by the character behind them. -/
def openingOf (flags : List (Flag × Bool)) (close : Char) : Except Error Opening :=
  if close = ':' then .ok (.plain flags)
  else if flags.isEmpty then .error .repetitionMissing
  else .ok (.flags flags)

/-- Flags stand behind a question mark unless a name or a look-around does. -/
theorem readQuestion_flags {c : Char} (hc : c ∉ ['=', '!', '<', 'P']) (s : List Char) :
    readQuestion (c :: s) = (do
      let (flags, close, rest) ← readFlags ⟨[], false, false⟩ (c :: s)
      return (← openingOf flags close, rest)) := by
  unfold readQuestion
  -- the last case reads flags, all others begin with a character that is excluded
  split
  case h_8 =>
    cases readFlags ⟨[], false, false⟩ (c :: s) with
    | error e => rfl
    | ok x =>
      obtain ⟨flags, close, rest⟩ := x
      show (if close = ':' then _ else _) = (openingOf flags close).bind fun o => .ok (o, rest)
      rw [openingOf]
      by_cases hclose : close = ':'
      · rw [if_pos hclose, if_pos hclose]
        rfl
      · rw [if_neg hclose, if_neg hclose]
        by_cases hempty : flags.isEmpty = true
        · rw [if_pos hempty, if_pos hempty]
          rfl
        · rw [if_neg hempty, if_neg hempty]
          rfl
  case h_7 heq => exact absurd heq (by simp)
  all_goals
    rename_i heq
    rw [List.cons.injEq] at heq
    exact absurd (by simp [heq.1]) hc

/-- A name stands in angle brackets. -/
theorem readQuestion_name {d : Char} (hd : d ≠ '=' ∧ d ≠ '!') (s : List Char) :
    readQuestion ('<' :: d :: s) = (readGroupName (d :: s)).map fun x =>
      (.capture (some x.1), x.2) := by
  unfold readQuestion
  split
  case h_3 heq => exact absurd (List.cons.inj (List.cons.inj heq).2).1 hd.1
  case h_4 heq => exact absurd (List.cons.inj (List.cons.inj heq).2).1 hd.2
  case h_6 heq => rw [(List.cons.inj heq).2]
  all_goals simp_all

/-- A look-behind is refused. -/
theorem readQuestion_lookBehind {d : Char} (hd : ¬ (d ≠ '=' ∧ d ≠ '!')) (s : List Char) :
    readQuestion ('<' :: d :: s) = .error .lookAround := by
  by_cases hequal : d = '='
  · rw [hequal]
    rfl
  · have hnot : d = '!' := Decidable.byContradiction fun hnot => hd ⟨hequal, hnot⟩
    rw [hnot]
    rfl

/-- `P` is no flag. -/
theorem readQuestion_p_of_ne {d : Char} (hd : d ≠ '<') (s : List Char) :
    readQuestion ('P' :: d :: s) = .error .flagUnknown := by
  unfold readQuestion
  split
  case h_5 heq => exact absurd (List.cons.inj (List.cons.inj heq).2).1 hd
  case h_8 => rfl
  all_goals simp_all

theorem persists_readQuestion_name {loose : Prop} {o : Opening} {s r : List Char}
    (h : readQuestion ('<' :: s) = .ok (o, r)) :
    Persists loose (fun s r => readQuestion s = .ok (o, r)) ('<' :: s) r := by
  cases s with
  | nil =>
    have hempty : readQuestion ['<'] = .error .groupName := rfl
    rw [hempty] at h
    exact absurd h (by simp)
  | cons d s =>
    by_cases hd : d ≠ '=' ∧ d ≠ '!'
    · rw [readQuestion_name hd, map_eq_ok] at h
      obtain ⟨⟨name, r'⟩, hn, h⟩ := h
      cases h
      refine Persists.cons '<'
        (P := fun s r => readQuestion ('<' :: s) = .ok (.capture (some name), r)) ?_ fun _ _ h' => h'
      refine (persists_readGroupName hn).imp_cons fun s' r' h' => ?_
      rw [readQuestion_name hd, h']
      rfl
    · rw [readQuestion_lookBehind hd] at h
      exact absurd h (by simp)

theorem persists_readQuestion_p {loose : Prop} {o : Opening} {s r : List Char}
    (h : readQuestion ('P' :: s) = .ok (o, r)) :
    Persists loose (fun s r => readQuestion s = .ok (o, r)) ('P' :: s) r := by
  cases s with
  | nil =>
    have hflag : readQuestion ['P'] = .error .flagUnknown := rfl
    rw [hflag] at h
    exact absurd h (by simp)
  | cons d s =>
    by_cases hd : d = '<'
    · subst hd
      refine Persists.cons 'P'
        (P := fun s r => readQuestion ('P' :: s) = .ok (o, r)) ?_ fun _ _ h' => h'
      exact Persists.map_cons (f := fun name => Opening.capture (some name))
        (G := fun s => readQuestion ('P' :: s)) (fun _ _ => persists_readGroupName)
        (fun _ => rfl) h
    · rw [readQuestion_p_of_ne hd] at h
      exact absurd h (by simp)

theorem persists_readQuestion {loose : Prop} {o : Opening} {s r : List Char}
    (h : readQuestion s = .ok (o, r)) :
    Persists loose (fun s r => readQuestion s = .ok (o, r)) s r := by
  cases s with
  | nil => exact absurd h (by simp [readQuestion])
  | cons c s =>
    by_cases hc : c ∈ ['=', '!', '<', 'P']
    · simp only [List.mem_cons, List.not_mem_nil, or_false] at hc
      -- look-aheads are refused; behind the others a name may stand
      rcases hc with rfl | rfl | rfl | rfl
      · exact absurd h (by simp [readQuestion])
      · exact absurd h (by simp [readQuestion])
      · exact persists_readQuestion_name h
      · exact persists_readQuestion_p h
    · rw [readQuestion_flags hc, bind_eq_ok] at h
      obtain ⟨⟨flags, close, rest⟩, hflags, h⟩ := h
      obtain ⟨o', ho, h⟩ := bind_eq_ok.1 h
      cases h
      refine (persists_readFlags hflags).imp_cons fun s' r' h' => ?_
      rw [readQuestion_flags hc, h']
      simp only [bind, Except.bind, ho]
      rfl

theorem question_or_noQuestion (s : List Char) : (∃ s₁, s = '?' :: s₁) ∨ NoQuestion s := by
  by_cases hs : s.head? = some '?'
  · exact Or.inl (List.head?_eq_some_iff.1 hs)
  · exact Or.inr hs

theorem noQuestion_closes {u : List Char} (hu : Closes u) : NoQuestion u := by
  rcases hu with rfl | ⟨t, rfl⟩
  · exact fun h => absurd h (by simp)
  · exact noQuestion_cons (by decide) t

theorem persists_readOpening {loose : Prop} {o : Opening} {s r : List Char}
    (h : readOpening false s = .ok (o, r)) :
    Persists loose (fun s r => readOpening false s = .ok (o, r)) s r := by
  rcases question_or_noQuestion s with ⟨s₁, rfl⟩ | hs
  · exact (persists_readQuestion (s := s₁) h).cons '?' fun s' r' h' => h'
  · rw [readOpening_of_noQuestion (skip_false s) hs] at h
    cases h
    exact Persists.refl fun u hu =>
      readOpening_of_noQuestion (skip_false _) (hs.append (noQuestion_closes hu))

/-- In verbose mode blanks and comments are passed over first. -/
theorem absorbs_readOpening {verbose : Bool} {o : Opening} {s r : List Char}
    (h : readOpening verbose s = .ok (o, r)) :
    Persists (Absorbs (readOpening verbose) s) (fun s r => readOpening verbose s = .ok (o, r))
      s r := by
  have htrails : Trails verbose (readOpening verbose) (readOpening false) s :=
    ⟨s, Nat.le_refl _, fun u _ => rfl⟩
  exact htrails.persists (fun x => persists_readOpening) h

/-! ## Counts -/

theorem readCountDigits_closes {verbose : Bool} {fuel : Nat} {acc : Option Nat} {u : List Char}
    (hu : Closes u) (hfuel : u.length ≤ fuel) :
    readCountDigits verbose fuel acc u = (acc, u) := by
  rcases hu with rfl | ⟨t, rfl⟩
  · cases fuel <;> rfl
  · cases fuel with
    | zero => exact absurd hfuel (Nat.not_succ_le_zero _)
    | succ fuel => rw [readCountDigits, if_neg (by decide)]

theorem persists_readCountDigits {verbose : Bool} {fuel : Nat} {acc n : Option Nat}
    {s r : List Char} (hfuel : s.length ≤ fuel)
    (h : readCountDigits verbose fuel acc s = (n, r)) :
    Persists True (fun s r => ∀ fuel', s.length ≤ fuel' →
      readCountDigits verbose fuel' acc s = (n, r)) s r := by
  induction fuel generalizing acc s with
  | zero =>
    have hnil : s = [] := List.eq_nil_of_length_eq_zero (Nat.le_zero.1 hfuel)
    subst hnil
    cases h
    exact Persists.refl fun u hu fuel' hfuel' => readCountDigits_closes hu hfuel'
  | succ fuel ih =>
    cases s with
    | nil =>
      cases h
      exact Persists.refl fun u hu fuel' hfuel' => readCountDigits_closes hu hfuel'
    | cons c s =>
      rw [List.length_cons] at hfuel
      have hlen := (persists_skip verbose s).length_le
      by_cases hc : c.isDigit = true
      · rw [readCountDigits, if_pos hc] at h
        -- blanks behind the digit, then the rest, with any fuel that is enough
        have hread := (persists_skip verbose s).trans (ih (by omega) h)
          (R := fun s r => ∀ fuel', s.length ≤ fuel' → readCountDigits verbose fuel'
            (some (10 * acc.getD 0 + (c.toNat - 48))) (skip verbose s) = (n, r))
          (fun s' r' q' hlen' hskip hread fuel' hfuel' => hskip ▸ hread fuel' (by omega))
        refine hread.cons c ?_
        intro s' r' h' fuel' hfuel'
        rw [List.length_cons] at hfuel'
        cases fuel' with
        | zero => exact absurd hfuel' (Nat.not_succ_le_zero _)
        | succ fuel' => rw [readCountDigits, if_pos hc, h' fuel' (by omega)]
      · rw [readCountDigits, if_neg hc] at h
        cases h
        refine Persists.refl fun u _ fuel' hfuel' => ?_
        cases fuel' with
        | zero => exact absurd hfuel' (Nat.not_succ_le_zero _)
        | succ fuel' => rw [List.cons_append, readCountDigits, if_neg hc]

theorem persists_dropBlanks {loose : Prop} (s : List Char) :
    Persists loose (fun s r => s.dropWhile isBlank = r) s (s.dropWhile isBlank) :=
  Persists.of_all (List.dropWhile_suffix isBlank).length_le fun _ hu =>
    dropWhile_isBlank_append hu s

theorem persists_readCount {verbose : Bool} {n : Nat} {s r : List Char}
    (h : readCount verbose s = .ok (n, r)) :
    Persists True (fun s r => readCount verbose s = .ok (n, r)) s r := by
  obtain ⟨rest, hdigits, hsize, hskip⟩ : ∃ rest,
      readCountDigits verbose ((s.dropWhile isBlank).length + 1) none (s.dropWhile isBlank)
        = (some n, rest) ∧ n < UInt32.size ∧ skip verbose (rest.dropWhile isBlank) = r := by
    rw [readCount] at h
    split at h
    case h_1 => exact absurd h (by simp)
    case h_2 m rest hdigits =>
      by_cases hsize : m < UInt32.size
      · rw [if_pos hsize] at h
        cases h
        exact ⟨rest, hdigits, hsize, rfl⟩
      · rw [if_neg hsize] at h
        exact absurd h (by simp)
  -- blanks and digits, then the blanks and comments behind them
  have hread := (persists_dropBlanks s).trans
    (persists_readCountDigits (Nat.le_succ _) hdigits)
    (R := fun s r => readCountDigits verbose ((s.dropWhile isBlank).length + 1) none
      (s.dropWhile isBlank) = (some n, r))
    (fun s' r' q' _ hdrop hread => hdrop ▸ hread _ (Nat.le_succ _))
  have hend := (persists_dropBlanks rest).trans (persists_skip verbose _)
    (R := fun s r => skip verbose (s.dropWhile isBlank) = r)
    (fun s' r' q' _ hdrop hskip => hdrop ▸ hskip)
  rw [hskip] at hend
  refine hread.trans hend ?_
  intro s' r' q' _ hdigits' hskip'
  rw [readCount]
  simp only [hdigits', if_pos hsize, hskip']

/-- The end of a repetition: its counts and whether it is greedy. -/
def countsBehind (least : Nat) (most : Option Nat) (s : List Char) :
    Except Error (Counts × List Char) :=
  .ok (⟨least, most, (readGreed s).1⟩, (readGreed s).2)

theorem persists_countsBehind {loose : Prop} {least : Nat} {most : Option Nat} {c : Counts}
    {s r : List Char} (h : countsBehind least most s = .ok (c, r)) :
    Persists loose (fun s r => countsBehind least most s = .ok (c, r)) s r := by
  rcases question_or_noQuestion s with ⟨s₁, rfl⟩ | hs
  · cases h
    exact Persists.head fun u => rfl
  · rw [countsBehind, readGreed_of_noQuestion hs] at h
    cases h
    refine Persists.refl fun u hu => ?_
    rw [countsBehind, readGreed_of_noQuestion (hs.append (noQuestion_closes hu))]

/-- Behind the closing brace blanks may stand in front of the question mark that makes a repetition
    lazy. -/
theorem trails_closeCounts {verbose : Bool} {least : Nat} {most : Option Nat} {c : Counts}
    {s r : List Char} (h : closeCounts verbose least most s = .ok (c, r)) :
    Trails verbose (closeCounts verbose least most) (countsBehind least most) s := by
  unfold closeCounts at h
  split at h
  case h_1 s =>
    by_cases horder : most.all (least ≤ ·) = true
    · refine ⟨s, Nat.le_succ _, fun u _ => ?_⟩
      rw [List.cons_append, closeCounts]
      exact if_pos horder
    · dsimp only at h
      rw [if_neg horder] at h
      exact absurd h (by simp)
  case h_2 => exact absurd h (by simp)

/-- A count in front of something else is read the same whatever follows. -/
theorem readCount_append {verbose : Bool} {n : Nat} {s r : List Char}
    (h : readCount verbose s = .ok (n, r)) (hr : r ≠ []) {u : List Char} (hu : Closes u) :
    readCount verbose (s ++ u) = .ok (n, r ++ u) :=
  ((persists_readCount h).of_ne_nil hr).all hu

theorem ne_nil_of_closeCounts {verbose : Bool} {least : Nat} {most : Option Nat} {s r : List Char}
    {c : Counts} (h : closeCounts verbose least most s = .ok (c, r)) : s ≠ [] := by
  rintro rfl
  exact absurd h (by simp [closeCounts])

/-- What may stand behind the first count: the closing brace, or a comma and the greatest count. -/
def readMost (verbose : Bool) (least : Nat) : List Char → Except Error (Counts × List Char)
  | ',' :: s =>
    match skip verbose s with
    | '}' :: s => closeCounts verbose least none ('}' :: s)
    | s => do
      let (most, s) ← readCount verbose s
      closeCounts verbose least (some most) s
  | s => closeCounts verbose least (some least) s

theorem readCounts_cons {verbose : Bool} {s s₁ : List Char} {c : Char}
    (hs : skip verbose s = c :: s₁) : readCounts verbose s = (do
      let (least, r) ← readCount verbose (c :: s₁)
      readMost verbose least r) := by
  rw [readCounts, hs]
  rfl

theorem readMost_of_ne {verbose : Bool} {least : Nat} {s : List Char} (h : s.head? ≠ some ',') :
    readMost verbose least s = closeCounts verbose least (some least) s := by
  unfold readMost
  split
  case h_1 => exact absurd rfl h
  case h_2 => rfl

theorem readMost_cons {verbose : Bool} {least : Nat} {s s₁ : List Char} {c : Char}
    (hs : skip verbose s = c :: s₁) (hc : c ≠ '\x7d') : readMost verbose least (',' :: s) = (do
      let (most, r) ← readCount verbose (c :: s₁)
      closeCounts verbose least (some most) r) := by
  rw [readMost, hs]
  split
  case h_1 heq => exact absurd (List.cons.inj heq).1 hc
  case h_2 => rfl

theorem trails_readMost {verbose : Bool} {least : Nat} {c : Counts} {s r : List Char}
    (h : readMost verbose least s = .ok (c, r)) :
    ∃ most, Trails verbose (readMost verbose least) (countsBehind least most) s := by
  cases s with
  | nil => exact absurd h (by simp [readMost, closeCounts])
  | cons d s =>
    by_cases hcomma : d = ','
    · subst hcomma
      cases hs : skip verbose s with
      | nil =>
        rw [readMost, hs] at h
        exact absurd h (by simp [readCount, readCountDigits, bind, Except.bind])
      | cons d s₁ =>
        have hlen := length_lt_of_skip hs
        by_cases hclose : d = '\x7d'
        · -- no greatest count
          subst hclose
          rw [readMost, hs] at h
          refine ⟨none, (trails_closeCounts h).behind (f := id) (Nat.le_succ_of_le hlen) ?_⟩
          intro u hu
          rw [List.cons_append, readMost, skip_append_of_cons hs hu]
          rfl
        · rw [readMost_cons hs hclose, bind_eq_ok] at h
          obtain ⟨⟨most, r₁⟩, hmost, h⟩ := h
          have hcount := (persists_readCount hmost).length_le
          rw [List.length_cons] at hcount
          refine ⟨some most, (trails_closeCounts h).behind (f := id)
            (by rw [List.length_cons]; omega) fun u hu => ?_⟩
          rw [List.cons_append, readMost_cons (skip_append_of_cons hs hu) hclose,
            ← List.cons_append, readCount_append hmost (ne_nil_of_closeCounts h) hu]
          rfl
    · have hhead : ∀ t, (d :: t).head? ≠ some ',' := by
        intro t ht
        exact hcomma (Option.some.inj ht)
      rw [readMost_of_ne (hhead s)] at h
      refine ⟨some least, (trails_closeCounts h).behind (f := id) (Nat.le_refl _) fun u _ => ?_⟩
      exact readMost_of_ne (hhead (s ++ u))

theorem ne_nil_of_readMost {verbose : Bool} {least : Nat} {s r : List Char} {c : Counts}
    (h : readMost verbose least s = .ok (c, r)) : s ≠ [] := by
  rintro rfl
  exact absurd h (by simp [readMost, closeCounts])

theorem trails_readCounts {verbose : Bool} {c : Counts} {s r : List Char}
    (h : readCounts verbose s = .ok (c, r)) :
    ∃ least most, Trails verbose (readCounts verbose) (countsBehind least most) s := by
  cases hs : skip verbose s with
  | nil =>
    rw [readCounts, hs] at h
    exact absurd h (by simp [throw, throwThe, MonadExceptOf.throw])
  | cons d s₁ =>
    have hlen := length_lt_of_skip hs
    rw [readCounts_cons hs, bind_eq_ok] at h
    obtain ⟨⟨least, r₁⟩, hleast, h⟩ := h
    -- something stands behind the first count, so it is read the same whatever follows
    obtain ⟨most, htrails⟩ := trails_readMost h
    have hcount := (persists_readCount hleast).length_le
    rw [List.length_cons] at hcount
    refine ⟨least, most, htrails.behind (f := id) (by omega) fun u hu => ?_⟩
    rw [readCounts_cons (skip_append_of_cons hs hu), ← List.cons_append,
      readCount_append hleast (ne_nil_of_readMost h) hu]
    rfl

theorem absorbs_readCounts {verbose : Bool} {c : Counts} {s r : List Char}
    (h : readCounts verbose s = .ok (c, r)) :
    Persists (Absorbs (readCounts verbose) s) (fun s r => readCounts verbose s = .ok (c, r))
      s r := by
  obtain ⟨least, most, htrails⟩ := trails_readCounts h
  exact htrails.persists (fun x => persists_countsBehind) h

end Waymark.Regex.Parse
