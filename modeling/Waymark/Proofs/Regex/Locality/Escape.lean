/-
  Waymark.Proofs.Regex.Locality.Escape

  Reading a part of an expression does not depend on what is behind it, as long as that begins with
  a closing parenthesis.  There is one exception: a part that passes over comments may end in one,
  and the parenthesis then belongs to the comment, as another one behind it would.  `Persists`
  holds both outcomes, and every reader has it; `Trails` says where the exception comes from, which
  is blanks behind the last character that counts.

  Main statement: `absorbs_readEscape`.
-/

import Waymark.Proofs.Regex.Fragment

namespace Waymark.Regex.Parse

/-! ## Persistence -/

/-- What may stand behind a part: nothing, or what begins with a closing parenthesis. -/
def Closes (u : List Char) : Prop := u = [] ∨ ∃ t, u = ')' :: t

theorem closes_nil : Closes [] := Or.inl rfl

theorem closes_cons (t : List Char) : Closes (')' :: t) := Or.inr ⟨t, rfl⟩

/-- What holds of a text and the rest of it holds as well when a closing parenthesis follows; or, if
    that is allowed for, the text ends in a comment, which takes the parenthesis in. -/
def Persists (loose : Prop) (P : List Char → List Char → Prop) (s r : List Char) : Prop :=
  r.length ≤ s.length ∧
    ((∀ u, Closes u → P (s ++ u) (r ++ u)) ∨ (loose ∧ r = [] ∧ P s [] ∧ P (s ++ [')']) []))

namespace Persists

variable {loose : Prop} {P Q R : List Char → List Char → Prop} {s r q : List Char}

theorem length_le (h : Persists loose P s r) : r.length ≤ s.length := h.1

theorem self (h : Persists loose P s r) : P s r := by
  rcases h.2 with hall | ⟨-, rfl, hself, -⟩
  · have hnil := hall [] closes_nil
    rw [List.append_nil, List.append_nil] at hnil
    exact hnil
  · exact hself

/-- Nothing is read. -/
theorem refl (h : ∀ u, Closes u → P (s ++ u) (s ++ u)) : Persists loose P s s :=
  ⟨Nat.le_refl _, Or.inl h⟩

theorem of_all (hlen : r.length ≤ s.length) (h : ∀ u, Closes u → P (s ++ u) (r ++ u)) :
    Persists loose P s r := ⟨hlen, Or.inl h⟩

/-- A single character is read. -/
theorem head {c : Char} (h : ∀ u, P (c :: u) u) : Persists loose P (c :: s) s :=
  ⟨Nat.le_succ _, Or.inl fun u _ => h (s ++ u)⟩

/-- Where something is left, the text does not end in a comment. -/
theorem of_cons {c : Char} (h : Persists loose P s (c :: r)) {u : List Char} (hu : Closes u) :
    P (s ++ u) (c :: (r ++ u)) := by
  rcases h.2 with h | ⟨-, hnil, -⟩
  · exact h u hu
  · exact absurd hnil (List.cons_ne_nil c r)

/-- The same where something is left. -/
theorem of_ne_nil {loose' : Prop} (h : Persists loose' P s r) (hr : r ≠ []) :
    Persists loose P s r := by
  rcases h.2 with hall | ⟨-, hnil, -⟩
  · exact ⟨h.1, Or.inl hall⟩
  · exact absurd hnil hr

/-- Where the text does not end in a comment, what follows does not matter. -/
theorem all (h : Persists False P s r) {u : List Char} (hu : Closes u) : P (s ++ u) (r ++ u) := by
  rcases h.2 with hall | ⟨hfalse, -⟩
  · exact hall u hu
  · exact absurd hfalse not_false

/-- The exception says less. -/
theorem weaken {loose' : Prop} (h : Persists loose P s r) (hloose : loose → loose') :
    Persists loose' P s r := by
  refine ⟨h.1, ?_⟩
  rcases h.2 with hall | ⟨hl, hrest⟩
  · exact Or.inl hall
  · exact Or.inr ⟨hloose hl, hrest⟩

theorem imp (h : Persists loose P s r) (hPQ : ∀ s' r', P s' r' → Q s' r') :
    Persists loose Q s r := by
  refine ⟨h.1, ?_⟩
  rcases h.2 with hall | ⟨hloose, hnil, hself, hclose⟩
  · exact Or.inl fun u hu => hPQ _ _ (hall u hu)
  · exact Or.inr ⟨hloose, hnil, hPQ _ _ hself, hPQ _ _ hclose⟩

/-- The same where the first character is known. -/
theorem imp_cons {c : Char} (h : Persists loose P (c :: s) r)
    (hPQ : ∀ s' r', P (c :: s') r' → Q (c :: s') r') : Persists loose Q (c :: s) r := by
  refine ⟨h.1, ?_⟩
  rcases h.2 with hall | ⟨hloose, hnil, hself, hclose⟩
  · exact Or.inl fun u hu => hPQ _ _ (hall u hu)
  · exact Or.inr ⟨hloose, hnil, hPQ _ _ hself, hPQ _ _ hclose⟩

/-- What holds of the text whatever follows. -/
theorem and {S : List Char → Prop} (h : Persists loose P s r) (hS : ∀ u, Closes u → S (s ++ u)) :
    Persists loose (fun s r => S s ∧ P s r) s r := by
  refine ⟨h.1, ?_⟩
  rcases h.2 with hall | ⟨hloose, hnil, hself, hclose⟩
  · exact Or.inl fun u hu => ⟨hS u hu, hall u hu⟩
  · refine Or.inr ⟨hloose, hnil, ⟨?_, hself⟩, hS [')'] (closes_cons []), hclose⟩
    have hS' := hS [] closes_nil
    rw [List.append_nil] at hS'
    exact hS'

/-- A character is read in front. -/
theorem cons (c : Char) (h : Persists loose P s r) (hPQ : ∀ s' r', P s' r' → Q (c :: s') r') :
    Persists loose Q (c :: s) r := by
  refine ⟨Nat.le_trans h.1 (Nat.le_succ _), ?_⟩
  rcases h.2 with hall | ⟨hloose, hnil, hself, hclose⟩
  · exact Or.inl fun u hu => hPQ _ _ (hall u hu)
  · exact Or.inr ⟨hloose, hnil, hPQ _ _ hself, hPQ _ _ hclose⟩

/-- One part is read behind another. -/
theorem trans (hP : Persists loose P s r) (hQ : Persists loose Q r q)
    (h : ∀ s' r' q', r'.length ≤ s'.length → P s' r' → Q r' q' → R s' q') :
    Persists loose R s q := by
  refine ⟨Nat.le_trans hQ.1 hP.1, ?_⟩
  have hlen : ∀ u : List Char, (r ++ u).length ≤ (s ++ u).length := by
    intro u
    rw [List.length_append, List.length_append]
    exact Nat.add_le_add_right hP.1 _
  rcases hP.2 with hall | ⟨hloose, rfl, hself, hclose⟩
  · rcases hQ.2 with hall' | ⟨hloose, hnil, hself', hclose'⟩
    · exact Or.inl fun u hu => h _ _ _ (hlen u) (hall u hu) (hall' u hu)
    · -- only the second part ends in a comment
      have hfirst := hall [] closes_nil
      rw [List.append_nil, List.append_nil] at hfirst
      exact Or.inr ⟨hloose, hnil, h _ _ _ hP.1 hfirst hself',
        h _ _ _ (hlen _) (hall [')'] (closes_cons [])) hclose'⟩
  · -- nothing is left for the second part, so it took nothing
    have hnil : q = [] := List.eq_nil_of_length_eq_zero (Nat.le_zero.1 hQ.1)
    have hsecond := hQ.self
    rw [hnil] at hsecond
    exact Or.inr ⟨hloose, hnil, h _ _ _ (Nat.zero_le _) hself hsecond,
      h _ _ _ (Nat.zero_le _) hclose hsecond⟩

theorem comp (hP : Persists loose P s r) (hQ : Persists loose Q r q) :
    Persists loose (fun s q => ∃ r, P s r ∧ Q r q) s q :=
  hP.trans hQ fun _ r' _ _ hP' hQ' => ⟨r', hP', hQ'⟩

end Persists

/-! ## Blanks -/

theorem skipVerbose_closes {u : List Char} (hu : Closes u) : skipVerbose false u = u := by
  rcases hu with rfl | ⟨t, rfl⟩
  · rfl
  · rfl

/-- A second closing parenthesis behind the text makes no difference, as the first one does not
    end what is being read. -/
def Absorbs {β : Type} (F : List Char → β) (s : List Char) : Prop :=
  ∀ t, F (s ++ ')' :: ')' :: t) = F (s ++ ')' :: t)

/-- A reader that makes use of another one behind a part of the text. -/
theorem Absorbs.behind {β γ : Type} {F : List Char → β} {G : List Char → γ} {f : β → γ}
    {s r : List Char} (h : Absorbs F r) (hG : ∀ u, Closes u → G (s ++ u) = f (F (r ++ u))) :
    Absorbs G s := fun t => by
  rw [hG _ (closes_cons _), hG _ (closes_cons t), h t]

theorem absorbs_skipVerbose (s : List Char) : ∀ inComment,
    Persists (Absorbs (skipVerbose inComment) s) (fun s r => skipVerbose inComment s = r) s
      (skipVerbose inComment s) := by
  induction s with
  | nil =>
    intro inComment
    cases inComment with
    | false => exact Persists.refl fun u hu => skipVerbose_closes hu
    -- a comment goes on past the end of the text
    | true => exact ⟨Nat.le_refl _, Or.inr ⟨fun t => rfl, rfl, rfl, rfl⟩⟩
  | cons c s ih =>
    -- the readings of `c :: s` in one state and of `s` in the next are the same
    have hcons : ∀ {before : Bool} (next : Bool),
        (∀ t, skipVerbose before (c :: t) = skipVerbose next t) →
        Persists (Absorbs (skipVerbose before) (c :: s)) (fun s r => skipVerbose before s = r)
          (c :: s) (skipVerbose before (c :: s)) := by
      intro before next hstep
      rw [hstep]
      refine ((ih next).weaken fun h => ?_).cons c fun s' r' h => (hstep s').trans h
      exact h.behind (f := id) fun u _ => hstep (s ++ u)
    intro inComment
    cases inComment with
    | true => exact hcons (c != '\n') fun t => by rw [skipVerbose]
    | false =>
      by_cases hblank : isBlank c = true
      · exact hcons false fun t => by rw [skipVerbose, if_pos hblank]
      · by_cases hhash : c = '#'
        · exact hcons true fun t => by rw [skipVerbose, if_neg hblank, if_pos hhash]
        · have hskip : ∀ t, skipVerbose false (c :: t) = c :: t := by
            intro t
            rw [skipVerbose, if_neg hblank, if_neg hhash]
          rw [hskip]
          exact Persists.refl fun u _ => hskip (s ++ u)

theorem absorbs_skip (verbose : Bool) (s : List Char) :
    Persists (Absorbs (skip verbose) s) (fun s r => skip verbose s = r) s (skip verbose s) := by
  cases verbose with
  | false => exact Persists.refl fun u _ => rfl
  | true => exact absorbs_skipVerbose s false

theorem persists_skip (verbose : Bool) (s : List Char) :
    Persists True (fun s r => skip verbose s = r) s (skip verbose s) :=
  (absorbs_skip verbose s).weaken fun _ => trivial

/-- What counts behind blanks is found there whatever follows. -/
theorem skip_append_of_cons {verbose : Bool} {s r u : List Char} {c : Char}
    (h : skip verbose s = c :: r) (hu : Closes u) : skip verbose (s ++ u) = c :: (r ++ u) := by
  have hs := persists_skip verbose s
  rw [h] at hs
  exact hs.of_cons hu

theorem length_lt_of_skip {verbose : Bool} {s r : List Char} {c : Char}
    (h : skip verbose s = c :: r) : r.length < s.length := by
  have hs := (persists_skip verbose s).length_le
  rw [h] at hs
  exact hs

/-- A part is read behind blanks. -/
theorem Persists.at_skip {loose : Prop} {P Q : List Char → List Char → Prop} {verbose : Bool}
    {s s₁ r : List Char} {c : Char} (hs : skip verbose s = c :: s₁)
    (h : Persists loose P (c :: s₁) r)
    (hPQ : ∀ s' s₁' r', skip verbose s' = c :: s₁' → s₁'.length < s'.length →
      P (c :: s₁') r' → Q s' r') : Persists loose Q s r := by
  refine ⟨Nat.le_trans h.1 (length_lt_of_skip hs), ?_⟩
  rcases h.2 with hall | ⟨hloose, hnil, hself, hclose⟩
  · refine Or.inl fun u hu => ?_
    have hu' := skip_append_of_cons hs hu
    exact hPQ _ _ _ hu' (length_lt_of_skip hu') (hall u hu)
  · have hu' := skip_append_of_cons hs (closes_cons [])
    exact Or.inr ⟨hloose, hnil, hPQ _ _ _ hs (length_lt_of_skip hs) hself,
      hPQ _ _ _ hu' (length_lt_of_skip hu') hclose⟩

/-- A part is read behind blanks and a first character. -/
theorem Persists.behind_skip {loose : Prop} {P Q : List Char → List Char → Prop} {verbose : Bool}
    {s s₁ r : List Char} {c : Char} (hs : skip verbose s = c :: s₁) (h : Persists loose P s₁ r)
    (hPQ : ∀ s' s₁' r', skip verbose s' = c :: s₁' → s₁'.length < s'.length → P s₁' r' →
      Q s' r') : Persists loose Q s r :=
  Persists.at_skip hs (h.cons c (Q := fun s' r' => P s'.tail r') fun _ _ h' => h') hPQ

theorem dropWhile_isBlank_append {u : List Char} (hu : Closes u) (s : List Char) :
    (s ++ u).dropWhile isBlank = s.dropWhile isBlank ++ u := by
  induction s with
  | nil =>
    rcases hu with rfl | ⟨t, rfl⟩
    · rfl
    · rfl
  | cons c s ih =>
    rw [List.cons_append, List.dropWhile_cons, List.dropWhile_cons, ih]
    by_cases hc : isBlank c = true
    · rw [if_pos hc, if_pos hc]
    · rw [if_neg hc, if_neg hc, List.cons_append]

/-! ## Trailing blanks -/

/-- What a reader makes of a text is `g` of what counts behind a last part of it, which it passes
    over blanks in. -/
def Trails {β : Type} (verbose : Bool) (F g : List Char → β) (s : List Char) : Prop :=
  ∃ q, q.length ≤ s.length ∧ ∀ u, Closes u → F (s ++ u) = g (skip verbose (q ++ u))

/-- A reader that makes use of another one behind a part of the text. -/
theorem Trails.behind {β γ : Type} {verbose : Bool} {F g : List Char → β} {G : List Char → γ}
    {f : β → γ} {s r : List Char} (h : Trails verbose F g r) (hlen : r.length ≤ s.length)
    (hG : ∀ u, Closes u → G (s ++ u) = f (F (r ++ u))) :
    Trails verbose G (fun x => f (g x)) s := by
  obtain ⟨q, hq, hall⟩ := h
  refine ⟨q, Nat.le_trans hq hlen, fun u hu => ?_⟩
  rw [hG u hu, hall u hu]

/-- Trailing blanks persist, or the text ends in a comment, and one parenthesis more is part of it.
    -/
theorem Trails.persists {α : Type} {verbose : Bool} {F g : List Char → Except Error (α × List Char)}
    {a : α} {s r : List Char} (h : Trails verbose F g s)
    (hg : ∀ x, g x = .ok (a, r) → Persists False (fun x r => g x = .ok (a, r)) x r)
    (hF : F s = .ok (a, r)) : Persists (Absorbs F s) (fun s r => F s = .ok (a, r)) s r := by
  obtain ⟨q, hq, hall⟩ := h
  have hself := hall [] closes_nil
  rw [List.append_nil, List.append_nil, hF] at hself
  have hlocal := hg _ hself.symm
  have hskip := absorbs_skip verbose q
  refine ⟨Nat.le_trans hlocal.length_le (Nat.le_trans hskip.length_le hq), ?_⟩
  -- the last part persists, or a comment runs to the end and nothing is left behind it
  rcases hskip.2 with hall' | ⟨habsorbs, hnil, -, hclose⟩
  · left
    intro u hu
    rw [hall u hu, hall' u hu]
    exact hlocal.all hu
  · have hr : r = [] := by
      have hlen := hlocal.length_le
      rw [hnil] at hlen
      exact List.eq_nil_of_length_eq_zero (Nat.le_zero.1 hlen)
    rw [hnil, hr] at hself
    refine Or.inr ⟨fun t => ?_, hr, hr ▸ hF, ?_⟩
    · rw [hall _ (closes_cons _), hall _ (closes_cons t), habsorbs t]
    · show F (s ++ [')']) = .ok (a, [])
      rw [hall _ (closes_cons []), hclose, hself]

/-- Nothing is read behind trailing blanks. -/
theorem Trails.persists_rest {α : Type} {verbose : Bool}
    {F : List Char → Except Error (α × List Char)} {a : α} {s r : List Char}
    (h : Trails verbose F (fun x => .ok (a, x)) s) (hF : F s = .ok (a, r)) :
    Persists (Absorbs F s) (fun s r => F s = .ok (a, r)) s r := by
  refine h.persists (fun x hx => ?_) hF
  cases hx
  exact Persists.refl fun _ _ => rfl

/-! ## Numbers -/

theorem trails_readHexDigits {verbose : Bool} {count acc n : Nat} {s r : List Char}
    (h : readHexDigits verbose (count + 1) acc s = .ok (n, r)) :
    Trails verbose (readHexDigits verbose (count + 1) acc) (fun x => .ok (n, x)) s := by
  induction count generalizing acc s with
  | zero =>
    cases s with
    | nil => exact absurd h (by simp [readHexDigits])
    | cons c s =>
      rw [readHexDigits] at h
      cases hd : hexDigit? c with
      | none =>
        simp only [hd] at h
        exact absurd h (by simp)
      | some d =>
        simp only [hd, readHexDigits] at h
        cases h
        refine ⟨s, Nat.le_succ _, fun u _ => ?_⟩
        simp only [List.cons_append, readHexDigits, hd]
  | succ count ih =>
    cases s with
    | nil => exact absurd h (by simp [readHexDigits])
    | cons c s =>
      rw [readHexDigits] at h
      cases hd : hexDigit? c with
      | none =>
        simp only [hd] at h
        exact absurd h (by simp)
      | some d =>
        simp only [hd] at h
        -- the blanks in front of the next digit end inside the text
        cases hs : skip verbose s with
        | nil =>
          rw [hs] at h
          exact absurd h (by simp [readHexDigits])
        | cons c' s' =>
          rw [hs] at h
          have hlen := length_lt_of_skip hs
          refine (ih h).behind (f := id) (by simp only [List.length_cons]; omega) fun u hu => ?_
          rw [List.cons_append, readHexDigits, hd]
          simp only [skip_append_of_cons hs hu, List.cons_append, id]

/-- Braces are closed inside the text; only blanks behind them can run into what follows. -/
theorem trails_readHexBraces {verbose : Bool} {fuel : Nat} {acc : Option Nat} {n : Nat}
    {s r : List Char} (h : readHexBraces verbose fuel acc s = .ok (n, r)) :
    ∃ q, q.length ≤ s.length ∧ ∀ u, Closes u → ∀ fuel', (s ++ u).length < fuel' →
      readHexBraces verbose fuel' acc (s ++ u) = .ok (n, skip verbose (q ++ u)) := by
  induction fuel generalizing acc s with
  | zero =>
    rw [readHexBraces] at h
    exact absurd h (by simp)
  | succ fuel ih =>
    rw [readHexBraces] at h
    cases hs : skip verbose s with
    | nil =>
      rw [hs] at h
      exact absurd h (by simp)
    | cons c s₁ =>
      have hlen := length_lt_of_skip hs
      simp only [hs] at h
      by_cases hclose : c = '}'
      · -- what stands behind the brace is the part that may be blanks
        rw [if_pos hclose] at h
        cases acc with
        | none => exact absurd h (by simp)
        | some m =>
          cases h
          refine ⟨s₁, Nat.le_of_lt hlen, fun u hu fuel' hfuel' => ?_⟩
          cases fuel' with
          | zero => exact absurd hfuel' (Nat.not_lt_zero _)
          | succ fuel' =>
            rw [readHexBraces]
            simp only [skip_append_of_cons hs hu, if_pos hclose]
      · rw [if_neg hclose] at h
        cases hd : hexDigit? c with
        | none =>
          simp only [hd] at h
          exact absurd h (by simp)
        | some d =>
          simp only [hd] at h
          obtain ⟨q, hq, hall⟩ := ih h
          refine ⟨q, Nat.le_trans hq (Nat.le_of_lt hlen), fun u hu fuel' hfuel' => ?_⟩
          have hlen' := length_lt_of_skip (skip_append_of_cons hs hu)
          cases fuel' with
          | zero => exact absurd hfuel' (Nat.not_lt_zero _)
          | succ fuel' =>
            rw [readHexBraces]
            simp only [skip_append_of_cons hs hu, if_neg hclose, hd]
            exact hall u hu fuel' (by omega)

theorem trails_readHex {verbose : Bool} {count : Nat} {l : Literal} {s r : List Char}
    (h : readHex verbose (count + 1) s = .ok (l, r)) :
    Trails verbose (readHex verbose (count + 1)) (fun x => .ok (l, x)) s := by
  rw [readHex] at h
  cases hs : skip verbose s with
  | nil =>
    rw [hs] at h
    exact absurd h (by simp)
  | cons c s₁ =>
    have hlen := length_lt_of_skip hs
    simp only [hs] at h
    -- as many digits as there are up to the brace, or as many as the letter in front asks for
    by_cases hbrace : c = '\x7b'
    · rw [if_pos hbrace, bind_eq_ok] at h
      obtain ⟨⟨n, r₁⟩, hn, h⟩ := h
      obtain ⟨d, hd, h⟩ := bind_eq_ok.1 h
      cases h
      obtain ⟨q, hq, hall⟩ := trails_readHexBraces hn
      refine ⟨q, Nat.le_trans hq (Nat.le_of_lt hlen), fun u hu => ?_⟩
      rw [readHex]
      simp only [skip_append_of_cons hs hu, if_pos hbrace, hall u hu _ (Nat.lt_succ_self _), hd,
        bind, Except.bind]
      rfl
    · rw [if_neg hbrace, bind_eq_ok] at h
      obtain ⟨⟨n, r₁⟩, hn, h⟩ := h
      obtain ⟨d, hd, h⟩ := bind_eq_ok.1 h
      cases h
      obtain ⟨q, hq, hall⟩ := trails_readHexDigits hn
      rw [List.length_cons] at hq
      refine ⟨q, Nat.le_trans hq hlen, fun u hu => ?_⟩
      have hdigits := hall u hu
      rw [List.cons_append] at hdigits
      rw [readHex]
      simp only [skip_append_of_cons hs hu, if_neg hbrace, hdigits, hd, bind, Except.bind]
      rfl

/-! ## Properties -/

theorem persists_readBraced {loose : Prop} {verbose : Bool} {fuel : Nat} {name s r : List Char}
    (h : readBraced verbose fuel s = .ok (name, r)) :
    Persists loose (fun s r => ∀ fuel', s.length < fuel' →
      readBraced verbose fuel' s = .ok (name, r)) s r := by
  -- every step takes a character, so any fuel beyond the length of the text is enough
  induction fuel generalizing name s with
  | zero =>
    rw [readBraced] at h
    exact absurd h (by simp)
  | succ fuel ih =>
    rw [readBraced] at h
    cases hs : skip verbose s with
    | nil =>
      rw [hs] at h
      exact absurd h (by simp)
    | cons c s₁ =>
      simp only [hs] at h
      by_cases hclose : c = '}'
      · rw [if_pos hclose] at h
        cases h
        have hrefl : Persists loose (fun s r => s = r) r r := Persists.refl fun _ _ => rfl
        refine Persists.behind_skip hs hrefl ?_
        intro s' s₁' r' hs' _ heq fuel' hfuel'
        cases fuel' with
        | zero => exact absurd hfuel' (Nat.not_lt_zero _)
        | succ fuel' =>
          rw [readBraced]
          simp only [hs', if_pos hclose, heq]
      · rw [if_neg hclose, bind_eq_ok] at h
        obtain ⟨⟨name₁, r₁⟩, hn, h⟩ := h
        cases h
        refine Persists.behind_skip hs (ih hn) ?_
        intro s' s₁' r' hs' hlen hread fuel' hfuel'
        cases fuel' with
        | zero => exact absurd hfuel' (Nat.not_lt_zero _)
        | succ fuel' =>
          rw [readBraced]
          simp only [hs', if_neg hclose, hread fuel' (by omega), bind, Except.bind]
          rfl

theorem persists_readProperty {verbose : Bool} {q : PropertyQuery} {s r : List Char}
    (h : readProperty verbose s = .ok (q, r)) :
    Persists (Absorbs (readProperty verbose) s) (fun s r => readProperty verbose s = .ok (q, r))
      s r := by
  have hread := h
  rw [readProperty] at h
  cases hs : skip verbose s with
  | nil =>
    rw [hs] at h
    exact absurd h (by simp)
  | cons c s₁ =>
    simp only [hs] at h
    by_cases hbrace : c = '\x7b'
    · -- the closing brace ends it
      rw [if_pos hbrace, bind_eq_ok] at h
      obtain ⟨⟨name, r₁⟩, hn, h⟩ := h
      cases h
      refine Persists.behind_skip hs (persists_readBraced hn) ?_
      intro s' s₁' r' hs' _ hread
      rw [readProperty]
      simp only [hs', if_pos hbrace, hread _ (Nat.lt_succ_self _), bind, Except.bind]
      rfl
    · rw [if_neg hbrace] at h
      by_cases hslash : c = '\\'
      · rw [if_pos hslash] at h
        exact absurd h (by simp)
      · rw [if_neg hslash] at h
        cases h
        have htrails : Trails verbose (readProperty verbose)
            (fun x => .ok (.named (String.singleton c), x)) s := by
          refine ⟨s₁, Nat.le_of_lt (length_lt_of_skip hs), fun u hu => ?_⟩
          rw [readProperty]
          simp only [skip_append_of_cons hs hu, if_neg hbrace, if_neg hslash]
        exact htrails.persists_rest hread

/-! ## Word boundaries -/

theorem readBoundaryName_closes {verbose : Bool} {fuel : Nat} {u : List Char} (hu : Closes u)
    (hfuel : u.length ≤ fuel) : readBoundaryName verbose fuel u = ([], u) := by
  rcases hu with rfl | ⟨t, rfl⟩
  · cases fuel <;> rfl
  · cases fuel with
    | zero => exact absurd hfuel (Nat.not_succ_le_zero _)
    | succ fuel => rw [readBoundaryName, if_neg (by decide)]

theorem persists_readBoundaryName {verbose : Bool} {fuel : Nat} {name s r : List Char}
    (hfuel : s.length ≤ fuel) (h : readBoundaryName verbose fuel s = (name, r)) :
    Persists True (fun s r => ∀ fuel', s.length ≤ fuel' →
      readBoundaryName verbose fuel' s = (name, r)) s r := by
  induction fuel generalizing name s with
  | zero =>
    -- without fuel there is no text either
    have hnil : s = [] := List.eq_nil_of_length_eq_zero (Nat.le_zero.1 hfuel)
    subst hnil
    cases h
    exact Persists.refl fun u hu fuel' hfuel' => readBoundaryName_closes hu hfuel'
  | succ fuel ih =>
    cases s with
    | nil =>
      cases h
      exact Persists.refl fun u hu fuel' hfuel' => readBoundaryName_closes hu hfuel'
    | cons c s =>
      rw [List.length_cons] at hfuel
      have hlen := (persists_skip verbose s).length_le
      by_cases hc : isBoundaryChar c = true
      · rw [readBoundaryName, if_pos hc] at h
        obtain ⟨name₁, hname⟩ : ∃ name₁, readBoundaryName verbose fuel (skip verbose s)
            = (name₁, r) := by
          cases h
          exact ⟨_, rfl⟩
        rw [hname] at h
        cases h
        -- blanks behind the character, then the rest, with any fuel that is enough
        have hread := (persists_skip verbose s).trans (ih (by omega) hname)
          (R := fun s r => ∀ fuel', s.length ≤ fuel' →
            readBoundaryName verbose fuel' (skip verbose s) = (name₁, r))
          (fun s' r' q' hlen' hskip hread fuel' hfuel' => hskip ▸ hread fuel' (by omega))
        refine hread.cons c ?_
        intro s' r' h' fuel' hfuel'
        rw [List.length_cons] at hfuel'
        cases fuel' with
        | zero => exact absurd hfuel' (Nat.not_succ_le_zero _)
        | succ fuel' => rw [readBoundaryName, if_pos hc, h' fuel' (by omega)]
      · rw [readBoundaryName, if_neg hc] at h
        cases h
        refine Persists.refl fun u _ fuel' hfuel' => ?_
        cases fuel' with
        | zero => exact absurd hfuel' (Nat.not_succ_le_zero _)
        | succ fuel' => rw [List.cons_append, readBoundaryName, if_neg hc]

/-- Without a brace that opens a name, `\b` stands alone. -/
theorem readBoundary_of_ne {verbose : Bool} {s : List Char} (h : ∀ r, s ≠ '\x7b' :: r) :
    readBoundary verbose s = .ok (.wordBoundary, s) := by
  unfold readBoundary
  split
  case h_1 r => exact absurd rfl (h r)
  case h_2 => rfl

/-- In braces a name is read that names an assertion. -/
theorem readBoundary_named {verbose : Bool} {a : Assertion} {c : Char} {t t₁ r : List Char}
    (hs : skip verbose t = c :: t₁) (hc : isBoundaryChar c = true)
    (h : readBoundary verbose ('\x7b' :: t) = .ok (a, r)) :
    ∃ name, readBoundaryName verbose (t₁.length + 1) (c :: t₁) = (name, '}' :: r) ∧
      boundaryOf? (String.ofList name) = some a := by
  rw [readBoundary, hs] at h
  dsimp only at h
  rw [if_pos hc] at h
  split at h
  case h_1 name rest hname =>
    cases ha : boundaryOf? (String.ofList name) with
    | none =>
      simp only [ha] at h
      exact absurd h (by simp)
    | some a' =>
      simp only [ha] at h
      cases h
      exact ⟨name, hname, ha⟩
  case h_2 => exact absurd h (by simp)

theorem persists_readBoundary {loose : Prop} {verbose : Bool} {a : Assertion} {s r : List Char}
    (h : readBoundary verbose s = .ok (a, r)) :
    Persists loose (fun s r => readBoundary verbose s = .ok (a, r)) s r := by
  by_cases hbrace : ∃ t, s = '\x7b' :: t
  · obtain ⟨t, rfl⟩ := hbrace
    cases hs : skip verbose t with
    | nil =>
      rw [readBoundary, hs] at h
      exact absurd h (by simp)
    | cons c t₁ =>
      by_cases hc : isBoundaryChar c = true
      · obtain ⟨name, hname, ha⟩ := readBoundary_named hs hc h
        -- a brace is left behind the name, so the name does not end in a comment
        have hread := persists_readBoundaryName (Nat.le_refl (c :: t₁).length) hname
        have hlen := hread.length_le
        have hlen' := length_lt_of_skip hs
        simp only [List.length_cons] at hlen
        refine Persists.of_all (by rw [List.length_cons]; omega) fun u hu => ?_
        have hu' := hread.of_cons hu (t₁ ++ u).length.succ (Nat.le_refl _)
        rw [List.cons_append] at hu'
        rw [List.cons_append, readBoundary]
        simp only [skip_append_of_cons hs hu, if_pos hc]
        rw [hu']
        simp only [ha]
      · -- the braces are left for a repetition
        rw [readBoundary, hs] at h
        dsimp only at h
        rw [if_neg hc] at h
        cases h
        refine Persists.refl fun u hu => ?_
        rw [List.cons_append, readBoundary]
        simp only [skip_append_of_cons hs hu, if_neg hc]
  · have hne : ∀ t, s ≠ '\x7b' :: t := fun t ht => hbrace ⟨t, ht⟩
    rw [readBoundary_of_ne hne] at h
    cases h
    refine Persists.refl fun u hu => readBoundary_of_ne fun t ht => ?_
    cases s with
    | nil =>
      -- what follows is no brace
      rcases hu with rfl | ⟨t', rfl⟩
      · exact absurd ht (by simp)
      · exact absurd ht (by simp)
    | cons d s =>
      rw [List.cons_append, List.cons.injEq] at ht
      exact hne s (by rw [ht.1])

/-! ## Escapes -/

/-- Most escapes are one character long. -/
theorem exists_readEscape {c : Char} (hc : c ∉ ['x', 'u', 'U', 'p', 'P', 'b']) :
    ∃ e : Except Error Part, ∀ verbose s,
      readEscape verbose (c :: s) = e.map fun p => (p, s) := by
  refine ⟨(readEscape false [c]).map Prod.fst, fun verbose s => ?_⟩
  -- signs, then digits, then the letters that stand for a class or a place
  unfold readEscape
  dsimp only
  by_cases hescapable : isEscapable c = true
  · rw [if_pos hescapable, if_pos hescapable]
    rfl
  · by_cases hdigit : c.isDigit = true
    · rw [if_neg hescapable, if_pos hdigit, if_neg hescapable, if_pos hdigit]
      rfl
    · rw [if_neg hescapable, if_neg hdigit, if_neg hescapable, if_neg hdigit]
      split
      case h_1 | h_2 | h_3 | h_4 | h_5 | h_21 => exact absurd hc (by decide)
      all_goals rfl

/-- A reader with its result wrapped. -/
theorem Persists.map {loose : Prop} {α β : Type} {F : List Char → Except Error (α × List Char)}
    {G : List Char → Except Error (β × List Char)} {f : α → β} {b : β} {s r : List Char}
    (hF : ∀ a r, F s = .ok (a, r) → Persists loose (fun s r => F s = .ok (a, r)) s r)
    (hG : ∀ s, G s = (F s).map fun x => (f x.1, x.2)) (h : G s = .ok (b, r)) :
    Persists loose (fun s r => G s = .ok (b, r)) s r := by
  rw [hG] at h
  obtain ⟨⟨a, r₁⟩, ha, h⟩ := map_eq_ok.1 h
  cases h
  refine (hF a r₁ ha).imp fun s' r' h' => ?_
  rw [hG, h']
  rfl

/-- The same behind a letter. -/
theorem Persists.map_cons {loose : Prop} {α β : Type} {F : List Char → Except Error (α × List Char)}
    {G : List Char → Except Error (β × List Char)} {c : Char} {f : α → β} {b : β}
    {s r : List Char}
    (hF : ∀ a r, F s = .ok (a, r) → Persists loose (fun s r => F s = .ok (a, r)) s r)
    (hG : ∀ s, G (c :: s) = (F s).map fun x => (f x.1, x.2)) (h : G (c :: s) = .ok (b, r)) :
    Persists loose (fun s r => G s = .ok (b, r)) (c :: s) r :=
  (Persists.map (G := fun s => G (c :: s)) hF hG h).cons c fun _ _ h' => h'

/-- The same for a reader that may end in a comment. -/
theorem Persists.map_absorbs {α β : Type} {F : List Char → Except Error (α × List Char)}
    {G : List Char → Except Error (β × List Char)} {f : α → β} {b : β} {s r : List Char}
    (hF : ∀ a r, F s = .ok (a, r) → Persists (Absorbs F s) (fun s r => F s = .ok (a, r)) s r)
    (hG : ∀ s, G s = (F s).map fun x => (f x.1, x.2)) (h : G s = .ok (b, r)) :
    Persists (Absorbs G s) (fun s r => G s = .ok (b, r)) s r :=
  (Persists.map hF hG h).weaken fun habsorbs => habsorbs.behind fun u _ => hG (s ++ u)

theorem Persists.map_cons_absorbs {α β : Type} {F : List Char → Except Error (α × List Char)}
    {G : List Char → Except Error (β × List Char)} {c : Char} {f : α → β} {b : β}
    {s r : List Char}
    (hF : ∀ a r, F s = .ok (a, r) → Persists (Absorbs F s) (fun s r => F s = .ok (a, r)) s r)
    (hG : ∀ s, G (c :: s) = (F s).map fun x => (f x.1, x.2)) (h : G (c :: s) = .ok (b, r)) :
    Persists (Absorbs G (c :: s)) (fun s r => G s = .ok (b, r)) (c :: s) r :=
  (Persists.map_cons hF hG h).weaken fun habsorbs => habsorbs.behind fun u _ => hG (s ++ u)

/-- The letters of escapes that may end in blanks. -/
def openEscapes : List Char := ['x', 'u', 'U', 'p', 'P']

/-- Other escapes end where they end. -/
theorem persists_readEscape_of_not_mem {loose : Prop} {verbose : Bool} {p : Part} {c : Char}
    {s r : List Char} (hc : c ∉ openEscapes) (h : readEscape verbose (c :: s) = .ok (p, r)) :
    Persists loose (fun s r => readEscape verbose s = .ok (p, r)) (c :: s) r := by
  by_cases hb : c = 'b'
  · subst hb
    exact Persists.map_cons (fun _ _ => persists_readBoundary) (fun _ => rfl) h
  · have hletters : c ∉ openEscapes ++ ['b'] := by
      rw [List.mem_append, List.mem_singleton]
      exact fun hmem => hmem.elim hc hb
    obtain ⟨e, he⟩ := exists_readEscape hletters
    rw [he] at h
    obtain ⟨p', hp, h⟩ := map_eq_ok.1 h
    cases h
    exact Persists.head fun u => by rw [he, hp]; rfl

/-- An escape that ends in blanks. -/
theorem absorbs_readEscape {verbose : Bool} {p : Part} {s r : List Char}
    (h : readEscape verbose s = .ok (p, r)) :
    Persists (Absorbs (readEscape verbose) s) (fun s r => readEscape verbose s = .ok (p, r))
      s r := by
  cases s with
  | nil => exact absurd h (by simp [readEscape])
  | cons c s =>
    by_cases hc : c ∈ openEscapes
    · have hhex : ∀ count l r, readHex verbose (count + 1) s = .ok (l, r) →
          Persists (Absorbs (readHex verbose (count + 1)) s)
            (fun s r => readHex verbose (count + 1) s = .ok (l, r)) s r :=
        fun _ _ _ h => (trails_readHex h).persists_rest h
      simp only [openEscapes, List.mem_cons, List.not_mem_nil, or_false] at hc
      -- `x`, `u`, `U`, `p` and `P`, in this order
      rcases hc with rfl | rfl | rfl | rfl | rfl
      · exact Persists.map_cons_absorbs (hhex 1) (fun _ => rfl) h
      · exact Persists.map_cons_absorbs (hhex 3) (fun _ => rfl) h
      · exact Persists.map_cons_absorbs (hhex 7) (fun _ => rfl) h
      · exact Persists.map_cons_absorbs (fun _ _ => persists_readProperty) (fun _ => rfl) h
      · exact Persists.map_cons_absorbs (fun _ _ => persists_readProperty) (fun _ => rfl) h
    · exact persists_readEscape_of_not_mem hc h

theorem persists_readEscape {verbose : Bool} {p : Part} {s r : List Char}
    (h : readEscape verbose s = .ok (p, r)) :
    Persists True (fun s r => readEscape verbose s = .ok (p, r)) s r :=
  (absorbs_readEscape h).weaken fun _ => trivial

end Waymark.Regex.Parse
