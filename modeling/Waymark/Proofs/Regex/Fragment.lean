/-
  Waymark.Proofs.Regex.Fragment

  Reading an expression piece by piece.  `Reaches` says that reading one text goes on as reading
  another, so that both succeed or neither does.  `Adds` says what items a piece of text adds to
  the alternative that is being read, `Fills` what a text puts between a parenthesis and the one
  that closes it, provided that all of the text can be read.  They are about every state and every
  text behind, so that the pieces of a larger expression are read one after another.
-/

import Waymark.Regex.Basic

namespace Waymark

/-- One computation behind another succeeds if both do. -/
@[simp] theorem bind_eq_ok {ε α β : Type} {x : Except ε α} {f : α → Except ε β} {b : β} :
    x >>= f = .ok b ↔ ∃ a, x = .ok a ∧ f a = .ok b := by
  cases x with
  | error e => simp [bind, Except.bind]
  | ok a => simp [bind, Except.bind]

@[simp] theorem pure_eq_ok {ε α : Type} {a b : α} : (pure a : Except ε α) = .ok b ↔ a = b :=
  ⟨Except.ok.inj, congrArg Except.ok⟩

theorem exists_of_isOk {ε α : Type} {x : Except ε α} (h : x.isOk = true) : ∃ a, x = .ok a := by
  cases x with
  | error e => exact absurd h Bool.false_ne_true
  | ok a => exact ⟨a, rfl⟩

/-- A result of what a computation returns. -/
theorem exists_of_toOption_bind {ε α β : Type} {x : Except ε α} {f : α → Option β} {b : β}
    (h : x.toOption.bind f = some b) : ∃ a, x = .ok a ∧ f a = some b := by
  cases x with
  | error e => exact absurd h (by simp [Except.toOption])
  | ok a => exact ⟨a, rfl, h⟩

/-- A computation with its result changed succeeds if it does. -/
@[simp] theorem map_eq_ok {ε α β : Type} {x : Except ε α} {f : α → β} {b : β} :
    x.map f = .ok b ↔ ∃ a, x = .ok a ∧ f a = b := by
  cases x with
  | error e => simp [Except.map]
  | ok a => simp [Except.map]

@[simp] theorem fmap_eq_ok {ε α β : Type} {x : Except ε α} {f : α → β} {b : β} :
    f <$> x = .ok b ↔ ∃ a, x = .ok a ∧ f a = b :=
  map_eq_ok

/-- A result behind a check. -/
theorem guard_eq_ok {ε α : Type} {p : Prop} [Decidable p] {e : ε} {a b : α}
    (h : (if p then pure a else throw e : Except ε α) = .ok b) : p ∧ a = b := by
  by_cases hp : p
  · rw [if_pos hp] at h
    exact ⟨hp, Except.ok.inj h⟩
  · rw [if_neg hp] at h
    exact absurd h (by simp [throw, throwThe, MonadExceptOf.throw])

end Waymark

namespace Waymark.Regex.Parse

/-! ## Steps -/

/-- Where nothing is left the expression is finished, however much fuel there is. -/
theorem readFrom_nil (fuel : Nat) (st : State) : readFrom fuel st [] = st.finish := by
  cases fuel with
  | zero => rfl
  | succ fuel =>
    have hskip : skip st.verbose [] = [] := by
      cases st.verbose <;> rfl
    rw [readFrom, hskip]

/-- Reading a text goes on as reading another in another state, whatever comes of it. -/
def Reaches (st : State) (s : List Char) (st' : State) (r : List Char) : Prop :=
  ∀ fuel, s.length < fuel → ∃ fuel', r.length < fuel' ∧ readFrom fuel st s = readFrom fuel' st' r

namespace Reaches

variable {st st₁ st₂ : State} {s r t : List Char}

theorem refl (st : State) (s : List Char) : Reaches st s st s := fun fuel h => ⟨fuel, h, rfl⟩

theorem trans (h : Reaches st s st₁ r) (h₁ : Reaches st₁ r st₂ t) : Reaches st s st₂ t := by
  intro fuel hfuel
  obtain ⟨fuel₁, hfuel₁, heq⟩ := h fuel hfuel
  obtain ⟨fuel₂, hfuel₂, heq₁⟩ := h₁ fuel₁ hfuel₁
  exact ⟨fuel₂, hfuel₂, heq.trans heq₁⟩

/-- One step whose result is known. -/
theorem single {c : Char} (hskip : skip st.verbose (c :: s) = c :: s)
    (hstep : step st c s = .ok (st₁, r)) (hr : r.length ≤ s.length) : Reaches st (c :: s) st₁ r := by
  intro fuel hfuel
  cases fuel with
  | zero => exact absurd hfuel (Nat.not_lt_zero _)
  | succ fuel =>
    rw [List.length_cons] at hfuel
    refine ⟨fuel, by omega, ?_⟩
    rw [readFrom, hskip]
    simp only [hstep]

/-- What comes of reading the one text comes of reading the other. -/
theorem readFrom_eq (h : Reaches st s st₁ r) {fuel : Nat} {ast : Ast} (hfuel : s.length < fuel)
    (hread : readFrom fuel st s = .ok ast) :
    ∃ fuel', r.length < fuel' ∧ readFrom fuel' st₁ r = .ok ast := by
  obtain ⟨fuel', hfuel', heq⟩ := h fuel hfuel
  exact ⟨fuel', hfuel', heq ▸ hread⟩

/-- An expression is read if its end is reached with no group open, and not nested too deep. -/
theorem read_eq (h : Reaches .initial s st []) (hscopes : st.scopes = [])
    (hdepth : st.contents.depth ≤ depthLimit) : read s = .ok st.contents := by
  obtain ⟨fuel, -, heq⟩ := h (s.length + 1) (Nat.lt_succ_self _)
  have hfinish : st.finish = .ok st.contents := by
    rw [State.finish, hscopes]
  rw [read, heq, readFrom_nil, hfinish]
  exact if_pos hdepth

end Reaches

theorem skip_false (s : List Char) : skip false s = s := rfl

theorem skip_of_not_verbose {st : State} (h : st.verbose = false) (s : List Char) :
    skip st.verbose s = s := by
  rw [h, skip_false]

/-- A closing parenthesis counts in either mode. -/
theorem skip_close (verbose : Bool) (s : List Char) : skip verbose (')' :: s) = ')' :: s := by
  cases verbose <;> rfl

/-- A character without a meaning of its own is a literal. -/
theorem step_plain {c : Char} (hc : isMeta c = false) (st : State) (s : List Char) :
    step st c s = .ok (st.push (.literal ⟨c, false⟩), s) := by
  have hne : ∀ d, isMeta d = true → c ≠ d := by
    rintro d hd rfl
    rw [hc] at hd
    exact absurd hd (by decide)
  unfold step
  split
  case h_10 =>
    have hdot := hne '.' (by decide)
    have hcaret := hne '^' (by decide)
    have hdollar := hne '$' (by decide)
    simp [partOf, hdot, hcaret, hdollar, astOf, Part.plain]
  all_goals exact absurd rfl (hne _ (by decide))

/-- An escaped character is a literal. -/
theorem step_escaped {c : Char} (hc : isMeta c = true) (st : State) (s : List Char) :
    step st '\\' (c :: s) = .ok (st.push (.literal ⟨c, false⟩), s) := by
  have he : readEscape st.verbose (c :: s) = .ok (.plain c, s) := by
    simp [readEscape, isEscapable, hc]
  show (readEscape st.verbose (c :: s) >>= fun read => pure (st.push (astOf read.1), read.2)) = _
  rw [he]
  rfl

/-! ## Pieces -/

/-- A state with more items, captures and names. -/
def State.grow (st : State) (items : List Ast) (opened : Nat) (names : List String) : State :=
  { st with items := items.reverse ++ st.items, captures := st.captures + opened, names := names }

/-- Whether no question mark stands first. -/
def NoQuestion (t : List Char) : Prop := t.head? ≠ some '?'

/-- A text adds items to the alternative that is being read and opens that many groups, whatever
    text with the property `behind` follows; the items depend on how many groups were opened
    before. -/
def AddsBefore (behind : List Char → Prop) (text : List Char) (items : Nat → List Ast)
    (opened : Nat) : Prop :=
  NoQuestion text ∧
    ∀ (fuel : Nat) (st : State) (t : List Char) (ast : Ast), st.verbose = false → behind t →
      (text ++ t).length < fuel → readFrom fuel st (text ++ t) = .ok ast →
      ∃ fuel' names, t.length < fuel' ∧
        readFrom fuel' (st.grow (items st.captures) opened names) t = .ok ast

/-- The same for any text that cannot change the meaning of a repetition in front of it. -/
abbrev Adds (text : List Char) (items : Nat → List Ast) (opened : Nat) : Prop :=
  AddsBefore NoQuestion text items opened

/-- A text is read from an opening parenthesis to the one behind the text, which closes it; `body`
    is what stands between, given how many groups were opened before. -/
def Fills (text : List Char) (body : Nat → Ast) (opened : Nat) : Prop :=
  NoQuestion text ∧
    ∀ (fuel : Nat) (st : State) (t : List Char) (ast : Ast), st.verbose = false →
      st.branches = [] → st.items = [] → (text ++ ')' :: t).length < fuel →
      readFrom fuel st (text ++ ')' :: t) = .ok ast →
      ∃ fuel' st', (')' :: t).length < fuel' ∧ st'.scopes = st.scopes ∧
        st'.captures = st.captures + opened ∧ st'.contents = body st.captures ∧
        readFrom fuel' st' (')' :: t) = .ok ast

theorem NoQuestion.append {a b : List Char} (ha : NoQuestion a) (hb : NoQuestion b) :
    NoQuestion (a ++ b) := by
  cases a with
  | nil => exact hb
  | cons d a => exact ha

theorem noQuestion_cons {c : Char} (hc : c ≠ '?') (t : List Char) : NoQuestion (c :: t) := by
  intro h
  rw [List.head?_cons, Option.some.injEq] at h
  exact hc h

theorem NoQuestion.ne {c : Char} {s : List Char} (h : NoQuestion (c :: s)) : c ≠ '?' := by
  rintro rfl
  exact h rfl

/-- Without a question mark behind it, a parenthesis opens a group that captures. -/
theorem readOpening_of_noQuestion {verbose : Bool} {s r : List Char} (hs : skip verbose s = r)
    (hr : NoQuestion r) : readOpening verbose s = .ok (.capture none, r) := by
  rw [readOpening, hs]
  cases r with
  | nil => rfl
  | cons c r => simp [hr.ne]

/-- An escaped text does not begin with a question mark. -/
theorem noQuestion_escape (s : List Char) :
    NoQuestion (s.flatMap fun c => if isMeta c then ['\\', c] else [c]) := by
  cases s with
  | nil => simp [NoQuestion]
  | cons c s =>
    rw [List.flatMap_cons]
    by_cases hc : isMeta c = true
    · rw [if_pos hc]
      exact noQuestion_cons (by decide) _
    · rw [if_neg hc]
      refine noQuestion_cons ?_ _
      rintro rfl
      exact hc (by decide)

/-- One character, escaped if it has a meaning of its own. -/
theorem reaches_literal (c : Char) {st : State} (hv : st.verbose = false) (t : List Char) :
    Reaches st ((if isMeta c then ['\\', c] else [c]) ++ t) (st.push (.literal ⟨c, false⟩)) t := by
  by_cases hc : isMeta c = true
  · rw [if_pos hc]
    refine .single (skip_of_not_verbose hv _) (step_escaped hc st t) ?_
    show t.length ≤ (c :: t).length
    rw [List.length_cons]
    omega
  · rw [if_neg hc]
    rw [Bool.not_eq_true] at hc
    exact .single (skip_of_not_verbose hv _) (step_plain hc st t) (Nat.le_refl _)

/-- An escaped text, one character after another. -/
theorem reaches_escape (s : List Char) {st : State} (hv : st.verbose = false) (t : List Char) :
    Reaches st ((s.flatMap fun c => if isMeta c then ['\\', c] else [c]) ++ t)
      (st.grow (s.map fun c => .literal ⟨c, false⟩) 0 st.names) t := by
  induction s generalizing st with
  | nil => exact .refl st t
  | cons c s ih =>
    rw [List.flatMap_cons, List.append_assoc]
    let st₁ := st.push (.literal ⟨c, false⟩)
    have hrest : Reaches st₁ _ (st₁.grow (s.map fun c => .literal ⟨c, false⟩) 0 st₁.names) t := ih hv
    have hgrow : st₁.grow (s.map fun c => .literal ⟨c, false⟩) 0 st₁.names
        = st.grow ((c :: s).map fun c => .literal ⟨c, false⟩) 0 st.names := by
      simp [st₁, State.grow, State.push]
    rw [hgrow] at hrest
    exact (reaches_literal c hv _).trans hrest

/-- Without a question mark behind it, a repetition is greedy. -/
theorem readGreed_of_noQuestion {s : List Char} (h : NoQuestion s) : readGreed s = (true, s) := by
  cases s with
  | nil => rfl
  | cons c s => simp [readGreed, h.ne]

theorem AddsBefore.toAdds {text : List Char} {items : Nat → List Ast} {n : Nat}
    (h : AddsBefore (fun _ => True) text items n) : Adds text items n :=
  ⟨h.1, fun fuel st t ast hv _ => h.2 fuel st t ast hv trivial⟩

namespace Adds

theorem nil : Adds [] (fun _ => []) 0 := by
  refine ⟨by simp [NoQuestion], ?_⟩
  intro fuel st t ast _ _ hfuel h
  exact ⟨fuel, st.names, hfuel, h⟩

theorem append {a b : List Char} {is js : Nat → List Ast} {m n : Nat} (ha : Adds a is m)
    (hb : Adds b js n) : Adds (a ++ b) (fun k => is k ++ js (k + m)) (m + n) := by
  refine ⟨ha.1.append hb.1, ?_⟩
  intro fuel st t ast hv ht hfuel h
  rw [List.append_assoc] at hfuel h
  obtain ⟨fuel₁, names₁, hfuel₁, h₁⟩ :=
    ha.2 fuel st (b ++ t) ast hv (hb.1.append ht) hfuel h
  obtain ⟨fuel₂, names₂, hfuel₂, h₂⟩ :=
    hb.2 fuel₁ (st.grow (is st.captures) m names₁) t ast hv ht hfuel₁ h₁
  refine ⟨fuel₂, names₂, hfuel₂, ?_⟩
  simpa [State.grow, Nat.add_assoc] using h₂

/-- An escaped text is the sequence of its characters. -/
theorem escape (s : List Char) :
    Adds (s.flatMap fun c => if isMeta c then ['\\', c] else [c])
      (fun _ => s.map fun c => .literal ⟨c, false⟩) 0 := by
  refine ⟨noQuestion_escape s, ?_⟩
  intro fuel st t ast hv _ hfuel h
  obtain ⟨fuel', hfuel', h'⟩ := (reaches_escape s hv t).readFrom_eq hfuel h
  exact ⟨fuel', st.names, hfuel', h'⟩

/-- A piece that is all there is to read. -/
theorem read {text : List Char} {items : Nat → List Ast} {n : Nat} (h : Adds text items n)
    {ast : Ast} (hread : Parse.read text = .ok ast) : ast = Ast.ofItems (items 0) := by
  rw [Parse.read, bind_eq_ok] at hread
  obtain ⟨ast', hread, hdepth⟩ := hread
  obtain ⟨-, rfl⟩ := guard_eq_ok hdepth
  rw [← List.append_nil text] at hread
  obtain ⟨fuel, names, -, hfinish⟩ := h.2 _ .initial [] ast' rfl (by simp [NoQuestion])
    (Nat.lt_succ_self _) hread
  have hcontents : (State.grow .initial (items 0) n names).contents = Ast.ofItems (items 0) := by
    simp [State.contents, State.grow, State.initial, Ast.ofBranches]
  rw [readFrom_nil] at hfinish
  rw [← hcontents]
  exact (Except.ok.inj hfinish).symm

end Adds

/-! ## Groups -/

/-- The state behind an opening parenthesis. -/
def State.inside (st : State) (kind : GroupKind) (captures : Nat) : State :=
  ⟨⟨kind, st.branches, st.items, st.verbose⟩ :: st.scopes, [], [], st.verbose, captures, st.names⟩

/-- Without a question mark behind it, a parenthesis opens a group that captures. -/
theorem reaches_capture {st : State} {s : List Char} (hv : st.verbose = false) (hs : NoQuestion s) :
    Reaches st ('(' :: s) (st.inside (.capture (st.captures + 1)) (st.captures + 1)) s := by
  have hopening : readOpening st.verbose s = .ok (.capture none, s) :=
    readOpening_of_noQuestion (skip_of_not_verbose hv _) hs
  have hstep : step st '(' s
      = .ok (st.inside (.capture (st.captures + 1)) (st.captures + 1), s) := by
    show (readOpening st.verbose s >>= fun read =>
      st.begin read.1 >>= fun begun => pure (begun, read.2)) = _
    rw [hopening]
    rfl
  exact .single (skip_of_not_verbose hv _) hstep (Nat.le_refl _)

/-- Flags and a colon open a group that does not capture. -/
theorem reaches_plain (flagText : List Char) {flags : List (Flag × Bool)}
    (hflags : ∀ s, readOpening false ('?' :: (flagText ++ ':' :: s)) = .ok (.plain flags, s))
    (hverbose : verboseAfter false flags = false) {st : State} {s : List Char}
    (hv : st.verbose = false) :
    Reaches st ('(' :: '?' :: (flagText ++ ':' :: s)) (st.inside (.plain flags) st.captures) s := by
  have hstep : step st '(' ('?' :: (flagText ++ ':' :: s))
      = .ok (st.inside (.plain flags) st.captures, s) := by
    show (readOpening st.verbose ('?' :: (flagText ++ ':' :: s)) >>= fun read =>
      st.begin read.1 >>= fun begun => pure (begun, read.2)) = _
    rw [hv, hflags]
    simp only [State.begin, State.enter, State.inside, bind, Except.bind, pure, Except.pure, hv,
      hverbose]
  exact .single (skip_of_not_verbose hv _) hstep
    (by simp only [List.length_cons, List.length_append]; omega)

/-- A parenthesis closes the innermost group. -/
theorem reaches_close {st st₁ : State} {kind : GroupKind} {k : Nat}
    (h : st₁.scopes = (st.inside kind k).scopes) (t : List Char) :
    Reaches st₁ (')' :: t) { st with items := .group kind st₁.contents :: st.items,
                                     captures := st₁.captures, names := st₁.names } t := by
  have hstep : step st₁ ')' t
      = .ok ({ st with items := .group kind st₁.contents :: st.items,
                       captures := st₁.captures, names := st₁.names }, t) := by
    show (do return (← st₁.leave, t)) = _
    rw [State.leave, h]
    rfl
  exact .single (skip_close _ _) hstep (Nat.le_refl _)

/-- A group that is opened, filled and closed is one item more. -/
theorem Reaches.group {st st₁ : State} {kind : GroupKind} {k : Nat} {s r t : List Char}
    (hopen : Reaches st s (st.inside kind k) r)
    (hbody : Reaches (st.inside kind k) r st₁ (')' :: t))
    (hscopes : st₁.scopes = (st.inside kind k).scopes) :
    Reaches st s { st with items := .group kind st₁.contents :: st.items,
                           captures := st₁.captures, names := st₁.names } t :=
  hopen.trans (hbody.trans (reaches_close hscopes t))

/-- Reads a group from behind its opening parenthesis to behind the closing one. -/
theorem readFrom_inside {text : List Char} {body : Nat → Ast} {n : Nat} (h : Fills text body n)
    {fuel : Nat} {st : State} (kind : GroupKind) (k : Nat) {t : List Char} {ast : Ast}
    (hv : st.verbose = false) (hfuel : (text ++ ')' :: t).length < fuel)
    (hread : readFrom fuel (st.inside kind k) (text ++ ')' :: t) = .ok ast) :
    ∃ fuel' names, t.length < fuel' ∧
      readFrom fuel' { st with items := .group kind (body k) :: st.items, captures := k + n,
                               names := names } t = .ok ast := by
  obtain ⟨fuel₁, st₁, hfuel₁, hscopes, hcaptures, hbody, h₁⟩ :=
    h.2 fuel (st.inside kind k) t ast hv rfl rfl hfuel hread
  obtain ⟨fuel₂, hfuel₂, h₂⟩ := (reaches_close hscopes t).readFrom_eq hfuel₁ h₁
  rw [hbody, hcaptures] at h₂
  exact ⟨fuel₂, st₁.names, hfuel₂, h₂⟩

/-- A group that captures. -/
theorem AddsBefore.capture {text : List Char} {body : Nat → Ast} {n : Nat}
    (h : Fills text body n) :
    AddsBefore (fun _ => True) ('(' :: (text ++ [')']))
      (fun k => [.group (.capture (k + 1)) (body (k + 1))]) (n + 1) := by
  refine ⟨noQuestion_cons (by decide) _, ?_⟩
  intro fuel st t ast hv _ hfuel hread
  simp only [List.cons_append, List.append_assoc, List.nil_append] at hfuel hread
  have hquestion := h.1.append (noQuestion_cons (by decide : ')' ≠ '?') t)
  obtain ⟨fuel₁, hfuel₁, h₁⟩ := (reaches_capture hv hquestion).readFrom_eq hfuel hread
  obtain ⟨fuel₂, names, hfuel₂, h₂⟩ := readFrom_inside h _ _ hv hfuel₁ h₁
  refine ⟨fuel₂, names, hfuel₂, ?_⟩
  rw [State.grow, Nat.add_comm n 1, ← Nat.add_assoc]
  exact h₂

/-- A group that does not capture, with no flags or with Unicode mode off. -/
theorem readFrom_plain (flagText : List Char) (flags : List (Flag × Bool))
    (hflags : ∀ s, readOpening false ('?' :: (flagText ++ ':' :: s)) = .ok (.plain flags, s))
    (hverbose : verboseAfter false flags = false)
    {text : List Char} {body : Nat → Ast} {n : Nat} (h : Fills text body n)
    {fuel : Nat} {st : State} {t : List Char} {ast : Ast} (hv : st.verbose = false)
    (hfuel : ('(' :: '?' :: (flagText ++ ':' :: (text ++ ')' :: t))).length < fuel)
    (hread : readFrom fuel st ('(' :: '?' :: (flagText ++ ':' :: (text ++ ')' :: t))) = .ok ast) :
    ∃ fuel' names, t.length < fuel' ∧
      readFrom fuel' (st.grow [.group (.plain flags) (body st.captures)] n names) t = .ok ast := by
  obtain ⟨fuel₁, hfuel₁, h₁⟩ := (reaches_plain flagText hflags hverbose hv).readFrom_eq hfuel hread
  obtain ⟨fuel₂, names, hfuel₂, h₂⟩ := readFrom_inside h _ _ hv hfuel₁ h₁
  exact ⟨fuel₂, names, hfuel₂, h₂⟩

/-- A group without flags. -/
theorem AddsBefore.plain {text : List Char} {body : Nat → Ast} {n : Nat} (h : Fills text body n) :
    AddsBefore (fun _ => True) ('(' :: '?' :: ':' :: (text ++ [')']))
      (fun k => [.group (.plain []) (body k)]) n := by
  refine ⟨noQuestion_cons (by decide) _, ?_⟩
  intro fuel st t ast hv _ hfuel hread
  simp only [List.cons_append, List.append_assoc, List.nil_append] at hfuel hread
  exact readFrom_plain [] [] (fun _ => rfl) rfl h hv hfuel hread

/-- A group with Unicode mode off. -/
theorem AddsBefore.ascii {text : List Char} {body : Nat → Ast} {n : Nat} (h : Fills text body n) :
    AddsBefore (fun _ => True) ('(' :: '?' :: '-' :: 'u' :: ':' :: (text ++ [')']))
      (fun k => [.group (.plain [(.unicode, false)]) (body k)]) n := by
  refine ⟨noQuestion_cons (by decide) _, ?_⟩
  intro fuel st t ast hv _ hfuel hread
  simp only [List.cons_append, List.append_assoc, List.nil_append] at hfuel hread
  exact readFrom_plain ['-', 'u'] [(.unicode, false)] (fun _ => rfl) rfl h hv hfuel hread

/-- An item that is read in one step. -/
theorem AddsBefore.ofStep {c : Char} {text : List Char} {item : Ast} (hc : c ≠ '?')
    (h : ∀ (st : State) (t : List Char), st.verbose = false →
      step st c (text ++ t) = .ok (st.push item, t)) :
    AddsBefore (fun _ => True) (c :: text) (fun _ => [item]) 0 := by
  refine ⟨noQuestion_cons hc _, ?_⟩
  intro fuel st t ast hv _ hfuel hread
  have hreaches := Reaches.single (skip_of_not_verbose hv _) (h st t hv)
    (by rw [List.length_append]; omega)
  obtain ⟨fuel', hfuel', h'⟩ := hreaches.readFrom_eq hfuel hread
  exact ⟨fuel', st.names, hfuel', h'⟩

/-! ## Repetitions -/

/-- A sign of repetition that stands for certain counts. -/
def RepeatsBy (sign : Char) (least : Nat) (most : Option Nat) : Prop :=
  ∀ (st : State) (t : List Char), step st sign t =
    (do return (← st.repeat ⟨least, most, (readGreed t).1⟩, (readGreed t).2))

theorem repeatsBy_question : RepeatsBy '?' 0 (some 1) := fun _ _ => rfl

theorem repeatsBy_star : RepeatsBy '*' 0 none := fun _ _ => rfl

theorem repeatsBy_plus : RepeatsBy '+' 1 none := fun _ _ => rfl

/-- An item can be repeated unless it is empty or nothing but flags. -/
def Repeatable (item : Ast) : Prop :=
  ∀ (st : State) (c : Counts), (st.push item).repeat c
    = .ok (st.push (.repetition c.least c.most c.greedy item))

/-- An item with a sign of repetition behind it.  It is greedy as no question mark follows. -/
theorem Adds.repeat {text : List Char} {item : Nat → Ast} {n : Nat} {sign : Char} {least : Nat}
    {most : Option Nat} (h : AddsBefore (fun _ => True) text (fun k => [item k]) n)
    (htext : text ≠ []) (hsign : RepeatsBy sign least most) (hitem : ∀ k, Repeatable (item k)) :
    Adds (text ++ [sign]) (fun k => [.repetition least most true (item k)]) n := by
  refine ⟨?_, ?_⟩
  · cases text with
    | nil => exact absurd rfl htext
    | cons c text => exact h.1
  · intro fuel st t ast hv ht hfuel hread
    rw [List.append_assoc] at hfuel hread
    obtain ⟨fuel₁, names, hfuel₁, h₁⟩ := h.2 fuel st ([sign] ++ t) ast hv trivial hfuel hread
    have hstep : step (st.grow [item st.captures] n names) sign t
        = .ok (st.grow [.repetition least most true (item st.captures)] n names, t) := by
      rw [hsign, readGreed_of_noQuestion ht]
      have hrep := hitem st.captures (st.grow [] n names) ⟨least, most, true⟩
      show (do return (← ((st.grow [] n names).push (item st.captures)).repeat
        ⟨least, most, true⟩, t)) = _
      rw [hrep]
      rfl
    have hskip : skip (st.grow [item st.captures] n names).verbose (sign :: t) = sign :: t :=
      skip_of_not_verbose hv _
    obtain ⟨fuel₂, hfuel₂, h₂⟩ :=
      (Reaches.single hskip hstep (Nat.le_refl _)).readFrom_eq hfuel₁ h₁
    exact ⟨fuel₂, names, hfuel₂, h₂⟩

/-- A piece in an optional group. -/
theorem Adds.optional {text : List Char} {body : Nat → Ast} {n : Nat} (h : Fills text body n) :
    Adds ('(' :: '?' :: ':' :: (text ++ [')', '?']))
      (fun k => [.repetition 0 (some 1) true (.group (.plain []) (body k))]) n := by
  have hrep := Adds.repeat (AddsBefore.plain h) (by simp) repeatsBy_question
    (fun _ _ _ => rfl)
  simpa using hrep

/-! ## Contents of groups -/

namespace Fills

/-- A piece fills a group. -/
theorem ofAdds {text : List Char} {items : Nat → List Ast} {n : Nat} (h : Adds text items n) :
    Fills text (fun k => Ast.ofItems (items k)) n := by
  refine ⟨h.1, ?_⟩
  intro fuel st t ast hv hbranches hitems hfuel hread
  obtain ⟨fuel', names, hfuel', h'⟩ :=
    h.2 fuel st (')' :: t) ast hv (noQuestion_cons (by decide) t) hfuel hread
  refine ⟨fuel', st.grow (items st.captures) n names, hfuel', rfl, rfl, ?_, h'⟩
  simp [State.contents, State.grow, hbranches, hitems, Ast.ofBranches]

end Fills

/-- The alternatives of a list of texts, escaped and with bars between them. -/
def alternatives (values : List (List Char)) : List Char :=
  ['|'].intercalate (values.map fun v => v.flatMap fun c => if isMeta c then ['\\', c] else [c])

/-- The expression of a text as it is. -/
def verbatim (v : List Char) : Ast := Ast.ofItems (v.map fun c => .literal ⟨c, false⟩)

theorem alternatives_cons (v w : List Char) (values : List (List Char)) :
    alternatives (v :: w :: values)
      = (v.flatMap fun c => if isMeta c then ['\\', c] else [c])
        ++ '|' :: alternatives (w :: values) := by
  simp [alternatives, List.intercalate]

/-- Reads alternatives from behind a parenthesis or a bar. -/
theorem reaches_alternatives (values : List (List Char)) :
    ∀ (v : List Char) (st : State) (t : List Char), st.verbose = false → st.items = [] →
      ∃ st', Reaches st (alternatives (v :: values) ++ t) st' t ∧ st'.scopes = st.scopes ∧
        st'.captures = st.captures ∧ st'.names = st.names ∧
        (Ast.ofItems st'.items.reverse :: st'.branches).reverse
          = st.branches.reverse ++ (v :: values).map verbatim := by
  induction values with
  | nil =>
    intro v st t hv hitems
    have htext : alternatives [v]
        = v.flatMap fun c => if isMeta c then ['\\', c] else [c] := by
      simp [alternatives, List.intercalate]
    rw [htext]
    refine ⟨_, reaches_escape v hv t, rfl, rfl, rfl, ?_⟩
    simp [State.grow, hitems, verbatim]
  | cons w values ih =>
    intro v st t hv hitems
    -- the first value, then the bar, then the others
    let st₁ := st.grow (v.map fun c => .literal ⟨c, false⟩) 0 st.names
    have hbar : Reaches st₁ ('|' :: alternatives (w :: values) ++ t) st₁.branch
        (alternatives (w :: values) ++ t) :=
      .single (skip_of_not_verbose hv _) rfl (Nat.le_refl _)
    obtain ⟨st', hst', hscopes, hcaptures, hnames, hbranches⟩ := ih w st₁.branch t hv rfl
    have hreaches := (reaches_escape v hv _).trans (hbar.trans hst')
    rw [← List.append_assoc, ← alternatives_cons] at hreaches
    refine ⟨st', hreaches, hscopes, hcaptures, hnames, ?_⟩
    rw [hbranches]
    simp [st₁, State.branch, State.grow, hitems, verbatim]

namespace Fills

/-- Alternatives fill a group. -/
theorem alternatives (v : List Char) (values : List (List Char)) :
    Fills (alternatives (v :: values))
      (fun _ => Ast.ofBranches ((v :: values).map verbatim)) 0 := by
  refine ⟨?_, ?_⟩
  · cases values with
    | nil => simpa [Parse.alternatives, List.intercalate] using noQuestion_escape v
    | cons w values =>
      rw [alternatives_cons]
      exact (noQuestion_escape v).append (noQuestion_cons (by decide) _)
  · intro fuel st t ast hv hbranches hitems hfuel hread
    obtain ⟨st', hst', hscopes, hcaptures, -, hbody⟩ :=
      reaches_alternatives values v st (')' :: t) hv hitems
    obtain ⟨fuel', hfuel', h'⟩ := hst'.readFrom_eq hfuel hread
    refine ⟨fuel', st', hfuel', hscopes, hcaptures, ?_, h'⟩
    rw [State.contents, hbody, hbranches, List.reverse_nil, List.nil_append]

end Fills

end Waymark.Regex.Parse
