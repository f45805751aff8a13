/-
  Waymark.Proofs.Regex.Preference

  What a search finds.  `Ways` lists how a part of an expression can take text, the preferred way
  first; `Runs` says that a plan tries exactly these ways in this order.  A search marks the choices
  that it enters and enters none twice, so the statement behind `Runs` carries an invariant on the
  marks: every marked choice that can still come up is one that leads nowhere (`dead`).  Labels grow
  along a plan, hence what comes behind a choice never asks for the marks before it.

  Main statement: `search_eq_head?`, the groups that a search of an anchored plan finds are those of
  the first way that takes the whole text.
-/

import Waymark.Regex.Search

namespace Waymark.Regex

/-! ## Ways -/

/-- How a part of an expression takes text: for every way the groups that it sets, the latest
    first, and the text behind it.  The preferred way comes first. -/
abbrev Ways := List Char → List (Groups × List Char)

namespace Ways

/-- Taking nothing. -/
def skip : Ways := fun s => [([], s)]

/-- Taking one character of a kind. -/
def char (p : Char → Bool) : Ways
  | [] => []
  | c :: s => if p c then [([], s)] else []

/-- One part behind another. -/
def seq (a b : Ways) : Ways := fun s =>
  (a s).flatMap fun w => (b w.2).map fun x => (x.1 ++ w.1, x.2)

/-- One part, else another. -/
def or (a b : Ways) : Ways := fun s => a s ++ b s

/-- A part whose text is kept as a group. -/
def group (index : Nat) (a : Ways) : Ways := fun s =>
  (a s).map fun w => ((index, s.take (s.length - w.2.length)) :: w.1, w.2)

/-- Any number of characters of a kind, as many as possible first. -/
def run (p : Char → Bool) : Ways
  | [] => [([], [])]
  | c :: s => (if p c then run p s else []) ++ [([], c :: s)]

/-- The end of the text. -/
def atEnd : Ways := fun s => if s.isEmpty then [([], s)] else []

/-- The answer of the first way behind which `A` has one. -/
def finish (w : Ways) (A : List Char → Option Groups) : List Char → Option Groups := fun s =>
  (w s).findSome? fun x => (A x.2).map (· ++ x.1)

theorem finish_skip (A : List Char → Option Groups) : skip.finish A = A := by
  funext s
  simp [finish, skip]

theorem finish_char_cons (p : Char → Bool) (A : List Char → Option Groups) (x : Char)
    (t : List Char) : (char p).finish A (x :: t) = if p x then A t else none := by
  by_cases hx : p x = true <;> simp [finish, char, hx]

theorem finish_or (a b : Ways) (A : List Char → Option Groups) (s : List Char) :
    (a.or b).finish A s = (a.finish A s).or (b.finish A s) := by
  simp [finish, or, List.findSome?_append]

theorem finish_seq (a b : Ways) (A : List Char → Option Groups) :
    (a.seq b).finish A = a.finish (b.finish A) := by
  funext s
  simp only [finish, seq]
  induction a s with
  | nil => rfl
  | cons w ws ih =>
    rw [List.flatMap_cons, List.findSome?_append, ih, List.findSome?_cons]
    have hhead : ((b w.2).map fun x => (x.1 ++ w.1, x.2)).findSome?
          (fun x => (A x.2).map (· ++ x.1))
        = ((b w.2).findSome? fun x => (A x.2).map (· ++ x.1)).map (· ++ w.1) := by
      rw [List.findSome?_map, List.map_findSome?]
      congr 1
      funext x
      show (A x.2).map (· ++ (x.1 ++ w.1)) = ((A x.2).map (· ++ x.1)).map (· ++ w.1)
      rw [Option.map_map]
      congr 1
      funext g
      exact (List.append_assoc g x.1 w.1).symm
    rw [hhead]
    cases (b w.2).findSome? fun x => (A x.2).map (· ++ x.1) <;> rfl

theorem finish_run (p : Char → Bool) (A : List Char → Option Groups) (s : List Char) :
    (run p).finish A s = ((char p).finish ((run p).finish A) s).or (A s) := by
  cases s with
  | nil => simp [finish, run, char]
  | cons x t =>
    rw [finish_char_cons]
    by_cases hx : p x = true <;> simp [finish, run, hx, List.findSome?_append]

/-- The text of a group goes behind what comes after the group. -/
theorem finish_group (index : Nat) (a : Ways) (A : List Char → Option Groups) (s : List Char) :
    (a.group index).finish A s = a.finish (fun t =>
      (A t).map (· ++ [(index, s.take (s.length - t.length))])) s := by
  simp only [finish, group, List.findSome?_map]
  congr 1
  funext x
  show (A x.2).map (· ++ ((index, s.take (s.length - x.2.length)) :: x.1))
    = ((A x.2).map (· ++ [(index, s.take (s.length - x.2.length))])).map (· ++ x.1)
  rw [Option.map_map]
  congr 1
  funext g
  simp

theorem finish_eq_none {w : Ways} {A : List Char → Option Groups} {s : List Char} :
    w.finish A s = none ↔ ∀ x ∈ w s, A x.2 = none := by
  simp [finish]

/-- Whether there is an answer does not depend on the groups. -/
theorem finish_eq_none_iff (w : Ways) {A B : List Char → Option Groups}
    (h : ∀ t, A t = none ↔ B t = none) (s : List Char) :
    w.finish A s = none ↔ w.finish B s = none := by
  rw [finish_eq_none, finish_eq_none]
  constructor
  · intro hA x hx
    exact (h x.2).1 (hA x hx)
  · intro hB x hx
    exact (h x.2).2 (hB x hx)

end Ways

/-! ## Places -/

namespace Cursor

theorem next?_eq_none_iff {c : Cursor} : c.next? = none ↔ c.rest = [] := by
  unfold next?
  split
  case h_1 h => simp [h]
  case h_2 x xs h => simp [h]

theorem rest_eq_of_next? {c d : Cursor} {x : Char} (h : c.next? = some (x, d)) :
    c.rest = x :: d.rest := by
  unfold next? at h
  split at h
  case h_1 => exact absurd h (by simp)
  case h_2 y ys hrest =>
    simp only [Option.some.injEq, Prod.mk.injEq] at h
    obtain ⟨rfl, rfl⟩ := h
    exact hrest

theorem before_of_next? {c d : Cursor} {x : Char} (h : c.next? = some (x, d)) :
    d.before = some x := by
  unfold next? at h
  split at h
  case h_1 => exact absurd h (by simp)
  case h_2 y ys hrest =>
    simp only [Option.some.injEq, Prod.mk.injEq] at h
    obtain ⟨rfl, rfl⟩ := h
    rfl

end Cursor

/-! ## Answers of continuations -/

/-- Whether an outcome is the answer `a` to a search that brought the groups `g`; `marks` is what a
    failed search may have marked. -/
def Outcome.Fits (a : Option Groups) (g : Groups) (marks : Visited → Prop) : Outcome → Prop
  | .found g' => a.map (· ++ g) = some g'
  | .failed v => a = Option.none ∧ marks v

/-- Of the choices from a label on, only dead ones are marked. -/
def OnlyDead (dead : Nat → Nat → Prop) (bound : Nat) (v : Visited) : Prop :=
  ∀ place label, bound ≤ label → v.contains place label = true → dead place label

/-- The choices marked since `v` are dead and have labels from `bound` on. -/
def Marks (dead : Nat → Nat → Prop) (bound : Nat) (v v' : Visited) : Prop :=
  ∀ place label, v'.contains place label = true →
    v.contains place label = true ∨ (bound ≤ label ∧ dead place label)

/-- A continuation answers as `A` does at every place of the text `s`, as long as only dead choices
    are marked; where it fails it marks dead choices only. -/
def Meets (s : List Char) (dead : Nat → Nat → Prop) (bound : Nat) (k : Continuation)
    (A : List Char → Option Groups) : Prop :=
  ∀ (c : Cursor) (g : Groups) (v : Visited), c.rest <:+ s → OnlyDead dead bound v →
    (k c g v).Fits (A c.rest) g (Marks dead bound v)

theorem Marks.refl (dead : Nat → Nat → Prop) (bound : Nat) (v : Visited) :
    Marks dead bound v v := fun _ _ h => Or.inl h

theorem Marks.trans {dead : Nat → Nat → Prop} {bound : Nat} {u v w : Visited}
    (huv : Marks dead bound u v) (hvw : Marks dead bound v w) : Marks dead bound u w := by
  intro place label h
  rcases hvw place label h with h | h
  · exact huv place label h
  · exact Or.inr h

theorem Marks.mono {dead dead' : Nat → Nat → Prop} {bound bound' : Nat} {v v' : Visited}
    (h : Marks dead bound v v') (hle : bound' ≤ bound)
    (hdead : ∀ place label, bound ≤ label → dead place label → dead' place label) :
    Marks dead' bound' v v' := by
  intro place label hv
  rcases h place label hv with hv | ⟨hl, hd⟩
  · exact Or.inl hv
  · exact Or.inr ⟨Nat.le_trans hle hl, hdead place label hl hd⟩

theorem OnlyDead.of_marks {dead : Nat → Nat → Prop} {bound : Nat} {v v' : Visited}
    (hv : OnlyDead dead bound v) (h : Marks dead bound v v') : OnlyDead dead bound v' := by
  intro place label hl hc
  rcases h place label hc with hc | hc
  · exact hv place label hl hc
  · exact hc.2

theorem Outcome.Fits.imp {a : Option Groups} {g : Groups} {P Q : Visited → Prop} {o : Outcome}
    (h : o.Fits a g P) (hPQ : ∀ v, P v → Q v) : o.Fits a g Q := by
  cases o with
  | found g' => exact h
  | failed v => exact ⟨h.1, hPQ v h.2⟩

/-- A continuation keeps its answers when fewer labels are trusted and when the dead choices below
    its bound change. -/
theorem Meets.mono {s : List Char} {dead dead' : Nat → Nat → Prop} {bound bound' : Nat}
    {k : Continuation} {A : List Char → Option Groups} (h : Meets s dead bound k A)
    (hle : bound' ≤ bound)
    (hdead : ∀ place label, bound ≤ label → (dead' place label ↔ dead place label)) :
    Meets s dead' bound' k A := by
  intro c g v hc hv
  have hv' : OnlyDead dead bound v := by
    intro place label hl hm
    exact (hdead place label hl).1 (hv place label (Nat.le_trans hle hl) hm)
  refine (h c g v hc hv').imp ?_
  intro v' hm
  exact hm.mono hle (fun place label hl hd => (hdead place label hl).2 hd)

theorem first_of_found {k l : Continuation} {c : Cursor} {g G : Groups} {v : Visited}
    (h : k c g v = .found G) : first k l c g v = .found G := by
  unfold first
  rw [h]

theorem first_of_failed {k l : Continuation} {c : Cursor} {g : Groups} {v v' : Visited}
    (h : k c g v = .failed v') : first k l c g v = l c g v' := by
  unfold first
  rw [h]

/-- Trying one continuation and then another, from one place. -/
theorem fits_first {dead : Nat → Nat → Prop} {bound : Nat} {k l : Continuation} {c : Cursor}
    {g : Groups} {v : Visited} {a b : Option Groups}
    (hk : (k c g v).Fits a g (Marks dead bound v))
    (hl : ∀ v', Marks dead bound v v' → (l c g v').Fits b g (Marks dead bound v')) :
    (first k l c g v).Fits (a.or b) g (Marks dead bound v) := by
  cases ho : k c g v with
  | found g' =>
    rw [ho] at hk
    obtain ⟨δ, ha, hδ⟩ := Option.map_eq_some_iff.1 hk
    rw [first_of_found ho]
    show (a.or b).map (· ++ g) = some g'
    rw [ha, Option.some_or, Option.map_some, hδ]
  | failed v' =>
    rw [ho] at hk
    obtain ⟨ha, hm⟩ := hk
    rw [first_of_failed ho, ha, Option.none_or]
    exact (hl v' hm).imp (fun w hw => hm.trans hw)

/-- Entering a choice once, from one place.  What is marked on the way in is dead on the way out. -/
theorem fits_once {dead : Nat → Nat → Prop} {label : Nat} {k : Continuation} {c : Cursor}
    {g : Groups} {v : Visited} {a : Option Groups}
    (hmarked : v.contains c.left label = true → a = Option.none)
    (hdead : a = Option.none → dead c.left label)
    (hk : (k c g (v.insert c.left label)).Fits a g
      (Marks dead label (v.insert c.left label))) :
    (once label k c g v).Fits a g (Marks dead label v) := by
  unfold once
  by_cases hm : v.contains c.left label = true
  · rw [if_pos hm]
    exact ⟨hmarked hm, Marks.refl _ _ _⟩
  · rw [if_neg hm]
    cases ho : k c g (v.insert c.left label) with
    | found g' =>
      rw [ho] at hk
      exact hk
    | failed v' =>
      rw [ho] at hk
      refine ⟨hk.1, ?_⟩
      intro place l hin
      -- what is marked behind was marked before, is the choice itself, or is dead
      rcases hk.2 place l hin with hin | hin
      · rw [Visited.contains_insert, Bool.or_eq_true, decide_eq_true_eq] at hin
        rcases hin with ⟨rfl, rfl⟩ | hin
        · exact Or.inr ⟨Nat.le_refl _, hdead hk.1⟩
        · exact Or.inl hin
      · exact Or.inr hin

/-- Trying one continuation and then another. -/
theorem Meets.first {s : List Char} {dead : Nat → Nat → Prop} {bound : Nat}
    {k l : Continuation} {A B : List Char → Option Groups}
    (hk : Meets s dead bound k A) (hl : Meets s dead bound l B) :
    Meets s dead bound (first k l) (fun t => (A t).or (B t)) := by
  intro c g v hc hv
  exact fits_first (hk c g v hc hv) (fun v' hm => hl c g v' hc (hv.of_marks hm))

/-- The choices that are dead once the choice `label` is added, which leads to `F`. -/
def withChoice (s : List Char) (label : Nat) (F : List Char → Option Groups)
    (dead : Nat → Nat → Prop) (place l : Nat) : Prop :=
  if l = label then ∀ t, t <:+ s → t.length = place → F t = none else dead place l

theorem withChoice_of_lt (s : List Char) {label : Nat} (F : List Char → Option Groups)
    (dead : Nat → Nat → Prop) {place l : Nat} (h : label < l) :
    withChoice s label F dead place l ↔ dead place l := by
  rw [withChoice, if_neg (by omega)]

/-- Suffixes of one text that are equally long are equal. -/
theorem eq_of_suffix_of_length {s t u : List Char} (ht : t <:+ s) (hu : u <:+ s)
    (h : t.length = u.length) : t = u := by
  rw [List.suffix_iff_eq_drop.1 ht, List.suffix_iff_eq_drop.1 hu, h]

theorem withChoice_self_iff {s t : List Char} (ht : t <:+ s) (label : Nat)
    (F : List Char → Option Groups) (dead : Nat → Nat → Prop) :
    withChoice s label F dead t.length label ↔ F t = none := by
  rw [withChoice, if_pos rfl]
  constructor
  · intro h
    exact h t ht rfl
  · intro h u hu hlen
    rw [eq_of_suffix_of_length hu ht hlen]
    exact h

theorem OnlyDead.insert {s : List Char} {dead : Nat → Nat → Prop} {label : Nat}
    {F : List Char → Option Groups} {v : Visited} (place : Nat)
    (hv : ∀ p l, label < l → v.contains p l = true → withChoice s label F dead p l) :
    OnlyDead dead (label + 1) (v.insert place label) := by
  intro p l hl hin
  rw [Visited.contains_insert] at hin
  have hne : ¬ (p = place ∧ l = label) := by omega
  rw [decide_eq_false hne, Bool.false_or] at hin
  exact (withChoice_of_lt s F dead (by omega)).1 (hv p l (by omega) hin)

theorem Marks.withChoice {s : List Char} {dead : Nat → Nat → Prop} {label : Nat}
    {F : List Char → Option Groups} {v v' : Visited} (h : Marks dead (label + 1) v v') :
    Marks (withChoice s label F dead) label v v' := by
  refine h.mono (by omega) ?_
  intro place l hl hd
  exact (withChoice_of_lt s F dead (by omega)).2 hd

/-- A choice that is entered once at each place. -/
theorem Meets.once {s : List Char} {dead : Nat → Nat → Prop} {label : Nat} {k : Continuation}
    {A F : List Char → Option Groups} (hk : Meets s dead (label + 1) k A)
    (hAF : ∀ t, A t = none ↔ F t = none) :
    Meets s (withChoice s label F dead) label (once label k) A := by
  intro c g v hc hv
  refine fits_once ?_ ?_ ?_
  · intro hm
    have hd := hv c.left label (Nat.le_refl _) hm
    rw [c.left_eq, withChoice_self_iff hc] at hd
    exact (hAF _).2 hd
  · intro ha
    rw [c.left_eq, withChoice_self_iff hc]
    exact (hAF _).1 ha
  · have hins : OnlyDead dead (label + 1) (v.insert c.left label) :=
      OnlyDead.insert c.left (fun p l hl hm => hv p l (by omega) hm)
    exact (hk c g _ hc hins).imp (fun w hw => hw.withChoice)

/-- Going on behind a group that began at `c`. -/
theorem Meets.group {s : List Char} {dead : Nat → Nat → Prop} {bound : Nat} {k : Continuation}
    {A : List Char → Option Groups} (hk : Meets s dead bound k A) (index : Nat) (c : Cursor) :
    Meets s dead bound (fun d g v => k d ((index, c.upTo d) :: g) v)
      (fun t => (A t).map (· ++ [(index, c.rest.take (c.rest.length - t.length))])) := by
  intro d g v hd hv
  have ho := hk d ((index, c.upTo d) :: g) v hd hv
  have htext : c.rest.take (c.rest.length - d.rest.length) = c.upTo d := by
    rw [Cursor.upTo, c.left_eq, d.left_eq]
  cases hres : k d ((index, c.upTo d) :: g) v with
  | found g' =>
    rw [hres] at ho
    obtain ⟨δ, hAδ, hδ⟩ := Option.map_eq_some_iff.1 ho
    simp only [hres, Outcome.Fits, hAδ, htext, ← hδ, Option.map_some, List.append_assoc,
      List.singleton_append]
  | failed v' =>
    rw [hres] at ho
    simp only [hres, Outcome.Fits, ho.1, Option.map_none, true_and]
    exact ho.2

theorem run_set_of_none {S : CharSet} {k : Continuation} {c : Cursor} {g : Groups} {v : Visited}
    (h : c.next? = none) : (Plan.set S).run k c g v = .failed v := by
  simp only [Plan.run, h]

theorem run_set_of_some {S : CharSet} {k : Continuation} {c d : Cursor} {g : Groups} {v : Visited}
    {x : Char} (h : c.next? = some (x, d)) :
    (Plan.set S).run k c g v = if S.contains x then k d g v else .failed v := by
  simp only [Plan.run, h]

/-- Taking a character and going on behind it, from one place. -/
theorem fits_set {marks : Visited → Prop} {S : CharSet} {k : Continuation} {c : Cursor}
    {g : Groups} {v : Visited} {A : List Char → Option Groups} (hv : marks v)
    (hk : ∀ x d, c.rest = x :: d.rest → (k d g v).Fits (A d.rest) g marks) :
    ((Plan.set S).run k c g v).Fits ((Ways.char S.contains).finish A c.rest) g marks := by
  cases hn : c.next? with
  | none =>
    rw [run_set_of_none hn, Cursor.next?_eq_none_iff.1 hn]
    exact ⟨rfl, hv⟩
  | some xd =>
    obtain ⟨x, d⟩ := xd
    have hrest : c.rest = x :: d.rest := Cursor.rest_eq_of_next? hn
    rw [run_set_of_some hn, hrest, Ways.finish_char_cons]
    by_cases hx : S.contains x = true
    · simp only [hx, if_true]
      exact hk x d hrest
    · simp only [hx]
      exact ⟨rfl, hv⟩

/-- What follows a character that is repeated.  A round takes a character, so the choice comes up
    again at smaller places only, where its marks are still those of earlier searches. -/
theorem fits_again {s : List Char} {dead : Nat → Nat → Prop} {label : Nat} {S : CharSet}
    {k : Continuation} {A F : List Char → Option Groups} (hk : Meets s dead (label + 1) k A)
    (hAF : ∀ t, (Ways.run S.contains).finish A t = none ↔ F t = none) (rounds : Nat) :
    ∀ (c : Cursor) (g : Groups) (v : Visited), c.left < rounds → c.rest <:+ s →
      (∀ p l, label < l → v.contains p l = true → withChoice s label F dead p l) →
      (∀ p, p ≤ c.left → v.contains p label = true → withChoice s label F dead p label) →
      (again label true (Plan.set S).run k rounds c g v).Fits
        ((Ways.run S.contains).finish A c.rest) g (Marks (withChoice s label F dead) label v) := by
  induction rounds with
  | zero =>
    intro c g v hc
    exact absurd hc (Nat.not_lt_zero _)
  | succ rounds ih =>
    intro c g v hleft hc hv hvl
    refine fits_once ?_ ?_ ?_
    · intro hm
      have hd := hvl c.left (Nat.le_refl _) hm
      rw [c.left_eq, withChoice_self_iff hc] at hd
      exact (hAF _).2 hd
    · intro ha
      rw [c.left_eq, withChoice_self_iff hc]
      exact (hAF _).1 ha
    · have hins : OnlyDead dead (label + 1) (v.insert c.left label) := OnlyDead.insert c.left hv
      -- whatever the rounds before marked, going on behind the last one answers as before
      have hpast : ∀ v', Marks (withChoice s label F dead) label (v.insert c.left label) v' →
          (k c g v').Fits (A c.rest) g (Marks (withChoice s label F dead) label v') := by
        intro v' hm
        have hv' : OnlyDead dead (label + 1) v' := by
          intro p l hl hin
          rcases hm p l hin with hin | ⟨-, hd⟩
          · exact hins p l hl hin
          · exact (withChoice_of_lt s F dead (by omega)).1 hd
        exact (hk c g v' hc hv').imp (fun w hw => hw.withChoice)
      show (first ((Plan.set S).run (again label true (Plan.set S).run k rounds)) k c g
        (v.insert c.left label)).Fits _ g _
      rw [Ways.finish_run]
      refine fits_first (fits_set (Marks.refl _ _ _) ?_) hpast
      -- a round more, from a smaller place than the mark that was just set
      intro x d hrest
      have hd : d.left < c.left := by
        rw [d.left_eq, c.left_eq, hrest, List.length_cons]
        omega
      refine ih d g (v.insert c.left label) (by omega)
        ((hrest ▸ List.suffix_cons x d.rest : d.rest <:+ c.rest).trans hc) ?_ ?_
      · intro p l hl hin
        exact (withChoice_of_lt s F dead hl).2 (hins p l hl hin)
      · intro p hp hin
        rw [Visited.contains_insert] at hin
        have hne : ¬ (p = c.left ∧ label = label) := by omega
        rw [decide_eq_false hne, Bool.false_or] at hin
        exact hvl p (by omega) hin

/-! ## Plans -/

/-- A draft tries exactly the ways `W`, in their order.  The statement is about families of
    continuations whose members agree on where they have an answer: behind a group, what is left to
    do depends on the place where the group began, and the choices inside serve all of them. -/
def Runs (D : Plan.Draft) (W : Ways) : Prop :=
  ∀ n, n ≤ (D n).2 ∧
    ∀ (s : List Char) (dead : Nat → Nat → Prop) (ι : Type) (_ : ι) (k : ι → Continuation)
      (A : ι → List Char → Option Groups),
      (∀ i j t, A i t = none ↔ A j t = none) →
      (∀ i, Meets s dead (D n).2 (k i) (A i)) →
      ∃ dead' : Nat → Nat → Prop,
        (∀ place label, (D n).2 ≤ label → (dead' place label ↔ dead place label)) ∧
          ∀ i, Meets s dead' n ((D n).1.run (k i)) (W.finish (A i))

namespace Runs

theorem empty : Runs (.pure .empty) .skip := by
  intro n
  refine ⟨Nat.le_refl n, ?_⟩
  intro s dead ι _ k A _ hk
  refine ⟨dead, fun _ _ _ => Iff.rfl, ?_⟩
  intro i
  rw [Ways.finish_skip]
  exact hk i

theorem set (S : CharSet) : Runs (.pure (.set S)) (.char S.contains) := by
  intro n
  refine ⟨Nat.le_refl n, ?_⟩
  intro s dead ι _ k A _ hk
  refine ⟨dead, fun _ _ _ => Iff.rfl, ?_⟩
  intro i c g v hc hv
  refine fits_set (Marks.refl _ _ _) ?_
  intro x d hrest
  exact hk i d g v ((hrest ▸ List.suffix_cons x d.rest : d.rest <:+ c.rest).trans hc) hv

theorem textEnd : Runs (.pure (.look .textEnd)) .atEnd := by
  intro n
  refine ⟨Nat.le_refl n, ?_⟩
  intro s dead ι _ k A _ hk
  refine ⟨dead, fun _ _ _ => Iff.rfl, ?_⟩
  intro i c g v hc hv
  show (if Look.textEnd.holds c.before c.rest.head? then k i c g v else .failed v).Fits _ g _
  have ho := hk i c g v hc hv
  cases hr : c.rest with
  | nil =>
    rw [hr] at ho
    simpa [Look.holds, Ways.finish, Ways.atEnd, Plan.Draft.pure] using ho
  | cons x t => exact ⟨rfl, Marks.refl _ _ _⟩

theorem cat {D E : Plan.Draft} {W X : Ways} (hD : Runs D W) (hE : Runs E X) :
    Runs (D.cat E) (W.seq X) := by
  intro n
  obtain ⟨hn, hDn⟩ := hD n
  obtain ⟨hm, hEm⟩ := hE (D n).2
  refine ⟨Nat.le_trans hn hm, ?_⟩
  intro s dead ι i₀ k A hA hk
  -- from the back: the first part goes on with the second
  obtain ⟨dead₁, hdead₁, hk₁⟩ := hEm s dead ι i₀ k A hA hk
  obtain ⟨dead₂, hdead₂, hk₂⟩ := hDn s dead₁ ι i₀ (fun i => (E (D n).2).1.run (k i))
    (fun i => X.finish (A i)) (fun i j => X.finish_eq_none_iff (hA i j)) hk₁
  refine ⟨dead₂, ?_, ?_⟩
  · intro place label hl
    rw [hdead₂ place label (Nat.le_trans hm hl), hdead₁ place label hl]
  · intro i
    rw [Ways.finish_seq]
    exact hk₂ i

theorem group (index : Nat) {D : Plan.Draft} {W : Ways} (hD : Runs D W) :
    Runs (fun n => (.group index (D n).1, (D n).2)) (W.group index) := by
  intro n
  obtain ⟨hn, hDn⟩ := hD n
  refine ⟨hn, ?_⟩
  intro s dead ι i₀ k A hA hk
  -- the family has a member for every place where the group may begin
  obtain ⟨dead', hdead', hrun⟩ := hDn s dead (ι × Cursor) (i₀, Cursor.start [])
    (fun ic d g v => k ic.1 d ((index, ic.2.upTo d) :: g) v)
    (fun ic t => (A ic.1 t).map (· ++ [(index, ic.2.rest.take (ic.2.rest.length - t.length))]))
    (fun i j t => by simpa using hA i.1 j.1 t) (fun ic => (hk ic.1).group index ic.2)
  refine ⟨dead', hdead', ?_⟩
  intro i c g v hc hv
  rw [Ways.finish_group]
  exact hrun (i, c) c g v hc hv

theorem alt {D E : Plan.Draft} {W X : Ways} (hD : Runs D W) (hE : Runs E X) :
    Runs (fun n => (.alt n (D (n + 1)).1 (E (D (n + 1)).2).1, (E (D (n + 1)).2).2)) (W.or X) := by
  intro n
  obtain ⟨hn, hDn⟩ := hD (n + 1)
  obtain ⟨hm, hEm⟩ := hE (D (n + 1)).2
  refine ⟨by show n ≤ (E (D (n + 1)).2).2; omega, ?_⟩
  intro s dead ι i₀ k A hA hk
  obtain ⟨dead₁, hdead₁, hk₁⟩ := hEm s dead ι i₀ k A hA hk
  obtain ⟨dead₂, hdead₂, hk₂⟩ := hDn s dead₁ ι i₀ k A hA
    (fun i => (hk i).mono hm hdead₁)
  -- a marked choice is dead for one member of the family if it is for all
  let F : List Char → Option Groups := fun t => (W.finish (A i₀) t).or (X.finish (A i₀) t)
  refine ⟨withChoice s n F dead₂, ?_, ?_⟩
  · intro place label hl
    have hl' : (E (D (n + 1)).2).2 ≤ label := hl
    rw [withChoice_of_lt s F dead₂ (by omega), hdead₂ place label (by omega),
      hdead₁ place label hl']
  · intro i
    have hfirst := (hk₂ i).first ((hk₁ i).mono hn hdead₂)
    have hfin : (W.or X).finish (A i) = fun t => (W.finish (A i) t).or (X.finish (A i) t) := by
      funext t
      exact Ways.finish_or W X (A i) t
    rw [hfin]
    refine hfirst.once (fun t => ?_)
    rw [Option.or_eq_none_iff, Option.or_eq_none_iff, W.finish_eq_none_iff (hA i i₀),
      X.finish_eq_none_iff (hA i i₀)]

theorem maybe {D : Plan.Draft} {W : Ways} (hD : Runs D W) :
    Runs (Plan.Draft.maybe true D) (W.or .skip) := by
  intro n
  obtain ⟨hn, hDn⟩ := hD (n + 1)
  refine ⟨by show n ≤ (D (n + 1)).2; omega, ?_⟩
  intro s dead ι i₀ k A hA hk
  obtain ⟨dead₁, hdead₁, hk₁⟩ := hDn s dead ι i₀ k A hA hk
  let F : List Char → Option Groups := fun t => (W.finish (A i₀) t).or (A i₀ t)
  refine ⟨withChoice s n F dead₁, ?_, ?_⟩
  · intro place label hl
    have hl' : (D (n + 1)).2 ≤ label := hl
    rw [withChoice_of_lt s F dead₁ (by omega), hdead₁ place label hl']
  · intro i
    have hfirst := (hk₁ i).first ((hk i).mono hn hdead₁)
    have hfin : (W.or .skip).finish (A i) = fun t => (W.finish (A i) t).or (A i t) := by
      funext t
      rw [Ways.finish_or, Ways.finish_skip]
    rw [hfin]
    refine hfirst.once (fun t => ?_)
    rw [Option.or_eq_none_iff, Option.or_eq_none_iff, W.finish_eq_none_iff (hA i i₀),
      hA i i₀ t]

theorem star (S : CharSet) :
    Runs (Plan.Draft.star true true (.pure (.set S))) (.run S.contains) := by
  intro n
  refine ⟨Nat.le_succ n, ?_⟩
  intro s dead ι i₀ k A hA hk
  have hF : ∀ i t, (Ways.run S.contains).finish (A i) t = none
      ↔ (Ways.run S.contains).finish (A i₀) t = none := fun i =>
    Ways.finish_eq_none_iff _ (hA i i₀)
  refine ⟨withChoice s n ((Ways.run S.contains).finish (A i₀)) dead, ?_, ?_⟩
  · intro place label hl
    exact withChoice_of_lt s _ dead hl
  · intro i c g v hc hv
    refine fits_again (hk i) (hF i) (c.left + 1) c g v (Nat.lt_succ_self _) hc ?_ ?_
    · intro p l hl hm
      exact hv p l (by omega) hm
    · intro p _ hm
      exact hv p n (Nat.le_refl n) hm

theorem plus (S : CharSet) :
    Runs (Plan.Draft.plus true (.pure (.set S)))
      ((Ways.char S.contains).seq (.run S.contains)) := by
  intro n
  refine ⟨Nat.le_succ n, ?_⟩
  intro s dead ι i₀ k A hA hk
  have hF : ∀ i t, (Ways.run S.contains).finish (A i) t = none
      ↔ (Ways.run S.contains).finish (A i₀) t = none := fun i =>
    Ways.finish_eq_none_iff _ (hA i i₀)
  refine ⟨withChoice s n ((Ways.run S.contains).finish (A i₀)) dead, ?_, ?_⟩
  · intro place label hl
    exact withChoice_of_lt s _ dead hl
  · intro i c g v hc hv
    rw [Ways.finish_seq]
    refine fits_set (Marks.refl _ _ _) ?_
    intro x d hrest
    have hd : d.left < c.left + 1 := by
      rw [d.left_eq, c.left_eq, hrest, List.length_cons]
      omega
    refine fits_again (hk i) (hF i) (c.left + 1) d g v hd
      ((hrest ▸ List.suffix_cons x d.rest : d.rest <:+ c.rest).trans hc) ?_ ?_
    · intro p l hl hm
      exact hv p l (by omega) hm
    · intro p _ hm
      exact hv p n (Nat.le_refl n) hm

end Runs

/-! ## Searches -/

/-- Ends a search with what it found. -/
def done : Continuation := fun _ g _ => .found g

theorem search_of_found {p : Plan} {c : Cursor} {v : Visited} {g : Groups}
    (h : p.run done c [] v = .found g) (rounds : Nat) : p.search rounds c v = some g := by
  change p.run (fun _ g _ => .found g) c [] v = .found g at h
  cases rounds <;> simp [Plan.search, h]

theorem search_of_failed {p : Plan} {c : Cursor} {v v' : Visited}
    (h : p.run done c [] v = .failed v') (rounds : Nat)
    (hnext : ∀ x d n, c.next? = some (x, d) → p.search n d v' = none) :
    p.search rounds c v = none := by
  change p.run (fun _ g _ => .found g) c [] v = .failed v' at h
  cases rounds with
  | zero => simp [Plan.search, h]
  | succ n =>
    cases hn : c.next? with
    | none => simp [Plan.search, h, hn]
    | some xd => simp [Plan.search, h, hn, hnext xd.1 xd.2 n hn]

/-- A plan that begins with the start of the text matches nowhere else. -/
theorem search_anchored (p : Plan) (rounds : Nat) :
    ∀ (c : Cursor) (v : Visited), c.before.isNone = false →
      (Plan.cat (.look .textStart) p).search rounds c v = none := by
  have hrun : ∀ (c : Cursor) (v : Visited), c.before.isNone = false →
      (Plan.cat (.look .textStart) p).run (fun _ g _ => .found g) c [] v = .failed v := by
    intro c v hc
    simp [Plan.run, Look.holds, hc]
  induction rounds with
  | zero =>
    intro c v hc
    simp [Plan.search, hrun c v hc]
  | succ rounds ih =>
    intro c v hc
    rw [Plan.search, hrun c v hc]
    cases hn : c.next? with
    | none => rfl
    | some xd =>
      obtain ⟨x, d⟩ := xd
      exact ih d v (by rw [Cursor.before_of_next? hn]; rfl)

/-- A search for what begins with the start of the text finds the first way. -/
theorem search_eq_head? {D : Plan.Draft} {W : Ways} (hD : Runs D W) (n : Nat) (s : List Char) :
    (Plan.cat (.look .textStart) (D n).1).search s.length (.start s) .none
      = (W s).head?.map Prod.fst := by
  -- no choice comes up behind the whole plan, so all of them may count as dead
  have hdone : Meets s (fun _ _ => True) (D n).2 done (fun _ => some []) := by
    intro c g v _ _
    exact rfl
  obtain ⟨dead, -, hrun⟩ := (hD n).2 s (fun _ _ => True) Unit () (fun _ => done)
    (fun _ _ => some []) (fun _ _ _ => Iff.rfl) (fun _ => hdone)
  have hfits := hrun () (.start s) [] .none (List.suffix_refl s) (by
    intro place label _ hm
    rw [Visited.contains_none] at hm
    exact absurd hm (by simp))
  have hfinish : W.finish (fun _ => some []) s = (W s).head?.map Prod.fst := by
    cases hW : W s <;> simp [Ways.finish, hW]
  have hstart : (Plan.cat (.look .textStart) (D n).1).run done (.start s) [] .none
      = (D n).1.run done (.start s) [] .none := rfl
  change Outcome.Fits (W.finish (fun _ => some []) s) [] _ _ at hfits
  rw [hfinish] at hfits
  cases hres : (D n).1.run done (.start s) [] .none with
  | found g =>
    rw [hres] at hfits
    rw [search_of_found (hstart.trans hres)]
    simpa [Outcome.Fits, Function.comp_def] using hfits.symm
  | failed v =>
    rw [hres] at hfits
    rw [hfits.1, search_of_failed (hstart.trans hres)]
    intro x d m hn
    exact search_anchored _ m d v (by rw [Cursor.before_of_next? hn]; rfl)

end Waymark.Regex
