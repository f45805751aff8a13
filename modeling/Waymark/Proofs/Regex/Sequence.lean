/-
  Waymark.Proofs.Regex.Sequence

  Items one after another, and alternatives: what they mean, how deep they are nested and how they
  take text.  `Tries` says which ways an expression tries.
-/

import Mathlib.Data.List.Forall2
import Waymark.Proofs.Regex.Fragment
import Waymark.Proofs.Regex.Preference

namespace Waymark.Regex

/-! ## Meanings -/

/-- What an expression means in the modes that expressions start in. -/
def meaningOf (ast : Ast) : Expr :=
  match ast.meaning (.initial true) with
  | .ok (e, _) => e
  | .error _ => .empty

theorem meaningOf_eq {ast : Ast} {e : Expr} {m : Modes}
    (h : ast.meaning (.initial true) = .ok (e, m)) : meaningOf ast = e := by
  rw [meaningOf, h]

section

variable {m m' : Modes}

@[simp] theorem meaning_empty {f : Expr} :
    Ast.empty.meaning m = .ok (f, m') ↔ .empty = f ∧ m = m' := by
  show Except.ok (Expr.empty, m) = .ok (f, m') ↔ _
  simp

@[simp] theorem meaning_flags {flags : List (Flag × Bool)} {f : Expr} :
    (Ast.flags flags).meaning m = .ok (f, m') ↔ .empty = f ∧ m.setAll flags = m' := by
  show Except.ok (Expr.empty, m.setAll flags) = .ok (f, m') ↔ _
  simp

@[simp] theorem meaning_literal {l : Literal} {f : Expr} :
    (Ast.literal l).meaning m = .ok (f, m') ↔ ∃ s, l.set m = .ok s ∧ .set s = f ∧ m = m' :=
  bind_eq_ok.trans (by simp)

@[simp] theorem meaning_dot {f : Expr} :
    Ast.dot.meaning m = .ok (f, m') ↔ m.unicode = true ∧ .set (dotSet m) = f ∧ m = m' := by
  show (if m.unicode then Except.ok (Expr.set (dotSet m), m) else .error Error.needsUnicode)
    = .ok (f, m') ↔ _
  by_cases hm : m.unicode = true
  · simp [hm]
  · simp [hm]

@[simp] theorem meaning_assertion {a : Assertion} {f : Expr} :
    (Ast.assertion a).meaning m = .ok (f, m') ↔ .look (a.look m) = f ∧ m = m' := by
  show Except.ok (Expr.look (a.look m), m) = .ok (f, m') ↔ _
  simp

@[simp] theorem meaning_shorthand {negated : Bool} {a : Shorthand} {f : Expr} :
    (Ast.shorthand negated a).meaning m = .ok (f, m') ↔
      ∃ s, m.negate negated (a.set m.unicode) = .ok s ∧ .set s = f ∧ m = m' :=
  bind_eq_ok.trans (by simp)

@[simp] theorem meaning_property {negated : Bool} {q : PropertyQuery} {f : Expr} :
    (Ast.property negated q).meaning m = .ok (f, m') ↔
      ∃ s t, q.set m = .ok s ∧ m.negate negated (m.fold s) = .ok t ∧ .set t = f ∧ m = m' :=
  bind_eq_ok.trans (by simp)

@[simp] theorem meaning_bracketed {negated : Bool} {set : ClassSet} {f : Expr} :
    (Ast.bracketed negated set).meaning m = .ok (f, m') ↔
      ∃ s t, set.meaning m = .ok s ∧ m.negate negated (m.fold s) = .ok t ∧ .set t = f ∧
        m = m' :=
  bind_eq_ok.trans (by simp)

@[simp] theorem meaning_repetition {least : Nat} {most : Option Nat} {greedy : Bool} {body : Ast}
    {f : Expr} :
    (Ast.repetition least most greedy body).meaning m = .ok (f, m') ↔
      ∃ e, body.meaning m = .ok (e, m') ∧
        .repeated least most (greedy != m.swapGreed) e = f :=
  bind_eq_ok.trans (by simp)

@[simp] theorem meaning_capture {index : Nat} {body : Ast} {f : Expr} :
    (Ast.group (.capture index) body).meaning m = .ok (f, m') ↔
      ∃ e m₁, body.meaning m = .ok (e, m₁) ∧ .group index e = f ∧ m = m' :=
  bind_eq_ok.trans (by simp)

@[simp] theorem meaning_plain {flags : List (Flag × Bool)} {body : Ast} {f : Expr} :
    (Ast.group (.plain flags) body).meaning m = .ok (f, m') ↔
      ∃ m₁, body.meaning (m.setAll flags) = .ok (f, m₁) ∧ m = m' :=
  bind_eq_ok.trans (by simp)

@[simp] theorem meaning_alternation {branches : List Ast} {f : Expr} :
    (Ast.alternation branches).meaning m = .ok (f, m') ↔
      ∃ es, Ast.meaningAll m branches = .ok (es, m') ∧ .altAll es = f :=
  bind_eq_ok.trans (by simp)

@[simp] theorem meaning_concat {items : List Ast} {f : Expr} :
    (Ast.concat items).meaning m = .ok (f, m') ↔
      ∃ es, Ast.meaningAll m items = .ok (es, m') ∧ .catAll es = f :=
  bind_eq_ok.trans (by simp)

@[simp] theorem meaningAll_nil {es : List Expr} :
    Ast.meaningAll m [] = .ok (es, m') ↔ [] = es ∧ m = m' := by
  show Except.ok ([], m) = .ok (es, m') ↔ _
  simp

@[simp] theorem meaningAll_cons {item : Ast} {items : List Ast} {es : List Expr} :
    Ast.meaningAll m (item :: items) = .ok (es, m') ↔
      ∃ e m₁ fs, item.meaning m = .ok (e, m₁) ∧ Ast.meaningAll m₁ items = .ok (fs, m') ∧
        e :: fs = es :=
  bind_eq_ok.trans (by simp)

@[simp] theorem meaning_ofItems {items : List Ast} {f : Expr} :
    (Ast.ofItems items).meaning m = .ok (f, m') ↔
      ∃ es, Ast.meaningAll m items = .ok (es, m') ∧ .catAll es = f := by
  match items with
  | [] => simp [Ast.ofItems, Expr.catAll, and_comm]
  | [item] => simp [Ast.ofItems, Expr.catAll]
  | item :: item' :: items => exact meaning_concat

@[simp] theorem meaning_ofBranches {branches : List Ast} {f : Expr} :
    (Ast.ofBranches branches).meaning m = .ok (f, m') ↔
      ∃ es, Ast.meaningAll m branches = .ok (es, m') ∧ .altAll es = f := by
  match branches with
  | [] => simp [Ast.ofBranches, Expr.altAll, and_comm]
  | [branch] => simp [Ast.ofBranches, Expr.altAll]
  | branch :: branch' :: branches => exact meaning_alternation

theorem meaningAll_append {as bs : List Ast} {es : List Expr} :
    Ast.meaningAll m (as ++ bs) = .ok (es, m') ↔
      ∃ fs m₁ gs, Ast.meaningAll m as = .ok (fs, m₁) ∧ Ast.meaningAll m₁ bs = .ok (gs, m') ∧
        fs ++ gs = es := by
  induction as generalizing m es with
  | nil => simp
  | cons a as ih =>
    simp only [List.cons_append, meaningAll_cons, ih]
    constructor
    · rintro ⟨e, m₁, ds, he, ⟨fs, m₂, gs, hfs, hgs, rfl⟩, rfl⟩
      exact ⟨e :: fs, m₂, gs, ⟨e, m₁, fs, he, hfs, rfl⟩, hgs, rfl⟩
    · rintro ⟨ds, m₂, gs, ⟨e, m₁, fs, he, hfs, rfl⟩, hgs, rfl⟩
      exact ⟨e, m₁, fs ++ gs, he, ⟨fs, m₂, gs, hfs, hgs, rfl⟩, rfl⟩

end

/-- Expressions that leave the modes as they are. -/
theorem meaningAll_map {α : Type} {m : Modes} {f : α → Ast} {g : α → Expr}
    (h : ∀ a, (f a).meaning m = .ok (g a, m)) (as : List α) :
    Ast.meaningAll m (as.map f) = .ok (as.map g, m) := by
  induction as with
  | nil => simp
  | cons a as ih => simp [h, ih]

theorem meaningAll_literals (s : List Char) :
    Ast.meaningAll (.initial true) (s.map fun c => .literal ⟨c, false⟩)
      = .ok (s.map fun c => .set (.single c), .initial true) := by
  exact meaningAll_map (fun c => meaning_literal.2 ⟨_, rfl, rfl, rfl⟩) s

theorem meaning_verbatim (v : List Char) :
    (Parse.verbatim v).meaning (.initial true)
      = .ok (.catAll (v.map fun c => .set (.single c)), .initial true) :=
  meaning_ofItems.2 ⟨_, meaningAll_literals v, rfl⟩

theorem catAll_cons {e : Expr} {es : List Expr} (hes : es ≠ []) :
    Expr.catAll (e :: es) = .cat e (.catAll es) := by
  cases es with
  | nil => exact absurd rfl hes
  | cons f es => rfl

/-- What can be read and means something is compiled if there is room for it. -/
theorem exprOf_eq_ok_iff [Capacity] {source : String} {ast : Ast} {e f : Expr} {m : Modes}
    (hread : Parse.read source.toList = .ok ast)
    (hmeaning : ast.meaning (.initial true) = .ok (e, m)) :
    Regex.exprOf true source = .ok f ↔ Capacity.fits e = true ∧ e = f := by
  rw [Regex.exprOf, bind_eq_ok]
  constructor
  · rintro ⟨ast', hast', h⟩
    rw [hread] at hast'
    cases hast'
    rw [hmeaning] at h
    exact guard_eq_ok h
  · rintro ⟨hfits, rfl⟩
    refine ⟨ast, hread, ?_⟩
    rw [hmeaning]
    exact if_pos hfits

/-! ## Nesting -/

theorem depthAll_le {asts : List Ast} {n : Nat} (h : ∀ ast ∈ asts, ast.depth ≤ n) :
    Ast.depthAll asts ≤ n := by
  induction asts with
  | nil => exact Nat.zero_le n
  | cons ast asts ih =>
    rw [Ast.depthAll_cons, Nat.max_le]
    exact ⟨h ast List.mem_cons_self, ih fun a ha => h a (List.mem_cons_of_mem ast ha)⟩

theorem depth_ofItems_le (items : List Ast) :
    (Ast.ofItems items).depth ≤ Ast.depthAll items + 1 := by
  match items with
  | [] => simp [Ast.ofItems, Ast.depth]
  | [item] => simp [Ast.ofItems]
  | item :: item' :: items => simp [Ast.ofItems]

theorem depth_ofBranches_le (branches : List Ast) :
    (Ast.ofBranches branches).depth ≤ Ast.depthAll branches + 1 := by
  match branches with
  | [] => simp [Ast.ofBranches, Ast.depth]
  | [branch] => simp [Ast.ofBranches]
  | branch :: branch' :: branches => simp [Ast.ofBranches]

theorem depth_verbatim_le (v : List Char) : (Parse.verbatim v).depth ≤ 1 := by
  have hitems : Ast.depthAll (v.map fun c => Ast.literal ⟨c, false⟩) ≤ 0 := by
    apply depthAll_le
    intro ast hast
    obtain ⟨c, -, rfl⟩ := List.mem_map.1 hast
    simp
  have hdepth := depth_ofItems_le (v.map fun c => Ast.literal ⟨c, false⟩)
  rw [Parse.verbatim]
  omega

/-! ## Ways one after another -/

namespace Ways

/-- Several parts, one behind another. -/
def all : List Ways → Ways
  | [] => skip
  | W :: Ws => W.seq (all Ws)

/-- Several parts, one of which is taken. -/
def any (Ws : List Ways) : Ways := fun s => Ws.flatMap (· s)

theorem any_singleton (W : Ways) : any [W] = W := by
  funext s
  simp [any]

theorem skip_seq (W : Ways) : skip.seq W = W := by
  funext s
  simp [seq, skip]

theorem seq_skip (W : Ways) : W.seq skip = W := by
  funext s
  simp [seq, skip, List.flatMap_singleton']

theorem seq_assoc (U V W : Ways) : (U.seq V).seq W = U.seq (V.seq W) := by
  funext s
  simp [seq, List.flatMap_assoc, List.flatMap_map, List.map_flatMap, List.append_assoc,
    Function.comp_def]

theorem all_append (Us Vs : List Ways) : all (Us ++ Vs) = (all Us).seq (all Vs) := by
  induction Us with
  | nil => rw [List.nil_append, all, skip_seq]
  | cons U Us ih => rw [List.cons_append, all, all, ih, seq_assoc]

theorem all_singleton (W : Ways) : all [W] = W := by
  rw [all, all, seq_skip]

end Ways

/-- An expression whose draft tries the ways `W`. -/
abbrev Tries (e : Expr) (W : Ways) : Prop := Runs (Plan.draft e) W

theorem Tries.catAll {es : List Expr} {Ws : List Ways} (h : List.Forall₂ Tries es Ws) :
    Tries (.catAll es) (Ways.all Ws) := by
  induction h with
  | nil => exact Runs.empty
  | @cons e W es Ws he hes ih =>
    cases hes with
    | nil =>
      rw [Ways.all_singleton]
      exact he
    | cons _ _ => exact Runs.cat he ih

/-- An optional group. -/
theorem Tries.optional {e : Expr} {W : Ways} (h : Tries e W) :
    Tries (.repeat 0 (some 1) true e) (W.or .skip) := by
  have hcat := Runs.cat h Runs.empty
  rw [Ways.seq_skip] at hcat
  exact Runs.maybe hcat

theorem Tries.group {e : Expr} {W : Ways} (h : Tries e W) (index : Nat) :
    Tries (.group index e) (W.group index) := Runs.group index h

theorem Tries.textEnd : Tries (.look .textEnd) .atEnd := Runs.textEnd

/-- Alternatives.  There is at least one, an expression cannot fail otherwise. -/
theorem Tries.altAll {es : List Expr} {Ws : List Ways} (h : List.Forall₂ Tries es Ws)
    (hne : es ≠ []) : Tries (.altAll es) (Ways.any Ws) := by
  induction h with
  | nil => exact absurd rfl hne
  | @cons e W es Ws he hes ih =>
    cases hes with
    | nil =>
      rw [Ways.any_singleton]
      exact he
    | cons _ _ => exact Runs.alt he (ih (by simp))

/-! ## Characters -/

theorem CharSet.contains_single (c d : Char) : (CharSet.single c).contains d = (d == c) := by
  rw [CharSet.single, CharSet.contains]
  by_cases h : d = c
  · subst h
    simp
  · have hne : ¬ (c ≤ d ∧ d ≤ c) := fun hle => h (Char.le_antisymm hle.2 hle.1)
    rw [beq_eq_false_iff_ne.2 h, ← Bool.decide_and, decide_eq_false hne]

/-- A text as it is takes itself. -/
theorem Ways.all_chars (t s : List Char) :
    Ways.all (t.map fun c => Ways.char (CharSet.single c).contains) s
      = if t.isPrefixOf s then [([], s.drop t.length)] else [] := by
  induction t generalizing s with
  | nil => simp [Ways.all, Ways.skip]
  | cons c t ih =>
    cases s with
    | nil => simp [Ways.all, Ways.seq, Ways.char]
    | cons d s =>
      by_cases h : d = c
      · subst h
        simp [Ways.all, Ways.seq, Ways.char, CharSet.contains_single, ih]
      · have h' : ¬ c = d := fun e => h e.symm
        simp [Ways.all, Ways.seq, Ways.char, CharSet.contains_single, h, h']

theorem Tries.chars (t : List Char) :
    List.Forall₂ Tries (t.map fun c => .set (.single c))
      (t.map fun c => Ways.char (CharSet.single c).contains) := by
  induction t with
  | nil => exact .nil
  | cons c t ih => exact .cons (Runs.set _) ih

end Waymark.Regex

