/-
  Waymark.Proofs.Regex.Alike

  Expressions that cannot be told apart on texts of certain characters.  `Mirrors` says that two
  ways of going on do the same at every place of such a text, found groups and failed choices
  included.  So the searches are the same step by step, and nothing has to be known about which
  alternative is preferred.

  Main statement: `captures?_ofExpr_of_alike`.
-/

import Mathlib.Data.List.Forall2
import Waymark.Proofs.Regex.Preference
import Waymark.Regex.Basic

namespace Waymark.Regex

variable {p : Char → Prop}

/-! ## Places -/

/-- A place in a text of characters `p`. -/
def Cursor.Over (p : Char → Prop) (c : Cursor) : Prop :=
  (∀ x ∈ c.before, p x) ∧ ∀ x ∈ c.rest, p x

theorem Cursor.Over.of_next? {c d : Cursor} {x : Char} (h : c.Over p)
    (hnext : c.next? = some (x, d)) : p x ∧ d.Over p := by
  have hrest := Cursor.rest_eq_of_next? hnext
  have hx : p x := h.2 x (by rw [hrest]; exact List.mem_cons_self)
  refine ⟨hx, ?_, fun y hy => h.2 y (by rw [hrest]; exact List.mem_cons_of_mem x hy)⟩
  rw [Cursor.before_of_next? hnext]
  rintro y hy
  cases hy
  exact hx

/-- The next character and the one before. -/
theorem Cursor.Over.head? {c : Cursor} (h : c.Over p) : ∀ x ∈ c.rest.head?, p x :=
  fun x hx => h.2 x (List.mem_of_mem_head? hx)

/-! ## Ways of going on -/

/-- The same comes of two continuations at every place of a text of characters `p`. -/
def SameOver (p : Char → Prop) (k l : Continuation) : Prop :=
  ∀ c g v, c.Over p → k c g v = l c g v

/-- Two ways of going on do the same if what is behind them does. -/
def Mirrors (p : Char → Prop) (f f' : Continuation → Continuation) : Prop :=
  ∀ k l, SameOver p k l → SameOver p (f k) (f' l)

theorem SameOver.first {k k' l l' : Continuation} (hk : SameOver p k k') (hl : SameOver p l l') :
    SameOver p (first k l) (first k' l') := by
  intro c g v hc
  -- where the first way fails, both second ways start from the same marks
  rw [Regex.first, Regex.first, hk c g v hc]
  cases k' c g v with
  | found G => rfl
  | failed w => exact hl c g w hc

theorem SameOver.choose (greedy : Bool) {k k' l l' : Continuation} (hk : SameOver p k k')
    (hl : SameOver p l l') : SameOver p (choose greedy k l) (choose greedy k' l') := by
  cases greedy with
  | true => exact hk.first hl
  | false => exact hl.first hk

theorem SameOver.once (label : Nat) {k l : Continuation} (h : SameOver p k l) :
    SameOver p (once label k) (once label l) := by
  intro c g v hc
  rw [Regex.once, Regex.once, h c g _ hc]

namespace Mirrors

variable {f f' h h' : Continuation → Continuation}

theorem skip : Mirrors p (fun k => k) (fun k => k) := fun _ _ hk => hk

theorem comp (hf : Mirrors p f f') (hh : Mirrors p h h') :
    Mirrors p (fun k => f (h k)) (fun k => f' (h' k)) := fun k l hk => hf _ _ (hh k l hk)

theorem first (hf : Mirrors p f f') (hh : Mirrors p h h') :
    Mirrors p (fun k => Regex.first (f k) (h k)) (fun k => Regex.first (f' k) (h' k)) :=
  fun k l hk => (hf k l hk).first (hh k l hk)

theorem choose (greedy : Bool) (hf : Mirrors p f f') (hh : Mirrors p h h') :
    Mirrors p (fun k => Regex.choose greedy (f k) (h k))
      (fun k => Regex.choose greedy (f' k) (h' k)) :=
  fun k l hk => (hf k l hk).choose greedy (hh k l hk)

theorem once (label : Nat) (hf : Mirrors p f f') :
    Mirrors p (fun k => Regex.once label (f k)) (fun k => Regex.once label (f' k)) :=
  fun k l hk => (hf k l hk).once label

/-- Rounds of a body. -/
theorem again (label : Nat) (greedy : Bool) (hf : Mirrors p f f') (rounds : Nat) :
    Mirrors p (fun k => Regex.again label greedy f k rounds)
      (fun k => Regex.again label greedy f' k rounds) := by
  induction rounds with
  | zero => exact fun _ _ _ _ _ _ _ => rfl
  | succ rounds ih => exact ((hf.comp ih).choose greedy skip).once label

/-- Sets with the same members among the characters of the text. -/
theorem set {s t : CharSet} (hst : ∀ x, p x → s.contains x = t.contains x) :
    Mirrors p (Plan.set s).run (Plan.set t).run := by
  intro k l hk c g v hc
  cases hn : c.next? with
  | none => rw [run_set_of_none hn, run_set_of_none hn]
  | some xd =>
    obtain ⟨x, d⟩ := xd
    obtain ⟨hx, hd⟩ := hc.of_next? hn
    rw [run_set_of_some hn, run_set_of_some hn, hst x hx, hk d g v hd]

/-- Conditions that hold at the same places of the text. -/
theorem look {a b : Look} (hab : ∀ x y : Option Char, (∀ c ∈ x, p c) → (∀ c ∈ y, p c) →
    a.holds x y = b.holds x y) : Mirrors p (Plan.look a).run (Plan.look b).run := by
  intro k l hk c g v hc
  show (if a.holds c.before c.rest.head? then k c g v else .failed v)
    = if b.holds c.before c.rest.head? then l c g v else .failed v
  rw [hab _ _ hc.1 hc.head?, hk c g v hc]

theorem group (index : Nat) {a b : Plan} (hab : Mirrors p a.run b.run) :
    Mirrors p (Plan.group index a).run (Plan.group index b).run := by
  intro k l hk c g v hc
  -- what is behind the group gets one entry more in both
  exact hab _ _ (fun d g v hd => hk d _ v hd) c g v hc

end Mirrors

/-! ## Drafts -/

/-- Drafts of plans that do the same, with the same labels. -/
def Copies (p : Char → Prop) (D E : Plan.Draft) : Prop :=
  ∀ n, Mirrors p (D n).1.run (E n).1.run ∧ (D n).2 = (E n).2

namespace Copies

variable {D D' E E' : Plan.Draft}

theorem pure {a b : Plan} (h : Mirrors p a.run b.run) : Copies p (.pure a) (.pure b) :=
  fun _ => ⟨h, rfl⟩

theorem empty : Copies p (.pure .empty) (.pure .empty) := pure Mirrors.skip

theorem cat (hD : Copies p D D') (hE : Copies p E E') : Copies p (D.cat E) (D'.cat E') := by
  intro n
  -- the second drafts begin with the same label, as the first ones end with the same
  have hfirst := hD n
  have hsecond := hE (D' n).2
  rw [← hfirst.2] at hsecond
  refine ⟨hfirst.1.comp ?_, ?_⟩
  · rw [← hfirst.2]
    exact hsecond.1
  · show (E (D n).2).2 = (E' (D' n).2).2
    rw [hsecond.2, hfirst.2]

theorem maybe (greedy : Bool) (hD : Copies p D D') :
    Copies p (Plan.Draft.maybe greedy D) (Plan.Draft.maybe greedy D') := fun n =>
  ⟨((hD (n + 1)).1.choose greedy .skip).once n, (hD (n + 1)).2⟩

theorem plus (greedy : Bool) (hD : Copies p D D') :
    Copies p (Plan.Draft.plus greedy D) (Plan.Draft.plus greedy D') := by
  refine fun n => ⟨fun k l hk c g v hc => ?_, (hD (n + 1)).2⟩
  -- the number of rounds is bounded by the text that is left, so it is the same too
  have hbody := (hD (n + 1)).1
  exact (hbody.comp (hbody.again n greedy (c.left + 1))) k l hk c g v hc

theorem star (takes greedy : Bool) (hD : Copies p D D') :
    Copies p (D.star takes greedy) (D'.star takes greedy) := by
  cases takes with
  | true =>
    refine fun n => ⟨fun k l hk c g v hc => ?_, (hD (n + 1)).2⟩
    exact ((hD (n + 1)).1.again n greedy (c.left + 1)) k l hk c g v hc
  | false => exact (hD.plus greedy).maybe greedy

theorem times (n : Nat) (hD : Copies p D D') (hE : Copies p E E') :
    Copies p (D.times n E) (D'.times n E') := by
  induction n with
  | zero => exact hE
  | succ n ih => exact hD.cat ih

theorem upTo (greedy : Bool) (n : Nat) (hD : Copies p D D') :
    Copies p (D.upTo greedy n) (D'.upTo greedy n) := by
  induction n with
  | zero => exact empty
  | succ n ih => exact (hD.cat ih).maybe greedy

theorem «repeat» (takes greedy : Bool) (least : Nat) (most : Option Nat) (hD : Copies p D D') :
    Copies p (D.repeat takes greedy least most) (D'.repeat takes greedy least most) := by
  cases most with
  | none =>
    cases least with
    | zero => exact hD.star takes greedy
    | succ least => exact hD.times least (hD.plus greedy)
  | some most =>
    have hrepeat : ∀ F : Plan.Draft, F.repeat takes greedy least (some most)
        = F.times least (F.upTo greedy (most - least)) := by
      intro F
      cases least <;> rfl
    rw [hrepeat, hrepeat]
    exact hD.times least (hD.upTo greedy _)

end Copies

/-! ## Expressions -/

/-- Two expressions cannot be told apart on texts of characters `p`: neither by what they match nor
    by what decides how their repetitions are written out. -/
structure Expr.Alike (p : Char → Prop) (d e : Expr) : Prop where
  copies : Copies p (Plan.draft d) (Plan.draft e)
  takes : d.takes = e.takes
  thin : d.isThin = e.isThin

namespace Expr.Alike

variable {a b d e : Expr}

theorem empty : Alike p .empty .empty := ⟨Copies.empty, rfl, rfl⟩

/-- Sets that are both empty or neither. -/
theorem set {s t : CharSet} (hst : ∀ x, p x → s.contains x = t.contains x)
    (hvoid : s.isVoid = t.isVoid) : Alike p (.set s) (.set t) :=
  ⟨Copies.pure (.set hst), by rw [Expr.takes, Expr.takes, hvoid], rfl⟩

theorem look {l m : Look} (hlm : ∀ x y : Option Char, (∀ c ∈ x, p c) → (∀ c ∈ y, p c) →
    l.holds x y = m.holds x y) : Alike p (.look l) (.look m) :=
  ⟨Copies.pure (.look hlm), rfl, rfl⟩

theorem cat (ha : Alike p a b) (hd : Alike p d e) : Alike p (.cat a d) (.cat b e) := by
  refine ⟨ha.copies.cat hd.copies, ?_, ?_⟩
  · rw [Expr.takes, Expr.takes, ha.takes, hd.takes]
  · rw [Expr.isThin, Expr.isThin, ha.thin, hd.thin]

theorem alt (ha : Alike p a b) (hd : Alike p d e) : Alike p (.alt a d) (.alt b e) := by
  refine ⟨fun n => ?_, ?_, ?_⟩
  · have hfirst := ha.copies (n + 1)
    have hsecond := hd.copies (Plan.draft a (n + 1)).2
    refine ⟨(hfirst.1.first ?_).once n, ?_⟩
    · rw [← hfirst.2]
      exact hsecond.1
    · show (Plan.draft d (Plan.draft a (n + 1)).2).2 = (Plan.draft e (Plan.draft b (n + 1)).2).2
      rw [hsecond.2, hfirst.2]
  · rw [Expr.takes, Expr.takes, ha.takes, hd.takes]
  · rw [Expr.isThin, Expr.isThin, ha.thin, hd.thin]

theorem group (index : Nat) (h : Alike p d e) : Alike p (.group index d) (.group index e) :=
  ⟨fun n => ⟨.group index (h.copies n).1, (h.copies n).2⟩, h.takes, h.thin⟩

theorem «repeat» (least : Nat) (most : Option Nat) (greedy : Bool) (h : Alike p d e) :
    Alike p (.repeat least most greedy d) (.repeat least most greedy e) := by
  refine ⟨?_, ?_, ?_⟩
  · -- whether a star is written out in one way or the other depends on `takes`
    rw [Plan.draft, Plan.draft, h.takes]
    exact h.copies.repeat _ greedy least most
  · rw [Expr.takes, Expr.takes, h.takes]
  · rw [Expr.isThin, Expr.isThin, h.thin]

theorem repeated (least : Nat) (most : Option Nat) (greedy : Bool) (h : Alike p d e) :
    Alike p (.repeated least most greedy d) (.repeated least most greedy e) := by
  rw [Expr.repeated, Expr.repeated, h.thin]
  -- the three forms of a repetition; which one it is depends on `isThin`
  by_cases hmost : most = some 0
  · rw [if_pos hmost, if_pos hmost]
    exact empty
  · rw [if_neg hmost, if_neg hmost]
    by_cases hthin : e.isThin = true
    · rw [if_pos hthin, if_pos hthin]
      by_cases hleast : 0 < least
      · rw [if_pos hleast, if_pos hleast]
        exact h
      · rw [if_neg hleast, if_neg hleast]
        exact h.repeat 0 (some 1) greedy
    · rw [if_neg hthin, if_neg hthin]
      exact h.repeat least most greedy

theorem catAll {ds es : List Expr} (h : List.Forall₂ (Alike p) ds es) :
    Alike p (.catAll ds) (.catAll es) := by
  induction h with
  | nil => exact empty
  | cons hd hds ih =>
    cases hds with
    | nil => exact hd
    | cons _ _ => exact hd.cat ih

theorem altAll {ds es : List Expr} (h : List.Forall₂ (Alike p) ds es) :
    Alike p (.altAll ds) (.altAll es) := by
  induction h with
  | nil => exact empty
  | cons hd hds ih =>
    cases hds with
    | nil => exact hd
    | cons _ _ => exact hd.alt ih

/-- An expression is like itself. -/
theorem refl (e : Expr) : Alike p e e := by
  induction e with
  | empty => exact empty
  | set s => exact set (fun _ _ => rfl) rfl
  | look l => exact look fun _ _ _ _ => rfl
  | cat a b ha hb => exact ha.cat hb
  | alt a b ha hb => exact ha.alt hb
  | group index body ih => exact ih.group index
  | «repeat» least most greedy body ih => exact ih.repeat least most greedy

end Expr.Alike

theorem forall₂_alike_refl (es : List Expr) : List.Forall₂ (Expr.Alike p) es es :=
  List.forall₂_same.2 fun e _ => .refl e

/-! ## Searches -/

end Waymark.Regex
