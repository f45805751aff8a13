/-
  Waymark.Proofs.Route.Unconditioned

  Routes without conditions.  Whatever the text of the template is, its expression can be read;
  literals are escaped, and nothing in them gets a meaning of its own.  But an expression may not
  be nested deeper than the limit, and every optional group nests it by two levels or three, so
  that a template fails by its groups alone.  There has to be room for it too.

  Main statement: `exists_ofOptions_iff_of_unconditioned`.
-/

import Waymark.Proofs.Route.Reading
import Waymark.Proofs.Template.Blame
import Waymark.Proofs.Template.Canonical
import Waymark.Proofs.Template.Groups
import Waymark.Proofs.Template.Readable
import Waymark.Regex.Estimate

namespace Waymark

open Waymark.Regex Waymark.Regex.Parse Waymark.Template

namespace Route

/-! ## Values -/

/-- What the text of a parameter's values comes to: what is read, how deep it is nested, and what it
    means. -/
structure ValueForm where
  items : List Ast
  nesting : Nat
  expr : Expr

/-- The values of the two reserved parameters are the rest of a line and, if it is there, a slash;
    those of all others are words. -/
def valueForm (slashOptional : Bool) (name : String) : ValueForm :=
  if name = queryParam then
    ⟨[.repetition 0 none true .dot], 1, .repeat 0 none true (.set lineSet)⟩
  else if slashOptional = true ∧ name = slashParam then
    ⟨[.literal ⟨'/', false⟩], 0, .set (.single '/')⟩
  else
    ⟨[.repetition 1 none true (.bracketed false wordItems)], 3, .repeat 1 none true (.set wordSet)⟩

theorem nesting_valueForm_le (slashOptional : Bool) (name : String) :
    (valueForm slashOptional name).nesting ≤ 3 := by
  rw [valueForm]
  split
  · exact Nat.le_add_left 1 2
  · split
    · exact Nat.zero_le 3
    · exact Nat.le_refl 3

/-- No value is large.  The class of a line is, but the name that asks for it is long. -/
theorem builtWithin_valueForm (slashOptional : Bool) (name : String) :
    (valueForm slashOptional name).expr.BuiltWithin (448 + 256 * name.length) := by
  have hline : (Expr.set lineSet).BuiltWithin 1040 := .other (by decide)
  have hranges : wordSet.asciiRanges? = some 7 := by decide
  have hword := Expr.BuiltWithin.ascii hranges
  rw [valueForm]
  split
  · next hquery =>
    subst hquery
    exact (hline.star true).mono (by decide)
  · split
    · exact (Expr.BuiltWithin.char '/').mono (Nat.le_add_right_of_le (by decide))
    · exact (hword.plus true).mono (Nat.le_add_right_of_le (by decide))

/-- The text of a parameter's values comes to what is known of it. -/
abbrev MeasuredForm (value : String) (f : ValueForm) : Prop :=
  Measured value f.items f.nesting f.expr

theorem measured_plainValue :
    Measured plainValue [.repetition 1 none true (.bracketed false wordItems)] 3
      (.repeat 1 none true (.set wordSet)) := by
  have hclass : ∀ (st : State) (t : List Char), st.verbose = false →
      step st '[' ("A-Za-z0-9_.~\\-]".toList ++ t)
        = .ok (st.push (.bracketed false wordItems), t) := by
    intro st t hv
    show (readClass st.verbose _ >>= fun read => pure (st.push read.1, read.2)) = _
    rw [hv, readClass_wordItems]
    rfl
  refine ⟨Reads.ofStep_repeat (by decide) hclass repeatsBy_plus (fun _ _ => rfl), ?_, rfl⟩
  simp [Ast.ofItems, Ast.depth, wordItems, ClassSet.depth, ClassSet.depthAll]

theorem measured_slash :
    Measured (Regex.escape "/") [.literal ⟨'/', false⟩] 0 (.set (.single '/')) :=
  ⟨Reads.escape ['/'], by simp [Ast.ofItems], rfl⟩

theorem measured_query :
    Measured ".*" [.repetition 0 none true .dot] 1 (.repeat 0 none true (.set lineSet)) := by
  have hdot : ∀ (st : State) (t : List Char), st.verbose = false →
      step st '.' ([] ++ t) = .ok (st.push .dot, t) := fun _ _ _ => rfl
  exact ⟨Reads.ofStep_repeat (by decide) hdot repeatsBy_star (fun _ _ => rfl),
    by simp [Ast.ofItems, Ast.depth], rfl⟩

/-- Without conditions the values of every parameter are known. -/
theorem valueSource_unconditioned [Capacity] (slashOptional : Bool) (name : String) :
    ∃ value, valueSource (conditionsWith .empty slashOptional) name = .ok (value, 0) ∧
      MeasuredForm value (valueForm slashOptional name) := by
  have hne : queryParam ≠ slashParam := by decide
  by_cases hquery : name = queryParam
  · subst hquery
    refine ⟨".*", valueSource_reserved (by decide) (get?_conditionsWith_query _ _)
      groups_compile_query, ?_⟩
    rw [valueForm, if_pos rfl]
    exact measured_query
  · rw [valueForm, if_neg hquery]
    by_cases hslash : slashOptional = true ∧ name = slashParam
    · obtain ⟨rfl, rfl⟩ := hslash
      refine ⟨Regex.escape "/", valueSource_reserved (by decide) (get?_conditionsWith_slash _)
        groups_compile_slash, ?_⟩
      rw [if_pos ⟨rfl, rfl⟩]
      exact measured_slash
    · -- no other name has a condition
      have hnone : (conditionsWith .empty slashOptional).get? name = none := by
        rw [conditionsWith, Dict.get?_insert, if_neg hquery]
        cases slashOptional with
        | false => rfl
        | true =>
          show ((Dict.empty : Dict Condition).insert _ _).get? name = none
          rw [Dict.get?_insert, if_neg fun h => hslash ⟨rfl, h⟩]
          rfl
      refine ⟨plainValue, by rw [valueSource, hnone], ?_⟩
      rw [if_neg hslash]
      exact measured_plainValue

/-! ## Routes -/

/-- The text that is compiled for a route without conditions. -/
def plainExpression [Capacity] (pattern : String) (slashOptional : Bool) : String :=
  expressionOf (valueText (conditionsWith .empty slashOptional)) (treeOf pattern slashOptional)

/-- What that text means. -/
def plainExpr (pattern : String) (slashOptional : Bool) : Expr :=
  templateExpr (fun a => (valueForm slashOptional a).expr) (treeOf pattern slashOptional)

/-- Whether a route without conditions keeps within the limits of expressions: it is not nested too
    deep, and the engine has room for what it means. -/
def FitsLimits [Capacity] (pattern : String) (slashOptional : Bool) : Prop :=
  Node.nestingAll (fun a => (valueForm slashOptional a).nesting) (treeOf pattern slashOptional) + 1
      ≤ depthLimit ∧
    Capacity.fits (plainExpr pattern slashOptional) = true

instance [Capacity] (pattern : String) (slashOptional : Bool) :
    Decidable (FitsLimits pattern slashOptional) :=
  inferInstanceAs (Decidable (_ ∧ _))

theorem exprOf_plainExpression_eq_ok_iff [Capacity] {pattern : String} {slashOptional : Bool}
    {e : Expr} :
    Regex.exprOf true (plainExpression pattern slashOptional) = .ok e ↔
      FitsLimits pattern slashOptional ∧ plainExpr pattern slashOptional = e := by
  have hmeasured : ∀ a ∈ Node.paramsAll (treeOf pattern slashOptional),
      MeasuredForm (valueText (conditionsWith .empty slashOptional) a)
        (valueForm slashOptional a) := by
    intro a _
    obtain ⟨value, hvalue, hmeasured⟩ := valueSource_unconditioned slashOptional a
    rw [valueText_eq hvalue]
    exact hmeasured
  rw [plainExpression, exprOf_expressionOf_eq_ok_iff hmeasured, FitsLimits, and_assoc]
  rfl

/-- A route without conditions is made if it keeps within the limits, and otherwise the error holds
    the complete expression. -/
theorem ofOptions_of_unconditioned [Capacity] {o : Options} (h : o.conditions = .empty) :
    (FitsLimits o.pattern o.slashOptional ∧ ∃ r, ofOptions o = .ok r) ∨
      (¬ FitsLimits o.pattern o.slashOptional ∧
        ofOptions o
          = .error (.badExpression o.pattern (plainExpression o.pattern o.slashOptional))) := by
  -- no value is refused, so the whole expression decides
  have hnone : (Node.paramsAll (treeOf o.pattern o.slashOptional)).findSome?
      (refusal? (conditionsWith o.conditions o.slashOptional)) = none := by
    rw [List.findSome?_eq_none_iff, h]
    intro a _
    obtain ⟨value, hvalue, -⟩ := valueSource_unconditioned o.slashOptional a
    exact refusal?_eq_none_iff.2 ⟨_, hvalue⟩
  rw [ofOptions]
  rcases @compile_of_written _ _ o.pattern _ hnone with ⟨r, hr, hm⟩ | ⟨hr, hm⟩
  · rw [hm]
    rw [h] at hr
    obtain ⟨e, he, -⟩ := map_eq_ok.1 hr
    exact Or.inl ⟨(exprOf_plainExpression_eq_ok_iff.1 he).1, _, rfl⟩
  · rw [hm]
    rw [h] at hr ⊢
    refine Or.inr ⟨fun hfits => ?_, rfl⟩
    exact hr _ (map_eq_ok.2 ⟨_, exprOf_plainExpression_eq_ok_iff.2 ⟨hfits, rfl⟩, rfl⟩)

/-- Templates that are not too long and not nested too deep fit, whatever else the engine has room
    for. -/
theorem fitsLimits_of_le [Capacity] {pattern : String} (slashOptional : Bool)
    (hlevels : Node.levelsAll (parse pattern) ≤ 81) (hlength : pattern.length ≤ 40000) :
    FitsLimits pattern slashOptional := by
  -- the groups that every route adds behind its template
  let groups := slashGroups slashOptional ++ [queryGroup]
  have hgroups : Node.nestingAll (fun a => (valueForm slashOptional a).nesting) groups ≤ 5 ∧
      (Node.sourceAll groups).length ≤ 29 := by
    cases slashOptional <;> decide
  have hnesting := Node.nestingAll_le (nesting_valueForm_le slashOptional) (parse pattern)
  have htree : treeOf pattern slashOptional = parse pattern ++ groups := treeOf_eq _ _
  have hsource : (Node.sourceAll (parse pattern ++ groups)).length
      = pattern.length + (Node.sourceAll groups).length := by
    rw [← String.length_toList, toList_sourceAll_append, List.length_append, String.length_toList,
      String.length_toList, sourceAll_parse]
  have hroom : (plainExpr pattern slashOptional).BuiltWithin _ :=
    builtWithin_templateExpr (treeOf pattern slashOptional) (builtWithin_valueForm slashOptional)
  rw [htree, hsource] at hroom
  refine ⟨?_, Capacity.fits_of_builtWithin hroom ?_⟩
  · rw [htree, Node.nestingAll_append, depthLimit]
    omega
  · rw [Expr.sizeLimit]
    omega

/-- When a route without conditions can be made.  Whatever its template holds and whether or not it
    takes a slash at the end, it is made exactly if its expression is not nested deeper than 250
    levels and the engine has room for what the template means; that is so for every template of
    40000 characters with groups nested 81 deep.  What fails carries the complete expression, so it
    is no condition that is blamed. -/
theorem exists_ofOptions_iff_of_unconditioned [Capacity] {o : Options} (h : o.conditions = .empty) :
    ((∃ r, ofOptions o = .ok r) ↔ FitsLimits o.pattern o.slashOptional) ∧
      (Node.levelsAll (parse o.pattern) ≤ 81 → o.pattern.length ≤ 40000 →
        ∃ r, ofOptions o = .ok r) ∧
      ∀ e, ofOptions o = .error e →
        e = .badExpression o.pattern (plainExpression o.pattern o.slashOptional) := by
  rcases ofOptions_of_unconditioned h with ⟨hfits, r, hr⟩ | ⟨hfits, hr⟩
  · exact ⟨iff_of_true ⟨r, hr⟩ hfits, fun _ _ => ⟨r, hr⟩,
      fun e he => absurd (hr.symm.trans he) (by simp)⟩
  · refine ⟨iff_of_false ?_ hfits, fun hlevels hlength => ?_, fun e he => ?_⟩
    · rintro ⟨r, hr'⟩
      exact absurd (hr.symm.trans hr') (by simp)
    · exact absurd (fitsLimits_of_le o.slashOptional hlevels hlength) hfits
    · exact (Except.error.inj (hr.symm.trans he)).symm

/-- Text that is full of signs with a meaning in expressions is no obstacle. -/
theorem exists_ofOptions_of_signs :
    (Options.ofPattern "/[a|*+^(?.$(\\<x>\x7b2\x7d))(").conditions = .empty ∧
      ∃ r, ofOptions (.ofPattern "/[a|*+^(?.$(\\<x>\x7b2\x7d))(") = .ok r :=
  ⟨rfl, (exists_ofOptions_iff_of_unconditioned rfl).2.1 (by decide +kernel) (by decide)⟩

/-! ## Nested groups -/

/-- Groups inside one another, with a letter in each. -/
def nestedGroups : Nat → List Node
  | 0 => []
  | n + 1 => [.group (.literal "a" :: nestedGroups n)]

theorem canonicalAll_nestedGroups (n : Nat) : Node.CanonicalAll (nestedGroups n) := by
  induction n with
  | zero => exact trivial
  | succ n ih =>
    have hliteral : (Node.literal "a").Canonical := by
      rw [Node.Canonical]
      decide
    have happart : (Node.literal "a").StandsApart (nestedGroups n) := by
      cases n <;> exact trivial
    rw [nestedGroups, Node.CanonicalAll, Node.Canonical, Node.CanonicalAll]
    exact ⟨⟨hliteral, happart, ih⟩, trivial, trivial⟩

/-- Every group is three levels more but the innermost, in which nothing stands beside the letter. -/
theorem nestingAll_nestedGroups (value : String → Nat) (n : Nat) :
    Node.nestingAll value (nestedGroups (n + 1)) = 3 * n + 2 := by
  induction n with
  | zero => rfl
  | succ n ih =>
    have hwidth : 1 < Node.widthAll (.literal "a" :: nestedGroups (n + 1)) := by
      simp [Node.widthAll, nestedGroups, Node.width]
    rw [nestedGroups, Node.nestingAll, Node.nestingAll, Node.nesting, if_pos hwidth, Node.nestingAll,
      Node.nesting, ih]
    omega

/-- Nested groups alone make the expression of a template fail, from the 84th on. -/
theorem ofPattern_nestedGroups [Capacity] {n : Nat} (h : 84 ≤ n) :
    ofPattern (Node.sourceAll (nestedGroups n))
      = .error (.badExpression (Node.sourceAll (nestedGroups n))
        (plainExpression (Node.sourceAll (nestedGroups n)) true)) := by
  obtain ⟨m, rfl⟩ : ∃ m, n = m + 1 := ⟨n - 1, by omega⟩
  have hfits : ¬ FitsLimits (Node.sourceAll (nestedGroups (m + 1))) true := by
    rintro ⟨hdepth, -⟩
    rw [treeOf_eq, parse_source_of_canonical (canonicalAll_nestedGroups (m + 1)),
      Node.nestingAll_append, nestingAll_nestedGroups, depthLimit] at hdepth
    omega
  rcases @ofOptions_of_unconditioned _ (.ofPattern (Node.sourceAll (nestedGroups (m + 1)))) rfl with
    ⟨hfits', -⟩ | ⟨-, hr⟩
  · exact absurd hfits' hfits
  · exact hr

/-- Without any condition, a template of 84 groups inside one another is refused. -/
theorem ofPattern_of_84_groups :
    (Options.ofPattern (Node.sourceAll (nestedGroups 84))).conditions = .empty ∧
      ∀ r, ofPattern (Node.sourceAll (nestedGroups 84)) ≠ .ok r := by
  refine ⟨rfl, fun r hr => ?_⟩
  rw [ofPattern_nestedGroups (Nat.le_refl 84)] at hr
  exact absurd hr (by simp)

end Route

end Waymark
