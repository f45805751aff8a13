/-
  Waymark.Proofs.Route.AllowedValues

  The template of one parameter with a list of allowed values.  Its expression can always be read,
  so a matcher comes of it if the engine has room for the expression; the matcher takes the members
  of the list and nothing else.  The one exception is the empty list: what is written for
  it is what is written for the list of the empty text, which therefore is taken.

  Main statements: `captures?_allowedValues` for the matcher of the template, and
  `isSome_matchPath?_listed` for a route that is made of it.
-/

import Waymark.Proofs.Route.Verdict
import Waymark.Proofs.Template.Canonical
import Waymark.Regex.Estimate

namespace Waymark

open Waymark.Regex Waymark.Regex.Parse Waymark.Template

namespace Template

/-- A text is accepted exactly if it is one of the values, and then it is the value of the
    parameter, unless it is empty. -/
structure AcceptsOnly (m : Matcher) (name : String) (values : List String) (s : String) : Prop where
  accepts : (m.captures? s).isSome = true ↔ s ∈ values
  captured : s ∈ values → s ≠ "" → m.captures? s = some [(name, s)]

/-! ## The expression of a list -/

/-- What a list of values stands for as a whole path: the start of the text, one of the values as
    the first group, the end of the text. -/
def listExpr (values : List String) : Expr :=
  .cat (.look .textStart) (.cat (.group 1 (.altAll (values.map fun v =>
    .catAll (v.toList.map fun c => .set (.single c))))) (.look .textEnd))

/-- What the text of a list of values is read as. -/
def listAst (values : List String) : Ast :=
  .concat [.assertion .lineStart,
    .group (.capture 1) (.group (.plain []) (Ast.ofBranches (values.map fun w => verbatim w.toList))),
    .assertion .lineEnd]

/-- The text that is written for a template of one parameter. -/
def aroundValue (value : String) : String := "^" ++ "(" ++ value ++ ")" ++ "$"

theorem depth_listAst_le (values : List String) : (listAst values).depth ≤ 5 := by
  have hverbatim : Ast.depthAll (values.map fun w => verbatim w.toList) ≤ 1 := by
    apply depthAll_le
    intro ast hast
    obtain ⟨w, -, rfl⟩ := List.mem_map.1 hast
    exact depth_verbatim_le w.toList
  have hbranches := depth_ofBranches_le (values.map fun w => verbatim w.toList)
  simp only [listAst, Ast.depth, Ast.depthAll]
  omega

/-- The text of a list can be read, whatever its values are. -/
theorem read_listed (v : String) (values : List String) :
    read (aroundValue (Condition.oneOf (v :: values)).source).toList
      = .ok (listAst (v :: values)) := by
  let texts := values.map String.toList
  let body := alternatives (v.toList :: texts)
  have htext : (aroundValue (Condition.oneOf (v :: values)).source).toList
      = '^' :: '(' :: '(' :: '?' :: ':' :: (body ++ [')', ')', '$']) := by
    simp [aroundValue, toList_source_oneOf, body, texts]
  let st := State.initial.push (.assertion .lineStart)
  let st₁ := st.inside (.capture 1) 1
  let st₂ := st₁.inside (.plain []) 1
  -- the alternatives fill the inner group, and that fills the outer one
  obtain ⟨st₃, hvalues, hscopes, hcaptures, hnames, hbranches⟩ :=
    reaches_alternatives texts v.toList st₂ [')', ')', '$'] rfl rfl
  have hcontents : st₃.contents
      = Ast.ofBranches ((v :: values).map fun w => verbatim w.toList) := by
    rw [State.contents, hbranches]
    simp [texts, st₂, State.inside, Function.comp_def]
  have hplain : Reaches st₁ ('(' :: '?' :: ':' :: (body ++ [')', ')', '$'])) st₂
      (body ++ [')', ')', '$']) := reaches_plain [] (fun _ => rfl) rfl rfl
  have hinner := Reaches.group hplain hvalues hscopes
  have hcapture : Reaches st ('(' :: '(' :: '?' :: ':' :: (body ++ [')', ')', '$'])) st₁
      ('(' :: '?' :: ':' :: (body ++ [')', ')', '$'])) :=
    reaches_capture rfl (noQuestion_cons (by decide) _)
  have houter := Reaches.group hcapture hinner rfl
  rw [hcontents, hcaptures, hnames] at houter
  have hstart : Reaches .initial ('^' :: '(' :: '(' :: '?' :: ':' :: (body ++ [')', ')', '$'])) st
      ('(' :: '(' :: '?' :: ':' :: (body ++ [')', ')', '$'])) := .single rfl rfl (Nat.le_refl _)
  have hreaches := hstart.trans (houter.trans (.single rfl rfl (Nat.le_refl _)))
  rw [htext]
  exact hreaches.read_eq rfl (Nat.le_trans (depth_listAst_le (v :: values)) (by decide))

theorem meaning_listAst (values : List String) :
    (listAst values).meaning (.initial true) = .ok (listExpr values, .initial true) := by
  have hstart : (Ast.assertion .lineStart).meaning (.initial true)
      = .ok (.look .textStart, .initial true) := rfl
  have hend : (Ast.assertion .lineEnd).meaning (.initial true)
      = .ok (.look .textEnd, .initial true) := rfl
  have hgroup := meaning_capture.2 ⟨_, _, meaning_listed values, Eq.refl (Expr.group 1 _), rfl⟩
  have hlast := meaningAll_cons.2 ⟨_, _, _, hend, meaningAll_nil.2 ⟨rfl, rfl⟩, rfl⟩
  have hrest := meaningAll_cons.2 ⟨_, _, _, hgroup, hlast, rfl⟩
  exact meaning_concat.2 ⟨_, meaningAll_cons.2 ⟨_, _, _, hstart, hrest, rfl⟩, rfl⟩

/-- The empty list is written as the list of the empty text. -/
theorem exprOf_listed [Capacity] (values : List String) (e : Expr) :
    Regex.exprOf true (aroundValue (Condition.oneOf values).source) = .ok e ↔
      Capacity.fits (listExpr values) = true ∧ listExpr values = e := by
  cases values with
  | cons v values => exact exprOf_eq_ok_iff (read_listed v values) (meaning_listAst (v :: values))
  | nil => exact exprOf_eq_ok_iff (read_listed "" []) (meaning_listAst [""])

/-! ## One parameter -/

section

variable {name : String} {conditions : Dict Condition} {values : List String}

/-- A name in angle brackets is a template of one parameter. -/
theorem parse_param (h : IsName name) : parse ("<" ++ name ++ ">") = [.param name] := by
  have hcanonical : Node.CanonicalAll [.param name] := by
    simp only [Node.canonicalAll_cons, Node.Canonical, Node.StandsApart]
    exact ⟨h, trivial, trivial⟩
  have hsource : Node.sourceAll [.param name] = "<" ++ name ++ ">" := by simp
  rw [← hsource]
  exact parse_source_of_canonical hcanonical

theorem exists_compile_listed_iff [Capacity] (pattern : String)
    (h : conditions.get? name = some (.oneOf values)) :
    (∃ m, Matcher.compile pattern [.param name] conditions = .ok m) ↔
      Capacity.fits (listExpr values) = true := by
  have hsketch : Sketch.addAll conditions ⟨"^", [], 1⟩ [.param name]
      = .ok ⟨"^" ++ "(" ++ (Condition.oneOf values).source ++ ")", [(name, 1)], 2⟩ := by
    simp [valueSource, h]
  rw [exists_compile_eq_ok_iff, hsketch]
  constructor
  · rintro ⟨k, e, hk, he⟩
    cases hk
    exact ((exprOf_listed values e).1 he).1
  · intro hfits
    exact ⟨_, listExpr values, rfl, (exprOf_listed values _).2 ⟨hfits, rfl⟩⟩

/-- A template of one parameter reads what its reader takes whole. -/
theorem directCaptures?_param (R : String → Reader) (path : String) :
    directCaptures? R [.param name] path
      = ((R name path.toList).find? fun w => w.2.isEmpty).map fun w =>
          Captured.filled [(name, w.1)] := by
  have hreadings : Node.readingsAll R [.param name] path.toList
      = (R name path.toList).map fun w => ([(name, w.1)], w.2) := by
    simp [List.map_eq_flatMap, List.flatMap_assoc]
  rw [directCaptures?, firstReading?, hreadings,
    find?_map_taken List.isEmpty (fun v => [(name, v)]), Option.map_map, Option.map_map]
  rfl

/-- Of a list only a member of it is taken whole, even where another member is the beginning of it. -/
theorem find?_readListed (values : List String) (s : String) :
    ((readListed values s.toList).find? fun w => w.2.isEmpty)
      = if s ∈ values then some (s.toList, []) else none := by
  by_cases hs : s ∈ values
  · have hmem : (s.toList, []) ∈ readListed values s.toList :=
      mem_readListed.2 ⟨s, hs, rfl, (List.append_nil _).symm⟩
    have hsome : ((readListed values s.toList).find? fun w => w.2.isEmpty).isSome = true :=
      List.find?_isSome.2 ⟨_, hmem, rfl⟩
    obtain ⟨w, hw⟩ := Option.isSome_iff_exists.1 hsome
    -- what leaves nothing has taken all of the text
    have hempty := List.find?_some hw
    have hrest : w.2 = [] := List.isEmpty_iff.1 hempty
    have htaken := append_of_mem_readListed (List.mem_of_find?_eq_some hw)
    rw [hrest, List.append_nil] at htaken
    rw [if_pos hs, hw]
    exact congrArg some (Prod.ext htaken hrest)
  · rw [if_neg hs, List.find?_eq_none]
    intro w hw hempty
    obtain ⟨v, hv, -, htext⟩ := mem_readListed.1 hw
    rw [List.isEmpty_iff.1 hempty, List.append_nil, String.toList_inj] at htext
    exact hs (htext ▸ hv)

/-- The members of a list, and the empty text if there are none, are what a template of one parameter
    with that list reads. -/
theorem directCaptures?_listed {R : String → Reader} (h : R name = Route.readAllowed values)
    (s : String) :
    directCaptures? R [.param name] s = if s ∈ values ∨ values = [] ∧ s = ""
      then some (Captured.filled [(name, s.toList)]) else none := by
  have hmem : s ∈ (if values = [] then [""] else values) ↔ s ∈ values ∨ values = [] ∧ s = "" := by
    by_cases hnil : values = []
    · simp [hnil]
    · simp [hnil]
  rw [directCaptures?_param, h, Route.readAllowed, find?_readListed]
  by_cases hs : s ∈ values ∨ values = [] ∧ s = ""
  · rw [if_pos (hmem.2 hs), if_pos hs, Option.map_some]
  · rw [if_neg fun h => hs (hmem.1 h), if_neg hs, Option.map_none]

theorem captures?_listed [Capacity] {pattern : String} {m : Matcher}
    (h : conditions.get? name = some (.oneOf values))
    (hm : Matcher.compile pattern [.param name] conditions = .ok m) (s : String) :
    m.captures? s = if s ∈ values ∨ values = [] ∧ s = ""
      then some (Captured.filled [(name, s.toList)]) else none := by
  have hsuits : ∀ a ∈ Node.paramsAll [.param name],
      Suits conditions (Route.readAllowed values) a := by
    intro a ha
    rw [List.mem_singleton.1 ha]
    exact Route.suits_readAllowed h
  rw [captures?_eq_directCaptures? hsuits hm s, directCaptures?_listed rfl]

theorem isSome_captures?_listed [Capacity] {pattern : String} {m : Matcher}
    (h : conditions.get? name = some (.oneOf values))
    (hm : Matcher.compile pattern [.param name] conditions = .ok m) (s : String) :
    (m.captures? s).isSome = true ↔ s ∈ values ∨ values = [] ∧ s = "" := by
  rw [captures?_listed h hm]
  by_cases hs : s ∈ values ∨ values = [] ∧ s = ""
  · simp [hs]
  · simp [hs]

/-- A list of allowed values accepts its members and nothing else.  A matcher comes of the template
    of one parameter with such a list exactly if the engine has room for the expression that the
    list stands for, and every text is accepted exactly if it is in the list, but for the empty
    text if nothing is in the list. -/
theorem captures?_allowedValues [Capacity] (hname : IsName name)
    (h : conditions.get? name = some (.oneOf values)) :
    ((∃ m, Matcher.compile ("<" ++ name ++ ">") (parse ("<" ++ name ++ ">")) conditions = .ok m) ↔
      Capacity.fits (listExpr values) = true) ∧
    ∀ m, Matcher.compile ("<" ++ name ++ ">") (parse ("<" ++ name ++ ">")) conditions = .ok m →
      ∀ s, AcceptsOnly m name values s ↔ values ≠ [] ∨ s ≠ "" := by
  rw [parse_param hname]
  refine ⟨exists_compile_listed_iff _ h, ?_⟩
  intro m hm s
  constructor
  · intro honly
    have haccepts := (isSome_captures?_listed h hm s).symm.trans honly.accepts
    by_cases hnil : values = []
    · -- an empty list has no members, so what it accepts is not the text
      right
      rintro rfl
      have hmem := haccepts.1 (Or.inr ⟨hnil, rfl⟩)
      rw [hnil] at hmem
      exact List.not_mem_nil hmem
    · exact Or.inl hnil
  · intro hsome
    refine ⟨?_, ?_⟩
    · rw [isSome_captures?_listed h hm]
      have hexception : ¬ (values = [] ∧ s = "") := fun hempty =>
        hsome.elim (fun hvalues => hvalues hempty.1) (fun hs => hs hempty.2)
      exact or_iff_left hexception
    · intro hs hne
      rw [captures?_listed h hm, if_pos (Or.inl hs)]
      simp [Captured.filled, hne]

end

/-- Values with signs of their own in expressions, one the beginning of another, and the empty
    one. -/
theorem captures?_allowedValues_of_versions :
    let values := ["v1", "v1.0", "v1.0+(x)", "", "v1"]
    let conditions := Dict.empty.insert "p" (.oneOf values)
    IsName "p" ∧ conditions.get? "p" = some (.oneOf values) ∧
    ∃ m, Matcher.compile "<p>" (parse "<p>") conditions = .ok m ∧
      m.captures? "v1.0" = some [("p", "v1.0")] ∧ (m.captures? "v1x0").isSome = false ∧
      m.captures? "v1.0+(x)" = some [("p", "v1.0+(x)")] ∧ (m.captures? "").isSome = true := by
  intro values conditions
  have hname : IsName "p" := ⟨'p', [], rfl, by decide, rfl⟩
  have hget : conditions.get? "p" = some (.oneOf values) := Dict.get?_insert_self _ _ _
  have hpattern : "<" ++ "p" ++ ">" = "<p>" := by decide
  have hlist := captures?_allowedValues hname hget
  rw [hpattern] at hlist
  obtain ⟨hcompiles, hmatches⟩ := hlist
  obtain ⟨m, hm⟩ := hcompiles.2 (by decide +kernel)
  have honly : ∀ s, AcceptsOnly m "p" values s := fun s => (hmatches m hm s).2 (Or.inl (by decide))
  refine ⟨hname, hget, m, hm, ?_, ?_, ?_, ?_⟩
  · exact (honly _).captured (by decide) (by decide)
  · rw [Bool.eq_false_iff, Ne, (honly _).accepts]
    decide
  · exact (honly _).captured (by decide) (by decide)
  · rw [(honly _).accepts]
    decide

/-- No values at all: the empty text is accepted although it is not in the list. -/
theorem captures?_of_no_allowedValues :
    ∃ m, Matcher.compile "<p>" (parse "<p>") (Dict.empty.insert "p" (.oneOf [])) = .ok m ∧
      m.captures? "" = some [] ∧ "" ∉ ([] : List String) := by
  have hsome : ((Matcher.compile "<p>" (parse "<p>")
      (Dict.empty.insert "p" (.oneOf []))).toOption.bind fun m => m.captures? "") = some [] := by
    decide +kernel
  obtain ⟨m, hm, hcaptures⟩ := exists_of_toOption_bind hsome
  exact ⟨m, hm, hcaptures, List.not_mem_nil⟩

end Template

namespace Route

/-- A route of one parameter with a list of values, and without a slash at the end, matches the paths
    that are in the list. -/
theorem isSome_matchPath?_listed [Capacity] {o : Options} {r : Route} {name : String}
    {values : List String} (hr : ofOptions o = .ok r) (hpattern : parse o.pattern = [.param name])
    (hname : isReserved name = false) (h : o.conditions.get? name = some (.oneOf values))
    (hslash : o.slashOptional = false) (hpost : o.postMatch = none) {path : String}
    (hpath : '?' ∉ path.toList) :
    (r.matchPath? path).isSome ↔ path ∈ values ∨ values = [] ∧ path = "" := by
  have hcondition : o.conditionOf name = some (.oneOf values) :=
    (get?_conditionsWith o.conditions o.slashOptional hname).trans h
  have hlisted : o.Listed := by
    refine ⟨hpost, fun a ha => ?_⟩
    rw [hpattern] at ha
    rw [List.mem_singleton.1 ha]
    exact Or.inr ⟨values, hcondition⟩
  have hreader : readerFor o name = readAllowed values := by
    rw [readerFor, hcondition]
  have hfront : front o = [.param name] := by
    rw [front, hpattern, hslash]
    rfl
  -- without a question mark the query is left out, and only the parameter reads
  have hcaptures : r.matcher.captures? path = if path ∈ values ∨ values = [] ∧ path = ""
      then some (Captured.filled [(name, path.toList)]) else none := by
    rw [captures?_eq_readerFor hlisted hr, directCaptures?,
      firstReading?_of_not_mem (fun a ha => exact_front hlisted ha) hpath, hfront]
    exact directCaptures?_listed hreader path
  have hunslashed : slashParam ∉ (Captured.filled [(name, path.toList)]).map (·.1) := by
    intro hmem
    have htaken : slashParam = name := List.mem_singleton.1 ((Captured.map_fst_filled _).subset hmem)
    rw [← htaken] at hname
    exact absurd hname (by decide)
  rw [isSome_matchPath? hlisted hr, hcaptures]
  by_cases hs : path ∈ values ∨ values = [] ∧ path = ""
  · rw [if_pos hs]
    exact iff_of_true ⟨_, rfl, fun hmem => absurd hmem hunslashed⟩ hs
  · rw [if_neg hs]
    simp [hs]

end Route

end Waymark
