/-
  Waymark.Proofs.Template.Expression

  What the expression of a template means.  The text of a tree is read piece by piece, its groups
  one level at a time; what stands for a parameter is only known to fill its group.

  Main statement: `exprOf_sketch`, the expression of a template is the start of the text, then what
  its nodes mean one after another, then the end of the text.
-/

import Waymark.Proofs.Regex.Sequence
import Waymark.Proofs.Template.Dependents
import Waymark.Proofs.Template.Written

namespace Waymark.Template

open Waymark.Regex Waymark.Regex.Parse

/-! ## Groups of parameters -/

/-- How many groups the values of parameters open, each in a group of its own; `inner` says how
    many a value opens inside. -/
def openedBy (inner : String → Nat) : List String → Nat
  | [] => 0
  | a :: as => inner a + 1 + openedBy inner as

@[simp] theorem openedBy_nil (inner : String → Nat) : openedBy inner [] = 0 := rfl

@[simp] theorem openedBy_cons (inner : String → Nat) (a : String) (as : List String) :
    openedBy inner (a :: as) = inner a + 1 + openedBy inner as := rfl

/-- The parameters with their groups, when `k` groups were opened before. -/
def slotsOf (inner : String → Nat) (k : Nat) : List String → List (String × Nat)
  | [] => []
  | a :: as => (a, k + 1) :: slotsOf inner (k + 1 + inner a) as

@[simp] theorem slotsOf_nil (inner : String → Nat) (k : Nat) : slotsOf inner k [] = [] := rfl

@[simp] theorem slotsOf_cons (inner : String → Nat) (k : Nat) (a : String) (as : List String) :
    slotsOf inner k (a :: as) = (a, k + 1) :: slotsOf inner (k + 1 + inner a) as := rfl

theorem openedBy_append (inner : String → Nat) (as bs : List String) :
    openedBy inner (as ++ bs) = openedBy inner as + openedBy inner bs := by
  induction as with
  | nil => simp
  | cons a as ih => simp [ih, Nat.add_assoc]

theorem slotsOf_append (inner : String → Nat) (k : Nat) (as bs : List String) :
    slotsOf inner k (as ++ bs)
      = slotsOf inner k as ++ slotsOf inner (k + openedBy inner as) bs := by
  induction as generalizing k with
  | nil => rfl
  | cons a as ih =>
    have hk : k + 1 + inner a + openedBy inner as = k + (inner a + 1 + openedBy inner as) := by
      omega
    simp [ih, hk]

theorem map_fst_slotsOf (inner : String → Nat) (k : Nat) (as : List String) :
    (slotsOf inner k as).map (·.1) = as := by
  induction as generalizing k with
  | nil => rfl
  | cons a as ih => simp [ih]

/-- What the last value opens inside does not count. -/
theorem slotsOf_congr {inner inner' : String → Nat} (k : Nat) {as : List String}
    (h : ∀ a ∈ as.dropLast, inner a = inner' a) : slotsOf inner k as = slotsOf inner' k as := by
  induction as generalizing k with
  | nil => rfl
  | cons a as ih =>
    cases as with
    | nil => rfl
    | cons b bs =>
      rw [List.dropLast_cons_cons] at h
      have hrest := ih (k + 1 + inner a) fun c hc => h c (List.mem_cons_of_mem a hc)
      rw [slotsOf_cons, hrest, h a List.mem_cons_self]
      rfl

/-- The groups of parameters tell how many groups each value opens inside, but for the last. -/
theorem inner_eq_of_slotsOf {inner inner' : String → Nat} {k : Nat} {as : List String}
    (h : slotsOf inner k as = slotsOf inner' k as) : ∀ a ∈ as.dropLast, inner a = inner' a := by
  induction as generalizing k with
  | nil => exact fun a ha => absurd ha List.not_mem_nil
  | cons a as ih =>
    obtain ⟨-, h⟩ := List.cons.inj h
    cases as with
    | nil => exact fun c hc => absurd hc List.not_mem_nil
    | cons b bs =>
      have ha : inner a = inner' a := by
        have hslot := (List.cons.inj h).1
        rw [Prod.mk.injEq] at hslot
        omega
      rw [List.dropLast_cons_cons]
      intro c hc
      rcases List.mem_cons.1 hc with rfl | hc
      · exact ha
      · rw [ha] at h
        exact ih h c hc

/-! ## Readings -/

section

variable (V : String → Nat → Ast) (E : String → Nat → Expr) (inner : String → Nat)

mutual

/-- What the text of a node is read as; `V` says what stands inside the group of a parameter. -/
def Node.asts (k : Nat) : Node → List Ast
  | .literal text => text.toList.map fun c => .literal ⟨c, false⟩
  | .param name => [.group (.capture (k + 1)) (V name (k + 1))]
  | .group children =>
    [.repetition 0 (some 1) true (.group (.plain []) (.ofItems (Node.astsAll k children)))]

/-- What the text of nodes is read as. -/
def Node.astsAll (k : Nat) : List Node → List Ast
  | [] => []
  | n :: ns => n.asts k ++ Node.astsAll (k + openedBy inner n.params) ns

end

mutual

/-- What a node means; `E` says what the value of a parameter means. -/
def Node.exprs (k : Nat) : Node → List Expr
  | .literal text => text.toList.map fun c => .set (.single c)
  | .param name => [.group (k + 1) (E name (k + 1))]
  | .group children => [.repeat 0 (some 1) true (.catAll (Node.exprsAll k children))]

/-- What nodes mean, one after another. -/
def Node.exprsAll (k : Nat) : List Node → List Expr
  | [] => []
  | n :: ns => n.exprs k ++ Node.exprsAll (k + openedBy inner n.params) ns

end

@[simp] theorem Node.asts_literal (k : Nat) (text : String) :
    (Node.literal text).asts V inner k = text.toList.map fun c => .literal ⟨c, false⟩ := rfl

@[simp] theorem Node.asts_param (k : Nat) (name : String) :
    (Node.param name).asts V inner k = [.group (.capture (k + 1)) (V name (k + 1))] := rfl

@[simp] theorem Node.asts_group (k : Nat) (children : List Node) :
    (Node.group children).asts V inner k =
      [.repetition 0 (some 1) true
        (.group (.plain []) (.ofItems (Node.astsAll V inner k children)))] := rfl

@[simp] theorem Node.astsAll_nil (k : Nat) : Node.astsAll V inner k [] = [] := rfl

@[simp] theorem Node.astsAll_cons (k : Nat) (n : Node) (ns : List Node) :
    Node.astsAll V inner k (n :: ns) =
      n.asts V inner k ++ Node.astsAll V inner (k + openedBy inner n.params) ns := rfl

@[simp] theorem Node.exprs_literal (k : Nat) (text : String) :
    (Node.literal text).exprs E inner k = text.toList.map fun c => .set (.single c) := rfl

@[simp] theorem Node.exprs_param (k : Nat) (name : String) :
    (Node.param name).exprs E inner k = [.group (k + 1) (E name (k + 1))] := rfl

@[simp] theorem Node.exprs_group (k : Nat) (children : List Node) :
    (Node.group children).exprs E inner k =
      [.repeat 0 (some 1) true (.catAll (Node.exprsAll E inner k children))] := rfl

@[simp] theorem Node.exprsAll_nil (k : Nat) : Node.exprsAll E inner k [] = [] := rfl

@[simp] theorem Node.exprsAll_cons (k : Nat) (n : Node) (ns : List Node) :
    Node.exprsAll E inner k (n :: ns) =
      n.exprs E inner k ++ Node.exprsAll E inner (k + openedBy inner n.params) ns := rfl

end

/-! ## Texts -/

/-- How many groups the value of a parameter is counted to open. -/
def countedIn [Capacity] (conditions : Dict Condition) (name : String) : Nat :=
  match valueSource conditions name with
  | .ok (_, n) => n
  | .error _ => 0

/-- What is written for the values of a parameter fills a group. -/
def Filled [Capacity] (conditions : Dict Condition) (V : String → Nat → Ast) (inner : String → Nat)
    (name : String) : Prop :=
  ∀ value n, valueSource conditions name = .ok (value, n) →
    Fills value.toList (V name) (inner name)

mutual

/-- The text of a node adds the items that the node is read as. -/
theorem Node.adds_expression {value : String → String} {V : String → Nat → Ast}
    {inner : String → Nat} (n : Node)
    (hfill : ∀ a ∈ n.params, Fills (value a).toList (V a) (inner a)) :
    Adds (n.expression value).toList (fun i => n.asts V inner i) (openedBy inner n.params) := by
  cases n with
  | literal text =>
    rw [Node.expression_literal, Regex.escape, String.toList_ofList]
    exact Adds.escape text.toList
  | param name =>
    have htext : (Node.expression value (.param name)).toList
        = '(' :: ((value name).toList ++ [')']) := by
      simp
    rw [htext]
    exact (AddsBefore.capture (hfill name (List.mem_singleton_self name))).toAdds
  | group children =>
    have htext : (Node.expression value (.group children)).toList
        = '(' :: '?' :: ':' :: ((Node.expressionAll value children).toList ++ [')', '?']) := by
      simp
    rw [htext]
    -- what the children add fills the group that is written around it
    exact Adds.optional (Fills.ofAdds (Node.adds_expressionAll children hfill))

theorem Node.adds_expressionAll {value : String → String} {V : String → Nat → Ast}
    {inner : String → Nat} (ns : List Node)
    (hfill : ∀ a ∈ Node.paramsAll ns, Fills (value a).toList (V a) (inner a)) :
    Adds (Node.expressionAll value ns).toList (fun i => Node.astsAll V inner i ns)
      (openedBy inner (Node.paramsAll ns)) := by
  cases ns with
  | nil => exact Adds.nil
  | cons n ns =>
    rw [Node.paramsAll_cons] at hfill ⊢
    rw [Node.expressionAll_cons, String.toList_append, openedBy_append]
    exact (Node.adds_expression n fun a ha => hfill a (List.mem_append_left _ ha)).append
      (Node.adds_expressionAll ns fun a ha => hfill a (List.mem_append_right _ ha))

end

/-! ## Slots -/

mutual

theorem Sketch.slots_add [Capacity] {conditions : Dict Condition} {k k' : Sketch} {i : Nat}
    (n : Node) (hi : k.next = i + 1) (h : Sketch.add conditions k n = .ok k') :
    k'.slots.reverse = k.slots.reverse ++ slotsOf (countedIn conditions) i n.params ∧
      k'.next = i + openedBy (countedIn conditions) n.params + 1 := by
  cases n with
  | literal text =>
    obtain rfl := Sketch.add_literal.1 h
    exact ⟨(List.append_nil _).symm, hi⟩
  | param name =>
    obtain ⟨value, counted, hv, rfl⟩ := Sketch.add_param.1 h
    have hcounted : countedIn conditions name = counted := by
      rw [countedIn, hv]
    refine ⟨by simp [hi], ?_⟩
    show k.next + 1 + counted = _
    rw [Node.params_param, openedBy_cons, openedBy_nil, hcounted]
    omega
  | group children =>
    obtain ⟨k₁, hc, rfl⟩ := Sketch.add_group.1 h
    have hi' : ({ k with source := k.source ++ "(?:" } : Sketch).next = i + 1 := hi
    have hrec := Sketch.slots_addAll children hi' hc
    exact hrec

theorem Sketch.slots_addAll [Capacity] {conditions : Dict Condition} {k k' : Sketch} {i : Nat}
    (ns : List Node) (hi : k.next = i + 1) (h : Sketch.addAll conditions k ns = .ok k') :
    k'.slots.reverse = k.slots.reverse ++ slotsOf (countedIn conditions) i (Node.paramsAll ns) ∧
      k'.next = i + openedBy (countedIn conditions) (Node.paramsAll ns) + 1 := by
  cases ns with
  | nil =>
    obtain rfl := Sketch.addAll_nil.1 h
    exact ⟨(List.append_nil _).symm, hi⟩
  | cons n ns =>
    obtain ⟨k₁, hn, h⟩ := Sketch.addAll_cons.1 h
    obtain ⟨hslots, hnext⟩ := Sketch.slots_add n hi hn
    obtain ⟨hslots', hnext'⟩ := Sketch.slots_addAll ns hnext h
    rw [Node.paramsAll_cons, slotsOf_append, openedBy_append, hslots', hslots, hnext',
      List.append_assoc, Nat.add_assoc i]
    exact ⟨rfl, rfl⟩

end

/-! ## Meanings -/

mutual

theorem Node.meaning_asts {V : String → Nat → Ast} {inner : String → Nat} {i : Nat}
    {es : List Expr} {m : Modes} (n : Node)
    (h : Ast.meaningAll (.initial true) (n.asts V inner i) = .ok (es, m)) :
    es = n.exprs (fun a k => meaningOf (V a k)) inner i ∧ m = .initial true := by
  cases n with
  | literal text =>
    rw [Node.asts_literal, meaningAll_literals] at h
    cases h
    exact ⟨rfl, rfl⟩
  | param name =>
    obtain ⟨e, m₁, fs, he, hfs, rfl⟩ := meaningAll_cons.1 h
    obtain ⟨rfl, rfl⟩ := meaningAll_nil.1 hfs
    obtain ⟨f, m₂, hf, rfl, rfl⟩ := meaning_capture.1 he
    rw [Node.exprs_param, meaningOf_eq hf]
    exact ⟨rfl, rfl⟩
  | group children =>
    obtain ⟨e, m₁, fs, he, hfs, rfl⟩ := meaningAll_cons.1 h
    obtain ⟨rfl, rfl⟩ := meaningAll_nil.1 hfs
    obtain ⟨f, hf, rfl⟩ := meaning_repetition.1 he
    obtain ⟨m₂, hg, rfl⟩ := meaning_plain.1 hf
    obtain ⟨es, hes, rfl⟩ := meaning_ofItems.1 hg
    obtain ⟨rfl, -⟩ := Node.meaning_astsAll children hes
    exact ⟨congrArg (fun e => [e]) (Expr.repeated_optional true _), rfl⟩

theorem Node.meaning_astsAll {V : String → Nat → Ast} {inner : String → Nat} {i : Nat}
    {es : List Expr} {m : Modes} (ns : List Node)
    (h : Ast.meaningAll (.initial true) (Node.astsAll V inner i ns) = .ok (es, m)) :
    es = Node.exprsAll (fun a k => meaningOf (V a k)) inner i ns ∧ m = .initial true := by
  cases ns with
  | nil =>
    obtain ⟨rfl, rfl⟩ := meaningAll_nil.1 h
    exact ⟨rfl, rfl⟩
  | cons n ns =>
    obtain ⟨fs, m₁, gs, hfs, hgs, rfl⟩ := meaningAll_append.1 h
    obtain ⟨rfl, rfl⟩ := Node.meaning_asts n hfs
    obtain ⟨rfl, rfl⟩ := Node.meaning_astsAll ns hgs
    exact ⟨rfl, rfl⟩

end

/-! ## The whole expression -/

/-- What nodes mean between the signs for the start and the end of the text. -/
theorem meaning_anchored {V : String → Nat → Ast} {inner : String → Nat} {tree : List Node}
    {es : List Expr} {m : Modes}
    (h : Ast.meaningAll (.initial true)
      (.assertion .lineStart :: (Node.astsAll V inner 0 tree ++ [.assertion .lineEnd]))
        = .ok (es, m)) :
    es = .look .textStart ::
      (Node.exprsAll (fun a i => meaningOf (V a i)) inner 0 tree ++ [.look .textEnd]) := by
  obtain ⟨d, m₁, fs, hd, hfs, rfl⟩ := meaningAll_cons.1 h
  obtain ⟨rfl, rfl⟩ := meaning_assertion.1 hd
  obtain ⟨gs, m₂, ds, hgs, hds, rfl⟩ := meaningAll_append.1 hfs
  -- the nodes leave the modes as they are, so the end is that of the text, not of a line
  obtain ⟨rfl, rfl⟩ := Node.meaning_astsAll tree hgs
  obtain ⟨d, m₃, fs, hd, hfs, rfl⟩ := meaningAll_cons.1 hds
  obtain ⟨rfl, rfl⟩ := meaning_assertion.1 hd
  obtain ⟨rfl, -⟩ := meaningAll_nil.1 hfs
  rfl

/-- What is written for a template means its nodes, from the start of the text to its end. -/
theorem exprOf_expression [Capacity] {value : String → String} {V : String → Nat → Ast}
    {inner : String → Nat} {tree : List Node} {e : Expr}
    (hfill : ∀ a ∈ Node.paramsAll tree, Fills (value a).toList (V a) (inner a))
    (he : Regex.exprOf true (expressionOf value tree) = .ok e) :
    e = .cat (.look .textStart) (.catAll
      (Node.exprsAll (fun a i => meaningOf (V a i)) inner 0 tree ++ [.look .textEnd])) := by
  have hstart : Adds ['^'] (fun _ => [.assertion .lineStart]) 0 :=
    (AddsBefore.ofStep (by decide) (fun _ _ _ => rfl)).toAdds
  have hend : Adds ['$'] (fun _ => [.assertion .lineEnd]) 0 :=
    (AddsBefore.ofStep (by decide) (fun _ _ _ => rfl)).toAdds
  have hsource : (expressionOf value tree).toList
      = ['^'] ++ ((Node.expressionAll value tree).toList ++ ['$']) := by
    simp [expressionOf]
  rw [Regex.exprOf, hsource, bind_eq_ok] at he
  obtain ⟨ast, hast, he⟩ := he
  have hadds := hstart.append ((Node.adds_expressionAll tree hfill).append hend)
  rw [hadds.read hast, bind_eq_ok] at he
  obtain ⟨⟨f, m⟩, hf, he⟩ := he
  obtain ⟨es, hes, rfl⟩ := meaning_ofItems.1 hf
  change Ast.meaningAll _
    (.assertion .lineStart :: (Node.astsAll V inner 0 tree ++ [.assertion .lineEnd])) = _ at hes
  rw [← (guard_eq_ok he).2, meaning_anchored hes]
  exact catAll_cons (by simp)

/-- The expression of a template: from the start of the text to its end, its nodes. -/
theorem exprOf_sketch [Capacity] {conditions : Dict Condition} {V : String → Nat → Ast}
    {inner : String → Nat} {tree : List Node} {k : Sketch} {e : Expr}
    (hfill : ∀ a ∈ Node.paramsAll tree, Filled conditions V inner a)
    (hk : Sketch.addAll conditions ⟨"^", [], 1⟩ tree = .ok k)
    (he : Regex.exprOf true (k.source ++ "$") = .ok e) :
    e = .cat (.look .textStart) (.catAll
      (Node.exprsAll (fun a i => meaningOf (V a i)) inner 0 tree ++ [.look .textEnd])) := by
  rw [source_whole hk] at he
  refine exprOf_expression (fun a ha => ?_) he
  obtain ⟨⟨value, n⟩, hvalue⟩ := exists_valueSource_of_addAll hk a ha
  rw [valueText_eq hvalue]
  exact hfill a ha value n hvalue

/-- What a compiled template is made from. -/
theorem compile_eq_ok [Capacity] {pattern : String} {tree : List Node} {conditions : Dict Condition}
    {m : Matcher} (h : Matcher.compile pattern tree conditions = .ok m) :
    ∃ k e, Sketch.addAll conditions ⟨"^", [], 1⟩ tree = .ok k ∧
      Regex.exprOf true (k.source ++ "$") = .ok e ∧
      m = ⟨Regex.ofExpr (k.source ++ "$") e, k.slots.reverse⟩ := by
  unfold Matcher.compile at h
  split at h
  case h_1 => exact absurd h (by simp)
  case h_2 k hk =>
    cases hr : Regex.compile (k.source ++ "$") with
    | error e =>
      simp only [hr] at h
      exact absurd h (by simp)
    | ok regex =>
      simp only [hr, Except.ok.injEq] at h
      obtain ⟨e, he, rfl⟩ := map_eq_ok.1 hr
      exact ⟨k, e, hk, he, h.symm⟩

/-- A template is compiled if its text is written and what the text means is not too large. -/
theorem exists_compile_eq_ok_iff [Capacity] {pattern : String} {tree : List Node}
    {conditions : Dict Condition} :
    (∃ m, Matcher.compile pattern tree conditions = .ok m) ↔
      ∃ k e, Sketch.addAll conditions ⟨"^", [], 1⟩ tree = .ok k ∧
        Regex.exprOf true (k.source ++ "$") = .ok e := by
  constructor
  · rintro ⟨m, hm⟩
    obtain ⟨k, e, hk, he, -⟩ := compile_eq_ok hm
    exact ⟨k, e, hk, he⟩
  · rintro ⟨k, e, hk, he⟩
    have hregex : Regex.compile (k.source ++ "$") = .ok (.ofExpr (k.source ++ "$") e) := by
      rw [Regex.compile, he]
      rfl
    refine ⟨⟨.ofExpr (k.source ++ "$") e, k.slots.reverse⟩, ?_⟩
    rw [Matcher.compile, hk]
    simp only [hregex]

/-- A compiled template knows the groups of its parameters by the counted ones. -/
theorem slots_compile [Capacity] {pattern : String} {tree : List Node} {conditions : Dict Condition}
    {m : Matcher} (h : Matcher.compile pattern tree conditions = .ok m) :
    m.slots = slotsOf (countedIn conditions) 0 (Node.paramsAll tree) := by
  obtain ⟨k, e, hk, -, rfl⟩ := compile_eq_ok h
  have hnext : (⟨"^", [], 1⟩ : Sketch).next = 0 + 1 := rfl
  have hslots := (Sketch.slots_addAll tree hnext hk).1
  rw [List.reverse_nil, List.nil_append] at hslots
  exact hslots

theorem params_compile [Capacity] {pattern : String} {tree : List Node}
    {conditions : Dict Condition}
    {m : Matcher} (h : Matcher.compile pattern tree conditions = .ok m) :
    m.params = Node.paramsAll tree := by
  rw [Matcher.params, slots_compile h, map_fst_slotsOf]

/-- A compiled template searches for the expression of its nodes. -/
theorem plan_compile [Capacity] {pattern : String} {tree : List Node} {conditions : Dict Condition}
    {V : String → Nat → Ast} {inner : String → Nat} {m : Matcher}
    (hfill : ∀ a ∈ Node.paramsAll tree, Filled conditions V inner a)
    (h : Matcher.compile pattern tree conditions = .ok m) :
    m.regex.plan = (Plan.draft (.cat (.look .textStart) (.catAll
      (Node.exprsAll (fun a i => meaningOf (V a i)) inner 0 tree ++ [.look .textEnd]))) 0).1 := by
  obtain ⟨k, e, hk, he, rfl⟩ := compile_eq_ok h
  rw [← exprOf_sketch hfill hk he]
  rfl

end Waymark.Template
