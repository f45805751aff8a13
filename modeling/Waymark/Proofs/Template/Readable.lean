/-
  Waymark.Proofs.Template.Readable

  When the expression of a template can be compiled.  `Reads` says that a text is read up to its
  end, not only what it would be read as.  If that is so for the values of all parameters, two
  things about the whole expression are left to ask: how deep it is nested, which is told from the
  template, and whether there is room for it, which depends on what it means.  What a template
  means takes no more room than its length allows.

  Main statements: `exprOf_expressionOf_eq_ok_iff` and `builtWithin_templateExpr`.
-/

import Mathlib.Algebra.GroupWithZero.Nat
import Waymark.Proofs.Template.Expression

namespace Waymark.Regex.Parse

/-! ## Reading -/

/-- A text is read as items of the alternative that is being read, whatever the state is and
    whatever follows that cannot change the meaning of a repetition. -/
def Reads (text : List Char) (items : Nat → List Ast) (opened : Nat) : Prop :=
  NoQuestion text ∧ ∀ (st : State) (t : List Char), st.verbose = false → NoQuestion t →
    Reaches st (text ++ t) (st.grow (items st.captures) opened st.names) t

namespace Reads

variable {text : List Char} {items : Nat → List Ast} {n : Nat}

theorem nil : Reads [] (fun _ => []) 0 :=
  ⟨by simp [NoQuestion], fun st t _ _ => Reaches.refl st t⟩

theorem append {a b : List Char} {is js : Nat → List Ast} {m : Nat} (ha : Reads a is m)
    (hb : Reads b js n) : Reads (a ++ b) (fun k => is k ++ js (k + m)) (m + n) := by
  refine ⟨ha.1.append hb.1, fun st t hv ht => ?_⟩
  have hfirst := ha.2 st (b ++ t) hv (hb.1.append ht)
  have hsecond := hb.2 (st.grow (is st.captures) m st.names) t hv ht
  rw [List.append_assoc]
  -- the second piece counts its groups behind those of the first
  have hgrow : (st.grow (is st.captures) m st.names).grow (js (st.captures + m)) n st.names
      = st.grow (is st.captures ++ js (st.captures + m)) (m + n) st.names := by
    simp [State.grow, Nat.add_assoc]
  exact hgrow ▸ hfirst.trans hsecond

theorem escape (s : List Char) :
    Reads (s.flatMap fun c => if isMeta c then ['\\', c] else [c])
      (fun _ => s.map fun c => .literal ⟨c, false⟩) 0 :=
  ⟨noQuestion_escape s, fun _ t hv _ => reaches_escape s hv t⟩

/-- An item that is read in one step. -/
theorem ofStep {c : Char} {item : Ast} (hc : c ≠ '?')
    (h : ∀ (st : State) (t : List Char), st.verbose = false →
      step st c (text ++ t) = .ok (st.push item, t)) :
    Reads (c :: text) (fun _ => [item]) 0 := by
  refine ⟨noQuestion_cons hc _, fun st t hv _ => ?_⟩
  have hlen : t.length ≤ (text ++ t).length := by
    rw [List.length_append]
    omega
  exact Reaches.single (skip_of_not_verbose hv _) (h st t hv) hlen

/-- An item that is read in one step, with a sign of repetition behind it. -/
theorem ofStep_repeat {c : Char} {item : Ast} {sign : Char} {least : Nat} {most : Option Nat}
    (hc : c ≠ '?')
    (h : ∀ (st : State) (t : List Char), st.verbose = false →
      step st c (text ++ t) = .ok (st.push item, t))
    (hsign : RepeatsBy sign least most) (hitem : Repeatable item) :
    Reads (c :: (text ++ [sign])) (fun _ => [.repetition least most true item]) 0 := by
  refine ⟨noQuestion_cons hc _, fun st t hv ht => ?_⟩
  -- the item, then the sign, which repeats it
  have hread : Reaches st (c :: (text ++ sign :: t)) (st.push item) (sign :: t) :=
    Reaches.single (skip_of_not_verbose hv _) (h st (sign :: t) hv)
      (by rw [List.length_append]; omega)
  have hstep : step (st.push item) sign t
      = .ok (st.push (.repetition least most true item), t) := by
    rw [hsign, readGreed_of_noQuestion ht, hitem st ⟨least, most, true⟩]
    rfl
  have hrepeat : Reaches (st.push item) (sign :: t) (st.push (.repetition least most true item)) t :=
    Reaches.single (skip_of_not_verbose hv _) hstep (Nat.le_refl _)
  have htext : c :: (text ++ [sign]) ++ t = c :: (text ++ sign :: t) := by simp
  rw [htext]
  exact hread.trans hrepeat

/-- A piece in a group that captures. -/
theorem capture (h : Reads text items n) :
    Reads ('(' :: (text ++ [')']))
      (fun k => [.group (.capture (k + 1)) (Ast.ofItems (items (k + 1)))]) (n + 1) := by
  refine ⟨noQuestion_cons (by decide) _, fun st t hv _ => ?_⟩
  have hclose := noQuestion_cons (by decide : ')' ≠ '?') t
  have hgroup := Reaches.group (reaches_capture hv (h.1.append hclose))
    (h.2 (st.inside (.capture (st.captures + 1)) (st.captures + 1)) (')' :: t) hv hclose) rfl
  have htext : '(' :: (text ++ [')']) ++ t = '(' :: (text ++ ')' :: t) := by simp
  rw [htext]
  simpa [State.grow, State.inside, State.contents, Ast.ofBranches, Nat.add_assoc, Nat.add_comm 1]
    using hgroup

/-- A piece in an optional group. -/
theorem optional (h : Reads text items n) :
    Reads ('(' :: '?' :: ':' :: (text ++ [')', '?']))
      (fun k => [.repetition 0 (some 1) true (.group (.plain []) (Ast.ofItems (items k)))]) n := by
  refine ⟨noQuestion_cons (by decide) _, fun st t hv ht => ?_⟩
  have hclose := noQuestion_cons (by decide : ')' ≠ '?') ('?' :: t)
  have hopen : Reaches st ('(' :: '?' :: ':' :: (text ++ ')' :: '?' :: t))
      (st.inside (.plain []) st.captures) (text ++ ')' :: '?' :: t) :=
    reaches_plain [] (fun _ => rfl) rfl hv
  have hgroup := Reaches.group hopen
    (h.2 (st.inside (.plain []) st.captures) (')' :: '?' :: t) hv hclose) rfl
  have htext : '(' :: '?' :: ':' :: (text ++ [')', '?']) ++ t
      = '(' :: '?' :: ':' :: (text ++ ')' :: '?' :: t) := by simp
  rw [htext]
  refine hgroup.trans ?_
  -- the sign behind the group repeats it
  refine Reaches.single (skip_of_not_verbose hv _) ?_ (Nat.le_refl _)
  rw [repeatsBy_question, readGreed_of_noQuestion ht]
  simp [State.repeat, State.grow, State.inside, State.contents, Ast.ofBranches, bind, Except.bind,
    pure, Except.pure]

/-- A whole text is read unless it is nested too deep. -/
theorem read_eq_ok_iff (h : Reads text items n) {ast : Ast} :
    read text = .ok ast ↔
      (Ast.ofItems (items 0)).depth ≤ depthLimit ∧ Ast.ofItems (items 0) = ast := by
  have hreaches := h.2 .initial [] rfl (by simp [NoQuestion])
  rw [List.append_nil] at hreaches
  obtain ⟨fuel, -, heq⟩ := hreaches (text.length + 1) (Nat.lt_succ_self _)
  -- from the initial state the items are all there is at the end
  have hcontents : (State.grow .initial (items 0) n []).contents = Ast.ofItems (items 0) := by
    simp [State.contents, State.grow, State.initial, Ast.ofBranches]
  have hfinish : (State.grow .initial (items 0) n []).finish = .ok (Ast.ofItems (items 0)) := by
    rw [← hcontents]
    rfl
  have hread : readFrom (text.length + 1) .initial text = .ok (Ast.ofItems (items 0)) := by
    rw [heq, readFrom_nil]
    exact hfinish
  rw [read, hread]
  constructor
  · exact guard_eq_ok
  · rintro ⟨hdepth, rfl⟩
    exact if_pos hdepth

end Reads

end Waymark.Regex.Parse

namespace Waymark.Regex

/-! ## Nesting and room -/

theorem depthAll_append (as bs : List Ast) :
    Ast.depthAll (as ++ bs) = max (Ast.depthAll as) (Ast.depthAll bs) := by
  induction as with
  | nil => simp
  | cons a as ih => simp [ih, Nat.max_assoc]

/-- A list of several items is one level more. -/
theorem depth_ofItems (items : List Ast) :
    (Ast.ofItems items).depth = Ast.depthAll items + if 1 < items.length then 1 else 0 := by
  match items with
  | [] => simp [Ast.ofItems, Ast.depth]
  | [item] => simp [Ast.ofItems]
  | item :: item' :: items =>
    show (Ast.concat (item :: item' :: items)).depth = _
    rw [Ast.depth, if_pos (by simp)]

/-- Expressions one after another are built within what they take together. -/
theorem builtWithin_catAll {es : List Expr} {ns : List Nat} (h : List.Forall₂ Expr.BuiltWithin es ns) :
    (Expr.catAll es).BuiltWithin (32 + ns.sum) := by
  induction h with
  | nil => exact .empty
  | @cons e n es ns he hes ih =>
    cases hes with
    | nil => exact he.mono (by simp)
    | cons _ _ => exact (he.cat ih).mono (by simp only [List.sum_cons]; omega)

end Waymark.Regex

namespace Waymark.Template

open Waymark.Regex Waymark.Regex.Parse

/-! ## Measures of a template -/

/-- How many items the expression of a node has. -/
def Node.width : Node → Nat
  | .literal text => text.toList.length
  | .param _ | .group _ => 1

/-- How many items the expression of several nodes has. -/
def Node.widthAll (ns : List Node) : Nat := (ns.map Node.width).sum

mutual

/-- How deep the expression of a node is nested, given how deep those of the parameters' values
    are.  The group of a parameter is one level; an optional group is two, and one more if several
    items stand in it. -/
def Node.nesting (value : String → Nat) : Node → Nat
  | .literal _ => 0
  | .param name => value name + 1
  | .group children =>
    Node.nestingAll value children + (if 1 < Node.widthAll children then 1 else 0) + 2

/-- The greatest nesting of several nodes. -/
def Node.nestingAll (value : String → Nat) : List Node → Nat
  | [] => 0
  | n :: ns => max (n.nesting value) (Node.nestingAll value ns)

end

/-- What is written for the values of a parameter is read as certain items, which are nested so
    deep and mean a certain expression. -/
structure Measured (value : String) (items : List Ast) (nesting : Nat) (e : Expr) : Prop where
  reads : Reads value.toList (fun _ => items) 0
  depth : (Ast.ofItems items).depth = nesting
  means : (Ast.ofItems items).meaning (.initial true) = .ok (e, .initial true)

section

variable {value : String → String} {items : String → List Ast} {nesting : String → Nat}
  {E : String → Expr}

mutual

theorem Node.reads_expression (n : Node)
    (h : ∀ a ∈ n.params, Reads (value a).toList (fun _ => items a) 0) :
    Reads (n.expression value).toList
      (fun i => n.asts (fun a _ => Ast.ofItems (items a)) (fun _ => 0) i)
      (openedBy (fun _ => 0) n.params) := by
  cases n with
  | literal text =>
    rw [Node.expression_literal, Regex.escape, String.toList_ofList]
    exact Reads.escape text.toList
  | param name =>
    have htext : (Node.expression value (.param name)).toList
        = '(' :: ((value name).toList ++ [')']) := by
      simp
    rw [htext]
    exact Reads.capture (h name (List.mem_singleton_self name))
  | group children =>
    have htext : (Node.expression value (.group children)).toList
        = '(' :: '?' :: ':' :: ((Node.expressionAll value children).toList ++ [')', '?']) := by
      simp
    rw [htext]
    exact Reads.optional (Node.reads_expressionAll children h)

theorem Node.reads_expressionAll (ns : List Node)
    (h : ∀ a ∈ Node.paramsAll ns, Reads (value a).toList (fun _ => items a) 0) :
    Reads (Node.expressionAll value ns).toList
      (fun i => Node.astsAll (fun a _ => Ast.ofItems (items a)) (fun _ => 0) i ns)
      (openedBy (fun _ => 0) (Node.paramsAll ns)) := by
  cases ns with
  | nil => exact Reads.nil
  | cons n ns =>
    rw [Node.paramsAll_cons] at h ⊢
    rw [Node.expressionAll_cons, String.toList_append, openedBy_append]
    exact (Node.reads_expression n fun a ha => h a (List.mem_append_left _ ha)).append
      (Node.reads_expressionAll ns fun a ha => h a (List.mem_append_right _ ha))

end

theorem Node.length_asts {V : String → Nat → Ast} {inner : String → Nat} (i : Nat) (n : Node) :
    (n.asts V inner i).length = n.width := by
  cases n with
  | literal text => simp [Node.width]
  | param name => rfl
  | group children => rfl

theorem Node.length_astsAll {V : String → Nat → Ast} {inner : String → Nat} (i : Nat)
    (ns : List Node) : (Node.astsAll V inner i ns).length = Node.widthAll ns := by
  induction ns generalizing i with
  | nil => rfl
  | cons n ns ih => simp [ih, Node.length_asts, Node.widthAll]

mutual

theorem Node.depthAll_asts {V : String → Nat → Ast} {inner : String → Nat} (i : Nat) (n : Node)
    (h : ∀ a ∈ n.params, ∀ j, (V a j).depth = nesting a) :
    Ast.depthAll (n.asts V inner i) = n.nesting nesting := by
  cases n with
  | literal text =>
    rw [Node.asts_literal, Node.nesting, ← Nat.le_zero]
    -- literals are not nested
    refine depthAll_le fun ast hast => ?_
    obtain ⟨c, -, rfl⟩ := List.mem_map.1 hast
    exact Nat.le_refl 0
  | param name => simp [Node.nesting, h name (List.mem_singleton_self name)]
  | group children =>
    simp [Node.nesting, depth_ofItems, Node.depthAll_astsAll i children h, Node.length_astsAll]

theorem Node.depthAll_astsAll {V : String → Nat → Ast} {inner : String → Nat} (i : Nat)
    (ns : List Node) (h : ∀ a ∈ Node.paramsAll ns, ∀ j, (V a j).depth = nesting a) :
    Ast.depthAll (Node.astsAll V inner i ns) = Node.nestingAll nesting ns := by
  cases ns with
  | nil => rfl
  | cons n ns =>
    rw [Node.astsAll_cons, depthAll_append, Node.nestingAll,
      Node.depthAll_asts i n fun a ha => h a (List.mem_append_left _ ha),
      Node.depthAll_astsAll _ ns fun a ha => h a (List.mem_append_right _ ha)]

end

mutual

/-- A node means what it is made of the meanings of its parameters' values. -/
theorem Node.meaningAll_asts {V : String → Nat → Ast} {inner : String → Nat} (i : Nat) (n : Node)
    (h : ∀ a ∈ n.params, ∀ j, (V a j).meaning (.initial true) = .ok (E a, .initial true)) :
    Ast.meaningAll (.initial true) (n.asts V inner i)
      = .ok (n.exprs (fun a _ => E a) inner i, .initial true) := by
  cases n with
  | literal text => exact meaningAll_literals text.toList
  | param name => simp [h name (List.mem_singleton_self name)]
  | group children =>
    have hplain : (Ast.group (.plain []) (.ofItems (Node.astsAll V inner i children))).meaning
          (.initial true)
        = .ok (.catAll (Node.exprsAll (fun a _ => E a) inner i children), .initial true) :=
      meaning_plain.2 ⟨.initial true,
        meaning_ofItems.2 ⟨_, Node.meaningAll_astsAll i children h, rfl⟩, rfl⟩
    refine meaningAll_cons.2
      ⟨_, _, _, meaning_repetition.2 ⟨_, hplain, ?_⟩, meaningAll_nil.2 ⟨rfl, rfl⟩, rfl⟩
    exact Expr.repeated_optional true _

theorem Node.meaningAll_astsAll {V : String → Nat → Ast} {inner : String → Nat} (i : Nat)
    (ns : List Node)
    (h : ∀ a ∈ Node.paramsAll ns, ∀ j, (V a j).meaning (.initial true) = .ok (E a, .initial true)) :
    Ast.meaningAll (.initial true) (Node.astsAll V inner i ns)
      = .ok (Node.exprsAll (fun a _ => E a) inner i ns, .initial true) := by
  cases ns with
  | nil => rfl
  | cons n ns =>
    exact meaningAll_append.2 ⟨_, _, _,
      Node.meaningAll_asts i n fun a ha => h a (List.mem_append_left _ ha),
      Node.meaningAll_astsAll (i + openedBy inner n.params) ns
        fun a ha => h a (List.mem_append_right _ ha), rfl⟩

end

/-! ## Whole templates -/

/-- What is read for a template, the signs for the start and the end of the text included. -/
def wholeItems (asts : List Ast) : List Ast :=
  [.assertion .lineStart] ++ (asts ++ [.assertion .lineEnd])

/-- The anchors make it a list of several items. -/
theorem depth_wholeItems (asts : List Ast) :
    (Ast.ofItems (wholeItems asts)).depth = Ast.depthAll asts + 1 := by
  rw [wholeItems, depth_ofItems, if_pos (by simp), depthAll_append, depthAll_append]
  simp [Ast.depth]

/-- What a template means, given what the values of its parameters mean. -/
def templateExpr (E : String → Expr) (tree : List Node) : Expr :=
  .catAll ([.look .textStart] ++
    (Node.exprsAll (fun a _ => E a) (fun _ => 0) 0 tree ++ [.look .textEnd]))

theorem meaning_wholeItems {asts : List Ast} {es : List Expr}
    (h : Ast.meaningAll (.initial true) asts = .ok (es, .initial true)) :
    (Ast.ofItems (wholeItems asts)).meaning (.initial true)
      = .ok (.catAll ([.look .textStart] ++ (es ++ [.look .textEnd])), .initial true) := by
  have hstart : Ast.meaningAll (.initial true) [.assertion .lineStart]
      = .ok ([.look .textStart], .initial true) := rfl
  have hend : Ast.meaningAll (.initial true) [.assertion .lineEnd]
      = .ok ([.look .textEnd], .initial true) := rfl
  have hrest := meaningAll_append.2 ⟨_, _, _, h, hend, rfl⟩
  exact meaning_ofItems.2 ⟨_, meaningAll_append.2 ⟨_, _, _, hstart, hrest, rfl⟩, rfl⟩

theorem read_expressionOf_iff {tree : List Node} {ast : Ast}
    (h : ∀ a ∈ Node.paramsAll tree, Reads (value a).toList (fun _ => items a) 0) :
    read (expressionOf value tree).toList = .ok ast ↔
      Ast.depthAll (Node.astsAll (fun a _ => Ast.ofItems (items a)) (fun _ => 0) 0 tree) + 1
        ≤ depthLimit ∧
      Ast.ofItems (wholeItems
        (Node.astsAll (fun a _ => Ast.ofItems (items a)) (fun _ => 0) 0 tree)) = ast := by
  have hstart : Reads ['^'] (fun _ => [.assertion .lineStart]) 0 :=
    Reads.ofStep (by decide) (fun _ _ _ => rfl)
  have hend : Reads ['$'] (fun _ => [.assertion .lineEnd]) 0 :=
    Reads.ofStep (by decide) (fun _ _ _ => rfl)
  have htext : (expressionOf value tree).toList
      = ['^'] ++ ((Node.expressionAll value tree).toList ++ ['$']) := by
    simp [expressionOf]
  rw [htext, (hstart.append ((Node.reads_expressionAll tree h).append hend)).read_eq_ok_iff,
    ← depth_wholeItems]
  rfl

/-- The expression of a template whose values are known is compiled exactly if it is not nested too
    deep and there is room for what it means. -/
theorem exprOf_expressionOf_eq_ok_iff [Capacity] {tree : List Node} {e : Expr}
    (h : ∀ a ∈ Node.paramsAll tree, Measured (value a) (items a) (nesting a) (E a)) :
    Regex.exprOf true (expressionOf value tree) = .ok e ↔
      Node.nestingAll nesting tree + 1 ≤ depthLimit ∧
        Capacity.fits (templateExpr E tree) = true ∧ templateExpr E tree = e := by
  let V : String → Nat → Ast := fun a _ => Ast.ofItems (items a)
  let asts := Node.astsAll V (fun _ => 0) 0 tree
  have hread : ∀ ast, read (expressionOf value tree).toList = .ok ast ↔
      Node.nestingAll nesting tree + 1 ≤ depthLimit ∧ Ast.ofItems (wholeItems asts) = ast := by
    intro ast
    rw [read_expressionOf_iff fun a ha => (h a ha).reads,
      Node.depthAll_astsAll 0 tree fun a ha _ => (h a ha).depth]
  -- the nodes always mean something; only the two limits are left
  have hmeaning : (Ast.ofItems (wholeItems asts)).meaning (.initial true)
      = .ok (templateExpr E tree, .initial true) :=
    meaning_wholeItems (Node.meaningAll_astsAll 0 tree fun a ha _ => (h a ha).means)
  constructor
  · intro he
    obtain ⟨ast, hast, -⟩ := bind_eq_ok.1 he
    obtain ⟨hdepth, rfl⟩ := (hread ast).1 hast
    exact ⟨hdepth, (exprOf_eq_ok_iff hast hmeaning).1 he⟩
  · rintro ⟨hdepth, hfits⟩
    exact (exprOf_eq_ok_iff ((hread _).2 ⟨hdepth, rfl⟩) hmeaning).2 hfits

/-! ## Bounds -/

mutual

/-- How many optional groups are nested in a node. -/
def Node.levels : Node → Nat
  | .literal _ | .param _ => 0
  | .group children => Node.levelsAll children + 1

/-- The greatest number of optional groups nested in several nodes. -/
def Node.levelsAll : List Node → Nat
  | [] => 0
  | n :: ns => max n.levels (Node.levelsAll ns)

end

mutual

theorem Node.nesting_le (h : ∀ a, nesting a ≤ 3) (n : Node) :
    n.nesting nesting ≤ 3 * n.levels + 4 := by
  cases n with
  | literal text => rw [Node.nesting]; omega
  | param name =>
    have hname := h name
    rw [Node.nesting]
    omega
  | group children =>
    have hchildren := Node.nestingAll_le h children
    rw [Node.nesting, Node.levels]
    split <;> omega

/-- An optional group is three levels at most, and what stands innermost four more. -/
theorem Node.nestingAll_le (h : ∀ a, nesting a ≤ 3) (ns : List Node) :
    Node.nestingAll nesting ns ≤ 3 * Node.levelsAll ns + 4 := by
  cases ns with
  | nil => rw [Node.nestingAll]; omega
  | cons n ns =>
    have hn := Node.nesting_le h n
    have hns := Node.nestingAll_le h ns
    rw [Node.nestingAll, Node.levelsAll]
    omega

end

/-- No character of a text takes more than 256 bytes. -/
theorem builtWithin_chars (s : List Char) :
    ∃ ns, List.Forall₂ Expr.BuiltWithin (s.map fun c => .set (.single c)) ns ∧
      ns.sum ≤ 256 * s.length := by
  induction s with
  | nil => exact ⟨[], .nil, Nat.zero_le _⟩
  | cons c s ih =>
    obtain ⟨ns, hns, hsum⟩ := ih
    have hbytes := Char.utf8Size_le_four c
    refine ⟨32 * c.utf8Size :: ns, .cons (.char c) hns, ?_⟩
    rw [List.sum_cons, List.length_cons]
    omega

mutual

theorem Node.builtWithin_exprs {inner : String → Nat} (i : Nat) (n : Node)
    (h : ∀ a, (E a).BuiltWithin (448 + 256 * a.length)) :
    ∃ ns, List.Forall₂ Expr.BuiltWithin (n.exprs (fun a _ => E a) inner i) ns ∧
      ns.sum ≤ 256 * n.source.length := by
  cases n with
  | literal text =>
    rw [Node.source_literal, ← String.length_toList]
    exact builtWithin_chars text.toList
  | param name =>
    refine ⟨_, .cons ((h name).group (i + 1)) .nil, ?_⟩
    -- the brackets alone are two characters
    have hopen : "<".length = 1 := rfl
    have hclose : ">".length = 1 := rfl
    rw [Node.source_param, String.length_append, String.length_append, List.sum_singleton]
    omega
  | group children =>
    obtain ⟨ns, hns, hsum⟩ := Node.builtWithin_exprsAll i children h
    refine ⟨_, .cons ((builtWithin_catAll hns).optional true) .nil, ?_⟩
    have hopen : "(".length = 1 := rfl
    have hclose : ")".length = 1 := rfl
    rw [Node.source_group, String.length_append, String.length_append, List.sum_singleton]
    omega

/-- No character of a template takes more than 256 bytes. -/
theorem Node.builtWithin_exprsAll {inner : String → Nat} (i : Nat) (ns : List Node)
    (h : ∀ a, (E a).BuiltWithin (448 + 256 * a.length)) :
    ∃ ms, List.Forall₂ Expr.BuiltWithin (Node.exprsAll (fun a _ => E a) inner i ns) ms ∧
      ms.sum ≤ 256 * (Node.sourceAll ns).length := by
  cases ns with
  | nil => exact ⟨[], .nil, Nat.zero_le _⟩
  | cons n ns =>
    obtain ⟨ms, hms, hsum⟩ := Node.builtWithin_exprs i n h
    obtain ⟨ls, hls, hsum'⟩ := Node.builtWithin_exprsAll (i + openedBy inner n.params) ns h
    refine ⟨ms ++ ls, List.rel_append hms hls, ?_⟩
    rw [Node.sourceAll_cons, String.length_append, List.sum_append]
    omega

end

theorem builtWithin_templateExpr (tree : List Node)
    (h : ∀ a, (E a).BuiltWithin (448 + 256 * a.length)) :
    (templateExpr E tree).BuiltWithin (96 + 256 * (Node.sourceAll tree).length) := by
  obtain ⟨ns, hns, hsum⟩ := @Node.builtWithin_exprsAll E (fun _ => 0) 0 tree h
  have hlook : ∀ l, List.Forall₂ Expr.BuiltWithin [.look l] [32] := fun l => .cons (.look l) .nil
  have hall := List.rel_append (hlook .textStart) (List.rel_append hns (hlook .textEnd))
  refine (builtWithin_catAll hall).mono ?_
  simp only [List.sum_append, List.sum_singleton]
  omega

theorem Node.nestingAll_append (ns ms : List Node) :
    Node.nestingAll nesting (ns ++ ms)
      = max (Node.nestingAll nesting ns) (Node.nestingAll nesting ms) := by
  induction ns with
  | nil => rw [List.nil_append, Node.nestingAll, Nat.zero_max]
  | cons n ns ih => rw [List.cons_append, Node.nestingAll, Node.nestingAll, ih, Nat.max_assoc]

end

end Waymark.Template
