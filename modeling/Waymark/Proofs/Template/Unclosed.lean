/-
  Waymark.Proofs.Template.Unclosed

  Parentheses that are never closed.  Where the pass meets one outside of groups it collects all that
  follows, and at the end of the text the whole of it, closed groups included, becomes nodes without
  groups.  So an unclosed parenthesis costs every group behind it, and nothing in front of it.

  Main statement: `topGroups_parse_append_open`, which also says when it costs only itself.
-/

import Waymark.Proofs.Template.Composition

namespace Waymark.Template

/-! ## Groups and parentheses of a tree -/

/-- Whether a node is a group. -/
def Node.isGroup : Node → Bool
  | .group _ => true
  | .literal _ | .param _ => false

/-- The groups of a tree that are inside of no other one, in order. -/
def topGroups (ns : List Node) : List Node := ns.filter Node.isGroup

/-- Whether a character is a parenthesis. -/
def isParen (c : Char) : Bool := c == '(' || c == ')'

mutual

/-- The parentheses in the literal text of a node, in the order of the template. -/
def Node.parens : Node → List Char
  | .literal text => text.toList.filter isParen
  | .param _ => []
  | .group children => Node.parensAll children

/-- The parentheses in the literal text of nodes. -/
def Node.parensAll : List Node → List Char
  | [] => []
  | n :: ns => n.parens ++ Node.parensAll ns

end

@[simp] theorem Node.parens_literal (text : String) :
    (Node.literal text).parens = text.toList.filter isParen := rfl

@[simp] theorem Node.parens_param (name : String) : (Node.param name).parens = [] := rfl

@[simp] theorem Node.parens_group (children : List Node) :
    (Node.group children).parens = Node.parensAll children := rfl

@[simp] theorem Node.parensAll_nil : Node.parensAll [] = [] := rfl

@[simp] theorem Node.parensAll_cons (n : Node) (ns : List Node) :
    Node.parensAll (n :: ns) = n.parens ++ Node.parensAll ns := rfl

theorem topGroups_append (ns ms : List Node) : topGroups (ns ++ ms) = topGroups ns ++ topGroups ms :=
  List.filter_append ns ms

theorem Node.parensAll_append (ns ms : List Node) :
    Node.parensAll (ns ++ ms) = Node.parensAll ns ++ Node.parensAll ms := by
  induction ns with
  | nil => rfl
  | cons n ns ih => simp [ih]

/-! ## Text without groups -/

theorem IsName.filter_isParen {name : String} (h : IsName name) :
    name.toList.filter isParen = [] := by
  rw [List.filter_eq_nil_iff]
  intro c hc
  obtain ⟨hopen, hclose⟩ := h.ne_of_mem hc
  simp [isParen, hopen, hclose]

/-- Nodes without groups keep every parenthesis of their text. -/
theorem Splits.parensAll {s : List Char} {ns : List Node} (h : Splits s ns) :
    Node.parensAll ns = s.filter isParen := by
  have hangle : isParen '<' = false ∧ isParen '>' = false := by decide
  induction h with
  | nil => rfl
  | @param name rest ns hname hrest ih =>
    rw [Node.parensAll_cons, Node.parens_param, ih, List.filter_cons_of_neg (by simp [hangle]),
      List.filter_append, hname.filter_isParen, List.filter_cons_of_neg (by simp [hangle])]
  | opening hnone hs ih =>
    rw [Node.parensAll_cons, ih, List.filter_cons_of_neg (by simp [hangle])]
    rfl
  | closing hs ih =>
    rw [Node.parensAll_cons, ih, List.filter_cons_of_neg (by simp [hangle])]
    rfl
  | run hne hw hstop hrest ih => simp [ih, String.toList_ofList, List.filter_append]

theorem Splits.topGroups_eq_nil {s : List Char} {ns : List Node} (h : Splits s ns) :
    topGroups ns = [] := by
  rw [topGroups, List.filter_eq_nil_iff]
  intro n hn
  cases n with
  | literal text => simp [Node.isGroup]
  | param name => simp [Node.isGroup]
  | group children => exact absurd rfl (h.flat _ hn children)

/-! ## Paired text -/

/-- Paired text without an opening parenthesis has no closing one either. -/
theorem Paired.filter_isParen {s : List Char} (h : Paired s) (hs : '(' ∉ s) :
    s.filter isParen = [] := by
  have hclose : ')' ∉ s := by
    apply List.count_eq_zero.1
    rw [← h.total]
    exact List.count_eq_zero.2 hs
  rw [List.filter_eq_nil_iff]
  intro c hc
  have hne : c ≠ '(' ∧ c ≠ ')' := by
    constructor
    · rintro rfl
      exact hs hc
    · rintro rfl
      exact hclose hc
  simp [isParen, hne]

/-- Up to its first group paired text is paired, and so are the body of the group and what follows. -/
theorem Paired.parts {head tail : List Char} (h : Paired (head ++ '(' :: tail))
    (hhead : '(' ∉ head) :
    Paired head ∧ ∃ body rest, splitGroup 0 tail = some (body, rest) ∧ Paired body ∧ Paired rest := by
  have hopen : head.count '(' = 0 := List.count_eq_zero.2 hhead
  have hle := h.prefixes head (List.prefix_append head _)
  have hpaired : Paired head :=
    ⟨fun t ht => h.prefixes t (ht.trans (List.prefix_append head _)), by omega⟩
  have htail : Paired ('(' :: tail) := h.of_append hpaired.total
  refine ⟨hpaired, ?_⟩
  cases htail.balanced with
  | char hne _ _ => exact absurd rfl hne
  | @nest body rest hbody hrest =>
    exact ⟨body, rest, splitGroup_close hbody rest, balanced_iff_paired.1 hbody,
      balanced_iff_paired.1 hrest⟩

/-- Where all parentheses pair up none of them is literal text. -/
theorem Parses.parensAll_eq_nil {s : List Char} {ns : List Node} (h : Parses s ns)
    (hs : Paired s) : Node.parensAll ns = [] := by
  induction h with
  | @plain s hplain => rw [(splits_tokens s).parensAll, hs.filter_isParen hplain]
  | unclosed hhead hnone =>
    obtain ⟨-, body, rest, hsplit, -⟩ := hs.parts hhead
    rw [hnone] at hsplit
    exact absurd hsplit (by simp)
  | @group head tail body rest ms ns hhead hsplit _ _ ihbody ihrest =>
    obtain ⟨hpaired, body', rest', hsplit', hbody, hrest⟩ := hs.parts hhead
    rw [hsplit] at hsplit'
    cases hsplit'
    rw [Node.parensAll_append, (splits_tokens head).parensAll, hpaired.filter_isParen hhead,
      Node.parensAll_cons, Node.parens_group, ihbody hbody, ihrest hrest]
    rfl

/-- A paired text without groups is one without parentheses. -/
theorem Parses.topGroups_eq_nil_iff {s : List Char} {ns : List Node} (h : Parses s ns)
    (hs : Paired s) : topGroups ns = [] ↔ '(' ∉ s := by
  cases h with
  | plain hplain => exact ⟨fun _ => hplain, fun _ => (splits_tokens s).topGroups_eq_nil⟩
  | unclosed hhead hnone =>
    obtain ⟨-, body, rest, hsplit, -⟩ := hs.parts hhead
    rw [hnone] at hsplit
    exact absurd hsplit (by simp)
  | @group head tail body rest ms ns hhead hsplit _ _ =>
    constructor
    · intro hnil
      rw [topGroups_append] at hnil
      exact absurd (List.append_eq_nil_iff.1 hnil).2 (List.cons_ne_nil _ _)
    · intro hnone
      exact absurd (List.mem_append_right head List.mem_cons_self) hnone

/-- Behind paired text the pass is outside of groups. -/
theorem Balanced.outside {s : List Char} (h : Balanced s) (nodes : List Node) (buffer : List Char)
    (depth : Int) : (s.foldl Scan.step ⟨nodes, buffer, false, depth⟩).inGroup = false := by
  induction h generalizing nodes buffer depth with
  | nil => rfl
  | @char c s hopen hclose _ ih =>
    have hstep : Scan.step ⟨nodes, buffer, false, depth⟩ c
        = ⟨nodes, buffer ++ [c], false, depth⟩ := by
      rw [Scan.step, if_neg hopen, if_neg hclose]
      rfl
    rw [List.foldl_cons, hstep, ih]
  | @nest b s hb _ _ ih =>
    show ((b ++ ')' :: s).foldl Scan.step
      ⟨nodes ++ tokens buffer, [], true, ((0 : Nat) : Int)⟩).inGroup = false
    rw [foldl_step_group (splitGroup_close hb s), ih]

/-! ## Unclosed parentheses -/

/-- Where the pass is outside of groups a parenthesis that is never closed is literal text together
    with all that follows. -/
theorem parse_append_open {a b : String} (ha : (scan a.toList).inGroup = false)
    (hb : StaysInside 0 b.toList) :
    parse (a ++ "(" ++ b) = parse a ++ tokens ('(' :: b.toList) := by
  have htext : (a ++ "(" ++ b).toList = (a.toList ++ ['(']) ++ b.toList := by simp
  have hpass := (parses_parse (a ++ "(" ++ b)).finish_foldl [] 0
  rw [List.nil_append] at hpass
  obtain ⟨depth, hend⟩ :=
    foldl_step_unclosed (splitGroup_eq_none_iff.2 hb) (parse a) []
  rw [← hpass, htext, List.foldl_append]
  show (b.toList.foldl Scan.step (scan (a.toList ++ ['(']))).finish = _
  rw [scan_append_open ha]
  show (b.toList.foldl Scan.step ⟨parse a, [], true, ((0 : Nat) : Int)⟩).finish = _
  rw [hend]
  rfl

/-- An unclosed parenthesis between paired texts.  The groups in front of it stay, those behind it
    are lost, and their parentheses are literal text behind the unclosed one.  So it costs only
    itself if and only if there is no group behind it. -/
theorem topGroups_parse_append_open (a b : String) (ha : Paired a.toList) (hb : Paired b.toList) :
    topGroups (parse (a ++ "(" ++ b)) = topGroups (parse a) ∧
    Node.parensAll (parse (a ++ "(" ++ b)) = '(' :: b.toList.filter isParen ∧
    (topGroups (parse (a ++ "(" ++ b)) = topGroups (parse a) ++ topGroups (parse b) ∧
        Node.parensAll (parse (a ++ "(" ++ b)) = ['('] ↔ '(' ∉ b.toList) := by
  have houtside : (scan a.toList).inGroup = false := ha.balanced.outside [] [] 0
  have hparse := parse_append_open houtside (hb.staysInside 0)
  have hsplits := splits_tokens ('(' :: b.toList)
  have hgroups : topGroups (parse (a ++ "(" ++ b)) = topGroups (parse a) := by
    rw [hparse, topGroups_append, hsplits.topGroups_eq_nil, List.append_nil]
  have hparens : Node.parensAll (parse (a ++ "(" ++ b)) = '(' :: b.toList.filter isParen := by
    rw [hparse, Node.parensAll_append, (parses_parse a).parensAll_eq_nil ha, hsplits.parensAll]
    rfl
  refine ⟨hgroups, hparens, ?_⟩
  rw [hgroups, hparens, List.self_eq_append_right, (parses_parse b).topGroups_eq_nil_iff hb]
  constructor
  · exact fun h => h.1
  · intro hnone
    exact ⟨hnone, by rw [hb.filter_isParen hnone]⟩

/-- Behind a closed group, with no group after it, an unclosed parenthesis costs only itself. -/
theorem topGroups_parse_append_open_of_plain :
    Paired "/a(/b)".toList ∧ Paired "/<c>".toList ∧
      topGroups (parse "/a(/b)(/<c>") = [.group [.literal "/b"]] ∧
      Node.parensAll (parse "/a(/b)(/<c>") = ['('] := by
  have hfront : Paired "/a(/b)".toList :=
    paired_iff.2 ⟨splitGroup_eq_none_iff.1 (by decide), by decide⟩
  have hbehind : Paired "/<c>".toList :=
    paired_iff.2 ⟨splitGroup_eq_none_iff.1 (by decide), by decide⟩
  obtain ⟨hgroups, -, hcost⟩ := topGroups_parse_append_open "/a(/b)" "/<c>" hfront hbehind
  have hparse : parse "/a(/b)" = [.literal "/a", .group [.literal "/b"]] := by decide +kernel
  refine ⟨hfront, hbehind, hgroups.trans ?_, (hcost.2 (by decide)).2⟩
  rw [hparse]
  rfl

/-- A group behind an unclosed parenthesis is lost, though it is closed itself. -/
theorem topGroups_parse_of_lost_group :
    Paired "/a".toList ∧ Paired "/b(/<n>)".toList ∧
      topGroups (parse ("/a" ++ "(" ++ "/b(/<n>)"))
        ≠ topGroups (parse "/a") ++ topGroups (parse "/b(/<n>)") :=
  ⟨paired_iff.2 ⟨splitGroup_eq_none_iff.1 (by decide), by decide⟩,
    paired_iff.2 ⟨splitGroup_eq_none_iff.1 (by decide), by decide⟩, by decide +kernel⟩

end Waymark.Template
