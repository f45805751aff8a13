/-
  Waymark.Proofs.Route.Straying

  Reading back a template with one parameter.  A group without parameters is never written, but
  reading prefers to take it; where what is written behind it begins like its text, the reading
  strays from what was written.  The nodes behind the parameter cannot stray: they are read as
  briefly as possible when they are written, and so the parameter gets back all of its value.

  Main statement: `Node.find?_readingsAll_expand`, of the readings that reach the end the first
  gives the parameter its value if and only if nothing in front of the parameter strays.
-/

import Waymark.Proofs.Route.Listed

namespace Waymark.Template

/-! ## Going on -/

/-- Whether nodes can be read from the front of a text so that what is left is accepted. -/
def Node.reach (R : String → Reader) (E : List Char → Bool) (ns : List Node) (s : List Char) :
    Bool :=
  (Node.readingsAll R ns s).any fun w => E w.2

section

variable {R : String → Reader} {E : List Char → Bool}

theorem Node.reach_iff {ns : List Node} {s : List Char} :
    Node.reach R E ns s = true ↔ ∃ w ∈ Node.readingsAll R ns s, E w.2 = true := by
  rw [Node.reach, List.any_eq_true]

/-- The first accepted way is a way, and it is accepted. -/
theorem mem_of_find?_rest {α : Type} {ws : List (α × List Char)} {w : α × List Char}
    (h : ws.find? (fun x => E x.2) = some w) : w ∈ ws ∧ E w.2 = true :=
  ⟨List.mem_of_find?_eq_some h,
    List.find?_some (p := fun x : α × List Char => E x.2) h⟩

theorem exists_find?_rest {α : Type} {ws : List (α × List Char)} {w : α × List Char}
    (hw : w ∈ ws) (hE : E w.2 = true) : ∃ x, ws.find? (fun x => E x.2) = some x := by
  rw [← Option.isSome_iff_exists, List.find?_isSome]
  exact ⟨w, hw, hE⟩

/-- The first way through ways that nodes continue is the first one that they can continue, and from
    there the first way through the nodes. -/
theorem Node.find?_continued_eq_some {us : List (Captured × List Char)} {ns : List Node}
    {w : Captured × List Char} :
    (us.flatMap fun u => (Node.readingsAll R ns u.2).map fun x => (u.1 ++ x.1, x.2)).find?
        (fun w => E w.2) = some w ↔
      ∃ u x, us.find? (fun u => Node.reach R E ns u.2) = some u ∧
        (Node.readingsAll R ns u.2).find? (fun x => E x.2) = some x ∧ w = (u.1 ++ x.1, x.2) := by
  have hbind : (us.flatMap fun u => (Node.readingsAll R ns u.2).map fun x =>
      (u.1 ++ x.1, x.2)).find? (fun w => E w.2)
        = (us.find? fun u => Node.reach R E ns u.2).bind fun u =>
          ((Node.readingsAll R ns u.2).find? fun x => E x.2).map fun x => (u.1 ++ x.1, x.2) := by
    -- a reading that leads on to no accepted one is passed over on both sides
    rw [List.find?_flatMap]
    induction us with
    | nil => rfl
    | cons u us ih =>
      rw [List.findSome?_cons, List.find?_cons, ih, find?_map_taken E (u.1 ++ ·)]
      cases hx : (Node.readingsAll R ns u.2).find? fun x => E x.2 with
      | some x =>
        have hreach : Node.reach R E ns u.2 = true :=
          Node.reach_iff.2 ⟨x, mem_of_find?_rest hx⟩
        rw [hreach, Option.bind_some, hx]
        rfl
      | none =>
        have hreach : Node.reach R E ns u.2 = false := by
          rw [← Bool.not_eq_true, Node.reach_iff]
          rintro ⟨x, hmem, hex⟩
          exact absurd hex (List.find?_eq_none.1 hx x hmem)
        rw [hreach]
        rfl
  rw [hbind, Option.bind_eq_some_iff]
  constructor
  · rintro ⟨u, hu, h⟩
    obtain ⟨x, hx, rfl⟩ := Option.map_eq_some_iff.1 h
    exact ⟨u, x, hu, hx, rfl⟩
  · rintro ⟨u, x, hu, hx, rfl⟩
    exact ⟨u, hu, Option.map_eq_some_iff.2 ⟨x, hx, rfl⟩⟩

theorem Node.find?_readingsAll_cons_eq_some {n : Node} {ns : List Node} {s : List Char}
    {w : Captured × List Char} :
    (Node.readingsAll R (n :: ns) s).find? (fun w => E w.2) = some w ↔
      ∃ u x, (n.readings R s).find? (fun u => Node.reach R E ns u.2) = some u ∧
        (Node.readingsAll R ns u.2).find? (fun x => E x.2) = some x ∧ w = (u.1 ++ x.1, x.2) := by
  exact Node.find?_continued_eq_some

theorem Node.find?_readingsAll_append_eq_some {ns ms : List Node} {s : List Char}
    {w : Captured × List Char} :
    (Node.readingsAll R (ns ++ ms) s).find? (fun w => E w.2) = some w ↔
      ∃ u x, (Node.readingsAll R ns s).find? (fun u => Node.reach R E ms u.2) = some u ∧
        (Node.readingsAll R ms u.2).find? (fun x => E x.2) = some x ∧ w = (u.1 ++ x.1, x.2) := by
  rw [Node.readingsAll_append]
  exact Node.find?_continued_eq_some

end

/-! ## Lengths -/

/-- Two parts that make up two others, each a part of its own one, are these. -/
theorem eq_and_eq_of_sublist {α : Type} {as bs cs ds : List α} (h : as ++ bs = cs ++ ds)
    (ha : as.Sublist cs) (hb : bs.Sublist ds) : as = cs ∧ bs = ds := by
  have hlength := congrArg List.length h
  rw [List.length_append, List.length_append] at hlength
  have hac := ha.length_le
  have hbd := hb.length_le
  exact List.append_inj h (by omega)

section

variable {R : String → Reader} {params defaults : Dict String}

theorem length_expandNode_group_le (params defaults : Dict String) (children : List Node) :
    (expandNode params defaults (.group children)).toList.length
      ≤ (expand params defaults children).toList.length := by
  rw [expandNode]
  by_cases hw : (Node.dependents children).any (isTelling params defaults) = true
  · exact Nat.le_of_eq (congrArg (fun t : String => t.toList.length) (if_pos hw))
  · rw [if_neg hw]
    exact Nat.zero_le _

/-- A group without parameters is not written. -/
theorem expandNode_group_of_paramsAll_eq_nil {children : List Node}
    (h : Node.paramsAll children = []) :
    expandNode params defaults (.group children) = "" := by
  have hw : ¬ (Node.dependents children).any (isTelling params defaults) = true := by
    rw [← isWritten, isWritten_iff, h]
    rintro ⟨a, ha, -⟩
    exact absurd ha List.not_mem_nil
  rw [expandNode, if_neg hw]

mutual

/-- A reading that takes every parameter, and none of them shorter than it is written, takes at
    least what is written: only groups without parameters can be skipped. -/
theorem Node.length_le_of_mem_readings {s : List Char} {w : Captured × List Char} (n : Node)
    (hR : ∀ a ∈ n.params, (R a).Exact) (hw : w ∈ n.readings R s)
    (hall : w.1.map (·.1) = n.params)
    (hlong : ∀ e ∈ w.1, (valueOf params defaults e.1).toList.length ≤ e.2.length) :
    w.2.length + (expandNode params defaults n).toList.length ≤ s.length := by
  cases n with
  | literal text =>
    obtain ⟨-, rfl⟩ := Node.mem_readings_literal.1 hw
    rw [expandNode_literal, List.length_append]
    omega
  | param name =>
    have hname := hR name (List.mem_singleton_self _)
    obtain ⟨v, hv, rfl⟩ := List.mem_map.1 hw
    have hle : (valueOf params defaults name).toList.length ≤ v.1.length :=
      hlong (name, v.1) (List.mem_singleton_self _)
    rw [expandNode_param, ← hname s v hv, List.length_append]
    show v.2.length + _ ≤ _
    omega
  | group children =>
    have hle := length_expandNode_group_le params defaults children
    rw [Node.readings_group, List.mem_append, List.mem_singleton] at hw
    rcases hw with hw | rfl
    · have hchildren := Node.length_le_of_mem_readingsAll children hR hw hall hlong
      omega
    · rw [expandNode_group_of_paramsAll_eq_nil hall.symm]
      exact Nat.le_refl _

theorem Node.length_le_of_mem_readingsAll {s : List Char} {w : Captured × List Char}
    (ns : List Node) (hR : ∀ a ∈ Node.paramsAll ns, (R a).Exact)
    (hw : w ∈ Node.readingsAll R ns s) (hall : w.1.map (·.1) = Node.paramsAll ns)
    (hlong : ∀ e ∈ w.1, (valueOf params defaults e.1).toList.length ≤ e.2.length) :
    w.2.length + (expand params defaults ns).toList.length ≤ s.length := by
  cases ns with
  | nil =>
    rw [Node.readingsAll_nil, List.mem_singleton] at hw
    rw [hw, expand_nil]
    exact Nat.le_refl _
  | cons n ns =>
    obtain ⟨u, hu, hw⟩ := List.mem_flatMap.1 hw
    obtain ⟨x, hx, rfl⟩ := List.mem_map.1 hw
    rw [List.map_append] at hall
    obtain ⟨hall₁, hall₂⟩ := eq_and_eq_of_sublist hall (Node.sublist_readings n hu)
      (Node.sublist_readingsAll ns hx)
    have hn := Node.length_le_of_mem_readings n (fun a ha => hR a (List.mem_append_left _ ha)) hu
      hall₁ (fun e he => hlong e (List.mem_append_left _ he))
    have hns := Node.length_le_of_mem_readingsAll ns
      (fun a ha => hR a (List.mem_append_right _ ha)) hx hall₂
      (fun e he => hlong e (List.mem_append_right _ he))
    rw [expand_cons, String.toList_append, List.length_append]
    show x.2.length + _ ≤ _
    omega

end

/-! ## Nodes without parameters -/

section

variable {s : List Char} {w : Captured × List Char}

theorem Captured.eq_nil_of_sublist {c : Captured} {names : List String} (hnames : names = [])
    (h : (c.map (·.1)).Sublist names) : c = [] := by
  rw [hnames, List.sublist_nil, List.map_eq_nil_iff] at h
  exact h

/-- What is read by nodes without parameters: no value, and at least what they write. -/
theorem Node.spec_of_paramsAll_eq_nil (params defaults : Dict String) {ns : List Node}
    (h : Node.paramsAll ns = []) (hw : w ∈ Node.readingsAll R ns s) :
    w.1 = [] ∧ w.2 <:+ s ∧ w.2.length + (expand params defaults ns).toList.length ≤ s.length := by
  have hR : ∀ a ∈ Node.paramsAll ns, (R a).Exact := by simp [h]
  have hnone : w.1 = [] := Captured.eq_nil_of_sublist h (Node.sublist_readingsAll ns hw)
  refine ⟨hnone, Node.suffix_of_mem_readingsAll ns hR hw, ?_⟩
  exact Node.length_le_of_mem_readingsAll ns hR hw (by rw [hnone, h]; rfl) (by simp [hnone])

theorem Node.spec_of_params_eq_nil (params defaults : Dict String) {n : Node}
    (h : n.params = []) (hw : w ∈ n.readings R s) :
    w.1 = [] ∧ w.2 <:+ s ∧
      w.2.length + (expandNode params defaults n).toList.length ≤ s.length := by
  have hR : ∀ a ∈ n.params, (R a).Exact := by simp [h]
  have hnone : w.1 = [] := Captured.eq_nil_of_sublist h (Node.sublist_readings n hw)
  refine ⟨hnone, Node.suffix_of_mem_readings n hR hw, ?_⟩
  exact Node.length_le_of_mem_readings n hR hw (by rw [hnone, h]; rfl) (by simp [hnone])

end

mutual

/-- Nodes without parameters can be read as they were written. -/
theorem Node.mem_readings_expand {f : List Char} (n : Node) (h : n.params = []) :
    ([], f) ∈ n.readings R ((expandNode params defaults n).toList ++ f) := by
  cases n with
  | literal text =>
    rw [expandNode_literal, Node.readings_literal, if_pos (by simp), List.drop_left]
    exact List.mem_singleton_self _
  | param name => exact absurd h (by simp)
  | group children =>
    rw [expandNode_group_of_paramsAll_eq_nil h, Node.readings_group, List.mem_append]
    exact Or.inr (List.mem_singleton_self _)

theorem Node.mem_readingsAll_expand {f : List Char} (ns : List Node)
    (h : Node.paramsAll ns = []) :
    ([], f) ∈ Node.readingsAll R ns ((expand params defaults ns).toList ++ f) := by
  cases ns with
  | nil => exact List.mem_singleton_self _
  | cons n ns =>
    rw [Node.paramsAll_cons, List.append_eq_nil_iff] at h
    rw [expand_cons, String.toList_append, List.append_assoc, Node.readingsAll_cons]
    refine List.mem_flatMap.2 ⟨([], _), Node.mem_readings_expand n h.1, ?_⟩
    exact List.mem_map.2 ⟨([], f), Node.mem_readingsAll_expand ns h.2, rfl⟩

end

mutual

/-- Of a node without parameters the written reading is the least preferred: if the first accepted
    reading leaves what the written one leaves, they all do. -/
theorem Node.rest_of_find?_readings {E : List Char → Bool} {f : List Char}
    {w : Captured × List Char} (n : Node) (h : n.params = [])
    (hfirst : (n.readings R ((expandNode params defaults n).toList ++ f)).find? (fun x => E x.2)
      = some w) (hrest : w.2 = f) {x : Captured × List Char}
    (hx : x ∈ n.readings R ((expandNode params defaults n).toList ++ f)) (hE : E x.2 = true) :
    x.2 = f := by
  cases n with
  | literal text =>
    rw [expandNode_literal, Node.readings_literal, if_pos (by simp), List.drop_left,
      List.mem_singleton] at hx
    rw [hx]
  | param name => exact absurd h (by simp)
  | group children =>
    rw [expandNode_group_of_paramsAll_eq_nil h, String.toList_empty, List.nil_append,
      Node.readings_group] at hfirst hx
    rw [List.mem_append, List.mem_singleton] at hx
    rcases hx with hx | rfl
    · -- the group can be taken, so it is taken first, and it takes nothing
      obtain ⟨y, hy⟩ := exists_find?_rest hx hE
      rw [List.find?_append, hy, Option.some_or, Option.some.injEq] at hfirst
      subst hfirst
      obtain ⟨-, -, hlength⟩ :=
        Node.spec_of_paramsAll_eq_nil params defaults h (mem_of_find?_rest hy).1
      rw [hrest] at hlength
      have hempty : (expand params defaults children).toList = [] :=
        List.eq_nil_of_length_eq_zero (by omega)
      refine Node.rest_of_find?_readingsAll children h (w := y) ?_ hrest ?_ hE
      · rw [hempty]
        exact hy
      · rw [hempty]
        exact hx
    · rfl

theorem Node.rest_of_find?_readingsAll {E : List Char → Bool} {f : List Char}
    {w : Captured × List Char} (ns : List Node) (h : Node.paramsAll ns = [])
    (hfirst : (Node.readingsAll R ns ((expand params defaults ns).toList ++ f)).find?
      (fun x => E x.2) = some w) (hrest : w.2 = f) {x : Captured × List Char}
    (hx : x ∈ Node.readingsAll R ns ((expand params defaults ns).toList ++ f))
    (hE : E x.2 = true) : x.2 = f := by
  cases ns with
  | nil =>
    rw [expand_nil, String.toList_empty, List.nil_append, Node.readingsAll_nil,
      List.mem_singleton] at hx
    rw [hx]
  | cons n ns =>
    rw [Node.paramsAll_cons, List.append_eq_nil_iff] at h
    rw [expand_cons, String.toList_append, List.append_assoc] at hfirst hx
    obtain ⟨u, v, hu, hv, rfl⟩ := Node.find?_readingsAll_cons_eq_some.1 hfirst
    change v.2 = f at hrest
    -- `n` leaves no less than the others need, and no more than there is
    obtain ⟨-, hsuffix, hn⟩ :=
      Node.spec_of_params_eq_nil params defaults h.1 (mem_of_find?_rest hu).1
    obtain ⟨-, -, hns⟩ :=
      Node.spec_of_paramsAll_eq_nil params defaults h.2 (mem_of_find?_rest hv).1
    have hu₂ : u.2 = (expand params defaults ns).toList ++ f := by
      refine Regex.eq_of_suffix_of_length hsuffix (List.suffix_append _ _) ?_
      rw [hrest] at hns
      rw [List.length_append, List.length_append] at hn
      rw [List.length_append]
      omega
    rw [hu₂] at hv
    obtain ⟨y, hy, hx⟩ := List.mem_flatMap.1 hx
    obtain ⟨z, hz, rfl⟩ := List.mem_map.1 hx
    have hy₂ := Node.rest_of_find?_readings n h.1 hu hu₂ hy (Node.reach_iff.2 ⟨z, hz, hE⟩)
    rw [hy₂] at hz
    exact Node.rest_of_find?_readingsAll ns h.2 hv hrest (x := z) hz hE

end

end

/-! ## Straying -/

section

variable (R : String → Reader) (params defaults : Dict String)

/-- Whether a node in front of `f` can be read otherwise than it is written, and the rest be
    accepted. -/
def Node.diverges (f : List Char) (E : List Char → Bool) (n : Node) : Bool :=
  (n.readings R ((expandNode params defaults n).toList ++ f)).any fun w => w.2 != f && E w.2

mutual

/-- Whether something strays in front of the parameter of a node. -/
def Node.strays (f : List Char) (E : List Char → Bool) : Node → Bool
  | .literal _ => false
  | .param _ => false
  | .group children => Node.straysAll f E children

/-- Whether something strays in front of the parameter of these nodes, groups around it entered in
    place: a node without parameters can be read otherwise than it is written, and what follows
    can be read from there so that the rest is accepted.  The text `f` stands behind the nodes. -/
def Node.straysAll (f : List Char) (E : List Char → Bool) : List Node → Bool
  | [] => false
  | n :: ns =>
    let rest := (expand params defaults ns).toList ++ f
    if n.params.isEmpty then
      n.diverges R params defaults rest (Node.reach R E ns) || Node.straysAll f E ns
    else n.strays rest (Node.reach R E ns)

end

end

/-- Of a node without parameters the first accepted reading tells whether another one than the
    written one is accepted. -/
theorem Node.diverges_eq {R : String → Reader} {params defaults : Dict String}
    {E : List Char → Bool} {f : List Char} {n : Node} (hn : n.params = [])
    {u : Captured × List Char}
    (hu : (n.readings R ((expandNode params defaults n).toList ++ f)).find? (fun x => E x.2)
      = some u) : n.diverges R params defaults f E = (u.2 != f) := by
  obtain ⟨humem, huE⟩ := mem_of_find?_rest hu
  rw [diverges]
  by_cases hrest : u.2 = f
  · have hall : ∀ w ∈ n.readings R ((expandNode params defaults n).toList ++ f),
        ¬ (w.2 != f && E w.2) = true := by
      intro w hw
      rw [Bool.and_eq_true, bne_iff_ne]
      rintro ⟨hne, hwE⟩
      exact hne (Node.rest_of_find?_readings n hn hu hrest hw hwE)
    rw [List.any_eq_false.2 hall, hrest, bne_self_eq_false]
  · have hne : (u.2 != f) = true := bne_iff_ne.2 hrest
    rw [hne, List.any_eq_true]
    exact ⟨u, humem, by rw [hne, huE]; rfl⟩

section

variable {R : String → Reader} {params defaults : Dict String}

/-- A literal is read as it is written. -/
theorem Node.diverges_literal (f : List Char) (E : List Char → Bool) (text : String) :
    (Node.literal text).diverges R params defaults f E = false := by
  rw [diverges, expandNode_literal, Node.readings_literal, if_pos (by simp), List.drop_left,
    List.any_cons, bne_self_eq_false]
  rfl

mutual

theorem Node.strays_of_populated (f : List Char) (E : List Char → Bool) (n : Node)
    (hn : n.Populated) : n.strays R params defaults f E = false := by
  cases n with
  | literal text => rw [Node.strays]
  | param name => rw [Node.strays]
  | group children =>
    rw [Node.strays]
    exact Node.straysAll_of_populated f E children hn.2

/-- Only groups without parameters stray. -/
theorem Node.straysAll_of_populated (f : List Char) (E : List Char → Bool) (ns : List Node)
    (hns : Node.PopulatedAll ns) : Node.straysAll R params defaults f E ns = false := by
  cases ns with
  | nil => rw [Node.straysAll]
  | cons n ns =>
    rw [Node.straysAll]
    by_cases hn : n.params = []
    · have hstays : n.diverges R params defaults ((expand params defaults ns).toList ++ f)
          (Node.reach R E ns) = false := by
        cases n with
        | literal text => exact Node.diverges_literal _ _ text
        | param name => exact absurd hn (by simp)
        | group children => exact absurd hn hns.1.1
      rw [if_pos (by rw [hn]; rfl), hstays, Bool.false_or]
      exact Node.straysAll_of_populated f E ns hns.2
    · rw [if_neg (by simpa using hn)]
      exact Node.strays_of_populated _ _ n hns.1

end

end

section

variable {E : List Char → Bool} {f : List Char}

/-- A run is read as long as it is if what is accepted is never longer than what stands behind. -/
theorem find?_readRun_of_length_le {p : Char → Bool} {w : List Char} (hw : w.all p = true)
    (hf : E f = true) (hE : ∀ s, E s = true → f.length ≤ s.length) :
    (readRun p (w ++ f)).find? (fun x => E x.2) = some (w, f) := by
  induction w with
  | nil =>
    cases f with
    | nil =>
      show [([], [])].find? _ = _
      rw [List.find?_cons, hf]
    | cons c f =>
      -- a longer run would leave too little
      have hlonger : ((if p c = true then (readRun p f).map fun w => (c :: w.1, w.2) else []).find?
          fun x => E x.2) = none := by
        rw [List.find?_eq_none]
        intro x hx hex
        by_cases hc : p c = true
        · rw [if_pos hc] at hx
          obtain ⟨y, hy, rfl⟩ := List.mem_map.1 hx
          have hlength := congrArg List.length (append_of_mem_readRun hy)
          have hle := hE y.2 hex
          rw [List.length_append] at hlength
          rw [List.length_cons] at hle
          omega
        · rw [if_neg hc] at hx
          exact absurd hx List.not_mem_nil
      rw [List.nil_append, readRun, List.find?_append, hlonger, Option.none_or, List.find?_cons, hf]
  | cons c w ih =>
    rw [List.all_cons, Bool.and_eq_true] at hw
    rw [List.cons_append, readRun, if_pos hw.1, List.find?_append,
      find?_map_taken E (List.cons c), ih hw.2]
    rfl

theorem find?_readWord_of_length_le {w : List Char} (hne : w ≠ [])
    (hw : w.all isWordChar = true) (hf : E f = true)
    (hE : ∀ s, E s = true → f.length ≤ s.length) :
    (readWord (w ++ f)).find? (fun x => E x.2) = some (w, f) := by
  cases w with
  | nil => exact absurd rfl hne
  | cons c w =>
    rw [List.all_cons, Bool.and_eq_true] at hw
    rw [List.cons_append, readWord, if_pos hw.1, find?_map_taken E (List.cons c),
      find?_readRun_of_length_le hw.2 hf hE]
    rfl

end

/-- A parameter that is read as a word and written with one that is not its default. -/
structure Worded (R : String → Reader) (params defaults : Dict String) (a v : String) : Prop where
  reader : R a = readWord
  value : valueOf params defaults a = v
  telling : isTelling params defaults a = true
  nonempty : v ≠ ""
  word : v.toList.all isWordChar = true

section

variable {R : String → Reader} {params defaults : Dict String} {a v : String}

theorem Worded.exact_of_mem (h : Worded R params defaults a v) {names : List String}
    (hnames : names = [a]) : ∀ b ∈ names, (R b).Exact := by
  intro b hb
  rw [hnames, List.mem_singleton] at hb
  rw [hb, h.reader]
  exact fun s w hw => append_of_mem_readWord hw

/-- Nodes whose reading gives the parameter its value take at least what they write. -/
theorem Worded.length_le (h : Worded R params defaults a v) {ns : List Node}
    (hns : Node.paramsAll ns = [a]) {s : List Char} {w : Captured × List Char}
    (hw : w ∈ Node.readingsAll R ns s) (hv : (a, v.toList) ∈ w.1) :
    w.2.length + (expand params defaults ns).toList.length ≤ s.length := by
  have hone : w.1 = [(a, v.toList)] := by
    have hsub := (Node.sublist_readingsAll ns hw).length_le
    rw [hns, List.length_map, List.length_singleton] at hsub
    obtain ⟨e, he⟩ := List.length_eq_one_iff.1
      (Nat.le_antisymm hsub (List.length_pos_of_mem hv))
    rw [he, List.mem_singleton] at hv
    rw [he, hv]
  refine Node.length_le_of_mem_readingsAll ns (h.exact_of_mem hns) hw (by rw [hone, hns]; rfl) ?_
  rw [hone]
  intro e he
  rw [List.mem_singleton.1 he]
  show (valueOf params defaults a).toList.length ≤ v.toList.length
  exact Nat.le_of_eq (by rw [h.value])

/-- What a reading does for the parameter: it gives it its value and leaves `f`, or, where something
    strays, it gives it another value or none. -/
def Restores (a v : String) (f : List Char) (strays : Bool) (w : Captured × List Char) : Prop :=
  (strays = false → w = ([(a, v.toList)], f)) ∧ (strays = true → (a, v.toList) ∉ w.1)

section

variable {E : List Char → Bool} {f : List Char} {n : Node} {ns : List Node}

/-- A node in front of the parameter. -/
theorem Worded.find?_cons_of_front (h : Worded R params defaults a v) (hn : n.params = [])
    (hns : Node.paramsAll ns = [a]) (hE : ∀ s, E s = true → f.length ≤ s.length)
    (ih : ∃ w, (Node.readingsAll R ns ((expand params defaults ns).toList ++ f)).find?
        (fun x => E x.2) = some w ∧ Restores a v f (Node.straysAll R params defaults f E ns) w) :
    ∃ w, (Node.readingsAll R (n :: ns) ((expand params defaults (n :: ns)).toList ++ f)).find?
        (fun x => E x.2) = some w ∧
      Restores a v f (Node.straysAll R params defaults f E (n :: ns)) w := by
  obtain ⟨x, hx, hrestores⟩ := ih
  have hreach : Node.reach R E ns ((expand params defaults ns).toList ++ f) = true :=
    Node.reach_iff.2 ⟨x, mem_of_find?_rest hx⟩
  obtain ⟨u, hu⟩ := exists_find?_rest (Node.mem_readings_expand n hn) hreach
  obtain ⟨humem, hureach⟩ := mem_of_find?_rest hu
  obtain ⟨hnone, hsuffix, hlength⟩ := Node.spec_of_params_eq_nil params defaults hn humem
  rw [expand_cons, String.toList_append, List.append_assoc, Node.straysAll,
    if_pos (by rw [hn]; rfl), Node.diverges_eq hn hu]
  by_cases hrest : u.2 = (expand params defaults ns).toList ++ f
  · rw [hrest, bne_self_eq_false, Bool.false_or]
    rw [← hrest] at hx
    refine ⟨x, Node.find?_readingsAll_cons_eq_some.2 ⟨u, x, hu, hx, ?_⟩, hrestores⟩
    rw [hnone, List.nil_append]
  · -- less is left than the value of the parameter and what follows it take
    rw [bne_iff_ne.2 hrest, Bool.true_or]
    obtain ⟨w, hw, hwE⟩ := Node.reach_iff.1 hureach
    obtain ⟨y, hy⟩ := exists_find?_rest hw hwE
    obtain ⟨hymem, hyE⟩ := mem_of_find?_rest hy
    refine ⟨_, Node.find?_readingsAll_cons_eq_some.2 ⟨u, y, hu, hy, rfl⟩,
      fun hfalse => absurd hfalse (by simp), fun _ hv => hrest ?_⟩
    rw [hnone, List.nil_append] at hv
    have hleft := h.length_le hns hymem hv
    have hmin := hE y.2 hyE
    refine Regex.eq_of_suffix_of_length hsuffix (List.suffix_append _ _) ?_
    rw [List.length_append, List.length_append] at hlength
    rw [List.length_append]
    omega

/-- The node of the parameter.  Nothing behind it is read as less than what is written. -/
theorem find?_cons_of_param (hn : n.params = [a]) (hns : Node.paramsAll ns = [])
    (hf : E f = true) (hE : ∀ s, E s = true → f.length ≤ s.length)
    (ih : ∀ (E : List Char → Bool) (f : List Char), E f = true →
      (∀ s, E s = true → f.length ≤ s.length) →
      ∃ w, (n.readings R ((expandNode params defaults n).toList ++ f)).find? (fun x => E x.2)
        = some w ∧ Restores a v f (n.strays R params defaults f E) w) :
    ∃ w, (Node.readingsAll R (n :: ns) ((expand params defaults (n :: ns)).toList ++ f)).find?
        (fun x => E x.2) = some w ∧
      Restores a v f (Node.straysAll R params defaults f E (n :: ns)) w := by
  have hreach : Node.reach R E ns ((expand params defaults ns).toList ++ f) = true :=
    Node.reach_iff.2 ⟨([], f), Node.mem_readingsAll_expand ns hns, hf⟩
  have hleast : ∀ s, Node.reach R E ns s = true →
      ((expand params defaults ns).toList ++ f).length ≤ s.length := by
    intro s hs
    obtain ⟨w, hw, hwE⟩ := Node.reach_iff.1 hs
    obtain ⟨-, -, hlength⟩ := Node.spec_of_paramsAll_eq_nil params defaults hns hw
    have hmin := hE w.2 hwE
    rw [List.length_append]
    omega
  obtain ⟨u, hu, hwritten, hother⟩ := ih (Node.reach R E ns) _ hreach hleast
  obtain ⟨w, hw, hwE⟩ := Node.reach_iff.1 (mem_of_find?_rest hu).2
  obtain ⟨y, hy⟩ := exists_find?_rest hw hwE
  obtain ⟨hymem, hyE⟩ := mem_of_find?_rest hy
  obtain ⟨hnone, hsuffix, hlength⟩ := Node.spec_of_paramsAll_eq_nil params defaults hns hymem
  rw [expand_cons, String.toList_append, List.append_assoc, Node.straysAll, if_neg (by simp [hn])]
  refine ⟨_, Node.find?_readingsAll_cons_eq_some.2 ⟨u, y, hu, hy, rfl⟩, ?_, ?_⟩
  · -- the nodes behind leave at least `f`, and they take at least what is in front of it
    intro hstays
    rw [hwritten hstays] at hsuffix hlength ⊢
    have hmin := hE y.2 hyE
    have hyf : y.2 = f := by
      refine Regex.eq_of_suffix_of_length hsuffix (List.suffix_append _ _) ?_
      rw [List.length_append] at hlength
      omega
    rw [hnone, hyf]
    rfl
  · -- they have no value for the parameter that could make good for the reading of `n`
    intro hstrays
    rw [hnone, List.append_nil]
    exact hother hstrays

end

-- The induction is on the tree, for every `E` at once: for a node, `E` asks that the nodes behind it
-- can be read.  What it carries along is that `E` accepts nothing shorter than what was written.
mutual

theorem Node.find?_readings_expand (h : Worded R params defaults a v) {E : List Char → Bool}
    {f : List Char} (n : Node) (hn : n.params = [a]) (hf : E f = true)
    (hE : ∀ s, E s = true → f.length ≤ s.length) :
    ∃ w, (n.readings R ((expandNode params defaults n).toList ++ f)).find? (fun x => E x.2)
      = some w ∧ Restores a v f (n.strays R params defaults f E) w := by
  cases n with
  | literal text => exact absurd hn (by simp)
  | param name =>
    rw [Node.params_param, List.singleton_inj] at hn
    subst hn
    have hne : v.toList ≠ [] := by simpa using h.nonempty
    have hfind := find?_readWord_of_length_le hne h.word hf hE
    rw [expandNode_param, h.value, Node.readings_param, h.reader,
      find?_map_taken E (fun t => [(name, t)]), hfind]
    refine ⟨_, rfl, fun _ => rfl, fun hstrays => ?_⟩
    exact absurd hstrays (by simp [Node.strays])
  | group children =>
    rw [Node.params_group] at hn
    have hmem : a ∈ Node.paramsAll children := by simp [hn]
    -- the group is written, and taken before it is skipped
    have hw := isWritten_iff.2 ⟨a, hmem, h.telling⟩
    rw [isWritten] at hw
    obtain ⟨w, hfind, hrestores⟩ := Node.find?_readingsAll_expand h children hn hf hE
    rw [expandNode, if_pos hw, Node.readings_group, List.find?_append, hfind, Option.some_or,
      Node.strays]
    exact ⟨w, rfl, hrestores⟩

/-- Of the readings of nodes with one parameter whose rest is accepted, the first gives the
    parameter the value it was written with, unless something in front of it strays.  No accepted
    rest is shorter than what stands behind the nodes. -/
theorem Node.find?_readingsAll_expand (h : Worded R params defaults a v) {E : List Char → Bool}
    {f : List Char} (ns : List Node) (hns : Node.paramsAll ns = [a]) (hf : E f = true)
    (hE : ∀ s, E s = true → f.length ≤ s.length) :
    ∃ w, (Node.readingsAll R ns ((expand params defaults ns).toList ++ f)).find?
      (fun x => E x.2) = some w ∧ Restores a v f (Node.straysAll R params defaults f E ns) w := by
  cases ns with
  | nil => exact absurd hns (by simp)
  | cons n ns =>
    rcases List.append_eq_singleton_iff.1 hns with ⟨hn, hns⟩ | ⟨hn, hns⟩
    · exact h.find?_cons_of_front hn hns hE (Node.find?_readingsAll_expand h ns hns hf hE)
    · exact find?_cons_of_param hn hns hf hE
        (fun E f hf hE => Node.find?_readings_expand h n hn hf hE)

end

end

end Waymark.Template
