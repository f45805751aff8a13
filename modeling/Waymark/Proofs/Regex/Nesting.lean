/-
  Waymark.Proofs.Regex.Nesting

  Reading an expression inside a larger one.  `State.within` puts a state into its surroundings:
  groups that are open around it, and a number of groups opened before.  A step does the same
  there, and the groups that capture are numbered on from those before.  So an expression that can
  be read on its own is read to its end, unless a comment takes in the parenthesis behind it; then
  one parenthesis and two behind it are read as the same text.

  Main statements: `fills_or_overruns` and `fills_of_read`.
-/

import Mathlib.Data.List.Range
import Waymark.Proofs.Regex.Fragment
import Waymark.Proofs.Regex.Locality.Class
import Waymark.Proofs.Regex.Locality.Group

namespace Waymark.Regex

/-! ## Groups of expressions -/

/-- The index of a group, if it captures. -/
def GroupKind.indices : GroupKind → List Nat
  | .capture index => [index]
  | .plain _ => []

/-- The same kind of group with `k` groups more in front. -/
def GroupKind.shift (k : Nat) : GroupKind → GroupKind
  | .capture index => .capture (index + k)
  | .plain flags => .plain flags

@[simp] theorem GroupKind.indices_capture (index : Nat) :
    (GroupKind.capture index).indices = [index] := rfl

@[simp] theorem GroupKind.indices_plain (flags : List (Flag × Bool)) :
    (GroupKind.plain flags).indices = [] := rfl

@[simp] theorem GroupKind.shift_capture (k index : Nat) :
    (GroupKind.capture index).shift k = .capture (index + k) := rfl

@[simp] theorem GroupKind.shift_plain (k : Nat) (flags : List (Flag × Bool)) :
    (GroupKind.plain flags).shift k = .plain flags := rfl

mutual

/-- The indices of the groups that capture. -/
def Ast.indices : Ast → List Nat
  | .repetition _ _ _ body => body.indices
  | .group kind body => kind.indices ++ body.indices
  | .alternation branches => Ast.indicesAll branches
  | .concat items => Ast.indicesAll items
  | _ => []

/-- The indices of the groups of several expressions. -/
def Ast.indicesAll : List Ast → List Nat
  | [] => []
  | item :: items => item.indices ++ Ast.indicesAll items

end

@[simp] theorem Ast.indices_repetition (least : Nat) (most : Option Nat) (greedy : Bool)
    (body : Ast) : (Ast.repetition least most greedy body).indices = body.indices := rfl

@[simp] theorem Ast.indices_group (kind : GroupKind) (body : Ast) :
    (Ast.group kind body).indices = kind.indices ++ body.indices := rfl

@[simp] theorem Ast.indices_alternation (branches : List Ast) :
    (Ast.alternation branches).indices = Ast.indicesAll branches := rfl

@[simp] theorem Ast.indices_concat (items : List Ast) :
    (Ast.concat items).indices = Ast.indicesAll items := rfl

@[simp] theorem Ast.indicesAll_nil : Ast.indicesAll [] = [] := rfl

@[simp] theorem Ast.indicesAll_cons (item : Ast) (items : List Ast) :
    Ast.indicesAll (item :: items) = item.indices ++ Ast.indicesAll items := rfl

mutual

/-- The same expression with `k` groups more in front. -/
def Ast.shift (k : Nat) : Ast → Ast
  | .repetition least most greedy body => .repetition least most greedy (body.shift k)
  | .group kind body => .group (kind.shift k) (body.shift k)
  | .alternation branches => .alternation (Ast.shiftAll k branches)
  | .concat items => .concat (Ast.shiftAll k items)
  | a => a

/-- The same expressions with `k` groups more in front. -/
def Ast.shiftAll (k : Nat) : List Ast → List Ast
  | [] => []
  | item :: items => item.shift k :: Ast.shiftAll k items

end

section

variable (k : Nat)

@[simp] theorem Ast.shift_repetition (least : Nat) (most : Option Nat) (greedy : Bool)
    (body : Ast) :
    (Ast.repetition least most greedy body).shift k =
      .repetition least most greedy (body.shift k) := rfl

@[simp] theorem Ast.shift_group (kind : GroupKind) (body : Ast) :
    (Ast.group kind body).shift k = .group (kind.shift k) (body.shift k) := rfl

@[simp] theorem Ast.shift_alternation (branches : List Ast) :
    (Ast.alternation branches).shift k = .alternation (Ast.shiftAll k branches) := rfl

@[simp] theorem Ast.shift_concat (items : List Ast) :
    (Ast.concat items).shift k = .concat (Ast.shiftAll k items) := rfl

@[simp] theorem Ast.shiftAll_nil : Ast.shiftAll k [] = [] := rfl

@[simp] theorem Ast.shiftAll_cons (item : Ast) (items : List Ast) :
    Ast.shiftAll k (item :: items) = item.shift k :: Ast.shiftAll k items := rfl

end

theorem Ast.shiftAll_eq_map (k : Nat) (items : List Ast) :
    Ast.shiftAll k items = items.map (Ast.shift k) := by
  induction items with
  | nil => rfl
  | cons item items ih => simp [ih]

theorem Ast.indicesAll_eq_flatMap (items : List Ast) :
    Ast.indicesAll items = items.flatMap Ast.indices := by
  induction items with
  | nil => rfl
  | cons item items ih => simp [ih]

theorem Ast.indices_ofItems (items : List Ast) :
    (Ast.ofItems items).indices = items.flatMap Ast.indices := by
  match items with
  | [] => simp [Ast.ofItems, Ast.indices]
  | [item] => simp [Ast.ofItems]
  | item :: item' :: items => simp [Ast.ofItems, Ast.indicesAll_eq_flatMap]

theorem Ast.indices_ofBranches (branches : List Ast) :
    (Ast.ofBranches branches).indices = branches.flatMap Ast.indices := by
  match branches with
  | [] => simp [Ast.ofBranches, Ast.indices]
  | [branch] => simp [Ast.ofBranches]
  | branch :: branch' :: branches => simp [Ast.ofBranches, Ast.indicesAll_eq_flatMap]

theorem Ast.shift_ofItems (k : Nat) (items : List Ast) :
    (Ast.ofItems items).shift k = Ast.ofItems (items.map (Ast.shift k)) := by
  match items with
  | [] => simp [Ast.ofItems, Ast.shift]
  | [item] => simp [Ast.ofItems]
  | item :: item' :: items => simp [Ast.ofItems, Ast.shiftAll_eq_map]

theorem Ast.shift_ofBranches (k : Nat) (branches : List Ast) :
    (Ast.ofBranches branches).shift k = Ast.ofBranches (branches.map (Ast.shift k)) := by
  match branches with
  | [] => simp [Ast.ofBranches, Ast.shift]
  | [branch] => simp [Ast.ofBranches]
  | branch :: branch' :: branches => simp [Ast.ofBranches, Ast.shiftAll_eq_map]

@[simp] theorem GroupKind.indices_shift (k : Nat) (kind : GroupKind) :
    (kind.shift k).indices = kind.indices.map (· + k) := by
  cases kind with
  | capture index => rfl
  | plain flags => rfl

mutual

theorem Ast.indices_shift (k : Nat) (a : Ast) : (a.shift k).indices = a.indices.map (· + k) := by
  cases a with
  | repetition least most greedy body => simp [Ast.indices_shift k body]
  | group kind body => simp [Ast.indices_shift k body]
  | alternation branches => simp [Ast.indicesAll_shiftAll k branches]
  | concat items => simp [Ast.indicesAll_shiftAll k items]
  | empty | flags | literal | dot | assertion | shorthand | property | bracketed =>
    simp [Ast.shift, Ast.indices]

theorem Ast.indicesAll_shiftAll (k : Nat) (items : List Ast) :
    Ast.indicesAll (Ast.shiftAll k items) = (Ast.indicesAll items).map (· + k) := by
  cases items with
  | nil => rfl
  | cons item items => simp [Ast.indices_shift k item, Ast.indicesAll_shiftAll k items]

end

end Waymark.Regex

namespace Waymark.Regex.Parse

/-! ## Tokens -/

/-- What a step reads. -/
inductive Token where
  | opening (o : Opening)
  | closing
  | bar
  | item (a : Ast)
  | counts (c : Counts)

/-- Reads what a step reads, from behind its first character. -/
def readToken (verbose : Bool) (c : Char) (s : List Char) : Except Error (Token × List Char) :=
  match c with
  | '(' => (readOpening verbose s).map fun x => (.opening x.1, x.2)
  | ')' => .ok (.closing, s)
  | '|' => .ok (.bar, s)
  | '[' => (readClass verbose s).map fun x => (.item x.1, x.2)
  | '?' => .ok (.counts ⟨0, some 1, (readGreed s).1⟩, (readGreed s).2)
  | '*' => .ok (.counts ⟨0, none, (readGreed s).1⟩, (readGreed s).2)
  | '+' => .ok (.counts ⟨1, none, (readGreed s).1⟩, (readGreed s).2)
  | '\x7b' => (readCounts verbose s).map fun x => (.counts x.1, x.2)
  | '\\' => (readEscape verbose s).map fun x => (.item (astOf x.1), x.2)
  | c => .ok (.item (astOf (partOf c)), s)

/-- Does what a token says. -/
def State.take (st : State) : Token → Except Error State
  | .opening o => st.begin o
  | .closing => st.leave
  | .bar => .ok st.branch
  | .item a => .ok (st.push a)
  | .counts c => st.repeat c

/-- The characters that begin more than an item of their own. -/
def tokenStarts : List Char := ['(', ')', '|', '[', '?', '*', '+', '\x7b', '\\']

theorem readToken_plain {c : Char} (hc : c ∉ tokenStarts) (verbose : Bool) (s : List Char) :
    readToken verbose c s = .ok (.item (astOf (partOf c)), s) := by
  unfold readToken
  split
  case h_10 => rfl
  all_goals exact absurd (by decide) hc

/-- A step reads a token and does what it says. -/
theorem step_eq (st : State) (c : Char) (s : List Char) : step st c s = (do
    let (k, r) ← readToken st.verbose c s
    return (← st.take k, r)) := by
  by_cases hc : c ∈ tokenStarts
  · simp only [tokenStarts, List.mem_cons, List.not_mem_nil, or_false] at hc
    -- in the order of `tokenStarts`
    rcases hc with rfl | rfl | rfl | rfl | rfl | rfl | rfl | rfl | rfl
    · unfold step readToken
      cases readOpening st.verbose s <;> rfl
    · rfl
    · rfl
    · unfold step readToken
      cases readClass st.verbose s <;> rfl
    · rfl
    · rfl
    · rfl
    · unfold step readToken
      cases readCounts st.verbose s <;> rfl
    · unfold step readToken
      cases readEscape st.verbose s <;> rfl
  · rw [readToken_plain hc]
    unfold step
    split
    case h_10 => rfl
    all_goals exact absurd (by decide) hc

/-- A token is the same whatever follows, unless it ends in a comment. -/
theorem absorbs_readToken {verbose : Bool} {c : Char} {k : Token} {s r : List Char}
    (h : readToken verbose c s = .ok (k, r)) :
    Persists (Absorbs (readToken verbose c) s) (fun s r => readToken verbose c s = .ok (k, r))
      s r := by
  have hnothing : ∀ {k' : Token}, (∀ t, readToken verbose c t = .ok (k', t)) →
      Persists (Absorbs (readToken verbose c) s) (fun s r => readToken verbose c s = .ok (k, r))
        s r := by
    intro k' hread
    rw [hread] at h
    cases h
    exact Persists.refl fun u _ => hread (s ++ u)
  by_cases hc : c ∈ tokenStarts
  · simp only [tokenStarts, List.mem_cons, List.not_mem_nil, or_false] at hc
    -- in the order of `tokenStarts`; openings, counts and escapes may end in a comment
    rcases hc with rfl | rfl | rfl | rfl | rfl | rfl | rfl | rfl | rfl
    · exact Persists.map_absorbs (fun _ _ => absorbs_readOpening) (fun _ => rfl) h
    · exact hnothing fun _ => rfl
    · exact hnothing fun _ => rfl
    · exact Persists.map (fun _ _ => persists_readClass) (fun _ => rfl) h
    · exact Persists.map (F := countsBehind 0 (some 1)) (fun _ _ => persists_countsBehind)
        (fun _ => rfl) h
    · exact Persists.map (F := countsBehind 0 none) (fun _ _ => persists_countsBehind)
        (fun _ => rfl) h
    · exact Persists.map (F := countsBehind 1 none) (fun _ _ => persists_countsBehind)
        (fun _ => rfl) h
    · exact Persists.map_absorbs (fun _ _ => absorbs_readCounts) (fun _ => rfl) h
    · exact Persists.map_absorbs (F := readEscape verbose) (f := fun p => .item (astOf p))
        (fun _ _ => absorbs_readEscape) (fun _ => rfl) h
  · exact hnothing (readToken_plain hc verbose)

/-- An item that opens no groups. -/
def Flat (a : Ast) : Prop := a.indices = [] ∧ ∀ k, a.shift k = a

theorem flat_astOf (p : Part) : Flat (astOf p) := by
  cases p <;> exact ⟨by simp [astOf, Ast.indices], fun k => by simp [astOf, Ast.shift]⟩

/-- A step reads no item with groups; these are made of several tokens. -/
theorem flat_of_readToken {verbose : Bool} {c : Char} {a : Ast} {s r : List Char}
    (h : readToken verbose c s = .ok (.item a, r)) : Flat a := by
  unfold readToken at h
  split at h
  case h_4 =>
    obtain ⟨⟨a', r'⟩, hclass, heq⟩ := map_eq_ok.1 h
    cases heq
    obtain ⟨⟨f, r₁⟩, -, hclass⟩ := bind_eq_ok.1 hclass
    obtain ⟨⟨negated, set, r₂⟩, -, hclass⟩ := bind_eq_ok.1 hclass
    cases hclass
    exact ⟨by simp [Ast.indices], fun k => by simp [Ast.shift]⟩
  case h_9 =>
    obtain ⟨⟨p, r'⟩, -, heq⟩ := map_eq_ok.1 h
    cases heq
    exact flat_astOf p
  case h_10 =>
    cases h
    exact flat_astOf _
  case h_1 | h_8 =>
    obtain ⟨x, -, heq⟩ := map_eq_ok.1 h
    cases heq
  all_goals cases h

/-! ## Surroundings -/

/-- An open group with `k` groups more in front. -/
def Scope.shift (k : Nat) (f : Scope) : Scope :=
  ⟨f.kind.shift k, f.branches.map (Ast.shift k), f.items.map (Ast.shift k), f.verbose⟩

/-- A state inside the groups `outer`, behind `k` groups that capture. -/
def State.within (st : State) (outer : List Scope) (k : Nat) (names : List String) : State :=
  ⟨st.scopes.map (Scope.shift k) ++ outer, st.branches.map (Ast.shift k),
    st.items.map (Ast.shift k), st.verbose, st.captures + k, names⟩

section

variable {outer : List Scope} {k : Nat} {names : List String}

theorem contents_within (st : State) : (st.within outer k names).contents = st.contents.shift k := by
  rw [State.contents, State.contents, Ast.shift_ofBranches]
  simp [State.within, Ast.shift_ofItems]

/-- A group that captures gets the next number, with a name or without one. -/
theorem begin_capture_eq_ok {st st' : State} {name : Option String}
    (h : st.begin (.capture name) = .ok st') : ∃ names,
      st' = { st.enter (.capture (st.captures + 1)) st.verbose with
        captures := st.captures + 1, names := names } := by
  cases name with
  | none => exact ⟨st.names, (Except.ok.inj h).symm⟩
  | some name =>
    rw [State.begin] at h
    by_cases hname : name ∈ st.names
    · rw [if_pos hname] at h
      exact absurd h (by simp)
    · rw [if_neg hname] at h
      exact ⟨name :: st.names, (Except.ok.inj h).symm⟩

/-- A closing parenthesis leaves the innermost group. -/
theorem leave_eq_ok {st st' : State} (h : st.leave = .ok st') : ∃ scope scopes,
    st.scopes = scope :: scopes ∧
      st' = { st with
        scopes := scopes, branches := scope.branches
        items := .group scope.kind st.contents :: scope.items, verbose := scope.verbose } := by
  unfold State.leave at h
  split at h
  case h_1 => exact absurd h (by simp)
  case h_2 scope scopes hscopes => exact ⟨scope, scopes, hscopes, (Except.ok.inj h).symm⟩

/-- Nothing is open where an expression ends. -/
theorem finish_eq_ok {st : State} {ast : Ast} (h : st.finish = .ok ast) :
    st.scopes = [] ∧ st.contents = ast := by
  unfold State.finish at h
  split at h
  case h_1 hscopes => exact ⟨hscopes, Except.ok.inj h⟩
  case h_2 => exact absurd h (by simp)

/-- What is repeated is the last item. -/
theorem repeat_eq_ok {st st' : State} {c : Counts} (h : st.repeat c = .ok st') :
    ∃ item items, st.items = item :: items ∧
      st' = { st with items := .repetition c.least c.most c.greedy item :: items } := by
  unfold State.repeat at h
  split at h
  case h_4 item items _ _ hitems => exact ⟨item, items, hitems, (Except.ok.inj h).symm⟩
  all_goals exact absurd h (by simp)

/-- A token means the same inside other groups. -/
theorem take_within {st st₁ st' : State} {t : Token} (hflat : ∀ a, t = .item a → Flat a)
    (h : st.take t = .ok st₁) (h' : (st.within outer k names).take t = .ok st') :
    ∃ names', st' = st₁.within outer k names' := by
  cases t with
  | opening o =>
    cases o with
    | capture name =>
      obtain ⟨more, rfl⟩ := begin_capture_eq_ok h
      obtain ⟨names', rfl⟩ := begin_capture_eq_ok h'
      have hcaptures : st.captures + k + 1 = st.captures + 1 + k := by omega
      refine ⟨names', ?_⟩
      simp [State.within, State.enter, Scope.shift, hcaptures]
    | plain flags =>
      cases h
      cases h'
      refine ⟨names, ?_⟩
      simp [State.within, State.enter, Scope.shift]
    | flags flags =>
      cases h
      cases h'
      refine ⟨names, ?_⟩
      simp [State.within, State.push, Ast.shift]
  | closing =>
    obtain ⟨scope, scopes, hscopes, rfl⟩ := leave_eq_ok h
    obtain ⟨scope', scopes', hscopes', rfl⟩ := leave_eq_ok h'
    -- the state has a group of its own to leave, so the surroundings stay open
    have hmap : (st.within outer k names).scopes
        = scope.shift k :: (scopes.map (Scope.shift k) ++ outer) := by
      simp [State.within, hscopes]
    rw [hmap] at hscopes'
    obtain ⟨rfl, rfl⟩ := List.cons.inj hscopes'
    rw [contents_within]
    refine ⟨names, ?_⟩
    simp [State.within, Scope.shift]
  | bar =>
    cases h
    cases h'
    refine ⟨names, ?_⟩
    simp [State.within, State.branch, Ast.shift_ofItems]
  | item a =>
    cases h
    cases h'
    refine ⟨names, ?_⟩
    simp [State.within, State.push, (hflat a rfl).2 k]
  | counts c =>
    obtain ⟨item, items, hitems, rfl⟩ := repeat_eq_ok h
    obtain ⟨item', items', hitems', rfl⟩ := repeat_eq_ok h'
    have hmap : (st.within outer k names).items = item.shift k :: items.map (Ast.shift k) := by
      simp [State.within, hitems]
    rw [hmap] at hitems'
    obtain ⟨rfl, rfl⟩ := List.cons.inj hitems'
    refine ⟨names, ?_⟩
    simp [State.within]

end

/-! ## Levels -/

/-- Whether blanks and comments count in the innermost group and in those around it. -/
def State.levels (st : State) : List Bool := st.verbose :: st.scopes.map (·.verbose)

/-- A token means the same at the inner levels, whatever is around them. -/
theorem levels_take {st st₁ st' st₁' : State} {t : Token} {outer : List Bool}
    (hlevels : st'.levels = st.levels ++ outer) (h : st.take t = .ok st₁)
    (h' : st'.take t = .ok st₁') : st₁'.levels = st₁.levels ++ outer := by
  obtain ⟨hverbose, hscopes⟩ := List.cons.inj hlevels
  cases t with
  | opening o =>
    cases o with
    | capture name =>
      obtain ⟨names, rfl⟩ := begin_capture_eq_ok h
      obtain ⟨names', rfl⟩ := begin_capture_eq_ok h'
      simp [State.levels, State.enter, hverbose, hscopes]
    | plain flags =>
      cases h
      cases h'
      simp [State.levels, State.enter, hverbose, hscopes]
    | flags flags =>
      cases h
      cases h'
      simp [State.levels, State.push, hverbose, hscopes]
  | closing =>
    obtain ⟨scope, scopes, hst, rfl⟩ := leave_eq_ok h
    obtain ⟨scope', scopes', hst', rfl⟩ := leave_eq_ok h'
    -- both leave a group, and what is around them keeps its levels
    rw [hst, hst'] at hscopes
    exact hscopes
  | bar =>
    cases h
    cases h'
    exact hlevels
  | item a =>
    cases h
    cases h'
    exact hlevels
  | counts c =>
    obtain ⟨item, items, -, rfl⟩ := repeat_eq_ok h
    obtain ⟨item', items', -, rfl⟩ := repeat_eq_ok h'
    exact hlevels

/-! ## Numbering -/

/-- The indices of an open group and of what it interrupts. -/
def Scope.indices (f : Scope) : List Nat :=
  f.kind.indices ++ (f.branches ++ f.items).flatMap Ast.indices

/-- The indices of the groups that were opened. -/
def State.indices (st : State) : List Nat :=
  st.scopes.flatMap Scope.indices ++ (st.branches ++ st.items).flatMap Ast.indices

/-- Groups are numbered from one on, without a gap. -/
def State.Numbered (st : State) : Prop := st.indices.Perm (List.range' 1 st.captures)

theorem indices_contents (st : State) :
    st.contents.indices.Perm ((st.branches ++ st.items).flatMap Ast.indices) := by
  rw [State.contents, Ast.indices_ofBranches]
  refine (List.Perm.flatMap_right _ (List.reverse_perm _)).trans ?_
  rw [List.flatMap_cons, Ast.indices_ofItems, List.flatMap_append]
  refine (List.Perm.append_right _ (List.Perm.flatMap_right _ (List.reverse_perm _))).trans ?_
  exact List.perm_append_comm

/-- A group more gets the next number. -/
theorem numbered_of_perm_cons {st st₁ : State} (h : st.Numbered)
    (hcaptures : st₁.captures = st.captures + 1)
    (hindices : st₁.indices.Perm ((st.captures + 1) :: st.indices)) : st₁.Numbered := by
  rw [State.Numbered, hcaptures, List.range'_1_concat, Nat.add_comm 1]
  exact (hindices.trans (h.cons _)).trans (List.perm_append_singleton _ _).symm

theorem numbered_of_perm {st st₁ : State} (h : st.Numbered) (hcaptures : st₁.captures = st.captures)
    (hindices : st₁.indices.Perm st.indices) : st₁.Numbered := by
  rw [State.Numbered, hcaptures]
  exact hindices.trans h

theorem indices_enter (st : State) (kind : GroupKind) (verbose : Bool) :
    (st.enter kind verbose).indices.Perm (kind.indices ++ st.indices) := by
  simp only [State.indices, State.enter, Scope.indices, List.flatMap_cons, List.flatMap_nil,
    List.append_nil, List.append_assoc]
  exact List.Perm.append_left _ List.perm_append_comm

theorem numbered_take {st st₁ : State} {t : Token} (hflat : ∀ a, t = .item a → Flat a)
    (h : st.take t = .ok st₁) (hst : st.Numbered) : st₁.Numbered := by
  cases t with
  | opening o =>
    cases o with
    | capture name =>
      obtain ⟨names, rfl⟩ := begin_capture_eq_ok h
      exact numbered_of_perm_cons hst rfl (indices_enter st (.capture _) st.verbose)
    | plain flags =>
      cases h
      exact numbered_of_perm hst rfl (indices_enter st _ _)
    | flags flags =>
      cases h
      refine numbered_of_perm hst rfl (List.Perm.of_eq ?_)
      simp [State.indices, State.push, Ast.indices]
  | closing =>
    obtain ⟨scope, scopes, hscopes, rfl⟩ := leave_eq_ok h
    -- what the group interrupted comes back, and its contents become one item
    refine numbered_of_perm hst rfl (List.perm_iff_count.2 fun i => ?_)
    have hcontents := (indices_contents st).count_eq i
    simp only [State.indices, Scope.indices, hscopes, Ast.indices_group, List.flatMap_cons,
      List.flatMap_append, List.count_append] at hcontents ⊢
    omega
  | bar =>
    cases h
    refine numbered_of_perm hst rfl (List.perm_iff_count.2 fun i => ?_)
    -- the items become one branch, and the order of indices does not matter
    have hitems := (List.Perm.flatMap_right Ast.indices (List.reverse_perm st.items)).count_eq i
    simp only [State.indices, State.branch, Ast.indices_ofItems, List.flatMap_cons,
      List.flatMap_append, List.count_append, List.append_nil, hitems]
    omega
  | item a =>
    cases h
    refine numbered_of_perm hst rfl (List.Perm.of_eq ?_)
    simp [State.indices, State.push, (hflat a rfl).1]
  | counts c =>
    obtain ⟨item, items, hitems, rfl⟩ := repeat_eq_ok h
    refine numbered_of_perm hst rfl (List.Perm.of_eq ?_)
    simp [State.indices, hitems]

/-! ## Whole expressions -/

/-- The text `s` is read in the surroundings of `st` up to a closing parenthesis, where the state
    has become `st₁`. -/
def ReadsTo (st : State) (s : List Char) (st₁ : State) : Prop :=
  ∀ (outer : List Scope) (k : Nat) (names : List String) (t : List Char) (fuel : Nat) (ast : Ast),
    (s ++ ')' :: t).length < fuel →
    readFrom fuel (st.within outer k names) (s ++ ')' :: t) = .ok ast →
    ∃ fuel' names', (')' :: t).length < fuel' ∧
      readFrom fuel' (st₁.within outer k names') (')' :: t) = .ok ast

/-- A comment at the end of the text `s` takes in a closing parenthesis. -/
def Overruns (st : State) (s : List Char) : Prop :=
  ∀ (outer : List Scope) (k : Nat) (names : List String) (fuel : Nat) (ast : Ast),
    outer ≠ [] → (s ++ [')']).length < fuel →
    readFrom fuel (st.within outer k names) (s ++ [')']) ≠ .ok ast

/-- A comment at the end of the text `s` takes in any closing parentheses, so that the text behind
    cannot close both one group and two. -/
def Swallows (st : State) (s : List Char) : Prop :=
  ∀ (st₁ st₂ : State) (outer : List Bool) (level : Bool) (t : List Char) (fuel fuel' : Nat)
    (ast ast' : Ast), st₁.levels = st.levels ++ outer → st₂.levels = st₁.levels ++ [level] →
    (s ++ ')' :: t).length < fuel → (s ++ ')' :: ')' :: t).length < fuel' →
    readFrom fuel st₁ (s ++ ')' :: t) = .ok ast →
    readFrom fuel' st₂ (s ++ ')' :: ')' :: t) ≠ .ok ast'

theorem finish_within {st : State} {outer : List Scope} {k : Nat} {names : List String} {ast : Ast}
    (houter : outer ≠ []) : (st.within outer k names).finish ≠ .ok ast := by
  intro h
  exact houter (List.append_eq_nil_iff.1 (finish_eq_ok h).1).2

theorem readFrom_congr {st : State} {s s' : List Char} (fuel : Nat)
    (h : skip st.verbose s = skip st.verbose s') :
    readFrom (fuel + 1) st s = readFrom (fuel + 1) st s' := by
  rw [readFrom, readFrom, h]

/-- Reads on behind a token. -/
theorem readFrom_token {fuel : Nat} {st : State} {c : Char} {s s₁ : List Char} {ast : Ast}
    (hskip : skip st.verbose s = c :: s₁) (h : readFrom (fuel + 1) st s = .ok ast) :
    ∃ t st₁ r, readToken st.verbose c s₁ = .ok (t, r) ∧ st.take t = .ok st₁ ∧
      readFrom fuel st₁ r = .ok ast := by
  rw [readFrom, hskip] at h
  dsimp only at h
  rw [step_eq] at h
  cases ht : readToken st.verbose c s₁ with
  | error e =>
    rw [ht] at h
    exact absurd h (by simp [bind, Except.bind])
  | ok x =>
    obtain ⟨t, r⟩ := x
    cases hst : st.take t with
    | error e =>
      simp only [ht, hst, bind, Except.bind] at h
      exact absurd h (by simp)
    | ok st₁ =>
      simp only [ht, hst, bind, Except.bind, pure, Except.pure] at h
      exact ⟨t, st₁, r, rfl, hst, h⟩

/-- Reads on behind a token inside other groups. -/
theorem readFrom_within {fuel : Nat} {st st₁ : State} {outer : List Scope} {k : Nat}
    {names : List String} {c : Char} {t : Token} {s s₁ r : List Char} {ast : Ast}
    (hskip : skip st.verbose s = c :: s₁) (ht : readToken st.verbose c s₁ = .ok (t, r))
    (hst : st.take t = .ok st₁) (h : readFrom (fuel + 1) (st.within outer k names) s = .ok ast) :
    ∃ names', readFrom fuel (st₁.within outer k names') r = .ok ast := by
  have hskip' : skip (st.within outer k names).verbose s = c :: s₁ := hskip
  obtain ⟨t', st', r', ht', hst', h⟩ := readFrom_token hskip' h
  obtain ⟨rfl, rfl⟩ := Prod.mk.inj (Except.ok.inj (ht.symm.trans ht'))
  have hflat : ∀ a, t = .item a → Flat a := by
    rintro a rfl
    exact flat_of_readToken ht
  obtain ⟨names', rfl⟩ := take_within hflat hst hst'
  exact ⟨names', h⟩

/-- Blanks at the end are skipped in front of the closing parenthesis too. -/
theorem readsTo_of_skip {st : State} {s : List Char}
    (h : ∀ u, Closes u → skip st.verbose (s ++ u) = u) : ReadsTo st s st := by
  intro outer k names t fuel ast hfuel hread
  rw [List.length_append] at hfuel
  obtain ⟨fuel, rfl⟩ := Nat.exists_eq_add_one_of_ne_zero (by omega : fuel ≠ 0)
  refine ⟨fuel + 1, names, by omega, ?_⟩
  rw [← hread]
  refine readFrom_congr fuel ?_
  exact (skip_close _ t).trans (h (')' :: t) (closes_cons t)).symm

/-- A comment behind the last token runs over the closing parenthesis. -/
theorem overruns_of_skip {st : State} {s : List Char} (h : skip st.verbose (s ++ [')']) = []) :
    Overruns st s := by
  intro outer k names fuel ast houter hfuel hread
  obtain ⟨fuel, rfl⟩ := Nat.exists_eq_add_one_of_ne_zero (by omega : fuel ≠ 0)
  have hskip : skip (st.within outer k names).verbose (s ++ [')']) = [] := h
  rw [readFrom, hskip] at hread
  exact finish_within houter hread

/-- A comment inside the last token runs over the closing parenthesis. -/
theorem overruns_of_token {st st₁ : State} {c : Char} {t : Token} {s s₁ : List Char}
    (hskip : skip st.verbose s = c :: s₁)
    (ht : readToken st.verbose c (s₁ ++ [')']) = .ok (t, [])) (htake : st.take t = .ok st₁) :
    Overruns st s := by
  intro outer k names fuel ast houter hfuel hread
  obtain ⟨fuel, rfl⟩ := Nat.exists_eq_add_one_of_ne_zero (by omega : fuel ≠ 0)
  obtain ⟨names', hread'⟩ := readFrom_within (skip_append_of_cons hskip (closes_cons [])) ht htake
    hread
  rw [readFrom_nil] at hread'
  exact finish_within houter hread'

/-- The same text does not end both the groups of a state and those of a deeper one. -/
theorem not_both_read {fuel fuel' : Nat} {st₁ st₂ : State} {level : Bool} {s : List Char}
    {ast ast' : Ast} (hdeeper : st₂.levels = st₁.levels ++ [level]) (hfuel : s.length < fuel)
    (hfuel' : s.length < fuel') (h : readFrom fuel st₁ s = .ok ast) :
    readFrom fuel' st₂ s ≠ .ok ast' := by
  -- On the tokens, which are the same and keep the one level more.
  intro h'
  induction fuel generalizing fuel' st₁ st₂ s with
  | zero => exact absurd hfuel (Nat.not_lt_zero _)
  | succ fuel ih =>
    obtain ⟨fuel', rfl⟩ := Nat.exists_eq_add_one_of_ne_zero (by omega : fuel' ≠ 0)
    have hverbose : st₂.verbose = st₁.verbose := (List.cons.inj hdeeper).1
    cases hs : skip st₁.verbose s with
    | nil =>
      rw [readFrom, hs] at h
      rw [readFrom, hverbose, hs] at h'
      have hlen := congrArg List.length hdeeper
      simp [State.levels, (finish_eq_ok h).1, (finish_eq_ok h').1] at hlen
    | cons c s₁ =>
      obtain ⟨t, st₁', r, ht, htake, hrest⟩ := readFrom_token hs h
      obtain ⟨t', st₂', r', ht', htake', hrest'⟩ := readFrom_token (hverbose ▸ hs) h'
      rw [hverbose, ht] at ht'
      obtain ⟨rfl, rfl⟩ := Prod.mk.inj (Except.ok.inj ht')
      have hlen : r.length < s.length :=
        Nat.lt_of_le_of_lt (absorbs_readToken ht).length_le (length_lt_of_skip hs)
      exact ih (levels_take hdeeper htake htake') (by omega) (by omega) hrest hrest'

/-- A comment behind the last token. -/
theorem swallows_of_skip {st : State} {s : List Char} (h : Absorbs (skip st.verbose) s) :
    Swallows st s := by
  intro st₁ st₂ outer level t fuel fuel' ast ast' hst₁ hst₂ hfuel hfuel' hread hread'
  obtain ⟨fuel', rfl⟩ := Nat.exists_eq_add_one_of_ne_zero (by omega : fuel' ≠ 0)
  have hverbose : st₂.verbose = st.verbose :=
    (List.cons.inj hst₂).1.trans (List.cons.inj hst₁).1
  -- behind the blanks both texts are the same, but one has to close a group more
  have hskip : skip st₂.verbose (s ++ ')' :: ')' :: t) = skip st₂.verbose (s ++ ')' :: t) :=
    hverbose ▸ h t
  rw [readFrom_congr fuel' hskip] at hread'
  rw [List.length_append, List.length_cons, List.length_cons] at hfuel'
  refine not_both_read hst₂ hfuel ?_ hread hread'
  rw [List.length_append, List.length_cons]
  omega

/-- A comment inside the last token. -/
theorem swallows_of_token {st : State} {c : Char} {s s₁ : List Char}
    (hskip : skip st.verbose s = c :: s₁) (h : Absorbs (readToken st.verbose c) s₁) :
    Swallows st s := by
  intro st₁ st₂ outer level t fuel fuel' ast ast' hst₁ hst₂ hfuel hfuel' hread hread'
  obtain ⟨fuel, rfl⟩ := Nat.exists_eq_add_one_of_ne_zero (by omega : fuel ≠ 0)
  obtain ⟨fuel', rfl⟩ := Nat.exists_eq_add_one_of_ne_zero (by omega : fuel' ≠ 0)
  have hverbose₁ : st₁.verbose = st.verbose := (List.cons.inj hst₁).1
  have hverbose₂ : st₂.verbose = st.verbose := (List.cons.inj hst₂).1.trans hverbose₁
  have hskip₁ := skip_append_of_cons hskip (closes_cons t)
  have hskip₂ := skip_append_of_cons hskip (closes_cons (')' :: t))
  obtain ⟨k, st₁', r, ht, htake, hrest⟩ := readFrom_token (hverbose₁ ▸ hskip₁) hread
  obtain ⟨k', st₂', r', ht', htake', hrest'⟩ := readFrom_token (hverbose₂ ▸ hskip₂) hread'
  rw [hverbose₁] at ht
  -- the same token is read in both, and the same text is left behind it
  rw [hverbose₂, h t, ht] at ht'
  obtain ⟨rfl, rfl⟩ := Prod.mk.inj (Except.ok.inj ht')
  have hlen := (absorbs_readToken ht).length_le
  have hlen' := length_lt_of_skip hskip
  simp only [List.length_append, List.length_cons] at hfuel hfuel' hlen
  exact not_both_read (levels_take hst₂ htake htake') (by omega) (by omega) hrest hrest'

section

variable {st st₁ st₂ : State} {c : Char} {t : Token} {s s₁ r : List Char}

/-- What is read to its end behind a token is read to its end with the token. -/
theorem ReadsTo.behind (hskip : skip st.verbose s = c :: s₁)
    (ht : ∀ u, Closes u → readToken st.verbose c (s₁ ++ u) = .ok (t, r ++ u))
    (htake : st.take t = .ok st₁) (hlen : r.length < s.length) (h : ReadsTo st₁ r st₂) :
    ReadsTo st s st₂ := by
  intro outer k names u fuel ast hfuel hread
  rw [List.length_append] at hfuel
  obtain ⟨fuel, rfl⟩ := Nat.exists_eq_add_one_of_ne_zero (by omega : fuel ≠ 0)
  obtain ⟨names', hread'⟩ := readFrom_within (skip_append_of_cons hskip (closes_cons u))
    (ht _ (closes_cons u)) htake hread
  refine h outer k names' u fuel ast ?_ hread'
  rw [List.length_append]
  omega

/-- What runs over its end behind a token does so with the token. -/
theorem Overruns.behind (hskip : skip st.verbose s = c :: s₁)
    (ht : ∀ u, Closes u → readToken st.verbose c (s₁ ++ u) = .ok (t, r ++ u))
    (htake : st.take t = .ok st₁) (hlen : r.length < s.length) (h : Overruns st₁ r) :
    Overruns st s := by
  intro outer k names fuel ast houter hfuel hread
  rw [List.length_append] at hfuel
  obtain ⟨fuel, rfl⟩ := Nat.exists_eq_add_one_of_ne_zero (by omega : fuel ≠ 0)
  obtain ⟨names', hread'⟩ := readFrom_within (skip_append_of_cons hskip (closes_cons []))
    (ht _ (closes_cons [])) htake hread
  refine h outer k names' fuel ast houter ?_ hread'
  rw [List.length_append]
  omega

/-- What takes in closing parentheses behind a token does so with the token. -/
theorem Swallows.behind (hskip : skip st.verbose s = c :: s₁)
    (ht : ∀ u, Closes u → readToken st.verbose c (s₁ ++ u) = .ok (t, r ++ u))
    (htake : st.take t = .ok st₁) (hlen : r.length < s.length) (h : Swallows st₁ r) :
    Swallows st s := by
  intro st' st'' outer level u fuel fuel' ast ast' hst' hst'' hfuel hfuel' hread hread'
  obtain ⟨fuel, rfl⟩ := Nat.exists_eq_add_one_of_ne_zero (by omega : fuel ≠ 0)
  obtain ⟨fuel', rfl⟩ := Nat.exists_eq_add_one_of_ne_zero (by omega : fuel' ≠ 0)
  have hverbose' : st'.verbose = st.verbose := (List.cons.inj hst').1
  have hverbose'' : st''.verbose = st.verbose := (List.cons.inj hst'').1.trans hverbose'
  have hskip₁ := skip_append_of_cons hskip (closes_cons u)
  have hskip₂ := skip_append_of_cons hskip (closes_cons (')' :: u))
  obtain ⟨k, st₁', r', hk, htake', hrest⟩ := readFrom_token (hverbose' ▸ hskip₁) hread
  obtain ⟨k', st₁'', r'', hk', htake'', hrest'⟩ := readFrom_token (hverbose'' ▸ hskip₂) hread'
  rw [hverbose', ht _ (closes_cons u)] at hk
  rw [hverbose'', ht _ (closes_cons (')' :: u))] at hk'
  -- both read the token that is read from the text alone
  cases hk
  cases hk'
  simp only [List.length_append, List.length_cons] at hfuel hfuel'
  refine h st₁' st₁'' outer level u fuel fuel' ast ast' (levels_take hst' htake htake')
    (levels_take hst'' htake' htake'') ?_ ?_ hrest hrest'
  · rw [List.length_append, List.length_cons]
    omega
  · rw [List.length_append, List.length_cons, List.length_cons]
    omega

end

/-- What can be read on its own is read to its end inside a group, or runs over its end. -/
theorem readsTo_or_overruns {fuel : Nat} {st : State} {s : List Char} {ast : Ast}
    (hfuel : s.length < fuel) (h : readFrom fuel st s = .ok ast) (hst : st.Numbered) :
    ∃ st₁, st₁.scopes = [] ∧ st₁.contents = ast ∧ st₁.Numbered ∧
      (ReadsTo st s st₁ ∨ Overruns st s ∧ Swallows st s) := by
  -- On the tokens.  Each of them persists; where one does not, nothing stands behind it.
  induction fuel generalizing st s with
  | zero => exact absurd hfuel (Nat.not_lt_zero _)
  | succ fuel ih =>
    have hblanks := absorbs_skip st.verbose s
    cases hs : skip st.verbose s with
    | nil =>
      rw [readFrom, hs] at h
      rw [hs] at hblanks
      obtain ⟨hscopes, hcontents⟩ := finish_eq_ok h
      refine ⟨st, hscopes, hcontents, hst, ?_⟩
      rcases hblanks.2 with hall | ⟨habsorbs, -, -, hclose⟩
      · exact Or.inl (readsTo_of_skip hall)
      · exact Or.inr ⟨overruns_of_skip hclose, swallows_of_skip habsorbs⟩
    | cons c s₁ =>
      obtain ⟨t, st₁, r, ht, htake, hrest⟩ := readFrom_token hs h
      have hnum : st₁.Numbered := by
        refine numbered_take ?_ htake hst
        rintro a rfl
        exact flat_of_readToken ht
      have htoken := absorbs_readToken ht
      have hlen : r.length < s.length := Nat.lt_of_le_of_lt htoken.length_le (length_lt_of_skip hs)
      obtain ⟨st₂, hscopes, hcontents, hnum₂, hbehind⟩ := ih (by omega) hrest hnum
      refine ⟨st₂, hscopes, hcontents, hnum₂, ?_⟩
      rcases htoken.2 with hall | ⟨habsorbs, -, -, hclose⟩
      · rcases hbehind with hreads | ⟨hover, hswallows⟩
        · exact Or.inl (hreads.behind hs hall htake hlen)
        · exact Or.inr ⟨hover.behind hs hall htake hlen, hswallows.behind hs hall htake hlen⟩
      · exact Or.inr ⟨overruns_of_token hs hclose htake, swallows_of_token hs habsorbs⟩

/-- An expression can be read inside a group. -/
def Closed (s : List Char) : Prop := ∃ ast, read ('(' :: (s ++ [')'])) = .ok ast

theorem numbered_initial : State.initial.Numbered := List.Perm.refl []

theorem noQuestion_of_read {fuel : Nat} {s : List Char} {ast : Ast}
    (h : readFrom (fuel + 1) .initial s = .ok ast) : NoQuestion s := by
  intro hs
  obtain ⟨s₁, rfl⟩ := List.head?_eq_some_iff.1 hs
  obtain ⟨t, st₁, r, ht, htake, -⟩ := readFrom_token (skip_false _) h
  cases ht
  exact absurd htake (by simp [State.take, State.repeat, State.initial])

/-- What runs over its end cannot be read inside a group. -/
theorem not_overruns_of_closed {s : List Char} (hs : NoQuestion s) (h : Closed s) :
    ¬ Overruns .initial s := by
  intro hover
  obtain ⟨ast, h⟩ := h
  obtain ⟨ast', hread, -⟩ := bind_eq_ok.1 h
  obtain ⟨t, st₁, r, ht, htake, hrest⟩ := readFrom_token (skip_false _) hread
  have hopening : readOpening false (s ++ [')']) = .ok (.capture none, s ++ [')']) :=
    readOpening_of_noQuestion rfl (hs.append (noQuestion_cons (by decide) []))
  have htoken : readToken false '(' (s ++ [')'])
      = .ok (.opening (.capture none), s ++ [')']) := by
    show (readOpening false (s ++ [')'])).map _ = _
    rw [hopening]
    rfl
  obtain ⟨rfl, rfl⟩ := Prod.mk.inj (Except.ok.inj (htoken.symm.trans ht))
  cases htake
  -- the text is read inside the group that the parenthesis opens
  exact hover [⟨.capture 1, [], [], false⟩] 1 [] _ ast' (List.cons_ne_nil _ _)
    (Nat.lt_succ_self _) hrest

/-- Where an expression ends when it is read on its own, and what it does inside a group. -/
theorem exists_end_of_read {s : List Char} {ast : Ast} (h : read s = .ok ast) :
    ∃ st₁, st₁.scopes = [] ∧ st₁.contents = ast ∧ st₁.captures = ast.indices.length ∧
      ast.indices.Perm (List.range' 1 ast.indices.length) ∧
      (ReadsTo .initial s st₁ ∨ Overruns .initial s ∧ Swallows .initial s) := by
  obtain ⟨ast', hread, hdepth⟩ := bind_eq_ok.1 h
  obtain ⟨-, rfl⟩ := guard_eq_ok hdepth
  obtain ⟨st₁, hscopes, rfl, hnum, hbehind⟩ :=
    readsTo_or_overruns (Nat.lt_succ_self _) hread numbered_initial
  have hindices : st₁.indices = (st₁.branches ++ st₁.items).flatMap Ast.indices := by
    rw [State.indices, hscopes, List.flatMap_nil, List.nil_append]
  -- nothing is open at the end, so all groups are in the contents
  have hperm : st₁.contents.indices.Perm (List.range' 1 st₁.captures) :=
    (indices_contents st₁).trans (hindices ▸ hnum)
  have hcaptures : st₁.contents.indices.length = st₁.captures := by
    rw [hperm.length_eq, List.length_range']
  refine ⟨st₁, hscopes, rfl, hcaptures.symm, ?_, hbehind⟩
  rw [hcaptures]
  exact hperm

/-- The groups of an expression are numbered from one on. -/
theorem mem_indices_of_read {s : List Char} {ast : Ast} (h : read s = .ok ast) {i : Nat}
    (hi : i ∈ ast.indices) : 1 ≤ i ∧ i ≤ ast.indices.length := by
  obtain ⟨st₁, -, -, -, hperm, -⟩ := exists_end_of_read h
  have hmem := List.mem_range'_1.1 (hperm.mem_iff.1 hi)
  omega

/-- An expression that can be read on its own fills any group, its own groups numbered on, unless a
    comment at its end takes in the closing parenthesis. -/
theorem fills_or_overruns {s : List Char} {ast : Ast} (h : read s = .ok ast) :
    Fills s (fun k => ast.shift k) ast.indices.length ∨
      Overruns .initial s ∧ Swallows .initial s := by
  obtain ⟨ast', hread, -⟩ := bind_eq_ok.1 h
  obtain ⟨st₁, hscopes, rfl, hcaptures, -, hbehind⟩ := exists_end_of_read h
  refine hbehind.imp_left fun hreads => ⟨noQuestion_of_read hread, ?_⟩
  intro fuel st t ast hv hbranches hitems hfuel hctx
  -- the state behind the opening parenthesis is the initial one in its surroundings
  have hst : State.within .initial st.scopes st.captures st.names = st := by
    cases st
    subst hv hbranches hitems
    simp [State.within, State.initial]
  rw [← hst] at hctx
  obtain ⟨fuel', names', hfuel', hend⟩ := hreads _ _ _ t fuel ast hfuel hctx
  refine ⟨fuel', st₁.within st.scopes st.captures names', hfuel', ?_, ?_, ?_, hend⟩
  · simp [State.within, hscopes]
  · rw [← hcaptures, Nat.add_comm]
    rfl
  · exact contents_within st₁

/-- An expression that can be read on its own and inside a group fills any group. -/
theorem fills_of_read {s : List Char} {ast : Ast} (h : read s = .ok ast) (hclosed : Closed s) :
    Fills s (fun k => ast.shift k) ast.indices.length := by
  obtain ⟨ast', hread, -⟩ := bind_eq_ok.1 h
  refine (fills_or_overruns h).resolve_right ?_
  rintro ⟨hover, -⟩
  exact not_overruns_of_closed (noQuestion_of_read hread) hclosed hover

end Waymark.Regex.Parse
