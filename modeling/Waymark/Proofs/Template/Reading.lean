/-
  Waymark.Proofs.Template.Reading

  Reading a path by the tree of its template, without an expression.  A reader lists the ways to
  take a value off the front of a text; `readings` lists the ways to take a template off it.  Both
  put the preferred way first: the longest run of a parameter without a condition, the values of a
  condition in their order, a group rather than its absence.  `directCaptures?` answers with the
  first way that takes the whole path.
-/

import Waymark.Condition
import Waymark.Dict
import Waymark.Template.Node

namespace Waymark.Template

/-! ## Values -/

/-- How a value is taken off the front of a text: every value with the text behind it, the
    preferred one first. -/
abbrev Reader := List Char → List (List Char × List Char)

/-- The characters of a value without a condition: `A-Z a-z 0-9 _ . ~ -`. -/
def isWordChar (c : Char) : Bool :=
  c.isUpper || c.isLower || c.isDigit || c == '_' || c == '.' || c == '~' || c == '-'

/-- Runs of characters of a kind, the empty one included, the longest first. -/
def readRun (p : Char → Bool) : Reader
  | [] => [([], [])]
  | c :: s => (if p c then (readRun p s).map fun w => (c :: w.1, w.2) else []) ++ [([], c :: s)]

/-- Non-empty runs of the characters of values, the longest first. -/
def readWord : Reader
  | [] => []
  | c :: s => if isWordChar c then (readRun isWordChar s).map fun w => (c :: w.1, w.2) else []

/-- The values of a list that the text begins with, in the order of the list. -/
def readListed (values : List String) : Reader := fun s =>
  values.filterMap fun v =>
    if v.toList.isPrefixOf s then some (v.toList, s.drop v.toList.length) else none

/-- The reader of a condition.  A value whose condition is an expression is not read directly. -/
def readerOf : Option Condition → Reader
  | none => readWord
  | some (.oneOf values) => readListed values
  | some (.expression _) => fun _ => []

/-! ## Templates -/

/-- What the parameters of a template took, in the order of the template. -/
abbrev Captured := List (String × List Char)

mutual

/-- The ways to take a node off the front of a text. -/
def Node.readings (R : String → Reader) : Node → List Char → List (Captured × List Char)
  | .literal text, s =>
    if text.toList.isPrefixOf s then [([], s.drop text.toList.length)] else []
  | .param name, s => (R name s).map fun w => ([(name, w.1)], w.2)
  | .group children, s => Node.readingsAll R children s ++ [([], s)]

/-- The ways to take nodes off the front of a text, one behind another. -/
def Node.readingsAll (R : String → Reader) : List Node → List Char → List (Captured × List Char)
  | [], s => [([], s)]
  | n :: ns, s => (n.readings R s).flatMap fun w =>
      (Node.readingsAll R ns w.2).map fun x => (w.1 ++ x.1, x.2)

end

section

variable (R : String → Reader) (s : List Char)

@[simp] theorem Node.readings_literal (text : String) :
    (Node.literal text).readings R s =
      if text.toList.isPrefixOf s then [([], s.drop text.toList.length)] else [] := rfl

@[simp] theorem Node.readings_param (name : String) :
    (Node.param name).readings R s = (R name s).map fun w => ([(name, w.1)], w.2) := rfl

@[simp] theorem Node.readings_group (children : List Node) :
    (Node.group children).readings R s = Node.readingsAll R children s ++ [([], s)] := rfl

@[simp] theorem Node.readingsAll_nil : Node.readingsAll R [] s = [([], s)] := rfl

@[simp] theorem Node.readingsAll_cons (n : Node) (ns : List Node) :
    Node.readingsAll R (n :: ns) s =
      (n.readings R s).flatMap fun w =>
        (Node.readingsAll R ns w.2).map fun x => (w.1 ++ x.1, x.2) := rfl

end

/-- The first way that takes all of a text. -/
def firstReading? (R : String → Reader) (tree : List Node) (s : List Char) : Option Captured :=
  ((Node.readingsAll R tree s).find? fun w => w.2.isEmpty).map Prod.fst

/-- The parameters that took some text. -/
def Captured.filled (t : Captured) : List (String × String) :=
  (t.filter fun e => !e.2.isEmpty).map fun e => (e.1, String.ofList e.2)

/-- The parameters that take a value from a path, in the order of the template; `none` if no way
    takes the whole path. -/
def directCaptures? (R : String → Reader) (tree : List Node) (path : String) :
    Option (List (String × String)) :=
  (firstReading? R tree path.toList).map Captured.filled

/-! ## What readers take -/

/-- A run takes the first character and goes on, or it is empty. -/
theorem mem_readRun_cons {p : Char → Bool} {c : Char} {s : List Char}
    {w : List Char × List Char} (h : w ∈ readRun p (c :: s)) :
    (p c = true ∧ ∃ x ∈ readRun p s, w = (c :: x.1, x.2)) ∨ w = ([], c :: s) := by
  rw [readRun, List.mem_append, List.mem_singleton] at h
  rcases h with h | h
  · by_cases hc : p c = true
    · rw [if_pos hc, List.mem_map] at h
      obtain ⟨x, hx, rfl⟩ := h
      exact Or.inl ⟨hc, x, hx, rfl⟩
    · rw [if_neg hc] at h
      exact absurd h List.not_mem_nil
  · exact Or.inr h

theorem append_of_mem_readRun {p : Char → Bool} {s : List Char} {w : List Char × List Char}
    (h : w ∈ readRun p s) : w.1 ++ w.2 = s := by
  induction s generalizing w with
  | nil =>
    rw [readRun, List.mem_singleton] at h
    rw [h]
    rfl
  | cons c s ih =>
    rcases mem_readRun_cons h with ⟨-, x, hx, rfl⟩ | rfl
    · rw [List.cons_append, ih hx]
    · rfl

theorem all_of_mem_readRun {p : Char → Bool} {s : List Char} {w : List Char × List Char}
    (h : w ∈ readRun p s) : w.1.all p = true := by
  induction s generalizing w with
  | nil =>
    rw [readRun, List.mem_singleton] at h
    rw [h]
    rfl
  | cons c s ih =>
    rcases mem_readRun_cons h with ⟨hc, x, hx, rfl⟩ | rfl
    · rw [List.all_cons, hc, ih hx]
      rfl
    · rfl

/-- A word is a character and a run behind it. -/
theorem mem_readWord {s : List Char} {w : List Char × List Char} (h : w ∈ readWord s) :
    ∃ c t, s = c :: t ∧ isWordChar c = true ∧ ∃ x ∈ readRun isWordChar t, w = (c :: x.1, x.2) := by
  cases s with
  | nil => exact absurd h List.not_mem_nil
  | cons c t =>
    rw [readWord] at h
    by_cases hc : isWordChar c = true
    · rw [if_pos hc, List.mem_map] at h
      obtain ⟨x, hx, rfl⟩ := h
      exact ⟨c, t, rfl, hc, x, hx, rfl⟩
    · rw [if_neg hc] at h
      exact absurd h List.not_mem_nil

theorem append_of_mem_readWord {s : List Char} {w : List Char × List Char}
    (h : w ∈ readWord s) : w.1 ++ w.2 = s := by
  obtain ⟨c, t, rfl, -, x, hx, rfl⟩ := mem_readWord h
  rw [List.cons_append, append_of_mem_readRun hx]

/-- A listed value is one that the text begins with. -/
theorem mem_readListed {values : List String} {s : List Char} {w : List Char × List Char} :
    w ∈ readListed values s ↔ ∃ v ∈ values, w.1 = v.toList ∧ s = v.toList ++ w.2 := by
  rw [readListed, List.mem_filterMap]
  refine exists_congr fun v => and_congr_right fun _ => ?_
  by_cases hp : v.toList.isPrefixOf s = true
  · obtain ⟨t, rfl⟩ := List.isPrefixOf_iff_prefix.1 hp
    rw [if_pos hp, List.drop_left, Option.some.injEq, Prod.ext_iff, List.append_cancel_left_eq]
    exact and_congr_left' eq_comm
  · rw [if_neg hp]
    constructor
    · intro h
      exact absurd h (by simp)
    · rintro ⟨-, rfl⟩
      exact absurd (by simp) hp

theorem append_of_mem_readListed {values : List String} {s : List Char}
    {w : List Char × List Char} (h : w ∈ readListed values s) : w.1 ++ w.2 = s := by
  obtain ⟨v, -, hv, hs⟩ := mem_readListed.1 h
  rw [hv, hs]

/-- Literal text is read where it stands. -/
theorem Node.mem_readings_literal {R : String → Reader} {text : String} {s : List Char}
    {w : Captured × List Char} :
    w ∈ (Node.literal text).readings R s ↔ w.1 = [] ∧ s = text.toList ++ w.2 := by
  rw [Node.readings_literal]
  by_cases hp : text.toList.isPrefixOf s = true
  · obtain ⟨t, rfl⟩ := List.isPrefixOf_iff_prefix.1 hp
    rw [if_pos hp, List.drop_left, List.mem_singleton, Prod.ext_iff, List.append_cancel_left_eq]
    exact and_congr_right' eq_comm
  · rw [if_neg hp]
    constructor
    · intro h
      exact absurd h List.not_mem_nil
    · rintro ⟨-, rfl⟩
      exact absurd (by simp) hp

theorem Captured.mem_filled {c : Captured} {e : String × String} :
    e ∈ c.filled ↔ ∃ t, (e.1, t) ∈ c ∧ t ≠ [] ∧ e.2 = String.ofList t := by
  rw [Captured.filled, List.mem_map]
  constructor
  · rintro ⟨x, hx, rfl⟩
    rw [List.mem_filter] at hx
    exact ⟨x.2, hx.1, by simpa using hx.2, rfl⟩
  · rintro ⟨t, ht, hne, he⟩
    refine ⟨(e.1, t), List.mem_filter.2 ⟨ht, by simpa using hne⟩, ?_⟩
    rw [← he]

/-! ## What readers prefer -/

/-- Whether a text ends a run of characters of a kind. -/
def Stops (p : Char → Bool) (f : List Char) : Prop := ∀ c, f.head? = some c → p c = false

theorem head?_readRun {p : Char → Bool} {w f : List Char} (hw : w.all p = true)
    (hf : Stops p f) : (readRun p (w ++ f)).head? = some (w, f) := by
  induction w with
  | nil =>
    -- where the run ends, nothing more can be taken
    rw [List.nil_append]
    cases f with
    | nil => rfl
    | cons c f =>
      have hc : p c = false := hf c rfl
      rw [readRun, hc]
      rfl
  | cons c w ih =>
    rw [List.all_cons, Bool.and_eq_true] at hw
    rw [List.cons_append, readRun, if_pos hw.1, List.head?_append, List.head?_map, ih hw.2]
    rfl

/-- A word is read up to its end first. -/
theorem head?_readWord {w f : List Char} (hne : w ≠ []) (hw : w.all isWordChar = true)
    (hf : Stops isWordChar f) : (readWord (w ++ f)).head? = some (w, f) := by
  cases w with
  | nil => exact absurd rfl hne
  | cons c w =>
    rw [List.all_cons, Bool.and_eq_true] at hw
    rw [List.cons_append, readWord, if_pos hw.1, List.head?_map, head?_readRun hw.2 hf]
    rfl

theorem word_of_mem_readWord {s : List Char} {w : List Char × List Char} (h : w ∈ readWord s) :
    w.1 ≠ [] ∧ w.1.all isWordChar = true := by
  obtain ⟨c, t, rfl, hc, x, hx, rfl⟩ := mem_readWord h
  refine ⟨List.cons_ne_nil c x.1, ?_⟩
  rw [List.all_cons, hc, all_of_mem_readRun hx]
  rfl

end Waymark.Template
