/-
  Waymark.Proofs.Route.EndSlash

  One slash behind a path that matches.  What reads a text reads the front of every longer text in
  the same way, so the template still reads the path and leaves the slash to the route's own group.
  That is not the preferred reading everywhere: a group or a listed value may take the slash before.
  But some reading is left, and no other slash stands in front of the one that is added.

  Main statement: `isSome_matchPath?_append_slash`.
-/

import Waymark.Proofs.Route.Verdict
import Waymark.Regex.Estimate

namespace Waymark

open Waymark.Template

/-- No condition of a template's parameter is an expression.  A parameter with a reserved name has
    the condition of the route. -/
def Options.ListsOnly (o : Options) : Prop :=
  ∀ a ∈ Node.paramsAll (parse o.pattern), isReserved a = false →
    o.conditions.get? a = none ∨ ∃ values, o.conditions.get? a = some (.oneOf values)

namespace Template

/-! ## Longer texts -/

/-- Whether a reader takes a value from a longer text if it takes it from the front. -/
def Reader.Extends (r : Reader) : Prop := ∀ s t, ∀ w ∈ r s, (w.1, w.2 ++ t) ∈ r (s ++ t)

theorem nil_mem_readRun (p : Char → Bool) (s : List Char) : ([], s) ∈ readRun p s := by
  cases s with
  | nil => exact List.mem_singleton_self _
  | cons c s => exact List.mem_append_right _ (List.mem_singleton_self _)

theorem extends_readRun (p : Char → Bool) : Reader.Extends (readRun p) := by
  intro s t
  induction s with
  | nil =>
    intro w hw
    rw [readRun, List.mem_singleton] at hw
    rw [hw]
    exact nil_mem_readRun p t
  | cons c s ih =>
    intro w hw
    rcases mem_readRun_cons hw with ⟨hc, x, hx, rfl⟩ | rfl
    · rw [List.cons_append, readRun, if_pos hc]
      exact List.mem_append_left _ (List.mem_map.2 ⟨_, ih x hx, rfl⟩)
    · exact nil_mem_readRun p (c :: s ++ t)

theorem extends_readWord : Reader.Extends readWord := by
  intro s t w hw
  obtain ⟨c, u, rfl, hc, x, hx, rfl⟩ := mem_readWord hw
  rw [List.cons_append, readWord, if_pos hc]
  exact List.mem_map.2 ⟨_, extends_readRun isWordChar u t x hx, rfl⟩

theorem extends_readListed (values : List String) : Reader.Extends (readListed values) := by
  intro s t w hw
  obtain ⟨v, hv, htaken, rfl⟩ := mem_readListed.1 hw
  exact mem_readListed.2 ⟨v, hv, htaken, List.append_assoc _ _ _⟩

mutual

/-- A way to take a node off a text is a way to take it off a longer text. -/
theorem Node.mem_readings_append_text {R : String → Reader} {s : List Char}
    {w : Captured × List Char} (n : Node) (hR : ∀ a ∈ n.params, (R a).Extends)
    (h : w ∈ n.readings R s) (t : List Char) : (w.1, w.2 ++ t) ∈ n.readings R (s ++ t) := by
  cases n with
  | literal text =>
    obtain ⟨htaken, rfl⟩ := Node.mem_readings_literal.1 h
    exact Node.mem_readings_literal.2 ⟨htaken, List.append_assoc _ _ _⟩
  | param name =>
    have hname := hR name (List.mem_singleton_self _)
    obtain ⟨v, hv, rfl⟩ := List.mem_map.1 h
    exact List.mem_map.2 ⟨_, hname s t v hv, rfl⟩
  | group children =>
    rw [Node.readings_group, List.mem_append, List.mem_singleton] at h ⊢
    rcases h with h | rfl
    · exact Or.inl (Node.mem_readingsAll_append_text children hR h t)
    · exact Or.inr rfl

/-- A way to take nodes off a text is a way to take them off a longer text. -/
theorem Node.mem_readingsAll_append_text {R : String → Reader} {s : List Char}
    {w : Captured × List Char} (ns : List Node) (hR : ∀ a ∈ Node.paramsAll ns, (R a).Extends)
    (h : w ∈ Node.readingsAll R ns s) (t : List Char) :
    (w.1, w.2 ++ t) ∈ Node.readingsAll R ns (s ++ t) := by
  cases ns with
  | nil =>
    rw [Node.readingsAll_nil, List.mem_singleton] at h ⊢
    rw [h]
  | cons n ns =>
    rw [Node.paramsAll_cons, List.forall_mem_append] at hR
    obtain ⟨u, hu, h⟩ := List.mem_flatMap.1 h
    obtain ⟨v, hv, rfl⟩ := List.mem_map.1 h
    have hn := Node.mem_readings_append_text n hR.1 hu t
    have hns := Node.mem_readingsAll_append_text ns hR.2 hv t
    exact List.mem_flatMap.2 ⟨_, hn, List.mem_map.2 ⟨_, hns, rfl⟩⟩

end

/-! ## The slash group -/

section

variable {R : String → Reader} {ns : List Node} {p : List Char}

theorem isSome_firstReading?_iff {s : List Char} :
    (firstReading? R ns s).isSome ↔ ∃ w ∈ Node.readingsAll R ns s, w.2 = [] := by
  simp [firstReading?]

theorem readingsAll_slashGroup (hR : R slashParam = readListed ["/"]) (s : List Char) :
    Node.readingsAll R [Route.slashGroup] s
      = (readListed ["/"] s).map (fun w => ([(slashParam, w.1)], w.2)) ++ [([], s)] := by
  simp [Route.slashGroup, hR, List.map_eq_flatMap]

/-- The slash group takes a slash or nothing. -/
theorem rest_of_mem_readingsAll_slashGroup (hR : R slashParam = readListed ["/"]) {s : List Char}
    {w : Captured × List Char} (h : w ∈ Node.readingsAll R [Route.slashGroup] s) :
    s = '/' :: w.2 ∨ s = w.2 := by
  rw [readingsAll_slashGroup hR, List.mem_append, List.mem_singleton] at h
  rcases h with h | rfl
  · obtain ⟨v, hv, rfl⟩ := List.mem_map.1 h
    obtain ⟨u, hu, -, hs⟩ := mem_readListed.1 hv
    rw [List.mem_singleton.1 hu] at hs
    exact Or.inl hs
  · exact Or.inr rfl

/-- If a text that does not end with a slash is read whole, it is also read whole with a slash. -/
theorem isSome_firstReading?_append_slash (hexact : ∀ a ∈ Node.paramsAll ns, (R a).Exact)
    (hextends : ∀ a ∈ Node.paramsAll ns, (R a).Extends) (hR : R slashParam = readListed ["/"])
    (hend : p.getLast? ≠ some '/')
    (h : (firstReading? R (ns ++ [Route.slashGroup]) p).isSome) :
    (firstReading? R (ns ++ [Route.slashGroup]) (p ++ ['/'])).isSome := by
  obtain ⟨w, hw, hrest⟩ := isSome_firstReading?_iff.1 h
  obtain ⟨x, hx, y, hy, rfl⟩ := Node.mem_readingsAll_append hw
  have hall : x.2 = [] := by
    rcases rest_of_mem_readingsAll_slashGroup hR hy with hslash | hnil
    · -- the text would end with the slash that the group took
      obtain ⟨u, hu⟩ := Node.suffix_of_mem_readingsAll ns hexact hx
      rw [hslash, hrest] at hu
      rw [← hu, List.getLast?_concat] at hend
      exact absurd rfl hend
    · exact hnil.trans hrest
  have hns := Node.mem_readingsAll_append_text ns hextends hx ['/']
  rw [hall, List.nil_append] at hns
  have hslash : ([(slashParam, ['/'])], []) ∈ Node.readingsAll R [Route.slashGroup] ['/'] := by
    rw [readingsAll_slashGroup hR]
    exact List.mem_append_left _ (List.mem_singleton_self _)
  refine isSome_firstReading?_iff.2 ⟨(x.1 ++ [(slashParam, ['/'])], []), ?_, rfl⟩
  rw [Node.readingsAll_append]
  exact List.mem_flatMap.2 ⟨_, hns, List.mem_map.2 ⟨_, hslash, rfl⟩⟩

end

end Template

namespace Route

section

variable {o : Options} {r : Route} {p : String}

theorem extends_readerIn (a : String) : (readerIn a).Extends := by
  rw [readerIn]
  by_cases hslash : a = slashParam
  · rw [if_pos hslash]
    exact extends_readListed _
  · rw [if_neg hslash]
    by_cases hquery : a = queryParam
    · rw [if_pos hquery]
      exact extends_readRun _
    · rw [if_neg hquery]
      exact extends_readWord

theorem extends_readerFor (o : Options) (a : String) : (readerFor o a).Extends := by
  rw [readerFor]
  cases o.conditionOf a with
  | none => exact extends_readWord
  | some condition =>
    cases condition with
    | oneOf values => exact extends_readListed _
    | expression source => exact extends_readerIn a

/-- A parameter of the template may have a reserved name, and then its condition is the route's. -/
theorem suits_readerFor [Regex.Capacity] (hslash : o.slashOptional = true) (hlists : o.ListsOnly)
    {a : String} (ha : a ∈ Node.paramsAll (front o)) :
    Suits (conditionsWith o.conditions o.slashOptional) (readerFor o a) a := by
  rcases mem_paramsAll_front ha with hnamed | ⟨rfl, -⟩
  · by_cases hreserved : isReserved a = true
    · rcases eq_of_isReserved hreserved with rfl | rfl
      · exact suits_readerFor_slash hslash
      · exact suits_readerFor_query o
    · rw [Bool.not_eq_true] at hreserved
      have hown : o.conditionOf a = o.conditions.get? a := get?_conditionsWith _ _ hreserved
      refine suits_readerFor_of_lists ?_
      rw [hown]
      exact hlists a hnamed hreserved
  · exact suits_readerFor_slash hslash

/-- A path that is captured is also captured with a slash behind it. -/
theorem isSome_captures?_append_slash [Regex.Capacity] (hr : ofOptions o = .ok r)
    (hslash : o.slashOptional = true) (hlists : o.ListsOnly) (hp : '?' ∉ p.toList)
    (hend : p.toList.getLast? ≠ some '/') (h : (r.matcher.captures? p).isSome) :
    (r.matcher.captures? (p ++ "/")).isSome := by
  have hsuits : ∀ a ∈ Node.paramsAll (front o), Suits _ (readerFor o a) a :=
    fun a ha => suits_readerFor hslash hlists ha
  have hexact : ∀ a ∈ Node.paramsAll (front o), (readerFor o a).Exact := by
    intro a ha
    obtain ⟨-, -, -, -, -, hexact⟩ := hsuits a ha
    exact hexact
  have hfront : front o = parse o.pattern ++ [slashGroup] := by
    rw [front, hslash, slashGroups, if_pos rfl]
  have hnamed : ∀ a ∈ Node.paramsAll (parse o.pattern), a ∈ Node.paramsAll (front o) := by
    intro a ha
    rw [front, Node.paramsAll_append]
    exact List.mem_append_left _ ha
  have hslashReader : readerFor o slashParam = readListed ["/"] := by
    rw [readerFor, conditionOf_slashParam hslash]
    rfl
  -- without a question mark the query is left out
  have hcaptures : ∀ path : String, '?' ∉ path.toList → (r.matcher.captures? path).isSome
      = (firstReading? (readerFor o) (parse o.pattern ++ [slashGroup]) path.toList).isSome := by
    intro path hpath
    rw [captures?_eq_of_suits hr hsuits, directCaptures?, Option.isSome_map,
      firstReading?_of_not_mem hexact hpath, hfront]
  rw [hcaptures p hp] at h
  rw [hcaptures (p ++ "/") (by simpa using hp), String.toList_append]
  exact isSome_firstReading?_append_slash (fun a ha => hexact a (hnamed a ha))
    (fun a _ => extends_readerFor o a) hslashReader hend h

/-- A path that matches and does not end with a slash also matches with a slash behind it. -/
theorem isSome_matchPath?_append_slash [Regex.Capacity] (hr : ofOptions o = .ok r)
    (hpost : o.postMatch = none)
    (hslash : o.slashOptional = true) (hlists : o.ListsOnly) (hp : '?' ∉ p.toList)
    (hend : p.toList.getLast? ≠ some '/') (h : (r.matchPath? p).isSome) :
    (r.matchPath? (p ++ "/")).isSome := by
  rw [matchPath?_eq_readPath? ((ofOptions_spec hr).2.2.2.1.trans hpost), isSome_readPath?] at h ⊢
  obtain ⟨cs, hcs, -⟩ := h
  have hcaptured := isSome_captures?_append_slash hr hslash hlists hp hend
    (Option.isSome_iff_exists.2 ⟨cs, hcs⟩)
  obtain ⟨cs', hcs'⟩ := Option.isSome_iff_exists.1 hcaptured
  refine ⟨cs', hcs', fun _ => ?_⟩
  -- whatever took the slash, the character in front of it is none
  have htext : (p ++ "/").toList = p.toList ++ ['/'] := by simp
  rw [hasDoubledSlash_of_concat (by decide) htext]
  exact beq_eq_false_iff_ne.2 hend

end

/-- The preferred value of a list takes the slash, and neither the group nor the route does. -/
theorem isSome_matchPath?_append_slash_of_lists :
    let o := (Options.ofPattern "/<a>(/)").withCondition "a" (.oneOf ["x/", "x"])
    ∃ r, ofOptions o = .ok r ∧ (r.matchPath? "/x").isSome ∧ (r.matchPath? ("/x" ++ "/")).isSome ∧
      r.matcher.captures? ("/x" ++ "/") = some [("a", "x/")] := by
  intro o
  have hnamed : Node.paramsAll (parse o.pattern) = ["a"] := by decide +kernel
  have hlists : o.ListsOnly := by
    intro a ha _
    rw [hnamed, List.mem_singleton] at ha
    exact Or.inr ⟨["x/", "x"], ha ▸ rfl⟩
  obtain ⟨r, hr, hcs⟩ : ∃ r, ofOptions o = .ok r ∧
      r.matcher.captures? "/x" = some [("a", "x")] := exists_of_toOption_bind (by decide +kernel)
  have hmatch : (r.matchPath? "/x").isSome := by
    rw [matchPath?_eq_readPath? (ofOptions_spec hr).2.2.2.1, isSome_readPath?]
    exact ⟨_, hcs, fun h => absurd h (by decide)⟩
  refine ⟨r, hr, hmatch, ?_, ?_⟩
  · exact isSome_matchPath?_append_slash hr rfl rfl hlists (by decide) (by decide) hmatch
  · rw [captures?_eq_of_suits hr fun a ha => suits_readerFor rfl hlists ha]
    decide +kernel

end Route

end Waymark
