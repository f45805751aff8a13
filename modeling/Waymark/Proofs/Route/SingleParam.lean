/-
  Waymark.Proofs.Route.SingleParam

  Templates with one parameter, without conditions, defaults and filters.  A path is written from a
  word for the parameter and read again.  Groups without parameters are never written, but reading
  takes them where it can: then the word comes back shortened, not at all, or from what is taken for
  a query.

  Main statements: `matchPath?_build_single_iff`, the word comes back if and only if nothing in front
  of the parameter strays or the query happens to hold it, and `matchPath?_build_of_populated`, it
  does if there is no group without the parameter.
-/

import Waymark.Proofs.Route.Reserved
import Waymark.Proofs.Route.Straying
import Waymark.Proofs.Route.Verdict
import Waymark.Regex.Estimate

namespace Waymark

open Waymark.Json Waymark.Template

namespace Route

/-! ## Values of a result -/

section

variable {o : Options} {r : Route} {path : String}

theorem nodup_captures? [Regex.Capacity] (h : o.Plain) (hr : ofOptions o = .ok r)
    {cs : List (String × String)}
    (hcs : r.matcher.captures? path = some cs) : (cs.map (·.1)).Nodup := by
  obtain ⟨hm, htree, -⟩ := ofOptions_spec hr
  have hsub := Matcher.sublist_captures? hcs
  rw [params_compile hm, htree] at hsub
  exact (nodup_paramsAll_treeOf h).sublist hsub

/-- The query of a path gives a parameter a value that the path itself does not give. -/
def InQuery (cs : List (String × String)) (a v : String) : Prop :=
  a ∉ cs.map (·.1) ∧ ∃ q, (queryParam, q) ∈ cs ∧ (Query.parse q).get? a = some v

/-- A parameter without a default has the value that the path gives it, or else its query. -/
theorem exists_matchPath?_get?_iff [Regex.Capacity] (h : o.Plain) (hr : ofOptions o = .ok r)
    {a v : String} (ha : isReserved a = false) (hdefault : o.defaults.get? a = none) :
    (∃ R, r.matchPath? path = some R ∧ R.get? a = some v) ↔
      ∃ cs, r.matcher.captures? path = some cs ∧
        (slashParam ∈ cs.map (·.1) → hasDoubledSlash path = false) ∧
        ((a, v) ∈ cs ∨ InQuery cs a v) := by
  have haq : a ≠ queryParam := by
    rintro rfl
    exact absurd ha (by decide)
  have hget : ∀ cs R, r.matcher.captures? path = some cs → r.readPath? path = some R →
      (R.get? a = some v ↔ (a, v) ∈ cs ∨ InQuery cs a v) := by
    intro cs R hcs hR
    have hnodup := nodup_captures? h hr hcs
    rw [get?_readPath? hr hR hcs hnodup, hdefault, Option.or_none, ha, if_neg (by decide)]
    by_cases hmem : a ∈ cs.map (·.1)
    · -- the path gives the parameter a value, and the query does not count
      obtain ⟨e, he, rfl⟩ := List.mem_map.1 hmem
      have hlookup : cs.lookup e.1 = some e.2 := Dict.lookup_eq_some_of_mem hnodup he
      rw [hlookup, Option.some_or, Option.some.injEq]
      constructor
      · rintro rfl
        exact Or.inl he
      · rintro (hv | hv)
        · rw [Dict.lookup_eq_some_of_mem hnodup hv, Option.some.injEq] at hlookup
          exact hlookup.symm
        · exact absurd hmem hv.1
    · have hnone : cs.lookup a = none := Dict.lookup_eq_none_of_not_mem hmem
      rw [hnone, Option.none_or, queryValue?, if_neg haq, Option.bind_eq_some_iff]
      constructor
      · rintro ⟨q, hq, hv⟩
        rw [← lastValue?_eq_lookup hnodup] at hq
        exact Or.inr ⟨hmem, q, mem_of_lastValue? hq, hv⟩
      · rintro (hv | ⟨-, q, hq, hv⟩)
        · exact absurd (List.mem_map.2 ⟨_, hv, rfl⟩) hmem
        · exact ⟨q, Dict.lookup_eq_some_of_mem hnodup hq, hv⟩
  rw [matchPath?_eq_readPath? ((ofOptions_spec hr).2.2.2.1.trans h.postMatch)]
  constructor
  · rintro ⟨R, hR, hv⟩
    have hsome : (r.readPath? path).isSome := Option.isSome_iff_exists.2 ⟨R, hR⟩
    obtain ⟨cs, hcs, hcheck⟩ := (isSome_readPath? r path).1 hsome
    exact ⟨cs, hcs, hcheck, (hget cs R hcs hR).1 hv⟩
  · rintro ⟨cs, hcs, hcheck, hv⟩
    have hsome : (r.readPath? path).isSome := (isSome_readPath? r path).2 ⟨cs, hcs, hcheck⟩
    obtain ⟨R, hR⟩ := Option.isSome_iff_exists.1 hsome
    exact ⟨R, hR, (hget cs R hcs hR).2 hv⟩

end

/-! ## The written path -/

/-- Whether a text can be read to its end as what stands behind every template. -/
def endsPath (slashOptional : Bool) : List Char → Bool :=
  Node.reach readerIn List.isEmpty (slashGroups slashOptional ++ [queryGroup])

/-- Whether something strays in front of the parameter `a` when a path is written with `v`. -/
def strays (o : Options) (a v : String) : Bool :=
  Node.straysAll readerIn (Dict.empty.insert a v) .empty [] (endsPath o.slashOptional)
    (parse o.pattern)

theorem readingsAll_groups_nil (slashOptional : Bool) :
    Node.readingsAll readerIn (slashGroups slashOptional ++ [queryGroup]) [] = [([], [])] := by
  cases slashOptional <;> rfl

section

variable {o : Options} {r : Route} {a v : String} {x : Value}

theorem givenIn_insert_empty (htext : textOf? x = some v) (k : String) :
    givenIn (Dict.empty.insert a x) k = if k = a then some v else none := by
  rw [givenIn, Dict.get?_insert]
  by_cases hk : k = a
  · rw [if_pos hk, if_pos hk]
    exact htext
  · rw [if_neg hk, if_neg hk]
    rfl

/-- Nothing but the parameter is written. -/
theorem all_sortedOf_single [Regex.Capacity] (hr : ofOptions o = .ok r)
    (hone : Node.paramsAll (parse o.pattern) = [a]) (htext : textOf? x = some v) :
    (sortedOf r (Dict.empty.insert a x)).all = Dict.empty.insert a v := by
  have hmem : a ∈ Node.paramsAll r.tree := by
    rw [mem_paramsAll_tree hr, hone]
    exact Or.inl (List.mem_singleton_self a)
  have hget := fun k => get?_sortedOf hr (Dict.empty.insert a x) k
  have hextra : (sortedOf r (Dict.empty.insert a x)).extra = .empty := by
    refine Dict.ext_get? fun k => ?_
    rw [(hget k).2, givenIn_insert_empty htext]
    by_cases hk : k = a
    · rw [hk, if_pos hmem]
      rfl
    · rw [if_neg hk, ite_self]
      rfl
  have hall : (sortedOf r (Dict.empty.insert a x)).all
      = (sortedOf r (Dict.empty.insert a x)).positional := by
    rw [Sorted.all, hextra]
    rfl
  rw [hall]
  refine Dict.ext_get? fun k => ?_
  rw [(hget k).1, givenIn_insert_empty htext, Dict.get?_insert]
  by_cases hk : k = a
  · rw [hk, if_pos hmem, if_pos rfl, if_pos rfl]
  · rw [if_neg hk, ite_self, if_neg hk]
    rfl

theorem carries_single (ha : isReserved a = false) : Carries (Dict.empty.insert a v) .empty "" := by
  rw [isReserved, Bool.or_eq_false_iff, beq_eq_false_iff_ne, beq_eq_false_iff_ne] at ha
  refine ⟨?_, ?_, rfl⟩
  · rw [Dict.get?_insert, if_neg (Ne.symm ha.1)]
    rfl
  · rw [Dict.get?_insert, if_neg (Ne.symm ha.2)]
    rfl

/-- The path is what the template writes; the groups of the route add nothing. -/
theorem toList_build_single [Regex.Capacity] (h : o.Plain) (hdefaults : o.defaults = .empty)
    (hr : ofOptions o = .ok r) (hone : Node.paramsAll (parse o.pattern) = [a])
    (htext : textOf? x = some v) :
    (r.build (Dict.empty.insert a x)).toList
      = (expand (Dict.empty.insert a v) .empty (parse o.pattern)).toList := by
  have ha : isReserved a = false := h.unreserved a (by simp [hone])
  rw [build_eq h hr, all_sortedOf_single hr hone htext, hdefaults, (ofOptions_spec hr).2.1,
    treeOf_eq, expand_append, String.toList_append, (carries_single ha).expand_groups]
  exact List.append_nil _

theorem worded_single (ha : isReserved a = false) (hne : v ≠ "")
    (hword : v.toList.all isWordChar = true) :
    Worded readerIn (Dict.empty.insert a v) .empty a v := by
  have hget : (Dict.empty.insert a v).get? a = some v := Dict.get?_insert_self .empty a v
  refine ⟨readerIn_of_unreserved ha, ?_, ?_, hne, hword⟩
  · rw [valueOf, hget]
    rfl
  · rw [isTelling, hget]
    rfl

/-- What is captured from the path: the word, or something else if the reading strays. -/
theorem captures?_build_single [Regex.Capacity] (h : o.Plain) (hdefaults : o.defaults = .empty)
    (hr : ofOptions o = .ok r) (hone : Node.paramsAll (parse o.pattern) = [a])
    (htext : textOf? x = some v) (hne : v ≠ "") (hword : v.toList.all isWordChar = true) :
    ∃ cs, r.matcher.captures? (r.build (Dict.empty.insert a x)) = some cs ∧
      (strays o a v = false → cs = [(a, v)]) ∧ (strays o a v = true → (a, v) ∉ cs) := by
  have ha : isReserved a = false := h.unreserved a (by simp [hone])
  have hends : endsPath o.slashOptional [] = true := by
    rw [endsPath, Node.reach, readingsAll_groups_nil]
    rfl
  obtain ⟨u, hu, hstays, hstrays⟩ := Node.find?_readingsAll_expand (worded_single ha hne hword)
    (parse o.pattern) hone hends (fun s _ => Nat.zero_le s.length)
  rw [List.append_nil] at hu
  obtain ⟨w, hw, hwE⟩ := Node.reach_iff.1 (mem_of_find?_rest hu).2
  obtain ⟨y, hy⟩ := exists_find?_rest hw hwE
  have hfirst := Node.find?_readingsAll_append_eq_some.2 ⟨u, y, hu, hy, rfl⟩
  have hcs : r.matcher.captures? (r.build (Dict.empty.insert a x))
      = some (Captured.filled (u.1 ++ y.1)) := by
    rw [captures?_eq h hr, directCaptures?, firstReading?, (ofOptions_spec hr).2.1, treeOf_eq,
      toList_build_single h hdefaults hr hone htext, hfirst]
    rfl
  refine ⟨_, hcs, ?_, ?_⟩
  · intro hno
    -- the template takes all of the path, and its groups take nothing
    rw [hstays hno] at hy ⊢
    have hnone := (mem_of_find?_rest hy).1
    rw [readingsAll_groups_nil, List.mem_singleton] at hnone
    rw [hnone]
    simp [Captured.filled, hne]
  · intro hyes hmem
    obtain ⟨t, ht, -, hvt⟩ := Captured.mem_filled.1 hmem
    have hvalue : v.toList = t := by
      change v = String.ofList t at hvt
      rw [hvt, String.toList_ofList]
    rw [← hvalue] at ht
    rcases List.mem_append.1 ht with ht | ht
    · exact hstrays hyes ht
    · -- the groups of the route have no parameter of the template
      have hname := (Node.sublist_readingsAll _ (mem_of_find?_rest hy).1).subset
        (List.mem_map.2 ⟨_, ht, rfl⟩)
      rw [isReserved_of_mem_groups hname] at ha
      exact absurd ha (by decide)

/-- Where nothing strays, the result is the parameter alone. -/
theorem matchPath?_build_single [Regex.Capacity] (h : o.Plain) (hdefaults : o.defaults = .empty)
    (hr : ofOptions o = .ok r) (hone : Node.paramsAll (parse o.pattern) = [a])
    (htext : textOf? x = some v) (hne : v ≠ "") (hword : v.toList.all isWordChar = true)
    (hstrays : strays o a v = false) :
    r.matchPath? (r.build (Dict.empty.insert a x)) = some (Dict.empty.insert a v) := by
  have ha : isReserved a = false := h.unreserved a (by simp [hone])
  obtain ⟨cs, hcs, hstays, -⟩ := captures?_build_single h hdefaults hr hone htext hne hword
  rw [hstays hstrays] at hcs
  have hslash : slashParam ∉ [(a, v)].map (·.1) := by
    intro hmem
    have haslash : slashParam = a := List.mem_singleton.1 hmem
    rw [← haslash] at ha
    exact absurd ha (by decide)
  obtain ⟨R, hR⟩ := Option.isSome_iff_exists.1
    ((isSome_readPath? r _).2 ⟨_, hcs, fun hmem => absurd hmem hslash⟩)
  have haq : queryParam ≠ a := by
    rintro rfl
    exact absurd ha (by decide)
  -- there is no query, and there are no defaults
  have hget : ∀ k, R.get? k = (Dict.empty.insert a v).get? k := by
    intro k
    have hquery : [(a, v)].lookup queryParam = none := by
      rw [Dict.lookup_cons_ite, if_neg haq]
      rfl
    rw [get?_readPath? hr hR hcs (nodup_captures? h hr hcs), hquery, queryValue?, Option.bind_none,
      ite_self, Option.or_none, hdefaults, Dict.get?_empty, Option.or_none, Dict.get?_insert,
      Dict.lookup_cons_ite]
    by_cases hk : k = a
    · rw [hk, ha, if_neg (by decide), if_pos rfl, if_pos rfl]
    · rw [if_neg hk, if_neg hk]
      exact ite_self none
  rw [matchPath?_eq_readPath? ((ofOptions_spec hr).2.2.2.1.trans h.postMatch), hR,
    Dict.ext_get? hget]

/-- If every group holds the parameter, its value always comes back. -/
theorem matchPath?_build_of_populated [Regex.Capacity] (h : o.Plain)
    (hdefaults : o.defaults = .empty)
    (hr : ofOptions o = .ok r) (hone : Node.paramsAll (parse o.pattern) = [a])
    (htext : textOf? x = some v) (hne : v ≠ "") (hword : v.toList.all isWordChar = true)
    (hpopulated : Node.PopulatedAll (parse o.pattern)) :
    r.matchPath? (r.build (Dict.empty.insert a x)) = some (Dict.empty.insert a v) :=
  matchPath?_build_single h hdefaults hr hone htext hne hword
    (Node.straysAll_of_populated [] _ _ hpopulated)

/-- The value that a path is written with is read from it again if and only if nothing in front of
    the parameter strays, or what is taken for the query holds the value. -/
theorem matchPath?_build_single_iff [Regex.Capacity] (h : o.Plain) (hdefaults : o.defaults = .empty)
    (hr : ofOptions o = .ok r) (hone : Node.paramsAll (parse o.pattern) = [a])
    (htext : textOf? x = some v) (hne : v ≠ "") (hword : v.toList.all isWordChar = true) :
    (∃ R, r.matchPath? (r.build (Dict.empty.insert a x)) = some R ∧ R.get? a = some v) ↔
      strays o a v = false ∨
      ∃ cs, r.matcher.captures? (r.build (Dict.empty.insert a x)) = some cs ∧
        (slashParam ∈ cs.map (·.1) →
          hasDoubledSlash (r.build (Dict.empty.insert a x)) = false) ∧
        InQuery cs a v := by
  have ha : isReserved a = false := h.unreserved a (by simp [hone])
  have hdefault : o.defaults.get? a = none := by
    rw [hdefaults]
    rfl
  obtain ⟨cs, hcs, -, hstrays⟩ := captures?_build_single h hdefaults hr hone htext hne hword
  rw [exists_matchPath?_get?_iff h hr ha hdefault]
  constructor
  · rintro ⟨cs', hcs', hcheck, hv | hquery⟩
    · -- a reading that gives the value does not stray
      rw [hcs, Option.some.injEq] at hcs'
      subst hcs'
      refine Or.inl ?_
      rw [← Bool.not_eq_true]
      exact fun hyes => hstrays hyes hv
    · exact Or.inr ⟨cs', hcs', hcheck, hquery⟩
  · rintro (hno | ⟨cs', hcs', hcheck, hquery⟩)
    · rw [← exists_matchPath?_get?_iff h hr ha hdefault]
      exact ⟨_, matchPath?_build_single h hdefaults hr hone htext hne hword hno,
        Dict.get?_insert_self .empty a v⟩
    · exact ⟨cs', hcs', hcheck, Or.inr hquery⟩

end

/-- Groups without parameters on both sides, and a group around the parameter. -/
theorem matchPath?_build_users :
    let o := Options.ofPattern "(/en)/users(/<id>)(/tab)-"
    ∃ r, ofOptions o = .ok r ∧ strays o "id" "7" = false ∧
      ∃ R, r.matchPath? (r.build (Dict.empty.insert "id" (.text "7"))) = some R ∧
        R.get? "id" = some "7" := by
  intro o
  have htree : parse o.pattern = [.group [.literal "/en"], .literal "/users",
      .group [.literal "/", .param "id"], .group [.literal "/tab"], .literal "-"] := by
    decide +kernel
  have hone : Node.paramsAll (parse o.pattern) = ["id"] := by
    rw [htree]
    rfl
  have hplain : o.Plain := Options.plain_ofPattern (hone ▸ by decide) (hone ▸ by decide)
  obtain ⟨r, hr⟩ : ∃ r, ofOptions o = .ok r := exists_of_isOk (by decide +kernel)
  have hstrays : strays o "id" "7" = false := by
    rw [strays, htree]
    decide +kernel
  exact ⟨r, hr, hstrays, (matchPath?_build_single_iff hplain rfl hr hone rfl (by decide)
    (by decide)).2 (Or.inl hstrays)⟩

/-- A word that begins like the group in front of it comes back without its beginning. -/
theorem matchPath?_build_of_swallowed_word :
    let o := Options.ofPattern "(foo)<a>"
    o.Plain ∧ o.defaults = .empty ∧ Node.paramsAll (parse o.pattern) = ["a"] ∧
      "foobar".toList.all isWordChar = true ∧ ∃ r, ofOptions o = .ok r ∧
      r.build (Dict.empty.insert "a" (.text "foobar")) = "foobar" ∧
      ∃ R, r.matchPath? "foobar" = some R ∧ R.get? "a" = some "bar" := by
  intro o
  have htree : parse o.pattern = [.group [.literal "foo"], .param "a"] := by decide +kernel
  have hone : Node.paramsAll (parse o.pattern) = ["a"] := by
    rw [htree]
    rfl
  have hplain : o.Plain := Options.plain_ofPattern (hone ▸ by decide) (hone ▸ by decide)
  obtain ⟨r, hr, hcs⟩ : ∃ r, ofOptions o = .ok r ∧
      r.matcher.captures? "foobar" = some [("a", "bar")] :=
    exists_of_toOption_bind (by decide +kernel)
  have hbuild : r.build (Dict.empty.insert "a" (.text "foobar")) = "foobar" := by
    rw [← String.toList_inj, toList_build_single hplain rfl hr hone rfl, htree]
    decide +kernel
  refine ⟨hplain, rfl, hone, by decide, r, hr, hbuild, ?_⟩
  rw [exists_matchPath?_get?_iff hplain hr (by decide) rfl]
  exact ⟨_, hcs, by decide, Or.inl (by decide)⟩

end Route

end Waymark
