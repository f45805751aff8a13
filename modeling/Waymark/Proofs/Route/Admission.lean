/-
  Waymark.Proofs.Route.Admission

  Which values a result can hold.  A value in the path went through the expression of its parameter,
  so the condition allows it.  The query and the defaults are not asked: a parameter that the path
  leaves out takes whatever value they have for it.

  Main statement: `allowed_of_matchPath?`.
-/

import Waymark.Proofs.Route.Listed
import Waymark.Proofs.Route.Reserved
import Waymark.Proofs.Template.Confinement
import Waymark.Regex.Estimate

namespace Waymark

open Waymark.Json Waymark.Regex Waymark.Template

namespace Template

/-! ## Values in a path -/

/-- Every text that is set for the group of a parameter is one that `Q` says of the parameter; no
    groups are set but those of the nodes. -/
def Admitted (Q : String → List Char → Prop) (inner : String → Nat) (ns : List Node) (k : Nat) :
    Span := fun _ δ _ =>
  (∀ e ∈ δ, k < e.1 ∧ e.1 ≤ k + openedBy inner (Node.paramsAll ns)) ∧
    ∀ slot ∈ slotsOf inner k (Node.paramsAll ns), ∀ u, (slot.2, u) ∈ δ → Q slot.1 u

section

variable {Q : String → List Char → Prop} {inner : String → Nat} {k : Nat} {s t : List Char}
  {δ : Groups}

theorem admitted_of_eq_nil (ns : List Node) (hδ : δ = []) : Admitted Q inner ns k s δ t := by
  rw [hδ]
  exact ⟨fun e he => absurd he List.not_mem_nil, fun _ _ _ hu => absurd hu List.not_mem_nil⟩

/-- Nodes one behind another: their groups have indices of their own. -/
theorem Admitted.seq {n : Node} {ns : List Node}
    (h : (Span.seq (Admitted Q inner [n] k) (Admitted Q inner ns (k + openedBy inner n.params)))
      s δ t) : Admitted Q inner (n :: ns) k s δ t := by
  obtain ⟨δ₁, r, δ₂, ⟨hδ₁, hQ₁⟩, ⟨hδ₂, hQ₂⟩, rfl⟩ := h
  have hparams : Node.paramsAll [n] = n.params := by simp
  rw [hparams] at hδ₁ hQ₁
  have hopened : openedBy inner (Node.paramsAll (n :: ns))
      = openedBy inner n.params + openedBy inner (Node.paramsAll ns) := by
    simp [openedBy_append]
  refine ⟨?_, ?_⟩
  -- what is set later stands in front
  · intro e he
    rcases List.mem_append.1 he with he | he
    · have h₂ := hδ₂ e he
      omega
    · have h₁ := hδ₁ e he
      omega
  -- the group of a parameter of `n` is not set by the others, nor theirs by `n`
  · intro slot hslot u hu
    rw [Node.paramsAll_cons, slotsOf_append] at hslot
    rcases List.mem_append.1 hslot with hslot | hslot
    · have hrange := mem_slotsOf hslot
      rcases List.mem_append.1 hu with hu | hu
      · have h₂ := (hδ₂ _ hu).1
        omega
      · exact hQ₁ slot hslot u hu
    · have hrange := mem_slotsOf hslot
      rcases List.mem_append.1 hu with hu | hu
      · exact hQ₂ slot hslot u hu
      · have h₁ := (hδ₁ _ hu).2
        omega

/-- A parameter: the text of its group is its value. -/
theorem admitted_param {name : String}
    (h : ((Value (Q name) (k + 1) (k + 1 + inner name)).group (k + 1)) s δ t) :
    Admitted Q inner [.param name] k s δ t := by
  obtain ⟨u, δ', rfl, ⟨v, hv, hQ, hrange⟩, rfl⟩ := h
  have hparams : Node.paramsAll [.param name] = [name] := by simp
  have hopened : openedBy inner [name] = inner name + 1 := rfl
  rw [← List.append_cancel_right hv] at hQ
  rw [Admitted, hparams, hopened]
  refine ⟨?_, ?_⟩
  · intro e he
    rcases List.mem_cons.1 he with rfl | he
    · exact ⟨Nat.lt_succ_self k, by omega⟩
    · have hi := hrange e he
      omega
  · intro slot hslot w hw
    rw [List.mem_singleton.1 hslot] at hw ⊢
    rcases List.mem_cons.1 hw with hw | hw
    · rw [(Prod.mk.inj hw).2]
      exact hQ
    · -- the groups inside the value come later
      have hi := (hrange _ hw).1
      omega

theorem composes_admitted (Q : String → List Char → Prop) (inner : String → Nat) :
    Composes Q inner (Admitted Q inner) where
  nil _ _ _ _ h := admitted_of_eq_nil [] h.1
  cons _ _ _ _ _ _ := Admitted.seq
  literal text _ _ _ _ h := admitted_of_eq_nil [.literal text] h.2
  param _ _ _ _ _ := admitted_param
  group cs k s δ t h := by
    have hparams : Node.paramsAll [.group cs] = Node.paramsAll cs := by
      simp
    rcases h with h | h
    · rw [Admitted, hparams]
      exact h
    · exact admitted_of_eq_nil [.group cs] h.1

end

/-- A value that is captured from a path is allowed by the condition of its parameter, if the
    matcher knows the groups around the parameter's own values. -/
theorem allows_of_captures? [Capacity] {pattern : String} {tree : List Node}
    {conditions : Dict Condition}
    {m : Matcher} (hclosed : ∀ a ∈ Node.paramsAll tree, ClosedIn conditions a)
    (h : Matcher.compile pattern tree conditions = .ok m) {a : String}
    (hslots : ∀ i, (a, i) ∈ m.slots → (a, i) ∈ ownSlots conditions tree) {path v : String}
    {cs : List (String × String)} (hcs : m.captures? path = some cs) (hv : (a, v) ∈ cs) :
    v ≠ "" ∧ Allows conditions a v.toList := by
  obtain ⟨g, hg, rfl⟩ := Option.map_eq_some_iff.1 hcs
  obtain ⟨⟨b, i⟩, hslot, hvalue⟩ := List.mem_filterMap.1 hv
  obtain ⟨hname, hget, hne⟩ := Matcher.valueOf?_eq_some hvalue
  change a = b at hname
  subst hname
  have hcomposes := composes_admitted (Allows conditions) (openedIn conditions)
  obtain ⟨-, hadmitted⟩ := span_of_regex hcomposes hclosed h hg
  obtain ⟨as, bs, hsplit, -⟩ := List.lookup_eq_some_iff.1 hget
  have hmem : (i, v.toList) ∈ g := by
    rw [hsplit]
    exact List.mem_append_right as List.mem_cons_self
  exact ⟨hne, hadmitted (a, i) (hslots i hslot) _ hmem⟩

end Template

namespace Route

/-! ## Values of a result -/

/-- The expressions of the route's own parameters are closed. -/
theorem closedIn_groups (conditions : Dict Condition) {slashOptional : Bool} {a : String}
    (ha : a ∈ Node.paramsAll (slashGroups slashOptional ++ [queryGroup])) :
    ClosedIn (conditionsWith conditions slashOptional) a := by
  have hslash : Parse.Closed (Regex.escape "/").toList := exists_of_isOk (by decide +kernel)
  have hquery : Parse.Closed ".*".toList := exists_of_isOk (by decide +kernel)
  intro source hsource
  rw [paramsAll_slashGroups, List.mem_append, List.mem_singleton] at ha
  rcases ha with ha | rfl
  · cases slashOptional with
    | false => exact absurd ha List.not_mem_nil
    | true =>
      rw [List.mem_singleton.1 ha, get?_conditionsWith_slash] at hsource
      cases hsource
      exact hslash
  · rw [get?_conditionsWith_query] at hsource
    cases hsource
    exact hquery

section

variable {o : Options} {r : Route} {path k v : String} {R : Params}

/-- A value of a parameter without a condition or with a list of values comes from the path and is
    allowed by the condition; or the path leaves the parameter out, and the value comes from its
    query; or it is the default. -/
theorem allowed_of_matchPath? [Capacity] (hr : ofOptions o = .ok r) (hpost : o.postMatch = none)
    (hclosed : ∀ a ∈ Node.paramsAll (parse o.pattern),
      ClosedIn (conditionsWith o.conditions o.slashOptional) a)
    (hslots : ∀ i, (k, i) ∈ r.matcher.slots →
      (k, i) ∈ ownSlots (conditionsWith o.conditions o.slashOptional) r.tree)
    (hk : o.conditions.get? k = none ∨ ∃ values, o.conditions.get? k = some (.oneOf values))
    (hR : r.matchPath? path = some R) (hv : R.get? k = some v) :
    (o.conditions.get? k = none ∧ v ≠ "" ∧ v.toList.all isWordChar = true) ∨
    (∃ values, o.conditions.get? k = some (.oneOf values) ∧ v ∈ values) ∨
    (∃ cs q, r.matcher.captures? path = some cs ∧
      (isReserved k = false → k ∉ cs.map (·.1)) ∧
      (queryParam, q) ∈ cs ∧ (Query.parse q).get? k = some v) ∨
    o.defaults.get? k = some v := by
  obtain ⟨hm, htree, -, hfilter, -⟩ := ofOptions_spec hr
  rw [matchPath?_eq_readPath? (hfilter.trans hpost)] at hR
  obtain ⟨cs, hcs, -⟩ := Option.bind_eq_some_iff.1 hR
  rw [get?_readPath?_last hr hR hcs, Option.or_eq_some_iff, Option.or_eq_some_iff] at hv
  rcases hv with (hpath | ⟨hnone, hquery⟩) | ⟨-, hdefault⟩
  · -- a value in the path went through the expression of the parameter
    by_cases hfree : isReserved k = true
    · rw [if_pos hfree] at hpath
      exact absurd hpath (by simp)
    rw [if_neg hfree] at hpath
    have hclosed' : ∀ a ∈ Node.paramsAll r.tree,
        ClosedIn (conditionsWith o.conditions o.slashOptional) a := by
      intro a ha
      rcases (mem_paramsAll_tree hr).1 ha with ha | ha
      · exact hclosed a ha
      · exact closedIn_groups o.conditions ha
    obtain ⟨hne, hallows⟩ :=
      allows_of_captures? hclosed' hm hslots hcs (mem_of_lastValue? hpath)
    have hsame := get?_conditionsWith o.conditions o.slashOptional (Bool.eq_false_iff.2 hfree)
    rw [Allows, hsame] at hallows
    rcases hk with hk | ⟨values, hk⟩
    · rw [hk] at hallows
      exact Or.inl ⟨hk, hne, hallows.2⟩
    · rw [hk] at hallows
      refine Or.inr (Or.inl ⟨values, hk, ?_⟩)
      rcases hallows with hmem | ⟨-, hnil⟩
      · rw [String.ofList_toList] at hmem
        exact hmem
      · exact absurd hnil (by simpa using hne)
  · -- the query is only asked for what the path leaves out
    refine Or.inr (Or.inr (Or.inl ?_))
    rw [queryValue?] at hquery
    by_cases hkq : k = queryParam
    · rw [if_pos hkq] at hquery
      exact absurd hquery (by simp)
    rw [if_neg hkq] at hquery
    obtain ⟨q, hq, hvalue⟩ := Option.bind_eq_some_iff.1 hquery
    refine ⟨cs, q, hcs, fun hfree => ?_, mem_of_lastValue? hq, hvalue⟩
    rw [hfree, if_neg (by decide)] at hnone
    exact lastValue?_eq_none_iff.1 hnone
  · exact Or.inr (Or.inr (Or.inr hdefault))

end

/-- A capturing expression in front of a list of values. -/
theorem allowed_of_matchPath?_docs :
    let o := ((Options.ofPattern "/<lang>/<part>(/<page>)").withCondition "lang"
      (.expression "(en|ru)")).withCondition "part" (.oneOf ["guide", "api"])
    ∃ r R, ofOptions o = .ok r ∧ r.matchPath? "/ru/api/7" = some R ∧
      R.get? "part" = some "api" ∧ ∃ values, o.conditions.get? "part" = some (.oneOf values) ∧
        "api" ∈ values := by
  intro o
  have hparams : Node.paramsAll (parse o.pattern) = ["lang", "part", "page"] := by decide +kernel
  have hlang : (conditionsWith o.conditions true).get? "lang"
      = some (.expression "(en|ru)") := by decide +kernel
  have hpart : (conditionsWith o.conditions true).get? "part"
      = some (.oneOf ["guide", "api"]) := by decide +kernel
  have hpage : (conditionsWith o.conditions true).get? "page" = none := by decide +kernel
  have hclosed : ∀ a ∈ Node.paramsAll (parse o.pattern),
      ClosedIn (conditionsWith o.conditions o.slashOptional) a := by
    intro a ha source hsource
    change (conditionsWith o.conditions true).get? a = _ at hsource
    rw [hparams] at ha
    rcases ha with _ | ⟨_, _ | ⟨_, _ | ⟨_, ha⟩⟩⟩
    · rw [hlang] at hsource
      cases hsource
      exact exists_of_isOk (by decide +kernel)
    · rw [hpart] at hsource
      exact absurd hsource (by simp)
    · rw [hpage] at hsource
      exact absurd hsource (by simp)
    · exact absurd ha List.not_mem_nil
  obtain ⟨r, hr, hcs⟩ : ∃ r, ofOptions o = .ok r ∧ r.matcher.captures? "/ru/api/7"
      = some [("lang", "ru"), ("part", "api"), ("page", "7")] :=
    exists_of_toOption_bind (by decide +kernel)
  obtain ⟨hm, htree, -, hfilter, -⟩ := ofOptions_spec hr
  have hslots : r.matcher.slots
      = ownSlots (conditionsWith o.conditions o.slashOptional) r.tree := by
    rw [slots_compile hm, htree]
    decide +kernel
  obtain ⟨R, hR⟩ : ∃ R, r.readPath? "/ru/api/7" = some R := by
    rw [readPath?, hcs]
    exact ⟨_, rfl⟩
  have hv : R.get? "part" = some "api" := by
    rw [get?_readPath?_last hr hR hcs]
    decide +kernel
  rw [← matchPath?_eq_readPath? hfilter] at hR
  refine ⟨r, R, hr, hR, hv, ?_⟩
  have hlist : o.conditions.get? "part" = some (.oneOf ["guide", "api"]) := by decide +kernel
  rcases allowed_of_matchPath? hr rfl hclosed (fun i hi => hslots ▸ hi)
    (Or.inr ⟨_, hlist⟩) hR hv with ⟨hnone, -⟩ | hmem | ⟨cs, q, hcs', hout, -⟩ | hdefault
  · rw [hlist] at hnone
    exact absurd hnone (by simp)
  · exact hmem
  · rw [hcs, Option.some.injEq] at hcs'
    rw [← hcs'] at hout
    exact absurd (hout (by decide)) (by decide)
  · exact absurd hdefault (by decide +kernel)

/-- A query gives a parameter a value that its list does not have. -/
theorem not_allowed_of_query :
    let o := (Options.ofPattern "/page(/<n>)").withCondition "n" (.oneOf ["1", "2"])
    o.postMatch = none ∧ o.conditions.get? "n" = some (.oneOf ["1", "2"]) ∧
      "n" ∈ Node.paramsAll (parse o.pattern) ∧ o.defaults.get? "n" = none ∧
      ∃ r R, ofOptions o = .ok r ∧ r.matchPath? "/page?n=9" = some R ∧
        R.get? "n" = some "9" ∧ "9" ∉ ["1", "2"] := by
  intro o
  have hparams : Node.paramsAll (parse o.pattern) = ["n"] := by decide +kernel
  have hn : o.conditionOf "n" = some (.oneOf ["1", "2"]) := by decide +kernel
  have hlisted : o.Listed := by
    refine ⟨rfl, fun a ha => Or.inr ⟨["1", "2"], ?_⟩⟩
    rw [hparams] at ha
    rw [List.mem_singleton.1 ha]
    exact hn
  obtain ⟨r, hr⟩ : ∃ r, ofOptions o = .ok r := exists_of_isOk (by decide +kernel)
  have hcs : r.matcher.captures? "/page?n=9" = some [(queryParam, "n=9")] :=
    (captures?_eq_readerFor hlisted hr _).trans (by decide +kernel)
  obtain ⟨-, -, -, hfilter, -⟩ := ofOptions_spec hr
  obtain ⟨R, hR⟩ : ∃ R, r.readPath? "/page?n=9" = some R := by
    rw [readPath?, hcs]
    exact ⟨_, rfl⟩
  have hv : R.get? "n" = some "9" := by
    rw [get?_readPath?_last hr hR hcs]
    decide +kernel
  rw [← matchPath?_eq_readPath? hfilter] at hR
  exact ⟨rfl, by decide +kernel, by decide +kernel, rfl, r, R, hr, hR, hv, by decide⟩

end Route

end Waymark
