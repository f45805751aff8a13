/-
  Waymark.Proofs.Route.Tail

  What a map of parameters can put behind the text of a template.  The template's own text depends
  on the parameters that the template names and on nothing else in the map, so two paths written
  from maps that agree there differ in their tails only.

  Main statement: `build_eq_build_restrict_append`, in two parts:

    * every path is the one written from the named parameters alone, and a tail (`tailOf`);
    * the tail is a percent-encoded query, unless the map gives text to a reserved parameter of the
      route.  Such text is written as it is: `build_of_reserved_name`.
-/

import Waymark.Proofs.Route.Restoring
import Waymark.Regex.Estimate

namespace Waymark

open Waymark.Json Waymark.Template

/-! ## The template's own text -/

namespace Template

/-- A parameter does the same under both maps: it has one value, and under both or neither of them
    its groups are written for it. -/
structure Alike (params params' defaults : Dict String) (a : String) : Prop where
  telling : isTelling params defaults a = isTelling params' defaults a
  value : valueOf params defaults a = valueOf params' defaults a

section

variable {params params' defaults : Dict String}

theorem Alike.of_get? {a : String} (h : params.get? a = params'.get? a) :
    Alike params params' defaults a where
  telling := by rw [isTelling, isTelling, h]
  value := by rw [valueOf, valueOf, h]

theorem isWritten_congr {children : List Node}
    (h : ∀ a ∈ Node.paramsAll children, Alike params params' defaults a) :
    isWritten params defaults children = isWritten params' defaults children := by
  rw [Bool.eq_iff_iff, isWritten_iff, isWritten_iff]
  refine exists_congr fun a => and_congr_right fun ha => ?_
  rw [(h a ha).telling]

mutual

theorem expandNode_congr (n : Node) (h : ∀ a ∈ n.params, Alike params params' defaults a) :
    expandNode params defaults n = expandNode params' defaults n := by
  cases n with
  | literal text => rfl
  | param name => exact (h name (List.mem_singleton_self _)).value
  | group children =>
    have hw : isWritten params defaults children = isWritten params' defaults children :=
      isWritten_congr h
    rw [isWritten, isWritten] at hw
    rw [expandNode, expandNode, hw, expand_congr children h]

/-- The text of nodes depends on what the parameters in them do, and on nothing else. -/
theorem expand_congr (ns : List Node)
    (h : ∀ a ∈ Node.paramsAll ns, Alike params params' defaults a) :
    expand params defaults ns = expand params' defaults ns := by
  cases ns with
  | nil => rfl
  | cons n ns =>
    rw [Node.paramsAll_cons, List.forall_mem_append] at h
    simp [expandNode_congr n h.1, expand_congr ns h.2]

end

end

end Template

/-! ## Tails -/

namespace Route

/-- No text, or a question mark and characters of written queries. -/
def IsQueryText (s : List Char) : Prop :=
  s = [] ∨ ∃ q, s = '?' :: q ∧ ∀ c ∈ q, Query.isQueryChar c = true

/-- The query of these parameters with its question mark; nothing if there are none. -/
def queryText (extra : Params) : String :=
  if extra = .empty then "" else "?" ++ Query.stringify extra

/-- What a route writes behind its template.  Text that the map gives to the slash is written as it
    is; so is text that it gives to the query, if no other parameter is left for the query. -/
def tailOf (o : Options) (r : Route) (map : BuildParams) : String :=
  (if o.slashOptional then (givenIn map slashParam).getD "" else "") ++
    if (sortedOf r map).extra = .empty then (givenIn map queryParam).elim "" ("?" ++ ·)
    else queryText (sortedOf r map).extra

theorem isQueryText_queryText (extra : Params) : IsQueryText (queryText extra).toList := by
  rw [queryText]
  by_cases he : extra = .empty
  · rw [if_pos he]
    exact Or.inl rfl
  · rw [if_neg he, String.toList_append]
    exact Or.inr ⟨_, rfl, fun c hc => Query.isQueryChar_of_mem_stringify hc⟩

section

variable {params defaults : Dict String}

/-- A route's own groups write what the parameters hold for the slash and the query. -/
theorem expand_groups (hdefaults : ∀ a, isReserved a = true → defaults.get? a = none)
    (slashOptional : Bool) :
    expand params defaults (slashGroups slashOptional ++ [queryGroup])
      = (if slashOptional then (params.get? slashParam).getD "" else "") ++
        (params.get? queryParam).elim "" ("?" ++ ·) := by
  have hslash : expand params defaults [slashGroup] = (params.get? slashParam).getD "" := by
    have hdefault := hdefaults slashParam (by decide)
    show (if isTelling params defaults slashParam || false then
      valueOf params defaults slashParam ++ "" else "") ++ "" = _
    rw [Bool.or_false, isTelling, valueOf, hdefault]
    cases params.get? slashParam with
    | none => rfl
    | some v => simp
  have hquery : expand params defaults [queryGroup]
      = (params.get? queryParam).elim "" ("?" ++ ·) := by
    have hdefault := hdefaults queryParam (by decide)
    show (if isTelling params defaults queryParam || false then
      "?" ++ (valueOf params defaults queryParam ++ "") else "") ++ "" = _
    rw [Bool.or_false, isTelling, valueOf, hdefault]
    cases params.get? queryParam with
    | none => rfl
    | some v => simp
  rw [expand_append, hquery]
  cases slashOptional with
  | true => rw [slashGroups, if_pos rfl, if_pos rfl, hslash]
  | false => rfl

end

section

variable {o : Options} {r : Route}

/-- A path is the text of the template and that of the route's own groups. -/
theorem build_eq_expand_append [Regex.Capacity] (hr : ofOptions o = .ok r)
    (hpre : o.preBuild = none) (map : BuildParams) :
    r.build map = expand (sortedOf r map).all o.defaults (parse o.pattern) ++
      expand (sortedOf r map).all o.defaults (slashGroups o.slashOptional ++ [queryGroup]) := by
  rw [build_eq_expand hpre hr, (ofOptions_spec hr).2.1, treeOf_eq, expand_append]

theorem get?_all_queryParam [Regex.Capacity] (hr : ofOptions o = .ok r) (map : BuildParams) :
    (sortedOf r map).all.get? queryParam
      = if (sortedOf r map).extra = .empty then givenIn map queryParam
        else some (Query.stringify (sortedOf r map).extra) := by
  have hmem : queryParam ∈ Node.paramsAll r.tree := by
    rw [mem_paramsAll_tree hr, paramsAll_slashGroups]
    exact Or.inr (List.mem_append_right _ (List.mem_singleton_self _))
  rw [Sorted.get?_all_queryParam, (get?_sortedOf hr map _).1, if_pos hmem]
  exact if_congr Query.stringify_eq_empty_iff rfl rfl

theorem expand_groups_eq_tailOf [Regex.Capacity] (hr : ofOptions o = .ok r)
    (hdefaults : ∀ a, isReserved a = true → o.defaults.get? a = none) (map : BuildParams) :
    expand (sortedOf r map).all o.defaults (slashGroups o.slashOptional ++ [queryGroup])
      = tailOf o r map := by
  have hslash : o.slashOptional = true →
      (sortedOf r map).all.get? slashParam = givenIn map slashParam := by
    intro hs
    refine get?_all_of_mem hr map (by decide) ?_
    rw [mem_paramsAll_tree hr, paramsAll_slashGroups, hs]
    exact Or.inr List.mem_cons_self
  rw [expand_groups hdefaults, get?_all_queryParam hr, tailOf]
  congr 1
  · cases hs : o.slashOptional with
    | true => rw [if_pos rfl, if_pos rfl, hslash hs]
    | false => rfl
  · by_cases he : (sortedOf r map).extra = .empty
    · rw [if_pos he, if_pos he]
    · rw [if_neg he, if_neg he, queryText, if_neg he]
      rfl

theorem givenIn_restrict (keep : String → Bool) (map : BuildParams) (k : String) :
    givenIn (map.restrict keep) k = if keep k then givenIn map k else none := by
  rw [givenIn, Dict.get?_restrict]
  by_cases hk : keep k = true
  · rw [if_pos hk, if_pos hk, givenIn]
  · rw [if_neg hk, if_neg hk, Option.bind_none]

/-- A map in which the template names every parameter leaves nothing for the tail. -/
theorem tailOf_restrict [Regex.Capacity] (hr : ofOptions o = .ok r)
    (hparams : ∀ a ∈ Node.paramsAll (parse o.pattern), isReserved a = false) (map : BuildParams) :
    tailOf o r (map.restrict (· ∈ Node.paramsAll (parse o.pattern))) = "" := by
  have hgiven : ∀ k, k ∉ Node.paramsAll (parse o.pattern) →
      givenIn (map.restrict (· ∈ Node.paramsAll (parse o.pattern))) k = none := by
    intro k hk
    rw [givenIn_restrict, decide_eq_false hk]
    rfl
  have hreserved : ∀ a, isReserved a = true → a ∉ Node.paramsAll (parse o.pattern) := by
    intro a ha hmem
    rw [hparams a hmem] at ha
    exact absurd ha (by decide)
  have hextra : (sortedOf r (map.restrict (· ∈ Node.paramsAll (parse o.pattern)))).extra
      = .empty := by
    refine Dict.ext_get? fun k => ?_
    rw [(get?_sortedOf hr _ k).2, Dict.get?_empty]
    by_cases hk : k ∈ Node.paramsAll (parse o.pattern)
    · rw [if_pos ((mem_paramsAll_tree hr).2 (Or.inl hk))]
    · rw [hgiven k hk, ite_self]
  rw [tailOf, if_pos hextra, hgiven _ (hreserved slashParam (by decide)),
    hgiven _ (hreserved queryParam (by decide))]
  cases o.slashOptional <;> rfl

theorem build_eq_append_tailOf [Regex.Capacity] (hr : ofOptions o = .ok r)
    (hpre : o.preBuild = none)
    (hparams : ∀ a ∈ Node.paramsAll (parse o.pattern), isReserved a = false)
    (hdefaults : ∀ a, isReserved a = true → o.defaults.get? a = none) (map : BuildParams) :
    r.build map
      = r.build (map.restrict (· ∈ Node.paramsAll (parse o.pattern))) ++ tailOf o r map := by
  have hnamed : expand (sortedOf r map).all o.defaults (parse o.pattern)
      = expand (sortedOf r (map.restrict (· ∈ Node.paramsAll (parse o.pattern)))).all o.defaults
        (parse o.pattern) := by
    refine expand_congr _ fun a ha => .of_get? ?_
    have hfree := hparams a ha
    rw [get?_all_of_unreserved hr _ hfree ha, get?_all_of_unreserved hr _ hfree ha,
      givenIn_restrict, if_pos (decide_eq_true ha)]
  rw [build_eq_expand_append hr hpre, build_eq_expand_append hr hpre,
    expand_groups_eq_tailOf hr hdefaults, expand_groups_eq_tailOf hr hdefaults,
    tailOf_restrict hr hparams, String.append_empty, hnamed]

/-- What is left for the query are the parameters that the template does not name, if the map gives
    no text to a reserved one of the route. -/
theorem get?_extra_of_unreserved [Regex.Capacity] (hr : ofOptions o = .ok r) {map : BuildParams}
    (hmap : ∀ k ∈ r.matcher.params, isReserved k = true → givenIn map k = none) (k : String) :
    (sortedOf r map).extra.get? k
      = if k ∈ Node.paramsAll (parse o.pattern) then none else givenIn map k := by
  rw [(get?_sortedOf hr map k).2]
  by_cases hk : k ∈ Node.paramsAll (parse o.pattern)
  · rw [if_pos hk, if_pos ((mem_paramsAll_tree hr).2 (Or.inl hk))]
  · rw [if_neg hk]
    by_cases htree : k ∈ Node.paramsAll r.tree
    · -- not of the template, so it stands in one of the route's own groups
      have hgroups := ((mem_paramsAll_tree hr).1 htree).resolve_left hk
      have hparam : k ∈ r.matcher.params := by
        rw [params_compile (ofOptions_spec hr).1]
        exact htree
      rw [if_pos htree, hmap k hparam (isReserved_of_mem_groups hgroups)]
    · rw [if_neg htree]

theorem tailOf_of_unreserved [Regex.Capacity] (hr : ofOptions o = .ok r) {map : BuildParams}
    (hmap : ∀ k ∈ r.matcher.params, isReserved k = true → givenIn map k = none) :
    tailOf o r map = queryText (sortedOf r map).extra := by
  have hown : ∀ k ∈ Node.paramsAll (slashGroups o.slashOptional ++ [queryGroup]),
      givenIn map k = none := by
    intro k hk
    refine hmap k ?_ (isReserved_of_mem_groups hk)
    rw [params_compile (ofOptions_spec hr).1]
    exact (mem_paramsAll_tree hr).2 (Or.inr hk)
  rw [paramsAll_slashGroups] at hown
  have hslash : (if o.slashOptional then (givenIn map slashParam).getD "" else "") = "" := by
    cases hs : o.slashOptional with
    | true =>
      rw [if_pos rfl, hown slashParam (by rw [hs]; exact List.mem_cons_self)]
      rfl
    | false => rfl
  have hquery := hown queryParam (List.mem_append_right _ (List.mem_singleton_self _))
  rw [tailOf, hslash, String.empty_append, hquery, queryText]
  by_cases he : (sortedOf r map).extra = .empty
  · rw [if_pos he, if_pos he]
    rfl
  · rw [if_neg he, if_neg he]

/-- A path is the one that the parameters of the template alone are written to, and a tail.  The
    tail is an encoded query of the other parameters that are not null, if the map gives no text to
    a reserved parameter of the route. -/
theorem build_eq_build_restrict_append [Regex.Capacity] (hr : ofOptions o = .ok r)
    (hpre : o.preBuild = none)
    (hparams : ∀ a ∈ Node.paramsAll (parse o.pattern), isReserved a = false)
    (hdefaults : ∀ a, isReserved a = true → o.defaults.get? a = none) (map : BuildParams) :
    r.build map
        = r.build (map.restrict (· ∈ Node.paramsAll (parse o.pattern))) ++ tailOf o r map ∧
      ((∀ k ∈ r.matcher.params, isReserved k = true → givenIn map k = none) →
        IsQueryText (tailOf o r map).toList ∧
        ∃ extra : Params, tailOf o r map = queryText extra ∧
          ∀ k, extra.get? k
            = if k ∈ Node.paramsAll (parse o.pattern) then none else givenIn map k) := by
  refine ⟨build_eq_append_tailOf hr hpre hparams hdefaults map, fun hmap => ?_⟩
  have htail := tailOf_of_unreserved hr hmap
  refine ⟨?_, (sortedOf r map).extra, htail, get?_extra_of_unreserved hr hmap⟩
  rw [htail]
  exact isQueryText_queryText _

end

/-- A parameter of the template, another one and one that is null. -/
theorem build_of_other_params :
    let o := (Options.ofPattern "/page(/<n>)").withDefault "n" "1"
    let map : BuildParams := .ofList [("n", .text "2"), ("q", .text "x y"), ("z", .null)]
    ∃ r, ofOptions o = .ok r ∧
      r.build map
        = r.build (map.restrict (· ∈ Node.paramsAll (parse o.pattern))) ++ "?q=x%20y" ∧
      IsQueryText "?q=x%20y".toList := by
  intro o map
  have hnamed : Node.paramsAll (parse o.pattern) = ["n"] := by decide +kernel
  obtain ⟨r, hr⟩ : ∃ r, ofOptions o = .ok r := exists_of_isOk (by decide +kernel)
  have hdefaults : ∀ a, isReserved a = true → o.defaults.get? a = none := by
    intro a ha
    rcases eq_of_isReserved ha with rfl | rfl
    · decide +kernel
    · decide +kernel
  have hmap : ∀ k ∈ r.matcher.params, isReserved k = true → givenIn map k = none := by
    intro k _ hk
    rcases eq_of_isReserved hk with rfl | rfl
    · decide +kernel
    · decide +kernel
  obtain ⟨hbuild, htail⟩ :=
    build_eq_build_restrict_append hr rfl (hnamed ▸ by decide) hdefaults map
  obtain ⟨hquery, extra, heq, hextra⟩ := htail hmap
  have hone : extra = Dict.empty.insert "q" "x y" := by
    refine Dict.ext_get? fun k => ?_
    rw [hextra, hnamed, Dict.get?_insert]
    by_cases hn : k = "n"
    · rw [if_pos (List.mem_singleton.2 hn), hn]
      decide
    · have hentries : map.entries
          = [("n", .text "2"), ("q", .text "x y"), ("z", .null)] := by rfl
      rw [if_neg (fun h => hn (List.mem_singleton.1 h)), givenIn, Dict.get?, hentries]
      by_cases hq : k = "q"
      · rw [hq]
        rfl
      · by_cases hz : k = "z"
        · rw [hz]
          rfl
        · simp [Dict.lookup_cons_ite, hn, hq, hz]
  have hvalue : tailOf o r map = "?q=x%20y" := by
    rw [heq, hone]
    decide +kernel
  rw [hvalue] at hbuild hquery
  exact ⟨r, hr, hbuild, hquery⟩

/-- Text for the slash is written as it is, although the template names no parameter. -/
theorem build_of_reserved_name :
    let o := Options.ofPattern "/foo"
    let map : BuildParams := .ofList [(slashParam, .text "//x")]
    Node.paramsAll (parse o.pattern) = [] ∧ ∃ r, ofOptions o = .ok r ∧
      ¬ ∃ tail, r.build map = r.build (map.restrict (· ∈ Node.paramsAll (parse o.pattern))) ++ tail ∧
        IsQueryText tail.toList := by
  intro o map
  have hnamed : Node.paramsAll (parse o.pattern) = [] := by decide +kernel
  obtain ⟨r, hr⟩ : ∃ r, ofOptions o = .ok r := exists_of_isOk (by decide +kernel)
  refine ⟨hnamed, r, hr, ?_⟩
  rintro ⟨tail, htail, hquery⟩
  rw [build_eq_append_tailOf hr rfl (hnamed ▸ by decide) (fun _ _ => rfl),
    String.append_right_inj] at htail
  have hgiven : givenIn map slashParam = some "//x" := by decide +kernel
  have hslash : o.slashOptional = true := rfl
  rw [← htail, tailOf, hslash, if_pos rfl, hgiven, String.toList_append] at hquery
  -- the tail begins with a slash
  rcases hquery with hempty | ⟨q, hmark, -⟩
  · exact absurd (List.append_eq_nil_iff.1 hempty).1 (by decide)
  · exact absurd (List.cons.inj hmark).1 (by decide)

end Route

end Waymark
