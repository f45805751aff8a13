/-
  Waymark.Proofs.Route.RoundTrip

  Two kinds of templates whose paths are read as they were written.  In the first kind every
  parameter ends where the next leaf begins, and a map with a value of its own for every parameter
  has all groups written.  In the second kind groups stand last, so that what defaults leave out is
  the end of a path.

  Main statements: `matchPath?_build` for the first kind and `matchPath?_build_of_matchPath?` for
  the second.
-/

import Waymark.Proofs.Route.Restoring
import Waymark.Regex.Estimate

namespace Waymark

open Waymark.Json Waymark.Template

namespace Template

/-! ## Leaves -/

mutual

/-- The literals and parameters of a node, groups entered in place. -/
def Node.leaves : Node → List Node
  | .literal text => [.literal text]
  | .param name => [.param name]
  | .group children => Node.leavesAll children

/-- The literals and parameters of nodes, groups entered in place. -/
def Node.leavesAll : List Node → List Node
  | [] => []
  | n :: ns => n.leaves ++ Node.leavesAll ns

end

@[simp] theorem Node.leaves_literal (text : String) :
    (Node.literal text).leaves = [.literal text] := rfl

@[simp] theorem Node.leaves_param (name : String) : (Node.param name).leaves = [.param name] := rfl

@[simp] theorem Node.leaves_group (children : List Node) :
    (Node.group children).leaves = Node.leavesAll children := rfl

@[simp] theorem Node.leavesAll_nil : Node.leavesAll [] = [] := rfl

@[simp] theorem Node.leavesAll_cons (n : Node) (ns : List Node) :
    Node.leavesAll (n :: ns) = n.leaves ++ Node.leavesAll ns := rfl

mutual

/-- Every group has a parameter inside. -/
def Node.Populated : Node → Prop
  | .literal _ => True
  | .param _ => True
  | .group children => Node.paramsAll children ≠ [] ∧ Node.PopulatedAll children

/-- Every group of the nodes has a parameter inside. -/
def Node.PopulatedAll : List Node → Prop
  | [] => True
  | n :: ns => n.Populated ∧ Node.PopulatedAll ns

end

/-- Whether what stands first cannot continue a word: nothing, or a literal that begins with
    another character. -/
def StartsApart : List Node → Prop
  | [] => True
  | .literal text :: _ => ∃ c, text.toList.head? = some c ∧ isWordChar c = false
  | _ => False

/-- Every parameter is the last leaf or stands in front of a literal that cannot continue it. -/
def Separated : List Node → Prop
  | [] => True
  | .param _ :: ns => StartsApart ns ∧ Separated ns
  | _ :: ns => Separated ns

theorem Separated.of_append {ns ms : List Node} (h : Separated (ns ++ ms)) : Separated ms := by
  induction ns with
  | nil => exact h
  | cons n ns ih =>
    cases n with
    | param name => exact ih h.2
    | literal text => exact ih h
    | group children => exact ih h

section

variable {params defaults : Dict String}

mutual

/-- Leaves that cannot continue a word are written as text that ends one. -/
theorem Node.stops_expand {L : List Node} {f : List Char} (n : Node)
    (hwritten : ∀ a ∈ n.params, isTelling params defaults a = true) (hn : n.Populated)
    (hf : StartsApart L → Stops isWordChar f) (h : StartsApart (n.leaves ++ L)) :
    Stops isWordChar ((expandNode params defaults n).toList ++ f) := by
  cases n with
  | literal text =>
    obtain ⟨c, hc, hword⟩ := h
    rw [expandNode_literal]
    intro d hd
    rw [List.head?_append, hc, Option.some_or, Option.some.injEq] at hd
    rw [← hd]
    exact hword
  | param name => exact absurd h id
  | group children =>
    obtain ⟨a, ha⟩ := List.exists_mem_of_ne_nil _ hn.1
    have hw := isWritten_iff.2 ⟨a, ha, hwritten a ha⟩
    rw [isWritten] at hw
    rw [expandNode, if_pos hw]
    exact Node.stops_expandAll children hwritten hn.2 hf h

theorem Node.stops_expandAll {L : List Node} {f : List Char} (ns : List Node)
    (hwritten : ∀ a ∈ Node.paramsAll ns, isTelling params defaults a = true)
    (hns : Node.PopulatedAll ns) (hf : StartsApart L → Stops isWordChar f)
    (h : StartsApart (Node.leavesAll ns ++ L)) :
    Stops isWordChar ((expand params defaults ns).toList ++ f) := by
  cases ns with
  | nil => exact hf h
  | cons n ns =>
    rw [Node.leavesAll_cons, List.append_assoc] at h
    rw [expand_cons, String.toList_append, List.append_assoc]
    refine Node.stops_expand n (fun a ha => hwritten a (List.mem_append_left _ ha)) hns.1 ?_ h
    exact Node.stops_expandAll ns (fun a ha => hwritten a (List.mem_append_right _ ha)) hns.2 hf

end

/-- A parameter is given a word of its own. -/
def HasWord (params defaults : Dict String) (name : String) : Prop :=
  isTelling params defaults name = true ∧ valueOf params defaults name ≠ "" ∧
    (valueOf params defaults name).toList.all isWordChar = true

mutual

theorem Node.regained_of_separated {R : String → Reader} {L : List Node} {f : List Char}
    (n : Node) (hread : ∀ a ∈ n.params, R a = readWord)
    (hwords : ∀ a ∈ n.params, HasWord params defaults a) (hn : n.Populated)
    (hf : StartsApart L → Stops isWordChar f) (h : Separated (n.leaves ++ L)) :
    n.Regained params defaults R f := by
  cases n with
  | literal text => trivial
  | param name =>
    have hmem : name ∈ (Node.param name).params := List.mem_singleton_self name
    obtain ⟨-, hne, hword⟩ := hwords name hmem
    rw [Node.Regained, hread name hmem]
    refine ⟨hne, head?_readWord ?_ hword (hf h.1)⟩
    simpa using hne
  | group children =>
    -- with a parameter inside that has its own value, the group is written
    obtain ⟨a, ha⟩ := List.exists_mem_of_ne_nil _ hn.1
    rw [Node.Regained, if_pos (isWritten_iff.2 ⟨a, ha, (hwords a ha).1⟩)]
    exact Node.regainedAll_of_separated children hread hwords hn.2 hf h

theorem Node.regainedAll_of_separated {R : String → Reader} {L : List Node} {f : List Char}
    (ns : List Node) (hread : ∀ a ∈ Node.paramsAll ns, R a = readWord)
    (hwords : ∀ a ∈ Node.paramsAll ns, HasWord params defaults a) (hns : Node.PopulatedAll ns)
    (hf : StartsApart L → Stops isWordChar f) (h : Separated (Node.leavesAll ns ++ L)) :
    Node.RegainedAll params defaults R f ns := by
  cases ns with
  | nil => trivial
  | cons n ns =>
    rw [Node.leavesAll_cons, List.append_assoc] at h
    have hwords' : ∀ a ∈ Node.paramsAll ns, HasWord params defaults a :=
      fun a ha => hwords a (List.mem_append_right _ ha)
    refine ⟨?_, ?_⟩
    · refine Node.regained_of_separated n (fun a ha => hread a (List.mem_append_left _ ha))
        (fun a ha => hwords a (List.mem_append_left _ ha)) hns.1 ?_ h
      exact Node.stops_expandAll ns (fun a ha => (hwords' a ha).1) hns.2 hf
    · exact Node.regainedAll_of_separated ns
        (fun a ha => hread a (List.mem_append_right _ ha)) hwords' hns.2 hf h.of_append

end

end

/-! ## Groups that stand last -/

/-- Whether a group's children begin with a literal whose first character continues neither a word
    nor a path in front of a query. -/
def StartsGroup : List Node → Prop
  | .literal text :: _ => ∃ c, text.toList.head? = some c ∧ c ≠ '?' ∧ isWordChar c = false
  | _ => False

/-- Whether a parameter ends where these nodes begin. -/
def EndsWord : List Node → Prop
  | [] => True
  | .literal text :: _ => ∃ c, text.toList.head? = some c ∧ isWordChar c = false
  | .param _ :: _ => False
  | .group children :: _ => StartsGroup children

mutual

/-- What a node that stands in front of `ns` is like: a parameter ends there, a group is the last
    node and is of the same kind inside. -/
def Node.Trails (ns : List Node) : Node → Prop
  | .literal _ => True
  | .param _ => EndsWord ns
  | .group children => ns = [] ∧ StartsGroup children ∧ Node.TrailsAll children

/-- Groups stand last, at every depth, and parameters end where the next node begins. -/
def Node.TrailsAll : List Node → Prop
  | [] => True
  | n :: ns => n.Trails ns ∧ Node.TrailsAll ns

end

section

variable {params defaults : Dict String}

/-- A group cannot be read where nothing or a query stands. -/
theorem readingsAll_of_startsGroup {R : String → Reader} {children : List Node} {f : List Char}
    (h : StartsGroup children) (hf : ∀ c, f.head? = some c → c = '?') :
    Node.readingsAll R children f = [] := by
  cases children with
  | nil => exact absurd h id
  | cons n ns =>
    cases n with
    | param name => exact absurd h id
    | group children => exact absurd h id
    | literal text =>
      obtain ⟨c, hc, hquery, -⟩ := h
      obtain ⟨t, ht⟩ := List.head?_eq_some_iff.1 hc
      have hprefix : ¬ text.toList.isPrefixOf f = true := by
        rw [ht]
        cases f with
        | nil => simp
        | cons d f =>
          have hd : c ≠ d := fun e => hquery (e.trans (hf d rfl))
          simp [hd]
      rw [Node.readingsAll_cons, Node.readings_literal, if_neg hprefix, List.flatMap_nil]

/-- What ends a parameter is written as text that ends a word. -/
theorem stops_of_endsWord {ns : List Node} {f : List Char} (h : EndsWord ns)
    (htrails : Node.TrailsAll ns) (hf : Stops isWordChar f) :
    Stops isWordChar ((expand params defaults ns).toList ++ f) := by
  have hliteral : ∀ (text : String) (ms : List Node) (c : Char), text.toList.head? = some c →
      isWordChar c = false →
      Stops isWordChar ((expand params defaults (.literal text :: ms)).toList ++ f) := by
    intro text ms c hc hword d hd
    rw [expand_cons, expandNode_literal, String.toList_append, List.append_assoc,
      List.head?_append, hc, Option.some_or, Option.some.injEq] at hd
    rw [← hd]
    exact hword
  cases ns with
  | nil => exact hf
  | cons n ns =>
    cases n with
    | literal text =>
      obtain ⟨c, hc, hword⟩ := h
      exact hliteral text ns c hc hword
    | param name => exact absurd h id
    | group children =>
      obtain ⟨⟨rfl, hstarts, -⟩, -⟩ := htrails
      -- the group is the last node: its first literal stands there, or nothing
      rw [expand_cons, expand_nil, expandNode, String.append_empty]
      by_cases hw : (Node.dependents children).any (isTelling params defaults) = true
      · rw [if_pos hw]
        cases children with
        | nil => exact absurd hstarts id
        | cons m ms =>
          cases m with
          | param name => exact absurd hstarts id
          | group more => exact absurd hstarts id
          | literal text =>
            obtain ⟨c, hc, -, hword⟩ := hstarts
            exact hliteral text ms c hc hword
      · rw [if_neg hw]
        exact hf

/-- How parameters go with what was captured from a path: what was captured is their value, the
    others have their default or nothing. -/
structure Agrees (params defaults : Dict String) (names : List String) (c : Captured) : Prop where
  captured : ∀ e ∈ c, e.2 ≠ [] → params.get? e.1 = some (String.ofList e.2)
  rest : ∀ a ∈ names, a ∉ c.map (·.1) → isTelling params defaults a = false

/-- If every name has its captured text or else its default, the captures in front go with it. -/
theorem agrees_of_get? {names : List String} {c d : Captured}
    (hget : ∀ a ∈ names, params.get? a = ((c ++ d).filled.lookup a).or (defaults.get? a))
    (hc : (c.map (·.1)).Sublist names) (hnodup : ((c ++ d).filled.map (·.1)).Nodup)
    (hd : ∀ a ∈ d.map (·.1), a ∉ names) : Agrees params defaults names c := by
  refine ⟨?_, ?_⟩
  · intro e he hne
    have hmem : (e.1, String.ofList e.2) ∈ (c ++ d).filled :=
      Captured.mem_filled.2 ⟨e.2, List.mem_append_left _ he, hne, rfl⟩
    rw [hget e.1 (hc.subset (List.mem_map.2 ⟨e, he, rfl⟩)),
      Dict.lookup_eq_some_of_mem hnodup hmem, Option.some_or]
  · intro a ha hac
    have habsent : (c ++ d).filled.lookup a = none := by
      refine Dict.lookup_eq_none_of_not_mem fun hmem => ?_
      have hmem' := (Captured.map_fst_filled _).subset hmem
      rw [List.map_append, List.mem_append] at hmem'
      rcases hmem' with hmem' | hmem'
      · exact hac hmem'
      · exact hd a hmem' ha
    rw [isTelling, hget a ha, habsent, Option.none_or]
    cases defaults.get? a with
    | none => rfl
    | some v => exact bne_self_eq_false v

/-- For a part of the names, what was captured for the others does not matter. -/
theorem Agrees.of_append {as bs : List String} {c d : Captured}
    (h : Agrees params defaults (as ++ bs) (c ++ d)) (hdisjoint : (as ++ bs).Nodup)
    (hc : (c.map (·.1)).Sublist as) (hd : (d.map (·.1)).Sublist bs) :
    Agrees params defaults as c ∧ Agrees params defaults bs d := by
  obtain ⟨-, -, hne⟩ := List.nodup_append.1 hdisjoint
  refine ⟨⟨?_, ?_⟩, ⟨?_, ?_⟩⟩
  · intro e he
    exact h.captured e (List.mem_append_left _ he)
  · intro a ha hac
    refine h.rest a (List.mem_append_left _ ha) ?_
    rw [List.map_append, List.mem_append, not_or]
    exact ⟨hac, fun had => hne a ha a (hd.subset had) rfl⟩
  · intro e he
    exact h.captured e (List.mem_append_right _ he)
  · intro b hb hbd
    refine h.rest b (List.mem_append_right _ hb) ?_
    rw [List.map_append, List.mem_append, not_or]
    exact ⟨fun hbc => hne b (hc.subset hbc) b hb rfl, hbd⟩

mutual

/-- What a reading took is written so that it is read again.  A group that was skipped tells
    nothing and stays out; one that was taken may be left out too, if it holds defaults only. -/
theorem Node.regained_of_reading {R : String → Reader} {ns : List Node} {f s : List Char}
    {w : Captured × List Char} (n : Node) (hread : ∀ a ∈ n.params, R a = readWord)
    (hn : n.Trails ns) (hns : Node.TrailsAll ns) (hdistinct : n.params.Nodup)
    (hw : w ∈ n.readings R s) (hagrees : Agrees params defaults n.params w.1)
    (hf : ∀ c, f.head? = some c → c = '?') :
    n.Regained params defaults R ((expand params defaults ns).toList ++ f) := by
  have hstops : Stops isWordChar f := by
    intro c hc
    rw [hf c hc]
    decide
  cases n with
  | literal text => trivial
  | param name =>
    have hmem : name ∈ (Node.param name).params := List.mem_singleton_self name
    rw [Node.readings_param, hread name hmem] at hw
    obtain ⟨x, hx, rfl⟩ := List.mem_map.1 hw
    obtain ⟨hne, hword⟩ := word_of_mem_readWord hx
    have hget := hagrees.captured (name, x.1) (List.mem_singleton_self _) hne
    have hvalue : valueOf params defaults name = String.ofList x.1 := by
      rw [valueOf, hget]
      rfl
    rw [Node.Regained, hread name hmem, hvalue, String.toList_ofList]
    exact ⟨by simpa using hne, head?_readWord hne hword (stops_of_endsWord hn hns hstops)⟩
  | group children =>
    obtain ⟨rfl, hstarts, htrails⟩ := hn
    rw [Node.readings_group, List.mem_append, List.mem_singleton] at hw
    rw [expand_nil, String.toList_empty, List.nil_append, Node.Regained]
    by_cases hwritten : isWritten params defaults children = true
    · rw [if_pos hwritten]
      rcases hw with hw | rfl
      -- what was skipped captured nothing, so its parameters tell nothing
      · exact Node.regainedAll_of_reading children hread htrails hdistinct hw hagrees hf
      · obtain ⟨a, ha, htell⟩ := isWritten_iff.1 hwritten
        rw [hagrees.rest a ha List.not_mem_nil] at htell
        exact absurd htell (by decide)
    · rw [if_neg hwritten]
      exact readingsAll_of_startsGroup hstarts hf

theorem Node.regainedAll_of_reading {R : String → Reader} {f s : List Char}
    {w : Captured × List Char} (ns : List Node) (hread : ∀ a ∈ Node.paramsAll ns, R a = readWord)
    (hns : Node.TrailsAll ns) (hdistinct : (Node.paramsAll ns).Nodup)
    (hw : w ∈ Node.readingsAll R ns s) (hagrees : Agrees params defaults (Node.paramsAll ns) w.1)
    (hf : ∀ c, f.head? = some c → c = '?') :
    Node.RegainedAll params defaults R f ns := by
  cases ns with
  | nil => trivial
  | cons n ns =>
    obtain ⟨u, hu, hw⟩ := List.mem_flatMap.1 hw
    obtain ⟨v, hv, rfl⟩ := List.mem_map.1 hw
    obtain ⟨hagree, hagrees⟩ := hagrees.of_append hdistinct (Node.sublist_readings n hu)
      (Node.sublist_readingsAll ns hv)
    obtain ⟨hnodup, hnodups, -⟩ := List.nodup_append.1 hdistinct
    refine ⟨?_, ?_⟩
    · exact Node.regained_of_reading n (fun a ha => hread a (List.mem_append_left _ ha)) hns.1
        hns.2 hnodup hu hagree hf
    · exact Node.regainedAll_of_reading ns (fun a ha => hread a (List.mem_append_right _ ha))
        hns.2 hnodups hv hagrees hf

end

end

end Template

namespace Route

theorem Behind.stops {f : List Char} (h : Behind f) : Stops isWordChar f := by
  intro c hc
  rcases h with rfl | ⟨q, rfl⟩
  · exact absurd hc (by simp)
  · cases hc
    decide

theorem get?_all_of_mem_parse [Regex.Capacity] {o : Options} {r : Route} (h : o.Plain)
    (hr : ofOptions o = .ok r)
    (map : BuildParams) {a : String} (ha : a ∈ Node.paramsAll (parse o.pattern)) :
    (sortedOf r map).all.get? a = givenIn map a :=
  get?_all_of_unreserved hr map (h.unreserved a ha) ha

/-- What is written from a map is read as its texts, completed by the defaults: null is no value,
    every parameter of the template has a word of its own, and further parameters may have any
    value. -/
theorem matchPath?_build [Regex.Capacity] {o : Options} {r : Route} (h : o.Plain)
    (hr : ofOptions o = .ok r) (hpopulated : Node.PopulatedAll (parse o.pattern))
    (hseparated : Separated (Node.leavesAll (parse o.pattern)))
    {map : BuildParams}
    (hvalues : ∀ a ∈ Node.paramsAll (parse o.pattern), ∃ v text, map.get? a = some v ∧
      textOf? v = some text ∧ text ≠ "" ∧ text.toList.all isWordChar = true ∧
      o.defaults.get? a ≠ some text)
    (hfurther : ∀ a, isReserved a = true → map.get? a = none) :
    ∃ R, r.matchPath? (r.build map) = some R ∧
      ∀ k, R.get? k = ((map.get? k).bind textOf?).or (o.defaults.get? k) := by
  have hmap : ∀ a, isReserved a = true → givenIn map a = none := by
    intro a ha
    rw [givenIn, hfurther a ha, Option.bind_none]
  have hwords : ∀ a ∈ Node.paramsAll (parse o.pattern),
      HasWord (sortedOf r map).all o.defaults a := by
    intro a ha
    obtain ⟨v, text, hv, htext, hne, hword, hdefault⟩ := hvalues a ha
    have hget : (sortedOf r map).all.get? a = some text := by
      rw [get?_all_of_mem_parse h hr map ha, givenIn, hv, Option.bind_some, htext]
    have hvalue : valueOf (sortedOf r map).all o.defaults a = text := by
      rw [valueOf, hget]
      rfl
    refine ⟨?_, hvalue ▸ hne, hvalue ▸ hword⟩
    rw [isTelling, hget]
    simpa using hdefault
  -- separated words are read back as far as they were written, whatever stands behind
  have hregained : ∀ f, Behind f →
      Node.RegainedAll (sortedOf r map).all o.defaults readerIn f (parse o.pattern) := by
    intro f hf
    refine Node.regainedAll_of_separated (L := []) (parse o.pattern)
      (fun a ha => readerIn_of_unreserved (h.unreserved a ha)) hwords hpopulated
      (fun _ => hf.stops) ?_
    rw [List.append_nil]
    exact hseparated
  rw [matchPath?_eq_readPath? ((ofOptions_spec hr).2.2.2.1.trans h.postMatch)]
  exact readPath?_build h hr hmap hregained

/-- A group in the middle, a default that is not used and a key that has to be encoded. -/
theorem matchPath?_build_profile :
    let o := ((Options.ofPattern "(/<lang>)/users/<id>(/<tab>)").withDefault "lang" "en").withDefault
      "tab" "posts"
    let map := Dict.ofList [("id", Value.text "7"), ("lang", .text "de"), ("tab", .text "likes"),
      ("sort by", .text "a=b&c"), ("page", .null)]
    ∃ r, ofOptions o = .ok r ∧ ∃ R, r.matchPath? (r.build map) = some R ∧
      ∀ k, R.get? k = ((map.get? k).bind textOf?).or (o.defaults.get? k) := by
  intro o map
  have htree : parse o.pattern = [.group [.literal "/", .param "lang"], .literal "/users/",
      .param "id", .group [.literal "/", .param "tab"]] := by decide +kernel
  have hplain : o.Plain := by
    refine ⟨rfl, rfl, rfl, by rw [htree]; decide +kernel, by rw [htree]; decide +kernel, ?_⟩
    intro a ha
    rcases eq_of_isReserved ha with rfl | rfl
    · decide +kernel
    · decide +kernel
  obtain ⟨r, hr⟩ : ∃ r, ofOptions o = .ok r := exists_of_isOk (by decide +kernel)
  have hpopulated : Node.PopulatedAll (parse o.pattern) := by
    rw [htree]
    simp [Node.PopulatedAll, Node.Populated]
  have hseparated : Separated (Node.leavesAll (parse o.pattern)) := by
    rw [htree]
    exact ⟨⟨'/', rfl, rfl⟩, ⟨'/', rfl, rfl⟩, trivial, trivial⟩
  refine ⟨r, hr, matchPath?_build hplain hr hpopulated hseparated ?_ ?_⟩
  · intro a ha
    have hparams : Node.paramsAll (parse o.pattern) = ["lang", "id", "tab"] := by
      rw [htree]
      rfl
    rw [hparams] at ha
    rcases ha with _ | ⟨_, _ | ⟨_, _ | ⟨_, ha⟩⟩⟩
    · exact ⟨.text "de", "de", rfl, rfl, by decide, by decide, by decide⟩
    · exact ⟨.text "7", "7", rfl, rfl, by decide, by decide, by decide⟩
    · exact ⟨.text "likes", "likes", rfl, rfl, by decide, by decide, by decide⟩
    · exact absurd ha List.not_mem_nil
  · intro a ha
    rcases eq_of_isReserved ha with rfl | rfl
    · rfl
    · rfl

theorem Behind.eq_of_head? {f : List Char} (h : Behind f) {c : Char} (hc : f.head? = some c) :
    c = '?' := by
  rcases h with rfl | ⟨q, rfl⟩
  · exact absurd hc (by simp)
  · cases hc
    rfl

/-- What a route reads is what the first reading of its tree took, its part in the template
    apart. -/
theorem exists_reading [Regex.Capacity] {o : Options} {r : Route} (h : o.Plain)
    (hr : ofOptions o = .ok r) {path : String} {R : Params} (hread : r.readPath? path = some R) :
    ∃ c d : Captured, (∃ rest, (c, rest) ∈ Node.readingsAll readerIn (parse o.pattern) path.toList) ∧
      (d.map (·.1)).Sublist (Node.paramsAll (slashGroups o.slashOptional ++ [queryGroup])) ∧
      r.matcher.captures? path = some (c ++ d).filled := by
  obtain ⟨cs, hcs, -⟩ := Option.bind_eq_some_iff.1 hread
  have hdirect := hcs
  rw [captures?_eq h hr, directCaptures?, firstReading?] at hdirect
  obtain ⟨first, hfirst, rfl⟩ := Option.map_eq_some_iff.1 hdirect
  obtain ⟨w, hw, rfl⟩ := Option.map_eq_some_iff.1 hfirst
  have hmem := List.mem_of_find?_eq_some hw
  rw [(ofOptions_spec hr).2.1, treeOf_eq] at hmem
  obtain ⟨x, hx, y, hy, rfl⟩ := Node.mem_readingsAll_append hmem
  exact ⟨x.1, y.1, ⟨x.2, hx⟩, Node.sublist_readingsAll _ hy, hcs⟩

/-- A query brings nothing for a name that it does not contain. -/
theorem queryValue?_eq_none {cs : List (String × String)} {k : String}
    (h : ∀ q, (queryParam, q) ∈ cs → (Query.parse q).contains k = false) :
    queryValue? (cs.lookup queryParam) k = none := by
  rw [queryValue?]
  by_cases hk : k = queryParam
  · rw [if_pos hk]
  · rw [if_neg hk]
    cases hq : cs.lookup queryParam with
    | none => rfl
    | some q =>
      obtain ⟨as, bs, hsplit, -⟩ := List.lookup_eq_some_iff.1 hq
      have hmem : (queryParam, q) ∈ cs := by
        rw [hsplit]
        exact List.mem_append_right _ List.mem_cons_self
      rw [Option.bind_some, ← Option.not_isSome_iff_eq_none, Bool.not_eq_true]
      exact h q hmem

/-- What a path gives for the names that its query does not contain: the text that was captured in
    the template, else the default. -/
theorem exists_reading_of_result [Regex.Capacity] {o : Options} {r : Route} (h : o.Plain)
    (hr : ofOptions o = .ok r)
    {path : String} {R : Params} (hread : r.readPath? path = some R) {names : List String}
    (hquery : ∀ cs q, r.matcher.captures? path = some cs → (queryParam, q) ∈ cs →
      ∀ k ∈ names, (Query.parse q).contains k = false) :
    ∃ c d : Captured, (∃ rest, (c, rest) ∈ Node.readingsAll readerIn (parse o.pattern) path.toList) ∧
      (d.map (·.1)).Sublist (Node.paramsAll (slashGroups o.slashOptional ++ [queryGroup])) ∧
      ((c ++ d).filled.map (·.1)).Nodup ∧
      ∀ k ∈ names, R.get? k
        = (if isReserved k then none else (c ++ d).filled.lookup k).or (o.defaults.get? k) := by
  obtain ⟨c, d, ⟨rest, hreading⟩, hd, hcaptures⟩ := exists_reading h hr hread
  have hcd : ((c ++ d).map (·.1)).Sublist (Node.paramsAll r.tree) := by
    rw [(ofOptions_spec hr).2.1, treeOf_eq, Node.paramsAll_append, List.map_append]
    exact (Node.sublist_readingsAll (parse o.pattern) hreading).append hd
  have hnodup := nodup_filled h hr hcd
  refine ⟨c, d, ⟨rest, hreading⟩, hd, hnodup, fun k hk => ?_⟩
  have hnone : queryValue? ((c ++ d).filled.lookup queryParam) k = none :=
    queryValue?_eq_none fun q hq => hquery _ q hcaptures hq k hk
  rw [get?_readPath? hr hread hcaptures hnodup, hnone, Option.or_none]

/-- Every default is in a result already. -/
theorem get?_or_default_of_readPath? [Regex.Capacity] {o : Options} {r : Route}
    (hr : ofOptions o = .ok r)
    {path : String} {R : Params} (hread : r.readPath? path = some R) (k : String) :
    (R.get? k).or (o.defaults.get? k) = R.get? k := by
  obtain ⟨cs, -, hread⟩ := Option.bind_eq_some_iff.1 hread
  obtain ⟨t, -, hR⟩ := Option.bind_eq_some_iff.1 hread
  cases hR
  rw [Dict.get?_orElse, (ofOptions_spec hr).2.2.1, Option.or_assoc, Option.or_self]

theorem givenIn_mapValues (R : Params) (k : String) :
    givenIn (R.mapValues .text) k = R.get? k := by
  rw [givenIn, Dict.get?_mapValues]
  cases R.get? k <;> rfl

/-- A result that a path gave is given again by the path that is written from it, if the query of
    the first path names no parameter of the template and no reserved one. -/
theorem matchPath?_build_of_matchPath? [Regex.Capacity] {o : Options} {r : Route} (h : o.Plain)
    (hr : ofOptions o = .ok r) (htrails : Node.TrailsAll (parse o.pattern)) {path : String}
    {R : Params} (hmatch : r.matchPath? path = some R)
    (hquery : ∀ cs q, r.matcher.captures? path = some cs → (queryParam, q) ∈ cs →
      ∀ k, (Query.parse q).contains k = true →
        k ∉ Node.paramsAll (parse o.pattern) ∧ isReserved k = false) :
    r.matchPath? (r.build (R.mapValues .text)) = some R := by
  have hpost : r.postMatch = none := (ofOptions_spec hr).2.2.2.1.trans h.postMatch
  rw [matchPath?_eq_readPath? hpost] at hmatch ⊢
  have hunnamed : ∀ cs q, r.matcher.captures? path = some cs → (queryParam, q) ∈ cs →
      ∀ k ∈ Node.paramsAll (parse o.pattern) ++ [slashParam, queryParam],
        (Query.parse q).contains k = false := by
    intro cs q hcs hq k hk
    rw [← Bool.not_eq_true]
    intro hnamed
    obtain ⟨hparam, hfree⟩ := hquery cs q hcs hq k hnamed
    rcases List.mem_append.1 hk with hk | hk
    · exact hparam hk
    · rw [isReserved, Bool.or_eq_false_iff, beq_eq_false_iff_ne, beq_eq_false_iff_ne] at hfree
      simp [hfree.1, hfree.2] at hk
  -- `c` comes from the template, `d` from the groups of every route
  obtain ⟨c, d, ⟨rest, hreading⟩, hd, hnodup, hget⟩ :=
    exists_reading_of_result h hr hmatch hunnamed
  have hmap : ∀ a, isReserved a = true → givenIn (R.mapValues .text) a = none := by
    intro a ha
    have hmem : a ∈ [slashParam, queryParam] := by
      rcases eq_of_isReserved ha with rfl | rfl
      · exact List.mem_cons_self
      · exact List.mem_cons_of_mem _ List.mem_cons_self
    rw [givenIn_mapValues, hget a (List.mem_append_right _ hmem), if_pos ha, h.defaults a ha]
    rfl
  have hall : ∀ a ∈ Node.paramsAll (parse o.pattern),
      (sortedOf r (R.mapValues .text)).all.get? a
        = ((c ++ d).filled.lookup a).or (o.defaults.get? a) := by
    intro a ha
    rw [get?_all_of_mem_parse h hr _ ha, givenIn_mapValues, hget a (List.mem_append_left _ ha)]
    simp [h.unreserved a ha]
  have hagrees : Agrees (sortedOf r (R.mapValues .text)).all o.defaults
      (Node.paramsAll (parse o.pattern)) c := by
    refine agrees_of_get? hall (Node.sublist_readingsAll _ hreading) hnodup fun a had => ?_
    intro ha
    have hfree := h.unreserved a ha
    rw [isReserved_of_mem_groups (hd.subset had)] at hfree
    exact absurd hfree (by decide)
  obtain ⟨R', hR', hvalues⟩ := readPath?_build h hr hmap fun f hf =>
    Node.regainedAll_of_reading (parse o.pattern)
      (fun a ha => readerIn_of_unreserved (h.unreserved a ha)) htrails h.distinct hreading hagrees
      (fun _ => hf.eq_of_head?)
  rw [hR']
  congr 1
  refine Dict.ext_get? fun k => ?_
  rw [hvalues, givenIn_mapValues, get?_or_default_of_readPath? hr hmatch]

/-- The page is its default and is not written again; the language comes from a default and stands
    in the query afterwards. -/
theorem matchPath?_build_docs :
    let o := (((Options.ofPattern "/docs(/<part>(/<page>))").withDefault "page" "1").withDefault
      "part" "intro").withDefault "lang" "en"
    ∃ r, ofOptions o = .ok r ∧ ∃ R, r.matchPath? "/docs/guide/1?x=y" = some R ∧
      r.matchPath? (r.build (R.mapValues .text)) = some R := by
  intro o
  have htree : parse o.pattern = [.literal "/docs", .group [.literal "/", .param "part",
      .group [.literal "/", .param "page"]]] := by decide +kernel
  have hplain : o.Plain := by
    refine ⟨rfl, rfl, rfl, by rw [htree]; decide +kernel, by rw [htree]; decide +kernel, ?_⟩
    intro a ha
    rcases eq_of_isReserved ha with rfl | rfl
    · decide +kernel
    · decide +kernel
  obtain ⟨r, hr⟩ : ∃ r, ofOptions o = .ok r := exists_of_isOk (by decide +kernel)
  have htrails : Node.TrailsAll (parse o.pattern) := by
    rw [htree]
    have hslash : ∀ ns, StartsGroup (.literal "/" :: ns) := fun ns =>
      ⟨'/', rfl, by decide, by decide⟩
    simp only [Node.TrailsAll, Node.Trails, EndsWord, hslash, and_self]
  have hcaptures : r.matcher.captures? "/docs/guide/1?x=y"
      = some [("part", "guide"), ("page", "1"), (queryParam, "x=y")] := by
    rw [captures?_eq hplain hr, (ofOptions_spec hr).2.1]
    decide +kernel
  obtain ⟨R, hR⟩ : ∃ R, r.matchPath? "/docs/guide/1?x=y" = some R := by
    rw [matchPath?_eq_readPath? (ofOptions_spec hr).2.2.2.1, readPath?, hcaptures]
    exact ⟨_, rfl⟩
  refine ⟨r, hr, R, hR, matchPath?_build_of_matchPath? hplain hr htrails hR ?_⟩
  intro cs q hcs hq k hk
  rw [hcaptures, Option.some.injEq] at hcs
  subst hcs
  have hq' : q = "x=y" := by simpa [queryParam] using hq
  have hparse : Query.parse "x=y" = Dict.empty.insert "x" "y" := by decide +kernel
  rw [hq', hparse, Dict.contains, Dict.get?_insert] at hk
  by_cases hx : k = "x"
  · rw [hx, htree]
    decide +kernel
  · rw [if_neg hx] at hk
    exact absurd hk Bool.false_ne_true

end Route

end Waymark
