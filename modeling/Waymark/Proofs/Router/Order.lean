/-
  Waymark.Proofs.Router.Order

  Routers resolve by the order in which their routes were added, whatever was done to them before.
  The first part says what a look-up finds among given routes: the first one that answers, and the
  first one of a name.  The second part says which routes a router has after a history of changes,
  some of which fail and leave it as it was.

  Main statement: `run_resolves`.
-/

import Waymark.Proofs.Json.Equality
import Waymark.Proofs.Options.Fields
import Waymark.Proofs.Regex.Fragment
import Waymark.Router
import Mathlib.Data.List.Induction

namespace Waymark

open Waymark.Json

/-! ## The first of its kind -/

/-- The first item of a list that has a property: it stands at some index, and no item at a lower
    index has the property. -/
def FirstWith {α : Type} (p : α → Prop) (as : List α) (a : α) : Prop :=
  ∃ i : Nat, as[i]? = some a ∧ p a ∧ ∀ j < i, ∀ b, as[j]? = some b → ¬ p b

section

variable {α : Type} {p : α → Prop} {a : α}

/-- Items behind the others do not change which one is the first. -/
theorem FirstWith.append {as : List α} (h : FirstWith p as a) (bs : List α) :
    FirstWith p (as ++ bs) a := by
  obtain ⟨i, hi, ha, hbefore⟩ := h
  have hlt : i < as.length := (List.getElem?_eq_some_iff.1 hi).1
  refine ⟨i, by rwa [List.getElem?_append_left hlt], ha, fun j hj b hb => ?_⟩
  rw [List.getElem?_append_left (by omega)] at hb
  exact hbefore j hj b hb

theorem FirstWith.mem {as : List α} (h : FirstWith p as a) : a ∈ as := by
  obtain ⟨i, hi, -⟩ := h
  exact List.mem_of_getElem? hi

/-- The first item does not change if the property does not, on the items of the list. -/
theorem FirstWith.imp {q : α → Prop} {as : List α} (h : FirstWith p as a)
    (hiff : ∀ b ∈ as, p b ↔ q b) : FirstWith q as a := by
  obtain ⟨i, hi, ha, hbefore⟩ := h
  refine ⟨i, hi, (hiff a (List.mem_of_getElem? hi)).1 ha, fun j hj b hb hq => ?_⟩
  exact hbefore j hj b hb ((hiff b (List.mem_of_getElem? hb)).2 hq)

/-- What is looked up by a test is the first item that has the property tested. -/
theorem find?_eq_some_iff_firstWith {test : α → Bool} (htest : ∀ b, test b = true ↔ p b)
    {as : List α} : as.find? test = some a ↔ FirstWith p as a := by
  rw [List.find?_eq_some_iff_getElem]
  constructor
  · rintro ⟨ha, i, hi, rfl, hbefore⟩
    refine ⟨i, List.getElem?_eq_getElem hi, (htest _).1 ha, fun j hj b hb hp => ?_⟩
    obtain ⟨_, rfl⟩ := List.getElem?_eq_some_iff.1 hb
    have hfails := hbefore j hj
    rw [(htest _).2 hp] at hfails
    exact absurd hfails (by decide)
  · rintro ⟨i, hi, ha, hbefore⟩
    obtain ⟨hlt, rfl⟩ := List.getElem?_eq_some_iff.1 hi
    refine ⟨(htest _).2 ha, i, hlt, rfl, fun j hj => ?_⟩
    rw [Bool.not_eq_true', Bool.eq_false_iff]
    exact fun h => hbefore j hj _ (List.getElem?_eq_getElem (Nat.lt_trans hj hlt)) ((htest _).1 h)

/-- What a partial function finds is its value at the first item where it has one. -/
theorem findSome?_eq_some_iff_firstWith {β : Type} {f : α → Option β} {b : β} {as : List α} :
    as.findSome? f = some b ↔
      ∃ a, FirstWith (fun x => (f x).isSome = true) as a ∧ f a = some b := by
  simp only [← find?_eq_some_iff_firstWith fun _ => Iff.rfl, List.find?_eq_some_iff_append,
    List.findSome?_eq_some_iff]
  constructor
  · rintro ⟨before, a, after, has, ha, hbefore⟩
    exact ⟨a, ⟨by rw [ha]; rfl, before, after, has, fun x hx => by rw [hbefore x hx]; rfl⟩, ha⟩
  · rintro ⟨a, ⟨-, before, after, has, hbefore⟩, ha⟩
    exact ⟨before, a, after, has, ha, fun x hx => by simpa using hbefore x hx⟩

end

/-! ## Answers of a route -/

namespace Route

/-- A route answers a request with parameters: every attribute of the request that the data of the
    route has too is equal there, the path (if there is one) is read, and the filter (if there is
    one) lets the parameters pass or replaces them. -/
structure Answers (r : Route) (q : Request) (ps : Params) : Prop where
  attributes : ∀ k v w, q.attributes.get? k = some v → r.data.get? k = some w →
    v.unsigned = w.unsigned
  params : ∃ found,
    (match q.path with
      | some path => r.readPath? path = some found
      | none => found = .empty) ∧
    (match r.postMatch with
      | some filter => filter found = some ps
      | none => found = ps)

theorem admits_iff {r : Route} {attributes : Dict Value} :
    r.admits attributes = true ↔ ∀ k v w, attributes.get? k = some v → r.data.get? k = some w →
      v.unsigned = w.unsigned := by
  rw [admits, List.all_eq_true]
  constructor
  · intro h k v w hv hw
    have hsame : (r.data.get? k).all (·.same v) = true := h (k, v) (Dict.mem_entries_iff.2 hv)
    rw [hw, Option.all_some, Value.same_iff] at hsame
    exact hsame.symm
  · rintro h ⟨k, v⟩ hmem
    cases hw : r.data.get? k with
    | none => simp [hw]
    | some w =>
      simp only [hw, Option.all_some]
      exact (Value.same_iff w v).2 (h k v w (Dict.mem_entries_iff.1 hmem) hw).symm

theorem match?_eq_some_iff {r : Route} {q : Request} {ps : Params} :
    r.match? q = some ps ↔ r.Answers q ps := by
  -- the attributes are asked before the path, and the route's own filter comes last
  have hcandidate : ∀ found, r.candidate? q = some found ↔ r.admits q.attributes = true ∧
      (match q.path with
        | some path => r.readPath? path = some found
        | none => found = .empty) := by
    intro found
    rw [candidate?]
    by_cases hadmits : r.admits q.attributes = true
    · cases q.path with
      | some path => simp [hadmits]
      | none => simp [hadmits, eq_comm]
    · simp [hadmits]
  have hfilter : ∀ found, r.filterResult found = some ps ↔
      (match r.postMatch with
        | some filter => filter found = some ps
        | none => found = ps) := by
    intro found
    rw [filterResult]
    cases r.postMatch with
    | some filter => rfl
    | none => simp
  rw [match?, Option.bind_eq_some_iff]
  constructor
  · rintro ⟨found, hfound, hps⟩
    obtain ⟨hadmits, hpath⟩ := (hcandidate found).1 hfound
    exact ⟨admits_iff.1 hadmits, found, hpath, (hfilter found).1 hps⟩
  · rintro ⟨hattributes, found, hpath, hps⟩
    exact ⟨found, (hcandidate found).2 ⟨admits_iff.2 hattributes, hpath⟩, (hfilter found).2 hps⟩

/-- The data of a route name it. -/
def Named (name : String) (r : Route) : Prop := r.data.get? nameKey = some (.text name)

theorem name?_eq_some_iff {r : Route} {name : String} : r.name? = some name ↔ r.Named name := by
  rw [name?, Named, Option.bind_eq_some_iff]
  constructor
  · rintro ⟨v, hv, htext⟩
    cases v with
    | text s => rw [hv, ← Option.some.inj htext]
    | _ => exact absurd htext (by simp [Value.text?])
  · intro h
    exact ⟨_, h, rfl⟩

end Route

namespace Router

/-! ## Look-ups -/

/-- Every look-up of a router goes by the order of its routes. -/
structure Resolves (t : Router) : Prop where
  /-- A request is answered by the first route that has an answer, with the answer of that route. -/
  match_some : ∀ q r ps, t.match? q = some (r, ps) ↔
    FirstWith (fun s => ∃ x, Route.Answers s q x) t.routes r ∧ r.Answers q ps
  /-- A request is not answered if no route has an answer. -/
  match_none : ∀ q, t.match? q = none ↔ ∀ r ∈ t.routes, ∀ ps, ¬ r.Answers q ps
  /-- A name stands for the first route of that name. -/
  find_some : ∀ name r, t.find? name = some r ↔ FirstWith (Route.Named name) t.routes r
  find_none : ∀ name, t.find? name = none ↔ ∀ r ∈ t.routes, ¬ r.Named name
  /-- Paths are written by the first route of a name. -/
  url : ∀ name params path, t.urlFor? name params = some path ↔
    ∃ r, FirstWith (Route.Named name) t.routes r ∧ r.build params = path
  urlTexts : ∀ name params path, t.urlForTexts? name params = some path ↔
    ∃ r, FirstWith (Route.Named name) t.routes r ∧ r.buildTexts params = path

theorem find?_eq_some_iff {t : Router} {name : String} {r : Route} :
    t.find? name = some r ↔ FirstWith (Route.Named name) t.routes r :=
  find?_eq_some_iff_firstWith fun s => by rw [beq_iff_eq, Route.name?_eq_some_iff]

theorem resolves (t : Router) : t.Resolves where
  match_some q r ps := by
    have hanswers : ∀ s : Route, ((s.match? q).map (s, ·)).isSome = true ↔ ∃ x, s.Answers q x := by
      intro s
      rw [Option.isSome_map, Option.isSome_iff_exists]
      simp only [Route.match?_eq_some_iff]
    rw [match?, findSome?_eq_some_iff_firstWith]
    simp only [hanswers, Option.map_eq_some_iff, Prod.mk.injEq]
    constructor
    · rintro ⟨s, hfirst, x, hx, rfl, rfl⟩
      exact ⟨hfirst, Route.match?_eq_some_iff.1 hx⟩
    · rintro ⟨hfirst, hps⟩
      exact ⟨r, hfirst, ps, Route.match?_eq_some_iff.2 hps, rfl, rfl⟩
  match_none q := by
    rw [match?, List.findSome?_eq_none_iff]
    refine forall₂_congr fun r _ => ?_
    rw [Option.map_eq_none_iff, Option.eq_none_iff_forall_ne_some]
    exact forall_congr' fun ps => not_congr Route.match?_eq_some_iff
  find_some name r := find?_eq_some_iff
  find_none name := by
    rw [find?, List.find?_eq_none]
    refine forall₂_congr fun r _ => ?_
    rw [beq_iff_eq, Route.name?_eq_some_iff]
  url name params path := by
    rw [urlFor?, Option.map_eq_some_iff]
    simp only [find?_eq_some_iff]
  urlTexts name params path := by
    rw [urlForTexts?, Option.map_eq_some_iff]
    simp only [find?_eq_some_iff]

/-- Every answer that a router gives is the answer of another router too. -/
structure AgreedBy (t u : Router) : Prop where
  match_some : ∀ q a, t.match? q = some a → u.match? q = some a
  find_some : ∀ name r, t.find? name = some r → u.find? name = some r
  url : ∀ name params path, t.urlFor? name params = some path → u.urlFor? name params = some path
  urlTexts : ∀ name params path,
    t.urlForTexts? name params = some path → u.urlForTexts? name params = some path

/-- More routes behind the others change no answer. -/
theorem agreedBy_of_routes {t u : Router} {more : List Route} (h : u.routes = t.routes ++ more) :
    t.AgreedBy u where
  match_some q a ha := by
    obtain ⟨hfirst, hps⟩ := (t.resolves.match_some q a.1 a.2).1 ha
    exact (u.resolves.match_some q a.1 a.2).2 ⟨h ▸ hfirst.append more, hps⟩
  find_some name r hr := by
    rw [find?_eq_some_iff] at hr ⊢
    exact h ▸ hr.append more
  url name params path hpath := by
    obtain ⟨r, hfirst, hbuild⟩ := (t.resolves.url name params path).1 hpath
    exact (u.resolves.url name params path).2 ⟨r, h ▸ hfirst.append more, hbuild⟩
  urlTexts name params path hpath := by
    obtain ⟨r, hfirst, hbuild⟩ := (t.resolves.urlTexts name params path).1 hpath
    exact (u.resolves.urlTexts name params path).2 ⟨r, h ▸ hfirst.append more, hbuild⟩

/-! ## Changes -/

/-- A change of a router.  Routes come as they were made, or as the reason why they were not. -/
inductive Change where
  /-- Starts anew without routes. -/
  | reset
  /-- Adds a route. -/
  | add (made : Except Error Route)
  /-- Adds several routes, if all of them were made. -/
  | addAll (made : List (Except Error Route))
  /-- Starts anew with the routes of a table in TOML text. -/
  | load (text : String)

/-- The router behind a change; one that fails leaves it as it was. -/
def after [Regex.Capacity] (t : Router) : Change → Router
  | .reset => .empty
  | .add made =>
    match made with
    | .ok r => t.add r
    | .error _ => t
  | .addAll made =>
    match made.mapM id with
    | .ok rs => t.addAll rs
    | .error _ => t
  | .load text =>
    match ofToml text with
    | .ok u => u
    | .error _ => t

/-- The router behind several changes. -/
def run [Regex.Capacity] (t : Router) (h : List Change) : Router := h.foldl after t

/-- A change starts anew, with these routes. -/
inductive Change.Starts [Regex.Capacity] : Change → List Route → Prop
  | reset : Starts .reset []
  | load {text : String} {os : List Options} {rs : List Route} :
    Options.listOfToml text = .ok os → List.Forall₂ (fun o r => Route.ofOptions o = .ok r) os rs →
    Starts (.load text) rs

/-- A change fails. -/
inductive Change.Fails [Regex.Capacity] : Change → Prop
  | add {e : Error} : Fails (.add (.error e))
  | addAll {made : List (Except Error Route)} {e : Error} : .error e ∈ made → Fails (.addAll made)
  /-- The table cannot be read. -/
  | table {text : String} {e : Error} : Options.listOfToml text = .error e → Fails (.load text)
  /-- A route of the table cannot be made. -/
  | route {text : String} {os : List Options} {o : Options} {e : Error} :
    Options.listOfToml text = .ok os → o ∈ os → Route.ofOptions o = .error e → Fails (.load text)

/-- A change adds these routes to those that are there; none if it fails. -/
inductive Change.Adds [Regex.Capacity] : Change → List Route → Prop
  | add {r : Route} : Adds (.add (.ok r)) [r]
  | addAll {made : List (Except Error Route)} {rs : List Route} :
    List.Forall₂ (fun m r => m = .ok r) made rs → Adds (.addAll made) rs
  | failed {c : Change} : c.Fails → Adds c []

theorem mapM_eq_ok_iff {α β ε : Type} {f : α → Except ε β} {as : List α} {bs : List β} :
    as.mapM f = .ok bs ↔ List.Forall₂ (fun a b => f a = .ok b) as bs :=
  mapM_eq_pure_iff Except.ok.inj bind_eq_ok

theorem mapM_eq_error {α β ε : Type} {f : α → Except ε β} {as : List α} {e : ε}
    (h : as.mapM f = .error e) : ∃ a ∈ as, f a = .error e := by
  induction as with
  | nil => exact absurd h (by simp [pure, Except.pure])
  | cons a as ih =>
    rw [List.mapM_cons] at h
    cases ha : f a with
    | error e' =>
      rw [ha] at h
      exact ⟨a, List.mem_cons_self, ha.trans (congrArg _ (Except.error.inj h))⟩
    | ok b =>
      cases has : as.mapM f with
      | error e' =>
        rw [ha, has] at h
        obtain ⟨x, hx, hfx⟩ := ih (has.trans (congrArg _ (Except.error.inj h)))
        exact ⟨x, List.mem_cons_of_mem _ hx, hfx⟩
      | ok bs =>
        rw [ha, has] at h
        exact absurd h (by simp [bind, Except.bind, pure, Except.pure])

/-- One item that fails makes all fail. -/
theorem exists_mapM_eq_error {α β ε : Type} {f : α → Except ε β} {as : List α} {a : α} {e : ε}
    (ha : a ∈ as) (hfa : f a = .error e) : ∃ e', as.mapM f = .error e' := by
  induction as with
  | nil => exact absurd ha List.not_mem_nil
  | cons b as ih =>
    rw [List.mapM_cons]
    rcases List.mem_cons.1 ha with rfl | ha
    · exact ⟨e, by rw [hfa]; rfl⟩
    · obtain ⟨e', he'⟩ := ih ha
      cases f b with
      | error e'' => exact ⟨e'', rfl⟩
      | ok c => exact ⟨e', by rw [he']; rfl⟩

theorem ofToml_eq_ok_iff [Regex.Capacity] {text : String} {t : Router} :
    ofToml text = .ok t ↔ ∃ os, Options.listOfToml text = .ok os ∧
      List.Forall₂ (fun o r => Route.ofOptions o = .ok r) os t.routes := by
  rw [ofToml, bind_eq_ok]
  refine exists_congr fun os => and_congr_right fun _ => ?_
  rw [ofOptions, bind_eq_ok, ← mapM_eq_ok_iff]
  constructor
  · rintro ⟨rs, hrs, ht⟩
    rw [← Except.ok.inj ht]
    exact hrs
  · intro h
    exact ⟨t.routes, h, rfl⟩

/-! ### One change -/

/-- A change that starts anew leaves nothing of what was there. -/
theorem routes_after_of_starts [Regex.Capacity] (t : Router) {c : Change} {rs : List Route}
    (h : c.Starts rs) :
    (t.after c).routes = rs := by
  cases h with
  | reset => rfl
  | @load text os rs hos hrs =>
    have hload : ofToml text = .ok ⟨rs⟩ := ofToml_eq_ok_iff.2 ⟨os, hos, hrs⟩
    rw [after, hload]

/-- A change that fails leaves the router as it was. -/
theorem after_of_fails [Regex.Capacity] (t : Router) {c : Change} (h : c.Fails) :
    t.after c = t := by
  cases h with
  | add => rfl
  | addAll he =>
    obtain ⟨e', he'⟩ := exists_mapM_eq_error (f := id) he rfl
    rw [after, he']
  | @table text e he =>
    have hload : ofToml text = .error e := by
      rw [ofToml, he]
      rfl
    rw [after, hload]
  | @route text os o e hos ho he =>
    obtain ⟨e', he'⟩ := exists_mapM_eq_error ho he
    have hload : ofToml text = .error e' := by
      rw [ofToml, hos]
      show ofOptions os = .error e'
      rw [ofOptions, he']
      rfl
    rw [after, hload]

theorem routes_after_of_adds [Regex.Capacity] (t : Router) {c : Change} {rs : List Route}
    (h : c.Adds rs) :
    (t.after c).routes = t.routes ++ rs := by
  cases h with
  | add => rfl
  | @addAll made rs hmade =>
    have hall : made.mapM id = .ok rs := mapM_eq_ok_iff.2 hmade
    rw [after, hall]
    rfl
  | failed hfails => rw [after_of_fails t hfails, List.append_nil]

/-- There is no other kind of change. -/
theorem Change.starts_or_adds [Regex.Capacity] (c : Change) :
    (∃ rs, c.Starts rs) ∨ ∃ rs, c.Adds rs := by
  cases c with
  | reset => exact Or.inl ⟨[], .reset⟩
  | add made =>
    cases made with
    | ok r => exact Or.inr ⟨[r], .add⟩
    | error e => exact Or.inr ⟨[], .failed .add⟩
  | addAll made =>
    cases hmade : made.mapM id with
    | ok rs => exact Or.inr ⟨rs, .addAll (mapM_eq_ok_iff.1 hmade)⟩
    | error e =>
      obtain ⟨x, hx, he⟩ := mapM_eq_error hmade
      rw [id] at he
      exact Or.inr ⟨[], .failed (.addAll (he ▸ hx))⟩
  | load text =>
    cases hos : Options.listOfToml text with
    | error e => exact Or.inr ⟨[], .failed (.table hos)⟩
    | ok os =>
      cases hrs : os.mapM Route.ofOptions with
      | error e =>
        obtain ⟨o, ho, he⟩ := mapM_eq_error hrs
        exact Or.inr ⟨[], .failed (.route hos ho he)⟩
      | ok rs => exact Or.inl ⟨rs, .load hos (mapM_eq_ok_iff.1 hrs)⟩

/-- A change that adds to what is there does not start anew. -/
theorem Change.Adds.not_starts [Regex.Capacity] {c : Change} {rs base : List Route}
    (h : c.Adds rs) :
    ¬ c.Starts base := by
  intro hstarts
  cases h with
  | add => nomatch hstarts
  | addAll => nomatch hstarts
  | failed hfails =>
    cases hstarts with
    | reset => nomatch hfails
    | load hos hrs =>
      cases hfails with
      | table he =>
        rw [hos] at he
        exact absurd he (by simp)
      | route hos' ho he =>
        rw [hos, Except.ok.injEq] at hos'
        obtain ⟨e', he'⟩ := exists_mapM_eq_error (hos' ▸ ho) he
        rw [mapM_eq_ok_iff.2 hrs] at he'
        exact absurd he' (by simp)

/-! ### Histories -/

theorem run_append [Regex.Capacity] (t : Router) (h more : List Change) :
    t.run (h ++ more) = (t.run h).run more :=
  List.foldl_append

/-- No change of these starts anew. -/
def NoStart [Regex.Capacity] (h : List Change) : Prop := ∀ c ∈ h, ∀ rs, ¬ Change.Starts c rs

/-- Changes none of which starts anew put their routes behind those that are there. -/
theorem routes_run_of_noStart [Regex.Capacity] {t : Router} {h : List Change} (hstart : NoStart h) :
    ∃ added, List.Forall₂ Change.Adds h added ∧ (t.run h).routes = t.routes ++ added.flatten := by
  induction h generalizing t with
  | nil => exact ⟨[], .nil, by simp [run]⟩
  | cons c h ih =>
    obtain ⟨hc, hh⟩ := List.forall_mem_cons.1 hstart
    obtain ⟨rs, hrs⟩ : ∃ rs, c.Adds rs :=
      c.starts_or_adds.resolve_left fun ⟨rs, hrs⟩ => hc rs hrs
    obtain ⟨added, hadded, hroutes⟩ := ih (t := t.after c) hh
    refine ⟨rs :: added, .cons hrs hadded, ?_⟩
    show ((t.after c).run h).routes = _
    rw [hroutes, routes_after_of_adds t hrs, List.flatten_cons, List.append_assoc]

/-- The end `since` of a history begins behind the last change that starts anew, which brings the
    routes `base`; if there is none it is the whole history. -/
inductive SinceStart [Regex.Capacity] : List Change → List Route → List Change → Prop
  | never {h : List Change} : NoStart h → SinceStart h [] h
  | start {before since : List Change} {c : Change} {base : List Route} :
    c.Starts base → NoStart since → SinceStart (before ++ c :: since) base since

theorem exists_sinceStart [Regex.Capacity] (h : List Change) :
    ∃ base since, SinceStart h base since := by
  induction h using List.reverseRecOn with
  | nil => exact ⟨[], [], .never fun c hc => absurd hc List.not_mem_nil⟩
  | append_singleton h c ih =>
    rcases c.starts_or_adds with ⟨rs, hc⟩ | ⟨rs, hc⟩
    · exact ⟨rs, [], .start hc fun c hc => absurd hc List.not_mem_nil⟩
    · -- the change goes on from the same start
      have hlater : ∀ {since : List Change}, NoStart since → NoStart (since ++ [c]) := by
        intro since hsince d hd
        rcases List.mem_append.1 hd with hd | hd
        · exact hsince d hd
        · rw [List.mem_singleton.1 hd]
          exact fun base => hc.not_starts
      obtain ⟨base, since, hsince⟩ := ih
      refine ⟨base, since ++ [c], ?_⟩
      cases hsince with
      | never hno => exact .never (hlater hno)
      | start hstarts hno =>
        rw [List.append_assoc, List.cons_append]
        exact .start hstarts (hlater hno)

/-- A router has the routes that its last start brought and those that were added since, in order. -/
theorem routes_run [Regex.Capacity] {h since : List Change} {base : List Route}
    (hsince : SinceStart h base since) :
    ∃ added, List.Forall₂ Change.Adds since added ∧
      (empty.run h).routes = base ++ added.flatten := by
  cases hsince with
  | never hno => exact routes_run_of_noStart hno
  | @start before since c base hstarts hno =>
    obtain ⟨added, hadded, hroutes⟩ :=
      routes_run_of_noStart (t := (empty.run before).after c) hno
    refine ⟨added, hadded, ?_⟩
    rw [run_append]
    show (((empty.run before).after c).run since).routes = _
    rw [hroutes, routes_after_of_starts _ hstarts]

/-- Whatever happened to a router, it has exactly the routes added since its last start, in order;
    every look-up goes by that order; and changes that do not start anew change no answer given. -/
theorem run_resolves [Regex.Capacity] (h : List Change) :
    (∃ base since added, SinceStart h base since ∧ List.Forall₂ Change.Adds since added ∧
      (empty.run h).routes = base ++ added.flatten) ∧
    (empty.run h).Resolves ∧
    ∀ more, NoStart more → (empty.run h).AgreedBy (empty.run (h ++ more)) := by
  refine ⟨?_, resolves _, fun more hmore => ?_⟩
  · obtain ⟨base, since, hsince⟩ := exists_sinceStart h
    obtain ⟨added, hadded, hroutes⟩ := routes_run hsince
    exact ⟨base, since, added, hsince, hadded, hroutes⟩
  · obtain ⟨added, -, hroutes⟩ := routes_run_of_noStart (t := empty.run h) hmore
    rw [run_append]
    exact agreedBy_of_routes hroutes

end Router

end Waymark
