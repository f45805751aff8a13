/-
  Waymark.Proofs.Dict

  Looking up in maps and in lists of entries.  Every operation on maps is known by what it does to
  look-ups; two maps with the same look-ups are the same map.
-/

import Waymark.Dict

namespace Waymark

namespace Dict

variable {α β : Type}

/-! ## Entries -/

theorem lookup_eq_none_of_not_mem {es : List (String × α)} {k : String}
    (h : k ∉ es.map (·.1)) : es.lookup k = none := by
  rw [List.lookup_eq_none_iff]
  intro e he
  have hne : k ≠ e.1 := by
    rintro rfl
    exact h (List.mem_map.2 ⟨e, he, rfl⟩)
  simpa using hne

theorem lookup_eq_some_of_mem {es : List (String × α)} (hes : (es.map (·.1)).Nodup)
    {e : String × α} (he : e ∈ es) : es.lookup e.1 = some e.2 := by
  induction es with
  | nil => exact absurd he List.not_mem_nil
  | cons f es ih =>
    obtain ⟨k, v⟩ := f
    rw [List.map_cons, List.nodup_cons] at hes
    rw [lookup_cons_ite]
    rcases List.mem_cons.1 he with rfl | he
    · rw [if_pos rfl]
    · have hne : e.1 ≠ k := by
        intro hk
        exact hes.1 (hk ▸ List.mem_map.2 ⟨e, he, rfl⟩)
      rw [if_neg hne, ih hes.2 he]

theorem mem_of_lookup_eq_some {es : List (String × α)} {k : String} {v : α}
    (h : es.lookup k = some v) : (k, v) ∈ es := by
  obtain ⟨as, bs, hsplit, -⟩ := List.lookup_eq_some_iff.1 h
  exact hsplit ▸ List.mem_append_right as List.mem_cons_self

theorem lookup_map (f : α → β) (es : List (String × α)) (k : String) :
    (es.map fun e => (e.1, f e.2)).lookup k = (es.lookup k).map f := by
  induction es with
  | nil => rfl
  | cons e es ih =>
    obtain ⟨ke, ve⟩ := e
    rw [List.map_cons, lookup_cons_ite, lookup_cons_ite, ih]
    by_cases hk : k = ke
    · rw [if_pos hk, if_pos hk, Option.map_some]
    · rw [if_neg hk, if_neg hk]

/-- Of entries that are computed from a list the first one with the key counts. -/
theorem lookup_map_eq_find? (f : β → String × α) (l : List β) (k : String) :
    (l.map f).lookup k = (l.find? fun b => (f b).1 == k).map fun b => (f b).2 := by
  induction l with
  | nil => rfl
  | cons b l ih =>
    rw [List.map_cons, lookup_cons_ite, List.find?_cons]
    by_cases hk : k = (f b).1
    · rw [if_pos hk, beq_iff_eq.2 hk.symm]
      rfl
    · rw [if_neg hk, beq_eq_false_iff_ne.2 (Ne.symm hk), ih]

theorem lookup_filter (keep : String → Bool) (k : String) (es : List (String × α)) :
    (es.filter fun e => keep e.1).lookup k = if keep k then es.lookup k else none := by
  induction es with
  | nil => rw [List.filter_nil, List.lookup_nil, ite_self]
  | cons e es ih =>
    obtain ⟨ke, ve⟩ := e
    rw [lookup_cons_ite, List.filter_cons]
    by_cases hk : k = ke
    · subst hk
      by_cases he : keep k = true
      · rw [if_pos he, if_pos he, lookup_cons_ite, if_pos rfl, if_pos rfl]
      · rw [if_neg he, ih, if_neg he, if_neg he]
    · rw [if_neg hk, ← ih]
      by_cases he : keep ke = true
      · rw [if_pos he, lookup_cons_ite, if_neg hk]
      · rw [if_neg he]

/-- Of entries with different keys the order does not matter. -/
theorem lookup_eq_of_perm {es fs : List (String × α)} (h : es.Perm fs)
    (hes : (es.map (·.1)).Nodup) (k : String) : es.lookup k = fs.lookup k := by
  have hfs : (fs.map (·.1)).Nodup := (h.map (·.1)).nodup_iff.1 hes
  refine Option.ext fun v => ⟨fun hv => ?_, fun hv => ?_⟩
  · exact lookup_eq_some_of_mem hfs (h.mem_iff.1 (mem_of_lookup_eq_some hv))
  · exact lookup_eq_some_of_mem hes (h.mem_iff.2 (mem_of_lookup_eq_some hv))

/-- Entries under different keys are looked up before their values are computed or dropped. -/
theorem lookup_filterMap (f : α → Option β) {es : List (String × α)} (hes : (es.map (·.1)).Nodup)
    (k : String) :
    (es.filterMap fun e => (f e.2).map (Prod.mk e.1)).lookup k = (es.lookup k).bind f := by
  induction es with
  | nil => rfl
  | cons e es ih =>
    obtain ⟨ke, ve⟩ := e
    rw [List.map_cons, List.nodup_cons] at hes
    rw [lookup_cons_ite, List.filterMap_cons]
    cases hv : f ve with
    | none =>
      rw [Option.map_none, ih hes.2]
      by_cases hk : k = ke
      · rw [if_pos hk, lookup_eq_none_of_not_mem (hk ▸ hes.1), Option.bind_some, hv]
        rfl
      · rw [if_neg hk]
    | some v =>
      rw [Option.map_some, lookup_cons_ite, ih hes.2]
      by_cases hk : k = ke
      · rw [if_pos hk, if_pos hk, Option.bind_some, hv]
      · rw [if_neg hk, if_neg hk]

theorem nodup_of_sorted {es : List (String × α)} (h : es.Pairwise fun a b => a.1 < b.1) :
    (es.map (·.1)).Nodup := by
  refine List.pairwise_map.2 (h.imp ?_)
  intro a b hab
  exact String.ne_of_lt hab

/-! ## Maps -/

/-- No key comes twice. -/
theorem nodup_keys (d : Dict α) : (d.entries.map (·.1)).Nodup := nodup_of_sorted d.sorted

theorem mem_entries_iff {d : Dict α} {k : String} {v : α} :
    (k, v) ∈ d.entries ↔ d.get? k = some v :=
  ⟨fun h => lookup_eq_some_of_mem d.nodup_keys h, mem_of_lookup_eq_some⟩

/-- Entries under new keys complete a map; of entries with one key the first one counts. -/
theorem get?_foldl_insertNew (es : List (String × α)) (d : Dict α) (k : String) :
    (es.foldl (fun d e => d.insertNew e.1 e.2) d).get? k = (d.get? k).or (es.lookup k) := by
  induction es generalizing d with
  | nil => rw [List.foldl_nil, List.lookup_nil, Option.or_none]
  | cons e es ih =>
    obtain ⟨ke, ve⟩ := e
    rw [List.foldl_cons, ih, get?_insertNew, Option.or_assoc, lookup_cons_ite]
    by_cases hk : k = ke
    · rw [if_pos hk, if_pos hk, Option.some_or]
    · rw [if_neg hk, if_neg hk, Option.none_or]

theorem get?_orElse (d e : Dict α) (k : String) :
    (d.orElse e).get? k = (d.get? k).or (e.get? k) :=
  get?_foldl_insertNew e.entries d k

/-- The entries of a map complete another one alike in every order. -/
theorem foldl_insertNew_of_perm {es : List (String × α)} {e : Dict α} (h : es.Perm e.entries)
    (d : Dict α) : es.foldl (fun d e => d.insertNew e.1 e.2) d = d.orElse e := by
  have hnodup : (es.map (·.1)).Nodup := (h.map (·.1)).nodup_iff.2 e.nodup_keys
  refine ext_get? fun k => ?_
  rw [get?_foldl_insertNew, get?_orElse, lookup_eq_of_perm h hnodup]
  rfl

theorem get?_mapValues (f : α → β) (d : Dict α) (k : String) :
    (d.mapValues f).get? k = (d.get? k).map f :=
  lookup_map f d.entries k

theorem get?_foldl_insert {es : List (String × α)} (hes : (es.map (·.1)).Nodup) (d : Dict α)
    (k : String) :
    (es.foldl (fun d e => d.insert e.1 e.2) d).get? k = (es.lookup k).or (d.get? k) := by
  induction es generalizing d with
  | nil => rfl
  | cons e es ih =>
    obtain ⟨ke, ve⟩ := e
    rw [List.map_cons, List.nodup_cons] at hes
    rw [List.foldl_cons, ih hes.2, get?_insert, lookup_cons_ite]
    by_cases hk : k = ke
    · rw [if_pos hk, if_pos hk, lookup_eq_none_of_not_mem (hk ▸ hes.1), Option.none_or,
        Option.some_or]
    · rw [if_neg hk, if_neg hk]

theorem mem_or_mem_of_mem_foldl_insert {es : List (String × α)} {d : Dict α} {e : String × α}
    (h : e ∈ (es.foldl (fun d e => d.insert e.1 e.2) d).entries) : e ∈ d.entries ∨ e ∈ es := by
  induction es generalizing d with
  | nil => exact Or.inl h
  | cons f es ih =>
    rcases ih h with hd | hes
    · rcases mem_insertEntry hd with rfl | hd
      · exact Or.inr List.mem_cons_self
      · exact Or.inl hd
    · exact Or.inr (List.mem_cons_of_mem f hes)

/-- The map of a list of entries has no others. -/
theorem mem_of_mem_ofList {es : List (String × α)} {e : String × α}
    (h : e ∈ (ofList es).entries) : e ∈ es :=
  (mem_or_mem_of_mem_foldl_insert h).resolve_left List.not_mem_nil

/-- The map of entries in order has just these entries. -/
theorem entries_ofList {es : List (String × α)} (h : es.Pairwise fun a b => a.1 < b.1) :
    (ofList es).entries = es := by
  refine entries_eq_of_lookup_eq (ofList es).sorted h fun k => ?_
  exact (get?_foldl_insert (nodup_of_sorted h) empty k).trans Option.or_none

theorem ofList_eq_iff {es : List (String × α)} (h : es.Pairwise fun a b => a.1 < b.1)
    {d : Dict α} : ofList es = d ↔ es = d.entries := by
  constructor
  · rintro rfl
    exact (entries_ofList h).symm
  · rintro rfl
    refine ext_get? fun k => ?_
    rw [get?, entries_ofList d.sorted, get?]

/-! ## Restricted maps -/

/-- The entries whose keys are kept. -/
def restrict (keep : String → Bool) (d : Dict α) : Dict α :=
  ⟨d.entries.filter fun e => keep e.1, d.sorted.filter _⟩

theorem get?_restrict (keep : String → Bool) (d : Dict α) (k : String) :
    (d.restrict keep).get? k = if keep k then d.get? k else none :=
  lookup_filter keep k d.entries

/-- The entries that have a value after the conversion. -/
def filterMap (f : α → Option β) (d : Dict α) : Dict β where
  entries := d.entries.filterMap fun e => (f e.2).map (Prod.mk e.1)
  sorted := by
    refine List.pairwise_filterMap.2 (d.sorted.imp ?_)
    intro a b hab c hc e he
    obtain ⟨v, -, rfl⟩ := Option.map_eq_some_iff.1 hc
    obtain ⟨w, -, rfl⟩ := Option.map_eq_some_iff.1 he
    exact hab

theorem get?_filterMap (f : α → Option β) (d : Dict α) (k : String) :
    (d.filterMap f).get? k = (d.get? k).bind f :=
  lookup_filterMap f d.nodup_keys k

end Dict

end Waymark
