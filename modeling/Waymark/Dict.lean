/-
  Waymark.Dict

  Finite maps from text to values: params, defaults, data and conditions are all of this shape.
  A map is its list of entries in strictly increasing key order, so a map has one form only:
  two maps that answer every look-up alike are equal (`Dict.ext_get?`), and no result depends on
  the order in which entries were written.
-/

namespace Waymark

/-- A finite map from text to `α`, as its entries in key order. -/
structure Dict (α : Type) where
  entries : List (String × α)
  sorted : entries.Pairwise (fun a b => a.1 < b.1)

namespace Dict

variable {α β : Type}

/-! ## Operations -/

/-- The map without entries. -/
def empty : Dict α := ⟨[], List.Pairwise.nil⟩

instance : EmptyCollection (Dict α) := ⟨empty⟩
instance : Inhabited (Dict α) := ⟨empty⟩

instance [DecidableEq α] : DecidableEq (Dict α) := fun a b =>
  if h : a.entries = b.entries then
    .isTrue (by cases a; cases b; cases h; rfl)
  else
    .isFalse (fun hab => h (hab ▸ rfl))

/-- The value under a key, if there is one. -/
def get? (d : Dict α) (k : String) : Option α := d.entries.lookup k

/-- Whether there is an entry under the key. -/
def contains (d : Dict α) (k : String) : Bool := (d.get? k).isSome

/-- Puts an entry at its place in a sorted list, over an entry of the same key. -/
def insertEntry (k : String) (v : α) : List (String × α) → List (String × α)
  | [] => [(k, v)]
  | e :: es =>
    if k < e.1 then (k, v) :: e :: es
    else if k = e.1 then (k, v) :: es
    else e :: insertEntry k v es

theorem mem_insertEntry {k : String} {v : α} {e : String × α} {es : List (String × α)}
    (h : e ∈ insertEntry k v es) : e = (k, v) ∨ e ∈ es := by
  induction es with
  | nil => simpa [insertEntry] using h
  | cons e' es ih =>
    simp only [insertEntry] at h
    split at h
    · simpa using h
    · split at h
      · rcases List.mem_cons.1 h with h | h
        · exact .inl h
        · exact .inr (List.mem_cons_of_mem _ h)
      · rcases List.mem_cons.1 h with h | h
        · exact .inr (h ▸ List.mem_cons_self)
        · exact (ih h).imp id (List.mem_cons_of_mem _)

theorem sorted_insertEntry (k : String) (v : α) {es : List (String × α)}
    (h : es.Pairwise (fun a b => a.1 < b.1)) :
    (insertEntry k v es).Pairwise (fun a b => a.1 < b.1) := by
  induction es with
  | nil => simp [insertEntry]
  | cons e es ih =>
    obtain ⟨he, hes⟩ := List.pairwise_cons.1 h
    simp only [insertEntry]
    split
    case isTrue hlt =>
      refine List.pairwise_cons.2 ⟨fun b hb => ?_, h⟩
      rcases List.mem_cons.1 hb with rfl | hb
      · exact hlt
      · exact String.lt_trans hlt (he b hb)
    case isFalse hlt =>
      split
      case isTrue heq => exact List.pairwise_cons.2 ⟨fun b hb => heq ▸ he b hb, hes⟩
      case isFalse hne =>
        refine List.pairwise_cons.2 ⟨fun b hb => ?_, ih hes⟩
        rcases mem_insertEntry hb with rfl | hb
        · rcases Std.lt_trichotomy k e.1 with h | h | h
          · exact absurd h hlt
          · exact absurd h hne
          · exact h
        · exact he b hb

/-- The map with `k` now leading to `v`. -/
def insert (d : Dict α) (k : String) (v : α) : Dict α :=
  ⟨insertEntry k v d.entries, sorted_insertEntry k v d.sorted⟩

/-- The map with `k` leading to `v` unless it already leads somewhere. -/
def insertNew (d : Dict α) (k : String) (v : α) : Dict α :=
  if d.contains k then d else d.insert k v

/-- The map without its entry under `k`. -/
def erase (d : Dict α) (k : String) : Dict α :=
  ⟨d.entries.filter (fun e => e.1 != k), d.sorted.filter _⟩

/-- The map of a list of entries; of entries with one key the last one counts. -/
def ofList (es : List (String × α)) : Dict α :=
  es.foldl (fun d e => d.insert e.1 e.2) empty

/-- The entries in key order. -/
def toList (d : Dict α) : List (String × α) := d.entries

/-- The first map, completed by the entries of the second under keys that it lacks. -/
def orElse (d e : Dict α) : Dict α :=
  e.entries.foldl (fun acc kv => acc.insertNew kv.1 kv.2) d

/-- The same keys with other values. -/
def mapValues (f : α → β) (d : Dict α) : Dict β :=
  ⟨d.entries.map (fun e => (e.1, f e.2)),
    List.pairwise_map.2 (d.sorted.imp (fun h => h))⟩

/-! ## Look-ups -/

theorem lookup_cons_ite (k k' : String) (v : α) (es : List (String × α)) :
    ((k, v) :: es).lookup k' = if k' = k then some v else es.lookup k' := by
  rw [List.lookup_cons]
  by_cases h : k' = k
  · simp [h]
  · simp [h, beq_eq_false_iff_ne.2 h]

theorem lookup_insertEntry (k k' : String) (v : α) (es : List (String × α)) :
    (insertEntry k v es).lookup k' = if k' = k then some v else es.lookup k' := by
  induction es with
  | nil => rw [insertEntry, lookup_cons_ite]
  | cons e es ih =>
    obtain ⟨ke, ve⟩ := e
    simp only [insertEntry]
    split
    · rw [lookup_cons_ite]
    · split
      case isTrue heq =>
        subst heq
        by_cases h : k' = k <;> simp [lookup_cons_ite, h]
      case isFalse hne =>
        by_cases h : k' = ke
        · subst h
          have : ¬ k' = k := fun h => hne h.symm
          simp [this]
        · simp [lookup_cons_ite, h, ih]

@[simp] theorem get?_empty (k : String) : (empty : Dict α).get? k = none := rfl

theorem get?_insert (d : Dict α) (k k' : String) (v : α) :
    (d.insert k v).get? k' = if k' = k then some v else d.get? k' :=
  lookup_insertEntry k k' v d.entries

@[simp] theorem get?_insert_self (d : Dict α) (k : String) (v : α) :
    (d.insert k v).get? k = some v := by simp [get?_insert]

theorem get?_insertNew (d : Dict α) (k k' : String) (v : α) :
    (d.insertNew k v).get? k' = (d.get? k').or (if k' = k then some v else none) := by
  unfold insertNew contains
  split
  case isTrue h =>
    by_cases hk : k' = k
    · subst hk
      obtain ⟨x, hx⟩ := Option.isSome_iff_exists.1 h
      simp [hx]
    · simp [hk]
  case isFalse h =>
    by_cases hk : k' = k
    · subst hk
      simp only [Bool.not_eq_true, Option.isSome_eq_false_iff, Option.isNone_iff_eq_none] at h
      simp [h]
    · simp [get?_insert, hk]

theorem lookup_filter_ne (k k' : String) (es : List (String × α)) :
    (es.filter (fun e => e.1 != k)).lookup k' = if k' = k then none else es.lookup k' := by
  induction es with
  | nil => simp
  | cons e es ih =>
    obtain ⟨ke, ve⟩ := e
    by_cases h : ke = k
    · rw [List.filter_cons_of_neg (by simp [h]), ih, lookup_cons_ite, h]
      split <;> rfl
    · rw [List.filter_cons_of_pos (by simpa using h), lookup_cons_ite, lookup_cons_ite, ih]
      by_cases hk : k' = ke
      · subst hk
        simp [h]
      · simp [hk]

theorem get?_erase (d : Dict α) (k k' : String) :
    (d.erase k).get? k' = if k' = k then none else d.get? k' :=
  lookup_filter_ne k k' d.entries

/-! ## One form only -/

theorem lookup_eq_none_of_lt {k : String} {es : List (String × α)}
    (h : ∀ e ∈ es, k < e.1) : es.lookup k = none := by
  induction es with
  | nil => rfl
  | cons e es ih =>
    have hne : (k == e.1) = false := by
      simpa using String.ne_of_lt (h e List.mem_cons_self)
    obtain ⟨ke, ve⟩ := e
    rw [List.lookup_cons, hne]
    exact ih (fun e he => h e (List.mem_cons_of_mem _ he))

theorem entries_eq_of_lookup_eq {es fs : List (String × α)}
    (hes : es.Pairwise (fun a b => a.1 < b.1)) (hfs : fs.Pairwise (fun a b => a.1 < b.1))
    (h : ∀ k, es.lookup k = fs.lookup k) : es = fs := by
  induction es generalizing fs with
  | nil =>
    cases fs with
    | nil => rfl
    | cons f fs =>
      obtain ⟨k, v⟩ := f
      have := h k
      simp at this
  | cons e es ih =>
    cases fs with
    | nil =>
      obtain ⟨k, v⟩ := e
      have := h k
      simp at this
    | cons f fs =>
      obtain ⟨he, hes'⟩ := List.pairwise_cons.1 hes
      obtain ⟨hf, hfs'⟩ := List.pairwise_cons.1 hfs
      obtain ⟨ke, ve⟩ := e
      obtain ⟨kf, vf⟩ := f
      -- otherwise the lesser of the two keys would be missing on the other side
      have hk : ke = kf := by
        rcases Std.lt_trichotomy ke kf with hlt | heq | hlt
        · have hnone : ((kf, vf) :: fs).lookup ke = none := lookup_eq_none_of_lt (fun e he' => by
            rcases List.mem_cons.1 he' with rfl | he'
            · exact hlt
            · exact String.lt_trans hlt (hf e he'))
          have := h ke
          rw [hnone] at this
          simp at this
        · exact heq
        · have hnone : ((ke, ve) :: es).lookup kf = none := lookup_eq_none_of_lt (fun e he' => by
            rcases List.mem_cons.1 he' with rfl | he'
            · exact hlt
            · exact String.lt_trans hlt (he e he'))
          have := h kf
          rw [hnone] at this
          simp at this
      subst hk
      have hv : ve = vf := by
        have := h ke
        simpa [lookup_cons_ite] using this
      subst hv
      congr 1
      refine ih hes' hfs' (fun k => ?_)
      -- the first key is in neither rest, and for all others the rests decide
      by_cases hk : k = ke
      · subst hk
        rw [lookup_eq_none_of_lt he, lookup_eq_none_of_lt hf]
      · have := h k
        simpa [lookup_cons_ite, hk] using this

/-- Maps that answer every look-up alike are equal. -/
theorem ext_get? {d e : Dict α} (h : ∀ k, d.get? k = e.get? k) : d = e := by
  obtain ⟨es, hes⟩ := d
  obtain ⟨fs, hfs⟩ := e
  have : es = fs := entries_eq_of_lookup_eq hes hfs h
  subst this
  rfl

end Dict

end Waymark
