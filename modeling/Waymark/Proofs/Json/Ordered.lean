/-
  Waymark.Proofs.Json.Ordered

  Values as they are held: every object in them lists its fields in strictly increasing order of
  their keys, so no key comes twice.  An `OrderedValue` carries that with it.  Whatever is read from
  a document is such a value, and the document of such a value is read as that value again.

  Main statements: `Document.ordered_valueOrNull`, `Value.ordered_of_read` and
  `Document.valueOrNull_ofValue`.
-/

import Waymark.Json.Document
import Waymark.Proofs.Dict

namespace Waymark.Json

/-! ## Order of fields -/

mutual

/-- The fields of every object in a value stand in order. -/
def Value.Ordered : Value → Prop
  | .null | .bool _ | .number _ | .text _ => True
  | .array vs => Value.OrderedItems vs
  | .object fs => fs.Pairwise (fun a b => a.1 < b.1) ∧ Value.OrderedFields fs

/-- The fields of every object in some values stand in order. -/
def Value.OrderedItems : List Value → Prop
  | [] => True
  | v :: vs => v.Ordered ∧ Value.OrderedItems vs

/-- The fields of every object in the values of some fields stand in order. -/
def Value.OrderedFields : List (String × Value) → Prop
  | [] => True
  | (_, v) :: fs => v.Ordered ∧ Value.OrderedFields fs

end

namespace Value

theorem orderedFields_iff {fs : List (String × Value)} :
    OrderedFields fs ↔ ∀ f ∈ fs, f.2.Ordered := by
  induction fs with
  | nil => simp [OrderedFields]
  | cons f fs ih =>
    obtain ⟨k, v⟩ := f
    rw [OrderedFields, ih, List.forall_mem_cons]

section

variable {fs : List (String × Value)}

theorem Ordered.sorted (h : (Value.object fs).Ordered) :
    fs.Pairwise fun a b => a.1 < b.1 := by
  rw [Ordered] at h
  exact h.1

theorem Ordered.of_mem (h : (Value.object fs).Ordered) {f : String × Value} (hf : f ∈ fs) :
    f.2.Ordered := by
  rw [Ordered, orderedFields_iff] at h
  exact h.2 f hf

theorem Ordered.of_lookup (h : (Value.object fs).Ordered) {k : String} {v : Value}
    (hv : fs.lookup k = some v) : v.Ordered :=
  h.of_mem (Dict.mem_of_lookup_eq_some hv)

/-- An object that is made of fields has them in order. -/
theorem ordered_ofFields (h : OrderedFields fs) : (Value.ofFields fs).Ordered := by
  rw [orderedFields_iff] at h
  rw [ofFields, Ordered, orderedFields_iff]
  exact ⟨(Dict.ofList fs).sorted, fun f hf => h f (Dict.mem_of_mem_ofList hf)⟩

end

end Value

/-- A value in which every object lists its fields in order. -/
structure OrderedValue where
  value : Value
  ordered : value.Ordered

/-- The fields of an object in such a value. -/
structure OrderedObject where
  fields : List (String × Value)
  ordered : (Value.object fields).Ordered

namespace OrderedObject

/-- The object as a value. -/
def toValue (ob : OrderedObject) : OrderedValue := ⟨.object ob.fields, ob.ordered⟩

/-- The field of a key. -/
def lookup? (ob : OrderedObject) (k : String) : Option OrderedValue :=
  (ob.fields.lookup k).pmap OrderedValue.mk fun _ => ob.ordered.of_lookup

@[simp] theorem map_value_lookup? (ob : OrderedObject) (k : String) :
    (ob.lookup? k).map (·.value) = ob.fields.lookup k := by
  rw [lookup?, Option.map_pmap, Option.pmap_eq_map, Option.map_id']

end OrderedObject

/-! ## Documents of values -/

namespace Document

theorem ofItems_eq_map (vs : List Value) : ofItems vs = vs.map ofValue := by
  induction vs with
  | nil => rw [ofItems, List.map_nil]
  | cons v vs ih => rw [ofItems, ih, List.map_cons]

theorem ofFields_eq_map (fs : List (String × Value)) :
    ofFields fs = fs.map fun f => (some f.1, ofValue f.2) := by
  induction fs with
  | nil => rw [ofFields, List.map_nil]
  | cons f fs ih => rw [ofFields, ih, List.map_cons]

mutual

/-- Whatever is read from a document is in order. -/
theorem ordered_valueOrNull (d : Document) : d.valueOrNull.Ordered := by
  cases d with
  | null | bool b => trivial
  | number n => cases n <;> trivial
  | text s => cases s <;> trivial
  | array ds =>
    rw [valueOrNull, Value.Ordered]
    exact ordered_itemsOrNull ds
  | object fs =>
    rw [valueOrNull]
    exact Value.ordered_ofFields (ordered_fieldsOrNull fs)

theorem ordered_itemsOrNull (ds : List Document) : Value.OrderedItems (itemsOrNull ds) := by
  cases ds with
  | nil => trivial
  | cons d ds => exact ⟨ordered_valueOrNull d, ordered_itemsOrNull ds⟩

theorem ordered_fieldsOrNull (fs : List (Option String × Document)) :
    Value.OrderedFields (fieldsOrNull fs) := by
  match fs with
  | [] => trivial
  | (some k, d) :: fs => exact ⟨ordered_valueOrNull d, ordered_fieldsOrNull fs⟩
  | (none, d) :: fs => exact ordered_fieldsOrNull fs

end

mutual

/-- Where all of a document has a value, none of it counts as null instead. -/
theorem valueOrNull_of_valueWithin {room : Nat} {d : Document} {v : Value}
    (h : d.valueWithin room = some v) : d.valueOrNull = v := by
  cases d with
  | null | bool b =>
    rw [valueWithin] at h
    exact Option.some.inj h
  | number n =>
    rw [valueWithin] at h
    rw [valueOrNull, h, Option.getD_some]
  | text s =>
    rw [valueWithin] at h
    rw [valueOrNull, h, Option.getD_some]
  | array ds =>
    cases room with
    | zero => cases h
    | succ room =>
      rw [valueWithin, Option.map_eq_some_iff] at h
      obtain ⟨vs, hvs, rfl⟩ := h
      rw [valueOrNull, itemsOrNull_of_itemsWithin hvs]
  | object fs =>
    cases room with
    | zero => cases h
    | succ room =>
      rw [valueWithin, Option.map_eq_some_iff] at h
      obtain ⟨vs, hvs, rfl⟩ := h
      rw [valueOrNull, fieldsOrNull_of_fieldsWithin hvs]

theorem itemsOrNull_of_itemsWithin {room : Nat} {ds : List Document} {vs : List Value}
    (h : itemsWithin room ds = some vs) : itemsOrNull ds = vs := by
  cases ds with
  | nil =>
    rw [itemsWithin] at h
    exact Option.some.inj h
  | cons d ds =>
    rw [itemsWithin] at h
    obtain ⟨v, hv, h⟩ := Option.bind_eq_some_iff.1 h
    obtain ⟨ws, hws, h⟩ := Option.bind_eq_some_iff.1 h
    rw [itemsOrNull, valueOrNull_of_valueWithin hv, itemsOrNull_of_itemsWithin hws]
    exact Option.some.inj h

theorem fieldsOrNull_of_fieldsWithin {room : Nat} {fs : List (Option String × Document)}
    {vs : List (String × Value)} (h : fieldsWithin room fs = some vs) : fieldsOrNull fs = vs := by
  match fs with
  | [] =>
    rw [fieldsWithin] at h
    exact Option.some.inj h
  | (none, d) :: fs =>
    rw [fieldsWithin] at h
    cases h
  | (some k, d) :: fs =>
    rw [fieldsWithin] at h
    obtain ⟨_, ⟨⟩, h⟩ := Option.bind_eq_some_iff.1 h
    obtain ⟨v, hv, h⟩ := Option.bind_eq_some_iff.1 h
    obtain ⟨ws, hws, h⟩ := Option.bind_eq_some_iff.1 h
    rw [fieldsOrNull, valueOrNull_of_valueWithin hv, fieldsOrNull_of_fieldsWithin hws]
    exact Option.some.inj h

end

mutual

/-- Nothing in the document of a value lacks a value. -/
theorem valueOrNull_ofValue {v : Value} (hv : v.Ordered) : (ofValue v).valueOrNull = v := by
  cases v with
  | null => rw [ofValue, valueOrNull]
  | bool b => rw [ofValue, valueOrNull]
  | number n => rw [ofValue, valueOrNull, Option.map_some, Option.getD_some]
  | text s => rw [ofValue, valueOrNull, Option.map_some, Option.getD_some]
  | array vs =>
    rw [Value.Ordered] at hv
    rw [ofValue, valueOrNull, itemsOrNull_ofItems hv]
  | object fs =>
    rw [Value.Ordered] at hv
    rw [ofValue, valueOrNull, fieldsOrNull_ofFields hv.2, Value.ofFields,
      Dict.entries_ofList hv.1]

theorem itemsOrNull_ofItems {vs : List Value} (hvs : Value.OrderedItems vs) :
    itemsOrNull (ofItems vs) = vs := by
  cases vs with
  | nil => rw [ofItems, itemsOrNull]
  | cons v vs =>
    rw [Value.OrderedItems] at hvs
    rw [ofItems, itemsOrNull, valueOrNull_ofValue hvs.1, itemsOrNull_ofItems hvs.2]

theorem fieldsOrNull_ofFields {fs : List (String × Value)} (hfs : Value.OrderedFields fs) :
    fieldsOrNull (ofFields fs) = fs := by
  cases fs with
  | nil => rw [ofFields, fieldsOrNull]
  | cons f fs =>
    obtain ⟨k, v⟩ := f
    rw [Value.OrderedFields] at hfs
    rw [ofFields, fieldsOrNull, valueOrNull_ofValue hfs.1, fieldsOrNull_ofFields hfs.2]

end

end Document

/-- A value that is read from a text is in order. -/
theorem Value.ordered_of_read {s : String} {v : Value} (h : Value.read s = some v) :
    v.Ordered := by
  obtain ⟨d, -, hd⟩ := Option.bind_eq_some_iff.1 h
  exact Document.valueOrNull_of_valueWithin hd ▸ d.ordered_valueOrNull

end Waymark.Json
