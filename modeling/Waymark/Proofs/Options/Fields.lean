/-
  Waymark.Proofs.Options.Fields

  Options in the fields of an object.  `Describes` says which options an object gives, without
  saying how they are read: each option by the field of its name, or its default; the option about
  the slash by the only field under one of its names.

  Main statements:

    * `ofDocument?_ofValue_iff`: an object is read as the options that it describes.
    * `exists_describes_iff`: it describes some if its fields have the right shapes.
-/

import Waymark.Options.Decode
import Waymark.Proofs.Json.Ordered
import Mathlib.Data.List.Forall2
import Mathlib.Data.List.Perm.Basic
import Mathlib.Data.List.Nodup

namespace Waymark

open Waymark.Json

/-! ## Lists of results -/

/-- The results of a list, in a monad in which results can be told apart from failures: every item
    has its own. -/
theorem mapM_eq_pure_iff {m : Type → Type} [Monad m] [LawfulMonad m]
    (hpure : ∀ {γ : Type} {a b : γ}, (pure a : m γ) = pure b → a = b)
    (hbind : ∀ {γ δ : Type} {x : m γ} {f : γ → m δ} {b : δ},
      x >>= f = pure b ↔ ∃ a, x = pure a ∧ f a = pure b)
    {α β : Type} {f : α → m β} {as : List α} {bs : List β} :
    as.mapM f = pure bs ↔ List.Forall₂ (fun a b => f a = pure b) as bs := by
  induction as generalizing bs with
  | nil =>
    rw [List.mapM_nil, List.forall₂_nil_left_iff]
    exact ⟨fun h => (hpure h).symm, fun h => h ▸ rfl⟩
  | cons a as ih =>
    rw [List.mapM_cons, hbind, List.forall₂_cons_left_iff]
    refine exists_congr fun b => ?_
    rw [hbind]
    constructor
    · rintro ⟨hb, cs, hcs, hbs⟩
      exact ⟨cs, hb, ih.1 hcs, (hpure hbs).symm⟩
    · rintro ⟨cs, hb, hcs, rfl⟩
      exact ⟨hb, cs, ih.2 hcs, rfl⟩

theorem mapM_eq_some_iff {α β : Type} {f : α → Option β} {as : List α} {bs : List β} :
    as.mapM f = some bs ↔ List.Forall₂ (fun a b => f a = some b) as bs :=
  mapM_eq_pure_iff Option.some.inj Option.bind_eq_some_iff

theorem forall₂_congr_of_mem {α β : Type} {R S : α → β → Prop} {as : List α} {bs : List β}
    (h : ∀ a ∈ as, ∀ b, R a b ↔ S a b) : List.Forall₂ R as bs ↔ List.Forall₂ S as bs := by
  induction as generalizing bs with
  | nil => rw [List.forall₂_nil_left_iff, List.forall₂_nil_left_iff]
  | cons a as ih =>
    rw [List.forall_mem_cons] at h
    rw [List.forall₂_cons_left_iff, List.forall₂_cons_left_iff]
    refine exists_congr fun b => exists_congr fun cs => ?_
    rw [h.1 b, ih h.2]

theorem exists_forall₂_iff {α β : Type} {R : α → β → Prop} {as : List α} :
    (∃ bs, List.Forall₂ R as bs) ↔ ∀ a ∈ as, ∃ b, R a b := by
  induction as with
  | nil => simp
  | cons a as ih =>
    rw [List.forall_mem_cons, ← ih]
    constructor
    · rintro ⟨bs, hbs⟩
      obtain ⟨b, cs, hb, hcs, -⟩ := List.forall₂_cons_left_iff.1 hbs
      exact ⟨⟨b, hb⟩, cs, hcs⟩
    · rintro ⟨⟨b, hb⟩, cs, hcs⟩
      exact ⟨b :: cs, .cons hb hcs⟩

namespace Options

/-! ## What an object says -/

section

variable {α : Type}

/-- A name is a text; null is no name. -/
inductive NameOf : Value → Option String → Prop where
  | null : NameOf .null none
  | text (s : String) : NameOf (.text s) (some s)

/-- A condition is an expression or a list of the values allowed. -/
inductive ConditionOf : Value → Condition → Prop where
  | expression (s : String) : ConditionOf (.text s) (.expression s)
  | oneOf (ss : List String) : ConditionOf (.array (ss.map .text)) (.oneOf ss)

/-- A map is an object with the same keys, whose values stand for those of the map. -/
inductive MapOf (R : Value → α → Prop) : Value → Dict α → Prop where
  | object {fs : List (String × Value)} {d : Dict α}
      (h : List.Forall₂ (fun f e => f.1 = e.1 ∧ R f.2 e.2) fs d.entries) : MapOf R (.object fs) d

/-- What a field says about an option; without a field the option has its default. -/
def Says (R : Value → α → Prop) (default : α) : Option Value → α → Prop
  | none, a => a = default
  | some v, a => R v a

/-- What is given for the slash at the end, under any of its names. -/
def slashValues (fs : List (String × Value)) : List Value := slashNames.filterMap fun k => fs.lookup k

/-- The fields of an object give these options. -/
structure Describes (fs : List (String × Value)) (o : Options) : Prop where
  pattern : fs.lookup "pattern" = some (.text o.pattern)
  name : Says NameOf none (fs.lookup "name") o.name
  conditions : Says (MapOf ConditionOf) .empty (fs.lookup "conditions") o.conditions
  defaults : Says (MapOf fun v s => v = .text s) .empty (fs.lookup "defaults") o.defaults
  data : Says (MapOf Eq) .empty (fs.lookup "data") o.data
  once : (slashValues fs).length ≤ 1
  slashOptional : Says (fun v b => v = .bool b) true (slashValues fs).head? o.slashOptional
  postMatch : o.postMatch = none
  preBuild : o.preBuild = none

/-- The fields that options are read from. -/
def fieldNames : List String :=
  ["pattern", "name", "conditions", "defaults", "data"] ++ slashNames

/-- Fields that no option is read from do not matter. -/
theorem Describes.congr {fs gs : List (String × Value)} {o : Options} (h : Describes fs o)
    (hsame : ∀ k ∈ fieldNames, fs.lookup k = gs.lookup k) : Describes gs o := by
  have hslash : slashValues gs = slashValues fs :=
    List.filterMap_congr fun k hk => (hsame k (List.mem_append_right _ hk)).symm
  constructor
  case pattern => exact hsame "pattern" (by decide) ▸ h.pattern
  case name => exact hsame "name" (by decide) ▸ h.name
  case conditions => exact hsame "conditions" (by decide) ▸ h.conditions
  case defaults => exact hsame "defaults" (by decide) ▸ h.defaults
  case data => exact hsame "data" (by decide) ▸ h.data
  case once => exact hslash ▸ h.once
  case slashOptional => exact hslash ▸ h.slashOptional
  case postMatch => exact h.postMatch
  case preBuild => exact h.preBuild

/-! ## Readers -/

/-- A reader takes from the document of a value just what the value stands for. -/
def Reads (read : Document → Option α) (R : Value → α → Prop) : Prop :=
  ∀ (v : OrderedValue) (a : α), read (.ofValue v.value) = some a ↔ R v.value a

theorem text?_ofValue {v : Value} {s : String} :
    (Document.ofValue v).text? = some s ↔ v = .text s := by
  cases v <;> simp [Document.ofValue, Document.text?]

theorem reads_text : Reads Document.text? fun v s => v = .text s :=
  fun _ _ => text?_ofValue

theorem reads_flag : Reads readFlag fun v b => v = .bool b := by
  rintro ⟨v, -⟩ b
  cases v <;> simp [Document.ofValue, readFlag]

theorem reads_name : Reads readName NameOf := by
  rintro ⟨v, -⟩ n
  constructor
  · intro h
    cases v with
    | null =>
      cases h
      exact .null
    | text s =>
      cases h
      exact .text s
    | _ => exact absurd h (by simp [Document.ofValue, readName, Document.text?])
  · rintro (_ | s)
    · rfl
    · rfl

theorem mapM_text?_ofItems {vs : List Value} {ss : List String} :
    (Document.ofItems vs).mapM Document.text? = some ss ↔ vs = ss.map .text := by
  rw [Document.ofItems_eq_map, mapM_eq_some_iff, List.forall₂_map_left_iff,
    ← List.forall₂_eq_eq_eq, List.forall₂_map_right_iff]
  exact forall₂_congr_of_mem fun v _ s => text?_ofValue

theorem reads_condition : Reads Condition.ofDocument? ConditionOf := by
  rintro ⟨v, -⟩ c
  cases v with
  | text s =>
    constructor
    · intro h
      cases h
      exact .expression s
    · rintro ⟨⟩
      rfl
  | array vs =>
    have hread : Condition.ofDocument? (.ofValue (.array vs)) = some c ↔
        ∃ ss : List String, vs = ss.map .text ∧ Condition.oneOf ss = c := by
      rw [Document.ofValue, Condition.ofDocument?, Option.map_eq_some_iff]
      refine exists_congr fun ss => and_congr_left fun _ => ?_
      exact mapM_text?_ofItems
    rw [hread]
    constructor
    · rintro ⟨ss, rfl, rfl⟩
      exact .oneOf ss
    · rintro ⟨⟩
      exact ⟨_, rfl, rfl⟩
  | _ =>
    refine ⟨fun h => absurd h (by simp [Document.ofValue, Condition.ofDocument?]), ?_⟩
    rintro ⟨⟩

/-- Values in an object are read as themselves. -/
theorem reads_value : Reads valueDialect.value? Eq := by
  intro v w
  show some (Document.valueOrNull (.ofValue v.value)) = some w ↔ v.value = w
  rw [Document.valueOrNull_ofValue v.ordered, Option.some.injEq]

theorem fields?_ofValue (fs : List (String × Value)) :
    (Document.ofValue (.object fs)).fields? = some (fs.map fun f => (f.1, Document.ofValue f.2)) := by
  rw [Document.ofValue, Document.ofFields_eq_map, Document.fields?, mapM_eq_some_iff,
    List.forall₂_map_left_iff, List.forall₂_map_right_iff, List.forall₂_same]
  intro f _
  rfl

/-- Entries with the keys of fields in order are in order too. -/
theorem sorted_of_forall₂ {β : Type} {fs : List (String × β)} {es : List (String × α)}
    (hfs : fs.Pairwise fun a b => a.1 < b.1) (h : List.Forall₂ (fun f e => f.1 = e.1) fs es) :
    es.Pairwise fun a b => a.1 < b.1 := by
  have hkeys : fs.map (·.1) = es.map (·.1) := by
    rw [← List.forall₂_eq_eq_eq, List.forall₂_map_left_iff, List.forall₂_map_right_iff]
    exact h
  have hsorted : (es.map (·.1)).Pairwise (· < ·) := by
    rw [← hkeys, List.pairwise_map]
    exact hfs
  exact List.pairwise_map.1 hsorted

/-- The map that is read from an object has the entries that its fields stand for. -/
theorem dict?_ofValue_iff {read : Document → Option α} {fs : List (String × Value)}
    (hfs : fs.Pairwise fun a b => a.1 < b.1) {d : Dict α} :
    Document.dict? read (.ofValue (.object fs)) = some d ↔
      List.Forall₂ (fun f e => f.1 = e.1 ∧ read (.ofValue f.2) = some e.2) fs d.entries := by
  have hentries : ∀ es, (fs.map fun f => (f.1, Document.ofValue f.2)).mapM
      (fun f => (read f.2).map (f.1, ·)) = some es ↔
        List.Forall₂ (fun f e => f.1 = e.1 ∧ read (.ofValue f.2) = some e.2) fs es := by
    intro es
    rw [mapM_eq_some_iff, List.forall₂_map_left_iff]
    refine forall₂_congr_of_mem fun f _ e => ?_
    rw [Option.map_eq_some_iff]
    constructor
    · rintro ⟨a, ha, rfl⟩
      exact ⟨rfl, ha⟩
    · rintro ⟨hk, ha⟩
      exact ⟨e.2, ha, Prod.ext hk rfl⟩
  have hdict : Document.dict? read (.ofValue (.object fs)) = some d ↔
      ∃ es, List.Forall₂ (fun f e => f.1 = e.1 ∧ read (.ofValue f.2) = some e.2) fs es ∧
        Dict.ofList es = d := by
    rw [Document.dict?, fields?_ofValue]
    show ((fs.map fun f => (f.1, Document.ofValue f.2)).mapM
      (fun f => (read f.2).map (f.1, ·))).bind (fun es => some (Dict.ofList es)) = some d ↔ _
    rw [Option.bind_eq_some_iff]
    refine exists_congr fun es => ?_
    rw [hentries, Option.some.injEq]
  rw [hdict]
  -- the fields are in order, so putting the entries in order changes nothing
  constructor
  · rintro ⟨es, hes, hd⟩
    have hsorted := sorted_of_forall₂ hfs (hes.imp fun _ _ h => h.1)
    rw [Dict.ofList_eq_iff hsorted] at hd
    exact hd ▸ hes
  · intro hes
    exact ⟨d.entries, hes, (Dict.ofList_eq_iff d.sorted).2 rfl⟩

theorem Reads.dict {read : Document → Option α} {R : Value → α → Prop} (h : Reads read R) :
    Reads (Document.dict? read) (MapOf R) := by
  rintro ⟨v, hv⟩ d
  cases v with
  | object fs =>
    have hfields : ∀ f ∈ fs, ∀ a, read (.ofValue f.2) = some a ↔ R f.2 a :=
      fun f hf => h ⟨f.2, hv.of_mem hf⟩
    rw [dict?_ofValue_iff hv.sorted,
      forall₂_congr_of_mem fun f hf e => and_congr_right fun _ => hfields f hf e.2]
    constructor
    · exact .object
    · rintro ⟨hes⟩
      exact hes
  | _ =>
    refine ⟨fun hd => absurd hd (by simp [Document.ofValue, Document.dict?, Document.fields?]), ?_⟩
    rintro ⟨⟩

theorem Reads.optional {read : Document → Option α} {R : Value → α → Prop} (h : Reads read R)
    {d : Option OrderedValue} {default a : α} :
    Options.optional (d.map fun v => .ofValue v.value) default read = some a ↔
      Says R default (d.map (·.value)) a := by
  cases d with
  | none => exact ⟨fun h => (Option.some.inj h).symm, fun h => h ▸ rfl⟩
  | some v => exact h v a

end

/-! ## Fields under several names -/

section

variable {α : Type}

/-- The fields under some names are what is found under these names. -/
theorem perm_filterMap_lookup {fs : List (String × α)} (hfs : (fs.map (·.1)).Nodup)
    {names : List String} (hnames : names.Nodup) :
    ((fs.filter fun f => names.contains f.1).map (·.2)).Perm
      (names.filterMap fun k => fs.lookup k) := by
  have hperm : (fs.filter fun f => names.contains f.1).Perm
      (names.filterMap fun k => (fs.lookup k).map (k, ·)) := by
    -- no key and no name comes twice, so it is enough that the members are the same
    refine (List.perm_ext_iff_of_nodup ((List.Nodup.of_map _ hfs).filter _) ?_).2 ?_
    · refine hnames.filterMap fun k l f hk hl => ?_
      obtain ⟨a, -, rfl⟩ := Option.map_eq_some_iff.1 hk
      obtain ⟨b, -, hb⟩ := Option.map_eq_some_iff.1 hl
      exact (congrArg Prod.fst hb).symm
    · intro f
      rw [List.mem_filter, List.contains_iff_mem, List.mem_filterMap]
      constructor
      · rintro ⟨hf, hk⟩
        refine ⟨f.1, hk, ?_⟩
        rw [Dict.lookup_eq_some_of_mem hfs hf, Option.map_some]
      · rintro ⟨k, hk, hf⟩
        obtain ⟨a, ha, rfl⟩ := Option.map_eq_some_iff.1 hf
        exact ⟨Dict.mem_of_lookup_eq_some ha, hk⟩
  have hmap := hperm.map (·.2)
  rw [List.map_filterMap] at hmap
  simpa [Function.comp_def] using hmap

end

section

variable {fs : List (String × Document)}

theorem only_eq_some_iff (hfs : (fs.map (·.1)).Nodup) {names : List String}
    (hnames : names.Nodup) {d : Option Document} :
    only fs names = some d ↔ (names.filterMap fun k => fs.lookup k).length ≤ 1 ∧
      (names.filterMap fun k => fs.lookup k).head? = d := by
  have hperm := perm_filterMap_lookup hfs hnames
  rw [only]
  cases hfound : fs.filter fun f => names.contains f.1 with
  | nil =>
    rw [hfound, List.map_nil, List.nil_perm] at hperm
    simp [hperm]
  | cons f gs =>
    cases gs with
    | nil =>
      rw [hfound, List.map_cons, List.map_nil, List.singleton_perm] at hperm
      simp [← hperm]
    | cons g gs =>
      -- two fields are found, so at least two names lead somewhere
      have hlength := hperm.length_eq
      rw [hfound, List.length_map, List.length_cons, List.length_cons] at hlength
      refine ⟨fun h => absurd h (by simp), fun h => ?_⟩
      omega

theorem only_single (hfs : (fs.map (·.1)).Nodup) (k : String) {d : Option Document} :
    only fs [k] = some d ↔ fs.lookup k = d := by
  rw [only_eq_some_iff hfs (List.nodup_singleton k)]
  cases hk : fs.lookup k <;> simp [hk]

/-- The options of an object are its fields under their names. -/
theorem Given.ofFields_eq_some_iff (hfs : (fs.map (·.1)).Nodup) {g : Given} :
    Given.ofFields fs = some g ↔
      fs.lookup "pattern" = g.pattern ∧ fs.lookup "name" = g.name ∧
      fs.lookup "conditions" = g.conditions ∧ fs.lookup "defaults" = g.defaults ∧
      fs.lookup "data" = g.data ∧ (slashNames.filterMap fun k => fs.lookup k).length ≤ 1 ∧
      (slashNames.filterMap fun k => fs.lookup k).head? = g.slashOptional := by
  rw [Given.ofFields]
  simp only [Option.bind_eq_bind, Option.bind_eq_some_iff, Option.pure_def, Option.some.injEq,
    only_single hfs, only_eq_some_iff hfs (show slashNames.Nodup by decide)]
  constructor
  · rintro ⟨_, rfl, _, rfl, _, rfl, _, rfl, _, rfl, _, ⟨honce, rfl⟩, rfl⟩
    exact ⟨rfl, rfl, rfl, rfl, rfl, honce, rfl⟩
  · rintro ⟨hpattern, hname, hconditions, hdefaults, hdata, honce, hslash⟩
    exact ⟨_, hpattern, _, hname, _, hconditions, _, hdefaults, _, hdata, _, ⟨honce, hslash⟩, rfl⟩

end

/-- Options are read field by field. -/
theorem Given.read_eq_some_iff {dialect : Dialect} {g : Given} {o : Options} :
    g.read dialect = some o ↔
      g.pattern.bind Document.text? = some o.pattern ∧
      optional g.name none readName = some o.name ∧
      optional g.conditions .empty (Document.dict? Condition.ofDocument?) = some o.conditions ∧
      optional g.defaults .empty (Document.dict? Document.text?) = some o.defaults ∧
      optional g.data .empty (Document.dict? dialect.value?) = some o.data ∧
      optional g.slashOptional true readFlag = some o.slashOptional ∧
      o.postMatch = none ∧ o.preBuild = none := by
  obtain ⟨pattern, name, conditions, defaults, data, slashOptional, postMatch, preBuild⟩ := o
  rw [Given.read]
  simp only [Option.bind_eq_bind, Option.bind_eq_some_iff, Option.pure_def, Option.some.injEq,
    Options.mk.injEq]
  constructor
  · rintro ⟨d, hd, _, hpattern, _, hname, _, hconditions, _, hdefaults, _, hdata, _, hslash,
      rfl, rfl, rfl, rfl, rfl, rfl, hpost, hpre⟩
    exact ⟨⟨d, hd, hpattern⟩, hname, hconditions, hdefaults, hdata, hslash, hpost.symm, hpre.symm⟩
  · rintro ⟨⟨d, hd, hpattern⟩, hname, hconditions, hdefaults, hdata, hslash, rfl, rfl⟩
    exact ⟨d, hd, _, hpattern, _, hname, _, hconditions, _, hdefaults, _, hdata, _, hslash,
      rfl, rfl, rfl, rfl, rfl, rfl, rfl, rfl⟩

/-! ## Reading an object -/

section

variable {o : Options}

/-- The documents that options are read from. -/
def givenBy (fs : List (String × Value)) : Given where
  pattern := (fs.lookup "pattern").map .ofValue
  name := (fs.lookup "name").map .ofValue
  conditions := (fs.lookup "conditions").map .ofValue
  defaults := (fs.lookup "defaults").map .ofValue
  data := (fs.lookup "data").map .ofValue
  slashOptional := (slashValues fs).head?.map .ofValue

theorem ofFields_ofValue_iff {fs : List (String × Value)} (hfs : fs.Pairwise fun a b => a.1 < b.1)
    {g : Given} :
    Given.ofFields (fs.map fun f => (f.1, Document.ofValue f.2)) = some g ↔
      (slashValues fs).length ≤ 1 ∧ givenBy fs = g := by
  have hkeys : ((fs.map fun f => (f.1, Document.ofValue f.2)).map (·.1)).Nodup := by
    rw [List.map_map]
    exact Dict.nodup_of_sorted hfs
  have hslash : (slashNames.filterMap fun k =>
      (fs.map fun f => (f.1, Document.ofValue f.2)).lookup k)
        = (slashValues fs).map .ofValue := by
    rw [slashValues, List.map_filterMap]
    exact List.filterMap_congr fun k _ => Dict.lookup_map _ fs k
  obtain ⟨pattern, name, conditions, defaults, data, slashOptional⟩ := g
  rw [Given.ofFields_eq_some_iff hkeys, hslash, givenBy, List.length_map, List.head?_map,
    Given.mk.injEq]
  simp only [Dict.lookup_map]
  constructor
  · rintro ⟨hpattern, hname, hconditions, hdefaults, hdata, honce, hslashOptional⟩
    exact ⟨honce, hpattern, hname, hconditions, hdefaults, hdata, hslashOptional⟩
  · rintro ⟨honce, hpattern, hname, hconditions, hdefaults, hdata, hslashOptional⟩
    exact ⟨hpattern, hname, hconditions, hdefaults, hdata, honce, hslashOptional⟩

/-- A field is read as the option that it says. -/
theorem Reads.field {α : Type} {read : Document → Option α} {R : Value → α → Prop}
    (h : Reads read R) (ob : OrderedObject) (k : String) {default a : α} :
    Options.optional ((ob.fields.lookup k).map .ofValue) default read = some a ↔
      Says R default (ob.fields.lookup k) a := by
  rw [← ob.map_value_lookup?, Option.map_map]
  exact h.optional

/-- What is given for the slash is read as the option that it says. -/
theorem Reads.slash {α : Type} {read : Document → Option α} {R : Value → α → Prop}
    (h : Reads read R) (ob : OrderedObject) {default a : α} :
    Options.optional ((slashValues ob.fields).head?.map .ofValue) default read = some a ↔
      Says R default (slashValues ob.fields).head? a := by
  -- what is found under one of the names is a field too
  have hfields : slashValues ob.fields = (slashNames.filterMap ob.lookup?).map (·.value) := by
    simp [slashValues, List.map_filterMap]
  rw [hfields, List.head?_map, Option.map_map]
  exact h.optional

/-- An object is read as the options that it describes. -/
theorem ofDocument?_ofValue_iff (ob : OrderedObject) :
    ofDocument? valueDialect (.ofValue (.object ob.fields)) = some o ↔ Describes ob.fields o := by
  have hread : ofDocument? valueDialect (.ofValue (.object ob.fields)) = some o ↔
      (slashValues ob.fields).length ≤ 1 ∧ (givenBy ob.fields).read valueDialect = some o := by
    have hfields := fields?_ofValue ob.fields
    rw [Document.ofValue] at hfields
    rw [Document.ofValue, ofDocument?, hfields]
    show (Given.ofFields _).bind (fun g => g.read valueDialect) = some o ↔ _
    rw [Option.bind_eq_some_iff]
    simp only [ofFields_ofValue_iff ob.ordered.sorted]
    constructor
    · rintro ⟨g, ⟨honce, rfl⟩, hg⟩
      exact ⟨honce, hg⟩
    · rintro ⟨honce, hg⟩
      exact ⟨_, ⟨honce, rfl⟩, hg⟩
  -- from here on every field is read for itself, by what its reader accepts
  have hpattern : ((ob.fields.lookup "pattern").map .ofValue).bind Document.text?
        = some o.pattern ↔ ob.fields.lookup "pattern" = some (.text o.pattern) := by
    cases ob.fields.lookup "pattern" with
    | none => simp
    | some v => rw [Option.map_some, Option.bind_some, text?_ofValue, Option.some.injEq]
  rw [hread, Given.read_eq_some_iff, givenBy, hpattern, reads_name.field ob,
    reads_condition.dict.field ob, reads_text.dict.field ob, reads_value.dict.field ob,
    reads_flag.slash ob]
  constructor
  · rintro ⟨honce, hpattern, hname, hconditions, hdefaults, hdata, hslash, hpost, hpre⟩
    exact ⟨hpattern, hname, hconditions, hdefaults, hdata, honce, hslash, hpost, hpre⟩
  · rintro ⟨hpattern, hname, hconditions, hdefaults, hdata, honce, hslash, hpost, hpre⟩
    exact ⟨honce, hpattern, hname, hconditions, hdefaults, hdata, hslash, hpost, hpre⟩

/-- An object describes options in one way at most. -/
theorem Describes.unique (ob : OrderedObject) {p : Options} (ho : Describes ob.fields o)
    (hp : Describes ob.fields p) : o = p := by
  have hread := (ofDocument?_ofValue_iff ob).2 ho
  rw [(ofDocument?_ofValue_iff ob).2 hp] at hread
  exact (Option.some.inj hread).symm

end

/-! ## Shapes -/

/-- A value that is a text. -/
def IsText (v : Value) : Prop := ∃ s, v = .text s

/-- A value that is a text or a list of texts. -/
def IsTexts (v : Value) : Prop := IsText v ∨ ∃ vs, v = .array vs ∧ ∀ w ∈ vs, IsText w

/-- A value that is an object with such values. -/
def IsObjectOf (P : Value → Prop) (v : Value) : Prop := ∃ fs, v = .object fs ∧ ∀ f ∈ fs, P f.2

/-- Every field that an option with a default is read from has the right shape. -/
structure WellShaped (fs : List (String × Value)) : Prop where
  name : ∀ v, fs.lookup "name" = some v → v = .null ∨ IsText v
  conditions : ∀ v, fs.lookup "conditions" = some v → IsObjectOf IsTexts v
  defaults : ∀ v, fs.lookup "defaults" = some v → IsObjectOf IsText v
  data : ∀ v, fs.lookup "data" = some v → IsObjectOf (fun _ => True) v
  slashOptional : ∀ v ∈ slashValues fs, ∃ b, v = .bool b

section

variable {α : Type}

theorem exists_nameOf_iff {v : Value} : (∃ n, NameOf v n) ↔ v = .null ∨ IsText v := by
  constructor
  · rintro ⟨_, _ | s⟩
    · exact Or.inl rfl
    · exact Or.inr ⟨s, rfl⟩
  · rintro (rfl | ⟨s, rfl⟩)
    · exact ⟨_, .null⟩
    · exact ⟨_, .text s⟩

theorem exists_conditionOf_iff {v : Value} : (∃ c, ConditionOf v c) ↔ IsTexts v := by
  constructor
  · rintro ⟨_, s | ss⟩
    · exact Or.inl ⟨s, rfl⟩
    · refine Or.inr ⟨_, rfl, fun w hw => ?_⟩
      obtain ⟨s, -, rfl⟩ := List.mem_map.1 hw
      exact ⟨s, rfl⟩
  · rintro (⟨s, rfl⟩ | ⟨vs, rfl, hvs⟩)
    · exact ⟨_, .expression s⟩
    · obtain ⟨ss, hss⟩ := exists_forall₂_iff.2 hvs
      have heq : vs = ss.map .text := by
        rw [← List.forall₂_eq_eq_eq, List.forall₂_map_right_iff]
        exact hss
      subst heq
      exact ⟨_, .oneOf ss⟩

theorem exists_mapOf_iff {R : Value → α → Prop} {P : Value → Prop} (v : OrderedValue)
    (hP : ∀ w, (∃ a, R w a) ↔ P w) : (∃ d, MapOf R v.value d) ↔ IsObjectOf P v.value := by
  obtain ⟨v, hv⟩ := v
  constructor
  · rintro ⟨d, hes⟩
    obtain ⟨hes⟩ := hes
    refine ⟨_, rfl, fun f hf => (hP f.2).1 ?_⟩
    obtain ⟨e, -, he⟩ := exists_forall₂_iff.1 ⟨_, hes⟩ f hf
    exact ⟨e.2, he⟩
  · rintro ⟨fs, rfl, hfs⟩
    obtain ⟨es, hes⟩ : ∃ es : List (String × α),
        List.Forall₂ (fun f e => f.1 = e.1 ∧ R f.2 e.2) fs es := by
      refine exists_forall₂_iff.2 fun f hf => ?_
      obtain ⟨a, ha⟩ := (hP f.2).2 (hfs f hf)
      exact ⟨(f.1, a), rfl, ha⟩
    have hsorted := sorted_of_forall₂ hv.sorted (hes.imp fun _ _ h => h.1)
    exact ⟨⟨es, hsorted⟩, .object hes⟩

theorem exists_says_iff {R : Value → α → Prop} {default : α} {d : Option Value} :
    (∃ a, Says R default d a) ↔ ∀ v, d = some v → ∃ a, R v a := by
  cases d with
  | none => exact ⟨fun _ v hv => absurd hv (by simp), fun _ => ⟨default, rfl⟩⟩
  | some v =>
    constructor
    · rintro h w hw
      exact Option.some.inj hw ▸ h
    · exact fun h => h v rfl

end

section

theorem head?_slashValues {fs : List (String × Value)} (h : (slashValues fs).length ≤ 1)
    {v : Value} : (slashValues fs).head? = some v ↔ v ∈ slashValues fs := by
  cases hs : slashValues fs with
  | nil => simp
  | cons w ws =>
    rw [hs, List.length_cons] at h
    have hws : ws = [] := List.length_eq_zero_iff.1 (by omega)
    rw [hws, List.head?_cons, Option.some.injEq, List.mem_singleton, eq_comm]

variable (ob : OrderedObject)

/-- A field says something if it has the right shape. -/
theorem exists_says_field_iff {α : Type} {R : Value → α → Prop} {P : Value → Prop}
    (hP : ∀ v : OrderedValue, (∃ a, R v.value a) ↔ P v.value) (k : String) {default : α} :
    (∃ a, Says R default (ob.fields.lookup k) a) ↔ ∀ v, ob.fields.lookup k = some v → P v := by
  rw [exists_says_iff]
  exact forall_congr' fun v => imp_congr_right fun hv => hP ⟨v, ob.ordered.of_lookup hv⟩

/-- An object describes options if it has a pattern, its fields have the right shapes and the slash
    is not given twice. -/
theorem exists_describes_iff :
    (∃ o, Describes ob.fields o) ↔ (∃ s, ob.fields.lookup "pattern" = some (.text s)) ∧
      WellShaped ob.fields ∧ (slashValues ob.fields).length ≤ 1 := by
  -- each field by itself: it says something exactly if it has the right shape
  have hname : (∃ n, Says NameOf none (ob.fields.lookup "name") n) ↔
      ∀ v, _ → v = .null ∨ IsText v :=
    exists_says_field_iff ob (fun _ => exists_nameOf_iff) "name"
  have hconditions : (∃ d, Says (MapOf ConditionOf) .empty
      (ob.fields.lookup "conditions") d) ↔ ∀ v, _ → IsObjectOf IsTexts v :=
    exists_says_field_iff ob (fun v => exists_mapOf_iff v fun _ => exists_conditionOf_iff)
      "conditions"
  have hdefaults : (∃ d, Says (MapOf fun v s => v = .text s) .empty
      (ob.fields.lookup "defaults") d) ↔ ∀ v, _ → IsObjectOf IsText v :=
    exists_says_field_iff ob (fun v => exists_mapOf_iff v fun _ => Iff.rfl) "defaults"
  have hdata : (∃ d, Says (MapOf Eq) .empty (ob.fields.lookup "data") d) ↔
      ∀ v, _ → IsObjectOf (fun _ => True) v :=
    exists_says_field_iff ob
      (fun v => exists_mapOf_iff v fun w => iff_true_intro ⟨w, rfl⟩) "data"
  constructor
  · rintro ⟨o, h⟩
    refine ⟨⟨_, h.pattern⟩, ?_, h.once⟩
    constructor
    case name => exact hname.1 ⟨_, h.name⟩
    case conditions => exact hconditions.1 ⟨_, h.conditions⟩
    case defaults => exact hdefaults.1 ⟨_, h.defaults⟩
    case data => exact hdata.1 ⟨_, h.data⟩
    case slashOptional =>
      exact fun v hv => exists_says_iff.1 ⟨_, h.slashOptional⟩ v
        ((head?_slashValues h.once).2 hv)
  · rintro ⟨⟨s, hpattern⟩, h, honce⟩
    obtain ⟨name, hname⟩ := hname.2 h.name
    obtain ⟨conditions, hconditions⟩ := hconditions.2 h.conditions
    obtain ⟨defaults, hdefaults⟩ := hdefaults.2 h.defaults
    obtain ⟨data, hdata⟩ := hdata.2 h.data
    obtain ⟨slashOptional, hslash⟩ :=
      exists_says_iff.2 fun v hv =>
        h.slashOptional v ((head?_slashValues honce).1 hv)
    exact ⟨⟨s, name, conditions, defaults, data, slashOptional, none, none⟩, hpattern, hname,
      hconditions, hdefaults, hdata, honce, hslash, rfl, rfl⟩

end

end Options

end Waymark
