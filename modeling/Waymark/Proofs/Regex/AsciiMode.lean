/-
  Waymark.Proofs.Regex.AsciiMode

  What an expression means with Unicode mode off and on.  On ASCII texts both meanings are alike, as
  far as the expression is steady: with Unicode mode off, case does not count for a literal beyond
  ASCII, and of a class nothing is left but its ASCII members.

  Main statement: `Ast.exists_alike`.
-/

import Waymark.Proofs.Regex.Alike
import Waymark.Proofs.Regex.Nesting
import Waymark.Proofs.Regex.Sequence
import Waymark.Proofs.Unicode.Ascii

namespace Waymark.Regex

open Waymark.Unicode

/-! ## Sets -/

/-- The characters of ASCII. -/
abbrev IsAscii (c : Char) : Prop := c.toNat < 128

namespace CharSet

/-- Two sets have the same members in ASCII. -/
def SameAscii (s t : CharSet) : Prop := ∀ c, IsAscii c → s.contains c = t.contains c

/-- With the sign for kelvin there is a `k`, and with the long s an `s`, of either case. -/
structure Anchored (s : CharSet) : Prop where
  kelvin : s.contains kelvin = true → s.contains 'k' = true ∨ s.contains 'K' = true
  longS : s.contains longS = true → s.contains 's' = true ∨ s.contains 'S' = true

/-- All three characters that are one with `k` are members, or none is; and so for `s`. -/
structure CaseClosed (s : CharSet) : Prop where
  kelvin : s.contains kelvin = s.contains 'k'
  upperK : s.contains 'K' = s.contains 'k'
  longS : s.contains longS = s.contains 's'
  upperS : s.contains 'S' = s.contains 's'

variable {s t s' t' : CharSet}

theorem CaseClosed.anchored (h : s.CaseClosed) : s.Anchored :=
  ⟨fun hk => Or.inl (h.kelvin ▸ hk), fun hs => Or.inl (h.longS ▸ hs)⟩

/-- Sets without members beyond ASCII. -/
theorem anchored_of_ascii (h : ∀ c, s.contains c = true → IsAscii c) : s.Anchored :=
  ⟨fun hk => absurd (h _ hk) (by decide), fun hs => absurd (h _ hs) (by decide)⟩

theorem anchored_empty : empty.Anchored :=
  anchored_of_ascii fun _ hc => absurd hc (by simp [contains])

theorem isAscii_of_range {first last c : Char} (hlast : IsAscii last)
    (h : (range first last).contains c = true) : IsAscii c := by
  rw [contains, Bool.and_eq_true, decide_eq_true_iff, decide_eq_true_iff] at h
  exact Nat.lt_of_le_of_lt (Char.le_def.1 h.2) hlast

theorem isAscii_of_ofRanges {ranges : List (Char × Char)}
    (hranges : ranges.all (fun r => r.2.toNat < 128) = true) {c : Char}
    (h : (ofRanges ranges).contains c = true) : IsAscii c := by
  induction ranges with
  | nil => exact absurd h (by simp [ofRanges, unionAll, contains])
  | cons r ranges ih =>
    change ((range r.1 r.2).contains c || (ofRanges ranges).contains c) = true at h
    rw [Bool.or_eq_true] at h
    rw [List.all_cons, Bool.and_eq_true, decide_eq_true_iff] at hranges
    rcases h with h | h
    · exact isAscii_of_range hranges.1 h
    · exact ih hranges.2 h

theorem SameAscii.union (h : SameAscii s t) (h' : SameAscii s' t') :
    SameAscii (.union s s') (.union t t') := by
  intro c hc
  rw [contains, contains, h c hc, h' c hc]

theorem Anchored.union (h : s.Anchored) (h' : t.Anchored) : (union s t).Anchored := by
  refine ⟨?_, ?_⟩
  all_goals simp only [contains, Bool.or_eq_true]
  · rintro (hk | hk)
    · exact (h.kelvin hk).imp Or.inl Or.inl
    · exact (h'.kelvin hk).imp Or.inr Or.inr
  · rintro (hs | hs)
    · exact (h.longS hs).imp Or.inl Or.inl
    · exact (h'.longS hs).imp Or.inr Or.inr

/-- The result of an operation between sets. -/
def ofOp : SetOp → CharSet → CharSet → CharSet
  | .intersection => .inter
  | .difference => .diff
  | .symmetricDifference => .symmDiff

theorem SameAscii.op (kind : SetOp) (h : SameAscii s t) (h' : SameAscii s' t') :
    SameAscii (ofOp kind s s') (ofOp kind t t') := by
  intro c hc
  cases kind <;> simp only [ofOp, contains, h c hc, h' c hc]

theorem CaseClosed.op (kind : SetOp) (h : s.CaseClosed) (h' : t.CaseClosed) :
    (ofOp kind s t).CaseClosed := by
  -- each of the four equations is one between what the two sets hold
  cases kind <;>
    exact ⟨by simp only [ofOp, contains, h.kelvin, h'.kelvin],
      by simp only [ofOp, contains, h.upperK, h'.upperK],
      by simp only [ofOp, contains, h.longS, h'.longS],
      by simp only [ofOp, contains, h.upperS, h'.upperS]⟩

/-- Up to case the three characters are one. -/
theorem caseClosed_folded (s : CharSet) : (folded s).CaseClosed := by
  have hk : caseVariants 'k' = ['K', kelvin] := caseVariants_ascii (by decide)
  have hK : caseVariants 'K' = ['k', kelvin] := caseVariants_ascii (by decide)
  have hs : caseVariants 's' = ['S', longS] := caseVariants_ascii (by decide)
  have hS : caseVariants 'S' = ['s', longS] := caseVariants_ascii (by decide)
  refine ⟨?_, ?_, ?_, ?_⟩ <;>
    simp only [contains, hk, hK, hs, hS, caseVariants_kelvin, caseVariants_longS, List.any_cons,
      List.any_nil, Bool.or_false] <;> ac_rfl

theorem isAscii_swapAsciiCase {c : Char} (hc : IsAscii c) : IsAscii (swapAsciiCase c) :=
  forall_ascii (P := fun c => IsAscii (swapAsciiCase c)) (by decide +kernel) hc

/-- What the case closures of two sets hold in ASCII. -/
theorem SameAscii.folded (h : SameAscii s t) (ht : t.Anchored) :
    SameAscii (.foldedAscii s) (.folded t) := by
  intro c hc
  have hswap := isAscii_swapAsciiCase hc
  rw [contains, contains, h c hc, h _ hswap, caseVariants_ascii hc, List.any_append]
  -- its letter of the other case is the variant that both closures know
  have hletter : (t.contains c || (if swapAsciiCase c = c then [] else [swapAsciiCase c]).any
      t.contains) = (t.contains c || t.contains (swapAsciiCase c)) := by
    by_cases heq : swapAsciiCase c = c
    · rw [if_pos heq, heq, Bool.or_self, List.any_nil, Bool.or_false]
    · rw [if_neg heq, List.any_cons, List.any_nil, Bool.or_false]
  rw [← Bool.or_assoc, hletter]
  -- a character beyond ASCII adds nothing that its letter does not add
  have hbeyond : (if c ∈ ['k', 'K'] then [kelvin] else if c ∈ ['s', 'S'] then [longS] else []).any
      t.contains = true → (t.contains c || t.contains (swapAsciiCase c)) = true := by
    rw [Bool.or_eq_true]
    by_cases hk : c ∈ ['k', 'K']
    · rw [if_pos hk, List.any_cons, List.any_nil, Bool.or_false]
      intro hkelvin
      simp only [List.mem_cons, List.not_mem_nil, or_false] at hk
      rcases hk with rfl | rfl
      · exact ht.kelvin hkelvin
      · exact (ht.kelvin hkelvin).symm
    · rw [if_neg hk]
      by_cases hs : c ∈ ['s', 'S']
      · rw [if_pos hs, List.any_cons, List.any_nil, Bool.or_false]
        intro hlongS
        simp only [List.mem_cons, List.not_mem_nil, or_false] at hs
        rcases hs with rfl | rfl
        · exact ht.longS hlongS
        · exact (ht.longS hlongS).symm
      · rw [if_neg hs]
        exact fun hfalse => absurd hfalse (by simp)
  symm
  rw [Bool.or_eq_left_iff_imp]
  exact hbeyond

theorem SameAscii.refl (s : CharSet) : SameAscii s s := fun _ _ => rfl

/-- A character beyond ASCII has no ASCII character that is the same up to case, unless it is one
    of the two signs. -/
theorem sameAscii_folded_single {c : Char} (hbeyond : ¬ IsAscii c)
    (hsigns : c ≠ kelvin ∧ c ≠ longS) : SameAscii (single c) (.folded (single c)) := by
  have hnone : ∀ d, IsAscii d → (single c).contains d = false := by
    intro d hd
    rw [contains_single, beq_eq_false_iff_ne]
    rintro rfl
    exact hbeyond hd
  -- neither sign is a member, so nothing has to stand beside it
  have hanchored : (single c).Anchored := by
    refine ⟨fun hk => absurd ?_ hsigns.1, fun hs => absurd ?_ hsigns.2⟩
    · rw [contains_single, beq_iff_eq] at hk
      exact hk.symm
    · rw [contains_single, beq_iff_eq] at hs
      exact hs.symm
  intro d hd
  have hfolded := (SameAscii.refl (single c)).folded hanchored d hd
  rw [← hfolded, contains, hnone d hd, hnone _ (isAscii_swapAsciiCase hd), Bool.or_self]

/-! ## Classes of escapes -/

/-- A table and a set with the members that the table has in ASCII. -/
theorem sameAscii_table {r : Ranges} {known : List (Nat × Nat)}
    (hwithin : r.AsciiWithin known) (hall : r.HoldsAll known)
    (h : ∀ n < 128, s.contains (Char.ofNat n)
      = decide (∃ p ∈ known, p.1 ≤ (Char.ofNat n).toNat ∧ (Char.ofNat n).toNat ≤ p.2)) :
    SameAscii s (.table r) := by
  intro c hc
  rw [forall_ascii (P := fun c => s.contains c
    = decide (∃ p ∈ known, p.1 ≤ c.toNat ∧ c.toNat ≤ p.2)) h hc, contains, Bool.eq_iff_iff,
    decide_eq_true_iff, Ranges.holds_iff_of_ascii hwithin hall hc]

theorem sameAscii_word : SameAscii asciiWord (.union asciiWord (.table wordCharacters)) := by
  intro c hc
  symm
  rw [contains, Bool.or_eq_left_iff_imp]
  intro htable
  -- the table adds no ASCII character to the set in front of it
  have hknown := wordCharacters_ascii.of_holds hc htable
  exact forall_ascii (P := fun c =>
    (∃ p ∈ [(0x30, 0x39), (0x41, 0x5a), (0x5f, 0x5f), (0x61, 0x7a)],
      p.1 ≤ c.toNat ∧ c.toNat ≤ p.2) → asciiWord.contains c = true) (by decide +kernel) hc hknown

end CharSet

/-- In ASCII digits, blank space and word characters are the same in either mode. -/
theorem Shorthand.sameAscii (s : Shorthand) : CharSet.SameAscii (s.set false) (s.set true) := by
  cases s with
  | digit =>
    exact CharSet.sameAscii_table decimalDigits_ascii.1 decimalDigits_ascii.2.1 (by decide +kernel)
  | space =>
    exact CharSet.sameAscii_table whiteSpace_ascii.1 whiteSpace_ascii.2.1 (by decide +kernel)
  | word => exact CharSet.sameAscii_word

theorem Shorthand.anchored (s : Shorthand) : (s.set true).Anchored := by
  cases s with
  | digit =>
    have hkelvin : (CharSet.digit true).contains kelvin = false := decimalDigits_ascii.2.2.1
    have hlongS : (CharSet.digit true).contains longS = false := decimalDigits_ascii.2.2.2.1
    exact ⟨fun h => absurd (hkelvin.symm.trans h) (by simp),
      fun h => absurd (hlongS.symm.trans h) (by simp)⟩
  | space =>
    have hkelvin : (CharSet.space true).contains kelvin = false := whiteSpace_ascii.2.2.1
    have hlongS : (CharSet.space true).contains longS = false := whiteSpace_ascii.2.2.2.1
    exact ⟨fun h => absurd (hkelvin.symm.trans h) (by simp),
      fun h => absurd (hlongS.symm.trans h) (by simp)⟩
  | word =>
    have hletters : ∀ c, CharSet.asciiWord.contains c = true →
        (CharSet.word true).contains c = true := by
      intro c hc
      show (CharSet.asciiWord.contains c || wordCharacters.holds c) = true
      rw [hc, Bool.true_or]
    exact ⟨fun _ => Or.inl (hletters _ (by decide)), fun _ => Or.inl (hletters _ (by decide))⟩

theorem Shorthand.isVoid_set (unicode : Bool) (s : Shorthand) : (s.set unicode).isVoid = false := by
  cases unicode with
  | false => cases s <;> decide
  | true =>
    cases s with
    | digit => exact decimalDigits_ascii.2.2.2.2
    | space => exact whiteSpace_ascii.2.2.2.2
    | word =>
      have hascii : CharSet.asciiWord.isVoid = false := by decide
      show (CharSet.asciiWord.isVoid && _) = false
      rw [hascii, Bool.false_and]

/-! ## Modes -/

namespace Modes

/-- The same modes with Unicode mode off. -/
def ascii (m : Modes) : Modes := { m with unicode := false }

/-- The modes that an expression is read in without a switch around it and with one that turns
    Unicode mode off: they are the same again once the expression sets Unicode mode itself. -/
def AsciiOf (m n : Modes) : Prop := m = n ∨ n.unicode = true ∧ m = n.ascii

theorem AsciiOf.set {m n : Modes} (h : AsciiOf m n) (f : Flag × Bool) :
    AsciiOf (m.set f) (n.set f) := by
  rcases h with rfl | ⟨hn, rfl⟩
  · exact Or.inl rfl
  · obtain ⟨flag, on⟩ := f
    -- only the flag for Unicode mode itself makes the two the same
    cases flag with
    | unicode => exact Or.inl rfl
    | _ => exact Or.inr ⟨hn, rfl⟩

theorem AsciiOf.setAll {m n : Modes} (h : AsciiOf m n) (flags : List (Flag × Bool)) :
    AsciiOf (m.setAll flags) (n.setAll flags) := by
  induction flags generalizing m n with
  | nil => exact h
  | cons f flags ih => exact ih (h.set f)

/-- The closure of two sets under case, in either mode. -/
theorem sameAscii_fold {m : Modes} (hm : m.unicode = true) {s t : CharSet}
    (h : CharSet.SameAscii s t) (ht : m.ignoreCase = true → t.Anchored) :
    CharSet.SameAscii (m.ascii.fold s) (m.fold t) := by
  by_cases hcase : m.ignoreCase = true
  · have hs : m.ascii.fold s = .foldedAscii s := by simp [fold, ascii, hcase]
    have ht' : m.fold t = .folded t := by simp [fold, hcase, hm]
    rw [hs, ht']
    exact h.folded (ht hcase)
  · have hs : m.ascii.fold s = s := by simp [fold, ascii, hcase]
    have ht' : m.fold t = t := by simp [fold, hcase]
    rw [hs, ht']
    exact h

/-- Where case does not count, closed sets are closed. -/
theorem caseClosed_fold {m : Modes} (hm : m.unicode = true) (hcase : m.ignoreCase = true)
    (s : CharSet) : (m.fold s).CaseClosed := by
  have hs : m.fold s = .folded s := by simp [fold, hcase, hm]
  rw [hs]
  exact CharSet.caseClosed_folded s

@[simp] theorem isVoid_fold (m : Modes) (s : CharSet) : (m.fold s).isVoid = s.isVoid := by
  unfold fold
  split
  · split <;> rfl
  · rfl

/-- With Unicode mode off nothing is negated. -/
theorem negate_ascii_eq_ok {m : Modes} {negated : Bool} {s t : CharSet}
    (h : m.ascii.negate negated s = .ok t) : negated = false ∧ s = t := by
  cases negated with
  | true => exact absurd h (by simp [negate, ascii])
  | false => exact ⟨rfl, Except.ok.inj h⟩

end Modes

/-! ## Classes -/

/-- With Unicode mode off a class has ASCII members only. -/
theorem Literal.member_ascii_eq_ok {m : Modes} {l : Literal} {c : Char}
    (h : l.member m.ascii = .ok c) : c = l.char ∧ IsAscii l.char := by
  rw [Literal.member] at h
  by_cases hl : (m.ascii.unicode || decide (l.char.toNat < 128)) = true
  · rw [if_pos hl] at h
    refine ⟨(Except.ok.inj h).symm, ?_⟩
    simpa [Modes.ascii] using hl
  · rw [if_neg hl] at h
    exact absurd h (by simp)

theorem Literal.member_of_unicode {m : Modes} (hm : m.unicode = true) (l : Literal) :
    l.member m = .ok l.char := by
  rw [Literal.member, hm, Bool.true_or, if_pos rfl]

theorem AsciiClass.isAscii_of_contains_set (a : AsciiClass) {c : Char}
    (h : a.set.contains c = true) : IsAscii c := by
  cases a with
  | ascii | digit | graph | lower | print | upper => exact CharSet.isAscii_of_range (by decide) h
  | _ => exact CharSet.isAscii_of_ofRanges (by decide) h

mutual

/-- A class that has a meaning with Unicode mode off has one with it on, with the same members in
    ASCII. -/
theorem ClassSet.exists_meaning {m : Modes} (hm : m.unicode = true) (set : ClassSet) {s : CharSet}
    (h : set.meaning m.ascii = .ok s) :
    ∃ t, set.meaning m = .ok t ∧ CharSet.SameAscii s t ∧ (m.ignoreCase = true → t.Anchored) := by
  -- `Anchored` goes along, since a class is folded once its items are put together
  cases set with
  | empty =>
    rw [ClassSet.meaning] at h ⊢
    cases h
    exact ⟨.empty, rfl, .refl _, fun _ => CharSet.anchored_empty⟩
  | literal l =>
    rw [ClassSet.meaning, bind_eq_ok] at h
    obtain ⟨c, hc, h⟩ := h
    cases h
    obtain ⟨rfl, hascii⟩ := Literal.member_ascii_eq_ok hc
    refine ⟨.single l.char, ?_, .refl _,
      fun _ => CharSet.anchored_of_ascii fun d hd => CharSet.isAscii_of_range hascii hd⟩
    rw [ClassSet.meaning, Literal.member_of_unicode hm]
    rfl
  | range first last =>
    rw [ClassSet.meaning, bind_eq_ok] at h
    obtain ⟨c, hc, h⟩ := h
    obtain ⟨d, hd, h⟩ := bind_eq_ok.1 h
    cases h
    obtain ⟨rfl, -⟩ := Literal.member_ascii_eq_ok hc
    obtain ⟨rfl, hascii⟩ := Literal.member_ascii_eq_ok hd
    refine ⟨.range first.char last.char, ?_, .refl _,
      fun _ => CharSet.anchored_of_ascii fun x hx => CharSet.isAscii_of_range hascii hx⟩
    rw [ClassSet.meaning, Literal.member_of_unicode hm, Literal.member_of_unicode hm]
    rfl
  | ascii negated name =>
    rw [ClassSet.meaning] at h
    obtain ⟨rfl, rfl⟩ := Modes.negate_ascii_eq_ok h
    have hanchored := CharSet.anchored_of_ascii fun c hc => name.isAscii_of_contains_set hc
    refine ⟨m.fold name.set, ?_, Modes.sameAscii_fold hm (.refl _) fun _ => hanchored,
      fun hcase => (Modes.caseClosed_fold hm hcase _).anchored⟩
    rw [ClassSet.meaning]
    rfl
  | shorthand negated a =>
    rw [ClassSet.meaning] at h
    obtain ⟨rfl, rfl⟩ := Modes.negate_ascii_eq_ok h
    refine ⟨a.set true, ?_, a.sameAscii, fun _ => a.anchored⟩
    rw [ClassSet.meaning, hm]
    rfl
  | property negated q =>
    rw [ClassSet.meaning, bind_eq_ok] at h
    obtain ⟨t, ht, -⟩ := h
    exact absurd ht (by simp [PropertyQuery.set, Modes.ascii])
  | bracketed negated inner =>
    rw [ClassSet.meaning, bind_eq_ok] at h
    obtain ⟨t, ht, h⟩ := h
    obtain ⟨rfl, rfl⟩ := Modes.negate_ascii_eq_ok h
    obtain ⟨t', ht', hsame, hanchored⟩ := ClassSet.exists_meaning hm inner ht
    refine ⟨m.fold t', ?_, Modes.sameAscii_fold hm hsame hanchored,
      fun hcase => (Modes.caseClosed_fold hm hcase _).anchored⟩
    rw [ClassSet.meaning, ht']
    rfl
  | union items =>
    rw [ClassSet.meaning] at h ⊢
    exact ClassSet.exists_meaningAll hm items h
  | op kind lhs rhs =>
    -- both sides are closed under case, and so is what becomes of them
    rw [ClassSet.meaning, bind_eq_ok] at h
    obtain ⟨a, ha, h⟩ := h
    obtain ⟨b, hb, h⟩ := bind_eq_ok.1 h
    obtain ⟨a', ha', hsame, hanchored⟩ := ClassSet.exists_meaning hm lhs ha
    obtain ⟨b', hb', hsame', hanchored'⟩ := ClassSet.exists_meaning hm rhs hb
    have hop : .ofOp kind (m.ascii.fold a) (m.ascii.fold b) = s := by
      cases kind <;> exact Except.ok.inj h
    refine ⟨.ofOp kind (m.fold a') (m.fold b'), ?_, ?_, fun hcase => ?_⟩
    · rw [ClassSet.meaning, ha']
      cases kind <;> simp only [hb', bind, Except.bind] <;> rfl
    · rw [← hop]
      exact (Modes.sameAscii_fold hm hsame hanchored).op kind
        (Modes.sameAscii_fold hm hsame' hanchored')
    · exact ((Modes.caseClosed_fold hm hcase a').op kind
        (Modes.caseClosed_fold hm hcase b')).anchored

theorem ClassSet.exists_meaningAll {m : Modes} (hm : m.unicode = true) (items : List ClassSet)
    {s : CharSet} (h : ClassSet.meaningAll m.ascii items = .ok s) :
    ∃ t, ClassSet.meaningAll m items = .ok t ∧ CharSet.SameAscii s t ∧
      (m.ignoreCase = true → t.Anchored) := by
  cases items with
  | nil =>
    rw [ClassSet.meaningAll] at h ⊢
    cases h
    exact ⟨.empty, rfl, .refl _, fun _ => CharSet.anchored_empty⟩
  | cons item items =>
    rw [ClassSet.meaningAll, bind_eq_ok] at h
    obtain ⟨a, ha, h⟩ := h
    obtain ⟨b, hb, h⟩ := bind_eq_ok.1 h
    cases h
    obtain ⟨a', ha', hsame, hanchored⟩ := ClassSet.exists_meaning hm item ha
    obtain ⟨b', hb', hsame', hanchored'⟩ := ClassSet.exists_meaningAll hm items hb
    refine ⟨.union a' b', ?_, hsame.union hsame',
      fun hcase => (hanchored hcase).union (hanchored' hcase)⟩
    rw [ClassSet.meaningAll, ha']
    simp only [hb', bind, Except.bind]
    rfl

end

/-! ## Steadiness -/

/-- Whether a literal is the same in ASCII with Unicode mode on: two characters beyond ASCII are one
    with a letter of it up to case. -/
def Literal.isSteady (m : Modes) (l : Literal) : Bool :=
  m.unicode || !m.ignoreCase || (l.char != kelvin && l.char != longS)

/-- Whether a class that has no members with Unicode mode off has none with it on. -/
def ClassSet.isSteady (m : Modes) (set : ClassSet) : Bool :=
  m.unicode ||
    match set.meaning m, set.meaning { m with unicode := true } with
    | .ok s, .ok t => s.isVoid == t.isVoid
    | _, _ => true

mutual

/-- The modes that hold behind an expression. -/
def Ast.modesBehind (m : Modes) : Ast → Modes
  | .flags fs => m.setAll fs
  | .repetition _ _ _ body => body.modesBehind m
  | .alternation branches => Ast.modesBehindAll m branches
  | .concat items => Ast.modesBehindAll m items
  | _ => m

/-- The modes that hold behind several expressions. -/
def Ast.modesBehindAll (m : Modes) : List Ast → Modes
  | [] => m
  | item :: items => Ast.modesBehindAll (item.modesBehind m) items

end

section

variable (m : Modes)

@[simp] theorem Ast.modesBehind_repetition (least : Nat) (most : Option Nat) (greedy : Bool)
    (body : Ast) :
    (Ast.repetition least most greedy body).modesBehind m = body.modesBehind m := rfl

@[simp] theorem Ast.modesBehind_group (kind : GroupKind) (body : Ast) :
    (Ast.group kind body).modesBehind m = m := rfl

@[simp] theorem Ast.modesBehind_alternation (branches : List Ast) :
    (Ast.alternation branches).modesBehind m = Ast.modesBehindAll m branches := rfl

@[simp] theorem Ast.modesBehind_concat (items : List Ast) :
    (Ast.concat items).modesBehind m = Ast.modesBehindAll m items := rfl

@[simp] theorem Ast.modesBehindAll_nil : Ast.modesBehindAll m [] = m := rfl

@[simp] theorem Ast.modesBehindAll_cons (item : Ast) (items : List Ast) :
    Ast.modesBehindAll m (item :: items) = Ast.modesBehindAll (item.modesBehind m) items := rfl

end

mutual

/-- Whether Unicode mode can be switched on for an expression without a change in ASCII. -/
def Ast.isSteady (m : Modes) : Ast → Bool
  | .literal l => l.isSteady m
  | .bracketed _ set => set.isSteady m
  | .repetition _ _ _ body => body.isSteady m
  | .group (.capture _) body => body.isSteady m
  | .group (.plain fs) body => body.isSteady (m.setAll fs)
  | .alternation branches => Ast.areSteady m branches
  | .concat items => Ast.areSteady m items
  | _ => true

/-- The same for several expressions, each in the modes that hold behind the one before. -/
def Ast.areSteady (m : Modes) : List Ast → Bool
  | [] => true
  | item :: items => item.isSteady m && Ast.areSteady (item.modesBehind m) items

end

section

variable (m : Modes)

@[simp] theorem Ast.isSteady_repetition (least : Nat) (most : Option Nat) (greedy : Bool)
    (body : Ast) : (Ast.repetition least most greedy body).isSteady m = body.isSteady m := rfl

@[simp] theorem Ast.isSteady_group_capture (index : Nat) (body : Ast) :
    (Ast.group (.capture index) body).isSteady m = body.isSteady m := rfl

@[simp] theorem Ast.isSteady_group_plain (flags : List (Flag × Bool)) (body : Ast) :
    (Ast.group (.plain flags) body).isSteady m = body.isSteady (m.setAll flags) := rfl

@[simp] theorem Ast.isSteady_alternation (branches : List Ast) :
    (Ast.alternation branches).isSteady m = Ast.areSteady m branches := rfl

@[simp] theorem Ast.isSteady_concat (items : List Ast) :
    (Ast.concat items).isSteady m = Ast.areSteady m items := rfl

@[simp] theorem Ast.areSteady_nil : Ast.areSteady m [] = true := rfl

@[simp] theorem Ast.areSteady_cons (item : Ast) (items : List Ast) :
    Ast.areSteady m (item :: items) =
      (item.isSteady m && Ast.areSteady (item.modesBehind m) items) := rfl

end

/-! ## Expressions -/

mutual

theorem Ast.modes_of_meaning {m m' : Modes} {e : Expr} (a : Ast) (h : a.meaning m = .ok (e, m')) :
    m' = a.modesBehind m := by
  cases a with
  | empty => exact (meaning_empty.1 h).2.symm
  | flags flags => exact (meaning_flags.1 h).2.symm
  | assertion b => exact (meaning_assertion.1 h).2.symm
  | dot => exact (meaning_dot.1 h).2.2.symm
  | literal l =>
    obtain ⟨s, -, -, rfl⟩ := meaning_literal.1 h
    rfl
  | shorthand negated b =>
    obtain ⟨s, -, -, rfl⟩ := meaning_shorthand.1 h
    rfl
  | property negated q =>
    obtain ⟨s, t, -, -, -, rfl⟩ := meaning_property.1 h
    rfl
  | bracketed negated set =>
    obtain ⟨s, t, -, -, -, rfl⟩ := meaning_bracketed.1 h
    rfl
  | repetition least most greedy body =>
    obtain ⟨d, hd, -⟩ := meaning_repetition.1 h
    exact Ast.modes_of_meaning body hd
  | group kind body =>
    cases kind with
    | capture index =>
      obtain ⟨d, m₁, -, -, rfl⟩ := meaning_capture.1 h
      rfl
    | plain flags =>
      obtain ⟨m₁, -, rfl⟩ := meaning_plain.1 h
      rfl
  | alternation branches =>
    obtain ⟨ds, hds, -⟩ := meaning_alternation.1 h
    exact Ast.modes_of_meaningAll branches hds
  | concat items =>
    obtain ⟨ds, hds, -⟩ := meaning_concat.1 h
    exact Ast.modes_of_meaningAll items hds

theorem Ast.modes_of_meaningAll {m m' : Modes} {es : List Expr} (items : List Ast)
    (h : Ast.meaningAll m items = .ok (es, m')) : m' = Ast.modesBehindAll m items := by
  cases items with
  | nil =>
    obtain ⟨-, rfl⟩ := meaningAll_nil.1 h
    rfl
  | cons item items =>
    obtain ⟨e, m₁, fs, he, hfs, -⟩ := meaningAll_cons.1 h
    rw [Ast.modesBehindAll_cons, ← Ast.modes_of_meaning item he]
    exact Ast.modes_of_meaningAll items hfs

end

mutual

theorem Ast.modesBehind_shift (k : Nat) (m : Modes) (a : Ast) :
    (a.shift k).modesBehind m = a.modesBehind m := by
  cases a with
  | repetition least most greedy body => simp [Ast.modesBehind_shift k m body]
  | group kind body => simp
  | alternation branches => simp [Ast.modesBehindAll_shiftAll k m branches]
  | concat items => simp [Ast.modesBehindAll_shiftAll k m items]
  | empty | flags | literal | dot | assertion | shorthand | property | bracketed =>
    simp [Ast.shift]

theorem Ast.modesBehindAll_shiftAll (k : Nat) (m : Modes) (items : List Ast) :
    Ast.modesBehindAll m (Ast.shiftAll k items) = Ast.modesBehindAll m items := by
  cases items with
  | nil => rfl
  | cons item items => simp [Ast.modesBehind_shift k m item, Ast.modesBehindAll_shiftAll k _ items]

end

mutual

/-- Groups in front do not matter. -/
theorem Ast.isSteady_shift (k : Nat) (m : Modes) (a : Ast) :
    (a.shift k).isSteady m = a.isSteady m := by
  cases a with
  | repetition least most greedy body => simp [Ast.isSteady_shift k m body]
  | group kind body =>
    cases kind with
    | capture index => simp [Ast.isSteady_shift k m body]
    | plain flags => simp [Ast.isSteady_shift k _ body]
  | alternation branches => simp [Ast.areSteady_shiftAll k m branches]
  | concat items => simp [Ast.areSteady_shiftAll k m items]
  | empty | flags | literal | dot | assertion | shorthand | property | bracketed =>
    simp [Ast.shift]

theorem Ast.areSteady_shiftAll (k : Nat) (m : Modes) (items : List Ast) :
    Ast.areSteady m (Ast.shiftAll k items) = Ast.areSteady m items := by
  cases items with
  | nil => rfl
  | cons item items =>
    simp [Ast.isSteady_shift k m item, Ast.modesBehind_shift k m item,
      Ast.areSteady_shiftAll k _ items]

end

mutual

/-- An expression that has a meaning has one behind other groups too. -/
theorem Ast.exists_meaning_shift (k : Nat) {m m' : Modes} {e : Expr} (a : Ast)
    (h : a.meaning m = .ok (e, m')) : ∃ e', (a.shift k).meaning m = .ok (e', m') := by
  cases a with
  | repetition least most greedy body =>
    obtain ⟨d, hd, -⟩ := meaning_repetition.1 h
    obtain ⟨d', hd'⟩ := Ast.exists_meaning_shift k body hd
    exact ⟨_, meaning_repetition.2 ⟨d', hd', rfl⟩⟩
  | group kind body =>
    cases kind with
    | capture index =>
      obtain ⟨d, m₁, hd, -, rfl⟩ := meaning_capture.1 h
      obtain ⟨d', hd'⟩ := Ast.exists_meaning_shift k body hd
      exact ⟨_, meaning_capture.2 ⟨d', m₁, hd', rfl, rfl⟩⟩
    | plain flags =>
      obtain ⟨m₁, hd, rfl⟩ := meaning_plain.1 h
      obtain ⟨d', hd'⟩ := Ast.exists_meaning_shift k body hd
      exact ⟨d', meaning_plain.2 ⟨m₁, hd', rfl⟩⟩
  | alternation branches =>
    obtain ⟨ds, hds, -⟩ := meaning_alternation.1 h
    obtain ⟨ds', hds'⟩ := Ast.exists_meaningAll_shiftAll k branches hds
    exact ⟨_, meaning_alternation.2 ⟨ds', hds', rfl⟩⟩
  | concat items =>
    obtain ⟨ds, hds, -⟩ := meaning_concat.1 h
    obtain ⟨ds', hds'⟩ := Ast.exists_meaningAll_shiftAll k items hds
    exact ⟨_, meaning_concat.2 ⟨ds', hds', rfl⟩⟩
  | empty | flags | literal | dot | assertion | shorthand | property | bracketed =>
    exact ⟨e, by simp [Ast.shift, h]⟩

theorem Ast.exists_meaningAll_shiftAll (k : Nat) {m m' : Modes} {es : List Expr} (items : List Ast)
    (h : Ast.meaningAll m items = .ok (es, m')) :
    ∃ es', Ast.meaningAll m (Ast.shiftAll k items) = .ok (es', m') := by
  cases items with
  | nil => exact ⟨es, h⟩
  | cons item items =>
    obtain ⟨d, m₁, ds, hd, hds, -⟩ := meaningAll_cons.1 h
    obtain ⟨d', hd'⟩ := Ast.exists_meaning_shift k item hd
    obtain ⟨ds', hds'⟩ := Ast.exists_meaningAll_shiftAll k items hds
    exact ⟨d' :: ds', meaningAll_cons.2 ⟨d', m₁, ds', hd', hds', rfl⟩⟩

end

/-- A steady literal is the same in ASCII in either mode. -/
theorem Literal.exists_alike {m : Modes} (hm : m.unicode = true) {l : Literal} {s : CharSet}
    (h : l.set m.ascii = .ok s) (hsteady : l.isSteady m.ascii = true) :
    ∃ t, l.set m = .ok t ∧ (Expr.set s).Alike IsAscii (.set t) := by
  refine ⟨m.fold (.single l.char), by rw [Literal.set, if_pos hm], ?_⟩
  rw [Literal.set, if_neg (by simp [Modes.ascii])] at h
  -- an ASCII character is folded in both modes, one beyond ASCII in Unicode mode only
  by_cases hascii : l.char.toNat < 128
  · rw [if_pos hascii] at h
    cases h
    have hanchored := CharSet.anchored_of_ascii (s := .single l.char)
      fun c hc => CharSet.isAscii_of_range hascii hc
    refine .set (Modes.sameAscii_fold hm (.refl _) fun _ => hanchored) ?_
    rw [Modes.isVoid_fold, Modes.isVoid_fold]
  · rw [if_neg hascii] at h
    by_cases hbyte : l.isByte = true
    · rw [if_pos hbyte] at h
      exact absurd h (by simp)
    · rw [if_neg hbyte] at h
      cases h
      refine .set ?_ (by rw [Modes.isVoid_fold])
      by_cases hcase : m.ignoreCase = true
      · have hfold : m.fold (.single l.char) = .folded (.single l.char) := by
          simp [Modes.fold, hcase, hm]
        have hchars : l.char ≠ kelvin ∧ l.char ≠ longS := by
          simpa [Literal.isSteady, Modes.ascii, hcase] using hsteady
        rw [hfold]
        exact CharSet.sameAscii_folded_single hascii hchars
      · have hfold : m.fold (.single l.char) = .single l.char := by simp [Modes.fold, hcase]
        rw [hfold]
        exact CharSet.SameAscii.refl _

/-- A steady class is the same in ASCII in either mode, and it is void in both or in none. -/
theorem ClassSet.exists_alike {m : Modes} (hm : m.unicode = true) {set : ClassSet} {s : CharSet}
    (h : set.meaning m.ascii = .ok s) (hsteady : set.isSteady m.ascii = true) :
    ∃ t, set.meaning m = .ok t ∧
      (Expr.set (m.ascii.fold s)).Alike IsAscii (.set (m.fold t)) := by
  obtain ⟨t, ht, hsame, hanchored⟩ := ClassSet.exists_meaning hm set h
  -- `isSteady` compares with the mode switched on, which is where `m` was
  have hmodes : ({ m.ascii with unicode := true } : Modes) = m := by
    rw [← hm]
    rfl
  have hvoid : s.isVoid = t.isVoid := by
    unfold ClassSet.isSteady at hsteady
    rw [h, hmodes, ht] at hsteady
    simpa [Modes.ascii] using hsteady
  refine ⟨t, ht, .set (Modes.sameAscii_fold hm hsame hanchored) ?_⟩
  rw [Modes.isVoid_fold, Modes.isVoid_fold, hvoid]

theorem isWord_of_ascii (unicode : Bool) {x : Option Char} (hx : ∀ c ∈ x, IsAscii c) :
    Look.isWord unicode x = Look.isWord false x := by
  cases unicode with
  | false => rfl
  | true =>
    cases x with
    | none => rw [Look.isWord, Look.isWord, Option.any_none, Option.any_none]
    | some c =>
      have hword : CharSet.word true = .union .asciiWord (.table wordCharacters) := if_pos rfl
      have hascii : CharSet.word false = .asciiWord := if_neg Bool.false_ne_true
      rw [Look.isWord, Look.isWord, Option.any_some, Option.any_some, hword, hascii,
        CharSet.sameAscii_word c (hx c rfl)]

/-- Word boundaries are the same in ASCII in either mode, other conditions anyway. -/
theorem Assertion.alike (m : Modes) (a : Assertion) :
    (Expr.look (a.look m.ascii)).Alike IsAscii (.look (a.look m)) := by
  cases a with
  | lineStart | lineEnd | textStart | textEnd => exact Expr.Alike.refl _
  | _ =>
    refine .look fun x y hx hy => ?_
    simp only [Assertion.look, Look.holds, Modes.ascii, isWord_of_ascii m.unicode hx,
      isWord_of_ascii m.unicode hy]

mutual

/-- A steady expression that has a meaning with Unicode mode off has one with it on, and on ASCII
    texts the two are alike. -/
theorem Ast.exists_alike {m n m' : Modes} {d : Expr} (hmn : m.AsciiOf n) (a : Ast)
    (h : a.meaning m = .ok (d, m')) (hsteady : a.isSteady m = true) :
    ∃ e n', a.meaning n = .ok (e, n') ∧ d.Alike IsAscii e ∧ m'.AsciiOf n' := by
  rcases hmn with rfl | ⟨hn, rfl⟩
  · exact ⟨d, m', h, .refl d, Or.inl rfl⟩
  cases a with
  | empty =>
    obtain ⟨rfl, rfl⟩ := meaning_empty.1 h
    exact ⟨.empty, n, meaning_empty.2 ⟨rfl, rfl⟩, .refl _, Or.inr ⟨hn, rfl⟩⟩
  | flags flags =>
    obtain ⟨rfl, rfl⟩ := meaning_flags.1 h
    exact ⟨.empty, n.setAll flags, meaning_flags.2 ⟨rfl, rfl⟩, .refl _,
      Modes.AsciiOf.setAll (Or.inr ⟨hn, rfl⟩) flags⟩
  | literal l =>
    obtain ⟨s, hs, rfl, rfl⟩ := meaning_literal.1 h
    obtain ⟨t, ht, halike⟩ := Literal.exists_alike hn hs hsteady
    exact ⟨.set t, n, meaning_literal.2 ⟨t, ht, rfl, rfl⟩, halike, Or.inr ⟨hn, rfl⟩⟩
  | assertion b =>
    obtain ⟨rfl, rfl⟩ := meaning_assertion.1 h
    exact ⟨.look (b.look n), n, meaning_assertion.2 ⟨rfl, rfl⟩, b.alike n, Or.inr ⟨hn, rfl⟩⟩
  -- a dot, a property and whatever is negated mean nothing with Unicode mode off
  | dot => exact absurd (meaning_dot.1 h).1 (by simp [Modes.ascii])
  | property negated q =>
    obtain ⟨s, t, hs, -⟩ := meaning_property.1 h
    exact absurd hs (by simp [PropertyQuery.set, Modes.ascii])
  | shorthand negated b =>
    obtain ⟨s, hs, rfl, rfl⟩ := meaning_shorthand.1 h
    obtain ⟨rfl, rfl⟩ := Modes.negate_ascii_eq_ok hs
    refine ⟨.set (b.set true), n, meaning_shorthand.2 ⟨b.set true, ?_, rfl, rfl⟩,
      .set b.sameAscii ?_, Or.inr ⟨hn, rfl⟩⟩
    · rw [hn]
      rfl
    · rw [Shorthand.isVoid_set, Shorthand.isVoid_set]
  | bracketed negated set =>
    obtain ⟨s, s', hs, hs', rfl, rfl⟩ := meaning_bracketed.1 h
    obtain ⟨rfl, rfl⟩ := Modes.negate_ascii_eq_ok hs'
    obtain ⟨t, ht, halike⟩ := ClassSet.exists_alike hn hs hsteady
    exact ⟨.set (n.fold t), n, meaning_bracketed.2 ⟨t, n.fold t, ht, rfl, rfl, rfl⟩, halike,
      Or.inr ⟨hn, rfl⟩⟩
  | repetition least most greedy body =>
    obtain ⟨b, hb, rfl⟩ := meaning_repetition.1 h
    obtain ⟨e, n₁, he, halike, hmodes⟩ := Ast.exists_alike (Or.inr ⟨hn, rfl⟩) body hb hsteady
    exact ⟨.repeated least most (greedy != n.swapGreed) e, n₁,
      meaning_repetition.2 ⟨e, he, rfl⟩, halike.repeated _ _ _, hmodes⟩
  | group kind body =>
    cases kind with
    | capture index =>
      obtain ⟨b, m₁, hb, rfl, rfl⟩ := meaning_capture.1 h
      obtain ⟨e, n₁, he, halike, -⟩ := Ast.exists_alike (Or.inr ⟨hn, rfl⟩) body hb hsteady
      exact ⟨.group index e, n, meaning_capture.2 ⟨e, n₁, he, rfl, rfl⟩, halike.group index,
        Or.inr ⟨hn, rfl⟩⟩
    | plain flags =>
      obtain ⟨m₁, hb, rfl⟩ := meaning_plain.1 h
      have hflags := Modes.AsciiOf.setAll (Or.inr ⟨hn, rfl⟩ : n.ascii.AsciiOf n) flags
      obtain ⟨e, n₁, he, halike, -⟩ := Ast.exists_alike hflags body hb hsteady
      exact ⟨e, n, meaning_plain.2 ⟨n₁, he, rfl⟩, halike, Or.inr ⟨hn, rfl⟩⟩
  | alternation branches =>
    obtain ⟨bs, hbs, rfl⟩ := meaning_alternation.1 h
    obtain ⟨es, n₁, hes, halike, hmodes⟩ :=
      Ast.exists_alikeAll (Or.inr ⟨hn, rfl⟩) branches hbs hsteady
    exact ⟨.altAll es, n₁, meaning_alternation.2 ⟨es, hes, rfl⟩, .altAll halike, hmodes⟩
  | concat items =>
    obtain ⟨bs, hbs, rfl⟩ := meaning_concat.1 h
    obtain ⟨es, n₁, hes, halike, hmodes⟩ :=
      Ast.exists_alikeAll (Or.inr ⟨hn, rfl⟩) items hbs hsteady
    exact ⟨.catAll es, n₁, meaning_concat.2 ⟨es, hes, rfl⟩, .catAll halike, hmodes⟩

/-- The same for several expressions, one after another. -/
theorem Ast.exists_alikeAll {m n m' : Modes} {ds : List Expr} (hmn : m.AsciiOf n)
    (items : List Ast) (h : Ast.meaningAll m items = .ok (ds, m'))
    (hsteady : Ast.areSteady m items = true) :
    ∃ es n', Ast.meaningAll n items = .ok (es, n') ∧
      List.Forall₂ (Expr.Alike IsAscii) ds es ∧ m'.AsciiOf n' := by
  cases items with
  | nil =>
    obtain ⟨rfl, rfl⟩ := meaningAll_nil.1 h
    exact ⟨[], n, meaningAll_nil.2 ⟨rfl, rfl⟩, .nil, hmn⟩
  | cons item items =>
    obtain ⟨d, m₁, ds', hd, hds, rfl⟩ := meaningAll_cons.1 h
    rw [Ast.areSteady_cons, Bool.and_eq_true] at hsteady
    obtain ⟨e, n₁, he, halike, hmodes⟩ := Ast.exists_alike hmn item hd hsteady.1
    -- the next item is read in the modes behind this one, in which it is steady too
    rw [← Ast.modes_of_meaning item hd] at hsteady
    obtain ⟨es, n₂, hes, halikes, hmodes'⟩ := Ast.exists_alikeAll hmodes items hds hsteady.2
    exact ⟨e :: es, n₂, meaningAll_cons.2 ⟨e, n₁, es, he, hes, rfl⟩, .cons halike halikes, hmodes'⟩

end

end Waymark.Regex
