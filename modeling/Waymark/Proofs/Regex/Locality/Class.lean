/-
  Waymark.Proofs.Regex.Locality.Class

  Reading a class, whatever closes the text around.  A class ends with a bracket, so all of it
  stands in the text; the places where the text could end inside are those that are no class.

  Main statement: `persists_readClass`.
-/

import Waymark.Proofs.Regex.Locality.Escape
import Waymark.Regex.Parse.Class

namespace Waymark.Regex.Parse

theorem closes_head? {u : List Char} (hu : Closes u) {c : Char} (hc : c ≠ ')') :
    u.head? ≠ some c := by
  intro h
  rcases hu with rfl | ⟨t, rfl⟩
  · exact absurd h (by simp)
  · exact hc (Option.some.inj h).symm

/-! ## Named classes -/

/-- The names of classes hold no parenthesis. -/
theorem asciiClassOf?_close {name : List Char} (h : ')' ∈ name) :
    asciiClassOf? (String.ofList name) = none := by
  have hne : ∀ known : String, ')' ∉ known.toList → String.ofList name ≠ known := by
    rintro known hknown rfl
    rw [String.toList_ofList] at hknown
    exact hknown h
  unfold asciiClassOf?
  split
  case h_15 => rfl
  all_goals
    rename_i heq
    exact absurd heq (hne _ (by decide))

/-- Reads the name of a class and what ends it. -/
def readNamedClass? (negated : Bool) (r : List Char) : Option (ClassSet × List Char) :=
  match r.dropWhile (· != ':') with
  | ':' :: ']' :: rest =>
    (asciiClassOf? (String.ofList (r.takeWhile (· != ':')))).map fun name =>
      (.ascii negated name, rest)
  | _ => none

theorem readNamedClass?_append (negated : Bool) {u : List Char} (hu : Closes u) (r : List Char) :
    readNamedClass? negated (r ++ u) = (readNamedClass? negated r).map fun x => (x.1, x.2 ++ u) := by
  have hsplit := List.takeWhile_append_dropWhile (p := (· != ':')) (l := r)
  rw [readNamedClass?, readNamedClass?, List.dropWhile_append, List.takeWhile_append]
  cases hd : r.dropWhile (· != ':') with
  | nil =>
    -- the name would run past the parenthesis
    rw [hd, List.append_nil] at hsplit
    rw [if_pos (congrArg List.length hsplit)]
    rcases hu with rfl | ⟨t, rfl⟩
    · rfl
    · have hname : asciiClassOf? (String.ofList (r ++ (')' :: t).takeWhile (· != ':'))) = none := by
        refine asciiClassOf?_close (List.mem_append_right r ?_)
        rw [List.takeWhile_cons_of_pos (by decide)]
        exact List.mem_cons_self
      rw [hname]
      split
      · rfl
      · rfl
  | cons d x =>
    -- the colon that ends the name stands in the text
    have hlen : (r.takeWhile (· != ':')).length ≠ r.length := by
      have hsum := congrArg List.length hsplit
      rw [List.length_append, hd, List.length_cons] at hsum
      omega
    rw [if_neg hlen]
    by_cases hcolon : d = ':'
    · subst hcolon
      cases x with
      | nil =>
        rcases hu with rfl | ⟨t, rfl⟩
        · rfl
        · rfl
      | cons e rest =>
        by_cases hbracket : e = ']'
        · subst hbracket
          cases asciiClassOf? (String.ofList (r.takeWhile (· != ':'))) <;> simp
        · simp [hbracket]
    · simp [hcolon]

theorem readAsciiClass?_colon {r : List Char} (hr : r.head? ≠ some '^') :
    readAsciiClass? (':' :: r) = readNamedClass? false r := by
  cases r with
  | nil => rfl
  | cons c r =>
    have hc : c ≠ '^' := fun h => hr (by rw [h, List.head?_cons])
    rw [readAsciiClass?]
    · rfl
    · intro t ht
      exact hc (List.cons.inj ht).1

theorem readAsciiClass?_of_ne {s : List Char} (hs : s.head? ≠ some ':') :
    readAsciiClass? s = none := by
  unfold readAsciiClass?
  split
  · exact absurd rfl hs
  · rfl

/-- Whether a named class stands behind a bracket does not depend on what follows. -/
theorem readAsciiClass?_append {u : List Char} (hu : Closes u) (s : List Char) :
    readAsciiClass? (s ++ u) = (readAsciiClass? s).map fun x => (x.1, x.2 ++ u) := by
  by_cases hs : s.head? = some ':'
  · obtain ⟨r, rfl⟩ := List.head?_eq_some_iff.1 hs
    rw [List.cons_append]
    by_cases hr : r.head? = some '^'
    · obtain ⟨r, rfl⟩ := List.head?_eq_some_iff.1 hr
      exact readNamedClass?_append true hu r
    · have hru : (r ++ u).head? ≠ some '^' := by
        cases r with
        | nil => exact closes_head? hu (by decide)
        | cons c r => exact hr
      rw [readAsciiClass?_colon hr, readAsciiClass?_colon hru]
      exact readNamedClass?_append false hu r
  · have hsu : (s ++ u).head? ≠ some ':' := by
      cases s with
      | nil => exact closes_head? hu (by decide)
      | cons c s => exact hs
    rw [readAsciiClass?_of_ne hs, readAsciiClass?_of_ne hsu, Option.map_none]

theorem length_le_of_readAsciiClass? {s r : List Char} {item : ClassSet}
    (h : readAsciiClass? s = some (item, r)) : r.length ≤ s.length := by
  -- the colon that ends the name stands in the text, so no more than that is read
  have hnamed : ∀ negated t, readNamedClass? negated t = some (item, r) → r.length ≤ t.length := by
    intro negated t ht
    have hle := (List.dropWhile_suffix (l := t) (· != ':')).length_le
    unfold readNamedClass? at ht
    split at ht
    case h_1 rest hd =>
      obtain ⟨a, -, hr⟩ := Option.map_eq_some_iff.1 ht
      cases hr
      rw [hd, List.length_cons, List.length_cons] at hle
      omega
    case h_2 => exact absurd ht (by simp)
  by_cases hs : s.head? = some ':'
  · obtain ⟨t, rfl⟩ := List.head?_eq_some_iff.1 hs
    rw [List.length_cons]
    by_cases ht : t.head? = some '^'
    · obtain ⟨t, rfl⟩ := List.head?_eq_some_iff.1 ht
      have hle := hnamed true t h
      rw [List.length_cons]
      omega
    · rw [readAsciiClass?_colon ht] at h
      have hle := hnamed false t h
      omega
  · rw [readAsciiClass?_of_ne hs] at h
    exact absurd h (by simp)

/-! ## Items -/

theorem persists_readClassPart {verbose : Bool} {p : Part} {s r : List Char}
    (h : readClassPart verbose s = .ok (p, r)) :
    Persists True (fun s r => readClassPart verbose s = .ok (p, r)) s r := by
  cases s with
  | nil => exact absurd h (by simp [readClassPart])
  | cons c s =>
    by_cases hc : c = '\\'
    · subst hc
      exact (persists_readEscape h).cons '\\' fun _ _ h' => h'
    · have hplain : ∀ t, readClassPart verbose (c :: t) = .ok (.plain c, t) := by
        intro t
        unfold readClassPart
        split
        case h_1 heq => exact absurd heq (by simp)
        case h_2 heq => exact absurd (List.cons.inj heq).1 hc
        case h_3 heq =>
          cases heq
          rfl
      rw [hplain] at h
      cases h
      exact Persists.head hplain

theorem peekCounting_append {seenHash : Bool} {s : List Char} {c : Char} (u : List Char)
    (h : peekCounting seenHash s = some c) : peekCounting seenHash (s ++ u) = some c := by
  induction s generalizing seenHash with
  | nil => exact absurd h (by simp [peekCounting])
  | cons d s ih =>
    rw [List.cons_append, peekCounting]
    rw [peekCounting] at h
    by_cases hblank : isBlank d = true
    · rw [if_pos hblank] at h ⊢
      exact ih h
    · rw [if_neg hblank] at h ⊢
      by_cases hhash : (d = '#' && !seenHash) = true
      · rw [if_pos hhash] at h ⊢
        exact ih h
      · rw [if_neg hhash] at h ⊢
        exact h

/-- Where nothing counts, blanks are all there is. -/
theorem skipVerbose_of_peekCounting {seenHash inComment : Bool} {s : List Char}
    (hseen : inComment = true → seenHash = true) (h : peekCounting seenHash s = none) :
    skipVerbose inComment s = [] := by
  induction s generalizing seenHash inComment with
  | nil => cases inComment <;> rfl
  | cons d s ih =>
    rw [peekCounting] at h
    by_cases hblank : isBlank d = true
    · rw [if_pos hblank] at h
      cases inComment with
      | true =>
        rw [skipVerbose]
        exact ih (fun _ => hseen rfl) h
      | false =>
        rw [skipVerbose, if_pos hblank]
        exact ih (fun hf => absurd hf (by simp)) h
    · -- a hash that begins a comment is one that was not seen before
      rw [if_neg hblank] at h
      by_cases hhash : (d = '#' && !seenHash) = true
      · rw [if_pos hhash] at h
        obtain ⟨hd, hunseen⟩ : d = '#' ∧ seenHash = false := by simpa using hhash
        cases inComment with
        | true => exact absurd (hseen rfl) (by simp [hunseen])
        | false =>
          rw [skipVerbose, if_neg hblank, if_pos hd]
          exact ih (fun _ => rfl) h
      · rw [if_neg hhash] at h
        exact absurd h (by simp)

/-- What decides about a hyphen is found in the text, if that goes on or no range follows. -/
theorem peekBehindHyphen_append {verbose : Bool} {s : List Char} (u : List Char)
    (h : skip verbose s ≠ [] ∨ peekBehindHyphen verbose s = some ']' ∨
      peekBehindHyphen verbose s = some '-') :
    peekBehindHyphen verbose (s ++ u) = peekBehindHyphen verbose s := by
  cases verbose with
  | false =>
    cases s with
    | nil => exact absurd h (by simp [skip, peekBehindHyphen])
    | cons c s => rfl
  | true =>
    -- otherwise there are only blanks, which neither decide nor leave anything to read
    have hsome : ∃ c, peekCounting false s = some c := by
      cases hpeek : peekCounting false s with
      | some c => exact ⟨c, rfl⟩
      | none =>
        have hnil : skipVerbose false s = [] := skipVerbose_of_peekCounting (by simp) hpeek
        have hhead : peekBehindHyphen true s = s.head? := by
          rw [peekBehindHyphen, if_pos rfl, hpeek, Option.none_or]
        have hfirst : ∀ c, isBlank c = false → c ≠ '#' → s.head? ≠ some c := by
          intro c hblank hhash hs
          obtain ⟨t, rfl⟩ := List.head?_eq_some_iff.1 hs
          rw [skipVerbose, if_neg (by simp [hblank]), if_neg hhash] at hnil
          exact absurd hnil (by simp)
        rw [hhead] at h
        rcases h with h | h | h
        · exact absurd hnil h
        · exact absurd h (hfirst ']' (by decide) (by decide))
        · exact absurd h (hfirst '-' (by decide) (by decide))
    obtain ⟨c, hc⟩ := hsome
    rw [peekBehindHyphen, if_pos rfl, peekBehindHyphen, if_pos rfl, hc,
      peekCounting_append u hc, Option.some_or, Option.some_or]

/-- Whether the text behind a part makes a range of it. -/
abbrev RangeBehind (verbose : Bool) (c : Char) (s : List Char) : Prop :=
  c = '-' ∧ peekBehindHyphen verbose s ≠ some ']' ∧ peekBehindHyphen verbose s ≠ some '-'

/-- Reads the part that ends a range. -/
def readRangeEnd (verbose : Bool) (part : Part) (s : List Char) :
    Except Error (ClassSet × List Char) :=
  match skip verbose s with
  | [] => .error .classUnclosed
  | s => do
    let (part', rest) ← readClassPart verbose s
    let first ← rangeEndOf part
    let last ← rangeEndOf part'
    if first.char ≤ last.char then return (.range first last, rest)
    else .error .classRangeOrder

/-- Reads what is left of an item behind its first part. -/
def readItemEnd (verbose : Bool) (part : Part) (s : List Char) :
    Except Error (ClassSet × List Char) :=
  match skip verbose s with
  | [] => .error .classUnclosed
  | c :: r =>
    if RangeBehind verbose c r then readRangeEnd verbose part r
    else do return (← itemOf part, c :: r)

theorem readItem_eq (verbose : Bool) (s : List Char) : readItem verbose s = (do
    let (part, r) ← readClassPart verbose s
    readItemEnd verbose part r) := rfl

theorem readRangeEnd_cons {verbose : Bool} {part : Part} {s r : List Char} {c : Char}
    (hs : skip verbose s = c :: r) : readRangeEnd verbose part s = (do
      let (part', rest) ← readClassPart verbose (c :: r)
      let first ← rangeEndOf part
      let last ← rangeEndOf part'
      if first.char ≤ last.char then return (.range first last, rest)
      else .error .classRangeOrder) := by
  rw [readRangeEnd, hs]

theorem readItemEnd_cons {verbose : Bool} {part : Part} {s r : List Char} {c : Char}
    (hs : skip verbose s = c :: r) : readItemEnd verbose part s =
      if RangeBehind verbose c r then readRangeEnd verbose part r
      else do return (← itemOf part, c :: r) := by
  rw [readItemEnd, hs]

theorem persists_readRangeEnd {verbose : Bool} {part : Part} {item : ClassSet} {s r : List Char}
    (h : readRangeEnd verbose part s = .ok (item, r)) :
    Persists True (fun s r => readRangeEnd verbose part s = .ok (item, r)) s r := by
  cases hs : skip verbose s with
  | nil =>
    rw [readRangeEnd, hs] at h
    exact absurd h (by simp)
  | cons c s₁ =>
    rw [readRangeEnd_cons hs, bind_eq_ok] at h
    obtain ⟨⟨part', rest⟩, hpart, h⟩ := h
    obtain ⟨first, hfirst, h⟩ := bind_eq_ok.1 h
    obtain ⟨last, hlast, h⟩ := bind_eq_ok.1 h
    by_cases horder : first.char ≤ last.char
    · rw [if_pos horder] at h
      cases h
      refine Persists.at_skip hs (persists_readClassPart hpart) ?_
      intro s' s₁' r' hs' _ hread
      rw [readRangeEnd_cons hs', hread]
      simp only [bind, Except.bind, hfirst, hlast, if_pos horder]
      rfl
    · rw [if_neg horder] at h
      exact absurd h (by simp)

theorem persists_readItemEnd {verbose : Bool} {part : Part} {item : ClassSet} {s r : List Char}
    (h : readItemEnd verbose part s = .ok (item, r)) :
    Persists True (fun s r => readItemEnd verbose part s = .ok (item, r)) s r := by
  cases hs : skip verbose s with
  | nil =>
    rw [readItemEnd, hs] at h
    exact absurd h (by simp)
  | cons c s₁ =>
    rw [readItemEnd_cons hs] at h
    by_cases hrange : RangeBehind verbose c s₁
    · rw [if_pos hrange] at h
      -- a range has an end, so what decides about the hyphen is found before the text ends
      have hskip : skip verbose s₁ ≠ [] := by
        intro hnil
        rw [readRangeEnd, hnil] at h
        exact absurd h (by simp)
      have hstays : ∀ u, Closes u → RangeBehind verbose c (s₁ ++ u) := by
        intro u _
        rw [RangeBehind, peekBehindHyphen_append u (Or.inl hskip)]
        exact hrange
      refine Persists.behind_skip hs ((persists_readRangeEnd h).and hstays) ?_
      intro s' s₁' r' hs' _ hread
      rw [readItemEnd_cons hs', if_pos hread.1]
      exact hread.2
    · rw [if_neg hrange, bind_eq_ok] at h
      obtain ⟨item', hitem, h⟩ := h
      cases h
      -- a hyphen that makes no range stands before a bracket or a hyphen
      have hstays : ∀ u, ¬ RangeBehind verbose c (s₁ ++ u) := by
        intro u hu
        have hpeek : peekBehindHyphen verbose s₁ = some ']' ∨
            peekBehindHyphen verbose s₁ = some '-' := by
          by_cases hbracket : peekBehindHyphen verbose s₁ = some ']'
          · exact Or.inl hbracket
          · exact Or.inr (Decidable.byContradiction fun hhyphen =>
              hrange ⟨hu.1, hbracket, hhyphen⟩)
        rw [RangeBehind, peekBehindHyphen_append u (Or.inr hpeek)] at hu
        exact hrange hu
      have hrefl : Persists True (fun s r => s = r ∧ ¬ RangeBehind verbose c s.tail) (c :: s₁)
          (c :: s₁) := Persists.refl fun u _ => ⟨rfl, hstays u⟩
      refine Persists.at_skip hs hrefl ?_
      rintro s' s₁' r' hs' - ⟨rfl, hread⟩
      change ¬ RangeBehind verbose c s₁' at hread
      rw [readItemEnd_cons hs', if_neg hread, hitem]
      rfl

theorem persists_readItem {verbose : Bool} {item : ClassSet} {s r : List Char}
    (h : readItem verbose s = .ok (item, r)) :
    Persists True (fun s r => readItem verbose s = .ok (item, r)) s r := by
  rw [readItem_eq, bind_eq_ok] at h
  obtain ⟨⟨part, r₁⟩, hpart, hend⟩ := h
  refine (persists_readClassPart hpart).trans (persists_readItemEnd hend) ?_
  intro s' r' q' _ hpart' hend'
  rw [readItem_eq, hpart']
  exact hend'

theorem length_lt_of_readItem {verbose : Bool} {item : ClassSet} {s r : List Char}
    (h : readItem verbose s = .ok (item, r)) : r.length < s.length := by
  rw [readItem_eq, bind_eq_ok] at h
  obtain ⟨⟨part, r₁⟩, hpart, hend⟩ := h
  have hle := (persists_readItemEnd hend).length_le
  have hlt : r₁.length < s.length := by
    unfold readClassPart at hpart
    split at hpart
    case h_1 => exact absurd hpart (by simp)
    case h_2 => exact Nat.lt_succ_of_le (persists_readEscape hpart).length_le
    case h_3 =>
      cases hpart
      exact Nat.lt_succ_self _
  exact Nat.lt_of_le_of_lt hle hlt

/-! ## Brackets -/

theorem persists_openHyphens {verbose : Bool} {fuel : Nat} {f g : ClassFrame} {s r : List Char}
    (h : openHyphens verbose fuel f s = .ok (g, r)) :
    Persists True (fun s r => ∀ fuel', s.length < fuel' →
      openHyphens verbose fuel' f s = .ok (g, r)) s r := by
  induction fuel generalizing f s with
  | zero =>
    rw [openHyphens] at h
    exact absurd h (by simp)
  | succ fuel ih =>
    cases s with
    | nil =>
      rw [openHyphens] at h
      exact absurd h (by simp)
    | cons c s =>
      rw [openHyphens] at h
      by_cases hc : c = '-'
      · -- a hyphen is a member, and blanks behind it are skipped before the next one
        rw [if_pos hc] at h
        have hread := (persists_skip verbose s).trans (ih h)
          (R := fun s r => ∀ fuel', s.length < fuel' → openHyphens verbose fuel'
            (f.push (.literal ⟨'-', false⟩)) (skip verbose s) = .ok (g, r))
          (fun s' r' q' hlen' hskip hread fuel' hfuel' => hskip ▸ hread fuel' (by omega))
        refine hread.cons c ?_
        intro s' r' h' fuel' hfuel'
        rw [List.length_cons] at hfuel'
        cases fuel' with
        | zero => exact absurd hfuel' (Nat.not_lt_zero _)
        | succ fuel' => rw [openHyphens, if_pos hc, h' fuel' (by omega)]
      · rw [if_neg hc] at h
        cases h
        refine Persists.refl fun u _ fuel' hfuel' => ?_
        cases fuel' with
        | zero => exact absurd hfuel' (Nat.not_lt_zero _)
        | succ fuel' => rw [List.cons_append, openHyphens, if_neg hc]

/-- Reads the caret that negates a class. -/
def readCaret (verbose : Bool) (s : List Char) : Bool × List Char :=
  match skip verbose s with
  | '^' :: s => (true, skip verbose s)
  | s => (false, s)

/-- Reads a closing bracket that stands first in a class. -/
def readFirstBracket (verbose : Bool) (f : ClassFrame) (s : List Char) :
    Except Error (ClassFrame × List Char) :=
  match f.items, s with
  | [], ']' :: s =>
    match skip verbose s with
    | [] => .error .classUnclosed
    | s => .ok (f.push (.literal ⟨']', false⟩), s)
  | _, s => .ok (f, s)

theorem openClass_eq (verbose : Bool) (s : List Char) : openClass verbose s = (do
    let (f, r) ← openHyphens verbose ((readCaret verbose s).2.length + 1)
      ⟨(readCaret verbose s).1, none, []⟩ (readCaret verbose s).2
    readFirstBracket verbose f r) := rfl

theorem readCaret_of_ne {verbose : Bool} {s : List Char} (h : (skip verbose s).head? ≠ some '^') :
    readCaret verbose s = (false, skip verbose s) := by
  unfold readCaret
  split
  case h_1 heq => exact absurd (by rw [heq, List.head?_cons]) h
  case h_2 => rfl

theorem persists_readCaret {verbose negated : Bool} {c : Char} {s r : List Char}
    (h : readCaret verbose s = (negated, c :: r)) :
    Persists True (fun s r => readCaret verbose s = (negated, r)) s (c :: r) := by
  by_cases hcaret : (skip verbose s).head? = some '^'
  · obtain ⟨s₁, hs⟩ := List.head?_eq_some_iff.1 hcaret
    rw [readCaret, hs] at h
    obtain ⟨hnegated, hskip⟩ := Prod.mk.inj h
    have hread := persists_skip verbose s₁
    rw [hskip] at hread
    refine Persists.behind_skip hs hread ?_
    intro s' s₁' r' hs' _ hskip'
    rw [readCaret, hs', ← hnegated, ← hskip']
    rfl
  · rw [readCaret_of_ne hcaret] at h
    obtain ⟨hnegated, hskip⟩ := Prod.mk.inj h
    rw [hskip] at hcaret
    have hrefl : Persists True (fun s r => s = r) (c :: r) (c :: r) := Persists.refl fun _ _ => rfl
    refine Persists.at_skip hskip hrefl ?_
    rintro s' s₁' r' hs' - rfl
    rw [readCaret_of_ne (by rw [hs']; exact hcaret), hnegated, hs']

theorem persists_readFirstBracket {verbose : Bool} {f g : ClassFrame} {c : Char} {s r : List Char}
    (h : readFirstBracket verbose f (c :: s) = .ok (g, r)) :
    Persists True (fun s r => readFirstBracket verbose f s = .ok (g, r)) (c :: s) r := by
  by_cases hfirst : f.items = [] ∧ c = ']'
  · obtain ⟨hitems, rfl⟩ := hfirst
    have hcons : ∀ {s s₁ : List Char} {d : Char}, skip verbose s = d :: s₁ →
        readFirstBracket verbose f (']' :: s) = .ok (f.push (.literal ⟨']', false⟩), d :: s₁) := by
      intro s s₁ d hs
      rw [readFirstBracket, hs]
      exact hitems
    -- behind the bracket blanks are passed over, and the class goes on
    cases hs : skip verbose s with
    | nil =>
      rw [readFirstBracket, hs] at h
      · exact absurd h (by simp)
      · exact hitems
    | cons d s₁ =>
      rw [hcons hs] at h
      cases h
      have hrefl : Persists True (fun s r => s = r) (d :: s₁) (d :: s₁) :=
        Persists.refl fun _ _ => rfl
      refine Persists.cons ']' (Persists.at_skip hs hrefl (fun s' s₁' r' hs' _ heq => ?_))
        (fun _ _ h' => h')
      rw [hcons hs', heq]
  · have hskip : ∀ t, readFirstBracket verbose f (c :: t) = .ok (f, c :: t) := by
      intro t
      unfold readFirstBracket
      split
      case h_1 hitems heq => exact absurd ⟨hitems, (List.cons.inj heq).1⟩ hfirst
      case h_2 => rfl
    rw [hskip] at h
    cases h
    exact Persists.refl fun u _ => hskip (s ++ u)

theorem openHyphens_ne_nil {verbose : Bool} {fuel : Nat} {f g : ClassFrame} {s : List Char} :
    openHyphens verbose fuel f s ≠ .ok (g, []) := by
  intro h
  induction fuel generalizing f s with
  | zero => exact absurd h (by simp [openHyphens])
  | succ fuel ih =>
    cases s with
    | nil => exact absurd h (by simp [openHyphens])
    | cons c s =>
      rw [openHyphens] at h
      by_cases hc : c = '-'
      · rw [if_pos hc] at h
        exact ih h
      · rw [if_neg hc] at h
        exact absurd h (by simp)

theorem persists_openClass {verbose : Bool} {f : ClassFrame} {s r : List Char}
    (h : openClass verbose s = .ok (f, r)) :
    Persists True (fun s r => openClass verbose s = .ok (f, r)) s r := by
  rw [openClass_eq, bind_eq_ok] at h
  obtain ⟨⟨g, r₁⟩, hhyphens, h⟩ := h
  cases r₁ with
  | nil => exact absurd hhyphens openHyphens_ne_nil
  | cons d r₁ =>
    cases hcaret : readCaret verbose s with
    | mk negated s₁ =>
      rw [hcaret] at hhyphens
      -- a class cannot end behind its caret
      cases s₁ with
      | nil => exact absurd hhyphens (by simp [openHyphens])
      | cons c s₁ =>
        have hopen := (persists_readCaret hcaret).trans (persists_openHyphens hhyphens)
          (R := fun s r => openHyphens verbose ((readCaret verbose s).2.length + 1)
            ⟨(readCaret verbose s).1, none, []⟩ (readCaret verbose s).2 = .ok (g, r))
          (fun s' r' q' _ hcaret' hread => by
            rw [hcaret']
            exact hread _ (Nat.lt_succ_self _))
        refine hopen.trans (persists_readFirstBracket h) ?_
        intro s' r' q' _ hread hfirst
        rw [openClass_eq, hread]
        exact hfirst

/-- The sign of an operation between sets, and what stands behind it. -/
def setOp? : List Char → Option (SetOp × List Char)
  | '&' :: '&' :: s => some (.intersection, s)
  | '-' :: '-' :: s => some (.difference, s)
  | '~' :: '~' :: s => some (.symmetricDifference, s)
  | _ => none

theorem setOp?_of_ne {c d : Char} (h : c ≠ d ∨ c ∉ ['&', '-', '~']) (s : List Char) :
    setOp? (c :: d :: s) = none := by
  unfold setOp?
  split
  case h_4 => rfl
  all_goals
    rename_i heq
    cases heq
    exact absurd h (by decide)

theorem setOp?_append {u : List Char} (hu : Closes u) (s : List Char) :
    setOp? (s ++ u) = (setOp? s).map fun x => (x.1, x.2 ++ u) := by
  match s with
  | [] =>
    rcases hu with rfl | ⟨t, rfl⟩
    · rfl
    · cases t <;> rfl
  | [c] =>
    rcases hu with rfl | ⟨t, rfl⟩
    · rw [List.append_nil]
      cases setOp? [c] <;> simp
    · -- the parenthesis would have to be the second sign
      have hc : c ≠ ')' ∨ c ∉ ['&', '-', '~'] := by
        by_cases h : c = ')'
        · exact Or.inr (by rw [h]; decide)
        · exact Or.inl h
      have hnone : setOp? [c] = none := by
        unfold setOp?
        split
        case h_4 => rfl
        all_goals rename_i heq; exact absurd heq (by simp)
      rw [hnone, Option.map_none]
      exact setOp?_of_ne hc t
  | c :: d :: s =>
    by_cases h : c ≠ d ∨ c ∉ ['&', '-', '~']
    · rw [List.cons_append, List.cons_append, setOp?_of_ne h, setOp?_of_ne h, Option.map_none]
    · have hcd : c = d := Decidable.byContradiction fun hne => h (Or.inl hne)
      have hc : c ∈ ['&', '-', '~'] := Decidable.byContradiction fun hne => h (Or.inr hne)
      subst hcd
      simp only [List.mem_cons, List.not_mem_nil, or_false] at hc
      rcases hc with rfl | rfl | rfl <;> rfl

theorem length_lt_of_setOp? {s r : List Char} {kind : SetOp} (h : setOp? s = some (kind, r)) :
    r.length < s.length := by
  unfold setOp? at h
  split at h
  case h_4 => exact absurd h (by simp)
  all_goals
    cases h
    rw [List.length_cons, List.length_cons]
    omega

/-! ## Classes -/

/-- The rest of the open classes is read from a text, with any fuel that is enough. -/
def ClassEnds (verbose : Bool) (f : ClassFrame) (outer : List ClassFrame) (set : Bool × ClassSet)
    (s r : List Char) : Prop :=
  ∀ fuel, s.length < fuel → readClassFrom verbose fuel f outer s = .ok (set.1, set.2, r)

section

variable {verbose : Bool} {f : ClassFrame} {outer : List ClassFrame} {s s₁ : List Char}

theorem readClassFrom_open (fuel : Nat) (hs : skip verbose s = '[' :: s₁) :
    readClassFrom verbose (fuel + 1) f outer s =
      match readAsciiClass? s₁ with
      | some (item, rest) => readClassFrom verbose fuel (f.push item) outer rest
      | none => (do
        let (g, rest) ← openClass verbose s₁
        readClassFrom verbose fuel g (f :: outer) rest) := by
  rw [readClassFrom, hs]
  rfl

theorem readClassFrom_close (fuel : Nat) (hs : skip verbose s = ']' :: s₁) :
    readClassFrom verbose (fuel + 1) f outer s =
      match outer with
      | [] => .ok (f.negated, f.set, s₁)
      | g :: outer =>
        readClassFrom verbose fuel (g.push (.bracketed f.negated f.set)) outer s₁ := by
  rw [readClassFrom, hs]
  rfl

/-- Reads a part of a class that is no bracket. -/
theorem readClassFrom_inner (fuel : Nat) {c : Char} (hs : skip verbose s = c :: s₁)
    (hopen : c ≠ '[') (hclose : c ≠ ']') :
    readClassFrom verbose (fuel + 1) f outer s =
      match setOp? (c :: s₁) with
      | some (kind, rest) => readClassFrom verbose fuel (f.operate kind) outer rest
      | none => (do
        let (item, rest) ← readItem verbose (c :: s₁)
        readClassFrom verbose fuel (f.push item) outer rest) := by
  rw [readClassFrom, hs]
  split
  case h_1 heq => exact absurd heq (by simp)
  case h_2 heq => exact absurd (List.cons.inj heq).1 hopen
  case h_3 heq => exact absurd (List.cons.inj heq).1 hclose
  case h_4 heq | h_5 heq | h_6 heq =>
    rw [heq]
    rfl
  case h_7 hand hminus htilde =>
    have hnone : setOp? (c :: s₁) = none := by
      unfold setOp?
      split
      case h_4 => rfl
      case h_1 heq => exact absurd heq (hand _)
      case h_2 heq => exact absurd heq (hminus _)
      case h_3 heq => exact absurd heq (htilde _)
    rw [hnone]

variable {set : Bool × ClassSet} {t r : List Char}

theorem ClassEnds.named {item : ClassSet} (hs : skip verbose s = '[' :: s₁)
    (hitem : readAsciiClass? s₁ = some (item, t))
    (h : ClassEnds verbose (f.push item) outer set t r) : ClassEnds verbose f outer set s r := by
  intro fuel hfuel
  have hlen := length_lt_of_skip hs
  have hlen' := length_le_of_readAsciiClass? hitem
  obtain ⟨fuel, rfl⟩ := Nat.exists_eq_add_one_of_ne_zero (by omega : fuel ≠ 0)
  rw [readClassFrom_open fuel hs, hitem]
  exact h fuel (by omega)

theorem ClassEnds.opened {g : ClassFrame} (hs : skip verbose s = '[' :: s₁)
    (hnone : readAsciiClass? s₁ = none) (hopen : openClass verbose s₁ = .ok (g, t))
    (h : ClassEnds verbose g (f :: outer) set t r) : ClassEnds verbose f outer set s r := by
  intro fuel hfuel
  have hlen := length_lt_of_skip hs
  have hlen' := (persists_openClass hopen).length_le
  obtain ⟨fuel, rfl⟩ := Nat.exists_eq_add_one_of_ne_zero (by omega : fuel ≠ 0)
  rw [readClassFrom_open fuel hs, hnone]
  simp only [hopen, bind, Except.bind]
  exact h fuel (by omega)

theorem ClassEnds.last (hs : skip verbose s = ']' :: r) :
    ClassEnds verbose f [] (f.negated, f.set) s r := by
  intro fuel hfuel
  obtain ⟨fuel, rfl⟩ := Nat.exists_eq_add_one_of_ne_zero (by omega : fuel ≠ 0)
  rw [readClassFrom_close fuel hs]

theorem ClassEnds.closed {g : ClassFrame} (hs : skip verbose s = ']' :: s₁)
    (h : ClassEnds verbose (g.push (.bracketed f.negated f.set)) outer set s₁ r) :
    ClassEnds verbose f (g :: outer) set s r := by
  intro fuel hfuel
  have hlen := length_lt_of_skip hs
  obtain ⟨fuel, rfl⟩ := Nat.exists_eq_add_one_of_ne_zero (by omega : fuel ≠ 0)
  rw [readClassFrom_close fuel hs]
  exact h fuel (by omega)

theorem ClassEnds.operated {c : Char} {kind : SetOp} (hs : skip verbose s = c :: s₁)
    (hopen : c ≠ '[') (hclose : c ≠ ']') (hop : setOp? (c :: s₁) = some (kind, t))
    (h : ClassEnds verbose (f.operate kind) outer set t r) : ClassEnds verbose f outer set s r := by
  intro fuel hfuel
  have hlen := length_lt_of_skip hs
  have hlen' := length_lt_of_setOp? hop
  rw [List.length_cons] at hlen'
  obtain ⟨fuel, rfl⟩ := Nat.exists_eq_add_one_of_ne_zero (by omega : fuel ≠ 0)
  rw [readClassFrom_inner fuel hs hopen hclose, hop]
  exact h fuel (by omega)

theorem ClassEnds.added {c : Char} {item : ClassSet} (hs : skip verbose s = c :: s₁)
    (hopen : c ≠ '[') (hclose : c ≠ ']') (hop : setOp? (c :: s₁) = none)
    (hitem : readItem verbose (c :: s₁) = .ok (item, t))
    (h : ClassEnds verbose (f.push item) outer set t r) : ClassEnds verbose f outer set s r := by
  intro fuel hfuel
  have hlen := length_lt_of_skip hs
  have hlen' := length_lt_of_readItem hitem
  rw [List.length_cons] at hlen'
  obtain ⟨fuel, rfl⟩ := Nat.exists_eq_add_one_of_ne_zero (by omega : fuel ≠ 0)
  rw [readClassFrom_inner fuel hs hopen hclose, hop]
  simp only [hitem, bind, Except.bind]
  exact h fuel (by omega)

end

/-- A class has not ended where the text does. -/
theorem ne_nil_of_readClassFrom {verbose : Bool} {fuel : Nat} {f : ClassFrame}
    {outer : List ClassFrame} {set : Bool × ClassSet × List Char} {s : List Char}
    (h : readClassFrom verbose fuel f outer s = .ok set) : s ≠ [] := by
  rintro rfl
  cases fuel with
  | zero =>
    rw [readClassFrom] at h
    exact absurd h (by simp)
  | succ fuel =>
    have hskip : skip verbose [] = [] := by cases verbose <;> rfl
    rw [readClassFrom, hskip] at h
    exact absurd h (by simp)

theorem persists_readClassFrom {loose : Prop} {verbose : Bool} {fuel : Nat} {f : ClassFrame}
    {outer : List ClassFrame} {negated : Bool} {set : ClassSet} {s r : List Char}
    (h : readClassFrom verbose fuel f outer s = .ok (negated, set, r)) :
    Persists loose (ClassEnds verbose f outer (negated, set)) s r := by
  -- one step of the reader and one rule of `ClassEnds` for each kind of part
  induction fuel generalizing f outer s with
  | zero =>
    rw [readClassFrom] at h
    exact absurd h (by simp)
  | succ fuel ih =>
    cases hs : skip verbose s with
    | nil =>
      rw [readClassFrom, hs] at h
      exact absurd h (by simp)
    | cons c s₁ =>
      by_cases hopen : c = '['
      · subst hopen
        rw [readClassFrom_open fuel hs] at h
        cases hnamed : readAsciiClass? s₁ with
        | some x =>
          obtain ⟨item, rest⟩ := x
          simp only [hnamed] at h
          have hread : Persists loose (fun s r => readAsciiClass? s = some (item, r)) s₁ rest := by
            refine Persists.of_all (length_le_of_readAsciiClass? hnamed) fun u hu => ?_
            rw [readAsciiClass?_append hu, hnamed, Option.map_some]
          refine Persists.behind_skip hs (hread.comp (ih h)) ?_
          rintro s' s₁' r' hs' - ⟨t, hitem, hrest⟩
          exact hrest.named hs' hitem
        | none =>
          simp only [hnamed, bind_eq_ok] at h
          obtain ⟨⟨g, rest⟩, hclass, h⟩ := h
          have hnone : ∀ u, Closes u → readAsciiClass? (s₁ ++ u) = none := by
            intro u hu
            rw [readAsciiClass?_append hu, hnamed, Option.map_none]
          -- the class goes on behind what is read, so that does not end in a comment
          have hrest := ne_nil_of_readClassFrom h
          have hread := (((persists_openClass hclass).of_ne_nil hrest).comp (ih h)).and
            (S := fun t => readAsciiClass? t = none) hnone
          refine Persists.behind_skip hs hread ?_
          rintro s' s₁' r' hs' - ⟨hnone', t, hclass', hrest⟩
          exact hrest.opened hs' hnone' hclass'
      · by_cases hclose : c = ']'
        · subst hclose
          rw [readClassFrom_close fuel hs] at h
          cases outer with
          | nil =>
            cases h
            have hrefl : Persists loose (fun s r => s = r) r r := Persists.refl fun _ _ => rfl
            refine Persists.behind_skip hs hrefl ?_
            rintro s' s₁' r' hs' - rfl
            exact ClassEnds.last hs'
          | cons g outer =>
            exact Persists.behind_skip hs (ih h) fun s' s₁' r' hs' _ => ClassEnds.closed hs'
        · rw [readClassFrom_inner fuel hs hopen hclose] at h
          cases hop : setOp? (c :: s₁) with
          | some x =>
            obtain ⟨kind, rest⟩ := x
            simp only [hop] at h
            have hread : Persists loose (fun s r => setOp? s = some (kind, r)) (c :: s₁) rest := by
              refine Persists.of_all (Nat.le_of_lt (length_lt_of_setOp? hop)) fun u hu => ?_
              rw [setOp?_append hu, hop, Option.map_some]
            refine Persists.at_skip hs (hread.comp (ih h)) ?_
            rintro s' s₁' r' hs' - ⟨t, hop', hrest⟩
            exact hrest.operated hs' hopen hclose hop'
          | none =>
            simp only [hop, bind_eq_ok] at h
            obtain ⟨⟨item, rest⟩, hitem, h⟩ := h
            have hnone : ∀ u, Closes u → setOp? (c :: s₁ ++ u) = none := by
              intro u hu
              rw [setOp?_append hu, hop, Option.map_none]
            have hrest := ne_nil_of_readClassFrom h
            have hread := (((persists_readItem hitem).of_ne_nil hrest).comp (ih h)).and
              (S := fun t => setOp? t = none) hnone
            refine Persists.at_skip hs hread ?_
            rintro s' s₁' r' hs' - ⟨hnone', t, hitem', hrest⟩
            exact hrest.added hs' hopen hclose hnone' hitem'

theorem persists_readClass {loose : Prop} {verbose : Bool} {ast : Ast} {s r : List Char}
    (h : readClass verbose s = .ok (ast, r)) :
    Persists loose (fun s r => readClass verbose s = .ok (ast, r)) s r := by
  rw [readClass, bind_eq_ok] at h
  obtain ⟨⟨f, r₁⟩, hopen, h⟩ := h
  obtain ⟨⟨negated, set, r₂⟩, hfrom, h⟩ := bind_eq_ok.1 h
  cases h
  have hrest := ne_nil_of_readClassFrom hfrom
  refine ((persists_openClass hopen).of_ne_nil hrest).trans (persists_readClassFrom hfrom) ?_
  intro s' r' q' _ hopen' hfrom'
  rw [readClass, hopen']
  simp only [bind, Except.bind, hfrom' _ (Nat.lt_succ_self _)]
  rfl

end Waymark.Regex.Parse
