/-
  Waymark.Proofs.Regex.Spans

  What a match goes through, for expressions of any kind.  A span relates a text, the groups that
  are set on the way and the rest of the text.  `Leads` says that whatever is found was found
  behind such a span: the order of preference does not matter here, nor what was tried in vain.

  Main statements: `leads_inside`, an expression sets none but its own groups, and
  `found_of_search`.
-/

import Waymark.Proofs.Regex.Nesting
import Waymark.Proofs.Regex.Sequence

namespace Waymark.Regex

/-! ## Spans -/

/-- A text, the groups that are set on the way, the latest first, and the rest of the text. -/
abbrev Span := List Char → Groups → List Char → Prop

namespace Span

/-- Nothing is taken. -/
def skip : Span := fun s δ t => δ = [] ∧ t = s

/-- One span behind another. -/
def seq (R S : Span) : Span := fun s δ t => ∃ δ₁ r δ₂, R s δ₁ r ∧ S r δ₂ t ∧ δ = δ₂ ++ δ₁

/-- One span or another. -/
def or (R S : Span) : Span := fun s δ t => R s δ t ∨ S s δ t

/-- A group: what it takes is its text. -/
def group (index : Nat) (R : Span) : Span := fun s δ t =>
  ∃ u δ', s = u ++ t ∧ R s δ' t ∧ δ = (index, u) :: δ'

/-- No groups are set but those in a list. -/
def inside (is : List Nat) : Span := fun s δ t => t <:+ s ∧ ∀ e ∈ δ, e.1 ∈ is

/-- A text of a kind, and no groups. -/
def text (Q : List Char → Prop) : Span := fun s δ t => ∃ u, s = u ++ t ∧ Q u ∧ δ = []

/-- Whether a span holds of any number of rounds if it holds of each: where nothing is taken, and of
    one round behind another. -/
structure Iterates (R : Span) : Prop where
  skip : ∀ s δ t, Span.skip s δ t → R s δ t
  seq : ∀ s δ t, R.seq R s δ t → R s δ t

theorem iterates_inside (is : List Nat) : Iterates (inside is) := by
  refine ⟨?_, ?_⟩
  · rintro s δ t ⟨rfl, rfl⟩
    exact ⟨List.suffix_refl _, fun e he => absurd he List.not_mem_nil⟩
  · rintro s δ t ⟨δ₁, r, δ₂, h₁, h₂, rfl⟩
    refine ⟨h₂.1.trans h₁.1, fun e he => ?_⟩
    rcases List.mem_append.1 he with he | he
    · exact h₂.2 e he
    · exact h₁.2 e he

theorem iterates_text_all (p : Char → Bool) : Iterates (text fun u => u.all p = true) := by
  refine ⟨?_, ?_⟩
  · rintro s δ t ⟨rfl, rfl⟩
    exact ⟨[], rfl, rfl, rfl⟩
  · rintro s δ t ⟨δ₁, r, δ₂, ⟨u, rfl, hu, rfl⟩, ⟨v, rfl, hv, rfl⟩, rfl⟩
    refine ⟨u ++ v, (List.append_assoc u v t).symm, ?_, rfl⟩
    show (u ++ v).all p = true
    rw [List.all_append, hu, hv]
    rfl

end Span

/-! ## Searches -/

/-- Whatever is found by way of `f` was found behind a span `R`. -/
def Leads (f : Continuation → Continuation) (R : Span) : Prop :=
  ∀ k c g v G, f k c g v = .found G →
    ∃ d δ v', R c.rest δ d.rest ∧ k d (δ ++ g) v' = .found G

namespace Leads

variable {f f' : Continuation → Continuation} {R S : Span}

theorem imp (h : Leads f R) (hRS : ∀ s δ t, R s δ t → S s δ t) : Leads f S := by
  intro k c g v G hf
  obtain ⟨d, δ, v', hR, hk⟩ := h k c g v G hf
  exact ⟨d, δ, v', hRS _ _ _ hR, hk⟩

theorem skip : Leads (fun k => k) Span.skip := fun _ c _ v _ hk =>
  ⟨c, [], v, ⟨rfl, rfl⟩, hk⟩

theorem comp (h : Leads f R) (h' : Leads f' S) : Leads (fun k => f (f' k)) (R.seq S) := by
  intro k c g v G hf
  obtain ⟨d, δ, v', hR, hk⟩ := h _ c g v G hf
  obtain ⟨d', δ', v'', hS, hk'⟩ := h' _ d _ v' G hk
  exact ⟨d', δ' ++ δ, v'', ⟨δ, d.rest, δ', hR, hS, rfl⟩, by rw [List.append_assoc]; exact hk'⟩

theorem first (h : Leads f R) (h' : Leads f' S) :
    Leads (fun k => Regex.first (f k) (f' k)) (R.or S) := by
  intro k c g v G hf
  cases hres : f k c g v with
  | found G' =>
    have hG : Outcome.found G' = .found G := (first_of_found hres).symm.trans hf
    obtain ⟨d, δ, v', hR, hk⟩ := h k c g v G' hres
    exact ⟨d, δ, v', Or.inl hR, hk.trans hG⟩
  | failed v' =>
    have hl : f' k c g v' = .found G := (first_of_failed hres).symm.trans hf
    obtain ⟨d, δ, v'', hS, hk⟩ := h' k c g v' G hl
    exact ⟨d, δ, v'', Or.inr hS, hk⟩

theorem choose (greedy : Bool) (h : Leads f R) (h' : Leads f' S) :
    Leads (fun k => Regex.choose greedy (f k) (f' k)) (R.or S) := by
  cases greedy with
  | true => exact h.first h'
  | false => exact (h'.first h).imp fun s δ t => Or.symm

theorem once (label : Nat) (h : Leads f R) : Leads (fun k => Regex.once label (f k)) R := by
  intro k c g v G hf
  change (if v.contains c.left label then Outcome.failed v
    else f k c g (v.insert c.left label)) = _ at hf
  by_cases hv : v.contains c.left label = true
  · rw [if_pos hv] at hf
    exact absurd hf (by simp)
  · rw [if_neg hv] at hf
    exact h k c g _ G hf

/-- Rounds of a body. -/
theorem again (label : Nat) (greedy : Bool) (hR : R.Iterates) (h : Leads f R) (rounds : Nat) :
    Leads (fun k => Regex.again label greedy f k rounds) R := by
  induction rounds with
  | zero =>
    intro k c g v G hf
    exact absurd hf (by simp [Regex.again, giveUp])
  | succ rounds ih =>
    have hround := ((h.comp ih).imp hR.seq).choose greedy (skip.imp hR.skip)
    exact (hround.once label).imp fun _ _ _ hor => hor.elim id id

end Leads

/-! ## Plans -/

theorem Cursor.upTo_append {c d : Cursor} (h : d.rest <:+ c.rest) :
    c.rest = c.upTo d ++ d.rest := by
  obtain ⟨u, hu⟩ := h
  rw [Cursor.upTo, c.left_eq, d.left_eq, ← hu, List.length_append, Nat.add_sub_cancel,
    List.take_left]

theorem Leads.set (S : CharSet) :
    Leads (Plan.set S).run (fun s δ t => ∃ x, S.contains x = true ∧ s = x :: t ∧ δ = []) := by
  intro k c g v G hf
  cases hn : c.next? with
  | none =>
    rw [run_set_of_none hn] at hf
    exact absurd hf (by simp)
  | some xd =>
    obtain ⟨x, d⟩ := xd
    rw [run_set_of_some hn] at hf
    by_cases hx : S.contains x = true
    · rw [if_pos hx] at hf
      exact ⟨d, [], v, ⟨x, hx, Cursor.rest_eq_of_next? hn, rfl⟩, hf⟩
    · rw [if_neg hx] at hf
      exact absurd hf (by simp)

theorem Leads.look (l : Look) :
    Leads (Plan.look l).run (fun s δ t => δ = [] ∧ t = s ∧ ∃ before, l.holds before s.head?) := by
  intro k c g v G hf
  change (if l.holds c.before c.rest.head? then k c g v else .failed v) = _ at hf
  by_cases hl : l.holds c.before c.rest.head? = true
  · rw [if_pos hl] at hf
    exact ⟨c, [], v, ⟨rfl, rfl, c.before, hl⟩, hf⟩
  · rw [if_neg hl] at hf
    exact absurd hf (by simp)

theorem Leads.group (index : Nat) {p : Plan} {R : Span} (hR : ∀ s δ t, R s δ t → t <:+ s)
    (h : Leads p.run R) : Leads (Plan.group index p).run (R.group index) := by
  intro k c g v G hf
  obtain ⟨d, δ, v', hd, hk⟩ := h _ c g v G hf
  exact ⟨d, (index, c.upTo d) :: δ, v',
    ⟨c.upTo d, δ, Cursor.upTo_append (hR _ _ _ hd), hd, rfl⟩, hk⟩

/-! ## Drafts -/

/-- The same of a draft, from any label on. -/
abbrev Draws (D : Plan.Draft) (R : Span) : Prop := ∀ n, Leads (D n).1.run R

namespace Draws

variable {D E : Plan.Draft} {R S : Span} {is : List Nat}

theorem empty : Draws (.pure .empty) Span.skip := fun _ => Leads.skip

theorem cat (hD : Draws D R) (hE : Draws E S) : Draws (D.cat E) (R.seq S) := fun n =>
  (hD n).comp (hE (D n).2)

theorem maybe (greedy : Bool) (hD : Draws D R) :
    Draws (Plan.Draft.maybe greedy D) (R.or Span.skip) := fun n =>
  ((hD (n + 1)).choose greedy Leads.skip).once n

theorem imp (hD : Draws D R) (hRS : ∀ s δ t, R s δ t → S s δ t) : Draws D S := fun n =>
  (hD n).imp hRS

theorem alt {a b : Expr} (ha : Draws (Plan.draft a) R) (hb : Draws (Plan.draft b) S) :
    Draws (Plan.draft (.alt a b)) (R.or S) := fun n =>
  ((ha _).first (hb _)).once n

/-- One round of a body, then any number of them. -/
theorem plus (greedy : Bool) (hR : R.Iterates) (hSR : ∀ s δ t, S s δ t → R s δ t)
    (hD : Draws D S) : Draws (Plan.Draft.plus greedy D) (S.seq R) := by
  intro n k c g v G hf
  have hrounds := (hD (n + 1)).comp (((hD (n + 1)).imp hSR).again n greedy hR (c.left + 1))
  exact hrounds k c g v G hf

section

variable (hR : R.Iterates) (hD : Draws D R)

include hR hD

theorem cat_iterates (hE : Draws E R) : Draws (D.cat E) R := (hD.cat hE).imp hR.seq

theorem maybe_iterates (greedy : Bool) : Draws (Plan.Draft.maybe greedy D) R :=
  (hD.maybe greedy).imp fun _ _ _ h => h.elim id (hR.skip _ _ _)

theorem plus_iterates (greedy : Bool) : Draws (Plan.Draft.plus greedy D) R :=
  (hD.plus greedy hR fun _ _ _ h => h).imp hR.seq

theorem star_iterates (takes greedy : Bool) : Draws (D.star takes greedy) R := by
  cases takes with
  | true => exact fun n k c g v G hf => (hD (n + 1)).again n greedy hR (c.left + 1) k c g v G hf
  | false => exact maybe_iterates hR (plus_iterates hR hD greedy) greedy

theorem times_iterates (n : Nat) (hE : Draws E R) : Draws (D.times n E) R := by
  induction n with
  | zero => exact hE
  | succ n ih => exact cat_iterates hR hD ih

theorem upTo_iterates (greedy : Bool) (n : Nat) : Draws (D.upTo greedy n) R := by
  induction n with
  | zero => exact empty.imp hR.skip
  | succ n ih => exact maybe_iterates hR (cat_iterates hR hD ih) greedy

theorem repeat_iterates (takes greedy : Bool) (least : Nat) (most : Option Nat) :
    Draws (D.repeat takes greedy least most) R := by
  cases most with
  | none =>
    cases least with
    | zero => exact star_iterates hR hD takes greedy
    | succ least => exact times_iterates hR hD least (plus_iterates hR hD greedy)
  | some most =>
    have hrepeat : D.repeat takes greedy least (some most)
        = D.times least (D.upTo greedy (most - least)) := by cases least <;> rfl
    rw [hrepeat]
    exact times_iterates hR hD least (upTo_iterates hR hD greedy _)

end

end Draws

/-! ## Sequences -/

/-- Expressions one after another are run one behind another. -/
theorem run_catAll_cons (e : Expr) (es : List Expr) (n : Nat) :
    (Plan.draft (.catAll (e :: es)) n).1.run = fun k =>
      (Plan.draft e n).1.run ((Plan.draft (.catAll es) (Plan.draft e n).2).1.run k) := by
  cases es with
  | nil => rfl
  | cons f es => rfl

theorem run_catAll_append (es fs : List Expr) (n : Nat) :
    ∃ m, (Plan.draft (.catAll (es ++ fs)) n).1.run = fun k =>
      (Plan.draft (.catAll es) n).1.run ((Plan.draft (.catAll fs) m).1.run k) := by
  induction es generalizing n with
  | nil => exact ⟨n, rfl⟩
  | cons e es ih =>
    obtain ⟨m, hm⟩ := ih (Plan.draft e n).2
    exact ⟨m, by rw [List.cons_append, run_catAll_cons, run_catAll_cons, hm]⟩

namespace Draws

variable {R S : Span}

theorem catAll_cons {e : Expr} {es : List Expr} (h : Draws (Plan.draft e) R)
    (hs : Draws (Plan.draft (.catAll es)) S) :
    Draws (Plan.draft (.catAll (e :: es))) (R.seq S) := by
  intro n
  rw [run_catAll_cons]
  exact (h n).comp (hs _)

theorem catAll_append {es fs : List Expr} (h : Draws (Plan.draft (.catAll es)) R)
    (h' : Draws (Plan.draft (.catAll fs)) S) :
    Draws (Plan.draft (.catAll (es ++ fs))) (R.seq S) := by
  intro n
  obtain ⟨m, hm⟩ := run_catAll_append es fs n
  rw [hm]
  exact (h n).comp (h' m)

/-- A text as it is takes itself. -/
theorem chars (t : List Char) :
    Draws (Plan.draft (.catAll (t.map fun c => .set (.single c))))
      (fun s δ r => s = t ++ r ∧ δ = []) := by
  induction t with
  | nil =>
    refine empty.imp ?_
    rintro s δ r ⟨rfl, rfl⟩
    exact ⟨rfl, rfl⟩
  | cons c t ih =>
    have hset : Draws (Plan.draft (.set (.single c))) _ := fun _ => Leads.set (.single c)
    refine (hset.catAll_cons ih).imp ?_
    rintro s δ r ⟨δ₁, q, δ₂, ⟨x, hx, rfl, rfl⟩, ⟨rfl, rfl⟩, rfl⟩
    rw [CharSet.contains_single, beq_iff_eq] at hx
    exact ⟨by rw [hx, List.cons_append], rfl⟩

/-- A class one or more times takes a text of its members. -/
theorem members (S : CharSet) :
    Draws (Plan.draft (.repeat 1 none true (.set S)))
      (Span.text fun u => u ≠ [] ∧ u.all S.contains = true) := by
  have hset : Draws (Plan.draft (.set S))
      (fun s δ t => ∃ x, S.contains x = true ∧ s = x :: t ∧ δ = []) := fun _ => Leads.set S
  have hround : ∀ s δ t, (∃ x, S.contains x = true ∧ s = x :: t ∧ δ = []) →
      Span.text (fun u => u.all S.contains = true) s δ t := by
    rintro s δ t ⟨x, hx, rfl, rfl⟩
    refine ⟨[x], rfl, ?_, rfl⟩
    show (S.contains x && true) = true
    rw [hx, Bool.true_and]
  refine Draws.imp (hset.plus true (Span.iterates_text_all S.contains) hround) ?_
  rintro s δ t ⟨δ₁, r, δ₂, ⟨x, hx, rfl, rfl⟩, ⟨u, rfl, hu, rfl⟩, rfl⟩
  exact ⟨x :: u, rfl, ⟨List.cons_ne_nil x u, by rw [List.all_cons, hx, hu]; rfl⟩, rfl⟩

/-- Alternatives take what one of them takes. -/
theorem altAll {es : List Expr} (hne : es ≠ []) (h : ∀ e ∈ es, Draws (Plan.draft e) R) :
    Draws (Plan.draft (.altAll es)) R := by
  induction es with
  | nil => exact absurd rfl hne
  | cons e es ih =>
    have he := h e List.mem_cons_self
    cases es with
    | nil => exact he
    | cons f es =>
      have hes := ih (List.cons_ne_nil f es) fun e' he' => h e' (List.mem_cons_of_mem e he')
      exact (he.alt hes).imp fun _ _ _ hor => hor.elim id id

/-- An optional group. -/
theorem optional {e : Expr} (h : Draws (Plan.draft e) R) :
    Draws (Plan.draft (.repeat 0 (some 1) true e)) (R.or Span.skip) := fun n =>
  (h.maybe true) n

end Draws

/-! ## Expressions -/

/-- The indices of the groups of an expression. -/
def Expr.indices : Expr → List Nat
  | .empty | .set _ | .look _ => []
  | .cat a b | .alt a b => a.indices ++ b.indices
  | .group index body => index :: body.indices
  | .repeat _ _ _ body => body.indices

/-- An expression sets none but its own groups. -/
theorem draws_inside {is : List Nat} (e : Expr) (h : e.indices ⊆ is) :
    Draws (Plan.draft e) (Span.inside is) := by
  -- staying inside is kept from one piece to the next, and so by every number of rounds
  have hinside := Span.iterates_inside is
  induction e with
  | empty => exact Draws.empty.imp hinside.skip
  | set S =>
    intro n
    refine (Leads.set S).imp ?_
    rintro s δ t ⟨x, -, rfl, rfl⟩
    exact ⟨List.suffix_cons x t, fun e he => absurd he List.not_mem_nil⟩
  | look l =>
    intro n
    refine (Leads.look l).imp ?_
    rintro s δ t ⟨rfl, rfl, -⟩
    exact hinside.skip _ _ _ ⟨rfl, rfl⟩
  | cat a b iha ihb =>
    rw [Expr.indices, List.append_subset] at h
    exact (iha h.1).cat_iterates hinside (ihb h.2)
  | alt a b iha ihb =>
    rw [Expr.indices, List.append_subset] at h
    exact ((iha h.1).alt (ihb h.2)).imp fun _ _ _ hor => hor.elim id id
  | group index body ih =>
    rw [Expr.indices, List.cons_subset] at h
    intro n
    refine (Leads.group index (fun _ _ _ hin => hin.1) (ih h.2 n)).imp ?_
    rintro s δ t ⟨u, δ', rfl, hin, rfl⟩
    refine ⟨List.suffix_append u t, fun e he => ?_⟩
    rcases List.mem_cons.1 he with rfl | he
    · exact h.1
    · exact hin.2 e he
  | «repeat» least most greedy body ih =>
    exact (ih h).repeat_iterates hinside _ greedy least most

/-! ## Groups of meanings -/

theorem Expr.indices_catAll (es : List Expr) :
    (Expr.catAll es).indices = es.flatMap Expr.indices := by
  induction es with
  | nil => rfl
  | cons e es ih =>
    cases es with
    | nil => simp [Expr.catAll]
    | cons f es =>
      show e.indices ++ (Expr.catAll (f :: es)).indices = _
      rw [ih, List.flatMap_cons (x := e)]

theorem Expr.indices_altAll (es : List Expr) :
    (Expr.altAll es).indices = es.flatMap Expr.indices := by
  induction es with
  | nil => rfl
  | cons e es ih =>
    cases es with
    | nil => simp [Expr.altAll]
    | cons f es =>
      show e.indices ++ (Expr.altAll (f :: es)).indices = _
      rw [ih, List.flatMap_cons (x := e)]

theorem Expr.indices_repeated (least : Nat) (most : Option Nat) (greedy : Bool) (body : Expr) :
    (Expr.repeated least most greedy body).indices ⊆ body.indices := by
  unfold Expr.repeated
  split
  · exact List.nil_subset _
  · split
    · split
      · exact List.Subset.refl _
      · exact List.Subset.refl _
    · exact List.Subset.refl _

mutual

/-- What an expression means has no other groups than the expression as written. -/
theorem indices_meaning {m m' : Modes} {e : Expr} (ast : Ast)
    (h : ast.meaning m = .ok (e, m')) : e.indices ⊆ ast.indices := by
  cases ast with
  | repetition least most greedy body =>
    obtain ⟨f, hf, rfl⟩ := meaning_repetition.1 h
    exact List.Subset.trans (Expr.indices_repeated _ _ _ f) (indices_meaning body hf)
  | group kind body =>
    cases kind with
    | capture index =>
      obtain ⟨f, m₁, hf, rfl, rfl⟩ := meaning_capture.1 h
      exact List.cons_subset_cons index (indices_meaning body hf)
    | plain flags =>
      obtain ⟨m₁, hf, rfl⟩ := meaning_plain.1 h
      exact indices_meaning body hf
  | alternation branches =>
    obtain ⟨es, hes, rfl⟩ := meaning_alternation.1 h
    rw [Ast.indices_alternation, Expr.indices_altAll]
    exact indices_meaningAll branches hes
  | concat items =>
    obtain ⟨es, hes, rfl⟩ := meaning_concat.1 h
    rw [Ast.indices_concat, Expr.indices_catAll]
    exact indices_meaningAll items hes
  -- all other expressions mean a set or a condition, without groups
  | empty =>
    obtain ⟨rfl, -⟩ := meaning_empty.1 h
    exact List.nil_subset _
  | flags flags =>
    obtain ⟨rfl, -⟩ := meaning_flags.1 h
    exact List.nil_subset _
  | literal l =>
    obtain ⟨S, -, rfl, -⟩ := meaning_literal.1 h
    exact List.nil_subset _
  | dot =>
    obtain ⟨-, rfl, -⟩ := meaning_dot.1 h
    exact List.nil_subset _
  | assertion a =>
    obtain ⟨rfl, -⟩ := meaning_assertion.1 h
    exact List.nil_subset _
  | shorthand negated a =>
    obtain ⟨S, -, rfl, -⟩ := meaning_shorthand.1 h
    exact List.nil_subset _
  | property negated q =>
    obtain ⟨S, S', -, -, rfl, -⟩ := meaning_property.1 h
    exact List.nil_subset _
  | bracketed negated set =>
    obtain ⟨S, S', -, -, rfl, -⟩ := meaning_bracketed.1 h
    exact List.nil_subset _

theorem indices_meaningAll {m m' : Modes} {es : List Expr} (items : List Ast)
    (h : Ast.meaningAll m items = .ok (es, m')) :
    es.flatMap Expr.indices ⊆ Ast.indicesAll items := by
  cases items with
  | nil =>
    obtain ⟨rfl, rfl⟩ := meaningAll_nil.1 h
    exact List.nil_subset _
  | cons item items =>
    obtain ⟨e, m₁, fs, he, hfs, rfl⟩ := meaningAll_cons.1 h
    rw [Ast.indicesAll_cons, List.flatMap_cons]
    exact List.append_subset.2
      ⟨List.subset_append_of_subset_left _ (indices_meaning item he),
        List.subset_append_of_subset_right _ (indices_meaningAll items hfs)⟩

end

theorem indices_meaningOf (ast : Ast) : (meaningOf ast).indices ⊆ ast.indices := by
  rw [meaningOf]
  split
  case h_1 e m h => exact indices_meaning ast h
  case h_2 => exact List.nil_subset _

/-! ## Whole searches -/

/-- What a search finds from the start of the text it finds at the start. -/
theorem found_of_search {p : Plan} {s : List Char} {g : Groups}
    (h : (Plan.cat (.look .textStart) p).search s.length (.start s) .none = some g) :
    p.run done (.start s) [] .none = .found g := by
  have hstart : (Plan.cat (.look .textStart) p).run done (.start s) [] .none
      = p.run done (.start s) [] .none := rfl
  -- what fails at the start fails everywhere, as the plan begins with the start
  cases hres : p.run done (.start s) [] .none with
  | found g' =>
    rw [search_of_found (hstart.trans hres)] at h
    rw [Option.some.inj h]
  | failed v =>
    rw [search_of_failed (hstart.trans hres)] at h
    · exact absurd h (by simp)
    · intro x d n hn
      exact search_anchored _ n d v (by rw [Cursor.before_of_next? hn]; rfl)

end Waymark.Regex
