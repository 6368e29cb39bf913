import Mathlib.Data.List.Basic

/-!
Regular expressions with assertions. A word matches between what stands before and
what stands after it; only assertions look there. `matchString` searches a text
for a match by derivatives, and `Matches` is its meaning. An expression without
anchors, that is with no assertion other than word boundaries, sees of its
surroundings only whether a word character is adjacent.
-/
namespace TunnelGateway.RegexpMatching

inductive Assertion where
  | beginLine
  | endLine
  | beginText
  | endText
  | wordBoundary
  | noWordBoundary
  deriving DecidableEq

inductive Regexp where
  | empty
  | char (p : Char → Bool)
  | look (a : Assertion)
  | concat (a b : Regexp)
  | alternate (a b : Regexp)
  | star (a : Regexp)

section Meaning

def isWordChar (c : Char) : Bool := c.isAlphanum || c == '_'

def wordBefore (l : List Char) : Bool := l.getLast?.any isWordChar

def wordAfter (r : List Char) : Bool := r.head?.any isWordChar

/-- The assertion between `l` and `r`. -/
def Assertion.holds (l r : List Char) : Assertion → Bool
  | .beginLine => l.getLast?.all (· == '\n')
  | .endLine => r.head?.all (· == '\n')
  | .beginText => l.isEmpty
  | .endText => r.isEmpty
  | .wordBoundary => wordBefore l != wordAfter r
  | .noWordBoundary => wordBefore l == wordAfter r

/-- Any number of matches, one after the other. -/
inductive Star (M : List Char → List Char → List Char → Prop) :
    List Char → List Char → List Char → Prop where
  | done (l r : List Char) : Star M l [] r
  | step {l u v r : List Char} (first : M l u (v ++ r)) (rest : Star M (l ++ u) v r) :
      Star M l (u ++ v) r

/-- The word `w` between `l` and `r` matches. -/
def Regexp.Matches : Regexp → List Char → List Char → List Char → Prop
  | .empty, _, w, _ => w = []
  | .char p, _, w, _ => ∃ c, w = [c] ∧ p c = true
  | .look a, l, w, r => w = [] ∧ a.holds l r = true
  | .concat a b, l, w, r => ∃ u v, w = u ++ v ∧ a.Matches l u (v ++ r) ∧ b.Matches (l ++ u) v r
  | .alternate a b, l, w, r => a.Matches l w r ∨ b.Matches l w r
  | .star a, l, w, r => Star a.Matches l w r

/-- Some part of the text matches. -/
def Regexp.MatchesIn (re : Regexp) (text : List Char) : Prop :=
  ∃ l w r, text = l ++ (w ++ r) ∧ re.Matches l w r

/-- A nonempty word starts with a nonempty match. -/
theorem star_cons_iff {M : List Char → List Char → List Char → Prop} {l w r : List Char}
    {c : Char} :
    Star M l (c :: w) r ↔
      ∃ u v, w = u ++ v ∧ M l (c :: u) (v ++ r) ∧ Star M (l ++ c :: u) v r := by
  constructor
  · intro h
    generalize hword : c :: w = word at h
    induction h with
    | done => cases hword
    | @step l u v r first rest ih =>
      cases u with
      | nil =>
        rw [List.append_nil] at ih
        exact ih hword
      | cons d u =>
        cases hword
        exact ⟨u, v, rfl, first, rest⟩
  · rintro ⟨u, v, rfl, first, rest⟩
    exact .step first rest

end Meaning

section Derivatives

/-- The empty word matches here. -/
def Regexp.nullable (l r : List Char) : Regexp → Bool
  | .empty => true
  | .char _ => false
  | .look a => a.holds l r
  | .concat a b => a.nullable l r && b.nullable l r
  | .alternate a b => a.nullable l r || b.nullable l r
  | .star _ => true

def Regexp.never : Regexp := .char fun _ => false

/-- What is left to match after `c`, with `l` before and `r` after it. -/
def Regexp.deriv (l : List Char) (c : Char) (r : List Char) : Regexp → Regexp
  | .empty => .never
  | .char p => if p c then .empty else .never
  | .look _ => .never
  | .concat a b =>
      let rest := .concat (a.deriv l c r) b
      if a.nullable l (c :: r) then .alternate rest (b.deriv l c r) else rest
  | .alternate a b => .alternate (a.deriv l c r) (b.deriv l c r)
  | .star a => .concat (a.deriv l c r) (.star a)

def Regexp.accepts (re : Regexp) (l : List Char) : List Char → List Char → Bool
  | [], r => re.nullable l r
  | c :: w, r => (re.deriv l c (w ++ r)).accepts (l ++ [c]) w r

/-- `MatchString`: some part of the text matches. -/
def Regexp.matchString (re : Regexp) (text : List Char) : Bool :=
  (List.range (text.length + 1)).any fun i =>
    (List.range (text.length + 1)).any fun j =>
      re.accepts (text.take i) ((text.drop i).take j) ((text.drop i).drop j)

theorem nullable_iff (re : Regexp) (l r : List Char) :
    re.nullable l r = true ↔ re.Matches l [] r := by
  induction re with
  | empty => simp [Regexp.nullable, Regexp.Matches]
  | char p => simp [Regexp.nullable, Regexp.Matches]
  | look a => simp [Regexp.nullable, Regexp.Matches]
  | concat a b iha ihb =>
    rw [Regexp.nullable, Bool.and_eq_true, iha, ihb]
    constructor
    · rintro ⟨ha, hb⟩
      refine ⟨[], [], rfl, ha, ?_⟩
      rwa [List.append_nil]
    · rintro ⟨u, v, huv, ha, hb⟩
      obtain ⟨rfl, rfl⟩ := List.append_eq_nil_iff.mp huv.symm
      rw [List.append_nil] at hb
      exact ⟨ha, hb⟩
  | alternate a b iha ihb => simp [Regexp.nullable, Regexp.Matches, iha, ihb]
  | star a => simp [Regexp.nullable, Regexp.Matches, Star.done]

theorem not_matches_never (l w r : List Char) : ¬ Regexp.never.Matches l w r := by
  simp [Regexp.never, Regexp.Matches]

/-- A concatenation matches a nonempty word in its first part, or the first part is empty. -/
theorem matches_concat_cons {a b : Regexp} {l w r : List Char} {c : Char} :
    (Regexp.concat a b).Matches l (c :: w) r ↔
      (∃ u v, w = u ++ v ∧ a.Matches l (c :: u) (v ++ r) ∧ b.Matches (l ++ c :: u) v r) ∨
        a.Matches l [] (c :: w ++ r) ∧ b.Matches l (c :: w) r := by
  constructor
  · rintro ⟨u, v, huv, ha, hb⟩
    cases u with
    | nil =>
      subst huv
      rw [List.append_nil] at hb
      exact .inr ⟨ha, hb⟩
    | cons d u =>
      cases huv
      exact .inl ⟨u, v, rfl, ha, hb⟩
  · rintro (⟨u, v, rfl, ha, hb⟩ | ⟨ha, hb⟩)
    · exact ⟨c :: u, v, rfl, ha, hb⟩
    · refine ⟨[], c :: w, rfl, ha, ?_⟩
      rwa [List.append_nil]

theorem deriv_iff (re : Regexp) (l : List Char) (c : Char) (w r : List Char) :
    (re.deriv l c (w ++ r)).Matches (l ++ [c]) w r ↔ re.Matches l (c :: w) r := by
  induction re generalizing w r with
  | empty => simp [Regexp.deriv, not_matches_never, Regexp.Matches]
  | char p =>
    by_cases hp : p c = true
    · simp [Regexp.deriv, hp, Regexp.Matches]
    · simp [Regexp.deriv, hp, not_matches_never, Regexp.Matches]
  | look a => simp [Regexp.deriv, not_matches_never, Regexp.Matches]
  | concat a b iha ihb =>
    have hfirst : (Regexp.concat (a.deriv l c (w ++ r)) b).Matches (l ++ [c]) w r ↔
        ∃ u v, w = u ++ v ∧ a.Matches l (c :: u) (v ++ r) ∧ b.Matches (l ++ c :: u) v r := by
      constructor
      · rintro ⟨u, v, rfl, ha, hb⟩
        rw [List.append_assoc, iha] at ha
        rw [List.append_assoc] at hb
        exact ⟨u, v, rfl, ha, hb⟩
      · rintro ⟨u, v, rfl, ha, hb⟩
        refine ⟨u, v, rfl, ?_, ?_⟩
        · rw [List.append_assoc, iha]
          exact ha
        · rw [List.append_assoc]
          exact hb
    rw [matches_concat_cons, ← hfirst, Regexp.deriv]
    by_cases hnull : a.nullable l (c :: (w ++ r)) = true
    · rw [if_pos hnull]
      have hempty := (nullable_iff a l (c :: (w ++ r))).mp hnull
      change _ ∨ (b.deriv l c (w ++ r)).Matches (l ++ [c]) w r ↔ _
      rw [ihb]
      exact or_congr_right ⟨fun hb => ⟨hempty, hb⟩, fun hb => hb.2⟩
    · rw [if_neg hnull]
      rw [nullable_iff] at hnull
      exact ⟨.inl, fun h => h.resolve_right fun hb => hnull hb.1⟩
  | alternate a b iha ihb => simp [Regexp.deriv, Regexp.Matches, iha, ihb]
  | star a iha =>
    rw [Regexp.Matches, star_cons_iff]
    constructor
    · rintro ⟨u, v, rfl, ha, hstar⟩
      rw [List.append_assoc, iha] at ha
      rw [List.append_assoc] at hstar
      exact ⟨u, v, rfl, ha, hstar⟩
    · rintro ⟨u, v, rfl, ha, hstar⟩
      refine ⟨u, v, rfl, ?_, ?_⟩
      · rw [List.append_assoc, iha]
        exact ha
      · rw [List.append_assoc]
        exact hstar

theorem accepts_iff (re : Regexp) (l w r : List Char) :
    re.accepts l w r = true ↔ re.Matches l w r := by
  induction w generalizing re l with
  | nil => exact nullable_iff re l r
  | cons c w ih => rw [Regexp.accepts, ih, deriv_iff]

theorem matchString_iff (re : Regexp) (text : List Char) :
    re.matchString text = true ↔ re.MatchesIn text := by
  simp only [Regexp.matchString, List.any_eq_true, List.mem_range, accepts_iff]
  constructor
  · rintro ⟨i, -, j, -, h⟩
    refine ⟨_, _, _, ?_, h⟩
    rw [List.take_append_drop, List.take_append_drop]
  · rintro ⟨l, w, r, rfl, h⟩
    refine ⟨l.length, ?_, w.length, ?_, ?_⟩
    · simp only [List.length_append]
      omega
    · simp only [List.length_append]
      omega
    · simpa using h

end Derivatives

section Context

/-- Anchors look at the ends of the text or of a line. -/
def Regexp.anchorFree : Regexp → Bool
  | .empty | .char _ | .look .wordBoundary | .look .noWordBoundary => true
  | .look _ => false
  | .concat a b | .alternate a b => a.anchorFree && b.anchorFree
  | .star a => a.anchorFree

variable {l l' r r' w : List Char}

theorem wordBefore_append (h : wordBefore l = wordBefore l') (u : List Char) :
    wordBefore (l ++ u) = wordBefore (l' ++ u) := by
  cases hlast : u.getLast? with
  | none =>
    rw [List.getLast?_eq_none_iff.mp hlast, List.append_nil, List.append_nil, h]
  | some c => simp [wordBefore, hlast]

theorem wordAfter_append (h : wordAfter r = wordAfter r') (v : List Char) :
    wordAfter (v ++ r) = wordAfter (v ++ r') := by
  cases v with
  | nil => exact h
  | cons c v => rfl

theorem Star.mono {M M' : List Char → List Char → List Char → Prop}
    (hM : ∀ l l' u r r' : List Char, wordBefore l = wordBefore l' → wordAfter r = wordAfter r' →
      M l u r → M' l' u r') (hl : wordBefore l = wordBefore l') (hr : wordAfter r = wordAfter r')
    (h : Star M l w r) : Star M' l' w r' := by
  induction h generalizing l' r' with
  | done => exact .done _ _
  | step first _ ih =>
    exact .step (hM _ _ _ _ _ hl (wordAfter_append hr _) first) (ih (wordBefore_append hl _) hr)

/-- The surroundings of a match can be exchanged. -/
theorem matches_congr {re : Regexp} (hfree : re.anchorFree = true)
    (hl : wordBefore l = wordBefore l') (hr : wordAfter r = wordAfter r') (h : re.Matches l w r) :
    re.Matches l' w r' := by
  induction re generalizing l l' w r r' with
  | empty => exact h
  | char p => exact h
  | look a =>
    obtain ⟨hw, hholds⟩ := h
    refine ⟨hw, ?_⟩
    cases a with
    | wordBoundary =>
      rw [Assertion.holds, ← hl, ← hr]
      exact hholds
    | noWordBoundary =>
      rw [Assertion.holds, ← hl, ← hr]
      exact hholds
    | beginLine => cases hfree
    | endLine => cases hfree
    | beginText => cases hfree
    | endText => cases hfree
  | concat a b iha ihb =>
    rw [Regexp.anchorFree, Bool.and_eq_true] at hfree
    obtain ⟨u, v, hw, ha, hb⟩ := h
    exact ⟨u, v, hw, iha hfree.1 hl (wordAfter_append hr v) ha,
      ihb hfree.2 (wordBefore_append hl u) hr hb⟩
  | alternate a b iha ihb =>
    rw [Regexp.anchorFree, Bool.and_eq_true] at hfree
    exact h.imp (iha hfree.1 hl hr) (ihb hfree.2 hl hr)
  | star a iha =>
    have hstar : Star a.Matches l w r := h
    have hcongr : ∀ l l' u r r' : List Char, wordBefore l = wordBefore l' →
        wordAfter r = wordAfter r' → a.Matches l u r → a.Matches l' u r' := by
      intro l l' u r r'
      exact iha hfree
    exact hstar.mono hcongr hl hr

end Context

section Pieces

variable {p : Char → Bool} {l r w : List Char} {re : Regexp}

theorem matches_char_concat :
    (Regexp.concat (.char p) re).Matches l w r ↔
      ∃ c v, w = c :: v ∧ p c = true ∧ re.Matches (l ++ [c]) v r := by
  constructor
  · rintro ⟨u, v, rfl, ⟨c, rfl, hc⟩, hre⟩
    exact ⟨c, v, rfl, hc, hre⟩
  · rintro ⟨c, v, rfl, hc, hre⟩
    exact ⟨[c], v, rfl, ⟨c, rfl, hc⟩, hre⟩

theorem matches_end_iff :
    (Regexp.concat (.look .endText) .empty).Matches l w r ↔ w = [] ∧ r = [] := by
  constructor
  · rintro ⟨u, v, rfl, ⟨rfl, hend⟩, rfl⟩
    exact ⟨rfl, List.isEmpty_iff.mp hend⟩
  · rintro ⟨rfl, rfl⟩
    exact ⟨[], [], rfl, ⟨rfl, rfl⟩, rfl⟩

/-- An expression anchored at the beginning is not searched for. -/
theorem matchesIn_begin_iff {text : List Char} :
    (Regexp.concat (.look .beginText) re).MatchesIn text ↔
      ∃ w r, text = w ++ r ∧ re.Matches [] w r := by
  constructor
  · rintro ⟨l, w, r, rfl, u, v, rfl, ⟨rfl, hbegin⟩, hre⟩
    have hl : l = [] := List.isEmpty_iff.mp hbegin
    subst hl
    exact ⟨v, r, rfl, hre⟩
  · rintro ⟨w, r, rfl, hre⟩
    exact ⟨[], w, r, rfl, [], w, rfl, ⟨rfl, rfl⟩, hre⟩

theorem star_char_iff : (Regexp.star (.char p)).Matches l w r ↔ ∀ c ∈ w, p c = true := by
  constructor
  · intro h
    have hstar : Star (Regexp.char p).Matches l w r := h
    induction hstar with
    | done => simp
    | step first rest ih =>
      obtain ⟨c, rfl, hc⟩ := first
      rw [List.singleton_append, List.forall_mem_cons]
      exact ⟨hc, ih rest⟩
  · intro h
    induction w generalizing l with
    | nil => exact .done l r
    | cons c w ih =>
      rw [List.forall_mem_cons] at h
      exact .step ⟨c, rfl, h.1⟩ (ih h.2)

end Pieces

end TunnelGateway.RegexpMatching
