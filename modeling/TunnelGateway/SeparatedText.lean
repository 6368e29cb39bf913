import Mathlib.Data.Int.Notation
import Mathlib.Data.List.Basic
import Mathlib.Data.List.DropRight
import Mathlib.Order.Lattice

/-!
Reading back text that was put together with separators: printed numbers, what
stands before a separator, joined keys and the elements of a list. Two texts joined by a separator are
ordered like the pairs of their parts, except where one first part goes on after
the other with a letter below the separator.
-/
namespace TunnelGateway.SeparatedText

section Numbers

theorem toList_toString_nat (n : ℕ) : (toString n).toList = Nat.toDigits 10 n :=
  String.toList_ofList

theorem toList_toString_negSucc (n : ℕ) :
    (toString (Int.negSucc n)).toList = '-' :: (toString (n + 1)).toList :=
  String.toList_append

variable {c : Char} {n : ℕ} {z : ℤ}

theorem mem_toString_nat (h : c ∈ (toString n).toList) : c.isDigit = true := by
  rw [toList_toString_nat] at h
  exact Nat.isDigit_of_mem_toDigits (by decide) (by decide) h

theorem mem_toString_int (h : c ∈ (toString z).toList) : c.isDigit = true ∨ c = '-' := by
  cases z with
  | ofNat n => exact Or.inl (mem_toString_nat h)
  | negSucc n =>
    rw [toList_toString_negSucc] at h
    rcases List.mem_cons.mp h with rfl | h
    · exact Or.inr rfl
    · exact Or.inl (mem_toString_nat h)

theorem notMem_toString_nat (h : c.isDigit = false) : c ∉ (toString n).toList := by
  intro hmem
  rw [mem_toString_nat hmem] at h
  cases h

theorem notMem_toString_int (h : c.isDigit = false) (hsign : c ≠ '-') :
    c ∉ (toString z).toList := by
  intro hmem
  rcases mem_toString_int hmem with hdigit | heq
  · rw [hdigit] at h
    cases h
  · exact hsign heq

theorem toString_nat_inj {m : ℕ} (h : (toString m).toList = (toString n).toList) : m = n := by
  have hread := congrArg (Nat.ofDigitChars 10 · 0) h
  simpa using hread

theorem toString_int_inj {a b : ℤ} (h : (toString a).toList = (toString b).toList) : a = b := by
  have hminus : ∀ n : ℕ, '-' ∉ (toString n).toList := fun n => notMem_toString_nat (by decide)
  cases a with
  | ofNat m =>
    cases b with
    | ofNat n => exact congrArg Int.ofNat (toString_nat_inj h)
    | negSucc n =>
      rw [toList_toString_negSucc] at h
      have hmem : '-' ∈ (toString m).toList := h ▸ List.mem_cons_self
      exact absurd hmem (hminus m)
  | negSucc m =>
    rw [toList_toString_negSucc] at h
    cases b with
    | ofNat n =>
      have hmem : '-' ∈ (toString n).toList := h ▸ List.mem_cons_self
      exact absurd hmem (hminus n)
    | negSucc n =>
      rw [toList_toString_negSucc] at h
      have hsucc := toString_nat_inj (List.cons.inj h).2
      rw [Nat.succ.inj hsucc]

end Numbers

section Separators

variable {α : Type*} {sep : α}

theorem intercalate_append {front back : List (List α)} (hfront : front ≠ []) (hback : back ≠ []) :
    [sep].intercalate (front ++ back) = [sep].intercalate front ++ sep :: [sep].intercalate back := by
  induction front with
  | nil => exact absurd rfl hfront
  | cons w rest ih =>
    by_cases hrest : rest = []
    · subst hrest
      rw [List.cons_append, List.nil_append, List.intercalate_cons_of_ne_nil hback]
      simp
    · rw [List.cons_append, List.intercalate_cons_of_ne_nil (by simp [hrest]), ih hrest,
        List.intercalate_cons_of_ne_nil hrest]
      simp

variable [BEq α] [LawfulBEq α]

/-- What stands before the first separator is read back. -/
theorem append_cons_inj {x x' z z' : List α} (hx : sep ∉ x) (hx' : sep ∉ x')
    (h : x ++ sep :: z = x' ++ sep :: z') : x = x' ∧ z = z' := by
  have hread : ∀ {y w : List α}, sep ∉ y → (y ++ sep :: w).takeWhile (· != sep) = y := by
    intro y w hy
    rw [List.takeWhile_append_of_pos]
    · simp
    · intro d hd
      rw [bne_iff_ne]
      intro heq
      exact hy (heq ▸ hd)
  have hsame : x = x' := by
    rw [← hread hx, h, hread hx']
  subst hsame
  exact ⟨rfl, (List.cons.inj (List.append_cancel_left h)).2⟩

/-- A text with one separator is split there only. -/
theorem append_cons_inj_of_notMem {x x' z z' : List α} (hx : sep ∉ x) (hz : sep ∉ z)
    (h : x' ++ sep :: z' = x ++ sep :: z) : x' = x ∧ z' = z := by
  have hcount := congrArg (List.count sep) h
  rw [List.count_append, List.count_append, List.count_cons_self, List.count_cons_self,
    List.count_eq_zero.mpr hx, List.count_eq_zero.mpr hz] at hcount
  have hx' : sep ∉ x' := List.count_eq_zero.mp (by omega)
  exact append_cons_inj hx' hx h

/-- Nonempty words without separators. -/
def Words (sep : α) (words : List (List α)) : Prop := ∀ w ∈ words, sep ∉ w ∧ w ≠ []

variable {words : List (List α)}

theorem splitOn_intercalate_of_words (hwords : Words sep words) (hne : words ≠ []) :
    List.splitOn sep ([sep].intercalate words) = words :=
  List.splitOn_intercalate sep (fun w hw => (hwords w hw).1) hne

theorem eq_nil_of_intercalate_eq_nil (hwords : Words sep words) (h : [sep].intercalate words = []) :
    words = [] := by
  by_contra hne
  have hsplit := splitOn_intercalate_of_words hwords hne
  rw [h] at hsplit
  subst hsplit
  exact (hwords [] List.mem_cons_self).2 rfl

/-- Words are read back from their join. -/
theorem intercalate_inj {words' : List (List α)} (hwords : Words sep words)
    (hwords' : Words sep words') (h : [sep].intercalate words = [sep].intercalate words') :
    words = words' := by
  by_cases hne : words = []
  · subst hne
    exact (eq_nil_of_intercalate_eq_nil hwords' h.symm).symm
  · have hne' : words' ≠ [] := by
      intro hnil
      subst hnil
      exact hne (eq_nil_of_intercalate_eq_nil hwords h)
    rw [← splitOn_intercalate_of_words hwords hne, h, splitOn_intercalate_of_words hwords' hne']

/-- A join ends in a separator and another join exactly when the words of the other come
last, with at least one word before them. -/
theorem cons_isSuffix_intercalate_iff {inner : List (List α)} (hinner : Words sep inner)
    (hne : inner ≠ []) (hwords : Words sep words) (hne' : words ≠ []) :
    sep :: [sep].intercalate inner <:+ [sep].intercalate words ↔ inner <:+ words ∧ words ≠ inner := by
  constructor
  · rintro ⟨front, hfront⟩
    have hsplit : words = front.splitOn sep ++ inner := by
      rw [← splitOn_intercalate_of_words hwords hne', ← hfront, List.splitOn_append_cons_self,
        splitOn_intercalate_of_words hinner hne]
    refine ⟨⟨_, hsplit.symm⟩, ?_⟩
    intro heq
    rw [heq] at hsplit
    exact List.splitOn_ne_nil _ _ (List.self_eq_append_left.mp hsplit)
  · rintro ⟨⟨front, rfl⟩, hproper⟩
    have hfront : front ≠ [] := by
      intro hnil
      subst hnil
      exact hproper rfl
    exact ⟨[sep].intercalate front, (intercalate_append hfront hne).symm⟩

end Separators

section Lists

variable {α : Type*} {sep : α} {blank : α → Bool}

def trim (blank : α → Bool) (text : List α) : List α :=
  ((text.dropWhile blank).reverse.dropWhile blank).reverse

theorem trim_of_no_blank {word : List α} (h : ∀ c ∈ word, blank c = false) :
    trim blank word = word := by
  have hkeep : ∀ {w : List α}, (∀ c ∈ w, blank c = false) → w.dropWhile blank = w := by
    intro w hw
    cases w with
    | nil => rfl
    | cons c rest => rw [List.dropWhile_cons_of_neg (by simp [hw c List.mem_cons_self])]
  rw [trim, hkeep h, hkeep (fun c hc => h c (List.mem_reverse.mp hc)), List.reverse_reverse]

theorem trim_cons_of_blank {pad : α} (hpad : blank pad = true) (word : List α) :
    trim blank (pad :: word) = trim blank word := by
  rw [trim, List.dropWhile_cons_of_pos hpad, trim]

theorem trim_cons_of_not_blank {c : α} (h : blank c = false) (word : List α) :
    ∃ rest, trim blank (c :: word) = c :: rest ∧ rest <+: word := by
  have htrim : trim blank (c :: word) = (c :: word).rdropWhile blank := by
    rw [trim, List.dropWhile_cons_of_neg (by simp [h]), List.rdropWhile]
  have hpre := List.rdropWhile_prefix blank (c :: word)
  rw [← htrim] at hpre
  cases hcases : trim blank (c :: word) with
  | nil =>
    rw [htrim, List.rdropWhile_eq_nil_iff] at hcases
    rw [hcases c List.mem_cons_self] at h
    cases h
  | cons d rest =>
    rw [hcases, List.cons_prefix_cons] at hpre
    rw [hpre.1]
    exact ⟨rest, rfl, hpre.2⟩

theorem intercalate_pad (pad : α) (word : List α) (rest : List (List α)) :
    [sep, pad].intercalate (word :: rest) = [sep].intercalate (word :: rest.map (pad :: ·)) := by
  induction rest generalizing word with
  | nil => simp
  | cons next rest ih =>
    rw [List.map_cons, List.intercalate_cons_cons, ih]
    cases rest <;> simp

variable [BEq α] [LawfulBEq α]

/-- The elements of a separated list, without the blanks around them. -/
def listElements (sep : α) (blank : α → Bool) (text : List α) : List (List α) :=
  (text.splitOn sep).map (trim blank)

/-- Words joined with a separator and a blank are the elements of the join. -/
theorem listElements_intercalate {pad : α} (hpad : blank pad = true) (hsep : pad ≠ sep)
    {words : List (List α)} (hne : words ≠ []) (hfree : ∀ w ∈ words, sep ∉ w)
    (hwords : ∀ w ∈ words, ∀ c ∈ w, blank c = false) :
    listElements sep blank ([sep, pad].intercalate words) = words := by
  cases words with
  | nil => exact absurd rfl hne
  | cons word rest =>
    have hpadded : ∀ w ∈ word :: rest.map (pad :: ·), sep ∉ w := by
      intro w hw
      rcases List.mem_cons.mp hw with rfl | hw
      · exact hfree _ List.mem_cons_self
      · obtain ⟨v, hv, rfl⟩ := List.mem_map.mp hw
        have := hfree v (List.mem_cons_of_mem _ hv)
        simp [hsep.symm, this]
    have htrim : ∀ w ∈ rest, trim blank (pad :: w) = w := by
      intro w hw
      rw [trim_cons_of_blank hpad, trim_of_no_blank (hwords w (List.mem_cons_of_mem _ hw))]
    rw [listElements, intercalate_pad, List.splitOn_intercalate sep hpadded (by simp), List.map_cons,
      trim_of_no_blank (hwords word List.mem_cons_self), List.map_map]
    rw [List.map_congr_left (g := id) (by simpa using htrim), List.map_id]

end Lists

section Order

variable {α : Type*} [LinearOrder α] {sep : α}

/-- The longer word goes on after the shorter with a letter below the separator. -/
def ContinuesBelow (sep : α) (longer shorter : List α) : Prop :=
  ∃ c rest, longer = shorter ++ c :: rest ∧ c < sep

theorem not_continuesBelow_nil (word : List α) : ¬ ContinuesBelow sep [] word := by
  rintro ⟨c, rest, h, -⟩
  simp at h

variable {c : α} {longer shorter : List α}

theorem continuesBelow_cons_nil {rest : List α} : ContinuesBelow sep (c :: rest) [] ↔ c < sep := by
  constructor
  · rintro ⟨d, tail, h, hlt⟩
    cases h
    exact hlt
  · intro h
    exact ⟨c, rest, rfl, h⟩

theorem continuesBelow_cons {d : α} :
    ContinuesBelow sep (c :: longer) (d :: shorter) ↔
      c = d ∧ ContinuesBelow sep longer shorter := by
  constructor
  · rintro ⟨e, tail, h, hlt⟩
    cases h
    exact ⟨rfl, e, tail, rfl, hlt⟩
  · rintro ⟨rfl, e, tail, rfl, hlt⟩
    exact ⟨e, tail, rfl, hlt⟩

/-- The order of joined texts in terms of their parts. -/
theorem joined_lt_iff {a b : List α} (ha : sep ∉ a) (hb : sep ∉ b) (x y : List α) :
    a ++ sep :: x < b ++ sep :: y ↔ ContinuesBelow sep a b ∨
      (¬ ContinuesBelow sep b a ∧ (a < b ∨ (a = b ∧ x < y))) := by
  induction a generalizing b with
  | nil =>
    cases b with
    | nil => simp [not_continuesBelow_nil]
    | cons d b =>
      have hne : d ≠ sep := fun h => hb (by simp [h])
      simp only [not_continuesBelow_nil, continuesBelow_cons_nil, List.nil_append, List.cons_append,
        List.cons_lt_cons_iff, hne.symm, false_and, or_false, false_or, not_lt, List.nil_lt_cons,
        reduceCtorEq, and_true]
      exact ⟨le_of_lt, fun h => lt_of_le_of_ne h hne.symm⟩
  | cons c a ih =>
    have hne : c ≠ sep := fun h => ha (by simp [h])
    cases b with
    | nil =>
      simp [continuesBelow_cons_nil, List.cons_lt_cons_iff, hne]
    | cons d b =>
      have hrest := ih (fun h => ha (List.mem_cons_of_mem c h))
        (fun h => hb (List.mem_cons_of_mem d h))
      simp only [List.cons_append, List.cons_lt_cons_iff, continuesBelow_cons, hrest]
      rcases lt_trichotomy c d with hlt | rfl | hgt
      · simp [hlt.ne, hlt.ne']
      · simp
      · simp [hgt.ne', hgt.not_gt]

end Order

end TunnelGateway.SeparatedText
