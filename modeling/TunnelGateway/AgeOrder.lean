import Mathlib.Data.List.Induction
import Mathlib.Data.List.Sort
import Mathlib.Algebra.Order.Group.Int

/-!
The order by age and then by two names. It is total, and two elements that
precede each other have the same stamp, so a list without repeated stamps has one
sorted arrangement.
-/
namespace TunnelGateway.AgeOrder

@[ext]
structure Stamp where
  created : ℤ
  first : String
  second : String

/-- Older first, then by the first name, then by the second. -/
def Stamp.Precedes (a b : Stamp) : Prop :=
  a.created < b.created ∨
    (a.created = b.created ∧
      (a.first < b.first ∨ (a.first = b.first ∧ a.second ≤ b.second)))

namespace Stamp

variable {a b c : Stamp}

theorem precedes_total (a b : Stamp) : a.Precedes b ∨ b.Precedes a := by
  rcases lt_trichotomy a.created b.created with hlt | heq | hgt
  · exact Or.inl (Or.inl hlt)
  · by_cases hab : a.first < b.first
    · exact Or.inl (Or.inr ⟨heq, Or.inl hab⟩)
    · by_cases hba : b.first < a.first
      · exact Or.inr (Or.inr ⟨heq.symm, Or.inl hba⟩)
      · have hfirst : a.first = b.first :=
          String.le_antisymm (String.not_lt.mp hba) (String.not_lt.mp hab)
        rcases String.le_total a.second b.second with hle | hle
        · exact Or.inl (Or.inr ⟨heq, Or.inr ⟨hfirst, hle⟩⟩)
        · exact Or.inr (Or.inr ⟨heq.symm, Or.inr ⟨hfirst.symm, hle⟩⟩)
  · exact Or.inr (Or.inl hgt)

theorem precedes_refl (a : Stamp) : a.Precedes a := (precedes_total a a).elim id id

theorem Precedes.created_le (h : a.Precedes b) : a.created ≤ b.created := by
  rcases h with hlt | ⟨heq, -⟩ <;> omega

theorem Precedes.trans (hab : a.Precedes b) (hbc : b.Precedes c) : a.Precedes c := by
  rcases hab with hlt | ⟨heq, hnames⟩
  · have hle := hbc.created_le
    exact Or.inl (by omega)
  · rcases hbc with hlt | ⟨heq', hnames'⟩
    · exact Or.inl (by omega)
    · refine Or.inr ⟨by omega, ?_⟩
      rcases hnames with hfirst | ⟨hfirst, hsecond⟩
      · rcases hnames' with hfirst' | ⟨hfirst', -⟩
        · exact Or.inl (String.lt_trans hfirst hfirst')
        · exact Or.inl (hfirst' ▸ hfirst)
      · rcases hnames' with hfirst' | ⟨hfirst', hsecond'⟩
        · exact Or.inl (hfirst ▸ hfirst')
        · exact Or.inr ⟨hfirst.trans hfirst', String.le_trans hsecond hsecond'⟩

theorem Precedes.antisymm (hab : a.Precedes b) (hba : b.Precedes a) : a = b := by
  have hle := hab.created_le
  have hge := hba.created_le
  have hcreated : a.created = b.created := by omega
  have hnames : ∀ {x y : Stamp}, x.Precedes y → x.created = y.created →
      x.first < y.first ∨ (x.first = y.first ∧ x.second ≤ y.second) := by
    intro x y h heq
    rcases h with hlt | ⟨-, hnames⟩
    · omega
    · exact hnames
  rcases hnames hab hcreated with hlt | ⟨hfirst, hsecond⟩
  · rcases hnames hba hcreated.symm with hgt | ⟨hfirst, -⟩
    · exact absurd hgt (String.lt_asymm hlt)
    · rw [hfirst] at hlt
      exact absurd hlt (String.lt_irrefl _)
  · rcases hnames hba hcreated.symm with hgt | ⟨-, hsecond'⟩
    · rw [hfirst] at hgt
      exact absurd hgt (String.lt_irrefl _)
    · exact Stamp.ext hcreated hfirst (String.le_antisymm hsecond hsecond')

/-- Strictly before. -/
def Before (a b : Stamp) : Prop := ¬ b.Precedes a

theorem before_iff : a.Before b ↔ a.created < b.created ∨
    (a.created = b.created ∧ (a.first < b.first ∨ (a.first = b.first ∧ a.second < b.second))) := by
  simp only [Before, Precedes, not_or, not_and, String.not_le]
  constructor
  · rintro ⟨hle, hnames⟩
    rcases lt_or_eq_of_le (Int.not_lt.mp hle) with hlt | heq
    · exact Or.inl hlt
    · obtain ⟨hfirst, hsecond⟩ := hnames heq.symm
      refine Or.inr ⟨heq, ?_⟩
      by_cases hsame : a.first = b.first
      · exact Or.inr ⟨hsame, hsecond hsame.symm⟩
      · left
        by_contra hnot
        exact hsame (String.le_antisymm hfirst (String.not_lt.mp hnot))
  · rintro (hlt | ⟨heq, hnames⟩)
    · refine ⟨by omega, ?_⟩
      intro hcreated
      omega
    · refine ⟨by omega, ?_⟩
      intro _
      rcases hnames with hfirst | ⟨hfirst, hsecond⟩
      · refine ⟨String.not_lt.mp (String.lt_asymm hfirst), ?_⟩
        intro hsame
        rw [hsame] at hfirst
        exact absurd hfirst (String.lt_irrefl _)
      · exact ⟨hfirst ▸ String.le_refl _, fun _ => hsecond⟩

instance : IsStrictTotalOrder Stamp Before where
  trichotomous a b hab hba := Precedes.antisymm (not_not.mp hba) (not_not.mp hab)
  irrefl a h := h (precedes_refl a)
  trans a b c hab hbc hca := by
    rcases precedes_total a b with hle | hle
    · exact hbc (hca.trans hle)
    · exact hab hle

end Stamp

section Sorting

variable {α : Type*} (stamp : α → Stamp) (r : α → α → Prop) [DecidableRel r]
  (hr : ∀ a b, r a b ↔ (stamp a).Precedes (stamp b))

include hr

theorem pairwise_insertionSort_of_stamp (l : List α) : (l.insertionSort r).Pairwise r := by
  have : Std.Total r := ⟨fun a b => by
    rw [hr, hr]
    exact Stamp.precedes_total _ _⟩
  have : IsTrans α r := ⟨fun a b c hab hbc => by
    rw [hr] at hab hbc ⊢
    exact hab.trans hbc⟩
  exact List.pairwise_insertionSort r l

/-- A list without repeated stamps is sorted in one way. -/
theorem insertionSort_eq_of_perm {l l' : List α} (hperm : l.Perm l')
    (hstamp : ∀ a ∈ l, ∀ b ∈ l, stamp a = stamp b → a = b) :
    l.insertionSort r = l'.insertionSort r := by
  refine List.Perm.eq_of_pairwise ?_ (pairwise_insertionSort_of_stamp stamp r hr l)
    (pairwise_insertionSort_of_stamp stamp r hr l')
    ((List.perm_insertionSort r l).trans (hperm.trans (List.perm_insertionSort r l').symm))
  intro a b ha hb hab hba
  rw [List.mem_insertionSort] at ha hb
  rw [hr] at hab hba
  exact hstamp a ha b (hperm.mem_iff.mpr hb) (hab.antisymm hba)

end Sorting

section Oldest

variable {α : Type*} (stamp : α → Stamp) (older : α → α → Bool)

/-- A loop that replaces its candidate by an older one. -/
def keepOldest (best : Option α) (a : α) : Option α :=
  match best with
  | none => some a
  | some incumbent => if older a incumbent then some a else best

/-- What a loop over these elements has found. -/
def IsOldest (l : List α) : Option α → Prop
  | none => l = []
  | some a => a ∈ l ∧ ∀ b ∈ l, (stamp a).Precedes (stamp b)

variable {stamp older} (holder : ∀ a b, older a b = true ↔ ¬ (stamp b).Precedes (stamp a))

include holder

theorem isOldest_foldl_keepOldest (l : List α) :
    IsOldest stamp l (l.foldl (keepOldest older) none) := by
  induction l using List.reverseRecOn with
  | nil => rfl
  | append_singleton l a ih =>
    rw [List.foldl_append, List.foldl_cons]
    cases hbest : l.foldl (keepOldest older) none with
    | none =>
      rw [hbest] at ih
      rw [show l = [] from ih]
      refine ⟨List.mem_singleton_self a, ?_⟩
      intro b hb
      rw [List.mem_singleton.mp hb]
      exact Stamp.precedes_refl _
    | some incumbent =>
      rw [hbest] at ih
      obtain ⟨hmem, hfirst⟩ := ih
      simp only [keepOldest]
      split
      · rename_i hyounger
        have hbefore : (stamp a).Precedes (stamp incumbent) :=
          (Stamp.precedes_total _ _).resolve_right ((holder a incumbent).mp hyounger)
        refine ⟨List.mem_append_right _ (List.mem_singleton_self a), ?_⟩
        intro b hb
        rcases List.mem_append.mp hb with hb | hb
        · exact hbefore.trans (hfirst b hb)
        · rw [List.mem_singleton.mp hb]
          exact Stamp.precedes_refl _
      · rename_i holdest
        rw [holder, not_not] at holdest
        refine ⟨List.mem_append_left _ hmem, ?_⟩
        intro b hb
        rcases List.mem_append.mp hb with hb | hb
        · exact hfirst b hb
        · rwa [List.mem_singleton.mp hb]

theorem foldl_keepOldest_eq_none_iff {l : List α} :
    l.foldl (keepOldest older) none = none ↔ l = [] := by
  constructor
  · intro h
    have hlast := isOldest_foldl_keepOldest holder l
    rwa [h] at hlast
  · rintro rfl
    rfl

/-- Where stamps are not repeated the loop ends with the one oldest element. -/
theorem foldl_keepOldest_eq_some_iff {l : List α}
    (hstamp : ∀ a ∈ l, ∀ b ∈ l, stamp a = stamp b → a = b) {a : α} :
    l.foldl (keepOldest older) none = some a ↔
      a ∈ l ∧ ∀ b ∈ l, (stamp a).Precedes (stamp b) := by
  have hlast := isOldest_foldl_keepOldest holder l
  constructor
  · intro h
    rwa [h] at hlast
  · rintro ⟨hmem, hfirst⟩
    cases hfound : l.foldl (keepOldest older) none with
    | none =>
      rw [hfound] at hlast
      exact absurd hmem ((show l = [] from hlast) ▸ List.not_mem_nil)
    | some b =>
      rw [hfound] at hlast
      have hsame := (hlast.2 a hmem).antisymm (hfirst b hlast.1)
      rw [hstamp b hlast.1 a hmem hsame]

/-- Where stamps are not repeated, any arrangement has one oldest element. -/
theorem foldl_keepOldest_eq_of_perm {l l' : List α} (hperm : l.Perm l')
    (hstamp : ∀ a ∈ l, ∀ b ∈ l, stamp a = stamp b → a = b) :
    l.foldl (keepOldest older) none = l'.foldl (keepOldest older) none := by
  have hstamp' : ∀ a ∈ l', ∀ b ∈ l', stamp a = stamp b → a = b := by
    intro a ha b hb
    exact hstamp a (hperm.mem_iff.mpr ha) b (hperm.mem_iff.mpr hb)
  apply Option.ext
  intro a
  rw [foldl_keepOldest_eq_some_iff holder hstamp, foldl_keepOldest_eq_some_iff holder hstamp']
  simp [hperm.mem_iff]

end Oldest

end TunnelGateway.AgeOrder
