import Mathlib.Algebra.BigOperators.Group.List.Basic
import Mathlib.Algebra.Ring.Nat
import Mathlib.Data.List.Count
import Mathlib.Logic.Function.Basic

/-!
Counters kept by a loop. A loop that adds one for every key it meets counts
occurrences; one that remembers the keys it has met counts each key once.
-/
namespace TunnelGateway.Tally

variable {κ ι : Type*} [DecidableEq κ]

/-- One more for the key. -/
def bump (counts : κ → ℕ) (key : κ) : κ → ℕ := Function.update counts key (counts key + 1)

theorem bump_apply (counts : κ → ℕ) (key key' : κ) :
    bump counts key key' = counts key' + if key = key' then 1 else 0 := by
  by_cases h : key = key'
  · subst h
    simp [bump]
  · simp [bump, h, Function.update_of_ne (Ne.symm h)]

theorem foldl_bump (keys : List κ) (counts : κ → ℕ) (key : κ) :
    keys.foldl bump counts key = counts key + keys.count key := by
  induction keys generalizing counts with
  | nil => rfl
  | cons first rest ih =>
    rw [List.foldl_cons, ih, bump_apply, List.count_cons]
    simp only [beq_iff_eq]
    omega

/-- One more for the key, unless it is among those already counted. -/
def bumpOnce (state : List κ × (κ → ℕ)) (key : κ) : List κ × (κ → ℕ) :=
  if key ∈ state.1 then state else (key :: state.1, bump state.2 key)

theorem foldl_bumpOnce (keys : List κ) (state : List κ × (κ → ℕ)) (key : κ) :
    (keys.foldl bumpOnce state).2 key =
      state.2 key + if key ∈ keys ∧ key ∉ state.1 then 1 else 0 := by
  induction keys generalizing state with
  | nil => simp
  | cons first rest ih =>
    rw [List.foldl_cons, ih]
    by_cases hcounted : first ∈ state.1
    · rw [bumpOnce, if_pos hcounted]
      by_cases hfirst : key = first
      · subst hfirst
        simp [hcounted]
      · simp [hfirst]
    · rw [bumpOnce, if_neg hcounted]
      by_cases hfirst : first = key
      · subst hfirst
        simp [bump_apply, hcounted]
      · simp [bump_apply, hfirst, Ne.symm hfirst]

omit [DecidableEq κ] in
/-- Every item of the loop adds its own share. -/
theorem foldl_shares {step : (κ → ℕ) → ι → κ → ℕ} {share : ι → κ → ℕ}
    (h : ∀ counts item key, step counts item key = counts key + share item key)
    (items : List ι) (counts : κ → ℕ) (key : κ) :
    items.foldl step counts key = counts key + (items.map (share · key)).sum := by
  induction items generalizing counts with
  | nil => rfl
  | cons item rest ih =>
    rw [List.foldl_cons, ih, h, List.map_cons, List.sum_cons]
    omega

section Shares

variable {p : ι → Prop} [DecidablePred p] {share : ι → ℕ} {items : List ι}

theorem countP_le_sum (h : ∀ item ∈ items, (if p item then 1 else 0) ≤ share item) :
    items.countP p ≤ (items.map share).sum := by
  induction items with
  | nil => exact Nat.le_refl 0
  | cons item rest ih =>
    have hfirst := h item List.mem_cons_self
    have hrest := ih fun other hother => h other (List.mem_cons_of_mem item hother)
    rw [List.map_cons, List.sum_cons, List.countP_cons]
    simp only [decide_eq_true_eq]
    omega

/-- Where every item with the property adds at least one, the sum is their number
exactly when each of them adds one and no other item adds any. -/
theorem sum_eq_countP_iff (h : ∀ item ∈ items, (if p item then 1 else 0) ≤ share item) :
    (items.map share).sum = items.countP p ↔
      ∀ item ∈ items, share item = if p item then 1 else 0 := by
  induction items with
  | nil => simp
  | cons item rest ih =>
    have hfirst := h item List.mem_cons_self
    have htail : ∀ other ∈ rest, (if p other then 1 else 0) ≤ share other :=
      fun other hother => h other (List.mem_cons_of_mem item hother)
    have hle := countP_le_sum htail
    rw [List.map_cons, List.sum_cons, List.countP_cons, List.forall_mem_cons, ← ih htail]
    simp only [decide_eq_true_eq]
    omega

end Shares

end TunnelGateway.Tally
