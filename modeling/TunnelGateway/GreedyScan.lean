import Mathlib.Data.List.Basic

/-!
A scan that keeps an element unless it clashes with one kept before. Kept
elements do not clash with each other, every element turned down clashes with an
earlier kept one, and what follows an element has no say in its fate.
-/
namespace TunnelGateway.GreedyScan

variable {α : Type*} (R : α → α → Prop) [DecidableRel R]

/-- Each element with whether it is kept, after `kept`. -/
def scan (kept : List α) : List α → List (α × Bool)
  | [] => []
  | a :: rest =>
      if ∃ k ∈ kept, R k a then (a, false) :: scan kept rest
      else (a, true) :: scan (a :: kept) rest

variable {R}

theorem not_clash_of_kept {kept l : List α} {x : α × Bool} (hx : x ∈ scan R kept l)
    (hkept : x.2 = true) : ∀ k ∈ kept, ¬ R k x.1 := by
  induction l generalizing kept with
  | nil => cases hx
  | cons a rest ih =>
    rw [scan] at hx
    split at hx
    · rcases List.mem_cons.mp hx with rfl | hx
      · cases hkept
      · exact ih hx
    · rename_i hfree
      rcases List.mem_cons.mp hx with rfl | hx
      · intro k hk hclash
        exact hfree ⟨k, hk, hclash⟩
      · intro k hk
        exact ih hx k (List.mem_cons_of_mem a hk)

/-- No element clashes with one kept before it, among the kept ones. -/
theorem pairwise_kept (kept l : List α) :
    ((scan R kept l).filter Prod.snd).Pairwise fun x y => ¬ R x.1 y.1 := by
  induction l generalizing kept with
  | nil => exact List.Pairwise.nil
  | cons a rest ih =>
    rw [scan]
    split
    · exact ih kept
    · refine List.Pairwise.cons ?_ (ih (a :: kept))
      intro y hy
      obtain ⟨hmem, hkept⟩ := List.mem_filter.mp hy
      exact not_clash_of_kept hmem hkept a List.mem_cons_self

/-- An element turned down clashes with one that was kept before it. -/
theorem exists_clash {kept l : List α} {before after : List (α × Bool)} {a : α}
    (h : scan R kept l = before ++ (a, false) :: after) :
    ∃ k, (k ∈ kept ∨ (k, true) ∈ before) ∧ R k a := by
  induction l generalizing kept before with
  | nil => simp [scan] at h
  | cons b rest ih =>
    rw [scan] at h
    split at h
    · rename_i hclash
      cases before with
      | nil =>
        rw [List.nil_append, List.cons.injEq, Prod.mk.injEq] at h
        obtain ⟨k, hk, hR⟩ := hclash
        rw [h.1.1] at hR
        exact ⟨k, Or.inl hk, hR⟩
      | cons x before =>
        rw [List.cons_append, List.cons.injEq] at h
        obtain ⟨k, hk, hR⟩ := ih h.2
        exact ⟨k, hk.imp id (List.mem_cons_of_mem x), hR⟩
    · cases before with
      | nil => simp at h
      | cons x before =>
        rw [List.cons_append, List.cons.injEq] at h
        obtain ⟨k, hk, hR⟩ := ih h.2
        refine ⟨k, ?_, hR⟩
        rcases hk with hk | hk
        · rcases List.mem_cons.mp hk with rfl | hk
          · exact Or.inr (h.1 ▸ List.mem_cons_self)
          · exact Or.inl hk
        · exact Or.inr (List.mem_cons_of_mem x hk)

end TunnelGateway.GreedyScan
