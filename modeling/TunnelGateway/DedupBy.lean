import Mathlib.Data.List.Nodup

/-!
Keep the first element of each key, given the keys already seen. This is the
loop over a slice with a `seen` map.
-/
namespace TunnelGateway.DedupBy

variable {α κ : Type*} [DecidableEq κ]

def dedupBy (key : α → κ) : List κ → List α → List α
  | _, [] => []
  | seen, x :: rest =>
      if key x ∈ seen then dedupBy key seen rest else x :: dedupBy key (key x :: seen) rest

variable {key : α → κ} {seen : List κ} {l : List α}

theorem mem_of_mem_dedupBy {x : α} (h : x ∈ dedupBy key seen l) : x ∈ l ∧ key x ∉ seen := by
  induction l generalizing seen with
  | nil => cases h
  | cons y rest ih =>
    rw [dedupBy] at h
    split at h
    · obtain ⟨hmem, hseen⟩ := ih h
      exact ⟨List.mem_cons_of_mem _ hmem, hseen⟩
    · rename_i hnew
      rcases List.mem_cons.mp h with rfl | h
      · exact ⟨List.mem_cons_self, hnew⟩
      · obtain ⟨hmem, hseen⟩ := ih h
        exact ⟨List.mem_cons_of_mem _ hmem, fun hx => hseen (List.mem_cons_of_mem _ hx)⟩

/-- Every new key keeps a representative. -/
theorem exists_mem_dedupBy {x : α} (hx : x ∈ l) (hnew : key x ∉ seen) :
    ∃ y ∈ dedupBy key seen l, key y = key x := by
  induction l generalizing seen with
  | nil => cases hx
  | cons y rest ih =>
    rw [dedupBy]
    split
    · rename_i hseen
      rcases List.mem_cons.mp hx with rfl | hx
      · exact absurd hseen hnew
      · exact ih hx hnew
    · by_cases hsame : key y = key x
      · exact ⟨y, List.mem_cons_self, hsame⟩
      · rcases List.mem_cons.mp hx with rfl | hx
        · exact absurd rfl hsame
        · have hnew' : key x ∉ key y :: seen := by
            intro hmem
            rcases List.mem_cons.mp hmem with heq | hmem
            · exact hsame heq.symm
            · exact hnew hmem
          obtain ⟨z, hz, hkey⟩ := ih hx hnew'
          exact ⟨z, List.mem_cons_of_mem _ hz, hkey⟩

/-- What is kept is the first element with its key. -/
theorem mem_dedupBy_iff_find {x : α} :
    x ∈ dedupBy key seen l ↔ key x ∉ seen ∧ l.find? (fun y => key y = key x) = some x := by
  induction l generalizing seen with
  | nil => simp [dedupBy]
  | cons y rest ih =>
    rw [dedupBy]
    by_cases hsame : key y = key x
    · rw [List.find?_cons_of_pos (by simpa using hsame), Option.some.injEq]
      split
      · rename_i hseen
        rw [ih]
        constructor
        · intro h
          exact absurd (hsame ▸ hseen) h.1
        · intro h
          exact absurd (hsame ▸ hseen) h.1
      · rename_i hnew
        rw [List.mem_cons, ih]
        constructor
        · intro h
          rcases h with rfl | h
          · exact ⟨hnew, rfl⟩
          · exact absurd (hsame ▸ List.mem_cons_self) h.1
        · intro h
          exact .inl h.2.symm
    · rw [List.find?_cons_of_neg (by simpa using hsame)]
      split
      · exact ih
      · have hne : x ≠ y := fun heq => hsame (heq ▸ rfl)
        rw [List.mem_cons, ih]
        simp [hne, Ne.symm hsame]

/-- A filter that looks at the key only keeps or drops all elements with a key. -/
theorem find?_filter_key (P : κ → Prop) [DecidablePred P] (k : κ) :
    (l.filter fun y => P (key y)).find? (fun y => key y = k) =
      if P k then l.find? (fun y => key y = k) else none := by
  induction l with
  | nil => simp
  | cons y rest ih =>
    by_cases hsame : key y = k
    · by_cases hP : P k
      · simp [hsame, hP]
      · simp only [List.filter_cons, hsame, hP] at ih ⊢
        simpa using ih
    · by_cases hP : P (key y) <;> simpa [hsame] using ih

theorem nodup_map_dedupBy : ((dedupBy key seen l).map key).Nodup := by
  induction l generalizing seen with
  | nil => simp [dedupBy]
  | cons x rest ih =>
    rw [dedupBy]
    split
    · exact ih
    · rw [List.map_cons, List.nodup_cons]
      refine ⟨?_, ih⟩
      intro hmem
      obtain ⟨y, hy, hkey⟩ := List.mem_map.mp hmem
      have hnot := (mem_of_mem_dedupBy hy).2
      rw [hkey] at hnot
      exact hnot List.mem_cons_self

theorem nodup_dedupBy : (dedupBy key seen l).Nodup := List.Nodup.of_map key nodup_map_dedupBy

/-- When equal keys mean equal elements nothing is lost. -/
theorem mem_dedupBy (hkey : ∀ x ∈ l, ∀ y ∈ l, key x = key y → x = y) {x : α} :
    x ∈ dedupBy key [] l ↔ x ∈ l := by
  constructor
  · exact fun h => (mem_of_mem_dedupBy h).1
  · intro hx
    obtain ⟨y, hy, hsame⟩ := exists_mem_dedupBy hx (List.not_mem_nil : key x ∉ [])
    rw [← hkey y (mem_of_mem_dedupBy hy).1 x hx hsame]
    exact hy

/-- Where the keys are distinct one element has the key of a member. -/
theorem filter_key_eq_singleton {x : α} (hnodup : (l.map key).Nodup) (hx : x ∈ l) :
    l.filter (fun y => key y = key x) = [x] := by
  induction l with
  | nil => cases hx
  | cons y rest ih =>
    rw [List.map_cons, List.nodup_cons] at hnodup
    rcases List.mem_cons.mp hx with rfl | hx
    · have hrest : rest.filter (fun y => key y = key x) = [] := by
        rw [List.filter_eq_nil_iff]
        intro y hy hkey
        have hkey : key y = key x := by simpa using hkey
        exact hnodup.1 (List.mem_map.mpr ⟨y, hy, hkey⟩)
      simp [hrest]
    · have hne : key y ≠ key x := by
        intro hkey
        exact hnodup.1 (List.mem_map.mpr ⟨x, hx, hkey.symm⟩)
      simpa [hne] using ih hnodup.2 hx

omit [DecidableEq κ] in
/-- Where at most one element passes, any arrangement finds it. -/
theorem find?_eq_of_perm {p : α → Bool} {l' : List α} (hperm : l.Perm l')
    (hone : ∀ a ∈ l, ∀ b ∈ l, p a = true → p b = true → a = b) : l.find? p = l'.find? p := by
  cases hfind : l.find? p with
  | none =>
    symm
    rw [List.find?_eq_none] at hfind ⊢
    intro a ha
    exact hfind a (hperm.mem_iff.mpr ha)
  | some a =>
    have hmem := List.mem_of_find?_eq_some hfind
    have hpass := List.find?_some hfind
    cases hfind' : l'.find? p with
    | none => exact absurd hpass (List.find?_eq_none.mp hfind' a (hperm.mem_iff.mp hmem))
    | some b =>
      have hmem' := hperm.mem_iff.mpr (List.mem_of_find?_eq_some hfind')
      rw [hone a hmem b hmem' hpass (List.find?_some hfind')]

end TunnelGateway.DedupBy
