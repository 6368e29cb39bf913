import Mathlib.Data.List.Sort

/-!
Multimaps built by appending, and selection in sorted lists. `group` folds a
list of key-value pairs into buckets, as a loop that appends to a map of slices
does; the buckets come out in first-occurrence order, and results about a map
range hold for every permutation of them. The selection lemma says that the
first match in a sorted list is the best match.
-/
namespace TunnelGateway.SortedBuckets

section Group

variable {K V : Type*} [DecidableEq K]

/-- Append one value to the bucket of its key. -/
def insert (k : K) (v : V) : List (K × List V) → List (K × List V)
  | [] => [(k, [v])]
  | (k', vs) :: rest => if k' = k then (k', vs ++ [v]) :: rest else (k', vs) :: insert k v rest

def group (pairs : List (K × V)) : List (K × List V) :=
  pairs.foldl (fun buckets p => insert p.1 p.2 buckets) []

/-- The values stored under one key, in insertion order. -/
def valuesOf (k : K) (pairs : List (K × V)) : List V :=
  (pairs.filter (fun p => decide (p.1 = k))).map Prod.snd

theorem mem_valuesOf (k : K) (v : V) (pairs : List (K × V)) :
    v ∈ valuesOf k pairs ↔ (k, v) ∈ pairs := by
  simp [valuesOf]

/-- Buckets that hold exactly the pairs seen so far. -/
structure Represents (buckets : List (K × List V)) (pairs : List (K × V)) : Prop where
  nodup : (buckets.map Prod.fst).Nodup
  keys : ∀ k, k ∈ buckets.map Prod.fst ↔ ∃ v, (k, v) ∈ pairs
  values : ∀ k vs, (k, vs) ∈ buckets → vs = valuesOf k pairs

private theorem keys_insert (k : K) (v : V) (buckets : List (K × List V)) (k' : K) :
    k' ∈ (insert k v buckets).map Prod.fst ↔ k' = k ∨ k' ∈ buckets.map Prod.fst := by
  induction buckets with
  | nil => simp [insert]
  | cons b rest ih =>
    obtain ⟨kb, vs⟩ := b
    by_cases hk : kb = k
    · simp [insert, hk]
    · simp only [insert, hk, if_false, List.map_cons, List.mem_cons, ih]
      exact or_left_comm

private theorem nodup_insert (k : K) (v : V) (buckets : List (K × List V))
    (h : (buckets.map Prod.fst).Nodup) : ((insert k v buckets).map Prod.fst).Nodup := by
  induction buckets with
  | nil => simp [insert]
  | cons b rest ih =>
    obtain ⟨kb, vs⟩ := b
    rw [List.map_cons, List.nodup_cons] at h
    by_cases hk : kb = k
    · simpa [insert, hk] using h
    · have hmem : kb ∉ (insert k v rest).map Prod.fst := by
        rw [keys_insert]
        exact fun hor => hor.elim hk h.1
      simpa [insert, hk] using ⟨by simpa using hmem, ih h.2⟩

private theorem mem_insert (k : K) (v : V) (buckets : List (K × List V))
    (h : (buckets.map Prod.fst).Nodup) (k' : K) (vs' : List V)
    (hmem : (k', vs') ∈ insert k v buckets) :
    (k' ≠ k ∧ (k', vs') ∈ buckets) ∨
    (k' = k ∧ ∃ vs, vs' = vs ++ [v] ∧
      ((k, vs) ∈ buckets ∨ vs = [] ∧ k ∉ buckets.map Prod.fst)) := by
  induction buckets with
  | nil =>
    simp only [insert, List.mem_singleton, Prod.mk.injEq] at hmem
    exact Or.inr ⟨hmem.1, [], by simp [hmem.2]⟩
  | cons b rest ih =>
    obtain ⟨kb, vs⟩ := b
    rw [List.map_cons, List.nodup_cons] at h
    by_cases hk : kb = k
    · simp only [insert, hk, if_true, List.mem_cons, Prod.mk.injEq] at hmem
      rcases hmem with ⟨hk', hvs⟩ | hrest
      · exact Or.inr ⟨hk', vs, hvs, Or.inl (by simp [hk])⟩
      · have hne : k' ≠ k := by
          rintro rfl
          apply h.1
          rw [hk]
          exact List.mem_map.mpr ⟨_, hrest, rfl⟩
        exact Or.inl ⟨hne, List.mem_cons_of_mem _ hrest⟩
    · simp only [insert, hk, if_false, List.mem_cons] at hmem
      rcases hmem with heq | hrest
      · cases heq
        exact Or.inl ⟨hk, by simp⟩
      · rcases ih h.2 hrest with ⟨hne, hin⟩ | ⟨rfl, vs₀, rfl, hor⟩
        · exact Or.inl ⟨hne, List.mem_cons_of_mem _ hin⟩
        · refine Or.inr ⟨rfl, vs₀, rfl, ?_⟩
          rcases hor with hin | ⟨rfl, hnot⟩
          · exact Or.inl (List.mem_cons_of_mem _ hin)
          · refine Or.inr ⟨rfl, ?_⟩
            rw [List.map_cons, List.mem_cons]
            exact fun hor => hor.elim (fun e => hk e.symm) hnot

private theorem valuesOf_append (k : K) (pairs : List (K × V)) (p : K × V) :
    valuesOf k (pairs ++ [p]) = valuesOf k pairs ++ (if p.1 = k then [p.2] else []) := by
  by_cases hk : p.1 = k <;> simp [valuesOf, hk]

private theorem valuesOf_eq_nil (k : K) (pairs : List (K × V))
    (h : ¬ ∃ v, (k, v) ∈ pairs) : valuesOf k pairs = [] := by
  rw [List.eq_nil_iff_forall_not_mem]
  exact fun v hv => h ⟨v, (mem_valuesOf k v pairs).mp hv⟩

theorem Represents.insert {buckets : List (K × List V)} {pairs : List (K × V)}
    (h : Represents buckets pairs) (k : K) (v : V) :
    Represents (SortedBuckets.insert k v buckets) (pairs ++ [(k, v)]) where
  nodup := nodup_insert k v buckets h.nodup
  keys := by
    intro k'
    rw [keys_insert, h.keys]
    constructor
    · rintro (rfl | ⟨v', hv'⟩)
      · exact ⟨v, by simp⟩
      · exact ⟨v', by simp [hv']⟩
    · rintro ⟨v', hv'⟩
      rw [List.mem_append, List.mem_singleton, Prod.mk.injEq] at hv'
      rcases hv' with hv' | ⟨hk', -⟩
      · exact Or.inr ⟨v', hv'⟩
      · exact Or.inl hk'
  values := by
    intro k' vs' hmem
    rw [valuesOf_append]
    rcases mem_insert k v buckets h.nodup k' vs' hmem with ⟨hne, hin⟩ | ⟨rfl, vs, rfl, hor⟩
    · simp [h.values k' vs' hin, Ne.symm hne]
    · rcases hor with hin | ⟨rfl, hnot⟩
      · simp [h.values _ _ hin]
      · rw [valuesOf_eq_nil _ _ (fun hex => hnot ((h.keys _).mpr hex))]
        simp

theorem group_represents (pairs : List (K × V)) : Represents (group pairs) pairs := by
  have hfold : ∀ (rest done : List (K × V)) (buckets : List (K × List V)),
      Represents buckets done →
      Represents (rest.foldl (fun bs p => SortedBuckets.insert p.1 p.2 bs) buckets)
        (done ++ rest) := by
    intro rest
    induction rest with
    | nil => intro done buckets h; simpa using h
    | cons p rest ih =>
      intro done buckets h
      have hstep := ih (done ++ [p]) _ (h.insert p.1 p.2)
      simpa using hstep
  have hnil : Represents ([] : List (K × List V)) [] := ⟨by simp, by simp, by simp⟩
  simpa [group] using hfold pairs [] [] hnil

/-- Looking a key up among buckets that were rewritten one by one. -/
theorem getD_lookup_map_group {W : Type*} (f : List V → List W) (hf : f [] = [])
    (pairs : List (K × V)) (k : K) :
    (((group pairs).map fun b => (b.1, f b.2)).lookup k).getD [] = f (valuesOf k pairs) := by
  have hrep := group_represents pairs
  cases hlookup : ((group pairs).map fun b => (b.1, f b.2)).lookup k with
  | some ws =>
    obtain ⟨l₁, l₂, heq, -⟩ := List.lookup_eq_some_iff.mp hlookup
    have hmem : (k, ws) ∈ (group pairs).map fun b => (b.1, f b.2) := by simp [heq]
    obtain ⟨b, hb, hbk⟩ := List.mem_map.mp hmem
    cases hbk
    simp [hrep.values b.1 b.2 hb]
  | none =>
    have hnot : ¬ ∃ v, (k, v) ∈ pairs := by
      rw [← hrep.keys]
      intro hk
      obtain ⟨b, hb, rfl⟩ := List.mem_map.mp hk
      have hne := List.lookup_eq_none_iff.mp hlookup (b.1, f b.2) (List.mem_map.mpr ⟨b, hb, rfl⟩)
      simp at hne
    simp [valuesOf_eq_nil k pairs hnot, hf]

/-- The buckets themselves. -/
theorem mem_group_iff (pairs : List (K × V)) (k : K) (vs : List V) :
    (k, vs) ∈ group pairs ↔ vs = valuesOf k pairs ∧ ∃ v, (k, v) ∈ pairs := by
  have hrep := group_represents pairs
  constructor
  · intro hmem
    exact ⟨hrep.values k vs hmem, (hrep.keys k).mp (List.mem_map.mpr ⟨_, hmem, rfl⟩)⟩
  · rintro ⟨rfl, hex⟩
    obtain ⟨b, hb, rfl⟩ := List.mem_map.mp ((hrep.keys k).mpr hex)
    rwa [← hrep.values b.1 b.2 hb]

end Group

section Selection

variable {α : Type*}

/-- The first match in a sorted list is at least as good as every match. -/
theorem find?_best {r : α → α → Prop} {p : α → Bool} {l : List α} (hsorted : l.Pairwise r)
    {a : α} (h : l.find? p = some a) (b : α) (hb : b ∈ l) (hp : p b = true) :
    b = a ∨ r a b := by
  obtain ⟨-, before, after, rfl, hbefore⟩ := List.find?_eq_some_iff_append.mp h
  rw [List.mem_append, List.mem_cons] at hb
  rcases hb with hb | rfl | hb
  · have hnot := hbefore b hb
    simp [hp] at hnot
  · exact Or.inl rfl
  · rw [List.pairwise_append, List.pairwise_cons] at hsorted
    exact Or.inr (hsorted.2.1.1 b hb)

end Selection

end TunnelGateway.SortedBuckets
