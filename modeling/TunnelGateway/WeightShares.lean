import Mathlib.Algebra.BigOperators.Group.List.Basic
import Mathlib.Algebra.BigOperators.Ring.Finset
import Mathlib.Algebra.Order.BigOperators.Group.List
import Mathlib.Algebra.Order.Field.Rat
import Mathlib.RingTheory.Coprime.Lemmas
import Mathlib.Tactic.FieldSimp
import Mathlib.Tactic.Ring
import TunnelGateway.FanOut

/-!
Rewriting a list of weighted elements. An element may become several that share
its weight in fixed fractions, and all weights of the list may be multiplied by a
common factor. Such rewritings compose, and where the fractions add up to one the
share of an element in the total is the share of what it becomes.
-/
namespace TunnelGateway.WeightShares

open FanOut

variable {α β : Type*}

section Splits

/-- What becomes of an element, each with its fraction of the weight. -/
abbrev Split (β : Type*) := β → List (β × ℚ)

namespace Split

def whole : Split β := fun b => [(b, 1)]

def andThen (f g : Split β) : Split β := fun b =>
  (f b).flatMap fun p => (g p.1).map fun q => (q.1, p.2 * q.2)

/-- The split under rewritings that run in order. -/
def run (splits : List (Split β)) : Split β := splits.foldl andThen whole

/-- What becomes of an element gets equal fractions. -/
def evenly (f : Fate β) : Split β := fun b => (f b).map fun d => (d, 1 / ((f b).length : ℚ))

def fate (f : Split β) : Fate β := fun b => (f b).map Prod.fst

/-- Nothing of the weight is lost. -/
def Exact (f : Split β) : Prop := ∀ b, ((f b).map Prod.snd).sum = 1

theorem Exact.andThen {f g : Split β} (hf : Exact f) (hg : Exact g) : Exact (f.andThen g) := by
  intro b
  have hinner : ∀ p : β × ℚ, ((g p.1).map fun q => p.2 * q.2).sum = p.2 := by
    intro p
    rw [List.sum_map_mul_left, hg p.1, mul_one]
  rw [Split.andThen, List.map_flatMap, List.flatMap_def, List.sum_flatten]
  simp only [List.map_map, Function.comp_def, hinner]
  exact hf b

theorem exact_run {splits : List (Split β)} (h : ∀ f ∈ splits, Exact f) : Exact (run splits) := by
  induction splits using List.reverseRecOn with
  | nil => simp [Exact, run, whole]
  | append_singleton splits f ih =>
    rw [run, List.foldl_append]
    exact (ih fun g hg => h g (List.mem_append_left _ hg)).andThen (h f (by simp))

theorem exact_evenly {f : Fate β} (h : ∀ b, f b ≠ []) : Exact (evenly f) := by
  intro b
  have hlength : ((f b).length : ℚ) ≠ 0 := by
    exact_mod_cast (List.length_pos_of_ne_nil (h b)).ne'
  simp only [evenly, List.map_map, Function.comp_def, List.map_const', List.sum_replicate,
    nsmul_eq_mul]
  field_simp

theorem fate_andThen (f g : Split β) : (f.andThen g).fate = f.fate.andThen g.fate := by
  funext b
  simp [fate, andThen, Fate.andThen, List.map_flatMap, List.flatMap_map, Function.comp_def]

theorem fate_evenly (f : Fate β) : fate (evenly f) = f := by
  funext b
  simp [fate, evenly, Function.comp_def]

theorem fate_run (splits : List (Split β)) : (run splits).fate = Fate.run (splits.map fate) := by
  induction splits using List.reverseRecOn with
  | nil => rfl
  | append_singleton splits f ih =>
    rw [List.map_append, List.map_singleton, run_append_singleton, ← ih, run, List.foldl_append,
      ← fate_andThen]
    rfl

/-- A split of a share that an element already has. -/
def lift (f : Split β) : Fate (β × ℚ) := fun p => (f p.1).map fun q => (q.1, p.2 * q.2)

theorem lift_andThen (f g : Split β) : lift (f.andThen g) = (lift f).andThen (lift g) := by
  funext p
  simp [lift, andThen, Fate.andThen, List.map_flatMap, List.flatMap_map, Function.comp_def, mul_assoc]

theorem lift_run (splits : List (Split β)) : lift (run splits) = Fate.run (splits.map lift) := by
  induction splits using List.reverseRecOn with
  | nil =>
    funext p
    simp [lift, run, whole, Fate.run, Fate.unchanged]
  | append_singleton splits f ih =>
    rw [List.map_append, List.map_singleton, run_append_singleton, ← ih, run, List.foldl_append,
      ← lift_andThen]
    rfl

theorem lift_one (f : Split β) (b : β) : lift f (b, 1) = f b := by
  simp [lift]

/-- Where one step acts alone the split is its own. -/
theorem run_evenly_of_actsAlone {κ : Type*} {fate : κ → Fate β} {keys : List κ}
    (hnodup : keys.Nodup) {b : β} {found : Option κ} (h : ActsAlone fate keys b found) :
    run (keys.map fun k => evenly (fate k)) b =
      found.elim [(b, 1)] fun k => evenly (fate k) b := by
  have hidle : ∀ {f : Fate β} {d : β} {share : ℚ}, f d = [d] →
      lift (evenly f) (d, share) = [(d, share)] := by
    intro f d share hd
    simp [lift, evenly, hd]
  have hlifted : ActsAlone (fun k => lift (evenly (fate k))) keys (b, 1) found := by
    cases found with
    | none => exact fun k hk => hidle (h k hk)
    | some k =>
      refine ⟨h.1, ?_⟩
      intro k' hk' hne
      obtain ⟨hbefore, hafter⟩ := h.2 k' hk' hne
      refine ⟨hidle hbefore, ?_⟩
      intro p hp
      have hp : p ∈ evenly (fate k) b := lift_one (evenly (fate k)) b ▸ hp
      obtain ⟨d, hd, rfl⟩ := List.mem_map.mp hp
      exact hidle (hafter d hd)
  rw [← lift_one (run _), lift_run, List.map_map]
  refine (run_of_actsAlone hnodup hlifted).trans ?_
  cases found with
  | none => rfl
  | some k => exact lift_one _ b

end Split

end Splits

section Scaling

variable (shape : α → β) (weight : α → ℤ)

/-- An element as far as weights go. -/
def weighed (a : α) : β × ℚ := (shape a, weight a)

/-- The elements are split, and their weights multiplied by one positive factor. -/
def Scales (f : Split β) (l l' : List α) : Prop :=
  ∃ c : ℚ, 0 < c ∧
    l'.map (weighed shape weight) =
      l.flatMap fun a => (f (shape a)).map fun p => (p.1, c * p.2 * weight a)

theorem Scales.refl (l : List α) : Scales shape weight Split.whole l l := by
  refine ⟨1, one_pos, ?_⟩
  rw [List.map_eq_flatMap]
  simp [Split.whole, weighed]

variable {shape weight}

theorem Scales.trans {f g : Split β} {l₁ l₂ l₃ : List α} (h : Scales shape weight f l₁ l₂)
    (h' : Scales shape weight g l₂ l₃) : Scales shape weight (f.andThen g) l₁ l₃ := by
  obtain ⟨c, hc, heq⟩ := h
  obtain ⟨d, hd, heq'⟩ := h'
  refine ⟨d * c, mul_pos hd hc, ?_⟩
  -- Only shape and weight of the middle list enter the second split.
  have hmiddle : (l₂.flatMap fun a => (g (shape a)).map fun p => (p.1, d * p.2 * weight a)) =
      (l₂.map (weighed shape weight)).flatMap fun q =>
        (g q.1).map fun p => (p.1, d * p.2 * q.2) := by
    rw [List.flatMap_map]
    rfl
  rw [heq', hmiddle, heq, List.flatMap_assoc]
  refine List.flatMap_congr ?_
  intro a _
  rw [List.flatMap_map, Split.andThen, List.map_flatMap]
  refine List.flatMap_congr ?_
  intro p _
  rw [List.map_map]
  refine List.map_congr_left ?_
  intro q _
  simp only [Function.comp_apply, Prod.mk.injEq, true_and]
  ring

/-- A rewriting that keeps every weight. -/
theorem scales_map {g : α → α} {h : β → β} (hshape : ∀ a, shape (g a) = h (shape a))
    (hweight : ∀ a, weight (g a) = weight a) (l : List α) :
    Scales shape weight (Split.evenly fun b => [h b]) l (l.map g) := by
  refine ⟨1, one_pos, ?_⟩
  rw [List.map_map, List.map_eq_flatMap]
  refine List.flatMap_congr ?_
  intro a _
  simp [weighed, Split.evenly, hshape, hweight]

end Scaling

section Shares

variable {shape : α → β} (weight : α → ℤ)

def total (l : List α) : ℤ := (l.map weight).sum

theorem total_flatten (groups : List (List α)) :
    total weight groups.flatten = (groups.map (total weight)).sum := by
  rw [total, List.map_flatten, List.sum_flatten, List.map_map]
  rfl

theorem cast_total (shape : α → β) (l : List α) :
    (total weight l : ℚ) = ((l.map (weighed shape weight)).map Prod.snd).sum := by
  rw [total, Int.cast_list_sum, List.map_map, List.map_map]
  rfl

variable {l' l : List α} {γ δ : Type*} {refs : List δ} {conv : δ → Option α}

/-- The parts of a list that stand for the elements of another one. -/
theorem exists_groups {φ : α → γ} {h : δ → List γ} {l : List δ} (heq : l'.map φ = l.flatMap h) :
    ∃ groups, groups.flatten = l' ∧ List.Forall₂ (fun a g => g.map φ = h a) l groups := by
  induction l generalizing l' with
  | nil =>
    rw [List.flatMap_nil, List.map_eq_nil_iff] at heq
    exact ⟨[], heq.symm, .nil⟩
  | cons a rest ih =>
    obtain ⟨first, later, rfl, hfirst, hlater⟩ := List.map_eq_append_iff.mp heq
    obtain ⟨groups, rfl, hgroups⟩ := ih hlater
    exact ⟨first :: groups, rfl, .cons hfirst hgroups⟩

/-- Elements that were dropped on the way stand for nothing. -/
theorem exists_groups_filterMap {P : α → List γ → Prop} {groups : List (List γ)}
    (h : List.Forall₂ P (refs.filterMap conv) groups) :
    ∃ groups', groups'.flatten = groups.flatten ∧
      List.Forall₂ (fun ref g => (conv ref = none ∧ g = []) ∨ ∃ a, conv ref = some a ∧ P a g)
        refs groups' := by
  induction refs generalizing groups with
  | nil => exact ⟨[], by rw [List.forall₂_nil_left_iff.mp h], .nil⟩
  | cons ref rest ih =>
    cases hconv : conv ref with
    | none =>
      rw [List.filterMap_cons_none hconv] at h
      obtain ⟨groups', hflatten, hgroups⟩ := ih h
      exact ⟨[] :: groups', hflatten, .cons (Or.inl ⟨hconv, rfl⟩) hgroups⟩
    | some a =>
      rw [List.filterMap_cons_some hconv] at h
      obtain ⟨g, later, hg, hlater, rfl⟩ := List.forall₂_cons_left_iff.mp h
      obtain ⟨groups', hflatten, hgroups⟩ := ih hlater
      refine ⟨g :: groups', ?_, .cons (Or.inr ⟨a, hconv, hg⟩) hgroups⟩
      rw [List.flatten_cons, List.flatten_cons, hflatten]

/-- What is dropped has no weight. -/
theorem total_filterMap {declared : δ → ℤ}
    (hsome : ∀ ref ∈ refs, ∀ a ∈ conv ref, weight a = declared ref)
    (hnone : ∀ ref ∈ refs, conv ref = none → declared ref = 0) :
    total weight (refs.filterMap conv) = total declared refs := by
  induction refs with
  | nil => rfl
  | cons ref rest ih =>
    have hrest := ih (fun r hr => hsome r (List.mem_cons_of_mem _ hr))
      fun r hr => hnone r (List.mem_cons_of_mem _ hr)
    cases hconv : conv ref with
    | none =>
      have hzero := hnone ref List.mem_cons_self hconv
      rw [List.filterMap_cons_none hconv, hrest, total, total, List.map_cons, List.sum_cons, hzero,
        zero_add]
    | some a =>
      have hweight := hsome ref List.mem_cons_self a hconv
      rw [List.filterMap_cons_some hconv, total, List.map_cons, List.sum_cons, hweight]
      rw [total] at hrest
      rw [hrest, total, total, List.map_cons, List.sum_cons]

/-- Nonnegative weights add up to zero only where each is zero. -/
theorem total_eq_zero_iff (h : ∀ a ∈ l, 0 ≤ weight a) :
    total weight l = 0 ↔ ∀ a ∈ l, weight a = 0 := by
  induction l with
  | nil => simp [total]
  | cons a rest ih =>
    have hrest : ∀ b ∈ rest, 0 ≤ weight b := fun b hb => h b (List.mem_cons_of_mem _ hb)
    have hhead := h a List.mem_cons_self
    have hnonneg : 0 ≤ total weight rest := List.sum_nonneg (by simpa using hrest)
    have hcons : total weight (a :: rest) = weight a + total weight rest := by
      rw [total, total, List.map_cons, List.sum_cons]
    rw [List.forall_mem_cons, ← ih hrest]
    omega

variable {weight}

/-- All groups stand at one scale to what they stand for. -/
theorem Scales.exists_groups {f : Split β} (hexact : f.Exact) (h : Scales shape weight f l l') :
    ∃ (groups : List (List α)) (c : ℚ), 0 < c ∧ groups.flatten = l' ∧
      List.Forall₂ (fun a g => g.map shape = f.fate (shape a) ∧
        (total weight g : ℚ) = c * weight a) l groups := by
  obtain ⟨c, hc, heq⟩ := h
  obtain ⟨groups, hflatten, hgroups⟩ := WeightShares.exists_groups heq
  refine ⟨groups, c, hc, hflatten, hgroups.imp ?_⟩
  intro a g hg
  constructor
  · have hfst := congrArg (List.map Prod.fst) hg
    rw [List.map_map, List.map_map] at hfst
    exact hfst
  · have hsum : ((f (shape a)).map fun p => c * p.2 * weight a).sum = c * weight a := by
      have hfactor : (fun p : β × ℚ => c * p.2 * weight a) =
          fun p => c * weight a * p.2 := by
        funext p
        ring
      rw [hfactor, List.sum_map_mul_left, hexact (shape a), mul_one]
    rw [cast_total weight shape, hg, List.map_map]
    exact hsum

theorem sum_of_forall₂ {c : ℚ} {groups : List (List α)}
    (h : List.Forall₂ (fun a g => (total weight g : ℚ) = c * weight a) l groups) :
    (total weight groups.flatten : ℚ) = c * total weight l := by
  induction h with
  | nil => simp [total]
  | cons hhead _ ih =>
    rw [total_flatten] at ih ⊢
    rw [List.map_cons, List.sum_cons, Int.cast_add, ih, hhead]
    simp only [total, List.map_cons, List.sum_cons, Int.cast_add]
    ring

/-- The share of an element is the share of what it becomes, and the total is zero
only where it was. -/
theorem Scales.shares {f : Split β} (hexact : f.Exact) (h : Scales shape weight f l l') :
    (∃ groups : List (List α), groups.flatten = l' ∧
      List.Forall₂ (fun a g => g.map shape = f.fate (shape a) ∧
        total weight g * total weight l = weight a * total weight l') l groups) ∧
    (total weight l' = 0 ↔ total weight l = 0) := by
  obtain ⟨groups, c, hc, hflatten, hgroups⟩ := h.exists_groups hexact
  have htotal : total weight l' = c * total weight l := by
    rw [← hflatten]
    exact sum_of_forall₂ (hgroups.imp fun _ _ h => h.2)
  refine ⟨⟨groups, hflatten, hgroups.imp ?_⟩, ?_⟩
  · intro a g hg
    refine ⟨hg.1, ?_⟩
    have hcross : (total weight g * total weight l : ℚ) = weight a * total weight l' := by
      rw [hg.2, htotal]
      ring
    exact_mod_cast hcross
  · rw [← Int.cast_eq_zero (α := ℚ), htotal, mul_eq_zero, Int.cast_eq_zero]
    exact or_iff_right hc.ne'

end Shares

section Reduced

variable {shape : α → β} {weight : α → ℤ}

variable {l l' l₁ l₂ : List α} {f : Split β}

theorem Scales.congr {g : Split β} (h : Scales shape weight f l l')
    (heq : ∀ a ∈ l, f (shape a) = g (shape a)) : Scales shape weight g l l' := by
  obtain ⟨c, hc, hl'⟩ := h
  refine ⟨c, hc, hl'.trans (List.flatMap_congr ?_)⟩
  intro a ha
  rw [heq a ha]

/-- Two lists that one split leads to have the same shapes, and proportional
weights. -/
theorem Scales.proportional (h₁ : Scales shape weight f l l₁) (h₂ : Scales shape weight f l l₂) :
    l₁.map shape = l₂.map shape ∧ ∃ c : ℚ, 0 < c ∧
      List.Forall₂ (fun a b => (weight b : ℚ) = c * weight a) l₁ l₂ := by
  obtain ⟨c₁, hc₁, heq₁⟩ := h₁
  obtain ⟨c₂, hc₂, heq₂⟩ := h₂
  have hscaled : l₂.map (weighed shape weight) =
      (l₁.map (weighed shape weight)).map fun p => (p.1, c₂ / c₁ * p.2) := by
    rw [heq₁, heq₂, List.map_flatMap]
    refine List.flatMap_congr ?_
    intro a _
    rw [List.map_map]
    refine List.map_congr_left ?_
    intro p _
    refine Prod.ext rfl ?_
    show c₂ * p.2 * weight a = c₂ / c₁ * (c₁ * p.2 * weight a)
    field_simp
  have hpairs : List.Forall₂ (fun a b => weighed shape weight b =
      ((weighed shape weight a).1, c₂ / c₁ * (weighed shape weight a).2)) l₁ l₂ := by
    rw [List.map_map] at hscaled
    have hall : List.Forall₂ Eq (l₂.map (weighed shape weight))
        (l₁.map fun a => ((weighed shape weight a).1, c₂ / c₁ * (weighed shape weight a).2)) := by
      rw [List.forall₂_eq_eq_eq]
      exact hscaled
    rw [List.forall₂_map_left_iff, List.forall₂_map_right_iff] at hall
    exact List.Forall₂.flip hall
  refine ⟨?_, c₂ / c₁, div_pos hc₂ hc₁, hpairs.imp fun a b h => congrArg Prod.snd h⟩
  have hshapes := congrArg (List.map Prod.fst) hscaled
  rw [List.map_map, List.map_map, List.map_map] at hshapes
  exact hshapes.symm

/-- Only units divide all weights. -/
def Primitive (weight : α → ℤ) (l : List α) : Prop :=
  ∀ d : ℤ, (∀ a ∈ l, d ∣ weight a) → IsUnit d

theorem Primitive.congr (hl : Primitive weight l) (h : l.map weight = l'.map weight) :
    Primitive weight l' := by
  intro d hd
  refine hl d ?_
  intro a ha
  have hmem : weight a ∈ l'.map weight := h ▸ List.mem_map_of_mem ha
  obtain ⟨a', ha', hsame⟩ := List.mem_map.mp hmem
  exact hsame ▸ hd a' ha'

/-- Proportional weights without a common divisor are equal. -/
theorem map_eq_of_primitive {c : ℚ} (hc : 0 < c)
    (h : List.Forall₂ (fun a b => (weight b : ℚ) = c * weight a) l₁ l₂) (h₁ : Primitive weight l₁)
    (h₂ : Primitive weight l₂) : l₁.map weight = l₂.map weight := by
  have hcross : List.Forall₂ (fun a b => c.den * weight b = c.num * weight a) l₁ l₂ := by
    refine h.imp ?_
    intro a b hab
    have hrat : (c.den * weight b : ℚ) = c.num * weight a := by
      rw [hab]
      nth_rewrite 2 [← Rat.num_div_den c]
      field_simp
    exact_mod_cast hrat
  have hcoprime : IsCoprime c.num c.den := by
    rw [Int.isCoprime_iff_gcd_eq_one]
    exact c.reduced
  have hden : IsUnit (c.den : ℤ) := by
    refine h₁ _ ?_
    intro a ha
    obtain ⟨b, -, hab⟩ := exists_right_of_forall₂ hcross ha
    exact hcoprime.symm.dvd_of_dvd_mul_left ⟨weight b, hab.symm⟩
  have hnum : IsUnit c.num := by
    refine h₂ _ ?_
    intro b hb
    obtain ⟨a, -, hab⟩ := exists_left_of_forall₂ hcross hb
    exact hcoprime.dvd_of_dvd_mul_left ⟨weight a, hab⟩
  have hone : c = 1 := by
    have hpos := Rat.num_pos.mpr hc
    have hnumOne : c.num = 1 := by
      rcases Int.isUnit_iff.mp hnum with h | h
      · exact h
      · omega
    have hdenOne : c.den = 1 := by
      rcases Int.isUnit_iff.mp hden with h | h <;> omega
    rw [← Rat.num_div_den c, hnumOne, hdenOne]
    norm_num
  have hall : List.Forall₂ Eq (l₁.map weight) (l₂.map weight) := by
    rw [List.forall₂_map_left_iff, List.forall₂_map_right_iff]
    refine h.imp ?_
    intro a b hab
    rw [hone, one_mul] at hab
    exact_mod_cast hab.symm
  rwa [List.forall₂_eq_eq_eq] at hall

/-- Shapes and weights determine a list. -/
theorem eq_of_map_eq (hinj : ∀ a b, shape a = shape b → weight a = weight b → a = b)
    (hshape : l₁.map shape = l₂.map shape) (hweight : l₁.map weight = l₂.map weight) : l₁ = l₂ := by
  induction l₁ generalizing l₂ with
  | nil => exact (List.map_eq_nil_iff.mp hshape.symm).symm
  | cons a rest ih =>
    cases l₂ with
    | nil => cases hshape
    | cons b rest' =>
      rw [List.map_cons, List.map_cons, List.cons.injEq] at hshape hweight
      rw [hinj a b hshape.1 hweight.1, ih hshape.2 hweight.2]

end Reduced

end TunnelGateway.WeightShares
