import Mathlib.Data.List.Forall2
import Mathlib.Data.List.Induction
import Mathlib.Data.List.Nodup

/-!
Rewriting a list element by element, where an element may become several. The
list of what becomes of an element is its fate; fates of rewritings that run one
after the other compose.
-/
namespace TunnelGateway.FanOut

variable {α β : Type*}

abbrev Fate (α : Type*) := α → List α

def Fate.unchanged : Fate α := fun a => [a]

def Fate.andThen (f g : Fate α) : Fate α := fun a => (f a).flatMap g

/-- The fate under rewritings that run in order. -/
def Fate.run (fates : List (Fate α)) : Fate α := fates.foldl Fate.andThen Fate.unchanged

theorem run_nil : Fate.run ([] : List (Fate α)) = Fate.unchanged := rfl

theorem run_append_singleton (fates : List (Fate α)) (f : Fate α) :
    Fate.run (fates ++ [f]) = (Fate.run fates).andThen f := by
  simp [Fate.run]

theorem run_append (fates fates' : List (Fate α)) :
    Fate.run (fates ++ fates') = (Fate.run fates).andThen (Fate.run fates') := by
  induction fates' using List.reverseRecOn with
  | nil =>
    funext a
    rw [List.append_nil]
    exact (List.flatMap_singleton' _).symm
  | append_singleton fates' f ih =>
    funext a
    rw [← List.append_assoc, run_append_singleton, run_append_singleton, ih]
    exact List.flatMap_assoc

variable {a : α} {fates : List (Fate α)} {κ : Type*} {keys : List κ} {fate : κ → Fate α}

theorem mem_andThen {f g : Fate α} {c : α} : c ∈ f.andThen g a ↔ ∃ b ∈ f a, c ∈ g b :=
  List.mem_flatMap

/-- What composition keeps holds of a whole run. -/
theorem run_induction {P : Fate α → Prop} (hunchanged : P Fate.unchanged)
    (hthen : ∀ f g, P f → P g → P (f.andThen g)) (hstep : ∀ f ∈ fates, P f) :
    P (Fate.run fates) := by
  induction fates using List.reverseRecOn with
  | nil => exact hunchanged
  | append_singleton fates f ih =>
    rw [run_append_singleton]
    refine hthen _ _ (ih fun g hg => hstep g (List.mem_append_left _ hg)) (hstep f ?_)
    simp

/-- What no step touches is unchanged at the end. -/
theorem run_eq_singleton (hstep : ∀ f ∈ fates, f a = [a]) : Fate.run fates a = [a] := by
  induction fates using List.reverseRecOn with
  | nil => rfl
  | append_singleton fates f ih =>
    rw [run_append_singleton, Fate.andThen, ih fun g hg => hstep g (List.mem_append_left _ hg)]
    simpa using hstep f (by simp)

theorem run_map_eq_singleton (h : ∀ k ∈ keys, fate k a = [a]) :
    Fate.run (keys.map fate) a = [a] := by
  refine run_eq_singleton ?_
  intro f hf
  obtain ⟨k, hk, rfl⟩ := List.mem_map.mp hf
  exact h k hk

/-- One step acts on the element, and no other step on the element or on what it
becomes. -/
theorem run_eq_of_unique (hnodup : keys.Nodup) {k : κ} (hk : k ∈ keys)
    (hother : ∀ k' ∈ keys, k' ≠ k → fate k' a = [a])
    (hafter : ∀ k' ∈ keys, k' ≠ k → ∀ b ∈ fate k a, fate k' b = [b]) :
    Fate.run (keys.map fate) a = fate k a := by
  obtain ⟨before, after, rfl⟩ := List.append_of_mem hk
  rw [List.nodup_middle, List.nodup_cons, List.mem_append, not_or] at hnodup
  obtain ⟨⟨hbefore, hafterk⟩, -⟩ := hnodup
  have hfirst : Fate.run (before.map fate) a = [a] := by
    refine run_map_eq_singleton ?_
    intro k' hmem
    exact hother k' (by simp [hmem]) fun heq => hbefore (heq ▸ hmem)
  have hlast : ∀ b ∈ fate k a, Fate.run (after.map fate) b = [b] := by
    intro b hb
    refine run_map_eq_singleton ?_
    intro k' hmem
    exact hafter k' (by simp [hmem]) (fun heq => hafterk (heq ▸ hmem)) b hb
  have hsplit : (before ++ k :: after).map fate =
      (before.map fate ++ [fate k]) ++ after.map fate := by simp
  rw [hsplit, run_append, run_append_singleton, Fate.andThen, Fate.andThen, hfirst,
    List.flatMap_singleton, List.flatMap_congr hlast, List.flatMap_singleton']

/-- No step but the found one acts on the element or on what it becomes. -/
def ActsAlone {κ : Type*} (fate : κ → Fate α) (keys : List κ) (a : α) : Option κ → Prop
  | none => ∀ k ∈ keys, fate k a = [a]
  | some k => k ∈ keys ∧ ∀ k' ∈ keys, k' ≠ k → fate k' a = [a] ∧ ∀ b ∈ fate k a, fate k' b = [b]

theorem run_of_actsAlone (hnodup : keys.Nodup) {found : Option κ}
    (h : ActsAlone fate keys a found) :
    Fate.run (keys.map fate) a = found.elim [a] fun k => fate k a := by
  cases found with
  | none => exact run_map_eq_singleton h
  | some k =>
    exact run_eq_of_unique hnodup h.1 (fun k' hk' hne => (h.2 k' hk' hne).1)
      fun k' hk' hne => (h.2 k' hk' hne).2

variable {as : List α} {bs : List β} {R : α → β → Prop}

theorem exists_left_of_forall₂ (h : List.Forall₂ R as bs) {b : β} (hb : b ∈ bs) :
    ∃ a ∈ as, R a b := by
  induction h with
  | nil => cases hb
  | cons hhead _ ih =>
    rcases List.mem_cons.mp hb with rfl | hb
    · exact ⟨_, List.mem_cons_self, hhead⟩
    · obtain ⟨a, hmem, hrel⟩ := ih hb
      exact ⟨a, List.mem_cons_of_mem _ hmem, hrel⟩

theorem exists_right_of_forall₂ (h : List.Forall₂ R as bs) (ha : a ∈ as) : ∃ b ∈ bs, R a b :=
  exists_left_of_forall₂ (List.Forall₂.flip h) ha

end TunnelGateway.FanOut
