import Mathlib.Order.Defs.Unbundled
import Mathlib.Data.List.Induction

/-!
A map from keys to the best value seen for each key. An entry is replaced only by
a value that beats it; when beating is a strict order, no value seen beats the
entry it was compared with.
-/
namespace TunnelGateway.BestByKey

variable {κ α : Type*} [DecidableEq κ] (beats : α → α → Prop) [DecidableRel beats]

def challenge (best : κ → Option α) (entry : κ × α) : κ → Option α :=
  match best entry.1 with
  | none => Function.update best entry.1 (some entry.2)
  | some incumbent =>
      if beats entry.2 incumbent then Function.update best entry.1 (some entry.2) else best

def bestByKey (entries : List (κ × α)) : κ → Option α :=
  entries.foldl (challenge beats) fun _ => none

/-- The map after some entries: a key is absent when none of them has it, and
otherwise holds one of them that no other one beats. -/
structure Best (entries : List (κ × α)) (best : κ → Option α) : Prop where
  absent : ∀ k, best k = none → ∀ v, (k, v) ∉ entries
  mem : ∀ k v, best k = some v → (k, v) ∈ entries
  unbeaten : ∀ k v, best k = some v → ∀ w, (k, w) ∈ entries → ¬ beats w v

/-- At its own key an entry wins against nothing or against an incumbent it
beats. -/
theorem challenge_self (best : κ → Option α) (k : κ) (v : α) :
    (challenge beats best (k, v) k = some v ∧ ∀ incumbent ∈ best k, beats v incumbent) ∨
    ∃ incumbent ∈ best k, challenge beats best (k, v) k = some incumbent ∧
      ¬ beats v incumbent := by
  unfold challenge
  cases hbest : best k with
  | none => exact Or.inl ⟨by simp, by simp⟩
  | some incumbent =>
    by_cases hbeats : beats v incumbent
    · exact Or.inl ⟨by simp [hbeats], by simpa using hbeats⟩
    · exact Or.inr ⟨incumbent, rfl, by simp [hbeats, hbest], hbeats⟩

variable {beats}

theorem challenge_of_ne {best : κ → Option α} {entry : κ × α} {k : κ} (h : k ≠ entry.1) :
    challenge beats best entry k = best k := by
  unfold challenge
  cases best entry.1 with
  | none => exact Function.update_of_ne h ..
  | some incumbent =>
    by_cases hbeats : beats entry.2 incumbent
    · simp [hbeats, Function.update_of_ne h]
    · simp [hbeats]

variable [IsStrictOrder α beats]

theorem Best.challenge {entries : List (κ × α)} {best : κ → Option α}
    (h : Best beats entries best) (entry : κ × α) :
    Best beats (entries ++ [entry]) (challenge beats best entry) := by
  obtain ⟨k, v⟩ := entry
  have hmem : ∀ k' w, (k', w) ∈ entries ++ [(k, v)] → (k', w) ∈ entries ∨ (k' = k ∧ w = v) := by
    intro k' w hw
    rcases List.mem_append.mp hw with hw | hw
    · exact Or.inl hw
    · exact Or.inr (by simpa using hw)
  refine ⟨?_, ?_, ?_⟩
  · intro k' hnone w hw
    by_cases hkey : k' = k
    · subst hkey
      rcases challenge_self beats best k' v with hwin | ⟨incumbent, -, hkeep, -⟩
      · rw [hwin.1] at hnone
        cases hnone
      · rw [hkeep] at hnone
        cases hnone
    · rw [challenge_of_ne hkey] at hnone
      rcases hmem k' w hw with hold | hnew
      · exact h.absent k' hnone w hold
      · exact hkey hnew.1
  · intro k' w hsome
    by_cases hkey : k' = k
    · subst hkey
      rcases challenge_self beats best k' v with hwin | ⟨incumbent, hinc, hkeep, -⟩
      · rw [hwin.1, Option.some.injEq] at hsome
        simp [hsome]
      · rw [hkeep] at hsome
        exact List.mem_append_left _ (h.mem k' w (hsome ▸ hinc))
    · rw [challenge_of_ne hkey] at hsome
      exact List.mem_append_left _ (h.mem k' w hsome)
  · intro k' w hsome u hu
    by_cases hkey : k' = k
    · subst hkey
      rcases challenge_self beats best k' v with hwin | ⟨incumbent, hinc, hkeep, hnot⟩
      · rw [hwin.1, Option.some.injEq] at hsome
        subst hsome
        rcases hmem k' u hu with hold | hnew
        · intro hbeats
          cases hbest : best k' with
          | none => exact h.absent k' hbest u hold
          | some incumbent =>
            exact h.unbeaten k' incumbent hbest u hold
              (IsTrans.trans _ _ _ hbeats (hwin.2 incumbent hbest))
        · rw [hnew.2]
          exact irrefl v
      · rw [hkeep, Option.some.injEq] at hsome
        subst hsome
        rcases hmem k' u hu with hold | hnew
        · exact h.unbeaten k' incumbent hinc u hold
        · rw [hnew.2]
          exact hnot
    · rw [challenge_of_ne hkey] at hsome
      rcases hmem k' u hu with hold | hnew
      · exact h.unbeaten k' w hsome u hold
      · exact absurd hnew.1 hkey

theorem best_bestByKey (entries : List (κ × α)) : Best beats entries (bestByKey beats entries) := by
  induction entries using List.reverseRecOn with
  | nil => exact ⟨by simp, by simp [bestByKey], by simp⟩
  | append_singleton entries entry ih =>
    unfold bestByKey at ih ⊢
    rw [List.foldl_append]
    exact ih.challenge entry

end TunnelGateway.BestByKey
