import Mathlib.Data.Nat.Notation
import Mathlib.Logic.Function.Basic

/-!
Executions of a system given by a partial step function. An action that is not
enabled leaves no successor. `Exec` restricts an execution to steps that meet a
guard evaluated in the state before the step; the guard that always holds gives
all executions. Invariants are proved once per step and lifted here, and so is
the arrival at a goal that no choice of steps can miss.
-/
namespace TunnelGateway.Execution

variable {S A : Type*}

/-- Executions all of whose steps meet the guard. -/
inductive Exec (step : A → S → Option S) (guard : S → A → Prop) : S → S → Prop where
  | refl (s : S) : Exec step guard s s
  | tail {s t u : S} {a : A} (run : Exec step guard s t) (hguard : guard t a)
      (hstep : step a t = some u) : Exec step guard s u

/-- Every interleaving is allowed. -/
def Unguarded (_ : S) (_ : A) : Prop := True

variable {step : A → S → Option S} {guard : S → A → Prop}

variable {s s' t : S} {I : S → Prop}

/-- What every guarded step preserves holds along every guarded execution. -/
theorem Exec.invariant (hpreserved : ∀ s a s', I s → guard s a → step a s = some s' → I s')
    (run : Exec step guard s s') (hs : I s) : I s' := by
  induction run with
  | refl => exact hs
  | tail _ hguard hstep ih => exact hpreserved _ _ _ ih hguard hstep

theorem Exec.trans {u : S} (first : Exec step guard s t) (second : Exec step guard t u) :
    Exec step guard s u := by
  induction second with
  | refl => exact first
  | tail _ hguard hstep ih => exact ih.tail hguard hstep

theorem Exec.mono {guard' : S → A → Prop} (hguards : ∀ s a, guard s a → guard' s a)
    (run : Exec step guard s s') : Exec step guard' s s' := by
  induction run with
  | refl => exact .refl _
  | tail _ hguard hstep ih => exact ih.tail (hguards _ _ hguard) hstep

/-- Run a list of actions in order. -/
def execute (step : A → S → Option S) : List A → S → Option S
  | [], s => some s
  | a :: rest, s => (step a s).bind (execute step rest)

theorem exec_of_execute {acts : List A} (h : execute step acts s = some s') :
    Exec step Unguarded s s' := by
  induction acts generalizing s with
  | nil =>
    cases h
    exact .refl _
  | cons a rest ih =>
    obtain ⟨t, ht, hrest⟩ := Option.bind_eq_some_iff.mp h
    exact (Exec.tail (.refl s) trivial ht).trans (ih hrest)

/-- Every action of the list is enabled and meets the guard when its turn comes. -/
def Guarded (step : A → S → Option S) (guard : S → A → Prop) : List A → S → Prop
  | [], _ => True
  | a :: rest, s => guard s a ∧ ∀ s' ∈ step a s, Guarded step guard rest s'

instance decidableGuarded [∀ s a, Decidable (guard s a)] :
    (acts : List A) → (s : S) → Decidable (Guarded step guard acts s)
  | [], _ => .isTrue trivial
  | a :: rest, s =>
    haveI : DecidablePred (Guarded step guard rest) := fun s' => decidableGuarded rest s'
    inferInstanceAs (Decidable (guard s a ∧ ∀ s' ∈ step a s, Guarded step guard rest s'))

theorem exec_of_guarded {acts : List A} (h : execute step acts s = some s')
    (hguarded : Guarded step guard acts s) : Exec step guard s s' := by
  induction acts generalizing s with
  | nil =>
    cases h
    exact .refl _
  | cons a rest ih =>
    obtain ⟨t, ht, hrest⟩ := Option.bind_eq_some_iff.mp h
    exact (Exec.tail (.refl s) hguarded.1 ht).trans (ih hrest (hguarded.2 t ht))

theorem guarded_append {first second : List A} (h : execute step first s = some t)
    (hguarded : Guarded step guard (first ++ second) s) :
    Guarded step guard first s ∧ Guarded step guard second t := by
  induction first generalizing s with
  | nil =>
    cases h
    exact ⟨trivial, hguarded⟩
  | cons a rest ih =>
    obtain ⟨u, hu, hrest⟩ := Option.bind_eq_some_iff.mp h
    have htail := ih hrest (hguarded.2 u hu)
    refine ⟨⟨hguarded.1, ?_⟩, htail.2⟩
    intro s' hs'
    rw [hu] at hs'
    cases hs'
    exact htail.1

/-- However the steps are chosen, the goal is reached, and some step is possible until then. -/
inductive Inevitably (step : A → S → Option S) (goal : S → Prop) : S → Prop where
  | now {s : S} (h : goal s) : Inevitably step goal s
  | later {s : S} (hpossible : ∃ a s', step a s = some s')
      (hnext : ∀ a s', step a s = some s' → Inevitably step goal s') : Inevitably step goal s

/-- A measure that every step before the goal lowers, where no state before the goal is stuck. -/
theorem inevitably_of_measure {goal : S → Prop} (measure : S → ℕ)
    (hpreserved : ∀ s a s', I s → step a s = some s' → I s')
    (hlower : ∀ s a s', I s → ¬ goal s → step a s = some s' → measure s' < measure s)
    (hpossible : ∀ s, I s → ¬ goal s → ∃ a s', step a s = some s') (hs : I s) :
    Inevitably step goal s := by
  induction hm : measure s using Nat.strongRecOn generalizing s with
  | ind n ih =>
    by_cases hgoal : goal s
    · exact .now hgoal
    · refine .later (hpossible s hs hgoal) ?_
      intro a s' hstep
      exact ih _ (hm ▸ hlower s a s' hs hgoal hstep) (hpreserved s a s' hs hstep) rfl

end TunnelGateway.Execution
