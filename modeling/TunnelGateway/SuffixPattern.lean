import Mathlib.Data.List.Infix

/-!
Patterns that name one word or every proper extension of a suffix. Two patterns
have a meet: a pattern for the words both match, or none when no word matches
both.
-/
namespace TunnelGateway.SuffixPattern

inductive Pattern (α : Type*) where
  | exact (word : List α)
  | under (suffix : List α)
  deriving DecidableEq

variable {α : Type*}

def Pattern.Matches : Pattern α → List α → Prop
  | .exact word, x => x = word
  | .under suffix, x => suffix <:+ x ∧ x ≠ suffix

/-- What lies properly below a suffix lies properly below its suffixes. -/
theorem matches_under_of_suffix {s t x : List α} (h : s <:+ t)
    (hx : (Pattern.under t).Matches x) : (Pattern.under s).Matches x := by
  refine ⟨h.trans hx.1, ?_⟩
  intro heq
  subst heq
  exact hx.2 (List.IsSuffix.eq_of_length_le h hx.1.length_le)

variable [DecidableEq α]

instance (p : Pattern α) (x : List α) : Decidable (p.Matches x) :=
  match p with
  | .exact word => inferInstanceAs (Decidable (x = word))
  | .under suffix => inferInstanceAs (Decidable (suffix <:+ x ∧ x ≠ suffix))

def Pattern.meet : Pattern α → Pattern α → Option (Pattern α)
  | .exact v, .exact w => if v = w then some (.exact v) else none
  | .under s, .exact w => if (Pattern.under s).Matches w then some (.exact w) else none
  | .exact v, .under t => if (Pattern.under t).Matches v then some (.exact v) else none
  | .under s, .under t =>
      if s <:+ t then some (.under t) else if t <:+ s then some (.under s) else none

theorem isSome_meet_self (p : Pattern α) : (p.meet p).isSome = true := by
  cases p <;> simp [Pattern.meet]

theorem isSome_meet_under (s t : List α) :
    ((Pattern.under s).meet (.under t)).isSome = true ↔ s <:+ t ∨ t <:+ s := by
  simp only [Pattern.meet]
  split
  · simp [*]
  · split <;> simp [*]

theorem isSome_meet_under_exact (s w : List α) :
    ((Pattern.under s).meet (.exact w)).isSome = true ↔ (Pattern.under s).Matches w := by
  simp only [Pattern.meet]
  split <;> simp [*]

theorem isSome_meet_exact_under (v t : List α) :
    ((Pattern.exact v).meet (.under t)).isSome = true ↔ (Pattern.under t).Matches v := by
  simp only [Pattern.meet]
  split <;> simp [*]

theorem isSome_meet_exact (v w : List α) :
    ((Pattern.exact v).meet (.exact w)).isSome = true ↔ v = w := by
  simp only [Pattern.meet]
  split <;> simp [*]

/-- The meet matches exactly what both patterns match. -/
theorem matches_meet (p q : Pattern α) (x : List α) :
    (∃ r, p.meet q = some r ∧ r.Matches x) ↔ p.Matches x ∧ q.Matches x := by
  cases p with
  | exact v =>
    cases q with
    | exact w =>
      by_cases h : v = w
      · simp [Pattern.meet, h]
      · simp only [Pattern.meet, if_neg h]
        constructor
        · rintro ⟨r, hr, -⟩
          cases hr
        · rintro ⟨rfl, rfl⟩
          exact absurd rfl h
    | under t =>
      by_cases h : (Pattern.under t).Matches v
      · simp only [Pattern.meet, if_pos h, Option.some.injEq, exists_eq_left']
        constructor
        · rintro rfl
          exact ⟨rfl, h⟩
        · exact fun hboth => hboth.1
      · simp only [Pattern.meet, if_neg h]
        constructor
        · rintro ⟨r, hr, -⟩
          cases hr
        · rintro ⟨rfl, hx⟩
          exact absurd hx h
  | under s =>
    cases q with
    | exact w =>
      by_cases h : (Pattern.under s).Matches w
      · simp only [Pattern.meet, if_pos h, Option.some.injEq, exists_eq_left']
        constructor
        · rintro rfl
          exact ⟨h, rfl⟩
        · exact fun hboth => hboth.2
      · simp only [Pattern.meet, if_neg h]
        constructor
        · rintro ⟨r, hr, -⟩
          cases hr
        · rintro ⟨hx, rfl⟩
          exact absurd hx h
    | under t =>
      by_cases hst : s <:+ t
      · simp only [Pattern.meet, if_pos hst, Option.some.injEq, exists_eq_left']
        exact ⟨fun hx => ⟨matches_under_of_suffix hst hx, hx⟩, And.right⟩
      · by_cases hts : t <:+ s
        · simp only [Pattern.meet, if_neg hst, if_pos hts, Option.some.injEq, exists_eq_left']
          exact ⟨fun hx => ⟨hx, matches_under_of_suffix hts hx⟩, And.left⟩
        · simp only [Pattern.meet, if_neg hst, if_neg hts]
          constructor
          · rintro ⟨r, hr, -⟩
            cases hr
          · rintro ⟨⟨hs, -⟩, ht, -⟩
            rcases List.suffix_or_suffix_of_suffix hs ht with h | h
            · exact absurd h hst
            · exact absurd h hts

end TunnelGateway.SuffixPattern
