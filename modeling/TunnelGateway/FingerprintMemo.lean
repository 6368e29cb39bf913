import Mathlib.Data.Option.Basic

/-!
One memoized result, guarded by a fingerprint of what it was built from. A hit
returns what an earlier input gave, so it is right exactly as far as the
fingerprint tells inputs apart.
-/
namespace TunnelGateway.FingerprintMemo

structure Entry (F V : Type*) where
  fingerprint : F
  value : V

variable {I F V E : Type*} [DecidableEq F]

/-- The entry answers for the fingerprint. -/
def Hits (entry : Option (Entry F V)) (fingerprint : F) : Prop :=
  ∃ e ∈ entry, e.fingerprint = fingerprint

instance (entry : Option (Entry F V)) (fingerprint : F) : Decidable (Hits entry fingerprint) :=
  inferInstanceAs (Decidable (∃ e ∈ entry, _))

variable (fingerprint : I → F) (build : I → Except E V)

/-- The cached value on a hit, otherwise what is built; a success is cached. -/
def resolve (entry : Option (Entry F V)) (input : I) : Except E V × Option (Entry F V) :=
  match entry.filter (·.fingerprint = fingerprint input) with
  | some e => (.ok e.value, entry)
  | none =>
      match build input with
      | .ok value => (.ok value, some ⟨fingerprint input, value⟩)
      | .error err => (.error err, entry)

variable {fingerprint}

theorem resolve_of_hits {entry : Option (Entry F V)} {input : I}
    (h : Hits entry (fingerprint input)) :
    ∃ e ∈ entry, e.fingerprint = fingerprint input ∧
      resolve fingerprint build entry input = (.ok e.value, entry) := by
  obtain ⟨e, he, hsame⟩ := h
  refine ⟨e, he, hsame, ?_⟩
  rw [resolve, he, Option.filter_some, if_pos (decide_eq_true hsame)]

variable {build}

theorem resolve_of_not_hits {entry : Option (Entry F V)} {input : I} {value : V}
    (h : ¬ Hits entry (fingerprint input)) (hbuild : build input = .ok value) :
    resolve fingerprint build entry input = (.ok value, some ⟨fingerprint input, value⟩) := by
  have hmiss : entry.filter (·.fingerprint = fingerprint input) = none := by
    rw [Option.filter_eq_none_iff]
    intro e he hsame
    exact h ⟨e, he, of_decide_eq_true hsame⟩
  rw [resolve, hmiss]
  simp [hbuild]

end TunnelGateway.FingerprintMemo
