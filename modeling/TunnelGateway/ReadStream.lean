import Mathlib.Data.List.Basic
import Mathlib.Algebra.Ring.Nat

/-!
Readers that deliver a stream piece by piece. A stream has bytes and a terminal
result, the end or a failure, which a reader may hand over together with the
last byte or in a read of its own. A reader is a state with a read operation and
the stream that is left to be read; reading everything gives that stream,
however many bytes each read happens to deliver. A limited reader stops after a
number of bytes.
-/
namespace TunnelGateway.ReadStream

variable {α ε ρ : Type*}

/-- What a reader has yet to deliver. Without a failure it ends regularly; an eager
stream hands the terminal result over with its last byte. -/
structure Source (α ε : Type*) where
  bytes : List α
  failure : Option ε
  eager : Bool

/-- A read that delivers bytes and no result. -/
structure Continues (s : Source α ε) (got : List α) (next : Source α ε) : Prop where
  nonempty : got ≠ []
  bytes : s.bytes = got ++ next.bytes
  failure : next.failure = s.failure
  eager : next.eager = s.eager
  more : next.bytes ≠ [] ∨ s.eager = false

/-- A read that delivers the terminal result. -/
structure Ends (s : Source α ε) (got : List α) (failure : Option ε) : Prop where
  bytes : s.bytes = got
  failure : s.failure = failure
  eager : got = [] ∨ s.eager = true

structure Reader (ρ α ε : Type*) where
  read : ρ → ℕ → List α × Option (Option ε) × ρ
  content : ρ → Source α ε
  length_le : ∀ r n, (read r n).1.length ≤ n
  continues : ∀ {r n got r'}, 0 < n → read r n = (got, none, r') →
    Continues (content r) got (content r')
  ends : ∀ {r n got failure r'}, 0 < n → read r n = (got, some failure, r') →
    Ends (content r) got failure

/-- A reader that has delivered its result delivers it again. -/
def Reader.Sticky (R : Reader ρ α ε) : Prop :=
  ∀ {r n got failure r'}, 0 < n → R.read r n = (got, some failure, r') →
    (R.content r').bytes = [] ∧ (R.content r').failure = failure

variable {got : List α}

theorem Continues.length_lt {s next : Source α ε} (h : Continues s got next) :
    next.bytes.length < s.bytes.length := by
  have hpos := List.length_pos_of_ne_nil h.nonempty
  rw [h.bytes, List.length_append]
  omega

/-- Read to the terminal result. The pace says how many bytes there is room for in each
round, besides one. -/
def Reader.readAll (R : Reader ρ α ε) (pace : ℕ → ℕ) (round : ℕ) (r : ρ) :
    List α × Option ε × ρ :=
  match _hread : R.read r (pace round + 1) with
  | (got, some failure, r') => (got, failure, r')
  | (got, none, r') =>
      let rest := R.readAll pace (round + 1) r'
      (got ++ rest.1, rest.2)
termination_by (R.content r).bytes.length
decreasing_by exact (R.continues (Nat.succ_pos _) _hread).length_lt

variable (R : Reader ρ α ε) (pace : ℕ → ℕ)

theorem readAll_of_ends {r r' : ρ} {round : ℕ} {failure : Option ε}
    (h : R.read r (pace round + 1) = (got, some failure, r')) :
    R.readAll pace round r = (got, failure, r') := by
  rw [Reader.readAll]
  split
  · rename_i heq
    rw [h] at heq
    cases heq
    rfl
  · rename_i heq
    rw [h] at heq
    cases heq

theorem readAll_of_continues {r r' : ρ} {round : ℕ}
    (h : R.read r (pace round + 1) = (got, none, r')) :
    R.readAll pace round r =
      (got ++ (R.readAll pace (round + 1) r').1, (R.readAll pace (round + 1) r').2) := by
  rw [Reader.readAll]
  split
  · rename_i heq
    rw [h] at heq
    cases heq
  · rename_i heq
    rw [h] at heq
    cases heq
    rfl

/-- What every read establishes between its states and its bytes, and what adds up, holds
of reading everything. -/
theorem readAll_rule {P : ρ → List α → ρ → Prop}
    (hread : ∀ r n, 0 < n → P r (R.read r n).1 (R.read r n).2.2)
    (htrans : ∀ {r a r' b r''}, P r a r' → P r' b r'' → P r (a ++ b) r'') (round : ℕ) (r : ρ) :
    P r (R.readAll pace round r).1 (R.readAll pace round r).2.2 := by
  generalize hsize : (R.content r).bytes.length = size
  induction size using Nat.strongRecOn generalizing round r with
  | ind size ih =>
    have hstep := hread r (pace round + 1) (Nat.succ_pos _)
    match h : R.read r (pace round + 1) with
    | (got, some failure, r') =>
      rw [readAll_of_ends R pace h]
      rwa [h] at hstep
    | (got, none, r') =>
      rw [readAll_of_continues R pace h]
      rw [h] at hstep
      have hlt := (R.continues (Nat.succ_pos _) h).length_lt
      exact htrans hstep (ih _ (hsize ▸ hlt) (round + 1) r' rfl)

/-- Reading everything gives the bytes and the terminal result of the stream. -/
theorem readAll_eq (round : ℕ) (r : ρ) :
    (R.readAll pace round r).1 = (R.content r).bytes ∧
      (R.readAll pace round r).2.1 = (R.content r).failure := by
  generalize hsize : (R.content r).bytes.length = size
  induction size using Nat.strongRecOn generalizing round r with
  | ind size ih =>
    match h : R.read r (pace round + 1) with
    | (got, some failure, r') =>
      have hends := R.ends (Nat.succ_pos _) h
      rw [readAll_of_ends R pace h]
      exact ⟨hends.bytes.symm, hends.failure.symm⟩
    | (got, none, r') =>
      have hcontinues := R.continues (Nat.succ_pos _) h
      obtain ⟨hbytes, hfailure⟩ := ih _ (hsize ▸ hcontinues.length_lt) (round + 1) r' rfl
      rw [readAll_of_continues R pace h]
      refine ⟨?_, hfailure.trans hcontinues.failure⟩
      rw [hbytes, hcontinues.bytes]

section Limit

/-- Reading so many bytes meets the terminal result: there is room for a read after the
last byte, or the result comes with it. -/
def Source.Within (s : Source α ε) (limit : ℕ) : Prop :=
  s.bytes.length < limit ∨ (s.bytes.length = limit ∧ s.bytes ≠ [] ∧ s.eager = true)

instance (s : Source α ε) (limit : ℕ) : Decidable (s.Within limit) :=
  inferInstanceAs (Decidable (_ ∨ _))

/-- The first bytes of a stream, at most so many. -/
def Source.limit (s : Source α ε) (limit : ℕ) : Source α ε :=
  if s.Within limit then s else ⟨s.bytes.take limit, none, false⟩

def limitRead (R : Reader ρ α ε) (state : ρ × ℕ) (n : ℕ) :
    List α × Option (Option ε) × (ρ × ℕ) :=
  if state.2 = 0 then ([], some none, state)
  else
    let result := R.read state.1 (min n state.2)
    (result.1, result.2.1, (result.2.2, state.2 - result.1.length))

variable {got : List α} {ending : Option (Option ε)} {state state' : ρ × ℕ} {n : ℕ}

/-- A read through the limit is a read of the reader below, or the limit is reached. -/
theorem limitRead_cases (hn : 0 < n) (h : limitRead R state n = (got, ending, state')) :
    (state.2 = 0 ∧ got = [] ∧ ending = some none ∧ state' = state) ∨
      (∃ m, 0 < m ∧ m ≤ state.2 ∧ R.read state.1 m = (got, ending, state'.1) ∧
        got.length ≤ m ∧ state'.2 = state.2 - got.length) := by
  rw [limitRead] at h
  split at h
  · rename_i hzero
    cases h
    exact Or.inl ⟨hzero, rfl, rfl, rfl⟩
  · cases h
    refine Or.inr ⟨min n state.2, ?_, Nat.min_le_right _ _, rfl, R.length_le _ _, rfl⟩
    omega

/-- A limit is met before a read exactly when it is met after it. -/
theorem within_iff_of_continues {s next : Source α ε} {limit : ℕ} (h : Continues s got next)
    (hle : got.length ≤ limit) : s.Within limit ↔ next.Within (limit - got.length) := by
  have hlength : s.bytes.length = got.length + next.bytes.length := by
    rw [h.bytes, List.length_append]
  have hne : s.bytes ≠ [] := by
    rw [h.bytes]
    exact List.append_ne_nil_of_left_ne_nil h.nonempty _
  constructor
  · rintro (hlt | ⟨heq, -, heager⟩)
    · left
      omega
    · refine Or.inr ⟨by omega, ?_, h.eager.trans heager⟩
      rcases h.more with hmore | hlazy
      · exact hmore
      · rw [heager] at hlazy
        cases hlazy
  · rintro (hlt | ⟨heq, -, heager⟩)
    · left
      omega
    · exact Or.inr ⟨by omega, hne, h.eager ▸ heager⟩

theorem limitRead_continues (hn : 0 < n) (h : limitRead R state n = (got, none, state')) :
    Continues ((R.content state.1).limit state.2) got ((R.content state'.1).limit state'.2) := by
  rcases limitRead_cases R hn h with ⟨-, -, hending, -⟩ | ⟨m, hm, hle, hread, hlen, hleft⟩
  · cases hending
  · have hstep := R.continues hm hread
    have hsame := within_iff_of_continues hstep (Nat.le_trans hlen hle)
    rw [← hleft] at hsame
    by_cases hwithin : (R.content state.1).Within state.2
    · rw [Source.limit, if_pos hwithin, Source.limit, if_pos (hsame.mp hwithin)]
      exact hstep
    · rw [Source.limit, if_neg hwithin, Source.limit, if_neg (mt hsame.mpr hwithin)]
      refine ⟨hstep.nonempty, ?_, rfl, rfl, Or.inr rfl⟩
      rw [hstep.bytes, List.take_append, List.take_of_length_le (Nat.le_trans hlen hle), hleft]

theorem limitRead_ends {failure : Option ε} (hn : 0 < n)
    (h : limitRead R state n = (got, some failure, state')) :
    Ends ((R.content state.1).limit state.2) got failure := by
  rcases limitRead_cases R hn h with ⟨hzero, rfl, hending, -⟩ | ⟨m, hm, hle, hread, hlen, -⟩
  · cases hending
    have hnot : ¬ (R.content state.1).Within 0 := by
      rintro (hlt | ⟨heq, hne, -⟩)
      · exact Nat.not_lt_zero _ hlt
      · exact hne (List.eq_nil_of_length_eq_zero heq)
    rw [hzero, Source.limit, if_neg hnot]
    exact ⟨rfl, rfl, Or.inl rfl⟩
  · have hends := R.ends hm hread
    have hwithin : (R.content state.1).Within state.2 := by
      rcases Nat.lt_or_ge got.length state.2 with hlt | hge
      · exact Or.inl (hends.bytes ▸ hlt)
      · have hne : got ≠ [] := by
          rintro rfl
          rw [List.length_nil] at hge
          omega
        have heq : got.length = state.2 := by omega
        exact Or.inr ⟨hends.bytes ▸ heq, hends.bytes ▸ hne, hends.eager.resolve_left hne⟩
    rw [Source.limit, if_pos hwithin]
    exact hends

/-- `LimitReader`. -/
def Reader.limit (R : Reader ρ α ε) : Reader (ρ × ℕ) α ε where
  read := limitRead R
  content state := (R.content state.1).limit state.2
  length_le state n := by
    rw [limitRead]
    split
    · exact Nat.zero_le n
    · exact Nat.le_trans (R.length_le _ _) (Nat.min_le_left _ _)
  continues := limitRead_continues R
  ends := limitRead_ends R

/-- What reading through a limit leaves in the reader below. -/
structure Leaves (before after : Source α ε) (got : List α) : Prop where
  bytes : before.bytes = got ++ after.bytes
  failure : after.failure = before.failure
  eager : after.bytes ≠ [] → after.eager = before.eager

theorem Leaves.refl (s : Source α ε) : Leaves s s [] := ⟨rfl, rfl, fun _ => rfl⟩

theorem Leaves.trans {s t u : Source α ε} {a b : List α} (h : Leaves s t a) (h' : Leaves t u b) :
    Leaves s u (a ++ b) := by
  refine ⟨?_, h'.failure.trans h.failure, ?_⟩
  · rw [h.bytes, h'.bytes, List.append_assoc]
  · intro hne
    refine (h'.eager hne).trans (h.eager ?_)
    rw [h'.bytes]
    exact List.append_ne_nil_of_right_ne_nil _ hne

theorem leaves_of_read (hsticky : R.Sticky) {r r' : ρ} (hn : 0 < n)
    (h : R.read r n = (got, ending, r')) : Leaves (R.content r) (R.content r') got := by
  cases ending with
  | none =>
    have hstep := R.continues hn h
    exact ⟨hstep.bytes, hstep.failure, fun _ => hstep.eager⟩
  | some failure =>
    have hends := R.ends hn h
    obtain ⟨hbytes, hfailure⟩ := hsticky hn h
    refine ⟨?_, hfailure.trans hends.failure.symm, ?_⟩
    · rw [hends.bytes, hbytes, List.append_nil]
    · intro hne
      exact absurd hbytes hne

/-- Reading through a limit leaves the rest of the stream. -/
theorem leaves_readAll_limit (hsticky : R.Sticky) (round : ℕ) (state : ρ × ℕ) :
    Leaves (R.content state.1) (R.content (R.limit.readAll pace round state).2.2.1)
      (R.limit.readAll pace round state).1 := by
  refine readAll_rule R.limit pace
    (P := fun state got state' => Leaves (R.content state.1) (R.content state'.1) got) ?_ ?_ round
    state
  · intro state n hn
    have hresult : limitRead R state n =
        ((limitRead R state n).1, (limitRead R state n).2.1, (limitRead R state n).2.2) := rfl
    show Leaves _ (R.content (limitRead R state n).2.2.1) (limitRead R state n).1
    rcases limitRead_cases R hn hresult with ⟨-, hgot, -, hstate⟩ | ⟨m, hm, -, hread, -, -⟩
    · rw [hgot, hstate]
      exact Leaves.refl _
    · exact leaves_of_read R hsticky hm hread
  · intro _ _ _ _ _ h h'
    exact h.trans h'

end Limit

end TunnelGateway.ReadStream
