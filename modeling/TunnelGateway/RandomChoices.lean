import TunnelGateway.ConfigValidate
import TunnelGateway.MirrorBody
import TunnelGateway.Pusher
import TunnelGateway.RouteConversion
import Mathlib.Algebra.Order.BigOperators.Group.List
import Mathlib.Algebra.Order.Field.Basic
import Mathlib.Algebra.Order.Field.Rat
import Mathlib.Order.Interval.Finset.Nat
import Mathlib.Tactic.FieldSimp
import Mathlib.Tactic.Linarith

/-!
The proxy leaves two things to chance: which backend of a rule serves a request,
and whether a request is mirrored. Both draw a uniform number below a bound, so
the probability of an outcome is the number of draws that lead to it over the
bound. The weights are added up in 64-bit integers.
-/
namespace TunnelGateway.RandomChoices

open ProxyConfig Router Pusher

section Weights

/-- The loop that adds up the weights, in 64-bit integers. -/
def totalWeight64 (backends : List BackendRef) : ℤ :=
  backends.foldl (fun totalWeight backend => wrap64 (totalWeight + backend.weight)) 0

def pickFrom64 (pick : ℤ) : ℕ → ℤ → List BackendRef → Option ℕ
  | _, _, [] => none
  | idx, cumulative, backend :: rest =>
      let cumulative := wrap64 (cumulative + backend.weight)
      if pick < cumulative then some idx else pickFrom64 pick (idx + 1) cumulative rest

/-- `selectBackend` with its additions in 64-bit integers. The alternative of the last line
is the return after the loop. -/
def selectBackend64 (rand : ℕ → ℕ) (backends : List BackendRef) : Option ℕ :=
  if backends.isEmpty then none
  else if totalWeight64 backends ≤ 0 then none
  else (pickFrom64 (rand (totalWeight64 backends).toNat) 0 0 backends).or
    (some (backends.length - 1))

/-- The exact sum of the first `n` weights. -/
def weightBefore (backends : List BackendRef) (n : ℕ) : ℤ :=
  ((backends.take n).map (·.weight)).sum

/-- Weights as the validated configuration has them: 32-bit and not negative. -/
def Weighted (backends : List BackendRef) : Prop :=
  ∀ backend ∈ backends, 0 ≤ backend.weight ∧ backend.weight < 2 ^ 31

variable {backends : List BackendRef}

@[simp] theorem weightBefore_zero : weightBefore backends 0 = 0 := rfl

@[simp] theorem weightBefore_nil (n : ℕ) : weightBefore [] n = 0 := by
  simp [weightBefore]

@[simp] theorem weightBefore_cons_succ (backend : BackendRef) (n : ℕ) :
    weightBefore (backend :: backends) (n + 1) = backend.weight + weightBefore backends n := by
  simp [weightBefore]

theorem weightBefore_length :
    weightBefore backends backends.length = (backends.map (·.weight)).sum := by
  rw [weightBefore, List.take_length]

theorem weightBefore_succ {n : ℕ} (hn : n < backends.length) :
    weightBefore backends (n + 1) = weightBefore backends n + backends[n].weight := by
  simp only [weightBefore, List.take_succ_eq_append_getElem hn, List.map_append, List.sum_append,
    List.map_singleton, List.sum_singleton]

section Sums

variable (h : Weighted backends)

include h

theorem Weighted.sublist {part : List BackendRef} (hpart : part.Sublist backends) :
    Weighted part :=
  fun backend hbackend => h backend (hpart.subset hbackend)

theorem Weighted.sum_nonneg : 0 ≤ (backends.map (·.weight)).sum := by
  apply List.sum_nonneg
  intro w hw
  obtain ⟨backend, hbackend, rfl⟩ := List.mem_map.mp hw
  exact (h backend hbackend).1

theorem Weighted.weightBefore_nonneg (n : ℕ) : 0 ≤ weightBefore backends n :=
  (h.sublist (List.take_sublist n backends)).sum_nonneg

theorem Weighted.weightBefore_le_length (n : ℕ) :
    weightBefore backends n ≤ weightBefore backends backends.length := by
  have hsplit : weightBefore backends backends.length =
      weightBefore backends n + ((backends.drop n).map (·.weight)).sum := by
    rw [weightBefore_length, weightBefore, ← List.sum_append, ← List.map_append,
      List.take_append_drop]
  have hrest := (h.sublist (List.drop_sublist n backends)).sum_nonneg
  omega

variable (hlen : backends.length ≤ 2 ^ 31)

include hlen

/-- At most `2 ^ 31` weights of 31 bits: no sum of them needs more than 62. -/
theorem Weighted.weightBefore_range (n : ℕ) :
    0 ≤ weightBefore backends n ∧ weightBefore backends n ≤ maxInt64 := by
  refine ⟨h.weightBefore_nonneg n, ?_⟩
  have hsum : weightBefore backends n ≤
      ((backends.take n).map (·.weight)).length • (2 ^ 31) := by
    apply List.sum_le_card_nsmul
    intro w hw
    obtain ⟨backend, hbackend, rfl⟩ := List.mem_map.mp hw
    exact (h backend (List.mem_of_mem_take hbackend)).2.le
  rw [nsmul_eq_mul, List.length_map, List.length_take] at hsum
  unfold maxInt64
  omega

/-- After `n` rounds of the first loop its variable holds the exact sum. -/
theorem totalWeight64_take (n : ℕ) (hn : n ≤ backends.length) :
    totalWeight64 (backends.take n) = weightBefore backends n := by
  induction n with
  | zero => rfl
  | succ n ih =>
    obtain ⟨hlow, hhigh⟩ := h.weightBefore_range hlen (n + 1)
    have hexact := wrap64_eq_self hlow hhigh
    have ih := ih (by omega)
    rw [weightBefore_succ hn] at hexact ⊢
    unfold totalWeight64 at ih ⊢
    rw [List.take_succ_eq_append_getElem hn, List.foldl_append, ih]
    exact hexact

theorem totalWeight64_eq : totalWeight64 backends = weightBefore backends backends.length := by
  rw [← totalWeight64_take h hlen _ (Nat.le_refl _), List.take_length]

omit h hlen in
/-- The second loop, whose variable runs through the same sums. -/
theorem pickFrom64_eq (pick : ℤ) (idx : ℕ) (cumulative : ℤ) (backends : List BackendRef)
    (hrange : ∀ n, 0 ≤ cumulative + weightBefore backends n ∧
      cumulative + weightBefore backends n ≤ maxInt64) :
    pickFrom64 pick idx cumulative backends = pickFrom pick idx cumulative backends := by
  induction backends generalizing idx cumulative with
  | nil => rfl
  | cons backend rest ih =>
    have hhead := hrange 1
    rw [weightBefore_cons_succ, weightBefore_zero, add_zero] at hhead
    have htail : ∀ n, 0 ≤ cumulative + backend.weight + weightBefore rest n ∧
        cumulative + backend.weight + weightBefore rest n ≤ maxInt64 := by
      intro n
      have hn := hrange (n + 1)
      rw [weightBefore_cons_succ, ← add_assoc] at hn
      exact hn
    simp only [pickFrom64, pickFrom, wrap64_eq_self hhead.1 hhead.2, ih _ _ htail]

theorem pickFrom64_zero_eq (pick : ℤ) :
    pickFrom64 pick 0 0 backends = pickFrom pick 0 0 backends := by
  apply pickFrom64_eq
  intro n
  rw [zero_add]
  exact h.weightBefore_range hlen n

theorem selectBackend64_eq (rand : ℕ → ℕ) :
    selectBackend64 rand backends = selectBackend rand backends := by
  simp only [selectBackend64, selectBackend, totalWeight64_eq h hlen, weightBefore_length,
    pickFrom64_zero_eq h hlen]
  cases backends with
  | nil => rfl
  | cons backend rest => simp

end Sums

end Weights

section Picks

variable {backends : List BackendRef} {i idx : ℕ} {cumulative pick : ℤ}

theorem pickFrom_ge (h : pickFrom pick idx cumulative backends = some i) : idx ≤ i := by
  induction backends generalizing idx cumulative with
  | nil => exact nomatch h
  | cons backend rest ih =>
    unfold pickFrom at h
    split at h
    · exact (Option.some.inj h).le
    · have hnext := ih h
      omega

/-- The picks that reach the backend at position `k` are those between the sum of the weights
before it and that sum with its own weight. -/
theorem pickFrom_eq_some_iff {k : ℕ} (h : Weighted backends) (hpick : cumulative ≤ pick) :
    pickFrom pick idx cumulative backends = some (idx + k) ↔
      k < backends.length ∧ cumulative + weightBefore backends k ≤ pick ∧
        pick < cumulative + weightBefore backends (k + 1) := by
  induction backends generalizing idx k cumulative with
  | nil => simp [pickFrom]
  | cons backend rest ih =>
    have htail := h.sublist (List.sublist_cons_self backend rest)
    have hrest := htail.weightBefore_nonneg
    unfold pickFrom
    split
    · rename_i hlt
      -- The head takes the pick, so every later interval starts above it.
      cases k with
      | zero => simp [hpick, hlt]
      | succ k =>
        have hk := hrest k
        simp only [Option.some.injEq, weightBefore_cons_succ]
        constructor
        · intro heq
          omega
        · intro hin
          omega
    · cases k with
      | zero =>
        simp only [weightBefore_cons_succ, weightBefore_zero]
        constructor
        · intro hsome
          have hidx := pickFrom_ge hsome
          omega
        · intro hin
          omega
      | succ k =>
        have hshift : idx + (k + 1) = idx + 1 + k := by omega
        rw [hshift, ih htail (by omega), weightBefore_cons_succ, weightBefore_cons_succ,
          List.length_cons]
        omega

theorem pickFrom_zero_eq_some_iff {pick : ℕ} (h : Weighted backends) :
    pickFrom pick 0 0 backends = some i ↔
      i < backends.length ∧ weightBefore backends i ≤ pick ∧
        pick < weightBefore backends (i + 1) := by
  have hiff : pickFrom pick 0 0 backends = some (0 + i) ↔ _ :=
    pickFrom_eq_some_iff h (Int.natCast_nonneg pick)
  simpa only [zero_add] using hiff

/-- A pick below the total never leaves the loop. -/
theorem pickFrom_ne_none (idx : ℕ)
    (hlt : pick < cumulative + weightBefore backends backends.length) (hpick : cumulative ≤ pick) :
    pickFrom pick idx cumulative backends ≠ none := by
  induction backends generalizing idx cumulative with
  | nil =>
    rw [weightBefore_nil] at hlt
    omega
  | cons backend rest ih =>
    unfold pickFrom
    split
    · exact Option.some_ne_none _
    · rw [List.length_cons, weightBefore_cons_succ] at hlt
      exact ih (idx + 1) (by omega) (by omega)

theorem selectBackend_eq_none_iff (h : Weighted backends) (rand : ℕ → ℕ) :
    selectBackend rand backends = none ↔
      backends = [] ∨ weightBefore backends backends.length = 0 := by
  have hnonneg := h.weightBefore_nonneg backends.length
  simp only [selectBackend, ← weightBefore_length, Bool.or_eq_true, List.isEmpty_iff,
    decide_eq_true_eq]
  split
  · rename_i hnone
    simp only [true_iff]
    exact hnone.imp_right fun hle => by omega
  · rename_i hsome
    push Not at hsome
    constructor
    · intro hor
      exact absurd (Option.or_eq_none_iff.mp hor).2 (Option.some_ne_none _)
    · rintro (hnil | hzero)
      · exact absurd hnil hsome.1
      · omega

/-- Below the total the choice is what the loop finds. -/
theorem selectBackend_of_lt {pick : ℕ}
    (hpick : (pick : ℤ) < weightBefore backends backends.length) :
    selectBackend (fun _ => pick) backends = pickFrom pick 0 0 backends := by
  have hne : backends ≠ [] := by
    rintro rfl
    rw [weightBefore_nil] at hpick
    omega
  have hfound : pickFrom pick 0 0 backends ≠ none := pickFrom_ne_none 0 (by omega) (by omega)
  obtain ⟨i, hi⟩ := Option.ne_none_iff_exists'.mp hfound
  rw [weightBefore_length] at hpick
  simp only [selectBackend, hi, Option.some_or]
  rw [if_neg]
  simp only [Bool.or_eq_true, List.isEmpty_iff, decide_eq_true_eq, not_or]
  exact ⟨hne, by omega⟩

/-- The picks that choose backend `i` form an interval as long as its weight. -/
theorem card_picks (h : Weighted backends) (hi : i < backends.length) :
    ((Finset.range (weightBefore backends backends.length).toNat).filter
      fun pick => selectBackend (fun _ => pick) backends = some i).card =
        backends[i].weight.toNat := by
  have hstep := weightBefore_succ hi
  have hstart := h.weightBefore_nonneg i
  have hstop := h.weightBefore_le_length (i + 1)
  have hinterval : ((Finset.range (weightBefore backends backends.length).toNat).filter
      fun pick => selectBackend (fun _ => pick) backends = some i) =
        Finset.Ico (weightBefore backends i).toNat (weightBefore backends (i + 1)).toNat := by
    ext pick
    simp only [Finset.mem_filter, Finset.mem_range, Finset.mem_Ico]
    constructor
    · rintro ⟨hlt, hchosen⟩
      rw [selectBackend_of_lt (by omega), pickFrom_zero_eq_some_iff h] at hchosen
      omega
    · rintro ⟨hge, hlt⟩
      refine ⟨by omega, ?_⟩
      rw [selectBackend_of_lt (by omega), pickFrom_zero_eq_some_iff h]
      omega
  rw [hinterval, Nat.card_Ico]
  omega

/-- The weighted choice is exact: every backend is chosen by as many picks as its weight says,
the return after the loop is never taken, and every 64-bit sum is the true one. -/
theorem selectBackend64_exact (cfg : Config) (rule : RouteRule) (hvalid : cfg.validate = .ok ())
    (hrule : rule ∈ cfg.rules) (hint32 : ∀ backend ∈ rule.backends, backend.weight < 2 ^ 31)
    (hlen : rule.backends.length ≤ 2 ^ 31) :
    (∀ rand, selectBackend64 rand rule.backends = none ↔
      rule.backends = [] ∨ (rule.backends.map BackendRef.weight).sum = 0) ∧
    (∀ i (hi : i < rule.backends.length),
      ((Finset.range (rule.backends.map BackendRef.weight).sum.toNat).filter
        fun pick => selectBackend64 (fun _ => pick) rule.backends = some i).card =
          rule.backends[i].weight.toNat) ∧
    (∀ pick : ℕ, (pick : ℤ) < (rule.backends.map BackendRef.weight).sum →
      ∃ i, selectBackend64 (fun _ => pick) rule.backends = some i ∧
        ∃ backend, rule.backends[i]? = some backend ∧ 0 < backend.weight) ∧
    (∀ pick : ℕ, (pick : ℤ) < (rule.backends.map BackendRef.weight).sum →
      pickFrom64 pick 0 0 rule.backends ≠ none) ∧
    (∀ n ≤ rule.backends.length,
      totalWeight64 (rule.backends.take n) = ((rule.backends.take n).map BackendRef.weight).sum ∧
      0 ≤ ((rule.backends.take n).map BackendRef.weight).sum ∧
      ((rule.backends.take n).map BackendRef.weight).sum ≤ maxInt64) := by
  have hbackends := (((Config.validate_eq_ok cfg).mp hvalid).rules rule hrule).backends
  have h : Weighted rule.backends := fun backend hbackend =>
    ⟨(hbackends backend hbackend).weight, hint32 backend hbackend⟩
  have htotal : (rule.backends.map BackendRef.weight).sum =
      weightBefore rule.backends rule.backends.length := weightBefore_length.symm
  simp only [selectBackend64_eq h hlen, htotal]
  refine ⟨selectBackend_eq_none_iff h, fun i hi => card_picks h hi, ?_, ?_, ?_⟩
  · intro pick hpick
    have hfound : pickFrom pick 0 0 rule.backends ≠ none :=
      pickFrom_ne_none 0 (by omega) (by omega)
    obtain ⟨i, hi⟩ := Option.ne_none_iff_exists'.mp hfound
    refine ⟨i, (selectBackend_of_lt hpick).trans hi, ?_⟩
    rw [pickFrom_zero_eq_some_iff h] at hi
    refine ⟨rule.backends[i], List.getElem?_eq_getElem hi.1, ?_⟩
    have hstep := weightBefore_succ hi.1
    omega
  · intro pick hpick
    rw [pickFrom64_zero_eq h hlen]
    exact pickFrom_ne_none 0 (by omega) (by omega)
  · intro n hn
    exact ⟨totalWeight64_take h hlen n hn, h.weightBefore_range hlen n⟩

def canary : RouteRule where
  backends := [{ url := "http://stable:80", weight := 3 },
    { url := "http://drained:80", weight := 0 }, { url := "http://canary:80", weight := 1 }]

theorem selectBackend64_exact_canary :
    ({ version := 1, rules := [canary] } : Config).validate = .ok () ∧
    ((Finset.range 4).filter
      fun pick => selectBackend64 (fun _ => pick) canary.backends = some 0).card = 3 ∧
    ((Finset.range 4).filter
      fun pick => selectBackend64 (fun _ => pick) canary.backends = some 1).card = 0 := by
  have hvalid : ({ version := 1, rules := [canary] } : Config).validate = .ok () := by
    decide +kernel
  have hexact := selectBackend64_exact { version := 1, rules := [canary] } canary hvalid
    List.mem_cons_self (by decide) (by decide)
  exact ⟨hvalid, hexact.2.1 0 (by decide), hexact.2.1 1 (by decide)⟩

end Picks

section Mirrors

open RouteSpec RouteConversion MirrorBody

/-- The probability that a request is mirrored: the draws of `rand.Int32N(100)` that admit it,
out of a hundred. -/
def samplingRate (percent : Option ℤ) : ℚ :=
  ((Finset.range 100).filter fun draw => shouldMirror percent draw = true).card / 100

/-- The rate at which the filter built from a route's mirror admits requests. -/
def mirrorRate (mirror : HTTPRequestMirrorFilter) : ℚ := samplingRate (mirrorPercent mirror)

variable {percent : ℤ} {mirror : HTTPRequestMirrorFilter}

theorem shouldMirror_iff (hlow : 0 ≤ percent) {draw : ℕ} (hdraw : draw < 100) :
    shouldMirror (some percent) draw = true ↔ (draw : ℤ) < percent := by
  unfold shouldMirror
  dsimp only
  split
  · simp only [Bool.false_eq_true, false_iff]
    omega
  · split
    · simp only [true_iff]
      omega
    · exact decide_eq_true_iff

theorem samplingRate_some (hlow : 0 ≤ percent) (hhigh : percent ≤ 100) :
    samplingRate (some percent) = percent / 100 := by
  have hdraws : ((Finset.range 100).filter fun draw => shouldMirror (some percent) draw = true) =
      Finset.range percent.toNat := by
    ext draw
    simp only [Finset.mem_filter, Finset.mem_range]
    constructor
    · rintro ⟨hdraw, hadmit⟩
      rw [shouldMirror_iff hlow hdraw] at hadmit
      omega
    · intro hlt
      refine ⟨by omega, ?_⟩
      rw [shouldMirror_iff hlow (by omega)]
      omega
  have hcast : (percent.toNat) = (percent : ℚ) := by
    exact_mod_cast Int.toNat_of_nonneg hlow
  rw [samplingRate, hdraws, Finset.card_range, hcast]

theorem clampPercent_eq_self {value : ℤ} (hlow : 0 ≤ value) (hhigh : value ≤ 100) :
    clampPercent value = value := by
  unfold clampPercent
  rw [if_neg (by omega), if_neg (by omega)]

/-- A fraction is rounded down to a whole percent. -/
theorem mirrorPercent_fraction {fraction : Fraction} (hpercent : mirror.percent = none)
    (h : mirror.fraction = some fraction) (hnum : 0 ≤ fraction.numerator)
    (hden : 1 ≤ fraction.denominator.getD 100)
    (hle : fraction.numerator ≤ fraction.denominator.getD 100) :
    mirrorPercent mirror = some (fraction.numerator * 100 / fraction.denominator.getD 100) ∧
      0 ≤ fraction.numerator * 100 / fraction.denominator.getD 100 ∧
      fraction.numerator * 100 / fraction.denominator.getD 100 ≤ 100 := by
  have hlow : 0 ≤ fraction.numerator * 100 / fraction.denominator.getD 100 :=
    Int.ediv_nonneg (by omega) (by omega)
  have hhigh : fraction.numerator * 100 / fraction.denominator.getD 100 ≤ 100 :=
    Int.ediv_le_of_le_mul (by omega) (by omega)
  refine ⟨?_, hlow, hhigh⟩
  have htdiv : (fraction.numerator * 100).tdiv (fraction.denominator.getD 100) =
      fraction.numerator * 100 / fraction.denominator.getD 100 :=
    Int.tdiv_eq_ediv_of_nonneg (by omega)
  simp only [mirrorPercent, hpercent, h, htdiv, clampPercent_eq_self hlow hhigh]
  rw [if_neg (by omega)]

/-- How far a whole number of percents is from the ratio it was rounded down from. -/
theorem div_hundred_bounds {n d : ℤ} (hd : 1 ≤ d) :
    ((n * 100 / d : ℤ) : ℚ) / 100 ≤ n / d ∧ (n : ℚ) / d < ((n * 100 / d : ℤ) : ℚ) / 100 + 1 / 100 ∧
      (((n * 100 / d : ℤ) : ℚ) / 100 = n / d ↔ d ∣ n * 100) := by
  have hpos : (0 : ℚ) < d := by exact_mod_cast hd
  have hlow : ((n * 100 / d : ℤ) : ℚ) * d ≤ n * 100 := by
    exact_mod_cast Int.ediv_mul_le (n * 100) (by omega)
  have hhigh : n * 100 < (((n * 100 / d : ℤ) : ℚ) + 1) * d := by
    exact_mod_cast Int.lt_ediv_add_one_mul_self (n * 100) (by omega)
  refine ⟨?_, ?_, ?_⟩
  · rw [div_le_div_iff₀ (by norm_num) hpos]
    exact hlow
  · rw [← add_div, div_lt_div_iff₀ hpos (by norm_num)]
    exact hhigh
  · rw [div_eq_div_iff (by norm_num) hpos.ne']
    constructor
    · intro heq
      have heq : n * 100 / d * d = n * 100 := by exact_mod_cast heq
      exact ⟨n * 100 / d, by rw [mul_comm d, heq]⟩
    · intro hdvd
      exact_mod_cast Int.ediv_mul_cancel hdvd

/-- A percentage is sampled at its own rate, a fraction at the largest whole percentage not
above it: at its own rate exactly if its denominator divides a hundred times its numerator,
and at less than a hundredth below it otherwise. -/
theorem mirrorRate_eq (mirror : HTTPRequestMirrorFilter) :
    (∀ percent : ℤ, mirror.percent = some percent → 0 ≤ percent → percent ≤ 100 →
      mirrorRate mirror = percent / 100) ∧
    (∀ fraction d, mirror.percent = none → mirror.fraction = some fraction →
      fraction.denominator.getD 100 = d → 0 ≤ fraction.numerator → fraction.numerator ≤ d → 1 ≤ d →
        mirrorRate mirror = ((fraction.numerator * 100 / d : ℤ) : ℚ) / 100 ∧
        mirrorRate mirror ≤ fraction.numerator / d ∧
        (fraction.numerator : ℚ) / d < mirrorRate mirror + 1 / 100 ∧
        (mirrorRate mirror = fraction.numerator / d ↔ d ∣ fraction.numerator * 100)) := by
  constructor
  · intro percent h hlow hhigh
    simp only [mirrorRate, mirrorPercent, h, clampPercent_eq_self hlow hhigh,
      samplingRate_some hlow hhigh]
  · rintro fraction d hpercent h rfl hnum hle hden
    obtain ⟨hmirror, hlow, hhigh⟩ := mirrorPercent_fraction hpercent h hnum hden hle
    have hrate : mirrorRate mirror =
        ((fraction.numerator * 100 / fraction.denominator.getD 100 : ℤ) : ℚ) / 100 := by
      rw [mirrorRate, hmirror, samplingRate_some hlow hhigh]
    rw [hrate]
    exact ⟨rfl, div_hundred_bounds hden⟩

def sampledMirror (numerator denominator : ℤ) : HTTPRequestMirrorFilter where
  backendRef := { name := "shadow" }
  fraction := some { numerator := numerator, denominator := some denominator }

theorem mirrorRate_eq_three_eighths : mirrorRate (sampledMirror 3 8) = 37 / 100 := by
  have hrate := ((mirrorRate_eq (sampledMirror 3 8)).2 _ 8 rfl rfl rfl (by decide) (by decide)
    (by decide)).1
  rw [hrate]
  norm_num [sampledMirror]

/-- One request in a thousand is rounded down to none. -/
theorem mirrorRate_thousandth :
    mirrorRate (sampledMirror 1 1000) = 0 ∧
    ¬ ∀ (mirror : HTTPRequestMirrorFilter) (fraction : Fraction) (d : ℤ),
      mirror.percent = none → mirror.fraction = some fraction →
      fraction.denominator.getD 100 = d → 0 ≤ fraction.numerator → fraction.numerator ≤ d → 1 ≤ d →
        mirrorRate mirror = fraction.numerator / d := by
  have hpercent : mirrorPercent (sampledMirror 1 1000) = some 0 := by decide
  have hzero : mirrorRate (sampledMirror 1 1000) = 0 := by
    rw [mirrorRate, hpercent, samplingRate_some (by decide) (by decide)]
    norm_num
  refine ⟨hzero, ?_⟩
  intro hclaim
  have hrate := hclaim (sampledMirror 1 1000) _ 1000 rfl rfl rfl (by decide) (by decide) (by decide)
  rw [hzero] at hrate
  norm_num at hrate

end Mirrors

end TunnelGateway.RandomChoices
