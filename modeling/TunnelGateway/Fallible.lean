import Mathlib.Data.List.Forall2

/-!
Fallible loops with wrapped errors. A loop over a slice stops at the first
element that fails and wraps the error with the element's field path, as in
`rule[3]: match[0]: ...`. The results here say when such a loop succeeds and
what it returns, so that no later proof unfolds the loop.
-/
namespace TunnelGateway.Fallible

universe u

variable {α β : Type u}

/-- Prefix an error with context, as an error wrapper does. -/
def wrap (context : String) (result : Except String α) : Except String α :=
  result.mapError fun err => context ++ ": " ++ err

/-- The field path of one element of a slice. -/
def indexed (field : String) (idx : ℕ) : String := s!"{field}[{idx}]"

/-- Apply `f` to every element with its index, wrapping the first error. -/
def forEachFrom (label : ℕ → String) (f : ℕ → α → Except String β) :
    ℕ → List α → Except String (List β)
  | _, [] => .ok []
  | idx, x :: rest =>
      match wrap (label idx) (f idx x), forEachFrom label f (idx + 1) rest with
      | .error err, _ => .error err
      | .ok _, .error err => .error err
      | .ok y, .ok ys => .ok (y :: ys)

def forEach (label : ℕ → String) (f : ℕ → α → Except String β) (xs : List α) :
    Except String (List β) := forEachFrom label f 0 xs

@[simp]
theorem wrap_eq_ok (context : String) (result : Except String α) (y : α) :
    wrap context result = .ok y ↔ result = .ok y := by
  cases result <;> simp [wrap, Except.mapError]

theorem toOption_eq_some (result : Except String α) (y : α) :
    result.toOption = some y ↔ result = .ok y := by
  cases result <;> simp [Except.toOption]

theorem map_eq_ok (f : α → β) (result : Except String α) (y : β) :
    result.map f = .ok y ↔ ∃ x, result = .ok x ∧ f x = y := by
  cases result <;> simp [Except.map]

theorem bind_eq_ok (result : Except String α) (next : α → Except String β) (y : β) :
    (result >>= next) = .ok y ↔ ∃ x, result = .ok x ∧ next x = .ok y := by
  cases result <;> simp [bind, Except.bind]

/-- A test on every result of a loop is the matching test on every input. -/
theorem all_of_mapM_eq_ok (f : α → Except String β) (p : β → Bool) (q : α → Bool)
    (hpq : ∀ x y, f x = .ok y → p y = q x) (xs : List α) (ys : List β)
    (h : xs.mapM f = .ok ys) : ys.all p = xs.all q := by
  induction xs generalizing ys with
  | nil =>
    cases h
    rfl
  | cons x rest ih =>
    rw [List.mapM_cons, bind_eq_ok] at h
    obtain ⟨y, hy, h⟩ := h
    rw [bind_eq_ok] at h
    obtain ⟨ys', hys, h⟩ := h
    cases h
    rw [List.all_cons, List.all_cons, hpq x y hy, ih ys' hys]

theorem mapM_isOk_iff (f : α → Except String β) (xs : List α) :
    (∃ ys, xs.mapM f = .ok ys) ↔ ∀ x ∈ xs, ∃ y, f x = .ok y := by
  induction xs with
  | nil => exact ⟨fun _ x hx => absurd hx List.not_mem_nil, fun _ => ⟨[], rfl⟩⟩
  | cons x rest ih =>
    rw [List.forall_mem_cons, ← ih, List.mapM_cons]
    simp only [bind_eq_ok]
    constructor
    · rintro ⟨ys, y, hy, ys', hys, -⟩
      exact ⟨⟨y, hy⟩, ⟨ys', hys⟩⟩
    · rintro ⟨⟨y, hy⟩, ⟨ys', hys⟩⟩
      exact ⟨y :: ys', y, hy, ys', hys, rfl⟩

theorem forEachFrom_eq_ok (label : ℕ → String) (f : ℕ → α → Except String β) (idx : ℕ)
    (xs : List α) (ys : List β) :
    forEachFrom label f idx xs = .ok ys ↔
      List.Forall₂ (fun (x : α × ℕ) y => f x.2 x.1 = .ok y) (xs.zipIdx idx) ys := by
  induction xs generalizing idx ys with
  | nil => cases ys <;> simp [forEachFrom]
  | cons x rest ih =>
    rw [List.zipIdx_cons, List.forall₂_cons_left_iff, forEachFrom]
    constructor
    · intro h
      split at h
      · cases h
      · cases h
      · rename_i y ys' hy hys
        cases h
        exact ⟨y, ys', (wrap_eq_ok _ _ _).mp hy, (ih _ _).mp hys, rfl⟩
    · rintro ⟨y, ys', hy, hys, rfl⟩
      have hy' : wrap (label idx) (f idx x) = .ok y := (wrap_eq_ok _ _ _).mpr hy
      rw [hy', (ih _ _).mpr hys]

theorem length_of_forEach_eq_ok (label : ℕ → String) (f : ℕ → α → Except String β) (xs : List α)
    (ys : List β) (h : forEach label f xs = .ok ys) : ys.length = xs.length := by
  have hall := (forEachFrom_eq_ok label f 0 xs ys).mp h
  simpa using hall.length_eq.symm

/-- A test on some result of a loop is the matching test on some input. -/
theorem any_of_forEach_eq_ok (label : ℕ → String) (f : ℕ → α → Except String β)
    (p : β → Bool) (q : α → Bool) (hpq : ∀ idx x y, f idx x = .ok y → p y = q x)
    (xs : List α) (ys : List β) (h : forEach label f xs = .ok ys) : ys.any p = xs.any q := by
  have hall : ∀ (start : ℕ) (ys : List β),
      List.Forall₂ (fun x y => f x.2 x.1 = .ok y) (xs.zipIdx start) ys →
      ys.any p = xs.any q := by
    clear h
    induction xs with
    | nil =>
      intro start ys hall
      cases hall
      rfl
    | cons x rest ih =>
      intro start ys hall
      rw [List.zipIdx_cons, List.forall₂_cons_left_iff] at hall
      obtain ⟨y, ys', hy, hys, rfl⟩ := hall
      rw [List.any_cons, List.any_cons, hpq start x y hy, ih (start + 1) ys' hys]
  exact hall 0 ys ((forEachFrom_eq_ok label f 0 xs ys).mp h)

/-- A loop succeeds exactly when its body succeeds on every element. -/
theorem forEach_isOk_iff (label : ℕ → String) (f : ℕ → α → Except String β) (xs : List α) :
    (∃ ys, forEach label f xs = .ok ys) ↔
      ∀ x ∈ xs.zipIdx, ∃ y, f x.2 x.1 = .ok y := by
  simp only [forEach, forEachFrom_eq_ok]
  generalize xs.zipIdx = pairs
  induction pairs with
  | nil => simp
  | cons x rest ih =>
    simp only [List.forall₂_cons_left_iff, List.forall_mem_cons]
    rw [← ih]
    constructor
    · rintro ⟨ys, y, ys', hy, hys, rfl⟩
      exact ⟨⟨y, hy⟩, ⟨ys', hys⟩⟩
    · rintro ⟨⟨y, hy⟩, ⟨ys', hys⟩⟩
      exact ⟨y :: ys', y, ys', hy, hys, rfl⟩

private theorem mem_iff_of_forall₂ {f : α → Except String β} {xs : List α} {ys : List β}
    (h : List.Forall₂ (fun x y => f x = .ok y) xs ys) (y : β) :
    y ∈ ys ↔ ∃ x ∈ xs, f x = .ok y := by
  induction h with
  | nil => simp
  | @cons x y' rest ys' hx hrest ih =>
    rw [List.mem_cons, ih, List.exists_mem_cons_iff, hx, Except.ok.injEq]
    exact or_congr_left eq_comm

/-- The results of a loop, one by one. -/
theorem mem_of_forEach_eq_ok (label : ℕ → String) (f : ℕ → α → Except String β) (xs : List α)
    (ys : List β) (h : forEach label f xs = .ok ys) (y : β) :
    y ∈ ys ↔ ∃ idx x, xs[idx]? = some x ∧ f idx x = .ok y := by
  have hall := (forEachFrom_eq_ok label f 0 xs ys).mp h
  rw [mem_iff_of_forall₂ hall y]
  simp only [Prod.exists, List.mk_mem_zipIdx_iff_getElem?]
  exact exists_comm

theorem getElem?_of_forEach_eq_ok {label : ℕ → String} {f : ℕ → α → Except String β}
    {xs : List α} {ys : List β} (h : forEach label f xs = .ok ys) {idx : ℕ} {y : β}
    (hy : ys[idx]? = some y) : ∃ x, xs[idx]? = some x ∧ f idx x = .ok y := by
  have hall := (forEachFrom_eq_ok label f 0 xs ys).mp h
  obtain ⟨hidx, rfl⟩ := List.getElem?_eq_some_iff.mp hy
  have hlength := length_of_forEach_eq_ok label f xs ys h
  have hidx' : idx < xs.length := hlength ▸ hidx
  refine ⟨xs[idx], List.getElem?_eq_getElem hidx', ?_⟩
  have hpair := hall.get (by simpa using hidx') hidx
  simpa using hpair

/-- Check every element with its index and stop at the first error. -/
def checkEachFrom (check : ℕ → α → Except String Unit) : ℕ → List α → Except String Unit
  | _, [] => .ok ()
  | idx, x :: rest =>
      match check idx x with
      | .error err => .error err
      | .ok _ => checkEachFrom check (idx + 1) rest

def checkEach (check : ℕ → α → Except String Unit) (xs : List α) : Except String Unit :=
  checkEachFrom check 0 xs

theorem checkEachFrom_eq_ok (check : ℕ → α → Except String Unit) {p : α → Prop}
    (hcheck : ∀ idx x, check idx x = .ok () ↔ p x) (idx : ℕ) (xs : List α) :
    checkEachFrom check idx xs = .ok () ↔ ∀ x ∈ xs, p x := by
  induction xs generalizing idx with
  | nil => simp [checkEachFrom]
  | cons x rest ih =>
    rw [List.forall_mem_cons, ← hcheck idx x, ← ih (idx + 1), checkEachFrom]
    split
    · rename_i err herr
      simp [herr]
    · rename_i herr
      simp [herr]

/-- A loop of checks passes exactly when every element does. -/
theorem checkEach_eq_ok (check : ℕ → α → Except String Unit) {p : α → Prop}
    (hcheck : ∀ idx x, check idx x = .ok () ↔ p x) (xs : List α) :
    checkEach check xs = .ok () ↔ ∀ x ∈ xs, p x :=
  checkEachFrom_eq_ok check hcheck 0 xs

/-- A check before another: both have to pass. -/
theorem seq_eq_ok (first second : Except String Unit) :
    (first >>= fun _ => second) = .ok () ↔ first = .ok () ∧ second = .ok () := by
  rw [bind_eq_ok]
  exact ⟨fun h => ⟨h.choose_spec.1, h.choose_spec.2⟩, fun h => ⟨(), h⟩⟩

private theorem filterAuxM_ok {α : Type} {f : α → Except String Bool} {p : α → Bool} {l : List α}
    (h : ∀ a ∈ l, f a = .ok (p a)) (acc : List α) :
    l.filterAuxM f acc = .ok ((l.filter p).reverse ++ acc) := by
  induction l generalizing acc with
  | nil => rfl
  | cons a rest ih =>
    have hrest : ∀ b ∈ rest, f b = .ok (p b) := fun b hb => h b (List.mem_cons_of_mem a hb)
    have hstep : (a :: rest).filterAuxM f acc =
        rest.filterAuxM f (cond (p a) (a :: acc) acc) := by
      rw [List.filterAuxM, h a List.mem_cons_self]
      rfl
    rw [hstep, ih hrest]
    cases hp : p a <;> simp [hp]

/-- A filter whose test never fails is a plain one. -/
theorem filterM_ok {α : Type} {f : α → Except String Bool} {p : α → Bool} {l : List α}
    (h : ∀ a ∈ l, f a = .ok (p a)) : l.filterM f = .ok (l.filter p) := by
  rw [List.filterM, filterAuxM_ok h]
  show Except.ok _ = _
  rw [List.append_nil, List.reverse_reverse]

/-- A filter whose test always fails does so at the first element. -/
theorem filterM_error {α : Type} {f : α → Except String Bool} {err : String} {l : List α}
    (hne : l ≠ []) (h : ∀ a ∈ l, f a = .error err) : l.filterM f = .error err := by
  cases l with
  | nil => exact absurd rfl hne
  | cons a rest =>
    rw [List.filterM, List.filterAuxM, h a List.mem_cons_self]
    rfl

end TunnelGateway.Fallible
