import TunnelGateway.UrlEncoding
import TunnelGateway.SeparatedText

/-!
Slash-separated paths read element by element. `path.Clean` depends only on
whether a path is rooted and on its nonempty elements; it leaves a rooted path as
it is exactly when the path is the root or has no empty and no dot element, so in
particular no trailing slash.
-/
namespace TunnelGateway.PathElements

open UrlEncoding SeparatedText

def Rooted (p : List Char) : Prop := p.head? = some '/'

instance (p : List Char) : Decidable (Rooted p) := by
  unfold Rooted
  infer_instance

/-- The nonempty elements of a path. -/
def elements (p : List Char) : List (List Char) := (p.splitOn '/').filter (· ≠ [])

/-- An element that cleaning keeps. -/
def Proper (e : List Char) : Prop := e ≠ [] ∧ e ≠ ['.'] ∧ e ≠ ['.', '.']

instance (e : List Char) : Decidable (Proper e) := by
  unfold Proper
  infer_instance

/-- Rooted, with nothing for cleaning to remove. -/
def Canonical (p : List Char) : Prop :=
  Rooted p ∧ (p = ['/'] ∨ ∀ e ∈ p.tail.splitOn '/', Proper e)

instance (p : List Char) : Decidable (Canonical p) := by
  unfold Canonical
  infer_instance

theorem not_mem_of_mem_splitOn {p : List Char} {c : Char} :
    ∀ {e : List Char}, e ∈ p.splitOn c → c ∉ e := by
  induction p with
  | nil =>
    intro e he
    rw [List.splitOn_nil, List.mem_singleton] at he
    rw [he]
    exact List.not_mem_nil
  | cons d rest ih =>
    intro e he
    rw [List.splitOn, List.splitOnP_cons_eq_if_modifyHead] at he
    split at he
    · rcases List.mem_cons.mp he with rfl | hrest
      · exact List.not_mem_nil
      · exact ih hrest
    · next hd =>
      cases hsplit : List.splitOnP (· == c) rest with
      | nil => exact absurd hsplit (List.splitOnP_ne_nil _ _)
      | cons first others =>
        rw [hsplit] at he
        have hfirst : first ∈ rest.splitOn c := by
          rw [List.splitOn, hsplit]
          exact List.mem_cons_self
        rcases List.mem_cons.mp he with rfl | hothers
        · intro hmem
          rcases List.mem_cons.mp hmem with rfl | hmem
          · exact hd (beq_self_eq_true _)
          · exact ih hfirst hmem
        · apply ih
          rw [List.splitOn, hsplit]
          exact List.mem_cons_of_mem _ hothers

/-- A path comes first in another, element by element, exactly when the other is the path
or continues it after a slash. -/
theorem splitOn_isPrefix_iff (p q : List Char) :
    p.splitOn '/' <+: q.splitOn '/' ↔ q = p ∨ ∃ rest, q = p ++ '/' :: rest := by
  constructor
  · rintro ⟨more, hmore⟩
    have hjoin : ∀ {a : List Char}, a.splitOn '/' = q.splitOn '/' → q = a := by
      intro a ha
      calc q = ['/'].intercalate (q.splitOn '/') := (List.intercalate_splitOn _).symm
        _ = ['/'].intercalate (a.splitOn '/') := by rw [ha]
        _ = a := List.intercalate_splitOn _
    by_cases hnil : more = []
    · left
      apply hjoin
      rw [← hmore, hnil, List.append_nil]
    · right
      refine ⟨['/'].intercalate more, hjoin ?_⟩
      have hfree : ∀ e ∈ more, '/' ∉ e := by
        intro e he
        apply not_mem_of_mem_splitOn
        rw [← hmore]
        exact List.mem_append_right _ he
      rw [List.splitOn_append_cons_self, List.splitOn_intercalate '/' hfree hnil, hmore]
  · rintro (rfl | ⟨rest, rfl⟩)
    · exact List.prefix_rfl
    · rw [List.splitOn_append_cons_self]
      exact List.prefix_append _ _

theorem elements_append_slash (p q : List Char) :
    elements (p ++ '/' :: q) = elements p ++ elements q := by
  rw [elements, List.splitOn_append_cons_self, List.filter_append]
  rfl

@[simp]
theorem elements_nil : elements [] = [] := rfl

theorem rooted_append {p : List Char} (h : p ≠ []) (q : List Char) :
    Rooted (p ++ q) ↔ Rooted p := by
  cases p with
  | nil => exact absurd rfl h
  | cons c rest => exact Iff.rfl

section Clean

theorem cleanElements_filter (rooted : Bool) (out els : List (List Char)) :
    cleanElements rooted out (els.filter (· ≠ [])) = cleanElements rooted out els := by
  induction els generalizing out with
  | nil => rfl
  | cons e rest ih =>
    by_cases he : e = []
    · subst he
      rw [List.filter_cons_of_neg (by simp), ih]
      simp [cleanElements]
    · rw [List.filter_cons_of_pos (by simpa using he)]
      unfold cleanElements
      simp only [ih]

theorem cleanElements_elements (rooted : Bool) (out : List (List Char)) (p : List Char) :
    cleanElements rooted out (elements p) = cleanElements rooted out (p.splitOn '/') :=
  cleanElements_filter rooted out _

variable {p : String} {rooted : Bool} {els : List (List Char)}

theorem cleanPath_of_rooted (h : Rooted p.toList) :
    cleanPath p = String.ofList
      ('/' :: ['/'].intercalate (cleanElements true [] (p.toList.splitOn '/'))) := by
  unfold Rooted at h
  simp [cleanPath, h]

theorem cleanPath_of_not_rooted (h : ¬ Rooted p.toList) :
    cleanPath p =
      let body := ['/'].intercalate (cleanElements false [] (p.toList.splitOn '/'))
      if body = [] then "." else String.ofList body := by
  unfold Rooted at h
  simp [cleanPath, h]

theorem cleanPath_eq_of_elements {q : String} (hroot : Rooted p.toList ↔ Rooted q.toList)
    (h : elements p.toList = elements q.toList) : cleanPath p = cleanPath q := by
  have hclean : ∀ rooted, cleanElements rooted [] (p.toList.splitOn '/') =
      cleanElements rooted [] (q.toList.splitOn '/') := by
    intro rooted
    rw [← cleanElements_elements, ← cleanElements_elements, h]
  by_cases hp : Rooted p.toList
  · rw [cleanPath_of_rooted hp, cleanPath_of_rooted (hroot.mp hp), hclean]
  · rw [cleanPath_of_not_rooted hp, cleanPath_of_not_rooted (fun hq => hp (hroot.mpr hq)), hclean]

theorem cleanElements_append_of_proper (h : ∀ e ∈ els, Proper e) (out rest : List (List Char)) :
    cleanElements rooted out (els ++ rest) = cleanElements rooted (els.reverse ++ out) rest := by
  induction els generalizing out with
  | nil => rfl
  | cons e others ih =>
    rw [List.forall_mem_cons] at h
    obtain ⟨⟨hempty, hdot, hdots⟩, hothers⟩ := h
    simp [cleanElements, hempty, hdot, hdots, ih hothers]

theorem cleanElements_of_proper (h : ∀ e ∈ els, Proper e) (out : List (List Char)) :
    cleanElements rooted out els = out.reverse ++ els := by
  rw [← List.append_nil els, cleanElements_append_of_proper h, cleanElements,
    List.reverse_append, List.reverse_reverse, List.append_nil]

/-- Under a root, cleaning leaves proper elements only. -/
theorem proper_cleanElements {out : List (List Char)} (hout : ∀ e ∈ out, Proper e ∧ '/' ∉ e)
    (hels : ∀ e ∈ els, '/' ∉ e) : ∀ e ∈ cleanElements true out els, Proper e ∧ '/' ∉ e := by
  induction els generalizing out with
  | nil =>
    intro e he
    exact hout e (List.mem_reverse.mp he)
  | cons element rest ih =>
    rw [List.forall_mem_cons] at hels
    unfold cleanElements
    split
    · exact ih hout hels.2
    · next hkept =>
      split
      · next hdots =>
        cases out with
        | nil => exact ih hout hels.2
        | cons last before =>
          rw [List.forall_mem_cons] at hout
          have hlast := hout.1.1.2.2
          simp only [hlast]
          exact ih hout.2 hels.2
      · next hdots =>
        apply ih _ hels.2
        intro e he
        rcases List.mem_cons.mp he with rfl | he
        · exact ⟨⟨fun h => hkept (.inl h), fun h => hkept (.inr h), hdots⟩, hels.1⟩
        · exact hout e he

theorem cleanPath_eq_self_iff (hroot : Rooted p.toList) : cleanPath p = p ↔ Canonical p.toList := by
  obtain ⟨t, ht⟩ : ∃ t, p.toList = '/' :: t := List.head?_eq_some_iff.mp hroot
  have hsplit : p.toList.splitOn '/' = [] :: t.splitOn '/' := by
    rw [ht]
    exact List.splitOn_append_cons_self [] t
  have hclean : cleanElements true [] (p.toList.splitOn '/') =
      cleanElements true [] (t.splitOn '/') := by
    rw [hsplit]
    simp [cleanElements]
  rw [cleanPath_of_rooted hroot, hclean, ← String.toList_inj, String.toList_ofList, ht,
    List.cons.injEq]
  constructor
  · rintro ⟨-, h⟩
    have hproper := proper_cleanElements (List.forall_mem_nil _)
      (fun e => not_mem_of_mem_splitOn (p := t))
    refine ⟨rfl, ?_⟩
    by_cases hnil : cleanElements true [] (t.splitOn '/') = []
    · left
      rw [← h, hnil]
      rfl
    · right
      rw [List.tail_cons, ← h, List.splitOn_intercalate '/' (fun e he => (hproper e he).2) hnil]
      exact fun e he => (hproper e he).1
  · rintro ⟨-, hnil | hproper⟩
    · cases hnil
      exact ⟨rfl, by decide⟩
    · rw [List.tail_cons] at hproper
      refine ⟨rfl, ?_⟩
      rw [cleanElements_of_proper hproper, List.reverse_nil, List.nil_append,
        List.intercalate_splitOn]

end Clean

section Resolve

/-- What is left of a base path of `kept` elements once more elements are resolved against
it: how many of its elements are never left, and what is entered below those. -/
def resolve : ℕ → List (List Char) → List (List Char) → ℕ × List (List Char)
  | kept, entered, [] => (kept, entered.reverse)
  | kept, entered, element :: rest =>
      if element = [] ∨ element = ['.'] then resolve kept entered rest
      else if element = ['.', '.'] then
        match entered with
        | _ :: before => resolve kept before rest
        | [] => resolve (kept - 1) [] rest
      else resolve kept (element :: entered) rest

/-- What leaves elements of the base enters them again by name. -/
def Confined (base els : List (List Char)) : Prop :=
  base.drop (resolve base.length [] els).1 <+: (resolve base.length [] els).2

instance (base els : List (List Char)) : Decidable (Confined base els) := by
  unfold Confined
  infer_instance

variable {base entered els : List (List Char)}

theorem cleanElements_resolve (hbase : ∀ e ∈ base, Proper e) (els : List (List Char)) {kept : ℕ}
    (hkept : kept ≤ base.length) (hentered : ∀ e ∈ entered, Proper e) :
    cleanElements true (entered ++ (base.take kept).reverse) els =
      base.take (resolve kept entered els).1 ++ (resolve kept entered els).2 := by
  induction els generalizing kept entered with
  | nil => simp [cleanElements, resolve]
  | cons element rest ih =>
    unfold cleanElements resolve
    split
    · exact ih hkept hentered
    · next hkeep =>
      split
      · next hdots =>
        cases entered with
        | cons last before =>
          rw [List.forall_mem_cons] at hentered
          simp only [List.cons_append, hentered.1.2.2]
          exact ih hkept hentered.2
        | nil =>
          cases kept with
          | zero => exact ih (Nat.zero_le _) hentered
          | succ kept =>
            -- The last element of the base that is left so far goes.
            have hlt : kept < base.length := hkept
            have hlast := (hbase _ (List.getElem_mem hlt)).2.2
            rw [List.nil_append, List.take_succ_eq_append_getElem hlt, List.reverse_append]
            simp only [List.reverse_singleton, List.singleton_append, hlast]
            exact ih (Nat.le_of_succ_le hkept) hentered
      · next hdots =>
        rw [← List.cons_append]
        apply ih hkept
        rw [List.forall_mem_cons]
        exact ⟨⟨fun h => hkeep (.inl h), fun h => hkeep (.inr h), hdots⟩, hentered⟩

/-- No double dot leaves the base where none outnumbers the names before it. -/
theorem resolve_kept_of_balanced (kept : ℕ) (h : ∀ n, (els.take n).countP (· = ['.', '.']) ≤
      (els.take n).countP (Proper ·) + entered.length) : (resolve kept entered els).1 = kept := by
  induction els generalizing entered with
  | nil => rfl
  | cons element rest ih =>
    -- The bound for the rest, once the first element has been read.
    have hnext : ∀ n, (rest.take n).countP (· = ['.', '.']) +
        (if element = ['.', '.'] then 1 else 0) ≤ (rest.take n).countP (Proper ·) +
        (if Proper element then 1 else 0) + entered.length := by
      intro n
      simpa [List.countP_cons] using h (n + 1)
    unfold resolve
    split
    · next hskip =>
      have hdots : element ≠ ['.', '.'] := by
        rcases hskip with rfl | rfl <;> decide
      have hproper : ¬ Proper element := by
        rintro ⟨hempty, hdot, -⟩
        exact hskip.elim hempty hdot
      apply ih
      simpa [hdots, hproper] using hnext
    · next hkeep =>
      split
      · next hdots =>
        have hproper : ¬ Proper element := fun hproper => hproper.2.2 hdots
        cases entered with
        | nil =>
          have hfirst := hnext 0
          simp [hdots, Proper] at hfirst
        | cons last before =>
          apply ih
          intro n
          have hbound := hnext n
          rw [if_pos hdots, if_neg hproper, List.length_cons] at hbound
          omega
      · next hdots =>
        have hproper : Proper element :=
          ⟨fun hempty => hkeep (.inl hempty), fun hdot => hkeep (.inr hdot), hdots⟩
        apply ih
        intro n
        have hbound := hnext n
        rw [if_pos hproper] at hbound
        rw [List.length_cons]
        omega

theorem confined_of_balanced
    (h : ∀ n, (els.take n).countP (· = ['.', '.']) ≤ (els.take n).countP (Proper ·)) :
    Confined base els := by
  rw [Confined, resolve_kept_of_balanced base.length h, List.drop_length]
  exact List.nil_prefix

end Resolve

end TunnelGateway.PathElements
