import TunnelGateway.GoText
import Mathlib.Data.List.Sort
import Mathlib.Data.Prod.Lex
import Mathlib.Data.String.Basic
import Mathlib.Order.Lattice

/-!
The ingress document of a tunnel. A sync reads the document, compares it with the
desired rules by hostname, path and service, keeps what is desired, adds what is
missing, sorts the result and closes it with the catch-all rule. The document it
writes holds the desired rules, and the next sync with the same rules leaves it
alone.
-/
namespace TunnelGateway.TunnelDocument

open GoText

section Model

/-- A rule as it is compared. -/
@[ext]
structure Rule where
  hostname : String
  path : String
  service : String
  deriving DecidableEq

/-- A rule of the document the API returns. -/
structure GetIngress where
  hostname : String
  path : String
  service : String
  deriving DecidableEq

/-- A rule of the document sent to the API; a field may be omitted. -/
structure UpdateIngress where
  hostname : Option String := none
  path : Option String := none
  service : Option String := none
  deriving DecidableEq

/-- The `Value` of a field: empty when it is omitted. -/
def fieldValue (field : Option String) : String := field.getD ""

def catchAllService : String := "http_status:404"

def ruleFromUpdate (r : UpdateIngress) : Rule :=
  ⟨fieldValue r.hostname, fieldValue r.path, fieldValue r.service⟩

def ruleFromGet (r : GetIngress) : Rule := ⟨r.hostname, r.path, r.service⟩

def rulesEqual (a b : Rule) : Bool :=
  a.hostname = b.hostname && a.path = b.path && a.service = b.service

/-- The path is not looked at. -/
def isCatchAll (r : Rule) : Bool := r.hostname = "" && r.service = catchAllService

/-- The rules to add, and those to remove. -/
def diffRules (current : List GetIngress) (desired : List UpdateIngress) :
    List UpdateIngress × List Rule :=
  let currentRules := (current.map ruleFromGet).filter fun rule => !isCatchAll rule
  let desiredKept := desired.filter fun r => !isCatchAll (ruleFromUpdate r)
  let desiredRules := desiredKept.map ruleFromUpdate
  (desiredKept.filter fun r => !currentRules.any (rulesEqual (ruleFromUpdate r)),
    currentRules.filter fun rule => !desiredRules.any (rulesEqual rule))

/-- An empty hostname or path is omitted. -/
def convertGetToUpdate (r : GetIngress) : UpdateIngress where
  hostname := if r.hostname ≠ "" then some r.hostname else none
  path := if r.path ≠ "" then some r.path else none
  service := some r.service

def applyDiff (current : List GetIngress) (toAdd : List UpdateIngress) (toRemove : List Rule) :
    List UpdateIngress :=
  ((current.filter fun r => !isCatchAll (ruleFromGet r)).filter fun r =>
    !toRemove.any (rulesEqual (ruleFromGet r))).map convertGetToUpdate ++ toAdd

def catchAll : UpdateIngress := { service := some catchAllService }

def ensureCatchAll (rules : List UpdateIngress) : List UpdateIngress :=
  (rules.filter fun r => !isCatchAll (ruleFromUpdate r)) ++ [catchAll]

def rulesUnchanged (current : List GetIngress) (desired : List UpdateIngress) : Bool :=
  if current.length ≠ desired.length then false
  else (current.zip desired).all fun (r, d) => rulesEqual (ruleFromGet r) (ruleFromUpdate d)

/-- Rules with a hostname field first, then by hostname, then the longer path first. -/
def compareIngress (left right : UpdateIngress) : Ordering :=
  let leftPresent := left.hostname.isSome
  let rightPresent := right.hostname.isSome
  if leftPresent ≠ rightPresent then
    if leftPresent then .lt else .gt
  else
    (compare (fieldValue left.hostname) (fieldValue right.hostname)).then
      (compare (len (fieldValue right.path)) (len (fieldValue left.path)))

/-- The sort is stable. -/
def sortIngressRules (rules : List UpdateIngress) : List UpdateIngress :=
  rules.insertionSort fun left right => compareIngress left right ≠ .gt

/-- The document `syncTunnelGroup` is about to write. -/
def finalRules (current : List GetIngress) (desired : List UpdateIngress) :
    List UpdateIngress :=
  let diff := diffRules current desired
  ensureCatchAll (sortIngressRules (applyDiff current diff.1 diff.2))

end Model

section Order

/-- The sort compares these keys. -/
def sortKey (r : UpdateIngress) : Bool ×ₗ String ×ₗ ℕᵒᵈ :=
  toLex (r.hostname.isNone, toLex (fieldValue r.hostname, OrderDual.toDual (len (fieldValue r.path))))

theorem compare_then_ne_gt_iff (a b : String) (rest : Ordering) :
    (compare a b).then rest ≠ .gt ↔ a < b ∨ a = b ∧ rest ≠ .gt := by
  rcases lt_trichotomy a b with hlt | heq | hgt
  · rw [compare_lt_iff_lt.mpr hlt]
    simp [hlt]
  · simp [heq]
  · rw [compare_gt_iff_gt.mpr hgt]
    simp [hgt.not_gt, hgt.ne']

theorem compareIngress_ne_gt_iff (left right : UpdateIngress) :
    compareIngress left right ≠ .gt ↔ sortKey left ≤ sortKey right := by
  have hlength : ∀ m n : ℕ, compare n m ≠ .gt ↔ OrderDual.toDual m ≤ OrderDual.toDual n := by
    intro m n
    rw [OrderDual.toDual_le_toDual, compare_le_iff_le]
  rw [sortKey, sortKey, Prod.Lex.toLex_le_toLex, Prod.Lex.toLex_le_toLex, compareIngress]
  cases hleft : left.hostname with
  | none =>
    cases hright : right.hostname with
    | none => simp [hlength]
    | some host => simp
  | some leftHost =>
    cases hright : right.hostname with
    | none => simp
    | some rightHost => simp [compare_then_ne_gt_iff, hlength]

theorem pairwise_sortIngressRules (rules : List UpdateIngress) :
    (sortIngressRules rules).Pairwise fun left right => sortKey left ≤ sortKey right := by
  have : Std.Total fun left right : UpdateIngress => compareIngress left right ≠ .gt := by
    refine ⟨fun left right => ?_⟩
    rw [compareIngress_ne_gt_iff, compareIngress_ne_gt_iff]
    exact le_total (sortKey left) (sortKey right)
  have : IsTrans UpdateIngress fun left right => compareIngress left right ≠ .gt := by
    refine ⟨fun left middle right hleft hright => ?_⟩
    rw [compareIngress_ne_gt_iff] at hleft hright ⊢
    exact hleft.trans hright
  apply (List.pairwise_insertionSort _ rules).imp
  intro left right h
  exact (compareIngress_ne_gt_iff left right).mp h

variable {rules : List UpdateIngress}

theorem mem_sortIngressRules {r : UpdateIngress} : r ∈ sortIngressRules rules ↔ r ∈ rules :=
  List.mem_insertionSort _

end Order

section Diff

variable {current : List GetIngress} {desired : List UpdateIngress}

theorem rulesEqual_iff {a b : Rule} : rulesEqual a b = true ↔ a = b := by
  simp [rulesEqual, Rule.ext_iff, and_assoc]

variable {rule : Rule} {r : UpdateIngress}

theorem any_rulesEqual {rules : List Rule} : rules.any (rulesEqual rule) = true ↔ rule ∈ rules := by
  simp [rulesEqual_iff]

@[simp] theorem ruleFromUpdate_convertGetToUpdate (r : GetIngress) :
    ruleFromUpdate (convertGetToUpdate r) = ruleFromGet r := by
  rw [ruleFromUpdate, convertGetToUpdate]
  congr 1
  · by_cases h : r.hostname = "" <;> simp [h, fieldValue]
  · by_cases h : r.path = "" <;> simp [h, fieldValue]

theorem mem_toAdd :
    r ∈ (diffRules current desired).1 ↔
      r ∈ desired ∧ isCatchAll (ruleFromUpdate r) = false ∧
        ruleFromUpdate r ∉ current.map ruleFromGet := by
  simp only [diffRules, List.mem_filter, Bool.not_eq_true', ← Bool.not_eq_true, any_rulesEqual,
    and_assoc]
  constructor
  · rintro ⟨hmem, hcatch, hnew⟩
    exact ⟨hmem, hcatch, fun h => hnew ⟨h, hcatch⟩⟩
  · rintro ⟨hmem, hcatch, hnew⟩
    exact ⟨hmem, hcatch, fun h => hnew h.1⟩

theorem mem_toRemove :
    rule ∈ (diffRules current desired).2 ↔
      rule ∈ current.map ruleFromGet ∧ isCatchAll rule = false ∧
        rule ∉ desired.map ruleFromUpdate := by
  simp only [diffRules, List.mem_filter, Bool.not_eq_true', ← Bool.not_eq_true, any_rulesEqual,
    and_assoc]
  constructor
  · rintro ⟨hmem, hcatch, hstale⟩
    refine ⟨hmem, hcatch, fun h => hstale ?_⟩
    obtain ⟨r, hr, rfl⟩ := List.mem_map.mp h
    exact List.mem_map_of_mem (List.mem_filter.mpr ⟨hr, by simp [hcatch]⟩)
  · rintro ⟨hmem, hcatch, hstale⟩
    refine ⟨hmem, hcatch, fun h => hstale ?_⟩
    obtain ⟨r, hr, rfl⟩ := List.mem_map.mp h
    exact List.mem_map_of_mem (List.mem_filter.mp hr).1

/-- A rule of the new document is either kept from the old one or a desired rule that
the old one lacks. -/
theorem mem_applyDiff :
    r ∈ applyDiff current (diffRules current desired).1 (diffRules current desired).2 ↔
      (∃ g ∈ current, isCatchAll (ruleFromGet g) = false ∧
        ruleFromGet g ∈ desired.map ruleFromUpdate ∧ convertGetToUpdate g = r) ∨
      (r ∈ desired ∧ isCatchAll (ruleFromUpdate r) = false ∧
        ruleFromUpdate r ∉ current.map ruleFromGet) := by
  rw [applyDiff, List.mem_append, mem_toAdd, List.mem_map]
  apply or_congr_left
  simp only [List.mem_filter, Bool.not_eq_true', ← Bool.not_eq_true, any_rulesEqual, mem_toRemove]
  constructor
  · rintro ⟨g, ⟨⟨hmem, hcatch⟩, hkept⟩, rfl⟩
    refine ⟨g, hmem, hcatch, ?_, rfl⟩
    by_contra h
    exact hkept ⟨List.mem_map_of_mem hmem, hcatch, h⟩
  · rintro ⟨g, hmem, hcatch, hdesired, rfl⟩
    exact ⟨g, ⟨⟨hmem, hcatch⟩, fun h => h.2.2 hdesired⟩, rfl⟩

/-- What is written is what is desired. -/
theorem mem_rules_applyDiff :
    rule ∈ (applyDiff current (diffRules current desired).1 (diffRules current desired).2).map
        ruleFromUpdate ↔
      rule ∈ desired.map ruleFromUpdate ∧ isCatchAll rule = false := by
  constructor
  · intro h
    obtain ⟨r, hr, rfl⟩ := List.mem_map.mp h
    rcases mem_applyDiff.mp hr with ⟨g, -, hcatch, hdesired, rfl⟩ | ⟨hdesired, hcatch, -⟩
    · rw [ruleFromUpdate_convertGetToUpdate]
      exact ⟨hdesired, hcatch⟩
    · exact ⟨List.mem_map_of_mem hdesired, hcatch⟩
  · rintro ⟨hdesired, hcatch⟩
    by_cases hcurrent : rule ∈ current.map ruleFromGet
    · obtain ⟨g, hg, rfl⟩ := List.mem_map.mp hcurrent
      rw [← ruleFromUpdate_convertGetToUpdate]
      exact List.mem_map_of_mem (mem_applyDiff.mpr (.inl ⟨g, hg, hcatch, hdesired, rfl⟩))
    · obtain ⟨r, hr, rfl⟩ := List.mem_map.mp hdesired
      exact List.mem_map_of_mem (mem_applyDiff.mpr (.inr ⟨hr, hcatch, hcurrent⟩))

/-- Nothing is added or removed when the rules are the same. -/
theorem diffRules_eq_nil (h : ∀ rule, isCatchAll rule = false →
    (rule ∈ current.map ruleFromGet ↔ rule ∈ desired.map ruleFromUpdate)) :
    diffRules current desired = ([], []) := by
  apply Prod.ext
  · apply List.eq_nil_iff_forall_not_mem.mpr
    intro r hr
    obtain ⟨hmem, hcatch, hnew⟩ := mem_toAdd.mp hr
    exact hnew ((h _ hcatch).mpr (List.mem_map_of_mem hmem))
  · apply List.eq_nil_iff_forall_not_mem.mpr
    intro rule hrule
    obtain ⟨hmem, hcatch, hstale⟩ := mem_toRemove.mp hrule
    exact hstale ((h rule hcatch).mp hmem)

end Diff

section Document

variable {current : List GetIngress} {desired : List UpdateIngress}

/-- The document without its last rule. -/
def sortedRules (current : List GetIngress) (desired : List UpdateIngress) :
    List UpdateIngress :=
  sortIngressRules (applyDiff current (diffRules current desired).1 (diffRules current desired).2)

theorem mem_rules_sortedRules {rule : Rule} :
    rule ∈ (sortedRules current desired).map ruleFromUpdate ↔
      rule ∈ desired.map ruleFromUpdate ∧ isCatchAll rule = false :=
  ((List.perm_insertionSort _ _).map ruleFromUpdate).mem_iff.trans mem_rules_applyDiff

theorem isCatchAll_sortedRules {r : UpdateIngress} (hr : r ∈ sortedRules current desired) :
    isCatchAll (ruleFromUpdate r) = false :=
  (mem_rules_sortedRules.mp (List.mem_map_of_mem hr)).2

theorem finalRules_eq : finalRules current desired = sortedRules current desired ++ [catchAll] := by
  rw [finalRules, ensureCatchAll, ← sortedRules, List.filter_eq_self.mpr]
  intro r hr
  rw [isCatchAll_sortedRules hr, Bool.not_false]

/-- Every rule that has a hostname field has a hostname. -/
def HostsNamed (rules : List UpdateIngress) : Prop := ∀ r ∈ rules, r.hostname ≠ some ""

instance (rules : List UpdateIngress) : Decidable (HostsNamed rules) :=
  List.decidableBAll _ rules

theorem hostsNamed_sortedRules (h : HostsNamed desired) :
    HostsNamed (sortedRules current desired) := by
  intro r hr
  rcases mem_applyDiff.mp (mem_sortIngressRules.mp hr) with ⟨g, -, -, -, rfl⟩ | ⟨hmem, -, -⟩
  · by_cases hhost : g.hostname = "" <;> simp [convertGetToUpdate]
  · exact h r hmem

/-- The rules without a hostname stand after those with one. -/
theorem hostless_last (h : HostsNamed desired) :
    (finalRules current desired).Pairwise fun first later =>
      (ruleFromUpdate first).hostname = "" → (ruleFromUpdate later).hostname = "" := by
  rw [finalRules_eq, List.pairwise_append]
  refine ⟨?_, List.pairwise_singleton _ _, ?_⟩
  · apply (pairwise_sortIngressRules _).imp_of_mem
    intro first later hfirst _ hle hempty
    have hnamed := hostsNamed_sortedRules h first hfirst
    have hnone : first.hostname = none := by
      cases hhost : first.hostname with
      | none => rfl
      | some host =>
        rw [ruleFromUpdate, hhost] at hempty
        exact absurd (hhost.trans (congrArg some hempty)) hnamed
    rw [sortKey, sortKey, hnone, Prod.Lex.toLex_le_toLex] at hle
    cases hlater : later.hostname with
    | none => simp [ruleFromUpdate, hlater, fieldValue]
    | some host =>
      rcases hle with hlt | ⟨heq, -⟩
      · exact absurd hlt (by simp)
      · exact absurd heq (by simp [hlater])
  · intro first _ later hlater _
    rw [List.mem_singleton.mp hlater]
    rfl

/-- What the API returns for a rule that was written. -/
def stored (r : UpdateIngress) : GetIngress :=
  ⟨fieldValue r.hostname, fieldValue r.path, fieldValue r.service⟩

@[simp] theorem ruleFromGet_stored (r : UpdateIngress) :
    ruleFromGet (stored r) = ruleFromUpdate r := rfl

theorem sortKey_convertGetToUpdate_stored {r : UpdateIngress} (h : r.hostname ≠ some "") :
    sortKey (convertGetToUpdate (stored r)) = sortKey r := by
  have hrule : ruleFromUpdate (convertGetToUpdate (stored r)) = ruleFromUpdate r :=
    (ruleFromUpdate_convertGetToUpdate (stored r)).trans (ruleFromGet_stored r)
  obtain ⟨hhost, hpath, -⟩ := Rule.ext_iff.mp hrule
  have hpresent : (convertGetToUpdate (stored r)).hostname.isNone = r.hostname.isNone := by
    cases hname : r.hostname with
    | none => simp [convertGetToUpdate, stored, hname, fieldValue]
    | some host =>
      have hne : host ≠ "" := fun hempty => h (hname.trans (congrArg some hempty))
      simp [convertGetToUpdate, stored, hname, fieldValue, hne]
  simp only [ruleFromUpdate] at hhost hpath
  rw [sortKey, sortKey, hpresent, hhost, hpath]

/-- Once written, the rules are kept in their order. -/
theorem sortedRules_stored (h : HostsNamed desired) :
    sortedRules ((finalRules current desired).map stored) desired =
      (sortedRules current desired).map fun r => convertGetToUpdate (stored r) := by
  have hrules : ((finalRules current desired).map stored).map ruleFromGet =
      (finalRules current desired).map ruleFromUpdate := by
    rw [List.map_map]
    rfl
  have hdiff : diffRules ((finalRules current desired).map stored) desired = ([], []) := by
    apply diffRules_eq_nil
    intro rule hcatch
    rw [hrules, finalRules_eq, List.map_append, List.mem_append, mem_rules_sortedRules]
    constructor
    · rintro (hdesired | hlast)
      · exact hdesired.1
      · rw [List.mem_singleton.mp hlast] at hcatch
        exact absurd hcatch (by decide)
    · intro hdesired
      exact .inl ⟨hdesired, hcatch⟩
  have hkept : ((finalRules current desired).map stored).filter
      (fun r => !isCatchAll (ruleFromGet r)) = (sortedRules current desired).map stored := by
    rw [finalRules_eq, List.map_append, List.filter_append, List.filter_eq_self.mpr]
    · exact List.append_nil _
    · intro g hg
      obtain ⟨r, hr, rfl⟩ := List.mem_map.mp hg
      rw [ruleFromGet_stored, isCatchAll_sortedRules hr, Bool.not_false]
  have happlied : applyDiff ((finalRules current desired).map stored) [] [] =
      (sortedRules current desired).map fun r => convertGetToUpdate (stored r) := by
    simp [applyDiff, hkept]
  rw [sortedRules, hdiff, happlied]
  apply List.Pairwise.insertionSort_eq
  refine List.Pairwise.imp (fun {left right} hle => (compareIngress_ne_gt_iff left right).mpr hle) ?_
  rw [List.pairwise_map]
  apply (pairwise_sortIngressRules _).imp_of_mem
  intro first later hfirst hlater hle
  rw [sortKey_convertGetToUpdate_stored (hostsNamed_sortedRules h first hfirst),
    sortKey_convertGetToUpdate_stored (hostsNamed_sortedRules h later hlater)]
  exact hle

/-- The second document is the first one. -/
theorem rules_finalRules_stored (h : HostsNamed desired) :
    (finalRules ((finalRules current desired).map stored) desired).map ruleFromUpdate =
      (finalRules current desired).map ruleFromUpdate := by
  rw [finalRules_eq, sortedRules_stored h, finalRules_eq, List.map_append, List.map_append,
    List.map_map]
  congr 1
  apply List.map_congr_left
  intro r _
  simp

theorem rulesUnchanged_iff {rules : List UpdateIngress} :
    rulesUnchanged current rules = true ↔
      current.map ruleFromGet = rules.map ruleFromUpdate := by
  induction current generalizing rules with
  | nil => cases rules <;> simp [rulesUnchanged]
  | cons g rest ih =>
    cases rules with
    | nil => simp [rulesUnchanged]
    | cons r others =>
      rw [List.map_cons, List.map_cons, List.cons_eq_cons, ← ih, ← rulesEqual_iff]
      by_cases hlength : rest.length = others.length <;> simp [rulesUnchanged, hlength]

theorem rulesUnchanged_stored (h : HostsNamed desired) :
    rulesUnchanged ((finalRules current desired).map stored)
      (finalRules ((finalRules current desired).map stored) desired) = true := by
  rw [rulesUnchanged_iff, rules_finalRules_stored h, List.map_map]
  rfl

end Document

end TunnelGateway.TunnelDocument
