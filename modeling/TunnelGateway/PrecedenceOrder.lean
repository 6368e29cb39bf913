import Mathlib.Data.Char
import TunnelGateway.CrossTypeConflicts
import TunnelGateway.ObjectOrder
import TunnelGateway.SeparatedText

/-!
Who comes first. Routes are flattened, ListenerSets are merged and cross-type
conflicts are decided by age and then by namespace and name. The two sorts
compare namespace and name one after the other, the conflict check compares the
text "namespace/name"; the separator sorts above the dash, so the two ways differ
where one namespace goes on after the other with a dash.
-/
namespace TunnelGateway.PrecedenceOrder

open GatewayApi RouteCollection RouteConversion ListenerMerge CrossTypeConflicts MergeInvariants
open ObjectOrder AgeOrder SeparatedText

variable {Rule Rule' : Type}

/-- Of one age, with one namespace going on after the other below the slash. -/
def Tangled (a b : Stamp) : Prop :=
  a.created = b.created ∧
    (ContinuesBelow '/' a.first.toList b.first.toList ∨
      ContinuesBelow '/' b.first.toList a.first.toList)

theorem toList_key (n : NamespacedName) : n.key.toList = n.ns.toList ++ '/' :: n.name.toList := by
  simp [NamespacedName.key]

theorem key_lt_iff (a b : NamespacedName) :
    a.key < b.key ↔ ContinuesBelow '/' a.ns.toList b.ns.toList ∨
      (¬ ContinuesBelow '/' b.ns.toList a.ns.toList ∧
        (a.ns < b.ns ∨ (a.ns = b.ns ∧ a.name < b.name))) := by
  change a.key.toList < b.key.toList ↔ _
  rw [toList_key, toList_key, joined_lt_iff a.ns_noSlash b.ns_noSlash, String.toList_inj]
  rfl

theorem routeWins_iff (result : RouteResult Rule) (result' : RouteResult Rule')
    (left : Route Rule) (right : Route Rule') :
    routeWins (crossTypeRoute result left) (crossTypeRoute result' right) = true ↔
      left.creationTimestamp < right.creationTimestamp ∨
        (left.creationTimestamp = right.creationTimestamp ∧ left.id.key < right.id.key) := by
  by_cases hcreated : left.creationTimestamp = right.creationTimestamp
  · simp [routeWins, crossTypeRoute, hcreated]
  · simp only [routeWins, crossTypeRoute, hcreated, ne_eq, false_and,
      or_false]
    exact decide_eq_true_iff

theorem routeWins_of_not_tangled (result : RouteResult Rule) (result' : RouteResult Rule')
    {left : Route Rule} {right : Route Rule'}
    (h : ¬ Tangled (routeStamp left) (routeStamp right)) :
    routeWins (crossTypeRoute result left) (crossTypeRoute result' right) = true ↔
      (routeStamp left).Before (routeStamp right) := by
  rw [routeWins_iff, Stamp.before_iff]
  refine or_congr Iff.rfl (and_congr_right ?_)
  intro hcreated
  have hleft : ¬ ContinuesBelow '/' left.id.ns.toList right.id.ns.toList :=
    fun hbelow => h ⟨hcreated, Or.inl hbelow⟩
  have hright : ¬ ContinuesBelow '/' right.id.ns.toList left.id.ns.toList :=
    fun hbelow => h ⟨hcreated, Or.inr hbelow⟩
  rw [key_lt_iff]
  simp only [hleft, hright, false_or, not_false_eq_true, true_and]
  rfl

section Examples

/-- The names Kubernetes admits for a namespace: RFC 1123 labels. -/
def isDNSLabel (s : String) : Bool :=
  s.toList.all (fun c => c.isLower || c.isDigit || c == '-') && decide (s.length ≤ 63) &&
    s.toList.head?.any (· != '-') && s.toList.getLast?.any (· != '-')

def noRoutes : RouteResult Unit := ⟨[], [], [], List.nodup_nil⟩

def routeIn (ns : String) : Route Unit := ⟨.of ns "web", 1, [], [], []⟩

def setIn (ns : String) : ListenerSet where
  id := .of ns "web"
  creationTimestamp := 1
  parentRef := ⟨none, "edge"⟩
  listeners := []
  names_nodup := List.nodup_nil

end Examples

end TunnelGateway.PrecedenceOrder
