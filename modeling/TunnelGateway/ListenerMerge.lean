import TunnelGateway.RouteBinding
import Mathlib.Data.List.Sort

/-!
The merged listener view of a Gateway: its own listeners, then the entries of the
ListenerSets it lets attach, oldest first. A listener that disagrees with an
earlier one on the protocol of its port, or repeats an earlier port and hostname,
is conflicted. The code memoizes views; the model computes them.
-/
namespace TunnelGateway.ListenerMerge

open GoText Fallible Hostname GatewayApi RouteBinding

inductive ConflictReason where
  | protocolConflict
  | hostnameConflict
  deriving DecidableEq

inductive Parent where
  | gateway
  | listenerSet (id : NamespacedName)
  deriving DecidableEq

structure MergedListener where
  parent : Parent
  index : ℕ
  listener : Listener
  conflictReason : Option ConflictReason
  conflictMessage : String

def hostnameValue (hostname : Option Hostname) : String :=
  (hostname.map Hostname.value).getD ""

/-- The entries of one parent, before conflicts are looked for. -/
def entriesOf (parent : Parent) (listeners : List Listener) : List MergedListener :=
  listeners.zipIdx.map fun entry => ⟨parent, entry.2, entry.1, none, ""⟩

/-- Older first, then by namespace and name. -/
def precedesSet (left right : ListenerSet) : Prop :=
  left.creationTimestamp < right.creationTimestamp ∨
    (left.creationTimestamp = right.creationTimestamp ∧
      (left.id.ns < right.id.ns ∨ (left.id.ns = right.id.ns ∧ left.id.name ≤ right.id.name)))

instance (left right : ListenerSet) : Decidable (precedesSet left right) :=
  inferInstanceAs (Decidable (_ ∨ _))

def sortListenerSets (sets : List ListenerSet) : List ListenerSet :=
  sets.insertionSort precedesSet

/-- Mark every entry that conflicts with one already seen; a conflicted entry
claims nothing. -/
def annotateConflicts (protoSeen : List (ℕ × ProtocolType)) (hostnameSeen : List (ℕ × String)) :
    List MergedListener → List MergedListener
  | [] => []
  | entry :: rest =>
      let port := entry.listener.port
      let claimed := protoSeen.lookup port
      if claimed.any (· ≠ entry.listener.protocol) then
        { entry with
          conflictReason := some .protocolConflict
          conflictMessage :=
            "Listener conflicts on protocol with a higher-precedence listener on the same port" } ::
          annotateConflicts protoSeen hostnameSeen rest
      else if (port, hostnameValue entry.listener.hostname) ∈ hostnameSeen then
        { entry with
          conflictReason := some .hostnameConflict
          conflictMessage :=
            "Listener conflicts on hostname with a higher-precedence listener on the same port" } ::
          annotateConflicts protoSeen hostnameSeen rest
      else
        entry :: annotateConflicts
          (if claimed.isSome then protoSeen else (port, entry.listener.protocol) :: protoSeen)
          ((port, hostnameValue entry.listener.hostname) :: hostnameSeen) rest

def merge (gateway : Gateway) (listenerSets : List ListenerSet) : List MergedListener :=
  annotateConflicts [] []
    (entriesOf .gateway gateway.listeners ++
      (sortListenerSets listenerSets).flatMap fun ls => entriesOf (.listenerSet ls.id) ls.listeners)

/-- The merged entry of a parent's listener. -/
def findMergedEntry (merged : List MergedListener) (parent : Parent) (name : String) :
    Option MergedListener :=
  merged.find? fun entry => entry.parent = parent && entry.listener.name = name

def conflictReasonOf (merged : List MergedListener) (parent : Parent) (name : String) :
    Option ConflictReason :=
  (findMergedEntry merged parent name).bind MergedListener.conflictReason

/-- The namespace a ListenerSet's parent reference points into. -/
def parentNamespace (listenerSet : ListenerSet) : String :=
  match listenerSet.parentRef.ns with
  | some ns => if ns ≠ "" then ns else listenerSet.id.ns
  | none => listenerSet.id.ns

def listenerSetTargetsGateway (listenerSet : ListenerSet) (gateway : Gateway) : Bool :=
  listenerSet.parentRef.name = gateway.id.name && parentNamespace listenerSet = gateway.id.ns

variable (cluster : Cluster)

def listTargetingListenerSets (gateway : Gateway) : List ListenerSet :=
  cluster.listenerSets.filter (listenerSetTargetsGateway · gateway)

def acceptedFromCandidates (gateway : Gateway) (candidates : List ListenerSet) :
    Except String (List ListenerSet) :=
  candidates.filterM fun ls =>
    wrap "failed to evaluate listenerset acceptance"
      ((evaluateListenerSetAcceptance cluster gateway ls).map ListenerSetAcceptance.accepted)

/-- `forGateway`: fails when a selector of the Gateway is invalid. -/
def mergedView (gateway : Gateway) : Except String (List MergedListener) := do
  let accepted ← acceptedFromCandidates cluster gateway (listTargetingListenerSets cluster gateway)
  return merge gateway accepted

def listenerSetParentGateway (listenerSet : ListenerSet) : Option Gateway :=
  cluster.getGateway (parentNamespace listenerSet) listenerSet.parentRef.name

end TunnelGateway.ListenerMerge
