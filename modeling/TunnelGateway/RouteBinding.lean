import TunnelGateway.GatewayApi
import TunnelGateway.Fallible

/-!
Binding a route to the listeners of one parent. A listener takes the route when
the section and port of the reference select it, its hostname intersects the
route's, and its policy allows the route's namespace and kind. An invalid label
selector aborts the whole check.
-/
namespace TunnelGateway.RouteBinding

open GoText Fallible Hostname GatewayApi

inductive RouteConditionReason where
  | accepted
  | noMatchingListenerHostname
  | notAllowedByListeners
  | noMatchingParent
  | hostnameNotPermitted
  | conflicted
  deriving DecidableEq

structure RouteInfo where
  name : String
  ns : String
  hostnames : List Hostname
  kind : RouteKind
  sectionName : Option String
  port : Option ℕ

structure BindingResult where
  accepted : Bool
  reason : RouteConditionReason
  message : String
  matchedListeners : List String

inductive ListenerSetConditionReason where
  | accepted
  | notAllowed
  deriving DecidableEq

structure ListenerSetAcceptance where
  accepted : Bool
  reason : ListenerSetConditionReason

def getReasonMessage : RouteConditionReason → String
  | .noMatchingListenerHostname => "No listener hostname matches route hostnames"
  | .notAllowedByListeners => "Route not allowed by listener allowedRoutes policy"
  | .noMatchingParent => "No matching listener found"
  | .accepted | .hostnameNotPermitted | .conflicted => "Route not accepted"

section Policy

variable (cluster : Cluster)

/-- An unknown namespace does not match. -/
def namespaceMatchesSelector (selector : Option LabelSelector) (routeNamespace : String) :
    Except String Bool :=
  match selector with
  | none => .ok false
  | some selector =>
      match cluster.labelSelectorAsSelector selector with
      | none => .error "invalid label selector"
      | some selects =>
          match cluster.getNamespace routeNamespace with
          | none => .ok false
          | some ns => .ok (selects ns.labels)

def getNamespaceFrom (allowedRoutes : Option AllowedRoutes) : FromNamespaces :=
  ((allowedRoutes.bind AllowedRoutes.namespaces).bind NamespaceFilter.source).getD .same

def isNamespaceAllowed (allowedRoutes : Option AllowedRoutes)
    (gatewayNamespace routeNamespace : String) : Except String Bool :=
  match getNamespaceFrom allowedRoutes with
  | .same => .ok (gatewayNamespace = routeNamespace)
  | .all => .ok true
  | .selector =>
      namespaceMatchesSelector cluster
        ((allowedRoutes.bind AllowedRoutes.namespaces).bind NamespaceFilter.selector) routeNamespace
  | .none => .ok false

def getDefaultKindsForProtocol : ProtocolType → List RouteGroupKind
  | .http | .https | .other _ => [⟨some groupName, "HTTPRoute"⟩, ⟨some groupName, "GRPCRoute"⟩]
  | .tls => [⟨some groupName, "TLSRoute"⟩]
  | .tcp => [⟨some groupName, "TCPRoute"⟩]
  | .udp => [⟨some groupName, "UDPRoute"⟩]

def getAllowedKinds (allowedRoutes : Option AllowedRoutes) (protocol : ProtocolType) :
    List RouteGroupKind :=
  match allowedRoutes with
  | some allowed =>
      if allowed.kinds.isEmpty then getDefaultKindsForProtocol protocol else allowed.kinds
  | none => getDefaultKindsForProtocol protocol

def kindMatches (allowed : RouteGroupKind) (routeKind : RouteKind) : Bool :=
  allowed.kind = routeKind.name &&
    (match allowed.group with
      | some group => if group ≠ "" then group else groupName
      | none => groupName) = groupName

def isRouteKindAllowed (allowedRoutes : Option AllowedRoutes) (protocol : ProtocolType)
    (routeKind : RouteKind) : Bool :=
  (getAllowedKinds allowedRoutes protocol).any (kindMatches · routeKind)

/-- The parent's `allowedListeners` filter; unset means no ListenerSet attaches. -/
def evaluateListenerSetAcceptance (gateway : Gateway) (listenerSet : ListenerSet) :
    Except String ListenerSetAcceptance :=
  let acceptedListenerSet : ListenerSetAcceptance := ⟨true, .accepted⟩
  let rejectedListenerSet : ListenerSetAcceptance := ⟨false, .notAllowed⟩
  match (gateway.allowedListeners.bind NamespaceFilter.source).getD .none with
  | .all => .ok acceptedListenerSet
  | .same =>
      .ok (if gateway.id.ns = listenerSet.id.ns then acceptedListenerSet else rejectedListenerSet)
  | .selector =>
      (namespaceMatchesSelector cluster (gateway.allowedListeners.bind NamespaceFilter.selector)
        listenerSet.id.ns).map fun ok => if ok then acceptedListenerSet else rejectedListenerSet
  | .none => .ok rejectedListenerSet

variable (lib : GoLib)

def evaluateListenerBinding (listener : Listener) (parentNamespace : String) (route : RouteInfo) :
    Except String RouteConditionReason := do
  if !hostnamesIntersect lib listener.hostname route.hostnames then
    return .noMatchingListenerHostname
  let allowed ← isNamespaceAllowed cluster listener.allowedRoutes parentNamespace route.ns
  if !allowed then return .notAllowedByListeners
  if !isRouteKindAllowed listener.allowedRoutes listener.protocol route.kind then
    return .notAllowedByListeners
  return .accepted

end Policy

section Entries

/-- The reference's section name and port select the entry. -/
def selects (sectionName : Option String) (port : Option ℕ) (entry : Listener) : Bool :=
  sectionName.all (· = entry.name) && port.all (· = entry.port)

/-- The names of the accepted entries and the last rejection seen. -/
def scanEntries (accept : Listener → Except String RouteConditionReason)
    (sectionName : Option String) (port : Option ℕ) :
    List Listener → Except String (List String × Option RouteConditionReason)
  | [] => .ok ([], none)
  | entry :: rest =>
      if selects sectionName port entry then do
        let reason ← accept entry
        let (matched, last) ← scanEntries accept sectionName port rest
        if reason = .accepted then return (entry.name :: matched, last)
        else return (matched, last.or (some reason))
      else scanEntries accept sectionName port rest

def findMatchingEntries (entries : List Listener)
    (accept : Listener → Except String RouteConditionReason) (sectionName : Option String)
    (port : Option ℕ) : Except String (List String × RouteConditionReason) := do
  let (matched, last) ← scanEntries accept sectionName port entries
  if matched.isEmpty then
    if sectionName.isSome || port.isSome then return ([], .noMatchingParent)
    else return ([], last.getD .noMatchingParent)
  else return (matched, .accepted)

def makeBindingResult (matched : List String) (rejectionReason : RouteConditionReason) :
    BindingResult :=
  if matched.isEmpty then ⟨false, rejectionReason, getReasonMessage rejectionReason, []⟩
  else ⟨true, .accepted, "Route accepted", matched⟩

variable (cluster : Cluster) (lib : GoLib)

def validateEntries (parentNamespace : String) (entries : List Listener) (route : RouteInfo) :
    Except String BindingResult := do
  let (matched, rejectionReason) ←
    findMatchingEntries entries (evaluateListenerBinding cluster lib · parentNamespace route)
      route.sectionName route.port
  return makeBindingResult matched rejectionReason

def validateBinding (gateway : Gateway) (route : RouteInfo) : Except String BindingResult :=
  validateEntries cluster lib gateway.id.ns gateway.listeners route

def validateBindingForListenerSet (listenerSet : ListenerSet) (route : RouteInfo) :
    Except String BindingResult :=
  validateEntries cluster lib listenerSet.id.ns listenerSet.listeners route

end Entries

section Specification

variable (cluster : Cluster) (lib : GoLib)

/-- The listener takes the route. -/
def AcceptedBy (parentNamespace : String) (route : RouteInfo) (entry : Listener) : Prop :=
  selects route.sectionName route.port entry = true ∧
    evaluateListenerBinding cluster lib entry parentNamespace route = .ok .accepted

instance (parentNamespace : String) (route : RouteInfo) (entry : Listener) :
    Decidable (AcceptedBy cluster lib parentNamespace route entry) :=
  inferInstanceAs (Decidable (_ ∧ _))

variable {entries : List Listener} {matched : List String}
  {accept : Listener → Except String RouteConditionReason} {last : Option RouteConditionReason}
  {sectionName : Option String} {port : Option ℕ} {result : BindingResult} {route : RouteInfo}
  {parentNamespace : String}

theorem mem_scanEntries (h : scanEntries accept sectionName port entries = .ok (matched, last))
    (name : String) :
    name ∈ matched ↔ ∃ entry ∈ entries, entry.name = name ∧
      selects sectionName port entry = true ∧ accept entry = .ok .accepted := by
  induction entries generalizing matched last with
  | nil =>
    cases h
    simp
  | cons entry rest ih =>
    rw [scanEntries] at h
    by_cases hsel : selects sectionName port entry = true
    · rw [if_pos hsel, bind_eq_ok] at h
      obtain ⟨reason, hreason, h⟩ := h
      rw [bind_eq_ok] at h
      obtain ⟨⟨matched', last'⟩, hrest, h⟩ := h
      have ih' := ih hrest
      by_cases hacc : reason = .accepted
      · simp only [hacc] at h
        cases h
        rw [hacc] at hreason
        rw [List.mem_cons, ih']
        simp [hsel, hreason, @eq_comm _ name entry.name]
      · simp only [if_neg hacc] at h
        cases h
        rw [ih']
        simp [hreason, hacc]
    · rw [if_neg hsel] at h
      rw [ih h]
      simp [hsel]

theorem sublist_scanEntries
    (h : scanEntries accept sectionName port entries = .ok (matched, last)) :
    matched.Sublist (entries.map Listener.name) := by
  induction entries generalizing matched last with
  | nil =>
    cases h
    exact List.nil_sublist _
  | cons entry rest ih =>
    rw [scanEntries] at h
    split at h
    · rw [bind_eq_ok] at h
      obtain ⟨reason, -, h⟩ := h
      rw [bind_eq_ok] at h
      obtain ⟨⟨matched', last'⟩, hrest, h⟩ := h
      by_cases hacc : reason = .accepted
      · simp only [hacc] at h
        cases h
        exact (ih hrest).cons_cons entry.name
      · simp only [if_neg hacc] at h
        cases h
        exact (ih hrest).cons entry.name
    · exact (ih h).cons entry.name

/-- A successful check reports what the scan found, and accepts when that is not
nothing. -/
theorem scan_of_validateEntries
    (h : validateEntries cluster lib parentNamespace entries route = .ok result) :
    (∃ last, scanEntries (evaluateListenerBinding cluster lib · parentNamespace route)
      route.sectionName route.port entries = .ok (result.matchedListeners, last)) ∧
    (result.accepted = true ↔ result.matchedListeners ≠ []) := by
  rw [validateEntries, bind_eq_ok] at h
  obtain ⟨⟨matched, reason⟩, hfind, h⟩ := h
  rw [findMatchingEntries, bind_eq_ok] at hfind
  obtain ⟨⟨matched', last⟩, hscan, hfind⟩ := hfind
  have hsame : matched = matched' := by
    by_cases hempty : matched'.isEmpty = true
    · have hnil := List.isEmpty_iff.mp hempty
      simp only [hempty, if_true] at hfind
      split at hfind
      · cases hfind
        exact hnil.symm
      · cases hfind
        exact hnil.symm
    · simp only [if_neg hempty] at hfind
      cases hfind
      rfl
  subst hsame
  cases h
  by_cases hempty : matched.isEmpty = true
  · have hnil := List.isEmpty_iff.mp hempty
    subst hnil
    exact ⟨⟨last, hscan⟩, by simp [makeBindingResult]⟩
  · have hne : matched ≠ [] := fun hnil => hempty (List.isEmpty_iff.mpr hnil)
    simp only [makeBindingResult, if_neg hempty]
    exact ⟨⟨last, hscan⟩, by simp [hne]⟩

/-- A successful check lists exactly the listeners that take the route, and
accepts when there is one. -/
theorem validateEntries_ok
    (h : validateEntries cluster lib parentNamespace entries route = .ok result) :
    (∀ name, name ∈ result.matchedListeners ↔
      ∃ entry ∈ entries, entry.name = name ∧
        AcceptedBy cluster lib parentNamespace route entry) ∧
    (result.accepted = true ↔ result.matchedListeners ≠ []) := by
  obtain ⟨⟨last, hscan⟩, haccepted⟩ := scan_of_validateEntries cluster lib h
  exact ⟨mem_scanEntries hscan, haccepted⟩

theorem nodup_matchedListeners (hnames : (entries.map Listener.name).Nodup)
    (h : validateEntries cluster lib parentNamespace entries route = .ok result) :
    result.matchedListeners.Nodup := by
  obtain ⟨⟨last, hscan⟩, -⟩ := scan_of_validateEntries cluster lib h
  exact hnames.sublist (sublist_scanEntries hscan)

/-- A listener that takes the route has an intersecting hostname. -/
theorem hostnamesIntersect_of_acceptedBy {entry : Listener}
    (h : AcceptedBy cluster lib parentNamespace route entry) :
    hostnamesIntersect lib entry.hostname route.hostnames = true := by
  have heval := h.2
  by_contra hno
  rw [Bool.not_eq_true] at hno
  simp only [evaluateListenerBinding, hno] at heval
  cases heval

end Specification

end TunnelGateway.RouteBinding
