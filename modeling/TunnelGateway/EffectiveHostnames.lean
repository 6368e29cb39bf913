import TunnelGateway.ParentBinding
import TunnelGateway.DedupBy

/-!
The hostnames a route serves and its redirect scheme, as the proxy configuration
is built: two passes that walk the parent references on their own and ask only
whether the listeners take the route. They do not check that the Gateway is
managed, that a ListenerSet may attach, or that a Gateway listener is free of
conflicts.
-/
namespace TunnelGateway.EffectiveHostnames

open GoText Fallible Hostname GatewayApi RouteBinding ListenerMerge ParentBinding DedupBy

section Passes

variable (cluster : Cluster) (lib : GoLib) {Rule : Type}

/-- The reference names a Gateway API object. -/
def usesGatewayGroup (ref : ParentReference) : Bool :=
  ref.group.all fun group => group = "" || group = groupName

/-- Sections of a Gateway that take the route. -/
def gatewaySections (ns name : String) (info : RouteInfo) : List String :=
  match cluster.getGateway ns name with
  | none => []
  | some gateway =>
      match validateBinding cluster lib gateway info with
      | .error _ => []
      | .ok result => if result.accepted then result.matchedListeners else []

/-- Conflicted sections are dropped when the parent and its view are known. -/
def nonConflictedSections (listenerSet : ListenerSet) (sections : List String) : List String :=
  match listenerSetParentGateway cluster listenerSet with
  | none => sections
  | some parent =>
      match mergedView cluster parent with
      | .error _ => sections
      | .ok merged => sections.filter fun name =>
          (conflictReasonOf merged (.listenerSet listenerSet.id) name).isNone

/-- Sections of a ListenerSet that take the route. -/
def listenerSetSections (ns name : String) (info : RouteInfo) : List String :=
  match cluster.getListenerSet ns name with
  | none => []
  | some listenerSet =>
      match validateBindingForListenerSet cluster lib listenerSet info with
      | .error _ => []
      | .ok result =>
          if result.accepted then nonConflictedSections cluster listenerSet result.matchedListeners
          else []

/-- The listeners of the object a reference names. -/
def parentListeners (routeNamespace : String) (ref : ParentReference) : List Listener :=
  let kind := ref.kind.getD kindGateway
  let ns := refNamespace ref routeNamespace
  if kind = kindGateway then ((cluster.getGateway ns ref.name).map Gateway.listeners).getD []
  else if kind = kindListenerSet then
    ((cluster.getListenerSet ns ref.name).map ListenerSet.listeners).getD []
  else []

/-- `resolveParentRefListeners`: the sections both passes read. -/
def parentRefSections (kind : RouteKind) (route : Route Rule) (ref : ParentReference) :
    List String :=
  if !usesGatewayGroup ref then []
  else
    let refKind := ref.kind.getD kindGateway
    let ns := refNamespace ref route.id.ns
    let info := routeInfo kind route ref
    if refKind = kindGateway then gatewaySections cluster lib ns ref.name info
    else if refKind = kindListenerSet then listenerSetSections cluster lib ns ref.name info
    else []

/-- The map from listener names, looked up. -/
def listenerNamed (listeners : List Listener) (name : String) : Option Listener :=
  listeners.find? (·.name = name)

/-- `none` is the catch-all sentinel: a route without hostnames on a listener
without one. -/
def effectiveHostnamesForSections (listeners : List Listener) (routeHostnames : List Hostname)
    (sections : List String) : List (Option Hostname) :=
  sections.flatMap fun name =>
    match listenerNamed listeners name with
    | none => []
    | some listener =>
        if routeHostnames.isEmpty && unset listener.hostname then [none]
        else (effectiveListenerHostnames lib listener.hostname routeHostnames).map some

def effectiveHostnamesForParentRef (kind : RouteKind) (route : Route Rule)
    (ref : ParentReference) : List (Option Hostname) :=
  effectiveHostnamesForSections lib (parentListeners cluster route.id.ns ref) route.hostnames
    (parentRefSections cluster lib kind route ref)

/-- The distinct hostnames in order, and whether the sentinel was seen. -/
def collectEffectiveListenerHostnames (kind : RouteKind) (route : Route Rule) :
    List Hostname × Bool :=
  let stream := route.parentRefs.flatMap (effectiveHostnamesForParentRef cluster lib kind route)
  (dedupBy id [] (stream.filterMap id), none ∈ stream)

/-- A route that binds nothing keeps what it declares. -/
def withEffectiveHostname (kind : RouteKind) (route : Route Rule) : Route Rule :=
  let (effective, catchAll) := collectEffectiveListenerHostnames cluster lib kind route
  if catchAll && route.hostnames.isEmpty then route
  else if effective.isEmpty then route
  else { route with hostnames := effective }

def withEffectiveHostnames (kind : RouteKind) (routes : List (Route Rule)) : List (Route Rule) :=
  routes.map (withEffectiveHostname cluster lib kind)

def protocolsForSections (listeners : List Listener) (sections : List String) :
    List ProtocolType :=
  sections.filterMap fun name =>
    (listenerNamed listeners name).bind fun listener =>
      if listener.protocol = .other "" then none else some listener.protocol

def acceptedProtocolsForParentRef (kind : RouteKind) (route : Route Rule)
    (ref : ParentReference) : List ProtocolType :=
  protocolsForSections (parentListeners cluster route.id.ns ref)
    (parentRefSections cluster lib kind route ref)

def redirectSchemeHTTP : String := "http"
def redirectSchemeHTTPS : String := "https"

/-- HTTPS wins over HTTP; other protocols imply no scheme. -/
def acceptedListenerScheme (kind : RouteKind) (route : Route Rule) : String :=
  let protocols := route.parentRefs.flatMap (acceptedProtocolsForParentRef cluster lib kind route)
  if .https ∈ protocols then redirectSchemeHTTPS
  else if .http ∈ protocols then redirectSchemeHTTP
  else ""

end Passes

section Pairs

variable (cluster : Cluster) (lib : GoLib) {Rule : Type} (kind : RouteKind) (route : Route Rule)

/-- The sections a managed and accepted binding lists. -/
def boundSections (controllerName : String) (ref : ParentReference) : List String :=
  match resolveRouteParentBinding cluster lib controllerName ref (routeInfo kind route ref) with
  | .ok (some binding) => if binding.result.accepted then binding.result.matchedListeners else []
  | _ => []

/-- The listener binds the route through this reference. -/
structure Bound (controllerName : String) (ref : ParentReference) (listener : Listener) :
    Prop where
  listed : ref ∈ route.parentRefs
  declared : listener ∈ parentListeners cluster route.id.ns ref
  accepted : listener.name ∈ boundSections cluster lib kind route controllerName ref

/-- The two passes read the listener through this reference. -/
structure Contributing (ref : ParentReference) (listener : Listener) : Prop where
  listed : ref ∈ route.parentRefs
  declared : listener ∈ parentListeners cluster route.id.ns ref
  taken : listener.name ∈ parentRefSections cluster lib kind route ref

omit kind in
/-- Both the listener and the route's own hostnames cover the host. -/
def Covers (listener : Listener) (host : String) : Prop :=
  ListenerCovers listener.hostname host ∧ Answers route.hostnames host

instance (listener : Listener) (host : String) : Decidable (Covers route listener host) :=
  inferInstanceAs (Decidable (_ ∧ _))

theorem mem_filterMatchedByConflict {gateway : Gateway} {parent : Parent} {result : BindingResult}
    {name : String}
    (h : name ∈ (filterMatchedByConflict cluster gateway parent result).matchedListeners) :
    name ∈ result.matchedListeners ∧ ∀ merged, mergedView cluster gateway = .ok merged →
      (conflictReasonOf merged parent name).isNone = true := by
  unfold filterMatchedByConflict at h
  cases hview : mergedView cluster gateway with
  | error err =>
    simp only [hview] at h
    exact ⟨h, fun merged hmerged => nomatch hmerged⟩
  | ok merged =>
    simp only [hview] at h
    split at h
    · cases h
    · have hfilter := List.mem_filter.mp h
      refine ⟨hfilter.1, ?_⟩
      intro merged' hmerged
      cases hmerged
      exact hfilter.2

theorem gateway_boundSections {controllerName : String} {ref : ParentReference} {info : RouteInfo}
    {binding : ParentRefBinding} {name : String}
    (h : resolveGatewayParentBinding cluster lib controllerName ref info = .ok (some binding))
    (haccepted : binding.result.accepted = true)
    (hname : name ∈ binding.result.matchedListeners) :
    name ∈ gatewaySections cluster lib (refNamespace ref info.ns) ref.name info := by
  unfold resolveGatewayParentBinding at h
  split at h
  · cases h
  · rename_i gateway hget
    simp only [gatewaySections, hget]
    split at h
    · cases h
    · rw [bind_eq_ok] at h
      obtain ⟨result, hresult, h⟩ := h
      rw [wrap_eq_ok] at hresult
      cases h
      by_cases hok : result.accepted = true
      · simp only [hok] at hname
        simp only [hresult, hok]
        exact (mem_filterMatchedByConflict cluster hname).1
      · simp only [hok] at haccepted
        exact absurd haccepted hok

theorem listenerSet_boundSections {controllerName : String} {ref : ParentReference}
    {info : RouteInfo} {binding : ParentRefBinding} {name : String}
    (h : resolveListenerSetParentBinding cluster lib controllerName ref info = .ok (some binding))
    (haccepted : binding.result.accepted = true)
    (hname : name ∈ binding.result.matchedListeners) :
    name ∈ listenerSetSections cluster lib (refNamespace ref info.ns) ref.name info := by
  unfold resolveListenerSetParentBinding at h
  split at h
  · cases h
  · rename_i listenerSet hget
    simp only [listenerSetSections, hget]
    split at h
    · cases h
    · rename_i parent hparent
      split at h
      · cases h
      · rw [bind_eq_ok] at h
        obtain ⟨allowed, -, h⟩ := h
        split at h
        · cases h
          cases haccepted
        · rw [bind_eq_ok] at h
          obtain ⟨result, hresult, h⟩ := h
          rw [wrap_eq_ok] at hresult
          cases h
          by_cases hok : result.accepted = true
          · simp only [hok] at hname
            simp only [hresult, hok, if_true, nonConflictedSections, hparent]
            obtain ⟨hmatched, hfree⟩ := mem_filterMatchedByConflict cluster hname
            split
            · exact hmatched
            · rename_i merged hmerged
              exact List.mem_filter.mpr ⟨hmatched, hfree merged hmerged⟩
          · simp only [hok] at haccepted
            exact absurd haccepted hok

/-- A binding listener is one that an accepted binding matched. -/
theorem Bound.binding {controllerName : String} {ref : ParentReference} {listener : Listener}
    (h : Bound cluster lib kind route controllerName ref listener) :
    ∃ binding,
      resolveRouteParentBinding cluster lib controllerName ref (routeInfo kind route ref) =
        .ok (some binding) ∧
      binding.result.accepted = true ∧ listener.name ∈ binding.result.matchedListeners := by
  have haccepted := h.accepted
  unfold boundSections at haccepted
  split at haccepted
  · rename_i binding hresolve
    split at haccepted
    · exact ⟨binding, hresolve, ‹_›, haccepted⟩
    · cases haccepted
  · cases haccepted

/-- Every binding listener is read by the passes. -/
theorem Bound.contributing {controllerName : String} {ref : ParentReference} {listener : Listener}
    (hgroup : usesGatewayGroup ref = true)
    (h : Bound cluster lib kind route controllerName ref listener) :
    Contributing cluster lib kind route ref listener := by
  refine ⟨h.listed, h.declared, ?_⟩
  obtain ⟨binding, hresolve, hok, hmatched⟩ := h.binding
  simp only [parentRefSections, hgroup, Bool.not_true, Bool.false_eq_true, if_false]
  simp only [resolveRouteParentBinding] at hresolve
  split at hresolve
  · rw [if_pos ‹_›]
    exact gateway_boundSections cluster lib hresolve hok hmatched
  · rw [if_neg ‹_›]
    split at hresolve
    · rw [if_pos ‹_›]
      exact listenerSet_boundSections cluster lib hresolve hok hmatched
    · cases hresolve

theorem parentListeners_nodup (routeNamespace : String) (ref : ParentReference) :
    ((parentListeners cluster routeNamespace ref).map Listener.name).Nodup := by
  simp only [parentListeners]
  split
  · cases cluster.getGateway (refNamespace ref routeNamespace) ref.name with
    | none => exact List.nodup_nil
    | some gateway => exact gateway.names_nodup
  · split
    · cases cluster.getListenerSet (refNamespace ref routeNamespace) ref.name with
      | none => exact List.nodup_nil
      | some listenerSet => exact listenerSet.names_nodup
    · exact List.nodup_nil

omit kind in
theorem listenerNamed_eq_some {listeners : List Listener}
    (hnodup : (listeners.map Listener.name).Nodup) (name : String) (listener : Listener) :
    listenerNamed listeners name = some listener ↔ listener ∈ listeners ∧ listener.name = name := by
  constructor
  · intro h
    exact ⟨List.mem_of_find?_eq_some h, by simpa using List.find?_some h⟩
  · intro h
    obtain ⟨hmem, hname⟩ := h
    cases hfound : listenerNamed listeners name with
    | none =>
      have hnone := List.find?_eq_none.mp hfound listener hmem
      exact absurd hname (by simpa using hnone)
    | some other =>
      have hother : other ∈ listeners := List.mem_of_find?_eq_some hfound
      have hothername : other.name = name := by simpa using List.find?_some hfound
      rw [List.inj_on_of_nodup_map hnodup hother hmem (hothername.trans hname.symm)]

/-- The passes read sections the binding check of the parent matched. -/
theorem matched_of_mem_parentRefSections {ref : ParentReference} {name : String}
    (h : name ∈ parentRefSections cluster lib kind route ref) :
    ∃ ns result, validateEntries cluster lib ns (parentListeners cluster route.id.ns ref)
      (routeInfo kind route ref) = .ok result ∧ name ∈ result.matchedListeners := by
  simp only [parentRefSections] at h
  simp only [parentListeners]
  split at h
  · cases h
  · split at h
    · rw [if_pos ‹_›]
      unfold gatewaySections at h
      split at h
      · cases h
      · rename_i gateway hget
        rw [hget]
        split at h
        · cases h
        · rename_i result hresult
          split at h
          · exact ⟨_, result, hresult, h⟩
          · cases h
    · rw [if_neg ‹_›]
      split at h
      · rw [if_pos ‹_›]
        unfold listenerSetSections at h
        split at h
        · cases h
        · rename_i listenerSet hget
          rw [hget]
          split at h
          · cases h
          · rename_i result hresult
            split at h
            · refine ⟨_, result, hresult, ?_⟩
              unfold nonConflictedSections at h
              split at h
              · exact h
              · split at h
                · exact h
                · exact (List.mem_filter.mp h).1
            · cases h
      · cases h

/-- A listener the passes read intersects the route's hostnames. -/
theorem Contributing.intersects {ref : ParentReference} {listener : Listener}
    (h : Contributing cluster lib kind route ref listener) :
    hostnamesIntersect lib listener.hostname route.hostnames = true := by
  obtain ⟨ns, result, hresult, hname⟩ :=
    matched_of_mem_parentRefSections cluster lib kind route h.taken
  obtain ⟨entry, hentry, hsame, haccepted⟩ :=
    ((validateEntries_ok cluster lib hresult).1 listener.name).mp hname
  have hnodup := parentListeners_nodup cluster route.id.ns ref
  rw [← List.inj_on_of_nodup_map hnodup hentry h.declared hsame]
  exact hostnamesIntersect_of_acceptedBy cluster lib haccepted

/-- The hostname stream is what the read listeners contribute. -/
theorem mem_stream (o : Option Hostname) :
    o ∈ route.parentRefs.flatMap (effectiveHostnamesForParentRef cluster lib kind route) ↔
      ∃ ref listener, Contributing cluster lib kind route ref listener ∧
        o ∈ (if route.hostnames.isEmpty && unset listener.hostname then [none]
          else (effectiveListenerHostnames lib listener.hostname route.hostnames).map some) := by
  simp only [List.mem_flatMap, effectiveHostnamesForParentRef, effectiveHostnamesForSections]
  constructor
  · intro h
    obtain ⟨ref, href, name, hname, ho⟩ := h
    split at ho
    · cases ho
    · rename_i listener hfound
      obtain ⟨hdeclared, rfl⟩ := (listenerNamed_eq_some
        (parentListeners_nodup cluster route.id.ns ref) name listener).mp hfound
      exact ⟨ref, listener, ⟨href, hdeclared, hname⟩, ho⟩
  · intro h
    obtain ⟨ref, listener, hpair, ho⟩ := h
    refine ⟨ref, hpair.listed, listener.name, hpair.taken, ?_⟩
    rw [(listenerNamed_eq_some (parentListeners_nodup cluster route.id.ns ref) listener.name
      listener).mpr ⟨hpair.declared, rfl⟩]
    exact ho

end Pairs

section Agreement

variable (cluster : Cluster) (lib : GoLib) {Rule : Type} (kind : RouteKind) (route : Route Rule)

/-- The hostnames left on one route. -/
def servedHostnames : List Hostname :=
  let (effective, catchAll) := collectEffectiveListenerHostnames cluster lib kind route
  if catchAll && route.hostnames.isEmpty then route.hostnames
  else if effective.isEmpty then route.hostnames
  else effective

/-- Only the hostnames are rewritten. -/
theorem withEffectiveHostname_eq :
    withEffectiveHostname cluster lib kind route =
      { route with hostnames := servedHostnames cluster lib kind route } := by
  simp only [withEffectiveHostname, servedHostnames]
  split_ifs <;> rfl

variable {cluster lib kind route}

/-- No read listener leaves both sides open. -/
def Closed (cluster : Cluster) (lib : GoLib) (kind : RouteKind) (route : Route Rule) : Prop :=
  ∀ ref listener, Contributing cluster lib kind route ref listener →
    ¬ (route.hostnames = [] ∧ listener.hostname = none)

theorem mem_stream_of_closed (hclosed : Closed cluster lib kind route) (o : Option Hostname) :
    o ∈ route.parentRefs.flatMap (effectiveHostnamesForParentRef cluster lib kind route) ↔
      ∃ ref listener, Contributing cluster lib kind route ref listener ∧
        o ∈ (effectiveListenerHostnames lib listener.hostname route.hostnames).map some := by
  have hitem : ∀ ref listener, Contributing cluster lib kind route ref listener →
      (route.hostnames.isEmpty && unset listener.hostname) = false := by
    intro ref listener hpair
    rw [Bool.eq_false_iff]
    intro h
    rw [Bool.and_eq_true, List.isEmpty_iff, unset_iff] at h
    exact hclosed ref listener hpair h
  rw [mem_stream]
  constructor
  · intro h
    obtain ⟨ref, listener, hpair, ho⟩ := h
    rw [hitem ref listener hpair] at ho
    exact ⟨ref, listener, hpair, ho⟩
  · intro h
    obtain ⟨ref, listener, hpair, ho⟩ := h
    refine ⟨ref, listener, hpair, ?_⟩
    rw [hitem ref listener hpair]
    exact ho

theorem mem_servedHostnames (hclosed : Closed cluster lib kind route)
    (hread : ∃ ref listener, Contributing cluster lib kind route ref listener) (p : Hostname) :
    p ∈ servedHostnames cluster lib kind route ↔
      ∃ ref listener, Contributing cluster lib kind route ref listener ∧
        p ∈ effectiveListenerHostnames lib listener.hostname route.hostnames := by
  have hstream := mem_stream_of_closed hclosed
  have hcatch : (collectEffectiveListenerHostnames cluster lib kind route).2 = false := by
    rw [Bool.eq_false_iff]
    intro h
    obtain ⟨ref, listener, -, hnone⟩ := (hstream none).mp (of_decide_eq_true h)
    simp at hnone
  have hmem : ∀ p, p ∈ (collectEffectiveListenerHostnames cluster lib kind route).1 ↔
      ∃ ref listener, Contributing cluster lib kind route ref listener ∧
        p ∈ effectiveListenerHostnames lib listener.hostname route.hostnames := by
    intro p
    refine (mem_dedupBy (fun _ _ _ _ h => h)).trans ?_
    simp [hstream]
  have hne : (collectEffectiveListenerHostnames cluster lib kind route).1 ≠ [] := by
    obtain ⟨ref, listener, hpair⟩ := hread
    have hsome := effectiveListenerHostnames_ne_nil lib (hclosed ref listener hpair)
      hpair.intersects
    obtain ⟨q, hq⟩ := List.exists_mem_of_ne_nil _ hsome
    exact List.ne_nil_of_mem ((hmem q).mpr ⟨ref, listener, hpair, hq⟩)
  have hempty : (collectEffectiveListenerHostnames cluster lib kind route).1.isEmpty = false := by
    simpa using hne
  simp only [servedHostnames, hcatch, hempty]
  exact hmem p

/-- Once some listener is read, the route answers exactly what the read
listeners cover. -/
theorem answers_servedHostnames
    (hread : ∃ ref listener, Contributing cluster lib kind route ref listener) (host : String) :
    Answers (servedHostnames cluster lib kind route) host ↔
      ∃ ref listener, Contributing cluster lib kind route ref listener ∧
        Covers route listener host := by
  by_cases hclosed : Closed cluster lib kind route
  · have hmem := mem_servedHostnames hclosed hread
    have hne : servedHostnames cluster lib kind route ≠ [] := by
      obtain ⟨ref, listener, hpair⟩ := hread
      have hsome := effectiveListenerHostnames_ne_nil lib (hclosed ref listener hpair)
        hpair.intersects
      obtain ⟨q, hq⟩ := List.exists_mem_of_ne_nil _ hsome
      exact List.ne_nil_of_mem ((hmem q).mpr ⟨ref, listener, hpair, hq⟩)
    constructor
    · intro h
      obtain ⟨p, hp, hmatch⟩ := h.resolve_left hne
      obtain ⟨ref, listener, hpair, hp⟩ := (hmem p).mp hp
      exact ⟨ref, listener, hpair, (effectiveListenerHostnames_matches lib
        (hclosed ref listener hpair) host).mp ⟨p, hp, hmatch⟩⟩
    · intro h
      obtain ⟨ref, listener, hpair, hcovers⟩ := h
      obtain ⟨p, hp, hmatch⟩ := (effectiveListenerHostnames_matches lib
        (hclosed ref listener hpair) host).mpr hcovers
      exact Or.inr ⟨p, (hmem p).mpr ⟨ref, listener, hpair, hp⟩, hmatch⟩
  · -- an open pair: the sentinel keeps the route a catch-all, and the pair covers every host
    simp only [Closed, not_forall, not_not] at hclosed
    obtain ⟨ref, listener, hpair, hnone, hunset⟩ := hclosed
    have hcatch : none ∈ route.parentRefs.flatMap
        (effectiveHostnamesForParentRef cluster lib kind route) := by
      rw [mem_stream]
      exact ⟨ref, listener, hpair, by simp [hnone, hunset, unset]⟩
    have hserved : servedHostnames cluster lib kind route = [] := by
      simp [servedHostnames, collectEffectiveListenerHostnames, hcatch, hnone]
    rw [hserved]
    constructor
    · intro _
      refine ⟨ref, listener, hpair, ?_, Or.inl hnone⟩
      intro p hp
      rw [hunset] at hp
      cases hp
    · exact fun _ => Or.inl rfl

/-- The scheme is https exactly when some read listener is HTTPS. -/
theorem acceptedListenerScheme_eq_https :
    acceptedListenerScheme cluster lib kind route = redirectSchemeHTTPS ↔
      ∃ ref listener, Contributing cluster lib kind route ref listener ∧
        listener.protocol = .https := by
  have hmem : .https ∈ route.parentRefs.flatMap
      (acceptedProtocolsForParentRef cluster lib kind route) ↔
      ∃ ref listener, Contributing cluster lib kind route ref listener ∧
        listener.protocol = .https := by
    simp only [List.mem_flatMap, acceptedProtocolsForParentRef, protocolsForSections,
      List.mem_filterMap, Option.bind_eq_some_iff]
    constructor
    · intro h
      obtain ⟨ref, href, name, hname, listener, hfound, hprotocol⟩ := h
      obtain ⟨hdeclared, rfl⟩ := (listenerNamed_eq_some
        (parentListeners_nodup cluster route.id.ns ref) name listener).mp hfound
      split at hprotocol
      · cases hprotocol
      · exact ⟨ref, listener, ⟨href, hdeclared, hname⟩, Option.some.inj hprotocol⟩
    · intro h
      obtain ⟨ref, listener, hpair, hprotocol⟩ := h
      refine ⟨ref, hpair.listed, listener.name, hpair.taken, listener, ?_, by simp [hprotocol]⟩
      exact (listenerNamed_eq_some (parentListeners_nodup cluster route.id.ns ref) _ _).mpr
        ⟨hpair.declared, rfl⟩
  rw [← hmem, acceptedListenerScheme]
  split
  · rename_i hseen
    exact iff_of_true rfl hseen
  · rename_i hunseen
    refine iff_of_false ?_ hunseen
    split <;> decide

/-- A name of dot-separated labels, without a wildcard. -/
def ConcreteHost (host : String) : Prop := acceptsName .start host.toList = true

instance (host : String) : Decidable (ConcreteHost host) :=
  inferInstanceAs (Decidable (_ = true))

/-- Served hostnames and redirect scheme say what the binding listeners say. -/
structure AgreesWithBinding (cluster : Cluster) (lib : GoLib) (controllerName : String)
    (kind : RouteKind) (route : Route Rule) : Prop where
  hostnames : ∀ host, ConcreteHost host →
    (Answers (servedHostnames cluster lib kind route) host ↔
      ∃ ref listener, Bound cluster lib kind route controllerName ref listener ∧
        Covers route listener host)
  scheme : acceptedListenerScheme cluster lib kind route = redirectSchemeHTTPS ↔
    ∃ ref listener, Bound cluster lib kind route controllerName ref listener ∧
      listener.protocol = .https

/-- A listener that is read but does not bind adds neither a host nor HTTPS. -/
structure StraysAddNothing (cluster : Cluster) (lib : GoLib) (controllerName : String)
    (kind : RouteKind) (route : Route Rule) : Prop where
  hostnames : ∀ ref listener, Contributing cluster lib kind route ref listener →
    ¬ Bound cluster lib kind route controllerName ref listener →
    ∀ host, ConcreteHost host → Covers route listener host →
      ∃ ref' listener', Bound cluster lib kind route controllerName ref' listener' ∧
        Covers route listener' host
  scheme : ∀ ref listener, Contributing cluster lib kind route ref listener →
    ¬ Bound cluster lib kind route controllerName ref listener → listener.protocol = .https →
      ∃ ref' listener', Bound cluster lib kind route controllerName ref' listener' ∧
        listener'.protocol = .https

variable (cluster lib kind) in
/-- A property some read listener has is had by a binding one, exactly when the
strays do not have it alone. -/
private theorem exists_bound_iff (controllerName : String)
    (hgroups : ∀ ref ∈ route.parentRefs, usesGatewayGroup ref = true) (P : Listener → Prop) :
    ((∃ ref listener, Contributing cluster lib kind route ref listener ∧ P listener) ↔
      ∃ ref listener, Bound cluster lib kind route controllerName ref listener ∧ P listener) ↔
    ∀ ref listener, Contributing cluster lib kind route ref listener →
      ¬ Bound cluster lib kind route controllerName ref listener → P listener →
      ∃ ref' listener', Bound cluster lib kind route controllerName ref' listener' ∧
        P listener' := by
  constructor
  · intro h ref listener hread _ hP
    exact h.mp ⟨ref, listener, hread, hP⟩
  · intro h
    constructor
    · intro hread
      obtain ⟨ref, listener, hread, hP⟩ := hread
      by_cases hbound : Bound cluster lib kind route controllerName ref listener
      · exact ⟨ref, listener, hbound, hP⟩
      · exact h ref listener hread hbound hP
    · intro hbound
      obtain ⟨ref, listener, hbound, hP⟩ := hbound
      exact ⟨ref, listener, hbound.contributing cluster lib kind route
        (hgroups ref hbound.listed), hP⟩

/-- For a bound route the two passes agree with the binding exactly when the
listeners they read beyond it add nothing. -/
theorem passes_agree_iff {controllerName : String}
    (hgroups : ∀ ref ∈ route.parentRefs, usesGatewayGroup ref = true)
    (hbound : ∃ ref listener, Bound cluster lib kind route controllerName ref listener) :
    AgreesWithBinding cluster lib controllerName kind route ↔
      StraysAddNothing cluster lib controllerName kind route := by
  have hread : ∃ ref listener, Contributing cluster lib kind route ref listener := by
    obtain ⟨ref, listener, hpair⟩ := hbound
    exact ⟨ref, listener, hpair.contributing cluster lib kind route (hgroups ref hpair.listed)⟩
  have hhosts := fun host =>
    exists_bound_iff cluster lib kind controllerName hgroups (Covers route · host)
  have hscheme :=
    exists_bound_iff cluster lib kind controllerName hgroups (·.protocol = .https)
  constructor
  · intro h
    refine ⟨?_, ?_⟩
    · intro ref listener hpair hstray host hconcrete hcovers
      have hagree := h.hostnames host hconcrete
      rw [answers_servedHostnames hread] at hagree
      exact (hhosts host).mp hagree ref listener hpair hstray hcovers
    · have hagree := h.scheme
      rw [acceptedListenerScheme_eq_https] at hagree
      exact hscheme.mp hagree
  · intro h
    refine ⟨?_, ?_⟩
    · intro host hconcrete
      rw [answers_servedHostnames hread]
      exact (hhosts host).mpr fun ref listener hpair hstray =>
        h.hostnames ref listener hpair hstray host hconcrete
    · rw [acceptedListenerScheme_eq_https]
      exact hscheme.mpr h.scheme

end Agreement

section Examples

def ownGateway : Gateway :=
  .withListener (.of "apps" "edge") "cloudflare" ⟨"web", ofString? "a.com", 80, .http, none⟩ none

/-- Managed by another controller; its listener has no hostname. -/
def foreignGateway : Gateway :=
  .withListener (.of "apps" "other") "foreign" ⟨"tls", none, 443, .https, none⟩ none

def twoControllers : Cluster where
  gateways := [ownGateway, foreignGateway]
  listenerSets := []
  gatewayClasses := [⟨"cloudflare", "example.com/tunnel"⟩, ⟨"foreign", "example.com/other"⟩]
  namespaces := []
  labelSelectorAsSelector _ := none

def gatewayRef (name : String) : ParentReference := ⟨none, none, none, name, none, none⟩

def routeTo (refs : List ParentReference) : Route Unit :=
  ⟨.of "apps" "site", 0, refs, [], []⟩

def strayRoute : Route Unit := routeTo [gatewayRef "edge", gatewayRef "other"]

/-- A second parent at a foreign Gateway turns a route bound to one hostname into
a catch-all. -/
theorem foreign_listener_opens_route :
    (∀ ref ∈ strayRoute.parentRefs, usesGatewayGroup ref = true) ∧
    (∃ ref listener, Bound twoControllers .literal .HTTPRoute strayRoute "example.com/tunnel" ref
      listener) ∧
    ¬ AgreesWithBinding twoControllers .literal "example.com/tunnel" .HTTPRoute strayRoute := by
  refine ⟨by decide, ⟨gatewayRef "edge", ⟨"web", ofString? "a.com", 80, .http, none⟩,
    by decide, by decide +kernel, by decide +kernel⟩, ?_⟩
  intro hagree
  have hanswers : Answers (servedHostnames twoControllers .literal .HTTPRoute strayRoute)
      "b.com" := by decide +kernel
  obtain ⟨ref, listener, hbound, hcovers⟩ :=
    (hagree.hostnames "b.com" (by decide)).mp hanswers
  have hnone : ∀ ref ∈ strayRoute.parentRefs, ∀ listener ∈ parentListeners twoControllers "apps" ref,
      listener.name ∈ boundSections twoControllers .literal .HTTPRoute strayRoute
        "example.com/tunnel" ref → ¬ Covers strayRoute listener "b.com" := by decide +kernel
  exact hnone ref hbound.listed listener hbound.declared hbound.accepted hcovers

def ownRoute : Route Unit := routeTo [gatewayRef "edge"]

theorem ownRoute_agrees :
    (∀ ref ∈ ownRoute.parentRefs, usesGatewayGroup ref = true) ∧
    (∃ ref listener, Bound twoControllers .literal .HTTPRoute ownRoute "example.com/tunnel" ref
      listener) ∧
    AgreesWithBinding twoControllers .literal "example.com/tunnel" .HTTPRoute ownRoute := by
  have hbound : ∃ ref listener, Bound twoControllers .literal .HTTPRoute ownRoute
      "example.com/tunnel" ref listener :=
    ⟨gatewayRef "edge", ⟨"web", ofString? "a.com", 80, .http, none⟩,
      by decide, by decide +kernel, by decide +kernel⟩
  have hsections : ∀ ref ∈ ownRoute.parentRefs, ∀ name ∈
      parentRefSections twoControllers .literal .HTTPRoute ownRoute ref,
      name ∈ boundSections twoControllers .literal .HTTPRoute ownRoute "example.com/tunnel" ref := by
    decide +kernel
  have hnostray : ∀ ref listener, Contributing twoControllers .literal .HTTPRoute ownRoute ref
      listener → Bound twoControllers .literal .HTTPRoute ownRoute "example.com/tunnel" ref
      listener :=
    fun ref listener h => ⟨h.listed, h.declared, hsections ref h.listed _ h.taken⟩
  refine ⟨by decide, hbound, (passes_agree_iff (by decide) hbound).mpr ⟨?_, ?_⟩⟩
  · exact fun ref listener h hstray => absurd (hnostray ref listener h) hstray
  · exact fun ref listener h hstray => absurd (hnostray ref listener h) hstray

end Examples

end TunnelGateway.EffectiveHostnames
