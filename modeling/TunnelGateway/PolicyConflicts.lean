import TunnelGateway.ObjectOrder

/-!
Two reconcilers decide which BackendTLSPolicy of a Service wins: the status
reconciler looks for an older peer that shares a target, the proxy takes the
oldest policy of each Service port. Without section names both look for the
oldest policy among those that target the Service.
-/
namespace TunnelGateway.PolicyConflicts

open GatewayApi ClusterObjects ClusterResolvers ObjectOrder AgeOrder

section Model

structure TargetKey where
  name : String
  sectionName : String
  deriving DecidableEq

/-- Targets of a kind other than Service are skipped. -/
def normalizePolicyTargets (policy : BackendTLSPolicy) : List TargetKey :=
  policy.targetRefs.filterMap fun target =>
    if target.kind ≠ "" ∧ target.kind ≠ "Service" then none
    else some ⟨target.name, target.sectionName.getD ""⟩

def policiesShareTarget (peer : BackendTLSPolicy) (ownTargets : List TargetKey) : Bool :=
  (normalizePolicyTargets peer).any (· ∈ ownTargets)

def conflictWinnerFor (objects : Objects) (policy : BackendTLSPolicy) : Option BackendTLSPolicy :=
  let ownTargets := normalizePolicyTargets policy
  if ownTargets.isEmpty then none
  else
    (objects.backendTLSPolicies.filter (·.id.ns = policy.id.ns)).foldl (fun winner peer =>
      if peer.id.name = policy.id.name ∧ peer.id.ns = policy.id.ns then winner
      else if !policiesShareTarget peer ownTargets then winner
      else if !isPolicyOlder peer policy then winner
      else
        match winner with
        | none => some peer
        | some incumbent => if isPolicyOlder peer incumbent then some peer else winner) none

end Model

section Targets

/-- A target reference names the Service. -/
def Targets (policy : BackendTLSPolicy) (service : String) : Prop :=
  ∃ target ∈ policy.targetRefs, target.name = service ∧
    (target.kind = "" ∨ target.kind = "Service")

/-- No target reference has a section name. -/
def Unscoped (policy : BackendTLSPolicy) : Prop :=
  ∀ target ∈ policy.targetRefs, target.sectionName = none

variable {policy : BackendTLSPolicy}

theorem policyTargetsServicePort_iff (h : Unscoped policy) (service portName : String) :
    policyTargetsServicePort policy service portName = true ↔ Targets policy service := by
  simp only [policyTargetsServicePort, List.any_eq_true, Bool.and_eq_true, Bool.or_eq_true,
    decide_eq_true_eq]
  constructor
  · rintro ⟨target, htarget, ⟨hname, hkind⟩, -⟩
    exact ⟨target, htarget, hname, hkind⟩
  · rintro ⟨target, htarget, hname, hkind⟩
    exact ⟨target, htarget, ⟨hname, hkind⟩, Or.inl (by simp [h target htarget])⟩

theorem mem_normalizePolicyTargets (h : Unscoped policy) (key : TargetKey) :
    key ∈ normalizePolicyTargets policy ↔ key.sectionName = "" ∧ Targets policy key.name := by
  simp only [normalizePolicyTargets, List.mem_filterMap]
  constructor
  · rintro ⟨target, htarget, hkey⟩
    split at hkey
    · cases hkey
    · rename_i hkind
      cases hkey
      rw [not_and_or, not_not, not_not] at hkind
      exact ⟨by simp [h target htarget], target, htarget, rfl, hkind⟩
  · rintro ⟨hsection, target, htarget, hname, hkind⟩
    refine ⟨target, htarget, ?_⟩
    rw [if_neg (by rw [not_and_or, not_not, not_not]; exact hkind), h target htarget, hname]
    cases key
    simp only at hsection
    rw [hsection]
    rfl

theorem policiesShareTarget_iff {peer : BackendTLSPolicy} (hpeer : Unscoped peer)
    (hpolicy : Unscoped policy) :
    policiesShareTarget peer (normalizePolicyTargets policy) = true ↔
      ∃ service, Targets peer service ∧ Targets policy service := by
  simp only [policiesShareTarget, List.any_eq_true, decide_eq_true_eq]
  constructor
  · rintro ⟨key, hkey, hown⟩
    exact ⟨key.name, ((mem_normalizePolicyTargets hpeer key).mp hkey).2,
      ((mem_normalizePolicyTargets hpolicy key).mp hown).2⟩
  · rintro ⟨service, hkey, hown⟩
    exact ⟨⟨service, ""⟩, (mem_normalizePolicyTargets hpeer _).mpr ⟨rfl, hkey⟩,
      (mem_normalizePolicyTargets hpolicy _).mpr ⟨rfl, hown⟩⟩

end Targets

section Winners

variable (objects : Objects)

/-- The policies the API lists for one namespace. -/
def policiesOf (ns : String) : List BackendTLSPolicy :=
  objects.backendTLSPolicies.filter (·.id.ns = ns)

/-- An older policy with a target in common. -/
def isRival (policy peer : BackendTLSPolicy) : Bool :=
  !(peer.id.name = policy.id.name && peer.id.ns = policy.id.ns) &&
    policiesShareTarget peer (normalizePolicyTargets policy) && isPolicyOlder peer policy

/-- The loop over the peers keeps the oldest rival. -/
theorem conflictWinnerFor_eq (policy : BackendTLSPolicy) :
    conflictWinnerFor objects policy =
      ((policiesOf objects policy.id.ns).filter (isRival policy)).foldl (keepOldest isPolicyOlder)
        none := by
  rw [conflictWinnerFor, ← policiesOf]
  split
  · rename_i hempty
    have hnone : (policiesOf objects policy.id.ns).filter (isRival policy) = [] := by
      rw [List.filter_eq_nil_iff]
      intro peer _ hrival
      simp [isRival, policiesShareTarget, List.isEmpty_iff.mp hempty] at hrival
    rw [hnone]
    rfl
  · rw [List.foldl_filter]
    congr 1
    funext winner peer
    by_cases hself : peer.id.name = policy.id.name ∧ peer.id.ns = policy.id.ns
    · simp [isRival, hself]
    · cases hshare : policiesShareTarget peer (normalizePolicyTargets policy) with
      | false => simp [isRival, hshare]
      | true =>
        cases holder : isPolicyOlder peer policy with
        | false => simp [isRival, holder]
        | true =>
          have hrival : isRival policy peer = true := by
            simp only [isRival, hshare, holder, Bool.and_true, Bool.not_eq_true',
              Bool.and_eq_false_iff, decide_eq_false_iff_not]
            rwa [not_and_or] at hself
          rw [if_neg hself, hrival]
          cases winner <;> rfl

variable {objects} {ns : String} (hnames : (objects.backendTLSPolicies.map (·.id)).Nodup)

include hnames in
/-- Policies of one namespace have stamps of their own. -/
theorem eq_of_policyStamp_eq {a b : BackendTLSPolicy} (ha : a ∈ policiesOf objects ns)
    (hb : b ∈ policiesOf objects ns) (h : policyStamp a = policyStamp b) : a = b := by
  obtain ⟨hamem, hans⟩ := List.mem_filter.mp ha
  obtain ⟨hbmem, hbns⟩ := List.mem_filter.mp hb
  have hname : a.id.name = b.id.name := congrArg Stamp.first h
  have hns : a.id.ns = b.id.ns := (of_decide_eq_true hans).trans (of_decide_eq_true hbns).symm
  exact List.inj_on_of_nodup_map hnames hamem hbmem (NamespacedName.ext hns hname)

variable {policy : BackendTLSPolicy}

theorem ns_of_mem_policiesOf (h : policy ∈ policiesOf objects ns) : policy.id.ns = ns :=
  of_decide_eq_true (List.mem_filter.mp h).2

variable (hunscoped : ∀ policy ∈ policiesOf objects ns, Unscoped policy)

variable {service : String}

include hunscoped in
theorem mem_targeting_iff {portName : String} :
    policy ∈ (policiesOf objects ns).filter (policyTargetsServicePort · service portName) ↔
      policy ∈ policiesOf objects ns ∧ Targets policy service := by
  rw [List.mem_filter]
  refine and_congr_right ?_
  intro hmem
  exact policyTargetsServicePort_iff (hunscoped policy hmem) service portName

include hnames hunscoped

theorem select_eq_some_iff {port : ℤ} :
    selectPolicyForServicePort objects (policiesOf objects ns) ns service port = some policy ↔
      (policy ∈ policiesOf objects ns ∧ Targets policy service) ∧
      ∀ peer ∈ policiesOf objects ns, Targets peer service →
        (policyStamp policy).Precedes (policyStamp peer) := by
  have hstamp : ∀ a ∈ (policiesOf objects ns).filter (policyTargetsServicePort · service
      (lookupServicePortName objects ns service port)), ∀ b ∈ (policiesOf objects ns).filter
      (policyTargetsServicePort · service (lookupServicePortName objects ns service port)),
      policyStamp a = policyStamp b → a = b := by
    intro a ha b hb
    exact eq_of_policyStamp_eq hnames (List.mem_of_mem_filter ha) (List.mem_of_mem_filter hb)
  rw [selectPolicyForServicePort_eq, foldl_keepOldest_eq_some_iff isPolicyOlder_iff hstamp,
    mem_targeting_iff hunscoped]
  refine and_congr_right ?_
  intro _
  constructor
  · intro h peer hpeer htargets
    exact h peer ((mem_targeting_iff hunscoped).mpr ⟨hpeer, htargets⟩)
  · intro h peer hpeer
    obtain ⟨hmem, htargets⟩ := (mem_targeting_iff hunscoped).mp hpeer
    exact h peer hmem htargets

omit hnames in
theorem select_eq_none_iff {port : ℤ} :
    selectPolicyForServicePort objects (policiesOf objects ns) ns service port = none ↔
      ∀ policy ∈ policiesOf objects ns, ¬ Targets policy service := by
  rw [selectPolicyForServicePort_eq, foldl_keepOldest_eq_none_iff isPolicyOlder_iff,
    List.filter_eq_nil_iff]
  refine forall₂_congr ?_
  intro policy hmem
  rw [policyTargetsServicePort_iff (hunscoped policy hmem)]

theorem mem_rivals_iff {peer : BackendTLSPolicy} (hmem : policy ∈ policiesOf objects ns) :
    peer ∈ (policiesOf objects ns).filter (isRival policy) ↔
      peer ∈ policiesOf objects ns ∧ (∃ service, Targets peer service ∧ Targets policy service) ∧
        ¬ (policyStamp policy).Precedes (policyStamp peer) := by
  rw [List.mem_filter]
  refine and_congr_right ?_
  intro hpeer
  simp only [isRival, Bool.and_eq_true, Bool.not_eq_true', isPolicyOlder_iff,
    policiesShareTarget_iff (hunscoped peer hpeer) (hunscoped policy hmem)]
  constructor
  · rintro ⟨⟨-, hshare⟩, holder⟩
    exact ⟨hshare, holder⟩
  · rintro ⟨hshare, holder⟩
    refine ⟨⟨?_, hshare⟩, holder⟩
    -- The policy itself is not strictly older, so a rival has another name.
    rw [Bool.and_eq_false_iff, decide_eq_false_iff_not, decide_eq_false_iff_not]
    by_contra hsame
    rw [not_or, not_not, not_not] at hsame
    have heq : peer = policy := List.inj_on_of_nodup_map hnames (List.mem_of_mem_filter hpeer)
      (List.mem_of_mem_filter hmem) (NamespacedName.ext hsame.2 hsame.1)
    exact holder (heq ▸ Stamp.precedes_refl _)

theorem conflictWinnerFor_eq_none_iff (hmem : policy ∈ policiesOf objects ns) :
    conflictWinnerFor objects policy = none ↔
      ∀ peer ∈ policiesOf objects ns, (∃ service, Targets peer service ∧ Targets policy service) →
        (policyStamp policy).Precedes (policyStamp peer) := by
  rw [conflictWinnerFor_eq, ns_of_mem_policiesOf hmem,
    foldl_keepOldest_eq_none_iff isPolicyOlder_iff, List.eq_nil_iff_forall_not_mem]
  refine forall_congr' ?_
  intro peer
  rw [mem_rivals_iff hnames hunscoped hmem]
  simp

omit hunscoped in
theorem conflictWinnerFor_eq_some_iff {winner : BackendTLSPolicy}
    (hmem : policy ∈ policiesOf objects ns) :
    conflictWinnerFor objects policy = some winner ↔
      winner ∈ (policiesOf objects ns).filter (isRival policy) ∧
      ∀ peer ∈ (policiesOf objects ns).filter (isRival policy),
        (policyStamp winner).Precedes (policyStamp peer) := by
  have hstamp : ∀ a ∈ (policiesOf objects ns).filter (isRival policy),
      ∀ b ∈ (policiesOf objects ns).filter (isRival policy),
      policyStamp a = policyStamp b → a = b := by
    intro a ha b hb
    exact eq_of_policyStamp_eq hnames (List.mem_of_mem_filter ha) (List.mem_of_mem_filter hb)
  rw [conflictWinnerFor_eq, ns_of_mem_policiesOf hmem,
    foldl_keepOldest_eq_some_iff isPolicyOlder_iff hstamp]

/-- On a Service that a policy shares with its winner, the winner is selected:
whatever targets the Service is a rival or younger than the policy. -/
theorem select_eq_winner {winner : BackendTLSPolicy} (hmem : policy ∈ policiesOf objects ns)
    (hwinner : conflictWinnerFor objects policy = some winner) (htargets : Targets policy service)
    (hshared : Targets winner service) (port : ℤ) :
    selectPolicyForServicePort objects (policiesOf objects ns) ns service port = some winner := by
  obtain ⟨hrival, hfirst⟩ := (conflictWinnerFor_eq_some_iff hnames hmem).mp hwinner
  obtain ⟨hwmem, -, holder⟩ := (mem_rivals_iff hnames hunscoped hmem).mp hrival
  rw [select_eq_some_iff hnames hunscoped]
  refine ⟨⟨hwmem, hshared⟩, ?_⟩
  intro peer hpeer hpeerTargets
  by_cases hyounger : (policyStamp policy).Precedes (policyStamp peer)
  · exact ((Stamp.precedes_total _ _).resolve_right holder).trans hyounger
  · exact hfirst peer ((mem_rivals_iff hnames hunscoped hmem).mpr
      ⟨hpeer, ⟨service, hpeerTargets, htargets⟩, hyounger⟩)

/-- The status reconciler reports no winner exactly when the proxy enforces the
policy everywhere, and a winner it reports is one that the proxy enforces in its
place; the proxy takes the oldest policy, whatever the order of the list. -/
theorem policy_status_matches_selection :
    (∀ policy ∈ policiesOf objects ns,
      (conflictWinnerFor objects policy = none ↔ ∀ service, Targets policy service → ∀ port,
        selectPolicyForServicePort objects (policiesOf objects ns) ns service port =
          some policy) ∧
      ∀ winner, conflictWinnerFor objects policy = some winner →
        isPolicyOlder winner policy = true ∧
        ∃ service, Targets policy service ∧ Targets winner service ∧ ∀ port,
          selectPolicyForServicePort objects (policiesOf objects ns) ns service port =
            some winner) ∧
    ∀ service port,
      (selectPolicyForServicePort objects (policiesOf objects ns) ns service port = none ↔
        ∀ policy ∈ policiesOf objects ns, ¬ Targets policy service) ∧
      (∀ policy, selectPolicyForServicePort objects (policiesOf objects ns) ns service port =
          some policy ↔
        (policy ∈ policiesOf objects ns ∧ Targets policy service) ∧
        ∀ peer ∈ policiesOf objects ns, Targets peer service →
          (policyStamp policy).Precedes (policyStamp peer)) ∧
      ∀ listed, listed.Perm (policiesOf objects ns) →
        selectPolicyForServicePort objects listed ns service port =
          selectPolicyForServicePort objects (policiesOf objects ns) ns service port := by
  refine ⟨?_, ?_⟩
  · intro policy hmem
    refine ⟨?_, ?_⟩
    · rw [conflictWinnerFor_eq_none_iff hnames hunscoped hmem]
      constructor
      · intro h service htargets port
        rw [select_eq_some_iff hnames hunscoped]
        exact ⟨⟨hmem, htargets⟩, fun peer hpeer hshared =>
          h peer hpeer ⟨service, hshared, htargets⟩⟩
      · rintro h peer hpeer ⟨service, hshared, htargets⟩
        exact ((select_eq_some_iff hnames hunscoped).mp (h service htargets 0)).2 peer hpeer
          hshared
    · intro winner hwinner
      have hrival := ((conflictWinnerFor_eq_some_iff hnames hmem).mp hwinner).1
      obtain ⟨-, ⟨service, hshared, htargets⟩, holder⟩ :=
        (mem_rivals_iff hnames hunscoped hmem).mp hrival
      exact ⟨(isPolicyOlder_iff winner policy).mpr holder, service, htargets, hshared,
        select_eq_winner hnames hunscoped hmem hwinner htargets hshared⟩
  · intro service port
    refine ⟨select_eq_none_iff hunscoped, fun policy => select_eq_some_iff hnames hunscoped, ?_⟩
    intro listed hperm
    rw [selectPolicyForServicePort_eq, selectPolicyForServicePort_eq]
    refine foldl_keepOldest_eq_of_perm isPolicyOlder_iff (hperm.filter _) ?_
    intro a ha b hb
    exact eq_of_policyStamp_eq hnames (hperm.mem_iff.mp (List.mem_of_mem_filter ha))
      (hperm.mem_iff.mp (List.mem_of_mem_filter hb))

end Winners

section Examples

/-- A policy for one Service. -/
def policyOn (name service : String) (created : ℤ) : BackendTLSPolicy where
  id := .of "shop" name
  creationTimestamp := created
  targetRefs := [⟨"Service", service, none⟩]
  caCertificateRefs := []
  hostname := "shop.local"
  subjectAltNames := []

def twoPolicies : Objects where
  gateways := []
  listenerSets := []
  gatewayClasses := []
  namespaces := []
  labelSelectorAsSelector _ := none
  backendTLSPolicies := [policyOn "new" "cart" 2, policyOn "old" "cart" 1]
  x509KeyPair _ _ := true
  parsesCABundle _ := true

/-- The older of two policies of a Service is reported as the winner and is the
one selected. -/
theorem older_policy_wins :
    conflictWinnerFor twoPolicies (policyOn "new" "cart" 2) = some (policyOn "old" "cart" 1) ∧
    ∃ service, Targets (policyOn "new" "cart" 2) service ∧
      Targets (policyOn "old" "cart" 1) service ∧ ∀ port,
        selectPolicyForServicePort twoPolicies (policiesOf twoPolicies "shop") "shop" service
          port = some (policyOn "old" "cart" 1) := by
  have hnames : (twoPolicies.backendTLSPolicies.map (·.id)).Nodup := by decide
  have hunscoped : ∀ policy ∈ policiesOf twoPolicies "shop", Unscoped policy := by
    intro policy hpolicy
    have hmem : policy ∈ [policyOn "new" "cart" 2, policyOn "old" "cart" 1] :=
      List.mem_of_mem_filter hpolicy
    simp only [List.mem_cons, List.not_mem_nil, or_false] at hmem
    rcases hmem with rfl | rfl <;> intro target htarget <;>
      rw [List.mem_singleton.mp htarget]
  have hmem : policyOn "new" "cart" 2 ∈ policiesOf twoPolicies "shop" :=
    List.mem_filter.mpr ⟨List.mem_cons_self, rfl⟩
  have hwinner : conflictWinnerFor twoPolicies (policyOn "new" "cart" 2) =
      some (policyOn "old" "cart" 1) := rfl
  exact ⟨hwinner,
    (((policy_status_matches_selection hnames hunscoped).1 _ hmem).2 _ hwinner).2⟩

end Examples

end TunnelGateway.PolicyConflicts
