import TunnelGateway.RouteStatus

/-!
When `Accepted=True` is earned. The references of a route are evaluated on the
listed object, any evaluation may fail, and the results are kept by position; the
writer joins them with the references of the object as it reads it later. What
happens to the object in between is arbitrary.
-/
namespace TunnelGateway.EarnedStatus

open GoText GatewayApi RouteBinding ParentBinding RouteCollection RouteDiagnostics FailedRefs
open RouteStatus

/-- What evaluating one reference gave: an error, or a binding when it is
managed. -/
abbrev Outcome := Except String (Option ParentRefBinding)

def Outcome.binding : Outcome → Option ParentRefBinding
  | .error _ => none
  | .ok binding => binding

section Binding

/-- The loop body of the binding, once the reference is evaluated. -/
def recordOutcome (refIdx : ℕ) (outcome : Outcome) (info : RouteBindingInfo) :
    RouteBindingInfo × Bool × Bool :=
  match outcome.binding with
  | none => (info, false, false)
  | some binding =>
      let info := { info with
        bindingResults := info.bindingResults ++ [(refIdx, binding.result)]
        parentGateways := info.parentGateways ++ [(refIdx, binding.gatewayKey)] }
      if binding.result.accepted then (info.accept binding.gatewayKey, true, true)
      else (info, true, false)

def recordNext (state : RouteBindingInfo × Bool × Bool)
    (entry : (ParentReference × Outcome) × ℕ) : RouteBindingInfo × Bool × Bool :=
  let (info, referenced, accepted) := recordOutcome entry.2 entry.1.2 state.1
  (info, state.2.1 || accepted, state.2.2 || referenced)

/-- The binding of a route whose references were evaluated with these outcomes:
the results, whether any accepts and whether any is managed. -/
def bindEvaluated (evaluated : List (ParentReference × Outcome)) : RouteBindingInfo × Bool × Bool :=
  evaluated.zipIdx.foldl recordNext (RouteBindingInfo.empty, false, false)

theorem bindOneParent_eq {Rule : Type} (cluster : Cluster) (lib : GoLib) (controllerName : String)
    (kind : RouteKind) (route : Route Rule) (refIdx : ℕ) (ref : ParentReference)
    (info : RouteBindingInfo) :
    bindOneParent cluster lib controllerName kind route refIdx ref info =
      recordOutcome refIdx
        (resolveRouteParentBinding cluster lib controllerName ref (routeInfo kind route ref)) info := by
  unfold bindOneParent recordOutcome
  rcases resolveRouteParentBinding cluster lib controllerName ref (routeInfo kind route ref) with
    _ | _ | binding <;> rfl

/-- With the evaluations of a cluster this is the loop of `bindRouteParents`. -/
theorem bindRouteParents_eq {Rule : Type} (cluster : Cluster) (lib : GoLib)
    (controllerName : String) (kind : RouteKind) (route : Route Rule) :
    bindRouteParents cluster lib controllerName (fun _ _ => none) kind route =
      bindEvaluated (route.parentRefs.map fun ref =>
        (ref, resolveRouteParentBinding cluster lib controllerName ref
          (routeInfo kind route ref))) := by
  have hfold : ∀ (refs : List (ParentReference × ℕ)) (state : RouteBindingInfo × Bool × Bool),
      refs.foldl (bindNextParent cluster lib controllerName kind route) state =
        (refs.map fun entry => ((entry.1, resolveRouteParentBinding cluster lib controllerName
          entry.1 (routeInfo kind route entry.1)), entry.2)).foldl recordNext state := by
    intro refs state
    rw [List.foldl_map]
    congr 1
    funext state entry
    rw [bindNextParent, recordNext, bindOneParent_eq]
  unfold bindRouteParents bindEvaluated
  rw [hfold, List.zipIdx_map]
  change _ = (route.parentRefs.zipIdx.map fun entry => ((entry.1, _), entry.2)).foldl recordNext _
  generalize List.foldl recordNext _ _ = state
  obtain ⟨info, hasAccepted, referencesUs⟩ := state
  cases hasAccepted <;> rfl

/-- The results of a list of evaluations, by position. -/
def resultsFrom (evaluated : List ((ParentReference × Outcome) × ℕ)) : List (ℕ × BindingResult) :=
  evaluated.filterMap fun entry =>
    entry.1.2.binding.map fun binding => (entry.2, binding.result)

variable {entry : (ParentReference × Outcome) × ℕ}

theorem resultsFrom_cons_of_none (h : entry.1.2.binding = none)
    (rest : List ((ParentReference × Outcome) × ℕ)) :
    resultsFrom (entry :: rest) = resultsFrom rest := by
  apply List.filterMap_cons_none
  rw [h]
  rfl

theorem resultsFrom_cons_of_some {binding : ParentRefBinding}
    (h : entry.1.2.binding = some binding) (rest : List ((ParentReference × Outcome) × ℕ)) :
    resultsFrom (entry :: rest) = (entry.2, binding.result) :: resultsFrom rest := by
  apply List.filterMap_cons_some
  rw [h]
  rfl

theorem bindingResults_foldl (evaluated : List ((ParentReference × Outcome) × ℕ))
    (state : RouteBindingInfo × Bool × Bool) :
    (evaluated.foldl recordNext state).1.bindingResults =
      state.1.bindingResults ++ resultsFrom evaluated := by
  induction evaluated generalizing state with
  | nil => simp [resultsFrom]
  | cons entry rest ih =>
    rw [List.foldl_cons, ih]
    unfold recordNext recordOutcome
    cases hbinding : entry.1.2.binding with
    | none => rw [resultsFrom_cons_of_none hbinding]
    | some binding =>
      rw [resultsFrom_cons_of_some hbinding, List.append_cons]
      by_cases haccepted : binding.result.accepted = true
      · simp [haccepted, RouteBindingInfo.accept]
      · simp [haccepted]

theorem hasAccepted_foldl (evaluated : List ((ParentReference × Outcome) × ℕ))
    (state : RouteBindingInfo × Bool × Bool) :
    (evaluated.foldl recordNext state).2.1 = true ↔ state.2.1 = true ∨
      ∃ entry ∈ evaluated, ∃ binding, entry.1.2.binding = some binding ∧
        binding.result.accepted = true := by
  induction evaluated generalizing state with
  | nil => simp
  | cons entry rest ih =>
    rw [List.foldl_cons, ih]
    unfold recordNext recordOutcome
    cases hbinding : entry.1.2.binding with
    | none => simp [hbinding]
    | some binding =>
      by_cases haccepted : binding.result.accepted = true <;> simp [hbinding, haccepted]

theorem lookup_resultsFrom_before (evaluated : List (ParentReference × Outcome)) {start refIdx : ℕ}
    (h : refIdx < start) : (resultsFrom (evaluated.zipIdx start)).lookup refIdx = none := by
  rw [List.lookup_eq_none_iff]
  intro entry hentry
  obtain ⟨⟨evaluation, idx⟩, hmem, hsome⟩ := List.mem_filterMap.mp hentry
  obtain ⟨binding, -, rfl⟩ := Option.map_eq_some_iff.mp hsome
  have hidx := List.le_snd_of_mem_zipIdx hmem
  have hne : refIdx ≠ idx := by
    intro heq
    omega
  simpa using hne

/-- A position holds the result of the reference that stood there. -/
theorem lookup_resultsFrom (evaluated : List (ParentReference × Outcome)) (start refIdx : ℕ) :
    (resultsFrom (evaluated.zipIdx start)).lookup (start + refIdx) =
      (evaluated[refIdx]?).bind fun entry => entry.2.binding.map (·.result) := by
  induction evaluated generalizing start refIdx with
  | nil => simp [resultsFrom]
  | cons entry rest ih =>
    rw [List.zipIdx_cons]
    cases refIdx with
    | zero =>
      rw [Nat.add_zero, List.getElem?_cons_zero, Option.bind_some]
      cases hbinding : entry.2.binding with
      | none =>
        rw [resultsFrom_cons_of_none hbinding]
        exact lookup_resultsFrom_before rest (Nat.lt_succ_self start)
      | some binding =>
        rw [resultsFrom_cons_of_some hbinding, List.lookup_cons_self]
        rfl
    | succ refIdx =>
      rw [List.getElem?_cons_succ, ← ih (start + 1) refIdx,
        show start + (refIdx + 1) = start + 1 + refIdx by omega]
      cases hbinding : entry.2.binding with
      | none => rw [resultsFrom_cons_of_none hbinding]
      | some binding =>
        have hne : start + 1 + refIdx ≠ start := by omega
        rw [resultsFrom_cons_of_some hbinding, List.lookup_cons, beq_false_of_ne hne]

end Binding

section Sync

/-- The binding part of one sync of a route: the evaluated references, the
message of an ownership policy that denies the route, and whether it loses a
conflict with a route of the other kind. -/
structure BindingRun where
  evaluated : List (ParentReference × Outcome)
  denied : Option String
  conflicted : Bool

/-- A route with an accepted binding can still be turned down as a whole. -/
def BindingRun.info (run : BindingRun) : RouteBindingInfo :=
  let (info, hasAccepted, _) := bindEvaluated run.evaluated
  if hasAccepted then
    match run.denied with
    | some message => info.deny message
    | none => if run.conflicted then markBindingConflicted info else info
  else info

/-- A route gets a status entry when one of its references is managed. -/
def BindingRun.referencesUs (run : BindingRun) : Bool := (bindEvaluated run.evaluated).2.2

/-- What else the writer is handed. -/
structure WriteInputs where
  syncErrByGateway : List (String × String) := []
  syncErr : Option String := none
  acceptedOverride : Option AcceptedConditionOverride := none
  diagnostics : List RouteDiagnostic := []
  failedRefs : List BackendRefError := []
  now : ℤ := 0

def statusUpdate (controllerName : String) (reconciledGeneration : ℕ) (run : BindingRun)
    (inputs : WriteInputs) : StatusUpdate where
  controllerName := controllerName
  acceptedOverride := inputs.acceptedOverride
  diagnostics := inputs.diagnostics
  reconciledGeneration := reconciledGeneration
  binding := ⟨run.info, inputs.syncErrByGateway⟩
  failedRefs := inputs.failedRefs
  syncErr := inputs.syncErr
  now := inputs.now

variable (selects : ParentReference → Bool) (controllerName : String) (reconciledGeneration : ℕ)

/-- The entries a sync writes on the object it reads, if it writes at all. -/
def writeStatus (run : BindingRun) (inputs : WriteInputs) (route : RouteObject) :
    Option (List RouteParentStatus) :=
  if run.referencesUs then
    updateRouteParentStatuses selects
      (statusUpdate controllerName reconciledGeneration run inputs) route
  else none

/-- A parent is identified by what its reference says, with the defaults filled
in. -/
def parentIdentity (routeNamespace : String) (ref : ParentReference) :
    String × String × String × String × Option String × Option ℕ :=
  (if ref.group.getD "" = "" then groupName else ref.group.getD "", ref.kind.getD kindGateway,
    refNamespace ref routeNamespace, ref.name, ref.sectionName, ref.port)

/-- In this run the parent was evaluated without error and found managed and
accepted. -/
def Earned (routeNamespace : String) (run : BindingRun) (ref : ParentReference) : Prop :=
  ∃ entry ∈ run.evaluated, parentIdentity routeNamespace entry.1 = parentIdentity routeNamespace ref ∧
    ∃ binding, entry.2 = .ok (some binding) ∧ binding.result.accepted = true

def AcceptedTrue (status : RouteParentStatus) : Prop :=
  ∃ condition ∈ status.conditions, condition.type = "Accepted" ∧ condition.status = .isTrue

/-- The reference that stood at this position was rejected, or the route as a
whole was turned down. -/
def RejectedAt (run : BindingRun) (refIdx : ℕ) : Prop :=
  ∃ entry binding, run.evaluated[refIdx]? = some entry ∧ entry.2 = .ok (some binding) ∧
    (binding.result.accepted = false ∨ run.denied.isSome ∨ run.conflicted)

/-- The references of the object that get an entry, by position. -/
def reportedRefs (route : RouteObject) : List (ParentReference × ℕ) :=
  (route.parentRefs.zipIdx.filter fun entry => selects entry.1).take
    (routeParentStatusMaxCount - (route.parents.filter (!isOwn controllerName ·)).length)

/-- A newer reconcile owns the status. -/
def Superseded (route : RouteObject) : Prop :=
  ∃ parent ∈ route.parents, parent.controllerName = controllerName ∧
    statusGenerationStale reconciledGeneration parent.conditions = true

end Sync

section Written

theorem outcome_binding_eq_some {outcome : Outcome} {binding : ParentRefBinding} :
    outcome.binding = some binding ↔ outcome = .ok (some binding) := by
  cases outcome <;> simp [Outcome.binding]

/-- What denial and conflict do to a result. -/
def turnDown (run : BindingRun) (result : BindingResult) : BindingResult :=
  if result.accepted then
    match run.denied with
    | some message => ⟨false, .hostnameNotPermitted, message, []⟩
    | none =>
        if run.conflicted then
          { result with
            accepted := false, reason := .conflicted, message := crossTypeConflictMessage }
        else result
  else result

theorem accepted_turnDown (run : BindingRun) (result : BindingResult) :
    (turnDown run result).accepted = false ↔
      result.accepted = false ∨ run.denied.isSome = true ∨ run.conflicted = true := by
  unfold turnDown
  cases haccepted : result.accepted with
  | false => simp [haccepted]
  | true =>
    cases hdenied : run.denied with
    | some message => simp
    | none =>
      cases hconflicted : run.conflicted with
      | true => simp
      | false => simp [haccepted]

variable {run : BindingRun}

theorem bindingResults_deny {message : String} (h : run.denied = some message)
    (info : RouteBindingInfo) :
    (info.deny message).bindingResults =
      info.bindingResults.map fun entry => (entry.1, turnDown run entry.2) := by
  apply List.map_congr_left
  intro entry _
  unfold turnDown
  rw [h]
  split <;> rfl

theorem bindingResults_markBindingConflicted (hdenied : run.denied = none)
    (hconflicted : run.conflicted = true) (info : RouteBindingInfo) :
    (markBindingConflicted info).bindingResults =
      info.bindingResults.map fun entry => (entry.1, turnDown run entry.2) := by
  apply List.map_congr_left
  intro entry _
  unfold turnDown
  rw [hdenied]
  split <;> rfl

theorem map_turnDown_eq_self {results : List (ℕ × BindingResult)}
    (h : ∀ entry ∈ results, turnDown run entry.2 = entry.2) :
    (results.map fun entry => (entry.1, turnDown run entry.2)) = results := by
  have hid : (results.map fun entry => (entry.1, turnDown run entry.2)) = results.map id := by
    apply List.map_congr_left
    intro entry hentry
    rw [h entry hentry]
    rfl
  rw [hid, List.map_id]

/-- Without an accepted binding there is nothing to turn down. -/
theorem rejected_of_not_hasAccepted {evaluated : List (ParentReference × Outcome)}
    (h : (bindEvaluated evaluated).2.1 = false) :
    ∀ entry ∈ resultsFrom evaluated.zipIdx, entry.2.accepted = false := by
  intro entry hentry
  obtain ⟨evaluation, hmem, hsome⟩ := List.mem_filterMap.mp hentry
  obtain ⟨binding, hbinding, rfl⟩ := Option.map_eq_some_iff.mp hsome
  by_contra haccepted
  rw [Bool.not_eq_false] at haccepted
  have htrue := (hasAccepted_foldl evaluated.zipIdx (RouteBindingInfo.empty, false, false)).mpr
    (Or.inr ⟨evaluation, hmem, binding, hbinding, haccepted⟩)
  rw [← bindEvaluated, h] at htrue
  cases htrue

theorem bindingResults_bindEvaluated (evaluated : List (ParentReference × Outcome)) :
    (bindEvaluated evaluated).1.bindingResults = resultsFrom evaluated.zipIdx :=
  bindingResults_foldl evaluated.zipIdx (RouteBindingInfo.empty, false, false)

theorem bindingResults_info (run : BindingRun) :
    run.info.bindingResults =
      (resultsFrom run.evaluated.zipIdx).map fun entry => (entry.1, turnDown run entry.2) := by
  rw [← bindingResults_bindEvaluated]
  cases haccepted : (bindEvaluated run.evaluated).2.1 with
  | false =>
    have hinfo : run.info = (bindEvaluated run.evaluated).1 := by simp [BindingRun.info, haccepted]
    have hrejected := rejected_of_not_hasAccepted haccepted
    rw [← bindingResults_bindEvaluated] at hrejected
    rw [hinfo, map_turnDown_eq_self]
    intro entry hentry
    unfold turnDown
    rw [hrejected entry hentry]
    rfl
  | true =>
    cases hdenied : run.denied with
    | some message =>
      rw [← bindingResults_deny hdenied]
      simp [BindingRun.info, haccepted, hdenied]
    | none =>
      cases hconflicted : run.conflicted with
      | true =>
        rw [← bindingResults_markBindingConflicted hdenied hconflicted]
        simp [BindingRun.info, haccepted, hdenied, hconflicted]
      | false =>
        have hinfo : run.info = (bindEvaluated run.evaluated).1 := by
          simp [BindingRun.info, hdenied, hconflicted]
        rw [hinfo, map_turnDown_eq_self]
        intro entry _
        simp [turnDown, hdenied, hconflicted]

theorem lookup_bindingResults (run : BindingRun) (refIdx : ℕ) :
    run.info.bindingResults.lookup refIdx =
      (run.evaluated[refIdx]?).bind fun entry =>
        entry.2.binding.map fun binding => turnDown run binding.result := by
  have hposition := lookup_resultsFrom run.evaluated 0 refIdx
  rw [Nat.zero_add] at hposition
  rw [bindingResults_info, lookup_map_value (fun _ => turnDown run), hposition, Option.map_bind]
  congr 1
  funext entry
  rw [Function.comp_apply, Option.map_map]
  rfl

/-- A position without a rejection reads as accepted. -/
theorem rejection_eq_none_iff (run : BindingRun) (errs : List (String × String)) (refIdx : ℕ) :
    rejection ⟨run.info, errs⟩ refIdx = none ↔ ¬ RejectedAt run refIdx := by
  unfold rejection RejectedAt
  rw [lookup_bindingResults, Option.filter_eq_none_iff]
  constructor
  · intro h hrejected
    obtain ⟨entry, binding, hentry, hok, hturned⟩ := hrejected
    have hbinding := outcome_binding_eq_some.mpr hok
    have hfalse := (accepted_turnDown run binding.result).mpr (by simpa using hturned)
    have hresult := h (turnDown run binding.result) (by simp [hentry, hbinding])
    simp [hfalse] at hresult
  · intro h result hresult
    obtain ⟨entry, hentry, hsome⟩ := Option.bind_eq_some_iff.mp hresult
    obtain ⟨binding, hbinding, rfl⟩ := Option.map_eq_some_iff.mp hsome
    intro hrejected
    have hfalse : (turnDown run binding.result).accepted = false := by simpa using hrejected
    refine h ⟨entry, binding, hentry, outcome_binding_eq_some.mp hbinding, ?_⟩
    simpa using (accepted_turnDown run binding.result).mp hfalse

theorem buildAcceptedCondition_isTrue (generation : ℕ) (now : ℤ) (binding : StatusBinding)
    (refIdx : ℕ) (syncErr : Option String) (override : Option AcceptedConditionOverride) :
    (buildAcceptedCondition generation now binding refIdx syncErr override).status = .isTrue ↔
      rejection binding refIdx = none ∧ perParentSyncErr binding refIdx syncErr = none ∧
        override = none := by
  unfold buildAcceptedCondition
  cases rejection binding refIdx with
  | some result => simp
  | none =>
    cases perParentSyncErr binding refIdx syncErr with
    | some err => simp
    | none => cases override <;> simp

theorem acceptedTrue_buildParentStatus (update : StatusUpdate) (ref : ParentReference)
    (ns : String) (generation ruleCount refIdx : ℕ) :
    AcceptedTrue (buildParentStatus update ref ns generation ruleCount refIdx) ↔
      (acceptedCondition update generation ruleCount refIdx).status = .isTrue := by
  constructor
  · intro h
    obtain ⟨condition, hmem, htype, hstatus⟩ := h
    rw [← (of_mem_buildConditions hmem).2 htype]
    exact hstatus
  · intro h
    exact ⟨_, List.mem_cons_self, (of_buildAcceptedCondition _ _ _).1, h⟩

variable (selects : ParentReference → Bool) (controllerName : String) (reconciledGeneration : ℕ)

/-- The entries of ours that a write leaves. -/
theorem mem_writeStatus {inputs : WriteInputs} {route : RouteObject}
    {statuses : List RouteParentStatus}
    (h : writeStatus selects controllerName reconciledGeneration run inputs route = some statuses)
    {status : RouteParentStatus} (hown : status.controllerName = controllerName) :
    status ∈ statuses ↔ ∃ entry ∈ reportedRefs selects controllerName route,
      status = buildParentStatus (statusUpdate controllerName reconciledGeneration run inputs)
        entry.1 route.ns route.generation route.ruleCount entry.2 := by
  unfold writeStatus at h
  rw [Option.ite_none_right_eq_some] at h
  obtain ⟨-, h⟩ := h
  exact mem_updateRouteParentStatuses h (decide_eq_true hown)

theorem writeStatus_eq_none_iff (run : BindingRun) (inputs : WriteInputs) (route : RouteObject) :
    writeStatus selects controllerName reconciledGeneration run inputs route = none ↔
      run.referencesUs = false ∨ Superseded controllerName reconciledGeneration route := by
  unfold writeStatus updateRouteParentStatuses Superseded
  cases hrefs : run.referencesUs with
  | false => simp
  | true =>
    simp [statusUpdate, isOwn]

theorem not_rejectedAt_of_acceptedTrue (run : BindingRun) (inputs : WriteInputs) (ref : ParentReference)
    (ns : String) (generation ruleCount refIdx : ℕ) :
    AcceptedTrue (buildParentStatus (statusUpdate controllerName reconciledGeneration run inputs)
        ref ns generation ruleCount refIdx) →
      ¬ RejectedAt run refIdx := by
  intro h
  have hstatus := (acceptedTrue_buildParentStatus _ _ _ _ _ _).mp h
  have hnone := ((buildAcceptedCondition_isTrue _ _ _ _ _ _).mp hstatus).1
  exact (rejection_eq_none_iff run _ refIdx).mp hnone

/-- When nothing but the bindings speaks against it, an entry is accepted unless
its position was rejected. -/
theorem acceptedTrue_of_not_rejectedAt {refIdx : ℕ} (h : ¬ RejectedAt run refIdx)
    (ref : ParentReference) (ns : String) (generation ruleCount : ℕ) :
    AcceptedTrue (buildParentStatus (statusUpdate controllerName reconciledGeneration run {})
      ref ns generation ruleCount refIdx) := by
  apply (acceptedTrue_buildParentStatus _ _ _ _ _ _).mpr
  apply (buildAcceptedCondition_isTrue _ _ _ _ _ _).mpr
  refine ⟨(rejection_eq_none_iff run _ refIdx).mpr h, ?_, rfl⟩
  unfold perParentSyncErr
  cases (statusUpdate controllerName reconciledGeneration run {}).binding.info.parentGateways.lookup
    refIdx <;> rfl

/-- No entry of ours says `Accepted=True` without having earned it. -/
def AcceptedEarned (run : BindingRun) (route : RouteObject)
    (statuses : List RouteParentStatus) : Prop :=
  ∀ status ∈ statuses, status.controllerName = controllerName → AcceptedTrue status →
    Earned route.ns run status.parentRef

/-- Whatever else the writer is handed, `Accepted=True` is earned exactly when
every reference that gets an entry was itself found accepted or stands where a
rejected one stood. -/
theorem accepted_earned_iff (run : BindingRun) (route : RouteObject) :
    (∀ inputs statuses,
      writeStatus selects controllerName reconciledGeneration run inputs route = some statuses →
        AcceptedEarned controllerName run route statuses) ↔
    (run.referencesUs = true → ¬ Superseded controllerName reconciledGeneration route →
      ∀ entry ∈ reportedRefs selects controllerName route,
        RejectedAt run entry.2 ∨ Earned route.ns run entry.1) := by
  constructor
  · intro h hrefs hcurrent entry hentry
    by_cases hrejected : RejectedAt run entry.2
    · exact Or.inl hrejected
    · right
      cases hwrite : writeStatus selects controllerName reconciledGeneration run {} route with
      | none =>
        rcases (writeStatus_eq_none_iff _ _ _ _ _ _).mp hwrite with hnone | hstale
        · rw [hrefs] at hnone
          cases hnone
        · exact absurd hstale hcurrent
      | some statuses =>
        have hmem := (mem_writeStatus selects controllerName reconciledGeneration hwrite rfl).mpr
          ⟨entry, hentry, rfl⟩
        exact h {} statuses hwrite _ hmem rfl
          (acceptedTrue_of_not_rejectedAt controllerName reconciledGeneration hrejected _ _ _ _)
  · intro h inputs statuses hwrite status hstatus hown haccepted
    obtain ⟨entry, hentry, rfl⟩ :=
      (mem_writeStatus selects controllerName reconciledGeneration hwrite hown).mp hstatus
    have hsome : ¬ (run.referencesUs = false ∨
        Superseded controllerName reconciledGeneration route) := by
      intro hnone
      rw [(writeStatus_eq_none_iff selects controllerName reconciledGeneration run inputs
        route).mpr hnone] at hwrite
      cases hwrite
    rw [not_or, Bool.not_eq_false] at hsome
    rcases h hsome.1 hsome.2 entry hentry with hrejected | hearned
    · exact absurd hrejected (not_rejectedAt_of_acceptedTrue controllerName reconciledGeneration
        run inputs _ _ _ _ _ haccepted)
    · exact hearned

end Written

section Fixtures

def parentRef (name : String) : ParentReference := ⟨none, none, none, name, none, none⟩

def bound (name : String) (accepted : Bool) : ParentReference × Outcome :=
  (parentRef name, .ok (some ⟨⟨accepted, if accepted then .accepted else .notAllowedByListeners,
    "", []⟩, .of "edge" name⟩))

/-- The evaluation of the reference failed. -/
def failing (name : String) : ParentReference × Outcome :=
  (parentRef name, .error "failed to validate route binding against gateway")

def liveRoute (names : List String) : RouteObject :=
  ⟨"shop", 1, names.map parentRef, 1, []⟩

/-- The parents reported as accepted after a sync with these evaluations, on an
object that now has these references. -/
def reportedAccepted (evaluated : List (ParentReference × Outcome)) (names : List String) :
    Option (List String) :=
  (writeStatus (fun _ => true) "example.com/tunnel" 1 ⟨evaluated, none, false⟩ {}
    (liveRoute names)).map fun statuses =>
      (statuses.filter fun status => status.conditions.any fun condition =>
        condition.type = "Accepted" ∧ condition.status = .isTrue).map (·.parentRef.name)

/-- A failed evaluation, an inserted reference and a reordered rejected one are
each reported as accepted. -/
theorem unearned_parents_accepted :
    reportedAccepted [failing "a", bound "b" true] ["a", "b"] = some ["a", "b"] ∧
      reportedAccepted [bound "b" true] ["c", "b"] = some ["c", "b"] ∧
      reportedAccepted [bound "a" false, bound "b" true] ["b", "a"] = some ["a"] := by
  decide +kernel

end Fixtures

end TunnelGateway.EarnedStatus
