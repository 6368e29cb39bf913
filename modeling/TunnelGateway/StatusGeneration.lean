import TunnelGateway.Execution
import TunnelGateway.RouteStatus
import TunnelGateway.VersionedStore

/-!
The status of one route under edits of its spec and any number of concurrent
reconciles. A reconcile lists the route, computes its conclusions from that
snapshot and then tries to write them: an attempt reads the object again, skips
the write when a newer reconcile owns the status, and repeats after a conflict.
Both reads are served from a cache, so either may return any earlier version.
-/
namespace TunnelGateway.StatusGeneration

open Execution GatewayApi RouteStatus VersionedStore

/-- A stored route. The generation its own entries were computed from is not
part of the object; it is kept beside it to state what a write replaces. -/
structure Stored where
  route : RouteObject
  computedFrom : ℕ

/-- A reconcile between its snapshot and the end of its status write. -/
structure Reconcile where
  snapshot : RouteObject
  conclusions : StatusUpdate

structure System where
  store : Store Stored
  running : ℕ → Option Reconcile

inductive Action where
  | edit (parentRefs : List ParentReference) (ruleCount : ℕ)
  /-- A write of the metadata or of the entries of other controllers. -/
  | touch (parents : List RouteParentStatus)
  /-- Reconcile `id` lists the `n`-th newest version and concludes from it. -/
  | list (id n : ℕ) (conclude : RouteObject → StatusUpdate)
  /-- Reconcile `id` reads the `n`-th newest version and tries to write. -/
  | attempt (id n : ℕ) (selects : ParentReference → Bool)
  | giveUp (id : ℕ)

section Step

variable (controllerName : String)

/-- The writer is handed the generation of the listed route. -/
def Reconcile.update (reconcile : Reconcile) : StatusUpdate :=
  { reconcile.conclusions with
    controllerName := controllerName
    reconciledGeneration := reconcile.snapshot.generation }

inductive Outcome where
  | skipped
  | conflict
  | written (store : Store Stored)

/-- One pass of the retry loop in `updateRouteStatusGeneric`. -/
def attempt (selects : ParentReference → Bool) (reconcile : Reconcile) (read : Versioned Stored)
    (store : Store Stored) : Outcome :=
  match updateRouteParentStatuses selects (reconcile.update controllerName) read.value.route with
  | none => .skipped
  | some parents =>
      match store.update read
        ⟨{ read.value.route with parents := parents }, reconcile.snapshot.generation⟩ with
      | none => .conflict
      | some store' => .written store'

def System.setRunning (s : System) (id : ℕ) (reconcile : Option Reconcile) : System :=
  { s with running := Function.update s.running id reconcile }

def System.write (s : System) (stored : Stored) : System := { s with store := s.store.put stored }

/-- The spec of a route that is edited; its status stays. -/
def edited (stored : Stored) (parentRefs : List ParentReference) (ruleCount : ℕ) : Stored :=
  { stored with
    route := { stored.route with
      generation := stored.route.generation + 1
      parentRefs := parentRefs
      ruleCount := ruleCount } }

def step : Action → System → Option System
  | .edit parentRefs ruleCount, s => some (s.write (edited s.store.current.value parentRefs ruleCount))
  | .touch parents, s =>
      let stored := s.store.current.value
      if parents.filter (isOwn controllerName) = stored.route.parents.filter (isOwn controllerName)
      then some (s.write { stored with route := { stored.route with parents := parents } })
      else none
  | .list id n conclude, s =>
      match s.running id with
      | some _ => none
      | none => s.store.history[n]?.map fun read =>
          s.setRunning id (some ⟨read.value.route, conclude read.value.route⟩)
  | .attempt id n selects, s =>
      (s.running id).bind fun reconcile => s.store.history[n]?.map fun read =>
        match attempt controllerName selects reconcile read s.store with
        | .skipped => s.setRunning id none
        | .conflict => s
        | .written store' => { s.setRunning id none with store := store' }
  | .giveUp id, s => some (s.setRunning id none)

/-- A route as it is created: it has no status yet. -/
def created (ns : String) (parentRefs : List ParentReference) (ruleCount : ℕ) : System :=
  ⟨.create ⟨⟨ns, 1, parentRefs, ruleCount, []⟩, 0⟩, fun _ => none⟩

/-- The states every interleaving of edits and reconciles leads to. -/
def Reachable (s : System) : Prop :=
  ∃ ns parentRefs ruleCount,
    Exec (step controllerName) Unguarded (created ns parentRefs ruleCount) s

end Step

section Invariant

/-- A later state of the route: an unchanged generation is an unchanged spec. -/
structure Supersedes (newer older : RouteObject) : Prop where
  generation_le : older.generation ≤ newer.generation
  same_spec : older.generation = newer.generation →
    older.parentRefs = newer.parentRefs ∧ older.ruleCount = newer.ruleCount

theorem Supersedes.refl (route : RouteObject) : Supersedes route route :=
  ⟨le_rfl, fun _ => ⟨rfl, rfl⟩⟩

theorem Supersedes.trans {a b c : RouteObject} (hab : Supersedes a b) (hbc : Supersedes b c) :
    Supersedes a c := by
  refine ⟨hbc.generation_le.trans hab.generation_le, ?_⟩
  intro hsame
  have hlow := hbc.generation_le
  have hhigh := hab.generation_le
  obtain ⟨hrefs, hcount⟩ := hab.same_spec (by omega)
  obtain ⟨hrefs', hcount'⟩ := hbc.same_spec (by omega)
  exact ⟨hrefs'.trans hrefs, hcount'.trans hcount⟩

def Later (newer older : Stored) : Prop := Supersedes newer.route older.route

instance : IsPreorder Stored Later where
  refl stored := .refl stored.route
  trans _ _ _ := Supersedes.trans

variable (controllerName : String)

/-- Our entries are stamped at or after the generation they were computed from. -/
def Stamped (stored : Stored) : Prop :=
  ∀ status ∈ stored.route.parents, isOwn controllerName status = true →
    ∀ condition ∈ status.conditions, stored.computedFrom ≤ condition.observedGeneration

structure Inv (s : System) : Prop where
  along : s.store.Along Later
  stamped : Stamped controllerName s.store.current.value
  snapshots : ∀ id reconcile, s.running id = some reconcile →
    Supersedes s.store.current.value.route reconcile.snapshot

variable {controllerName} {s s' : System}

theorem Inv.write (h : Inv controllerName s) {stored : Stored}
    (hlater : Later stored s.store.current.value) (hstamped : Stamped controllerName stored) :
    Inv controllerName (s.write stored) := by
  refine ⟨h.along.put hlater, hstamped, ?_⟩
  intro id reconcile hrunning
  exact Supersedes.trans hlater (h.snapshots id reconcile hrunning)

theorem Inv.setRunning (h : Inv controllerName s) (id : ℕ) {reconcile : Option Reconcile}
    (hsnapshot : ∀ started ∈ reconcile,
      Supersedes s.store.current.value.route started.snapshot) :
    Inv controllerName (s.setRunning id reconcile) := by
  refine ⟨h.along, h.stamped, ?_⟩
  intro other found hrunning
  by_cases hid : other = id
  · subst hid
    exact hsnapshot found (by simpa [System.setRunning] using hrunning)
  · exact h.snapshots other found (by simpa [System.setRunning, hid] using hrunning)

variable {selects : ParentReference → Bool} {reconcile : Reconcile}

/-- A write replaces the very object its attempt has read. -/
theorem attempt_written {read : Versioned Stored} {store store' : Store Stored}
    (hread : read ∈ store.history)
    (h : attempt controllerName selects reconcile read store = .written store') :
    ∃ parents, updateRouteParentStatuses selects (reconcile.update controllerName)
        store.current.value.route = some parents ∧
      store' = store.put
        ⟨{ store.current.value.route with parents := parents }, reconcile.snapshot.generation⟩ := by
  unfold attempt at h
  split at h
  · cases h
  · rename_i parents hparents
    split at h
    · cases h
    · rename_i found hupdate
      cases h
      obtain ⟨rfl, hput⟩ := Store.of_update hread hupdate
      exact ⟨parents, hparents, hput⟩

/-- What is written is stamped with the generation it replaces, and that one is
not before the snapshot. -/
theorem stamped_of_write {route : RouteObject} {parents : List RouteParentStatus}
    (h : updateRouteParentStatuses selects (reconcile.update controllerName) route = some parents)
    (hsnapshot : Supersedes route reconcile.snapshot) :
    Stamped controllerName ⟨{ route with parents := parents }, reconcile.snapshot.generation⟩ := by
  intro status hstatus hown condition hcondition
  have hstamp := observedGeneration_of_write h hstatus hown hcondition
  rw [hstamp]
  exact hsnapshot.generation_le

theorem inv_step {a : Action} (h : Inv controllerName s) (hstep : step controllerName a s = some s') :
    Inv controllerName s' := by
  cases a with
  | edit parentRefs ruleCount =>
    cases hstep
    exact h.write ⟨Nat.le_succ _, fun hsame => absurd hsame (Nat.lt_succ_self _).ne⟩ h.stamped
  | touch parents =>
    simp only [step, Option.ite_none_right_eq_some, Option.some.injEq] at hstep
    obtain ⟨hsame, rfl⟩ := hstep
    refine h.write ⟨le_rfl, fun _ => ⟨rfl, rfl⟩⟩ ?_
    intro status hstatus hown
    have hkept : status ∈ s.store.current.value.route.parents.filter (isOwn controllerName) :=
      hsame ▸ List.mem_filter.mpr ⟨hstatus, hown⟩
    exact h.stamped status (List.mem_filter.mp hkept).1 hown
  | list id n conclude =>
    simp only [step] at hstep
    split at hstep
    · cases hstep
    · obtain ⟨read, hread, rfl⟩ := Option.map_eq_some_iff.mp hstep
      apply h.setRunning
      intro started hstarted
      cases hstarted
      exact h.along.of_mem (List.mem_of_getElem? hread)
  | attempt id n selects =>
    obtain ⟨reconcile, hrunning, hstep⟩ := Option.bind_eq_some_iff.mp hstep
    obtain ⟨read, hread, rfl⟩ := Option.map_eq_some_iff.mp hstep
    have hended : Inv controllerName (s.setRunning id none) :=
      h.setRunning id fun started hstarted => by cases hstarted
    cases hattempt : attempt controllerName selects reconcile read s.store with
    | skipped => exact hended
    | conflict => exact h
    | written store' =>
      obtain ⟨parents, hparents, rfl⟩ := attempt_written (List.mem_of_getElem? hread) hattempt
      have hstamped := stamped_of_write hparents (h.snapshots id reconcile hrunning)
      exact hended.write ⟨le_rfl, fun _ => ⟨rfl, rfl⟩⟩ hstamped
  | giveUp id =>
    cases hstep
    exact h.setRunning id fun started hstarted => by cases hstarted

theorem inv_of_reachable (h : Reachable controllerName s) : Inv controllerName s := by
  obtain ⟨ns, parentRefs, ruleCount, run⟩ := h
  refine run.invariant (fun _ _ _ hinv _ hstep => inv_step hinv hstep)
    ⟨Store.along_create _ _, ?_, ?_⟩
  · intro status hstatus
    exact absurd hstatus List.not_mem_nil
  · intro id reconcile hrunning
    cases hrunning

end Invariant

section Honesty

/-- Every condition of a write is stamped with the generation of the object it
replaces. That is the generation it was computed from, or a later one if the
spec was edited since; under an equal generation the spec is the one of the
snapshot. What the write replaces was not computed from a later generation. -/
theorem write_stamps_replaced_generation (controllerName : String) {s : System}
    (hs : Reachable controllerName s) {id : ℕ} {reconcile : Reconcile}
    (hrunning : s.running id = some reconcile) {read : Versioned Stored}
    (hread : read ∈ s.store.history) {selects : ParentReference → Bool} {store : Store Stored}
    (hwritten : attempt controllerName selects reconcile read s.store = .written store) :
    (∀ status ∈ store.current.value.route.parents, isOwn controllerName status = true →
      ∀ condition ∈ status.conditions,
        condition.observedGeneration = s.store.current.value.route.generation) ∧
    Supersedes s.store.current.value.route reconcile.snapshot ∧
    ∀ status ∈ s.store.current.value.route.parents, isOwn controllerName status = true →
      status.conditions ≠ [] → s.store.current.value.computedFrom ≤ reconcile.snapshot.generation := by
  have hinv := inv_of_reachable hs
  obtain ⟨parents, hparents, rfl⟩ := attempt_written hread hwritten
  refine ⟨?_, hinv.snapshots id reconcile hrunning, ?_⟩
  · intro status hstatus hown condition hcondition
    exact observedGeneration_of_write hparents hstatus hown hcondition
  · intro status hstatus hown hconditions
    obtain ⟨condition, hcondition⟩ := List.exists_mem_of_ne_nil _ hconditions
    calc s.store.current.value.computedFrom
        ≤ condition.observedGeneration := hinv.stamped status hstatus hown condition hcondition
      _ ≤ reconcile.snapshot.generation :=
        observedGeneration_le_of_write hparents hstatus hown hcondition

def edgeRef : ParentReference := ⟨none, none, none, "edge", none, none⟩

def concludeAccepted (_ : RouteObject) : StatusUpdate :=
  { controllerName := "", reconciledGeneration := 0, binding := ⟨.empty, []⟩ }

/-- Two reconciles list the first generation; one of them writes, and the spec
is edited before the other does. -/
def overtaken : List Action :=
  [.list 0 0 concludeAccepted, .list 1 0 concludeAccepted, .attempt 1 0 fun _ => true,
    .edit [edgeRef] 2]

/-- The conditions of our entries. -/
def ownConditions (controllerName : String) (stored : Stored) : List Condition :=
  (stored.route.parents.filter (isOwn controllerName)).flatMap (·.conditions)

theorem exists_overtaken : ∃ s reconcile store,
    Reachable "tunnel" s ∧ s.running 0 = some reconcile ∧
    attempt "tunnel" (fun _ => true) reconcile s.store.current s.store = .written store ∧
    ownConditions "tunnel" s.store.current.value ≠ [] ∧
    ∃ condition ∈ ownConditions "tunnel" store.current.value,
      reconcile.snapshot.generation < condition.observedGeneration := by
  have hrun : ((execute (step "tunnel") overtaken (created "default" [edgeRef] 1)).any fun s =>
      (s.running 0).any fun reconcile =>
        match attempt "tunnel" (fun _ => true) reconcile s.store.current s.store with
        | .written store =>
            ownConditions "tunnel" s.store.current.value ≠ [] ∧
            ∃ condition ∈ ownConditions "tunnel" store.current.value,
              reconcile.snapshot.generation < condition.observedGeneration
        | _ => False) = true := by
    decide +kernel
  obtain ⟨s, hs, hrun⟩ := (Option.any_eq_true _ _).mp hrun
  obtain ⟨reconcile, hrunning, hrun⟩ := (Option.any_eq_true _ _).mp hrun
  split at hrun
  · rename_i store hwritten
    obtain ⟨hheld, hahead⟩ := of_decide_eq_true hrun
    exact ⟨s, reconcile, store, ⟨_, _, _, exec_of_execute hs⟩, hrunning, hwritten, hheld, hahead⟩
  · cases hrun

theorem overtaken_write_stamps : ∃ s reconcile store,
    Reachable "tunnel" s ∧ s.running 0 = some reconcile ∧
    attempt "tunnel" (fun _ => true) reconcile s.store.current s.store = .written store ∧
    ownConditions "tunnel" s.store.current.value ≠ [] ∧
    (∀ status ∈ store.current.value.route.parents, isOwn "tunnel" status = true →
      ∀ condition ∈ status.conditions,
        condition.observedGeneration = s.store.current.value.route.generation) ∧
    Supersedes s.store.current.value.route reconcile.snapshot ∧
    ∀ status ∈ s.store.current.value.route.parents, isOwn "tunnel" status = true →
      status.conditions ≠ [] →
        s.store.current.value.computedFrom ≤ reconcile.snapshot.generation := by
  obtain ⟨s, reconcile, store, hs, hrunning, hwritten, hheld, -⟩ := exists_overtaken
  exact ⟨s, reconcile, store, hs, hrunning, hwritten, hheld,
    write_stamps_replaced_generation "tunnel" hs hrunning List.mem_cons_self hwritten⟩

/-- A condition concluded from the first generation is stamped with the second. -/
theorem stale_conclusion_stamped_current : ∃ s reconcile store,
    Reachable "tunnel" s ∧ s.running 0 = some reconcile ∧
    attempt "tunnel" (fun _ => true) reconcile s.store.current s.store = .written store ∧
    ∃ status ∈ store.current.value.route.parents, isOwn "tunnel" status = true ∧
      ∃ condition ∈ status.conditions,
        reconcile.snapshot.generation < condition.observedGeneration := by
  obtain ⟨s, reconcile, store, hs, hrunning, hwritten, -, condition, hmem, hahead⟩ :=
    exists_overtaken
  obtain ⟨status, hstatus, hcondition⟩ := List.mem_flatMap.mp hmem
  obtain ⟨hparent, hown⟩ := List.mem_filter.mp hstatus
  exact ⟨s, reconcile, store, hs, hrunning, hwritten, status, hparent, hown, condition, hcondition,
    hahead⟩

end Honesty

end TunnelGateway.StatusGeneration
