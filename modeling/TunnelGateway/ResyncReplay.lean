import TunnelGateway.SkipKey

/-!
Replaying the configuration of a finished push. A run that finds a replica ahead
of the process counter delivers its payload under a fresh version, but the syncer
caches the configuration under the version it was built with. A replay sends that
version, so it reaches the replicas that were not ahead and is turned down by the
others, whose version the counter has passed by then.
-/
namespace TunnelGateway.ResyncReplay

open Execution Pusher PushState

section Guards

variable {C E K : Type*}

/-- The step does not wrap the counter. -/
def NoWrap {R : Type*} (s : Pusher.State C E R) : Pusher.Action C E R → Prop
  | .build _ | .burn | .add _ => s.counter < maxInt64
  | .bumpCAS r => ∀ run ∈ s.runs r, ∀ pv ∈ run.phase.swapTarget, pv < maxInt64
  | _ => True

/-- The exchange of the step completes. -/
def Completes {R : Type*} : Pusher.Action C E R → Prop
  | .put _ net | .retry _ net => net = .complete
  | .fetch _ ok => ok = true
  | _ => True

/-- Only the runs of call `k` act; other partitions may take versions. On a working
network every exchange completes. -/
def OnlyCall (k : K) (lossy : Bool) (s : PushState.State C E K) : PushState.Action C E K → Prop
  | .start k' _ => k' = k
  | .push a => (a = .burn ∨ ∃ i, a.run? = some (k, i)) ∧ NoWrap s.push a ∧
      (lossy = false → Completes a)
  | _ => False

/-- Nothing happens to the partition. -/
def OnlyOthers (s : PushState.State C E K) : PushState.Action C E K → Prop
  | .push a => a = .burn ∧ NoWrap s.push a
  | _ => False

end Guards

section Endpoint

/-- How one call finds and leaves an endpoint. The call delivers build `build` of version
`version`; `found` is the replica and `floor` the counter when the call begins. -/
structure Delivery where
  build : ℕ
  version : ℤ
  floor : ℤ
  lossy : Bool
  version_pos : 0 < version
  version_le : version ≤ floor

variable (d : Delivery)

/-- The replica rejects the configuration's own version. -/
def Delivery.Ahead (found : Replica) : Prop := d.version < found.version

/-- And the counter is not past it, so that a run may recover. -/
def Delivery.Recovers (found : Replica) : Prop := d.floor < found.version

/-- The replica under way: as it was found, or delivered to. -/
structure Delivery.ReplicaOk (counter : ℤ) (found replica : Replica) : Prop where
  level : ¬ d.Ahead found → ¬ d.Ahead replica
  ahead : d.Ahead found → d.Ahead replica
  kept : d.Ahead found → ¬ d.Recovers found → replica = found
  delivered : replica = found ∨ replica.held = some d.build ∧ replica.version ≤ counter

/-- Where a run at the endpoint can stand. -/
def Delivery.PhaseOk (counter : ℤ) (found replica : Replica) : Phase → Prop
  | .put => True
  | .fetch => d.Ahead found
  | .check pv => d.Ahead found ∧ (¬ d.Recovers found → pv = found.version)
  | .bumpLoad _ | .add => d.Recovers found
  | .bumpCAS pv current => d.Recovers found ∧ current ≤ pv
  | .retry v => d.Recovers found ∧ d.version < v ∧ v ≤ counter
  | .done true => replica.held = some d.build ∧ (d.Ahead found → d.Recovers found)
  | .done false => d.lossy = true ∨ d.Ahead found

variable {d} {counter counter' : ℤ} {found replica replica' : Replica}

theorem Delivery.Recovers.ahead (h : d.Recovers found) : d.Ahead found :=
  lt_of_le_of_lt d.version_le h

theorem Delivery.ReplicaOk.mono (h : d.ReplicaOk counter found replica)
    (hcounter : counter ≤ counter') : d.ReplicaOk counter' found replica :=
  { h with delivered := h.delivered.imp id fun hd => ⟨hd.1, hd.2.trans hcounter⟩ }

/-- A run keeps its place when the counter grows and another run delivers. -/
theorem Delivery.PhaseOk.mono {phase : Phase} (h : d.PhaseOk counter found replica phase)
    (hcounter : counter ≤ counter')
    (hheld : replica.held = some d.build → replica'.held = some d.build) :
    d.PhaseOk counter' found replica' phase := by
  cases phase with
  | put => exact h
  | fetch => exact h
  | check pv => exact h
  | bumpLoad pv => exact h
  | bumpCAS pv current => exact h
  | add => exact h
  | retry v => exact ⟨h.1, h.2.1, h.2.2.trans hcounter⟩
  | done success =>
    cases success with
    | true => exact ⟨hheld h.1, h.2⟩
    | false => exact h

/-- A replica that takes the configuration's own version was not ahead. -/
theorem Delivery.ReplicaOk.accept_own (h : d.ReplicaOk counter found replica)
    (hcounter : d.version ≤ counter) (hfresh : replica.version ≤ d.version) :
    ¬ d.Ahead found ∧ d.ReplicaOk counter found ⟨d.version, some d.build⟩ := by
  have hnot : ¬ d.Ahead found := fun hahead => absurd (h.ahead hahead) (not_lt_of_ge hfresh)
  refine ⟨hnot, fun _ => lt_irrefl _, fun hahead => absurd hahead hnot,
    fun hahead => absurd hahead hnot, .inr ⟨rfl, hcounter⟩⟩

end Endpoint

section Underway

variable {C E K : Type*}

/-- The runs of one call and the endpoints they serve. -/
structure Underway (d : Delivery) (content : C) (k : K) (endpoints : List E)
    (found : E → Replica) (s : Pusher.State C E (K × ℕ)) : Prop where
  built : s.builds[d.build]? = some ⟨d.version, content⟩
  counter : d.floor ≤ s.counter
  replica : ∀ e, d.ReplicaOk s.counter (found e) (s.replicas e)
  run : ∀ i run, s.runs (k, i) = some run → run.build = d.build ∧
    endpoints[i]? = some run.endpoint ∧
    d.PhaseOk s.counter (found run.endpoint) (s.replicas run.endpoint) run.phase

variable {d : Delivery} {content : C} {k : K} {endpoints : List E} {found : E → Replica}
  {s t : Pusher.State C E (K × ℕ)} {i : ℕ} {run : PushRun E} {pv version : ℤ}

theorem put_of_pos {replica : Replica} (hpos : 0 < version) (build : ℕ) :
    replica.put version build =
      if version < replica.version then (.conflict, replica)
      else (.ok, ⟨version, some build⟩) := by
  rw [Replica.put, if_neg (by omega)]
  simp [hpos]

theorem step_put_accepted [DecidableEq E] [DecidableEq K] {b : Build C} {r : K × ℕ}
    (hrun : s.runs r = some run) (hphase : run.phase = .put)
    (hb : s.builds[run.build]? = some b) (hpos : 0 < b.version)
    (hfresh : ¬ b.version < (s.replicas run.endpoint).version) :
    Pusher.step (.put r .complete) s =
      some ((s.setReplica run.endpoint ⟨b.version, some run.build⟩).setPhase r run
        (.done true)) := by
  simp [Pusher.step, Action.run?, hrun, stepRun, hphase, hb,
    State.exchange, put_of_pos hpos, if_neg hfresh]

variable (h : Underway d content k endpoints found s)

include h

theorem Underway.version_le : d.version ≤ s.counter := d.version_le.trans h.counter

theorem Underway.nonneg : 0 ≤ s.counter := d.version_pos.le.trans h.version_le

/-- The counter grows, some replica may be delivered to, and no run moves. -/
theorem Underway.mono (hbuilds : t.builds = s.builds) (hruns : t.runs = s.runs)
    (hcounter : s.counter ≤ t.counter)
    (hreplicas : ∀ e, t.replicas e = s.replicas e ∨ (t.replicas e).held = some d.build ∧
      d.ReplicaOk t.counter (found e) (t.replicas e)) :
    Underway d content k endpoints found t where
  built := by rw [hbuilds]; exact h.built
  counter := h.counter.trans hcounter
  replica e := by
    rcases hreplicas e with hsame | ⟨-, hok⟩
    · rw [hsame]
      exact (h.replica e).mono hcounter
    · exact hok
  run i run hrun := by
    rw [hruns] at hrun
    obtain ⟨hbuild, hendpoint, hphase⟩ := h.run i run hrun
    refine ⟨hbuild, hendpoint, hphase.mono hcounter fun hheld => ?_⟩
    rcases hreplicas run.endpoint with hsame | ⟨hdelivered, -⟩
    · rw [hsame]
      exact hheld
    · exact hdelivered

theorem Underway.grow (counter : ℤ) (hcounter : s.counter ≤ counter) :
    Underway d content k endpoints found { s with counter := counter } :=
  h.mono rfl rfl hcounter fun _ => .inl rfl

section Run

variable (hrun : s.runs (k, i) = some run)

include hrun

theorem Underway.place {phase : Phase} (hphase : run.phase = phase) :
    d.PhaseOk s.counter (found run.endpoint) (s.replicas run.endpoint) phase :=
  hphase ▸ (h.run i run hrun).2.2

variable [DecidableEq K]

/-- One run moves to a phase it may be in. -/
theorem Underway.setPhase {phase : Phase}
    (hphase : d.PhaseOk s.counter (found run.endpoint) (s.replicas run.endpoint) phase) :
    Underway d content k endpoints found (s.setPhase (k, i) run phase) where
  built := h.built
  counter := h.counter
  replica := h.replica
  run j run' hrun' := by
    rcases runs_setRun hrun' with ⟨heq, rfl⟩ | ⟨-, hold⟩
    · cases heq
      obtain ⟨hbuild, hendpoint, -⟩ := h.run i run hrun
      exact ⟨hbuild, hendpoint, hphase⟩
    · exact h.run j run' hold

/-- A run whose replica is not ahead of the counter gives up here. -/
theorem Underway.check (hphase : run.phase = .check pv) :
    Underway d content k endpoints found (s.setPhase (k, i) run
      (if pv ≤ s.counter then .done false else .bumpLoad pv)) := by
  obtain ⟨hahead, hread⟩ := h.place hrun hphase
  apply h.setPhase hrun
  split
  · exact .inr hahead
  · next hpast =>
    by_contra hnot
    have hfloor : (found run.endpoint).version ≤ d.floor := not_lt.mp hnot
    have hread := hread hnot
    have hcounter := h.counter
    omega

theorem Underway.fetch (hphase : run.phase = .fetch) (ok : Bool) :
    Underway d content k endpoints found (s.setPhase (k, i) run
      (if ok then .check (s.replicas run.endpoint).version else .done false)) := by
  have hok := h.place hrun hphase
  apply h.setPhase hrun
  split
  · refine ⟨hok, fun hnot => ?_⟩
    rw [(h.replica run.endpoint).kept hok hnot]
  · exact .inr hok

theorem Underway.bumpLoad (hphase : run.phase = .bumpLoad pv) :
    Underway d content k endpoints found (s.setPhase (k, i) run
      (if pv < s.counter then .add else .bumpCAS pv s.counter)) := by
  have hok := h.place hrun hphase
  apply h.setPhase hrun
  split
  · exact hok
  · next hle => exact ⟨hok, not_lt.mp hle⟩

theorem Underway.swap (hphase : run.phase = .bumpCAS pv s.counter)
    (hwrap : pv < maxInt64) :
    Underway d content k endpoints found
      ({ s with counter := wrap64 (pv + 1) }.setPhase (k, i) run .add) := by
  obtain ⟨hrecovers, hle⟩ := h.place hrun hphase
  rw [wrap64_succ (h.nonneg.trans hle) hwrap]
  exact (h.grow (pv + 1) (by omega)).setPhase hrun hrecovers

theorem Underway.add (hphase : run.phase = .add) (hwrap : s.counter < maxInt64) :
    Underway d content k endpoints found
      ({ s with counter := wrap64 (s.counter + 1) }.setPhase (k, i) run
        (.retry (wrap64 (s.counter + 1)))) := by
  have hrecovers := h.place hrun hphase
  have hcounter := h.version_le
  rw [wrap64_succ h.nonneg hwrap]
  exact (h.grow (s.counter + 1) (by omega)).setPhase hrun ⟨hrecovers, by omega, le_rfl⟩

variable [DecidableEq E] {net : Network} (hnet : d.lossy = false → net = .complete)

include hnet

/-- A PUT of the run reaches the replica or leads where a conflict leads. -/
theorem Underway.exchange {onConflict : Phase} (hpos : 0 < version)
    (haccept : (s.replicas run.endpoint).version ≤ version →
      d.ReplicaOk s.counter (found run.endpoint) ⟨version, some d.build⟩ ∧
        (d.Ahead (found run.endpoint) → d.Recovers (found run.endpoint)))
    (hconflict : version < (s.replicas run.endpoint).version →
      d.PhaseOk s.counter (found run.endpoint) (s.replicas run.endpoint) onConflict) :
    Underway d content k endpoints found (s.exchange (k, i) run version net onConflict) := by
  have hbuild := (h.run i run hrun).1
  have hdelivered : (s.replicas run.endpoint).version ≤ version →
      Underway d content k endpoints found (s.setReplica run.endpoint ⟨version, some d.build⟩) := by
    intro hfresh
    refine h.mono rfl rfl le_rfl fun e => ?_
    by_cases he : e = run.endpoint
    · subst he
      rw [replicas_setReplica_self]
      exact .inr ⟨rfl, (haccept hfresh).1⟩
    · exact .inl (replicas_setReplica_of_ne s _ he)
  have hlossy : net ≠ .complete → d.lossy = true := by
    intro hne
    by_contra hsafe
    exact hne (hnet (Bool.eq_false_iff.mpr hsafe))
  cases net with
  | refused => exact h.setPhase hrun (.inl (hlossy nofun))
  | replyLost =>
    have hlossy := hlossy nofun
    simp only [State.exchange, put_of_pos hpos, hbuild]
    by_cases hstale : version < (s.replicas run.endpoint).version
    · simp only [if_pos hstale, PushOrder.setReplica_self]
      exact h.setPhase hrun (.inl hlossy)
    · simp only [if_neg hstale]
      exact (hdelivered (not_lt.mp hstale)).setPhase hrun (.inl hlossy)
  | complete =>
    simp only [State.exchange, put_of_pos hpos, hbuild]
    by_cases hstale : version < (s.replicas run.endpoint).version
    · simp only [if_pos hstale]
      exact h.setPhase hrun (hconflict hstale)
    · simp only [if_neg hstale]
      refine (hdelivered (not_lt.mp hstale)).setPhase hrun ⟨?_, (haccept (not_lt.mp hstale)).2⟩
      rw [replicas_setReplica_self]

/-- The PUT of the configuration's own version. -/
theorem Underway.put {b : Build C} (hb : s.builds[run.build]? = some b) :
    Underway d content k endpoints found (s.exchange (k, i) run b.version net .fetch) := by
  have hversion : b.version = d.version := by
    rw [(h.run i run hrun).1, h.built, Option.some.injEq] at hb
    rw [← hb]
  rw [hversion]
  have hreplica := h.replica run.endpoint
  refine h.exchange hrun hnet d.version_pos ?_ ?_
  · intro hfresh
    obtain ⟨hnot, hok⟩ := hreplica.accept_own h.version_le hfresh
    exact ⟨hok, fun hahead => absurd hahead hnot⟩
  · intro hstale
    by_contra hnot
    exact hreplica.level hnot hstale

/-- The PUT of a fresh version. -/
theorem Underway.retry {v : ℤ} (hphase : run.phase = .retry v) :
    Underway d content k endpoints found (s.exchange (k, i) run v net (.done false)) := by
  obtain ⟨hrecovers, hv, hcounter⟩ := h.place hrun hphase
  refine h.exchange hrun hnet (d.version_pos.trans hv) ?_ ?_
  · intro _
    exact ⟨⟨fun hnot => absurd hrecovers.ahead hnot, fun _ => hv,
      fun _ hnot => absurd hrecovers hnot, .inr ⟨rfl, hcounter⟩⟩, fun _ => hrecovers⟩
  · intro _
    exact .inr hrecovers.ahead

end Run

variable [DecidableEq K] [DecidableEq E]

/-- A run of the call starts. -/
theorem Underway.start {e : E} (he : endpoints[i]? = some e)
    (hstep : Pusher.step (.start (k, i) e d.build) s = some t) :
    Underway d content k endpoints found t := by
  simp only [Pusher.step] at hstep
  split at hstep
  · cases hstep
    refine ⟨h.built, h.counter, h.replica, ?_⟩
    intro j run hrun
    rcases runs_setRun hrun with ⟨heq, rfl⟩ | ⟨-, hold⟩
    · cases heq
      exact ⟨rfl, he, trivial⟩
    · exact h.run j run hold
  · cases hstep

/-- What one step of the call, or of another partition, keeps. -/
theorem Underway.step {a : Pusher.Action C E (K × ℕ)}
    (hown : a = .burn ∨ ∃ i, a.run? = some (k, i)) (hwrap : NoWrap s a)
    (hnet : d.lossy = false → Completes a) (hstep : Pusher.step a s = some t) :
    Underway d content k endpoints found t := by
  rcases hown with rfl | ⟨i, hi⟩
  · cases hstep
    rw [wrap64_succ h.nonneg hwrap]
    exact h.grow (s.counter + 1) (by omega)
  · obtain ⟨run, hrun, hmove⟩ := exists_runStep hi hstep
    cases hmove with
    | put net hphase hbuild => exact h.put hrun hnet hbuild
    | fetch ok hphase => exact h.fetch hrun hphase ok
    | check hphase => exact h.check hrun hphase
    | bumpLoad hphase => exact h.bumpLoad hrun hphase
    | swap hphase => exact h.swap hrun hphase (hwrap run hrun _ (by rw [hphase]; rfl))
    | reload hphase hmoved =>
      exact h.setPhase hrun (h.place hrun hphase).1
    | add hphase => exact h.add hrun hphase hwrap
    | retry net hphase => exact h.retry hrun hnet hphase

end Underway

section Calls

variable {C E K : Type*} {d : Delivery} {content : C} {k : K} {found : E → Replica}

/-- A call begins with the replicas it finds and no run of its own. -/
theorem Underway.init {s : Pusher.State C E (K × ℕ)} {endpoints : List E}
    (hbuilt : s.builds[d.build]? = some ⟨d.version, content⟩) (hcounter : d.floor ≤ s.counter)
    (hruns : ∀ i, s.runs (k, i) = none) (hfound : s.replicas = found) :
    Underway d content k endpoints found s where
  built := hbuilt
  counter := hcounter
  replica _ := by
    rw [hfound]
    exact ⟨id, id, fun _ _ => rfl, .inl rfl⟩
  run i run hrun := by
    rw [hruns i] at hrun
    cases hrun

/-- A call of the partition under way; the syncer's own state waits for its end. -/
structure InCall (d : Delivery) (content : C) (k : K) (call : Call E) (found : E → Replica)
    (target : Option (PushTarget E)) (lock : Option K) (s : PushState.State C E K) : Prop where
  underway : Underway d content k call.endpoints found s.push
  call : s.calls k = some call
  target : s.target = target
  lock : s.lock = lock

variable {hash : C → String} {call : Call E} {target : Option (PushTarget E)} {lock : Option K}
  {s s' : PushState.State C E K} {p : Pusher.State C E (K × ℕ)}

theorem outcome_eq_true {n : ℕ}
    (h : ∀ i < n, ∃ run, p.runs (k, i) = some run ∧ run.phase = .done true) :
    outcome p k n = some true := by
  induction n with
  | zero => rfl
  | succ n ih =>
    obtain ⟨⟨e, c, phase⟩, hrun, rfl⟩ := h n (Nat.lt_succ_self n)
    rw [outcome, ih fun i hi => h i (Nat.lt_succ_of_lt hi), hrun]
    rfl

variable (h : InCall d content k call found target lock s)

include h

/-- Every endpoint of a successful call was delivered to. -/
theorem InCall.delivered (hsuccess : outcome s.push k call.endpoints.length = some true) {e : E}
    (he : e ∈ call.endpoints) :
    (s.push.replicas e).held = some d.build ∧ (d.Ahead (found e) → d.Recovers (found e)) := by
  obtain ⟨i, hi⟩ := List.mem_iff_getElem?.mp he
  obtain ⟨run, ok, hrun, hphase, hok⟩ := SkipKey.outcome_done hsuccess i
    (List.getElem?_eq_some_iff.mp hi).1
  obtain ⟨-, hendpoint, hplace⟩ := h.underway.run i run hrun
  rw [hi, Option.some.injEq] at hendpoint
  rw [hphase, hok rfl, ← hendpoint] at hplace
  exact hplace

/-- On a working network, a call none of whose replicas lets a run recover succeeds exactly
when none of them is ahead. -/
theorem InCall.outcome_iff (hlossless : d.lossy = false)
    (hpast : ∀ e ∈ call.endpoints, ¬ d.Recovers (found e)) {ok : Bool}
    (houtcome : outcome s.push k call.endpoints.length = some ok) :
    ok = true ↔ ∀ e ∈ call.endpoints, ¬ d.Ahead (found e) := by
  constructor
  · rintro rfl e he hahead
    exact hpast e he ((h.delivered houtcome he).2 hahead)
  · intro hlevel
    have hdone : outcome s.push k call.endpoints.length = some true := by
      apply outcome_eq_true
      intro i hi
      obtain ⟨run, success, hrun, hphase, -⟩ := SkipKey.outcome_done houtcome i hi
      obtain ⟨-, hendpoint, hplace⟩ := h.underway.run i run hrun
      rw [hphase] at hplace
      cases success with
      | true => exact ⟨run, hrun, hphase⟩
      | false =>
        rcases hplace with hlossy | hahead
        · rw [hlossless] at hlossy
          cases hlossy
        · exact absurd hahead (hlevel _ (List.mem_of_getElem? hendpoint))
    rw [houtcome, Option.some.injEq] at hdone
    exact hdone

variable [DecidableEq E] [DecidableEq K] (hbuild : call.build = d.build)

include hbuild

theorem InCall.step {a : PushState.Action C E K}
    (hguard : OnlyCall k d.lossy s a) (hstep : PushState.step hash a s = some s') :
    InCall d content k call found target lock s' := by
  cases SkipKey.move_of_step hstep with
  | idle a => exact h
  | start k' i call' e push hcall hactive he hstart =>
    have hk : k' = k := hguard
    subst hk
    rw [h.call, Option.some.injEq] at hcall
    subst hcall
    rw [hbuild] at hstart
    exact ⟨h.underway.start he hstart, h.call, h.target, h.lock⟩
  | push a push ha hpush =>
    obtain ⟨hown, hwrap, hnet⟩ := hguard
    exact ⟨h.underway.step hown hwrap hnet hpush, h.call, h.target, h.lock⟩
  | skip => cases hguard
  | prepare => cases hguard
  | replay => cases hguard
  | recordPush => cases hguard
  | recordResync => cases hguard
  | evict => cases hguard

theorem InCall.exec (hexec : Exec (PushState.step hash) (OnlyCall k d.lossy) s s') :
    InCall d content k call found target lock s' :=
  hexec.invariant (fun _ _ _ h hguard hstep => h.step hbuild hguard hstep) h

/-- A run can serve an endpoint that is not ahead in two steps. -/
theorem InCall.serve (hactive : call.finished = false) {i : ℕ} {e : E}
    (he : call.endpoints[i]? = some e) (hfree : s.push.runs (k, i) = none)
    (hlevel : ¬ d.Ahead (found e)) :
    ∃ s', Exec (PushState.step hash) (OnlyCall k d.lossy) s s' ∧
      s'.push.runs = Function.update s.push.runs (k, i) (some ⟨e, d.build, .done true⟩) := by
  have hbuilt := h.underway.built
  have hfresh : ¬ d.version < (s.push.replicas e).version := (h.underway.replica e).level hlevel
  let started : PushState.State C E K :=
    { s with push := s.push.setRun (k, i) ⟨e, d.build, .put⟩ }
  have hstart : PushState.step hash (.start k i) s = some started := by
    simp only [PushState.step, h.call, Option.bind_some, hactive, he, hbuild, Pusher.step,
      hfree, hbuilt]
    rfl
  have hself : started.push.runs (k, i) = some ⟨e, d.build, .put⟩ := by
    simp [started, State.setRun]
  have hput := step_put_accepted hself rfl hbuilt d.version_pos hfresh
  have hserved := congrArg (Option.map fun push => { started with push := push }) hput
  have hguard : OnlyCall k d.lossy started (.push (.put (k, i) .complete)) :=
    ⟨.inr ⟨i, rfl⟩, trivial, fun _ => rfl⟩
  have hown : OnlyCall k d.lossy s (.start k i) := rfl
  refine ⟨_, ((Exec.refl s).tail hown hstart).tail hguard hserved, ?_⟩
  simp [started, State.setPhase, State.setRun, State.setReplica]

/-- And so a call can complete. -/
theorem InCall.completes (hactive : call.finished = false)
    (hfree : ∀ i, s.push.runs (k, i) = none)
    (hlevel : ∀ e ∈ call.endpoints, ¬ d.Ahead (found e)) :
    ∃ s', Exec (PushState.step hash) (OnlyCall k d.lossy) s s' ∧
      outcome s'.push k call.endpoints.length = some true := by
  have hfirst : ∀ n ≤ call.endpoints.length, ∃ s',
      Exec (PushState.step hash) (OnlyCall k d.lossy) s s' ∧
      (∀ i < n, ∃ run, s'.push.runs (k, i) = some run ∧ run.phase = .done true) ∧
      ∀ i, n ≤ i → s'.push.runs (k, i) = none := by
    intro n
    induction n with
    | zero =>
      intro _
      exact ⟨s, .refl s, fun i hi => absurd hi (Nat.not_lt_zero i), fun i _ => hfree i⟩
    | succ n ih =>
      intro hn
      obtain ⟨t, hexec, hdone, hrest⟩ := ih (Nat.le_of_succ_le hn)
      have he : call.endpoints[n]? = some call.endpoints[n] := List.getElem?_eq_getElem hn
      obtain ⟨u, hserve, hruns⟩ : ∃ u, Exec (PushState.step hash) (OnlyCall k d.lossy) t u ∧
          u.push.runs = Function.update t.push.runs (k, n)
            (some ⟨call.endpoints[n], d.build, .done true⟩) :=
        (h.exec hbuild hexec).serve hbuild hactive he (hrest n le_rfl)
          (hlevel _ (List.getElem_mem hn))
      refine ⟨u, hexec.trans hserve, ?_, ?_⟩
      · intro i hi
        rw [hruns]
        by_cases heq : i = n
        · subst heq
          exact ⟨_, Function.update_self .., rfl⟩
        · rw [Function.update_of_ne (by simpa using heq)]
          exact hdone i (by omega)
      · intro i hi
        rw [hruns, Function.update_of_ne (by simp; omega)]
        exact hrest i (by omega)
  obtain ⟨s', hexec, hdone, -⟩ := hfirst call.endpoints.length le_rfl
  exact ⟨s', hexec, outcome_eq_true hdone⟩

end Calls

section Replay

variable {C E K : Type*} [DecidableEq E] [DecidableEq K] {hash : C → String}
  {s s' : PushState.State C E K}

/-- What other partitions do leaves the partition as it is. -/
theorem onlyOthers_exec (hnonneg : 0 ≤ s.push.counter)
    (h : Exec (PushState.step hash) OnlyOthers s s') :
    ∃ counter, s.push.counter ≤ counter ∧
      s' = { s with push := { s.push with counter := counter } } := by
  refine h.invariant (I := fun t => ∃ counter, s.push.counter ≤ counter ∧
    t = { s with push := { s.push with counter := counter } }) ?_ ⟨_, le_rfl, rfl⟩
  intro t a u ht hguard hstep
  obtain ⟨counter, hcounter, rfl⟩ := ht
  cases a with
  | push a =>
    obtain ⟨rfl, hwrap⟩ := hguard
    cases hstep
    have hwrap' : counter < maxInt64 := hwrap
    refine ⟨counter + 1, by omega, ?_⟩
    simp [wrap64_succ (hnonneg.trans hcounter) hwrap']
  | preparePush => cases hguard
  | resyncTarget => cases hguard
  | start => cases hguard
  | record => cases hguard
  | evict => cases hguard

variable {k : K} {resolved : List E} {token : String} {ok : Bool} {call : Call E}

theorem step_preparePush {content : C} (hskip : s.skips hash content resolved token = false)
    (hstep : PushState.step hash (.preparePush k content resolved token) s = some s') :
    s.lock = none ∧ s' = State.setCall { s with
      push := { s.push with
        counter := wrap64 (s.push.counter + 1)
        builds := s.push.builds ++ [⟨wrap64 (s.push.counter + 1), content⟩] }
      target := some (s.target.getD PushTarget.empty) } k
        ⟨false, s.push.builds.length, resolved, token, false⟩ := by
  simp only [PushState.step, hskip] at hstep
  split at hstep
  · next hlock _ =>
    cases hstep
    exact ⟨hlock, rfl⟩
  · cases hstep

theorem step_record (hcall : s.calls k = some call) (hpush : call.replay = false)
    (houtcome : outcome s.push k call.endpoints.length = some ok)
    (hstep : PushState.step hash (.record k) s = some s') :
    s' = State.setCall { s with
      target := recordPush ((hashOf hash s.push call.build).getD "") call ok s.target } k
        { call with finished := true } := by
  simp only [PushState.step, hcall, Option.bind_some, houtcome, hpush] at hstep
  split at hstep
  · cases hstep
  · split at hstep
    · next heq _ hlock =>
      cases heq
      cases hstep
      rw [hpush]
    · next hreplay _ => cases hreplay
    · cases hstep

theorem step_resyncTarget {target : PushTarget E} {c : ℕ} (htarget : s.target = some target)
    (hlast : target.lastCfg = some c)
    (hstep : PushState.step hash (.resyncTarget k resolved token) s = some s') :
    s'.push = s.push ∧ s'.target = s.target ∧
      s'.calls k = some ⟨true, c, resolved, token, false⟩ ∧ s'.lock = some k := by
  simp only [PushState.step, htarget, Option.bind_some, hlast] at hstep
  split at hstep
  · cases hstep
    exact ⟨rfl, htarget.symm, SkipKey.calls_setCall_self _ _ _, rfl⟩
  · cases hstep

/-- The end of a replay. -/
theorem step_record_replay (hcall : s.calls k = some call) (hreplay : call.replay = true)
    (hlock : s.lock = some k) (hactive : call.finished = false)
    (houtcome : outcome s.push k call.endpoints.length = some ok) :
    PushState.step hash (.record k) s = some (State.setCall { s with
      target := recordResync ((hashOf hash s.push call.build).getD "") call ok s.target
      lock := none } k { call with finished := true }) := by
  simp only [PushState.step, hcall, Option.bind_some, houtcome, hreplay, hlock, hactive]
  rfl

theorem outcome_of_record (hcall : s.calls k = some call)
    (hstep : PushState.step hash (.record k) s = some s') :
    ∃ ok, outcome s.push k call.endpoints.length = some ok := by
  simp only [PushState.step, hcall, Option.bind_some] at hstep
  cases houtcome : outcome s.push k call.endpoints.length with
  | some ok => exact ⟨ok, rfl⟩
  | none =>
    rw [houtcome] at hstep
    split at hstep <;> cases hstep

/-- A history of one partition: a push that succeeded on every endpoint, then nothing but
the pushes of other partitions, then the beginning of a replay to the same endpoints and
any number of fresh ones. Builds are held only after they were built, and the counter has
room for one more version. -/
structure ReplayedPush (hash : C → String) (k k' : K) (content : C) (resolved resolved' : List E)
    (token' : String) (start replaying : PushState.State C E K) where
  token : String
  prepared : PushState.State C E K
  pushed : PushState.State C E K
  recorded : PushState.State C E K
  resumed : PushState.State C E K
  nonneg : 0 ≤ start.push.counter
  room : start.push.counter < maxInt64
  held_built : ∀ e, ∀ c ∈ (start.push.replicas e).held, c < start.push.builds.length
  unstarted : ∀ i, start.push.runs (k, i) = none
  unstarted' : ∀ i, resumed.push.runs (k', i) = none
  not_skipped : start.skips hash content resolved token = false
  prepare : PushState.step hash (.preparePush k content resolved token) start = some prepared
  push : Exec (PushState.step hash) (OnlyCall k true) prepared pushed
  succeeded : outcome pushed.push k resolved.length = some true
  record : PushState.step hash (.record k) pushed = some recorded
  others : Exec (PushState.step hash) OnlyOthers recorded resumed
  resync : PushState.step hash (.resyncTarget k' resolved' token') resumed = some replaying
  same : ∀ e ∈ resolved, e ∈ resolved'
  fresh : ∀ e ∈ resolved', e ∈ resolved ∨ (resumed.push.replicas e).version = 0

section History

variable {k k' : K} {content : C} {resolved resolved' : List E} {token' : String}
  {start replaying : PushState.State C E K}
  (h : ReplayedPush hash k k' content resolved resolved' token' start replaying)

include h

/-- The delivery of the push. -/
def ReplayedPush.first : Delivery where
  build := start.push.builds.length
  version := start.push.counter + 1
  floor := start.push.counter + 1
  lossy := true
  version_pos := by have := h.nonneg; omega
  version_le := le_rfl

theorem ReplayedPush.inCall :
    InCall h.first content k ⟨false, start.push.builds.length, resolved, h.token, false⟩
      start.push.replicas (some (start.target.getD PushTarget.empty)) none h.pushed := by
  obtain ⟨hlock, hprepared⟩ := step_preparePush h.not_skipped h.prepare
  have hversion := wrap64_succ h.nonneg h.room
  have hinit : InCall h.first content k
      ⟨false, start.push.builds.length, resolved, h.token, false⟩ start.push.replicas
      (some (start.target.getD PushTarget.empty)) none h.prepared := by
    rw [hprepared, hversion]
    refine ⟨?_, SkipKey.calls_setCall_self _ _ _, rfl, hlock⟩
    apply Underway.init
    · exact List.getElem?_concat_length
    · exact le_rfl
    · exact h.unstarted
    · rfl
  exact hinit.exec rfl h.push

/-- The configuration is cached under the version it was built with. -/
theorem ReplayedPush.target_recorded :
    h.recorded.push = h.pushed.push ∧ h.recorded.target = some
      ⟨some start.push.builds.length, hash content, h.token, resolved.toFinset, 0⟩ := by
  have hcall := h.inCall
  have hrecorded := step_record hcall.call rfl h.succeeded h.record
  have hhash : hashOf hash h.pushed.push start.push.builds.length = some (hash content) := by
    exact congrArg (Option.map fun b => hash b.content) hcall.underway.built
  rw [hrecorded]
  refine ⟨rfl, ?_⟩
  change recordPush _ _ true h.pushed.target = _
  rw [hcall.target, hhash]
  rfl

/-- The endpoints of the push when the replay begins: each holds the configuration, under a
version the counter has reached, and is ahead exactly when it was ahead of the push. -/
theorem ReplayedPush.endpoint {e : E} (he : e ∈ resolved) :
    (h.pushed.push.replicas e).version ≤ h.pushed.push.counter ∧
      (h.first.Ahead (h.pushed.push.replicas e) ↔ h.first.Ahead (start.push.replicas e)) := by
  have hcall := h.inCall
  have hreplica := hcall.underway.replica e
  have hheld : (h.pushed.push.replicas e).held = some start.push.builds.length :=
    (hcall.delivered h.succeeded he).1
  constructor
  · rcases hreplica.delivered with hsame | ⟨-, hle⟩
    · rw [hsame] at hheld
      exact absurd (h.held_built e _ hheld) (lt_irrefl _)
    · exact hle
  · constructor
    · intro hahead
      by_contra hnot
      exact hreplica.level hnot hahead
    · exact hreplica.ahead

/-- The delivery of the replay: the same build under the same version. -/
def ReplayedPush.second (hcounter : start.push.counter + 1 ≤ h.resumed.push.counter) : Delivery where
  build := start.push.builds.length
  version := start.push.counter + 1
  floor := h.resumed.push.counter
  lossy := false
  version_pos := by have := h.nonneg; omega
  version_le := hcounter

theorem ReplayedPush.resumed_eq :
    h.pushed.push.counter ≤ h.resumed.push.counter ∧
      h.resumed.push.replicas = h.pushed.push.replicas ∧
      h.resumed.push.builds = h.pushed.push.builds ∧ h.resumed.target = some
        ⟨some start.push.builds.length, hash content, h.token, resolved.toFinset, 0⟩ := by
  obtain ⟨hpush, htarget⟩ := h.target_recorded
  have hnonneg : 0 ≤ h.recorded.push.counter := by
    have hcounter := h.inCall.underway.counter
    have hstart := h.nonneg
    rw [hpush]
    change start.push.counter + 1 ≤ _ at hcounter
    omega
  obtain ⟨counter, hcounter, hresumed⟩ := onlyOthers_exec hnonneg h.others
  rw [hpush] at hcounter
  rw [hresumed, ← htarget, hpush]
  exact ⟨hcounter, rfl, rfl, rfl⟩

theorem ReplayedPush.counter_le : start.push.counter + 1 ≤ h.resumed.push.counter :=
  h.inCall.underway.counter.trans h.resumed_eq.1

/-- The replay under way. -/
theorem ReplayedPush.inReplay :
    InCall (h.second h.counter_le) content k'
      ⟨true, start.push.builds.length, resolved', token', false⟩ h.resumed.push.replicas (some
        ⟨some start.push.builds.length, hash content, h.token, resolved.toFinset, 0⟩)
      (some k') replaying := by
  obtain ⟨-, -, hbuilds, htarget⟩ := h.resumed_eq
  obtain ⟨hpush, hsame, hcall, hlock⟩ := step_resyncTarget htarget rfl h.resync
  have hfirst := h.inCall.underway.built
  rw [← hbuilds, ← hpush] at hfirst
  refine ⟨?_, hcall, hsame.trans htarget, hlock⟩
  apply Underway.init
  · exact hfirst
  · exact le_of_eq (congrArg (·.counter) hpush.symm)
  · intro i
    rw [hpush]
    exact h.unstarted' i
  · exact congrArg (·.replicas) hpush

/-- The counter has reached every replica. -/
theorem ReplayedPush.not_recovers {e : E} (he : e ∈ resolved') :
    ¬ (h.second h.counter_le).Recovers (h.resumed.push.replicas e) := by
  obtain ⟨hcounter, hreplicas, -, -⟩ := h.resumed_eq
  have hstart := h.nonneg
  have hgrown := h.counter_le
  apply not_lt.mpr
  change (h.resumed.push.replicas e).version ≤ h.resumed.push.counter
  rcases h.fresh e he with hmem | hzero
  · rw [hreplicas]
    exact (h.endpoint hmem).1.trans hcounter
  · omega

/-- A replica rejects the replay exactly when it was ahead of the push. -/
theorem ReplayedPush.ahead_iff :
    (∀ e ∈ resolved', ¬ (h.second h.counter_le).Ahead (h.resumed.push.replicas e)) ↔
      ∀ e ∈ resolved, (start.push.replicas e).version ≤ start.push.counter + 1 := by
  obtain ⟨-, hreplicas, -, -⟩ := h.resumed_eq
  have hstart := h.nonneg
  constructor
  · intro hlevel e he
    have hnot := hlevel e (h.same e he)
    rw [hreplicas] at hnot
    exact not_lt.mp fun hahead => hnot ((h.endpoint he).2.mpr hahead)
  · intro hlevel e he hahead
    rcases h.fresh e he with hmem | hzero
    · rw [hreplicas] at hahead
      exact absurd ((h.endpoint hmem).2.mp hahead) (not_lt.mpr (hlevel e hmem))
    · change start.push.counter + 1 < (h.resumed.push.replicas e).version at hahead
      omega

end History

/-- A replay on a working network succeeds exactly when no endpoint of the push held a
version above the configuration's when the push began. Then it can complete, and its end
leaves the key set and every endpoint with the cached configuration. -/
theorem resync_succeeds_iff {k k' : K} {content : C} {resolved resolved' : List E}
    {token' : String} {start replaying : PushState.State C E K}
    (h : ReplayedPush hash k k' content resolved resolved' token' start replaying) :
    ((∀ e ∈ resolved, (start.push.replicas e).version ≤ start.push.counter + 1) →
      ∃ replayed ended, Exec (PushState.step hash) (OnlyCall k' false) replaying replayed ∧
        PushState.step hash (.record k') replayed = some ended) ∧
    ∀ replayed ended, Exec (PushState.step hash) (OnlyCall k' false) replaying replayed →
      PushState.step hash (.record k') replayed = some ended →
      (outcome replayed.push k' resolved'.length = some true ↔
        ∀ e ∈ resolved, (start.push.replicas e).version ≤ start.push.counter + 1) ∧
      ((∀ e ∈ resolved, (start.push.replicas e).version ≤ start.push.counter + 1) →
        ∃ target, ended.target = some target ∧ target.lastPushedHash = hash content ∧
          target.lastPushedToken = token' ∧ target.lastPushedEndpoints = resolved'.toFinset ∧
          target.lastCfg = some start.push.builds.length ∧
          ∀ e ∈ resolved', (ended.push.replicas e).held = target.lastCfg) := by
  have hreplay := h.inReplay
  have hlevel := h.ahead_iff
  refine ⟨?_, ?_⟩
  · intro hnone
    obtain ⟨-, -, -, htarget⟩ := h.resumed_eq
    obtain ⟨hpush, -, -, -⟩ := step_resyncTarget htarget rfl h.resync
    have hfree : ∀ i, replaying.push.runs (k', i) = none := by
      intro i
      rw [hpush]
      exact h.unstarted' i
    obtain ⟨replayed, hexec, houtcome⟩ : ∃ replayed,
        Exec (PushState.step hash) (OnlyCall k' false) replaying replayed ∧
        outcome replayed.push k' resolved'.length = some true :=
      hreplay.completes rfl rfl hfree (hlevel.mpr hnone)
    have hend := hreplay.exec rfl hexec
    exact ⟨replayed, _, hexec, step_record_replay hend.call rfl hend.lock rfl houtcome⟩
  · intro replayed ended hexec hrecord
    have hend : InCall (h.second h.counter_le) content k'
        ⟨true, start.push.builds.length, resolved', token', false⟩ h.resumed.push.replicas (some
          ⟨some start.push.builds.length, hash content, h.token, resolved.toFinset, 0⟩)
        (some k') replayed := hreplay.exec rfl hexec
    obtain ⟨ok, houtcome⟩ := outcome_of_record hend.call hrecord
    have hok := (hend.outcome_iff rfl (fun e he => h.not_recovers he) houtcome).trans hlevel
    have hsuccess : outcome replayed.push k' resolved'.length = some true ↔ ok = true := by
      change outcome replayed.push k' resolved'.length = some ok at houtcome
      rw [houtcome, Option.some.injEq]
    refine ⟨hsuccess.trans hok, ?_⟩
    intro hnone
    have htrue := hok.mpr hnone
    subst htrue
    rw [step_record_replay hend.call rfl hend.lock rfl houtcome, Option.some.injEq] at hrecord
    have hhash : hashOf hash replayed.push start.push.builds.length = some (hash content) := by
      rw [hashOf]
      exact congrArg (Option.map fun b => hash b.content) hend.underway.built
    rw [← hrecord]
    refine ⟨⟨some start.push.builds.length, hash content, token', resolved'.toFinset, 0⟩, ?_, rfl,
      rfl, rfl, rfl, ?_⟩
    · change recordResync _ _ true replayed.target = _
      rw [hend.target, hhash]
      rfl
    · intro e he
      exact (hend.delivered houtcome he).1

end Replay

section Executions

/-- One replica at `version`, a fresh one, and a process whose counter is at 10. -/
def edgeState (version : ℤ) : PushState.State String Bool ℕ where
  push := ⟨10, [], fun fresh => if fresh then ⟨0, none⟩ else ⟨version, none⟩, fun _ => none⟩
  target := none
  calls _ := none
  lock := none

/-- A step of one call's own runs on a working network. -/
def OwnStep (k : ℕ) (s : PushState.State String Bool ℕ) :
    PushState.Action String Bool ℕ → Prop
  | .start k' _ => k' = k
  | .push a => a.run?.map Prod.fst = some k ∧ NoWrap s.push a ∧ Completes a
  | _ => False

instance (s : Pusher.State String Bool (ℕ × ℕ)) (a : Pusher.Action String Bool (ℕ × ℕ)) :
    Decidable (NoWrap s a) :=
  match a with
  | .build _ | .burn | .add _ => inferInstanceAs (Decidable (s.counter < maxInt64))
  | .bumpCAS r => inferInstanceAs (Decidable (∀ run ∈ s.runs r, ∀ pv ∈ run.phase.swapTarget,
      pv < maxInt64))
  | .start .. | .put .. | .fetch .. | .check _ | .bumpLoad _ | .retry .. => .isTrue trivial

instance (a : Pusher.Action String Bool (ℕ × ℕ)) : Decidable (Completes a) :=
  match a with
  | .put _ net | .retry _ net => inferInstanceAs (Decidable (net = .complete))
  | .fetch _ ok => inferInstanceAs (Decidable (ok = true))
  | .build _ | .burn | .add _ | .bumpCAS _ | .start .. | .check _ | .bumpLoad _ => .isTrue trivial

instance (k : ℕ) (s : PushState.State String Bool ℕ)
    (a : PushState.Action String Bool ℕ) : Decidable (OwnStep k s a) :=
  match a with
  | .start k' _ => inferInstanceAs (Decidable (k' = k))
  | .push a => inferInstanceAs (Decidable (a.run?.map Prod.fst = some k ∧ NoWrap s.push a ∧
      Completes a))
  | .preparePush .. | .resyncTarget .. | .record _ | .evict => .isFalse id

variable {s : PushState.State String Bool ℕ} {k : ℕ} {acts : List (PushState.Action String Bool ℕ)}

theorem OwnStep.onlyCall {a : PushState.Action String Bool ℕ} (lossy : Bool) (h : OwnStep k s a) :
    OnlyCall k lossy s a := by
  cases a with
  | start k' i => exact h
  | push a =>
    obtain ⟨hrun, hwrap, hcomplete⟩ := h
    obtain ⟨⟨k', i⟩, hi, rfl⟩ := Option.map_eq_some_iff.mp hrun
    exact ⟨.inr ⟨i, hi⟩, hwrap, fun _ => hcomplete⟩
  | preparePush => cases h
  | resyncTarget => cases h
  | record => cases h
  | evict => cases h

theorem exec_of_ownSteps {s' : PushState.State String Bool ℕ} (lossy : Bool)
    (h : execute (PushState.step id) acts s = some s')
    (hown : Guarded (PushState.step id) (OwnStep k) acts s) :
    Exec (PushState.step id) (OnlyCall k lossy) s s' :=
  (exec_of_guarded h hown).mono fun _ _ => OwnStep.onlyCall lossy

/-- The replica takes the first PUT. -/
def firstPut : List (PushState.Action String Bool ℕ) :=
  [.start 0 0, .push (.put (0, 0) .complete)]

/-- The replica rejects the first PUT and takes the re-stamped one. -/
def recovery : List (PushState.Action String Bool ℕ) :=
  firstPut ++ [.push (.fetch (0, 0) true), .push (.check (0, 0)), .push (.bumpLoad (0, 0)),
    .push (.bumpCAS (0, 0)), .push (.add (0, 0)), .push (.retry (0, 0) .complete)]

structure History where
  prepared : PushState.State String Bool ℕ
  pushed : PushState.State String Bool ℕ
  recorded : PushState.State String Bool ℕ
  replaying : PushState.State String Bool ℕ

/-- A push with the given steps, its end, and the beginning of a replay to the fresh
replica too. -/
def replayHistory (acts : List (PushState.Action String Bool ℕ)) (version : ℤ) :
    Option History := do
  let prepared ← PushState.step id (.preparePush 0 "a" [false] "") (edgeState version)
  let pushed ← execute (PushState.step id) acts prepared
  let recorded ← PushState.step id (.record 0) pushed
  let replaying ← PushState.step id (.resyncTarget 1 [false, true] "") recorded
  some ⟨prepared, pushed, recorded, replaying⟩

theorem replayedPush_of_history {version : ℤ} {states : History}
    (h : replayHistory acts version = some states)
    (hown : Guarded (PushState.step id) (OwnStep 0) acts states.prepared)
    (houtcome : outcome states.pushed.push 0 1 = some true)
    (hunstarted : ∀ i, states.recorded.push.runs (1, i) = none)
    (hfresh : (states.recorded.push.replicas true).version = 0) :
    Nonempty (ReplayedPush id (0 : ℕ) 1 "a" [false] [false, true] "" (edgeState version)
      states.replaying) := by
  simp only [replayHistory, Option.bind_eq_bind, Option.bind_eq_some_iff, Option.some.injEq] at h
  obtain ⟨prepared, hprepare, pushed, hpush, recorded, hrecord, replaying, hresync, rfl⟩ := h
  refine ⟨⟨"", prepared, pushed, recorded, recorded, ?_, ?_, ?_, fun _ => rfl, hunstarted, ?_,
    hprepare, exec_of_ownSteps true hpush hown, houtcome, hrecord, .refl _, hresync, ?_, ?_⟩⟩
  · change 0 ≤ 10
    decide
  · change 10 < maxInt64
    decide
  · intro e c hc
    cases e <;> cases hc
  · change shouldSkipPush "a" "" "" "" ∅ [false] = false
    decide
  · simp
  · intro e _
    cases e with
    | false => exact .inl (List.mem_singleton_self _)
    | true => exact .inr hfresh

/-- A replica behind the push takes the replay. -/
theorem level_replica_resynced :
    ∃ replaying replayed ended, Nonempty (ReplayedPush id (0 : ℕ) 1 "a" [false] [false, true] ""
        (edgeState 3) replaying) ∧
      Exec (PushState.step id) (OnlyCall 1 false) replaying replayed ∧
      PushState.step id (.record 1) replayed = some ended ∧
      outcome replayed.push 1 2 = some true ∧
      ∃ target, ended.target = some target ∧ target.lastPushedHash = "a" ∧
        ∀ e ∈ [false, true], (ended.push.replicas e).held = target.lastCfg := by
  have hrun : (replayHistory firstPut 3).map (fun states =>
      (decide (Guarded (PushState.step id) (OwnStep 0) firstPut states.prepared),
        outcome states.pushed.push 0 1, (states.recorded.push.replicas true).version)) =
      some (true, some true, 0) := by
    decide +kernel
  have hruns : ∀ i, (replayHistory firstPut 3).map
      (fun states => states.recorded.push.runs (1, i)) = some none := fun _ => rfl
  obtain ⟨states, hstates, hobs⟩ := Option.map_eq_some_iff.mp hrun
  simp only [hstates, Option.map_some, Option.some.injEq] at hruns
  simp only [Prod.mk.injEq, decide_eq_true_eq] at hobs
  obtain ⟨hown, houtcome, hfresh⟩ := hobs
  obtain ⟨h⟩ := replayedPush_of_history hstates hown houtcome hruns hfresh
  have hlevel : ∀ e ∈ [false], ((edgeState 3).push.replicas e).version ≤
      (edgeState 3).push.counter + 1 := by
    decide
  obtain ⟨hcompletes, hends⟩ := resync_succeeds_iff h
  obtain ⟨replayed, ended, hexec, hrecord⟩ := hcompletes hlevel
  obtain ⟨hsuccess, hkey⟩ := hends replayed ended hexec hrecord
  obtain ⟨target, htarget, hhash, -, -, -, hheld⟩ := hkey hlevel
  exact ⟨states.replaying, replayed, ended, ⟨h⟩, hexec, hrecord, hsuccess.mpr hlevel, target,
    htarget, hhash, hheld⟩

/-- The fresh replica takes the replay; the recovered one rejects it. -/
def rejectedReplay : List (PushState.Action String Bool ℕ) :=
  [.start 1 0, .start 1 1, .push (.put (1, 1) .complete), .push (.put (1, 0) .complete),
    .push (.fetch (1, 0) true), .push (.check (1, 0))]

/-- A push that recovered cannot be replayed: the replica stands at 102, the cached
configuration at 11, and the counter has reached 102. -/
theorem recovered_replica_not_resynced :
    ∃ replaying replayed ended, Nonempty (ReplayedPush id (0 : ℕ) 1 "a" [false] [false, true] ""
        (edgeState 100) replaying) ∧
      Exec (PushState.step id) (OnlyCall 1 false) replaying replayed ∧
      PushState.step id (.record 1) replayed = some ended ∧
      outcome replayed.push 1 2 = some false ∧
      ended.target.map PushTarget.lastPushedHash = some "" := by
  have hrun : (replayHistory recovery 100).bind (fun states =>
      (execute (PushState.step id) rejectedReplay states.replaying).bind fun replayed =>
        (PushState.step id (.record 1) replayed).map fun ended =>
          ((decide (Guarded (PushState.step id) (OwnStep 0) recovery states.prepared),
              outcome states.pushed.push 0 1, (states.recorded.push.replicas true).version),
            decide (Guarded (PushState.step id) (OwnStep 1) rejectedReplay states.replaying),
            outcome replayed.push 1 2, ended.target.map PushTarget.lastPushedHash)) =
      some ((true, some true, 0), true, some false, some "") := by
    decide +kernel
  have hruns : ∀ i, (replayHistory recovery 100).map
      (fun states => states.recorded.push.runs (1, i)) = some none := fun _ => rfl
  obtain ⟨states, hstates, hrun⟩ := Option.bind_eq_some_iff.mp hrun
  obtain ⟨replayed, hreplay, hrun⟩ := Option.bind_eq_some_iff.mp hrun
  obtain ⟨ended, hended, hobs⟩ := Option.map_eq_some_iff.mp hrun
  simp only [hstates, Option.map_some, Option.some.injEq] at hruns
  simp only [Prod.mk.injEq, decide_eq_true_eq] at hobs
  obtain ⟨⟨hown, houtcome, hfresh⟩, hown', hfailed, hcleared⟩ := hobs
  exact ⟨states.replaying, replayed, ended,
    replayedPush_of_history hstates hown houtcome hruns hfresh,
    exec_of_ownSteps false hreplay hown', hended, hfailed, hcleared⟩

end Executions

end TunnelGateway.ResyncReplay
