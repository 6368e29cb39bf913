import TunnelGateway.Pusher
import Mathlib.Data.Fintype.Basic

/-!
When an older configuration cannot overwrite a newer one. Re-stamping is a check
of the counter followed, some steps later, by an increment; in between a later
configuration can be built, re-stamped or delivered, and the older payload then
carries the higher version. `NotOvertaken` says that at the increment no
configuration built later is on the replica or still holds a version the replica
would accept. Under that guard the replica's configuration only moves forward in
build order; without it, it does not.
-/
namespace TunnelGateway.PushOrder

open Execution Pusher

variable {C E R : Type*}

section Guard

/-- The replica neither holds nor would accept a version of a configuration
built after the run's own. -/
structure NotOvertaken (s : State C E R) (run : PushRun E) : Prop where
  held : ∀ h ∈ (s.replicas run.endpoint).held, h ≤ run.build
  bodies : ∀ b ∈ s.builds.drop (run.build + 1), b.version < (s.replicas run.endpoint).version
  retries : ∀ r', ∀ run' ∈ s.runs r', run'.endpoint = run.endpoint → run.build < run'.build →
    ∀ v ∈ run'.phase.retryVersion, v < (s.replicas run.endpoint).version

/-- The counter does not wrap, and a run takes its fresh version only while it is
not overtaken. -/
def InOrder (s : State C E R) : Action C E R → Prop
  | .build _ | .burn => s.counter < maxInt64
  | .bumpCAS r => ∀ run ∈ s.runs r, ∀ pv ∈ run.phase.swapTarget, pv < maxInt64
  | .add r => s.counter < maxInt64 ∧ ∀ run ∈ s.runs r, NotOvertaken s run
  | _ => True

instance [DecidableEq E] [Fintype R] (s : State C E R) (run : PushRun E) :
    Decidable (NotOvertaken s run) :=
  decidable_of_iff
    ((∀ h ∈ (s.replicas run.endpoint).held, h ≤ run.build) ∧
      (∀ b ∈ s.builds.drop (run.build + 1), b.version < (s.replicas run.endpoint).version) ∧
      ∀ r', ∀ run' ∈ s.runs r', run'.endpoint = run.endpoint → run.build < run'.build →
        ∀ v ∈ run'.phase.retryVersion, v < (s.replicas run.endpoint).version)
    ⟨fun h => ⟨h.1, h.2.1, h.2.2⟩, fun h => ⟨h.held, h.bodies, h.retries⟩⟩

instance [DecidableEq E] [Fintype R] (s : State C E R) (a : Action C E R) :
    Decidable (InOrder s a) :=
  match a with
  | .build _ | .burn => inferInstanceAs (Decidable (s.counter < maxInt64))
  | .bumpCAS r =>
      inferInstanceAs (Decidable (∀ run ∈ s.runs r, ∀ pv ∈ run.phase.swapTarget, pv < maxInt64))
  | .add r =>
      inferInstanceAs (Decidable (s.counter < maxInt64 ∧ ∀ run ∈ s.runs r, NotOvertaken s run))
  | .start .. | .put .. | .fetch .. | .check _ | .bumpLoad _ | .retry .. => .isTrue trivial

end Guard

section Moves

variable [DecidableEq E] [DecidableEq R]

/-- The run puts this version on the wire. -/
def Sends (s : State C E R) (run : PushRun E) (version : ℤ) : Prop :=
  (run.phase = .put ∧ ∃ b, s.builds[run.build]? = some b ∧ b.version = version) ∨
    run.phase = .retry version

/-- Phases entered without taking a version or delivering a payload. -/
def Quiet : Phase → Prop
  | .retry _ => False
  | .done success => success = false
  | .bumpCAS pv current => current ≤ pv
  | _ => True

omit [DecidableEq E] [DecidableEq R] in
theorem Sends.live {s : State C E R} {run : PushRun E} {version : ℤ} (h : Sends s run version) :
    run.phase.Live := by
  rcases h with ⟨hphase, -⟩ | hphase <;> rw [hphase] <;> intro b <;> simp

/-- Everything a step can do. -/
inductive Move (s : State C E R) : Action C E R → State C E R → Prop where
  | build (content : C) :
      Move s (.build content)
        { s with
          counter := wrap64 (s.counter + 1)
          builds := s.builds ++ [⟨wrap64 (s.counter + 1), content⟩] }
  | burn : Move s .burn { s with counter := wrap64 (s.counter + 1) }
  | start (r : R) (e : E) (c : ℕ) (hfree : s.runs r = none) (hbuilt : c < s.builds.length) :
      Move s (.start r e c) (s.setRun r ⟨e, c, .put⟩)
  | quiet (a : Action C E R) (r : R) (run : PushRun E) (phase : Phase)
      (hrun : s.runs r = some run) (hlive : run.phase.Live) (hquiet : Quiet phase) :
      Move s a (s.setPhase r run phase)
  | swap (r : R) (run : PushRun E) (pv : ℤ) (hrun : s.runs r = some run)
      (hphase : run.phase = .bumpCAS pv s.counter) :
      Move s (.bumpCAS r) ({ s with counter := wrap64 (pv + 1) }.setPhase r run .add)
  | add (r : R) (run : PushRun E) (hrun : s.runs r = some run) (hphase : run.phase = .add) :
      Move s (.add r)
        ({ s with counter := wrap64 (s.counter + 1) }.setPhase r run
          (.retry (wrap64 (s.counter + 1))))
  | accept (a : Action C E R) (r : R) (run : PushRun E) (version : ℤ) (success : Bool)
      (hrun : s.runs r = some run) (hsends : Sends s run version)
      (hfresh : 0 < version → (s.replicas run.endpoint).version ≤ version) :
      Move s a ((s.setReplica run.endpoint ⟨version, some run.build⟩).setPhase r run
        (.done success))

theorem put_eq (replica : Replica) (version : ℤ) (build : ℕ) :
    (∃ status, status ≠ PutStatus.ok ∧ replica.put version build = (status, replica)) ∨
    (replica.put version build = (.ok, ⟨version, some build⟩) ∧
      (0 < version → replica.version ≤ version)) := by
  unfold Replica.put
  by_cases hneg : version < 0
  · exact Or.inl ⟨.badRequest, by decide, by rw [if_pos hneg]⟩
  · rw [if_neg hneg]
    by_cases hstale : 0 < version ∧ version < replica.version
    · exact Or.inl ⟨.conflict, by decide, by rw [if_pos hstale]⟩
    · refine Or.inr ⟨by rw [if_neg hstale], ?_⟩
      intro hpos
      by_contra hlt
      exact hstale ⟨hpos, by omega⟩

omit [DecidableEq R] in
theorem setReplica_self (s : State C E R) (e : E) : s.setReplica e (s.replicas e) = s := by
  simp [State.setReplica]

/-- A PUT exchange either delivers the payload or only moves the run on. -/
theorem exchange_move (s : State C E R) (a : Action C E R) (r : R) (run : PushRun E)
    (version : ℤ) (net : Network) (onConflict : Phase) (hrun : s.runs r = some run)
    (hsends : Sends s run version) (hquiet : Quiet onConflict) :
    Move s a (s.exchange r run version net onConflict) := by
  have hlive := hsends.live
  have hput := put_eq (s.replicas run.endpoint) version run.build
  cases net with
  | refused => exact .quiet a r run _ hrun hlive rfl
  | replyLost =>
    rcases hput with ⟨status, -, hstatus⟩ | ⟨hok, hfresh⟩
    · simp only [State.exchange, hstatus, setReplica_self]
      exact .quiet a r run _ hrun hlive rfl
    · simp only [State.exchange, hok]
      exact .accept a r run version false hrun hsends hfresh
  | complete =>
    rcases hput with ⟨status, hne, hstatus⟩ | ⟨hok, hfresh⟩
    · simp only [State.exchange, hstatus]
      cases status with
      | ok => exact absurd rfl hne
      | conflict => exact .quiet a r run _ hrun hlive hquiet
      | badRequest => exact .quiet a r run _ hrun hlive rfl
    · simp only [State.exchange, hok]
      exact .accept a r run version true hrun hsends hfresh

theorem move_of_runStep {s s' : State C E R} {r : R} {run : PushRun E} {a : Action C E R}
    (hrun : s.runs r = some run) (h : RunStep s r run a s') : Move s a s' := by
  cases h with
  | put net hphase hbuild =>
    exact exchange_move s _ r run _ net .fetch hrun (Or.inl ⟨hphase, _, hbuild, rfl⟩) trivial
  | fetch ok hphase =>
    refine .quiet _ r run _ hrun (by simp [Phase.Live, hphase]) ?_
    split
    · trivial
    · rfl
  | check hphase =>
    refine .quiet _ r run _ hrun (by simp [Phase.Live, hphase]) ?_
    split
    · rfl
    · trivial
  | bumpLoad hphase =>
    refine .quiet _ r run _ hrun (by simp [Phase.Live, hphase]) ?_
    split
    · trivial
    · next hnot => exact Int.not_lt.mp hnot
  | swap hphase => exact .swap r run _ hrun hphase
  | reload hphase hmoved =>
    exact .quiet _ r run _ hrun (by simp [Phase.Live, hphase]) trivial
  | add hphase => exact .add r run hrun hphase
  | retry net hphase =>
    exact exchange_move s _ r run _ net (.done false) hrun (Or.inr hphase) rfl

theorem move_of_step {s s' : State C E R} {a : Action C E R} (h : step a s = some s') :
    Move s a s' := by
  cases ha : a.run? with
  | some r =>
    obtain ⟨run, hrun, hstep⟩ := exists_runStep ha h
    exact move_of_runStep hrun hstep
  | none =>
    cases a with
    | build content =>
      cases h
      exact .build content
    | burn =>
      cases h
      exact .burn
    | start r e c =>
      simp only [step] at h
      split at h
      · rename_i hfree hbuild
        cases h
        exact .start r e c hfree (List.getElem?_eq_some_iff.mp hbuild).1
      · cases h
    | put | fetch | check | bumpLoad | bumpCAS | add | retry => cases ha

end Moves

section Invariant

/-- Versions order builds, and no version still pending or delivered lets an
older build follow a newer one onto a replica. -/
structure Ordered (s : State C E R) : Prop where
  counter_nonneg : 0 ≤ s.counter
  builds_sorted : s.builds.Pairwise (fun a b => a.version < b.version)
  builds_range : ∀ b ∈ s.builds, 0 < b.version ∧ b.version ≤ s.counter
  run_built : ∀ r run, s.runs r = some run → run.build < s.builds.length
  cas_le : ∀ r run pv current, s.runs r = some run → run.phase = .bumpCAS pv current →
    current ≤ pv
  retry_range : ∀ r run v, s.runs r = some run → run.phase = .retry v → 0 < v ∧ v ≤ s.counter
  retry_own : ∀ r run v b, s.runs r = some run → run.phase = .retry v →
    s.builds[run.build]? = some b → b.version < v
  held_body : ∀ e h, (s.replicas e).held = some h →
    ∃ b, s.builds[h]? = some b ∧ b.version ≤ (s.replicas e).version
  retry_body : ∀ r run v c b, s.runs r = some run → run.phase = .retry v → run.build < c →
    s.builds[c]? = some b → v < b.version ∨ b.version < (s.replicas run.endpoint).version
  retry_retry : ∀ r run v r' run' v', s.runs r = some run → run.phase = .retry v →
    s.runs r' = some run' → run'.phase = .retry v' → run'.endpoint = run.endpoint →
    run.build < run'.build → v < v' ∨ v' < (s.replicas run.endpoint).version
  retry_held : ∀ r run v h, s.runs r = some run → run.phase = .retry v →
    (s.replicas run.endpoint).held = some h → run.build < h →
    v < (s.replicas run.endpoint).version
  success_held : ∀ r run, s.runs r = some run → run.phase = .done true →
    ∃ h, (s.replicas run.endpoint).held = some h ∧ run.build ≤ h

/-- Nothing built, nothing pushed; replicas hold anything at any version. -/
structure Initial (s : State C E R) : Prop where
  counter_nonneg : 0 ≤ s.counter
  no_builds : s.builds = []
  no_runs : ∀ r, s.runs r = none
  not_held : ∀ e, (s.replicas e).held = none

variable {s : State C E R}

theorem Initial.ordered (h : Initial s) : Ordered s where
  counter_nonneg := h.counter_nonneg
  builds_sorted := by rw [h.no_builds]; exact List.Pairwise.nil
  builds_range := by simp [h.no_builds]
  run_built := by simp [h.no_runs]
  cas_le := by simp [h.no_runs]
  retry_range := by simp [h.no_runs]
  retry_own := by simp [h.no_runs]
  held_body := by simp [h.not_held]
  retry_body := by simp [h.no_runs]
  retry_retry := by simp [h.no_runs]
  retry_held := by simp [h.no_runs]
  success_held := by simp [h.no_runs]

/-- A run that holds no version of its own and claims success only where the replica
has reached its build. -/
structure Idle (s : State C E R) (run : PushRun E) : Prop where
  built : run.build < s.builds.length
  cas_le : ∀ pv current, run.phase = .bumpCAS pv current → current ≤ pv
  no_retry : ∀ v, run.phase ≠ .retry v
  success_held : run.phase = .done true →
    ∃ h, (s.replicas run.endpoint).held = some h ∧ run.build ≤ h

variable {run : PushRun E} {b : Build C} {c d : ℕ} {r : R} {version : ℤ}

theorem Quiet.idle (h : Quiet run.phase) (hbuilt : run.build < s.builds.length) : Idle s run := by
  refine ⟨hbuilt, ?_, ?_, ?_⟩
  · intro pv current hphase
    rwa [hphase] at h
  · intro v hphase
    rw [hphase] at h
    exact h
  · intro hphase
    rw [hphase] at h
    cases h

/-- A step that keeps builds and replicas and moves runs only into idle phases. -/
theorem Ordered.frame {s' : State C E R} (h : Ordered s) (hbuilds : s'.builds = s.builds)
    (hreplicas : s'.replicas = s.replicas) (hcounter : s.counter ≤ s'.counter)
    (hruns : ∀ r run, s'.runs r = some run → s.runs r = some run ∨ Idle s run) : Ordered s' := by
  have hretry : ∀ r run v, s'.runs r = some run → run.phase = .retry v → s.runs r = some run := by
    intro r run v hrun hphase
    rcases hruns r run hrun with hold | hidle
    · exact hold
    · exact absurd hphase (hidle.no_retry v)
  refine ⟨h.counter_nonneg.trans hcounter, hbuilds ▸ h.builds_sorted, ?_, ?_, ?_, ?_, ?_, ?_, ?_,
    ?_, ?_, ?_⟩
  · intro b hb
    rw [hbuilds] at hb
    have hrange := h.builds_range b hb
    exact ⟨hrange.1, hrange.2.trans hcounter⟩
  · intro r run hrun
    rw [hbuilds]
    rcases hruns r run hrun with hold | hidle
    · exact h.run_built r run hold
    · exact hidle.built
  · intro r run pv current hrun hphase
    rcases hruns r run hrun with hold | hidle
    · exact h.cas_le r run pv current hold hphase
    · exact hidle.cas_le pv current hphase
  · intro r run v hrun hphase
    have hrange := h.retry_range r run v (hretry r run v hrun hphase) hphase
    exact ⟨hrange.1, hrange.2.trans hcounter⟩
  · intro r run v b hrun hphase hb
    rw [hbuilds] at hb
    exact h.retry_own r run v b (hretry r run v hrun hphase) hphase hb
  · intro e c hheld
    rw [hreplicas] at hheld ⊢
    rw [hbuilds]
    exact h.held_body e c hheld
  · intro r run v c b hrun hphase hlt hb
    rw [hbuilds] at hb
    rw [hreplicas]
    exact h.retry_body r run v c b (hretry r run v hrun hphase) hphase hlt hb
  · intro r run v r' run' v' hrun hphase hrun' hphase' hendpoint hlt
    rw [hreplicas]
    exact h.retry_retry r run v r' run' v' (hretry r run v hrun hphase) hphase
      (hretry r' run' v' hrun' hphase') hphase' hendpoint hlt
  · intro r run v c hrun hphase hheld hlt
    rw [hreplicas] at hheld ⊢
    exact h.retry_held r run v c (hretry r run v hrun hphase) hphase hheld hlt
  · intro r run hrun hphase
    rw [hreplicas]
    rcases hruns r run hrun with hold | hidle
    · exact h.success_held r run hold hphase
    · exact hidle.success_held hphase

theorem Ordered.build (h : Ordered s) (hcounter : s.counter < maxInt64) (content : C) :
    Ordered { s with
      counter := wrap64 (s.counter + 1)
      builds := s.builds ++ [⟨wrap64 (s.counter + 1), content⟩] } := by
  have hnonneg := h.counter_nonneg
  rw [wrap64_succ hnonneg hcounter]
  have hold : ∀ (c : ℕ) (b : Build C), (s.builds ++ [⟨s.counter + 1, content⟩])[c]? = some b →
      s.builds[c]? = some b ∨ b.version = s.counter + 1 := by
    intro c b hb
    by_cases hc : c < s.builds.length
    · exact Or.inl (by rwa [List.getElem?_append_left hc] at hb)
    · rw [List.getElem?_append_right (by omega), List.getElem?_singleton] at hb
      split at hb
      · cases hb
        exact Or.inr rfl
      · cases hb
  refine ⟨by dsimp only; omega, ?_, ?_, ?_, h.cas_le, ?_, ?_, ?_, ?_, h.retry_retry, h.retry_held,
    h.success_held⟩
  · refine List.pairwise_append.mpr ⟨h.builds_sorted, List.pairwise_singleton _ _, ?_⟩
    intro b hb b' hb'
    rw [List.mem_singleton.mp hb']
    have hrange := h.builds_range b hb
    dsimp only
    omega
  · intro b hb
    dsimp only at hb ⊢
    rcases List.mem_append.mp hb with hb | hb
    · have hrange := h.builds_range b hb
      omega
    · rw [List.mem_singleton.mp hb]
      dsimp only
      omega
  · intro r run hrun
    have hbuilt := h.run_built r run hrun
    rw [List.length_append]
    omega
  · intro r run v hrun hphase
    have hrange := h.retry_range r run v hrun hphase
    dsimp only
    omega
  · intro r run v b hrun hphase hb
    have hlt := h.run_built r run hrun
    rw [List.getElem?_append_left hlt] at hb
    exact h.retry_own r run v b hrun hphase hb
  · intro e c hheld
    obtain ⟨b, hb, hle⟩ := h.held_body e c hheld
    have hlt : c < s.builds.length := (List.getElem?_eq_some_iff.mp hb).1
    exact ⟨b, by rwa [List.getElem?_append_left hlt], hle⟩
  · intro r run v c b hrun hphase hlt hb
    rcases hold c b hb with hb | hversion
    · exact h.retry_body r run v c b hrun hphase hlt hb
    · have hrange := h.retry_range r run v hrun hphase
      left
      omega

/-- A delivered payload is at least as new as what the replica held. -/
theorem Ordered.held_le (h : Ordered s) (hrun : s.runs r = some run)
    (hsends : Sends s run version)
    (hfresh : 0 < version → (s.replicas run.endpoint).version ≤ version) (c : ℕ)
    (hheld : (s.replicas run.endpoint).held = some c) : c ≤ run.build := by
  by_contra hlt
  have hlt' : run.build < c := Nat.lt_of_not_le hlt
  rcases hsends with ⟨-, b, hb, rfl⟩ | hphase
  · obtain ⟨b', hb', hle⟩ := h.held_body run.endpoint c hheld
    have hpos := (h.builds_range b (List.mem_of_getElem? hb)).1
    obtain ⟨hcl, rfl⟩ := List.getElem?_eq_some_iff.mp hb
    obtain ⟨hdl, rfl⟩ := List.getElem?_eq_some_iff.mp hb'
    have hbb := List.pairwise_iff_getElem.mp h.builds_sorted _ _ hcl hdl hlt'
    omega
  · have hdead := h.retry_held r run version c hrun hphase hheld hlt'
    have hpos := (h.retry_range r run version hrun hphase).1
    omega

/-- A payload is sent under its own build's version or a later one. -/
theorem Ordered.sends_body (h : Ordered s) (hrun : s.runs r = some run)
    (hsends : Sends s run version) : ∃ b, s.builds[run.build]? = some b ∧ b.version ≤ version := by
  rcases hsends with ⟨-, b, hb, rfl⟩ | hphase
  · exact ⟨b, hb, le_refl _⟩
  · have hbuilt := List.getElem?_eq_getElem (h.run_built r run hrun)
    exact ⟨_, hbuilt, (h.retry_own r run version _ hrun hphase hbuilt).le⟩

/-- A re-stamped payload of an older build is behind whatever newer payload the
replica accepts. -/
theorem Ordered.retry_lt (h : Ordered s) {r' : R} {run' : PushRun E} {v : ℤ}
    (hrun : s.runs r = some run) (hsends : Sends s run version)
    (hfresh : (s.replicas run.endpoint).version ≤ version) (hrun' : s.runs r' = some run')
    (hphase' : run'.phase = .retry v) (hendpoint : run'.endpoint = run.endpoint)
    (hlt : run'.build < run.build) : v < version := by
  rcases hsends with ⟨-, b, hb, rfl⟩ | hphase
  · rcases h.retry_body r' run' v run.build b hrun' hphase' hlt hb with hv | hdead
    · exact hv
    · rw [hendpoint] at hdead
      omega
  · rcases h.retry_retry r' run' v r run version hrun' hphase' hrun hphase hendpoint.symm hlt with
      hv | hdead
    · exact hv
    · rw [hendpoint] at hdead
      omega

variable [DecidableEq E] [DecidableEq R]

omit [DecidableEq E] in
theorem Ordered.add (h : Ordered s) (hcounter : s.counter < maxInt64) (hrun : s.runs r = some run)
    (hfree : NotOvertaken s run) :
    Ordered ({ s with counter := wrap64 (s.counter + 1) }.setPhase r run
      (.retry (wrap64 (s.counter + 1)))) := by
  have hnonneg := h.counter_nonneg
  rw [wrap64_succ hnonneg hcounter]
  have hbefore : ∀ r' run' v, s.runs r' = some run' → run'.phase = .retry v → v < s.counter + 1 := by
    intro r' run' v hrun' hphase
    have hrange := h.retry_range r' run' v hrun' hphase
    omega
  refine ⟨?_, h.builds_sorted, ?_, ?_, ?_, ?_, ?_, h.held_body, ?_, ?_, ?_, ?_⟩
  · dsimp only [State.setPhase, State.setRun]
    omega
  · intro b hb
    have hrange := h.builds_range b hb
    dsimp only [State.setPhase, State.setRun]
    omega
  · intro r' run' hrun'
    rcases runs_setPhase hrun' with rfl | hold
    · exact h.run_built r run hrun
    · exact h.run_built r' run' hold
  · intro r' run' pv current hrun' hphase
    rcases runs_setPhase hrun' with rfl | hold
    · cases hphase
    · exact h.cas_le r' run' pv current hold hphase
  · intro r' run' v hrun' hphase
    dsimp only [State.setPhase, State.setRun]
    rcases runs_setPhase hrun' with rfl | hold
    · cases hphase
      omega
    · have hrange := h.retry_range r' run' v hold hphase
      omega
  · intro r' run' v b hrun' hphase hb
    rcases runs_setPhase hrun' with rfl | hold
    · cases hphase
      have hrange := h.builds_range b (List.mem_of_getElem? hb)
      omega
    · exact h.retry_own r' run' v b hold hphase hb
  · intro r' run' v c b hrun' hphase hlt hb
    rcases runs_setPhase hrun' with rfl | hold
    · obtain ⟨i, rfl⟩ := Nat.exists_eq_add_of_lt hlt
      refine Or.inr (hfree.bodies b (List.mem_iff_getElem?.mpr ⟨i, ?_⟩))
      rw [List.getElem?_drop, Nat.add_right_comm]
      exact hb
    · exact h.retry_body r' run' v c b hold hphase hlt hb
  · intro r' run' v r'' run'' v'' hrun' hphase hrun'' hphase'' hendpoint hlt
    rcases runs_setPhase hrun' with rfl | hold
    · rcases runs_setPhase hrun'' with rfl | hold''
      · exact absurd hlt (lt_irrefl _)
      · exact Or.inr (hfree.retries r'' run'' hold'' hendpoint hlt v'' (by rw [hphase'']; rfl))
    · rcases runs_setPhase hrun'' with rfl | hold''
      · cases hphase''
        exact Or.inl (hbefore r' run' v hold hphase)
      · exact h.retry_retry r' run' v r'' run'' v'' hold hphase hold'' hphase'' hendpoint hlt
  · intro r' run' v c hrun' hphase hheld hlt
    rcases runs_setPhase hrun' with rfl | hold
    · exact absurd (hfree.held c hheld) (Nat.not_le_of_lt hlt)
    · exact h.retry_held r' run' v c hold hphase hheld hlt
  · intro r' run' hrun' hphase
    rcases runs_setPhase hrun' with rfl | hold
    · cases hphase
    · exact h.success_held r' run' hold hphase

omit [DecidableEq R] in
/-- The replica takes the payload; the runs stand where they stood. -/
theorem Ordered.deliver (h : Ordered s) (hrun : s.runs r = some run)
    (hsends : Sends s run version)
    (hfresh : 0 < version → (s.replicas run.endpoint).version ≤ version) :
    Ordered (s.setReplica run.endpoint ⟨version, some run.build⟩) := by
  have hpos : 0 < version := by
    rcases hsends with ⟨-, b, hb, rfl⟩ | hphase
    · exact (h.builds_range b (List.mem_of_getElem? hb)).1
    · exact (h.retry_range r run version hrun hphase).1
  have hle := hfresh hpos
  have hself := replicas_setReplica_self s run.endpoint ⟨version, some run.build⟩
  have hother : ∀ e, e ≠ run.endpoint →
      (s.setReplica run.endpoint ⟨version, some run.build⟩).replicas e = s.replicas e :=
    fun e he => replicas_setReplica_of_ne s _ he
  have hmono : ∀ e, (s.replicas e).version ≤
      ((s.setReplica run.endpoint ⟨version, some run.build⟩).replicas e).version := by
    intro e
    by_cases he : e = run.endpoint
    · rw [he, hself]
      exact hle
    · rw [hother e he]
  refine ⟨h.counter_nonneg, h.builds_sorted, h.builds_range, h.run_built, h.cas_le, h.retry_range,
    h.retry_own, ?_, ?_, ?_, ?_, ?_⟩
  · intro e c hheld
    by_cases he : e = run.endpoint
    · rw [he, hself] at hheld ⊢
      cases hheld
      exact h.sends_body hrun hsends
    · rw [hother e he] at hheld ⊢
      exact h.held_body e c hheld
  · intro r' run' v c b hrun' hphase hlt hb
    rcases h.retry_body r' run' v c b hrun' hphase hlt hb with hv | hdead
    · exact Or.inl hv
    · exact Or.inr (hdead.trans_le (hmono _))
  · intro r' run' v r'' run'' v'' hrun' hphase hrun'' hphase'' hendpoint hlt
    rcases h.retry_retry r' run' v r'' run'' v'' hrun' hphase hrun'' hphase'' hendpoint hlt with
      hv | hdead
    · exact Or.inl hv
    · exact Or.inr (hdead.trans_le (hmono _))
  · intro r' run' v c hrun' hphase hheld hlt
    by_cases he : run'.endpoint = run.endpoint
    · rw [he, hself] at hheld ⊢
      cases hheld
      exact h.retry_lt hrun hsends hle hrun' hphase he hlt
    · rw [hother _ he] at hheld ⊢
      exact h.retry_held r' run' v c hrun' hphase hheld hlt
  · intro r' run' hrun' hphase
    obtain ⟨c, hheld, hlec⟩ := h.success_held r' run' hrun' hphase
    by_cases he : run'.endpoint = run.endpoint
    · rw [he] at hheld ⊢
      exact ⟨run.build, by rw [hself], hlec.trans (h.held_le hrun hsends hfresh c hheld)⟩
    · rw [hother _ he]
      exact ⟨c, hheld, hlec⟩

omit [DecidableEq E] in
/-- A run moves into an idle phase. -/
theorem Ordered.settle {t : State C E R} (h : Ordered s) (hbuilds : t.builds = s.builds)
    (hreplicas : t.replicas = s.replicas) (hruns : t.runs = s.runs)
    (hcounter : s.counter ≤ t.counter) (r : R) {phase : Phase}
    (hidle : Idle s { run with phase := phase }) : Ordered (t.setPhase r run phase) := by
  refine h.frame hbuilds hreplicas hcounter ?_
  intro r' run' hrun'
  rcases runs_setPhase hrun' with rfl | hold
  · exact Or.inr hidle
  · exact Or.inl (hruns ▸ hold)

theorem Ordered.accept (h : Ordered s) {success : Bool} (hrun : s.runs r = some run)
    (hsends : Sends s run version)
    (hfresh : 0 < version → (s.replicas run.endpoint).version ≤ version) :
    Ordered ((s.setReplica run.endpoint ⟨version, some run.build⟩).setPhase r run
      (.done success)) := by
  refine (h.deliver hrun hsends hfresh).settle rfl rfl rfl (le_refl _) r ?_
  refine ⟨h.run_built r run hrun, by simp, by simp, ?_⟩
  intro _
  exact ⟨run.build, by rw [replicas_setReplica_self], le_refl _⟩

theorem Ordered.step {s' : State C E R} {a : Action C E R} (h : Ordered s) (hguard : InOrder s a)
    (hstep : Pusher.step a s = some s') : Ordered s' := by
  cases move_of_step hstep with
  | build content => exact h.build hguard content
  | burn =>
    refine h.frame rfl rfl ?_ (fun r run hrun => Or.inl hrun)
    rw [wrap64_succ h.counter_nonneg hguard]
    dsimp only
    omega
  | start r e c hfree hbuilt =>
    refine h.frame rfl rfl (le_refl _) ?_
    intro r' run' hrun'
    rcases runs_setRun hrun' with ⟨-, rfl⟩ | ⟨-, hold⟩
    · exact Or.inr (Quiet.idle trivial hbuilt)
    · exact Or.inl hold
  | quiet _ r run phase hrun hlive hquiet =>
    exact h.settle rfl rfl rfl (le_refl _) r (Quiet.idle hquiet (h.run_built r run hrun))
  | swap r run pv hrun hphase =>
    have hle := h.cas_le r run pv s.counter hrun hphase
    have hlt := hguard run hrun pv (by rw [hphase]; rfl)
    have hidle : Idle s { run with phase := .add } :=
      Quiet.idle trivial (h.run_built r run hrun)
    refine h.settle (t := { s with counter := wrap64 (pv + 1) }) rfl rfl rfl ?_ r hidle
    rw [wrap64_succ (h.counter_nonneg.trans hle) hlt]
    dsimp only
    omega
  | add r run hrun hphase => exact h.add hguard.1 hrun (hguard.2 run hrun)
  | accept _ r run version success hrun hsends hfresh => exact h.accept hrun hsends hfresh

/-- A run that delivered this build to this endpoint has returned success. -/
def Succeeded (s : State C E R) (e : E) (c : ℕ) : Prop :=
  ∃ r run, s.runs r = some run ∧ run.endpoint = e ∧ run.build = c ∧ run.phase = .done true

theorem Succeeded.step {s' : State C E R} {a : Action C E R} {e : E} (h : Succeeded s e c)
    (hstep : Pusher.step a s = some s') : Succeeded s' e c := by
  obtain ⟨r, run, hrun, he, hc, hphase⟩ := h
  have hkeep : ∀ (t : State C E R) (r' : R) (run' new : PushRun E), t.runs = s.runs →
      s.runs r' = some run' → run'.phase.Live → Succeeded (t.setRun r' new) e c := by
    intro t r' run' new ht hrun' hlive
    have hne : r ≠ r' := by
      intro heq
      subst heq
      rw [hrun] at hrun'
      cases hrun'
      exact hlive true hphase
    refine ⟨r, run, ?_, he, hc, hphase⟩
    simp [State.setRun, Function.update_of_ne hne, ht, hrun]
  cases move_of_step hstep with
  | build content => exact ⟨r, run, hrun, he, hc, hphase⟩
  | burn => exact ⟨r, run, hrun, he, hc, hphase⟩
  | start r' e' c' hfree hbuilt =>
    have hne : r ≠ r' := by
      intro heq
      rw [heq, hfree] at hrun
      cases hrun
    refine ⟨r, run, ?_, he, hc, hphase⟩
    simp [State.setRun, Function.update_of_ne hne, hrun]
  | quiet _ r' run' phase hrun' hlive hquiet => exact hkeep s r' run' _ rfl hrun' hlive
  | swap r' run' pv hrun' hphase' => exact hkeep _ r' run' _ rfl hrun' (by simp [Phase.Live, hphase'])
  | add r' run' hrun' hphase' => exact hkeep _ r' run' _ rfl hrun' (by simp [Phase.Live, hphase'])
  | accept _ r' run' version success hrun' hsends hfresh =>
    exact hkeep _ r' run' _ rfl hrun' hsends.live

/-- Once a configuration has been delivered, no later step of an execution in
which no re-stamped run is overtaken puts an older one on the replica. -/
theorem older_never_overwrites {s₀ s s' : State C E R} (hinit : Initial s₀)
    (hbefore : Exec Pusher.step InOrder s₀ s) {e : E} {newer : ℕ} (hsuccess : Succeeded s e newer)
    (hafter : Exec Pusher.step InOrder s s') (older : ℕ) (holder : older < newer) :
    (s'.replicas e).held ≠ some older := by
  have hordered : Ordered s' :=
    (hbefore.trans hafter).invariant (fun _ _ _ h hguard hstep => h.step hguard hstep)
      hinit.ordered
  have hstill : Succeeded s' e newer :=
    hafter.invariant (I := fun t => Succeeded t e newer) (fun _ _ _ h _ hstep => h.step hstep)
      hsuccess
  obtain ⟨r, run, hrun, rfl, rfl, hphase⟩ := hstill
  obtain ⟨h, hheld, hle⟩ := hordered.success_held r run hrun hphase
  rw [hheld]
  intro heq
  cases heq
  omega

end Invariant

section Executions

/-- A replica left ahead of the counter by an earlier controller instance. -/
def aheadState : State Unit Unit (Fin 2) where
  counter := 10
  builds := []
  replicas _ := ⟨100, none⟩
  runs _ := none

/-- Both runs pass the counter check; the run for the newer build then re-stamps
and delivers. -/
def newerDelivers : List (Action Unit Unit (Fin 2)) :=
  [.build (), .build (), .start 0 () 0, .put 0 .complete, .fetch 0 true, .check 0,
    .start 1 () 1, .put 1 .complete, .fetch 1 true, .check 1, .bumpLoad 1, .bumpCAS 1, .add 1,
    .retry 1 .complete]

/-- The run for the older build goes on from its stale check. -/
def olderOverwrites : List (Action Unit Unit (Fin 2)) :=
  [.bumpLoad 0, .add 0, .retry 0 .complete]

/-- Unrestricted interleavings let the older build overwrite the newer one. -/
theorem older_overwrites_newer :
    ∃ s s' : State Unit Unit (Fin 2), Exec Pusher.step Unguarded aheadState s ∧
      Succeeded s () 1 ∧ Exec Pusher.step Unguarded s s' ∧ (s'.replicas ()).held = some 0 := by
  have hrun : (execute Pusher.step newerDelivers aheadState).bind (fun s =>
      (execute Pusher.step olderOverwrites s).map (fun s' =>
        ((s.runs 1).map (fun run => (run.build, run.phase)), (s'.replicas ()).held))) =
      some (some (1, .done true), some 0) := by decide +kernel
  obtain ⟨s, hs, hrest⟩ := Option.bind_eq_some_iff.mp hrun
  obtain ⟨s', hs', hobs⟩ := Option.map_eq_some_iff.mp hrest
  obtain ⟨hphase, hheld⟩ := Prod.mk.inj hobs
  obtain ⟨run, hrun1, hrun2⟩ := Option.map_eq_some_iff.mp hphase
  obtain ⟨hbuild, hdone⟩ := Prod.mk.inj hrun2
  exact ⟨s, s', exec_of_execute hs, ⟨1, run, hrun1, rfl, hbuild, hdone⟩, exec_of_execute hs',
    hheld⟩

/-- The newer build is re-stamped and delivered while nothing overtakes it; the
older run, answered 409, then finds the counter ahead and gives up. -/
def orderedDelivery : List (Action Unit Unit (Fin 2)) :=
  [.build (), .build (), .start 1 () 1, .put 1 .complete, .fetch 1 true, .check 1, .bumpLoad 1,
    .bumpCAS 1, .add 1, .retry 1 .complete]

def lateOlderPush : List (Action Unit Unit (Fin 2)) :=
  [.start 0 () 0, .put 0 .complete, .fetch 0 true, .check 0]

theorem orderedDelivery_keeps_newer :
    ∃ s s' : State Unit Unit (Fin 2), Exec Pusher.step InOrder aheadState s ∧
      Succeeded s () 1 ∧ Exec Pusher.step InOrder s s' ∧ (s'.replicas ()).held ≠ some 0 := by
  have hrun : (execute Pusher.step orderedDelivery aheadState).bind (fun s =>
      (execute Pusher.step lateOlderPush s).map (fun _ =>
        (s.runs 1).map (fun run => (run.build, run.phase)))) =
      some (some (1, .done true)) := by decide +kernel
  obtain ⟨s, hs, hrest⟩ := Option.bind_eq_some_iff.mp hrun
  obtain ⟨s', hs', hobs⟩ := Option.map_eq_some_iff.mp hrest
  obtain ⟨run, hrun1, hrun2⟩ := Option.map_eq_some_iff.mp hobs
  obtain ⟨hbuild, hdone⟩ := Prod.mk.inj hrun2
  have hguarded : Guarded Pusher.step InOrder (orderedDelivery ++ lateOlderPush) aheadState := by
    decide +kernel
  obtain ⟨hfirst, hsecond⟩ := guarded_append hs hguarded
  have hbefore := exec_of_guarded hs hfirst
  have hafter := exec_of_guarded hs' hsecond
  have hsuccess : Succeeded s () 1 := ⟨1, run, hrun1, rfl, hbuild, hdone⟩
  exact ⟨s, s', hbefore, hsuccess, hafter,
    older_never_overwrites ⟨by decide, rfl, fun _ => rfl, fun _ => rfl⟩ hbefore hsuccess hafter 0 (by decide)⟩

end Executions

end TunnelGateway.PushOrder
