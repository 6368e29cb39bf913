import TunnelGateway.PushOrder
import TunnelGateway.PushState
import Mathlib.Data.Fintype.Prod

/-!
Soundness of the steady-state skip. The skip key (hash, token, endpoint set)
claims that every recorded endpoint holds the recorded configuration. Pushes
overlap, and recording does not look at what was recorded before: a push that
delivered first and records last leaves a key for a configuration the replicas no
longer hold. `InSequence` asks that a successful push records before any push of
a later, different configuration to one of its endpoints has ended. Under it the
key is sound whenever no push is in flight.
-/
namespace TunnelGateway.SkipKey

open Execution PushState
open Pusher (PushRun Phase)
open PushOrder (Ordered InOrder Sends)

section Effect

variable {C E R : Type*} [DecidableEq E] [DecidableEq R]

/-- What a step of the delivery protocol can change. -/
structure Effect (s : Pusher.State C E R) (a : Pusher.Action C E R) (s' : Pusher.State C E R) :
    Prop where
  builds : s.builds <+: s'.builds
  runs : ∀ r run', s'.runs r = some run' → s.runs r = some run' ∨
    (∃ run, s.runs r = some run ∧ run.phase.Live ∧ run'.endpoint = run.endpoint ∧
      run'.build = run.build) ∨
    (s.runs r = none ∧ a = .start r run'.endpoint run'.build)
  replicas : ∀ e, s'.replicas e = s.replicas e ∨ ∃ r run, s.runs r = some run ∧
    run.phase.Live ∧ run.endpoint = e ∧ (s'.replicas e).held = some run.build
  success : ∀ r run', s'.runs r = some run' → run'.phase = .done true →
    s.runs r = some run' ∨ (s'.replicas run'.endpoint).held = some run'.build

variable {run : PushRun E} {a : Pusher.Action C E R} {s : Pusher.State C E R} {r : R}

omit [DecidableEq E] in
/-- A step that moves one live run on and leaves the replicas alone. -/
private theorem Effect.of_advance {t : Pusher.State C E R} {phase : Phase}
    (hbuilds : t.builds = s.builds) (hreplicas : t.replicas = s.replicas)
    (hruns : t.runs = s.runs) (hrun : s.runs r = some run) (hlive : run.phase.Live)
    (hphase : phase ≠ .done true) : Effect s a (t.setPhase r run phase) where
  builds := by
    change s.builds <+: t.builds
    rw [hbuilds]
  runs r' run' hrun' := by
    rcases Pusher.runs_setRun hrun' with ⟨rfl, rfl⟩ | ⟨-, hold⟩
    · exact Or.inr (Or.inl ⟨run, hrun, hlive, rfl, rfl⟩)
    · exact Or.inl (hruns ▸ hold)
  replicas e := by
    left
    change t.replicas e = s.replicas e
    rw [hreplicas]
  success r' run' hrun' hdone := by
    rcases Pusher.runs_setRun hrun' with ⟨-, rfl⟩ | ⟨-, hold⟩
    · exact absurd hdone hphase
    · exact Or.inl (hruns ▸ hold)

private theorem Effect.of_accept {version : ℤ} {ok : Bool} (hrun : s.runs r = some run)
    (hlive : run.phase.Live) :
    Effect s a ((s.setReplica run.endpoint ⟨version, some run.build⟩).setPhase r run
      (.done ok)) where
  builds := List.prefix_refl _
  runs r' run' hrun' := by
    rcases Pusher.runs_setRun hrun' with ⟨rfl, rfl⟩ | ⟨-, hold⟩
    · exact Or.inr (Or.inl ⟨run, hrun, hlive, rfl, rfl⟩)
    · exact Or.inl hold
  replicas e := by
    by_cases he : e = run.endpoint
    · subst he
      refine Or.inr ⟨r, run, hrun, hlive, rfl, ?_⟩
      exact congrArg Pusher.Replica.held (Pusher.replicas_setReplica_self s run.endpoint _)
    · exact Or.inl (Pusher.replicas_setReplica_of_ne s _ he)
  success r' run' hrun' _ := by
    rcases Pusher.runs_setRun hrun' with ⟨-, rfl⟩ | ⟨-, hold⟩
    · right
      exact congrArg Pusher.Replica.held (Pusher.replicas_setReplica_self s run.endpoint _)
    · exact Or.inl hold

theorem effect_of_step {s' : Pusher.State C E R} (h : Pusher.step a s = some s') :
    Effect s a s' := by
  cases PushOrder.move_of_step h with
  | build content =>
    exact ⟨List.prefix_append _ _, fun r run' hrun' => Or.inl hrun', fun e => Or.inl rfl,
      fun r run' hrun' _ => Or.inl hrun'⟩
  | burn =>
    exact ⟨List.prefix_refl _, fun r run' hrun' => Or.inl hrun', fun e => Or.inl rfl,
      fun r run' hrun' _ => Or.inl hrun'⟩
  | start r e c hfree hbuilt =>
    refine ⟨List.prefix_refl _, ?_, fun e' => Or.inl rfl, ?_⟩
    · intro r' run' hrun'
      rcases Pusher.runs_setRun hrun' with ⟨rfl, rfl⟩ | ⟨-, hold⟩
      · exact Or.inr (Or.inr ⟨hfree, rfl⟩)
      · exact Or.inl hold
    · intro r' run' hrun' hdone
      rcases Pusher.runs_setRun hrun' with ⟨-, rfl⟩ | ⟨-, hold⟩
      · cases hdone
      · exact Or.inl hold
  | quiet _ r run phase hrun hlive hquiet =>
    refine Effect.of_advance rfl rfl rfl hrun hlive ?_
    intro hphase
    rw [hphase] at hquiet
    cases hquiet
  | swap r run pv hrun hphase =>
    exact Effect.of_advance rfl rfl rfl hrun (by simp [Phase.Live, hphase]) (by simp)
  | add r run hrun hphase =>
    exact Effect.of_advance rfl rfl rfl hrun (by simp [Phase.Live, hphase]) (by simp)
  | accept _ r run version ok hrun hsends hfresh => exact Effect.of_accept hrun hsends.live

end Effect

section Moves

variable {C E K : Type*} [DecidableEq E] [DecidableEq K] {hash : C → String}

/-- The delivery protocol takes this step by itself. -/
def Internal : Pusher.Action C E (K × ℕ) → Prop
  | .build _ | .start .. => False
  | _ => True

/-- Everything a step can do. -/
inductive Move (hash : C → String) (s : State C E K) : Action C E K → State C E K → Prop where
  | skip (k : K) (content : C) (resolved : List E) (token : String)
      (push : Pusher.State C E (K × ℕ)) (hlock : s.lock = none)
      (hbuild : Pusher.step (.build content) s.push = some push) :
      Move hash s (.preparePush k content resolved token)
        { s with
          push := push
          target := some { s.target.getD PushTarget.empty with consecutivePushFail := 0 } }
  | prepare (k : K) (content : C) (resolved : List E) (token : String)
      (push : Pusher.State C E (K × ℕ)) (hlock : s.lock = none) (hfree : s.calls k = none)
      (hbuild : Pusher.step (.build content) s.push = some push) :
      Move hash s (.preparePush k content resolved token)
        ({ s with push := push, target := some (s.target.getD PushTarget.empty) }.setCall k
          ⟨false, s.push.builds.length, resolved, token, false⟩)
  | idle (a : Action C E K) : Move hash s a s
  | replay (k : K) (resolved : List E) (token : String) (target : PushTarget E) (c : ℕ)
      (hfree : s.calls k = none) (htarget : s.target = some target)
      (hlast : target.lastCfg = some c) :
      Move hash s (.resyncTarget k resolved token)
        ({ s with lock := some k }.setCall k ⟨true, c, resolved, token, false⟩)
  | start (k : K) (i : ℕ) (call : Call E) (e : E) (push : Pusher.State C E (K × ℕ))
      (hcall : s.calls k = some call) (hactive : call.finished = false)
      (he : call.endpoints[i]? = some e)
      (hstart : Pusher.step (.start (k, i) e call.build) s.push = some push) :
      Move hash s (.start k i) { s with push := push }
  | push (a : Pusher.Action C E (K × ℕ)) (push : Pusher.State C E (K × ℕ)) (ha : Internal a)
      (hstep : Pusher.step a s.push = some push) :
      Move hash s (.push a) { s with push := push }
  | recordPush (k : K) (call : Call E) (ok : Bool) (hcall : s.calls k = some call)
      (hsync : call.replay = false) (hactive : call.finished = false) (hlock : s.lock = none)
      (houtcome : outcome s.push k call.endpoints.length = some ok) :
      Move hash s (.record k)
        ({ s with
            target := recordPush ((hashOf hash s.push call.build).getD "") call ok s.target }.setCall
          k { call with finished := true })
  | recordResync (k : K) (call : Call E) (ok : Bool) (hcall : s.calls k = some call)
      (hactive : call.finished = false) (hlock : s.lock = some k)
      (houtcome : outcome s.push k call.endpoints.length = some ok) :
      Move hash s (.record k)
        ({ s with
            target := recordResync ((hashOf hash s.push call.build).getD "") call ok s.target
            lock := none }.setCall k { call with finished := true })
  | evict (hlock : s.lock = none) : Move hash s .evict { s with target := none }

variable {k : K} {resolved : List E} {s s' : State C E K} {token : String}

private theorem move_of_preparePush {content : C}
    (h : step hash (.preparePush k content resolved token) s = some s') :
    Move hash s (.preparePush k content resolved token) s' := by
  simp only [step] at h
  split at h
  · rename_i hlock hfree
    obtain ⟨push, hbuild, hs'⟩ := Option.map_eq_some_iff.mp h
    split at hs'
    · cases hs'
      exact .skip k content resolved token push hlock hbuild
    · cases hs'
      exact .prepare k content resolved token push hlock hfree hbuild
  · cases h

private theorem move_of_resyncTarget (h : step hash (.resyncTarget k resolved token) s = some s') :
    Move hash s (.resyncTarget k resolved token) s' := by
  simp only [step] at h
  split at h
  · rename_i hlock hfree
    split at h
    · cases h
      exact .idle _
    · rename_i c hlast
      obtain ⟨target, htarget, hc⟩ := Option.bind_eq_some_iff.mp hlast
      cases h
      exact .replay k resolved token target c hfree htarget hc
  · cases h

private theorem move_of_start {i : ℕ} (h : step hash (.start k i) s = some s') :
    Move hash s (.start k i) s' := by
  obtain ⟨call, hcall, h⟩ := Option.bind_eq_some_iff.mp h
  split at h
  · cases h
  · rename_i hactive
    obtain ⟨e, he, h⟩ := Option.bind_eq_some_iff.mp h
    obtain ⟨push, hstart, hs'⟩ := Option.map_eq_some_iff.mp h
    cases hs'
    exact .start k i call e push hcall (by simpa using hactive) he hstart

private theorem move_of_push {a : Pusher.Action C E (K × ℕ)} (h : step hash (.push a) s = some s') :
    Move hash s (.push a) s' := by
  have hinternal : Internal a → (Pusher.step a s.push).map (fun push => { s with push := push }) =
      some s' → Move hash s (.push a) s' := by
    intro ha hmap
    obtain ⟨push, hstep, hs'⟩ := Option.map_eq_some_iff.mp hmap
    cases hs'
    exact .push a push ha hstep
  cases a with
  | build content => cases h
  | start r e c => cases h
  | burn => exact hinternal trivial h
  | put r net => exact hinternal trivial h
  | fetch r ok => exact hinternal trivial h
  | check r => exact hinternal trivial h
  | bumpLoad r => exact hinternal trivial h
  | bumpCAS r => exact hinternal trivial h
  | add r => exact hinternal trivial h
  | retry r net => exact hinternal trivial h

private theorem move_of_record (h : step hash (.record k) s = some s') :
    Move hash s (.record k) s' := by
  obtain ⟨call, hcall, h⟩ := Option.bind_eq_some_iff.mp h
  split at h
  · cases h
  · rename_i hactive
    have hactive' : call.finished = false := by simpa using hactive
    split at h
    · rename_i ok houtcome hsync hlock
      cases h
      exact .recordPush k call ok hcall hsync hactive' hlock houtcome
    · rename_i ok k' houtcome hreplay hlock
      split at h
      · rename_i hk
        subst hk
        cases h
        exact .recordResync k' call ok hcall hactive' hlock houtcome
      · cases h
    · cases h

theorem move_of_step {a : Action C E K} (h : step hash a s = some s') : Move hash s a s' := by
  cases a with
  | preparePush k content resolved token => exact move_of_preparePush h
  | resyncTarget k resolved token => exact move_of_resyncTarget h
  | start k i => exact move_of_start h
  | push a => exact move_of_push h
  | record k => exact move_of_record h
  | evict =>
    simp only [step] at h
    split at h
    · rename_i hlock
      cases h
      exact .evict hlock
    · cases h

end Moves

section Invariant

variable {C E K : Type*} {hash : C → String}

/-- A push still in flight carries this build to this endpoint. -/
def Pending (s : State C E K) (c : ℕ) (e : E) : Prop :=
  ∃ k call, s.calls k = some call ∧ call.build = c ∧ e ∈ call.endpoints ∧ call.finished = false

/-- Runs and delivered builds belong to calls, and the key describes what the
replicas hold up to pushes still in flight. -/
structure Tracked (hash : C → String) (s : State C E K) : Prop where
  ordered : Ordered s.push
  call_built : ∀ k call, s.calls k = some call → call.build < s.push.builds.length
  last_built : ∀ target c, s.target = some target → target.lastCfg = some c →
    c < s.push.builds.length
  run_call : ∀ k i run, s.push.runs (k, i) = some run → ∃ call, s.calls k = some call ∧
    run.build = call.build ∧ call.endpoints[i]? = some run.endpoint ∧
    (run.phase.Live → call.finished = false)
  held_call : ∀ e c, (s.push.replicas e).held = some c → ∃ k call, s.calls k = some call ∧
    call.build = c ∧ e ∈ call.endpoints
  locked : ∀ k, s.lock = some k → ∃ call target, s.calls k = some call ∧
    s.target = some target ∧ target.lastCfg = some call.build
  replayed : ∀ k i run, s.lock = some k → s.push.runs (k, i) = some run →
    run.phase = .done true → ∃ c, (s.push.replicas run.endpoint).held = some c ∧
      (c = run.build ∨ Pending s c run.endpoint)
  last_hash : ∀ target, s.target = some target → target.lastPushedHash ≠ "" →
    ∃ c, target.lastCfg = some c ∧ hashOf hash s.push c = some target.lastPushedHash
  recorded : ∀ target, s.target = some target → target.lastPushedHash ≠ "" →
    ∀ e ∈ target.lastPushedEndpoints, ∃ c, (s.push.replicas e).held = some c ∧
      (hashOf hash s.push c = some target.lastPushedHash ∨ Pending s c e)

/-- No push has been made; the replicas hold anything at any version. -/
structure Initial (s : State C E K) : Prop where
  push : PushOrder.Initial s.push
  target : s.target = none
  calls : ∀ k, s.calls k = none
  lock : s.lock = none

variable {s : State C E K} {call : Call E} {k : K} {ok : Bool}

theorem Initial.tracked (h : Initial s) : Tracked hash s where
  ordered := h.push.ordered
  call_built := by simp [h.calls]
  last_built := by simp [h.target]
  run_call := by simp [h.push.no_runs]
  held_call := by simp [h.push.not_held]
  locked := by simp [h.lock]
  replayed := by simp [h.lock]
  last_hash := by simp [h.target]
  recorded := by simp [h.target]

theorem hashOf_mono {s s' : Pusher.State C E (K × ℕ)} (hbuilds : s.builds <+: s'.builds) {c : ℕ}
    {h : String} (hh : hashOf hash s c = some h) : hashOf hash s' c = some h := by
  obtain ⟨b, hb, hhash⟩ := Option.map_eq_some_iff.mp hh
  obtain ⟨rest, hrest⟩ := hbuilds
  have hlt : c < s.builds.length := (List.getElem?_eq_some_iff.mp hb).1
  rw [hashOf, ← hrest, List.getElem?_append_left hlt, hb]
  exact congrArg some hhash

theorem outcome_done {s : Pusher.State C E (K × ℕ)} {n : ℕ} (h : outcome s k n = some ok) (i : ℕ)
    (hi : i < n) :
    ∃ run ok', s.runs (k, i) = some run ∧ run.phase = .done ok' ∧ (ok = true → ok' = true) := by
  induction n generalizing ok with
  | zero => omega
  | succ n ih =>
    obtain ⟨rest, hrest, h⟩ := Option.bind_eq_some_iff.mp h
    obtain ⟨last, hlast, h⟩ := Option.bind_eq_some_iff.mp h
    cases h
    rcases Nat.lt_succ_iff_lt_or_eq.mp hi with hlt | rfl
    · obtain ⟨run, ok', hrun, hphase, hok⟩ := ih hrest hlt
      refine ⟨run, ok', hrun, hphase, ?_⟩
      intro hand
      exact hok (Bool.and_eq_true_iff.mp hand).1
    · unfold runOutcome at hlast
      split at hlast
      · rename_i e c ok' hrun
        cases hlast
        exact ⟨_, last, hrun, rfl, fun hand => (Bool.and_eq_true_iff.mp hand).2⟩
      · cases hlast

theorem calls_setCall [DecidableEq K] {k' : K} {call' : Call E} (h : (s.setCall k call).calls k' = some call') :
    (k' = k ∧ call' = call) ∨ (k' ≠ k ∧ s.calls k' = some call') := by
  by_cases hk : k' = k
  · subst hk
    simp only [State.setCall, Function.update_self, Option.some.injEq] at h
    exact Or.inl ⟨rfl, h.symm⟩
  · simp only [State.setCall, Function.update_of_ne hk] at h
    exact Or.inr ⟨hk, h⟩

theorem calls_setCall_self [DecidableEq K] (s : State C E K) (k : K) (call : Call E) :
    (s.setCall k call).calls k = some call := by
  simp [State.setCall]

theorem calls_setCall_of_ne [DecidableEq K] (s : State C E K) {k' : K} (call : Call E) (h : k' ≠ k) :
    (s.setCall k call).calls k' = s.calls k' := by
  simp [State.setCall, h]

/-- The push of a later, different configuration to one of the call's endpoints
has ended. -/
def Supersedes (hash : C → String) (s : State C E K) (later call : Call E) : Prop :=
  call.build < later.build ∧ later.finished = true ∧
    (∃ e ∈ call.endpoints, e ∈ later.endpoints) ∧
    hashOf hash s.push later.build ≠ hashOf hash s.push call.build

/-- Deliveries are in order, and so are the records of successful pushes. -/
def InSequence (hash : C → String) (s : State C E K) : Action C E K → Prop
  | .preparePush _ content _ _ => InOrder s.push (.build content)
  | .push a => InOrder s.push a
  | .record k => ∀ call ∈ s.calls k, call.replay = false →
      outcome s.push k call.endpoints.length = some true →
        ∀ k', ∀ later ∈ s.calls k', ¬ Supersedes hash s later call
  | _ => True

instance [DecidableEq E] (s : State C E K) (later call : Call E) :
    Decidable (Supersedes hash s later call) :=
  inferInstanceAs (Decidable (call.build < later.build ∧ later.finished = true ∧
    (∃ e ∈ call.endpoints, e ∈ later.endpoints) ∧
    hashOf hash s.push later.build ≠ hashOf hash s.push call.build))

variable (h : Tracked hash s)

include h

/-- Under no lock the target may be replaced by an empty one or by one with the
same key. -/
theorem Tracked.retarget (hlock : s.lock = none)
    {target : Option (PushTarget E)}
    (hkey : ∀ new, target = some new → (new.lastCfg = none ∧ new.lastPushedHash = "") ∨
      ∃ old, s.target = some old ∧ new.lastCfg = old.lastCfg ∧
        new.lastPushedHash = old.lastPushedHash ∧
        new.lastPushedEndpoints = old.lastPushedEndpoints) :
    Tracked hash { s with target := target } := by
  refine ⟨h.ordered, h.call_built, ?_, h.run_call, h.held_call, ?_, ?_, ?_, ?_⟩
  · intro new c hnew hlast
    rcases hkey new hnew with ⟨hnone, -⟩ | ⟨old, hold, hcfg, -, -⟩
    · rw [hnone] at hlast
      cases hlast
    · exact h.last_built old c hold (hcfg ▸ hlast)
  · intro k hk
    rw [hlock] at hk
    cases hk
  · intro k i run hk
    rw [hlock] at hk
    cases hk
  · intro new hnew hne
    rcases hkey new hnew with ⟨-, hempty⟩ | ⟨old, hold, hcfg, hhash, -⟩
    · exact absurd hempty hne
    · rw [hcfg, hhash]
      exact h.last_hash old hold (hhash ▸ hne)
  · intro new hnew hne e he
    rcases hkey new hnew with ⟨-, hempty⟩ | ⟨old, hold, -, hhash, hendpoints⟩
    · exact absurd hempty hne
    · rw [hhash]
      exact h.recorded old hold (hhash ▸ hne) e (hendpoints ▸ he)

/-- A resync takes the lock before any of its runs exists. -/
theorem Tracked.acquire {target : PushTarget E}
    (hcall : s.calls k = some call) (htarget : s.target = some target)
    (hlast : target.lastCfg = some call.build) (hnone : ∀ i, s.push.runs (k, i) = none) :
    Tracked hash { s with lock := some k } := by
  refine ⟨h.ordered, h.call_built, h.last_built, h.run_call, h.held_call, ?_, ?_, h.last_hash,
    h.recorded⟩
  · intro k' hk'
    cases hk'
    exact ⟨call, target, hcall, htarget, hlast⟩
  · intro k' i run hk' hrun
    cases hk'
    have hrun' : s.push.runs (k, i) = some run := hrun
    rw [hnone i] at hrun'
    cases hrun'

section Call

variable (hcall : s.calls k = some call)

include hcall

theorem Tracked.hashOf_build :
    hashOf hash s.push call.build = some ((hashOf hash s.push call.build).getD "") := by
  simp [hashOf, List.getElem?_eq_getElem (h.call_built k call hcall)]

/-- What a successful run delivered is still there or has been replaced by a
later build. -/
theorem Tracked.delivered
    (houtcome : outcome s.push k call.endpoints.length = some true) {e : E}
    (he : e ∈ call.endpoints) :
    ∃ i run c, s.push.runs (k, i) = some run ∧ run.phase = .done true ∧ run.endpoint = e ∧
      run.build = call.build ∧ (s.push.replicas e).held = some c ∧ call.build ≤ c := by
  obtain ⟨i, hi⟩ := List.mem_iff_getElem?.mp he
  obtain ⟨run, ok, hrun, hphase, hok⟩ :=
    outcome_done houtcome i (List.getElem?_eq_some_iff.mp hi).1
  rw [hok rfl] at hphase
  obtain ⟨call', hcall', hbuild, hendpoint, -⟩ := h.run_call k i run hrun
  rw [hcall] at hcall'
  cases hcall'
  rw [hi] at hendpoint
  cases hendpoint
  obtain ⟨c, hc, hle⟩ := h.ordered.success_held (k, i) run hrun hphase
  exact ⟨i, run, c, hrun, hphase, rfl, hbuild, hc, hbuild ▸ hle⟩

/-- A push that no later one superseded left its digest on every endpoint, up to
pushes still in flight. -/
theorem Tracked.delivered_hash
    (houtcome : outcome s.push k call.endpoints.length = some true)
    (hguard : ∀ k', ∀ later ∈ s.calls k', ¬ Supersedes hash s later call) {e : E}
    (he : e ∈ call.endpoints) :
    ∃ c, (s.push.replicas e).held = some c ∧
      (hashOf hash s.push c = hashOf hash s.push call.build ∨
        (c ≠ call.build ∧ Pending s c e)) := by
  obtain ⟨-, -, c, -, -, -, -, hc, hle⟩ := h.delivered hcall houtcome he
  refine ⟨c, hc, ?_⟩
  rcases hle.eq_or_lt with rfl | hlt
  · exact Or.inl rfl
  · obtain ⟨k', later, hlater, hbuild, hel⟩ := h.held_call e c hc
    by_cases hactive : later.finished = true
    · left
      by_contra hdiff
      exact hguard k' later hlater ⟨hbuild ▸ hlt, hactive, ⟨e, he, hel⟩, hbuild ▸ hdiff⟩
    · exact Or.inr ⟨hlt.ne', k', later, hlater, hbuild, hel, by simpa using hactive⟩

variable [DecidableEq K] (houtcome : outcome s.push k call.endpoints.length = some ok)

include houtcome

/-- A call whose runs have all returned ends, and the lock is free afterwards. -/
theorem Tracked.finish (target : Option (PushTarget E))
    (hlast : ∀ new c, target = some new → new.lastCfg = some c → c < s.push.builds.length)
    (hhash : ∀ new, target = some new → new.lastPushedHash ≠ "" →
      ∃ c, new.lastCfg = some c ∧ hashOf hash s.push c = some new.lastPushedHash)
    (hrecorded : ∀ new, target = some new → new.lastPushedHash ≠ "" →
      ∀ e ∈ new.lastPushedEndpoints, ∃ c, (s.push.replicas e).held = some c ∧
        (hashOf hash s.push c = some new.lastPushedHash ∨ (c ≠ call.build ∧ Pending s c e))) :
    Tracked hash ({ s with target := target, lock := none }.setCall k
      { call with finished := true }) := by
  have hkeep : ∀ k' call', s.calls k' = some call' → ∃ call'',
      ({ s with target := target, lock := none }.setCall k
        { call with finished := true }).calls k' = some call'' ∧
      call''.build = call'.build ∧ call''.endpoints = call'.endpoints ∧
      (k' ≠ k → call'' = call') := by
    intro k' call' hcall'
    by_cases hk : k' = k
    · subst hk
      rw [hcall] at hcall'
      cases hcall'
      exact ⟨_, calls_setCall_self _ _ _, rfl, rfl, fun hne => absurd rfl hne⟩
    · exact ⟨call', (calls_setCall_of_ne _ _ hk).trans hcall', rfl, rfl, fun _ => rfl⟩
  refine ⟨h.ordered, ?_, hlast, ?_, ?_, ?_, ?_, hhash, ?_⟩
  · intro k' call' hcall'
    rcases calls_setCall hcall' with ⟨-, rfl⟩ | ⟨-, hold⟩
    · exact h.call_built k call hcall
    · exact h.call_built k' call' hold
  · intro k' i run hrun
    obtain ⟨call', hcall', hbuild, hendpoint, hactive⟩ := h.run_call k' i run hrun
    obtain ⟨call'', hcall'', hbuild', hendpoints, hother⟩ := hkeep k' call' hcall'
    refine ⟨call'', hcall'', hbuild.trans hbuild'.symm, hendpoints ▸ hendpoint, ?_⟩
    intro hlive
    by_cases hk : k' = k
    · subst hk
      rw [hcall] at hcall'
      cases hcall'
      have hi : i < call.endpoints.length := (List.getElem?_eq_some_iff.mp hendpoint).1
      obtain ⟨run', ok', hrun', hdone, -⟩ := outcome_done houtcome i hi
      have hsame : s.push.runs (k', i) = some run := hrun
      rw [hrun'] at hsame
      cases hsame
      exact absurd hdone (hlive ok')
    · rw [hother hk]
      exact hactive hlive
  · intro e c hc
    obtain ⟨k', call', hcall', hbuild, he⟩ := h.held_call e c hc
    obtain ⟨call'', hcall'', hbuild', hendpoints, -⟩ := hkeep k' call' hcall'
    exact ⟨k', call'', hcall'', hbuild'.trans hbuild, hendpoints ▸ he⟩
  · intro k' hk'
    cases hk'
  · intro k' i run hk'
    cases hk'
  · intro new hnew hne e he
    obtain ⟨c, hc, hor⟩ := hrecorded new hnew hne e he
    refine ⟨c, hc, hor.imp_right ?_⟩
    intro hp
    obtain ⟨hother, k', call', hcall', hbuild, he', hactive⟩ := hp
    have hk : k' ≠ k := by
      intro heq
      rw [heq, hcall] at hcall'
      cases hcall'
      exact hother hbuild.symm
    exact ⟨k', call', (calls_setCall_of_ne _ _ hk).trans hcall', hbuild, he', hactive⟩

/-- A call ends with the key cleared. -/
theorem Tracked.finish_cleared {old new : PushTarget E}
    (htarget : s.target = some old) (hlast : new.lastCfg = old.lastCfg)
    (hcleared : new.lastPushedHash = "") :
    Tracked hash ({ s with target := some new, lock := none }.setCall k
      { call with finished := true }) := by
  refine h.finish hcall houtcome (some new) ?_ ?_ ?_
  · intro target c hnew hc
    cases hnew
    exact h.last_built old c htarget (hlast ▸ hc)
  · intro target hnew hne
    cases hnew
    exact absurd hcleared hne
  · intro target hnew hne
    cases hnew
    exact absurd hcleared hne

variable [DecidableEq E]

theorem Tracked.recordPush (hlock : s.lock = none)
    (hguard : ok = true → ∀ k', ∀ later ∈ s.calls k', ¬ Supersedes hash s later call) :
    Tracked hash ({ s with
      target := PushState.recordPush ((hashOf hash s.push call.build).getD "") call ok
        s.target }.setCall k { call with finished := true }) := by
  have hhash := h.hashOf_build hcall
  have hfinish := h.finish hcall houtcome
    (PushState.recordPush ((hashOf hash s.push call.build).getD "") call ok s.target)
  rw [← hlock] at hfinish
  cases htarget : s.target with
  | none =>
    rw [htarget] at hfinish
    exact hfinish (by simp [PushState.recordPush]) (by simp [PushState.recordPush])
      (by simp [PushState.recordPush])
  | some old =>
    rw [htarget] at hfinish
    cases ok with
    | false =>
      rw [hlock]
      exact h.finish_cleared hcall houtcome htarget rfl rfl
    | true =>
      refine hfinish ?_ ?_ ?_
      · intro new c hnew hlast
        cases hnew
        cases hlast
        exact h.call_built k call hcall
      · intro new hnew _
        cases hnew
        exact ⟨call.build, rfl, hhash⟩
      · intro new hnew _ e he
        cases hnew
        obtain ⟨c, hc, hor⟩ :=
          h.delivered_hash hcall houtcome (hguard rfl) (List.mem_toFinset.mp he)
        exact ⟨c, hc, hor.imp_left (fun heq => heq.trans hhash)⟩

theorem Tracked.recordResync (hlock : s.lock = some k) :
    Tracked hash ({ s with
      target := PushState.recordResync ((hashOf hash s.push call.build).getD "") call ok s.target
      lock := none }.setCall k { call with finished := true }) := by
  have hhash := h.hashOf_build hcall
  obtain ⟨call', old, hcall', htarget, hlast⟩ := h.locked k hlock
  rw [hcall] at hcall'
  cases hcall'
  rw [htarget]
  cases ok with
  | false => exact h.finish_cleared hcall houtcome htarget rfl rfl
  | true =>
    refine h.finish hcall houtcome _ ?_ ?_ ?_
    · intro new c hnew hc
      cases hnew
      exact h.last_built old c htarget hc
    · intro new hnew _
      cases hnew
      exact ⟨call.build, hlast, hhash⟩
    · intro new hnew _ e he
      cases hnew
      obtain ⟨i, run, -, hrun, hphase, rfl, hbuild, -, -⟩ :=
        h.delivered hcall houtcome (List.mem_toFinset.mp he)
      obtain ⟨c, hc, hor⟩ := h.replayed k i run hlock hrun hphase
      refine ⟨c, hc, ?_⟩
      by_cases hsame : c = call.build
      · exact Or.inl (hsame ▸ hhash)
      · rcases hor with heq | hpending
        · exact absurd (heq.trans hbuild) hsame
        · exact Or.inr ⟨hsame, hpending⟩

end Call

variable [DecidableEq K]

/-- A new call leaves everything already tracked in place. -/
theorem Tracked.enter (hfree : s.calls k = none)
    (hbuilt : call.build < s.push.builds.length) : Tracked hash (s.setCall k call) := by
  have hkeep : ∀ k' call', s.calls k' = some call' →
      (s.setCall k call).calls k' = some call' := by
    intro k' call' hcall'
    have hne : k' ≠ k := by
      intro heq
      rw [heq, hfree] at hcall'
      cases hcall'
    rw [calls_setCall_of_ne s call hne]
    exact hcall'
  have hpending : ∀ c e, Pending s c e → Pending (s.setCall k call) c e := by
    intro c e hp
    obtain ⟨k', call', hcall', hrest⟩ := hp
    exact ⟨k', call', hkeep k' call' hcall', hrest⟩
  refine ⟨h.ordered, ?_, h.last_built, ?_, ?_, ?_, ?_, h.last_hash, ?_⟩
  · intro k' call' hcall'
    rcases calls_setCall hcall' with ⟨-, rfl⟩ | ⟨-, hold⟩
    · exact hbuilt
    · exact h.call_built k' call' hold
  · intro k' i run hrun
    obtain ⟨call', hcall', hrest⟩ := h.run_call k' i run hrun
    exact ⟨call', hkeep k' call' hcall', hrest⟩
  · intro e c hc
    obtain ⟨k', call', hcall', hrest⟩ := h.held_call e c hc
    exact ⟨k', call', hkeep k' call' hcall', hrest⟩
  · intro k' hk'
    obtain ⟨call', target, hcall', hrest⟩ := h.locked k' hk'
    exact ⟨call', target, hkeep k' call' hcall', hrest⟩
  · intro k' i run hk' hrun hdone
    obtain ⟨c, hc, hor⟩ := h.replayed k' i run hk' hrun hdone
    exact ⟨c, hc, hor.imp_right (hpending c _)⟩
  · intro target htarget hne e he
    obtain ⟨c, hc, hor⟩ := h.recorded target htarget hne e he
    exact ⟨c, hc, hor.imp_right (hpending c e)⟩

variable [DecidableEq E]

/-- A step of the delivery protocol keeps the invariant when the runs it starts
belong to unfinished calls. -/
theorem Tracked.deliver {a : Pusher.Action C E (K × ℕ)}
    {push : Pusher.State C E (K × ℕ)} (hguard : InOrder s.push a)
    (hstep : Pusher.step a s.push = some push)
    (hstart : ∀ k i e c, a = .start (k, i) e c → ∃ call, s.calls k = some call ∧
      c = call.build ∧ call.endpoints[i]? = some e ∧ call.finished = false) :
    Tracked hash { s with push := push } := by
  have heffect := effect_of_step hstep
  have hlength : s.push.builds.length ≤ push.builds.length := heffect.builds.length_le
  have hheld : ∀ e, push.replicas e = s.push.replicas e ∨
      ∃ c, (push.replicas e).held = some c ∧ Pending s c e := by
    intro e
    rcases heffect.replicas e with hsame | ⟨⟨k, i⟩, run, hrun, hlive, rfl, hnew⟩
    · exact Or.inl hsame
    · obtain ⟨call, hcall, hbuild, hendpoint, hactive⟩ := h.run_call k i run hrun
      exact Or.inr ⟨run.build, hnew, k, call, hcall, hbuild.symm,
        List.mem_of_getElem? hendpoint, hactive hlive⟩
  refine ⟨h.ordered.step hguard hstep, ?_, ?_, ?_, ?_, h.locked, ?_, ?_, ?_⟩
  · intro k call hcall
    exact (h.call_built k call hcall).trans_le hlength
  · intro target c htarget hlast
    exact (h.last_built target c htarget hlast).trans_le hlength
  · intro k i run' hrun'
    rcases heffect.runs (k, i) run' hrun' with hold | ⟨run, hrun, hlive, he, hc⟩ | ⟨-, rfl⟩
    · exact h.run_call k i run' hold
    · obtain ⟨call, hcall, hbuild, hendpoint, hactive⟩ := h.run_call k i run hrun
      exact ⟨call, hcall, hc.trans hbuild, he ▸ hendpoint, fun _ => hactive hlive⟩
    · obtain ⟨call, hcall, hbuild, hendpoint, hactive⟩ := hstart k i _ _ rfl
      exact ⟨call, hcall, hbuild, hendpoint, fun _ => hactive⟩
  · intro e c hc
    rcases hheld e with hsame | ⟨c', hnew, k, call, hcall, hbuild, he, -⟩
    · exact h.held_call e c (hsame ▸ hc)
    · rw [hnew] at hc
      cases hc
      exact ⟨k, call, hcall, hbuild, he⟩
  · intro k i run' hlock hrun' hdone
    rcases heffect.success (k, i) run' hrun' hdone with hold | hnew
    · rcases hheld run'.endpoint with hsame | ⟨c, hnew, hpending⟩
      · obtain ⟨c, hc, hor⟩ := h.replayed k i run' hlock hold hdone
        exact ⟨c, hsame ▸ hc, hor⟩
      · exact ⟨c, hnew, Or.inr hpending⟩
    · exact ⟨run'.build, hnew, Or.inl rfl⟩
  · intro target htarget hne
    obtain ⟨c, hlast, hhash⟩ := h.last_hash target htarget hne
    exact ⟨c, hlast, hashOf_mono heffect.builds hhash⟩
  · intro target htarget hne e he
    rcases hheld e with hsame | ⟨c, hnew, hpending⟩
    · obtain ⟨c, hc, hor⟩ := h.recorded target htarget hne e he
      refine ⟨c, hsame ▸ hc, ?_⟩
      rcases hor with hhash | hpending
      · exact Or.inl (hashOf_mono heffect.builds hhash)
      · exact Or.inr hpending
    · exact ⟨c, hnew, Or.inr hpending⟩

/-- A push is built, and the target made or kept as it is. -/
theorem Tracked.build {content : C} {push : Pusher.State C E (K × ℕ)} (hlock : s.lock = none)
    (hguard : InOrder s.push (.build content))
    (hbuild : Pusher.step (.build content) s.push = some push) {new : PushTarget E}
    (hcfg : new.lastCfg = (s.target.getD PushTarget.empty).lastCfg)
    (hhash : new.lastPushedHash = (s.target.getD PushTarget.empty).lastPushedHash)
    (hendpoints : new.lastPushedEndpoints =
      (s.target.getD PushTarget.empty).lastPushedEndpoints) :
    Tracked hash { s with push := push, target := some new } := by
  refine (h.deliver hguard hbuild nofun).retarget hlock ?_
  intro new' hnew
  cases hnew
  cases htarget : s.target with
  | none =>
    rw [htarget] at hcfg hhash
    exact .inl ⟨hcfg, hhash⟩
  | some old =>
    rw [htarget] at hcfg hhash hendpoints
    exact .inr ⟨old, rfl, hcfg, hhash, hendpoints⟩

theorem Tracked.step {s' : State C E K} {a : Action C E K} (hguard : InSequence hash s a)
    (hstep : PushState.step hash a s = some s') : Tracked hash s' := by
  cases move_of_step hstep with
  | skip k content resolved token push hlock hbuild =>
    exact h.build hlock hguard hbuild rfl rfl rfl
  | prepare k content resolved token push hlock hfree hbuild =>
    have hlength : s.push.builds.length < push.builds.length := by
      cases hbuild
      simp
    exact (h.build hlock hguard hbuild rfl rfl rfl).enter hfree hlength
  | idle => exact h
  | replay k resolved token target c hfree htarget hlast =>
    have hentered : Tracked hash (s.setCall k ⟨true, c, resolved, token, false⟩) :=
      h.enter hfree (h.last_built target c htarget hlast)
    refine hentered.acquire (calls_setCall_self s k _) htarget hlast ?_
    intro i
    by_contra hrun
    obtain ⟨run, hrun⟩ := Option.ne_none_iff_exists'.mp hrun
    obtain ⟨call, hcall, -⟩ := h.run_call k i run hrun
    rw [hfree] at hcall
    cases hcall
  | start k i call e push hcall hactive he hstart =>
    refine h.deliver (a := .start (k, i) e call.build) trivial hstart ?_
    intro k' i' e' c' heq
    cases heq
    exact ⟨call, hcall, rfl, he, hactive⟩
  | push a push ha hinner =>
    refine h.deliver hguard hinner ?_
    intro k i e c heq
    subst heq
    exact absurd ha id
  | recordPush k call ok hcall hsync hactive hlock houtcome =>
    refine h.recordPush hcall houtcome hlock ?_
    intro hok
    subst hok
    exact hguard call hcall hsync houtcome
  | recordResync k call ok hcall hactive hlock houtcome =>
    exact h.recordResync hcall houtcome hlock
  | evict hlock => exact h.retarget hlock (by simp)

end Invariant

section Soundness

variable {C E K : Type*} {hash : C → String}

/-- No push is in flight. -/
def Quiescent (s : State C E K) : Prop := ∀ k, ∀ call ∈ s.calls k, call.finished = true

/-- A non-empty key tells the truth: the cached configuration and what every
recorded endpoint holds have the recorded hash. -/
def KeySound (hash : C → String) (s : State C E K) : Prop :=
  ∀ target ∈ s.target, target.lastPushedHash ≠ "" →
    (∃ c ∈ target.lastCfg, hashOf hash s.push c = some target.lastPushedHash) ∧
    ∀ e ∈ target.lastPushedEndpoints, ∃ c ∈ (s.push.replicas e).held,
      hashOf hash s.push c = some target.lastPushedHash

theorem Tracked.keySound {s : State C E K} (h : Tracked hash s) (hquiet : Quiescent s) :
    KeySound hash s := by
  intro target htarget hne
  refine ⟨h.last_hash target htarget hne, ?_⟩
  intro e he
  obtain ⟨c, hc, hhash | ⟨k, call, hcall, -, -, hactive⟩⟩ := h.recorded target htarget hne e he
  · exact ⟨c, hc, hhash⟩
  · rw [hquiet k call hcall] at hactive
    cases hactive

/-- Two configurations with one digest are equal; the empty string stands for a
configuration that could not be encoded. -/
def CollisionFree (hash : C → String) : Prop := ∀ x y, hash x ≠ "" → hash x = hash y → x = y

/-- The replica holds a configuration with the hash of this one. -/
def Holds (hash : C → String) (s : State C E K) (e : E) (content : C) : Prop :=
  ∃ c ∈ (s.push.replicas e).held, ∃ b ∈ s.push.builds[c]?, hash b.content = hash content ∧
    (CollisionFree hash → b.content = content)

variable [DecidableEq E]

/-- Under a sound key a skipped push has nothing to deliver. -/
theorem KeySound.holds_of_skips {s : State C E K} (h : KeySound hash s) {content : C}
    {resolved : List E} {token : String} (hskip : s.skips hash content resolved token = true)
    {e : E} (he : e ∈ resolved) : Holds hash s e content := by
  obtain ⟨hne, heq, hmem⟩ := shouldSkipPush_spec hskip
  cases htarget : s.target with
  | none =>
    rw [htarget] at heq
    exact absurd heq hne
  | some target =>
    rw [htarget] at heq hmem
    obtain ⟨c, hc, hhash⟩ := (h target htarget (heq ▸ hne)).2 e (hmem e he)
    obtain ⟨b, hb, hbhash⟩ := Option.map_eq_some_iff.mp hhash
    have hsame : hash b.content = hash content := hbhash.trans heq.symm
    exact ⟨c, hc, b, hb, hsame, fun hfree => hfree _ _ (hsame ▸ hne) hsame⟩

variable [DecidableEq K]

/-- In an execution in sequence, whenever no push is in flight the skip key is
sound, and a `SyncPartition` that skips leaves every resolved endpoint on the
configuration it has just built. -/
theorem skip_sound {s₀ s : State C E K} (hinit : Initial s₀)
    (run : Exec (PushState.step hash) (InSequence hash) s₀ s) (hquiet : Quiescent s) :
    KeySound hash s ∧ ∀ k content resolved token s',
      PushState.step hash (.preparePush k content resolved token) s = some s' →
      s.skips hash content resolved token = true → ∀ e ∈ resolved, Holds hash s' e content := by
  have htracked : Tracked hash s :=
    run.invariant (fun _ _ _ h hguard hstep => h.step hguard hstep) hinit.tracked
  have hsound := htracked.keySound hquiet
  refine ⟨hsound, ?_⟩
  intro k content resolved token s' hstep hskip e he
  obtain ⟨c, hc, b, hb, hsame⟩ := hsound.holds_of_skips hskip he
  simp only [PushState.step, hskip] at hstep
  split at hstep
  · cases hstep
    refine ⟨c, hc, b, ?_, hsame⟩
    have hlt : c < s.push.builds.length := (List.getElem?_eq_some_iff.mp hb).1
    exact (List.getElem?_append_left hlt).trans hb
  · cases hstep

end Soundness

section Executions

local instance fourCalls : NeZero 4 := ⟨by decide⟩

/-- An empty push state in front of replicas that hold nothing. -/
def emptyState : State String Unit (Fin 4) where
  push := ⟨0, [], fun _ => ⟨0, none⟩, fun _ => none⟩
  target := none
  calls _ := none
  lock := none

/-- Two overlapping pushes, both delivered in build order. -/
def overlap : List (Action String Unit (Fin 4)) :=
  [.preparePush 0 "a" [()] "", .preparePush 1 "b" [()] "", .start 0 0,
    .push (.put (0, 0) .complete), .start 1 0, .push (.put (1, 0) .complete)]

instance (s : State String Unit (Fin 4)) : Decidable (Quiescent s) :=
  inferInstanceAs (Decidable (∀ k, ∀ call ∈ s.calls k, call.finished = true))

/-- The older push records last: the key names "a" while the replica holds "b". -/
theorem late_record_breaks_key :
    ∃ s, Exec (PushState.step id) Unguarded emptyState s ∧ Quiescent s ∧ ¬ KeySound id s := by
  have hrun : (execute (PushState.step id) (overlap ++ [.record 1, .record 0]) emptyState).map
      (fun s => (decide (Quiescent s),
        s.target.map (fun target =>
          (target.lastPushedHash, decide (() ∈ target.lastPushedEndpoints))),
        (s.push.replicas ()).held, hashOf id s.push 1)) =
      some (true, some ("a", true), some 1, some "b") := by
    decide +kernel
  obtain ⟨s, hs, hobs⟩ := Option.map_eq_some_iff.mp hrun
  simp only [Prod.mk.injEq, decide_eq_true_eq] at hobs
  obtain ⟨hquiet, hkey, hheld, hdigest⟩ := hobs
  obtain ⟨target, htarget, hkey⟩ := Option.map_eq_some_iff.mp hkey
  simp only [Prod.mk.injEq, decide_eq_true_eq] at hkey
  refine ⟨s, exec_of_execute hs, hquiet, ?_⟩
  intro hsound
  obtain ⟨c, hc, hsame⟩ := (hsound target htarget (by rw [hkey.1]; decide)).2 () hkey.2
  rw [Option.mem_def, hheld] at hc
  cases hc
  rw [hdigest, hkey.1] at hsame
  exact absurd hsame (by decide)

/-- Runs only send their first PUT. -/
def FirstTry (s : State String Unit (Fin 4)) : Action String Unit (Fin 4) → Prop
  | .push (.put ..) => True
  | .push _ => False
  | a => InSequence id s a

instance (s : State String Unit (Fin 4)) (a : Action String Unit (Fin 4)) :
    Decidable (FirstTry s a) :=
  match a with
  | .push (.put ..) => .isTrue trivial
  | .push (.build _) | .push .burn | .push (.start ..) | .push (.fetch ..) | .push (.check _)
  | .push (.bumpLoad _) | .push (.bumpCAS _) | .push (.add _) | .push (.retry ..) => .isFalse id
  | .preparePush .. => inferInstanceAs (Decidable (s.push.counter < Pusher.maxInt64))
  | .record k =>
      inferInstanceAs (Decidable (∀ call ∈ s.calls k, call.replay = false →
        outcome s.push k call.endpoints.length = some true →
        ∀ k', ∀ later ∈ s.calls k', ¬ Supersedes id s later call))
  | .resyncTarget .. | .start .. | .evict => .isTrue trivial

/-- The same pushes recorded in build order, then a resync. -/
def orderedRecords : List (Action String Unit (Fin 4)) :=
  overlap ++ [.record 0, .record 1, .resyncTarget 2 [()] "", .start 2 0,
    .push (.put (2, 0) .complete), .record 2]

theorem orderedRecords_skip :
    ∃ s s' : State String Unit (Fin 4), Exec (PushState.step id) (InSequence id) emptyState s ∧
      Quiescent s ∧ KeySound id s ∧ s.skips id "b" [()] "" = true ∧ Holds id s' () "b" := by
  have hrun : (execute (PushState.step id) orderedRecords emptyState).map
      (fun s => (decide (Quiescent s), s.skips id "b" [()] "",
        (PushState.step id (.preparePush 3 "b" [()] "") s).isSome)) =
      some (true, true, true) := by
    decide +kernel
  obtain ⟨s, hs, hobs⟩ := Option.map_eq_some_iff.mp hrun
  simp only [Prod.mk.injEq, decide_eq_true_eq] at hobs
  obtain ⟨hquiet, hskip, hprepared⟩ := hobs
  obtain ⟨s', hs'⟩ := Option.isSome_iff_exists.mp hprepared
  have hguarded : Guarded (PushState.step id) FirstTry orderedRecords emptyState := by
    decide +kernel
  have hsequence : ∀ s a, FirstTry s a → InSequence id s a := by
    intro s a h
    unfold FirstTry at h
    split at h
    · trivial
    · exact absurd h id
    · exact h
  have hexec := (exec_of_guarded hs hguarded).mono hsequence
  have hsound := skip_sound
    ⟨⟨by decide, rfl, fun _ => rfl, fun _ => rfl⟩, rfl, fun _ => rfl, rfl⟩ hexec hquiet
  exact ⟨s, s', hexec, hquiet, hsound.1, hskip,
    hsound.2 3 "b" [()] "" s' hs' hskip () (List.mem_singleton_self _)⟩

end Executions

end TunnelGateway.SkipKey
