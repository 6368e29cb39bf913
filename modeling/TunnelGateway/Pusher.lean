import TunnelGateway.Execution
import Mathlib.Algebra.Order.Group.Int
import Mathlib.Algebra.Ring.Int.Defs
import Mathlib.Algebra.Ring.Nat

/-!
Delivery of configurations to proxy replicas. One controller process stamps
every configuration it builds with a process-wide counter; concurrent
`pushToEndpoint` runs deliver them with PUT, and a run answered 409 reads the
replica's version and may re-stamp its payload from the counter and retry once.
Every access to the counter and every HTTP exchange is one atomic step, so a
list of actions is an interleaving. An exchange may also fail before the replica
applies it or lose its reply afterwards. Counter arithmetic is 64-bit.
-/
namespace TunnelGateway.Pusher

open Execution

def maxInt64 : ℤ := 2 ^ 63 - 1

/-- Two's complement wrap-around of a 64-bit integer. -/
def wrap64 (n : ℤ) : ℤ := n.bmod (2 ^ 64)

theorem wrap64_eq_self {n : ℤ} (hnonneg : 0 ≤ n) (hle : n ≤ maxInt64) : wrap64 n = n := by
  unfold wrap64 Int.bmod
  unfold maxInt64 at hle
  have hmod : n % ((2 ^ 64 : ℕ)) = n := Int.emod_eq_of_lt (by omega) (by omega)
  rw [hmod, if_pos (by omega)]

theorem wrap64_succ {n : ℤ} (hnonneg : 0 ≤ n) (hlt : n < maxInt64) : wrap64 (n + 1) = n + 1 :=
  wrap64_eq_self (by omega) (by omega)

/-- A built configuration; its identity is its position in build order. -/
structure Build (C : Type*) where
  version : ℤ
  content : C

/-- A replica's routing table: its version and the build it came from, if this
process delivered it. -/
structure Replica where
  version : ℤ
  held : Option ℕ

inductive PutStatus where
  | ok
  | conflict
  | badRequest
  deriving DecidableEq

/-- Validation rejects negative versions; the router then rejects a positive
version below its own. -/
def Replica.put (replica : Replica) (version : ℤ) (build : ℕ) : PutStatus × Replica :=
  if version < 0 then (.badRequest, replica)
  else if 0 < version ∧ version < replica.version then (.conflict, replica)
  else (.ok, ⟨version, some build⟩)

/-- What the network does to an exchange: it completes, fails before the replica
applies it (an unreachable or refusing replica), or loses the reply. -/
inductive Network where
  | complete
  | refused
  | replyLost
  deriving DecidableEq

/-- Where a `pushToEndpoint` run stands. -/
inductive Phase where
  | put
  | fetch
  | check (proxyVersion : ℤ)
  | bumpLoad (proxyVersion : ℤ)
  | bumpCAS (proxyVersion current : ℤ)
  | add
  | retry (version : ℤ)
  | done (success : Bool)
  deriving DecidableEq

/-- The run has not returned. -/
def Phase.Live (phase : Phase) : Prop := ∀ success, phase ≠ .done success

/-- The version a run about to retry carries. -/
def Phase.retryVersion : Phase → Option ℤ
  | .retry version => some version
  | _ => none

/-- The replica version a run about to swap the counter saw. -/
def Phase.swapTarget : Phase → Option ℤ
  | .bumpCAS proxyVersion _ => some proxyVersion
  | _ => none

structure PushRun (E : Type*) where
  endpoint : E
  build : ℕ
  phase : Phase

structure State (C E R : Type*) where
  counter : ℤ
  builds : List (Build C)
  replicas : E → Replica
  runs : R → Option (PushRun E)

inductive Action (C E R : Type*) where
  /-- a conversion takes the next version for a new configuration -/
  | build (content : C)
  /-- a conversion takes a version that labels nothing pushed from here -/
  | burn
  | start (r : R) (endpoint : E) (build : ℕ)
  | put (r : R) (net : Network)
  | fetch (r : R) (ok : Bool)
  | check (r : R)
  | bumpLoad (r : R)
  | bumpCAS (r : R)
  | add (r : R)
  | retry (r : R) (net : Network)

section Step

variable {C E R : Type*} [DecidableEq E] [DecidableEq R]

def State.setRun (s : State C E R) (r : R) (run : PushRun E) : State C E R :=
  { s with runs := Function.update s.runs r (some run) }

def State.setPhase (s : State C E R) (r : R) (run : PushRun E) (phase : Phase) : State C E R :=
  s.setRun r { run with phase := phase }

def State.setReplica (s : State C E R) (e : E) (replica : Replica) : State C E R :=
  { s with replicas := Function.update s.replicas e replica }

variable {run run' : PushRun E} {r r' : R} {s : State C E R}

omit [DecidableEq E] in
theorem runs_setRun (h : (s.setRun r run).runs r' = some run') :
    (r' = r ∧ run' = run) ∨ (r' ≠ r ∧ s.runs r' = some run') := by
  by_cases hr : r' = r
  · subst hr
    simp only [State.setRun, Function.update_self, Option.some.injEq] at h
    exact Or.inl ⟨rfl, h.symm⟩
  · simp only [State.setRun, Function.update_of_ne hr] at h
    exact Or.inr ⟨hr, h⟩

omit [DecidableEq E] in
theorem runs_setPhase {phase : Phase} (h : (s.setPhase r run phase).runs r' = some run') :
    run' = { run with phase := phase } ∨ s.runs r' = some run' := by
  rcases runs_setRun h with ⟨-, heq⟩ | ⟨-, hold⟩
  · exact Or.inl heq
  · exact Or.inr hold

omit [DecidableEq R] in
theorem replicas_setReplica_self (s : State C E R) (e : E) (replica : Replica) :
    (s.setReplica e replica).replicas e = replica := by
  simp [State.setReplica]

omit [DecidableEq R] in
theorem replicas_setReplica_of_ne (s : State C E R) {e e' : E} (replica : Replica) (h : e' ≠ e) :
    (s.setReplica e replica).replicas e' = s.replicas e' := by
  simp [State.setReplica, h]

/-- One PUT of `version` by run `r`; `onConflict` is where a 409 leads. -/
def State.exchange (s : State C E R) (r : R) (run : PushRun E) (version : ℤ) (net : Network)
    (onConflict : Phase) : State C E R :=
  match net with
  | .refused => s.setPhase r run (.done false)
  | .replyLost =>
      (s.setReplica run.endpoint
        ((s.replicas run.endpoint).put version run.build).2).setPhase r run (.done false)
  | .complete =>
      match (s.replicas run.endpoint).put version run.build with
      | (.ok, replica) => (s.setReplica run.endpoint replica).setPhase r run (.done true)
      | (.conflict, _) => s.setPhase r run onConflict
      | (.badRequest, _) => s.setPhase r run (.done false)

/-- The next atomic step of run `r`, standing at `run.phase`. -/
def stepRun (s : State C E R) (r : R) (run : PushRun E) : Action C E R → Option (State C E R)
  | .put _ net =>
      match run.phase, s.builds[run.build]? with
      | .put, some b => some (s.exchange r run b.version net .fetch)
      | _, _ => none
  | .fetch _ ok =>
      match run.phase with
      | .fetch =>
          some (s.setPhase r run
            (if ok then .check (s.replicas run.endpoint).version else .done false))
      | _ => none
  | .check _ =>
      match run.phase with
      | .check proxyVersion =>
          some (s.setPhase r run
            (if proxyVersion ≤ s.counter then .done false else .bumpLoad proxyVersion))
      | _ => none
  | .bumpLoad _ =>
      match run.phase with
      | .bumpLoad proxyVersion =>
          some (s.setPhase r run
            (if proxyVersion < s.counter then .add else .bumpCAS proxyVersion s.counter))
      | _ => none
  | .bumpCAS _ =>
      match run.phase with
      | .bumpCAS proxyVersion current =>
          if s.counter = current then
            some ({ s with counter := wrap64 (proxyVersion + 1) }.setPhase r run .add)
          else some (s.setPhase r run (.bumpLoad proxyVersion))
      | _ => none
  | .add _ =>
      match run.phase with
      | .add =>
          some ({ s with counter := wrap64 (s.counter + 1) }.setPhase r run
            (.retry (wrap64 (s.counter + 1))))
      | _ => none
  | .retry _ net =>
      match run.phase with
      | .retry version => some (s.exchange r run version net (.done false))
      | _ => none
  | _ => none

/-- The run an action belongs to. -/
def Action.run? : Action C E R → Option R
  | .build _ | .burn | .start .. => none
  | .put r _ | .fetch r _ | .check r | .bumpLoad r | .bumpCAS r | .add r | .retry r _ => some r

def step (a : Action C E R) (s : State C E R) : Option (State C E R) :=
  match a with
  | .build content =>
      some { s with
        counter := wrap64 (s.counter + 1)
        builds := s.builds ++ [⟨wrap64 (s.counter + 1), content⟩] }
  | .burn => some { s with counter := wrap64 (s.counter + 1) }
  | .start r e c =>
      match s.runs r, s.builds[c]? with
      | none, some _ => some (s.setRun r ⟨e, c, .put⟩)
      | _, _ => none
  | a => a.run?.bind fun r => (s.runs r).bind fun run => stepRun s r run a

/-- What the next step of run `r` can do. -/
inductive RunStep (s : State C E R) (r : R) (run : PushRun E) :
    Action C E R → State C E R → Prop where
  | put {b : Build C} (net : Network) (hphase : run.phase = .put)
      (hbuild : s.builds[run.build]? = some b) :
      RunStep s r run (.put r net) (s.exchange r run b.version net .fetch)
  | fetch (ok : Bool) (hphase : run.phase = .fetch) :
      RunStep s r run (.fetch r ok) (s.setPhase r run
        (if ok then .check (s.replicas run.endpoint).version else .done false))
  | check {pv : ℤ} (hphase : run.phase = .check pv) :
      RunStep s r run (.check r) (s.setPhase r run
        (if pv ≤ s.counter then .done false else .bumpLoad pv))
  | bumpLoad {pv : ℤ} (hphase : run.phase = .bumpLoad pv) :
      RunStep s r run (.bumpLoad r) (s.setPhase r run
        (if pv < s.counter then .add else .bumpCAS pv s.counter))
  | swap {pv : ℤ} (hphase : run.phase = .bumpCAS pv s.counter) :
      RunStep s r run (.bumpCAS r) ({ s with counter := wrap64 (pv + 1) }.setPhase r run .add)
  | reload {pv current : ℤ} (hphase : run.phase = .bumpCAS pv current)
      (hmoved : s.counter ≠ current) :
      RunStep s r run (.bumpCAS r) (s.setPhase r run (.bumpLoad pv))
  | add (hphase : run.phase = .add) :
      RunStep s r run (.add r) ({ s with counter := wrap64 (s.counter + 1) }.setPhase r run
        (.retry (wrap64 (s.counter + 1))))
  | retry {version : ℤ} (net : Network) (hphase : run.phase = .retry version) :
      RunStep s r run (.retry r net) (s.exchange r run version net (.done false))

theorem runStep_of_stepRun {s' : State C E R} {a : Action C E R} (ha : a.run? = some r)
    (h : stepRun s r run a = some s') : RunStep s r run a s' := by
  cases a with
  | build content => cases ha
  | burn => cases ha
  | start r' e c => cases ha
  | put r' net =>
    cases ha
    simp only [stepRun] at h
    split at h
    · next b hphase hbuild =>
      cases h
      exact .put net hphase hbuild
    · cases h
  | fetch r' ok =>
    cases ha
    simp only [stepRun] at h
    split at h
    · next hphase =>
      cases h
      exact .fetch ok hphase
    · cases h
  | check r' =>
    cases ha
    simp only [stepRun] at h
    split at h
    · next pv hphase =>
      cases h
      exact .check hphase
    · cases h
  | bumpLoad r' =>
    cases ha
    simp only [stepRun] at h
    split at h
    · next pv hphase =>
      cases h
      exact .bumpLoad hphase
    · cases h
  | bumpCAS r' =>
    cases ha
    simp only [stepRun] at h
    split at h
    · next pv current hphase =>
      split at h
      · next hcounter =>
        cases h
        exact .swap (hcounter ▸ hphase)
      · next hmoved =>
        cases h
        exact .reload hphase hmoved
    · cases h
  | add r' =>
    cases ha
    simp only [stepRun] at h
    split at h
    · next hphase =>
      cases h
      exact .add hphase
    · cases h
  | retry r' net =>
    cases ha
    simp only [stepRun] at h
    split at h
    · next version hphase =>
      cases h
      exact .retry net hphase
    · cases h

/-- An action of a run steps that run. -/
theorem exists_runStep {s' : State C E R} {a : Action C E R} (ha : a.run? = some r)
    (h : step a s = some s') : ∃ run, s.runs r = some run ∧ RunStep s r run a s' := by
  have hbind : (s.runs r).bind (fun run => stepRun s r run a) = some s' := by
    cases a <;> cases ha <;> exact h
  obtain ⟨run, hrun, hstep⟩ := Option.bind_eq_some_iff.mp hbind
  exact ⟨run, hrun, runStep_of_stepRun ha hstep⟩

end Step

end TunnelGateway.Pusher
