import TunnelGateway.Pusher
import Mathlib.Data.Finset.Card

/-!
The push state the syncer keeps for one partition. `SyncPartition` builds a
configuration under the lock, pushes it without the lock and records the outcome
under the lock again; a resync replays the last recorded configuration and holds
the lock for the whole push. Each call fans out to one `pushToEndpoint` run per
resolved endpoint. The content hash is a parameter; it does not see the version.
-/
namespace TunnelGateway.PushState

open Execution

/-- What the syncer remembers about a partition; `lastCfg` is a build. -/
structure PushTarget (E : Type*) where
  lastCfg : Option ℕ
  lastPushedHash : String
  lastPushedToken : String
  lastPushedEndpoints : Finset E
  consecutivePushFail : ℕ

def PushTarget.empty {E : Type*} : PushTarget E := ⟨none, "", "", ∅, 0⟩

/-- A push between its locked beginning and its locked end. -/
structure Call (E : Type*) where
  replay : Bool
  build : ℕ
  endpoints : List E
  token : String
  finished : Bool

/-- Run `i` of call `k` serves the call's `i`-th endpoint. `lock` names the
resync that holds `syncMu`; the other critical sections are single steps. -/
structure State (C E K : Type*) where
  push : Pusher.State C E (K × ℕ)
  target : Option (PushTarget E)
  calls : K → Option (Call E)
  lock : Option K

inductive Action (C E K : Type*) where
  | preparePush (k : K) (content : C) (resolved : List E) (token : String)
  | resyncTarget (k : K) (resolved : List E) (token : String)
  | start (k : K) (i : ℕ)
  | push (a : Pusher.Action C E (K × ℕ))
  | record (k : K)
  /-- `RetainPartitions` drops the partition -/
  | evict

section Skip

variable {E : Type*} [DecidableEq E]

def endpointSetsEqual (previous : Finset E) (resolved : List E) : Bool :=
  previous.card = resolved.length && resolved.all (· ∈ previous)

def shouldSkipPush (cfgHash lastPushedHash authToken lastPushedToken : String)
    (lastPushedEndpoints : Finset E) (resolved : List E) : Bool :=
  cfgHash ≠ "" && cfgHash = lastPushedHash && authToken = lastPushedToken &&
    endpointSetsEqual lastPushedEndpoints resolved

theorem shouldSkipPush_spec {cfgHash lastPushedHash authToken lastPushedToken : String}
    {lastPushedEndpoints : Finset E} {resolved : List E}
    (h : shouldSkipPush cfgHash lastPushedHash authToken lastPushedToken lastPushedEndpoints
      resolved = true) :
    cfgHash ≠ "" ∧ cfgHash = lastPushedHash ∧ ∀ e ∈ resolved, e ∈ lastPushedEndpoints := by
  simp only [shouldSkipPush, endpointSetsEqual, Bool.and_eq_true, decide_eq_true_eq,
    List.all_eq_true] at h
  exact ⟨h.1.1.1, h.1.1.2, h.2.2⟩

end Skip

section Step

variable {C E K : Type*} [DecidableEq E] [DecidableEq K] (hash : C → String)

/-- `hashProxyConfig` of a build. -/
def hashOf (s : Pusher.State C E (K × ℕ)) (c : ℕ) : Option String :=
  (s.builds[c]?).map fun b => hash b.content

def runOutcome : Option (Pusher.PushRun E) → Option Bool
  | some ⟨_, _, .done ok⟩ => some ok
  | _ => none

/-- The first `n` runs of a call have all returned, and whether all succeeded. -/
def outcome (s : Pusher.State C E (K × ℕ)) (k : K) : ℕ → Option Bool
  | 0 => some true
  | n + 1 => do
      let rest ← outcome s k n
      let ok ← runOutcome (s.runs (k, n))
      some (rest && ok)

/-- `preparePush` would find the configuration already delivered. -/
def State.skips (s : State C E K) (content : C) (resolved : List E) (token : String) : Bool :=
  let target := s.target.getD PushTarget.empty
  shouldSkipPush (hash content) target.lastPushedHash token target.lastPushedToken
    target.lastPushedEndpoints resolved

/-- `recordPush`; an evicted partition is not created again. -/
def recordPush (cfgHash : String) (call : Call E) (ok : Bool) :
    Option (PushTarget E) → Option (PushTarget E)
  | none => none
  | some target =>
      if ok then
        some ⟨some call.build, cfgHash, call.token, call.endpoints.toFinset, 0⟩
      else
        some { target with
          lastPushedHash := ""
          lastPushedEndpoints := ∅
          consecutivePushFail := target.consecutivePushFail + 1 }

/-- The end of `resyncTarget`; the failure count belongs to `SyncPartition`. -/
def recordResync (cfgHash : String) (call : Call E) (ok : Bool) :
    Option (PushTarget E) → Option (PushTarget E)
  | none => none
  | some target =>
      if ok then
        some { target with
          lastPushedHash := cfgHash
          lastPushedToken := call.token
          lastPushedEndpoints := call.endpoints.toFinset }
      else some { target with lastPushedHash := "", lastPushedEndpoints := ∅ }

def State.setCall (s : State C E K) (k : K) (call : Call E) : State C E K :=
  { s with calls := Function.update s.calls k (some call) }

def step (a : Action C E K) (s : State C E K) : Option (State C E K) :=
  match a with
  | .preparePush k content resolved token =>
      match s.lock, s.calls k with
      | none, none =>
          let target := s.target.getD PushTarget.empty
          (Pusher.step (.build content) s.push).map fun push =>
            if s.skips hash content resolved token then
              { s with push := push, target := some { target with consecutivePushFail := 0 } }
            else
              { s with push := push, target := some target }.setCall k
                ⟨false, s.push.builds.length, resolved, token, false⟩
      | _, _ => none
  | .resyncTarget k resolved token =>
      match s.lock, s.calls k with
      | none, none =>
          match s.target.bind PushTarget.lastCfg with
          | none => some s
          | some c => some ({ s with lock := some k }.setCall k ⟨true, c, resolved, token, false⟩)
      | _, _ => none
  | .start k i =>
      (s.calls k).bind fun call =>
        if call.finished then none
        else
          (call.endpoints[i]?).bind fun e =>
            (Pusher.step (.start (k, i) e call.build) s.push).map fun push =>
              { s with push := push }
  | .push a =>
      match a with
      | .build _ | .start .. => none
      | a => (Pusher.step a s.push).map fun push => { s with push := push }
  | .record k =>
      (s.calls k).bind fun call =>
        if call.finished then none
        else
          match outcome s.push k call.endpoints.length, call.replay, s.lock with
          | some ok, false, none =>
              let cfgHash := (hashOf hash s.push call.build).getD ""
              some ({ s with target := recordPush cfgHash call ok s.target }.setCall k
                { call with finished := true })
          | some ok, true, some k' =>
              if k' = k then
                let cfgHash := (hashOf hash s.push call.build).getD ""
                some ({ s with target := recordResync cfgHash call ok s.target
                               lock := none }.setCall k { call with finished := true })
              else none
          | _, _, _ => none
  | .evict =>
      match s.lock with
      | none => some { s with target := none }
      | some _ => none

end Step

end TunnelGateway.PushState
