import TunnelGateway.Forwarding
import TunnelGateway.RouterUpdates
import TunnelGateway.RoutingOptimality

/-!
The transports of a rule across updates. The handler asks the pool by a key it forms
from the backend it forwards to, an update keeps the transports whose keys it forms
from the configuration. The two agree, so what a rule dials stays pooled through every
update that keeps the rule, whatever requests and failed updates come in between.
-/
namespace TunnelGateway.TransportPool

open GoText ProxyConfig Router Execution RouterUpdates RequestFilters Forwarding

variable {lib : GoLib}

/-- What serving a configuration asks the pool for: the backend a request is
forwarded to without an upgrade, and the mirrors of a rule whose backends parse. -/
inductive Dials (lib : GoLib) (cfg : Config) : RouteRule → DialSpec → Prop where
  | forwarded {order table rand} {req : ProxyRequest} {result idx out backend url}
      (hcompile : compileRoutingTable lib order cfg = .ok table)
      (hroute : route lib table rand req.toRequest = some result)
      (hforward : handleMatched lib req result = .forward idx false out)
      (hbackend : result.rule.backends[idx]? = some backend)
      (hurl : lib.parseURL backend.url = .ok url) :
      Dials lib cfg result.rule
        ⟨url.host, backend.protocol, backend.tls, ruleHeaderTimeout result.rule.timeouts⟩
  | mirrored {rule spec} (hrule : rule ∈ cfg.rules) (hspec : spec ∈ ruleDials lib rule)
      (hparses : ∀ backend ∈ rule.backends, ∃ url, lib.parseURL backend.url = .ok url) :
      Dials lib cfg rule spec

section Keys

variable {text : KeyText} {cfg : Config} {rule : RouteRule} {spec : DialSpec}

theorem mem_of_mem_untilFailure {α β : Type} {succeeds : α → Bool} {effects : α → List β}
    {xs : List α} {y : β} (h : y ∈ untilFailure succeeds effects xs) :
    ∃ x ∈ xs, y ∈ effects x := by
  induction xs with
  | nil => cases h
  | cons x rest ih =>
    rw [untilFailure] at h
    rcases List.mem_append.mp h with hhead | htail
    · exact ⟨x, List.mem_cons_self, hhead⟩
    · split at htail
      · obtain ⟨x', hx', hy⟩ := ih htail
        exact ⟨x', List.mem_cons_of_mem x hx', hy⟩
      · cases htail

theorem key_mem_collect {filters : List RouteFilter} (h : spec ∈ filtersDials lib filters) :
    transportKey text spec ∈ collectMirrorTransportKeys lib text filters := by
  obtain ⟨f, hf, hspec⟩ := mem_of_mem_untilFailure h
  refine List.mem_filterMap.mpr ⟨f, hf, ?_⟩
  rw [filterDials] at hspec
  split at hspec
  · rename_i htype
    rw [if_pos htype]
    obtain ⟨cfg, hcfg, hdial⟩ := Option.bind_eq_some_iff.mp (Option.mem_toList.mp hspec)
    obtain ⟨url, hurl, hdial⟩ := Option.bind_eq_some_iff.mp hdial
    split at hdial
    · cases hdial
    · cases hdial
      rw [hcfg, Option.bind_some, hurl, Option.map_some]
  · cases hspec

/-- Every key a rule is served under is one the update keeps. -/
theorem Dials.key_active (h : Dials lib cfg rule spec) {cfg' : Config} (hkept : rule ∈ cfg'.rules) :
    transportKey text spec ∈ extractActiveTransportKeys lib text cfg' := by
  refine List.mem_flatMap.mpr ⟨rule, hkept, List.mem_append.mpr ?_⟩
  cases h with
  | forwarded _ _ _ hbackend hurl =>
    refine .inl (List.mem_flatMap.mpr ⟨_, List.mem_of_getElem? hbackend, ?_⟩)
    rw [hurl]
    exact List.mem_cons_self
  | mirrored _ hspec hparses =>
    rw [ruleDials] at hspec
    split at hspec
    · rcases List.mem_append.mp hspec with hrule | hbackends
      · exact .inr (key_mem_collect hrule)
      · split at hbackends
        · obtain ⟨backend, hbackend, hspec⟩ := mem_of_mem_untilFailure hbackends
          obtain ⟨url, hurl⟩ := hparses backend hbackend
          refine .inl (List.mem_flatMap.mpr ⟨backend, hbackend, ?_⟩)
          rw [hurl]
          exact List.mem_cons_of_mem _ (key_mem_collect hspec)
        · cases hbackends
    · cases hspec

/-- The rule is one of the configuration. -/
theorem Dials.rule_mem (h : Dials lib cfg rule spec) : rule ∈ cfg.rules := by
  cases h with
  | forwarded hcompile hroute =>
    obtain ⟨c, hc, -, hrule, -⟩ :=
      (RoutingOptimality.route_best lib cfg _ hcompile _).2 _ hroute
    exact hrule ▸ List.mem_of_getElem? hc.listed
  | mirrored hrule => exact hrule

end Keys

section Runs

variable {text : KeyText} {hasTransportFactory : Bool} {s s' : System} {action : Action}

theorem load_pruneTransports (pool : Pool) (active : List String) {key : String}
    (hkey : key ∈ active) : (pool.pruneTransports active).load key = pool.load key := by
  rw [Pool.load, Pool.load, Pool.pruneTransports]
  induction pool.entries with
  | nil => rfl
  | cons entry rest ih =>
    rw [List.filter_cons, List.lookup_cons]
    by_cases hsame : key = entry.1
    · rw [if_pos (by simpa [← hsame] using hkey), List.lookup_cons]
      simp [hsame]
    · rw [beq_false_of_ne hsame]
      split
      · rw [List.lookup_cons, beq_false_of_ne hsame]
        exact ih
      · exact ih

/-- What a step does to the pool. -/
theorem pool_of_step (h : step lib text hasTransportFactory action s = some s') :
    s'.pool = s.pool ∨ (∃ key, s'.pool = s.pool.getTransport key) ∨
      ∃ cfg, s.phase = .published cfg ∧
        s'.pool = s.pool.pruneTransports (extractActiveTransportKeys lib text cfg) := by
  cases steps_of_step lib text hasTransportFactory h with
  | dialed => exact .inr (.inl ⟨_, rfl⟩)
  | requested => exact .inr (.inl ⟨_, rfl⟩)
  | pruned hphase =>
    -- the relation forgets what is pruned, the step function does not
    rw [step, hphase] at h
    have hpool := congrArg System.pool (Option.some.inj h).symm
    cases hasTransportFactory with
    | true => exact .inr (.inr ⟨_, hphase, hpool⟩)
    | false => exact .inl hpool
  | _ => exact .inl rfl

/-- A configuration that is published meanwhile has the rule. -/
def KeepsRule (rule : RouteRule) (s : System) (_ : Action) : Prop :=
  match s.phase with
  | .published cfg => rule ∈ cfg.rules
  | _ => True

instance (rule : RouteRule) (s : System) (a : Action) : Decidable (KeepsRule rule s a) := by
  unfold KeepsRule
  split <;> infer_instance

/-- A transport that a rule dials is kept as long as the rule is. -/
theorem transport_kept_with_rule {cfg : Config} {rule : RouteRule} {spec : DialSpec} {id : ℕ}
    (hdials : Dials lib cfg rule spec)
    (run : Exec (step lib text hasTransportFactory) (KeepsRule rule) s s')
    (hload : s.pool.load (transportKey text spec) = some id) :
    rule ∈ cfg.rules ∧ s'.pool.load (transportKey text spec) = some id := by
  refine ⟨hdials.rule_mem, run.invariant
    (I := fun s => s.pool.load (transportKey text spec) = some id) ?_ hload⟩
  intro s a s' hload hkeeps hstep
  rcases pool_of_step hstep with hsame | ⟨key, hget⟩ | ⟨cfg', hphase, hpruned⟩
  · rw [hsame]
    exact hload
  · rw [hget]
    exact (grew_getTransport s.pool key).kept _ id hload
  · rw [KeepsRule, hphase] at hkeeps
    rw [hpruned, load_pruneTransports _ _ (hdials.key_active hkeeps)]
    exact hload

deriving instance DecidableEq for DialSpec

def shadowPush (version : ℤ) : List Action :=
  [.begin ⟨version, [mirrorRule], false⟩, .dialMirror, .finish .stable, .prune]

/-- The second push finds the transport of the first. -/
theorem shadow_transport_kept : ∃ s s', execute (step .literal plainKeys true) (shadowPush 5)
      .initial = some s ∧ execute (step .literal plainKeys true) (shadowPush 6) s = some s' ∧
    s.pool.load "shadow:80|||0ns" = some 0 ∧ s'.pool.load "shadow:80|||0ns" = some 0 := by
  let spec : DialSpec := ⟨"shadow:80", .http, none, 0⟩
  have hrun : ((execute (step .literal plainKeys true) (shadowPush 5) .initial).bind fun s =>
      (execute (step .literal plainKeys true) (shadowPush 6) s).map fun _ =>
        decide (s.pool.load (transportKey plainKeys spec) = some 0 ∧
          Guarded (step .literal plainKeys true) (KeepsRule mirrorRule) (shadowPush 6) s)) =
      some true := by
    decide +kernel
  obtain ⟨s, hfirst, hrun⟩ := Option.bind_eq_some_iff.mp hrun
  obtain ⟨s', hsecond, hrun⟩ := Option.map_eq_some_iff.mp hrun
  obtain ⟨hload, hguarded⟩ := of_decide_eq_true hrun
  have hdials : Dials .literal ⟨5, [mirrorRule], false⟩ mirrorRule spec :=
    .mirrored List.mem_cons_self (by decide +kernel) fun _ h => nomatch h
  exact ⟨s, s', hfirst, hsecond, hload,
    (transport_kept_with_rule hdials (exec_of_guarded hsecond hguarded) hload).2⟩

end Runs

end TunnelGateway.TransportPool
