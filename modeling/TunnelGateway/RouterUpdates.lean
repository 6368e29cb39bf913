import TunnelGateway.Execution
import TunnelGateway.Router

/-!
Updates of a running router. One update at a time compiles its configuration,
which borrows transports for the mirror filters from the handler's pool on the
way, and stores the table; requests are routed from whatever table they load and
add transports of their own. Every interleaving of these steps is a run.
-/
namespace TunnelGateway.RouterUpdates

open GoText Fallible ProxyConfig Router Execution

section Transports

/-- What a transport is made for. -/
structure DialSpec where
  host : String
  protocol : BackendProtocol
  tls : Option BackendTLSConfig
  headerTimeout : ℤ

def protocolText : BackendProtocol → String
  | .http => ""
  | .h2c => "h2c"
  | .other value => value

/-- The parts of a key that are hashed or printed. -/
structure KeyText where
  tlsFingerprint : BackendTLSConfig → String
  durationString : ℤ → String

def transportKey (text : KeyText) (spec : DialSpec) : String :=
  spec.host ++ "|" ++ protocolText spec.protocol ++ "|" ++
    (spec.tls.map text.tlsFingerprint).getD "" ++ "|" ++ text.durationString spec.headerTimeout

/-- The transports by key; each is known by the number it was created with. -/
structure Pool where
  entries : List (String × ℕ)
  created : ℕ

def Pool.load (pool : Pool) (key : String) : Option ℕ := pool.entries.lookup key

/-- Load or store. -/
def Pool.getTransport (pool : Pool) (key : String) : Pool :=
  if (pool.load key).isSome then pool
  else ⟨(key, pool.created) :: pool.entries, pool.created + 1⟩

def Pool.pruneTransports (pool : Pool) (active : List String) : Pool :=
  { pool with entries := pool.entries.filter (·.1 ∈ active) }

/-- Every transport is still there, and there are new ones under these keys. -/
structure Pool.Grew (before after : Pool) (keys : List String) : Prop where
  kept : ∀ key id, before.load key = some id → after.load key = some id
  pooled : ∀ key,
    (after.load key).isSome = true ↔ (before.load key).isSome = true ∨ key ∈ keys

theorem Pool.Grew.refl (pool : Pool) : pool.Grew pool [] where
  kept _ _ h := h
  pooled _ := by simp

variable {keys keys' : List String}

theorem Pool.Grew.trans {first second third : Pool} (h : first.Grew second keys)
    (h' : second.Grew third keys') : first.Grew third (keys ++ keys') where
  kept key id hload := h'.kept key id (h.kept key id hload)
  pooled key := by rw [h'.pooled, h.pooled, List.mem_append, or_assoc]

theorem Pool.Grew.congr {before after : Pool} (h : before.Grew after keys)
    (hkeys : ∀ key, key ∈ keys ↔ key ∈ keys') : before.Grew after keys' where
  kept := h.kept
  pooled key := by rw [h.pooled, hkeys]

theorem load_getTransport (pool : Pool) (key other : String) :
    (pool.getTransport key).load other =
      if other = key ∧ (pool.load key).isSome = false then some pool.created
      else pool.load other := by
  rw [Pool.getTransport]
  cases hload : pool.load key with
  | some id => simp
  | none =>
    simp only [Option.isSome_none, Bool.false_eq_true, if_false, and_true]
    by_cases hsame : other = key
    · rw [if_pos hsame, hsame]
      exact List.lookup_cons_self
    · rw [if_neg hsame, Pool.load, List.lookup_cons, beq_false_of_ne hsame]
      rfl

theorem grew_getTransport (pool : Pool) (key : String) :
    pool.Grew (pool.getTransport key) [key] where
  kept other id hload := by
    rw [load_getTransport, if_neg]
    · exact hload
    · rintro ⟨rfl, hnone⟩
      rw [hload] at hnone
      cases hnone
  pooled other := by
    rw [load_getTransport, List.mem_singleton]
    by_cases hsame : other = key
    · subst hsame
      cases hload : pool.load other with
      | none => simp
      | some id => simp
    · simp [hsame]

end Transports

section Compiling

variable (lib : GoLib)

/-- `newMirrorClient` asks the factory for the parsed host. -/
def mirrorDial (cfg : MirrorConfig) : Option DialSpec :=
  (lib.parseURL cfg.backendURL).toOption.bind fun url =>
    if url.host = "" then none else some ⟨url.host, cfg.protocol, cfg.tls, 0⟩

/-- What a loop does up to the first element that fails, that one included. -/
def untilFailure {α β : Type} (succeeds : α → Bool) (effects : α → List β) : List α → List β
  | [] => []
  | x :: rest => effects x ++ if succeeds x then untilFailure succeeds effects rest else []

/-- Compiling a mirror filter borrows a transport. -/
def filterDials (f : RouteFilter) : List DialSpec :=
  if f.type = .requestMirror then (f.requestMirror.bind (mirrorDial lib)).toList else []

def filtersDials (filters : List RouteFilter) : List DialSpec :=
  untilFailure (fun f => (compileFilter f).toBool) (filterDials lib) filters

/-- Matches are compiled first, then the rule's filters, then the backends'. -/
def ruleDials (rule : RouteRule) : List DialSpec :=
  if rule.routeMatches.all fun m => (Matcher.compileMatch lib m).toBool then
    filtersDials lib rule.filters ++
      if (compileFilters rule.filters).toBool then
        untilFailure (fun backend : BackendRef => (compileFilters backend.filters).toBool)
          (fun backend => filtersDials lib backend.filters) rule.backends
      else []
  else []

/-- The transports a compilation borrows before it succeeds or fails. -/
def mirrorDials (cfg : Config) : List DialSpec :=
  untilFailure (fun rule => (compileRule lib 0 rule).toBool) (ruleDials lib) cfg.rules

/-- The stricter of the two timeouts; zero when neither is set. -/
def ruleHeaderTimeout : Option RouteTimeouts → ℤ
  | none => 0
  | some timeouts =>
      if timeouts.request > 0 ∧ timeouts.backend > 0 then min timeouts.request timeouts.backend
      else if timeouts.request > 0 then timeouts.request
      else if timeouts.backend > 0 then timeouts.backend
      else 0

variable (text : KeyText)

def collectMirrorTransportKeys (filters : List RouteFilter) : List String :=
  filters.filterMap fun f =>
    if f.type = .requestMirror then
      f.requestMirror.bind fun cfg =>
        (lib.parseURL cfg.backendURL).toOption.map fun url =>
          transportKey text ⟨url.host, cfg.protocol, cfg.tls, 0⟩
    else none

/-- A backend whose URL does not parse contributes nothing, its mirrors
included. -/
def extractActiveTransportKeys (cfg : Config) : List String :=
  cfg.rules.flatMap fun rule =>
    (rule.backends.flatMap fun backend =>
      match lib.parseURL backend.url with
      | .error _ => []
      | .ok url =>
          transportKey text ⟨url.host, backend.protocol, backend.tls,
            ruleHeaderTimeout rule.timeouts⟩ :: collectMirrorTransportKeys lib text backend.filters)
      ++ collectMirrorTransportKeys lib text rule.filters

end Compiling

section System

/-- The update in progress; the mutex admits one. -/
inductive Phase where
  | idle
  | compiling (cfg : Config) (pending : List DialSpec)
  | published (cfg : Config)

/-- A route call that has loaded its table. -/
structure Reader where
  request : Matcher.Request
  rand : ℕ → ℕ
  table : RoutingTable

structure Answer where
  request : Matcher.Request
  rand : ℕ → ℕ
  result : Option RouteResult

/-- The router, the handler's pool, and what has happened so far: the accepted
configurations, the latest first, and the answers given. -/
structure System where
  table : RoutingTable
  pool : Pool
  phase : Phase
  readers : List Reader
  accepted : List Config
  answers : List Answer

def emptyTable : RoutingTable := ⟨[], [], [], 0⟩

def System.initial : System := ⟨emptyTable, ⟨[], 0⟩, .idle, [], [], []⟩

inductive Action where
  | begin (cfg : Config)
  | dialMirror
  | finish (order : WildcardOrder)
  | prune
  | load (request : Matcher.Request) (rand : ℕ → ℕ)
  | answer (reader : ℕ)
  | dial (spec : DialSpec)

variable (lib : GoLib) (text : KeyText) (hasTransportFactory : Bool)

/-- The checks before a configuration is compiled. -/
def precheck (current : RoutingTable) (cfg : Config) : Option UpdateError :=
  if cfg.version > 0 ∧ cfg.version < current.version then
    some (.staleVersion cfg.version current.version)
  else if !hasTransportFactory && configHasTLSMirror cfg then
    some .tlsMirrorWithoutTransportFactory
  else none

theorem updateConfig_eq (order : WildcardOrder) (current : RoutingTable) (cfg : Config) :
    updateConfig lib order hasTransportFactory current cfg =
      match precheck hasTransportFactory current cfg with
      | some err => .error err
      | none => (compileRoutingTable lib order cfg).mapError fun err =>
          .compile ("failed to compile routing table: " ++ err) := by
  rw [updateConfig, precheck]
  split_ifs <;> rfl

/-- What compiling a configuration asks the factory for; without a factory mirrors
share one client. -/
def borrowed (cfg : Config) : List DialSpec :=
  if hasTransportFactory then mirrorDials lib cfg else []

/-- One step of the update in progress or of a request. A call whose checks fail
returns at once; one that does not compile returns without storing. -/
def step : Action → System → Option System
  | .begin cfg, s =>
      match s.phase with
      | .idle =>
          match precheck hasTransportFactory s.table cfg with
          | some _ => some s
          | none => some { s with phase := .compiling cfg (borrowed lib hasTransportFactory cfg) }
      | _ => none
  | .dialMirror, s =>
      match s.phase with
      | .compiling cfg (spec :: pending) => some { s with
          pool := s.pool.getTransport (transportKey text spec)
          phase := .compiling cfg pending }
      | _ => none
  | .finish order, s =>
      match s.phase with
      | .compiling cfg [] =>
          match compileRoutingTable lib order cfg with
          | .error _ => some { s with phase := .idle }
          | .ok table => some { s with
              table := table
              phase := .published cfg
              accepted := cfg :: s.accepted }
      | _ => none
  | .prune, s =>
      match s.phase with
      | .published cfg => some { s with
          pool := if hasTransportFactory then
              s.pool.pruneTransports (extractActiveTransportKeys lib text cfg)
            else s.pool
          phase := .idle }
      | _ => none
  | .load request rand, s => some { s with readers := ⟨request, rand, s.table⟩ :: s.readers }
  | .answer reader, s => s.readers[reader]?.map fun r =>
      { s with
        readers := s.readers.eraseIdx reader
        answers := ⟨r.request, r.rand, route lib r.table r.rand r.request⟩ :: s.answers }
  | .dial spec, s => some { s with pool := s.pool.getTransport (transportKey text spec) }

/-- What each action needs and does. -/
inductive Steps : Action → System → System → Prop where
  | refused {cfg s err} (hidle : s.phase = .idle)
      (hcheck : precheck hasTransportFactory s.table cfg = some err) : Steps (.begin cfg) s s
  | began {cfg s} (hidle : s.phase = .idle)
      (hcheck : precheck hasTransportFactory s.table cfg = none) :
      Steps (.begin cfg) s
        { s with phase := .compiling cfg (borrowed lib hasTransportFactory cfg) }
  | dialed {cfg spec pending s} (hphase : s.phase = .compiling cfg (spec :: pending)) :
      Steps .dialMirror s
        { s with
          pool := s.pool.getTransport (transportKey text spec)
          phase := .compiling cfg pending }
  | rejected {cfg order err s} (hphase : s.phase = .compiling cfg [])
      (herr : compileRoutingTable lib order cfg = .error err) :
      Steps (.finish order) s { s with phase := .idle }
  | published {cfg order table s} (hphase : s.phase = .compiling cfg [])
      (hok : compileRoutingTable lib order cfg = .ok table) :
      Steps (.finish order) s
        { s with table := table, phase := .published cfg, accepted := cfg :: s.accepted }
  | pruned {cfg pool s} (hphase : s.phase = .published cfg) :
      Steps .prune s { s with pool := pool, phase := .idle }
  | loaded {request rand s} :
      Steps (.load request rand) s { s with readers := ⟨request, rand, s.table⟩ :: s.readers }
  | answered {reader r s} (hreader : s.readers[reader]? = some r) :
      Steps (.answer reader) s
        { s with
          readers := s.readers.eraseIdx reader
          answers := ⟨r.request, r.rand, route lib r.table r.rand r.request⟩ :: s.answers }
  | requested {spec s} :
      Steps (.dial spec) s { s with pool := s.pool.getTransport (transportKey text spec) }

variable {action : Action} {s s' : System}

theorem steps_of_step (h : step lib text hasTransportFactory action s = some s') :
    Steps lib text hasTransportFactory action s s' := by
  cases action with
  | begin cfg =>
    rw [step] at h
    cases hphase : s.phase with
    | idle =>
      rw [hphase] at h
      cases hcheck : precheck hasTransportFactory s.table cfg with
      | some err =>
        rw [hcheck] at h
        cases h
        exact .refused hphase hcheck
      | none =>
        rw [hcheck] at h
        cases h
        exact .began hphase hcheck
    | compiling cfg' pending =>
      rw [hphase] at h
      cases h
    | published cfg' =>
      rw [hphase] at h
      cases h
  | dialMirror =>
    rw [step] at h
    split at h
    · rename_i hphase
      cases h
      exact .dialed hphase
    · cases h
  | finish order =>
    rw [step] at h
    split at h
    · rename_i cfg hphase
      cases hcompile : compileRoutingTable lib order cfg with
      | error err =>
        rw [hcompile] at h
        cases h
        exact .rejected hphase hcompile
      | ok table =>
        rw [hcompile] at h
        cases h
        exact .published hphase hcompile
    · cases h
  | prune =>
    rw [step] at h
    split at h
    · rename_i hphase
      cases h
      exact .pruned hphase
    · cases h
  | load request rand =>
    cases h
    exact .loaded
  | answer reader =>
    obtain ⟨r, hreader, hs'⟩ := Option.map_eq_some_iff.mp h
    subst hs'
    exact .answered hreader
  | dial spec =>
    cases h
    exact .requested

/-- Compiled under some order of the wildcard hosts. -/
def CompiledFrom (cfg : Config) (table : RoutingTable) : Prop :=
  ∃ order, compileRoutingTable lib order cfg = .ok table

/-- The empty table, or the compile of an accepted configuration. -/
def Served (accepted : List Config) (table : RoutingTable) : Prop :=
  table = emptyTable ∨ ∃ cfg ∈ accepted, CompiledFrom lib cfg table

/-- The compile of the configuration accepted last. -/
def Latest (accepted : List Config) (table : RoutingTable) : Prop :=
  match accepted with
  | [] => table = emptyTable
  | cfg :: _ => CompiledFrom lib cfg table

def Answer.FromOneTable (accepted : List Config) (a : Answer) : Prop :=
  ∃ table, Served lib accepted table ∧ a.result = route lib table a.rand a.request

variable {accepted : List Config} {table : RoutingTable} {cfg : Config}

theorem Served.cons (h : Served lib accepted table) (cfg : Config) :
    Served lib (cfg :: accepted) table := by
  rcases h with h | ⟨cfg', hmem, h⟩
  · exact Or.inl h
  · exact Or.inr ⟨cfg', List.mem_cons_of_mem cfg hmem, h⟩

theorem Latest.served (h : Latest lib accepted table) : Served lib accepted table := by
  cases accepted with
  | nil => exact Or.inl h
  | cons cfg rest => exact Or.inr ⟨cfg, List.mem_cons_self, h⟩

/-- The checks of the call in progress passed against the table it will replace,
and a configuration not yet pruned for is the latest. -/
def Phase.Sound (phase : Phase) (s : System) : Prop :=
  match phase with
  | .idle => True
  | .compiling cfg _ => precheck hasTransportFactory s.table cfg = none
  | .published cfg => s.accepted.head? = some cfg

structure Inv (s : System) : Prop where
  latest : Latest lib s.accepted s.table
  readers : ∀ r ∈ s.readers, Served lib s.accepted r.table
  answers : ∀ a ∈ s.answers, a.FromOneTable lib s.accepted
  phase : s.phase.Sound hasTransportFactory s

theorem inv_initial : Inv lib hasTransportFactory .initial where
  latest := rfl
  readers _ h := nomatch h
  answers _ h := nomatch h
  phase := trivial

theorem inv_step (h : Inv lib hasTransportFactory s)
    (hstep : step lib text hasTransportFactory action s = some s') :
    Inv lib hasTransportFactory s' := by
  cases steps_of_step lib text hasTransportFactory hstep with
  | refused => exact h
  | began _ hcheck => exact { h with phase := hcheck }
  | dialed hphase =>
    have hsound := h.phase
    rw [hphase] at hsound
    exact { h with phase := hsound }
  | rejected => exact { h with phase := trivial }
  | @published cfg order table _ _ hok =>
    refine ⟨⟨order, hok⟩, ?_, ?_, rfl⟩
    · intro r hr
      exact (h.readers r hr).cons lib cfg
    · intro a ha
      obtain ⟨table', hserved, hresult⟩ := h.answers a ha
      exact ⟨table', hserved.cons lib cfg, hresult⟩
  | pruned => exact { h with phase := trivial }
  | loaded =>
    refine { h with readers := ?_ }
    intro r hr
    rcases List.mem_cons.mp hr with rfl | hr
    · exact h.latest.served lib
    · exact h.readers r hr
  | @answered reader r _ hreader =>
    refine { h with readers := ?_, answers := ?_ }
    · intro r' hr'
      exact h.readers r' (List.mem_of_mem_eraseIdx hr')
    · intro a ha
      rcases List.mem_cons.mp ha with rfl | ha
      · exact ⟨r.table, h.readers r (List.mem_of_getElem? hreader), rfl⟩
      · exact h.answers a ha
  | requested => exact { h with }

/-- What a step does to what is published. -/
structure Publishes (s s' : System) : Prop where
  only : s'.table = s.table ∧ s'.accepted = s.accepted ∨
    ∃ cfg order, s'.accepted = cfg :: s.accepted ∧
      updateConfig lib order hasTransportFactory s.table cfg = .ok s'.table
  version : s'.table.version < s.table.version →
    ∃ cfg, s'.accepted = cfg :: s.accepted ∧ s'.table.version = cfg.version ∧ cfg.version ≤ 0
  returned : ∀ cfg, s.phase = .published cfg → s'.phase = .idle → CompiledFrom lib cfg s'.table

theorem version_of_precheck (h : precheck hasTransportFactory table cfg = none)
    (hlt : cfg.version < table.version) : cfg.version ≤ 0 := by
  rw [precheck] at h
  split at h
  · cases h
  · rename_i hfresh
    by_contra hpos
    exact hfresh ⟨by omega, hlt⟩

theorem publishes_of_same (htable : s'.table = s.table) (haccepted : s'.accepted = s.accepted)
    (hphase : ∀ cfg, s.phase = .published cfg → s'.phase = s.phase) :
    Publishes lib hasTransportFactory s s' where
  only := Or.inl ⟨htable, haccepted⟩
  version hlt := by
    rw [htable] at hlt
    omega
  returned cfg h h' := by
    rw [hphase cfg h, h] at h'
    cases h'

theorem publishes_of_step (h : Inv lib hasTransportFactory s)
    (hstep : step lib text hasTransportFactory action s = some s') :
    Publishes lib hasTransportFactory s s' := by
  cases steps_of_step lib text hasTransportFactory hstep with
  | refused => exact publishes_of_same lib hasTransportFactory rfl rfl fun _ _ => rfl
  | began hidle =>
    refine publishes_of_same lib hasTransportFactory rfl rfl ?_
    intro cfg hphase
    cases hidle.symm.trans hphase
  | dialed hcompiling =>
    refine publishes_of_same lib hasTransportFactory rfl rfl ?_
    intro cfg hphase
    cases hcompiling.symm.trans hphase
  | rejected hcompiling =>
    refine publishes_of_same lib hasTransportFactory rfl rfl ?_
    intro cfg hphase
    cases hcompiling.symm.trans hphase
  | @published cfg order table _ hcompiling hok =>
    have hsound := h.phase
    rw [hcompiling] at hsound
    have hversion : table.version = cfg.version := by
      obtain ⟨compiled, -, htable⟩ := (bind_eq_ok _ _ _).mp hok
      cases htable
      rfl
    refine ⟨Or.inr ⟨cfg, order, rfl, ?_⟩, ?_, ?_⟩
    · rw [updateConfig_eq, hsound, hok]
      rfl
    · intro hlt
      refine ⟨cfg, rfl, hversion, ?_⟩
      exact version_of_precheck hasTransportFactory hsound (hversion ▸ hlt)
    · intro cfg' hphase _
      cases hcompiling.symm.trans hphase
  | @pruned cfg _ _ hpublished =>
    refine ⟨Or.inl ⟨rfl, rfl⟩, fun hlt => absurd hlt (lt_irrefl _), ?_⟩
    intro cfg' hphase _
    have hlatest := h.latest
    have hhead := h.phase
    rw [hphase] at hhead
    obtain ⟨rest, hrest⟩ := List.head?_eq_some_iff.mp hhead
    rw [hrest] at hlatest
    exact hlatest
  | loaded => exact publishes_of_same lib hasTransportFactory rfl rfl fun _ _ => rfl
  | answered => exact publishes_of_same lib hasTransportFactory rfl rfl fun _ _ => rfl
  | requested => exact publishes_of_same lib hasTransportFactory rfl rfl fun _ _ => rfl

def Action.isFinish : Action → Bool
  | .finish _ => true
  | _ => false

/-- The transport a request asks for. -/
def requestKey : Action → Option String
  | .dial spec => some (transportKey text spec)
  | _ => none

theorem step_during_call {pending : List DialSpec}
    (hstep : step lib text hasTransportFactory action s = some s')
    (hfinish : action.isFinish = false) (hphase : s.phase = .compiling cfg pending) :
    ∃ done rest, pending = done ++ rest ∧ s'.phase = .compiling cfg rest ∧ s'.table = s.table ∧
      s.pool.Grew s'.pool (done.map (transportKey text) ++ (requestKey text action).toList) := by
  cases steps_of_step lib text hasTransportFactory hstep with
  | refused hidle => cases hidle.symm.trans hphase
  | began hidle => cases hidle.symm.trans hphase
  | @dialed _ spec rest _ hcompiling =>
    cases hcompiling.symm.trans hphase
    exact ⟨[spec], rest, rfl, rfl, rfl, grew_getTransport s.pool _⟩
  | rejected => cases hfinish
  | published => cases hfinish
  | pruned hpublished => cases hpublished.symm.trans hphase
  | loaded => exact ⟨[], pending, rfl, hphase, rfl, .refl s.pool⟩
  | answered => exact ⟨[], pending, rfl, hphase, rfl, .refl s.pool⟩
  | requested => exact ⟨[], pending, rfl, hphase, rfl, grew_getTransport s.pool _⟩

/-- While a call compiles, only its own mirrors and the requests fill the pool. -/
theorem execute_during_call {acts : List Action} {pending : List DialSpec}
    (hrun : execute (step lib text hasTransportFactory) acts s = some s')
    (hacts : ∀ a ∈ acts, a.isFinish = false) (hphase : s.phase = .compiling cfg pending) :
    ∃ done rest, pending = done ++ rest ∧ s'.phase = .compiling cfg rest ∧ s'.table = s.table ∧
      s.pool.Grew s'.pool (done.map (transportKey text) ++ acts.filterMap (requestKey text)) := by
  induction acts generalizing s pending with
  | nil =>
    cases hrun
    exact ⟨[], pending, rfl, hphase, rfl, .refl _⟩
  | cons a acts ih =>
    obtain ⟨t, hstep, hrest⟩ := Option.bind_eq_some_iff.mp hrun
    obtain ⟨done, rest, hpending, hphase', htable, hgrew⟩ := step_during_call lib text
      hasTransportFactory hstep (hacts a List.mem_cons_self) hphase
    obtain ⟨done', rest', hpending', hphase'', htable', hgrew'⟩ :=
      ih hrest (fun b hb => hacts b (List.mem_cons_of_mem a hb)) hphase'
    refine ⟨done ++ done', rest', ?_, hphase'', htable'.trans htable, ?_⟩
    · rw [hpending, hpending', List.append_assoc]
    · apply (hgrew.trans hgrew').congr
      intro key
      rw [List.filterMap_cons]
      cases requestKey text a with
      | none => simp
      | some key' =>
        simp only [List.map_append, List.mem_append, Option.toList_some, List.mem_cons]
        tauto

/-- What is left of a call made in this state that returns an error. -/
structure FailedCalls (s : System) : Prop where
  checks : ∀ cfg err, s.phase = .idle → precheck hasTransportFactory s.table cfg = some err →
    step lib text hasTransportFactory (.begin cfg) s = some s
  compiles : ∀ cfg s₁ acts s₂ order s₃ err,
    precheck hasTransportFactory s.table cfg = none →
    step lib text hasTransportFactory (.begin cfg) s = some s₁ →
    (∀ a ∈ acts, a.isFinish = false) →
    execute (step lib text hasTransportFactory) acts s₁ = some s₂ →
    updateConfig lib order hasTransportFactory s.table cfg = .error err →
    step lib text hasTransportFactory (.finish order) s₂ = some s₃ →
    s₃.phase = .idle ∧ s₃.table = s.table ∧
      s.pool.Grew s₃.pool
        ((borrowed lib hasTransportFactory cfg).map (transportKey text) ++
          acts.filterMap (requestKey text))

theorem failedCalls (s : System) : FailedCalls lib text hasTransportFactory s where
  checks cfg err hidle hcheck := by rw [step, hidle, hcheck]
  compiles cfg s₁ acts s₂ order s₃ err hcheck hbegin hacts hrun herr hfinish := by
    cases steps_of_step lib text hasTransportFactory hbegin with
    | refused _ hcheck' => cases hcheck'.symm.trans hcheck
    | began =>
      obtain ⟨done, rest, hpending, hphase, htable, hgrew⟩ :=
        execute_during_call lib text hasTransportFactory hrun hacts rfl
      cases steps_of_step lib text hasTransportFactory hfinish with
      | published hphase' hok =>
        cases hphase.symm.trans hphase'
        rw [updateConfig_eq, hcheck, hok] at herr
        cases herr
      | rejected hphase' =>
        cases hphase.symm.trans hphase'
        rw [List.append_nil] at hpending
        rw [hpending]
        exact ⟨rfl, htable, hgrew⟩

theorem updates_publish_whole_tables {s : System}
    (run : Exec (step lib text hasTransportFactory) Unguarded .initial s) :
    (∀ a ∈ s.answers, a.FromOneTable lib s.accepted) ∧ Latest lib s.accepted s.table ∧
    (∀ action s', step lib text hasTransportFactory action s = some s' →
      Publishes lib hasTransportFactory s s') ∧
    FailedCalls lib text hasTransportFactory s := by
  have hinv : Inv lib hasTransportFactory s :=
    run.invariant (fun _ _ _ h _ hstep => inv_step lib text hasTransportFactory h hstep)
      (inv_initial lib hasTransportFactory)
  refine ⟨hinv.answers, hinv.latest, ?_, failedCalls lib text hasTransportFactory s⟩
  intro action s' hstep
  exact publishes_of_step lib text hasTransportFactory hinv hstep

def plainKeys : KeyText := ⟨fun cfg => cfg.serverName, fun d => toString d ++ "ns"⟩

def mirrorRule : RouteRule where
  filters := [{ type := .requestMirror
                requestMirror := some ⟨"http://shadow:80", none, none, .http⟩ }]

/-- A path the engine does not compile. -/
def brokenRule : RouteRule where
  routeMatches := [{ path := some ⟨.regularExpression, "("⟩ }]

def shadowedRun : List Action :=
  [.begin ⟨5, [mirrorRule], false⟩,
    .load ⟨"GET", "a.example", "/", fun _ => [], fun _ => []⟩ id, .dialMirror,
    .finish .stable, .answer 0, .prune]

theorem shadowedRun_publishes_whole_tables : ∃ s : System,
    execute (step .literal plainKeys true) shadowedRun .initial = some s ∧
    s.answers.length = 1 ∧ s.accepted.length = 1 ∧
    (∀ a ∈ s.answers, a.FromOneTable .literal s.accepted) ∧
    Latest .literal s.accepted s.table := by
  have hcounts : (execute (step .literal plainKeys true) shadowedRun .initial).map
      (fun s => (s.answers.length, s.accepted.length)) = some (1, 1) := by
    decide +kernel
  obtain ⟨s, hrun, hlengths⟩ := Option.map_eq_some_iff.mp hcounts
  obtain ⟨hanswers, hlatest, -, -⟩ :=
    updates_publish_whole_tables .literal plainKeys true (exec_of_execute hrun)
  obtain ⟨hone, htwo⟩ := Prod.mk.inj hlengths
  exact ⟨s, hrun, hone, htwo, hanswers, hlatest⟩

/-- A rejected configuration leaves the transport of its mirror behind, and a
negative version lowers the published one. -/
theorem rejected_update_pools_transport :
    (execute (step .literal plainKeys true)
        [.begin ⟨1, [mirrorRule, brokenRule], false⟩, .dialMirror, .finish .stable] .initial).map
      (fun s => (s.accepted.length, s.table.version, s.pool.entries)) =
        some (0, 0, [("shadow:80|||0ns", 0)]) ∧
    (execute (step .literal plainKeys true)
        [.begin ⟨5, [], false⟩, .finish .stable, .prune, .begin ⟨-1, [], false⟩, .finish .stable,
          .prune] .initial).map
      (fun s => (s.accepted.map (·.version), s.table.version)) = some ([-1, 5], -1) := by
  decide +kernel

end System

end TunnelGateway.RouterUpdates
