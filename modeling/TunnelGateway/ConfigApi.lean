import TunnelGateway.ConfigValidate
import TunnelGateway.Pusher

/-!
The endpoint of a replica that takes configurations. A request is refused for
its credentials, its content type, its size, its JSON, its content or its
version, in this order; only then the new table is swapped in. The JSON codec is
taken as given. For a configuration a replica can take, the endpoint does what
`Replica.put` says.
-/
namespace TunnelGateway.ConfigApi

open GoText Fallible ProxyConfig Router Pusher

section Handler

inductive DecodeError where
  | tooLarge
  | invalidJSON
  deriving DecidableEq

/-- Bytes of the values that header matches compare with. -/
def headerBytes (cfg : Config) : ℕ :=
  (cfg.rules.flatMap fun rule => rule.routeMatches.flatMap fun m =>
    m.headers.map fun header => len header.value).sum

/-- `encoding/json` on configurations. A decoder behind a `MaxBytesReader` gives
a marshalled value back if all of it is within the limit; a JSON string is at
least as long as its text. -/
structure WireFormat where
  Body : Type
  size : Body → ℕ
  marshal : Config → Body
  decode : ℕ → Body → Except DecodeError Config
  decode_marshal : ∀ limit cfg, decode limit (marshal cfg) =
    if size (marshal cfg) ≤ limit then .ok cfg else .error .tooLarge
  headerBytes_le : ∀ cfg, headerBytes cfg ≤ size (marshal cfg)

/-- One such format, which counts one byte for a rule and for each byte of a header
value. -/
def WireFormat.counting : WireFormat where
  Body := Config
  size cfg := cfg.rules.length + headerBytes cfg
  marshal := id
  decode limit cfg :=
    if cfg.rules.length + headerBytes cfg ≤ limit then .ok cfg else .error .tooLarge
  decode_marshal _ _ := rfl
  headerBytes_le _ := Nat.le_add_left _ _

def statusOK : ℕ := 200
def statusBadRequest : ℕ := 400
def statusUnauthorized : ℕ := 401
def statusConflict : ℕ := 409
def statusRequestEntityTooLarge : ℕ := 413
def statusUnsupportedMediaType : ℕ := 415
def statusInternalServerError : ℕ := 500

structure Response where
  status : ℕ
  text : String := ""
  deriving DecidableEq

/-- A PUT request; a missing header reads as the empty string. -/
structure PutRequest (Body : Type) where
  authorization : String
  contentType : String
  body : Body

/-- The API of a replica; whether the router was given a transport factory is
decided when the process is wired. -/
structure ConfigAPI where
  authToken : String
  hasTransportFactory : Bool

/-- One MiB. -/
def maxConfigBodySize : ℕ := 1048576

def bearerPrefix : String := "Bearer "

variable (lib : GoLib)

/-- The scheme is compared without regard to case. -/
def checkAuth (authToken header : String) : Bool :=
  if len header ≤ len bearerPrefix then false
  else
    let scheme := String.ofList (header.toList.take bearerPrefix.toList.length)
    toLower lib scheme = toLower lib bearerPrefix &&
      sliceFrom header bearerPrefix.toList.length = authToken

variable (order : WildcardOrder) (wire : WireFormat) (api : ConfigAPI)

def handlePutConfig (table : RoutingTable) (req : PutRequest wire.Body) :
    Response × RoutingTable :=
  if api.authToken ≠ "" ∧ !checkAuth lib api.authToken req.authorization then
    (⟨statusUnauthorized, "unauthorized"⟩, table)
  else if !hasPrefix req.contentType "application/json" then
    (⟨statusUnsupportedMediaType, "unsupported content type"⟩, table)
  else
    match wire.decode maxConfigBodySize req.body with
    | .error .tooLarge =>
        (⟨statusRequestEntityTooLarge, "config body exceeds maximum size"⟩, table)
    | .error .invalidJSON => (⟨statusBadRequest, "invalid JSON"⟩, table)
    | .ok cfg =>
        match cfg.validate with
        | .error _ => (⟨statusBadRequest, "invalid config"⟩, table)
        | .ok _ =>
            match updateConfig lib order api.hasTransportFactory table cfg with
            | .error (.staleVersion _ _) => (⟨statusConflict, "stale config version"⟩, table)
            | .error _ => (⟨statusInternalServerError, "internal server error"⟩, table)
            | .ok updated => (⟨statusOK, ""⟩, updated)

/-- The request `doPush` sends. -/
def pushRequest (authToken : String) (cfg : Config) : PutRequest wire.Body where
  authorization := if authToken ≠ "" then bearerPrefix ++ authToken else ""
  contentType := "application/json"
  body := wire.marshal cfg

end Handler

section Push

variable {lib : GoLib} {order : WildcardOrder} {wire : WireFormat} {api : ConfigAPI}
variable {table : RoutingTable} {cfg : Config}

/-- The pusher's own header passes with the replica's token. -/
theorem checkAuth_bearer {authToken : String} (hne : authToken ≠ "") :
    checkAuth lib authToken (bearerPrefix ++ authToken) = true := by
  have htake : String.ofList ((bearerPrefix ++ authToken).toList.take
      bearerPrefix.toList.length) = bearerPrefix := by
    rw [String.toList_append, List.take_left, String.ofList_toList]
  have hdrop : sliceFrom (bearerPrefix ++ authToken) bearerPrefix.toList.length = authToken := by
    rw [sliceFrom, String.toList_append, List.drop_left, String.ofList_toList]
  have hlen : ¬ len (bearerPrefix ++ authToken) ≤ len bearerPrefix := by
    have hpos : len authToken ≠ 0 := fun h => hne ((len_eq_zero authToken).mp h)
    rw [len_append]
    omega
  rw [checkAuth, if_neg hlen, hdrop]
  simp

/-- What becomes of a pushed configuration once its sender is known. -/
theorem handlePutConfig_push :
    handlePutConfig lib order wire api table (pushRequest wire api.authToken cfg) =
      if wire.size (wire.marshal cfg) ≤ maxConfigBodySize then
        match cfg.validate with
        | .error _ => (⟨statusBadRequest, "invalid config"⟩, table)
        | .ok _ =>
            match updateConfig lib order api.hasTransportFactory table cfg with
            | .error (.staleVersion _ _) => (⟨statusConflict, "stale config version"⟩, table)
            | .error _ => (⟨statusInternalServerError, "internal server error"⟩, table)
            | .ok updated => (⟨statusOK, ""⟩, updated)
      else (⟨statusRequestEntityTooLarge, "config body exceeds maximum size"⟩, table) := by
  have hauth : ¬ (api.authToken ≠ "" ∧ (!checkAuth lib api.authToken
      (pushRequest wire api.authToken cfg).authorization) = true) := by
    intro h
    obtain ⟨hne, hfail⟩ := h
    rw [pushRequest, if_pos hne, checkAuth_bearer hne] at hfail
    cases hfail
  have hjson : ¬ (!hasPrefix (pushRequest wire api.authToken cfg).contentType
      "application/json") = true := by
    rw [pushRequest, (hasPrefix_iff _ _).mpr List.prefix_rfl]
    decide
  have hbody : (pushRequest wire api.authToken cfg).body = wire.marshal cfg := rfl
  rw [handlePutConfig, if_neg hauth, if_neg hjson, hbody, wire.decode_marshal]
  by_cases hsize : wire.size (wire.marshal cfg) ≤ maxConfigBodySize
  · rw [if_pos hsize, if_pos hsize]
  · rw [if_neg hsize, if_neg hsize]

theorem version_of_compileRoutingTable {updated : RoutingTable}
    (h : compileRoutingTable lib order cfg = .ok updated) : updated.version = cfg.version := by
  obtain ⟨compiled, -, h⟩ := (bind_eq_ok _ _ _).mp h
  cases h
  rfl

/-- A configuration that is not stale is taken exactly when it is small enough,
valid and compiled. -/
theorem status_push_eq_ok (hfresh : table.version ≤ cfg.version)
    (hfactory : api.hasTransportFactory = true) :
    (handlePutConfig lib order wire api table
        (pushRequest wire api.authToken cfg)).1.status = statusOK ↔
      wire.size (wire.marshal cfg) ≤ maxConfigBodySize ∧ cfg.Valid ∧
        ∀ p ∈ cfg.patterns, Compiles lib p := by
  have hstale : ¬ (cfg.version > 0 ∧ cfg.version < table.version) := by omega
  rw [handlePutConfig_push]
  by_cases hsize : wire.size (wire.marshal cfg) ≤ maxConfigBodySize
  · rw [if_pos hsize]
    cases hvalidate : cfg.validate with
    | error err =>
      refine iff_of_false (by simp [statusBadRequest, statusOK]) ?_
      intro h
      rw [cfg.validate_eq_ok.mpr h.2.1] at hvalidate
      cases hvalidate
    | ok done =>
      have hvalid := cfg.validate_eq_ok.mp hvalidate
      have hupdate : updateConfig lib order api.hasTransportFactory table cfg =
          (compileRoutingTable lib order cfg).mapError fun err =>
            .compile ("failed to compile routing table: " ++ err) := by
        rw [updateConfig, if_neg hstale, hfactory]
        rfl
      rw [hupdate, ← compileRoutingTable_isOk lib order hvalid]
      cases hcompile : compileRoutingTable lib order cfg with
      | error err =>
        refine iff_of_false (by simp [Except.mapError, statusInternalServerError, statusOK]) ?_
        intro h
        obtain ⟨-, -, updated, hok⟩ := h
        cases hok
      | ok updated =>
        refine iff_of_true rfl ⟨hsize, hvalid, updated, rfl⟩
  · rw [if_neg hsize]
    exact iff_of_false (by simp [statusRequestEntityTooLarge, statusOK]) fun h => hsize h.1

end Push

section Refinement

variable {lib : GoLib} {order : WildcardOrder} {wire : WireFormat} {api : ConfigAPI}

/-- The answers the abstract replica gives. -/
def putStatus (response : Response) : Option PutStatus :=
  if response.status = statusOK then some .ok
  else if response.status = statusConflict then some .conflict
  else if response.status = statusBadRequest then some .badRequest
  else none

/-- A configuration with no other obstacle than its version. -/
structure Deliverable (lib : GoLib) (wire : WireFormat) (cfg : Config) : Prop where
  size : wire.size (wire.marshal cfg) ≤ maxConfigBodySize
  rules : ∀ rule ∈ cfg.rules, rule.Valid
  patterns : ∀ p ∈ cfg.patterns, Compiles lib p

/-- On deliverable configurations the endpoint refines the abstract replica. -/
theorem handlePutConfig_refines_put {table : RoutingTable} {replica : Replica} {cfg : Config}
    (hcfg : Deliverable lib wire cfg) (hfactory : api.hasTransportFactory = true)
    (hversion : table.version = replica.version) (build : ℕ) :
    putStatus (handlePutConfig lib order wire api table
        (pushRequest wire api.authToken cfg)).1 = some (replica.put cfg.version build).1 ∧
      (handlePutConfig lib order wire api table (pushRequest wire api.authToken cfg)).2.version =
        (replica.put cfg.version build).2.version := by
  rw [handlePutConfig_push, if_pos hcfg.size, Replica.put]
  by_cases hneg : cfg.version < 0
  · rw [if_pos hneg, Config.validate, if_pos hneg]
    exact ⟨rfl, hversion⟩
  · have hvalid : cfg.Valid := ⟨by omega, hcfg.rules⟩
    rw [if_neg hneg, cfg.validate_eq_ok.mpr hvalid, updateConfig, hfactory, hversion]
    by_cases hstale : 0 < cfg.version ∧ cfg.version < replica.version
    · rw [if_pos hstale, if_pos hstale]
      exact ⟨rfl, hversion⟩
    · obtain ⟨updated, hupdated⟩ := (compileRoutingTable_isOk lib order hvalid).mpr hcfg.patterns
      rw [if_neg hstale, if_neg hstale, hupdated]
      exact ⟨rfl, version_of_compileRoutingTable hupdated⟩

theorem refused_push_refines :
    putStatus (handlePutConfig .literal .stable .counting ⟨"", true⟩ ⟨[], [], [], 7⟩
      (pushRequest .counting "" ⟨3, [], false⟩)).1 = some .conflict := by
  have hcfg : Deliverable .literal .counting ⟨3, [], false⟩ :=
    ⟨by decide, (fun _ h => nomatch h), fun _ h => nomatch h⟩
  exact (@handlePutConfig_refines_put .literal .stable .counting ⟨"", true⟩ ⟨[], [], [], 7⟩
    ⟨7, none⟩ _ hcfg rfl rfl 0).1

/-- A push with a positive version is taken unless a newer one is served. -/
theorem handlePutConfig_positive {table : RoutingTable} {cfg : Config}
    (hcfg : Deliverable lib wire cfg) (hfactory : api.hasTransportFactory = true)
    (hpos : 0 < cfg.version) :
    let served := (handlePutConfig lib order wire api table (pushRequest wire api.authToken cfg)).2
    cfg.version < table.version ∧ served = table ∨
      table.version ≤ cfg.version ∧ compileRoutingTable lib order cfg = .ok served := by
  have hvalid : cfg.Valid := ⟨by omega, hcfg.rules⟩
  rw [handlePutConfig_push, if_pos hcfg.size, cfg.validate_eq_ok.mpr hvalid, updateConfig, hfactory]
  by_cases hstale : cfg.version < table.version
  · rw [if_pos ⟨hpos, hstale⟩]
    exact .inl ⟨hstale, rfl⟩
  · obtain ⟨updated, hupdated⟩ := (compileRoutingTable_isOk lib order hvalid).mpr hcfg.patterns
    rw [if_neg fun h => hstale h.2, hupdated]
    exact .inr ⟨by omega, rfl⟩

/-- Pushes one after the other, each compiled under an order of its own. -/
def putAll (lib : GoLib) (wire : WireFormat) (api : ConfigAPI) (table : RoutingTable)
    (pushes : List (WildcardOrder × Config)) : RoutingTable :=
  pushes.foldl (fun table push =>
    (handlePutConfig lib push.1 wire api table (pushRequest wire api.authToken push.2)).2) table

/-- In whatever order pushes arrive, the newest is served, and it is served whole. -/
theorem pushes_serve_newest (hfactory : api.hasTransportFactory = true)
    {pushes : List (WildcardOrder × Config)}
    (hpushes : ∀ push ∈ pushes, Deliverable lib wire push.2 ∧ 0 < push.2.version)
    (table : RoutingTable) :
    (putAll lib wire api table pushes).version =
        (pushes.map fun push => push.2.version).foldl max table.version ∧
      (putAll lib wire api table pushes = table ∨ ∃ push ∈ pushes,
        compileRoutingTable lib push.1 push.2 = .ok (putAll lib wire api table pushes)) := by
  induction pushes generalizing table with
  | nil => exact ⟨rfl, .inl rfl⟩
  | cons push rest ih =>
    obtain ⟨hcfg, hpos⟩ := hpushes push List.mem_cons_self
    obtain ⟨hversion, hserved⟩ := ih (fun p hp => hpushes p (List.mem_cons_of_mem _ hp))
      (handlePutConfig lib push.1 wire api table (pushRequest wire api.authToken push.2)).2
    rw [putAll, List.foldl_cons, ← putAll, List.map_cons, List.foldl_cons, hversion]
    have hstep := @handlePutConfig_positive lib push.1 wire api table push.2 hcfg hfactory hpos
    rcases hstep with ⟨hstale, hsame⟩ | ⟨hfresh, hcompile⟩
    · rw [hsame, max_eq_left hstale.le]
      rw [hsame] at hserved
      exact ⟨rfl, hserved.imp_right fun ⟨p, hp, h⟩ => ⟨p, List.mem_cons_of_mem _ hp, h⟩⟩
    · rw [version_of_compileRoutingTable hcompile, max_eq_right hfresh]
      refine ⟨rfl, .inr ?_⟩
      rcases hserved with hsame | ⟨p, hp, h⟩
      · rw [hsame]
        exact ⟨push, List.mem_cons_self, hcompile⟩
      · exact ⟨p, List.mem_cons_of_mem _ hp, h⟩

/-- The older of two pushes comes last. -/
theorem late_push_not_served :
    (putAll .literal .counting ⟨"", true⟩ ⟨[], [], [], 0⟩
      [(.stable, ⟨7, [], false⟩), (.stable, ⟨3, [], false⟩)]).version = 7 := by
  refine (pushes_serve_newest rfl ?_ _).1
  intro push hpush
  rcases List.mem_pair.mp hpush with rfl | rfl
  · exact ⟨⟨by decide, (fun _ h => nomatch h), fun _ h => nomatch h⟩, by decide⟩
  · exact ⟨⟨by decide, (fun _ h => nomatch h), fun _ h => nomatch h⟩, by decide⟩

end Refinement

end TunnelGateway.ConfigApi
