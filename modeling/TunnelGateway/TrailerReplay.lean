import TunnelGateway.ResponseWriters

/-!
The trailers of a response. The bridge keeps them back when the header goes out and
replays them when the handler has returned, from the header map as it is then. Both
times it ranges over a map, so the order of the entries is not known.
-/
namespace TunnelGateway.TrailerReplay

open GoText Matcher ResponseWriters

abbrev Entry := Sigma fun _ : String => List String

/-- The order in which a range walks a map. -/
structure RangeOrder where
  walk : HeaderMap → List Entry
  perm : ∀ header, (walk header).Perm header.entries

def RangeOrder.stored : RangeOrder := ⟨AList.entries, fun _ => .refl _⟩

section Bridge

variable (order : RangeOrder)

/-- `WriteHeader`, with the order of its range. -/
def writeHeaderIn (b : TrailerBridge) (code : ℕ) : TrailerBridge :=
  if b.wroteHeader then b
  else
    let copied := (order.walk b.header).foldl (fun state entry => copyField state entry.1 entry.2)
      (b.inner.header, b.announced)
    { b with
      wroteHeader := true
      announced := copied.2
      inner := { b.inner with header := copied.1 }.writeHeader code }

def writeIn (b : TrailerBridge) (payload : Bytes) : TrailerBridge :=
  let b := if b.wroteHeader then b else writeHeaderIn order b 200
  { b with inner := b.inner.write payload }

def callIn (b : TrailerBridge) : Call → TrailerBridge
  | .edit change => { b with header := change b.header }
  | .writeHeader code => writeHeaderIn order b code
  | .write payload => writeIn order b payload

/-- The trailer that a key stands for, if any. -/
def trailerName (announced : List String) (key : String) : Option String :=
  let name :=
    if hasPrefix key trailerPrefix then trimPrefix key trailerPrefix
    else if canonicalHeaderKey key ∈ announced then key else ""
  if name = "" then none else some name

/-- The calls of `AddTrailer` for one entry. -/
def addTrailers (announced : List String) (entry : Entry) : List (String × String) :=
  match trailerName announced entry.1 with
  | none => []
  | some name => entry.2.map fun value => (name, value)

/-- The calls of `AddTrailer` when the handler has returned. -/
def flushTrailers (b : TrailerBridge) : List (String × String) :=
  if b.wroteHeader then (order.walk b.header).flatMap (addTrailers b.announced) else []

end Bridge

section Sessions

/-- What sends the header. -/
inductive Commit where
  | writeHeader (code : ℕ)
  | write (payload : Bytes)

def Commit.call : Commit → Call
  | .writeHeader code => .writeHeader code
  | .write payload => .write payload

def Commit.code : Commit → ℕ
  | .writeHeader code => code
  | .write _ => 200

def payload? : Call → Option Bytes
  | .write payload => some payload
  | _ => none

def applyEdit (header : HeaderMap) : Call → HeaderMap
  | .edit change => change header
  | _ => header

/-- A handler that edits the header, sends it and goes on as it likes. -/
structure BridgeSession where
  edits : List (HeaderMap → HeaderMap)
  commit : Commit
  rest : List Call

namespace BridgeSession

variable (s : BridgeSession)

def calls : List Call := s.edits.map .edit ++ s.commit.call :: s.rest

/-- The map when the header goes out. -/
def atCommit : HeaderMap := s.edits.foldl (fun header change => change header) ∅

/-- The map when the handler returns. -/
def atReturn : HeaderMap := s.rest.foldl applyEdit s.atCommit

def payloads : List Bytes := (s.commit.call :: s.rest).filterMap payload?

/-- The names listed under `Trailer` when the header goes out. -/
def announced : List String := s.atCommit.entries.flatMap fun entry =>
  if canonicalHeaderKey entry.1 = "Trailer" then announcedNames entry.2 else []

end BridgeSession

def runBridge (order : RangeOrder) (initial : HeaderMap) (calls : List Call) : TrailerBridge :=
  calls.foldl (callIn order) (newTrailerBridge { header := initial })

end Sessions

section Runs

variable (order : RangeOrder)

/-- Once the header is out, only the map and the body change. -/
theorem foldl_callIn (calls : List Call) {b : TrailerBridge} (h : b.wroteHeader = true) :
    calls.foldl (callIn order) b = { b with
      header := calls.foldl applyEdit b.header
      inner := { b.inner with
        deliveries := b.inner.deliveries ++ (calls.filterMap payload?).map .bytes } } := by
  induction calls generalizing b with
  | nil => simp
  | cons call rest ih =>
    have hstep : (callIn order b call).wroteHeader = true := by
      cases call <;> simp [callIn, writeHeaderIn, writeIn, h]
    rw [List.foldl_cons, ih hstep]
    cases call <;> simp [callIn, writeHeaderIn, writeIn, applyEdit, payload?, TunnelWriter.write,
      List.filterMap_cons, h]

theorem foldl_edits (edits : List (HeaderMap → HeaderMap)) (b : TrailerBridge) :
    (edits.map Call.edit).foldl (callIn order) b =
      { b with header := edits.foldl (fun header change => change header) b.header } := by
  induction edits generalizing b with
  | nil => rfl
  | cons change rest ih => rw [List.map_cons, List.foldl_cons, ih]; rfl

/-- What the range of `WriteHeader` leaves. -/
def copied (initial : HeaderMap) (s : BridgeSession) : HeaderMap × List String :=
  (order.walk s.atCommit).foldl (fun state entry => copyField state entry.1 entry.2) (initial, [])

theorem runBridge_eq (initial : HeaderMap) (s : BridgeSession) :
    runBridge order initial s.calls = {
      header := s.atReturn
      announced := (copied order initial s).2
      wroteHeader := true
      inner := ⟨(copied order initial s).1,
        .status s.commit.code (copied order initial s).1 :: s.payloads.map .bytes⟩ } := by
  have hout : ∀ b : TrailerBridge, (callIn order b s.commit.call).wroteHeader = true := by
    intro b
    cases s.commit <;> simp only [Commit.call, callIn, writeIn, writeHeaderIn] <;>
      split_ifs <;> simp_all
  rw [runBridge, BridgeSession.calls, List.foldl_append, foldl_edits, List.foldl_cons,
    foldl_callIn order s.rest (hout _)]
  obtain ⟨edits, commit, rest⟩ := s
  cases commit <;> simp [callIn, writeHeaderIn, writeIn, newTrailerBridge, TunnelWriter.writeHeader,
    TunnelWriter.write, Commit.call, Commit.code, copied, BridgeSession.atReturn,
    BridgeSession.atCommit, BridgeSession.payloads, payload?, List.filterMap_cons]

end Runs

section Replay

/-- A range adds the announced names and leaves the kept keys out of the header. -/
theorem snd_foldl_copyField (entries : List Entry) (state : HeaderMap × List String) :
    (entries.foldl (fun state entry => copyField state entry.1 entry.2) state).2 =
      state.2 ++ entries.flatMap fun entry =>
        if canonicalHeaderKey entry.1 = "Trailer" then announcedNames entry.2 else [] := by
  induction entries generalizing state with
  | nil => simp
  | cons entry rest ih =>
    rw [List.foldl_cons, ih, List.flatMap_cons, copyField]
    split_ifs <;> simp

theorem lookup_foldl_trailerKey {key : String} (hkey : isTrailerKey key = true)
    (entries : List Entry) (state : HeaderMap × List String) :
    ((entries.foldl (fun state entry => copyField state entry.1 entry.2) state).1).lookup key =
      state.1.lookup key := by
  induction entries generalizing state with
  | nil => rfl
  | cons entry rest ih =>
    rw [List.foldl_cons, ih, copyField]
    split_ifs with htrailer hprefix
    · rfl
    · rfl
    · refine AList.lookup_insert_ne ?_
      rintro rfl
      simp [isTrailerKey, htrailer, hprefix] at hkey

variable (first last : RangeOrder) (initial : HeaderMap) (s : BridgeSession)

theorem lookup_copied (key : String) : (copied first initial s).1.lookup key =
    if isTrailerKey key then initial.lookup key
    else (s.atCommit.lookup key).or (initial.lookup key) := by
  have hperm := first.perm s.atCommit
  have hnodup := (List.perm_nodupKeys hperm).mpr s.atCommit.nodupKeys
  split_ifs with hkey
  · exact lookup_foldl_trailerKey hkey _ _
  · rw [copied, lookup_foldl_copyField (Bool.eq_false_iff.mpr hkey) _ hnodup,
      List.perm_dlookup key hnodup hperm]
    rfl

theorem mem_copied {name : String} : name ∈ (copied first initial s).2 ↔ name ∈ s.announced := by
  rw [copied, snd_foldl_copyField]
  exact ((first.perm s.atCommit).flatMap_right _).mem_iff

/-- The trailers of a session, entry by entry. -/
def BridgeSession.trailers (entries : List Entry) : List (String × String) :=
  entries.flatMap (addTrailers s.announced)

theorem flushTrailers_eq : flushTrailers last (runBridge first initial s.calls) =
    s.trailers (last.walk s.atReturn) := by
  have hsame : addTrailers (copied first initial s).2 = addTrailers s.announced := by
    funext entry
    simp [addTrailers, trailerName, mem_copied]
  rw [runBridge_eq, flushTrailers, hsame]
  rfl

/-- Only one key of the map stands for the trailer. -/
def BridgeSession.OnlyKey (key name : String) : Prop :=
  ∀ other ∈ s.atReturn.keys, trailerName s.announced other = some name → other = key

variable {announced values : List String}

theorem addTrailers_of_name {key name : String} (h : trailerName announced key = some name) :
    addTrailers announced ⟨key, values⟩ = values.map fun value => (name, value) := by
  rw [addTrailers, h]

theorem filter_addTrailers_of_ne {entry : Entry} {name : String}
    (h : trailerName announced entry.1 ≠ some name) :
    (addTrailers announced entry).filter (·.1 = name) = [] := by
  rw [addTrailers]
  cases hname : trailerName announced entry.1 with
  | none => rfl
  | some other =>
    have hne : other ≠ name := fun heq => h (heq ▸ hname)
    simp [hne]

variable {s}

/-- The walk of an entry of the map, and what is walked before and after it. -/
theorem exists_walk {key : String} (h : s.atReturn.lookup key = some values) :
    ∃ front back : List Entry,
      last.walk s.atReturn = front ++ ⟨key, values⟩ :: back ∧
      ∀ entry ∈ front ++ back, entry.1 ∈ s.atReturn.keys ∧ entry.1 ≠ key := by
  have hperm := last.perm s.atReturn
  have hmem : (⟨key, values⟩) ∈ last.walk s.atReturn :=
    hperm.mem_iff.mpr (List.of_mem_dlookup h)
  obtain ⟨front, back, hwalk⟩ := List.append_of_mem hmem
  refine ⟨front, back, hwalk, fun entry hentry => ?_⟩
  have hback : entry ∈ last.walk s.atReturn := by
    rw [hwalk]
    exact (List.Sublist.append_left (List.sublist_cons_self _ _) front).subset hentry
  refine ⟨List.mem_keys_of_mem (hperm.mem_iff.mp hback), fun hkey => ?_⟩
  have hnodup := (List.perm_nodupKeys hperm).mpr s.atReturn.nodupKeys
  rw [hwalk, List.nodupKeys_middle, List.nodupKeys_cons] at hnodup
  have hkeys : entry.1 ∈ (front ++ back).keys := List.mem_keys_of_mem hentry
  exact hnodup.1 (hkey ▸ hkeys)

theorem filter_trailers {key name : String} (h : s.atReturn.lookup key = some values)
    (hname : trailerName s.announced key = some name) (honly : s.OnlyKey key name) :
    (s.trailers (last.walk s.atReturn)).filter (·.1 = name) =
      values.map fun value => (name, value) := by
  obtain ⟨front, back, hwalk, hother⟩ := exists_walk last h
  have hnone : ∀ entries : List Entry, (∀ entry ∈ entries, entry ∈ front ++ back) →
      (s.trailers entries).filter (·.1 = name) = [] := by
    intro entries hentries
    rw [BridgeSession.trailers, List.filter_flatMap, List.flatMap_eq_nil_iff]
    intro entry hentry
    obtain ⟨hkey, hne⟩ := hother entry (hentries entry hentry)
    exact filter_addTrailers_of_ne fun hsame => hne (honly _ hkey hsame)
  have hparts : s.trailers (front ++ ⟨key, values⟩ :: back) =
      s.trailers front ++ (addTrailers s.announced ⟨key, values⟩ ++ s.trailers back) := by
    simp [BridgeSession.trailers]
  rw [hwalk, hparts, List.filter_append, List.filter_append,
    hnone front fun e => List.mem_append_left _, hnone back fun e => List.mem_append_right _,
    addTrailers_of_name hname]
  simp

/-- The header goes out without the kept keys, and the values that stand under trailer
keys at the end are replayed, each once and those of one key in order. The orders of
the two ranges only matter between keys. -/
theorem trailers_bridged (first last : RangeOrder) (initial : HeaderMap) (s : BridgeSession) :
    (∃ delivered : HeaderMap,
      (runBridge first initial s.calls).inner.deliveries =
        .status s.commit.code delivered :: s.payloads.map .bytes ∧
      ∀ key, delivered.lookup key = if isTrailerKey key then initial.lookup key
        else (s.atCommit.lookup key).or (initial.lookup key)) ∧
    (flushTrailers last (runBridge first initial s.calls)).Perm (s.trailers s.atReturn.entries) ∧
    ∀ key values name, s.atReturn.lookup key = some values →
      trailerName s.announced key = some name →
        (values.map fun value => (name, value)) <:+:
          flushTrailers last (runBridge first initial s.calls) ∧
        (s.OnlyKey key name →
          (flushTrailers last (runBridge first initial s.calls)).filter (·.1 = name) =
            values.map fun value => (name, value)) := by
  rw [flushTrailers_eq]
  refine ⟨⟨_, by rw [runBridge_eq], lookup_copied first initial s⟩,
    (last.perm _).flatMap_right _, fun key values name h hname => ⟨?_, filter_trailers last h hname⟩⟩
  obtain ⟨front, back, hwalk, -⟩ := exists_walk last h
  refine ⟨s.trailers front, s.trailers back, ?_⟩
  rw [hwalk, ← addTrailers_of_name hname]
  simp [BridgeSession.trailers]

end Replay

section Examples

def RangeOrder.reversed : RangeOrder :=
  ⟨fun header => header.entries.reverse, fun header => List.reverse_perm header.entries⟩

/-- A trailer that is announced and also sent with the mark, and one without a name. -/
def grpcStatus : BridgeSession where
  edits := [fun header => header.insert "Trailer" ["Grpc-Status, Grpc-Message"]]
  commit := .writeHeader 200
  rest := [.write [1], .edit fun header => header.insert "Grpc-Status" ["0"],
    .edit fun header => header.insert "Trailer:Grpc-Status" ["13"],
    .edit fun header => header.insert "Trailer:" ["lost"],
    .edit fun header => header.insert "Grpc-Message" ["ok", "done"]]

/-- The value without a name is not replayed, and the two values of one trailer come in
the order of the range. -/
theorem trailers_follow_range_order :
    grpcStatus.atReturn.lookup "Trailer:" = some ["lost"] ∧
    (∀ order ∈ [RangeOrder.stored, RangeOrder.reversed],
      ∀ call ∈ flushTrailers order (runBridge .stored ∅ grpcStatus.calls), call.2 ≠ "lost") ∧
    (flushTrailers .stored (runBridge .stored ∅ grpcStatus.calls)).filter (·.1 = "Grpc-Status") =
      [("Grpc-Status", "13"), ("Grpc-Status", "0")] ∧
    (flushTrailers .reversed (runBridge .stored ∅ grpcStatus.calls)).filter (·.1 = "Grpc-Status") =
      [("Grpc-Status", "0"), ("Grpc-Status", "13")] := by
  decide +kernel

/-- A trailer under one key is replayed in order, whatever the range does. -/
theorem trailers_bridged_grpcMessage :
    grpcStatus.OnlyKey "Grpc-Message" "Grpc-Message" ∧
    (flushTrailers .reversed (runBridge .stored ∅ grpcStatus.calls)).filter
      (·.1 = "Grpc-Message") = [("Grpc-Message", "ok"), ("Grpc-Message", "done")] := by
  have honly : grpcStatus.OnlyKey "Grpc-Message" "Grpc-Message" := by
    unfold BridgeSession.OnlyKey
    decide +kernel
  exact ⟨honly, ((trailers_bridged .stored .reversed ∅ grpcStatus).2.2 "Grpc-Message"
    ["ok", "done"] "Grpc-Message" (by decide +kernel) (by decide +kernel)).2 honly⟩

end Examples

end TunnelGateway.TrailerReplay
