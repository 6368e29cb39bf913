import TunnelGateway.Matcher
import Mathlib.Data.List.AList

/-!
The two writers between a handler and cloudflared: the counting writer of the
access log and, inside it, the trailer bridge. Each lets one `WriteHeader`
through. A session is what net/http lets a handler do: any number of
informational statuses, at most one final status and then the body, with header
edits in between. The writer of cloudflared is a record of what it is given;
hijacking is not modelled, and the trailers are replayed in a module of their own.
-/
namespace TunnelGateway.ResponseWriters

open GoText Matcher

/-- The map `http.Header`; a range walks its entries. -/
abbrev HeaderMap := AList fun _ : String => List String

abbrev Bytes := List UInt8

inductive Delivery where
  | status (code : ℕ) (header : HeaderMap)
  | bytes (payload : Bytes)

/-- `connection.ResponseWriter`: its header map, and what it was given so far. -/
structure TunnelWriter where
  header : HeaderMap
  deliveries : List Delivery := []

def TunnelWriter.writeHeader (w : TunnelWriter) (code : ℕ) : TunnelWriter :=
  { w with deliveries := w.deliveries ++ [.status code w.header] }

def TunnelWriter.write (w : TunnelWriter) (payload : Bytes) : TunnelWriter :=
  { w with deliveries := w.deliveries ++ [.bytes payload] }

def trailerPrefix : String := "Trailer:"

/-- Runes `strings.TrimSpace` removes. -/
def isSpace (c : Char) : Bool :=
  c.toNat ∈ [9, 10, 11, 12, 13, 32, 0x85, 0xA0, 0x1680, 0x2028, 0x2029, 0x202F, 0x205F, 0x3000] ||
    (0x2000 ≤ c.toNat && c.toNat ≤ 0x200A)

def trimSpace (s : String) : String :=
  String.ofList ((s.toList.dropWhile isSpace).reverse.dropWhile isSpace).reverse

/-- The names a `Trailer` header lists. -/
def announcedNames (values : List String) : List String :=
  values.flatMap fun value => (value.toList.splitOn ',').map fun name =>
    canonicalHeaderKey (trimSpace (String.ofList name))

/-- Keys the bridge keeps back from the response header. -/
def isTrailerKey (key : String) : Bool :=
  canonicalHeaderKey key = "Trailer" || hasPrefix key trailerPrefix

structure TrailerBridge where
  inner : TunnelWriter
  header : HeaderMap
  announced : List String
  wroteHeader : Bool

def newTrailerBridge (w : TunnelWriter) : TrailerBridge := ⟨w, ∅, [], false⟩

/-- One round of the loop over the header map. -/
def copyField (state : HeaderMap × List String) (key : String) (values : List String) :
    HeaderMap × List String :=
  if canonicalHeaderKey key = "Trailer" then (state.1, state.2 ++ announcedNames values)
  else if hasPrefix key trailerPrefix then state
  else (state.1.insert key values, state.2)

def TrailerBridge.writeHeader (b : TrailerBridge) (code : ℕ) : TrailerBridge :=
  if b.wroteHeader then b
  else
    let copied := b.header.foldl copyField (b.inner.header, b.announced)
    { b with
      wroteHeader := true
      announced := copied.2
      inner := { b.inner with header := copied.1 }.writeHeader code }

def TrailerBridge.write (b : TrailerBridge) (payload : Bytes) : TrailerBridge :=
  let b := if b.wroteHeader then b else b.writeHeader 200
  { b with inner := b.inner.write payload }

/-- A status of zero stands for no response so far. -/
structure CountingResponseWriter where
  inner : TrailerBridge
  bytesWritten : ℕ
  status : ℕ
  writeHeaderCalled : Bool

def newCountingResponseWriter (inner : TrailerBridge) : CountingResponseWriter :=
  ⟨inner, 0, 0, false⟩

def CountingResponseWriter.writeHeader (c : CountingResponseWriter) (code : ℕ) :
    CountingResponseWriter :=
  if c.writeHeaderCalled then c
  else { c with writeHeaderCalled := true, status := code, inner := c.inner.writeHeader code }

/-- The implicit 200 is recorded here and sent by the bridge. -/
def CountingResponseWriter.write (c : CountingResponseWriter) (payload : Bytes) :
    CountingResponseWriter :=
  let c := if c.writeHeaderCalled then c else { c with writeHeaderCalled := true, status := 200 }
  { c with inner := c.inner.write payload, bytesWritten := c.bytesWritten + payload.length }

/-- What a handler does with its writer. -/
inductive Call where
  | edit (change : HeaderMap → HeaderMap)
  | writeHeader (code : ℕ)
  | write (payload : Bytes)

/-- `Header()` of the counting writer is the map of the bridge. -/
def CountingResponseWriter.call (c : CountingResponseWriter) : Call → CountingResponseWriter
  | .edit change => { c with inner := { c.inner with header := change c.inner.header } }
  | .writeHeader code => c.writeHeader code
  | .write payload => c.write payload

/-- The writers of one request, over a tunnel writer with the given header map. -/
def freshWriters (header : HeaderMap) : CountingResponseWriter :=
  newCountingResponseWriter (newTrailerBridge { header })

def serve (header : HeaderMap) (calls : List Call) : CountingResponseWriter :=
  calls.foldl CountingResponseWriter.call (freshWriters header)

/-- A 1xx status that does not commit the response. -/
def Informational (code : ℕ) : Prop := 100 ≤ code ∧ code < 200 ∧ code ≠ 101

instance (code : ℕ) : Decidable (Informational code) := by
  unfold Informational
  infer_instance

/-- A legal handler. Every step may be preceded by edits of the header map. -/
structure Session where
  early : List ((HeaderMap → HeaderMap) × {code : ℕ // Informational code})
  edit : HeaderMap → HeaderMap
  final : Option {code : ℕ // ¬ Informational code}
  body : List ((HeaderMap → HeaderMap) × Bytes)

namespace Session

def earlyCalls (s : Session) : List Call :=
  s.early.flatMap fun step => [.edit step.1, .writeHeader step.2]

def finalCalls (s : Session) : List Call :=
  match s.final with
  | some code => [.writeHeader code]
  | none => []

def bodyCalls (body : List ((HeaderMap → HeaderMap) × Bytes)) : List Call :=
  body.flatMap fun step => [.edit step.1, .write step.2]

def calls (s : Session) : List Call :=
  s.earlyCalls ++ .edit s.edit :: (s.finalCalls ++ bodyCalls s.body)

/-- The header map when the informational statuses are out and the edits before
the final status are made. -/
def headerBeforeFinal (s : Session) : HeaderMap :=
  s.edit (s.early.foldl (fun header step => step.1 header) ∅)

/-- The final status and the header map it is written with; the first write
of a handler that sets no status makes it 200. -/
def response (s : Session) : Option (ℕ × HeaderMap) :=
  match s.final, s.body with
  | some code, _ => some (code, s.headerBeforeFinal)
  | none, step :: _ => some (200, step.1 s.headerBeforeFinal)
  | none, [] => none

end Session

/-- The copied map has the handler's fields over what was there before. -/
theorem lookup_foldl_copyField {key : String} (hkey : isTrailerKey key = false)
    (entries : List (Sigma fun _ : String => List String)) (hnodup : entries.NodupKeys)
    (state : HeaderMap × List String) :
    ((entries.foldl (fun st entry => copyField st entry.1 entry.2) state).1).lookup key =
      (entries.dlookup key).or (state.1.lookup key) := by
  induction entries generalizing state with
  | nil => rfl
  | cons entry rest ih =>
    obtain ⟨name, values⟩ := entry
    obtain ⟨hnew, hrest⟩ := List.nodupKeys_cons.mp hnodup
    rw [List.foldl_cons, ih hrest]
    simp only [isTrailerKey, Bool.or_eq_false_iff, decide_eq_false_iff_not] at hkey
    by_cases hsame : name = key
    · subst hsame
      -- the rest has no entry under this key, so the inserted values stay
      have hnone : rest.dlookup name = none := List.dlookup_eq_none.mpr hnew
      simp [copyField, hkey.1, hkey.2, hnone]
    · rw [List.dlookup_cons_ne _ _ (Ne.symm hsame)]
      have hframe : (copyField state name values).1.lookup key = state.1.lookup key := by
        unfold copyField
        split
        · rfl
        · split
          · rfl
          · exact AList.lookup_insert_ne (Ne.symm hsame)
      rw [hframe]

/-- After the status is out, the body goes through byte for byte and the
recorded status stays. -/
theorem foldl_bodyCalls (body : List ((HeaderMap → HeaderMap) × Bytes))
    (c : CountingResponseWriter) (hcalled : c.writeHeaderCalled = true)
    (hwrote : c.inner.wroteHeader = true) :
    ((Session.bodyCalls body).foldl CountingResponseWriter.call c).inner.inner.deliveries =
        c.inner.inner.deliveries ++ body.map (.bytes ·.2) ∧
      ((Session.bodyCalls body).foldl CountingResponseWriter.call c).status = c.status := by
  induction body generalizing c with
  | nil => simp [Session.bodyCalls]
  | cons step rest ih =>
    have hrest := ih ((c.call (.edit step.1)).call (.write step.2))
      (by simp [CountingResponseWriter.call, CountingResponseWriter.write, hcalled])
      (by simp [CountingResponseWriter.call, CountingResponseWriter.write, TrailerBridge.write,
        hcalled, hwrote])
    refine ⟨hrest.1.trans ?_, hrest.2.trans ?_⟩
    · simp [CountingResponseWriter.call, CountingResponseWriter.write, TrailerBridge.write,
        TunnelWriter.write, hcalled, hwrote]
    · simp [CountingResponseWriter.call, CountingResponseWriter.write, hcalled]

/-- The first status passed on is the recorded one for good. -/
theorem status_foldl_call (calls : List Call) (c : CountingResponseWriter)
    (hcalled : c.writeHeaderCalled = true) :
    (calls.foldl CountingResponseWriter.call c).status = c.status := by
  induction calls generalizing c with
  | nil => rfl
  | cons call rest ih =>
    have hcall : (c.call call).writeHeaderCalled = true ∧ (c.call call).status = c.status := by
      cases call <;> simp [CountingResponseWriter.call, CountingResponseWriter.writeHeader,
        CountingResponseWriter.write, hcalled]
    rw [List.foldl_cons, ih _ hcall.1, hcall.2]

/-- What the tunnel writer was given, informational statuses aside. -/
def committed (deliveries : List Delivery) : List Delivery :=
  deliveries.filter fun
    | .status code _ => ¬ Informational code
    | .bytes _ => true

/-- The final response reaches cloudflared as the handler made it: its status
with the fields present at that time, then its bytes, and the same status in
the access log. Trailer keys are no response fields. -/
def Transparent (initial : HeaderMap) (s : Session) : Prop :=
  ∀ code header, s.response = some (code, header) →
    (serve initial s.calls).status = code ∧
    ∃ delivered : HeaderMap,
      committed (serve initial s.calls).inner.inner.deliveries =
        .status code delivered :: s.body.map (.bytes ·.2) ∧
      ∀ key, isTrailerKey key = false →
        delivered.lookup key = (header.lookup key).or (initial.lookup key)

theorem not_informational_response {s : Session} {code : ℕ} {header : HeaderMap}
    (h : s.response = some (code, header)) : ¬ Informational code := by
  obtain ⟨early, edit, final, body⟩ := s
  rcases final with _ | final
  · rcases body with _ | ⟨step, rest⟩
    · cases h
    · cases h
      decide
  · cases h
    exact final.2

/-- An informational status that goes out is the one the access log keeps. -/
theorem status_serve_of_early (initial : HeaderMap) (s : Session)
    (step : (HeaderMap → HeaderMap) × {code : ℕ // Informational code})
    (rest : List ((HeaderMap → HeaderMap) × {code : ℕ // Informational code}))
    (hearly : s.early = step :: rest) : (serve initial s.calls).status = step.2 := by
  rw [serve, Session.calls, Session.earlyCalls, hearly, List.flatMap_cons, List.append_assoc,
    List.foldl_append]
  exact status_foldl_call _ _ rfl

/-- The header map the bridge sends for the handler's map `header`. -/
def sentHeader (initial header : HeaderMap) : HeaderMap :=
  (header.foldl copyField (initial, [])).1

/-- Without informational statuses the response arrives as it was made. -/
theorem serve_of_early_nil (initial : HeaderMap) (s : Session) (hearly : s.early = [])
    {code : ℕ} {header : HeaderMap} (hresponse : s.response = some (code, header)) :
    (serve initial s.calls).status = code ∧
      (serve initial s.calls).inner.inner.deliveries =
        .status code (sentHeader initial header) :: s.body.map (.bytes ·.2) := by
  obtain ⟨early, edit, final, body⟩ := s
  subst hearly
  rcases final with _ | final
  · rcases body with _ | ⟨step, rest⟩
    · cases hresponse
    · cases hresponse
      -- the first write sends the implicit status in front of its bytes
      obtain ⟨hbytes, hstatus⟩ := foldl_bodyCalls rest
        (((freshWriters initial).call (.edit edit)).call (.edit step.1) |>.call (.write step.2))
        rfl rfl
      exact ⟨hstatus, hbytes⟩
  · cases hresponse
    obtain ⟨hbytes, hstatus⟩ := foldl_bodyCalls body
      (((freshWriters initial).call (.edit edit)).call (.writeHeader final)) rfl rfl
    exact ⟨hstatus, hbytes⟩

/-- The writers are transparent exactly when the handler sends no informational
status before its response. -/
theorem transparent_iff_no_informational (initial : HeaderMap) (s : Session) :
    Transparent initial s ↔ s.early = [] ∨ s.response = none := by
  constructor
  · intro htransparent
    rcases hearly : s.early with _ | ⟨step, rest⟩
    · exact Or.inl rfl
    · right
      rcases hresponse : s.response with _ | ⟨code, header⟩
      · rfl
      · have hstatus := (htransparent code header hresponse).1
        rw [status_serve_of_early initial s step rest hearly] at hstatus
        exact absurd (hstatus ▸ step.2.2) (not_informational_response hresponse)
  · intro hcondition code header hresponse
    rcases hcondition with hearly | hnone
    · obtain ⟨hstatus, hdeliveries⟩ := serve_of_early_nil initial s hearly hresponse
      refine ⟨hstatus, sentHeader initial header, ?_, fun key hkey => ?_⟩
      · rw [hdeliveries]
        simp [committed, not_informational_response hresponse, List.filter_map, Function.comp_def]
      · exact lookup_foldl_copyField hkey header.entries header.nodupKeys (initial, [])
    · rw [hresponse] at hnone
      cases hnone

/-- A handler that sends early hints, then its response. -/
def earlyHints : Session where
  early := [(fun header => header.insert "Link" ["</style.css>; rel=preload"], ⟨103, by decide⟩)]
  edit := fun header => (header.erase "Link").insert "Content-Type" ["text/plain"]
  final := some ⟨200, by decide⟩
  body := [(id, [111, 107])]

/-- The hints take the place of the response: cloudflared is given their status
and fields, then the body, and never the status 200. -/
theorem early_hints_replace_response :
    earlyHints.response.map Prod.fst = some 200 ∧
      (serve ∅ earlyHints.calls).inner.inner.deliveries =
        [.status 103 (AList.singleton "Link" ["</style.css>; rel=preload"]), .bytes [111, 107]] ∧
      (serve ∅ earlyHints.calls).status = 103 ∧ ¬ Transparent ∅ earlyHints := by
  refine ⟨rfl, rfl, rfl, fun htransparent => ?_⟩
  have hstatus : (103 : ℕ) = 200 := (htransparent 200 _ rfl).1
  omega

end TunnelGateway.ResponseWriters
