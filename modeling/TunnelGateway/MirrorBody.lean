import TunnelGateway.ReadStream
import TunnelGateway.RequestFilters

/-!
Request bodies under mirroring. A mirror filter reads the body up to a limit and
gives the primary leg a new one: the buffered bytes, or the buffered bytes and
then the rest. The other filters leave the body alone. The delivery of the
mirrored copy is not modelled.
-/
namespace TunnelGateway.MirrorBody

open GoText ProxyConfig Router UrlEncoding RequestFilters ReadStream

/-- A mebibyte. -/
def maxMirrorBodySize : ℕ := 1048576

/-- A request body: what the server hands over, a `bytes.Reader`, or a `MultiReader` of
a `bytes.Reader` and a body. Closing is left out. -/
inductive Body where
  | client (stream : Source UInt8 String)
  | buffered (bytes : List UInt8)
  | multi (bytes : List UInt8) (rest : Body)

/-- One read into a buffer with room for so many bytes. -/
def Body.read : Body → ℕ → List UInt8 × Option (Option String) × Body
  | .client s, n =>
      if s.bytes = [] then ([], some s.failure, .client s)
      else if s.eager && s.bytes.length ≤ n then
        (s.bytes, some s.failure, .client { s with bytes := [] })
      else (s.bytes.take n, none, .client { s with bytes := s.bytes.drop n })
  | .buffered bytes, n =>
      if bytes = [] then ([], some none, .buffered [])
      else (bytes.take n, none, .buffered (bytes.drop n))
  | .multi bytes rest, n =>
      -- The exhausted reader is dropped and the next one read in the same call.
      if bytes = [] then rest.read n else (bytes.take n, none, .multi (bytes.drop n) rest)

def Body.content : Body → Source UInt8 String
  | .client s => s
  | .buffered bytes => ⟨bytes, none, false⟩
  | .multi bytes rest =>
      ⟨bytes ++ rest.content.bytes, rest.content.failure,
        rest.content.eager && !rest.content.bytes.isEmpty⟩

theorem Body.read_length_le (body : Body) (n : ℕ) : (body.read n).1.length ≤ n := by
  induction body with
  | client s =>
    rw [Body.read]
    split
    · exact Nat.zero_le n
    · split
      · rename_i h
        simp only [Bool.and_eq_true, decide_eq_true_eq] at h
        exact h.2
      · exact List.length_take_le _ _
  | buffered bytes =>
    rw [Body.read]
    split
    · exact Nat.zero_le n
    · exact List.length_take_le _ _
  | multi bytes rest ih =>
    rw [Body.read]
    split
    · exact ih
    · exact List.length_take_le _ _

variable {n : ℕ} {body body' : Body} {got : List UInt8}

theorem take_ne_nil {α : Type*} {bytes : List α} (hn : 0 < n) (h : bytes ≠ []) :
    bytes.take n ≠ [] := by
  rw [Ne, List.take_eq_nil_iff]
  rintro (hzero | hnil)
  · omega
  · exact h hnil

theorem Body.read_continues (hn : 0 < n) (h : body.read n = (got, none, body')) :
    Continues body.content got body'.content := by
  induction body with
  | client s =>
    rw [Body.read] at h
    split at h
    · cases h
    · rename_i hne
      split at h
      · cases h
      · rename_i hlast
        cases h
        refine ⟨take_ne_nil hn hne, (List.take_append_drop n s.bytes).symm, rfl, rfl, ?_⟩
        cases heager : s.eager with
        | false => exact Or.inr heager
        | true =>
          simp only [heager] at hlast
          left
          simpa [Body.content] using hlast
  | buffered bytes =>
    rw [Body.read] at h
    split at h
    · cases h
    · rename_i hne
      cases h
      exact ⟨take_ne_nil hn hne, (List.take_append_drop n bytes).symm, rfl, rfl, Or.inr rfl⟩
  | multi bytes rest ih =>
    rw [Body.read] at h
    split at h
    · rename_i hnil
      have hrest := ih h
      have hne : rest.content.bytes ≠ [] := by
        rw [hrest.bytes]
        exact List.append_ne_nil_of_left_ne_nil hrest.nonempty _
      have heager : (rest.content.eager && !rest.content.bytes.isEmpty) = rest.content.eager := by
        simp [hne]
      subst hnil
      refine ⟨hrest.nonempty, hrest.bytes, hrest.failure, ?_, ?_⟩
      · exact hrest.eager.trans heager.symm
      · exact hrest.more.imp_right fun hlazy => heager.trans hlazy
    · rename_i hne
      cases h
      refine ⟨take_ne_nil hn hne, ?_, rfl, rfl, ?_⟩
      · rw [Body.content, Body.content, ← List.append_assoc, List.take_append_drop]
      · by_cases hrest : rest.content.bytes = []
        · right
          simp [Body.content, hrest]
        · left
          simp [Body.content, hrest]

theorem Body.read_ends {failure : Option String} (h : body.read n = (got, some failure, body')) :
    Ends body.content got failure := by
  induction body with
  | client s =>
    rw [Body.read] at h
    split at h
    · rename_i hnil
      cases h
      exact ⟨hnil, rfl, Or.inl rfl⟩
    · split at h
      · rename_i hlast
        cases h
        simp only [Bool.and_eq_true] at hlast
        exact ⟨rfl, rfl, Or.inr hlast.1⟩
      · cases h
  | buffered bytes =>
    rw [Body.read] at h
    split at h
    · rename_i hnil
      cases h
      exact ⟨hnil, rfl, Or.inl rfl⟩
    · cases h
  | multi bytes rest ih =>
    rw [Body.read] at h
    split at h
    · rename_i hnil
      have hrest := ih h
      subst hnil
      refine ⟨hrest.bytes, hrest.failure, ?_⟩
      by_cases hgot : got = []
      · exact Or.inl hgot
      · right
        simp [Body.content, hrest.bytes, hgot, hrest.eager.resolve_left hgot]
    · cases h

def bodyReader : Reader Body UInt8 String where
  read := Body.read
  content := Body.content
  length_le := Body.read_length_le
  continues := Body.read_continues
  ends _ h := Body.read_ends h

theorem bodyReader_sticky : bodyReader.Sticky := by
  intro body n got failure body' hn h
  show body'.content.bytes = [] ∧ body'.content.failure = failure
  replace h : body.read n = (got, some failure, body') := h
  induction body with
  | client s =>
    rw [Body.read] at h
    split at h
    · rename_i hnil
      cases h
      exact ⟨hnil, rfl⟩
    · split at h
      · cases h
        exact ⟨rfl, rfl⟩
      · cases h
  | buffered bytes =>
    rw [Body.read] at h
    split at h
    · cases h
      exact ⟨rfl, rfl⟩
    · cases h
  | multi bytes rest ih =>
    rw [Body.read] at h
    split at h
    · exact ih h
    · cases h

/-- A request with its body; `none` is a nil body or `http.NoBody`. -/
structure BodyRequest extends ProxyRequest where
  body : Option Body
  contentLength : ℤ

/-- What a leg reads from the body: the bytes and the terminal result. -/
def received (pace : ℕ → ℕ) (req : BodyRequest) : List UInt8 × Option String :=
  match req.body with
  | none => ([], none)
  | some body =>
      let all := bodyReader.readAll pace 0 body
      (all.1, all.2.1)

/-- What `bufferMirrorBody` makes of the bytes it read, the error it met and what is left of
the body: the buffered bytes, whether mirroring proceeds, and the request left to the
primary leg. -/
def restoreBody (req : BodyRequest) (bodyBuf : List UInt8) (err : Option String) (left : Body) :
    Option (List UInt8) × Bool × BodyRequest :=
  match err with
  | some _ =>
      (none, false,
        if bodyBuf.length > 0 then
          { req with body := some (.buffered bodyBuf), contentLength := bodyBuf.length }
        else { req with body := some left })
  | none =>
      if bodyBuf.length > maxMirrorBodySize then
        (none, false, { req with body := some (.multi bodyBuf left), contentLength := -1 })
      else
        (some bodyBuf, true,
          { req with body := some (.buffered bodyBuf), contentLength := bodyBuf.length })

def bufferMirrorBody (pace : ℕ → ℕ) (req : BodyRequest) :
    Option (List UInt8) × Bool × BodyRequest :=
  match req.body with
  | none => (none, true, req)
  | some body =>
      let all := bodyReader.limit.readAll pace 0 (body, maxMirrorBodySize + 1)
      restoreBody req all.1 all.2.1 all.2.2.1

/-- `draw` is the outcome of `rand.Int32N(100)`. -/
def shouldMirror (percent : Option ℤ) (draw : ℕ) : Bool :=
  match percent with
  | none => true
  | some pct => if pct ≤ 0 then false else if pct ≥ 100 then true else decide ((draw : ℤ) < pct)

/-- `URL.RequestURI`. -/
def requestURI (req : ProxyRequest) : String :=
  let path := escapedPath req.path req.rawPath
  let path := if path = "" then "/" else path
  if req.forceQuery || req.rawQuery ≠ "" then path ++ "?" ++ req.rawQuery else path

/-- What is left to chance when a filter runs: the draw of its sample and the sizes of the
reads. -/
structure Chance where
  draw : ℕ
  pace : ℕ → ℕ

/-- The mirror filter gets as far as the body. -/
def readsBody (lib : GoLib) (chance : Chance) (cfg : MirrorConfig) (req : ProxyRequest) : Bool :=
  shouldMirror cfg.percent chance.draw && (lib.parseURL (cfg.backendURL ++ requestURI req)).isOk

/-- `ProcessRequest` of the mirror filter. -/
def mirrorRequest (lib : GoLib) (chance : Chance) (cfg : MirrorConfig) (req : BodyRequest) :
    BodyRequest :=
  if !readsBody lib chance cfg req.toProxyRequest then req
  else
    match bufferMirrorBody chance.pace req with
    | (_, false, req) => req
    | (none, true, req) => req
    | (some bodyBuf, true, req) =>
        { req with body := some (.buffered bodyBuf), contentLength := bodyBuf.length }

inductive BodyOutcome where
  | next (req : BodyRequest)
  | respond
  | nilPointer

def processBody (lib : GoLib) (matchedPrefix : String) (chance : Chance) (req : BodyRequest) :
    Filter → BodyOutcome
  | .requestMirror cfg => .next (mirrorRequest lib chance cfg req)
  | filter =>
      match processRequest matchedPrefix req.toProxyRequest filter with
      | .next head => .next { req with toProxyRequest := head }
      | .respond => .respond
      | .nilPointer => .nilPointer

/-- `ApplyRequestFilters`; the chances are numbered by the position of the filter. -/
def applyBodyFilters (lib : GoLib) (matchedPrefix : String) (chance : ℕ → Chance) :
    ℕ → List Filter → BodyRequest → BodyOutcome
  | _, [], req => .next req
  | i, filter :: rest, req =>
      match processBody lib matchedPrefix (chance i) req filter with
      | .next req => applyBodyFilters lib matchedPrefix chance (i + 1) rest req
      | .respond => .respond
      | .nilPointer => .nilPointer

/-- The filter is a mirror that gets as far as the body. -/
def readsBodyHere (lib : GoLib) (chance : Chance) (req : ProxyRequest) : Filter → Bool
  | .requestMirror cfg => readsBody lib chance cfg req
  | _ => false

/-- Some mirror filter gets as far as the body. -/
def mirrors (lib : GoLib) (matchedPrefix : String) (chance : ℕ → Chance) :
    ℕ → List Filter → ProxyRequest → Bool
  | _, [], _ => false
  | i, filter :: rest, req =>
      readsBodyHere lib (chance i) req filter ||
        match processRequest matchedPrefix req filter with
        | .next req => mirrors lib matchedPrefix chance (i + 1) rest req
        | _ => false

section Mirror

def BodyRequest.content (req : BodyRequest) : Source UInt8 String :=
  match req.body with
  | none => ⟨[], none, false⟩
  | some body => body.content

theorem received_eq (pace : ℕ → ℕ) (req : BodyRequest) :
    received pace req = (req.content.bytes, req.content.failure) := by
  rw [received, BodyRequest.content]
  cases req.body with
  | none => rfl
  | some body =>
    obtain ⟨hbytes, hfailure⟩ := readAll_eq bodyReader pace 0 body
    exact Prod.ext hbytes hfailure

/-- The failure of the stream comes while the filter reads, after some bytes. -/
def Truncates (s : Source UInt8 String) : Prop :=
  s.failure ≠ none ∧ s.bytes ≠ [] ∧ s.Within (maxMirrorBodySize + 1)

/-- The same bytes and the same terminal result. -/
def Kept (s s' : Source UInt8 String) : Prop := s'.bytes = s.bytes ∧ s'.failure = s.failure

/-- What a mirror filter leaves to the primary leg of what it had to read. -/
structure Mirrored (s s' : Source UInt8 String) : Prop where
  truncated : Truncates s → Kept { s with failure := none } s'
  kept : ¬ Truncates s → Kept s s' ∧ ¬ Truncates s'

theorem mirrored_of_ended {s s' : Source UInt8 String} (h : s.failure = none) (hkept : Kept s s') :
    Mirrored s s' := by
  have hnot : ∀ {t : Source UInt8 String}, t.failure = none → ¬ Truncates t :=
    fun hnone htruncates => htruncates.1 hnone
  exact ⟨fun htruncates => absurd htruncates (hnot h), fun _ => ⟨hkept, hnot (hkept.2.trans h)⟩⟩

variable {body left : Body} {bodyBuf : List UInt8} {req req' mid : BodyRequest}
  {err : Option String} {filter : Filter} {lib : GoLib} {matchedPrefix : String} {i : ℕ}
  {chance : ℕ → Chance} {filters : List Filter}

/-- A body that is not met within the limit is put together again. -/
theorem mirrored_multi (hlimit : ¬ body.content.Within (maxMirrorBodySize + 1))
    (hlength : bodyBuf.length = maxMirrorBodySize + 1)
    (hleaves : Leaves body.content left.content bodyBuf) :
    Mirrored body.content (Body.multi bodyBuf left).content := by
  have hkept : Kept body.content (Body.multi bodyBuf left).content :=
    ⟨hleaves.bytes.symm, hleaves.failure⟩
  refine ⟨fun htruncates => absurd htruncates.2.2 hlimit, fun _ => ⟨hkept, ?_⟩⟩
  rintro ⟨-, -, hlt | ⟨heq, -, heager⟩⟩
  · rw [hkept.1] at hlt
    exact hlimit (Or.inl hlt)
  · -- With nothing left the result is not handed over with a byte of the buffer.
    have hnil : left.content.bytes = [] := by
      rw [Body.content, List.length_append] at heq
      exact List.eq_nil_of_length_eq_zero (by omega)
    simp [Body.content, hnil] at heager

/-- A body that is met within the limit is replaced by its bytes, unless there are none. -/
theorem mirrored_within {failure : String} (hlimit : body.content.Within (maxMirrorBodySize + 1))
    (hbytes : bodyBuf = body.content.bytes) (hfailure : body.content.failure = some failure)
    (hleaves : Leaves body.content left.content bodyBuf) :
    Mirrored body.content
      (if bodyBuf.length > 0 then Body.buffered bodyBuf else left).content := by
  by_cases hempty : bodyBuf = []
  · rw [if_neg (by simp [hempty])]
    have hleft := hleaves.bytes
    rw [hempty] at hleft
    have hkept : Kept body.content left.content := ⟨hleft.symm, hleaves.failure⟩
    have hnone : body.content.bytes = [] := hbytes ▸ hempty
    exact ⟨fun htruncates => absurd hnone htruncates.2.1,
      fun _ => ⟨hkept, fun htruncates => htruncates.2.1 (hkept.1.trans hnone)⟩⟩
  · rw [if_pos (List.length_pos_of_ne_nil hempty)]
    refine ⟨fun _ => ⟨hbytes, rfl⟩, fun hnot => absurd ⟨?_, hbytes ▸ hempty, hlimit⟩ hnot⟩
    simp [hfailure]

theorem mirrored_restoreBody
    (hbytes : bodyBuf = (body.content.limit (maxMirrorBodySize + 1)).bytes)
    (herr : err = (body.content.limit (maxMirrorBodySize + 1)).failure)
    (hleaves : Leaves body.content left.content bodyBuf) :
    Mirrored body.content (restoreBody req bodyBuf err left).2.2.content := by
  by_cases hwithin : body.content.Within (maxMirrorBodySize + 1)
  · rw [Source.limit, if_pos hwithin] at hbytes herr
    cases err with
    | some failure =>
      have hmirrored := mirrored_within hwithin hbytes herr.symm hleaves
      rw [restoreBody]
      split_ifs at hmirrored ⊢ <;> exact hmirrored
    | none =>
      apply mirrored_of_ended herr.symm
      rw [restoreBody]
      split
      · exact ⟨hleaves.bytes.symm, hleaves.failure⟩
      · exact ⟨hbytes, herr⟩
  · rw [Source.limit, if_neg hwithin] at hbytes herr
    have hlength : bodyBuf.length = maxMirrorBodySize + 1 := by
      have hge := mt Or.inl hwithin
      rw [hbytes, List.length_take]
      omega
    have hlarge : bodyBuf.length > maxMirrorBodySize := by omega
    subst herr
    rw [restoreBody, if_pos hlarge]
    exact mirrored_multi hwithin hlength hleaves

theorem mirrored_bufferMirrorBody (pace : ℕ → ℕ) (req : BodyRequest) :
    Mirrored req.content (bufferMirrorBody pace req).2.2.content := by
  cases hbody : req.body with
  | none =>
    have hcontent : req.content = ⟨[], none, false⟩ := by rw [BodyRequest.content, hbody]
    rw [bufferMirrorBody, hbody]
    exact mirrored_of_ended (by rw [hcontent]) ⟨rfl, rfl⟩
  | some body =>
    have hcontent : req.content = body.content := by rw [BodyRequest.content, hbody]
    obtain ⟨hbytes, herr⟩ := readAll_eq bodyReader.limit pace 0 (body, maxMirrorBodySize + 1)
    have hleaves := leaves_readAll_limit bodyReader pace bodyReader_sticky 0
      (body, maxMirrorBodySize + 1)
    rw [hcontent, bufferMirrorBody, hbody]
    exact mirrored_restoreBody hbytes herr hleaves

theorem bufferMirrorBody_head (pace : ℕ → ℕ) (req : BodyRequest) :
    (bufferMirrorBody pace req).2.2.toProxyRequest = req.toProxyRequest := by
  unfold bufferMirrorBody restoreBody
  split
  · rfl
  · dsimp only
    split <;> split <;> rfl

/-- Bytes that are buffered for the copy are already the body of the request. -/
theorem bufferMirrorBody_buffered {pace : ℕ → ℕ}
    (h : bufferMirrorBody pace req = (some bodyBuf, true, req')) :
    { req' with body := some (.buffered bodyBuf), contentLength := bodyBuf.length } = req' := by
  simp only [bufferMirrorBody, restoreBody] at h
  repeat' split at h
  all_goals cases h
  rfl

theorem mirrorRequest_eq (lib : GoLib) (chance : Chance) (cfg : MirrorConfig)
    (req : BodyRequest) : mirrorRequest lib chance cfg req =
      if readsBody lib chance cfg req.toProxyRequest then (bufferMirrorBody chance.pace req).2.2
      else req := by
  rw [mirrorRequest]
  cases readsBody lib chance cfg req.toProxyRequest with
  | false => rfl
  | true =>
    match h : bufferMirrorBody chance.pace req with
    | (_, false, _) => rfl
    | (none, true, _) => rfl
    | (some _, true, _) => exact bufferMirrorBody_buffered h

theorem mirrorRequest_head (lib : GoLib) (chance : Chance) (cfg : MirrorConfig)
    (req : BodyRequest) :
    (mirrorRequest lib chance cfg req).toProxyRequest = req.toProxyRequest := by
  rw [mirrorRequest_eq]
  split
  · exact bufferMirrorBody_head _ _
  · rfl

/-- One filter: the head goes on as it would without a body, and the body is read by a
mirror or left alone. -/
theorem processBody_next {chance : Chance}
    (h : processBody lib matchedPrefix chance req filter = .next mid) :
    processRequest matchedPrefix req.toProxyRequest filter = .next mid.toProxyRequest ∧
      ((readsBodyHere lib chance req.toProxyRequest filter = true ∧
          Mirrored req.content mid.content) ∨
        (readsBodyHere lib chance req.toProxyRequest filter = false ∧
          mid.content = req.content)) := by
  have hother : (match processRequest matchedPrefix req.toProxyRequest filter with
      | .next head => BodyOutcome.next { req with toProxyRequest := head }
      | .respond => .respond
      | .nilPointer => .nilPointer) = .next mid →
      processRequest matchedPrefix req.toProxyRequest filter = .next mid.toProxyRequest ∧
        mid.content = req.content := by
    intro hnext
    split at hnext
    · rename_i head hhead
      cases hnext
      exact ⟨hhead, rfl⟩
    · cases hnext
    · cases hnext
  cases filter with
  | requestMirror cfg =>
    cases h
    refine ⟨by rw [mirrorRequest_head]; rfl, ?_⟩
    rw [mirrorRequest_eq]
    cases hreads : readsBody lib chance cfg req.toProxyRequest with
    | false => exact Or.inr ⟨hreads, rfl⟩
    | true => exact Or.inl ⟨hreads, mirrored_bufferMirrorBody _ _⟩
  | _ =>
    obtain ⟨hhead, hcontent⟩ := hother h
    exact ⟨hhead, Or.inr ⟨rfl, hcontent⟩⟩

theorem applyBodyFilters_cons_next {rest : List Filter}
    (h : applyBodyFilters lib matchedPrefix chance i (filter :: rest) req = .next req') :
    ∃ mid, processBody lib matchedPrefix (chance i) req filter = .next mid ∧
      applyBodyFilters lib matchedPrefix chance (i + 1) rest mid = .next req' := by
  rw [applyBodyFilters] at h
  split at h
  · rename_i mid hmid
    exact ⟨mid, hmid, h⟩
  · cases h
  · cases h

theorem Kept.trans {s t u : Source UInt8 String} (h : Kept s t) (h' : Kept t u) : Kept s u :=
  ⟨h'.1.trans h.1, h'.2.trans h.2⟩

/-- The body behind the filters: its failure is lost exactly when a mirror reads a body
that fails under it. -/
theorem content_applyBodyFilters
    (h : applyBodyFilters lib matchedPrefix chance i filters req = .next req') :
    (mirrors lib matchedPrefix chance i filters req.toProxyRequest = true ∧ Truncates req.content →
        Kept { req.content with failure := none } req'.content) ∧
      (¬ (mirrors lib matchedPrefix chance i filters req.toProxyRequest = true ∧
          Truncates req.content) → Kept req.content req'.content) := by
  induction filters generalizing i req with
  | nil =>
    cases h
    refine ⟨?_, fun _ => ⟨rfl, rfl⟩⟩
    rintro ⟨hmirrors, -⟩
    cases hmirrors
  | cons filter rest ih =>
    obtain ⟨mid, hmid, hrest⟩ := applyBodyFilters_cons_next h
    obtain ⟨hhead, hbody⟩ := processBody_next hmid
    obtain ⟨-, hrestKept⟩ := ih hrest
    rw [mirrors, hhead]
    rcases hbody with ⟨hreads, hmirrored⟩ | ⟨hreads, hcontent⟩
    · -- This filter reads the body: what it truncates stays so, what it keeps it keeps for all.
      simp only [hreads, Bool.true_or, true_and]
      constructor
      · intro htruncates
        have hkept := hmirrored.truncated htruncates
        exact hkept.trans (hrestKept fun hnot => hnot.2.1 hkept.2)
      · intro hnot
        obtain ⟨hkept, hnext⟩ := hmirrored.kept hnot
        exact hkept.trans (hrestKept fun hboth => hnext hboth.2)
    · simp only [hreads]
      rw [← hcontent]
      exact ih hrest

def isMirror : Filter → Bool
  | .requestMirror _ => true
  | _ => false

def withoutMirrors (filters : List Filter) : List Filter := filters.filter fun f => !isMirror f

theorem processBody_of_not_mirror {chance chance' : Chance} {other : BodyRequest}
    (hfilter : isMirror filter = false) (hhead : other.toProxyRequest = req.toProxyRequest)
    (h : processBody lib matchedPrefix chance req filter = .next mid) :
    processBody lib matchedPrefix chance' other filter =
      .next { other with toProxyRequest := mid.toProxyRequest } := by
  have hpasses := (processBody_next h).1
  rw [← hhead] at hpasses
  cases filter with
  | requestMirror cfg => cases hfilter
  | _ => simp [processBody, hpasses]

/-- Without the mirrors the request passes as well, with the body it came with. -/
theorem applyBodyFilters_withoutMirrors {j : ℕ} {other : BodyRequest}
    (hhead : other.toProxyRequest = req.toProxyRequest)
    (h : applyBodyFilters lib matchedPrefix chance i filters req = .next req') :
    ∃ plain, applyBodyFilters lib matchedPrefix chance j (withoutMirrors filters) other =
        .next plain ∧ plain.content = other.content := by
  induction filters generalizing i j req other with
  | nil => exact ⟨other, rfl, rfl⟩
  | cons filter rest ih =>
    obtain ⟨mid, hmid, hrest⟩ := applyBodyFilters_cons_next h
    cases hfilter : isMirror filter with
    | true =>
      have hsame : mid.toProxyRequest = req.toProxyRequest := by
        cases filter with
        | requestMirror cfg =>
          cases hmid
          exact mirrorRequest_head _ _ _ _
        | _ => cases hfilter
      rw [withoutMirrors, List.filter_cons_of_neg (by simp [hfilter])]
      exact ih (hhead.trans hsame.symm) hrest
    | false =>
      have hstep : processBody lib matchedPrefix (chance j) other filter =
          .next { other with toProxyRequest := mid.toProxyRequest } :=
        processBody_of_not_mirror hfilter hhead hmid
      have hsame : ({ other with toProxyRequest := mid.toProxyRequest }).toProxyRequest =
          mid.toProxyRequest := rfl
      rw [withoutMirrors, List.filter_cons_of_pos (by simp [hfilter]), applyBodyFilters, hstep]
      exact ih hsame hrest

/-- The primary leg reads what it would read without mirror filters, unless a mirror gets
to a body that fails under it after some bytes. -/
theorem mirroring_keeps_body_iff (lib : GoLib) (matchedPrefix : String) (chance : ℕ → Chance)
    (filters : List Filter) (req req' : BodyRequest)
    (h : applyBodyFilters lib matchedPrefix chance 0 filters req = .next req') :
    ∃ plain,
      applyBodyFilters lib matchedPrefix chance 0 (withoutMirrors filters) req = .next plain ∧
      ((∀ pace pace', received pace req' = received pace' plain) ↔
        ¬ (mirrors lib matchedPrefix chance 0 filters req.toProxyRequest = true ∧
          Truncates req.content)) := by
  obtain ⟨plain, hplain, hcontent⟩ := applyBodyFilters_withoutMirrors (j := 0) rfl h
  obtain ⟨htruncated, hkept⟩ := content_applyBodyFilters h
  refine ⟨plain, hplain, ?_⟩
  simp only [received_eq, hcontent, Prod.mk.injEq]
  constructor
  · intro hsame hlost
    have hfailure := (htruncated hlost).2
    exact hlost.2.1 ((hsame id id).2.symm.trans hfailure)
  · intro hnot pace pace'
    exact hkept hnot

def copyMirror : Filter := .requestMirror { backendURL := "http://copy.shop:8080" }

def uploadRequest (stream : Source UInt8 String) : BodyRequest :=
  { method := "POST", host := "api.example.com", path := "/upload", query := fun _ => [],
    header := fun _ => [], body := some (.client stream), contentLength := 10 }

def anyChance : ℕ → Chance := fun _ => ⟨0, fun _ => 511⟩

theorem complete_body_kept : ∃ req' plain,
    applyBodyFilters .literal "" anyChance 0 [copyMirror] (uploadRequest ⟨[1, 2, 3], none, false⟩) =
      .next req' ∧
    applyBodyFilters .literal "" anyChance 0 [] (uploadRequest ⟨[1, 2, 3], none, false⟩) =
      .next plain ∧
    ∀ pace pace', received pace req' = received pace' plain := by
  obtain ⟨plain, hplain, hsame⟩ := mirroring_keeps_body_iff .literal "" anyChance [copyMirror]
    (uploadRequest ⟨[1, 2, 3], none, false⟩) _ rfl
  exact ⟨_, plain, rfl, hplain, hsame.mpr fun hlost => hlost.2.1 rfl⟩

def brokenUpload : BodyRequest := uploadRequest ⟨[1, 2, 3], some "unexpected EOF", false⟩

theorem truncates_brokenUpload : Truncates brokenUpload.content := by
  refine ⟨nofun, nofun, Or.inl ?_⟩
  show 3 < maxMirrorBodySize + 1
  decide

/-- Three bytes of an upload arrive and then the connection breaks: the primary leg gets
three bytes and a regular end. -/
theorem broken_upload_forwarded :
    ∃ req', applyBodyFilters .literal "" anyChance 0 [copyMirror] brokenUpload = .next req' ∧
      ∀ pace, received pace req' = ([1, 2, 3], none) ∧
        received pace brokenUpload = ([1, 2, 3], some "unexpected EOF") := by
  have hpass : applyBodyFilters .literal "" anyChance 0 [copyMirror] brokenUpload =
      .next (mirrorRequest .literal (anyChance 0) { backendURL := "http://copy.shop:8080" }
        brokenUpload) := rfl
  have hmirrors : mirrors .literal "" anyChance 0 [copyMirror] brokenUpload.toProxyRequest =
      true := by decide +kernel
  obtain ⟨hbytes, hfailure⟩ := (content_applyBodyFilters hpass).1 ⟨hmirrors, truncates_brokenUpload⟩
  refine ⟨_, hpass, fun pace => ?_⟩
  rw [received_eq, received_eq, hbytes, hfailure]
  exact ⟨rfl, rfl⟩

end Mirror

end TunnelGateway.MirrorBody
