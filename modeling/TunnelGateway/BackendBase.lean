import TunnelGateway.Forwarding

/-!
The base path and base query of an external backend. The query of the base gives
way to the request's, key by key, and is appended as text that the backend parses
again. The decoded path of the base is put before both forms of the request's path,
which keeps the escaping of the two only under a condition on their encodings.
-/
namespace TunnelGateway.BackendBase

open GoText UrlEncoding RequestFilters Forwarding

section Query

/-- The values of a key in their order. -/
def valuesOf (key : Bytes) (values : List (Bytes × Bytes)) : List Bytes :=
  (values.filter (·.1 = key)).map Prod.snd

def hasKey (key : Bytes) (values : List (Bytes × Bytes)) : Prop := key ∈ values.map Prod.fst

instance (key : Bytes) (values : List (Bytes × Bytes)) : Decidable (hasKey key values) :=
  inferInstanceAs (Decidable (key ∈ values.map Prod.fst))

/-- What the merge takes from the base. -/
def extraValues (base req : String) : List (Bytes × Bytes) :=
  (parseQuery base).filter fun entry => ¬ hasKey entry.1 (parseQuery req)

variable (base req : String)

theorem mergeBackendBaseQuery_of_nil (h : extraValues base req = []) :
    mergeBackendBaseQuery base req = req := by
  have hempty : ((parseQuery base).filter fun entry =>
      entry.1 ∉ (parseQuery req).map Prod.fst).isEmpty = true := List.isEmpty_iff.mpr h
  simp only [mergeBackendBaseQuery, hempty, Bool.or_true, if_true]

theorem mergeBackendBaseQuery_of_ne_nil (h : extraValues base req ≠ []) :
    mergeBackendBaseQuery base req =
      if req = "" then encodeValues (extraValues base req)
      else req ++ "&" ++ encodeValues (extraValues base req) := by
  have hextra : (extraValues base req).isEmpty = false := by
    rwa [List.isEmpty_eq_false_iff]
  have hbase : (parseQuery base).isEmpty = false := by
    rw [List.isEmpty_eq_false_iff]
    intro hnil
    exact h (by rw [extraValues, hnil, List.filter_nil])
  simp only [mergeBackendBaseQuery, hbase]
  exact if_neg (Bool.eq_false_iff.mp hextra)

/-- Parsed again, the merged text is the request's query with the rest of the base behind. -/
theorem parseQuery_mergeBackendBaseQuery :
    parseQuery (mergeBackendBaseQuery base req) =
      parseQuery req ++ (extraValues base req).insertionSort fun a b => a.1 ≤ b.1 := by
  by_cases h : extraValues base req = []
  · rw [mergeBackendBaseQuery_of_nil base req h, h, List.insertionSort_nil, List.append_nil]
  · rw [mergeBackendBaseQuery_of_ne_nil base req h]
    split
    · rename_i hempty
      rw [parseQuery_encodeValues h, hempty]
      rfl
    · rw [parseQuery_append, parseQuery_encodeValues h]

theorem valuesOf_extraValues (key : Bytes) :
    valuesOf key (extraValues base req) =
      if hasKey key (parseQuery req) then [] else valuesOf key (parseQuery base) := by
  rw [valuesOf, extraValues, List.filter_filter]
  split
  · rename_i hkey
    rw [List.map_eq_nil_iff, List.filter_eq_nil_iff]
    intro entry _ hentry
    simp only [Bool.and_eq_true, decide_eq_true_eq] at hentry
    rw [hentry.1] at hentry
    exact hentry.2 hkey
  · rename_i hkey
    congr 1
    apply List.filter_congr
    intro entry _
    by_cases hentry : entry.1 = key
    · simp [hentry, hkey]
    · simp [hentry]

/-- The request's query stands first as it was written; a key of the request keeps the
request's values, every other key has the base's; and merging again changes nothing. -/
theorem mergeBackendBaseQuery_spec (base req : String) :
    hasPrefix (mergeBackendBaseQuery base req) req = true ∧
    (∀ key, valuesOf key (parseQuery (mergeBackendBaseQuery base req)) =
      if hasKey key (parseQuery req) then valuesOf key (parseQuery req)
      else valuesOf key (parseQuery base)) ∧
    mergeBackendBaseQuery base (mergeBackendBaseQuery base req) =
      mergeBackendBaseQuery base req := by
  have hparse := parseQuery_mergeBackendBaseQuery base req
  refine ⟨?_, ?_, ?_⟩
  · by_cases h : extraValues base req = []
    · rw [mergeBackendBaseQuery_of_nil base req h, hasPrefix_iff]
    · rw [mergeBackendBaseQuery_of_ne_nil base req h]
      split
      · rename_i hempty
        rw [hempty, hasPrefix_iff]
        exact List.nil_prefix
      · rw [String.append_assoc]
        exact hasPrefix_append _ _
  · intro key
    have hsorted : ((extraValues base req).insertionSort fun a b => a.1 ≤ b.1).filter (·.1 = key) =
        (extraValues base req).filter (·.1 = key) :=
      filter_insertionSort (fun a b hab => hab ▸ List.le_refl a.1) key _
    have hextra := valuesOf_extraValues base req key
    unfold valuesOf at hextra ⊢
    rw [hparse, List.filter_append, List.map_append, hsorted, hextra]
    split
    · rw [List.append_nil]
    · rename_i hkey
      have hnone : (parseQuery req).filter (·.1 = key) = [] := by
        rw [List.filter_eq_nil_iff]
        intro entry hentry heq
        exact hkey (List.mem_map.mpr ⟨entry, hentry, of_decide_eq_true heq⟩)
      rw [hnone, List.map_nil, List.nil_append]
  · -- Every key of the base is in the merged query by now.
    apply mergeBackendBaseQuery_of_nil
    rw [extraValues, List.filter_eq_nil_iff]
    intro entry hentry hnew
    have hkeys : ¬ hasKey entry.1 (parseQuery (mergeBackendBaseQuery base req)) :=
      of_decide_eq_true hnew
    rw [hparse, hasKey, List.map_append, List.mem_append, not_or] at hkeys
    refine hkeys.2 (List.mem_map.mpr ⟨entry, ?_, rfl⟩)
    rw [List.mem_insertionSort]
    exact List.mem_filter.mpr ⟨hentry, decide_eq_true hkeys.1⟩

end Query

section Path

variable (base path rawPath : String)

theorem toList_joinBackendBasePath :
    (joinBackendBasePath base path).toList =
      (trimSuffix base "/").toList ++ '/' :: (trimPrefix path "/").toList := by
  unfold joinBackendBasePath
  rcases trimSuffix_slash base with ⟨hbase, hbody⟩ | ⟨hbase, htrim⟩ <;>
    rcases trimPrefix_slash path with ⟨hpath, hrest⟩ | ⟨hpath, hkept⟩
  · simp [hbase, hpath, hbody, hrest]
  · simp [hbase, hpath, hbody, hkept]
  · simp [hbase, hpath, htrim, hrest]
  · simp [hbase, hpath, htrim, hkept]

theorem joinBackendBasePath_eq :
    joinBackendBasePath base path = trimSuffix base "/" ++ "/" ++ trimPrefix path "/" := by
  apply String.toList_inj.mp
  rw [toList_joinBackendBasePath]
  simp

/-- The joined raw path is sent if it encodes the joined path, and it does so only for a base
that reads the same decoded. -/
def HintUsed : Prop :=
  rawPath ≠ "" ∧ validEncodedPath base = true ∧ '%' ∉ base.toList ∧
    validEncodedPath rawPath = true ∧
      unescapePath (trimPrefix rawPath "/").toList = some (utf8 (trimPrefix path "/"))

instance : Decidable (HintUsed base path rawPath) := inferInstanceAs (Decidable (_ ∧ _))

theorem validEncodedPath_join :
    validEncodedPath (joinBackendBasePath base rawPath) = true ↔
      validEncodedPath base = true ∧ validEncodedPath rawPath = true := by
  unfold validEncodedPath
  rw [toList_joinBackendBasePath, List.all_append]
  rcases trimSuffix_slash base with ⟨-, hbody⟩ | ⟨-, htrim⟩ <;>
    rcases trimPrefix_slash rawPath with ⟨-, hrest⟩ | ⟨-, hkept⟩
  · rw [hbody, hrest, List.all_append]
    simp [shouldEscapePath]
  · rw [hbody, hkept]
    simp [shouldEscapePath]
  · rw [htrim, hrest]
    simp
  · rw [htrim, hkept]
    simp [shouldEscapePath]

theorem percent_mem_trimSuffix : '%' ∈ (trimSuffix base "/").toList ↔ '%' ∈ base.toList := by
  rcases trimSuffix_slash base with ⟨-, hbody⟩ | ⟨-, htrim⟩
  · rw [hbody]
    simp
  · rw [htrim]

theorem utf8_join :
    utf8 (joinBackendBasePath base path) =
      utf8 (trimSuffix base "/") ++ 47 :: utf8 (trimPrefix path "/") := by
  rw [joinBackendBasePath_eq, utf8_append, utf8_append, List.append_assoc]
  rfl

theorem encodingOf_join_iff (hraw : rawPath ≠ "") :
    EncodingOf (joinBackendBasePath base path) (joinBackendBasePath base rawPath) ↔
      HintUsed base path rawPath := by
  have hne : joinBackendBasePath base rawPath ≠ "" := by
    intro hempty
    have hlist := toList_joinBackendBasePath base rawPath
    rw [hempty] at hlist
    simp at hlist
  rw [EncodingOf, HintUsed, validEncodedPath_join, toList_joinBackendBasePath,
    unescapePath_append_slash, utf8_join, ← percent_mem_trimSuffix]
  constructor
  · rintro ⟨-, ⟨hbase, hvalid⟩, hdecoded⟩
    obtain ⟨front, hfront, hrest⟩ := Option.bind_eq_some_iff.mp hdecoded
    obtain ⟨back, hback, happend⟩ := Option.map_eq_some_iff.mp hrest
    have hplain := percent_notMem_of_unescapePath hfront happend
    rw [unescapePath_of_notMem hplain] at hfront
    obtain rfl := Option.some.inj hfront
    have hsame := List.append_cancel_left happend
    exact ⟨hraw, hbase, hplain, hvalid, by rw [hback, (List.cons.inj hsame).2]⟩
  · rintro ⟨-, hbase, hplain, hvalid, hback⟩
    refine ⟨hne, ⟨hbase, hvalid⟩, ?_⟩
    rw [unescapePath_of_notMem hplain, hback]
    rfl

/-- What is sent to a backend with a base path. -/
theorem escapedPath_join :
    (escapedPath (joinBackendBasePath base path)
      (if rawPath ≠ "" then joinBackendBasePath base rawPath else rawPath)).toList =
      if HintUsed base path rawPath then
        (trimSuffix base "/").toList ++ '/' :: (trimPrefix rawPath "/").toList
      else (escapePath (trimSuffix base "/")).toList ++
        '/' :: (escapePath (trimPrefix path "/")).toList := by
  have hdefault : (defaultEncoding (joinBackendBasePath base path)).toList =
      (escapePath (trimSuffix base "/")).toList ++
        '/' :: (escapePath (trimPrefix path "/")).toList := by
    have hslash : '/' ∈ (joinBackendBasePath base path).toList := by
      rw [toList_joinBackendBasePath]
      simp
    have hstar : joinBackendBasePath base path ≠ "*" := by
      intro heq
      rw [heq] at hslash
      exact absurd hslash (by decide)
    have hescaped : escapePath "/" = "/" := by decide
    rw [defaultEncoding, if_neg hstar, joinBackendBasePath_eq, escapePath_append,
      escapePath_append, hescaped]
    simp
  by_cases hraw : rawPath = ""
  · have hunused : ¬ HintUsed base path rawPath := fun h => h.1 hraw
    rw [if_neg hunused, hraw, if_neg (by simp), escapedPath_empty, hdefault]
  · rw [if_pos hraw, escapedPath]
    simp only [encodingOf_join_iff base path rawPath hraw]
    split
    · exact toList_joinBackendBasePath base rawPath
    · exact hdefault

theorem utf8_of_hasPrefix {path : String} (h : hasPrefix path "/" = true) :
    utf8 path = 47 :: utf8 (trimPrefix path "/") := by
  rcases trimPrefix_slash path with ⟨-, hlist⟩ | ⟨hnot, -⟩
  · unfold utf8
    rw [hlist]
    rfl
  · rw [h] at hnot
    cases hnot

theorem hasPrefix_slash_of_utf8 {path : String} {bytes : Bytes} (h : utf8 path = 47 :: bytes) :
    hasPrefix path "/" = true := by
  rw [hasPrefix_iff]
  unfold utf8 at h
  cases hpath : path.toList with
  | nil => simp [hpath] at h
  | cons c rest =>
    rw [hpath, List.flatMap_cons] at h
    obtain ⟨b, later, hb⟩ := List.exists_cons_of_ne_nil (String.utf8EncodeChar_ne_nil)
    have hslash : c = '/' := by
      apply eq_slash_of_mem
      rw [hb] at h ⊢
      rw [(List.cons.inj h).1]
      exact List.mem_cons_self
    rw [hslash]
    exact ⟨rest, rfl⟩

theorem hasSuffix_slash_of_utf8 {path : String} {bytes : Bytes} (h : utf8 path = bytes ++ [47]) :
    hasSuffix path "/" = true := by
  rw [hasSuffix_iff]
  unfold utf8 at h
  rcases List.eq_nil_or_concat path.toList with hpath | ⟨rest, c, hpath⟩
  · simp [hpath] at h
  · rw [List.concat_eq_append] at hpath
    rw [hpath, List.flatMap_append, List.flatMap_singleton] at h
    have hlast : (String.utf8EncodeChar c).getLast? = some 47 := by
      have hboth := congrArg List.getLast? h
      rwa [List.getLast?_append_of_ne_nil _ String.utf8EncodeChar_ne_nil,
        List.getLast?_concat] at hboth
    rw [eq_slash_of_mem (List.mem_of_getLast? hlast)] at hpath
    exact ⟨rest, hpath.symm⟩

/-- Behind the leading slash an escaped path decodes to the path behind its own. -/
theorem unescapePath_trimPrefix_escapedPath
    (h : hasPrefix path "/" = true → hasPrefix (escapedPath path rawPath) "/" = true) :
    unescapePath (trimPrefix (escapedPath path rawPath) "/").toList =
      some (utf8 (trimPrefix path "/")) := by
  have hdecoded := unescapePath_escapedPath path rawPath
  rcases trimPrefix_slash (escapedPath path rawPath) with ⟨-, hrest⟩ | ⟨hplain, hkept⟩
  · rw [hrest, ← List.nil_append ('/' :: _), unescapePath_append_slash] at hdecoded
    obtain ⟨bytes, hbytes, hcons⟩ := Option.map_eq_some_iff.mp hdecoded
    rw [utf8_of_hasPrefix (hasPrefix_slash_of_utf8 hcons.symm)] at hcons
    rw [hbytes, (List.cons.inj hcons).2]
  · rcases trimPrefix_slash path with ⟨hpath, -⟩ | ⟨-, hpath⟩
    · rw [h hpath] at hplain
      cases hplain
    · rw [hkept, hpath, hdecoded]

variable {base path rawPath} {baseRawPath : String}

/-- The leading slash of a request path is not joined twice. -/
theorem ne_join_of_hasPrefix (hpath : hasPrefix path "/" = true) :
    (escapePath (trimSuffix base "/")).toList ++ '/' :: (escapePath (trimPrefix path "/")).toList ≠
      (trimSuffix (escapedPath base baseRawPath) "/").toList ++
        '/' :: (escapedPath path rawPath).toList := by
  intro h
  have hdecoded := congrArg unescapePath h
  rw [unescapePath_append_slash, unescapePath_append_slash, unescapePath_escapePath,
    unescapePath_escapePath, unescapePath_escapedPath, utf8_of_hasPrefix hpath] at hdecoded
  obtain ⟨front, hfront, happend⟩ := Option.bind_eq_some_iff.mp hdecoded.symm
  have hcancel : utf8 (trimSuffix base "/") = front ++ [47] := by
    have hassoc : utf8 (trimSuffix base "/") ++ 47 :: utf8 (trimPrefix path "/") =
        (front ++ [47]) ++ 47 :: utf8 (trimPrefix path "/") := by
      rw [List.append_assoc]
      exact (Option.some.inj happend).symm
    exact List.append_cancel_right hassoc
  have hbase := unescapePath_escapedPath base baseRawPath
  have hlength := congrArg List.length hcancel
  rw [List.length_append, List.length_singleton] at hlength
  have hsize : (utf8 (trimSuffix base "/")).length ≤ (utf8 base).length ∧
      (hasSuffix base "/" = true →
        (utf8 base).length = (utf8 (trimSuffix base "/")).length + 1) := by
    rcases trimSuffix_slash base with ⟨-, hbody⟩ | ⟨hnot, htrim⟩
    · have hutf8 : utf8 base = utf8 (trimSuffix base "/") ++ [47] := by
        unfold utf8
        rw [hbody, List.flatMap_append]
        rfl
      rw [hutf8, List.length_append]
      exact ⟨by omega, fun _ => rfl⟩
    · rw [htrim, hnot]
      exact ⟨Nat.le_refl _, fun hslash => absurd hslash (by decide)⟩
  rcases trimSuffix_slash (escapedPath base baseRawPath) with ⟨-, hbody⟩ | ⟨-, htrim⟩
  · rw [hbody, unescapePath_append_slash, hfront] at hbase
    have hended : utf8 base = front ++ [47] := (Option.some.inj hbase).symm
    have hlong := hsize.2 (hasSuffix_slash_of_utf8 hended)
    rw [hended, hcancel] at hlong
    omega
  · rw [htrim, hbase] at hfront
    rw [← Option.some.inj hfront] at hlength
    omega

/-- When the forwarded path keeps the escaping of base and request. Up to the slash where they
meet: a base path that is empty or a slash is left out, so it must be escaped as such before a
rooted path; if the raw path is used then base and request must be written as the decoded base
and the raw path; and otherwise both as the default encoding of what they decode to. -/
def EscapingKept (base baseRawPath path rawPath : String) : Prop :=
  if base = "" ∨ base = "/" then
    escapedPath base baseRawPath = base ∧ hasPrefix (escapedPath path rawPath) "/" = true
  else if HintUsed base path rawPath then
    trimSuffix base "/" = trimSuffix (escapedPath base baseRawPath) "/" ∧
      trimPrefix rawPath "/" = trimPrefix (escapedPath path rawPath) "/"
  else
    escapePath (trimSuffix base "/") = trimSuffix (escapedPath base baseRawPath) "/" ∧
      escapePath (trimPrefix path "/") = trimPrefix (escapedPath path rawPath) "/"

/-- Only a raw path hides the leading slash of a path. -/
theorem escapedPath_eq_rawPath (hpath : hasPrefix path "/" = true)
    (hplain : hasPrefix (escapedPath path rawPath) "/" = false) :
    escapedPath path rawPath = rawPath := by
  unfold escapedPath at hplain ⊢
  split
  · rfl
  · rename_i hunused
    obtain ⟨rest, hrest⟩ := (hasPrefix_iff path "/").mp hpath
    have hstar : path ≠ "*" := by
      rintro rfl
      exact absurd hrest (by simp)
    have hsplit : path = "/" ++ String.ofList rest := by
      apply String.toList_inj.mp
      rw [← hrest]
      simp
    have hslash : hasPrefix (escapePath path) "/" = true := by
      rw [hsplit, escapePath_append]
      exact hasPrefix_append "/" _
    rw [if_neg hunused, defaultEncoding, if_neg hstar, hslash] at hplain
    cases hplain

/-- A base that is not joined. -/
theorem eq_join_iff_of_trivial (hbase : base = "" ∨ base = "/") :
    escapedPath path rawPath =
        joinBackendBasePath (escapedPath base baseRawPath) (escapedPath path rawPath) ↔
      escapedPath base baseRawPath = base ∧ hasPrefix (escapedPath path rawPath) "/" = true := by
  rw [← String.toList_inj, toList_joinBackendBasePath]
  constructor
  · intro h
    have hlength := congrArg List.length h
    rw [List.length_append, List.length_cons] at hlength
    rcases trimPrefix_slash (escapedPath path rawPath) with ⟨hslash, hrest⟩ | ⟨-, hkept⟩
    · refine ⟨?_, hslash⟩
      have hpath := congrArg List.length hrest
      rw [List.length_cons] at hpath
      have hnil : (trimSuffix (escapedPath base baseRawPath) "/").toList = [] :=
        List.length_eq_zero_iff.mp (by omega)
      have hdecoded := unescapePath_escapedPath base baseRawPath
      rcases trimSuffix_slash (escapedPath base baseRawPath) with ⟨-, hbody⟩ | ⟨-, htrim⟩
      · rw [hnil] at hbody
        rw [hbody] at hdecoded
        rcases hbase with rfl | rfl
        · cases hdecoded
        · exact String.toList_inj.mp hbody
      · rw [htrim] at hnil
        rw [hnil] at hdecoded
        rcases hbase with rfl | rfl
        · exact String.toList_inj.mp hnil
        · cases hdecoded
    · rw [hkept] at hlength
      omega
  · rintro ⟨heq, hslash⟩
    have htrim : (trimSuffix (escapedPath base baseRawPath) "/").toList = [] := by
      rw [heq]
      rcases hbase with rfl | rfl <;> decide
    rcases trimPrefix_slash (escapedPath path rawPath) with ⟨-, hrest⟩ | ⟨hnot, -⟩
    · rw [htrim]
      exact hrest
    · rw [hslash] at hnot
      cases hnot

/-- Two joined texts agree part by part if their second parts decode alike. -/
theorem append_slash_eq_iff {front back front' back' : String} {bytes : Bytes}
    (hback : unescapePath back.toList = some bytes)
    (hback' : unescapePath back'.toList = some bytes) :
    front.toList ++ '/' :: back.toList = front'.toList ++ '/' :: back'.toList ↔
      front = front' ∧ back = back' := by
  constructor
  · intro h
    obtain ⟨hfront, hsame⟩ := eq_of_append_slash hback hback' h
    exact ⟨String.toList_inj.mp hfront, String.toList_inj.mp hsame⟩
  · rintro ⟨rfl, rfl⟩
    rfl

end Path

section Director

/-- The path sent to a backend is its escaped path and the request's escaped path joined with
one slash exactly if the two encodings agree with what the join puts together. -/
theorem director_keeps_escaping_iff (backend : URL) (baseRawPath : String) (req : ProxyRequest) :
    escapedPath (director backend req).path (director backend req).rawPath =
        joinBackendBasePath (escapedPath backend.path baseRawPath)
          (escapedPath req.path req.rawPath) ↔
      EscapingKept backend.path baseRawPath req.path req.rawPath := by
  have hpath : (director backend req).path = joinPath backend.path req.path := rfl
  have hrawPath : (director backend req).rawPath = joinRawPath backend.path req.rawPath := rfl
  rw [hpath, hrawPath, EscapingKept]
  by_cases htrivial : backend.path = "" ∨ backend.path = "/"
  · have hjoin : ∀ path, joinPath backend.path path = path := by
      intro path
      rw [joinPath, if_neg]
      rintro ⟨hempty, hslash⟩
      exact htrivial.elim hempty hslash
    rw [if_pos htrivial, hjoin, joinRawPath, hjoin, ite_self]
    exact eq_join_iff_of_trivial htrivial
  · have hjoin : ∀ path, joinPath backend.path path = joinBackendBasePath backend.path path :=
      fun path => if_pos (not_or.mp htrivial)
    rw [if_neg htrivial, joinRawPath, hjoin, hjoin, ← String.toList_inj, escapedPath_join,
      toList_joinBackendBasePath]
    by_cases hused : HintUsed backend.path req.path req.rawPath
    · rw [if_pos hused, if_pos hused]
      refine append_slash_eq_iff hused.2.2.2.2
        (unescapePath_trimPrefix_escapedPath req.path req.rawPath fun hslash => ?_)
      by_contra hplain
      have hraw := escapedPath_eq_rawPath hslash (Bool.eq_false_iff.mpr hplain)
      have hback := hused.2.2.2.2
      rw [hraw] at hplain
      rw [(trimPrefix_slash req.rawPath).elim (fun h => absurd h.1 hplain) And.right, ← hraw,
        unescapePath_escapedPath, utf8_of_hasPrefix hslash] at hback
      exact List.cons_ne_self _ _ (Option.some.inj hback)
    · rw [if_neg hused, if_neg hused]
      by_cases hslash : hasPrefix req.path "/" = true →
          hasPrefix (escapedPath req.path req.rawPath) "/" = true
      · exact append_slash_eq_iff (unescapePath_escapePath _)
          (unescapePath_trimPrefix_escapedPath req.path req.rawPath hslash)
      · obtain ⟨hpath, hplain⟩ := Classical.not_imp.mp hslash
        rw [(trimPrefix_slash (escapedPath req.path req.rawPath)).elim
          (fun h => absurd h.1 hplain) And.right]
        refine iff_of_false (ne_join_of_hasPrefix hpath) fun hkept => ?_
        have hdecoded := congrArg (unescapePath ·.toList) hkept.2
        simp only [unescapePath_escapePath, unescapePath_escapedPath,
          utf8_of_hasPrefix hpath] at hdecoded
        exact List.cons_ne_self _ _ (Option.some.inj hdecoded).symm

def baseAt (path : String) : URL := ⟨"http", "api.example:80", path, "", []⟩

def sentPath (path : String) (req : ProxyRequest) : String :=
  escapedPath (director (baseAt path) req).path (director (baseAt path) req).rawPath

/-- The encoded slash of a base path `/a%2Fb` is sent decoded, and a base path `/a%20b` costs
the request its own. -/
theorem director_decodes_slashes :
    (EncodingOf "/a/b" "/a%2Fb" ∧ sentPath "/a/b" (chatRequest []) = "/a/b/rooms/a%2Fb" ∧
      joinBackendBasePath (escapedPath "/a/b" "/a%2Fb")
        (escapedPath (chatRequest []).path (chatRequest []).rawPath) = "/a%2Fb/rooms/a%2Fb") ∧
    (sentPath "/a b" (chatRequest []) = "/a%20b/rooms/a/b" ∧
      joinBackendBasePath (escapedPath "/a b" "")
        (escapedPath (chatRequest []).path (chatRequest []).rawPath) = "/a%20b/rooms/a%2Fb") := by
  decide +kernel

end Director

end TunnelGateway.BackendBase
