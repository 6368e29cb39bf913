import TunnelGateway.PrefixReplacement
import TunnelGateway.RouteConversion

/-!
Paths below a prefix, element by element. A prefix match accepts the paths below
its value, but for one: a value with a trailing slash does not accept itself
without it. A replaced prefix is cleaned together with what the client wrote
behind it, so the result stays below the replacement exactly when the remainder
enters again whatever it leaves.
-/
namespace TunnelGateway.PathContainment

open GoText ProxyConfig Matcher RouteSpec RouteConversion RequestFilters UrlEncoding PathElements
open PrefixReplacement

/-- The elements of the prefix, a trailing slash ignored, are the first elements of the
path. -/
def Below (pre path : String) : Prop :=
  (trimSuffix pre "/").toList.splitOn '/' <+: path.toList.splitOn '/'

instance (pre path : String) : Decidable (Below pre path) := by
  unfold Below
  infer_instance

theorem below_iff (pre path : String) :
    Below pre path ↔ path = trimSuffix pre "/" ∨
      ∃ rest, path.toList = (trimSuffix pre "/").toList ++ '/' :: rest := by
  rw [Below, splitOn_isPrefix_iff, String.toList_inj]

section Matching

/-- The one path below a prefix that the prefix does not accept. -/
def LosesSlash (pre path : String) : Prop :=
  hasSuffix pre "/" = true ∧ path = trimSuffix pre "/"

instance (pre path : String) : Decidable (LosesSlash pre path) := by
  unfold LosesSlash
  infer_instance

theorem prefixPathMatches_iff_below (pre path : String) :
    prefixPathMatches pre path = true ↔ Below pre path ∧ ¬ LosesSlash pre path := by
  rw [prefixPathMatches_iff, below_iff, LosesSlash]
  rcases trimSuffix_slash pre with ⟨hslash, htrim⟩ | ⟨hslash, htrim⟩
  · constructor
    · rintro ⟨suffix, hpath, -⟩
      rw [htrim, List.append_assoc] at hpath
      refine ⟨.inr ⟨suffix, hpath⟩, ?_⟩
      rintro ⟨-, rfl⟩
      exact absurd (List.append_right_eq_self.mp hpath.symm) (by simp)
    · rintro ⟨hbelow, hnot⟩
      rcases hbelow with heq | ⟨rest, hpath⟩
      · exact absurd ⟨hslash, heq⟩ hnot
      · refine ⟨rest, ?_, .inr (.inl hslash)⟩
        rw [htrim, hpath, List.append_assoc]
        rfl
  · rw [hslash, htrim]
    constructor
    · rintro ⟨suffix, hpath, hend⟩
      refine ⟨?_, by simp⟩
      rcases hend with rfl | hfalse | ⟨rest, rfl⟩
      · rw [List.append_nil, String.toList_inj] at hpath
        exact .inl hpath
      · cases hfalse
      · exact .inr ⟨rest, hpath⟩
    · rintro ⟨hbelow, -⟩
      rcases hbelow with rfl | ⟨rest, hpath⟩
      · exact ⟨[], (List.append_nil _).symm, .inl rfl⟩
      · exact ⟨'/' :: rest, hpath, .inr (.inr ⟨rest, rfl⟩)⟩

theorem trimSuffix_append_slash (pre : String) : trimSuffix (pre ++ "/") "/" = pre := by
  rw [trimSuffix_of_append String.toList_append, String.ofList_toList]

/-- A match on the path alone, with the type spelled out or left to its default. -/
def prefixMatch (type : Option RouteSpec.PathMatchType) (pre : String) : HTTPRouteMatch where
  path := some ⟨type, some pre⟩

theorem compileMatch_prefixMatch (lib : GoLib) {type : Option RouteSpec.PathMatchType}
    (htype : type = none ∨ type = some .pathPrefix) (pre : String) :
    compileMatch lib (convertMatch (prefixMatch type pre)) = .ok ⟨[.prefixPath pre]⟩ := by
  rcases htype with rfl | rfl <;> rfl

theorem matchesRequest_prefixPath (pre : String) (req : Request) :
    CompiledMatch.matchesRequest req ⟨[.prefixPath pre]⟩ = prefixPathMatches pre req.path :=
  Bool.and_true _

/-- A converted and compiled prefix match accepts the paths below its value, the value
without its trailing slash apart; so a value and the value with a slash added accept the
same paths, the value itself apart. -/
theorem path_prefix_elementwise_iff (lib : GoLib) {type : Option RouteSpec.PathMatchType}
    (htype : type = none ∨ type = some .pathPrefix) (pre : String) (req : Request) :
    ∃ compiled slashed,
      compileMatch lib (convertMatch (prefixMatch type pre)) = .ok compiled ∧
      compileMatch lib (convertMatch (prefixMatch type (pre ++ "/"))) = .ok slashed ∧
      ((compiled.matchesRequest req = true ↔ Below pre req.path) ↔ ¬ LosesSlash pre req.path) ∧
      (hasSuffix pre "/" = false →
        ((compiled.matchesRequest req = true ↔ slashed.matchesRequest req = true) ↔
          req.path ≠ pre)) := by
  refine ⟨_, _, compileMatch_prefixMatch lib htype pre, compileMatch_prefixMatch lib htype _,
    ?_, ?_⟩
  · rw [matchesRequest_prefixPath, prefixPathMatches_iff_below]
    have hbelow : LosesSlash pre req.path → Below pre req.path := by
      intro h
      exact (below_iff pre req.path).mpr (.inl h.2)
    constructor
    · intro h hloses
      exact (h.mpr (hbelow hloses)).2 hloses
    · intro hkeeps
      exact ⟨And.left, fun h => ⟨h, hkeeps⟩⟩
  · intro hslash
    have hsame : Below (pre ++ "/") req.path ↔ Below pre req.path := by
      have htrim : trimSuffix pre "/" = pre := by simp [trimSuffix, hslash]
      rw [Below, Below, trimSuffix_append_slash, htrim]
    have hloses : LosesSlash (pre ++ "/") req.path ↔ req.path = pre := by
      have hended : hasSuffix (pre ++ "/") "/" = true := by
        rw [hasSuffix_iff, String.toList_append]
        exact List.suffix_append _ _
      rw [LosesSlash, trimSuffix_append_slash, hended]
      simp
    have hkeeps : ¬ LosesSlash pre req.path := by simp [LosesSlash, hslash]
    have hself : req.path = pre → Below pre req.path := by
      intro h
      rw [below_iff, h]
      left
      simp [trimSuffix, hslash]
    rw [matchesRequest_prefixPath, matchesRequest_prefixPath, prefixPathMatches_iff_below,
      prefixPathMatches_iff_below, hsame, hloses, and_iff_left hkeeps]
    constructor
    · intro h heq
      exact (h.mp (hself heq)).2 heq
    · intro hne
      exact ⟨fun h => ⟨h, hne⟩, And.left⟩

end Matching

section Prefixes

def pathRequest (path : String) : Request where
  method := "GET"
  host := "example.com"
  path := path
  header _ := []
  query _ := []

theorem foo_accepts_foo_bar : ∃ compiled,
    compileMatch GoLib.literal (convertMatch (prefixMatch none "/foo")) = .ok compiled ∧
      compiled.matchesRequest (pathRequest "/foo/bar") = true := by
  obtain ⟨compiled, -, hcompiled, -, hiff, -⟩ :=
    path_prefix_elementwise_iff GoLib.literal (.inl rfl) "/foo" (pathRequest "/foo/bar")
  exact ⟨compiled, hcompiled, (hiff.mpr (by decide +kernel)).mpr (by decide +kernel)⟩

/-- The path lies below both values and only one of them accepts it. -/
theorem slashed_foo_refuses_foo : ∃ compiled slashed,
    compileMatch GoLib.literal (convertMatch (prefixMatch none "/foo")) = .ok compiled ∧
      compileMatch GoLib.literal (convertMatch (prefixMatch none "/foo/")) = .ok slashed ∧
      Below "/foo" "/foo" ∧ compiled.matchesRequest (pathRequest "/foo") = true ∧
      Below "/foo/" "/foo" ∧ slashed.matchesRequest (pathRequest "/foo") = false :=
  ⟨_, _, rfl, rfl, by decide +kernel⟩

end Prefixes

section Replacing

/-- The root, or a path without empty and dot elements, a trailing slash apart. -/
def Plain (replacement : String) : Prop :=
  replacement = "/" ∨ Rooted replacement.toList ∧
    ∀ e ∈ (trimSuffix replacement "/").toList.tail.splitOn '/', Proper e

instance (replacement : String) : Decidable (Plain replacement) := by
  unfold Plain
  infer_instance

variable {replacement : String}

theorem Plain.rooted (h : Plain replacement) : Rooted replacement.toList := by
  rcases h with rfl | ⟨hrooted, -⟩
  · decide
  · exact hrooted

/-- A plain path other than the root, cut at its slashes. -/
theorem Plain.splitOn (h : Plain replacement) (hne : replacement ≠ "/") :
    (∀ e ∈ elements replacement.toList, Proper e) ∧ elements replacement.toList ≠ [] ∧
      (trimSuffix replacement "/").toList.splitOn '/' = [] :: elements replacement.toList := by
  obtain ⟨hrooted, hproper⟩ := h.resolve_left hne
  obtain ⟨t, ht⟩ : ∃ t, (trimSuffix replacement "/").toList = '/' :: t := by
    obtain ⟨t, ht⟩ := List.head?_eq_some_iff.mp hrooted
    rcases trimSuffix_slash replacement with ⟨-, htrim⟩ | ⟨-, htrim⟩
    · cases hbody : (trimSuffix replacement "/").toList with
      | nil =>
        rw [hbody] at htrim
        exact absurd (String.toList_inj.mp htrim) hne
      | cons c rest =>
        rw [htrim, hbody] at ht
        cases ht
        exact ⟨rest, rfl⟩
    · rw [htrim]
      exact ⟨t, ht⟩
  have hsplit : ('/' :: t).splitOn '/' = [] :: t.splitOn '/' := List.splitOn_append_cons_self [] t
  rw [ht] at hproper
  have helements : elements replacement.toList = t.splitOn '/' := by
    rw [← elements_trimSuffix, ht, elements, hsplit, List.filter_cons_of_neg (by simp),
      List.filter_eq_self]
    intro e he
    simpa using (hproper e he).1
  rw [helements, ht]
  exact ⟨hproper, List.splitOn_ne_nil _ _, rfl⟩

theorem Plain.proper (h : Plain replacement) : ∀ e ∈ elements replacement.toList, Proper e := by
  by_cases hroot : replacement = "/"
  · rw [hroot]
    exact List.forall_mem_nil _
  · exact (h.splitOn hroot).1

/-- The elements of a joined path. -/
theorem joinPathSegments_of_plain {suffix : String} (hplain : Plain replacement)
    (hne : suffix ≠ "") :
    joinPathSegments replacement suffix = String.ofList ('/' :: ['/'].intercalate
      (cleanElements true (elements replacement.toList).reverse (suffix.toList.splitOn '/'))) := by
  have hslash : "/".toList = ['/'] := rfl
  have hjoined : (replacement ++ "/" ++ suffix).toList =
      replacement.toList ++ '/' :: suffix.toList := by
    rw [String.toList_append, String.toList_append, List.append_assoc]
    rfl
  have hrooted : Rooted (replacement ++ "/" ++ suffix).toList := by
    obtain ⟨t, ht⟩ := List.head?_eq_some_iff.mp hplain.rooted
    rw [hjoined, ht]
    rfl
  rw [joinPathSegments, if_neg hne, cleanPath_of_rooted hrooted, ← cleanElements_elements, hjoined,
    elements_append_slash, cleanElements_append_of_proper hplain.proper, List.append_nil,
    cleanElements_elements]

/-- Cleaning keeps a base in front exactly when what is resolved against it is confined. -/
theorem isPrefix_cleanElements_iff {base : List (List Char)} (hbase : ∀ e ∈ base, Proper e)
    (els : List (List Char)) :
    base <+: cleanElements true base.reverse els ↔ Confined base els := by
  have hresolve := cleanElements_resolve hbase els le_rfl (List.forall_mem_nil _)
  rw [List.nil_append, List.take_length] at hresolve
  rw [hresolve]
  nth_rewrite 1 [← List.take_append_drop (resolve base.length [] els).1 base]
  exact List.prefix_append_right_inj _

/-- A path made of proper elements lies below a plain one exactly when its elements begin with
those of the plain one. -/
theorem below_intercalate_iff (hplain : Plain replacement) {els : List (List Char)}
    (hels : ∀ e ∈ els, Proper e ∧ '/' ∉ e) :
    Below replacement (String.ofList ('/' :: ['/'].intercalate els)) ↔
      elements replacement.toList <+: els := by
  have hout : (String.ofList ('/' :: ['/'].intercalate els)).toList.splitOn '/' =
      [] :: (['/'].intercalate els).splitOn '/' := by
    rw [String.toList_ofList]
    exact List.splitOn_append_cons_self [] _
  rw [Below, hout]
  by_cases hroot : replacement = "/"
  · have helements : elements replacement.toList = [] := by
      rw [hroot]
      rfl
    have htrim : (trimSuffix replacement "/").toList.splitOn '/' = [[]] := by
      rw [hroot]
      decide +kernel
    rw [helements, htrim]
    exact iff_of_true ⟨_, rfl⟩ List.nil_prefix
  · obtain ⟨hproper, hnonempty, hsplit⟩ := hplain.splitOn hroot
    rw [hsplit, List.prefix_cons_inj]
    by_cases hnil : els = []
    · have hfalse : ¬ elements replacement.toList <+: [[]] := by
        intro hpre
        obtain ⟨first, rest, hcons⟩ := List.exists_cons_of_ne_nil hnonempty
        rw [hcons, List.cons_prefix_cons] at hpre
        exact (hproper first (hcons ▸ List.mem_cons_self)).1 hpre.1
      rw [hnil]
      exact iff_of_false hfalse fun hpre => hnonempty (List.prefix_nil.mp hpre)
    · rw [List.splitOn_intercalate '/' (fun e he => (hels e he).2) hnil]

theorem below_joinPathSegments_iff (hplain : Plain replacement) (suffix : String) :
    Below replacement (joinPathSegments replacement suffix) ↔
      Confined (elements replacement.toList) (suffix.toList.splitOn '/') := by
  by_cases hempty : suffix = ""
  · have hself : Below replacement replacement := by
      rw [below_iff]
      rcases trimSuffix_slash replacement with ⟨-, htrim⟩ | ⟨-, htrim⟩
      · exact .inr ⟨[], htrim⟩
      · exact .inl htrim.symm
    have hconfined : Confined (elements replacement.toList) (suffix.toList.splitOn '/') := by
      rw [hempty]
      apply confined_of_balanced
      intro n
      cases n with
      | zero => exact le_rfl
      | succ n => simp
    rw [joinPathSegments, if_pos hempty]
    exact iff_of_true hself hconfined
  · have hels : ∀ e ∈ cleanElements true (elements replacement.toList).reverse
        (suffix.toList.splitOn '/'), Proper e ∧ '/' ∉ e := by
      apply proper_cleanElements
      · intro e he
        have hmem := List.mem_reverse.mp he
        exact ⟨hplain.proper e hmem, not_mem_of_mem_splitOn (List.mem_of_mem_filter hmem)⟩
      · exact fun e he => not_mem_of_mem_splitOn he
    rw [joinPathSegments_of_plain hplain hempty, below_intercalate_iff hplain hels,
      isPrefix_cleanElements_iff hplain.proper]

end Replacing

end TunnelGateway.PathContainment
