import Mathlib.Data.List.Infix
import Mathlib.Algebra.Ring.Int.Defs
import Mathlib.Algebra.Ring.Nat

/-!
The fragment of Go's `strings` package the development computes with, on Lean
strings. Go slices bytes and Lean strings hold characters; on valid UTF-8 the
two agree for prefix and suffix tests and for slicing at an ASCII boundary.
`GoLib` collects what is taken as given: Unicode case mapping outside ASCII, the
regular expression engine, the URL parser and the duration parser.
-/
namespace TunnelGateway.GoText

/-- A parsed URL, as far as the code reads it. -/
structure URL where
  scheme : String
  host : String
  path : String
  rawQuery : String
  query : List (String × String)

/-- `Query().Get`. -/
def URL.queryGet (u : URL) (key : String) : String := (u.query.lookup key).getD ""

/-- Parts of the Go standard library that the model does not look into. -/
structure GoLib where
  lowerRune : Char → Char
  lowerRune_ascii : ∀ c : Char, c.toNat < 128 → lowerRune c = c.toLower
  regexpCompile : String → Except String (String → Bool)
  quoteMeta : String → String
  parseURL : String → Except String URL
  parseURL_scheme : ∀ scheme ∈ ["http", "https", "externalbackend"], ∀ rest u,
    parseURL (scheme ++ "://" ++ rest) = .ok u → u.scheme = scheme
  queryEscape : String → String
  parseDuration : String → Except String ℤ

/-- `strings.ToLower` maps every rune through the Unicode table. -/
def toLower (lib : GoLib) (s : String) : String :=
  String.ofList (s.toList.map lib.lowerRune)

/-- `strings.HasPrefix`. -/
def hasPrefix (s pre : String) : Bool := pre.toList.isPrefixOf s.toList

/-- `strings.HasSuffix`. -/
def hasSuffix (s suf : String) : Bool := suf.toList.isSuffixOf s.toList

/-- `strings.Contains`. -/
def contains (s sub : String) : Bool := s.toList.tails.any (sub.toList.isPrefixOf ·)

/-- The slice `s[n:]`, at a character boundary. -/
def sliceFrom (s : String) (n : ℕ) : String := String.ofList (s.toList.drop n)

/-- `strings.TrimSuffix`. -/
def trimSuffix (s suf : String) : String :=
  if hasSuffix s suf then String.ofList (s.toList.take (s.toList.length - suf.toList.length))
  else s

/-- `strings.TrimPrefix`. -/
def trimPrefix (s pre : String) : String :=
  if hasPrefix s pre then sliceFrom s pre.toList.length else s

/-- Replace the first occurrence of a non-empty word. -/
def replaceFirstIn (old new : List Char) : List Char → List Char
  | [] => []
  | c :: rest =>
      if old.isPrefixOf (c :: rest) then new ++ (c :: rest).drop old.length
      else c :: replaceFirstIn old new rest

/-- `strings.Replace` with count one. -/
def replaceFirst (s old new : String) : String :=
  String.ofList (replaceFirstIn old.toList new.toList s.toList)

/-- Cut a text at the first occurrence of a non-empty word. -/
def cutIn (sep : List Char) : List Char → Option (List Char × List Char)
  | [] => none
  | c :: rest =>
      if sep.isPrefixOf (c :: rest) then some ([], (c :: rest).drop sep.length)
      else (cutIn sep rest).map fun parts => (c :: parts.1, parts.2)

/-- `strings.Cut`, with `none` where the separator does not occur. -/
def cut (s sep : String) : Option (String × String) :=
  (cutIn sep.toList s.toList).map fun parts => (String.ofList parts.1, String.ofList parts.2)

/-- The byte length Go's `len` reports. -/
def len (s : String) : ℕ := s.utf8ByteSize

theorem hasPrefix_iff (s pre : String) : hasPrefix s pre = true ↔ pre.toList <+: s.toList := by
  simp [hasPrefix]

theorem hasPrefix_append (pre rest : String) : hasPrefix (pre ++ rest) pre = true := by
  rw [hasPrefix_iff]
  exact ⟨rest.toList, String.toList_append.symm⟩

theorem hasSuffix_iff (s suf : String) : hasSuffix s suf = true ↔ suf.toList <:+ s.toList := by
  simp [hasSuffix]

/-- A text is cut after what does not hold the first letter of the separator. -/
theorem cutIn_append {c : Char} (sep front rest : List Char) (h : c ∉ front) :
    cutIn (c :: sep) (front ++ (c :: sep) ++ rest) = some (front, rest) := by
  induction front with
  | nil =>
    rw [List.nil_append, List.cons_append, cutIn, if_pos (by simp), List.length_cons,
      List.drop_succ_cons, List.drop_left]
  | cons d front ih =>
    rw [List.mem_cons, not_or] at h
    rw [List.cons_append, List.cons_append, cutIn, if_neg (by simp [h.1]), ih h.2]
    rfl

theorem trimPrefix_of_append {s pre : String} {rest : List Char}
    (h : s.toList = pre.toList ++ rest) : trimPrefix s pre = String.ofList rest := by
  have hpre : hasPrefix s pre = true := (hasPrefix_iff s pre).mpr ⟨rest, h.symm⟩
  rw [trimPrefix, if_pos hpre, sliceFrom, h, List.drop_left]

theorem trimSuffix_of_append {s suf : String} {body : List Char}
    (h : s.toList = body ++ suf.toList) : trimSuffix s suf = String.ofList body := by
  have hsuf : hasSuffix s suf = true := (hasSuffix_iff s suf).mpr ⟨body, h.symm⟩
  rw [trimSuffix, if_pos hsuf, h, List.length_append, Nat.add_sub_cancel, List.take_left]

theorem trimSuffix_slash (s : String) :
    (hasSuffix s "/" = true ∧ s.toList = (trimSuffix s "/").toList ++ ['/']) ∨
      (hasSuffix s "/" = false ∧ trimSuffix s "/" = s) := by
  cases hslash : hasSuffix s "/" with
  | false =>
    refine .inr ⟨rfl, ?_⟩
    simp [trimSuffix, hslash]
  | true =>
    obtain ⟨body, hbody⟩ := (hasSuffix_iff s "/").mp hslash
    refine .inl ⟨rfl, ?_⟩
    rw [trimSuffix_of_append hbody.symm, String.toList_ofList]
    exact hbody.symm

theorem trimPrefix_slash (s : String) :
    (hasPrefix s "/" = true ∧ s.toList = '/' :: (trimPrefix s "/").toList) ∨
      (hasPrefix s "/" = false ∧ trimPrefix s "/" = s) := by
  cases hslash : hasPrefix s "/" with
  | false =>
    refine .inr ⟨rfl, ?_⟩
    simp [trimPrefix, hslash]
  | true =>
    obtain ⟨rest, hrest⟩ := (hasPrefix_iff s "/").mp hslash
    refine .inl ⟨rfl, ?_⟩
    rw [trimPrefix_of_append hrest.symm, String.toList_ofList]
    exact hrest.symm

/-- The parts of a URL written `scheme://authority/path?query`. -/
def splitURL (raw : String) : Except String URL :=
  let scheme := raw.toList.takeWhile (· ≠ ':')
  let rest := raw.toList.drop scheme.length
  if "://".toList.isPrefixOf rest then
    let query := ((rest.dropWhile (· ≠ '?')).drop 1).takeWhile (· ≠ '#')
    .ok {
      scheme := String.ofList scheme
      host := String.ofList ((rest.drop 3).takeWhile fun c => c ≠ '/' ∧ c ≠ '?' ∧ c ≠ '#')
      path := String.ofList (((rest.drop 3).dropWhile fun c => c ≠ '/' ∧ c ≠ '?' ∧ c ≠ '#').takeWhile
        fun c => c ≠ '?' ∧ c ≠ '#')
      rawQuery := String.ofList query
      query := (query.splitOn '&').map fun entry =>
        (String.ofList (entry.takeWhile (· ≠ '=')),
          String.ofList ((entry.dropWhile (· ≠ '=')).drop 1)) }
  else .error "missing protocol scheme"

theorem scheme_splitURL (scheme rest : String) (u : URL) (hscheme : ':' ∉ scheme.toList)
    (h : splitURL (scheme ++ "://" ++ rest) = .ok u) : u.scheme = scheme := by
  have htake : (scheme ++ "://" ++ rest).toList.takeWhile (· ≠ ':') = scheme.toList := by
    rw [String.toList_append, String.toList_append, List.append_assoc, List.takeWhile_append_of_pos]
    · simp
    · intro c hc
      exact decide_eq_true fun heq => hscheme (heq ▸ hc)
  simp only [splitURL, htake] at h
  split at h
  · cases h
    exact String.ofList_toList
  · cases h

/-- A library instance with ASCII case mapping, a regular expression engine that
knows literal patterns only, and durations in whole seconds. -/
def GoLib.literal : GoLib where
  lowerRune := Char.toLower
  lowerRune_ascii _ _ := rfl
  regexpCompile pattern :=
    if pattern.toList.all (fun c => c.isAlphanum || c == '/' || c == '-') then
      .ok (contains · pattern)
    else .error "unsupported pattern"
  quoteMeta := id
  parseURL := splitURL
  parseURL_scheme scheme hscheme rest u h := by
    refine scheme_splitURL scheme rest u ?_ h
    simp only [List.mem_cons, List.not_mem_nil, or_false] at hscheme
    rcases hscheme with rfl | rfl | rfl <;> decide
  queryEscape := id
  parseDuration text :=
    match (trimSuffix text "s").toNat? with
    | some seconds => if hasSuffix text "s" then .ok (seconds * 1000000000) else .error "missing unit"
    | none => .error "invalid duration"

@[simp]
theorem toList_sliceFrom (s : String) (n : ℕ) : (sliceFrom s n).toList = s.toList.drop n := by
  simp [sliceFrom]

@[simp]
theorem toList_toLower (lib : GoLib) (s : String) :
    (toLower lib s).toList = s.toList.map lib.lowerRune := by
  simp [toLower]

theorem lowerRune_of_not_isUpper (lib : GoLib) {c : Char} (hascii : c.toNat < 128)
    (h : c.isUpper = false) : lib.lowerRune c = c := by
  have hnot : ¬ (c.val ≥ 'A'.val ∧ c.val ≤ 'Z'.val) := of_decide_eq_false h
  rw [lib.lowerRune_ascii c hascii]
  exact dif_neg hnot

theorem len_append (s t : String) : len (s ++ t) = len s + len t := by
  simp [len]

theorem len_eq_zero (s : String) : len s = 0 ↔ s = "" := by
  simp [len]

/-- A suffix leaves a remainder in front. -/
theorem exists_append_of_suffix {s t : String} (h : s.toList <:+ t.toList) :
    ∃ front, t = front ++ s := by
  obtain ⟨front, hfront⟩ := h
  refine ⟨String.ofList front, String.toList_inj.mp ?_⟩
  rw [String.toList_append, String.toList_ofList, hfront]

theorem len_le_of_suffix {s t : String} (h : s.toList <:+ t.toList) : len s ≤ len t := by
  obtain ⟨front, rfl⟩ := exists_append_of_suffix h
  rw [len_append]
  omega

theorem eq_of_suffix_of_len_le {s t : String} (h : s.toList <:+ t.toList)
    (hlen : len t ≤ len s) : s = t := by
  obtain ⟨front, rfl⟩ := exists_append_of_suffix h
  rw [len_append] at hlen
  have hfront : front = "" := (len_eq_zero front).mp (by omega)
  rw [hfront, String.empty_append]

/-- Two suffixes of one string with equal length are equal. -/
theorem eq_of_suffixes_of_len_eq {s t u : String} (hs : s.toList <:+ u.toList)
    (ht : t.toList <:+ u.toList) (hlen : len s = len t) : s = t := by
  rcases List.suffix_or_suffix_of_suffix hs ht with h | h
  · exact eq_of_suffix_of_len_le h (by omega)
  · exact (eq_of_suffix_of_len_le h (by omega)).symm

/-- A suffix is shorter exactly when it is proper. -/
theorem len_lt_iff_ne_of_suffix {s t : String} (h : s.toList <:+ t.toList) :
    len s < len t ↔ s ≠ t := by
  constructor
  · rintro hlt rfl
    exact lt_irrefl _ hlt
  · intro hne
    by_contra hge
    exact hne (eq_of_suffix_of_len_le h (by omega))

theorem le_iff_lt_or_eq {s t : String} : s ≤ t ↔ s < t ∨ s = t := by
  constructor
  · intro hle
    by_cases hlt : s < t
    · exact Or.inl hlt
    · exact Or.inr (String.le_antisymm hle (String.not_lt.mp hlt))
  · intro h
    rcases h with hlt | rfl
    · exact String.not_lt.mp (String.lt_asymm hlt)
    · exact String.not_lt.mp (String.lt_irrefl s)

end TunnelGateway.GoText
