import Mathlib.Data.List.Sort

/-!
Percent encoding of paths and queries as in Go's `net/url`, and `path.Clean`. A
decoded component is a list of bytes, since decoding can leave UTF-8; texts that
are not decoded stay strings.
-/
namespace TunnelGateway.UrlEncoding

abbrev Bytes := List UInt8

def utf8 (s : String) : Bytes := s.toList.flatMap String.utf8EncodeChar

def hexDigit (n : ℕ) : Char :=
  if n < 10 then Char.ofNat (48 + n) else Char.ofNat (55 + n)

def hexValue (c : Char) : Option ℕ :=
  if c.isDigit then some (c.toNat - 48)
  else if 'A' ≤ c ∧ c ≤ 'F' then some (c.toNat - 55)
  else if 'a' ≤ c ∧ c ≤ 'f' then some (c.toNat - 87)
  else none

/-- A byte as `%XX`. -/
def percent (b : UInt8) : List Char := ['%', hexDigit (b.toNat / 16), hexDigit (b.toNat % 16)]

def unreserved (c : Char) : Bool := c.isAlphanum || c ∈ ['-', '_', '.', '~']

/-- Only characters with no meaning in a path are escaped there. -/
def shouldEscapePath (c : Char) : Bool :=
  !(unreserved c || c ∈ ['$', '&', '+', ',', '/', ':', ';', '=', '@'])

/-- `escape` in path mode. -/
def escapePath (s : String) : String :=
  String.ofList <| s.toList.flatMap fun c =>
    if shouldEscapePath c then (String.utf8EncodeChar c).flatMap percent else [c]

/-- `unescape` in path mode. -/
def unescapePath : List Char → Option Bytes
  | [] => some []
  | '%' :: a :: b :: rest => do
      let high ← hexValue a
      let low ← hexValue b
      let bytes ← unescapePath rest
      return UInt8.ofNat (16 * high + low) :: bytes
  | '%' :: _ => none
  | c :: rest => (unescapePath rest).map (String.utf8EncodeChar c ++ ·)

/-- `validEncoded` in path mode. -/
def validEncodedPath (s : String) : Bool :=
  s.toList.all fun c =>
    c ∈ ['!', '$', '&', '\'', '(', ')', '*', '+', ',', ';', '=', ':', '@', '[', ']', '%'] ||
      !shouldEscapePath c

/-- The raw path is an encoding of the path. -/
def EncodingOf (path rawPath : String) : Prop :=
  rawPath ≠ "" ∧ validEncodedPath rawPath = true ∧ unescapePath rawPath.toList = some (utf8 path)

instance (path rawPath : String) : Decidable (EncodingOf path rawPath) := by
  unfold EncodingOf
  infer_instance

def defaultEncoding (path : String) : String := if path = "*" then "*" else escapePath path

/-- `URL.EscapedPath`. -/
def escapedPath (path rawPath : String) : String :=
  if EncodingOf path rawPath then rawPath else defaultEncoding path

theorem escapedPath_empty (path : String) : escapedPath path "" = defaultEncoding path := by
  rw [escapedPath, if_neg]
  intro h
  exact h.1 rfl

/-- A raw path makes no difference exactly when it is ignored or spells the
default encoding. -/
theorem escapedPath_eq_default_iff (path rawPath : String) :
    escapedPath path rawPath = defaultEncoding path ↔
      (EncodingOf path rawPath → rawPath = defaultEncoding path) := by
  by_cases h : EncodingOf path rawPath <;> simp [escapedPath]

/-- A character of a query component as a byte; `+` is a space. -/
def queryByte (c : Char) : Bytes := if c = '+' then [32] else String.utf8EncodeChar c

/-- `QueryUnescape`. -/
def queryUnescape : List Char → Option Bytes
  | [] => some []
  | '%' :: a :: b :: rest => do
      let high ← hexValue a
      let low ← hexValue b
      let bytes ← queryUnescape rest
      return UInt8.ofNat (16 * high + low) :: bytes
  | '%' :: _ => none
  | c :: rest => (queryUnescape rest).map (queryByte c ++ ·)

/-- `QueryEscape`. -/
def queryEscapeByte (b : UInt8) : List Char :=
  if unreserved (Char.ofNat b.toNat) then [Char.ofNat b.toNat]
  else if b = 32 then ['+'] else percent b

/-- One `key=value` segment; a segment with a semicolon or a bad escape is lost. -/
def parseSegment (segment : List Char) : Option (Bytes × Bytes) := do
  guard (segment ≠ [] ∧ ';' ∉ segment)
  let key ← queryUnescape (segment.takeWhile (· ≠ '='))
  let value ← queryUnescape ((segment.dropWhile (· ≠ '=')).drop 1)
  return (key, value)

/-- `ParseQuery`, its values in the order of the text. -/
def parseQuery (raw : String) : List (Bytes × Bytes) :=
  (raw.toList.splitOn '&').filterMap parseSegment

/-- `Values.Encode`: sorted by key. -/
def encodeValues (values : List (Bytes × Bytes)) : String :=
  String.intercalate "&" <|
    (values.insertionSort fun a b => a.1 ≤ b.1).map fun entry =>
      String.ofList (entry.1.flatMap queryEscapeByte ++ '=' :: entry.2.flatMap queryEscapeByte)

section QueryRoundTrip

theorem hexValue_hexDigit : ∀ n < 16, hexValue (hexDigit n) = some n := by decide

theorem byte_of_nibbles (b : UInt8) : UInt8.ofNat (16 * (b.toNat / 16) + b.toNat % 16) = b := by
  rw [Nat.div_add_mod, UInt8.ofNat_toNat]

/-- How a byte is escaped: as itself, as a plus sign or in hexadecimal digits. -/
theorem queryEscapeByte_cases (b : UInt8) :
    (∃ c, queryEscapeByte b = [c] ∧ c ≠ '%' ∧ queryByte c = [b]) ∨ queryEscapeByte b = percent b := by
  have hall : ∀ n < 256, let b := UInt8.ofNat n
      queryEscapeByte b = percent b ∨ (queryEscapeByte b).length = 1 ∧
        (queryEscapeByte b).all (fun c => c ≠ '%' ∧ queryByte c = [b]) = true := by decide +kernel
  have hb := hall b.toNat b.toNat_lt
  rw [UInt8.ofNat_toNat] at hb
  rcases hb with hpercent | ⟨hlength, hchar⟩
  · exact .inr hpercent
  · obtain ⟨c, hc⟩ := List.length_eq_one_iff.mp hlength
    rw [hc, List.all_cons, List.all_nil, Bool.and_true, decide_eq_true_eq] at hchar
    exact .inl ⟨c, hc, hchar⟩

theorem queryUnescape_escape_append (bytes : Bytes) (rest : List Char) :
    queryUnescape (bytes.flatMap queryEscapeByte ++ rest) =
      (queryUnescape rest).map (bytes ++ ·) := by
  induction bytes with
  | nil => simp
  | cons b bytes ih =>
    rw [List.flatMap_cons, List.append_assoc]
    rcases queryEscapeByte_cases b with ⟨c, hc, hne, hbyte⟩ | hpercent
    · rw [hc, List.singleton_append, queryUnescape, ih, hbyte, Option.map_map]
      · rfl
      · exact fun _ _ _ h => absurd h hne
      · exact hne
    · have hlt := b.toNat_lt
      rw [hpercent, percent, List.cons_append, List.cons_append, List.cons_append, List.nil_append,
        queryUnescape, ih, hexValue_hexDigit _ (by omega),
        hexValue_hexDigit _ (Nat.mod_lt _ (by decide))]
      simp only [Option.bind_eq_bind, Option.bind_some, byte_of_nibbles]
      cases queryUnescape rest <;> rfl

/-- No separator of a query stands in escaped text. -/
theorem separator_notMem_escape {c : Char} (bytes : Bytes) (h : c ∈ ['&', ';', '=']) :
    c ∉ bytes.flatMap queryEscapeByte := by
  have hall : ∀ n < 256, (queryEscapeByte (UInt8.ofNat n)).all (· ∉ ['&', ';', '=']) = true := by
    decide +kernel
  intro hmem
  obtain ⟨b, -, hb⟩ := List.mem_flatMap.mp hmem
  have hfree := hall b.toNat b.toNat_lt
  rw [UInt8.ofNat_toNat, List.all_eq_true] at hfree
  exact of_decide_eq_true (hfree c hb) h

def escapeSegment (entry : Bytes × Bytes) : List Char :=
  entry.1.flatMap queryEscapeByte ++ '=' :: entry.2.flatMap queryEscapeByte

theorem separator_notMem_escapeSegment {c : Char} (entry : Bytes × Bytes) (h : c ∈ ['&', ';']) :
    c ∉ escapeSegment entry := by
  have hsep : c ∈ ['&', ';', '='] := by
    simp only [List.mem_cons] at h ⊢
    tauto
  have hequals : c ≠ '=' := by
    rintro rfl
    exact absurd h (by decide)
  rw [escapeSegment, List.mem_append, List.mem_cons, not_or, not_or]
  exact ⟨separator_notMem_escape _ hsep, hequals, separator_notMem_escape _ hsep⟩

theorem parseSegment_escapeSegment (entry : Bytes × Bytes) :
    parseSegment (escapeSegment entry) = some entry := by
  have hkey : ∀ c ∈ entry.1.flatMap queryEscapeByte, decide (c ≠ '=') = true := by
    intro c hc
    rw [decide_eq_true_eq]
    rintro rfl
    exact separator_notMem_escape entry.1 (by decide) hc
  have hsemicolon := separator_notMem_escapeSegment entry (c := ';') (by decide)
  have hround : ∀ bytes : Bytes, queryUnescape (bytes.flatMap queryEscapeByte) = some bytes := by
    intro bytes
    have happend := queryUnescape_escape_append bytes []
    rwa [List.append_nil, queryUnescape, Option.map_some, List.append_nil] at happend
  rw [parseSegment, guard, if_pos ⟨by simp [escapeSegment], hsemicolon⟩, escapeSegment,
    List.takeWhile_append_of_pos hkey, List.dropWhile_append_of_pos hkey]
  simp [hround]

theorem parseQuery_append (front back : String) :
    parseQuery (front ++ "&" ++ back) = parseQuery front ++ parseQuery back := by
  have hlist : (front ++ "&" ++ back).toList = front.toList ++ '&' :: back.toList := by simp
  rw [parseQuery, hlist, List.splitOn_append_cons_self, List.filterMap_append]
  rfl

theorem parseQuery_encodeValues {values : List (Bytes × Bytes)} (hne : values ≠ []) :
    parseQuery (encodeValues values) = values.insertionSort fun a b => a.1 ≤ b.1 := by
  have htext : (encodeValues values).toList =
      ['&'].intercalate ((values.insertionSort fun a b => a.1 ≤ b.1).map escapeSegment) := by
    rw [encodeValues, String.toList_intercalate, List.map_map]
    congr 1
    exact List.map_congr_left fun entry _ => String.toList_ofList
  rw [parseQuery, htext, List.splitOn_intercalate, List.filterMap_map]
  · exact (List.filterMap_congr fun entry _ => parseSegment_escapeSegment entry).trans
      List.filterMap_some
  · intro segment hsegment
    obtain ⟨entry, -, rfl⟩ := List.mem_map.mp hsegment
    exact separator_notMem_escapeSegment entry (by decide)
  · intro hnil
    have hperm := List.perm_insertionSort (fun a b : Bytes × Bytes => a.1 ≤ b.1) values
    rw [List.map_eq_nil_iff.mp hnil] at hperm
    exact hne hperm.nil_eq.symm

/-- Sorting keeps the values of one key in their order. -/
theorem filter_insertionSort {α κ : Type*} [DecidableEq κ] {r : α → α → Prop} [DecidableRel r]
    {key : α → κ} (hr : ∀ a b, key a = key b → r a b) (k : κ) (l : List α) :
    (l.insertionSort r).filter (key · = k) = l.filter (key · = k) := by
  have hinsert : ∀ (x : α) (l : List α),
      (l.orderedInsert r x).filter (key · = k) = (x :: l).filter (key · = k) := by
    intro x l
    induction l with
    | nil => rfl
    | cons y rest ih =>
      rw [List.orderedInsert]
      split
      · rfl
      · rename_i hle
        have hdiffer : ¬ (key x = k ∧ key y = k) := by
          rintro ⟨hx, hy⟩
          exact hle (hr x y (hx.trans hy.symm))
        rw [List.filter_cons, ih]
        by_cases hx : key x = k
        · have hy : key y ≠ k := fun hy => hdiffer ⟨hx, hy⟩
          simp [hx, hy]
        · simp [hx, List.filter_cons]
  induction l with
  | nil => rfl
  | cons x rest ih =>
    rw [List.insertionSort_cons, hinsert, List.filter_cons, List.filter_cons, ih]

end QueryRoundTrip

section PathRoundTrip

theorem utf8_append (a b : String) : utf8 (a ++ b) = utf8 a ++ utf8 b := by
  rw [utf8, String.toList_append, List.flatMap_append]
  rfl

variable {c : Char} {b : UInt8} {s : String} {l : List Char} {bytes w w' : Bytes}

/-- Only an ASCII character itself has its byte in its encoding. -/
theorem toNat_eq_of_mem (hb : b.toNat < 128) (h : b ∈ String.utf8EncodeChar c) :
    c.toNat = b.toNat := by
  rw [String.utf8EncodeChar.eq_1] at h
  split_ifs at h
  all_goals
    simp only [List.mem_cons, List.not_mem_nil, or_false, ← UInt8.toNat_inj, UInt8.toNat_ofNat'] at h
  · change c.val.toNat = _
    omega
  all_goals omega

theorem eq_slash_of_mem (h : 47 ∈ String.utf8EncodeChar c) : c = '/' :=
  Char.toNat_inj.mp (toNat_eq_of_mem (by decide) h)

theorem unescapePath_cons (h : c ≠ '%') (rest : List Char) :
    unescapePath (c :: rest) = (unescapePath rest).map (String.utf8EncodeChar c ++ ·) := by
  rw [unescapePath]
  · exact fun _ _ _ hc => absurd hc h
  · exact h

/-- A slash ends what stands before it, an escape that is not finished included. -/
theorem unescapePath_append_slash (a b : List Char) :
    unescapePath (a ++ '/' :: b) =
      (unescapePath a).bind fun x => (unescapePath b).map fun y => x ++ 47 :: y := by
  induction a using unescapePath.induct with
  | case1 =>
    rfl
  | case2 x y rest ih =>
    rw [List.cons_append, List.cons_append, List.cons_append, unescapePath, unescapePath, ih]
    cases hexValue x <;> cases hexValue y <;> cases unescapePath rest <;> cases unescapePath b <;>
      rfl
  | case3 tail htail =>
    have hnone : unescapePath ('%' :: tail) = none := by
      rw [unescapePath]
      exact htail
    match tail, htail with
    | [], _ =>
      cases b <;> rfl
    | [x], _ =>
      rw [List.cons_append, List.cons_append, List.nil_append, unescapePath]
      cases hexValue x <;> rfl
    | x :: y :: rest, htail => exact absurd rfl (htail x y rest)
  | case4 c rest _ hc ih =>
    rw [List.cons_append, unescapePath_cons hc, unescapePath_cons hc, ih]
    cases unescapePath rest with
    | none => rfl
    | some bytes => cases unescapePath b <;> simp

theorem unescapePath_of_notMem (h : '%' ∉ l) :
    unescapePath l = some (l.flatMap String.utf8EncodeChar) := by
  induction l with
  | nil => rfl
  | cons c rest ih =>
    rw [List.mem_cons, not_or] at h
    rw [unescapePath_cons (Ne.symm h.1), ih h.2]
    rfl

theorem unescapePath_percent_append (bytes : Bytes) (rest : List Char) :
    unescapePath (bytes.flatMap percent ++ rest) = (unescapePath rest).map (bytes ++ ·) := by
  induction bytes with
  | nil => simp
  | cons b bytes ih =>
    have hlt := b.toNat_lt
    rw [List.flatMap_cons, percent, List.append_assoc, List.cons_append, List.cons_append,
      List.cons_append, List.nil_append, unescapePath, ih, hexValue_hexDigit _ (by omega),
      hexValue_hexDigit _ (Nat.mod_lt _ (by decide))]
    simp only [Option.bind_eq_bind, Option.bind_some, byte_of_nibbles]
    cases unescapePath rest <;> rfl

theorem escapePath_append (a b : String) : escapePath (a ++ b) = escapePath a ++ escapePath b := by
  simp [escapePath]

theorem unescapePath_escapePath (s : String) :
    unescapePath (escapePath s).toList = some (utf8 s) := by
  rw [escapePath, String.toList_ofList, utf8]
  induction s.toList with
  | nil => rfl
  | cons c rest ih =>
    rw [List.flatMap_cons]
    split
    · rw [unescapePath_percent_append, ih]
      rfl
    · rename_i hkept
      have hc : c ≠ '%' := by
        rintro rfl
        exact hkept (by decide)
      rw [List.singleton_append, unescapePath_cons hc, ih]
      rfl

theorem unescapePath_escapedPath (path rawPath : String) :
    unescapePath (escapedPath path rawPath).toList = some (utf8 path) := by
  unfold escapedPath defaultEncoding
  split
  · rename_i h
    exact h.2.2
  · split
    · rename_i hstar
      rw [hstar]
      rfl
    · exact unescapePath_escapePath path

/-- Where two texts that decode alike stand behind a slash of one text, they are the same. -/
theorem eq_of_append_slash {a b x y : List Char} (hx : unescapePath x = some bytes)
    (hy : unescapePath y = some bytes) (h : a ++ '/' :: x = b ++ '/' :: y) : a = b ∧ x = y := by
  -- Otherwise one is behind a slash of the other, which decodes to more.
  have hshort : ∀ {x y z : List Char}, unescapePath x = some bytes → unescapePath y = some bytes →
      x ≠ z ++ '/' :: y := by
    intro x y z hx hy heq
    rw [heq, unescapePath_append_slash, hy] at hx
    obtain ⟨front, -, hfront⟩ := Option.bind_eq_some_iff.mp hx
    have hlength := congrArg List.length (Option.some.inj hfront)
    rw [List.length_append, List.length_cons] at hlength
    omega
  rcases List.append_eq_append_iff.mp h with ⟨z, -, hz⟩ | ⟨z, -, hz⟩
  · cases z with
    | nil =>
      have hxy := (List.cons.inj hz).2
      subst hxy
      exact ⟨List.append_cancel_right h, rfl⟩
    | cons c z =>
      exact absurd (List.cons.inj hz).2 (hshort hx hy)
  · cases z with
    | nil =>
      have hxy := (List.cons.inj hz).2
      subst hxy
      exact ⟨List.append_cancel_right h, rfl⟩
    | cons c z =>
      exact absurd (List.cons.inj hz).2 (hshort hy hx)

theorem unescapePath_percent_eq_some {x y : Char} {rest : List Char}
    (h : unescapePath ('%' :: x :: y :: rest) = some bytes) :
    ∃ b tail, bytes = b :: tail ∧ unescapePath rest = some tail ∧
      47 ∉ String.utf8EncodeChar x ++ String.utf8EncodeChar y := by
  obtain ⟨high, hhigh, h⟩ := Option.bind_eq_some_iff.mp h
  obtain ⟨low, hlow, h⟩ := Option.bind_eq_some_iff.mp h
  obtain ⟨tail, htail, h⟩ := Option.bind_eq_some_iff.mp h
  refine ⟨_, tail, (Option.some.inj h).symm, htail, ?_⟩
  rw [List.mem_append, not_or]
  constructor
  · intro hx
    rw [eq_slash_of_mem hx] at hhigh
    cases hhigh
  · intro hy
    rw [eq_slash_of_mem hy] at hlow
    cases hlow

/-- Text that is decoded does not catch up with its own bytes before the next slash. -/
theorem unescapePath_behind {pending : Bytes} (hl : unescapePath l = some bytes)
    (hne : pending ≠ []) (hslash : 47 ∉ pending) :
    bytes ++ 47 :: w ≠ pending ++ (l.flatMap String.utf8EncodeChar ++ 47 :: w') := by
  induction l using unescapePath.induct generalizing bytes pending with
  | case1 =>
    cases hl
    obtain ⟨b, rest, rfl⟩ := List.exists_cons_of_ne_nil hne
    intro h
    exact hslash (by rw [(List.cons.inj h).1]; exact List.mem_cons_self)
  | case2 x y rest ih =>
    obtain ⟨b, tail, rfl, htail, hdigits⟩ := unescapePath_percent_eq_some hl
    obtain ⟨b', front, rfl⟩ := List.exists_cons_of_ne_nil hne
    intro h
    refine @ih _ (front ++ 37 :: (String.utf8EncodeChar x ++ String.utf8EncodeChar y)) htail
      (by simp) ?_ ?_
    · rw [List.mem_append, List.mem_cons, not_or, not_or]
      exact ⟨fun hfront => hslash (List.mem_cons_of_mem _ hfront), by decide, hdigits⟩
    · have hrest : tail ++ 47 :: w = front ++
          (String.utf8EncodeChar '%' ++ ((String.utf8EncodeChar x ++ (String.utf8EncodeChar y ++
            rest.flatMap String.utf8EncodeChar))) ++ 47 :: w') := (List.cons.inj h).2
      have hpercent : String.utf8EncodeChar '%' = [37] := rfl
      simp [hrest, hpercent]
  | case3 tail htail =>
    rw [unescapePath] at hl
    · cases hl
    · exact htail
  | case4 c rest _ hc ih =>
    rw [unescapePath_cons hc] at hl
    obtain ⟨tail, htail, rfl⟩ := Option.map_eq_some_iff.mp hl
    intro h
    rw [List.flatMap_cons, List.append_assoc, List.append_assoc, ← List.append_assoc pending] at h
    have hpre : String.utf8EncodeChar c <+: pending ++ String.utf8EncodeChar c :=
      List.prefix_of_prefix_length_le ⟨_, rfl⟩ ⟨_, h.symm⟩ (by simp)
    obtain ⟨later, hlater⟩ := hpre
    have hsame : c ≠ '/' := by
      rintro rfl
      obtain ⟨b, front, rfl⟩ := List.exists_cons_of_ne_nil hne
      exact hslash (by rw [← (List.cons.inj hlater).1]; exact List.mem_cons_self)
    refine @ih _ later htail ?_ ?_ ?_
    · rintro rfl
      have hlength := congrArg List.length hlater
      rw [List.append_nil, List.length_append] at hlength
      exact hne (List.length_eq_zero_iff.mp (by omega))
    · intro hmem
      have hboth : 47 ∈ pending ++ String.utf8EncodeChar c := by
        rw [← hlater]
        exact List.mem_append_right _ hmem
      exact (List.mem_append.mp hboth).elim hslash fun hutf8 => hsame (eq_slash_of_mem hutf8)
    · rw [← hlater, List.append_assoc] at h
      exact List.append_cancel_left h

theorem percent_notMem_of_unescapePath (hl : unescapePath l = some bytes)
    (h : bytes ++ 47 :: w = l.flatMap String.utf8EncodeChar ++ 47 :: w') : '%' ∉ l := by
  induction l using unescapePath.induct generalizing bytes with
  | case1 => exact List.not_mem_nil
  | case2 x y rest ih =>
    obtain ⟨b, tail, rfl, htail, hdigits⟩ := unescapePath_percent_eq_some hl
    have hrest : tail ++ 47 :: w = (String.utf8EncodeChar x ++ String.utf8EncodeChar y) ++
        (rest.flatMap String.utf8EncodeChar ++ 47 :: w') := by
      have hcons : tail ++ 47 :: w = (String.utf8EncodeChar x ++ (String.utf8EncodeChar y ++
          rest.flatMap String.utf8EncodeChar)) ++ 47 :: w' := (List.cons.inj h).2
      simp [hcons]
    have hne : String.utf8EncodeChar x ++ String.utf8EncodeChar y ≠ [] := by
      simp
    exact absurd hrest (unescapePath_behind htail hne hdigits)
  | case3 tail htail =>
    rw [unescapePath] at hl
    · cases hl
    · exact htail
  | case4 c rest _ hc ih =>
    rw [unescapePath_cons hc] at hl
    obtain ⟨tail, htail, rfl⟩ := Option.map_eq_some_iff.mp hl
    rw [List.flatMap_cons, List.append_assoc, List.append_assoc] at h
    rw [List.mem_cons, not_or]
    exact ⟨Ne.symm hc, ih htail (List.append_cancel_left h)⟩

end PathRoundTrip

/-- The elements left of a path, `out` holding those before them in reverse. -/
def cleanElements (rooted : Bool) : List (List Char) → List (List Char) → List (List Char)
  | out, [] => out.reverse
  | out, element :: rest =>
      if element = [] ∨ element = ['.'] then cleanElements rooted out rest
      else if element = ['.', '.'] then
        match out with
        | last :: before =>
            if last = ['.', '.'] then cleanElements rooted (element :: out) rest
            else cleanElements rooted before rest
        | [] => cleanElements rooted (if rooted then [] else [element]) rest
      else cleanElements rooted (element :: out) rest

/-- `path.Clean`. -/
def cleanPath (p : String) : String :=
  let rooted := p.toList.head? = some '/'
  let body := ['/'].intercalate (cleanElements rooted [] (p.toList.splitOn '/'))
  if rooted then String.ofList ('/' :: body)
  else if body = [] then "." else String.ofList body

end TunnelGateway.UrlEncoding
