import TunnelGateway.GoText
import TunnelGateway.SuffixPattern

/-!
Hostnames of listeners and routes and their intersection. A `Hostname` value
satisfies the Gateway API schema: lower-case labels, optionally below a leading
wildcard label. It denotes a suffix pattern, and the code's intersection computes
the meet of the two patterns.
-/
namespace TunnelGateway.Hostname

open GoText SuffixPattern

/-- Where a scan of a domain name stands inside a label. -/
inductive LabelState where
  | start
  | alnum
  | hyphen

def isLowerAlnum (c : Char) : Bool := c.isLower || c.isDigit

/-- The schema's pattern for dot-separated labels. -/
def acceptsName : LabelState → List Char → Bool
  | .start, [] => false
  | .alnum, [] => true
  | .hyphen, [] => false
  | .start, c :: rest => isLowerAlnum c && acceptsName .alnum rest
  | .alnum, c :: rest =>
      if c = '.' then acceptsName .start rest
      else if c = '-' then acceptsName .hyphen rest
      else isLowerAlnum c && acceptsName .alnum rest
  | .hyphen, c :: rest =>
      if c = '-' then acceptsName .hyphen rest
      else isLowerAlnum c && acceptsName .alnum rest

def validHostname (s : String) : Bool :=
  s.length ≤ 253 &&
    acceptsName .start (if hasPrefix s "*." then s.toList.drop 2 else s.toList)

end TunnelGateway.Hostname

namespace TunnelGateway

structure Hostname where
  value : String
  valid : Hostname.validHostname value = true
  deriving DecidableEq

end TunnelGateway

namespace TunnelGateway.Hostname

open GoText SuffixPattern

/-- The hostname a text stands for, if it is one. -/
def ofString? (s : String) : Option Hostname :=
  if h : validHostname s = true then some ⟨s, h⟩ else none

def isWildcard (p : Hostname) : Bool := hasPrefix p.value "*."

/-- The hosts a hostname stands for. -/
def pattern (p : Hostname) : Pattern Char :=
  if p.isWildcard then .under (p.value.toList.drop 1) else .exact p.value.toList

/-- The concrete host is one the hostname stands for. -/
def Matches (p : Hostname) (host : String) : Prop := p.pattern.Matches host.toList

instance (p : Hostname) (host : String) : Decidable (p.Matches host) :=
  inferInstanceAs (Decidable (p.pattern.Matches host.toList))

section Matching

variable (lib : GoLib)

def matchesWildcard (wildcardHost specificHost : String) : Bool :=
  let suffix := sliceFrom wildcardHost 1
  hasSuffix specificHost suffix && specificHost ≠ sliceFrom suffix 1

def hostnameMatches (listenerHost routeHost : String) : Bool :=
  let listenerHost := toLower lib listenerHost
  let routeHost := toLower lib routeHost
  if listenerHost = routeHost then true
  else
    match hasPrefix listenerHost "*.", hasPrefix routeHost "*." with
    | true, true =>
        let listenerSuffix := sliceFrom listenerHost 1
        let routeSuffix := sliceFrom routeHost 1
        hasSuffix listenerSuffix routeSuffix || hasSuffix routeSuffix listenerSuffix
    | true, false => matchesWildcard listenerHost routeHost
    | false, true => matchesWildcard routeHost listenerHost
    | false, false => false

/-- A listener without a hostname takes every host. -/
def unset (hostname : Option Hostname) : Bool := hostname.all (·.value = "")

def hostnamesIntersect (listenerHostname : Option Hostname) (routeHostnames : List Hostname) :
    Bool :=
  unset listenerHostname || routeHostnames.isEmpty ||
    listenerHostname.any fun listener =>
      routeHostnames.any fun routeHost => hostnameMatches lib listener.value routeHost.value

/-- The more specific of the two hostnames, when they intersect. -/
def hostnameIntersection (listenerHostname : Option Hostname) (routeHostname : Hostname) :
    Option Hostname :=
  match listenerHostname with
  | none => some routeHostname
  | some listener =>
      if listener.value = "" then some routeHostname
      else if !hostnameMatches lib listener.value routeHostname.value then none
      else if hasPrefix routeHostname.value "*." then
        if hasPrefix listener.value "*." && len routeHostname.value > len listener.value then
          some routeHostname
        else some listener
      else some routeHostname

def effectiveListenerHostnames (listenerHostname : Option Hostname)
    (routeHostnames : List Hostname) : List Hostname :=
  if routeHostnames.isEmpty then
    if unset listenerHostname then [] else listenerHostname.toList
  else routeHostnames.filterMap (hostnameIntersection lib listenerHostname)

end Matching

section Schema

theorem acceptsName_chars {st : LabelState} {l : List Char} (h : acceptsName st l = true) :
    ∀ c ∈ l, isLowerAlnum c = true ∨ c = '-' ∨ c = '.' := by
  induction l generalizing st with
  | nil => simp
  | cons c rest ih =>
    have hcases : (isLowerAlnum c = true ∨ c = '-' ∨ c = '.') ∧
        ∃ st', acceptsName st' rest = true := by
      cases st <;> simp only [acceptsName] at h
      · rw [Bool.and_eq_true] at h
        exact ⟨Or.inl h.1, _, h.2⟩
      · split at h
        · exact ⟨Or.inr (Or.inr ‹_›), _, h⟩
        · split at h
          · exact ⟨Or.inr (Or.inl ‹_›), _, h⟩
          · rw [Bool.and_eq_true] at h
            exact ⟨Or.inl h.1, _, h.2⟩
      · split at h
        · exact ⟨Or.inr (Or.inl ‹_›), _, h⟩
        · rw [Bool.and_eq_true] at h
          exact ⟨Or.inl h.1, _, h.2⟩
    obtain ⟨hc, st', hrest⟩ := hcases
    intro d hd
    rcases List.mem_cons.mp hd with rfl | hd
    · exact hc
    · exact ih hrest d hd

theorem exists_head_of_acceptsName {l : List Char} (h : acceptsName .start l = true) :
    ∃ c rest, l = c :: rest ∧ isLowerAlnum c = true := by
  cases l with
  | nil => cases h
  | cons c rest =>
    simp only [acceptsName, Bool.and_eq_true] at h
    exact ⟨c, rest, rfl, h.1⟩

theorem ascii_of_hostname_char {c : Char}
    (h : isLowerAlnum c = true ∨ c = '-' ∨ c = '.' ∨ c = '*') :
    c.toNat < 128 ∧ c.isUpper = false := by
  rcases h with h | rfl | rfl | rfl
  · have hlower : c.isLower = (decide (c.val ≥ 'a'.val) && decide (c.val ≤ 'z'.val)) := rfl
    have hupper : c.isUpper = decide (c.val ≥ 'A'.val ∧ c.val ≤ 'Z'.val) := rfl
    simp only [isLowerAlnum, hlower, Char.isDigit, Bool.or_eq_true, Bool.and_eq_true,
      decide_eq_true_eq, UInt32.le_iff_toNat_le] at h
    simp only [hupper, decide_eq_false_iff_not, UInt32.le_iff_toNat_le, Char.toNat]
    have ha : 'a'.val.toNat = 97 := rfl
    have hz : 'z'.val.toNat = 122 := rfl
    have hnine : '9'.val.toNat = 57 := rfl
    have hA : 'A'.val.toNat = 65 := rfl
    have hZ : 'Z'.val.toNat = 90 := rfl
    omega
  all_goals decide

variable (p : Hostname)

/-- A wildcard hostname is the wildcard label in front of a dotted suffix. -/
theorem toList_of_isWildcard (h : p.isWildcard = true) :
    ∃ name, p.value.toList = '*' :: '.' :: name := by
  obtain ⟨name, hname⟩ := (hasPrefix_iff _ _).mp h
  exact ⟨name, hname.symm⟩

theorem acceptsName_of_not_isWildcard (h : p.isWildcard = false) :
    acceptsName .start p.value.toList = true := by
  have hvalid := p.valid
  simp only [validHostname, Bool.and_eq_true] at hvalid
  have hstarred : hasPrefix p.value "*." = false := h
  rw [hstarred] at hvalid
  exact hvalid.2

/-- A name without a wildcard label does not begin with a dot. -/
theorem head_ne_dot (h : p.isWildcard = false) (rest : List Char) :
    p.value.toList ≠ '.' :: rest := by
  obtain ⟨c, rest', hlist, hc⟩ :=
    exists_head_of_acceptsName (p.acceptsName_of_not_isWildcard h)
  rw [hlist]
  intro heq
  cases heq
  exact absurd hc (by decide)

theorem value_ne_empty : p.value ≠ "" := by
  intro heq
  have hvalid := p.valid
  rw [heq] at hvalid
  exact absurd hvalid (by decide)

theorem chars (c : Char) (hc : c ∈ p.value.toList) :
    isLowerAlnum c = true ∨ c = '-' ∨ c = '.' ∨ c = '*' := by
  by_cases hwild : p.isWildcard = true
  · obtain ⟨name, hname⟩ := p.toList_of_isWildcard hwild
    have hvalid := p.valid
    have hstarred : hasPrefix p.value "*." = true := hwild
    simp only [validHostname, hstarred, Bool.and_eq_true, hname] at hvalid
    rw [hname, List.mem_cons, List.mem_cons] at hc
    rcases hc with rfl | rfl | hc
    · simp
    · simp
    · rcases acceptsName_chars hvalid.2 c hc with h | h | h
      · exact Or.inl h
      · exact Or.inr (Or.inl h)
      · exact Or.inr (Or.inr (Or.inl h))
  · rcases acceptsName_chars
      (p.acceptsName_of_not_isWildcard (Bool.eq_false_iff.mpr hwild)) c hc with h | h | h
    · exact Or.inl h
    · exact Or.inr (Or.inl h)
    · exact Or.inr (Or.inr (Or.inl h))

/-- Lower-casing does nothing to a valid hostname. -/
theorem toLower_value (lib : GoLib) : toLower lib p.value = p.value := by
  apply String.toList_inj.mp
  rw [toList_toLower]
  conv_rhs => rw [← List.map_id p.value.toList]
  apply List.map_congr_left
  intro c hc
  obtain ⟨hascii, hupper⟩ := ascii_of_hostname_char (p.chars c hc)
  exact lowerRune_of_not_isUpper lib hascii hupper

end Schema

section Intersection

variable (lib : GoLib) (l r : Hostname)

variable {p : Hostname}

theorem pattern_of_isWildcard (h : p.isWildcard = true) :
    p.pattern = .under (sliceFrom p.value 1).toList := by
  rw [pattern, if_pos h, toList_sliceFrom]

theorem pattern_of_not_isWildcard (h : p.isWildcard = false) :
    p.pattern = .exact p.value.toList := by
  rw [pattern, if_neg (Bool.eq_false_iff.mp h)]

/-- A wildcard pattern contains a full name exactly when the code says so. -/
theorem matchesWildcard_iff {w : Hostname} (hw : w.isWildcard = true) (hp : p.isWildcard = false) :
    matchesWildcard w.value p.value = true ↔
      (Pattern.under (sliceFrom w.value 1).toList).Matches p.value.toList := by
  obtain ⟨name, hname⟩ := w.toList_of_isWildcard hw
  have hsliced : (sliceFrom w.value 1).toList = '.' :: name := by
    rw [toList_sliceFrom, hname, List.drop_one, List.tail_cons]
  rw [matchesWildcard, Bool.and_eq_true, hasSuffix_iff, decide_eq_true_eq]
  constructor
  · intro h
    refine ⟨h.1, ?_⟩
    rw [hsliced]
    exact p.head_ne_dot hp name
  · intro h
    refine ⟨h.1, ?_⟩
    intro heq
    have hlen := h.1.length_le
    rw [heq, toList_sliceFrom (sliceFrom w.value 1), hsliced, List.drop_one, List.tail_cons,
      List.length_cons] at hlen
    omega

theorem hostnameMatches_iff :
    hostnameMatches lib l.value r.value = true ↔ (l.pattern.meet r.pattern).isSome = true := by
  unfold hostnameMatches
  simp only [toLower_value]
  by_cases heq : l.value = r.value
  · have hsame : l = r := by
      cases l
      cases r
      simpa using heq
    subst hsame
    simp [isSome_meet_self]
  · rw [if_neg heq]
    have hl : hasPrefix l.value "*." = l.isWildcard := rfl
    have hr : hasPrefix r.value "*." = r.isWildcard := rfl
    rw [hl, hr]
    cases hlw : l.isWildcard with
    | true =>
      cases hrw : r.isWildcard with
      | true =>
        rw [pattern_of_isWildcard hlw, pattern_of_isWildcard hrw, isSome_meet_under]
        simp only [Bool.or_eq_true, hasSuffix_iff]
        exact or_comm
      | false =>
        rw [pattern_of_isWildcard hlw, pattern_of_not_isWildcard hrw, isSome_meet_under_exact]
        exact matchesWildcard_iff hlw hrw
    | false =>
      cases hrw : r.isWildcard with
      | true =>
        rw [pattern_of_not_isWildcard hlw, pattern_of_isWildcard hrw, isSome_meet_exact_under]
        exact matchesWildcard_iff hrw hlw
      | false =>
        rw [pattern_of_not_isWildcard hlw, pattern_of_not_isWildcard hrw, isSome_meet_exact]
        simpa using fun hlist => heq (String.toList_inj.mp hlist)

theorem len_of_isWildcard (h : p.isWildcard = true) :
    len p.value = 1 + len (sliceFrom p.value 1) := by
  obtain ⟨name, hname⟩ := p.toList_of_isWildcard h
  have hvalue : p.value = "*" ++ sliceFrom p.value 1 := by
    apply String.toList_inj.mp
    rw [String.toList_append, toList_sliceFrom, hname]
    rfl
  conv_lhs => rw [hvalue]
  rw [len_append]
  rfl

/-- Of two intersecting wildcards the code keeps the one with the longer suffix. -/
private theorem longer_wildcard (hl : l.isWildcard = true) (hr : r.isWildcard = true)
    (hmeet : (l.pattern.meet r.pattern).isSome = true) :
    some (if len r.value > len l.value then r else l).pattern = l.pattern.meet r.pattern := by
  rw [pattern_of_isWildcard hl, pattern_of_isWildcard hr] at hmeet ⊢
  rw [isSome_meet_under] at hmeet
  have hlenl := len_of_isWildcard hl
  have hlenr := len_of_isWildcard hr
  by_cases hlr : (sliceFrom l.value 1).toList <:+ (sliceFrom r.value 1).toList
  · rw [Pattern.meet]
    split
    · rw [pattern_of_isWildcard hr]
    · rename_i hge
      have hsame := eq_of_suffix_of_len_le hlr (by omega)
      rw [pattern_of_isWildcard hl, hsame]
  · have hrl := hmeet.resolve_left hlr
    have hle := len_le_of_suffix hrl
    rw [Pattern.meet, if_neg hlr, if_pos hrl, if_neg (by omega), pattern_of_isWildcard hl]

/-- The code computes the meet of the two patterns. -/
theorem pattern_hostnameIntersection :
    (hostnameIntersection lib (some l) r).map pattern = l.pattern.meet r.pattern := by
  have hmatches := hostnameMatches_iff lib l r
  simp only [hostnameIntersection, if_neg l.value_ne_empty]
  by_cases hmeet : (l.pattern.meet r.pattern).isSome = true
  · rw [hmatches.mpr hmeet]
    have hl : hasPrefix l.value "*." = l.isWildcard := rfl
    have hr : hasPrefix r.value "*." = r.isWildcard := rfl
    rw [hl, hr]
    cases hrw : r.isWildcard with
    | true =>
      cases hlw : l.isWildcard with
      | true =>
        rw [← longer_wildcard l r hlw hrw hmeet]
        by_cases hlen : len r.value > len l.value <;> simp [hlen]
      | false =>
        rw [pattern_of_not_isWildcard hlw, pattern_of_isWildcard hrw] at hmeet ⊢
        rw [isSome_meet_exact_under] at hmeet
        simp only [Pattern.meet, if_pos hmeet]
        simp [pattern_of_not_isWildcard hlw]
    | false =>
      cases hlw : l.isWildcard with
      | true =>
        rw [pattern_of_isWildcard hlw, pattern_of_not_isWildcard hrw] at hmeet ⊢
        rw [isSome_meet_under_exact] at hmeet
        simp only [Pattern.meet, if_pos hmeet]
        simp [pattern_of_not_isWildcard hrw]
      | false =>
        rw [pattern_of_not_isWildcard hlw, pattern_of_not_isWildcard hrw] at hmeet ⊢
        rw [isSome_meet_exact] at hmeet
        simp only [Pattern.meet]
        simp [pattern_of_not_isWildcard hrw, hmeet]
  · rw [Bool.eq_false_iff.mpr (mt hmatches.mp hmeet)]
    rw [Option.not_isSome_iff_eq_none] at hmeet
    rw [hmeet]
    rfl

/-- A listener without a hostname takes every host. -/
def ListenerCovers (listener : Option Hostname) (host : String) : Prop :=
  ∀ p ∈ listener, p.Matches host

/-- A list of hostnames answers a host it lists; an empty list answers every
host. -/
def Answers (hostnames : List Hostname) (host : String) : Prop :=
  hostnames = [] ∨ ∃ p ∈ hostnames, p.Matches host

instance (listener : Option Hostname) (host : String) : Decidable (ListenerCovers listener host) :=
  inferInstanceAs (Decidable (∀ p ∈ listener, p.Matches host))

instance (hostnames : List Hostname) (host : String) : Decidable (Answers hostnames host) :=
  inferInstanceAs (Decidable (hostnames = [] ∨ ∃ p ∈ hostnames, p.Matches host))

theorem unset_iff (listener : Option Hostname) : unset listener = true ↔ listener = none := by
  cases listener with
  | none => simp [unset]
  | some l => simp [unset, l.value_ne_empty]

theorem hostnameIntersection_matches (listener : Option Hostname) (host : String) :
    (∃ e, hostnameIntersection lib listener r = some e ∧ e.Matches host) ↔
      ListenerCovers listener host ∧ r.Matches host := by
  cases listener with
  | none => simp [hostnameIntersection, ListenerCovers]
  | some l =>
    have hmeet := matches_meet l.pattern r.pattern host.toList
    rw [← pattern_hostnameIntersection lib l r] at hmeet
    simp only [Option.map_eq_some_iff] at hmeet
    simp only [ListenerCovers, Option.mem_def, Option.some.injEq, forall_eq', Matches]
    rw [← hmeet]
    constructor
    · rintro ⟨e, he, hmatch⟩
      exact ⟨e.pattern, ⟨e, he, rfl⟩, hmatch⟩
    · rintro ⟨_, ⟨e, he, rfl⟩, hmatch⟩
      exact ⟨e, he, hmatch⟩

variable {hostnames : List Hostname} {listener : Option Hostname}

/-- Unless both sides are open, the effective hostnames stand for the hosts both
sides cover. -/
theorem effectiveListenerHostnames_matches (hclosed : ¬ (hostnames = [] ∧ listener = none))
    (host : String) :
    (∃ e ∈ effectiveListenerHostnames lib listener hostnames, e.Matches host) ↔
      ListenerCovers listener host ∧ Answers hostnames host := by
  cases hostnames with
  | nil =>
    cases listener with
    | none => exact absurd ⟨rfl, rfl⟩ hclosed
    | some l =>
      have hset : unset (some l) = false := by simp [unset, l.value_ne_empty]
      simp [effectiveListenerHostnames, hset, ListenerCovers, Answers]
  | cons first rest =>
    simp only [effectiveListenerHostnames, List.isEmpty_cons, if_false,
      List.mem_filterMap, Answers, reduceCtorEq, false_or]
    constructor
    · rintro ⟨e, ⟨r, hr, he⟩, hmatch⟩
      obtain ⟨hcovers, hrmatch⟩ :=
        (hostnameIntersection_matches lib r listener host).mp ⟨e, he, hmatch⟩
      exact ⟨hcovers, r, hr, hrmatch⟩
    · rintro ⟨hcovers, r, hr, hrmatch⟩
      obtain ⟨e, he, hmatch⟩ :=
        (hostnameIntersection_matches lib r listener host).mpr ⟨hcovers, hrmatch⟩
      exact ⟨e, ⟨r, hr, he⟩, hmatch⟩

/-- A listener whose hostname intersects contributes at least one hostname. -/
theorem effectiveListenerHostnames_ne_nil (hclosed : ¬ (hostnames = [] ∧ listener = none))
    (h : hostnamesIntersect lib listener hostnames = true) :
    effectiveListenerHostnames lib listener hostnames ≠ [] := by
  cases hostnames with
  | nil =>
    cases listener with
    | none => exact absurd ⟨rfl, rfl⟩ hclosed
    | some l =>
      have hset : unset (some l) = false := by simp [unset, l.value_ne_empty]
      simp [effectiveListenerHostnames, hset]
  | cons first rest =>
    have hexists : ∃ r ∈ first :: rest, ∃ e, hostnameIntersection lib listener r = some e := by
      cases listener with
      | none => exact ⟨first, List.mem_cons_self, first, rfl⟩
      | some l =>
        have hset : unset (some l) = false := by simp [unset, l.value_ne_empty]
        simp only [hostnamesIntersect, hset, List.isEmpty_cons, Bool.false_or,
          Option.any_some, List.any_eq_true] at h
        obtain ⟨r, hr, hmatch⟩ := h
        have hsome := (hostnameMatches_iff lib l r).mp hmatch
        rw [← pattern_hostnameIntersection lib l r, Option.isSome_map] at hsome
        exact ⟨r, hr, Option.isSome_iff_exists.mp hsome⟩
    obtain ⟨r, hr, e, he⟩ := hexists
    have hmem : e ∈ (first :: rest).filterMap (hostnameIntersection lib listener) :=
      List.mem_filterMap.mpr ⟨r, hr, he⟩
    exact List.ne_nil_of_mem hmem

end Intersection

end TunnelGateway.Hostname
