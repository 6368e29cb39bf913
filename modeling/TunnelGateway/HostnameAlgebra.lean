import TunnelGateway.RouteCollection
import TunnelGateway.Router

/-!
What the three implementations of hostname overlap decide, in the router's own
terms: the binding check, the intersection behind the effective hostnames and the
cross-type check are each compared with the hosts the router would send to the
hostnames involved.
-/
namespace TunnelGateway.HostnameAlgebra

open GoText Hostname SuffixPattern RouteCollection

section RouterRelation

variable (lib : GoLib)

/-- The router answers the host under this hostname: both are lower-cased, a
wildcard is filed under its suffix. -/
def RouterMatches (p : Hostname) (host : String) : Prop :=
  (hasPrefix (toLower lib p.value) "*." = true ∧
    Router.matchesWildcard (toLower lib host) (sliceFrom (toLower lib p.value) 1) = true) ∨
  (hasPrefix (toLower lib p.value) "*." = false ∧ toLower lib host = toLower lib p.value)

instance (p : Hostname) (host : String) : Decidable (RouterMatches lib p host) := by
  unfold RouterMatches
  infer_instance

/-- A listener's hostname, every host when it has none. -/
def ListenerMatches (listener : Option Hostname) (host : String) : Prop :=
  ∀ p ∈ listener, RouterMatches lib p host

/-- Some element of the list, every host when the list is empty. -/
def AnyMatches (hostnames : List Hostname) (host : String) : Prop :=
  hostnames = [] ∨ ∃ p ∈ hostnames, RouterMatches lib p host

/-- A valid hostname without a wildcard label. -/
def Concrete (host : String) : Prop := ∃ p : Hostname, p.isWildcard = false ∧ p.value = host

/-- The router's length test says that the suffix is a proper one. -/
theorem router_matchesWildcard_iff (host suffix : String) :
    Router.matchesWildcard host suffix = true ↔
      (Pattern.under suffix.toList).Matches host.toList := by
  rw [Router.matchesWildcard, Bool.and_eq_true, hasSuffix_iff, decide_eq_true_eq]
  constructor
  · intro h
    refine ⟨h.1, ?_⟩
    intro heq
    exact (len_lt_iff_ne_of_suffix h.1).mp h.2 (String.toList_inj.mp heq).symm
  · intro h
    refine ⟨h.1, (len_lt_iff_ne_of_suffix h.1).mpr ?_⟩
    intro heq
    exact h.2 (congrArg String.toList heq.symm)

/-- On a valid hostname the router decides the hostname's pattern. -/
theorem routerMatches_iff (p : Hostname) (host : String) :
    RouterMatches lib p host ↔ p.Matches (toLower lib host) := by
  have hwild : hasPrefix p.value "*." = p.isWildcard := rfl
  simp only [RouterMatches, toLower_value, hwild, Hostname.Matches]
  cases h : p.isWildcard with
  | true =>
    rw [pattern_of_isWildcard h, ← router_matchesWildcard_iff]
    simp
  | false =>
    rw [pattern_of_not_isWildcard h, Pattern.Matches, String.toList_inj]
    simp

theorem listenerMatches_iff (listener : Option Hostname) (host : String) :
    ListenerMatches lib listener host ↔ ListenerCovers listener (toLower lib host) := by
  simp [ListenerMatches, ListenerCovers, routerMatches_iff]

theorem anyMatches_iff (hostnames : List Hostname) (host : String) :
    AnyMatches lib hostnames host ↔ Answers hostnames (toLower lib host) := by
  simp [AnyMatches, Answers, routerMatches_iff]

theorem anyMatches_of_mem {hostnames : List Hostname} {p : Hostname} (hp : p ∈ hostnames)
    {host : String} (h : RouterMatches lib p host) : AnyMatches lib hostnames host :=
  Or.inr ⟨p, hp, h⟩

end RouterRelation

section Members

variable (lib : GoLib)

/-- A name below a further label is still a name. -/
theorem acceptsName_label {name : List Char} (h : acceptsName .start name = true) :
    acceptsName .start ('a' :: '.' :: name) = true := by
  have ha : isLowerAlnum 'a' = true := by decide
  exact h

theorem not_hasPrefix_label (name : List Char) :
    hasPrefix (String.ofList ('a' :: '.' :: name)) "*." = false := by
  rw [Bool.eq_false_iff]
  intro h
  obtain ⟨rest, hrest⟩ := (hasPrefix_iff _ _).mp h
  have hlist : '*' :: '.' :: rest = 'a' :: '.' :: name := hrest.trans String.toList_ofList
  cases hlist

/-- The wildcard label stands for some label. -/
theorem exists_below_wildcard {p : Hostname} (hwild : p.isWildcard = true) :
    ∃ q : Hostname, q.isWildcard = false ∧ p.Matches q.value := by
  obtain ⟨name, hname⟩ := p.toList_of_isWildcard hwild
  have hvalid := p.valid
  have hstarred : hasPrefix p.value "*." = true := hwild
  simp only [validHostname, hstarred, hname, Bool.and_eq_true, decide_eq_true_eq] at hvalid
  have hlength : p.value.length = (String.ofList ('a' :: '.' :: name)).length := by
    rw [← String.length_toList, hname, String.length_ofList]
    rfl
  have hlabel := not_hasPrefix_label name
  refine ⟨⟨String.ofList ('a' :: '.' :: name), ?_⟩, hlabel, ?_⟩
  · simp only [validHostname, hlabel, Bool.and_eq_true, decide_eq_true_eq]
    rw [String.toList_ofList]
    exact ⟨hlength ▸ hvalid.1, acceptsName_label hvalid.2⟩
  · rw [Hostname.Matches, pattern_of_isWildcard hwild, toList_sliceFrom, hname,
      String.toList_ofList]
    refine ⟨List.suffix_cons 'a' ('.' :: name), ?_⟩
    intro heq
    have hlen := congrArg List.length heq
    simp at hlen

/-- Every hostname stands for some concrete host. -/
theorem exists_concrete (p : Hostname) : ∃ host, Concrete host ∧ RouterMatches lib p host := by
  have hmember : ∃ q : Hostname, q.isWildcard = false ∧ p.Matches q.value := by
    cases hwild : p.isWildcard with
    | true => exact exists_below_wildcard hwild
    | false =>
      refine ⟨p, hwild, ?_⟩
      rw [Hostname.Matches, pattern_of_not_isWildcard hwild]
      rfl
  obtain ⟨q, hq, hmatch⟩ := hmember
  refine ⟨q.value, ⟨q, hq, rfl⟩, ?_⟩
  rw [routerMatches_iff, toLower_value]
  exact hmatch

theorem exists_concrete_host : ∃ host, Concrete host :=
  ⟨"a", ⟨"a", by decide⟩, by decide, rfl⟩

end Members

section Overlap

/-- The cross-type check decides whether two patterns meet. -/
theorem hostnameOverlaps_iff (l r : Hostname) :
    hostnameOverlaps l.value r.value = true ↔ (l.pattern.meet r.pattern).isSome = true := by
  have hl : hasPrefix l.value "*." = l.isWildcard := rfl
  have hr : hasPrefix r.value "*." = r.isWildcard := rfl
  rw [hostnameOverlaps, hl, hr]
  cases hlw : l.isWildcard with
  | true =>
    cases hrw : r.isWildcard with
    | true =>
      rw [pattern_of_isWildcard hlw, pattern_of_isWildcard hrw, isSome_meet_under]
      simp only [Bool.or_eq_true, hasSuffix_iff]
      exact or_comm
    | false =>
      rw [pattern_of_isWildcard hlw, pattern_of_not_isWildcard hrw, isSome_meet_under_exact]
      exact router_matchesWildcard_iff r.value (sliceFrom l.value 1)
  | false =>
    cases hrw : r.isWildcard with
    | true =>
      rw [pattern_of_not_isWildcard hlw, pattern_of_isWildcard hrw, isSome_meet_exact_under]
      exact router_matchesWildcard_iff l.value (sliceFrom r.value 1)
    | false =>
      rw [pattern_of_not_isWildcard hlw, pattern_of_not_isWildcard hrw, isSome_meet_exact,
        String.toList_inj]
      exact decide_eq_true_iff

end Overlap

section Algebra

variable (lib : GoLib)

/-- Two hostnames are disjoint exactly when no concrete host is under both. -/
theorem isSome_meet_iff (l r : Hostname) :
    (l.pattern.meet r.pattern).isSome = true ↔
      ∃ host, Concrete host ∧ RouterMatches lib l host ∧ RouterMatches lib r host := by
  have hmeet := pattern_hostnameIntersection lib l r
  constructor
  · intro h
    rw [← hmeet, Option.isSome_map] at h
    obtain ⟨e, he⟩ := Option.isSome_iff_exists.mp h
    obtain ⟨host, hconcrete, hmatch⟩ := exists_concrete lib e
    rw [routerMatches_iff] at hmatch
    obtain ⟨hl, hr⟩ := (hostnameIntersection_matches lib r (some l) _).mp ⟨e, he, hmatch⟩
    refine ⟨host, hconcrete, ?_, ?_⟩
    · rw [routerMatches_iff]
      exact hl l rfl
    · rw [routerMatches_iff]
      exact hr
  · intro h
    obtain ⟨host, -, hl, hr⟩ := h
    rw [routerMatches_iff] at hl hr
    obtain ⟨m, hm, -⟩ := (matches_meet l.pattern r.pattern _).mpr ⟨hl, hr⟩
    rw [hm]
    rfl

theorem hostnameIntersection_routerMatches (l : Option Hostname) (r : Hostname) (host : String) :
    (∃ e, hostnameIntersection lib l r = some e ∧ RouterMatches lib e host) ↔
      ListenerMatches lib l host ∧ RouterMatches lib r host := by
  simp only [routerMatches_iff, listenerMatches_iff]
  exact hostnameIntersection_matches lib r l (toLower lib host)

theorem hostnameIntersection_eq_none_iff (l : Option Hostname) (r : Hostname) :
    hostnameIntersection lib l r = none ↔
      ¬ ∃ host, Concrete host ∧ ListenerMatches lib l host ∧ RouterMatches lib r host := by
  constructor
  · intro hnone h
    obtain ⟨host, -, hboth⟩ := h
    obtain ⟨e, he, -⟩ := (hostnameIntersection_routerMatches lib l r host).mpr hboth
    rw [hnone] at he
    cases he
  · intro hnone
    rw [Option.eq_none_iff_forall_ne_some]
    intro e he
    obtain ⟨host, hconcrete, hmatch⟩ := exists_concrete lib e
    have hboth := (hostnameIntersection_routerMatches lib l r host).mp ⟨e, he, hmatch⟩
    exact hnone ⟨host, hconcrete, hboth⟩

/-- A list of hostnames answers some concrete host. -/
theorem exists_concrete_anyMatches (hostnames : List Hostname) :
    ∃ host, Concrete host ∧ AnyMatches lib hostnames host := by
  cases hostnames with
  | nil =>
    obtain ⟨host, hconcrete⟩ := exists_concrete_host
    exact ⟨host, hconcrete, Or.inl rfl⟩
  | cons first rest =>
    obtain ⟨host, hconcrete, hmatch⟩ := exists_concrete lib first
    exact ⟨host, hconcrete, anyMatches_of_mem lib List.mem_cons_self hmatch⟩

theorem hostnamesIntersect_iff (listener : Option Hostname) (hostnames : List Hostname) :
    hostnamesIntersect lib listener hostnames = true ↔
      ∃ host, Concrete host ∧ ListenerMatches lib listener host ∧
        AnyMatches lib hostnames host := by
  cases listener with
  | none =>
    have hopen : hostnamesIntersect lib none hostnames = true := rfl
    refine iff_of_true hopen ?_
    obtain ⟨host, hconcrete, hany⟩ := exists_concrete_anyMatches lib hostnames
    refine ⟨host, hconcrete, ?_, hany⟩
    intro p hp
    cases hp
  | some l =>
    have hset : unset (some l) = false := by simp [unset, l.value_ne_empty]
    simp only [hostnamesIntersect, hset, Bool.false_or, Bool.or_eq_true, List.isEmpty_iff,
      Option.any_some, List.any_eq_true, hostnameMatches_iff, isSome_meet_iff lib,
      ListenerMatches, Option.mem_def, Option.some.injEq, forall_eq']
    constructor
    · intro h
      rcases h with hnil | ⟨r, hr, host, hconcrete, hl, hmatch⟩
      · obtain ⟨host, hconcrete, hl⟩ := exists_concrete lib l
        exact ⟨host, hconcrete, hl, Or.inl hnil⟩
      · exact ⟨host, hconcrete, hl, anyMatches_of_mem lib hr hmatch⟩
    · intro h
      obtain ⟨host, hconcrete, hl, hnil | ⟨r, hr, hmatch⟩⟩ := h
      · exact Or.inl hnil
      · exact Or.inr ⟨r, hr, host, hconcrete, hl, hmatch⟩

theorem hostnamesOverlap_iff (left right : List Hostname) :
    hostnamesOverlap left right = true ↔
      ∃ host, Concrete host ∧ AnyMatches lib left host ∧ AnyMatches lib right host := by
  simp only [hostnamesOverlap, Bool.or_eq_true, List.isEmpty_iff, List.any_eq_true,
    hostnameOverlaps_iff, isSome_meet_iff lib]
  constructor
  · intro h
    rcases h with (hleft | hright) | ⟨l, hl, r, hr, host, hconcrete, hlmatch, hrmatch⟩
    · obtain ⟨host, hconcrete, hany⟩ := exists_concrete_anyMatches lib right
      exact ⟨host, hconcrete, Or.inl hleft, hany⟩
    · obtain ⟨host, hconcrete, hany⟩ := exists_concrete_anyMatches lib left
      exact ⟨host, hconcrete, hany, Or.inl hright⟩
    · exact ⟨host, hconcrete, anyMatches_of_mem lib hl hlmatch, anyMatches_of_mem lib hr hrmatch⟩
  · intro h
    obtain ⟨host, hconcrete, hleft | ⟨l, hl, hlmatch⟩, hright⟩ := h
    · exact Or.inl (Or.inl hleft)
    · rcases hright with hright | ⟨r, hr, hrmatch⟩
      · exact Or.inl (Or.inr hright)
      · exact Or.inr ⟨l, hl, r, hr, host, hconcrete, hlmatch, hrmatch⟩

/-- The effective hostnames stand for the hosts of both sides, except that two
open sides give the empty list. -/
theorem effectiveListenerHostnames_routerMatches (listener : Option Hostname)
    (hostnames : List Hostname) (host : String) :
    ((∃ e ∈ effectiveListenerHostnames lib listener hostnames, RouterMatches lib e host) ∨
        (hostnames = [] ∧ listener = none)) ↔
      ListenerMatches lib listener host ∧ AnyMatches lib hostnames host := by
  by_cases hopen : hostnames = [] ∧ listener = none
  · refine iff_of_true (Or.inr hopen) ⟨?_, Or.inl hopen.1⟩
    rw [hopen.2]
    intro p hp
    cases hp
  · have heffective := effectiveListenerHostnames_matches lib hopen (toLower lib host)
    simp only [routerMatches_iff, listenerMatches_iff, anyMatches_iff, ← heffective]
    constructor
    · intro h
      exact h.resolve_right hopen
    · intro h
      exact Or.inl h

end Algebra

section Results

/-- The overlap checks, the intersection and the effective hostnames against the
hosts the router answers. The two ways to get no effective hostname mean opposite
things: nothing in common, or nothing to restrict. -/
theorem hostname_algebra (lib : GoLib) :
    (∀ (l : Option Hostname) (r : Hostname) (host : String),
      (∃ e, hostnameIntersection lib l r = some e ∧ RouterMatches lib e host) ↔
        ListenerMatches lib l host ∧ RouterMatches lib r host) ∧
    (∀ (l : Option Hostname) (r : Hostname), hostnameIntersection lib l r = none ↔
      ¬ ∃ host, Concrete host ∧ ListenerMatches lib l host ∧ RouterMatches lib r host) ∧
    (∀ (l : Option Hostname) (hostnames : List Hostname),
      hostnamesIntersect lib l hostnames = true ↔
        ∃ host, Concrete host ∧ ListenerMatches lib l host ∧ AnyMatches lib hostnames host) ∧
    (∀ left right : List Hostname, hostnamesOverlap left right = true ↔
      ∃ host, Concrete host ∧ AnyMatches lib left host ∧ AnyMatches lib right host) ∧
    (∀ (l : Option Hostname) (hostnames : List Hostname) (host : String),
      ((∃ e ∈ effectiveListenerHostnames lib l hostnames, RouterMatches lib e host) ∨
          (hostnames = [] ∧ l = none)) ↔
        ListenerMatches lib l host ∧ AnyMatches lib hostnames host) ∧
    effectiveListenerHostnames lib none [] = [] :=
  ⟨hostnameIntersection_routerMatches lib, hostnameIntersection_eq_none_iff lib,
    hostnamesIntersect_iff lib, hostnamesOverlap_iff lib,
    effectiveListenerHostnames_routerMatches lib, rfl⟩

/-- An open listener with an open route and two disjoint hostnames give the same
empty list: every host belongs to the first pair and none to the second. -/
theorem effective_hostnames_ambiguous :
    ∃ a b : Hostname, a.value = "a.example.com" ∧ b.value = "b.example.com" ∧
      effectiveListenerHostnames GoLib.literal none [] = [] ∧
      effectiveListenerHostnames GoLib.literal (some a) [b] = [] ∧
      (∀ host, ListenerMatches GoLib.literal none host ∧ AnyMatches GoLib.literal [] host) ∧
      ¬ ∃ host, ListenerMatches GoLib.literal (some a) host ∧
        AnyMatches GoLib.literal [b] host := by
  refine ⟨⟨"a.example.com", by decide⟩, ⟨"b.example.com", by decide⟩, rfl, rfl, rfl,
    by decide +kernel, ?_, ?_⟩
  · intro host
    refine ⟨?_, Or.inl rfl⟩
    intro p hp
    cases hp
  · rintro ⟨host, hlistener, hany⟩
    have ha := hlistener _ rfl
    rcases hany with hnil | ⟨p, hp, hb⟩
    · cases hnil
    · rw [List.mem_singleton] at hp
      subst hp
      rw [routerMatches_iff] at ha hb
      have hclash : "a.example.com".toList = "b.example.com".toList := ha.symm.trans hb
      exact absurd hclash (by decide)

end Results

end TunnelGateway.HostnameAlgebra
