import TunnelGateway.AgeOrder
import TunnelGateway.GreedyScan
import TunnelGateway.ListenerMerge

/-!
The merged listener view as a greedy scan: an entry is free of conflicts exactly
when it clashes with no earlier entry that is. The two tables of the scan
represent the entries kept so far.
-/
namespace TunnelGateway.MergeInvariants

open Hostname GatewayApi ListenerMerge GreedyScan AgeOrder

section Conflicts

/-- Two listeners cannot both be served: they disagree on the protocol of a port or
repeat a hostname on it. -/
def Clash (a b : MergedListener) : Prop :=
  a.listener.port = b.listener.port ∧
    (a.listener.protocol ≠ b.listener.protocol ∨ a.listener.hostname = b.listener.hostname)

instance : DecidableRel Clash := fun _ _ => inferInstanceAs (Decidable (_ ∧ _))

theorem hostnameValue_inj {a b : Option Hostname} :
    hostnameValue a = hostnameValue b ↔ a = b := by
  constructor
  · intro h
    cases a with
    | none =>
      cases b with
      | none => rfl
      | some b => exact absurd h.symm b.value_ne_empty
    | some a =>
      cases b with
      | none => exact absurd h a.value_ne_empty
      | some b =>
        have hvalue : a.value = b.value := h
        cases b
        cases hvalue
        rfl
  · intro h
    rw [h]

/-- The tables hold the port, protocol and hostname of the kept entries. -/
structure Represents (protoSeen : List (ℕ × ProtocolType)) (hostnameSeen : List (ℕ × String))
    (kept : List MergedListener) : Prop where
  claims : ∀ k ∈ kept, protoSeen.lookup k.listener.port = some k.listener.protocol
  claimed : ∀ port protocol, protoSeen.lookup port = some protocol →
    ∃ k ∈ kept, k.listener.port = port ∧ k.listener.protocol = protocol
  hostnames : ∀ port hostname, (port, hostname) ∈ hostnameSeen ↔
    ∃ k ∈ kept, k.listener.port = port ∧ hostnameValue k.listener.hostname = hostname

theorem Represents.empty : Represents [] [] [] where
  claims k hk := by cases hk
  claimed port protocol h := by cases h
  hostnames port hostname := by simp

variable {protoSeen : List (ℕ × ProtocolType)} {hostnameSeen : List (ℕ × String)}
  {kept : List MergedListener}

/-- The two lookups find a clash with a kept entry. -/
theorem Represents.clash_iff (h : Represents protoSeen hostnameSeen kept)
    (entry : MergedListener) :
    ((protoSeen.lookup entry.listener.port).any (· ≠ entry.listener.protocol) = true ∨
        (entry.listener.port, hostnameValue entry.listener.hostname) ∈ hostnameSeen) ↔
      ∃ k ∈ kept, Clash k entry := by
  constructor
  · intro hseen
    rcases hseen with hproto | hhost
    · obtain ⟨protocol, hlookup, hne⟩ := (Option.any_eq_true _ _).mp hproto
      obtain ⟨k, hk, hport, hprotocol⟩ := h.claimed _ _ hlookup
      refine ⟨k, hk, hport, Or.inl ?_⟩
      rw [hprotocol]
      exact of_decide_eq_true hne
    · obtain ⟨k, hk, hport, hhostname⟩ := (h.hostnames _ _).mp hhost
      exact ⟨k, hk, hport, Or.inr (hostnameValue_inj.mp hhostname)⟩
  · rintro ⟨k, hk, hport, hclash⟩
    have hlookup := h.claims k hk
    rw [hport] at hlookup
    rcases hclash with hproto | hhost
    · rw [hlookup]
      exact Or.inl (decide_eq_true hproto)
    · exact Or.inr ((h.hostnames _ _).mpr ⟨k, hk, hport, hostnameValue_inj.mpr hhost⟩)

/-- Keeping an entry that clashes with none records it. -/
theorem Represents.keep (h : Represents protoSeen hostnameSeen kept) {entry : MergedListener}
    (hfree : ¬ ∃ k ∈ kept, Clash k entry) :
    Represents
      (if (protoSeen.lookup entry.listener.port).isSome then protoSeen
        else (entry.listener.port, entry.listener.protocol) :: protoSeen)
      ((entry.listener.port, hostnameValue entry.listener.hostname) :: hostnameSeen)
      (entry :: kept) := by
  have hhostnames : ∀ port hostname,
      (port, hostname) ∈ (entry.listener.port, hostnameValue entry.listener.hostname) ::
        hostnameSeen ↔ ∃ k ∈ entry :: kept, k.listener.port = port ∧
          hostnameValue k.listener.hostname = hostname := by
    intro port hostname
    simp only [List.mem_cons, Prod.mk.injEq, h.hostnames, exists_eq_or_imp]
    exact or_congr_left (and_congr eq_comm eq_comm)
  cases hlookup : protoSeen.lookup entry.listener.port with
  | some protocol =>
    -- the port was claimed before, with the same protocol since there is no clash
    have hsame : protocol = entry.listener.protocol := by
      obtain ⟨k, hk, hport, hprotocol⟩ := h.claimed _ _ hlookup
      by_contra hne
      exact hfree ⟨k, hk, hport, Or.inl (hprotocol ▸ hne)⟩
    refine ⟨?_, ?_, hhostnames⟩
    · intro k hk
      rcases List.mem_cons.mp hk with rfl | hk
      · exact hlookup.trans (congrArg some hsame)
      · exact h.claims k hk
    · intro port protocol hport
      obtain ⟨k, hk, hclaim⟩ := h.claimed port protocol hport
      exact ⟨k, List.mem_cons_of_mem _ hk, hclaim⟩
  | none =>
    have hfresh : ∀ k ∈ kept, k.listener.port ≠ entry.listener.port := by
      intro k hk hport
      have hclaim := h.claims k hk
      rw [hport, hlookup] at hclaim
      cases hclaim
    refine ⟨?_, ?_, hhostnames⟩
    · intro k hk
      rcases List.mem_cons.mp hk with rfl | hk
      · simp
      · simp only [Option.isSome_none, Bool.false_eq_true, if_false, List.lookup_cons,
          beq_false_of_ne (hfresh k hk)]
        exact h.claims k hk
    · intro port protocol hport
      simp only [Option.isSome_none, Bool.false_eq_true, if_false] at hport
      by_cases hsame : port = entry.listener.port
      · subst hsame
        simp only [List.lookup_cons_self, Option.some.injEq] at hport
        exact ⟨entry, List.mem_cons_self, rfl, hport⟩
      · rw [List.lookup_cons, beq_false_of_ne hsame] at hport
        obtain ⟨k, hk, hclaim⟩ := h.claimed port protocol hport
        exact ⟨k, List.mem_cons_of_mem _ hk, hclaim⟩

/-- The entry before conflicts are looked for. -/
def unmarked (entry : MergedListener) : MergedListener :=
  { entry with conflictReason := none, conflictMessage := "" }

/-- Each entry with whether it is free of conflicts. -/
def verdicts (entries : List MergedListener) : List (MergedListener × Bool) :=
  entries.map fun entry => (unmarked entry, entry.conflictReason.isNone)

/-- Marking conflicts is the greedy scan. -/
theorem verdicts_annotateConflicts {entries : List MergedListener}
    (h : Represents protoSeen hostnameSeen kept) (hfresh : ∀ e ∈ entries, unmarked e = e) :
    verdicts (annotateConflicts protoSeen hostnameSeen entries) = scan Clash kept entries := by
  induction entries generalizing protoSeen hostnameSeen kept with
  | nil => rfl
  | cons entry rest ih =>
    have hentry : unmarked entry = entry := hfresh entry List.mem_cons_self
    have hrest : ∀ e ∈ rest, unmarked e = e := fun e he => hfresh e (List.mem_cons_of_mem _ he)
    have hseen := h.clash_iff entry
    rw [scan, annotateConflicts]
    by_cases hclash : ∃ k ∈ kept, Clash k entry
    · rw [if_pos hclash, ← ih h hrest]
      by_cases hproto : (protoSeen.lookup entry.listener.port).any
          (· ≠ entry.listener.protocol) = true
      · simp only [if_pos hproto]
        exact congrArg (fun e => (e, false) :: _) hentry
      · have hhost := (hseen.mpr hclash).resolve_left hproto
        simp only [if_neg hproto, if_pos hhost]
        exact congrArg (fun e => (e, false) :: _) hentry
    · have hfree := mt hseen.mp hclash
      rw [not_or] at hfree
      have hnone : entry.conflictReason = none := congrArg MergedListener.conflictReason hentry.symm
      rw [if_neg hclash, ← ih (h.keep hclash) hrest]
      simp only [if_neg hfree.1, if_neg hfree.2, verdicts, List.map_cons, hnone]
      exact congrArg (fun e => (e, true) :: _) hentry

/-- An entry's mark does not depend on what follows it. -/
theorem annotateConflicts_append (protoSeen : List (ℕ × ProtocolType))
    (hostnameSeen : List (ℕ × String)) (entries : List MergedListener) :
    ∃ protoSeen' hostnameSeen', ∀ rest,
      annotateConflicts protoSeen hostnameSeen (entries ++ rest) =
        annotateConflicts protoSeen hostnameSeen entries ++
          annotateConflicts protoSeen' hostnameSeen' rest := by
  induction entries generalizing protoSeen hostnameSeen with
  | nil => exact ⟨protoSeen, hostnameSeen, fun _ => rfl⟩
  | cons entry entries ih =>
    simp only [List.cons_append, annotateConflicts]
    split
    · obtain ⟨protoSeen', hostnameSeen', h⟩ := ih protoSeen hostnameSeen
      exact ⟨protoSeen', hostnameSeen', fun rest => by rw [h, List.cons_append]⟩
    · split
      · obtain ⟨protoSeen', hostnameSeen', h⟩ := ih protoSeen hostnameSeen
        exact ⟨protoSeen', hostnameSeen', fun rest => by rw [h, List.cons_append]⟩
      · obtain ⟨protoSeen', hostnameSeen', h⟩ := ih _ _
        exact ⟨protoSeen', hostnameSeen', fun rest => by rw [h, List.cons_append]⟩

theorem parent_annotateConflicts (protoSeen : List (ℕ × ProtocolType))
    (hostnameSeen : List (ℕ × String)) (entries : List MergedListener) :
    (annotateConflicts protoSeen hostnameSeen entries).map MergedListener.parent =
      entries.map MergedListener.parent := by
  induction entries generalizing protoSeen hostnameSeen with
  | nil => rfl
  | cons entry entries ih =>
    rw [annotateConflicts]
    split_ifs <;> rw [List.map_cons, ih, List.map_cons]

end Conflicts

section Merging

variable (gateway : Gateway) (sets : List ListenerSet)

/-- The entries in order of precedence, before conflicts are looked for. -/
def candidates : List MergedListener :=
  entriesOf .gateway gateway.listeners ++
    (sortListenerSets sets).flatMap fun ls => entriesOf (.listenerSet ls.id) ls.listeners

theorem merge_eq : merge gateway sets = annotateConflicts [] [] (candidates gateway sets) := rfl

theorem of_mem_entriesOf {parent : Parent} {listeners : List Listener} {entry : MergedListener}
    (h : entry ∈ entriesOf parent listeners) : entry.parent = parent ∧ unmarked entry = entry := by
  obtain ⟨source, -, rfl⟩ := List.mem_map.mp h
  exact ⟨rfl, rfl⟩

theorem unmarked_candidates : ∀ entry ∈ candidates gateway sets, unmarked entry = entry := by
  intro entry hentry
  rcases List.mem_append.mp hentry with hgateway | hset
  · exact (of_mem_entriesOf hgateway).2
  · obtain ⟨ls, -, hls⟩ := List.mem_flatMap.mp hset
    exact (of_mem_entriesOf hls).2

theorem verdicts_merge : verdicts (merge gateway sets) = scan Clash [] (candidates gateway sets) :=
  verdicts_annotateConflicts Represents.empty (unmarked_candidates gateway sets)

/-- Entries free of conflicts do not clash. -/
theorem pairwise_free :
    ((merge gateway sets).filter (·.conflictReason.isNone)).Pairwise fun a b => ¬ Clash a b := by
  have hkept := pairwise_kept (R := Clash) [] (candidates gateway sets)
  rw [← verdicts_merge, verdicts, List.filter_map, List.pairwise_map] at hkept
  exact hkept

/-- A conflicted entry clashes with an earlier one that is free of conflicts. -/
theorem exists_clash_of_conflicted {before after : List MergedListener} {entry : MergedListener}
    (h : merge gateway sets = before ++ entry :: after)
    (hconflict : entry.conflictReason.isSome = true) :
    ∃ k ∈ before, k.conflictReason = none ∧ Clash k entry := by
  have hverdict : entry.conflictReason.isNone = false := by
    rw [Option.isNone_eq_false_iff]
    exact hconflict
  have hscan := verdicts_merge gateway sets
  rw [h, verdicts, List.map_append, List.map_cons, hverdict] at hscan
  obtain ⟨k, hk, hclash⟩ := exists_clash hscan.symm
  rcases hk with hk | hk
  · cases hk
  · obtain ⟨original, horiginal, hsame⟩ := List.mem_map.mp hk
    rw [Prod.mk.injEq] at hsame
    obtain ⟨rfl, hfree⟩ := hsame
    exact ⟨original, horiginal, Option.isNone_iff_eq_none.mp hfree, hclash⟩

/-- The Gateway's own entries come first. -/
theorem gateway_entries_first :
    (merge gateway sets).Pairwise fun a b => b.parent = .gateway → a.parent = .gateway := by
  have hparents : ((candidates gateway sets).map MergedListener.parent).Pairwise
      fun a b => b = .gateway → a = .gateway := by
    rw [List.pairwise_map, candidates, List.pairwise_append]
    refine ⟨?_, ?_, ?_⟩
    · apply List.pairwise_of_forall_mem_list
      intro a ha b _ _
      exact (of_mem_entriesOf ha).1
    · apply List.pairwise_of_forall_mem_list
      intro a _ b hb hparent
      obtain ⟨ls, -, hls⟩ := List.mem_flatMap.mp hb
      rw [(of_mem_entriesOf hls).1] at hparent
      cases hparent
    · intro a ha b _ _
      exact (of_mem_entriesOf ha).1
  rw [← parent_annotateConflicts [] [] (candidates gateway sets), List.pairwise_map] at hparents
  exact hparents

end Merging

section Precedence

variable {gateway : Gateway} {sets : List ListenerSet}

def setStamp (ls : ListenerSet) : Stamp := ⟨ls.creationTimestamp, ls.id.ns, ls.id.name⟩

theorem precedesSet_iff (a b : ListenerSet) :
    precedesSet a b ↔ (setStamp a).Precedes (setStamp b) := Iff.rfl

theorem id_eq_of_setStamp_eq {a b : ListenerSet} (h : setStamp a = setStamp b) : a.id = b.id := by
  simp only [setStamp, Stamp.mk.injEq] at h
  exact NamespacedName.ext h.2.1 h.2.2

/-- The order of the input does not matter. -/
theorem merge_eq_of_perm {sets' : List ListenerSet}
    (hnodup : (sets.map ListenerSet.id).Nodup) (hperm : sets.Perm sets') :
    merge gateway sets = merge gateway sets' := by
  have hsorted : sortListenerSets sets = sortListenerSets sets' := by
    refine insertionSort_eq_of_perm setStamp precedesSet precedesSet_iff hperm ?_
    intro a ha b hb hstamp
    exact List.inj_on_of_nodup_map hnodup ha hb (id_eq_of_setStamp_eq hstamp)
  rw [merge_eq, merge_eq, candidates, candidates, hsorted]

/-- The entry is the Gateway's own or of a set that sorts before the added one. -/
def SortsBefore (sets : List ListenerSet) (added : ListenerSet) (entry : MergedListener) : Prop :=
  entry.parent = .gateway ∨
    ∃ ls ∈ sets, entry.parent = .listenerSet ls.id ∧ precedesSet ls added

instance (sets : List ListenerSet) (added : ListenerSet) (entry : MergedListener) :
    Decidable (SortsBefore sets added entry) :=
  inferInstanceAs (Decidable (_ ∨ ∃ ls ∈ sets, _ ∧ _))

/-- No entry of these later sets is before the added one. -/
theorem filter_later {added : ListenerSet} (hnodup : ((added :: sets).map ListenerSet.id).Nodup)
    {later : List ListenerSet} (hlater : ∀ ls ∈ later, ls ∈ added :: sets ∧ precedesSet added ls)
    (protoSeen : List (ℕ × ProtocolType)) (hostnameSeen : List (ℕ × String)) :
    (annotateConflicts protoSeen hostnameSeen
      (later.flatMap fun ls => entriesOf (.listenerSet ls.id) ls.listeners)).filter
        (SortsBefore sets added) = [] := by
  rw [List.filter_eq_nil_iff]
  intro entry hentry hbefore
  have hparent : entry.parent ∈ (later.flatMap fun ls =>
      entriesOf (.listenerSet ls.id) ls.listeners).map MergedListener.parent := by
    rw [← parent_annotateConflicts protoSeen hostnameSeen]
    exact List.mem_map_of_mem hentry
  obtain ⟨source, hsource, hsame⟩ := List.mem_map.mp hparent
  obtain ⟨ls, hls, hmem⟩ := List.mem_flatMap.mp hsource
  rw [(of_mem_entriesOf hmem).1] at hsame
  rcases of_decide_eq_true hbefore with hgateway | ⟨other, hother, hid, hprecedes⟩
  · rw [← hsame] at hgateway
    cases hgateway
  · rw [← hsame, Parent.listenerSet.injEq] at hid
    obtain ⟨hlsmem, hafter⟩ := hlater ls hls
    have heq : ls = other :=
      List.inj_on_of_nodup_map hnodup hlsmem (List.mem_cons_of_mem _ hother) hid
    subst heq
    -- the set is both before and after the added one, so it is the added one
    have hstamp := ((precedesSet_iff ls added).mp hprecedes).antisymm hafter
    have hadded : added.id ∈ sets.map ListenerSet.id := by
      rw [← id_eq_of_setStamp_eq hstamp]
      exact List.mem_map_of_mem hother
    rw [List.map_cons, List.nodup_cons] at hnodup
    exact hnodup.1 hadded

/-- Adding a set changes no mark of what comes before it. -/
theorem filter_merge_add {added : ListenerSet}
    (hnodup : ((added :: sets).map ListenerSet.id).Nodup) {sets' : List ListenerSet}
    (hperm : sets'.Perm (added :: sets)) :
    (merge gateway sets').filter (SortsBefore sets added) =
      (merge gateway sets).filter (SortsBefore sets added) := by
  have hsame : merge gateway sets' = merge gateway (added :: sets) := by
    refine (merge_eq_of_perm hnodup hperm.symm).symm
  have hsplit : ∃ earlier later, sortListenerSets sets = earlier ++ later ∧
      sortListenerSets (added :: sets) = earlier ++ added :: later :=
    ⟨_, _, (List.takeWhile_append_dropWhile).symm,
      List.insertionSort_cons_eq_take_drop precedesSet added sets⟩
  obtain ⟨earlier, later, hsets, hadded⟩ := hsplit
  have hsorted : (earlier ++ added :: later).Pairwise precedesSet := by
    rw [← hadded]
    exact pairwise_insertionSort_of_stamp setStamp precedesSet precedesSet_iff _
  have hafter : ∀ ls ∈ added :: later, ls ∈ added :: sets ∧ precedesSet added ls := by
    intro ls hls
    have hmem : ls ∈ sortListenerSets (added :: sets) := by
      rw [hadded]
      exact List.mem_append_right _ hls
    refine ⟨(List.mem_insertionSort _).mp hmem, ?_⟩
    rcases List.mem_cons.mp hls with rfl | hls
    · exact Or.inr ⟨rfl, Or.inr ⟨rfl, String.le_refl _⟩⟩
    · exact (List.pairwise_cons.mp (List.pairwise_append.mp hsorted).2.1).1 ls hls
  obtain ⟨protoSeen, hostnameSeen, happend⟩ := annotateConflicts_append [] []
    (entriesOf .gateway gateway.listeners ++
      earlier.flatMap fun ls => entriesOf (.listenerSet ls.id) ls.listeners)
  rw [hsame, merge_eq, merge_eq, candidates, candidates, hsets, hadded, List.flatMap_append,
    List.flatMap_append, ← List.append_assoc, ← List.append_assoc, happend, happend,
    List.filter_append, List.filter_append, filter_later hnodup hafter,
    filter_later hnodup fun ls hls => hafter ls (List.mem_cons_of_mem _ hls)]

end Precedence

section Results

/-- What holds of the merged view of every Gateway and every list of ListenerSets
with distinct names. -/
theorem merge_invariants (gateway : Gateway) (sets : List ListenerSet)
    (hnodup : (sets.map ListenerSet.id).Nodup) :
    ((merge gateway sets).filter (·.conflictReason.isNone)).Pairwise (fun a b =>
      (a.listener.port, a.listener.hostname) ≠ (b.listener.port, b.listener.hostname) ∧
        (a.listener.port = b.listener.port → a.listener.protocol = b.listener.protocol)) ∧
    (∀ before entry after, merge gateway sets = before ++ entry :: after →
      entry.conflictReason.isSome = true →
      ∃ k ∈ before, k.conflictReason = none ∧ k.listener.port = entry.listener.port ∧
        (k.listener.protocol ≠ entry.listener.protocol ∨
          k.listener.hostname = entry.listener.hostname)) ∧
    ((merge gateway sets).Pairwise fun a b => b.parent = .gateway → a.parent = .gateway) ∧
    (∀ sets', sets.Perm sets' → merge gateway sets' = merge gateway sets) ∧
    ∀ added sets', added.id ∉ sets.map ListenerSet.id → sets'.Perm (added :: sets) →
      (merge gateway sets').filter (SortsBefore sets added) =
        (merge gateway sets).filter (SortsBefore sets added) := by
  refine ⟨?_, ?_, gateway_entries_first gateway sets, ?_, ?_⟩
  · refine (pairwise_free gateway sets).imp ?_
    intro a b hfree
    rw [Clash, not_and, not_or, not_not] at hfree
    refine ⟨?_, fun hport => (hfree hport).1⟩
    intro hsame
    rw [Prod.mk.injEq] at hsame
    exact (hfree hsame.1).2 hsame.2
  · intro before entry after hmerge hconflict
    exact exists_clash_of_conflicted gateway sets hmerge hconflict
  · intro sets' hperm
    exact (merge_eq_of_perm hnodup hperm).symm
  · intro added sets' hfresh hperm
    refine filter_merge_add ?_ hperm
    rw [List.map_cons, List.nodup_cons]
    exact ⟨hfresh, hnodup⟩

/-- A ListenerSet with one listener. -/
def setWith (name : String) (created : ℤ) (listener : Listener) : ListenerSet where
  id := .of "apps" name
  creationTimestamp := created
  parentRef := ⟨none, "edge"⟩
  listeners := [listener]
  names_nodup := List.nodup_singleton _

def tlsSet : ListenerSet := setWith "tls" 2 ⟨"tls", ofString? "a.com", 443, .tls, none⟩

def httpsSet : ListenerSet := setWith "https" 1 ⟨"https", ofString? "a.com", 443, .https, none⟩

/-- Two sets that disagree on the protocol of a port; the older one keeps it,
however they are listed. -/
theorem merge_invariants_two_sets :
    let gateway := Gateway.withListener (.of "apps" "edge") "cloudflare"
      ⟨"web", none, 80, .http, none⟩ none
    ([tlsSet, httpsSet].map ListenerSet.id).Nodup ∧
      merge gateway [httpsSet, tlsSet] = merge gateway [tlsSet, httpsSet] ∧
      ((merge gateway [tlsSet, httpsSet]).map fun e => (e.listener.name, e.conflictReason)) =
        [("web", none), ("https", none), ("tls", some .protocolConflict)] := by
  intro gateway
  have hnodup : ([tlsSet, httpsSet].map ListenerSet.id).Nodup := by decide +kernel
  exact ⟨hnodup, (merge_invariants gateway [tlsSet, httpsSet] hnodup).2.2.2.1 [httpsSet, tlsSet]
    (List.Perm.swap _ _ _), by decide +kernel⟩

end Results

end TunnelGateway.MergeInvariants
