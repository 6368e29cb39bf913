import Mathlib.Data.List.AList
import Mathlib.Data.List.Sort
import Mathlib.Data.String.Basic

/-!
Annotations the controller renders onto an object that other actors annotate too. It writes
the keys it rendered into an annotation of their own, and the next merge reads there which
keys it may drop. The list is rewritten by every merge, so after any history the object has
the annotations of the other actors and what the last merge rendered.
-/
namespace TunnelGateway.ManagedAnnotations

section Merge

/-- Records which annotation keys the controller rendered onto an object. -/
def managedAnnotationsKey : String := "cf.k8s.lex.la/managed-annotations"

/-- The annotations of an object, by key. -/
abbrev Annotations := String → Option String

/-- The rendered annotations, in the order in which `range` visits them. -/
abbrev Desired := AList fun _ : String => String

/-- `strings.SplitSeq` at commas. -/
def splitKeys (tracked : String) : List String := (tracked.toList.splitOn ',').map String.ofList

/-- The loop over the keys of the last merge. -/
def dropUndesired (desired : Desired) (tracked : List String) (result : Annotations) :
    Annotations :=
  tracked.foldl (fun result key =>
    if key = "" then result
    else if key ∈ desired then result
    else Function.update result key none) result

/-- The loop over the desired annotations. -/
def overlay (entries : List (Sigma fun _ : String => String)) (result : Annotations) :
    Annotations :=
  entries.foldl (fun result entry => Function.update result entry.1 (some entry.2)) result

def mergeManagedAnnotations (existing : Annotations) (desired : Desired) : Annotations :=
  let result := dropUndesired desired
    (splitKeys ((existing managedAnnotationsKey).getD "")) existing
  let result := overlay desired.entries result
  let managed := desired.keys.insertionSort (· ≤ ·)
  if managed.length = 0 then Function.update result managedAnnotationsKey none
  else Function.update result managedAnnotationsKey (some (",".intercalate managed))

/-- What the merge leaves under the tracking key. -/
def listing (desired : Desired) : Option String :=
  if desired.keys = [] then none else some (",".intercalate (desired.keys.insertionSort (· ≤ ·)))

variable {desired : Desired} {key : String}

theorem dropUndesired_apply (tracked : List String) (result : Annotations) :
    dropUndesired desired tracked result key =
      if key ≠ "" ∧ key ∈ tracked ∧ key ∉ desired then none else result key := by
  induction tracked generalizing result with
  | nil => simp [dropUndesired]
  | cons first rest ih =>
    rw [dropUndesired, List.foldl_cons, ← dropUndesired, ih]
    by_cases hfirst : key = first
    · subst hfirst
      by_cases hempty : key = ""
      · simp [hempty]
      · by_cases hkept : key ∈ desired
        · simp [hkept]
        · simp [hempty, hkept]
    · have hround : (if first = "" then result else if first ∈ desired then result
          else Function.update result first none) key = result key := by
        split_ifs
        · rfl
        · rfl
        · exact Function.update_of_ne hfirst _ _
      simp [hround, hfirst]

theorem overlay_apply {entries : List (Sigma fun _ : String => String)}
    (hkeys : entries.NodupKeys) (result : Annotations) :
    overlay entries result key = (entries.dlookup key).or (result key) := by
  induction entries generalizing result with
  | nil => rfl
  | cons entry rest ih =>
    obtain ⟨name, value⟩ := entry
    obtain ⟨hfresh, hrest⟩ := List.nodupKeys_cons.mp hkeys
    rw [overlay, List.foldl_cons, ← overlay, ih hrest]
    by_cases hname : key = name
    · subst hname
      rw [List.dlookup_eq_none.mpr hfresh, Function.update_self, List.dlookup_cons_eq]
      rfl
    · rw [Function.update_of_ne hname, List.dlookup_cons_ne _ _ hname]

/-- The merge, key by key. -/
theorem mergeManagedAnnotations_apply (existing : Annotations) (desired : Desired) (key : String) :
    mergeManagedAnnotations existing desired key =
      if key = managedAnnotationsKey then listing desired
      else (desired.lookup key).or
        (if key ≠ "" ∧ key ∈ splitKeys ((existing managedAnnotationsKey).getD "") then none
          else existing key) := by
  have hmerge : mergeManagedAnnotations existing desired =
      Function.update (overlay desired.entries (dropUndesired desired
        (splitKeys ((existing managedAnnotationsKey).getD "")) existing))
        managedAnnotationsKey (listing desired) := by
    simp only [mergeManagedAnnotations, listing, List.length_insertionSort,
      List.length_eq_zero_iff]
    split <;> rfl
  rw [hmerge]
  by_cases htracking : key = managedAnnotationsKey
  · rw [if_pos htracking, htracking, Function.update_self]
  · rw [if_neg htracking, Function.update_of_ne htracking, overlay_apply desired.nodupKeys,
      dropUndesired_apply]
    cases hvalue : desired.lookup key with
    | some value =>
      have hfound : desired.entries.dlookup key = some value := hvalue
      simp [hfound]
    | none =>
      have hfound : desired.entries.dlookup key = none := hvalue
      simp [hfound, AList.lookup_eq_none.mp hvalue]

/-- The keys the API server admits have no comma and are not empty. -/
def PlainKeys (desired : Desired) : Prop := ∀ key ∈ desired, key ≠ "" ∧ ',' ∉ key.toList

/-- The keys of a merge are read back from its list. -/
theorem mem_splitKeys_listing (hplain : PlainKeys desired) :
    key ≠ "" ∧ key ∈ splitKeys ((listing desired).getD "") ↔ key ∈ desired := by
  unfold listing
  split
  · rename_i hempty
    have hnone : key ∉ desired := by
      rw [AList.mem_keys, hempty]
      exact List.not_mem_nil
    simp [splitKeys, hnone]
  · rename_i hne
    have hwords : ∀ word ∈ (desired.keys.insertionSort (· ≤ ·)).map String.toList, ',' ∉ word := by
      intro word hword
      obtain ⟨name, hname, rfl⟩ := List.mem_map.mp hword
      rw [List.mem_insertionSort] at hname
      exact (hplain name hname).2
    have hsome : (desired.keys.insertionSort (· ≤ ·)).map String.toList ≠ [] := by
      rw [← List.length_pos_iff, List.length_map, List.length_insertionSort]
      exact List.length_pos_iff.mpr hne
    have hsplit : splitKeys (",".intercalate (desired.keys.insertionSort (· ≤ ·))) =
        desired.keys.insertionSort (· ≤ ·) := by
      have hcomma : ",".toList = [','] := rfl
      rw [splitKeys, String.toList_intercalate, hcomma, List.splitOn_intercalate ',' hwords hsome]
      simp
    rw [Option.getD_some, hsplit, List.mem_insertionSort]
    exact and_iff_right_of_imp fun hkey => (hplain key hkey).1

/-- The order of `range` does not matter. -/
theorem listing_eq_of_perm {desired' : Desired} (hperm : desired'.entries.Perm desired.entries) :
    listing desired' = listing desired := by
  have hkeys : desired'.keys.Perm desired.keys := hperm.map Sigma.fst
  have hsorted : desired'.keys.insertionSort (· ≤ ·) = desired.keys.insertionSort (· ≤ ·) := by
    refine List.Perm.eq_of_pairwise' (List.pairwise_insertionSort _ _)
      (List.pairwise_insertionSort _ _) ?_
    exact (List.perm_insertionSort _ _).trans (hkeys.trans (List.perm_insertionSort _ _).symm)
  have hempty : desired'.keys = [] ↔ desired.keys = [] := by
    rw [← List.length_eq_zero_iff, ← List.length_eq_zero_iff, hkeys.length_eq]
  simp [listing, hempty, hsorted]

end Merge

section Histories

/-- The annotations of an object, what the other actors alone would have made of them, and the
maps merged so far, the last one first. The object comes without the list; the other actors
leave it and the rendered keys alone. -/
inductive History : Annotations → Annotations → List Desired → Prop
  | start {initial : Annotations} (hfresh : initial managedAnnotationsKey = none) :
      History initial initial []
  | merge {annotations foreign : Annotations} {maps : List Desired} (desired : Desired)
      (hplain : PlainKeys desired) (h : History annotations foreign maps) :
      History (mergeManagedAnnotations annotations desired) foreign (desired :: maps)
  | edit {annotations foreign : Annotations} {maps : List Desired} (key : String)
      (value : Option String) (htracking : key ≠ managedAnnotationsKey)
      (hother : ∀ desired ∈ maps, key ∉ desired) (h : History annotations foreign maps) :
      History (Function.update annotations key value) (Function.update foreign key value) maps

/-- The current foreign annotations, the current map and the list of its keys. Of what only
earlier maps rendered nothing is left. -/
def expected (foreign : Annotations) (maps : List Desired) (key : String) : Option String :=
  match maps with
  | [] => foreign key
  | current :: earlier =>
      if key = managedAnnotationsKey then listing current
      else (current.lookup key).or
        (if earlier.any fun old => key ∈ old then none else foreign key)

variable {annotations foreign : Annotations} {maps earlier : List Desired}
  {current desired : Desired} {key : String}

theorem expected_cons : expected foreign (current :: earlier) key =
    if key = managedAnnotationsKey then listing current
    else (current.lookup key).or
      (if earlier.any fun old => key ∈ old then none else foreign key) := rfl

theorem History.plain (h : History annotations foreign maps) :
    ∀ desired ∈ maps, PlainKeys desired := by
  induction h with
  | start => exact nofun
  | merge desired hplain _ ih => exact List.forall_mem_cons.mpr ⟨hplain, ih⟩
  | edit => assumption

theorem History.fresh (h : History annotations foreign maps) :
    foreign managedAnnotationsKey = none := by
  induction h with
  | start hfresh => exact hfresh
  | merge _ _ _ ih => exact ih
  | edit key value htracking _ _ ih => rw [Function.update_of_ne htracking.symm, ih]

/-- A merge onto the current map drops the keys of that map only. -/
theorem merge_expected_cons (hplain : PlainKeys current) :
    mergeManagedAnnotations (expected foreign (current :: earlier)) desired key =
      if key = managedAnnotationsKey then listing desired
      else (desired.lookup key).or
        (if key ∈ current then none else expected foreign (current :: earlier) key) := by
  have hlist : expected foreign (current :: earlier) managedAnnotationsKey = listing current := by
    rw [expected_cons, if_pos rfl]
  simp [mergeManagedAnnotations_apply, hlist, mem_splitKeys_listing hplain]

theorem expected_of_not_mem (htracking : key ≠ managedAnnotationsKey) (hkey : key ∉ current) :
    expected foreign (current :: earlier) key =
      if earlier.any fun old => key ∈ old then none else foreign key := by
  rw [expected_cons, if_neg htracking, AList.lookup_eq_none.mpr hkey, Option.none_or]

theorem expected_merge (hfresh : foreign managedAnnotationsKey = none)
    (hplain : ∀ desired ∈ maps, PlainKeys desired) :
    mergeManagedAnnotations (expected foreign maps) desired =
      expected foreign (desired :: maps) := by
  funext key
  by_cases htracking : key = managedAnnotationsKey
  · rw [mergeManagedAnnotations_apply, expected_cons, if_pos htracking, if_pos htracking]
  rw [expected_cons, if_neg htracking]
  cases maps with
  | nil => simp [mergeManagedAnnotations_apply, htracking, expected, hfresh, splitKeys]
  | cons current earlier =>
    rw [merge_expected_cons (hplain current List.mem_cons_self), if_neg htracking]
    by_cases hkey : key ∈ current
    · simp [hkey]
    · rw [expected_of_not_mem htracking hkey]
      simp [hkey]

theorem expected_edit (value : Option String) (htracking : key ≠ managedAnnotationsKey)
    (hother : ∀ desired ∈ maps, key ∉ desired) :
    Function.update (expected foreign maps) key value =
      expected (Function.update foreign key value) maps := by
  cases maps with
  | nil => rfl
  | cons current earlier =>
    obtain ⟨hcurrent, hearlier⟩ := List.forall_mem_cons.mp hother
    funext other
    by_cases hsame : other = key
    · subst hsame
      have hnone : (earlier.any fun old => other ∈ old) = false := by simpa using hearlier
      rw [Function.update_self, expected_of_not_mem htracking hcurrent, hnone,
        Function.update_self]
      rfl
    · simp [expected_cons, Function.update_of_ne hsame]

theorem History.eq_expected (h : History annotations foreign maps) :
    annotations = expected foreign maps := by
  induction h with
  | start => rfl
  | merge desired hplain h ih => rw [ih, expected_merge h.fresh h.plain]
  | edit key value htracking hother _ ih => rw [ih, expected_edit value htracking hother]

/-- A Deployment whose revision another controller counts on. -/
def revision (count : String) : Annotations := fun key =>
  if key = "deployment.kubernetes.io/revision" then some count else none

/-- Both maps of the history; the first one renders the tracking key, too. -/
def firstMap : Desired := (AList.singleton managedAnnotationsKey "x").insert "team" "a"

def secondMap : Desired := AList.singleton "owner" "b"

end Histories

end TunnelGateway.ManagedAnnotations
