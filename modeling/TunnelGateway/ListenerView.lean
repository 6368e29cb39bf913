import TunnelGateway.Execution
import TunnelGateway.FingerprintMemo
import TunnelGateway.MergeInvariants
import TunnelGateway.SeparatedText

/-!
The store that keeps merged listener views across reconciles. An entry is reused
while the Gateway's generation and the name, generation and creation time of the
ListenerSets that target it stay the same. Objects may be deleted and created
again under their names at any time, which starts their generation anew.
-/
namespace TunnelGateway.ListenerView

open Hostname GatewayApi RouteBinding ListenerMerge MergeInvariants FingerprintMemo Execution
  SeparatedText

section Views

structure GatewayListenerView where
  acceptedSets : List ListenerSet
  merged : List MergedListener

/-- The same view; the accepted sets are a set. -/
structure GatewayListenerView.Same (a b : GatewayListenerView) : Prop where
  acceptedSets : a.acceptedSets.Perm b.acceptedSets
  merged : a.merged = b.merged

def viewFromCandidates (cluster : Cluster) (gateway : Gateway) (candidates : List ListenerSet) :
    Except String GatewayListenerView := do
  let accepted ← acceptedFromCandidates cluster gateway candidates
  return ⟨accepted, merge gateway accepted⟩

def gatewayUsesNamespaceSelector (gateway : Gateway) : Bool :=
  gateway.allowedListeners.bind NamespaceFilter.source = some .selector

/-- The `allowedListeners` filter of a Gateway that does not select by label. -/
def admits (gateway : Gateway) (listenerSet : ListenerSet) : Bool :=
  match (gateway.allowedListeners.bind NamespaceFilter.source).getD .none with
  | .all => true
  | .same => gateway.id.ns = listenerSet.id.ns
  | .selector => false
  | .none => false

variable {gateway : Gateway}

theorem acceptedFromCandidates_eq {cluster : Cluster}
    (hplain : gatewayUsesNamespaceSelector gateway = false) (candidates : List ListenerSet) :
    acceptedFromCandidates cluster gateway candidates =
      .ok (candidates.filter (admits gateway)) := by
  have haccepts : ∀ ls, Fallible.wrap "failed to evaluate listenerset acceptance"
      ((evaluateListenerSetAcceptance cluster gateway ls).map ListenerSetAcceptance.accepted) =
      .ok (admits gateway ls) := by
    intro ls
    rw [gatewayUsesNamespaceSelector, decide_eq_false_iff_not] at hplain
    simp only [evaluateListenerSetAcceptance, admits]
    cases hsource : gateway.allowedListeners.bind NamespaceFilter.source with
    | none => rfl
    | some source =>
      cases source with
      | all => rfl
      | same => by_cases h : gateway.id.ns = ls.id.ns <;> simp [h] <;> rfl
      | selector => exact absurd hsource hplain
      | none => rfl
  exact Fallible.filterM_ok fun ls _ => haccepts ls

/-- Outside selector mode a view does not read the rest of the cluster. -/
def plainView (gateway : Gateway) (candidates : List ListenerSet) : GatewayListenerView :=
  ⟨candidates.filter (admits gateway), merge gateway (candidates.filter (admits gateway))⟩

theorem viewFromCandidates_eq (cluster : Cluster)
    (hplain : gatewayUsesNamespaceSelector gateway = false) (candidates : List ListenerSet) :
    viewFromCandidates cluster gateway candidates = .ok (plainView gateway candidates) := by
  rw [viewFromCandidates, acceptedFromCandidates_eq hplain]
  rfl

/-- The order in which the sets are listed does not show in a view. -/
theorem plainView_same {candidates candidates' : List ListenerSet}
    (hnodup : (candidates.map ListenerSet.id).Nodup) (hperm : candidates.Perm candidates') :
    (plainView gateway candidates).Same (plainView gateway candidates') :=
  ⟨hperm.filter _, merge_eq_of_perm (hnodup.sublist (List.filter_sublist.map _))
    (hperm.filter _)⟩

end Views

section Fingerprints

/-- A Gateway as the API server has it. -/
structure GatewayObject where
  gateway : Gateway
  uid : ℕ
  generation : ℕ

/-- The characters that separate the parts of a fingerprint. -/
def separators : List Char := [';', '@', '#']

/-- A ListenerSet as the API server has it; object names have no separators. -/
structure ListenerSetObject where
  listenerSet : ListenerSet
  uid : ℕ
  generation : ℕ
  plain : ∀ c ∈ separators, c ∉ listenerSet.id.key.toList

def nanosPerSecond : ℤ := 1000000000

/-- Identity, generation and creation time; the latter is kept in seconds and
printed in nanoseconds. -/
def candidateKey (ls : ListenerSetObject) : String :=
  ls.listenerSet.id.key ++ "@" ++ toString ls.generation ++ "#" ++
    toString (ls.listenerSet.creationTimestamp * nanosPerSecond)

def mergeViewFingerprint (gateway : GatewayObject) (candidates : List ListenerSetObject) :
    String :=
  "g@" ++ toString gateway.generation ++ ";" ++
    ";".intercalate ((candidates.map candidateKey).insertionSort (· ≤ ·))

private theorem toList_candidateKey (ls : ListenerSetObject) :
    (candidateKey ls).toList = (ls.listenerSet.id.key.toList ++ '@' ::
      (toString ls.generation).toList) ++ '#' ::
        (toString (ls.listenerSet.creationTimestamp * nanosPerSecond)).toList := by
  simp [candidateKey]

theorem semicolon_notMem_candidateKey (ls : ListenerSetObject) :
    ';' ∉ (candidateKey ls).toList := by
  rw [toList_candidateKey]
  simp only [List.mem_append, List.mem_cons, not_or]
  exact ⟨⟨ls.plain ';' (by decide), by decide, notMem_toString_nat (by decide)⟩, by decide,
    notMem_toString_int (by decide) (by decide)⟩

/-- A key tells name, generation and creation time. -/
theorem candidateKey_inj {a b : ListenerSetObject} (h : candidateKey a = candidateKey b) :
    a.listenerSet.id = b.listenerSet.id ∧ a.generation = b.generation ∧
      a.listenerSet.creationTimestamp = b.listenerSet.creationTimestamp := by
  have hlist := congrArg String.toList h
  have hname : ∀ ls : ListenerSetObject, '#' ∉ ls.listenerSet.id.key.toList ++ '@' ::
      (toString ls.generation).toList := by
    intro ls
    simp only [List.mem_append, List.mem_cons, not_or]
    exact ⟨ls.plain '#' (by decide), by decide, notMem_toString_nat (by decide)⟩
  rw [toList_candidateKey, toList_candidateKey] at hlist
  obtain ⟨hversion, hcreated⟩ := append_cons_inj (hname a) (hname b) hlist
  obtain ⟨hid, hgeneration⟩ :=
    append_cons_inj (a.plain '@' (by decide)) (b.plain '@' (by decide)) hversion
  refine ⟨NamespacedName.key_injective (String.toList_inj.mp hid),
    toString_nat_inj hgeneration, ?_⟩
  have hnanos := toString_int_inj hcreated
  simp only [nanosPerSecond] at hnanos
  omega

theorem words_candidateKey (candidates : List ListenerSetObject) :
    Words ';' (((candidates.map candidateKey).insertionSort (· ≤ ·)).map String.toList) := by
  intro chars hchars
  obtain ⟨key, hkey, rfl⟩ := List.mem_map.mp hchars
  obtain ⟨ls, -, rfl⟩ := List.mem_map.mp ((List.mem_insertionSort _).mp hkey)
  refine ⟨semicolon_notMem_candidateKey ls, ?_⟩
  rw [toList_candidateKey]
  simp

/-- Equal fingerprints have the Gateway's generation and the keys of the sets in
common. -/
theorem mergeViewFingerprint_inj {g g' : GatewayObject} {candidates candidates' :
    List ListenerSetObject}
    (h : mergeViewFingerprint g candidates = mergeViewFingerprint g' candidates') :
    g.generation = g'.generation ∧
      (candidates.map candidateKey).Perm (candidates'.map candidateKey) := by
  have hlist := congrArg String.toList h
  simp only [mergeViewFingerprint, String.toList_append, List.append_assoc] at hlist
  have hrest := List.append_cancel_left hlist
  obtain ⟨hgeneration, hkeys⟩ := append_cons_inj (notMem_toString_nat (by decide))
    (notMem_toString_nat (by decide)) hrest
  refine ⟨toString_nat_inj hgeneration, ?_⟩
  rw [String.toList_intercalate, String.toList_intercalate] at hkeys
  have hwords := intercalate_inj (words_candidateKey candidates) (words_candidateKey candidates')
    hkeys
  have hsorted := List.map_injective_iff.mpr (fun _ _ => String.toList_inj.mp) hwords
  have hleft := List.perm_insertionSort (· ≤ ·) (candidates.map candidateKey)
  have hright := List.perm_insertionSort (· ≤ ·) (candidates'.map candidateKey)
  rw [hsorted] at hleft
  exact hleft.symm.trans hright

end Fingerprints

section Store

/-- The objects a view is computed from. -/
structure Inputs where
  gateway : GatewayObject
  candidates : List ListenerSetObject

def Inputs.sets (inputs : Inputs) : List ListenerSet :=
  inputs.candidates.map ListenerSetObject.listenerSet

def Inputs.fingerprint (inputs : Inputs) : String :=
  mergeViewFingerprint inputs.gateway inputs.candidates

def Inputs.build (cluster : Cluster) (inputs : Inputs) : Except String GatewayListenerView :=
  viewFromCandidates cluster inputs.gateway.gateway inputs.sets

/-- The listed sets that target the Gateway. -/
def inputsOf (gateway : GatewayObject) (listed : List ListenerSetObject) : Inputs :=
  ⟨gateway, listed.filter fun ls => listenerSetTargetsGateway ls.listenerSet gateway.gateway⟩

structure MergeViewStore where
  entries : NamespacedName → Option (Entry String GatewayListenerView)

def MergeViewStore.empty : MergeViewStore := ⟨fun _ => none⟩

def MergeViewStore.set (store : MergeViewStore) (key : NamespacedName)
    (entry : Option (Entry String GatewayListenerView)) : MergeViewStore :=
  ⟨Function.update store.entries key entry⟩

def MergeViewStore.forget (store : MergeViewStore) (key : NamespacedName) : MergeViewStore :=
  store.set key none

/-- In selector mode the view is built afresh and not kept. -/
def MergeViewStore.resolve (store : MergeViewStore) (cluster : Cluster) (gateway : GatewayObject)
    (listed : List ListenerSetObject) : Except String GatewayListenerView × MergeViewStore :=
  let inputs := inputsOf gateway listed
  if gatewayUsesNamespaceSelector gateway.gateway then (inputs.build cluster, store)
  else
    let key := gateway.gateway.id
    let resolved :=
      FingerprintMemo.resolve Inputs.fingerprint (Inputs.build cluster) (store.entries key) inputs
    (resolved.1, store.set key resolved.2)

section Resolve

variable {store : MergeViewStore} (cluster : Cluster) {gateway : GatewayObject}
  {listed : List ListenerSetObject}

theorem resolve_of_selector (hmode : gatewayUsesNamespaceSelector gateway.gateway = true) :
    store.resolve cluster gateway listed = ((inputsOf gateway listed).build cluster, store) := by
  simp [MergeViewStore.resolve, hmode]

theorem resolve_of_hit (hmode : gatewayUsesNamespaceSelector gateway.gateway = false)
    (hhits : Hits (store.entries gateway.gateway.id) (inputsOf gateway listed).fingerprint) :
    ∃ e ∈ store.entries gateway.gateway.id, e.fingerprint = (inputsOf gateway listed).fingerprint ∧
      store.resolve cluster gateway listed = (.ok e.value, store) := by
  obtain ⟨e, he, hsame, hresolve⟩ := resolve_of_hits (Inputs.build cluster) hhits
  refine ⟨e, he, hsame, ?_⟩
  simp only [MergeViewStore.resolve, hmode, Bool.false_eq_true, if_false, hresolve]
  rw [MergeViewStore.set, Function.update_eq_self]

theorem resolve_of_miss (hmode : gatewayUsesNamespaceSelector gateway.gateway = false)
    (hmiss : ¬ Hits (store.entries gateway.gateway.id) (inputsOf gateway listed).fingerprint) :
    store.resolve cluster gateway listed =
      (.ok (plainView gateway.gateway (inputsOf gateway listed).sets),
        store.set gateway.gateway.id (some ⟨(inputsOf gateway listed).fingerprint,
          plainView gateway.gateway (inputsOf gateway listed).sets⟩)) := by
  have hbuild : Inputs.build cluster (inputsOf gateway listed) =
      .ok (plainView gateway.gateway (inputsOf gateway listed).sets) :=
    viewFromCandidates_eq cluster hmode _
  have hresolve := resolve_of_not_hits hmiss hbuild
  simp [MergeViewStore.resolve, hmode, hresolve]

end Resolve

/-- The view of the current objects. -/
def freshView (cluster : Cluster) (gateway : GatewayObject) (listed : List ListenerSetObject) :
    Except String GatewayListenerView :=
  (inputsOf gateway listed).build cluster

/-- The same view or the same error. -/
def SameOutcome : Except String GatewayListenerView → Except String GatewayListenerView → Prop
  | .ok a, .ok b => a.Same b
  | .error err, .error err' => err = err'
  | _, _ => False

/-- An order in which a list is returned. -/
structure ListOrder where
  arrange : List ListenerSetObject → List ListenerSetObject
  perm : ∀ l, (arrange l).Perm l

def ListOrder.asStored : ListOrder := ⟨id, fun l => List.Perm.refl l⟩

end Store

section Histories

/-- The objects as they are, the store, and of which objects the kept view is. -/
structure World where
  gateway : Option GatewayObject
  sets : List ListenerSetObject
  nextUid : ℕ
  store : MergeViewStore
  built : Option Inputs

def World.initial : World := ⟨none, [], 0, .empty, none⟩

inductive Action where
  | createGateway (gateway : Gateway)
  | editGateway (gateway : Gateway)
  | deleteGateway
  | createSet (listenerSet : ListenerSet)
  | editSet (listenerSet : ListenerSet)
  | deleteSet (id : NamespacedName)
  | forget
  | resolve (cluster : Cluster) (order : ListOrder)

/-- A new spec under the old name; the creation time stays. -/
def ListenerSetObject.edit (old : ListenerSetObject) (listenerSet : ListenerSet) :
    ListenerSetObject :=
  if h : listenerSet.id = old.listenerSet.id then
    { listenerSet :=
        { listenerSet with creationTimestamp := old.listenerSet.creationTimestamp }
      uid := old.uid
      generation := old.generation + 1
      plain := fun c hc => h ▸ old.plain c hc }
  else old

def plainName (id : NamespacedName) : Prop := ∀ c ∈ separators, c ∉ id.key.toList

instance (id : NamespacedName) : Decidable (plainName id) :=
  List.decidableBAll (fun c => c ∉ id.key.toList) separators

/-- The inputs the kept view is of after a resolve. -/
def builtAfter (w : World) (gateway : GatewayObject) (listed : List ListenerSetObject) :
    Option Inputs :=
  if gatewayUsesNamespaceSelector gateway.gateway ∨
      Hits (w.store.entries gateway.gateway.id) (inputsOf gateway listed).fingerprint then w.built
  else some (inputsOf gateway listed)

/-- One event in the life of the Gateway `key` and the sets around it. -/
def step (key : NamespacedName) : Action → World → Option World
  | .createGateway gateway, w =>
      if w.gateway.isNone ∧ gateway.id = key then
        some { w with gateway := some ⟨gateway, w.nextUid, 1⟩, nextUid := w.nextUid + 1 }
      else none
  | .editGateway gateway, w => w.gateway.bind fun old =>
      if gateway.id = key then
        some { w with gateway := some ⟨gateway, old.uid, old.generation + 1⟩ }
      else none
  | .deleteGateway, w => some { w with gateway := none }
  | .createSet ls, w =>
      if h : plainName ls.id ∧ ls.id ∉ w.sets.map (·.listenerSet.id) then
        some { w with sets := ⟨ls, w.nextUid, 1, h.1⟩ :: w.sets, nextUid := w.nextUid + 1 }
      else none
  | .editSet ls, w => some { w with sets := w.sets.map (·.edit ls) }
  | .deleteSet id, w => some { w with sets := w.sets.filter (·.listenerSet.id ≠ id) }
  | .forget, w => some { w with store := w.store.forget key, built := none }
  | .resolve cluster order, w => w.gateway.map fun gateway =>
      { w with
        store := (w.store.resolve cluster gateway (order.arrange w.sets)).2
        built := builtAfter w gateway (order.arrange w.sets) }

/-- Of one object the old version is the new one, or it is of a lower
generation. -/
def Supersedes {O : Type} (uid generation : O → ℕ) (new old : O) : Prop :=
  uid old = uid new → generation old < generation new ∨ old = new

/-- The kept entry is the view of these inputs. -/
structure ViewOf (inputs : Inputs) (entry : Entry String GatewayListenerView) : Prop where
  mode : gatewayUsesNamespaceSelector inputs.gateway.gateway = false
  fingerprint : entry.fingerprint = inputs.fingerprint
  value : entry.value = plainView inputs.gateway.gateway inputs.sets

/-- What every history keeps true of the objects and of the kept view. -/
structure Inv (key : NamespacedName) (w : World) : Prop where
  gatewayId : ∀ g ∈ w.gateway, g.gateway.id = key
  gatewayUid : ∀ g ∈ w.gateway, g.uid < w.nextUid
  setUid : ∀ s ∈ w.sets, s.uid < w.nextUid
  ids : (w.sets.map (·.listenerSet.id)).Nodup
  uids : (w.sets.map ListenerSetObject.uid).Nodup
  kept : ∀ e ∈ w.store.entries key, ∃ i ∈ w.built, ViewOf i e
  builtIds : ∀ i ∈ w.built, (i.candidates.map (·.listenerSet.id)).Nodup
  builtGateway : ∀ i ∈ w.built, i.gateway.uid < w.nextUid ∧
    ∀ g ∈ w.gateway, Supersedes GatewayObject.uid GatewayObject.generation g i.gateway
  builtSets : ∀ i ∈ w.built, ∀ old ∈ i.candidates, old.uid < w.nextUid ∧
    ∀ s ∈ w.sets, Supersedes ListenerSetObject.uid ListenerSetObject.generation s old

theorem inv_initial (key : NamespacedName) : Inv key World.initial where
  gatewayId _ hg := nomatch hg
  gatewayUid _ hg := nomatch hg
  setUid _ hs := nomatch hs
  ids := List.nodup_nil
  uids := List.nodup_nil
  kept _ he := nomatch he
  builtIds _ hi := nomatch hi
  builtGateway _ hi := nomatch hi
  builtSets _ hi := nomatch hi

variable {key : NamespacedName} {w : World}

variable {gateway : GatewayObject} {nextUid : ℕ}

/-- A Gateway that is not older than any the kept view is of. -/
theorem Inv.withGateway (h : Inv key w) (hid : gateway.gateway.id = key)
    (hnext : w.nextUid ≤ nextUid) (huid : gateway.uid < nextUid) (hnew : ∀ i ∈ w.built,
      Supersedes GatewayObject.uid GatewayObject.generation gateway i.gateway) :
    Inv key { w with gateway := some gateway, nextUid := nextUid } where
  gatewayId g hg := by
    cases hg
    exact hid
  gatewayUid g hg := by
    cases hg
    exact huid
  setUid s hs := (h.setUid s hs).trans_le hnext
  ids := h.ids
  uids := h.uids
  kept := h.kept
  builtIds := h.builtIds
  builtGateway i hi := by
    refine ⟨(h.builtGateway i hi).1.trans_le hnext, ?_⟩
    intro g hg
    cases hg
    exact hnew i hi
  builtSets i hi old hold :=
    ⟨(h.builtSets i hi old hold).1.trans_le hnext, (h.builtSets i hi old hold).2⟩

/-- Sets that are not older than any the kept view is of. -/
theorem Inv.withSets (h : Inv key w) {sets : List ListenerSetObject} (hnext : w.nextUid ≤ nextUid)
    (huid : ∀ s ∈ sets, s.uid < nextUid) (hids : (sets.map (·.listenerSet.id)).Nodup)
    (huids : (sets.map ListenerSetObject.uid).Nodup)
    (hnew : ∀ i ∈ w.built, ∀ old ∈ i.candidates, ∀ s ∈ sets,
      Supersedes ListenerSetObject.uid ListenerSetObject.generation s old) :
    Inv key { w with sets := sets, nextUid := nextUid } where
  gatewayId := h.gatewayId
  gatewayUid g hg := (h.gatewayUid g hg).trans_le hnext
  setUid := huid
  ids := hids
  uids := huids
  kept := h.kept
  builtIds := h.builtIds
  builtGateway i hi := ⟨(h.builtGateway i hi).1.trans_le hnext, (h.builtGateway i hi).2⟩
  builtSets i hi old hold := ⟨(h.builtSets i hi old hold).1.trans_le hnext, hnew i hi old hold⟩

theorem inv_createGateway (h : Inv key w) {gateway : Gateway} (hid : gateway.id = key) :
    Inv key { w with gateway := some ⟨gateway, w.nextUid, 1⟩, nextUid := w.nextUid + 1 } := by
  refine h.withGateway hid (Nat.le_succ _) (Nat.lt_succ_self _) ?_
  intro i hi hsame
  have hlt := (h.builtGateway i hi).1
  have huid : i.gateway.uid = w.nextUid := hsame
  omega

theorem inv_editGateway (h : Inv key w) {gateway : Gateway} {old : GatewayObject}
    (hold : w.gateway = some old) (hid : gateway.id = key) :
    Inv key { w with gateway := some ⟨gateway, old.uid, old.generation + 1⟩ } := by
  refine h.withGateway hid le_rfl (h.gatewayUid old hold) ?_
  intro i hi hsame
  left
  show i.gateway.generation < old.generation + 1
  rcases (h.builtGateway i hi).2 old hold hsame with hlt | heq
  · omega
  · rw [heq]
    omega

theorem inv_createSet (h : Inv key w) {ls : ListenerSet} (hplain : plainName ls.id)
    (hfresh : ls.id ∉ w.sets.map (·.listenerSet.id)) :
    Inv key { w with
      sets := ⟨ls, w.nextUid, 1, hplain⟩ :: w.sets
      nextUid := w.nextUid + 1 } := by
  refine h.withSets (Nat.le_succ _) ?_ ?_ ?_ ?_
  · intro s hs
    rcases List.mem_cons.mp hs with rfl | hs
    · exact Nat.lt_succ_self _
    · exact Nat.lt_succ_of_lt (h.setUid s hs)
  · rw [List.map_cons, List.nodup_cons]
    exact ⟨hfresh, h.ids⟩
  · rw [List.map_cons, List.nodup_cons]
    refine ⟨?_, h.uids⟩
    intro hmem
    obtain ⟨s, hs, hsame⟩ := List.mem_map.mp hmem
    have hlt := h.setUid s hs
    have huid : s.uid = w.nextUid := hsame
    omega
  · intro i hi old hold s hs
    rcases List.mem_cons.mp hs with rfl | hs
    · intro hsame
      have hlt := (h.builtSets i hi old hold).1
      have huid : old.uid = w.nextUid := hsame
      omega
    · exact (h.builtSets i hi old hold).2 s hs

theorem edit_spec (old : ListenerSetObject) (ls : ListenerSet) :
    (old.edit ls).listenerSet.id = old.listenerSet.id ∧ (old.edit ls).uid = old.uid ∧
      (old.edit ls = old ∨ (old.edit ls).generation = old.generation + 1) := by
  unfold ListenerSetObject.edit
  split
  · rename_i hid
    exact ⟨hid, rfl, Or.inr rfl⟩
  · exact ⟨rfl, rfl, Or.inl rfl⟩

theorem inv_editSet (h : Inv key w) (ls : ListenerSet) :
    Inv key { w with sets := w.sets.map (·.edit ls) } := by
  refine h.withSets le_rfl ?_ ?_ ?_ ?_
  · intro s hs
    obtain ⟨before, hbefore, rfl⟩ := List.mem_map.mp hs
    rw [(edit_spec before ls).2.1]
    exact h.setUid before hbefore
  · have hsame : (w.sets.map (·.edit ls)).map (·.listenerSet.id) =
        w.sets.map (·.listenerSet.id) := by
      rw [List.map_map]
      exact List.map_congr_left fun s _ => (edit_spec s ls).1
    rw [hsame]
    exact h.ids
  · have hsame : (w.sets.map (·.edit ls)).map ListenerSetObject.uid =
        w.sets.map ListenerSetObject.uid := by
      rw [List.map_map]
      exact List.map_congr_left fun s _ => (edit_spec s ls).2.1
    rw [hsame]
    exact h.uids
  · intro i hi old hold s hs
    obtain ⟨before, hbefore, rfl⟩ := List.mem_map.mp hs
    intro hsame
    obtain ⟨-, huid, hedited⟩ := edit_spec before ls
    rw [huid] at hsame
    have hbuilt := (h.builtSets i hi old hold).2 before hbefore hsame
    rcases hedited with heq | hgeneration
    · rw [heq]
      exact hbuilt
    · left
      rcases hbuilt with hlt | heq
      · omega
      · rw [heq]
        omega

theorem inv_deleteSet (h : Inv key w) (id : NamespacedName) :
    Inv key { w with sets := w.sets.filter (·.listenerSet.id ≠ id) } := by
  refine h.withSets le_rfl ?_ (h.ids.sublist (List.filter_sublist.map _))
    (h.uids.sublist (List.filter_sublist.map _)) ?_
  · intro s hs
    exact h.setUid s (List.mem_filter.mp hs).1
  · intro i hi old hold s hs
    exact (h.builtSets i hi old hold).2 s (List.mem_filter.mp hs).1

/-- The inputs of a resolve are current objects. -/
theorem inputs_current (h : Inv key w) (order : ListOrder) :
    ((inputsOf gateway (order.arrange w.sets)).candidates.map (·.listenerSet.id)).Nodup ∧
      ∀ s ∈ (inputsOf gateway (order.arrange w.sets)).candidates, s ∈ w.sets := by
  have hperm := order.perm w.sets
  refine ⟨?_, ?_⟩
  · have hnodup : ((order.arrange w.sets).map (·.listenerSet.id)).Nodup :=
      (hperm.map _).nodup_iff.mpr h.ids
    exact hnodup.sublist (List.filter_sublist.map _)
  · intro s hs
    exact hperm.mem_iff.mp (List.mem_filter.mp hs).1

theorem inv_resolve (h : Inv key w) (hgateway : w.gateway = some gateway) (cluster : Cluster)
    (order : ListOrder) :
    Inv key { w with
      store := (w.store.resolve cluster gateway (order.arrange w.sets)).2
      built := builtAfter w gateway (order.arrange w.sets) } := by
  have hid := h.gatewayId gateway hgateway
  cases hmode : gatewayUsesNamespaceSelector gateway.gateway with
  | true =>
    simp only [resolve_of_selector cluster hmode, builtAfter, hmode]
    exact h
  | false =>
    by_cases hhits : Hits (w.store.entries gateway.gateway.id)
        (inputsOf gateway (order.arrange w.sets)).fingerprint
    · obtain ⟨e, -, -, hresolve⟩ := resolve_of_hit cluster hmode hhits
      simp only [hresolve, builtAfter, hhits, or_true]
      exact h
    · obtain ⟨hids, hcurrent⟩ := inputs_current h order
      simp only [resolve_of_miss cluster hmode hhits, builtAfter, hmode, hhits]
      exact {
        gatewayId := h.gatewayId
        gatewayUid := h.gatewayUid
        setUid := h.setUid
        ids := h.ids
        uids := h.uids
        kept := by
          intro e he
          simp only [hid, MergeViewStore.set, Option.mem_def, Function.update_self,
            Option.some.injEq] at he
          subst he
          exact ⟨_, rfl, hmode, rfl, rfl⟩
        builtIds := by
          intro i hi
          cases hi
          exact hids
        builtGateway := by
          intro i hi
          cases hi
          refine ⟨h.gatewayUid gateway hgateway, ?_⟩
          intro g hg _
          rw [hgateway] at hg
          cases hg
          exact Or.inr rfl
        builtSets := by
          intro i hi old hold
          cases hi
          refine ⟨h.setUid old (hcurrent old hold), ?_⟩
          intro s hs hsame
          exact Or.inr (List.inj_on_of_nodup_map h.uids (hcurrent old hold) hs hsame) }

theorem inv_step {a : Action} {w' : World} (h : Inv key w) (hstep : step key a w = some w') :
    Inv key w' := by
  cases a with
  | createGateway gateway =>
    simp only [step, Option.ite_none_right_eq_some, Option.some.injEq] at hstep
    obtain ⟨⟨-, hid⟩, rfl⟩ := hstep
    exact inv_createGateway h hid
  | editGateway gateway =>
    simp only [step, Option.bind_eq_some_iff, Option.ite_none_right_eq_some,
      Option.some.injEq] at hstep
    obtain ⟨old, hold, hid, rfl⟩ := hstep
    exact inv_editGateway h hold hid
  | deleteGateway =>
    cases hstep
    exact { h with
      gatewayId := fun _ hg => nomatch hg
      gatewayUid := fun _ hg => nomatch hg
      builtGateway := fun i hi => ⟨(h.builtGateway i hi).1, fun _ hg => nomatch hg⟩ }
  | createSet ls =>
    simp only [step] at hstep
    split at hstep
    · rename_i hnew
      cases hstep
      exact inv_createSet h hnew.1 hnew.2
    · cases hstep
  | editSet ls =>
    cases hstep
    exact inv_editSet h ls
  | deleteSet id =>
    cases hstep
    exact inv_deleteSet h id
  | forget =>
    cases hstep
    exact {
      h with
      kept := fun e he => by simp [MergeViewStore.forget, MergeViewStore.set] at he
      builtIds := nofun
      builtGateway := nofun
      builtSets := nofun }
  | resolve cluster order =>
    obtain ⟨gateway, hgateway, rfl⟩ := Option.map_eq_some_iff.mp hstep
    exact inv_resolve h hgateway cluster order

end Histories

section Soundness

variable {key : NamespacedName} {w : World}

/-- What the fingerprint takes for the same object is the same object: the kept
view is not of another Gateway with the same generation, nor of another ListenerSet
with the same name, generation and creation time. -/
structure Identifies (w : World) (gateway : GatewayObject) : Prop where
  gateway : ∀ i ∈ w.built, i.gateway.generation = gateway.generation → i.gateway.uid = gateway.uid
  sets : ∀ i ∈ w.built, ∀ old ∈ i.candidates, ∀ s ∈ w.sets,
    old.listenerSet.id = s.listenerSet.id → old.generation = s.generation →
    old.listenerSet.creationTimestamp = s.listenerSet.creationTimestamp → old.uid = s.uid

theorem SameOutcome.refl (outcome : Except String GatewayListenerView) :
    SameOutcome outcome outcome := by
  cases outcome with
  | error err => exact rfl
  | ok view => exact ⟨List.Perm.refl _, rfl⟩

/-- With equal fingerprints the kept view is of the current objects. -/
theorem inputs_eq_of_fingerprint (h : Inv key w) {gateway : GatewayObject}
    (hgateway : w.gateway = some gateway) (hident : Identifies w gateway) (order : ListOrder)
    {i : Inputs} (hi : w.built = some i)
    (hsame : i.fingerprint = (inputsOf gateway (order.arrange w.sets)).fingerprint) :
    i.gateway = gateway ∧
      i.candidates.Perm (inputsOf gateway (order.arrange w.sets)).candidates := by
  obtain ⟨hgeneration, hkeys⟩ := mergeViewFingerprint_inj hsame
  obtain ⟨hids, hcurrent⟩ := inputs_current h order
  refine ⟨?_, ?_⟩
  · have huid := hident.gateway i hi hgeneration
    rcases (h.builtGateway i hi).2 gateway hgateway huid with hlt | heq
    · exact absurd hgeneration (Nat.ne_of_lt hlt)
    · exact heq
  · have hmatch : ∀ old ∈ i.candidates, ∀ s ∈ w.sets, candidateKey old = candidateKey s →
        old = s := by
      intro old hold s hs hkey
      obtain ⟨hid, hgen, hcreated⟩ := candidateKey_inj hkey
      have huid := hident.sets i hi old hold s hs hid hgen hcreated
      rcases (h.builtSets i hi old hold).2 s hs huid with hlt | heq
      · exact absurd hgen (Nat.ne_of_lt hlt)
      · exact heq
    rw [List.perm_ext_iff_of_nodup (h.builtIds i hi).of_map hids.of_map]
    intro s
    constructor
    · intro hs
      obtain ⟨s', hs', hkey⟩ :=
        List.mem_map.mp (hkeys.mem_iff.mp (List.mem_map_of_mem hs))
      rw [hmatch s hs s' (hcurrent s' hs') hkey.symm]
      exact hs'
    · intro hs
      obtain ⟨old, hold, hkey⟩ :=
        List.mem_map.mp (hkeys.mem_iff.mpr (List.mem_map_of_mem hs))
      rw [← hmatch old hold s (hcurrent s hs) hkey]
      exact hold

/-- A resolve returns the view of the current objects as long as the fingerprint
identifies them. -/
theorem resolve_same (h : Inv key w) {gateway : GatewayObject}
    (hgateway : w.gateway = some gateway) (hident : Identifies w gateway) (cluster : Cluster)
    (order : ListOrder) :
    SameOutcome (w.store.resolve cluster gateway (order.arrange w.sets)).1
      (freshView cluster gateway (order.arrange w.sets)) := by
  cases hmode : gatewayUsesNamespaceSelector gateway.gateway with
  | true =>
    rw [resolve_of_selector cluster hmode]
    exact SameOutcome.refl _
  | false =>
    have hfresh : freshView cluster gateway (order.arrange w.sets) =
        .ok (plainView gateway.gateway (inputsOf gateway (order.arrange w.sets)).sets) :=
      viewFromCandidates_eq cluster hmode _
    rw [hfresh]
    by_cases hhits : Hits (w.store.entries gateway.gateway.id)
        (inputsOf gateway (order.arrange w.sets)).fingerprint
    · obtain ⟨e, he, hsame, hresolve⟩ := resolve_of_hit cluster hmode hhits
      rw [hresolve]
      rw [h.gatewayId gateway hgateway] at he
      obtain ⟨i, hi, hview⟩ := h.kept e he
      have hprint := hview.fingerprint.symm.trans hsame
      obtain ⟨hsamegateway, hperm⟩ :=
        inputs_eq_of_fingerprint h hgateway hident order hi hprint
      show e.value.Same _
      rw [hview.value, hsamegateway]
      refine plainView_same ?_ (hperm.map _)
      rw [Inputs.sets, List.map_map]
      exact h.builtIds i hi
    · rw [resolve_of_miss cluster hmode hhits]
      exact SameOutcome.refl (.ok _)

/-- In every history a resolve is right as long as the fingerprint identifies the
objects the kept view is of. -/
theorem resolve_sound {w : World} (hrun : Exec (step key) Unguarded World.initial w)
    {gateway : GatewayObject} (hgateway : w.gateway = some gateway)
    (hident : Identifies w gateway) (cluster : Cluster) (order : ListOrder) :
    SameOutcome (w.store.resolve cluster gateway (order.arrange w.sets)).1
      (freshView cluster gateway (order.arrange w.sets)) :=
  resolve_same (hrun.invariant (fun _ _ _ h _ hstep => inv_step h hstep) (inv_initial key))
    hgateway hident cluster order

end Soundness

section Examples

def edgeKey : NamespacedName := .of "apps" "edge"

/-- A Gateway with one listener that every ListenerSet may attach to. -/
def edgeWith (listener : String) : Gateway :=
  { Gateway.withListener edgeKey "cloudflare" ⟨listener, none, 80, .http, none⟩ none with
    allowedListeners := some ⟨some .all, none⟩ }

/-- Created in the fifth second. -/
def extraWith (listener : String) : ListenerSet :=
  setWith "extra" 5 ⟨listener, none, 8080, .http, none⟩

def noOthers : Cluster := ⟨[], [], [], [], fun _ => none⟩

/-- The listeners of the resolved view and of a fresh one after a history. -/
def listenersAfter (history : List Action) : Option (List String × List String) :=
  (execute (step edgeKey) history World.initial).bind fun w => w.gateway.bind fun gateway =>
    match (w.store.resolve noOthers gateway w.sets).1, freshView noOthers gateway w.sets with
    | .ok resolved, .ok fresh =>
        some (resolved.merged.map (·.listener.name), fresh.merged.map (·.listener.name))
    | _, _ => none

/-- A Gateway, or a ListenerSet within one second, that is deleted and created
again between two resolves: both are of generation one, and the view of the first
is served for the second. -/
theorem recreated_objects_stale :
    listenersAfter [.createGateway (edgeWith "old"), .resolve noOthers .asStored, .deleteGateway,
      .createGateway (edgeWith "new")] = some (["old"], ["new"]) ∧
    listenersAfter [.createGateway (edgeWith "web"), .createSet (extraWith "old"),
      .resolve noOthers .asStored, .deleteSet (extraWith "old").id,
      .createSet (extraWith "new")] = some (["web", "old"], ["web", "new"]) := by
  decide +kernel

/-- After an edit of the Gateway. -/
def edited : World :=
  (execute (step edgeKey) [.createGateway (edgeWith "old"), .resolve noOthers .asStored,
    .editGateway (edgeWith "new")] World.initial).getD World.initial

theorem edited_resolve_sound :
    Identifies edited ⟨edgeWith "new", 0, 2⟩ ∧
    SameOutcome (edited.store.resolve noOthers ⟨edgeWith "new", 0, 2⟩ edited.sets).1
      (freshView noOthers ⟨edgeWith "new", 0, 2⟩ edited.sets) := by
  have hexecute : execute (step edgeKey) [.createGateway (edgeWith "old"),
      .resolve noOthers .asStored, .editGateway (edgeWith "new")] World.initial =
        some edited := rfl
  have hbuilt : edited.built = some ⟨⟨edgeWith "old", 0, 1⟩, []⟩ := rfl
  have hident : Identifies edited ⟨edgeWith "new", 0, 2⟩ := by
    refine ⟨?_, ?_⟩
    · intro i hi hgeneration
      rw [Option.mem_def, hbuilt] at hi
      cases hi
      cases hgeneration
    · intro i _ old _ s hs
      have hsets : edited.sets = [] := rfl
      rw [hsets] at hs
      cases hs
  exact ⟨hident, resolve_sound (exec_of_execute hexecute) rfl hident noOthers .asStored⟩

end Examples

end TunnelGateway.ListenerView
