import Mathlib.Data.List.Basic
import Mathlib.Order.Defs.Unbundled

/-!
A stored object with optimistic concurrency. Every write raises the resource
version; an update names the version it was computed from and is refused unless
that is the current one. A reader may be handed any version the object ever had.
-/
namespace TunnelGateway.VersionedStore

variable {α : Type*}

structure Versioned (α : Type*) where
  resourceVersion : ℕ
  value : α

/-- Every version of the object, the current one first. -/
structure Store (α : Type*) where
  current : Versioned α
  past : List (Versioned α)
  newestFirst : (current :: past).Pairwise fun newer older =>
    older.resourceVersion < newer.resourceVersion

namespace Store

def create (value : α) : Store α := ⟨⟨1, value⟩, [], List.pairwise_singleton _ _⟩

def history (s : Store α) : List (Versioned α) := s.current :: s.past

def put (s : Store α) (value : α) : Store α where
  current := ⟨s.current.resourceVersion + 1, value⟩
  past := s.history
  newestFirst := by
    refine List.pairwise_cons.mpr ⟨?_, s.newestFirst⟩
    intro older holder
    rcases List.mem_cons.mp holder with rfl | hpast
    · exact Nat.lt_succ_self _
    · exact Nat.lt_succ_of_lt (List.rel_of_pairwise_cons s.newestFirst hpast)

/-- The update of a version that was read before; `none` is a conflict. -/
def update (s : Store α) (read : Versioned α) (value : α) : Option (Store α) :=
  if read.resourceVersion = s.current.resourceVersion then some (s.put value) else none

/-- An update that goes through replaces the very version it was computed from. -/
theorem of_update {s s' : Store α} {read : Versioned α} {value : α} (hread : read ∈ s.history)
    (h : s.update read value = some s') : read = s.current ∧ s' = s.put value := by
  simp only [update, Option.ite_none_right_eq_some, Option.some.injEq] at h
  obtain ⟨hversion, rfl⟩ := h
  refine ⟨?_, rfl⟩
  rcases List.mem_cons.mp hread with hcurrent | hpast
  · exact hcurrent
  · have hlt := List.rel_of_pairwise_cons s.newestFirst hpast
    omega

/-- The relation holds from every version to every earlier one. -/
def Along (r : α → α → Prop) (s : Store α) : Prop :=
  s.history.Pairwise fun newer older => r newer.value older.value

variable {r : α → α → Prop}

theorem along_create (r : α → α → Prop) (value : α) : Along r (create value) :=
  List.pairwise_singleton _ _

theorem Along.of_mem [Std.Refl r] {s : Store α} (h : Along r s) {v : Versioned α}
    (hv : v ∈ s.history) : r s.current.value v.value := by
  rcases List.mem_cons.mp hv with rfl | hpast
  · exact Std.Refl.refl _
  · exact List.rel_of_pairwise_cons h hpast

theorem Along.put [IsPreorder α r] {s : Store α} (h : Along r s) {value : α}
    (hvalue : r value s.current.value) : Along r (s.put value) := by
  refine List.pairwise_cons.mpr ⟨?_, h⟩
  intro older holder
  exact IsTrans.trans _ _ _ hvalue (h.of_mem holder)

end Store

end TunnelGateway.VersionedStore
