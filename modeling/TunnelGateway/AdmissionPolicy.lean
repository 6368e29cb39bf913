import TunnelGateway.HostnameOwnership

/-!
The hostname-ownership policy is enforced twice: by the controller, and before
it by an admission policy whose validations are CEL expressions over the route
and its namespace. The two layers decide alike on ASCII text. An object without
labels or hostnames lacks the field, and an operand that reads a missing field
stands behind a guard. `startsWith` and `endsWith` are Go's tests.
-/
namespace TunnelGateway.AdmissionPolicy

open GoText HostnameOwnership

section Expressions

/-- CEL's `lowerAscii` lowers the letters of ASCII and keeps every other character. -/
def lowerAscii (s : String) : String := String.ofList (s.toList.map Char.toLower)

/-- CEL's `substring`; a start beyond the end is an error. -/
def substring (s : String) (start : ℕ) : Option String :=
  if start ≤ s.toList.length then some (String.ofList (s.toList.drop start)) else none

/-- Variable `suffix` of the policy, for the configured label key. -/
def suffixVariable (labelKey : String) (labels : Option (List (String × String))) : String :=
  match labels with
  | none => ""
  | some entries =>
      match entries.lookup labelKey with
      | none => ""
      | some value => lowerAscii value

/-- A policed namespace carries the label. -/
def labelValidation (suffix : String) : Bool := suffix != ""

/-- A route declares hostnames. -/
def hostnamesValidation (hostnames : Option (List String)) : Bool :=
  hostnames.isSome && hostnames.any fun names => decide (0 < names.length)

def stripped (h : String) : Option String :=
  if hasPrefix (lowerAscii h) "*." then substring (lowerAscii h) 2 else some (lowerAscii h)

/-- Every hostname is the suffix or lies below it; an error is not a pass. -/
def ownershipValidation (suffix : String) (hostnames : Option (List String)) : Bool :=
  suffix == "" || hostnames.isNone ||
    hostnames.any (·.all fun h =>
      stripped h == some suffix || (stripped h).any (hasSuffix · ("." ++ suffix)))

def admits (labelKey : String) (labels : Option (List (String × String)))
    (hostnames : Option (List String)) : Bool :=
  let suffix := suffixVariable labelKey labels
  labelValidation suffix && hostnamesValidation hostnames && ownershipValidation suffix hostnames

end Expressions

section Agreement

def Ascii (s : String) : Prop := ∀ c ∈ s.toList, c.toNat < 128

instance (s : String) : Decidable (Ascii s) := List.decidableBAll _ s.toList

variable {lib : GoLib} {policy : Policy} {labels : Option (List (String × String))}
  {hostnames : Option (List String)}

theorem toLower_eq_lowerAscii {s : String} (h : Ascii s) : toLower lib s = lowerAscii s := by
  have hmap : s.toList.map lib.lowerRune = s.toList.map Char.toLower :=
    List.map_congr_left fun c hc => lib.lowerRune_ascii c (h c hc)
  rw [toLower, lowerAscii, hmap]

theorem stripped_eq (h : String) : stripped h = some (trimPrefix (lowerAscii h) "*.") := by
  unfold stripped trimPrefix
  split
  · rename_i hwild
    have hlength : 2 ≤ (lowerAscii h).toList.length :=
      (List.isPrefixOf_iff_prefix.mp hwild).length_le
    rw [substring, if_pos hlength]
    rfl
  · rfl

theorem suffix_eq_suffixVariable
    (h : ∀ value, (labels.getD []).lookup policy.labelKey = some value → Ascii value) :
    policy.suffix lib (labels.getD []) = suffixVariable policy.labelKey labels := by
  unfold Policy.suffix suffixVariable
  cases labels with
  | none => rfl
  | some entries =>
    cases hvalue : entries.lookup policy.labelKey with
    | none => simp [hvalue, toLower]
    | some value =>
      simp only [Option.getD_some, hvalue]
      exact toLower_eq_lowerAscii (h value hvalue)

/-- The controller allows a route of a policed namespace exactly if the three validations of
the admission policy hold. -/
theorem evaluate_allowed_iff_admits (lib : GoLib) (policy : Policy)
    (labels : Option (List (String × String))) (hostnames : Option (List String))
    (hpoliced : policy.polices (labels.getD []) = true)
    (hlabel : ∀ value, (labels.getD []).lookup policy.labelKey = some value → Ascii value)
    (hnames : ∀ name ∈ hostnames.getD [], Ascii name) :
    (policy.evaluate lib (labels.getD []) (hostnames.getD [])).allowed = true ↔
      admits policy.labelKey labels hostnames = true := by
  rw [Policy.evaluate_allowed_iff lib policy hpoliced, suffix_eq_suffixVariable hlabel, admits,
    Bool.and_eq_true, Bool.and_eq_true, and_assoc, labelValidation, bne_iff_ne]
  refine and_congr_right fun hsuffix => ?_
  cases hostnames with
  | none => simp [hostnamesValidation]
  | some names =>
    have hguard : (suffixVariable policy.labelKey labels == "") = false := by simpa using hsuffix
    have hall : (∀ name ∈ names,
        hostnameWithinSuffix lib name (suffixVariable policy.labelKey labels) = true) ↔
          ownershipValidation (suffixVariable policy.labelKey labels) (some names) = true := by
      simp only [ownershipValidation, hguard, Option.isNone_some, Bool.or_self, Bool.false_or,
        Option.any_some, List.all_eq_true]
      refine forall₂_congr fun name hname => ?_
      rw [stripped_eq, hostnameWithinSuffix, toLower_eq_lowerAscii (hnames name hname)]
      simp [beq_eq_decide]
    have hnonempty : names ≠ [] ↔ hostnamesValidation (some names) = true := by
      simp [hostnamesValidation, List.length_pos_iff]
    exact and_congr hnonempty hall

theorem evaluate_allowed_iff_admits_mixed_case :
    let policy : Policy := { labelKey := "owner", selector := none }
    let labels := some [("team", "web"), ("owner", "Shop.Example")]
    (policy.evaluate GoLib.literal (labels.getD []) ["*.SHOP.example"]).allowed = true ∧
      admits "owner" labels (some ["*.SHOP.example"]) = true := by
  intro policy labels
  have hagree := evaluate_allowed_iff_admits GoLib.literal policy labels
    (some ["*.SHOP.example"]) rfl (by decide) (by decide)
  have hallowed : (policy.evaluate GoLib.literal (labels.getD []) ["*.SHOP.example"]).allowed =
      true := by decide
  exact ⟨hallowed, hagree.mp hallowed⟩

end Agreement

end TunnelGateway.AdmissionPolicy
