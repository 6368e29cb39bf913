import TunnelGateway.GatewayApi
import TunnelGateway.HexDigest
import TunnelGateway.SeparatedText
import TunnelGateway.UrlEncoding

/-!
Names of the resources rendered for a Gateway. A name that is not a DNS label, or
that looks like a shortened one, is cut and gets the first digits of its digest
for a tail. A kept name and a shortened one never coincide, so two Gateways of a
namespace share a name only if their digests collide.
-/
namespace TunnelGateway.RenderedNames

open GoText Hostname GatewayApi HexDigest

section Names

variable (lib : GoLib) (digest : Digest)

def maxDNSLabelLength : ℕ := 63

def nameHashLength : ℕ := 8

def isLabelChar (c : Char) : Bool := isLowerAlnum c || c == '-'

def sanitizeDNSLabel (name : String) : List Char :=
  (toLower lib name).toList.map fun c => if isLabelChar c then c else '-'

def isAlphanumericEdged (name : List Char) : Bool :=
  name.head?.any isLowerAlnum && name.getLast?.any isLowerAlnum

def hasHashSuffixShape (name : List Char) : Bool :=
  if name.length < nameHashLength + 1 ∨ name[name.length - nameHashLength - 1]? ≠ some '-' then
    false
  else (name.drop (name.length - nameHashLength)).all isHex

/-- The test of the first branch. A name that is its own sanitised form is ASCII, so that its
bytes are its characters. -/
def passesThrough (name : String) : Bool :=
  sanitizeDNSLabel lib name == name.toList && name.toList.length ≤ maxDNSLabelLength &&
    isAlphanumericEdged name.toList && !hasHashSuffixShape name.toList

def nameHash (name : String) : List Char :=
  (hex (digest.sum (UrlEncoding.utf8 name))).take nameHashLength

def truncateName (name : String) : String :=
  if passesThrough lib name then name
  else
    let sanitized := sanitizeDNSLabel lib name
    let suffix := nameHash digest name
    let keep := min sanitized.length (maxDNSLabelLength - nameHashLength - 1)
    let body := SeparatedText.trim (· == '-') (sanitized.take keep)
    if body = [] then String.ofList suffix else String.ofList (body ++ '-' :: suffix)

def namePrefix : String := "cf-proxy-"

def configNameSuffix : String := "-config"

def netpolNameSuffix : String := "-netpol"

def deploymentName (gateway : NamespacedName) : String :=
  truncateName lib digest (namePrefix ++ gateway.name)

def configServiceName (gateway : NamespacedName) : String :=
  truncateName lib digest (namePrefix ++ gateway.name ++ configNameSuffix)

def networkPolicyName (gateway : NamespacedName) : String :=
  truncateName lib digest (namePrefix ++ gateway.name ++ netpolNameSuffix)

def generatedAuthSecretName (gateway : NamespacedName) : String :=
  truncateName lib digest (namePrefix ++ gateway.name ++ "-auth")

def gatewayLabelValue (gatewayName : String) : String := truncateName lib digest gatewayName

/-- The Gateways of the cluster in the order they are listed; the first of the namespace whose
label value is the given one. -/
def partitionKeyForLabel (gateways : List NamespacedName) (ns labelValue : String) :
    Option String :=
  ((gateways.filter (·.ns = ns)).find? fun gateway =>
    gatewayLabelValue lib digest gateway.name = labelValue).map fun gateway =>
      ns ++ "/" ++ gateway.name

end Names

section Labels

/-- A DNS-1123 label: letters, digits and inner hyphens. -/
structure IsDNSLabel (name : List Char) : Prop where
  chars : ∀ c ∈ name, isLabelChar c = true
  edged : isAlphanumericEdged name = true
  length_le : name.length ≤ maxDNSLabelLength

/-- A DNS-1123 subdomain, what a Gateway may be called. -/
def IsDNSSubdomain (name : String) : Prop :=
  acceptsName .start name.toList = true ∧ name.toList.length ≤ 253

instance (name : String) : Decidable (IsDNSSubdomain name) :=
  inferInstanceAs (Decidable (_ ∧ _))

/-- The text begins with a letter or digit. -/
def Starts (name : String) : Prop := ∃ c rest, name.toList = c :: rest ∧ isLowerAlnum c = true

variable {lib : GoLib} {digest : Digest} {name : String}

theorem isLabelChar_of_isLowerAlnum {c : Char} (h : isLowerAlnum c = true) :
    isLabelChar c = true := by
  rw [isLabelChar, h, Bool.true_or]

theorem isLowerAlnum_of_isHex {c : Char} (h : isHex c = true) : isLowerAlnum c = true := by
  simp only [isHex, Bool.or_eq_true, Bool.and_eq_true, decide_eq_true_eq, Char.le_def,
    UInt32.le_iff_toNat_le] at h
  have hlower : c.isLower = (decide (c.val ≥ 'a'.val) && decide (c.val ≤ 'z'.val)) := rfl
  simp only [isLowerAlnum, hlower, Char.isDigit, Bool.or_eq_true, Bool.and_eq_true,
    decide_eq_true_eq, UInt32.le_iff_toNat_le]
  have hf : 'f'.val.toNat = 102 := rfl
  have hz : 'z'.val.toNat = 122 := rfl
  omega

theorem isLabelChar_sanitizeDNSLabel {c : Char} (h : c ∈ sanitizeDNSLabel lib name) :
    isLabelChar c = true := by
  obtain ⟨d, -, rfl⟩ := List.mem_map.mp h
  split
  · assumption
  · rfl

theorem sanitizeDNSLabel_cons {c : Char} {rest : List Char} (hname : name.toList = c :: rest)
    (hc : isLowerAlnum c = true) : ∃ tail, sanitizeDNSLabel lib name = c :: tail := by
  obtain ⟨hascii, hupper⟩ := ascii_of_hostname_char (Or.inl hc)
  have hlower := lowerRune_of_not_isUpper lib hascii hupper
  rw [sanitizeDNSLabel, toList_toLower, hname, List.map_cons, List.map_cons, hlower,
    if_pos (isLabelChar_of_isLowerAlnum hc)]
  exact ⟨_, rfl⟩

theorem length_nameHash (digest : Digest) (name : String) :
    (nameHash digest name).length = nameHashLength := by
  rw [nameHash, List.length_take, length_hex, digest.length_sum]
  rfl

theorem isHex_nameHash {c : Char} (h : c ∈ nameHash digest name) : isHex c = true :=
  isHex_of_mem_hex (List.mem_of_mem_take h)

/-- What becomes of a name that is not kept: a part of it that begins as it does, and the
digits. -/
theorem truncateName_shortened (digest : Digest) (hstart : Starts name)
    (hpass : passesThrough lib name = false) :
    ∃ c tail, truncateName lib digest name =
        String.ofList (c :: tail ++ '-' :: nameHash digest name) ∧
      isLowerAlnum c = true ∧ (∀ d ∈ tail, isLabelChar d = true) ∧ tail.length + 1 ≤ 54 := by
  obtain ⟨c, rest, hname, hc⟩ := hstart
  obtain ⟨tail, hsanitized⟩ : ∃ tail, sanitizeDNSLabel lib name = c :: tail :=
    sanitizeDNSLabel_cons hname hc
  have hdash : (fun d : Char => d == '-') c = false := by
    rw [beq_eq_false_iff_ne]
    rintro rfl
    exact nomatch hc
  obtain ⟨kept, hkept, hpre⟩ :
      ∃ kept, SeparatedText.trim (· == '-') (c :: tail.take 53) = c :: kept ∧
        kept <+: tail.take 53 :=
    SeparatedText.trim_cons_of_not_blank (c := c) hdash _
  have hmin : (c :: tail).take (min (c :: tail).length (maxDNSLabelLength - nameHashLength - 1)) =
      c :: tail.take 53 := by
    change _ = (c :: tail).take 54
    rw [List.take_eq_take_iff]
    unfold maxDNSLabelLength nameHashLength
    omega
  refine ⟨c, kept, ?_, hc, ?_, ?_⟩
  · simp only [truncateName, hpass, hsanitized, hmin, hkept]
    simp
  · intro d hd
    have hmem : d ∈ sanitizeDNSLabel lib name := by
      rw [hsanitized]
      exact List.mem_cons_of_mem _ (List.mem_of_mem_take (hpre.subset hd))
    exact isLabelChar_sanitizeDNSLabel hmem
  · have hlen := hpre.length_le
    rw [List.length_take] at hlen
    omega

theorem isDNSLabel_of_passesThrough (h : passesThrough lib name = true) :
    IsDNSLabel name.toList := by
  simp only [passesThrough, Bool.and_eq_true, beq_iff_eq, decide_eq_true_eq] at h
  obtain ⟨⟨⟨hsanitized, hlength⟩, hedged⟩, -⟩ := h
  refine ⟨?_, hedged, hlength⟩
  intro c hc
  rw [← hsanitized] at hc
  exact isLabelChar_sanitizeDNSLabel hc

/-- The rendered name is a label whatever the name was. -/
theorem isDNSLabel_truncateName (hstart : Starts name) :
    IsDNSLabel (truncateName lib digest name).toList := by
  cases hpass : passesThrough lib name with
  | true =>
    rw [truncateName, if_pos hpass]
    exact isDNSLabel_of_passesThrough hpass
  | false =>
    obtain ⟨c, tail, hname, hc, htail, hlength⟩ := truncateName_shortened digest hstart hpass
    have hhash := length_nameHash digest name
    have halnum : ∀ d ∈ nameHash digest name, isLowerAlnum d = true :=
      fun d hd => isLowerAlnum_of_isHex (isHex_nameHash hd)
    rw [hname, String.toList_ofList]
    refine ⟨?_, ?_, ?_⟩
    · intro d hd
      rw [List.mem_append, List.mem_cons, List.mem_cons] at hd
      rcases hd with (rfl | hd) | rfl | hd
      · exact isLabelChar_of_isLowerAlnum hc
      · exact htail d hd
      · rfl
      · exact isLabelChar_of_isLowerAlnum (halnum d hd)
    · have hne : nameHash digest name ≠ [] := by
        intro hnil
        rw [hnil] at hhash
        exact nomatch hhash
      have hlast : (c :: tail ++ '-' :: nameHash digest name).getLast? =
          some ((nameHash digest name).getLast hne) := by
        rw [List.getLast?_append_of_ne_nil _ (List.cons_ne_nil _ _),
          List.getLast?_cons_of_ne_nil hne, List.getLast?_eq_some_getLast hne]
      rw [isAlphanumericEdged, hlast]
      simp [hc, halnum _ (List.getLast_mem hne)]
    · rw [List.length_append, List.length_cons, List.length_cons, hhash]
      unfold maxDNSLabelLength nameHashLength
      omega

/-- A shortened name has the shape that a kept name must not have. -/
theorem hasHashSuffixShape_append (body : List Char) {tail : List Char}
    (hlength : tail.length = nameHashLength) (htail : ∀ c ∈ tail, isHex c = true) :
    hasHashSuffixShape (body ++ '-' :: tail) = true := by
  have htotal : (body ++ '-' :: tail).length = body.length + 1 + nameHashLength := by
    rw [List.length_append, List.length_cons]
    omega
  have hdash : (body ++ '-' :: tail)[body.length]? = some '-' := by simp
  have hdrop : (body ++ '-' :: tail).drop (body.length + 1) = tail := by
    simp
  unfold hasHashSuffixShape
  rw [htotal, Nat.add_sub_cancel, if_neg, hdrop, List.all_eq_true]
  · exact htail
  · rw [not_or, not_not]
    exact ⟨by omega, hdash⟩

variable {other : String}

theorem truncateName_inj (hstart : Starts name) (hstart' : Starts other)
    (hfree : passesThrough lib name = false → passesThrough lib other = false →
      nameHash digest name = nameHash digest other → name = other)
    (h : truncateName lib digest name = truncateName lib digest other) : name = other := by
  have hdisjoint : ∀ {a b : String}, Starts b → passesThrough lib a = true →
      passesThrough lib b = false → truncateName lib digest a ≠ truncateName lib digest b := by
    intro a b hb hpassA hpassB heq
    obtain ⟨c, tail, hname, -⟩ := truncateName_shortened digest hb hpassB
    rw [truncateName, if_pos hpassA, hname] at heq
    have hshape := hasHashSuffixShape_append (c :: tail) (length_nameHash digest b)
      fun d hd => isHex_nameHash hd
    have hlist : a.toList = c :: tail ++ '-' :: nameHash digest b := by
      rw [heq, String.toList_ofList]
    rw [← hlist] at hshape
    simp [passesThrough, hshape] at hpassA
  cases hpass : passesThrough lib name with
  | true =>
    cases hpass' : passesThrough lib other with
    | true => simpa only [truncateName, hpass, hpass', if_true] using h
    | false => exact absurd h (hdisjoint hstart' hpass hpass')
  | false =>
    cases hpass' : passesThrough lib other with
    | true => exact absurd h.symm (hdisjoint hstart hpass' hpass)
    | false =>
      obtain ⟨c, tail, hname, -⟩ := truncateName_shortened digest hstart hpass
      obtain ⟨c', tail', hname', -⟩ := truncateName_shortened digest hstart' hpass'
      rw [hname, hname'] at h
      have htails := List.append_inj_right' (String.ofList_inj.mp h) (by
        rw [List.length_cons, List.length_cons, length_nameHash, length_nameHash])
      exact hfree hpass hpass' (List.cons.inj htails).2

end Labels

section Gateways

variable (lib : GoLib) (digest : Digest)

/-- What is named after a Gateway. -/
inductive Kind where
  | deployment
  | configService
  | networkPolicy
  | authSecret
  | gatewayLabel

def renderedName (kind : Kind) (gateway : NamespacedName) : String :=
  match kind with
  | .deployment => deploymentName lib digest gateway
  | .configService => configServiceName lib digest gateway
  | .networkPolicy => networkPolicyName lib digest gateway
  | .authSecret => generatedAuthSecretName lib digest gateway
  | .gatewayLabel => gatewayLabelValue lib digest gateway.name

/-- The text that is shortened for the name. -/
def Kind.front : Kind → String
  | .gatewayLabel => ""
  | _ => namePrefix

def Kind.back : Kind → String
  | .configService => configNameSuffix
  | .networkPolicy => netpolNameSuffix
  | .authSecret => "-auth"
  | _ => ""

def Kind.fullName (kind : Kind) (name : String) : String := kind.front ++ name ++ kind.back

/-- Two Gateways of a namespace that are shortened for some kind have different digits there. -/
def CollisionFree (gateways : List NamespacedName) : Prop :=
  ∀ g ∈ gateways, ∀ g' ∈ gateways, g.ns = g'.ns → ∀ kind : Kind,
    passesThrough lib (kind.fullName g.name) = false →
    passesThrough lib (kind.fullName g'.name) = false →
    nameHash digest (kind.fullName g.name) = nameHash digest (kind.fullName g'.name) →
      g.name = g'.name

instance {P : Kind → Prop} [DecidablePred P] : Decidable (∀ kind, P kind) :=
  decidable_of_iff (P .deployment ∧ P .configService ∧ P .networkPolicy ∧ P .authSecret ∧
    P .gatewayLabel)
    ⟨fun ⟨hd, hc, hn, ha, hl⟩ kind => match kind with
      | .deployment => hd
      | .configService => hc
      | .networkPolicy => hn
      | .authSecret => ha
      | .gatewayLabel => hl,
    fun h => ⟨h _, h _, h _, h _, h _⟩⟩

instance (gateways : List NamespacedName) : Decidable (CollisionFree lib digest gateways) :=
  List.decidableBAll _ gateways

variable {lib digest} {gateways : List NamespacedName}

theorem renderedName_eq (kind : Kind) (gateway : NamespacedName) :
    renderedName lib digest kind gateway = truncateName lib digest (kind.fullName gateway.name) := by
  cases kind with
  | deployment => simp [renderedName, deploymentName, Kind.fullName, Kind.front, Kind.back]
  | gatewayLabel => simp [renderedName, gatewayLabelValue, Kind.fullName, Kind.front, Kind.back]
  | _ => rfl

theorem starts_fullName {name : String} (h : IsDNSSubdomain name) (kind : Kind) :
    Starts (kind.fullName name) := by
  obtain ⟨c, rest, hname, hc⟩ := exists_head_of_acceptsName h.1
  have happ : (kind.fullName name).toList = kind.front.toList ++ (name.toList ++ kind.back.toList) := by
    simp [Kind.fullName]
  cases kind with
  | gatewayLabel =>
    rw [hname] at happ
    exact ⟨c, _, happ, hc⟩
  | _ => exact ⟨'c', _, happ, by decide⟩

theorem renderedName_inj (hvalid : ∀ g ∈ gateways, IsDNSSubdomain g.name)
    (hfree : CollisionFree lib digest gateways) {g g' : NamespacedName} (hg : g ∈ gateways)
    (hg' : g' ∈ gateways) (hns : g.ns = g'.ns) {kind : Kind}
    (h : renderedName lib digest kind g = renderedName lib digest kind g') : g = g' := by
  rw [renderedName_eq, renderedName_eq] at h
  have hfull := truncateName_inj (starts_fullName (hvalid g hg) kind)
    (starts_fullName (hvalid g' hg') kind)
    (fun hpass hpass' hhash => congrArg kind.fullName (hfree g hg g' hg' hns kind hpass hpass' hhash))
    h
  refine NamespacedName.ext hns (String.toList_inj.mp ?_)
  have hlist := congrArg String.toList hfull
  simpa only [Kind.fullName, String.toList_append, List.append_cancel_left_eq,
    List.append_cancel_right_eq] using hlist

/-- The scan finds the Gateway the label was made for, in every order of the listing. -/
theorem partitionKeyForLabel_gatewayLabelValue (hvalid : ∀ g ∈ gateways, IsDNSSubdomain g.name)
    (hfree : CollisionFree lib digest gateways) {g : NamespacedName} (hg : g ∈ gateways) :
    partitionKeyForLabel lib digest gateways g.ns (gatewayLabelValue lib digest g.name) =
      some (g.ns ++ "/" ++ g.name) := by
  have hmem : g ∈ gateways.filter (·.ns = g.ns) := by simp [hg]
  cases hfind : (gateways.filter (·.ns = g.ns)).find? fun gateway =>
      gatewayLabelValue lib digest gateway.name = gatewayLabelValue lib digest g.name with
  | none =>
    have hnone := List.find?_eq_none.mp hfind g hmem
    simp at hnone
  | some found =>
    have hfound := List.mem_filter.mp (List.mem_of_find?_eq_some hfind)
    have htest := List.find?_some hfind
    have hlabel : renderedName lib digest .gatewayLabel found =
        renderedName lib digest .gatewayLabel g := of_decide_eq_true htest
    have hsame : found = g :=
      renderedName_inj hvalid hfree hfound.1 hg (of_decide_eq_true hfound.2) hlabel
    rw [partitionKeyForLabel, hfind, hsame]
    rfl

/-- Gateways of one namespace never share a rendered name, every rendered name is a DNS label,
and a label value leads back to its Gateway. -/
theorem renderedNames_never_alias (lib : GoLib) (digest : Digest)
    (gateways : List NamespacedName) (hvalid : ∀ g ∈ gateways, IsDNSSubdomain g.name)
    (hfree : CollisionFree lib digest gateways) :
    (∀ g ∈ gateways, ∀ g' ∈ gateways, g.ns = g'.ns → g ≠ g' →
      ∀ kind, renderedName lib digest kind g ≠ renderedName lib digest kind g') ∧
    (∀ g ∈ gateways, ∀ kind, IsDNSLabel (renderedName lib digest kind g).toList) ∧
    (∀ g ∈ gateways,
      partitionKeyForLabel lib digest gateways g.ns (gatewayLabelValue lib digest g.name) =
        some (g.ns ++ "/" ++ g.name)) := by
  refine ⟨?_, ?_, fun g hg => partitionKeyForLabel_gatewayLabelValue hvalid hfree hg⟩
  · intro g hg g' hg' hns hne kind heq
    exact hne (renderedName_inj hvalid hfree hg hg' hns heq)
  · intro g hg kind
    rw [renderedName_eq]
    exact isDNSLabel_truncateName (starts_fullName (hvalid g hg) kind)

/-- A name that is sanitised, the name it is sanitised to, and one that looks shortened. -/
def edges : List NamespacedName :=
  [.of "shop" "my.edge", .of "shop" "my-edge", .of "shop" "my-edge-0123abcd"]

theorem edges_never_alias :
    CollisionFree GoLib.literal .checksum edges ∧
    ∀ g ∈ edges, partitionKeyForLabel GoLib.literal .checksum edges g.ns
      (gatewayLabelValue GoLib.literal .checksum g.name) = some (g.ns ++ "/" ++ g.name) := by
  have hfree : CollisionFree GoLib.literal .checksum edges := by decide +kernel
  have hvalid : ∀ g ∈ edges, IsDNSSubdomain g.name := by decide +kernel
  exact ⟨hfree, (renderedNames_never_alias GoLib.literal .checksum edges hvalid hfree).2.2⟩

end Gateways

end TunnelGateway.RenderedNames
