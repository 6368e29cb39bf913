import TunnelGateway.GoRegexp
import Mathlib.Data.Nat.Basic
import Mathlib.Order.Basic

/-!
A pattern inside a group. What the parser reads of a complete pattern it reads in
the same way when a closing parenthesis and more text follow, unless the pattern
leaves a quotation or the name of a class open; and it never reaches the groups
around the pattern. So a pattern that is valid on its own contributes its own
expression where it is spliced into `(?:…)`.
-/
namespace TunnelGateway.RegexpSplice

open RegexpMatching GoRegexp

section Scanners

variable {α β : Type*} {good : α → Prop} {good' : β → Prop}

/-- A scanner consumes part of its text, and a good result is the same when the text is
followed by a closing parenthesis. -/
def ScansAt (good : α → Prop) (f : List Char → Option (α × List Char)) (t : List Char) : Prop :=
  ∀ a rest, f t = some (a, rest) → rest.length ≤ t.length ∧
    (good a → ∀ tail, f (t ++ ')' :: tail) = some (a, rest ++ ')' :: tail))

def Scans (good : α → Prop) (f : List Char → Option (α × List Char)) : Prop :=
  ∀ t, ScansAt good f t

def Always (_ : α) : Prop := True

theorem head?_append_close (t tail : List Char) {c : Char} (hc : c ≠ ')') :
    (t ++ ')' :: tail).head? = some c ↔ t.head? = some c := by
  cases t with
  | nil => simpa using hc.symm
  | cons d t => rfl

theorem head?_any_append_close (t tail : List Char) {p : Char → Bool} (hp : p ')' = false) :
    (t ++ ')' :: tail).head?.any p = t.head?.any p := by
  cases t with
  | nil => exact hp
  | cons d t => rfl

variable {f g : List Char → Option (α × List Char)} {t : List Char}

theorem ScansAt.result (a : α) : ScansAt good (fun t => some (a, t)) t := by
  intro b rest h
  cases h
  exact ⟨le_rfl, fun _ _ => rfl⟩

theorem ScansAt.fail (h : f t = none) : ScansAt good f t := by
  intro a rest hf
  rw [h] at hf
  cases hf

/-- A scanner that always has a result. -/
theorem ScansAt.total {g : List Char → α × List Char} (h : ∀ tail, (g t).2.length ≤ t.length ∧
    g (t ++ ')' :: tail) = ((g t).1, (g t).2 ++ ')' :: tail)) :
    ScansAt good (fun t => some (g t)) t := by
  intro a rest hg
  obtain ⟨hlength, -⟩ := h []
  rw [Option.some.inj hg] at hlength
  refine ⟨hlength, fun _ tail => ?_⟩
  dsimp only
  rw [(h tail).2, Option.some.inj hg]

theorem ScansAt.of_eq (h : f t = g t) (happend : ∀ tail, f (t ++ ')' :: tail) = g (t ++ ')' :: tail))
    (hg : ScansAt good g t) : ScansAt good f t := by
  intro a rest hf
  simp only [h, happend] at hf ⊢
  exact hg a rest hf

theorem ScansAt.cons {c : Char} (h : ScansAt good (fun t => f (c :: t)) t) :
    ScansAt good f (c :: t) := by
  intro a rest hf
  obtain ⟨hlength, hext⟩ := h a rest hf
  exact ⟨hlength.trans (Nat.le_succ _), hext⟩

/-- A condition on the text that a closing parenthesis does not change. -/
theorem ScansAt.cond {p : List Char → Prop} [DecidablePred p]
    (hp : ∀ tail, p (t ++ ')' :: tail) ↔ p t) (hf : p t → ScansAt good f t)
    (hg : ¬ p t → ScansAt good g t) : ScansAt good (fun t => if p t then f t else g t) t := by
  by_cases h : p t
  · exact .of_eq (if_pos h) (fun tail => if_pos ((hp tail).mpr h)) (hf h)
  · exact .of_eq (if_neg h) (fun tail => if_neg (mt (hp tail).mp h)) (hg h)

theorem ScansAt.ite {P : Prop} [Decidable P] (hf : ScansAt good f t) (hg : ScansAt good g t) :
    ScansAt good (fun t => if P then f t else g t) t :=
  .cond (fun _ => Iff.rfl) (fun _ => hf) fun _ => hg

/-- A look at the next character, which is consumed if it is the one looked for. -/
theorem ScansAt.peek {c : Char} (hc : c ≠ ')') (hf : Scans good f) (hg : ScansAt good g t) :
    ScansAt good (fun t => if t.head? = some c then f t.tail else g t) t := by
  refine .cond (fun tail => head?_append_close t tail hc) (fun hhead => ?_) fun _ => hg
  obtain ⟨t', rfl⟩ := List.head?_eq_some_iff.mp hhead
  exact .cons (hf t')

theorem ScansAt.map (g : α → β) (hgood : ∀ a, good' (g a) → good a) (h : ScansAt good f t) :
    ScansAt good' (fun t => (f t).map fun x => (g x.1, x.2)) t := by
  intro b rest hf
  obtain ⟨⟨a, rest'⟩, ha, hb⟩ := Option.map_eq_some_iff.mp hf
  cases hb
  obtain ⟨hlength, hext⟩ := h a rest' ha
  refine ⟨hlength, ?_⟩
  intro hb tail
  simp [hext (hgood a hb) tail]

theorem ScansAt.bind {g : α → List Char → Option (β × List Char)} (hf : ScansAt Always f t)
    (hg : ∀ a, Scans good' (g a)) : ScansAt good' (fun t => (f t).bind fun x => g x.1 x.2) t := by
  intro b rest h
  obtain ⟨⟨a, middle⟩, ha, hb⟩ := Option.bind_eq_some_iff.mp h
  obtain ⟨hlength, hext⟩ := hf a middle ha
  obtain ⟨hlength', hext'⟩ := hg a middle b rest hb
  refine ⟨hlength'.trans hlength, ?_⟩
  intro hgood tail
  simp only [hext trivial tail]
  exact hext' hgood tail

theorem ScansAt.option {g : β → List Char → Option (α × List Char)} (b : Option β)
    (hg : ∀ b, ScansAt good (g b) t) : ScansAt good (fun t => b.bind fun b => g b t) t := by
  cases b with
  | none => exact .fail rfl
  | some b => exact hg b

theorem scans_option (a : Option α) : Scans good fun t => a.map fun x => (x, t) := by
  intro t
  cases a with
  | none => exact .fail rfl
  | some a => exact .result a

theorem Scans.cons (hnil : f [] = none) (h : ∀ c, Scans good fun t => f (c :: t)) :
    Scans good f := by
  intro t
  cases t with
  | nil => exact .fail hnil
  | cons c t => exact .cons (h c t)

end Scanners

section Escapes

theorem scans_cut (c : Char) : Scans Always (cut c) := by
  intro t
  induction t with
  | nil => exact .fail rfl
  | cons d t ih => exact .cons (.ite (.result []) (ih.map (d :: ·) fun _ => id))

theorem scans_cutPair (a b : Char) (hb : b ≠ ')') : Scans Always (cutPair a b) := by
  intro t
  induction t with
  | nil => exact .fail rfl
  | cons c t ih =>
    have hcut : (fun t => cutPair a b (c :: t)) = fun t =>
        if c = a ∧ t.head? = some b then some ([], t.tail)
        else (cutPair a b t).map fun parts => (c :: parts.1, parts.2) := by
      funext t
      cases t <;> simp [cutPair]
    refine .cons ?_
    rw [hcut]
    refine .cond (fun tail => ?_) (fun hpair => ?_) fun _ => ih.map (c :: ·) fun _ => id
    · rw [head?_append_close t tail hb]
    · obtain ⟨t', rfl⟩ := List.head?_eq_some_iff.mp hpair.2
      exact .cons (.result [])

theorem readOctal_append (value n : ℕ) (t tail : List Char) :
    (readOctal value n t).2.length ≤ t.length ∧
      readOctal value n (t ++ ')' :: tail) =
        ((readOctal value n t).1, (readOctal value n t).2 ++ ')' :: tail) := by
  induction n generalizing value t with
  | zero => simp [readOctal]
  | succ n ih =>
    cases t with
    | nil =>
      have hclose : isOctal ')' = false := by decide
      simp [readOctal, hclose]
    | cons c t =>
      by_cases hc : isOctal c = true
      · simp only [List.cons_append, readOctal, hc]
        obtain ⟨hlength, hext⟩ := ih (value * 8 + (c.toNat - 48)) t
        exact ⟨hlength.trans (Nat.le_succ _), hext⟩
      · simp [readOctal, hc]

theorem scans_readHexBrace (value : ℕ) (seen : Bool) : Scans Always (readHexBrace value seen) := by
  intro t
  induction t generalizing value seen with
  | nil => exact .fail rfl
  | cons c t ih =>
    refine .cons (.ite (.ite (.result _) (.fail rfl)) (.option (unhex c) fun digit => ?_))
    exact .ite (.fail rfl) (ih _ true)

theorem scans_readHexDigit : Scans Always readHexDigit :=
  Scans.cons rfl fun c => scans_option (unhex c)

theorem scans_readHex : Scans Always readHex := by
  intro t
  refine .peek (by decide) (scans_readHexBrace 0 false) ?_
  refine ScansAt.bind (g := fun high t => (readHexDigit t).map fun low => (high * 16 + low.1, low.2))
    (scans_readHexDigit t) fun high t => ?_
  exact (scans_readHexDigit t).map (fun low => high * 16 + low) fun _ => id

theorem scans_parseEscape_cons (c : Char) : Scans Always fun t => parseEscape (c :: t) := by
  intro t
  refine .ite (scans_readHex t) (.ite (.cond (fun tail => ?_) ?_ fun _ => .fail rfl) ?_)
  · rw [head?_any_append_close t tail (by decide)]
  · exact fun _ => .total fun tail => readOctal_append (c.toNat - 48) 2 t tail
  · cases cEscapes.lookup c with
    | some value => exact .result value
    | none => exact .ite (.result _) (.fail rfl)

end Escapes

section Repeats

theorem readDigits_append (value : ℕ) (t tail : List Char) :
    (readDigits value t).2.length ≤ t.length ∧
      readDigits value (t ++ ')' :: tail) =
        ((readDigits value t).1, (readDigits value t).2 ++ ')' :: tail) := by
  induction t generalizing value with
  | nil =>
    have hclose : Char.isDigit ')' = false := by decide
    simp [readDigits]
  | cons c t ih =>
    by_cases hc : c.isDigit = true
    · simp only [List.cons_append, readDigits, hc]
      obtain ⟨hlength, hext⟩ := ih (value * 10 + (c.toNat - 48))
      exact ⟨hlength.trans (Nat.le_succ _), hext⟩
    · simp [readDigits, hc]

/-- A scanner that fails in front of a parenthesis as it fails at the end. -/
structure Decides {α : Type*} (f : List Char → Option (α × List Char)) : Prop where
  shorter : ∀ t a rest, f t = some (a, rest) → rest.length ≤ t.length
  append : ∀ t tail, f (t ++ ')' :: tail) = (f t).map fun x => (x.1, x.2 ++ ')' :: tail)

theorem decides_fail {α : Type*} : Decides fun _ => (none : Option (α × List Char)) := by
  constructor
  · intro t a rest h
    cases h
  · intro t tail
    rfl

theorem decides_result {α : Type*} (a : α) : Decides fun t => some (a, t) := by
  constructor
  · intro t b rest h
    cases h
    exact le_rfl
  · intro t tail
    rfl

theorem Decides.bind {α β : Type*} {f : List Char → Option (α × List Char)}
    {g : α → List Char → Option (β × List Char)} (hf : Decides f) (hg : ∀ a, Decides (g a)) :
    Decides fun t => (f t).bind fun x => g x.1 x.2 := by
  constructor
  · intro t b rest h
    obtain ⟨⟨a, middle⟩, ha, hb⟩ := Option.bind_eq_some_iff.mp h
    exact le_trans ((hg a).shorter _ _ _ hb) (hf.shorter _ _ _ ha)
  · intro t tail
    simp only [hf.append]
    cases f t with
    | none => rfl
    | some x => exact (hg x.1).append x.2 tail

theorem Decides.peek {α : Type*} {c : Char} (hc : c ≠ ')')
    {f g : List Char → Option (α × List Char)} (hf : Decides f) (hg : Decides g) :
    Decides fun t => if t.head? = some c then f t.tail else g t := by
  constructor
  · intro t a rest h
    split at h
    · exact le_trans (hf.shorter _ _ _ h) (by simp)
    · exact hg.shorter _ _ _ h
  · intro t tail
    by_cases hhead : t.head? = some c
    · rw [if_pos hhead, if_pos ((head?_append_close t tail hc).mpr hhead)]
      obtain ⟨t', rfl⟩ := List.head?_eq_some_iff.mp hhead
      exact hf.append t' tail
    · rw [if_neg hhead, if_neg fun h => hhead ((head?_append_close t tail hc).mp h)]
      exact hg.append t tail

theorem decides_readInt : Decides readInt := by
  have hclose : Char.isDigit ')' = false := by decide
  constructor
  · intro t a rest h
    cases t with
    | nil => cases h
    | cons c t =>
      rw [readInt] at h
      split at h
      · cases h
      · rw [Option.some.injEq] at h
        have hlength := (readDigits_append 0 (c :: t) []).1
        rwa [h] at hlength
  · intro t tail
    cases t with
    | nil => simp [readInt]
    | cons c t =>
      rw [List.cons_append, readInt, readInt, head?_any_append_close t tail hclose]
      split
      · rfl
      · rw [← List.cons_append, (readDigits_append 0 (c :: t) tail).2]
        rfl

theorem decides_closeRepeat (min : ℕ) (max : Option ℕ) : Decides (closeRepeat min max) :=
  Decides.peek (by decide) (decides_result (min, max)) decides_fail

theorem decides_parseRepeat : Decides parseRepeat := by
  have hmost : ∀ least, Decides fun t =>
      (readInt t).bind fun most => closeRepeat least (some most.1) most.2 :=
    fun least => decides_readInt.bind fun most => decides_closeRepeat least (some most)
  have hbounds : ∀ least, Decides fun t =>
      if t.head? = some '}' then some ((least, none), t.tail)
      else (readInt t).bind fun most => closeRepeat least (some most.1) most.2 :=
    fun least => Decides.peek (by decide) (decides_result (least, none)) (hmost least)
  have hleast : ∀ least, Decides fun t =>
      if t.head? = some ',' then
        if t.tail.head? = some '}' then some ((least, none), t.tail.tail)
        else (readInt t.tail).bind fun most => closeRepeat least (some most.1) most.2
      else closeRepeat least (some least) t :=
    fun least => Decides.peek (by decide) (hbounds least) (decides_closeRepeat least (some least))
  exact decides_readInt.bind hleast

end Repeats

section Brackets

variable (tables : Tables) (flags : Flags)

/-- Nothing was searched for in vain. -/
def ClosedSet (found : ClassSet) : Prop := found.dangling = false

theorem scans_parseClassChar : Scans Always parseClassChar :=
  Scans.cons rfl fun c t => .ite (Scans.cons rfl scans_parseEscape_cons t) (.result c.toNat)

theorem scans_parseUnicodeClass (negated : Bool) :
    Scans Always (parseUnicodeClass tables flags negated) := by
  refine Scans.cons rfl fun c t => .ite ?_ (scans_option _ t)
  exact (scans_cut '}' t).bind fun name => scans_option (unicodeGroup tables flags negated name)

theorem scans_rangeEnd (low : ℕ) : Scans Always (rangeEnd low) := by
  intro t
  cases t with
  | nil =>
    intro a rest h
    cases h
    exact ⟨le_rfl, fun _ _ => rfl⟩
  | cons c t =>
    by_cases hc : c = '-'
    · subst hc
      cases t with
      | nil => exact .fail rfl
      | cons d t =>
        by_cases hd : d = ']'
        · exact .of_eq (by simp [rangeEnd, hd]) (by simp [rangeEnd, hd]) (.result low)
        · have hread := ScansAt.cons (c := '-') (f := fun t => parseClassChar t.tail)
            (scans_parseClassChar (d :: t))
          exact .of_eq (by simp [rangeEnd, hd]) (by simp [rangeEnd, hd]) hread
    · exact .of_eq (by simp [rangeEnd, hc]) (by simp [rangeEnd, hc]) (.result low)

theorem scans_parseRange : Scans Always (parseRange tables flags) := by
  intro t
  refine (scans_parseClassChar t).bind (g := fun low t => (rangeEnd low t).bind fun high =>
    if high.1 < low then none
    else some (fold tables flags (inRanges [(low, high.1)]), high.2)) fun low t => ?_
  refine (scans_rangeEnd low t).bind (g := fun high t =>
    if high < low then none
    else some (fold tables flags (inRanges [(low, high)]), t)) fun high t => ?_
  exact .ite (.fail rfl) (.result _)

theorem scans_rangeItem (dangling : Bool) :
    Scans ClosedSet (rangeItem tables flags dangling) :=
  fun t => (scans_parseRange tables flags t).map (fun p => ClassSet.mk p dangling) fun _ _ => trivial

variable {found result : ClassSet} {rest t : List Char} {first : Bool} {n : ℕ}

theorem scansAt_namedItem :
    ScansAt ClosedSet (fun t => namedItem tables flags t.tail.tail) ('[' :: ':' :: t) := by
  intro found rest h
  dsimp only [List.tail_cons, List.cons_append] at h ⊢
  unfold namedItem at h
  split at h
  · next parts hcut =>
    obtain ⟨hlength, hext⟩ := scans_cutPair ':' ']' (by decide) t parts.1 parts.2 hcut
    obtain ⟨p, hp, heq⟩ := Option.map_eq_some_iff.mp h
    cases heq
    refine ⟨by simp; omega, ?_⟩
    intro _ tail
    rw [namedItem, hext trivial tail]
    simp [hp]
  · obtain ⟨hlength, -⟩ := scans_rangeItem tables flags true _ _ _ h
    obtain ⟨item, -, heq⟩ := Option.map_eq_some_iff.mp h
    cases heq
    refine ⟨hlength, ?_⟩
    intro hclosed
    cases hclosed

theorem scansAt_escapedItem :
    ScansAt ClosedSet (fun t => escapedItem tables flags t.tail) ('\\' :: t) := by
  cases t with
  | nil => exact .fail rfl
  | cons c t =>
    by_cases hc : c = 'p' ∨ c = 'P'
    · have hclass : ScansAt ClosedSet _ t := (scans_parseUnicodeClass tables flags (c = 'P') t).map
        (ClassSet.mk · false) fun _ _ => trivial
      refine .cons (.cons (.of_eq ?_ (fun _ => ?_) hclass)) <;> simp [escapedItem, hc]
    · cases hgroup : perlGroup tables flags c with
      | some p =>
        refine .cons (.cons (.of_eq ?_ (fun _ => ?_) (.result ⟨p, false⟩))) <;>
          simp [escapedItem, hc, hgroup]
      | none =>
        refine .of_eq ?_ (fun _ => ?_) (scans_rangeItem tables flags false ('\\' :: c :: t)) <;>
          simp [escapedItem, hc, hgroup]

theorem scans_classItem : Scans ClosedSet (classItem tables flags) := by
  intro t
  cases t with
  | nil => exact .fail rfl
  | cons c t =>
    by_cases hnamed : c = '[' ∧ t.head? = some ':'
    · obtain ⟨rfl, hhead⟩ := hnamed
      obtain ⟨t, rfl⟩ := List.head?_eq_some_iff.mp hhead
      exact .of_eq rfl (fun _ => rfl) (scansAt_namedItem tables flags)
    · have hnamed' : ∀ tail, ¬ (c = '[' ∧ (t ++ ')' :: tail).head? = some ':') := by
        intro tail hand
        exact hnamed ⟨hand.1, (head?_append_close t tail (by decide)).mp hand.2⟩
      by_cases hescape : c = '\\'
      · subst hescape
        exact .of_eq rfl (fun _ => rfl) (scansAt_escapedItem tables flags)
      · refine .of_eq ?_ (fun tail => ?_) (scans_rangeItem tables flags false (c :: t))
        · rw [classItem, if_neg hnamed, if_neg hescape]
        · rw [List.cons_append, classItem, if_neg (hnamed' tail), if_neg hescape]

theorem classLoop_closed (h : classLoop tables flags n first found t = some (result, rest))
    (hclosed : ClosedSet result) : ClosedSet found := by
  induction n generalizing first found t with
  | zero => cases h
  | succ n ih =>
    rw [classLoop] at h
    split at h
    · cases h
      exact hclosed
    · obtain ⟨item, -, h⟩ := Option.bind_eq_some_iff.mp h
      exact (Bool.or_eq_false_iff.mp (ih h)).1

/-- More fuel does not change the items of a bracket. -/
theorem classLoop_spec (h : classLoop tables flags n first found t = some (result, rest)) :
    rest.length ≤ t.length ∧ (ClosedSet result → ∀ m tail, n ≤ m →
      classLoop tables flags m first found (t ++ ')' :: tail) =
        some (result, rest ++ ')' :: tail)) := by
  induction n generalizing first found t with
  | zero => cases h
  | succ n ih =>
    rw [classLoop] at h
    by_cases hend : t.head? = some ']' ∧ first = false
    · rw [if_pos hend] at h
      cases h
      obtain ⟨t', rfl⟩ := List.head?_eq_some_iff.mp hend.1
      refine ⟨by simp, ?_⟩
      intro _ m tail hm
      obtain ⟨m, rfl⟩ : ∃ k, m = k + 1 := ⟨m - 1, by omega⟩
      rw [classLoop, if_pos ⟨rfl, hend.2⟩]
      rfl
    · rw [if_neg hend] at h
      obtain ⟨⟨item, middle⟩, hitem, h⟩ := Option.bind_eq_some_iff.mp h
      obtain ⟨hlength, hext⟩ := scans_classItem tables flags t item middle hitem
      obtain ⟨hlength', hext'⟩ := ih h
      refine ⟨hlength'.trans hlength, ?_⟩
      intro hclosed m tail hm
      obtain ⟨m, rfl⟩ : ∃ k, m = k + 1 := ⟨m - 1, by omega⟩
      have hitemClosed : ClosedSet item :=
        (Bool.or_eq_false_iff.mp (classLoop_closed tables flags h hclosed)).2
      have hend' : ¬ ((t ++ ')' :: tail).head? = some ']' ∧ first = false) := by
        intro hand
        exact hend ⟨(head?_append_close t tail (by decide)).mp hand.1, hand.2⟩
      rw [classLoop, if_neg hend', hext hitemClosed tail]
      exact hext' hclosed m tail (by omega)

theorem scans_bracketBody (negated : Bool) :
    Scans ClosedSet (bracketBody tables flags negated) := by
  intro t found rest h
  obtain ⟨⟨result, rest'⟩, hloop, heq⟩ := Option.map_eq_some_iff.mp h
  cases heq
  obtain ⟨hlength, hext⟩ := classLoop_spec tables flags hloop
  refine ⟨hlength, ?_⟩
  intro hclosed tail
  rw [bracketBody, hext hclosed _ tail (by simp)]
  rfl

end Brackets

section Tokens

variable (tables : Tables) (flags : Flags)

def ClosedToken (tok : Token) : Prop := tok.dangling = false

theorem scans_readFlags (flags : Flags) (negated seen : Bool) :
    Scans ClosedToken (readFlags flags negated seen) := by
  intro t
  induction t generalizing flags negated seen with
  | nil => exact .fail rfl
  | cons c t ih =>
    exact .cons (.ite (.ite (.fail rfl) (.result _)) (.ite (.ite (.fail rfl) (ih _ _ _))
      (.option (setFlag flags negated c) fun flags => ih flags negated true)))

theorem scans_namedGroup : Scans ClosedToken (namedGroup flags) := by
  intro t
  refine (scans_cut '>' t).bind (g := fun name t =>
    if isValidCaptureName name then some (Token.openGroup flags, t) else none) fun name t => ?_
  exact .ite (.result _) (.fail rfl)

theorem scans_parsePerlFlags : Scans ClosedToken (parsePerlFlags flags) := by
  intro t
  refine .peek (by decide) (scans_namedGroup flags) (.cond (fun tail => ?_) (fun hnamed => ?_)
    fun _ => scans_readFlags flags false false t)
  · cases t with
    | nil => simp
    | cons c t => exact and_congr_right fun _ => head?_append_close t tail (by decide)
  · obtain ⟨t, rfl⟩ := List.head?_eq_some_iff.mp hnamed.1
    obtain ⟨t, rfl⟩ := List.head?_eq_some_iff.mp hnamed.2
    exact .cons (.cons (scans_namedGroup flags t))

theorem scans_quotation : Scans ClosedToken fun t =>
    match cutPair '\\' 'E' t with
    | some parts => some (.items (parts.1.map (literal tables flags ·.toNat)) false, parts.2)
    | none => some (.items (t.map (literal tables flags ·.toNat)) true, []) := by
  intro t tok rest h
  dsimp only at h
  split at h
  · next parts hcut =>
    cases h
    obtain ⟨hlength, hext⟩ := scans_cutPair '\\' 'E' (by decide) t parts.1 parts.2 hcut
    refine ⟨hlength, ?_⟩
    intro _ tail
    simp [hext trivial tail]
  · cases h
    refine ⟨Nat.zero_le _, ?_⟩
    intro hclosed
    cases hclosed

theorem scans_parseBackslash : Scans ClosedToken (parseBackslash tables flags) := by
  refine Scans.cons rfl fun c t => ?_
  refine .ite (.result _) (.ite (.result _) (.ite (.result _) (.ite (.result _)
    (.ite (.fail rfl) (.ite (scans_quotation tables flags t) (.ite ?_ ?_))))))
  · exact (scans_parseUnicodeClass tables flags (c = 'P') t).map (fun p => single (.char p))
      fun _ _ => trivial
  · cases perlGroup tables flags c with
    | some p => exact .result _
    | none =>
      exact (scans_parseEscape_cons c t).map
        (fun value => Token.items [literal tables flags value] false) fun _ _ => trivial

theorem skipLazy_append (t tail : List Char) :
    (skipLazy t).length ≤ t.length ∧ skipLazy (t ++ ')' :: tail) = skipLazy t ++ ')' :: tail := by
  unfold skipLazy
  by_cases hhead : t.head? = some '?'
  · obtain ⟨t', rfl⟩ := List.head?_eq_some_iff.mp hhead
    exact ⟨Nat.le_succ _, rfl⟩
  · rw [if_neg hhead, if_neg fun h => hhead ((head?_append_close t tail (by decide)).mp h)]
    exact ⟨le_rfl, rfl⟩

theorem scansAt_skipLazy (tok : Token) (t : List Char) :
    ScansAt ClosedToken (fun t => some (tok, skipLazy t)) t :=
  .total fun tail => ⟨(skipLazy_append t tail).1, by rw [(skipLazy_append t tail).2]⟩

theorem scans_bracedRepeat : Scans ClosedToken (bracedRepeat tables flags) := by
  intro t tok rest h
  unfold bracedRepeat at h
  split at h
  · next bounds hbounds =>
    obtain ⟨tok', htok, heq⟩ := Option.map_eq_some_iff.mp h
    cases heq
    have hlength := decides_parseRepeat.shorter t bounds.1 bounds.2 hbounds
    refine ⟨le_trans (skipLazy_append bounds.2 []).1 hlength, ?_⟩
    intro _ tail
    rw [bracedRepeat, decides_parseRepeat.append, hbounds]
    simp [htok, (skipLazy_append bounds.2 tail).2]
  · next hnone =>
    cases h
    refine ⟨le_rfl, ?_⟩
    intro _ tail
    rw [bracedRepeat, decides_parseRepeat.append, hnone]
    rfl

theorem scans_token (c : Char) : Scans ClosedToken fun t => token tables flags (c :: t) := by
  intro t
  refine .ite ?_ (.ite (.result _) (.ite (.result _) (.ite (.result _) (.ite (.result _)
    (.ite (.result _) (.ite ?_ (.ite (scansAt_skipLazy _ t) (.ite (scansAt_skipLazy _ t)
      (.ite (scansAt_skipLazy _ t) (.ite (scans_bracedRepeat tables flags t)
        (.ite (scans_parseBackslash tables flags t) (.result _))))))))))))
  · exact .peek (by decide) (scans_parsePerlFlags flags) (.result _)
  · exact ScansAt.map (fun found : ClassSet => Token.items [⟨.char found.set, 1⟩] found.dangling)
      (fun _ => id) (.peek (by decide) (scans_bracketBody tables flags true)
        (scans_bracketBody tables flags false t))

end Tokens

section Parsing

/-- The parser goes from one state and text to another. -/
inductive Reads (tables : Tables) : State → List Char → State → List Char → Prop where
  | refl (st : State) (t : List Char) : Reads tables st t st t
  | step {st st' st'' : State} {t rest t' : List Char} {tok : Token}
      (htoken : token tables st.flags t = some (tok, rest)) (happly : st.apply tok = some st')
      (hrest : Reads tables st' rest st'' t') : Reads tables st t st'' t'

variable {tables : Tables}

variable {t t' : List Char} {st st' : State}

theorem Reads.trans {st'' : State} {t'' : List Char} (first : Reads tables st t st' t')
    (second : Reads tables st' t' st'' t'') : Reads tables st t st'' t'' := by
  induction first with
  | refl => exact second
  | step htoken happly _ ih => exact .step htoken happly (ih second)

theorem reads_of_run {n : ℕ} (h : run tables n st t = some st') : Reads tables st t st' [] := by
  induction n generalizing st t with
  | zero =>
    cases t with
    | nil =>
      cases h
      exact .refl _ _
    | cons c t => cases h
  | succ n ih =>
    cases t with
    | nil =>
      cases h
      exact .refl _ _
    | cons c t =>
      obtain ⟨⟨tok, rest⟩, htoken, h⟩ := Option.bind_eq_some_iff.mp h
      obtain ⟨middle, happly, h⟩ := Option.bind_eq_some_iff.mp h
      exact .step htoken happly (ih h)

/-- Every token is shorter than the text it starts, so the fuel suffices. -/
theorem run_of_reads (h : Reads tables st t st' []) :
    ∀ {n : ℕ}, t.length ≤ n → run tables n st t = some st' := by
  generalize hend : [] = t' at h
  induction h with
  | refl st t =>
    intro n _
    subst hend
    cases n <;> rfl
  | @step st st' st'' t rest t' tok htoken happly _ ih =>
    intro n hn
    cases t with
    | nil => cases htoken
    | cons c t =>
      have hlength := (scans_token tables st.flags c t tok rest htoken).1
      obtain ⟨n, rfl⟩ : ∃ k, n = k + 1 := ⟨n - 1, by simp at hn; omega⟩
      rw [run, htoken, Option.bind_some, happly]
      apply ih hend
      simp only [List.length_cons] at hn
      omega

/-- The same state with more groups around it. -/
def under (outer : List Frame) (st : State) : State := { st with outer := st.outer ++ outer }

theorem repeatLast_spec {min : ℕ} {max : Option ℕ} {counted : Bool}
    (h : st.repeatLast min max counted = some st') :
    st'.dangling = st.dangling ∧
      ∀ outer, (under outer st).repeatLast min max counted = some (under outer st') := by
  unfold State.repeatLast at h
  split at h
  · next item items hrepeated hitems =>
    dsimp only at h
    split at h
    · cases h
    · next hsize =>
      cases h
      refine ⟨rfl, ?_⟩
      intro outer
      simp [under, State.repeatLast, hrepeated, hitems, if_neg hsize]
  · cases h

variable {tok : Token} {pattern : List Char}

theorem apply_spec (h : st.apply tok = some st') :
    st'.dangling = (st.dangling || tok.dangling) ∧
      ∀ outer, (under outer st).apply tok = some (under outer st') := by
  cases tok with
  | closeGroup =>
    cases hframes : st.outer with
    | nil => simp [State.apply, hframes] at h
    | cons frame frames =>
      simp only [State.apply, hframes] at h
      cases h
      simp [Token.dangling, State.apply, under, hframes, State.close]
  | repeatOp min max counted =>
    exact ⟨by simp [Token.dangling, (repeatLast_spec h).1], (repeatLast_spec h).2⟩
  | _ =>
    cases h
    simp [Token.dangling, State.apply, under]

theorem Reads.closed (h : Reads tables st t st' t') (hclosed : st'.dangling = false) :
    st.dangling = false := by
  induction h with
  | refl => exact hclosed
  | step _ happly _ ih =>
    have hmiddle := ih hclosed
    rw [(apply_spec happly).1, Bool.or_eq_false_iff] at hmiddle
    exact hmiddle.1

/-- A pattern in front of a closing parenthesis. -/
theorem Reads.under (h : Reads tables st t st' []) (hclosed : st'.dangling = false)
    (outer : List Frame) (tail : List Char) :
    Reads tables (under outer st) (t ++ ')' :: tail) (RegexpSplice.under outer st')
      (')' :: tail) := by
  generalize hend : [] = t' at h
  induction h with
  | refl st t =>
    subst hend
    exact .refl _ _
  | @step st st' st'' t rest t' tok htoken happly hrest ih =>
    have hmiddle := hrest.closed hclosed
    rw [(apply_spec happly).1, Bool.or_eq_false_iff] at hmiddle
    cases t with
    | nil => cases htoken
    | cons c t =>
      have hext := (scans_token tables st.flags c t tok rest htoken).2 hmiddle.2 tail
      exact .step hext ((apply_spec happly).2 outer) (ih hclosed hend)

theorem parseState_iff :
    parseState tables pattern = some st ↔ Reads tables {} pattern st [] ∧ st.outer = [] := by
  rw [parseState, Option.filter_eq_some_iff, List.isEmpty_iff]
  constructor
  · rintro ⟨hrun, houter⟩
    exact ⟨reads_of_run hrun, houter⟩
  · rintro ⟨hreads, houter⟩
    exact ⟨run_of_reads hreads le_rfl, houter⟩

/-- Push an item as the last one of the current branch. -/
def push (item : Item) (st : State) : State :=
  { st with items := item :: st.items, repeated := false }

/-- A closed pattern in a group is one item, the expression it stands for. -/
theorem reads_group {inner : State} (hpattern : parseState tables pattern = some inner)
    (hclosed : inner.dangling = false) (hflags : st.flags = {}) (hst : st.dangling = false)
    (tail : List Char) :
    Reads tables st ('(' :: '?' :: ':' :: (pattern ++ ')' :: tail)) (push inner.close st) tail := by
  obtain ⟨hreads, houter⟩ := parseState_iff.mp hpattern
  let frames : List Frame := ⟨st.flags, st.branches, st.items⟩ :: st.outer
  have hopen : st.apply (.openGroup st.flags) = some (under frames {}) := by
    simp [State.apply, under, hst, hflags, frames]
  have hclose : (under frames inner).apply .closeGroup = some (push inner.close st) := by
    simp [State.apply, under, houter, frames, push, State.close, hclosed, hst]
  have hbegin : token tables st.flags ('(' :: '?' :: ':' :: (pattern ++ ')' :: tail)) =
      some (.openGroup st.flags, pattern ++ ')' :: tail) := rfl
  have hend : token tables inner.flags (')' :: tail) = some (.closeGroup, tail) := rfl
  refine .step hbegin hopen ((hreads.under hclosed frames tail).trans ?_)
  exact .step hend hclose (.refl _ _)

theorem apply_item (st : State) (item : Item) :
    st.apply (.items [item] false) = some (push item st) := by
  simp [State.apply, push]

theorem reads_char {c : Char} (hc : c ∉ metaChars) (st : State) (t : List Char) :
    Reads tables st (c :: t) (push (literal tables st.flags c.toNat) st) t := by
  refine .step ?_ (apply_item st _) (.refl _ _)
  simp only [metaChars, List.mem_cons, not_or] at hc
  simp [token, *]

/-- The literals of a text, the last first. -/
def literals (tables : Tables) (text : List Char) : List Item :=
  (text.map fun c => literal tables {} c.toNat).reverse

/-- A quoted text is read as its literals. -/
theorem reads_quoteMeta (text : List Char) (hflags : st.flags = {})
    (hrepeated : st.repeated = false) (t : List Char) :
    Reads tables st ((text.flatMap fun c => if c ∈ metaChars then ['\\', c] else [c]) ++ t)
      { st with items := literals tables text ++ st.items } t := by
  induction text generalizing st with
  | nil => exact .refl _ _
  | cons c text ih =>
    have hpushed : (push (literal tables st.flags c.toNat) st).flags = {} := hflags
    have hrest := ih hpushed rfl
    have hitems : literals tables text ++ (push (literal tables st.flags c.toNat) st).items =
        literals tables (c :: text) ++ st.items := by
      simp [push, literals, hflags]
    have hstate : { push (literal tables st.flags c.toNat) st with
        items := literals tables text ++ (push (literal tables st.flags c.toNat) st).items } =
        { st with items := literals tables (c :: text) ++ st.items } := by
      rw [hitems]
      simp [push, hrepeated]
    rw [hstate] at hrest
    rw [List.flatMap_cons]
    by_cases hc : c ∈ metaChars
    · rw [if_pos hc]
      refine .step ?_ (apply_item st _) hrest
      simp only [metaChars, List.mem_cons, List.not_mem_nil, or_false] at hc
      rcases hc with rfl | rfl | rfl | rfl | rfl | rfl | rfl | rfl | rfl | rfl | rfl | rfl | rfl | rfl
      all_goals rfl
    · rw [if_neg hc]
      exact (reads_char hc st _).trans hrest

theorem re_concatItems (items : List Item) :
    (concatItems items).re = items.foldl (fun rest item => .concat item.re rest) .empty := by
  have hfold : ∀ start : Item, (items.foldl (fun rest item =>
      ⟨.concat item.re rest.re, max item.repeats rest.repeats⟩) start).re =
        items.foldl (fun rest item => .concat item.re rest) start.re := by
    intro start
    induction items generalizing start with
    | nil => rfl
    | cons item items ih => exact ih _
  exact hfold _

end Parsing

end TunnelGateway.RegexpSplice
