import Mathlib.Data.List.Basic

/-!
The compact JSON text of strings, arrays and objects, with the escapes a
marshaller uses that also escapes HTML. A text is self-delimiting: it can be read
off the front of any longer text in one way, so equal texts come from equal
values.
-/
namespace TunnelGateway.JsonText

inductive Json where
  | str (s : String)
  | arr (items : List Json)
  | obj (fields : List (String × Json))

def hexDigit (n : ℕ) : Char := if n < 10 then Char.ofNat (48 + n) else Char.ofNat (87 + n)

def hexValue (c : Char) : ℕ := if c.toNat < 58 then c.toNat - 48 else c.toNat - 87

/-- The four hexadecimal digits after `\u`. -/
def hexDigits (n : ℕ) : List Char :=
  [hexDigit (n / 4096 % 16), hexDigit (n / 256 % 16), hexDigit (n / 16 % 16), hexDigit (n % 16)]

def quotationMark : Char := Char.ofNat 34
def reverseSolidus : Char := Char.ofNat 92

/-- Characters with a two-character escape, beside the letter of the escape. -/
def shortEscapes : List (Char × Char) :=
  [(quotationMark, quotationMark), (reverseSolidus, reverseSolidus), (Char.ofNat 8, 'b'),
    (Char.ofNat 12, 'f'), (Char.ofNat 10, 'n'), (Char.ofNat 13, 'r'), (Char.ofNat 9, 't')]

/-- Characters written as `\u` and four digits. -/
def escapedInHex (c : Char) : Bool :=
  c.toNat < 32 || "<>&".toList.contains c || c.toNat == 0x2028 || c.toNat == 0x2029

def escapeChar (c : Char) : List Char :=
  match shortEscapes.lookup c with
  | some letter => [reverseSolidus, letter]
  | none => if escapedInHex c then reverseSolidus :: 'u' :: hexDigits c.toNat else [c]

def quoted (s : String) : List Char :=
  quotationMark :: (s.toList.flatMap escapeChar ++ [quotationMark])

mutual

def text : Json → List Char
  | .str s => quoted s
  | .arr [] => ['[', ']']
  | .arr (x :: rest) => '[' :: (text x ++ textItems rest)
  | .obj [] => [Char.ofNat 123, Char.ofNat 125]
  | .obj ((key, value) :: rest) =>
      Char.ofNat 123 :: (quoted key ++ ':' :: (text value ++ textFields rest))

def textItems : List Json → List Char
  | [] => [']']
  | x :: rest => ',' :: (text x ++ textItems rest)

def textFields : List (String × Json) → List Char
  | [] => [Char.ofNat 125]
  | (key, value) :: rest => ',' :: (quoted key ++ ':' :: (text value ++ textFields rest))

end

/-- The character a text of escaped characters starts with, and the rest. -/
def unescapeChar : List Char → Option (Char × List Char)
  | [] => none
  | c :: rest =>
      if c ≠ reverseSolidus then some (c, rest)
      else
        match rest with
        | 'u' :: h₃ :: h₂ :: h₁ :: h₀ :: rest =>
            some (Char.ofNat (hexValue h₃ * 4096 + hexValue h₂ * 256 + hexValue h₁ * 16 +
              hexValue h₀), rest)
        | letter :: rest =>
            (shortEscapes.find? (·.2 == letter)).map fun escape => (escape.1, rest)
        | [] => none

theorem hexValue_hexDigit : ∀ n < 16, hexValue (hexDigit n) = n := by
  decide

theorem unescapeChar_hex (c : Char) (rest : List Char) (hsmall : c.toNat < 65536) :
    unescapeChar (reverseSolidus :: 'u' :: hexDigits c.toNat ++ rest) = some (c, rest) := by
  have h₃ := hexValue_hexDigit (c.toNat / 4096 % 16) (by omega)
  have h₂ := hexValue_hexDigit (c.toNat / 256 % 16) (by omega)
  have h₁ := hexValue_hexDigit (c.toNat / 16 % 16) (by omega)
  have h₀ := hexValue_hexDigit (c.toNat % 16) (by omega)
  have hvalue : c.toNat / 4096 % 16 * 4096 + c.toNat / 256 % 16 * 256 +
      c.toNat / 16 % 16 * 16 + c.toNat % 16 = c.toNat := by
    omega
  simp [hexDigits, unescapeChar, h₃, h₂, h₁, h₀, hvalue]

theorem unescapeChar_escapeChar (c : Char) (rest : List Char) :
    unescapeChar (escapeChar c ++ rest) = some (c, rest) := by
  unfold escapeChar
  split
  · rename_i letter hletter
    have hshort : ∀ escape ∈ shortEscapes, ∀ rest,
        unescapeChar ([reverseSolidus, escape.2] ++ rest) = some (escape.1, rest) := by
      simp only [shortEscapes, List.forall_mem_cons]
      refine ⟨?_, ?_, ?_, ?_, ?_, ?_, ?_, by simp⟩ <;> exact fun _ => rfl
    obtain ⟨before, after, hsplit, -⟩ := List.lookup_eq_some_iff.mp hletter
    exact hshort (c, letter) (by simp [hsplit]) rest
  · rename_i hnone
    split
    · rename_i hhex
      apply unescapeChar_hex
      simp only [escapedInHex, Bool.or_eq_true, decide_eq_true_eq, List.contains_iff_mem,
        beq_iff_eq] at hhex
      rcases hhex with ((hlow | hhtml) | hsep) | hsep
      · omega
      · have hall : ("<>&".toList.all fun c => c.toNat < 65536) = true := by decide
        exact of_decide_eq_true (List.all_eq_true.mp hall c hhtml)
      · omega
      · omega
    · have hsolidus : c ≠ reverseSolidus := by
        intro heq
        rw [heq] at hnone
        revert hnone
        decide
      simp [unescapeChar, hsolidus]

/-- An encoding that can be read off the front of any text in one way. -/
def SelfDelimiting {α : Type} (encode : α → List Char) : Prop :=
  ∀ a b r s, encode a ++ r = encode b ++ s → a = b ∧ r = s

theorem selfDelimiting_escapeChar : SelfDelimiting escapeChar := by
  intro c d r s h
  have hdecoded := congrArg unescapeChar h
  rw [unescapeChar_escapeChar, unescapeChar_escapeChar, Option.some.injEq, Prod.mk.injEq] at hdecoded
  exact hdecoded

/-- No escape starts with the closing mark. -/
theorem escapeChar_ne_quotationMark (c : Char) (r s : List Char) :
    escapeChar c ++ r ≠ quotationMark :: s := by
  intro h
  have hdecoded := congrArg unescapeChar h
  have hmark : unescapeChar (quotationMark :: s) = some (quotationMark, s) := rfl
  rw [unescapeChar_escapeChar, hmark, Option.some.injEq, Prod.mk.injEq] at hdecoded
  rw [hdecoded.1] at h
  have hhead := congrArg List.head? h
  revert hhead
  simp [escapeChar, shortEscapes, quotationMark, reverseSolidus]

theorem escaped_append_inj : ∀ a b r s : List Char,
    a.flatMap escapeChar ++ quotationMark :: r = b.flatMap escapeChar ++ quotationMark :: s →
      a = b ∧ r = s
  | [], [], r, s, h => ⟨rfl, by simpa using h⟩
  | [], d :: b, r, s, h => by
      rw [List.flatMap_cons, List.append_assoc] at h
      exact absurd h.symm (escapeChar_ne_quotationMark d _ r)
  | c :: a, [], r, s, h => by
      rw [List.flatMap_cons, List.append_assoc] at h
      exact absurd h (escapeChar_ne_quotationMark c _ s)
  | c :: a, d :: b, r, s, h => by
      rw [List.flatMap_cons, List.flatMap_cons, List.append_assoc, List.append_assoc] at h
      obtain ⟨hcd, hrest⟩ := selfDelimiting_escapeChar c d _ _ h
      obtain ⟨hab, hrs⟩ := escaped_append_inj a b r s hrest
      exact ⟨by rw [hcd, hab], hrs⟩

theorem selfDelimiting_quoted : SelfDelimiting quoted := by
  intro a b r s h
  simp only [quoted, List.cons_append, List.append_assoc, List.cons.injEq,
    true_and] at h
  obtain ⟨hab, hrs⟩ := escaped_append_inj a.toList b.toList r s h
  exact ⟨String.toList_inj.mp hab, hrs⟩

/-- The character a value starts with tells its shape. -/
def opening : Json → Char
  | .str _ => quotationMark
  | .arr _ => '['
  | .obj _ => Char.ofNat 123

theorem text_head (a : Json) (r : List Char) : (text a ++ r).head? = some (opening a) := by
  cases a with
  | str s => rfl
  | arr items => cases items <;> simp [text, opening]
  | obj fields => cases fields <;> simp [text, opening]

theorem text_ne_closing (a : Json) (r s : List Char) : text a ++ r ≠ ']' :: s := by
  intro h
  have hhead := congrArg List.head? h
  rw [text_head, List.head?_cons] at hhead
  cases a <;> simp [opening, quotationMark] at hhead

-- A different shape opens with a different character; an empty list closes where
-- the other one has its first element.
mutual

theorem selfDelimiting_text : ∀ a b r s, text a ++ r = text b ++ s → a = b ∧ r = s := by
  intro a b r s h
  have hopen := congrArg List.head? h
  rw [text_head, text_head, Option.some.injEq] at hopen
  match a, b with
  | .str x, .str y =>
    obtain ⟨hxy, hrs⟩ := selfDelimiting_quoted x y r s (by simpa only [text] using h)
    exact ⟨by rw [hxy], hrs⟩
  | .str x, .arr ys | .str x, .obj ys | .arr xs, .str y | .arr xs, .obj ys | .obj xs, .str y
  | .obj xs, .arr ys => simp [opening, quotationMark] at hopen
  | .arr [], .arr [] => exact ⟨rfl, by simpa [text] using h⟩
  | .arr [], .arr (y :: ys) =>
    simp only [text, List.cons_append, List.append_assoc, List.nil_append, List.cons.injEq,
      true_and] at h
    exact absurd h.symm (text_ne_closing y _ r)
  | .arr (x :: xs), .arr [] =>
    simp only [text, List.cons_append, List.append_assoc, List.nil_append, List.cons.injEq,
      true_and] at h
    exact absurd h (text_ne_closing x _ s)
  | .arr (x :: xs), .arr (y :: ys) =>
    simp only [text, List.cons_append, List.append_assoc, List.cons.injEq, true_and] at h
    obtain ⟨hxy, hrest⟩ := selfDelimiting_text x y _ _ h
    obtain ⟨hxs, hrs⟩ := textItems_append_inj xs ys r s hrest
    exact ⟨by rw [hxy, hxs], hrs⟩
  | .obj [], .obj [] => exact ⟨rfl, by simpa [text] using h⟩
  | .obj [], .obj ((l, y) :: ys) => simp [text, quoted, quotationMark] at h
  | .obj ((k, x) :: xs), .obj [] => simp [text, quoted, quotationMark] at h
  | .obj ((k, x) :: xs), .obj ((l, y) :: ys) =>
    simp only [text, List.cons_append, List.append_assoc, List.cons.injEq, true_and] at h
    obtain ⟨hkl, hvalue⟩ := selfDelimiting_quoted k l _ _ h
    rw [List.cons.injEq] at hvalue
    obtain ⟨hxy, hrest⟩ := selfDelimiting_text x y _ _ hvalue.2
    obtain ⟨hxs, hrs⟩ := textFields_append_inj xs ys r s hrest
    exact ⟨by rw [hkl, hxy, hxs], hrs⟩

theorem textItems_append_inj :
    ∀ a b r s, textItems a ++ r = textItems b ++ s → a = b ∧ r = s := by
  intro a b r s h
  match a, b with
  | [], [] => exact ⟨rfl, by simpa [textItems] using h⟩
  | [], y :: ys => simp [textItems] at h
  | x :: xs, [] => simp [textItems] at h
  | x :: xs, y :: ys =>
    simp only [textItems, List.cons_append, List.append_assoc, List.cons.injEq, true_and] at h
    obtain ⟨hxy, hrest⟩ := selfDelimiting_text x y _ _ h
    obtain ⟨hxs, hrs⟩ := textItems_append_inj xs ys r s hrest
    exact ⟨by rw [hxy, hxs], hrs⟩

theorem textFields_append_inj :
    ∀ a b r s, textFields a ++ r = textFields b ++ s → a = b ∧ r = s := by
  intro a b r s h
  match a, b with
  | [], [] => exact ⟨rfl, by simpa [textFields] using h⟩
  | [], (l, y) :: ys => simp [textFields] at h
  | (k, x) :: xs, [] => simp [textFields] at h
  | (k, x) :: xs, (l, y) :: ys =>
    simp only [textFields, List.cons_append, List.append_assoc, List.cons.injEq, true_and] at h
    obtain ⟨hkl, hvalue⟩ := selfDelimiting_quoted k l _ _ h
    rw [List.cons.injEq] at hvalue
    obtain ⟨hxy, hrest⟩ := selfDelimiting_text x y _ _ hvalue.2
    obtain ⟨hxs, hrs⟩ := textFields_append_inj xs ys r s hrest
    exact ⟨by rw [hkl, hxy, hxs], hrs⟩

end

theorem text_injective {a b : Json} (h : text a = text b) : a = b := by
  have happend : text a ++ [] = text b ++ [] := by rw [h]
  exact (selfDelimiting_text a b [] [] happend).1

/-- The fields of a record once the empty ones are left out. -/
def omitEmpty (fields : List (String × Option Json)) : List (String × Json) :=
  fields.filterMap fun field => field.2.map (Prod.mk field.1)

theorem mem_names_of_mem_omitEmpty {fields : List (String × Option Json)} {name : String}
    {value : Json} (h : (name, value) ∈ omitEmpty fields) : name ∈ fields.map Prod.fst := by
  obtain ⟨field, hfield, hsome⟩ := List.mem_filterMap.mp h
  obtain ⟨found, -, heq⟩ := Option.map_eq_some_iff.mp hsome
  rw [Prod.mk.injEq] at heq
  exact List.mem_map.mpr ⟨field, hfield, heq.1⟩

/-- Leaving out empty fields loses nothing when the names are known. -/
theorem omitEmpty_inj : ∀ {a b : List (String × Option Json)},
    a.map Prod.fst = b.map Prod.fst → (a.map Prod.fst).Nodup → omitEmpty a = omitEmpty b → a = b
  | [], [], _, _, _ => rfl
  | [], _ :: _, hnames, _, _ => by simp at hnames
  | _ :: _, [], hnames, _, _ => by simp at hnames
  | (name, x) :: a, (name', y) :: b, hnames, hnodup, h => by
      rw [List.map_cons, List.map_cons, List.cons.injEq] at hnames
      obtain ⟨hname, hrest⟩ := hnames
      have hname : name = name' := hname
      subst hname
      rw [List.map_cons, List.nodup_cons] at hnodup
      cases x with
      | none =>
        cases y with
        | none =>
          have htail : omitEmpty a = omitEmpty b := by simpa [omitEmpty] using h
          rw [omitEmpty_inj hrest hnodup.2 htail]
        | some w =>
          have hmem : (name, w) ∈ omitEmpty a := by
            have hhead : omitEmpty a = (name, w) :: omitEmpty b := by simpa [omitEmpty] using h
            simp [hhead]
          exact absurd (mem_names_of_mem_omitEmpty hmem) hnodup.1
      | some v =>
        cases y with
        | none =>
          have hmem : (name, v) ∈ omitEmpty b := by
            have hhead : (name, v) :: omitEmpty a = omitEmpty b := by simpa [omitEmpty] using h
            simp [← hhead]
          rw [hrest] at hnodup
          exact absurd (mem_names_of_mem_omitEmpty hmem) hnodup.1
        | some w =>
          have hcons : v = w ∧ omitEmpty a = omitEmpty b := by simpa [omitEmpty] using h
          rw [hcons.1, omitEmpty_inj hrest hnodup.2 hcons.2]

end TunnelGateway.JsonText
