import TunnelGateway.RegexpMatching

/-!
The regular expressions of Go's `regexp` package, read as its parser reads them: a
stack of open groups over a text that is consumed token by token. The Unicode
tables are parameters. Greediness and capture numbers do not decide whether a text
matches and are dropped; so are the limits on the size and the nesting of very
large expressions. The parser marks a state as `dangling` when it ran to the end of
the text in search of `\E` or `:]` without finding it: such a pattern depends on what
is written after it.
-/
namespace TunnelGateway.GoRegexp

open RegexpMatching

/-- `orbit c` are the characters that fold to the same character as `c`, itself
included; `property` are the named character classes. -/
structure Tables where
  orbit : Char → List Char
  property : String → Option (Char → Bool)

structure Flags where
  foldCase : Bool := false
  dotNL : Bool := false
  oneLine : Bool := true
  deriving DecidableEq

section Classes

variable (tables : Tables) (flags : Flags)

def inRanges (ranges : List (ℕ × ℕ)) (c : Char) : Bool :=
  ranges.any fun range => range.1 ≤ c.toNat && c.toNat ≤ range.2

/-- Under `(?i)` a set takes in every character with a member in its orbit. -/
def fold (p : Char → Bool) : Char → Bool :=
  if flags.foldCase then fun c => (tables.orbit c).any p else p

def negateIf (negated : Bool) (p : Char → Bool) : Char → Bool := fun c => p c != negated

def posixClasses : List (String × List (ℕ × ℕ)) :=
  [("alnum", [(0x30, 0x39), (0x41, 0x5a), (0x61, 0x7a)]),
    ("alpha", [(0x41, 0x5a), (0x61, 0x7a)]),
    ("ascii", [(0x0, 0x7f)]),
    ("blank", [(0x9, 0x9), (0x20, 0x20)]),
    ("cntrl", [(0x0, 0x1f), (0x7f, 0x7f)]),
    ("digit", [(0x30, 0x39)]),
    ("graph", [(0x21, 0x7e)]),
    ("lower", [(0x61, 0x7a)]),
    ("print", [(0x20, 0x7e)]),
    ("punct", [(0x21, 0x2f), (0x3a, 0x40), (0x5b, 0x60), (0x7b, 0x7e)]),
    ("space", [(0x9, 0xd), (0x20, 0x20)]),
    ("upper", [(0x41, 0x5a)]),
    ("word", [(0x30, 0x39), (0x41, 0x5a), (0x5f, 0x5f), (0x61, 0x7a)]),
    ("xdigit", [(0x30, 0x39), (0x41, 0x46), (0x61, 0x66)])]

def posixGroup (name : List Char) : Option (Char → Bool) :=
  let negated := name.head? == some '^'
  (posixClasses.lookup (String.ofList (if negated then name.tail else name))).map fun ranges =>
    negateIf negated (fold tables flags (inRanges ranges))

def perlClasses : List (Char × Bool × List (ℕ × ℕ)) :=
  [('d', false, [(0x30, 0x39)]), ('D', true, [(0x30, 0x39)]),
    ('s', false, [(0x9, 0xa), (0xc, 0xd), (0x20, 0x20)]),
    ('S', true, [(0x9, 0xa), (0xc, 0xd), (0x20, 0x20)]),
    ('w', false, [(0x30, 0x39), (0x41, 0x5a), (0x5f, 0x5f), (0x61, 0x7a)]),
    ('W', true, [(0x30, 0x39), (0x41, 0x5a), (0x5f, 0x5f), (0x61, 0x7a)])]

def perlGroup (c : Char) : Option (Char → Bool) :=
  (perlClasses.lookup c).map fun group =>
    negateIf group.1 (fold tables flags (inRanges group.2))

def unicodeGroup (negated : Bool) (name : List Char) : Option (Char → Bool) :=
  let caret := name.head? == some '^'
  (tables.property (String.ofList (if caret then name.tail else name))).map fun p =>
    negateIf (negated != caret) (fold tables flags p)

end Classes

section Scanning

/-- Cut a text at the first `c`. -/
def cut (c : Char) : List Char → Option (List Char × List Char)
  | [] => none
  | d :: t => if d = c then some ([], t) else (cut c t).map fun parts => (d :: parts.1, parts.2)

/-- Cut a text at the first `a` followed by `b`. -/
def cutPair (a b : Char) : List Char → Option (List Char × List Char)
  | c :: d :: t =>
      if c = a ∧ d = b then some ([], t)
      else (cutPair a b (d :: t)).map fun parts => (c :: parts.1, parts.2)
  | _ => none

def isOctal (c : Char) : Bool := '0' ≤ c && c ≤ '7'

def unhex (c : Char) : Option ℕ :=
  if c.isDigit then some (c.toNat - 48)
  else if 'A' ≤ c ∧ c ≤ 'F' then some (c.toNat - 55)
  else if 'a' ≤ c ∧ c ≤ 'f' then some (c.toNat - 87)
  else none

/-- At most `n` more octal digits. -/
def readOctal (value : ℕ) : ℕ → List Char → ℕ × List Char
  | n + 1, c :: t =>
      if isOctal c then readOctal (value * 8 + (c.toNat - 48)) n t else (value, c :: t)
  | _, t => (value, t)

/-- Hexadecimal digits up to the closing brace, at least one. -/
def readHexBrace (value : ℕ) (seen : Bool) : List Char → Option (ℕ × List Char)
  | [] => none
  | c :: t =>
      if c = '}' then if seen then some (value, t) else none
      else (unhex c).bind fun digit =>
        if value * 16 + digit > 0x10ffff then none else readHexBrace (value * 16 + digit) true t

def readHexDigit : List Char → Option (ℕ × List Char)
  | [] => none
  | c :: t => (unhex c).map fun digit => (digit, t)

/-- Two hexadecimal digits, or any number in braces. -/
def readHex (t : List Char) : Option (ℕ × List Char) :=
  if t.head? = some '{' then readHexBrace 0 false t.tail
  else
    (readHexDigit t).bind fun high =>
      (readHexDigit high.2).map fun low => (high.1 * 16 + low.1, low.2)

def cEscapes : List (Char × ℕ) := [('a', 7), ('f', 12), ('n', 10), ('r', 13), ('t', 9), ('v', 11)]

/-- `parseEscape`, after the backslash. A single nonzero digit would be a backreference. -/
def parseEscape : List Char → Option (ℕ × List Char)
  | [] => none
  | c :: t =>
      if c = 'x' then readHex t
      else if isOctal c then
        if c = '0' ∨ t.head?.any isOctal then some (readOctal (c.toNat - 48) 2 t) else none
      else
        match cEscapes.lookup c with
        | some value => some (value, t)
        | none => if c.toNat < 128 ∧ c.isAlphanum = false then some (c.toNat, t) else none

def readDigits (value : ℕ) : List Char → ℕ × List Char
  | [] => (value, [])
  | c :: t =>
      if c.isDigit then readDigits (value * 10 + (c.toNat - 48)) t else (value, c :: t)

/-- `parseInt`; leading zeros are not allowed. -/
def readInt : List Char → Option (ℕ × List Char)
  | [] => none
  | c :: t =>
      if c.isDigit = false ∨ c = '0' ∧ t.head?.any Char.isDigit then none
      else some (readDigits 0 (c :: t))

def closeRepeat (min : ℕ) (max : Option ℕ) (t : List Char) :
    Option ((ℕ × Option ℕ) × List Char) :=
  if t.head? = some '}' then some ((min, max), t.tail) else none

/-- The bounds of a counted repetition, after the opening brace. -/
def parseRepeat (t : List Char) : Option ((ℕ × Option ℕ) × List Char) :=
  (readInt t).bind fun least =>
    if least.2.head? = some ',' then
      if least.2.tail.head? = some '}' then some ((least.1, none), least.2.tail.tail)
      else (readInt least.2.tail).bind fun most => closeRepeat least.1 (some most.1) most.2
    else closeRepeat least.1 (some least.1) least.2

end Scanning

section Brackets

variable (tables : Tables) (flags : Flags)

def parseClassChar : List Char → Option (ℕ × List Char)
  | [] => none
  | c :: t => if c = '\\' then parseEscape t else some (c.toNat, t)

/-- `parseUnicodeClass`, after the letter. -/
def parseUnicodeClass (negated : Bool) : List Char → Option ((Char → Bool) × List Char)
  | [] => none
  | c :: t =>
      if c = '{' then
        (cut '}' t).bind fun parts =>
          (unicodeGroup tables flags negated parts.1).map fun p => (p, parts.2)
      else (unicodeGroup tables flags negated [c]).map fun p => (p, t)

/-- The end of a range that starts at `low`, if it is one. A dash at the end of the text
leaves the bracket open. -/
def rangeEnd (low : ℕ) : List Char → Option (ℕ × List Char)
  | [] => some (low, [])
  | c :: t =>
      if c = '-' then
        if t = [] then none
        else if t.head? = some ']' then some (low, c :: t)
        else parseClassChar t
      else some (low, c :: t)

def parseRange (t : List Char) : Option ((Char → Bool) × List Char) :=
  (parseClassChar t).bind fun low =>
    (rangeEnd low.1 low.2).bind fun high =>
      if high.1 < low.1 then none
      else some (fold tables flags (inRanges [(low.1, high.1)]), high.2)

/-- A set read from the text, and whether a `:]` was missed on the way. -/
structure ClassSet where
  set : Char → Bool
  dangling : Bool := false

def rangeItem (dangling : Bool) (t : List Char) : Option (ClassSet × List Char) :=
  (parseRange tables flags t).map fun item => (⟨item.1, dangling⟩, item.2)

/-- `[:name:]`, if the name is closed. -/
def namedItem (t : List Char) : Option (ClassSet × List Char) :=
  match cutPair ':' ']' t with
  | some parts => (posixGroup tables flags parts.1).map fun p => (⟨p, false⟩, parts.2)
  | none => rangeItem tables flags true ('[' :: ':' :: t)

/-- An item that starts with a backslash. -/
def escapedItem : List Char → Option (ClassSet × List Char)
  | [] => none
  | c :: t =>
      if c = 'p' ∨ c = 'P' then
        (parseUnicodeClass tables flags (c = 'P') t).map fun item => (⟨item.1, false⟩, item.2)
      else
        match perlGroup tables flags c with
        | some p => some (⟨p, false⟩, t)
        | none => rangeItem tables flags false ('\\' :: c :: t)

/-- One item of a bracket expression. -/
def classItem : List Char → Option (ClassSet × List Char)
  | [] => none
  | c :: t =>
      if c = '[' ∧ t.head? = some ':' then namedItem tables flags t.tail
      else if c = '\\' then escapedItem tables flags t
      else rangeItem tables flags false (c :: t)

/-- The items up to the closing bracket, which as `first` stands for itself. -/
def classLoop : ℕ → Bool → ClassSet → List Char → Option (ClassSet × List Char)
  | 0, _, _, _ => none
  | n + 1, first, found, t =>
      if t.head? = some ']' ∧ first = false then some (found, t.tail)
      else
        (classItem tables flags t).bind fun item =>
          classLoop n false
            ⟨fun c => found.set c || item.1.set c, found.dangling || item.1.dangling⟩ item.2

def bracketBody (negated : Bool) (t : List Char) : Option (ClassSet × List Char) :=
  (classLoop tables flags (t.length + 1) true ⟨fun _ => false, false⟩ t).map fun found =>
    (⟨negateIf negated found.1.set, found.1.dangling⟩, found.2)

/-- `parseClass`, after the opening bracket. -/
def parseClass (t : List Char) : Option (ClassSet × List Char) :=
  if t.head? = some '^' then bracketBody tables flags true t.tail
  else bracketBody tables flags false t

end Brackets

section Tokens

/-- An expression and the largest product of the counted repetitions nested in it. -/
structure Item where
  re : Regexp
  repeats : ℕ := 1

inductive Token where
  | items (items : List Item) (dangling : Bool)
  | openGroup (flags : Flags)
  | setFlags (flags : Flags)
  | bar
  | closeGroup
  | repeatOp (min : ℕ) (max : Option ℕ) (counted : Bool)

def Token.dangling : Token → Bool
  | .items _ dangling => dangling
  | _ => false

variable (tables : Tables) (flags : Flags)

def literal (value : ℕ) : Item := ⟨.char (fold tables flags fun c => c.toNat == value), 1⟩

def single (re : Regexp) : Token := .items [⟨re, 1⟩] false

def setFlag (negated : Bool) (c : Char) : Option Flags :=
  if c = 'i' then some { flags with foldCase := !negated }
  else if c = 'm' then some { flags with oneLine := negated }
  else if c = 's' then some { flags with dotNL := !negated }
  else if c = 'U' then some flags
  else none

def readFlags (flags : Flags) (negated seen : Bool) : List Char → Option (Token × List Char)
  | [] => none
  | c :: t =>
      if c = ':' ∨ c = ')' then
        if negated && !seen then none
        else some (if c = ':' then .openGroup flags else .setFlags flags, t)
      else if c = '-' then if negated then none else readFlags flags true false t
      else (setFlag flags negated c).bind fun flags => readFlags flags negated true t

def isValidCaptureName (name : List Char) : Bool := !name.isEmpty && name.all isWordChar

/-- A named group, after the `<`. -/
def namedGroup (t : List Char) : Option (Token × List Char) :=
  (cut '>' t).bind fun parts =>
    if isValidCaptureName parts.1 then some (.openGroup flags, parts.2) else none

/-- `parsePerlFlags`, after `(?`. -/
def parsePerlFlags (t : List Char) : Option (Token × List Char) :=
  if t.head? = some '<' then namedGroup flags t.tail
  else if t.head? = some 'P' ∧ t.tail.head? = some '<' then namedGroup flags t.tail.tail
  else readFlags flags false false t

/-- What follows a backslash. -/
def parseBackslash : List Char → Option (Token × List Char)
  | [] => none
  | c :: t =>
      if c = 'A' then some (single (.look .beginText), t)
      else if c = 'b' then some (single (.look .wordBoundary), t)
      else if c = 'B' then some (single (.look .noWordBoundary), t)
      else if c = 'z' then some (single (.look .endText), t)
      else if c = 'C' then none
      else if c = 'Q' then
        match cutPair '\\' 'E' t with
        | some parts => some (.items (parts.1.map (literal tables flags ·.toNat)) false, parts.2)
        | none => some (.items (t.map (literal tables flags ·.toNat)) true, [])
      else if c = 'p' ∨ c = 'P' then
        (parseUnicodeClass tables flags (c = 'P') t).map fun item => (single (.char item.1), item.2)
      else
        match perlGroup tables flags c with
        | some p => some (single (.char p), t)
        | none =>
            (parseEscape (c :: t)).map fun value =>
              (.items [literal tables flags value.1] false, value.2)

/-- A repetition may be marked lazy, which does not change what matches. -/
def skipLazy (t : List Char) : List Char := if t.head? = some '?' then t.tail else t

def countedRepeat (bounds : ℕ × Option ℕ) : Option Token :=
  if bounds.1 > 1000 ∨ bounds.2.any (fun most => most > 1000 || most < bounds.1) then none
  else some (.repeatOp bounds.1 bounds.2 true)

/-- A repetition in braces; braces that are none stand for themselves. -/
def bracedRepeat (t : List Char) : Option (Token × List Char) :=
  match parseRepeat t with
  | some bounds => (countedRepeat bounds.1).map fun tok => (tok, skipLazy bounds.2)
  | none => some (.items [literal tables flags '{'.toNat] false, t)

def token : List Char → Option (Token × List Char)
  | [] => none
  | c :: t =>
      if c = '(' then
        if t.head? = some '?' then parsePerlFlags flags t.tail else some (.openGroup flags, t)
      else if c = '|' then some (.bar, t)
      else if c = ')' then some (.closeGroup, t)
      else if c = '^' then
        some (single (.look (if flags.oneLine then .beginText else .beginLine)), t)
      else if c = '$' then
        some (single (.look (if flags.oneLine then .endText else .endLine)), t)
      else if c = '.' then some (single (.char fun c => flags.dotNL || c != '\n'), t)
      else if c = '[' then
        (parseClass tables flags t).map fun found =>
          (.items [⟨.char found.1.set, 1⟩] found.1.dangling, found.2)
      else if c = '*' then some (.repeatOp 0 none false, skipLazy t)
      else if c = '+' then some (.repeatOp 1 none false, skipLazy t)
      else if c = '?' then some (.repeatOp 0 (some 1) false, skipLazy t)
      else if c = '{' then bracedRepeat tables flags t
      else if c = '\\' then parseBackslash tables flags t
      else some (.items [literal tables flags c.toNat] false, t)

end Tokens

section Parsing

def times (a : Regexp) : ℕ → Regexp
  | 0 => .empty
  | n + 1 => .concat a (times a n)

def upTo (a : Regexp) : ℕ → Regexp
  | 0 => .empty
  | n + 1 => .alternate (.concat a (upTo a n)) .empty

def repetition (min : ℕ) (max : Option ℕ) (a : Regexp) : Regexp :=
  .concat (times a min) (max.elim (.star a) fun max => upTo a (max - min))

/-- A group that is still open. -/
structure Frame where
  flags : Flags
  branches : List Item
  items : List Item

/-- The innermost open group: its finished branches and the items of the current one, the
last first, and the groups around it. -/
structure State where
  flags : Flags := {}
  branches : List Item := []
  items : List Item := []
  outer : List Frame := []
  repeated : Bool := false
  dangling : Bool := false

def concatItems (items : List Item) : Item :=
  items.foldl (fun rest item => ⟨.concat item.re rest.re, max item.repeats rest.repeats⟩)
    ⟨.empty, 1⟩

def alternateItems (branches : List Item) (last : Item) : Item :=
  branches.foldl (fun rest item => ⟨.alternate item.re rest.re, max item.repeats rest.repeats⟩) last

/-- The innermost group as an expression. -/
def State.close (st : State) : Item := alternateItems st.branches (concatItems st.items)

/-- The nested product after one more repetition; only counted ones count. -/
def repeatWeight (counted : Bool) (min : ℕ) (max : Option ℕ) (repeats : ℕ) : ℕ :=
  if counted then if max = some 0 then 1 else Nat.max (max.getD min) 1 * repeats else repeats

/-- The last item is repeated; repetition operators do not stack. -/
def State.repeatLast (st : State) (min : ℕ) (max : Option ℕ) (counted : Bool) : Option State :=
  match st.repeated, st.items with
  | false, item :: items =>
      let repeats := repeatWeight counted min max item.repeats
      if counted ∧ (2 ≤ min ∨ max.any (2 ≤ ·)) ∧ 1000 < repeats then none
      else some { st with items := ⟨repetition min max item.re, repeats⟩ :: items, repeated := true }
  | _, _ => none

def State.apply (st : State) : Token → Option State
  | .items items dangling => some { st with
      items := items.reverse ++ st.items
      repeated := false
      dangling := st.dangling || dangling }
  | .openGroup flags => some { st with
      flags := flags
      branches := []
      items := []
      outer := ⟨st.flags, st.branches, st.items⟩ :: st.outer
      repeated := false }
  | .setFlags flags => some { st with flags := flags, repeated := false }
  | .bar => some { st with
      branches := concatItems st.items :: st.branches
      items := []
      repeated := false }
  | .closeGroup =>
      match st.outer with
      | [] => none
      | frame :: outer => some { st with
          flags := frame.flags
          branches := frame.branches
          items := st.close :: frame.items
          outer := outer
          repeated := false }
  | .repeatOp min max counted => st.repeatLast min max counted

variable (tables : Tables)

def run : ℕ → State → List Char → Option State
  | _, st, [] => some st
  | 0, _, _ :: _ => none
  | n + 1, st, c :: t =>
      (token tables st.flags (c :: t)).bind fun tok =>
        (st.apply tok.1).bind fun st => run n st tok.2

/-- `syntax.Parse` with the flags of `regexp.Compile`. -/
def parseState (pattern : List Char) : Option State :=
  (run tables pattern.length {} pattern).filter (·.outer.isEmpty)

def parse (pattern : String) : Option Regexp :=
  (parseState tables pattern.toList).map (·.close.re)

end Parsing

section Quoting

def metaChars : List Char :=
  ['\\', '.', '+', '*', '?', '(', ')', '|', '[', ']', '{', '}', '^', '$']

/-- `QuoteMeta`. -/
def quoteMeta (text : String) : String :=
  String.ofList (text.toList.flatMap fun c => if c ∈ metaChars then ['\\', c] else [c])

end Quoting

end TunnelGateway.GoRegexp
