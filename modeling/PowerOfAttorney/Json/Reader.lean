import PowerOfAttorney.Json
import PowerOfAttorney.Text.Ascii
import PowerOfAttorney.Text.Decimal

/-!
Reading a JSON value from its text.

The text is first cut into marks, quoted texts and bare words, one character at a time; the words are
`null`, `true`, `false` and numbers. The tokens then drive a stack of containers that are part way through.
Both passes are folds, so each ends with its input.

An escape of four digits may be half of a character. A half that stands alone does not make the text ill-formed,
for it may stand where a reader passes over it; the value that holds it is `garbled`. A text that is to be kept
whole has none.
-/

namespace PowerOfAttorney.Json

open Text

/-! ### Quoted texts -/

/-- What a quoted text is made of. -/
inductive Glyph where
  | char (c : Char)
  /-- The number that four digits write: a character, or half of one. -/
  | unit (n : Nat)
deriving Repr, DecidableEq

/-- Whether a number is the first half of a character. -/
def isHighHalf (n : Nat) : Bool := 0xD800 ≤ n && n < 0xDC00

/-- Whether a number is the second half of a character. -/
def isLowHalf (n : Nat) : Bool := 0xDC00 ≤ n && n < 0xE000

/-- The character of two halves. -/
def ofHalves (high low : Nat) : Char := Char.ofNat (0x10000 + (high - 0xD800) * 0x400 + (low - 0xDC00))

/-- One more glyph after characters in reverse and perhaps a first half; `none` if a half stands alone. -/
def takeGlyph : List Char × Option Nat → Glyph → Option (List Char × Option Nat)
  | (done, none), .char c => some (c :: done, none)
  | (done, none), .unit n =>
    if isHighHalf n then some (done, some n)
    else if isLowHalf n then none
    else some (Char.ofNat n :: done, none)
  | (_, some _), .char _ => none
  | (done, some h), .unit n => if isLowHalf n then some (ofHalves h n :: done, none) else none

/-- The text that glyphs write; `none` if a half stands alone. -/
def ofGlyphs? (glyphs : List Glyph) : Option String :=
  match glyphs.foldlM takeGlyph ([], none) with
  | some (done, none) => some (String.ofList done.reverse)
  | _ => none

theorem foldlM_takeGlyph_map_char (cs done : List Char) :
    (cs.map Glyph.char).foldlM takeGlyph (done, none) = some (cs.reverse ++ done, none) := by
  induction cs generalizing done with
  | nil => rfl
  | cons c cs ih => simp [takeGlyph, ih]

/-- Characters without escapes of four digits write themselves. -/
@[simp] theorem ofGlyphs?_map_char (cs : List Char) : ofGlyphs? (cs.map .char) = some (String.ofList cs) := by
  simp [ofGlyphs?, foldlM_takeGlyph_map_char]

/-! ### Tokens -/

/-- A piece of a JSON text. -/
inductive Token where
  /-- A bracket, a brace, a colon or a comma. -/
  | mark (c : Char)
  | quoted (glyphs : List Glyph)
  /-- Characters that stand together outside quotes. -/
  | word (cs : List Char)
deriving Repr, DecidableEq

/-- Where the cutting of a text into tokens stands; what was read of a token is held in reverse. -/
inductive Scan where
  | between
  | inWord (seen : List Char)
  | inText (seen : List Glyph)
  /-- After a backslash. -/
  | escaped (seen : List Glyph)
  /-- Inside the four digits of an escape. -/
  | unit (seen : List Glyph) (value digits : Nat)
deriving Repr, DecidableEq

/-- The four characters that may stand between tokens. -/
def isSpace (c : Char) : Bool :=
  let n := c.toNat
  n == 32 || n == 9 || n == 10 || n == 13

/-- A bracket, a brace, a colon or a comma. -/
def isMark (c : Char) : Bool :=
  let n := c.toNat
  n == 91 || n == 93 || n == 123 || n == 125 || n == 58 || n == 44

/-- A character of a bare word. -/
def isWordChar (c : Char) : Bool := isAlphanumeric c || c == '+' || c == '-' || c == '.'

/-- The character that a letter after a backslash stands for. -/
def unescapeLetter? (c : Char) : Option Char :=
  match c.toNat with
  | 34 => some c
  | 92 => some c
  | 47 => some c
  | 98 => some (Char.ofNat 8)
  | 102 => some (Char.ofNat 12)
  | 110 => some (Char.ofNat 10)
  | 114 => some (Char.ofNat 13)
  | 116 => some (Char.ofNat 9)
  | _ => none

/-- One character outside quotes and words. -/
def scanBetween (done : List Token) (c : Char) : Option (List Token × Scan) :=
  if isSpace c then some (done, .between)
  else if isMark c then some (.mark c :: done, .between)
  else if c.toNat = 34 then some (done, .inText [])
  else if isWordChar c then some (done, .inWord [c])
  else none

/-- One character of a text that is cut into tokens; the tokens are held in reverse. -/
def scanChar : List Token × Scan → Char → Option (List Token × Scan)
  | (done, .between), c => scanBetween done c
  | (done, .inWord seen), c =>
    if isWordChar c then some (done, .inWord (c :: seen)) else scanBetween (.word seen.reverse :: done) c
  | (done, .inText seen), c =>
    if c.toNat = 34 then some (.quoted seen.reverse :: done, .between)
    else if c.toNat = 92 then some (done, .escaped seen)
    else if c.toNat < 32 then none
    else some (done, .inText (.char c :: seen))
  | (done, .escaped seen), c =>
    if c = 'u' then some (done, .unit seen 0 0)
    else (unescapeLetter? c).map fun l => (done, .inText (.char l :: seen))
  | (done, .unit seen value digits), c =>
    (hexValue? c).map fun d =>
      (done, if digits = 3 then .inText (.unit (16 * value + d) :: seen) else .unit seen (16 * value + d) (digits + 1))

/-- The tokens of a text; `none` if a quoted text is left open or a character has no place. -/
def tokens? (cs : List Char) : Option (List Token) :=
  match cs.foldlM scanChar ([], .between) with
  | some (done, .between) => some done.reverse
  | some (done, .inWord seen) => some (.word seen.reverse :: done).reverse
  | _ => none

/-! ### Numbers -/

/-- Whether all characters are digits and there is one. -/
def isDigits (cs : List Char) : Bool := !cs.isEmpty && cs.all fun c => (Decimal.digit? c).isSome

/-- Whether the characters are a whole number without a needless zero in front. -/
def isWhole (cs : List Char) : Bool := isDigits cs && (cs.length == 1 || cs.head? != some '0')

/-- Whether the characters are an exponent: a sign that may be left out, and digits. -/
def isExponent : List Char → Bool
  | c :: r => if c == '+' || c == '-' then isDigits r else isDigits (c :: r)
  | [] => false

/-- Reads a number without its sign; `true` where it has neither fraction nor exponent. -/
def unsignedNumber? (cs : List Char) : Option Bool :=
  let isE := fun (c : Char) => c == 'e' || c == 'E'
  let mantissa := cs.takeWhile fun c => !isE c
  let exponent := cs.dropWhile fun c => !isE c
  let whole := mantissa.takeWhile fun c => c != '.'
  let fraction := mantissa.dropWhile fun c => c != '.'
  if isWhole whole && (fraction.isEmpty || isDigits fraction.tail) &&
      (exponent.isEmpty || isExponent exponent.tail) then
    some (fraction.isEmpty && exponent.isEmpty)
  else none

/-- The value of a bare word. A negative zero is no whole number. -/
def ofLiteral? (cs : List Char) : Option Json :=
  if cs = ['n', 'u', 'l', 'l'] then some .null
  else if cs = ['t', 'r', 'u', 'e'] then some (.bool true)
  else if cs = ['f', 'a', 'l', 's', 'e'] then some (.bool false)
  else
    let negative := cs.head? == some '-'
    match unsignedNumber? (if negative then cs.tail else cs) with
    | none => none
    | some false => some (.real (String.ofList cs))
    | some true =>
      if cs = ['-', '0'] then some (.real (String.ofList cs)) else (Decimal.integerOfChars? cs).map .int

/-! ### Values -/

/-- The value of a quoted text. -/
def ofQuoted (glyphs : List Glyph) : Json :=
  match ofGlyphs? glyphs with
  | some s => .text s
  | none => .garbled

/-- The object of members whose names may be garbled; then it is, too. -/
def ofMembers (members : List (Option String × Json)) : Json :=
  match members.mapM fun m => m.1.map fun name => (name, m.2) with
  | some named => .object named
  | none => .garbled

/-- A container part way through; what it holds so far is in reverse. -/
inductive Frame where
  | array (done : List Json)
  | object (done : List (Option String × Json)) (key : Option String)
deriving Repr

/-- What may come next. -/
inductive Expect where
  | value
  /-- The first item of an array, or its end. -/
  | itemOrEnd
  /-- The first name of an object, or its end. -/
  | nameOrEnd
  | name (done : List (Option String × Json))
  | colon (done : List (Option String × Json)) (key : Option String)
  /-- After a value: a comma, or the end of its container. -/
  | separator (last : Json)
deriving Repr

/-- Closes the innermost container after its last value. -/
def closeFrame (last : Json) (c : Char) : List Frame → Option (List Frame × Expect)
  | .array done :: outer =>
    if c = ']' then some (outer, .separator (.array (last :: done).reverse))
    else if c = ',' then some (.array (last :: done) :: outer, .value)
    else none
  | .object done key :: outer =>
    if c.toNat = 125 then some (outer, .separator (ofMembers ((key, last) :: done).reverse))
    else if c = ',' then some (outer, .name ((key, last) :: done))
    else none
  | [] => none

/-- A token where a value has to begin. -/
def beginValue (outer : List Frame) : Token → Option (List Frame × Expect)
  | .quoted glyphs => some (outer, .separator (ofQuoted glyphs))
  | .word cs => (ofLiteral? cs).map fun j => (outer, .separator j)
  | .mark c =>
    if c = '[' then some (.array [] :: outer, .itemOrEnd)
    else if c.toNat = 123 then some (outer, .nameOrEnd)
    else none

/-- One token. -/
def takeToken : List Frame × Expect → Token → Option (List Frame × Expect)
  | (outer, .value), t => beginValue outer t
  | (.array [] :: outer, .itemOrEnd), .mark ']' => some (outer, .separator (.array []))
  | (outer, .itemOrEnd), t => beginValue outer t
  | (outer, .nameOrEnd), .quoted glyphs => some (outer, .colon [] (ofGlyphs? glyphs))
  | (outer, .nameOrEnd), .mark c => if c.toNat = 125 then some (outer, .separator (.object [])) else none
  | (outer, .name done), .quoted glyphs => some (outer, .colon done (ofGlyphs? glyphs))
  | (outer, .colon done key), .mark ':' => some (.object done key :: outer, .value)
  | (outer, .separator last), .mark c => closeFrame last c outer
  | _, _ => none

/-- The value that the tokens write. -/
def ofTokens? (ts : List Token) : Option Json :=
  match ts.foldlM takeToken ([], .value) with
  | some ([], .separator j) => some j
  | _ => none

/-- Reads a text as one JSON value with nothing but spaces around it. -/
def parse? (s : String) : Option Json := (tokens? s.toList).bind ofTokens?

/-! ### Whole texts -/

/-- The most containers that may stand inside one another in a text that is kept whole. -/
def depthLimit : Nat := 127

/-- No whole number in a text that is kept whole comes up to this: the least that is rounded beyond all numbers of
    64 bits with an exponent. -/
def numberLimit : Nat := Nat.pow 2 1024 - Nat.pow 2 970

/-- How many containers are open after a token; `none` if what it writes cannot be kept. -/
def keepToken (depth : Nat) : Token → Option Nat
  | .quoted glyphs => if (ofGlyphs? glyphs).isSome then some depth else none
  | .word cs =>
    if (Decimal.integerOfChars? cs).any fun n => numberLimit ≤ n.natAbs then none else some depth
  | .mark c =>
    if c = '[' ∨ c.toNat = 123 then if depth < depthLimit then some (depth + 1) else none
    else if c = ']' ∨ c.toNat = 125 then some (depth - 1)
    else some depth

/-- Reads a text as one JSON value of which all can be kept. -/
def parseWhole? (s : String) : Option Json :=
  (tokens? s.toList).bind fun ts => (ts.foldlM keepToken 0).bind fun _ => ofTokens? ts

/-- What is kept whole is what the text is read as. -/
theorem parse?_of_parseWhole? {s : String} {j : Json} (h : parseWhole? s = some j) : parse? s = some j := by
  obtain ⟨ts, hts, h⟩ := Option.bind_eq_some_iff.1 h
  obtain ⟨_, _, h⟩ := Option.bind_eq_some_iff.1 h
  exact Option.bind_eq_some_iff.2 ⟨ts, hts, h⟩

end PowerOfAttorney.Json
