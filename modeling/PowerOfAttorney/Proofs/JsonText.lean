import Mathlib.Data.List.TakeWhile
import PowerOfAttorney.Json.Reader
import PowerOfAttorney.Json.Writer

/-! What is read from the text of a value. The text is cut into the tokens that its parts are cut into, with the marks
    between them (`CutInto.mark`), and the tokens of a part are taken as its value wherever a value may stand
    (`TakenAs`). So a value is read back from its text (`parse?_render`), unless it was never read as one: a number
    with a fraction keeps the text that it had, and a garbled text has none. -/

namespace PowerOfAttorney.Json

open Text

/-- A value without fractions and without halves of characters. -/
inductive Plain : Json → Prop
  | null : Plain .null
  | bool (b : Bool) : Plain (.bool b)
  | int (n : Int) : Plain (.int n)
  | text (s : String) : Plain (.text s)
  | array {items : List Json} (h : ∀ j ∈ items, Plain j) : Plain (.array items)
  | object {members : List (String × Json)} (h : ∀ m ∈ members, Plain m.2) : Plain (.object members)

attribute [simp] Plain.bool Plain.int Plain.text

@[simp] theorem plain_array {items : List Json} : Plain (.array items) ↔ ∀ j ∈ items, j.Plain :=
  ⟨fun | .array h => h, .array⟩

@[simp] theorem plain_object {members : List (String × Json)} : Plain (.object members) ↔ ∀ m ∈ members, m.2.Plain :=
  ⟨fun | .object h => h, .object⟩

theorem plain_optional {α : Type} {f : α → Json} (h : ∀ a, (f a).Plain) (o : Option α) : (optional f o).Plain := by
  cases o with
  | none => exact .null
  | some a => exact h a

/-! ### Cutting -/

/-- Where the cutting of a text stands at the end of tokens, which are held in reverse: after all of them, or still in
    the last if that is a word. -/
inductive Ends : List Token → List Token × Scan → Prop
  | between (done : List Token) : Ends done (done, .between)
  | inWord (done : List Token) (seen : List Char) : Ends (.word seen.reverse :: done) (done, .inWord seen)

/-- Whether characters are cut into tokens, whatever stands before them. -/
def CutInto (cs : List Char) (ts : List Token) : Prop :=
  ∀ done, ∃ st, cs.foldlM scanChar (done, .between) = some st ∧ Ends (ts.reverse ++ done) st

theorem isMark_iff {c : Char} : isMark c = true ↔ c.toNat ∈ [91, 93, 123, 125, 58, 44] := by
  simp [isMark, or_assoc]

theorem isSpace_iff {c : Char} : isSpace c = true ↔ c.toNat ∈ [32, 9, 10, 13] := by
  simp [isSpace, or_assoc]

theorem isWordChar_iff {c : Char} : isWordChar c = true ↔
    (48 ≤ c.toNat ∧ c.toNat ≤ 57) ∨ (65 ≤ c.toNat ∧ c.toNat ≤ 90) ∨ (97 ≤ c.toNat ∧ c.toNat ≤ 122) ∨
      c.toNat ∈ [43, 45, 46] := by
  simp [isWordChar, isAlphanumeric, ← Char.toNat_inj, or_assoc]

theorem scanBetween_mark {c : Char} (hc : isMark c = true) (done : List Token) :
    scanBetween done c = some (.mark c :: done, .between) := by
  have space : ¬isSpace c = true := by
    simp only [isMark_iff, isSpace_iff, List.mem_cons, List.not_mem_nil, or_false] at hc ⊢
    omega
  rw [scanBetween, if_neg space, if_pos hc]

theorem scanBetween_wordChar {c : Char} (hc : isWordChar c = true) (done : List Token) :
    scanBetween done c = some (done, .inWord [c]) := by
  have space : ¬isSpace c = true := by
    simp only [isWordChar_iff, isSpace_iff, List.mem_cons, List.not_mem_nil, or_false] at hc ⊢
    omega
  have unmarked : ¬isMark c = true := by
    simp only [isWordChar_iff, isMark_iff, List.mem_cons, List.not_mem_nil, or_false] at hc ⊢
    omega
  have unquoted : c.toNat ≠ 34 := by
    simp only [isWordChar_iff, List.mem_cons, List.not_mem_nil, or_false] at hc
    omega
  rw [scanBetween, if_neg space, if_neg unmarked, if_neg unquoted, if_pos hc]

theorem isWordChar_mark {c : Char} (hc : isMark c = true) : ¬isWordChar c = true := by
  simp only [isMark_iff, isWordChar_iff, List.mem_cons, List.not_mem_nil, or_false] at hc ⊢
  omega

theorem Ends.mark {done : List Token} {st : List Token × Scan} (h : Ends done st) {c : Char} (hc : isMark c = true) :
    scanChar st c = some (.mark c :: done, .between) := by
  cases h with
  | between => exact scanBetween_mark hc done
  | inWord done seen => rw [scanChar, if_neg (isWordChar_mark hc), scanBetween_mark hc]

namespace CutInto

theorem nil : CutInto [] [] := fun done => ⟨_, rfl, .between done⟩

/-- A mark ends what stands before it. -/
theorem mark {cs cs' : List Char} {ts ts' : List Token} {c : Char} (h : CutInto cs ts) (hc : isMark c = true)
    (h' : CutInto cs' ts') : CutInto (cs ++ c :: cs') (ts ++ .mark c :: ts') := by
  intro done
  obtain ⟨st, hst, hends⟩ := h done
  obtain ⟨st', hst', hends'⟩ := h' (.mark c :: (ts.reverse ++ done))
  refine ⟨st', ?_, ?_⟩
  · rw [List.foldlM_append, hst]
    exact (congrArg (· >>= fun s => cs'.foldlM scanChar s) (hends.mark hc)).trans hst'
  · simpa using hends'

theorem tokens? {cs : List Char} {ts : List Token} (h : CutInto cs ts) : tokens? cs = some ts := by
  obtain ⟨st, hst, hends⟩ := h []
  rw [List.append_nil] at hends
  unfold Json.tokens?
  rw [hst]
  generalize hr : ts.reverse = rev at hends
  cases hends with
  | between => simp [← hr]
  | inWord => simp [← hr]

theorem foldlM_inWord {cs : List Char} (h : ∀ c ∈ cs, isWordChar c = true) (done : List Token) (seen : List Char) :
    cs.foldlM scanChar (done, .inWord seen) = some (done, .inWord (cs.reverse ++ seen)) := by
  induction cs generalizing seen with
  | nil => rfl
  | cons c cs ih =>
    obtain ⟨hc, hrest⟩ := List.forall_mem_cons.1 h
    simp [scanChar, hc, ih hrest]

theorem word {cs : List Char} (hne : cs ≠ []) (h : ∀ c ∈ cs, isWordChar c = true) : CutInto cs [.word cs] := by
  intro done
  obtain ⟨c, r, rfl⟩ := List.exists_cons_of_ne_nil hne
  obtain ⟨hc, hrest⟩ := List.forall_mem_cons.1 h
  refine ⟨(done, .inWord (r.reverse ++ [c])), ?_, ?_⟩
  · simp [scanChar, scanBetween_wordChar hc, foldlM_inWord hrest]
  · simpa using Ends.inWord done (r.reverse ++ [c])

end CutInto

/-! ### Texts -/

/-- What a character of a text is read as. -/
def glyph (c : Char) : Glyph := if escapeLetter? c = none ∧ c.toNat < 32 then .unit c.toNat else .char c

theorem unescapeLetter?_of_escapeLetter? {c l : Char} (h : escapeLetter? c = some l) :
    l ≠ 'u' ∧ unescapeLetter? l = some c := by
  have hc : Char.ofNat c.toNat = c := Char.ofNat_toNat c
  unfold escapeLetter? at h
  split at h <;> cases h
  all_goals
    rename_i hn
    rw [← hc, hn]
    decide

theorem toNat_of_escapeLetter? {c : Char} (h : escapeLetter? c = none) : c.toNat ≠ 34 ∧ c.toNat ≠ 92 := by
  unfold escapeLetter? at h
  constructor <;> intro hn <;> simp [hn] at h

/-- Inside quotes, the characters written for one are read as that one. -/
theorem foldlM_escape (done : List Token) (seen : List Glyph) (c : Char) :
    (escape c).foldlM scanChar (done, .inText seen) = some (done, .inText (glyph c :: seen)) := by
  unfold escape glyph
  cases hl : escapeLetter? c with
  | some l =>
    obtain ⟨hu, hunescape⟩ := unescapeLetter?_of_escapeLetter? hl
    simp [scanChar, hu, hunescape]
  | none =>
    obtain ⟨hquote, hback⟩ := toNat_of_escapeLetter? hl
    by_cases hlow : c.toNat < 32
    · have high := hexValue?_hexChar (d := c.toNat / 16) (by omega)
      have low := hexValue?_lowerChar (d := c.toNat % 16) (by omega)
      have zero : hexValue? '0' = some 0 := by decide
      have value : 16 * (c.toNat / 16) + c.toNat % 16 = c.toNat := by omega
      simp [scanChar, hlow, high, low, zero, value]
    · simp [scanChar, hlow, hquote, hback]

theorem foldlM_escapes (done : List Token) (seen : List Glyph) (cs : List Char) :
    (cs.flatMap escape).foldlM scanChar (done, .inText seen) =
      some (done, .inText ((cs.map glyph).reverse ++ seen)) := by
  induction cs generalizing seen with
  | nil => rfl
  | cons c cs ih => simp [List.foldlM_append, foldlM_escape, ih]

theorem CutInto.quote (s : String) : CutInto (quote s) [.quoted (s.toList.map glyph)] := by
  intro done
  refine ⟨_, ?_, .between _⟩
  have opened : scanChar (done, .between) '"' = some (done, .inText []) := rfl
  simp only [Json.quote, List.foldlM_cons, opened, List.foldlM_append, Option.bind_eq_bind, Option.bind_some,
    foldlM_escapes]
  simp [scanChar]

theorem takeGlyph_glyph (done : List Char) (c : Char) : takeGlyph (done, none) (glyph c) = some (c :: done, none) := by
  unfold glyph
  split
  · rename_i h
    have whole : isHighHalf c.toNat = false ∧ isLowHalf c.toNat = false := by
      simp only [isHighHalf, isLowHalf, Bool.and_eq_false_iff, decide_eq_false_iff_not]
      omega
    simp [takeGlyph, whole]
  · rfl

theorem ofGlyphs?_glyphs (s : String) : ofGlyphs? (s.toList.map glyph) = some s := by
  have taken (cs done : List Char) : (cs.map glyph).foldlM takeGlyph (done, none) = some (cs.reverse ++ done, none) := by
    induction cs generalizing done with
    | nil => rfl
    | cons c cs ih => simp [takeGlyph_glyph, ih]
  simp [ofGlyphs?, taken]

/-! ### Numbers -/

theorem isDigits_digits (n : Nat) : isDigits (Decimal.digits n) = true := by
  have digit : ∀ c ∈ Decimal.digits n, (Decimal.digit? c).isSome = true := by
    intro c hc
    obtain ⟨d, hd, rfl⟩ := Decimal.mem_digits hc
    rw [Decimal.digit?_digitChar hd]
    rfl
  simp only [isDigits, Bool.and_eq_true, Bool.not_eq_true', List.isEmpty_eq_false_iff, ne_eq, List.all_eq_true]
  exact ⟨Decimal.digits_ne_nil n, digit⟩

theorem isWhole_digits (n : Nat) : isWhole (Decimal.digits n) = true := by
  simp only [isWhole, isDigits_digits, Bool.true_and, Bool.or_eq_true, beq_iff_eq, bne_iff_ne]
  by_cases hn : n < 10
  · rw [Decimal.digits, if_pos hn]
    exact .inl rfl
  · exact .inr (Decimal.head?_digits (by omega))

/-- Digits have neither a fraction nor an exponent behind them. -/
theorem unsignedNumber?_digits (n : Nat) : unsignedNumber? (Decimal.digits n) = some true := by
  have plain : ∀ c ∈ Decimal.digits n, (!(c == 'e' || c == 'E')) = true ∧ (c != '.') = true := by
    have all : ∀ d < 10, (!(Decimal.digitChar d == 'e' || Decimal.digitChar d == 'E')) = true ∧
        (Decimal.digitChar d != '.') = true := by
      decide
    intro c hc
    obtain ⟨d, hd, rfl⟩ := Decimal.mem_digits hc
    exact all d hd
  have mantissa := List.takeWhile_eq_self_iff.2 fun c hc => (plain c hc).1
  have exponent := List.dropWhile_eq_nil_iff.2 fun c hc => (plain c hc).1
  have whole := List.takeWhile_eq_self_iff.2 fun c hc => (plain c hc).2
  have fraction := List.dropWhile_eq_nil_iff.2 fun c hc => (plain c hc).2
  simp only [unsignedNumber?, mantissa, exponent, whole, fraction, isWhole_digits]
  rfl

theorem ofLiteral?_digits (n : Nat) : ofLiteral? (Decimal.digits n) = some (.int n) := by
  have unsigned : ((Decimal.digits n).head? == some '-') = false := by
    rw [beq_eq_false_iff_ne, ne_eq, List.head?_eq_some_iff]
    rintro ⟨r, hr⟩
    exact Decimal.digits_ne_cons (by decide) r hr
  unfold ofLiteral?
  rw [if_neg (Decimal.digits_ne_cons (by decide) _), if_neg (Decimal.digits_ne_cons (by decide) _),
    if_neg (Decimal.digits_ne_cons (by decide) _)]
  simp only [unsigned, Bool.false_eq_true, ↓reduceIte, unsignedNumber?_digits]
  rw [if_neg (Decimal.digits_ne_cons (by decide) _), Decimal.integerOfChars?_digits]
  rfl

/-- A minus sign makes a number of its own only before digits that do not write zero. -/
theorem ofLiteral?_minus (n : Nat) : ofLiteral? ('-' :: Decimal.digits (n + 1)) = some (.int (.negSucc n)) := by
  have nonzero : '-' :: Decimal.digits (n + 1) ≠ ['-', '0'] := by
    intro h
    have hread := Decimal.ofDigits?_digits (n + 1)
    rw [(List.cons.inj h).2] at hread
    cases hread
  have value : Decimal.integerOfChars? ('-' :: Decimal.digits (n + 1)) = some (.negSucc n) := by
    rw [Decimal.integerOfChars?, Decimal.ofDigits?_digits]
    rfl
  unfold ofLiteral?
  simp [unsignedNumber?_digits, nonzero, value]

theorem ofLiteral?_intChars (n : Int) : ofLiteral? (intChars n) = some (.int n) := by
  cases n with
  | ofNat n => exact ofLiteral?_digits n
  | negSucc n => exact ofLiteral?_minus n

theorem isWordChar_intChars {n : Int} {c : Char} (h : c ∈ intChars n) : isWordChar c = true := by
  have digit : ∀ d < 10, isWordChar (Decimal.digitChar d) = true := by decide
  cases n with
  | ofNat n =>
    obtain ⟨d, hd, rfl⟩ := Decimal.mem_digits h
    exact digit d hd
  | negSucc n =>
    rcases List.mem_cons.1 h with rfl | h
    · rfl
    · obtain ⟨d, hd, rfl⟩ := Decimal.mem_digits h
      exact digit d hd

theorem intChars_ne_nil (n : Int) : intChars n ≠ [] := by
  cases n with
  | ofNat n => exact Decimal.digits_ne_nil n
  | negSucc n => exact List.cons_ne_nil _ _

/-! ### Values -/

theorem takeToken_colon (outer : List Frame) (done : List (Option String × Json)) (key : Option String) :
    takeToken (outer, .colon done key) (.mark ':') = some (.object done key :: outer, .value) := rfl

theorem takeToken_separator (outer : List Frame) (last : Json) (c : Char) :
    takeToken (outer, .separator last) (.mark c) = closeFrame last c outer := rfl

/-- Whether tokens are taken as a value wherever one may stand, as the first item of an array as well. -/
def TakenAs (ts : List Token) (j : Json) : Prop :=
  ∀ outer, ∀ e ∈ [Expect.value, .itemOrEnd], ts.foldlM takeToken (outer, e) = some (outer, .separator j)

/-- What begins a value begins it as the first item of an array as well. -/
theorem TakenAs.of_begin {t : Token} {ts : List Token} {j : Json} (unmarked : t ≠ .mark ']')
    (h : ∀ outer, (beginValue outer t).bind (ts.foldlM takeToken) = some (outer, .separator j)) :
    TakenAs (t :: ts) j := by
  intro outer e he
  have begun : takeToken (outer, e) t = beginValue outer t := by
    simp only [List.mem_cons, List.not_mem_nil, or_false] at he
    rcases he with rfl | rfl
    · rfl
    · unfold takeToken
      split <;> simp_all
  rw [List.foldlM_cons, begun]
  exact h outer

/-- Whether characters write a value, whatever tokens they are cut into. -/
def Writes (cs : List Char) (j : Json) : Prop := ∃ ts, CutInto cs ts ∧ TakenAs ts j

theorem Writes.word {cs : List Char} {j : Json} (hne : cs ≠ []) (h : ∀ c ∈ cs, isWordChar c = true)
    (hj : ofLiteral? cs = some j) : Writes cs j := by
  refine ⟨_, .word hne h, .of_begin nofun fun outer => ?_⟩
  simp [beginValue, hj]

theorem Writes.quote (s : String) : Writes (Json.quote s) (.text s) := by
  refine ⟨_, .quote s, .of_begin nofun fun outer => ?_⟩
  simp [beginValue, ofQuoted, ofGlyphs?_glyphs]

/-! ### Containers -/

theorem itemChars_eq_map (items : List Json) : itemChars items = items.map chars := by
  induction items with
  | nil => rfl
  | cons j items ih => rw [itemChars, ih, List.map_cons]

theorem memberChars_eq_map (members : List (String × Json)) :
    memberChars members = members.map fun m => Json.quote m.1 ++ ':' :: chars m.2 := by
  induction members with
  | nil => rfl
  | cons m members ih => rw [memberChars, ih, List.map_cons]

/-- The items of an array, of which there is one, and its end. -/
theorem writes_items (j : Json) (items : List Json) (h : ∀ i ∈ j :: items, Writes (chars i) i) :
    ∃ ts, CutInto (commaSeparated ((j :: items).map chars)) ts ∧
      ∀ done outer, ∀ e ∈ [Expect.value, .itemOrEnd],
        (ts ++ [Token.mark ']']).foldlM takeToken (.array done :: outer, e) =
          some (outer, .separator (.array (done.reverse ++ j :: items))) := by
  induction items generalizing j with
  | nil =>
    obtain ⟨ts, cut, taken⟩ := h j List.mem_cons_self
    refine ⟨ts, cut, fun done outer e he => ?_⟩
    rw [List.foldlM_append, taken _ e he]
    simp [takeToken_separator, closeFrame]
  | cons k items ih =>
    obtain ⟨ts, cut, taken⟩ := h j List.mem_cons_self
    obtain ⟨ts', cut', taken'⟩ := ih k fun i hi => h i (List.mem_cons_of_mem _ hi)
    refine ⟨ts ++ .mark ',' :: ts', cut.mark rfl cut', fun done outer e he => ?_⟩
    have rest := taken' (j :: done) outer .value List.mem_cons_self
    rw [List.append_assoc, List.foldlM_append, taken _ e he]
    simpa [takeToken_separator, closeFrame] using rest

theorem Writes.array {items : List Json} (h : ∀ i ∈ items, Writes (chars i) i) :
    Writes (chars (.array items)) (.array items) := by
  rw [chars, itemChars_eq_map]
  cases items with
  | nil =>
    exact ⟨_, CutInto.nil.mark rfl (CutInto.nil.mark rfl .nil), .of_begin (by decide) fun _ => rfl⟩
  | cons j items =>
    obtain ⟨ts, cut, taken⟩ := writes_items j items h
    refine ⟨_, CutInto.nil.mark rfl (cut.mark rfl .nil), .of_begin (by decide) fun outer => ?_⟩
    have rest := taken [] outer .itemOrEnd (by simp)
    simpa [beginValue] using rest

/-- A member whose name is no garbled text. -/
def named (m : String × Json) : Option String × Json := (some m.1, m.2)

theorem ofMembers_named (members : List (String × Json)) : ofMembers (members.map named) = .object members := by
  have all : (members.map named).mapM (fun m => m.1.map fun name => (name, m.2)) = some members := by
    induction members with
    | nil => rfl
    | cons m members ih =>
      rw [List.map_cons, List.mapM_cons, ih]
      rfl
  rw [ofMembers, all]

/-- The members of an object, of which there is one, and its end. -/
theorem writes_members (m : String × Json) (members : List (String × Json))
    (h : ∀ n ∈ m :: members, Writes (chars n.2) n.2) :
    ∃ ts, CutInto (commaSeparated ((m :: members).map fun n => Json.quote n.1 ++ ':' :: chars n.2)) ts ∧
      ∀ done outer (e : Expect), e = .name (done.map named) ∨ (e = .nameOrEnd ∧ done = []) →
        (ts ++ [Token.mark (Char.ofNat 125)]).foldlM takeToken (outer, e) =
          some (outer, .separator (ofMembers ((done.reverse ++ m :: members).map named))) := by
  have opened (outer : List Frame) (done : List (String × Json)) (e : Expect)
      (he : e = .name (done.map named) ∨ (e = .nameOrEnd ∧ done = [])) (name : String) :
      takeToken (outer, e) (.quoted (name.toList.map glyph)) = some (outer, .colon (done.map named) (some name)) := by
    rcases he with rfl | ⟨rfl, rfl⟩ <;> simp [takeToken, ofGlyphs?_glyphs]
  induction members generalizing m with
  | nil =>
    obtain ⟨ts, cut, taken⟩ := h m List.mem_cons_self
    refine ⟨_, (CutInto.quote m.1).mark rfl cut, fun done outer e he => ?_⟩
    have value := taken (.object (done.map named) (some m.1) :: outer) .value List.mem_cons_self
    simp [opened outer done e he, takeToken_colon, takeToken_separator, value, closeFrame, named]
  | cons n members ih =>
    obtain ⟨ts, cut, taken⟩ := h m List.mem_cons_self
    obtain ⟨ts', cut', taken'⟩ := ih n fun i hi => h i (List.mem_cons_of_mem _ hi)
    refine ⟨_, ((CutInto.quote m.1).mark rfl cut).mark rfl cut', fun done outer e he => ?_⟩
    have value := taken (.object (done.map named) (some m.1) :: outer) .value List.mem_cons_self
    have rest := taken' (m :: done) outer _ (.inl rfl)
    simpa [opened outer done e he, takeToken_colon, takeToken_separator, value, closeFrame, named] using rest

theorem Writes.object {members : List (String × Json)} (h : ∀ m ∈ members, Writes (chars m.2) m.2) :
    Writes (chars (.object members)) (.object members) := by
  rw [chars, memberChars_eq_map]
  cases members with
  | nil =>
    exact ⟨_, CutInto.nil.mark rfl (CutInto.nil.mark rfl .nil), .of_begin (by decide) fun _ => rfl⟩
  | cons m members =>
    obtain ⟨ts, cut, taken⟩ := writes_members m members h
    refine ⟨_, CutInto.nil.mark rfl (cut.mark rfl .nil), .of_begin (by decide) fun outer => ?_⟩
    have rest := taken [] outer .nameOrEnd (.inr ⟨rfl, rfl⟩)
    rw [List.reverse_nil, List.nil_append, ofMembers_named] at rest
    simpa [beginValue] using rest

/-! ### Whole texts -/

theorem writes_chars {j : Json} (h : j.Plain) : Writes (chars j) j := by
  induction h with
  | null => exact .word (List.cons_ne_nil _ _) (List.all_eq_true.1 rfl) rfl
  | bool b => cases b <;> exact .word (List.cons_ne_nil _ _) (List.all_eq_true.1 rfl) rfl
  | int n => exact .word (intChars_ne_nil n) (fun c hc => isWordChar_intChars hc) (ofLiteral?_intChars n)
  | text s => exact .quote s
  | array _ ih => exact .array ih
  | object _ ih => exact .object ih

/-- A value is read back from its text. -/
theorem parse?_render {j : Json} (h : j.Plain) : parse? (render j) = some j := by
  obtain ⟨ts, cut, taken⟩ := writes_chars h
  have value := taken [] .value List.mem_cons_self
  rw [parse?, render, String.toList_ofList, cut.tokens?, Option.bind_some, ofTokens?, value]

end PowerOfAttorney.Json
