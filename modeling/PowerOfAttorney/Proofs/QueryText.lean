import PowerOfAttorney.Web.Urlencoded

/-! What is read from the text of names and values. The octets of a character are read as that character, wherever they
    stand (`Text.Utf8.foldl_encodeChar`), and what is written for an octet is read as that octet
    (`Web.Urlencoded.decode_encodeOctet`). Neither of the signs between names and values is written for a part of them,
    so pairs are read as they were written (`Web.Urlencoded.parse_encode`). -/

namespace PowerOfAttorney

/-! ### Characters as octets -/

namespace Text.Utf8

/-- The number of a character is none of the halves of a pair. -/
theorem toNat_bounds (c : Char) : (c.toNat < 0xD800 ∨ 0xDFFF < c.toNat) ∧ c.toNat < 0x110000 := by
  rcases c.valid with h | ⟨hlow, hhigh⟩
  · have h : c.toNat < 0xD800 := h
    omega
  · have hlow : 0xDFFF < c.toNat := hlow
    have hhigh : c.toNat < 0x110000 := hhigh
    omega

theorem encode_append (a b : List Char) : encode (a ++ b) = encode a ++ encode b := List.flatMap_append

theorem encode_cons (c : Char) (cs : List Char) : encode (c :: cs) = encodeChar c ++ encode cs := List.flatMap_cons

theorem encodeChar_ascii {c : Char} (h : c.toNat < 0x80) : encodeChar c = [c.toNat] := if_pos h

/-- ASCII characters are octets of their own. -/
theorem encode_ascii {cs : List Char} (h : ∀ c ∈ cs, c.toNat < 0x80) : encode cs = cs.map Char.toNat := by
  induction cs with
  | nil => rfl
  | cons c cs ih =>
    obtain ⟨hc, hrest⟩ := List.forall_mem_cons.1 h
    rw [encode_cons, encodeChar_ascii hc, ih hrest, List.map_cons, List.singleton_append]

theorem lt_of_mem_encode {cs : List Char} {b : Nat} (h : b ∈ encode cs) : b < 256 := by
  obtain ⟨c, -, hb⟩ := List.mem_flatMap.1 h
  have bounds := toNat_bounds c
  simp only [encodeChar, apply_ite (b ∈ ·), List.mem_cons, List.not_mem_nil, or_false] at hb
  split at hb
  · omega
  · split at hb
    · omega
    · split at hb <;> omega

section
variable {n : Nat}

/-- The first octet of two. -/
theorem begin?_two (least : 0x80 ≤ n) (most : n < 0x800) :
    begin? (0xC0 + n / 64) = some { owed := 1, value := n / 64 } := by
  unfold begin?
  rw [if_pos (by omega), Nat.add_sub_cancel_left]

/-- The first octet of three, after which the second one is within its bounds. -/
theorem begin?_three (least : 0x800 ≤ n) (most : n < 0x10000) (whole : n < 0xD800 ∨ 0xDFFF < n) :
    ∃ low high, begin? (0xE0 + n / 4096) = some { owed := 2, value := n / 4096, low, high } ∧
      low ≤ 0x80 + n / 64 % 64 ∧ 0x80 + n / 64 % 64 ≤ high := by
  unfold begin?
  rw [if_neg (by omega)]
  by_cases first : n / 4096 = 0
  · rw [first, if_pos rfl]
    exact ⟨_, _, rfl, by omega, by omega⟩
  · rw [if_neg (by omega)]
    by_cases halves : n / 4096 = 13
    · rw [halves, if_pos rfl]
      exact ⟨_, _, rfl, by omega, by omega⟩
    · rw [if_neg (by omega), if_pos (by omega), Nat.add_sub_cancel_left]
      exact ⟨_, _, rfl, by omega, by omega⟩

/-- The first octet of four, after which the second one is within its bounds. -/
theorem begin?_four (least : 0x10000 ≤ n) (most : n < 0x110000) :
    ∃ low high, begin? (0xF0 + n / 262144) = some { owed := 3, value := n / 262144, low, high } ∧
      low ≤ 0x80 + n / 4096 % 64 ∧ 0x80 + n / 4096 % 64 ≤ high := by
  unfold begin?
  rw [if_neg (by omega), if_neg (by omega), if_neg (by omega), if_neg (by omega)]
  by_cases first : n / 262144 = 0
  · rw [first, if_pos rfl]
    exact ⟨_, _, rfl, by omega, by omega⟩
  · rw [if_neg (by omega)]
    by_cases last : n / 262144 = 4
    · rw [last, if_pos rfl]
      exact ⟨_, _, rfl, by omega, by omega⟩
    · rw [if_neg (by omega), if_pos (by omega), Nat.add_sub_cancel_left]
      exact ⟨_, _, rfl, by omega, by omega⟩

end

namespace Reading
variable {done : List (Option Char)} {b owed value low high : Nat}

theorem step_begin {p : Begun} (h : begin? b = some p) (notAscii : ¬b < 0x80) :
    step { done } b = { done, begun := some p } := by
  show start done b = _
  rw [start, if_neg notAscii, h]

theorem step_owed (hlow : low ≤ b) (hhigh : b ≤ high) :
    step { done, begun := some ⟨owed + 2, value, low, high⟩ } b =
      { done, begun := some { owed := owed + 1, value := 64 * value + (b - 0x80) } } := by
  rw [step]
  exact if_pos ⟨hlow, hhigh⟩

theorem step_last (hlow : low ≤ b) (hhigh : b ≤ high) :
    step { done, begun := some ⟨1, value, low, high⟩ } b =
      { done := some (Char.ofNat (64 * value + (b - 0x80))) :: done } := by
  rw [step]
  exact if_pos ⟨hlow, hhigh⟩

end Reading

/-- The octets of a character are read as that character. -/
theorem foldl_encodeChar (done : List (Option Char)) (c : Char) :
    (encodeChar c).foldl Reading.step { done } = { done := some c :: done } := by
  obtain ⟨whole, most⟩ := toNat_bounds c
  -- a reading takes up octet by octet what the number was divided into
  have back {m : Nat} (h : m = c.toNat) : Char.ofNat m = c := h ▸ Char.ofNat_toNat c
  unfold encodeChar
  dsimp only
  split
  · rename_i ascii
    rw [List.foldl_cons, Reading.step, Reading.start, if_pos ascii, back rfl, List.foldl_nil]
  · split
    · have begun := begin?_two (n := c.toNat) (by omega) (by omega)
      simp only [List.foldl_cons, List.foldl_nil]
      rw [Reading.step_begin begun (by omega), Reading.step_last (by omega) (by omega), back (by omega)]
    · split
      · obtain ⟨low, high, begun, hlow, hhigh⟩ := begin?_three (n := c.toNat) (by omega) (by omega) whole
        simp only [List.foldl_cons, List.foldl_nil]
        rw [Reading.step_begin begun (by omega), Reading.step_owed hlow hhigh, Reading.step_last (by omega) (by omega),
          back (by omega)]
      · obtain ⟨low, high, begun, hlow, hhigh⟩ := begin?_four (n := c.toNat) (by omega) (by omega)
        simp only [List.foldl_cons, List.foldl_nil]
        rw [Reading.step_begin begun (by omega), Reading.step_owed hlow hhigh, Reading.step_owed (by omega) (by omega),
          Reading.step_last (by omega) (by omega), back (by omega)]

theorem foldl_encode (done : List (Option Char)) (cs : List Char) :
    (encode cs).foldl Reading.step { done } = { done := (cs.map some).reverse ++ done } := by
  induction cs generalizing done with
  | nil => rfl
  | cons c cs ih =>
    rw [encode_cons, List.foldl_append, foldl_encodeChar, ih, List.map_cons, List.reverse_cons, List.append_assoc,
      List.singleton_append]

theorem runs_encode (cs : List Char) : runs (encode cs) = cs.map some := by
  rw [runs, foldl_encode]
  simp

theorem decode?_octets (cs : List Char) : decode? (encode cs) = some cs := by
  rw [decode?, runs_encode]
  induction cs with
  | nil => rfl
  | cons c cs ih => simp [ih]

theorem decodeLossy_encode (cs : List Char) : decodeLossy (encode cs) = cs := by
  rw [decodeLossy, runs_encode, List.map_map]
  exact List.map_id cs

end Text.Utf8

open Text

/-! ### Octets as triples -/

namespace Web

namespace Percent

/-- Nothing but a percent sign begins a triple. -/
theorem decode_of_ne {b : Nat} (h : b ≠ 37) (r : List Nat) : decode (b :: r) = b :: decode r := by
  rw [decode]
  rintro _ _ _ rfl
  exact absurd rfl h

/-- A triple is read as its octet. -/
theorem decode_encodeOctet {b : Nat} (h : b < 256) (r : List Nat) :
    decode ((encodeOctet b).map Char.toNat ++ r) = b :: decode r := by
  show decode (37 :: (hexChar (b / 16)).toNat :: (hexChar (b % 16)).toNat :: r) = _
  rw [decode, Char.ofNat_toNat, Char.ofNat_toNat, hexValue?_hexChar (by omega), hexValue?_hexChar (by omega)]
  dsimp only
  rw [Nat.div_add_mod]

end Percent

/-! ### Names and values -/

namespace Urlencoded

/-- An octet as it is before a plus is put for a blank. -/
def unplus (b : Nat) : Nat := if b = 43 then 32 else b

theorem decodePart_eq (bs : List Nat) :
    decodePart bs = String.ofList (Utf8.decodeLossy (Percent.decode (bs.map unplus))) := rfl

/-- The text of a name or a value is ASCII and holds neither of the signs that part names and values. -/
theorem encodeOctet_plain {b : Nat} (h : b < 256) :
    ∀ c ∈ encodeOctet b, c.toNat < 0x80 ∧ c.toNat ≠ 38 ∧ c.toNat ≠ 61 := by
  have all : ∀ b < 256, (encodeOctet b).all (fun c => c.toNat < 0x80 ∧ c.toNat ≠ 38 ∧ c.toNat ≠ 61) = true := by
    decide +kernel
  exact fun c hc => of_decide_eq_true (List.all_eq_true.1 (all b h) c hc)

theorem encodePart_plain (s : String) : ∀ c ∈ encodePart s, c.toNat < 0x80 ∧ c.toNat ≠ 38 ∧ c.toNat ≠ 61 := by
  intro c hc
  obtain ⟨b, hb, hc⟩ := List.mem_flatMap.1 hc
  exact encodeOctet_plain (Utf8.lt_of_mem_encode hb) c hc

/-- What is written for an octet is read as that octet. -/
theorem decode_encodeOctet {b : Nat} (h : b < 256) (r : List Nat) :
    Percent.decode (((encodeOctet b).map Char.toNat ++ r).map unplus) = b :: Percent.decode (r.map unplus) := by
  have kept : ∀ b < 128, (isAlphanumeric (Char.ofNat b) ∨ Char.ofNat b = '*' ∨ Char.ofNat b = '-' ∨ Char.ofNat b = '.' ∨
      Char.ofNat b = '_') → (Char.ofNat b).toNat = b ∧ b ≠ 43 ∧ b ≠ 37 := by decide
  have triple : ∀ b < 256,
      ((Percent.encodeOctet b).map Char.toNat).map unplus = (Percent.encodeOctet b).map Char.toNat := by decide +kernel
  unfold encodeOctet
  dsimp only
  split
  · rename_i stands
    obtain ⟨number, noPlus, noPercent⟩ := kept b stands.1 stands.2
    simp only [List.map_cons, List.map_nil, List.singleton_append, number, unplus, if_neg noPlus]
    exact Percent.decode_of_ne noPercent _
  · split
    · rename_i blank
      subst blank
      exact Percent.decode_of_ne (by decide) _
    · rw [List.map_append, triple b h, Percent.decode_encodeOctet h]

theorem decodePart_encodePart (s : String) : decodePart (Utf8.encode (encodePart s)) = s := by
  have octets : ∀ bs : List Nat, (∀ b ∈ bs, b < 256) →
      Percent.decode (((bs.flatMap encodeOctet).map Char.toNat).map unplus) = bs := by
    intro bs h
    induction bs with
    | nil => rfl
    | cons b bs ih =>
      obtain ⟨hb, hrest⟩ := List.forall_mem_cons.1 h
      rw [List.flatMap_cons, List.map_append, decode_encodeOctet hb, ih hrest]
  rw [decodePart_eq, Utf8.encode_ascii fun c hc => (encodePart_plain s c hc).1, encodePart,
    octets _ fun b => Utf8.lt_of_mem_encode, Utf8.decodeLossy_encode, String.ofList_toList]

/-! ### Pairs -/

/-- A name and its value as they are written. -/
def pairText (p : String × String) : List Char := encodePart p.1 ++ '=' :: encodePart p.2

theorem notMem_encode {cs : List Char} {b : Nat} (h : ∀ c ∈ cs, c.toNat < 0x80 ∧ c.toNat ≠ b) : b ∉ Utf8.encode cs := by
  rw [Utf8.encode_ascii fun c hc => (h c hc).1, List.mem_map]
  rintro ⟨c, hc, same⟩
  exact (h c hc).2 same

/-- An ampersand is one octet. -/
theorem encode_parted (a b : List Char) : Utf8.encode (a ++ '&' :: b) = Utf8.encode a ++ 38 :: Utf8.encode b := by
  have parts : Utf8.encodeChar '&' = [38] := by decide
  rw [Utf8.encode_append, Utf8.encode_cons, parts, List.singleton_append]

theorem encode_pairText (p : String × String) :
    Utf8.encode (pairText p) = Utf8.encode (encodePart p.1) ++ 61 :: Utf8.encode (encodePart p.2) := by
  have equals : Utf8.encodeChar '=' = [61] := by decide
  rw [pairText, Utf8.encode_append, Utf8.encode_cons, equals, List.singleton_append]

theorem decodePair_pairText (p : String × String) : decodePair (Utf8.encode (pairText p)) = p := by
  have plain : 61 ∉ Utf8.encode (encodePart p.1) :=
    notMem_encode fun c hc => ⟨(encodePart_plain _ c hc).1, (encodePart_plain _ c hc).2.2⟩
  rw [encode_pairText, decodePair, cut_append plain]
  simp only [decodePart_encodePart]

theorem notMem_pairText (p : String × String) : 38 ∉ Utf8.encode (pairText p) := by
  have plain (s : String) : 38 ∉ Utf8.encode (encodePart s) :=
    notMem_encode fun c hc => ⟨(encodePart_plain _ c hc).1, (encodePart_plain _ c hc).2.1⟩
  rw [encode_pairText, List.mem_append, List.mem_cons, not_or, not_or]
  exact ⟨plain _, by decide, plain _⟩

theorem pieces_pairs (p : String × String) (ps : List (String × String)) :
    pieces 38 (Utf8.encode (((p :: ps).map pairText).intersperse ['&']).flatten) =
      (p :: ps).map fun p => Utf8.encode (pairText p) := by
  induction ps generalizing p with
  | nil =>
    rw [List.map_singleton, List.intersperse_singleton, List.flatten_singleton, pieces_of_notMem (notMem_pairText p),
      List.map_singleton]
  | cons q ps ih =>
    have joined : (((p :: q :: ps).map pairText).intersperse ['&']).flatten =
        pairText p ++ '&' :: (((q :: ps).map pairText).intersperse ['&']).flatten := rfl
    rw [joined, encode_parted, pieces_append _ (notMem_pairText p), ih]
    simp only [List.map_cons]

/-- What stands on either side of an ampersand is read by itself. -/
theorem parse_parted (a b : List Char) :
    parse (Utf8.encode (a ++ '&' :: b)) = parse (Utf8.encode a) ++ parse (Utf8.encode b) := by
  rw [encode_parted, parse, pieces_parted, List.filter_append, List.map_append]
  rfl

/-- Names and values are read as they were written. -/
theorem parse_encode (ps : List (String × String)) : parse (Utf8.encode (encode ps).toList) = ps := by
  have written : (encode ps).toList = ((ps.map pairText).intersperse ['&']).flatten := String.toList_ofList
  cases ps with
  | nil => rfl
  | cons p ps =>
    have given : ∀ bs ∈ (p :: ps).map fun p => Utf8.encode (pairText p), (!bs.isEmpty) = true := by
      intro bs hbs
      obtain ⟨q, -, rfl⟩ := List.mem_map.1 hbs
      rw [encode_pairText]
      simp
    have read : (decodePair ∘ fun p => Utf8.encode (pairText p)) = id := funext decodePair_pairText
    rw [written, parse, pieces_pairs, List.filter_eq_self.2 given, List.map_map, read, List.map_id]

end Urlencoded

end Web

end PowerOfAttorney
