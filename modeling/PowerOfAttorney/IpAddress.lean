import PowerOfAttorney.Text.Ascii
import PowerOfAttorney.Text.Decimal
import PowerOfAttorney.Text.Split

/-!
Addresses of machines on a network, as they are written: four numbers below 256 with points between them, or up
to eight groups of hexadecimal digits with colons, where a double colon stands for groups of zeros and the last two
groups may be written as four numbers. An address with a port ends in a colon and the port; the second kind then
stands in square brackets, where a percent sign and the number of a zone may follow it. A zone says on which of the
networks a machine is reached, and is no part of its address.
-/

namespace PowerOfAttorney

/-- An address of a machine. -/
inductive IpAddress where
  | v4 (parts : List Nat)
  | v6 (groups : List Nat)
deriving DecidableEq, Repr

namespace IpAddress

open Text

/-- A number below 256 in at most three digits, none of them a needless zero in front. -/
def part? (cs : List Char) : Option Nat :=
  if cs.length = 0 ∨ 3 < cs.length ∨ (1 < cs.length ∧ cs.head? = some '0') then none
  else match Decimal.ofDigits? cs with
    | some n => if n < 256 then some n else none
    | none => none

/-- Four numbers with points between them. -/
def parts? (cs : List Char) : Option (List Nat) :=
  let ps := pieces '.' cs
  if ps.length = 4 then ps.mapM part? else none

/-- A group of one to four hexadecimal digits. -/
def group? (cs : List Char) : Option Nat :=
  if cs.isEmpty ∨ 4 < cs.length then none
  else (cs.mapM hexValue?).map fun ds => ds.foldl (fun n d => 16 * n + d) 0

/-- Groups with colons between them; in last place four numbers count as two groups. -/
def groups? : List (List Char) → Option (List Nat)
  | [] => some []
  | [cs] => match parts? cs with
    | some [a, b, c, d] => some [256 * a + b, 256 * c + d]
    | _ => (group? cs).map fun g => [g]
  | cs :: r => match group? cs with
    | some g => (groups? r).map (g :: ·)
    | none => none

/-- The groups on one side of a double colon, where there may be none. -/
def side? (cs : List Char) : Option (List Nat) := if cs.isEmpty then some [] else groups? (pieces ':' cs)

/-- The texts before and after the first double colon. -/
def cutDouble : List Char → Option (List Char × List Char)
  | ':' :: ':' :: r => some ([], r)
  | c :: r => (cutDouble r).map fun p => (c :: p.1, p.2)
  | [] => none

/-- Reads an address of the second kind. Four numbers stand only at its very end. -/
def v6? (cs : List Char) : Option (List Nat) :=
  match cutDouble cs with
  | none => match groups? (pieces ':' cs) with
    | some gs => if gs.length = 8 then some gs else none
    | none => none
  | some (before, after) =>
    if before.contains '.' then none
    else match side? before, side? after with
      | some a, some b =>
        if a.length + b.length ≤ 7 then some (a ++ List.replicate (8 - (a.length + b.length)) 0 ++ b) else none
      | _, _ => none

def ofChars? (cs : List Char) : Option IpAddress :=
  match parts? cs with
  | some ps => some (.v4 ps)
  | none => (v6? cs).map .v6

/-- A port: digits that write a number below 65536. -/
def port? (cs : List Char) : Option Nat :=
  match Decimal.ofDigits? cs with
  | some n => if n < 65536 then some n else none
  | none => none

/-- The zone of an address: digits that write a number below 2 ^ 32. -/
def zone? (cs : List Char) : Option Nat :=
  match Decimal.ofDigits? cs with
  | some n => if n < 4294967296 then some n else none
  | none => none

/-- Reads an address of the second kind after which a zone may stand. -/
def zoned? (cs : List Char) : Option (List Nat) :=
  match cut '%' cs with
  | none => v6? cs
  | some (inner, digits) => if (zone? digits).isSome then v6? inner else none

/-- Reads an address with a port. -/
def withPort? (cs : List Char) : Option (IpAddress × Nat) :=
  match cs with
  | '[' :: r => match cut ']' r with
    | some (inner, ':' :: digits) => match zoned? inner, port? digits with
      | some gs, some n => some (.v6 gs, n)
      | _, _ => none
    | _ => none
  | _ => match cut ':' cs with
    | some (inner, digits) => match parts? inner, port? digits with
      | some ps, some n => some (.v4 ps, n)
      | _, _ => none
    | none => none

end IpAddress

end PowerOfAttorney
