import PowerOfAttorney.DomainName.MappingTable
import PowerOfAttorney.Unicode.Row

/-! What each character of a domain name becomes before the name is looked at. -/

namespace PowerOfAttorney.DomainName

open Unicode

/-- What happens to a character. -/
inductive Fate where
  | stays
  | refused
  | becomes (cs : List Char)
deriving DecidableEq, Repr

/-- A row of the table: the characters it covers and what happens to them. -/
structure MappingRow where
  first : Nat
  count : Nat
  letter : Char
  targets : List Nat
deriving Repr

/-- The row that a word writes, where the one before it ended. -/
def MappingRow.ofWord (first : Nat) (word : List Char) : MappingRow :=
  let letter := word.headD 'x'
  match pieces '.' word.tail with
  | count :: targets =>
    if letter = 'm' then ⟨first, 1, letter, number count :: targets.map number⟩
    else ⟨first, if count.isEmpty then 1 else number count, letter, targets.map number⟩
  | [] => ⟨first, 1, letter, []⟩
where
  pieces := @Text.pieces Char _

/-- The table, row after row. -/
def mapping : List MappingRow :=
  ((words mappingText).foldl (fun (p : List MappingRow × Nat) w =>
    let row := MappingRow.ofWord p.2 w
    (row :: p.1, p.2 + row.count)) ([], 0)).1.reverse

/-- What happens to the character at a place of a row. -/
def MappingRow.fate (r : MappingRow) (c : Char) : Fate :=
  let i := c.toNat - r.first
  match r.letter with
  | 'v' => .stays
  | 'i' => .becomes []
  | 'a' => if i % 2 = 0 then .becomes [Char.ofNat (c.toNat + 1)] else .stays
  | 's' => .becomes [Char.ofNat (r.targets.headD 0 + i)]
  | 'm' => .becomes (r.targets.map Char.ofNat)
  | _ => .refused

/-- What happens to a character. -/
def fate (c : Char) : Fate :=
  match mapping.find? fun r => r.first ≤ c.toNat && c.toNat < r.first + r.count with
  | some r => r.fate c
  | none => .refused

end PowerOfAttorney.DomainName
