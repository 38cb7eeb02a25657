import PowerOfAttorney.Calendar
import PowerOfAttorney.Text.Decimal
import PowerOfAttorney.Validation

/-!
A date typed into three boxes, and what the age of an actor is worth a warning for.
-/

namespace PowerOfAttorney

/-- The texts of the three boxes. -/
structure DateBoxes where
  day : String := ""
  month : String := ""
  year : String := ""
deriving DecidableEq, Repr, Inhabited

namespace DateBoxes

open Text

/-- The boxes filled in with a date. -/
def ofDate (d : Date) : DateBoxes :=
  ⟨Decimal.ofNat d.day, Decimal.ofNat d.month, Decimal.ofInt d.year⟩

/-- Whether nothing is typed into any box. -/
def isBlank (b : DateBoxes) : Bool := allBlank b.day && allBlank b.month && allBlank b.year

/-- The date in the boxes, where each holds a number, blanks around it aside, and the three name a day. Only
    the year may be negative. -/
def date? (b : DateBoxes) : Option Date :=
  match Decimal.natural? (trim b.day), Decimal.natural? (trim b.month), Decimal.integer? (trim b.year) with
  | some day, some month, some year => Date.of? year month day
  | _, _, _ => none

/-- What is wrong with boxes that ask for a day before today: nothing typed, some boxes left blank, no such day,
    or a day that is not past. -/
def pastError? (b : DateBoxes) (label : String) (today : Date) : Option FieldError :=
  if b.isBlank then some (.enter label)
  else if allBlank b.day || allBlank b.month || allBlank b.year then
    some (.dateMissing label (allBlank b.day) (allBlank b.month) (allBlank b.year))
  else match b.date? with
    | none => some (.dateNotReal label)
    | some d => if today ≤ d then some (.dateNotPast label) else none

/-! ### A date is read back from its boxes -/

theorem isBlank_of_mem_ofInt {i : Int} {c : Char} (h : c ∈ (Decimal.ofInt i).toList) : Text.isBlank c = false := by
  have digits : ∀ d < 10, Text.isBlank (Decimal.digitChar d) = false := by decide
  rcases Decimal.mem_ofInt h with rfl | ⟨d, hd, rfl⟩
  · rfl
  · exact digits d hd

theorem trim_ofInt (i : Int) : trim (Decimal.ofInt i) = Decimal.ofInt i := trim_eq_self fun _ => isBlank_of_mem_ofInt

theorem allBlank_ofInt (i : Int) : allBlank (Decimal.ofInt i) = false := by
  refine allBlank_eq_false (fun _ => isBlank_of_mem_ofInt) fun hempty => ?_
  have read := Decimal.integer?_ofInt i
  rw [hempty] at read
  cases read

/-- A day and a month are written as years are. -/
theorem ofDate_eq (d : Date) : ofDate d = ⟨Decimal.ofInt d.day, Decimal.ofInt d.month, Decimal.ofInt d.year⟩ := rfl

theorem date?_ofDate (d : Date) : (ofDate d).date? = some d := by
  have day : trim (Decimal.ofNat d.day) = Decimal.ofNat d.day := trim_ofInt d.day
  have month : trim (Decimal.ofNat d.month) = Decimal.ofNat d.month := trim_ofInt d.month
  simp only [date?, ofDate, day, month, trim_ofInt, Decimal.natural?_ofNat, Decimal.integer?_ofInt]
  exact dif_pos d.isDay

/-- Nothing is wrong with the boxes of a day that is past. -/
theorem pastError?_ofDate {d today : Date} (label : String) (past : ¬today ≤ d) :
    (ofDate d).pastError? label today = none := by
  have filled : (ofDate d).isBlank = false ∧
      (allBlank (ofDate d).day || allBlank (ofDate d).month || allBlank (ofDate d).year) = false := by
    rw [isBlank, ofDate_eq]
    simp only [allBlank_ofInt, Bool.and_false, Bool.or_false, and_self]
  simp only [pastError?, filled.1, filled.2, date?_ofDate, past, Bool.false_eq_true, if_false]

end DateBoxes

/-- What the date of birth of an actor may be worth a warning for. -/
inductive AgeWarning where
  | attorneyUnder18
  | over100
deriving DecidableEq, Repr

namespace AgeWarning

/-- The key of the wording in the translations, by which the warning is acknowledged. -/
def code : AgeWarning → String
  | .attorneyUnder18 => "attorneyDateOfBirthIsUnder18"
  | .over100 => "dateOfBirthIsOver100"

/-- The word by which the warning is told apart. -/
def word : AgeWarning → String
  | .attorneyUnder18 => "attorney_under18"
  | .over100 => "over100"

/-- The warning for an attorney. A birth that is not past is an error of its own and no warning. -/
def forAttorney (birth today : Date) : Option AgeWarning :=
  if today ≤ birth then none
  else if today.yearsBefore 18 < birth then some .attorneyUnder18
  else if birth < today.yearsBefore 100 then some .over100
  else none

/-- The warning for the donor, who is only asked about an unlikely age. -/
def forDonor (birth today : Date) : Option AgeWarning :=
  if birth < today.yearsBefore 100 then some .over100 else none

end AgeWarning

end PowerOfAttorney
