import PowerOfAttorney.Lpa
import PowerOfAttorney.Page

/-!
Where one goes next.

A form may say where its user came from; that is believed only if it is the path of a page.
-/

namespace PowerOfAttorney

/-- A page with what its query names: an actor, or the wish to add another one. -/
structure Destination where
  page : Page
  id : Option String := none
  addAnother : Bool := false
deriving DecidableEq, Repr

namespace Destination

/-- A page without a query. -/
def of (page : Page) : Destination := { page }

/-- The parts of the query. -/
def query (d : Destination) : List String :=
  (d.id.toList.map fun id => "id=" ++ id) ++ if d.addAnother then ["addAnother=1"] else []

/-- The address of the destination for an LPA. -/
def url (d : Destination) (lpaId : String) : String :=
  let path := "/lpa/" ++ lpaId ++ d.page.path
  if d.query.isEmpty then path else path ++ "?" ++ "&".intercalate d.query

end Destination

namespace Routing

/-- The page that a form says it was reached from, if it is one. -/
def back? (source : Option String) : Option Destination :=
  source.bind fun s => (Page.ofPath? (Text.trim s)).map Destination.of

/-! ### After a form -/

/-- After an actor's details: back, else on to the address of a new actor, else to the list. -/
def afterDetails (c : Collection) (id : String) (isNew : Bool) (source : Option String) : Destination :=
  (back? source).getD (if isNew then { page := c.addressPage, id := some id } else .of c.summaryPage)

/-- After an actor's address: back, else to the list. -/
def afterAddress (c : Collection) (source : Option String) : Destination :=
  (back? source).getD (.of c.summaryPage)

/-- After a removal that has left this many. -/
def afterRemoval (c : Collection) (remaining : Nat) : Destination :=
  .of (if remaining = 0 then c.entryPage else c.summaryPage)

/-- After the list of a collection: one more, or the next thing to ask about the collection. -/
def afterSummary (c : Collection) (another : YesNo) (l : Lpa) : Destination :=
  match another with
  | .yes => { page := c.detailsPage, addAnother := true }
  | .no => .of (match c with
    | .attorneys => if 1 < l.attorneys.size then .attorneysDecide else .wantReplacements
    | .replacements =>
      if l.asksStepIn then .replacementsStepIn
      else if 1 < l.replacements.size then .replacementsDecide
      else .taskList
    | .peopleToNotify => .taskList)

/-- After the arrangement between the attorneys of a role. -/
def afterDecisions : AttorneyRole → Destination
  | .primary => .of .wantReplacements
  | .replacement => .of .taskList

/-- After the question whether there shall be replacement attorneys. -/
def afterWantReplacements : YesNo → Destination
  | .yes => .of .replacementDetails
  | .no => .of .taskList

/-- After the question whether somebody shall be notified. -/
def afterWantToNotify : YesNo → Destination
  | .yes => .of .personDetails
  | .no => .of .taskList

/-- After the question how the replacement attorneys step in: several who step in together have to agree how they
    decide. -/
def afterStepIn (l : Lpa) : Destination :=
  .of (if l.replacementsStepIn = some .whenNoneCanAct ∧ 1 < l.replacements.size then .replacementsDecide else .taskList)

/-! ### Instead of a page -/

/-- Details of an unknown actor are only shown to add one: the first, or another that was asked for. -/
def insteadOfDetails (c : Collection) (found : Bool) (count : Nat) (addAnother : Bool) : Option Destination :=
  if !found && 0 < count && !addAnother then some (.of c.summaryPage) else none

/-- The address of an unknown actor is not shown. -/
def insteadOfAddress (c : Collection) (found : Bool) : Option Destination :=
  if found then none else some (.of c.detailsPage)

/-- An empty list is not shown. -/
def insteadOfSummary (c : Collection) (count : Nat) : Option Destination :=
  if count = 0 then some (.of c.detailsPage) else none

/-- The removal of an unknown actor is not shown. -/
def insteadOfRemoval (c : Collection) (found : Bool) : Option Destination :=
  if found then none else some (.of c.summaryPage)

end Routing

/-! ### The task list -/

/-- A line of the task list. -/
structure TaskLine where
  task : Section
  state : TaskState
  /-- The number of actors, in a section that collects them. -/
  count : Option Nat
  url : String
deriving DecidableEq, Repr

/-- The actors that a section collects. -/
def Section.collection? : Section → Option Collection
  | .chooseAttorneys => some .attorneys
  | .chooseReplacements => some .replacements
  | .peopleToNotify => some .peopleToNotify
  | _ => none

/-- The task list of an LPA. -/
def Lpa.taskList (l : Lpa) : List TaskLine :=
  Section.all.map fun s =>
    { task := s
      state := l.tasks.get s
      count := s.collection?.map l.count
      url := (Destination.of s.firstPage).url l.id }

end PowerOfAttorney
