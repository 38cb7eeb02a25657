import PowerOfAttorney.Word

/-!
The sections of the task list and how far each has got.

A section that its owner writes to is settled: completed if its rule holds, in progress if not. A section that
another one's write may affect is only looked at again if it has been started.
-/

namespace PowerOfAttorney

/-- How far a section has got. -/
inductive TaskState where
  | notStarted
  | inProgress
  | completed
deriving DecidableEq, Repr, Inhabited

namespace TaskState

instance : Worded TaskState where
  all := [.notStarted, .inProgress, .completed]
  word
    | .notStarted => "not_started"
    | .inProgress => "in_progress"
    | .completed => "completed"
  mem_all := by intro s; cases s <;> decide
  nodup_words := by decide

/-- The state after a write that the section's rule says nothing about. -/
def started : TaskState → TaskState
  | .notStarted => .inProgress
  | s => s

/-- The state after a write to the section, given whether its rule holds. -/
def settle (complete : Bool) : TaskState := if complete then .completed else .inProgress

/-- The state after a write to another section: one that was not started stays so. -/
def reevaluate (complete : Bool) : TaskState → TaskState
  | .notStarted => .notStarted
  | _ => settle complete

@[simp] theorem settle_eq_completed {complete : Bool} : settle complete = .completed ↔ complete = true := by
  cases complete <;> simp [settle]

@[simp] theorem settle_ne_notStarted {complete : Bool} : settle complete ≠ .notStarted := by
  cases complete <;> simp [settle]

end TaskState

/-- The sections, in the order of the task list. -/
inductive Section where
  | chooseAttorneys
  | chooseReplacements
  | usableWhen
  | restrictions
  | certificateProvider
  | peopleToNotify
  | checkLpa
  | payForLpa
  | identityAndSign
deriving DecidableEq, Repr

namespace Section

def all : List Section :=
  [.chooseAttorneys, .chooseReplacements, .usableWhen, .restrictions, .certificateProvider, .peopleToNotify,
    .checkLpa, .payForLpa, .identityAndSign]

instance : Worded Section where
  all := all
  word
    | .chooseAttorneys => "choose_attorneys"
    | .chooseReplacements => "choose_replacement_attorneys"
    | .usableWhen => "when_can_the_lpa_be_used"
    | .restrictions => "restrictions"
    | .certificateProvider => "certificate_provider"
    | .peopleToNotify => "people_to_notify"
    | .checkLpa => "check_your_lpa"
    | .payForLpa => "pay_for_lpa"
    | .identityAndSign => "confirm_your_identity_and_sign"
  mem_all := by intro s; cases s <;> decide
  nodup_words := by decide

end Section

structure Tasks where
  chooseAttorneys : TaskState := .notStarted
  chooseReplacements : TaskState := .notStarted
  usableWhen : TaskState := .notStarted
  restrictions : TaskState := .notStarted
  certificateProvider : TaskState := .notStarted
  peopleToNotify : TaskState := .notStarted
  checkLpa : TaskState := .notStarted
  payForLpa : TaskState := .notStarted
  identityAndSign : TaskState := .notStarted
deriving DecidableEq, Repr, Inhabited

namespace Tasks

def get (t : Tasks) : Section → TaskState
  | .chooseAttorneys => t.chooseAttorneys
  | .chooseReplacements => t.chooseReplacements
  | .usableWhen => t.usableWhen
  | .restrictions => t.restrictions
  | .certificateProvider => t.certificateProvider
  | .peopleToNotify => t.peopleToNotify
  | .checkLpa => t.checkLpa
  | .payForLpa => t.payForLpa
  | .identityAndSign => t.identityAndSign

/-- The tasks with a section in another state. -/
def set (t : Tasks) (s : Section) (x : TaskState) : Tasks :=
  match s with
  | .chooseAttorneys => { t with chooseAttorneys := x }
  | .chooseReplacements => { t with chooseReplacements := x }
  | .usableWhen => { t with usableWhen := x }
  | .restrictions => { t with restrictions := x }
  | .certificateProvider => { t with certificateProvider := x }
  | .peopleToNotify => { t with peopleToNotify := x }
  | .checkLpa => { t with checkLpa := x }
  | .payForLpa => { t with payForLpa := x }
  | .identityAndSign => { t with identityAndSign := x }

/-- The tasks after a write to a section that its rule says nothing about. -/
def start (t : Tasks) (s : Section) : Tasks := t.set s (t.get s).started

/-- The tasks after a write to a section, given whether its rule holds. -/
def settle (t : Tasks) (s : Section) (complete : Bool) : Tasks := t.set s (TaskState.settle complete)

/-- The tasks after a write that may affect a section, given whether its rule holds. -/
def reevaluate (t : Tasks) (s : Section) (complete : Bool) : Tasks := t.set s ((t.get s).reevaluate complete)

@[simp] theorem get_set_self (t : Tasks) (s : Section) (x : TaskState) : (t.set s x).get s = x := by
  cases s <;> rfl

theorem get_set (t : Tasks) (s s' : Section) (x : TaskState) :
    (t.set s x).get s' = if s' = s then x else t.get s' := by
  cases s <;> cases s' <;> rfl

/-- Tasks that agree on every section are equal. -/
theorem ext_get {t u : Tasks} (h : ∀ s, t.get s = u.get s) : t = u := by
  cases t; cases u
  simp only [mk.injEq]
  exact ⟨h .chooseAttorneys, h .chooseReplacements, h .usableWhen, h .restrictions, h .certificateProvider,
    h .peopleToNotify, h .checkLpa, h .payForLpa, h .identityAndSign⟩

end Tasks

end PowerOfAttorney
