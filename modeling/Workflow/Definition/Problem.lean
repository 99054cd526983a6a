import Workflow.Value.Text

/-!
# Problems with fields

What can be wrong with the fields of a definition, each with the place it is at.  All
problems are collected, in the order of the fields.
-/

namespace Workflow

/-- What is wrong with a field. -/
inductive Flaw where
  | missing
  | notText
  | badTextBytes
  | notTruth
  | unreadTruth
  | notInteger
  | unreadInteger
  | longInteger
  | fractional
  | infinite
  | notNumber
  | unreadNumber
  /-- The value is below the least one allowed. -/
  | below (least : String)
  /-- The value is above the greatest one allowed. -/
  | above (greatest : String)
  /-- The value is not above a bound. -/
  | notAbove (bound : String)
  | notList
  | notDictionary
  /-- The value is not a dictionary of the fields of a model. -/
  | notModel (model : String)
  /-- The value is none of the allowed words. -/
  | notWord (words : List String)
  /-- A name of a field is not text. -/
  | badKey
  | notMoment
  | unreadMoment (reason : String)
  /-- A number stands for no moment. -/
  | unreachedMoment (reason : String)
  | notPath
  /-- A rule of the model itself does not hold. -/
  | broken (reason : String)
  deriving Repr, DecidableEq

namespace Flaw

/-- Words between quotes, the last one after `or`. -/
def alternatives : List String -> String
  | [] => ""
  | [w] => s!"'{w}'"
  | [w, x] => s!"'{w}' or '{x}'"
  | w :: rest => s!"'{w}', " ++ alternatives rest

/-- The name of a flaw. -/
def code : Flaw -> String
  | missing => "missing"
  | notText => "string_type"
  | badTextBytes => "string_unicode"
  | notTruth => "bool_type"
  | unreadTruth => "bool_parsing"
  | notInteger => "int_type"
  | unreadInteger => "int_parsing"
  | longInteger => "int_parsing_size"
  | fractional => "int_from_float"
  | infinite => "finite_number"
  | notNumber => "float_type"
  | unreadNumber => "float_parsing"
  | below _ => "greater_than_equal"
  | above _ => "less_than_equal"
  | notAbove _ => "greater_than"
  | notList => "list_type"
  | notDictionary => "dict_type"
  | notModel _ => "model_type"
  | notWord _ => "literal_error"
  | badKey => "invalid_key"
  | notMoment => "datetime_type"
  | unreadMoment _ => "datetime_from_date_parsing"
  | unreachedMoment _ => "datetime_parsing"
  | notPath => "path_type"
  | broken _ => "value_error"

/-- What to say about a flaw. -/
def message : Flaw -> String
  | missing => "Field required"
  | notText => "Input should be a valid string"
  | badTextBytes =>
      "Input should be a valid string, unable to parse raw data as a unicode string"
  | notTruth => "Input should be a valid boolean"
  | unreadTruth => "Input should be a valid boolean, unable to interpret input"
  | notInteger => "Input should be a valid integer"
  | unreadInteger => "Input should be a valid integer, unable to parse string as an integer"
  | longInteger => "Unable to parse input string as an integer, exceeded maximum size"
  | fractional => "Input should be a valid integer, got a number with a fractional part"
  | infinite => "Input should be a finite number"
  | notNumber => "Input should be a valid number"
  | unreadNumber => "Input should be a valid number, unable to parse string as a number"
  | below least => s!"Input should be greater than or equal to {least}"
  | above greatest => s!"Input should be less than or equal to {greatest}"
  | notAbove bound => s!"Input should be greater than {bound}"
  | notList => "Input should be a valid list"
  | notDictionary => "Input should be a valid dictionary"
  | notModel model => s!"Input should be a valid dictionary or instance of {model}"
  | notWord words => s!"Input should be {alternatives words}"
  | badKey => "Keys should be strings"
  | notMoment => "Input should be a valid datetime"
  | unreadMoment reason => s!"Input should be a valid datetime or date, {reason}"
  | unreachedMoment reason => s!"Input should be a valid datetime, {reason}"
  | notPath => "Input is not a valid path for <class 'pathlib.Path'>"
  | broken reason => s!"Value error, {reason}"

end Flaw

/-- A flaw and the names and positions that lead to it. -/
structure Problem where
  place : List String
  flaw : Flaw
  deriving Repr, DecidableEq

namespace Problem

/-- The place of a problem, its parts joined by dots. -/
def placeText (p : Problem) : String :=
  ".".intercalate p.place

/-- A line that shows a problem. -/
def line (p : Problem) : String :=
  if p.place.isEmpty then s!"  - {p.flaw.message}" else s!"  - {p.placeText}: {p.flaw.message}"

/-- The number of problems with a model, in words. -/
def countText (problems : List Problem) (model : String) : String :=
  if problems.length == 1 then s!"1 validation error for {model}"
  else s!"{problems.length} validation errors for {model}"

end Problem

/-- A value that was checked, or all problems with it. -/
abbrev Checked := Except (List Problem)

namespace Checked

/-- A flaw of the value itself. -/
def flawed (f : Flaw) : Checked α :=
  .error [⟨[], f⟩]

/-- A result without problems. -/
def of (a : α) : Checked α :=
  .ok a

/-- The problems of a value, if there are any. -/
def problems : Checked α -> List Problem
  | .ok _ => []
  | .error ps => ps

/-- A result under a name or a position. -/
def under (key : String) (r : Checked α) : Checked α :=
  r.mapError fun ps => ps.map fun p => { p with place := key :: p.place }

/-- Apply a checked function to a checked argument; the problems of both are kept. -/
def apply (f : Checked (α -> β)) (a : Checked α) : Checked β :=
  match f, a with
  | .ok g, .ok x => .ok (g x)
  | f, a => .error (f.problems ++ a.problems)

/-- All results in order, with the problems of all of them. -/
def all : List (Checked α) -> Checked (List α)
  | [] => .ok []
  | r :: rest => apply (r.map (· :: ·)) (all rest)

/-- Results under their positions, counted from a number. -/
def indexed (n : Nat) : List (Checked α) -> List (Checked α)
  | [] => []
  | r :: rest => under (toString n) r :: indexed (n + 1) rest

/-- A further test of a value that was checked. -/
def andThen (r : Checked α) (f : α -> Checked β) : Checked β :=
  match r with
  | .ok x => f x
  | .error ps => .error ps

/-! ## When there are no problems -/

variable {α β : Type}

theorem under_ok {key : String} {r : Checked α} {a : α} : under key r = .ok a ↔ r = .ok a := by
  cases r with
  | ok x => rfl
  | error ps =>
      constructor
      · intro h
        cases h
      · intro h
        cases h

theorem apply_ok {f : Checked (α -> β)} {a : Checked α} {b : β} :
    apply f a = .ok b ↔ ∃ g x, f = .ok g ∧ a = .ok x ∧ g x = b := by
  cases f <;> cases a <;> simp [apply]

theorem andThen_ok {r : Checked α} {f : α -> Checked β} {b : β} :
    andThen r f = .ok b ↔ ∃ x, r = .ok x ∧ f x = .ok b := by
  cases r <;> simp [andThen]

theorem all_ok {rs : List (Checked α)} {xs : List α} : all rs = .ok xs ↔ rs = xs.map .ok := by
  induction rs generalizing xs with
  | nil => cases xs <;> simp [all]
  | cons r rest ih =>
      rw [all, apply_ok]
      constructor
      · rintro ⟨g, tail, hr, ht, rfl⟩
        cases r with
        | error ps => cases hr
        | ok a =>
            cases hr
            rw [ih.1 ht]
            rfl
      · intro h
        cases xs with
        | nil => cases h
        | cons x more =>
            cases h
            exact ⟨(x :: ·), more, rfl, ih.2 rfl, rfl⟩

theorem indexed_ok {n : Nat} {rs : List (Checked α)} {xs : List α} :
    indexed n rs = xs.map .ok ↔ rs = xs.map .ok := by
  induction rs generalizing n xs with
  | nil => simp [indexed]
  | cons r rest ih =>
      cases xs with
      | nil => simp [indexed]
      | cons x more => simp [indexed, under_ok, ih]

end Checked

end Workflow
