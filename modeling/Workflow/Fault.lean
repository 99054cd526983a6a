/-!
# Faults of evaluation

What can go wrong when an operation is applied to values.  Every fault belongs to
a class, which decides how callers treat it, and has a message.
-/

namespace Workflow

/--
The fault of an operation on data values.  The class names and messages are part of
what users of expressions and templates see.
-/
inductive Fault where
  /-- An operator does not accept operands of these types. -/
  | unsupported (op left right : String)
  /-- A unary operator or absolute value does not accept an operand of this type. -/
  | badOperand (op operand : String)
  /-- Values of these types have no order. -/
  | unordered (op left right : String)
  | notIterable (kind : String)
  /-- Membership was asked of a value that has no members. -/
  | notContainer (kind : String)
  | notSubscriptable (kind : String)
  | notCallable (kind : String)
  | noLength (kind : String)
  | unhashable (kind : String)
  | noAttribute (kind name : String)
  /-- The text of the absent key, as a literal. -/
  | keyAbsent (key : String)
  /-- A position beyond the ends of a sequence of this type. -/
  | indexRange (sequence : String)
  /-- A division or remainder by zero, with its wording. -/
  | zeroDivision (text : String)
  /-- An argument of the wrong type or number. -/
  | badArgument (text : String)
  /-- An argument of the right type with a value that has no meaning. -/
  | badValue (text : String)
  /-- A result too large to represent. -/
  | overflow (text : String)
  /-- A fault of a named class that values do not raise by themselves. -/
  | other (name text : String)
  deriving Repr, DecidableEq, Inhabited

namespace Fault

/-- The name of the class a fault belongs to. -/
def name : Fault -> String
  | unsupported .. => "TypeError"
  | badOperand .. => "TypeError"
  | unordered .. => "TypeError"
  | notIterable _ => "TypeError"
  | notContainer _ => "TypeError"
  | notSubscriptable _ => "TypeError"
  | notCallable _ => "TypeError"
  | noLength _ => "TypeError"
  | unhashable _ => "TypeError"
  | noAttribute .. => "AttributeError"
  | keyAbsent _ => "KeyError"
  | indexRange _ => "IndexError"
  | zeroDivision _ => "ZeroDivisionError"
  | badArgument _ => "TypeError"
  | badValue _ => "ValueError"
  | overflow _ => "OverflowError"
  | other name _ => name

/-- The message of a fault. -/
def message : Fault -> String
  | unsupported op left right =>
      s!"unsupported operand type(s) for {op}: '{left}' and '{right}'"
  | badOperand op operand => s!"bad operand type for {op}: '{operand}'"
  | unordered op left right =>
      s!"'{op}' not supported between instances of '{left}' and '{right}'"
  | notIterable kind => s!"'{kind}' object is not iterable"
  | notContainer kind => s!"argument of type '{kind}' is not iterable"
  | notSubscriptable kind => s!"'{kind}' object is not subscriptable"
  | notCallable kind => s!"'{kind}' object is not callable"
  | noLength kind => s!"object of type '{kind}' has no len()"
  | unhashable kind => s!"unhashable type: '{kind}'"
  | noAttribute kind name => s!"'{kind}' object has no attribute '{name}'"
  | keyAbsent key => key
  | indexRange sequence => s!"{sequence} index out of range"
  | zeroDivision text => text
  | badArgument text => text
  | badValue text => text
  | overflow text => text
  | other _ text => text

/-- Whether the fault says that a key or a position does not exist. -/
def isMissing : Fault -> Bool
  | keyAbsent _ => true
  | indexRange _ => true
  | other name _ => name == "KeyError" || name == "IndexError"
  | _ => false

end Fault

/-- The outcome of an operation on values. -/
abbrev Outcome := Except Fault

end Workflow
