/-!
# Faults

A computation of the simulator either gives a value or stops with a fault.  A fault has a
kind, named as the simulator's users see it (`ValueError`, `ZeroDivisionError`, …), and a
message when the simulator states one as part of its contract: the faults it raises itself
on bad input carry their message, the faults of plain arithmetic (a division by zero, an
attribute that a value lacks) carry none.
-/

namespace RocketSim

/-- The kinds of fault. -/
inductive FaultKind where
  | valueError
  | typeError
  | attributeError
  | keyError
  | indexError
  | zeroDivisionError
  | notImplementedError
  | assertionError
  | overflowError
  | fileNotFoundError
  | nameError
  | syntaxError
  | runtimeError
  | systemExit
  | unboundLocalError
  | other (name : String)
  deriving Repr, BEq, Inhabited

/-- The name under which a fault kind is reported. -/
def FaultKind.name : FaultKind → String
  | .valueError => "ValueError"
  | .typeError => "TypeError"
  | .attributeError => "AttributeError"
  | .keyError => "KeyError"
  | .indexError => "IndexError"
  | .zeroDivisionError => "ZeroDivisionError"
  | .notImplementedError => "NotImplementedError"
  | .assertionError => "AssertionError"
  | .overflowError => "OverflowError"
  | .fileNotFoundError => "FileNotFoundError"
  | .nameError => "NameError"
  | .syntaxError => "SyntaxError"
  | .runtimeError => "RuntimeError"
  | .systemExit => "SystemExit"
  | .unboundLocalError => "UnboundLocalError"
  | .other n => n

/-- A fault: its kind and, when it is part of the contract, its message. -/
structure Fault where
  /-- What went wrong. -/
  kind : FaultKind
  /-- The stated message, for faults the simulator raises itself. -/
  message : Option String := none
  deriving Repr, Inhabited

namespace Fault

/-- A fault the simulator raises itself, with its message. -/
def raise (kind : FaultKind) (message : String) : Fault := ⟨kind, some message⟩

/-- A fault of plain arithmetic or of a missing capability, without message. -/
def bare (kind : FaultKind) : Fault := ⟨kind, none⟩

/-- Division by zero. -/
def zeroDivision : Fault := bare .zeroDivisionError

/-- A value used where it does not fit. -/
def typeMismatch : Fault := bare .typeError

/-- A value that lacks an attribute or method. -/
def noAttribute : Fault := bare .attributeError

/-- A value out of range. -/
def badValue : Fault := bare .valueError

/-- An index out of range. -/
def badIndex : Fault := bare .indexError

/-- A key that is absent, reported with the key as its message. -/
def missingKey (key : String) : Fault := ⟨.keyError, some key⟩

end Fault

/-- Computations that may stop with a fault. -/
abbrev Outcome := Except Fault

end RocketSim
