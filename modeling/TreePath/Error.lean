/-
TreePath.Error — the failures of evaluation and validation.

A failure is a code from a closed list, a message for people, and, once it has passed through a
function call, the signature of the innermost such function. The code alone decides the kind of
failure; passing through further calls changes neither code nor message.
-/

namespace TreePath

/-- The broad classes of failure. -/
inductive ErrorKind where
  /-- A value has no counterpart in the requested type. -/
  | cast
  /-- The type or the number of items is not the required one. -/
  | typeMismatch
  /-- A function got the wrong number of arguments, or is unknown. -/
  | arity
  /-- A constraint cannot stand on the kind of definition it was attached to. -/
  | unsupportedTarget
  /-- Any other failure while evaluating. -/
  | evaluation
deriving DecidableEq, Repr

/-- What went wrong. -/
inductive ErrorCode where
  | divisionByZero
  | numericOverflow
  | valueOutOfRange
  | durationOverflow
  | unidentified
  | invalidLexicalForm
  | moreThanOneItem
  | noItem
  | notExactlyOneItem
  | invalidArgument
  | invalidPatternFlags
  | invalidPattern
  | noTypedValue
  | noContextItem
  | rootNotDocument
  | undeclaredVariable
  | unknownFunction
  | wrongType
  | stepFromAtomicValue
  | contextItemNotNode
  | misplacedConstraint
  | functionFailure
deriving DecidableEq, Repr

namespace ErrorCode

/-- The published form of the code. -/
def text : ErrorCode → String
  | divisionByZero => "FOAR0001"
  | numericOverflow => "FOAR0002"
  | valueOutOfRange => "FOCA0001"
  | durationOverflow => "FODT0002"
  | unidentified => "FOER0000"
  | invalidLexicalForm => "FORG0001"
  | moreThanOneItem => "FORG0003"
  | noItem => "FORG0004"
  | notExactlyOneItem => "FORG0005"
  | invalidArgument => "FORG0006"
  | invalidPatternFlags => "FORX0001"
  | invalidPattern => "FORX0002"
  | noTypedValue => "FOTY0012"
  | noContextItem => "XPDY0002"
  | rootNotDocument => "XPDY0050"
  | undeclaredVariable => "XPST0008"
  | unknownFunction => "XPST0017"
  | wrongType => "XPTY0004"
  | stepFromAtomicValue => "XPTY0019"
  | contextItemNotNode => "XPTY0020"
  | misplacedConstraint => "MPST0001"
  | functionFailure => "MPDY0001"

/-- Every code. -/
def all : List ErrorCode := [
  divisionByZero, numericOverflow, valueOutOfRange, durationOverflow, unidentified,
  invalidLexicalForm, moreThanOneItem, noItem, notExactlyOneItem, invalidArgument,
  invalidPatternFlags, invalidPattern, noTypedValue, noContextItem, rootNotDocument,
  undeclaredVariable, unknownFunction, wrongType, stepFromAtomicValue, contextItemNotNode,
  misplacedConstraint, functionFailure]

/-- The code with the given published form. -/
def ofText? (s : String) : Option ErrorCode := all.find? (·.text == s)

def kind : ErrorCode → ErrorKind
  | invalidLexicalForm | valueOutOfRange | durationOverflow => .cast
  | wrongType | stepFromAtomicValue | contextItemNotNode | rootNotDocument | moreThanOneItem
  | noItem | notExactlyOneItem | invalidArgument | noTypedValue => .typeMismatch
  | unknownFunction => .arity
  | misplacedConstraint => .unsupportedTarget
  | _ => .evaluation

end ErrorCode

/-- A failure. -/
structure Error where
  code : ErrorCode
  message : String
  /-- The signature of the innermost function the failure passed through. -/
  function : Option String := none
deriving DecidableEq, Repr

namespace Error

def kind (e : Error) : ErrorKind := e.code.kind

/-- Records the function a failure passes through, unless an inner one is recorded already. -/
def inFunction (e : Error) (signature : String) : Error :=
  { e with function := some (e.function.getD signature) }

/-- The failure in one line. -/
def display (e : Error) : String :=
  let base := "error: " ++ e.message ++ " (err:" ++ e.code.text ++ ")"
  match e.function with
  | some signature => base ++ " in " ++ signature
  | none => base

@[simp] theorem code_inFunction (e : Error) (s : String) : (e.inFunction s).code = e.code := rfl

@[simp] theorem message_inFunction (e : Error) (s : String) :
    (e.inFunction s).message = e.message := rfl

theorem inFunction_inFunction (e : Error) (s t : String) :
    (e.inFunction s).inFunction t = e.inFunction s := by
  simp [inFunction]

end Error

end TreePath
