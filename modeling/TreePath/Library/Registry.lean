/-
TreePath.Library.Registry — the built-in functions and their signatures.

All of them are deterministic. Functions that can do without their first argument take the context
item instead and depend on the focus in that form.
-/
import TreePath.Function.Call
import TreePath.Library.Nodes
import TreePath.Library.Sequences
import TreePath.Library.Strings

namespace TreePath.Library

/-- A built-in function without its identity. -/
structure Entry where
  name : String
  parameters : List Parameter
  result : SequenceType
  properties : FunctionProperties
  handler : Plain

/-! ## Types -/

def parameter (name : String) (item : ItemType) (o : Occurrence) : Parameter := ⟨name, ⟨item, o⟩⟩

def anyAtomic : ItemType := .atomic .anyAtomic

def stringType : ItemType := .atomic .string

def booleanType : ItemType := .atomic .boolean

def decimalType : ItemType := .atomic .decimal

def integerType : ItemType := .atomic .integer

def uriType : ItemType := .atomic .uriReference

/-! ## Entries -/

/-- A function of its arguments alone. -/
def pureEntry (name : String) (parameters : List Parameter) (item : ItemType) (o : Occurrence)
    (handler : Plain) : Entry :=
  ⟨name, parameters, ⟨item, o⟩, { deterministic := true }, handler⟩

/-- A function of the context item. -/
def focused (name : String) (item : ItemType) (o : Occurrence) (handler : Plain) : Entry :=
  ⟨name, [], ⟨item, o⟩, { deterministic := true, focusDependent := true }, handler⟩

def items : Parameter := parameter "arg" .anyItem .zeroOrMore

def values : Parameter := parameter "arg" anyAtomic .zeroOrMore

def optionalString (name : String) : Parameter := parameter name stringType .zeroOrOne

def oneString (name : String) : Parameter := parameter name stringType .one

def truthEntries : List Entry := [
  pureEntry "true" [] booleanType .one (always true),
  pureEntry "false" [] booleanType .one (always false),
  pureEntry "not" [items] booleanType .one negation,
  pureEntry "boolean" [items] booleanType .one boolean]

def stringEntries : List Entry := [
  focused "string" stringType .one string,
  pureEntry "string" [parameter "arg" .anyItem .zeroOrOne] stringType .one string,
  focused "string-length" integerType .one stringLength,
  pureEntry "string-length" [optionalString "arg"] integerType .one stringLength,
  focused "normalize-space" stringType .one normalizeSpace,
  pureEntry "normalize-space" [optionalString "arg"] stringType .one normalizeSpace,
  ⟨"concat", [parameter "arg1" anyAtomic .zeroOrOne, parameter "arg2" anyAtomic .zeroOrOne],
    ⟨stringType, .one⟩, { deterministic := true, unbounded := true }, concat⟩,
  pureEntry "contains" [optionalString "arg1", optionalString "arg2"] booleanType .one contains,
  pureEntry "starts-with" [optionalString "arg1", optionalString "arg2"] booleanType .one
    startsWith,
  pureEntry "ends-with" [optionalString "arg1", optionalString "arg2"] booleanType .one endsWith,
  pureEntry "substring" [optionalString "source", parameter "start" decimalType .one] stringType
    .one substring,
  pureEntry "substring" [optionalString "source", parameter "start" decimalType .one,
    parameter "length" decimalType .one] stringType .one substring,
  pureEntry "upper-case" [optionalString "arg"] stringType .one upperCase,
  pureEntry "lower-case" [optionalString "arg"] stringType .one lowerCase,
  pureEntry "matches" [optionalString "input", oneString "pattern"] booleanType .one «matches»,
  pureEntry "matches" [optionalString "input", oneString "pattern", oneString "flags"] booleanType
    .one «matches»,
  pureEntry "string-join" [values] stringType .one stringJoin,
  pureEntry "string-join" [values, oneString "separator"] stringType .one stringJoin,
  pureEntry "tokenize" [optionalString "input"] stringType .zeroOrMore tokenize,
  pureEntry "tokenize" [optionalString "input", oneString "pattern"] stringType .zeroOrMore
    tokenize,
  pureEntry "tokenize" [optionalString "input", oneString "pattern", oneString "flags"] stringType
    .zeroOrMore tokenize]

def sequenceEntries : List Entry := [
  pureEntry "count" [items] integerType .one count,
  pureEntry "empty" [items] booleanType .one empty,
  pureEntry "exists" [items] booleanType .one «exists»,
  pureEntry "sum" [values] anyAtomic .one sum,
  pureEntry "sum" [values, parameter "zero" anyAtomic .zeroOrOne] anyAtomic .zeroOrOne sum,
  pureEntry "avg" [values] anyAtomic .zeroOrOne average,
  pureEntry "min" [values] anyAtomic .zeroOrOne minimum,
  pureEntry "max" [values] anyAtomic .zeroOrOne maximum,
  pureEntry "distinct-values" [values] anyAtomic .zeroOrMore distinctValues,
  pureEntry "exactly-one" [items] .anyItem .one exactlyOne,
  pureEntry "zero-or-one" [items] .anyItem .zeroOrOne zeroOrOne,
  pureEntry "one-or-more" [items] .anyItem .oneOrMore oneOrMore,
  pureEntry "reverse" [items] .anyItem .zeroOrMore reverse,
  pureEntry "head" [items] .anyItem .zeroOrOne head,
  pureEntry "tail" [items] .anyItem .zeroOrMore tail]

def optionalNumber : Parameter := parameter "arg" decimalType .zeroOrOne

def numberEntries : List Entry := [
  pureEntry "abs" [optionalNumber] decimalType .zeroOrOne abs,
  pureEntry "ceiling" [optionalNumber] decimalType .zeroOrOne ceiling,
  pureEntry "floor" [optionalNumber] decimalType .zeroOrOne floor,
  pureEntry "round" [optionalNumber] decimalType .zeroOrOne round,
  pureEntry "round" [optionalNumber, parameter "precision" integerType .one] decimalType .zeroOrOne
    round]

/-- A function of a node, and the same function of the context node. -/
def nodeEntries (name : String) (item : ItemType) (o : Occurrence) (handler : Plain) :
    List Entry := [
  focused name item o handler,
  pureEntry name [parameter "arg" .anyNode .zeroOrOne] item o handler]

/-- Every built-in function. -/
def entries : List Entry :=
  truthEntries ++ stringEntries ++ sequenceEntries ++ numberEntries ++ [
    focused "data" anyAtomic .zeroOrMore data,
    pureEntry "data" [items] anyAtomic .zeroOrMore data] ++
  nodeEntries "base-uri" uriType .zeroOrOne baseUri ++
  nodeEntries "document-uri" uriType .zeroOrOne documentUri ++
  nodeEntries "path" stringType .zeroOrOne path ++
  nodeEntries "has-children" booleanType .one hasChildren ++
  nodeEntries "root" .anyNode .zeroOrOne root ++ [
    ⟨"current-dateTime", [], ⟨.atomic .dateTimeWithTimezone, .one⟩,
      { deterministic := true, contextDependent := true }, currentDateTime⟩]

/-- The function of an entry. -/
def Entry.toFunction (e : Entry) (id : FunctionId) : Function where
  id := id
  name := .function e.name
  parameters := e.parameters
  result := e.result
  properties := e.properties
  handler := fun site args => .done (e.handler site args)

/-- The built-in functions; each is identified by its index. -/
def functions : List Function := entries.zipIdx.map fun (e, i) => e.toFunction i

/-- The registry of the built-in functions. -/
def registry : Registry := Registry.empty.registerAll functions

end TreePath.Library
