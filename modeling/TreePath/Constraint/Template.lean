/-
TreePath.Constraint.Template — messages with expressions inside.

A template is text in which an expression between braces stands for its value. A brace behind a
backslash is not special: an opening brace written so begins nothing, and a closing brace written so
ends nothing as long as another one ends the snippet. Reading has two steps: `split` finds the
snippets, and `parse` compiles them and removes the backslashes in front of braces.
-/
import TreePath.Eval

namespace TreePath

open TreePath.Text

/-! ## Splitting -/

namespace Template

/-- A stretch of a template as it is written. -/
inductive Piece where
  | text (s : List Char)
  /-- What stands between the braces. -/
  | snippet (s : List Char)
deriving DecidableEq, Repr

/-- The texts before and after the first closing brace that has no backslash in front of it;
`escaped` says whether there is one in front of the text. -/
def cutAtClosing (escaped : Bool) : List Char → Option (List Char × List Char)
  | [] => none
  | c :: rest =>
    if c = '}' && !escaped then some ([], rest)
    else (cutAtClosing (c = '\\') rest).map fun (before, after) => (c :: before, after)

/-- What an opening brace encloses, and what follows. The first closing brace without a backslash
ends it; where there is none, the last closing brace does, and the backslash in front of it belongs
to the enclosed text. -/
def enclosed? (s : List Char) : Option (List Char × List Char) :=
  (cutAtClosing false s).or (cutLast '}' s)

theorem length_of_cutAtClosing {escaped : Bool} {s before after : List Char}
    (h : cutAtClosing escaped s = some (before, after)) : after.length < s.length := by
  induction s generalizing escaped before with
  | nil => simp [cutAtClosing] at h
  | cons c rest ih =>
    unfold cutAtClosing at h
    split at h
    · simp only [Option.some.injEq, Prod.mk.injEq] at h
      simp [← h.2]
    · simp only [Option.map_eq_some_iff, Prod.mk.injEq, Prod.exists] at h
      obtain ⟨b, a, hcut, _, rfl⟩ := h
      have := ih hcut
      simp only [List.length_cons]
      omega

theorem length_of_enclosed? {s inner after : List Char}
    (h : enclosed? s = some (inner, after)) : after.length < s.length := by
  unfold enclosed? at h
  cases hcut : cutAtClosing false s with
  | some p =>
    rw [hcut, Option.some_or] at h
    cases h
    exact length_of_cutAtClosing hcut
  | none =>
    rw [hcut, Option.none_or] at h
    exact length_of_cutLast h

/-- Puts a character in front of the text that pieces begin with. -/
def consText (c : Char) : List Piece → List Piece
  | .text s :: rest => .text (c :: s) :: rest
  | rest => .text [c] :: rest

/-- The texts and snippets of a template in order; `escaped` says whether a backslash stands in
front. -/
def split (escaped : Bool) : List Char → List Piece
  | [] => []
  | c :: rest =>
    if c = '{' && !escaped then
      match _h : enclosed? rest with
      | some (inner, after) => .snippet inner :: split false after
      | none => consText c (split false rest)
    else consText c (split (c = '\\') rest)
termination_by s => s.length
decreasing_by
  · have := length_of_enclosed? _h
    simp only [List.length_cons]
    omega
  · simp
  · simp

/-- Removes the backslash in front of every `brace`. -/
def unescape (brace : Char) : List Char → List Char
  | [] => []
  | [c] => [c]
  | c :: d :: rest =>
    if c = '\\' && d = brace then brace :: unescape brace rest
    else c :: unescape brace (d :: rest)

end Template

/-! ## Templates -/

/-- A part of a template. -/
inductive Segment where
  | text (s : String)
  | expression (e : Expression)

/-- The text of a segment for an item; several results are set apart by commas. -/
def Segment.render (ctx : Context) (item : Item) : Segment → Eval String
  | .text s => return s
  | .expression e => do
    return ", ".intercalate ((← e.evalAt ctx item).map (·.stringValue))

/-- A message with expressions inside. -/
structure Template where
  source : String
  segments : List Segment

namespace Template

/-- A template without expressions; nothing in the text is special. -/
def literal (text : String) : Template := ⟨text, [.text text]⟩

/-- What a piece stands for. A snippet is compiled without the white space around it. -/
def Piece.segment (compile : String → Except Error Expression) :
    Piece → Except Error Segment
  | .text s => .ok (.text (String.ofList (unescape '{' s)))
  | .snippet s => (compile (String.ofList (unescape '}' (trim s)))).map .expression

/-- Reads a template; `compile` reads the expressions. -/
def parse (compile : String → Except Error Expression) (source : String) :
    Except Error Template := do
  return ⟨source, ← (split false source.toList).mapM (·.segment compile)⟩

/-- How many expressions there are. -/
def snippetCount (t : Template) : Nat :=
  t.segments.countP fun s => match s with
    | .expression _ => true
    | .text _ => false

/-- The message for an item. -/
def render (t : Template) (ctx : Context) (item : Item) : Eval String := do
  return String.join (← t.segments.mapM (·.render ctx item))

end Template

end TreePath
