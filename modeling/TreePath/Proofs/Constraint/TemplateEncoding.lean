/-
TreePath.Proofs.Constraint.TemplateEncoding — a template says what it was written for.

A draft is what somebody wants a message to say: texts and snippets in turn. It is written as a
template by a backslash in front of every opening brace of a text and every closing brace of a
snippet, and braces around the snippets. Reading the template finds the draft again
(`split_write`), if no text in front of a snippet ends in a backslash, which would escape the brace
behind it, and the snippets have neither backslashes nor white space around them. So the compiler
gets the snippets as they were meant, and the message consists of the texts with the values of the
snippets between them.
-/
import TreePath.Proofs.Constraint.Placeholders
import TreePath.Proofs.Text.Digits

namespace TreePath.Template

open TreePath.Text
open TreePath.Text.Unicode (isWhiteSpace)

/-! ## Escaping -/

/-- Puts a backslash in front of every `brace`. -/
def escape (brace : Char) (s : List Char) : List Char :=
  s.flatMap fun c => if c = brace then ['\\', c] else [c]

@[simp] theorem escape_nil (brace : Char) : escape brace [] = [] := rfl

@[simp] theorem escape_cons_self (brace : Char) (s : List Char) :
    escape brace (brace :: s) = '\\' :: brace :: escape brace s := by
  simp [escape]

theorem escape_cons_of_ne {brace c : Char} (h : c ≠ brace) (s : List Char) :
    escape brace (c :: s) = c :: escape brace s := by
  simp [escape, h]

theorem escape_concat (brace : Char) (s : List Char) (c : Char) :
    escape brace (s ++ [c]) = escape brace s ++ (if c = brace then ['\\', c] else [c]) := by
  simp [escape]

theorem escape_eq_nil_iff {brace : Char} {s : List Char} : escape brace s = [] ↔ s = [] := by
  cases s with
  | nil => simp
  | cons c s =>
    by_cases hc : c = brace
    · simp [hc]
    · simp [escape_cons_of_ne hc]

/-- Escaping does not change how a text ends. -/
theorem getLast?_escape (brace : Char) (s : List Char) :
    (escape brace s).getLast? = s.getLast? := by
  obtain rfl | ⟨s, c, rfl⟩ := List.eq_nil_or_concat' s
  · rfl
  · rw [escape_concat, List.getLast?_concat]
    split
    · rw [List.append_cons, List.getLast?_concat]
    · rw [List.getLast?_concat]

theorem escapes_escape (brace : Char) (s : List Char) :
    escapes (escape brace s) = escapes s := by
  rw [escapes, getLast?_escape, escapes]

theorem head?_escape_ne {brace : Char} (hbrace : brace ≠ '\\') (s : List Char) :
    (escape brace s).head? ≠ some brace := by
  cases s with
  | nil => simp
  | cons c s =>
    by_cases hc : c = brace
    · rw [hc, escape_cons_self, List.head?_cons]
      exact fun h => hbrace (Option.some.inj h).symm
    · rw [escape_cons_of_ne hc, List.head?_cons]
      exact fun h => hc (Option.some.inj h)

theorem unescape_cons {brace : Char} {s : List Char} (h : s.head? ≠ some brace) (c : Char) :
    unescape brace (c :: s) = c :: unescape brace s := by
  cases s with
  | nil => rfl
  | cons d s =>
    rw [unescape, if_neg]
    rw [Bool.and_eq_true, decide_eq_true_eq, decide_eq_true_eq]
    rintro ⟨-, rfl⟩
    exact h rfl

theorem unescape_escape {brace : Char} (hbrace : brace ≠ '\\') (s : List Char) :
    unescape brace (escape brace s) = s := by
  induction s with
  | nil => rfl
  | cons c s ih =>
    by_cases hc : c = brace
    · rw [hc, escape_cons_self, unescape, if_pos (by simp), ih]
    · rw [escape_cons_of_ne hc, unescape_cons (head?_escape_ne hbrace s), ih]

/-- An escaped text without white space around it has none around it either. -/
theorem trim_escape {brace : Char} {s : List Char} (hs : trim s = s) :
    trim (escape brace s) = escape brace s := by
  refine trim_of_ends (fun c hc => ?_) (fun c hc => ?_)
  · have hhead := not_white_of_mem_head?_trim (s := s)
    rw [hs] at hhead
    cases s with
    | nil => simp at hc
    | cons d s =>
      by_cases hd : d = brace
      · rw [hd, escape_cons_self, List.head?_cons, Option.mem_some_iff] at hc
        rw [← hc]
        rfl
      · rw [escape_cons_of_ne hd, List.head?_cons] at hc
        exact hhead c hc
  · rw [getLast?_escape, ← hs] at hc
    exact not_white_of_mem_getLast?_trim c hc

/-! ## Reading what is escaped -/

/-- A text with escaped opening braces is read as it stands. What is behind it is read as if the
text stood there without the escapes. -/
theorem split_escape (behind s rest : List Char) :
    split (escapes behind) (escape '{' s ++ rest)
      = (escape '{' s).foldr consText (split (escapes (behind ++ s)) rest) := by
  induction s generalizing behind with
  | nil => rw [List.append_nil]; rfl
  | cons c s ih =>
    have hnext := ih (behind ++ [c])
    rw [escapes_concat, List.append_assoc, List.singleton_append] at hnext
    by_cases hc : c = '{'
    · rw [hc] at hnext ⊢
      rw [escape_cons_self, List.cons_append, List.cons_append, split_char (absurd · (by decide)),
        split_char (by decide), hnext]
      rfl
    · rw [escape_cons_of_ne hc, List.cons_append, split_char (absurd · hc), hnext]
      rfl

/-- A snippet with escaped closing braces ends at the brace behind it. -/
theorem cutAtClosing_escape {s : List Char} (hs : '\\' ∉ s) (rest : List Char) :
    cutAtClosing false (escape '}' s ++ '}' :: rest) = some (escape '}' s, rest) := by
  induction s with
  | nil => rfl
  | cons c s ih =>
    obtain ⟨hc, hs⟩ := not_or.mp (mt List.mem_cons.mpr hs)
    by_cases hbrace : c = '}'
    · rw [hbrace, escape_cons_self, List.cons_append, List.cons_append, cutAtClosing,
        if_neg (by decide), cutAtClosing, if_neg (by decide)]
      rw [show decide ('}' = '\\') = false from rfl, ih hs]
      rfl
    · rw [escape_cons_of_ne hbrace, List.cons_append, cutAtClosing, if_neg (by simp [hbrace]),
        decide_eq_false (Ne.symm hc), ih hs]
      rfl

theorem enclosed?_escape {s : List Char} (hs : '\\' ∉ s) (rest : List Char) :
    enclosed? (escape '}' s ++ '}' :: rest) = some (escape '}' s, rest) := by
  rw [enclosed?, cutAtClosing_escape hs, Option.some_or]

/-! ## Drafts -/

/-- Texts and snippets in turn, as they are meant. A text may be empty. -/
inductive Draft where
  | last (text : List Char)
  | snippet (text inner : List Char) (more : Draft)

namespace Draft

/-- The template for a draft. -/
def write : Draft → List Char
  | last text => escape '{' text
  | snippet text inner more =>
    escape '{' text ++ '{' :: (escape '}' inner ++ '}' :: more.write)

/-- Nothing in the draft disturbs the braces that are put around its snippets, and no snippet
changes when it is read. -/
def Plain : Draft → Prop
  | last _ => True
  | snippet text inner more =>
    escapes text = false ∧ trim inner = inner ∧ '\\' ∉ inner ∧ more.Plain

/-- A text as a stretch; an empty one is none. -/
def textPieces (s : List Char) : List Piece := if s = [] then [] else [.text s]

/-- The texts that are not empty, and the snippets. -/
def pieces : Draft → List Piece
  | last text => textPieces text
  | snippet text inner more => textPieces text ++ .snippet inner :: more.pieces

/-- The text of the draft with a value for each snippet. -/
def fill (value : List Char → Eval String) : Draft → Eval String
  | last text => return String.ofList text
  | snippet text inner more => do
    return String.ofList text ++ ((← value inner) ++ (← more.fill value))

end Draft

/-- A stretch with escaped braces. -/
def Piece.escaped : Piece → Piece
  | .text s => .text (escape '{' s)
  | .snippet s => .snippet (escape '}' s)

/-- What a stretch is meant to stand for. -/
def Piece.meaning (compile : String → Except Error Expression) : Piece → Except Error Segment
  | .text s => .ok (.text (String.ofList s))
  | .snippet s => (compile (String.ofList s)).map .expression

theorem foldr_consText_nil (s : List Char) : s.foldr consText [] = Draft.textPieces s := by
  induction s with
  | nil => rfl
  | cons c s ih =>
    rw [List.foldr_cons, ih]
    cases s <;> rfl

theorem foldr_consText_snippet (s inner : List Char) (rest : List Piece) :
    s.foldr consText (.snippet inner :: rest)
      = Draft.textPieces s ++ .snippet inner :: rest := by
  induction s with
  | nil => rfl
  | cons c s ih =>
    rw [List.foldr_cons, ih]
    cases s <;> rfl

theorem textPieces_escape (s : List Char) :
    Draft.textPieces (escape '{' s) = (Draft.textPieces s).map Piece.escaped := by
  simp only [Draft.textPieces, escape_eq_nil_iff]
  split <;> rfl

/-- The stretches of a template that is written for a draft are those of the draft. -/
theorem split_write {d : Draft} (hd : d.Plain) :
    split false d.write = d.pieces.map Piece.escaped := by
  induction d with
  | last text =>
    have h := split_escape [] text []
    rw [List.append_nil, split, foldr_consText_nil, textPieces_escape] at h
    exact h
  | snippet text inner more ih =>
    obtain ⟨htext, -, hinner, hmore⟩ := hd
    rw [Draft.write, ← escapes_nil, split_escape, List.nil_append, htext,
      split_open (enclosed?_escape hinner _), ih hmore, foldr_consText_snippet,
      textPieces_escape, Draft.pieces, List.map_append, List.map_cons]
    rfl

/-! ## What is read -/

section

variable (compile : String → Except Error Expression)

theorem segment_escaped_text (s : List Char) :
    (Piece.text s).escaped.segment compile = (Piece.text s).meaning compile := by
  rw [Piece.escaped, Piece.segment, unescape_escape (by decide), Piece.meaning]

theorem segment_escaped_snippet {s : List Char} (hs : trim s = s) :
    (Piece.snippet s).escaped.segment compile = (Piece.snippet s).meaning compile := by
  rw [Piece.escaped, Piece.segment, trim_escape hs, unescape_escape (by decide), Piece.meaning]

theorem segment_escaped {d : Draft} (hd : d.Plain) :
    ∀ p ∈ d.pieces, p.escaped.segment compile = p.meaning compile := by
  have htext : ∀ s, ∀ p ∈ Draft.textPieces s,
      p.escaped.segment compile = p.meaning compile := by
    intro s p hp
    rw [Draft.textPieces] at hp
    split at hp
    · cases hp
    · rw [List.mem_singleton.mp hp, segment_escaped_text]
  induction d with
  | last text => exact htext text
  | snippet text inner more ih =>
    obtain ⟨-, htrim, -, hmore⟩ := hd
    refine List.forall_mem_append.mpr ⟨htext text, List.forall_mem_cons.mpr ⟨?_, ih hmore⟩⟩
    exact segment_escaped_snippet compile htrim

/-- The stretches of the template are read as what they were meant for, one after another. -/
theorem mapM_segment_split_write {d : Draft} (hd : d.Plain) :
    (split false d.write).mapM (·.segment compile) = d.pieces.mapM (·.meaning compile) := by
  calc (split false d.write).mapM (·.segment compile)
      = (d.pieces.map fun p => p.escaped.segment compile).mapM id := by
        rw [split_write hd, List.mapM_map, List.mapM_map]
        rfl
    _ = (d.pieces.map fun p => p.meaning compile).mapM id := by
        rw [List.map_congr_left (segment_escaped compile hd)]
    _ = d.pieces.mapM (·.meaning compile) := by
        rw [List.mapM_map]
        rfl

/-! ## What is rendered -/

variable (ctx : Context) (item : Item)

/-- The value of a snippet for an item. -/
def snippetValue (s : List Char) : Eval String := do
  (Segment.expression (← Eval.ofResult (compile (String.ofList s)))).render ctx item

/-- What a stretch contributes to the message. -/
def Piece.rendered : Piece → Eval String
  | .text s => return String.ofList s
  | .snippet s => snippetValue compile ctx item s

theorem render_of_meaning {p : Piece} {segment : Segment}
    (h : p.meaning compile = .ok segment) :
    segment.render ctx item = p.rendered compile ctx item := by
  cases p with
  | text s =>
    cases h
    rfl
  | snippet s =>
    cases hcompile : compile (String.ofList s) with
    | error e =>
      rw [Piece.meaning, hcompile] at h
      cases h
    | ok e =>
      rw [Piece.meaning, hcompile] at h
      cases h
      rw [Piece.rendered, snippetValue, hcompile]
      rfl

theorem mapM_render_of_meaning {pieces : List Piece} {segments : List Segment}
    (h : List.Forall₂ (fun p segment => p.meaning compile = .ok segment) pieces segments) :
    segments.mapM (·.render ctx item) = pieces.mapM (·.rendered compile ctx item) := by
  induction h with
  | nil => rfl
  | cons hp _ ih => rw [List.mapM_cons, List.mapM_cons, ih, render_of_meaning compile ctx item hp]

/-- The contributions of stretches one after another. -/
def joined (pieces : List Piece) : Eval String := do
  return String.join (← pieces.mapM (·.rendered compile ctx item))

theorem joined_textPieces (s : List Char) (rest : List Piece) :
    joined compile ctx item (Draft.textPieces s ++ rest)
      = do return String.ofList s ++ (← joined compile ctx item rest) := by
  rw [Draft.textPieces]
  split
  · rename_i hs
    simp [joined, hs]
  · simp [joined, Piece.rendered, String.join_cons]

theorem joined_snippet (s : List Char) (rest : List Piece) :
    joined compile ctx item (.snippet s :: rest)
      = do return (← snippetValue compile ctx item s) ++ (← joined compile ctx item rest) := by
  simp [joined, Piece.rendered, String.join_cons]

/-- The stretches of a draft one after another are the draft with its snippets filled in. -/
theorem joined_pieces (d : Draft) :
    joined compile ctx item d.pieces = d.fill (snippetValue compile ctx item) := by
  induction d with
  | last text =>
    have h := joined_textPieces compile ctx item text []
    rw [List.append_nil] at h
    rw [Draft.pieces, h]
    simp [joined, Draft.fill]
  | snippet text inner more ih =>
    rw [Draft.pieces, joined_textPieces, joined_snippet, ih, Draft.fill]
    simp

end

/-! ## Templates for drafts -/

theorem parse_write_eq (compile : String → Except Error Expression) {d : Draft} (hd : d.Plain) :
    parse compile (String.ofList d.write)
      = (d.pieces.mapM (Piece.meaning compile)).map (⟨String.ofList d.write, ·⟩) := by
  rw [← mapM_segment_split_write compile hd, parse, String.toList_ofList]
  rfl

theorem render_of_parse_write {compile : String → Except Error Expression} {d : Draft}
    (hd : d.Plain) {t : Template} (ht : parse compile (String.ofList d.write) = .ok t)
    (ctx : Context) (item : Item) :
    t.render ctx item = d.fill (snippetValue compile ctx item) := by
  rw [parse_write_eq compile hd] at ht
  cases hsegments : d.pieces.mapM (Piece.meaning compile) with
  | error e =>
    rw [hsegments] at ht
    cases ht
  | ok segments =>
    rw [hsegments] at ht
    cases ht
    rw [render, mapM_render_of_meaning compile ctx item (Eval.mapM_eq_ok_iff.mp hsegments)]
    exact joined_pieces compile ctx item d

/-- A template that is written for a plain draft is read as the draft: the compiler gets the
snippets in their order, between them are the texts that are not empty, and the message is the draft
with the values of the snippets in their places. A text without snippets comes out as it is. -/
theorem parse_plain_draft (compile : String → Except Error Expression) (d : Draft)
    (hd : d.Plain) :
    parse compile (String.ofList d.write)
        = (d.pieces.mapM (Piece.meaning compile)).map (⟨String.ofList d.write, ·⟩) ∧
      (∀ t, parse compile (String.ofList d.write) = .ok t → ∀ ctx item,
        t.render ctx item = d.fill (snippetValue compile ctx item)) ∧
      ∀ text, ∃ t, parse compile (String.ofList (escape '{' text)) = .ok t ∧
        t.snippetCount = 0 ∧ ∀ ctx item, t.render ctx item = return String.ofList text := by
  refine ⟨parse_write_eq compile hd, fun t ht => render_of_parse_write hd ht, fun text => ?_⟩
  have hplain : (Draft.last text).Plain := trivial
  have hparse := parse_write_eq compile hplain
  have hsegments : ∃ segments,
      (Draft.last text).pieces.mapM (Piece.meaning compile) = .ok segments ∧
        (Template.mk (String.ofList (escape '{' text)) segments).snippetCount = 0 := by
    rw [Draft.pieces, Draft.textPieces]
    split
    · exact ⟨[], rfl, rfl⟩
    · exact ⟨_, rfl, rfl⟩
  obtain ⟨segments, hsegments, hcount⟩ := hsegments
  rw [hsegments] at hparse
  exact ⟨_, hparse, hcount, render_of_parse_write hplain hparse⟩

/-- A text that ends in an opening brace, and a snippet that ends in a closing one. -/
theorem parse_plain_draft_of_braces :
    (Draft.snippet ['a', '{'] ['x', '}'] (.last [])).Plain ∧
      parse (fun _ => .ok .contextItem) "a\\\x7b\x7bx\\\x7d\x7d"
        = .ok ⟨"a\\\x7b\x7bx\\\x7d\x7d", [.text "a\x7b", .expression .contextItem]⟩ := by
  have hplain : (Draft.snippet ['a', '{'] ['x', '}'] (.last [])).Plain :=
    ⟨by decide, trim_of_graphic (fun _ => isGraphic_of_all rfl), by decide, trivial⟩
  exact ⟨hplain, (parse_plain_draft (fun _ => .ok .contextItem) _ hplain).1⟩

end TreePath.Template
