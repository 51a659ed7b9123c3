/-
TreePath.Proofs.Constraint.Placeholders — where a template has its placeholders.

`split` cuts a template into texts and snippets. The stretches it finds are the template again when
the braces are put back (`written_split`), and three things can be said of the braces:

* the brace that opens a snippet has no backslash in front of it;
* where such an opening brace is followed by a closing brace without a backslash, the first of these
  ends the snippet;
* where it is followed by closing braces that all have a backslash, the last of these ends the
  snippet all the same, and the backslash belongs to the snippet.

So a brace behind a backslash does close a snippet, when nothing else does. An opening brace in a
text has a backslash in front of it, or no closing brace at all behind it.
-/
import TreePath.Constraint.Template
import TreePath.Proofs.Function.Outcome
import TreePath.Proofs.Text.Cutting

namespace TreePath.Template

open TreePath.Text

/-! ## Backslashes in front of braces -/

/-- A brace behind the text has a backslash in front of it. -/
def escapes (s : List Char) : Bool := s.getLast? == some '\\'

@[simp] theorem escapes_nil : escapes [] = false := rfl

@[simp] theorem escapes_concat (s : List Char) (c : Char) :
    escapes (s ++ [c]) = decide (c = '\\') := by
  rw [escapes, List.getLast?_concat, Bool.eq_iff_iff, beq_iff_eq, decide_eq_true_eq,
    Option.some.injEq]

/-- Every `brace` in the text has a backslash in front of it; the text stands behind `behind`. -/
def AllEscaped (brace : Char) (behind s : List Char) : Prop :=
  ∀ before after, s = before ++ brace :: after → escapes (behind ++ before) = true

theorem allEscaped_nil (brace : Char) (behind : List Char) : AllEscaped brace behind [] := by
  intro before after h
  simp at h

theorem allEscaped_cons {brace c : Char} {behind s : List Char} :
    AllEscaped brace behind (c :: s) ↔
      (c = brace → escapes behind = true) ∧ AllEscaped brace (behind ++ [c]) s := by
  constructor
  · intro h
    refine ⟨fun hc => ?_, fun before after hs => ?_⟩
    · simpa using h [] s (by rw [hc, List.nil_append])
    · simpa using h (c :: before) after (by rw [hs, List.cons_append])
  · rintro ⟨hc, hs⟩ before after h
    cases before with
    | nil =>
      obtain ⟨rfl, -⟩ := List.cons.inj h
      simpa using hc rfl
    | cons b before =>
      obtain ⟨rfl, rfl⟩ := List.cons.inj h
      simpa using hs before after rfl

/-! ## What an opening brace encloses -/

/-- A text is cut at the first closing brace without a backslash. -/
theorem cutAtClosing_eq_some {behind s before after : List Char}
    (h : cutAtClosing (escapes behind) s = some (before, after)) :
    s = before ++ '}' :: after ∧ escapes (behind ++ before) = false ∧
      AllEscaped '}' behind before := by
  induction s generalizing behind before with
  | nil => cases h
  | cons c s ih =>
    rw [cutAtClosing] at h
    split at h
    · rename_i hc
      rw [Bool.and_eq_true, decide_eq_true_eq, Bool.not_eq_true'] at hc
      cases h
      exact ⟨by rw [hc.1, List.nil_append], by simpa using hc.2, allEscaped_nil _ _⟩
    · rename_i hc
      obtain ⟨⟨before', after'⟩, hcut, heq⟩ := Option.map_eq_some_iff.mp h
      cases heq
      rw [← escapes_concat behind c] at hcut
      obtain ⟨rfl, hlast, hall⟩ := ih hcut
      refine ⟨rfl, by simpa using hlast, allEscaped_cons.mpr ⟨fun hbrace => ?_, hall⟩⟩
      simpa [hbrace] using hc

/-- A text is cut nowhere if all its closing braces have backslashes. -/
theorem cutAtClosing_eq_none {behind s : List Char}
    (h : cutAtClosing (escapes behind) s = none) : AllEscaped '}' behind s := by
  induction s generalizing behind with
  | nil => exact allEscaped_nil _ _
  | cons c s ih =>
    rw [cutAtClosing] at h
    split at h
    · cases h
    · rename_i hc
      rw [Option.map_eq_none_iff, ← escapes_concat behind c] at h
      exact allEscaped_cons.mpr ⟨fun hbrace => by simpa [hbrace] using hc, ih h⟩

/-- The closing brace between `inner` and `after` is the first one without a backslash. -/
def ClosedByFirst (inner : List Char) : Prop :=
  escapes inner = false ∧ AllEscaped '}' [] inner

/-- All closing braces have backslashes, and the one between `inner` and `after` is the last. -/
def ClosedByLast (inner after : List Char) : Prop :=
  AllEscaped '}' [] (inner ++ '}' :: after) ∧ '}' ∉ after

theorem enclosed?_eq_some {s inner after : List Char} (h : enclosed? s = some (inner, after)) :
    s = inner ++ '}' :: after ∧ (ClosedByFirst inner ∨ ClosedByLast inner after) := by
  rw [enclosed?, ← escapes_nil] at h
  cases hcut : cutAtClosing (escapes []) s with
  | some cut =>
    rw [hcut, Option.some_or] at h
    cases h
    obtain ⟨hs, hlast, hall⟩ := cutAtClosing_eq_some hcut
    exact ⟨hs, .inl ⟨hlast, hall⟩⟩
  | none =>
    rw [hcut, Option.none_or] at h
    obtain ⟨rfl, hafter⟩ := cutLast_eq_some_iff.mp h
    exact ⟨rfl, .inr ⟨cutAtClosing_eq_none hcut, hafter⟩⟩

theorem not_mem_of_enclosed?_eq_none {s : List Char} (h : enclosed? s = none) : '}' ∉ s := by
  rw [enclosed?, Option.or_eq_none_iff] at h
  exact cutLast_eq_none_iff.mp h.2

/-! ## The stretches of a template -/

theorem split_open {rest inner after : List Char} (h : enclosed? rest = some (inner, after)) :
    split false ('{' :: rest) = .snippet inner :: split false after := by
  rw [split, if_pos (by decide)]
  split
  · rename_i heq
    cases h.symm.trans heq
    rfl
  · rename_i heq
    cases h.symm.trans heq

theorem split_char {escaped : Bool} {c : Char} (h : c = '{' → escaped = true) (rest : List Char) :
    split escaped (c :: rest) = consText c (split (c = '\\') rest) := by
  rw [split, if_neg]
  rw [Bool.and_eq_true, decide_eq_true_eq, Bool.not_eq_true']
  rintro ⟨hc, hescaped⟩
  cases (h hc).symm.trans hescaped

/-- A stretch with its braces. -/
def Piece.written : Piece → List Char
  | .text s => s
  | .snippet s => '{' :: s ++ ['}']

/-- Stretches one after another, with their braces. -/
def written (pieces : List Piece) : List Char := pieces.flatMap Piece.written

@[simp] theorem written_nil : written [] = [] := rfl

@[simp] theorem written_cons (p : Piece) (pieces : List Piece) :
    written (p :: pieces) = p.written ++ written pieces := rfl

@[simp] theorem written_append (front back : List Piece) :
    written (front ++ back) = written front ++ written back := List.flatMap_append

theorem written_consText (c : Char) (pieces : List Piece) :
    written (consText c pieces) = c :: written pieces := by
  cases pieces with
  | nil => rfl
  | cons p rest => cases p <;> rfl

/-- Nothing of a template is lost. -/
theorem written_split (escaped : Bool) (s : List Char) : written (split escaped s) = s := by
  fun_induction split escaped s with
  | case1 => rfl
  | case2 escaped c rest hc inner after henc ih =>
    rw [Bool.and_eq_true, decide_eq_true_eq] at hc
    rw [written_cons, ih, Piece.written, hc.1, (enclosed?_eq_some henc).1]
    simp
  | case3 escaped c rest hc henc ih => rw [written_consText, ih]
  | case4 escaped c rest hc ih => rw [written_consText, ih]

/-- What a stretch says about the braces of the template it belongs to, between `behind` and
`after`. -/
def Piece.Marked (behind after : List Char) : Piece → Prop
  | .text s => ∀ before rest, s = before ++ '{' :: rest →
      escapes (behind ++ before) = true ∨ '}' ∉ rest ++ after
  | .snippet inner => escapes behind = false ∧ (ClosedByFirst inner ∨ ClosedByLast inner after)

theorem Piece.marked_text_nil (behind after : List Char) : (text []).Marked behind after := by
  intro before rest h
  simp at h

theorem Piece.marked_text_cons {c : Char} {s behind after : List Char} :
    (text (c :: s)).Marked behind after ↔
      (c = '{' → escapes behind = true ∨ '}' ∉ s ++ after) ∧
        (text s).Marked (behind ++ [c]) after := by
  constructor
  · intro h
    refine ⟨fun hc => ?_, fun before rest hs => ?_⟩
    · simpa using h [] s (by rw [hc, List.nil_append])
    · simpa using h (c :: before) rest (by rw [hs, List.cons_append])
  · rintro ⟨hc, hs⟩ before rest h
    cases before with
    | nil =>
      obtain ⟨rfl, rfl⟩ := List.cons.inj h
      simpa using hc rfl
    | cons b before =>
      obtain ⟨rfl, rfl⟩ := List.cons.inj h
      simpa using hs before rest rfl

/-- Every stretch is right about the braces; the stretches stand behind `behind`. -/
def AllMarked (behind : List Char) (pieces : List Piece) : Prop :=
  ∀ front p back, pieces = front ++ p :: back → p.Marked (behind ++ written front) (written back)

theorem allMarked_nil (behind : List Char) : AllMarked behind [] := by
  intro front p back h
  simp at h

theorem allMarked_cons {behind : List Char} {p : Piece} {pieces : List Piece} :
    AllMarked behind (p :: pieces) ↔
      p.Marked behind (written pieces) ∧ AllMarked (behind ++ p.written) pieces := by
  constructor
  · intro h
    refine ⟨by simpa using h [] p pieces rfl, fun front q back hp => ?_⟩
    simpa using h (p :: front) q back (by rw [hp, List.cons_append])
  · rintro ⟨hp, hpieces⟩ front q back h
    cases front with
    | nil =>
      obtain ⟨rfl, rfl⟩ := List.cons.inj h
      simpa using hp
    | cons p' front =>
      obtain ⟨rfl, rfl⟩ := List.cons.inj h
      simpa using hpieces front q back rfl

theorem allMarked_consText {behind : List Char} {c : Char} {pieces : List Piece}
    (hc : c = '{' → escapes behind = true ∨ '}' ∉ written pieces)
    (h : AllMarked (behind ++ [c]) pieces) : AllMarked behind (consText c pieces) := by
  have hnew : ∀ rest, written pieces = written rest →
      (Piece.text [c]).Marked behind (written rest) := fun rest heq =>
    Piece.marked_text_cons.mpr ⟨fun hbrace => heq ▸ hc hbrace, Piece.marked_text_nil _ _⟩
  cases pieces with
  | nil => exact allMarked_cons.mpr ⟨hnew [] rfl, h⟩
  | cons p rest =>
    cases p with
    | snippet inner => exact allMarked_cons.mpr ⟨hnew _ rfl, h⟩
    | text s =>
      obtain ⟨hs, hrest⟩ := allMarked_cons.mp h
      refine allMarked_cons.mpr ⟨Piece.marked_text_cons.mpr ⟨hc, hs⟩, ?_⟩
      simpa [Piece.written] using hrest

theorem allMarked_split {behind : List Char} {escaped : Bool} (s : List Char)
    (hb : escapes behind = escaped) : AllMarked behind (split escaped s) := by
  fun_induction split escaped s generalizing behind with
  | case1 => exact allMarked_nil _
  | case2 escaped c rest hc inner after henc ih =>
    rw [Bool.and_eq_true, decide_eq_true_eq, Bool.not_eq_true'] at hc
    have hinner := (enclosed?_eq_some henc).2
    rw [← written_split false after] at hinner
    refine allMarked_cons.mpr ⟨⟨hb.trans hc.2, hinner⟩, ih ?_⟩
    rw [Piece.written, ← List.append_assoc, escapes_concat]
    rfl
  | case3 escaped c rest hc henc ih =>
    refine allMarked_consText (fun _ => .inr ?_) (ih ?_)
    · rw [written_split]
      exact not_mem_of_enclosed?_eq_none henc
    · rw [Bool.and_eq_true, decide_eq_true_eq] at hc
      rw [escapes_concat, hc.1]
      rfl
  | case4 escaped c rest hc ih =>
    refine allMarked_consText (fun hbrace => .inl ?_) (ih (escapes_concat behind c))
    simpa [hb, hbrace] using hc

/-! ## Placeholders -/

/-- Where a template has its placeholders, and what closes them. A placeholder begins at a brace
without a backslash, and ends at the first closing brace without one if there is any behind its
beginning, else at the last closing brace. An opening brace without a backslash that begins no
placeholder has no closing brace behind it. -/
theorem parse_placeholders (compile : String → Except Error Expression) (source : String) :
    written (split false source.toList) = source.toList ∧
    (∀ t, parse compile source = .ok t ↔ t.source = source ∧
      List.Forall₂ (fun p segment => p.segment compile = .ok segment)
        (split false source.toList) t.segments) ∧
    (∀ front inner back, split false source.toList = front ++ .snippet inner :: back →
      escapes (written front) = false ∧
      (ClosedByFirst inner ↔ ¬ AllEscaped '}' [] (inner ++ '}' :: written back)) ∧
      (AllEscaped '}' [] (inner ++ '}' :: written back) → '}' ∉ written back)) ∧
    ∀ front text back, split false source.toList = front ++ .text text :: back →
      ∀ before rest, text = before ++ '{' :: rest →
        escapes (written front ++ before) = true ∨ '}' ∉ rest ++ written back := by
  have hmarked := allMarked_split source.toList escapes_nil
  refine ⟨written_split _ _, fun t => ?_, fun front inner back h => ?_,
    fun front text back h => by simpa [Piece.Marked] using hmarked front _ back h⟩
  · rw [parse, ← Eval.mapM_eq_ok_iff]
    cases (split false source.toList).mapM (·.segment compile) with
    | error e => exact ⟨nofun, nofun⟩
    | ok segments =>
      obtain ⟨tsource, tsegments⟩ := t
      constructor
      · intro h
        cases h
        exact ⟨rfl, rfl⟩
      · rintro ⟨rfl, h⟩
        cases h
        rfl
  · obtain ⟨hopen, hclosed⟩ := hmarked front _ back h
    have hfirst : ClosedByFirst inner → ¬ AllEscaped '}' [] (inner ++ '}' :: written back) := by
      intro hfirst hall
      have hlast : escapes inner = true := hall inner (written back) rfl
      rw [hfirst.1] at hlast
      cases hlast
    refine ⟨hopen, ⟨hfirst, fun hnot => ?_⟩, fun hall => ?_⟩
    · exact hclosed.resolve_right fun hlast => hnot hlast.1
    · exact (hclosed.resolve_left fun h => hfirst h hall).2

/-- Escaped braces in front of a placeholder and inside it: `\{ {a\}}`. -/
theorem parse_placeholders_of_two_escapes :
    split false "\\\x7b \x7ba\\\x7d\x7d".toList
        = [.text ['\\', '{', ' '], .snippet ['a', '\\', '}']] ∧
      escapes ['\\', '{', ' '] = false ∧ ClosedByFirst ['a', '\\', '}'] ∧
      escapes ['\\'] = true := by
  have hsplit : split false "\\\x7b \x7ba\\\x7d\x7d".toList
      = [.text ['\\', '{', ' '], .snippet ['a', '\\', '}']] := by
    have henc : enclosed? ['a', '\\', '}', '}'] = some (['a', '\\', '}'], []) := by decide
    show split false ['\\', '{', ' ', '{', 'a', '\\', '}', '}'] = _
    rw [split_char (by decide), split_char (by decide), split_char (by decide),
      decide_eq_false (by decide), split_open henc, split]
    rfl
  obtain ⟨-, -, hsnippets, htexts⟩ :=
    parse_placeholders (fun _ => .ok .contextItem) "\\\x7b \x7ba\\\x7d\x7d"
  obtain ⟨hopen, hfirst, -⟩ := hsnippets [_] _ [] hsplit
  refine ⟨hsplit, hopen, hfirst.mpr fun hall => ?_, ?_⟩
  · exact absurd (hall ['a', '\\', '}'] [] rfl) (by decide)
  · exact (htexts [] _ _ hsplit ['\\'] [' '] rfl).resolve_right fun hnot => hnot (by decide)

/-- The only closing brace of `{a\}` has a backslash in front of it, and closes a snippet. -/
theorem parse_closed_by_escaped_brace :
    parse (fun _ => .ok .contextItem) "\x7ba\\\x7d"
        = .ok ⟨"\x7ba\\\x7d", [.expression .contextItem]⟩ ∧
      split false "\x7ba\\\x7d".toList = [.snippet ['a', '\\']] ∧
      AllEscaped '}' [] "a\\\x7d".toList ∧ ¬ ClosedByFirst ['a', '\\'] := by
  have henc : enclosed? ['a', '\\', '}'] = some (['a', '\\'], []) := by decide
  have hsplit : split false "\x7ba\\\x7d".toList = [.snippet ['a', '\\']] :=
    (split_open henc).trans (by rw [split])
  refine ⟨?_, hsplit, ?_, fun h => absurd h.1 (by decide)⟩
  · rw [parse, hsplit]
    rfl
  · simp [allEscaped_cons, allEscaped_nil, escapes]

end TreePath.Template
