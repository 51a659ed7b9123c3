/-
TreePath.Proofs.Library.Tokenizing — texts cut at the matches of a pattern.

A text is cut into tokens at the successive matches of a pattern, which are the separators. Tokens
and separators in turn are the text again, and there is one token more than separators, for every
text and every pattern (`tokenize_separators`). A pattern that matches the empty text is refused, so
that separators are not empty. That is enough for regular patterns: one that matches no character at
some place of a text also matches the empty text. It is not enough for others. A word boundary, or a
look around, can match no character between two characters and yet not match the empty text, and
then the separators are empty (`tokenize_at_word_boundaries`).
-/
import TreePath.Proofs.Library.Calls
import TreePath.Proofs.Library.Soundness
import TreePath.Proofs.Regex.Matches

namespace TreePath.Library

open TreePath.Regex (Match Successive)

/-! ## Tokens and separators -/

/-- Tokens and separators in turn; a token comes first. -/
def interleave : (tokens separators : List (List Char)) → List Char
  | token :: tokens, separator :: separators =>
    token ++ separator ++ interleave tokens separators
  | tokens, _ => tokens.flatten

/-- Texts as a sequence of strings. -/
def ofTexts (texts : List (List Char)) : Sequence :=
  texts.map fun t => .atomic (.string (String.ofList t))

/-- What a pattern matches in a text, from left to right. -/
def separators (r : Regex) (s : List Char) : List (List Char) := (r.findAll s).map (·.text s)

theorem length_piecesBetween (position : Nat) (s : List Char) (found : List Match) :
    (piecesBetween position s found).length = found.length + 1 := by
  induction found generalizing position s with
  | nil => rfl
  | cons m rest ih => rw [piecesBetween, List.length_cons, List.length_cons, ih]

/-- The characters between two positions, and those behind. -/
theorem take_append_drop_of_le {s : List Char} {i j : Nat} (h : i ≤ j) :
    (s.drop i).take (j - i) ++ s.drop j = s.drop i := by
  have := List.take_append_drop (j - i) (s.drop i)
  rwa [List.drop_drop, Nat.add_sub_cancel' h] at this

theorem interleave_piecesBetween {s : List Char} {position : Nat} {found : List Match}
    (h : Successive s.length position found) :
    interleave (piecesBetween position (s.drop position) found) (found.map (·.text s)) =
      s.drop position := by
  induction found generalizing position with
  | nil => simp [piecesBetween, interleave]
  | cons m rest ih =>
    obtain ⟨hstart, hstop, -, hrest⟩ := h
    have hdrop : (s.drop position).drop (m.stop - position) = s.drop m.stop := by
      rw [List.drop_drop, Nat.add_sub_cancel' (hstart.trans hstop)]
    rw [piecesBetween, List.map_cons, interleave, hdrop, ih hrest, Match.text, List.append_assoc,
      take_append_drop_of_le hstop, take_append_drop_of_le hstart]

theorem nil_not_mem_separators {r : Regex} {s : List Char}
    (h : Successive s.length 0 (r.findAll s)) :
    [] ∉ separators r s ↔ ∀ m ∈ r.findAll s, m.start ≠ m.stop := by
  have hiff : ∀ m ∈ r.findAll s, m.text s ≠ [] ↔ m.start ≠ m.stop := fun m hm => by
    obtain ⟨hle, hstop⟩ := h.le_stop m hm
    rw [Regex.Match.text_ne_nil hstop]
    omega
  rw [separators, List.mem_map]
  push Not
  exact forall₂_congr hiff

/-! ## The function -/

theorem tokenize_eq (site : CallSite) {args : List Sequence} (hpattern : args.length ≠ 1)
    (hinput : textArgument args 0 ≠ "") :
    tokenize site args =
      (Regex.compile (textArgument args 1) (textArgument args 2)).bind fun r =>
        if r.isMatch [] then
          .error ⟨.invalidPattern,
            "pattern '" ++ textArgument args 1 ++ "' matches a zero-length string", none⟩
        else .ok (ofTexts (piecesBetween 0 (textArgument args 0).toList
          (r.findAll (textArgument args 0).toList))) := by
  have hinput' : (textArgument args 0).toList.isEmpty = false := by
    rw [List.isEmpty_eq_false_iff]
    exact fun h => hinput (String.toList_eq_nil_iff.mp h)
  simp only [tokenize, if_neg hpattern, hinput', Bool.false_eq_true, if_false]
  cases Regex.compile (textArgument args 1) (textArgument args 2) with
  | error _ => rfl
  | ok r =>
    show (if r.isMatch [] = true then _ else _) = if r.isMatch [] = true then _ else _
    split <;> rfl

/-- A pattern that does not match the empty text cuts every text. -/
theorem tokenize_eq_ok (site : CallSite) {args : List Sequence} {r : Regex}
    (hpattern : args.length ≠ 1) (hinput : textArgument args 0 ≠ "")
    (hcompile : Regex.compile (textArgument args 1) (textArgument args 2) = .ok r)
    (hempty : r.isMatch [] = false) :
    tokenize site args = .ok (ofTexts (piecesBetween 0 (textArgument args 0).toList
      (r.findAll (textArgument args 0).toList))) := by
  rw [tokenize_eq site hpattern hinput, hcompile]
  exact if_neg (Bool.eq_false_iff.mp hempty)

theorem handler_of_tokenize : ∀ e ∈ entries, e.name = "tokenize" → e.handler = tokenize := by
  simp [entries, truthEntries, stringEntries, sequenceEntries, numberEntries, nodeEntries,
    pureEntry, focused]

/-- The function that cuts a text at the matches of a pattern without flags. -/
def tokenizeAt : Entry :=
  pureEntry "tokenize" [optionalString "input", oneString "pattern"] stringType .zeroOrMore
    tokenize

theorem tokenizeAt_admits (text pattern : String) :
    (tokenizeAt.toFunction 23).Admits [[.atomic (.string text)], [.atomic (.string pattern)]] where
  count := rfl
  typed
    | 0, _, rfl => ⟨_, rfl, rfl⟩
    | 1, _, rfl => ⟨_, rfl, rfl⟩

theorem gives_tokenize (site : CallSite) {text : String} (htext : text ≠ "") {pattern : String}
    {r : Regex} (hcompile : Regex.compile pattern "" = .ok r) (hempty : r.isMatch [] = false) :
    Gives "tokenize" site [[.atomic (.string text)], [.atomic (.string pattern)]]
      (ofTexts (piecesBetween 0 text.toList (r.findAll text.toList))) := by
  have hhandler : tokenize site [[.atomic (.string text)], [.atomic (.string pattern)]] = _ :=
    tokenize_eq_ok site (Nat.succ_ne_self 1) htext hcompile hempty
  exact .of_entry (e := tokenizeAt) rfl (tokenizeAt_admits text pattern) hhandler
    (accepts_strings _)

/-- What a pattern matches in a text, if it could be read and does not match the empty text. -/
def separating? (pattern : Except Error Regex) (s : List Char) : Option (List Match) :=
  match pattern with
  | .ok r => if r.isMatch [] then none else some (r.findAll s)
  | .error _ => none

theorem separating?_eq_some {pattern : Except Error Regex} {s : List Char} {found : List Match}
    (h : separating? pattern s = some found) :
    ∃ r, pattern = .ok r ∧ r.isMatch [] = false ∧ r.findAll s = found := by
  cases pattern with
  | error _ => cases h
  | ok r =>
    rw [separating?] at h
    split at h
    · cases h
    · rename_i hempty
      exact ⟨r, rfl, Bool.eq_false_iff.mpr hempty, Option.some.inj h⟩

/-- **Cutting at a pattern.** There is one token more than separators. Where the matches are
successive, tokens and separators in turn are the text, and no separator is empty exactly if no
match is. Regular patterns have successive matches, and none of them is empty. -/
theorem tokenize_separators {site : CallSite} {args : List Sequence} {result : Sequence}
    (h : Gives "tokenize" site args result) (hpattern : args.length ≠ 1)
    (hinput : textArgument args 0 ≠ "") :
    let input := (textArgument args 0).toList
    ∃ r tokens, Regex.compile (textArgument args 1) (textArgument args 2) = .ok r ∧
      result = ofTexts tokens ∧
      tokens.length = (separators r input).length + 1 ∧
      (Successive input.length 0 (r.findAll input) →
        interleave tokens (separators r input) = input ∧
          ([] ∉ separators r input ↔ ∀ m ∈ r.findAll input, m.start ≠ m.stop)) ∧
      (Regex.isRegular (textArgument args 1) (textArgument args 2) = true →
        interleave tokens (separators r input) = input ∧ [] ∉ separators r input) := by
  intro input
  obtain ⟨e, he, hname, hhandler⟩ := h.handled
  rw [handler_of_tokenize e he hname, tokenize_eq site hpattern hinput] at hhandler
  cases hcompile : Regex.compile (textArgument args 1) (textArgument args 2) with
  | error _ => rw [hcompile] at hhandler; cases hhandler
  | ok r =>
    rw [hcompile] at hhandler
    simp only [Except.bind] at hhandler
    split at hhandler
    · cases hhandler
    · rename_i hempty
      cases hhandler
      have hinterleave (hsuccessive : Successive input.length 0 (r.findAll input)) :
          interleave (piecesBetween 0 input (r.findAll input)) (separators r input) = input :=
        interleave_piecesBetween hsuccessive
      refine ⟨r, _, rfl, rfl, ?_, fun hsuccessive => ⟨hinterleave hsuccessive, ?_⟩, ?_⟩
      · rw [length_piecesBetween, separators, List.length_map]
      · exact nil_not_mem_separators hsuccessive
      · intro hregular
        obtain ⟨p, rfl⟩ := Regex.compile_regular hcompile hregular
        obtain ⟨hsuccessive, hstrict⟩ := Regex.findAll_regular p input
        refine ⟨hinterleave hsuccessive, (nil_not_mem_separators hsuccessive).mpr fun m hm => ?_⟩
        exact Nat.ne_of_lt (hstrict (Bool.not_eq_true _ ▸ hempty) m hm)

/-- A comma, and white space behind it. -/
theorem tokenize_separators_of_commas :
    let args : List Sequence := [[.atomic (.string "a, b,c")], [.atomic (.string ",\\s*")]]
    let result := ofTexts ["a".toList, "b".toList, "c".toList]
    Gives "tokenize" anywhere args result ∧ args.length ≠ 1 ∧ textArgument args 0 ≠ "" ∧
      Regex.isRegular ",\\s*" "" = true ∧
      ∃ r tokens, Regex.compile ",\\s*" "" = .ok r ∧ result = ofTexts tokens ∧
        tokens.length = (separators r "a, b,c".toList).length + 1 ∧
        interleave tokens (separators r "a, b,c".toList) = "a, b,c".toList ∧
        [] ∉ separators r "a, b,c".toList := by
  intro args result
  have hfound : separating? (Regex.compile ",\\s*" "") "a, b,c".toList =
      some [⟨1, 3⟩, ⟨4, 5⟩] := by decide +kernel
  obtain ⟨r, hcompile, hempty, hfound⟩ := separating?_eq_some hfound
  have htext : "a, b,c" ≠ "" := by decide
  have hlength : args.length ≠ 1 := Nat.succ_ne_self 1
  have hregular : Regex.isRegular ",\\s*" "" = true := by decide +kernel
  have hgives := gives_tokenize anywhere htext hcompile hempty
  rw [hfound] at hgives
  have hgives' : Gives "tokenize" anywhere args result := hgives
  obtain ⟨r', tokens, hr', htokens, hcount, -, hall⟩ :=
    tokenize_separators hgives' hlength htext
  exact ⟨hgives', hlength, htext, hregular, r', tokens, hr', htokens, hcount, hall hregular⟩

/-- Four word boundaries in a text, none of which is in the empty text. -/
theorem tokenize_at_word_boundaries :
    ∃ r, Regex.compile "\\b" "" = .ok r ∧ r.isMatch [] = false ∧
      separators r "ab cd".toList = [[], [], [], []] ∧
      Gives "tokenize" anywhere [[.atomic (.string "ab cd")], [.atomic (.string "\\b")]]
        (ofTexts ["".toList, "ab".toList, " ".toList, "cd".toList, "".toList]) := by
  have hfound : separating? (Regex.compile "\\b" "") "ab cd".toList =
      some [⟨0, 0⟩, ⟨2, 2⟩, ⟨3, 3⟩, ⟨5, 5⟩] := by decide +kernel
  obtain ⟨r, hcompile, hempty, hfound⟩ := separating?_eq_some hfound
  have htext : "ab cd" ≠ "" := by decide
  have hgives := gives_tokenize anywhere htext hcompile hempty
  rw [hfound] at hgives
  exact ⟨r, hcompile, hempty, by rw [separators, hfound]; rfl, hgives⟩

end TreePath.Library
