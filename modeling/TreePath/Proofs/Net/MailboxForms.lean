/-
TreePath.Proofs.Net.MailboxForms — the texts that are read as host names and email addresses.

The grammars speak of characters (`IsLabel`, `IsHostname`, `IsDotAtom`, `IsEmailAddress`), and so do
their limits on lengths. The checks measure in bytes of UTF-8. A text in bytes is never shorter than
in characters, so a text that is accepted is of the grammar; a text of the grammar is accepted if
and only if its labels, its local part and its host name keep the limits in bytes as well
(`read_mailboxes`). ASCII texts always do.
-/
import TreePath.Atomic.Lexical
import TreePath.Proofs.Text.Bytes
import TreePath.Proofs.Text.Cutting

namespace TreePath.Net

open TreePath.Text TreePath.Text.Unicode

variable {s label : List Char}

/-! ## Grammars -/

/-- A label of a host name: 1 to 63 characters, each a letter, a digit or an inner hyphen. -/
structure IsLabel (label : List Char) : Prop where
  ne_nil : label ≠ []
  length_le : label.length ≤ 63
  character : ∀ (i : Nat) (h : i < label.length),
    isAlphanumeric label[i] = true ∨ label[i] = '-' ∧ 0 < i ∧ i + 1 < label.length

/-- A host name: labels with points between them, at most 253 characters. -/
structure IsHostname (s : List Char) : Prop where
  length_le : s.length ≤ 253
  labels : ∃ labels, labels ≠ [] ∧ s = join ['.'] labels ∧ ∀ label ∈ labels, IsLabel label

/-- Atoms with points between them. -/
def IsDotAtom (s : List Char) : Prop :=
  ∃ atoms, atoms ≠ [] ∧ s = join ['.'] atoms ∧
    ∀ atom ∈ atoms, atom ≠ [] ∧ ∀ c ∈ atom, isAtomCharacter c = true

/-- An email address: a local part of at most 64 characters, `@`, and a host name. -/
def IsEmailAddress (s : List Char) : Prop :=
  ∃ localPart domain, s = localPart ++ '@' :: domain ∧ IsDotAtom localPart ∧
    localPart.length ≤ 64 ∧ IsHostname domain

/-! ## Limits in bytes -/

/-- The labels have at most 63 bytes each, and all together with the points at most 253. -/
structure HostnameFits (s : List Char) : Prop where
  size_le : utf8Length s ≤ 253
  label_size_le : ∀ label ∈ splitAtChar '.' s, utf8Length label ≤ 63

/-- In front of the last `@` there are at most 64 bytes, and what follows it fits a host name. -/
def EmailFits (s : List Char) : Prop :=
  ∀ localPart domain, cutLast '@' s = some (localPart, domain) →
    utf8Length localPart ≤ 64 ∧ HostnameFits domain

/-! ## Characters -/

theorem isAlphanumeric_hyphen : isAlphanumeric '-' = false := by decide +kernel

theorem isAlphanumeric_point : isAlphanumeric '.' = false := by decide +kernel

theorem isAlphanumeric_at : isAlphanumeric '@' = false := by decide +kernel

theorem isAtomCharacter_point : isAtomCharacter '.' = false := by decide +kernel

theorem IsLabel.character_of_mem (h : IsLabel label) {c : Char} (hc : c ∈ label) :
    isAlphanumeric c = true ∨ c = '-' := by
  obtain ⟨i, hi, rfl⟩ := List.mem_iff_getElem.mp hc
  exact (h.character i hi).imp_right fun hhyphen => hhyphen.1

theorem IsLabel.point_not_mem (h : IsLabel label) : '.' ∉ label := by
  intro hc
  rcases h.character_of_mem hc with halphanumeric | heq
  · rw [isAlphanumeric_point] at halphanumeric
    cases halphanumeric
  · cases heq

/-! ## Labels -/

/-- There is no hyphen at either end if and only if every hyphen is an inner one. -/
theorem forall_character_iff : (∀ (i : Nat) (h : i < label.length),
      isAlphanumeric label[i] = true ∨ label[i] = '-' ∧ 0 < i ∧ i + 1 < label.length) ↔
    label.head? ≠ some '-' ∧ label.getLast? ≠ some '-' ∧
      ∀ c ∈ label, isAlphanumeric c = true ∨ c = '-' := by
  constructor
  · intro h
    have hhyphen : ∀ (i : Nat) (hi : i < label.length), label[i] = '-' →
        0 < i ∧ i + 1 < label.length := by
      intro i hi heq
      rcases h i hi with halphanumeric | hinner
      · rw [heq, isAlphanumeric_hyphen] at halphanumeric
        cases halphanumeric
      · exact hinner.2
    refine ⟨fun hhead => ?_, fun hlast => ?_, fun c hc => ?_⟩
    · rw [List.head?_eq_getElem?] at hhead
      obtain ⟨hi, heq⟩ := List.getElem?_eq_some_iff.mp hhead
      exact Nat.lt_irrefl 0 (hhyphen 0 hi heq).1
    · rw [List.getLast?_eq_getElem?] at hlast
      obtain ⟨hi, heq⟩ := List.getElem?_eq_some_iff.mp hlast
      have hinner := (hhyphen _ hi heq).2
      omega
    · obtain ⟨i, hi, rfl⟩ := List.mem_iff_getElem.mp hc
      exact (h i hi).imp_right fun hhyphen => hhyphen.1
  · rintro ⟨hhead, hlast, hall⟩ i hi
    refine (hall _ (List.getElem_mem hi)).imp_right fun heq => ⟨heq, ?_, ?_⟩
    · refine Nat.pos_of_ne_zero fun hzero => hhead ?_
      subst hzero
      rw [List.head?_eq_getElem?]
      exact List.getElem?_eq_some_iff.mpr ⟨hi, heq⟩
    · refine Nat.lt_of_le_of_ne hi fun hlen => hlast ?_
      rw [List.getLast?_eq_getElem?]
      have hindex : label.length - 1 = i := by omega
      rw [hindex]
      exact List.getElem?_eq_some_iff.mpr ⟨hi, heq⟩

theorem isLabel_eq_true_iff :
    isLabel label = true ↔ IsLabel label ∧ utf8Length label ≤ 63 := by
  have hchecks : isLabel label = true ↔ 1 ≤ utf8Length label ∧ utf8Length label ≤ 63 ∧
      ∀ (i : Nat) (h : i < label.length),
        isAlphanumeric label[i] = true ∨ label[i] = '-' ∧ 0 < i ∧ i + 1 < label.length := by
    rw [forall_character_iff, isLabel]
    simp only [Bool.and_eq_true, decide_eq_true_eq, bne_iff_ne, List.all_eq_true, Bool.or_eq_true,
      beq_iff_eq, and_assoc]
  have hlength := length_le_utf8Length label
  rw [hchecks]
  constructor
  · rintro ⟨hpos, hsize, hcharacter⟩
    have hne : label ≠ [] := fun hnil => by
      rw [utf8Length_eq_zero_iff.mpr hnil] at hpos
      omega
    exact ⟨⟨hne, Nat.le_trans hlength hsize, hcharacter⟩, hsize⟩
  · rintro ⟨hlabel, hsize⟩
    have hne : utf8Length label ≠ 0 := fun hzero => hlabel.ne_nil (utf8Length_eq_zero_iff.mp hzero)
    exact ⟨Nat.pos_of_ne_zero hne, hsize, hlabel.character⟩

/-! ## Host names -/

/-- **The check of host names** accepts the host names that keep the limits in bytes. -/
theorem isHostname_eq_true_iff : isHostname s = true ↔ IsHostname s ∧ HostnameFits s := by
  rw [isHostname, Bool.and_eq_true, decide_eq_true_eq, List.all_eq_true]
  simp only [isLabel_eq_true_iff]
  constructor
  · rintro ⟨hsize, hlabels⟩
    have hpieces := splitAtChar_eq_iff.mp (rfl : splitAtChar '.' s = _)
    exact ⟨⟨Nat.le_trans (length_le_utf8Length s) hsize,
        _, hpieces.1, hpieces.2.2, fun label h => (hlabels label h).1⟩,
      hsize, fun label h => (hlabels label h).2⟩
  · rintro ⟨⟨-, labels, hne, hs, hlabels⟩, hsize, hfits⟩
    have hsplit : splitAtChar '.' s = labels :=
      splitAtChar_eq_iff.mpr ⟨hne, fun label h => (hlabels label h).point_not_mem, hs⟩
    rw [hsplit] at hfits ⊢
    exact ⟨hsize, fun label h => ⟨hlabels label h, hfits label h⟩⟩

theorem IsHostname.at_not_mem (h : IsHostname s) : '@' ∉ s := by
  intro hat
  obtain ⟨labels, -, rfl, hlabels⟩ := h.labels
  rcases mem_join hat with hpoint | ⟨label, hlabel, hc⟩
  · exact absurd hpoint (by decide)
  · rcases (hlabels label hlabel).character_of_mem hc with halphanumeric | heq
    · rw [isAlphanumeric_at] at halphanumeric
      cases halphanumeric
    · cases heq

/-! ## Email addresses -/

theorem isLocalPart_eq_true_iff : isLocalPart s = true ↔ IsDotAtom s ∧ utf8Length s ≤ 64 := by
  have hatoms : ∀ atom : List Char, (!atom.isEmpty && atom.all isAtomCharacter) = true ↔
      atom ≠ [] ∧ ∀ c ∈ atom, isAtomCharacter c = true := by
    simp
  rw [isLocalPart, Bool.and_eq_true, Bool.and_eq_true, decide_eq_true_eq, List.all_eq_true]
  simp only [hatoms]
  constructor
  · rintro ⟨⟨-, hsize⟩, hall⟩
    have hpieces := splitAtChar_eq_iff.mp (rfl : splitAtChar '.' s = _)
    exact ⟨⟨_, hpieces.1, hpieces.2.2, hall⟩, hsize⟩
  · rintro ⟨⟨atoms, hne, hs, hall⟩, hsize⟩
    have hfree : ∀ atom ∈ atoms, '.' ∉ atom := by
      intro atom hatom hpoint
      have hcharacter := (hall atom hatom).2 '.' hpoint
      rw [isAtomCharacter_point] at hcharacter
      cases hcharacter
    have hsplit : splitAtChar '.' s = atoms := splitAtChar_eq_iff.mpr ⟨hne, hfree, hs⟩
    rw [hsplit]
    refine ⟨⟨?_, hsize⟩, hall⟩
    -- an empty text has one atom, which is empty
    cases s with
    | nil =>
      have hnil : ([] : List Char) ∈ atoms := by
        rw [← hsplit]
        exact List.mem_singleton.mpr rfl
      exact absurd rfl (hall [] hnil).1
    | cons c s => rfl

/-- **The check of email addresses** accepts the email addresses that keep the limits in bytes. As
no host name has an `@`, it is the last one that divides the address. -/
theorem isEmailAddress_eq_true_iff :
    isEmailAddress s = true ↔ IsEmailAddress s ∧ EmailFits s := by
  rw [isEmailAddress]
  constructor
  · intro h
    split at h
    · rename_i localPart domain hcut
      rw [Bool.and_eq_true, isLocalPart_eq_true_iff, isHostname_eq_true_iff] at h
      obtain ⟨⟨hatoms, hsize⟩, hdomain, hfits⟩ := h
      refine ⟨⟨localPart, domain, (cutLast_eq_some_iff.mp hcut).1, hatoms,
        Nat.le_trans (length_le_utf8Length localPart) hsize, hdomain⟩, fun l d hld => ?_⟩
      cases hcut.symm.trans hld
      exact ⟨hsize, hfits⟩
    · cases h
  · rintro ⟨⟨localPart, domain, hs, hatoms, -, hdomain⟩, hfits⟩
    have hcut : cutLast '@' s = some (localPart, domain) :=
      cutLast_eq_some_iff.mpr ⟨hs, hdomain.at_not_mem⟩
    obtain ⟨hsize, hdomainFits⟩ := hfits localPart domain hcut
    rw [hcut]
    simp only [Bool.and_eq_true, isLocalPart_eq_true_iff, isHostname_eq_true_iff]
    exact ⟨⟨hatoms, hsize⟩, hdomain, hdomainFits⟩

/-! ## ASCII -/

/-- A host name in ASCII keeps the limits in bytes. -/
theorem IsHostname.fits (h : IsHostname s) (hascii : ∀ c ∈ s, c.utf8Size = 1) : HostnameFits s := by
  obtain ⟨hlength, labels, hne, rfl, hlabels⟩ := h
  have hsplit : splitAtChar '.' (join ['.'] labels) = labels :=
    splitAtChar_join hne fun label hlabel => (hlabels label hlabel).point_not_mem
  refine ⟨by rwa [utf8Length_of_single hascii], fun label hlabel => ?_⟩
  rw [hsplit] at hlabel
  rw [utf8Length_of_single fun c hc => hascii c (mem_join_of_mem hlabel hc)]
  exact (hlabels label hlabel).length_le

/-- An email address in ASCII keeps the limits in bytes. -/
theorem IsEmailAddress.fits (h : IsEmailAddress s) (hascii : ∀ c ∈ s, c.utf8Size = 1) :
    EmailFits s := by
  obtain ⟨localPart, domain, rfl, -, hlength, hdomain⟩ := h
  intro l d hcut
  have hparts : cutLast '@' (localPart ++ '@' :: domain) = some (localPart, domain) :=
    cutLast_eq_some_iff.mpr ⟨rfl, hdomain.at_not_mem⟩
  cases hparts.symm.trans hcut
  refine ⟨?_, hdomain.fits fun c hc => hascii c (by simp [hc])⟩
  rwa [utf8Length_of_single fun c hc => hascii c (by simp [hc])]

end TreePath.Net

namespace TreePath.Datatype

open TreePath.Text TreePath.Net

variable {lexical : String} {s : List Char}

/-! ## Reading -/

theorem read_hostname (hs : trim lexical.toList = s) :
    (IsHostname s ∧ HostnameFits s → hostname.read lexical = .ok (.hostname (String.ofList s))) ∧
      (¬ (IsHostname s ∧ HostnameFits s) →
        hostname.read lexical = .error (.invalidLexical "hostname" lexical.toList)) := by
  rw [← isHostname_eq_true_iff, ← hs]
  exact ⟨fun h => if_pos h, fun h => if_neg h⟩

theorem read_emailAddress (hs : trim lexical.toList = s) :
    (IsEmailAddress s ∧ EmailFits s →
        emailAddress.read lexical = .ok (.emailAddress (String.ofList s))) ∧
      (¬ (IsEmailAddress s ∧ EmailFits s) →
        emailAddress.read lexical = .error (.invalidLexical "email-address" lexical.toList)) := by
  rw [← isEmailAddress_eq_true_iff, ← hs]
  exact ⟨fun h => if_pos h, fun h => if_neg h⟩

/-- **Host names and email addresses.** A text is read as a host name if without the white space
around it it is one and keeps the limits in bytes, and is invalid otherwise; and so for email
addresses. In ASCII the limits in bytes follow from the grammar. -/
theorem read_mailboxes (hs : trim lexical.toList = s) :
    (IsHostname s ∧ HostnameFits s → hostname.read lexical = .ok (.hostname (String.ofList s))) ∧
    (¬ (IsHostname s ∧ HostnameFits s) →
      hostname.read lexical = .error (.invalidLexical "hostname" lexical.toList)) ∧
    (IsEmailAddress s ∧ EmailFits s →
      emailAddress.read lexical = .ok (.emailAddress (String.ofList s))) ∧
    (¬ (IsEmailAddress s ∧ EmailFits s) →
      emailAddress.read lexical = .error (.invalidLexical "email-address" lexical.toList)) ∧
    ((∀ c ∈ s, c.utf8Size = 1) →
      (IsHostname s → HostnameFits s) ∧ (IsEmailAddress s → EmailFits s)) :=
  ⟨(read_hostname hs).1, (read_hostname hs).2, (read_emailAddress hs).1, (read_emailAddress hs).2,
    fun hascii => ⟨fun h => h.fits hascii, fun h => h.fits hascii⟩⟩

/-- A host name with a letter outside ASCII and white space around it. -/
theorem read_mailboxes_of_umlaut :
    trim " bücher.example ".toList = "bücher.example".toList ∧
      IsHostname "bücher.example".toList ∧ HostnameFits "bücher.example".toList ∧
      hostname.read " bücher.example " = .ok (.hostname "bücher.example") := by
  have htrim : trim " bücher.example ".toList = "bücher.example".toList := by decide +kernel
  obtain ⟨hform, hfits⟩ := isHostname_eq_true_iff.mp
    (by decide +kernel : isHostname "bücher.example".toList = true)
  exact ⟨htrim, hform, hfits, (read_mailboxes htrim).1 ⟨hform, hfits⟩⟩

/-- Thirty-three letters that take two bytes each. -/
def longInBytes : List Char := List.replicate 33 'é'

theorem isHostname_longInBytes : IsHostname longInBytes where
  length_le := by decide
  labels := by
    refine ⟨[longInBytes], List.cons_ne_nil _ _, rfl, fun label hlabel => ?_⟩
    cases List.mem_singleton.mp hlabel
    refine ⟨by decide, by decide, fun i hi => .inl ?_⟩
    have hletter : longInBytes[i] = 'é' := List.getElem_replicate hi
    rw [hletter]
    decide +kernel

theorem isEmailAddress_longInBytes : IsEmailAddress (longInBytes ++ '@' :: "example".toList) := by
  refine ⟨longInBytes, "example".toList, rfl, ⟨[longInBytes], List.cons_ne_nil _ _, rfl, ?_⟩,
    by decide, (isHostname_eq_true_iff.mp (by decide +kernel)).1⟩
  intro atom hatom
  cases List.mem_singleton.mp hatom
  refine ⟨by decide, fun c hc => ?_⟩
  cases List.eq_of_mem_replicate hc
  decide +kernel

/-- The limits are kept in characters and still exceeded: a label of thirty-three characters and a
local part of thirty-three characters are refused. -/
theorem read_refuses_longInBytes :
    IsHostname longInBytes ∧
      hostname.read (String.ofList longInBytes)
        = .error (.invalidLexical "hostname" longInBytes) ∧
      IsEmailAddress (longInBytes ++ '@' :: "example".toList) ∧
      emailAddress.read (String.ofList (longInBytes ++ '@' :: "example".toList))
        = .error (.invalidLexical "email-address" (longInBytes ++ '@' :: "example".toList)) := by
  have hhost : trim (String.ofList longInBytes).toList = longInBytes := by decide +kernel
  have hemail : trim (String.ofList (longInBytes ++ '@' :: "example".toList)).toList
      = longInBytes ++ '@' :: "example".toList := by decide +kernel
  refine ⟨isHostname_longInBytes, ?_, isEmailAddress_longInBytes, ?_⟩
  · rw [(read_hostname hhost).2, String.toList_ofList]
    rintro ⟨-, hfits⟩
    exact absurd (hfits.label_size_le longInBytes (by decide +kernel)) (by decide +kernel)
  · rw [(read_emailAddress hemail).2, String.toList_ofList]
    rintro ⟨-, hfits⟩
    exact absurd (hfits longInBytes "example".toList (by decide +kernel)).1 (by decide +kernel)

end TreePath.Datatype
