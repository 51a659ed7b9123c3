/-
TreePath.Proofs.Net.AddressRoundTrip — IP addresses are read back from their written forms.

An octet or a group ends where a mark begins, so a written address is read field by field. For
version 6 there are two things to see: the reader tries a version 4 address in front of every group,
which fails as long as no point follows (`readStart_of_no_point`), and the `::` stands for exactly
the zeros that the writer left out (`longestZeros_spec`).
-/
import TreePath.Net.Address
import TreePath.Proofs.Text.Digits

namespace TreePath

open TreePath.Text

/-! ## Octets -/

namespace Text

/-- Only zero itself is written with a zero in front. -/
theorem head?_natDigits {n : Nat} (h : n ≠ 0) : (natDigits n).head? ≠ some '0' := by
  induction n using Nat.strongRecOn with
  | ind n ih =>
    rw [natDigits, Nat.toDigits_eq_if (by decide)]
    split
    · rename_i hlt
      have : ∀ k < 10, k ≠ 0 → Nat.digitChar k ≠ '0' := by decide
      simpa using this n hlt h
    · rename_i hge
      have hq := ih (n / 10) (by omega) (by omega)
      rw [natDigits] at hq
      rw [List.head?_append_of_ne_nil _ Nat.toDigits_ne_nil]
      exact hq

end Text

namespace IPv4

theorem readOctet_writeOctet (o : UInt8) {rest : List Char} (hr : NoDigit rest) :
    readOctet (writeOctet o ++ rest) = some (o, rest) := by
  have hlt := o.toNat_lt
  have hd : ∀ c ∈ natDigits o.toNat, isDigit c = true := fun _ => isDigit_of_mem_natDigits
  have hlen : (natDigits o.toNat).length ≤ 3 :=
    (length_natDigits_le (k := 3) (by decide)).mpr (by omega)
  have hlead : (decide (1 < (natDigits o.toNat).length) &&
      (natDigits o.toNat).head? == some '0') = false := by
    by_cases h0 : o.toNat = 0
    · rw [h0]; rfl
    · have := head?_natDigits h0
      simp [this]
  have htake : (writeOctet o ++ rest).takeWhile isDigit = natDigits o.toNat :=
    takeWhile_digits hd hr
  have hdrop : (writeOctet o ++ rest).dropWhile isDigit = rest := dropWhile_digits hd hr
  have hbig : ¬ 3 < (natDigits o.toNat).length := by omega
  have h255 : ¬ 255 < o.toNat := by omega
  simp only [readOctet, htake, hdrop, hlead, digitsValue_natDigits]
  simp [natDigits_ne_nil, hbig, h255]

theorem readPointOctet_writeOctet (o : UInt8) {rest : List Char} (hr : NoDigit rest) :
    readPointOctet ('.' :: (writeOctet o ++ rest)) = some (o, rest) :=
  readOctet_writeOctet o hr

theorem readStart_write (x : IPv4) : readStart x.write = some (x, []) := by
  obtain ⟨a, b, c, d⟩ := x
  have hpoint : ∀ rest, NoDigit ('.' :: rest) := fun _ => noDigit_cons (by decide)
  have htext : write ⟨a, b, c, d⟩ = writeOctet a ++ '.' :: (writeOctet b ++ '.' ::
      (writeOctet c ++ '.' :: (writeOctet d ++ []))) := by
    simp [write, octets, join]
  rw [htext, readStart, readOctet_writeOctet a (hpoint _)]
  simp only [Option.bind_eq_bind, Option.bind_some, readPointOctet_writeOctet _ (hpoint _),
    readPointOctet_writeOctet _ noDigit_nil]

/-- **A written version 4 address is read back.** -/
theorem read?_write (x : IPv4) : read? x.write = some x := by
  rw [read?, readStart_write]

theorem isGraphic_of_mem_write {x : IPv4} {c : Char} (h : c ∈ x.write) : IsGraphic c := by
  have hoctet : ∀ {o : UInt8}, c ∈ writeOctet o → IsGraphic c :=
    fun h => isGraphic_of_isDigit (isDigit_of_mem_natDigits h)
  simp only [write, octets, List.map, join, List.append_assoc, List.singleton_append,
    List.mem_append, List.mem_cons] at h
  rcases h with h | rfl | h | rfl | h | rfl | h
  · exact hoctet h
  · decide
  · exact hoctet h
  · decide
  · exact hoctet h
  · decide
  · exact hoctet h

/-! ## No address without a point -/

theorem eq_dropWhile_of_readOctet {s rest : List Char} {o : UInt8}
    (h : readOctet s = some (o, rest)) : rest = s.dropWhile isDigit := by
  simp only [readOctet] at h
  split at h
  · exact absurd h (by simp)
  · cases h; rfl

theorem readStart_of_no_point {s : List Char} (h : '.' ∉ s) : readStart s = none := by
  rw [readStart]
  cases ha : readOctet s with
  | none => rfl
  | some r =>
    obtain ⟨a, rest⟩ := r
    have hrest : '.' ∉ rest := by
      rw [eq_dropWhile_of_readOctet ha]
      exact fun hc => h (List.dropWhile_subset _ hc)
    have hb : readPointOctet rest = none := by
      rw [readPointOctet.eq_def]
      split
      · exact absurd List.mem_cons_self hrest
      · rfl
    simp [hb]

theorem readStart_of_noDigit {s : List Char} (h : NoDigit s) : readStart s = none := by
  have hnil : s.takeWhile isDigit = [] := by
    have htake : ([] ++ s).takeWhile isDigit = [] := takeWhile_digits (by simp) h
    exact htake
  have ha : readOctet s = none := by
    simp only [readOctet]
    rw [hnil]
    rfl
  simp [readStart, ha]

end IPv4

/-! ## Groups -/

namespace Text

theorem isHexDigit_digitChar : ∀ n < 16, isHexDigit n.digitChar = true := by decide

theorem hexDigitValue_digitChar : ∀ n < 16, hexDigitValue n.digitChar = n := by decide

theorem isGraphic_hexDigitChar : ∀ n < 16, IsGraphic n.digitChar := by decide

theorem hexDigitChar_ne_point : ∀ n < 16, n.digitChar ≠ '.' := by decide

/-- What holds of every hexadecimal digit holds of every character of a written number. -/
theorem forall_mem_toDigits_sixteen {p : Char → Prop} (hp : ∀ n < 16, p n.digitChar) (n : Nat) :
    ∀ c ∈ Nat.toDigits 16 n, p c := by
  induction n using Nat.strongRecOn with
  | ind n ih =>
    intro c hc
    rw [Nat.toDigits_eq_if (by decide)] at hc
    split at hc
    · rename_i hlt
      rw [List.mem_singleton.mp hc]
      exact hp n hlt
    · rename_i hge
      rcases List.mem_append.mp hc with hc | hc
      · exact ih (n / 16) (by omega) c hc
      · rw [List.mem_singleton.mp hc]
        exact hp (n % 16) (by omega)

theorem hexDigitsValue_toDigits (n : Nat) : hexDigitsValue (Nat.toDigits 16 n) = n := by
  induction n using Nat.strongRecOn with
  | ind n ih =>
    rw [Nat.toDigits_eq_if (by decide)]
    split
    · rename_i hlt
      simp [hexDigitsValue, hexDigitValue_digitChar n hlt]
    · rename_i hge
      have hq := ih (n / 16) (by omega)
      rw [hexDigitsValue] at hq
      rw [hexDigitsValue, List.foldl_append, hq]
      simp only [List.foldl_cons, List.foldl_nil, hexDigitValue_digitChar _
        (Nat.mod_lt n (by decide : 0 < 16))]
      omega

end Text

namespace IPv6

/-- The text does not go on with a hexadecimal digit. -/
def NoHexDigit (rest : List Char) : Prop := ∀ c ∈ rest.head?, isHexDigit c = false

theorem takeWhile_hexDigits {ds rest : List Char} (hd : ∀ c ∈ ds, isHexDigit c = true)
    (hr : NoHexDigit rest) : (ds ++ rest).takeWhile isHexDigit = ds := by
  rw [List.takeWhile_append_of_pos hd]
  cases rest with
  | nil => simp
  | cons c r => simp [hr c (by simp)]

theorem dropWhile_hexDigits {ds rest : List Char} (hd : ∀ c ∈ ds, isHexDigit c = true)
    (hr : NoHexDigit rest) : (ds ++ rest).dropWhile isHexDigit = rest := by
  rw [List.dropWhile_append_of_pos hd]
  cases rest with
  | nil => simp
  | cons c r => simp [hr c (by simp)]

theorem isHexDigit_of_mem_writeGroup {g : UInt16} : ∀ c ∈ writeGroup g, isHexDigit c = true :=
  forall_mem_toDigits_sixteen isHexDigit_digitChar g.toNat

theorem readGroup_writeGroup (g : UInt16) (rest : List Char) (hr : NoHexDigit rest) :
    readGroup (writeGroup g ++ rest) = some (g, rest) := by
  have hlt := g.toNat_lt
  have hlen : (writeGroup g).length ≤ 4 :=
    (Nat.length_toDigits_le_iff (by decide) (by decide)).mpr (by omega)
  have hne : writeGroup g ≠ [] := Nat.toDigits_ne_nil
  have hvalue : hexDigitsValue (writeGroup g) = g.toNat := hexDigitsValue_toDigits g.toNat
  simp only [readGroup]
  rw [takeWhile_hexDigits isHexDigit_of_mem_writeGroup hr,
    dropWhile_hexDigits isHexDigit_of_mem_writeGroup hr, hvalue]
  have hbig : ¬ 4 < (writeGroup g).length := by omega
  simp [hne, hbig]

theorem readGroup_of_noHexDigit {s : List Char} (h : NoHexDigit s) : readGroup s = none := by
  have hnil : s.takeWhile isHexDigit = [] := by
    have htake : ([] ++ s).takeWhile isHexDigit = [] := takeWhile_hexDigits (by simp) h
    exact htake
  simp only [readGroup]
  rw [hnil]
  rfl

/-! ## Runs of groups -/

/-- Groups that follow another one: a colon stands in front of each. -/
def writeFollowing (gs : List UInt16) : List Char := gs.flatMap fun g => ':' :: writeGroup g

theorem writeGroups_cons (g : UInt16) (gs : List UInt16) :
    writeGroups (g :: gs) = writeGroup g ++ writeFollowing gs := by
  induction gs generalizing g with
  | nil => simp [writeGroups, writeFollowing, join]
  | cons g' gs ih =>
    have h := ih g'
    rw [writeGroups] at h ⊢
    simp only [List.map_cons, join] at h ⊢
    rw [h]
    simp [writeFollowing]

theorem point_not_mem_writeGroups (gs : List UInt16) : '.' ∉ writeGroups gs := by
  have hgroup : ∀ g : UInt16, ∀ c ∈ writeGroup g, c ≠ '.' := fun g =>
    forall_mem_toDigits_sixteen hexDigitChar_ne_point g.toNat
  cases gs with
  | nil => exact List.not_mem_nil
  | cons g gs =>
    rw [writeGroups_cons]
    simp only [writeFollowing, List.mem_append, List.mem_flatMap, List.mem_cons]
    rintro (hc | ⟨g', -, hc | hc⟩)
    · exact hgroup g '.' hc rfl
    · exact absurd hc (by decide)
    · exact hgroup g' '.' hc rfl

/-- The groups end here: the text is over or goes on with two colons. -/
def Stops (rest : List Char) : Prop := rest = [] ∨ ∃ r, rest = ':' :: ':' :: r

theorem Stops.noHexDigit {rest : List Char} (h : Stops rest) : NoHexDigit rest := by
  rcases h with rfl | ⟨r, rfl⟩
  · simp [NoHexDigit]
  · intro c hc
    cases hc
    decide

theorem noHexDigit_following {gs : List UInt16} {rest : List Char} (h : NoHexDigit rest) :
    NoHexDigit (writeFollowing gs ++ rest) := by
  cases gs with
  | nil => exact h
  | cons g gs =>
    intro c hc
    cases hc
    decide

theorem readGroups_stops {room : Nat} {rest : List Char} (h : Stops rest) :
    readGroups room false rest = ([], false, rest) := by
  cases room with
  | zero => rfl
  | succ room =>
    rcases h with rfl | ⟨r, rfl⟩
    · rfl
    · have hcolon : NoHexDigit (':' :: r) := by
        intro c hc
        cases hc
        decide
      have hstart : IPv4.readStart (':' :: r) = none :=
        IPv4.readStart_of_noDigit (noDigit_cons (by decide))
      rw [readGroups]
      simp only [afterColon, Bool.false_eq_true, if_false, hstart,
        readGroup_of_noHexDigit hcolon, ite_self]

/-- One group is read, and the rest as groups that follow it. -/
theorem readGroups_group {room : Nat} {first : Bool} {s body rest : List Char} {g : UInt16}
    (hcolon : afterColon first s = some body) (hpoint : '.' ∉ body)
    (hgroup : readGroup body = some (g, rest)) :
    readGroups (room + 1) first s
      = (g :: (readGroups room false rest).1, (readGroups room false rest).2.1,
          (readGroups room false rest).2.2) := by
  rw [readGroups]
  simp only [hcolon, IPv4.readStart_of_no_point hpoint, ite_self, hgroup]

theorem readGroups_following {rest : List Char} (hrest : Stops rest) (hpoint : '.' ∉ rest) :
    ∀ (gs : List UInt16) (room : Nat), gs.length ≤ room →
      readGroups room false (writeFollowing gs ++ rest) = (gs, false, rest)
  | [], room, _ => readGroups_stops hrest
  | g :: gs, 0, h => absurd h (by simp)
  | g :: gs, room + 1, h => by
      have hnone : '.' ∉ writeGroup g ++ (writeFollowing gs ++ rest) := by
        rw [← List.append_assoc, ← writeGroups_cons]
        exact fun hc => (List.mem_append.mp hc).elim (point_not_mem_writeGroups _) hpoint
      have htext : writeFollowing (g :: gs) ++ rest
          = ':' :: (writeGroup g ++ (writeFollowing gs ++ rest)) := by
        simp [writeFollowing]
      rw [htext, readGroups_group (by rfl) hnone
          (readGroup_writeGroup g _ (noHexDigit_following hrest.noHexDigit)),
        readGroups_following hrest hpoint gs room (by simpa using h)]

/-- A written run of groups is read up to the place where it stops. -/
theorem readGroups_writeGroups (gs : List UInt16) (room : Nat) (rest : List Char)
    (hlen : gs.length ≤ room) (hrest : Stops rest) (hpoint : '.' ∉ rest) :
    readGroups room true (writeGroups gs ++ rest) = (gs, false, rest) := by
  cases gs with
  | nil =>
    cases room with
    | zero => rfl
    | succ room =>
      have hd : NoDigit rest := by
        rcases hrest with rfl | ⟨r, rfl⟩
        · exact noDigit_nil
        · exact noDigit_cons (by decide)
      have hempty : writeGroups [] ++ rest = rest := rfl
      rw [hempty, readGroups]
      simp only [afterColon, if_true, IPv4.readStart_of_noDigit hd,
        readGroup_of_noHexDigit hrest.noHexDigit, ite_self]
  | cons g gs =>
    cases room with
    | zero => exact absurd hlen (by simp)
    | succ room =>
      -- Read as if a colon stood in front, the text is a run of groups that follow another one.
      have hfollow := readGroups_following hrest hpoint (g :: gs) (room + 1) hlen
      have htext : writeFollowing (g :: gs) ++ rest = ':' :: (writeGroups (g :: gs) ++ rest) := by
        rw [writeGroups_cons]
        simp [writeFollowing]
      rw [htext, readGroups] at hfollow
      rw [readGroups]
      simp only [afterColon, Bool.false_eq_true, if_false, if_true] at hfollow ⊢
      have hgroup := readGroup_writeGroup g (writeFollowing gs ++ rest)
        (noHexDigit_following hrest.noHexDigit)
      rw [writeGroups_cons, List.append_assoc] at hfollow ⊢
      rw [hgroup] at hfollow ⊢
      exact hfollow

/-! ## The zeros left out -/

theorem leadingZeros_spec (gs : List UInt16) :
    leadingZeros gs ≤ gs.length ∧
      gs.take (leadingZeros gs) = List.replicate (leadingZeros gs) 0 := by
  have hzero : ∀ g ∈ gs.takeWhile (· == 0), g = 0 := by
    intro g hg
    simpa using List.mem_takeWhile_imp hg
  have htake : gs.take (leadingZeros gs) = gs.takeWhile (· == 0) :=
    (List.prefix_iff_eq_take.mp (List.takeWhile_prefix _)).symm
  refine ⟨(List.takeWhile_prefix _).length_le, ?_⟩
  rw [htake]
  exact List.eq_replicate_iff.mpr ⟨rfl, hzero⟩

/-- The run that was found lies in the list and consists of zeros. -/
theorem longestZeros_spec : ∀ (gs : List UInt16) (i : Nat),
    ∃ k, (longestZeros i gs).1 = i + k ∧ k + (longestZeros i gs).2 ≤ gs.length ∧
      (gs.drop k).take (longestZeros i gs).2 = List.replicate (longestZeros i gs).2 0
  | [], i => ⟨0, rfl, Nat.le_refl 0, rfl⟩
  | g :: gs, i => by
      obtain ⟨k, hstart, hlen, hzero⟩ := longestZeros_spec gs (i + 1)
      have hhere := leadingZeros_spec (g :: gs)
      simp only [longestZeros]
      split
      · exact ⟨0, rfl, by simpa using hhere.1, by simpa using hhere.2⟩
      · refine ⟨k + 1, by omega, ?_, by simpa using hzero⟩
        simp only [List.length_cons]
        omega

/-! ## Reading what was written -/

theorem ofGroups?_self (x : IPv6) {groups : List UInt16} (h : groups = x.groups) :
    ofGroups? groups = some x := by
  subst h
  rw [ofGroups?, dif_pos x.length_groups]

/-- Two octets make up a group. -/
theorem octets_group (g : UInt16) :
    (g / 256).toUInt8.toUInt16 * 256 + (g % 256).toUInt8.toUInt16 = g := by
  apply UInt16.toNat_inj.mp
  have := g.toNat_lt
  simp
  omega

theorem read?_mapped (x : IPv6) {y : IPv4} (h : x.mapped? = some y) :
    read? ("::ffff:".toList ++ y.write) = some x := by
  have hgroups : x.groups = [0, 0, 0, 0, 0, 0xFFFF, y.a.toUInt16 * 256 + y.b.toUInt16,
      y.c.toUInt16 * 256 + y.d.toUInt16] := by
    rw [mapped?.eq_def] at h
    split at h
    · rename_i g k heq
      cases h
      rw [heq, octets_group, octets_group]
    · cases h
  have hffff : "ffff".toList = writeGroup 0xFFFF := by decide
  have hgroup := readGroup_writeGroup 0xFFFF (':' :: y.write) (by
    intro c hc
    cases hc
    decide)
  rw [← hffff] at hgroup
  have hno : IPv4.readStart ("ffff".toList ++ ':' :: y.write) = none :=
    IPv4.readStart_of_noDigit (noDigit_cons (by decide))
  have hback : readGroups 7 true ("ffff".toList ++ ':' :: y.write)
      = ([0xFFFF, y.a.toUInt16 * 256 + y.b.toUInt16, y.c.toUInt16 * 256 + y.d.toUInt16],
        true, []) := by
    rw [readGroups]
    simp only [afterColon, if_true, hno, ite_self, hgroup]
    rw [readGroups]
    simp [afterColon, IPv4.readStart_write]
  have hfront : readGroups 8 true (':' :: ':' :: ("ffff".toList ++ ':' :: y.write))
      = ([], false, ':' :: ':' :: ("ffff".toList ++ ':' :: y.write)) := by
    have hstart : IPv4.readStart (':' :: ':' :: ("ffff".toList ++ ':' :: y.write)) = none :=
      IPv4.readStart_of_noDigit (noDigit_cons (by decide))
    have hnone : readGroup (':' :: ':' :: ("ffff".toList ++ ':' :: y.write)) = none :=
      readGroup_of_noHexDigit (by intro c hc; cases hc; decide)
    rw [readGroups]
    simp only [afterColon, if_true, hstart, hnone, ite_self]
  have htext : "::ffff:".toList ++ y.write = ':' :: ':' :: ("ffff".toList ++ ':' :: y.write) := rfl
  rw [htext, read?, hfront]
  simp only [List.length_nil, Nat.sub_zero, hback, List.isEmpty_nil, if_true]
  exact ofGroups?_self x (by rw [hgroups])

theorem read?_writeGroups (x : IPv6) : read? (writeGroups x.groups) = some x := by
  have hread := readGroups_writeGroups x.groups 8 [] (by rw [x.length_groups]) (.inl rfl)
    List.not_mem_nil
  rw [List.append_nil] at hread
  rw [read?, hread]
  simp only [x.length_groups, if_true, List.isEmpty_nil]
  exact ofGroups?_self x rfl

/-- The groups around a run of zeros are read, and the run is put back between them. -/
theorem read?_compressed (x : IPv6) {start count : Nat} (hcount : 0 < count)
    (hlen : start + count ≤ 8)
    (hzero : (x.groups.drop start).take count = List.replicate count 0) :
    read? (writeGroups (x.groups.take start) ++ "::".toList ++
      writeGroups (x.groups.drop (start + count))) = some x := by
  have hx := x.length_groups
  have hfrontLen : (x.groups.take start).length = start := by
    rw [List.length_take, hx]; omega
  have hbackLen : (x.groups.drop (start + count)).length = 8 - (start + count) := by
    rw [List.length_drop, hx]
  have hgroups : x.groups.take start ++ List.replicate count 0 ++ x.groups.drop (start + count)
      = x.groups := by
    rw [← hzero, ← List.drop_drop, List.append_assoc, List.take_append_drop,
      List.take_append_drop]
  have hfront := readGroups_writeGroups (x.groups.take start) 8
    (':' :: ':' :: writeGroups (x.groups.drop (start + count))) (by omega)
    (.inr ⟨_, rfl⟩) (by
      have := point_not_mem_writeGroups (x.groups.drop (start + count))
      simp [this])
  have hback := readGroups_writeGroups (x.groups.drop (start + count)) (7 - start) [] (by omega)
    (.inl rfl) List.not_mem_nil
  rw [List.append_nil] at hback
  have htext : writeGroups (x.groups.take start) ++ "::".toList ++
        writeGroups (x.groups.drop (start + count))
      = writeGroups (x.groups.take start) ++
        ':' :: ':' :: writeGroups (x.groups.drop (start + count)) := by
    simp
  have hnot8 : ¬ start = 8 := by omega
  have hmissing : 8 - start - (8 - (start + count)) = count := by omega
  rw [htext, read?, hfront]
  simp only [hfrontLen, hnot8, if_false, Bool.false_eq_true, hback, List.isEmpty_nil, if_true,
    hbackLen, hmissing]
  exact ofGroups?_self x hgroups

/-- **A written version 6 address is read back.** -/
theorem read?_write (x : IPv6) : read? x.write = some x := by
  rw [write]
  cases hm : x.mapped? with
  | some y => exact read?_mapped x hm
  | none =>
    obtain ⟨k, hstart, hlen, hzero⟩ := longestZeros_spec x.groups 0
    rw [x.length_groups] at hlen
    simp only
    split
    · rename_i hcount
      rw [Nat.zero_add] at hstart
      rw [hstart]
      exact read?_compressed x (by omega) hlen hzero
    · exact read?_writeGroups x

theorem isGraphic_of_mem_writeGroups {gs : List UInt16} {c : Char} (h : c ∈ writeGroups gs) :
    IsGraphic c := by
  have hgroup : ∀ {g : UInt16}, c ∈ writeGroup g → IsGraphic c := fun {g} hc =>
    forall_mem_toDigits_sixteen isGraphic_hexDigitChar g.toNat c hc
  cases gs with
  | nil => exact absurd h List.not_mem_nil
  | cons g gs =>
    rw [writeGroups_cons] at h
    simp only [writeFollowing, List.mem_append, List.mem_flatMap, List.mem_cons] at h
    rcases h with h | ⟨g', -, rfl | h⟩
    · exact hgroup h
    · decide
    · exact hgroup h

theorem isGraphic_of_mem_write {x : IPv6} {c : Char} (h : c ∈ x.write) : IsGraphic c := by
  rw [write] at h
  split at h
  · rcases List.mem_append.mp h with h | h
    · exact isGraphic_of_all (s := "::ffff:".toList) (by decide) h
    · exact IPv4.isGraphic_of_mem_write h
  · simp only at h
    split at h
    · rcases List.mem_append.mp h with h | h
      · rcases List.mem_append.mp h with h | h
        · exact isGraphic_of_mem_writeGroups h
        · exact isGraphic_of_all (s := "::".toList) (by decide) h
      · exact isGraphic_of_mem_writeGroups h
    · exact isGraphic_of_mem_writeGroups h

end IPv6

end TreePath
