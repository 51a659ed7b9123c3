/-
TreePath.Proofs.Atomic.Preorder — values of one primitive type are ordered, mixed addresses aside.

Values of a primitive type lie on one scale: numbers, instants, texts and so on
(`exists_scale`). Addresses lie on two: two addresses of one kind are compared as numbers, an
address and another text as they are written. Where the two scales agree, or only one of them is
used, comparing is a preorder (`compare_preorder`). Where two addresses stand the other way round as
numbers than as they are written, there is always a text that breaks the order
(`not_transitive_of_misordered`).
-/
import Mathlib
import TreePath.Atomic.Order

namespace TreePath

/-! ## Single scales -/

instance : Std.TransCmp Text.compare :=
  inferInstanceAs (Std.TransCmp (List.compareLex fun c d : Char => Ord.compare c d))

instance : Std.TransCmp IPv4.compare := inferInstanceAs (Std.TransCmp (compareOn IPv4.octets))

instance : Std.TransCmp IPv6.compare := inferInstanceAs (Std.TransCmp (compareOn IPv6.groups))

instance : Std.TransCmp Instant.compare :=
  inferInstanceAs (Std.TransCmp (compareLex (compareOn Instant.seconds)
    (compareOn Instant.nanoseconds)))

theorem Decimal.compare_eq (a b : Decimal) : a.compare b = compareOn Decimal.toRat a b := by
  rw [compare, compareOn, LinearOrder.compare_eq_compareOfLessAndEq, compareOfLessAndEq]
  by_cases hlt : a.toRat < b.toRat
  · rw [if_pos hlt, if_pos hlt]
  · rw [if_neg hlt, if_neg hlt]
    by_cases heq : a.toRat = b.toRat
    · rw [if_neg (by rw [heq]; exact lt_irrefl _), if_pos heq]
    · rw [if_pos (lt_of_le_of_ne (not_lt.mp hlt) (Ne.symm heq)), if_neg heq]

instance : Std.TransCmp Decimal.compare := by
  rw [show Decimal.compare = compareOn Decimal.toRat from funext₂ Decimal.compare_eq]
  infer_instance

namespace AtomicValue

variable {a b c : AtomicValue}

/-- Both are addresses of one kind. -/
def AddressPair (a b : AtomicValue) : Prop :=
  a.type = b.type ∧ (a.type = .ipV4Address ∨ a.type = .ipV6Address)

theorem AddressPair.symm (h : AddressPair a b) : AddressPair b a := ⟨h.1.symm, h.1 ▸ h.2⟩

theorem not_addressPair_string (t : String) : ¬ AddressPair (string t) a := by
  rintro ⟨-, h | h⟩ <;> cases h

/-- Values that are compared as they are written, unless they are two addresses of one kind. -/
def IsText : AtomicValue → Prop
  | string _ | token _ | emailAddress _ | hostname _ | uuid _ | ipV4Address _ | ipV6Address _
  | uri _ | uriReference _ | markupLine _ | markupMultiline _ => True
  | _ => False

theorem AddressPair.primitive (h : AddressPair a b) : a.type.primitive = .string := by
  rcases h.2 with h | h <;> rw [h] <;> rfl

theorem AddressPair.isText (h : AddressPair a b) : a.IsText := by
  rcases h.2 with h | h <;> cases a <;> trivial

theorem order_of_numbers {x y : Decimal} (ha : a.decimal? = some x) (hb : b.decimal? = some y) :
    order a b = x.compare y := by
  cases a <;> cases ha <;> cases b <;> cases hb <;> rfl

theorem order_of_instants {x y : Instant} (ha : a.instant? = some x) (hb : b.instant? = some y) :
    order a b = x.compare y := by
  cases a <;> cases ha <;> cases b <;> cases hb <;> rfl

theorem order_of_texts (ha : a.IsText) (h : ¬ AddressPair a b) :
    order a b = Text.compare a.chars b.chars := by
  have hnumber : a.decimal? = none := by cases a <;> first | rfl | cases ha
  have hinstant : a.instant? = none := by cases a <;> first | rfl | cases ha
  rw [order.eq_def]
  split
  · exact absurd ⟨rfl, .inl rfl⟩ h
  · exact absurd ⟨rfl, .inr rfl⟩ h
  · cases ha
  · cases ha
  · cases ha
  · cases ha
  · rw [hnumber, hinstant]

/-! ## Scales -/

/-- Something that values are compared by. -/
structure Scale where
  Carrier : Type
  compare : Carrier → Carrier → Ordering
  trans : Std.TransCmp compare
  measure : AtomicValue → Carrier

/-- The two values are compared on the scale, whichever comes first. -/
structure Scale.Orders (s : Scale) (a b : AtomicValue) : Prop where
  order_eq : order a b = s.compare (s.measure a) (s.measure b)
  order_eq_rev : order b a = s.compare (s.measure b) (s.measure a)

namespace Scale

variable {s : Scale}

theorem Orders.swap (h : s.Orders a b) : order b a = (order a b).swap := by
  have := s.trans
  rw [h.order_eq, h.order_eq_rev]
  exact Std.OrientedCmp.eq_swap

theorem Orders.self (h : s.Orders a a) : order a a = .eq := by
  have := s.trans
  rw [h.order_eq]
  exact Std.ReflCmp.compare_self

theorem Orders.isLE_trans (hab : s.Orders a b) (hbc : s.Orders b c) (hac : s.Orders a c)
    (h : (order a b).isLE) (h' : (order b c).isLE) : (order a c).isLE := by
  have := s.trans
  rw [hab.order_eq] at h
  rw [hbc.order_eq] at h'
  rw [hac.order_eq]
  exact Std.TransCmp.isLE_trans h h'

/-- Values lie on one scale if all of them have what they are compared by. -/
theorem exists_of_measure {β : Type} {P : AtomicValue → Prop} (cmp : β → β → Ordering)
    [Std.TransCmp cmp] (Has : AtomicValue → β → Prop) (hmeasure : ∀ v, P v → ∃ x, Has v x)
    (horder : ∀ a b x y, Has a x → Has b y → order a b = cmp x y) :
    ∃ s : Scale, ∀ a b, P a → P b → s.Orders a b := by
  by_cases hβ : Nonempty β
  · refine ⟨⟨β, cmp, inferInstance, fun v => Classical.epsilon (Has v)⟩, fun a b ha hb => ?_⟩
    have hxa := Classical.epsilon_spec (hmeasure a ha)
    have hxb := Classical.epsilon_spec (hmeasure b hb)
    exact ⟨horder a b _ _ hxa hxb, horder b a _ _ hxb hxa⟩
  · refine ⟨⟨List Char, Text.compare, inferInstance, chars⟩, fun a b ha hb => ?_⟩
    obtain ⟨x, -⟩ := hmeasure a ha
    exact absurd ⟨x⟩ hβ

end Scale

/-- Addresses of one kind lie on one scale. -/
theorem exists_scale_of_addresses {t : Datatype} (ht : t = .ipV4Address ∨ t = .ipV6Address) :
    ∃ s : Scale, ∀ a b, a.type = t → b.type = t → s.Orders a b := by
  rcases ht with rfl | rfl
  · refine Scale.exists_of_measure IPv4.compare (fun v x => v = ipV4Address x) (fun v hv => ?_)
      (by rintro _ _ x y rfl rfl; rfl)
    cases v <;> first | exact ⟨_, rfl⟩ | cases hv
  · refine Scale.exists_of_measure IPv6.compare (fun v x => v = ipV6Address x) (fun v hv => ?_)
      (by rintro _ _ x y rfl rfl; rfl)
    cases v <;> first | exact ⟨_, rfl⟩ | cases hv

/-- Two addresses of one kind that are ordered otherwise as numbers than as they are written. -/
def Misordered (a b : AtomicValue) : Prop :=
  AddressPair a b ∧ order a b ≠ Text.compare a.chars b.chars

/-- Texts lie on one scale, misordered addresses aside. -/
theorem exists_scale_of_texts {P : AtomicValue → Prop} (h : ∀ v, P v → v.IsText) :
    ∃ s : Scale, ∀ a b, P a → P b → ¬ Misordered a b → s.Orders a b := by
  refine ⟨⟨List Char, Text.compare, inferInstance, chars⟩, fun a b ha hb hmis => ?_⟩
  by_cases hpair : AddressPair a b
  · have heq : order a b = Text.compare a.chars b.chars := by
      by_contra hne
      exact hmis ⟨hpair, hne⟩
    obtain ⟨s, hs⟩ := exists_scale_of_addresses hpair.2
    refine ⟨heq, ?_⟩
    rw [(hs a b rfl hpair.1.symm).swap, heq]
    exact Std.OrientedCmp.eq_swap.symm
  · exact ⟨order_of_texts (h a ha) hpair, order_of_texts (h b hb) (mt AddressPair.symm hpair)⟩

/-- Values of a primitive type lie on one scale, misordered addresses aside. -/
theorem exists_scale (t : Datatype) : ∃ s : Scale, ∀ a b, a.type.primitive = t →
    b.type.primitive = t → ¬ Misordered a b → s.Orders a b := by
  have hmeasured : (∃ s : Scale, ∀ a b, a.type.primitive = t → b.type.primitive = t →
      s.Orders a b) → ∃ s : Scale, ∀ a b, a.type.primitive = t → b.type.primitive = t →
        ¬ Misordered a b → s.Orders a b :=
    fun ⟨s, hs⟩ => ⟨s, fun a b ha hb _ => hs a b ha hb⟩
  cases t with
  | decimal =>
    refine hmeasured (Scale.exists_of_measure Decimal.compare (fun v x => v.decimal? = some x)
      (fun v hv => ?_) fun _ _ _ _ => order_of_numbers)
    cases v <;> first | exact ⟨_, rfl⟩ | cases hv
  | date | dateTime =>
    refine hmeasured (Scale.exists_of_measure Instant.compare (fun v x => v.instant? = some x)
      (fun v hv => ?_) fun _ _ _ _ => order_of_instants)
    cases v <;> first | exact ⟨_, rfl⟩ | cases hv
  | boolean =>
    refine hmeasured (Scale.exists_of_measure (compareOn Bool.toNat) (fun v x => v = boolean x)
      (fun v hv => ?_) (by rintro _ _ x y rfl rfl; rfl))
    cases v <;> first | exact ⟨_, rfl⟩ | cases hv
  | yearMonthDuration =>
    refine hmeasured (Scale.exists_of_measure (compareOn Int32.toInt)
      (fun v x => v = yearMonthDuration x) (fun v hv => ?_) (by rintro _ _ x y rfl rfl; rfl))
    cases v <;> first | exact ⟨_, rfl⟩ | cases hv
  | dayTimeDuration =>
    refine hmeasured (Scale.exists_of_measure (compareOn DayTimeDuration.nanoseconds)
      (fun v x => v = dayTimeDuration x) (fun v hv => ?_) (by rintro _ _ x y rfl rfl; rfl))
    cases v <;> first | exact ⟨_, rfl⟩ | cases hv
  | base64 =>
    refine hmeasured (Scale.exists_of_measure
      (List.compareLex fun i j : UInt8 => Ord.compare i j)
      (fun v x => v = base64 x) (fun v hv => ?_) (by rintro _ _ x y rfl rfl; rfl))
    cases v <;> first | exact ⟨_, rfl⟩ | cases hv
  | _ =>
    refine exists_scale_of_texts fun v hv => ?_
    cases v <;> trivial

/-- Any two values of one primitive type lie on one scale. -/
theorem exists_scale_of_two (h : a.type.primitive = b.type.primitive) :
    ∃ s : Scale, s.Orders a b := by
  by_cases hpair : AddressPair a b
  · obtain ⟨s, hs⟩ := exists_scale_of_addresses hpair.2
    exact ⟨s, hs a b rfl hpair.1.symm⟩
  · obtain ⟨s, hs⟩ := exists_scale b.type.primitive
    exact ⟨s, hs a b h rfl fun hmis => hpair hmis.1⟩

/-- Two of the values are misordered addresses of one kind, and the third is of another type. -/
def MixesAddresses (a b c : AtomicValue) : Prop :=
  Misordered a b ∧ c.type ≠ a.type ∨ Misordered b c ∧ a.type ≠ b.type ∨
    Misordered a c ∧ b.type ≠ a.type

/-- Three values of one primitive type lie on one scale, mixed addresses aside. -/
theorem exists_scale_of_three (hab : a.type.primitive = b.type.primitive)
    (hbc : b.type.primitive = c.type.primitive) (h : ¬ MixesAddresses a b c) :
    ∃ s : Scale, s.Orders a b ∧ s.Orders b c ∧ s.Orders a c := by
  by_cases haddr : AddressPair a b ∧ AddressPair b c
  · obtain ⟨⟨htype, hkind⟩, ⟨htype', -⟩⟩ := haddr
    obtain ⟨s, hs⟩ := exists_scale_of_addresses hkind
    have hc := (htype.trans htype').symm
    exact ⟨s, hs a b rfl htype.symm, hs b c htype.symm hc, hs a c rfl hc⟩
  · -- misordered addresses would make all three addresses of one kind
    simp only [MixesAddresses, not_or, not_and_not_right] at h
    obtain ⟨habc, hbca, hacb⟩ := h
    have hab' : ¬ Misordered a b := fun hm =>
      haddr ⟨hm.1, hm.1.1.symm.trans (habc hm).symm, hm.1.1 ▸ hm.1.2⟩
    have hbc' : ¬ Misordered b c := fun hm => haddr ⟨⟨hbca hm, hbca hm ▸ hm.1.2⟩, hm.1⟩
    have hac' : ¬ Misordered a c := fun hm =>
      haddr ⟨⟨(hacb hm).symm, hm.1.2⟩, (hacb hm).trans hm.1.1, hacb hm ▸ hm.1.2⟩
    obtain ⟨s, hs⟩ := exists_scale b.type.primitive
    exact ⟨s, hs a b hab rfl hab', hs b c rfl hbc.symm hbc', hs a c hab hbc.symm hac'⟩

/-! ## Comparing -/

/-- The first value comes before the second, or neither before the other. -/
def AtMost (a b : AtomicValue) : Prop := ∃ o, a.compare b = .ok o ∧ o.isLE

theorem compare_eq_ok (h : a.type.primitive = b.type.primitive) :
    a.compare b = .ok (order a b) := if_pos h

theorem atMost_iff (h : a.type.primitive = b.type.primitive) :
    AtMost a b ↔ (order a b).isLE := by
  rw [AtMost, compare_eq_ok h]
  constructor
  · rintro ⟨o, ho, hle⟩
    cases ho
    exact hle
  · exact fun hle => ⟨_, rfl, hle⟩

/-- **Comparing is a preorder on a primitive type, mixed addresses aside.** Two values of one
primitive type can be compared, the other way round with the opposite result, and no value differs
from itself. What comes before a value comes before all that the value comes before, unless two of
the three are addresses of one kind that are ordered otherwise as numbers than as they are written
and the third is of another type. -/
theorem compare_preorder (hab : a.type.primitive = b.type.primitive)
    (hbc : b.type.primitive = c.type.primitive) :
    (∃ o, a.compare b = .ok o ∧ b.compare a = .ok o.swap) ∧ a.compare a = .ok .eq ∧
      (¬ MixesAddresses a b c → AtMost a b → AtMost b c → AtMost a c) := by
  refine ⟨⟨order a b, compare_eq_ok hab, ?_⟩, ?_, fun hmixed => ?_⟩
  · obtain ⟨s, hs⟩ := exists_scale_of_two hab
    rw [compare_eq_ok hab.symm, hs.swap]
  · obtain ⟨s, hs⟩ := exists_scale_of_two (a := a) rfl
    rw [compare_eq_ok rfl, hs.self]
  · obtain ⟨s, hsab, hsbc, hsac⟩ := exists_scale_of_three hab hbc hmixed
    rw [atMost_iff hab, atMost_iff hbc, atMost_iff (hab.trans hbc)]
    exact hsab.isLE_trans hsbc hsac

/-- Two addresses of different kinds and another text are all compared as they are written. -/
theorem compare_preorder_of_three_kinds :
    AtMost (ipV4Address ⟨10, 0, 0, 1⟩) (string "5") ∧
      AtMost (string "5") (ipV6Address ⟨[10, 0, 0, 0, 0, 0, 0, 1], rfl⟩) ∧
      AtMost (ipV4Address ⟨10, 0, 0, 1⟩) (ipV6Address ⟨[10, 0, 0, 0, 0, 0, 0, 1], rfl⟩) := by
  have hfirst : AtMost (ipV4Address ⟨10, 0, 0, 1⟩) (string "5") := ⟨.lt, by cbv, rfl⟩
  have hsecond : AtMost (string "5") (ipV6Address ⟨[10, 0, 0, 0, 0, 0, 0, 1], rfl⟩) :=
    ⟨.lt, by cbv, rfl⟩
  refine ⟨hfirst, hsecond, (compare_preorder (a := ipV4Address ⟨10, 0, 0, 1⟩) (b := string "5")
    (c := ipV6Address ⟨[10, 0, 0, 0, 0, 0, 0, 1], rfl⟩) rfl rfl).2.2 ?_ hfirst hsecond⟩
  rintro (⟨⟨⟨h, -⟩, -⟩, -⟩ | ⟨⟨⟨h, -⟩, -⟩, -⟩ | ⟨⟨⟨h, -⟩, -⟩, -⟩) <;> cases h

/-- Misordered addresses and a text are in no order: the later address comes before the text that
it is written as, which comes before the earlier one. -/
theorem not_transitive_of_misordered (h : AddressPair a b) (hlt : order a b = .lt)
    (htext : Text.compare a.chars b.chars ≠ .lt) :
    AtMost b (string b.text) ∧ AtMost (string b.text) a ∧ ¬ AtMost b a := by
  have hab : b.type.primitive = a.type.primitive := by rw [h.1]
  have htb : (string b.text).type.primitive = b.type.primitive := h.symm.primitive.symm
  refine ⟨?_, ?_, ?_⟩
  · rw [atMost_iff htb.symm,
      order_of_texts h.symm.isText (mt AddressPair.symm (not_addressPair_string _))]
    show (Text.compare b.chars b.chars).isLE
    rw [show Text.compare b.chars b.chars = .eq from Std.ReflCmp.compare_self]
    rfl
  · rw [atMost_iff (htb.trans hab),
      order_of_texts (a := string b.text) trivial (not_addressPair_string _)]
    show (Text.compare b.chars a.chars).isLE
    rw [show Text.compare b.chars a.chars = (Text.compare a.chars b.chars).swap from
      Std.OrientedCmp.eq_swap, Ordering.isLE_swap]
    cases ho : Text.compare a.chars b.chars with
    | lt => exact absurd ho htext
    | eq => rfl
    | gt => rfl
  · obtain ⟨s, hs⟩ := exists_scale_of_two hab.symm
    rw [atMost_iff hab, hs.swap, hlt]
    decide

/-- As they are written, the address 10.0.0.1 comes before 5 and that before 9.0.0.1, but not as
numbers; nor does 10::1 come before 9::1. -/
theorem compare_addresses_in_a_circle :
    ((ipV4Address ⟨10, 0, 0, 1⟩).compare (string "5") = .ok .lt ∧
      (string "5").compare (ipV4Address ⟨9, 0, 0, 1⟩) = .ok .lt ∧
      (ipV4Address ⟨10, 0, 0, 1⟩).compare (ipV4Address ⟨9, 0, 0, 1⟩) = .ok .gt) ∧
    (ipV6Address ⟨[16, 0, 0, 0, 0, 0, 0, 1], rfl⟩).compare (string "5") = .ok .lt ∧
      (string "5").compare (ipV6Address ⟨[9, 0, 0, 0, 0, 0, 0, 1], rfl⟩) = .ok .lt ∧
      (ipV6Address ⟨[16, 0, 0, 0, 0, 0, 0, 1], rfl⟩).compare
        (ipV6Address ⟨[9, 0, 0, 0, 0, 0, 0, 1], rfl⟩) = .ok .gt := by
  refine ⟨⟨?_, ?_, ?_⟩, ?_, ?_, ?_⟩ <;> cbv

end AtomicValue

end TreePath
