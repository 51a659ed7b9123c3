/-
TreePath.Proofs.Atomic.Alike — values that compare as equal.

On one scale comparing as equal is an equivalence, but addresses lie on two: two of one kind are
compared as numbers, an address and another text as they are written. For equality the two scales
come to the same, since an address can be read back from what is written
(`order_eq_eq_iff_of_texts`). So, unlike the order, equality is an equivalence on all values
(`equivalence_alike`).
-/
import TreePath.Proofs.Atomic.Preorder
import TreePath.Proofs.Net.AddressRoundTrip

namespace TreePath

/-! ## Written forms -/

instance : Std.LawfulEqCmp Text.compare :=
  inferInstanceAs (Std.LawfulEqCmp (List.compareLex fun c d : Char => Ord.compare c d))

theorem IPv4.compare_eq_eq_iff {x y : IPv4} : x.compare y = .eq ↔ x.write = y.write := by
  have hoctets : x.compare y = .eq ↔ x.octets = y.octets := by
    rw [IPv4.compare]
    exact Std.LawfulEqCmp.compare_eq_iff_eq
  constructor
  · intro h
    rw [IPv4.write, IPv4.write, hoctets.mp h]
  · intro h
    obtain rfl : x = y := Option.some.inj (by rw [← IPv4.read?_write, h, IPv4.read?_write])
    exact hoctets.mpr rfl

theorem IPv6.compare_eq_eq_iff {x y : IPv6} : x.compare y = .eq ↔ x.write = y.write := by
  have hgroups : x.compare y = .eq ↔ x.groups = y.groups := by
    rw [IPv6.compare]
    exact Std.LawfulEqCmp.compare_eq_iff_eq
  constructor
  · intro h
    obtain ⟨groups, hlength⟩ := x
    obtain ⟨groups', hlength'⟩ := y
    obtain rfl : groups = groups' := hgroups.mp h
    rfl
  · intro h
    obtain rfl : x = y := Option.some.inj (by rw [← IPv6.read?_write, h, IPv6.read?_write])
    exact hgroups.mpr rfl

namespace AtomicValue

variable {a b c : AtomicValue}

/-- The two values can be compared, and they compare as equal. -/
def Alike (a b : AtomicValue) : Prop := a.compare b = .ok .eq

theorem alike_iff : Alike a b ↔ a.type.primitive = b.type.primitive ∧ order a b = .eq := by
  rw [Alike, compare]
  split
  · rename_i h
    simp [h]
  · rename_i h
    simp [h]

instance (a b : AtomicValue) : Decidable (Alike a b) := decidable_of_iff' _ alike_iff

/-! ## Texts -/

/-- Two addresses of one kind are equal as numbers exactly if they are written alike. -/
theorem AddressPair.order_eq_eq_iff (h : AddressPair a b) :
    order a b = .eq ↔ a.chars = b.chars := by
  obtain ⟨htype, hkind | hkind⟩ := h
  all_goals
    rw [hkind] at htype
    cases a <;> cases hkind
    cases b <;> cases htype
  · rename_i x y
    have hchars : ∀ z : IPv4, (ipV4Address z).chars = z.write := fun _ => String.toList_ofList
    rw [hchars, hchars]
    exact IPv4.compare_eq_eq_iff
  · rename_i x y
    have hchars : ∀ z : IPv6, (ipV6Address z).chars = z.write := fun _ => String.toList_ofList
    rw [hchars, hchars]
    exact IPv6.compare_eq_eq_iff

/-- **Texts are equal exactly if they are written alike**, addresses included. -/
theorem order_eq_eq_iff_of_texts (ha : a.IsText) : order a b = .eq ↔ a.chars = b.chars := by
  by_cases hpair : AddressPair a b
  · exact hpair.order_eq_eq_iff
  · rw [order_of_texts ha hpair]
    exact Std.LawfulEqCmp.compare_eq_iff_eq

/-- Whether values are texts depends on their primitive type. -/
theorem isText_iff : a.IsText ↔
    a.type.primitive ∈ [.string, .uriReference, .markupLine, .markupMultiline] := by
  cases a <;> simp only [IsText, type] <;> decide

/-! ## An equivalence -/

namespace Alike

theorem refl (a : AtomicValue) : Alike a a := (compare_preorder (a := a) (c := a) rfl rfl).2.1

theorem primitive_eq (h : Alike a b) : a.type.primitive = b.type.primitive := (alike_iff.mp h).1

theorem symm (h : Alike a b) : Alike b a := by
  obtain ⟨o, ho, hswap⟩ := (compare_preorder h.primitive_eq rfl).1
  have heq : o = .eq := Except.ok.inj (ho.symm.trans h)
  rw [heq] at hswap
  exact hswap

theorem trans (hab : Alike a b) (hbc : Alike b c) : Alike a c := by
  obtain ⟨hprimitive, heq⟩ := alike_iff.mp hab
  obtain ⟨hprimitive', heq'⟩ := alike_iff.mp hbc
  refine alike_iff.mpr ⟨hprimitive.trans hprimitive', ?_⟩
  by_cases ha : a.IsText
  · -- mixed addresses are in no order, but what is written tells whether they are equal
    have hb : b.IsText := isText_iff.mpr (hprimitive ▸ isText_iff.mp ha)
    rw [order_eq_eq_iff_of_texts ha] at heq ⊢
    rw [order_eq_eq_iff_of_texts hb] at heq'
    exact heq.trans heq'
  · have hmisordered : ∀ v w : AtomicValue, v.type.primitive = a.type.primitive →
        ¬ Misordered v w := fun v w hv hmis =>
      ha (isText_iff.mpr (hv ▸ isText_iff.mp hmis.1.isText))
    obtain ⟨s, hs⟩ := exists_scale a.type.primitive
    have htrans := s.trans
    have horder := (hs a c rfl (hprimitive.trans hprimitive').symm (hmisordered a c rfl)).order_eq
    rw [(hs a b rfl hprimitive.symm (hmisordered a b rfl)).order_eq] at heq
    rw [(hs b c hprimitive.symm (hprimitive.trans hprimitive').symm
      (hmisordered b c hprimitive.symm)).order_eq] at heq'
    rw [horder]
    exact Std.TransCmp.eq_trans heq heq'

end Alike

/-- **Comparing as equal is an equivalence on all values.** -/
theorem equivalence_alike : Equivalence Alike := ⟨Alike.refl, Alike.symm, Alike.trans⟩

end AtomicValue

end TreePath
