import Mathlib.Data.List.Nodup
import ScopeProbe.Scope
import ScopeProbe.Unicode.Printable

/-!
# Raw names are unambiguous and visible

No two scopes of the vocabulary have the same raw name, so a name is read back
as the scope it was written for.  Names are compared through one number each,
which is cheaper to check than comparing every pair of strings.  All of their
characters are visible ones of ASCII, which is checked on the octets.
-/

namespace ScopeProbe

theorem injective_of_read {α β : Type} {write : α -> β} {read? : β -> Option α}
    (hread : forall value, read? (write value) = some value) : Function.Injective write := by
  intro a b hsame
  have hfound := congrArg read? hsame
  rw [hread, hread] at hfound
  exact Option.some.inj hfound

/-!
# Visible characters
-/

namespace Unicode

def IsVisible (c : Char) : Prop :=
  0x21 <= c.toNat ∧ c.toNat <= 0x7e

instance (c : Char) : Decidable (IsVisible c) :=
  inferInstanceAs (Decidable (_ ∧ _))

/-- A character with visible octets only is visible itself, as one of several octets ends with an
octet outside of ASCII. -/
theorem isVisible_of_octets {c : Char}
    (hoctets : forall octet, octet ∈ String.utf8EncodeChar c ->
      0x21 <= octet.toNat ∧ octet.toNat <= 0x7e) : IsVisible c := by
  have hlast (n : Nat) (hmember : UInt8.ofNat (n % 64 + 128) ∈ String.utf8EncodeChar c) :
      IsVisible c := by
    have hbound := (hoctets _ hmember).right
    rw [UInt8.toNat_ofNat'] at hbound
    omega
  have hvalue : c.val.toNat = c.toNat := rfl
  unfold String.utf8EncodeChar at hlast hoctets
  rw [hvalue] at hlast hoctets
  dsimp only at hlast hoctets
  split_ifs at hlast hoctets with hone htwo hthree
  · have honly := hoctets _ (List.mem_singleton.mpr rfl)
    rw [UInt8.toNat_ofNat', Nat.mod_eq_of_lt (by omega)] at honly
    exact honly
  · exact hlast c.toNat (by simp)
  · exact hlast c.toNat (by simp)
  · exact hlast c.toNat (by simp)

theorem isPrintable_of_ascii {c : Char} (hc : 0x20 <= c.toNat ∧ c.toNat <= 0x7e) :
    isPrintable c = true := by
  have houtside : unprintable.all (fun points => points.2 < 0x20 || 0x7e < points.1) = true := by
    decide +kernel
  rw [isPrintable, Bool.not_eq_true', CodePoints.has, List.any_eq_false]
  intro points hpoints hhas
  have hbounds := List.all_eq_true.mp houtside points hpoints
  rw [Bool.or_eq_true, decide_eq_true_iff, decide_eq_true_iff] at hbounds
  rw [Bool.and_eq_true, decide_eq_true_iff, decide_eq_true_iff] at hhas
  omega

theorem IsVisible.isPrintable {c : Char} (hc : IsVisible c) : isPrintable c = true :=
  isPrintable_of_ascii ⟨Nat.le_of_succ_le hc.left, hc.right⟩

end Unicode

namespace Scope

/-!
# Names as numbers
-/

/-- The octets of a name as the digits of one number. -/
def weight (name : String) : Nat :=
  name.toByteArray.data.toList.foldl (fun value octet => value * 256 + octet.toNat) 0

theorem nodup_weights : (all.map fun scope => weight scope.raw).Nodup := by
  decide +kernel

theorem raw_injective : Function.Injective raw := by
  intro a b h
  exact List.inj_on_of_nodup_map nodup_weights (mem_all a) (mem_all b)
    (congrArg weight h)

@[simp] theorem raw_inj {a b : Scope} : a.raw = b.raw <-> a = b :=
  raw_injective.eq_iff

@[simp] theorem ofRaw?_raw (scope : Scope) : ofRaw? scope.raw = some scope := by
  cases hfound : ofRaw? scope.raw with
  | none =>
      have habsent := List.find?_eq_none.mp hfound scope (mem_all scope)
      simp at habsent
  | some found =>
      rw [raw_injective (raw_ofRaw? hfound)]

/-!
# Visible names
-/

theorem visible_octets :
    all.all (fun scope => scope.raw.toByteArray.data.toList.all
      fun octet => decide (0x21 <= octet.toNat ∧ octet.toNat <= 0x7e)) = true := by
  decide +kernel

theorem isVisible_of_mem_raw {scope : Scope} {c : Char} (hc : c ∈ scope.raw.toList) :
    Unicode.IsVisible c := by
  have hencoded : scope.raw.toByteArray.data.toList =
      scope.raw.toList.flatMap String.utf8EncodeChar := by
    rw [← String.ofList_toList (s := scope.raw), String.toByteArray_ofList, String.toList_ofList,
      List.utf8Encode, List.toList_data_toByteArray]
  have hoctets := List.all_eq_true.mp visible_octets scope (mem_all scope)
  rw [hencoded, List.all_eq_true] at hoctets
  apply Unicode.isVisible_of_octets
  intro octet hoctet
  exact of_decide_eq_true (hoctets octet (List.mem_flatMap.mpr ⟨c, hc, hoctet⟩))

end Scope
end ScopeProbe
