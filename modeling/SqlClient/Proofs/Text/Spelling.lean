import Mathlib.Data.List.Forall2

namespace SqlClient

theorem toNat_toLower (c : Char) :
    c.toLower.toNat = if 65 ≤ c.toNat ∧ c.toNat ≤ 90 then c.toNat + 32 else c.toNat := by
  have hiff : (c.val ≥ 'A'.val ∧ c.val ≤ 'Z'.val) ↔ 65 ≤ c.toNat ∧ c.toNat ≤ 90 := Iff.rfl
  unfold Char.toLower
  split
  · next h =>
    rw [if_pos (hiff.mp h)]
    change (c.val + ('a'.val - 'A'.val)).toNat = c.toNat + 32
    rw [UInt32.toNat_add, show ('a'.val - 'A'.val).toNat = 32 by decide]
    rw [hiff, Char.toNat] at h
    rw [Char.toNat]
    omega
  · next h => rw [if_neg (hiff.not.mp h)]

theorem toNat_toUpper (c : Char) :
    c.toUpper.toNat = if 97 ≤ c.toNat ∧ c.toNat ≤ 122 then c.toNat - 32 else c.toNat := by
  have hiff : ('a'.val ≤ c.val ∧ c.val ≤ 'z'.val) ↔ 97 ≤ c.toNat ∧ c.toNat ≤ 122 := Iff.rfl
  unfold Char.toUpper
  split
  · next h =>
    rw [if_pos (hiff.mp h)]
    change (c.val + ('A'.val - 'a'.val)).toNat = c.toNat - 32
    rw [UInt32.toNat_add, show ('A'.val - 'a'.val).toNat = 2 ^ 32 - 32 by decide]
    rw [hiff, Char.toNat] at h
    rw [Char.toNat]
    omega
  · next h => rw [if_neg (hiff.not.mp h)]

theorem toLower_eq_iff {c letter : Char} (h : 97 ≤ letter.toNat ∧ letter.toNat ≤ 122) :
    c.toLower = letter ↔ c = letter ∨ c = letter.toUpper := by
  rw [← Char.toNat_inj, ← Char.toNat_inj, ← Char.toNat_inj, toNat_toLower, toNat_toUpper]
  grind

def SpellsName (letters : List Char) (name : String) : Prop :=
  List.Forall₂ (fun c letter ↦ c = letter ∨ c = letter.toUpper) letters name.toList

theorem map_toLower_eq_iff {letters : List Char} {name : String}
    (h : ∀ letter ∈ name.toList, 97 ≤ letter.toNat ∧ letter.toNat ≤ 122) :
    letters.map Char.toLower = name.toList ↔ SpellsName letters name := by
  unfold SpellsName
  generalize name.toList = name at *
  induction name generalizing letters with
  | nil => cases letters <;> simp
  | cons letter name ih =>
    rw [List.forall_mem_cons] at h
    cases letters with
    | nil => simp
    | cons c letters =>
      rw [List.map_cons, List.cons.injEq, List.forall₂_cons, toLower_eq_iff h.1, ih h.2]

end SqlClient
