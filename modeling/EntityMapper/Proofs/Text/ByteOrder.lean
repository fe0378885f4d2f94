import Mathlib.Data.String.Basic
import Mathlib.Tactic.SplitIfs

/-!
# Texts compare as their UTF-8 bytes

Texts are ordered by their characters. UTF-8 gives a smaller character smaller bytes, and no
character bytes that begin those of another one, so bytes compare the same way (`utf8_lt_iff`).
-/
namespace EntityMapper.Text

/-- The UTF-8 bytes of a text. -/
def utf8 (text : String) : List UInt8 :=
  text.toUTF8.data.toList

theorem utf8_eq_flatMap (text : String) :
    utf8 text = text.toList.flatMap String.utf8EncodeChar := by
  have encoded := String.toByteArray_ofList (l := text.toList)
  rw [String.ofList_toList] at encoded
  rw [utf8, String.toUTF8_eq_toByteArray, encoded, List.utf8Encode]
  simp

/-- Numbers compare by their digits to the base 64, the highest one first. -/
theorem digits_lt {v w : Nat} (less : v < w) (bound : w < 2097152) :
    v / 262144 % 8 < w / 262144 % 8 ∨ v / 262144 % 8 = w / 262144 % 8 ∧
      (v / 4096 % 64 < w / 4096 % 64 ∨ v / 4096 % 64 = w / 4096 % 64 ∧
        (v / 64 % 64 < w / 64 % 64 ∨ v / 64 % 64 = w / 64 % 64 ∧ v % 64 < w % 64)) := by
  have sum (n : Nat) (small : n < 2097152) : n = 262144 * (n / 262144 % 8) +
      4096 * (n / 4096 % 64) + 64 * (n / 64 % 64) + n % 64 := by omega
  have sumV := sum v (by omega)
  have sumW := sum w bound
  have digit (n : Nat) : n % 64 < 64 := Nat.mod_lt n (by decide)
  have digits := And.intro (digit v) (digit w)
  have middles := And.intro (digit (v / 64)) (digit (w / 64))
  have uppers := And.intro (digit (v / 4096)) (digit (w / 4096))
  generalize v / 262144 % 8 = v₃, v / 4096 % 64 = v₂, v / 64 % 64 = v₁, v % 64 = v₀ at *
  generalize w / 262144 % 8 = w₃, w / 4096 % 64 = w₂, w / 64 % 64 = w₁, w % 64 = w₀ at *
  omega

/-- Whatever follows, the bytes of the smaller character are smaller. -/
theorem utf8EncodeChar_append_lt {a b : Char} (less : a < b) (x y : List UInt8) :
    String.utf8EncodeChar a ++ x < String.utf8EncodeChar b ++ y := by
  have below : a.val.toNat < b.val.toNat := less
  have bound : b.val.toNat < 1114112 := by
    have valid : b.val.toNat < 55296 ∨ 57343 < b.val.toNat ∧ b.val.toNat < 1114112 := b.valid
    omega
  have digits := digits_lt below (by omega)
  have byte (n : Nat) (small : n < 256) : (UInt8.ofNat n).toNat = n :=
    UInt8.toNat_ofNat_of_lt' small
  simp only [String.utf8EncodeChar]
  generalize a.val.toNat = v at *
  generalize b.val.toNat = w at *
  -- Either the first byte tells how many there are, or the bytes are the digits.
  split_ifs <;>
    simp (disch := omega) only [List.cons_append, List.nil_append, List.cons_lt_cons_iff,
      UInt8.lt_iff_toNat_lt, ← UInt8.toNat_inj, byte] <;> omega

theorem utf8EncodeChar_ne_nil (c : Char) : String.utf8EncodeChar c ≠ [] := by
  simp only [String.utf8EncodeChar]
  split_ifs <;> simp

theorem flatMap_utf8EncodeChar_lt {a b : List Char} (less : a < b) :
    a.flatMap String.utf8EncodeChar < b.flatMap String.utf8EncodeChar := by
  induction a generalizing b with
  | nil =>
    cases b with
    | nil => exact absurd less (List.lt_irrefl _)
    | cons d rest =>
      obtain ⟨byte, bytes, encoded⟩ := List.exists_cons_of_ne_nil (utf8EncodeChar_ne_nil d)
      rw [List.flatMap_cons, encoded]
      exact List.nil_lt_cons _ _
  | cons c before ih =>
    cases b with
    | nil => exact absurd less (List.not_lt_nil _)
    | cons d rest =>
      rw [List.flatMap_cons, List.flatMap_cons]
      rcases List.cons_lt_cons_iff.mp less with smaller | ⟨rfl, tail⟩
      · exact utf8EncodeChar_append_lt smaller _ _
      · exact List.append_left_lt (ih tail)

theorem utf8_lt {a b : String} (less : a < b) : utf8 a < utf8 b := by
  rw [utf8_eq_flatMap, utf8_eq_flatMap]
  exact flatMap_utf8EncodeChar_lt (String.lt_iff_toList_lt.mp less)

/-- Texts compare as their bytes do. -/
theorem utf8_lt_iff {a b : String} : utf8 a < utf8 b ↔ a < b := by
  refine ⟨fun less => ?_, utf8_lt⟩
  rcases lt_trichotomy a b with smaller | rfl | greater
  · exact smaller
  · exact absurd less (List.lt_irrefl _)
  · exact absurd less (List.lt_asymm (utf8_lt greater))

end EntityMapper.Text
