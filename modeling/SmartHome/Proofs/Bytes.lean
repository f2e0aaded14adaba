import Mathlib.Data.List.Basic
import Mathlib.Tactic.SplitIfs

/-!
# Texts as bytes

The bytes of a text are those of its characters one after the other (`toList_toUTF8`), and they tell
texts apart (`toUTF8_inj`). Of two characters the bytes of the smaller one come first in the order
of bytes, whatever follows them (`utf8EncodeChar_append_lt`), so the order of texts by their
characters is their order by bytes (`lt_iff_toUTF8_lt`).
-/

namespace SmartHome

open String (utf8EncodeChar)

section Content

theorem toList_loop (bs : ByteArray) (i : Nat) (before : List UInt8) :
    ByteArray.toList.loop bs i before = before.reverse ++ bs.data.toList.drop i := by
  fun_induction ByteArray.toList.loop bs i before with
  | case1 i before hi ih =>
    have hlen : i < bs.data.toList.length := by simpa using hi
    have hget : bs.get! i = bs.data[i] := by
      cases bs
      exact getElem!_pos _ i hi
    rw [ih, List.drop_eq_getElem_cons hlen, hget]
    simp
  | case2 i before hi =>
    rw [List.drop_eq_nil_of_le (by simpa using Nat.le_of_not_lt hi), List.append_nil]

theorem toList_eq_data (bs : ByteArray) : bs.toList = bs.data.toList := by
  rw [ByteArray.toList, toList_loop, List.reverse_nil, List.nil_append, List.drop_zero]

theorem length_toUTF8 (s : String) : s.toUTF8.toList.length = s.utf8ByteSize := by
  rw [toList_eq_data, Array.length_toList]
  rfl

theorem toUTF8_inj {s t : String} (h : s.toUTF8.toList = t.toUTF8.toList) : s = t := by
  rw [toList_eq_data, toList_eq_data, Array.toList_inj] at h
  exact String.toByteArray_inj.1 (ByteArray.ext h)

theorem toList_toUTF8 (s : String) : s.toUTF8.toList = s.toList.flatMap utf8EncodeChar := by
  have hbytes : s.toUTF8 = s.toList.utf8Encode := String.utf8Encode_toList.symm
  rw [hbytes, toList_eq_data, List.utf8Encode, List.data_toByteArray]

end Content

section Order

theorem utf8EncodeChar_append_lt {a b : Char} (h : a < b) (s t : List UInt8) :
    utf8EncodeChar a ++ s < utf8EncodeChar b ++ t := by
  have hlt : a.val.toNat < b.val.toNat := UInt32.lt_iff_toNat_lt.1 (Char.lt_def.1 h)
  have hb : b.val.toNat < 1114112 := by
    rcases b.valid with hb | ⟨-, hb⟩
    · exact Nat.lt_trans hb (by decide)
    · exact hb
  have hdiv : ∀ n : Nat, n / 4096 = n / 64 / 64 ∧ n / 262144 = n / 64 / 64 / 64 := by omega
  -- by the numbers of bytes: the first bytes differ, or else digits of both in base 64 are compared
  simp only [utf8EncodeChar, hdiv]
  split_ifs <;>
    simp only [List.cons_append, List.nil_append, List.cons_lt_cons_iff, UInt8.lt_iff_toNat_lt,
      ← UInt8.toNat_inj, UInt8.toNat_ofNat'] <;>
    omega

theorem flatMap_utf8EncodeChar_lt : ∀ {as bs : List Char}, as < bs →
    as.flatMap utf8EncodeChar < bs.flatMap utf8EncodeChar
  | _, [], h => absurd h (List.not_lt_nil _)
  | [], b :: bs, _ => by
    rw [List.flatMap_nil, List.flatMap_cons]
    rcases hb : utf8EncodeChar b with _ | ⟨x, xs⟩
    · simp only [utf8EncodeChar] at hb
      split_ifs at hb
    · exact List.nil_lt_cons _ _
  | a :: as, b :: bs, h => by
    rw [List.flatMap_cons, List.flatMap_cons]
    rcases List.cons_lt_cons_iff.1 h with hlt | ⟨rfl, hlt⟩
    · exact utf8EncodeChar_append_lt hlt _ _
    · exact List.append_left_lt (flatMap_utf8EncodeChar_lt hlt)

/-- Texts are ordered as their bytes are. -/
theorem lt_iff_toUTF8_lt {s t : String} : s < t ↔ s.toUTF8.toList < t.toUTF8.toList := by
  have hmono : ∀ {s t : String}, s < t → s.toUTF8.toList < t.toUTF8.toList := by
    intro s t h
    rw [toList_toUTF8, toList_toUTF8]
    exact flatMap_utf8EncodeChar_lt (String.lt_iff.1 h)
  refine ⟨hmono, fun h => ?_⟩
  by_contra hnot
  by_cases hts : t < s
  · exact List.lt_asymm h (hmono hts)
  · rw [String.le_antisymm (String.not_lt.1 hts) (String.not_lt.1 hnot)] at h
    exact List.lt_irrefl _ h

end Order

end SmartHome
