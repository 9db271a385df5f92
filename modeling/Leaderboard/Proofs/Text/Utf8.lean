import Mathlib.Data.List.Lex
import Mathlib.Data.List.TakeWhile
import Mathlib.Tactic.SplitIfs
import Leaderboard.Text.Utf8

set_option autoImplicit false

namespace Leaderboard.Text

theorem toList_loop (bytes : ByteArray) (i : Nat) (seen : List UInt8) :
    ByteArray.toList.loop bytes i seen = seen.reverse ++ bytes.data.toList.drop i := by
  fun_induction ByteArray.toList.loop bytes i seen with
  | case1 i seen inside ih =>
    have bound : i < bytes.data.toList.length := by simpa using inside
    have here : bytes.get! i = bytes.data.toList[i] := by
      change bytes.data[i]! = _
      rw [getElem!_pos bytes.data i inside, Array.getElem_toList]
    rw [ih, List.drop_eq_getElem_cons bound, here]
    simp
  | case2 i seen outside =>
    have past : bytes.data.toList.length ≤ i := by simpa using outside
    simp [List.drop_eq_nil_of_le past]

theorem encode_eq (text : String) : encode text = text.toList.flatMap String.utf8EncodeChar := by
  have bytes : text.toUTF8 = (text.toList.flatMap String.utf8EncodeChar).toByteArray := by
    rw [String.toUTF8_eq_toByteArray, ← String.utf8Encode_toList, List.utf8Encode]
  rw [encode, ByteArray.toList, toList_loop, bytes, List.toList_data_toByteArray]
  rfl

theorem decodeFrom_skip (skipped rest : List UInt8) :
    decodeFrom (skipped ++ rest) skipped.length = decodeFrom rest 0 := by
  induction skipped with
  | nil => rfl
  | cons b more ih => exact ih

theorem toNat_ofNat_small {n : Nat} (small : n < 256) : (UInt8.ofNat n).toNat = n := by
  rw [UInt8.toNat_ofNat']
  exact Nat.mod_eq_of_lt small

theorem toNat_marked {size mark : Nat} (room : 0 < size ∧ size + mark ≤ 256) (n : Nat) :
    (UInt8.ofNat (n % size + mark)).toNat = n % size + mark := by
  have bound := Nat.mod_lt n room.1
  exact toNat_ofNat_small (by omega)

theorem toNat_tail (n : Nat) : (UInt8.ofNat (n % 64 + 128)).toNat = n % 64 + 128 :=
  toNat_marked (by decide) n

theorem isContinuation_tail (n : Nat) : isContinuation (UInt8.ofNat (n % 64 + 128)) = true := by
  simp only [isContinuation, UInt8.le_iff_toNat_le, toNat_tail, Bool.and_eq_true, decide_eq_true_eq,
    UInt8.reduceToNat]
  omega

theorem sequenceLength_eq (first : UInt8) :
    sequenceLength first =
      if first.toNat < 0x80 then 1
      else if 0xC2 ≤ first.toNat ∧ first.toNat ≤ 0xDF then 2
      else if 0xE0 ≤ first.toNat ∧ first.toNat ≤ 0xEF then 3
      else if 0xF0 ≤ first.toNat ∧ first.toNat ≤ 0xF4 then 4
      else 0 := by
  simp [sequenceLength, UInt8.lt_iff_toNat_lt, UInt8.le_iff_toNat_le]

theorem second_in_range {first second : UInt8}
    (tail : 0x80 ≤ second.toNat ∧ second.toNat ≤ 0xBF)
    (overlong3 : first.toNat = 0xE0 → 0xA0 ≤ second.toNat)
    (surrogate : first.toNat = 0xED → second.toNat ≤ 0x9F)
    (overlong4 : first.toNat = 0xF0 → 0x90 ≤ second.toNat)
    (beyond : first.toNat = 0xF4 → second.toNat ≤ 0x8F) :
    (secondByteRange first).1 ≤ second ∧ second ≤ (secondByteRange first).2 := by
  simp only [secondByteRange, beq_iff_eq, ← UInt8.toNat_inj, UInt8.le_iff_toNat_le,
    UInt8.reduceToNat]
  split_ifs with e0 ed f0 f4 <;> simp only [UInt8.reduceToNat]
  case pos => exact ⟨overlong3 e0, tail.2⟩
  case pos => exact ⟨tail.1, surrogate ed⟩
  case pos => exact ⟨overlong4 f0, tail.2⟩
  case pos => exact ⟨tail.1, beyond f4⟩
  case neg => exact tail

theorem decodeStep_of_tail {first second : UInt8} {more : List UInt8} (rest : List UInt8)
    (length : sequenceLength first = more.length + 2)
    (range : (secondByteRange first).1 ≤ second ∧ second ≤ (secondByteRange first).2)
    (tail : ∀ b ∈ more, isContinuation b = true) :
    decodeStep first (second :: more ++ rest) =
      (some (Char.ofNat (codePoint first (second :: more))), (second :: more).length) := by
  have taken : (continuation first (second :: more ++ rest)).take (more.length + 1) =
      second :: more := by
    simp only [continuation, List.cons_append, range.1, range.2, decide_true, Bool.and_self,
      if_true, length, Nat.add_sub_cancel, List.take_left', List.take_succ_cons]
    rw [List.takeWhile_eq_self_iff.2 tail, List.take_length]
  simp only [decodeStep, length]
  rw [show more.length + 2 - 1 = more.length + 1 by omega, taken]
  simp

theorem isValidChar_toNat (c : Char) : c.toNat < 0xD800 ∨ 0xDFFF < c.toNat ∧ c.toNat < 0x110000 :=
  c.valid

section encoded

variable {c : Char} (rest : List UInt8)

theorem decodeStep_one (greatest : c.toNat ≤ 127) :
    decodeStep (UInt8.ofNat c.toNat) rest = (some c, 0) := by
  have lead : (UInt8.ofNat c.toNat).toNat = c.toNat := toNat_ofNat_small (by omega)
  have length : sequenceLength (UInt8.ofNat c.toNat) = 1 := by
    rw [sequenceLength_eq, lead, if_pos (by omega)]
  simp only [decodeStep, length, lead, Char.ofNat_toNat]

theorem decodeStep_two (least : 127 < c.toNat) (greatest : c.toNat ≤ 2047) :
    decodeStep (UInt8.ofNat (c.toNat / 64 % 32 + 192))
      ([UInt8.ofNat (c.toNat % 64 + 128)] ++ rest) = (some c, 1) := by
  have lead : (UInt8.ofNat (c.toNat / 64 % 32 + 192)).toNat = c.toNat / 64 % 32 + 192 :=
    toNat_marked (by decide) _
  have second := toNat_tail c.toNat
  have point : codePoint (UInt8.ofNat (c.toNat / 64 % 32 + 192))
      [UInt8.ofNat (c.toNat % 64 + 128)] = c.toNat := by
    simp only [codePoint, List.length_cons, List.length_nil, List.foldl_cons, List.foldl_nil, lead,
      toNat_tail]
    omega
  rw [decodeStep_of_tail rest, point, Char.ofNat_toNat]
  · rfl
  · rw [sequenceLength_eq, lead, if_neg (by omega), if_pos (by omega)]
    rfl
  · apply second_in_range <;> omega
  · simp only [List.not_mem_nil, false_imp_iff, implies_true]

theorem decodeStep_three (least : 2047 < c.toNat) (greatest : c.toNat ≤ 65535) :
    decodeStep (UInt8.ofNat (c.toNat / 4096 % 16 + 224))
      ([UInt8.ofNat (c.toNat / 64 % 64 + 128), UInt8.ofNat (c.toNat % 64 + 128)] ++ rest) =
        (some c, 2) := by
  have valid := isValidChar_toNat c
  have lead : (UInt8.ofNat (c.toNat / 4096 % 16 + 224)).toNat = c.toNat / 4096 % 16 + 224 :=
    toNat_marked (by decide) _
  have second := toNat_tail (c.toNat / 64)
  have point : codePoint (UInt8.ofNat (c.toNat / 4096 % 16 + 224))
      [UInt8.ofNat (c.toNat / 64 % 64 + 128), UInt8.ofNat (c.toNat % 64 + 128)] = c.toNat := by
    simp only [codePoint, List.length_cons, List.length_nil, List.foldl_cons, List.foldl_nil, lead,
      toNat_tail]
    omega
  rw [decodeStep_of_tail rest, point, Char.ofNat_toNat]
  · rfl
  · rw [sequenceLength_eq, lead, if_neg (by omega), if_neg (by omega), if_pos (by omega)]
    rfl
  -- Surrogates are no characters, so the byte behind 0xED stays in its range.
  · apply second_in_range <;> omega
  · simp only [List.mem_singleton, forall_eq, isContinuation_tail]

theorem decodeStep_four (least : 65535 < c.toNat) :
    decodeStep (UInt8.ofNat (c.toNat / 262144 % 8 + 240))
      ([UInt8.ofNat (c.toNat / 4096 % 64 + 128), UInt8.ofNat (c.toNat / 64 % 64 + 128),
        UInt8.ofNat (c.toNat % 64 + 128)] ++ rest) = (some c, 3) := by
  have valid := isValidChar_toNat c
  have lead : (UInt8.ofNat (c.toNat / 262144 % 8 + 240)).toNat = c.toNat / 262144 % 8 + 240 :=
    toNat_marked (by decide) _
  have second := toNat_tail (c.toNat / 4096)
  have point : codePoint (UInt8.ofNat (c.toNat / 262144 % 8 + 240))
      [UInt8.ofNat (c.toNat / 4096 % 64 + 128), UInt8.ofNat (c.toNat / 64 % 64 + 128),
        UInt8.ofNat (c.toNat % 64 + 128)] = c.toNat := by
    simp only [codePoint, List.length_cons, List.length_nil, List.foldl_cons, List.foldl_nil, lead,
      toNat_tail]
    omega
  rw [decodeStep_of_tail rest, point, Char.ofNat_toNat]
  · rfl
  · rw [sequenceLength_eq, lead, if_neg (by omega), if_neg (by omega), if_neg (by omega),
      if_pos (by omega)]
    rfl
  · apply second_in_range <;> omega
  · simp only [List.mem_cons, List.not_mem_nil, or_false, forall_eq_or_imp, forall_eq,
      isContinuation_tail, and_self]

end encoded

theorem decodeStep_encodeChar (c : Char) (rest : List UInt8) :
    ∃ first following, String.utf8EncodeChar c = first :: following ∧
      decodeStep first (following ++ rest) = (some c, following.length) := by
  have value : c.val.toNat = c.toNat := rfl
  simp only [String.utf8EncodeChar, value]
  split_ifs with one two three
  case pos => exact ⟨_, [], rfl, decodeStep_one rest one⟩
  case pos => exact ⟨_, [_], rfl, decodeStep_two rest (not_le.1 one) two⟩
  case pos => exact ⟨_, [_, _], rfl, decodeStep_three rest (not_le.1 two) three⟩
  case neg => exact ⟨_, [_, _, _], rfl, decodeStep_four rest (not_le.1 three)⟩

theorem decodeFrom_encodeChar (c : Char) (rest : List UInt8) :
    decodeFrom (String.utf8EncodeChar c ++ rest) 0 = some c :: decodeFrom rest 0 := by
  obtain ⟨first, following, bytes, step⟩ := decodeStep_encodeChar c rest
  rw [bytes, List.cons_append, decodeFrom, step]
  simp only [decodeFrom_skip]

theorem decodeFrom_encode_append (text : String) (bytes : List UInt8) :
    decodeFrom (encode text ++ bytes) 0 = text.toList.map some ++ decodeFrom bytes 0 := by
  rw [encode_eq]
  induction text.toList with
  | nil => rfl
  | cons c rest ih =>
    rw [List.flatMap_cons, List.append_assoc, decodeFrom_encodeChar, ih]
    rfl

theorem decodeStrict_encode_append (text : String) (bytes : List UInt8) :
    decodeStrict (encode text ++ bytes) = text.toList ++ decodeStrict bytes := by
  rw [decodeStrict, decodeFrom_encode_append]
  induction text.toList with
  | nil => rfl
  | cons c rest ih =>
    rw [List.map_cons, List.cons_append, strictChars, ih]
    rfl

theorem decodeStrict_encode (text : String) : decodeStrict (encode text) = text.toList := by
  simpa [decodeStrict, decodeFrom, strictChars] using decodeStrict_encode_append text []

theorem decode?_encode (text : String) : decode? (encode text) = some text := by
  have decoded : decodeFrom (encode text) 0 = text.toList.map some := by
    simpa [decodeFrom] using decodeFrom_encode_append text []
  have whole (cs : List Char) : (cs.map some).mapM id = some cs := by
    induction cs with
    | nil => rfl
    | cons c rest ih => simp [List.mapM_cons, ih]
  rw [decode?, decoded, whole, Option.map_some, String.ofList_toList]

theorem encodeChar_append_lt {c d : Char} (below : c < d) (x y : List UInt8) :
    String.utf8EncodeChar c ++ x < String.utf8EncodeChar d ++ y := by
  have small : c.toNat < d.toNat := below
  have validC := isValidChar_toNat c
  have validD := isValidChar_toNat d
  have value (a : Char) : a.val.toNat = a.toNat := rfl
  -- The parts of one code point nest in each other.
  have nested (a : Char) : a.toNat / 64 / 64 = a.toNat / 4096 ∧
      a.toNat / 4096 / 64 = a.toNat / 262144 ∧ a.toNat / 262144 / 8 = 0 := by
    have valid := isValidChar_toNat a
    refine ⟨Nat.div_div_eq_div_mul _ _ _, Nat.div_div_eq_div_mul _ _ _, ?_⟩
    omega
  have partsC := nested c
  have partsD := nested d
  have single (a : Char) (ascii : a.toNat ≤ 127) : (UInt8.ofNat a.toNat).toNat = a.toNat :=
    toNat_ofNat_small (by omega)
  simp only [String.utf8EncodeChar, value]
  -- Four lengths on either side; the first byte that differs decides.
  split_ifs <;>
    simp (disch := first | decide | assumption) only [List.cons_append, List.nil_append,
      List.cons_lt_cons_iff, UInt8.lt_iff_toNat_lt, ← UInt8.toNat_inj, toNat_marked, single] <;>
    omega

theorem encode_lt_encode {a b : String} (below : a < b) : encode a < encode b := by
  have below : a.toList < b.toList := below
  rw [encode_eq, encode_eq]
  generalize a.toList = cs, b.toList = ds at below
  induction below with
  | nil =>
    rename_i d rest
    obtain ⟨first, following, bytes, -⟩ := decodeStep_encodeChar d []
    rw [List.flatMap_cons, bytes]
    exact List.Lex.nil
  | rel less => exact encodeChar_append_lt less _ _
  | cons _ ih =>
    rw [List.flatMap_cons, List.flatMap_cons]
    exact List.append_left_lt ih

theorem string_compare_eq_lt_iff (a b : String) : compare a b = .lt ↔ a < b :=
  compareOfLessAndEq_eq_lt

theorem compare_eq_lt_iff (a b : String) : compare a b = .lt ↔ encode a < encode b := by
  constructor
  · intro below
    exact encode_lt_encode ((string_compare_eq_lt_iff a b).1 below)
  · intro below
    cases order : compare a b with
    | lt => rfl
    | eq =>
      have same : a = b := Std.LawfulEqCmp.eq_of_compare order
      rw [same] at below
      exact absurd below (List.lt_irrefl _)
    | gt =>
      have swapped := (string_compare_eq_lt_iff b a).1 (Std.OrientedCmp.lt_of_gt order)
      have above := encode_lt_encode swapped
      exact absurd (List.lt_trans below above) (List.lt_irrefl _)

end Leaderboard.Text
