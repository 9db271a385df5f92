import Leaderboard.Proofs.Text.Split
import Leaderboard.Proofs.Text.Utf8
import Leaderboard.Text.FormEncoding

set_option autoImplicit false

namespace Leaderboard.Text

theorem decodeLenient_encode (text : String) : decodeLenient (encode text) = text.toList := by
  have read := decodeFrom_encode_append text []
  rw [List.append_nil, decodeFrom, List.append_nil] at read
  rw [decodeLenient, read, List.map_map]
  exact List.map_id _

theorem utf8EncodeChar_ascii {c : Char} (ascii : c.toNat < 128) :
    String.utf8EncodeChar c = [UInt8.ofNat c.toNat] := by
  have small : c.val.toNat ≤ 127 := Nat.le_of_lt_succ ascii
  rw [String.utf8EncodeChar, if_pos small]
  rfl

theorem isPlainByte_iff (b : UInt8) :
    isPlainByte b = true ↔
      0x30 ≤ b.toNat ∧ b.toNat ≤ 0x39 ∨ 0x41 ≤ b.toNat ∧ b.toNat ≤ 0x5A ∨
        0x61 ≤ b.toNat ∧ b.toNat ≤ 0x7A ∨ b.toNat = 0x2A ∨ b.toNat = 0x2D ∨ b.toNat = 0x2E ∨
        b.toNat = 0x5F := by
  simp [isPlainByte, or_assoc]

theorem toNat_ofNat_byte (b : UInt8) : (Char.ofNat b.toNat).toNat = b.toNat := by
  have valid : b.toNat.isValidChar := .inl (by have := b.toNat_lt; omega)
  rw [Char.ofNat, dif_pos valid]
  rfl

def hexDigit (n : Nat) : Char := (Nat.digitChar n).toUpper

theorem hexValue_hexDigit : ∀ n < 16,
    hexValue? (UInt8.ofNat (hexDigit n).toNat) = some (UInt8.ofNat n) := by decide

theorem plusToSpace_hexDigit : ∀ n < 16,
    plusToSpace (UInt8.ofNat (hexDigit n).toNat) = UInt8.ofNat (hexDigit n).toNat := by decide

theorem ascii_hexDigit : ∀ n < 16, (hexDigit n).toNat < 128 := by decide

theorem halves (b : UInt8) : b.toNat / 16 < 16 ∧ b.toNat % 16 < 16 ∧
    UInt8.ofNat (b.toNat / 16) * 16 + UInt8.ofNat (b.toNat % 16) = b := by
  have bound := b.toNat_lt
  refine ⟨by omega, by omega, ?_⟩
  rw [← UInt8.toNat_inj]
  simp
  omega

-- Plus signs become spaces before percent signs are read, so this is what the reader is given.
def written (b : UInt8) : List UInt8 :=
  ((encodeByte b).flatMap String.utf8EncodeChar).map plusToSpace

theorem written_cases (b : UInt8) :
    b ≠ 0x25 ∧ written b = [b] ∨
      written b = [0x25, UInt8.ofNat (hexDigit (b.toNat / 16)).toNat,
        UInt8.ofNat (hexDigit (b.toNat % 16)).toNat] := by
  by_cases plain : isPlainByte b = true
  · have range := (isPlainByte_iff b).1 plain
    have ascii : (Char.ofNat b.toNat).toNat < 128 := by
      rw [toNat_ofNat_byte]
      omega
    have sign : b ≠ 0x25 := by
      rintro rfl
      cases plain
    have plus : b ≠ 0x2B := by
      rintro rfl
      cases plain
    refine .inl ⟨sign, ?_⟩
    simp [written, encodeByte, plain, utf8EncodeChar_ascii ascii, toNat_ofNat_byte, plusToSpace,
      plus]
  · by_cases space : b = 0x20
    · subst space
      exact .inl ⟨by decide, by decide⟩
    · obtain ⟨high, low, -⟩ := halves b
      have digit {n : Nat} (small : n < 16) := utf8EncodeChar_ascii (ascii_hexDigit n small)
      have bytes : encodeByte b =
          ['%', hexDigit (b.toNat / 16), hexDigit (b.toNat % 16)] := by
        simp [encodeByte, plain, space, percentByte, hexDigit]
      refine .inr ?_
      simp only [written, bytes, List.flatMap_cons, List.flatMap_nil, digit high, digit low,
        List.map_append, List.map_cons, List.map_nil, plusToSpace_hexDigit _ high,
        plusToSpace_hexDigit _ low]
      rfl

theorem percentDecode_cons {b : UInt8} (sign : b ≠ 0x25) (rest : List UInt8) :
    percentDecode (b :: rest) = b :: percentDecode rest := by
  conv_lhs => unfold percentDecode
  simp [sign]

theorem percentDecode_digits {high low h l : UInt8} (first : hexValue? high = some h)
    (second : hexValue? low = some l) (rest : List UInt8) :
    percentDecode (0x25 :: high :: low :: rest) = (h * 16 + l) :: percentDecode rest := by
  conv_lhs => unfold percentDecode
  simp [first, second]

theorem percentDecode_written (b : UInt8) (rest : List UInt8) :
    percentDecode (written b ++ rest) = b :: percentDecode rest := by
  rcases written_cases b with ⟨sign, single⟩ | digits
  · rw [single]
    exact percentDecode_cons sign rest
  · obtain ⟨high, low, whole⟩ := halves b
    rw [digits, List.cons_append, List.cons_append, List.cons_append, List.nil_append,
      percentDecode_digits (hexValue_hexDigit _ high) (hexValue_hexDigit _ low), whole]

theorem percentDecode_flatMap_written (bytes : List UInt8) :
    percentDecode (bytes.flatMap written) = bytes := by
  induction bytes with
  | nil => rfl
  | cons b rest ih => rw [List.flatMap_cons, percentDecode_written, ih]

theorem encode_formEncode (text : String) :
    (encode (formEncode text)).map plusToSpace = (encode text).flatMap written := by
  rw [encode_eq (formEncode text), formEncode, String.toList_ofList, List.flatMap_assoc,
    List.map_flatMap]
  rfl

theorem formDecode_formEncode (text : String) : formDecode (formEncode text).toList = text := by
  rw [formDecode, String.ofList_toList, encode_formEncode, percentDecode_flatMap_written,
    decodeLenient_encode, String.ofList_toList]

def isPlainChar (c : Char) : Bool := c.toNat < 128 && isPlainByte (UInt8.ofNat c.toNat)

def isFormChar (c : Char) : Bool := c == '%' || c == '+' || isPlainChar c

theorem isPlainChar_iff (c : Char) :
    isPlainChar c = true ↔
      0x30 ≤ c.toNat ∧ c.toNat ≤ 0x39 ∨ 0x41 ≤ c.toNat ∧ c.toNat ≤ 0x5A ∨
        0x61 ≤ c.toNat ∧ c.toNat ≤ 0x7A ∨ c.toNat = 0x2A ∨ c.toNat = 0x2D ∨ c.toNat = 0x2E ∨
        c.toNat = 0x5F := by
  rw [isPlainChar, Bool.and_eq_true, decide_eq_true_iff, isPlainByte_iff]
  by_cases ascii : c.toNat < 128
  · rw [toNat_ofNat_small (by omega)]
    exact and_iff_right ascii
  · omega

theorem isFormChar_hexDigit : ∀ n < 16, isFormChar (hexDigit n) = true := by decide

theorem isFormChar_encodeByte (b : UInt8) : ∀ c ∈ encodeByte b, isFormChar c = true := by
  intro c inside
  unfold encodeByte at inside
  split at inside
  next plain =>
    rw [List.mem_singleton.1 inside, isFormChar, (isPlainChar_iff _).2, Bool.or_true]
    rw [toNat_ofNat_byte]
    exact (isPlainByte_iff b).1 plain
  next =>
    split at inside
    next =>
      rw [List.mem_singleton.1 inside]
      rfl
    next =>
      obtain ⟨high, low, -⟩ := halves b
      simp only [percentByte, List.mem_cons, List.not_mem_nil, or_false] at inside
      rcases inside with rfl | rfl | rfl
      · rfl
      · exact isFormChar_hexDigit _ high
      · exact isFormChar_hexDigit _ low

theorem isFormChar_formEncode {text : String} :
    ∀ c ∈ (formEncode text).toList, isFormChar c = true := by
  intro c inside
  rw [formEncode, String.toList_ofList] at inside
  obtain ⟨b, -, inside⟩ := List.mem_flatMap.1 inside
  exact isFormChar_encodeByte b c inside

theorem not_mem_formEncode {c : Char} (foreign : isFormChar c = false) (text : String) :
    c ∉ (formEncode text).toList := by
  intro inside
  rw [isFormChar_formEncode c inside] at foreign
  cases foreign

theorem formEncode_of_plain {text : String} (plain : text.toList.all isPlainChar = true) :
    formEncode text = text := by
  have each : ∀ c ∈ text.toList, (String.utf8EncodeChar c).flatMap encodeByte = [c] := by
    intro c inside
    have here := List.all_eq_true.1 plain c inside
    simp only [isPlainChar, Bool.and_eq_true, decide_eq_true_eq] at here
    have byte : (UInt8.ofNat c.toNat).toNat = c.toNat := toNat_ofNat_small (by omega)
    simp [utf8EncodeChar_ascii here.1, encodeByte, here.2, byte]
  rw [formEncode, encode_eq, List.flatMap_assoc, List.flatMap_congr each, List.flatMap_singleton']
  exact String.ofList_toList

def writtenPair (pair : String × String) : List Char :=
  (formEncode pair.1).toList ++ '=' :: (formEncode pair.2).toList

def formQuery (pairs : List (String × String)) : String :=
  String.ofList (joinWith '&' (pairs.map writtenPair))

theorem formPair_writtenPair (pair : String × String) : formPair (writtenPair pair) = pair := by
  rw [formPair, writtenPair, splitOnce?_append (not_mem_formEncode (by decide) pair.1)]
  simp only [formDecode_formEncode]

theorem formPairs_formQuery (pairs : List (String × String)) :
    formPairs (formQuery pairs) = pairs := by
  have whole : ∀ part ∈ pairs.map writtenPair, '&' ∉ part := by
    intro part listed
    obtain ⟨pair, -, rfl⟩ := List.mem_map.1 listed
    simp [writtenPair, not_mem_formEncode (c := '&') (by decide)]
  have inked : ∀ part ∈ pairs.map writtenPair, (!part.isEmpty) = true := by
    intro part listed
    obtain ⟨pair, -, rfl⟩ := List.mem_map.1 listed
    simp [writtenPair]
  by_cases none : pairs = []
  · rw [none]
    rfl
  · rw [formPairs, formQuery, String.toList_ofList, splitAll_joinWith (by simpa using none) whole,
      List.filter_eq_self.2 inked, List.map_map]
    exact (List.map_congr_left fun pair _ => formPair_writtenPair pair).trans (List.map_id _)

theorem mem_formQuery {pairs : List (String × String)} {c : Char}
    (inside : c ∈ (formQuery pairs).toList) : c = '&' ∨ c = '=' ∨ isFormChar c = true := by
  rw [formQuery, String.toList_ofList] at inside
  refine (mem_joinWith inside).imp_right ?_
  rintro ⟨part, listed, inside⟩
  obtain ⟨pair, -, rfl⟩ := List.mem_map.1 listed
  rcases List.mem_append.1 inside with name | rest
  · exact .inr (isFormChar_formEncode c name)
  · exact (List.mem_cons.1 rest).imp_right (isFormChar_formEncode c)

end Leaderboard.Text
