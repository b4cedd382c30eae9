import Mathlib.Data.List.Basic

/-!
# Text and its bytes

A text that came from outside may be any bytes.  It is read rune by rune, and
a byte that starts no rune is read as U+FFFD.
-/

namespace YuFeng.Library

def encodeRunes (runes : List Char) : List UInt8 := runes.flatMap String.utf8EncodeChar

def utf8 (s : String) : List UInt8 := s.toByteArray.data.toList

def decodeRune : List UInt8 → Option Char
  | [] => none
  | byte :: rest =>
    if byte.toNat < 128 then some (Char.ofNat byte.toNat)
    else (byte :: rest).toByteArray.utf8DecodeChar? 0

def runesFrom : Nat → List UInt8 → List Char
  | 0, _ => []
  | _ + 1, [] => []
  | fuel + 1, byte :: rest =>
    match decodeRune (byte :: rest) with
    | some c => c :: runesFrom fuel ((byte :: rest).drop c.utf8Size)
    | none => '�' :: runesFrom fuel rest

def runes (bytes : List UInt8) : List Char := runesFrom bytes.length bytes

/-- The text that is left when it has been read and written again. -/
def sanitize (bytes : List UInt8) : List UInt8 := encodeRunes (runes bytes)

theorem utf8_eq (s) : utf8 s = encodeRunes s.toList := by
  have encoded (cs : List Char) : utf8 (String.ofList cs) = encodeRunes cs := by
    simp [utf8, List.utf8Encode, encodeRunes]
  rw [← encoded, String.ofList_toList]

theorem utf8EncodeChar_ascii {c} (ascii : c.toNat < 128) :
    String.utf8EncodeChar c = [UInt8.ofNat c.toNat] := by
  unfold String.utf8EncodeChar
  exact if_pos (Nat.le_of_lt_succ ascii)

theorem utf8EncodeChar_first {c} (large : ¬ c.toNat < 128) :
    ∃ byte rest, String.utf8EncodeChar c = byte :: rest ∧ ¬ byte.toNat < 128 := by
  have high : ¬ c.val.toNat ≤ 127 := by
    change ¬ c.toNat ≤ 127
    omega
  simp only [String.utf8EncodeChar, if_neg high]
  split
  · exact ⟨_, _, rfl, by rw [UInt8.toNat_ofNat']; omega⟩
  · split <;> exact ⟨_, _, rfl, by rw [UInt8.toNat_ofNat']; omega⟩

theorem decodeRune_encode (c rest) : decodeRune (String.utf8EncodeChar c ++ rest) = some c := by
  by_cases ascii : c.toNat < 128
  · have small : (UInt8.ofNat c.toNat).toNat = c.toNat := by
      rw [UInt8.toNat_ofNat']
      omega
    rw [utf8EncodeChar_ascii ascii, List.singleton_append, decodeRune, small,
      if_pos ascii, Char.ofNat_toNat]
  · obtain ⟨byte, more, first, large⟩ := utf8EncodeChar_first ascii
    have read : (String.utf8EncodeChar c ++ rest).toByteArray.utf8DecodeChar? 0 = some c := by
      rw [List.toByteArray_append]
      exact ByteArray.utf8DecodeChar?_utf8EncodeChar_append
    rw [first, List.cons_append] at read ⊢
    rw [decodeRune, if_neg large, read]

theorem runesFrom_encode {fuel cs} (enough : (encodeRunes cs).length ≤ fuel) :
    runesFrom fuel (encodeRunes cs) = cs := by
  induction cs generalizing fuel with
  | nil => cases fuel <;> rfl
  | cons c cs ih =>
    have split : encodeRunes (c :: cs) = String.utf8EncodeChar c ++ encodeRunes cs := rfl
    have size : (String.utf8EncodeChar c).length = c.utf8Size := String.length_utf8EncodeChar c
    have positive := c.utf8Size_pos
    rw [split, List.length_append] at enough
    obtain ⟨fuel, rfl⟩ : ∃ n, fuel = n + 1 := ⟨fuel - 1, by omega⟩
    obtain ⟨byte, rest, first⟩ : ∃ byte rest,
        String.utf8EncodeChar c ++ encodeRunes cs = byte :: rest := by
      apply List.exists_cons_of_length_pos
      rw [List.length_append]
      omega
    have decoded := decodeRune_encode c (encodeRunes cs)
    rw [first] at decoded
    rw [split, first, runesFrom, decoded]
    have dropped : (byte :: rest).drop c.utf8Size = encodeRunes cs := by
      rw [← first, ← size, List.drop_left]
    dsimp only
    rw [dropped, ih (by omega)]

@[simp] theorem runes_encodeRunes (cs) : runes (encodeRunes cs) = cs :=
  runesFrom_encode (Nat.le_refl _)

@[simp] theorem sanitize_encodeRunes (cs) : sanitize (encodeRunes cs) = encodeRunes cs := by
  rw [sanitize, runes_encodeRunes]

theorem encodeRunes_eq_nil {cs} : encodeRunes cs = [] ↔ cs = [] := by
  constructor
  · intro empty
    rw [← runes_encodeRunes cs, empty]
    rfl
  · rintro rfl
    rfl

theorem runes_eq_nil {bytes} : runes bytes = [] ↔ bytes = [] := by
  constructor
  · intro empty
    cases bytes with
    | nil => rfl
    | cons =>
      simp only [runes, List.length_cons, runesFrom] at empty
      split at empty <;> cases empty
  · rintro rfl
    rfl

theorem sanitize_eq_nil {bytes} : sanitize bytes = [] ↔ bytes = [] := by
  rw [sanitize, encodeRunes_eq_nil, runes_eq_nil]

@[simp] theorem sanitize_sanitize (bytes) : sanitize (sanitize bytes) = sanitize bytes :=
  sanitize_encodeRunes (runes bytes)

end YuFeng.Library
