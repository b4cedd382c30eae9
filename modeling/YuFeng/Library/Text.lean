import Mathlib.Data.List.Basic
import Mathlib.Data.List.DropRight
import Mathlib.Data.List.TakeWhile

/-!
# Text operations

The whitespace class and the trimming functions that the Go standard library
applies to Unicode text.
-/

namespace YuFeng.Library

open List

def isSpace (c : Char) : Bool :=
  c.val ∈ [0x09, 0x0a, 0x0b, 0x0c, 0x0d, 0x20, 0x85, 0xa0, 0x1680, 0x2028,
    0x2029, 0x202f, 0x205f, 0x3000] || (0x2000 ≤ c.val && c.val ≤ 0x200a)

def trimSpace (s : String) : String :=
  String.ofList ((s.toList.dropWhile isSpace).reverse.dropWhile isSpace).reverse

/-- ASCII letters only: header names, hosts and methods have no others. -/
def toLower (s : String) : String := String.ofList (s.toList.map Char.toLower)

def toUpper (s : String) : String := String.ofList (s.toList.map Char.toUpper)

def equalFold (s t : String) : Bool := toLower s = toLower t

def startsWith (start s : String) : Bool := start.toList.isPrefixOf s.toList

def hasSubstring (part s : String) : Bool :=
  s.toList.tails.any fun rest => part.toList.isPrefixOf rest

def splitText (separator : Char) (s : String) : List String :=
  (s.toList.splitOn separator).map String.ofList

def cutText (separator : Char) (s : String) : Option (String × String) :=
  if s.toList.contains separator then
    let first := s.toList.takeWhile (· ≠ separator)
    some (String.ofList first, String.ofList (s.toList.drop (first.length + 1)))
  else none

def firstNonEmpty (first second : String) : String :=
  if first = "" then second else first

def hexDigit (value : Nat) : Char :=
  if value < 10 then Char.ofNat (48 + value) else Char.ofNat (87 + value)

/--
The escapes of Go's `%q`.  Every character from U+0080 on counts as printable
here.
-/
def quoteChar (c : Char) : String :=
  match c with
  | '"' => "\\\""
  | '\\' => "\\\\"
  | '\x07' => "\\a"
  | '\x08' => "\\b"
  | '\x0c' => "\\f"
  | '\n' => "\\n"
  | '\r' => "\\r"
  | '\t' => "\\t"
  | '\x0b' => "\\v"
  | c =>
    if c.toNat < 32 ∨ c.toNat = 127 then
      String.ofList ['\\', 'x', hexDigit (c.toNat / 16), hexDigit (c.toNat % 16)]
    else String.singleton c

def quote (s : String) : String := "\"" ++ String.join (s.toList.map quoteChar) ++ "\""

def hexEncode (bytes : List UInt8) : String :=
  String.ofList (bytes.flatMap fun byte =>
    [hexDigit (byte.toNat / 16), hexDigit (byte.toNat % 16)])

theorem hexEncode_ne_empty {bytes} (h : bytes ≠ []) : hexEncode bytes ≠ "" := by
  obtain ⟨_, _, rfl⟩ := exists_cons_of_ne_nil h
  intro empty
  simpa [hexEncode] using congrArg String.toList empty

theorem hexDigit_inj {a b} (ha : a < 16) (hb : b < 16) (h : hexDigit a = hexDigit b) : a = b := by
  have all : ∀ m n : Fin 16, hexDigit m = hexDigit n → m = n := by decide
  exact Fin.val_eq_of_eq (all ⟨a, ha⟩ ⟨b, hb⟩ h)

theorem hexEncode_inj {first second} (h : hexEncode first = hexEncode second) : first = second := by
  rw [hexEncode, hexEncode, ← String.toList_inj, String.toList_ofList, String.toList_ofList] at h
  induction first generalizing second with
  | nil =>
    cases second with
    | nil => rfl
    | cons => simp at h
  | cons byte _ ih =>
    cases second with
    | nil => simp at h
    | cons byte' =>
      simp only [flatMap_cons, cons_append, nil_append, List.cons.injEq] at h
      have small := byte.toNat_lt
      have small' := byte'.toNat_lt
      have high := hexDigit_inj (by omega) (by omega) h.1
      have low := hexDigit_inj (by omega) (by omega) h.2.1
      have same : byte = byte' := UInt8.toNat_inj.mp (by omega)
      rw [same, ih h.2.2]

theorem mem_hexEncode {bytes c} (member : c ∈ (hexEncode bytes).toList) :
    ∃ value < 16, c = hexDigit value := by
  rw [hexEncode, String.toList_ofList, mem_flatMap] at member
  obtain ⟨byte, -, digit⟩ := member
  have small := byte.toNat_lt
  simp only [mem_cons, not_mem_nil, or_false] at digit
  rcases digit with rfl | rfl
  · exact ⟨byte.toNat / 16, by omega, rfl⟩
  · exact ⟨byte.toNat % 16, by omega, rfl⟩

theorem trimSpace_eq_empty_iff {s} : trimSpace s = "" ↔ ∀ c ∈ s.toList, isSpace c = true := by
  rw [trimSpace, ← String.toList_inj, String.toList_ofList,
    String.toList_empty, reverse_eq_nil_iff, dropWhile_eq_nil_iff]
  constructor
  · intro spaces
    rw [← dropWhile_eq_nil_iff]
    by_contra rest
    have first := head_dropWhile_not isSpace rest
    have space := spaces _ (mem_reverse.mpr (head_mem rest))
    rw [first] at space
    contradiction
  · intro spaces _ member
    rw [dropWhile_eq_nil_iff.mpr spaces] at member
    contradiction

theorem trimSpace_of_no_space {s} (h : ∀ c ∈ s.toList, isSpace c = false) : trimSpace s = s := by
  have kept : ∀ cs : List Char, (∀ c ∈ cs, isSpace c = false) → cs.dropWhile isSpace = cs := by
    intro cs clean
    cases cs with
    | nil => rfl
    | cons c => simp [clean c mem_cons_self]
  have reversed : ∀ c ∈ s.toList.reverse, isSpace c = false := by
    simpa using h
  rw [trimSpace, kept _ h, kept _ reversed, reverse_reverse, String.ofList_toList]

theorem toList_trimSpace (s) :
    (trimSpace s).toList = (s.toList.dropWhile isSpace).rdropWhile isSpace :=
  String.toList_ofList

theorem trimSpace_trimSpace (s) : trimSpace (trimSpace s) = trimSpace s := by
  rw [← String.toList_inj, toList_trimSpace, toList_trimSpace]
  set inner := s.toList.dropWhile isSpace with trimmed
  have start : (inner.rdropWhile isSpace).dropWhile isSpace = inner.rdropWhile isSpace := by
    obtain ⟨rest, parts⟩ := rdropWhile_prefix isSpace inner
    cases left : inner.rdropWhile isSpace with
    | nil => rfl
    | cons c cs =>
      have same := dropWhile_idempotent isSpace s.toList
      rw [← trimmed, ← parts, left, cons_append] at same
      cases space : isSpace c with
      | false => simp [space]
      | true =>
        rw [dropWhile_cons_of_pos space] at same
        have sizes := congrArg List.length same
        have shorter := length_dropWhile_le isSpace (cs ++ rest)
        rw [length_cons] at sizes
        omega
  rw [start, rdropWhile_idempotent]

theorem trimSpace_hexEncode (bytes) : trimSpace (hexEncode bytes) = hexEncode bytes := by
  apply trimSpace_of_no_space
  intro _ member
  obtain ⟨value, small, rfl⟩ := mem_hexEncode member
  have all : ∀ n : Fin 16, isSpace (hexDigit n) = false := by decide
  exact all ⟨value, small⟩

theorem utf8ByteSize_ofList_cons (c cs) :
    (String.ofList (c :: cs)).utf8ByteSize = c.utf8Size + (String.ofList cs).utf8ByteSize := by
  rw [String.ofList_cons, String.utf8ByteSize_append, String.utf8ByteSize_singleton]

theorem utf8ByteSize_le (s : String) : s.utf8ByteSize ≤ 4 * s.toList.length := by
  rw [← String.ofList_toList (s := s), String.toList_ofList]
  induction s.toList with
  | nil => simp
  | cons c =>
    rw [utf8ByteSize_ofList_cons, length_cons]
    have size := c.utf8Size_le_four
    omega

theorem utf8ByteSize_of_ascii {s : String} (h : ∀ c ∈ s.toList, c.utf8Size = 1) :
    s.utf8ByteSize = s.toList.length := by
  rw [← String.ofList_toList (s := s), String.toList_ofList]
  generalize s.toList = cs at h
  induction cs with
  | nil => rfl
  | cons _ _ ih =>
    rw [forall_mem_cons] at h
    rw [utf8ByteSize_ofList_cons, h.1, ih h.2, length_cons]
    omega

theorem utf8ByteSize_map {f : Char → Char} {cs} (h : ∀ c ∈ cs, (f c).utf8Size = c.utf8Size) :
    (String.ofList (cs.map f)).utf8ByteSize = (String.ofList cs).utf8ByteSize := by
  induction cs with
  | nil => rfl
  | cons _ _ ih =>
    rw [forall_mem_cons] at h
    rw [map_cons, utf8ByteSize_ofList_cons, utf8ByteSize_ofList_cons, h.1, ih h.2]

theorem exists_run_not_mem (c : Char) (texts : List String) :
    ∃ n, String.ofList (replicate (n + 1) c) ∉ texts := by
  refine ⟨(texts.map String.length).max?.getD 0, fun member => ?_⟩
  have longest := le_max?_getD_of_mem (k := 0) (mem_map_of_mem (f := String.length) member)
  rw [String.length_ofList, length_replicate] at longest
  omega

/-! ## Numbers -/

/-- A decimal number holds digits and at most a sign. -/
theorem not_mem_repr {c} (digit : c.isDigit = false) (sign : c ≠ '-') (n : Int) :
    c ∉ n.repr.toList := by
  have digits : ∀ n : Nat, c ∉ n.repr.toList := by
    intro n member
    rw [Nat.toList_repr] at member
    have := Nat.isDigit_of_mem_toDigits (by decide) (by decide) member
    simp [digit] at this
  cases n with
  | ofNat n => exact digits n
  | negSucc n =>
    have text : (Int.negSucc n).repr = "-" ++ (n + 1).repr := rfl
    rw [text, String.toList_append, mem_append]
    rintro (first | rest)
    · exact sign (mem_singleton.mp first)
    · exact digits (n + 1) rest

end YuFeng.Library
