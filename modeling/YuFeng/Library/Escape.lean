import YuFeng.Library.Text

/-!
# Endings and escapes

How a text starts and ends, as `strings.HasSuffix`, `strings.TrimPrefix` and
`strings.TrimSuffix` see it, and the escapes that `json.Marshal` puts into
text that is JSON already.
-/

namespace YuFeng.Library

open List

def endsWith (ending s : String) : Bool := ending.toList.isSuffixOf s.toList

def trimStart (start s : String) : String :=
  if startsWith start s then String.ofList (s.toList.drop start.toList.length)
  else s

def trimEnd (ending s : String) : String :=
  if endsWith ending s then
    String.ofList (s.toList.take (s.toList.length - ending.toList.length))
  else s

theorem endsWith_append (s ending) : endsWith ending (s ++ ending) = true := by
  simp [endsWith]

theorem startsWith_append (start s) : startsWith start (start ++ s) = true := by
  simp [startsWith]

theorem endsWith_last {ending s c} (last : ending.toList.getLast? = some c)
    (h : endsWith ending s = true) : s.toList.getLast? = some c := by
  rw [endsWith, isSuffixOf_iff_suffix] at h
  obtain ⟨_, whole⟩ := h
  rw [← whole, getLast?_append, last]
  rfl

@[simp] theorem trimStart_append (start s) : trimStart start (start ++ s) = s := by
  rw [trimStart, if_pos (startsWith_append start s)]
  simp

/-! ## Escapes -/

def special (c : Char) : Bool := [0x26, 0x3c, 0x3e, 0x2028, 0x2029].contains c.toNat

def escapeChar (c : Char) : List Char :=
  if special c then
    ['\\', 'u', hexDigit (c.toNat / 4096), hexDigit (c.toNat / 256 % 16),
      hexDigit (c.toNat / 16 % 16), hexDigit (c.toNat % 16)]
  else [c]

def escape (s : String) : String := String.ofList (s.toList.flatMap escapeChar)

def plain (s : String) : Bool := s.toList.all (!special ·)

theorem length_escapeChars (cs : List Char) :
    (cs.flatMap escapeChar).length = cs.length + 5 * cs.countP special := by
  induction cs with
  | nil => rfl
  | cons _ _ ih =>
    rw [flatMap_cons, length_append, ih, countP_cons, length_cons, escapeChar]
    split <;> simp only [length_cons, length_nil] <;> omega

theorem escape_plain {s} (h : plain s = true) : escape s = s := by
  have chars : ∀ cs : List Char, cs.all (!special ·) = true → cs.flatMap escapeChar = cs := by
    intro cs
    induction cs with
    | nil => intro _; rfl
    | cons _ _ ih =>
      intro all
      simp only [all_cons, Bool.and_eq_true, Bool.not_eq_true'] at all
      rw [flatMap_cons, ih all.2, escapeChar, all.1]
      rfl
  rw [escape, chars s.toList h, String.ofList_toList]

theorem escape_eq_iff {s} : escape s = s ↔ plain s = true := by
  constructor
  · intro same
    have lengths := congrArg (fun t => t.toList.length) same
    simp only [escape, String.toList_ofList, length_escapeChars] at lengths
    have none : s.toList.countP special = 0 := by omega
    rw [countP_eq_zero] at none
    simpa [plain] using none
  · exact escape_plain

theorem map_escape_eq_iff {texts : List String} :
    texts.map escape = texts ↔ ∀ text ∈ texts, plain text = true := by
  induction texts with
  | nil => simp
  | cons _ _ ih =>
    rw [map_cons, List.cons.injEq, escape_eq_iff, ih, forall_mem_cons]

end YuFeng.Library
