import YuFeng.Library.Table
import YuFeng.Library.Text

/-!
# Percent escapes

Decoding of percent escapes and of queries, as `url.PathUnescape`,
`url.QueryUnescape` and `url.ParseQuery` do it; a character stands for a byte.
A marked text remembers which characters came out of an escape, over any number
of rounds.
-/

namespace YuFeng.Library

def hexValue (c : Char) : Option Nat :=
  if 48 ≤ c.toNat ∧ c.toNat ≤ 57 then some (c.toNat - 48)
  else if 97 ≤ c.toNat ∧ c.toNat ≤ 102 then some (c.toNat - 87)
  else if 65 ≤ c.toNat ∧ c.toNat ≤ 70 then some (c.toNat - 55)
  else none

def escaped (high low : Char) : Option Char :=
  match hexValue high, hexValue low with
  | some x, some y => some (Char.ofNat (16 * x + y))
  | _, _ => none

def unescapeChars : List Char → Option (List Char)
  | [] => some []
  | '%' :: high :: low :: rest =>
    match escaped high low with
    | none => none
    | some c => (unescapeChars rest).map (c :: ·)
  | '%' :: _ => none
  | c :: rest => (unescapeChars rest).map (c :: ·)

def pathUnescape (s : String) : Option String := (unescapeChars s.toList).map String.ofList

def queryUnescape (s : String) : Option String :=
  (unescapeChars (s.toList.map fun c => if c = '+' then ' ' else c)).map String.ofList

def parseParameter (values : List (String × List String))
    (parameter : String) : Option (List (String × List String)) :=
  if parameter.toList.contains ';' then none
  else if parameter = "" then some values
  else
    let pair := (cutText '=' parameter).getD (parameter, "")
    match queryUnescape pair.1, queryUnescape pair.2 with
    | some key, some value =>
      some (put key ((values.lookup key).getD [] ++ [value]) values)
    | _, _ => none

def parseQuery (query : String) : Option (List (String × List String)) :=
  (splitText '&' query).foldlM parseParameter []

theorem unescapeChars_ne_nil {cs decoded} (filled : cs ≠ []) (h : unescapeChars cs = some decoded) :
    decoded ≠ [] := by
  fun_cases unescapeChars cs with
  | case1 => exact absurd rfl filled
  | case2 high low rest failed => simp [unescapeChars, failed] at h
  | case3 high low rest c digits =>
    rw [unescapeChars, digits] at h
    obtain ⟨_, _, rfl⟩ := Option.map_eq_some_iff.mp h
    simp
  | case4 rest short =>
    rw [unescapeChars] at h
    · cases h
    · exact short
  | case5 c rest long short =>
    rw [unescapeChars] at h
    · obtain ⟨_, _, rfl⟩ := Option.map_eq_some_iff.mp h
      simp
    · exact long
    · exact short

/-! ## Marks -/

/-- Characters, each with whether it came out of an escape. -/
abbrev Marked := List (Char × Bool)

def unmarked (cs : List Char) : Marked := cs.map fun c => (c, false)

def Marked.chars (m : Marked) : List Char := m.map Prod.fst

def unescapeMarked : Marked → Option Marked
  | [] => some []
  | ('%', _) :: high :: low :: rest =>
    match escaped high.1 low.1 with
    | none => none
    | some c => (unescapeMarked rest).map ((c, true) :: ·)
  | ('%', _) :: _ => none
  | c :: rest => (unescapeMarked rest).map (c :: ·)

@[simp] theorem chars_unmarked (cs) : (unmarked cs).chars = cs := by
  simp [unmarked, Marked.chars, Function.comp_def]

@[simp] theorem chars_cons (c : Char × Bool) (m : Marked) :
    Marked.chars (c :: m) = c.1 :: m.chars := rfl

theorem unescapeMarked_chars (m : Marked) :
    (unescapeMarked m).map Marked.chars = unescapeChars m.chars := by
  fun_induction unescapeMarked m with
  | case1 => rfl
  | case2 mark high low rest failed => simp [unescapeChars, failed]
  | case3 mark high low rest c decoded ih =>
    simp [unescapeChars, decoded, ← ih, Function.comp_def]
  | case4 mark rest short =>
    cases rest with
    | nil => rfl
    | cons first rest =>
      cases rest with
      | nil => rfl
      | cons second rest => exact absurd rfl (short first second rest)
  | case5 c rest _ other ih =>
    have plain : c.1 ≠ '%' := by
      intro same
      exact other c.2 (Prod.ext same rfl)
    rw [chars_cons, unescapeChars, ← ih]
    · simp [Function.comp_def]
    · intro _ _ _ same
      exact absurd same plain
    · intro same
      exact absurd same plain

/-! ## Slashes -/

theorem hexValue_cases {c n} : hexValue c = some n →
    n < 16 ∧ (c.toNat = n + 48 ∧ n ≤ 9 ∨ c.toNat = n + 87 ∧ 10 ≤ n ∨
      c.toNat = n + 55 ∧ 10 ≤ n) := by
  fun_cases hexValue c
  all_goals
    intro h
    cases h
  all_goals omega

theorem toNat_ofNat_byte {n} (h : n < 256) : (Char.ofNat n).toNat = n := by
  have all : ∀ m : Fin 256, (Char.ofNat m).toNat = m := by
    decide +kernel
  exact all ⟨n, h⟩

theorem escaped_slash {high low} (h : escaped high low = some '/') :
    high = '2' ∧ (low = 'f' ∨ low = 'F') := by
  unfold escaped at h
  split at h
  next x y first second =>
    obtain ⟨_, _⟩ := hexValue_cases first
    obtain ⟨_, _⟩ := hexValue_cases second
    have code : 16 * x + y = 47 := by
      have number := congrArg Char.toNat (Option.some.inj h)
      rwa [toNat_ofNat_byte (by omega)] at number
    have two : high.toNat = 50 := by omega
    have f : low.toNat = 102 ∨ low.toNat = 70 := by omega
    refine ⟨Char.toNat_inj.mp two, ?_⟩
    exact f.imp Char.toNat_inj.mp Char.toNat_inj.mp
  · cases h

end YuFeng.Library
