import YuFeng.Library.Text

/-!
# Texts made of lines

Lines that are written one after another, each with its line break, are read
back by trimming the text and splitting it at the line breaks.
-/

namespace YuFeng.Library

open List

/-- A line: no line break inside, no space at either end. -/
structure LineShaped (line : String) : Prop where
  unbroken : '\n' ∉ line.toList
  first : ∀ c ∈ line.toList.head?, isSpace c = false
  last : ∀ c ∈ line.toList.getLast?, isSpace c = false
  nonempty : line.toList ≠ []

def unlines (lines : List String) : String :=
  String.ofList (lines.flatMap fun line => line.toList ++ ['\n'])

theorem unlines_cons (line lines) : unlines (line :: lines) = line ++ "\n" ++ unlines lines := by
  apply String.toList_injective
  simp [unlines]

theorem dropWhile_of_head {p : Char → Bool} {cs : List Char}
    (h : ∀ c ∈ cs.head?, p c = false) : cs.dropWhile p = cs := by
  cases cs with
  | nil => rfl
  | cons c =>
    have head : p c = false := h c rfl
    simp [head]

theorem trimSpace_break {cs : List Char} (first : ∀ c ∈ cs.head?, isSpace c = false)
    (last : ∀ c ∈ cs.getLast?, isSpace c = false) (nonempty : cs ≠ []) :
    trimSpace (String.ofList (cs ++ ['\n'])) = String.ofList cs := by
  have start : (cs ++ ['\n']).dropWhile isSpace = cs ++ ['\n'] := by
    apply dropWhile_of_head
    cases cs with
    | nil => exact absurd rfl nonempty
    | cons => exact first
  have stop : (cs ++ ['\n']).reverse.dropWhile isSpace = cs.reverse := by
    rw [reverse_append]
    change ('\n' :: cs.reverse).dropWhile isSpace = cs.reverse
    rw [dropWhile_cons_of_pos (by decide)]
    apply dropWhile_of_head
    simpa using last
  rw [trimSpace, String.toList_ofList, start, stop, reverse_reverse]

theorem splitOn_lines {lines last} (h : ∀ line ∈ lines, '\n' ∉ line) (h' : '\n' ∉ last) :
    ((lines.flatMap fun line => line ++ ['\n']) ++ last).splitOn '\n' = lines ++ [last] := by
  induction lines with
  | nil =>
    rw [splitOn_eq_splitOnP]
    apply splitOnP_eq_singleton
    intro c member
    have : c ≠ '\n' := fun same => h' (same ▸ member)
    simpa using this
  | cons _ _ ih =>
    rw [forall_mem_cons] at h
    have rest := ih h.2
    rw [splitOn_eq_splitOnP] at rest ⊢
    rw [flatMap_cons, append_assoc, append_assoc, cons_append, nil_append,
      splitOnP_append_cons_of_forall_mem, rest]
    · rfl
    · intro c member
      have : c ≠ '\n' := fun same => h.1 (same ▸ member)
      simpa using this
    · simp

theorem LineShaped.trimSpace {line} (h : LineShaped line) : trimSpace line = line := by
  have stop : line.toList.reverse.dropWhile isSpace = line.toList.reverse := by
    apply dropWhile_of_head
    simpa using h.last
  rw [Library.trimSpace, dropWhile_of_head h.first, stop, reverse_reverse, String.ofList_toList]

theorem LineShaped.ne_empty {line} (h : LineShaped line) : line ≠ "" := by
  intro empty
  exact h.nonempty (by simp [empty])

theorem splitText_unlines {lines} (h : ∀ line ∈ lines, LineShaped line) (nonempty : lines ≠ []) :
    splitText '\n' (trimSpace (unlines lines)) = lines := by
  obtain ⟨lines, last, rfl⟩ : ∃ front last, lines = front ++ [last] :=
    ⟨_, _, (dropLast_append_getLast nonempty).symm⟩
  have shaped : LineShaped last := h last (by simp)
  let body := ((lines.map String.toList).flatMap fun line => line ++ ['\n']) ++ last.toList
  have written : unlines (lines ++ [last]) = String.ofList (body ++ ['\n']) := by
    simp [unlines, body, flatMap_map]
  have first : ∀ c ∈ body.head?, isSpace c = false := by
    cases lines with
    | nil => exact shaped.first
    | cons line =>
      have start := h line (by simp)
      obtain ⟨c, cs, chars⟩ := exists_cons_of_ne_nil start.nonempty
      intro c' head
      apply start.first
      simpa [body, chars] using head
  have final : ∀ c ∈ body.getLast?, isSpace c = false := by
    rw [getLast?_append_of_ne_nil _ shaped.nonempty]
    exact shaped.last
  rw [written, trimSpace_break first final (by simp [body, shaped.nonempty]),
    splitText, String.toList_ofList, splitOn_lines]
  · simp [Function.comp_def]
  · intro line member
    obtain ⟨text, present, rfl⟩ := mem_map.mp member
    exact (h text (by simp [present])).unbroken
  · exact shaped.unbroken

/-! ## Lines in pieces -/

def visible (text : String) : Bool := text.toList.all (!isSpace ·)

theorem visible_iff {text} : visible text = true ↔ ∀ c ∈ text.toList, isSpace c = false := by
  simp [visible]

theorem visible_append (front back) :
    visible (front ++ back) = (visible front && visible back) := by
  simp [visible]

def concat : List String → String
  | [] => ""
  | piece :: pieces => piece ++ concat pieces

theorem visible_concat (pieces) : visible (concat pieces) = pieces.all visible := by
  induction pieces with
  | nil => rfl
  | cons _ _ ih =>
    rw [concat, visible_append, ih, all_cons]

theorem utf8ByteSize_concat (pieces) :
    (concat pieces).utf8ByteSize = (pieces.map String.utf8ByteSize).foldr (· + ·) 0 := by
  induction pieces with
  | nil => rfl
  | cons _ _ ih =>
    rw [concat, String.utf8ByteSize_append, ih]
    rfl

theorem visible_hexEncode (bytes) : visible (hexEncode bytes) = true := by
  have digit : ∀ value : Fin 16, isSpace (hexDigit value) = false := by
    decide
  rw [visible_iff]
  intro c present
  rw [hexEncode, String.toList_ofList, mem_flatMap] at present
  obtain ⟨byte, -, inside⟩ := present
  have small : byte.toNat < 256 := byte.toNat_lt
  simp only [mem_cons, not_mem_nil, or_false] at inside
  rcases inside with rfl | rfl
  · exact digit ⟨byte.toNat / 16, by omega⟩
  · exact digit ⟨byte.toNat % 16, by omega⟩

theorem lineShaped_of_visible {text} (h : visible text = true) (nonempty : text ≠ "") :
    LineShaped text where
  unbroken := fun present => by simpa [isSpace] using visible_iff.mp h '\n' present
  first := fun c head => visible_iff.mp h c (mem_of_mem_head? head)
  last := fun c last => visible_iff.mp h c (mem_of_mem_getLast? last)
  nonempty := fun none => nonempty (String.toList_injective (by simpa using none))

end YuFeng.Library
