import YuFeng.Library.Lists
import YuFeng.Library.Text

/-!
# Route templates

A request path is reduced to a template: numbers, identifiers and other
unusual segments are replaced by placeholders and the result is cut at 512
bytes.  The template holds ASCII characters only, so its bytes are its
characters.

The brain applies the same function to the template it receives.  A
placeholder is not a plain segment, so the templates of most paths with a
number or an identifier are not fixed points.
-/

namespace YuFeng.Review

open YuFeng.Library List

variable {segment : Segment} {segments : List Segment}

abbrev Segment := List Char

def between (low high c : Char) : Bool := low.toNat ≤ c.toNat && c.toNat ≤ high.toNat

def isLetter (c : Char) : Bool := between 'A' 'Z' c || between 'a' 'z' c

def isDecimal (c : Char) : Bool := between '0' '9' c

def isHexOrDash (c : Char) : Bool :=
  isDecimal c || between 'a' 'f' c || between 'A' 'F' c || c = '-'

def isPlainChar (c : Char) : Bool :=
  isLetter c || isDecimal c || c = '.' || c = '_' || c = '~' || c = '-'

/-- `^[0-9]+$` -/
def reviewNumericPathSegment (segment : Segment) : Bool := !segment.isEmpty && segment.all isDecimal

def reviewHexPathSegment (segment : Segment) : Bool :=
  12 ≤ segment.length && segment.all isHexOrDash

def reviewStaticPathSegment : Segment → Bool
  | [] => false
  | first :: rest => isLetter first && rest.length ≤ 63 && rest.all isPlainChar

def numberPlaceholder : Segment := [':', 'n', 'u', 'm', 'b', 'e', 'r']

def idPlaceholder : Segment := [':', 'i', 'd']

def valuePlaceholder : Segment := [':', 'v', 'a', 'l', 'u', 'e']

def normalizeSegment (segment : Segment) : Segment :=
  if segment = [] then segment
  else if reviewNumericPathSegment segment then numberPlaceholder
  else if reviewHexPathSegment segment then idPlaceholder
  else if !reviewStaticPathSegment segment then valuePlaceholder
  else segment

def joinSegments (segments : List Segment) : List Char := ['/'].intercalate segments

def templateLimit : Nat := 512

def trafficRouteTemplate (path : String) : String :=
  let path := path.toList.takeWhile (· ≠ '?')
  if path = [] ∨ path = ['/'] then
    "/"
  else
    let joined := joinSegments ((path.splitOn '/').map normalizeSegment)
    let normalized := if joined.head? = some '/' then joined else '/' :: joined
    String.ofList (normalized.take templateLimit)

/-! ## Segments -/

theorem joinSegments_cons_cons (first second rest) :
    joinSegments (first :: second :: rest) =
      first ++ '/' :: joinSegments (second :: rest) := by
  simp [joinSegments, List.intercalate]

@[simp] theorem joinSegments_singleton (segment) : joinSegments [segment] = segment := by
  simp [joinSegments, List.intercalate]

def Clean (segment : Segment) : Prop := '/' ∉ segment ∧ '?' ∉ segment

theorem static_clean (h : reviewStaticPathSegment segment = true) : Clean segment := by
  cases segment with
  | nil => simp [reviewStaticPathSegment] at h
  | cons =>
    simp only [reviewStaticPathSegment, Bool.and_eq_true, all_eq_true] at h
    obtain ⟨⟨letter, -⟩, plain⟩ := h
    constructor
    all_goals
      intro member
      rcases mem_cons.mp member with rfl | later
      · exact absurd letter (by decide)
      · exact absurd (plain _ later) (by decide)

theorem normalizeSegment_clean (segment) : Clean (normalizeSegment segment) := by
  unfold normalizeSegment
  split
  next empty =>
    subst empty
    exact ⟨not_mem_nil, not_mem_nil⟩
  split
  · exact ⟨by decide, by decide⟩
  split
  · exact ⟨by decide, by decide⟩
  split
  · exact ⟨by decide, by decide⟩
  next plain => exact static_clean (by simpa using plain)

def stableSegment (segment : Segment) : Bool :=
  !reviewNumericPathSegment segment && !reviewHexPathSegment segment

theorem normalizeSegment_value : normalizeSegment valuePlaceholder = valuePlaceholder := by
  decide

theorem normalizeSegment_cases (segment) : segment = [] ∨
    reviewNumericPathSegment segment = true ∧ normalizeSegment segment = numberPlaceholder ∨
    reviewNumericPathSegment segment = false ∧ (reviewHexPathSegment segment = true ∧
        normalizeSegment segment = idPlaceholder ∨
      reviewHexPathSegment segment = false ∧ (reviewStaticPathSegment segment = false ∧
          normalizeSegment segment = valuePlaceholder ∨
        reviewStaticPathSegment segment = true ∧ normalizeSegment segment = segment)) := by
  unfold normalizeSegment
  split_ifs <;> simp_all

theorem normalizeSegment_again :
    normalizeSegment (normalizeSegment segment) = normalizeSegment segment ↔
      stableSegment segment = true := by
  unfold stableSegment
  rcases normalizeSegment_cases segment with
    rfl | ⟨numeric, now⟩ | ⟨numeric, ⟨hex, now⟩ | ⟨hex, ⟨plain, now⟩ | ⟨plain, now⟩⟩⟩
  · decide
  · rw [now, numeric, Bool.not_true, Bool.false_and]
    decide
  · rw [now, numeric, hex]
    decide
  · simp [now, normalizeSegment_value, numeric, hex]
  · simp [now, numeric, hex]

/-! ## Cutting -/

def cutSegments : Nat → List Segment → List Segment
  | _, [] => [[]]
  | budget, [segment] => [segment.take budget]
  | budget, segment :: next :: rest =>
    if segment.length < budget then
      segment :: cutSegments (budget - segment.length - 1) (next :: rest)
    else
      [segment.take budget]

variable (budget : Nat)

theorem cutSegments_ne_nil (segments) : cutSegments budget segments ≠ [] := by
  fun_cases cutSegments budget segments <;> simp

theorem joinSegments_cons {rest} (h : rest ≠ []) :
    joinSegments (segment :: rest) = segment ++ '/' :: joinSegments rest := by
  obtain ⟨next, rest, rfl⟩ := exists_cons_of_ne_nil h
  exact joinSegments_cons_cons segment next rest

theorem take_joinSegments (segments) :
    (joinSegments segments).take budget = joinSegments (cutSegments budget segments) := by
  induction segments generalizing budget with
  | nil => simp [cutSegments, joinSegments, List.intercalate]
  | cons segment rest ih =>
    cases rest with
    | nil => simp [cutSegments]
    | cons =>
      rw [joinSegments_cons_cons, cutSegments]
      split
      next inside =>
        obtain ⟨left, rfl⟩ : ∃ left, budget = segment.length + (left + 1) :=
          ⟨budget - segment.length - 1, by omega⟩
        rw [joinSegments_cons (cutSegments_ne_nil _ _), take_length_add_append, take_succ_cons, ih]
        congr 4
        omega
      next outside => rw [take_append_of_le_length (by omega), joinSegments_singleton]

theorem cutSegments_clean {budget} (h : ∀ segment ∈ segments, Clean segment) :
    ∀ piece ∈ cutSegments budget segments, Clean piece := by
  have prefixed : ∀ {segment : Segment} (n : Nat), Clean segment → Clean (segment.take n) := by
    intro segment n clean
    exact ⟨fun member => clean.1 (mem_of_mem_take member),
      fun member => clean.2 (mem_of_mem_take member)⟩
  induction segments generalizing budget with
  | nil => simp [cutSegments, Clean]
  | cons _ rest ih =>
    rw [forall_mem_cons] at h
    cases rest with
    | nil =>
      intro piece member
      simp only [cutSegments, mem_singleton] at member
      rw [member]
      exact prefixed budget h.1
    | cons =>
      intro piece member
      rw [cutSegments] at member
      split at member
      · rcases mem_cons.mp member with rfl | later
        · exact h.1
        · exact ih h.2 piece later
      · rw [mem_singleton] at member
        rw [member]
        exact prefixed budget h.1

theorem splitOn_joinSegments (clean : ∀ segment ∈ segments, Clean segment)
    (nonempty : segments ≠ []) :
    (joinSegments segments).splitOn '/' = segments :=
  splitOn_intercalate '/' (fun segment member => (clean segment member).1) nonempty

/-! ## Fixed points -/

def segmentWidth (segment : Segment) : Nat :=
  if reviewNumericPathSegment segment then 7
  else if reviewHexPathSegment segment then 3
  else if segment ≠ [] ∧ !reviewStaticPathSegment segment then 6
  else segment.length

theorem length_normalizeSegment (segment) :
    (normalizeSegment segment).length = segmentWidth segment := by
  unfold normalizeSegment segmentWidth
  by_cases empty : segment = []
  · subst empty
    rfl
  · simp only [empty, if_false, ne_eq, not_false_eq_true, true_and]
    split
    · rfl
    split
    · rfl
    split <;> rfl

/--
The last segment of a template, of which at most `budget` characters are
kept.  Of a placeholder other than `:value` only the colon may be left, and
what is left of a plain segment must not look like an identifier.
-/
def stablePiece (budget : Nat) (segment : Segment) : Bool :=
  if reviewNumericPathSegment segment || reviewHexPathSegment segment then
    budget ≤ 1
  else
    !reviewStaticPathSegment segment || !reviewHexPathSegment (segment.take budget)

def stableSegments : Nat → List Segment → Bool
  | _, [] => true
  | budget, [segment] => stablePiece budget segment
  | budget, segment :: next :: rest =>
    if segmentWidth segment < budget then
      stableSegment segment && stableSegments (budget - segmentWidth segment - 1) (next :: rest)
    else
      stablePiece budget segment

theorem static_take {budget} (h : reviewStaticPathSegment segment = true) (positive : 0 < budget) :
    reviewStaticPathSegment (segment.take budget) = true := by
  cases segment with
  | nil => simp [reviewStaticPathSegment] at h
  | cons =>
    obtain ⟨budget, rfl⟩ : ∃ n, budget = n + 1 := ⟨budget - 1, by omega⟩
    simp only [reviewStaticPathSegment, Bool.and_eq_true, decide_eq_true_eq,
      all_eq_true, take_succ_cons] at h ⊢
    obtain ⟨⟨letter, short⟩, plain⟩ := h
    refine ⟨⟨letter, ?_⟩, ?_⟩
    · rw [length_take]
      omega
    · intro c member
      exact plain c (mem_of_mem_take member)

theorem static_not_numeric (h : reviewStaticPathSegment segment = true) :
    reviewNumericPathSegment segment = false := by
  cases segment with
  | nil => rfl
  | cons first =>
    simp only [reviewStaticPathSegment, Bool.and_eq_true] at h
    obtain ⟨⟨letter, -⟩, -⟩ := h
    have notDecimal : isDecimal first = false := by
      simp only [isLetter, isDecimal, between, Bool.or_eq_true,
        Bool.and_eq_true, decide_eq_true_eq, Bool.and_eq_false_iff,
        decide_eq_false_iff_not] at letter ⊢
      have nine : '9'.toNat = 57 := rfl
      have upper : 'A'.toNat = 65 := rfl
      have lower : 'a'.toNat = 97 := rfl
      omega
    simp [reviewNumericPathSegment, notDecimal]

theorem static_no_colon {rest} : reviewStaticPathSegment (':' :: rest) = false := by
  have colon : isLetter ':' = false := by decide
  simp [reviewStaticPathSegment, colon]

theorem normalizeSegment_static (h : reviewStaticPathSegment segment = true) :
    normalizeSegment segment =
      if reviewHexPathSegment segment then idPlaceholder else segment := by
  have nonempty : segment ≠ [] := by
    rintro rfl
    simp [reviewStaticPathSegment] at h
  simp [normalizeSegment, nonempty, static_not_numeric h, h]

theorem placeholder_piece : ∀ place ∈ [numberPlaceholder, idPlaceholder, valuePlaceholder],
      ((normalizeSegment (place.take budget)).take budget = place.take budget ↔
        place = valuePlaceholder ∨ budget ≤ 1) := by
  match budget with
  | 0 | 1 | 2 | 3 | 4 | 5 | 6 | 7 => decide
  | n + 8 =>
    intro place known
    have whole : place.length ≤ 8 ∧ normalizeSegment place = valuePlaceholder := by
      revert place
      decide
    rw [take_of_length_le (l := place) (by omega), whole.2,
      take_of_length_le (by simp [valuePlaceholder])]
    simp [eq_comm]

theorem normalizeSegment_piece (segment) :
    (normalizeSegment ((normalizeSegment segment).take budget)).take budget =
        (normalizeSegment segment).take budget ↔
      stablePiece budget segment = true := by
  rcases normalizeSegment_cases segment with
    rfl | ⟨numeric, now⟩ | ⟨numeric, ⟨hex, now⟩ | ⟨hex, ⟨plain, now⟩ | ⟨plain, now⟩⟩⟩
  · have plain : stablePiece budget [] = true := by
      simp [stablePiece, reviewNumericPathSegment, reviewHexPathSegment, reviewStaticPathSegment]
    simp [plain, normalizeSegment]
  · rw [now, placeholder_piece budget _ (by simp)]
    simp [stablePiece, numeric, numberPlaceholder, valuePlaceholder]
  · rw [now, placeholder_piece budget _ (by simp)]
    simp [stablePiece, hex, idPlaceholder, valuePlaceholder]
  · rw [now, placeholder_piece budget _ (by simp)]
    simp [stablePiece, numeric, hex, plain]
  · have kept : stablePiece budget segment = !reviewHexPathSegment (segment.take budget) := by
      simp [stablePiece, numeric, hex, plain]
    rw [now, kept]
    cases budget with
    | zero => simp [reviewHexPathSegment]
    | succ budget =>
      rw [normalizeSegment_static (static_take plain (by omega))]
      cases piece : reviewHexPathSegment (segment.take (budget + 1)) with
      | false => simp [take_take]
      | true =>
        cases segment with
        | nil => cases piece
        | cons first =>
          have letter : first ≠ ':' := by
            rintro rfl
            simp [static_no_colon] at plain
          simp [idPlaceholder, Ne.symm letter]

theorem take_slash_iff {first second rest rest' left} (h : '/' ∉ first) (h' : '/' ∉ second) :
    (first ++ '/' :: rest).take (second.length + (left + 1)) = second ++ '/' :: rest' ↔
      first = second ∧ rest.take left = rest' := by
  constructor
  · intro same
    by_cases short : first.length < second.length + (left + 1)
    · obtain ⟨more, budget⟩ : ∃ more, second.length + (left + 1) =
          first.length + (more + 1) :=
        ⟨second.length + left - first.length, by omega⟩
      rw [budget, take_length_add_append, take_succ_cons] at same
      obtain ⟨rfl, rest⟩ := append_cons_inj h h' same
      exact ⟨rfl, by rw [← rest]; congr 1; omega⟩
    · rw [take_append_of_le_length (by omega)] at same
      have slash : '/' ∈ first.take (second.length + (left + 1)) := by
        rw [same]
        simp
      exact absurd (mem_of_mem_take slash) h
  · rintro ⟨rfl, rfl⟩
    rw [take_length_add_append, take_succ_cons]

theorem stableSegments_iff (segments) : (joinSegments ((cutSegments budget
        (segments.map normalizeSegment)).map normalizeSegment)).take budget =
        joinSegments (cutSegments budget (segments.map normalizeSegment)) ↔
      stableSegments budget segments = true := by
  induction segments generalizing budget with
  | nil => simp [cutSegments, stableSegments, normalizeSegment]
  | cons segment rest ih =>
    cases rest with
    | nil =>
      simp only [map_cons, map_nil, cutSegments, joinSegments_singleton, stableSegments]
      exact normalizeSegment_piece budget segment
    | cons =>
      simp only [map_cons, cutSegments, stableSegments, length_normalizeSegment]
      split
      next inside =>
        obtain ⟨left, budgeted⟩ : ∃ left, budget = segmentWidth segment + (left + 1) :=
          ⟨budget - segmentWidth segment - 1, by omega⟩
        have remaining : budget - segmentWidth segment - 1 = left := by
          omega
        rw [remaining, map_cons, joinSegments_cons (by
            simp [cutSegments_ne_nil]),
          joinSegments_cons (cutSegments_ne_nil _ _), budgeted, ← length_normalizeSegment,
          take_slash_iff (normalizeSegment_clean _).1
            (normalizeSegment_clean _).1, normalizeSegment_again,
          Bool.and_eq_true]
        exact and_congr_right fun _ => ih left
      · simp only [map_cons, map_nil, joinSegments_singleton]
        exact normalizeSegment_piece budget segment

def pathSegments (path : String) : List Segment :=
  let segments := (path.toList.takeWhile (· ≠ '?')).splitOn '/'
  if segments.head? = some [] ∧ segments.length ≠ 1 then segments
  else [] :: segments

theorem normalizeSegment_ne_nil (h : segment ≠ []) : normalizeSegment segment ≠ [] := by
  unfold normalizeSegment
  rw [if_neg h]
  split
  · decide
  split
  · decide
  split
  · decide
  · exact h

/-- A text that starts with a non-empty segment does not start with a
slash. -/
theorem head?_joinSegments {first rest} (nonempty : first ≠ []) (clean : Clean first) :
    (joinSegments (first :: rest)).head? ≠ some '/' := by
  obtain ⟨c, cs, rfl⟩ := exists_cons_of_ne_nil nonempty
  have different : c ≠ '/' := by
    rintro rfl
    exact clean.1 mem_cons_self
  cases rest with
  | nil => simpa using different
  | cons =>
    rw [joinSegments_cons_cons]
    simpa using different

variable (path : String)

theorem trafficRouteTemplate_toList : (trafficRouteTemplate path).toList =
      (joinSegments ((pathSegments path).map normalizeSegment)).take
        templateLimit := by
  unfold trafficRouteTemplate pathSegments
  generalize path.toList.takeWhile (· ≠ '?') = text
  dsimp only
  split
  next short => rcases short with rfl | rfl <;> decide
  rename_i long
  rw [String.toList_ofList]
  congr 1
  have joined : joinSegments (text.splitOn '/') = text := intercalate_splitOn '/'
  obtain ⟨first, rest, split⟩ := exists_cons_of_ne_nil (splitOn_ne_nil '/' text)
  rw [split] at joined ⊢
  by_cases empty : first = []
  · subst empty
    cases rest with
    | nil =>
      rw [joinSegments_singleton] at joined
      exact absurd (.inl joined.symm) long
    | cons =>
      have start : normalizeSegment [] = [] := rfl
      rw [map_cons, map_cons, start, joinSegments_cons_cons, if_pos (by simp), if_pos (by simp)]
      simp [start, joinSegments_cons_cons]
  · rw [map_cons, if_neg (head?_joinSegments
        (normalizeSegment_ne_nil empty) (normalizeSegment_clean first)),
      if_neg (by simp [empty]), map_cons, map_cons]
    rw [joinSegments_cons_cons]
    rfl

theorem cutSegments_rooted {budget} (positive : 0 < budget) {next rest} :
    ∃ piece pieces, cutSegments budget ([] :: next :: rest) = [] :: piece :: pieces := by
  rw [cutSegments, if_pos (by simpa using positive)]
  obtain ⟨piece, pieces, cut⟩ := exists_cons_of_ne_nil
    (cutSegments_ne_nil (budget - ([] : Segment).length - 1) (next :: rest))
  exact ⟨piece, pieces, by rw [cut]⟩

theorem pathSegments_rooted : ∃ next rest, pathSegments path = [] :: next :: rest := by
  unfold pathSegments
  dsimp only
  obtain ⟨first, rest, split⟩ := exists_cons_of_ne_nil
    (splitOn_ne_nil '/' (path.toList.takeWhile (· ≠ '?')))
  rw [split]
  split
  next rooted =>
    cases rest with
    | nil => simp at rooted
    | cons next rest =>
      obtain rfl : first = [] := by simpa using rooted.1
      exact ⟨next, rest, rfl⟩
  · exact ⟨first, rest, rfl⟩

theorem joinSegments_unqueried (clean : ∀ segment ∈ segments, Clean segment) :
    ∀ c ∈ joinSegments segments, c ≠ '?' := by
  induction segments with
  | nil => simp [joinSegments, List.intercalate]
  | cons segment rest ih =>
    rw [forall_mem_cons] at clean
    have here : ∀ c ∈ segment, c ≠ '?' := by
      rintro c member rfl
      exact clean.1.2 member
    cases rest with
    | nil => simpa using here
    | cons =>
      intro c member
      rw [joinSegments_cons_cons] at member
      rcases mem_append.mp member with first | later
      · exact here c first
      · rcases mem_cons.mp later with rfl | later
        · decide
        · exact ih clean.2 c later

theorem pathSegments_template : pathSegments (trafficRouteTemplate path) = cutSegments templateLimit
        ((pathSegments path).map normalizeSegment) := by
  obtain ⟨next, rest, rooted⟩ := pathSegments_rooted path
  obtain ⟨piece, pieces, cut⟩ := @cutSegments_rooted templateLimit
    (by decide) (normalizeSegment next) (rest.map normalizeSegment)
  have start : normalizeSegment [] = [] := rfl
  have segments : cutSegments templateLimit
      ((pathSegments path).map normalizeSegment) = [] :: piece :: pieces := by
    rw [rooted, map_cons, map_cons, start, cut]
  have clean : ∀ segment ∈ ([] :: piece :: pieces : List Segment), Clean segment := by
    rw [← segments]
    apply cutSegments_clean
    intro segment member
    obtain ⟨old, -, rfl⟩ := mem_map.mp member
    exact normalizeSegment_clean old
  have text : (trafficRouteTemplate path).toList = joinSegments ([] :: piece :: pieces) := by
    rw [trafficRouteTemplate_toList, take_joinSegments, segments]
  have whole : (trafficRouteTemplate path).toList.takeWhile (· ≠ '?') =
      joinSegments ([] :: piece :: pieces) := by
    rw [text, takeWhile_eq_self_iff]
    intro c member
    have different := joinSegments_unqueried clean c member
    simpa using different
  rw [segments, pathSegments, whole, splitOn_joinSegments clean (by simp)]
  simp

/-- A template is a fixed point exactly if no segment of the path within the
limit turns into another placeholder. -/
theorem trafficRouteTemplate_idem_iff :
    trafficRouteTemplate (trafficRouteTemplate path) = trafficRouteTemplate path ↔
      stableSegments templateLimit (pathSegments path) = true := by
  rw [← stableSegments_iff, ← String.toList_inj, trafficRouteTemplate_toList,
    pathSegments_template, trafficRouteTemplate_toList path,
    take_joinSegments templateLimit ((pathSegments path).map normalizeSegment)]

end YuFeng.Review
