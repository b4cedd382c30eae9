import YuFeng.Edge.View
import YuFeng.Library.Percent

/-!
# Canonical paths

A path is percent-decoded round by round and then normalized.  The normal form
has one slash before each segment and no segment that stands for another
place.  Each round looks for encoded slashes before it decodes, so that no
slash comes out of an escape unseen; what the last round leaves is not looked
at.
-/

namespace YuFeng.Edge

open YuFeng.Library List

variable {segments : List String} {H : Http} {profile : HttpInspectionProfile}
  {rounds : Nat} {path : String}

/-! ## Segments -/

theorem not_mem_splitOn {c} {cs segment : List Char} (h : segment ∈ cs.splitOn c) :
    c ∉ segment := by
  by_cases member : c ∈ cs
  · obtain ⟨_, later, rfl, plain⟩ := eq_append_cons_of_mem member
    rw [splitOn_append_cons_self_of_not_mem plain, mem_cons] at h
    rcases h with rfl | h
    · exact plain
    · exact not_mem_splitOn h
  · rw [splitOn_eq_singleton member, mem_singleton] at h
    rwa [h]
termination_by cs.length

structure Proper (segment : String) : Prop where
  unbroken : '/' ∉ segment.toList
  filled : segment ≠ ""
  notHere : segment ≠ "."
  notUp : segment ≠ ".."

theorem normalizeSegments_proper {kept} (stack : ∀ segment ∈ kept, Proper segment)
    (unbroken : ∀ segment ∈ segments, '/' ∉ segment.toList) :
    ∀ segment ∈ normalizeSegments kept segments, Proper segment := by
  fun_induction normalizeSegments kept segments with
  | case1 kept => exact stack
  | case2 kept segment segments skipped ih =>
    exact ih stack fun other later =>
      unbroken other (mem_cons_of_mem segment later)
  | case3 kept segments _ ih =>
    refine ih (fun segment member => ?_) fun other later =>
      unbroken other (mem_cons_of_mem _ later)
    exact stack segment (dropLast_subset kept member)
  | case4 kept segment segments kind notUp ih =>
    rw [forall_mem_cons] at unbroken
    refine ih (fun other member => ?_) unbroken.2
    rcases mem_append.mp member with before | last
    · exact stack other before
    · obtain rfl := mem_singleton.mp last
      rw [not_or] at kind
      exact ⟨unbroken.1, kind.1, kind.2, notUp⟩

theorem normalizeSegments_of_proper {kept} (h : ∀ segment ∈ segments, Proper segment) :
    normalizeSegments kept segments = kept ++ segments := by
  induction segments generalizing kept with
  | nil => simp [normalizeSegments]
  | cons _ _ ih =>
    rw [forall_mem_cons] at h
    rw [normalizeSegments, if_neg (by simp [h.1.filled, h.1.notHere]), if_neg h.1.notUp, ih h.2]
    simp

def pathSegments (path : String) : List String := normalizeSegments [] (splitText '/' path)

theorem pathSegments_proper (path) : ∀ segment ∈ pathSegments path, Proper segment := by
  apply normalizeSegments_proper (by simp)
  intro segment member
  obtain ⟨chars, part, rfl⟩ := mem_map.mp member
  simpa using not_mem_splitOn part

def joinPath (segments : List String) : String := "/" ++ "/".intercalate segments

theorem splitText_joinPath (h : ∀ segment ∈ segments, Proper segment) :
    splitText '/' (joinPath segments) = "" :: (if segments = [] then [""] else segments) := by
  cases segments with
  | nil => decide
  | cons segment segments =>
    have joined : (joinPath (segment :: segments)).toList =
        ['/'].intercalate ([] :: (segment :: segments).map String.toList) := by
      simp [joinPath, String.toList_intercalate, intercalate_cons_cons]
    rw [splitText, joined, splitOn_intercalate]
    · simp [Function.comp_def]
    · intro chars member
      rcases mem_cons.mp member with rfl | member
      · simp
      · obtain ⟨other, present, rfl⟩ := mem_map.mp member
        exact (h other present).unbroken
    · simp

theorem pathSegments_joinPath (h : ∀ segment ∈ segments, Proper segment) :
    pathSegments (joinPath segments) = segments := by
  rw [pathSegments, splitText_joinPath h, normalizeSegments, if_pos (.inl rfl)]
  split
  next root =>
    rw [root]
    rfl
  · rw [normalizeSegments_of_proper h, nil_append]

theorem normalizePath_eq (path) : normalizePath path = joinPath (pathSegments path) := rfl

theorem normalizePath_idem (path) : normalizePath (normalizePath path) = normalizePath path := by
  rw [normalizePath_eq path, normalizePath_eq, pathSegments_joinPath (pathSegments_proper path)]

/-! ## The normal form -/

structure NormalPath (path : String) : Prop where
  rooted : path.toList.head? = some '/'
  segments : path ≠ "/" → ∀ segment ∈ (splitText '/' path).tail,
    segment ≠ "" ∧ segment ≠ "." ∧ segment ≠ ".."
  ending : path.toList.getLast? = some '/' → path = "/"

theorem joinPath_ending (h : ∀ segment ∈ segments, Proper segment)
    (ending : (joinPath segments).toList.getLast? = some '/') :
    segments = [] := by
  rcases eq_nil_or_concat segments with none | ⟨front, last, rfl⟩
  · exact none
  · have proper := h last (by simp)
    have tail : ∀ (front : List (List Char)) (chars : List Char),
        ∃ before, ['/'].intercalate (front ++ [chars]) = before ++ chars := by
      intro front chars
      induction front with
      | nil => exact ⟨[], by simp⟩
      | cons first front ih =>
        obtain ⟨before, joined⟩ := ih
        cases front with
        | nil => exact ⟨first ++ ['/'], by simp [intercalate_cons_cons]⟩
        | cons =>
          refine ⟨first ++ ['/'] ++ before, ?_⟩
          rw [cons_append, cons_append, intercalate_cons_cons, ← cons_append, joined]
          simp
    obtain ⟨before, joined⟩ := tail (front.map String.toList) last.toList
    have chars : (joinPath (front.concat last)).toList = '/' :: (before ++ last.toList) := by
      simp [joinPath, String.toList_intercalate, ← joined]
    have filled : last.toList ≠ [] := by
      simpa using proper.filled
    rw [chars, ← cons_append, getLast?_append_of_ne_nil _ filled] at ending
    exact absurd (mem_of_mem_getLast? ending) proper.unbroken

theorem normalizePath_normal (path) : NormalPath (normalizePath path) := by
  have proper := pathSegments_proper path
  rw [normalizePath_eq]
  refine ⟨by simp [joinPath], fun other => ?_, fun ending => ?_⟩
  · rw [splitText_joinPath proper, tail_cons]
    split
    next root =>
      rw [root] at other
      exact absurd rfl other
    · intro segment member
      have own := proper segment member
      exact ⟨own.filled, own.notHere, own.notUp⟩
  · rw [joinPath_ending proper ending]
    rfl

/-! ## Where slashes come from -/

theorem hasEncodedSlash_cons (c cs) :
    hasEncodedSlash (String.ofList (c :: cs)) =
      (['%', '2', 'f'].isPrefixOf ((c :: cs).map Char.toLower) ||
        hasEncodedSlash (String.ofList cs)) := by
  simp [hasEncodedSlash, hasSubstring, toLower]

theorem unescapeMarked_slash {before after} (decoded : unescapeMarked before = some after)
    (free : hasEncodedSlash (String.ofList before.chars) = false)
    (written : ∀ entry ∈ before, entry.1 = '/' → entry.2 = false) :
    ∀ entry ∈ after, entry.1 = '/' → entry.2 = false := by
  fun_induction unescapeMarked before generalizing after with
  | case1 =>
    cases decoded
    simp
  | case2 mark high low rest failed | case4 mark rest short => cases decoded
  | case3 mark high low rest c digits ih =>
    obtain ⟨tail, decodedTail, rfl⟩ := Option.map_eq_some_iff.mp decoded
    simp only [chars_cons, hasEncodedSlash_cons, Bool.or_eq_false_iff] at free
    simp only [forall_mem_cons] at written ⊢
    refine ⟨fun slash => ?_, ih decodedTail free.2.2.2 written.2.2.2⟩
    subst slash
    obtain ⟨two, f⟩ := escaped_slash digits
    rcases f with f | f <;> simp [two, f] at free
  | case5 c rest _ _ ih =>
    obtain ⟨tail, decodedTail, rfl⟩ := Option.map_eq_some_iff.mp decoded
    rw [chars_cons, hasEncodedSlash_cons, Bool.or_eq_false_iff] at free
    rw [forall_mem_cons] at written ⊢
    exact ⟨written.1, ih decodedTail free.2 written.2⟩

/-- The rounds of `decodePath`, with the origin of each character. -/
def decodeMarked : Nat → Marked → Marked
  | 0, path => path
  | rounds + 1, path =>
    match unescapeMarked path with
    | none => path
    | some decoded =>
      if decoded.chars = path.chars then path
      else decodeMarked rounds decoded

theorem decodePath_marked (go : H.pathUnescape = pathUnescape) (profile rounds path) (rejected) :
    (decodePath H profile rounds (String.ofList path.chars) rejected).1 =
      String.ofList (decodeMarked rounds path).chars := by
  induction rounds generalizing path rejected with
  | zero => rfl
  | succ _ ih =>
    have text := unescapeMarked_chars path
    rw [decodePath, decodeMarked, go, pathUnescape, String.toList_ofList, ← text]
    cases unescapeMarked path with
    | none => rfl
    | some decoded =>
      simp only [Option.map_some, String.ofList_inj]
      split
      · rfl
      · exact ih decoded _

theorem decodePath_rejected (H profile rounds path) :
    (decodePath H profile rounds path true).2 = true := by
  induction rounds generalizing path with
  | zero => rfl
  | succ _ ih =>
    rw [decodePath, Bool.true_or]
    split
    · rfl
    · split
      · rfl
      · exact ih _

theorem decodeMarked_slash (go : H.pathUnescape = pathUnescape)
    (reject : profile.encodedSlash = "reject") {path}
    (accepted : (decodePath H profile rounds (String.ofList path.chars) false).2 = false)
    (written : ∀ entry ∈ path, entry.1 = '/' → entry.2 = false) :
    ∀ entry ∈ decodeMarked rounds path, entry.1 = '/' → entry.2 = false := by
  induction rounds generalizing path with
  | zero => exact written
  | succ _ ih =>
    have text := unescapeMarked_chars path
    rw [decodePath, go, pathUnescape, String.toList_ofList, ← text] at accepted
    rw [decodeMarked]
    cases step : unescapeMarked path with
    | none => exact written
    | some =>
      simp only [step, Option.map_some, String.ofList_inj, reject,
        decide_true, Bool.and_true, Bool.false_or] at accepted
      cases free : hasEncodedSlash (String.ofList path.chars) with
      | true =>
        rw [free] at accepted
        split at accepted
        · cases accepted
        · rw [decodePath_rejected] at accepted
          cases accepted
      | false =>
        rw [free] at accepted
        dsimp only
        split
        · exact written
        next changed =>
          rw [if_neg changed] at accepted
          exact ih accepted (unescapeMarked_slash step free written)

/-! ## The path of a view -/

def startPath (rawPath : String) : String :=
  if rawPath = "" then "/" else rawPath

def shownPath (profile : HttpInspectionProfile) (path : String) : String :=
  if profile.normalizePath then normalizePath path else path

theorem canonicalize_path (H method rawPath rawQuery headers body profile) :
    (canonicalize H method rawPath rawQuery headers body profile).path =
      shownPath profile (decodePath H profile
        profile.percentDecodeRounds.toNat (startPath rawPath) false).1 := rfl

theorem canonicalize_accepted {method rawPath rawQuery headers body}
    (h : (canonicalize H method rawPath rawQuery headers body profile).rejected = false) :
    (decodePath H profile profile.percentDecodeRounds.toNat
      (startPath rawPath) false).2 = false := by
  simp only [canonicalize, Bool.or_eq_false_iff] at h
  exact h.1.1.1.1

def decodedPath (profile : HttpInspectionProfile) (rawPath : String) : Marked :=
  decodeMarked profile.percentDecodeRounds.toNat (unmarked (startPath rawPath).toList)

theorem path_normal_form (H : Http) (go : H.pathUnescape = pathUnescape) :
    (∀ path : String, NormalPath (normalizePath path) ∧
      normalizePath (normalizePath path) = normalizePath path) ∧
    ∀ (method rawPath rawQuery : String) (headers : Values) (body : Bytes)
      (profile : HttpInspectionProfile),
      profile.encodedSlash = "reject" → profile.normalizePath = true →
      (canonicalize H method rawPath rawQuery headers body profile).rejected = false →
      (canonicalize H method rawPath rawQuery headers body profile).path =
        normalizePath (String.ofList (decodedPath profile rawPath).chars) ∧
      ∀ entry ∈ decodedPath profile rawPath, entry.1 = '/' → entry.2 = false := by
  refine ⟨fun path => ⟨normalizePath_normal path, normalizePath_idem path⟩, ?_⟩
  intro method rawPath rawQuery headers body profile reject normal accepted
  have start : startPath rawPath = String.ofList (unmarked (startPath rawPath).toList).chars := by
    simp
  constructor
  · rw [canonicalize_path, shownPath, if_pos normal, start, decodePath_marked go, decodedPath]
  · have path := canonicalize_accepted accepted
    rw [start] at path
    apply decodeMarked_slash go reject path
    simp [unmarked]

def pathHttp : Http where
  pathUnescape := pathUnescape
  queryUnescape := some
  parseQuery _ := some []
  inflate _ _ _ := none
  jsonTokens _ := []
  jsonConverts _ := true
  boundary _ := none
  parts _ _ := []
  profileDigest _ := ""

theorem path_normal_form_dots :
    (canonicalize pathHttp "GET" "/a/%252e%252e/b%20c" "" [] []
      defaultInspectionProfile).path = "/b c" ∧
    NormalPath (normalizePath "/a/../b c") ∧
    ∀ entry ∈ decodedPath defaultInspectionProfile "/a/%252e%252e/b%20c",
      entry.1 = '/' → entry.2 = false :=
  ⟨by decide +kernel, ((path_normal_form pathHttp rfl).1 "/a/../b c").1,
    ((path_normal_form pathHttp rfl).2 "GET" "/a/%252e%252e/b%20c" "" [] []
      defaultInspectionProfile rfl rfl (by decide +kernel)).2⟩

/-! ## Slashes that no round looks at -/

def layer (H : Http) : Nat → String → Option String
  | 0, path => some path
  | rounds + 1, path => (H.pathUnescape path).bind (layer H rounds)

/--
The path has an encoded slash after exactly as many rounds as the profile
makes, and before none of them.
-/
def HiddenSlash (H : Http) (profile : HttpInspectionProfile) (rawPath : String) : Prop :=
  (∃ text, layer H profile.percentDecodeRounds.toNat (startPath rawPath) = some text ∧
      hasEncodedSlash (shownPath profile text) = true) ∧
  ∀ round < profile.percentDecodeRounds.toNat,
    ∀ text, layer H round (startPath rawPath) = some text → hasEncodedSlash text = false

theorem layer_fixed (fixed : H.pathUnescape path = some path) (rounds : Nat) :
    layer H rounds path = some path := by
  induction rounds with
  | zero => rfl
  | succ _ ih => rw [layer, fixed, Option.bind_some, ih]

theorem layer_forall_succ {decoded : String} {P : String → Prop}
    (step : H.pathUnescape path = some decoded) :
    (∀ round < rounds + 1, ∀ text, layer H round path = some text → P text) ↔ P path ∧
        ∀ round < rounds, ∀ text, layer H round decoded = some text → P text := by
  constructor
  · intro all
    refine ⟨all 0 (by omega) path rfl, fun round below text reached => ?_⟩
    apply all (round + 1) (by omega)
    rw [layer, step, Option.bind_some, reached]
  · rintro ⟨first, later⟩ round below text reached
    cases round with
    | zero =>
      cases reached
      exact first
    | succ round =>
      rw [layer, step, Option.bind_some] at reached
      exact later round (by omega) text reached

/--
A path is accepted when every round decodes it and none sees an encoded slash;
what the last round leaves is the decoded path.
-/
theorem decodePath_accepted (reject : profile.encodedSlash = "reject") {text} :
    decodePath H profile rounds path false = (text, false) ↔ layer H rounds path = some text ∧
      ∀ round < rounds, ∀ earlier, layer H round path = some earlier →
        hasEncodedSlash earlier = false := by
  induction rounds generalizing path with
  | zero => simp [decodePath, layer]
  | succ rounds ih =>
    cases step : H.pathUnescape path with
    | none => simp [decodePath, layer, step]
    | some decoded =>
      rw [layer_forall_succ step, layer, step, Option.bind_some]
      simp only [decodePath, step, reject, decide_true, Bool.and_true, Bool.false_or]
      by_cases fixed : decoded = path
      · subst fixed
        simp only [if_true, layer_fixed step, Prod.mk.injEq,
          Option.some.injEq, and_congr_right_iff, iff_self_and]
        rintro _ free round below earlier reached
        rw [← reached]
        exact free
      · rw [if_neg fixed]
        cases free : hasEncodedSlash path with
        | true =>
          have kept := decodePath_rejected H profile rounds decoded
          simp only [Bool.true_eq_false, false_and, and_false, iff_false]
          intro same
          rw [same] at kept
          cases kept
        | false =>
          rw [ih]
          simp

theorem canonicalQuery_empty (plain : H.parseQuery "" = some []) (profile) :
    (canonicalQuery H profile "").2 = false := by
  have none : foldDuplicates profile.duplicateQuery [] = [] := by
    simp [foldDuplicates]
  simp [canonicalQuery, plain, none, malformedQuery]
  omega

theorem canonicalize_bare (plain : H.parseQuery "" = some []) (method rawPath profile) :
    (canonicalize H method rawPath "" [] [] profile).rejected =
      (decodePath H profile profile.percentDecodeRounds.toNat (startPath rawPath) false).2 := by
  have query := canonicalQuery_empty plain profile
  have headers : headersRejected profile [] = false := by
    simp [headersRejected, headerVal, headerVals]
    omega
  have body : decodeBody H profile [] [] = ⟨[], false, false⟩ := rfl
  have content : (checkContent H profile [] []).2 = false := rfl
  simp [canonicalize, startPath, query, headers, body, content]

theorem encoded_slash_caught_iff (H : Http) (plain : H.parseQuery "" = some [])
    (rawPath : String) (profile : HttpInspectionProfile)
    (reject : profile.encodedSlash = "reject") :
    (∀ (method rawQuery : String) (headers : Values) (body : Bytes),
      (canonicalize H method rawPath rawQuery headers body profile).rejected = false →
      hasEncodedSlash (canonicalize H method rawPath rawQuery headers body profile).path = false) ↔
    ¬HiddenSlash H profile rawPath := by
  constructor
  · rintro caught ⟨⟨text, last, slash⟩, free⟩
    have decoded := (decodePath_accepted reject).mpr ⟨last, free⟩
    have missed := caught "GET" "" [] []
    rw [canonicalize_bare plain, canonicalize_path, decoded, slash] at missed
    cases missed rfl
  · intro shown method rawQuery headers body accepted
    have decoded : decodePath H profile profile.percentDecodeRounds.toNat
        (startPath rawPath) false = (_, false) :=
      Prod.ext rfl (canonicalize_accepted accepted)
    obtain ⟨last, free⟩ := (decodePath_accepted reject).mp decoded
    rw [canonicalize_path, Bool.eq_false_iff]
    intro slash
    exact shown ⟨⟨_, last, slash⟩, free⟩

theorem encoded_slash_caught_iff_twice :
    (∀ (method rawQuery : String) (headers : Values) (body : Bytes),
      (canonicalize pathHttp method "/a%252fb" rawQuery headers body
        defaultInspectionProfile).rejected = false →
      hasEncodedSlash (canonicalize pathHttp method "/a%252fb" rawQuery
        headers body defaultInspectionProfile).path = false) ↔
    ¬HiddenSlash pathHttp defaultInspectionProfile "/a%252fb" :=
  encoded_slash_caught_iff pathHttp rfl "/a%252fb" defaultInspectionProfile rfl

/-- A slash encoded three times passes the two rounds of the default. -/
theorem encoded_slash_hidden :
    (canonicalize pathHttp "GET" "/a%25252fb" "" [] [] defaultInspectionProfile).rejected = false ∧
    defaultInspectionProfile.encodedSlash = "reject" ∧
    (canonicalize pathHttp "GET" "/a%25252fb" "" [] [] defaultInspectionProfile).path = "/a%2fb" ∧
    hasEncodedSlash (canonicalize pathHttp "GET" "/a%25252fb" "" [] []
      defaultInspectionProfile).path = true := by
  decide +kernel

end YuFeng.Edge
