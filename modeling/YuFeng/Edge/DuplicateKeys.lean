import YuFeng.Edge.Paths

/-!
# Duplicate JSON keys

`hasDuplicateJSONKey` walks over the members of the outermost object and lets
the decoder take their values, which keeps the last of several members of one
name and says nothing.
-/

namespace YuFeng.Edge

open YuFeng.Library YuFeng.Library.Json

variable {H : Http} {profile : HttpInspectionProfile} {body : Bytes}

section

variable (converts : String → Bool)

/-! ## What is found -/

def RepeatsKey (seen : List String) (members : List (String × Json)) : Prop :=
  ∃ before key value after, members = before ++ (key, value) :: after ∧
    (key ∈ seen ∨ key ∈ before.map Prod.fst) ∧ ∀ member ∈ before, decodes converts member.2 = true

theorem not_repeatsKey_nil (seen) : ¬RepeatsKey converts seen [] := by
  rintro ⟨before, key, value, after, split, _⟩
  simp at split

theorem repeatsKey_cons (seen key value members) :
    RepeatsKey converts seen ((key, value) :: members) ↔
      key ∈ seen ∨ decodes converts value = true ∧ RepeatsKey converts (key :: seen) members := by
  constructor
  · rintro ⟨before, other, held, after, split, known, decoded⟩
    cases before with
    | nil =>
      cases split
      exact .inl (by simpa using known)
    | cons _ before =>
      cases split
      rw [List.forall_mem_cons] at decoded
      refine .inr ⟨decoded.1, before, other, held, after, rfl, ?_, decoded.2⟩
      simpa [or_assoc, or_comm, or_left_comm] using known
  · rintro (known | ⟨decoded, before, other, held, after, rfl, known, others⟩)
    · exact ⟨[], key, value, members, rfl, .inl known, by simp⟩
    · refine ⟨(key, value) :: before, other, held, after, rfl, ?_, ?_⟩
      · simpa [or_assoc, or_comm, or_left_comm] using known
      · rw [List.forall_mem_cons]
        exact ⟨decoded, others⟩

theorem duplicateMember_step {fuel seen dec key value rest stack} (more : dec.more = true)
    (token : dec.token converts = some (.string key,
      ⟨.colon :: (value.render ++ rest), .objectColon, stack⟩)) :
    duplicateMember converts (fuel + 1) seen dec = true ↔
      key ∈ seen ∨ decodes converts value = true ∧
        duplicateMember converts fuel (key :: seen) ⟨rest, .objectComma, stack⟩ = true := by
  rw [duplicateMember, if_pos more, token]
  simp only [keyText, Decoder.decode_member]
  by_cases known : key ∈ seen
  · simp [known]
  · cases decoded : decodes converts value <;> simp [known]

/-- The walk over the members after the first one. -/
theorem duplicateMember_render (members) (stack) {fuel} (enough : members.length < fuel) (seen) :
    duplicateMember converts fuel seen ⟨renderMembers members, .objectComma, stack⟩ = true ↔
      RepeatsKey converts seen members := by
  induction members generalizing fuel seen with
  | nil =>
    obtain ⟨fuel, rfl⟩ : ∃ n, fuel = n + 1 := ⟨fuel - 1, by omega⟩
    have none := not_repeatsKey_nil converts seen
    simp [duplicateMember, renderMembers, Decoder.more, none]
  | cons member _ ih =>
    obtain ⟨key, value⟩ := member
    obtain ⟨fuel, rfl⟩ : ∃ n, fuel = n + 1 := ⟨fuel - 1, by omega⟩
    rw [repeatsKey_cons, renderMembers, duplicateMember_step converts rfl rfl,
      ih (by simpa using enough)]

theorem length_members_le (members) : members.length ≤ (renderMembers members).length := by
  induction members with
  | nil => simp
  | cons =>
    simp [renderMembers]
    omega

def outerMembers : Json → List (String × Json)
  | .object members => members
  | _ => []

theorem hasDuplicateJSONKey_render (document : Json) :
    hasDuplicateJSONKey converts document.render = true ↔
      RepeatsKey converts [] (outerMembers document) := by
  have none := not_repeatsKey_nil converts []
  match document with
  | .literal text =>
    cases known : converts text <;>
      simp [hasDuplicateJSONKey, render, Decoder.token, Decoder.tokenFrom,
        known, TokenState.valueAllowed, outerMembers, none]
  | .string _ | .array [] | .array (_ :: _) =>
    simp [hasDuplicateJSONKey, render, Decoder.token, Decoder.tokenFrom,
      TokenState.valueAllowed, outerMembers, none]
  | .object [] => simp [hasDuplicateJSONKey, render, Decoder.token,
      Decoder.tokenFrom, TokenState.valueAllowed, duplicateMember, Decoder.more, outerMembers, none]
  | .object ((key, value) :: members) =>
    have few := length_members_le members
    simp only [hasDuplicateJSONKey, render, Decoder.token,
      Decoder.tokenFrom, TokenState.valueAllowed, if_true]
    rw [List.length_cons, duplicateMember_step converts rfl rfl,
      duplicateMember_render converts members _ (by simp; omega), outerMembers, repeatsKey_cons]

end

/-! ## Rejected views -/

/-- Some object of the document has two members of one name. -/
def Duplicated (document : Json) : Prop :=
  ∃ members, .object members ∈ document.subvalues ∧ ¬(members.map Prod.fst).Nodup

/-- All its values convert, and too many of the containers that are kept are inside each other. -/
def TooDeep (converts : String → Bool) (profile : HttpInspectionProfile) (document : Json) : Prop :=
  0 < profile.jsonMaxDepth ∧ decodes converts document = true ∧
    Deep (profile.jsonMaxDepth.toNat + 1) document

def isJson (headers : Values) : Bool :=
  hasSubstring "application/json" (toLower (headerVal headers "Content-Type"))

theorem jsonExceedsDepth_iff {document : Json} (blank : H.jsonTokens [] = [])
    (written : H.jsonTokens body = document.render) :
    (0 < profile.jsonMaxDepth && jsonExceedsDepth H body profile.jsonMaxDepth) = true ↔
      TooDeep H.jsonConverts profile document := by
  have given : body ≠ [] := by
    rintro rfl
    obtain ⟨first, rest, starts, -⟩ := render_cons document
    rw [blank, starts] at written
    cases written
  rw [TooDeep, jsonExceedsDepth, written, unmarshal_render, deep_iff, Bool.and_eq_true,
    decide_eq_true_eq]
  refine and_congr_right fun limited => ?_
  rw [if_neg (by simp [given]; omega)]
  cases decodes H.jsonConverts document with
  | false => simp
  | true =>
    simp only [jsonDepth, if_true, true_and]
    exact decide_eq_true_iff.trans (by omega)

/-- Some check of the JSON text fails. -/
def Refused (H : Http) (profile : HttpInspectionProfile) (body : Bytes) : Prop :=
  hasDuplicateJSONKey H.jsonConverts (H.jsonTokens body) = true ∨
    (0 < profile.jsonMaxDepth && jsonExceedsDepth H body profile.jsonMaxDepth) = true

theorem checkContent_rejected {headers} (json : isJson headers = true)
    (reject : profile.jsonDuplicateKey = "reject") (h : Refused H profile body) :
    (checkContent H profile headers body).2 = true := by
  have found : (profile.jsonDuplicateKey = "reject" && hasDuplicateJSONKey H.jsonConverts
      (H.jsonTokens body) || 0 < profile.jsonMaxDepth &&
        jsonExceedsDepth H body profile.jsonMaxDepth) = true := by
    rcases h with duplicate | deep
    · simp [reject, duplicate]
    · rw [deep, Bool.or_true]
  unfold isJson at json
  simp only [checkContent, json, found, Bool.true_and, Bool.true_or]
  split
  · split <;> rfl
  · rfl

def jsonHeaders : Values := [("Content-Type", ["application/json"])]

theorem checkContent_json (passed : ¬Refused H profile body) :
    (checkContent H profile jsonHeaders body).2 = false := by
  have single : hasSubstring "multipart/"
      (toLower (headerVal jsonHeaders "Content-Type")) = false := by
    decide +kernel
  simp only [Refused, not_or, Bool.not_eq_true] at passed
  simp only [checkContent, single, passed]
  simp

theorem canonicalize_json (slash : H.pathUnescape "/" = some "/")
    (plain : H.parseQuery "" = some []) (passed : ¬Refused H profile body) :
    (canonicalize H "POST" "/" "" jsonHeaders body profile).rejected = false := by
  have path : (decodePath H profile profile.percentDecodeRounds.toNat
      (startPath "/") false).2 = false := by
    have start : startPath "/" = "/" := by decide
    have free : hasEncodedSlash "/" = false := by decide
    rw [start]
    cases profile.percentDecodeRounds.toNat with
    | zero => rfl
    | succ => simp [decodePath, slash, free]
  have query := canonicalQuery_empty plain profile
  have headers : headersRejected profile jsonHeaders = false := by
    have length : headerVal jsonHeaders "Content-Length" = "" := by
      decide +kernel
    have repeated : headerVal jsonHeaders "X-Duplicate-Content-Length" = "" := by
      decide +kernel
    have single : headerVals jsonHeaders "Content-Length" = [] := by
      decide +kernel
    have count : jsonHeaders.length = 1 := rfl
    simp [headersRejected, length, repeated, single, count]
    omega
  have body : decodeBody H profile jsonHeaders body = ⟨body, false, false⟩ := by
    have none : toLower (headerVal jsonHeaders "Content-Encoding") = "" := by
      decide +kernel
    simp [decodeBody, none]
  have content := checkContent_json passed
  unfold startPath at path
  simp only [canonicalize, path, query, headers, body, content, Bool.or_false]

theorem duplicate_key_rejected_iff (H : Http) (slash : H.pathUnescape "/" = some "/")
    (plain : H.parseQuery "" = some []) (blank : H.jsonTokens [] = [])
    (document : Json) (text : Bytes) (written : H.jsonTokens text = document.render)
    (profile : HttpInspectionProfile) (reject : profile.jsonDuplicateKey = "reject") :
    (Duplicated document → ∀ (method rawPath rawQuery : String) (headers : Values) (body : Bytes),
        isJson headers = true → (decodeBody H profile headers body).body = text →
        (canonicalize H method rawPath rawQuery headers body profile).rejected = true) ↔
    (Duplicated document → RepeatsKey H.jsonConverts [] (outerMembers document) ∨
        TooDeep H.jsonConverts profile document) := by
  rw [← hasDuplicateJSONKey_render, ← jsonExceedsDepth_iff blank written, ← written]
  refine imp_congr_right fun _ => ⟨fun all => ?_, fun seen => ?_⟩
  · by_contra unseen
    have accepted := canonicalize_json slash plain unseen
    have rejected := all "POST" "/" "" jsonHeaders text (by decide +kernel) rfl
    rw [accepted] at rejected
    cases rejected
  · intro method rawPath rawQuery headers body json decoded
    have content := checkContent_rejected json reject seen
    simp [canonicalize, decoded, content]

def nestedDocument : Json :=
  .object [("user", .object [("role", .string "guest"), ("role", .string "admin")])]

def nestedText : Bytes :=
  asciiBytes ("\x7b\"user\":\x7b\"role\":\"guest\"," ++ "\"role\":\"admin\"\x7d\x7d")

def nestedHttp : Http :=
  { pathHttp with
    jsonTokens := fun body => if body = nestedText then nestedDocument.render else [] }

theorem duplicate_key_rejected_iff_nested : (Duplicated nestedDocument →
      ∀ (method rawPath rawQuery : String) (headers : Values) (body : Bytes),
        isJson headers = true →
        (decodeBody nestedHttp defaultInspectionProfile headers body).body = nestedText →
        (canonicalize nestedHttp method rawPath rawQuery headers body
          defaultInspectionProfile).rejected = true) ↔
    (Duplicated nestedDocument → RepeatsKey (fun _ => true) [] (outerMembers nestedDocument) ∨
        TooDeep (fun _ => true) defaultInspectionProfile nestedDocument) :=
  duplicate_key_rejected_iff nestedHttp (by decide) rfl rfl nestedDocument nestedText rfl
    defaultInspectionProfile rfl

/-- The default profile lets two roles of one user pass. -/
theorem nested_duplicate_accepted :
    Duplicated nestedDocument ∧ nestedHttp.jsonTokens nestedText = nestedDocument.render ∧
    isJson jsonHeaders = true ∧ defaultInspectionProfile.jsonDuplicateKey = "reject" ∧
    (canonicalize nestedHttp "POST" "/" "" jsonHeaders nestedText
      defaultInspectionProfile).rejected = false :=
  ⟨⟨[("role", .string "guest"), ("role", .string "admin")],
    .tail _ (.head _), by decide⟩, rfl, by decide +kernel, rfl, by decide +kernel⟩

end YuFeng.Edge
