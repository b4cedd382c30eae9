import Mathlib.Data.List.Basic

/-!
# JSON documents and streams of tokens

A document, the lexical tokens that write it down, and the streaming decoder of
`encoding/json` over such tokens: `token` takes the next token and keeps track
of commas and colons by its state, `decode` takes a whole value, and
`unmarshal` loads a text of one value, where the last of several members of one
name stays.  Characters and the conversion of literals are left to the scanner.
-/

namespace YuFeng.Library

open List

inductive Json where
  /-- A number, `true`, `false` or `null`. -/
  | literal (text : String)
  | string (text : String)
  | array (elements : List Json)
  | object (members : List (String × Json))

namespace Json

inductive Token where
  | literal (text : String)
  | string (text : String)
  | openArray
  | closeArray
  | openObject
  | closeObject
  | colon
  | comma
  deriving DecidableEq

/-! ## Writing -/

mutual

def render : Json → List Token
  | .literal text => [.literal text]
  | .string text => [.string text]
  | .array [] => [.openArray, .closeArray]
  | .array (first :: rest) =>
    .openArray :: (first.render ++ renderElements rest)
  | .object [] => [.openObject, .closeObject]
  | .object ((key, value) :: rest) =>
    .openObject :: .string key :: .colon :: (value.render ++ renderMembers rest)

def renderElements : List Json → List Token
  | [] => [.closeArray]
  | value :: rest => .comma :: (value.render ++ renderElements rest)

def renderMembers : List (String × Json) → List Token
  | [] => [.closeObject]
  | (key, value) :: rest =>
    .comma :: .string key :: .colon :: (value.render ++ renderMembers rest)

end

/-! ## Parts of a document -/

mutual

def subvalues : Json → List Json
  | .array elements => .array elements :: subElements elements
  | .object members => .object members :: subMembers members
  | value => [value]

def subElements : List Json → List Json
  | [] => []
  | value :: rest => value.subvalues ++ subElements rest

def subMembers : List (String × Json) → List Json
  | [] => []
  | (_, value) :: rest => value.subvalues ++ subMembers rest

end

mutual

def nesting : Json → Nat
  | .array elements => nestingElements elements + 1
  | .object members => nestingMembers members + 1
  | _ => 0

def nestingElements : List Json → Nat
  | [] => 0
  | value :: rest => max value.nesting (nestingElements rest)

def nestingMembers : List (String × Json) → Nat
  | [] => 0
  | (_, value) :: rest => max value.nesting (nestingMembers rest)

end

/-! ## Reading a value -/

mutual

/-- The fuel bounds the number of tokens. -/
def parseValue : Nat → List Token → Option (Json × List Token)
  | 0, _ => none
  | _ + 1, .literal text :: rest => some (.literal text, rest)
  | _ + 1, .string text :: rest => some (.string text, rest)
  | _ + 1, .openArray :: .closeArray :: rest => some (.array [], rest)
  | fuel + 1, .openArray :: rest =>
    (parseValue fuel rest).bind fun first =>
      (parseElements fuel first.2).map fun others =>
        (.array (first.1 :: others.1), others.2)
  | _ + 1, .openObject :: .closeObject :: rest => some (.object [], rest)
  | fuel + 1, .openObject :: .string key :: .colon :: rest =>
    (parseValue fuel rest).bind fun first =>
      (parseMembers fuel first.2).map fun others =>
        (.object ((key, first.1) :: others.1), others.2)
  | _, _ => none

def parseElements : Nat → List Token → Option (List Json × List Token)
  | _ + 1, .closeArray :: rest => some ([], rest)
  | fuel + 1, .comma :: rest =>
    (parseValue fuel rest).bind fun first =>
      (parseElements fuel first.2).map fun others =>
        (first.1 :: others.1, others.2)
  | _, _ => none

def parseMembers : Nat → List Token → Option (List (String × Json) × List Token)
  | _ + 1, .closeObject :: rest => some ([], rest)
  | fuel + 1, .comma :: .string key :: .colon :: rest =>
    (parseValue fuel rest).bind fun first =>
      (parseMembers fuel first.2).map fun others =>
        ((key, first.1) :: others.1, others.2)
  | _, _ => none

end

/-- A value starts with a token of its own. -/
theorem render_cons (value : Json) :
    ∃ first tail, value.render = first :: tail ∧ first ≠ .closeArray := by
  cases value with
  | literal | string => simp [render]
  | array elements => cases elements <;> simp [render]
  | object members =>
    match members with
    | [] => simp [render]
    | (key, value) :: members => simp [render]

mutual

/-- What a document writes is read back. -/
theorem parseValue_render (value : Json) {fuel} (rest) (enough : value.render.length ≤ fuel) :
    parseValue fuel (value.render ++ rest) = some (value, rest) := by
  match fuel, value with
  | 0, value =>
    obtain ⟨_, _, written, _⟩ := render_cons value
    simp [written] at enough
  | fuel + 1, .literal text => rfl
  | fuel + 1, .string text => rfl
  | fuel + 1, .array [] => rfl
  | fuel + 1, .array (first :: others) =>
    simp only [render, length_cons, length_append] at enough
    simp only [render, cons_append, append_assoc]
    rw [parseValue]
    · rw [parseValue_render first _ (by omega), Option.bind_some,
        parseElements_render others rest (by omega), Option.map_some]
    · intro _ closed
      obtain ⟨_, _, written, other⟩ := render_cons first
      rw [written, cons_append, List.cons.injEq] at closed
      exact other closed.1
  | fuel + 1, .object [] => rfl
  | fuel + 1, .object ((key, first) :: others) =>
    simp only [render, length_cons, length_append] at enough
    simp only [render, cons_append, append_assoc]
    rw [parseValue, parseValue_render first _ (by omega), Option.bind_some,
      parseMembers_render others rest (by omega), Option.map_some]

theorem parseElements_render (elements) {fuel} (rest)
    (enough : (renderElements elements).length ≤ fuel) :
    parseElements fuel (renderElements elements ++ rest) = some (elements, rest) := by
  match fuel, elements with
  | 0, elements => cases elements <;> simp [renderElements] at enough
  | fuel + 1, [] => rfl
  | fuel + 1, first :: others =>
    simp only [renderElements, length_cons, length_append] at enough
    simp only [renderElements, cons_append, append_assoc]
    rw [parseElements, parseValue_render first _ (by omega),
      Option.bind_some, parseElements_render others rest (by omega), Option.map_some]

theorem parseMembers_render (members : List (String × Json)) {fuel} (rest : List Token)
    (enough : (renderMembers members).length ≤ fuel) :
    parseMembers fuel (renderMembers members ++ rest) = some (members, rest) := by
  match fuel, members with
  | 0, [] => simp [renderMembers] at enough
  | 0, (key, first) :: others => simp [renderMembers] at enough
  | fuel + 1, [] => rfl
  | fuel + 1, (key, first) :: others =>
    simp only [renderMembers, length_cons, length_append] at enough
    simp only [renderMembers, cons_append, append_assoc]
    rw [parseMembers, parseValue_render first _ (by omega),
      Option.bind_some, parseMembers_render others rest (by omega), Option.map_some]

end

/-! ## Loading a value -/

mutual

def loaded : Json → Json
  | .array elements => .array (loadElements elements)
  | .object members => .object (loadMembers members)
  | value => value

def loadElements : List Json → List Json
  | [] => []
  | value :: rest => value.loaded :: loadElements rest

def loadMembers : List (String × Json) → List (String × Json)
  | [] => []
  | (key, value) :: rest =>
    if key ∈ rest.map Prod.fst then loadMembers rest
    else (key, value.loaded) :: loadMembers rest

end

/-- The document has `depth` containers inside each other, and none of them is
in a member that a later one of its name replaces. -/
def Deep : Nat → Json → Prop
  | 0, _ => True
  | depth + 1, .array elements => depth = 0 ∨ ∃ value ∈ elements, Deep depth value
  | depth + 1, .object members => depth = 0 ∨ ∃ key value after,
      (key, value) :: after <:+ members ∧ key ∉ after.map Prod.fst ∧ Deep depth value
  | _ + 1, _ => False

theorem nestingElements_loaded (depth elements) :
    depth + 1 ≤ nestingElements (loadElements elements) ↔
      ∃ value ∈ elements, depth + 1 ≤ value.loaded.nesting := by
  induction elements with
  | nil => simp [loadElements, nestingElements]
  | cons value elements ih =>
    simp only [loadElements, nestingElements, mem_cons, or_and_right, exists_or,
      exists_eq_left, ← ih]
    omega

theorem nestingMembers_loaded (depth members) :
    depth + 1 ≤ nestingMembers (loadMembers members) ↔
      ∃ key value after, (key, value) :: after <:+ members ∧ key ∉ after.map Prod.fst ∧
        depth + 1 ≤ value.loaded.nesting := by
  induction members with
  | nil => simp [loadMembers, nestingMembers]
  | cons member members ih =>
    simp only [suffix_cons_iff, cons.injEq, or_and_right, exists_or, ← ih]
    rw [loadMembers]
    split
    next known => grind
    next fresh =>
      rw [nestingMembers]
      grind

theorem deep_iff {depth} {value : Json} : Deep depth value ↔ depth ≤ value.loaded.nesting := by
  induction depth generalizing value with
  | zero => simp [Deep]
  | succ depth ih =>
    cases value with
    | literal | string => simp [Deep, loaded, nesting]
    | array elements =>
      simp only [Deep, loaded, nesting, ih]
      cases depth with
      | zero => simp
      | succ depth => simpa using (nestingElements_loaded depth elements).symm
    | object members =>
      simp only [Deep, loaded, nesting, ih]
      cases depth with
      | zero => simp
      | succ depth => simpa using (nestingMembers_loaded depth members).symm

/-! ## The streaming decoder -/

inductive TokenState where
  | topValue
  | arrayStart
  | arrayValue
  | arrayComma
  | objectStart
  | objectKey
  | objectColon
  | objectValue
  | objectComma
  deriving DecidableEq, Repr

def TokenState.valueAllowed : TokenState → Bool
  | .topValue | .arrayStart | .arrayValue | .objectValue => true
  | _ => false

def TokenState.valueEnd : TokenState → TokenState
  | .arrayStart | .arrayValue => .arrayComma
  | .objectValue => .objectComma
  | state => state

structure Decoder where
  rest : List Token
  state : TokenState := .topValue
  stack : List TokenState := []
  deriving DecidableEq

def Decoder.pop (stack : List TokenState) (rest : List Token) : Decoder :=
  ⟨rest, (stack.headD .topValue).valueEnd, stack.tail⟩

def maxNestingDepth : Nat := 10000

section

-- Whether a literal converts; a number may be out of range.
variable (converts : String → Bool)

def literalConverts : Json → Bool
  | .literal text => converts text
  | _ => true

def decodes (value : Json) : Bool :=
  value.nesting ≤ maxNestingDepth && value.subvalues.all (literalConverts converts)

def unmarshal (tokens : List Token) : Option Json :=
  match parseValue tokens.length tokens with
  | some (value, []) => if decodes converts value then some value.loaded else none
  | _ => none

theorem unmarshal_render (document : Json) : unmarshal converts document.render =
    if decodes converts document then some document.loaded else none := by
  have read := parseValue_render document [] (Nat.le_refl _)
  rw [append_nil] at read
  rw [unmarshal, read]

def Decoder.tokenFrom : List Token → TokenState → List TokenState → Option (Token × Decoder)
  | [], _, _ => none
  | .openArray :: rest, state, stack =>
    if state.valueAllowed then
      some (.openArray, ⟨rest, .arrayStart, state :: stack⟩)
    else none
  | .closeArray :: rest, state, stack =>
    if state = .arrayStart ∨ state = .arrayComma then
      some (.closeArray, .pop stack rest)
    else none
  | .openObject :: rest, state, stack =>
    if state.valueAllowed then
      some (.openObject, ⟨rest, .objectStart, state :: stack⟩)
    else none
  | .closeObject :: rest, state, stack =>
    if state = .objectStart ∨ state = .objectComma then
      some (.closeObject, .pop stack rest)
    else none
  | .colon :: rest, state, stack =>
    if state = .objectColon then tokenFrom rest .objectValue stack else none
  | .comma :: rest, state, stack =>
    if state = .arrayComma then tokenFrom rest .arrayValue stack
    else if state = .objectComma then tokenFrom rest .objectKey stack
    else none
  | .string text :: rest, state, stack =>
    if state = .objectStart ∨ state = .objectKey then
      some (.string text, ⟨rest, .objectColon, stack⟩)
    else if state.valueAllowed then
      some (.string text, ⟨rest, state.valueEnd, stack⟩)
    else none
  | .literal text :: rest, state, stack =>
    if state.valueAllowed && converts text then
      some (.literal text, ⟨rest, state.valueEnd, stack⟩)
    else none

def Decoder.token (dec : Decoder) : Option (Token × Decoder) :=
  Decoder.tokenFrom converts dec.rest dec.state dec.stack

def Decoder.more (dec : Decoder) : Bool :=
  match dec.rest with
  | [] | .closeArray :: _ | .closeObject :: _ => false
  | _ => true

def Decoder.prepare (dec : Decoder) : Option Decoder :=
  match dec.state, dec.rest with
  | .arrayComma, .comma :: rest =>
    some { dec with rest := rest, state := .arrayValue }
  | .arrayComma, _ => none
  | .objectColon, .colon :: rest =>
    some { dec with rest := rest, state := .objectValue }
  | .objectColon, _ => none
  | _, _ => some dec

def Decoder.decode (dec : Decoder) : Option (Json × Decoder) :=
  dec.prepare.bind fun dec =>
    if dec.state.valueAllowed then
      (parseValue dec.rest.length dec.rest).bind fun read =>
        if decodes converts read.1 then
          some (read.1, { dec with
            rest := read.2, state := dec.state.valueEnd })
        else none
    else none

/-- A value after its colon is taken whole. -/
theorem Decoder.decode_member (value rest stack) :
    Decoder.decode converts ⟨.colon :: (value.render ++ rest), .objectColon, stack⟩ =
      if decodes converts value then
        some (value, ⟨rest, .objectComma, stack⟩)
      else none := by
  have read : parseValue (value.render ++ rest).length
      (value.render ++ rest) = some (value, rest) :=
    parseValue_render value rest (by simp)
  simp only [Decoder.decode, Decoder.prepare, Option.bind_some,
    TokenState.valueAllowed, if_true, read, TokenState.valueEnd]

end

end Json

end YuFeng.Library
