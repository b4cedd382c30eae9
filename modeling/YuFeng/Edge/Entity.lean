import YuFeng.Edge.Paths

/-!
# The entity behind a body

`Content-Encoding` lists the codings of a body in the order in which they were
applied.  The canonical view undoes one coding of the first header line, and it
takes a read error that names an end of file for the end.
-/

namespace YuFeng.Edge

open YuFeng.Library

/-- Everything that the decoder of a coding reads from a body. -/
abbrev Streams := String → Bytes → Option Inflated

/-- A reader that stops at the limit sees no error behind it. -/
def Inflated.cut (limit : Nat) (s : Inflated) : Inflated :=
  if s.raw.length < limit then s else ⟨s.raw.take limit, none, false⟩

def Http.Reads (H : Http) (S : Streams) : Prop :=
  ∀ algorithm body limit, H.inflate algorithm body limit = (S algorithm body).map (·.cut limit)

def Inflated.broken (s : Inflated) : Bool :=
  s.readError.any (fun e => !hasSubstring "EOF" e) || s.closeError

def maxInflate (profile : HttpInspectionProfile) : Nat :=
  if profile.decompressMaxBytes ≤ 0 then engineBodyLimit
  else profile.decompressMaxBytes.toNat

def inflated (H : Http) (profile : HttpInspectionProfile) (coding : String)
    (body : Bytes) : Decoded :=
  match H.inflate (toLower coding) body (maxInflate profile + 1) with
  | none => ⟨[], false, true⟩
  | some s => ⟨s.raw, false, s.broken || maxInflate profile < s.raw.length⟩

section

variable {H : Http} {S : Streams} {profile : HttpInspectionProfile}
  {headers : Values} {body : Bytes} {lines : List String}

variable {method rawPath rawQuery : String}

end

/-- The stream has an output and ends early, and only an error that names the end of file shows
it. -/
def Inflated.Unnoticed (s : Inflated) : Prop :=
  s.raw ≠ [] ∧ s.closeError = false ∧ ∃ e, s.readError = some e ∧ hasSubstring "EOF" e = true

def Whole (S : Streams) : Prop := ∀ coding body s, S coding body = some s → ¬s.Unnoticed

section

variable {S : Streams} {lines : List String} {body : Bytes}

end

end YuFeng.Edge
