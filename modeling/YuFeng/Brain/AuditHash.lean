import Mathlib
import YuFeng.Library.Lists
import YuFeng.Library.Text

/-!
# The input of the audit hash

The fields of an audit entry are joined by line breaks, and the result is
hashed together with the hash of the entry before.  A line break inside a field
is not escaped, so it can be read as the end of that field.
-/

namespace YuFeng.Brain

open YuFeng.Library

variable {J : Type}

structure AuditCoordinates where
  runId : String := ""
  turnId : String := ""
  leaseEpoch : Int := 0
  budgetId : String := ""
  payloadDigest : String := ""
  deriving DecidableEq

/-- `J` holds the recorded details. -/
@[ext] structure AuditRecord (J : Type) extends AuditCoordinates where
  occurredAt : Int
  actorType : String
  actorId : String
  action : String
  objectType : String
  objectId : String
  details : J
  previousHash : String
  deriving DecidableEq

def OneLine (text : String) : Prop := '\n' ∉ text.toList

/-- The layout `time.RFC3339Nano` in UTC, and details as canonical JSON. -/
structure AuditCodec (J : Type) where
  formatTime : Int → String
  canonical : J → String
  formatTime_injective : Function.Injective formatTime
  formatTime_oneLine : ∀ t, OneLine (formatTime t)
  canonical_oneLine : ∀ d, OneLine (canonical d)

def auditSchemaVersion : String := "audit/v2"

variable {C : AuditCodec J} {e e' : AuditRecord J}

/-- The lines before the one with the hash of the entry before. -/
def AuditRecord.lines (C : AuditCodec J) (e : AuditRecord J) : List String :=
  [auditSchemaVersion, C.formatTime e.occurredAt, e.actorType, e.actorId, e.action, e.objectType,
    e.objectId, e.runId, e.turnId, e.leaseEpoch.repr, e.budgetId, e.payloadDigest,
    C.canonical e.details]

/-- What `auditEntryHashV2` hashes. -/
def auditInput (C : AuditCodec J) (e : AuditRecord J) : String :=
  "\n".intercalate (e.lines C ++ [e.previousHash])

def AuditRecord.texts (e : AuditRecord J) : List String :=
  [e.actorType, e.actorId, e.action, e.objectType, e.objectId, e.runId, e.turnId, e.budgetId,
    e.payloadDigest]

/-- No other entry after the same one has the same input. -/
def ToldApart (C : AuditCodec J) (e : AuditRecord J) : Prop :=
  ∀ e', e'.previousHash = e.previousHash → auditInput C e' = auditInput C e → e' = e

theorem lines_eq_of_auditInput (plain : ∀ line ∈ e.lines C, OneLine line)
    (previous : e'.previousHash = e.previousHash) (same : auditInput C e' = auditInput C e) :
    e'.lines C = e.lines C := by
  have chars : ['\n'].intercalate ((e.lines C).map String.toList ++ [e.previousHash.toList]) =
      ['\n'].intercalate ((e'.lines C).map String.toList ++ [e.previousHash.toList]) := by
    simpa [auditInput, previous] using congrArg String.toList same.symm
  have pieces := intercalate_concat_inj (by simp [AuditRecord.lines]) (fun part member => by
    obtain ⟨line, listed, rfl⟩ := List.mem_map.mp member
    exact plain line listed) chars
  exact List.map_injective_iff.mpr (fun _ _ same => String.toList_injective same) pieces.symm

theorem toldApart_of_oneLine (plain : ∀ text ∈ e.texts, OneLine text)
    (details : ∀ d, C.canonical d = C.canonical e.details → d = e.details) : ToldApart C e := by
  intro e' previous same
  have lines : ∀ line ∈ e.lines C, OneLine line := by
    have epoch : OneLine e.leaseEpoch.repr := not_mem_repr (by decide) (by decide) _
    simp only [AuditRecord.texts, List.forall_mem_cons] at plain
    simp only [AuditRecord.lines, List.forall_mem_cons]
    simp only [plain, epoch, C.formatTime_oneLine, C.canonical_oneLine, true_and]
    exact ⟨by unfold OneLine; decide, by simp⟩
  have fields := lines_eq_of_auditInput lines previous same
  simp only [AuditRecord.lines, List.cons.injEq, true_and, and_true] at fields
  obtain ⟨time, actorType, actorId, action, objectType, objectId, runId, turnId, epoch, budgetId,
    payloadDigest, canonical⟩ := fields
  exact AuditRecord.ext runId turnId (Int.repr_injective epoch) budgetId payloadDigest
    (C.formatTime_injective time) actorType actorId action objectType objectId
    (details _ canonical) previous

/-- A line break in one of two neighbours can be read as the end of the first. -/
theorem ToldApart.oneLine (h : ToldApart C e) {f g} (put : String → String → AuditRecord J)
    (own : put f g = e) (kept : ∀ a b, (put a b).previousHash = e.previousHash)
    (injective : Function.Injective2 put) (moved : ∀ a b c,
      auditInput C (put (a ++ "\n" ++ b) c) = auditInput C (put a (b ++ "\n" ++ c))) :
    OneLine f ∧ OneLine g := by
  have cut : ∀ {text}, ¬ OneLine text → ∃ a b, text = a ++ "\n" ++ b := by
    intro text broken
    obtain ⟨a, b, split⟩ := List.append_of_mem (not_not.mp broken)
    exact ⟨String.ofList a, String.ofList b, by simp [← String.toList_inj, split]⟩
  have longer : ∀ a b : String, a.length + b.length < (a ++ "\n" ++ b).length := fun a b => by
    have : "\n".length = 1 := rfl
    simp only [String.length_append]
    omega
  subst own
  constructor <;> by_contra broken <;> obtain ⟨a, b, rfl⟩ := cut broken <;> have := longer a b
  · have same := (injective (h _ (kept a _) (moved a b g).symm)).1
    rw [← same] at this
    omega
  · have same := (injective (h _ (kept _ b) (moved f a b))).2
    rw [← same] at this
    omega

/--
An entry can be told apart from all others exactly if none of its texts holds a
line break and its details are the only ones with their canonical form.
-/
theorem toldApart_iff (C : AuditCodec J) (e : AuditRecord J) :
    ToldApart C e ↔ (∀ text ∈ e.texts, OneLine text) ∧
      ∀ d, C.canonical d = C.canonical e.details → d = e.details := by
  refine ⟨fun apart => ⟨?_, fun d same => ?_⟩, fun h => toldApart_of_oneLine h.1 h.2⟩
  · have actor := apart.oneLine (fun a b => { e with actorType := a, actorId := b }) rfl
    have action := apart.oneLine (fun a b => { e with action := a, objectType := b }) rfl
    have object := apart.oneLine (fun a b => { e with objectType := a, objectId := b }) rfl
    have run := apart.oneLine (fun a b => { e with runId := a, turnId := b }) rfl
    have budget := apart.oneLine (fun a b => { e with budgetId := a, payloadDigest := b }) rfl
    simp [Function.Injective2, auditInput, AuditRecord.lines, String.append_assoc]
      at actor action object run budget
    simp [AuditRecord.texts, actor, action, object, run, budget]
  · exact congrArg (·.details) (apart { e with details := d } rfl (by
      simp [auditInput, AuditRecord.lines, same]))

def noDetails : AuditCodec Unit where
  formatTime := Int.repr
  canonical _ := "null"
  formatTime_injective _ _ := Int.repr_injective
  formatTime_oneLine := not_mem_repr (by decide) (by decide)
  canonical_oneLine _ := by unfold OneLine; decide

/-- The action of `user` and its object, cut in two ways. -/
def approval : AuditRecord Unit where
  occurredAt := 0
  actorType := "user"
  actorId := "ada"
  action := "approve"
  objectType := "case\nrelease"
  objectId := "r1"
  details := ()
  previousHash := ""

theorem approval_not_toldApart : ¬ ToldApart noDetails approval := by
  intro apart
  have same := apart { approval with objectType := "case", objectId := "release\nr1" } rfl
    (by decide +kernel)
  exact absurd (congrArg (·.objectType) same) (by decide)

end YuFeng.Brain
