import YuFeng.Library.Run
import YuFeng.Library.Table
import YuFeng.Library.Text

/-!
# The telemetry spool

Events that wait for upload are kept in segment files, one per hour, a line
for each event.  The request path appends under the lock of the spool.  The
upload loop reads a segment without the lock, sends its events in batches and
takes the lock again to rewrite, remove or quarantine the segment.

A file is a list of pieces.  A write that fails midway, or a crash inside it,
leaves a torn piece without a line break, so that the next line is glued to
it.  No part of a JSON object that is followed by another object is an object,
so a glued line does not decode; the last piece of a file does if only its
line break is missing.
-/

namespace YuFeng.Telemetry

open YuFeng.Library List

inductive Verdict where
  | unspecified
  | allow
  | block
  | observe
  | escalate
  deriving DecidableEq, Repr

inductive ObservationState where
  | unspecified
  | syncDetected
  | syncNoDetection
  | inspectionPartial
  | inspectionError
  deriving DecidableEq, Repr

/-- An event as far as the spool reads it.  `line` is its JSON encoding. -/
structure Event where
  id : String
  verdict : Verdict
  detections : List String
  wouldHaveBlocked : Bool
  observation : ObservationState
  line : String
  deriving DecidableEq

def isOrdinarySample (event : Event) : Bool :=
  event.verdict = .allow && event.detections.isEmpty &&
    !event.wouldHaveBlocked && event.observation = .syncNoDetection

def Event.bytes (event : Event) : Nat := event.line.utf8ByteSize + 1

/-! ## Files -/

inductive Piece where
  | line (event : Event)
  | torn (event : Event) (bytes : Nat)
  deriving DecidableEq

def Piece.bytes : Piece → Nat
  | .line event => event.bytes
  | .torn _ bytes => bytes

def fileBytes (pieces : List Piece) : Nat := pieces.foldl (fun sum piece => sum + piece.bytes) 0

def writtenPieces (event : Event) (bytes : Nat) : List Piece :=
  if bytes = 0 then []
  else if bytes < event.bytes then [.torn event bytes]
  else [.line event]

/--
The lines of a file and what each decodes to.  The first argument is the
unterminated line read so far, with what it decodes to on its own.
-/
def decodeLines : Option (Option Event) → List Piece → List (Option Event)
  | none, [] => []
  | some last, [] => [last]
  | none, .line event :: pieces => some event :: decodeLines none pieces
  | some _, .line _ :: pieces => none :: decodeLines none pieces
  | none, .torn event bytes :: pieces =>
    decodeLines (some (if bytes + 1 = event.bytes then some event else none)) pieces
  | some _, .torn _ _ :: pieces => decodeLines (some none) pieces

def readEvents (pieces : List Piece) : Option (List Event) :=
  let lines := decodeLines none pieces
  if lines.all Option.isSome then some (lines.filterMap id) else none

theorem mem_decodeLines {unfinished pieces event}
    (decoded : (decodeLines unfinished pieces).all Option.isSome = true)
    (member : .line event ∈ pieces) : some event ∈ decodeLines unfinished pieces := by
  induction pieces generalizing unfinished with
  | nil => simp at member
  | cons piece pieces ih =>
    cases piece with
    | line =>
      cases unfinished with
      | none =>
        simp only [decodeLines, all_cons, Option.isSome_some, Bool.true_and] at decoded ⊢
        rcases mem_cons.mp member with same | later
        · cases same
          exact mem_cons_self
        · exact mem_cons_of_mem _ (ih decoded later)
      | some => simp [decodeLines] at decoded
    | torn =>
      have later : .line event ∈ pieces := by simpa using member
      cases unfinished with
      | none | some => exact ih decoded later

theorem mem_readEvents {pieces events event} (h : readEvents pieces = some events)
    (member : .line event ∈ pieces) : event ∈ events := by
  unfold readEvents at h
  dsimp only at h
  split at h
  next decoded =>
    cases h
    exact mem_filterMap.mpr ⟨some event, mem_decodeLines decoded member, rfl⟩
  · contradiction

structure ClassCounts where
  critical : Nat
  ordinary : Nat
  deriving DecidableEq

def eventClassCounts (events : List Event) : ClassCounts where
  critical := events.countP fun event => !isOrdinarySample event
  ordinary := events.countP isOrdinarySample

/-- The counts of a file skip the lines that do not decode. -/
def fileClassCounts (pieces : List Piece) : ClassCounts :=
  eventClassCounts ((decodeLines none pieces).filterMap id)

/-- The spool directory; a segment is named by the start of its hour. -/
structure SpoolDir where
  segments : Table Nat (List Piece)
  corrupt : Table Nat (List Piece)
  temporary : Table Nat (List Piece)

def SpoolDir.files (dir : SpoolDir) : List (List Piece) :=
  (dir.segments.rows ++ dir.corrupt.rows ++ dir.temporary.rows).map Prod.snd

def SpoolDir.segment (dir : SpoolDir) (file : Nat) : List Piece := (dir.segments.find? file).getD []

/-! ## The spool -/

structure Spool where
  maxBytes : Int
  maxFiles : Int
  rejected : Nat
  dropped : Nat
  buffered : ClassCounts
  droppedByClass : ClassCounts
  deriving DecidableEq

def defaultSpoolMaxFiles : Int := 64

def edgeTelemetrySpoolBytes : Int := 67108864

def uploadBatchMax : Nat := 100

def overLimit (spool : Spool) (dir : SpoolDir) (extra : Nat) : Bool :=
  let maxBytes := if spool.maxBytes ≤ 0 then edgeTelemetrySpoolBytes else spool.maxBytes
  let maxFiles := if spool.maxFiles ≤ 0 then defaultSpoolMaxFiles else spool.maxFiles
  let size := dir.files.foldl (fun sum file => sum + fileBytes file) 0
  maxFiles < dir.files.length || maxBytes < size + extra

/-- `NewSpool`: segments that cannot be read are not counted. -/
def newSpool (dir : SpoolDir) : Spool :=
  let counts := dir.segments.rows.map fun segment =>
    match readEvents segment.2 with
    | some events => eventClassCounts events
    | none => ⟨0, 0⟩
  { maxBytes := edgeTelemetrySpoolBytes
    maxFiles := defaultSpoolMaxFiles
    rejected := 0
    dropped := 0
    buffered := {
      critical := counts.foldl (fun sum c => sum + c.critical) 0
      ordinary := counts.foldl (fun sum c => sum + c.ordinary) 0 }
    droppedByClass := ⟨0, 0⟩ }

def ClassCounts.bump (counts : ClassCounts) (event : Event) : ClassCounts :=
  if isOrdinarySample event then
    { counts with ordinary := counts.ordinary + 1 }
  else
    { counts with critical := counts.critical + 1 }

/-- Counts never go below zero, as subtraction on natural numbers does not. -/
def Spool.removeBuffered (spool : Spool) (counts : ClassCounts) : Spool :=
  { spool with
    buffered := {
      critical := spool.buffered.critical - counts.critical
      ordinary := spool.buffered.ordinary - counts.ordinary } }

def Spool.addBuffered (spool : Spool) (counts : ClassCounts) : Spool :=
  { spool with
    buffered := {
      critical := spool.buffered.critical + counts.critical
      ordinary := spool.buffered.ordinary + counts.ordinary } }

inductive AppendIo where
  | ok
  | marshalFailed
  | openFailed
  | writeFailed (bytes : Nat)
  deriving DecidableEq

def appendPieces (files : Table Nat (List Piece)) (file : Nat)
    (pieces : List Piece) : Table Nat (List Piece) :=
  files.set file ((files.find? file).getD [] ++ pieces)

def Spool.append (spool : Spool) (dir : SpoolDir) (window : Nat)
    (event : Event) (io : AppendIo) : Bool × Spool × SpoolDir :=
  if io = .marshalFailed then
    (false, spool, dir)
  else if overLimit spool dir event.bytes then
    (false, { spool with
        rejected := spool.rejected + 1
        dropped := spool.dropped + 1
        droppedByClass := spool.droppedByClass.bump event }, dir)
  else
    match io with
    | .ok =>
      (true, { spool with buffered := spool.buffered.bump event },
        { dir with
          segments := appendPieces dir.segments window [.line event] })
    | .writeFailed bytes =>
      (false, spool,
        { dir with
          segments := appendPieces dir.segments window (writtenPieces event bytes) })
    | _ => (false, spool, dir)

/-! ## Acknowledgement -/

structure RejectedEvent where
  eventId : String
  code : String
  deriving DecidableEq

def isPermanentCode (code : String) : Bool :=
  toLower code = "invalid_event" || toLower code = "unknown_asset" ||
    toLower code = "invalid_argument" || toLower code = "permission_denied"

def isPermanentUploadErr (message : String) : Bool :=
  hasSubstring "invalid_argument" message || hasSubstring "permission_denied" message

def rejectionOf (rejected : List RejectedEvent) (event : Event) : Option String :=
  (rejected.reverse.find? fun r => r.eventId = event.id).map RejectedEvent.code

def partitionUploadAck (events : List Event) (rejected : List RejectedEvent) :
    List Event × List Event :=
  (events.filter fun event =>
      (rejectionOf rejected event).any fun code => !isPermanentCode code,
    events.filter fun event =>
      (rejectionOf rejected event).any isPermanentCode)

/-! ## Settling a segment -/

/-- Where the file operations of a settlement stop. -/
inductive SettleIo where
  | ok
  | quarantineWrite (lines bytes : Nat)
  | temporaryWrite (lines bytes : Nat) (removed : Bool)
  | rename (removed : Bool)
  | remove
  deriving DecidableEq

def stoppedWrite (events : List Event) (lines bytes : Nat) : List Piece :=
  (events.take lines).map Piece.line ++
    match events[lines]? with
    | some event => writtenPieces event bytes
    | none => []

def leftTemporary (dir : SpoolDir) (file : Nat) (pieces : List Piece) (removed : Bool) : SpoolDir :=
  { dir with
    temporary :=
      if removed then dir.temporary.erase file
      else dir.temporary.set file pieces }

def rewriteLocked (spool : Spool) (dir : SpoolDir) (file : Nat)
    (events : List Event) (io : SettleIo) : Spool × SpoolDir :=
  let old := fileClassCounts (dir.segment file)
  match events, io with
  | [], .ok =>
    (spool.removeBuffered old, { dir with segments := dir.segments.erase file })
  | [], _ => (spool, dir)
  | _, .ok =>
    ((spool.removeBuffered old).addBuffered (eventClassCounts events),
      { dir with
        segments := dir.segments.set file (events.map Piece.line)
        temporary := dir.temporary.erase file })
  | _, .temporaryWrite lines bytes removed =>
    (spool, leftTemporary dir file (stoppedWrite events lines bytes) removed)
  | _, .rename removed =>
    (spool, leftTemporary dir file (events.map Piece.line) removed)
  | _, _ => (spool, dir)

def resolveUpload (spool : Spool) (dir : SpoolDir) (file : Nat)
    (retry permanent : List Event) (io : SettleIo) : Spool × SpoolDir :=
  match permanent, io with
  | [], _ => rewriteLocked spool dir file retry io
  | _, .quarantineWrite lines bytes =>
    (spool, { dir with
      corrupt := appendPieces dir.corrupt file (stoppedWrite permanent lines bytes) })
  | _, _ =>
    rewriteLocked spool { dir with
      corrupt := appendPieces dir.corrupt file (permanent.map Piece.line) }
      file retry io

def quarantine (spool : Spool) (dir : SpoolDir) (file : Nat) (io : SettleIo) : Spool × SpoolDir :=
  match dir.segments.find? file, io with
  | some pieces, .ok =>
    (spool.removeBuffered (fileClassCounts pieces),
      { dir with
        segments := dir.segments.erase file
        corrupt := dir.corrupt.set file pieces })
  | _, _ => (spool, dir)

def removeSegment (spool : Spool) (dir : SpoolDir) (file : Nat)
    (io : SettleIo) : Spool × SpoolDir :=
  match io with
  | .ok =>
    (spool.removeBuffered (fileClassCounts (dir.segment file)),
      { dir with segments := dir.segments.erase file })
  | _ => (spool, dir)

end YuFeng.Telemetry
