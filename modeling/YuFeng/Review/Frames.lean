import YuFeng.Library.Effects
import YuFeng.Library.Escape
import YuFeng.Library.Utf8
import YuFeng.Review.Runtime

/-!
# Review frames on disk

A frame holds the JSON of some windows or candidates with a digest of it, and
its file is named after the digest.  A frame that cannot be read when it is to
be uploaded is renamed and not tried again.
-/

namespace YuFeng.Frames

open YuFeng.Library
open YuFeng.Review (TrafficWindow ReviewCandidate RejectedEvent SplitError splitRejected)

/-! ## Messages -/

inductive Kind where
  | windows
  | candidates
  deriving DecidableEq, Repr

def Kind.name : Kind → String
  | .windows => "windows"
  | .candidates => "candidates"

def Kind.label : Kind → String
  | .windows => "traffic window"
  | .candidates => "review candidate"

def Kind.Message : Kind → Type
  | .windows => TrafficWindow
  | .candidates => ReviewCandidate

def Kind.messageId : (kind : Kind) → kind.Message → String
  | .windows => TrafficWindow.windowId
  | .candidates => ReviewCandidate.candidateId

def cellStrings (cell : Review.TrafficRouteCell) : List String := [cell.method, cell.routeTemplate]

def windowStrings (w : TrafficWindow) : List String :=
  [w.windowId, w.unitId, w.assetId, w.generationId, w.policyDigest] ++
    w.routeCells.flatMap cellStrings ++ w.other.elim [] cellStrings ++
      w.evidenceDropReasons.rows.map Prod.fst

def candidateStrings (c : ReviewCandidate) : List String :=
  [c.candidateId, c.windowId, c.unitId, c.assetId, c.requestId, c.method,
    c.routeTemplate, c.evidenceHandle, c.evidenceDigest, c.generationId] ++
    c.riskReasons ++ c.evidence.elim [] fun evidence =>
      evidence.fields.rows.flatMap fun row => [row.1, row.2]

def Kind.strings : (kind : Kind) → kind.Message → List String
  | .windows => windowStrings
  | .candidates => candidateStrings

/-! ## Frames -/

structure ReviewFrame where
  version : Int
  kind : String
  records : List String
  payloadDigest : String
  deriving DecidableEq

/-- What a decoder finds behind the first value. -/
inductive Trailing where
  | eof
  | value
  | broken (message : String)
  deriving DecidableEq

structure Services where
  sum256 : List UInt8 → Vector UInt8 32
  marshal : (kind : Kind) → kind.Message → Except String String
  unmarshal : (kind : Kind) → String → Except String kind.Message
  compact : String → Except String String
  marshalFrame : ReviewFrame → Except String String
  decodeFrame : String → Except String (ReviewFrame × Trailing)

variable (S : Services)

def Services.marshalReviewMessages {kind : Kind}
    (values : List kind.Message) : Except String (List String) :=
  values.mapM fun value => do
    let raw ← S.marshal kind value
    S.compact raw

def bigEndian64 (n : Nat) : List UInt8 :=
  (List.range 8).map fun i => UInt8.ofNat (n >>> (8 * (7 - i)))

def Services.digestReviewRecords (records : List String) : String :=
  "sha256:" ++ hexEncode (S.sum256 (records.flatMap fun record =>
    bigEndian64 (utf8 record).length ++ utf8 record)).toList

def Services.frame (kind : Kind) (records : List String) : ReviewFrame where
  version := 1
  kind := kind.name
  records := records
  payloadDigest := S.digestReviewRecords records

/-! ## Files -/

structure Path where
  directory : String
  name : String
  deriving DecidableEq

def Path.text (path : Path) : String := path.directory ++ "/" ++ path.name

structure Spool where
  directory : String
  files : Table String String

def Spool.find? (spool : Spool) (path : Path) : Option String :=
  if path.directory = spool.directory then spool.files.find? path.name
  else none

def Spool.put (spool : Spool) (name raw : String) : Spool :=
  { spool with files := spool.files.set name raw }

def Spool.erase (spool : Spool) (path : Path) : Spool :=
  if path.directory = spool.directory then
    { spool with files := spool.files.erase path.name }
  else spool

inductive Point where
  | read
  | list
  | stat
  | statOld
  | write
  | remove
  | rename
  | sync
  | syncDirectory
  deriving DecidableEq, Repr

abbrev Faults := Point → Option String

def Faults.at (faults : Faults) (point : Point) : Except String Unit :=
  match faults point with
  | none => .ok ()
  | some message => .error message

abbrev Disk := Effect Spool String

def pass (faults : Faults) (point : Point) : Disk Unit := .attempt (faults.at point)

def frameSuffix : String := ".frame"

def fileName (kind : Kind) (digest suffix : String) : String :=
  kind.name ++ "-" ++ trimStart "sha256:" digest ++ suffix

/-! ## Writing -/

def reviewSpoolMaxBytes : Int := 67108864
def reviewCandidateSpoolMaxBytes : Int := 16777216

def usedBytes (rows : List (String × String)) : Int :=
  (rows.map fun row => (row.2.utf8ByteSize : Int)).foldr (· + ·) 0

def Spool.overLimit (spool : Spool) (kind : Kind) (extra : Int) : Bool :=
  let frames := spool.files.rows.filter (endsWith frameSuffix ·.1)
  let candidates := frames.filter (startsWith "candidates-" ·.1)
  kind == .candidates && reviewCandidateSpoolMaxBytes < usedBytes candidates + extra ||
    reviewSpoolMaxBytes < usedBytes frames + extra

def overLimitLocked (faults : Faults) (kind : Kind) (extra : Int) : Disk Unit := do
  pass faults .list
  let full ← Effect.read (·.overLimit kind extra)
  Effect.attempt (ensure (!full) "review spool capacity exceeded")

def writeReviewFrameLocked (faults : Faults) (name raw : String) : Disk Unit := do
  pass faults .write
  Effect.change (·.put name raw)
  pass faults .sync

def removeFile (faults : Faults) (path : Path) : Disk Unit := do
  pass faults .remove
  Effect.change (·.erase path)
  pass faults .syncDirectory

def statSize (faults : Faults) (path : Path) : Disk Int := do
  pass faults .statOld
  let found ← Effect.read (·.find? path)
  match found with
  | none => Effect.attempt (.error "file does not exist")
  | some raw => pure raw.utf8ByteSize

def Services.append (faults : Faults) (kind : Kind) (values : List kind.Message) : Disk Unit :=
  if values.isEmpty then pure ()
  else do
    let records ← Effect.attempt (S.marshalReviewMessages values)
    let raw ← Effect.attempt (S.marshalFrame (S.frame kind records))
    let name := fileName kind (S.digestReviewRecords records) frameSuffix
    pass faults .stat
    let found ← Effect.read fun spool => (spool.files.find? name).isSome
    if found then pure ()
    else do
      overLimitLocked faults kind raw.utf8ByteSize
      writeReviewFrameLocked faults name raw

def replaceable (kind : Kind) (path : Path) (spool : Spool) : Bool :=
  path.directory == spool.directory && startsWith (kind.name ++ "-") path.name &&
      endsWith frameSuffix path.name

def Services.replace (faults : Faults) (path : Path) (kind : Kind)
    (values : List kind.Message) : Disk Unit :=
  if values.isEmpty then removeFile faults path
  else do
    let records ← Effect.attempt (S.marshalReviewMessages values)
    let raw ← Effect.attempt (S.marshalFrame (S.frame kind records))
    let valid ← Effect.read (replaceable kind path)
    Effect.attempt (ensure valid "review spool replacement path is invalid")
    let target := fileName kind (S.digestReviewRecords records) frameSuffix
    if path.name = target then pure ()
    else do
      pass faults .stat
      let found ← Effect.read fun spool =>
        (spool.files.find? target).isSome
      if found then removeFile faults path
      else do
        let old ← statSize faults path
        overLimitLocked faults kind (raw.utf8ByteSize - old)
        writeReviewFrameLocked faults target raw
        removeFile faults path

def Services.quarantineMessages (faults : Faults) (kind : Kind)
    (values : List kind.Message) : Disk Unit :=
  if values.isEmpty then pure ()
  else do
    let records ← Effect.attempt (S.marshalReviewMessages values)
    let raw ← Effect.attempt (S.marshalFrame (S.frame kind records))
    let name := fileName kind (S.digestReviewRecords records) ".rejected"
    pass faults .stat
    let found ← Effect.read fun spool => (spool.files.find? name).isSome
    if found then pure ()
    else writeReviewFrameLocked faults name raw

/-! ## Quarantine -/

inductive Ending where
  | rejected
  | corrupt
  deriving DecidableEq, Repr

def Ending.suffix : Ending → String
  | .rejected => ".rejected"
  | .corrupt => ".corrupt"

def quarantineName (name : String) (ending : Ending) : String :=
  trimEnd frameSuffix name ++ ending.suffix

def quarantine (faults : Faults) (path : Path) (ending : Ending) : Disk Unit := do
  pass faults .rename
  let found ← Effect.read (·.find? path)
  match found with
  | none => Effect.attempt (.error "file does not exist")
  | some raw => do
      Effect.change fun spool =>
        (spool.erase path).put (quarantineName path.name ending) raw
      pass faults .syncDirectory

def Spool.cleanupQuarantine (spool : Spool) (expired : String → Bool) : Spool :=
  { spool with
    files := spool.files.select fun name =>
      !(expired name && (endsWith Ending.rejected.suffix name ||
          endsWith Ending.corrupt.suffix name)) }

/-! ## Reading -/

def Services.readReviewFrame (faults : Faults) (spool : Spool) (path : Path)
    (kind : Kind) : Except String (List String) := do
  faults.at .read
  match spool.find? path with
  | none => throw "file does not exist"
  | some raw => do
      let decoded ← (S.decodeFrame raw).mapError fun message =>
        path.text ++ ": " ++ message
      match decoded.2 with
      | .value => throw (path.text ++ ": trailing review spool data: multiple JSON values")
      | .broken message => throw (path.text ++ ": trailing review spool data: " ++ message)
      | .eof => do
          ensure (decoded.1.version == 1 && decoded.1.kind == kind.name &&
              !decoded.1.records.isEmpty &&
              decoded.1.payloadDigest == S.digestReviewRecords decoded.1.records)
            (path.text ++ ": review spool frame checksum mismatch")
          return decoded.1.records

def Services.readMessages (faults : Faults) (spool : Spool) (path : Path)
    (kind : Kind) : Except String (List kind.Message) := do
  let records ← S.readReviewFrame faults spool path kind
  records.mapM fun raw =>
    (S.unmarshal kind raw).mapError fun message =>
      path.text ++ ": " ++ message

/-! ## Uploading -/

structure Answer where
  accepted : Int
  deduped : Int
  rejected : List RejectedEvent

structure Attempt where
  read : Faults
  corrupt : Faults
  refused : Faults
  settle : Faults
  answer : Except String Answer

def int32 (n : Int) : Int := (n + 2147483648) % 4294967296 - 2147483648

def quarantineCorruptReview (faults : Faults) (path : Path)
    (cause : String) : Disk Unit := fun spool =>
  match quarantine faults path .corrupt spool with
  | (.ok _, after) => (.error cause, after)
  | (.error message, after) => (.error (cause ++ "\n" ++ message), after)

def Services.settle (attempt : Attempt) (kind : Kind) (path : Path)
    (values : List kind.Message) : Disk Unit := do
  let answer ← Effect.attempt attempt.answer
  Effect.attempt (ensure (int32 (answer.accepted + answer.deduped) + answer.rejected.length ==
      values.length)
    (kind.label ++ " acknowledgement count mismatch"))
  let split ← Effect.attempt ((splitRejected kind.messageId values answer.rejected).mapError
      (SplitError.text kind.label))
  S.quarantineMessages attempt.refused kind split.2
  S.replace attempt.settle path kind split.1
  Effect.attempt (ensure split.1.isEmpty
    ("server temporarily rejected " ++ toString split.1.length ++ " " ++ kind.label ++ "s"))

def Services.uploadFrame (attempt : Attempt) (kind : Kind) (path : Path) : Disk Unit := do
  let values ← Effect.read fun spool =>
    S.readMessages attempt.read spool path kind
  match values with
  | .error cause => quarantineCorruptReview attempt.corrupt path cause
  | .ok values =>
    if values.isEmpty then removeFile attempt.settle path
    else S.settle attempt kind path values

end YuFeng.Frames
