import YuFeng.Telemetry.Spool

/-!
# Events are kept until they are answered

The request path, the upload loop and crashes interleave over one directory.
Every locked body and every unlocked read is one step.  An event that was
appended stays in a segment or a quarantine file until an upload response
settles it, provided that nothing is appended to a segment the upload loop has
already read and no quarantine file is replaced.
-/

namespace YuFeng.Telemetry

open YuFeng.Library List Table

variable {dir : SpoolDir} {event : Event} {file : Nat} {io : SettleIo} {s : Edge}

/-! ## The upload loop -/

/-- Where the loop stands, with the files of the scan that are left. -/
inductive Uploader where
  | idle
  | scanning (files : List Nat)
  | sending (file : Nat) (files : List Nat) (events left : List Event)
      (retry permanent : List Event)
  | resolving (file : Nat) (files : List Nat) (retry permanent : List Event)
  | quarantining (file : Nat) (files : List Nat)
  | removing (file : Nat) (files : List Nat)
  deriving DecidableEq

inductive Answer where
  | failed (message : String)
  | answered (rejected : List RejectedEvent)
  deriving DecidableEq

/--
`returned` are the events whose append returned nil; `settled` those that an
upload response accepted or rejected for good.
-/
structure Edge where
  dir : SpoolDir
  spool : Spool
  uploader : Uploader
  returned : List Event
  settled : List Event

inductive EdgeOp where
  | append (window : Nat) (event : Event) (io : AppendIo)
  | scan (ok : Bool)
  | read (ok : Bool)
  | accessDenied
  | upload (answer : Answer)
  | settle (io : SettleIo)
  | crash
  deriving DecidableEq

def started (dir : SpoolDir) : Edge where
  dir := dir
  spool := newSpool dir
  uploader := .idle
  returned := []
  settled := []

/-- The segments by name; the hours of this century have names of one
length. -/
def SpoolDir.scan (dir : SpoolDir) : List Nat :=
  (dir.segments.rows.map Prod.fst).mergeSort fun a b => a ≤ b

def Edge.append (s : Edge) (window : Nat) (event : Event) (io : AppendIo) : Edge :=
  let result := s.spool.append s.dir window event io
  { s with
    spool := result.2.1
    dir := result.2.2
    returned := if result.1 then event :: s.returned else s.returned }

def Edge.read (s : Edge) (file : Nat) (files : List Nat) (ok : Bool) : Uploader :=
  match s.dir.segments.find? file, ok with
  | some pieces, true =>
    match readEvents pieces with
    | none => .quarantining file files
    | some [] => .removing file files
    | some (event :: events) =>
      .sending file files (event :: events) (event :: events) [] []
  | _, _ => .quarantining file files

/--
The answer to the next batch.  A segment that fits into one batch is settled
by its answer; a larger one when all batches are answered.
-/
def Edge.upload (s : Edge) (file : Nat) (files : List Nat)
    (events left retry permanent : List Event) : Answer → Edge
  | .failed message =>
    if events.length ≤ uploadBatchMax ∧ isPermanentUploadErr message then
      { s with uploader := .quarantining file files }
    else
      { s with uploader := .scanning files }
  | .answered rejected =>
    let batch := left.take uploadBatchMax
    let rest := left.drop uploadBatchMax
    let parts := partitionUploadAck batch rejected
    { s with
      settled := s.settled ++ batch.filter fun event => event ∉ parts.1
      uploader :=
        if rest = [] then
          .resolving file files (retry ++ parts.1) (permanent ++ parts.2)
        else
          .sending file files events rest (retry ++ parts.1) (permanent ++ parts.2) }

def Edge.settle (s : Edge) (io : SettleIo) : Edge :=
  match s.uploader with
  | .resolving file files retry permanent =>
    let result := resolveUpload s.spool s.dir file retry permanent io
    { s with
      spool := result.1, dir := result.2, uploader := .scanning files }
  | .quarantining file files =>
    let result := quarantine s.spool s.dir file io
    { s with
      spool := result.1, dir := result.2, uploader := .scanning files }
  | .removing file files =>
    let result := removeSegment s.spool s.dir file io
    { s with
      spool := result.1, dir := result.2, uploader := .scanning files }
  | _ => s

def Edge.step (s : Edge) : EdgeOp → Edge
  | .append window event io => s.append window event io
  | .scan ok =>
    match s.uploader, ok with
    | .idle, true => { s with uploader := .scanning s.dir.scan }
    | _, _ => s
  | .read ok =>
    match s.uploader with
    | .scanning [] => { s with uploader := .idle }
    | .scanning (file :: files) =>
      { s with uploader := s.read file files ok }
    | _ => s
  | .accessDenied =>
    match s.uploader with
    | .sending _ files _ _ _ _ => { s with uploader := .scanning files }
    | _ => s
  | .upload answer =>
    match s.uploader with
    | .sending file files events left retry permanent =>
      s.upload file files events left retry permanent answer
    | _ => s
  | .settle io => s.settle io
  | .crash => { s with spool := newSpool s.dir, uploader := .idle }

/-! ## Retention -/

def Kept (dir : SpoolDir) (event : Event) : Prop :=
  ∃ file pieces, .line event ∈ pieces ∧ (dir.segments.find? file = some pieces ∨
      dir.corrupt.find? file = some pieces)

def NoLoss (s : Edge) : Prop := ∀ event ∈ s.returned, Kept s.dir event ∨ event ∈ s.settled

def Uploader.holds (file : Nat) : Uploader → Bool
  | .sending held _ _ _ _ _ | .resolving held _ _ _ | .removing held _ =>
    held = file
  | _ => false

/--
Nothing is appended to a segment the loop holds, and no segment is
quarantined over an older quarantine file.
-/
def Edge.calm (s : Edge) : EdgeOp → Bool
  | .append window _ _ => !s.uploader.holds window
  | .settle _ =>
    match s.uploader with
    | .quarantining file _ => (s.dir.corrupt.find? file).isNone
    | _ => true
  | _ => true

/-! ## What the file operations keep -/

theorem Kept.congr {dir'} (h : Kept dir event) (segments : dir'.segments = dir.segments)
    (corrupt : dir'.corrupt = dir.corrupt) : Kept dir' event := by
  unfold Kept
  rw [segments, corrupt]
  exact h

section Append

variable {files : Table Nat (List Piece)} {file : Nat} {pieces : List Piece}

theorem appendPieces_self :
    (appendPieces files file pieces).find? file = some ((files.find? file).getD [] ++ pieces) := by
  simp [appendPieces]

theorem appendPieces_other {other} (different : other ≠ file) :
    (appendPieces files file pieces).find? other = files.find? other := by
  rw [appendPieces, find?_set_of_ne different]

theorem appendPieces_lines {other old} (found : files.find? other = some old)
    (member : .line event ∈ old) :
    ∃ new, (appendPieces files file pieces).find? other = some new ∧ .line event ∈ new := by
  by_cases same : other = file
  · subst same
    refine ⟨_, appendPieces_self, ?_⟩
    rw [found, Option.getD_some]
    exact mem_append_left _ member
  · exact ⟨old, by rw [appendPieces_other same, found], member⟩

end Append

theorem Kept.append_segment (h : Kept dir event) (file pieces) :
    Kept { dir with
      segments := appendPieces dir.segments file pieces } event := by
  obtain ⟨other, old, member, segment | corrupt⟩ := h
  · obtain ⟨new, found, kept⟩ := appendPieces_lines segment member
    exact ⟨other, new, kept, .inl found⟩
  · exact ⟨other, old, member, .inr corrupt⟩

theorem Kept.append_corrupt (h : Kept dir event) (file pieces) :
    Kept { dir with
      corrupt := appendPieces dir.corrupt file pieces } event := by
  obtain ⟨other, old, member, segment | corrupt⟩ := h
  · exact ⟨other, old, member, .inl segment⟩
  · obtain ⟨new, found, kept⟩ := appendPieces_lines corrupt member
    exact ⟨other, new, kept, .inr found⟩

theorem Kept.change_segment {file segments} (h : Kept dir event)
    (others : ∀ other, other ≠ file → segments.find? other = dir.segments.find? other) :
    Kept { dir with segments := segments } event ∨ .line event ∈ dir.segment file := by
  obtain ⟨other, old, member, segment | corrupt⟩ := h
  · by_cases same : other = file
    · subst same
      right
      rwa [SpoolDir.segment, segment]
    · exact .inl ⟨other, old, member, .inl ((others other same).trans segment)⟩
  · exact .inl ⟨other, old, member, .inr corrupt⟩

theorem Kept.erase_segment (h : Kept dir event) (file : Nat) :
    Kept { dir with segments := dir.segments.erase file } event ∨ .line event ∈ dir.segment file :=
  h.change_segment fun _ same => by rw [find?_erase, if_neg same]

theorem Kept.set_segment (h : Kept dir event) (file : Nat) (events : List Event) : Kept { dir with
        segments := dir.segments.set file (events.map Piece.line) } event ∨
      .line event ∈ dir.segment file ∧ event ∉ events := by
  by_cases rewritten : event ∈ events
  · left
    exact ⟨file, events.map Piece.line, mem_map_of_mem rewritten, .inl (find?_set_self _ _ _)⟩
  · exact (h.change_segment fun _ same => find?_set_of_ne same ..).imp_right (⟨·, rewritten⟩)

theorem rewriteLocked_kept {spool dir file events io event} (h : Kept dir event) :
    Kept (rewriteLocked spool dir file events io).2 event ∨
      .line event ∈ dir.segment file ∧ event ∉ events := by
  unfold rewriteLocked
  dsimp only
  split
  · rcases h.erase_segment file with kept | lost
    · exact .inl kept
    · exact .inr ⟨lost, not_mem_nil⟩
  · exact .inl h
  · rcases h.set_segment file events with kept | lost
    · exact .inl (kept.congr rfl rfl)
    · exact .inr lost
  · exact .inl (h.congr rfl rfl)
  · exact .inl (h.congr rfl rfl)
  · exact .inl h

theorem rewriteLocked_corrupt (spool dir) (file events io) :
    (rewriteLocked spool dir file events io).2.corrupt = dir.corrupt := by
  unfold rewriteLocked
  dsimp only
  split <;> rfl

theorem resolveUpload_kept {spool dir file retry permanent io event} (h : Kept dir event) :
    Kept (resolveUpload spool dir file retry permanent io).2 event ∨
      .line event ∈ dir.segment file ∧ event ∉ retry ∧ event ∉ permanent := by
  unfold resolveUpload
  split
  · rcases @rewriteLocked_kept spool dir file retry io event h with
      kept | ⟨lost, dropped⟩
    · exact .inl kept
    · exact .inr ⟨lost, dropped, not_mem_nil⟩
  · exact .inl (h.append_corrupt file _)
  · by_cases quarantined : event ∈ permanent
    · left
      refine ⟨file, (dir.corrupt.find? file).getD [] ++ permanent.map Piece.line, ?_, .inr ?_⟩
      · exact mem_append_right _ (mem_map_of_mem quarantined)
      · rw [rewriteLocked_corrupt]
        exact appendPieces_self
    · have kept := h.append_corrupt file (permanent.map Piece.line)
      rcases @rewriteLocked_kept spool _ file retry io event kept with
        kept | ⟨lost, dropped⟩
      · exact .inl kept
      · exact .inr ⟨lost, dropped, quarantined⟩

theorem quarantine_kept {spool} (h : Kept dir event) (fresh : dir.corrupt.find? file = none) :
    Kept (quarantine spool dir file io).2 event := by
  unfold quarantine
  split
  next pieces found =>
    obtain ⟨other, old, member, segment | corrupt⟩ := h
    · by_cases same : other = file
      · subst same
        obtain rfl := Option.mem_unique found segment
        exact ⟨other, pieces, member, .inr (find?_set_self _ _ _)⟩
      · refine ⟨other, old, member, .inl ?_⟩
        rw [find?_erase, if_neg same, segment]
    · have different : other ≠ file := by
        rintro rfl
        simp [fresh] at corrupt
      refine ⟨other, old, member, .inr ?_⟩
      rw [find?_set_of_ne different, corrupt]
  · exact h

theorem removeSegment_kept {spool} (h : Kept dir event) (empty : .line event ∉ dir.segment file) :
    Kept (removeSegment spool dir file io).2 event := by
  unfold removeSegment
  split
  · rcases h.erase_segment file with kept | lost
    · exact kept
    · exact absurd lost empty
  · exact h

/-! ## The invariant -/

def Edge.Held (s : Edge) : Prop :=
  match s.uploader with
  | .sending file _ _ left retry permanent =>
    ∀ event, .line event ∈ s.dir.segment file →
      event ∈ left ∨ event ∈ retry ∨ event ∈ permanent ∨ event ∈ s.settled
  | .resolving file _ retry permanent =>
    ∀ event, .line event ∈ s.dir.segment file →
      event ∈ retry ∨ event ∈ permanent ∨ event ∈ s.settled
  | .removing file _ => ∀ event, .line event ∉ s.dir.segment file
  | _ => True

structure Retained (s : Edge) : Prop where
  noLoss : NoLoss s
  held : s.Held

theorem Edge.Held.congr {s' : Edge} (h : s.Held)
    (uploader : s'.uploader = s.uploader) (settled : s'.settled = s.settled)
    (segments : ∀ file, s.uploader.holds file = true →
      s'.dir.segment file = s.dir.segment file) : s'.Held := by
  unfold Edge.Held at h ⊢
  rw [uploader, settled]
  cases place : s.uploader with
  | idle | scanning | quarantining => trivial
  | sending file | resolving file | removing file =>
    rw [place] at h segments
    dsimp only
    rw [segments file (by simp [Uploader.holds])]
    exact h

theorem append_cases (spool : Spool) (dir : SpoolDir) (window event io) :
    (spool.append dir window event io).1 = false ∧ (spool.append dir window event io).2.2 = dir ∨
      ∃ pieces, (spool.append dir window event io).2.2 =
          { dir with segments := appendPieces dir.segments window pieces } ∧
        ((spool.append dir window event io).1 = true → .line event ∈ pieces) := by
  unfold Spool.append
  split
  · exact .inl ⟨rfl, rfl⟩
  split
  · exact .inl ⟨rfl, rfl⟩
  cases io with
  | ok => exact .inr ⟨[.line event], rfl, fun _ => mem_singleton_self _⟩
  | marshalFailed | openFailed => exact .inl ⟨rfl, rfl⟩
  | writeFailed bytes =>
    exact .inr ⟨writtenPieces event bytes, rfl, by simp⟩

theorem append_retained {window io} (h : Retained s) (free : s.uploader.holds window = false) :
    Retained (s.append window event io) := by
  rcases append_cases s.spool s.dir window event io with
    ⟨refused, same⟩ | ⟨pieces, appended, written⟩
  · refine ⟨?_, h.held.congr rfl rfl ?_⟩
    · intro other member
      simp only [Edge.append, refused, same] at member ⊢
      exact h.noLoss other member
    · intro file _
      simp [Edge.append, same]
  · refine ⟨?_, h.held.congr rfl rfl ?_⟩
    · intro other member
      simp only [Edge.append, appended] at member ⊢
      cases returned : (s.spool.append s.dir window event io).1 with
      | false =>
        rw [returned] at member
        exact (h.noLoss other member).imp_left (·.append_segment window pieces)
      | true =>
        rw [returned, if_pos rfl] at member
        rcases mem_cons.mp member with rfl | old
        · left
          refine ⟨window, _, ?_, .inl appendPieces_self⟩
          exact mem_append_right _ (written returned)
        · exact (h.noLoss other old).imp_left (·.append_segment window pieces)
    · intro file holds
      have different : file ≠ window := by
        rintro rfl
        simp [free] at holds
      simp only [Edge.append, appended, SpoolDir.segment]
      rw [appendPieces_other different]

theorem read_held {files ok} : { s with uploader := s.read file files ok }.Held := by
  unfold Edge.read
  split
  next pieces found =>
    have lines : ∀ events event, readEvents pieces = some events →
        .line event ∈ s.dir.segment file → event ∈ events := by
      intro events event decoded member
      rw [SpoolDir.segment, found] at member
      exact mem_readEvents decoded member
    split
    · trivial
    next decoded => exact fun event member => not_mem_nil (lines [] event decoded member)
    next decoded => exact fun event member => .inl (lines _ event decoded member)
  · trivial

theorem NoLoss.congr {s'} (h : NoLoss s) (dir : s'.dir = s.dir)
    (returned : s'.returned = s.returned) (settled : ∀ event ∈ s.settled, event ∈ s'.settled) :
    NoLoss s' := by
  intro event member
  rw [returned] at member
  rw [dir]
  exact (h event member).imp_right (settled event)

theorem upload_retained {files events left retry permanent answer} (h : Retained s)
    (place : s.uploader = .sending file files events left retry permanent) :
    Retained (s.upload file files events left retry permanent answer) := by
  have held := h.held
  unfold Edge.Held at held
  rw [place] at held
  cases answer with
  | failed =>
    unfold Edge.upload
    dsimp only
    split <;> exact ⟨h.noLoss, trivial⟩
  | answered rejected =>
    refine ⟨h.noLoss.congr rfl rfl ?_, ?_⟩
    · intro event member
      exact mem_append_left _ member
    -- an event of the batch is listed for a retry or settled
    have batch : ∀ event ∈ left, event ∈ left.drop uploadBatchMax ∨
        event ∈ (partitionUploadAck (left.take uploadBatchMax) rejected).1 ∨
        event ∈ (s.upload file files events left retry permanent (.answered rejected)).settled := by
      intro event member
      rw [← take_append_drop uploadBatchMax left] at member
      rcases mem_append.mp member with now | later
      · by_cases again : event ∈ (partitionUploadAck (left.take uploadBatchMax) rejected).1
        · exact .inr (.inl again)
        · refine .inr (.inr (mem_append_right _ ?_))
          exact mem_filter.mpr ⟨now, by simpa using again⟩
      · exact .inl later
    have all : ∀ event, .line event ∈ s.dir.segment file → event ∈ left.drop uploadBatchMax ∨
        event ∈ retry ++ (partitionUploadAck (left.take uploadBatchMax) rejected).1 ∨
        event ∈ permanent ++ (partitionUploadAck (left.take uploadBatchMax) rejected).2 ∨
        event ∈ (s.upload file files events left retry permanent (.answered rejected)).settled := by
      intro event member
      rcases held event member with waiting | again | refused | settled
      · exact (batch event waiting).imp_right (.imp (mem_append_right _) .inr)
      · exact .inr (.inl (mem_append_left _ again))
      · exact .inr (.inr (.inl (mem_append_left _ refused)))
      · exact .inr (.inr (.inr (mem_append_left _ settled)))
    unfold Edge.Held
    by_cases last : left.drop uploadBatchMax = []
    · simp only [Edge.upload, last, if_true]
      exact fun event member => (all event member).resolve_left (by simp [last])
    · simp only [Edge.upload, last, if_false]
      exact all

theorem settle_retained (h : Retained s) (calm : s.calm (.settle io) = true) :
    Retained (s.settle io) := by
  have held := h.held
  unfold Edge.Held at held
  unfold Edge.calm at calm
  unfold Edge.settle
  cases place : s.uploader with
  | resolving file _ retry permanent =>
    rw [place] at held
    refine ⟨?_, trivial⟩
    intro event member
    rcases h.noLoss event member with kept | settled
    · rcases @resolveUpload_kept s.spool s.dir file retry permanent io event
        kept with kept | ⟨lost, dropped, unquarantined⟩
      · exact .inl kept
      · rcases held event lost with again | refused | settled
        · exact absurd again dropped
        · exact absurd refused unquarantined
        · exact .inr settled
    · exact .inr settled
  | quarantining =>
    rw [place] at calm
    refine ⟨?_, trivial⟩
    intro event member
    exact (h.noLoss event member).imp_left fun kept =>
      quarantine_kept kept (Option.isNone_iff_eq_none.mp calm)
  | removing =>
    rw [place] at held
    refine ⟨?_, trivial⟩
    intro event member
    exact (h.noLoss event member).imp_left fun kept =>
      removeSegment_kept kept (held event)
  | idle | scanning | sending => exact h

theorem step_retained {op} (h : Retained s) (calm : s.calm op = true) : Retained (s.step op) := by
  cases op with
  | append =>
    exact append_retained h (by simpa [Edge.calm] using calm)
  | scan | accessDenied =>
    unfold Edge.step
    dsimp only
    split
    · exact ⟨h.noLoss, trivial⟩
    · exact h
  | read =>
    unfold Edge.step
    dsimp only
    split
    · exact ⟨h.noLoss, trivial⟩
    · exact ⟨h.noLoss, read_held⟩
    · exact h
  | upload =>
    unfold Edge.step
    dsimp only
    split
    next place => exact upload_retained h place
    · exact h
  | settle => exact settle_retained h calm
  | crash => exact ⟨h.noLoss, trivial⟩

/-- In every interleaving from any spool directory that appends to no segment
the loop holds and replaces no quarantine file, no event is lost. -/
theorem noLoss_of_calm (dir : SpoolDir) (ops : List EdgeOp)
    (calm : Meets Edge.step (fun s op => s.calm op = true) (started dir)
      ops) : NoLoss (run Edge.step (started dir) ops) := by
  have retained : Retained (run Edge.step (started dir) ops) := by
    refine run_invariant Edge.step _ Retained ?_ calm ⟨?_, trivial⟩
    · intro s op calm retained
      exact step_retained retained calm
    · intro event member
      simp [started] at member
  exact retained.noLoss

/-! ## Interleavings -/

def emptyDir : SpoolDir := ⟨.empty, .empty, .empty⟩

def blockedEvent (id : String) : Event :=
  ⟨id, .block, ["sqli"], false, .syncDetected, "\x7b" ++ id ++ "\x7d"⟩

def appendDuringUpload : List EdgeOp :=
  [.append 1 (blockedEvent "a") .ok, .scan true, .read true,
    .append 1 (blockedEvent "b") .ok, .upload (.answered []), .settle .ok]

def quarantinedTwice : List EdgeOp :=
  [.append 1 (blockedEvent "a") .ok,
    .append 1 (blockedEvent "b") (.writeFailed 1), .scan true, .read true, .settle .ok, .read true,
    .append 1 (blockedEvent "c") (.writeFailed 1), .scan true, .read true, .settle .ok]

/-- The later event of the first run, and the one quarantined first in the
second, are in no file and were never answered. -/
theorem noLoss_interleaved : ¬ NoLoss (run Edge.step (started emptyDir) appendDuringUpload) ∧
      ¬ NoLoss (run Edge.step (started emptyDir) quarantinedTwice) := by
  constructor
  · intro noLoss
    rcases noLoss (blockedEvent "b") (by decide +kernel) with kept | settled
    · obtain ⟨file, pieces, -, segment | corrupt⟩ := kept
      · have none : (run Edge.step (started emptyDir)
            appendDuringUpload).dir.segments.rows = [] := by decide +kernel
        simp [Table.find?, none] at segment
      · have none : (run Edge.step (started emptyDir)
            appendDuringUpload).dir.corrupt.rows = [] := by decide +kernel
        simp [Table.find?, none] at corrupt
    · revert settled
      decide +kernel
  · intro noLoss
    rcases noLoss (blockedEvent "a") (by decide +kernel) with kept | settled
    · obtain ⟨file, pieces, member, segment | corrupt⟩ := kept
      · have none : (run Edge.step (started emptyDir)
            quarantinedTwice).dir.segments.rows = [] := by decide +kernel
        simp [Table.find?, none] at segment
      · have torn : (run Edge.step (started emptyDir) quarantinedTwice).dir.corrupt.rows =
              [(1, [.torn (blockedEvent "c") 1])] := by decide +kernel
        rw [← mem_iff_find?, torn] at corrupt
        obtain ⟨rfl, rfl⟩ : file = 1 ∧
            pieces = [.torn (blockedEvent "c") 1] := by simpa using corrupt
        simp at member
    · revert settled
      decide +kernel

/-- An event of the next hour arrives during the upload, one event is to be
retried, and the process crashes before it is sent again. -/
def calmUpload : List EdgeOp :=
  [.append 1 (blockedEvent "a") .ok, .append 1 (blockedEvent "b") .ok,
    .scan true, .read true, .append 2 (blockedEvent "c") .ok,
    .upload (.answered [⟨"b", "unavailable"⟩]), .settle .ok, .crash]

theorem noLoss_calmUpload : (run Edge.step (started emptyDir) calmUpload).returned.length = 3 ∧
      NoLoss (run Edge.step (started emptyDir) calmUpload) :=
  ⟨by decide +kernel, noLoss_of_calm emptyDir calmUpload (by decide +kernel)⟩

end YuFeng.Telemetry
