import YuFeng.Review.Frames

/-!
# Frames that were written are read back

The digest of a frame is taken over its records before `json.Marshal` escapes
them and compared with the records that are read, which are escaped.  A frame
is read back if no string of its messages has a character that is escaped;
otherwise it is put away as corrupt.
-/

namespace YuFeng.Frames

open YuFeng.Library

variable {S : Services}

variable {kind : Kind} {values : List kind.Message} {records : List String}
  {path : Path} {c : Char} {name raw : String} {spool : Spool}
  {faults : Faults}

/-! ## Records -/

/-- Protojson and JSON: a message comes back from its text, the text has the
characters of its strings, and a frame comes back with escaped records. -/
structure Services.Lawful (S : Services) : Prop where
  message : ∀ (kind : Kind) (value : kind.Message) (raw text : String),
    S.marshal kind value = .ok raw → S.compact raw = .ok text → S.unmarshal kind text = .ok value
  characters : ∀ (kind : Kind) (value : kind.Message) (raw text : String),
    S.marshal kind value = .ok raw → S.compact raw = .ok text →
      (plain text = true ↔ ∀ s ∈ kind.strings value, plain s = true)
  frame : ∀ (frame : ReviewFrame) (raw : String),
    S.marshalFrame frame = .ok raw → S.decodeFrame raw =
      .ok ({ frame with records := frame.records.map escape }, .eof)

def Recorded (S : Services) (kind : Kind) (value : kind.Message) (text : String) : Prop :=
  ∃ raw, S.marshal kind value = .ok raw ∧ S.compact raw = .ok text

theorem marshalReviewMessages_ok : S.marshalReviewMessages values = .ok records ↔
      List.Forall₂ (Recorded S kind) values records := by
  rw [Services.marshalReviewMessages, mapM_ok]
  simp only [seq_ok]
  rfl

theorem records_ne_nil (filled : values ≠ [])
    (marshalled : S.marshalReviewMessages values = .ok records) :
    records ≠ [] := by
  rintro rfl
  cases marshalReviewMessages_ok.mp marshalled
  exact filled rfl

theorem records_plain_iff (lawful : S.Lawful)
    (marshalled : List.Forall₂ (Recorded S kind) values records) :
    (∀ text ∈ records, plain text = true) ↔
      ∀ value ∈ values, ∀ s ∈ kind.strings value, plain s = true := by
  induction marshalled with
  | nil => simp
  | cons recorded _ ih =>
    obtain ⟨raw, marshal, compact⟩ := recorded
    rw [List.forall_mem_cons, List.forall_mem_cons, ih, lawful.characters _ _ raw _ marshal compact]

theorem records_unmarshal (lawful : S.Lawful)
    (marshalled : List.Forall₂ (Recorded S kind) values records) :
    records.mapM (fun raw => (S.unmarshal kind raw).mapError fun message =>
      path.text ++ ": " ++ message) = .ok values := by
  rw [mapM_ok]
  induction marshalled with
  | nil => exact .nil
  | cons recorded _ ih =>
    obtain ⟨raw, marshal, compact⟩ := recorded
    refine .cons ?_ ih
    rw [mapError_ok]
    exact lawful.message _ _ raw _ marshal compact

/-! ## Names -/

theorem last_append {s ending : String} (last : ending.toList.getLast? = some c) :
    (s ++ ending).toList.getLast? = some c :=
  endsWith_last last (endsWith_append s ending)

theorem fileName_last (kind digest) {suffix : String} (last : suffix.toList.getLast? = some c) :
    (fileName kind digest suffix).toList.getLast? = some c :=
  last_append last

theorem quarantineName_last (name ending) :
    (quarantineName name ending).toList.getLast? = some (match ending with
        | .rejected => 'd'
        | .corrupt => 't') := by
  cases ending with
  | rejected | corrupt => exact last_append rfl

theorem frame_last (h : endsWith frameSuffix name = true) : name.toList.getLast? = some 'e' :=
  endsWith_last rfl h

theorem quarantineName_not_frame (name ending) :
    endsWith frameSuffix (quarantineName name ending) = false := by
  rw [← Bool.not_eq_true]
  intro frame
  have last := frame_last frame
  rw [quarantineName_last] at last
  cases ending <;> simp at last

theorem fileName_inj {kind' records'}
    (h : fileName kind (S.digestReviewRecords records) frameSuffix =
      fileName kind' (S.digestReviewRecords records') frameSuffix) :
    kind = kind' ∧ S.digestReviewRecords records = S.digestReviewRecords records' := by
  have fronts := (String.append_left_inj _).mp h
  have same : kind = kind' := by
    have heads := congrArg (fun s => s.toList.head?) fronts
    cases kind with
    | windows =>
      cases kind' with
      | windows => rfl
      | candidates => simp [Kind.name] at heads
    | candidates =>
      cases kind' with
      | windows => simp [Kind.name] at heads
      | candidates => rfl
  subst same
  refine ⟨rfl, ?_⟩
  have hexes := (String.append_right_inj _).mp fronts
  simp only [Services.digestReviewRecords, trimStart_append] at hexes ⊢
  rw [hexes]

/-! ## Intact frames -/

def FrameFile (S : Services) (name raw : String) : Prop :=
  ∃ kind records, records ≠ [] ∧ name = fileName kind (S.digestReviewRecords records) frameSuffix ∧
    S.marshalFrame (S.frame kind records) = .ok raw

def Intact (S : Services) (spool : Spool) : Prop :=
  ∀ name raw, spool.files.find? name = some raw →
    endsWith frameSuffix name = true → FrameFile S name raw

theorem Intact.put (h : Intact S spool)
    (holds : endsWith frameSuffix name = true → FrameFile S name raw) :
    Intact S (spool.put name raw) :=
  Table.forall_set holds h

theorem Intact.erase (h : Intact S spool) (path : Path) : Intact S (spool.erase path) := by
  unfold Spool.erase
  split
  · intro name raw found frame
    exact h name raw (Table.find?_erase_some found).2 frame
  · exact h

theorem Intact.select (h : Intact S spool) (keep : String → Bool) :
    Intact S { spool with files := spool.files.select keep } := by
  intro name raw found frame
  rw [Table.find?_select] at found
  split at found
  · exact h name raw found frame
  · cases found

theorem write_intact (holds : endsWith frameSuffix name = true → FrameFile S name raw) :
    Effect.Preserves (Intact S) (writeReviewFrameLocked faults name raw) :=
  .bind (.attempt _) fun _ =>
    .bind (.change fun _ intact => intact.put holds) fun _ => .attempt _

theorem removeFile_intact (faults path) : Effect.Preserves (Intact S) (removeFile faults path) :=
  .bind (.attempt _) fun _ =>
    .bind (.change fun _ intact => intact.erase path) fun _ => .attempt _

section Rules

variable {Inv : Spool → Prop}

theorem overLimit_preserves (faults kind extra) :
    Effect.Preserves Inv (overLimitLocked faults kind extra) :=
  .bind (.attempt _) fun _ => .bind (.read _) fun _ => .attempt _

theorem statSize_preserves (faults path) : Effect.Preserves Inv (statSize faults path) := by
  refine .bind (.attempt _) fun _ => .bind (.read _) fun found => ?_
  cases found with
  | none => exact .attempt _
  | some => exact .pure _

theorem replace_preserves (removed : Effect.Preserves Inv (removeFile faults path))
    (wrote : ∀ records raw, records ≠ [] → S.marshalFrame (S.frame kind records) = .ok raw →
      Effect.Preserves Inv (writeReviewFrameLocked faults
        (fileName kind (S.digestReviewRecords records) frameSuffix) raw)) :
    Effect.Preserves Inv (S.replace faults path kind values) := by
  unfold Services.replace
  split
  · exact removed
  next filled =>
    rw [List.isEmpty_iff] at filled
    refine .bind_attempt fun records marshalled =>
      .bind_attempt fun raw written => ?_
    refine .bind (.read _) fun valid => .bind (.attempt _) fun _ => ?_
    dsimp only
    split
    · exact .pure ()
    · refine .bind (.attempt _) fun _ => .bind (.read _) fun found => ?_
      split
      · exact removed
      · exact .bind (statSize_preserves _ _) fun old =>
          .bind (overLimit_preserves _ _ _) fun _ =>
            .bind (wrote records raw (records_ne_nil filled marshalled) written) fun _ => removed

theorem quarantineMessages_preserves (wrote : ∀ digest raw, Effect.Preserves Inv
      (writeReviewFrameLocked faults (fileName kind digest ".rejected") raw)) :
    Effect.Preserves Inv (S.quarantineMessages faults kind values) := by
  unfold Services.quarantineMessages
  split
  · exact .pure ()
  · refine .bind (.attempt _) fun records => .bind (.attempt _) fun raw => ?_
    refine .bind (.attempt _) fun _ => .bind (.read _) fun found => ?_
    split
    · exact .pure ()
    · exact wrote _ raw

end Rules

theorem append_intact (faults kind) (values : List kind.Message) :
    Effect.Preserves (Intact S) (S.append faults kind values) := by
  unfold Services.append
  split
  · exact .pure ()
  next filled =>
    rw [List.isEmpty_iff] at filled
    refine .bind_attempt fun records marshalled =>
      .bind_attempt fun raw written => ?_
    refine .bind (.attempt _) fun _ => .bind (.read _) fun found => ?_
    split
    · exact .pure ()
    · exact .bind (overLimit_preserves _ _ _) fun _ => write_intact fun _ =>
        ⟨kind, records, records_ne_nil filled marshalled, rfl, written⟩

theorem replace_intact (faults path kind) (values : List kind.Message) :
    Effect.Preserves (Intact S) (S.replace faults path kind values) :=
  replace_preserves (removeFile_intact faults path) fun records _ filled written =>
    write_intact fun _ => ⟨kind, records, filled, rfl, written⟩

theorem quarantineMessages_intact (faults kind) (values : List kind.Message) :
    Effect.Preserves (Intact S) (S.quarantineMessages faults kind values) := by
  refine quarantineMessages_preserves fun digest raw => write_intact fun frame => ?_
  have last := frame_last frame
  rw [fileName_last kind _ (c := 'd') rfl] at last
  simp at last

theorem quarantine_intact (faults path ending) :
    Effect.Preserves (Intact S) (quarantine faults path ending) := by
  refine .bind (.attempt _) fun _ => .bind (.read _) fun found => ?_
  cases found with
  | none => exact .attempt _
  | some =>
    refine .bind (.change fun spool intact => ?_) fun _ => .attempt _
    apply (intact.erase path).put
    rw [quarantineName_not_frame]
    exact fun impossible => by cases impossible

/-! ## Runs -/

inductive Op where
  | append (faults : Faults) (kind : Kind) (values : List kind.Message)
  | replace (faults : Faults) (path : Path) (kind : Kind) (values : List kind.Message)
  | quarantineMessages (faults : Faults) (kind : Kind) (values : List kind.Message)
  | remove (faults : Faults) (path : Path)
  | quarantine (faults : Faults) (path : Path) (ending : Ending)
  | cleanup (expired : String → Bool)

def Op.effect (S : Services) : Op → Disk Unit
  | .append faults kind values => S.append faults kind values
  | .replace faults path kind values => S.replace faults path kind values
  | .quarantineMessages faults kind values =>
    S.quarantineMessages faults kind values
  | .remove faults path => removeFile faults path
  | .quarantine faults path ending => Frames.quarantine faults path ending
  | .cleanup expired => .change (·.cleanupQuarantine expired)

def step (S : Services) (spool : Spool) (op : Op) : Spool := (op.effect S spool).2

theorem step_intact (op : Op) (h : Intact S spool) : Intact S (step S spool op) := by
  cases op with
  | append => exact append_intact _ _ _ _ h
  | replace => exact replace_intact _ _ _ _ _ h
  | quarantineMessages =>
    exact quarantineMessages_intact _ _ _ _ h
  | remove => exact removeFile_intact _ _ _ h
  | quarantine => exact quarantine_intact _ _ _ _ h
  | cleanup => exact h.select _

def Spool.new (directory : String) : Spool := ⟨directory, .empty⟩

theorem run_intact (directory ops) : Intact S (run (step S) (.new directory) ops) := by
  refine run_always (step S) (Intact S) (fun _ op => step_intact op) ?_ ops
  intro name raw found
  cases found

/-! ## What a successful call has written -/

section Done

variable {spool after : Spool} {faults : Faults}

theorem pass_done {point} {rest : Unit → Disk Unit}
    (h : (pass faults point >>= rest) spool = (.ok (), after)) :
    rest () spool = (.ok (), after) := by
  obtain ⟨_, _, done⟩ := Effect.attempt_bind_ok_iff.mp h
  exact done

theorem write_done (h : writeReviewFrameLocked faults name raw spool = (.ok (), after)) :
    after = spool.put name raw := by
  have h := pass_done h
  exact ((Prod.mk.injEq ..).mp h).2.symm

theorem removeFile_done (h : removeFile faults path spool = (.ok (), after)) :
    after = spool.erase path := by
  have h := pass_done h
  exact ((Prod.mk.injEq ..).mp h).2.symm

theorem overLimit_done {extra} {rest : Unit → Disk Unit}
    (h : (overLimitLocked faults kind extra >>= rest) spool =
      (.ok (), after)) : rest () spool = (.ok (), after) := by
  obtain ⟨_, mid, checked, done⟩ := Effect.bind_ok_iff.mp h
  obtain ⟨_, _, checked⟩ := Effect.attempt_bind_ok_iff.mp checked
  cases ((Prod.mk.injEq ..).mp checked).2
  exact done

theorem statSize_done {rest : Int → Disk Unit}
    (h : (statSize faults path >>= rest) spool = (.ok (), after)) :
    ∃ size, rest size spool = (.ok (), after) := by
  obtain ⟨size, mid, found, done⟩ := Effect.bind_ok_iff.mp h
  obtain ⟨_, _, found⟩ := Effect.attempt_bind_ok_iff.mp found
  rw [Effect.read_bind] at found
  cases there : spool.find? path with
  | none =>
    rw [there] at found
    cases found
  | some =>
    rw [there] at found
    cases found
    exact ⟨_, done⟩

def Services.frameName (S : Services) (kind : Kind) (records : List String) : String :=
  fileName kind (S.digestReviewRecords records) frameSuffix

structure Left (spool after : Spool) (name raw : String) : Prop where
  directory : after.directory = spool.directory
  file : ∃ stored, after.files.find? name = some stored ∧
    (stored = raw ∨ spool.files.find? name = some stored)

theorem Left.put (spool name raw) : Left spool (spool.put name raw) name raw :=
  ⟨rfl, raw, Table.find?_set_self _ _ _, .inl rfl⟩

theorem Left.same (there : (spool.files.find? name).isSome = true) : Left spool spool name raw := by
  obtain ⟨stored, found⟩ := Option.isSome_iff_exists.mp there
  exact ⟨rfl, stored, found, .inr found⟩

theorem Left.erase (h : Left spool after name raw) (other : path.name ≠ name) :
    Left spool (after.erase path) name raw := by
  unfold Spool.erase
  split
  · obtain ⟨directory, stored, found, origin⟩ := h
    refine ⟨directory, stored, ?_, origin⟩
    rw [Table.find?_erase, if_neg (Ne.symm other)]
    exact found
  · exact h

variable {kind : Kind} {values : List kind.Message} {records : List String}

theorem append_left (filled : values ≠ [])
    (marshalled : S.marshalReviewMessages values = .ok records)
    (done : S.append faults kind values spool = (.ok (), after)) :
    ∃ raw, S.marshalFrame (S.frame kind records) = .ok raw ∧
      Left spool after (S.frameName kind records) raw := by
  rw [Services.append, if_neg (by simpa using filled), marshalled, Effect.attempt_bind_ok] at done
  obtain ⟨raw, written, done⟩ := Effect.attempt_bind_ok_iff.mp done
  refine ⟨raw, written, ?_⟩
  have done := pass_done done
  rw [Effect.read_bind] at done
  split at done
  next there =>
    cases done
    exact .same there
  · have done := overLimit_done done
    rw [write_done done]
    exact .put _ _ _

theorem replace_left (filled : values ≠ [])
    (marshalled : S.marshalReviewMessages values = .ok records)
    (there : (spool.find? path).isSome = true)
    (done : S.replace faults path kind values spool = (.ok (), after)) :
    ∃ raw, S.marshalFrame (S.frame kind records) = .ok raw ∧
      Left spool after (S.frameName kind records) raw := by
  rw [Services.replace, if_neg (by simpa using filled), marshalled, Effect.attempt_bind_ok] at done
  obtain ⟨raw, written, done⟩ := Effect.attempt_bind_ok_iff.mp done
  refine ⟨raw, written, ?_⟩
  obtain ⟨_, valid, done⟩ := Effect.attempt_bind_ok_iff.mp done
  rw [ensure_ok, replaceable, Bool.and_eq_true, Bool.and_eq_true, beq_iff_eq] at valid
  split at done
  next same =>
    cases done
    rw [Spool.find?, if_pos valid.1.1, same] at there
    exact .same there
  next other =>
    have done := pass_done done
    rw [Effect.read_bind] at done
    split at done
    next present =>
      rw [removeFile_done done]
      exact Left.erase (.same present) other
    · obtain ⟨_, done⟩ := statSize_done done
      have done := overLimit_done done
      obtain ⟨_, mid, put, removed⟩ := Effect.bind_ok_iff.mp done
      rw [removeFile_done removed, write_done put]
      exact Left.erase (.put _ _ _) other

end Done

/-! ## Reading a frame -/

/-- No other records at hand have the digest of these. -/
structure CollisionFree (S : Services) (spool : Spool) (kind : Kind)
    (records : List String) : Prop where
  escaped : S.digestReviewRecords (records.map escape) =
    S.digestReviewRecords records → records.map escape = records
  stored : ∀ other raw, S.marshalFrame (S.frame kind other) = .ok raw →
    spool.files.find? (S.frameName kind other) = some raw →
      S.digestReviewRecords other = S.digestReviewRecords records → other = records

section Reading

variable {spool after : Spool} {kind : Kind} {values : List kind.Message}
  {records : List String} {raw : String}

theorem Left.stored (left : Left spool after (S.frameName kind records) raw)
    (intact : Intact S spool) (free : CollisionFree S spool kind records)
    (written : S.marshalFrame (S.frame kind records) = .ok raw) :
    after.files.find? (S.frameName kind records) = some raw := by
  obtain ⟨_, stored, found, rfl | old⟩ := left
  · exact found
  · obtain ⟨kind', other, _, name, holds⟩ := intact _ stored old (endsWith_append _ _)
    obtain ⟨rfl, digest⟩ := fileName_inj name
    have there := old
    rw [name] at there
    obtain rfl := free.stored other stored holds there digest.symm
    rw [found, Except.ok.inj (holds.symm.trans written)]

theorem readReviewFrame_ok_iff (lawful : S.Lawful) {out} (readable : faults .read = none)
    (found : spool.find? path = some raw) (filled : records ≠ [])
    (written : S.marshalFrame (S.frame kind records) = .ok raw) :
    S.readReviewFrame faults spool path kind = .ok out ↔
      S.digestReviewRecords records = S.digestReviewRecords (records.map escape) ∧
      records.map escape = out := by
  have decoded := lawful.frame _ raw written
  have opened : faults.at .read = .ok () := by
    rw [Faults.at, readable]
  rw [Services.readReviewFrame, opened, seq_ok]
  simp only [found, decoded, Except.mapError]
  rw [seq_ok]
  simp only [Except.ok.injEq, exists_eq_left', Services.frame,
    ensure_bind_ok, Bool.and_eq_true, beq_iff_eq, Bool.not_eq_true',
    List.isEmpty_map, List.isEmpty_eq_false_iff, pure, Except.pure]
  tauto

theorem readMessages_iff (lawful : S.Lawful) (readable : faults .read = none)
    (found : spool.find? path = some raw) (filled : values ≠ [])
    (marshalled : S.marshalReviewMessages values = .ok records)
    (written : S.marshalFrame (S.frame kind records) = .ok raw)
    (free : CollisionFree S after kind records) :
    S.readMessages faults spool path kind = .ok values ↔
      ∀ value ∈ values, ∀ s ∈ kind.strings value, plain s = true := by
  have texts := marshalReviewMessages_ok.mp marshalled
  have some := records_ne_nil filled marshalled
  rw [← records_plain_iff lawful texts, ← map_escape_eq_iff, Services.readMessages, seq_ok]
  constructor
  · rintro ⟨out, read, _⟩
    have digest := (readReviewFrame_ok_iff lawful readable found some written).mp read
    exact free.escaped digest.1.symm
  · intro same
    refine ⟨records, ?_, records_unmarshal lawful texts⟩
    rw [readReviewFrame_ok_iff lawful readable found some written, same]
    exact ⟨rfl, rfl⟩

end Reading

/-! ## Uploading a frame -/

def corruptFile (path : Path) (spool : Spool) : Option String :=
  spool.files.find? (quarantineName path.name .corrupt)

section Keeping

variable {path : Path} {faults : Faults} {file : Option String}

theorem write_keeps (last : name.toList.getLast? = some c) (other : c ≠ 't') :
    Effect.Preserves (corruptFile path · = file) (writeReviewFrameLocked faults name raw) := by
  refine .bind (.attempt _) fun _ => .bind (.change fun spool same => ?_) fun _ => .attempt _
  have different : quarantineName path.name .corrupt ≠ name := by
    intro same
    have corrupt := quarantineName_last path.name .corrupt
    rw [same, last] at corrupt
    exact other (Option.some.inj corrupt)
  rw [← same]
  exact Table.find?_set_of_ne different _ _

theorem removeFile_keeps (frame : endsWith frameSuffix path.name = true) :
    Effect.Preserves (corruptFile path · = file) (removeFile faults path) := by
  refine .bind (.attempt _) fun _ => .bind (.change fun spool same => ?_) fun _ => .attempt _
  have different : quarantineName path.name .corrupt ≠ path.name := by
    intro same
    rw [← same, quarantineName_not_frame] at frame
    cases frame
  rw [← same]
  unfold Spool.erase corruptFile
  split
  · rw [Table.find?_erase, if_neg different]
  · rfl

theorem settle_keeps (frame : endsWith frameSuffix path.name = true) (attempt kind)
    (values : List kind.Message) :
    Effect.Preserves (corruptFile path · = file) (S.settle attempt kind path values) :=
  .bind (.attempt _) fun _ => .bind (.attempt _) fun _ => .bind (.attempt _) fun _ =>
    .bind (quarantineMessages_preserves fun _ _ => write_keeps (fileName_last _ _ rfl) (by decide))
      fun _ => .bind (replace_preserves (removeFile_keeps frame) fun _ _ _ _ =>
        write_keeps (fileName_last _ _ rfl) (by decide)) fun _ => .attempt _

theorem uploadFrame_keeps {attempt} (frame : endsWith frameSuffix path.name = true)
    (read : S.readMessages attempt.read spool path kind = .ok values) :
    corruptFile path (S.uploadFrame attempt kind path spool).2 = corruptFile path spool := by
  rw [Services.uploadFrame, Effect.read_bind, read]
  dsimp only
  split
  · exact removeFile_keeps frame spool rfl
  · exact settle_keeps frame attempt kind values spool rfl

end Keeping

/-! ## Frames come back -/

/-- A call that has stored a frame of the messages, by `replace` in the place
of a frame that is there. -/
inductive Written (S : Services) (spool after : Spool) (kind : Kind)
    (values : List kind.Message) : Prop where
  | append (faults : Faults) (done : S.append faults kind values spool = (.ok (), after))
  | replace (faults : Faults) (path : Path) (there : (spool.find? path).isSome = true)
      (done : S.replace faults path kind values spool = (.ok (), after))

def Services.framePath (S : Services) (spool : Spool) (kind : Kind)
    (records : List String) : Path :=
  ⟨spool.directory, S.frameName kind records⟩

/-- The messages are read from the frame, and no upload puts it away as
corrupt. -/
structure Returned (S : Services) (spool : Spool) (kind : Kind)
    (values : List kind.Message) (path : Path) : Prop where
  read : S.readMessages (fun _ => none) spool path kind = .ok values
  kept : ∀ attempt : Attempt, attempt.read .read = none →
    corruptFile path (S.uploadFrame attempt kind path spool).2 = corruptFile path spool

theorem frame_returned_iff (lawful : S.Lawful) (directory : String)
    (ops : List Op) {after : Spool} {kind : Kind}
    {values : List kind.Message} {records : List String}
    (filled : values ≠ [])
    (marshalled : S.marshalReviewMessages values = .ok records)
    (written : Written S (run (step S) (.new directory) ops) after kind values)
    (free : CollisionFree S (run (step S) (.new directory) ops) kind records) :
    Returned S after kind values (S.framePath after kind records) ↔
      ∀ value ∈ values, ∀ s ∈ kind.strings value, plain s = true := by
  obtain ⟨raw, frame, left⟩ : ∃ raw, S.marshalFrame (S.frame kind records) = .ok raw ∧
      Left (run (step S) (.new directory) ops) after (S.frameName kind records) raw := by
    cases written with
    | append _ done => exact append_left filled marshalled done
    | replace _ _ there done =>
      exact replace_left filled marshalled there done
  have found : after.find? (S.framePath after kind records) = some raw := by
    have here : (S.framePath after kind records).directory =
        after.directory := rfl
    rw [Spool.find?, if_pos here]
    exact left.stored (run_intact directory ops) free frame
  have back {faults : Faults} (readable : faults .read = none) :=
    readMessages_iff lawful readable found filled marshalled frame free
  constructor
  · intro returned
    exact (back rfl).mp returned.read
  · intro unescaped
    refine ⟨(back rfl).mpr unescaped, fun attempt readable => ?_⟩
    exact uploadFrame_keeps (endsWith_append _ _) ((back readable).mpr unescaped)

/-! ## One window -/

instance {κ ρ : Type} [DecidableEq κ] [DecidableEq ρ] :
    DecidableEq (Table κ ρ) := fun a b =>
  decidable_of_iff (a.rows = b.rows) ⟨Table.ext, congrArg Table.rows⟩

deriving instance DecidableEq for Review.TrafficWindow

def methodWindow (method : String) : Review.TrafficWindow where
  windowId := "w-1"
  unitId := ""
  assetId := ""
  windowStart := none
  windowEnd := none
  generationId := ""
  generationSeq := 0
  policyDigest := ""
  requestCount := 0
  criticalCount := 0
  blockedCount := 0
  observedCount := 0
  incompleteCount := 0
  routeCells := [⟨method, "", 0, 0, 0, 0⟩]
  other := none
  evidenceDroppedCount := 0
  reviewMode := .unspecified
  evidenceDropReasons := .empty

def methodText (method : String) : String :=
  "\x7b\"windowId\":\"w-1\",\"routeCells\":[\x7b\"method\":\"" ++ method ++ "\"\x7d]\x7d"

def lengthHash : Services where
  sum256 bytes := Vector.replicate 32 (UInt8.ofNat bytes.length)
  marshal _ _ := .error "unsupported"
  unmarshal _ _ := .error "unsupported"
  compact := .ok
  marshalFrame _ := .error "unsupported"
  decodeFrame _ := .error "unsupported"

def methodFrame (method : String) : ReviewFrame := lengthHash.frame .windows [methodText method]

def methodRaw (method : String) : String :=
  "\x7b\"version\":1,\"kind\":\"windows\",\"records\":[" ++
    escape (methodText method) ++ "],\"payload_digest\":\"" ++
    (methodFrame method).payloadDigest ++ "\"\x7d"

def methodServices : Services :=
  { lengthHash with
    marshal := fun kind => match kind with
      | .windows => fun (w : Review.TrafficWindow) =>
        if w = methodWindow "GET" then .ok (methodText "GET")
        else if w = methodWindow "A&B" then .ok (methodText "A&B")
        else .error "unsupported"
      | .candidates => fun _ => .error "unsupported"
    unmarshal := fun kind => match kind with
      | .windows => fun text =>
        if text = methodText "GET" then .ok (methodWindow "GET")
        else if text = methodText "A&B" then .ok (methodWindow "A&B")
        else .error "unsupported"
      | .candidates => fun _ => .error "unsupported"
    marshalFrame := fun frame =>
      if frame = methodFrame "GET" then .ok (methodRaw "GET")
      else if frame = methodFrame "A&B" then .ok (methodRaw "A&B")
      else .error "unsupported"
    decodeFrame := fun raw =>
      if raw = methodRaw "GET" then
        .ok ({ methodFrame "GET" with
          records := (methodFrame "GET").records.map escape }, .eof)
      else if raw = methodRaw "A&B" then
        .ok ({ methodFrame "A&B" with
          records := (methodFrame "A&B").records.map escape }, .eof)
      else .error "unsupported" }

theorem methodServices_marshal {w} (h : methodServices.marshal .windows w = .ok raw) :
    ∃ method ∈ ["GET", "A&B"], w = methodWindow method ∧ raw = methodText method := by
  simp only [methodServices] at h
  split at h
  · cases h
    exact ⟨"GET", by simp, ‹_›, rfl⟩
  · split at h
    · cases h
      exact ⟨"A&B", by simp, ‹_›, rfl⟩
    · cases h

theorem methodText_ne : methodText "A&B" ≠ methodText "GET" := by
  decide +kernel

theorem methodRaw_ne : methodRaw "A&B" ≠ methodRaw "GET" := by
  decide +kernel

theorem methodServices_lawful : methodServices.Lawful where
  message kind value raw text marshal compact := by
    cases compact
    cases kind with
    | windows =>
      obtain ⟨method, known, rfl, rfl⟩ := methodServices_marshal marshal
      simp only [List.mem_cons, List.not_mem_nil, or_false] at known
      simp only [methodServices]
      rcases known with rfl | rfl
      · rw [if_pos rfl]
      · rw [if_neg methodText_ne, if_pos rfl]
    | candidates => cases marshal
  characters kind value raw text marshal compact := by
    cases compact
    cases kind with
    | windows =>
      obtain ⟨method, known, rfl, rfl⟩ := methodServices_marshal marshal
      simp only [List.mem_cons, List.not_mem_nil, or_false] at known
      rcases known with rfl | rfl <;> decide +kernel
    | candidates => cases marshal
  frame frame raw marshalled := by
    simp only [methodServices] at marshalled ⊢
    split at marshalled
    next same =>
      cases marshalled
      rw [if_pos rfl, same]
    · split at marshalled
      next same =>
        cases marshalled
        rw [if_neg methodRaw_ne, if_pos rfl, same]
      · cases marshalled

def methodMessages (method : String) : List Kind.windows.Message := [methodWindow method]

def emptySpool : Spool := .new "/var/lib/edge/review"

def methodSpool (method : String) : Spool :=
  (methodServices.append (fun _ => none) .windows (methodMessages method) emptySpool).2

def methodPath (method : String) : Path :=
  methodServices.framePath (methodSpool method) .windows [methodText method]

theorem methodSpool_written {method} (stored : (methodServices.append (fun _ => none) .windows
      (methodMessages method) emptySpool).1 = .ok ()) :
    Written methodServices emptySpool (methodSpool method) .windows (methodMessages method) :=
  .append (fun _ => none) (Prod.ext stored rfl)

theorem emptySpool_free (escaped : methodServices.digestReviewRecords (records.map escape) =
      methodServices.digestReviewRecords records → records.map escape = records) :
    CollisionFree methodServices emptySpool .windows records where
  escaped := escaped
  stored other raw _ found := by cases found

theorem frame_returned_iff_get :
    Returned methodServices (methodSpool "GET") .windows
      (methodMessages "GET") (methodPath "GET") := by
  have marshalled : methodServices.marshalReviewMessages
      (methodMessages "GET") = .ok [methodText "GET"] := by
    decide +kernel
  refine (frame_returned_iff methodServices_lawful "/var/lib/edge/review" []
    (List.cons_ne_nil _ _) marshalled
    (methodSpool_written (by decide +kernel))
    (emptySpool_free (by decide +kernel))).mpr ?_
  decide +kernel

/-- The method has an ampersand, which is escaped in the frame. -/
theorem frame_lost :
    Written methodServices emptySpool (methodSpool "A&B") .windows (methodMessages "A&B") ∧
      CollisionFree methodServices emptySpool .windows [methodText "A&B"] ∧
      ¬ Returned methodServices (methodSpool "A&B") .windows
        (methodMessages "A&B") (methodPath "A&B") := by
  refine ⟨methodSpool_written (by decide +kernel),
    emptySpool_free (by decide +kernel), fun returned => ?_⟩
  have failed : (methodServices.readMessages (fun _ => none)
      (methodSpool "A&B") (methodPath "A&B") .windows).isOk = false := by
    decide +kernel
  rw [returned.read] at failed
  cases failed

end YuFeng.Frames
