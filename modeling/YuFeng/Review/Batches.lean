import Mathlib
import YuFeng.Review.Runtime

/-!
# Frames that can be uploaded

A frame can be uploaded if it has at most 100 records and its identifiers are
distinct.  This holds as long as no window is frozen that already waits under
the same start and generation, and the windows and candidates that wait leave
room for it.
-/

namespace YuFeng.Review

open YuFeng.Library

/-! ## Uploadable frames -/

structure Uploadable {α : Type} (id : α → String) (frame : List α) :
    Prop where
  size : batchExceeded frame = false
  distinct : (frame.map id).Nodup
  split : ∀ rejected, splitRejected id frame rejected ≠ .error .source

theorem sourceIdentities_of_nodup {ids seen} (distinct : ids.Nodup)
    (visible : ∀ id ∈ ids, blank id = false) (fresh : ∀ id ∈ ids, id ∉ seen) :
    sourceIdentities seen ids = true := by
  induction ids generalizing seen with
  | nil => rfl
  | cons _ _ ih =>
    rw [List.nodup_cons] at distinct
    rw [List.forall_mem_cons] at visible fresh
    rw [sourceIdentities, if_neg (by simp [visible.1, fresh.1])]
    apply ih distinct.2 visible.2
    intro later member
    rw [List.mem_cons]
    rintro (rfl | old)
    · exact distinct.1 member
    · exact fresh.2 later member old

theorem uploadable_of_nodup {α : Type} {id : α → String} {frame} (few : frame.length ≤ 100)
    (distinct : (frame.map id).Nodup) (visible : ∀ x ∈ frame.map id, blank x = false) :
    Uploadable id frame := by
  refine ⟨by simpa [batchExceeded] using few, distinct, ?_⟩
  intro rejected
  have valid := sourceIdentities_of_nodup distinct visible fun _ _ => List.not_mem_nil
  rw [splitRejected, if_neg (by simp [valid])]
  split
  · nofun
  · dsimp only
    split <;> nofun

theorem splitRejected_refused {α : Type} {id : α → String} {frame}
    (h : sourceIdentities [] (frame.map id) = false) (rejected) :
    splitRejected id frame rejected = .error .source := by
  rw [splitRejected, if_pos (by simp [h])]

/-! ## The identity of a window -/

/-- Times are written without a NUL, and no two times in the same way. -/
structure Formats (S : Services) : Prop where
  injective : ∀ t t', S.formatTime t = S.formatTime t' → t = t'
  plain : ∀ t, '\x00' ∉ (S.formatTime t).toList

theorem windowText_inj {S} (formats : Formats S)
    {unitId assetId policy generation generation' start start' genSeq}
    (h : windowText S unitId assetId start generation genSeq policy =
      windowText S unitId assetId start' generation' genSeq policy) :
    start = start' ∧ generation = generation' := by
  rw [windowText, windowText, ← String.toList_inj] at h
  simp only [String.toList_append, List.append_assoc, List.append_cancel_left_eq] at h
  have nul : "\x00".toList = ['\x00'] := rfl
  rw [nul] at h
  simp only [List.singleton_append] at h
  obtain ⟨times, rest⟩ := append_cons_inj (formats.plain start) (formats.plain start') h
  have generations := List.append_cancel_right rest
  exact ⟨formats.injective _ _ (String.toList_inj.mp times), String.toList_inj.mp generations⟩

def textOf (S : Services) (w : TrafficWindow) : String :=
  windowText S w.unitId w.assetId ((w.windowStart.map (·.asTime)).getD 0)
    w.generationId w.generationSeq w.policyDigest

/-- SHA-256 tells the open window from the ones that wait. -/
def collisionFree (S : Services) (c : ReviewCollector) (s : WindowState) : Bool :=
  c.readyW.all fun w =>
    S.sum256 (textOf S w) ≠ S.sum256 (windowText S s.unitId s.assetId s.start
        s.generation s.genSeq s.policy) ||
      textOf S w = windowText S s.unitId s.assetId s.start s.generation s.genSeq s.policy

/-- What waits leaves room for the open window, and none of it has its start
and its generation. -/
def calm (c : ReviewCollector) (s : WindowState) : Bool :=
  c.readyW.length < 100 && c.readyC.length + s.candidates.length ≤ 100 && c.readyW.all fun w =>
      w.windowStart ≠ some (.new s.start) || w.generationId ≠ s.generation

/-! ## What waits in a collector -/

structure NamedWindow (S : Services) (unitId assetId : String)
    (genSeq : Int) (digest : String) (w : TrafficWindow) : Prop where
  id : w.windowId = windowHash S (textOf S w)
  unit : w.unitId = unitId
  asset : w.assetId = assetId
  seq : w.generationSeq = genSeq
  policy : w.policyDigest = digest
  start : ∃ t, w.windowStart = some (.new t)

def openIds (c : ReviewCollector) : List String :=
  match c.state with
  | some s => s.candidates.map (·.candidateId)
  | none => []

def candidateIds (c : ReviewCollector) : List String := c.readyC.map (·.candidateId) ++ openIds c

structure Waiting (S : Services) (unitId assetId : String) (genSeq : Int)
    (c : ReviewCollector) : Prop where
  windows : c.readyW.length ≤ 100
  candidates : c.readyC.length ≤ 100
  names : (c.readyW.map (·.windowId)).Nodup
  named : ∀ w ∈ c.readyW, NamedWindow S unitId assetId genSeq c.digest w
  ids : (candidateIds c).Nodup
  visible : ∀ id ∈ candidateIds c, blank id = false
  state : ∀ s, c.state = some s → s.unitId = unitId ∧
    s.assetId = assetId ∧ s.genSeq = genSeq ∧ s.policy = c.digest

section Freezing

variable {S : Services} {unitId assetId : String} {genSeq : Int}
  {c : ReviewCollector} {s : WindowState}

variable (vault : Vault)

theorem freeze_named (labels : s.unitId = unitId ∧ s.assetId = assetId ∧
      s.genSeq = genSeq ∧ s.policy = c.digest) :
    NamedWindow S unitId assetId genSeq c.digest (freeze S vault c s).1 := by
  have same := fixCandidates_labels vault c s
  simp only [WindowState.labels, Labels.mk.injEq] at same
  obtain ⟨-, -, unit, asset, -, seq, policy⟩ := same
  obtain ⟨unit', asset', seq', policy'⟩ := labels
  constructor
  · rw [freeze, windowMessage, reviewWindowID, textOf]
    simp
  · exact unit.trans unit'
  · exact asset.trans asset'
  · exact seq.trans seq'
  · exact policy.trans policy'
  · exact ⟨_, rfl⟩

theorem freeze_windowId (S vault c s) : (freeze S vault c s).1.windowId = reviewWindowID S s :=
  reviewWindowID_congr S (fixCandidates_labels vault c s)

theorem windowHash_inj {text text'} (h : windowHash S text = windowHash S text') :
    S.sum256 text = S.sum256 text' := by
  rw [windowHash, windowHash, ← String.toList_inj, String.toList_append, String.toList_append] at h
  have digits := List.append_cancel_left h
  exact Vector.toList_inj.mp (hexEncode_inj (String.toList_inj.mp digits))

section

open List

theorem freeze_fresh (formats : Formats S)
    (waiting : Waiting S unitId assetId genSeq c) (state : c.state = some s)
    (quiet : calm c s = true) (distinct : collisionFree S c s = true) :
    reviewWindowID S s ∉ c.readyW.map (·.windowId) := by
  intro member
  obtain ⟨w, ready, same⟩ := mem_map.mp member
  have named := waiting.named w ready
  obtain ⟨unit, asset, seq, policy⟩ := waiting.state s state
  obtain ⟨t, start⟩ := named.start
  rw [named.id] at same
  have hashes := windowHash_inj same
  rw [collisionFree, all_eq_true] at distinct
  have texts := distinct w ready
  simp only [Bool.or_eq_true, decide_eq_true_eq] at texts
  rcases texts with different | texts
  · exact different hashes
  rw [textOf, named.unit, named.asset, named.seq, named.policy, start, unit,
    asset, seq, policy, Option.map_some, Option.getD_some, Timestamp.asTime_new] at texts
  obtain ⟨times, generations⟩ := windowText_inj formats texts
  simp only [calm, Bool.and_eq_true, all_eq_true, Bool.or_eq_true, decide_eq_true_eq] at quiet
  rcases quiet.2 w ready with other | other
  · exact other (start.trans (by rw [times]))
  · exact other generations

theorem foldl_fixEvidence_ids (numbered : List (ReviewCandidate × Nat))
    (acc : WindowState × List ReviewCandidate) :
    ((numbered.foldl (fixEvidence vault) acc).2.map (·.candidateId)).Sublist
      (acc.2.map (·.candidateId) ++ numbered.map fun row => row.1.candidateId) := by
  induction numbered generalizing acc with
  | nil => simp
  | cons _ _ ih =>
    rw [foldl_cons, map_cons]
    refine (ih _).trans ?_
    rw [fixEvidence]
    split
    · simp [attachEvidence, withEvidence]
    all_goals exact (Sublist.refl _).append (sublist_cons_self _ _)

theorem freeze_ids (S vault c) (s : WindowState) :
    ((freeze S vault c s).2.map (·.candidateId)).Sublist (s.candidates.map (·.candidateId)) := by
  rw [freeze, fixCandidates]
  split
  · exact .refl _
  split
  · exact nil_sublist _
  · have kept := foldl_fixEvidence_ids vault s.candidates.zipIdx (s, [])
    have ids : (s.candidates.zipIdx.map fun row => row.1.candidateId) =
        s.candidates.map (·.candidateId) := by
      rw [← zipIdx_map_fst 0 s.candidates, map_map]
      simp [Function.comp_def]
    rw [ids] at kept
    exact kept

theorem frozen_waiting (formats : Formats S) (waiting : Waiting S unitId assetId genSeq c)
    (state : c.state = some s) (quiet : calm c s = true) (distinct : collisionFree S c s = true) :
    Waiting S unitId assetId genSeq
      { keepFrozen S vault c s with state := none } := by
  have fresh := freeze_fresh formats waiting state quiet distinct
  have kept := freeze_ids S vault c s
  have fewer := kept.length_le
  rw [length_map, length_map] at fewer
  simp only [calm, Bool.and_eq_true, decide_eq_true_eq] at quiet
  have opened : candidateIds c = c.readyC.map (·.candidateId) ++
      s.candidates.map (·.candidateId) := by
    rw [candidateIds, openIds, state]
  have frozen : candidateIds { keepFrozen S vault c s with state := none } =
      c.readyC.map (·.candidateId) ++ (freeze S vault c s).2.map (·.candidateId) := by
    simp [candidateIds, openIds, keepFrozen]
  have shorter : (candidateIds
      { keepFrozen S vault c s with state := none }).Sublist
      (candidateIds c) := by
    rw [opened, frozen]
    exact (Sublist.refl _).append kept
  constructor
  · rw [keepFrozen, length_append, length_singleton]
    omega
  · rw [keepFrozen, length_append]
    omega
  · rw [keepFrozen, map_append, map_singleton, freeze_windowId]
    exact waiting.names.append (nodup_singleton _) (disjoint_singleton.mpr fresh)
  · intro w member
    rcases mem_append.mp member with old | new
    · exact waiting.named w old
    · rw [mem_singleton.mp new]
      exact freeze_named vault (waiting.state s state)
  · exact waiting.ids.sublist shorter
  · intro id member
    exact waiting.visible id (shorter.subset member)
  · nofun

end

end Freezing

/-! ## Observing -/

section Observing

variable {S : Services} {unitId assetId : String} {genSeq : Int}
  {c : ReviewCollector} {s s' : WindowState}

section

open List

theorem Waiting.opened (waiting : Waiting S unitId assetId genSeq { c with state := none })
    (empty : s.candidates = [])
    (labels : s.unitId = unitId ∧ s.assetId = assetId ∧ s.genSeq = genSeq ∧ s.policy = c.digest) :
    Waiting S unitId assetId genSeq { c with state := some s } := by
  have same : candidateIds { c with state := some s } = candidateIds { c with state := none } := by
    simp [candidateIds, openIds, empty]
  refine ⟨waiting.windows, waiting.candidates, waiting.names, waiting.named,
    same ▸ waiting.ids, same ▸ waiting.visible, ?_⟩
  intro s' state
  obtain rfl := Option.some.inj state
  exact labels

theorem Waiting.relabel (waiting : Waiting S unitId assetId genSeq { c with state := some s })
    (same : s'.labels = s.labels)
    (ids : (candidateIds { c with state := some s' }).Nodup)
    (visible : ∀ id ∈ candidateIds { c with state := some s' }, blank id = false) :
    Waiting S unitId assetId genSeq { c with state := some s' } := by
  refine ⟨waiting.windows, waiting.candidates, waiting.names, waiting.named, ids, visible, ?_⟩
  intro s'' state
  obtain rfl := Option.some.inj state
  have labels := waiting.state s rfl
  simp only [WindowState.labels, Labels.mk.injEq] at same
  obtain ⟨-, -, unit, asset, -, seq, policy⟩ := same
  rw [unit, asset, seq, policy]
  exact labels

theorem placed_nodup {ready candidates x}
    (distinct : (ready ++ candidates.map (·.candidateId)).Nodup)
    (fresh : x.candidateId ∉ ready ++ candidates.map (·.candidateId)) (slot : Nat) :
    (ready ++ (placed candidates slot x).map (·.candidateId)).Nodup := by
  rw [placed]
  split
  · rw [map_append, map_singleton, ← append_assoc]
    exact distinct.append (nodup_singleton _) (disjoint_singleton.mpr fresh)
  · have set := distinct.set (n := ready.length + slot) fresh
    rw [set_append_right _ _ (Nat.le_add_right _ _), Nat.add_sub_cancel_left] at set
    rw [map_set]
    exact set

theorem Waiting.counted (waiting : Waiting S unitId assetId genSeq { c with state := some s })
    (policy : TrafficReviewPolicy) {o}
    (fresh : newEventID o.draw ∉ candidateIds { c with state := some s }) (route : String)
    (flags : ReviewFlags) :
    Waiting S unitId assetId genSeq { c with
      state := some (maybeCandidate S policy
        (countRequest policy s o route flags) o route flags) } := by
  have same := (maybeCandidate_labels S policy
    (countRequest policy s o route flags) o route flags).trans
    (countRequest_labels policy s o route flags)
  have counted := countRequest_candidates policy s o route flags
  have ids := waiting.ids
  have visible := waiting.visible
  simp only [candidateIds, openIds] at fresh ids visible
  rcases (maybeCandidate_cases S policy (countRequest policy s o route flags) o route flags).2 with
    unchanged | ⟨-, slot, added⟩
  · rw [counted] at unchanged
    apply waiting.relabel same
    · simp only [candidateIds, openIds, unchanged]
      exact ids
    · simp only [candidateIds, openIds, unchanged]
      exact visible
  · rw [counted] at added
    apply waiting.relabel same
    · simp only [candidateIds, openIds, added]
      exact placed_nodup ids fresh slot
    · simp only [candidateIds, openIds, added]
      intro id member
      rcases mem_append.mp member with ready | opened
      · exact visible id (mem_append_left _ ready)
      · obtain ⟨x, placed, rfl⟩ := mem_map.mp opened
        rcases mem_placed placed with old | rfl
        · exact visible _ (mem_append_right _ (mem_map_of_mem old))
        · exact newEventID_visible o.draw

theorem observe_waiting (formats : Formats S) (waiting : Waiting S unitId assetId genSeq c) {o}
    (unit : o.unitId = unitId) (asset : o.assetId = assetId)
    (seq : o.decision.generationSeq = genSeq) (fresh : newEventID o.draw ∉ candidateIds c)
    (quiet : ∀ s, c.state = some s → s.covers c o = false →
      calm c s = true ∧ collisionFree S c s = true) :
    Waiting S unitId assetId genSeq (observe S c o) := by
  rw [observe]
  split
  · exact waiting
  dsimp only
  rw [ensureWindow]
  have labels : (openWindow c o).unitId = unitId ∧ (openWindow c o).assetId = assetId ∧
      (openWindow c o).genSeq = genSeq ∧
      (openWindow c o).policy = c.digest := ⟨unit, asset, seq, rfl⟩
  cases state : c.state with
  | none =>
    have whole : c = { c with state := none } := by rw [← state]
    have before := waiting
    rw [whole] at before fresh
    have opened := before.opened (s := openWindow c o) rfl labels
    refine opened.counted c.policy ?_ _ _
    exact fresh
  | some s =>
    have whole : c = { c with state := some s } := by rw [← state]
    dsimp only
    split
    · have before := waiting
      rw [whole] at before fresh
      exact before.counted c.policy fresh _ _
    next moved =>
      obtain ⟨quiet, distinct⟩ := quiet s state (Bool.eq_false_iff.mpr moved)
      have frozen := frozen_waiting o.vault formats waiting state quiet distinct
      have opened := frozen.opened (s := openWindow c o) rfl labels
      refine opened.counted c.policy ?_ _ _
      intro member
      have kept := freeze_ids S o.vault c s
      simp only [candidateIds, openIds, state] at fresh
      simp only [candidateIds, openIds, keepFrozen, openWindow,
        map_append, map_nil, append_nil] at member
      rcases mem_append.mp member with ready | dropped
      · exact fresh (mem_append_left _ ready)
      · exact fresh (mem_append_right _ (kept.subset dropped))

end

end Observing

/-! ## Writing frames -/

structure FramesSound (e : EdgeReview) : Prop where
  windows : ∀ frame ∈ e.windowFrames, Uploadable TrafficWindow.windowId frame
  candidates : ∀ frame ∈ e.candidateFrames, Uploadable ReviewCandidate.candidateId frame

structure RuntimeSound (S : Services) (e : EdgeReview) : Prop where
  frames : FramesSound e
  collector : ∀ c, e.collector = some c → Waiting S e.unitId e.assetId e.reviewSeq c

section Writing

variable {S : Services} {e : EdgeReview} {c : ReviewCollector}

variable {unitId assetId : String}

theorem Waiting.uploadable {genSeq} (waiting : Waiting S unitId assetId genSeq c) :
    Uploadable TrafficWindow.windowId c.readyW ∧
      Uploadable ReviewCandidate.candidateId c.readyC := by
  constructor
  · apply uploadable_of_nodup waiting.windows waiting.names
    intro id member
    obtain ⟨w, ready, rfl⟩ := List.mem_map.mp member
    rw [(waiting.named w ready).id]
    exact windowHash_visible S _
  · apply uploadable_of_nodup waiting.candidates
    · exact (List.nodup_append.mp waiting.ids).1
    · intro id member
      exact waiting.visible id (List.mem_append_left _ member)

theorem mem_appendFrame {α : Type} {frames : List (List α)}
    {records : List α} {result : WriteResult} {frame : List α}
    (member : frame ∈ (appendFrame frames records result).1) :
    frame ∈ frames ∨ frame = records := by
  rw [appendFrame] at member
  split at member
  · exact .inl member
  · dsimp only at member
    split at member
    · rcases List.mem_append.mp member with old | new
      · exact .inl old
      · exact .inr (List.mem_singleton.mp new)
    · exact .inl member

theorem persistReviewLocked_frame (e) (windows candidates writes) :
    ∃ first second, (persistReviewLocked e windows candidates writes).1 =
        { e with windowFrames := first, candidateFrames := second } ∧
      (∀ frame ∈ first, frame ∈ e.windowFrames ∨ frame = windows) ∧
      ∀ frame ∈ second, frame ∈ e.candidateFrames ∨ frame = candidates := by
  rw [persistReviewLocked]
  split
  · exact ⟨_, _, rfl, fun _ => .inl, fun _ => .inl⟩
  dsimp only
  split
  · exact ⟨_, _, rfl, fun _ => mem_appendFrame, fun _ => .inl⟩
  · exact ⟨_, _, rfl, fun _ => mem_appendFrame, fun _ => mem_appendFrame⟩

theorem Waiting.committed {genSeq} (waiting : Waiting S unitId assetId genSeq c) (version : Nat) :
    Waiting S unitId assetId genSeq (commitDrain c version) := by
  rw [commitDrain]
  split
  · have kept : (candidateIds { c with readyW := [], readyC := [] }).Sublist
        (candidateIds c) := List.sublist_append_right _ _
    refine ⟨Nat.zero_le _, Nat.zero_le _, List.nodup_nil, ?_,
      waiting.ids.sublist kept, ?_, waiting.state⟩
    · intro w member
      contradiction
    · intro id member
      exact waiting.visible id (kept.subset member)
  · exact waiting

theorem settleReady_sound (frames : FramesSound e)
    (waiting : Waiting S e.unitId e.assetId e.reviewSeq c) (writes) :
    RuntimeSound S (settleReady e c writes).1 ∧ (settleReady e c writes).1.unitId = e.unitId ∧
      (settleReady e c writes).1.assetId = e.assetId := by
  obtain ⟨first, second, written, windows, candidates⟩ :=
    persistReviewLocked_frame e c.readyW c.readyC writes
  obtain ⟨goodW, goodC⟩ := waiting.uploadable
  have sound : FramesSound (persistReviewLocked e c.readyW c.readyC writes).1 := by
    rw [written]
    constructor
    · intro frame member
      rcases windows frame member with old | rfl
      · exact frames.windows frame old
      · exact goodW
    · intro frame member
      rcases candidates frame member with old | rfl
      · exact frames.candidates frame old
      · exact goodC
  rw [settleReady]
  dsimp only
  rw [written] at sound ⊢
  split
  all_goals
    refine ⟨⟨⟨sound.windows, sound.candidates⟩, ?_⟩, rfl, rfl⟩
    intro c' found
    obtain rfl := Option.some.inj found
  · exact waiting
  · exact waiting.committed c.readyVersion

end Writing

/-! ## Runs -/

def freezes (e : EdgeReview) (c : ReviewCollector) (s : WindowState) : RuntimeOp → Bool
  | .observe r =>
    match r.policy with
    | none => false
    | some policy =>
      e.spooled && policy.mode ≠ .unspecified && policy.mode ≠ .off &&
        (e.reviewSeq ≠ r.seq || !s.covers c (e.observation r))
  | .drain _ now _ => s.stop ≤ now.time
  | .restart => false

/-- A window that is frozen finds room and is not there yet. -/
def calmStep (e : EdgeReview) (op : RuntimeOp) : Bool :=
  match e.collector with
  | none => true
  | some c =>
    match c.state with
    | none => true
    | some s => !freezes e c s op || calm c s

/-- The hash and the random source: no two windows that wait together have
one hash, and a drawn identifier is not in use. -/
def wellDrawn (S : Services) (e : EdgeReview) (op : RuntimeOp) : Bool :=
  match e.collector with
  | none => true
  | some c =>
    (match c.state with
      | none => true
      | some s => collisionFree S c s) &&
    match op with
    | .observe r => !(candidateIds c).contains (newEventID r.observation.draw)
    | _ => true

section Steps

variable {S : Services} {e : EdgeReview} {c : ReviewCollector}

theorem calmStep_freezes {op} (found : e.collector = some c) (quiet : calmStep e op = true)
    (drawn : wellDrawn S e op = true) {s} (state : c.state = some s)
    (freezing : freezes e c s op = true) : calm c s = true ∧ collisionFree S c s = true := by
  simp only [calmStep, found, state, freezing, Bool.not_true, Bool.false_or] at quiet
  simp only [wellDrawn, found, state, Bool.and_eq_true] at drawn
  exact ⟨quiet, drawn.1⟩

theorem observeWith_sound (formats : Formats S) (sound : RuntimeSound S e) {r}
    (seq : e.reviewSeq = r.seq)
    (fresh : ∀ c, e.collector = some c → newEventID r.observation.draw ∉ candidateIds c)
    (quiet : ∀ c s, e.collector = some c → c.state = some s → s.covers c (e.observation r) = false →
      calm c s = true ∧ collisionFree S c s = true) : RuntimeSound S (observeWith S e r) := by
  refine ⟨⟨sound.frames.windows, sound.frames.candidates⟩, ?_⟩
  intro c' found
  rw [observeWith, Option.map_eq_some_iff] at found
  obtain ⟨c, before, rfl⟩ := found
  exact observe_waiting formats (sound.collector c before)
    (o := e.observation r) rfl rfl seq.symm (fresh c before)
    fun s state moved => quiet c s before state moved

theorem newReviewCollector_waiting {policy digest vaulted}
    (created : newReviewCollector policy digest vaulted = .ok c) (unitId assetId genSeq) :
    Waiting S unitId assetId genSeq c ∧ c.state = none ∧ candidateIds c = [] := by
  rw [newReviewCollector] at created
  split at created
  · cases created
  obtain rfl := Except.ok.inj created
  refine ⟨⟨Nat.zero_le _, Nat.zero_le _, List.nodup_nil, ?_, List.nodup_nil, ?_, ?_⟩, rfl, rfl⟩
  · intro w member
    contradiction
  · intro id member
    contradiction
  · intro s open'
    contradiction

theorem prepareFlush_waiting {unitId assetId genSeq} (vault : Vault) (formats : Formats S)
    (waiting : Waiting S unitId assetId genSeq c)
    (quiet : ∀ s, c.state = some s → calm c s = true ∧ collisionFree S c s = true) :
    Waiting S unitId assetId genSeq (prepareFlush S vault c) := by
  rw [prepareFlush]
  split
  next s state =>
    exact frozen_waiting vault formats waiting state (quiet s state).1 (quiet s state).2
  · exact waiting

section

variable (formats : Formats S) (sound : RuntimeSound S e)

include formats sound

variable (r : ReviewCall)

theorem flushCollector_sound (quiet : ∀ c s, e.collector = some c → c.state = some s →
      calm c s = true ∧ collisionFree S c s = true) : RuntimeSound S (flushCollector S e r).1 := by
  rw [flushCollector]
  split
  · exact sound
  next c found =>
    have prepared := prepareFlush_waiting r.observation.vault formats
      (sound.collector c found) fun s state => quiet c s found state
    exact (settleReady_sound sound.frames prepared r.writes).1

theorem switchCollector_sound (policy r) (quiet : ∀ c s, e.collector = some c → c.state = some s →
      calm c s = true ∧ collisionFree S c s = true) :
    RuntimeSound S (switchCollector S e policy r) := by
  have flushed := flushCollector_sound formats sound r quiet
  rw [switchCollector]
  dsimp only
  split
  · exact flushed
  split
  · exact flushed
  next c created =>
    obtain ⟨waiting, empty, none⟩ := newReviewCollector_waiting (S := S)
      created (flushCollector S e r).1.unitId
      (flushCollector S e r).1.assetId r.seq
    apply observeWith_sound formats _ rfl
    · intro c' found
      obtain rfl := Option.some.inj found
      rw [none]
      exact List.not_mem_nil
    · intro c' s found state
      obtain rfl := Option.some.inj found
      rw [empty] at state
      contradiction
    · refine ⟨⟨flushed.frames.windows, flushed.frames.candidates⟩, ?_⟩
      intro c' found
      obtain rfl := Option.some.inj found
      exact waiting

theorem observeTrafficReview_sound (quiet : calmStep e (.observe r) = true)
    (drawn : wellDrawn S e (.observe r) = true) : RuntimeSound S (observeTrafficReview S e r) := by
  rw [observeTrafficReview]
  split
  · exact sound
  rename_i policy given
  split
  · exact sound
  rename_i active
  simp only [Bool.or_eq_true, Bool.not_eq_true', decide_eq_true_eq,
    not_or, Bool.not_eq_false] at active
  obtain ⟨⟨spooled, specified⟩, on⟩ := active
  split
  next switching =>
    apply switchCollector_sound formats sound policy r
    intro c s found state
    apply calmStep_freezes found quiet drawn state
    have moved : e.reviewSeq ≠ r.seq := by
      simpa [found] using switching
    simp [freezes, given, spooled, specified, on, moved]
  next steady =>
    simp only [Bool.or_eq_true, decide_eq_true_eq, not_or, ne_eq, Decidable.not_not] at steady
    apply observeWith_sound formats sound steady.2
    · intro c found
      simp only [wellDrawn, found, Bool.and_eq_true, Bool.not_eq_true',
        List.contains_eq_mem, decide_eq_false_iff_not] at drawn
      exact drawn.2
    · intro c s found state moved
      apply calmStep_freezes found quiet drawn state
      simp [freezes, given, spooled, specified, on, moved]

theorem drainTrafficReview_sound (vault now writes)
    (quiet : calmStep e (.drain vault now writes) = true)
    (drawn : wellDrawn S e (.drain vault now writes) = true) :
    RuntimeSound S (drainTrafficReview S e vault now writes) := by
  rw [drainTrafficReview]
  split
  · exact sound
  rename_i c found
  have waiting := sound.collector c found
  have prepared : Waiting S e.unitId e.assetId e.reviewSeq (prepareDrain S vault c now) := by
    rw [prepareDrain]
    split
    next s state =>
      split
      next ended =>
        obtain ⟨quiet, distinct⟩ := calmStep_freezes found quiet drawn state (decide_eq_true ended)
        exact frozen_waiting vault formats waiting state quiet distinct
      · exact waiting
    · exact waiting
  exact (settleReady_sound sound.frames prepared writes).1

end

theorem runtimeStep_sound (formats : Formats S) (e op)
    (ok : calmStep e op = true ∧ wellDrawn S e op = true) (sound : RuntimeSound S e) :
    RuntimeSound S (runtimeStep S e op) := by
  cases op with
  | observe r => exact observeTrafficReview_sound formats sound r ok.1 ok.2
  | drain vault now writes =>
    exact drainTrafficReview_sound formats sound vault now writes ok.1 ok.2
  | restart =>
    refine ⟨⟨sound.frames.windows, sound.frames.candidates⟩, ?_⟩
    intro c found
    contradiction

end Steps

/-- In every history whose freezes find room and repeat no window that waits,
every frame on disk can be uploaded. -/
theorem frames_uploadable (S : Services) (formats : Formats S)
    (unitId assetId : String) (spooled : Bool) {ops : List RuntimeOp}
    (drawn : Meets (runtimeStep S) (fun e op => wellDrawn S e op = true)
      (newEdgeReview unitId assetId spooled) ops)
    (quiet : Meets (runtimeStep S) (fun e op => calmStep e op = true)
      (newEdgeReview unitId assetId spooled) ops) :
    (∀ frame ∈ (run (runtimeStep S) (newEdgeReview unitId assetId spooled) ops).windowFrames,
      Uploadable TrafficWindow.windowId frame) ∧
    ∀ frame ∈ (run (runtimeStep S) (newEdgeReview unitId assetId spooled) ops).candidateFrames,
      Uploadable ReviewCandidate.candidateId frame := by
  have meets := meets_and _ quiet drawn
  have initial : RuntimeSound S (newEdgeReview unitId assetId spooled) := by
    refine ⟨⟨nofun, nofun⟩, ?_⟩
    · intro c found
      contradiction
  have sound := run_invariant _ _ (RuntimeSound S) (runtimeStep_sound formats) meets initial
  exact ⟨sound.frames.windows, sound.frames.candidates⟩

/-! Requests at two times five minutes apart, with successful writes. -/

def tailServices : Services where
  sum256 := fun text => Vector.ofFn fun i : Fin 32 =>
    UInt8.ofNat ((text.toList.reverse[i.val]?).getD ' ').toNat
  formatTime := fun t => t.repr
  encodeEvidence := fun _ _ _ _ => some []

theorem tailServices_formats : Formats tailServices := by
  constructor
  · intro t t' same
    exact Int.repr_injective same
  · exact not_mem_repr (by decide) (by decide)

def noon : Reading where
  time := 1767258300 * second
  lower := by decide
  upper := by decide

def stored : Writes := ⟨⟨true, false⟩, ⟨true, false⟩⟩

def reviewCall (now : Reading) : ReviewCall where
  policy := some (dailyPolicy .statisticsOnly)
  digest := "sha256:aa"
  vaulted := false
  observation := { visit "GET" "/cart" with now := now }
  writes := stored

def drainLater : RuntimeOp :=
  .drain (fun _ _ _ _ => .failed) ⟨1767258900 * second, by decide, by decide⟩ stored

theorem frames_uploadable_steady :
    (run (runtimeStep tailServices) (newEdgeReview "edge-1" "shop" true)
        [.observe (reviewCall morning), .observe (reviewCall noon),
          drainLater]).windowFrames.map List.length = [2] ∧
      ∀ frame ∈ (run (runtimeStep tailServices) (newEdgeReview "edge-1" "shop" true)
          [.observe (reviewCall morning), .observe (reviewCall noon), drainLater]).windowFrames,
        Uploadable TrafficWindow.windowId frame :=
  ⟨by decide +kernel, (frames_uploadable tailServices tailServices_formats "edge-1" "shop" true
      (by decide +kernel) (by decide +kernel)).1⟩

/-- The clock steps back, and a window is frozen twice before a write. -/
theorem frames_wedged_clock_back :
    Meets (runtimeStep tailServices) (fun e op => wellDrawn tailServices e op = true)
        (newEdgeReview "edge-1" "shop" true)
        [.observe (reviewCall morning), .observe (reviewCall noon),
          .observe (reviewCall morning), drainLater] ∧
      ∃ frame ∈ (run (runtimeStep tailServices) (newEdgeReview "edge-1" "shop" true)
          [.observe (reviewCall morning), .observe (reviewCall noon),
            .observe (reviewCall morning), drainLater]).windowFrames,
        ¬ (frame.map (·.windowId)).Nodup ∧
          ∀ rejected, splitRejectedWindows frame rejected = .error .source := by
  refine ⟨by decide +kernel, ?_⟩
  obtain ⟨frame, written, repeated, refused⟩ : ∃ frame ∈
      (run (runtimeStep tailServices) (newEdgeReview "edge-1" "shop" true)
        [.observe (reviewCall morning), .observe (reviewCall noon),
          .observe (reviewCall morning), drainLater]).windowFrames,
      ¬ (frame.map (·.windowId)).Nodup ∧ sourceIdentities [] (frame.map (·.windowId)) = false := by
    decide +kernel
  exact ⟨frame, written, repeated, splitRejected_refused refused⟩

end YuFeng.Review
