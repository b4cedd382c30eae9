import YuFeng.Brain.Chain

/-!
# Signing

The brain signs artifacts and envelopes with one key.  Releases go live and
settings are written with signed artifacts, so all that is published verifies
under the public key.
-/

namespace YuFeng.Kernel

/-- The private key of the brain, or the signer that holds it. -/
abbrev Key := String → Except String Signature

def signArtifact (V : Verifier) (key : Key) (a : Artifact) : Except String Artifact :=
  if a.signature.any (·.sig ≠ "") then
    .error ("artifact " ++ a.id ++ ": already signed, refusing to re-sign")
  else if a.id ≠ "" ∧ a.id ≠ V.artifactID a then
    .error ("artifact id " ++ a.id ++ " does not match envelope hash (want " ++
      V.artifactID a ++ "), refusing to sign")
  else (key (V.canonicalBytes { a with id := "", signature := none })).map fun signature =>
      { a with id := V.artifactID a, signature := some signature }

/-- The public key of the edge verifies what the key signs. -/
structure Signs (V : Verifier) (key : Key) : Prop where
  size : V.publicKeySize = 32
  verified : ∀ bytes signature, key bytes = .ok signature →
    signature.sig ≠ "" ∧ V.verify bytes signature.sig = true

/-- The artifact went through the gate of a draft that is no listen plan. -/
def SignedBy (V : Verifier) (key : Key) (a : Artifact) : Prop :=
  ∃ draft, draft.kind ≠ .listenPlan ∧ signArtifact V key draft = .ok a

variable {V : Verifier} {key : Key}

theorem SignedBy.verified (signs : Signs V key) {a} (h : SignedBy V key a) :
    a.kind ≠ .listenPlan ∧ verifyArtifact V a = .ok () := by
  obtain ⟨_, kind, signed⟩ := h
  unfold signArtifact at signed
  split at signed
  · simp at signed
  split at signed
  · simp at signed
  obtain ⟨_, made, rfl⟩ := Library.map_ok.mp signed
  obtain ⟨present, valid⟩ := signs.verified _ _ made
  refine ⟨kind, ?_⟩
  simp [verifyArtifact, Verifier.artifactID, present, signs.size, valid]

end YuFeng.Kernel

namespace YuFeng.Brain

open YuFeng.Library YuFeng.Kernel List Table

def signGeneration (V : Verifier) (key : Key) : Signing :=
  ⟨fun gen => key (V.generationCanonical { gen with envelopeSignature := none })⟩

/-- The transactions that end in `publishAssetGeneration`: those of single
changes, and the one that writes the settings of a new asset. -/
inductive Write where
  | change (c : Change)
  | baseline (assetId : String) (settings : List (String × Artifact))
      (signing : Option Signing) (now : Int) (genId : String)

def writeSettings (assetId : String) (settings : List (String × Artifact))
    (db : Governance) : Governance :=
  settings.foldl (fun db row =>
    { db with settings := db.settings.set (assetId, row.1) row.2 }) db

def Write.apply (db : Governance) : Write → Except RpcError Governance
  | .change c => c.apply db
  | .baseline assetId settings signing now genId =>
    publishAssetGeneration signing now genId assetId false (writeSettings assetId settings db)

def Write.step (db : Governance) (w : Write) : Governance := (w.apply db).toOption.getD db

def Release.sealing : Release → Option Artifact
  | .shadow _ a | .canary _ a _ | .enforce _ a => some a
  | _ => none

/-- What the handlers pass: fresh identifiers are not empty, live releases and
settings were signed, and envelopes are signed with the same key. -/
def Write.Signed (V : Verifier) (key : Key) : Write → Prop
  | .change (.propose p) => p.releaseId ≠ ""
  | .change (.setting w) => SignedBy V key w.artifact ∧
      ∀ signer ∈ w.signing, signer = signGeneration V key
  | .change (.commit w) => (∀ a ∈ w.rel.sealing, SignedBy V key a) ∧
      ∀ signer ∈ w.signing, signer = signGeneration V key
  | .baseline _ settings signing _ _ =>
    (∀ row ∈ settings, SignedBy V key row.2) ∧ ∀ signer ∈ signing, signer = signGeneration V key

/-- What a member of a generation needs for an edge to take it. -/
def Acceptable (V : Verifier) (item : ReleaseItem) : Prop :=
  item.releaseId ≠ "" ∧ ∃ a, item.artifact = some a ∧
    a.kind ≠ .listenPlan ∧ verifyArtifact V a = .ok ()

/-- What is live, and what has been published, is signed. -/
structure Vouched (V : Verifier) (key : Key) (db : Governance) : Prop where
  named : ∀ row ∈ db.releases.rows, row.1 ≠ ""
  live : ∀ row ∈ db.releases.rows, row.2.state.live = true → SignedBy V key row.2.artifact
  settings : ∀ row ∈ db.settings.rows, SignedBy V key row.2
  generations : ∀ gen ∈ db.generations, verifyGeneration V gen = .ok () ∧
    ∀ item ∈ gen.members, Acceptable V item

variable {V : Verifier} {key : Key} {db db' : Governance}

theorem Vouched.members (signs : Signs V key) (h : Vouched V key db) (assetId) :
    ∀ item ∈ db.members assetId, Acceptable V item := by
  intro _ present
  rcases mem_append.mp present with release | setting
  · obtain ⟨row, chosen, rfl⟩ := mem_map.mp release
    have member := mem_filter.mp (mem_orderBy.mp chosen)
    rw [Bool.and_eq_true] at member
    exact ⟨h.named row member.1, _, rfl, (h.live row member.1 member.2.2).verified signs⟩
  · obtain ⟨row, chosen, rfl⟩ := mem_map.mp setting
    have member := mem_filter.mp (mem_orderBy.mp chosen)
    refine ⟨?_, _, rfl, (h.settings row member.1).verified signs⟩
    intro empty
    simp [String.append_eq_empty_iff] at empty

theorem Vouched.publish (signs : Signs V key) {signing now genId assetId rollback}
    (own : ∀ signer ∈ signing, signer = signGeneration V key)
    (published : publishAssetGeneration signing now genId assetId rollback
      db = .ok db') (h : Vouched V key db) : Vouched V key db' := by
  rcases publishAssetGeneration_ok.mp published with
    ⟨-, rfl⟩ | ⟨signer, _, rfl, -, signed, -, rfl⟩
  · exact h
  · refine ⟨h.named, h.live, h.settings, fun gen present => ?_⟩
    rcases mem_append.mp present with old | new
    · exact h.generations gen old
    · rw [mem_singleton.mp new]
      refine ⟨?_, h.members signs assetId⟩
      rw [own signer rfl] at signed
      obtain ⟨given, valid⟩ := signs.verified _ _ signed
      simp only [verifyGeneration, given, signs.size, ne_eq, not_true_eq_false, if_false]
      exact if_pos valid

theorem Vouched.rewrites {id : String} {row : ReleaseRow} (h : Vouched V key db) (named : id ≠ "")
    (live : row.state.live = true → SignedBy V key row.artifact)
    (rewrites : Rewrites id row db db') : Vouched V key db' := by
  have rows : ∀ other ∈ db'.releases.rows, other = (id, row) ∨ other ∈ db.releases.rows := by
    rw [rewrites.releases]
    intro _ present
    exact (mem_set.mp present).imp_right And.left
  refine ⟨fun other present => ?_, fun other present => ?_,
    rewrites.settings ▸ h.settings, rewrites.generations ▸ h.generations⟩
  · rcases rows other present with rfl | old
    · exact named
    · exact h.named other old
  · rcases rows other present with rfl | old
    · exact live
    · exact h.live other old

theorem write_sealing {now} {row row' : ReleaseRow} {rel : Release}
    (h : rel.write now row = .ok row') (live : row'.state.live = true) :
    row'.artifact ∈ rel.sealing := by
  cases rel <;> simp only [Release.write, Except.ok.injEq, map_ok] at h
  case retired =>
    obtain ⟨_, -, rfl⟩ := h
    simp [ReleaseState.live] at live
  all_goals
    subst h
    first
      | rfl
      | simp [ReleaseState.live] at live

theorem Vouched.commit (signs : Signs V key) {w} (signed : (Write.change (.commit w)).Signed V key)
    (committed : commitReleaseChange w db = .ok db') (h : Vouched V key db) :
    Vouched V key db' := by
  obtain ⟨mid, persisted, published⟩ := commitReleaseChange_ok.mp committed
  obtain ⟨_, _, found, -, written, rewrites⟩ := persistRelease_ok persisted
  have changed : Vouched V key mid :=
    h.rewrites (h.named _ (mem_iff_find?.mpr found))
      (fun live => signed.1 _ (write_sealing written live)) rewrites
  have retired : Vouched V key (w.retireOld mid) := by
    unfold ReleaseWrite.retireOld
    split
    · exact changed
    · rcases supersede_cases w.now w.supersedeArtifact mid with
        same | ⟨_, _, _, present, -, -, state, replaced⟩
      · rw [same]
        exact changed
      · refine changed.rewrites (changed.named _ present) ?_ replaced
        intro live
        simp [state, ReleaseState.live] at live
  split at published
  · exact foldlM_invariant (Vouched V key)
      (fun _ _ _ added kept => kept.publish signs signed.2 added)
      published retired
  · exact Except.ok.inj published ▸ retired

theorem Vouched.setting {assetId kind a} (signed : SignedBy V key a) (h : Vouched V key db) :
    Vouched V key
      { db with settings := db.settings.set (assetId, kind) a } := by
  refine ⟨h.named, h.live, fun row present => ?_, h.generations⟩
  rcases mem_set.mp present with rfl | ⟨old, -⟩
  · exact signed
  · exact h.settings row old

theorem Vouched.writeSettings {assetId settings} (signed : ∀ row ∈ settings, SignedBy V key row.2)
    (h : Vouched V key db) : Vouched V key (writeSettings assetId settings db) := by
  induction settings generalizing db with
  | nil => exact h
  | cons row _ ih =>
    exact ih (fun r later => signed r (.tail row later)) (h.setting (signed row mem_cons_self))

theorem writeSettings_generations (assetId settings db) :
    (writeSettings assetId settings db).generations = db.generations := by
  induction settings generalizing db with
  | nil => rfl
  | cons _ _ ih => exact ih _

theorem Vouched.step (signs : Signs V key) {w : Write}
    (signed : w.Signed V key) (h : Vouched V key db) :
    Vouched V key (w.step db) := by
  unfold Write.step
  cases applied : w.apply db with
  | error => exact h
  | ok db' =>
    change Vouched V key db'
    cases w with
    | baseline =>
      exact (h.writeSettings signed.1).publish signs signed.2 applied
    | change c =>
      cases c with
      | propose =>
        simp only [Write.apply, Change.apply, propose, seq_ok, pure_ok] at applied
        obtain ⟨_, -, rfl⟩ := applied
        refine ⟨fun row present => ?_, fun row present => ?_, h.settings, h.generations⟩
        · rcases mem_set.mp present with rfl | ⟨old, -⟩
          · exact signed
          · exact h.named row old
        · rcases mem_set.mp present with rfl | ⟨old, -⟩
          · simp [ReleaseState.live]
          · exact h.live row old
      | setting =>
        simp only [Write.apply, Change.apply, writeSetting, seq_ok] at applied
        obtain ⟨_, -, published⟩ := applied
        exact (h.setting signed.1).publish signs signed.2 published
      | commit => exact h.commit signs signed applied

theorem Write.chained {w : Write} (chained : Chained db) : Chained (w.step db) := by
  cases w with
  | change c => exact step_chained db c chained
  | baseline assetId settings signing now genId =>
    unfold Write.step
    cases applied : (Write.baseline assetId settings signing now genId).apply db with
    | error => exact chained
    | ok =>
      exact publish_chained applied (chained_of_generations
        (writeSettings_generations assetId settings db) chained)

/-- The generations of a run form a chain, and everything in them is signed. -/
theorem run_vouched (signs : Signs V key) {writes} (signed : ∀ w ∈ writes, w.Signed V key) :
    Chained (run Write.step {} writes) ∧ Vouched V key (run Write.step {} writes) := by
  refine run_invariant _ (fun _ w => w.Signed V key) (fun db => Chained db ∧ Vouched V key db) ?_
    (meets_of_mem _ (fun _ w present => signed w present) _) ?_
  · rintro _ _ signed ⟨chained, vouched⟩
    exact ⟨Write.chained chained, vouched.step signs signed⟩
  · refine ⟨fun _ => trivial, ?_, ?_, ?_, ?_⟩ <;> simp [Table.empty]

end YuFeng.Brain
