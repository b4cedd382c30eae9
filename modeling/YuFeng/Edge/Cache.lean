import YuFeng.Edge.Loading
import YuFeng.Library.Lines

/-!
# The generation cache

Before a generation is activated, the previous and the new envelope are
written to disk, one line each.  A restarted edge reads the lines back and
applies them in this order; a line that cannot be applied is skipped.
-/

namespace YuFeng.Edge

open YuFeng.Library YuFeng.Kernel List

variable {codec : GenerationCodec}

structure GenerationCodec where
  marshal : AssetGeneration → Except String String
  unmarshal : String → Except String AssetGeneration

def edgeCacheDiskBytes : Nat := 512 * 1024 * 1024

def appendGeneration (codec : GenerationCodec) (payload : String)
    (gen : AssetGeneration) : Except String String :=
  if gen.generationId = "" then .ok payload
  else do
    let raw ← codec.marshal gen
    ensure (payload.utf8ByteSize + raw.utf8ByteSize + 1 ≤ edgeCacheDiskBytes)
      ("generation cache exceeds " ++ toString edgeCacheDiskBytes ++ " bytes")
    return payload ++ raw ++ "\n"

def saveGenerationCache (codec : GenerationCodec)
    (previous : Option AssetGeneration) (current : AssetGeneration) :
    Except String String :=
  (previous.toList ++ [current]).foldlM (appendGeneration codec) ""

def persistCache (codec : GenerationCodec) : Persist := fun previous current =>
  (saveGenerationCache codec previous current).map fun _ => ()

def noPersist : Persist := fun _ _ => .ok ()

def reload (P : Platform) (now : Int) (set : ReleaseSet) (gen : AssetGeneration) : ReleaseSet :=
  match applyGeneration P now noPersist set gen with
  | .ok set' => set'
  | .error _ => set

def loadLine (P : Platform) (now : Int) (codec : GenerationCodec)
    (set : ReleaseSet) (line : String) : ReleaseSet :=
  if trimSpace line = "" then set
  else match codec.unmarshal line with
    | .error _ => set
    | .ok gen => reload P now set gen

def loadGenerationCache (P : Platform) (now : Int) (codec : GenerationCodec)
    (file : String) (set : ReleaseSet) : ReleaseSet :=
  if edgeCacheDiskBytes < file.utf8ByteSize then set
  else (splitText '\n' (trimSpace file)).foldl (loadLine P now codec) set

def restart (P : Platform) (now : Int) (codec : GenerationCodec)
    (unitVersion : String) (posture : IngressPosture) (file : String) :
    ReleaseSet :=
  { loadGenerationCache P now codec file (newReleaseSet unitVersion) with
    posture := posture }

/-! ## Reading back what was written -/

/-- The generation survives the way through its JSON form. -/
structure GenerationCodec.Faithful (codec : GenerationCodec)
    (gen : AssetGeneration) : Prop where
  roundTrip : ∀ raw, codec.marshal gen = .ok raw → codec.unmarshal raw = .ok gen
  line : ∀ raw, codec.marshal gen = .ok raw → LineShaped raw

def named (gens : List AssetGeneration) : List AssetGeneration := gens.filter (·.generationId ≠ "")

theorem appendGenerations_ok {gens payload file}
    (h : gens.foldlM (appendGeneration codec) payload = .ok file) :
    ∃ raws, (named gens).Forall₂ (fun gen raw => codec.marshal gen = .ok raw) raws ∧
      file = payload ++ unlines raws ∧ (payload.utf8ByteSize ≤ edgeCacheDiskBytes →
        file.utf8ByteSize ≤ edgeCacheDiskBytes) := by
  induction gens generalizing payload with
  | nil =>
    simp only [foldlM_nil, pure_ok] at h
    exact ⟨[], .nil, by simp [h, unlines], by simp [h]⟩
  | cons _ _ ih =>
    rw [foldlM_cons] at h
    obtain ⟨_, appended, rest⟩ := seq_ok.mp h
    obtain ⟨raws, marshaled, rfl, small⟩ := ih rest
    unfold appendGeneration at appended
    split at appended
    next unnamed =>
      cases appended
      exact ⟨raws, by simpa [named, unnamed] using marshaled, rfl, small⟩
    next identified =>
      simp only [seq_ok, ensure_ok, decide_eq_true_eq, pure_ok] at appended
      obtain ⟨raw, form, _, fits, rfl⟩ := appended
      refine ⟨raw :: raws, ?_, ?_, fun _ => small ?_⟩
      · simpa [named, identified] using And.intro form marshaled
      · simp [unlines_cons, String.append_assoc]
      · simp only [String.utf8ByteSize_append]
        exact fits

theorem foldl_loadLine {P now} {gens : List AssetGeneration} {raws : List String} (set : ReleaseSet)
    (marshaled : gens.Forall₂ (fun gen raw => codec.marshal gen = .ok raw) raws)
    (faithful : ∀ gen ∈ gens, codec.Faithful gen) :
    (∀ raw ∈ raws, LineShaped raw) ∧
      raws.foldl (loadLine P now codec) set = gens.foldl (reload P now) set := by
  induction marshaled generalizing set with
  | nil => simp
  | @cons gen raw _ _ form _ ih =>
    rw [forall_mem_cons] at faithful
    have shaped := faithful.1.line raw form
    have line : loadLine P now codec set raw = reload P now set gen := by
      rw [loadLine, shaped.trimSpace, if_neg shaped.ne_empty, faithful.1.roundTrip raw form]
    rw [forall_mem_cons, foldl_cons, foldl_cons, line]
    have later := ih (reload P now set gen) faithful.2
    exact ⟨⟨shaped, later.1⟩, later.2⟩

theorem loadGenerationCache_saved {P now} {previous : Option AssetGeneration}
    {gen : AssetGeneration} {file} (set : ReleaseSet)
    (saved : saveGenerationCache codec previous gen = .ok file) (identified : gen.generationId ≠ "")
    (faithful : ∀ g ∈ previous.toList ++ [gen], codec.Faithful g) :
    loadGenerationCache P now codec file set =
      (named (previous.toList ++ [gen])).foldl (reload P now) set := by
  obtain ⟨raws, marshaled, rfl, small⟩ := appendGenerations_ok saved
  have fits := small (by decide)
  rw [loadGenerationCache, if_neg (by omega), String.empty_append]
  obtain ⟨shaped, loaded⟩ := foldl_loadLine set marshaled (fun g member =>
    faithful g (mem_filter.mp member).1)
  have nonempty : raws ≠ [] := by
    rintro rfl
    have written := List.forall₂_nil_right_iff.mp marshaled
    simp [named, identified] at written
  rw [splitText_unlines shaped nonempty, loaded]

end YuFeng.Edge
