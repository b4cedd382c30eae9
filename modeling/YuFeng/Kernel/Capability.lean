import Mathlib.Data.List.Dedup
import Mathlib.Data.List.Sort
import YuFeng.Library.Text

/-!
# Producer capabilities

What a unit declares about the events it produces.  The brain accepts a
declaration only after `normalizeProducerCapabilities` checked every field and
brought the repeated ones into ascending order without repetitions.
-/

namespace YuFeng.Kernel

open YuFeng.Library

structure Duration where
  seconds : Int
  nanos : Int
  deriving DecidableEq

def Duration.checkValid (d : Duration) : Bool :=
  d.seconds.natAbs ≤ 315576000000 && d.nanos.natAbs ≤ 999999999 &&
    !(0 < d.seconds && d.nanos < 0) && !(d.seconds < 0 && 0 < d.nanos)

def Duration.asDuration (d : Duration) : Int := d.seconds * 1000000000 + d.nanos

def Duration.new (nanoseconds : Int) : Duration :=
  ⟨nanoseconds.tdiv 1000000000, nanoseconds.tmod 1000000000⟩

structure ModelIngressWindow where
  maxItems : Nat
  maxRetainedBytes : Nat
  maxQueueAge : Option Duration
  deriving DecidableEq

def normalizeModelIngressWindow (window : Option ModelIngressWindow) :
    Except String ModelIngressWindow :=
  match window with
  | none => .error "model ingress window is required"
  | some window =>
    if window.maxItems = 0 ∨ 65536 < window.maxItems then
      .error "model ingress max_items is outside allowed range"
    else if window.maxRetainedBytes < 1048576 ∨ 268435456 < window.maxRetainedBytes then
      .error "model ingress max_retained_bytes is outside allowed range"
    else match window.maxQueueAge with
      | none => .error "model ingress max_queue_age is invalid"
      | some age =>
        if !age.checkValid then
          .error "model ingress max_queue_age is invalid"
        else if age.asDuration < 10000000 ∨ 300000000000 < age.asDuration then
          .error "model ingress max_queue_age is outside allowed range"
        else .ok { window with
          maxQueueAge := some (Duration.new age.asDuration) }

/-- Enumerations keep the number that came over the wire. -/
structure ProducerCapabilities where
  outputs : List Int
  projectionVersions : List String
  postures : List Int
  sensors : List Int
  localEvidenceRing : Bool
  localAsyncBypass : Bool
  maxEventBatch : Nat
  maxInFlightRequests : Nat
  maxSpoolBytes : Nat
  maxEvidenceEntries : Nat
  moduleCapabilities : List String
  modelIngressHardLimit : Option ModelIngressWindow
  maxModelIngressBatchItems : Nat
  deriving DecidableEq

def normalizeEnum (first last : Int) (message : String) (values : List Int) :
    Except String (List Int) :=
  if values.all fun value => first ≤ value && value ≤ last then
    .ok (values.dedup.insertionSort (· ≤ ·))
  else .error message

def producerProjectionVersionLimit : Nat := 16

def normalizeNames (invalid tooMany : String) (values : List String) :
    Except String (List String) :=
  let names := (values.map trimSpace).dedup
  if names.any fun name => name = "" || 64 < name.utf8ByteSize then
    .error invalid
  else if producerProjectionVersionLimit < names.length then .error tooMany
  else .ok (names.insertionSort (· ≤ ·))

def normalizeProducerCapabilities (declared : Option ProducerCapabilities) :
    Except String (Option ProducerCapabilities) :=
  match declared with
  | none => .ok none
  | some declared => do
      let outputs ← normalizeEnum 1 3
        "producer capabilities contain invalid output" declared.outputs
      let versions ← normalizeNames "producer capabilities contain invalid projection version"
        "producer capabilities contain too many projection versions"
        declared.projectionVersions
      let postures ← normalizeEnum 1 4
        "producer capabilities contain invalid posture" declared.postures
      let sensors ← normalizeEnum 1 2
        "producer capabilities contain invalid sensor" declared.sensors
      let modules ← normalizeNames "producer capabilities contain invalid module capability"
        "producer capabilities contain too many module capabilities"
        declared.moduleCapabilities
      if outputs = [] ∨ versions = [] ∨ postures = [] ∨ sensors = [] then
        throw "producer capabilities are incomplete"
      if declared.maxEventBatch = 0 ∨ declared.maxInFlightRequests = 0 ∨
          declared.maxSpoolBytes = 0 ∨ declared.maxEvidenceEntries = 0 then
        throw "producer capability capacities must be positive"
      let normalized := { declared with
        outputs := outputs
        projectionVersions := versions
        postures := postures
        sensors := sensors
        moduleCapabilities := modules }
      if declared.localAsyncBypass then
        match normalizeModelIngressWindow declared.modelIngressHardLimit with
        | .error _ => throw "producer model ingress hard limit is invalid"
        | .ok window =>
          if declared.maxModelIngressBatchItems = 0 ∨ 32 < declared.maxModelIngressBatchItems then
            throw "producer model ingress batch capacity is invalid"
          return some { normalized with
            modelIngressHardLimit := some window }
      else return some normalized

end YuFeng.Kernel
