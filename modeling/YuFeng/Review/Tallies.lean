import Mathlib.Data.List.Forall2
import YuFeng.Review.Windows

/-!
# What the windows count

Every observation joins one window.  The totals of a window are the numbers of
the observations that joined it, and its cells add up to them.  A frozen window
stays in memory until a commit names the version that was prepared with it.
-/

namespace YuFeng.Review

open YuFeng.Library List

variable {S : Services} {policy : TrafficReviewPolicy} {c : ReviewCollector} {s : WindowState}
  {o : Observation} {os : List Observation}

/-! ## Joining a window -/

def Observation.counts (o : Observation) : Counter → Bool
  | .requests => true
  | .critical => (reviewFlags o.decision).critical
  | .blocked => o.decision.action = .block
  | .incomplete => (reviewFlags o.decision).incomplete

def tally (k : Counter) (os : List Observation) : Nat := os.countP (·.counts k)

variable (k : Counter)

theorem tally_concat (os o) :
    tally k (os ++ [o]) = tally k os + (countOf o.decision (reviewFlags o.decision)).get k := by
  rw [tally, tally, countP_append, countP_singleton]
  cases k <;> rfl

theorem join_frame (S policy s o) :
    ∃ dropped reasons candidates evidence, join S policy s o =
      { countRequest policy s o (trafficRouteTemplate o.request.path) (reviewFlags o.decision) with
        dropped := dropped, dropReasons := reasons
        candidates := candidates, evidence := evidence } :=
  (maybeCandidate_cases S policy _ o _ _).1.frame

theorem join_counts (S policy s o) :
    (join S policy s o).total = s.total.add (countOf o.decision (reviewFlags o.decision)) ∧
      ∀ c o', (join S policy s o).covers c o' = s.covers c o' := by
  obtain ⟨_, _, _, _, framed⟩ := join_frame S policy s o
  obtain ⟨_, _, counted⟩ := countRequest_frame policy s o
    (trafficRouteTemplate o.request.path) (reviewFlags o.decision)
  rw [framed, counted]
  exact ⟨rfl, fun _ _ => rfl⟩

/-! ## The totals of one window -/

/-- The open window after the observations that joined it. -/
structure Balanced (policy : TrafficReviewPolicy) (os : List Observation) (s : WindowState) :
    Prop where
  cells : CellsHold (fun _ => True) policy s
  total : ∀ k, s.total.get k = tally k os
  weight : ∀ k, weigh s k = tally k os

theorem openWindow_balanced (c o) (positive : 1 ≤ c.policy.topRouteCells) :
    Balanced c.policy [] (openWindow c o) := by
  refine ⟨⟨?_, ?_, ?_⟩, ?_, ?_⟩
  · intro k
    simp [openWindow]
  · simp [openWindow, Table.empty]
  · exact Int.le_trans (Int.zero_le_ofNat 1) positive
  · intro k
    simp [openWindow, tally]
  · intro k
    simp [openWindow, weigh, tally, Table.empty, sumBy]

theorem join_balanced (S) (positive : 1 ≤ policy.topRouteCells) (balanced : Balanced policy os s)
    (o) : Balanced policy (os ++ [o]) (join S policy s o) := by
  let key : RouteKey := ⟨toUpper o.request.method, trafficRouteTemplate o.request.path⟩
  have before : CellsHold (fun _ => True) policy
      (countTotals s o.decision (reviewFlags o.decision)) :=
    ⟨balanced.cells.other, balanced.cells.cells, balanced.cells.few⟩
  have cells := @countRoute_cells _ key _ _ _ before positive trivial
    (countOf_bounded o.decision (reviewFlags o.decision))
  have weight := countRoute_weigh (s := countTotals s o.decision (reviewFlags o.decision))
    positive key (countOf o.decision (reviewFlags o.decision))
  obtain ⟨_, _, _, _, framed⟩ := join_frame S policy s o
  refine ⟨?_, ?_, ?_⟩
  · rw [framed]
    exact ⟨cells.other, cells.cells, cells.few⟩
  · intro k
    rw [(join_counts ..).1, RouteCount.get_add, balanced.total k, tally_concat]
  · intro k
    rw [framed, tally_concat, ← balanced.weight k]
    exact weight k

theorem joins_balanced (S) (positive : 1 ≤ policy.topRouteCells) (balanced : Balanced policy os s)
    (later) : Balanced policy (os ++ later) (later.foldl (join S policy) s) := by
  induction later generalizing os s with
  | nil => simpa using balanced
  | cons o _ ih =>
    have next := ih (join_balanced S positive balanced o)
    rwa [append_assoc] at next

theorem run_joins (on : c.policy.mode ≠ .off) (state : c.state = some s)
    (one : ∀ o ∈ os, s.covers c o = true) :
    run (collectorStep S) c (os.map .observe) =
      { c with state := some (os.foldl (join S c.policy) s) } := by
  induction os generalizing c s with
  | nil => rw [foldl_nil, ← state, map_nil, run_nil]
  | cons o later ih =>
    have stays : observe S c o = { c with state := some (join S c.policy s o) } := by
      rw [observe_join on, ensureWindow, state]
      simp [one o mem_cons_self]
    rw [map_cons, run_cons, collectorStep, stays, foldl_cons]
    refine ih on rfl ?_
    intro o' member
    rw [(join_counts ..).2]
    exact one o' (mem_cons_of_mem o member)

def TrafficRouteCell.get (cell : TrafficRouteCell) : Counter → Int
  | .requests => cell.requestCount
  | .critical => cell.criticalCount
  | .blocked => cell.blockedCount
  | .incomplete => cell.incompleteCount

theorem cellOf_get (key count) (k) : (cellOf key count).get k = (count.get k : Int) := by
  cases k <;> rfl

def TrafficWindow.total (w : TrafficWindow) : Counter → Int
  | .requests => w.requestCount
  | .critical => w.criticalCount
  | .blocked => w.blockedCount
  | .incomplete => w.incompleteCount

def TrafficWindow.cells (w : TrafficWindow) : List TrafficRouteCell :=
  w.other.toList ++ w.routeCells

def sumCounts (k : Counter) (cells : List TrafficRouteCell) : Int :=
  cells.foldr (fun cell sum => cell.get k + sum) 0

structure WindowTotals (policy : TrafficReviewPolicy) (os : List Observation)
    (w : TrafficWindow) : Prop where
  few : (w.routeCells.length : Int) ≤ policy.topRouteCells
  counted : ∀ k, w.total k = (tally k os : Int)
  summed : ∀ k, w.total k = sumCounts k w.cells
  bounded : ∀ cell ∈ w.cells, ∀ k, cell.get k ≤ cell.get .requests
  distinct : (w.routeCells.map fun cell => (cell.method, cell.routeTemplate)).Nodup

theorem sumCounts_cells (pairs) :
    sumCounts k (pairs.map fun pair => cellOf pair.1 pair.2) =
      (sumBy (fun row => row.2.get k) pairs : Nat) := by
  induction pairs with
  | nil => rfl
  | cons pair rest ih =>
    rw [map_cons, sumCounts, foldr_cons, ← sumCounts, ih, cellOf_get]
    rfl

theorem freeze_total (S vault c s) (k) :
    (freeze S vault c s).1.total k = (s.total.get k : Int) := by
  obtain ⟨_, _, _, _, framed⟩ := (fixCandidates_marked vault c s).frame
  rw [freeze, framed]
  cases k <;> rfl

theorem freeze_totals (vault : Vault) (balanced : Balanced c.policy os s) :
    WindowTotals c.policy os (freeze S vault c s).1 := by
  have sorted := sortPairs_perm s.routes.rows
  have total := freeze_total S vault c s
  rw [freeze_few S vault balanced.cells.few] at total ⊢
  refine ⟨?_, ?_, ?_, ?_, ?_⟩
  · rw [windowMessage, length_map, sorted.length_eq]
    exact balanced.cells.few
  · intro k
    rw [total, balanced.total]
  · intro k
    rw [total, balanced.total, ← balanced.weight, weigh, ← sumBy_perm _ sorted, Int.natCast_add,
      ← sumCounts_cells, ← cellOf_get ⟨"", ""⟩]
    rfl
  · intro cell member k
    have counts : ∃ key count, RouteCount.Bounded count ∧ cell = cellOf key count := by
      rcases mem_append.mp member with other | named
      · obtain rfl := mem_singleton.mp other
        exact ⟨_, _, balanced.cells.other, rfl⟩
      · obtain ⟨pair, route, rfl⟩ := mem_map.mp named
        exact ⟨_, _, (balanced.cells.cells pair (sorted.mem_iff.mp route)).1, rfl⟩
    obtain ⟨_, _, bounded, rfl⟩ := counts
    rw [cellOf_get, cellOf_get]
    exact Int.ofNat_le.mpr (bounded k)
  · have keys := (sorted.map Prod.fst).nodup_iff.mpr s.routes.unique
    rw [windowMessage, map_map]
    have apart : Function.Injective fun key : RouteKey => (key.method, key.route) := by
      rintro ⟨_, _⟩ ⟨_, _⟩ same
      simpa using same
    have named := keys.map apart
    rwa [map_map] at named

/-- The observations of one window: at every point the named routes are few, and the window that
is frozen then has their totals. -/
theorem window_totals (S : Services) {c : ReviewCollector} (on : c.policy.mode ≠ .off)
    (positive : 1 ≤ c.policy.topRouteCells) {first : Observation} {rest : List Observation}
    (fresh : ∀ s, c.state = some s → s.covers c first = false)
    (one : ∀ o ∈ rest, (openWindow c first).covers c o = true) :
    ∃ s, (run (collectorStep S) c ((first :: rest).map .observe)).state = some s ∧
      (s.routes.rows.length : Int) ≤ c.policy.topRouteCells ∧ ∀ vault,
        WindowTotals c.policy (first :: rest)
          (freeze S vault (run (collectorStep S) c ((first :: rest).map .observe)) s).1 := by
  obtain ⟨d, same, opened⟩ : ∃ d : ReviewCollector, d.policy = c.policy ∧
      ensureWindow S c first = (d, openWindow c first) := by
    rw [ensureWindow]
    cases state : c.state with
    | none => exact ⟨c, rfl, rfl⟩
    | some s =>
      dsimp only
      rw [fresh s state]
      exact ⟨keepFrozen S first.vault c s, rfl, rfl⟩
  have begun := join_balanced S positive (openWindow_balanced c first positive) first
  have joined := joins_balanced S positive begun rest
  rw [map_cons, run_cons, collectorStep, observe_join on, opened]
  rw [← same] at joined on ⊢
  have covered : ∀ o ∈ rest, (join S d.policy (openWindow c first) first).covers
      { d with state := some (join S d.policy (openWindow c first) first) } o = true := by
    intro o member
    rw [(join_counts ..).2, ← one o member, WindowState.covers, WindowState.covers, truncate,
      truncate, same]
  have joins := run_joins (S := S) (c := { d with
    state := some (join S d.policy (openWindow c first) first) }) on rfl covered
  dsimp only at joins ⊢
  rw [joins]
  exact ⟨_, rfl, joined.cells.few, fun vault => freeze_totals vault joined⟩

/-- The third route displaces one of the two before it. -/
theorem window_totals_three :
    ∃ s, (run (collectorStep plainServices) (visitCollector .statisticsOnly)
        (["/cart", "/pay", "/help"].map fun path => .observe (visit "GET" path))).state = some s ∧
      (s.routes.rows.length : Int) ≤ 2 ∧ ∀ vault, WindowTotals (dailyPolicy .statisticsOnly)
        [visit "GET" "/cart", visit "GET" "/pay", visit "GET" "/help"]
        (freeze plainServices vault (run (collectorStep plainServices)
          (visitCollector .statisticsOnly)
          (["/cart", "/pay", "/help"].map fun path => .observe (visit "GET" path))) s).1 :=
  @window_totals plainServices (visitCollector .statisticsOnly) (by decide) (by decide)
    (visit "GET" "/cart") [visit "GET" "/pay", visit "GET" "/help"] nofun (by decide +kernel)

/-! ## Handing over -/

/-- A collector with what was observed, the windows that were removed, and what the calls of
`PrepareDrain` and `PrepareFlush` returned. -/
structure Watched where
  collector : ReviewCollector
  observed : List Observation
  removed : List TrafficWindow
  prepared : List (Nat × List TrafficWindow)

def watchStep (S : Services) (w : Watched) (op : CollectorOp) : Watched :=
  let c := collectorStep S w.collector op
  match op with
  | .observe o =>
    { w with
      collector := c
      observed := if w.collector.policy.mode = .off then w.observed else w.observed ++ [o] }
  | .commit version =>
    { w with
      collector := c
      removed := w.removed ++
        if version = w.collector.readyVersion then w.collector.readyW else [] }
  | _ => { w with collector := c, prepared := w.prepared ++ [(c.readyVersion, c.readyW)] }

/-- The observations fall into one part for each frozen window and one for the open window, and
every window counts its part. -/
def CountedOnce (observed : List Observation) (removed : List TrafficWindow)
    (c : ReviewCollector) : Prop :=
  ∃ parts current, observed = parts.flatten ++ current ∧
    List.Forall₂ (fun part w => ∀ k, TrafficWindow.total w k = (tally k part : Int))
      parts (removed ++ c.readyW) ∧
    ∀ k, tally k current = c.state.elim 0 (·.total.get k)

variable {removed : List TrafficWindow}

theorem CountedOnce.joined (counted : CountedOnce os removed c)
    (same : ∀ k, s.total.get k = c.state.elim 0 (·.total.get k)) (o) :
    CountedOnce (os ++ [o]) removed { c with state := some (join S policy s o) } := by
  obtain ⟨parts, current, rfl, frozen, opened⟩ := counted
  refine ⟨parts, current ++ [o], by rw [append_assoc], frozen, ?_⟩
  intro k
  rw [tally_concat, opened k, ← same k, Option.elim_some, (join_counts ..).1, RouteCount.get_add]

theorem CountedOnce.frozen (counted : CountedOnce os removed c) (state : c.state = some s)
    (vault : Vault) : CountedOnce os removed { keepFrozen S vault c s with state := none } := by
  obtain ⟨parts, current, rfl, frozen, opened⟩ := counted
  refine ⟨parts ++ [current], [], by simp, ?_, fun _ => rfl⟩
  rw [keepFrozen, ← append_assoc]
  refine rel_append frozen (.cons ?_ .nil)
  intro k
  rw [freeze_total, opened k, state, Option.elim_some]

theorem CountedOnce.observe (counted : CountedOnce os removed c) (on : c.policy.mode ≠ .off) (o) :
    CountedOnce (os ++ [o]) removed (observe S c o) := by
  rw [observe_join on, ensureWindow]
  have fresh : ∀ k, (openWindow c o).total.get k = 0 := RouteCount.get_zero
  cases state : c.state with
  | none => exact counted.joined (by simp [state, fresh]) o
  | some s =>
    dsimp only
    split
    · exact counted.joined (by simp [state]) o
    · exact (counted.frozen (S := S) state o.vault).joined fresh o

theorem CountedOnce.commit (counted : CountedOnce os removed c) (version : Nat) :
    CountedOnce os (removed ++ if version = c.readyVersion then c.readyW else [])
      (commitDrain c version) := by
  obtain ⟨parts, current, rfl, frozen, opened⟩ := counted
  rw [commitDrain]
  split <;> exact ⟨parts, current, rfl, by simpa using frozen, opened⟩

/-- A version is returned with all that waits, unless this was removed already. -/
def Versioned (w : Watched) : Prop :=
  ∀ pair ∈ w.prepared, pair.1 ≤ w.collector.readyVersion ∧
    (pair.1 = w.collector.readyVersion → w.collector.readyW = [] ∨ pair.2 = w.collector.readyW)

/-- What a call does to the frozen windows and their version. -/
inductive Ready (c c' : ReviewCollector) : Prop where
  | same (windows : c'.readyW = c.readyW) (version : c'.readyVersion = c.readyVersion)
  | added (w : TrafficWindow) (windows : c'.readyW = c.readyW ++ [w])
      (version : c'.readyVersion = c.readyVersion + 1)

theorem observe_ready (S c o) : Ready c (observe S c o) := by
  rw [Review.observe]
  split
  · exact .same rfl rfl
  rw [ensureWindow]
  split
  · exact .same rfl rfl
  · split
    · exact .same rfl rfl
    · exact .added _ rfl rfl

/-- A call that prepares leaves the collector as it is or freezes the open window. -/
theorem prepared_cases {c'}
    (call : ∃ vault, c' = prepareFlush S vault c ∨ ∃ now, c' = prepareDrain S vault c now) :
    c' = c ∨ ∃ s vault, c.state = some s ∧ c' = { keepFrozen S vault c s with state := none } := by
  obtain ⟨vault, rfl | ⟨now, rfl⟩⟩ := call
  · rw [prepareFlush]
    split
    · exact .inr ⟨_, vault, by assumption, rfl⟩
    · exact .inl rfl
  · rw [prepareDrain]
    split
    · split
      · exact .inr ⟨_, vault, by assumption, rfl⟩
      · exact .inl rfl
    · exact .inl rfl

theorem prepared_ready {c'}
    (call : ∃ vault, c' = prepareFlush S vault c ∨ ∃ now, c' = prepareDrain S vault c now) :
    Ready c c' := by
  rcases prepared_cases call with rfl | ⟨s, vault, -, rfl⟩
  · exact .same rfl rfl
  · exact .added _ rfl rfl

structure Accounted (w : Watched) : Prop where
  counted : CountedOnce w.observed w.removed w.collector
  versioned : Versioned w

variable {w : Watched}

theorem Versioned.next (versioned : Versioned w) {c} (ready : Ready w.collector c) {pair}
    (member : pair ∈ w.prepared) : pair.1 ≤ c.readyVersion ∧
      (pair.1 = c.readyVersion → c.readyW = [] ∨ pair.2 = c.readyW) := by
  have before := versioned pair member
  cases ready with
  | same windows version => rwa [windows, version]
  | added w windows version => exact ⟨by omega, fun same => by omega⟩

theorem Accounted.prepare (kept : Accounted w) {c}
    (call : ∃ vault, c = prepareFlush S vault w.collector ∨
      ∃ now, c = prepareDrain S vault w.collector now) :
    Accounted { w with
      collector := c, prepared := w.prepared ++ [(c.readyVersion, c.readyW)] } := by
  constructor
  · rcases prepared_cases call with rfl | ⟨s, vault, state, rfl⟩
    · exact kept.counted
    · exact kept.counted.frozen state vault
  · intro pair member
    rcases mem_append.mp member with old | new
    · exact kept.versioned.next (prepared_ready call) old
    · rw [mem_singleton.mp new]
      exact ⟨Nat.le_refl _, fun _ => .inr rfl⟩

theorem watchStep_accounted (S w op) (kept : Accounted w) : Accounted (watchStep S w op) := by
  cases op with
  | observe o =>
    refine ⟨?_, fun _ => kept.versioned.next (observe_ready S w.collector o)⟩
    simp only [watchStep, collectorStep]
    split
    next off =>
      rw [Review.observe, if_pos off]
      exact kept.counted
    next on => exact kept.counted.observe on o
  | drain vault now => exact kept.prepare ⟨vault, .inr ⟨now, rfl⟩⟩
  | flush vault => exact kept.prepare ⟨vault, .inl rfl⟩
  | commit version =>
    refine ⟨kept.counted.commit version, ?_⟩
    intro pair member
    have before := kept.versioned pair member
    simp only [watchStep, collectorStep, commitDrain]
    split
    · exact ⟨before.1, fun _ => .inl rfl⟩
    · exact before

/-- Nothing is removed but by a commit of the current version, which no call returned but with
all the windows that wait. -/
theorem watchStep_removes (S) (kept : Accounted w) (op) :
    w.collector.readyW <+: (watchStep S w op).collector.readyW ∨
      op = .commit w.collector.readyVersion ∧ ∀ windows,
        (w.collector.readyVersion, windows) ∈ w.prepared → windows = w.collector.readyW := by
  have grows : ∀ c, Ready w.collector c → w.collector.readyW <+: c.readyW := by
    intro c ready
    cases ready with
    | same windows => exact windows ▸ prefix_refl _
    | added _ windows => exact windows ▸ prefix_append _ _
  have prepares := fun c call => grows c (@prepared_ready S _ c call)
  cases op with
  | observe o => exact .inl (grows _ (observe_ready S w.collector o))
  | drain vault now => exact .inl (prepares _ ⟨vault, .inr ⟨now, rfl⟩⟩)
  | flush vault => exact .inl (prepares _ ⟨vault, .inl rfl⟩)
  | commit version =>
    simp only [watchStep, collectorStep, commitDrain]
    split
    next current =>
      by_cases empty : w.collector.readyW = []
      · exact .inl (by simp [empty])
      · refine .inr ⟨by rw [current], fun _ member => ?_⟩
        exact ((kept.versioned _ member).2 rfl).resolve_left empty
    · exact .inl (prefix_refl _)

/-- Every observation is counted in one window, and a commit of a version that was prepared removes
the windows that were prepared with it. -/
theorem prepared_windows_kept (S : Services) {policy : TrafficReviewPolicy} {digest : String}
    {vaulted : Bool} {c : ReviewCollector}
    (created : newReviewCollector policy digest vaulted = .ok c) (ops : List CollectorOp) :
    let w := run (watchStep S) ⟨c, [], [], []⟩ ops
    CountedOnce w.observed w.removed w.collector ∧ ∀ op,
      w.collector.readyW <+: (watchStep S w op).collector.readyW ∨
        op = .commit w.collector.readyVersion ∧ ∀ windows,
          (w.collector.readyVersion, windows) ∈ w.prepared → windows = w.collector.readyW := by
  have empty : c.readyW = [] ∧ c.state = none := by
    rw [newReviewCollector] at created
    split at created
    · contradiction
    · obtain rfl := Except.ok.inj created
      exact ⟨rfl, rfl⟩
  have start : Accounted ⟨c, [], [], []⟩ := by
    refine ⟨⟨[], [], rfl, ?_, ?_⟩, fun _ member => absurd member not_mem_nil⟩
    · rw [empty.1]
      exact .nil
    · simp [empty.2, tally]
  have kept := run_always _ Accounted (watchStep_accounted S) start ops
  exact ⟨kept.counted, watchStep_removes S kept⟩

/-- The flushed window waits until its version is committed. -/
theorem prepared_windows_kept_flush :
    let w := run (watchStep plainServices) ⟨visitCollector .statisticsOnly, [], [], []⟩
      (visitOps "GET" "/cart" ++ [.commit 1])
    w.removed.length = 1 ∧ w.collector.readyW = [] ∧
      CountedOnce w.observed w.removed w.collector := by
  have kept := @prepared_windows_kept plainServices (dailyPolicy .statisticsOnly) "sha256:aa"
    false _ rfl (visitOps "GET" "/cart" ++ [.commit 1])
  exact ⟨by decide +kernel, by decide +kernel, kept.1⟩

/-- The observation of another asset freezes the window of the first one, and a commit removes it
before any call has returned it. -/
theorem unprepared_window_removed :
    newReviewCollector (dailyPolicy .statisticsOnly) "sha256:aa" false =
        .ok (visitCollector .statisticsOnly) ∧
      let w := run (watchStep plainServices) ⟨visitCollector .statisticsOnly, [], [], []⟩
        [.observe (visit "GET" "/cart"), .observe { visit "GET" "/cart" with assetId := "mill" }]
      w.collector.readyW.length = 1 ∧ w.prepared = [] ∧
        (watchStep plainServices w (.commit 1)).collector.readyW = [] :=
  ⟨rfl, by decide +kernel, by decide +kernel, by decide +kernel⟩

end YuFeng.Review
