import YuFeng.Library.Run
import YuFeng.Review.Collector
import YuFeng.Review.Ingest

/-!
# Acceptance of traffic windows

The brain checks that the cells of a window add up to its totals.  The
collector keeps these sums through every count, eviction and dropped piece of
evidence, so every window it freezes passes the check if no request has a
method of more than 32 bytes.
-/

namespace YuFeng.Review

open YuFeng.Library

variable {count : RouteCount} {key : RouteKey} {s : WindowState}
  {policy : TrafficReviewPolicy} {c : ReviewCollector} {o : Observation}

/-! ## Counts -/

inductive Counter where
  | requests
  | critical
  | blocked
  | incomplete

def RouteCount.get (count : RouteCount) : Counter → Nat
  | .requests => count.requests
  | .critical => count.critical
  | .blocked => count.blocked
  | .incomplete => count.incomplete

@[simp] theorem RouteCount.get_add (a b : RouteCount) (k) :
    (a.add b).get k = a.get k + b.get k := by
  cases k <;> rfl

@[simp] theorem RouteCount.get_zero (k) : RouteCount.zero.get k = 0 := by
  cases k <;> rfl

def RouteCount.Bounded (count : RouteCount) : Prop := ∀ k, count.get k ≤ count.get .requests

theorem RouteCount.Bounded.add {a b : RouteCount} (ha : a.Bounded)
    (hb : b.Bounded) : (a.add b).Bounded := by
  intro k
  rw [get_add, get_add]
  exact Nat.add_le_add (ha k) (hb k)

theorem bit_le (flag : Bool) : bit flag ≤ 1 := by
  cases flag <;> decide

theorem countOf_bounded (dec flags) : (countOf dec flags).Bounded := by
  intro k
  cases k with
  | requests => exact Nat.le_refl _
  | critical | blocked | incomplete => exact bit_le _

/-! ## Route cells -/

structure RouteSound (key : RouteKey) : Prop where
  method : blank key.method = false
  methodSize : key.method.utf8ByteSize ≤ 32
  route : blank key.route = false
  routeSize : key.route.utf8ByteSize ≤ 2048

theorem counts_valid (bounded : count.Bounded) :
    ¬ ((count.requests : Int) < 0 ∨ (count.critical : Int) < 0 ∨
      (count.blocked : Int) < 0 ∨ (count.incomplete : Int) < 0 ∨
      (count.requests : Int) < count.critical ∨ (count.requests : Int) < count.blocked ∨
      (count.requests : Int) < count.incomplete) := by
  have critical : count.critical ≤ count.requests := bounded .critical
  have blocked : count.blocked ≤ count.requests := bounded .blocked
  have incomplete : count.incomplete ≤ count.requests := bounded .incomplete
  omega

theorem validTrafficRouteCell_cell (bounded : count.Bounded) (sound : RouteSound key) :
    validTrafficRouteCell (cellOf key count) false = true := by
  rw [validTrafficRouteCell, cellOf, if_neg (counts_valid bounded)]
  simp [sound.method, sound.methodSize, sound.route, sound.routeSize]

theorem validTrafficRouteCell_other (bounded : count.Bounded) :
    validTrafficRouteCell (cellOf ⟨"", ""⟩ count) true = true := by
  rw [validTrafficRouteCell, cellOf, if_neg (counts_valid bounded)]
  rfl

theorem sumCells_cells {pairs} (valid : ∀ pair ∈ pairs, pair.2.Bounded ∧ RouteSound pair.1)
    (totals : CellTotals) :
    sumCells totals (pairs.map fun pair => cellOf pair.1 pair.2) =
      some ⟨totals.requests + sumBy (fun row => row.2.get .requests) pairs,
        totals.critical + sumBy (fun row => row.2.get .critical) pairs,
        totals.blocked + sumBy (fun row => row.2.get .blocked) pairs,
        totals.incomplete + sumBy (fun row => row.2.get .incomplete) pairs⟩ := by
  induction pairs generalizing totals with
  | nil => simp [sumCells, sumBy]
  | cons _ _ ih =>
    rw [List.forall_mem_cons] at valid
    have here := validTrafficRouteCell_cell valid.1.1 valid.1.2
    rw [List.map_cons, sumCells, if_pos here, ih valid.2]
    simp only [CellTotals.add, totalsOf, cellOf, sumBy, List.foldr_cons,
      RouteCount.get, Option.some.injEq, CellTotals.mk.injEq]
    omega

theorem insertPair_perm (pair : RouteKey × RouteCount) (pairs) :
    (insertPair pair pairs).Perm (pair :: pairs) := by
  induction pairs with
  | nil => exact .refl _
  | cons next rest ih =>
    rw [insertPair]
    split
    · exact (ih.cons next).trans (.swap pair next rest)
    · exact .refl _

theorem sortPairs_perm (pairs) : (sortPairs pairs).Perm pairs := by
  induction pairs with
  | nil => exact .refl _
  | cons pair _ ih =>
    exact (insertPair_perm pair _).trans (ih.cons pair)

/-! ## Dropped evidence -/

structure DropsSound (s : WindowState) : Prop where
  allowed : ∀ row ∈ s.dropReasons.rows, allowedDropReasons.contains row.1 = true ∧ 0 ≤ row.2
  counted : s.dropped = (sumBy (fun row => row.2.toNat) s.dropReasons.rows : Nat)

theorem sumDrops_rows {rows} (allowed : ∀ row ∈ rows,
      allowedDropReasons.contains row.1 = true ∧ 0 ≤ row.2) (dropped : Int) :
    sumDrops dropped rows = some (dropped + (sumBy (fun row => row.2.toNat) rows : Nat)) := by
  induction rows generalizing dropped with
  | nil => simp [sumDrops, sumBy]
  | cons row _ ih =>
    obtain ⟨reason, _⟩ := row
    rw [List.forall_mem_cons] at allowed
    obtain ⟨⟨known, nonneg⟩, rest⟩ := allowed
    have listed : reason ∈ allowedDropReasons := by simpa using known
    rw [sumDrops, if_neg (by simp [listed, nonneg]), ih rest]
    simp only [sumBy, List.foldr_cons, Option.some.injEq]
    omega

theorem recordEvidenceDrop_drops (sound : DropsSound s) {reason}
    (known : allowedDropReasons.contains reason = true) :
    DropsSound (recordEvidenceDrop s reason) := by
  have before : 0 ≤ (s.dropReasons.find? reason).getD 0 := by
    cases found : s.dropReasons.find? reason with
    | none => exact Int.le_refl 0
    | some => exact (sound.allowed _ (Table.mem_iff_find?.mpr found)).2
  constructor
  · intro row member
    rcases Table.mem_set.mp member with rfl | ⟨old, -⟩
    · exact ⟨known, by omega⟩
    · exact sound.allowed row old
  · have added := sumBy_set (fun row : String × Int => row.2.toNat)
      s.dropReasons reason ((s.dropReasons.find? reason).getD 0 + 1)
    have counted := sound.counted
    have weight : ((s.dropReasons.find? reason).map fun before =>
        before.toNat).getD 0 = ((s.dropReasons.find? reason).getD 0).toNat := by
      cases s.dropReasons.find? reason <;> rfl
    rw [weight] at added
    change s.dropped + 1 = _
    rw [recordEvidenceDrop]
    dsimp only at added ⊢
    omega

/-! ## Counting a request by its route -/

def weigh (s : WindowState) (k : Counter) : Nat :=
  s.other.get k + sumBy (fun row => row.2.get k) s.routes.rows

structure CellsHold (named : RouteKey → Prop) (policy : TrafficReviewPolicy)
    (s : WindowState) : Prop where
  other : s.other.Bounded
  cells : ∀ row ∈ s.routes.rows, row.2.Bounded ∧ named row.1
  few : (s.routes.rows.length : Int) ≤ policy.topRouteCells

abbrev CellsSound : TrafficReviewPolicy → WindowState → Prop := CellsHold RouteSound

variable {named : RouteKey → Prop}

section

open List

theorem foldl_rarerRoute (routes) (best : RouteKey × RouteCount) :
    ∃ row ∈ best :: routes, routes.foldl rarerRoute (some best) = some row := by
  induction routes generalizing best with
  | nil => exact ⟨best, by simp, rfl⟩
  | cons next _ ih =>
    rw [foldl_cons, rarerRoute]
    split
    · obtain ⟨row, member, found⟩ := ih next
      exact ⟨row, mem_cons_of_mem best member, found⟩
    · obtain ⟨row, member, found⟩ := ih best
      refine ⟨row, ?_, found⟩
      rcases mem_cons.mp member with rfl | later
      · exact mem_cons_self
      · exact mem_cons_of_mem _ (mem_cons_of_mem _ later)

theorem leastFrequentReviewRoute_mem {routes} (nonempty : routes ≠ []) :
    ∃ row ∈ routes, leastFrequentReviewRoute routes = some row := by
  obtain ⟨first, rest, rfl⟩ := exists_cons_of_ne_nil nonempty
  exact foldl_rarerRoute rest first

theorem length_set_le {table : Table RouteKey RouteCount} (key count) :
    (table.set key count).rows.length ≤ table.rows.length + 1 := by
  have added := sumBy_set (fun _ => 1) table key count
  rw [sumBy_one, sumBy_one] at added
  omega

theorem evictRoute_cases (nonempty : s.routes.rows ≠ []) :
    ∃ key count, s.routes.find? key = some count ∧ evictRoute s = { s with
        other := s.other.add count
        routes := s.routes.erase key } := by
  obtain ⟨row, member, least⟩ := leastFrequentReviewRoute_mem nonempty
  exact ⟨row.1, row.2, Table.mem_iff_find?.mp member, by
    rw [evictRoute, least]⟩

theorem evictRoute_weigh (nonempty : s.routes.rows ≠ []) (k) :
    weigh (evictRoute s) k = weigh s k := by
  obtain ⟨_, _, found, evicted⟩ := evictRoute_cases nonempty
  have moved := sumBy_erase (fun row : RouteKey × RouteCount => row.2.get k) found
  rw [evicted, weigh, weigh, RouteCount.get_add]
  dsimp only at moved ⊢
  omega

theorem evictRoute_cells (sound : CellsHold named policy s) (nonempty : s.routes.rows ≠ []) :
    CellsHold named policy (evictRoute s) ∧
      (evictRoute s).routes.rows.length + 1 = s.routes.rows.length := by
  obtain ⟨_, _, found, evicted⟩ := evictRoute_cases nonempty
  have present := Table.mem_iff_find?.mpr found
  have fewer := sumBy_erase (fun _ => 1) found
  rw [sumBy_one, sumBy_one] at fewer
  have few := sound.few
  rw [evicted]
  refine ⟨⟨sound.other.add (sound.cells _ present).1, ?_, ?_⟩, fewer⟩
  · intro row member
    exact sound.cells row (Table.mem_erase.mp member).1
  · dsimp only
    omega

theorem full_nonempty (positive : 1 ≤ policy.topRouteCells)
    (full : ¬ (s.routes.rows.length : Int) < policy.topRouteCells) :
    s.routes.rows ≠ [] := by
  intro empty
  rw [empty] at full
  simp only [length_nil] at full
  omega

theorem makeRoom_weigh {policy s} (positive : 1 ≤ policy.topRouteCells) (k) :
    weigh (makeRoom policy s) k = weigh s k := by
  unfold makeRoom
  split
  · rfl
  next full => exact evictRoute_weigh (full_nonempty positive full) k

theorem makeRoom_cells (sound : CellsHold named policy s) (positive : 1 ≤ policy.topRouteCells) :
    CellsHold named policy (makeRoom policy s) ∧ ((makeRoom policy s).routes.rows.length : Int) <
        policy.topRouteCells := by
  unfold makeRoom
  split
  next room => exact ⟨sound, room⟩
  next full =>
    have evicted := evictRoute_cells sound (full_nonempty positive full)
    have few := sound.few
    exact ⟨evicted.1, by omega⟩

theorem makeRoom_absent (positive : 1 ≤ policy.topRouteCells) (absent : s.routes.find? key = none) :
    (makeRoom policy s).routes.find? key = none := by
  unfold makeRoom
  split
  · exact absent
  next full =>
    obtain ⟨_, _, _, evicted⟩ := evictRoute_cases (full_nonempty positive full)
    rw [evicted, Table.find?_erase]
    simp [absent]

theorem countRoute_weigh (positive : 1 ≤ policy.topRouteCells) (key) (count : RouteCount) (k) :
    weigh (countRoute policy s key count) k = weigh s k + count.get k := by
  rw [countRoute]
  cases found : s.routes.find? key with
  | some cell =>
    have added := sumBy_set (fun row : RouteKey × RouteCount => row.2.get k) s.routes key
      (cell.add count)
    simp only [found, Option.map_some, Option.getD_some, RouteCount.get_add] at added
    simp only [weigh]
    omega
  | none =>
    have absent := makeRoom_absent positive found
    have added := sumBy_set (fun row : RouteKey × RouteCount => row.2.get k)
      (makeRoom policy s).routes key count
    have same := @makeRoom_weigh policy s positive k
    simp only [absent, Option.map_none, Option.getD_none] at added
    simp only [weigh] at added same ⊢
    omega

theorem countRoute_cells (sound : CellsHold named policy s)
    (positive : 1 ≤ policy.topRouteCells) (holds : named key)
    (bounded : count.Bounded) :
    CellsHold named policy (countRoute policy s key count) := by
  rw [countRoute]
  cases found : s.routes.find? key with
  | some cell =>
    have present := Table.mem_iff_find?.mpr found
    have keys := congrArg List.length (Table.keys_set found (cell.add count))
    rw [length_map, length_map] at keys
    refine ⟨sound.other, ?_, ?_⟩
    · intro row member
      rcases Table.mem_set.mp member with rfl | ⟨old, -⟩
      · exact ⟨(sound.cells _ present).1.add bounded, holds⟩
      · exact sound.cells row old
    · dsimp only
      rw [keys]
      exact sound.few
  | none =>
    have roomy := makeRoom_cells sound positive
    have longer := @length_set_le (makeRoom policy s).routes key count
    refine ⟨roomy.1.other, ?_, ?_⟩
    · intro row member
      rcases Table.mem_set.mp member with rfl | ⟨old, -⟩
      · exact ⟨bounded, holds⟩
      · exact roomy.1.cells row old
    · dsimp only
      omega

theorem countRoute_frame (policy s key count) :
    ∃ routes other, countRoute policy s key count =
      { s with routes := routes, other := other } := by
  rw [countRoute]
  split
  · exact ⟨_, s.other, rfl⟩
  · rw [makeRoom]
    split
    · exact ⟨_, s.other, rfl⟩
    · rw [evictRoute]
      split <;> exact ⟨_, _, rfl⟩

theorem countRequest_frame (policy s o) (route flags) :
    ∃ routes other, countRequest policy s o route flags =
      { countTotals s o.decision flags with routes := routes, other := other } :=
  countRoute_frame policy _ _ _

/-! ## The names of a route -/

theorem blank_eq_false {s c} (member : c ∈ s.toList) (visible : isSpace c = false) :
    blank s = false := by
  rw [blank, decide_eq_false_iff_not, trimSpace_eq_empty_iff]
  intro spaces
  rw [spaces c member] at visible
  contradiction

variable (path : String)

theorem trafficRouteTemplate_rooted :
    ∃ rest, (trafficRouteTemplate path).toList = '/' :: rest ∧ rest.length < templateLimit := by
  obtain ⟨_, _, rooted⟩ := pathSegments_rooted path
  have start : normalizeSegment [] = [] := rfl
  rw [trafficRouteTemplate_toList, rooted, map_cons, map_cons,
    start, joinSegments_cons_cons, nil_append]
  refine ⟨_, take_succ_cons, ?_⟩
  rw [length_take]
  exact Nat.lt_of_le_of_lt (Nat.min_le_left _ _) (by decide)

theorem trafficRouteTemplate_size : (trafficRouteTemplate path).utf8ByteSize ≤ 2048 := by
  obtain ⟨_, text, short⟩ := trafficRouteTemplate_rooted path
  have size := utf8ByteSize_le (trafficRouteTemplate path)
  rw [text, length_cons] at size
  rw [templateLimit] at short
  omega

theorem trafficRouteTemplate_visible : blank (trafficRouteTemplate path) = false := by
  obtain ⟨_, text, -⟩ := trafficRouteTemplate_rooted path
  refine blank_eq_false (c := '/') ?_ (by decide)
  rw [text]
  exact mem_cons_self

def isTokenChar (c : Char) : Bool :=
  isLetter c || isDecimal c || "!#$%&'*+-.^_`|~".toList.contains c

def isToken (s : String) : Bool := s ≠ "" && s.toList.all isTokenChar

theorem isTokenChar_ascii {c} (h : isTokenChar c = true) : c.toNat < 128 := by
  rw [isTokenChar, Bool.or_eq_true, Bool.or_eq_true] at h
  rcases h with (letter | digit) | sign
  · simp only [isLetter, between, Bool.or_eq_true, Bool.and_eq_true, decide_eq_true_eq] at letter
    have small : ('z' : Char).toNat = 122 := rfl
    have large : ('Z' : Char).toNat = 90 := rfl
    omega
  · simp only [isDecimal, between, Bool.and_eq_true, decide_eq_true_eq] at digit
    have nine : ('9' : Char).toNat = 57 := rfl
    omega
  · have all : ("!#$%&'*+-.^_`|~".toList.all fun c => c.toNat < 128) =
        true := by decide
    rw [all_eq_true] at all
    exact of_decide_eq_true (all c (by simpa using sign))

theorem isTokenChar_toUpper {c} (h : isTokenChar c = true) :
    isSpace c.toUpper = false ∧ c.toUpper.utf8Size = c.utf8Size := by
  have all : ∀ n : Fin 128, isTokenChar (Char.ofNat n) = true →
      isSpace (Char.ofNat n).toUpper = false ∧
        (Char.ofNat n).toUpper.utf8Size = (Char.ofNat n).utf8Size := by
    decide +kernel
  have here := all ⟨c.toNat, isTokenChar_ascii h⟩
  rw [Char.ofNat_toNat] at here
  exact here h

theorem route_sound {method} (token : isToken method = true) (short : method.utf8ByteSize ≤ 32)
    (path) : RouteSound ⟨toUpper method, trafficRouteTemplate path⟩ := by
  rw [isToken, Bool.and_eq_true, decide_eq_true_eq, all_eq_true] at token
  obtain ⟨nonempty, chars⟩ := token
  have size : (toUpper method).utf8ByteSize = method.utf8ByteSize := by
    rw [toUpper, utf8ByteSize_map fun c member =>
      (isTokenChar_toUpper (chars c member)).2, String.ofList_toList]
  refine ⟨?_, size ▸ short, trafficRouteTemplate_visible path, trafficRouteTemplate_size path⟩
  obtain ⟨c, _, text⟩ := exists_cons_of_ne_nil (l := method.toList)
    fun empty => nonempty (String.toList_inj.mp empty)
  have first : c ∈ method.toList := text ▸ mem_cons_self
  refine blank_eq_false (c := c.toUpper) ?_ (isTokenChar_toUpper (chars c first)).1
  rw [toUpper, String.toList_ofList]
  exact mem_map_of_mem first

/-! ## Windows -/

structure WindowSound (policy : TrafficReviewPolicy) (s : WindowState) :
    Prop where
  cells : CellsSound policy s
  balanced : ∀ k, s.total.get k = weigh s k
  observed : s.observed ≤ s.total.get .requests
  drops : DropsSound s
  asset : blank s.assetId = false
  digest : blank s.policy = false
  lower : -62135596800 * second ≤ s.start
  upper : s.start < 253370764800 * second
  length : s.stop = s.start + trafficReviewWindow * second

/-- Evidence is dropped or candidates are placed, and nothing else changes. -/
structure Marked (s s' : WindowState) : Prop where
  frame : ∃ dropped reasons candidates evidence, s' = { s with
    dropped := dropped, dropReasons := reasons
    candidates := candidates, evidence := evidence }
  drops : DropsSound s → DropsSound s'

theorem Marked.refl (s) : Marked s s := ⟨⟨_, _, _, _, rfl⟩, id⟩

theorem Marked.trans {s s' s''} (h : Marked s s') (h' : Marked s' s'') : Marked s s'' := by
  obtain ⟨⟨_, _, _, _, rfl⟩, drops⟩ := h
  obtain ⟨⟨_, _, _, _, rfl⟩, drops'⟩ := h'
  exact ⟨⟨_, _, _, _, rfl⟩, fun sound => drops' (drops sound)⟩

theorem Marked.sound {s'} (h : Marked s s') (sound : WindowSound policy s) :
    WindowSound policy s' := by
  obtain ⟨⟨_, _, _, _, rfl⟩, drops⟩ := h
  exact ⟨⟨sound.cells.other, sound.cells.cells, sound.cells.few⟩, sound.balanced, sound.observed,
    drops sound.drops, sound.asset, sound.digest, sound.lower, sound.upper, sound.length⟩

theorem Marked.dropped (s) {reason} (known : allowedDropReasons.contains reason = true) :
    Marked s (recordEvidenceDrop s reason) :=
  ⟨⟨_, _, _, _, rfl⟩, fun sound => recordEvidenceDrop_drops sound known⟩

theorem Marked.placed (s slot x) : Marked s (placeCandidate s slot x) := by
  rw [placeCandidate]
  split <;> exact ⟨⟨_, _, _, _, rfl⟩, fun sound => ⟨sound.allowed, sound.counted⟩⟩

variable (vault : Vault)

theorem fixEvidence_marked (numbered : List (ReviewCandidate × Nat))
    (acc : WindowState × List ReviewCandidate) :
    Marked acc.1 (numbered.foldl (fixEvidence vault) acc).1 := by
  induction numbered generalizing acc with
  | nil => exact .refl _
  | cons next _ ih =>
    refine Marked.trans ?_ (ih (fixEvidence vault acc next))
    rw [fixEvidence]
    split
    · exact .refl _
    all_goals exact .dropped _ (by decide)

theorem fixCandidates_marked (c s) : Marked s (fixCandidates vault c s).1 := by
  rw [fixCandidates]
  split
  · exact .refl _
  split
  · dsimp only
    generalize s.candidates = candidates
    induction candidates generalizing s with
    | nil => exact .refl _
    | cons _ _ ih => exact (Marked.dropped s (by decide)).trans (ih _)
  · exact fixEvidence_marked vault _ (s, [])

variable (S : Services)

theorem windowHash_visible (text) : blank (windowHash S text) = false :=
  blank_eq_false (c := 't') (by simp [windowHash]) (by decide)

theorem windowMessage_complete (admitted : Admitted c.policy) (sound : WindowSound c.policy s)
    {cells} (few : (cells.length : Int) ≤ trafficReviewTopRoutes) (other) :
    windowComplete (windowMessage S c s cells other) = true := by
  have start := Timestamp.isValid_new sound.lower (Int.lt_trans sound.upper (by decide))
  have later : -62135596800 * second ≤ s.stop ∧ s.stop < 253402300800 * second := by
    have lower := sound.lower
    have upper := sound.upper
    rw [sound.length]
    simp only [second, trafficReviewWindow] at lower upper ⊢
    omega
  have stop := Timestamp.isValid_new later.1 later.2
  have span : s.stop - s.start = trafficReviewWindow * second := by
    rw [sound.length]
    omega
  have mode := admitted.modeNumber
  simp [windowComplete, windowMessage, reviewWindowID, windowHash_visible, sound.asset,
    start, stop, span, sound.digest, few, mode.1, mode.2]

/-- A window has no more routes than cells, so freezing merges none of them. -/
theorem freeze_few (vault : Vault) (few : (s.routes.rows.length : Int) ≤ c.policy.topRouteCells) :
    (freeze S vault c s).1 = windowMessage S c (fixCandidates vault c s).1
      ((sortPairs s.routes.rows).map fun pair => cellOf pair.1 pair.2) s.other := by
  obtain ⟨_, _, _, _, framed⟩ := (fixCandidates_marked vault c s).frame
  have short : (sortPairs s.routes.rows).length ≤ c.policy.topRouteCells.toNat := by
    rw [(sortPairs_perm s.routes.rows).length_eq]
    omega
  rw [freeze]
  dsimp only
  rw [framed, drop_eq_nil_of_le short, take_of_length_le short, map_nil, foldl_nil]

theorem freeze_accepted (vault : Vault) (admitted : Admitted c.policy)
    (sound : WindowSound c.policy s) : checkTrafficWindow (some (freeze S vault c s).1) = none := by
  have fixed := (fixCandidates_marked vault c s).sound sound
  obtain ⟨_, _, _, _, framed⟩ := (fixCandidates_marked vault c s).frame
  rw [freeze_few S vault sound.cells.few]
  rw [framed] at fixed ⊢
  have sorted := sortPairs_perm s.routes.rows
  have cells := sound.cells.few
  have top := admitted.routes.2
  have valid : ∀ pair ∈ sortPairs s.routes.rows,
      pair.2.Bounded ∧ RouteSound pair.1 := fun pair member =>
    sound.cells.cells pair (sorted.mem_iff.mp member)
  have sums : ∀ k, s.total.get k = s.other.get k +
      sumBy (fun row => row.2.get k) (sortPairs s.routes.rows) := by
    intro k
    rw [sumBy_perm _ sorted]
    exact sound.balanced k
  have count : (((sortPairs s.routes.rows).map fun pair =>
      cellOf pair.1 pair.2).length : Int) ≤ trafficReviewTopRoutes := by
    rw [length_map, sorted.length_eq]
    omega
  have complete := windowMessage_complete S admitted fixed count s.other
  have summed : sumCells (totalsOf (cellOf ⟨"", ""⟩ s.other))
      ((sortPairs s.routes.rows).map fun pair => cellOf pair.1 pair.2) =
      some ⟨s.total.requests, s.total.critical, s.total.blocked, s.total.incomplete⟩ := by
    have requests := sums .requests
    have critical := sums .critical
    have blocked := sums .blocked
    have incomplete := sums .incomplete
    rw [sumCells_cells valid]
    simp only [totalsOf, cellOf, RouteCount.get, Option.some.injEq,
      CellTotals.mk.injEq] at requests critical blocked incomplete ⊢
    omega
  have observed : s.observed ≤ s.total.requests := sound.observed
  have dropped := sumDrops_rows fixed.drops.allowed 0
  rw [← fixed.drops.counted, Int.zero_add] at dropped
  exact checkTrafficWindow_pass complete rfl (validTrafficRouteCell_other fixed.cells.other) summed
    ⟨Int.natCast_nonneg _, Int.ofNat_le.mpr observed⟩ dropped

/-! ## Observations -/

def placed (candidates : List ReviewCandidate) (slot : Nat)
    (x : ReviewCandidate) : List ReviewCandidate :=
  if slot = candidates.length then candidates ++ [x]
  else candidates.set slot x

theorem placeCandidate_candidates (s) (slot x) :
    (placeCandidate s slot x).candidates = placed s.candidates slot x := by
  rw [placeCandidate, placed]
  split <;> rfl

theorem mem_placed {candidates slot x y} (member : y ∈ placed candidates slot x) :
    y ∈ candidates ∨ y = x := by
  rw [placed] at member
  split at member
  · rcases mem_append.mp member with old | new
    · exact .inl old
    · exact .inr (mem_singleton.mp new)
  · exact mem_or_eq_of_mem_set member

theorem maybeCandidate_cases (policy s o) (route flags) :
    Marked s (maybeCandidate S policy s o route flags) ∧
      ((maybeCandidate S policy s o route flags).candidates = s.candidates ∨
        ReviewMode.redactedCases.number ≤ policy.mode.number ∧ ∃ slot,
          (maybeCandidate S policy s o route flags).candidates = placed s.candidates slot
            (newCandidate S policy s o route (reviewRisk o.decision flags))) := by
  rw [maybeCandidate]
  split
  · exact ⟨.refl _, .inl rfl⟩
  rename_i mode
  have shown := Nat.le_of_not_lt mode
  dsimp only
  split
  · exact ⟨.refl _, .inl rfl⟩
  split
  · exact ⟨.refl _, .inl rfl⟩
  split
  · exact ⟨.refl _, .inl rfl⟩
  split
  · exact ⟨.placed _ _ _, .inr ⟨shown, _, placeCandidate_candidates _ _ _⟩⟩
  split
  · exact ⟨.dropped _ (by decide), .inl rfl⟩
  · refine ⟨Marked.trans ?_ (.placed _ _ _), .inr ⟨shown, _, placeCandidate_candidates _ _ _⟩⟩
    exact ⟨⟨_, _, _, _, rfl⟩, fun sound => ⟨sound.allowed, sound.counted⟩⟩

theorem openWindow_sound (admitted : Admitted c.policy)
    (digest : blank c.digest = false) (asset : blank o.assetId = false) :
    WindowSound c.policy (openWindow c o) := by
  have lower := o.now.lower
  have upper := o.now.upper
  have window := admitted.window
  have routes := admitted.routes.1
  have aligned : -62135596800 * second ≤ truncate c.policy o.now.time ∧
      truncate c.policy o.now.time ≤ o.now.time := by
    simp only [truncate, window, trafficReviewWindow, second] at lower ⊢
    omega
  refine ⟨⟨?_, nofun, ?_⟩, ?_, ?_, ⟨nofun, rfl⟩, asset, digest, aligned.1,
    Int.lt_of_le_of_lt aligned.2 upper, ?_⟩
  · intro _
    simp [openWindow]
  · exact Int.le_trans (Int.zero_le_ofNat 1) routes
  · intro _
    simp [openWindow, weigh, Table.empty, sumBy]
  · exact Nat.zero_le _
  · rw [openWindow, window]

theorem countRequest_sound (positive : 1 ≤ policy.topRouteCells) (sound : WindowSound policy s)
    (token : isToken o.request.method = true) (short : o.request.method.utf8ByteSize ≤ 32)
    (path flags) :
    WindowSound policy (countRequest policy s o (trafficRouteTemplate path) flags) := by
  have observed := sound.observed
  have more := bit_le (o.decision.action = .observe || o.decision.wouldHaveBlocked)
  have one : (countOf o.decision flags).get .requests = 1 := rfl
  have cells := countRoute_cells (s := countTotals s o.decision flags)
    ⟨sound.cells.other, sound.cells.cells, sound.cells.few⟩ positive
    (route_sound token short path) (countOf_bounded o.decision flags)
  have weight := countRoute_weigh (s := countTotals s o.decision flags)
    positive ⟨toUpper o.request.method, trafficRouteTemplate path⟩
    (countOf o.decision flags)
  obtain ⟨_, _, framed⟩ := countRoute_frame policy (countTotals s o.decision flags)
    ⟨toUpper o.request.method, trafficRouteTemplate path⟩
    (countOf o.decision flags)
  rw [countRequest]
  rw [framed] at cells weight ⊢
  refine ⟨cells, ?_, ?_, ⟨sound.drops.allowed, sound.drops.counted⟩,
    sound.asset, sound.digest, sound.lower, sound.upper, sound.length⟩
  · intro k
    have balanced := sound.balanced k
    rw [weight k, countTotals, RouteCount.get_add, balanced]
    rfl
  · rw [countTotals]
    dsimp only
    rw [RouteCount.get_add, one]
    omega

/-! ## The collector -/

def join (S : Services) (policy : TrafficReviewPolicy) (s : WindowState) (o : Observation) :
    WindowState :=
  let route := trafficRouteTemplate o.request.path
  let flags := reviewFlags o.decision
  maybeCandidate S policy (countRequest policy s o route flags) o route flags

theorem observe_join {S} (on : c.policy.mode ≠ .off) (o) :
    observe S c o = { (ensureWindow S c o).1 with
      state := some (join S c.policy (ensureWindow S c o).2 o) } := by
  rw [observe, if_neg on]
  rfl

/-- A call freezes the open window, opens one, counts in the open one or forgets the frozen ones. -/
theorem collectorStep_keeps {S} {P : ReviewCollector → Prop} {op} (before : P c)
    (frozen : ∀ c s vault, P c → c.state = some s → P { keepFrozen S vault c s with state := none })
    (opened : ∀ c o, op = .observe o → c.policy.mode ≠ .off → P c →
      P { c with state := some (openWindow c o) })
    (joined : ∀ c s o, op = .observe o → P c → c.state = some s → s.covers c o = true →
      P { c with state := some (join S c.policy s o) })
    (committed : ∀ c, P c → P { c with readyW := [], readyC := [] }) :
    P (collectorStep S c op) := by
  cases op with
  | observe o =>
    by_cases off : c.policy.mode = .off
    · rwa [collectorStep, observe, if_pos off]
    have begun : ∀ d : ReviewCollector, d.policy.mode ≠ .off → P d →
        P { d with state := some (join S d.policy (openWindow d o) o) } := by
      intro d on kept
      have fresh : (openWindow d o).covers d o = true := by
        simp [WindowState.covers, openWindow]
      exact joined { d with state := some (openWindow d o) } _ o rfl (opened d o rfl on kept) rfl
        fresh
    rw [collectorStep, observe_join off, ensureWindow]
    cases state : c.state with
    | none => exact begun c off before
    | some s =>
      dsimp only
      split
      next covers => exact joined c s o rfl before state covers
      · exact begun { keepFrozen S o.vault c s with state := none } off
          (frozen c s o.vault before state)
  | drain vault =>
    rw [collectorStep, prepareDrain]
    split
    next s state =>
      split
      · exact frozen c s vault before state
      · exact before
    · exact before
  | flush vault =>
    rw [collectorStep, prepareFlush]
    split
    next s state => exact frozen c s vault before state
    · exact before
  | commit =>
    rw [collectorStep, commitDrain]
    split
    · exact committed c before
    · exact before

structure CollectorSound (c : ReviewCollector) : Prop where
  admitted : Admitted c.policy
  digest : blank c.digest = false
  state : ∀ s, c.state = some s → WindowSound c.policy s
  ready : ∀ w ∈ c.readyW, checkTrafficWindow (some w) = none

theorem frozen_sound (vault : Vault) (sound : CollectorSound c) (state : c.state = some s) :
    CollectorSound { keepFrozen S vault c s with state := none } := by
  refine ⟨sound.admitted, sound.digest, nofun, ?_⟩
  intro w member
  rcases mem_append.mp member with old | new
  · exact sound.ready w old
  · rw [mem_singleton.mp new]
    exact freeze_accepted S vault sound.admitted (sound.state s state)

theorem CollectorSound.opened (sound : CollectorSound c) (window : WindowSound c.policy s) :
    CollectorSound { c with state := some s } := by
  refine ⟨sound.admitted, sound.digest, ?_, sound.ready⟩
  rintro _ ⟨⟩
  exact window

theorem newReviewCollector_sound {digest vaulted}
    (created : newReviewCollector policy digest vaulted = .ok c) (on : policy.mode ≠ .off)
    (named : blank digest = false) : CollectorSound c := by
  rw [newReviewCollector] at created
  split at created
  · contradiction
  rename_i valid
  obtain rfl := Except.ok.inj created
  refine ⟨validateTrafficReviewPolicy_ok valid on, named, nofun, ?_⟩
  · intro _ _
    contradiction

/-! ## Runs -/

/-- A request of HTTP, observed by a unit for an asset with a name. -/
def CollectorOp.wellFormed : CollectorOp → Bool
  | .observe o => !blank o.unitId && !blank o.assetId && isToken o.request.method
  | _ => true

def CollectorOp.shortMethod : CollectorOp → Bool
  | .observe o => o.request.method.utf8ByteSize ≤ 32
  | _ => true

theorem collectorStep_sound (c op) (ok : op.wellFormed = true ∧ op.shortMethod = true)
    (sound : CollectorSound c) : CollectorSound (collectorStep S c op) := by
  refine collectorStep_keeps sound (fun _ _ vault sound => frozen_sound S vault sound) ?_ ?_ ?_
  · rintro c o rfl - sound
    obtain ⟨formed, -⟩ := ok
    simp only [CollectorOp.wellFormed, Bool.and_eq_true, Bool.not_eq_true'] at formed
    exact sound.opened (openWindow_sound sound.admitted sound.digest formed.1.2)
  · rintro c s o rfl sound state -
    obtain ⟨formed, short⟩ := ok
    simp only [CollectorOp.wellFormed, CollectorOp.shortMethod,
      Bool.and_eq_true, decide_eq_true_eq] at formed short
    have counted := countRequest_sound sound.admitted.routes.1 (sound.state s state) formed.2
      short o.request.path (reviewFlags o.decision)
    exact sound.opened ((maybeCandidate_cases S _ _ o _ _).1.sound counted)
  · intro c sound
    exact ⟨sound.admitted, sound.digest, sound.state, fun _ member => absurd member not_mem_nil⟩

/-- In every run in which no method has more than 32 bytes, every frozen
window passes the check of the brain. -/
theorem windows_accepted (S : Services) {policy : TrafficReviewPolicy}
    {digest : String} {vaulted : Bool} {c : ReviewCollector}
    (created : newReviewCollector policy digest vaulted = .ok c)
    (on : policy.mode ≠ .off) (named : blank digest = false)
    {ops : List CollectorOp} (formed : ∀ op ∈ ops, op.wellFormed = true)
    (short : ∀ op ∈ ops, op.shortMethod = true) :
    ∀ w ∈ (run (collectorStep S) c ops).readyW, checkTrafficWindow (some w) = none := by
  have meets : Meets (collectorStep S)
      (fun _ op => op.wellFormed = true ∧ op.shortMethod = true) c ops :=
    meets_of_mem _ (fun _ op member => ⟨formed op member, short op member⟩) c
  exact (run_invariant _ _ CollectorSound (collectorStep_sound S) meets
    (newReviewCollector_sound created on named)).ready

/-! A request with the method that is given, in a window of its own. -/

def dailyPolicy (mode : ReviewMode) : TrafficReviewPolicy where
  windowSeconds := 300
  topRouteCells := 2
  maxCandidatesPerWindow := 4
  maxEvidenceBytes := 4096
  vaultMaxBytes := 1048576
  evidenceTtlSeconds := 86400
  mode := mode

end

def plainServices : Services where
  sum256 := fun _ => Vector.replicate 32 0
  formatTime := toString
  encodeEvidence := fun _ _ _ _ => some []

def morning : Reading where
  time := 1767258000 * second
  lower := by decide
  upper := by decide

def quietDecision : Edge.Decision where
  action := .allow
  wouldHaveBlocked := false
  verdicts := []
  observations := []
  inspection := ⟨[], [], false⟩
  posture := .reverseProxy
  generationId := "gen-1"
  generationSeq := 1

def visit (method path : String) : Observation where
  now := morning
  unitId := "edge-1"
  assetId := "shop"
  requestId := "req-1"
  draw := .failed 1
  request := ⟨"shop", "edge-1", method, path, "", [], [], ""⟩
  decision := quietDecision
  vault := fun _ _ _ _ => .failed

def visitOps (method path : String) : List CollectorOp :=
  [.observe (visit method path), .flush fun _ _ _ _ => .failed]

def visitCollector (mode : ReviewMode) : ReviewCollector :=
  ⟨dailyPolicy mode, "sha256:aa", false, none, [], [], 0⟩

theorem windows_accepted_get : (run (collectorStep plainServices) (visitCollector .statisticsOnly)
        (visitOps "GET" "/cart")).readyW.length = 1 ∧
      ∀ w ∈ (run (collectorStep plainServices)
          (visitCollector .statisticsOnly) (visitOps "GET" "/cart")).readyW,
        checkTrafficWindow (some w) = none :=
  ⟨by decide +kernel, @windows_accepted plainServices (dailyPolicy .statisticsOnly) "sha256:aa"
      false _ rfl (by decide) (by decide) _ (by decide) (by decide)⟩

/-- A method of 33 letters makes the brain refuse the whole window. -/
theorem windows_refused_long_method :
    newReviewCollector (dailyPolicy .statisticsOnly) "sha256:aa" false =
        .ok (visitCollector .statisticsOnly) ∧
      (∀ op ∈ visitOps "ABCDEFGHIJKLMNOPQRSTUVWXYZABCDEFG" "/cart", op.wellFormed = true) ∧
      ∃ w ∈ (run (collectorStep plainServices) (visitCollector .statisticsOnly)
          (visitOps "ABCDEFGHIJKLMNOPQRSTUVWXYZABCDEFG" "/cart")).readyW,
        checkTrafficWindow (some w) = some ⟨"invalid_window",
          "traffic window route cell is invalid"⟩ :=
  ⟨rfl, by decide +kernel⟩

end YuFeng.Review
