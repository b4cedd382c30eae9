import YuFeng.Brain.Lifecycle
import YuFeng.Brain.ReleaseFeed

/-!
# Gaps in the release feed

The numbers of the rows of a unit that are still open are larger than the
cursor of each of its clients, if cursors are read when no lower number is
open.  A snapshot is complete if the releases of the unit do not change while
it is read.
-/

namespace YuFeng.Brain

open YuFeng.Library YuFeng.Kernel List Table

variable {row : FeedRow} {s : Service} {db db' : Governance} {unitId : String}
  {tables : Tables} {client : Client} {sizes : Sizes} {n : Nat} {maxBytes : Int} {last : FeedRow}

/-! ## Numbers -/

theorem map_seq_numberRows (feedSeq rows) :
    (numberRows feedSeq rows).map (·.seq) = List.range' (feedSeq + 1) rows.length := by
  rw [numberRows, map_map]
  exact zipIdx_map_snd ..

theorem mem_numberRows {feedSeq rows} (h : row ∈ numberRows feedSeq rows) :
    feedSeq < row.seq ∧ row.seq ≤ feedSeq + rows.length := by
  have number : row.seq ∈ (numberRows feedSeq rows).map (·.seq) := mem_map_of_mem h
  rw [map_seq_numberRows, mem_range'_1] at number
  omega

structure Store.Numbered (s : Store) : Prop where
  committed : ∀ row ∈ s.tables.feed, 0 < row.seq ∧ row.seq ≤ s.feedSeq
  pending : ∀ i tx, s.txs.find? i = some tx → ∀ row ∈ tx.feed, 0 < row.seq ∧ row.seq ≤ s.feedSeq
  distinct : (s.tables.feed.map (·.seq)).Nodup
  own : ∀ i tx, s.txs.find? i = some tx → (tx.feed.map (·.seq)).Nodup
  fresh : ∀ i tx, s.txs.find? i = some tx → ∀ row ∈ tx.feed,
    ∀ old ∈ s.tables.feed, old.seq ≠ row.seq
  apart : ∀ i j tx tx', s.txs.find? i = some tx →
    s.txs.find? j = some tx' → i ≠ j → ∀ row ∈ tx.feed, ∀ other ∈ tx'.feed, row.seq ≠ other.seq

theorem nodup_seq_append {first second : List FeedRow}
    (left : (first.map (·.seq)).Nodup) (right : (second.map (·.seq)).Nodup)
    (apart : ∀ row ∈ first, ∀ other ∈ second, row.seq ≠ other.seq) :
    ((first ++ second).map (·.seq)).Nodup := by
  rw [map_append]
  refine nodup_append.mpr ⟨left, right, ?_⟩
  intro _ inFirst _ inSecond same
  obtain ⟨row, here, rfl⟩ := mem_map.mp inFirst
  obtain ⟨other, there, rfl⟩ := mem_map.mp inSecond
  exact apart row here other there same

theorem nodup_numberRows (feedSeq rows) : ((numberRows feedSeq rows).map (·.seq)).Nodup := by
  rw [map_seq_numberRows]
  exact nodup_range'

section Numbered

variable {s : Store} {id : Nat} {tx tx' : Tx}

theorem Store.Numbered.abort (h : s.Numbered) (id : Nat) :
    { s with txs := s.txs.erase id }.Numbered where
  committed := h.committed
  pending i tx found := h.pending i tx (find?_erase_some found).2
  distinct := h.distinct
  own i tx found := h.own i tx (find?_erase_some found).2
  fresh i tx found := h.fresh i tx (find?_erase_some found).2
  apart i j tx tx' found found' :=
    h.apart i j tx tx' (find?_erase_some found).2 (find?_erase_some found').2

theorem Store.Numbered.commit (h : s.Numbered) (found : s.txs.find? id = some tx) :
    { s with tables := tx.sees s.tables, txs := s.txs.erase id }.Numbered := by
  have old := h.abort id
  refine ⟨?_, old.pending, ?_, old.own, ?_, old.apart⟩
  · intro row present
    rcases mem_append.mp present with before | mine
    · exact h.committed row before
    · exact h.pending id tx found row mine
  · apply nodup_seq_append h.distinct (h.own id tx found)
    intro row before mine own
    exact h.fresh id tx found mine own row before
  · intro i tx' remaining row pending other present
    obtain ⟨different, there⟩ := find?_erase_some remaining
    rcases mem_append.mp present with before | mine
    · exact h.fresh i tx' there row pending other before
    · exact h.apart id i tx tx' found there (Ne.symm different) other mine row pending

/-- A transaction that has the rows `old`, or is new, draws further ones. -/
theorem Store.Numbered.goes (h : s.Numbered) {old rows : List FeedRow}
    (source : old = [] ∨ ∃ tx, s.txs.find? id = some tx ∧ tx.feed = old)
    (feed : tx'.feed = old ++ numberRows s.feedSeq rows) (timelineSeq : Nat) :
    { s with
      timelineSeq := timelineSeq
      feedSeq := s.feedSeq + rows.length
      txs := s.txs.set id tx' }.Numbered := by
  have known : ∀ row ∈ old, ∃ tx, s.txs.find? id = some tx ∧ row ∈ tx.feed := by
    intro row present
    rcases source with rfl | ⟨tx, found, rfl⟩
    · cases present
    · exact ⟨tx, found, present⟩
  have new : ∀ row ∈ tx'.feed, (∃ tx, s.txs.find? id = some tx ∧ row ∈ tx.feed) ∨
      s.feedSeq < row.seq ∧ row.seq ≤ s.feedSeq + rows.length := by
    rw [feed]
    intro row present
    exact (mem_append.mp present).imp (known row) mem_numberRows
  refine ⟨fun row present => ?_, ?_, h.distinct, ?_, ?_, ?_⟩
  · exact (h.committed row present).imp_right Nat.le_add_right_of_le
  · intro i other present row pending
    rcases find?_set_some present with ⟨rfl, rfl⟩ | ⟨-, before⟩
    · rcases new row pending with ⟨tx, found, mine⟩ | ⟨above, below⟩
      · exact (h.pending i tx found row mine).imp_right Nat.le_add_right_of_le
      · exact ⟨Nat.zero_lt_of_lt above, below⟩
    · exact (h.pending i other before row pending).imp_right Nat.le_add_right_of_le
  · intro i other present
    rcases find?_set_some present with ⟨rfl, rfl⟩ | ⟨-, before⟩
    · rw [feed]
      refine nodup_seq_append ?_ (nodup_numberRows ..) fun row mine _ drawn _ => ?_
      · rcases source with rfl | ⟨tx, found, rfl⟩
        · exact nodup_nil
        · exact h.own i tx found
      · obtain ⟨tx, found, mine⟩ := known row mine
        have bounds := h.pending i tx found row mine
        have above := mem_numberRows drawn
        omega
    · exact h.own i other before
  · intro i other present row pending old committed
    rcases find?_set_some present with ⟨rfl, rfl⟩ | ⟨-, before⟩
    · rcases new row pending with ⟨tx, found, mine⟩ | ⟨_, -⟩
      · exact h.fresh i tx found row mine old committed
      · have bounds := h.committed old committed
        omega
    · exact h.fresh i other before row pending old committed
  · intro i j first second present present' different row mine other theirs
    rcases find?_set_some present with ⟨rfl, rfl⟩ | ⟨-, before⟩
    · rcases find?_set_some present' with ⟨rfl, -⟩ | ⟨-, before'⟩
      · exact absurd rfl different
      · rcases new row mine with ⟨tx, found, mine⟩ | ⟨_, -⟩
        · exact h.apart i j tx second found before' different row mine other theirs
        · have bounds := h.pending j second before' other theirs
          omega
    · rcases find?_set_some present' with ⟨rfl, rfl⟩ | ⟨-, before'⟩
      · rcases new other theirs with ⟨tx, found, theirs⟩ | ⟨_, -⟩
        · exact h.apart i j first tx before found different row mine other theirs
        · have bounds := h.pending i first before row mine
          omega
      · exact h.apart i j first second before before' different row mine other theirs

theorem Store.Numbered.enter (h : s.Numbered) (id job) : (s.enter id job).Numbered := by
  unfold Store.enter
  split
  · exact h
  · exact @Store.Numbered.goes s id { job := job } h [] [] (.inl rfl) rfl s.timelineSeq

theorem Store.Numbered.backfill (h : s.Numbered) (rows) :
    { s with
      feedSeq := s.feedSeq + rows.length
      tables := { s.tables with
        feed := s.tables.feed ++ numberRows s.feedSeq rows } }.Numbered := by
  refine ⟨fun row present => ?_, fun i tx found row pending => ?_, ?_, h.own, ?_, h.apart⟩
  · rcases mem_append.mp present with before | new
    · exact (h.committed row before).imp_right Nat.le_add_right_of_le
    · exact (mem_numberRows new).imp_left Nat.zero_lt_of_lt
  · exact (h.pending i tx found row pending).imp_right Nat.le_add_right_of_le
  · apply nodup_seq_append h.distinct (nodup_numberRows ..)
    intro row before _ new
    have bounds := h.committed row before
    have above := mem_numberRows new
    omega
  · intro i tx found row pending other present
    rcases mem_append.mp present with before | new
    · exact h.fresh i tx found row pending other before
    · have bounds := h.pending i tx found row pending
      have above := mem_numberRows new
      omega

end Numbered

theorem step_numbered {s : Store} (h : s.Numbered) (event : Event) : (s.step event).Numbered := by
  cases event with
  | propose | detach => exact ⟨h.1, h.2, h.3, h.4, h.5, h.6⟩
  | start =>
    simp only [Store.step]
    split
    · exact h
    · exact h.enter ..
  | register => exact h.enter ..
  | advance id =>
    simp only [Store.step]
    split
    · exact h
    next tx found =>
      cases next : tx.next s id with
      | waits => exact h
      | fails => exact h.abort id
      | commits => exact h.commit found
      | goes _ timelineSeq =>
        obtain ⟨_, feed, rfl⟩ := next_fits next
        exact h.goes (.inr ⟨tx, found, rfl⟩) feed timelineSeq
  | abort id => exact h.abort id
  | attach =>
    simp only [Store.step]
    split
    · exact h
    · exact ⟨h.1, h.2, h.3, h.4, h.5, h.6⟩
  | backfill => exact h.backfill _

/-! ## Rows that appear -/

/-- Rows appear in the feed from open transactions or with new numbers, and
open rows with new numbers. -/
structure Appears (s s' : Store) : Prop where
  seq : s.feedSeq ≤ s'.feedSeq
  kept : ∀ row ∈ s.tables.feed, row ∈ s'.tables.feed
  committed : ∀ row ∈ s'.tables.feed, row ∈ s.tables.feed ∨
    (∃ i tx, s.txs.find? i = some tx ∧ row ∈ tx.feed) ∨ s.feedSeq < row.seq
  pending : ∀ i tx', s'.txs.find? i = some tx' → ∀ row ∈ tx'.feed,
    (∃ tx, s.txs.find? i = some tx ∧ row ∈ tx.feed) ∨ s.feedSeq < row.seq

theorem Appears.of_same {s s'} (seq : s'.feedSeq = s.feedSeq)
    (feed : s'.tables.feed = s.tables.feed) (pending : ∀ i tx', s'.txs.find? i = some tx' →
      tx'.feed = [] ∨ s.txs.find? i = some tx') : Appears s s' := by
  refine ⟨Nat.le_of_eq seq.symm, ?_, ?_, ?_⟩
  · simp [feed]
  · exact fun _ present => .inl (feed ▸ present)
  · intro i tx' found _ present
    rcases pending i tx' found with empty | before
    · rw [empty] at present
      cases present
    · exact .inl ⟨tx', before, present⟩

theorem enter_appears (s id job) : Appears s (s.enter id job) := by
  unfold Store.enter
  split
  · exact .of_same rfl rfl fun _ _ found => .inr found
  · exact .of_same rfl rfl (forall_set (.inl rfl) fun _ _ before => .inr before)

theorem advance_appears {s id tx} (found : s.txs.find? id = some tx) :
    Appears s (s.settle id tx (tx.next s id)) := by
  have erased : ∀ i tx', (s.txs.erase id).find? i = some tx' →
      tx'.feed = [] ∨ s.txs.find? i = some tx' :=
    fun i tx' here => .inr (find?_erase_some here).2
  cases next : tx.next s id with
  | waits => exact .of_same rfl rfl fun _ _ here => .inr here
  | fails => exact .of_same rfl rfl erased
  | commits =>
    refine ⟨Nat.le_refl _, ?_, ?_, ?_⟩
    · intro _ present
      exact mem_append_left _ present
    · intro _ present
      rcases mem_append.mp present with before | mine
      · exact .inl before
      · exact .inr (.inl ⟨id, tx, found, mine⟩)
    · intro _ tx' here _ present
      exact .inl ⟨tx', (find?_erase_some here).2, present⟩
  | goes =>
    obtain ⟨_, feed, rfl⟩ := next_fits next
    refine ⟨Nat.le_add_right .., fun _ present => present, fun _ present => .inl present, ?_⟩
    intro _ other here _ present
    rcases find?_set_some here with ⟨rfl, rfl⟩ | ⟨-, before⟩
    · rw [feed] at present
      rcases mem_append.mp present with old | new
      · exact .inl ⟨tx, found, old⟩
      · exact .inr (mem_numberRows new).1
    · exact .inl ⟨other, before, present⟩

theorem step_appears (s event) : Appears s (s.step event) := by
  have same : Appears s s := .of_same rfl rfl fun _ _ here => .inr here
  cases event with
  | propose | detach => exact .of_same rfl rfl fun _ _ here => .inr here
  | start =>
    simp only [Store.step]
    split
    · exact same
    · exact enter_appears ..
  | register => exact enter_appears ..
  | advance =>
    simp only [Store.step]
    split
    · exact same
    next tx found => exact advance_appears found
  | abort =>
    refine .of_same rfl rfl ?_
    exact fun i tx' here => .inr (find?_erase_some here).2
  | attach =>
    simp only [Store.step]
    split
    · exact same
    · exact .of_same rfl rfl fun _ _ here => .inr here
  | backfill =>
    refine ⟨Nat.le_add_right .., ?_, ?_, ?_⟩
    · intro _ present
      exact mem_append_left _ present
    · intro _ present
      rcases mem_append.mp present with before | new
      · exact .inl before
      · exact .inr (.inr (mem_numberRows new).1)
    · intro _ tx' here _ present
      exact .inl ⟨tx', here, present⟩

/-! ## Releases of a unit -/

theorem unitItems_congr (assets : ∀ row ∈ db'.releases.rows, row.2.state.live = true →
      db'.unitAssetsOf unitId row.1 = db.unitAssetsOf unitId row.1)
    (rows : (db'.releases.rows.filter fun row =>
        row.2.state.live && !(db.unitAssetsOf unitId row.1).isEmpty) =
      db.releases.rows.filter fun row =>
        row.2.state.live && !(db.unitAssetsOf unitId row.1).isEmpty) :
    db'.unitItems unitId = db.unitItems unitId := by
  have selected : (db'.releases.rows.filter fun row =>
      row.2.state.live && !(db'.unitAssetsOf unitId row.1).isEmpty) =
        db.releases.rows.filter fun row =>
          row.2.state.live && !(db.unitAssetsOf unitId row.1).isEmpty := by
    rw [← rows]
    apply filter_congr
    intro row present
    cases live : row.2.state.live with
    | false => rfl
    | true => rw [assets row present live]
  unfold Governance.unitItems
  rw [selected, flatMap_def, flatMap_def]
  congr 1
  apply map_congr_left
  intro row present
  have member := (perm_insertionSort _ _).mem_iff.mp present
  rw [← rows, mem_filter, Bool.and_eq_true] at member
  rw [assets row member.1 member.2.1]

theorem filter_overlay {p : String × ReleaseRow → Bool} {table changes : Table String ReleaseRow}
    (h : ∀ row ∈ changes.rows, ∀ any, p (row.1, any) = false) :
    ((table.overlay changes).rows.filter p) = table.rows.filter p := by
  unfold Table.overlay
  generalize changes.rows = rows at h
  induction rows generalizing table with
  | nil => rfl
  | cons first _ ih =>
    rw [foldl_cons, ih]
    · exact filter_put (h first mem_cons_self first.2) fun before _ => h first mem_cons_self before
    · intro row later
      exact h row (mem_cons_of_mem first later)

theorem commit_unitItems {tx : Tx} (h : tx.touches tables.db unitId = false) :
    (tx.sees tables).db.unitItems unitId = tables.db.unitItems unitId := by
  simp only [Tx.touches, Bool.or_eq_false_iff, any_eq_false] at h
  obtain ⟨bindings, releases⟩ := h
  have assets : ∀ id, (tx.sees tables).db.unitAssetsOf unitId id =
      tables.db.unitAssetsOf unitId id := by
    intro id
    have others : (tx.unitAssets.filter fun pair =>
        pair.1 = unitId && tables.db.bound id pair.2) = [] := by
      rw [filter_eq_nil_iff]
      intro pair present own
      rw [Bool.and_eq_true] at own
      exact bindings pair present own.1
    change ((tables.db.unitAssets ++ tx.unitAssets).filter fun pair =>
      pair.1 = unitId && tables.db.bound id pair.2).map Prod.snd = _
    rw [filter_append, others, append_nil]
    rfl
  apply unitItems_congr
  · intro row _ _
    exact assets row.1
  · apply filter_overlay
    intro row present _
    have unbound := releases row present
    simp [unbound]

theorem propose_unitItems {p : Proposal} (h : propose p db = .ok db') (unitId) :
    db'.unitItems unitId = db.unitItems unitId := by
  simp only [propose, seq_ok, require_ok, pure_ok, Option.isNone_iff_eq_none] at h
  obtain ⟨_, fresh, rfl⟩ := h
  apply unitItems_congr
  · intro _ present live
    rcases mem_set.mp present with rfl | ⟨-, other⟩
    · cases live
    · unfold Governance.unitAssetsOf Governance.bound
      congr 1
      apply filter_congr
      intro _ _
      simp [mem_dedup, Ne.symm other]
  · apply filter_put
    · rfl
    · intro _ present
      rw [mem_iff_find?.mp present] at fresh
      cases fresh

theorem bindings_unitItems (releases : db'.releases = db.releases)
    (assets : ∀ id, db'.unitAssetsOf unitId id = db.unitAssetsOf unitId id) :
    db'.unitItems unitId = db.unitItems unitId := by
  apply unitItems_congr
  · intro row _ _
    exact assets row.1
  · rw [releases]

theorem step_unitItems {s : Store} {event : Event} (h : event.touches s unitId = false) :
    (s.step event).tables.db.unitItems unitId = s.tables.db.unitItems unitId := by
  cases event with
  | propose p =>
    simp only [Store.step]
    cases proposed : propose p s.tables.db with
    | error => rfl
    | ok => exact propose_unitItems proposed unitId
  | start =>
    simp only [Store.step]
    split
    · rfl
    · unfold Store.enter
      split <;> rfl
  | register =>
    simp only [Store.step]
    unfold Store.enter
    split <;> rfl
  | advance id =>
    simp only [Store.step]
    split
    · rfl
    next tx found =>
      cases next : tx.next s id with
      | waits | fails | goes => rfl
      | commits =>
        have finished : tx.phase = .finished := next_fits next
        apply commit_unitItems
        simpa [Event.touches, found, finished] using h
  | abort | backfill => rfl
  | attach unit =>
    have other : unit ≠ unitId := of_decide_eq_false h
    simp only [Store.step]
    split
    · rfl
    · refine bindings_unitItems rfl ?_
      simp [Governance.unitAssetsOf, Governance.bound, other]
  | detach unit =>
    have other : unit ≠ unitId := of_decide_eq_false h
    refine bindings_unitItems rfl ?_
    intro _
    unfold Governance.unitAssetsOf
    congr 1
    simp only [Store.step, filter_filter]
    apply filter_congr
    intro pair _
    by_cases own : pair.1 = unitId
    · simp [own, Ne.symm other, Governance.bound]
    · simp [own]

/-! ## Clients -/

/-- A snapshot holds the first releases of the unit, and a cursor is below
the open rows of the unit. -/
structure Client.Sound (s : Service) (client : Client) : Prop where
  reads : ∀ offset, client.cursor = .snapshot offset →
    if client.anchoring then
      client.snapshot = s.store.tables.db.unitItems client.unitId
    else offset ≤ (s.store.tables.db.unitItems client.unitId).length ∧
      client.snapshot = (s.store.tables.db.unitItems client.unitId).take offset
  follows : ∀ n, client.cursor = .seq n → client.anchoring = false ∧ n ≤ s.store.feedSeq ∧
    ∀ i tx, s.store.txs.find? i = some tx → ∀ row ∈ tx.feed,
      row.unitId = client.unitId → n < row.seq
  gapless : client.Gapless s

structure Service.Sound (s : Service) : Prop where
  numbered : s.store.Numbered
  current : s.store.tables ∈ s.past
  clients : ∀ id client, s.clients.find? id = some client → client.Sound s

theorem mem_feedOf : row ∈ tables.feedOf unitId ↔ row ∈ tables.feed ∧ row.unitId = unitId := by
  simp [Tables.feedOf]

theorem Store.orderly_iff {s : Store} : s.orderly unitId = true ↔ ∀ i tx, s.txs.find? i = some tx →
      ∀ row ∈ tx.feed, row.unitId = unitId → ∀ old ∈ s.tables.feedOf unitId, old.seq < row.seq := by
  simp only [Store.orderly, all_eq_true, Bool.or_eq_true, decide_eq_true_eq]
  constructor
  · intro h i tx found row pending own old committed
    rcases h (i, tx) (mem_iff_find?.mpr found) row pending with
      other | below
    · exact absurd own other
    · exact below old committed
  · intro h entry present row pending
    by_cases own : row.unitId = unitId
    · exact .inr (h entry.1 entry.2 (mem_iff_find?.mp present) row pending own)
    · exact .inl own

theorem Client.Sound.event {event : Event} (h : client.Sound s)
    (undisturbed : client.reading = false ∨
      event.touches s.store client.unitId = false) (past : List Tables)
    (grows : ∀ tables ∈ s.past, tables ∈ past) :
    client.Sound { s with store := s.store.step event, past := past } := by
  have appears := step_appears s.store event
  refine ⟨?_, ?_, ?_⟩
  · intro offset here
    have before := h.reads offset here
    rcases undisturbed with idle | untouched
    · have start : client.anchoring = false ∧ offset = 0 := by
        simpa [Client.reading, here] using idle
      obtain ⟨unread, rfl⟩ := start
      simp only [unread] at before ⊢
      exact ⟨Nat.zero_le _, by simpa using before.2⟩
    · simp only [step_unitItems untouched]
      exact before
  · intro n here
    obtain ⟨anchored, drawn, above⟩ := h.follows n here
    refine ⟨anchored, Nat.le_trans drawn appears.seq, ?_⟩
    intro i tx found row pending own
    rcases appears.pending i tx found row pending with
      ⟨old, before, present⟩ | _
    · exact above i old before row present own
    · omega
  · intro n here row present below
    obtain ⟨-, _, above⟩ := h.follows n here
    obtain ⟨committed, own⟩ := mem_feedOf.mp present
    rcases appears.committed row committed with
      old | ⟨i, tx, found, pending⟩ | _
    · refine (h.gapless n here row (mem_feedOf.mpr ⟨old, own⟩) below).imp_right ?_
      rintro ⟨tables, earlier, rest⟩
      exact ⟨tables, grows tables earlier, rest⟩
    · have later := above i tx found row pending own
      omega
    · omega

theorem page_snapshot {offset} (h : client.Sound s) (here : client.cursor = .snapshot offset)
    (sizes maxBytes) : (client.page sizes maxBytes s.store.tables).Sound s := by
  have before := h.reads offset here
  unfold Client.page
  simp only [here]
  split
  · exact h
  next unread =>
    rw [if_neg unread] at before
    obtain ⟨inside, taken⟩ := before
    have pages := take_append_firstPage sizes.item (clampArtifactBytes maxBytes) offset _ inside
    split
    next full =>
      refine ⟨fun _ _ => ?_, nofun, nofun⟩
      simp only [if_true]
      rw [taken, firstPage_full full, take_append_drop]
    · refine ⟨fun _ now => ?_, nofun, nofun⟩
      cases now
      simp only [unread]
      exact ⟨pages.2, taken ▸ pages.1⟩

/-- The rows past a cursor. -/
def Tables.pending (tables : Tables) (unitId : String) (n : Nat) : List FeedRow :=
  orderByNumber (·.seq) ((tables.feedOf unitId).filter fun row => n < row.seq)

theorem mem_pending : row ∈ tables.pending unitId n ↔ row ∈ tables.feedOf unitId ∧ n < row.seq := by
  rw [Tables.pending, mem_orderByNumber, mem_filter, decide_eq_true_eq]

theorem pending_sorted (distinct : (tables.feed.map (·.seq)).Nodup) (unitId n) :
    (tables.pending unitId n).Pairwise (·.seq < ·.seq) := by
  apply orderByNumber_sorted
  have smaller : ((tables.feedOf unitId).filter fun row =>
      n < row.seq).Sublist tables.feed :=
    filter_sublist.trans filter_sublist
  exact distinct.sublist (smaller.map _)

section Deltas

variable (tables : Tables) (sizes : Sizes) (maxBytes : Int) (unitId : String) (n : Nat)

theorem delta_append : (tables.delta sizes maxBytes unitId n).length ≤ releaseFeedPageSize ∧
    ∃ rest, tables.pending unitId n = tables.delta sizes maxBytes unitId n ++ rest := by
  obtain ⟨cut, same⟩ := firstPage_append (fun row : FeedRow => sizes.artifact row.artifact)
    (clampArtifactBytes maxBytes) ((tables.pending unitId n).take releaseFeedPageSize)
  have lengths := congrArg List.length same
  rw [length_append, length_take] at lengths
  change _ = (tables.delta sizes maxBytes unitId n).length + _ at lengths
  refine ⟨by omega, cut ++ (tables.pending unitId n).drop releaseFeedPageSize, ?_⟩
  rw [← append_assoc]
  exact (take_append_drop ..).symm.trans (congrArg (· ++ _) same)

def Tables.nextCursor : Nat :=
  ((tables.delta sizes maxBytes unitId n).getLast?.map (·.seq)).getD n

theorem nextCursor_cases : tables.nextCursor sizes maxBytes unitId n = n ∨
    ∃ last ∈ tables.feedOf unitId, tables.nextCursor sizes maxBytes unitId n = last.seq := by
  rw [Tables.nextCursor]
  cases ends : (tables.delta sizes maxBytes unitId n).getLast? with
  | none => exact .inl rfl
  | some last =>
    obtain ⟨-, rest, same⟩ := delta_append tables sizes maxBytes unitId n
    have due : last ∈ tables.pending unitId n := same ▸ mem_append_left rest (mem_of_getLast? ends)
    exact .inr ⟨last, (mem_pending.mp due).1, rfl⟩

variable {tables} (distinct : (tables.feed.map (·.seq)).Nodup)

include distinct

theorem pending_past {init rest} (same : tables.pending unitId n = init ++ last :: rest) :
    tables.pending unitId last.seq = rest := by
  have sorted := pending_sorted distinct unitId n
  rw [same, pairwise_append, pairwise_cons] at sorted
  obtain ⟨-, ⟨later, ordered⟩, before⟩ := sorted
  refine (pending_sorted distinct unitId last.seq).eq_of_mem_iff ordered fun {row} => ?_
  have past := @mem_pending row unitId tables n
  rw [same, mem_append, mem_cons] at past
  rw [mem_pending]
  constructor
  · rintro ⟨present, above⟩
    have here := (mem_pending.mp (same ▸ mem_append_right _ mem_cons_self)).2
    rcases past.mpr ⟨present, by omega⟩ with first | rfl | after
    · have := before row first last mem_cons_self
      omega
    · omega
    · exact after
  · intro after
    exact ⟨(past.mp (.inr (.inr after))).1, later row after⟩

theorem pending_nextCursor : tables.pending unitId n = tables.delta sizes maxBytes unitId n ++
    tables.pending unitId (tables.nextCursor sizes maxBytes unitId n) := by
  obtain ⟨-, rest, same⟩ := delta_append tables sizes maxBytes unitId n
  rw [Tables.nextCursor]
  cases ends : (tables.delta sizes maxBytes unitId n).getLast? with
  | none =>
    rw [getLast?_eq_none_iff.mp ends]
    rfl
  | some last =>
    obtain ⟨init, page⟩ := getLast?_eq_some_iff.mp ends
    rw [page, append_assoc] at same
    rw [Option.map_some, Option.getD_some, pending_past unitId n distinct same, page, append_assoc]
    exact same

end Deltas

theorem page_delta (numbered : s.store.Numbered) (h : client.Sound s)
    (here : client.cursor = .seq n) (orderly : s.store.orderly client.unitId = true)
    (sizes maxBytes) : (client.page sizes maxBytes s.store.tables).Sound s := by
  obtain ⟨anchored, drawn, above⟩ := h.follows n here
  have pages := pending_nextCursor sizes maxBytes client.unitId n numbered.distinct
  unfold Client.page
  simp only [here]
  rw [← Tables.nextCursor]
  refine ⟨nofun, ?_, ?_⟩
  · intro _ now
    cases now
    rcases nextCursor_cases s.store.tables sizes maxBytes client.unitId n with
      same | ⟨last, present, same⟩ <;> rw [same]
    · exact ⟨anchored, drawn, above⟩
    · refine ⟨anchored, (numbered.committed last (mem_feedOf.mp present).1).2, ?_⟩
      intro i tx found pending open' own
      exact Store.orderly_iff.mp orderly i tx found pending open' own last present
  · intro _ now other member below
    cases now
    by_cases old : other.seq ≤ n
    · exact (h.gapless n here other member old).imp_left (mem_append_left _)
    · have due := mem_pending.mpr ⟨member, Nat.lt_of_not_le old⟩
      rw [pages] at due
      rcases mem_append.mp due with sent | later
      · exact .inl (mem_append_right _ sent)
      · exact absurd below (Nat.not_le.mpr (mem_pending.mp later).2)

theorem anchor_sound (sound : s.Sound) (h : client.Sound s)
    (orderly : s.store.orderly client.unitId = true) :
    (client.anchor s.store.tables).Sound s := by
  unfold Client.anchor
  split
  next complete =>
    have numbered := sound.numbered
    refine ⟨nofun, ?_, ?_⟩
    · intro _ now
      cases now
      refine ⟨rfl, ?_, ?_⟩
      · refine Nat.le_of_lt_succ (largest_lt (Nat.succ_pos _) ?_)
        intro row present
        exact Nat.lt_succ_of_le (numbered.committed row (mem_feedOf.mp present).1).2
      · intro i tx found row pending own
        apply largest_lt (numbered.pending i tx found row pending).1
        exact Store.orderly_iff.mp orderly i tx found row pending own
    · intro _ _ _ present _
      have shown : client.snapshot = s.store.tables.db.unitItems client.unitId := by
        cases at' : client.cursor with
        | snapshot offset =>
          have reads := h.reads offset at'
          rw [if_pos complete] at reads
          exact reads
        | seq n =>
          rw [(h.follows n at').1] at complete
          cases complete
      refine .inr ⟨s.store.tables, sound.current, (mem_feedOf.mp present).1, ?_⟩
      simp [shown]
  · exact h

theorem Client.Sound.clients (h : client.Sound s) (clients) :
    client.Sound { s with clients := clients } :=
  ⟨h.reads, h.follows, h.gapless⟩

theorem modify_sound (h : s.Sound) {id} {change : Client → Client}
    (kept : ∀ client, s.clients.find? id = some client →
      (change client).Sound s) : (s.modify id change).Sound := by
  unfold Service.modify
  split
  · exact h
  next client found =>
    exact ⟨h.numbered, h.current, forall_set ((kept client found).clients _)
      fun i other present => (h.clients i other present).clients _⟩

theorem service_step {op : ServiceOp} (undisturbed : op.undisturbed s = true) (h : s.Sound) :
    (s.step sizes op).Sound := by
  cases op with
  | store event =>
    refine ⟨step_numbered h.numbered event, mem_cons_self, ?_⟩
    intro id client found
    have calm := all_eq_true.mp undisturbed (id, client) (mem_iff_find?.mpr found)
    rw [Bool.or_eq_true, Bool.not_eq_true', Bool.not_eq_true'] at calm
    exact (h.clients id client found).event calm _ fun tables earlier => mem_cons_of_mem _ earlier
  | connect =>
    simp only [Service.step]
    split
    · exact h
    · refine ⟨h.numbered, h.current, forall_set ⟨fun _ now => ?_, fun _ now => ?_, fun _ now => ?_⟩
        fun i client present => (h.clients i client present).clients _⟩
      · cases now
        exact ⟨Nat.zero_le _, rfl⟩
      · cases now
      · cases now
  | page id maxBytes =>
    apply modify_sound h
    intro client found
    have sound := h.clients id client found
    cases here : client.cursor with
    | snapshot => exact page_snapshot sound here sizes maxBytes
    | seq =>
      have orderly : s.store.orderly client.unitId = true := by
        simpa [ServiceOp.undisturbed, found, Client.follows, here] using undisturbed
      exact page_delta h.numbered sound here orderly sizes maxBytes
  | anchor id =>
    apply modify_sound h
    intro client found
    have orderly : s.store.orderly client.unitId = true := by
      simpa [ServiceOp.undisturbed, found] using undisturbed
    exact anchor_sound h (h.clients id client found) orderly

theorem service_empty : Service.Sound {} := by
  refine ⟨⟨fun _ found => ?_, fun _ _ found => ?_, nodup_nil, fun _ _ found => ?_,
    fun _ _ found => ?_, fun _ _ _ _ found => ?_⟩, mem_cons_self, nofun⟩ <;> cases found

/-- In every undisturbed interleaving, no client ever misses a row of its
unit below its cursor. -/
theorem gapless_of_undisturbed (sizes : Sizes) (ops : List ServiceOp)
    (undisturbed : Meets (Service.step sizes) (fun s op => op.undisturbed s = true) {} ops) :
    Gapless (run (Service.step sizes) {} ops) := by
  have sound := run_invariant _ _ Service.Sound
    (fun _ _ calm h => service_step calm h) undisturbed service_empty
  intro id client found
  exact (sound.clients id client found).gapless

/-! ## A commit below the cursor -/

def signedEvents (tx : Nat) (releaseId : String) (rule : Artifact) : List Event :=
  .propose {
      releaseId := releaseId
      artifact := rule
      assetIds := ["shop"]
      createdBy := "ops"
      now := 10 } ::
    aloneEvents tx (.gate "user" "ops" releaseId rule "builtin")

def shadowCall (releaseId ruleId : String) : ReleaseCall :=
  .startShadow "user" "ops" releaseId (plainRule ruleId "")

def snapshotOps : List ServiceOp :=
  (Event.attach "edge-1" "shop" :: signedEvents 1 "rel1" (plainRule "rule1" "") ++
    signedEvents 1 "rel2" (plainRule "rule2" "")).map .store ++
    [.connect 1 "edge-1", .page 1 0, .anchor 1]

/-- The first release draws its number and does the rest of its transaction
before or after the second release is committed and sent. -/
def racingOps (before after : Nat) : List ServiceOp :=
  snapshotOps ++ (Event.start 1 auditEnv (shadowCall "rel1" "rule1") ::
      List.replicate before (Event.advance 1) ++
      aloneEvents 2 (shadowCall "rel2" "rule2")).map .store ++
    [.page 1 0] ++ (List.replicate after (Event.advance 1)).map .store

def shadowRow (seq : Nat) (releaseId ruleId : String) : FeedRow where
  seq := seq
  unitId := "edge-1"
  assetId := "shop"
  releaseId := releaseId
  mode := "shadow"
  canaryPercent := 0
  retired := false
  retireReason := ""
  artifact := plainRule ruleId ""

def racingClient : Client where
  unitId := "edge-1"
  cursor := .seq 2
  delivered := [shadowRow 2 "rel2" "rule2"]

def unitSizes : Sizes := ⟨fun _ => 1, fun _ => 1⟩

/-- Row 1 is committed after row 2 was sent, and the client skips it. -/
theorem gapless_overtaken :
    let s := run (Service.step unitSizes) {} (racingOps 4 2)
    s.clients.find? 1 = some racingClient ∧
      s.store.tables.feedOf "edge-1" = [shadowRow 2 "rel2" "rule2", shadowRow 1 "rel1" "rule1"] ∧
      ¬ Gapless s := by
  have found : (run (Service.step unitSizes) {} (racingOps 4
      2)).clients.find? 1 = some racingClient := by
    decide +kernel
  have rows : (run (Service.step unitSizes) {} (racingOps 4 2)).store.tables.feedOf "edge-1" =
        [shadowRow 2 "rel2" "rule2", shadowRow 1 "rel1" "rule1"] := by
    decide +kernel
  refine ⟨found, rows, ?_⟩
  intro gapless
  have committed : shadowRow 1 "rel1" "rule1" ∈ (run (Service.step unitSizes)
      {} (racingOps 4 2)).store.tables.feedOf racingClient.unitId := by
    change _ ∈ (run (Service.step unitSizes) {} (racingOps 4 2)).store.tables.feedOf "edge-1"
    rw [rows]
    exact mem_cons_of_mem _ (mem_singleton_self _)
  rcases gapless 1 racingClient found 2 rfl _ committed (by decide) with
    delivered | contained
  · exact absurd delivered (by decide +kernel)
  · unfold Contained at contained
    exact absurd contained (by decide +kernel)

theorem gapless_of_undisturbed_order :
    ((run (Service.step unitSizes) {} (racingOps 6 0)).clients.find? 1).map
        (fun client => client.delivered.map (·.seq)) = some [1, 2] ∧
      Gapless (run (Service.step unitSizes) {} (racingOps 6 0)) := by
  refine ⟨by decide +kernel, gapless_of_undisturbed _ _ ?_⟩
  decide +kernel

/-! ## Complete pages -/

section Complete

variable (tables : Tables) (sizes : Sizes) (maxBytes : Int) (unitId : String) (n : Nat)

/-- What the byte budget sets is overwritten when there are items. -/
def Tables.hasMore : Bool := (tables.delta sizes maxBytes unitId n).length = releaseFeedPageSize

def Tables.follow : Nat → Nat → List FeedRow
  | 0, _ => []
  | calls + 1, n => tables.delta sizes maxBytes unitId n ++
    if tables.hasMore sizes maxBytes unitId n then
      Tables.follow calls (tables.nextCursor sizes maxBytes unitId n)
    else []

/-- Of the rows for one page there is at most one, or the byte budget has room for all. -/
def Tables.Fits : Prop :=
  ((tables.pending unitId n).take releaseFeedPageSize).length ≤ 1 ∨
    totalSize (fun row => sizes.artifact row.artifact)
      ((tables.pending unitId n).take releaseFeedPageSize) ≤ clampArtifactBytes maxBytes

variable {tables} (distinct : (tables.feed.map (·.seq)).Nodup)

include distinct

theorem fits_iff : tables.Fits sizes maxBytes unitId n ↔
    tables.hasMore sizes maxBytes unitId n = true ∨
      tables.pending unitId (tables.nextCursor sizes maxBytes unitId n) = [] := by
  have short := (delta_append tables sizes maxBytes unitId n).1
  rw [Tables.Fits, ← firstPage_eq_self_iff]
  change tables.delta sizes maxBytes unitId n = _ ↔ _
  rw [Tables.hasMore, pending_nextCursor sizes maxBytes unitId n distinct, decide_eq_true_eq]
  constructor
  · intro same
    have lengths := congrArg List.length same
    rw [length_take, length_append] at lengths
    rw [← length_eq_zero_iff]
    omega
  · rintro (full | none)
    · rw [take_left' full]
    · rw [none, append_nil, take_of_length_le short]

theorem delta_complete_iff :
    ((tables.hasMore sizes maxBytes unitId n = false → ∀ row ∈ tables.feedOf unitId,
        row.seq ≤ tables.nextCursor sizes maxBytes unitId n) ↔
      tables.Fits sizes maxBytes unitId n) ∧
    ((∀ m calls, (tables.pending unitId m).length < calls →
        tables.follow sizes maxBytes unitId calls m = tables.pending unitId m) ↔
      ∀ m, tables.Fits sizes maxBytes unitId m) := by
  refine ⟨?_, fun complete m => ?_, fun fits m calls => ?_⟩
  · rw [fits_iff _ _ _ _ distinct, eq_nil_iff_forall_not_mem]
    simp only [mem_pending, not_and, Nat.not_lt]
    cases tables.hasMore sizes maxBytes unitId n <;> simp
  · rw [fits_iff _ _ _ _ distinct, or_iff_not_imp_left]
    intro last
    have pages := pending_nextCursor sizes maxBytes unitId m distinct
    have page := complete m _ (Nat.lt_succ_self _)
    rw [Tables.follow, if_neg last, pages] at page
    exact (append_cancel_left page).symm
  · induction calls generalizing m with
    | zero => simp
    | succ calls ih =>
      intro enough
      have pages := pending_nextCursor sizes maxBytes unitId m distinct
      rw [Tables.follow]
      split
      next more =>
        have lengths := congrArg List.length pages
        rw [length_append, of_decide_eq_true more, releaseFeedPageSize] at lengths
        rw [ih _ (by omega)]
        exact pages.symm
      next last =>
        have none := ((fits_iff sizes maxBytes unitId m distinct).mp (fits m)).resolve_left last
        rw [none] at pages
        exact pages.symm

end Complete

def bulkyTables : Tables := { feed := [shadowRow 1 "rel1" "rule1", shadowRow 2 "rel2" "rule2"] }

def bulky : Sizes := ⟨fun _ => 1, fun _ => 3000000⟩

/-- The second artifact does not fit, and the page says that nothing follows. -/
theorem bulkyTables_stopped :
    bulkyTables.hasMore bulky 0 "edge-1" 0 = false ∧
      bulkyTables.nextCursor bulky 0 "edge-1" 0 = 1 ∧
      shadowRow 2 "rel2" "rule2" ∈ bulkyTables.feedOf "edge-1" := by
  decide +kernel

theorem bulkyTables_followed :
    bulkyTables.Fits unitSizes 0 "edge-1" 0 ∧ (bulkyTables.hasMore unitSizes 0 "edge-1" 0 = false →
      ∀ row ∈ bulkyTables.feedOf "edge-1",
        row.seq ≤ bulkyTables.nextCursor unitSizes 0 "edge-1" 0) := by
  have fits : bulkyTables.Fits unitSizes 0 "edge-1" 0 := by
    unfold Tables.Fits
    decide +kernel
  exact ⟨fits, (delta_complete_iff unitSizes 0 "edge-1" 0 (by decide)).1.mpr fits⟩

end YuFeng.Brain
