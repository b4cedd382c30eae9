import YuFeng.Brain.Statements
import YuFeng.Library.Paging

/-!
# The release feed

A unit asks for its releases page by page.  The first pages are a snapshot of
the live releases; when it is complete, the cursor is set to the largest
number in the feed of the unit, which is read by a statement of its own.  From
then on a page has the feed rows past the cursor, and the cursor moves to the
last of them.

Rows are numbered when they are inserted and seen when they are committed, so
a row can appear below a cursor.  Rows of the snapshot query that tie are
assumed to come in the same order as long as the tables are the same.
-/

namespace YuFeng.Brain

open YuFeng.Library YuFeng.Kernel

/-- The lengths of the encodings that fill a page. -/
structure Sizes where
  item : ReleaseItem → Nat
  artifact : Artifact → Nat

def clampArtifactBytes (n : Int) : Nat :=
  if n ≤ 0 then 4194304
  else if 16777216 < n then 16777216
  else n.toNat

def releaseFeedPageSize : Nat := 200

/-! ## Queries -/

def Governance.unitAssetsOf (db : Governance) (unitId releaseId : String) : List String :=
  (db.unitAssets.filter fun pair =>
    pair.1 = unitId && db.bound releaseId pair.2).map Prod.snd

def writtenBefore (row other : String × ReleaseRow) : Bool :=
  row.2.updatedAt < other.2.updatedAt || row.2.updatedAt = other.2.updatedAt &&
      textLe row.1.toList other.1.toList

def Governance.unitItems (db : Governance) (unitId : String) : List ReleaseItem :=
  ((db.releases.rows.filter fun row =>
      row.2.state.live && !(db.unitAssetsOf unitId row.1).isEmpty
    ).insertionSort fun row other => writtenBefore row other = true).flatMap
    fun row => (db.unitAssetsOf unitId row.1).map fun assetId =>
      { releaseId := row.1
        artifact := some row.2.artifact
        assetId := assetId
        mode := row.2.state.mode
        canaryPercent := row.2.canaryPercent }

def Tables.feedOf (tables : Tables) (unitId : String) : List FeedRow :=
  tables.feed.filter (·.unitId = unitId)

def Tables.delta (tables : Tables) (sizes : Sizes) (maxBytes : Int)
    (unitId : String) (seq : Nat) : List FeedRow :=
  firstPage (fun row => sizes.artifact row.artifact) (clampArtifactBytes maxBytes)
    ((orderByNumber (·.seq) ((tables.feedOf unitId).filter fun row => seq < row.seq)).take
        releaseFeedPageSize)

/-! ## Clients -/

inductive Cursor where
  /-- The empty cursor is offset 0. -/
  | snapshot (offset : Nat)
  | seq (n : Nat)
  deriving DecidableEq

structure Client where
  unitId : String
  cursor : Cursor := .snapshot 0
  /-- The snapshot is complete and its cursor is not read yet. -/
  anchoring : Bool := false
  snapshot : List ReleaseItem := []
  delivered : List FeedRow := []
  deriving DecidableEq

structure Service where
  store : Store := {}
  past : List Tables := [{}]
  clients : Table Nat Client := .empty

inductive ServiceOp where
  | store (event : Event)
  | connect (client : Nat) (unitId : String)
  /-- The query for the items of a page. -/
  | page (client : Nat) (maxBytes : Int)
  /-- The query for the cursor after a snapshot. -/
  | anchor (client : Nat)

def Client.page (client : Client) (sizes : Sizes) (maxBytes : Int) (tables : Tables) : Client :=
  match client.cursor with
  | .snapshot offset =>
    if client.anchoring then client
    else
      let rows := (tables.db.unitItems client.unitId).drop offset
      let items := firstPage sizes.item (clampArtifactBytes maxBytes) rows
      if items.length = rows.length then
        { client with
          snapshot := client.snapshot ++ items, anchoring := true }
      else
        { client with
          snapshot := client.snapshot ++ items
          cursor := .snapshot (offset + items.length) }
  | .seq n =>
    let rows := tables.delta sizes maxBytes client.unitId n
    { client with
      delivered := client.delivered ++ rows
      cursor := .seq ((rows.getLast?.map (·.seq)).getD n) }

def Client.anchor (client : Client) (tables : Tables) : Client :=
  if client.anchoring then
    { client with
      anchoring := false
      cursor := .seq (largest (·.seq) (tables.feedOf client.unitId)) }
  else client

def Service.modify (s : Service) (id : Nat) (change : Client → Client) : Service :=
  match s.clients.find? id with
  | none => s
  | some client => { s with clients := s.clients.set id (change client) }

def Service.step (sizes : Sizes) (s : Service) : ServiceOp → Service
  | .store event =>
    { s with
      store := s.store.step event
      past := (s.store.step event).tables :: s.past }
  | .connect id unitId =>
    match s.clients.find? id with
    | some _ => s
    | none => { s with clients := s.clients.set id { unitId := unitId } }
  | .page id maxBytes =>
    s.modify id fun client => client.page sizes maxBytes s.store.tables
  | .anchor id => s.modify id fun client => client.anchor s.store.tables

/-! ## Gaps -/

/-- The snapshot shows the release of a feed row as the tables had it at some
time after the row was committed. -/
def Contained (s : Service) (client : Client) (row : FeedRow) : Prop :=
  ∃ tables ∈ s.past, row ∈ tables.feed ∧ (client.snapshot.filter fun item =>
        item.releaseId = row.releaseId && item.assetId = row.assetId) =
      (tables.db.unitItems client.unitId).filter fun item =>
        item.releaseId = row.releaseId && item.assetId = row.assetId

/-- No committed row of the unit up to the cursor is missing. -/
def Client.Gapless (s : Service) (client : Client) : Prop :=
  ∀ n, client.cursor = .seq n → ∀ row ∈ s.store.tables.feedOf client.unitId,
    row.seq ≤ n → row ∈ client.delivered ∨ Contained s client row

def Gapless (s : Service) : Prop := ∀ id client, s.clients.find? id = some client → client.Gapless s

def Client.follows (client : Client) : Bool :=
  match client.cursor with
  | .snapshot _ => false
  | .seq _ => true

def Client.reading (client : Client) : Bool :=
  client.anchoring || match client.cursor with
    | .snapshot offset => offset ≠ 0
    | .seq _ => false

/-- No open transaction holds a feed row of the unit with a number below that
of a committed row. -/
def Store.orderly (s : Store) (unitId : String) : Bool :=
  s.txs.rows.all fun entry => entry.2.feed.all fun row =>
    row.unitId ≠ unitId || (s.tables.feedOf unitId).all fun old => old.seq < row.seq

def Tx.touches (tx : Tx) (db : Governance) (unitId : String) : Bool :=
  tx.unitAssets.any (·.1 = unitId) ||
    tx.releases.rows.any fun row => !(db.unitAssetsOf unitId row.1).isEmpty

def Event.touches (s : Store) (unitId : String) : Event → Bool
  | .advance id =>
    (s.txs.find? id).any fun tx =>
      tx.phase = .finished && tx.touches s.tables.db unitId
  | .attach unit _ | .detach unit _ => unit = unitId
  | _ => false

/-- The releases of a unit do not change while one of its clients takes a
snapshot, and cursors are read when no lower number of the unit is open. -/
def ServiceOp.undisturbed (s : Service) : ServiceOp → Bool
  | .store event =>
    s.clients.rows.all fun entry =>
      !entry.2.reading || !event.touches s.store entry.2.unitId
  | .page id _ =>
    (s.clients.find? id).all fun client =>
      !client.follows || s.store.orderly client.unitId
  | .anchor id =>
    (s.clients.find? id).all fun client => s.store.orderly client.unitId
  | _ => true

end YuFeng.Brain
