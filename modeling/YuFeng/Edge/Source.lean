import YuFeng.Library.Text

/-!
# Client addresses

Behind trusted proxies a client is the right-most entry of `X-Forwarded-For`
that is none of them.  What the client has written itself stands to the left of
that entry.
-/

namespace YuFeng.Edge

open YuFeng.Library

inductive Addr where
  | invalid
  | v4 (bits : BitVec 32)
  | v6 (bits : BitVec 128) (zone : String)
  deriving DecidableEq

def Addr.zone : Addr → String
  | .v6 _ zone => zone
  | _ => ""

def Addr.unmap : Addr → Addr
  | .v6 bits zone => if bits >>> 32 = 0xffff#128 then .v4 (bits.setWidth 32) else .v6 bits zone
  | addr => addr

structure Prefix where
  addr : Addr
  bits : Nat
  deriving DecidableEq

def Prefix.contains (p : Prefix) (addr : Addr) : Bool :=
  match p.addr, addr with
  | .v4 own, .v4 other => (own ^^^ other) >>> (32 - p.bits) = 0#32
  | .v6 own _, .v6 other zone => zone = "" && (own ^^^ other) >>> (128 - p.bits) = 0#128
  | _, _ => false

structure AddrReader where
  parseAddr : String → Option Addr
  splitHostPort : String → Option String

section Resolving

variable (reader : AddrReader) (trusted : List Prefix)

def AddrReader.zoneless (text : String) : Option Addr :=
  ((reader.parseAddr text).filter fun addr => addr.zone = "").map Addr.unmap

def parsePeerAddress (raw : String) : Option Addr :=
  let raw := trimSpace raw
  match reader.zoneless raw with
  | some addr => some addr
  | none => (reader.splitHostPort raw).bind reader.zoneless

/-- No address is the zero value of the source. -/
def directPeer (remoteAddress : String) : Addr :=
  (parsePeerAddress reader remoteAddress).getD .invalid

/-- A resolver that is nil trusts nobody, as one without prefixes does. -/
def contains (addr : Addr) : Bool := trusted.any fun p => p.contains addr

def forwardedAddress (part : String) : Option Addr :=
  if trimSpace part = "" then none else reader.zoneless (trimSpace part)

def forwardedChain (values : List String) : Option (List Addr) :=
  (values.flatMap (splitText ',')).mapM (forwardedAddress reader)

def scanChain (source : Addr) : List Addr → Addr
  | [] => source
  | addr :: left => if contains trusted addr then scanChain addr left else addr

def resolve (remoteAddress : String) (values : List String) : Addr :=
  let direct := directPeer reader remoteAddress
  if (parsePeerAddress reader remoteAddress).isNone ∨ contains trusted direct = false then direct
  else if values.isEmpty then direct
  else
    match forwardedChain reader values with
    | none => direct
    | some chain => scanChain trusted direct chain.reverse

end Resolving

variable {reader : AddrReader} {trusted : List Prefix} {direct source : Addr}
  {chain left right : List Addr}

structure RightmostUntrusted (trusted : List Prefix) (chain : List Addr) (source : Addr)
    (right : List Addr) : Prop where
  split : ∃ left, chain = left ++ source :: right
  source : contains trusted source = false
  right : ∀ addr ∈ right, contains trusted addr = true

theorem scanChain_append (all : ∀ addr ∈ right, contains trusted addr = true) :
    scanChain trusted direct (right ++ source :: left) =
      if contains trusted source then scanChain trusted source left else source := by
  induction right generalizing direct with
  | nil => rfl
  | cons addr right ih =>
    rw [List.forall_mem_cons] at all
    rw [List.cons_append, scanChain, if_pos all.1, ih all.2]

theorem RightmostUntrusted.scanChain (h : RightmostUntrusted trusted chain source right) :
    scanChain trusted direct chain.reverse = source := by
  obtain ⟨⟨left, rfl⟩, untrusted, all⟩ := h
  rw [List.reverse_append, List.reverse_cons, List.append_assoc, List.singleton_append,
    scanChain_append (by simpa using all), if_neg (by simp [untrusted])]

theorem rightmost_or_trusted (chain) :
    (∃ source right, RightmostUntrusted trusted chain source right) ∨
      ∀ addr ∈ chain, contains trusted addr = true := by
  induction chain with
  | nil => exact .inr (by simp)
  | cons addr chain ih =>
    rcases ih with ⟨source, right, ⟨left, rfl⟩, untrusted, all⟩ | all
    · exact .inl ⟨source, right, ⟨addr :: left, rfl⟩, untrusted, all⟩
    · cases here : contains trusted addr with
      | false => exact .inl ⟨addr, chain, ⟨[], rfl⟩, here, all⟩
      | true => exact .inr (List.forall_mem_cons.mpr ⟨here, all⟩)

theorem scanChain_trusted (all : ∀ addr ∈ source :: chain, contains trusted addr = true) :
    scanChain trusted direct (source :: chain).reverse = source := by
  rw [List.reverse_cons, scanChain_append fun addr member => all addr (by simp_all)]
  split <;> rfl

theorem resolve_eq (remoteAddress values) :
    resolve reader trusted remoteAddress values =
      if contains trusted (directPeer reader remoteAddress) = false then
        directPeer reader remoteAddress
      else ((forwardedChain reader values).map fun chain =>
        scanChain trusted (directPeer reader remoteAddress) chain.reverse).getD
          (directPeer reader remoteAddress) := by
  unfold resolve
  dsimp only
  by_cases untrusted : contains trusted (directPeer reader remoteAddress) = false
  · rw [if_pos (.inr untrusted), if_pos untrusted]
  · have read : (parsePeerAddress reader remoteAddress).isNone = false := by
      refine Bool.eq_false_iff.mpr fun unread => untrusted ?_
      rw [directPeer, Option.isNone_iff_eq_none.mp unread]
      simp [contains, Prefix.contains]
    rw [if_neg (by simp [read, untrusted]), if_neg untrusted]
    cases values with
    | nil => rfl
    | cons => cases forwardedChain reader _ <;> rfl

/-- What stands to the left of the right-most untrusted entry has no influence. -/
theorem resolve_unspoofed (reader : AddrReader) (trusted : List Prefix)
    (remoteAddress : String) (values : List String) :
    (∀ remoteAddress' values' chain chain' source right,
      directPeer reader remoteAddress' = directPeer reader remoteAddress →
      forwardedChain reader values = some chain → forwardedChain reader values' = some chain' →
      RightmostUntrusted trusted chain source right →
      RightmostUntrusted trusted chain' source right →
      resolve reader trusted remoteAddress' values' = resolve reader trusted remoteAddress values) ∧
    (resolve reader trusted remoteAddress values = directPeer reader remoteAddress ∨
      ∃ chain, forwardedChain reader values = some chain ∧
        ((∃ right, RightmostUntrusted trusted chain
            (resolve reader trusted remoteAddress values) right) ∨
          (∀ addr ∈ chain, contains trusted addr = true) ∧
            chain.head? = some (resolve reader trusted remoteAddress values))) ∧
    (contains trusted (directPeer reader remoteAddress) = false ∨
        forwardedChain reader values = none →
      resolve reader trusted remoteAddress values = directPeer reader remoteAddress) := by
  refine ⟨fun _ _ _ _ _ _ peer read read' split split' => ?_, ?_, fun alone => ?_⟩
  · rw [resolve_eq, resolve_eq, peer, read, read']
    simp [split.scanChain, split'.scanChain]
  · rw [resolve_eq]
    split
    · exact .inl rfl
    cases read : forwardedChain reader values with
    | none => exact .inl rfl
    | some chain =>
      simp only [Option.map_some, Option.getD_some]
      rcases rightmost_or_trusted chain with ⟨_, right, split⟩ | all
      · exact .inr ⟨chain, rfl, .inl ⟨right, by rwa [split.scanChain]⟩⟩
      · cases chain with
        | nil => exact .inl rfl
        | cons => exact .inr ⟨_, rfl, .inr ⟨all, by rw [scanChain_trusted all]; rfl⟩⟩
  · rw [resolve_eq]
    rcases alone with untrusted | unread
    · exact if_pos untrusted
    · rw [unread]
      exact ite_self _

def proxyReader : AddrReader where
  parseAddr text :=
    if text = "10.0.0.1" then some (.v4 0x0a000001) else
    if text = "::ffff:192.0.2.7" then some (.v6 0xffffc0000207 "") else
    if text = "8.8.8.8" then some (.v4 0x08080808) else none
  splitHostPort _ := some "10.0.0.1"

/-- A client behind one proxy gains nothing by sending the header itself. -/
theorem resolve_unspoofed_forged :
    resolve proxyReader [⟨.v4 0x0a000000, 8⟩] "10.0.0.1:80"
        ["8.8.8.8", "::ffff:192.0.2.7, 10.0.0.1"] =
      resolve proxyReader [⟨.v4 0x0a000000, 8⟩] "10.0.0.1:81" ["::ffff:192.0.2.7", "10.0.0.1"] :=
  (resolve_unspoofed proxyReader _ _ _).1 _ _ [.v4 0xc0000207, .v4 0x0a000001]
    [.v4 0x08080808, .v4 0xc0000207, .v4 0x0a000001] (.v4 0xc0000207) [.v4 0x0a000001]
    (by decide +kernel) (by decide +kernel) (by decide +kernel)
    ⟨⟨[], rfl⟩, by decide +kernel, by decide +kernel⟩
    ⟨⟨[.v4 0x08080808], rfl⟩, by decide +kernel, by decide +kernel⟩

end YuFeng.Edge
