import YuFeng.Edge.Source

/-!
# Sources of login attempts

The rate limiter of the brain counts by the first entry of `X-Forwarded-For`.
A proxy appends to the header, so this entry is the client's own.
-/

namespace YuFeng.Brain

open YuFeng.Edge YuFeng.Library List

variable {reader : AddrReader}

def trimBrackets (s : String) : String :=
  let bracket := fun c => c = '[' || c = ']'
  String.ofList ((s.toList.dropWhile bracket).reverse.dropWhile bracket).reverse

def directAddress (reader : AddrReader) (peerAddress : String) : Option Addr :=
  let direct := trimSpace peerAddress
  reader.parseAddr (trimBrackets ((reader.splitHostPort direct).getD direct))

def firstForwarded (reader : AddrReader) (header : String) : Option Addr :=
  let x := trimSpace header
  if x = "" then none
  else reader.parseAddr (trimSpace (String.ofList (x.toList.takeWhile (· ≠ ','))))

def realAddress (reader : AddrReader) (header : String) : Option Addr :=
  let x := trimSpace header
  if x = "" then none else reader.parseAddr x

def requestSource (reader : AddrReader) (text : Addr → String) (trustedProxies : List Prefix)
    (peerAddress forwardedFor realIp : String) : String :=
  let direct := directAddress reader peerAddress
  let forwarded :=
    if direct.any (Edge.contains trustedProxies) then
      (firstForwarded reader forwardedFor).or (realAddress reader realIp)
    else none
  match forwarded.or direct with
  | some address => text address
  | none => "unknown"

theorem rdropWhile_append_cons {p : Char → Bool} {c} (h : p c = false) (left right : List Char) :
    (left ++ c :: right).rdropWhile p = left ++ c :: right.rdropWhile p := by
  rw [rdropWhile, rdropWhile, reverse_append, reverse_cons, append_assoc, dropWhile_append]
  split
  next empty => simp [h, isEmpty_iff.mp empty]
  · simp

theorem firstForwarded_append {mine own : String} (filled : mine ≠ "")
    (plain : ∀ c ∈ mine.toList, isSpace c = false ∧ c ≠ ',') :
    firstForwarded reader (mine ++ "," ++ own) = reader.parseAddr mine := by
  have kept : (trimSpace (mine ++ "," ++ own)).toList =
      mine.toList ++ ',' :: own.toList.rdropWhile isSpace := by
    obtain ⟨c, rest, split⟩ := exists_cons_of_ne_nil (mt String.toList_eq_nil_iff.mp filled)
    have start := (plain c (by simp [split])).1
    rw [toList_trimSpace, ← rdropWhile_append_cons (by decide), split]
    simp [split, start]
  have first : (trimSpace (mine ++ "," ++ own)).toList.takeWhile (· ≠ ',') = mine.toList := by
    rw [kept, takeWhile_append_of_pos (by simpa using fun c member => (plain c member).2)]
    simp
  have some : trimSpace (mine ++ "," ++ own) ≠ "" := by
    intro empty
    simp [empty] at kept
  rw [firstForwarded, if_neg some, first, String.ofList_toList,
    trimSpace_of_no_space fun c member => (plain c member).1]

/-- Behind a trusted proxy the client chooses the source it is counted under. -/
theorem source_unspoofed_iff (reader : AddrReader) (text : Addr → String) (first second : Addr)
    (one : reader.parseAddr "8.8.8.8" = some first)
    (two : reader.parseAddr "10.0.0.1" = some second) (apart : text first ≠ text second)
    (trustedProxies : List Prefix) (peerAddress own realIp : String) :
    (∀ mine mine',
      requestSource reader text trustedProxies peerAddress (mine ++ "," ++ own) realIp =
        requestSource reader text trustedProxies peerAddress (mine' ++ "," ++ own) realIp) ↔
      ¬ (directAddress reader peerAddress).any (Edge.contains trustedProxies) = true := by
  constructor
  · intro same trusted
    have equal := same "8.8.8.8" "10.0.0.1"
    simp only [requestSource, trusted, if_true] at equal
    rw [firstForwarded_append (by decide) (by simp [isSpace]),
      firstForwarded_append (by decide) (by simp [isSpace]), one, two] at equal
    exact apart equal
  · intro untrusted mine mine'
    simp only [requestSource, if_neg untrusted]

def addressText (address : Addr) : String :=
  if address = .v4 0x08080808 then "8.8.8.8" else "10.0.0.1"

theorem source_unspoofed_iff_direct :
    requestSource proxyReader addressText [] "10.0.0.1:443" ("8.8.8.8" ++ "," ++ "10.0.0.1") "" =
      requestSource proxyReader addressText [] "10.0.0.1:443" ("a" ++ "," ++ "10.0.0.1") "" :=
  (source_unspoofed_iff proxyReader addressText (.v4 0x08080808) (.v4 0x0a000001)
    (by decide +kernel) (by decide +kernel) (by decide +kernel) _ _ _ _).mpr (by decide +kernel) _ _

/-- Two headers, two rate-limit buckets. -/
theorem source_spoofed :
    requestSource proxyReader addressText [⟨.v4 0x0a000000, 8⟩] "10.0.0.1:443"
        "8.8.8.8,::ffff:192.0.2.7" "" = "8.8.8.8" ∧
      requestSource proxyReader addressText [⟨.v4 0x0a000000, 8⟩] "10.0.0.1:443"
        "10.0.0.1,::ffff:192.0.2.7" "" = "10.0.0.1" := by
  decide +kernel

end YuFeng.Brain
