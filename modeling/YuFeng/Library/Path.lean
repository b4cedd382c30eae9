import Mathlib.Data.List.Chain

/-!
# Paths

The places that something visits one after another, the steps between them,
and paths along which a rank grows.
-/

namespace YuFeng.Library

section Steps

variable {α : Type*}

def steps (places : List α) : List (α × α) := places.zip places.tail

theorem steps_concat {places last} (h : places.getLast? = some last) (next : α) :
    steps (places ++ [next]) = steps places ++ [(last, next)] := by
  induction places with
  | nil => cases h
  | cons first rest ih =>
    cases rest with
    | nil =>
      cases h
      rfl
    | cons second rest =>
      rw [List.getLast?_cons_cons] at h
      change (first, second) :: steps (second :: rest ++ [next]) = _
      rw [ih h]
      rfl

theorem map_snd_steps (places : List α) : (steps places).map Prod.snd = places.tail := by
  apply List.map_snd_zip
  rw [List.length_tail]
  omega

variable [DecidableEq α]

def extend (places : List α) : Option α → List α
  | none => places
  | some next =>
    if places.getLast? = some next then places else places ++ [next]

theorem extend_last (places : List α) : extend places places.getLast? = places := by
  cases last : places.getLast? with
  | none => rfl
  | some => simp [extend, last]

theorem extend_next {places : List α} {next} (h : places.getLast? ≠ some next) :
    extend places (some next) = places ++ [next] := by
  rw [extend, if_neg h]

end Steps

section Rank

variable {α : Type*} {edge : α → α → Prop} {rank : α → Nat}

theorem rank_le_last (grows : ∀ a b, edge a b → rank a < rank b) {places : List α}
    (path : places.IsChain edge) {last} (h : places.getLast? = some last) {place}
    (visited : place ∈ places) : place = last ∨ rank place < rank last := by
  induction places generalizing place with
  | nil => cases h
  | cons _ rest ih =>
    cases rest with
    | nil =>
      cases h
      exact .inl (List.mem_singleton.mp visited)
    | cons =>
      rw [List.getLast?_cons_cons] at h
      rw [List.isChain_cons_cons] at path
      rcases List.mem_cons.mp visited with rfl | later
      · have forward := grows _ _ path.1
        rcases ih path.2 h List.mem_cons_self with rfl | further
        · exact .inr forward
        · exact .inr (Nat.lt_trans forward further)
      · exact ih path.2 h later

end Rank

end YuFeng.Library
