import GridFilter.Digest
import Mathlib.Data.List.Basic
import Mathlib.Tactic.Common

/-!
# The digits of a digest

Whatever bytes are hashed, the answer has sixteen digits (`length_hex16`).  The hash is a chain of
eight words at every node of its tree: a compression takes a chain to a chain, because a round
leaves the number of words of its state as it is.
-/

namespace GridFilter.Digest

/-! ## Rounds -/

@[simp] lemma size_quarter (state : Array UInt32) (a b c d : Nat) (x y : UInt32) :
    (quarter state a b c d x y).size = state.size := by
  simp [quarter]

@[simp] lemma size_round (state message : Array UInt32) :
    (round state message).size = state.size := by
  simp [round]

@[simp] lemma size_rounds (count : Nat) (state message : Array UInt32) :
    (rounds count state message).size = state.size := by
  induction count generalizing state message with
  | zero => rfl
  | succ count ih => rw [rounds, ih, size_round]

/-! ## Chains -/

@[simp] lemma length_initial : initial.length = 8 := rfl

/-- A compression takes a chain of eight words to a chain of eight words. -/
lemma length_compress {chain : Chain} (h : chain.length = 8) {block : List UInt32} {counter : Nat}
    {length flags : UInt32} : (compress chain block counter length flags).length = 8 := by
  simp [compress, h]

lemma length_chainBlocks {chain : Chain} (h : chain.length = 8) (counter : Nat)
    (final flags : UInt32) (blocks : List (List UInt8)) :
    (chainBlocks counter final chain flags blocks).length = 8 := by
  fun_induction chainBlocks counter final chain flags blocks with
  | case1 chain flags => exact h
  | case2 chain flags block => exact length_compress h
  | case3 chain flags block rest _ ih => exact ih (length_compress h)

lemma length_chunkChain (counter : Nat) (final : UInt32) (chunk : List UInt8) :
    (chunkChain counter final chunk).length = 8 :=
  length_chainBlocks length_initial counter final chunkStart _

/-! ## The tree -/

lemma length_of_mem_joinPairs (final : UInt32) {level : List Chain}
    (h : ∀ chain ∈ level, chain.length = 8) : ∀ chain ∈ joinPairs final level, chain.length = 8 := by
  fun_induction joinPairs final level with
  | case1 left right rest ih =>
      intro chain hmem
      rcases List.mem_cons.mp hmem with hnode | hrest
      · rw [hnode]
        exact length_compress length_initial
      · exact ih (fun other hother => h other (by simp [hother])) chain hrest
  | case2 rest => exact h

lemma length_joinAll (bound : Nat) {level : List Chain} (h : ∀ chain ∈ level, chain.length = 8) :
    (joinAll bound level).length = 8 := by
  fun_induction joinAll bound level with
  | case1 level =>
      cases level with
      | nil => rfl
      | cons chain rest => exact h chain List.mem_cons_self
  | case2 bound only => exact h only List.mem_cons_self
  | case3 bound left right => exact length_compress length_initial
  | case4 bound level _ _ ih => exact ih (length_of_mem_joinPairs 0 h)

/-- The hash of a byte string is a chain of eight words. -/
lemma length_hash (bytes : List UInt8) : (hash bytes).length = 8 := by
  rw [hash]
  split
  · exact length_chunkChain _ _ _
  · refine length_joinAll _ fun chain hmem => ?_
    obtain ⟨entry, -, rfl⟩ := List.mem_map.mp hmem
    exact length_chunkChain _ _ _

/-! ## Digits -/

lemma length_digits (w : UInt32) : ((wordBytes w).flatMap byteHex).length = 8 := rfl

/-- A digest has sixteen digits. -/
theorem length_hex16 (bytes : List UInt8) : (hex16 bytes).length = 16 := by
  obtain ⟨first, second, rest, hwords⟩ : ∃ first second rest, hash bytes = first :: second :: rest := by
    have hlength := length_hash bytes
    match hash bytes, hlength with
    | first :: second :: rest, _ => exact ⟨first, second, rest, rfl⟩
  rw [hex16, hwords, String.length_ofList]
  show ((wordBytes first).flatMap byteHex ++ ((wordBytes second).flatMap byteHex ++ [])).length = 16
  rw [List.length_append, List.length_append, length_digits, length_digits, List.length_nil]

end GridFilter.Digest
