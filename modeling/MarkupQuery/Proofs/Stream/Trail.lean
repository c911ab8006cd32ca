import MarkupQuery.Stream.Trail
import Mathlib.Data.List.Induction

/-!
The trail of the elements down to some element. Main statements: it is at a text exactly where its
names, joined by full stops, are that text (`Trail.isAt_ofChain`), and names that are joined become
longer with each further name (`Text.length_join_lt`).
-/
namespace MarkupQuery

namespace Text

theorem join_concat (separator : Char) (pieces : List Text) (last : Text) (nonempty : pieces ≠ []) :
    join separator (pieces ++ [last]) = join separator pieces ++ separator :: last := by
  induction pieces with
  | nil => exact absurd rfl nonempty
  | cons piece others ih =>
    cases others with
    | nil => rfl
    | cons next rest =>
      have further := ih (by simp)
      simp only [List.cons_append, join] at further ⊢
      rw [further, List.append_assoc, List.cons_append]

theorem join_ne_nil (separator : Char) {pieces : List Text} (nonempty : pieces ≠ [])
    (named : ∀ piece ∈ pieces, piece ≠ []) : join separator pieces ≠ [] := by
  cases pieces with
  | nil => exact absurd rfl nonempty
  | cons piece others =>
    have head := named piece (by simp)
    cases others with
    | nil => exact head
    | cons next rest => simp [join]

/-- Further names make joined names longer. -/
theorem length_join_lt (separator : Char) {pieces more : List Text} (before : pieces ≠ [])
    (after : more ≠ []) :
    (join separator pieces).length < (join separator (pieces ++ more)).length := by
  induction more using List.reverseRecOn with
  | nil => exact absurd rfl after
  | append_singleton others last ih =>
    have shorter : (join separator pieces).length ≤ (join separator (pieces ++ others)).length := by
      by_cases empty : others = []
      · simp [empty]
      · exact Nat.le_of_lt (ih empty)
    rw [← List.append_assoc, join_concat _ _ _ (by simp [before]), List.length_append,
      List.length_cons]
    omega

end Text

namespace Trail

/-- The trail of elements, the outermost first. -/
def ofChain (chain : List Text) : Trail := chain.foldl push empty

theorem ofChain_concat (chain : List Text) (name : Text) :
    ofChain (chain ++ [name]) = (ofChain chain).push name := by
  simp [ofChain]

theorem names_ofChain (chain : List Text) :
    (ofChain chain).names.reverse.map (·.name) = chain := by
  induction chain using List.reverseRecOn with
  | nil => rfl
  | append_singleton others last ih =>
    rw [ofChain_concat]
    simp only [push, List.reverse_cons, List.map_append, List.map_cons, List.map_nil]
    rw [ih]

theorem depth_ofChain (chain : List Text) : (ofChain chain).depth = chain.length := by
  induction chain using List.reverseRecOn with
  | nil => rfl
  | append_singleton others last ih =>
    rw [ofChain_concat, push, List.length_append, ← ih]
    rfl

theorem length_ofChain {chain : List Text} (named : ∀ name ∈ chain, name ≠ []) :
    (ofChain chain).length = (Text.join '.' chain).length := by
  induction chain using List.reverseRecOn with
  | nil => rfl
  | append_singleton others last ih =>
    have inner := ih (fun name member => named name (by simp [member]))
    rw [ofChain_concat]
    by_cases empty : others = []
    · simp [empty, ofChain, push, length, Trail.empty, Text.join]
    · have joined := Text.join_ne_nil '.' empty (fun name member => named name (by simp [member]))
      have step : ((ofChain others).push last).length =
          (ofChain others).length + 1 + last.length := by
        have nonzero : ((ofChain others).length == 0) = false := by
          rw [inner]
          simpa using joined
        simp only [push, nonzero]
        rfl
      rw [step, inner, Text.join_concat _ _ _ empty, List.length_append, List.length_cons]
      omega

theorem text_ofChain {chain : List Text} (named : ∀ name ∈ chain, name ≠ []) :
    (ofChain chain).text = Text.join '.' chain := by
  have kept : chain.dropWhile List.isEmpty = chain := by
    cases chain with
    | nil => rfl
    | cons name others => simp [named name (by simp)]
  rw [text, names_ofChain, kept]

/-- A trail is at a text where its joined names are that text. -/
theorem isAt_ofChain {chain : List Text} (named : ∀ name ∈ chain, name ≠ []) (text : Text) :
    (ofChain chain).isAt text = (Text.join '.' chain == text) := by
  rw [isAt, text_ofChain named, length_ofChain named]
  by_cases same : Text.join '.' chain = text <;> simp [same]

end Trail

end MarkupQuery
