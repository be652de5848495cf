import AkidbEmbedding.Mlx.Averages

/-!
# Last-token pooling in the Qwen3 benchmark

`last_token_pool` in `scripts/test_qwen3_coreml.py` reads, for every row of a
batch, the hidden vector at the index `attention_mask[i].sum() - 1`. On a
zero-one mask row that is one below the number of attended positions. It is the
last attended position when those positions come first, as when the tokenizer
pads on the right, and only then: on a left-padded row of a batch the index
falls on an earlier position.

numpy reads a negative index from the end of its axis and raises `IndexError`
past either end. The loop reads `sequence_lengths[i]` for every row of the
hidden states, so a mask with fewer rows raises. The hidden values are never
computed with, so they are of any type.
-/

namespace AkidbEmbedding.Scripts

open AkidbEmbedding.Python

variable {R : Type} {s h : Nat}

/-- numpy's index `index` on axis `axis` of length `size`: a negative index
counts from the end, and one past either end raises. -/
def npIndex (size axis : Nat) (index : Int) : Except PyError (Fin size) :=
  if inside : 0 ≤ index ∧ index < size then .ok ⟨index.toNat, by omega⟩
  else if fromEnd : index < 0 ∧ -index ≤ size then .ok ⟨(size + index).toNat, by omega⟩
  else .error ⟨"IndexError", "index " ++ toString index ++ " is out of bounds for axis " ++
    toString axis ++ " with size " ++ toString size⟩

/-- One entry of `attention_mask.sum(axis=1) - 1`. -/
def lastIndex (mask : Fin s → Int) : Int :=
  (∑ j, mask j) - 1

/-- The loop of `last_token_pool` from row `i` on, over the rows of the hidden
states and the indices of `sequence_lengths`, of which there are `total`. -/
def poolRows (total : Nat) : Nat → List (Fin s → Fin h → R) → List Int → Except PyError (List (Fin h → R))
  | _, [], _ => .ok []
  | i, _ :: _, [] => .error ⟨"IndexError", "index " ++ toString i ++
      " is out of bounds for axis 0 with size " ++ toString total⟩
  | i, hidden :: rest, lastIdx :: lastIdxs => do
    let row ← (npIndex s 1 lastIdx).map hidden
    let others ← poolRows total (i + 1) rest lastIdxs
    pure (row :: others)

/-- `last_token_pool(last_hidden_states, attention_mask)`. -/
def lastTokenPool (lastHiddenStates : List (Fin s → Fin h → R)) (attentionMask : List (Fin s → Int)) :
    Except PyError (List (Fin h → R)) :=
  poolRows attentionMask.length 0 lastHiddenStates (attentionMask.map lastIndex)

/-- The attended positions of a mask row. -/
def attended (mask : Fin s → Int) : Finset (Fin s) :=
  Finset.univ.filter fun j => mask j = 1

/-- An index inside the axis reads its own position. -/
theorem npIndex_of_lt (size axis index : Nat) (inside : index < size) :
    npIndex size axis index = .ok ⟨index, inside⟩ := by
  simp [npIndex, inside]

/-- On a zero-one row the mask sum counts the attended positions. -/
theorem lastIndex_eq (mask : Fin s → Int) (binary : ∀ j, mask j = 0 ∨ mask j = 1) :
    lastIndex mask = ((attended mask).card : Int) - 1 := by
  rw [lastIndex, attended, Finset.card_filter, Nat.cast_sum]
  congr 1
  refine Finset.sum_congr rfl fun j _ => ?_
  rcases binary j with bit | bit <;> simp [bit]

/-- On a zero-one row with an attended position, the row reads the hidden
vector one below the number of attended positions. -/
theorem lastRow_eq (hidden : Fin s → Fin h → R) (mask : Fin s → Int)
    (binary : ∀ j, mask j = 0 ∨ mask j = 1) (nonempty : (attended mask).Nonempty) :
    ∃ read : Fin s, (read : Nat) + 1 = (attended mask).card ∧
      (npIndex s 1 (lastIndex mask)).map hidden = .ok (hidden read) := by
  have positive := nonempty.card_pos
  have bounded : (attended mask).card ≤ s := (Finset.card_le_univ _).trans_eq (Fintype.card_fin s)
  refine ⟨⟨(attended mask).card - 1, by omega⟩, by simp only; omega, ?_⟩
  rw [lastIndex_eq mask binary, show ((attended mask).card : Int) - 1 = (((attended mask).card - 1 : Nat) : Int)
    by omega, npIndex_of_lt _ _ _ (by omega)]
  rfl

/-- The position one below the number of attended positions is the last
attended one exactly when the attended positions are the first ones. -/
theorem read_last_iff (mask : Fin s → Int) (read : Fin s) (counted : (read : Nat) + 1 = (attended mask).card) :
    (read ∈ attended mask ∧ ∀ j ∈ attended mask, j ≤ read) ↔
      ∀ j, j ∈ attended mask ↔ (j : Nat) < (attended mask).card := by
  constructor
  · rintro ⟨-, below⟩
    have bounded : (attended mask).card ≤ s := (Finset.card_le_univ _).trans_eq (Fintype.card_fin s)
    have leading : attended mask = Finset.univ.filter fun j : Fin s => (j : Nat) < (attended mask).card := by
      refine Finset.eq_of_subset_of_card_le (fun j member => ?_) ?_
      · have := Fin.le_iff_val_le_val.mp (below j member)
        simp only [Finset.mem_filter, Finset.mem_univ, true_and]
        omega
      · rw [Mlx.card_filter_lt, min_eq_left bounded]
    intro j
    conv_lhs => rw [leading]
    simp
  · intro leading
    refine ⟨(leading read).mpr (by omega), fun j member => ?_⟩
    have := (leading j).mp member
    exact Fin.le_iff_val_le_val.mpr (by omega)

/-- The loop over rows of zero-one masks with an attended position returns one
row per hidden row, each read one below its mask's count. -/
theorem poolRows_ok (total : Nat) :
    ∀ (i : Nat) (hiddenStates : List (Fin s → Fin h → R)) (masks : List (Fin s → Int)),
      masks.length = hiddenStates.length → (∀ mask ∈ masks, ∀ j, mask j = 0 ∨ mask j = 1) →
      (∀ mask ∈ masks, (attended mask).Nonempty) →
      ∃ rows, poolRows total i hiddenStates (masks.map lastIndex) = .ok rows ∧
        List.Forall₂ (fun row (pair : (Fin s → Fin h → R) × (Fin s → Int)) =>
          ∃ read : Fin s, (read : Nat) + 1 = (attended pair.2).card ∧ row = pair.1 read)
          rows (hiddenStates.zip masks)
  | _, [], [], _, _, _ => ⟨[], rfl, .nil⟩
  | i, hidden :: rest, mask :: masks, shaped, binary, nonempty => by
    obtain ⟨read, counted, row⟩ := lastRow_eq hidden mask (binary mask (List.mem_cons_self _ _))
      (nonempty mask (List.mem_cons_self _ _))
    obtain ⟨rows, pooled, related⟩ := poolRows_ok total (i + 1) rest masks (by simpa using shaped)
      (fun mask member => binary mask (List.mem_cons_of_mem _ member))
      fun mask member => nonempty mask (List.mem_cons_of_mem _ member)
    refine ⟨hidden read :: rows, ?_, .cons ⟨read, counted, rfl⟩ related⟩
    rw [List.map_cons, poolRows, row, pooled]
    rfl

/-- For every batch of hidden states and every zero-one mask of the same number
of rows, each with an attended position, `last_token_pool` returns one vector
per row: the row's hidden vector at the position one below its mask's count.
That position is the row's last attended position exactly when its attended
positions are its first ones, so on a left-padded row it is not. -/
theorem last_token_reads_count (hiddenStates : List (Fin s → Fin h → R))
    (attentionMask : List (Fin s → Int)) (shaped : attentionMask.length = hiddenStates.length)
    (binary : ∀ mask ∈ attentionMask, ∀ j, mask j = 0 ∨ mask j = 1)
    (nonempty : ∀ mask ∈ attentionMask, (attended mask).Nonempty) :
    ∃ rows, lastTokenPool hiddenStates attentionMask = .ok rows ∧
      List.Forall₂ (fun row (pair : (Fin s → Fin h → R) × (Fin s → Int)) =>
        ∃ read : Fin s, (read : Nat) + 1 = (attended pair.2).card ∧ row = pair.1 read ∧
          ((read ∈ attended pair.2 ∧ ∀ j ∈ attended pair.2, j ≤ read) ↔
            ∀ j, j ∈ attended pair.2 ↔ (j : Nat) < (attended pair.2).card))
        rows (hiddenStates.zip attentionMask) := by
  obtain ⟨rows, pooled, related⟩ :=
    poolRows_ok attentionMask.length 0 hiddenStates attentionMask shaped binary nonempty
  exact ⟨rows, pooled, related.imp fun row pair ⟨read, counted, same⟩ =>
    ⟨read, counted, same, read_last_iff pair.2 read counted⟩⟩

/-- Each hidden vector of a three-position row is its position. -/
def positions : Fin 3 → Fin 1 → Nat := fun j _ => j

/-- A batch of two texts padded on the left, as a Qwen3 tokenizer pads: the
second text has two tokens, at positions 1 and 2. -/
def leftPadded : List (Fin 3 → Int) := [![1, 1, 1], ![0, 1, 1]]

/-- On the left-padded batch the second row reads position 1, not its last
attended position 2. -/
theorem left_padded_reads_earlier :
    leftPadded.length = [positions, positions].length ∧
      (∀ mask ∈ leftPadded, ∀ j, mask j = 0 ∨ mask j = 1) ∧ (∀ mask ∈ leftPadded, (attended mask).Nonempty) ∧
      lastTokenPool [positions, positions] leftPadded = .ok [fun _ => 2, fun _ => 1] ∧
      ∃ rows, lastTokenPool [positions, positions] leftPadded = .ok rows ∧
        List.Forall₂ (fun row (pair : (Fin 3 → Fin 1 → Nat) × (Fin 3 → Int)) =>
          ∃ read : Fin 3, (read : Nat) + 1 = (attended pair.2).card ∧ row = pair.1 read ∧
            ((read ∈ attended pair.2 ∧ ∀ j ∈ attended pair.2, j ≤ read) ↔
              ∀ j, j ∈ attended pair.2 ↔ (j : Nat) < (attended pair.2).card))
          rows ([positions, positions].zip leftPadded) := by
  have binary : ∀ mask ∈ leftPadded, ∀ j, mask j = 0 ∨ mask j = 1 := by decide
  have nonempty : ∀ mask ∈ leftPadded, (attended mask).Nonempty := by
    simp only [leftPadded, List.mem_cons, List.mem_singleton, List.not_mem_nil, or_false,
      forall_eq_or_imp, forall_eq]
    exact ⟨⟨2, by decide⟩, ⟨2, by decide⟩⟩
  exact ⟨rfl, binary, nonempty, rfl, last_token_reads_count [positions, positions] leftPadded rfl binary nonempty⟩

end AkidbEmbedding.Scripts
