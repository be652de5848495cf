import Mathlib
import AkidbEmbedding.Python

/-!
# Pooling and normalisation, as both backends compute them

A batch of hidden states is a list with one entry per input, each a
`[seq, width]` array. Its sequence and feature axes are `Fin` indices, so an
array always has the shape it claims, also when an axis has length zero. The
scalars form an ordered field: the statements about pooling are made in exact
arithmetic, which is the only arithmetic in which the two backends can be
compared without fixing a float format.

`meanPooling`, `clsPooling` and `l2Normalize` are `MLXEmbeddingModel`'s private
methods; `onnxMeanPooling` and `onnxNormalize` are the numpy steps inlined in
`ONNXEmbeddingServer.embed_batch`. They place their clamps differently: MLX casts
the mask to the hidden dtype before summing it, numpy sums the integer mask and
clips the sum; MLX squares and square-roots, numpy calls `linalg.norm`.
-/

namespace AkidbEmbedding.Pooling

open AkidbEmbedding.Python

/-- The element-wise square root of the array library. Exact statements use the
real square root; nothing else about it is assumed by the definitions. -/
class SquareRoot (R : Type) where
  sqrt : R → R

/-- The real square root, for statements in exact arithmetic. -/
noncomputable instance : SquareRoot ℝ := ⟨Real.sqrt⟩

variable {R : Type} [LinearOrderedField R] {s h : Nat}

/-- The clamp `1e-9` under a mask sum. -/
def maskFloor : R := 1 / 10 ^ 9

/-- The clamp `1e-12` under a norm. -/
def normFloor : R := 1 / 10 ^ 12

/-- The divisor `sum_mask` of one row of `_mean_pooling`: the mask cast to the
hidden dtype, summed over the sequence and clamped with
`mx.maximum(sum_mask, 1e-9)`. -/
def sumMask (mask : Fin s → Int) : R := max (∑ j, (mask j : R)) maskFloor

/-- One row of `_mean_pooling`: the masked hidden vectors summed over the
sequence, divided by `sum_mask`. -/
def meanRow (hidden : Fin s → Fin h → R) (mask : Fin s → Int) : Fin h → R :=
  fun k => (∑ j, hidden j k * (mask j : R)) / sumMask mask

/-- `MLXEmbeddingModel._mean_pooling(hidden_states, attention_mask)`. -/
def meanPooling (hiddenStates : List (Fin s → Fin h → R))
    (attentionMask : List (Fin s → Int)) : List (Fin h → R) :=
  List.zipWith meanRow hiddenStates attentionMask

/-- `MLXEmbeddingModel._cls_pooling`: `hidden_states[:, 0, :]`, which has no
position to read when the sequence axis is empty. -/
def clsPooling (hiddenStates : List (Fin s → Fin h → R)) : Except PyError (List (Fin h → R)) :=
  if nonempty : 0 < s then .ok (hiddenStates.map fun hidden => hidden ⟨0, nonempty⟩)
  else .error ⟨"IndexError", "index 0 is out of bounds for axis 1 with size 0"⟩

/-- One row of `_l2_normalize`: `sqrt(sum(e ** 2))`, clamped at `1e-12`. -/
def normalizeRow [SquareRoot R] (embedding : Fin h → R) : Fin h → R :=
  let norms := max (SquareRoot.sqrt (∑ k, embedding k ^ 2)) normFloor
  fun k => embedding k / norms

/-- `MLXEmbeddingModel._l2_normalize(embeddings)`. -/
def l2Normalize [SquareRoot R] (embeddings : List (Fin h → R)) : List (Fin h → R) :=
  embeddings.map normalizeRow

/-- One row of the server's pooling: `np.sum(hidden * mask[..., None], axis=1)`
over `np.clip(mask.sum(axis=1), 1e-9)`, the integer mask summed first. -/
def onnxMeanRow (hidden : Fin s → Fin h → R) (mask : Fin s → Int) : Fin h → R :=
  let sumMask : R := max ((∑ j, mask j : Int) : R) maskFloor
  fun k => (∑ j, hidden j k * (mask j : R)) / sumMask

/-- The server's mean pooling, `onnx_server.py` lines 211-216. -/
def onnxMeanPooling (hiddenStates : List (Fin s → Fin h → R))
    (attentionMask : List (Fin s → Int)) : List (Fin h → R) :=
  List.zipWith onnxMeanRow hiddenStates attentionMask

/-- One row of the server's normalisation: `np.linalg.norm`, the square root of
`x * x` summed, clipped at `1e-12`. -/
def onnxNormalizeRow [SquareRoot R] (embedding : Fin h → R) : Fin h → R :=
  let norms := max (SquareRoot.sqrt (∑ k, embedding k * embedding k)) normFloor
  fun k => embedding k / norms

/-- The server's normalisation, `onnx_server.py` lines 219-222. -/
def onnxNormalize [SquareRoot R] (embeddings : List (Fin h → R)) : List (Fin h → R) :=
  embeddings.map onnxNormalizeRow

/-- The average the specification names: hidden vectors at the positions whose
mask is one, divided by their number; the zero vector when there are none. -/
def maskedMean (hidden : Fin s → Fin h → R) (mask : Fin s → Int) : Fin h → R :=
  let attended := Finset.univ.filter fun j => mask j = 1
  fun k => if attended.card = 0 then 0 else (∑ j ∈ attended, hidden j k) / attended.card

/-- The clamp under a mask sum is positive. -/
theorem maskFloor_pos : (0 : R) < maskFloor := by
  unfold maskFloor; positivity

/-- The clamp under a norm is positive. -/
theorem normFloor_pos : (0 : R) < normFloor := by
  unfold normFloor; positivity

/-- The clamp under a mask sum is below one attended position. -/
theorem maskFloor_lt_one : (maskFloor : R) < 1 := by
  unfold maskFloor; norm_num

/-- The clamp keeps every divisor of the mean pooling positive. -/
theorem sumMask_pos (mask : Fin s → Int) : (0 : R) < sumMask mask :=
  lt_max_of_lt_right maskFloor_pos

/-- Casting the mask before or after summing it gives one clamped sum, so the
two pooling rows agree on every mask. -/
theorem meanRow_eq_onnxMeanRow (hidden : Fin s → Fin h → R) (mask : Fin s → Int) :
    meanRow hidden mask = onnxMeanRow hidden mask := by
  funext k
  simp only [meanRow, sumMask, onnxMeanRow, Int.cast_sum]

/-- `x ^ 2` and `x * x` are one square, so the two normalisations agree. -/
theorem normalizeRow_eq_onnxNormalizeRow [SquareRoot R] (embedding : Fin h → R) :
    normalizeRow embedding = onnxNormalizeRow embedding := by
  simp only [normalizeRow, onnxNormalizeRow, sq]

/-- On a zero-one mask the masked sum is the sum over the attended positions. -/
theorem masked_sum_eq (hidden : Fin s → Fin h → R) (mask : Fin s → Int)
    (binary : ∀ j, mask j = 0 ∨ mask j = 1) (k : Fin h) :
    ∑ j, hidden j k * (mask j : R) = ∑ j ∈ Finset.univ.filter (fun j => mask j = 1), hidden j k := by
  rw [Finset.sum_filter]
  refine Finset.sum_congr rfl fun j _ => ?_
  rcases binary j with bit | bit <;> simp [bit]

/-- On a zero-one mask the mask sum counts the attended positions. -/
theorem mask_sum_eq (mask : Fin s → Int) (binary : ∀ j, mask j = 0 ∨ mask j = 1) :
    ∑ j, (mask j : R) = ((Finset.univ.filter fun j => mask j = 1).card : R) := by
  rw [Finset.card_filter, Nat.cast_sum]
  refine Finset.sum_congr rfl fun j _ => ?_
  rcases binary j with bit | bit <;> simp [bit]

/-- On a zero-one mask the divisor is the number of attended positions, or the
clamp when there is none. -/
theorem sumMask_eq (mask : Fin s → Int) (binary : ∀ j, mask j = 0 ∨ mask j = 1) :
    (sumMask mask : R) = if (Finset.univ.filter fun j => mask j = 1).card = 0 then maskFloor
      else ((Finset.univ.filter fun j => mask j = 1).card : R) := by
  rw [sumMask, mask_sum_eq mask binary]
  split_ifs with empty
  · rw [empty, Nat.cast_zero, max_eq_right maskFloor_pos.le]
  · exact max_eq_left (maskFloor_lt_one.le.trans (Nat.one_le_cast.mpr (Nat.one_le_iff_ne_zero.mpr empty)))

/-- With a zero-one mask, one pooled row is the masked mean: the clamp is
inactive when a position is attended, and divides a zero sum otherwise. -/
theorem meanRow_eq_maskedMean (hidden : Fin s → Fin h → R) (mask : Fin s → Int)
    (binary : ∀ j, mask j = 0 ∨ mask j = 1) : meanRow hidden mask = maskedMean hidden mask := by
  funext k
  simp only [meanRow, maskedMean, masked_sum_eq hidden mask binary, sumMask_eq mask binary]
  by_cases empty : (Finset.univ.filter fun j => mask j = 1).card = 0
  · rw [if_pos empty, if_pos empty, Finset.card_eq_zero.mp empty, Finset.sum_empty, zero_div]
  · rw [if_neg empty, if_neg empty]

/-- The zero vector normalises to itself: the clamp keeps the divisor positive. -/
theorem normalizeRow_zero [SquareRoot R] : normalizeRow (0 : Fin h → R) = 0 :=
  funext fun _ => zero_div _

/-- The real square root is the one the exact statements use. -/
@[simp] theorem sqrt_real (x : ℝ) : SquareRoot.sqrt x = Real.sqrt x := rfl

/-- A vector at least the clamp long normalises to norm exactly one: the clamp
is inactive and the squares sum to the squared norm. -/
theorem normalizeRow_norm (embedding : Fin h → ℝ)
    (large : normFloor ≤ Real.sqrt (∑ k, embedding k ^ 2)) :
    Real.sqrt (∑ k, normalizeRow embedding k ^ 2) = 1 := by
  have positive : 0 < Real.sqrt (∑ k, embedding k ^ 2) := normFloor_pos.trans_le large
  have squared : Real.sqrt (∑ k, embedding k ^ 2) ^ 2 = ∑ k, embedding k ^ 2 :=
    Real.sq_sqrt (by positivity)
  simp only [normalizeRow, sqrt_real, max_eq_left large, div_pow, ← Finset.sum_div, squared]
  rw [div_self (squared ▸ (pow_pos positive 2).ne'), Real.sqrt_one]

/-- Row-wise agreement of two row functions carries over to their zipped batches
when the agreement is only known on the rows of the second list. -/
theorem zipWith_congr_right {α β γ : Type} (f g : α → β → γ) (left : List α) (right : List β)
    (agree : ∀ b ∈ right, ∀ a, f a b = g a b) : List.zipWith f left right = List.zipWith g left right := by
  induction left generalizing right with
  | nil => rfl
  | cons a rest inductionHypothesis =>
    cases right with
    | nil => rfl
    | cons b tail =>
      simp only [List.zipWith_cons_cons, agree b (List.mem_cons_self b tail) a,
        inductionHypothesis tail fun b' member => agree b' (List.mem_cons_of_mem b member)]

/-- The two backends pool and normalise alike in exact arithmetic. On every
batch and mask the MLX mean pooling is the server's pooling; on a zero-one mask
both are the masked mean, the zero vector where no position is attended; and the
two normalisations agree on every matrix, whatever square root the arrays use. -/
theorem backends_pool_alike [SquareRoot R] (hiddenStates : List (Fin s → Fin h → R))
    (attentionMask : List (Fin s → Int)) (embeddings : List (Fin h → R))
    (binary : ∀ mask ∈ attentionMask, ∀ j, mask j = 0 ∨ mask j = 1) :
    meanPooling hiddenStates attentionMask = onnxMeanPooling hiddenStates attentionMask ∧
      meanPooling hiddenStates attentionMask = List.zipWith maskedMean hiddenStates attentionMask ∧
      l2Normalize embeddings = onnxNormalize embeddings := by
  refine ⟨?_, ?_, ?_⟩
  · exact zipWith_congr_right _ _ _ _ fun mask _ hidden => meanRow_eq_onnxMeanRow hidden mask
  · exact zipWith_congr_right _ _ _ _ fun mask member hidden =>
      meanRow_eq_maskedMean hidden mask (binary mask member)
  · exact List.map_congr_left fun embedding _ => normalizeRow_eq_onnxNormalizeRow embedding

/-- One real row with a padded position: the zero-one mask is accepted and the
backends agree on it. -/
theorem backends_pool_alike_on_padded_row :
    (∀ mask ∈ [fun j : Fin 2 => if j = 0 then (1 : Int) else 0], ∀ j, mask j = 0 ∨ mask j = 1) ∧
      meanPooling [fun (_ : Fin 2) (_ : Fin 1) => (2 : ℝ)] [fun j : Fin 2 => if j = 0 then 1 else 0] =
        onnxMeanPooling [fun (_ : Fin 2) (_ : Fin 1) => (2 : ℝ)] [fun j : Fin 2 => if j = 0 then 1 else 0] :=
  ⟨by decide, (backends_pool_alike _ _ ([] : List (Fin 1 → ℝ)) (by decide)).1⟩

end AkidbEmbedding.Pooling
