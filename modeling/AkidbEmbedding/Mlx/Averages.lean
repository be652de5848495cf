import AkidbEmbedding.Mlx.Inference

/-!
# What mean pooling computes

Without normalisation, `embed(texts, pooling="mean")` returns for each text the
average of the hidden vectors at the text's first `k` positions, `k` being the
length of its encoding cut to the 512 positions of a row. The mask `tokenize`
builds attends exactly those positions, and the clamp `1e-9` under the mask sum
acts only on a row that attends none, whose average is then the zero vector; the
divisor is never zero. The statements are in exact arithmetic, over every
ordered field, and about every network: row `i` of the hidden states is whatever
the network returns for the batch.
-/

namespace AkidbEmbedding.Mlx

open AkidbEmbedding.Python AkidbEmbedding.Pooling

variable {R : Type} [LinearOrderedField R] {s h : Nat}

/-- The average of a row's hidden vectors at its first `count` positions; the
zero vector when `count` is zero. -/
def prefixMean (hidden : Fin s → Fin h → R) (count : Nat) : Fin h → R :=
  fun d => if count = 0 then 0
    else (∑ j ∈ Finset.univ.filter (fun j : Fin s => (j : Nat) < count), hidden j d) / count

/-- A row of `s` positions has `min(count, s)` positions below `count`. -/
theorem card_filter_lt (count : Nat) :
    (Finset.univ.filter fun j : Fin s => (j : Nat) < count).card = min count s := by
  have positions : (Finset.univ.filter fun j : Fin s => (j : Nat) < count).map Fin.valEmbedding =
      Finset.range (min count s) := by
    ext x
    simp only [Finset.mem_map, Finset.mem_filter, Finset.mem_univ, true_and, Fin.valEmbedding_apply,
      Finset.mem_range, Nat.lt_min]
    constructor
    · rintro ⟨j, below, rfl⟩
      exact ⟨below, j.isLt⟩
    · rintro ⟨below, inside⟩
      exact ⟨⟨x, inside⟩, below, rfl⟩
  rw [← Finset.card_map, positions, Finset.card_range]

/-- A tokenized mask row attends exactly the text's first `min(len, s)` positions. -/
theorem attended_eq (tokenIds : List Int) (pad : Option Int) :
    (Finset.univ.filter fun j : Fin s => (tokenizeRow tokenIds pad s).2.getD j 0 = 1) =
      Finset.univ.filter fun j : Fin s => (j : Nat) < min tokenIds.length s := by
  ext j
  simp only [Finset.mem_filter, Finset.mem_univ, true_and, maskRow_getD tokenIds pad s j j.isLt]
  split_ifs with below <;> simp [below]

/-- A pooled row under a tokenized mask is the average of the text's first
`min(len, s)` hidden vectors. -/
theorem meanRow_tokenized (hidden : Fin s → Fin h → R) (tokenIds : List Int) (pad : Option Int) :
    meanRow hidden (fun j => (tokenizeRow tokenIds pad s).2.getD j 0) =
      prefixMean hidden (min tokenIds.length s) := by
  rw [meanRow_eq_maskedMean hidden _ (maskRow_binary tokenIds pad s)]
  funext d
  simp only [maskedMean, prefixMean, attended_eq, card_filter_lt, min_eq_left (min_le_right _ _)]

/-- The divisor of a tokenized mask row: the number `k = min(len, s)` of the
text's positions, or the clamp when `k = 0`. -/
theorem sumMask_tokenized (tokenIds : List Int) (pad : Option Int) :
    (sumMask (fun j : Fin s => (tokenizeRow tokenIds pad s).2.getD j 0) : R) =
      if min tokenIds.length s = 0 then maskFloor else ((min tokenIds.length s : Nat) : R) := by
  rw [sumMask_eq _ (maskRow_binary tokenIds pad s), attended_eq, card_filter_lt,
    min_eq_left (min_le_right _ _)]

variable [SquareRoot R] (m : MLXEmbeddingModel R)

/-- `embed` under mean pooling without normalisation, on a non-empty batch: the
tokenized batch's hidden rows, each averaged over its own text's first positions. -/
theorem embed_mean_eq (texts : List String) (nonempty : texts ≠ []) :
    m.embed texts "mean" false = (m.tokenize texts 512).map fun batch =>
      List.zipWith (fun hidden text => prefixMean hidden (min (m.tokenizer.encode text).length 512))
        (m.model.forward 512 batch.inputIds) texts := by
  rw [embed_ne_nil m texts nonempty]
  cases tokenized : m.tokenize texts 512 with
  | error e => rfl
  | ok batch =>
    simp only [bind, Except.bind, pool, if_true, tokenize_mask m texts 512 batch tokenized, meanPooling,
      List.zipWith_map_right, meanRow_tokenized, pure, Except.pure, Except.map, Bool.false_eq_true,
      if_false]

/-- Under mean pooling without normalisation, `embed` returns exactly when the
batch is not empty and `tokenize` returns, and then its row for each text is the
average of the hidden vectors at the text's first `k = min(len, 512)` positions,
the zero vector when `k = 0`. The mask sum each row is divided by is `k`, or the
clamp `1e-9` when `k = 0`, so it is never zero. -/
theorem mean_rows_average (texts : List String) :
    ((∃ embeddings, m.embed texts "mean" false = .ok embeddings) ↔ texts ≠ [] ∧
      (m.tokenizer.eosTokenId.isSome ∨ ∀ text ∈ texts, 512 ≤ (m.tokenizer.encode text).length)) ∧
    ∀ embeddings, m.embed texts "mean" false = .ok embeddings →
      ∃ batch, m.tokenize texts 512 = .ok batch ∧
        embeddings = List.zipWith
          (fun hidden text => prefixMean hidden (min (m.tokenizer.encode text).length 512))
          (m.model.forward 512 batch.inputIds) texts ∧
        List.Forall₂ (fun mask text => sumMask mask =
            (if min (m.tokenizer.encode text).length 512 = 0 then maskFloor
              else ((min (m.tokenizer.encode text).length 512 : Nat) : R)) ∧ (0 : R) < sumMask mask)
          batch.attentionMask texts := by
  by_cases empty : texts = []
  · subst empty
    have raised : ∀ embeddings, m.embed [] "mean" false ≠ .ok embeddings := fun _ returned =>
      nomatch (embed_nil m "mean" false).symm.trans returned
    exact ⟨iff_of_false (fun ⟨_, returned⟩ => raised _ returned) fun ⟨nonempty, _⟩ => nonempty rfl,
      fun embeddings returned => absurd returned (raised embeddings)⟩
  rw [embed_mean_eq m texts empty, tokenize_eq]
  split_ifs with fits
  · refine ⟨iff_of_true ⟨_, rfl⟩ ⟨empty, fits⟩, fun embeddings returned =>
      ⟨_, rfl, (Except.ok.inj returned).symm, ?_⟩⟩
    rw [List.forall₂_map_left_iff, List.forall₂_same]
    exact fun text _ => ⟨sumMask_tokenized _ _, sumMask_pos _⟩
  · exact ⟨iff_of_false (fun ⟨_, raised⟩ => nomatch raised) fun ⟨_, fitting⟩ => fits fitting,
      fun _ raised => nomatch raised⟩

/-- On the length model one text embeds, under mean pooling, to the average of
its one attended hidden vector, divided by the one position it attends. -/
theorem length_text_mean_row :
    ∃ embeddings, lengthModel.embed ["a"] "mean" false = .ok embeddings ∧
      ∃ batch, lengthModel.tokenize ["a"] 512 = .ok batch ∧
        embeddings = List.zipWith
          (fun hidden text => prefixMean hidden (min (lengthModel.tokenizer.encode text).length 512))
          (lengthModel.model.forward 512 batch.inputIds) ["a"] ∧
        List.Forall₂ (fun mask text => sumMask mask =
            (if min (lengthModel.tokenizer.encode text).length 512 = 0 then maskFloor
              else ((min (lengthModel.tokenizer.encode text).length 512 : Nat) : ℝ)) ∧ (0 : ℝ) < sumMask mask)
          batch.attentionMask ["a"] :=
  let average := mean_rows_average lengthModel ["a"]
  let ⟨embeddings, returned⟩ := average.1.mpr ⟨List.cons_ne_nil _ _, Or.inl rfl⟩
  ⟨embeddings, returned, average.2 embeddings returned⟩

end AkidbEmbedding.Mlx
