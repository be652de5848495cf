import AkidbEmbedding.Mlx.Inference

/-!
# What `normalize=True` guarantees

The MLX engine divides each pooled vector by its norm clamped at `1e-12`. In
exact arithmetic the result has norm one whenever the pooled vector is at least
that long. Mean pooling does not always deliver such a vector: a text whose
encoding is empty gets a mask row of zeros, the `1e-9` clamp turns its mean into
the zero vector, and the norm clamp keeps it zero. First-position pooling reads
a hidden vector and is not affected.

The module assumes of the network (`LongMeans`) that every mean of a non-empty
set of hidden vectors of one row is at least the clamp long; every theorem
below that speaks of norms takes that assumption.
-/

namespace AkidbEmbedding.Mlx

open AkidbEmbedding.Python AkidbEmbedding.Pooling

/-- Every mean of a non-empty set of hidden vectors of one row, single vectors
included, is at least the norm clamp long. -/
def LongMeans (m : MLXEmbeddingModel ℝ) : Prop :=
  ∀ seq (inputIds : List (Fin seq → Int)), ∀ hidden ∈ m.model.forward seq inputIds,
    ∀ positions : Finset (Fin seq), positions.Nonempty →
      normFloor ≤ Real.sqrt (∑ k, ((∑ j ∈ positions, hidden j k) / positions.card) ^ 2)

/-- A vector of a zipped batch comes from one row of each list. -/
theorem mem_zipWith_map {α β γ δ : Type} (f : β → γ → δ) (g : α → γ) (ys : List β)
    (xs : List α) {v : δ} (member : v ∈ List.zipWith f ys (xs.map g)) :
    ∃ y ∈ ys, ∃ x ∈ xs, v = f y (g x) := by
  induction ys generalizing xs with
  | nil => simp at member
  | cons y ys inductionHypothesis =>
    cases xs with
    | nil => simp at member
    | cons x xs =>
      rcases List.mem_cons.mp member with rfl | later
      · exact ⟨y, List.mem_cons_self y ys, x, List.mem_cons_self x xs, rfl⟩
      · obtain ⟨y', inYs, x', inXs, rfl⟩ := inductionHypothesis xs later
        exact ⟨y', List.mem_cons_of_mem y inYs, x', List.mem_cons_of_mem x inXs, rfl⟩

/-- Paired with the texts, a zipped vector is built from its own text's row. -/
theorem mem_zip_zipWith_map {α β γ δ : Type} (f : β → γ → δ) (g : α → γ) (ys : List β)
    (xs : List α) {x : α} {v : δ} (member : (x, v) ∈ xs.zip (List.zipWith f ys (xs.map g))) :
    ∃ y ∈ ys, v = f y (g x) := by
  induction ys generalizing xs with
  | nil => simp at member
  | cons y ys inductionHypothesis =>
    cases xs with
    | nil => simp at member
    | cons x' xs =>
      rcases List.mem_cons.mp member with same | later
      · obtain ⟨rfl, rfl⟩ := Prod.mk.inj same
        exact ⟨y, List.mem_cons_self y ys, rfl⟩
      · obtain ⟨y', inYs, rfl⟩ := inductionHypothesis xs later
        exact ⟨y', List.mem_cons_of_mem y inYs, rfl⟩

variable (m : MLXEmbeddingModel ℝ)

/-- A text's mask row in `embed`. -/
def MLXEmbeddingModel.maskOf (text : String) : Fin 512 → Int :=
  fun j => (tokenizeRow (m.tokenizer.encode text) m.tokenizer.eosTokenId 512).2.getD j 0

/-- A text's mean-pooled row, normalised, is the zero vector when its encoding
is empty and has norm one otherwise. -/
theorem normalized_mean_row (large : LongMeans m) (inputIds : List (Fin 512 → Int))
    (hidden : Fin 512 → Fin m.model.width → ℝ) (computed : hidden ∈ m.model.forward 512 inputIds)
    (text : String) :
    (m.tokenizer.encode text = [] → normalizeRow (meanRow hidden (m.maskOf text)) = 0) ∧
      (m.tokenizer.encode text ≠ [] →
        Real.sqrt (∑ k, normalizeRow (meanRow hidden (m.maskOf text)) k ^ 2) = 1) := by
  have binary : ∀ j, m.maskOf text j = 0 ∨ m.maskOf text j = 1 := maskRow_binary _ _ 512
  have attended := attended_nonempty_iff (m.tokenizer.encode text) m.tokenizer.eosTokenId
    (by norm_num : 0 < 512)
  rw [meanRow_eq_maskedMean hidden _ binary]
  constructor
  · intro empty
    have none : (Finset.univ.filter fun j => m.maskOf text j = 1) = ∅ :=
      Finset.not_nonempty_iff_eq_empty.mp fun some => attended.mp some empty
    have zero : maskedMean hidden (m.maskOf text) = 0 := by
      funext k
      simp only [maskedMean, none, Finset.card_empty, ↓reduceIte, Pi.zero_apply]
    rw [zero, normalizeRow_zero]
  · intro present
    have some := attended.mpr present
    have positive : (Finset.univ.filter fun j => m.maskOf text j = 1).card ≠ 0 :=
      (Finset.card_pos.mpr some).ne'
    have mean : maskedMean hidden (m.maskOf text) = fun k =>
        (∑ j ∈ Finset.univ.filter (fun j => m.maskOf text j = 1), hidden j k) /
          (Finset.univ.filter fun j => m.maskOf text j = 1).card := by
      funext k
      simp only [maskedMean, positive, ↓reduceIte]
    rw [mean]
    exact normalizeRow_norm _ (large 512 inputIds hidden computed _ some)

/-- A first-position row, normalised, has norm one. -/
theorem normalized_first_row (large : LongMeans m) (inputIds : List (Fin 512 → Int))
    (hidden : Fin 512 → Fin m.model.width → ℝ) (computed : hidden ∈ m.model.forward 512 inputIds) :
    Real.sqrt (∑ k, normalizeRow (hidden ⟨0, by norm_num⟩) k ^ 2) = 1 := by
  apply normalizeRow_norm
  simpa using large 512 inputIds hidden computed {⟨0, by norm_num⟩} (Finset.singleton_nonempty _)

/-- The rows `embed` pools: each hidden row with its own text's mask under mean
pooling, each hidden row's first position otherwise. -/
theorem embed_pooled (pooling : String) (known : KnownPooling pooling) (texts : List String)
    (embeddings : List (Fin m.model.width → ℝ))
    (returned : m.embed texts pooling true = .ok embeddings) :
    ∃ inputIds : List (Fin 512 → Int), inputIds.length = texts.length ∧
      embeddings = l2Normalize (if pooling = "mean"
      then List.zipWith meanRow (m.model.forward 512 inputIds) (texts.map m.maskOf)
      else (m.model.forward 512 inputIds).map fun hidden => hidden ⟨0, by norm_num⟩) := by
  obtain ⟨batch, tokenized, pooled, pooledValue, rfl⟩ :=
    embed_returned m texts pooling true embeddings returned
  rw [pool_known pooling known (by norm_num : 0 < 512), tokenize_mask m texts 512 batch tokenized]
    at pooledValue
  cases pooledValue
  exact ⟨batch.inputIds, tokenize_length m texts 512 batch tokenized, rfl⟩

/-- With normalisation every returned vector has norm exactly one, except that
mean pooling returns the zero vector for a text whose encoding is empty, and for
no other text. -/
theorem embed_normalized_norms (large : LongMeans m) (pooling : String)
    (known : KnownPooling pooling) (texts : List String) (embeddings : List (Fin m.model.width → ℝ))
    (returned : m.embed texts pooling true = .ok embeddings) :
    (∀ v ∈ embeddings, Real.sqrt (∑ k, v k ^ 2) = 1 ∨ (pooling = "mean" ∧ v = 0)) ∧
      ∀ pair ∈ texts.zip embeddings, pooling = "mean" →
        (pair.2 = 0 ↔ m.tokenizer.encode pair.1 = []) := by
  obtain ⟨inputIds, -, rfl⟩ := embed_pooled m pooling known texts embeddings returned
  rcases known with rfl | rfl
  · rw [if_pos rfl]
    refine ⟨fun v member => ?_, fun pair member _ => ?_⟩
    · obtain ⟨pooled, inPooled, rfl⟩ := List.mem_map.mp member
      obtain ⟨hidden, computed, text, -, rfl⟩ := mem_zipWith_map _ _ _ _ inPooled
      obtain ⟨emptyZero, presentUnit⟩ := normalized_mean_row m large inputIds hidden computed text
      by_cases empty : m.tokenizer.encode text = []
      · exact .inr ⟨rfl, emptyZero empty⟩
      · exact .inl (presentUnit empty)
    · rw [l2Normalize, List.zip_map_right, List.mem_map] at member
      obtain ⟨⟨text, pooled⟩, paired, rfl⟩ := member
      obtain ⟨hidden, computed, rfl⟩ := mem_zip_zipWith_map _ _ _ _ paired
      obtain ⟨emptyZero, presentUnit⟩ := normalized_mean_row m large inputIds hidden computed text
      refine ⟨fun zero => ?_, emptyZero⟩
      by_contra present
      have unit := presentUnit present
      rw [show normalizeRow (meanRow hidden (m.maskOf text)) = 0 from zero] at unit
      simp at unit
  · simp only [show ("cls" = "mean") = False from by decide, if_false, l2Normalize, List.mem_map]
    refine ⟨?_, fun _ _ wrong => absurd wrong (by decide)⟩
    rintro v ⟨first, ⟨hidden, computed, rfl⟩, rfl⟩
    exact .inl (normalized_first_row m large inputIds hidden computed)

/-- A one-wide network whose every hidden value is one, under the given tokenizer. -/
def onesModel (tokenizer : Tokenizer) : MLXEmbeddingModel ℝ where
  modelPath := "ones"
  config := .dict []
  hiddenSize := .int 1
  numHiddenLayers := .int 1
  vocabSize := .int 1
  model := ⟨1, fun _ inputIds => inputIds.map fun _ _ _ => 1⟩
  tokenizer := tokenizer

/-- The all-ones network meets the assumption whatever its tokenizer: every mean
of its hidden vectors is the vector of ones. -/
theorem onesModel_longMeans (tokenizer : Tokenizer) : LongMeans (onesModel tokenizer) := by
  intro seq inputIds hidden computed positions nonempty
  obtain ⟨row, -, rfl⟩ := List.mem_map.mp computed
  have count : (positions.card : ℝ) ≠ 0 := by exact_mod_cast (Finset.card_pos.mpr nonempty).ne'
  show normFloor ≤ Real.sqrt (∑ _k : Fin 1, ((∑ _j ∈ positions, (1 : ℝ)) / positions.card) ^ 2)
  simp only [Finset.sum_const, nsmul_eq_mul, mul_one, div_self count, one_pow,
    Finset.card_univ, Fintype.card_fin, Nat.cast_one, Real.sqrt_one]
  unfold normFloor
  norm_num

/-- The all-ones network under a tokenizer that encodes every text to nothing
and pads with zero. -/
def blankModel : MLXEmbeddingModel ℝ := onesModel ⟨fun _ => [], some 0⟩

/-- The blank network meets the assumption. -/
theorem blankModel_longMeans : LongMeans blankModel := onesModel_longMeans _

/-- The blank network embeds the empty text to the zero vector. -/
theorem blankModel_embeds_empty : blankModel.embed [""] "mean" true = .ok [0] := by
  obtain ⟨embeddings, returned⟩ :=
    embed_ok blankModel 0 rfl [""] (List.cons_ne_nil _ _) "mean" (Or.inl rfl) true
  obtain ⟨inputIds, single, same⟩ :=
    embed_pooled blankModel "mean" (Or.inl rfl) [""] embeddings returned
  obtain ⟨ids, rfl⟩ : ∃ ids, inputIds = [ids] := List.length_eq_one.mp single
  obtain ⟨emptyZero, -⟩ := normalized_mean_row blankModel blankModel_longMeans [ids]
    (fun _ _ => 1) (List.mem_singleton_self _) ""
  rw [returned, same, if_pos rfl,
    show blankModel.model.forward 512 [ids] = [fun _ _ => 1] from rfl]
  simp only [List.map_cons, List.map_nil, List.zipWith_cons_cons, List.zipWith_nil_left, l2Normalize]
  rw [emptyZero rfl]

/-- Under mean pooling with normalisation the empty text embeds to the zero
vector, of norm zero, although the network meets the premise. -/
theorem blank_text_embeds_to_zero :
    LongMeans blankModel ∧ blankModel.embed [""] "mean" true = .ok [0] ∧
      Real.sqrt (∑ k : Fin 1, (0 : Fin 1 → ℝ) k ^ 2) ≠ 1 :=
  ⟨blankModel_longMeans, blankModel_embeds_empty, by simp⟩

/-- The all-ones network under a tokenizer that encodes a text as one id per
character and pads with zero. -/
def lettersModel : MLXEmbeddingModel ℝ := onesModel ⟨fun text => text.toList.map fun _ => 1, some 0⟩

/-- On a batch of the empty text and a one-letter text the normalised norms are
as stated: the empty text's vector is zero, and the other is not and has norm one. -/
theorem mixed_norms_as_stated :
    LongMeans lettersModel ∧ KnownPooling "mean" ∧ ∃ embeddings,
      lettersModel.embed ["", "a"] "mean" true = .ok embeddings ∧
      (∀ v ∈ embeddings, Real.sqrt (∑ k, v k ^ 2) = 1 ∨ ("mean" = "mean" ∧ v = 0)) ∧
        ∀ pair ∈ ["", "a"].zip embeddings, "mean" = "mean" →
          (pair.2 = 0 ↔ lettersModel.tokenizer.encode pair.1 = []) :=
  let ⟨embeddings, returned⟩ :=
    embed_ok lettersModel 0 rfl ["", "a"] (List.cons_ne_nil _ _) "mean" (Or.inl rfl) true
  ⟨onesModel_longMeans _, Or.inl rfl, embeddings, returned,
    embed_normalized_norms lettersModel (onesModel_longMeans _) "mean" (Or.inl rfl) ["", "a"]
      embeddings returned⟩

end AkidbEmbedding.Mlx
