import AkidbEmbedding.Pooling

/-!
# The MLX inference engine

`MLXEmbeddingModel` reads `config.json`, has `mlx_lm.load` build the network
and its tokenizer, and embeds a batch in four steps: `tokenize` pads or
truncates every text to one fixed `max_length`, the inner network maps token
ids to hidden states, the hidden states are pooled by the mean or the first
position, and the pooled vectors are optionally L2-normalised.

The network and the tokenizer are what the loader returns; their behaviour is
data here. A tokenizer without an end-of-sequence token has `eos_token_id` of
`None`, and then a row that needs padding cannot become an int32 array. Token
ids are unbounded integers: the int32 conversion is exact for every vocabulary
the registry names.
-/

namespace AkidbEmbedding.Mlx

open AkidbEmbedding.Python AkidbEmbedding.Pooling

/-- The tokenizer `mlx_lm.load` returns: its `encode` and its `eos_token_id`. -/
structure Tokenizer where
  encode : String → List Int
  eosTokenId : Option Int

/-- The inner network `self.model.model`: hidden states of one width for every
`[batch, seq]` array of token ids. -/
structure Network (R : Type) where
  width : Nat
  forward : (seq : Nat) → List (Fin seq → Int) → List (Fin seq → Fin width → R)

/-- `mlx_lm.load` and the file reads of `MLXEmbeddingModel.__init__`. -/
structure Loader (R : Type) where
  readConfig : String → Except PyError Value
  load : String → Except PyError (Network R × Tokenizer)

/-- An initialised `MLXEmbeddingModel`: the config values it reads, with their
defaults, and the loaded network and tokenizer. -/
structure MLXEmbeddingModel (R : Type) where
  modelPath : String
  config : Value
  hiddenSize : Value
  numHiddenLayers : Value
  vocabSize : Value
  model : Network R
  tokenizer : Tokenizer

/-- A tokenized batch: ids and mask as `[batch, seq]` int32 arrays. -/
structure TokenBatch (seq : Nat) where
  inputIds : List (Fin seq → Int)
  attentionMask : List (Fin seq → Int)

variable {R : Type}

/-- `MLXEmbeddingModel.__init__`: `config.json` is read and its `hidden_size`,
`num_hidden_layers` and `vocab_size` taken with their defaults, then
`mlx_lm.load` builds the network. -/
def MLXEmbeddingModel.init (loader : Loader R) (modelPath : String) :
    Except PyError (MLXEmbeddingModel R) := do
  let config ← loader.readConfig (modelPath ++ "/config.json")
  let hiddenSize ← config.get "hidden_size" (.int 1024)
  let numHiddenLayers ← config.get "num_hidden_layers" (.int 28)
  let vocabSize ← config.get "vocab_size" (.int 151669)
  let (model, tokenizer) ← loader.load modelPath
  pure ⟨modelPath, config, hiddenSize, numHiddenLayers, vocabSize, model, tokenizer⟩

/-- One text's lists in `tokenize`: cut to `max_length` under an all-one mask,
or extended by the pad id under a mask of ones then zeros. -/
def tokenizeRow (tokenIds : List Int) (padTokenId : Option Int) (maxLength : Nat) :
    List (Option Int) × List Int :=
  let seqLen := tokenIds.length
  if seqLen > maxLength then
    ((tokenIds.take maxLength).map some, List.replicate maxLength 1)
  else
    let paddingLength := maxLength - seqLen
    if paddingLength > 0 then
      (tokenIds.map some ++ List.replicate paddingLength padTokenId,
        List.replicate seqLen 1 ++ List.replicate paddingLength 0)
    else (tokenIds.map some, List.replicate maxLength 1)

/-- One row of `mx.array(all_input_ids, dtype=mx.int32)`: a `None` pad has no
int32 value. -/
def int32Row (maxLength : Nat) (row : List (Option Int)) : Except PyError (Fin maxLength → Int) :=
  match row.mapM id with
  | some ids => .ok fun j => ids.getD j 0
  | none => .error ⟨"ValueError", "Invalid type NoneType received in array initialization."⟩

/-- `MLXEmbeddingModel.tokenize(texts, max_length)`: every text is encoded on
its own and every row gets exactly `max_length` entries. -/
def MLXEmbeddingModel.tokenize (m : MLXEmbeddingModel R) (texts : List String)
    (maxLength : Nat) : Except PyError (TokenBatch maxLength) := do
  let rows := texts.map fun text => tokenizeRow (m.tokenizer.encode text) m.tokenizer.eosTokenId maxLength
  let inputIds ← rows.mapM fun row => int32Row maxLength row.1
  pure ⟨inputIds, rows.map fun row j => row.2.getD j 0⟩

/-- The error of `batch_size, seq_len = input_ids.shape` on the `(0,)`-shaped
array `mx.array([])` of an empty batch. -/
def unpackError : PyError :=
  ⟨"ValueError", "not enough values to unpack (expected 2, got 1)"⟩

/-- `MLXEmbeddingModel.forward`: the shape is unpacked into two axes, which an
empty batch does not have, and the mask is accepted and not passed on. -/
def MLXEmbeddingModel.forward (m : MLXEmbeddingModel R) {seq : Nat}
    (inputIds : List (Fin seq → Int)) (_attentionMask : List (Fin seq → Int)) :
    Except PyError (List (Fin seq → Fin m.model.width → R)) :=
  if inputIds.isEmpty then .error unpackError else .ok (m.model.forward seq inputIds)

/-- A returned batch of `tokenize` carries each text's own mask row. -/
theorem tokenize_mask (m : MLXEmbeddingModel R) (texts : List String) (maxLength : Nat) (batch : TokenBatch maxLength)
    (tokenized : m.tokenize texts maxLength = .ok batch) :
    batch.attentionMask = texts.map fun text (j : Fin maxLength) =>
      (tokenizeRow (m.tokenizer.encode text) m.tokenizer.eosTokenId maxLength).2.getD j 0 := by
  unfold MLXEmbeddingModel.tokenize at tokenized
  cases converted : (texts.map fun text => tokenizeRow (m.tokenizer.encode text)
      m.tokenizer.eosTokenId maxLength).mapM (fun row => int32Row maxLength row.1) with
  | error e =>
    simp only [converted] at tokenized
    cases tokenized
  | ok inputIds =>
    simp only [converted] at tokenized
    cases tokenized
    simp [Function.comp_def]

/-- A row without `None` converts to int32 entry by entry. -/
theorem int32Row_some (maxLength : Nat) (ids : List Int) :
    int32Row maxLength (ids.map some) = .ok fun j => ids.getD j 0 := by
  have converted : (ids.map some).mapM id = some ids := by
    induction ids with
    | nil => rfl
    | cons token rest inductionHypothesis =>
      rw [List.map_cons, List.mapM_cons, inductionHypothesis]
      rfl
  unfold int32Row
  rw [converted]

/-- With an end-of-sequence id every padded row is a row of ints. -/
theorem tokenizeRow_ids (tokenIds : List Int) (pad : Int) (maxLength : Nat) :
    ∃ ids : List Int, (tokenizeRow tokenIds (some pad) maxLength).1 = ids.map some := by
  unfold tokenizeRow
  dsimp only
  split_ifs
  · exact ⟨tokenIds.take maxLength, rfl⟩
  · exact ⟨tokenIds ++ List.replicate (maxLength - tokenIds.length) pad, by simp⟩
  · exact ⟨tokenIds, rfl⟩

/-- A tokenizer with an end-of-sequence id never makes `tokenize` raise. -/
theorem tokenize_ok (m : MLXEmbeddingModel R) (pad : Int) (hasEos : m.tokenizer.eosTokenId = some pad)
    (texts : List String) (maxLength : Nat) : ∃ batch, m.tokenize texts maxLength = .ok batch := by
  have converted : ∀ rows : List (List (Option Int) × List Int),
      (∀ row ∈ rows, ∃ ids : List Int, row.1 = ids.map some) →
      ∃ inputIds, rows.mapM (fun row => int32Row maxLength row.1) = .ok inputIds := by
    intro rows padded
    induction rows with
    | nil => exact ⟨[], rfl⟩
    | cons row rest inductionHypothesis =>
      obtain ⟨ids, rowIds⟩ := padded row (List.mem_cons_self row rest)
      obtain ⟨restIds, restConverted⟩ :=
        inductionHypothesis fun row' member => padded row' (List.mem_cons_of_mem row member)
      exact ⟨_, by rw [List.mapM_cons, rowIds, int32Row_some, restConverted]; rfl⟩
  obtain ⟨inputIds, rowsConverted⟩ := converted (texts.map fun text =>
      tokenizeRow (m.tokenizer.encode text) m.tokenizer.eosTokenId maxLength) fun row member => by
    obtain ⟨text, _, rfl⟩ := List.mem_map.mp member
    rw [hasEos]
    exact tokenizeRow_ids _ pad maxLength
  exact ⟨_, by simp only [MLXEmbeddingModel.tokenize, rowsConverted]; rfl⟩

/-- A returned `mapM` in `Except` has one result per element. -/
theorem mapM_ok_length {α β ε : Type} (f : α → Except ε β) :
    ∀ (xs : List α) (ys : List β), xs.mapM f = .ok ys → ys.length = xs.length
  | [], ys, returned => by cases returned; rfl
  | x :: xs, ys, returned => by
    rw [List.mapM_cons] at returned
    cases first : f x with
    | error e => rw [first] at returned; cases returned
    | ok y =>
      cases rest : xs.mapM f with
      | error e => rw [first, rest] at returned; cases returned
      | ok zs =>
        rw [first, rest] at returned
        cases returned
        simp [mapM_ok_length f xs zs rest]

/-- A returned batch of `tokenize` has one row of ids per text. -/
theorem tokenize_length (m : MLXEmbeddingModel R) (texts : List String) (maxLength : Nat)
    (batch : TokenBatch maxLength) (tokenized : m.tokenize texts maxLength = .ok batch) :
    batch.inputIds.length = texts.length := by
  unfold MLXEmbeddingModel.tokenize at tokenized
  cases converted : (texts.map fun text => tokenizeRow (m.tokenizer.encode text)
      m.tokenizer.eosTokenId maxLength).mapM (fun row => int32Row maxLength row.1) with
  | error e =>
    simp only [converted] at tokenized
    cases tokenized
  | ok inputIds =>
    simp only [converted] at tokenized
    cases tokenized
    simpa using mapM_ok_length _ _ _ converted

section Rows

/-- A list of ones then zeros reads one before the boundary and zero after. -/
theorem ones_zeros_getD (ones zeros j : Nat) :
    (List.replicate ones (1 : Int) ++ List.replicate zeros 0).getD j 0 = if j < ones then 1 else 0 := by
  simp only [List.getD_eq_getElem?_getD]
  by_cases real : j < ones
  · rw [List.getElem?_append_left (by simpa using real)]; simp [real]
  · rw [List.getElem?_append_right (by simp; omega)]
    simp only [List.getElem?_replicate, List.length_replicate, real, if_false]
    split_ifs <;> rfl

/-- A text's mask row attends exactly its first `min(len, max_length)` positions. -/
theorem maskRow_getD (tokenIds : List Int) (pad : Option Int) (maxLength j : Nat)
    (inside : j < maxLength) :
    (tokenizeRow tokenIds pad maxLength).2.getD j 0 =
      if j < min tokenIds.length maxLength then 1 else 0 := by
  have whole : (List.replicate maxLength (1 : Int)).getD j 0 = 1 := by
    rw [List.getD_eq_getElem?_getD, List.getElem?_replicate, if_pos inside, Option.getD_some]
  unfold tokenizeRow
  dsimp only
  by_cases long : tokenIds.length > maxLength
  · rw [if_pos long, whole, if_pos (show j < min tokenIds.length maxLength by omega)]
  · rw [if_neg long]
    by_cases padded : maxLength - tokenIds.length > 0
    · rw [if_pos padded, ones_zeros_getD, Nat.min_eq_left (by omega)]
    · rw [if_neg padded, whole, if_pos (show j < min tokenIds.length maxLength by omega)]

/-- Every mask row `tokenize` builds is zero-one. -/
theorem maskRow_binary (tokenIds : List Int) (pad : Option Int) (maxLength : Nat)
    (j : Fin maxLength) :
    (tokenizeRow tokenIds pad maxLength).2.getD j 0 = 0 ∨
      (tokenizeRow tokenIds pad maxLength).2.getD j 0 = 1 := by
  rw [maskRow_getD tokenIds pad maxLength j j.isLt]
  split_ifs <;> simp

/-- A mask row attends some position exactly when the text's encoding is not
empty, the rows having at least one position. -/
theorem attended_nonempty_iff (tokenIds : List Int) (pad : Option Int) {maxLength : Nat}
    (positive : 0 < maxLength) :
    (Finset.univ.filter fun j : Fin maxLength =>
      (tokenizeRow tokenIds pad maxLength).2.getD j 0 = 1).Nonempty ↔ tokenIds ≠ [] := by
  constructor
  · rintro ⟨j, attended⟩ rfl
    rw [Finset.mem_filter, maskRow_getD [] pad maxLength j j.isLt, List.length_nil, Nat.zero_min,
      if_neg (Nat.not_lt_zero _)] at attended
    exact zero_ne_one attended.2
  · intro present
    have first : 0 < min tokenIds.length maxLength :=
      Nat.lt_min.mpr ⟨List.length_pos.mpr present, positive⟩
    refine ⟨⟨0, positive⟩, ?_⟩
    rw [Finset.mem_filter, maskRow_getD tokenIds pad maxLength 0 positive, if_pos first]
    exact ⟨Finset.mem_univ _, rfl⟩

end Rows

section Padding

/-- A traversal in `Except` over a mapped list, each of whose calls returns
`g x` or raises one error `e`, returns the mapped list when every call returns
and raises `e` otherwise. -/
theorem mapM_map_ok_or_error {α β γ ε : Type} (h : α → β) (f : β → Except ε γ) (g : α → γ)
    (c : α → Prop) [DecidablePred c] (e : ε)
    (each : ∀ x, f (h x) = if c x then .ok (g x) else .error e) :
    ∀ xs : List α, (xs.map h).mapM f = if ∀ x ∈ xs, c x then .ok (xs.map g) else .error e
  | [] => by rw [if_pos fun _ absent => nomatch absent]; rfl
  | x :: xs => by
    rw [List.map_cons, List.mapM_cons, each x, mapM_map_ok_or_error h f g c e each xs]
    by_cases first : c x
    · by_cases rest : ∀ y ∈ xs, c y
      · rw [if_pos first, if_pos rest, if_pos (List.forall_mem_cons.mpr ⟨first, rest⟩)]; rfl
      · rw [if_pos first, if_neg rest, if_neg fun all => rest (List.forall_mem_cons.mp all).2]; rfl
    · rw [if_neg first, if_neg fun all => first (List.forall_mem_cons.mp all).1]; rfl

/-- The error `mx.array` raises on a `None` pad. -/
def noneTypeError : PyError :=
  ⟨"ValueError", "Invalid type NoneType received in array initialization."⟩

/-- One text's int32 row: its ids, then the end-of-sequence id; it converts
unless a padded row has no end-of-sequence id to pad with. -/
theorem int32Row_tokenizeRow (tokenIds : List Int) (pad : Option Int) (maxLength : Nat) :
    int32Row maxLength (tokenizeRow tokenIds pad maxLength).1 =
      if pad.isSome ∨ maxLength ≤ tokenIds.length then
        .ok fun j => if (j : Nat) < tokenIds.length then tokenIds.getD j 0 else pad.getD 0
      else .error noneTypeError := by
  unfold tokenizeRow
  dsimp only
  split_ifs with long fits padded fits fits
  · rw [int32Row_some]
    congr 1
    funext j
    simp [show (j : Nat) < tokenIds.length by omega]
  · omega
  · obtain ⟨p, rfl⟩ := Option.isSome_iff_exists.mp (fits.resolve_right (by omega))
    rw [show tokenIds.map some ++ List.replicate (maxLength - tokenIds.length) (some p) =
      (tokenIds ++ List.replicate (maxLength - tokenIds.length) p).map some by simp, int32Row_some]
    congr 1
    funext j
    split_ifs with real
    · exact List.getD_append _ _ 0 j real
    · rw [List.getD_append_right _ _ 0 j (by omega), List.getD_eq_getElem?_getD,
        List.getElem?_replicate_of_lt (by omega)]
  · obtain ⟨unpadded, -⟩ : pad = none ∧ tokenIds.length < maxLength := by simpa using fits
    subst unpadded
    obtain ⟨k, more⟩ := Nat.exists_eq_add_of_lt padded
    rw [more, int32Row, List.replicate_succ, List.mapM_append, List.mapM_cons]
    cases (tokenIds.map some).mapM id <;> rfl
  · rw [int32Row_some]
    congr 1
    funext j
    simp [show (j : Nat) < tokenIds.length by omega]
  · omega

/-- A condition on every text with one alternative shared by all of them. -/
theorem forall_mem_or_left {α : Type} {p : Prop} {q : α → Prop} (xs : List α) :
    (∀ x ∈ xs, p ∨ q x) ↔ p ∨ ∀ x ∈ xs, q x :=
  ⟨fun all => (em p).imp id fun absent x member => (all x member).resolve_left absent,
    fun either x member => either.imp id fun all => all x member⟩

/-- `tokenize` in full: it returns exactly when every row converts, with each
row its own ids then end-of-sequence ids, under its own mask. -/
theorem tokenize_eq (m : MLXEmbeddingModel R) (texts : List String) (maxLength : Nat) :
    m.tokenize texts maxLength =
      if m.tokenizer.eosTokenId.isSome ∨ ∀ text ∈ texts, maxLength ≤ (m.tokenizer.encode text).length
      then .ok ⟨texts.map fun text j => if (j : Nat) < (m.tokenizer.encode text).length
          then (m.tokenizer.encode text).getD j 0 else m.tokenizer.eosTokenId.getD 0,
        texts.map fun text j =>
          (tokenizeRow (m.tokenizer.encode text) m.tokenizer.eosTokenId maxLength).2.getD j 0⟩
      else .error noneTypeError := by
  rw [MLXEmbeddingModel.tokenize, mapM_map_ok_or_error
    (fun text => tokenizeRow (m.tokenizer.encode text) m.tokenizer.eosTokenId maxLength)
    (fun row => int32Row maxLength row.1) _ _ _ fun text => int32Row_tokenizeRow _ _ _, List.map_map]
  by_cases fits : m.tokenizer.eosTokenId.isSome ∨ ∀ text ∈ texts, maxLength ≤ (m.tokenizer.encode text).length
  · rw [if_pos ((forall_mem_or_left texts).mpr fits), if_pos fits]; rfl
  · rw [if_neg (mt (forall_mem_or_left texts).mp fits), if_neg fits]; rfl

/-- One entry of a converted row, against the text's encoding cut to the row. -/
theorem padded_entry (tokenIds : List Int) (pad : Option Int) (maxLength : Nat) (j : Fin maxLength)
    (fits : pad.isSome ∨ maxLength ≤ tokenIds.length) :
    some (if (j : Nat) < tokenIds.length then tokenIds.getD j 0 else pad.getD 0) =
      if (j : Nat) < min tokenIds.length maxLength then tokenIds[(j : Nat)]? else pad := by
  have inside := j.isLt
  by_cases real : (j : Nat) < tokenIds.length
  · simp [real, inside, List.getElem?_eq_getElem real]
  · obtain ⟨p, rfl⟩ := Option.isSome_iff_exists.mp (fits.resolve_right (by omega))
    simp [real]

/-- For every batch, every `max_length` and every tokenizer, `tokenize` returns
exactly when the tokenizer has an end-of-sequence id or no text is shorter than
`max_length`; otherwise `mx.array` raises on the `None` pads. A returned batch
has one row of `max_length` entries per text: the first `k = min(len, max_length)`
are the text's ids and the rest the end-of-sequence id, under a mask of `k` ones
then zeros. -/
theorem tokenize_padded (m : MLXEmbeddingModel R) (texts : List String) (maxLength : Nat) :
    ((∃ batch, m.tokenize texts maxLength = .ok batch) ↔
      m.tokenizer.eosTokenId.isSome ∨ ∀ text ∈ texts, maxLength ≤ (m.tokenizer.encode text).length) ∧
    (¬(m.tokenizer.eosTokenId.isSome ∨ ∀ text ∈ texts, maxLength ≤ (m.tokenizer.encode text).length) →
      m.tokenize texts maxLength = .error noneTypeError) ∧
    ∀ batch, m.tokenize texts maxLength = .ok batch →
      batch.inputIds.map (fun row j => some (row j)) = texts.map (fun text (j : Fin maxLength) =>
        if (j : Nat) < min (m.tokenizer.encode text).length maxLength
        then (m.tokenizer.encode text)[(j : Nat)]? else m.tokenizer.eosTokenId) ∧
      batch.attentionMask = texts.map fun text (j : Fin maxLength) =>
        if (j : Nat) < min (m.tokenizer.encode text).length maxLength then 1 else 0 := by
  rw [tokenize_eq]
  split_ifs with fits
  · refine ⟨iff_of_true ⟨_, rfl⟩ fits, absurd fits, fun batch returned => ?_⟩
    cases returned
    refine ⟨?_, List.map_congr_left fun text _ => funext fun j => maskRow_getD _ _ _ _ j.isLt⟩
    rw [List.map_map]
    exact List.map_congr_left fun text member => funext fun j =>
      padded_entry _ _ _ j (fits.imp id fun all => all text member)
  · exact ⟨iff_of_false (fun ⟨_, raised⟩ => nomatch raised) fits, fun _ => rfl,
      fun batch raised => nomatch raised⟩

/-- A one-wide network under a tokenizer that encodes every text as the one id
`1`, with the given end-of-sequence id. -/
def oneIdModel (eos : Option Int) : MLXEmbeddingModel ℝ where
  modelPath := "one-id"
  config := .dict []
  hiddenSize := .int 1
  numHiddenLayers := .int 1
  vocabSize := .int 1
  model := ⟨1, fun _ inputIds => inputIds.map fun row j _ => (row j : ℝ)⟩
  tokenizer := ⟨fun _ => [1], eos⟩

/-- Without an end-of-sequence id, a text shorter than `max_length` makes
`tokenize` raise instead of padding. -/
theorem unpadded_text_raises : (oneIdModel none).tokenize ["hi"] 4 = .error noneTypeError := rfl

/-- With one, the same text pads to a row of one id under one attended position. -/
theorem eos_text_padded :
    ∃ batch, (oneIdModel (some 0)).tokenize ["hi"] 4 = .ok batch ∧
      batch.inputIds.map (fun row j => some (row j)) = ["hi"].map (fun text (j : Fin 4) =>
        if (j : Nat) < min ((oneIdModel (some 0)).tokenizer.encode text).length 4
        then ((oneIdModel (some 0)).tokenizer.encode text)[(j : Nat)]? else some 0) ∧
      batch.attentionMask = ["hi"].map fun text (j : Fin 4) =>
        if (j : Nat) < min ((oneIdModel (some 0)).tokenizer.encode text).length 4 then 1 else 0 :=
  let padded := tokenize_padded (oneIdModel (some 0)) ["hi"] 4
  let ⟨batch, returned⟩ := padded.1.mpr (Or.inl rfl)
  ⟨batch, returned, padded.2.2 batch returned⟩

end Padding

variable [LinearOrderedField R]

/-- The pooling branch of `embed`; any other strategy name raises. -/
def pool {seq width : Nat} (pooling : String) (hiddenStates : List (Fin seq → Fin width → R))
    (attentionMask : List (Fin seq → Int)) : Except PyError (List (Fin width → R)) :=
  if pooling = "mean" then .ok (meanPooling hiddenStates attentionMask)
  else if pooling = "cls" then clsPooling hiddenStates
  else .error ⟨"ValueError", "Unknown pooling strategy: " ++ pooling⟩

/-- Mean and first-position pooling are the strategies `embed` accepts. -/
def KnownPooling (pooling : String) : Prop := pooling = "mean" ∨ pooling = "cls"

section Batches

variable {seq width : Nat}

/-- A known strategy never raises on `embed`'s arrays, whose sequence axis is
not empty: it averages each row or takes each row's first position. -/
theorem pool_known (pooling : String) (known : KnownPooling pooling) (nonempty : 0 < seq)
    (hiddenStates : List (Fin seq → Fin width → R)) (attentionMask : List (Fin seq → Int)) :
    pool pooling hiddenStates attentionMask = .ok (if pooling = "mean"
      then meanPooling hiddenStates attentionMask
      else hiddenStates.map fun hidden => hidden ⟨0, nonempty⟩) := by
  rcases known with rfl | rfl
  · rfl
  · simp [pool, clsPooling, nonempty]

end Batches

variable [SquareRoot R]

/-- `MLXEmbeddingModel.embed(texts, pooling, normalize)`: tokenized to the
default `max_length` of 512, run through the network, pooled, and normalised
when asked. -/
def MLXEmbeddingModel.embed (m : MLXEmbeddingModel R) (texts : List String)
    (pooling : String) (normalize : Bool) : Except PyError (List (Fin m.model.width → R)) := do
  let inputs ← m.tokenize texts 512
  let hiddenStates ← m.forward inputs.inputIds inputs.attentionMask
  let embeddings ← pool pooling hiddenStates inputs.attentionMask
  pure (if normalize then l2Normalize embeddings else embeddings)

variable (m : MLXEmbeddingModel R)

/-- A network computes row by row when each row of hidden states is a function
of the same row of token ids alone. -/
def Rowwise (rowForward : (seq : Nat) → (Fin seq → Int) → Fin seq → Fin m.model.width → R) : Prop :=
  ∀ seq (inputIds : List (Fin seq → Int)), m.model.forward seq inputIds = inputIds.map (rowForward seq)

/-- The tokenized lists of one text, padded to `embed`'s length. -/
def MLXEmbeddingModel.row (text : String) : List (Option Int) × List Int :=
  tokenizeRow (m.tokenizer.encode text) m.tokenizer.eosTokenId 512

/-- An empty batch tokenizes to empty arrays, whose shape `forward` cannot
unpack, whatever the strategy. -/
theorem embed_nil (pooling : String) (normalize : Bool) :
    m.embed [] pooling normalize = .error unpackError := rfl

/-- A non-empty batch passes `forward`'s shape check: `embed` pools the
network's hidden states of the tokenized batch and normalises them when asked. -/
theorem embed_ne_nil (texts : List String) (nonempty : texts ≠ []) (pooling : String)
    (normalize : Bool) :
    m.embed texts pooling normalize = (do
      let inputs ← m.tokenize texts 512
      let embeddings ← pool pooling (m.model.forward 512 inputs.inputIds) inputs.attentionMask
      pure (if normalize then l2Normalize embeddings else embeddings)) := by
  unfold MLXEmbeddingModel.embed
  cases tokenized : m.tokenize texts 512 with
  | error e => rfl
  | ok batch =>
    have rows : batch.inputIds ≠ [] := fun empty => nonempty (List.length_eq_zero.mp
      (by rw [← tokenize_length m texts 512 batch tokenized, empty, List.length_nil]))
    simp only [bind, Except.bind, MLXEmbeddingModel.forward, List.isEmpty_iff, rows, if_false]

/-- With a row-wise network and a known strategy, a batch of two or more texts
embeds as its first text alone followed by the rest: tokenization, hidden
states, pooling and normalisation all act on one row at a time. -/
theorem embed_cons (rowForward : (seq : Nat) → (Fin seq → Int) → Fin seq → Fin m.model.width → R)
    (rowwise : Rowwise m rowForward) (pooling : String) (known : KnownPooling pooling)
    (normalize : Bool) (text : String) (texts : List String) (nonempty : texts ≠ []) :
    m.embed (text :: texts) pooling normalize = (do
      let first ← m.embed [text] pooling normalize
      let rest ← m.embed texts pooling normalize
      pure (first ++ rest)) := by
  rw [embed_ne_nil m (text :: texts) (List.cons_ne_nil _ _), embed_ne_nil m [text] (List.cons_ne_nil _ _),
    embed_ne_nil m texts nonempty]
  simp only [MLXEmbeddingModel.tokenize, rowwise 512, List.map_cons, List.map_nil, List.mapM_cons,
    List.mapM_nil, pool_known pooling known (by norm_num : 0 < 512)]
  cases int32Row 512 (tokenizeRow (m.tokenizer.encode text) m.tokenizer.eosTokenId 512).1 with
  | error e => rfl
  | ok ids =>
    cases (texts.map fun text => tokenizeRow (m.tokenizer.encode text)
        m.tokenizer.eosTokenId 512).mapM (fun row => int32Row 512 row.1) with
    | error e => rfl
    | ok restIds => rcases known with rfl | rfl <;> cases normalize <;> rfl

/-- With a row-wise network and a known strategy, one text embeds to one vector
when it embeds at all. -/
theorem embed_single (rowForward : (seq : Nat) → (Fin seq → Int) → Fin seq → Fin m.model.width → R)
    (rowwise : Rowwise m rowForward) (pooling : String) (known : KnownPooling pooling)
    (normalize : Bool) (text : String) (embeddings : List (Fin m.model.width → R))
    (returned : m.embed [text] pooling normalize = .ok embeddings) : ∃ e, embeddings = [e] := by
  rw [embed_ne_nil m [text] (List.cons_ne_nil _ _)] at returned
  simp only [MLXEmbeddingModel.tokenize, rowwise 512, List.map_cons, List.map_nil, List.mapM_cons,
    List.mapM_nil, pool_known pooling known (by norm_num : 0 < 512)] at returned
  cases first : int32Row 512 (tokenizeRow (m.tokenizer.encode text) m.tokenizer.eosTokenId 512).1 with
  | error e => rw [first] at returned; cases returned
  | ok ids =>
    rw [first] at returned
    rcases known with rfl | rfl <;> cases normalize <;> exact ⟨_, (Except.ok.inj returned).symm⟩

/-- With a row-wise network and a known strategy, the `i`-th vector of a batch
is the one vector its text embeds to alone. -/
theorem embed_getElem (rowForward : (seq : Nat) → (Fin seq → Int) → Fin seq → Fin m.model.width → R)
    (rowwise : Rowwise m rowForward) (pooling : String) (known : KnownPooling pooling)
    (normalize : Bool) : ∀ (texts : List String) (embeddings : List (Fin m.model.width → R)),
      m.embed texts pooling normalize = .ok embeddings → ∀ i (inside : i < texts.length),
        ∃ e, m.embed [texts[i]] pooling normalize = .ok [e] ∧ embeddings[i]? = some e
  | [], _, _, i, inside => absurd inside (Nat.not_lt_zero i)
  | [text], embeddings, returned, i, inside => by
    obtain ⟨e, rfl⟩ := embed_single m rowForward rowwise pooling known normalize text embeddings
      returned
    obtain rfl : i = 0 := Nat.lt_one_iff.mp inside
    exact ⟨e, returned, rfl⟩
  | text :: next :: texts, embeddings, returned, i, inside => by
    rw [embed_cons m rowForward rowwise pooling known normalize text (next :: texts)
      (List.cons_ne_nil _ _)] at returned
    obtain ⟨first, firstReturned, returned⟩ := except_bind_ok returned
    obtain ⟨rest, restReturned, joined⟩ := except_bind_ok returned
    obtain ⟨e, rfl⟩ := embed_single m rowForward rowwise pooling known normalize text first
      firstReturned
    cases joined
    cases i with
    | zero => exact ⟨e, firstReturned, by rw [List.singleton_append, List.getElem?_cons_zero]⟩
    | succ i =>
      simp only [List.singleton_append, List.getElem?_cons_succ, List.getElem_cons_succ]
      exact embed_getElem rowForward rowwise pooling known normalize (next :: texts) rest
        restReturned i (Nat.lt_of_succ_lt_succ inside)

/-- A text's embedding does not depend on the other texts of its batch or on
its place there. With a row-wise network and a known strategy, embedding a
non-empty batch is embedding each text alone and joining the rows, failures
included, and an empty batch raises; so splitting, merging or permuting
non-empty batches splits, joins or permutes the outputs. -/
theorem embed_batch_independent
    (rowForward : (seq : Nat) → (Fin seq → Int) → Fin seq → Fin m.model.width → R)
    (rowwise : Rowwise m rowForward) (pooling : String) (known : KnownPooling pooling)
    (normalize : Bool) (texts : List String) :
    (m.embed texts pooling normalize = if texts = [] then .error unpackError else
      (texts.mapM fun text => m.embed [text] pooling normalize).map List.flatten) ∧
      ∀ embeddings, m.embed texts pooling normalize = .ok embeddings →
        ∀ i (inside : i < texts.length),
          ∃ e, m.embed [texts[i]] pooling normalize = .ok [e] ∧ embeddings[i]? = some e := by
  refine ⟨?_, embed_getElem m rowForward rowwise pooling known normalize texts⟩
  induction texts with
  | nil => exact embed_nil m pooling normalize
  | cons text texts inductionHypothesis =>
    rw [if_neg (List.cons_ne_nil _ _), List.mapM_cons]
    by_cases single : texts = []
    · subst single
      cases m.embed [text] pooling normalize with
      | error e => rfl
      | ok first => exact congrArg Except.ok (List.append_nil first).symm
    · rw [embed_cons m rowForward rowwise pooling known normalize text texts single,
        inductionHypothesis, if_neg single]
      cases m.embed [text] pooling normalize with
      | error e => rfl
      | ok first =>
        cases texts.mapM fun text => m.embed [text] pooling normalize with
        | error e => rfl
        | ok rest => rfl

/-- A one-wide network whose hidden value is the token id, under a tokenizer
that encodes a text as its length and pads with zero. -/
def lengthModel : MLXEmbeddingModel ℝ where
  modelPath := "lengths"
  config := .dict []
  hiddenSize := .int 1
  numHiddenLayers := .int 1
  vocabSize := .int 1
  model := ⟨1, fun _ inputIds => inputIds.map fun row j _ => (row j : ℝ)⟩
  tokenizer := ⟨fun text => [(text.length : Int)], some 0⟩

/-- The length model is row-wise, and a two-text batch embeds as its texts alone. -/
theorem lengthModel_batch_independent :
    Rowwise lengthModel (fun _ row j _ => (row j : ℝ)) ∧ KnownPooling "mean" ∧
      (lengthModel.embed ["a", "bc"] "mean" true = if ["a", "bc"] = [] then .error unpackError else
        (["a", "bc"].mapM fun text => lengthModel.embed [text] "mean" true).map List.flatten) ∧
      ∀ embeddings, lengthModel.embed ["a", "bc"] "mean" true = .ok embeddings →
        ∀ i (inside : i < ["a", "bc"].length), ∃ e,
          lengthModel.embed [["a", "bc"][i]] "mean" true = .ok [e] ∧ embeddings[i]? = some e :=
  ⟨fun _ _ => rfl, Or.inl rfl, embed_batch_independent lengthModel (fun _ row j _ => (row j : ℝ))
    (fun _ _ => rfl) "mean" (Or.inl rfl) true ["a", "bc"]⟩

/-- What a returned `embed` was computed from: a tokenized batch, its pooled
hidden states, normalised when asked. -/
theorem embed_returned (texts : List String) (pooling : String) (normalize : Bool)
    (embeddings : List (Fin m.model.width → R))
    (returned : m.embed texts pooling normalize = .ok embeddings) :
    ∃ batch, m.tokenize texts 512 = .ok batch ∧ ∃ pooled,
      pool pooling (m.model.forward 512 batch.inputIds) batch.attentionMask = .ok pooled ∧
      embeddings = if normalize then l2Normalize pooled else pooled := by
  have nonempty : texts ≠ [] := by
    rintro rfl
    rw [embed_nil] at returned
    cases returned
  rw [embed_ne_nil m texts nonempty] at returned
  cases tokenized : m.tokenize texts 512 with
  | error e => simp [tokenized, bind, Except.bind] at returned
  | ok batch =>
    cases pooled : pool pooling (m.model.forward 512 batch.inputIds) batch.attentionMask with
    | error e => simp [tokenized, pooled, bind, Except.bind] at returned
    | ok rows =>
      simp only [tokenized, pooled, bind, Except.bind, pure, Except.pure, Except.ok.injEq] at returned
      exact ⟨batch, rfl, rows, pooled, returned.symm⟩

/-- With an end-of-sequence id and a known strategy, `embed` never raises on a
non-empty batch. -/
theorem embed_ok (pad : Int) (hasEos : m.tokenizer.eosTokenId = some pad) (texts : List String)
    (nonempty : texts ≠ []) (pooling : String) (known : KnownPooling pooling) (normalize : Bool) :
    ∃ embeddings, m.embed texts pooling normalize = .ok embeddings := by
  obtain ⟨batch, tokenized⟩ := tokenize_ok m pad hasEos texts 512
  simp only [embed_ne_nil m texts nonempty, tokenized, bind, Except.bind,
    pool_known pooling known (by norm_num : 0 < 512)]
  exact ⟨_, rfl⟩

end AkidbEmbedding.Mlx
