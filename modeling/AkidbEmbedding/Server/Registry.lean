import AkidbEmbedding.Server.Answers

/-!
# What the server keeps of a loaded model

`load_model` and `embed_batch` only ever assign to the four dictionaries, and
nothing deletes an entry. So a session, with the dimension recorded beside it,
stays as it was once assigned, and a model that `embed_batch` accepts stays
accepted for the rest of the run, whatever the requests and the collaborators do.

Two slips of the source show against this. The already-loaded test of
`load_model` consults only `sessions`, so a model loaded through the PyTorch
fallback is loaded again, by the loaders, on every further request. And the
assignments are made before calls that can still raise, so a load that answers
with an error can leave a model that `embed_batch` then uses. Nor does
`embed_batch` check its `inputs`: a model it accepts answers `ok` for an empty
batch and for a bare string, with `count` the length of whatever was sent.
-/

namespace AkidbEmbedding.Server

open AkidbEmbedding.Python AkidbEmbedding.Pooling

variable {R Tok Sess Model : Type}

/-- `embed_batch` accepts `key`: it has an ONNX session or a PyTorch model. -/
def State.Loaded (s : State Tok Sess Model) (key : Key) : Prop :=
  (s.sessions key).isSome ∨ (s.pytorchModels key).isSome

/-- What a later state keeps of an earlier one: every session, with the
dimension recorded beside it, and the key of every PyTorch model. -/
structure Keeps (s s' : State Tok Sess Model) : Prop where
  session : ∀ key session, s.sessions key = some session →
    s'.sessions key = some session ∧ s'.dimensions key = s.dimensions key
  model : ∀ key, (s.pytorchModels key).isSome → (s'.pytorchModels key).isSome

namespace Keeps

variable {s s' s'' : State Tok Sess Model} {key : Key}

/-- A state keeps everything of itself. -/
theorem refl (s : State Tok Sess Model) : Keeps s s :=
  ⟨fun _ _ held => ⟨held, rfl⟩, fun _ held => held⟩

/-- Keeping is transitive. -/
theorem trans (first : Keeps s s') (second : Keeps s' s'') : Keeps s s'' where
  session key session held := by
    obtain ⟨kept, same⟩ := first.session key session held
    obtain ⟨kept', same'⟩ := second.session key session kept
    exact ⟨kept', same'.trans same⟩
  model key held := second.model key (first.model key held)

/-- A model `embed_batch` accepts stays accepted. -/
theorem loaded (kept : Keeps s s') (key : Key) (loaded : s.Loaded key) : s'.Loaded key := by
  rcases loaded with session | model
  · obtain ⟨session, held⟩ := Option.isSome_iff_exists.mp session
    exact .inl (by simp [(kept.session key session held).1])
  · exact .inr (kept.model key model)

/-- Assigning a tokenizer keeps what was kept. -/
theorem setTokenizer (kept : Keeps s s') (tokenizer : Tok) :
    Keeps s (s'.setTokenizer key tokenizer) :=
  ⟨kept.session, kept.model⟩

/-- Assigning a PyTorch model keeps what was kept. -/
theorem setPytorchModel (kept : Keeps s s') (model : Model) :
    Keeps s (s'.setPytorchModel key model) where
  session := kept.session
  model other held := by
    by_cases same : other = key
    · simp [State.setPytorchModel, same]
    · simpa [State.setPytorchModel, same] using kept.model other held

/-- Assigning at a key that had no session keeps every session's dimension. -/
theorem setDimension (kept : Keeps s s') (absent : s.sessions key = none) (dimension : Value) :
    Keeps s (s'.setDimension key dimension) where
  session other session held := by
    have different : other ≠ key := by rintro rfl; simp [absent] at held
    simpa [State.setDimension, different] using kept.session other session held
  model := kept.model

/-- Assigning a session at a key that had none keeps what was kept. -/
theorem setSession (kept : Keeps s s') (absent : s.sessions key = none) (session : Sess) :
    Keeps s (s'.setSession key session) where
  session other session' held := by
    have different : other ≠ key := by rintro rfl; simp [absent] at held
    simpa [State.setSession, different] using kept.session other session' held
  model := kept.model

end Keeps

variable (w : World R Tok Sess Model)

/-- The try block of `load_model`, for a key without a session, assigns only at
that key and keeps everything. -/
theorem loadAttempt_keeps (key : Key) (modelName cacheDir : Value) (s : State Tok Sess Model)
    (absent : s.sessions key = none) : Leaves (Keeps s) (loadAttempt w key modelName cacheDir s) := by
  refine leaves_proceed_of (.refl s) fun _ => leaves_proceed_of (.refl s) fun tokenizer => ?_
  have tokenized : Keeps s (s.setTokenizer key tokenizer) := (Keeps.refl s).setTokenizer tokenizer
  refine leaves_proceed_of tokenized fun _ => leaves_proceed_of tokenized fun _ => ?_
  split
  · exact leaves_proceed_of tokenized fun model => leaves_proceed_of (tokenized.setPytorchModel model)
      fun dimension => (tokenized.setPytorchModel model).setDimension absent dimension
  · refine leaves_proceed_of tokenized fun session => leaves_proceed_of tokenized fun dimension => ?_
    have assigned := (tokenized.setSession absent session).setDimension absent dimension
    exact leaves_proceed_of assigned fun _ => assigned

/-- `load_model` keeps everything, whether it answers or raises. -/
theorem loadModel_keeps (s : State Tok Sess Model) (modelName cacheDir : Value) :
    Leaves (Keeps s) (loadModel w s modelName cacheDir) := by
  refine leaves_proceed_of (.refl s) fun key => ?_
  split
  · exact leaves_proceed_of (.refl s) fun _ => .refl s
  · exact loadAttempt_keeps w key modelName cacheDir s ‹_›

/-- When the ONNX file exists but ONNX Runtime cannot open it, `load_model`
answers with the runtime's error, and the tokenizer it fetched before trying
stays assigned: the failed call leaves the state with that entry written. -/
theorem failed_session_keeps_tokenizer (s : State Tok Sess Model) (name cacheDir path : String)
    (tokenizer : Tok) (e : PyError) (absent : s.sessions (.str name) = none)
    (prepared : w.prepareCache cacheDir = .ok path)
    (fetched : w.fromPretrained (.str name) path = .ok tokenizer)
    (present : w.pathExists (path ++ "/" ++ replaceSlash name ++ ".onnx") = .ok true)
    (refused : w.inferenceSession (path ++ "/" ++ replaceSlash name ++ ".onnx") = .error e) :
    loadModel w s (.str name) (.str cacheDir) =
      (s.setTokenizer (.str name) tokenizer, .ok (errorResponse e.text)) := by
  simp [loadModel, absent, loadAttempt, cachePath, prepared, fetched, safeName, present, refused,
    rescue]

variable [LinearOrderedField R] [SquareRoot R]

/-- `embed_batch` writes no dictionary. -/
theorem embedBatch_keeps (s : State Tok Sess Model) (modelName inputs normalize : Value) :
    Leaves (Keeps s) (embedBatch w s modelName inputs normalize) := by
  refine leaves_proceed_of (.refl s) fun _ => ?_
  split <;> exact .refl s

/-- Every request keeps everything, whether it is answered or raises. -/
theorem processRequest_keeps (s : State Tok Sess Model) (request : Value) :
    Leaves (Keeps s) (processRequest w s request) := by
  refine leaves_proceed_of (.refl s) fun method => ?_
  split
  · exact .refl s
  · exact leaves_proceed_of (.refl s) fun _ => leaves_proceed_of (.refl s) fun _ =>
      leaves_proceed_of (.refl s) fun _ => loadModel_keeps w s _ _
  · exact leaves_proceed_of (.refl s) fun _ => leaves_proceed_of (.refl s) fun _ =>
      leaves_proceed_of (.refl s) fun _ => leaves_proceed_of (.refl s) fun _ =>
        embedBatch_keeps w s _ _ _
  · exact .refl s

/-- One served line keeps everything. -/
theorem serveLine_keeps (loads : String → Except PyError Value) (s : State Tok Sess Model)
    (line : String) : Keeps s (serveLine loads w s line).1 := by
  dsimp only [serveLine]
  split_ifs
  · exact .refl s
  · split
    · exact .refl s
    · rename_i request _
      have kept := processRequest_keeps w s request
      generalize processRequest w s request = served at kept ⊢
      obtain ⟨_, _ | _⟩ := served <;> exact kept

/-- A whole run keeps everything: no request unloads a model, replaces a session
or changes the dimension recorded beside one. -/
theorem run_keeps (loads : String → Except PyError Value) (s : State Tok Sess Model)
    (lines : List (String × World R Tok Sess Model)) : Keeps s (run loads s lines).1 := by
  induction lines generalizing s with
  | nil => exact .refl s
  | cons line rest inductionHypothesis =>
    exact (serveLine_keeps line.2 loads s line.1).trans (inductionHypothesis _)

/-- The exception of every ONNX Runtime call in `fallbackWorld`. -/
def noOnnx : PyError :=
  ⟨"RuntimeError", "no ONNX model"⟩

/-- A cache without ONNX files: the tokenizer and `SentenceTransformer` loads give
`tokenizer` and `model`, the model's dimension query gives `dimension`, and
`encode` returns one row. -/
def fallbackWorld (tokenizer model : Nat) (dimension : Except PyError Value) :
    World ℝ Nat Nat Nat where
  prepareCache dir := .ok dir
  fromPretrained _ _ := .ok tokenizer
  pathExists _ := .ok false
  sentenceTransformer _ _ := .ok model
  sentenceEmbeddingDimension _ := dimension
  inferenceSession _ := .error noOnnx
  outputDimension _ := .error noOnnx
  getProviders _ := .error noOnnx
  encode _ _ _ := .ok (.rows [[1]])
  tokenize _ _ := .error noOnnx
  inputNames _ := .error noOnnx
  run _ _ := .error noOnnx

/-- A model loaded through the PyTorch fallback has no session, so a second
`load_model` of it runs the loaders again: it reports the new model's dimension,
and the new model replaces the first one. -/
theorem pytorch_model_loaded_twice :
    (loadModel (fallbackWorld 1 1 (.ok (.int 384))) State.init (.str "m") (.str "/cache")).2 = .ok
      { status := "ok", message := "Model loaded with PyTorch fallback (CPU/MPS)",
        dimension := Value.int 384, providers := ["PyTorchExecutionProvider"] } ∧
    (loadModel (fallbackWorld 2 2 (.ok (.int 768)))
      (loadModel (fallbackWorld 1 1 (.ok (.int 384))) State.init (.str "m") (.str "/cache")).1
      (.str "m") (.str "/cache")).2 = .ok
      { status := "ok", message := "Model loaded with PyTorch fallback (CPU/MPS)",
        dimension := Value.int 768, providers := ["PyTorchExecutionProvider"] } ∧
    (loadModel (fallbackWorld 1 1 (.ok (.int 384))) State.init (.str "m")
      (.str "/cache")).1.pytorchModels (.str "m") = some 1 ∧
    (loadModel (fallbackWorld 2 2 (.ok (.int 768)))
      (loadModel (fallbackWorld 1 1 (.ok (.int 384))) State.init (.str "m") (.str "/cache")).1
      (.str "m") (.str "/cache")).1.pytorchModels (.str "m") = some 2 :=
  ⟨rfl, rfl, rfl, rfl⟩

/-- `{"method": "load_model", "params": {"model": "m"}}`. -/
def loadRequest : Value :=
  .dict [("method", .str "load_model"), ("params", .dict [("model", .str "m")])]

/-- `{"method": "embed_batch", "params": {"model": "m", "inputs": ["hello"]}}`. -/
def embedRequest : Value :=
  .dict [("method", .str "embed_batch"),
    ("params", .dict [("model", .str "m"), ("inputs", .list [.str "hello"])])]

/-- A load whose dimension query raises answers with an error, but the model it
assigned first stays, and `embed_batch` uses it. -/
theorem failed_load_leaves_model_usable :
    (processRequest (fallbackWorld 1 1 (.error ⟨"RuntimeError", "no dimension"⟩))
      State.init loadRequest).2 = .ok (errorResponse "no dimension") ∧
    (processRequest (fallbackWorld 1 1 (.ok (.int 384)))
      (processRequest (fallbackWorld 1 1 (.error ⟨"RuntimeError", "no dimension"⟩))
        State.init loadRequest).1 embedRequest).2 = .ok
      { status := "ok", embeddings := Embeddings.rows [[(1 : ℝ)]], count := some 1 } :=
  ⟨rfl, rfl⟩

/-- A cache holding `m.onnx` that ONNX Runtime cannot open, with a tokenizer
that loads. -/
def brokenOnnxWorld : World ℝ Nat Nat Nat where
  prepareCache dir := .ok dir
  fromPretrained _ _ := .ok 1
  pathExists _ := .ok true
  sentenceTransformer _ _ := .error noOnnx
  sentenceEmbeddingDimension _ := .error noOnnx
  inferenceSession _ := .error ⟨"InvalidProtobuf", "Load model from /cache/m.onnx failed"⟩
  outputDimension _ := .error noOnnx
  getProviders _ := .error noOnnx
  encode _ _ _ := .error noOnnx
  tokenize _ _ := .error noOnnx
  inputNames _ := .error noOnnx
  run _ _ := .error noOnnx

/-- From a fresh server, a load of `m` whose ONNX file cannot be opened answers
with an error and leaves the tokenizer entry of `m`, empty before, filled. -/
theorem broken_onnx_load_writes_tokenizer :
    (State.init : State Nat Nat Nat).sessions (.str "m") = none ∧
      brokenOnnxWorld.prepareCache "/cache" = .ok "/cache" ∧
      brokenOnnxWorld.fromPretrained (.str "m") "/cache" = .ok 1 ∧
      brokenOnnxWorld.pathExists ("/cache" ++ "/" ++ replaceSlash "m" ++ ".onnx") = .ok true ∧
      brokenOnnxWorld.inferenceSession ("/cache" ++ "/" ++ replaceSlash "m" ++ ".onnx") =
        .error ⟨"InvalidProtobuf", "Load model from /cache/m.onnx failed"⟩ ∧
      loadModel brokenOnnxWorld State.init (.str "m") (.str "/cache") =
        ((State.init : State Nat Nat Nat).setTokenizer (.str "m") 1,
          .ok (errorResponse "Load model from /cache/m.onnx failed")) ∧
      (State.init : State Nat Nat Nat).tokenizers (.str "m") = none :=
  ⟨rfl, rfl, rfl, rfl, rfl, failed_session_keeps_tokenizer brokenOnnxWorld State.init "m" "/cache"
    "/cache" 1 _ rfl rfl rfl rfl rfl, rfl⟩

/-- `embed_batch` checks nothing about `inputs`: for a model served by PyTorch
it answers `ok` with whatever `encode` made of them and with `count` their
length, whether they are an empty list, a string or a dict. -/
theorem pytorch_batch_unchecked (w : World R Tok Sess Model) (s : State Tok Sess Model)
    (modelName : Value) (key : Key) (model : Model) (inputs normalize : Value)
    (embeddings : Embeddings R) (count : Nat) (hashed : modelName.hash = .ok key)
    (loaded : s.pytorchModels key = some model)
    (encoded : w.encode model inputs normalize = .ok embeddings) (counted : inputs.len = .ok count) :
    embedBatch w s modelName inputs normalize =
      (s, .ok { status := "ok", embeddings := embeddings, count := count }) := by
  simp [embedBatch, hashed, loaded, embedAttempt, encoded, counted, bind, Except.bind, pure, Except.pure]

/-- A PyTorch model that encodes a list to one row per item and anything else to
a single vector, as `SentenceTransformer.encode` does. -/
def sentenceWorld : World ℝ Nat Nat Nat :=
  { fallbackWorld 1 1 (.ok (.int 384)) with
    encode := fun _ inputs _ => match inputs with
      | .list items => .ok (.rows (items.map fun _ => [1]))
      | _ => .ok (.vector [1]) }

/-- After a successful load through the PyTorch fallback, an `embed_batch` with
an empty `inputs` list answers `ok` with no vectors and a count of zero, where
the specification expects an empty-batch error. -/
theorem empty_batch_answers_ok :
    (Value.str "m").hash = .ok (.str "m") ∧
      (loadModel sentenceWorld State.init (.str "m") (.str "/cache")).1.pytorchModels (.str "m") =
        some 1 ∧
      sentenceWorld.encode 1 (.list []) (.bool true) = .ok (.rows []) ∧ (Value.list []).len = .ok 0 ∧
      embedBatch sentenceWorld (loadModel sentenceWorld State.init (.str "m") (.str "/cache")).1
          (.str "m") (.list []) (.bool true) =
        ((loadModel sentenceWorld State.init (.str "m") (.str "/cache")).1,
          .ok { status := "ok", embeddings := some (Embeddings.rows []), count := some 0 }) :=
  ⟨rfl, rfl, rfl, rfl, pytorch_batch_unchecked sentenceWorld _ (.str "m") (.str "m") 1 (.list [])
    (.bool true) (.rows []) 0 rfl rfl rfl rfl⟩

end AkidbEmbedding.Server
