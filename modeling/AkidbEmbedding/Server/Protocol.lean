import AkidbEmbedding.Pooling

/-!
# The line-delimited embedding server

`ONNXEmbeddingServer` keeps four dictionaries keyed by model name and answers
one JSON request per input line: `ping`, `load_model` and `embed_batch`. A load
fetches a tokenizer, then either an ONNX Runtime session, when
`<cache_dir>/<name>.onnx` exists, or a PyTorch `SentenceTransformer` as fallback.
An embedding request uses the PyTorch model if there is one, and otherwise
tokenizes, runs the session, mean-pools and normalises with numpy.

Every library call is an input of the model: a `World` gives the result or the
exception of each call made while one line is served, so the statements below
hold for every behaviour of the tokenizer, the loaders and the runtimes. The
order of statements is the source's, and an assignment made before a call that
raises stays in place, as in Python. `json.dumps` and `print` are not modelled
as failing: every value a response holds is serialisable, and the serialised
object holds no newline.
-/

namespace AkidbEmbedding.Server

open AkidbEmbedding.Python AkidbEmbedding.Pooling

/-- What `ndarray.tolist()` returns: floats for a one-dimensional array, rows of
floats for a two-dimensional one. -/
inductive Embeddings (R : Type) where
  | vector (values : List R)
  | rows (values : List (List R))

/-- A response dictionary; each field is one key the server's dict literals may
carry, absent when `none`. -/
structure Response (R : Type) where
  status : String
  message : Option String := none
  dimension : Option Value := none
  providers : Option (List String) := none
  embeddings : Option (Embeddings R) := none
  count : Option Nat := none

/-- `{"status": "error", "message": text}`. -/
def errorResponse {R : Type} (text : String) : Response R :=
  { status := "error", message := some text }

/-- The four dictionaries of `ONNXEmbeddingServer`. -/
structure State (Tok Sess Model : Type) where
  sessions : Key → Option Sess
  tokenizers : Key → Option Tok
  dimensions : Key → Option Value
  pytorchModels : Key → Option Model

/-- `ONNXEmbeddingServer.__init__`: nothing is loaded. -/
def State.init {Tok Sess Model : Type} : State Tok Sess Model :=
  ⟨fun _ => none, fun _ => none, fun _ => none, fun _ => none⟩

/-- What `tokenizer(inputs, padding=True, truncation=True, max_length=512,
return_tensors="np")` returns: int64 arrays padded to the longest row, with
token type ids when the tokenizer makes them. -/
structure Encoded where
  seq : Nat
  inputIds : List (Fin seq → Int)
  attentionMask : List (Fin seq → Int)
  tokenTypeIds : Option (List (Fin seq → Int))

/-- The arrays `embed_batch` hands to `session.run`. -/
structure OrtInputs where
  seq : Nat
  inputIds : List (Fin seq → Int)
  attentionMask : List (Fin seq → Int)
  tokenTypeIds : Option (List (Fin seq → Int))

/-- The first output of `session.run`, a `[batch, seq, width]` array. -/
structure Output (R : Type) where
  seq : Nat
  width : Nat
  hiddenStates : List (Fin seq → Fin width → R)

/-- The result, or the exception, of every library call the server makes while
serving one line. -/
structure World (R Tok Sess Model : Type) where
  /-- `Path(cache_dir).expanduser()` and `mkdir(parents=True, exist_ok=True)`. -/
  prepareCache : String → Except PyError String
  /-- `AutoTokenizer.from_pretrained(model_name, cache_dir=...)`. -/
  fromPretrained : Value → String → Except PyError Tok
  /-- `onnx_path.exists()`. -/
  pathExists : String → Except PyError Bool
  /-- `SentenceTransformer(model_name, cache_folder=...)`. -/
  sentenceTransformer : Value → String → Except PyError Model
  /-- `model.get_sentence_embedding_dimension()`. -/
  sentenceEmbeddingDimension : Model → Except PyError Value
  /-- `ort.InferenceSession(str(onnx_path), ...)` with the CoreML and CPU providers. -/
  inferenceSession : String → Except PyError Sess
  /-- `session.get_outputs()[0].shape[-1]`. -/
  outputDimension : Sess → Except PyError Value
  /-- `session.get_providers()`. -/
  getProviders : Sess → Except PyError (List String)
  /-- `model.encode(inputs, normalize_embeddings=normalize).tolist()`. -/
  encode : Model → Value → Value → Except PyError (Embeddings R)
  /-- The tokenizer call of `embed_batch`. -/
  tokenize : Tok → Value → Except PyError Encoded
  /-- `[inp.name for inp in session.get_inputs()]`. -/
  inputNames : Sess → Except PyError (List String)
  /-- `session.run(None, ort_inputs)[0]`. -/
  run : Sess → OrtInputs → Except PyError (Output R)

variable {R Tok Sess Model : Type}

/-- `self.sessions[key] = session`. -/
def State.setSession (s : State Tok Sess Model) (key : Key) (session : Sess) : State Tok Sess Model :=
  { s with sessions := Function.update s.sessions key (some session) }

/-- `self.tokenizers[key] = tokenizer`. -/
def State.setTokenizer (s : State Tok Sess Model) (key : Key) (tokenizer : Tok) :
    State Tok Sess Model :=
  { s with tokenizers := Function.update s.tokenizers key (some tokenizer) }

/-- `self.dimensions[key] = dimension`. -/
def State.setDimension (s : State Tok Sess Model) (key : Key) (dimension : Value) :
    State Tok Sess Model :=
  { s with dimensions := Function.update s.dimensions key (some dimension) }

/-- `self.pytorch_models[key] = model`. -/
def State.setPytorchModel (s : State Tok Sess Model) (key : Key) (model : Model) :
    State Tok Sess Model :=
  { s with pytorchModels := Function.update s.pytorchModels key (some model) }

/-- `d[key]`, which raises `KeyError` for a missing key. -/
def index {α : Type} (map : Key → Option α) (key : Key) : Except PyError α :=
  match map key with
  | some value => .ok value
  | none => .error ⟨"KeyError", key.repr⟩

/-- `Path(cache_dir).expanduser()` and its `mkdir`: only a str is a path. -/
def cachePath (w : World R Tok Sess Model) (cacheDir : Value) : Except PyError String :=
  match cacheDir with
  | .str dir => w.prepareCache dir
  | other => .error ⟨"TypeError", "expected str, bytes or os.PathLike object, not " ++ other.typeName⟩

/-- `model_name.replace("/", "_")`: only a str has the method. -/
def safeName (modelName : Value) : Except PyError String :=
  match modelName with
  | .str name => .ok (replaceSlash name)
  | other => .error ⟨"AttributeError", "'" ++ other.typeName ++ "' object has no attribute 'replace'"⟩

/-- The try block of `load_model`: tokenizer, then the PyTorch fallback when no
ONNX file exists, or the ONNX session. Each dictionary assignment happens where
the source makes it, before the calls that follow it. -/
def loadAttempt (w : World R Tok Sess Model) (key : Key) (modelName cacheDir : Value)
    (s : State Tok Sess Model) : Exec (State Tok Sess Model) (Response R) :=
  proceed s (cachePath w cacheDir) fun cachePath =>
  proceed s (w.fromPretrained modelName cachePath) fun tokenizer =>
  let s := s.setTokenizer key tokenizer
  proceed s (safeName modelName) fun safe =>
  let onnxPath := cachePath ++ "/" ++ safe ++ ".onnx"
  proceed s (w.pathExists onnxPath) fun present =>
  if !present then
    proceed s (w.sentenceTransformer modelName cachePath) fun model =>
    let s := s.setPytorchModel key model
    proceed s (w.sentenceEmbeddingDimension model) fun dimension =>
    let s := s.setDimension key dimension
    (s, .ok
      { status := "ok", message := "Model loaded with PyTorch fallback (CPU/MPS)",
        dimension := dimension, providers := ["PyTorchExecutionProvider"] })
  else
    proceed s (w.inferenceSession onnxPath) fun session =>
    proceed s (w.outputDimension session) fun dimension =>
    let s := (s.setSession key session).setDimension key dimension
    proceed s (w.getProviders session) fun activeProviders =>
    (s, .ok
      { status := "ok", message := "Model loaded successfully",
        dimension := dimension, providers := activeProviders })

/-- `ONNXEmbeddingServer.load_model(model_name, cache_dir)`. The membership test
hashes the name outside the try block, and only `sessions` is consulted. -/
def loadModel (w : World R Tok Sess Model) (s : State Tok Sess Model) (modelName cacheDir : Value) :
    Exec (State Tok Sess Model) (Response R) :=
  proceed s modelName.hash fun key =>
  match s.sessions key with
  | some _ =>
    proceed s (index s.dimensions key) fun dimension =>
    (s, .ok { status := "ok", message := "Model already loaded", dimension := dimension })
  | none => rescue (loadAttempt w key modelName cacheDir s) fun e => errorResponse e.text

/-- `np.zeros_like(encoded["input_ids"])`. -/
def zerosLike {seq : Nat} (inputIds : List (Fin seq → Int)) : List (Fin seq → Int) :=
  inputIds.map fun _ _ => 0

/-- The length numpy broadcasts two axes of lengths `a` and `b` to: equal
lengths stay, and a length of one is stretched to the other's. -/
def broadcastAxis (a b : Nat) : Option Nat :=
  if a = b ∨ b = 1 then some a else if a = 1 then some b else none

/-- Numpy's broadcasting of the batch axis: rows paired one to one, or a single
row paired with every row of the other array. -/
def broadcastRows {α β : Type} : List α → List β → Option (List (α × β))
  | [x], ys => some (ys.map fun y => (x, y))
  | xs, [y] => some (xs.map fun x => (x, y))
  | xs, ys => if xs.length = ys.length then some (xs.zip ys) else none

/-- Entry `j` of a row stretched along its axis: a row of length one repeats its
only entry. -/
def stretched {n : Nat} {α : Type} (row : Fin n → α) (default : α) (j : Nat) : α :=
  if single : n = 1 then row ⟨0, by omega⟩ else if inside : j < n then row ⟨j, inside⟩ else default

/-- One row of `np.sum(hidden_states * attention_mask_expanded, axis=1) / sum_mask`
once numpy has stretched the sequence axes to `positions`: the mask sum is the
mask row's own, clipped at `1e-9`. -/
def broadcastMeanRow [LinearOrderedField R] {S s w : Nat} (positions : Nat)
    (hidden : Fin S → Fin w → R) (mask : Fin s → Int) : Fin w → R :=
  let sumMask : R := max ((∑ j, mask j : Int) : R) maskFloor
  fun k => (∑ j ∈ Finset.range positions, stretched hidden 0 j k * ((stretched mask 0 j : Int) : R)) / sumMask

/-- A shape as numpy prints it, `(2,3,4)`. -/
def shapeText (shape : List Nat) : String :=
  "(" ++ ",".intercalate (shape.map toString) ++ ")"

/-- The pooling of `embed_batch`. Arrays of one batch and one sequence length
pool row by row as `onnxMeanPooling`; otherwise numpy stretches an axis of
length one to the other's, and raises when neither length is one. -/
def poolOutput [LinearOrderedField R] {seq : Nat} (output : Output R)
    (attentionMask : List (Fin seq → Int)) : Except PyError (List (Fin output.width → R)) :=
  if same : output.seq = seq ∧ output.hiddenStates.length = attentionMask.length then
    .ok (onnxMeanPooling (output.hiddenStates.map fun hidden j => hidden (Fin.cast same.1.symm j))
      attentionMask)
  else match broadcastAxis output.seq seq, broadcastRows output.hiddenStates attentionMask with
    | some positions, some rows => .ok (rows.map fun row => broadcastMeanRow positions row.1 row.2)
    | _, _ => .error ⟨"ValueError", "operands could not be broadcast together with shapes " ++
        shapeText [output.hiddenStates.length, output.seq, output.width] ++ " " ++
        shapeText [attentionMask.length, seq, 1] ++ " "⟩

/-- The try block of `embed_batch`: the PyTorch model when there is one, the ONNX
session otherwise. No dictionary is written. -/
def embedAttempt [LinearOrderedField R] [SquareRoot R] (w : World R Tok Sess Model)
    (s : State Tok Sess Model) (key : Key) (inputs normalize : Value) : Except PyError (Response R) :=
  match s.pytorchModels key with
  | some model => do
    let embeddings ← w.encode model inputs normalize
    let count ← inputs.len
    pure { status := "ok", embeddings := embeddings, count := count }
  | none => do
    let session ← index s.sessions key
    let tokenizer ← index s.tokenizers key
    let encoded ← w.tokenize tokenizer inputs
    let inputNames ← w.inputNames session
    let ortInputs : OrtInputs := ⟨encoded.seq, encoded.inputIds, encoded.attentionMask,
      if "token_type_ids" ∈ inputNames
      then some (encoded.tokenTypeIds.getD (zerosLike encoded.inputIds)) else none⟩
    let output ← w.run session ortInputs
    let pooled ← poolOutput output encoded.attentionMask
    let embeddings := if normalize.truthy then onnxNormalize pooled else pooled
    let count ← inputs.len
    pure { status := "ok", embeddings := Embeddings.rows (embeddings.map List.ofFn), count := count }

/-- `ONNXEmbeddingServer.embed_batch(model_name, inputs, normalize)`. A model
loaded by either backend passes the check; no dictionary is written. -/
def embedBatch [LinearOrderedField R] [SquareRoot R] (w : World R Tok Sess Model)
    (s : State Tok Sess Model) (modelName inputs normalize : Value) :
    Exec (State Tok Sess Model) (Response R) :=
  proceed s modelName.hash fun key =>
  if (s.sessions key).isNone && (s.pytorchModels key).isNone then
    (s, .ok (errorResponse ("Model not loaded: " ++ modelName.text ++ ". Call load_model first.")))
  else (s, .ok (match embedAttempt w s key inputs normalize with
    | .ok response => response
    | .error e => errorResponse e.text))

/-- `ONNXEmbeddingServer.process_request(request)`: the request and its params
must be dicts, whose missing members take the source's defaults. -/
def processRequest [LinearOrderedField R] [SquareRoot R] (w : World R Tok Sess Model)
    (s : State Tok Sess Model) (request : Value) : Exec (State Tok Sess Model) (Response R) :=
  proceed s (request.get "method" .none) fun method =>
  match method with
  | .str "ping" => (s, .ok { status := "ok", message := "pong" })
  | .str "load_model" =>
    proceed s (request.get "params" (.dict [])) fun params =>
    proceed s (params.get "model" .none) fun modelName =>
    proceed s (params.get "cache_dir" (.str "~/.cache/akidb/models")) fun cacheDir =>
    loadModel w s modelName cacheDir
  | .str "embed_batch" =>
    proceed s (request.get "params" (.dict [])) fun params =>
    proceed s (params.get "model" .none) fun modelName =>
    proceed s (params.get "inputs" (.list [])) fun inputs =>
    proceed s (params.get "normalize" (.bool true)) fun normalize =>
    embedBatch w s modelName inputs normalize
  | other => (s, .ok (errorResponse ("Unknown method: " ++ other.text)))

/-- The two handlers of the loop's try block: `json.JSONDecodeError` first,
then every other exception. -/
def loopHandler (e : PyError) : Response R :=
  if e.kind = "JSONDecodeError" then errorResponse ("Invalid JSON: " ++ e.text)
  else errorResponse ("Internal error: " ++ e.text)

/-- One iteration of `ONNXEmbeddingServer.run`: a blank line is skipped; any
other line is decoded, processed, and answered by one printed response. -/
def serveLine [LinearOrderedField R] [SquareRoot R] (loads : String → Except PyError Value)
    (w : World R Tok Sess Model) (s : State Tok Sess Model) (line : String) :
    State Tok Sess Model × List (Response R) :=
  let line := strip line
  if line.isEmpty then (s, [])
  else
    match loads line with
    | .error e => (s, [loopHandler e])
    | .ok request =>
      match processRequest w s request with
      | (s', .ok response) => (s', [response])
      | (s', .error e) => (s', [loopHandler e])

/-- `ONNXEmbeddingServer.run` over the lines of stdin, each paired with what the
collaborators do while it is served; the responses in the order printed. -/
def run [LinearOrderedField R] [SquareRoot R] (loads : String → Except PyError Value) :
    State Tok Sess Model → List (String × World R Tok Sess Model) →
      State Tok Sess Model × List (Response R)
  | s, [] => (s, [])
  | s, (line, w) :: rest =>
    let served := serveLine loads w s line
    let later := run loads served.1 rest
    (later.1, served.2 ++ later.2)

end AkidbEmbedding.Server
