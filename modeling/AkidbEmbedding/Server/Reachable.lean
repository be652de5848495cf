import AkidbEmbedding.Server.Registry
import AkidbEmbedding.Server.Isolation

/-!
# What every state the server reaches holds

From `__init__`, the server only assigns to its dictionaries. `load_model`
assigns the tokenizer first. It then assigns either the PyTorch model and
perhaps its dimension, or a session together with the dimension read from it,
with no call that can raise between the two. So in every state the server
reaches, a name with an ONNX session has its tokenizer and its dimension,
whatever lines it was sent and whatever its collaborators did. The reads it
makes with `d[key]` then never raise:
- `load_model` of a name with a session answers `Model already loaded` with
  the recorded dimension, and changes nothing;
- the ONNX path of `embed_batch` finds the session and the tokenizer of every
  model it accepts.

The PyTorch fallback has no such guarantee. Its model is assigned before its
dimension is read, so a model can be served without a dimension.

Once `load_model` answers `Model loaded successfully` with a dimension, every
later load of that name in the run answers `Model already loaded` with the same
dimension.
-/

namespace AkidbEmbedding.Server

open AkidbEmbedding.Python AkidbEmbedding.Pooling

variable {R Tok Sess Model : Type}

/-- What one key's entries hold in every reachable state: a session comes with
its tokenizer and its dimension. -/
def EntrySound (entry : Option Sess × Option Tok × Option Value × Option Model) : Prop :=
  entry.1.isSome → entry.2.1.isSome ∧ entry.2.2.1.isSome

/-- Every key's entries are sound. -/
def State.Consistent (s : State Tok Sess Model) : Prop :=
  ∀ key, EntrySound (s.entry key)

/-- The state of `__init__` is consistent: it holds no session. -/
theorem init_consistent : (State.init : State Tok Sess Model).Consistent :=
  fun _ absent => nomatch absent

namespace State.Consistent

variable {s s' : State Tok Sess Model} (key : Key)

/-- A state that differs from a consistent one at `key` only is consistent when
its entries at `key` are sound. -/
theorem update (consistent : s.Consistent) (frame : ∀ other, key ≠ other → s'.entry other = s.entry other)
    (here : EntrySound (s'.entry key)) : s'.Consistent := fun other => by
  by_cases same : key = other
  · exact same ▸ here
  · rw [frame other same]
    exact consistent other

/-- Assigning a tokenizer keeps the state consistent. -/
theorem setTokenizer (consistent : s.Consistent) (tokenizer : Tok) :
    (s.setTokenizer key tokenizer).Consistent :=
  consistent.update key (fun _ different => entry_setTokenizer_other tokenizer different) fun session =>
    ⟨by simp [entry_setTokenizer_same],
      by simpa [entry_setTokenizer_same] using (consistent key (by simpa using session)).2⟩

/-- Assigning a PyTorch model keeps the state consistent. -/
theorem setPytorchModel (consistent : s.Consistent) (model : Model) :
    (s.setPytorchModel key model).Consistent :=
  consistent.update key (fun _ different => entry_setPytorchModel_other model different) fun session => by
    simpa [entry_setPytorchModel_same] using consistent key (by simpa using session)

/-- Assigning a dimension keeps the state consistent. -/
theorem setDimension (consistent : s.Consistent) (dimension : Value) :
    (s.setDimension key dimension).Consistent :=
  consistent.update key (fun _ different => entry_setDimension_other dimension different) fun session =>
    ⟨by simpa [entry_setDimension_same] using (consistent key (by simpa using session)).1,
      by simp [entry_setDimension_same]⟩

/-- A session assigned with its dimension, at a key that has a tokenizer. -/
theorem setSession_setDimension (consistent : s.Consistent) (tokenized : (s.tokenizers key).isSome)
    (session : Sess) (dimension : Value) :
    ((s.setSession key session).setDimension key dimension).Consistent :=
  consistent.update key (fun _ different => by simp [different]) fun _ =>
    ⟨by simpa [State.entry, State.setDimension, State.setSession] using tokenized,
      by simp [State.entry, State.setDimension]⟩

end State.Consistent

variable (w : World R Tok Sess Model)

/-- The try block of `load_model` keeps the state consistent, whether it
returns or raises. -/
theorem loadAttempt_consistent (key : Key) (modelName cacheDir : Value) (s : State Tok Sess Model)
    (consistent : s.Consistent) : Leaves State.Consistent (loadAttempt w key modelName cacheDir s) := by
  refine leaves_proceed_of consistent fun _ => leaves_proceed_of consistent fun tokenizer => ?_
  have tokenized := consistent.setTokenizer key tokenizer
  refine leaves_proceed_of tokenized fun _ => leaves_proceed_of tokenized fun _ => ?_
  split
  · refine leaves_proceed_of tokenized fun model => ?_
    have modelled := tokenized.setPytorchModel key model
    exact leaves_proceed_of modelled fun dimension => modelled.setDimension key dimension
  · refine leaves_proceed_of tokenized fun session => leaves_proceed_of tokenized fun dimension => ?_
    have assigned :=
      tokenized.setSession_setDimension key (by simp [State.setTokenizer]) session dimension
    exact leaves_proceed_of assigned fun _ => assigned

/-- `load_model` keeps the state consistent, whether it returns or raises. -/
theorem loadModel_consistent (s : State Tok Sess Model) (modelName cacheDir : Value)
    (consistent : s.Consistent) : Leaves State.Consistent (loadModel w s modelName cacheDir) := by
  refine leaves_proceed_of consistent fun key => ?_
  split
  · exact leaves_proceed_of consistent fun _ => consistent
  · exact loadAttempt_consistent w key modelName cacheDir s consistent

/-- `load_model` of a name with a session and a recorded dimension answers from
the state. -/
theorem loadModel_of_session (s : State Tok Sess Model) (modelName cacheDir : Value) (key : Key)
    (session : Sess) (dimension : Value) (hashed : modelName.hash = .ok key)
    (held : s.sessions key = some session) (recorded : s.dimensions key = some dimension) :
    loadModel w s modelName cacheDir =
      (s, .ok { status := "ok", message := "Model already loaded", dimension := dimension }) := by
  simp [loadModel, hashed, held, index, recorded]

/-- A try block of `load_model` that returns `Model loaded successfully` took the
ONNX path: the state it leaves holds the session at `key`, with the dimension it
answered. -/
theorem loadAttempt_onnx_recorded (key : Key) (modelName cacheDir : Value) (s : State Tok Sess Model) :
    Ends (fun s' (response : Response R) => response.message = some "Model loaded successfully" →
      ∃ session dimension, s'.sessions key = some session ∧ s'.dimensions key = some dimension ∧
        response.dimension = some dimension) (loadAttempt w key modelName cacheDir s) := by
  refine ends_proceed_of fun _ => ends_proceed_of fun _ => ends_proceed_of fun _ =>
    ends_proceed_of fun _ => ?_
  split
  · refine ends_proceed_of fun _ => ends_proceed_of fun _ => ?_
    intro _ returned fallback
    cases returned
    simp at fallback
  · refine ends_proceed_of fun session => ends_proceed_of fun dimension => ends_proceed_of fun _ => ?_
    intro _ returned _
    cases returned
    exact ⟨session, dimension, by simp [State.setDimension, State.setSession], by simp [State.setDimension], rfl⟩

/-- A `load_model` that answers `ok` with `Model loaded successfully` leaves the
session and the dimension it answered at the key of the name. -/
theorem loadModel_onnx_recorded (s : State Tok Sess Model) (modelName cacheDir : Value) :
    Ends (fun s' (response : Response R) => response.status = "ok" →
      response.message = some "Model loaded successfully" →
      ∃ key session dimension, modelName.hash = .ok key ∧ s'.sessions key = some session ∧
        s'.dimensions key = some dimension ∧ response.dimension = some dimension)
      (loadModel w s modelName cacheDir) := by
  unfold loadModel
  cases hashed : modelName.hash with
  | error e => intro _ raised; cases raised
  | ok key =>
    rw [proceed_ok]
    split
    · refine ends_proceed_of fun _ => ?_
      intro _ returned _ loaded
      cases returned
      simp at loaded
    · refine ends_rescue (fun response returned _ onnx => ?_) fun e failed => by simp [errorResponse] at failed
      obtain ⟨session, dimension, held, recorded, same⟩ :=
        loadAttempt_onnx_recorded w key modelName cacheDir s response returned onnx
      exact ⟨key, session, dimension, rfl, held, recorded, same⟩

variable [LinearOrderedField R] [SquareRoot R]

/-- Every request keeps the state consistent, whether it returns or raises. -/
theorem processRequest_consistent (s : State Tok Sess Model) (request : Value) (consistent : s.Consistent) :
    Leaves State.Consistent (processRequest w s request) := by
  refine leaves_proceed_of consistent fun method => ?_
  split
  · exact consistent
  · exact leaves_proceed_of consistent fun _ => leaves_proceed_of consistent fun _ =>
      leaves_proceed_of consistent fun _ => loadModel_consistent w s _ _ consistent
  · refine leaves_proceed_of consistent fun _ => leaves_proceed_of consistent fun _ =>
      leaves_proceed_of consistent fun _ => leaves_proceed_of consistent fun _ => ?_
    show State.Consistent (embedBatch w s _ _ _).1
    rw [embedBatch_state]
    exact consistent
  · exact consistent

/-- One served line keeps the state consistent. -/
theorem serveLine_consistent (loads : String → Except PyError Value) (s : State Tok Sess Model)
    (line : String) (consistent : s.Consistent) : (serveLine loads w s line).1.Consistent := by
  dsimp only [serveLine]
  split_ifs
  · exact consistent
  · split
    · exact consistent
    · rename_i request _
      have kept := processRequest_consistent w s request consistent
      generalize processRequest w s request = served at kept ⊢
      obtain ⟨_, _ | _⟩ := served <;> exact kept

/-- The states the server reaches from `__init__`, one line at a time, with
whatever each line holds and whatever the collaborators do while it is served. -/
inductive Reachable (R : Type) [LinearOrderedField R] [SquareRoot R] (loads : String → Except PyError Value) :
    State Tok Sess Model → Prop
  | init : Reachable R loads State.init
  | serve {s : State Tok Sess Model} (w : World R Tok Sess Model) (line : String) :
      Reachable R loads s → Reachable R loads (serveLine loads w s line).1

/-- A run from a reachable state ends in a reachable state. -/
theorem Reachable.run {loads : String → Except PyError Value} {s : State Tok Sess Model}
    (reached : Reachable R loads s) :
    ∀ lines : List (String × World R Tok Sess Model), Reachable R loads (Server.run loads s lines).1
  | [] => reached
  | (line, w) :: rest => (reached.serve w line).run rest

/-- Every reachable state is consistent. -/
theorem Reachable.consistent {loads : String → Except PyError Value} {s : State Tok Sess Model}
    (reached : Reachable R loads s) : s.Consistent := by
  induction reached with
  | init => exact init_consistent
  | serve w line _ consistent => exact serveLine_consistent w _ _ line consistent

/-- In every state the server reaches from `__init__`, whatever lines it was
sent and whatever its collaborators did, its own `d[key]` reads never raise.
For a model that `embed_batch` accepts without a PyTorch model, the ONNX path
finds both the session and the tokenizer. A name with a session has a recorded
dimension, and `load_model` of it answers `Model already loaded` with that
dimension and changes nothing, whatever the collaborators would do. -/
theorem reachable_reads_succeed {loads : String → Except PyError Value} {s : State Tok Sess Model}
    (reached : Reachable R loads s) (key : Key) :
    (s.Loaded key → s.pytorchModels key = none →
      ∃ session tokenizer, index s.sessions key = .ok session ∧ index s.tokenizers key = .ok tokenizer) ∧
    ((s.sessions key).isSome → ∃ dimension, index s.dimensions key = .ok dimension ∧
      ∀ (w : World R Tok Sess Model) (modelName cacheDir : Value), modelName.hash = .ok key →
        loadModel w s modelName cacheDir =
          (s, .ok { status := "ok", message := "Model already loaded", dimension := dimension })) := by
  have sound : EntrySound (s.entry key) := reached.consistent key
  simp only [EntrySound, State.entry] at sound
  constructor
  · intro loaded unmodelled
    obtain ⟨session, held⟩ := Option.isSome_iff_exists.mp (loaded.resolve_right (by simp [unmodelled]))
    obtain ⟨tokenizer, found⟩ := Option.isSome_iff_exists.mp (sound (by simp [held])).1
    exact ⟨session, tokenizer, by simp [index, held], by simp [index, found]⟩
  · intro present
    obtain ⟨session, held⟩ := Option.isSome_iff_exists.mp present
    obtain ⟨dimension, recorded⟩ := Option.isSome_iff_exists.mp (sound present).2
    exact ⟨dimension, by simp [index, recorded], fun w modelName cacheDir hashed =>
      loadModel_of_session w s modelName cacheDir key session dimension hashed held recorded⟩

/-- Once `load_model` answers `ok` with `Model loaded successfully` and a
dimension, the name keeps that dimension for the rest of the run. After any
further lines, served with any collaborators, `load_model` of the same name
answers `Model already loaded` with the same dimension, and changes nothing. -/
theorem onnx_dimension_stable (loads : String → Except PyError Value) (s : State Tok Sess Model)
    (modelName cacheDir : Value) (response : Response R)
    (answered : (loadModel w s modelName cacheDir).2 = .ok response) (ok : response.status = "ok")
    (onnx : response.message = some "Model loaded successfully")
    (lines : List (String × World R Tok Sess Model)) (w' : World R Tok Sess Model) (cacheDir' : Value) :
    ∃ dimension, response.dimension = some dimension ∧
      loadModel w' (run loads (loadModel w s modelName cacheDir).1 lines).1 modelName cacheDir' =
        ((run loads (loadModel w s modelName cacheDir).1 lines).1,
          .ok { status := "ok", message := "Model already loaded", dimension := dimension }) := by
  obtain ⟨key, session, dimension, hashed, held, recorded, same⟩ :=
    loadModel_onnx_recorded w s modelName cacheDir response answered ok onnx
  obtain ⟨present, kept⟩ := (run_keeps loads _ lines).session key session held
  exact ⟨dimension, same, loadModel_of_session w' _ modelName cacheDir' key session dimension hashed present
    (kept.trans recorded)⟩

/-- A cache holding `m.onnx`, which ONNX Runtime opens as a session of width
1024 on the CoreML provider. -/
def onnxWorld : World ℝ Nat Nat Nat where
  prepareCache dir := .ok dir
  fromPretrained _ _ := .ok 1
  pathExists _ := .ok true
  sentenceTransformer _ _ := .error noOnnx
  sentenceEmbeddingDimension _ := .error noOnnx
  inferenceSession _ := .ok 1
  outputDimension _ := .ok (.int 1024)
  getProviders _ := .ok ["CoreMLExecutionProvider", "CPUExecutionProvider"]
  encode _ _ _ := .error noOnnx
  tokenize _ _ := .error noOnnx
  inputNames _ := .error noOnnx
  run _ _ := .error noOnnx

/-- A decoder that reads every line as a `load_model` request for `m`. -/
def loadEveryLine : String → Except PyError Value :=
  fun _ => .ok (.dict [("method", .str "load_model"), ("params", .dict [("model", .str "m")])])

/-- After one served `load_model` line, the session of `m` comes with its
tokenizer and its dimension, and a further load answers from the state. -/
theorem loaded_onnx_reads_succeed :
    Reachable ℝ loadEveryLine (serveLine loadEveryLine onnxWorld State.init "load").1 ∧
      (((serveLine loadEveryLine onnxWorld State.init "load").1.Loaded (.str "m") →
        (serveLine loadEveryLine onnxWorld State.init "load").1.pytorchModels (.str "m") = none →
        ∃ session tokenizer,
          index (serveLine loadEveryLine onnxWorld State.init "load").1.sessions (.str "m") = .ok session ∧
          index (serveLine loadEveryLine onnxWorld State.init "load").1.tokenizers (.str "m") = .ok tokenizer) ∧
      (((serveLine loadEveryLine onnxWorld State.init "load").1.sessions (.str "m")).isSome →
        ∃ dimension, index (serveLine loadEveryLine onnxWorld State.init "load").1.dimensions (.str "m") =
          .ok dimension ∧
          ∀ (w : World ℝ Nat Nat Nat) (modelName cacheDir : Value), modelName.hash = .ok (.str "m") →
            loadModel w (serveLine loadEveryLine onnxWorld State.init "load").1 modelName cacheDir =
              ((serveLine loadEveryLine onnxWorld State.init "load").1,
                .ok { status := "ok", message := "Model already loaded", dimension := dimension }))) :=
  have reached := Reachable.serve onnxWorld "load" Reachable.init
  ⟨reached, reachable_reads_succeed reached (.str "m")⟩

/-- The first load of `m` answers with the session's width of 1024, and after
further lines a load of `m` answers `Model already loaded` with 1024 again. -/
theorem onnx_load_reported_again :
    (loadModel onnxWorld State.init (.str "m") (.str "/cache")).2 =
      .ok { status := "ok", message := "Model loaded successfully", dimension := Value.int 1024,
            providers := ["CoreMLExecutionProvider", "CPUExecutionProvider"] } ∧
    ∃ dimension, some (Value.int 1024) = some dimension ∧
      loadModel onnxWorld (run loadEveryLine (loadModel onnxWorld State.init (.str "m") (.str "/cache")).1
          [("again", onnxWorld)]).1 (.str "m") (.str "/other") =
        ((run loadEveryLine (loadModel onnxWorld State.init (.str "m") (.str "/cache")).1
          [("again", onnxWorld)]).1,
          .ok { status := "ok", message := "Model already loaded", dimension := dimension }) :=
  have answered : (loadModel onnxWorld State.init (.str "m") (.str "/cache")).2 =
      .ok { status := "ok", message := "Model loaded successfully", dimension := Value.int 1024,
            providers := ["CoreMLExecutionProvider", "CPUExecutionProvider"] } := rfl
  ⟨answered, onnx_dimension_stable onnxWorld loadEveryLine State.init (.str "m") (.str "/cache") _ answered rfl rfl
    [("again", onnxWorld)] onnxWorld (.str "/other")⟩

end AkidbEmbedding.Server
