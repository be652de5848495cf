import AkidbEmbedding.Server.Protocol

/-!
# Requests for different models do not interfere

Every dictionary of the server is keyed by model name, and a request reads and
writes the entries of one name only: `load_model` and `embed_batch` those of
their `params.model`, every other request none at all. So a request leaves the
entries of every other name as they were, and what it answers depends only on
the entries of its own name.

Over a whole run this is isolation: the lines that name one model get the same
answers whether they are served among the lines of other models or alone. The
collaborators of each line (the `World` it is served with) are the same in both
runs.
-/

namespace AkidbEmbedding.Server

open AkidbEmbedding.Python AkidbEmbedding.Pooling

variable {R Tok Sess Model : Type}

/-- The four dictionary entries under one key. -/
def State.entry (s : State Tok Sess Model) (key : Key) :
    Option Sess × Option Tok × Option Value × Option Model :=
  (s.sessions key, s.tokenizers key, s.dimensions key, s.pytorchModels key)

/-- The key a request's model hashes to: `load_model` and `embed_batch` read
`params.model`, with `None` when it is missing; other requests name no model, and
neither does one whose members cannot be read or whose model cannot be hashed. -/
def requestKey (request : Value) : Option Key :=
  match request.get "method" .none with
  | .ok (.str "load_model") | .ok (.str "embed_batch") =>
    (request.get "params" (.dict []) >>= fun params => params.get "model" .none >>= Value.hash).toOption
  | _ => none

/-- The key a line of the input names: a blank line or one that does not decode
names none. -/
def lineKey (loads : String → Except PyError Value) (line : String) : Option Key :=
  if (strip line).isEmpty then none
  else match loads (strip line) with
    | .ok request => requestKey request
    | .error _ => none

section Entries

variable {s : State Tok Sess Model} {key other : Key}

@[simp] theorem entry_setSession_other (session : Sess) (different : other ≠ key) :
    (s.setSession other session).entry key = s.entry key := by
  simp [State.entry, State.setSession, Function.update_noteq different.symm]

@[simp] theorem entry_setTokenizer_other (tokenizer : Tok) (different : other ≠ key) :
    (s.setTokenizer other tokenizer).entry key = s.entry key := by
  simp [State.entry, State.setTokenizer, Function.update_noteq different.symm]

@[simp] theorem entry_setDimension_other (dimension : Value) (different : other ≠ key) :
    (s.setDimension other dimension).entry key = s.entry key := by
  simp [State.entry, State.setDimension, Function.update_noteq different.symm]

@[simp] theorem entry_setPytorchModel_other (model : Model) (different : other ≠ key) :
    (s.setPytorchModel other model).entry key = s.entry key := by
  simp [State.entry, State.setPytorchModel, Function.update_noteq different.symm]

@[simp] theorem entry_setSession_same (session : Sess) :
    (s.setSession key session).entry key = (some session, (s.entry key).2) := by
  simp [State.entry, State.setSession]

@[simp] theorem entry_setTokenizer_same (tokenizer : Tok) :
    (s.setTokenizer key tokenizer).entry key = ((s.entry key).1, some tokenizer, (s.entry key).2.2) := by
  simp [State.entry, State.setTokenizer]

@[simp] theorem entry_setDimension_same (dimension : Value) :
    (s.setDimension key dimension).entry key =
      ((s.entry key).1, (s.entry key).2.1, some dimension, (s.entry key).2.2.2) := by
  simp [State.entry, State.setDimension]

@[simp] theorem entry_setPytorchModel_same (model : Model) :
    (s.setPytorchModel key model).entry key =
      ((s.entry key).1, (s.entry key).2.1, (s.entry key).2.2.1, some model) := by
  simp [State.entry, State.setPytorchModel]

end Entries

variable (w : World R Tok Sess Model)

section Frame

variable (key : Key)

/-- The try block of `load_model` for one key writes no entry of another. -/
theorem loadAttempt_frame (other : Key) (different : other ≠ key) (modelName cacheDir : Value)
    (s : State Tok Sess Model) :
    Leaves (fun s' => s'.entry key = s.entry key) (loadAttempt w other modelName cacheDir s) := by
  refine leaves_proceed_of rfl fun _ => leaves_proceed_of rfl fun tokenizer => ?_
  have tokenized := entry_setTokenizer_other (s := s) tokenizer different
  refine leaves_proceed_of tokenized fun _ => leaves_proceed_of tokenized fun _ => ?_
  split
  · exact leaves_proceed_of tokenized fun model =>
      leaves_proceed_of ((entry_setPytorchModel_other model different).trans tokenized) fun dimension =>
        ((entry_setDimension_other dimension different).trans
          (entry_setPytorchModel_other model different)).trans tokenized
  · refine leaves_proceed_of tokenized fun session => leaves_proceed_of tokenized fun dimension => ?_
    have assigned := ((entry_setDimension_other dimension different).trans
      (entry_setSession_other session different)).trans tokenized
    exact leaves_proceed_of assigned fun _ => assigned

/-- `load_model` of a name whose key is not `key` writes no entry of `key`. -/
theorem loadModel_frame (s : State Tok Sess Model) (modelName cacheDir : Value)
    (hashed : modelName.hash ≠ .ok key) :
    Leaves (fun s' => s'.entry key = s.entry key) (loadModel w s modelName cacheDir) := by
  refine (leaves_proceed _ _ _ _).mpr ⟨fun _ _ => rfl, fun other found => ?_⟩
  have different : other ≠ key := fun same => hashed (same ▸ found)
  split
  · exact leaves_proceed_of rfl fun _ => rfl
  · exact loadAttempt_frame w key other different modelName cacheDir s

variable [LinearOrderedField R] [SquareRoot R]

/-- `embed_batch` writes nothing. -/
theorem embedBatch_state (s : State Tok Sess Model) (modelName inputs normalize : Value) :
    (embedBatch w s modelName inputs normalize).1 = s := by
  unfold embedBatch
  cases modelName.hash with
  | error e => rfl
  | ok found => dsimp only [proceed]; split <;> rfl

/-- A request that does not name `key` writes no entry of `key`. -/
theorem processRequest_frame (s : State Tok Sess Model) (request : Value)
    (other : requestKey request ≠ some key) :
    Leaves (fun s' => s'.entry key = s.entry key) (processRequest w s request) := by
  refine (leaves_proceed _ _ _ _).mpr ⟨fun _ _ => rfl, fun method got => ?_⟩
  split
  · exact rfl
  · simp only [requestKey, got] at other
    refine (leaves_proceed _ _ _ _).mpr ⟨fun _ _ => rfl, fun params gotParams => ?_⟩
    refine (leaves_proceed _ _ _ _).mpr ⟨fun _ _ => rfl, fun modelName gotModel => ?_⟩
    refine leaves_proceed_of rfl fun cacheDir => loadModel_frame w key s modelName cacheDir ?_
    intro hashed
    simp [gotParams, gotModel, hashed, bind, Except.bind, Except.toOption] at other
  · refine leaves_proceed_of rfl fun _ => leaves_proceed_of rfl fun _ =>
      leaves_proceed_of rfl fun _ => leaves_proceed_of rfl fun _ => ?_
    exact congrArg (State.entry · key) (embedBatch_state w s _ _ _)
  · exact rfl

end Frame

/-- Two runs of a handler behave alike under `key`: they leave the same entries
there and return, or raise, the same. -/
def Alike {α : Type} (key : Key) (first second : Exec (State Tok Sess Model) α) : Prop :=
  first.1.entry key = second.1.entry key ∧ first.2 = second.2

section Locality

variable (key : Key) {s₁ s₂ : State Tok Sess Model}

/-- Assigning one session under `key` keeps two states' agreement there. -/
theorem entry_setSession_congr (agree : s₁.entry key = s₂.entry key) (session : Sess) :
    (s₁.setSession key session).entry key = (s₂.setSession key session).entry key := by
  rw [entry_setSession_same, entry_setSession_same, agree]

/-- Assigning one tokenizer under `key` keeps two states' agreement there. -/
theorem entry_setTokenizer_congr (agree : s₁.entry key = s₂.entry key) (tokenizer : Tok) :
    (s₁.setTokenizer key tokenizer).entry key = (s₂.setTokenizer key tokenizer).entry key := by
  rw [entry_setTokenizer_same, entry_setTokenizer_same, agree]

/-- Assigning one dimension under `key` keeps two states' agreement there. -/
theorem entry_setDimension_congr (agree : s₁.entry key = s₂.entry key) (dimension : Value) :
    (s₁.setDimension key dimension).entry key = (s₂.setDimension key dimension).entry key := by
  rw [entry_setDimension_same, entry_setDimension_same, agree]

/-- Assigning one PyTorch model under `key` keeps two states' agreement there. -/
theorem entry_setPytorchModel_congr (agree : s₁.entry key = s₂.entry key) (model : Model) :
    (s₁.setPytorchModel key model).entry key = (s₂.setPytorchModel key model).entry key := by
  rw [entry_setPytorchModel_same, entry_setPytorchModel_same, agree]

/-- A call made from two states that agree under `key` behaves alike when every
continuation does. -/
theorem alike_proceed {α β : Type} (agree : s₁.entry key = s₂.entry key) {call : Except PyError α}
    {next₁ next₂ : α → Exec (State Tok Sess Model) β}
    (continued : ∀ value, call = .ok value → Alike key (next₁ value) (next₂ value)) :
    Alike key (proceed s₁ call next₁) (proceed s₂ call next₂) := by
  cases call with
  | error e => exact ⟨agree, rfl⟩
  | ok value => exact continued value rfl

/-- Two bodies that behave alike still do under the same handler. -/
theorem alike_rescue {α : Type} {first second : Exec (State Tok Sess Model) α}
    (alike : Alike key first second) (handler : PyError → α) :
    Alike key (rescue first handler) (rescue second handler) :=
  ⟨alike.1, by simp only [rescue_snd, alike.2]⟩

/-- The try block of `load_model` for `key` depends on the entries of `key` only. -/
theorem loadAttempt_alike (modelName cacheDir : Value) (agree : s₁.entry key = s₂.entry key) :
    Alike key (loadAttempt w key modelName cacheDir s₁) (loadAttempt w key modelName cacheDir s₂) := by
  refine alike_proceed key agree fun _ _ => alike_proceed key agree fun tokenizer _ => ?_
  have tokenized := entry_setTokenizer_congr key agree tokenizer
  refine alike_proceed key tokenized fun _ _ => alike_proceed key tokenized fun _ _ => ?_
  split
  · refine alike_proceed key tokenized fun model _ => ?_
    have stored := entry_setPytorchModel_congr key tokenized model
    exact alike_proceed key stored fun dimension _ => ⟨entry_setDimension_congr key stored dimension, rfl⟩
  · refine alike_proceed key tokenized fun session _ => alike_proceed key tokenized fun dimension _ => ?_
    have assigned := entry_setDimension_congr key (entry_setSession_congr key tokenized session) dimension
    exact alike_proceed key assigned fun _ _ => ⟨assigned, rfl⟩

/-- `load_model` of a name hashing to `key` depends on the entries of `key` only. -/
theorem loadModel_alike (modelName cacheDir : Value) (hashed : modelName.hash = .ok key)
    (agree : s₁.entry key = s₂.entry key) :
    Alike key (loadModel w s₁ modelName cacheDir) (loadModel w s₂ modelName cacheDir) := by
  have sessions : s₁.sessions key = s₂.sessions key := congrArg Prod.fst agree
  have dimensions : s₁.dimensions key = s₂.dimensions key := congrArg (·.2.2.1) agree
  simp only [loadModel, hashed, proceed_ok, sessions]
  cases s₂.sessions key with
  | some _ => simp only [index, dimensions]; exact alike_proceed key agree fun _ _ => ⟨agree, rfl⟩
  | none => exact alike_rescue key (loadAttempt_alike w key modelName cacheDir agree) _

variable [LinearOrderedField R] [SquareRoot R]

/-- The try block of `embed_batch` reads the entries of `key` only. -/
theorem embedAttempt_local (inputs normalize : Value) (agree : s₁.entry key = s₂.entry key) :
    embedAttempt w s₁ key inputs normalize = embedAttempt w s₂ key inputs normalize := by
  simp only [State.entry, Prod.mk.injEq] at agree
  obtain ⟨sessions, tokenizers, -, models⟩ := agree
  simp only [embedAttempt, index, sessions, tokenizers, models]

/-- `embed_batch` of a name hashing to `key` depends on the entries of `key` only. -/
theorem embedBatch_alike (modelName inputs normalize : Value) (hashed : modelName.hash = .ok key)
    (agree : s₁.entry key = s₂.entry key) :
    Alike key (embedBatch w s₁ modelName inputs normalize) (embedBatch w s₂ modelName inputs normalize) := by
  refine ⟨by rw [embedBatch_state, embedBatch_state, agree], ?_⟩
  have sessions : s₁.sessions key = s₂.sessions key := congrArg Prod.fst agree
  have models : s₁.pytorchModels key = s₂.pytorchModels key := congrArg (·.2.2.2) agree
  simp only [embedBatch, hashed, proceed_ok, sessions, models, embedAttempt_local w key inputs normalize agree]
  split <;> rfl

/-- A request naming `key` depends on the entries of `key` only. -/
theorem processRequest_alike (request : Value) (keyed : requestKey request = some key)
    (agree : s₁.entry key = s₂.entry key) :
    Alike key (processRequest w s₁ request) (processRequest w s₂ request) := by
  refine alike_proceed key agree fun method got => ?_
  split
  · exact ⟨agree, rfl⟩
  · simp only [requestKey, got] at keyed
    refine alike_proceed key agree fun params gotParams => alike_proceed key agree fun modelName gotModel =>
      alike_proceed key agree fun cacheDir _ => loadModel_alike w key modelName cacheDir ?_ agree
    cases found : modelName.hash <;> simp_all [bind, Except.bind, Except.toOption]
  · simp only [requestKey, got] at keyed
    refine alike_proceed key agree fun params gotParams => alike_proceed key agree fun modelName gotModel =>
      alike_proceed key agree fun _ _ => alike_proceed key agree fun _ _ =>
        embedBatch_alike w key modelName _ _ ?_ agree
    cases found : modelName.hash <;> simp_all [bind, Except.bind, Except.toOption]
  · exact ⟨agree, rfl⟩

end Locality

variable [LinearOrderedField R] [SquareRoot R] (loads : String → Except PyError Value)

/-- A line that does not name `key` writes no entry of `key`. -/
theorem serveLine_frame (key : Key) (s : State Tok Sess Model) (line : String)
    (other : lineKey loads line ≠ some key) : (serveLine loads w s line).1.entry key = s.entry key := by
  unfold lineKey at other
  dsimp only [serveLine]
  split_ifs at other ⊢
  · rfl
  · cases decoded : loads (strip line) with
    | error e => rfl
    | ok request =>
      simp only [decoded] at other ⊢
      have kept := processRequest_frame w key s request other
      generalize processRequest w s request = served at kept ⊢
      obtain ⟨_, _ | _⟩ := served <;> exact kept

/-- A line naming `key`, served from two states that agree under `key`, prints
the same and leaves them agreeing. -/
theorem serveLine_alike (key : Key) {s₁ s₂ : State Tok Sess Model} (line : String)
    (keyed : lineKey loads line = some key) (agree : s₁.entry key = s₂.entry key) :
    (serveLine loads w s₁ line).2 = (serveLine loads w s₂ line).2 ∧
      (serveLine loads w s₁ line).1.entry key = (serveLine loads w s₂ line).1.entry key := by
  unfold lineKey at keyed
  dsimp only [serveLine]
  split_ifs at keyed ⊢
  cases decoded : loads (strip line) with
  | error e => simp [decoded] at keyed
  | ok request =>
    simp only [decoded] at keyed ⊢
    obtain ⟨entries, answers⟩ := processRequest_alike w key request keyed agree
    revert entries answers
    generalize processRequest w s₁ request = first
    generalize processRequest w s₂ request = second
    rcases first with ⟨_, _ | _⟩ <;> rcases second with ⟨_, _ | _⟩ <;> intro entries answers <;>
      simp_all

/-- The lines of a run, each with what was printed for it, in order. -/
def transcript : State Tok Sess Model → List (String × World R Tok Sess Model) →
    List (String × List (Response R))
  | _, [] => []
  | s, (line, w) :: rest =>
    (line, (serveLine loads w s line).2) :: transcript (serveLine loads w s line).1 rest

/-- Run from two states that agree under `key`, the lines naming `key` get the
same answers among all the lines as they get alone. -/
theorem transcript_filter (key : Key) (lines : List (String × World R Tok Sess Model)) :
    ∀ s₁ s₂ : State Tok Sess Model, s₁.entry key = s₂.entry key →
      (transcript loads s₁ lines).filter (fun entry => lineKey loads entry.1 = some key) =
        transcript loads s₂ (lines.filter fun line => lineKey loads line.1 = some key) := by
  induction lines with
  | nil => exact fun _ _ _ => rfl
  | cons line rest inductionHypothesis =>
    obtain ⟨line, w⟩ := line
    intro s₁ s₂ agree
    by_cases keyed : lineKey loads line = some key
    · obtain ⟨answers, entries⟩ := serveLine_alike w loads key line keyed agree
      simp only [transcript, List.filter_cons, keyed, decide_True, if_true, answers,
        inductionHypothesis _ _ entries]
    · simp only [transcript, List.filter_cons, keyed, decide_False, Bool.false_eq_true, if_false]
      exact inductionHypothesis _ _ ((serveLine_frame w loads key s₁ line keyed).trans agree)

/-- A request leaves the entries of every model other than its own as they
were, whatever it asks and whether it succeeds, fails or raises. So the lines
that name one model, served among the lines of any other models, get exactly
the answers they get when they are served alone. -/
theorem requests_isolated_by_model (key : Key) :
    (∀ (s : State Tok Sess Model) (w : World R Tok Sess Model) (line : String),
      lineKey loads line ≠ some key → (serveLine loads w s line).1.entry key = s.entry key) ∧
    ∀ (s : State Tok Sess Model) (lines : List (String × World R Tok Sess Model)),
      (transcript loads s lines).filter (fun entry => lineKey loads entry.1 = some key) =
        transcript loads s (lines.filter fun line => lineKey loads line.1 = some key) :=
  ⟨fun s w line other => serveLine_frame w loads key s line other,
    fun s lines => transcript_filter loads key lines s s rfl⟩

end AkidbEmbedding.Server
