import AkidbEmbedding.Server.Protocol

/-!
# Every request line is answered

The loop of `ONNXEmbeddingServer.run` prints one response for every line that is
not blank, whatever the line holds and whatever the collaborators do, and then
reads the next line. Two facts carry this. Every response the server builds is
well formed: its status is `ok`, or `error` with a message. And no exception
leaves an iteration: the ones raised inside `load_model` and `embed_batch` meet
their own try blocks, and the rest, from a line that is not JSON, a request that
is not a dict or a model name that cannot be hashed, meet the loop's two
handlers.
-/

namespace AkidbEmbedding.Server

open AkidbEmbedding.Python AkidbEmbedding.Pooling

variable {R Tok Sess Model : Type}

/-- A response the protocol allows: status `ok`, or `error` with a message. -/
def Response.WellFormed (response : Response R) : Prop :=
  response.status = "ok" ∨ (response.status = "error" ∧ response.message.isSome)

/-- An error response carries its message. -/
theorem errorResponse_wellFormed (text : String) : (errorResponse text : Response R).WellFormed :=
  .inr ⟨rfl, rfl⟩

/-- The answers of `run`'s except handlers are error responses. -/
theorem loopHandler_wellFormed (e : PyError) : (loopHandler e : Response R).WellFormed := by
  unfold loopHandler
  split_ifs <;> exact errorResponse_wellFormed _

/-- What the try block of `load_model` returns is one of its two `ok` literals. -/
theorem loadAttempt_status (w : World R Tok Sess Model) (key : Key) (modelName cacheDir : Value)
    (s : State Tok Sess Model) :
    Returns (fun response : Response R => response.status = "ok")
      (loadAttempt w key modelName cacheDir s) := by
  simp only [loadAttempt, returns_proceed]
  intro _ _ _ _ _ _ present _
  split <;> simp

/-- `load_model` answers with a well-formed response when it does not raise. -/
theorem loadModel_wellFormed (w : World R Tok Sess Model) (s : State Tok Sess Model)
    (modelName cacheDir : Value) :
    Returns (fun response : Response R => response.WellFormed) (loadModel w s modelName cacheDir) := by
  simp only [loadModel, returns_proceed]
  intro key _
  split
  · simp [Response.WellFormed]
  · exact returns_rescue _ _ _ (fun response returned => .inl (loadAttempt_status w key
      modelName cacheDir s response returned)) fun e => errorResponse_wellFormed e.text

variable [LinearOrderedField R] [SquareRoot R]

/-- What a returned try block of `embed_batch` answered: the PyTorch model's
encoding, or rows of one width pooled from the session's hidden states, with
the number of inputs. -/
theorem embedAttempt_returned (w : World R Tok Sess Model) (s : State Tok Sess Model) (key : Key)
    (inputs normalize : Value) (response : Response R)
    (returned : embedAttempt w s key inputs normalize = .ok response) :
    (∃ embeddings count, (s.pytorchModels key).isSome ∧
      response = { status := "ok", embeddings := some embeddings, count := some count }) ∨
    (s.pytorchModels key = none ∧ ∃ (width : Nat) (rows : List (Fin width → R)) (count : Nat),
      response =
        { status := "ok", embeddings := Embeddings.rows (rows.map List.ofFn), count := some count }) := by
  unfold embedAttempt at returned
  split at returned
  · rename_i found
    obtain ⟨embeddings, -, returned⟩ := except_bind_ok returned
    obtain ⟨count, -, returned⟩ := except_bind_ok returned
    cases returned
    exact .inl ⟨embeddings, count, by simp [found], rfl⟩
  · rename_i absent
    obtain ⟨_, -, returned⟩ := except_bind_ok returned
    obtain ⟨_, -, returned⟩ := except_bind_ok returned
    obtain ⟨_, -, returned⟩ := except_bind_ok returned
    obtain ⟨_, -, returned⟩ := except_bind_ok returned
    obtain ⟨output, -, returned⟩ := except_bind_ok returned
    obtain ⟨_, -, returned⟩ := except_bind_ok returned
    obtain ⟨count, -, returned⟩ := except_bind_ok returned
    cases returned
    exact .inr ⟨absent, output.width, _, count, rfl⟩

/-- `embed_batch` answers with a well-formed response when it does not raise. -/
theorem embedBatch_wellFormed (w : World R Tok Sess Model) (s : State Tok Sess Model)
    (modelName inputs normalize : Value) :
    Returns (fun response : Response R => response.WellFormed)
      (embedBatch w s modelName inputs normalize) := by
  simp only [embedBatch, returns_proceed]
  intro key _
  split
  · exact (returns_ok _ _ _).mpr (errorResponse_wellFormed _)
  · refine (returns_ok _ _ _).mpr ?_
    split
    · rcases embedAttempt_returned w s key inputs normalize _ ‹_› with ⟨-, -, -, rfl⟩ | ⟨-, -, -, -, rfl⟩ <;>
        exact .inl rfl
    · exact errorResponse_wellFormed _

/-- `process_request` answers with a well-formed response when it does not
raise, for every request value. -/
theorem processRequest_wellFormed (w : World R Tok Sess Model) (s : State Tok Sess Model)
    (request : Value) :
    Returns (fun response : Response R => response.WellFormed) (processRequest w s request) := by
  refine returns_proceed_of fun method => ?_
  split
  · simp [Response.WellFormed]
  · exact returns_proceed_of fun _ => returns_proceed_of fun _ => returns_proceed_of fun _ =>
      loadModel_wellFormed w s _ _
  · exact returns_proceed_of fun _ => returns_proceed_of fun _ => returns_proceed_of fun _ =>
      returns_proceed_of fun _ => embedBatch_wellFormed w s _ _ _
  · exact (returns_ok _ _ _).mpr (errorResponse_wellFormed _)

/-- One iteration prints nothing for a blank line and exactly one well-formed
response for any other line. -/
theorem serveLine_answers (loads : String → Except PyError Value) (w : World R Tok Sess Model)
    (s : State Tok Sess Model) (line : String) :
    (serveLine loads w s line).2.length = (if (strip line).isEmpty then 0 else 1) ∧
      ∀ response ∈ (serveLine loads w s line).2, response.WellFormed := by
  dsimp only [serveLine]
  split_ifs with blank
  · simp
  · split
    · simpa using loopHandler_wellFormed _
    · split
      · rename_i processed
        simpa using processRequest_wellFormed w s _ _ (congrArg Prod.snd processed)
      · simpa using loopHandler_wellFormed _

/-- The loop continues after every line: a run over two blocks of lines is the
run over the first, then the run over the second from the state it left. -/
theorem run_append (loads : String → Except PyError Value) (s : State Tok Sess Model)
    (before after : List (String × World R Tok Sess Model)) :
    run loads s (before ++ after) =
      ((run loads (run loads s before).1 after).1,
        (run loads s before).2 ++ (run loads (run loads s before).1 after).2) := by
  induction before generalizing s with
  | nil => rfl
  | cons line rest inductionHypothesis =>
    rw [List.cons_append]
    simp only [run, inductionHypothesis, List.append_assoc]

/-- For every finite sequence of lines, whatever they hold and whatever the
collaborators do while each is served, `run` prints exactly one response per line
that is not blank, every one of them well formed, and goes on with the next line
after each: the responses of the whole input are those of any prefix followed by
those of the rest, served from the state the prefix left. -/
theorem run_answers_every_line (loads : String → Except PyError Value)
    (s : State Tok Sess Model) (lines : List (String × World R Tok Sess Model)) :
    (run loads s lines).2.length = (lines.filter fun line => !(strip line.1).isEmpty).length ∧
      (∀ response ∈ (run loads s lines).2, response.WellFormed) ∧
      ∀ before after, lines = before ++ after →
        run loads s lines = ((run loads (run loads s before).1 after).1,
          (run loads s before).2 ++ (run loads (run loads s before).1 after).2) := by
  refine ⟨?_, ?_, fun before after split => split ▸ run_append loads s before after⟩
  · induction lines generalizing s with
    | nil => rfl
    | cons line rest inductionHypothesis =>
      obtain ⟨count, -⟩ := serveLine_answers loads line.2 s line.1
      by_cases blank : (strip line.1).isEmpty
      · simp [run, count, inductionHypothesis, List.filter_cons, blank]
      · simp [run, count, inductionHypothesis, List.filter_cons, blank, Nat.add_comm]
  · induction lines generalizing s with
    | nil => simp [run]
    | cons line rest inductionHypothesis =>
      obtain ⟨-, wellFormed⟩ := serveLine_answers loads line.2 s line.1
      intro response member
      rcases List.mem_append.mp member with first | later
      · exact wellFormed response first
      · exact inductionHypothesis _ response later

end AkidbEmbedding.Server
