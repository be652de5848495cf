import AkidbEmbedding.Mlx.Service
import AkidbEmbedding.Server.Registry

/-!
# Reported dimensions and returned widths

Both front ends report a dimension when a model is loaded and return vectors
later, and neither compares the two. `EmbeddingService` reports the registry's
dimension and returns vectors of the width of the network `mlx_lm` loads from
the model directory. The server reports the last axis of the session's declared
output shape, or what the PyTorch model says, and returns rows of the width of
the hidden states the session actually produces.
-/

namespace AkidbEmbedding

open AkidbEmbedding.Python AkidbEmbedding.Pooling AkidbEmbedding.Cache AkidbEmbedding.Mlx
  AkidbEmbedding.Server

variable {R Tok Sess Model : Type} [LinearOrderedField R] [SquareRoot R]

/-- Every vector `EmbeddingService.embed` returns has the width of the loaded
network, whatever dimension the service reports. -/
theorem service_embed_width (service : EmbeddingService R) (texts : List String)
    (vectors : List (List R)) (returned : service.embed texts = .ok vectors) :
    ∀ v ∈ vectors, v.length = service.mlxModel.model.width := by
  unfold EmbeddingService.embed at returned
  cases embedded : service.mlxModel.embed texts service.pooling service.normalize with
  | error e => simp [embedded, Except.map] at returned
  | ok embeddings =>
    simp only [embedded, Except.map, Except.ok.injEq] at returned
    subst returned
    intro v member
    obtain ⟨e, -, rfl⟩ := List.mem_map.mp member
    exact List.length_ofFn e

/-- A world whose ONNX session declares 384 output dimensions but returns hidden
states two wide, for one token. -/
def narrowSessionWorld : World ℝ Nat Nat Nat where
  prepareCache dir := .ok dir
  fromPretrained _ _ := .ok 0
  pathExists _ := .ok true
  sentenceTransformer _ _ := .error noOnnx
  sentenceEmbeddingDimension _ := .error noOnnx
  inferenceSession _ := .ok 0
  outputDimension _ := .ok (.int 384)
  getProviders _ := .ok ["CPUExecutionProvider"]
  encode _ _ _ := .error noOnnx
  tokenize _ _ := .ok ⟨1, [fun _ => 1], [fun _ => 1], none⟩
  inputNames _ := .ok ["input_ids", "attention_mask"]
  run _ _ := .ok ⟨1, 2, [fun _ _ => 1]⟩

set_option maxRecDepth 4000 in
/-- On both front ends the reported dimension and the returned width part. The
service is built for a network eight wide, reports the registry's 1024, and
returns vectors eight long for every batch; the server reports the session's
declared 384 and returns rows two wide. -/
theorem reported_dimension_differs :
    (∃ service, (EmbeddingService.init (fun _ => []) "/cache" cachedRoot fetchAll
        (probeLoader (.dict [("hidden_size", .int 8)]) 8) shortConfig (some "qwen3-0.6b-4bit") none
        none none).2 = .ok service ∧ service.dimension = 1024 ∧
      (service.embed ["hello"]).map (·.map List.length) = .ok [8] ∧
      ∀ texts vectors, service.embed texts = .ok vectors → ∀ v ∈ vectors, v.length = 8) ∧
    (loadModel narrowSessionWorld State.init (.str "m") (.str "/cache")).2 = .ok
      { status := "ok", message := "Model loaded successfully", dimension := Value.int 384,
        providers := ["CPUExecutionProvider"] } ∧
    ∃ response rows, (embedBatch narrowSessionWorld
        (loadModel narrowSessionWorld State.init (.str "m") (.str "/cache")).1 (.str "m")
        (.list [.str "hello"]) (.bool false)).2 = .ok response ∧
      response.status = "ok" ∧ response.embeddings = some (.rows rows) ∧ rows.map List.length = [2] :=
  ⟨⟨_, rfl, rfl, rfl, service_embed_width _⟩, rfl, _, _, rfl, rfl, rfl, rfl⟩

end AkidbEmbedding
