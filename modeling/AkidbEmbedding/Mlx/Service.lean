import AkidbEmbedding.Mlx.Inference
import AkidbEmbedding.Cache.Loader

/-!
# The MLX embedding service

`EmbeddingService` resolves its settings, each from the explicit argument when
it is not `None` and from the configuration otherwise, reads the registry entry
of the resolved model, makes sure the model is in the cache, and loads the MLX
engine from the model's directory. `embed` hands the texts to the engine with
the resolved pooling and normalisation, and the engine tokenizes them to its
default length of 512.

The configuration is taken as already loaded: how `from_yaml` finds and parses
its file is outside the model. Its `batch_size` is read by nothing here and is
left out.
-/

namespace AkidbEmbedding.Mlx

open AkidbEmbedding.Python AkidbEmbedding.Pooling AkidbEmbedding.Cache

/-- `EmbeddingConfig`, with the defaults of its constructor. -/
structure EmbeddingConfig where
  modelName : String := "qwen3-0.6b-4bit"
  pooling : String := "mean"
  normalize : Bool := true
  maxTokens : Nat := 512
  autoDownload : Bool := true

/-- A constructed `EmbeddingService`: its resolved settings, the registry values
it keeps, the model directory and the loaded engine. -/
structure EmbeddingService (R : Type) where
  modelName : String
  pooling : String
  normalize : Bool
  dimension : Nat
  maxTokens : Nat
  modelPath : String
  mlxModel : MLXEmbeddingModel R

variable {R : Type}

/-- The cache check of `EmbeddingService.__init__`: `download_model` finds the
cached model, or fetches it when `auto_download` is set; otherwise the
construction fails. -/
def ensureModel (hub : String → List String) (root : String) (cache : CacheRoot)
    (fetch : (files : List String) → Snapshot files) (modelName : String) (autoDownload : Bool) :
    CacheRoot × Except PyError String :=
  if isModelCached cache modelName then downloadModel hub root cache modelName false fetch
  else if autoDownload then downloadModel hub root cache modelName false fetch
  else (cache, .error ⟨"ValueError", "Model '" ++ modelName ++ "' not cached and auto_download=False"⟩)

/-- A cache check that returned a path ran `download_model(model_name)`. -/
theorem ensureModel_ok (hub : String → List String) (root : String) (cache : CacheRoot)
    (fetch : (files : List String) → Snapshot files) (modelName : String) (autoDownload : Bool)
    (path : String) (returned : (ensureModel hub root cache fetch modelName autoDownload).2 = .ok path) :
    ensureModel hub root cache fetch modelName autoDownload =
      downloadModel hub root cache modelName false fetch := by
  unfold ensureModel at returned ⊢
  split_ifs at returned ⊢ <;> rfl

/-- The error of `get_cache_dir() / model_name` when `model_name` is `None`. -/
def noneDivisionError : PyError :=
  ⟨"TypeError", "unsupported operand type(s) for /: 'PosixPath' and 'NoneType'"⟩

/-- `EmbeddingService.__init__`. The settings are resolved first, then the
registry entry of the resolved name is read; the cache check and the download
take the `model_name` argument as given, and `cache_dir / None` raises. -/
def EmbeddingService.init (hub : String → List String) (root : String) (cache : CacheRoot)
    (fetch : (files : List String) → Snapshot files) (loader : Loader R) (config : EmbeddingConfig)
    (modelName : Option String) (autoDownload : Option Bool) (pooling : Option String)
    (normalize : Option Bool) : CacheRoot × Except PyError (EmbeddingService R) :=
  let resolvedName := modelName.getD config.modelName
  let pooling := pooling.getD config.pooling
  let normalize := normalize.getD config.normalize
  let autoDownload := autoDownload.getD config.autoDownload
  match getModelInfo resolvedName with
  | .error e => (cache, .error e)
  | .ok info =>
    match modelName with
    | none => (cache, .error noneDivisionError)
    | some name =>
      let downloaded := ensureModel hub root cache fetch name autoDownload
      match downloaded.2 with
      | .error e => (downloaded.1, .error e)
      | .ok modelPath =>
        (downloaded.1, (MLXEmbeddingModel.init loader modelPath).map fun mlxModel =>
          ⟨resolvedName, pooling, normalize, info.dimension, info.maxTokens, modelPath, mlxModel⟩)

/-- `EmbeddingService.embed(texts)`: the engine's `embed` with the resolved
settings, converted by `tolist()`. -/
def EmbeddingService.embed [LinearOrderedField R] [SquareRoot R] (service : EmbeddingService R)
    (texts : List String) : Except PyError (List (List R)) :=
  (service.mlxModel.embed texts service.pooling service.normalize).map fun embeddings =>
    embeddings.map List.ofFn

section Construction

variable (hub : String → List String) (root : String) (cache : CacheRoot)
  (fetch : (files : List String) → Snapshot files) (loader : Loader R) (config : EmbeddingConfig)
  (modelName : Option String) (autoDownload : Option Bool) (pooling : Option String)
  (normalize : Option Bool)

/-- What a construction that returned did: it resolved the settings, read the
registry entry of the resolved name, downloaded (or found) exactly that model,
and loaded the engine from the path the download returned. -/
theorem init_returned (service : EmbeddingService R)
    (constructed : (EmbeddingService.init hub root cache fetch loader config modelName autoDownload
      pooling normalize).2 = .ok service) :
    service.modelName = modelName.getD config.modelName ∧
      service.pooling = pooling.getD config.pooling ∧
      service.normalize = normalize.getD config.normalize ∧
      (∃ info, getModelInfo service.modelName = .ok info ∧ service.dimension = info.dimension ∧
        service.maxTokens = info.maxTokens) ∧
      (EmbeddingService.init hub root cache fetch loader config modelName autoDownload pooling
        normalize).1 = (downloadModel hub root cache service.modelName false fetch).1 ∧
      (downloadModel hub root cache service.modelName false fetch).2 = .ok service.modelPath ∧
      MLXEmbeddingModel.init loader service.modelPath = .ok service.mlxModel := by
  unfold EmbeddingService.init at constructed ⊢
  cases registered : getModelInfo (modelName.getD config.modelName) with
  | error e => simp only [registered] at constructed; cases constructed
  | ok info =>
    cases modelName with
    | none => simp only [registered] at constructed; cases constructed
    | some name =>
      simp only [Option.getD_some] at registered constructed ⊢
      simp only [registered] at constructed ⊢
      cases found : ensureModel hub root cache fetch name (autoDownload.getD config.autoDownload) with
      | mk cache' result =>
        rw [found] at constructed
        cases result with
        | error e => cases constructed
        | ok path =>
          have chosen := ensureModel_ok hub root cache fetch name _ path (by rw [found])
          rw [found] at chosen
          cases loaded : MLXEmbeddingModel.init loader path with
          | error e => simp only [loaded, Except.map] at constructed; cases constructed
          | ok mlxModel =>
            simp only [loaded, Except.map, Except.ok.injEq] at constructed
            subst constructed
            exact ⟨rfl, rfl, rfl, ⟨info, registered, rfl, rfl⟩, congrArg Prod.fst chosen,
              (congrArg Prod.snd chosen).symm, loaded⟩

/-- How a service resolves its settings. Without an explicit `model_name` the
construction always raises: the registry is read under the configuration's name,
but the cache check joins `None` onto the cache root. With one, a constructed
service takes each setting from the explicit argument when that is not `None`
and from the configuration otherwise; it found or fetched, and loaded, exactly
the resolved model, whose registry dimension it reports; and it embeds with the
engine under the resolved pooling and normalisation, which tokenizes to its
default length of 512. The configuration's `max_tokens` changes nothing. -/
theorem service_resolves_settings [LinearOrderedField R] [SquareRoot R] :
    (EmbeddingService.init hub root cache fetch loader config none autoDownload pooling
      normalize).2 = (getModelInfo config.modelName).bind (fun _ => .error noneDivisionError) ∧
    (∀ maxTokens, EmbeddingService.init hub root cache fetch loader { config with maxTokens }
        modelName autoDownload pooling normalize =
      EmbeddingService.init hub root cache fetch loader config modelName autoDownload pooling
        normalize) ∧
    ∀ service : EmbeddingService R, (EmbeddingService.init hub root cache fetch loader config
        modelName autoDownload pooling normalize).2 = .ok service →
      service.modelName = modelName.getD config.modelName ∧
      (∃ info, getModelInfo service.modelName = .ok info ∧ service.dimension = info.dimension) ∧
      (EmbeddingService.init hub root cache fetch loader config modelName autoDownload pooling
        normalize).1 = (downloadModel hub root cache service.modelName false fetch).1 ∧
      (downloadModel hub root cache service.modelName false fetch).2 = .ok service.modelPath ∧
      MLXEmbeddingModel.init loader service.modelPath = .ok service.mlxModel ∧
      ∀ texts, service.embed texts =
        (service.mlxModel.embed texts (pooling.getD config.pooling)
          (normalize.getD config.normalize)).map fun embeddings => embeddings.map List.ofFn := by
  refine ⟨?_, fun _ => rfl, fun service constructed => ?_⟩
  · unfold EmbeddingService.init
    dsimp only [Option.getD_none]
    cases getModelInfo config.modelName <;> rfl
  obtain ⟨named, pooled, normalized, registry, left, downloaded, loaded⟩ :=
    init_returned hub root cache fetch loader config modelName autoDownload pooling normalize
      service constructed
  obtain ⟨info, registered, dimension, -⟩ := registry
  refine ⟨named, ⟨info, registered, dimension⟩, left, downloaded, loaded, fun texts => ?_⟩
  rw [EmbeddingService.embed, pooled, normalized]

end Construction

/-- A loader whose `config.json` is `config`, and whose network of width `width`
gives, at every position, the sequence length it was run on; its tokenizer
encodes every text as one token and pads with zero. -/
def probeLoader (config : Value) (width : Nat) : Loader ℝ where
  readConfig _ := .ok config
  load _ := .ok (⟨width, fun seq inputIds => inputIds.map fun _ _ _ => (seq : ℝ)⟩,
    ⟨fun _ => [1], some 0⟩)

/-- A cache root in which every model is cached. -/
def cachedRoot : CacheRoot :=
  fun _ => some ["config.json", "model.safetensors"]

/-- A configuration of eight tokens, first-position pooling and no normalisation. -/
def shortConfig : EmbeddingConfig :=
  { maxTokens := 8, pooling := "cls", normalize := false }

set_option maxRecDepth 4000 in
/-- The configuration's `max_tokens` of eight does not reach the engine: a
network that reports the sequence length it was run on reports 512. Without a
model name, the service of the default configuration raises `TypeError`. -/
theorem short_config_ignores_max_tokens :
    (EmbeddingService.init (fun _ => []) "/cache" cachedRoot fetchAll (probeLoader (.dict []) 1)
        {} none none none none).2 = .error noneDivisionError ∧
    (∀ maxTokens, EmbeddingService.init (fun _ => []) "/cache" cachedRoot fetchAll
        (probeLoader (.dict []) 1) { shortConfig with maxTokens } (some "qwen3-0.6b-4bit") none none
        none = EmbeddingService.init (fun _ => []) "/cache" cachedRoot fetchAll
          (probeLoader (.dict []) 1) shortConfig (some "qwen3-0.6b-4bit") none none none) ∧
    ∃ service, (EmbeddingService.init (fun _ => []) "/cache" cachedRoot fetchAll
        (probeLoader (.dict []) 1) shortConfig (some "qwen3-0.6b-4bit") none none none).2 =
        .ok service ∧ shortConfig.maxTokens = 8 ∧ service.embed ["hello"] = .ok [[((512 : Nat) : ℝ)]] :=
  ⟨(service_resolves_settings (fun _ => []) "/cache" cachedRoot fetchAll (probeLoader (.dict []) 1)
      {} none none none none).1.trans rfl,
    (service_resolves_settings (fun _ => []) "/cache" cachedRoot fetchAll (probeLoader (.dict []) 1)
      shortConfig (some "qwen3-0.6b-4bit") none none none).2.1, _, rfl, rfl, rfl⟩

end AkidbEmbedding.Mlx
