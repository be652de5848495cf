import AkidbEmbedding.Python

/-!
# The model cache of the MLX front end

`model_loader.py` keeps one directory per registered model under the cache root
and treats the file system as the only record of what is cached:
`is_model_cached` looks for `config.json` and one weight file among the
entries of the directory, `list_cached_models` asks it of every registered
name, `download_model` fetches a full repository snapshot into the directory
and removes the directory when the fetch raises, and `clear_cache` removes one
directory or all of them.

The cache root is a map from model name to the paths of the files in that
model's directory, `none` when the directory does not exist. Repositories are
lists of such paths, given by `hub`; a path with a `/` is a file in a
subdirectory. What one `snapshot_download` call does is an input: the files it
writes, in order, and whether it then returns or raises.

`clear_cache(model_name)` joins the name onto the root and removes whatever the
operating system reaches there. Here a call is given by the part of the cache
it removes: the whole root, for no name, the empty name, `.`, `..` or a path
above the root, or one model's directory, for `m`, `m/` or `./m`.
`Cache.Disk` models the path itself, and shows which names reach what.
-/
namespace AkidbEmbedding.Cache

open AkidbEmbedding.Python

/-- The fields of a `MODELS` entry that the cache and the service read. -/
structure ModelInfo where
  repoId : String
  dimension : Nat
  maxTokens : Nat
  deriving DecidableEq

/-- `MODELS`, in the order of its literal. -/
def models : List (String × ModelInfo) :=
  [("qwen3-0.6b-4bit", ⟨"mlx-community/Qwen3-Embedding-0.6B-4bit-DWQ", 1024, 512⟩),
   ("gemma-300m-4bit", ⟨"mlx-community/embeddinggemma-300m-4bit", 768, 512⟩)]

/-- `get_model_info(model_name)`: a copy of the registry entry. -/
def getModelInfo (modelName : String) : Except PyError ModelInfo :=
  match models.lookup modelName with
  | some info => .ok info
  | none => .error ⟨"ValueError", "Model '" ++ modelName ++ "' not found. Available models: " ++
      ", ".intercalate (models.map Prod.fst)⟩

/-- `get_cache_dir()`: `$AKIDB_CACHE_DIR/models` when the variable is set and not
empty, `~/.cache/akidb/models` otherwise. -/
def getCacheDir (cacheEnv : Option String) (home : String) : String :=
  match cacheEnv with
  | some dir => if dir.isEmpty then home ++ "/.cache/akidb/models" else dir ++ "/models"
  | none => home ++ "/.cache/akidb/models"

/-- `get_model_path(model_name)`, under the cache root `root`. -/
def getModelPath (root modelName : String) : String :=
  root ++ "/" ++ modelName

/-- The cache root: each model name's directory, as the names of its files. -/
abbrev CacheRoot := String → Option (List String)

/-- The empty cache root. -/
def CacheRoot.empty : CacheRoot :=
  fun _ => none

/-- `required_files` of `is_model_cached`. -/
def requiredFiles : List String :=
  ["config.json"]

/-- `text.split("/")`, on characters. -/
def splitSlash : List Char → List (List Char)
  | [] => [[]]
  | c :: rest =>
    if c = '/' then [] :: splitSlash rest
    else match splitSlash rest with
      | first :: others => (c :: first) :: others
      | [] => [[c]]

/-- The entry of a model's directory that holds the file at `path`: the file
itself, or the subdirectory the path starts with. -/
def topEntry (path : String) : String :=
  String.mk ((splitSlash path.data).headD path.data)

/-- An entry name `glob("*.safetensors")` or `glob("*.npz")` matches. -/
def isWeightFile (name : String) : Bool :=
  endsWith name ".safetensors" || endsWith name ".npz"

/-- `is_model_cached(model_name)`: the directory exists, `exists()` finds every
required name in it, and the globs, which see only the entries directly in it,
find a weight file. -/
def isModelCached (cache : CacheRoot) (modelName : String) : Bool :=
  match cache modelName with
  | none => false
  | some files =>
    requiredFiles.all (fun name => files.any (topEntry · == name)) && files.any (isWeightFile ∘ topEntry)

/-- `is_model_cached` accepts exactly a directory whose entries include every
required name and some weight file. -/
theorem isModelCached_iff (cache : CacheRoot) (modelName : String) :
    isModelCached cache modelName = true ↔ ∃ files, cache modelName = some files ∧
      (∀ name ∈ requiredFiles, ∃ file ∈ files, topEntry file = name) ∧
        ∃ file ∈ files, isWeightFile (topEntry file) = true := by
  unfold isModelCached
  cases cache modelName <;> simp [List.all_eq_true, List.any_eq_true]

/-- `list_cached_models()`: `get_cache_dir` has just made the root, so its
existence test passes, and the registered names `is_model_cached` accepts are
listed in `MODELS` order. -/
def listCachedModels (cache : CacheRoot) : List String :=
  (models.map Prod.fst).filter (isModelCached cache)

/-- A name has a registry entry exactly when it is one of the keys of `MODELS`. -/
theorem getModelInfo_ok_iff (modelName : String) :
    (∃ info, getModelInfo modelName = .ok info) ↔ modelName ∈ models.map Prod.fst := by
  have listed : (models.lookup modelName).isSome ↔ modelName ∈ models.map Prod.fst := by
    simp only [List.lookup_isSome_iff, beq_iff_eq, List.mem_map]
    exact ⟨fun ⟨p, member, same⟩ => ⟨p, member, same.symm⟩, fun ⟨p, member, same⟩ => ⟨p, member, same.symm⟩⟩
  rw [getModelInfo, ← listed]
  cases models.lookup modelName <;> simp

/-- A name is listed exactly when it is registered and `is_model_cached` accepts
its directory. -/
theorem mem_listCachedModels (cache : CacheRoot) (modelName : String) :
    modelName ∈ listCachedModels cache ↔
      (∃ info, getModelInfo modelName = .ok info) ∧ isModelCached cache modelName = true := by
  rw [listCachedModels, List.mem_filter, getModelInfo_ok_iff]

/-- `mkdir(parents=True, exist_ok=True)` of a model's directory. -/
def makeDir (cache : CacheRoot) (modelName : String) : CacheRoot :=
  Function.update cache modelName (some ((cache modelName).getD []))

/-- Writing one file into a model's directory, which is created if missing. -/
def writeFile (cache : CacheRoot) (modelName file : String) : CacheRoot :=
  Function.update cache modelName (some (((cache modelName).getD []).insert file))

/-- `shutil.rmtree` of a model's directory. -/
def removeTree (cache : CacheRoot) (modelName : String) : CacheRoot :=
  Function.update cache modelName none

/-- The file `_save_model_metadata` writes. -/
def metadataFile : String :=
  "akidb_metadata.json"

/-- `_save_model_metadata(model_name, model_info)`: `open(..., "w")` creates the
file, and raises when the model's directory is gone. -/
def saveModelMetadata (root : String) (cache : CacheRoot) (modelName : String) :
    Except PyError CacheRoot :=
  match cache modelName with
  | some _ => .ok (writeFile cache modelName metadataFile)
  | none => .error ⟨"FileNotFoundError", "[Errno 2] No such file or directory: '" ++
      getModelPath root modelName ++ "/" ++ metadataFile ++ "'"⟩

/-- What one `snapshot_download` call does: it creates the directory, writes
repository files in the order of `written`, and then returns or raises. A call
that returns has written every file of the repository. -/
structure Snapshot (files : List String) where
  written : List String
  outcome : Except PyError Unit
  fromRepository : ∀ file ∈ written, file ∈ files
  complete : outcome = .ok () → ∀ file ∈ files, file ∈ written

/-- `download_model(model_name, force_redownload)`: the registry lookup, the
cache check unless forced, then the snapshot and the metadata, either of whose
failure removes the directory before the exception propagates. -/
def downloadModel (hub : String → List String) (root : String) (cache : CacheRoot)
    (modelName : String) (forceRedownload : Bool) (fetch : (files : List String) → Snapshot files) :
    CacheRoot × Except PyError String :=
  match getModelInfo modelName with
  | .error e => (cache, .error e)
  | .ok info =>
    if !forceRedownload && isModelCached cache modelName then
      (cache, .ok (getModelPath root modelName))
    else
      let snapshot := fetch (hub info.repoId)
      let cache := snapshot.written.foldl (fun cache file => writeFile cache modelName file)
        (makeDir cache modelName)
      match snapshot.outcome >>= fun () => saveModelMetadata root cache modelName with
      | .ok cache => (cache, .ok (getModelPath root modelName))
      | .error e => (removeTree cache modelName, .error e)

/-- The part of the cache a `clear_cache` call removes, by what its name
reaches under the root. -/
inductive ClearTarget where
  /-- No name or the empty name, whose branch removes the root and makes it
  again, or a name that reaches the root or a directory above it. -/
  | all
  /-- A name that reaches the directory of the model `modelName`. -/
  | model (modelName : String)

/-- What `clear_cache` leaves of the cache. -/
def clearCache (cache : CacheRoot) : ClearTarget → CacheRoot
  | .all => CacheRoot.empty
  | .model modelName => removeTree cache modelName

section Frames

variable {cache : CacheRoot} {modelName other : String}

@[simp] theorem makeDir_other (different : other ≠ modelName) :
    makeDir cache modelName other = cache other := by
  simp [makeDir, different]

@[simp] theorem makeDir_same :
    makeDir cache modelName modelName = some ((cache modelName).getD []) := by
  simp [makeDir]

@[simp] theorem writeFile_other (file : String) (different : other ≠ modelName) :
    writeFile cache modelName file other = cache other := by
  simp [writeFile, different]

@[simp] theorem writeFile_same (file : String) :
    writeFile cache modelName file modelName = some (((cache modelName).getD []).insert file) := by
  simp [writeFile]

@[simp] theorem removeTree_other (different : other ≠ modelName) :
    removeTree cache modelName other = cache other := by
  simp [removeTree, different]

@[simp] theorem removeTree_same : removeTree cache modelName modelName = none := by
  simp [removeTree]

/-- Writing files into a directory leaves it holding what it held and every
file written, and nothing else. -/
theorem writeAll_same (modelName : String) (written : List String) :
    ∀ (cache : CacheRoot) (files : List String), cache modelName = some files →
      ∃ files', written.foldl (fun cache file => writeFile cache modelName file) cache modelName =
        some files' ∧ ∀ file, file ∈ files' ↔ file ∈ files ∨ file ∈ written := by
  induction written with
  | nil => exact fun _ files present => ⟨files, present, by simp⟩
  | cons file rest inductionHypothesis =>
    intro cache files present
    obtain ⟨files', result, held⟩ := inductionHypothesis (writeFile cache modelName file)
      (files.insert file) (by simp [writeFile, present])
    refine ⟨files', result, fun f => ?_⟩
    rw [held, List.mem_insert_iff, List.mem_cons]
    tauto

end Frames

variable (hub : String → List String) (root : String)

/-- A call one process makes on the cache and runs to its end, returning or
raising after its own handler. -/
inductive Call where
  | download (modelName : String) (forceRedownload : Bool)
      (fetch : (files : List String) → Snapshot files)
  | clear (target : ClearTarget)

/-- The cache a call leaves. -/
def Call.apply (cache : CacheRoot) : Call → CacheRoot
  | .download modelName forceRedownload fetch =>
    (downloadModel hub root cache modelName forceRedownload fetch).1
  | .clear target => clearCache cache target

/-- The cache a sequence of calls leaves, made one after another. -/
def runCalls (cache : CacheRoot) (calls : List Call) : CacheRoot :=
  calls.foldl (Call.apply hub root) cache

/-- A snapshot that writes every file of the repository in order and returns. -/
def fetchAll (files : List String) : Snapshot files :=
  ⟨files, .ok (), fun _ held => held, fun _ _ held => held⟩

end AkidbEmbedding.Cache
