import AkidbEmbedding.Cache.Loader

/-!
# Download calls of several processes on one cache root

The cache has no lock: processes that share a cache root run `download_model`
and `clear_cache` at the same time, and a process can end in the middle of a
call. Here every call is a small program whose steps interleave with those of
the others: the cache check, each file the snapshot writes, the snapshot's
return or exception, the metadata write, and the handler's `rmtree`. A
`clear_cache` is one step, given by the part of the cache its name reaches.

Only two kinds of step remove files: the cleanup after a failed fetch, and
`clear_cache`. Every other step, whichever process takes it, leaves each
directory holding at least what it held, and a step changes a model's
directory only when it belongs to a call for that model or is a `clear_cache`
that reaches it. Run one at a time, the steps of each call end as
`downloadModel` does, so a serial schedule leaves the cache that the same calls
leave made one after another. Nothing marks a fetch as unfinished, so a reader
takes a directory whose fetch was stopped, or is still going, for a cached one,
and one call's cleanup removes the snapshot another call has completed.
-/
namespace AkidbEmbedding.Cache

open AkidbEmbedding.Python

/-- Where one `download_model` call is. -/
inductive Phase where
  /-- Called; the registry lookup and the cache check come next. -/
  | called
  /-- `snapshot_download` is running: the repository's files and those written. -/
  | fetching (repository written : List String)
  /-- The snapshot returned; the metadata is written next. -/
  | saving
  /-- The snapshot or the metadata write raised; the handler runs next. -/
  | cleaning (e : PyError)
  /-- The call returned a path or raised. -/
  | finished (result : Except PyError String)
  /-- The process ended during the call. -/
  | halted

/-- One `download_model(model_name, force_redownload)` call. -/
structure Download where
  modelName : String
  forceRedownload : Bool
  phase : Phase

/-- The cache root the processes share, and every download call begun so far. -/
structure System where
  cache : CacheRoot
  downloads : List Download

/-- One step of one process. -/
inductive Action where
  /-- A process calls `download_model`. -/
  | call (modelName : String) (forceRedownload : Bool)
  /-- The registry lookup and the cache check; a fetch starts with its `mkdir`. -/
  | check (index : Nat)
  /-- The snapshot writes one file of the repository. -/
  | write (index : Nat) (file : String)
  /-- The snapshot returns, having written every file. -/
  | finish (index : Nat)
  /-- The snapshot raises. -/
  | fail (index : Nat) (e : PyError)
  /-- `_save_model_metadata`. -/
  | save (index : Nat)
  /-- The handler's `rmtree`, then the raise. -/
  | clean (index : Nat)
  /-- The process ends before the call does. -/
  | halt (index : Nat)
  /-- A `clear_cache` call of some process. -/
  | clear (target : ClearTarget)

variable (hub : String → List String) (root : String)

/-- The system with download `index` moved to `phase`. -/
def System.move (s : System) (index : Nat) (download : Download) (phase : Phase) : System :=
  { s with downloads := s.downloads.set index { download with phase := phase } }

/-- What one step does, or `none` when the process is not at that step. -/
def step (s : System) : Action → Option System
  | .call modelName forceRedownload =>
    some { s with downloads := s.downloads ++ [⟨modelName, forceRedownload, .called⟩] }
  | .check index =>
    match s.downloads[index]? with
    | some download@⟨modelName, forceRedownload, .called⟩ =>
      match getModelInfo modelName with
      | .error e => some (s.move index download (.finished (.error e)))
      | .ok info =>
        if !forceRedownload && isModelCached s.cache modelName then
          some (s.move index download (.finished (.ok (getModelPath root modelName))))
        else
          some ({ s with cache := makeDir s.cache modelName }.move index download
            (.fetching (hub info.repoId) []))
    | _ => none
  | .write index file =>
    match s.downloads[index]? with
    | some download@⟨modelName, _, .fetching repository written⟩ =>
      if file ∈ repository then
        some ({ s with cache := writeFile s.cache modelName file }.move index download
          (.fetching repository (written ++ [file])))
      else none
    | _ => none
  | .finish index =>
    match s.downloads[index]? with
    | some download@⟨_, _, .fetching repository written⟩ =>
      if repository.all (· ∈ written) then some (s.move index download .saving) else none
    | _ => none
  | .fail index e =>
    match s.downloads[index]? with
    | some download@⟨_, _, .fetching _ _⟩ => some (s.move index download (.cleaning e))
    | _ => none
  | .save index =>
    match s.downloads[index]? with
    | some download@⟨modelName, _, .saving⟩ =>
      match saveModelMetadata root s.cache modelName with
      | .ok cache =>
        some ({ s with cache := cache }.move index download
          (.finished (.ok (getModelPath root modelName))))
      | .error e => some (s.move index download (.cleaning e))
    | _ => none
  | .clean index =>
    match s.downloads[index]? with
    | some download@⟨modelName, _, .cleaning e⟩ =>
      some ({ s with cache := removeTree s.cache modelName }.move index download
        (.finished (.error e)))
    | _ => none
  | .halt index =>
    match s.downloads[index]? with
    | some ⟨_, _, .finished _⟩ | some ⟨_, _, .halted⟩ | none => none
    | some download => some (s.move index download .halted)
  | .clear target => some { s with cache := clearCache s.cache target }

/-- The system after a sequence of steps, or `none` when one is not possible. -/
def exec : System → List Action → Option System
  | s, [] => some s
  | s, action :: rest =>
    match step hub root s action with
    | some s' => exec s' rest
    | none => none

/-- A repository of a configuration, one weight file and a tokenizer. -/
def threeFileHub : String → List String :=
  fun _ => ["config.json", "model.safetensors", "tokenizer.json"]

/-- The steps of one `download_model` call when no other process steps: the
check, each file the snapshot writes, then the snapshot's return and the
metadata write, or its exception and the cleanup. A call answered by the
registry lookup or by the cache check takes the check alone. -/
def soloSteps (cache : CacheRoot) (modelName : String) (forceRedownload : Bool)
    (fetch : (files : List String) → Snapshot files) (index : Nat) : List Action :=
  match getModelInfo modelName with
  | .error _ => [.check index]
  | .ok info =>
    if !forceRedownload && isModelCached cache modelName then [.check index]
    else
      let snapshot := fetch (hub info.repoId)
      [.check index] ++ snapshot.written.map (.write index) ++
        match snapshot.outcome with
        | .ok () => [.finish index, .save index]
        | .error e => [.fail index e, .clean index]

section Alone

variable (downloads : List Download)

/-- Moving the last download call to another phase. -/
theorem move_last (cache : CacheRoot) (download : Download) (phase : Phase) :
    (⟨cache, downloads ++ [download]⟩ : System).move downloads.length download phase =
      ⟨cache, downloads ++ [{ download with phase := phase }]⟩ := by
  simp [System.move]

/-- The call made right after the next one. -/
theorem getElem?_after_next (first second : Download) :
    (downloads ++ [first, second])[downloads.length + 1]? = some second := by
  rw [List.getElem?_append_right (Nat.le_add_right _ _)]
  simp

/-- Moving the call made right after the next one to another phase. -/
theorem move_after_next (cache : CacheRoot) (first second : Download) (phase : Phase) :
    (⟨cache, downloads ++ [first, second]⟩ : System).move (downloads.length + 1) second phase =
      ⟨cache, downloads ++ [first, { second with phase := phase }]⟩ := by
  have moved := move_last (downloads ++ [first]) cache second phase
  simp only [List.length_append, List.length_singleton, List.append_assoc, List.singleton_append] at moved
  exact moved

/-- A run of two schedules is the second run from where the first ends. -/
theorem exec_append (s : System) (first rest : List Action) :
    exec hub root s (first ++ rest) = (exec hub root s first).bind fun s' => exec hub root s' rest := by
  induction first generalizing s with
  | nil => rfl
  | cons action first inductionHypothesis =>
    simp only [List.cons_append, exec]
    split
    · exact inductionHypothesis _
    · rfl

/-- The snapshot's writes, when no other process steps, put each file in the
directory in turn. -/
theorem exec_writes (modelName : String) (forceRedownload : Bool) (repository : List String)
    (files : List String) (inRepository : ∀ file ∈ files, file ∈ repository) :
    ∀ (cache : CacheRoot) (written : List String),
      exec hub root ⟨cache, downloads ++ [⟨modelName, forceRedownload, .fetching repository written⟩]⟩
          (files.map (.write downloads.length)) =
        some ⟨files.foldl (fun cache file => writeFile cache modelName file) cache,
          downloads ++ [⟨modelName, forceRedownload, .fetching repository (written ++ files)⟩]⟩ := by
  induction files with
  | nil => intro cache written; simp [exec]
  | cons file rest inductionHypothesis =>
    intro cache written
    have present : file ∈ repository := inRepository file (List.mem_cons_self _ _)
    simp only [List.map_cons, exec, step, List.getElem?_concat_length, present, if_true, move_last]
    rw [inductionHypothesis (fun f held => inRepository f (List.mem_cons_of_mem _ held))]
    simp

/-- Run with no other process stepping, the steps of one `download_model` call
leave the cache that the sequential `downloadModel` leaves and return what it
returns: the step model of the calls refines the function of the source. -/
theorem exec_soloSteps (cache : CacheRoot) (modelName : String) (forceRedownload : Bool)
    (fetch : (files : List String) → Snapshot files) :
    exec hub root ⟨cache, downloads ++ [⟨modelName, forceRedownload, .called⟩]⟩
        (soloSteps hub cache modelName forceRedownload fetch downloads.length) =
      some ⟨(downloadModel hub root cache modelName forceRedownload fetch).1, downloads ++
        [⟨modelName, forceRedownload, .finished (downloadModel hub root cache modelName
          forceRedownload fetch).2⟩]⟩ := by
  unfold soloSteps downloadModel
  cases registered : getModelInfo modelName with
  | error e => simp [exec, step, registered, move_last]
  | ok info =>
    simp only
    split
    · rename_i cached
      simp only [Bool.and_eq_true, Bool.not_eq_true'] at cached
      simp [exec, step, registered, cached, move_last]
    · rename_i fetching
      have checked : exec hub root ⟨cache, downloads ++ [⟨modelName, forceRedownload, .called⟩]⟩
          [.check downloads.length] = some ⟨makeDir cache modelName,
            downloads ++ [⟨modelName, forceRedownload, .fetching (hub info.repoId) []⟩]⟩ := by
        simp only [Bool.and_eq_true, Bool.not_eq_true'] at fetching
        simp [exec, step, registered, fetching, move_last]
      obtain ⟨files, present, -⟩ := writeAll_same modelName (fetch (hub info.repoId)).written
        (makeDir cache modelName) ((cache modelName).getD []) makeDir_same
      rw [exec_append, exec_append, checked, Option.some_bind,
        exec_writes hub root downloads modelName forceRedownload _ _
          (fetch (hub info.repoId)).fromRepository, Option.some_bind]
      cases outcome : (fetch (hub info.repoId)).outcome with
      | ok nothing =>
        cases nothing
        have complete := (fetch (hub info.repoId)).complete outcome
        simp [exec, step, List.all_eq_true, eq_true complete, saveModelMetadata, present, move_last, bind,
          Except.bind]
      | error e => simp [exec, step, move_last, bind, Except.bind]

end Alone

/-- A serial schedule of `calls`: each call is made and runs alone to its end
before the next is made, so its steps are those the cache it finds allows. -/
def serialSteps : CacheRoot → Nat → List Call → List Action
  | _, _, [] => []
  | cache, index, .download modelName forceRedownload fetch :: rest =>
    (.call modelName forceRedownload :: soloSteps hub cache modelName forceRedownload fetch index) ++
      serialSteps (downloadModel hub root cache modelName forceRedownload fetch).1 (index + 1) rest
  | cache, index, .clear target :: rest =>
    .clear target :: serialSteps (clearCache cache target) index rest

/-- Serial schedules of the step model refine the sequential model: the cache
they leave is the one the same calls leave made one after another, whatever
calls began before. -/
theorem exec_serialSteps (calls : List Call) :
    ∀ cache downloads, ∃ downloads', exec hub root ⟨cache, downloads⟩
      (serialSteps hub root cache downloads.length calls) =
        some ⟨runCalls hub root cache calls, downloads'⟩ := by
  induction calls with
  | nil => exact fun _ downloads => ⟨downloads, rfl⟩
  | cons call rest inductionHypothesis =>
    intro cache downloads
    cases call with
    | download modelName forceRedownload fetch =>
      obtain ⟨downloads', ran⟩ := inductionHypothesis
        (downloadModel hub root cache modelName forceRedownload fetch).1 (downloads ++
          [⟨modelName, forceRedownload, .finished (downloadModel hub root cache modelName
            forceRedownload fetch).2⟩])
      refine ⟨downloads', ?_⟩
      show exec hub root ⟨cache, downloads ++ [⟨modelName, forceRedownload, .called⟩]⟩
        (soloSteps hub cache modelName forceRedownload fetch downloads.length ++ _) = _
      rw [exec_append, exec_soloSteps, Option.some_bind]
      simpa using ran
    | clear target => exact inductionHypothesis (clearCache cache target) downloads

/-- A process calls `download_model`, its fetch writes `written` and the process
ends; then another process calls `download_model` for the same model. -/
def haltedRun (modelName : String) (written : List String) (index : Nat) : List Action :=
  [.call modelName false, .check index] ++ written.map (.write index) ++
    [.halt index, .call modelName false, .check (index + 1)]

/-- The resume that `resume_download=True` promises never comes: `is_model_cached`
is checked first. Whatever calls began before, for every registered model whose
directory does not exist and every fetch that writes `config.json` and a weight
file, in any order, and then ends with its process: the next `download_model`
of the model returns its path at once, from a directory that lacks every file
of the repository the fetch did not write. -/
theorem interrupted_fetch_reads_as_cached (cache : CacheRoot) (downloads : List Download)
    (modelName : String) (info : ModelInfo) (registered : getModelInfo modelName = .ok info)
    (absent : cache modelName = none) (written : List String)
    (fromRepository : ∀ file ∈ written, file ∈ hub info.repoId) (configured : "config.json" ∈ written)
    (weighted : ∃ file ∈ written, isWeightFile (topEntry file) = true) :
    ∃ s, exec hub root ⟨cache, downloads⟩ (haltedRun modelName written downloads.length) = some s ∧
      isModelCached s.cache modelName = true ∧
      (s.downloads[downloads.length + 1]?).map Download.phase =
        some (.finished (.ok (getModelPath root modelName))) ∧
      ∀ file ∈ hub info.repoId, file ∉ written → file ∉ (s.cache modelName).getD [] := by
  obtain ⟨files, present, held⟩ := writeAll_same modelName written (makeDir cache modelName) [] (by simp [absent])
  have fresh : isModelCached cache modelName = false := by simp [isModelCached, absent]
  have cached : isModelCached (written.foldl (fun cache file => writeFile cache modelName file)
      (makeDir cache modelName)) modelName = true := by
    obtain ⟨file, member, weight⟩ := weighted
    refine (isModelCached_iff _ modelName).mpr ⟨files, present, ?_, file, (held file).mpr (.inr member), weight⟩
    intro name required
    simp only [requiredFiles, List.mem_singleton] at required
    exact ⟨"config.json", (held _).mpr (.inr configured), by rw [required]; rfl⟩
  have checked : exec hub root ⟨cache, downloads⟩ [.call modelName false, .check downloads.length] =
      some ⟨makeDir cache modelName, downloads ++ [⟨modelName, false, .fetching (hub info.repoId) []⟩]⟩ := by
    simp [exec, step, registered, fresh, move_last]
  have ran : exec hub root ⟨cache, downloads⟩ (haltedRun modelName written downloads.length) =
      some ⟨written.foldl (fun cache file => writeFile cache modelName file) (makeDir cache modelName),
        downloads ++ [⟨modelName, false, .halted⟩, ⟨modelName, false, .finished (.ok (getModelPath root modelName))⟩]⟩ := by
    have halted : exec hub root ⟨written.foldl (fun cache file => writeFile cache modelName file)
          (makeDir cache modelName), downloads ++ [⟨modelName, false, .fetching (hub info.repoId) ([] ++ written)⟩]⟩
        [.halt downloads.length, .call modelName false] =
        some ⟨written.foldl (fun cache file => writeFile cache modelName file) (makeDir cache modelName),
          downloads ++ [⟨modelName, false, .halted⟩, ⟨modelName, false, .called⟩]⟩ := by
      simp [exec, step, move_last]
    rw [haltedRun, exec_append, exec_append, checked, Option.some_bind,
      exec_writes hub root downloads modelName false _ written fromRepository, Option.some_bind,
      show [Action.halt downloads.length, .call modelName false, .check (downloads.length + 1)] =
        [.halt downloads.length, .call modelName false] ++ [.check (downloads.length + 1)] from rfl,
      exec_append, halted, Option.some_bind]
    simp only [exec, step, getElem?_after_next, registered, cached, Bool.not_false, Bool.true_and, if_true,
      move_after_next]
  refine ⟨_, ran, cached, by rw [getElem?_after_next]; rfl, fun file _ notWritten => ?_⟩
  simp only [present, Option.getD_some, held, List.not_mem_nil, false_or]
  exact notWritten

/-- A fetch of the default model stopped after two of three files: the next call
returns the path, and the tokenizer was never written. -/
theorem halted_fetch_reads_as_cached :
    ∃ s, exec threeFileHub "/cache" ⟨CacheRoot.empty, []⟩
        (haltedRun "qwen3-0.6b-4bit" ["config.json", "model.safetensors"] 0) = some s ∧
      isModelCached s.cache "qwen3-0.6b-4bit" = true ∧
      (s.downloads[0 + 1]?).map Download.phase = some (.finished (.ok "/cache/qwen3-0.6b-4bit")) ∧
      ∀ file ∈ ["config.json", "model.safetensors", "tokenizer.json"],
        file ∉ ["config.json", "model.safetensors"] → file ∉ (s.cache "qwen3-0.6b-4bit").getD [] :=
  interrupted_fetch_reads_as_cached threeFileHub "/cache" CacheRoot.empty [] "qwen3-0.6b-4bit" _ rfl rfl
    ["config.json", "model.safetensors"] (by decide) (by decide) ⟨"model.safetensors", by decide, rfl⟩

/-- What a step may do to the cache: nothing, a `mkdir`, one file written, the
`rmtree` of a cleanup, or `clear_cache`. -/
def CacheStep (s s' : System) (action : Action) : Prop :=
  (∃ modelName, s'.cache = s.cache ∨ s'.cache = makeDir s.cache modelName ∨
      ∃ file, s'.cache = writeFile s.cache modelName file) ∨
    (∃ index download, action = .clean index ∧ s.downloads[index]? = some download ∧
      s'.cache = removeTree s.cache download.modelName) ∨
    ∃ target, action = .clear target ∧ s'.cache = clearCache s.cache target

/-- A step that leaves the cache as it was is a cache step. -/
theorem CacheStep.unchanged {s s' : System} {action : Action} (same : s'.cache = s.cache) :
    CacheStep s s' action :=
  .inl ⟨"", .inl same⟩

/-- Every step does to the cache one of the things `CacheStep` lists. -/
theorem step_cache {s s' : System} {action : Action} (stepped : step hub root s action = some s') :
    CacheStep s s' action := by
  have unchanged := @CacheStep.unchanged s
  cases action with
  | call modelName forceRedownload => cases stepped; exact unchanged rfl
  | check index =>
    simp only [step] at stepped
    split at stepped <;> try cases stepped
    split at stepped <;> try cases stepped
    · exact unchanged rfl
    · split at stepped <;> cases stepped
      · exact unchanged rfl
      · exact .inl ⟨_, .inr (.inl rfl)⟩
  | write index file =>
    simp only [step] at stepped
    split at stepped <;> try cases stepped
    split at stepped <;> cases stepped
    exact .inl ⟨_, .inr (.inr ⟨file, rfl⟩)⟩
  | finish index =>
    simp only [step] at stepped
    split at stepped <;> try cases stepped
    split at stepped <;> cases stepped
    exact unchanged rfl
  | fail index e =>
    simp only [step] at stepped
    split at stepped <;> cases stepped
    exact unchanged rfl
  | save index =>
    simp only [step] at stepped
    split at stepped <;> try cases stepped
    rename_i modelName _ _
    split at stepped <;> cases stepped
    · rename_i saved
      unfold saveModelMetadata at saved
      split at saved <;> cases saved
      exact .inl ⟨modelName, .inr (.inr ⟨metadataFile, rfl⟩)⟩
    · exact unchanged rfl
  | clean index =>
    simp only [step] at stepped
    split at stepped <;> try cases stepped
    rename_i found
    exact .inr (.inl ⟨index, _, rfl, found, rfl⟩)
  | halt index =>
    simp only [step] at stepped
    split at stepped <;> cases stepped
    exact unchanged rfl
  | clear target => cases stepped; exact .inr (.inr ⟨target, rfl, rfl⟩)

/-- `cache'` holds, in `modelName`'s directory, every file `cache` holds there. -/
def Holds (modelName : String) (cache cache' : CacheRoot) : Prop :=
  ∀ files, cache modelName = some files →
    ∃ files', cache' modelName = some files' ∧ ∀ file ∈ files, file ∈ files'

namespace Holds

variable {modelName : String} {cache cache' cache'' : CacheRoot}

/-- A cache holds its own files. -/
theorem refl (cache : CacheRoot) : Holds modelName cache cache :=
  fun files present => ⟨files, present, fun _ held => held⟩

/-- Holding the files of a cache that holds the files of another. -/
theorem trans (first : Holds modelName cache cache') (second : Holds modelName cache' cache'') :
    Holds modelName cache cache'' := by
  intro files present
  obtain ⟨files', present', kept⟩ := first files present
  obtain ⟨files'', present'', kept'⟩ := second files' present'
  exact ⟨files'', present'', fun file held => kept' file (kept file held)⟩

/-- A changed directory that holds at least the old files, and others unchanged. -/
theorem of_update (other : String) (files' : List String)
    (frame : ∀ name, name ≠ other → cache' name = cache name)
    (here : cache' other = some files') (grows : ∀ files, cache other = some files → files ⊆ files') :
    Holds modelName cache cache' := by
  intro files present
  by_cases same : modelName = other
  · subst same
    exact ⟨files', here, grows files present⟩
  · exact ⟨files, (frame modelName same).trans present, fun _ held => held⟩

/-- `mkdir` of any model's directory keeps every file. -/
theorem makeDir (other : String) : Holds modelName cache (makeDir cache other) :=
  of_update other _ (fun _ different => makeDir_other different) makeDir_same
    (fun files present => by simp [present])

/-- Writing a file into any model's directory keeps every file. -/
theorem writeFile (other file : String) : Holds modelName cache (writeFile cache other file) :=
  of_update other _ (fun _ different => writeFile_other file different) (writeFile_same file)
    (fun files present _ held => by simp [present, List.mem_insert_iff, held])

end Holds

/-- A directory holding a required file and a weight file still does with more files. -/
theorem isModelCached_of_holds {modelName : String} {cache cache' : CacheRoot}
    (holds : Holds modelName cache cache') (cached : isModelCached cache modelName = true) :
    isModelCached cache' modelName = true := by
  obtain ⟨files, present, required, file, held, weight⟩ := (isModelCached_iff cache modelName).mp cached
  obtain ⟨files', present', kept⟩ := holds files present
  refine (isModelCached_iff cache' modelName).mpr ⟨files', present', fun name isRequired => ?_, file, kept file held,
    weight⟩
  obtain ⟨entry, member, named⟩ := required name isRequired
  exact ⟨entry, kept entry member, named⟩

/-- Whether a step removes files of `modelName`'s directory: it is the cleanup
of a call for that model, or `clear_cache`. -/
def Action.removes (s : System) (modelName : String) : Action → Bool
  | .clean index => (s.downloads[index]?).map Download.modelName == some modelName
  | .clear _ => true
  | _ => false

/-- Whether some step of a run removes files of `modelName`'s directory. -/
def removesAny (modelName : String) : System → List Action → Bool
  | _, [] => false
  | s, action :: rest => action.removes s modelName ||
      match step hub root s action with
      | some s' => removesAny modelName s' rest
      | none => false

/-- A step that is neither a cleanup for `modelName` nor `clear_cache` keeps every
file of that model's directory. -/
theorem step_holds {s s' : System} {action : Action} (stepped : step hub root s action = some s')
    (modelName : String) (keeping : action.removes s modelName = false) :
    Holds modelName s.cache s'.cache := by
  rcases step_cache hub root stepped with
    ⟨other, same | made | ⟨file, written⟩⟩ | ⟨index, download, rfl, found, removed⟩ |
      ⟨other, rfl, -⟩
  · exact same ▸ Holds.refl _
  · exact made ▸ Holds.makeDir other
  · exact written ▸ Holds.writeFile other file
  · have different : modelName ≠ download.modelName := by
      rintro rfl
      simp [Action.removes, found] at keeping
    exact removed ▸ fun files present => ⟨files, (removeTree_other different).trans present,
      fun _ held => held⟩
  · cases keeping

/-- A run with no cleanup for `modelName` and no `clear_cache` keeps every file of
that model's directory. -/
theorem exec_holds (modelName : String) :
    ∀ (s : System) (actions : List Action) (s' : System), exec hub root s actions = some s' →
      removesAny hub root modelName s actions = false → Holds modelName s.cache s'.cache := by
  intro s actions
  induction actions generalizing s with
  | nil => intro s' ran _; cases ran; exact Holds.refl _
  | cons action rest inductionHypothesis =>
    intro s' ran keeping
    simp only [exec] at ran
    simp only [removesAny, Bool.or_eq_false_iff] at keeping
    split at ran
    · rename_i next stepped
      rw [stepped] at keeping
      exact (step_holds hub root stepped modelName keeping.1).trans
        (inductionHypothesis next s' ran keeping.2)
    · cases ran

/-- A cache root holding the whole default model. -/
def completeCache : CacheRoot :=
  fun name => if name = "qwen3-0.6b-4bit"
    then some ["config.json", "model.safetensors", "tokenizer.json"] else none

/-- Two processes fetch the default model at once, and the first completes its
fetch and returns its path. -/
def completedRun : List Action :=
  [.call "qwen3-0.6b-4bit" false, .call "qwen3-0.6b-4bit" false, .check 0, .check 1,
    .write 0 "config.json", .write 0 "model.safetensors", .write 0 "tokenizer.json",
    .finish 0, .save 0]

/-- Then the second process's fetch fails, and its handler removes the directory. -/
def failedRaceRun : List Action :=
  completedRun ++ [.fail 1 ⟨"OSError", "Connection reset by peer"⟩, .clean 1]

section Isolation

/-- Whether a step can change `modelName`'s directory: a step of a download call
for that model, or a `clear_cache` whose name reaches that directory or the
whole cache. -/
def Action.touches (s : System) (modelName : String) : Action → Bool
  | .check index | .write index _ | .save index | .clean index =>
    (s.downloads[index]?).map Download.modelName == some modelName
  | .clear .all => true
  | .clear (.model name) => name == modelName
  | .call _ _ | .finish _ | .fail _ _ | .halt _ => false

/-- Whether some step of a run, in the state it is taken from, satisfies `p`. -/
def stepsAny (p : System → Action → Bool) : System → List Action → Bool
  | _, [] => false
  | s, action :: rest => p s action ||
      match step hub root s action with
      | some s' => stepsAny p s' rest
      | none => false

/-- A step of a call for another model names another directory. -/
theorem touches_index {s : System} {index : Nat} {download : Download} {modelName : String}
    (found : s.downloads[index]? = some download)
    (apart : ((s.downloads[index]?).map Download.modelName == some modelName) = false) :
    modelName ≠ download.modelName := by
  rintro rfl
  simp [found] at apart


/-- A step that does not touch `modelName`'s directory leaves it as it was. -/
theorem step_frame {s s' : System} {action : Action} (stepped : step hub root s action = some s')
    (modelName : String) (apart : action.touches s modelName = false) :
    s'.cache modelName = s.cache modelName := by
  cases action with
  | call => cases stepped; rfl
  | check index =>
    simp only [step] at stepped
    split at stepped <;> try cases stepped
    rename_i download _ _ found
    have different := touches_index found apart
    split at stepped <;> try cases stepped
    · rfl
    · split at stepped <;> cases stepped
      · rfl
      · exact makeDir_other different
  | write index file =>
    simp only [step] at stepped
    split at stepped <;> try cases stepped
    rename_i download _ _ _ found
    split at stepped <;> cases stepped
    exact writeFile_other file (touches_index found apart)
  | finish index =>
    simp only [step] at stepped
    split at stepped <;> try cases stepped
    split at stepped <;> cases stepped
    rfl
  | fail index e =>
    simp only [step] at stepped
    split at stepped <;> cases stepped
    rfl
  | save index =>
    simp only [step] at stepped
    split at stepped <;> try cases stepped
    rename_i download _ _ found
    split at stepped <;> cases stepped
    · rename_i saved
      unfold saveModelMetadata at saved
      split at saved <;> cases saved
      exact writeFile_other metadataFile (touches_index found apart)
    · rfl
  | clean index =>
    simp only [step] at stepped
    split at stepped <;> try cases stepped
    rename_i download _ _ _ found
    exact removeTree_other (touches_index found apart)
  | halt index =>
    simp only [step] at stepped
    split at stepped <;> cases stepped
    rfl
  | clear target =>
    cases stepped
    cases target with
    | all => cases apart
    | model name => exact removeTree_other (Ne.symm (beq_eq_false_iff_ne.mp apart))

/-- Calls for different models do not interfere. Whatever the interleaving of
the steps of any processes, a model's directory is changed only by the steps of
download calls for that model and by a `clear_cache` whose name reaches that
directory or the whole cache. A run with none of them leaves the directory exactly as it was, in
what it holds and in whether it exists. -/
theorem interleaved_calls_isolated_by_model (modelName : String) :
    ∀ (s : System) (actions : List Action) (s' : System), exec hub root s actions = some s' →
      stepsAny hub root (fun s action => action.touches s modelName) s actions = false →
      s'.cache modelName = s.cache modelName := by
  intro s actions
  induction actions generalizing s with
  | nil => intro s' ran _; cases ran; rfl
  | cons action rest inductionHypothesis =>
    intro s' ran apart
    simp only [exec] at ran
    simp only [stepsAny, Bool.or_eq_false_iff] at apart
    split at ran
    · rename_i next stepped
      rw [stepped] at apart
      exact (inductionHypothesis next s' ran apart.2).trans (step_frame hub root stepped modelName apart.1)
    · cases ran

end Isolation

/-- A process fetches the second model beside the complete default one; the fetch
fails and its handler removes that model's directory. -/
def otherModelRun : List Action :=
  [.call "gemma-300m-4bit" false, .check 0, .write 0 "config.json", .write 0 "model.safetensors",
    .fail 0 ⟨"OSError", "Connection reset by peer"⟩, .clean 0, .clear (.model "gemma-300m-4bit")]

/-- The default model's directory comes out of that run as it went in. -/
theorem other_model_run_keeps_default :
    ∃ s', exec threeFileHub "/cache" ⟨completeCache, []⟩ otherModelRun = some s' ∧
      stepsAny threeFileHub "/cache" (fun s action => action.touches s "qwen3-0.6b-4bit")
        ⟨completeCache, []⟩ otherModelRun = false ∧
      s'.cache "qwen3-0.6b-4bit" = completeCache "qwen3-0.6b-4bit" := by
  obtain ⟨s', ran⟩ := Option.isSome_iff_exists.mp
    (rfl : (exec threeFileHub "/cache" ⟨completeCache, []⟩ otherModelRun).isSome = true)
  exact ⟨s', ran, rfl, interleaved_calls_isolated_by_model threeFileHub "/cache" "qwen3-0.6b-4bit"
    ⟨completeCache, []⟩ otherModelRun s' ran rfl⟩

end AkidbEmbedding.Cache
