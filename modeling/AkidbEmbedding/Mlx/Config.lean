import AkidbEmbedding.Python

/-!
# Reading the service configuration from YAML

`EmbeddingConfig.from_yaml` reads the `embedding` section of a YAML file with
`dict.get`, one attribute at a time, each with a default literal of its own,
and the constructor stores whatever values it is given. `to_dict` writes the
attributes back under the same keys. A file that cannot be found or read, a top
level that is not a mapping, and an `embedding` section that is not a mapping
all end in the `except` branch, which returns the constructor's defaults.

The object is modelled with its attributes as the values `yaml.safe_load` can
give, since nothing checks their types; YAML's dates and non-string keys are
not represented. What `_find_config_file` and `yaml.safe_load` do is an input:
no file, the exception reading it raised, or the value it held.
-/

namespace AkidbEmbedding.Mlx

open AkidbEmbedding.Python

/-- An `EmbeddingConfig` object: each attribute is the value it was given. -/
structure ConfigObject where
  modelName : Value
  pooling : Value
  normalize : Value
  maxTokens : Value
  autoDownload : Value
  batchSize : Value

/-- `EmbeddingConfig()`, with the constructor's defaults. -/
def ConfigObject.defaults : ConfigObject :=
  ⟨.str "qwen3-0.6b-4bit", .str "mean", .bool true, .int 512, .bool true, .int 32⟩

/-- `config.to_dict()`. -/
def ConfigObject.toDict (config : ConfigObject) : Value :=
  .dict [("model_name", config.modelName), ("pooling", config.pooling), ("normalize", config.normalize),
    ("max_tokens", config.maxTokens), ("auto_download", config.autoDownload), ("batch_size", config.batchSize)]

/-- The `try` body of `from_yaml` on the value `yaml.safe_load` read. -/
def fromYamlBody (loaded : Value) : Except PyError ConfigObject := do
  let configDict := if loaded.truthy then loaded else .dict []
  let embeddingConfig ← configDict.get "embedding" (.dict [])
  let modelName ← embeddingConfig.get "model_name" (.str "qwen3-0.6b-4bit")
  let pooling ← embeddingConfig.get "pooling" (.str "mean")
  let normalize ← embeddingConfig.get "normalize" (.bool true)
  let maxTokens ← embeddingConfig.get "max_tokens" (.int 512)
  let autoDownload ← embeddingConfig.get "auto_download" (.bool true)
  let batchSize ← embeddingConfig.get "batch_size" (.int 32)
  pure ⟨modelName, pooling, normalize, maxTokens, autoDownload, batchSize⟩

/-- `EmbeddingConfig.from_yaml(yaml_path)`: `found` is `none` when no file is
found, and otherwise what reading and parsing the file gave. -/
def fromYaml (found : Option (Except PyError Value)) : ConfigObject :=
  match found with
  | none => .defaults
  | some read =>
    match read >>= fromYamlBody with
    | .ok config => config
    | .error _ => .defaults

/-- A non-empty mapping is truthy, so `or {}` keeps it. -/
theorem truthy_dict_ne (sections : List (String × Value)) (present : sections ≠ []) :
    (Value.dict sections).truthy = true := by
  cases sections with
  | nil => exact absurd rfl present
  | cons _ _ => rfl

/-- An `embedding` section that is a mapping is read key by key, with
`from_yaml`'s defaults for the keys it lacks. -/
theorem fromYamlBody_section (sections members : List (String × Value))
    (last : sections.reverse.lookup "embedding" = some (.dict members)) :
    fromYamlBody (.dict sections) = .ok
      ⟨(members.reverse.lookup "model_name").getD (.str "qwen3-0.6b-4bit"),
        (members.reverse.lookup "pooling").getD (.str "mean"),
        (members.reverse.lookup "normalize").getD (.bool true),
        (members.reverse.lookup "max_tokens").getD (.int 512),
        (members.reverse.lookup "auto_download").getD (.bool true),
        (members.reverse.lookup "batch_size").getD (.int 32)⟩ := by
  have truthy := truthy_dict_ne sections fun empty => by rw [empty] at last; cases last
  simp only [fromYamlBody, truthy, if_true, Value.get, last, Option.getD_some]
  rfl

/-- A mapping with no `embedding` section reads as the constructor's defaults. -/
theorem fromYamlBody_no_section (sections : List (String × Value))
    (absent : sections.reverse.lookup "embedding" = none) :
    fromYamlBody (.dict sections) = .ok ConfigObject.defaults := by
  by_cases empty : sections = []
  · subst empty
    rfl
  · simp only [fromYamlBody, truthy_dict_ne sections empty, if_true, Value.get, absent, Option.getD_none]
    rfl

/-- An `embedding` section that is not a mapping raises at its first `get`. -/
theorem fromYamlBody_not_mapping (sections : List (String × Value)) (value : Value)
    (last : sections.reverse.lookup "embedding" = some value) (notMapping : ∀ members, value ≠ .dict members) :
    fromYamlBody (.dict sections) =
      .error ⟨"AttributeError", "'" ++ value.typeName ++ "' object has no attribute 'get'"⟩ := by
  have truthy := truthy_dict_ne sections fun empty => by rw [empty] at last; cases last
  simp only [fromYamlBody, truthy, if_true, Value.get, last, Option.getD_some]
  cases value with
  | dict members => exact absurd rfl (notMapping members)
  | _ => rfl

/-- For every configuration object and every other section before it, a file
whose `embedding` section is the object's `to_dict()` reads back as that
object: `to_dict` and `from_yaml` use the same keys. A file with no
`embedding` section reads as `EmbeddingConfig()`: the default literals of
`from_yaml` are the constructor's. A section that is not a mapping, `None`
included, raises inside the `try` and also gives the defaults. -/
theorem from_yaml_round_trip (config : ConfigObject) (sections : List (String × Value)) :
    fromYaml (some (.ok (.dict (sections ++ [("embedding", config.toDict)])))) = config ∧
    fromYaml (some (.ok (.dict (sections.filter fun entry => entry.1 ≠ "embedding")))) =
      ConfigObject.defaults ∧
    ∀ value, (∀ members, value ≠ .dict members) →
      fromYaml (some (.ok (.dict (sections ++ [("embedding", value)])))) = ConfigObject.defaults := by
  have lastSection : ∀ value : Value,
      (sections ++ [("embedding", value)]).reverse.lookup "embedding" = some value := by
    intro value
    rw [List.reverse_append, List.reverse_singleton, List.singleton_append, List.lookup_cons_self]
  have absent : (sections.filter fun entry => entry.1 ≠ "embedding").reverse.lookup "embedding" = none :=
    List.lookup_eq_none_iff.mpr fun entry member =>
      bne_iff_ne.mpr (Ne.symm (of_decide_eq_true (List.mem_filter.mp (List.mem_reverse.mp member)).2))
  refine ⟨?_, ?_, fun value notMapping => ?_⟩
  · simp only [fromYaml, bind, Except.bind, ConfigObject.toDict, fromYamlBody_section _ _ (lastSection _)]
    rfl
  · simp only [fromYaml, bind, Except.bind, fromYamlBody_no_section _ absent]
  · simp only [fromYaml, bind, Except.bind, fromYamlBody_not_mapping _ value (lastSection value) notMapping]

example : fromYaml (some (.ok (.list [.str "embedding"]))) = ConfigObject.defaults := rfl

end AkidbEmbedding.Mlx
