import Mathlib
import AkidbEmbedding.Python

/-!
# Batched import in the data-import example

`AkiDBImporter.import_data` validates the dimension of the loaded documents,
then walks `range(0, total, batch_size)`, passing `documents[i:i + batch_size]`
to `insert_batch` and adding the batch's length to `succeeded` or `failed` by
its result. `insert_batch` posts the batch up to three times while `requests`
raises a `RequestException`. `main` exits with status 1 when `failed` is
positive or the import raised, and 0 otherwise.

`--batch-size` is whatever integer argparse accepts. A positive one partitions
the documents in order. Zero makes `range` raise. A negative one makes the range
empty: nothing is posted, both counters stay zero, and `main` exits 0.

The server's answers are an input: whether the `k`-th POST of the run was
acknowledged, for every `k`. `requests` encodes the batch with
`allow_nan=False` before it sends anything, so a batch holding a NaN or an
infinity raises `InvalidJSONError`, a `RequestException`, at every attempt and
is never posted.

A document keeps its `vector` as the loader found it: `load_json` takes any
JSON value, and `validate_dimension` takes its `len`. The documents are taken
as loaded; the two loaders are in `Scripts.Loaders`.
-/
namespace AkidbEmbedding.Scripts

open AkidbEmbedding.Python

/-- A document `load_json` or `load_csv` builds: `vector`, and `external_id`
and `metadata` when present. -/
structure Document where
  vector : Value
  externalId : Option String
  metadata : Option Value

/-- Whether `json.dumps` with `allow_nan=False` encodes the document. -/
def Document.encodable (document : Document) : Bool :=
  document.vector.finite && document.metadata.all Value.finite

/-- The statistics `import_data` returns, without its timings. -/
structure ImportStats where
  total : Nat
  succeeded : Nat
  failed : Nat
  dimension : Nat

/-- `validate_dimension(vectors, expected_dim)`: the set of the vectors' `len`,
where a value without one raises `TypeError`. The order in which Python prints
a set of dimensions is not modelled. -/
def validateDimension (vectors : List Value) (expectedDim : Option Int) : Except PyError Nat :=
  if vectors.isEmpty then .error ⟨"ValueError", "No vectors to import"⟩
  else do
    let lengths ← vectors.mapM Value.len
    match lengths.dedup with
    | [actualDim] =>
      if expectedDim.isSome ∧ expectedDim ≠ some (actualDim : Int) then
        .error ⟨"ValueError", "Dimension mismatch: expected " ++ toString (expectedDim.getD 0) ++
          ", got " ++ toString actualDim⟩
      else if ¬ (16 ≤ actualDim ∧ actualDim ≤ 4096) then
        .error ⟨"ValueError", "Dimension " ++ toString actualDim ++ " outside valid range [16, 4096]"⟩
      else .ok actualDim
    | dimensions => .error ⟨"ValueError", "Inconsistent vector dimensions: \x7b" ++
        ", ".intercalate (dimensions.map toString) ++ "\x7d"⟩

/-- `insert_batch(documents, attempt)` with `posted` POSTs made before it, for a
batch that `json.dumps` encodes exactly when `encodes`. POST number `posted` is
answered by `responses posted`; a batch that does not encode raises before its
POST. A failed attempt is retried until attempt `max_attempts = 3`. It returns
the batch's result and the number of POSTs made after it. The half-second
sleeps between attempts are not modelled. -/
def insertBatch (responses : Nat → Bool) (encodes : Bool) (posted attempt : Nat) : Bool × Nat :=
  if encodes && responses posted then (true, posted + 1)
  else if retry : attempt < 3 then insertBatch responses encodes (posted + if encodes then 1 else 0) (attempt + 1)
  else (false, posted + if encodes then 1 else 0)
termination_by 3 - attempt

/-- `range(0, total, step)`: a zero step raises, and a negative one steps away
from a `total` that is not negative, so gives no index. -/
def pyRange (total : Nat) (step : Int) : Except PyError (List Nat) :=
  if step = 0 then .error ⟨"ValueError", "range() arg 3 must not be zero"⟩
  else if 0 < step then .ok ((List.range ((total + step.toNat - 1) / step.toNat)).map (· * step.toNat))
  else .ok []

/-- The loop's state: the POSTs made, each batch passed to `insert_batch` with
its result, and the two counters. -/
structure Progress where
  posted : Nat
  batches : List (List Document × Bool)
  succeeded : Nat
  failed : Nat

/-- One iteration of the loop, at index `i`. -/
def importStep (responses : Nat → Bool) (documents : List Document) (batchSize : Nat)
    (progress : Progress) (i : Nat) : Progress :=
  let batch := (documents.drop i).take batchSize
  let inserted := insertBatch responses (batch.all Document.encodable) progress.posted 1
  if inserted.1 then
    ⟨inserted.2, progress.batches ++ [(batch, true)], progress.succeeded + batch.length, progress.failed⟩
  else ⟨inserted.2, progress.batches ++ [(batch, false)], progress.succeeded, progress.failed + batch.length⟩

/-- `import_data` on the loaded documents: the statistics, with the batches
passed to `insert_batch` and their results. -/
def importData (responses : Nat → Bool) (batchSize : Int) (dimension : Option Int)
    (documents : List Document) : Except PyError (List (List Document × Bool) × ImportStats) := do
  let actualDim ← validateDimension (documents.map Document.vector) dimension
  let indices ← pyRange documents.length batchSize
  let progress := indices.foldl (importStep responses documents batchSize.toNat) ⟨0, [], 0, 0⟩
  pure (progress.batches, ⟨documents.length, progress.succeeded, progress.failed, actualDim⟩)

/-- The exit status of `main` after `import_data`. -/
def exitCode : Except PyError (List (List Document × Bool) × ImportStats) → Nat
  | .ok (_, stats) => if stats.failed > 0 then 1 else 0
  | .error _ => 1

/-- What the loop keeps of its counters: together they count the documents of
the batches so far, and nothing failed exactly when every non-empty batch so far
was acknowledged. -/
def Progress.Counted (progress : Progress) : Prop :=
  progress.succeeded + progress.failed = (progress.batches.map fun batch => batch.1.length).sum ∧
    (progress.failed = 0 ↔ ∀ batch ∈ progress.batches, batch.2 = true ∨ batch.1 = [])

section Loop

variable (responses : Nat → Bool) (documents : List Document) (batchSize : Nat)

/-- One iteration passes the batch at its index to `insert_batch`. -/
theorem importStep_sent (progress : Progress) (i : Nat) :
    (importStep responses documents batchSize progress i).batches.map Prod.fst =
      progress.batches.map Prod.fst ++ [(documents.drop i).take batchSize] := by
  unfold importStep
  dsimp only
  split <;> simp

/-- One iteration keeps the counters counted. -/
theorem importStep_counted (progress : Progress) (i : Nat) (counted : progress.Counted) :
    (importStep responses documents batchSize progress i).Counted := by
  obtain ⟨sum, none⟩ := counted
  unfold importStep Progress.Counted
  dsimp only
  split
  · refine ⟨by simp only [List.map_append, List.map_cons, List.map_nil, List.sum_append,
      List.sum_cons, List.sum_nil]; omega, ?_⟩
    simp only [none, List.mem_append, List.mem_singleton]
    constructor
    · rintro all batch (old | rfl)
      · exact all batch old
      · exact .inl rfl
    · exact fun all batch old => all batch (.inl old)
  · refine ⟨by simp only [List.map_append, List.map_cons, List.map_nil, List.sum_append,
      List.sum_cons, List.sum_nil]; omega, ?_⟩
    simp only [Nat.add_eq_zero, none, List.mem_append, List.mem_singleton, List.length_eq_zero]
    constructor
    · rintro ⟨all, empty⟩ batch (old | rfl)
      · exact all batch old
      · exact .inr empty
    · intro all
      refine ⟨fun batch old => all batch (.inl old), ?_⟩
      simpa using all _ (.inr rfl)

/-- The whole loop passes the batches at its indices, in order, and keeps the
counters counted. -/
theorem foldl_importStep :
    ∀ (indices : List Nat) (progress : Progress), progress.Counted →
      (indices.foldl (importStep responses documents batchSize) progress).Counted ∧
      (indices.foldl (importStep responses documents batchSize) progress).batches.map Prod.fst =
        progress.batches.map Prod.fst ++ indices.map fun i => (documents.drop i).take batchSize
  | [], progress, counted => ⟨counted, by simp⟩
  | i :: indices, progress, counted => by
    obtain ⟨counted', sent⟩ := foldl_importStep indices _
      (importStep_counted responses documents batchSize progress i counted)
    refine ⟨counted', ?_⟩
    rw [List.foldl_cons, sent, importStep_sent]
    simp

end Loop

/-- Cutting a list of at most `k * b` elements at every multiple of `b` below
`k * b` gives back the list. -/
theorem chunks_flatten {α : Type} (b : Nat) :
    ∀ (k : Nat) (items : List α), items.length ≤ k * b →
      ((List.range k).map fun j => (items.drop (j * b)).take b).flatten = items
  | 0, items, short => by simpa using short
  | k + 1, items, short => by
    have shifted : ∀ j, (items.drop ((j + 1) * b)).take b = ((items.drop b).drop (j * b)).take b := by
      intro j
      rw [List.drop_drop, Nat.succ_mul, Nat.add_comm]
    rw [List.range_succ_eq_map, List.map_cons, List.map_map, List.flatten_cons]
    simp only [Function.comp_def, Nat.succ_eq_add_one, shifted]
    rw [chunks_flatten b k (items.drop b) (by simp only [List.length_drop, Nat.succ_mul] at short ⊢; omega)]
    simp

/-- A positive step cuts a list of `n` elements at `⌈n / b⌉` places, each
before an element. -/
theorem ceil_steps (n b : Nat) (positive : 0 < b) :
    n ≤ (n + b - 1) / b * b ∧ ∀ j < (n + b - 1) / b, j * b < n := by
  have split := Nat.div_add_mod (n + b - 1) b
  have below := Nat.mod_lt (n + b - 1) positive
  have cut := Nat.div_mul_le_self (n + b - 1) b
  rw [Nat.mul_comm] at split
  refine ⟨by omega, fun j inside => ?_⟩
  have := Nat.mul_le_mul_right b (Nat.succ_le_of_lt inside)
  rw [Nat.succ_mul] at this
  omega

/-- For every answer of the server to every POST, every batch size and every
list of documents, a returned `import_data` had a non-empty list of documents
and a non-zero batch size. With a positive batch size, the batches it passed to
`insert_batch` are non-empty and partition the documents in order,
`succeeded + failed = total`, and `failed = 0` exactly when every batch was
acknowledged. With a negative batch size no batch is passed, both counters are
zero, and `main` exits with status 0. -/
theorem import_partition (responses : Nat → Bool) (batchSize : Int) (dimension : Option Int)
    (documents : List Document) (batches : List (List Document × Bool)) (stats : ImportStats)
    (returned : importData responses batchSize dimension documents = .ok (batches, stats)) :
    documents ≠ [] ∧ stats.total = documents.length ∧ batchSize ≠ 0 ∧
      (0 < batchSize → (batches.map Prod.fst).flatten = documents ∧ (∀ batch ∈ batches, batch.1 ≠ []) ∧
        stats.succeeded + stats.failed = stats.total ∧ (stats.failed = 0 ↔ ∀ batch ∈ batches, batch.2 = true)) ∧
      (batchSize < 0 → batches = [] ∧ stats.succeeded = 0 ∧ stats.failed = 0 ∧
        exitCode (.ok (batches, stats)) = 0) := by
  obtain ⟨actualDim, validated, rest⟩ := except_bind_ok returned
  obtain ⟨indices, ranged, finished⟩ := except_bind_ok rest
  cases finished
  have present : documents ≠ [] := fun empty => by simp [empty, validateDimension] at validated
  unfold pyRange at ranged
  split_ifs at ranged with zero positive
  · cases ranged
    obtain ⟨counted, sent⟩ := foldl_importStep responses documents batchSize.toNat _ ⟨0, [], 0, 0⟩
      ⟨rfl, iff_of_true rfl fun _ absent => nomatch absent⟩
    generalize List.foldl _ _ _ = progress at counted sent ⊢
    simp only [List.map_nil, List.nil_append, List.map_map, Function.comp_def] at sent
    obtain ⟨covering, before⟩ := ceil_steps documents.length batchSize.toNat (by omega)
    have chunks := chunks_flatten batchSize.toNat _ documents covering
    have nonempty : ∀ batch ∈ progress.batches, batch.1 ≠ [] := by
      intro batch member
      obtain ⟨j, inside, same⟩ := List.mem_map.mp (sent ▸ List.mem_map_of_mem Prod.fst member)
      have := before j (List.mem_range.mp inside)
      rw [← same, ne_eq, List.take_eq_nil_iff, not_or, List.drop_eq_nil_iff]
      omega
    refine ⟨present, rfl, zero, fun _ => ⟨by rw [sent]; exact chunks, nonempty, ?_, ?_⟩,
      fun negative => absurd positive (by omega)⟩
    · rw [counted.1, show (progress.batches.map fun batch => batch.1.length) =
        (progress.batches.map Prod.fst).map List.length by simp only [List.map_map, Function.comp_def],
        sent, ← List.length_flatten, chunks]
    · rw [counted.2]
      exact forall₂_congr fun batch member => or_iff_left (nonempty batch member)
  · cases ranged
    exact ⟨present, rfl, zero, fun positive' => absurd positive' positive, fun _ => ⟨rfl, rfl, rfl, rfl⟩⟩

/-- A document of a 16-dimensional vector, as `load_json` builds it. -/
def oneDocument : Document :=
  ⟨.list (List.replicate 16 (.int 0)), some "doc1", none⟩

/-- With `--batch-size -1` the import of one document passes no batch to
`insert_batch` and reports one document in total, none succeeded and none
failed, and `main` exits 0. -/
theorem negative_batch_imports_nothing :
    importData (fun _ => true) (-1) none [oneDocument] = .ok ([], ⟨1, 0, 0, 16⟩) ∧
      ((-1 : Int) < 0 → ([] : List (List Document × Bool)) = [] ∧
        (⟨1, 0, 0, 16⟩ : ImportStats).succeeded = 0 ∧ (⟨1, 0, 0, 16⟩ : ImportStats).failed = 0 ∧
        exitCode (.ok ([], ⟨1, 0, 0, 16⟩)) = 0) :=
  have computed : importData (fun _ => true) (-1) none [oneDocument] = .ok ([], ⟨1, 0, 0, 16⟩) := rfl
  ⟨computed, (import_partition (fun _ => true) (-1) none [oneDocument] [] ⟨1, 0, 0, 16⟩ computed).2.2.2.2⟩

end AkidbEmbedding.Scripts
