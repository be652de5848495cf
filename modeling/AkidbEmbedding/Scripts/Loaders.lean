import Mathlib
import AkidbEmbedding.Scripts.Importer

/-!
# Reading the import file: `load_csv` and `load_json`

Both loaders walk the file's entries with `enumerate`, append one document per
entry, and raise at the first entry they cannot read. That loop is one
definition, `collectEnumerate`, with one lemma for what it returns and one for
where it raises; each loader then only says what it makes of one entry.

`load_csv` is modelled on the rows `csv.reader` gives, with `float` as the
interpreter's parser, which also reads `nan` and `inf`. Each row's non-blank
cells are stripped and converted, and a row of another length than
`--dimension` raises. The handler of the loop catches that `ValueError` and
raises it again, so its line number appears twice. A CSV import can then fail
validation only when the file has no row or the dimension is out of range.

`load_json` is modelled on the value `json.load` reads; the decoder's own
errors are not. It keeps each `vector` member as whatever JSON value the file
holds.
-/
namespace AkidbEmbedding.Scripts

open AkidbEmbedding.Python

/-- `for idx, item in enumerate(items, start): documents.append(body(idx, item))`
followed by `return documents`: the first call that raises ends the loop. -/
def collectEnumerate {α β : Type} (body : Nat → α → Except PyError β) : Nat → List α → Except PyError (List β)
  | _, [] => .ok []
  | idx, item :: rest => do
    let document ← body idx item
    let documents ← collectEnumerate body (idx + 1) rest
    pure (document :: documents)

/-- `[float(x.strip()) for x in row if x.strip()]`: the cells that are not
blank, stripped and converted by `float`, which is the interpreter's parser
`parseFloat`. -/
def rowVector (parseFloat : String → Except PyError PyFloat) (row : List String) :
    Except PyError (List PyFloat) :=
  (row.filter fun x => !(strip x).isEmpty).mapM fun x => parseFloat (strip x)

/-- The `try` body of `load_csv` for the row on line `lineNum`. -/
def csvRowBody (parseFloat : String → Except PyError PyFloat) (dimension : Int) (lineNum : Nat)
    (row : List String) : Except PyError (List PyFloat) := do
  let vector ← rowVector parseFloat row
  if (vector.length : Int) ≠ dimension then
    .error ⟨"ValueError", "Line " ++ toString lineNum ++ ": expected " ++ toString dimension ++
      " values, got " ++ toString vector.length⟩
  else pure vector

/-- One iteration of `load_csv`'s loop: the `try` body, whose `ValueError` the
handler raises again with the line number in front. -/
def loadCsvRow (parseFloat : String → Except PyError PyFloat) (dimension : Int) (lineNum : Nat)
    (row : List String) : Except PyError Document :=
  match csvRowBody parseFloat dimension lineNum row with
  | .ok vector => .ok ⟨.list (vector.map .float), none, none⟩
  | .error e => .error (if e.kind = "ValueError" then ⟨"ValueError", "Line " ++ toString lineNum ++ ": " ++ e.text⟩ else e)

/-- `load_csv(file_path, dimension)` on the rows `csv.reader` reads from the
file, numbered from 1. -/
def loadCsv (parseFloat : String → Except PyError PyFloat) (rows : List (List String)) (dimension : Int) :
    Except PyError (List Document) :=
  collectEnumerate (loadCsvRow parseFloat dimension) 1 rows

/-- `item[key]` of an object `json.load` decoded, `none` when `key not in item`;
of repeated keys the decoder keeps the last. -/
def objectMember (members : List (String × Value)) (key : String) : Option Value :=
  members.reverse.lookup key

/-- The error of an item that is not an object with a `vector` member. -/
def invalidDocument (idx : Nat) : PyError :=
  ⟨"ValueError", "Invalid document at index " ++ toString idx ++ ": missing 'vector' field"⟩

/-- One iteration of `load_json`'s loop, on the item at index `idx`. -/
def jsonItem (idx : Nat) (item : Value) : Except PyError Document :=
  match item with
  | .dict members =>
    match objectMember members "vector" with
    | none => .error (invalidDocument idx)
    | some vector =>
      .ok ⟨vector, (objectMember members "external_id").map Value.text, objectMember members "metadata"⟩
  | _ => .error (invalidDocument idx)

/-- `load_json(file_path)` on the value `json.load` reads from the file. -/
def loadJson (data : Value) : Except PyError (List Document) :=
  match data with
  | .list items => collectEnumerate jsonItem 0 items
  | _ => .error ⟨"ValueError", "JSON file must contain an array of objects"⟩

section Enumerate

variable {α β : Type} (body : Nat → α → Except PyError β)

/-- One pass of the loop returned when its call and the rest of the loop did. -/
theorem collectEnumerate_cons_ok (idx : Nat) (item : α) (rest : List α) (documents : List β) :
    collectEnumerate body idx (item :: rest) = .ok documents ↔
      ∃ document documents', body idx item = .ok document ∧
        collectEnumerate body (idx + 1) rest = .ok documents' ∧ documents = document :: documents' := by
  simp only [collectEnumerate]
  cases body idx item with
  | error e => exact ⟨nofun, fun ⟨_, _, raised, _⟩ => nomatch raised⟩
  | ok document =>
    cases collectEnumerate body (idx + 1) rest with
    | error e => exact ⟨nofun, fun ⟨_, _, _, raised, _⟩ => nomatch raised⟩
    | ok documents' =>
      refine ⟨fun loaded => ⟨document, documents', rfl, rfl, (Except.ok.inj loaded).symm⟩, ?_⟩
      rintro ⟨_, _, ⟨⟩, ⟨⟩, rfl⟩
      rfl

/-- When `accepts` says which value each call returns, the loop returns exactly
the documents related one by one, in order, to the items. -/
theorem collectEnumerate_ok {accepts : α → β → Prop}
    (spec : ∀ idx item document, body idx item = .ok document ↔ accepts item document) :
    ∀ (idx : Nat) (items : List α) (documents : List β),
      collectEnumerate body idx items = .ok documents ↔ List.Forall₂ accepts items documents
  | _, [], documents => by
    rw [List.forall₂_nil_left_iff, collectEnumerate]
    exact ⟨fun loaded => (Except.ok.inj loaded).symm, fun empty => empty ▸ rfl⟩
  | idx, item :: rest, documents => by
    simp only [collectEnumerate_cons_ok, spec, collectEnumerate_ok spec (idx + 1) rest,
      List.forall₂_cons_left_iff]

/-- A loop that raised raised at its first item whose call raises, every call
before it having returned. -/
theorem collectEnumerate_error : ∀ (idx : Nat) (items : List α) (e : PyError),
    collectEnumerate body idx items = .error e →
      ∃ k item, items[k]? = some item ∧
        (∀ m < k, ∃ earlier document, items[m]? = some earlier ∧ body (idx + m) earlier = .ok document) ∧
        body (idx + k) item = .error e
  | _, [], _, raised => nomatch raised
  | idx, item :: rest, e, raised => by
    rw [collectEnumerate] at raised
    cases called : body idx item with
    | error e' =>
      rw [called] at raised
      cases raised
      exact ⟨0, item, List.getElem?_cons_zero, fun _ below => absurd below (Nat.not_lt_zero _), called⟩
    | ok document =>
      rw [called] at raised
      cases restLoaded : collectEnumerate body (idx + 1) rest with
      | ok documents =>
        simp only [bind, Except.bind, restLoaded] at raised
        cases raised
      | error e' =>
        simp only [bind, Except.bind, restLoaded] at raised
        cases raised
        obtain ⟨k, failing, found, before, failed⟩ := collectEnumerate_error (idx + 1) rest _ restLoaded
        refine ⟨k + 1, failing, by rw [List.getElem?_cons_succ]; exact found, fun m below => ?_,
          by rw [← Nat.add_assoc, Nat.add_right_comm]; exact failed⟩
        cases m with
        | zero => exact ⟨item, document, List.getElem?_cons_zero, called⟩
        | succ m =>
          rw [List.getElem?_cons_succ, ← Nat.add_assoc, Nat.add_right_comm]
          exact before m (by omega)

end Enumerate

section Csv

variable (parseFloat : String → Except PyError PyFloat) (dimension : Int)

/-- One row loads as its vector when its cells convert and number `dimension`;
a row of another length raises with its line number twice, once from the body
and once from the handler. -/
theorem loadCsvRow_eq (lineNum : Nat) (row : List String) :
    loadCsvRow parseFloat dimension lineNum row =
      match rowVector parseFloat row with
      | .ok vector =>
        if (vector.length : Int) = dimension then .ok ⟨.list (vector.map .float), none, none⟩
        else .error ⟨"ValueError", "Line " ++ toString lineNum ++ ": " ++ ("Line " ++ toString lineNum ++
          ": expected " ++ toString dimension ++ " values, got " ++ toString vector.length)⟩
      | .error e =>
        .error (if e.kind = "ValueError" then ⟨"ValueError", "Line " ++ toString lineNum ++ ": " ++ e.text⟩
          else e) := by
  unfold loadCsvRow csvRowBody
  cases rowVector parseFloat row with
  | error e => rfl
  | ok vector =>
    by_cases length : (vector.length : Int) = dimension
    · simp [bind, Except.bind, length, pure, Except.pure]
    · simp [bind, Except.bind, length]

/-- A row loads exactly when its cells convert and number `dimension`. -/
theorem loadCsvRow_ok (lineNum : Nat) (row : List String) (document : Document) :
    loadCsvRow parseFloat dimension lineNum row = .ok document ↔
      ∃ vector, rowVector parseFloat row = .ok vector ∧ (vector.length : Int) = dimension ∧
        document = ⟨.list (vector.map .float), none, none⟩ := by
  rw [loadCsvRow_eq]
  cases rowVector parseFloat row with
  | error e => simp
  | ok vector =>
    by_cases length : (vector.length : Int) = dimension
    · simp [length, eq_comm]
    · simp [length]

/-- For every row `csv.reader` gives, every `float` and every dimension,
`load_csv` returns exactly when every row's non-blank cells convert and number
`dimension`. It then returns one document per row, in order, holding that
row's values and no id or metadata. Otherwise it raises for the first row that
does not load, all rows before it having loaded:
- a row of another length raises with its line number twice, once from the
  length check and once from the handler;
- a cell `float` cannot convert raises `float`'s error behind the line number. -/
theorem load_csv_rows (rows : List (List String)) :
    (∀ documents, loadCsv parseFloat rows dimension = .ok documents ↔
      List.Forall₂ (fun row document => ∃ vector, rowVector parseFloat row = .ok vector ∧
        (vector.length : Int) = dimension ∧ document = ⟨.list (vector.map .float), none, none⟩) rows documents) ∧
    ∀ e, loadCsv parseFloat rows dimension = .error e →
      ∃ n row, rows[n]? = some row ∧
        (∀ m < n, ∃ earlier vector, rows[m]? = some earlier ∧ rowVector parseFloat earlier = .ok vector ∧
          (vector.length : Int) = dimension) ∧
        ((∃ vector, rowVector parseFloat row = .ok vector ∧ (vector.length : Int) ≠ dimension ∧
            e = ⟨"ValueError", "Line " ++ toString (n + 1) ++ ": " ++ ("Line " ++ toString (n + 1) ++
              ": expected " ++ toString dimension ++ " values, got " ++ toString vector.length)⟩) ∨
          ∃ e', rowVector parseFloat row = .error e' ∧
            e = if e'.kind = "ValueError" then ⟨"ValueError", "Line " ++ toString (n + 1) ++ ": " ++ e'.text⟩
              else e') := by
  refine ⟨collectEnumerate_ok _ (loadCsvRow_ok parseFloat dimension) 1 rows, fun e raised => ?_⟩
  obtain ⟨n, row, found, loadedBefore, failed⟩ := collectEnumerate_error _ 1 rows e raised
  refine ⟨n, row, found, fun m below => ?_, ?_⟩
  · obtain ⟨earlier, document, found', loaded⟩ := loadedBefore m below
    obtain ⟨vector, converted, length, -⟩ := (loadCsvRow_ok parseFloat dimension _ earlier document).mp loaded
    exact ⟨earlier, vector, found', converted, length⟩
  rw [loadCsvRow_eq, Nat.add_comm] at failed
  cases converted : rowVector parseFloat row with
  | error e' =>
    simp only [converted] at failed
    exact .inr ⟨e', rfl, (Except.error.inj failed).symm⟩
  | ok vector =>
    simp only [converted] at failed
    by_cases length : (vector.length : Int) = dimension
    · rw [if_pos length] at failed
      cases failed
    · rw [if_neg length] at failed
      exact .inl ⟨vector, rfl, length, (Except.error.inj failed).symm⟩

/-- `len` of values that all have one length gives that length for each. -/
theorem mapM_len_replicate (n : Nat) : ∀ vectors : List Value, (∀ vector ∈ vectors, vector.len = .ok n) →
    vectors.mapM Value.len = .ok (List.replicate vectors.length n)
  | [], _ => rfl
  | vector :: rest, lengths => by
    simp only [List.mapM_cons, lengths vector (List.mem_cons_self _ _),
      mapM_len_replicate n rest fun other held => lengths other (List.mem_cons_of_mem _ held)]
    rfl

/-- After `load_csv`, `validate_dimension(vectors, dimension)` returns the
dimension unless the file had no row or the dimension lies outside
[16, 4096]. Its inconsistency and mismatch checks never fire on a CSV import. -/
theorem csv_validation_by_range (rows : List (List String)) (documents : List Document)
    (loaded : loadCsv parseFloat rows dimension = .ok documents) :
    validateDimension (documents.map Document.vector) (some dimension) =
      if documents.isEmpty then .error ⟨"ValueError", "No vectors to import"⟩
      else if 16 ≤ dimension ∧ dimension ≤ 4096 then .ok dimension.toNat
      else .error ⟨"ValueError", "Dimension " ++ toString dimension.toNat ++ " outside valid range [16, 4096]"⟩ := by
  have accepted := (collectEnumerate_ok _ (loadCsvRow_ok parseFloat dimension) 1 rows documents).mp loaded
  have lengths : ∀ vector ∈ documents.map Document.vector, 0 ≤ dimension ∧ vector.len = .ok dimension.toNat := by
    clear loaded
    induction accepted with
    | nil => nofun
    | cons head _ later =>
      obtain ⟨vector, -, length, rfl⟩ := head
      refine List.forall_mem_cons.mpr ⟨⟨length ▸ Int.natCast_nonneg _, ?_⟩, later⟩
      simp only [Value.len, List.length_map, Except.ok.injEq]
      omega
  have empty : documents.isEmpty = (documents.map Document.vector).isEmpty := by cases documents <;> rfl
  rw [empty]
  generalize documents.map Document.vector = vectors at lengths ⊢
  cases vectors with
  | nil => rfl
  | cons first rest =>
    have nonneg : 0 ≤ dimension := (lengths first (List.mem_cons_self _ _)).1
    have cast : (dimension.toNat : Int) = dimension := Int.toNat_of_nonneg nonneg
    simp only [validateDimension, List.isEmpty_cons, Bool.false_eq_true, if_false, bind, Except.bind,
      mapM_len_replicate dimension.toNat (first :: rest) fun vector held => (lengths vector held).2,
      List.replicate_dedup (Nat.succ_ne_zero _), List.length_cons, cast, Option.isSome_some, ne_eq,
      not_true_eq_false, and_false, if_false]
    split_ifs <;> first | rfl | omega

end Csv

/-- `float` on the texts of zero and one, and `ValueError` on any other text. -/
def bitFloat (text : String) : Except PyError PyFloat :=
  if text = "0" then .ok (.finite 0) else if text = "1" then .ok (.finite 1)
  else .error ⟨"ValueError", "could not convert string to float: '" ++ text ++ "'"⟩

/-- A CSV file of two 16-value rows, the second with padded and blank cells. -/
def sixteenColumns : List (List String) :=
  [List.replicate 16 "0", List.replicate 15 " 1" ++ ["1 ", "  "]]

/-- The documents of its two rows. -/
def sixteenDocuments : List Document :=
  [⟨.list (List.replicate 16 (.float (.finite 0))), none, none⟩,
    ⟨.list (List.replicate 16 (.float (.finite 1))), none, none⟩]

/-- Both rows load, and validation returns the dimension 16. -/
theorem sixteen_columns_validate :
    loadCsv bitFloat sixteenColumns 16 = .ok sixteenDocuments ∧
      validateDimension (sixteenDocuments.map Document.vector) (some 16) =
        if sixteenDocuments.isEmpty then .error ⟨"ValueError", "No vectors to import"⟩
        else if 16 ≤ (16 : Int) ∧ (16 : Int) ≤ 4096 then .ok (16 : Int).toNat
        else .error ⟨"ValueError", "Dimension " ++ toString (16 : Int).toNat ++ " outside valid range [16, 4096]"⟩ :=
  have loaded : loadCsv bitFloat sixteenColumns 16 = .ok sixteenDocuments := rfl
  ⟨loaded, csv_validation_by_range bitFloat 16 sixteenColumns _ loaded⟩

section Json

/-- What `load_json` makes of one item it accepts: the item is an object with a
`vector` member, and the document holds that member, `str` of the
`external_id` member and the `metadata` member. -/
def JsonImportable (item : Value) (document : Document) : Prop :=
  ∃ members vector, item = .dict members ∧ objectMember members "vector" = some vector ∧
    document = ⟨vector, (objectMember members "external_id").map Value.text, objectMember members "metadata"⟩

/-- An item loads exactly as `JsonImportable` says. -/
theorem jsonItem_ok (idx : Nat) (item : Value) (document : Document) :
    jsonItem idx item = .ok document ↔ JsonImportable item document := by
  constructor
  · intro loaded
    cases item with
    | dict members =>
      cases found : objectMember members "vector" with
      | none => simp only [jsonItem, found] at loaded; nomatch loaded
      | some vector =>
        simp only [jsonItem, found] at loaded
        exact ⟨members, vector, rfl, found, (Except.ok.inj loaded).symm⟩
    | _ => nomatch loaded
  · rintro ⟨members, vector, rfl, found, rfl⟩
    simp only [jsonItem, found]

/-- An item `load_json` refuses is not an object with a `vector` member, and
the error names its index. -/
theorem jsonItem_error (idx : Nat) (item : Value) (e : PyError) (raised : jsonItem idx item = .error e) :
    e = invalidDocument idx ∧ ∀ members, item = .dict members → objectMember members "vector" = none := by
  cases item with
  | dict members =>
    cases found : objectMember members "vector" with
    | none =>
      simp only [jsonItem, found] at raised
      exact ⟨(Except.error.inj raised).symm, fun _ same => by cases same; exact found⟩
    | some vector => simp [jsonItem, found] at raised
  | _ =>
    simp only [jsonItem] at raised
    exact ⟨(Except.error.inj raised).symm, fun _ wrong => nomatch wrong⟩

example : loadJson (.list [.dict [("vector", .list [.int 1]), ("external_id", .int 7)], .dict []]) =
    .error (invalidDocument 1) := rfl

example : (loadJson (.list [.dict [("vector", .list []), ("external_id", .float (.finite (mkRat 1 2)))]])).map
    (List.map Document.externalId) = .ok [some "0.5"] := by rfl

end Json

end AkidbEmbedding.Scripts
