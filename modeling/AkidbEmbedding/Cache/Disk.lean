import AkidbEmbedding.Cache.Loader
import Mathlib.Data.List.Infix
import Mathlib.Data.String.Basic

/-!
# The cache root as paths on a disk

`get_model_path(model_name)` is `get_cache_dir() / model_name`, and
`clear_cache(model_name)` removes whatever that path reaches. Nothing checks
the name against `MODELS`. pathlib joins a name that does not start with `/`
below the root and lets one that does replace the root, and the operating
system then walks the components one by one, so `..` climbs out of the root.

A disk is the list of the paths of its directories and of its files, each path
the list of its components below `/`, no path being both; symbolic links are
not modelled. The system calls are those of Linux: a walk stops with `ENOENT`,
`ENOTDIR` or `ENAMETOOLONG`, a component of more than `NAME_MAX` bytes names
nothing, and a path text of `PATH_MAX` bytes or more is refused whole. The
`exists()` of Python 3.12's pathlib is false for the first two and raises the
third. `shutil.rmtree` removes what is below the directory the path reaches
and then calls `rmdir` on the path as it was given, which the system walks
again: for a path that ends in `..`, that second walk fails or is refused, and
the directory stays, emptied, while `rmtree` raises.

The flat cache of `Loader` is what a disk holds under the cache root
(`Disk.cacheAt`). For every name that reaches the whole root or one model's
directory, `clear_cache` on the disk refines the flat `clearCache`.
-/

namespace AkidbEmbedding.Cache

open AkidbEmbedding.Python

/-- A file system: the paths of its directories and of its files, each the list
of its components below `/`. No path is both. -/
@[ext]
structure Disk where
  dirs : List (List String)
  files : List (List String)
  disjoint : ∀ p ∈ files, p ∉ dirs

/-- The parts `PurePosixPath` keeps of a path text: empty parts and `.` go,
`..` stays. -/
def pathParts (text : String) : List String :=
  ((splitSlash text.data).map String.mk).filter fun part => part ≠ "" ∧ part ≠ "."

/-- pathlib's `base / name`: a name that starts with `/` replaces the base. -/
def joinPath (base : List String) (name : String) : List String :=
  if name.data.head? = some '/' then pathParts name else base ++ pathParts name

/-- A path as Python prints it. -/
def showPath (path : List String) : String :=
  "/" ++ "/".intercalate path

/-- `NAME_MAX`: the most bytes a component of a path can have. -/
def nameMax : Nat := 255

/-- `PATH_MAX`: a path text must have fewer bytes than this. -/
def pathMax : Nat := 4096

/-- An error number a system call on a path sets. -/
inductive Errno where
  | noEntry
  | fileExists
  | notDirectory
  | nameTooLong
  | notEmpty
  | busy
  deriving DecidableEq

/-- The `OSError` Python raises for an error number on `path`: its class, and
`str(e)`, which shows the number, the system's text and the path's repr. -/
def Errno.error (errno : Errno) (path : List String) : PyError :=
  let (kind, code, text) : String × Nat × String := match errno with
    | .noEntry => ("FileNotFoundError", 2, "No such file or directory")
    | .fileExists => ("FileExistsError", 17, "File exists")
    | .notDirectory => ("NotADirectoryError", 20, "Not a directory")
    | .nameTooLong => ("OSError", 36, "File name too long")
    | .notEmpty => ("OSError", 39, "Directory not empty")
    | .busy => ("OSError", 16, "Device or resource busy")
  ⟨kind, "[Errno " ++ toString code ++ "] " ++ text ++ ": " ++ strRepr (showPath path)⟩

/-- Whether `p` lies strictly below `target`. -/
def strictlyBelow (target p : List String) : Bool :=
  target.isPrefixOf p && p != target

namespace Disk

/-- The disk with only the directories `keepDir` keeps and the files `keepFile` keeps. -/
def keep (disk : Disk) (keepDir keepFile : List String → Bool) : Disk :=
  ⟨disk.dirs.filter keepDir, disk.files.filter keepFile, fun _ file dir =>
    disk.disjoint _ (List.mem_filter.mp file).1 (List.mem_filter.mp dir).1⟩

/-- The disk with one more directory, at a path that is not a file. -/
def addDir (disk : Disk) (p : List String) (fresh : p ∉ disk.files) : Disk :=
  ⟨disk.dirs ++ [p], disk.files, fun q file dir => (List.mem_append.mp dir).elim (disk.disjoint q file)
    fun same => fresh ((List.mem_singleton.mp same) ▸ file)⟩

/-- The disk without everything strictly below `target`. -/
def emptyBelow (disk : Disk) (target : List String) : Disk :=
  disk.keep (fun p => !strictlyBelow target p) (fun p => !strictlyBelow target p)

/-- The disk without `target` and everything below it. -/
def prune (disk : Disk) (target : List String) : Disk :=
  disk.keep (fun p => !target.isPrefixOf p) (fun p => !target.isPrefixOf p)

/-- Whether a path the walk reached is a directory: `/`, or a directory of the disk. -/
def isDirectory (disk : Disk) (p : List String) : Bool :=
  p.isEmpty || p ∈ disk.dirs

/-- How the system walks the components of a path from the directory `current`:
`..` goes to the parent, `/` being its own parent; any other component must be a
directory to walk through, and the last one may be a file. A missing component
of more than `NAME_MAX` bytes stops the walk with `ENAMETOOLONG`. -/
def walk (disk : Disk) : List String → List String → Except Errno (List String)
  | current, [] => .ok current
  | current, part :: rest =>
    if part = ".." then disk.walk current.dropLast rest
    else if current ++ [part] ∈ disk.dirs then disk.walk (current ++ [part]) rest
    else if current ++ [part] ∈ disk.files then
      if rest = [] then .ok (current ++ [part]) else .error .notDirectory
    else .error (if nameMax < part.utf8ByteSize then .nameTooLong else .noEntry)

/-- The walk a system call makes of the absolute path it is given. -/
def resolve (disk : Disk) (path : List String) : Except Errno (List String) :=
  if pathMax ≤ (showPath path).utf8ByteSize then .error .nameTooLong else disk.walk [] path

/-- `Path.exists()` of Python 3.12: false when the walk stops with `ENOENT` or
`ENOTDIR`, while `ENAMETOOLONG` propagates. -/
def pathExists (disk : Disk) (path : List String) : Except PyError Bool :=
  match disk.resolve path with
  | .ok _ => .ok true
  | .error .nameTooLong => .error (Errno.nameTooLong.error path)
  | .error _ => .ok false

/-- `Path.mkdir(parents=True, exist_ok=True)` of `path`, from the directory
`current`, `done` being the components gone through and `made` whether a
directory was made. A missing directory is made, as the recursion of `mkdir`
on the parents does. A file in the way raises: from the first `mkdir` of the
whole path when nothing was made, and from the `mkdir` of the part up to the
file otherwise. So does a missing component of more than `NAME_MAX` bytes. -/
def makeDirsFrom (disk : Disk) (path : List String) :
    List String → List String → Bool → List String → Disk × Except PyError Unit
  | _, _, _, [] => (disk, .ok ())
  | current, done, made, part :: rest =>
    if part = ".." then disk.makeDirsFrom path current.dropLast (done ++ [part]) made rest
    else if current ++ [part] ∈ disk.dirs then
      disk.makeDirsFrom path (current ++ [part]) (done ++ [part]) made rest
    else if file : current ++ [part] ∈ disk.files then
      (disk, .error (if made then Errno.fileExists.error (done ++ [part])
        else if rest = [] then Errno.fileExists.error path else Errno.notDirectory.error path))
    else if nameMax < part.utf8ByteSize then
      (disk, .error (Errno.nameTooLong.error (if made then done ++ [part] else path)))
    else (disk.addDir (current ++ [part]) file).makeDirsFrom path (current ++ [part]) (done ++ [part]) true rest

/-- `Path.mkdir(parents=True, exist_ok=True)`: a path text of `PATH_MAX` bytes
or more is refused at once. The state is returned with the outcome, since
directories made before a raise stay. -/
def makeDirs (disk : Disk) (path : List String) : Disk × Except PyError Unit :=
  if pathMax ≤ (showPath path).utf8ByteSize then (disk, .error (Errno.nameTooLong.error path))
  else disk.makeDirsFrom path [] [] false path

/-- Whether anything lies strictly below `target`. -/
def holdsBelow (disk : Disk) (target : List String) : Bool :=
  disk.dirs.any (strictlyBelow target) || disk.files.any (strictlyBelow target)

/-- `os.rmdir(path)`: the walk to the parent, then the last component, which
must name an empty directory. A last component `..` is refused with
`ENOTEMPTY`, and `/` with `EBUSY`. -/
def rmdir (disk : Disk) (path : List String) : Except Errno Disk :=
  if pathMax ≤ (showPath path).utf8ByteSize then .error .nameTooLong
  else match path.getLast? with
    | none => .error .busy
    | some last =>
      match disk.walk [] path.dropLast with
      | .error errno => .error errno
      | .ok parent =>
        if !disk.isDirectory parent then .error .notDirectory
        else if last = ".." then .error .notEmpty
        else if parent ++ [last] ∈ disk.dirs then
          if disk.holdsBelow (parent ++ [last]) then .error .notEmpty
          else .ok (disk.keep (· != parent ++ [last]) fun _ => true)
        else if parent ++ [last] ∈ disk.files then .error .notDirectory
        else .error (if nameMax < last.utf8ByteSize then .nameTooLong else .noEntry)

/-- `shutil.rmtree(path)` of Python 3.12: `lstat` and `open` walk the path,
everything below the directory they reach is removed, then `os.rmdir(path)`
walks the path again. A file raises `NotADirectoryError` from `scandir`. The
state is returned with the outcome, since an `rmdir` that fails leaves the
directory emptied. -/
def rmtree (disk : Disk) (path : List String) : Disk × Except PyError Unit :=
  match disk.resolve path with
  | .error errno => (disk, .error (errno.error path))
  | .ok target =>
    if !disk.isDirectory target then (disk, .error (Errno.notDirectory.error path))
    else match (disk.emptyBelow target).rmdir path with
      | .ok removed => (removed, .ok ())
      | .error errno => (disk.emptyBelow target, .error (errno.error path))

/-- The `else` branch of `clear_cache`: when the root exists, it goes and is made again. -/
def clearRoot (disk : Disk) (root : List String) : Disk × Except PyError Unit :=
  proceed disk (disk.pathExists root) fun present =>
  if present then
    match disk.rmtree root with
    | (removed, .ok ()) => removed.makeDirs root
    | failed => failed
  else (disk, .ok ())

/-- The `if` branch of `clear_cache`: what the joined path reaches goes, when it exists. -/
def removeIfExists (disk : Disk) (path : List String) : Disk × Except PyError Unit :=
  proceed disk (disk.pathExists path) fun present =>
  if present then disk.rmtree path else (disk, .ok ())

/-- `clear_cache(model_name)` with the cache root at `root`. `get_cache_dir`
makes the root first; a non-empty name then removes whatever `root / model_name`
reaches, when it exists, and no name or an empty one clears the root. -/
def clearCache (disk : Disk) (root : List String) (modelName : Option String) :
    Disk × Except PyError Unit :=
  match disk.makeDirs root with
  | (made, .ok ()) =>
    match modelName with
    | some name => if name.isEmpty then made.clearRoot root else made.removeIfExists (joinPath root name)
    | none => made.clearRoot root
  | failed => failed

/-- The flat cache a disk holds under `root`: each directory directly below the
root, with the names of the files directly in it. -/
def cacheAt (disk : Disk) (root : List String) : CacheRoot := fun name =>
  if root ++ [name] ∈ disk.dirs then
    some (disk.files.filterMap fun path => if path.dropLast = root ++ [name] then path.getLast? else none)
  else none

section Lemmas

variable (disk : Disk)

@[simp] theorem mem_keep_dirs (keepDir keepFile : List String → Bool) (p : List String) :
    p ∈ (disk.keep keepDir keepFile).dirs ↔ p ∈ disk.dirs ∧ keepDir p = true :=
  List.mem_filter

@[simp] theorem mem_keep_files (keepDir keepFile : List String → Bool) (p : List String) :
    p ∈ (disk.keep keepDir keepFile).files ↔ p ∈ disk.files ∧ keepFile p = true :=
  List.mem_filter

@[simp] theorem strictlyBelow_iff (target p : List String) :
    strictlyBelow target p = true ↔ target <+: p ∧ p ≠ target := by
  simp [strictlyBelow]

/-- The walk of an appended path goes on from where the first part ends, when
that part has no `..` and passes only through directories. -/
theorem walk_append (rest : List String) :
    ∀ (path current : List String), ".." ∉ path →
      (∀ k, 0 < k → k ≤ path.length → current ++ path.take k ∈ disk.dirs) →
      disk.walk current (path ++ rest) = disk.walk (current ++ path) rest
  | [], current, _, _ => by simp
  | part :: path, current, plain, through => by
    have notUp : part ≠ ".." := fun same => plain (same ▸ List.mem_cons_self _ _)
    have dir : current ++ [part] ∈ disk.dirs := by simpa using through 1 Nat.one_pos (by simp)
    rw [List.cons_append, walk, if_neg notUp, if_pos dir,
      walk_append rest path (current ++ [part]) (fun up => plain (List.mem_cons_of_mem _ up))
        fun k positive inside => by
          simpa [List.take_succ_cons] using through (k + 1) (Nat.succ_pos k) (by simpa using inside)]
    simp

/-- A walk along components without `..` that reaches something reaches the
path itself, through directories. -/
theorem walk_plain_ok : ∀ (path current target : List String), ".." ∉ path →
    disk.walk current path = .ok target →
      target = current ++ path ∧ ∀ k, 0 < k → k < path.length → current ++ path.take k ∈ disk.dirs
  | [], current, target, _, reached => by
    cases reached
    exact ⟨by simp, fun k positive below => absurd below (by simp)⟩
  | part :: rest, current, target, plain, reached => by
    have notUp : part ≠ ".." := fun same => plain (same ▸ List.mem_cons_self _ _)
    rw [walk, if_neg notUp] at reached
    split_ifs at reached with dir file last
    · obtain ⟨same, through⟩ := walk_plain_ok rest (current ++ [part]) target
        (fun up => plain (List.mem_cons_of_mem _ up)) reached
      refine ⟨by simp [same], fun k positive below => ?_⟩
      cases k with
      | zero => exact absurd positive (Nat.lt_irrefl 0)
      | succ k =>
        cases k with
        | zero => simpa using dir
        | succ k => simpa using through (k + 1) (Nat.succ_pos k) (by simp at below; omega)
    · cases reached
      subst last
      exact ⟨rfl, fun k positive below => absurd below (by simp; omega)⟩

/-- `mkdir` of a path without `..`, from `current` on, keeps the files and
every directory, adds only directories along the path, and when it returns
every one of them is a directory. -/
theorem makeDirsFrom_plain (path : List String) :
    ∀ (rest current done : List String) (made : Bool) (disk : Disk), ".." ∉ rest →
      (disk.makeDirsFrom path current done made rest).1.files = disk.files ∧
      (∀ p ∈ disk.dirs, p ∈ (disk.makeDirsFrom path current done made rest).1.dirs) ∧
      (∀ p ∈ (disk.makeDirsFrom path current done made rest).1.dirs,
        p ∈ disk.dirs ∨ ∃ k, 0 < k ∧ k ≤ rest.length ∧ p = current ++ rest.take k) ∧
      ((disk.makeDirsFrom path current done made rest).2 = .ok () →
        ∀ k, 0 < k → k ≤ rest.length → current ++ rest.take k ∈ (disk.makeDirsFrom path current done made rest).1.dirs)
  | [], _, _, _, disk, _ => ⟨rfl, fun _ held => held, fun _ held => .inl held,
      fun _ k positive inside => absurd inside (by simp; omega)⟩
  | part :: rest, current, done, made, disk, plain => by
    have notUp : part ≠ ".." := fun same => plain (same ▸ List.mem_cons_self _ _)
    have later : ".." ∉ rest := fun up => plain (List.mem_cons_of_mem _ up)
    have shift : ∀ k, current ++ [part] ++ rest.take k = current ++ (part :: rest).take (k + 1) := by simp
    have along : ∀ p, (p = current ++ [part] ∨ ∃ k, 0 < k ∧ k ≤ rest.length ∧ p = current ++ [part] ++ rest.take k) →
        ∃ k, 0 < k ∧ k ≤ (part :: rest).length ∧ p = current ++ (part :: rest).take k := by
      rintro p (rfl | ⟨k, positive, inside, rfl⟩)
      · exact ⟨1, Nat.one_pos, by simp, by simp⟩
      · exact ⟨k + 1, Nat.succ_pos k, by simp; omega, shift k⟩
    have every : ∀ (result : Disk), current ++ [part] ∈ result.dirs →
        (∀ k, 0 < k → k ≤ rest.length → current ++ [part] ++ rest.take k ∈ result.dirs) →
        ∀ k, 0 < k → k ≤ (part :: rest).length → current ++ (part :: rest).take k ∈ result.dirs := by
      intro result first others k positive inside
      cases k with
      | zero => exact absurd positive (Nat.lt_irrefl 0)
      | succ k =>
        cases k with
        | zero => simpa using first
        | succ k => rw [← shift]; exact others (k + 1) (Nat.succ_pos k) (by simp at inside; omega)
    rw [makeDirsFrom, if_neg notUp]
    by_cases dir : current ++ [part] ∈ disk.dirs
    · rw [if_pos dir]
      obtain ⟨files, kept, added, complete⟩ := makeDirsFrom_plain path rest (current ++ [part]) (done ++ [part])
        made disk later
      exact ⟨files, kept, fun p held => (added p held).imp id fun below => along p (.inr below),
        fun returned => every _ (kept _ dir) (complete returned)⟩
    rw [if_neg dir]
    by_cases file : current ++ [part] ∈ disk.files
    · rw [dif_pos file]
      exact ⟨rfl, fun _ held => held, fun _ held => .inl held, nofun⟩
    rw [dif_neg file]
    by_cases long : nameMax < part.utf8ByteSize
    · rw [if_pos long]
      exact ⟨rfl, fun _ held => held, fun _ held => .inl held, nofun⟩
    rw [if_neg long]
    obtain ⟨files, kept, added, complete⟩ := makeDirsFrom_plain path rest (current ++ [part]) (done ++ [part])
      true (disk.addDir (current ++ [part]) file) later
    have grown : ∀ p ∈ disk.dirs, p ∈ (disk.addDir (current ++ [part]) file).dirs :=
      fun p held => List.mem_append_left _ held
    refine ⟨files, fun p held => kept p (grown p held), fun p held => ?_,
      fun returned => every _ (kept _ (List.mem_append_right _ (List.mem_singleton_self _))) (complete returned)⟩
    rcases added p held with old | below
    · rcases List.mem_append.mp old with old | new
      · exact .inl old
      · exact .inr (along p (.inl (List.mem_singleton.mp new)))
    · exact .inr (along p (.inr below))

/-- `mkdir(parents=True, exist_ok=True)` of a path without `..` keeps the files
and every directory and adds only non-empty prefixes of the path, whether it
returns or raises. When it returns, the path's text is below `PATH_MAX` and
every non-empty prefix of the path is a directory. -/
theorem makeDirs_plain (path : List String) (plain : ".." ∉ path) :
    (disk.makeDirs path).1.files = disk.files ∧ (∀ p ∈ disk.dirs, p ∈ (disk.makeDirs path).1.dirs) ∧
      (∀ p ∈ (disk.makeDirs path).1.dirs, p ∈ disk.dirs ∨ ∃ k, 0 < k ∧ k ≤ path.length ∧ p = path.take k) ∧
      ((disk.makeDirs path).2 = .ok () → (showPath path).utf8ByteSize < pathMax ∧
        ∀ k, 0 < k → k ≤ path.length → path.take k ∈ (disk.makeDirs path).1.dirs) := by
  unfold makeDirs
  split_ifs with tooLong
  · exact ⟨rfl, fun _ held => held, fun _ held => .inl held, nofun⟩
  · obtain ⟨files, kept, added, complete⟩ := makeDirsFrom_plain path path [] [] false disk plain
    simp only [List.nil_append] at added complete
    exact ⟨files, kept, added, fun returned => ⟨Nat.lt_of_not_le tooLong, complete returned⟩⟩

@[simp] theorem mem_prune_dirs (target p : List String) :
    p ∈ (disk.prune target).dirs ↔ p ∈ disk.dirs ∧ ¬ target <+: p := by
  simp [prune, ← List.isPrefixOf_iff_prefix]

@[simp] theorem mem_prune_files (target p : List String) :
    p ∈ (disk.prune target).files ↔ p ∈ disk.files ∧ ¬ target <+: p := by
  simp [prune, ← List.isPrefixOf_iff_prefix]

@[simp] theorem mem_emptyBelow_dirs (target p : List String) :
    p ∈ (disk.emptyBelow target).dirs ↔ p ∈ disk.dirs ∧ ¬ (target <+: p ∧ p ≠ target) := by
  simp only [emptyBelow, mem_keep_dirs, Bool.not_eq_true', ← Bool.not_eq_true, strictlyBelow_iff]

@[simp] theorem mem_emptyBelow_files (target p : List String) :
    p ∈ (disk.emptyBelow target).files ↔ p ∈ disk.files ∧ ¬ (target <+: p ∧ p ≠ target) := by
  simp only [emptyBelow, mem_keep_files, Bool.not_eq_true', ← Bool.not_eq_true, strictlyBelow_iff]

/-- Nothing on the way to a path lies strictly below it. -/
theorem not_strictlyBelow_of_prefix {target p : List String} (onTheWay : p <+: target) :
    ¬ (target <+: p ∧ p ≠ target) :=
  fun ⟨below, different⟩ => different (List.IsPrefix.eq_of_length onTheWay (below.length_le.antisymm
    onTheWay.length_le).symm)

/-- A walk through the directories along a path without `..` reaches it. -/
theorem walk_through (path : List String) (plain : ".." ∉ path)
    (through : ∀ k, 0 < k → k ≤ path.length → path.take k ∈ disk.dirs) : disk.walk [] path = .ok path := by
  simpa [walk] using disk.walk_append [] path [] plain (by simpa using through)

/-- `rmtree` of a path without `..` that reaches a directory removes that
directory and everything below it, and returns: the second walk, by `rmdir`,
goes through the same directories, which the removal kept. -/
theorem rmtree_plain (path : List String) (plain : ".." ∉ path) (nonempty : path ≠ [])
    (reached : disk.resolve path = .ok path) (directory : path ∈ disk.dirs) :
    disk.rmtree path = (disk.prune path, .ok ()) := by
  have fits : ¬ pathMax ≤ (showPath path).utf8ByteSize := fun tooLong => by
    simp [resolve, tooLong] at reached
  have walked : disk.walk [] path = .ok path := by simpa [resolve, fits] using reached
  obtain ⟨-, through⟩ := disk.walk_plain_ok path [] path plain walked
  obtain ⟨parent, last, rfl⟩ : ∃ parent last, path = parent ++ [last] :=
    ⟨path.dropLast, path.getLast nonempty, (List.dropLast_append_getLast nonempty).symm⟩
  have notUp : last ≠ ".." := fun up => plain (List.mem_append_right _ (List.mem_singleton.mpr up.symm))
  have kept : ∀ k, 0 < k → k ≤ parent.length → parent.take k ∈ (disk.emptyBelow (parent ++ [last])).dirs := by
    intro k positive inside
    have member := through k positive (by simp; omega)
    rw [List.take_append_of_le_length inside] at member
    refine (disk.mem_emptyBelow_dirs _ _).mpr ⟨member, not_strictlyBelow_of_prefix ?_⟩
    exact (List.take_prefix k parent).trans (List.prefix_append _ _)
  have parentWalk := (disk.emptyBelow (parent ++ [last])).walk_through parent
    (fun up => plain (List.mem_append_left _ up)) kept
  have parentDirectory : (disk.emptyBelow (parent ++ [last])).isDirectory parent = true := by
    cases parent with
    | nil => rfl
    | cons first others =>
      simpa [isDirectory] using kept (first :: others).length (by simp) le_rfl
  have self : parent ++ [last] ∈ (disk.emptyBelow (parent ++ [last])).dirs :=
    (disk.mem_emptyBelow_dirs _ _).mpr ⟨directory, fun ⟨_, different⟩ => different rfl⟩
  have empty : (disk.emptyBelow (parent ++ [last])).holdsBelow (parent ++ [last]) = false := by
    simp [holdsBelow, emptyBelow, keep, List.any_eq_true]
  have removed : (disk.emptyBelow (parent ++ [last])).rmdir (parent ++ [last]) =
      .ok ((disk.emptyBelow (parent ++ [last])).keep (· != parent ++ [last]) fun _ => true) := by
    simp only [rmdir, fits, if_false, List.getLast?_concat, List.dropLast_concat, parentWalk, parentDirectory,
      Bool.not_true, Bool.false_eq_true, notUp, self, empty, if_true]
  have isDir : disk.isDirectory (parent ++ [last]) = true := by simp [isDirectory, directory]
  simp only [rmtree, reached, isDir, Bool.not_true, Bool.false_eq_true, if_false, removed, Prod.mk.injEq, and_true]
  apply Disk.ext
  · simp only [keep, emptyBelow, prune, List.filter_filter]
    refine List.filter_congr fun p _ => ?_
    by_cases same : p = parent ++ [last]
    · simp [same, strictlyBelow]
    · simp [strictlyBelow, bne_iff_ne.mpr same]
  · simp only [keep, emptyBelow, prune, List.filter_true]
    refine List.filter_congr fun p file => ?_
    have different : p ≠ parent ++ [last] := fun same => disk.disjoint p file (same ▸ directory)
    simp [strictlyBelow, different]

/-- `rmtree` of a path of directories followed by `..` empties the parent of
those directories, which the walk reaches; the `rmdir` after it walks the path
again, finds its last directory gone, and raises `FileNotFoundError`. -/
theorem rmtree_up (path : List String) (plain : ".." ∉ path) (nonempty : path ≠ [])
    (short : ∀ part ∈ path, part.utf8ByteSize ≤ nameMax)
    (fits : (showPath (path ++ [".."])).utf8ByteSize < pathMax)
    (through : ∀ k, 0 < k → k ≤ path.length → path.take k ∈ disk.dirs) :
    disk.rmtree (path ++ [".."]) =
      (disk.emptyBelow path.dropLast, .error (Errno.noEntry.error (path ++ [".."]))) := by
  have fits' : ¬ pathMax ≤ (showPath (path ++ [".."])).utf8ByteSize := Nat.not_le_of_lt fits
  have reached : disk.resolve (path ++ [".."]) = .ok path.dropLast := by
    rw [resolve, if_neg fits', disk.walk_append [".."] path [] plain (by simpa using through)]
    simp [walk]
  obtain ⟨parent, last, rfl⟩ : ∃ parent last, path = parent ++ [last] :=
    ⟨path.dropLast, path.getLast nonempty, (List.dropLast_append_getLast nonempty).symm⟩
  have notUp : last ≠ ".." := fun up => plain (List.mem_append_right _ (List.mem_singleton.mpr up.symm))
  have kept : ∀ k, 0 < k → k ≤ parent.length → parent.take k ∈ (disk.emptyBelow parent).dirs := by
    intro k positive inside
    have member := through k positive (by simp; omega)
    rw [List.take_append_of_le_length inside] at member
    exact (disk.mem_emptyBelow_dirs _ _).mpr ⟨member, not_strictlyBelow_of_prefix (List.take_prefix k parent)⟩
  have parentDirectory : disk.isDirectory parent = true := by
    cases parent with
    | nil => rfl
    | cons first others =>
      have := kept (first :: others).length (by simp) le_rfl
      simp only [List.take_length, mem_emptyBelow_dirs] at this
      simp [isDirectory, this.1]
  have gone : (disk.emptyBelow parent).walk parent [last] = .error .noEntry := by
    have below : parent <+: parent ++ [last] ∧ parent ++ [last] ≠ parent :=
      ⟨List.prefix_append _ _, by simp⟩
    have long : ¬ nameMax < last.utf8ByteSize :=
      Nat.not_lt_of_le (short last (List.mem_append_right _ (List.mem_singleton_self _)))
    simp [walk, notUp, below, long]
  have parentWalk : (disk.emptyBelow parent).walk [] (parent ++ [last]) = .error .noEntry := by
    rw [(disk.emptyBelow parent).walk_append [last] parent [] (fun up => plain (List.mem_append_left _ up))
      (by simpa using kept), List.nil_append, gone]
  have refused : (disk.emptyBelow parent).rmdir (parent ++ [last] ++ [".."]) = .error .noEntry := by
    simp only [rmdir, fits', if_false, List.getLast?_concat, List.dropLast_concat, parentWalk]
  simp only [rmtree, reached, List.dropLast_concat, parentDirectory, Bool.not_true, Bool.false_eq_true,
    if_false, refused]

/-- A disk whose directories directly below `root` are those of another, with
the same files, holds the same cache there. -/
theorem cacheAt_congr (other : Disk) (root : List String) (files : other.files = disk.files)
    (dirs : ∀ name, root ++ [name] ∈ other.dirs ↔ root ++ [name] ∈ disk.dirs) :
    other.cacheAt root = disk.cacheAt root := by
  funext name
  simp only [cacheAt, dirs, files]

/-- A disk with no directory directly below `root` holds no cache there. -/
theorem cacheAt_empty (root : List String) (none : ∀ name, root ++ [name] ∉ disk.dirs) :
    disk.cacheAt root = CacheRoot.empty :=
  funext fun name => if_neg (none name)

/-- A path one below the root is none of the root's prefixes. -/
theorem not_prefix_take (root : List String) (name : String) (k : Nat) : root ++ [name] ≠ root.take k := by
  intro same
  have lengths := congrArg List.length same
  simp only [List.length_take, List.length_append, List.length_singleton] at lengths
  omega

/-- Making the root's directories adds none of the models' directories, whether
it returns or raises. -/
theorem makeDirs_cacheAt (root : List String) (plain : ".." ∉ root) :
    (disk.makeDirs root).1.cacheAt root = disk.cacheAt root := by
  obtain ⟨files, kept, added, -⟩ := disk.makeDirs_plain root plain
  refine cacheAt_congr _ _ root files fun name => ⟨fun member => ?_, kept _⟩
  rcases added _ member with old | ⟨k, -, -, same⟩
  · exact old
  · exact absurd same (not_prefix_take root name k)

/-- Removing one model's directory empties its entry of the cache under the
root and keeps every other entry. -/
theorem prune_cacheAt (root : List String) (name : String) :
    (disk.prune (root ++ [name])).cacheAt root = Function.update (disk.cacheAt root) name none := by
  funext other
  by_cases same : other = name
  · subst same
    simp [cacheAt]
  · have apart : ¬ root ++ [name] <+: root ++ [other] := by simp [Ne.symm same]
    rw [Function.update_noteq same]
    simp only [cacheAt, mem_prune_dirs, apart, not_false_eq_true, and_true]
    congr 2
    simp only [prune, keep, List.filterMap_filter]
    refine List.filterMap_congr fun p _ => ?_
    by_cases inside : p.dropLast = root ++ [other]
    · have notBelow : ¬ root ++ [name] <+: p := by
        have present : p ≠ [] := fun empty => by simp [empty] at inside
        rw [← List.dropLast_append_getLast present, inside, List.append_assoc]
        simp [Ne.symm same]
      simp [List.isPrefixOf_iff_prefix, notBelow]
    · simp [inside]

/-- The `if` branch of `clear_cache`, on a path without `..` other than `/`:
the tree the path reaches goes when it is a directory, a file raises
`NotADirectoryError`, a path too long raises `ENAMETOOLONG`, and a missing
path leaves the disk as it is. -/
theorem removeIfExists_plain (path : List String) (plain : ".." ∉ path) (nonempty : path ≠ []) :
    disk.removeIfExists path =
      match disk.resolve path with
      | .ok _ => if path ∈ disk.dirs then (disk.prune path, .ok ())
        else (disk, .error (Errno.notDirectory.error path))
      | .error .nameTooLong => (disk, .error (Errno.nameTooLong.error path))
      | .error _ => (disk, .ok ()) := by
  unfold removeIfExists pathExists
  cases reached : disk.resolve path with
  | ok target =>
    have fits : ¬ pathMax ≤ (showPath path).utf8ByteSize := fun tooLong => by
      simp [resolve, tooLong] at reached
    have walked : disk.walk [] path = .ok target := by simpa [resolve, fits] using reached
    obtain ⟨same, -⟩ := disk.walk_plain_ok path [] target plain walked
    rw [List.nil_append] at same
    subst same
    simp only [proceed_ok, if_true]
    by_cases directory : target ∈ disk.dirs
    · rw [if_pos directory, disk.rmtree_plain target plain nonempty reached directory]
    · have file : disk.isDirectory target = false := by simp [isDirectory, directory, nonempty]
      simp only [if_neg directory, rmtree, reached, file, Bool.not_false, if_true]
  | error errno => cases errno <;> rfl

/-- `rmtree("/")` empties the disk and raises `EBUSY` from its `rmdir`. -/
theorem rmtree_root : disk.rmtree [] = (disk.emptyBelow [], .error (Errno.busy.error [])) := by
  have fits : ¬ pathMax ≤ (showPath []).utf8ByteSize := by decide
  simp only [rmtree, resolve, fits, if_false, walk, isDirectory, List.isEmpty_nil, Bool.true_or, Bool.not_true,
    Bool.false_eq_true, rmdir, List.getLast?_nil]

/-- The `else` branch of `clear_cache` leaves no directory directly below the
root, whether it returns or raises. -/
theorem clearRoot_empties (root : List String) (plain : ".." ∉ root)
    (fits : (showPath root).utf8ByteSize < pathMax)
    (through : ∀ k, 0 < k → k ≤ root.length → root.take k ∈ disk.dirs) (name : String) :
    root ++ [name] ∉ (disk.clearRoot root).1.dirs := by
  have reached : disk.resolve root = .ok root := by
    rw [resolve, if_neg (Nat.not_le_of_lt fits), disk.walk_through root plain through]
  have present : disk.pathExists root = .ok true := by simp [pathExists, reached]
  simp only [clearRoot, present, proceed_ok, if_true]
  by_cases top : root = []
  · subst top
    simp [rmtree_root]
  · have directory : root ∈ disk.dirs := by simpa using through root.length (List.length_pos.mpr top) le_rfl
    rw [disk.rmtree_plain root plain top reached directory]
    intro member
    rcases ((disk.prune root).makeDirs_plain root plain).2.2.1 _ member with pruned | ⟨k, -, -, same⟩
    · exact ((disk.mem_prune_dirs _ _).mp pruned).2 (List.prefix_append _ _)
    · exact not_prefix_take root name k same

/-- Clearing the path of one model's directory below the root empties that
entry of the cache under the root and keeps the others, whatever the outcome. -/
theorem removeIfExists_cacheAt (root : List String) (part : String) (plain : ".." ∉ root) (notUp : part ≠ "..")
    (fits : (showPath (root ++ [part])).utf8ByteSize < pathMax)
    (through : ∀ k, 0 < k → k ≤ root.length → root.take k ∈ disk.dirs) :
    (disk.removeIfExists (root ++ [part])).1.cacheAt root = Function.update (disk.cacheAt root) part none := by
  have walked : disk.resolve (root ++ [part]) = disk.walk root [part] := by
    rw [resolve, if_neg (Nat.not_le_of_lt fits), disk.walk_append [part] root [] plain (by simpa using through)]
    rfl
  have joinedPlain : ".." ∉ root ++ [part] := by
    simpa [plain] using Ne.symm notUp
  rw [disk.removeIfExists_plain _ joinedPlain (by simp)]
  by_cases directory : root ++ [part] ∈ disk.dirs
  · have reached : disk.resolve (root ++ [part]) = .ok (root ++ [part]) := by
      rw [walked]
      simp [walk, notUp, directory]
    simp only [reached, if_pos directory, prune_cacheAt]
  · rw [Function.update_eq_self_iff.mpr (if_neg directory).symm]
    split
    · rw [if_neg directory]
    · rfl
    · rfl

end Lemmas

end Disk

/-- The part of the cache a name reaches, for the names that reach the whole
root or one model's directory: no name, the empty name, and a name that does
not start with `/` whose parts are none or one that is not `..`. -/
def flatTarget : Option String → Option ClearTarget
  | none => some .all
  | some name =>
    if name.isEmpty then some .all
    else if name.data.head? = some '/' then none
    else match pathParts name with
      | [] => some .all
      | [part] => if part = ".." then none else some (.model part)
      | _ => none

/-- `clear_cache("..")` is not rejected. `get_model_path` joins `..` onto the
cache root, and the walk climbs to the root's parent, which `rmtree` empties:
the root with every model in it goes, and so does every path beside the root.
The `rmdir` that ends `rmtree` then walks `root/..` again, finds the root gone,
and raises `FileNotFoundError`; the parent stays, empty. -/
theorem clear_parent_of_root (disk made : Disk) (root : List String) (plain : ".." ∉ root) (nested : root ≠ [])
    (short : ∀ part ∈ root, part.utf8ByteSize ≤ nameMax)
    (fits : (showPath (root ++ [".."])).utf8ByteSize < pathMax)
    (rootMade : disk.makeDirs root = (made, .ok ())) :
    disk.clearCache root (some "..") =
        (made.emptyBelow root.dropLast, .error (Errno.noEntry.error (root ++ [".."]))) ∧
      (∀ p, (p ∈ (made.emptyBelow root.dropLast).dirs ∨ p ∈ (made.emptyBelow root.dropLast).files) ↔
        (p ∈ made.dirs ∨ p ∈ made.files) ∧ ¬ (root.dropLast <+: p ∧ p ≠ root.dropLast)) ∧
      (made.emptyBelow root.dropLast).cacheAt root = CacheRoot.empty ∧
      listCachedModels ((made.emptyBelow root.dropLast).cacheAt root) = [] := by
  obtain ⟨-, -, -, returned⟩ := disk.makeDirs_plain root plain
  rw [rootMade] at returned
  obtain ⟨-, through⟩ := returned rfl
  have joined : joinPath root ".." = root ++ [".."] := rfl
  have present : made.pathExists (root ++ [".."]) = .ok true := by
    rw [Disk.pathExists, Disk.resolve, if_neg (Nat.not_le_of_lt fits),
      made.walk_append [".."] root [] plain (by simpa using through)]
    rfl
  have emptied : (made.emptyBelow root.dropLast).cacheAt root = CacheRoot.empty :=
    Disk.cacheAt_empty _ root fun name member => ((made.mem_emptyBelow_dirs _ _).mp member).2
      ⟨(List.dropLast_prefix root).trans (List.prefix_append _ _), fun same => by
        have lengths := congrArg List.length same
        simp only [List.length_append, List.length_singleton, List.length_dropLast] at lengths
        omega⟩
  refine ⟨?_, fun p => ?_, emptied, by rw [emptied]; rfl⟩
  · simp only [Disk.clearCache, rootMade, String.isEmpty, joined, Disk.removeIfExists, present, proceed_ok,
      if_true]
    exact made.rmtree_up root plain nested short fits through
  · rw [Disk.mem_emptyBelow_dirs, Disk.mem_emptyBelow_files, ← or_and_right]

/-- For every name without a `..` component whose joined path is not `/`,
`clear_cache(name)` leaves the disk as `get_cache_dir`'s `mkdir` made it, but
for the tree at the path pathlib joins: that tree goes when the path reaches a
directory, a file there raises `NotADirectoryError`, a path too long raises
`ENAMETOOLONG`, and a missing path changes nothing. For a name that does not
start with `/`, nothing outside the root goes, whatever the outcome. -/
theorem clearCache_removes_joined (disk made : Disk) (root : List String) (name : String)
    (plain : ".." ∉ root) (noParent : ".." ∉ pathParts name) (named : name ≠ "")
    (nonRoot : joinPath root name ≠ []) (rootMade : disk.makeDirs root = (made, .ok ())) :
    disk.clearCache root (some name) =
        (match made.resolve (joinPath root name) with
          | .ok _ => if joinPath root name ∈ made.dirs then (made.prune (joinPath root name), .ok ())
            else (made, .error (Errno.notDirectory.error (joinPath root name)))
          | .error .nameTooLong => (made, .error (Errno.nameTooLong.error (joinPath root name)))
          | .error _ => (made, .ok ())) ∧
      (name.data.head? ≠ some '/' → ∀ p, ¬ root <+: p →
        (p ∈ (disk.clearCache root (some name)).1.dirs ↔ p ∈ made.dirs) ∧
          (p ∈ (disk.clearCache root (some name)).1.files ↔ p ∈ made.files)) := by
  have nonempty : name.isEmpty = false :=
    Bool.eq_false_iff.mpr fun empty => named ((String.isEmpty_iff name).mp empty)
  have joinedPlain : ".." ∉ joinPath root name := by
    unfold joinPath
    split_ifs
    · exact noParent
    · simp [plain, noParent]
  have cleared : disk.clearCache root (some name) = made.removeIfExists (joinPath root name) := by
    simp only [Disk.clearCache, rootMade, nonempty, Bool.false_eq_true, if_false]
  rw [cleared, made.removeIfExists_plain _ joinedPlain nonRoot]
  refine ⟨rfl, fun relative p outside => ?_⟩
  have apart : ¬ joinPath root name <+: p := fun below => by
    rw [joinPath, if_neg relative] at below
    exact outside ((List.prefix_append _ _).trans below)
  split
  · split_ifs <;> simp [apart]
  · exact ⟨Iff.rfl, Iff.rfl⟩
  · exact ⟨Iff.rfl, Iff.rfl⟩

/-- The disk's `clear_cache` refines the flat one. For no name, the empty name,
and every name that does not start with `/` and whose parts are none or one
that is not `..`, with a joined path shorter than `PATH_MAX`, it leaves under
the root the cache that `clearCache` leaves of the flat cache, whether it
returns or raises. -/
theorem clearCache_refines (disk made : Disk) (root : List String) (modelName : Option String)
    (target : ClearTarget) (plain : ".." ∉ root) (rootMade : disk.makeDirs root = (made, .ok ()))
    (targeted : flatTarget modelName = some target)
    (fits : ∀ name ∈ modelName, (showPath (joinPath root name)).utf8ByteSize < pathMax) :
    (disk.clearCache root modelName).1.cacheAt root = clearCache (disk.cacheAt root) target := by
  obtain ⟨-, -, -, returned⟩ := disk.makeDirs_plain root plain
  rw [rootMade] at returned
  obtain ⟨rootFits, through⟩ := returned rfl
  have cached : made.cacheAt root = disk.cacheAt root := by
    rw [← disk.makeDirs_cacheAt root plain, rootMade]
  have reachedRoot : made.resolve root = .ok root := by
    rw [Disk.resolve, if_neg (Nat.not_le_of_lt rootFits), made.walk_through root plain through]
  have allGone : (made.clearRoot root).1.cacheAt root = CacheRoot.empty :=
    Disk.cacheAt_empty _ root (made.clearRoot_empties root plain rootFits through)
  cases modelName with
  | none =>
    cases targeted
    simp only [Disk.clearCache, rootMade, allGone, clearCache]
  | some name =>
    simp only [flatTarget] at targeted
    by_cases blank : name.isEmpty
    · simp only [blank, if_true, Option.some.injEq] at targeted
      subst targeted
      simp only [Disk.clearCache, rootMade, blank, if_true, allGone, clearCache]
    simp only [blank, Bool.false_eq_true, if_false] at targeted
    split_ifs at targeted with absolute
    have relative : joinPath root name = root ++ pathParts name := by rw [joinPath, if_neg absolute]
    have cleared : disk.clearCache root (some name) = made.removeIfExists (root ++ pathParts name) := by
      simp only [Disk.clearCache, rootMade, blank, Bool.false_eq_true, if_false, relative]
    rw [cleared]
    split at targeted
    · rename_i noParts
      cases targeted
      rw [noParts, List.append_nil]
      simp only [clearCache]
      apply Disk.cacheAt_empty
      intro part member
      by_cases top : root = []
      · subst top
        simp only [Disk.removeIfExists, Disk.pathExists, reachedRoot, proceed_ok, if_true, made.rmtree_root,
          Disk.mem_emptyBelow_dirs] at member
        exact member.2 ⟨List.nil_prefix, List.cons_ne_nil _ _⟩
      · have directory : root ∈ made.dirs := by
          simpa using through root.length (List.length_pos.mpr top) le_rfl
        simp only [Disk.removeIfExists, Disk.pathExists, reachedRoot, proceed_ok, if_true,
          made.rmtree_plain root plain top reachedRoot directory, Disk.mem_prune_dirs] at member
        exact member.2 (List.prefix_append _ _)
    · rename_i part onePart
      split_ifs at targeted with up
      cases targeted
      have fitsPart : (showPath (root ++ [part])).utf8ByteSize < pathMax := by
        simpa [relative, onePart] using fits name rfl
      rw [onePart, made.removeIfExists_cacheAt root part plain up fitsPart through, cached]
      rfl
    · cases targeted

/-- A cache at `/data/models` holding one model, beside a directory of notes. -/
def siblingDisk : Disk :=
  ⟨[["data"], ["data", "models"], ["data", "models", "qwen3-0.6b-4bit"], ["data", "notes"], ["etc"]],
    [["data", "models", "qwen3-0.6b-4bit", "config.json"], ["data", "notes", "todo.txt"]], by decide⟩

/-- On it, `clear_cache("..")` removes everything in `/data`, the cached model
and the notes beside the cache root, keeps `/data` and `/etc`, and raises. -/
theorem clear_parent_removes_notes :
    ".." ∉ ["data", "models"] ∧ ["data", "models"] ≠ [] ∧
      (∀ part ∈ ["data", "models"], part.utf8ByteSize ≤ nameMax) ∧
      (showPath (["data", "models"] ++ [".."])).utf8ByteSize < pathMax ∧
      siblingDisk.makeDirs ["data", "models"] = (siblingDisk, .ok ()) ∧
      siblingDisk.clearCache ["data", "models"] (some "..") =
        (siblingDisk.emptyBelow ["data"], .error ⟨"FileNotFoundError",
          "[Errno 2] No such file or directory: '/data/models/..'"⟩) ∧
      (∀ p, (p ∈ (siblingDisk.emptyBelow ["data"]).dirs ∨ p ∈ (siblingDisk.emptyBelow ["data"]).files) ↔
        (p ∈ siblingDisk.dirs ∨ p ∈ siblingDisk.files) ∧ ¬ (["data"] <+: p ∧ p ≠ ["data"])) ∧
      (siblingDisk.emptyBelow ["data"]).cacheAt ["data", "models"] = CacheRoot.empty ∧
      listCachedModels ((siblingDisk.emptyBelow ["data"]).cacheAt ["data", "models"]) = [] :=
  have short : ∀ part ∈ ["data", "models"], part.utf8ByteSize ≤ nameMax := by decide
  ⟨by decide, by decide, short, by decide, rfl,
    clear_parent_of_root siblingDisk siblingDisk ["data", "models"] (by decide) (by decide) short (by decide) rfl⟩

/-- On it, `clear_cache("/data/notes")` is not confined to the cache root: the
name replaces the root, and the notes beside the root go. -/
theorem absolute_name_clears_notes :
    ".." ∉ ["data", "models"] ∧ ".." ∉ pathParts "/data/notes" ∧ "/data/notes" ≠ "" ∧
      joinPath ["data", "models"] "/data/notes" ≠ [] ∧
      siblingDisk.makeDirs ["data", "models"] = (siblingDisk, .ok ()) ∧
      siblingDisk.clearCache ["data", "models"] (some "/data/notes") =
        (siblingDisk.prune ["data", "notes"], .ok ()) ∧
      siblingDisk.clearCache ["data", "models"] (some "/data/notes") =
        (match siblingDisk.resolve (joinPath ["data", "models"] "/data/notes") with
          | .ok _ => if joinPath ["data", "models"] "/data/notes" ∈ siblingDisk.dirs
            then (siblingDisk.prune (joinPath ["data", "models"] "/data/notes"), .ok ())
            else (siblingDisk, .error (Errno.notDirectory.error (joinPath ["data", "models"] "/data/notes")))
          | .error .nameTooLong =>
            (siblingDisk, .error (Errno.nameTooLong.error (joinPath ["data", "models"] "/data/notes")))
          | .error _ => (siblingDisk, .ok ())) ∧
      ("/data/notes".data.head? ≠ some '/' → ∀ p, ¬ ["data", "models"] <+: p →
        (p ∈ (siblingDisk.clearCache ["data", "models"] (some "/data/notes")).1.dirs ↔ p ∈ siblingDisk.dirs) ∧
          (p ∈ (siblingDisk.clearCache ["data", "models"] (some "/data/notes")).1.files ↔
            p ∈ siblingDisk.files)) :=
  ⟨by decide, by decide, by decide, by decide, rfl, rfl,
    clearCache_removes_joined siblingDisk siblingDisk ["data", "models"] "/data/notes" (by decide) (by decide)
      (by decide) (by decide) rfl⟩

/-- On it, `clear_cache("qwen3-0.6b-4bit/")` reaches the model's directory and
does to the cache under the root what the flat `clearCache` does. -/
theorem clear_model_on_disk_refines :
    ".." ∉ ["data", "models"] ∧ siblingDisk.makeDirs ["data", "models"] = (siblingDisk, .ok ()) ∧
      flatTarget (some "qwen3-0.6b-4bit/") = some (.model "qwen3-0.6b-4bit") ∧
      (∀ name ∈ some "qwen3-0.6b-4bit/",
        (showPath (joinPath ["data", "models"] name)).utf8ByteSize < pathMax) ∧
      (siblingDisk.clearCache ["data", "models"] (some "qwen3-0.6b-4bit/")).1.cacheAt ["data", "models"] =
        clearCache (siblingDisk.cacheAt ["data", "models"]) (.model "qwen3-0.6b-4bit") :=
  have fits : ∀ name ∈ some "qwen3-0.6b-4bit/",
      (showPath (joinPath ["data", "models"] name)).utf8ByteSize < pathMax := by
    rintro _ ⟨⟩
    decide
  ⟨by decide, rfl, rfl, fits, clearCache_refines siblingDisk siblingDisk ["data", "models"] _ _ (by decide) rfl
    rfl fits⟩

end AkidbEmbedding.Cache
