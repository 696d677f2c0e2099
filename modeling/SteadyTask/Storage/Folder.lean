import SteadyTask.Storage.Path

/-!
# Folders

A tree of folders and text files, as far as a program can come upon it.  A folder is there if it is
named as one or if anything is below it.  A path is followed name by name: before the next name
counts, also before two dots lead up again, there must be a folder.

The main statement is `read_append`: what is written at the end of a file is read there after what
the file had before.
-/

namespace SteadyTask.Storage

/-- A tree of folders and files. -/
structure Folder where
  folders : List Place
  files : List (Place × String)
  deriving Repr, DecidableEq, Inhabited

namespace Folder

/-- Why there is nothing at the end of a path that can be used. -/
inductive Fault where
  /-- A name leads to nothing. -/
  | missing
  /-- What a name leads to is no folder where there must be one, or no file, or the name is too
  long. -/
  | unfit
  deriving Repr, DecidableEq

/-! ## What is there -/

/-- The text of the file at a place. -/
def text? (f : Folder) (place : Place) : Option String :=
  f.files.lookup place

/-- Whether there is a folder at a place. -/
def isFolder (f : Folder) (place : Place) : Bool :=
  place.isEmpty || f.folders.any (fun folder => folder == place || folder.isBelow place) ||
    f.files.any fun file => file.1.isBelow place

/-! ## Following paths -/

/-- The place that a name leads to from a folder, whatever is there. -/
def enter (place : Place) (name : String) : Except Fault Place :=
  if isLongName name then .error .unfit else .ok (place.go name)

/-- Follows names from a folder to a folder. -/
def descend (f : Folder) : Place → List String → Except Fault Place
  | place, [] => .ok place
  | place, name :: rest =>
    match enter place name with
    | .error e => .error e
    | .ok next =>
      if f.isFolder next then f.descend next rest
      else .error (if (f.text? next).isSome then .unfit else .missing)

/-- The place at the end of a path, whatever is there. -/
def follow (f : Folder) (p : Path) : Except Fault Place :=
  if p.canBeFollowed then
    match f.descend [] p.names.dropLast, p.names.getLast? with
    | .error e, _ => .error e
    | .ok place, none => .ok place
    | .ok place, some name => enter place name
  else .error .unfit

/-- Reads the file at the end of a path. -/
def read (f : Folder) (p : Path) : Except Fault String :=
  match f.follow p with
  | .error e => .error e
  | .ok place =>
    match f.text? place with
    | some text => if p.endsAtFolder then .error .unfit else .ok text
    | none => .error (if f.isFolder place then .unfit else .missing)

/-- The text of the file at the end of a path, if there is a file. -/
def textAt? (f : Folder) (p : Path) : Option String :=
  (f.read p).toOption

/-- Whether a path leads to a folder. -/
def leadsToFolder (f : Folder) (p : Path) : Bool :=
  match f.follow p with
  | .ok place => f.isFolder place
  | .error _ => false

/-- Whether a path leads to a file or a folder. -/
def contains (f : Folder) (p : Path) : Bool :=
  (f.textAt? p).isSome || f.leadsToFolder p

/-! ## Writing -/

/-- Adds a folder. -/
def addFolder (f : Folder) (place : Place) : Folder :=
  if f.isFolder place then f else { f with folders := place :: f.folders }

/-- Follows names from a folder and makes each folder that is missing, as far as that goes. -/
def makeFolders (f : Folder) (place : Place) : List String → Folder
  | [] => f
  | name :: rest =>
    match enter place name with
    | .error _ => f
    | .ok next =>
      if (f.text? next).isSome then f else (f.addFolder next).makeFolders next rest

/-- Replaces the text of a file, or adds a file. -/
def put (place : Place) (text : String) : List (Place × String) → List (Place × String)
  | [] => [(place, text)]
  | (other, old) :: rest =>
    if other = place then (place, text) :: rest else (other, old) :: put place text rest

/-- The place at the end of a path, if a file is there or can be made. -/
def filePlace? (f : Folder) (p : Path) : Option Place :=
  if p.endsAtFolder then none
  else (f.follow p).toOption.filter fun place => !f.isFolder place

/-- Puts a file in the place of the one that is there, if any. -/
def withFile (f : Folder) (place : Place) (text : String) : Folder :=
  { f with files := put place text f.files }

/-- Adds text at the end of a file, and tells whether that could be done.  A missing file is made,
and so are missing folders on the way to it; these stay even if there can be no file. -/
def append (f : Folder) (p : Path) (text : String) : Folder × Bool :=
  let f := if p.canBeFollowed then f.makeFolders [] p.names.dropLast else f
  match f.filePlace? p with
  | none => (f, false)
  | some place => (f.withFile place ((f.text? place).getD "" ++ text), true)

/-! ## Reading what was written -/

@[simp]
theorem lookup_put_self (place : Place) (text : String) (files : List (Place × String)) :
    (put place text files).lookup place = some text := by
  induction files with
  | nil => simp [put]
  | cons file rest ih =>
    obtain ⟨other, old⟩ := file
    by_cases h : other = place
    · simp [put, h]
    · have hne : (place == other) = false := by simpa using fun e => h e.symm
      simp [put, h, List.lookup_cons, hne, ih]

/-- No file vanishes when another one is written. -/
theorem any_put (test : Place → Bool) {place : Place} {text : String}
    {files : List (Place × String)} (h : files.any (fun file => test file.1) = true) :
    (put place text files).any (fun file => test file.1) = true := by
  induction files with
  | nil => simp at h
  | cons file rest ih =>
    obtain ⟨other, old⟩ := file
    by_cases hp : other = place
    · simpa [put, hp] using h
    · simp only [List.any_cons, Bool.or_eq_true] at h
      rcases h with h | h
      · simp [put, hp, h]
      · simp [put, hp, ih h]

@[simp]
theorem text?_withFile_self (f : Folder) (place : Place) (text : String) :
    (f.withFile place text).text? place = some text := by
  simp [text?, withFile]

/-- A folder stays one when a file is written. -/
theorem isFolder_withFile {f : Folder} {place other : Place} {text : String}
    (h : f.isFolder other = true) : (f.withFile place text).isFolder other = true := by
  simp only [isFolder, Bool.or_eq_true, withFile] at h ⊢
  exact h.imp_right (any_put fun file => file.isBelow other)

theorem descend_withFile {f : Folder} {place : Place} {text : String} {names : List String}
    {start stop : Place} (h : f.descend start names = .ok stop) :
    (f.withFile place text).descend start names = .ok stop := by
  induction names generalizing start with
  | nil => simpa [descend] using h
  | cons name rest ih =>
    rw [descend] at h ⊢
    split at h
    · simp at h
    · rename_i next _
      by_cases hf : f.isFolder next = true
      · simp only [hf, if_true] at h
        simp [isFolder_withFile hf, ih h]
      · simp [hf] at h

/-- A path leads where it led before when a file is written. -/
theorem follow_withFile {f : Folder} {p : Path} {place stop : Place} {text : String}
    (h : f.follow p = .ok stop) : (f.withFile place text).follow p = .ok stop := by
  unfold follow at h ⊢
  split at h
  · rename_i hp
    cases hd : f.descend [] p.names.dropLast with
    | error e => simp [hd] at h
    | ok start => simpa [hp, hd, descend_withFile hd] using h
  · simp at h

@[simp]
theorem files_addFolder (f : Folder) (place : Place) : (f.addFolder place).files = f.files := by
  unfold addFolder
  split <;> rfl

/-- Making folders leaves all files as they are. -/
@[simp]
theorem files_makeFolders (f : Folder) (place : Place) (names : List String) :
    (f.makeFolders place names).files = f.files := by
  induction names generalizing f place with
  | nil => rfl
  | cons name rest ih =>
    rw [makeFolders]
    split
    · rfl
    · split
      · rfl
      · simp [ih]

/-- What was added at the end of a file is read there, after the text that the file had. -/
theorem read_append {f after : Folder} {p : Path} {text : String}
    (h : f.append p text = (after, true)) :
    ∃ place, after.follow p = .ok place ∧
      after.read p = .ok ((f.text? place).getD "" ++ text) := by
  unfold append at h
  generalize hm : (if p.canBeFollowed then f.makeFolders [] p.names.dropLast else f) = made at h
  have hfiles : made.files = f.files := by
    rw [← hm]
    split <;> simp
  cases hp : made.filePlace? p with
  | none => simp [hp] at h
  | some place =>
    simp only [hp, Prod.mk.injEq, and_true] at h
    unfold filePlace? at hp
    split at hp
    · simp at hp
    · rename_i hend
      have hfollow : made.follow p = .ok place := by
        cases hf : made.follow p with
        | error e => simp [hf, Except.toOption] at hp
        | ok stop => simp_all [Except.toOption, Option.filter]
      refine ⟨place, h ▸ follow_withFile hfollow, ?_⟩
      have htext : made.text? place = f.text? place := by rw [text?, text?, hfiles]
      simp [read, ← h, follow_withFile hfollow, hend, htext]

end Folder

end SteadyTask.Storage
